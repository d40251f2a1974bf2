import MyVault.Saf.Bridge

/-!
# Who holds the slot

A command touches a session only under the id and the root the session was begun with
(`Slots`), and a command of another session leaves everything as it is while a session is
open (`run_eq_of_foreign`).
-/

namespace MyVault
namespace Saf

open Program

variable {android : Android} {plugin plugin' : Plugin} {id root : String}

/-- The id and the root of the read session. -/
def readSlot (plugin : Plugin) : Option (String × String) :=
  plugin.binaryReadSession.map fun session => (session.id, session.rootIdentityHex)

/-- The write session of a plugin, by its id and root. -/
def writeSlot (plugin : Plugin) : Option (String × String) :=
  plugin.binaryWriteSession.map fun session => (session.id, session.rootIdentityHex)

theorem classify_slot {slot : Option (String × String)} :
    classifyBinarySessionOwnership (slot.map Prod.fst) (slot.map Prod.snd) (some id) (some root) =
      .owner ↔ slot = some (id, root) := by
  cases slot with
  | none => simp [classifyBinarySessionOwnership]
  | some pair =>
      obtain ⟨a, b⟩ := pair
      simp only [classifyBinarySessionOwnership, Option.map_some, reduceCtorEq, false_and,
        if_false, Option.some.injEq, Prod.mk.injEq]
      split
      · rename_i h
        exact iff_of_true rfl h
      · rename_i h
        exact iff_of_false nofun h

theorem readOwnership_eq_owner :
    readOwnership plugin id root = .owner ↔ readSlot plugin = some (id, root) := by
  rw [← classify_slot, readOwnership, readSlot, Option.map_map, Option.map_map]
  rfl

theorem writeOwnership_eq_owner :
    writeOwnership plugin id root = .owner ↔ writeSlot plugin = some (id, root) := by
  rw [← classify_slot, writeOwnership, writeSlot, Option.map_map, Option.map_map]
  rfl

theorem activeBinarySessionId_eq_none :
    activeBinarySessionId plugin = none ↔
      plugin.binaryReadSession = none ∧ plugin.binaryWriteSession = none := by
  rw [activeBinarySessionId]
  cases plugin.binaryReadSession <;> simp

/-! ## What a command leaves of the sessions -/

/-- Only calls have been made. -/
def Calls (plugin plugin' : Plugin) : Prop := ∃ n, plugin' = { plugin with calls := n }

instance : Std.Refl Calls := ⟨fun plugin => ⟨plugin.calls, rfl⟩⟩

instance : IsTrans Plugin Calls := by
  refine ⟨fun _ _ _ h h' => ?_⟩
  obtain ⟨n, rfl⟩ := h
  obtain ⟨n', rfl⟩ := h'
  exact ⟨n', rfl⟩

/-- A session is as it was, or closed. -/
def Loses (plugin plugin' : Plugin) : Prop :=
  (plugin'.binaryReadSession = none ∨ plugin'.binaryReadSession = plugin.binaryReadSession) ∧
    (plugin'.binaryWriteSession = none ∨ plugin'.binaryWriteSession = plugin.binaryWriteSession)

instance : Std.Refl Loses := ⟨fun _ => ⟨Or.inr rfl, Or.inr rfl⟩⟩

instance : IsTrans Plugin Loses := by
  refine ⟨fun _ _ _ h h' => ⟨?_, ?_⟩⟩
  · rcases h'.1 with hnone | hsame
    · exact Or.inl hnone
    · rw [hsame]
      exact h.1
  · rcases h'.2 with hnone | hsame
    · exact Or.inl hnone
    · rw [hsame]
      exact h.2

/-- A session after is one from before, or is of this id and root. -/
def Slots (id root : String) (plugin plugin' : Plugin) : Prop :=
  (∀ slot ∈ readSlot plugin', slot = (id, root) ∨ slot ∈ readSlot plugin) ∧
    ∀ slot ∈ writeSlot plugin', slot = (id, root) ∨ slot ∈ writeSlot plugin

instance : Std.Refl (Slots id root) := ⟨fun _ => ⟨fun _ h => Or.inr h, fun _ h => Or.inr h⟩⟩

instance : IsTrans Plugin (Slots id root) :=
  ⟨fun _ _ _ h h' => ⟨fun slot hslot => (h'.1 slot hslot).elim Or.inl (h.1 slot),
    fun slot hslot => (h'.2 slot hslot).elim Or.inl (h.2 slot)⟩⟩

theorem Calls.loses (h : Calls plugin plugin') : Loses plugin plugin' := by
  obtain ⟨n, rfl⟩ := h
  exact ⟨Or.inr rfl, Or.inr rfl⟩

theorem Loses.readSlot (h : Loses plugin plugin') {slot : String × String}
    (hslot : slot ∈ Saf.readSlot plugin') : slot ∈ Saf.readSlot plugin := by
  rw [Saf.readSlot] at hslot ⊢
  rcases h.1 with hread | hread <;> rw [hread] at hslot
  · exact nomatch hslot
  · exact hslot

theorem Loses.writeSlot (h : Loses plugin plugin') {slot : String × String}
    (hslot : slot ∈ Saf.writeSlot plugin') : slot ∈ Saf.writeSlot plugin := by
  rw [Saf.writeSlot] at hslot ⊢
  rcases h.2 with hwrite | hwrite <;> rw [hwrite] at hslot
  · exact nomatch hslot
  · exact hslot

theorem Loses.slots (h : Loses plugin plugin') : Slots id root plugin plugin' :=
  ⟨fun _ hslot => Or.inr (h.readSlot hslot), fun _ hslot => Or.inr (h.writeSlot hslot)⟩

instance (priority := low) keeps_loses_of_calls {ε α : Type} {p : Program Plugin ε α}
    [hp : Keeps Calls p] : Keeps Loses p := hp.mono fun _ _ => Calls.loses

instance (priority := low) keeps_slots_of_loses {ε α : Type} {p : Program Plugin ε α}
    [hp : Keeps Loses p] : Keeps (Slots id root) p := hp.mono fun _ _ => Loses.slots

theorem closeBinaryReadSession_cases (expected : Option String) (plugin : Plugin) :
    closeBinaryReadSession expected plugin = plugin ∨
      closeBinaryReadSession expected plugin = { plugin with binaryReadSession := none } := by
  rw [closeBinaryReadSession]
  split
  · exact Or.inl rfl
  · split
    · exact Or.inl rfl
    · exact Or.inr rfl

theorem closeBinaryWriteSession_cases (expected : Option String) (plugin : Plugin) :
    closeBinaryWriteSession expected plugin = plugin ∨
      closeBinaryWriteSession expected plugin = { plugin with binaryWriteSession := none } := by
  rw [closeBinaryWriteSession]
  split
  · exact Or.inl rfl
  · split
    · exact Or.inl rfl
    · exact Or.inr rfl

theorem closeBinaryReadSession_none (plugin : Plugin) :
    closeBinaryReadSession none plugin = { plugin with binaryReadSession := none } := by
  obtain ⟨rootUri, permitted, inFlight, session, _⟩ := plugin
  cases session <;> rfl

theorem closeBinaryWriteSession_none (plugin : Plugin) :
    closeBinaryWriteSession none plugin = { plugin with binaryWriteSession := none } := by
  obtain ⟨rootUri, permitted, inFlight, readSession, session, _⟩ := plugin
  cases session <;> rfl

theorem clearRoot_eq (plugin : Plugin) :
    clearRoot plugin =
      { plugin with rootUri := none, binaryReadSession := none, binaryWriteSession := none } := by
  rw [clearRoot, closeBinaryReadSession_none, closeBinaryWriteSession_none]

theorem clearRootIfMatches_cases (plugin : Plugin) :
    clearRootIfMatches android root plugin = plugin ∨
      clearRootIfMatches android root plugin = clearRoot plugin := by
  rw [clearRootIfMatches]
  split
  · exact Or.inl rfl
  · split
    · exact Or.inr rfl
    · exact Or.inl rfl

section Keeps

variable {ε : Type}

instance keeps_loses_closeRead {expected : Option String} :
    Keeps Loses (write (closeBinaryReadSession expected) : Program Plugin ε Unit) := by
  refine .write fun plugin => ?_
  rcases closeBinaryReadSession_cases expected plugin with h | h <;> rw [h]
  · exact Std.Refl.refl _
  · exact ⟨Or.inl rfl, Or.inr rfl⟩

instance keeps_loses_closeWrite {expected : Option String} :
    Keeps Loses (write (closeBinaryWriteSession expected) : Program Plugin ε Unit) := by
  refine .write fun plugin => ?_
  rcases closeBinaryWriteSession_cases expected plugin with h | h <;> rw [h]
  · exact Std.Refl.refl _
  · exact ⟨Or.inr rfl, Or.inl rfl⟩

instance keeps_loses_clearRoot :
    Keeps Loses (write clearRoot : Program Plugin ε Unit) :=
  .write fun plugin => by
    rw [clearRoot_eq]
    exact ⟨Or.inl rfl, Or.inl rfl⟩

instance keeps_loses_clearRootIfMatches {expected : String} :
    Keeps Loses
      (write (clearRootIfMatches android expected) : Program Plugin ε Unit) := by
  refine .write fun plugin => ?_
  rcases clearRootIfMatches_cases plugin with h | h <;> rw [h]
  · exact Std.Refl.refl _
  · rw [clearRoot_eq]
    exact ⟨Or.inl rfl, Or.inl rfl⟩

/-- A write that leaves the sessions. -/
theorem keeps_loses_write {f : Plugin → Plugin}
    (hread : ∀ plugin, (f plugin).binaryReadSession = plugin.binaryReadSession)
    (hwrite : ∀ plugin, (f plugin).binaryWriteSession = plugin.binaryWriteSession) :
    Keeps Loses (write f : Program Plugin ε Unit) :=
  .write fun plugin => ⟨Or.inr (hread plugin), Or.inr (hwrite plugin)⟩

/-- A session of the id and the root may be written. -/
theorem keeps_slots_setRead {session : BinaryReadSession}
    (h : (session.id, session.rootIdentityHex) = (id, root)) :
    Keeps (Slots id root) (write fun plugin =>
      { plugin with binaryReadSession := some session } : Program Plugin ε Unit) := by
  refine .write fun plugin => ⟨fun slot hslot => Or.inl ?_, fun slot hslot => Or.inr hslot⟩
  cases hslot
  exact h

theorem keeps_slots_setWrite {session : BinaryWriteSession}
    (h : (session.id, session.rootIdentityHex) = (id, root)) :
    Keeps (Slots id root) (write fun plugin =>
      { plugin with binaryWriteSession := some session } : Program Plugin ε Unit) := by
  refine .write fun plugin => ⟨fun slot hslot => Or.inr hslot, fun slot hslot => Or.inl ?_⟩
  cases hslot
  exact h

end Keeps

instance keeps_calls_call : Keeps Calls (call android) := by
  rw [call]
  refine .bind_of inferInstance fun now => .bind_of ?_ fun _ => ?_
  · exact .write fun plugin => ⟨plugin.calls + 1, rfl⟩
  · split <;> infer_instance

instance keeps_loses_requireNoBinarySession : Keeps Loses requireNoBinarySession := by
  rw [requireNoBinarySession]
  infer_instance

instance keeps_loses_persistedRoot : Keeps Loses persistedRoot := by
  rw [persistedRoot]
  infer_instance

instance keeps_loses_requireRoot {expected : String} {owner : Option String} :
    Keeps Loses (requireRoot android expected owner) := by
  rw [requireRoot]
  dsimp only
  infer_instance

instance keeps_calls_queryChildren {parentId : String} :
    Keeps Calls (queryChildren android parentId) := by
  rw [queryChildren]
  infer_instance

instance keeps_calls_resolveComponents {parentId : String} {selected : Option Child}
    {names : List Text} : Keeps Calls (resolveComponents android parentId selected names) := by
  induction names generalizing parentId selected with
  | nil => exact .pure
  | cons name rest ih =>
      rw [resolveComponents]
      refine .bind_of inferInstance fun children => ?_
      split
      · exact ih
      · infer_instance

instance keeps_calls_resolveDocumentIn {rootUri : String} {path : Text} :
    Keeps Calls (resolveDocumentIn android rootUri path) := by
  rw [resolveDocumentIn]
  infer_instance

instance keeps_calls_openInputStream {documentId : String} :
    Keeps Calls (openInputStream android documentId) := by
  rw [openInputStream]
  infer_instance

instance keeps_calls_readSome {room : ℕ} {input : List UInt8} :
    Keeps Calls (readSome android room input) := by
  rw [readSome]
  infer_instance

instance keeps_calls_readNextChunk {output input : List UInt8} :
    Keeps Calls (readNextChunk android output input) := by
  induction output, input using readNextChunk.induct with
  | case1 output input h =>
      rw [readNextChunk.eq_def, if_pos h]
      infer_instance
  | case2 output h =>
      rw [readNextChunk, if_neg h]
      infer_instance
  | case3 output h byte input ih =>
      rw [readNextChunk, if_neg h]
      exact .bind_of inferInstance fun count => ih count

instance keeps_calls_verifyStream {digest input : List UInt8} :
    Keeps Calls (verifyStream android digest input) := by
  induction digest, input using verifyStream.induct with
  | case1 digest =>
      rw [verifyStream]
      infer_instance
  | case2 digest byte input ih =>
      rw [verifyStream]
      exact .bind_of inferInstance fun count => .bind_of inferInstance fun _ => ih count

instance keeps_calls_verifyBinaryDocument {documentId : String} :
    Keeps Calls (verifyBinaryDocument android documentId) := by
  rw [verifyBinaryDocument]
  infer_instance

instance keeps_slots_openReadSession {args : BinaryReadBeginArgs} {path : Text} :
    Keeps (Slots args.sessionId args.expectedRootIdentityHex)
      (openReadSession android args path) := by
  rw [openReadSession]
  refine .bind_of inferInstance fun _ => .bind_of inferInstance fun rootUri =>
    .bind_of inferInstance fun document => .bind_of inferInstance fun document =>
    .bind_of inferInstance fun _ => .bind_of inferInstance fun input => ?_
  exact .bind_of (keeps_slots_setRead rfl) fun _ => inferInstance

theorem keeps_slots_beginBinaryRead {args : BinaryReadBeginArgs} :
    Keeps (Slots args.sessionId args.expectedRootIdentityHex) (beginBinaryRead android args) := by
  rw [beginBinaryRead]
  split
  · infer_instance
  · split
    · infer_instance
    · refine .bind_of inferInstance fun result => ?_
      split <;> infer_instance

instance keeps_loses_finishRead {session : BinaryReadSession} {offset : ℤ} {chunk : List UInt8} :
    Keeps Loses (finishRead android session offset chunk) := by
  rw [finishRead]
  infer_instance

theorem keeps_slots_continueRead {session : BinaryReadSession} {args : BinaryReadChunkArgs}
    (h : (session.id, session.rootIdentityHex) = (args.sessionId, args.expectedRootIdentityHex)) :
    Keeps (Slots args.sessionId args.expectedRootIdentityHex)
      (continueRead android session args) := by
  rw [continueRead]
  refine .bind_of inferInstance fun rootUri => .bind_of inferInstance fun ⟨chunk, input⟩ =>
    .bind_of inferInstance fun _ => .bind_of (keeps_slots_setRead h) fun _ => ?_
  split <;> infer_instance

instance keeps_slots_nextReadChunk {args : BinaryReadChunkArgs} :
    Keeps (Slots args.sessionId args.expectedRootIdentityHex) (nextReadChunk android args) := by
  refine ⟨fun plugin => ?_⟩
  rw [nextReadChunk, exec_bind, exec_read]
  dsimp only [id_eq]
  split
  · exact Std.Refl.refl _
  · rename_i session hsession
    split
    · exact Std.Refl.refl _
    · rename_i howner
      have hslot := readOwnership_eq_owner.mp (Decidable.not_not.mp howner)
      rw [readSlot, hsession, Option.map_some, Option.some.injEq] at hslot
      split
      · exact (inferInstance : Keeps (Slots args.sessionId args.expectedRootIdentityHex) (do
          write (closeBinaryReadSession (some args.sessionId))
          throw Thrown.sessionMismatch : Command Chunk)).exec_rel plugin
      · exact (keeps_slots_continueRead hslot).exec_rel plugin

instance keeps_loses_closeOwnRead {ε : Type} {sessionId rootIdentityHex : String} :
    Keeps Loses
      (write (closeOwnRead sessionId rootIdentityHex) : Program Plugin ε Unit) := by
  refine .write fun plugin => ?_
  rw [closeOwnRead]
  split
  · rcases closeBinaryReadSession_cases (some sessionId) plugin with h | h <;> rw [h]
    · exact Std.Refl.refl _
    · exact ⟨Or.inl rfl, Or.inr rfl⟩
  · exact Std.Refl.refl _

theorem keeps_slots_readBinaryChunk {args : BinaryReadChunkArgs} :
    Keeps (Slots args.sessionId args.expectedRootIdentityHex) (readBinaryChunk android args) := by
  rw [readBinaryChunk]
  split
  · infer_instance
  · refine .bind_of inferInstance fun result => ?_
    split <;> infer_instance

theorem keeps_loses_abortBinaryRead {args : BinarySessionArgs} :
    Keeps Loses (abortBinaryRead args) := by
  rw [abortBinaryRead]
  dsimp only
  infer_instance

/-! ### Creating -/

instance keeps_loses_createDocument {parentId mime : String} :
    Keeps Loses (createDocument android parentId mime) := by
  rw [createDocument]
  refine .bind_of inferInstance fun now => .bind_of inferInstance fun answer =>
    .bind_of (keeps_loses_write (fun _ => rfl) fun _ => rfl) fun _ => inferInstance

instance keeps_loses_enterFolder {parentId : String} {component : Text} :
    Keeps Loses (enterFolder android parentId component) := by
  rw [enterFolder]
  refine .bind_of inferInstance fun children => ?_
  split <;> infer_instance

instance keeps_loses_enterFolders {parentId : String} {components : List Text} :
    Keeps Loses (components.foldlM (enterFolder android) parentId) := by
  induction components generalizing parentId with
  | nil => exact .pure
  | cons component rest ih =>
      rw [List.foldlM_cons]
      exact .bind_of inferInstance fun folderId => ih

instance keeps_loses_createEmptyBinaryDocument {rootUri : String} {path : Text} :
    Keeps Loses (createEmptyBinaryDocument android rootUri path) := by
  rw [createEmptyBinaryDocument]
  infer_instance

instance keeps_loses_openTruncated {documentId : String} :
    Keeps Loses (openTruncated android documentId) := by
  rw [openTruncated]
  refine .bind_of inferInstance fun result => ?_
  split
  · infer_instance
  · exact .bind_of inferInstance fun _ => .bind_of inferInstance fun _ =>
      keeps_loses_write (fun _ => rfl) fun _ => rfl

instance keeps_slots_openWriteSession {args : BinaryWriteBeginArgs} {path : Text} :
    Keeps (Slots args.sessionId args.expectedRootIdentityHex)
      (openWriteSession android args path) := by
  rw [openWriteSession]
  refine .bind_of inferInstance fun _ => .bind_of inferInstance fun rootUri =>
    .bind_of inferInstance fun documentId => .bind_of inferInstance fun _ => ?_
  exact .bind_of (keeps_slots_setWrite rfl) fun _ => inferInstance

theorem keeps_slots_beginBinaryCreate {args : BinaryWriteBeginArgs} :
    Keeps (Slots args.sessionId args.expectedRootIdentityHex)
      (beginBinaryCreate android args) := by
  rw [beginBinaryCreate]
  split
  · infer_instance
  · split
    · infer_instance
    · refine .bind_of inferInstance fun result => ?_
      split <;> infer_instance

instance keeps_loses_writeOutput {session : BinaryWriteSession} {chunk : List UInt8} :
    Keeps Loses (writeOutput android session chunk) := by
  have hwrite {chunk : List UInt8} : Keeps Loses
      (write (writeContent session.documentId session.written chunk) : Command Unit) :=
    keeps_loses_write (fun _ => rfl) fun _ => rfl
  rw [writeOutput]
  refine .bind_of inferInstance fun now => .bind_of inferInstance fun result => ?_
  split
  · exact .bind_of hwrite fun _ => inferInstance
  · exact hwrite

theorem keeps_slots_appendChunk {session : BinaryWriteSession} {args : BinaryWriteChunkArgs}
    {chunk : List UInt8} {nextOffset : ℕ}
    (h : (session.id, session.rootIdentityHex) = (args.sessionId, args.expectedRootIdentityHex)) :
    Keeps (Slots args.sessionId args.expectedRootIdentityHex)
      (appendChunk android session args chunk nextOffset) := by
  rw [appendChunk]
  exact .bind_of inferInstance fun rootUri => .bind_of inferInstance fun _ =>
    .bind_of (keeps_slots_setWrite h) fun _ => inferInstance

instance keeps_loses_closeOwnWrite {ε : Type} {sessionId rootIdentityHex : String} :
    Keeps Loses
      (write (closeOwnWrite sessionId rootIdentityHex) : Program Plugin ε Unit) := by
  refine .write fun plugin => ?_
  rw [closeOwnWrite]
  split
  · rcases closeBinaryWriteSession_cases (some sessionId) plugin with h | h <;> rw [h]
    · exact Std.Refl.refl _
    · exact ⟨Or.inr rfl, Or.inl rfl⟩
  · exact Std.Refl.refl _

theorem keeps_slots_appendBinaryChunk {args : BinaryWriteChunkArgs} :
    Keeps (Slots args.sessionId args.expectedRootIdentityHex)
      (appendBinaryChunk android args) := by
  refine ⟨fun plugin => ?_⟩
  rw [appendBinaryChunk, exec_bind, exec_read]
  dsimp only [id_eq]
  split
  · exact (inferInstance : Keeps (Slots args.sessionId args.expectedRootIdentityHex) (do
      write (closeOwnWrite args.sessionId args.expectedRootIdentityHex)
      pure _ : Answered Outcome)).exec_rel plugin
  · rename_i chunk _
    split
    · exact Std.Refl.refl _
    · rename_i session hsession
      split
      · exact Std.Refl.refl _
      · rename_i howner
        have hslot := writeOwnership_eq_owner.mp (Decidable.not_not.mp howner)
        rw [writeSlot, hsession, Option.map_some, Option.some.injEq] at hslot
        split
        · exact (inferInstance : Keeps (Slots args.sessionId args.expectedRootIdentityHex) (do
            write (closeBinaryWriteSession (some args.sessionId))
            pure _ : Answered Outcome)).exec_rel plugin
        · rename_i nextOffset _
          have happend : Keeps (Slots args.sessionId args.expectedRootIdentityHex)
              (appendChunk android session args chunk nextOffset) := keeps_slots_appendChunk hslot
          refine (Keeps.bind_of inferInstance fun result => ?_).exec_rel plugin
          split <;> infer_instance

theorem keeps_loses_finishCreate {session : BinaryWriteSession} {args : BinarySessionArgs} :
    Keeps Loses (finishCreate android session args) := by
  rw [finishCreate]
  refine .bind_of inferInstance fun rootUri => ?_
  split
  · infer_instance
  · refine .bind_of inferInstance fun _ => .bind_of inferInstance fun _ =>
      .bind_of inferInstance fun _ => .bind_of inferInstance fun current => ?_
    split <;> infer_instance

theorem keeps_loses_finishBinaryCreate {args : BinarySessionArgs} :
    Keeps Loses (finishBinaryCreate android args) := by
  rw [finishBinaryCreate]
  refine .bind_of inferInstance fun plugin => ?_
  split
  · infer_instance
  · dsimp only
    split
    · infer_instance
    · have hfinish {session : BinaryWriteSession} :
          Keeps Loses (finishCreate android session args) := keeps_loses_finishCreate
      refine .bind_of inferInstance fun result => ?_
      split <;> infer_instance

theorem keeps_loses_abortBinaryCreate {args : BinarySessionArgs} :
    Keeps Loses (abortBinaryCreate args) := by
  rw [abortBinaryCreate]
  refine .bind_of inferInstance fun plugin => ?_
  split <;> infer_instance

/-- What any command leaves of the sessions. -/
theorem slots_run (asked : Request) (plugin : Plugin) :
    Slots asked.sessionId asked.rootIdentityHex plugin (asked.run android plugin) := by
  cases asked with
  | beginBinaryRead args => exact keeps_slots_beginBinaryRead.exec_rel plugin
  | readBinaryChunk args => exact keeps_slots_readBinaryChunk.exec_rel plugin
  | abortBinaryRead args => exact (keeps_loses_abortBinaryRead.exec_rel plugin).slots
  | beginBinaryCreate args => exact keeps_slots_beginBinaryCreate.exec_rel plugin
  | appendBinaryChunk args => exact keeps_slots_appendBinaryChunk.exec_rel plugin
  | finishBinaryCreate args => exact (keeps_loses_finishBinaryCreate.exec_rel plugin).slots
  | abortBinaryCreate args => exact (keeps_loses_abortBinaryCreate.exec_rel plugin).slots

/-! ## Requests of others -/

/-- A session is open, and the request is not of that session. -/
structure Foreign (asked : Request) (plugin : Plugin) : Prop where
  active : activeBinarySessionId plugin ≠ none
  read : readSlot plugin ≠ some (asked.sessionId, asked.rootIdentityHex)
  write : writeSlot plugin ≠ some (asked.sessionId, asked.rootIdentityHex)

theorem exec_requireNoBinarySession_busy (h : activeBinarySessionId plugin ≠ none) :
    exec requireNoBinarySession plugin = (.error .sessionBusy, plugin) := by
  rw [requireNoBinarySession, exec_bind, exec_read]
  dsimp only [id_eq]
  rw [reject, if_pos (Or.inl h), exec_throw]

/-- Nothing changes for a session by the requests of others. -/
theorem run_eq_of_foreign {asked : Request} (h : Foreign asked plugin) :
    asked.run android plugin = plugin := by
  have hread {id root : String} (hslot : readSlot plugin ≠ some (id, root)) :
      readOwnership plugin id root ≠ .owner := fun howner =>
        hslot (readOwnership_eq_owner.mp howner)
  have hwrite {id root : String} (hslot : writeSlot plugin ≠ some (id, root)) :
      writeOwnership plugin id root ≠ .owner :=
    fun howner => hslot (writeOwnership_eq_owner.mp howner)
  have hbusy := exec_requireNoBinarySession_busy h.active
  cases asked with
  | beginBinaryRead args =>
      rw [Request.run, beginBinaryRead]
      split
      · rfl
      · split
        · rfl
        · rw [exec_bind, exec_catching, openReadSession, exec_bind, hbusy]
          rfl
  | readBinaryChunk args =>
      have hown : readOwnership plugin args.sessionId args.expectedRootIdentityHex ≠ .owner :=
        hread h.read
      have hstep : exec (nextReadChunk android args) plugin =
          (.error .sessionMismatch, plugin) := by
        rw [nextReadChunk, exec_bind, exec_read]
        dsimp only [id_eq]
        split
        · rfl
        · rw [if_pos hown]
          rfl
      rw [Request.run, readBinaryChunk]
      split
      · rw [exec_bind, exec_read]
        dsimp only
        rw [exec_bind, exec_write]
        dsimp only [id_eq]
        rw [closeOwnRead, if_neg hown]
        split <;> rfl
      · rw [exec_bind, exec_catching, hstep]
        rfl
  | abortBinaryRead args =>
      have hown : readOwnership plugin args.sessionId args.expectedRootIdentityHex ≠ .owner :=
        hread h.read
      rw [Request.run, abortBinaryRead, exec_bind, exec_read]
      dsimp only [id_eq]
      rw [if_pos hown]
      rfl
  | beginBinaryCreate args =>
      rw [Request.run, beginBinaryCreate]
      split
      · rfl
      · split
        · rfl
        · rw [exec_bind, exec_catching, openWriteSession, exec_bind, hbusy]
          rfl
  | appendBinaryChunk args =>
      have hown : writeOwnership plugin args.sessionId args.expectedRootIdentityHex ≠ .owner :=
        hwrite h.write
      rw [Request.run, appendBinaryChunk, exec_bind, exec_read]
      dsimp only [id_eq]
      split
      · rw [exec_bind, exec_write]
        dsimp only
        rw [closeOwnWrite, if_neg hown]
        rfl
      · split
        · rfl
        · rw [if_pos hown]
          rfl
  | finishBinaryCreate args =>
      have hown : writeOwnership plugin args.sessionId args.expectedRootIdentityHex ≠ .owner :=
        hwrite h.write
      rw [Request.run, finishBinaryCreate, exec_bind, exec_read]
      dsimp only [id_eq]
      split
      · rfl
      · rw [if_pos hown]
        rfl
  | abortBinaryCreate args =>
      have hown : writeOwnership plugin args.sessionId args.expectedRootIdentityHex ≠ .owner :=
        hwrite h.write
      rw [Request.run, abortBinaryCreate, exec_bind, exec_read]
      dsimp only [id_eq]
      split
      · rfl
      · rw [if_pos hown]
        rfl

/-! ## Wrong offsets -/

theorem closeBinaryReadSession_owner (h : readSlot plugin = some (id, root)) :
    closeBinaryReadSession (some id) plugin = { plugin with binaryReadSession := none } := by
  obtain ⟨session, hsession, hslot⟩ := Option.map_eq_some_iff.mp h
  rw [closeBinaryReadSession, hsession]
  dsimp only
  rw [if_neg (fun hne => hne.2 (congrArg (some ∘ Prod.fst) hslot))]

theorem closeBinaryReadSession_some {session : BinaryReadSession}
    (h : plugin.binaryReadSession = some session) :
    closeBinaryReadSession (some session.id) plugin =
      { plugin with binaryReadSession := none } := by
  have hslot : readSlot plugin = some (session.id, session.rootIdentityHex) := by
    rw [readSlot, h, Option.map_some]
  exact closeBinaryReadSession_owner hslot

theorem closeBinaryWriteSession_owner (h : writeSlot plugin = some (id, root)) :
    closeBinaryWriteSession (some id) plugin = { plugin with binaryWriteSession := none } := by
  obtain ⟨session, hsession, hslot⟩ := Option.map_eq_some_iff.mp h
  rw [closeBinaryWriteSession, hsession]
  dsimp only
  rw [if_neg (fun hne => hne.2 (congrArg (some ∘ Prod.fst) hslot))]

/-- A read at another offset closes the session of the one who asks. -/
theorem run_readBinaryChunk_wrong_offset {session : BinaryReadSession} {offset : ℤ}
    (hsession : plugin.binaryReadSession = some session)
    (hoffset : (session.read : ℤ) ≠ offset) :
    (Request.readBinaryChunk ⟨session.rootIdentityHex, session.id, offset⟩).run android plugin =
      { plugin with binaryReadSession := none } := by
  have hslot : readSlot plugin = some (session.id, session.rootIdentityHex) := by
    rw [readSlot, hsession, Option.map_some]
  have hown := readOwnership_eq_owner.mpr hslot
  have hclose := closeBinaryReadSession_owner hslot
  rw [Request.run, readBinaryChunk]
  dsimp only
  split
  · rw [exec_bind, exec_read]
    dsimp only [id_eq]
    rw [exec_bind, exec_write]
    dsimp only
    rw [closeOwnRead, if_pos hown, hclose]
    split <;> rfl
  · have hstep : exec (nextReadChunk android ⟨session.rootIdentityHex, session.id, offset⟩)
        plugin = (.error .sessionMismatch, { plugin with binaryReadSession := none }) := by
      rw [nextReadChunk, exec_bind, exec_read]
      dsimp only [id_eq]
      rw [hsession]
      dsimp only
      rw [if_neg (not_not_intro hown), if_pos hoffset, exec_bind, exec_write]
      dsimp only
      rw [hclose, exec_throw]
    rw [exec_bind, exec_catching, hstep]
    rfl

/-- An append at another offset closes the session of the one who asks, whatever the chunk. -/
theorem run_appendBinaryChunk_wrong_offset {session : BinaryWriteSession}
    {bytesBase64 : List UInt8} {offset : ℤ} (hsession : plugin.binaryWriteSession = some session)
    (hoffset : (session.written : ℤ) ≠ offset) :
    (Request.appendBinaryChunk
        ⟨session.rootIdentityHex, session.id, bytesBase64, offset⟩).run android plugin =
      { plugin with binaryWriteSession := none } := by
  have hslot : writeSlot plugin = some (session.id, session.rootIdentityHex) := by
    rw [writeSlot, hsession, Option.map_some]
  have hown := writeOwnership_eq_owner.mpr hslot
  have hclose := closeBinaryWriteSession_owner hslot
  rw [Request.run, appendBinaryChunk, exec_bind, exec_read]
  dsimp only [id_eq]
  split
  · rw [exec_bind, exec_write]
    dsimp only
    rw [closeOwnWrite, if_pos hown, hclose]
    rfl
  · rename_i chunk _
    have hnext : nextBinaryWriteOffset session.written session.expectedByteLen offset
        chunk.length = none := by
      rw [nextBinaryWriteOffset, if_pos (Or.inr hoffset.symm)]
    rw [hsession]
    dsimp only
    rw [if_neg (not_not_intro hown), hnext]
    dsimp only
    rw [exec_bind, exec_write]
    dsimp only
    rw [hclose]
    rfl

end Saf
end MyVault
