import MyVault.Recovery.Journal

/-!
# Calls of the recovery journal

What one call may do to the two directories while others run, and what it comes to.  A call
changes temporary files of its own and renames one of them, with the record it is about, to a
name that is free (`Allowed.cases`); so no entry is ever changed (`Rely`), and every entry
holds a record (`Disk.Sound`).  `publish` and `complete` are robust against what the others
do (`robust_publish`, `robust_complete`).
-/

namespace MyVault
namespace Recovery

open Process Check

/-! ## Records in the directories -/

/-- The record of an operation has these bytes. -/
def Disk.Holds (d : Disk) (area : Area) (operationId : Uuid) (bytes : List UInt8) : Prop :=
  ∃ node, d.file area (.entry operationId) = some node ∧ node.bytes = bytes

/-- The entries that were there are there as they were. -/
def Disk.Grows (d t : Disk) : Prop :=
  ∀ area operationId node, d.file area (.entry operationId) = some node →
    t.file area (.entry operationId) = some node

/-- What is written of an intent. -/
def recordBytes (host : Host) (intent : RenameMoveIntent) : Area → List UInt8
  | .journal => utf8Bytes intent.json
  | .completed => utf8Bytes (tombstoneOf host intent).json

/-- The bytes are what is written of an intent, and a tombstone stands for an intent that was
published. -/
structure IsRecord (host : Host) (intent : RenameMoveIntent) (d : Disk) (area : Area)
    (operationId : Uuid) (bytes : List UInt8) : Prop where
  publishable : Publishable host intent
  identified : intent.operationId = operationId
  bytes : bytes = recordBytes host intent area
  published : area = .completed → d.Holds .journal operationId (utf8Bytes intent.json)

/-- Every entry is private and holds a record of one of these intents. -/
def Disk.Sound (host : Host) (intents : RenameMoveIntent → Prop) (d : Disk) : Prop :=
  ∀ area operationId node, d.file area (.entry operationId) = some node →
    node.isPrivate = true ∧
      ∃ intent, intents intent ∧ IsRecord host intent d area operationId node.bytes

/-! ## Calls -/

/-- A call of the journal, with the random id of its staging file. -/
inductive Call where
  | publish (draw : Uuid) (intent : RenameMoveIntent)
  | complete (draw operationId : Uuid) (expected : RenameMoveIntent)

/-- What a call returns. -/
inductive Outcome where
  | publish (outcome : PublishOutcome)
  | complete (outcome : CompleteOutcome)
  deriving DecidableEq, Repr

namespace Call

/-- The record a call is about. -/
def intent : Call → RenameMoveIntent
  | publish _ intent => intent
  | complete _ _ expected => expected

/-- The operation of a call. -/
def operationId : Call → Uuid
  | publish _ intent => intent.operationId
  | complete _ operationId _ => operationId

/-- The directory that a call writes in. -/
def area : Call → Area
  | publish _ _ => .journal
  | complete _ _ _ => .completed

/-- The steps of a call. -/
def process (host : Host) (thread : ℕ) : Call → Proc Outcome
  | publish draw intent => do
      let outcome ← Recovery.publish host thread draw intent
      pure (.publish outcome)
  | complete draw operationId expected => do
      let outcome ← Recovery.complete host thread draw operationId expected
      pure (.complete outcome)

end Call

/-! ## What a call may do -/

section Steps

variable (host : Host) (intents : RenameMoveIntent → Prop) (thread : ℕ)

/-- The temporary file of a draw, if there is one, is the thread's own. -/
def Disk.IsOwn (thread : ℕ) (d : Disk) (area : Area) (draw : Uuid) : Prop :=
  ∀ node, d.file area (.temporary draw) = some node → node.owner = thread

/-- The steps of a call. -/
def Allowed (call : Call) : Step → Disk → Prop
  | .createNew _ _ owner, _ => owner = thread
  | .harden area draw, d => d.IsOwn thread area draw
  | .write area draw _, d => d.IsOwn thread area draw
  | .syncFile _ _, _ => True
  | .rename area draw operationId, d => area = call.area ∧ operationId = call.operationId ∧
      d.IsOwn thread area draw ∧ ∀ node, d.file area (.temporary draw) = some node →
        node.isPrivate = true ∧ IsRecord host call.intent d area operationId node.bytes
  | .syncDirectory _, _ => True

/-- What was done since, by anybody but for the entries of this thread. -/
structure Since (d t : Disk) : Prop where
  entries : d.Grows t
  added : ∀ area operationId node, t.file area (.entry operationId) = some node →
    node.owner = thread → d.file area (.entry operationId) = some node
  sound : d.Sound host intents → t.Sound host intents

/-- What the other threads may have done. -/
structure Rely (d t : Disk) : Prop extends Since host intents thread d t where
  own : ∀ area draw node, d.file area (.temporary draw) = some node → node.owner = thread →
    t.file area (.temporary draw) = some node

end Steps

variable {host : Host} {intents : RenameMoveIntent → Prop} {thread other : ℕ} {call : Call}
  {d t u : Disk} {st : Step} {area : Area} {draw operationId : Uuid} {bytes : List UInt8}

theorem Disk.Holds.mono (h : d.Holds area operationId bytes) (ht : d.Grows t) :
    t.Holds area operationId bytes := by
  obtain ⟨node, hnode, hbytes⟩ := h
  exact ⟨node, ht _ _ _ hnode, hbytes⟩

theorem Disk.interference_grows : Interference Disk.Grows where
  refl _ _ _ _ h := h
  trans h h' _ _ _ hnode := h' _ _ _ (h _ _ _ hnode)

theorem Disk.Holds.unique {bytes' : List UInt8} (h : d.Holds area operationId bytes)
    (h' : d.Holds area operationId bytes') : bytes = bytes' := by
  obtain ⟨node, hnode, rfl⟩ := h
  obtain ⟨node', hnode', rfl⟩ := h'
  rw [Option.some.inj (hnode.symm.trans hnode')]

namespace Since

theorem refl (d : Disk) : Since host intents thread d d :=
  ⟨fun _ _ _ h => h, fun _ _ _ h _ => h, id⟩

theorem trans (h : Since host intents thread d t) (h' : Since host intents thread t u) :
    Since host intents thread d u where
  entries _ _ _ hnode := h'.entries _ _ _ (h.entries _ _ _ hnode)
  added _ _ _ hnode howner := h.added _ _ _ (h'.added _ _ _ hnode howner) howner
  sound hsound := h'.sound (h.sound hsound)

end Since

theorem interference_rely : Interference (Rely host intents thread) where
  refl d := ⟨.refl d, fun _ _ _ h _ => h⟩
  trans h h' := ⟨h.toSince.trans h'.toSince, fun _ _ _ hnode howner =>
    h'.own _ _ _ (h.own _ _ _ hnode howner) howner⟩

/-! ### Steps -/

/-- **The steps of a call.**  A step leaves everything, changes a temporary file that was its
own or was not there, or renames one, that holds the record of the call, to a free name. -/
theorem Allowed.cases (h : Allowed host thread call st d) :
    (st.run host.umask d).2 = d ∨
    (∃ area draw node, d.IsOwn thread area draw ∧ node.owner = thread ∧
      (st.run host.umask d).2 = d.withFile area (.temporary draw) node) ∨
    ∃ draw node, st = .rename call.area draw call.operationId ∧
      d.file call.area (.temporary draw) = some node ∧
      d.file call.area (.entry call.operationId) = none ∧ node.owner = thread ∧
      node.isPrivate = true ∧
      IsRecord host call.intent d call.area call.operationId node.bytes ∧
      (st.run host.umask d).2 = (d.withoutFile call.area (.temporary draw)).withFile call.area
        (.entry call.operationId) node := by
  have hmodify : ∀ area draw (f : FileNode → FileNode), (∀ node, (f node).owner = node.owner) →
      d.IsOwn thread area draw → d.modifyTemporary area draw f = d ∨
        ∃ node, node.owner = thread ∧
          d.modifyTemporary area draw f = d.withFile area (.temporary draw) node := by
    intro area draw f hf hown
    rw [Disk.modifyTemporary]
    cases hnode : d.file area (.temporary draw) with
    | none => exact .inl rfl
    | some node => exact .inr ⟨f node, (hf node).trans (hown node hnode), rfl⟩
  cases st with
  | createNew area draw owner =>
      rw [Step.run]
      split
      · exact .inl rfl
      · rename_i hnone
        refine .inr (.inl ⟨area, draw, ⟨owner, _, []⟩, fun node hnode => ?_, h, rfl⟩)
        rw [hnode] at hnone
        exact absurd rfl hnone
  | harden area draw =>
      rcases hmodify area draw (fun node => { node with mode := 0o600 }) (fun _ => rfl) h with
        hsame | ⟨node, hnode, hchange⟩
      · exact .inl hsame
      · exact .inr (.inl ⟨area, draw, node, h, hnode, hchange⟩)
  | write area draw byte =>
      rcases hmodify area draw (fun node => { node with bytes := node.bytes ++ [byte] })
        (fun _ => rfl) h with hsame | ⟨node, hnode, hchange⟩
      · exact .inl hsame
      · exact .inr (.inl ⟨area, draw, node, h, hnode, hchange⟩)
  | syncFile area draw => exact .inl rfl
  | rename area draw operationId =>
      obtain ⟨rfl, rfl, hown, hrecord⟩ := h
      rw [Step.run]
      cases hnode : d.file call.area (.temporary draw) with
      | none => exact .inl rfl
      | some node =>
          dsimp only
          cases hentry : d.file call.area (.entry call.operationId) with
          | some found => exact .inl rfl
          | none =>
              exact .inr (.inr ⟨draw, node, rfl, hnode, rfl, hown node hnode,
                (hrecord node hnode).1, (hrecord node hnode).2, rfl⟩)
  | syncDirectory area => exact .inl rfl

theorem file_rename (area : Area) (draw operationId : Uuid) (node : FileNode) (area' : Area)
    (name : Name) :
    ((d.withoutFile area (.temporary draw)).withFile area (.entry operationId) node).file area'
      name = if area' = area ∧ name = .entry operationId then some node
        else if area' = area ∧ name = .temporary draw then none else d.file area' name := by
  rw [Disk.file_withFile, Disk.file_withoutFile]

/-- A step leaves the entries that are there. -/
theorem Allowed.grows (h : Allowed host thread call st d) : d.Grows (st.run host.umask d).2 := by
  intro area operationId node hnode
  rcases h.cases with hsame | ⟨area', draw, own, -, -, hchange⟩ |
    ⟨draw, own, -, -, hfree, -, -, -, hrename⟩
  · rw [hsame, hnode]
  · rw [hchange, Disk.file_withFile, if_neg (by simp), hnode]
  · rw [hrename, file_rename, if_neg, if_neg (by simp), hnode]
    rintro ⟨rfl, hname⟩
    cases hname
    rw [hfree] at hnode
    cases hnode

/-- An entry that a step adds is the thread's own, and holds the record of the call. -/
theorem Allowed.added (h : Allowed host thread call st d) {node : FileNode}
    (hnode : (st.run host.umask d).2.file area (.entry operationId) = some node) :
    d.file area (.entry operationId) = some node ∨
      d.file area (.entry operationId) = none ∧ area = call.area ∧
        operationId = call.operationId ∧ node.owner = thread ∧ node.isPrivate = true ∧
        IsRecord host call.intent d area operationId node.bytes := by
  rcases h.cases with hsame | ⟨area', draw, own, -, -, hchange⟩ |
    ⟨draw, own, -, -, hfree, howner, hprivate, hrecord, hrename⟩
  · rw [hsame] at hnode
    exact .inl hnode
  · rw [hchange, Disk.file_withFile, if_neg (by simp)] at hnode
    exact .inl hnode
  · rw [hrename, file_rename] at hnode
    split at hnode
    · rename_i heq
      obtain ⟨rfl, hname⟩ := heq
      cases hname
      cases hnode
      exact .inr ⟨hfree, rfl, rfl, howner, hprivate, hrecord⟩
    · rw [if_neg (by simp)] at hnode
      exact .inl hnode

/-- A record stays one. -/
theorem IsRecord.mono {intent : RenameMoveIntent}
    (h : IsRecord host intent d area operationId bytes) (ht : d.Grows t) :
    IsRecord host intent t area operationId bytes :=
  ⟨h.publishable, h.identified, h.bytes, fun harea => (h.published harea).mono ht⟩

theorem Allowed.sound (h : Allowed host thread call st d) (hintent : intents call.intent)
    (hd : d.Sound host intents) : (st.run host.umask d).2.Sound host intents := by
  intro area operationId node hnode
  rcases h.added hnode with hthere | ⟨-, -, -, -, hprivate, hrecord⟩
  · obtain ⟨hprivate, intent, hused, hrecord⟩ := hd area operationId node hthere
    exact ⟨hprivate, intent, hused, hrecord.mono h.grows⟩
  · exact ⟨hprivate, call.intent, hintent, hrecord.mono h.grows⟩

/-- The steps of a thread are what the others rely on. -/
theorem Allowed.rely (h : Allowed host thread call st d) (hintent : intents call.intent)
    (hother : thread ≠ other) : Rely host intents other d (st.run host.umask d).2 where
  entries := h.grows
  added area operationId node hnode howner := by
    rcases h.added hnode with hthere | ⟨-, -, -, hmine, -⟩
    · exact hthere
    · exact absurd (hmine.symm.trans howner) hother
  sound := h.sound hintent
  own area draw node hnode howner := by
    rcases h.cases with hsame | ⟨area', draw', own, hown, -, hchange⟩ |
      ⟨draw', own, -, hfound, -, hmine, -, -, hrename⟩
    · rw [hsame, hnode]
    · rw [hchange, Disk.file_withFile, if_neg, hnode]
      rintro ⟨rfl, hname⟩
      cases hname
      exact hother ((hown node hnode).symm.trans howner)
    · rw [hrename, file_rename, if_neg (by simp), if_neg, hnode]
      rintro ⟨rfl, hname⟩
      cases hname
      rw [hfound] at hnode
      cases hnode
      exact hother (hmine.symm.trans howner)

/-- A step that renames nothing. -/
theorem Allowed.since (h : Allowed host thread call st d) (hintent : intents call.intent)
    (hst : ∀ area draw operationId, st ≠ .rename area draw operationId) :
    Since host intents thread d (st.run host.umask d).2 where
  entries := h.grows
  added area operationId node hnode _ := by
    rcases h.cases with hsame | ⟨area', draw', own, -, -, hchange⟩ |
      ⟨draw', own, hrename, -⟩
    · rwa [hsame] at hnode
    · rwa [hchange, Disk.file_withFile, if_neg (by simp)] at hnode
    · exact absurd hrename (hst _ _ _)
  sound := h.sound hintent


/-! ## Robust calls -/

/-- A call is robust: against the other threads, and against steps and looks that fail. -/
abbrev CallRobust {α : Type} (host : Host) (intents : RenameMoveIntent → Prop) (thread : ℕ)
    (call : Call) (Q : Except Error α → Disk → Prop) (p : Proc α) (d : Disk) : Prop :=
  Robust (Step.run host.umask) (.error (.io .other)) (.io .other) (Rely host intents thread)
    (Allowed host thread call) Q p d

section Robust

/-- A thread is at work on a temporary file. -/
structure Working (host : Host) (intents : RenameMoveIntent → Prop) (thread : ℕ) (s : Disk)
    (area : Area) (draw : Uuid) (mode : ℕ) (written : List UInt8) (d : Disk) : Prop where
  since : Since host intents thread s d
  file : d.file area (.temporary draw) = some ⟨thread, mode, written⟩

variable {s : Disk} {mode : ℕ} {written rest : List UInt8} {α : Type}
  {Q : Except Error α → Disk → Prop}

namespace Working

theorem stable (h : Working host intents thread s area draw mode written d)
    (ht : Rely host intents thread d t) : Working host intents thread s area draw mode written t :=
  ⟨h.since.trans ht.toSince, ht.own _ _ _ h.file rfl⟩

theorem isOwn (h : Working host intents thread s area draw mode written d) :
    d.IsOwn thread area draw := by
  intro node hnode
  rw [h.file] at hnode
  cases hnode
  rfl

theorem harden (h : Working host intents thread s area draw mode written d)
    (hintent : intents call.intent) : Working host intents thread s area draw 0o600 written
      ((Step.harden area draw).run host.umask d).2 := by
  have hallowed : Allowed host thread call (.harden area draw) d := h.isOwn
  refine ⟨h.since.trans (hallowed.since hintent nofun), ?_⟩
  rw [Step.run, Disk.modifyTemporary, h.file]
  dsimp only
  rw [Disk.file_withFile, if_pos ⟨rfl, rfl⟩]

theorem write (h : Working host intents thread s area draw mode written d)
    (hintent : intents call.intent) (byte : UInt8) :
    Working host intents thread s area draw mode (written ++ [byte])
      ((Step.write area draw byte).run host.umask d).2 := by
  have hallowed : Allowed host thread call (.write area draw byte) d := h.isOwn
  refine ⟨h.since.trans (hallowed.since hintent nofun), ?_⟩
  rw [Step.run, Disk.modifyTemporary, h.file]
  dsimp only
  rw [Disk.file_withFile, if_pos ⟨rfl, rfl⟩]

end Working

theorem syncPublished_pure {a : α} (hok : ∀ t, Rely host intents thread d t → Q (.ok a) t)
    (herror : ∀ t, Rely host intents thread d t → Q (.error (.publishedButNotSynced .other)) t) :
    CallRobust host intents thread call Q (syncPublished area >>= fun _ => pure a) d := by
  show CallRobust host intents thread call Q (perform (.syncDirectory area) >>= fun answer =>
    lift (answer.mapError publishedSyncError) >>= fun _ => pure a) d
  refine Robust.perform_bind fun t ht => ⟨trivial, Robust.lift_bind rfl ?_, ?_⟩
  · exact Robust.of_pure fun u hu => hok u (interference_rely.trans ht hu)
  · exact Robust.lift_bind_error rfl fun u hu => herror u (interference_rely.trans ht hu)

theorem robust_writeAll (hintent : intents call.intent)
    (h : Working host intents thread s area draw mode written d) :
    CallRobust host intents thread call
      (fun x t => match x with
        | .ok () => Working host intents thread s area draw mode (written ++ rest) t
        | .error _ => Since host intents thread s t)
      (writeAll area draw rest) d := by
  induction rest generalizing written d with
  | nil =>
      refine Robust.of_pure fun t ht => ?_
      show Working host intents thread s area draw mode (written ++ []) t
      rw [List.append_nil]
      exact h.stable ht
  | cons byte rest ih =>
      refine Robust.io_bind fun t ht => ?_
      have hnow := h.stable ht
      refine ⟨hnow.isOwn, fun _ _ => ?_, nofun, fun u hu => (hnow.stable hu).since⟩
      have hrest := ih (hnow.write hintent byte)
      rwa [List.append_assoc, List.singleton_append] at hrest

/-- What `publish_bytes` comes to, since `s`. -/
def Made (host : Host) (intents : RenameMoveIntent → Prop) (thread : ℕ) (area : Area)
    (operationId : Uuid) (bytes : List UInt8) (s : Disk) : Except Error Bool → Disk → Prop
  | .ok true, t => s.file area (.entry operationId) = none ∧
      ∃ node, t.file area (.entry operationId) = some node ∧ node.bytes = bytes ∧
        node.owner = thread
  | .ok false, t => t.Holds area operationId bytes
  | .error e, t => e = .publishedButNotSynced .other ∨ Since host intents thread s t

theorem readRaw_eq_ok (h : readRaw d area operationId = .ok bytes) :
    d.Holds area operationId bytes := by
  rw [readRaw, readRawIfExists] at h
  cases hnode : d.file area (.entry operationId) with
  | none =>
      rw [hnode] at h
      cases h
  | some node =>
      rw [hnode, Check.bind_eq_ok] at h
      obtain ⟨found, hfound, h⟩ := h
      rw [seq_eq_ok, seq_eq_ok] at hfound
      obtain ⟨-, -, hfound⟩ := hfound
      cases hfound
      cases h
      exact ⟨node, hnode, rfl⟩

theorem robust_afterRename
    (hrecord : IsRecord host call.intent s call.area call.operationId bytes)
    (h : Working host intents thread s call.area draw 0o600 bytes d) :
    CallRobust host intents thread call
      (Made host intents thread call.area call.operationId bytes s)
      (perform (.rename call.area draw call.operationId) >>=
        afterRename call.area call.operationId bytes)
      d := by
  refine Robust.perform_bind fun t ht => ?_
  have hnow := h.stable ht
  have hallowed : Allowed host thread call (.rename call.area draw call.operationId) t := by
    refine ⟨rfl, rfl, hnow.isOwn, fun node hnode => ?_⟩
    rw [hnow.file] at hnode
    cases hnode
    have hprivate : Snapshots.isPrivateFileMode 0o600 = true := by decide
    exact ⟨hprivate, hrecord.mono hnow.since.entries⟩
  refine ⟨hallowed, ?_, Robust.of_fail fun u hu => .inr (hnow.since.trans hu.toSince)⟩
  rw [Step.run, hnow.file]
  dsimp only
  cases hentry : t.file call.area (.entry call.operationId) with
  | none =>
      -- nothing stands in the way
      rw [Option.isSome_none, if_neg Bool.false_ne_true]
      have hfree : s.file call.area (.entry call.operationId) = none := by
        cases hs : s.file call.area (.entry call.operationId) with
        | none => rfl
        | some node => exact nomatch hentry.symm.trans (hnow.since.entries _ _ _ hs)
      refine syncPublished_pure (fun u hu => ⟨hfree, ⟨thread, 0o600, bytes⟩, ?_, rfl, rfl⟩)
        fun u hu => .inl rfl
      refine hu.entries _ _ _ ?_
      rw [file_rename, if_pos ⟨rfl, rfl⟩]
  | some node =>
      rw [Option.isSome_some, if_pos rfl]
      refine Robust.ask_bind (fun u hu => .inr (hnow.since.trans hu.toSince)) ?_ ?_
      · intro u actual hu hactual
        have hholds := readRaw_eq_ok hactual
        split
        · rename_i hsame
          subst hsame
          exact syncPublished_pure (fun v hv => Disk.Holds.mono hholds hv.entries)
            fun v hv => .inl rfl
        · exact Robust.of_fail fun v hv => .inr ((hnow.since.trans hu.toSince).trans hv.toSince)
      · exact fun u v e hu _ hv => .inr ((hnow.since.trans hu.toSince).trans hv.toSince)

theorem robust_publishBytes (hintent : intents call.intent)
    (hrecord : IsRecord host call.intent s call.area call.operationId bytes) :
    CallRobust host intents thread call
      (Made host intents thread call.area call.operationId bytes s)
      (publishBytes thread draw call.area call.operationId bytes) s := by
  refine Robust.io_bind fun t ht => ⟨rfl, fun _ hok => ?_, fun e he u hu => .inr ?_,
    fun u hu => .inr (ht.toSince.trans hu.toSince)⟩
  · have hcreated : Working host intents thread s call.area draw (Snapshots.fileMode host.umask) []
        ((Step.createNew call.area draw thread).run host.umask t).2 := by
      have hallowed : Allowed host thread call (.createNew call.area draw thread) t := rfl
      refine ⟨ht.toSince.trans (hallowed.since hintent nofun), ?_⟩
      rw [Step.run] at hok ⊢
      split at hok
      · cases hok
      · rename_i hnone
        rw [if_neg hnone, Disk.file_withFile, if_pos ⟨rfl, rfl⟩]
    refine Robust.io_bind fun u hu => ?_
    have hnow := hcreated.stable hu
    refine ⟨hnow.isOwn, fun _ _ => ?_, nofun, fun v hv => .inr (hnow.stable hv).since⟩
    refine (robust_writeAll hintent (hnow.harden hintent)).bind interference_rely ?_
      fun e v hv => .inr hv
    rintro ⟨⟩ v hwritten
    refine Robust.io_bind fun w hw => ?_
    have hnow := hwritten.stable hw
    refine ⟨trivial, fun _ _ => ?_, nofun, fun x hx => .inr (hnow.stable hx).since⟩
    refine Robust.ask_bind (fun x hx => .inr (hnow.stable hx).since) ?_
      fun x y e hx _ hy => .inr ((hnow.stable hx).stable hy).since
    intro x _ hx _
    exact robust_afterRename hrecord (hnow.stable hx)
  · have hallowed : Allowed host thread call (.createNew call.area draw thread) t := rfl
    exact (ht.toSince.trans (hallowed.since hintent nofun)).trans hu.toSince

end Robust

/-! ### `publish` -/

/-- In a sound directory every entry can be read. -/
theorem Disk.Sound.readRawIfExists (h : d.Sound host intents) :
    readRawIfExists d area operationId =
      .ok ((d.file area (.entry operationId)).map FileNode.bytes) := by
  rw [Recovery.readRawIfExists]
  cases hnode : d.file area (.entry operationId) with
  | none => rfl
  | some node =>
      obtain ⟨hprivate, intent, -, hrecord⟩ := h area operationId node hnode
      have hsize : node.bytes.length ≤ maxEntryBytes := by
        rw [hrecord.bytes]
        cases area with
        | journal => exact hrecord.publishable.size
        | completed => exact length_tombstone_le host intent
      dsimp only
      rw [reject, if_neg (Nat.not_lt.mpr hsize), ok_bind, reject, if_neg (by simp [hprivate])]
      rfl

theorem Disk.Holds.readRawIfExists (h : d.Holds area operationId bytes)
    (hd : d.Sound host intents) : readRawIfExists d area operationId = .ok (some bytes) := by
  obtain ⟨node, hnode, rfl⟩ := h
  rw [hd.readRawIfExists, hnode, Option.map_some]

theorem publishable_of_ok {intent : RenameMoveIntent}
    (hvalid : intent.validate host.unicode = .ok ())
    (hbytes : canonicalBytes intent = .ok bytes) :
    Publishable host intent ∧ utf8Bytes intent.json = bytes := by
  obtain ⟨rfl, hsize⟩ := canonicalBytes_eq_ok.mp hbytes
  exact ⟨⟨hvalid, hsize⟩, rfl⟩

/-- A name that is free now was free before. -/
theorem Since.free (h : Since host intents thread d t)
    (hnone : t.file area (.entry operationId) = none) :
    d.file area (.entry operationId) = none := by
  cases hnode : d.file area (.entry operationId) with
  | none => rfl
  | some node => exact nomatch hnone.symm.trans (h.entries _ _ _ hnode)

section Publish

variable {intent : RenameMoveIntent}

/-- What a call of `publish` comes to that began on the disk `d`. -/
structure PublishEnds (host : Host) (thread : ℕ) (intent : RenameMoveIntent) (d : Disk)
    (x : Except Error PublishOutcome) (t : Disk) : Prop where
  /-- Where it succeeds, the record stands under its operation. -/
  ok : ∀ outcome, x = .ok outcome → Publishable host intent ∧
    t.Holds .journal intent.operationId (utf8Bytes intent.json)
  /-- It publishes only what was not there, and then the entry is its own. -/
  first : x = .ok .published → d.file .journal (.entry intent.operationId) = none ∧
    ∃ node, t.file .journal (.entry intent.operationId) = some node ∧ node.owner = thread
  /-- The same intent again is already published, if nothing fails. -/
  again : Publishable host intent → d.Holds .journal intent.operationId (utf8Bytes intent.json) →
    x = .ok .alreadyPublished ∨ x = .error (.io .other) ∨
      x = .error (.publishedButNotSynced .other)
  /-- A different one fails. -/
  collision : ∀ bytes, d.Holds .journal intent.operationId bytes →
    bytes ≠ utf8Bytes intent.json → ∃ e, x = .error e

theorem PublishEnds.of_error {e : Error}
    (h : Publishable host intent → d.Holds .journal intent.operationId (utf8Bytes intent.json) →
      e = .io .other ∨ e = .publishedButNotSynced .other) :
    PublishEnds host thread intent d (.error e) t where
  ok := nofun
  first := nofun
  again hpublishable hholds := by
    rcases h hpublishable hholds with rfl | rfl
    · exact .inr (.inl rfl)
    · exact .inr (.inr rfl)
  collision _ _ _ := ⟨e, rfl⟩

/-- What `publish_bytes` comes to, where no entry was there. -/
theorem Made.publishEnds {s : Disk} {x : Except Error Bool}
    (h : Made host intents thread .journal intent.operationId (utf8Bytes intent.json) s x t)
    (hpublishable : Publishable host intent)
    (hnone : d.file .journal (.entry intent.operationId) = none) :
    PublishEnds host thread intent d
      (x.map fun made => if made then .published else .alreadyPublished) t := by
  have hfree : ∀ bytes, ¬ d.Holds .journal intent.operationId bytes := by
    rintro bytes ⟨node, hnode, -⟩
    exact nomatch hnone.symm.trans hnode
  refine ⟨?_, ?_, fun _ hholds => absurd hholds (hfree _), fun _ hholds => absurd hholds (hfree _)⟩
  · match x, h with
    | .ok true, ⟨_, node, hnode, hbytes, _⟩ =>
        exact fun _ _ => ⟨hpublishable, node, hnode, hbytes⟩
    | .ok false, hholds => exact fun _ _ => ⟨hpublishable, hholds⟩
    | .error _, _ => exact nofun
  · match x, h with
    | .ok true, ⟨_, node, hnode, _, howner⟩ => exact fun _ => ⟨hnone, node, hnode, howner⟩
    | .ok false, _ => exact nofun
    | .error _, _ => exact nofun

theorem robust_publishOver (hintent : intents intent) (hpublishable : Publishable host intent)
    (hd : Since host intents thread d t) :
    CallRobust host intents thread (.publish draw intent) (PublishEnds host thread intent d)
      (publishOver thread draw intent.operationId (utf8Bytes intent.json)
        ((t.file .journal (.entry intent.operationId)).map FileNode.bytes)) t := by
  cases hentry : t.file .journal (.entry intent.operationId) with
  | none =>
      have hnone := hd.free hentry
      have hrecord : IsRecord host intent t .journal intent.operationId (utf8Bytes intent.json) :=
        ⟨hpublishable, rfl, rfl, nofun⟩
      have hmade : CallRobust host intents thread (.publish draw intent)
          (Made host intents thread .journal intent.operationId (utf8Bytes intent.json) t)
          (publishBytes thread draw .journal intent.operationId (utf8Bytes intent.json)) t :=
        robust_publishBytes hintent hrecord
      exact hmade.map fun _ _ hu => hu.publishEnds hpublishable hnone
  | some node =>
      have hholds : t.Holds .journal intent.operationId node.bytes := ⟨node, hentry, rfl⟩
      rw [Option.map_some, publishOver]
      by_cases hsame : node.bytes = utf8Bytes intent.json
      · rw [hsame] at hholds
        refine Robust.lift_bind (a := .alreadyPublished) (by rw [comparePublished, if_pos hsame]) ?_
        refine syncPublished_pure (fun u hu => ?_) fun u hu => .of_error fun _ _ => .inr rfl
        refine ⟨fun _ _ => ⟨hpublishable, hholds.mono hu.entries⟩, nofun,
          fun _ _ => .inl rfl, fun bytes hbytes hother => ?_⟩
        exact absurd ((hbytes.mono hd.entries).unique hholds) hother
      · have hcollision : comparePublished node.bytes (utf8Bytes intent.json) =
            .error .journalCollision := by rw [comparePublished, if_neg hsame]
        refine Robust.lift_bind_error hcollision fun u _ => .of_error fun _ hbound => ?_
        exact absurd (hholds.unique (hbound.mono hd.entries)) hsame

/-- **`publish`**, whatever others do and whatever fails. -/
theorem robust_publish (hintent : intents intent) (hd : d.Sound host intents) :
    CallRobust host intents thread (.publish draw intent) (PublishEnds host thread intent d)
      (publish host thread draw intent) d := by
  rw [publish]
  cases hvalid : intent.validate host.unicode with
  | error e =>
      refine Robust.lift_bind_error rfl fun _ _ => .of_error fun hpublishable _ => ?_
      exact nomatch hpublishable.valid.symm.trans hvalid
  | ok _ =>
      refine Robust.lift_bind rfl ?_
      cases hbytes : canonicalBytes intent with
      | error e =>
          refine Robust.lift_bind_error rfl fun _ _ => .of_error fun hpublishable _ => ?_
          exact nomatch hpublishable.canonical.symm.trans hbytes
      | ok bytes =>
          obtain ⟨hpublishable, rfl⟩ := publishable_of_ok hvalid hbytes
          refine Robust.lift_bind rfl
            (Robust.ask_bind (fun _ _ => .of_error fun _ _ => .inl rfl) ?_ ?_)
          · intro t found ht hfound
            rw [(ht.sound hd).readRawIfExists] at hfound
            cases hfound
            exact robust_publishOver hintent hpublishable ht.toSince
          · intro t u e ht hfound
            rw [(ht.sound hd).readRawIfExists] at hfound
            cases hfound

end Publish

/-! ### `complete` -/

section Complete

variable {expected : RenameMoveIntent}

/-- What a call of `complete` comes to that began on the disk `d`. -/
structure CompleteEnds (host : Host) (thread : ℕ) (operationId : Uuid)
    (expected : RenameMoveIntent) (d : Disk) (x : Except Error CompleteOutcome) (t : Disk) :
    Prop where
  /-- It succeeds for the intent that was published only, and then its tombstone is there. -/
  ok : ∀ outcome, x = .ok outcome → Publishable host expected ∧
    expected.operationId = operationId ∧ t.Holds .journal operationId (utf8Bytes expected.json) ∧
      t.Holds .completed operationId (recordBytes host expected .completed)
  /-- Where it fails, and not at the last synchronization, it has put no tombstone there. -/
  error : ∀ e, x = .error e → e = .publishedButNotSynced .other ∨
    ∀ node, t.file .completed (.entry operationId) = some node → node.owner = thread →
      d.file .completed (.entry operationId) = some node

theorem CompleteEnds.of_error {e : Error} (h : Since host intents thread d t) :
    CompleteEnds host thread operationId expected d (.error e) t where
  ok := nofun
  error _ _ := .inr fun node hnode howner => h.added _ _ node hnode howner

/-- What `publish_bytes` comes to, where the intent was published. -/
theorem Made.completeEnds {s : Disk} {x : Except Error Bool}
    (h : Made host intents thread .completed operationId (recordBytes host expected .completed)
      s x t)
    (hpublishable : Publishable host expected) (hid : expected.operationId = operationId)
    (hholds : t.Holds .journal operationId (utf8Bytes expected.json))
    (hd : Since host intents thread d s) :
    CompleteEnds host thread operationId expected d
      (x.map fun made => if made then .completed else .alreadyCompleted) t := by
  match x, h with
  | .ok true, ⟨_, node, hnode, hbytes, _⟩ =>
      exact ⟨fun _ _ => ⟨hpublishable, hid, hholds, node, hnode, hbytes⟩, nofun⟩
  | .ok false, htombstone => exact ⟨fun _ _ => ⟨hpublishable, hid, hholds, htombstone⟩, nofun⟩
  | .error e, .inl herror =>
      refine ⟨nofun, fun e' he' => .inl ?_⟩
      cases he'
      exact herror
  | .error e, .inr hsince => exact .of_error (hd.trans hsince)

theorem checkTombstone_eq_ok {actual : List UInt8} (hpublishable : Publishable host expected)
    (h : checkTombstone host expected actual = .ok ()) :
    actual = recordBytes host expected .completed := by
  rw [checkTombstone, Check.bind_eq_ok] at h
  obtain ⟨observed, -, h⟩ := h
  rw [seq_eq_ok, reject_eq_ok, Decidable.not_not] at h
  obtain ⟨hvalid, rfl⟩ := h
  rw [CompletionTombstone.validateFor, hpublishable.forIntent, ok_bind, reject_eq_ok,
    Decidable.not_not] at hvalid
  rw [hvalid, recordBytes]

theorem robust_completeOver (hintent : intents expected) (hpublishable : Publishable host expected)
    (hid : expected.operationId = operationId) (hd : Since host intents thread d t)
    (hholds : t.Holds .journal operationId (utf8Bytes expected.json)) :
    CallRobust host intents thread (.complete draw operationId expected)
      (CompleteEnds host thread operationId expected d)
      (completeOver host thread draw operationId expected (tombstoneOf host expected)
        ((t.file .completed (.entry operationId)).map FileNode.bytes)) t := by
  cases hentry : t.file .completed (.entry operationId) with
  | none =>
      have hrecord : IsRecord host expected t .completed operationId
          (recordBytes host expected .completed) := ⟨hpublishable, hid, rfl, fun _ => hholds⟩
      have hmade : CallRobust host intents thread (.complete draw operationId expected)
          (Made host intents thread .completed operationId (recordBytes host expected .completed) t)
          (publishBytes thread draw .completed operationId (recordBytes host expected .completed))
          t := robust_publishBytes hintent hrecord
      have hkept := hmade.keeping Disk.interference_grows (fun _ _ h => h.entries)
        (fun _ _ h => h.grows) (Disk.interference_grows.refl t)
      exact hkept.map fun _ _ ⟨hu, hgrows⟩ =>
        hu.completeEnds hpublishable hid (hholds.mono hgrows) hd
  | some node =>
      rw [Option.map_some, completeOver]
      cases hcheck : checkTombstone host expected node.bytes with
      | error e => exact Robust.lift_bind_error rfl fun u hu => .of_error (hd.trans hu.toSince)
      | ok _ =>
          have htombstone : t.Holds .completed operationId (recordBytes host expected .completed) :=
            ⟨node, hentry, checkTombstone_eq_ok hpublishable hcheck⟩
          refine Robust.lift_bind rfl (syncPublished_pure (fun u hu => ⟨?_, nofun⟩)
            fun u hu => ⟨nofun, ?_⟩)
          · exact fun _ _ =>
              ⟨hpublishable, hid, hholds.mono hu.entries, htombstone.mono hu.entries⟩
          · rintro e ⟨⟩
            exact .inl rfl

/-- What is left to do when the record of the journal was read. -/
theorem robust_completeRest (hintent : intents expected) (hid : expected.operationId = operationId)
    (hvalid : expected.validate host.unicode = .ok ()) (hsound : t.Sound host intents)
    (hd : Since host intents thread d t) {node : FileNode}
    (hentry : t.file .journal (.entry operationId) = some node) :
    CallRobust host intents thread (.complete draw operationId expected)
      (CompleteEnds host thread operationId expected d)
      (do
        let bytes ← lift (canonicalBytes expected)
        lift (reject (node.bytes ≠ bytes) .intentMismatch)
        let tombstone ← lift (CompletionTombstone.forIntent host expected)
        let existing ← ask fun d => readRawIfExists d .completed operationId
        completeOver host thread draw operationId expected tombstone existing) t := by
  cases hbytes : canonicalBytes expected with
  | error e => exact Robust.lift_bind_error rfl fun u hu => .of_error (hd.trans hu.toSince)
  | ok bytes =>
      obtain ⟨hpublishable, rfl⟩ := publishable_of_ok hvalid hbytes
      refine Robust.lift_bind rfl ?_
      by_cases hsame : node.bytes = utf8Bytes expected.json
      · have hnot : reject (node.bytes ≠ utf8Bytes expected.json) Error.intentMismatch = .ok () :=
          reject_eq_ok.mpr (not_not.mpr hsame)
        refine Robust.lift_bind hnot (Robust.lift_bind hpublishable.forIntent ?_)
        refine Robust.ask_bind (fun u hu => .of_error (hd.trans hu.toSince)) ?_
          fun u v e hu _ hv => .of_error ((hd.trans hu.toSince).trans hv.toSince)
        intro u existing hu hexisting
        rw [(hu.sound hsound).readRawIfExists] at hexisting
        cases hexisting
        exact robust_completeOver hintent hpublishable hid (hd.trans hu.toSince)
          ⟨node, hu.entries _ _ _ hentry, hsame⟩
      · have hmismatch : reject (node.bytes ≠ utf8Bytes expected.json) Error.intentMismatch =
            .error .intentMismatch := by rw [reject, if_pos hsame]
        exact Robust.lift_bind_error hmismatch fun u hu => .of_error (hd.trans hu.toSince)

/-- **`complete`**, whatever others do and whatever fails. -/
theorem robust_complete (hintent : intents expected) (hd : d.Sound host intents) :
    CallRobust host intents thread (.complete draw operationId expected)
      (CompleteEnds host thread operationId expected d)
      (complete host thread draw operationId expected) d := by
  rw [complete]
  cases hvalid : expected.validate host.unicode with
  | error e => exact Robust.lift_bind_error rfl fun t ht => .of_error ht.toSince
  | ok _ =>
      refine Robust.lift_bind rfl ?_
      by_cases hid : expected.operationId = operationId
      · have hnot : reject (expected.operationId ≠ operationId) Error.intentMismatch = .ok () :=
          reject_eq_ok.mpr (not_not.mpr hid)
        refine Robust.lift_bind hnot ?_
        refine Robust.ask_bind (fun t ht => .of_error ht.toSince) ?_
          fun t u e ht _ hu => .of_error (ht.toSince.trans hu.toSince)
        intro t found ht hfound
        rw [(ht.sound hd).readRawIfExists] at hfound
        cases hfound
        cases hentry : t.file .journal (.entry operationId) with
        | none =>
            exact Robust.lift_bind_error rfl fun u hu => .of_error (ht.toSince.trans hu.toSince)
        | some node =>
            exact Robust.lift_bind rfl
              (robust_completeRest hintent hid hvalid (ht.sound hd) ht.toSince hentry)
      · have hid' : reject (expected.operationId ≠ operationId) Error.intentMismatch =
            .error .intentMismatch := by rw [reject, if_pos hid]
        exact Robust.lift_bind_error hid' fun t ht => .of_error ht.toSince

end Complete

/-- What a call comes to that began on the disk `d`. -/
def Call.Ends (host : Host) (thread : ℕ) (d : Disk) :
    Call → Except Error Outcome → Disk → Prop
  | .publish _ intent, x, t => ∃ y, x = y.map Outcome.publish ∧ PublishEnds host thread intent d y t
  | .complete _ operationId expected, x, t =>
      ∃ y, x = y.map Outcome.complete ∧ CompleteEnds host thread operationId expected d y t

theorem robust_process (hintent : intents call.intent) (hd : d.Sound host intents) :
    CallRobust host intents thread call (call.Ends host thread d) (call.process host thread) d := by
  cases call with
  | publish draw intent =>
      exact (robust_publish hintent hd).map fun y _ hy => ⟨y, rfl, hy⟩
  | complete draw operationId expected =>
      exact (robust_complete hintent hd).map fun y _ hy => ⟨y, rfl, hy⟩

end Recovery
end MyVault
