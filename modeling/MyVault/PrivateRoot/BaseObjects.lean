import MyVault.Library.Runs
import MyVault.PrivateRoot.PublishBase

/-!
# Base objects and crashes

The calls of one `AndroidTransferStore`, one after the other, with the writers' bytes in
between.  A call may end with an error of the file system, and the process may be cut off,
before any step.

In every such run an object holds the bytes it is named after and stays, and a stage is
removed by a call that has found it short, or has found the object with the same bytes
(`Removes`).  What is left of a publication that was cut off is dealt with by the next one,
as long as an operation stands for one content (`Careful`); the copy of another content is
kept, and then the stage is never published (`copy_of_other_content_stays`).

## Two invariants

The first part of the theorem needs no condition.  `Inv` says that objects hold what they are
named after, and that whatever is left of the call that runs only takes allowed steps (`Allowed`):
none of them writes to an object, and a stage is removed for one of the two reasons in `Removes`.
So it is an invariant at every step, wherever the process ends.

The second part is about what the calls come to, and there the code relies on its callers: an
operation stands for one content, and a file that was just created is made private before the
process ends.  `CarefulInv` says that between the calls everything in the directory belongs to the
contents of the operations (`Kept`), and of a call that runs that it began on such a disk and
stays close to it (`Continues`) until it returns (`Returns`).
-/

namespace MyVault
namespace PrivateRoot

open Process Check Runs

/-! ## The world -/

/-- A call of the private store. -/
inductive Call where
  | beginStage (operationId : Uuid)
  | finishStage (writer : AndroidStageWriter) (expectedSha256 : String) (expectedByteLen : ℕ)
  | loadVerifiedStage (operationId : Uuid) (expectedSha256 : String) (expectedByteLen : ℕ)
  | discardIncompleteStage (operationId : Uuid) (expectedSha256 : String) (expectedByteLen : ℕ)
  | publishBase (stage : VerifiedAndroidStage)

/-- What a call returns. -/
inductive Answer where
  | writer (writer : AndroidStageWriter)
  | stage (stage : VerifiedAndroidStage)
  | discarded
  | base (base : NativeBaseObjectRef)
  deriving DecidableEq

/-- The private directory, what the callers hold, and the call that runs. -/
structure World where
  disk : Disk
  /-- The writers that are held, by the identity of their file. -/
  writers : ℕ → Option AndroidStageWriter
  /-- The verified stages that are held. -/
  stages : List VerifiedAndroidStage
  running : Option (Call × Proc Answer)

/-- Nothing is there. -/
def World.initial : World := ⟨.empty, fun _ => none, [], none⟩

/-- What may happen, in any order. -/
inductive Event where
  /-- A call begins, if none runs and its handle is held. -/
  | start (call : Call)
  /-- A writer that is held writes one byte, between two calls. -/
  | write (identity : ℕ) (byte : UInt8)
  /-- The call that runs takes its next step, or returns. -/
  | advance
  /-- The call that runs returns with an error of the file system. -/
  | fail
  /-- The process ends where it is. -/
  | cut

section Step

variable (sha256 : Sha256) (umask : ℕ)

/-- The steps of a call. -/
def Call.process : Call → Proc Answer
  | .beginStage operationId => do
      let writer ← PrivateRoot.beginStage operationId
      pure (.writer writer)
  | .finishStage writer expectedSha256 expectedByteLen => do
      let stage ← PrivateRoot.finishStage sha256 writer expectedSha256 expectedByteLen
      pure (.stage stage)
  | .loadVerifiedStage operationId expectedSha256 expectedByteLen => do
      let stage ← PrivateRoot.loadVerifiedStage sha256 operationId expectedSha256 expectedByteLen
      pure (.stage stage)
  | .discardIncompleteStage operationId expectedSha256 expectedByteLen => do
      PrivateRoot.discardIncompleteStage operationId expectedSha256 expectedByteLen
      pure .discarded
  | .publishBase stage => do
      let base ← PrivateRoot.publishBase sha256 stage
      pure (.base base)

/-- The handle a call is given is held. -/
def Call.Held (world : World) : Call → Prop
  | .finishStage writer _ _ => world.writers writer.identity = some writer
  | .publishBase stage => stage ∈ world.stages
  | _ => True

instance (world : World) (call : Call) : Decidable (call.Held world) := by
  cases call <;> unfold Call.Held <;> infer_instance

/-- `finish_stage` takes its writer. -/
def Call.take (world : World) : Call → World
  | .finishStage writer _ _ =>
      { world with writers := Function.update world.writers writer.identity none }
  | _ => world

/-- What a call returns is held. -/
def World.hold (world : World) : Except TransferStoreError Answer → World
  | .ok (.writer writer) =>
      { world with writers := Function.update world.writers writer.identity (some writer) }
  | .ok (.stage stage) => { world with stages := stage :: world.stages }
  | _ => world

/-- One byte through a handle; it is lost with a file whose name is gone. -/
def Disk.append (d : Disk) (name : Name) (identity : ℕ) (byte : UInt8) : Disk :=
  match d.files name with
  | some file =>
      if file.identity = identity then
        d.withFile name (some { file with bytes := file.bytes ++ [byte] })
      else d
  | none => d

/-- `AndroidStageWriter::write`, of one byte. -/
def World.write (world : World) (identity : ℕ) (byte : UInt8) : World :=
  match world.writers identity with
  | none => world
  | some writer =>
      if maxAndroidTransferBytes < writer.written + 1 then world
      else
        { world with
          disk := world.disk.append (.stage writer.operationId) identity byte
          writers := Function.update world.writers identity (some { writer with
            digest := writer.digest ++ [byte], written := writer.written + 1 }) }

/-- The call that runs takes its next step, or returns. -/
def World.advance (world : World) : World :=
  match world.running with
  | none => world
  | some (call, rest) =>
      match rest.result world.disk with
      | some answer => { world with running := none }.hold answer
      | none =>
          let after := rest.advance (Step.run umask) world.disk
          { world with disk := after.2, running := some (call, after.1) }

/-- The world after an event. -/
def step (world : World) : Event → World
  | .start call =>
      if world.running.isSome ∨ ¬ call.Held world then world
      else { call.take world with running := some (call, call.process sha256) }
  | .write identity byte => if world.running.isSome then world else world.write identity byte
  | .advance => world.advance umask
  | .fail => { world with running := none }
  | .cut => { world with running := none, writers := fun _ => none, stages := [] }

end Step

/-! ## What every run keeps -/

/-- Why a call removes this stage. -/
def Removes (sha256 : Sha256) (call : Call) (operationId : Uuid) (file : FileNode) (u : Disk) :
    Prop :=
  match call with
  | .discardIncompleteStage discarded _ expectedByteLen =>
      discarded = operationId ∧ file.bytes.length < expectedByteLen
  | .publishBase stage =>
      stage.operationId = operationId ∧ IsExact sha256 stage file.bytes ∧
        ∃ identity, Shows u (.blob stage.sha256) identity file.bytes
  | _ => False

/-- The steps that are left to a call. -/
def Allowed (sha256 : Sha256) (call : Call) : Step → Disk → Prop
  | .createNew name, _ => ∀ digest, name ≠ .blob digest
  | .harden name, _ => ∀ digest, name ≠ .blob digest
  | .write name _, _ => ∀ digest, name ≠ .blob digest
  | .remove name, u => (∃ operationId, name = .pending operationId) ∨
      ∃ operationId, name = .stage operationId ∧
        ∀ file, u.files name = some file → Removes sha256 call operationId file u
  | .rename source destination, u => ∃ operationId file, source = .pending operationId ∧
      u.files source = some file ∧ destination = .blob (hexSha256 sha256 file.bytes)
  | .sync _, _ => True

/-- Objects hold what they are named after. -/
def Hashes (sha256 : Sha256) (d : Disk) : Prop :=
  ∀ digest file, d.files (.blob digest) = some file → hexSha256 sha256 file.bytes = digest

section Steps

variable {sha256 : Sha256} {umask : ℕ} {call : Call} {st : Step} {d u : Disk}

/-- A step leaves the objects, but for one it may put where there was none. -/
theorem Allowed.blob (h : Allowed sha256 call st u) (digest : String) :
    (Step.run umask st u).2.files (.blob digest) = u.files (.blob digest) ∨
      u.files (.blob digest) = none ∧ ∃ file,
        (Step.run umask st u).2.files (.blob digest) = some file ∧
          hexSha256 sha256 file.bytes = digest := by
  cases st with
  | createNew name =>
      rw [Step.run]
      split
      · exact .inl rfl
      · exact .inl (u.files_withNew_of_ne _ (h digest).symm)
  | harden name => exact .inl (u.files_withFile_of_ne _ (h digest).symm)
  | write name byte => exact .inl (u.files_withFile_of_ne _ (h digest).symm)
  | remove name =>
      rw [Step.run]
      split
      · refine .inl (u.files_withFile_of_ne _ ?_)
        rcases h with ⟨operationId, rfl⟩ | ⟨operationId, rfl, -⟩
        · rintro ⟨⟩
        · rintro ⟨⟩
      · exact .inl rfl
  | sync point => exact .inl rfl
  | rename source destination =>
      obtain ⟨operationId, file, rfl, hfile, rfl⟩ := h
      rw [Step.run, hfile]
      dsimp only
      split
      · exact .inl rfl
      · rename_i hfree
        rw [Option.not_isSome_iff_eq_none] at hfree
        have hne : Name.blob digest ≠ .pending operationId := by rintro ⟨⟩
        rw [Disk.files_withFile_of_ne _ _ hne]
        by_cases hname : digest = hexSha256 sha256 file.bytes
        · subst hname
          exact .inr ⟨hfree, file, Disk.files_withFile_self .., rfl⟩
        · refine .inl (u.files_withFile_of_ne _ fun hblob => hname ?_)
          cases hblob
          rfl

/-- A stage goes by a step of its own. -/
theorem Allowed.removes (h : Allowed sha256 call st u) {operationId : Uuid} {file : FileNode}
    (hfile : u.files (.stage operationId) = some file)
    (hgone : (Step.run umask st u).2.files (.stage operationId) = none) :
    Removes sha256 call operationId file u := by
  have hmap : ∀ (name : Name) (f : FileNode → FileNode),
      (u.withFile name ((u.files name).map f)).files (.stage operationId) ≠ none := by
    intro name f
    rw [Disk.files_withFile]
    split
    · rename_i hname
      subst hname
      rw [hfile]
      rintro ⟨⟩
    · rw [hfile]
      rintro ⟨⟩
  cases st with
  | createNew name =>
      rw [Step.run] at hgone
      split at hgone
      · cases hfile.symm.trans hgone
      · dsimp only at hgone
        rw [Disk.files_withNew] at hgone
        split at hgone
        · cases hgone
        · cases hfile.symm.trans hgone
  | harden name => exact absurd hgone (hmap name _)
  | write name byte => exact absurd hgone (hmap name _)
  | remove name =>
      rcases h with ⟨other, rfl⟩ | ⟨other, rfl, hremoves⟩
      · rw [Step.run] at hgone
        split at hgone
        · have hne : Name.stage operationId ≠ .pending other := by rintro ⟨⟩
          rw [Disk.files_withFile_of_ne _ _ hne] at hgone
          cases hfile.symm.trans hgone
        · cases hfile.symm.trans hgone
      · by_cases hname : operationId = other
        · subst hname
          exact hremoves file hfile
        · have hne : Name.stage operationId ≠ .stage other := fun hstage => by
            cases hstage
            exact hname rfl
          rw [Step.run] at hgone
          split at hgone
          · rw [Disk.files_withFile_of_ne _ _ hne] at hgone
            cases hfile.symm.trans hgone
          · cases hfile.symm.trans hgone
  | sync point => cases hfile.symm.trans hgone
  | rename source destination =>
      obtain ⟨other, found, rfl, hfound, rfl⟩ := h
      rw [Step.run, hfound] at hgone
      dsimp only at hgone
      split at hgone
      · cases hfile.symm.trans hgone
      · have hpending : Name.stage operationId ≠ .pending other := by rintro ⟨⟩
        have hblob : Name.stage operationId ≠ .blob (hexSha256 sha256 found.bytes) := by rintro ⟨⟩
        rw [Disk.files_withFile_of_ne _ _ hpending, Disk.files_withFile_of_ne _ _ hblob] at hgone
        cases hfile.symm.trans hgone

end Steps

/-! ### The calls -/

section Calls

variable {sha256 : Sha256} {umask : ℕ} {d u : Disk}

/-- No file is left that a group or the world may read. -/
def Disk.Private (d : Disk) : Prop :=
  ∀ name file, d.files name = some file → file.isPrivate = true

/-- A disk a call comes to that puts the contents of the operations in their places. -/
structure Continues (sha256 : Sha256) (content : Uuid → List UInt8) (d u : Disk) : Prop where
  stage : ∀ operationId, u.files (.stage operationId) = d.files (.stage operationId) ∨
    u.files (.stage operationId) = none ∨ operationId.isNil = false ∧
      ∃ file, u.files (.stage operationId) = some file ∧ file.bytes = []
  pending : ∀ operationId, u.files (.pending operationId) = d.files (.pending operationId) ∨
    u.files (.pending operationId) = none ∨
      ∃ file, u.files (.pending operationId) = some file ∧ file.bytes <+: content operationId
  blob : ∀ digest, u.files (.blob digest) = d.files (.blob digest) ∨
    ∃ operationId file, digest = hexSha256 sha256 (content operationId) ∧
      u.files (.blob digest) = some file ∧ file.bytes = content operationId

/-- How a call ends: all files are private again, and a new writer has written nothing. -/
structure Returns (sha256 : Sha256) (content : Uuid → List UInt8) (d : Disk)
    (x : Except TransferStoreError Answer) (u : Disk) : Prop where
  continues : Continues sha256 content d u
  isPrivate : d.Private → u.Private
  writer : ∀ writer, x = .ok (.writer writer) → writer.written = 0 ∧
    ∃ file, u.files (.stage writer.operationId) = some file ∧ file.bytes = []

theorem Continues.refl (sha256 : Sha256) (content : Uuid → List UInt8) (d : Disk) :
    Continues sha256 content d d :=
  ⟨fun _ => .inl rfl, fun _ => .inl rfl, fun _ => .inl rfl⟩

/-- Only a stage is another one. -/
theorem Continues.of_apart {content : Uuid → List UInt8} {operationId : Uuid}
    (h : Apart (.stage operationId) d u)
    (hstage : u.files (.stage operationId) = d.files (.stage operationId) ∨
      u.files (.stage operationId) = none ∨ operationId.isNil = false ∧
        ∃ file, u.files (.stage operationId) = some file ∧ file.bytes = []) :
    Continues sha256 content d u where
  stage other := by
    by_cases hother : other = operationId
    · subst hother
      exact hstage
    · refine .inl (h _ fun hname => hother ?_)
      cases hname
      rfl
  pending _ := .inl (h _ nofun)
  blob _ := .inl (h _ nofun)

theorem Disk.Private.withFile (h : d.Private) (name : Name) {file : Option FileNode}
    (hfile : ∀ node, file = some node → node.isPrivate = true) :
    (d.withFile name file).Private := by
  intro other node hnode
  rw [Disk.files_withFile] at hnode
  split at hnode
  · exact hfile node hnode
  · exact h other node hnode

/-- A file that was just made private, and nothing else. -/
theorem Disk.Private.of_apart {name : Name} {file : FileNode} (h : d.Private)
    (hapart : Apart name d u) (hfile : u.files name = some file)
    (hprivate : file.isPrivate = true) :
    u.Private := by
  intro other node hnode
  by_cases hother : other = name
  · subst hother
    cases hfile.symm.trans hnode
    exact hprivate
  · rw [hapart other hother] at hnode
    exact h other node hnode

theorem safe_beginStage (content : Uuid → List UInt8) (operationId : Uuid) :
    Safe (Step.run umask)
      (fun st u => Allowed sha256 (.beginStage operationId) st u ∧ Continues sha256 content d u)
      (fun x u => Returns sha256 content d (x.map .writer) u) (beginStage operationId) d := by
  have hrefl := Continues.refl sha256 content d
  have hend : ∀ e, Returns sha256 content d (.error e) d := fun e => ⟨hrefl, id, by rintro _ ⟨⟩⟩
  cases hcheck : reject (operationId.isNil = true) TransferStoreError.invalidOperationId with
  | error e => exact .lift_bind_error hcheck (hend e)
  | ok _ =>
      refine .lift_bind hcheck ?_
      rw [reject_eq_ok, Bool.not_eq_true] at hcheck
      cases hfile : d.files (.stage operationId) with
      | some file =>
          have hcreate : Step.run umask (.createNew (.stage operationId)) d =
              (.error (.io .alreadyExists), d) := by
            rw [Step.run, hfile]
            rfl
          exact .perform_bind ⟨by rintro _ ⟨⟩, hrefl⟩ hcreate (.lift_bind_error rfl (hend _))
      | none =>
          have hcreate : Step.run umask (.createNew (.stage operationId)) d =
              (.ok (), d.withNew (.stage operationId) (Snapshots.fileMode umask)) := by
            rw [Step.run, hfile]
            rfl
          refine .perform_bind ⟨by rintro _ ⟨⟩, hrefl⟩ hcreate (.lift_bind rfl ?_)
          have hnew := d.files_withNew_self (.stage operationId) (Snapshots.fileMode umask)
          have hmade := (Apart.refl (.stage operationId) d).withNew (Snapshots.fileMode umask)
          generalize d.withNew (.stage operationId) (Snapshots.fileMode umask) = created
            at hnew hmade
          have hcreated : Continues sha256 content d created :=
            .of_apart hmade (.inr (.inr ⟨hcheck, _, hnew, rfl⟩))
          have hharden : Step.run umask (.harden (.stage operationId)) created =
              (.ok (), created.withFile (.stage operationId)
                (some ⟨d.nextIdentity, 0o600, []⟩)) := by
            rw [Step.run, hnew]
            rfl
          refine .io_bind ⟨by rintro _ ⟨⟩, hcreated⟩ hharden ?_
          have hfile := created.files_withFile_self (.stage operationId)
            (some ⟨d.nextIdentity, 0o600, []⟩)
          have hapart := hmade.withFile (some ⟨d.nextIdentity, 0o600, []⟩)
          generalize created.withFile (.stage operationId) (some ⟨d.nextIdentity, 0o600, []⟩) = u
            at hfile hapart
          have hcontinues : Continues sha256 content d u :=
            .of_apart hapart (.inr (.inr ⟨hcheck, _, hfile, rfl⟩))
          have hmode : Snapshots.isPrivateFileMode 0o600 = true := by decide
          refine .ask_bind (openFile_eq_ok.mpr ⟨hfile, hmode⟩) ?_
          refine .io_bind ⟨trivial, hcontinues⟩ rfl (.io_bind ⟨trivial, hcontinues⟩ rfl ?_)
          refine ⟨hcontinues, fun hprivate => hprivate.of_apart hapart hfile hmode, ?_⟩
          rintro writer hwriter
          cases hwriter
          exact ⟨rfl, _, hfile, rfl⟩

/-- `finish_stage` only looks. -/
theorem safe_finishStage (content : Uuid → List UInt8) (writer : AndroidStageWriter)
    (expectedSha256 : String) (expectedByteLen : ℕ) :
    Safe (Step.run umask)
      (fun st u => Allowed sha256 (.finishStage writer expectedSha256 expectedByteLen) st u ∧
        Continues sha256 content d u)
      (fun x u => Returns sha256 content d (x.map .stage) u)
      (finishStage sha256 writer expectedSha256 expectedByteLen) d := by
  have hrefl := Continues.refl sha256 content d
  have hend : ∀ x : Except TransferStoreError VerifiedAndroidStage,
      Returns sha256 content d (x.map .stage) d := by
    intro x
    refine ⟨hrefl, id, fun w hw => ?_⟩
    cases x <;> exact nomatch hw
  cases hcheck : validateExpected expectedSha256 expectedByteLen with
  | error e => exact .lift_bind_error hcheck (hend (.error e))
  | ok _ =>
      refine .lift_bind hcheck (.io_bind ⟨trivial, hrefl⟩ rfl ?_)
      refine (Safe.ask (Q := fun _ u => u = d) rfl).bind ?_ ?_
      · rintro stage u rfl
        exact .io_bind ⟨trivial, hrefl⟩ rfl (hend (.ok stage))
      · rintro e u rfl
        exact hend (.error e)

/-- `load_verified_stage` takes no step. -/
theorem safe_loadVerifiedStage {I : Step → Disk → Prop} (operationId : Uuid)
    (expectedSha256 : String) (expectedByteLen : ℕ) :
    Safe (Step.run umask) I (fun _ u => u = d)
      (loadVerifiedStage sha256 operationId expectedSha256 expectedByteLen) d := by
  cases hnil : reject (operationId.isNil = true) TransferStoreError.invalidOperationId with
  | error e => exact .lift_bind_error hnil rfl
  | ok _ =>
      refine .lift_bind hnil ?_
      cases validateExpected expectedSha256 expectedByteLen with
      | error e => exact .lift_bind_error rfl rfl
      | ok _ => exact .lift_bind rfl (.ask rfl)

theorem safe_discardIncompleteStage (content : Uuid → List UInt8) (operationId : Uuid)
    (expectedSha256 : String) (expectedByteLen : ℕ) :
    Safe (Step.run umask)
      (fun st u => Allowed sha256
          (.discardIncompleteStage operationId expectedSha256 expectedByteLen) st u ∧
        Continues sha256 content d u)
      (fun x u => Returns sha256 content d (x.map fun _ => .discarded) u)
      (discardIncompleteStage operationId expectedSha256 expectedByteLen) d := by
  have hrefl := Continues.refl sha256 content d
  have hend : ∀ e, Returns sha256 content d (.error e) d := fun e => ⟨hrefl, id, by rintro _ ⟨⟩⟩
  cases hnil : reject (operationId.isNil = true) TransferStoreError.invalidOperationId with
  | error e => exact .lift_bind_error hnil (hend e)
  | ok _ =>
      refine .lift_bind hnil ?_
      cases validateExpected expectedSha256 expectedByteLen with
      | error e => exact .lift_bind_error rfl (hend e)
      | ok _ =>
          refine .lift_bind rfl ?_
          cases hlook : discardIncompleteStage.look operationId expectedByteLen d with
          | error e => exact .ask_bind_error hlook (hend e)
          | ok _ =>
              obtain ⟨held, hopen, hrest⟩ := bind_eq_ok.mp hlook
              obtain ⟨hshort, -⟩ := seq_eq_ok.mp hrest
              obtain ⟨hfile, -⟩ := openFile_eq_ok.mp hopen
              rw [reject_eq_ok, not_or, Nat.not_le] at hshort
              have hremove : Step.run umask (.remove (.stage operationId)) d =
                  (.ok (), d.withFile (.stage operationId) none) := by
                rw [Step.run, hfile]
                rfl
              have hallowed : Allowed sha256
                  (.discardIncompleteStage operationId expectedSha256 expectedByteLen)
                  (.remove (.stage operationId)) d := by
                refine .inr ⟨operationId, rfl, fun file hfound => ?_⟩
                cases hfile.symm.trans hfound
                exact ⟨rfl, hshort.1⟩
              have hgone : Continues sha256 content d (d.withFile (.stage operationId) none) :=
                .of_apart ((Apart.refl _ d).withFile none)
                  (.inr (.inl (d.files_withFile_self _ none)))
              refine .ask_bind hlook (.io_bind ⟨hallowed, hrefl⟩ hremove (.io ⟨trivial, hgone⟩ ?_))
              exact ⟨hgone, fun hprivate => hprivate.withFile _ (by rintro _ ⟨⟩), by rintro _ ⟨⟩⟩

/-- The contents of the operations a call names. -/
def Call.Names (sha256 : Sha256) (content : Uuid → List UInt8) : Call → Prop
  | .beginStage _ => True
  | .finishStage writer expectedSha256 expectedByteLen =>
      named writer.operationId expectedSha256 expectedByteLen
  | .loadVerifiedStage operationId expectedSha256 expectedByteLen =>
      named operationId expectedSha256 expectedByteLen
  | .discardIncompleteStage operationId expectedSha256 expectedByteLen =>
      named operationId expectedSha256 expectedByteLen
  | .publishBase stage => named stage.operationId stage.sha256 stage.byteLen
where
  named (operationId : Uuid) (expectedSha256 : String) (expectedByteLen : ℕ) : Prop :=
    expectedSha256 = hexSha256 sha256 (content operationId) ∧
      expectedByteLen = (content operationId).length

theorem Within.allowed {stage : VerifiedAndroidStage} {bytes : List UInt8} {st : Step}
    (hexact : IsExact sha256 stage bytes) (h : Within stage bytes d st u) :
    Allowed sha256 (.publishBase stage) st u := by
  obtain ⟨hpublishing, -⟩ := h
  cases st with
  | createNew name =>
      subst hpublishing
      exact nofun
  | harden name =>
      subst hpublishing
      exact nofun
  | write name byte =>
      subst hpublishing
      exact nofun
  | remove name =>
      obtain rfl | ⟨rfl, ⟨_, file, hfile, -, -, rfl⟩, hbase⟩ := hpublishing
      · exact .inl ⟨_, rfl⟩
      · refine .inr ⟨_, rfl, fun found hfound => ?_⟩
        cases hfile.symm.trans hfound
        exact ⟨rfl, hexact, hbase⟩
  | rename source destination =>
      obtain ⟨rfl, rfl, _, file, hfile, -, -, rfl⟩ := hpublishing
      exact ⟨_, file, rfl, hfile, by rw [hexact.digest]⟩
  | sync point => trivial

theorem Reaches.continues {content : Uuid → List UInt8} {stage : VerifiedAndroidStage}
    (hnamed : (Call.publishBase stage).Names sha256 content)
    (h : Reaches stage (content stage.operationId) d u) : Continues sha256 content d u where
  stage operationId := by
    by_cases hop : operationId = stage.operationId
    · subst hop
      exact h.staged.imp_right .inl
    · refine .inl (h.apart _ (fun hname => hop ?_) nofun nofun)
      cases hname
      rfl
  pending operationId := by
    by_cases hop : operationId = stage.operationId
    · subst hop
      exact h.pending
    · refine .inl (h.apart _ nofun (fun hname => hop ?_) nofun)
      cases hname
      rfl
  blob digest := by
    by_cases hdigest : digest = stage.sha256
    · subst hdigest
      rcases h.blob with hsame | ⟨-, file, hfile, hbytes⟩
      · exact .inl hsame
      · exact .inr ⟨stage.operationId, file, hnamed.1, hfile, hbytes⟩
    · refine .inl (h.apart _ nofun nofun fun hname => hdigest ?_)
      cases hname
      rfl

end Calls

/-! ## Runs -/

section Runs

variable {sha256 : Sha256} {umask : ℕ} {content : Uuid → List UInt8} {world : World}

/-- **Every call takes steps that are left to it.** -/
theorem safe_process (call : Call) (d : Disk) :
    Safe (Step.run umask) (Allowed sha256 call) (fun _ _ => True) (call.process sha256) d := by
  have hdone : ∀ {α : Type} (f : α → Answer) (p : Proc α) {Q : Except TransferStoreError α → Disk →
      Prop}, Safe (Step.run umask) (Allowed sha256 call) Q p d →
      Safe (Step.run umask) (Allowed sha256 call) (fun _ _ => True)
        (p >>= fun a => (pure (f a) : Proc Answer)) d :=
    fun f p Q h => h.bind (fun _ _ _ => trivial) fun _ _ _ => trivial
  cases call with
  | beginStage operationId =>
      exact hdone _ _ ((safe_beginStage (fun _ => []) operationId).mono (fun _ _ hI => hI.1)
        fun _ _ hQ => hQ)
  | finishStage writer expectedSha256 expectedByteLen =>
      exact hdone _ _ ((safe_finishStage (fun _ => []) writer expectedSha256 expectedByteLen).mono
        (fun _ _ hI => hI.1) fun _ _ hQ => hQ)
  | loadVerifiedStage operationId expectedSha256 expectedByteLen =>
      exact hdone _ _ (safe_loadVerifiedStage operationId expectedSha256 expectedByteLen)
  | discardIncompleteStage operationId expectedSha256 expectedByteLen =>
      exact hdone _ _ ((safe_discardIncompleteStage (fun _ => []) operationId expectedSha256
        expectedByteLen).mono (fun _ _ hI => hI.1) fun _ _ hQ => hQ)
  | publishBase stage =>
      cases hread : readVerifiedStage sha256 d stage with
      | error e =>
          refine hdone _ _ (Safe.ask_bind_error (Q := fun _ _ => True) hread trivial)
      | ok bytes =>
          obtain ⟨hexact, -⟩ := readVerifiedStage_eq_ok.mp hread
          exact hdone _ _ ((safe_publishBase hread).mono (fun _ _ hI => hI.allowed hexact)
            fun _ _ hQ => hQ)

/-- The invariant of every run. -/
structure Inv (sha256 : Sha256) (umask : ℕ) (world : World) : Prop where
  hashes : Hashes sha256 world.disk
  safe : ∀ call rest, world.running = some (call, rest) →
    Safe (Step.run umask) (Allowed sha256 call) (fun _ _ => True) rest world.disk

theorem Disk.append_files (d : Disk) (operationId : Uuid) (identity : ℕ) (byte : UInt8)
    (name : Name) (hname : ∀ operationId, name ≠ .stage operationId) :
    (d.append (.stage operationId) identity byte).files name = d.files name := by
  rw [Disk.append]
  split
  · split
    · exact d.files_withFile_of_ne _ (hname operationId)
    · rfl
  · rfl

theorem World.hold_disk (world : World) (answer : Except TransferStoreError Answer) :
    (world.hold answer).disk = world.disk ∧ (world.hold answer).running = world.running := by
  cases answer with
  | error e => exact ⟨rfl, rfl⟩
  | ok answer => cases answer <;> exact ⟨rfl, rfl⟩

theorem Call.take_disk (world : World) (call : Call) : (call.take world).disk = world.disk := by
  cases call <;> rfl

/-- What an event does to the disk. -/
theorem disk_step (hinv : Inv sha256 umask world) (event : Event) :
    (step sha256 umask world event).disk = world.disk ∨
      (∃ operationId identity byte, (step sha256 umask world event).disk =
        world.disk.append (.stage operationId) identity byte) ∨
      ∃ call rest st, world.running = some (call, rest) ∧ Allowed sha256 call st world.disk ∧
        (step sha256 umask world event).disk = (Step.run umask st world.disk).2 := by
  cases event with
  | start call =>
      rw [step]
      split
      · exact .inl rfl
      · exact .inl (call.take_disk world)
  | write identity byte =>
      rw [step]
      split
      · exact .inl rfl
      · rw [World.write]
        split
        · exact .inl rfl
        · split
          · exact .inl rfl
          · exact .inr (.inl ⟨_, identity, byte, rfl⟩)
  | advance =>
      rw [step, World.advance]
      split
      · exact .inl rfl
      · rename_i call rest hrunning
        split
        · exact .inl (World.hold_disk _ _).1
        · rename_i hresult
          obtain ⟨st, hnext, hdisk⟩ := advance_of_result (Step.run umask) rest hresult
          exact .inr (.inr ⟨call, rest, st, hrunning, (hinv.safe call rest hrunning).of_next hnext,
            hdisk⟩)
  | fail => exact .inl rfl
  | cut => exact .inl rfl

theorem inv_initial : Inv sha256 umask .initial := ⟨nofun, nofun⟩

/-- Objects stay under every event. -/
theorem Inv.blob (hinv : Inv sha256 umask world) (event : Event) (digest : String) :
    (step sha256 umask world event).disk.files (.blob digest) = world.disk.files (.blob digest) ∨
      world.disk.files (.blob digest) = none ∧ ∃ file,
        (step sha256 umask world event).disk.files (.blob digest) = some file ∧
          hexSha256 sha256 file.bytes = digest := by
  rcases disk_step hinv event with hsame | ⟨operationId, identity, byte, happend⟩ |
    ⟨call, rest, st, -, hallowed, hrun⟩
  · exact .inl (by rw [hsame])
  · rw [happend]
    exact .inl (world.disk.append_files operationId identity byte _ nofun)
  · rw [hrun]
    exact hallowed.blob digest

theorem inv_step (hinv : Inv sha256 umask world) (event : Event) :
    Inv sha256 umask (step sha256 umask world event) where
  hashes digest file hfile := by
    rcases hinv.blob event digest with hsame | ⟨-, found, hfound, hhash⟩
    · exact hinv.hashes digest file (hsame ▸ hfile)
    · cases hfound.symm.trans hfile
      exact hhash
  safe := by
    cases event with
    | start call =>
        rw [step]
        split
        · exact hinv.safe
        · rintro call' rest hrunning
          cases hrunning
          exact safe_process call _
    | write identity byte =>
        rw [step]
        split
        · exact hinv.safe
        · rename_i hidle
          rw [World.write]
          split
          · exact hinv.safe
          · split
            · exact hinv.safe
            · intro call rest hrunning
              exact absurd (Option.isSome_of_eq_some hrunning) hidle
    | advance =>
        rw [step, World.advance]
        split
        · exact hinv.safe
        · rename_i call rest hrunning
          split
          · intro call' rest' hrunning'
            rw [(World.hold_disk _ _).2] at hrunning'
            exact nomatch hrunning'
          · rintro call' rest' hrunning'
            cases hrunning'
            exact (hinv.safe call rest hrunning).advance
    | fail => exact nofun
    | cut => exact nofun

/-- **A stage is removed by a call that may.** -/
theorem Inv.removes (hinv : Inv sha256 umask world) {event : Event} {operationId : Uuid}
    {file : FileNode} (hfile : world.disk.files (.stage operationId) = some file)
    (hgone : (step sha256 umask world event).disk.files (.stage operationId) = none) :
    ∃ call rest, world.running = some (call, rest) ∧
      Removes sha256 call operationId file world.disk := by
  rcases disk_step hinv event with hsame | ⟨other, identity, byte, happend⟩ |
    ⟨call, rest, st, hrunning, hallowed, hrun⟩
  · rw [hsame, hfile] at hgone
    exact nomatch hgone
  · rw [happend, Disk.append] at hgone
    split at hgone
    · rename_i found hfound
      split at hgone
      · rw [Disk.files_withFile] at hgone
        split at hgone
        · exact nomatch hgone
        · exact nomatch hfile.symm.trans hgone
      · exact nomatch hfile.symm.trans hgone
    · exact nomatch hfile.symm.trans hgone
  · rw [hrun] at hgone
    exact ⟨call, rest, hrunning, hallowed.removes hfile hgone⟩

/-! ### One content for each operation -/

/-- These bytes have the length and the digest of the content of the operation. -/
def Matches (sha256 : Sha256) (content : Uuid → List UInt8) (operationId : Uuid)
    (bytes : List UInt8) : Prop :=
  hexSha256 sha256 bytes = hexSha256 sha256 (content operationId) ∧
    bytes.length = (content operationId).length

/-- Every call names the content of its operation, and no writer writes another text with the
digest of it; and where a call is cut off or fails, no file is left that was just created
and is not private yet. -/
def Careful (sha256 : Sha256) (content : Uuid → List UInt8) (world : World) : Event → Prop
  | .start call => call.Names sha256 content
  | .write identity byte => ∀ writer file, world.writers identity = some writer →
      world.disk.files (.stage writer.operationId) = some file → file.identity = identity →
        Matches sha256 content writer.operationId (file.bytes ++ [byte]) →
          file.bytes ++ [byte] = content writer.operationId
  | .advance => True
  | .fail => world.disk.Private
  | .cut => world.disk.Private

/-- What stands in the two directories belongs to the contents of the operations. -/
structure Kept (sha256 : Sha256) (content : Uuid → List UInt8) (d : Disk) : Prop where
  stage : ∀ operationId file, d.files (.stage operationId) = some file →
    operationId.isNil = false ∧ file.bytes.length ≤ maxAndroidTransferBytes ∧
      (Matches sha256 content operationId file.bytes → file.bytes = content operationId)
  pending : ∀ operationId file, d.files (.pending operationId) = some file →
    file.bytes <+: content operationId
  blob : ∀ digest file, d.files (.blob digest) = some file →
    ∃ operationId, digest = hexSha256 sha256 (content operationId) ∧
      file.bytes = content operationId

/-- A writer that is held has written all there is in its file, and no more than it may. -/
def Counts (writers : ℕ → Option AndroidStageWriter) (d : Disk) : Prop :=
  ∀ identity writer, writers identity = some writer →
    writer.written ≤ maxAndroidTransferBytes ∧
      ∀ file, d.files (.stage writer.operationId) = some file → file.identity = identity →
        file.bytes.length ≤ writer.written

theorem Kept.continues {d u : Disk} (h : Kept sha256 content d)
    (hcontinues : Continues sha256 content d u) : Kept sha256 content u where
  stage operationId file hfile := by
    rcases hcontinues.stage operationId with hsame | hnone | ⟨hnil, found, hfound, hempty⟩
    · exact h.stage operationId file (hsame ▸ hfile)
    · exact nomatch hnone.symm.trans hfile
    · cases hfound.symm.trans hfile
      rw [hempty]
      refine ⟨hnil, Nat.zero_le _, fun hmatches => ?_⟩
      exact (List.eq_nil_of_length_eq_zero hmatches.2.symm).symm
  pending operationId file hfile := by
    rcases hcontinues.pending operationId with hsame | hnone | ⟨found, hfound, hpart⟩
    · exact h.pending operationId file (hsame ▸ hfile)
    · exact nomatch hnone.symm.trans hfile
    · cases hfound.symm.trans hfile
      exact hpart
  blob digest file hfile := by
    rcases hcontinues.blob digest with hsame | ⟨operationId, found, hdigest, hfound, hbytes⟩
    · exact h.blob digest file (hsame ▸ hfile)
    · cases hfound.symm.trans hfile
      exact ⟨operationId, hdigest, hbytes⟩

theorem Counts.continues {writers : ℕ → Option AndroidStageWriter} {d u : Disk}
    (h : Counts writers d) (hcontinues : Continues sha256 content d u) : Counts writers u := by
  intro identity writer hwriter
  obtain ⟨hlimit, hcount⟩ := h identity writer hwriter
  refine ⟨hlimit, fun file hfile hid => ?_⟩
  rcases hcontinues.stage writer.operationId with hsame | hnone | ⟨-, found, hfound, hempty⟩
  · exact hcount file (hsame ▸ hfile) hid
  · exact nomatch hnone.symm.trans hfile
  · cases hfound.symm.trans hfile
    rw [hempty]
    exact Nat.zero_le _

/-- A call that names the content of its operation puts it in its place. -/
theorem safe_process_continues {d : Disk} {call : Call} (hkept : Kept sha256 content d)
    (hnames : call.Names sha256 content) :
    Safe (Step.run umask) (fun _ u => Continues sha256 content d u) (Returns sha256 content d)
      (call.process sha256) d := by
  have hrefl := Continues.refl sha256 content d
  have hend : ∀ e, Returns sha256 content d (.error e) d := fun e => ⟨hrefl, id, nofun⟩
  cases call with
  | beginStage operationId =>
      exact ((safe_beginStage content operationId).mono (fun _ _ hI => hI.2)
        fun _ _ hQ => hQ).bind (fun _ _ hQ => hQ) fun _ _ hQ => hQ
  | finishStage writer expectedSha256 expectedByteLen =>
      exact ((safe_finishStage content writer expectedSha256 expectedByteLen).mono
        (fun _ _ hI => hI.2) fun _ _ hQ => hQ).bind (fun _ _ hQ => hQ) fun _ _ hQ => hQ
  | loadVerifiedStage operationId expectedSha256 expectedByteLen =>
      refine (safe_loadVerifiedStage operationId expectedSha256 expectedByteLen).bind ?_ ?_
      · rintro stage u rfl
        exact ⟨hrefl, id, nofun⟩
      · rintro e u rfl
        exact hend e
  | discardIncompleteStage operationId expectedSha256 expectedByteLen =>
      exact ((safe_discardIncompleteStage content operationId expectedSha256
        expectedByteLen).mono (fun _ _ hI => hI.2) fun _ _ hQ => hQ).bind (fun _ _ hQ => hQ)
          fun _ _ hQ => hQ
  | publishBase stage =>
      cases hread : readVerifiedStage sha256 d stage with
      | error e =>
          have hfail : Safe (Step.run umask) (fun _ u => Continues sha256 content d u)
              (fun x u => x = .error e ∧ u = d) (publishBase sha256 stage) d :=
            .ask_bind_error hread ⟨rfl, rfl⟩
          refine hfail.bind (fun base u hQ => nomatch hQ.1) ?_
          rintro e u ⟨-, rfl⟩
          exact hend e
      | ok bytes =>
          obtain ⟨hexact, hstage⟩ := readVerifiedStage_eq_ok.mp hread
          have hbytes : bytes = content stage.operationId := by
            obtain ⟨file, hfile, -, -, rfl⟩ := hstage
            exact (hkept.stage _ file hfile).2.2 ⟨hexact.digest.trans hnames.1,
              hexact.length.trans hnames.2⟩
          subst hbytes
          have hQ : ∀ (x : Except TransferStoreError Answer) (y : Except TransferStoreError
              NativeBaseObjectRef) (u : Disk), x = y.map .base →
              Ends sha256 stage (content stage.operationId) d y u →
              Returns sha256 content d x u := by
            rintro x y u rfl hends
            refine ⟨?_, ?_, fun writer hwriter => ?_⟩
            · rcases hends with ⟨-, -, -, -, hreach⟩ | ⟨-, rfl, -⟩
              · exact hreach.continues hnames
              · exact hrefl
            · intro hprivate
              rcases hends with ⟨-, hgone, hnone, ⟨identity, base, hbase, hmode, -⟩, hreach⟩ |
                ⟨-, rfl, -⟩
              · intro name file hfile
                by_cases hname : name = .stage stage.operationId
                · subst hname
                  exact nomatch hgone.symm.trans hfile
                · by_cases hpending : name = .pending stage.operationId
                  · subst hpending
                    exact nomatch hnone.symm.trans hfile
                  · by_cases hblob : name = .blob stage.sha256
                    · subst hblob
                      cases hbase.symm.trans hfile
                      exact hmode
                    · rw [hreach.apart name hname hpending hblob] at hfile
                      exact hprivate name file hfile
              · exact hprivate
            · cases y <;> exact nomatch hwriter
          exact ((safe_publishBase hread).mono (fun _ _ hI => hI.2.continues hnames)
            fun _ _ hends => hends).bind (fun base u hends => hQ _ (.ok base) u rfl hends)
              fun e u hends => hQ _ (.error e) u rfl hends

/-- The invariant of a careful run. -/
structure CarefulInv (sha256 : Sha256) (umask : ℕ) (content : Uuid → List UInt8)
    (world : World) : Prop where
  idle : world.running = none → Kept sha256 content world.disk ∧ world.disk.Private ∧
    Counts world.writers world.disk
  running : ∀ call rest, world.running = some (call, rest) → call.Names sha256 content ∧
    ∃ d, Kept sha256 content d ∧ d.Private ∧ Counts world.writers d ∧
      Safe (Step.run umask) (fun _ u => Continues sha256 content d u) (Returns sha256 content d)
        rest world.disk

/-- Whatever runs, all but the modes is in order. -/
theorem CarefulInv.kept (h : CarefulInv sha256 umask content world) :
    Kept sha256 content world.disk ∧ Counts world.writers world.disk := by
  cases hrunning : world.running with
  | none =>
      obtain ⟨hkept, -, hcounts⟩ := h.idle hrunning
      exact ⟨hkept, hcounts⟩
  | some running =>
      obtain ⟨-, d, hkept, -, hcounts, hsafe⟩ := h.running running.1 running.2 hrunning
      exact hsafe.now (P := fun u => Kept sha256 content u ∧ Counts world.writers u)
        (fun st u hI => ⟨hkept.continues hI, hcounts.continues hI⟩)
        fun x u hQ => ⟨hkept.continues hQ.continues, hcounts.continues hQ.continues⟩

theorem Counts.take {d : Disk} (call : Call) (h : Counts world.writers d) :
    Counts (call.take world).writers d := by
  cases call with
  | finishStage writer expectedSha256 expectedByteLen =>
      intro identity held hheld
      refine h identity held ?_
      by_cases hid : identity = writer.identity
      · subst hid
        exact nomatch (Function.update_self ..).symm.trans hheld
      · exact (Function.update_of_ne hid ..).symm.trans hheld
  | _ => exact h

/-- The writer a call returns. -/
theorem Counts.hold {d : Disk} {x : Except TransferStoreError Answer}
    (h : Counts world.writers world.disk) (hreturns : Returns sha256 content d x world.disk) :
    Counts (world.hold x).writers world.disk := by
  cases x with
  | error e => exact h
  | ok answer =>
      cases answer with
      | writer writer =>
          intro identity held hheld
          by_cases hid : identity = writer.identity
          · subst hid
            cases (Function.update_self ..).symm.trans hheld
            obtain ⟨hzero, file, hfile, hempty⟩ := hreturns.writer writer rfl
            rw [hzero]
            refine ⟨Nat.zero_le _, fun found hfound _ => ?_⟩
            cases hfile.symm.trans hfound
            rw [hempty]
            exact Nat.le_refl 0
          · exact h identity held ((Function.update_of_ne hid ..).symm.trans hheld)
      | stage stage => exact h
      | discarded => exact h
      | base base => exact h

/-- The byte a writer has written. -/
theorem append_eq_some {d : Disk} {name other : Name} {identity : ℕ} {byte : UInt8}
    {file : FileNode} (h : (d.append name identity byte).files other = some file) :
    d.files other = some file ∨ other = name ∧ ∃ old, d.files name = some old ∧
      old.identity = identity ∧ file = { old with bytes := old.bytes ++ [byte] } := by
  rw [Disk.append] at h
  split at h
  · rename_i old hold
    split at h
    · rename_i hid
      rw [Disk.files_withFile] at h
      split at h
      · rename_i hname
        cases h
        exact .inr ⟨hname, old, hold, hid, rfl⟩
      · exact .inl h
    · exact .inl h
  · exact .inl h

/-- A writer that is held writes one more byte. -/
theorem CarefulInv.write (h : CarefulInv sha256 umask content world)
    (hidle : world.running = none) {identity : ℕ} {byte : UInt8}
    (hcareful : Careful sha256 content world (.write identity byte)) :
    CarefulInv sha256 umask content (world.write identity byte) := by
  obtain ⟨hkept, hprivate, hcounts⟩ := h.idle hidle
  rw [World.write]
  split
  · exact h
  · rename_i writer hwriter
    split
    · exact h
    · rename_i hlimit
      obtain ⟨-, hcount⟩ := hcounts identity writer hwriter
      refine ⟨fun _ => ⟨⟨?_, ?_, ?_⟩, ?_, ?_⟩, ?_⟩
      · intro operationId file hfile
        rcases append_eq_some hfile with hsame | ⟨hname, old, hold, hid, rfl⟩
        · exact hkept.stage operationId file hsame
        · cases hname
          obtain ⟨hnil, -, -⟩ := hkept.stage _ old hold
          have hle := hcount old hold hid
          have hlength : (old.bytes ++ [byte]).length = old.bytes.length + 1 := by simp
          refine ⟨hnil, ?_, hcareful writer old hwriter hold hid⟩
          show (old.bytes ++ [byte]).length ≤ _
          omega
      · intro operationId file hfile
        rcases append_eq_some hfile with hsame | ⟨hname, -⟩
        · exact hkept.pending operationId file hsame
        · exact nomatch hname
      · intro digest file hfile
        rcases append_eq_some hfile with hsame | ⟨hname, -⟩
        · exact hkept.blob digest file hsame
        · exact nomatch hname
      · intro name file hfile
        rcases append_eq_some hfile with hsame | ⟨-, old, hold, -, rfl⟩
        · exact hprivate name file hsame
        · exact hprivate _ old hold
      · intro other held hheld
        by_cases hother : other = identity
        · subst hother
          cases (Function.update_self ..).symm.trans hheld
          refine ⟨by dsimp only; omega, fun file hfile hid => ?_⟩
          rcases append_eq_some hfile with hsame | ⟨-, old, hold, hold', rfl⟩
          · have hle := hcount file hsame hid
            dsimp only
            omega
          · have hle := hcount old hold hold'
            simp only [List.length_append, List.length_singleton]
            omega
        · have hheld' := (Function.update_of_ne hother ..).symm.trans hheld
          obtain ⟨hlimit', hcount'⟩ := hcounts other held hheld'
          refine ⟨hlimit', fun file hfile hid => ?_⟩
          rcases append_eq_some hfile with hsame | ⟨-, old, -, hold', rfl⟩
          · exact hcount' file hsame hid
          · exact absurd (hid.symm.trans hold') hother
      · intro call rest hrunning
        exact nomatch hidle.symm.trans hrunning

/-- Where new files are private as they are, no step leaves one that is not. -/
theorem private_run {d : Disk}
    (humask : Snapshots.isPrivateFileMode (Snapshots.fileMode umask) = true)
    (st : Step) (h : d.Private) : (Step.run umask st d).2.Private := by
  have hmap : ∀ (name : Name) (f : FileNode → FileNode),
      (∀ file : FileNode, file.isPrivate = true → (f file).isPrivate = true) →
        (d.withFile name ((d.files name).map f)).Private := by
    intro name f hf
    refine h.withFile name fun node hnode => ?_
    obtain ⟨file, hfile, rfl⟩ := Option.map_eq_some_iff.mp hnode
    exact hf file (h name file hfile)
  cases st with
  | createNew name =>
      rw [Step.run]
      split
      · exact h
      · exact h.of_apart ((Apart.refl name d).withNew _) (d.files_withNew_self name _) humask
  | harden name =>
      have hmode : Snapshots.isPrivateFileMode 0o600 = true := by decide
      exact hmap name _ fun _ _ => hmode
  | write name byte => exact hmap name _ fun _ hfile => hfile
  | remove name =>
      rw [Step.run]
      split
      · exact h.withFile name (by rintro _ ⟨⟩)
      · exact h
  | sync point => exact h
  | rename source destination =>
      rw [Step.run]
      split
      · exact h
      · rename_i file hfile
        split
        · exact h
        · refine (h.withFile destination fun node hnode => ?_).withFile source (by rintro _ ⟨⟩)
          cases hnode
          exact h source file hfile

/-- Then every run may be cut off anywhere. -/
theorem private_step (humask : Snapshots.isPrivateFileMode (Snapshots.fileMode umask) = true)
    (hinv : Inv sha256 umask world) (event : Event) (h : world.disk.Private) :
    (step sha256 umask world event).disk.Private := by
  rcases disk_step hinv event with hsame | ⟨operationId, identity, byte, happend⟩ |
    ⟨call, rest, st, -, -, hrun⟩
  · rw [hsame]
    exact h
  · rw [happend]
    intro name file hfile
    rcases append_eq_some hfile with hsame | ⟨-, old, hold, -, rfl⟩
    · exact h name file hsame
    · exact h _ old hold
  · rw [hrun]
    exact private_run humask st h

theorem private_of_run (humask : Snapshots.isPrivateFileMode (Snapshots.fileMode umask) = true)
    (events : List Event) : (run (step sha256 umask) .initial events).disk.Private :=
  (run_induction (P := fun world => Inv sha256 umask world ∧ world.disk.Private)
    (fun _ event h => ⟨inv_step h.1 event, private_step humask h.1 event h.2⟩) events
    ⟨inv_initial, nofun⟩).2

theorem carefulInv_initial : CarefulInv sha256 umask content .initial :=
  ⟨fun _ => ⟨⟨nofun, nofun, nofun⟩, nofun, nofun⟩, nofun⟩

/-- **Every careful step keeps the invariant.** -/
theorem carefulInv_step (h : CarefulInv sha256 umask content world) (event : Event)
    (hcareful : Careful sha256 content world event) :
    CarefulInv sha256 umask content (step sha256 umask world event) := by
  cases event with
  | start call =>
      rw [step]
      split
      · exact h
      · rename_i hidle
        rw [not_or, Option.not_isSome_iff_eq_none] at hidle
        obtain ⟨hkept, hprivate, hcounts⟩ := h.idle hidle.1
        refine ⟨nofun, ?_⟩
        rintro call' rest hrunning
        cases hrunning
        refine ⟨hcareful, world.disk, hkept, hprivate, hcounts.take call, ?_⟩
        rw [call.take_disk world]
        exact safe_process_continues hkept hcareful
  | write identity byte =>
      rw [step]
      split
      · exact h
      · rename_i hidle
        rw [Option.not_isSome_iff_eq_none] at hidle
        exact h.write hidle hcareful
  | advance =>
      rw [step, World.advance]
      split
      · exact h
      · rename_i call rest hrunning
        obtain ⟨hnames, d, hkept, hprivate, hcounts, hsafe⟩ := h.running call rest hrunning
        split
        · rename_i x hresult
          have hreturns := hsafe.of_result hresult
          refine ⟨fun _ => ?_, fun call' rest' hrunning' => ?_⟩
          · rw [(World.hold_disk _ _).1]
            refine ⟨hkept.continues hreturns.continues, hreturns.isPrivate hprivate, ?_⟩
            exact Counts.hold (hcounts.continues hreturns.continues :
              Counts { world with running := none }.writers _) hreturns
          · rw [(World.hold_disk _ _).2] at hrunning'
            exact nomatch hrunning'
        · refine ⟨nofun, ?_⟩
          rintro call' rest' hrunning'
          cases hrunning'
          exact ⟨hnames, d, hkept, hprivate, hcounts, hsafe.advance⟩
  | fail => exact ⟨fun _ => ⟨h.kept.1, hcareful, h.kept.2⟩, nofun⟩
  | cut => exact ⟨fun _ => ⟨h.kept.1, hcareful, nofun⟩, nofun⟩

/-! ### Recovery -/

/-- A stage that is there in full is loaded. -/
theorem loadVerifiedStage_of_read {d : Disk} {operationId : Uuid} {file : FileNode}
    (hfile : d.files (.stage operationId) = some file) {expected : List UInt8}
    (hread : readVerifiedStage sha256 d ⟨file.identity, operationId, hexSha256 sha256 expected,
      expected.length⟩ = .ok expected) :
    (loadVerifiedStage sha256 operationId (hexSha256 sha256 expected) expected.length).finish
      (Step.run umask) d = (.ok ⟨file.identity, operationId, hexSha256 sha256 expected,
        expected.length⟩, d) := by
  obtain ⟨hexact, -⟩ := readVerifiedStage_eq_ok.mp hread
  have hvalid : validateExpected (hexSha256 sha256 expected) expected.length = .ok () := by
    rw [validateExpected, seq_eq_ok, reject_eq_ok, reject_eq_ok, isLowerHex64_hexSha256]
    exact ⟨Nat.not_lt.mpr hexact.limit, nofun⟩
  have hnil : reject (operationId.isNil = true) TransferStoreError.invalidOperationId = .ok () := by
    have hfalse : operationId.isNil = false := hexact.valid
    rw [reject_eq_ok, hfalse]
    exact nofun
  have hlook : (do
      let file ← openFileUnverified d (.stage operationId)
      let stage : VerifiedAndroidStage :=
        ⟨file.identity, operationId, hexSha256 sha256 expected, expected.length⟩
      let _ ← readVerifiedStage sha256 d stage
      pure stage) = .ok ⟨file.identity, operationId, hexSha256 sha256 expected,
        expected.length⟩ := by
    rw [openFileUnverified_eq_ok.mpr hfile, ok_bind]
    dsimp only
    rw [hread]
    rfl
  have hsafe : Safe (Step.run umask) (fun _ _ => True) (fun x u => x = .ok ⟨file.identity,
      operationId, hexSha256 sha256 expected, expected.length⟩ ∧ u = d)
      (loadVerifiedStage sha256 operationId (hexSha256 sha256 expected) expected.length) d :=
    .lift_bind hnil (.lift_bind hvalid (.ask ⟨hlook, rfl⟩))
  exact Prod.ext hsafe.finish.1 hsafe.finish.2

/-- **A stage that is there in full becomes an object**, and nothing else is left of it. -/
theorem Kept.publishes {d : Disk} (h : Kept sha256 content d) (hprivate : d.Private)
    (hdistinct : ∀ operationId other, hexSha256 sha256 (content operationId) =
      hexSha256 sha256 (content other) → content operationId = content other)
    {operationId : Uuid} {file : FileNode} (hfile : d.files (.stage operationId) = some file)
    (hmatches : Matches sha256 content operationId file.bytes) :
    ∃ stage base t, (loadVerifiedStage sha256 operationId
        (hexSha256 sha256 (content operationId)) (content operationId).length).finish
          (Step.run umask) d = (.ok stage, d) ∧
      (publishBase sha256 stage).finish (Step.run umask) d = (.ok base, t) ∧
      t.files (.stage operationId) = none ∧ t.files (.pending operationId) = none ∧
      ∃ object, t.files (.blob (hexSha256 sha256 (content operationId))) = some object ∧
        object.bytes = content operationId := by
  obtain ⟨hnil, hlimit, hbytes⟩ := h.stage operationId file hfile
  have hexact : IsExact sha256 ⟨file.identity, operationId,
      hexSha256 sha256 (content operationId), (content operationId).length⟩
        (content operationId) := ⟨hnil, hmatches.2 ▸ hlimit, rfl, rfl⟩
  have hread := readVerifiedStage_eq_ok.mpr ⟨hexact, file, hfile, hprivate _ file hfile, rfl,
    hbytes hmatches⟩
  have hsafe : Safe (Step.run umask) _ (Ends sha256 _ (content operationId) d) _ d :=
    safe_publishBase hread
  rcases hsafe.finish with ⟨⟨base, hbase⟩, hgone, hnone, ⟨_, object, hobject, -, -, hsame⟩, -⟩ |
    ⟨-, -, herror⟩
  · exact ⟨_, base, _, loadVerifiedStage_of_read hfile hread, Prod.ext hbase rfl, hgone, hnone,
      object, hobject, hsame⟩
  · rcases herror with ⟨e, herror⟩ | ⟨e, herror⟩
    · obtain ⟨pending, hpending⟩ := exists_inspectPending hexact fun found hfound =>
        ⟨hprivate _ found hfound, h.pending operationId found hfound⟩
      exact nomatch hpending.symm.trans herror
    · obtain ⟨found, hfound⟩ := exists_openBase hexact fun object hobject => by
        obtain ⟨other, hdigest, hother⟩ := h.blob _ object hobject
        exact ⟨hprivate _ object hobject, hother.trans (hdistinct operationId other hdigest).symm⟩
      exact nomatch hfound.symm.trans herror

end Runs

/-- **Base objects are immutable and stages outlive them.**  In every run an object holds the
bytes whose digest is its name, and no event changes it; and a stage is removed by
`discard_incomplete_stage` of a call that expects more bytes, or by `publish_base` when the
object stands there with the bytes of the stage.

Where every operation stands for one content, and no file is left behind that was just
created and is not private yet, a stage that holds the content of its operation is removed
when the object holds it too; and between two calls `load_verified_stage` and
`publish_base` succeed on it and leave the object only. -/
theorem base_objects_outlive_stages {sha256 : Sha256} {umask : ℕ} {events : List Event} :
    let world := run (step sha256 umask) .initial events
    (∀ digest file, world.disk.files (.blob digest) = some file →
      hexSha256 sha256 file.bytes = digest ∧
      ∀ event, (step sha256 umask world event).disk.files (.blob digest) = some file) ∧
    (∀ operationId file event, world.disk.files (.stage operationId) = some file →
      (step sha256 umask world event).disk.files (.stage operationId) = none →
      ∃ call rest, world.running = some (call, rest) ∧
        Removes sha256 call operationId file world.disk) ∧
    ∀ content : Uuid → List UInt8,
      (∀ operationId other, hexSha256 sha256 (content operationId) =
        hexSha256 sha256 (content other) → content operationId = content other) →
      Meets (step sha256 umask) (Careful sha256 content) .initial events →
      ∀ operationId file, world.disk.files (.stage operationId) = some file →
        Matches sha256 content operationId file.bytes →
        (∀ event, (step sha256 umask world event).disk.files (.stage operationId) = none →
          ∃ identity, Shows world.disk (.blob (hexSha256 sha256 (content operationId))) identity
            (content operationId)) ∧
        (world.running = none →
          ∃ stage base t, (loadVerifiedStage sha256 operationId
              (hexSha256 sha256 (content operationId)) (content operationId).length).finish
                (Step.run umask) world.disk = (.ok stage, world.disk) ∧
            (publishBase sha256 stage).finish (Step.run umask) world.disk = (.ok base, t) ∧
            t.files (.stage operationId) = none ∧ t.files (.pending operationId) = none ∧
            ∃ object, t.files (.blob (hexSha256 sha256 (content operationId))) = some object ∧
              object.bytes = content operationId) := by
  intro world
  have hinv : Inv sha256 umask (run (step sha256 umask) .initial events) :=
    run_induction (P := Inv sha256 umask) (fun _ op h => inv_step h op) events inv_initial
  refine ⟨fun digest file hfile => ⟨hinv.hashes digest file hfile, fun event => ?_⟩,
    fun operationId file event hfile hgone => hinv.removes hfile hgone, ?_⟩
  · rcases hinv.blob event digest with hsame | ⟨hnone, -⟩
    · exact hsame.trans hfile
    · exact nomatch hnone.symm.trans hfile
  · intro content hdistinct hmeets operationId file hfile hmatches
    have hcareful : CarefulInv sha256 umask content (run (step sha256 umask) .initial events) :=
      run_induction_of_meets (P := CarefulInv sha256 umask content)
        (fun _ op h => carefulInv_step h op) carefulInv_initial hmeets
    obtain ⟨-, -, hbytes⟩ := hcareful.kept.1.stage operationId file hfile
    refine ⟨fun event hgone => ?_, fun hidle => ?_⟩
    · obtain ⟨call, rest, hrunning, hremoves⟩ := hinv.removes hfile hgone
      obtain ⟨hnames, -⟩ := hcareful.running call rest hrunning
      cases call with
      | discardIncompleteStage discarded expectedSha256 expectedByteLen =>
          obtain ⟨rfl, hshort⟩ := hremoves
          have hlength := hmatches.2
          have hexpected := hnames.2
          omega
      | publishBase stage =>
          obtain ⟨rfl, hexact, identity, hbase⟩ := hremoves
          refine ⟨identity, ?_⟩
          rw [← hnames.1, ← hbytes hmatches]
          exact hbase
      | beginStage operationId => exact hremoves.elim
      | finishStage writer expectedSha256 expectedByteLen => exact hremoves.elim
      | loadVerifiedStage operationId expectedSha256 expectedByteLen => exact hremoves.elim
    · obtain ⟨hkept, hprivate, -⟩ := hcareful.idle hidle
      exact hkept.publishes hprivate hdistinct hfile hmatches

/-- An operation. -/
def oneOperation : Uuid := List.Vector.replicate 16 1

/-- A stage of one byte is published, and the process ends before its copy holds a byte. -/
def emptyCopy : List Event :=
  [.start (.beginStage oneOperation), .advance, .advance, .advance, .advance, .advance, .write 0 7,
    .start (.loadVerifiedStage oneOperation (hexSha256 constantDigest [7]) 1), .advance,
    .start (.publishBase ⟨0, oneOperation, hexSha256 constantDigest [7], 1⟩), .advance, .advance]

theorem base_objects_outlive_stages_emptyCopy :
    let world := run (step constantDigest 0o077) .initial (emptyCopy ++ [.cut])
    world.disk.files (.pending oneOperation) = some ⟨1, 0o600, []⟩ ∧
    ∃ stage base t, (loadVerifiedStage constantDigest oneOperation
        (hexSha256 constantDigest [7]) 1).finish (Step.run 0o077) world.disk =
          (.ok stage, world.disk) ∧
      (publishBase constantDigest stage).finish (Step.run 0o077) world.disk = (.ok base, t) ∧
      t.files (.stage oneOperation) = none ∧ t.files (.pending oneOperation) = none ∧
      ∃ object, t.files (.blob (hexSha256 constantDigest [7])) = some object ∧
        object.bytes = [7] := by
  have hfiles : (run (step constantDigest 0o077) .initial (emptyCopy ++ [.cut])).disk.files
        (.stage oneOperation) = some ⟨0, 0o600, [7]⟩ ∧
      (run (step constantDigest 0o077) .initial (emptyCopy ++ [.cut])).disk.files
        (.pending oneOperation) = some ⟨1, 0o600, []⟩ := by
    decide +kernel
  have hmeets : Meets (step constantDigest 0o077) (Careful constantDigest fun _ => [7]) .initial
      (emptyCopy ++ [.cut]) := by
    refine meets_append.mpr ⟨?_, private_of_run (by decide) emptyCopy, trivial⟩
    refine ⟨trivial, trivial, trivial, trivial, trivial, trivial, ?_, ⟨rfl, rfl⟩, trivial,
      ⟨rfl, rfl⟩, trivial, trivial, trivial⟩
    rintro writer file - - - ⟨-, hlength⟩
    rw [List.length_append] at hlength
    rw [List.eq_nil_of_length_eq_zero (Nat.succ.inj hlength)]
    rfl
  refine ⟨hfiles.2, ?_⟩
  exact ((@base_objects_outlive_stages constantDigest 0o077 (emptyCopy ++ [.cut])).2.2
    (fun _ => [7]) (fun _ _ _ => rfl) hmeets oneOperation
      ⟨0, 0o600, [7]⟩ hfiles.1 ⟨rfl, rfl⟩).2 rfl

/-! ### One operation, two contents -/

/-- A digest that looks at the first byte. -/
def firstByte : Sha256 := fun bytes => List.Vector.replicate 32 (bytes.headD 0)

/-- The handle of a stage that was filled with these bytes. -/
def stagedAs (identity : ℕ) (bytes : List UInt8) : VerifiedAndroidStage :=
  ⟨identity, oneOperation, hexSha256 firstByte bytes, bytes.length⟩

/-- A stage of two bytes is published, and the process ends when its copy is whole; the stage
is discarded as too short for three bytes, and one of one byte takes its place. -/
def twoContents : List Event :=
  [.start (.beginStage oneOperation), .advance, .advance, .advance, .advance, .advance,
    .write 0 97, .write 0 98,
    .start (.finishStage ⟨0, oneOperation, [97, 98], 2⟩ (hexSha256 firstByte [97, 98]) 2),
    .advance, .advance, .advance,
    .start (.publishBase (stagedAs 0 [97, 98])), .advance, .advance, .advance, .advance, .cut,
    .start (.discardIncompleteStage oneOperation (hexSha256 firstByte [100]) 3),
    .advance, .advance, .advance,
    .start (.beginStage oneOperation), .advance, .advance, .advance, .advance, .advance,
    .write 2 99]

/-- The second stage is exact and is loaded, and it cannot be published: the copy of the first
is kept. -/
theorem copy_of_other_content_stays :
    let world := run (step firstByte 0o077) .initial twoContents
    let loaded := (loadVerifiedStage firstByte oneOperation (hexSha256 firstByte [99]) 1).finish
      (Step.run 0o077) world.disk
    let published := (publishBase firstByte (stagedAs 2 [99])).finish (Step.run 0o077) world.disk
    world.running.isNone = true ∧
      world.disk.files (.stage oneOperation) = some ⟨2, 0o600, [99]⟩ ∧
      loaded.1 = .ok (stagedAs 2 [99]) ∧ published.1 = .error .digestMismatch ∧
      published.2.files (.stage oneOperation) = some ⟨2, 0o600, [99]⟩ ∧
      published.2.files (.pending oneOperation) = some ⟨1, 0o600, [97, 98]⟩ := by
  decide +kernel

end PrivateRoot
end MyVault
