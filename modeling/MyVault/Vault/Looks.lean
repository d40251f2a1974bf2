import MyVault.Vault.Addressable
import MyVault.Vault.Moves

/-!
# What the steps leave alone

Most of what an operation does is looking.  `SameDisk` holds of a program that leaves the
disk as it is, and `Reports` says whether the errors of a program leave the outcome open;
both follow from the parts of a program.  The rest of the module is what a look that
succeeded has established, and what the steps on a temporary file do.
-/

namespace MyVault
namespace Vault

open Program

/-- No failure passes for the answer that nothing is there. -/
def Faults.Honest (faults : Faults) : Prop := ∀ n, faults n ≠ some .notFound

/-- The disk is as it was. -/
def SameDisk (w w' : World) : Prop := w'.disk = w.disk

instance : Std.Refl SameDisk := ⟨fun _ => rfl⟩

instance : IsTrans World SameDisk := ⟨fun _ _ _ hab hbc => Eq.trans hbc hab⟩

/-- Whether the errors of the program leave the outcome open. -/
class Reports {α : Type} (unknown : Bool) (p : VaultProgram α) : Prop where
  isUnknown_eq : ∀ w e w', exec p w = (.error e, w') → e.isUnknown = unknown

/-- No error of the program leaves the outcome open. -/
abbrev Plain {α : Type} (p : VaultProgram α) : Prop := Reports false p

/-- Every error of the program leaves the outcome open. -/
abbrev Hedged {α : Type} (p : VaultProgram α) : Prop := Reports true p

namespace Reports

variable {α β : Type} {unknown : Bool}

instance pure {a : α} : Reports unknown (Pure.pure a : VaultProgram α) :=
  ⟨fun _ _ _ h => nomatch h⟩

instance io {p : IoProgram α} : Reports false (Vault.io p) := by
  refine ⟨fun w e w' h => ?_⟩
  obtain ⟨kind, -, rfl⟩ := exec_mapError_error.mp h
  rfl

instance catching {ε : Type} {p : Program World ε α} :
    Reports unknown (Program.catching p : VaultProgram (Except ε α)) := ⟨fun _ _ _ h => nomatch h⟩

theorem bind_of {p : VaultProgram α} {f : α → VaultProgram β} (hp : Reports unknown p)
    (hf : ∀ a, Reports unknown (f a)) : Reports unknown (p >>= f) := by
  refine ⟨fun w e w' h => ?_⟩
  rcases exec_bind_error.mp h with h | ⟨a, r, -, h⟩
  · exact hp.isUnknown_eq w e w' h
  · exact (hf a).isUnknown_eq r e w' h

theorem ite_of {c : Prop} [Decidable c] {p q : VaultProgram α} (hp : Reports unknown p)
    (hq : Reports unknown q) : Reports unknown (if c then p else q) := by
  split
  · exact hp
  · exact hq

theorem throw {e : CoreError} (he : e.isUnknown = unknown) :
    Reports unknown (MonadExcept.throw e : VaultProgram α) := by
  refine ⟨fun w e' w' h => ?_⟩
  cases h
  exact he

theorem lift {x : Except CoreError α} (h : ∀ e, x = .error e → e.isUnknown = unknown) :
    Reports unknown (Program.lift x : VaultProgram α) := by
  refine ⟨fun w e w' hrun => ?_⟩
  rw [exec_lift, Prod.mk.injEq] at hrun
  exact h e hrun.1

theorem reject {c : Prop} [Decidable c] {e : CoreError} (he : e.isUnknown = unknown) :
    Reports unknown (Program.reject c e) := ite_of (throw he) pure

theorem require {c : Prop} [Decidable c] {e : CoreError} (he : e.isUnknown = unknown) :
    Reports unknown (Program.require c e) := ite_of pure (throw he)

theorem the {o : Option α} {e : CoreError} (he : e.isUnknown = unknown) :
    Reports unknown (Program.the o e : VaultProgram α) := by
  cases o with
  | none => exact throw he
  | some a => exact pure

theorem mapError {ε : Type} {f : ε → CoreError} {p : Program World ε α}
    (h : ∀ e, (f e).isUnknown = unknown) : Reports unknown (Program.mapError f p) := by
  refine ⟨fun w e w' hrun => ?_⟩
  obtain ⟨e', -, rfl⟩ := exec_mapError_error.mp hrun
  exact h e'

end Reports

/-! ## Steps -/

section Steps

variable {faults : Faults} {u : Unicode} {blake3 : Blake3}

instance : Keeps SameDisk (tick faults) := by
  have hwrite : Keeps SameDisk
      (write fun w => { w with clock := w.clock + 1 } : IoProgram Unit) := Keeps.write fun _ => rfl
  refine Keeps.bind_of Keeps.read fun now => Keeps.bind_of hwrite fun _ => ?_
  cases faults now with
  | none => exact Keeps.pure
  | some kind => exact Keeps.throw

instance {α : Type} {f : Disk → Except IoKind α} : Keeps SameDisk (look faults f) :=
  inferInstanceAs (Keeps _ (_ >>= _))

instance {path : Location} : Keeps SameDisk (symlinkMetadata faults path) :=
  inferInstanceAs (Keeps _ (look _ _))

instance {path : Location} : Keeps SameDisk (readDir faults path) :=
  inferInstanceAs (Keeps _ (look _ _))

instance {path : Location} : Keeps SameDisk (openNoFollow faults path) :=
  inferInstanceAs (Keeps _ (look _ _))

instance {path : Location} : Keeps SameDisk (metadata faults path) :=
  inferInstanceAs (Keeps _ (look _ _))

instance {path : Location} : Keeps SameDisk (readFile faults path) :=
  inferInstanceAs (Keeps _ (look _ _))

instance : Keeps SameDisk (syncDirectory faults) := inferInstanceAs (Keeps _ (_ >>= _))

instance {path : Location} : Keeps SameDisk (directoryIdentity faults path) :=
  inferInstanceAs (Keeps _ (_ >>= _))

instance {α : Type} {p : IoProgram α} [hp : Keeps SameDisk p] : Keeps SameDisk (io p) :=
  Keeps.mapError

instance keeps_eachEntry {f : FileName → VaultProgram Unit} [hf : ∀ name, Keeps SameDisk (f name)]
    {names : List FileName} : Keeps SameDisk (eachEntry faults f names) := by
  induction names with
  | nil => exact Keeps.pure
  | cons name rest ih =>
      exact Keeps.bind_of inferInstance fun _ => Keeps.bind_of (hf name) fun _ => ih

instance plain_eachEntry {f : FileName → VaultProgram Unit} [hf : ∀ name, Plain (f name)]
    {names : List FileName} : Plain (eachEntry faults f names) := by
  induction names with
  | nil => exact Reports.pure
  | cons name rest ih =>
      exact Reports.bind_of inferInstance fun _ => Reports.bind_of (hf name) fun _ => ih

theorem same_of_exec {ε α : Type} {p : Program World ε α} [hp : Keeps SameDisk p] {w w' : World}
    {x : Except ε α} (h : exec p w = (x, w')) : w'.disk = w.disk := hp.of_exec h

/-- A step that looks has found what it reports. -/
theorem exec_look_ok {α : Type} {f : Disk → Except IoKind α} {a : α} {w w' : World}
    (h : exec (look faults f) w = (.ok a, w')) : f w.disk = .ok a ∧ w'.disk = w.disk := by
  have hsame := same_of_exec h
  obtain ⟨⟨⟩, w₁, htick, h⟩ := exec_bind_ok.mp h
  have hdisk := same_of_exec htick
  obtain ⟨disk, w₂, hread, h⟩ := exec_bind_ok.mp h
  obtain ⟨rfl, rfl⟩ := exec_read_ok.mp hread
  refine ⟨?_, hsame⟩
  rw [← hdisk]
  exact (exec_lift_ok.mp h).1

theorem exec_tick (w : World) :
    exec (tick faults) w =
      ((faults w.clock).elim (.ok ()) .error, { w with clock := w.clock + 1 }) := by
  rw [tick, exec_bind, exec_read]
  dsimp only
  rw [exec_bind, exec_write]
  dsimp only
  cases faults w.clock <;> rfl

/-- A look that failed has met a failure, or it has found no answer. -/
theorem exec_look_error {α : Type} {f : Disk → Except IoKind α} {kind : IoKind} {w w' : World}
    (h : exec (look faults f) w = (.error kind, w')) :
    faults w.clock = some kind ∨ f w.disk = .error kind := by
  rcases exec_bind_error.mp h with h | ⟨⟨⟩, w₁, htick, h⟩
  · rw [exec_tick, Prod.mk.injEq] at h
    cases hfault : faults w.clock with
    | none =>
        rw [hfault] at h
        exact nomatch h.1
    | some kind' =>
        rw [hfault] at h
        exact Or.inl (congrArg some (Except.error.inj h.1))
  · have hdisk := same_of_exec htick
    rcases exec_bind_error.mp h with h | ⟨disk, w₂, hread, h⟩
    · exact nomatch h
    · obtain ⟨rfl, rfl⟩ := exec_read_ok.mp hread
      rw [exec_lift, Prod.mk.injEq] at h
      rw [← hdisk]
      exact Or.inr h.1

/-- A step that changes the disk has done it, or it has done nothing. -/
theorem exec_change {f : Disk → Except IoKind Disk} {x : Except IoKind Unit} {w w' : World}
    (h : exec (change faults f) w = (x, w')) :
    (x = .ok () ∧ f w.disk = .ok w'.disk) ∨ (∃ kind, x = .error kind) ∧ w'.disk = w.disk := by
  cases x with
  | ok v =>
      obtain ⟨⟨⟩, w₁, htick, h⟩ := exec_bind_ok.mp h
      have hdisk := same_of_exec htick
      obtain ⟨disk, w₂, hread, h⟩ := exec_bind_ok.mp h
      obtain ⟨rfl, rfl⟩ := exec_read_ok.mp hread
      obtain ⟨disk', w₃, hlift, h⟩ := exec_bind_ok.mp h
      obtain ⟨hf, rfl⟩ := exec_lift_ok.mp hlift
      obtain rfl := exec_write_ok.mp h
      refine Or.inl ⟨rfl, ?_⟩
      rw [← hdisk]
      exact hf
  | error kind =>
      refine Or.inr ⟨⟨kind, rfl⟩, ?_⟩
      rcases exec_bind_error.mp h with h | ⟨⟨⟩, w₁, htick, h⟩
      · exact same_of_exec h
      · have hdisk := same_of_exec htick
        rcases exec_bind_error.mp h with h | ⟨disk, w₂, hread, h⟩
        · exact nomatch h
        · obtain ⟨rfl, rfl⟩ := exec_read_ok.mp hread
          rcases exec_bind_error.mp h with h | ⟨disk', w₃, -, h⟩
          · rw [exec_lift, Prod.mk.injEq] at h
            rw [← h.2]
            exact hdisk
          · exact nomatch h

/-! ## Looking -/

namespace Stepwise

variable {path parent : Location} {relative source destination temporary : VaultPath u}
  {desired incoming text : Text} {expected : FileRevision} {maxBytes : ℕ}

instance keeps_rejectSiblingCollision :
    Keeps SameDisk (rejectSiblingCollision u faults parent desired incoming) := by
  refine Keeps.bind_of inferInstance fun names => @keeps_eachEntry _ _ (fun name => ?_) _
  cases name.toStr with
  | none => exact Keeps.throw
  | some existing => exact Keeps.reject

instance plain_rejectSiblingCollision :
    Plain (rejectSiblingCollision u faults parent desired incoming) := by
  refine Reports.bind_of inferInstance fun names => @plain_eachEntry _ _ (fun name => ?_) _
  cases name.toStr with
  | none => exact Reports.throw rfl
  | some existing => exact Reports.reject rfl

instance keeps_rejectFinalSymlink : Keeps SameDisk (rejectFinalSymlink faults path) :=
  Keeps.bind_of inferInstance fun _ => Keeps.reject

instance plain_rejectFinalSymlink : Plain (rejectFinalSymlink faults path) :=
  Reports.bind_of inferInstance fun _ => Reports.reject rfl

instance keeps_openChildDirNofollow : Keeps SameDisk (openChildDirNofollow faults path) := by
  refine Keeps.bind_of inferInstance fun _ => Keeps.bind_of inferInstance fun opened => ?_
  cases opened with
  | error kind => exact Keeps.bind_of inferInstance fun _ => Keeps.throw
  | ok node => exact Keeps.bind_of inferInstance fun _ => Keeps.require

instance plain_openChildDirNofollow : Plain (openChildDirNofollow faults path) := by
  refine Reports.bind_of inferInstance fun _ => Reports.bind_of inferInstance fun opened => ?_
  cases opened with
  | error kind => exact Reports.bind_of inferInstance fun _ => Reports.throw rfl
  | ok node => exact Reports.bind_of inferInstance fun _ => Reports.require rfl

section Folders

variable {check : Location → Text → VaultProgram Unit} {current : Location} {components : List Text}

instance keeps_openFolders [hcheck : ∀ current c, Keeps SameDisk (check current c)] :
    Keeps SameDisk (openFolders faults check current components) := by
  induction components generalizing current with
  | nil => exact Keeps.pure
  | cons c rest ih =>
      exact Keeps.bind_of (hcheck current c) fun _ => Keeps.bind_of inferInstance fun _ => ih

instance plain_openFolders [hcheck : ∀ current c, Plain (check current c)] :
    Plain (openFolders faults check current components) := by
  induction components generalizing current with
  | nil => exact Reports.pure
  | cons c rest ih =>
      exact Reports.bind_of (hcheck current c) fun _ => Reports.bind_of inferInstance fun _ => ih

/-- What is opened is the folder of the path. -/
theorem openFolders_ok {w w' : World}
    (h : exec (openFolders faults check current components) w = (.ok parent, w')) :
    parent = current ++ locationOf components := by
  induction components generalizing current w with
  | nil =>
      obtain ⟨rfl, -⟩ := exec_pure_ok.mp h
      exact (List.append_nil _).symm
  | cons c rest ih =>
      obtain ⟨-, w₁, -, h⟩ := exec_bind_ok.mp h
      obtain ⟨-, w₂, -, h⟩ := exec_bind_ok.mp h
      rw [ih h, entry, List.append_assoc]
      rfl

end Folders

instance keeps_openParent : Keeps SameDisk (openParent u faults relative) :=
  Keeps.bind_of inferInstance fun _ => inferInstance

instance keeps_openParentChecked : Keeps SameDisk (openParentChecked u faults relative) :=
  Keeps.bind_of inferInstance fun _ => inferInstance

instance plain_openParentChecked : Plain (openParentChecked u faults relative) :=
  Reports.bind_of inferInstance fun _ => inferInstance

/-- There is a file of the revision at the path. -/
def Holds (blake3 : Blake3) (d : Disk) (path : Location) (revision : FileRevision) : Prop :=
  ∃ bytes, d.bytesAt path = some bytes ∧ FileRevision.fromBytes blake3 bytes = revision

/-- The location of a path. -/
def pathOf (relative : VaultPath u) : Location := locationOf relative.components

theorem entry_folders (relative : VaultPath u) :
    entry (locationOf (folders relative)) (nameOf relative) = pathOf relative := by
  rw [pathOf, ← List.dropLast_append_getLast relative.fits.1, locationOf_append]
  rfl

theorem openParent_ok {w w' : World}
    (h : exec (openParent u faults relative) w = (.ok parent, w')) :
    parent = locationOf (folders relative) := by
  obtain ⟨-, w₁, -, h⟩ := exec_bind_ok.mp h
  exact openFolders_ok h

theorem openParentChecked_ok {w w' : World}
    (h : exec (openParentChecked u faults relative) w = (.ok parent, w')) :
    parent = locationOf (folders relative) := by
  obtain ⟨-, w₁, -, h⟩ := exec_bind_ok.mp h
  exact openFolders_ok h

instance keeps_entryExists : Keeps SameDisk (entryExists faults path) := by
  refine Keeps.bind_of inferInstance fun found => ?_
  cases found with
  | ok node => exact Keeps.pure
  | error kind =>
      cases kind with
      | notFound => exact Keeps.pure
      | _ => exact Keeps.throw

instance keeps_sameOpenDirectory {expected actual : Location} :
    Keeps SameDisk (sameOpenDirectory faults expected actual) :=
  Keeps.bind_of inferInstance fun _ => Keeps.bind_of inferInstance fun _ => Keeps.pure

instance plain_sameOpenDirectory {expected actual : Location} :
    Plain (sameOpenDirectory faults expected actual) :=
  Reports.bind_of inferInstance fun _ => Reports.bind_of inferInstance fun _ => Reports.pure

instance keeps_sameOpenDirectories {expected actual expected' actual' : Location} :
    Keeps SameDisk (sameOpenDirectories faults expected actual expected' actual') :=
  Keeps.bind_of inferInstance fun _ => inferInstance

instance keeps_revisionFromParent :
    Keeps SameDisk (revisionFromParent blake3 faults path text maxBytes) := by
  refine Keeps.bind_of inferInstance fun _ => Keeps.bind_of inferInstance fun _ =>
    Keeps.bind_of inferInstance fun _ => Keeps.bind_of Keeps.the fun found => ?_
  exact Keeps.bind_of Keeps.reject fun _ => Keeps.bind_of inferInstance fun _ =>
    Keeps.bind_of Keeps.reject fun _ => Keeps.pure

instance plain_revisionFromParent :
    Plain (revisionFromParent blake3 faults path text maxBytes) := by
  refine Reports.bind_of inferInstance fun _ => Reports.bind_of inferInstance fun _ =>
    Reports.bind_of inferInstance fun _ => Reports.bind_of (Reports.the rfl) fun found => ?_
  exact Reports.bind_of (Reports.reject rfl) fun _ => Reports.bind_of inferInstance fun _ =>
    Reports.bind_of (Reports.reject rfl) fun _ => Reports.pure

theorem validateRevision_error {e : CoreError} (h : validateRevision expected = .error e) :
    e.isUnknown = false := by
  rw [validateRevision] at h
  split at h
  · exact nomatch h
  · cases h
    rfl

instance keeps_verifyExpectedFromParent :
    Keeps SameDisk (verifyExpectedFromParent blake3 faults path text expected maxBytes) :=
  Keeps.bind_of Keeps.lift fun _ => Keeps.bind_of inferInstance fun _ => Keeps.require

instance plain_verifyExpectedFromParent :
    Plain (verifyExpectedFromParent blake3 faults path text expected maxBytes) :=
  Reports.bind_of (Reports.lift fun _ => validateRevision_error) fun _ =>
    Reports.bind_of inferInstance fun _ => Reports.require rfl

instance keeps_verifySingleLinkFromParent :
    Keeps SameDisk (verifySingleLinkFromParent faults path text) :=
  Keeps.bind_of inferInstance fun _ => Keeps.bind_of inferInstance fun _ =>
    Keeps.bind_of inferInstance fun _ => Keeps.require

instance plain_verifySingleLinkFromParent : Plain (verifySingleLinkFromParent faults path text) :=
  Reports.bind_of inferInstance fun _ => Reports.bind_of inferInstance fun _ =>
    Reports.bind_of inferInstance fun _ => Reports.require rfl

instance keeps_verifySourceAbsent :
    Keeps SameDisk (verifySourceAbsent faults path text incoming) := by
  refine Keeps.bind_of inferInstance fun found => ?_
  cases found with
  | ok node => exact Keeps.throw
  | error kind =>
      cases kind with
      | notFound => exact Keeps.pure
      | _ => exact Keeps.throw

/-- What was read at a path has the revision that is reported. -/
theorem revisionFromParent_ok {w w' : World} {revision : FileRevision}
    (h : exec (revisionFromParent blake3 faults path text maxBytes) w = (.ok revision, w')) :
    Holds blake3 w.disk path revision := by
  obtain ⟨⟨⟩, w₁, hlink, h⟩ := exec_bind_ok.mp h
  obtain ⟨node, w₂, hopen, h⟩ := exec_bind_ok.mp h
  obtain ⟨found, w₃, hfound, h⟩ := exec_bind_ok.mp h
  obtain ⟨⟨length, links⟩, w₄, hthe, h⟩ := exec_bind_ok.mp h
  obtain ⟨⟨⟩, w₅, hlength, h⟩ := exec_bind_ok.mp h
  obtain ⟨bytes, w₆, hread, h⟩ := exec_bind_ok.mp h
  obtain ⟨⟨⟩, w₇, -, h⟩ := exec_bind_ok.mp h
  obtain ⟨rfl, -⟩ := exec_pure_ok.mp h
  have hbytes := (exec_look_ok (exec_mapError_ok.mp hread)).1
  have hdisk : w₅.disk = w.disk := by
    rw [(exec_reject_ok.mp hlength).2.symm, (exec_the_ok.mp hthe).2.symm,
      same_of_exec hfound, same_of_exec hopen, same_of_exec hlink]
  rw [hdisk] at hbytes
  cases hfile : w.disk.bytesAt path with
  | none =>
      rw [hfile] at hbytes
      exact nomatch hbytes
  | some found =>
      rw [hfile] at hbytes
      cases hbytes
      exact ⟨_, hfile, rfl⟩

theorem verifyExpectedFromParent_ok {w w' : World}
    (h : exec (verifyExpectedFromParent blake3 faults path text expected maxBytes) w =
      (.ok (), w')) : Holds blake3 w.disk path expected := by
  obtain ⟨⟨⟩, w₁, hvalid, h⟩ := exec_bind_ok.mp h
  obtain ⟨-, rfl⟩ := exec_lift_ok.mp hvalid
  obtain ⟨actual, w₂, hactual, h⟩ := exec_bind_ok.mp h
  obtain ⟨rfl, -⟩ := exec_require_ok.mp h
  exact revisionFromParent_ok hactual

theorem verifySourceAbsent_ok {w w' : World} (hfaults : faults.Honest)
    (h : exec (verifySourceAbsent faults path text incoming) w = (.ok (), w')) :
    w.disk.tree.nodeAt path = none := by
  obtain ⟨found, w₁, hfound, h⟩ := exec_bind_ok.mp h
  cases found with
  | ok node => exact nomatch h
  | error kind =>
      cases kind with
      | notFound =>
          rcases exec_look_error (exec_catching_ok.mp hfound) with hfault | hnone
          · exact absurd hfault (hfaults w.clock)
          · cases hnode : w.disk.tree.nodeAt path with
            | none => rfl
            | some node =>
                rw [hnode] at hnone
                exact nomatch hnone
      | _ => exact nomatch h

/-! ## The checks of the operations -/

section Checks

variable {intent : WriteIntent} {contents : List UInt8} {tempName : String}
  {atSource atDestination : Location} {phase : CaseRenamePhase}

instance keeps_atomicWriteChecks :
    Keeps SameDisk (atomicWriteChecks u faults relative intent) :=
  Keeps.bind_of Keeps.lift fun _ => Keeps.bind_of inferInstance fun _ =>
    Keeps.bind_of inferInstance fun _ => Keeps.bind_of inferInstance fun _ => Keeps.pure

instance keeps_replaceContentChecks :
    Keeps SameDisk (replaceContentChecks u blake3 faults relative expected contents maxBytes) :=
  Keeps.bind_of Keeps.lift fun _ => Keeps.bind_of Keeps.lift fun _ =>
    Keeps.bind_of Keeps.reject fun _ => Keeps.bind_of Keeps.reject fun _ =>
    Keeps.bind_of inferInstance fun _ => Keeps.bind_of inferInstance fun _ =>
    Keeps.bind_of inferInstance fun _ => Keeps.bind_of inferInstance fun _ => Keeps.pure

instance keeps_replaceContentRecheck : Keeps SameDisk
    (replaceContentRecheck u blake3 faults relative expected contents maxBytes parent tempName) :=
  Keeps.bind_of inferInstance fun _ => Keeps.bind_of inferInstance fun _ =>
    Keeps.bind_of Keeps.require fun _ => Keeps.bind_of inferInstance fun _ =>
    Keeps.bind_of inferInstance fun _ => Keeps.bind_of inferInstance fun _ =>
    Keeps.bind_of inferInstance fun _ => Keeps.pure

instance plain_replaceContentRecheck : Plain
    (replaceContentRecheck u blake3 faults relative expected contents maxBytes parent tempName) :=
  Reports.bind_of inferInstance fun _ => Reports.bind_of inferInstance fun _ =>
    Reports.bind_of (Reports.require rfl) fun _ => Reports.bind_of inferInstance fun _ =>
    Reports.bind_of inferInstance fun _ => Reports.bind_of inferInstance fun _ =>
    Reports.bind_of inferInstance fun _ => Reports.pure

instance keeps_verifyReplacement :
    Keeps SameDisk (verifyReplacement u blake3 faults relative contents maxBytes parent) :=
  Keeps.bind_of inferInstance fun _ => inferInstance

instance keeps_finishReplacement :
    Keeps SameDisk (finishReplacement u blake3 faults relative contents maxBytes parent) := by
  refine Keeps.bind_of inferInstance fun synced =>
    Keeps.bind_of inferInstance fun verification => ?_
  cases synced <;> cases verification
  case ok.ok => exact Keeps.pure
  all_goals exact Keeps.throw

instance hedged_finishReplacement :
    Hedged (finishReplacement u blake3 faults relative contents maxBytes parent) := by
  refine Reports.bind_of inferInstance fun synced =>
    Reports.bind_of inferInstance fun verification => ?_
  cases synced <;> cases verification
  case ok.ok => exact Reports.pure
  all_goals exact Reports.throw rfl

instance keeps_syncParents {sameParent : Bool} :
    Keeps SameDisk (syncParents faults sameParent) := by
  refine Keeps.bind_of inferInstance fun _ => ?_
  split
  · exact Keeps.pure
  · exact Keeps.bind_of inferInstance fun _ => Keeps.pure

theorem hedged_syncParents {sameParent : Bool} : Hedged (syncParents faults sameParent) := by
  refine Reports.bind_of inferInstance fun _ => ?_
  split
  · exact Reports.pure
  · exact Reports.bind_of inferInstance fun _ => Reports.pure

instance keeps_atomicMoveChecks :
    Keeps SameDisk (atomicMoveChecks u faults source destination) := by
  refine Keeps.bind_of Keeps.reject fun _ => Keeps.bind_of inferInstance fun _ =>
    Keeps.bind_of inferInstance fun _ => Keeps.bind_of inferInstance fun found => ?_
  refine Keeps.bind_of ?_ fun _ => Keeps.bind_of inferInstance fun _ =>
    Keeps.bind_of inferInstance fun _ => Keeps.pure
  cases found with
  | file inode bytes => exact Keeps.pure
  | dir => exact Keeps.reject
  | symlink => exact Keeps.throw
  | special => exact Keeps.throw

instance keeps_verifyContentMoveTopology : Keeps SameDisk
    (verifyContentMoveTopology u blake3 faults source destination expected atSource
      atDestination) :=
  Keeps.bind_of inferInstance fun _ => Keeps.bind_of inferInstance fun _ =>
    Keeps.bind_of inferInstance fun _ => Keeps.bind_of Keeps.require fun _ =>
    Keeps.bind_of inferInstance fun _ => Keeps.bind_of inferInstance fun _ => inferInstance

instance keeps_confirmContentMove : Keeps SameDisk
    (confirmContentMove u blake3 faults source destination expected atSource atDestination) := by
  refine Keeps.bind_of inferInstance fun destinationOpen =>
    Keeps.bind_of inferInstance fun sourceOpen => ?_
  cases destinationOpen with
  | ok _ =>
      cases sourceOpen with
      | ok _ =>
          refine Keeps.bind_of inferInstance fun report =>
            Keeps.bind_of inferInstance fun verification => ?_
          cases verification with
          | error cause => exact Keeps.throw
          | ok _ =>
              exact Keeps.bind_of Keeps.reject fun _ => Keeps.bind_of Keeps.lift fun _ =>
                Keeps.pure
      | error cause => exact Keeps.bind_of inferInstance fun _ => Keeps.throw
  | error cause =>
      cases sourceOpen with
      | ok _ => exact Keeps.bind_of inferInstance fun _ => Keeps.throw
      | error _ => exact Keeps.throw

theorem intoResult_error {report : MoveSyncReport} {from' to' : Text} {e : CoreError}
    (h : report.intoResult from' to' = .error e) : e.isUnknown = true := by
  rw [MoveSyncReport.intoResult] at h
  split at h
  · exact nomatch h
  · exact nomatch h
  · cases h
    rfl

instance hedged_confirmContentMove : Hedged
    (confirmContentMove u blake3 faults source destination expected atSource atDestination) := by
  refine Reports.bind_of inferInstance fun destinationOpen =>
    Reports.bind_of inferInstance fun sourceOpen => ?_
  cases destinationOpen with
  | ok _ =>
      cases sourceOpen with
      | ok _ =>
          refine Reports.bind_of hedged_syncParents fun report =>
            Reports.bind_of inferInstance fun verification => ?_
          cases verification with
          | error cause => exact Reports.throw rfl
          | ok _ =>
              exact Reports.bind_of (Reports.reject rfl) fun _ =>
                Reports.bind_of (Reports.lift fun _ => intoResult_error) fun _ => Reports.pure
      | error cause => exact Reports.bind_of inferInstance fun _ => Reports.throw rfl
  | error cause =>
      cases sourceOpen with
      | ok _ => exact Reports.bind_of inferInstance fun _ => Reports.throw rfl
      | error _ => exact Reports.throw rfl

instance keeps_moveContentChecks :
    Keeps SameDisk (moveContentChecks u faults source destination expected) :=
  Keeps.bind_of Keeps.lift fun _ => Keeps.bind_of Keeps.lift fun _ =>
    Keeps.bind_of Keeps.reject fun _ => Keeps.bind_of Keeps.lift fun _ =>
    Keeps.bind_of Keeps.reject fun _ => Keeps.bind_of inferInstance fun _ =>
    Keeps.bind_of inferInstance fun _ => Keeps.bind_of inferInstance fun _ =>
    Keeps.bind_of Keeps.reject fun _ => Keeps.bind_of Keeps.lift fun _ =>
    Keeps.bind_of inferInstance fun _ => Keeps.bind_of inferInstance fun _ =>
    Keeps.bind_of inferInstance fun _ => Keeps.bind_of Keeps.require fun _ =>
    Keeps.bind_of inferInstance fun _ => Keeps.bind_of inferInstance fun _ =>
    Keeps.bind_of inferInstance fun _ => Keeps.bind_of inferInstance fun _ => Keeps.pure

instance keeps_moveContentRecheck : Keeps SameDisk
    (moveContentRecheck u blake3 faults source destination expected atSource atDestination) :=
  Keeps.bind_of inferInstance fun _ => Keeps.bind_of inferInstance fun _ =>
    Keeps.bind_of inferInstance fun _ => Keeps.bind_of inferInstance fun _ =>
    Keeps.bind_of inferInstance fun _ => Keeps.bind_of Keeps.require fun _ => Keeps.pure

instance keeps_finishContentMove : Keeps SameDisk
    (finishContentMove u blake3 faults source destination expected atSource atDestination) := by
  refine Keeps.bind_of inferInstance fun report => ?_
  split
  · exact keeps_confirmContentMove
  · refine Keeps.bind_of inferInstance fun verification => ?_
    cases verification with
    | error cause => exact Keeps.throw
    | ok _ => exact Keeps.bind_of Keeps.lift fun _ => Keeps.pure

instance hedged_finishContentMove : Hedged
    (finishContentMove u blake3 faults source destination expected atSource atDestination) := by
  refine Reports.bind_of hedged_syncParents fun report => ?_
  split
  · exact hedged_confirmContentMove
  · refine Reports.bind_of inferInstance fun verification => ?_
    cases verification with
    | error cause => exact Reports.throw rfl
    | ok _ =>
        exact Reports.bind_of (Reports.lift fun _ => intoResult_error) fun _ => Reports.pure

instance keeps_caseRenameEntries {names : List FileName} {state : CaseRenameState} :
    Keeps SameDisk (caseRenameEntries u faults source destination temporary names state) := by
  induction names generalizing state with
  | nil => exact Keeps.pure
  | cons name rest ih =>
      refine Keeps.bind_of inferInstance fun _ => Keeps.bind_of Keeps.the fun existing => ?_
      split
      · exact ih
      · split
        · exact ih
        · split
          · exact ih
          · exact Keeps.bind_of Keeps.reject fun _ => Keeps.bind_of Keeps.reject fun _ => ih

instance keeps_caseRenameState :
    Keeps SameDisk (caseRenameState u faults parent source destination temporary) :=
  Keeps.bind_of inferInstance fun _ => inferInstance

instance keeps_verifyCaseRenameEntry :
    Keeps SameDisk (verifyCaseRenameEntry blake3 faults path text expected) :=
  Keeps.bind_of inferInstance fun _ => inferInstance

instance keeps_verifyCaseRenamePhase {path : VaultPath u} {state : CaseRenameState} : Keeps SameDisk
    (verifyCaseRenamePhase u blake3 faults parent source destination temporary path expected
      state) :=
  Keeps.bind_of inferInstance fun _ => Keeps.bind_of Keeps.require fun _ => inferInstance

instance keeps_syncCaseRenamePhase : Keeps SameDisk
    (syncCaseRenamePhase u blake3 faults parent source destination temporary expected phase) := by
  refine Keeps.bind_of inferInstance fun synced => ?_
  refine Keeps.bind_of inferInstance fun verification => ?_
  cases synced <;> cases verification
  case ok.ok => exact Keeps.pure
  all_goals exact Keeps.throw

instance hedged_syncCaseRenamePhase : Hedged
    (syncCaseRenamePhase u blake3 faults parent source destination temporary expected phase) := by
  refine Reports.bind_of inferInstance fun synced =>
    Reports.bind_of inferInstance fun verification => ?_
  cases synced <;> cases verification
  case ok.ok => exact Reports.pure
  all_goals exact Reports.throw rfl

instance keeps_caseRenameChecks :
    Keeps SameDisk (caseRenameChecks u faults source destination temporary expected) :=
  Keeps.bind_of Keeps.lift fun _ => Keeps.bind_of Keeps.lift fun _ =>
    Keeps.bind_of Keeps.reject fun _ => Keeps.bind_of inferInstance fun _ =>
    Keeps.bind_of inferInstance fun _ => Keeps.bind_of inferInstance fun _ =>
    Keeps.bind_of inferInstance fun _ => Keeps.bind_of Keeps.require fun _ =>
    Keeps.bind_of inferInstance fun _ => Keeps.bind_of inferInstance fun _ => Keeps.pure

end Checks

end Stepwise

end Steps

end Vault
end MyVault
