import MyVault.Vault.Publish

/-!
# What an error says about the publication

An operation on content files is truthful in a run if a success means that what was asked
for is done, and an error that does not leave the outcome open means that no content file
has changed.  Every run ends in one of four ways (`Ending`), and the fourth, where a plain
error hides a change, is exactly what `Slips` describes:

* a file is written, or replaced, and a step before the publication fails together with
  the removal of the temporary file;
* `atomic_write` has renamed its file and the flush of the directory fails;
* a case rename has come to its temporary name and the way on from there fails.
-/

namespace MyVault
namespace Vault
namespace Stepwise

open Program VaultPath

/-! ## Calls -/

/-- A call of one of the operations. -/
inductive Call (u : Unicode) where
  | atomicWrite (relative : VaultPath u) (contents : List UInt8) (intent : WriteIntent)
  | createNew (relative : VaultPath u) (contents : List UInt8) (intent : WriteIntent)
  | replaceContentFile (relative : VaultPath u) (expected : FileRevision)
      (contents : List UInt8) (maxBytes : ℕ)
  | atomicMove (source destination : VaultPath u) (intent : WriteIntent)
  | moveContentFile (source destination : VaultPath u) (expected : FileRevision)
  | caseRenameContentFile (source destination temporary : VaultPath u) (expected : FileRevision)

/-- What stood at the source, and below it, now stands at the destination, and nothing else
has changed. -/
def Relocated (d d' : Disk) (source destination : Location) : Prop :=
  d.tree.nodeAt source ≠ none ∧ ∀ location, d'.tree.nodeAt location =
    if destination <+: location then
      d.tree.nodeAt (source ++ location.drop destination.length)
    else if source <+: location then none else d.tree.nodeAt location

section Run

variable {u : Unicode} (blake3 : Blake3) (faults : Faults) (pid : ℕ)

/-- The file of the revision has been moved now, or it was at the destination before. -/
def MovedFile (expected : FileRevision) (d d' : Disk) (source destination : Location) : Prop :=
  Holds blake3 d source expected ∧ Relocated d d' source destination ∨
    Holds blake3 d destination expected ∧ d' = d ∧
      (faults.Honest → d.tree.nodeAt source = none)

/-- The steps of a call. -/
def Call.run : Call u → VaultProgram Unit
  | .atomicWrite relative contents intent =>
      Stepwise.atomicWrite u faults pid relative contents intent
  | .createNew relative contents intent => Stepwise.createNew u faults pid relative contents intent
  | .replaceContentFile relative expected contents maxBytes =>
      Stepwise.replaceContentFile u blake3 faults pid relative expected contents maxBytes
  | .atomicMove source destination intent => Stepwise.atomicMove u faults source destination intent
  | .moveContentFile source destination expected => do
    let _ ← Stepwise.moveContentFile u blake3 faults source destination expected .fresh
    pure ()
  | .caseRenameContentFile source destination temporary expected => do
    let _ ← Stepwise.caseRenameContentFile u blake3 faults source destination temporary expected
      .fresh
    pure ()

/-- What a call asks for has been done, and nothing else. -/
def Call.Done (d d' : Disk) : Call u → Prop
  | .atomicWrite relative contents _ => Sets d d' (pathOf relative) contents
  | .createNew relative contents _ => Sets d d' (pathOf relative) contents
  | .replaceContentFile relative _ contents _ => Sets d d' (pathOf relative) contents
  | .atomicMove source destination _ => Relocated d d' (pathOf source) (pathOf destination)
  | .moveContentFile source destination expected =>
      MovedFile blake3 faults expected d d' (pathOf source) (pathOf destination)
  | .caseRenameContentFile source destination _ expected =>
      MovedFile blake3 faults expected d d' (pathOf source) (pathOf destination)

/-- The result of a call tells the truth about the disk it leaves. -/
def Truthful (call : Call u) (w : World) : Prop :=
  match exec (call.run blake3 faults pid) w with
  | (.ok _, w') => call.Done blake3 faults w.disk w'.disk
  | (.error e, w') => e.isUnknown = false → ∀ location, IsContent u location →
      w'.disk.bytesAt location = w.disk.bytesAt location

/-! ## Slips -/

/-- The steps fail, and so does the removal of the temporary file after them. -/
def FailsAndKeeps {α : Type} (temp : Location) (p : VaultProgram α) (w : World) : Prop :=
  ∃ e w₁ kind w₂, exec p w = (.error e, w₁) ∧
    exec (change faults (·.removeFile temp)) w₁ = (.error kind, w₂)

/-- The checks have passed, there is a temporary file, and so on from there. -/
def AfterTemp (checks : VaultProgram Location) (w : World)
    (P : Location → String → World → Prop) : Prop :=
  ∃ parent w₁ name w₂, exec checks w = (.ok parent, w₁) ∧
    exec (createTemp faults pid parent) w₁ = (.ok name, w₂) ∧ P parent name w₂

/-- The steps of `atomic_write` up to the rename. -/
def renameTemp (temp destination : Location) (contents : List UInt8) : VaultProgram Unit := do
  writeTemp faults temp contents
  io (change faults (·.rename temp destination))

/-- The steps of `create_new` up to the hard link. -/
def linkTemp (temp destination : Location) (contents : List UInt8) : VaultProgram Unit := do
  writeTemp faults temp contents
  io (change faults (·.hardLink temp destination))

/-- The steps of `replace_content_file_if_revision` up to the rename. -/
def replaceTemp (relative : VaultPath u) (expected : FileRevision) (contents : List UInt8)
    (maxBytes : ℕ) (parent : Location) (tempName : String) : VaultProgram Location := do
  writeTemp faults (parent ++ [.utf8 tempName]) contents
  let latest ← replaceContentRecheck u blake3 faults relative expected contents maxBytes parent
    tempName
  io (change faults (·.rename (latest ++ [.utf8 tempName]) (entry latest (nameOf relative))))
  pure latest

/-- The calls that end with a plain error although a content file has changed. -/
def Slips (w : World) : Call u → Prop
  | .atomicWrite relative contents intent =>
      AfterTemp faults pid (atomicWriteChecks u faults relative intent) w fun parent name w₁ =>
        let temp := parent ++ [.utf8 name]
        FailsAndKeeps faults temp (renameTemp faults temp (pathOf relative) contents) w₁ ∧
            IsContent u temp ∨
          ∃ w₂, exec (renameTemp faults temp (pathOf relative) contents) w₁ = (.ok (), w₂) ∧
            FailsAndKeeps faults temp (io (syncDirectory faults)) w₂ ∧
            IsContent u (pathOf relative) ∧ w.disk.bytesAt (pathOf relative) ≠ some contents
  | .createNew relative contents intent =>
      AfterTemp faults pid (createNewChecks u faults relative intent) w fun parent name w₁ =>
        let temp := parent ++ [.utf8 name]
        FailsAndKeeps faults temp (linkTemp faults temp (pathOf relative) contents) w₁ ∧
          IsContent u temp
  | .replaceContentFile relative expected contents maxBytes =>
      AfterTemp faults pid
        (replaceContentChecks u blake3 faults relative expected contents maxBytes)
        w fun parent name w₁ =>
          let temp := parent ++ [.utf8 name]
          FailsAndKeeps faults temp
              (replaceTemp blake3 faults relative expected contents maxBytes parent name) w₁ ∧
            IsContent u temp
  | .atomicMove .. => False
  | .moveContentFile .. => False
  | .caseRenameContentFile source destination temporary expected =>
      ∃ parent w₁ w₂ e w₃,
        exec (caseRenameChecks u faults source destination temporary expected) w =
            (.ok (parent, ⟨true, false, false⟩), w₁) ∧
          exec (renameToTemporary u blake3 faults parent source destination temporary expected) w₁ =
            (.ok (), w₂) ∧
          exec (renameToDestination u faults parent source destination temporary) w₂ =
            (.error e, w₃)

/-! ## The four ways to end -/

/-- How a run of a call ends. -/
inductive Ending (call : Call u) (w : World) : Except CoreError Unit → World → Prop
  | done {w' : World} (hdone : call.Done blake3 faults w.disk w'.disk)
      (hslips : ¬ Slips blake3 faults pid w call) : Ending call w (.ok ()) w'
  | unknown {e : CoreError} {w' : World} (he : e.isUnknown = true)
      (hslips : ¬ Slips blake3 faults pid w call) : Ending call w (.error e) w'
  | unchanged {e : CoreError} {w' : World}
      (hsame : ∀ location, IsContent u location →
        w'.disk.bytesAt location = w.disk.bytesAt location)
      (hslips : ¬ Slips blake3 faults pid w call) : Ending call w (.error e) w'
  | slipped {e : CoreError} {w' : World} {location : Location} (he : e.isUnknown = false)
      (hcontent : IsContent u location)
      (hchanged : w'.disk.bytesAt location ≠ w.disk.bytesAt location)
      (hslips : Slips blake3 faults pid w call) : Ending call w (.error e) w'

theorem Ending.truthful {call : Call u} {w : World}
    (h : Ending blake3 faults pid call w (exec (call.run blake3 faults pid) w).1
      (exec (call.run blake3 faults pid) w).2) :
    Truthful blake3 faults pid call w ↔ ¬ Slips blake3 faults pid w call := by
  rw [Truthful]
  cases hrun : exec (call.run blake3 faults pid) w with
  | mk x w' =>
      rw [hrun] at h
      cases h with
      | done hdone hslips => exact iff_of_true hdone hslips
      | unknown he hslips =>
          refine iff_of_true (fun hplain => ?_) hslips
          rw [he] at hplain
          exact nomatch hplain
      | unchanged hsame hslips => exact iff_of_true (fun _ => hsame) hslips
      | slipped he hcontent hchanged hslips =>
          exact iff_of_false (fun h => hchanged (h he _ hcontent)) (not_not_intro hslips)

end Run

end Stepwise
end Vault
end MyVault
