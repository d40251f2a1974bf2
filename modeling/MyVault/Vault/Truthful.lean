import MyVault.Vault.Relocations
import MyVault.Vault.Writes

/-!
# Which calls tell the truth

Put together, the endings of the six operations: the result of a call tells the truth
about the content files if and only if the call does not slip (`truthful_iff`).

## What is told

An operation that returns `Ok` has done what it says, and one that returns an error has left the
content files as they were, unless the error itself says that the outcome is unknown.  `Truthful`
says this of a call, for any choice of the steps that fail.

`Slips` says which steps have to fail, and on which disk, for a call to end otherwise: those
behind the change of a content file, together with the clean-up that follows them.  It does not
name the result of the call.  Each operation has its own form of it, after its own order of steps,
and its own lemma; the theorem is their case distinction.
-/

namespace MyVault
namespace Vault
namespace Stepwise

open Program VaultPath

variable {u : Unicode} {blake3 : Blake3} {faults : Faults} {pid : ℕ}

/-- Every run ends in one of the four ways. -/
theorem Call.ending (call : Call u) (w : World) :
    Ending blake3 faults pid call w (exec (call.run blake3 faults pid) w).1
      (exec (call.run blake3 faults pid) w).2 := by
  cases call with
  | atomicWrite relative contents intent => exact atomicWrite_ending relative contents intent rfl
  | createNew relative contents intent => exact createNew_ending relative contents intent rfl
  | replaceContentFile relative expected contents maxBytes => exact replaceContentFile_ending rfl
  | atomicMove source destination intent => exact atomicMove_ending rfl
  | moveContentFile source destination expected => exact moveContentFile_ending rfl
  | caseRenameContentFile source destination temporary expected =>
      rw [Call.run, exec_bind]
      cases hrename : exec (Stepwise.caseRenameContentFile u blake3 faults source destination
          temporary expected .fresh) w with
      | mk y w' =>
          have hending : Ending blake3 faults pid
              (.caseRenameContentFile source destination temporary expected) w _ w' :=
            caseRenameContentFile_ending hrename
          cases y with
          | ok outcome => exact hending
          | error e => exact hending

/-- The result of a call tells the truth about the content files if and only if the call
does not slip. -/
theorem truthful_iff (call : Call u) (w : World) :
    Truthful blake3 faults pid call w ↔ ¬ Slips blake3 faults pid w call :=
  (call.ending w).truthful

/-! ## A flush that fails -/

/-- A vault of one note. -/
def oneNote : World where
  disk :=
    { tree := .ofRows [([.utf8 "a.md"], .file 1 [49])] (by decide) (by decide), outside := [] }
  clock := 0
  nextTempId := 0

/-- One step fails. -/
def failsAt (step : ℕ) : Faults := fun n => if n = step then some .other else none

/-- A note in the root. -/
def notePath : VaultPath Unicode.ascii :=
  (fromPortable Unicode.ascii "a.md".toList).get (by decide +kernel)

/-- `atomic_write` has put the new bytes in place when the flush of the folder fails, and
reports a plain failure. -/
theorem atomicWrite_flush_not_truthful :
    (exec (Call.run constantDigest (failsAt 8) 7 (.atomicWrite notePath [50] .userInitiated))
        oneNote).1 = .error (.io .other) ∧
      oneNote.disk.bytesAt [.utf8 "a.md"] = some [49] ∧
      (exec (Call.run constantDigest (failsAt 8) 7 (.atomicWrite notePath [50] .userInitiated))
        oneNote).2.disk.bytesAt [.utf8 "a.md"] = some [50] ∧
      ¬ Truthful constantDigest (failsAt 8) 7 (.atomicWrite notePath [50] .userInitiated)
        oneNote := by
  have hresult : (exec (Call.run constantDigest (failsAt 8) 7
      (.atomicWrite notePath [50] .userInitiated)) oneNote).1 = .error (.io .other) := by
    decide +kernel
  have hbefore : oneNote.disk.bytesAt [.utf8 "a.md"] = some [49] := by decide +kernel
  have hafter : (exec (Call.run constantDigest (failsAt 8) 7
      (.atomicWrite notePath [50] .userInitiated)) oneNote).2.disk.bytesAt [.utf8 "a.md"] =
      some [50] := by decide +kernel
  refine ⟨hresult, hbefore, hafter, fun htruthful => ?_⟩
  rw [Truthful] at htruthful
  cases hrun : exec (Call.run constantDigest (failsAt 8) 7
      (.atomicWrite notePath [50] .userInitiated)) oneNote with
  | mk x w' =>
      rw [hrun] at htruthful hresult hafter
      obtain rfl : x = _ := hresult
      have hcontent : IsContent Unicode.ascii [.utf8 "a.md"] := by
        intro name hname
        cases hname
        decide +kernel
      have hsame := htruthful rfl _ hcontent
      rw [hbefore, hafter] at hsame
      exact nomatch hsame

end Stepwise
end Vault
end MyVault
