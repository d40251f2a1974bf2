import Mathlib.Data.List.Nodup

/-!
# The conflict matrix: cells and outcomes

The names of the frozen C01-C34 matrix of `conflict/classifier.rs`, and their
stable spellings, which identities and durable evidence are derived from.
-/

namespace MyVault
namespace Conflict

/-- Canonical conflict-matrix cell. -/
inductive ConflictCell where
  | c01 | c02 | c03 | c04 | c05 | c06a | c06b | c07 | c08 | c09
  | c10 | c11 | c12 | c13 | c14a | c14b | c14c | c15 | c16 | c17
  | c18 | c19 | c20 | c21 | c22a | c22b | c23 | c24 | c25 | c26
  | c27 | c28a | c28b | c29 | c30 | c31 | c32 | c33a | c33b | c34
  deriving DecidableEq, Repr

/-- Stable, persistence-safe spelling. -/
def ConflictCell.asStr : ConflictCell → String
  | .c01 => "C01"
  | .c02 => "C02"
  | .c03 => "C03"
  | .c04 => "C04"
  | .c05 => "C05"
  | .c06a => "C06a"
  | .c06b => "C06b"
  | .c07 => "C07"
  | .c08 => "C08"
  | .c09 => "C09"
  | .c10 => "C10"
  | .c11 => "C11"
  | .c12 => "C12"
  | .c13 => "C13"
  | .c14a => "C14a"
  | .c14b => "C14b"
  | .c14c => "C14c"
  | .c15 => "C15"
  | .c16 => "C16"
  | .c17 => "C17"
  | .c18 => "C18"
  | .c19 => "C19"
  | .c20 => "C20"
  | .c21 => "C21"
  | .c22a => "C22a"
  | .c22b => "C22b"
  | .c23 => "C23"
  | .c24 => "C24"
  | .c25 => "C25"
  | .c26 => "C26"
  | .c27 => "C27"
  | .c28a => "C28a"
  | .c28b => "C28b"
  | .c29 => "C29"
  | .c30 => "C30"
  | .c31 => "C31"
  | .c32 => "C32"
  | .c33a => "C33a"
  | .c33b => "C33b"
  | .c34 => "C34"

/-- The sole top-level result vocabulary. -/
inductive ConflictOutcome where
  | noOpVerified
  | guardedLocalReplace
  | safeTextMergeLocal
  | preserveBothLocal
  | remoteMutationBlocked
  | unsupportedProtected
  | needsReconcile
  deriving DecidableEq, Repr

/-- Stable spelling for durable conflict evidence. -/
def ConflictOutcome.asStr : ConflictOutcome → String
  | .noOpVerified => "no_op_verified"
  | .guardedLocalReplace => "guarded_local_replace"
  | .safeTextMergeLocal => "safe_text_merge_local"
  | .preserveBothLocal => "preserve_both_local"
  | .remoteMutationBlocked => "remote_mutation_blocked"
  | .unsupportedProtected => "unsupported_protected"
  | .needsReconcile => "needs_reconcile"

/-- Every cell, in the order of the matrix. -/
def ConflictCell.all : List ConflictCell :=
  [.c01, .c02, .c03, .c04, .c05, .c06a, .c06b, .c07, .c08, .c09, .c10, .c11, .c12, .c13, .c14a,
   .c14b, .c14c, .c15, .c16, .c17, .c18, .c19, .c20, .c21, .c22a, .c22b, .c23, .c24, .c25, .c26,
   .c27, .c28a, .c28b, .c29, .c30, .c31, .c32, .c33a, .c33b, .c34]

/-- Every outcome. -/
def ConflictOutcome.all : List ConflictOutcome :=
  [.noOpVerified, .guardedLocalReplace, .safeTextMergeLocal, .preserveBothLocal,
   .remoteMutationBlocked, .unsupportedProtected, .needsReconcile]

theorem ConflictCell.mem_all (cell : ConflictCell) : cell ∈ ConflictCell.all := by
  cases cell <;> decide

theorem ConflictOutcome.mem_all (outcome : ConflictOutcome) : outcome ∈ ConflictOutcome.all := by
  cases outcome <;> decide

/-- The spellings of different cells are different. -/
theorem ConflictCell.asStr_injective : Function.Injective ConflictCell.asStr := fun a b =>
  List.inj_on_of_nodup_map (by decide : (ConflictCell.all.map ConflictCell.asStr).Nodup)
    a.mem_all b.mem_all

/-- The spellings of different outcomes are different. -/
theorem ConflictOutcome.asStr_injective : Function.Injective ConflictOutcome.asStr := fun a b =>
  List.inj_on_of_nodup_map (by decide : (ConflictOutcome.all.map ConflictOutcome.asStr).Nodup)
    a.mem_all b.mem_all

end Conflict
end MyVault
