import Mathlib.Data.List.Infix
import Mathlib.Data.List.TakeDrop

/-!
# Diffs of two sequences as contiguous operations

A diff of `old` and `new` is a list of operations, each naming a range of both
sequences.  `Partitions` says the ranges follow one another without a gap from
the two beginnings to the two ends, and that an `equal` operation is non-empty
and relates equal slices.  Nothing is said about how the other operations are
chosen: a `SequenceDiff` is any function with that property, so a result about
all of them holds for every tie break of an actual algorithm.

`trimDiff` is the one that keeps the common prefix and suffix and replaces the
middle.
-/

namespace MyVault
namespace SequenceDiff

variable {α : Type*}

/-- The entries at positions `i, …, j - 1`. -/
def slice (xs : List α) (i j : ℕ) : List α := (xs.drop i).take (j - i)

theorem take_append_slice {xs : List α} {i j : ℕ} (h : i ≤ j) :
    xs.take i ++ slice xs i j = xs.take j := by
  obtain ⟨k, rfl⟩ := Nat.exists_eq_add_of_le h
  rw [slice, Nat.add_sub_cancel_left, ← List.take_add]

theorem slice_append_slice {xs : List α} {i j k : ℕ} (hij : i ≤ j) (hjk : j ≤ k) :
    slice xs i j ++ slice xs j k = slice xs i k := by
  obtain ⟨a, rfl⟩ := Nat.exists_eq_add_of_le hij
  obtain ⟨b, rfl⟩ := Nat.exists_eq_add_of_le hjk
  simp only [slice, Nat.add_sub_cancel_left]
  rw [show i + a + b - i = a + b by omega, List.take_add, List.drop_drop]

@[simp] theorem slice_self (xs : List α) (i : ℕ) : slice xs i i = [] := by
  simp [slice]

theorem slice_length (xs : List α) (i : ℕ) : slice xs i xs.length = xs.drop i := by
  rw [slice, ← List.length_drop, List.take_length]

theorem slice_zero (xs : List α) (j : ℕ) : slice xs 0 j = xs.take j := by
  simp [slice]

/-- What an operation says about its two ranges. -/
inductive DiffTag where
  | equal
  | delete
  | insert
  | replace
  deriving DecidableEq, Repr

/-- One operation: a tag, a range of the old sequence and a range of the new. -/
structure DiffOp where
  tag : DiffTag
  oldStart : ℕ
  oldEnd : ℕ
  newStart : ℕ
  newEnd : ℕ
  deriving DecidableEq, Repr

/-- The operations run contiguously from `(i, j)` to the ends of both sequences,
and the `equal` ones are non-empty and relate equal slices. -/
def Partitions (old new : List α) : ℕ → ℕ → List DiffOp → Prop
  | i, j, [] => i = old.length ∧ j = new.length
  | i, j, op :: ops =>
      (op.oldStart = i ∧ op.newStart = j) ∧
      (i ≤ op.oldEnd ∧ op.oldEnd ≤ old.length) ∧
      (j ≤ op.newEnd ∧ op.newEnd ≤ new.length) ∧
      (op.tag = .equal → i < op.oldEnd ∧
        slice old i op.oldEnd = slice new j op.newEnd) ∧
      Partitions old new op.oldEnd op.newEnd ops

end SequenceDiff

/-- A diff function: its operations partition both sequences. -/
structure SequenceDiff (α : Type*) where
  ops : List α → List α → List SequenceDiff.DiffOp
  partitions : ∀ old new, SequenceDiff.Partitions old new 0 0 (ops old new)

namespace SequenceDiff

variable {α : Type*}

/-- A sequence compared with itself has no change. -/
def Reflexive (d : SequenceDiff α) : Prop :=
  ∀ xs, ∀ op ∈ d.ops xs xs, op.tag = .equal

/-! ## Trimming -/

section Trim

variable [DecidableEq α]

/-- How many entries two sequences share at the front. -/
def commonPrefix : List α → List α → ℕ
  | x :: xs, y :: ys => if x = y then commonPrefix xs ys + 1 else 0
  | _, _ => 0

theorem commonPrefix_le_left (xs ys : List α) : commonPrefix xs ys ≤ xs.length := by
  induction xs generalizing ys with
  | nil => simp [commonPrefix]
  | cons x xs ih =>
      cases ys with
      | nil => simp [commonPrefix]
      | cons y ys =>
          rw [commonPrefix]
          split
          · simpa using ih ys
          · simp

theorem commonPrefix_le_right (xs ys : List α) : commonPrefix xs ys ≤ ys.length := by
  induction xs generalizing ys with
  | nil => simp [commonPrefix]
  | cons x xs ih =>
      cases ys with
      | nil => simp [commonPrefix]
      | cons y ys =>
          rw [commonPrefix]
          split
          · simpa using ih ys
          · simp

theorem take_commonPrefix (xs ys : List α) :
    xs.take (commonPrefix xs ys) = ys.take (commonPrefix xs ys) := by
  induction xs generalizing ys with
  | nil => simp [commonPrefix]
  | cons x xs ih =>
      cases ys with
      | nil => simp [commonPrefix]
      | cons y ys =>
          rw [commonPrefix]
          split
          · rename_i h
            rw [List.take_succ_cons, List.take_succ_cons, h, ih ys]
          · simp

theorem commonPrefix_self (xs : List α) : commonPrefix xs xs = xs.length := by
  induction xs with
  | nil => rfl
  | cons x xs ih => rw [commonPrefix, if_pos rfl, ih, List.length_cons]

/-- How many entries two sequences share at the back. -/
def commonSuffix (xs ys : List α) : ℕ := commonPrefix xs.reverse ys.reverse

theorem drop_commonSuffix (xs ys : List α) :
    xs.drop (xs.length - commonSuffix xs ys) = ys.drop (ys.length - commonSuffix xs ys) := by
  have h := congrArg List.reverse (take_commonPrefix xs.reverse ys.reverse)
  rwa [List.reverse_take, List.reverse_take, List.length_reverse, List.length_reverse,
    List.reverse_reverse, List.reverse_reverse] at h

theorem commonSuffix_le_left (xs ys : List α) : commonSuffix xs ys ≤ xs.length := by
  simpa [commonSuffix] using commonPrefix_le_left xs.reverse ys.reverse

theorem commonSuffix_le_right (xs ys : List α) : commonSuffix xs ys ≤ ys.length := by
  simpa [commonSuffix] using commonPrefix_le_right xs.reverse ys.reverse

/-- An `equal` operation, left out when it would be empty. -/
def equalOp (i j n : ℕ) : List DiffOp :=
  if n = 0 then [] else [⟨.equal, i, i + n, j, j + n⟩]

/-- The operation for the middle, left out when both ranges are empty. -/
def middleOp (i i' j j' : ℕ) : List DiffOp :=
  if i = i' then (if j = j' then [] else [⟨.insert, i, i', j, j'⟩])
  else if j = j' then [⟨.delete, i, i', j, j'⟩] else [⟨.replace, i, i', j, j'⟩]

/-- Keep the common prefix and suffix, replace what is between them. -/
def trimOps (old new : List α) : List DiffOp :=
  let p := commonPrefix old new
  let s := commonSuffix (old.drop p) (new.drop p)
  equalOp 0 0 p ++ (middleOp p (old.length - s) p (new.length - s) ++
    equalOp (old.length - s) (new.length - s) s)

omit [DecidableEq α] in
theorem partitions_equalOp {old new : List α} {i j n : ℕ} {ops : List DiffOp}
    (hi : i + n ≤ old.length) (hj : j + n ≤ new.length)
    (h : slice old i (i + n) = slice new j (j + n))
    (hops : Partitions old new (i + n) (j + n) ops) :
    Partitions old new i j (equalOp i j n ++ ops) := by
  rw [equalOp]
  split
  · rename_i hn
    subst hn
    simpa using hops
  · rename_i hn
    exact ⟨⟨rfl, rfl⟩, ⟨by simp, hi⟩, ⟨by simp, hj⟩, fun _ => ⟨by simp; omega, h⟩, hops⟩

omit [DecidableEq α] in
theorem partitions_middleOp {old new : List α} {i i' j j' : ℕ} {ops : List DiffOp}
    (hi : i ≤ i') (hi' : i' ≤ old.length) (hj : j ≤ j') (hj' : j' ≤ new.length)
    (hops : Partitions old new i' j' ops) :
    Partitions old new i j (middleOp i i' j j' ++ ops) := by
  rw [middleOp]
  split
  · rename_i hii
    subst hii
    split
    · rename_i hjj
      subst hjj
      simpa using hops
    · exact ⟨⟨rfl, rfl⟩, ⟨hi, hi'⟩, ⟨hj, hj'⟩, fun h => absurd h (by simp), hops⟩
  · split <;>
      exact ⟨⟨rfl, rfl⟩, ⟨hi, hi'⟩, ⟨hj, hj'⟩, fun h => absurd h (by simp), hops⟩

theorem partitions_trimOps (old new : List α) : Partitions old new 0 0 (trimOps old new) := by
  have hp := commonPrefix_le_left old new
  have hp' := commonPrefix_le_right old new
  have hs := commonSuffix_le_left (old.drop (commonPrefix old new))
    (new.drop (commonPrefix old new))
  have hs' := commonSuffix_le_right (old.drop (commonPrefix old new))
    (new.drop (commonPrefix old new))
  have hsuf := drop_commonSuffix (old.drop (commonPrefix old new))
    (new.drop (commonPrefix old new))
  simp only [trimOps]
  generalize commonSuffix (old.drop (commonPrefix old new))
    (new.drop (commonPrefix old new)) = s at hs hs' hsuf ⊢
  have hpre := take_commonPrefix old new
  generalize commonPrefix old new = p at hp hp' hs hs' hsuf hpre ⊢
  rw [List.length_drop] at hs hs' hsuf
  rw [List.length_drop, List.drop_drop, List.drop_drop] at hsuf
  refine partitions_equalOp (by omega) (by omega) ?_ ?_
  · rw [Nat.zero_add, slice_zero, slice_zero, hpre]
  rw [Nat.zero_add]
  refine partitions_middleOp (by omega) (by omega) (by omega) (by omega) ?_
  rw [← List.append_nil (equalOp _ _ s)]
  refine partitions_equalOp (by omega) (by omega) ?_ ?_
  · rw [Nat.sub_add_cancel (by omega), Nat.sub_add_cancel (by omega), slice_length,
      slice_length]
    rwa [show p + (old.length - p - s) = old.length - s by omega,
      show p + (new.length - p - s) = new.length - s by omega] at hsuf
  · exact ⟨Nat.sub_add_cancel (by omega), Nat.sub_add_cancel (by omega)⟩

/-- The diff that trims the common prefix and suffix. -/
def trimDiff : SequenceDiff α := ⟨trimOps, partitions_trimOps⟩

theorem trimDiff_reflexive : (trimDiff : SequenceDiff α).Reflexive := by
  intro xs op hop
  have hp := commonPrefix_self xs
  have hs : commonSuffix ([] : List α) [] = 0 := rfl
  simp only [trimDiff, trimOps, hp, List.drop_length, hs, Nat.sub_zero, middleOp, equalOp,
    if_true, List.append_nil] at hop
  split at hop
  · simp at hop
  · rw [List.mem_singleton.mp hop]

end Trim

end SequenceDiff
end MyVault
