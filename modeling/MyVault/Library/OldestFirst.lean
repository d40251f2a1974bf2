import Mathlib.Algebra.BigOperators.Group.List.Basic
import Mathlib.Algebra.Order.BigOperators.Group.List
import Mathlib.Algebra.Order.Ring.Nat
import Mathlib.Data.List.Sort
import Mathlib.Order.Basic

/-!
# Giving up the oldest

A list of weighted elements in the order of their ages is to weigh at most a bound, and it
gives up its oldest elements until it does.  What is given up depends on the elements only,
not on a list of them (`mem_excess_iff`): an element is given up if and only if it, together
with what is newer, weighs more than the bound.
-/

namespace MyVault

variable {α : Type}

/-- What the elements weigh. -/
def weight (w : α → ℕ) (elements : List α) : ℕ := (elements.map w).sum

section Weight

variable {w : α → ℕ}

theorem weight_cons (a : α) (rest : List α) : weight w (a :: rest) = w a + weight w rest := by
  rw [weight, List.map_cons, List.sum_cons, weight]

theorem weight_le_of_sublist {kept elements : List α} (h : kept.Sublist elements) :
    weight w kept ≤ weight w elements := (h.map w).sum_le_sum fun _ _ => Nat.zero_le _

theorem weight_perm {a b : List α} (h : a.Perm b) : weight w a = weight w b := (h.map w).sum_eq

theorem weight_one (elements : List α) : weight (fun _ => 1) elements = elements.length := by
  induction elements with
  | nil => rfl
  | cons a rest ih => rw [weight_cons, ih, List.length_cons, Nat.add_comm]

/-- A part of the elements, in whatever order, weighs less. -/
theorem weight_filter_mono {elements : List α} {p q : α → Bool}
    (h : ∀ a ∈ elements, p a = true → q a = true) :
    weight w (elements.filter p) ≤ weight w (elements.filter q) := by
  have hboth : elements.filter p = (elements.filter q).filter p := by
    rw [List.filter_filter]
    refine List.filter_congr fun a ha => ?_
    cases hp : p a with
    | false => rfl
    | true => rw [h a ha hp, Bool.and_self]
  rw [hboth]
  exact weight_le_of_sublist List.filter_sublist

end Weight

/-- The elements from the oldest on, until the rest weighs at most the bound. -/
def excess (w : α → ℕ) (bound : ℕ) : List α → List α
  | [] => []
  | a :: rest => if weight w (a :: rest) ≤ bound then [] else a :: excess w bound rest

section Excess

variable {w : α → ℕ} {bound : ℕ}

theorem excess_sublist (elements : List α) : (excess w bound elements).Sublist elements := by
  induction elements with
  | nil => exact .refl _
  | cons a rest ih =>
      rw [excess]
      split
      · exact List.nil_sublist _
      · exact ih.cons_cons a

/-- Of elements of one weight the oldest beyond the bound are given up. -/
theorem excess_one (elements : List α) :
    excess (fun _ => 1) bound elements = elements.take (elements.length - bound) := by
  induction elements with
  | nil => rw [excess, List.take_nil]
  | cons a rest ih =>
      rw [excess, weight_one, List.length_cons]
      split
      · rename_i hfits
        rw [Nat.sub_eq_zero_of_le hfits, List.take_zero]
      · rename_i hfits
        have hsub : rest.length + 1 - bound = (rest.length - bound) + 1 := by omega
        rw [hsub, List.take_succ_cons, ih]

variable {K : Type} [LinearOrder K] {key : α → K}

/-- An element is given up exactly if it and what is newer weighs more than the bound. -/
theorem mem_excess_iff {elements : List α} {a : α}
    (hsorted : elements.Pairwise fun x y => key x < key y) (ha : a ∈ elements) :
    a ∈ excess w bound elements ↔
      bound < weight w (elements.filter fun x => key a ≤ key x) := by
  induction elements with
  | nil => cases ha
  | cons first rest ih =>
      obtain ⟨hfirst, hrest⟩ := List.pairwise_cons.mp hsorted
      rcases List.mem_cons.mp ha with rfl | ha
      · -- the oldest element: everything is newer
        have hall : ((a :: rest).filter fun x => key a ≤ key x) = a :: rest := by
          refine List.filter_eq_self.mpr fun x hx => decide_eq_true ?_
          rcases List.mem_cons.mp hx with rfl | hx
          · exact le_refl _
          · exact (hfirst x hx).le
        rw [hall, excess]
        split
        · rename_i hfits
          exact iff_of_false List.not_mem_nil hfits.not_gt
        · rename_i hfits
          exact iff_of_true List.mem_cons_self (Nat.lt_of_not_le hfits)
      · have holder : ¬ key a ≤ key first := (hfirst a ha).not_ge
        have hne : a ≠ first := fun heq => (heq ▸ hfirst a ha).ne rfl
        rw [List.filter_cons_of_neg (by rw [decide_eq_true_eq]; exact holder), excess]
        split
        · rename_i hfits
          refine iff_of_false List.not_mem_nil (Nat.not_lt.mpr ?_)
          exact (weight_le_of_sublist (List.filter_sublist.trans
            (List.sublist_cons_self _ _))).trans
            hfits
        · rw [List.mem_cons, or_iff_right hne, ih hrest ha]

/-- What is left weighs at most the bound: its oldest element is not given up. -/
theorem weight_kept_le {elements : List α}
    (hsorted : elements.Pairwise fun x y => key x < key y) {kept : α → Bool}
    (hkept : ∀ a ∈ elements, kept a = true →
      weight w (elements.filter fun x => key a ≤ key x) ≤ bound) :
    weight w (elements.filter kept) ≤ bound := by
  cases hlist : elements.filter kept with
  | nil => exact Nat.zero_le _
  | cons oldest rest =>
      have holdest : oldest ∈ elements.filter kept := hlist ▸ List.mem_cons_self
      obtain ⟨hmem, hleft⟩ := List.mem_filter.mp holdest
      have hafter : ∀ a ∈ elements, kept a = true → decide (key oldest ≤ key a) = true := by
        intro a ha hk
        have hordered := hsorted.sublist (List.filter_sublist (p := kept))
        have ha : a ∈ elements.filter kept := List.mem_filter.mpr ⟨ha, hk⟩
        rw [hlist] at hordered ha
        rcases List.mem_cons.mp ha with rfl | ha
        · exact decide_eq_true (le_refl _)
        · exact decide_eq_true ((List.pairwise_cons.mp hordered).1 a ha).le
      rw [← hlist]
      exact (weight_filter_mono hafter).trans (hkept oldest hmem hleft)

end Excess

end MyVault
