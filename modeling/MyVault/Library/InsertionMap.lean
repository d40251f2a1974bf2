import Mathlib.Data.List.Nodup
import Mathlib.Data.List.Perm.Subperm
import Mathlib.Data.Nat.Notation

/-!
# Maps that remember the order of insertion

A map is filled from a list, and its values are read in the order in which their keys were
first inserted; a key that comes again replaces the value where it stands.  So the keys are
those of the list, each once (`mem_keys_mapValues`, `nodup_keys_mapValues`), those of an
earlier part come first (`keys_prefix_mapValues`), and a list without repeated keys is what is
read (`mapValues_eq_self`).
-/

namespace MyVault

variable {α K : Type} [DecidableEq K] (key : α → K)

/-- `map.set(key(a), a)`, on the values in their order. -/
def insertValue (values : List α) (a : α) : List α :=
  if key a ∈ values.map key then values.map fun b => if key b = key a then a else b
  else values ++ [a]

/-- `[...new Map(list.map((a) => [key(a), a])).values()]`. -/
def mapValues (list : List α) : List α := list.foldl (insertValue key) []

variable {key}

theorem keys_insertValue (values : List α) (a : α) : (insertValue key values a).map key =
    if key a ∈ values.map key then values.map key else values.map key ++ [key a] := by
  rw [insertValue]
  split
  · rw [List.map_map]
    refine List.map_congr_left fun b _ => ?_
    rw [Function.comp_apply]
    split
    · rename_i hkey
      exact hkey.symm
    · rfl
  · rw [List.map_append, List.map_singleton]

theorem keys_prefix_insertValue (values : List α) (a : α) :
    values.map key <+: (insertValue key values a).map key := by
  rw [keys_insertValue]
  split
  · exact List.prefix_rfl
  · exact List.prefix_append _ _

theorem keys_prefix_foldl (list values : List α) :
    values.map key <+: (list.foldl (insertValue key) values).map key := by
  induction list generalizing values with
  | nil => exact List.prefix_rfl
  | cons a list ih => exact (keys_prefix_insertValue values a).trans (ih _)

theorem nodup_keys_insertValue {values : List α} (a : α) (h : (values.map key).Nodup) :
    ((insertValue key values a).map key).Nodup := by
  rw [keys_insertValue]
  split
  · exact h
  · rename_i hnew
    refine h.append (List.nodup_singleton _) ?_
    intro k hk hk'
    rw [List.mem_singleton.mp hk'] at hk
    exact hnew hk

theorem nodup_keys_mapValues (list : List α) : ((mapValues key list).map key).Nodup := by
  have hfold : ∀ values : List α, (values.map key).Nodup →
      ((list.foldl (insertValue key) values).map key).Nodup := by
    induction list with
    | nil => exact fun values h => h
    | cons a list ih => exact fun values h => ih _ (nodup_keys_insertValue a h)
  exact hfold [] List.nodup_nil

theorem mem_keys_foldl {k : K} (list values : List α) :
    k ∈ (list.foldl (insertValue key) values).map key ↔ k ∈ values.map key ∨ k ∈ list.map key := by
  induction list generalizing values with
  | nil => simp
  | cons a list ih =>
      rw [List.foldl_cons, ih, keys_insertValue, List.map_cons, List.mem_cons]
      split
      · rename_i hold
        constructor
        · rintro (h | h)
          · exact Or.inl h
          · exact Or.inr (Or.inr h)
        · rintro (h | rfl | h)
          · exact Or.inl h
          · exact Or.inl hold
          · exact Or.inr h
      · rw [List.mem_append, List.mem_singleton, or_assoc]

theorem mem_keys_mapValues {k : K} (list : List α) :
    k ∈ (mapValues key list).map key ↔ k ∈ list.map key := by
  rw [mapValues, mem_keys_foldl]
  simp

/-- The keys of the first part come first. -/
theorem keys_prefix_mapValues (first second : List α) :
    (mapValues key first).map key <+: (mapValues key (first ++ second)).map key := by
  rw [mapValues, mapValues, List.foldl_append]
  exact keys_prefix_foldl _ _

/-- A key of a first part that is not too long is among the first. -/
theorem mem_keys_take_mapValues {first second : List α} {n : ℕ} {k : K}
    (hk : k ∈ first.map key) (hlength : first.length ≤ n) :
    k ∈ ((mapValues key (first ++ second)).take n).map key := by
  have hshort : ((mapValues key first).map key).length ≤ first.length := by
    have hsub : (mapValues key first).map key ⊆ first.map key := fun k' hk' =>
      (mem_keys_mapValues first).mp hk'
    have hle := (List.subperm_of_subset (nodup_keys_mapValues first) hsub).length_le
    exact Nat.le_trans hle (Nat.le_of_eq (List.length_map key))
  rw [List.map_take]
  have hmem := (mem_keys_mapValues first).mpr hk
  have hprefix : (mapValues key first).map key <+: (mapValues key (first ++ second)).map key :=
    keys_prefix_mapValues first second
  obtain ⟨rest, hrest⟩ := hprefix
  rw [← hrest, List.take_append, List.take_of_length_le (Nat.le_trans hshort hlength)]
  exact List.mem_append_left _ hmem

theorem foldl_insertValue_of_nodup {list values : List α}
    (h : ((values ++ list).map key).Nodup) :
    list.foldl (insertValue key) values = values ++ list := by
  induction list generalizing values with
  | nil => exact (List.append_nil values).symm
  | cons a list ih =>
      have hnew : key a ∉ values.map key := by
        rw [List.map_append, List.map_cons] at h
        exact fun hold => (List.disjoint_of_nodup_append h) hold List.mem_cons_self
      rw [List.foldl_cons, insertValue, if_neg hnew, ih, List.append_assoc, List.singleton_append]
      rwa [List.append_assoc, List.singleton_append]

/-- Without a key that comes twice the list is what is read. -/
theorem mapValues_eq_self {list : List α} (h : (list.map key).Nodup) :
    mapValues key list = list := by
  rw [mapValues, foldl_insertValue_of_nodup (by rwa [List.nil_append]), List.nil_append]

end MyVault
