import MyVault.Library.Table
import Mathlib.Data.List.Sort

/-!
# Logs

A table whose keys are numbers is a log when every new row has the largest key.
`Table.log` reads the rows of one subject in the order of their keys; a new last row
comes to the end of it (`log_of_last`).

A log is a `History` of a subject that counts its versions: the versions in the log
are `0, 1, …, n`, and the last entry records what holds of the subject now.
-/

namespace MyVault

namespace Table

variable {R : Type} {key : R → ℕ} {t t' : Table key} {p : R → Bool}

/-- The rows that satisfy a condition, in the order of their keys. -/
def log (t : Table key) (p : R → Bool) : List R :=
  (t.rows.filter p).insertionSort fun a b => key a ≤ key b

@[simp] theorem mem_log {row : R} : row ∈ t.log p ↔ row ∈ t ∧ p row = true := by
  rw [log, List.mem_insertionSort, List.mem_filter, mem_rows]

/-- The keys go up. -/
theorem pairwise_log : (t.log p).Pairwise fun a b => key a < key b := by
  have : Std.Total fun a b : R => key a ≤ key b := ⟨fun a b => Nat.le_total _ _⟩
  have : IsTrans R fun a b => key a ≤ key b := ⟨fun _ _ _ => Nat.le_trans⟩
  have hle : (t.log p).Pairwise fun a b => key a ≤ key b := List.pairwise_insertionSort _ _
  have hne : (t.log p).Pairwise fun a b => key a ≠ key b := by
    have hnodup : ((t.log p).map key).Nodup := by
      rw [log, ((List.perm_insertionSort _ _).map key).nodup_iff]
      exact t.nodup_keys.sublist (List.filter_sublist.map key)
    exact List.pairwise_map.mp hnodup
  exact (hle.and hne).imp fun h => Nat.lt_of_le_of_ne h.1 h.2

/-- Only one list has these rows in this order. -/
theorem eq_log_of_pairwise {rows : List R} (hpairwise : rows.Pairwise fun a b => key a < key b)
    (hmem : ∀ row, row ∈ rows ↔ row ∈ t ∧ p row = true) : rows = t.log p := by
  have : IsTrans R fun a b => key a < key b := ⟨fun _ _ _ => Nat.lt_trans⟩
  have : Std.Irrefl fun a b : R => key a < key b := ⟨fun _ => Nat.lt_irrefl _⟩
  have : Std.Antisymm fun a b : R => key a < key b :=
    ⟨fun _ _ h h' => absurd h (Nat.lt_asymm h')⟩
  exact hpairwise.eq_of_mem_iff pairwise_log fun row => (hmem row).trans mem_log.symm

theorem log_congr (h : ∀ row, p row = true → (row ∈ t' ↔ row ∈ t)) : t'.log p = t.log p := by
  refine eq_log_of_pairwise pairwise_log fun row => ?_
  rw [mem_log]
  exact and_congr_left (h row)

section Last

variable {new : R} (hmem : ∀ row, row ∈ t' ↔ row ∈ t ∨ row = new)

include hmem

/-- A new last row comes to the end of the log of its subject. -/
theorem log_of_last (hlast : ∀ old ∈ t, key old < key new) (hp : p new = true) :
    t'.log p = t.log p ++ [new] := by
  refine (eq_log_of_pairwise ?_ fun row => ?_).symm
  · rw [List.pairwise_append]
    refine ⟨pairwise_log, List.pairwise_singleton _ _, fun old hold row hrow => ?_⟩
    rw [List.mem_singleton.mp hrow]
    exact hlast old (mem_log.mp hold).1
  · rw [List.mem_append, List.mem_singleton, mem_log, hmem]
    constructor
    · rintro (⟨hrow, hrowp⟩ | rfl)
      · exact ⟨Or.inl hrow, hrowp⟩
      · exact ⟨Or.inr rfl, hp⟩
    · rintro ⟨hrow | rfl, hrowp⟩
      · exact Or.inl ⟨hrow, hrowp⟩
      · exact Or.inr rfl

/-- The logs of the other subjects stay. -/
theorem log_of_other (hp : ¬ p new = true) : t'.log p = t.log p := by
  refine log_congr fun row hrow => ?_
  rw [hmem]
  refine or_iff_left ?_
  rintro rfl
  exact hp hrow

end Last

end Table

/-! ## Histories -/

/-- The entries count the versions of a subject up to `n`, and the last one records `now`. -/
structure History {R C : Type} (version : R → ℕ) (record : R → C) (entries : List R) (n : ℕ)
    (now : C) : Prop where
  versions : entries.map version = List.range (n + 1)
  last : entries.getLast?.map record = some now

namespace History

variable {R C : Type} {version : R → ℕ} {record : R → C} {entries : List R} {n : ℕ} {now : C}

/-- The first entry is a history. -/
theorem first {entry : R} (hversion : version entry = 0) :
    History version record [entry] 0 (record entry) where
  versions := by rw [List.map_singleton, hversion, List.range_one]
  last := rfl

/-- The entry of the next version continues a history. -/
theorem next (h : History version record entries n now) {entry : R}
    (hversion : version entry = n + 1) :
    History version record (entries ++ [entry]) (n + 1) (record entry) where
  versions := by
    rw [List.map_append, h.versions, List.map_singleton, hversion, ← List.range_succ]
  last := by rw [List.getLast?_concat, Option.map_some]

/-- There is one entry for every version. -/
theorem length_eq (h : History version record entries n now) : entries.length = n + 1 := by
  have hlength := congrArg List.length h.versions
  rwa [List.length_map, List.length_range] at hlength

end History

end MyVault
