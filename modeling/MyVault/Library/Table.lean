import Mathlib.Data.List.Nodup
import Mathlib.Data.Nat.Notation

/-!
# Tables with a primary key

A `Table key` is a list of rows no two of which have the same key.  The statements
on a table keep the key: `insert` refuses a key that is taken, `update` may change
anything but the key, `delete` is free.  So the primary key of a table holds by its
type, and at most one row matches a condition that fixes the key
(`count_le_one`).

`equals` and `differs` are the comparisons of nullable columns.
-/

namespace MyVault

/-- Rows in the order of insertion, no two with the same key. -/
structure Table {R K : Type} (key : R → K) where
  rows : List R
  nodup_keys : (rows.map key).Nodup

namespace Table

variable {R K : Type} {key : R → K}

instance : Membership R (Table key) := ⟨fun t row => row ∈ t.rows⟩

theorem mem_rows {t : Table key} {row : R} : row ∈ t.rows ↔ row ∈ t := Iff.rfl

@[ext] theorem ext {s t : Table key} (h : s.rows = t.rows) : s = t := by
  cases s
  cases t
  cases h
  rfl

instance [DecidableEq R] : DecidableEq (Table key) := fun s t =>
  decidable_of_iff (s.rows = t.rows) ⟨ext, fun h => by rw [h]⟩

theorem eq_of_key_eq (t : Table key) {a b : R} (ha : a ∈ t) (hb : b ∈ t)
    (hkey : key a = key b) : a = b := List.inj_on_of_nodup_map t.nodup_keys ha hb hkey

/-! ## Statements -/

/-- The table without rows. -/
def empty : Table key := ⟨[], List.nodup_nil⟩

/-- The rows that satisfy a condition, counted. -/
def count (t : Table key) (p : R → Bool) : ℕ := t.rows.countP p

/-- Changes the rows that satisfy the condition; the key is not changed. -/
def update (t : Table key) (p : R → Bool) (f : R → R)
    (hf : ∀ row, p row = true → key (f row) = key row) : Table key where
  rows := t.rows.map fun row => if p row then f row else row
  nodup_keys := by
    have hkeys : (t.rows.map fun row => if p row then f row else row).map key =
        t.rows.map key := by
      rw [List.map_map]
      refine List.map_congr_left fun row _ => ?_
      rw [Function.comp_apply]
      split
      · rename_i hrow
        exact hf row hrow
      · rfl
    rw [hkeys]
    exact t.nodup_keys

/-- Deletes the rows that satisfy the condition. -/
def delete (t : Table key) (p : R → Bool) : Table key where
  rows := t.rows.filter fun row => !p row
  nodup_keys := t.nodup_keys.sublist (List.filter_sublist.map key)

@[simp] theorem not_mem_empty {row : R} : row ∉ (empty : Table key) := List.not_mem_nil

theorem mem_update {t : Table key} {p : R → Bool} {f : R → R}
    {hf : ∀ row, p row = true → key (f row) = key row} {row : R} :
    row ∈ t.update p f hf ↔
      (∃ old ∈ t, p old = true ∧ row = f old) ∨ (row ∈ t ∧ p row = false) := by
  rw [← mem_rows, update, List.mem_map]
  constructor
  · rintro ⟨old, hold, rfl⟩
    cases hp : p old with
    | true => exact Or.inl ⟨old, hold, hp, by simp⟩
    | false =>
        rw [if_neg Bool.false_ne_true]
        exact Or.inr ⟨hold, hp⟩
  · rintro (⟨old, hold, hp, rfl⟩ | ⟨hrow, hp⟩)
    · exact ⟨old, hold, by simp [hp]⟩
    · exact ⟨row, hrow, by simp [hp]⟩

theorem mem_delete {t : Table key} {p : R → Bool} {row : R} :
    row ∈ t.delete p ↔ row ∈ t ∧ p row = false := by
  rw [← mem_rows, delete, List.mem_filter, Bool.not_eq_true', mem_rows]

theorem count_eq_zero_iff {t : Table key} {p : R → Bool} :
    t.count p = 0 ↔ ∀ row ∈ t, ¬ p row = true := List.countP_eq_zero

/-- An update that matches no row changes nothing. -/
theorem update_of_count_eq_zero {t : Table key} {p : R → Bool} {f : R → R}
    {hf : ∀ row, p row = true → key (f row) = key row} (h : t.count p = 0) :
    t.update p f hf = t := by
  rw [count_eq_zero_iff] at h
  refine ext ?_
  show (t.rows.map fun row => if p row then f row else row) = t.rows
  conv_rhs => rw [← List.map_id t.rows]
  refine List.map_congr_left fun row hrow => ?_
  rw [if_neg (h row hrow), id]

/-- Rows that all have one key are at most one. -/
theorem count_le_one {t : Table key} {p : R → Bool}
    (hp : ∀ a b, p a = true → p b = true → key a = key b) : t.count p ≤ 1 := by
  have hnodup : (t.rows.filter p).Nodup := (List.Nodup.of_map key t.nodup_keys).filter p
  rw [count, List.countP_eq_length_filter]
  match hrows : t.rows.filter p with
  | [] => exact Nat.zero_le 1
  | [a] => exact Nat.le_refl 1
  | a :: b :: rest =>
      have ha : a ∈ t.rows.filter p := by rw [hrows]; exact List.mem_cons_self
      have hb : b ∈ t.rows.filter p := by
        rw [hrows]
        exact List.mem_cons_of_mem _ List.mem_cons_self
      rw [List.mem_filter] at ha hb
      have hab : a = b := t.eq_of_key_eq ha.1 hb.1 (hp a b ha.2 hb.2)
      rw [hrows, hab] at hnodup
      exact absurd List.mem_cons_self (List.nodup_cons.mp hnodup).1

theorem count_pos_iff {t : Table key} {p : R → Bool} :
    0 < t.count p ↔ ∃ row ∈ t, p row = true := List.countP_pos_iff

section Lookup

variable [DecidableEq K]

/-- The row of a key. -/
def lookup (t : Table key) (k : K) : Option R := t.rows.find? fun row => key row = k

/-- Adds a row whose key is new. -/
def insert (t : Table key) (row : R) : Option (Table key) :=
  if h : ∀ old ∈ t.rows, key old ≠ key row then
    some
      { rows := t.rows ++ [row]
        nodup_keys := by
          rw [List.map_append]
          refine t.nodup_keys.append (List.nodup_singleton _) ?_
          intro k hk hk'
          obtain ⟨old, hold, rfl⟩ := List.mem_map.mp hk
          exact h old hold (List.mem_singleton.mp hk') }
  else none

theorem insert_eq_some_iff {t t' : Table key} {row : R} :
    t.insert row = some t' ↔ (∀ old ∈ t, key old ≠ key row) ∧ t'.rows = t.rows ++ [row] := by
  rw [insert]
  split
  · rename_i h
    rw [Option.some.injEq]
    constructor
    · rintro rfl
      exact ⟨h, rfl⟩
    · exact fun ⟨_, hrows⟩ => ext hrows.symm
  · rename_i h
    exact iff_of_false (fun hnone => nomatch hnone) fun hnew => h hnew.1

theorem insert_eq_none_iff {t : Table key} {row : R} :
    t.insert row = none ↔ ∃ old ∈ t, key old = key row := by
  rw [insert, dite_eq_right_iff]
  constructor
  · intro h
    by_contra hfree
    push Not at hfree
    exact nomatch h hfree
  · rintro ⟨old, hold, hkey⟩ h
    exact absurd hkey (h old hold)

theorem mem_of_insert {t t' : Table key} {new row : R} (h : t.insert new = some t') :
    row ∈ t' ↔ row ∈ t ∨ row = new := by
  rw [← mem_rows, (insert_eq_some_iff.mp h).2, List.mem_append, List.mem_singleton, mem_rows]

theorem lookup_eq_some_iff {t : Table key} {k : K} {row : R} :
    t.lookup k = some row ↔ row ∈ t ∧ key row = k := by
  constructor
  · exact fun h => ⟨List.mem_of_find?_eq_some h, by simpa using List.find?_some h⟩
  · rintro ⟨hrow, rfl⟩
    cases hfind : t.lookup (key row) with
    | none => exact absurd (decide_eq_true rfl) (List.find?_eq_none.mp hfind row hrow)
    | some other =>
        have hother := List.mem_of_find?_eq_some hfind
        have hkey : key other = key row := by simpa using List.find?_some hfind
        rw [t.eq_of_key_eq hother hrow hkey]

theorem lookup_eq_none_iff {t : Table key} {k : K} :
    t.lookup k = none ↔ ∀ row ∈ t, key row ≠ k := by
  rw [lookup, List.find?_eq_none]
  exact forall₂_congr fun row _ => by rw [decide_eq_true_eq]

/-- A key has one row or none. -/
theorem count_key {t : Table key} (k : K) :
    t.count (fun row => decide (key row = k)) = if (t.lookup k).isSome then 1 else 0 := by
  have hle : t.count (fun row => decide (key row = k)) ≤ 1 := count_le_one fun a b ha hb =>
    (of_decide_eq_true ha).trans (of_decide_eq_true hb).symm
  split
  · rename_i h
    obtain ⟨row, hrow⟩ := Option.isSome_iff_exists.mp h
    obtain ⟨hmem, hkey⟩ := lookup_eq_some_iff.mp hrow
    have hpos : 0 < t.count fun row => decide (key row = k) :=
      count_pos_iff.mpr ⟨row, hmem, decide_eq_true hkey⟩
    omega
  · rename_i h
    rw [Option.not_isSome_iff_eq_none, lookup_eq_none_iff] at h
    exact count_eq_zero_iff.mpr fun row hrow hkey => h row hrow (of_decide_eq_true hkey)

/-- An update changes the row of a key where it matches. -/
theorem lookup_update {t : Table key} {p : R → Bool} {f : R → R}
    {hf : ∀ row, p row = true → key (f row) = key row} (k : K) :
    (t.update p f hf).lookup k = (t.lookup k).map fun row => if p row then f row else row := by
  cases h : t.lookup k with
  | none =>
      rw [Option.map_none, lookup_eq_none_iff]
      rw [lookup_eq_none_iff] at h
      intro row hrow
      rcases mem_update.mp hrow with ⟨old, hold, hp, rfl⟩ | ⟨hrow, -⟩
      · rw [hf old hp]
        exact h old hold
      · exact h row hrow
  | some row =>
      obtain ⟨hrow, rfl⟩ := lookup_eq_some_iff.mp h
      rw [Option.map_some, lookup_eq_some_iff, mem_update]
      split
      · rename_i hp
        exact ⟨Or.inl ⟨row, hrow, hp, rfl⟩, hf row hp⟩
      · rename_i hp
        exact ⟨Or.inr ⟨hrow, Bool.eq_false_iff.mpr hp⟩, rfl⟩

theorem lookup_delete {t : Table key} {p : R → Bool} (k : K) :
    (t.delete p).lookup k = (t.lookup k).filter fun row => !p row := by
  cases h : t.lookup k with
  | none =>
      rw [Option.filter_none, lookup_eq_none_iff]
      rw [lookup_eq_none_iff] at h
      exact fun row hrow => h row (mem_delete.mp hrow).1
  | some row =>
      obtain ⟨hrow, hkey⟩ := lookup_eq_some_iff.mp h
      cases hp : p row with
      | false =>
          rw [Option.filter_some_pos (by rw [hp]; rfl), lookup_eq_some_iff, mem_delete]
          exact ⟨⟨hrow, hp⟩, hkey⟩
      | true =>
          rw [Option.filter_some_neg (by rw [hp]; rfl), lookup_eq_none_iff]
          intro other hother hid
          obtain ⟨hmem, hleft⟩ := mem_delete.mp hother
          rw [t.eq_of_key_eq hmem hrow (hid.trans hkey.symm), hp] at hleft
          cases hleft

/-- An insertion adds the row of a key that had none. -/
theorem lookup_of_insert {t t' : Table key} {new : R} (h : t.insert new = some t') (k : K) :
    t'.lookup k = if key new = k then some new else t.lookup k := by
  split
  · rename_i hk
    exact lookup_eq_some_iff.mpr ⟨(mem_of_insert h).mpr (Or.inr rfl), hk⟩
  · rename_i hk
    cases hold : t.lookup k with
    | none =>
        rw [lookup_eq_none_iff] at hold ⊢
        intro row hrow
        rcases (mem_of_insert h).mp hrow with hrow | rfl
        · exact hold row hrow
        · exact hk
    | some row =>
        obtain ⟨hrow, hkey⟩ := lookup_eq_some_iff.mp hold
        exact lookup_eq_some_iff.mpr ⟨(mem_of_insert h).mpr (Or.inl hrow), hkey⟩

/-- A key without a row takes one. -/
theorem exists_insert {t : Table key} {row : R} (h : t.lookup (key row) = none) :
    ∃ t', t.insert row = some t' := by
  rw [← Option.ne_none_iff_exists', ne_eq, insert_eq_none_iff]
  rintro ⟨old, hold, hkey⟩
  exact lookup_eq_none_iff.mp h old hold hkey

theorem lookup_of_insert_none {t t' : Table key} {new : R} (h : t.insert new = some t') :
    t.lookup (key new) = none := lookup_eq_none_iff.mpr (insert_eq_some_iff.mp h).1

/-- Puts a row over the one with the same key. -/
def put (t : Table key) (row : R) : Table key where
  rows := (t.delete fun old => decide (key old = key row)).rows ++ [row]
  nodup_keys := by
    rw [List.map_append]
    refine (t.delete _).nodup_keys.append (List.nodup_singleton _) ?_
    intro k hk hk'
    obtain ⟨old, hold, rfl⟩ := List.mem_map.mp hk
    have hkept := (mem_delete.mp hold).2
    rw [decide_eq_false_iff_not] at hkept
    exact hkept (List.mem_singleton.mp hk')

theorem mem_put {t : Table key} {new row : R} :
    row ∈ t.put new ↔ row = new ∨ row ∈ t ∧ key row ≠ key new := by
  rw [← mem_rows, put, List.mem_append, List.mem_singleton, mem_rows, mem_delete,
    decide_eq_false_iff_not, or_comm]

theorem lookup_put {t : Table key} {new : R} (k : K) :
    (t.put new).lookup k = if key new = k then some new else t.lookup k := by
  split
  · rename_i hk
    exact lookup_eq_some_iff.mpr ⟨mem_put.mpr (.inl rfl), hk⟩
  · rename_i hk
    cases hold : t.lookup k with
    | none =>
        rw [lookup_eq_none_iff] at hold ⊢
        intro row hrow
        rcases mem_put.mp hrow with rfl | ⟨hrow, -⟩
        · exact hk
        · exact hold row hrow
    | some row =>
        obtain ⟨hrow, hkey⟩ := lookup_eq_some_iff.mp hold
        refine lookup_eq_some_iff.mpr ⟨mem_put.mpr (.inr ⟨hrow, fun hsame => hk ?_⟩), hkey⟩
        exact hsame.symm.trans hkey

end Lookup

/-! ## Comparisons of nullable columns

A comparison with NULL is not true.  The conditions of the statements are built with
AND and OR only, and these never make a condition true that would be false with
"not true" in place of NULL; so `NULL` may count as false. -/

section Nullable

variable {α : Type} [DecidableEq α]

/-- `a = b` is true. -/
def equals (a b : Option α) : Bool := a.isSome && a == b

/-- `a != b` is true. -/
def differs (a b : Option α) : Bool := a.isSome && b.isSome && a != b

theorem equals_some_iff {a : α} {b : Option α} : equals (some a) b = true ↔ b = some a := by
  rw [equals, Option.isSome_some, Bool.true_and, beq_iff_eq]
  exact eq_comm

theorem differs_eq_false_iff {a b : α} : differs (some a) (some b) = false ↔ a = b := by
  simp [differs]

end Nullable
end Table
end MyVault
