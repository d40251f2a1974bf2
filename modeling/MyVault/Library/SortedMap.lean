import Mathlib.Data.List.Nodup
import Mathlib.Order.Lattice

/-!
# Maps sorted by their keys

A `SortedMap` is a list of entries whose keys increase strictly, so that a key has one
entry at most and the values come out in the order of their keys.  What `insert` and
`erase` do is said by `lookup_insert` and `lookup_erase`.
-/

namespace MyVault

variable {K V : Type} [LinearOrder K]

/-- Puts an entry at its place, over the one with the same key. -/
def insertEntry (key : K) (value : V) : List (K × V) → List (K × V)
  | [] => [(key, value)]
  | entry :: rest =>
    if key < entry.1 then (key, value) :: entry :: rest
    else if key = entry.1 then (key, value) :: rest
    else entry :: insertEntry key value rest

theorem mem_insertEntry {key : K} {value : V} {entries : List (K × V)} {entry : K × V}
    (hsorted : entries.Pairwise fun a b => a.1 < b.1) :
    entry ∈ insertEntry key value entries ↔
      entry = (key, value) ∨ entry ∈ entries ∧ entry.1 ≠ key := by
  induction entries with
  | nil => simp [insertEntry]
  | cons first rest ih =>
      obtain ⟨hfirst, hrest⟩ := List.pairwise_cons.mp hsorted
      rw [insertEntry]
      split
      · rename_i hlt
        have hne : ∀ entry ∈ first :: rest, entry.1 ≠ key := by
          intro entry hentry
          rcases List.mem_cons.mp hentry with rfl | hentry
          · exact hlt.ne'
          · exact (hlt.trans (hfirst entry hentry)).ne'
        rw [List.mem_cons]
        exact or_congr_right ⟨fun h => ⟨h, hne _ h⟩, And.left⟩
      · split
        · rename_i heq
          have hne : ∀ entry ∈ rest, entry.1 ≠ key := fun entry hentry =>
            (heq ▸ hfirst entry hentry).ne'
          rw [List.mem_cons, List.mem_cons]
          refine or_congr_right ⟨fun h => ⟨Or.inr h, hne _ h⟩, ?_⟩
          rintro ⟨rfl | h, hkey⟩
          · exact absurd heq.symm hkey
          · exact h
        · rename_i hlt hne
          rw [List.mem_cons, ih hrest, List.mem_cons]
          constructor
          · rintro (rfl | rfl | ⟨h, hkey⟩)
            · exact Or.inr ⟨Or.inl rfl, fun heq => hne heq.symm⟩
            · exact Or.inl rfl
            · exact Or.inr ⟨Or.inr h, hkey⟩
          · rintro (rfl | ⟨rfl | h, hkey⟩)
            · exact Or.inr (Or.inl rfl)
            · exact Or.inl rfl
            · exact Or.inr (Or.inr ⟨h, hkey⟩)

theorem sorted_insertEntry {key : K} {value : V} {entries : List (K × V)}
    (hsorted : entries.Pairwise fun a b => a.1 < b.1) :
    (insertEntry key value entries).Pairwise fun a b => a.1 < b.1 := by
  induction entries with
  | nil => exact List.pairwise_singleton _ _
  | cons first rest ih =>
      obtain ⟨hfirst, hrest⟩ := List.pairwise_cons.mp hsorted
      rw [insertEntry]
      split
      · rename_i hlt
        refine List.pairwise_cons.mpr ⟨fun entry hentry => ?_, hsorted⟩
        rcases List.mem_cons.mp hentry with rfl | hentry
        · exact hlt
        · exact hlt.trans (hfirst entry hentry)
      · split
        · rename_i heq
          exact List.pairwise_cons.mpr ⟨fun entry hentry => heq ▸ hfirst entry hentry, hrest⟩
        · rename_i hlt hne
          refine List.pairwise_cons.mpr ⟨fun entry hentry => ?_, ih hrest⟩
          rcases (mem_insertEntry hrest).mp hentry with rfl | ⟨hentry, -⟩
          · exact lt_of_le_of_ne (not_lt.mp hlt) fun heq => hne heq.symm
          · exact hfirst entry hentry

/-- Entries in the order of their keys, no two with the same key. -/
structure SortedMap (K V : Type) [LinearOrder K] where
  entries : List (K × V)
  sorted : entries.Pairwise fun a b => a.1 < b.1

namespace SortedMap

variable {map : SortedMap K V} {key other : K} {value : V}

/-- The map without entries. -/
def empty : SortedMap K V := ⟨[], List.Pairwise.nil⟩

/-- The map with a value under a key. -/
def insert (map : SortedMap K V) (key : K) (value : V) : SortedMap K V :=
  ⟨insertEntry key value map.entries, sorted_insertEntry map.sorted⟩

/-- The map without a key. -/
def erase (map : SortedMap K V) (key : K) : SortedMap K V :=
  ⟨map.entries.filter fun entry => entry.1 ≠ key, map.sorted.filter _⟩

/-- The value under a key. -/
def lookup (map : SortedMap K V) (key : K) : Option V :=
  (map.entries.find? fun entry => entry.1 = key).map (·.2)

/-- The values in the order of their keys. -/
def values (map : SortedMap K V) : List V := map.entries.map (·.2)

theorem nodup_keys (map : SortedMap K V) : (map.entries.map (·.1)).Nodup :=
  List.pairwise_map.mpr (map.sorted.imp fun h => h.ne)

theorem lookup_eq_some_iff : map.lookup key = some value ↔ (key, value) ∈ map.entries := by
  rw [lookup, Option.map_eq_some_iff]
  constructor
  · rintro ⟨entry, hfind, rfl⟩
    have hkey : entry.1 = key := by simpa using List.find?_some hfind
    rw [← hkey]
    exact List.mem_of_find?_eq_some hfind
  · intro hmem
    cases hfind : map.entries.find? fun entry => entry.1 = key with
    | none => exact absurd (decide_eq_true rfl) (List.find?_eq_none.mp hfind _ hmem)
    | some entry =>
        have hkey : entry.1 = key := by simpa using List.find?_some hfind
        have hentry := List.inj_on_of_nodup_map map.nodup_keys
          (List.mem_of_find?_eq_some hfind) hmem hkey
        exact ⟨entry, rfl, congrArg Prod.snd hentry⟩

theorem lookup_insert :
    (map.insert key value).lookup other = if other = key then some value else map.lookup other := by
  ext found
  rw [lookup_eq_some_iff]
  show (other, found) ∈ insertEntry key value map.entries ↔ _
  rw [mem_insertEntry map.sorted, Prod.mk.injEq]
  split
  · rename_i heq
    simp [heq, eq_comm]
  · rename_i hne
    simp [hne, lookup_eq_some_iff]

theorem lookup_erase :
    (map.erase key).lookup other = if other = key then none else map.lookup other := by
  ext found
  rw [lookup_eq_some_iff]
  show (other, found) ∈ map.entries.filter (fun entry => entry.1 ≠ key) ↔ _
  rw [List.mem_filter]
  split
  · rename_i heq
    simp [heq]
  · rename_i hne
    simp [hne, lookup_eq_some_iff]

end SortedMap
end MyVault
