import MyVault.Library.Runs
import MyVault.Library.Table
import MyVault.Vault.Content
import Mathlib.Data.Set.Card

/-!
# The derived index

`DerivedIndex` of `myvault-core/src/index.rs`: the table `notes` of schema 2 and the
statements on it.  The table refuses by itself a path or a collision key that is taken and a
negative length; `insert_record` asks for a row of the same key before it writes, so that two
paths that are aliases of each other on some file system are never both there.

What is kept is a catalog of notes, one for a path: `represents_step` says what every
operation does to it, and `represents_run` what a whole run leaves.

## Main results

* `represents_step`: what an operation does to the catalog, and that one that fails does nothing
  to it.
* `represents_run`, `index_run`: over any list of operations, what the index returns is what the
  catalog says.
* `rebuild_exact`: a rebuild succeeds exactly if every record is valid and no two are aliases of
  each other, and leaves the last one of each path, whatever was there.

The operations are programs of the library over the table, so that a transaction that fails gives
back the table it began with.  That the constraints of the table hold is part of its type
(`Notes`).
-/

namespace MyVault
namespace Index

open Program Check VaultPath Vault Store

variable {u : Unicode}

/-- The variants of `CoreError` that the index returns. -/
inductive IndexError where
  | invalidRecord (reason : String)
  | portablePathCollision (existing incoming : Text)
  | invalidRelativePath
  /-- The error of a constraint. -/
  | database
  deriving DecidableEq

/-- What the index is told of a note. -/
structure NoteRecord (u : Unicode) where
  path : VaultPath u
  title : String
  contentHash : String
  modifiedMs : ℤ
  byteLen : ℕ

/-! ## The table -/

/-- A row of the index. -/
structure NoteRow where
  path : Text
  collisionKey : Text
  title : String
  contentHash : String
  modifiedMs : ℤ
  byteLen : ℤ
  deriving DecidableEq

/-- `CREATE TABLE notes`, with its constraints. -/
structure Notes where
  table : Table NoteRow.path
  unique_collisionKey : (table.rows.map NoteRow.collisionKey).Nodup
  byteLen_nonneg : ∀ row ∈ table, 0 ≤ row.byteLen

namespace Notes

@[ext] theorem ext {notes notes' : Notes} (h : notes.table = notes'.table) : notes = notes' := by
  cases notes
  cases notes'
  cases h
  rfl

/-- The index of an empty vault. -/
def empty : Notes where
  table := .empty
  unique_collisionKey := List.nodup_nil
  byteLen_nonneg _ hrow := absurd hrow Table.not_mem_empty

theorem eq_of_collisionKey_eq (notes : Notes) {a b : NoteRow} (ha : a ∈ notes.table)
    (hb : b ∈ notes.table) (h : a.collisionKey = b.collisionKey) : a = b :=
  List.inj_on_of_nodup_map notes.unique_collisionKey ha hb h

/-- `DELETE FROM notes WHERE path = ?1`. -/
def delete (notes : Notes) (path : Text) : Notes where
  table := notes.table.delete fun row => decide (row.path = path)
  unique_collisionKey := notes.unique_collisionKey.sublist (List.filter_sublist.map _)
  byteLen_nonneg row hrow := notes.byteLen_nonneg row (Table.mem_delete.mp hrow).1

/-- `INSERT INTO notes … ON CONFLICT(path) DO UPDATE`; `none` is a constraint that fails. -/
def upsert (notes : Notes) (row : NoteRow) : Option Notes :=
  if h : (∀ old ∈ notes.table.rows, old.collisionKey = row.collisionKey → old.path = row.path) ∧
      0 ≤ row.byteLen then
    some
      { table := notes.table.put row
        unique_collisionKey := by
          rw [Table.put, List.map_append]
          refine List.Nodup.append (notes.unique_collisionKey.sublist
            (List.filter_sublist.map _)) (List.nodup_singleton _) ?_
          intro k hk hk'
          obtain ⟨old, hold, rfl⟩ := List.mem_map.mp hk
          obtain ⟨hold, hkept⟩ := Table.mem_delete.mp hold
          rw [decide_eq_false_iff_not] at hkept
          exact hkept (h.1 old hold (List.mem_singleton.mp hk'))
        byteLen_nonneg := by
          intro old hold
          rcases Table.mem_put.mp hold with rfl | ⟨hold, -⟩
          · exact h.2
          · exact notes.byteLen_nonneg old hold }
  else none

/-- `SELECT path FROM notes WHERE collision_key = ?1 AND path <> ?2 LIMIT 1`. -/
def findCollision (notes : Notes) (collisionKey incoming : Text) : Option Text :=
  (notes.table.rows.find? fun row =>
    decide (row.collisionKey = collisionKey ∧ row.path ≠ incoming)).map NoteRow.path

theorem findCollision_eq_none {notes : Notes} {key incoming : Text} :
    notes.findCollision key incoming = none ↔
      ∀ row ∈ notes.table, row.collisionKey = key → row.path = incoming := by
  rw [findCollision, Option.map_eq_none_iff, List.find?_eq_none]
  simp [Table.mem_rows]

theorem findCollision_eq_some {notes : Notes} {key incoming existing : Text} :
    notes.findCollision key incoming = some existing ↔
      existing ≠ incoming ∧ ∃ row ∈ notes.table, row.collisionKey = key ∧ row.path = existing := by
  rw [findCollision, Option.map_eq_some_iff]
  constructor
  · rintro ⟨row, hrow, rfl⟩
    have hfound := List.find?_some hrow
    rw [decide_eq_true_eq] at hfound
    exact ⟨hfound.2, row, List.mem_of_find?_eq_some hrow, hfound.1, rfl⟩
  · rintro ⟨hne, row, hrow, rfl, rfl⟩
    cases hfind : notes.table.rows.find? fun other =>
        decide (other.collisionKey = row.collisionKey ∧ other.path ≠ incoming) with
    | none => exact absurd (decide_eq_true ⟨rfl, hne⟩) (List.find?_eq_none.mp hfind row hrow)
    | some other =>
        have hfound := List.find?_some hfind
        rw [decide_eq_true_eq] at hfound
        have hsame := notes.eq_of_collisionKey_eq (List.mem_of_find?_eq_some hfind) hrow hfound.1
        exact ⟨other, rfl, hsame ▸ rfl⟩

/-- Where no other path has the key, the row is written. -/
theorem upsert_eq_some {notes notes' : Notes} {row : NoteRow} :
    notes.upsert row = some notes' ↔
      notes.findCollision row.collisionKey row.path = none ∧ 0 ≤ row.byteLen ∧
        notes'.table = notes.table.put row := by
  rw [findCollision_eq_none, upsert]
  split
  · rename_i h
    rw [Option.some.injEq]
    constructor
    · rintro rfl
      exact ⟨h.1, h.2, rfl⟩
    · exact fun h' => ext h'.2.2.symm
  · rename_i h
    exact iff_of_false (by simp) fun h' => h ⟨h'.1, h'.2.1⟩

end Notes

theorem Notes.exists_upsert {notes : Notes} {row : NoteRow}
    (hfind : notes.findCollision row.collisionKey row.path = none) (hlen : 0 ≤ row.byteLen) :
    ∃ notes', notes.upsert row = some notes' := by
  rw [Notes.upsert, dif_pos ⟨Notes.findCollision_eq_none.mp hfind, hlen⟩]
  exact ⟨_, rfl⟩

/-! ## The statements of the source -/

/-- The program of a call on the database. -/
abbrev Db (α : Type) := Program Notes IndexError α

/-- The values that `insert_record` binds. -/
def NoteRecord.row (record : NoteRecord u) : NoteRow where
  path := record.path.asStr
  collisionKey := Store.collisionKey record.path
  title := record.title
  contentHash := record.contentHash
  modifiedMs := record.modifiedMs
  byteLen := record.byteLen

/-- The note may be indexed. -/
def NoteRecord.validate (record : NoteRecord u) : Except IndexError Unit := do
  Check.reject (Stepwise.classify record.path ≠ .content)
    (.invalidRecord "internal .obsidian and .trash paths must not be indexed")
  Check.reject (record.contentHash = "") (.invalidRecord "content hash must not be empty")
  Check.reject (fitsI64 record.byteLen = false)
    (.invalidRecord "byte length exceeds SQLite INTEGER")

/-- The row of a note, if no other spelling of its path is there. -/
def insertRecord (record : NoteRecord u) : Db Unit := do
  Program.lift record.validate
  let key := Store.collisionKey record.path
  match ← Program.read fun notes => notes.findCollision key record.path.asStr with
  | some existing => throw (.portablePathCollision existing record.path.asStr)
  | none =>
    match ← Program.read fun notes => notes.upsert record.row with
    | some notes => Program.write fun _ => notes
    | none =>
      -- another connection may have won after the query
      match ← Program.read fun notes => notes.findCollision key record.path.asStr with
      | some existing => throw (.portablePathCollision existing record.path.asStr)
      | none => throw .database

/-- `upsert`: the note is indexed, or indexed anew. -/
def upsert (record : NoteRecord u) : Db Unit := Program.transaction (insertRecord record)

/-- `remove`: the note is forgotten. -/
def remove (path : VaultPath u) : Db Unit :=
  Program.transaction (Program.write fun notes => notes.delete path.asStr)

/-- `rebuild`: the index is made of these notes and no others. -/
def rebuild (records : List (NoteRecord u)) : Db Unit :=
  Program.transaction do
    Program.write fun _ => .empty
    records.forM insertRecord

/-- A row as `get` reads it. -/
def decodeRow (u : Unicode) (row : NoteRow) : Except IndexError (NoteRecord u) := do
  Check.reject (row.byteLen < 0) (.invalidRecord "negative byte length")
  match fromPortable u row.path with
  | none => .error .invalidRelativePath
  | some path =>
    .ok
      { path
        title := row.title
        contentHash := row.contentHash
        modifiedMs := row.modifiedMs
        byteLen := row.byteLen.toNat }

/-- What the index says of a note. -/
def Notes.get (notes : Notes) (path : VaultPath u) : Except IndexError (Option (NoteRecord u)) :=
  match notes.table.lookup path.asStr with
  | none => .ok none
  | some row => (decodeRow u row).map some

/-- How many notes are indexed. -/
def Notes.count (notes : Notes) : ℕ := notes.table.rows.length

/-! ### What the statements do -/

/-- A row that was written is read as it was given. -/
theorem decodeRow_row (record : NoteRecord u) : decodeRow u record.row = .ok record := by
  have hlen : ¬ record.row.byteLen < 0 := not_lt.mpr (Int.natCast_nonneg _)
  have hpath : fromPortable u record.row.path = some record.path := fromPortable_asStr _
  rw [decodeRow, Check.reject, if_neg hlen, hpath]
  rfl

/-- Everything that `insert_record` can come to. -/
theorem insertRecord_cases (record : NoteRecord u) (notes : Notes) :
    (∃ e, record.validate = .error e ∧ exec (insertRecord record) notes = (.error e, notes)) ∨
    (record.validate = .ok () ∧ ∃ existing,
      notes.findCollision (collisionKey record.path) record.path.asStr = some existing ∧
      exec (insertRecord record) notes =
        (.error (.portablePathCollision existing record.path.asStr), notes)) ∨
    (record.validate = .ok () ∧
      notes.findCollision (collisionKey record.path) record.path.asStr = none ∧
      ∃ notes' : Notes, notes'.table = notes.table.put record.row ∧
        exec (insertRecord record) notes = (.ok (), notes')) := by
  cases hvalid : record.validate with
  | error e =>
      refine Or.inl ⟨e, rfl, ?_⟩
      rw [insertRecord, exec_bind, exec_lift, hvalid]
  | ok _ =>
      refine Or.inr ?_
      cases hfind : notes.findCollision (collisionKey record.path) record.path.asStr with
      | some existing =>
          refine Or.inl ⟨rfl, existing, rfl, ?_⟩
          rw [insertRecord, exec_bind, exec_lift, hvalid]
          dsimp only
          rw [exec_bind, exec_read, hfind]
          rfl
      | none =>
          have hlen : 0 ≤ record.row.byteLen := Int.natCast_nonneg _
          have hexists : ∃ notes', notes.upsert record.row = some notes' :=
            Notes.exists_upsert hfind hlen
          obtain ⟨notes', hupsert⟩ := hexists
          refine Or.inr ⟨rfl, rfl, notes', (Notes.upsert_eq_some.mp hupsert).2.2, ?_⟩
          rw [insertRecord, exec_bind, exec_lift, hvalid]
          dsimp only
          rw [exec_bind, exec_read, hfind]
          dsimp only
          rw [exec_bind, exec_read, hupsert]
          rfl

/-! ## What an index is for -/

/-- Notes, each at its path, no two at paths that some file system takes for one. -/
structure Catalog (u : Unicode) where
  note : VaultPath u → Option (NoteRecord u)
  path_eq : ∀ {path record}, note path = some record → record.path = path
  valid : ∀ {path record}, note path = some record → record.validate = .ok ()
  apart : ∀ {path path' record record'}, note path = some record → note path' = some record' →
    collisionKey path = collisionKey path' → path = path'

namespace Catalog

/-- The catalog of an empty vault. -/
def empty : Catalog u where
  note _ := none
  path_eq h := by cases h
  valid h := by cases h
  apart h := by cases h

/-- No other path of the catalog is an alias of this one. -/
def Free (c : Catalog u) (path : VaultPath u) : Prop :=
  ∀ other record, c.note other = some record → collisionKey other = collisionKey path →
    other = path

open scoped Classical in
/-- The catalog with one note more, or another one at its path. -/
noncomputable def add (c : Catalog u) (record : NoteRecord u) (hvalid : record.validate = .ok ())
    (hfree : c.Free record.path) : Catalog u where
  note path := if path = record.path then some record else c.note path
  path_eq {path other} hother := by
    split at hother
    · rename_i hpath
      cases hother
      exact hpath.symm
    · exact c.path_eq hother
  valid {path other} hother := by
    split at hother
    · cases hother
      exact hvalid
    · exact c.valid hother
  apart {path path' other other'} hother hother' hkey := by
    split at hother
    · rename_i hpath
      split at hother'
      · rename_i hpath'
        exact hpath.trans hpath'.symm
      · rw [hpath] at hkey ⊢
        exact (hfree path' other' hother' hkey.symm).symm
    · split at hother'
      · rename_i hpath'
        rw [hpath'] at hkey ⊢
        exact hfree path other hother hkey
      · exact c.apart hother hother' hkey

open scoped Classical in
/-- The catalog without the note at a path. -/
noncomputable def remove (c : Catalog u) (path : VaultPath u) : Catalog u where
  note other := if other = path then none else c.note other
  path_eq {other record} hrecord := by
    split at hrecord
    · cases hrecord
    · exact c.path_eq hrecord
  valid {other record} hrecord := by
    split at hrecord
    · cases hrecord
    · exact c.valid hrecord
  apart {other other' record record'} hrecord hrecord' hkey := by
    split at hrecord
    · cases hrecord
    · split at hrecord'
      · cases hrecord'
      · exact c.apart hrecord hrecord' hkey

open scoped Classical in
theorem note_add_eq_some {c : Catalog u} {record other : NoteRecord u} {path : VaultPath u}
    (hvalid : record.validate = .ok ()) (hfree : c.Free record.path) :
    (c.add record hvalid hfree).note path = some other ↔
      path = record.path ∧ other = record ∨ path ≠ record.path ∧ c.note path = some other := by
  show (if path = record.path then some record else c.note path) = some other ↔ _
  by_cases hpath : path = record.path
  · simp [hpath, eq_comm]
  · simp [hpath]

open scoped Classical in
theorem note_remove_eq_some {c : Catalog u} {path other : VaultPath u} {record : NoteRecord u} :
    (c.remove path).note other = some record ↔ other ≠ path ∧ c.note other = some record := by
  show (if other = path then none else c.note other) = some record ↔ _
  by_cases hother : other = path
  · simp [hother]
  · simp [hother]

end Catalog

/-! ### The records of a rebuild -/

/-- The last record for a path. -/
def lastAt (records : List (NoteRecord u)) (path : VaultPath u) : Option (NoteRecord u) :=
  records.reverse.find? fun record => decide (record.path.asStr = path.asStr)

/-- Every record is valid, and no two have paths that are aliases. -/
structure Loadable (records : List (NoteRecord u)) : Prop where
  valid : ∀ record ∈ records, record.validate = .ok ()
  apart : ∀ a ∈ records, ∀ b ∈ records, collisionKey a.path = collisionKey b.path → a.path = b.path

/-- The first record that cannot follow those before it, and the error it gives. -/
def FailsWith (records : List (NoteRecord u)) (e : IndexError) : Prop :=
  ∃ init record rest, records = init ++ record :: rest ∧ Loadable init ∧
    (record.validate = .error e ∨ record.validate = .ok () ∧ ∃ other ∈ init,
      collisionKey other.path = collisionKey record.path ∧ other.path ≠ record.path ∧
        e = .portablePathCollision other.path.asStr record.path.asStr)

theorem mem_of_lastAt {records : List (NoteRecord u)} {path : VaultPath u} {record : NoteRecord u}
    (h : lastAt records path = some record) : record ∈ records ∧ record.path = path := by
  have hpath := List.find?_some h
  rw [decide_eq_true_eq] at hpath
  exact ⟨List.mem_reverse.mp (List.mem_of_find?_eq_some h), asStr_injective hpath⟩

theorem exists_lastAt {records : List (NoteRecord u)} {record : NoteRecord u}
    (h : record ∈ records) : ∃ last, lastAt records record.path = some last := by
  rw [lastAt, ← Option.isSome_iff_exists, List.find?_isSome]
  exact ⟨record, List.mem_reverse.mpr h, decide_eq_true rfl⟩

theorem lastAt_concat (records : List (NoteRecord u)) (record : NoteRecord u) (path : VaultPath u) :
    lastAt (records ++ [record]) path =
      if record.path.asStr = path.asStr then some record else lastAt records path := by
  rw [lastAt, List.reverse_append, List.reverse_singleton, List.singleton_append, List.find?_cons]
  split
  · rename_i h
    rw [if_pos (of_decide_eq_true h)]
  · rename_i h
    rw [if_neg (of_decide_eq_false h), lastAt]

theorem Loadable.nil : Loadable ([] : List (NoteRecord u)) :=
  ⟨fun _ h => absurd h List.not_mem_nil, fun _ h => absurd h List.not_mem_nil⟩

theorem Loadable.of_append {records rest : List (NoteRecord u)} (h : Loadable (records ++ rest)) :
    Loadable records :=
  ⟨fun record hrecord => h.valid record (List.mem_append_left _ hrecord), fun a ha b hb =>
    h.apart a (List.mem_append_left _ ha) b (List.mem_append_left _ hb)⟩

theorem FailsWith.not_loadable {records : List (NoteRecord u)} {e : IndexError}
    (h : FailsWith records e) : ¬ Loadable records := by
  obtain ⟨init, record, rest, rfl, -, hbad⟩ := h
  intro hload
  have hmem : record ∈ init ++ record :: rest := List.mem_append_right _ List.mem_cons_self
  rcases hbad with hinvalid | ⟨-, other, hother, hkey, hne, -⟩
  · cases hinvalid.symm.trans (hload.valid record hmem)
  · exact hne (hload.apart other (List.mem_append_left _ hother) record hmem hkey)

/-- The catalog of a list of records. -/
def Catalog.ofRecords (records : List (NoteRecord u)) (h : Loadable records) : Catalog u where
  note := lastAt records
  path_eq hrecord := (mem_of_lastAt hrecord).2
  valid hrecord := h.valid _ (mem_of_lastAt hrecord).1
  apart hrecord hrecord' hkey := by
    obtain ⟨hmem, rfl⟩ := mem_of_lastAt hrecord
    obtain ⟨hmem', rfl⟩ := mem_of_lastAt hrecord'
    exact h.apart _ hmem _ hmem' hkey

/-! ### The table is a catalog -/

/-- The rows are those of the notes. -/
def Represents (notes : Notes) (c : Catalog u) : Prop :=
  ∀ row, row ∈ notes.table ↔ ∃ path record, c.note path = some record ∧ record.row = row

namespace Represents

variable {notes notes' : Notes} {c : Catalog u}

theorem empty : Represents Notes.empty (Catalog.empty (u := u)) := by
  intro row
  refine iff_of_false Table.not_mem_empty ?_
  rintro ⟨path, record, hnote, -⟩
  cases hnote

/-- `get` reads the catalog. -/
theorem get (h : Represents notes c) (path : VaultPath u) : notes.get path = .ok (c.note path) := by
  cases hnote : c.note path with
  | none =>
      have hlookup : notes.table.lookup path.asStr = none := by
        refine Table.lookup_eq_none_iff.mpr fun row hrow hpath => ?_
        obtain ⟨other, record, hrecord, rfl⟩ := (h row).mp hrow
        have hother : other = path := (c.path_eq hrecord).symm.trans (asStr_injective hpath)
        rw [hother, hnote] at hrecord
        cases hrecord
      rw [Notes.get, hlookup]
  | some record =>
      have hpath : record.row.path = path.asStr := congrArg asStr (c.path_eq hnote)
      have hlookup : notes.table.lookup path.asStr = some record.row :=
        Table.lookup_eq_some_iff.mpr ⟨(h _).mpr ⟨path, record, hnote, rfl⟩, hpath⟩
      rw [Notes.get, hlookup]
      dsimp only
      rw [decodeRow_row]
      rfl

theorem findCollision_eq_none (h : Represents notes c) {path : VaultPath u} :
    notes.findCollision (collisionKey path) path.asStr = none ↔ c.Free path := by
  rw [Notes.findCollision_eq_none]
  constructor
  · intro hnone other record hrecord hkey
    rw [← c.path_eq hrecord] at hkey ⊢
    exact asStr_injective (hnone record.row ((h _).mpr ⟨other, record, hrecord, rfl⟩) hkey)
  · intro hfree row hrow hkey
    obtain ⟨other, record, hrecord, rfl⟩ := (h row).mp hrow
    have hsame := c.path_eq hrecord
    have hother := hfree other record hrecord (hsame ▸ hkey)
    exact congrArg asStr (hsame.trans hother)

/-- A row with a key of its own is written as a note. -/
theorem put (h : Represents notes c) {record : NoteRecord u} (hvalid : record.validate = .ok ())
    (hfree : c.Free record.path) (hput : notes'.table = notes.table.put record.row) :
    Represents notes' (c.add record hvalid hfree) := by
  intro row
  rw [hput, Table.mem_put]
  simp only [Catalog.note_add_eq_some]
  constructor
  · rintro (rfl | ⟨hrow, hne⟩)
    · exact ⟨record.path, record, Or.inl ⟨rfl, rfl⟩, rfl⟩
    · obtain ⟨path, other, hother, rfl⟩ := (h row).mp hrow
      refine ⟨path, other, Or.inr ⟨fun hpath => hne ?_, hother⟩, rfl⟩
      exact congrArg asStr ((c.path_eq hother).trans hpath)
  · rintro ⟨path, other, ⟨rfl, rfl⟩ | ⟨hpath, hother⟩, rfl⟩
    · exact Or.inl rfl
    · refine Or.inr ⟨(h _).mpr ⟨path, other, hother, rfl⟩, fun hsame => hpath ?_⟩
      exact (c.path_eq hother).symm.trans (asStr_injective hsame)

theorem delete (h : Represents notes c) (path : VaultPath u) :
    Represents (notes.delete path.asStr) (c.remove path) := by
  intro row
  rw [Notes.delete, Table.mem_delete, decide_eq_false_iff_not]
  simp only [Catalog.note_remove_eq_some]
  constructor
  · rintro ⟨hrow, hne⟩
    obtain ⟨other, record, hrecord, rfl⟩ := (h row).mp hrow
    refine ⟨other, record, ⟨fun hother => hne ?_, hrecord⟩, rfl⟩
    exact congrArg asStr ((c.path_eq hrecord).trans hother)
  · rintro ⟨other, record, ⟨hother, hrecord⟩, rfl⟩
    refine ⟨(h _).mpr ⟨other, record, hrecord, rfl⟩, fun hsame => hother ?_⟩
    exact (c.path_eq hrecord).symm.trans (asStr_injective hsame)

end Represents

/-! ### The loop of a rebuild -/

theorem Loadable.concat {records : List (NoteRecord u)} {record : NoteRecord u}
    (h : Loadable records) (hvalid : record.validate = .ok ())
    (hfree : (Catalog.ofRecords records h).Free record.path) : Loadable (records ++ [record]) := by
  have hapart : ∀ a ∈ records, collisionKey a.path = collisionKey record.path →
      a.path = record.path := by
    intro a ha hkey
    obtain ⟨last, hlast⟩ := exists_lastAt ha
    exact hfree a.path last hlast hkey
  refine ⟨fun a ha => ?_, fun a ha b hb hkey => ?_⟩
  · rcases List.mem_append.mp ha with ha | ha
    · exact h.valid a ha
    · rw [List.mem_singleton.mp ha]
      exact hvalid
  · rcases List.mem_append.mp ha with ha | ha <;> rcases List.mem_append.mp hb with hb | hb
    · exact h.apart a ha b hb hkey
    · rw [List.mem_singleton.mp hb] at hkey ⊢
      exact hapart a ha hkey
    · rw [List.mem_singleton.mp ha] at hkey ⊢
      exact (hapart b hb hkey.symm).symm
    · rw [List.mem_singleton.mp ha, List.mem_singleton.mp hb]

theorem Represents.concat {notes notes' : Notes} {records : List (NoteRecord u)}
    {record : NoteRecord u} {hload : Loadable records}
    (h : Represents notes (Catalog.ofRecords records hload)) (hvalid : record.validate = .ok ())
    (hfree : (Catalog.ofRecords records hload).Free record.path)
    (hput : notes'.table = notes.table.put record.row) :
    Represents notes' (Catalog.ofRecords (records ++ [record]) (hload.concat hvalid hfree)) := by
  have hnote : ∀ path, ((Catalog.ofRecords records hload).add record hvalid hfree).note path =
      lastAt (records ++ [record]) path := by
    intro path
    refine Option.ext fun other => ?_
    rw [Catalog.note_add_eq_some, lastAt_concat]
    by_cases hpath : record.path.asStr = path.asStr
    · simp [asStr_injective hpath, eq_comm]
    · have hne : path ≠ record.path := fun hsame => hpath (congrArg asStr hsame.symm)
      simp [hpath, hne, Catalog.ofRecords]
  intro row
  rw [h.put hvalid hfree hput row]
  simp only [hnote]
  rfl

/-- The loop goes on with the records so far as its catalog. -/
theorem rebuild_loop (todo : List (NoteRecord u)) {done : List (NoteRecord u)}
    {hload : Loadable done} {notes : Notes}
    (h : Represents notes (Catalog.ofRecords done hload)) :
    (∃ (hall : Loadable (done ++ todo)) (notes' : Notes),
      exec (todo.forM insertRecord) notes = (.ok (), notes') ∧
        Represents notes' (Catalog.ofRecords (done ++ todo) hall)) ∨
    ∃ e notes', exec (todo.forM insertRecord) notes = (.error e, notes') ∧
      FailsWith (done ++ todo) e := by
  induction todo generalizing done notes with
  | nil =>
      rw [List.append_nil]
      exact Or.inl ⟨hload, notes, rfl, h⟩
  | cons record todo ih =>
      have hforM : exec ((record :: todo).forM insertRecord) notes =
          exec (insertRecord record >>= fun _ => todo.forM insertRecord) notes := rfl
      rw [hforM, exec_bind]
      rcases insertRecord_cases record notes with ⟨e, hinvalid, hrun⟩ |
        ⟨hvalid, existing, hfind, hrun⟩ | ⟨hvalid, hfind, notes', hput, hrun⟩
      · rw [hrun]
        exact Or.inr ⟨e, notes, rfl, done, record, todo, rfl, hload, Or.inl hinvalid⟩
      · rw [hrun]
        obtain ⟨hne, row, hrow, hkey, rfl⟩ := Notes.findCollision_eq_some.mp hfind
        obtain ⟨path, other, hother, rfl⟩ := (h row).mp hrow
        refine Or.inr ⟨_, notes, rfl, done, record, todo, rfl, hload, Or.inr ⟨hvalid, other,
          (mem_of_lastAt hother).1, hkey, fun hpath => hne (congrArg asStr hpath), rfl⟩⟩
      · rw [hrun]
        have hfree := h.findCollision_eq_none.mp hfind
        have hconcat := h.concat hvalid hfree hput
        have happend : done ++ record :: todo = done ++ [record] ++ todo := by simp
        rw [happend]
        exact ih hconcat

/-- Both fail at the record after the longest part that is loadable. -/
theorem FailsWith.unique {records : List (NoteRecord u)} {e e' : IndexError}
    (h : FailsWith records e) (h' : FailsWith records e') : e = e' := by
  obtain ⟨init, record, rest, hsplit, hload, hbad⟩ := h
  obtain ⟨init', record', rest', hsplit', hload', hbad'⟩ := h'
  have hinit : init = init' := by
    -- of two such parts the longer one holds the record at which the shorter one ends
    rcases lt_trichotomy init.length init'.length with hlt | heq | hgt
    · have hpre : init ++ [record] <+: init' := by
        have hwhole : init ++ [record] <+: records := ⟨rest, by simp [hsplit]⟩
        refine List.prefix_of_prefix_length_le hwhole ⟨record' :: rest', hsplit'.symm⟩ ?_
        rw [List.length_append, List.length_singleton]
        omega
      obtain ⟨more, rfl⟩ := hpre
      exact absurd hload'.of_append (FailsWith.not_loadable ⟨init, record, [], rfl, hload, hbad⟩)
    · exact (List.append_inj (hsplit.symm.trans hsplit') heq).1
    · have hpre : init' ++ [record'] <+: init := by
        have hwhole : init' ++ [record'] <+: records := ⟨rest', by simp [hsplit']⟩
        refine List.prefix_of_prefix_length_le hwhole ⟨record :: rest, hsplit.symm⟩ ?_
        rw [List.length_append, List.length_singleton]
        omega
      obtain ⟨more, rfl⟩ := hpre
      exact absurd hload.of_append (FailsWith.not_loadable ⟨init', record', [], rfl, hload', hbad'⟩)
  subst hinit
  obtain ⟨rfl, -⟩ := List.cons.inj (List.append_cancel_left (hsplit.symm.trans hsplit'))
  rcases hbad with hinvalid | ⟨hvalid, other, hother, hkey, hne, rfl⟩
  · rcases hbad' with hinvalid' | ⟨hvalid', -⟩
    · exact Except.error.inj (hinvalid.symm.trans hinvalid')
    · cases hinvalid.symm.trans hvalid'
  · rcases hbad' with hinvalid' | ⟨-, other', hother', hkey', -, rfl⟩
    · cases hinvalid'.symm.trans hvalid
    · rw [hload.apart other hother other' hother' (hkey.trans hkey'.symm)]

/-- `rebuild` on any table. -/
theorem rebuild_cases (records : List (NoteRecord u)) (notes : Notes) :
    (∃ (hload : Loadable records) (notes' : Notes),
      exec (rebuild records) notes = (.ok (), notes') ∧
        Represents notes' (Catalog.ofRecords records hload)) ∨
    ∃ e, FailsWith records e ∧ exec (rebuild records) notes = (.error e, notes) := by
  have hempty : Represents Notes.empty (Catalog.ofRecords ([] : List (NoteRecord u)) .nil) := by
    intro row
    refine iff_of_false Table.not_mem_empty ?_
    rintro ⟨path, record, hnote, -⟩
    cases hnote
  have hbody : exec (rebuild records) notes =
      exec (Program.transaction (Program.write (fun _ => Notes.empty) >>= fun _ =>
        records.forM insertRecord)) notes := rfl
  rw [hbody, exec_transaction, exec_bind, exec_write]
  dsimp only
  rcases rebuild_loop records hempty with ⟨hload, notes', hrun, hrep⟩ | ⟨e, notes', hrun, hfails⟩
  · rw [hrun]
    exact Or.inl ⟨hload, notes', rfl, hrep⟩
  · rw [hrun]
    exact Or.inr ⟨e, hfails, rfl⟩

/-- The order of the records matters only where a path comes twice. -/
theorem lastAt_perm {records records' : List (NoteRecord u)} (hperm : records.Perm records')
    (hnodup : (records.map NoteRecord.path).Nodup) (path : VaultPath u) :
    lastAt records path = lastAt records' path := by
  have hiff : ∀ {l : List (NoteRecord u)} (_ : (l.map NoteRecord.path).Nodup)
      (record : NoteRecord u), lastAt l path = some record ↔ record ∈ l ∧ record.path = path := by
    intro l hl record
    refine ⟨mem_of_lastAt, ?_⟩
    rintro ⟨hmem, rfl⟩
    obtain ⟨last, hlast⟩ := exists_lastAt hmem
    obtain ⟨hmem', hpath⟩ := mem_of_lastAt hlast
    rw [hlast, List.inj_on_of_nodup_map hl hmem' hmem hpath]
  refine Option.ext fun record => ?_
  rw [hiff hnodup, hiff ((hperm.map _).nodup_iff.mp hnodup), hperm.mem_iff]

/-! ## Runs -/

/-- The calls that change the index. -/
inductive IndexOp (u : Unicode) where
  | upsert (record : NoteRecord u)
  | remove (path : VaultPath u)
  | rebuild (records : List (NoteRecord u))

/-- The steps of a call. -/
def IndexOp.program : IndexOp u → Db Unit
  | .upsert record => Index.upsert record
  | .remove path => Index.remove path
  | .rebuild records => Index.rebuild records

/-- What an operation does to a catalog: the catalog after it, or why it is refused. -/
inductive Outcome (c : Catalog u) : IndexOp u → Except IndexError (Catalog u) → Prop where
  | added {record : NoteRecord u} (hvalid : record.validate = .ok ()) (hfree : c.Free record.path) :
      Outcome c (.upsert record) (.ok (c.add record hvalid hfree))
  | invalid {record : NoteRecord u} {e : IndexError} (h : record.validate = .error e) :
      Outcome c (.upsert record) (.error e)
  | collides {record other : NoteRecord u} {path : VaultPath u} (hvalid : record.validate = .ok ())
      (hother : c.note path = some other) (hkey : collisionKey path = collisionKey record.path)
      (hne : path ≠ record.path) :
      Outcome c (.upsert record) (.error (.portablePathCollision path.asStr record.path.asStr))
  | removed {path : VaultPath u} : Outcome c (.remove path) (.ok (c.remove path))
  | rebuilt {records : List (NoteRecord u)} (h : Loadable records) :
      Outcome c (.rebuild records) (.ok (Catalog.ofRecords records h))
  | unloadable {records : List (NoteRecord u)} {e : IndexError} (h : FailsWith records e) :
      Outcome c (.rebuild records) (.error e)

/-- An operation has one outcome. -/
theorem Outcome.unique {c : Catalog u} {op : IndexOp u} {x y : Except IndexError (Catalog u)}
    (hx : Outcome c op x) (hy : Outcome c op y) : x = y := by
  cases hx with
  | added hvalid hfree =>
      cases hy with
      | added => rfl
      | invalid h => cases hvalid.symm.trans h
      | collides _ hother hkey hne => exact absurd (hfree _ _ hother hkey) hne
  | invalid h =>
      cases hy with
      | added hvalid => cases hvalid.symm.trans h
      | invalid h' =>
          cases h.symm.trans h'
          rfl
      | collides hvalid => cases hvalid.symm.trans h
  | collides hvalid hother hkey hne =>
      cases hy with
      | added _ hfree => exact absurd (hfree _ _ hother hkey) hne
      | invalid h => cases hvalid.symm.trans h
      | collides _ hother' hkey' => rw [c.apart hother hother' (hkey.trans hkey'.symm)]
  | removed =>
      cases hy
      rfl
  | rebuilt h =>
      cases hy with
      | rebuilt => rfl
      | unloadable h' => exact absurd h h'.not_loadable
  | unloadable h =>
      cases hy with
      | rebuilt h' => exact absurd h' h.not_loadable
      | unloadable h' => rw [h.unique h']

/-- Every operation has its outcome, and one that is refused writes nothing. -/
theorem represents_step {notes : Notes} {c : Catalog u} (h : Represents notes c) (op : IndexOp u) :
    (∃ c' notes', Outcome c op (.ok c') ∧ exec op.program notes = (.ok (), notes') ∧
      Represents notes' c') ∨
    ∃ e, Outcome c op (.error e) ∧ exec op.program notes = (.error e, notes) := by
  cases op with
  | upsert record =>
      show (∃ c' notes', _ ∧ exec (Program.transaction (insertRecord record)) notes = _ ∧ _) ∨
        ∃ e, _ ∧ exec (Program.transaction (insertRecord record)) notes = _
      rw [exec_transaction]
      rcases insertRecord_cases record notes with ⟨e, hinvalid, hrun⟩ |
        ⟨hvalid, existing, hfind, hrun⟩ | ⟨hvalid, hfind, notes', hput, hrun⟩
      · rw [hrun]
        exact Or.inr ⟨e, .invalid hinvalid, rfl⟩
      · rw [hrun]
        obtain ⟨hne, row, hrow, hkey, rfl⟩ := Notes.findCollision_eq_some.mp hfind
        obtain ⟨path, other, hother, rfl⟩ := (h row).mp hrow
        obtain rfl := c.path_eq hother
        exact Or.inr ⟨_, .collides hvalid hother hkey fun hpath => hne (congrArg asStr hpath), rfl⟩
      · rw [hrun]
        have hfree := h.findCollision_eq_none.mp hfind
        exact Or.inl ⟨_, notes', .added hvalid hfree, rfl, h.put hvalid hfree hput⟩
  | remove path =>
      exact Or.inl ⟨_, notes.delete path.asStr, .removed, rfl, h.delete path⟩
  | rebuild records =>
      rcases rebuild_cases records notes with ⟨hload, notes', hrun, hrep⟩ | ⟨e, hfails, hrun⟩
      · exact Or.inl ⟨_, notes', .rebuilt hload, hrun, hrep⟩
      · exact Or.inr ⟨e, .unloadable hfails, hrun⟩

/-- The table after an operation. -/
def after (notes : Notes) (op : IndexOp u) : Notes := (exec op.program notes).2

/-- The results of the operations, in order. -/
def answers : Notes → List (IndexOp u) → List (Except IndexError Unit)
  | _, [] => []
  | notes, op :: ops => (exec op.program notes).1 :: answers (after notes op) ops

/-- The catalog that the operations leave, with the answers they give. -/
inductive History : Catalog u → List (IndexOp u) → List (Except IndexError Unit) → Catalog u → Prop
  | nil {c : Catalog u} : History c [] [] c
  | accepted {c c' last : Catalog u} {op : IndexOp u} {ops : List (IndexOp u)}
      {rest : List (Except IndexError Unit)} (h : Outcome c op (.ok c'))
      (hrest : History c' ops rest last) : History c (op :: ops) (.ok () :: rest) last
  | refused {c last : Catalog u} {e : IndexError} {op : IndexOp u} {ops : List (IndexOp u)}
      {rest : List (Except IndexError Unit)} (h : Outcome c op (.error e))
      (hrest : History c ops rest last) : History c (op :: ops) (.error e :: rest) last

/-- The operations determine the answers and the catalog. -/
theorem History.unique {c last last' : Catalog u} {ops : List (IndexOp u)}
    {results results' : List (Except IndexError Unit)} (h : History c ops results last)
    (h' : History c ops results' last') : results = results' ∧ last = last' := by
  induction h generalizing results' with
  | nil =>
      cases h'
      exact ⟨rfl, rfl⟩
  | accepted hop _ ih =>
      cases h' with
      | accepted hop' hrest' =>
          cases hop.unique hop'
          obtain ⟨rfl, rfl⟩ := ih hrest'
          exact ⟨rfl, rfl⟩
      | refused hop' => cases hop.unique hop'
  | refused hop _ ih =>
      cases h' with
      | accepted hop' => cases hop.unique hop'
      | refused hop' hrest' =>
          cases hop.unique hop'
          obtain ⟨rfl, rfl⟩ := ih hrest'
          exact ⟨rfl, rfl⟩

/-- A run keeps the table a catalog, the one of its history. -/
theorem represents_run {notes : Notes} {c : Catalog u} (h : Represents notes c)
    (ops : List (IndexOp u)) :
    ∃ last, History c ops (answers notes ops) last ∧
      Represents (Runs.run after notes ops) last := by
  induction ops generalizing notes c with
  | nil => exact ⟨c, .nil, h⟩
  | cons op ops ih =>
      rw [answers, Runs.run_cons, after]
      rcases represents_step h op with ⟨c', notes', hop, hrun, hrep⟩ | ⟨e, hop, hrun⟩
      · rw [hrun]
        obtain ⟨last, hhistory, hlast⟩ := ih hrep
        exact ⟨last, .accepted hop hhistory, hlast⟩
      · rw [hrun]
        obtain ⟨last, hhistory, hlast⟩ := ih h
        exact ⟨last, .refused hop hhistory, hlast⟩

theorem Represents.count {notes : Notes} {c : Catalog u} (h : Represents notes c) :
    notes.count = Set.ncard {path | ∃ record, c.note path = some record} := by
  have himage : asStr '' {path | ∃ record, c.note path = some record} =
      ((notes.table.rows.map NoteRow.path).toFinset : Set Text) := by
    ext text
    rw [Finset.mem_coe, List.mem_toFinset, List.mem_map]
    constructor
    · rintro ⟨path, ⟨record, hrecord⟩, rfl⟩
      exact ⟨record.row, (h _).mpr ⟨path, record, hrecord, rfl⟩, congrArg asStr (c.path_eq hrecord)⟩
    · rintro ⟨row, hrow, rfl⟩
      obtain ⟨path, record, hrecord, rfl⟩ := (h row).mp hrow
      exact ⟨path, ⟨record, hrecord⟩, (congrArg asStr (c.path_eq hrecord)).symm⟩
  calc notes.count = (notes.table.rows.map NoteRow.path).length := (List.length_map _).symm
    _ = (notes.table.rows.map NoteRow.path).toFinset.card :=
        (List.toFinset_card_of_nodup notes.table.nodup_keys).symm
    _ = Set.ncard (asStr '' {path | ∃ record, c.note path = some record}) := by
        rw [himage, Set.ncard_coe_finset]
    _ = Set.ncard {path | ∃ record, c.note path = some record} :=
        Set.ncard_image_of_injective _ asStr_injective

/-- After any operations on a new database, `get` and `count` read the one catalog that the
operations leave, and every answer was the one the catalog of its time has for it. -/
theorem index_run (ops : List (IndexOp u)) : ∃ last : Catalog u,
    History Catalog.empty ops (answers Notes.empty ops) last ∧
    (∀ path, (Runs.run after Notes.empty ops).get path = .ok (last.note path)) ∧
    (Runs.run after Notes.empty ops).count =
      Set.ncard {path | ∃ record, last.note path = some record} := by
  obtain ⟨last, hhistory, hrep⟩ := represents_run Represents.empty ops
  exact ⟨last, hhistory, hrep.get, hrep.count⟩

theorem Loadable.perm {records records' : List (NoteRecord u)} (h : Loadable records)
    (hperm : records.Perm records') : Loadable records' :=
  ⟨fun record hrecord => h.valid record (hperm.mem_iff.mpr hrecord), fun a ha b hb =>
    h.apart a (hperm.mem_iff.mpr ha) b (hperm.mem_iff.mpr hb)⟩

/-- Records with different paths give one index in any order. -/
theorem rebuild_perm {records records' : List (NoteRecord u)} (hperm : records.Perm records')
    (hnodup : (records.map NoteRecord.path).Nodup) (notes : Notes) (path : VaultPath u) :
    (exec (rebuild records') notes).2.get path = (exec (rebuild records) notes).2.get path := by
  rcases rebuild_cases records notes with ⟨hload, _, hrun, hrep⟩ | ⟨_, hfails, hrun⟩ <;>
    rcases rebuild_cases records' notes with ⟨hload', _, hrun', hrep'⟩ | ⟨_, hfails', hrun'⟩ <;>
      rw [hrun, hrun']
  · rw [hrep.get, hrep'.get]
    exact congrArg Except.ok (lastAt_perm hperm hnodup path).symm
  · exact absurd (hload.perm hperm) hfails'.not_loadable
  · exact absurd (hload'.perm hperm.symm) hfails.not_loadable

/-- `rebuild` on any table: it goes through exactly if the records are loadable, and then it
leaves the last record of each path and nothing of the table before; else it names what is
wrong with the first record that cannot be loaded, and the table is untouched. -/
theorem rebuild_exact (records : List (NoteRecord u)) (notes : Notes) :
    ((exec (rebuild records) notes).1 = .ok () ↔ Loadable records) ∧
    (∀ e, (exec (rebuild records) notes).1 = .error e ↔ FailsWith records e) ∧
    (Loadable records →
      ∀ path, (exec (rebuild records) notes).2.get path = .ok (lastAt records path)) ∧
    (¬ Loadable records → (exec (rebuild records) notes).2 = notes) ∧
    ∀ records', records.Perm records' → (records.map NoteRecord.path).Nodup →
      ∀ path : VaultPath u, (exec (rebuild records') notes).2.get path =
        (exec (rebuild records) notes).2.get path := by
  have hperm := fun records' (h : records.Perm records') hnodup path =>
    rebuild_perm h hnodup notes path
  rcases rebuild_cases records notes with ⟨hload, notes', hrun, hrep⟩ | ⟨e, hfails, hrun⟩
  · rw [hrun] at hperm ⊢
    refine ⟨iff_of_true rfl hload, fun e => iff_of_false (fun h => by cases h) ?_, ?_, ?_, hperm⟩
    · exact fun hfails => hfails.not_loadable hload
    · exact fun _ => hrep.get
    · exact fun hnot => absurd hload hnot
  · rw [hrun] at hperm ⊢
    refine ⟨iff_of_false (fun h => by cases h) hfails.not_loadable, fun e' => ?_, ?_, fun _ => rfl,
      hperm⟩
    · constructor
      · intro h
        cases h
        exact hfails
      · intro hfails'
        rw [hfails.unique hfails']
    · exact fun hload => absurd hload hfails.not_loadable

end Index
end MyVault
