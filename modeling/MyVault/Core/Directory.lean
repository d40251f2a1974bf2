import MyVault.Library.Table
import MyVault.Library.Program

/-!
# Directories

A directory is a table of entries whose key is the name, so a name stands for one
entry at most.  The names are those of the file system: a name that is not UTF-8 is
an entry like any other, which no `&str` finds.

What a directory holds is given by the depth one can look into it: an `Entry α` is a
file, a directory of `α`s, or something that is neither or that its owner does not
accept (a symbolic link, wrong permissions).  `Dir (Entry Unit)` is a directory whose
subdirectories are not looked into, `Dir (Entry (Entry Unit))` one in which they are,
and so on.
-/

namespace MyVault

/-- The name of a directory entry. -/
inductive FileName where
  | utf8 (name : String)
  /-- A name that is not UTF-8. -/
  | raw (code : ℕ)
  deriving DecidableEq, Repr

/-- `file_name().to_str()`. -/
def FileName.toStr : FileName → Option String
  | utf8 name => some name
  | raw _ => none

/-- The entries of a directory. -/
abbrev Dir (α : Type) := Table (Prod.fst : FileName × α → FileName)

/-- What a name of a directory stands for. -/
inductive Entry (α : Type) where
  | file (bytes : List UInt8)
  | dir (entries : Dir α)
  | other

namespace Dir

variable {α : Type}

/-- What a name stands for, if it stands for something. -/
def get (d : Dir α) (name : String) : Option α := (d.lookup (.utf8 name)).map Prod.snd

/-- `entries()`: the names, in the order the directory gives them. -/
def names (d : Dir α) : List FileName := d.rows.map Prod.fst

theorem get_eq_some_iff {d : Dir α} {name : String} {a : α} :
    d.get name = some a ↔ (FileName.utf8 name, a) ∈ d := by
  rw [get, Option.map_eq_some_iff]
  constructor
  · rintro ⟨⟨n, b⟩, h, rfl⟩
    obtain ⟨hmem, rfl⟩ := Table.lookup_eq_some_iff.mp h
    exact hmem
  · exact fun h => ⟨_, Table.lookup_eq_some_iff.mpr ⟨h, rfl⟩, rfl⟩

end Dir
end MyVault
