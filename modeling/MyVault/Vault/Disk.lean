import MyVault.Library.Program
import MyVault.Vault.Errors

/-!
# Steps on a disk that may fail

What the operations of the vault ask of the file system, one step at a time.  Every step
looks at the clock; a `Faults` says which steps fail and how, so it stands for every
choice of the steps that fail.  A step that fails has done nothing.

A handle of an open directory is its location: nothing here removes a directory, and the
only operation that moves one does so last.
-/

namespace MyVault
namespace Vault

open Program

/-- The files below the root, and the inodes that also have a name outside the vault. -/
structure Disk where
  tree : FileTree
  outside : List ℕ

namespace Disk

/-- The file a name stands for. -/
def inodeOf (row : Location × Node) : Option ℕ :=
  match row.2 with
  | .file inode _ => some inode
  | _ => none

/-- The inodes of all names. -/
def inodes (d : Disk) : List ℕ := d.tree.entries.rows.filterMap inodeOf ++ d.outside

/-- `nlink()`. -/
def nlink (d : Disk) (inode : ℕ) : ℕ := d.inodes.count inode

/-- The inode of the next file. -/
def freshInode (d : Disk) : ℕ := d.inodes.foldr max 0 + 1

/-- The bytes of the file at a path. -/
def bytesAt (d : Disk) (path : Location) : Option (List UInt8) :=
  match d.tree.nodeAt path with
  | some (.file _ bytes) => some bytes
  | _ => none

/-- The disk with another tree, if there is one. -/
def withTree (d : Disk) (tree : Except IoKind FileTree) : Except IoKind Disk :=
  tree.map fun t => { d with tree := t }

/-- `create_new(true)`. -/
def createFile (d : Disk) (path : Location) : Except IoKind Disk :=
  if d.tree.nodeAt path ≠ none then .error .alreadyExists
  else d.withTree (d.tree.put path (.file d.freshInode []))

/-- One more byte through the handle of a new file, which has one name. -/
def appendByte (d : Disk) (path : Location) (byte : UInt8) : Except IoKind Disk :=
  match d.tree.nodeAt path with
  | some (.file inode bytes) => d.withTree (d.tree.put path (.file inode (bytes ++ [byte])))
  | _ => .error .notFound

/-- `mkdir`. -/
def createDir (d : Disk) (path : Location) : Except IoKind Disk :=
  if d.tree.nodeAt path ≠ none then .error .alreadyExists
  else d.withTree (d.tree.put path .dir)

/-- `link`. -/
def hardLink (d : Disk) (source destination : Location) : Except IoKind Disk :=
  if d.tree.nodeAt destination ≠ none then .error .alreadyExists
  else
    match d.tree.nodeAt source with
    | some (.file inode bytes) => d.withTree (d.tree.put destination (.file inode bytes))
    | _ => .error .notFound

/-- `rename(2)` of a file: a file at the destination is replaced, and two names of one file
stay as they are. -/
def rename (d : Disk) (source destination : Location) : Except IoKind Disk :=
  match d.tree.nodeAt source with
  | some (.file inode bytes) =>
      match d.tree.nodeAt destination with
      | some .dir => .error .isADirectory
      | found =>
          if (found.bind fun node => inodeOf (destination, node)) = some inode then .ok d
          else do
            let tree ← d.tree.erase source
            d.withTree (tree.put destination (.file inode bytes))
  | _ => .error .notFound

/-- `renameat` with `NOREPLACE`. -/
def renameNoReplace (d : Disk) (source destination : Location) : Except IoKind Disk :=
  d.withTree (d.tree.relocate source destination)

/-- `unlink`. -/
def removeFile (d : Disk) (path : Location) : Except IoKind Disk := d.withTree (d.tree.erase path)

theorem withTree_eq_ok {d d' : Disk} {tree : Except IoKind FileTree}
    (h : d.withTree tree = .ok d') : tree = .ok d'.tree := by
  cases tree with
  | error e => exact nomatch h
  | ok t =>
      cases h
      rfl

/-- The bytes at a path follow from what stands there. -/
theorem bytesAt_congr {d d' : Disk} {path path' : Location}
    (h : d.tree.nodeAt path = d'.tree.nodeAt path') : d.bytesAt path = d'.bytesAt path' := by
  rw [bytesAt, bytesAt, h]

theorem nodeAt_createFile {d d' : Disk} {path : Location} (h : d.createFile path = .ok d') :
    d.tree.nodeAt path = none ∧ ∀ location, d'.tree.nodeAt location =
      if location = path then some (.file d.freshInode []) else d.tree.nodeAt location := by
  rw [createFile] at h
  split at h
  · exact nomatch h
  · rename_i hfree
    exact ⟨Decidable.not_not.mp hfree, FileTree.nodeAt_put (withTree_eq_ok h)⟩

theorem nodeAt_appendByte {d d' : Disk} {path : Location} {byte : UInt8}
    (h : d.appendByte path byte = .ok d') :
    ∃ inode bytes, d.tree.nodeAt path = some (.file inode bytes) ∧
      ∀ location, d'.tree.nodeAt location =
        if location = path then some (.file inode (bytes ++ [byte]))
        else d.tree.nodeAt location := by
  rw [appendByte] at h
  split at h
  · rename_i inode bytes hfile
    exact ⟨inode, bytes, hfile, FileTree.nodeAt_put (withTree_eq_ok h)⟩
  · exact nomatch h

theorem nodeAt_createDir {d d' : Disk} {path : Location} (h : d.createDir path = .ok d') :
    d.tree.nodeAt path = none ∧ ∀ location, d'.tree.nodeAt location =
      if location = path then some .dir else d.tree.nodeAt location := by
  rw [createDir] at h
  split at h
  · exact nomatch h
  · rename_i hfree
    exact ⟨Decidable.not_not.mp hfree, FileTree.nodeAt_put (withTree_eq_ok h)⟩

theorem nodeAt_hardLink {d d' : Disk} {source destination : Location}
    (h : d.hardLink source destination = .ok d') :
    d.tree.nodeAt destination = none ∧ ∃ inode bytes,
      d.tree.nodeAt source = some (.file inode bytes) ∧ ∀ location, d'.tree.nodeAt location =
        if location = destination then some (.file inode bytes)
        else d.tree.nodeAt location := by
  rw [hardLink] at h
  split at h
  · exact nomatch h
  · rename_i hfree
    split at h
    · rename_i inode bytes hfile
      exact ⟨Decidable.not_not.mp hfree, inode, bytes, hfile,
        FileTree.nodeAt_put (withTree_eq_ok h)⟩
    · exact nomatch h

/-- A rename that is not one of two names of one file. -/
theorem nodeAt_rename {d d' : Disk} {source destination : Location}
    (h : d.rename source destination = .ok d') :
    ∃ inode bytes, d.tree.nodeAt source = some (.file inode bytes) ∧
      d.tree.nodeAt destination ≠ some .dir ∧
      (d' = d ∧ (∃ bytes', d.tree.nodeAt destination = some (.file inode bytes')) ∨
        ∀ location, d'.tree.nodeAt location =
          if location = destination then some (.file inode bytes)
          else if location = source then none else d.tree.nodeAt location) := by
  rw [rename] at h
  split at h
  · rename_i inode bytes hfile
    refine ⟨inode, bytes, hfile, ?_⟩
    split at h
    · exact nomatch h
    · rename_i hdir
      refine ⟨fun hsome => hdir hsome, ?_⟩
      split at h
      · rename_i hsame
        obtain ⟨node, hnode, hinode⟩ := Option.bind_eq_some_iff.mp hsame
        cases node with
        | file inode' bytes' =>
            cases hinode
            cases h
            exact Or.inl ⟨rfl, bytes', hnode⟩
        | dir => exact nomatch hinode
        | symlink => exact nomatch hinode
        | special => exact nomatch hinode
      · obtain ⟨tree, herase, hput⟩ := Check.bind_eq_ok.mp h
        refine Or.inr fun location => ?_
        rw [FileTree.nodeAt_put (withTree_eq_ok hput), FileTree.nodeAt_erase herase]
  · exact nomatch h

theorem nodeAt_renameNoReplace {d d' : Disk} {source destination : Location}
    (h : d.renameNoReplace source destination = .ok d') (location : Location) :
    d'.tree.nodeAt location =
      if destination <+: location then
        d.tree.nodeAt (source ++ location.drop destination.length)
      else if source <+: location then none else d.tree.nodeAt location :=
  FileTree.nodeAt_relocate (withTree_eq_ok h) location

theorem ends_of_renameNoReplace {d d' : Disk} {source destination : Location}
    (h : d.renameNoReplace source destination = .ok d') :
    d.tree.nodeAt source ≠ none ∧ d.tree.nodeAt destination = none :=
  FileTree.ends_of_relocate (withTree_eq_ok h)

theorem nodeAt_removeFile {d d' : Disk} {path : Location} (h : d.removeFile path = .ok d')
    (location : Location) :
    d'.tree.nodeAt location = if location = path then none else d.tree.nodeAt location :=
  FileTree.nodeAt_erase (withTree_eq_ok h) location

theorem ne_none_of_removeFile {d d' : Disk} {path : Location} (h : d.removeFile path = .ok d') :
    d.tree.nodeAt path ≠ none := by
  intro hnone
  have herase : d.tree.erase path = .error .notFound := by
    rw [FileTree.erase, dif_neg (by rw [hnone]; rintro ⟨⟩), if_pos hnone]
  rw [removeFile, herase] at h
  cases h

end Disk

/-! ## Steps -/

/-- The disk, and how far the call is. -/
structure World where
  disk : Disk
  /-- The steps that were tried. -/
  clock : ℕ
  /-- `NEXT_TEMP_ID`. -/
  nextTempId : ℕ

/-- Which steps fail, and why. -/
abbrev Faults := ℕ → Option IoKind

/-- Steps on the disk. -/
abbrev IoProgram (α : Type) := Program World IoKind α

/-- Steps of the vault, with its errors. -/
abbrev VaultProgram (α : Type) := Program World CoreError α

/-- The `?` on a result of the file system. -/
def io {α : Type} (p : IoProgram α) : VaultProgram α := mapError CoreError.io p

section Steps

variable (faults : Faults)

/-- The next step is tried. -/
def tick : IoProgram Unit := do
  let now ← read World.clock
  write fun w => { w with clock := w.clock + 1 }
  match faults now with
  | some kind => throw kind
  | none => pure ()

/-- A step that looks at the disk. -/
def look {α : Type} (f : Disk → Except IoKind α) : IoProgram α := do
  tick faults
  let disk ← read World.disk
  lift (f disk)

/-- A step that changes the disk. -/
def change (f : Disk → Except IoKind Disk) : IoProgram Unit := do
  tick faults
  let disk ← read World.disk
  let disk' ← lift (f disk)
  write fun w => { w with disk := disk' }

/-- What the entry is, without following it. -/
def symlinkMetadata (path : Location) : IoProgram Node :=
  look faults fun d => (d.tree.nodeAt path).elim (.error .notFound) .ok

/-- `read_dir` and its entries, each a step. -/
def eachEntry (f : FileName → VaultProgram Unit) : List FileName → VaultProgram Unit
  | [] => pure ()
  | name :: rest => do
    io (tick faults)
    f name
    eachEntry f rest

/-- The names of a folder. -/
def readDir (path : Location) : IoProgram (List FileName) :=
  look faults fun d => .ok ((d.tree.children path).map Prod.fst)

/-- Opens what is no symbolic link. -/
def openNoFollow (path : Location) : IoProgram Node :=
  look faults fun d =>
    match d.tree.nodeAt path with
    | some .symlink => .error .other
    | some node => .ok node
    | none => .error .notFound

/-- `metadata()` of an open file: whether it is a regular file, its length and its links. -/
def metadata (path : Location) : IoProgram (Option (ℕ × ℕ)) :=
  look faults fun d =>
    match d.tree.nodeAt path with
    | some (.file inode bytes) => .ok (some (bytes.length, d.nlink inode))
    | _ => .ok none

/-- The bytes of an open file. -/
def readFile (path : Location) : IoProgram (List UInt8) :=
  look faults fun d => (d.bytesAt path).elim (.error .other) .ok

/-- `write_all`: the bytes that come before a failure are written. -/
def writeAll (path : Location) : List UInt8 → IoProgram Unit
  | [] => pure ()
  | byte :: rest => do
    change faults (·.appendByte path byte)
    writeAll path rest

/-- `try_clone` and `sync_all` of a directory. -/
def syncDirectory : IoProgram Unit := do
  tick faults
  tick faults

/-- `directory_identity`. -/
def directoryIdentity (path : Location) : IoProgram Location := do
  tick faults
  pure path

end Steps

end Vault
end MyVault
