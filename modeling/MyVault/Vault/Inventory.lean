import MyVault.Core.Path
import MyVault.Store.Validation
import MyVault.Vault.Errors
import Mathlib.Data.List.Lex
import Mathlib.Data.List.Sort

/-!
# The inventory of a vault and the preflight of a path

`myvault-core/src/vault.rs`: `Vault::inventory` walks the directories and lists the
regular files, `open_parent_checked` with `reject_sibling_collision` is what every later
operation on a path begins with.

The walk goes down at most `max_depth` levels, so the number of levels left is what it
recurses on.
-/

namespace MyVault
namespace Vault

open Check VaultPath

/-! ## Classes of paths -/

/-- The content of a vault and its two protected folders. -/
inductive VaultPathClass where
  | content
  | obsidianMetadata
  | trash
  deriving DecidableEq, Repr

/-- Which of them a folder below the root is, under any spelling. -/
def classifyComponent (u : Unicode) (component : Text) : VaultPathClass :=
  let key := componentCollisionKey u component
  if key = ".obsidian".toList then .obsidianMetadata
  else if key = ".trash".toList then .trash
  else .content

/-- The location of a list of names. -/
def locationOf (components : List Text) : Location :=
  components.map fun c => .utf8 (String.ofList c)

/-! ## The inventory -/

/-- How deep and how many. -/
structure InventoryLimits where
  maxDepth : ℕ
  maxEntries : ℕ

/-- What the inventory says of a file. -/
inductive InventoryKind where
  | markdown
  | file
  deriving DecidableEq, Repr

/-- A file of the inventory. -/
structure InventoryEntry (u : Unicode) where
  path : VaultPath u
  kind : InventoryKind
  size : ℕ

/-- What the walk carries along. -/
structure Walk (u : Unicode) where
  visited : ℕ
  output : List (InventoryEntry u)

/-- The order of names: their bytes. -/
def bytesKey (name : Text) : List ℕ := (utf8Bytes name).map UInt8.toNat

section Inventory

variable (u : Unicode) (tree : FileTree) (limits : InventoryLimits)

/-- The error for too many entries. -/
def entriesExceeded : CoreError := .resourceLimitExceeded "inventory entries" limits.maxEntries

/-- The first loop of `inventory_dir`: the names of the directory. -/
def collectEntries (atRoot : Bool) (remaining : ℕ) :
    List (FileName × Node) → List (Text × Node) → Except CoreError (List (Text × Node))
  | [], entries =>
      if remaining < entries.length then .error (entriesExceeded limits) else .ok entries
  | (name, node) :: rest, entries =>
      match name.toStr with
      | none => .error .invalidRelativePath
      | some text =>
          if atRoot = true ∧ classifyComponent u text.toList ≠ .content then
            collectEntries atRoot remaining rest entries
          else if remaining < entries.length then .error (entriesExceeded limits)
          else collectEntries atRoot remaining rest (entries ++ [(text.toList, node)])

/-- The kind of a file, by its name. -/
def inventoryKind (name : Text) : InventoryKind :=
  if (fileExtension name).any fun e =>
      e.map Char.toLower == "md".toList || e.map Char.toLower == "markdown".toList then
    .markdown
  else .file

/-- One turn of the second loop; `descend` goes into a directory. -/
def visitEntry (descend : List Text → Walk u → Except CoreError (Walk u)) (above : List Text)
    (walk : Walk u) (entry : Text × Node) : Except CoreError (Walk u) :=
  let visited := walk.visited + 1
  if limits.maxEntries < visited then .error (entriesExceeded limits)
  else
    let components := above ++ [entry.1]
    match fromPortable u (joinSlash components) with
    | none => .error .invalidRelativePath
    | some path =>
        match entry.2 with
        | .symlink => .error .symlinkRejected
        | .dir => descend components { walk with visited := visited }
        | .file _ bytes =>
            let listed := { path := path, kind := inventoryKind entry.1, size := bytes.length }
            .ok { visited := visited, output := walk.output ++ [listed] }
        | .special => .ok { walk with visited := visited }

/-- `inventory_dir`, once it is known how to go into the directories below. -/
def walkDir (descend : List Text → Walk u → Except CoreError (Walk u)) (above : List Text)
    (walk : Walk u) : Except CoreError (Walk u) := do
  let entries ← collectEntries u limits above.isEmpty (limits.maxEntries - walk.visited)
    (tree.children (locationOf above)) []
  let entries := entries.insertionSort fun a b => bytesKey a.1 ≤ bytesKey b.1
  entries.foldlM (visitEntry u limits descend above) walk

/-- Into a directory, with so many levels left. -/
def inventoryDir : ℕ → List Text → Walk u → Except CoreError (Walk u)
  | 0, _, _ => .error (.resourceLimitExceeded "inventory depth" limits.maxDepth)
  | levels + 1, above, walk => walkDir u tree limits (inventoryDir levels) above walk

/-- The loop over the collision keys. -/
def checkKeys : List (InventoryEntry u) → List (Text × Text) → Except CoreError Unit
  | [], _ => .ok ()
  | entry :: rest, seen =>
      let key := Store.collisionKey entry.path
      match seen.find? (·.1 = key) with
      | some existing => .error (.portablePathCollision existing.2 entry.path.asStr)
      | none => checkKeys rest ((key, entry.path.asStr) :: seen)

/-- `Vault::inventory`. -/
def inventory : Except CoreError (List (InventoryEntry u)) := do
  let walk ← walkDir u tree limits (inventoryDir u tree limits limits.maxDepth) []
    { visited := 0, output := [] }
  let output := walk.output.insertionSort fun a b => bytesKey a.path.asStr ≤ bytesKey b.path.asStr
  checkKeys u output []
  .ok output

end Inventory

/-! ## The preflight -/

section Preflight

variable (u : Unicode) (tree : FileTree)

/-- The folder has no other spelling of the name. -/
def rejectSiblingCollision (parent : Location) (desired incoming : Text) :
    Except CoreError Unit :=
  each (fun entry : FileName × Node =>
    match entry.1.toStr with
    | none => .error .invalidRelativePath
    | some existing =>
        reject (existing.toList ≠ desired ∧
          componentCollisionKey u existing.toList = componentCollisionKey u desired)
          (.portablePathCollision existing.toList incoming)) (tree.children parent)

/-- `open_child_dir_nofollow`. -/
def openChildDir (path : Location) : Except CoreError Unit :=
  match tree.nodeAt path with
  | some .dir => .ok ()
  | some .symlink => .error .symlinkRejected
  | some _ => .error .invalidRelativePath
  | none => .error (.io .notFound)

/-- The loop of `open_parent_checked` over the folders. -/
def openFolders (incoming : Text) : Location → List Text → Except CoreError Location
  | current, [] => .ok current
  | current, component :: rest => do
    rejectSiblingCollision u tree current component incoming
    let child := current ++ [.utf8 (String.ofList component)]
    openChildDir tree child
    openFolders incoming child rest

/-- `open_parent_checked`: the parent of a path and the name in it. -/
def openParentChecked (path : VaultPath u) : Except CoreError (Location × Text) := do
  let parent ← openFolders u tree path.asStr [] path.components.dropLast
  match path.components.getLast? with
  | none => .error .invalidRelativePath
  | some name => .ok (parent, name)

/-- What an operation on a path begins with: the collision checks on the way to its parent
and the one in it. -/
def preflight (path : VaultPath u) : Except CoreError Unit := do
  let (parent, name) ← openParentChecked u tree path
  rejectSiblingCollision u tree parent name path.asStr

end Preflight

end Vault
end MyVault
