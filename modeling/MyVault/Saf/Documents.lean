import MyVault.Core.Path
import MyVault.Library.Program
import Mathlib.Data.List.Lex
import Mathlib.Data.List.Sort

/-!
# Documents of a provider

`VaultSafPlugin.kt`: `buildInventory` walks the folders of a provider and lists their
files, `resolveDocument` goes down again by the names of a path, `canonicalPortablePath`
and the Rust `is_valid_portable_path` say which paths may be asked for.

A provider is asked for the children of a document.  Two children of one folder may bear
the same name; that the documents form a tree is what the fields of a `Provider` say.
-/

namespace MyVault
namespace Saf

open Check

/-- `MAX_ENTRIES`. -/
def maxEntries : ℕ := 5000

/-- `MAX_DEPTH`. -/
def maxDepth : ℕ := 64

/-- What the walk throws. -/
inductive SafError where
  | limit
  | security
  | illegalArgument
  deriving DecidableEq, Repr

/-- `Document.MIME_TYPE_DIR`. -/
def mimeTypeDir : String := "vnd.android.document/directory"

/-- A row of the query for the children of a document. -/
structure Child where
  documentId : String
  name : Text
  mime : String
  size : ℤ
  sizeKnown : Bool
  deriving DecidableEq, Repr

/-- The child is a folder. -/
def Child.isDir (child : Child) : Bool := child.mime == mimeTypeDir

/-- A tree of documents; a query that fails gives nothing. -/
structure Provider where
  treeDocumentId : String
  queryChildren : String → Option (List Child)
  nodup_children : ∀ parentId children, queryChildren parentId = some children →
    (children.map Child.documentId).Nodup
  parent_unique : ∀ parentId parentId' children children', queryChildren parentId = some children →
    queryChildren parentId' = some children' → ∀ child ∈ children, ∀ child' ∈ children',
      child.documentId = child'.documentId → parentId = parentId'
  root_no_child : ∀ parentId children, queryChildren parentId = some children →
    ∀ child ∈ children, child.documentId ≠ treeDocumentId

/-! ## Names and paths -/

/-- The names of the two protected folders. -/
def isProtectedRootName (name : Text) : Bool :=
  name == ".trash".toList || name == ".obsidian".toList

/-- The names the walk goes on with. -/
def isPlainName (name : Text) : Bool :=
  !(name.isEmpty || name == ".".toList || name == "..".toList || name.contains '/' ||
    name.contains '\\' || name.contains '\x00')

/-- The path, if it is one that the plugin accepts. -/
def canonicalPortablePath (value : Text) : Except SafError Text :=
  if value = [] ∨ value.head? = some '/' ∨ '\\' ∈ value ∨ '\x00' ∈ value then
    .error .illegalArgument
  else
    let parts := splitSlash value
    if maxDepth < parts.length ∨
        (parts.any fun part =>
          part.isEmpty || part == ".".toList || part == "..".toList) = true then
      .error .illegalArgument
    else if parts.head?.any isProtectedRootName = true then .error .illegalArgument
    else .ok (joinSlash parts)

/-- The loop of `is_valid_portable_path` over the parts after the first one. -/
def validParts : ℕ → List Text → Bool
  | _, [] => true
  | depth, part :: rest =>
    if maxDepth < depth + 1 ∨ part = [] ∨ part = ".".toList ∨ part = "..".toList then false
    else validParts (depth + 1) rest

/-- The check of the bridge, before the plugin sees the path. -/
def isValidPortablePath (value : Text) : Bool :=
  if value = [] ∨ value.head? = some '/' ∨ '\\' ∈ value ∨ '\x00' ∈ value then false
  else
    match splitSlash value with
    | [] => false
    | first :: rest =>
      if first = ".trash".toList ∨ first = ".obsidian".toList then false
      else if first = [] ∨ first = ".".toList ∨ first = "..".toList then false
      else validParts 1 rest

/-! ## The inventory -/

/-- A folder that the walk has found and not yet listed. -/
structure PendingDirectory where
  documentId : String
  path : Text
  depth : ℕ
  deriving DecidableEq, Repr

/-- What the walk carries along; a file is listed under its path. -/
structure Scan where
  queue : List PendingDirectory
  entries : List (Text × Child)
  scanned : ℕ

/-- The path of a child. -/
def childPath (directory : PendingDirectory) (child : Child) : Text :=
  if directory.path = [] then child.name else directory.path ++ '/' :: child.name

/-- Whether the walk takes notice of a child. -/
def isListed (directory : PendingDirectory) (child : Child) : Bool :=
  isPlainName child.name && !(directory.path.isEmpty && isProtectedRootName child.name)

/-- One turn of the inner loop. -/
def visitChild (directory : PendingDirectory) (scan : Scan) (child : Child) :
    Except SafError Scan :=
  let scan := { scan with scanned := scan.scanned + 1 }
  if maxEntries < scan.scanned then .error .limit
  else if isListed directory child = false then .ok scan
  else if child.isDir = true then
    if maxDepth < directory.depth + 1 then .error .limit
    else
      let found := { documentId := child.documentId, path := childPath directory child
                     depth := directory.depth + 1 }
      .ok { scan with queue := scan.queue ++ [found] }
  else .ok { scan with entries := scan.entries ++ [(childPath directory child, child)] }

section Inventory

variable (provider : Provider)

/-- One turn of the outer loop, for the directory taken from the queue. -/
def visitDirectory (directory : PendingDirectory) (scan : Scan) : Except SafError Scan :=
  match provider.queryChildren directory.documentId with
  | none => .error .security
  | some children => children.foldlM (visitChild directory) scan

/-- The outer loop.  Every directory but the first one has been counted as a child, so
`maxEntries` and one more turn are enough (`walk_of_le`). -/
def walk : ℕ → Scan → Except SafError Scan
  | turns, scan =>
    match scan.queue with
    | [] => .ok scan
    | directory :: rest =>
      match turns with
      | 0 => .error .limit
      | turns + 1 => do
        let scan ← visitDirectory provider directory { scan with queue := rest }
        walk turns scan

/-- The folder the walk begins with. -/
def rootDirectory : PendingDirectory :=
  { documentId := provider.treeDocumentId, path := [], depth := 0 }

/-- What the inventory says of a file. -/
inductive EntryKind where
  | markdown
  | file
  deriving DecidableEq, Repr

/-- A file of the inventory. -/
structure InventoryEntry where
  path : Text
  kind : EntryKind
  byteLen : ℕ
  byteLenKnown : Bool
  deriving DecidableEq, Repr

/-- `endsWith(".md", true)`. -/
def endsWithMd (path : Text) : Bool :=
  ".md".toList.isSuffixOf (path.map Char.toLower)

/-- What is shown of a listed file. -/
def inventoryEntry (listed : Text × Child) : InventoryEntry :=
  { path := listed.1
    kind := if endsWithMd listed.1 = true then .markdown else .file
    byteLen := listed.2.size.toNat
    byteLenKnown := listed.2.sizeKnown }

/-- `comparePortablePathsUtf8`: unsigned bytes. -/
def bytesKey (path : Text) : List ℕ := (utf8Bytes path).map UInt8.toNat

/-- The files in the order of `buildInventory`, and the number of children seen. -/
def listFiles : Except SafError (List (Text × Child) × ℕ) := do
  let scan ← walk provider (maxEntries + 1)
    { queue := [rootDirectory provider], entries := [], scanned := 0 }
  .ok (scan.entries.insertionSort fun a b => bytesKey a.1 ≤ bytesKey b.1, scan.scanned)

/-- `buildInventory`: the files, and how many entries were looked at. -/
def buildInventory : Except SafError (List InventoryEntry × ℕ) := do
  let (files, scanned) ← listFiles provider
  .ok (files.map inventoryEntry, scanned)

/-! ## Resolution -/

/-- The loop of `resolveDocument`. -/
def resolveFrom (queryChildren : String → Option (List Child)) :
    String → Option Child → List Text → Except SafError (Option Child)
  | _, selected, [] => .ok selected
  | parentId, _, component :: rest =>
    match queryChildren parentId with
    | none => .error .security
    | some children =>
      match children.filter (·.name = component) with
      | [child] => resolveFrom queryChildren child.documentId (some child) rest
      | _ => .ok none

/-- `resolveDocument`: the document of a path, name by name. -/
def resolveDocument (path : Text) : Except SafError (Option Child) :=
  resolveFrom provider.queryChildren provider.treeDocumentId none (splitSlash path)

end Inventory

end Saf
end MyVault
