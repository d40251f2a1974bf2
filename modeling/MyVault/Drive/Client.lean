import MyVault.Drive.Files
import MyVault.Library.Table

/-!
# Scanning folders and resolving changes

`myvault-drive/src/client.rs`: `scan_folder_page` reads the children of a folder and puts
their names below the path of the folder, `resolve_change_below_root` climbs from a
changed file to the bound root and joins the names on the way.

The provider is a `Catalog`: its files by id, and how it cuts the children of a folder
into pages.
-/

namespace MyVault
namespace Drive

open Check

/-- A page of a folder. -/
structure FilePage where
  files : List RemoteFile
  nextPageToken : Option String
  incompleteSearch : Bool
  deriving DecidableEq, Repr

/-- The files of the provider, as `validate_file` admits them. -/
structure Catalog where
  files : Table RemoteFile.id
  valid : ∀ file ∈ files, validateFile file = .ok ()
  /-- The page of the children of a folder under a page token. -/
  page : String → Option String → FilePage
  page_sound : ∀ parentId pageToken, ∀ file ∈ (page parentId pageToken).files,
    file ∈ files ∧ file.trashed = false ∧ parentId ∈ file.parents

/-- A provider that answers with all children of a folder at once. -/
def Catalog.ofFiles (files : Table RemoteFile.id)
    (valid : ∀ file ∈ files, validateFile file = .ok ()) : Catalog where
  files := files
  valid := valid
  page parentId _ :=
    { files := files.rows.filter fun file => file.trashed = false ∧ parentId ∈ file.parents
      nextPageToken := none
      incompleteSearch := false }
  page_sound parentId _ file hfile := by
    rw [List.mem_filter, decide_eq_true_eq] at hfile
    exact hfile

/-- An entry of the list of changes. -/
structure Change where
  fileId : String
  removed : Bool
  file : Option RemoteFile

/-- What a change is to the bound root. -/
inductive ResolvedDriveChange where
  | inside (entry : Store.RemoteEntry)
  | outsideBoundRoot
  | removed (fileId : String)
  deriving DecidableEq, Repr

/-- The page of a folder that a scan asks for. -/
structure ScanRequest where
  folderId : String
  folderPath : Text
  pageToken : Option String

/-- How many folders above a change are looked at: `MAX_CHANGE_ANCESTRY_DEPTH`. -/
def maxChangeAncestryDepth : ℕ := 64

section Client

variable (u : Unicode) (catalog : Catalog)

/-- The metadata of a file, checked. -/
def fileMetadata (fileId : String) : Except ErrorCode RemoteFile := do
  validateIdentifier fileId
  let some file := catalog.files.lookup fileId | .error .notFound
  Check.reject (file.id ≠ fileId) .malformedResponse
  validateFile file
  pure file

/-- A file of the page of a folder is well formed and in that folder. -/
def checkChild (parentId : String) (file : RemoteFile) : Except ErrorCode Unit := do
  validateFile file
  let parentMatches :=
    if parentId = "root" then file.parents.length == 1 else file.parents.contains parentId
  Check.reject (parentMatches = false) .malformedResponse

/-- A page of a folder, complete and checked. -/
def listChildrenPage (parentId : String) (pageToken : Option String) :
    Except ErrorCode FilePage := do
  validateIdentifier parentId
  each validatePageToken pageToken.toList
  let page := catalog.page parentId pageToken
  Check.reject (page.incompleteSearch = true) .incompleteSearch
  each validatePageToken page.nextPageToken.toList
  each (checkChild parentId) page.files
  pure page

/-- The path of a child of a folder; the root has the empty path. -/
def childPath (folderPath name : Text) : Text :=
  if folderPath = [] then name else folderPath ++ '/' :: name

/-- The entries of a page of a scan. -/
def scanFolderPage (request : ScanRequest) : Except ErrorCode (List Store.RemoteEntry) := do
  let page ← listChildrenPage catalog request.folderId request.pageToken
  mapEach (fun file => file.toRemoteEntry u (childPath request.folderPath file.name.toList))
    page.files

/-- The loop of `resolve_change_below_root`, with so many hops left.  The names are those
of the file and of the folders so far, the uppermost first. -/
def climb (rootId : String) (file : RemoteFile) :
    ℕ → List Text → String → List String → Except ErrorCode ResolvedDriveChange
  | 0, _, _, _ => .error .cursorAmbiguous
  | hops + 1, names, parentId, visited =>
    if parentId = rootId then (file.toRemoteEntry u (joinSlash names)).map .inside
    else if parentId ∈ visited then .error .cursorAmbiguous
    else
      match fileMetadata catalog parentId with
      | .error .notFound => .error .cursorAmbiguous
      | .error e => .error e
      | .ok parent =>
        if parent.trashed = true ∨ parent.isFolder = false then .error .cursorAmbiguous
        else
          match parent.parents with
          | [next] =>
              climb rootId file hops (parent.name.toList :: names) next (parentId :: visited)
          | [] => .ok .outsideBoundRoot
          | _ => .error .cursorAmbiguous

/-- A change is removed, below the bound root, or outside of it. -/
def resolveChangeBelowRoot (rootId : String) (change : Change) :
    Except ErrorCode ResolvedDriveChange := do
  validateIdentifier rootId
  orElse (validateIdentifier change.fileId) ErrorCode.malformedResponse
  if change.removed = true ∨ change.file.any (·.trashed) = true then
    return .removed change.fileId
  let some file := change.file.filter (·.id = change.fileId) | .error .malformedResponse
  validateFile file
  if file.id = rootId then return .outsideBoundRoot
  Check.reject (file.isNativeDocument = true) .cursorAmbiguous
  match file.parents with
  | [parentId] =>
    climb u catalog rootId file maxChangeAncestryDepth [file.name.toList] parentId [file.id]
  | _ => .error .cursorAmbiguous

end Client

end Drive
end MyVault
