import MyVault.Store.Validation

/-!
# File metadata of the provider

`myvault-drive/src/model.rs` and the checks of `client.rs` on what the provider reports.
An error of the adapter is its code; the hint when to try again is left out.
-/

namespace MyVault
namespace Drive

open Check

/-- The codes of the errors of the client. -/
inductive ErrorCode where
  | invalidInput
  | transport
  | timeout
  | redirectRejected
  | responseTooLarge
  | malformedResponse
  | unauthorized
  | forbidden
  | notFound
  | cursorExpired
  | cursorAmbiguous
  | incompleteSearch
  | rateLimited
  | transientProvider
  | providerRejected
  | invalidAccount
  | invalidRoot
  | unexpectedOrigin
  | hashMismatch
  | revisionMismatch
  | sessionExpired
  | rangeRejected
  | existingDifferentContent
  | ambiguousRemote
  | localIo
  deriving DecidableEq, Repr

/-- The MIME type by which Drive marks a folder. -/
def folderMimeType : String := "application/vnd.google-apps.folder"

/-- The metadata of a file, as the provider sends it. -/
structure RemoteFile where
  id : String
  name : String
  mimeType : String
  parents : List String
  trashed : Bool
  version : Option String
  md5Checksum : Option String
  sha1Checksum : Option String
  sha256Checksum : Option String
  deriving DecidableEq, Repr

/-- The file is a folder. -/
def RemoteFile.isFolder (file : RemoteFile) : Bool := file.mimeType == folderMimeType

/-- A document that has no bytes of its own. -/
def RemoteFile.isNativeDocument (file : RemoteFile) : Bool :=
  "application/vnd.google-apps.".toList.isPrefixOf file.mimeType.toList && !file.isFolder

/-! ## Checks -/

/-- A character of an id. -/
def isIdentifierChar (c : Char) : Bool := c.isAlphanum || c == '-' || c == '_'

/-- Ids have 1 to 256 bytes, all of them letters, digits, hyphens or underscores. -/
def validateIdentifier (value : String) : Except ErrorCode Unit :=
  Check.reject (value = "" ∨ 256 < strLen value ∨ value.toList.all isIdentifierChar = false)
    .invalidInput

/-- Page tokens have 1 to 4096 bytes and no control characters. -/
def validatePageToken (value : String) : Except ErrorCode Unit :=
  Check.reject (value = "" ∨ 4096 < strLen value ∨ value.toList.any isControl = true) .invalidInput

/-- `map_err(|_| …)`. -/
def orElse {ε ε' α : Type} (x : Except ε α) (e : ε') : Except ε' α := x.mapError fun _ => e

/-- The metadata of a file is well formed. -/
def validateFile (file : RemoteFile) : Except ErrorCode Unit := do
  validateIdentifier file.id
  Check.reject (file.name = "" ∨ 1024 < strLen file.name ∨ file.name.toList.any isControl = true)
    .malformedResponse
  Check.reject (file.mimeType = "" ∨ 255 < strLen file.mimeType) .malformedResponse
  Check.reject (1 < file.parents.length) .malformedResponse
  each (fun parent => orElse (validateIdentifier parent) ErrorCode.malformedResponse) file.parents
  Check.reject (file.version.any (fun version => version == "" || 128 < strLen version) = true)
    .malformedResponse

/-! ## Entries -/

/-- `str::parse::<u64>`: digits, after one plus sign at most. -/
def parseU64 (value : String) : Option ℕ :=
  let digits := match value.toList with
    | '+' :: rest => rest
    | digits => digits
  if digits = [] ∨ digits.all Char.isDigit = false then none
  else fitsWord (digits.foldl (fun n c => 10 * n + (c.toNat - '0'.toNat)) 0)

/-- `format!("{version:064x}")`. -/
def paddedHex64 (version : ℕ) : String :=
  let digits := Nat.toDigits 16 version
  String.ofList (List.replicate (64 - digits.length) '0' ++ digits)

/-- `hash_value`. -/
def hashValue (algorithm : Store.RemoteHashAlgorithm) (hex : String) :
    Except ErrorCode Store.RemoteContentHash := do
  let hash : Store.RemoteContentHash := { algorithm := algorithm, hex := hex }
  orElse hash.validate ErrorCode.malformedResponse
  pure hash

/-- The checksum of a file, the strongest one there is. -/
def RemoteFile.contentHash (file : RemoteFile) :
    Except ErrorCode (Option Store.RemoteContentHash) :=
  if file.isFolder = true then pure none
  else
    match file.sha256Checksum, file.sha1Checksum, file.md5Checksum with
    | some hash, _, _ => (hashValue .sha256 hash).map some
    | none, some hash, _ => (hashValue .sha1 hash).map some
    | none, none, some hash => (hashValue .md5 hash).map some
    | none, none, none => pure none

/-- `to_remote_entry`. -/
def RemoteFile.toRemoteEntry (u : Unicode) (file : RemoteFile) (canonicalPath : Text) :
    Except ErrorCode Store.RemoteEntry :=
  if file.trashed = true then .error .malformedResponse
  else
    match file.parents with
    | [parent] => do
      let some version := file.version.filter (· ≠ "") | .error .malformedResponse
      let some version := parseU64 version | .error .malformedResponse
      let contentHash ← file.contentHash
      let entry : Store.RemoteEntry :=
        { fileId := file.id
          parentId := parent
          path := String.ofList canonicalPath
          kind := if file.isFolder = true then .folder else .file
          contentHash := contentHash
          remoteRevision := paddedHex64 version }
      orElse (entry.validate u) ErrorCode.malformedResponse
      pure entry
    | _ => .error .malformedResponse

end Drive
end MyVault
