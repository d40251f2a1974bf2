import MyVault.Drive.Provider

/-!
# The transfer capability

`TransferDrive` of `myvault-drive/src/transfer.rs`: every request is preceded by a proof that
the bound account, the root and the folder are still what they were; a create needs a permit,
and only a reconciliation that has found nothing gives one.
-/

namespace MyVault
namespace Drive

open Program

/-! ## Checks -/

/-- A name of 1 to 1024 bytes, without slashes or control characters, and neither `.` nor `..`. -/
def validateName (value : String) : Except ErrorCode Unit :=
  Check.reject (value = "" ∨ 1024 < strLen value ∨ value = "." ∨ value = ".." ∨
    '/' ∈ value.toList ∨ '\\' ∈ value.toList ∨ value.toList.any isControl = true) .invalidInput

/-- A MIME type of 1 to 255 bytes that is none of the provider's own. -/
def validateMimeType (value : String) : Except ErrorCode Unit :=
  Check.reject (value = "" ∨ 255 < strLen value ∨
    "application/vnd.google-apps.".toList.isPrefixOf value.toList = true ∨
    value.toList.any isControl = true) .invalidInput

/-- A digest in lower-case hex. -/
def validateSha256 (value : String) : Except ErrorCode Unit :=
  Check.reject (isLowerHex64 value = false) .invalidInput

/-- A version is a number that fits a `u64`. -/
def validateVersion (value : String) : Except ErrorCode Unit :=
  Check.reject (value = "" ∨ 20 < strLen value ∨ value.toList.all Char.isDigit = false ∨
    parseU64 value = none) .invalidInput

/-- The file to create is well formed. -/
def CreateIntent.validate (intent : CreateIntent) : Except ErrorCode Unit := do
  validateIdentifier intent.parentId
  validateName intent.name
  validateMimeType intent.mimeType
  validateIdentifier intent.operationMarker
  validateSha256 intent.sha256

/-- The intent, checked. -/
def CreateIntent.new (intent : CreateIntent) : Except ErrorCode CreateIntent := do
  intent.validate
  .ok intent

/-- The properties are well formed where they are there. -/
def TransferProperties.validate (properties : TransferProperties) : Except ErrorCode Unit :=
  Check.reject
    (properties.operation.any (fun value => !(validateIdentifier value).isOk) = true ∨
      properties.sha256.any (fun value => !isLowerHex64 value) = true ∨
      properties.size.any (fun value => (parseU64 value).isNone) = true) .malformedResponse

/-- The metadata of a file is well formed. -/
def validateTransferFile (file : TransferFile) : Except ErrorCode Unit := do
  orElse (validateIdentifier file.id) ErrorCode.malformedResponse
  Check.reject (file.name = "" ∨ 1024 < strLen file.name ∨ file.name.toList.any isControl = true ∨
    file.mimeType = "" ∨ 255 < strLen file.mimeType ∨ file.mimeType.toList.any isControl = true ∨
    1 < file.parents.length) .malformedResponse
  Check.each (fun parent => orElse (validateIdentifier parent) ErrorCode.malformedResponse)
    file.parents
  Check.each (fun version => orElse (validateVersion version) ErrorCode.malformedResponse)
    file.version.toList
  Check.each (fun sha256 => orElse (validateSha256 sha256) ErrorCode.malformedResponse)
    file.sha256Checksum.toList
  Check.reject (file.size.any (fun value => (parseU64 value).isNone) = true) .malformedResponse
  Check.each TransferProperties.validate file.appProperties.toList

/-- The file has the name, the place, and the content of the intent. -/
def fileHasSameContent (file : TransferFile) (intent : CreateIntent) : Bool :=
  decide (file.trashed = false ∧ file.name = intent.name ∧ file.mimeType = intent.mimeType ∧
    file.parents = [intent.parentId] ∧ file.sha256Checksum = some intent.sha256 ∧
    file.size = some (toString intent.size))

/-- And its properties are those of the operation. -/
def fileMatchesIntent (file : TransferFile) (intent : CreateIntent) : Bool :=
  fileHasSameContent file intent &&
    decide (file.appProperties.bind TransferProperties.operation = some intent.operationMarker ∧
      file.appProperties.bind TransferProperties.sha256 = some intent.sha256 ∧
      file.appProperties.bind TransferProperties.size = some (toString intent.size))

/-! ## Revisions -/

/-- The value of a lower-case hexadecimal digit. -/
def hexValue (c : Char) : ℕ :=
  if c.isDigit = true then c.toNat - '0'.toNat else c.toNat - 'a'.toNat + 10

/-- The revision of the sync store is the version in 64 hex digits. -/
def syncRevisionFromProviderVersion (providerVersion : String) : Except ErrorCode String := do
  orElse (validateVersion providerVersion) ErrorCode.malformedResponse
  match parseU64 providerVersion with
  | some value => .ok (paddedHex64 value)
  | none => .error .malformedResponse

/-- And back; the spelling must be the one that the conversion gives. -/
def providerVersionFromSyncRevision (syncRevision : String) : Except ErrorCode String := do
  Check.reject (isLowerHex64 syncRevision = false) .invalidInput
  match fitsWord (syncRevision.toList.foldl (fun n c => 16 * n + hexValue c) 0) with
  | none => .error .invalidInput
  | some value => do
    Check.reject (paddedHex64 value ≠ syncRevision) .invalidInput
    .ok (toString value)

/-- The version may stay or grow. -/
def requireProviderVersionNotRegressed (previous current : String) : Except ErrorCode Unit := do
  orElse (validateVersion previous) ErrorCode.malformedResponse
  orElse (validateVersion current) ErrorCode.malformedResponse
  match parseU64 previous, parseU64 current with
  | some previous, some current => Check.reject (current < previous) .revisionMismatch
  | _, _ => .error .malformedResponse

/-- Metadata the provider has verified. -/
structure RemoteObject where
  fileId : String
  providerVersion : String
  syncRevision : String
  sha256 : String
  size : ℕ
  deriving DecidableEq, Repr

/-- The object of a file that is as the intent says. -/
def objectOf (file : TransferFile) (intent : CreateIntent) : Except ErrorCode RemoteObject :=
  match file.version with
  | none => .error .malformedResponse
  | some version => do
    validateVersion version
    let syncRevision ← syncRevisionFromProviderVersion version
    .ok { fileId := file.id, providerVersion := version, syncRevision, sha256 := intent.sha256
          size := intent.size }

/-- The file as the object that the operation has made. -/
def remoteObject (file : TransferFile) (intent : CreateIntent) : Except ErrorCode RemoteObject :=
  if fileMatchesIntent file intent = false then .error .existingDifferentContent
  else objectOf file intent

/-- The file as an object that has the same content, whoever has made it. -/
def remoteObjectSameContent (file : TransferFile) (intent : CreateIntent) :
    Except ErrorCode RemoteObject :=
  if fileHasSameContent file intent = false then .error .existingDifferentContent
  else objectOf file intent

/-- The search has found the created file and no other. -/
def requireUniqueCreatedMatch (found : List TransferFile) (intent : CreateIntent)
    (created : RemoteObject) : Except ErrorCode Unit :=
  match found with
  | [file] =>
    if file.id = created.fileId ∧ fileMatchesIntent file intent = true then .ok ()
    else .error .ambiguousRemote
  | _ => .error .ambiguousRemote

/-! ## Reconciling and creating -/

/-- Why a create is neither possible nor done. -/
inductive ReconcileReason where
  | existingDifferentContent
  | operationMarkerMismatch
  | duplicateName
  | duplicateOperationMarker
  deriving DecidableEq, Repr

/-- A permit to create, which a reconciliation gives. -/
structure CreatePermit where
  intent : CreateIntent
  deriving DecidableEq, Repr

/-- What a search before a create comes to. -/
inductive CreateReconciliation where
  | absent (permit : CreatePermit)
  | verifiedExisting (remote : RemoteObject)
  | needsReconcile (reason : ReconcileReason)
  deriving DecidableEq, Repr

/-- An upload session, and how far it is. -/
structure UploadSession where
  uri : ℕ
  intent : CreateIntent
  nextOffset : ℕ
  deriving DecidableEq, Repr

/-- How far an upload is. -/
inductive UploadProgress where
  | inProgress (nextOffset : ℕ)
  | complete (remote : RemoteObject)
  deriving DecidableEq, Repr

/-- Chunks are multiples of 256 KiB, but for the last. -/
def chunkAlignment : ℕ := 256 * 1024

/-- A chunk has 8 MiB at most. -/
def resumableUploadChunkBytes : ℕ := 8 * 1024 * 1024

/-- How many folders above a file are looked at. -/
def maxAncestryDepth : ℕ := 128

/-- The next chunk of an upload. -/
structure UploadChunkPlan where
  offset : ℕ
  byteLen : ℕ
  endOffset : ℕ
  deriving DecidableEq, Repr

/-- The next chunk goes as far as the size of a chunk or the end of the content. -/
def planResumableUploadChunk (totalSize nextOffset : ℕ) : Except ErrorCode UploadChunkPlan :=
  if totalSize < nextOffset ∨ (totalSize ≠ 0 ∧ nextOffset = totalSize) then .error .invalidInput
  else
    let byteLen := min (totalSize - nextOffset) resumableUploadChunkBytes
    .ok { offset := nextOffset, byteLen, endOffset := nextOffset + byteLen }

/-- The `?` after a check. -/
def check {α : Type} (x : Except ErrorCode α) : DriveProgram α := lift (x.mapError ErrorCode.stop)

/-- The bound account and root, and the largest blob. -/
structure TransferDrive where
  accountId : String
  rootId : String
  maxBlobBytes : ℕ
  deriving DecidableEq, Repr

namespace TransferDrive

variable (drive : TransferDrive) (provider : Provider) (net : ℕ → Turn)

/-- The id of the account that is signed in. -/
def accountIdentity : DriveProgram String := do
  let permissionId ← get provider net fun _ => .ok provider.accountId
  check (orElse (validateIdentifier permissionId) ErrorCode.invalidAccount)
  pure permissionId

/-- What the provider has under an id. -/
def metadataOf (fileId : String) (remote : Remote) : Except DriveError StoredFile :=
  match remote.files.lookup fileId with
  | none => .error { code := .notFound, retryAfterSeconds := none }
  | some file => .ok file

/-- The metadata of a file, checked. -/
def fileMetadata (fileId : String) : DriveProgram RemoteFile := do
  check (validateIdentifier fileId)
  let stored ← get provider net (metadataOf fileId)
  let file := stored.remoteFile provider.sha256
  Program.reject (file.id ≠ fileId) ErrorCode.malformedResponse.stop
  check (validateFile file)
  pure file

/-- The bound root is a folder that is there. -/
def verifyRoot (fileId : String) : DriveProgram Unit := do
  let file ← fileMetadata provider net fileId
  Program.reject (file.trashed = true ∨ file.mimeType ≠ folderMimeType)
    ErrorCode.invalidRoot.stop
  let version ← the (file.version.filter (· ≠ "")) ErrorCode.invalidRoot.stop
  Program.require ((parseU64 version).isSome = true) ErrorCode.invalidRoot.stop

/-- The account and the root are still the bound ones. -/
def ensureBinding : DriveProgram Unit := do
  let permissionId ← accountIdentity provider net
  Program.reject (permissionId ≠ drive.accountId) ErrorCode.invalidAccount.stop
  verifyRoot provider net drive.rootId

/-- The loop of `ensure_folder_below_root`, with so many hops left. -/
def climbToRoot : ℕ → String → List String → DriveProgram Unit
  | 0, _, _ => throw ErrorCode.invalidRoot.stop
  | hops + 1, current, visited => do
    Program.reject (current ∈ visited) ErrorCode.invalidRoot.stop
    let file ← fileMetadata provider net current
    match file.parents with
    | [parent] =>
      if file.trashed = true ∨ file.mimeType ≠ folderMimeType then
        throw ErrorCode.invalidRoot.stop
      else if parent = drive.rootId then pure ()
      else climbToRoot hops parent (current :: visited)
    | _ => throw ErrorCode.invalidRoot.stop

/-- The folder is the bound root or below it. -/
def ensureFolderBelowRoot (folderId : String) : DriveProgram Unit := do
  check (validateIdentifier folderId)
  ensureBinding drive provider net
  if folderId = drive.rootId then pure ()
  else climbToRoot drive provider net maxAncestryDepth folderId []

/-- A file that a search has found is well formed and in the folder. -/
def checkFound (parentId : String) (file : TransferFile) : Except ErrorCode Unit := do
  validateTransferFile file
  Check.reject (file.trashed = true ∨ file.parents ≠ [parentId]) .malformedResponse

/-- A search in a folder, all pages of it. -/
def queryFilesWithPageSize (query : FileQuery) (pageSize : ℕ) :
    DriveProgram (List TransferFile) := do
  Program.reject (4096 < utf8Len query.text ∨ query.text.any isControl = true)
    ErrorCode.invalidInput.stop
  Program.reject (pageSize ≠ 2 ∧ pageSize ≠ 100) ErrorCode.invalidInput.stop
  ensureFolderBelowRoot drive provider net query.parentId
  let found ← get provider net fun remote => .ok (remote.files.rows.filter query.selects)
  write fun remote => { remote with answered := remote.answered ++ [(query, found)] }
  -- what does not fit on the page is behind a page token
  Program.reject (pageSize < found.length) ErrorCode.ambiguousRemote.stop
  let files := found.map (StoredFile.transferFile provider.sha256)
  check (Check.each (checkFound query.parentId) files)
  pure files

/-- A search with the page size that a reconciliation uses. -/
def queryFiles (query : FileQuery) : DriveProgram (List TransferFile) :=
  queryFilesWithPageSize drive provider net query 100

/-- The metadata of a file for a transfer, checked. -/
def transferFileMetadata (fileId : String) : DriveProgram TransferFile := do
  check (validateIdentifier fileId)
  let stored ← get provider net (metadataOf fileId)
  let file := stored.transferFile provider.sha256
  check (validateTransferFile file)
  Program.reject (file.id ≠ fileId) ErrorCode.malformedResponse.stop
  pure file

/-- Read a file that was found once more; none if it has changed since. -/
def recheckExisting (fileId : String) (intent : CreateIntent) (requireOperationMarker : Bool) :
    DriveProgram (Option TransferFile) := do
  ensureFolderBelowRoot drive provider net intent.parentId
  let file ← transferFileMetadata provider net fileId
  let isMatch := if requireOperationMarker = true then fileMatchesIntent file intent
    else fileHasSameContent file intent
  pure (if isMatch = true then some file else none)

/-- The search for the marker of the operation. -/
def markerQuery (intent : CreateIntent) : FileQuery :=
  .marker intent.parentId intent.operationMarker

/-- The search for the name. -/
def nameQuery (intent : CreateIntent) : FileQuery := .name intent.parentId intent.name

/-- One file has the marker. -/
def reconcileMarked (intent : CreateIntent) (file : TransferFile) :
    DriveProgram CreateReconciliation :=
  if fileMatchesIntent file intent = true then do
    match ← recheckExisting drive provider net file.id intent true with
    | some verified => do
      let remote ← check (remoteObject verified intent)
      pure (.verifiedExisting remote)
    | none => pure (.needsReconcile .operationMarkerMismatch)
  else pure (.needsReconcile .operationMarkerMismatch)

/-- One file has the name. -/
def reconcileNamed (intent : CreateIntent) (file : TransferFile) :
    DriveProgram CreateReconciliation :=
  if fileHasSameContent file intent = true then do
    match ← recheckExisting drive provider net file.id intent false with
    | some verified => do
      let remote ← check (remoteObjectSameContent verified intent)
      pure (.verifiedExisting remote)
    | none => pure (.needsReconcile .existingDifferentContent)
  else pure (.needsReconcile .existingDifferentContent)

/-- What has become of a create: the marker is searched first, and where no file has it the name. -/
def reconcileCreate (intent : CreateIntent) : DriveProgram CreateReconciliation := do
  match ← queryFiles drive provider net (markerQuery intent) with
  | [file] => reconcileMarked drive provider net intent file
  | [] =>
    match ← queryFiles drive provider net (nameQuery intent) with
    | [] => pure (.absent { intent })
    | [file] => reconcileNamed drive provider net intent file
    | _ => pure (.needsReconcile .duplicateName)
  | _ => pure (.needsReconcile .duplicateOperationMarker)

/-- The created file is the only one with its marker and the only one of its name. -/
def verifyCreatedUpload (intent : CreateIntent) (created : RemoteObject) :
    DriveProgram RemoteObject := do
  let markerMatches ← queryFilesWithPageSize drive provider net (markerQuery intent) 2
  check (requireUniqueCreatedMatch markerMatches intent created)
  let nameMatches ← queryFilesWithPageSize drive provider net (nameQuery intent) 2
  check (requireUniqueCreatedMatch nameMatches intent created)
  let verified ← recheckExisting drive provider net created.fileId intent true
  let verified ← the verified ErrorCode.revisionMismatch.stop
  let finalObject ← check (remoteObject verified intent)
  check (requireProviderVersionNotRegressed created.providerVersion finalObject.providerVersion)
  pure finalObject

/-- Open an upload session. -/
def initiateResumableCreate (permit : CreatePermit) : DriveProgram UploadSession := do
  ensureFolderBelowRoot drive provider net permit.intent.parentId
  let uri ← request provider net (fun _ => Remote.openSession permit.intent) fun remote =>
    .ok (remote.sessions.length - 1)
  pure { uri, intent := permit.intent, nextOffset := 0 }

/-- `put_session`; without an offset it only asks. -/
def putSession (session : UploadSession) (body : List UInt8) (offset : Option ℕ) :
    DriveProgram UploadResponse := do
  ensureFolderBelowRoot drive provider net session.intent.parentId
  request provider net (fun taken => Remote.put provider session.uri offset (body.take taken))
    (Remote.uploadResponse provider session.uri)

/-- How far the upload is after a response; the offset may not go back, nor past what was sent. -/
def decodeUploadResponse (session : UploadSession) (uploaded : Option (ℕ × ℕ)) :
    UploadResponse → DriveProgram UploadProgress
  | .incomplete nextOffset => do
    Program.reject (session.intent.size < nextOffset ∨ nextOffset < session.nextOffset ∨
      uploaded.any (fun range => decide (nextOffset ≤ range.1 ∨ range.2 < nextOffset)) = true)
      ErrorCode.rangeRejected.stop
    pure (.inProgress nextOffset)
  | .complete file => do
    check (validateTransferFile file)
    Program.require (fileMatchesIntent file session.intent = true)
      ErrorCode.malformedResponse.stop
    let responseVersion ← the file.version ErrorCode.malformedResponse.stop
    let verified ← recheckExisting drive provider net file.id session.intent true
    let verified ← the verified ErrorCode.revisionMismatch.stop
    let verifiedVersion ← the verified.version ErrorCode.malformedResponse.stop
    check (requireProviderVersionNotRegressed responseVersion verifiedVersion)
    let remote ← check (remoteObject verified session.intent)
    pure (.complete remote)

/-- Send a chunk of the content. -/
def uploadChunk (session : UploadSession) (bytes : List UInt8) : DriveProgram UploadProgress := do
  let endOffset := session.nextOffset + bytes.length
  Program.reject (resumableUploadChunkBytes < bytes.length) ErrorCode.invalidInput.stop
  Program.reject (session.intent.size < endOffset ∨
    (endOffset < session.intent.size ∧
      (bytes = [] ∨ bytes.length % chunkAlignment ≠ 0)) ∨
    (session.intent.size ≠ 0 ∧ bytes = [])) ErrorCode.invalidInput.stop
  let offset := if session.intent.size = 0 then none else some session.nextOffset
  let response ← putSession drive provider net session bytes offset
  decodeUploadResponse drive provider net session (some (session.nextOffset, endOffset)) response

/-- Ask how much has arrived. -/
def queryUploadStatus (session : UploadSession) : DriveProgram UploadProgress := do
  let response ← putSession drive provider net session [] none
  decodeUploadResponse drive provider net session none response

/-- A file that may be downloaded from this folder, with its name. -/
def inspectDownloadCandidateMetadata (fileId parentId : String) :
    DriveProgram (RemoteObject × String) := do
  ensureFolderBelowRoot drive provider net parentId
  let file ← transferFileMetadata provider net fileId
  Program.reject (file.trashed = true ∨ file.parents ≠ [parentId] ∨
    "application/vnd.google-apps.".toList.isPrefixOf file.mimeType.toList = true)
    ErrorCode.malformedResponse.stop
  let version ← the file.version ErrorCode.malformedResponse.stop
  let sha256 ← the file.sha256Checksum ErrorCode.malformedResponse.stop
  let size ← the (file.size.bind parseU64) ErrorCode.malformedResponse.stop
  Program.reject (drive.maxBlobBytes < size) ErrorCode.responseTooLarge.stop
  let syncRevision ← check (syncRevisionFromProviderVersion version)
  pure ({ fileId := file.id, providerVersion := version, syncRevision, sha256, size }, file.name)

/-- The file still has the name and the revision that the download was queued for. -/
def inspectDownloadCandidate (fileId parentId expectedName expectedSyncRevision : String) :
    DriveProgram RemoteObject := do
  check (validateName expectedName)
  let expectedProviderVersion ← check (providerVersionFromSyncRevision expectedSyncRevision)
  let (candidate, currentName) ← inspectDownloadCandidateMetadata drive provider net fileId parentId
  Program.reject (currentName ≠ expectedName ∨
    candidate.providerVersion ≠ expectedProviderVersion) ErrorCode.revisionMismatch.stop
  pure candidate

end TransferDrive

end Drive
end MyVault
