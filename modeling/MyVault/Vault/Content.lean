import MyVault.Vault.Disk
import MyVault.Vault.Inventory

/-!
# The operations on content files

`myvault-core/src/vault.rs`: `atomic_write`, `create_new`,
`replace_content_file_if_revision`, `atomic_move`, `move_content_file_if_revision` and
`case_rename_content_file_if_revision`, with the resuming variants of the last two, step
by step.

On Unix a directory can be flushed or the flush fails, so the durability that the
outcomes carry is always `FullySynced` and is left out.  The test hooks are left out, as
is the lock.
-/

namespace MyVault
namespace Vault
namespace Stepwise

open Program VaultPath

/-- `MAX_TRASH_PAYLOAD_BYTES`. -/
def maxTrashPayloadBytes : ℕ := 64 * 1024 * 1024

/-- Who writes. -/
inductive WriteIntent where
  | automatic
  | userInitiated
  deriving DecidableEq, Repr

/-- What a move has done. -/
inductive MoveContentOutcome where
  | moved
  | alreadyMoved
  deriving DecidableEq, Repr

/-- What a case rename has done. -/
inductive CaseRenameOutcome where
  | renamed
  | resumedFromTemporary
  | alreadyRenamed
  deriving DecidableEq, Repr

/-- `ContentMoveMode` and `CaseRenameMode`. -/
inductive Mode where
  | fresh
  | resume
  deriving DecidableEq, Repr

/-! ## Checks of the arguments -/

section Arguments

variable {u : Unicode}

/-- `classify`: the class of the first component. -/
def classify (path : VaultPath u) : VaultPathClass :=
  (path.components.head?.map (classifyComponent u)).getD .content

/-- `validate_mutation_policy`: the trash is never written, and the folder of Obsidian only for the
user. -/
def validateMutationPolicy (relative : VaultPath u) (intent : WriteIntent) :
    Except CoreError Unit :=
  match classify relative with
  | .obsidianMetadata =>
      if intent = .automatic then .error (.automaticObsidianWriteDenied relative.asStr) else .ok ()
  | .trash => .error (.trashWriteDenied relative.asStr)
  | .content => .ok ()

/-- The path is outside the two protected folders. -/
def requireContentPath (relative : VaultPath u) : Except CoreError Unit :=
  if classify relative = .content then .ok ()
  else .error (.invalidMove relative.asStr relative.asStr
    "privileged trash moves require a content path")

/-- The digest is spelled in lower-case hex. -/
def validateRevision (revision : FileRevision) : Except CoreError Unit :=
  if isLowerHex64 revision.hex = true then .ok () else .error .invalidRevision

/-- The folders of a path. -/
def folders (path : VaultPath u) : List Text := path.components.dropLast

/-- The name of a path in its folder. -/
def nameOf (path : VaultPath u) : Text := path.components.getLast path.fits.1

/-- The paths are in one folder. -/
def sameParentPath (source destination : VaultPath u) : Bool :=
  folders source == folders destination

/-- The paths differ in their spelling, and the temporary one is beside them. -/
def validateCaseRenamePaths (source destination temporary : VaultPath u) :
    Except CoreError Unit := do
  requireContentPath source
  requireContentPath destination
  requireContentPath temporary
  Check.reject (source.asStr = destination.asStr ∨
      Store.collisionKey source ≠ Store.collisionKey destination)
    (.invalidMove source.asStr destination.asStr
      "case rename endpoints must be distinct spellings of one portable collision key")
  Check.reject (¬ (sameParentPath source destination = true ∧
      sameParentPath source temporary = true))
    (.invalidMove source.asStr destination.asStr
      "case rename paths must have the same exact parent")
  Check.reject (temporary.asStr = source.asStr ∨ temporary.asStr = destination.asStr ∨
      Store.collisionKey temporary = Store.collisionKey source)
    (.invalidMove source.asStr destination.asStr
      "case rename temporary path must have a distinct portable collision key")

/-- The error of a move for one of the file system. -/
def mapAtomicMoveError (source destination : Text) : IoKind → CoreError
  | .alreadyExists => .alreadyExists destination
  | .unsupported => .atomicNoReplaceUnsupported source destination
  | kind => .io kind

end Arguments

/-- The entry of a name in a directory. -/
def entry (parent : Location) (name : Text) : Location := parent ++ [.utf8 (String.ofList name)]

section Steps

variable (u : Unicode) (blake3 : Blake3) (faults : Faults) (pid : ℕ)

/-! ## Looking -/

/-- The folder has no other spelling of the name. -/
def rejectSiblingCollision (parent : Location) (desired incoming : Text) : VaultProgram Unit := do
  let names ← io (readDir faults parent)
  eachEntry faults (fun name =>
    match name.toStr with
    | none => throw .invalidRelativePath
    | some existing =>
        Program.reject (existing.toList ≠ desired ∧
          componentCollisionKey u existing.toList = componentCollisionKey u desired)
          (.portablePathCollision existing.toList incoming)) names

/-- The entry is a symbolic link. -/
def isSymlink : Except IoKind Node → Bool
  | .ok .symlink => true
  | _ => false

/-- `reject_final_symlink`; a failure to look is no symbolic link. -/
def rejectFinalSymlink (path : Location) : VaultProgram Unit := do
  let found ← catching (symlinkMetadata faults path)
  Program.reject (isSymlink found = true) .symlinkRejected

/-- `open_child_dir_nofollow`. -/
def openChildDirNofollow (path : Location) : VaultProgram Unit := do
  rejectFinalSymlink faults path
  let opened ← catching (openNoFollow faults path)
  match opened with
  | .error kind => do
    rejectFinalSymlink faults path
    throw (.io kind)
  | .ok node => do
    io (tick faults)
    Program.require (node = .dir) .invalidRelativePath

/-- The loop of `open_parent` and `open_parent_checked`, with what they do in front of each
folder. -/
def openFolders (check : Location → Text → VaultProgram Unit) :
    Location → List Text → VaultProgram Location
  | current, [] => pure current
  | current, component :: rest => do
    check current component
    openChildDirNofollow faults (entry current component)
    openFolders check (entry current component) rest

/-- The folder of a path. -/
def openParent (relative : VaultPath u) : VaultProgram Location := do
  io (tick faults)
  openFolders faults (fun _ _ => pure ()) [] (folders relative)

/-- The folder of a path, if no name on the way has another spelling. -/
def openParentChecked (relative : VaultPath u) : VaultProgram Location := do
  io (tick faults)
  openFolders faults (fun current component =>
    rejectSiblingCollision u faults current component relative.asStr) [] (folders relative)

/-- There is an entry of this name. -/
def entryExists (path : Location) : VaultProgram Bool := do
  let found ← catching (symlinkMetadata faults path)
  match found with
  | .ok _ => pure true
  | .error .notFound => pure false
  | .error kind => throw (.io kind)

/-- Both are the same folder. -/
def sameOpenDirectory (expected actual : Location) : VaultProgram Bool := do
  let a ← io (directoryIdentity faults expected)
  let b ← io (directoryIdentity faults actual)
  pure (a == b)

/-- Two such checks, the second if the first one holds. -/
def sameOpenDirectories (expected actual expected' actual' : Location) : VaultProgram Bool := do
  let same ← sameOpenDirectory faults expected actual
  if same = true then sameOpenDirectory faults expected' actual' else pure false

/-- The revision of a file. -/
def revisionFromParent (path : Location) (relative : Text) (maxBytes : ℕ) :
    VaultProgram FileRevision := do
  rejectFinalSymlink faults path
  let _ ← io (openNoFollow faults path)
  let found ← io (metadata faults path)
  let (length, _) ← the found (.revisionTargetNotFile relative)
  Program.reject (maxBytes < length) (.resourceLimitExceeded "revision bytes" maxBytes)
  let bytes ← io (readFile faults path)
  Program.reject (maxBytes < bytes.length) (.resourceLimitExceeded "revision bytes" maxBytes)
  pure (.fromBytes blake3 bytes)

/-- The file has the revision that is expected. -/
def verifyExpectedFromParent (path : Location) (relative : Text) (expected : FileRevision)
    (maxBytes : ℕ) : VaultProgram Unit := do
  lift (validateRevision expected)
  let actual ← revisionFromParent blake3 faults path relative maxBytes
  Program.require (actual = expected) (.staleRevision relative expected actual)

/-- The file has no other name. -/
def verifySingleLinkFromParent (path : Location) (relative : Text) : VaultProgram Unit := do
  rejectFinalSymlink faults path
  let _ ← io (openNoFollow faults path)
  let found ← io (metadata faults path)
  Program.require ((found.map Prod.snd) = some 1)
    (.invalidMove relative relative "file must be regular with exactly one hard link")

/-- Nothing has the name of the source. -/
def verifySourceAbsent (path : Location) (source destination : Text) : VaultProgram Unit := do
  let found ← catching (symlinkMetadata faults path)
  match found with
  | .error .notFound => pure ()
  | .error kind => throw (.io kind)
  | .ok _ => throw (.invalidMove source destination
      "cannot confirm move durability while the source still exists")

/-! ## Temporary files -/

/-- The name of a temporary file. -/
def tempName (id : ℕ) : String :=
  ".myvault-write-" ++ toString pid ++ "-" ++ toString id ++ ".tmp"

/-- The attempts of `create_temp`. -/
def createTempFrom (parent : Location) : ℕ → VaultProgram String
  | 0 => throw (.io .alreadyExists)
  | attempts + 1 => do
    let id ← read World.nextTempId
    write fun w => { w with nextTempId := w.nextTempId + 1 }
    let candidate := tempName pid id
    let opened ← catching (change faults (·.createFile (parent ++ [.utf8 candidate])))
    match opened with
    | .ok () => pure candidate
    | .error .alreadyExists => createTempFrom parent attempts
    | .error kind => throw (.io kind)

/-- A new temporary file, after at most 64 tries. -/
def createTemp (parent : Location) : VaultProgram String := createTempFrom faults pid parent 64

/-- `let _ = parent.remove_file(…)`. -/
def tryRemove (path : Location) : VaultProgram Unit := do
  let _ ← (catching (change faults (·.removeFile path)) : VaultProgram (Except IoKind Unit))
  pure ()

/-- Runs the steps up to the publication; where they fail the temporary file is removed as
well as possible. -/
def orRemove {α : Type} (path : Location) (p : VaultProgram α) : VaultProgram α := do
  let result ← catching p
  match result with
  | .ok a => pure a
  | .error e => do
    tryRemove faults path
    throw e

/-- `write_all` and `sync_all` of a temporary file. -/
def writeTemp (path : Location) (contents : List UInt8) : VaultProgram Unit := do
  io (writeAll faults path contents)
  io (tick faults)

/-! ## Writing -/

/-- What `atomic_write` does before it has a temporary file. -/
def atomicWriteChecks (relative : VaultPath u) (intent : WriteIntent) :
    VaultProgram Location := do
  lift (validateMutationPolicy relative intent)
  let parent ← openParentChecked u faults relative
  rejectSiblingCollision u faults parent (nameOf relative) relative.asStr
  rejectFinalSymlink faults (entry parent (nameOf relative))
  pure parent

/-- `atomic_write`: write a temporary file and rename it over the path. -/
def atomicWrite (relative : VaultPath u) (contents : List UInt8) (intent : WriteIntent) :
    VaultProgram Unit := do
  let parent ← atomicWriteChecks u faults relative intent
  let tempName ← createTemp faults pid parent
  let temp := parent ++ [.utf8 tempName]
  orRemove faults temp (do
    writeTemp faults temp contents
    io (change faults (·.rename temp (entry parent (nameOf relative))))
    io (syncDirectory faults))

/-- The loop of `create_directories_inner`. -/
def createFolders (incoming : Text) : Location → List Text → VaultProgram Unit
  | _, [] => pure ()
  | current, component :: rest => do
    rejectSiblingCollision u faults current component incoming
    let made ← catching (change faults (·.createDir (entry current component)))
    match made with
    | .ok () => io (syncDirectory faults)
    | .error .alreadyExists => pure ()
    | .error kind => throw (.io kind)
    openChildDirNofollow faults (entry current component)
    createFolders incoming (entry current component) rest

/-- `create_directories_inner`; the folders of a path make a path. -/
def createDirectoriesInner (components : List Text) : VaultProgram Unit := do
  io (tick faults)
  createFolders u faults (joinSlash components) [] components

/-- What `create_new` does before it has a temporary file. -/
def createNewChecks (relative : VaultPath u) (intent : WriteIntent) : VaultProgram Location := do
  lift (validateMutationPolicy relative intent)
  if folders relative ≠ [] then createDirectoriesInner u faults (folders relative) else pure ()
  let parent ← openParent u faults relative
  rejectSiblingCollision u faults parent (nameOf relative) relative.asStr
  rejectFinalSymlink faults (entry parent (nameOf relative))
  pure parent

/-- `create_new`: write a temporary file and link it to the path, if that is free. -/
def createNew (relative : VaultPath u) (contents : List UInt8) (intent : WriteIntent) :
    VaultProgram Unit := do
  let parent ← createNewChecks u faults relative intent
  let tempName ← createTemp faults pid parent
  let temp := parent ++ [.utf8 tempName]
  orRemove faults temp (do
    writeTemp faults temp contents
    io (change faults (·.hardLink temp (entry parent (nameOf relative)))))
  mapError (CoreError.commitOutcomeUnknown relative.asStr) (syncDirectory faults)
  mapError (CoreError.publishedCleanupPending relative.asStr tempName)
    (change faults (·.removeFile temp))
  mapError (CoreError.publishedCleanupPending relative.asStr tempName) (syncDirectory faults)

/-- What `replace_content_file_if_revision` does before it has a temporary file. -/
def replaceContentChecks (relative : VaultPath u) (expected : FileRevision)
    (contents : List UInt8) (maxBytes : ℕ) : VaultProgram Location := do
  lift (requireContentPath relative)
  lift (validateRevision expected)
  Program.reject (maxBytes < expected.byteLen)
    (.resourceLimitExceeded "expected content revision bytes" maxBytes)
  Program.reject (maxBytes < contents.length)
    (.resourceLimitExceeded "replacement content bytes" maxBytes)
  let parent ← openParentChecked u faults relative
  rejectSiblingCollision u faults parent (nameOf relative) relative.asStr
  verifyExpectedFromParent blake3 faults (entry parent (nameOf relative)) relative.asStr expected
    maxBytes
  verifySingleLinkFromParent faults (entry parent (nameOf relative)) relative.asStr
  pure parent

/-- The last look before the replacement. -/
def replaceContentRecheck (relative : VaultPath u) (expected : FileRevision)
    (contents : List UInt8) (maxBytes : ℕ) (parent : Location) (tempName : String) :
    VaultProgram Location := do
  let latest ← openParentChecked u faults relative
  let same ← sameOpenDirectory faults parent latest
  Program.require (same = true) (.invalidMove relative.asStr relative.asStr
    "content parent directory identity changed before replacement")
  verifyExpectedFromParent blake3 faults (entry latest (nameOf relative)) relative.asStr expected
    maxBytes
  verifySingleLinkFromParent faults (entry latest (nameOf relative)) relative.asStr
  verifyExpectedFromParent blake3 faults (latest ++ [.utf8 tempName]) relative.asStr
    (.fromBytes blake3 contents) maxBytes
  verifySingleLinkFromParent faults (latest ++ [.utf8 tempName]) relative.asStr
  pure latest

/-- What a sync has come to. -/
def directorySyncStatus : Except IoKind Unit → DirectorySyncStatus
  | .ok () => .synced
  | .error kind => .failed kind

/-- The path has the new content, and the file no other name. -/
def verifyReplacement (relative : VaultPath u) (contents : List UInt8) (maxBytes : ℕ)
    (latest : Location) : VaultProgram Unit := do
  verifyExpectedFromParent blake3 faults (entry latest (nameOf relative)) relative.asStr
    (.fromBytes blake3 contents) maxBytes
  verifySingleLinkFromParent faults (entry latest (nameOf relative)) relative.asStr

/-- What comes after the replacement. -/
def finishReplacement (relative : VaultPath u) (contents : List UInt8) (maxBytes : ℕ)
    (latest : Location) : VaultProgram Unit := do
  let synced ← catching (syncDirectory faults)
  let verification ← catching (verifyReplacement u blake3 faults relative contents maxBytes latest)
  match synced, verification with
  | .ok (), .ok () => pure ()
  | synced, .ok () => throw (.replaceContentOutcomeUnknown relative.asStr
      (directorySyncStatus synced) .moveDurabilitySyncFailed)
  | synced, .error e => throw (.replaceContentOutcomeUnknown relative.asStr
      (directorySyncStatus synced) e)

/-- `replace_content_file`: the content is replaced if it is still the one that is expected. -/
def replaceContentFile (relative : VaultPath u) (expected : FileRevision)
    (contents : List UInt8) (maxBytes : ℕ) : VaultProgram Unit := do
  let parent ← replaceContentChecks u blake3 faults relative expected contents maxBytes
  let tempName ← createTemp faults pid parent
  let temp := parent ++ [.utf8 tempName]
  let latest ← orRemove faults temp (do
    writeTemp faults temp contents
    let latest ← replaceContentRecheck u blake3 faults relative expected contents maxBytes parent
      tempName
    io (change faults
      (·.rename (latest ++ [.utf8 tempName]) (entry latest (nameOf relative))))
    pure latest)
  finishReplacement u blake3 faults relative contents maxBytes latest

end Steps

end Stepwise
end Vault
end MyVault
