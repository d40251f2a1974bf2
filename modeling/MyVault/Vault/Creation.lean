import MyVault.Vault.Publish

/-!
# Creating a file of content from a stream

`Vault::create_content_from_reader` of `myvault-core/src/vault.rs`, which publishes what a
transfer has received, and `stream_content_snapshot` of `transfer.rs`.  A reader is the
list of what its reads return.
-/

namespace MyVault
namespace Vault
namespace Stepwise

open Program VaultPath

/-- What a file holds: its revision and its SHA-256 digest. -/
structure ContentSnapshot where
  revision : FileRevision
  sha256 : String
  deriving DecidableEq, Repr

/-- What the reads of a stream return, one after the other. -/
abbrev Reader := List (Except IoKind (List UInt8))

section Creation

variable (u : Unicode) (sha256 : Sha256) (blake3 : Blake3) (faults : Faults) (pid : ℕ)

/-- The snapshot of some bytes. -/
def ContentSnapshot.of (bytes : List UInt8) : ContentSnapshot :=
  { revision := .fromBytes blake3 bytes, sha256 := hexSha256 sha256 bytes }

/-- The error for a transfer that is too long. -/
def transferBytesExceeded (maxBytes : ℕ) : CoreError :=
  .resourceLimitExceeded "transfer bytes" maxBytes

/-- `stream_content_snapshot` into a temporary file, with the bytes so far. -/
def streamContentSnapshot (path : Location) (maxBytes : ℕ) :
    Reader → List UInt8 → VaultProgram ContentSnapshot
  | [], bytes => pure (.of sha256 blake3 bytes)
  | .error kind :: _, _ => throw (.io kind)
  | .ok [] :: _, bytes => pure (.of sha256 blake3 bytes)
  | .ok (byte :: chunk) :: rest, bytes => do
    Program.reject (maxBytes < (bytes ++ byte :: chunk).length) (transferBytesExceeded maxBytes)
    io (writeAll faults path (byte :: chunk))
    streamContentSnapshot path maxBytes rest (bytes ++ byte :: chunk)

/-- The stream goes to the temporary file and is compared with the evidence. -/
def stageContent (path : Location) (reader : Reader) (expectedSha256 : String)
    (expectedByteLen maxBytes : ℕ) : VaultProgram ContentSnapshot := do
  let staged ← streamContentSnapshot sha256 blake3 faults path maxBytes reader []
  Program.require (staged.sha256 = expectedSha256 ∧ staged.revision.byteLen = expectedByteLen)
    .contentDigestMismatch
  io (tick faults)
  pure staged

/-- The hard link, which takes nobody's place. -/
def publishContent (temp : Location) (parent : Location) (relative : VaultPath u) :
    VaultProgram Unit := do
  let linked ← catching (change faults (·.hardLink temp (entry parent (nameOf relative))))
  match linked with
  | .ok () => pure ()
  | .error .alreadyExists => throw (.alreadyExists relative.asStr)
  | .error kind => throw (.io kind)

/-- What the readback has of a file: its digests again. -/
def verifyTransferReadback (relative : VaultPath u) (expected : ContentSnapshot)
    (maxBytes : ℕ) : VaultProgram Unit := do
  let parent ← openParentChecked u faults relative
  rejectFinalSymlink faults (entry parent (nameOf relative))
  let _ ← io (openNoFollow faults (entry parent (nameOf relative)))
  let found ← io (metadata faults (entry parent (nameOf relative)))
  Program.require ((found.map Prod.snd) = some 1) (.revisionTargetNotFile relative.asStr)
  let bytes ← io (readFile faults (entry parent (nameOf relative)))
  Program.reject (maxBytes < bytes.length) (transferBytesExceeded maxBytes)
  Program.require (ContentSnapshot.of sha256 blake3 bytes = expected) .contentDigestMismatch

/-- The folders of a path that has some. -/
def createFoldersOf (relative : VaultPath u) : VaultProgram Unit :=
  if folders relative ≠ [] then createDirectoriesInner u faults (folders relative) else pure ()

/-- What comes in front of the temporary file. -/
def createContentChecks (relative : VaultPath u) (expectedByteLen maxBytes : ℕ) :
    VaultProgram Location := do
  lift (requireContentPath relative)
  Program.reject (maxBytes < expectedByteLen) (transferBytesExceeded maxBytes)
  createFoldersOf u faults relative
  let parent ← openParentChecked u faults relative
  rejectSiblingCollision u faults parent (nameOf relative) relative.asStr
  rejectFinalSymlink faults (entry parent (nameOf relative))
  let found ← catching (symlinkMetadata faults (entry parent (nameOf relative)))
  Program.reject (found.toOption.isSome = true) (.alreadyExists relative.asStr)
  pure parent

/-- What the source does with a failed readback. -/
def readbackError (relative : VaultPath u) (_ : CoreError) : CoreError :=
  .commitOutcomeUnknown relative.asStr .other

/-- From the temporary file on. -/
def finishContent (relative : VaultPath u) (parent : Location) (tempName : String)
    (reader : Reader) (expectedSha256 : String) (expectedByteLen maxBytes : ℕ) :
    VaultProgram Unit := do
  let temp := parent ++ [.utf8 tempName]
  let staged ← orRemove faults temp
    (stageContent sha256 blake3 faults temp reader expectedSha256 expectedByteLen maxBytes)
  verifyExpectedFromParent blake3 faults temp relative.asStr staged.revision maxBytes
  verifySingleLinkFromParent faults temp relative.asStr
  orRemove faults temp (publishContent u faults temp parent relative)
  mapError (CoreError.commitOutcomeUnknown relative.asStr) (syncDirectory faults)
  mapError (CoreError.publishedCleanupPending relative.asStr tempName)
    (change faults (·.removeFile temp))
  mapError (CoreError.publishedCleanupPending relative.asStr tempName) (syncDirectory faults)
  mapError (readbackError u relative)
    (verifyTransferReadback u sha256 blake3 faults relative staged maxBytes)

/-- `create_content_from_reader`: copy what is read to a temporary file, verify it, and publish it.
-/
def createContentFromReader (relative : VaultPath u) (reader : Reader) (expectedSha256 : String)
    (expectedByteLen maxBytes : ℕ) : VaultProgram Unit := do
  let parent ← createContentChecks u faults relative expectedByteLen maxBytes
  let tempName ← createTemp faults pid parent
  finishContent u sha256 blake3 faults relative parent tempName reader expectedSha256
    expectedByteLen maxBytes

end Creation

end Stepwise
end Vault
end MyVault
