import MyVault.Core.Digest
import MyVault.Vault.FileTree

/-!
# Errors of the vault

`myvault-core/src/error.rs` and `revision.rs`.  Of the paths an error shows, those that
only name the place of the failure are left out; the ends of a move and the target of a
write stay.
-/

namespace MyVault
namespace Vault

/-- A BLAKE3 digest and a length. -/
structure FileRevision where
  hex : String
  byteLen : ℕ
  deriving DecidableEq, Repr

/-- The revision of some bytes. -/
def FileRevision.fromBytes (blake3 : Blake3) (bytes : List UInt8) : FileRevision where
  hex := hexBlake3 blake3 bytes
  byteLen := bytes.length

/-- How the flush of a directory after a move went.  `Unsupported` is for Windows only. -/
inductive DirectorySyncStatus where
  | synced
  | failed (kind : IoKind)
  | sharedWithDestination
  | notAttempted
  deriving DecidableEq, Repr

/-- The two renames of a case rename. -/
inductive CaseRenamePhase where
  | sourceToTemporary
  | temporaryToDestination
  deriving DecidableEq, Repr

/-- The errors of the vault. -/
inductive CoreError where
  | invalidRelativePath
  | symlinkRejected
  | automaticObsidianWriteDenied (path : Text)
  | trashWriteDenied (path : Text)
  | invalidRevision
  | revisionTargetNotFile (path : Text)
  | staleRevision (path : Text) (expected actual : FileRevision)
  | contentDigestMismatch
  | resourceLimitExceeded (resource : String) (limit : ℕ)
  | portablePathCollision (existing incoming : Text)
  | alreadyExists (path : Text)
  | atomicNoReplaceUnsupported (source destination : Text)
  | invalidMove (source destination : Text) (reason : String)
  | moveDurabilitySyncFailed
  | moveContentPrepublicationSyncFailed (source destination : Text)
      (destinationSync sourceSync : DirectorySyncStatus) (cause : CoreError)
  | caseRenamePrepublicationSyncFailed (source destination temporary : Text)
      (directorySync : DirectorySyncStatus) (cause : CoreError)
  | caseRenameOutcomeUnknown (source destination temporary : Text) (phase : CaseRenamePhase)
      (directorySync : DirectorySyncStatus) (verification : CoreError)
  | replaceContentOutcomeUnknown (path : Text) (directorySync : DirectorySyncStatus)
      (verification : CoreError)
  | atomicMoveOutcomeUnknown (source destination : Text)
      (destinationSync sourceSync : DirectorySyncStatus)
  | verifiedMoveOutcomeUnknown (source destination : Text)
      (destinationSync sourceSync : DirectorySyncStatus) (verification : CoreError)
  | commitOutcomeUnknown (path : Text) (source : IoKind)
  | publishedCleanupPending (path : Text) (tempName : String) (source : IoKind)
  | io (kind : IoKind)
  deriving DecidableEq

/-- The variants that leave open whether something was published. -/
def CoreError.isUnknown : CoreError → Bool
  | caseRenameOutcomeUnknown .. => true
  | replaceContentOutcomeUnknown .. => true
  | atomicMoveOutcomeUnknown .. => true
  | verifiedMoveOutcomeUnknown .. => true
  | commitOutcomeUnknown .. => true
  | publishedCleanupPending .. => true
  | _ => false

end Vault
end MyVault
