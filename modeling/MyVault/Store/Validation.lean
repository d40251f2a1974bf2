import MyVault.Core.Path
import MyVault.Library.Program
import MyVault.Store.Records

/-!
# Errors and validation

The errors the modelled functions of the store return and the checks it makes of
its arguments and of the rows it loads (`lib.rs` and `store.rs`).
-/

namespace MyVault
namespace Store

open Check VaultPath

/-- The errors of the store. -/
inductive Error where
  | database
  | invalidVaultId
  | invalidRemoteId
  | invalidRemoteToken
  | invalidRemoteEntry
  | invalidPortablePath
  | invalidRevision
  | invalidTimestamp
  | invalidErrorCode
  | bindingCollision
  | bindingIdentityMismatch
  | bindingRequiresAccount
  | invalidStateTransition
  | invalidSchema
  | queueCollision
  | jobNotFound
  | invalidTransferEvidence
  | transferCollision
  | transferNotFound
  | cursorMismatch
  | batchAlreadyActive
  | noActiveBatch
  | unknownMutation
  | localMutationIncomplete
  | mutationNeedsReconcile
  | mutationNotFound
  | mutationCollision
  | mutationStateVersionMismatch
  | unsupportedTransferChange
  | transferChangeMismatch
  | invalidPreviewLimit
  | invalidPreviewCursor
  deriving DecidableEq, Repr

/-- `MAX_SCAN_PAGE_ENTRIES`. -/
def maxScanPageEntries : ℕ := 1000

/-- `MAX_SCAN_FRONTIER_FOLDERS`. -/
def maxScanFrontierFolders : ℕ := 5000

/-! ## Values -/

/-- `validate_remote_id`. -/
def validateRemoteId (value : String) : Except Error Unit :=
  reject (!isRemoteId value) .invalidRemoteId

/-- `u8::is_ascii_control`. -/
def isAsciiControl (c : Char) : Bool := c.toNat < 32 || c.toNat == 127

/-- One to 4096 bytes without an ASCII control character. -/
def isRemoteToken (value : String) : Bool :=
  decide (1 ≤ strLen value ∧ strLen value ≤ 4096) && !value.toList.any isAsciiControl

/-- `validate_remote_token`. -/
def validateRemoteToken (value : String) : Except Error Unit :=
  reject (!isRemoteToken value) .invalidRemoteToken

/-- `validate_revision`. -/
def validateRevision (value : String) : Except Error Unit :=
  reject (!isLowerHex64 value) .invalidRevision

/-- A code has 1 to 128 bytes, all of them characters of an id. -/
def isRedactedCode (value : String) : Bool :=
  decide (1 ≤ strLen value ∧ strLen value ≤ 128) && value.toList.all isIdChar

/-- `validate_redacted_code`. -/
def validateRedactedCode (value : String) : Except Error Unit :=
  reject (!isRedactedCode value) .invalidErrorCode

/-- A reference has 1 to 256 bytes, none of them upper-case, and names no directory. -/
def isPrivateReference (value : String) : Bool :=
  decide (1 ≤ strLen value ∧ strLen value ≤ 256) &&
    value.toList.all (fun c => c.isLower || c.isDigit || c == '-' || c == '_' || c == '.') &&
    value != "." && value != ".."

/-- `validate_private_reference`. -/
def validatePrivateReference (value : String) : Except Error Unit :=
  reject (!isPrivateReference value) .invalidTransferEvidence

/-- `u64_to_i64`: the number a SQLite column holds. -/
def u64ToI64 (value : ℕ) : Except Error Unit := reject (!fitsI64 value) .invalidTimestamp

/-- `collision_key`: the keys of the components, joined. -/
def collisionKey {u : Unicode} (path : VaultPath u) : Text :=
  joinSlash (path.components.map (componentCollisionKey u))

/-- The path is in the folder of Obsidian, under any spelling. -/
def isObsidianMetadata {u : Unicode} (path : VaultPath u) : Bool :=
  path.components.head?.any fun component =>
    componentCollisionKey u component == ".obsidian".toList

/-- The text is a portable path in its one spelling, and outside the two protected folders. -/
def isContentPath (u : Unicode) (value : String) : Bool :=
  (fromPortable u value.toList).any fun path =>
    let protectedRoot := (splitSlash (collisionKey path)).head?.any fun component =>
      component == ".obsidian".toList || component == ".trash".toList
    path.asStr == value.toList && !isObsidianMetadata path && !protectedRoot

/-- `validate_content_path`. -/
def validateContentPath (u : Unicode) (value : String) : Except Error Unit :=
  reject (!isContentPath u value) .invalidPortablePath

/-- A check of the values that are there. -/
def eachSome (f : String → Except Error Unit) (values : List (Option String)) :
    Except Error Unit :=
  each f (values.filterMap id)

/-- A digest and a size are there together or not at all. -/
def validateHashSizePair (hash : Option String) (size : Option ℕ) : Except Error Unit :=
  match hash, size with
  | none, none => .ok ()
  | some hash, some size => do
    validateRevision hash
    u64ToI64 size
  | _, _ => .error .invalidTransferEvidence

/-! ## What the checks say -/

theorem eachSome_eq_ok {f : String → Except Error Unit} {values : List (Option String)} :
    eachSome f values = .ok () ↔ ∀ value, some value ∈ values → f value = .ok () := by
  rw [eachSome, each_eq_ok]
  exact forall_congr' fun value => by rw [List.mem_filterMap]; simp

theorem validateRemoteId_eq_ok {value : String} :
    validateRemoteId value = .ok () ↔ isRemoteId value = true := by
  rw [validateRemoteId, reject_eq_ok, Bool.not_eq_true', Bool.not_eq_false]

theorem validateRevision_eq_ok {value : String} :
    validateRevision value = .ok () ↔ isLowerHex64 value = true := by
  rw [validateRevision, reject_eq_ok, Bool.not_eq_true', Bool.not_eq_false]

theorem validateRedactedCode_eq_ok {value : String} :
    validateRedactedCode value = .ok () ↔ isRedactedCode value = true := by
  rw [validateRedactedCode, reject_eq_ok, Bool.not_eq_true', Bool.not_eq_false]

theorem validatePrivateReference_eq_ok {value : String} :
    validatePrivateReference value = .ok () ↔ isPrivateReference value = true := by
  rw [validatePrivateReference, reject_eq_ok, Bool.not_eq_true', Bool.not_eq_false]

theorem validateContentPath_eq_ok {u : Unicode} {value : String} :
    validateContentPath u value = .ok () ↔ isContentPath u value = true := by
  rw [validateContentPath, reject_eq_ok, Bool.not_eq_true', Bool.not_eq_false]

theorem u64ToI64_eq_ok {value : ℕ} : u64ToI64 value = .ok () ↔ fitsI64 value = true := by
  rw [u64ToI64, reject_eq_ok, Bool.not_eq_true', Bool.not_eq_false]

/-! ## Remote metadata -/

/-- The digest has as many digits as its algorithm gives. -/
def RemoteContentHash.validate (hash : RemoteContentHash) : Except Error Unit :=
  reject (strLen hash.hex ≠ hash.algorithm.expectedHexLen ∨
    hash.hex.toList.all isLowerHexChar = false) .invalidRemoteEntry

section Records

variable (u : Unicode) (sha256 : Sha256)

/-- The entry is well formed. -/
def RemoteEntry.validate (entry : RemoteEntry) : Except Error Unit := do
  validateRemoteId entry.fileId
  validateRemoteId entry.parentId
  validateContentPath u entry.path
  validateRemoteToken entry.remoteRevision
  each RemoteContentHash.validate entry.contentHash.toList
  reject (entry.kind = .folder ∧ entry.contentHash.isSome = true) .invalidRemoteEntry

/-- The entries of the page are, and there are not too many. -/
def ScanPage.validate (page : ScanPage) : Except Error Unit := do
  reject (maxScanPageEntries < page.entries.length) .invalidRemoteEntry
  each (RemoteEntry.validate u) page.entries
  eachSome validateRemoteToken [page.nextPageToken]

/-- The change is well formed. -/
def RemoteChange.validate : RemoteChange → Except Error Unit
  | .upsert entry => entry.validate u
  | .removed fileId => validateRemoteId fileId

/-- The page is well formed: either more follows or a new start is given. -/
def ChangesPage.validate (page : ChangesPage) : Except Error Unit := do
  each (RemoteChange.validate u) page.changes
  match page.nextPageToken, page.newStartPageToken with
  | some next, none => validateRemoteToken next
  | none, some start => validateRemoteToken start
  | _, _ => .error .invalidRemoteEntry

/-- `VerifiedRemoteBinding::new`. -/
def VerifiedRemoteBinding.new (requestedAccountId requestedRemoteRootId observedAccountId
    observedRemoteRootId : String) : Except Error VerifiedRemoteBinding := do
  validateRemoteId requestedAccountId
  validateRemoteId requestedRemoteRootId
  validateRemoteId observedAccountId
  validateRemoteId observedRemoteRootId
  reject (requestedAccountId ≠ observedAccountId ∨ requestedRemoteRootId ≠ observedRemoteRootId)
    .bindingIdentityMismatch
  .ok { accountId := requestedAccountId, remoteRootId := requestedRemoteRootId }

/-! ## Jobs and transfers -/

/-- Only a move has a destination, and every move has one. -/
def QueueJob.validateDestination (job : QueueJob) : Except Error Unit :=
  match job.kind, job.destinationPath with
  | .move, some destination => validateContentPath u destination
  | .move, none | _, some _ => .error .invalidPortablePath
  | _, none => .ok ()

/-- The job is well formed. -/
def QueueJob.validate (job : QueueJob) : Except Error Unit := do
  reject job.operationId.isNil .queueCollision
  validateContentPath u job.path
  job.validateDestination u
  eachSome validateRemoteId [job.remoteFileId]
  reject (job.kind ≠ .upload ∧ job.remoteFileId = none) .invalidRemoteId
  eachSome validateRevision [job.expectedLocalRevision]
  eachSome validateRedactedCode [job.lastErrorCode]
  u64ToI64 job.nextAttemptAtUnixMs
  u64ToI64 job.createdAtUnixMs

/-- Both jobs ask for the same. -/
def QueueJob.sameRequest (job other : QueueJob) : Bool :=
  job.operationId == other.operationId && job.kind == other.kind && job.path == other.path &&
    job.destinationPath == other.destinationPath && job.remoteFileId == other.remoteFileId &&
    job.expectedLocalRevision == other.expectedLocalRevision &&
    job.createdAtUnixMs == other.createdAtUnixMs

/-- `portable_path.rsplit('/').next()`. -/
def displayNameOf (portablePath : String) : Text :=
  ((splitSlash portablePath.toList).getLast?).getD portablePath.toList

/-- The transfer is well formed. -/
def TransferRecord.validate (transfer : TransferRecord) : Except Error Unit := do
  reject transfer.operationId.isNil .invalidTransferEvidence
  validateContentPath u transfer.portablePath
  reject (transfer.displayName.toList ≠ displayNameOf transfer.portablePath)
    .invalidTransferEvidence
  validateRemoteId transfer.remoteParentId
  eachSome validateRemoteId [transfer.remoteFileId]
  reject (transfer.direction = .download ∧ transfer.remoteFileId = none) .invalidTransferEvidence
  reject (transfer.direction = .upload ∧
    (transfer.expectedLocalRevision = none ∨ transfer.stageReference = none))
    .invalidTransferEvidence
  eachSome validateRevision [transfer.expectedLocalRevision]
  eachSome validateRemoteId [transfer.expectedRemoteRevision]
  validateRevision transfer.sha256
  validateRemoteId transfer.operationMarker
  eachSome validatePrivateReference [transfer.stageReference, transfer.baseReference]
  eachSome validateRedactedCode [transfer.lastErrorCode]
  eachSome validateRevision [transfer.verifiedLocalRevision]
  eachSome validateRemoteId [transfer.verifiedRemoteRevision]
  u64ToI64 transfer.byteLength
  u64ToI64 transfer.nextAttemptAtUnixMs
  u64ToI64 transfer.createdAtUnixMs
  u64ToI64 transfer.updatedAtUnixMs
  reject (transfer.updatedAtUnixMs < transfer.createdAtUnixMs ∨
    (transfer.phase = .completed ∧
      (transfer.remoteFileId = none ∨ transfer.baseReference = none ∨
        transfer.verifiedLocalRevision = none ∨ transfer.verifiedRemoteRevision = none)))
    .invalidTransferEvidence

/-- Both transfers were registered for the same. -/
def TransferRecord.sameRegistration (transfer other : TransferRecord) : Bool :=
  transfer.operationId == other.operationId && transfer.direction == other.direction &&
    transfer.portablePath == other.portablePath &&
    transfer.remoteParentId == other.remoteParentId &&
    (other.remoteFileId.isNone || transfer.remoteFileId == other.remoteFileId) &&
    transfer.displayName == other.displayName &&
    transfer.expectedLocalRevision == other.expectedLocalRevision &&
    transfer.expectedRemoteRevision == other.expectedRemoteRevision &&
    transfer.sha256 == other.sha256 && transfer.byteLength == other.byteLength &&
    transfer.mimeClass == other.mimeClass &&
    transfer.operationMarker == other.operationMarker &&
    transfer.stageReference == other.stageReference &&
    (other.baseReference.isNone || transfer.baseReference == other.baseReference) &&
    transfer.createdAtUnixMs == other.createdAtUnixMs

/-- A transfer that nothing was done about. -/
def validateNewTransfer (transfer : TransferRecord) : Except Error Unit := do
  transfer.validate u
  reject (transfer.phase ≠ .pending ∨ transfer.attemptCount ≠ 0 ∨
    transfer.lastErrorCode ≠ none ∨ transfer.verifiedLocalRevision ≠ none ∨
    transfer.verifiedRemoteRevision ≠ none) .invalidTransferEvidence

/-- The completion is well formed. -/
def TransferCompletion.validate (completion : TransferCompletion) : Except Error Unit := do
  validateRemoteId completion.remoteFileId
  validateRemoteId completion.remoteRevision
  validateRevision completion.localRevision
  validatePrivateReference completion.baseReference
  validateRedactedCode completion.outcomeCode
  u64ToI64 completion.occurredAtUnixMs

/-! ## Mutations -/

/-- `validate_mutation_intent`. -/
def validateMutationIntent (intent : MutationIntent) : Except Error Unit := do
  reject intent.operationId.isNil .mutationCollision
  validateRedactedCode intent.operationMarker
  validateRevision intent.intentFingerprint
  reject (intent.intentFingerprint ≠ intent.canonicalFingerprint sha256) .invalidTransferEvidence
  eachSome validateRemoteId [intent.accountId, intent.remoteRootId, intent.remoteFileId,
    intent.sourceParentId, intent.destinationParentId]
  eachSome (validateContentPath u) [intent.sourcePath, intent.destinationPath]
  eachSome validateRemoteId [intent.expectedLocalRevision, intent.expectedRemoteRevision,
    intent.baseLocalRevision, intent.baseRemoteRevision]
  eachSome validatePrivateReference [intent.localObjectId, intent.baseReference]
  validateHashSizePair intent.baseSha256 intent.baseByteLength
  validateHashSizePair intent.expectedLocalSha256 intent.expectedLocalByteLength
  validateHashSizePair intent.expectedRemoteSha256 intent.expectedRemoteByteLength
  u64ToI64 intent.registeredAtUnixMs
  reject (intent.accountId.isSome ≠ intent.remoteRootId.isSome) .invalidTransferEvidence
  reject (intent.operationKind = .remoteExistingBlocked ∧
    (intent.accountId = none ∨ intent.remoteRootId = none ∨ intent.remoteFileId = none ∨
      intent.sourceParentId = none ∨ intent.sourcePath = none ∨
      intent.expectedRemoteRevision = none)) .invalidTransferEvidence
  -- a blocked intent has the whole base or none of it
  reject (intent.operationKind = .remoteExistingBlocked ∧
    ¬ ((intent.baseLocalRevision = none ∧ intent.baseRemoteRevision = none ∧
        intent.baseSha256 = none ∧ intent.baseByteLength = none) ∨
      (intent.baseLocalRevision.isSome = true ∧ intent.baseRemoteRevision.isSome = true ∧
        intent.baseSha256.isSome = true ∧ intent.baseByteLength.isSome = true)))
    .invalidTransferEvidence

/-- `validate_mutation_evidence`. -/
def validateMutationEvidence (evidence : MutationVerificationEvidence) : Except Error Unit := do
  reject (evidence.evidenceId.isNil || evidence.operationId.isNil) .invalidTransferEvidence
  u64ToI64 evidence.attemptNumber
  validateRevision evidence.evidenceFingerprint
  reject (evidence.evidenceFingerprint ≠ evidence.canonicalFingerprint sha256)
    .invalidTransferEvidence
  u64ToI64 evidence.capturedAtUnixMs
  eachSome validateRedactedCode [evidence.outcomeCode]
  reject (evidence.disposition = .needsReconcile ∧ evidence.outcomeCode = none)
    .invalidTransferEvidence
  eachSome validateRemoteId [evidence.observedAccountId, evidence.observedRemoteRootId,
    evidence.observedRemoteFileId, evidence.observedParentId, evidence.observedLocalRevision,
    evidence.observedRemoteRevision]
  eachSome (validateContentPath u) [evidence.observedPath]
  validateHashSizePair evidence.observedSha256 evidence.observedByteLength
  eachSome validateRedactedCode [evidence.observedOperationMarker]
  each u64ToI64 evidence.verifiedReceivedByteOffset.toList
  eachSome validatePrivateReference [evidence.resumeReference]

/-- `validate_conflict_evidence`. -/
def validateConflictEvidence (evidence : ConflictEvidence) : Except Error Unit := do
  reject evidence.operationId.isNil .mutationCollision
  each validateRedactedCode [evidence.conflictId, evidence.stableCellId,
    evidence.localStateCode, evidence.remoteStateCode, evidence.contentClass,
    evidence.lineageState, evidence.classificationCode, evidence.ambiguityReason,
    evidence.evidenceSufficiency, evidence.namingVersion, evidence.normalizedCollisionKey]
  validateRemoteId evidence.targetParentId
  eachSome validateRedactedCode [evidence.explanationCode]
  eachSome validateRedactedCode [evidence.deviceAlias]
  reject (evidence.conflictCopyOperationId.any Uuid.isNil) .mutationCollision
  reject ([evidence.baseEvidenceId, evidence.localEvidenceId, evidence.remoteEvidenceId].any
    fun id => id.any Uuid.isNil) .invalidTransferEvidence
  validateHashSizePair evidence.baseSha256 evidence.baseByteLength
  validateHashSizePair evidence.localSha256 evidence.localByteLength
  validateHashSizePair evidence.remoteSha256 evidence.remoteByteLength
  validateHashSizePair evidence.expectedConflictCopySha256 evidence.expectedConflictCopyByteLength
  reject (evidence.conflictCopyOperationId.isSome ∧ evidence.expectedConflictCopySha256 = none)
    .invalidTransferEvidence
  validateRevision evidence.evidenceFingerprint
  reject (evidence.evidenceFingerprint ≠ evidence.canonicalFingerprint sha256)
    .invalidTransferEvidence
  u64ToI64 evidence.capturedAtUnixMs

end Records

end Store
end MyVault
