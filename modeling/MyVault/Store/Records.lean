import MyVault.Core.Identifiers

/-!
# The durable records of the sync store

The records `store.rs` and `lib.rs` persist and exchange, and the fingerprints
the store computes from them.  A `u64` or `u32` field is a natural number: the
store checks every one of them against the `i64` a SQLite column holds.
-/

namespace MyVault
namespace Store

/-! ## Remote metadata -/

/-- A file or a folder. -/
inductive RemoteEntryKind where
  | file
  | folder
  deriving DecidableEq, Repr

/-- The digests that the provider may give. -/
inductive RemoteHashAlgorithm where
  | md5
  | sha1
  | sha256
  deriving DecidableEq, Repr

/-- How many hex digits a digest has. -/
def RemoteHashAlgorithm.expectedHexLen : RemoteHashAlgorithm → ℕ
  | .md5 => 32
  | .sha1 => 40
  | .sha256 => 64

/-- A digest that the provider gives. -/
structure RemoteContentHash where
  algorithm : RemoteHashAlgorithm
  hex : String
  deriving DecidableEq, Repr

/-- A file or folder below the bound root. -/
structure RemoteEntry where
  fileId : String
  parentId : String
  path : String
  kind : RemoteEntryKind
  contentHash : Option RemoteContentHash
  remoteRevision : String
  deriving DecidableEq, Repr

/-- A page of a folder. -/
structure ScanPage where
  entries : List RemoteEntry
  nextPageToken : Option String
  deriving DecidableEq, Repr

/-- A change of an entry. -/
inductive RemoteChange where
  | upsert (entry : RemoteEntry)
  | removed (fileId : String)
  deriving DecidableEq, Repr

/-- A page of changes. -/
structure ChangesPage where
  changes : List RemoteChange
  nextPageToken : Option String
  newStartPageToken : Option String
  deriving DecidableEq, Repr

/-- The account and the root a native provider has proven. -/
structure VerifiedRemoteBinding where
  accountId : String
  remoteRootId : String
  deriving DecidableEq, Repr

/-- How far the store has got with the remote tree. -/
inductive SyncPhase where
  | needStartToken
  | scanning
  | draining
  | ready
  deriving DecidableEq, Repr

/-- The binding of the vault, and the tokens of the scan and the changes. -/
structure VaultSyncState where
  vaultId : Uuid
  accountId : Option String
  remoteRootId : String
  phase : SyncPhase
  startToken : Option String
  scanPageToken : Option String
  changesPageToken : Option String
  durableCursor : Option String
  rescanRequired : Bool
  updatedAtUnixMs : ℕ
  deriving DecidableEq

/-! ## Queue jobs -/

/-- What a job does. -/
inductive QueueJobKind where
  | upload
  | download
  | move
  | trash
  deriving DecidableEq, Repr

/-- The state of a job. -/
inductive JobState where
  | pending
  | running
  | retryScheduled
  | needsReconcile
  | completed
  deriving DecidableEq, Repr

/-- A job of the queue. -/
structure QueueJob where
  operationId : Uuid
  kind : QueueJobKind
  path : String
  destinationPath : Option String
  remoteFileId : Option String
  expectedLocalRevision : Option String
  state : JobState
  attemptCount : ℕ
  nextAttemptAtUnixMs : ℕ
  createdAtUnixMs : ℕ
  lastErrorCode : Option String
  deriving DecidableEq

/-- What an enqueue has found. -/
inductive EnqueueOutcome where
  | enqueued
  | alreadyPresent
  | alreadyCompleted
  deriving DecidableEq, Repr

/-! ## Transfers -/

/-- The direction of a transfer. -/
inductive TransferDirection where
  | upload
  | download
  deriving DecidableEq, Repr

/-- What kind of file is transferred. -/
inductive TransferMimeClass where
  | markdown
  | blob
  deriving DecidableEq, Repr

/-- The phase of a transfer. -/
inductive TransferPhase where
  | pending
  | running
  | retryScheduled
  | authRequired
  | needsReconcile
  | completed
  deriving DecidableEq, Repr

/-- A transfer, as it was registered and as it stands. -/
structure TransferRecord where
  operationId : Uuid
  direction : TransferDirection
  portablePath : String
  remoteParentId : String
  remoteFileId : Option String
  displayName : String
  expectedLocalRevision : Option String
  expectedRemoteRevision : Option String
  sha256 : String
  byteLength : ℕ
  mimeClass : TransferMimeClass
  operationMarker : String
  stageReference : Option String
  baseReference : Option String
  phase : TransferPhase
  attemptCount : ℕ
  nextAttemptAtUnixMs : ℕ
  createdAtUnixMs : ℕ
  updatedAtUnixMs : ℕ
  lastErrorCode : Option String
  verifiedLocalRevision : Option String
  verifiedRemoteRevision : Option String
  deriving DecidableEq

/-- What a registration has found. -/
inductive TransferRegistrationOutcome where
  | registered
  | alreadyPresent
  | alreadyCompleted
  deriving DecidableEq, Repr

/-- What a completed transfer has left on both sides. -/
structure TransferCompletion where
  remoteFileId : String
  remoteRevision : String
  localRevision : String
  baseReference : String
  outcomeCode : String
  occurredAtUnixMs : ℕ
  deriving DecidableEq, Repr

/-- What a completion has found. -/
inductive TransferCompletionOutcome where
  | completed
  | alreadyCompleted
  deriving DecidableEq, Repr

/-! ## Mutations -/

/-- Immutable R3 mutation kind. -/
inductive MutationOperationKind where
  | localPublish
  | mergePublish
  | conflictCopyPublish
  | basePublish
  | remoteExistingBlocked
  deriving DecidableEq, Repr

/-- The text of a kind in the table. -/
def MutationOperationKind.asStr : MutationOperationKind → String
  | .localPublish => "local_publish"
  | .mergePublish => "merge_publish"
  | .conflictCopyPublish => "conflict_copy_publish"
  | .basePublish => "base_publish"
  | .remoteExistingBlocked => "remote_existing_blocked"

/-- The phase of an intent. -/
inductive MutationPhase where
  | intentDurable
  | running
  | retryScheduled
  | needsReconcile
  | completed
  deriving DecidableEq, Repr

/-- What the evidence says about an operation. -/
inductive MutationDisposition where
  | verifiedApplied
  | verifiedNotApplied
  | retrySafe
  | needsReconcile
  deriving DecidableEq, Repr

/-- The text of a disposition in the table. -/
def MutationDisposition.asStr : MutationDisposition → String
  | .verifiedApplied => "verified_applied"
  | .verifiedNotApplied => "verified_not_applied"
  | .retrySafe => "retry_safe"
  | .needsReconcile => "needs_reconcile"

/-- How an operation may be tried again. -/
inductive MutationRetryMode where
  | restartExact
  | resumeExact
  deriving DecidableEq, Repr

/-- When evidence was captured. -/
inductive MutationEvidenceCapturePhase where
  | preflight
  | postVerify
  | reconcile
  deriving DecidableEq, Repr

/-- The text of a capture phase in the table. -/
def MutationEvidenceCapturePhase.asStr : MutationEvidenceCapturePhase → String
  | .preflight => "preflight"
  | .postVerify => "post_verify"
  | .reconcile => "reconcile"

/-- Immutable fields that identify one R3 operation. -/
structure MutationIntent where
  operationId : Uuid
  operationKind : MutationOperationKind
  accountId : Option String
  remoteRootId : Option String
  remoteFileId : Option String
  sourceParentId : Option String
  destinationParentId : Option String
  localObjectId : Option String
  sourcePath : Option String
  destinationPath : Option String
  expectedLocalRevision : Option String
  expectedRemoteRevision : Option String
  baseReference : Option String
  baseLocalRevision : Option String
  baseRemoteRevision : Option String
  baseSha256 : Option String
  baseByteLength : Option ℕ
  expectedLocalSha256 : Option String
  expectedLocalByteLength : Option ℕ
  expectedRemoteSha256 : Option String
  expectedRemoteByteLength : Option ℕ
  operationMarker : String
  intentFingerprint : String
  registeredAtUnixMs : ℕ
  deriving DecidableEq

/-- The state of an intent. -/
structure MutationState where
  operationId : Uuid
  phase : MutationPhase
  attemptNumber : ℕ
  stateVersion : ℕ
  disposition : Option MutationDisposition
  nextAttemptAtUnixMs : Option ℕ
  retryMode : Option MutationRetryMode
  resumeReference : Option String
  lastEvidenceId : Option Uuid
  outcomeCode : Option String
  updatedAtUnixMs : ℕ
  deriving DecidableEq

/-- What was observed of an operation. -/
structure MutationVerificationEvidence where
  evidenceId : Uuid
  operationId : Uuid
  attemptNumber : ℕ
  capturePhase : MutationEvidenceCapturePhase
  disposition : MutationDisposition
  outcomeCode : Option String
  observedAccountId : Option String
  observedRemoteRootId : Option String
  observedRemoteFileId : Option String
  observedParentId : Option String
  observedPath : Option String
  observedLocalRevision : Option String
  observedRemoteRevision : Option String
  observedSha256 : Option String
  observedByteLength : Option ℕ
  observedOperationMarker : Option String
  forbiddenSideEffect : Bool
  verifiedReceivedByteOffset : Option ℕ
  resumeReference : Option String
  evidenceFingerprint : String
  capturedAtUnixMs : ℕ
  deriving DecidableEq

/-- An entry of the log of an intent. -/
structure MutationEvent where
  eventId : ℕ
  operationId : Uuid
  attemptNumber : ℕ
  stateVersion : ℕ
  phase : MutationPhase
  disposition : Option MutationDisposition
  evidenceId : Option Uuid
  outcomeCode : Option String
  occurredAtUnixMs : ℕ
  deriving DecidableEq

/-- What a registration has found. -/
inductive MutationRegistrationOutcome where
  | registered
  | alreadyPresent
  | alreadyCompleted
  deriving DecidableEq, Repr

/-- The outcomes that may be recorded. -/
inductive MutationOutcomeTransition where
  | verifiedApplied
  | verifiedNotApplied (nextAttemptAtUnixMs : ℕ)
  | retrySafe (nextAttemptAtUnixMs : ℕ) (resumeReference : String)
  | needsReconcile
  deriving DecidableEq, Repr

/-- Immutable conflict-classification envelope. -/
structure ConflictEvidence where
  conflictId : String
  operationId : Uuid
  stableCellId : String
  localStateCode : String
  remoteStateCode : String
  contentClass : String
  lineageState : String
  classificationCode : String
  ambiguityReason : String
  evidenceSufficiency : String
  conflictCopyOperationId : Option Uuid
  baseEvidenceId : Option Uuid
  localEvidenceId : Option Uuid
  remoteEvidenceId : Option Uuid
  baseSha256 : Option String
  baseByteLength : Option ℕ
  localSha256 : Option String
  localByteLength : Option ℕ
  remoteSha256 : Option String
  remoteByteLength : Option ℕ
  namingVersion : String
  normalizedCollisionKey : String
  targetParentId : String
  expectedConflictCopySha256 : Option String
  expectedConflictCopyByteLength : Option ℕ
  explanationCode : Option String
  deviceAlias : Option String
  evidenceFingerprint : String
  capturedAtUnixMs : ℕ
  deriving DecidableEq

/-- What a registration has found. -/
inductive ConflictEvidenceRegistrationOutcome where
  | registered
  | alreadyPresent
  deriving DecidableEq, Repr

/-! ## Change batches -/

/-- The state of a mutation of a batch. -/
inductive LocalMutationState where
  | pending
  | applying
  | needsReconcile
  | committed
  deriving DecidableEq, Repr

/-- Typed R3 cursor dependency. -/
inductive ChangeBatchDependencyKind where
  | mutation
  | mergePublication
  | conflictCopyPublication
  | basePublication
  deriving DecidableEq, Repr

/-- The kind of the operation that a dependency waits for. -/
def ChangeBatchDependencyKind.requiredOperationKind :
    ChangeBatchDependencyKind → MutationOperationKind
  | .mutation => .localPublish
  | .mergePublication => .mergePublish
  | .conflictCopyPublication => .conflictCopyPublish
  | .basePublication => .basePublish

/-- An operation that a batch waits for. -/
structure ChangeBatchDependency where
  operationId : Uuid
  kind : ChangeBatchDependencyKind
  deriving DecidableEq

/-- The open batch, with what its mutations have come to. -/
structure ChangeBatch where
  batchId : Uuid
  expectedCursor : String
  nextCursor : String
  declaredMutations : ℕ
  applyingMutations : ℕ
  committedMutations : ℕ
  deriving DecidableEq

/-- What a binding has found. -/
inductive BindOutcome where
  | created
  | alreadyBound
  | legacyBindingConfirmed
  deriving DecidableEq, Repr

/-! ## Fingerprints -/

/-- The bytes `append_canonical_bytes` feeds to the digest. -/
def canonicalBytes (value : String) : List UInt8 := u64Be (strLen value) ++ strBytes value

/-- The bytes of the fields of `canonical_fingerprint`. -/
def canonicalFields (fields : List (String × Option String)) : List UInt8 :=
  fields.flatMap fun field =>
    canonicalBytes field.1 ++
      match field.2 with
      | some value => 1 :: canonicalBytes value
      | none => [0]

/-- `canonical_fingerprint`. -/
def canonicalFingerprint (sha256 : Sha256) (domain : String)
    (fields : List (String × Option String)) : String :=
  hexSha256 sha256 (canonicalBytes domain ++ canonicalFields fields)

/-- What is hashed of an intent. -/
def MutationIntent.canonicalFields (intent : MutationIntent) : List (String × Option String) :=
  [("operation_kind", some intent.operationKind.asStr),
    ("account_id", intent.accountId),
    ("remote_root_id", intent.remoteRootId),
    ("remote_file_id", intent.remoteFileId),
    ("source_parent_id", intent.sourceParentId),
    ("destination_parent_id", intent.destinationParentId),
    ("local_object_id", intent.localObjectId),
    ("source_path", intent.sourcePath),
    ("destination_path", intent.destinationPath),
    ("expected_local_revision", intent.expectedLocalRevision),
    ("expected_remote_revision", intent.expectedRemoteRevision),
    ("base_reference", intent.baseReference),
    ("base_local_revision", intent.baseLocalRevision),
    ("base_remote_revision", intent.baseRemoteRevision),
    ("base_sha256", intent.baseSha256),
    ("base_byte_length", intent.baseByteLength.map toString),
    ("expected_local_sha256", intent.expectedLocalSha256),
    ("expected_local_byte_length", intent.expectedLocalByteLength.map toString),
    ("expected_remote_sha256", intent.expectedRemoteSha256),
    ("expected_remote_byte_length", intent.expectedRemoteByteLength.map toString),
    ("operation_marker", some intent.operationMarker)]

/-- The fingerprint of the immutable correctness fields. -/
def MutationIntent.canonicalFingerprint (sha256 : Sha256) (intent : MutationIntent) : String :=
  Store.canonicalFingerprint sha256 "r3-mutation-intent-v1" intent.canonicalFields

/-- What is hashed of evidence. -/
def MutationVerificationEvidence.canonicalFields (evidence : MutationVerificationEvidence) :
    List (String × Option String) :=
  [("operation_id", some evidence.operationId.toHyphenated),
    ("attempt_number", some (toString evidence.attemptNumber)),
    ("capture_phase", some evidence.capturePhase.asStr),
    ("disposition", some evidence.disposition.asStr),
    ("outcome_code", evidence.outcomeCode),
    ("observed_account_id", evidence.observedAccountId),
    ("observed_remote_root_id", evidence.observedRemoteRootId),
    ("observed_remote_file_id", evidence.observedRemoteFileId),
    ("observed_parent_id", evidence.observedParentId),
    ("observed_path", evidence.observedPath),
    ("observed_local_revision", evidence.observedLocalRevision),
    ("observed_remote_revision", evidence.observedRemoteRevision),
    ("observed_sha256", evidence.observedSha256),
    ("observed_byte_length", evidence.observedByteLength.map toString),
    ("observed_operation_marker", evidence.observedOperationMarker),
    ("forbidden_side_effect", some (if evidence.forbiddenSideEffect then "1" else "0")),
    ("verified_received_byte_offset", evidence.verifiedReceivedByteOffset.map toString),
    ("resume_reference", evidence.resumeReference)]

/-- The fingerprint of an evidence record; the capture time is not part of it. -/
def MutationVerificationEvidence.canonicalFingerprint (sha256 : Sha256)
    (evidence : MutationVerificationEvidence) : String :=
  Store.canonicalFingerprint sha256 "r3-mutation-evidence-v1" evidence.canonicalFields

/-- What is hashed of the evidence of a conflict. -/
def ConflictEvidence.canonicalFields (evidence : ConflictEvidence) :
    List (String × Option String) :=
  [("conflict_id", some evidence.conflictId),
    ("operation_id", some evidence.operationId.toHyphenated),
    ("stable_cell_id", some evidence.stableCellId),
    ("local_state_code", some evidence.localStateCode),
    ("remote_state_code", some evidence.remoteStateCode),
    ("content_class", some evidence.contentClass),
    ("lineage_state", some evidence.lineageState),
    ("classification_code", some evidence.classificationCode),
    ("ambiguity_reason", some evidence.ambiguityReason),
    ("evidence_sufficiency", some evidence.evidenceSufficiency),
    ("conflict_copy_operation_id", evidence.conflictCopyOperationId.map Uuid.toHyphenated),
    ("base_evidence_id", evidence.baseEvidenceId.map Uuid.toHyphenated),
    ("local_evidence_id", evidence.localEvidenceId.map Uuid.toHyphenated),
    ("remote_evidence_id", evidence.remoteEvidenceId.map Uuid.toHyphenated),
    ("base_sha256", evidence.baseSha256),
    ("base_byte_length", evidence.baseByteLength.map toString),
    ("local_sha256", evidence.localSha256),
    ("local_byte_length", evidence.localByteLength.map toString),
    ("remote_sha256", evidence.remoteSha256),
    ("remote_byte_length", evidence.remoteByteLength.map toString),
    ("naming_version", some evidence.namingVersion),
    ("normalized_collision_key", some evidence.normalizedCollisionKey),
    ("target_parent_id", some evidence.targetParentId),
    ("expected_conflict_copy_sha256", evidence.expectedConflictCopySha256),
    ("expected_conflict_copy_byte_length", evidence.expectedConflictCopyByteLength.map toString),
    ("explanation_code", evidence.explanationCode)]

/-- The fingerprint of an envelope without its device and time metadata. -/
def ConflictEvidence.canonicalFingerprint (sha256 : Sha256) (evidence : ConflictEvidence) :
    String :=
  Store.canonicalFingerprint sha256 "r3-conflict-evidence-v1" evidence.canonicalFields

end Store
end MyVault
