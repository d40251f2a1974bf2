import MyVault.Drive.Transfer
import MyVault.Transfer.Worker
import MyVault.Vault.Creation

/-!
# One attempt of an upload

`execute_upload` of the native executor, `src-tauri/src/transfer_runtime.rs`.  What the vault
and the private stage answer is a `LocalSide`; the requests go to the provider.  The loop over
the chunks has no bound of its own: a provider whose answers are lost again and again keeps it
going.  It runs on so many turns here, and a run that has used them up is one whose process
ends before it is done.
-/

namespace MyVault
namespace Drive

/-- The code of an error of the client in the tables. -/
def ErrorCode.asStr : ErrorCode → String
  | .invalidInput => "drive_invalid_input"
  | .transport => "drive_transport"
  | .timeout => "drive_timeout"
  | .redirectRejected => "drive_redirect_rejected"
  | .responseTooLarge => "drive_response_too_large"
  | .malformedResponse => "drive_malformed_response"
  | .unauthorized => "drive_unauthorized"
  | .forbidden => "drive_forbidden"
  | .notFound => "drive_not_found"
  | .cursorExpired => "cursor_expired"
  | .cursorAmbiguous => "cursor_ambiguous"
  | .incompleteSearch => "drive_incomplete_search"
  | .rateLimited => "drive_rate_limited"
  | .transientProvider => "drive_transient_provider"
  | .providerRejected => "drive_provider_rejected"
  | .invalidAccount => "drive_invalid_account"
  | .invalidRoot => "drive_invalid_root"
  | .unexpectedOrigin => "drive_unexpected_origin"
  | .hashMismatch => "drive_hash_mismatch"
  | .revisionMismatch => "drive_revision_mismatch"
  | .sessionExpired => "drive_session_expired"
  | .rangeRejected => "drive_range_rejected"
  | .existingDifferentContent => "drive_existing_different_content"
  | .ambiguousRemote => "drive_ambiguous_remote"
  | .localIo => "drive_local_io"

end Drive

namespace Transfer

open Drive Program

/-! ## Failures -/

/-- The errors of the private store and of the vault. -/
inductive NativeTransferError where
  | invalidRequest
  | protectedPath
  | staleRevision
  | unsupportedReplace
  | digestMismatch
  | resourceLimit
  | stageUnavailable
  | stageAlreadyExists
  | privateStoreUnavailable
  | publicationUnknown
  | vaultUnavailable
  deriving DecidableEq, Repr

/-- The code of such an error in the tables. -/
def NativeTransferError.code : NativeTransferError → String
  | .invalidRequest => "local_invalid_request"
  | .protectedPath => "local_protected_path"
  | .staleRevision => "local_stale_revision"
  | .unsupportedReplace => "local_replace_unsupported"
  | .digestMismatch => "local_digest_mismatch"
  | .resourceLimit => "local_resource_limit"
  | .stageUnavailable => "local_stage_unavailable"
  | .stageAlreadyExists => "local_stage_collision"
  | .privateStoreUnavailable => "local_private_store_unavailable"
  | .publicationUnknown => "local_publication_unknown"
  | .vaultUnavailable => "local_vault_unavailable"

/-- The request may have arrived. -/
def isUnknownTransport (code : ErrorCode) : Bool :=
  code == .transport || code == .timeout || code == .transientProvider

/-- What to do after an error of the client; where it may have had an effect that is less. -/
def classifyDriveFailure (code : ErrorCode) (sideEffectPossible : Bool) : ExecutionFailureKind :=
  if code = .unauthorized then if sideEffectPossible = true then .needsReconcile else .authRequired
  else if code = .rateLimited then .rateLimited
  else if code = .transport ∧ sideEffectPossible = false then .offline
  else if isUnknownTransport code = true then
    if sideEffectPossible = true then .transientUnknown else .transientSafe
  else .needsReconcile

/-- The hint of a rate limit, in milliseconds. -/
def retryAfterOf (kind : ExecutionFailureKind) (error : DriveError) : Option ℕ :=
  (error.retryAfterSeconds.map (· * 1000)).filter fun _ => kind == .rateLimited

/-- Every code of the adapter may stand in a failure. -/
theorem validateRedactedCode_asStr (code : ErrorCode) :
    validateRedactedCode code.asStr = .ok () := by
  cases code <;> decide +kernel

theorem validateFailure_drive (kind : ExecutionFailureKind) (error : DriveError) :
    validateFailure kind error.code.asStr (retryAfterOf kind error) = .ok () := by
  rw [validateFailure, validateRedactedCode_asStr, Check.ok_bind, Check.reject_eq_ok,
    retryAfterOf]
  rintro ⟨hkind, hsome⟩
  rw [Option.isSome_filter, Option.any_eq_true] at hsome
  obtain ⟨_, -, hlimited⟩ := hsome
  exact hkind (beq_iff_eq.mp hlimited)

/-- The failure for an error of the client. -/
def driveFailure (error : DriveError) (sideEffectPossible : Bool) : ExecutionFailure where
  kind := classifyDriveFailure error.code sideEffectPossible
  code := error.code.asStr
  retryAfter := retryAfterOf (classifyDriveFailure error.code sideEffectPossible) error
  valid := validateFailure_drive _ _

theorem validateFailure_local (error : NativeTransferError) :
    validateFailure .needsReconcile error.code none = .ok () := by
  cases error <;> decide +kernel

/-- The failure for an error on this device. -/
def localFailure (error : NativeTransferError) : ExecutionFailure where
  kind := .needsReconcile
  code := error.code
  retryAfter := none
  valid := validateFailure_local error

/-- `failure(NeedsReconcile, code, None)`. -/
def reconcileFailure (code : String) (valid : validateFailure .needsReconcile code none = .ok ()) :
    ExecutionFailure := { kind := .needsReconcile, code, retryAfter := none, valid }

/-! The codes of the failures pass their check. -/

theorem validateFailure_codes :
    ∀ code ∈ ["local_source_changed", "local_source_changed_after_stage",
      "stage_reference_mismatch", "local_revision_missing", "transfer_size_invalid",
      "stage_chunk_length_mismatch"], validateFailure .needsReconcile code none = .ok () := by
  decide +kernel

theorem valid_sourceChanged :
    validateFailure .needsReconcile "local_source_changed" none = .ok () :=
  validateFailure_codes _ (by simp)

theorem valid_sourceChangedAfterStage :
    validateFailure .needsReconcile "local_source_changed_after_stage" none = .ok () :=
  validateFailure_codes _ (by simp)

theorem valid_stageReference :
    validateFailure .needsReconcile "stage_reference_mismatch" none = .ok () :=
  validateFailure_codes _ (by simp)

theorem valid_revisionMissing :
    validateFailure .needsReconcile "local_revision_missing" none = .ok () :=
  validateFailure_codes _ (by simp)

theorem valid_sizeInvalid :
    validateFailure .needsReconcile "transfer_size_invalid" none = .ok () :=
  validateFailure_codes _ (by simp)

theorem valid_chunkLength :
    validateFailure .needsReconcile "stage_chunk_length_mismatch" none = .ok () :=
  validateFailure_codes _ (by simp)

/-- Why an attempt gives nothing: it has failed, or the process has ended. -/
inductive Interrupted where
  | failed (failure : ExecutionFailure)
  | crashed

/-- `map_err` with `drive_failure`. -/
def interrupted (sideEffectPossible : Bool) : Stopped → Interrupted
  | .failed error => .failed (driveFailure error sideEffectPossible)
  | .crashed => .crashed

/-! ## The attempt -/

/-- A stage, and what it held when it was verified. -/
structure TransferStageRef where
  operationId : Uuid
  snapshot : Vault.Stepwise.ContentSnapshot
  deriving DecidableEq

/-- What the vault and the private stage answer in an attempt. -/
structure LocalSide where
  loadTransferStage : Except NativeTransferError TransferStageRef
  sourceBeforeDiscard : Except NativeTransferError Vault.Stepwise.ContentSnapshot
  discardIncompleteTransferStage : Except NativeTransferError Unit
  stageTransferSource : Except NativeTransferError TransferStageRef
  currentSource : Except NativeTransferError Vault.Stepwise.ContentSnapshot
  /-- By the requests so far, the offset and the length. -/
  readVerifiedStageChunk : ℕ → ℕ → ℕ → Except NativeTransferError (List UInt8)
  /-- The reference of the base. -/
  publishVerifiedStageAsBase : Except NativeTransferError String

/-- The stage that there is, or a new one. -/
def stageFor (side : LocalSide) (intent : TransferIntent) (expectedLocalRevision : String) :
    Except ExecutionFailure TransferStageRef :=
  match side.loadTransferStage with
  | .ok stage => .ok stage
  | .error .stageUnavailable => side.stageTransferSource.mapError localFailure
  | .error .digestMismatch =>
    if intent.attemptCount = 0 then .error (localFailure .digestMismatch)
    else do
      let currentSource ← side.sourceBeforeDiscard.mapError localFailure
      Check.reject (currentSource.revision.hex ≠ expectedLocalRevision ∨
        currentSource.sha256 ≠ intent.sha256Hex ∨ currentSource.revision.byteLen ≠ intent.byteLen)
        (reconcileFailure "local_source_changed" valid_sourceChanged)
      side.discardIncompleteTransferStage.mapError localFailure
      side.stageTransferSource.mapError localFailure
  | .error error => .error (localFailure error)

/-- The stage is that of the intent. -/
def validateStage (intent : TransferIntent) (stage : TransferStageRef) :
    Except ExecutionFailure Unit :=
  Check.reject (stage.operationId ≠ intent.operationId ∨
    stage.snapshot.sha256 ≠ intent.sha256Hex ∨ stage.snapshot.revision.byteLen ≠ intent.byteLen)
    (reconcileFailure "stage_evidence_mismatch" (by decide +kernel))

/-- The stage, checked against the intent and the source. -/
def checkedStage (side : LocalSide) (intent : TransferIntent) :
    Except ExecutionFailure (TransferStageRef × String) := do
  Check.reject (intent.stageRef ≠ some ("stage-" ++ intent.operationId.toHyphenated))
    (reconcileFailure "stage_reference_mismatch" valid_stageReference)
  match intent.expectedLocalRevision with
  | none => .error (reconcileFailure "local_revision_missing" valid_revisionMissing)
  | some expectedLocalRevision => do
    let stage ← stageFor side intent expectedLocalRevision
    validateStage intent stage
    Check.reject (stage.snapshot.revision.hex ≠ expectedLocalRevision)
      (reconcileFailure "local_source_changed" valid_sourceChanged)
    let currentSource ← side.currentSource.mapError localFailure
    Check.reject (currentSource ≠ stage.snapshot)
      (reconcileFailure "local_source_changed_after_stage" valid_sourceChangedAfterStage)
    .ok (stage, expectedLocalRevision)

/-- The last component of the path. -/
def TransferIntent.displayName (intent : TransferIntent) : String :=
  String.ofList ((splitSlash intent.path.toList).getLastD [])

/-- The MIME type of a kind. -/
def ContentKind.mimeType : ContentKind → String
  | .markdown => "text/markdown"
  | .blob => "application/octet-stream"

/-- The file that an upload is to create. -/
def TransferIntent.createIntent (intent : TransferIntent) : CreateIntent where
  parentId := intent.parentId
  name := intent.displayName
  mimeType := intent.contentKind.mimeType
  operationMarker := intent.operationMarker
  sha256 := intent.sha256Hex
  size := intent.byteLen

/-- `VerifiedTransfer::new`. -/
def VerifiedTransfer.new (evidence : TransferEvidence) : Except Error VerifiedTransfer :=
  if valid : evidence.validate = .ok () then .ok { evidence with valid }
  else .error .invalidEvidence

/-- Steps of an upload, on what the provider has. -/
abbrev UploadProgram (α : Type) := Program Remote Interrupted α

section Attempt

variable (drive : TransferDrive) (provider : Provider) (net : ℕ → Turn) (side : LocalSide)

/-- A file that the intent has observed is still as it was. -/
def inspectObserved (intent : TransferIntent) : UploadProgram Unit :=
  match intent.remoteFileId with
  | none => pure ()
  | some observedFileId =>
    match intent.expectedRemoteRevision with
    | none =>
      throw (.failed (reconcileFailure "observed_remote_revision_missing" (by decide +kernel)))
    | some observedRevision => do
      let _ ← mapError (interrupted false) (drive.inspectDownloadCandidate provider net
        observedFileId intent.parentId intent.displayName observedRevision)
      pure ()

/-- A chunk, and the question how far it got if that is unknown. -/
def chunkProgress (session : UploadSession) (bytes : List UInt8) :
    UploadProgram UploadProgress := do
  match ← catching (drive.uploadChunk provider net session bytes) with
  | .ok progress => pure progress
  | .error .crashed => throw .crashed
  | .error (.failed error) =>
    if isUnknownTransport error.code = true then
      mapError (interrupted true) (drive.queryUploadStatus provider net session)
    else throw (.failed (driveFailure error true))

/-- The next chunk, as it is planned and read. -/
def nextChunk (session : UploadSession) : UploadProgram (List UInt8) := do
  let plan ← lift ((planResumableUploadChunk session.intent.size session.nextOffset).mapError
    fun _ => .failed (reconcileFailure "transfer_size_invalid" valid_sizeInvalid))
  let now ← read Remote.requests
  let bytes ← lift ((side.readVerifiedStageChunk now plan.offset
    (if session.intent.size = 0 then 1 else plan.byteLen)).mapError
      fun error => .failed (localFailure error))
  Program.reject (bytes.length ≠ plan.byteLen)
    (.failed (reconcileFailure "stage_chunk_length_mismatch" valid_chunkLength))
  pure bytes

/-- The loop over the chunks. -/
def uploadLoop : ℕ → UploadSession → UploadProgram RemoteObject
  | 0, _ => throw .crashed
  | turns + 1, session => do
    let bytes ← nextChunk side session
    match ← chunkProgress drive provider net session bytes with
    | .complete remote => pure remote
    | .inProgress nextOffset => uploadLoop turns { session with nextOffset }

/-- What follows a permit. -/
def createAndVerify (turns : ℕ) (create : CreateIntent) (permit : CreatePermit) :
    UploadProgram RemoteObject := do
  let session ← mapError (interrupted true) (drive.initiateResumableCreate provider net permit)
  let created ← uploadLoop drive provider net side turns session
  mapError (interrupted true) (drive.verifyCreatedUpload provider net create created)

/-- The file that there is, or a new one. -/
def remoteFor (turns : ℕ) (create : CreateIntent) : UploadProgram RemoteObject := do
  match ← mapError (interrupted false) (drive.reconcileCreate provider net create) with
  | .verifiedExisting remote => pure remote
  | .needsReconcile _ =>
    throw (.failed (reconcileFailure "remote_create_conflict" (by decide +kernel)))
  | .absent permit => createAndVerify drive provider net side turns create permit

/-- The file that was created is the evidence, and its base is published. -/
def finishUpload (intent : TransferIntent) (localRevision : String) (remote : RemoteObject) :
    Except ExecutionFailure VerifiedTransfer := do
  Check.reject (remote.sha256 ≠ intent.sha256Hex ∨ remote.size ≠ intent.byteLen)
    (reconcileFailure "remote_evidence_mismatch" (by decide +kernel))
  let baseRef ← side.publishVerifiedStageAsBase.mapError localFailure
  (VerifiedTransfer.new
    { operationId := intent.operationId
      remoteFileId := remote.fileId
      remoteRevision := remote.syncRevision
      localRevision := some localRevision
      sha256Hex := intent.sha256Hex
      byteLen := intent.byteLen
      baseRef
      outcomeCode := "upload_verified" }).mapError
    fun _ => reconcileFailure "verified_evidence_invalid" (by decide +kernel)

/-- `execute_upload`, with so many turns of the loop over the chunks. -/
def executeUpload (turns : ℕ) (intent : TransferIntent) : UploadProgram VerifiedTransfer := do
  let (_, localRevision) ← lift ((checkedStage side intent).mapError .failed)
  inspectObserved drive provider net intent
  let create ← mapError (interrupted false) (check intent.createIntent.new)
  let remote ← remoteFor drive provider net side turns create
  lift ((finishUpload side intent localRevision remote).mapError .failed)

end Attempt

end Transfer
end MyVault
