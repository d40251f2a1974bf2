import MyVault.Store.TransferTimes

/-!
# The transfer worker

`myvault-transfer`: a worker claims one due transfer, hands it to an executor and
settles what the executor returns.  The executor is not part of the crate; all it can do
to the store is to call the gate before it publishes a download.  `ExecutorRun` is what
it does with an intent: how often it calls the gate, and the result it has built.

A `Duration` counts in whole milliseconds here, as `as_millis` reads it.
-/

namespace MyVault
namespace Transfer

open Store Check Program

/-- `myvault_transfer::Error`. -/
inductive Error where
  | invalidIntent
  | invalidEvidence
  | store
  | timestampOverflow
  deriving DecidableEq, Repr

/-- `MAX_REDACTED_CODE_BYTES`. -/
def maxRedactedCodeBytes : ℕ := 96

/-- `MAX_PORTABLE_PATH_BYTES`. -/
def maxPortablePathBytes : ℕ := 4 * 1024

/-- `MAX_REMOTE_ID_BYTES`. -/
def maxRemoteIdBytes : ℕ := 4 * 1024

/-- `MAX_TRANSFER_BYTES`. -/
def maxTransferBytes : ℕ := 512 * 1024 * 1024

/-- `BASE_BACKOFF_MS`. -/
def baseBackoffMs : ℕ := 1000

/-- `MAX_BACKOFF_MS`. -/
def maxBackoffMs : ℕ := 15 * 60 * 1000

/-! ## Checks -/

/-- `validate_sha256`. -/
def validateSha256 (value : String) : Except Error Unit :=
  reject (!isLowerHex64 value) .invalidEvidence

/-- `validate_redacted_code`. -/
def validateRedactedCode (value : String) : Except Error Unit :=
  reject (value = "" ∨ maxRedactedCodeBytes < strLen value ∨
    !value.toList.all fun c => c.isLower || c.isDigit || c == '_') .invalidEvidence

/-- `validate_opaque`. -/
def validateOpaque (value : String) (maxBytes : ℕ) : Except Error Unit :=
  reject (value = "" ∨ maxBytes < strLen value ∨ value.toList.any isControl ∨
    value.toList.any fun c => c == '/' || c == '\\') .invalidEvidence

/-- `eq_ignore_ascii_case`. -/
def eqIgnoreAsciiCase (s t : Text) : Bool := s.map Char.toLower == t.map Char.toLower

/-- `validate_portable_path`. -/
def validatePortablePath (value : String) : Except Error Unit := do
  reject (value = "" ∨ maxPortablePathBytes < strLen value ∨ value.toList.head? = some '/' ∨
    value.toList.getLast? = some '/' ∨ value.toList.contains '\\' ∨ value.toList.any isControl ∨
    (splitSlash value.toList).any fun part => part == [] || part == ['.'] || part == ['.', '.'])
    .invalidIntent
  reject ((splitSlash value.toList).head?.any fun part =>
    eqIgnoreAsciiCase part ".obsidian".toList || eqIgnoreAsciiCase part ".trash".toList)
    .invalidIntent

/-! ## Intents and evidence -/

/-- What kind of file is transferred. -/
inductive ContentKind where
  | markdown
  | blob
  deriving DecidableEq, Repr

/-- What a transfer is to do. -/
structure TransferIntent where
  operationId : Uuid
  direction : TransferDirection
  path : String
  parentId : String
  remoteFileId : Option String
  expectedLocalRevision : Option String
  expectedRemoteRevision : Option String
  sha256Hex : String
  byteLen : ℕ
  contentKind : ContentKind
  operationMarker : String
  stageRef : Option String
  baseRef : Option String
  attemptCount : ℕ
  deriving DecidableEq

/-- The intent is well formed. -/
def TransferIntent.validate (intent : TransferIntent) : Except Error Unit := do
  reject intent.operationId.isNil .invalidIntent
  validatePortablePath intent.path
  validateOpaque intent.parentId maxRemoteIdBytes
  each (validateOpaque · maxRemoteIdBytes) intent.remoteFileId.toList
  each (validateOpaque · maxRemoteIdBytes) intent.expectedLocalRevision.toList
  each (validateOpaque · maxRemoteIdBytes) intent.expectedRemoteRevision.toList
  validateSha256 intent.sha256Hex
  reject (maxTransferBytes < intent.byteLen) .invalidIntent
  validateOpaque intent.operationMarker maxRemoteIdBytes
  each (validateOpaque · maxRemoteIdBytes) intent.stageRef.toList
  each (validateOpaque · maxRemoteIdBytes) intent.baseRef.toList
  reject (intent.direction = .download ∧ intent.remoteFileId = none) .invalidIntent
  reject (intent.direction = .upload ∧
    (intent.expectedLocalRevision = none ∨ intent.stageRef = none)) .invalidIntent

/-- The fields of a `VerifiedTransfer`. -/
structure TransferEvidence where
  operationId : Uuid
  remoteFileId : String
  remoteRevision : String
  localRevision : Option String
  sha256Hex : String
  byteLen : ℕ
  baseRef : String
  outcomeCode : String
  deriving DecidableEq

/-- The checks of `VerifiedTransfer::new`. -/
def TransferEvidence.validate (evidence : TransferEvidence) : Except Error Unit := do
  validateOpaque evidence.remoteFileId maxRemoteIdBytes
  validateOpaque evidence.remoteRevision maxRemoteIdBytes
  each (validateOpaque · maxRemoteIdBytes) evidence.localRevision.toList
  validateSha256 evidence.sha256Hex
  validateOpaque evidence.baseRef maxRemoteIdBytes
  validateRedactedCode evidence.outcomeCode
  reject (evidence.operationId.isNil ∨ maxTransferBytes < evidence.byteLen) .invalidEvidence

/-- Evidence that `VerifiedTransfer::new` has built. -/
structure VerifiedTransfer extends TransferEvidence where
  valid : toTransferEvidence.validate = .ok ()

/-- The result is that of the intent. -/
def VerifiedTransfer.matches (verified : VerifiedTransfer) (intent : TransferIntent) : Bool :=
  verified.operationId == intent.operationId && verified.sha256Hex == intent.sha256Hex &&
    verified.byteLen == intent.byteLen

/-- What is to be done after a failure. -/
inductive ExecutionFailureKind where
  | authRequired
  | offline
  | rateLimited
  | transientSafe
  | transientUnknown
  | permanent
  | needsReconcile
  deriving DecidableEq, Repr

/-- The checks of `ExecutionFailure::new`. -/
def validateFailure (kind : ExecutionFailureKind) (code : String) (retryAfter : Option ℕ) :
    Except Error Unit := do
  validateRedactedCode code
  reject (kind ≠ .rateLimited ∧ retryAfter.isSome = true) .invalidEvidence

/-- A failure that `ExecutionFailure::new` has built. -/
structure ExecutionFailure where
  kind : ExecutionFailureKind
  code : String
  retryAfter : Option ℕ
  valid : validateFailure kind code retryAfter = .ok ()

/-! ## The store of the worker -/

/-- A call of the store; `map_err` hides its error. -/
def onStore {α : Type} (p : StoreProgram α) : Program Database Error α := ExceptT.mk fun db =>
  match exec p db with
  | (.ok a, db') => (.ok a, db')
  | (.error _, db') => (.error .store, db')

/-- The kind that the store has recorded. -/
def contentKindOf : TransferMimeClass → ContentKind
  | .markdown => .markdown
  | .blob => .blob

/-- The intent of a claimed row. -/
def intentOf (record : TransferRecord) : TransferIntent where
  operationId := record.operationId
  direction := record.direction
  path := record.portablePath
  parentId := record.remoteParentId
  remoteFileId := record.remoteFileId
  expectedLocalRevision := record.expectedLocalRevision
  expectedRemoteRevision := record.expectedRemoteRevision
  sha256Hex := record.sha256
  byteLen := record.byteLength
  contentKind := contentKindOf record.mimeClass
  operationMarker := record.operationMarker
  stageRef := record.stageReference
  baseRef := record.baseReference
  attemptCount := record.attemptCount

/-- `TransferIntent::new` of the claimed row; the claim is already durable. -/
def checkedIntent : Option TransferRecord → Program Database Error (Option TransferIntent)
  | none => pure none
  | some record => do
      lift (intentOf record).validate
      pure (some (intentOf record))

section Calls

variable (u : Unicode)

/-- `claim_due`: the oldest transfer that is due, as an intent. -/
def claimDue (nowUnixMs : ℕ) : Program Database Error (Option TransferIntent) := do
  let record ← onStore (claimNextTransfer u nowUnixMs)
  checkedIntent record

/-- `local_mutations`, of the mutation ids. -/
def localMutationIds (batchId : Uuid) : StoreProgram (List String) := do
  let active ← loadChangeBatch
  let active ← the active .noActiveBatch
  Program.reject (active.batchId ≠ batchId) .noActiveBatch
  let db ← read id
  let ids := (db.changeBatchMutations.rows.filter fun row => row.batchId = batchId).map
    (·.mutationId)
  lift (each Store.validateRedactedCode ids)
  pure ids

/-- A download that the active batch does not declare needs no gate. -/
def publishIfDeclared (operationId : Uuid) (nowUnixMs : ℕ) :
    Option ChangeBatch → Program Database Error Unit
  | none => pure ()
  | some batch => do
      let mutationIds ← onStore (localMutationIds batch.batchId)
      if operationId.toHyphenated ∈ mutationIds then
        onStore (beginTransferLocalPublish u operationId nowUnixMs)
      else pure ()

/-- `begin_local_publish`: only a transfer that a batch waits for has anything to begin. -/
def beginLocalPublish (operationId : Uuid) (nowUnixMs : ℕ) : Program Database Error Unit := do
  let batch ← onStore loadChangeBatch
  publishIfDeclared u operationId nowUnixMs batch

/-- `TransferCompletion::new`, from the evidence. -/
def completionOf (verified : VerifiedTransfer) (localRevision : String) (nowUnixMs : ℕ) :
    TransferCompletion where
  remoteFileId := verified.remoteFileId
  remoteRevision := verified.remoteRevision
  localRevision := localRevision
  baseReference := verified.baseRef
  outcomeCode := verified.outcomeCode
  occurredAtUnixMs := nowUnixMs

/-- `complete_verified`. -/
def completeVerified (verified : VerifiedTransfer) (nowUnixMs : ℕ) :
    Program Database Error Unit := do
  let localRevision ← the verified.localRevision .invalidEvidence
  let completion := completionOf verified localRevision nowUnixMs
  lift (completion.validate.mapError fun _ => Error.invalidEvidence)
  let _ ← onStore (completeVerifiedTransfer u verified.operationId completion)
  pure ()

/-- `schedule_retry`. -/
def scheduleRetry (operationId : Uuid) (nextAttemptAtUnixMs : ℕ) (code : String) :
    Program Database Error Unit :=
  onStore (scheduleTransferRetry u operationId nextAttemptAtUnixMs code nextAttemptAtUnixMs)

/-- `pause_offline`. -/
def pauseOffline (operationId : Uuid) (nextAttemptAtUnixMs : ℕ) (code : String) :
    Program Database Error Unit :=
  onStore (pauseTransferOffline u operationId nextAttemptAtUnixMs code nextAttemptAtUnixMs)

/-- `mark_auth_required`. -/
def markAuthRequired (operationId : Uuid) (code : String) (nowUnixMs : ℕ) :
    Program Database Error Unit :=
  onStore (markTransferAuthRequired u operationId code nowUnixMs)

/-- `mark_needs_reconcile`. -/
def markNeedsReconcile (operationId : Uuid) (code : String) (nowUnixMs : ℕ) :
    Program Database Error Unit :=
  onStore (markTransferNeedsReconcile u operationId code nowUnixMs)

end Calls

/-! ## The worker -/

/-- What a turn of the worker has come to. -/
inductive WorkOutcome where
  | idle
  | completed (operationId : Uuid)
  | retryScheduled (operationId : Uuid)
  | authRequired (operationId : Uuid)
  | needsReconcile (operationId : Uuid)
  deriving DecidableEq

/-- A worker over a store; it stops claiming once its token has expired. -/
structure Worker where
  store : Database
  authRefreshRequired : Option Uuid

/-- What an executor does with an intent. -/
structure ExecutorRun where
  gateCalls : ℕ
  result : Except ExecutionFailure VerifiedTransfer

/-- `self.store`. -/
def viaStore {α : Type} (p : Program Database Error α) : Program Worker Error α :=
  ExceptT.mk fun worker =>
    match exec p worker.store with
    | (result, db) => (result, { worker with store := db })

/-- The error of a call, as a value. -/
def attempt (p : Program Database Error Unit) : Program Database Error (Option Error) :=
  ExceptT.mk fun db =>
    match exec p db with
    | (.ok _, db') => (.ok none, db')
    | (.error e, db') => (.ok (some e), db')

/-- The time after a delay, if it fits. -/
def checkedAddMs (nowUnixMs delayMs : ℕ) : Except Error ℕ :=
  match checkedAdd nowUnixMs delayMs with
  | some next => .ok next
  | none => .error .timestampOverflow

/-- The eight bytes of `u64::from_le_bytes`. -/
def fromLeBytes : List UInt8 → ℕ
  | [] => 0
  | byte :: bytes => byte.toNat + 256 * fromLeBytes bytes

/-- The delay before an attempt: it doubles up to a bound, and the id adds its own share. -/
def retryDelayMs (operationId : Uuid) (attempt : ℕ) : ℕ :=
  let exponential := saturatingMul baseBackoffMs (2 ^ min attempt 9)
  let capped := min exponential maxBackoffMs
  let jitterBound := max (capped / 4) 1
  let seed := fromLeBytes (operationId.toList.take 8)
  min (capped + seed % jitterBound) maxBackoffMs

/-- The delay of a rate limit, between the two bounds. -/
def rateLimitDelay (operationId : Uuid) (attempt : ℕ) (retryAfter : Option ℕ) : ℕ :=
  max baseBackoffMs (min maxBackoffMs
    ((retryAfter.bind u64TryFrom).getD (retryDelayMs operationId attempt)))

section Run

variable (u : Unicode)

/-- The calls of the gate; the last error is kept. -/
def runGate (operationId : Uuid) (nowUnixMs : ℕ) : ℕ → Option Error →
    Program Database Error (Option Error)
  | 0, gateError => pure gateError
  | n + 1, gateError => do
      let error ← attempt (beginLocalPublish u operationId nowUnixMs)
      runGate operationId nowUnixMs n (error.or gateError)

/-- What the worker does about a failure. -/
def handleFailure (operationId : Uuid) (nowUnixMs attempt : ℕ) (failure : ExecutionFailure) :
    Program Worker Error WorkOutcome :=
  match failure.kind with
  | .authRequired => do
      viaStore (markAuthRequired u operationId failure.code nowUnixMs)
      write fun worker => { worker with authRefreshRequired := some operationId }
      pure (.authRequired operationId)
  | .offline => do
      let next ← lift (checkedAddMs nowUnixMs baseBackoffMs)
      viaStore (pauseOffline u operationId next failure.code)
      pure (.retryScheduled operationId)
  | .rateLimited => do
      let next ← lift (checkedAddMs nowUnixMs
        (rateLimitDelay operationId attempt failure.retryAfter))
      viaStore (scheduleRetry u operationId next failure.code)
      pure (.retryScheduled operationId)
  | .transientSafe => do
      let next ← lift (checkedAddMs nowUnixMs (retryDelayMs operationId attempt))
      viaStore (scheduleRetry u operationId next failure.code)
      pure (.retryScheduled operationId)
  | .permanent | .transientUnknown | .needsReconcile => do
      viaStore (markNeedsReconcile u operationId failure.code nowUnixMs)
      pure (.needsReconcile operationId)

/-- The disposition of what the executor returned. -/
def settle (intent : TransferIntent) (nowUnixMs : ℕ) :
    Except ExecutionFailure VerifiedTransfer → Program Worker Error WorkOutcome
  | .ok verified =>
      if !verified.matches intent then do
        viaStore (markNeedsReconcile u intent.operationId "verified_evidence_mismatch" nowUnixMs)
        pure (.needsReconcile intent.operationId)
      else do
        viaStore (completeVerified u verified nowUnixMs)
        pure (.completed intent.operationId)
  | .error failure => handleFailure u intent.operationId nowUnixMs intent.attemptCount failure

/-- `if let Some(error) = gate_error { return Err(error); }`. -/
def gateResult : Option Error → Except Error Unit
  | none => .ok ()
  | some error => .error error

/-- The claimed operation: the executor, its gate, and what follows. -/
def work (eligibilityCutoffUnixMs completionClock : ℕ) (execute : TransferIntent → ExecutorRun) :
    Option TransferIntent → Program Worker Error WorkOutcome
  | none => pure .idle
  | some intent => do
      let gateError ← viaStore (runGate u intent.operationId eligibilityCutoffUnixMs
        (execute intent).gateCalls none)
      lift (gateResult gateError)
      settle u intent (max completionClock eligibilityCutoffUnixMs) (execute intent).result

/-- A turn of the worker: claim a transfer, execute it, and record what it came to. -/
def runOnceWithCompletionClock (eligibilityCutoffUnixMs completionClock : ℕ)
    (execute : TransferIntent → ExecutorRun) : Program Worker Error WorkOutcome := do
  let required ← read (·.authRefreshRequired)
  if required.isSome then pure .idle
  else
    let intent ← viaStore (claimDue u eligibilityCutoffUnixMs)
    work u eligibilityCutoffUnixMs completionClock execute intent

end Run

end Transfer
end MyVault
