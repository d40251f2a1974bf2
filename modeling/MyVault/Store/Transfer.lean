import MyVault.Store.Jobs

/-!
# Transfers

The transfer calls of `store.rs`, from `register_transfer` to
`complete_verified_transfer`, and `begin_transfer_local_publish`.
-/

namespace MyVault
namespace Store

open Check Program

/-! ## Rows -/

/-- What `row_to_transfer` checks of the row. -/
def checkTransferRow (u : Unicode) (transfer : TransferRecord) : Except Error Unit := do
  reject (2 ^ 32 ≤ transfer.attemptCount) .invalidSchema
  transfer.validate u

/-- `load_transfer`. -/
def loadTransfer (u : Unicode) (operationId : Uuid) : StoreProgram (Option TransferRecord) := do
  let row ← read (·.transfers.lookup operationId)
  lift (each (checkTransferRow u) row.toList)
  pure row

/-- `load_transfer(…)?.ok_or(Error::TransferNotFound)?`. -/
def requireTransfer (u : Unicode) (operationId : Uuid) : StoreProgram TransferRecord := do
  let row ← loadTransfer u operationId
  the row .transferNotFound

/-- `INSERT INTO transfers`. -/
def insertTransfer (transfer : TransferRecord) : StoreProgram Unit := do
  lift (u64ToI64 transfer.byteLength)
  lift (u64ToI64 transfer.nextAttemptAtUnixMs)
  lift (u64ToI64 transfer.createdAtUnixMs)
  lift (u64ToI64 transfer.updatedAtUnixMs)
  let db ← read id
  require (∀ row ∈ db.transfers.rows, row.operationMarker ≠ transfer.operationMarker) .database
  let table ← the (db.transfers.insert transfer) .database
  write fun db => { db with transfers := table }

/-- `UPDATE transfers`: the number of rows it matches. -/
def updateTransfers (p : TransferRecord → Bool) (f : TransferRecord → TransferRecord)
    (hf : ∀ row, p row = true → (f row).operationId = row.operationId) : StoreProgram ℕ := do
  let changed ← read (·.transfers.count p)
  write fun db => { db with transfers := db.transfers.update p f hf }
  pure changed

/-- `WHERE operation_id = … AND …`. -/
def TransferRecord.matchesId (transfer : TransferRecord) (operationId : Uuid)
    (c : TransferRecord → Bool) : Bool := decide (transfer.operationId = operationId) && c transfer

/-! ## Registration -/

/-- A transfer with this marker is there. -/
def transferMarkerExists (marker : String) : StoreProgram Bool :=
  read fun db => db.transfers.rows.any fun row => row.operationMarker = marker

/-- A transfer for an operation that may have one. -/
def registerOver (transfer : TransferRecord) :
    Option TransferRecord → StoreProgram TransferRegistrationOutcome
  | some existing => do
      Program.reject (!existing.sameRegistration transfer) .transferCollision
      pure (if existing.phase = .completed then .alreadyCompleted else .alreadyPresent)
  | none => do
      let marked ← transferMarkerExists transfer.operationMarker
      Program.reject marked .transferCollision
      insertTransfer transfer
      pure .registered

/-- `register_transfer`: the same transfer twice is one transfer. -/
def registerTransfer (u : Unicode) (vaultId : Uuid) (transfer : TransferRecord) :
    StoreProgram TransferRegistrationOutcome := do
  lift (validateNewTransfer u transfer)
  transaction do
    let _ ← requireState vaultId
    let existing ← loadTransfer u transfer.operationId
    registerOver transfer existing

/-- `register_transfer_in_transaction`: a completed transfer is not registered again. -/
def registerInBatch (transfer : TransferRecord) : Option TransferRecord → StoreProgram Unit
  | some existing =>
      Program.reject (existing.sameRegistration transfer = false ∨ existing.phase = .completed)
        .transferCollision
  | none => do
      let marked ← transferMarkerExists transfer.operationMarker
      Program.reject marked .transferCollision
      insertTransfer transfer

/-- `register_transfer_in_transaction`. -/
def registerTransferInTransaction (u : Unicode) (transfer : TransferRecord) :
    StoreProgram Unit := do
  let existing ← loadTransfer u transfer.operationId
  registerInBatch transfer existing

/-! ## Claims and pauses -/

/-- `phase IN ('pending', 'retry_scheduled')`. -/
def TransferRecord.isWaiting (transfer : TransferRecord) : Bool :=
  transfer.phase == .pending || transfer.phase == .retryScheduled

/-- `phase IN ('running', 'needs_reconcile')`. -/
def TransferRecord.isOpen (transfer : TransferRecord) : Bool :=
  transfer.phase == .running || transfer.phase == .needsReconcile

/-- The oldest transfer that is due. -/
def dueTransfer (nowUnixMs : ℕ) (db : Database) : Option TransferRecord :=
  ((db.transfers.rows.filter fun row =>
    row.isWaiting && decide (row.nextAttemptAtUnixMs ≤ nowUnixMs)).insertionSort fun a b =>
      createdBefore a.createdAtUnixMs b.createdAtUnixMs a.operationId b.operationId).head?

/-- A transfer that was found due is claimed. -/
def claimTransfer (nowUnixMs : ℕ) :
    Option TransferRecord → StoreProgram (Option TransferRecord)
  | none => pure none
  | some transfer => do
      let changed ← updateTransfers (·.matchesId transfer.operationId (·.isWaiting))
        (fun row => { row with phase := .running, updatedAtUnixMs := nowUnixMs }) fun _ _ => rfl
      Program.reject (changed ≠ 1) .invalidStateTransition
      pure (some { transfer with phase := .running, updatedAtUnixMs := nowUnixMs })

/-- `claim_next_transfer`: the oldest transfer that is due. -/
def claimNextTransfer (u : Unicode) (nowUnixMs : ℕ) : StoreProgram (Option TransferRecord) := do
  lift (u64ToI64 nowUnixMs)
  transaction do
    let candidate ← read (dueTransfer nowUnixMs)
    lift (each (checkTransferRow u) candidate.toList)
    claimTransfer nowUnixMs candidate

/-- The retry the row already carries. -/
def isSameRetry (existing : TransferRecord) (nextAttemptAtUnixMs : ℕ) (errorCode : String) :
    Bool :=
  existing.phase == .retryScheduled && existing.nextAttemptAtUnixMs == nextAttemptAtUnixMs &&
    existing.lastErrorCode == some errorCode

/-- `schedule_transfer_retry`. -/
def scheduleTransferRetry (u : Unicode) (operationId : Uuid) (nextAttemptAtUnixMs : ℕ)
    (errorCode : String) (updatedAtUnixMs : ℕ) : StoreProgram Unit := do
  Program.reject operationId.isNil .transferNotFound
  lift (validateRedactedCode errorCode)
  lift (u64ToI64 nextAttemptAtUnixMs)
  lift (u64ToI64 updatedAtUnixMs)
  let existing ← requireTransfer u operationId
  if isSameRetry existing nextAttemptAtUnixMs errorCode then pure ()
  else
    Program.reject (updatedAtUnixMs < existing.updatedAtUnixMs) .invalidStateTransition
    let changed ← updateTransfers
      (·.matchesId operationId fun row => row.isOpen || row.phase == .authRequired)
      (fun row => { row with
        phase := .retryScheduled
        attemptCount := row.attemptCount + 1
        nextAttemptAtUnixMs
        updatedAtUnixMs
        lastErrorCode := some errorCode }) fun _ _ => rfl
    Program.reject (changed ≠ 1) .invalidStateTransition

/-- Unlike a retry, a pause does not count as an attempt, and only a running transfer
pauses. -/
def pauseTransferOffline (u : Unicode) (operationId : Uuid) (nextAttemptAtUnixMs : ℕ)
    (errorCode : String) (updatedAtUnixMs : ℕ) : StoreProgram Unit := do
  Program.reject operationId.isNil .transferNotFound
  lift (validateRedactedCode errorCode)
  lift (u64ToI64 nextAttemptAtUnixMs)
  lift (u64ToI64 updatedAtUnixMs)
  let existing ← requireTransfer u operationId
  if isSameRetry existing nextAttemptAtUnixMs errorCode then pure ()
  else
    Program.reject (updatedAtUnixMs < existing.updatedAtUnixMs) .invalidStateTransition
    let changed ← updateTransfers (·.matchesId operationId (·.phase == .running))
      (fun row => { row with
        phase := .retryScheduled
        nextAttemptAtUnixMs
        updatedAtUnixMs
        lastErrorCode := some errorCode }) fun _ _ => rfl
    Program.reject (changed ≠ 1) .invalidStateTransition

/-- A running transfer is stopped, until the user or a reconciliation goes on with it. -/
def markTransferStopped (u : Unicode) (operationId : Uuid) (target : TransferPhase)
    (errorCode : String) (updatedAtUnixMs : ℕ) : StoreProgram Unit := do
  Program.reject operationId.isNil .transferNotFound
  Program.reject (target ≠ .authRequired ∧ target ≠ .needsReconcile) .invalidStateTransition
  lift (validateRedactedCode errorCode)
  lift (u64ToI64 updatedAtUnixMs)
  let existing ← requireTransfer u operationId
  if existing.phase = target ∧ existing.lastErrorCode = some errorCode then pure ()
  else
    Program.reject (updatedAtUnixMs < existing.updatedAtUnixMs) .invalidStateTransition
    let changed ← updateTransfers (·.matchesId operationId (·.phase == .running))
      (fun row => { row with
        phase := target
        updatedAtUnixMs
        lastErrorCode := some errorCode }) fun _ _ => rfl
    Program.reject (changed ≠ 1) .invalidStateTransition

/-- `mark_transfer_auth_required`. -/
def markTransferAuthRequired (u : Unicode) (operationId : Uuid) (errorCode : String)
    (updatedAtUnixMs : ℕ) : StoreProgram Unit :=
  markTransferStopped u operationId .authRequired errorCode updatedAtUnixMs

/-- `mark_transfer_needs_reconcile`. -/
def markTransferNeedsReconcile (u : Unicode) (operationId : Uuid) (errorCode : String)
    (updatedAtUnixMs : ℕ) : StoreProgram Unit :=
  markTransferStopped u operationId .needsReconcile errorCode updatedAtUnixMs

/-- A due retry from `now` on. -/
def retryFrom (nowUnixMs : ℕ) (errorCode : String) (row : TransferRecord) : TransferRecord :=
  { row with
    phase := .retryScheduled
    attemptCount := row.attemptCount + 1
    nextAttemptAtUnixMs := nowUnixMs
    updatedAtUnixMs := nowUnixMs
    lastErrorCode := some errorCode }

@[simp] theorem retryFrom_operationId (nowUnixMs : ℕ) (errorCode : String)
    (row : TransferRecord) : (retryFrom nowUnixMs errorCode row).operationId = row.operationId :=
  rfl

/-- `resume_auth_required_transfers`. -/
def resumeAuthRequiredTransfers (nowUnixMs : ℕ) : StoreProgram ℕ := do
  lift (u64ToI64 nowUnixMs)
  updateTransfers
    (fun row => row.phase == .authRequired && decide (row.updatedAtUnixMs ≤ nowUnixMs))
    (retryFrom nowUnixMs "auth_restored") fun row _ => retryFrom_operationId _ _ row

/-- `requeue_transfer_for_reconciliation`. -/
def requeueTransferForReconciliation (u : Unicode) (operationId : Uuid) (nowUnixMs : ℕ) :
    StoreProgram Unit := do
  Program.reject operationId.isNil .transferNotFound
  lift (u64ToI64 nowUnixMs)
  transaction do
    let existing ← requireTransfer u operationId
    Program.reject (existing.phase ≠ .needsReconcile ∨ nowUnixMs < existing.updatedAtUnixMs)
      .invalidStateTransition
    let changed ← updateTransfers
      (·.matchesId operationId fun row =>
        row.phase == .needsReconcile && decide (row.updatedAtUnixMs ≤ nowUnixMs))
      (retryFrom nowUnixMs "reconcile_requested") fun row _ => retryFrom_operationId _ _ row
    Program.reject (changed ≠ 1) .invalidStateTransition

/-- `publish_transfer_base_reference`. -/
def publishTransferBaseReference (u : Unicode) (operationId : Uuid) (baseReference : String)
    (updatedAtUnixMs : ℕ) : StoreProgram Unit := do
  lift (validatePrivateReference baseReference)
  lift (u64ToI64 updatedAtUnixMs)
  let existing ← requireTransfer u operationId
  if existing.baseReference = some baseReference then pure ()
  else
    Program.reject
      (existing.baseReference.isSome = true ∨ updatedAtUnixMs < existing.updatedAtUnixMs)
      .transferCollision
    let changed ← updateTransfers
      (·.matchesId operationId fun row => row.isOpen && row.baseReference.isNone)
      (fun row => { row with baseReference := some baseReference, updatedAtUnixMs })
      fun _ _ => rfl
    Program.reject (changed ≠ 1) .invalidStateTransition

/-! ## Completion -/

/-- `transfer_mutation_id`. -/
def transferMutationId (operationId : Uuid) : String := operationId.toHyphenated

/-- The state of the mutation of the active batch. -/
def activeTransferMutationState (mutationId : String) :
    StoreProgram (Option LocalMutationState) := do
  let batch ← loadChangeBatch
  read fun db => batch.bind fun batch =>
    (db.changeBatchMutations.lookup (batch.batchId, mutationId)).map (·.state)

/-- The completion the row and its history carry. -/
def isSameCompletion (existing : TransferRecord) (history : Option HistoryRow)
    (completion : TransferCompletion) : Bool :=
  existing.remoteFileId == some completion.remoteFileId &&
    existing.verifiedRemoteRevision == some completion.remoteRevision &&
    existing.verifiedLocalRevision == some completion.localRevision &&
    existing.baseReference == some completion.baseReference &&
    history.map (fun row => (row.outcomeCode, row.occurredAtUnixMs)) ==
      some (completion.outcomeCode, completion.occurredAtUnixMs)

/-- A completion of a completed transfer must be the same. -/
def completeAgain (existing : TransferRecord) (completion : TransferCompletion)
    (mutationState : Option LocalMutationState) : StoreProgram TransferCompletionOutcome := do
  let history ← read (·.transferHistory.lookup existing.operationId)
  require (isSameCompletion existing history completion = true ∧
    (mutationState = none ∨ mutationState = some .committed)) .transferCollision
  pure .alreadyCompleted

/-- What the transfer expects, where it expects anything, is what the completion proves. -/
def isExpectedCompletion (existing : TransferRecord) (completion : TransferCompletion) : Bool :=
  existing.isOpen && decide (existing.updatedAtUnixMs ≤ completion.occurredAtUnixMs) &&
    existing.remoteFileId.all (· == completion.remoteFileId) &&
    existing.expectedRemoteRevision.all (· == completion.remoteRevision) &&
    (existing.direction != .upload ||
      existing.expectedLocalRevision.all (· == completion.localRevision)) &&
    existing.baseReference.all (· == completion.baseReference)

/-- `INSERT INTO transfer_history`. -/
def insertTransferHistory (operationId : Uuid) (outcomeCode : String) (occurredAtUnixMs : ℕ) :
    StoreProgram Unit := do
  let db ← read id
  require ((db.transfers.lookup operationId).isSome) .database
  let table ← the (db.transferHistory.insert
    (historyRow db.transferHistory operationId outcomeCode occurredAtUnixMs)) .database
  write fun db => { db with transferHistory := table }

/-- The row after its completion. -/
def TransferRecord.complete (transfer : TransferRecord) (completion : TransferCompletion) :
    TransferRecord :=
  { transfer with
    remoteFileId := some completion.remoteFileId
    baseReference := some completion.baseReference
    phase := .completed
    nextAttemptAtUnixMs := completion.occurredAtUnixMs
    updatedAtUnixMs := completion.occurredAtUnixMs
    lastErrorCode := none
    verifiedLocalRevision := some completion.localRevision
    verifiedRemoteRevision := some completion.remoteRevision }

@[simp] theorem TransferRecord.complete_operationId (transfer : TransferRecord)
    (completion : TransferCompletion) :
    (transfer.complete completion).operationId = transfer.operationId := rfl

/-- The remote entry still is what the transfer was verified against. -/
def isVerifiedEntry (transfer : TransferRecord) (completion : TransferCompletion)
    (row : RemoteEntryRow) : Bool :=
  row.entry.fileId == completion.remoteFileId && row.entry.parentId == transfer.remoteParentId &&
    row.entry.path == transfer.portablePath && row.entry.kind == .file &&
    row.entry.remoteRevision == completion.remoteRevision &&
    row.entry.contentHash.all fun hash =>
      hash.algorithm != .sha256 || hash.hex == transfer.sha256

/-- The base of the file, if the file is known. -/
def updateRemoteBaseIfPresent (transfer : TransferRecord) (completion : TransferCompletion) :
    StoreProgram Unit := do
  let existing ← read (·.remoteEntries.lookup completion.remoteFileId)
  if existing = none then pure ()
  else
    lift (u64ToI64 transfer.byteLength)
    let changed ← read (·.remoteEntries.count (isVerifiedEntry transfer completion))
    write fun db =>
      { db with
        remoteEntries := db.remoteEntries.update (isVerifiedEntry transfer completion)
          (fun row => { row with
            base := some
              { localRevision := completion.localRevision
                remoteRevision := completion.remoteRevision
                contentHash := transfer.sha256
                byteLength := transfer.byteLength } }) fun _ _ => rfl }
    Program.reject (changed ≠ 1) .transferChangeMismatch

/-- The mutation that waits for the transfer is committed. -/
def commitTransferMutation (mutationId : String) : StoreProgram Unit := do
  let active ← read (·.changeBatch)
  let changed ← updateBatchMutations
    (fun row => decide (row.mutationId = mutationId ∧ row.state = .applying) &&
      active.any fun batch => row.batchId = batch.batchId) .committed
  Program.reject (changed ≠ 1) .invalidStateTransition

/-- A completion of a transfer that runs. -/
def completeNow (existing : TransferRecord) (completion : TransferCompletion)
    (mutationState : Option LocalMutationState) : StoreProgram TransferCompletionOutcome := do
  Program.reject (!isExpectedCompletion existing completion) .invalidStateTransition
  Program.reject (mutationState.isSome = true ∧ existing.direction ≠ .download)
    .transferChangeMismatch
  Program.reject (mutationState.any fun state => state ≠ .applying) .invalidStateTransition
  lift (u64ToI64 completion.occurredAtUnixMs)
  insertTransferHistory existing.operationId completion.outcomeCode completion.occurredAtUnixMs
  let changed ← updateTransfers (·.matchesId existing.operationId (·.isOpen))
    (·.complete completion) fun row _ => row.complete_operationId completion
  Program.reject (changed ≠ 1) .invalidStateTransition
  updateRemoteBaseIfPresent existing completion
  mutationState.toList.forM fun _ =>
    commitTransferMutation (transferMutationId existing.operationId)
  pure .completed

/-- `complete_verified_transfer`. -/
def completeVerifiedTransfer (u : Unicode) (operationId : Uuid)
    (completion : TransferCompletion) : StoreProgram TransferCompletionOutcome := do
  Program.reject operationId.isNil .transferNotFound
  lift completion.validate
  transaction do
    let existing ← requireTransfer u operationId
    let mutationState ← activeTransferMutationState (transferMutationId operationId)
    if existing.phase = .completed then completeAgain existing completion mutationState
    else completeNow existing completion mutationState

/-! ## The local publication of a download -/

/-- The mutation was not pending: only a reconciliation run may go on. -/
def resumeLocalPublish (transfer : TransferRecord) :
    Option LocalMutationState → StoreProgram Unit
  | some .applying =>
      require (transfer.lastErrorCode = some "reconcile_requested") .mutationNeedsReconcile
  | some .needsReconcile => throw .mutationNeedsReconcile
  | some .committed => throw .invalidStateTransition
  | some .pending | none => throw .unknownMutation

/-- The time of a transfer that is not over. -/
def touchTransfer (operationId : Uuid) (nowUnixMs : ℕ) : StoreProgram Unit := do
  let changed ← updateTransfers
    (·.matchesId operationId fun row => row.isOpen && decide (row.updatedAtUnixMs ≤ nowUnixMs))
    (fun row => { row with updatedAtUnixMs := nowUnixMs }) fun _ _ => rfl
  Program.reject (changed ≠ 1) .invalidStateTransition

/-- `begin_transfer_local_publish`. -/
def beginTransferLocalPublish (u : Unicode) (operationId : Uuid) (nowUnixMs : ℕ) :
    StoreProgram Unit := do
  Program.reject operationId.isNil .transferNotFound
  lift (u64ToI64 nowUnixMs)
  transaction do
    let active ← loadChangeBatch
    let active ← the active .noActiveBatch
    let transfer ← requireTransfer u operationId
    Program.reject (transfer.direction ≠ .download ∨ transfer.isOpen = false ∨
      nowUnixMs < transfer.updatedAtUnixMs) .invalidStateTransition
    let changed ← updateBatchMutations
      (fun row => decide (row.key = (active.batchId, transferMutationId operationId) ∧
        row.state = .pending)) .applying
    if changed ≠ 1 then
      let state ← loadLocalMutationState active.batchId (transferMutationId operationId)
      resumeLocalPublish transfer state
    else touchTransfer operationId nowUnixMs

/-! ## Footprints -/

section Footprints

variable {parts : List Part} {R : Database → Database → Prop} {u : Unicode} {operationId : Uuid}

instance [Std.Refl R] [IsTrans Database R] : Keeps R (loadTransfer u operationId) := by
  unfold loadTransfer
  infer_instance

instance [Std.Refl R] [IsTrans Database R] : Keeps R (requireTransfer u operationId) := by
  unfold requireTransfer
  infer_instance

set_option synthInstance.maxSize 100000 in
instance {transfer : TransferRecord} [Listed .transfers parts] :
    Keeps (OnlyWrites parts) (insertTransfer transfer) := by
  unfold insertTransfer
  infer_instance

instance {p : TransferRecord → Bool} {f : TransferRecord → TransferRecord}
    {hf : ∀ row, p row = true → (f row).operationId = row.operationId}
    [Listed .transfers parts] : Keeps (OnlyWrites parts) (updateTransfers p f hf) := by
  unfold updateTransfers
  infer_instance

instance registerTransfer_onlyWrites {vaultId : Uuid} {transfer : TransferRecord} :
    Keeps (OnlyWrites [.transfers]) (registerTransfer u vaultId transfer) := by
  have hover : ∀ existing, Keeps (OnlyWrites [.transfers]) (registerOver transfer existing) := by
    intro existing
    cases existing <;> unfold registerOver <;> try unfold transferMarkerExists
    all_goals infer_instance
  unfold registerTransfer
  infer_instance

instance {transfer : TransferRecord} [Listed .transfers parts] :
    Keeps (OnlyWrites parts) (registerTransferInTransaction u transfer) := by
  have hover : ∀ existing, Keeps (OnlyWrites parts) (registerInBatch transfer existing) := by
    intro existing
    cases existing <;> unfold registerInBatch <;> try unfold transferMarkerExists
    all_goals infer_instance
  unfold registerTransferInTransaction
  infer_instance

instance claimNextTransfer_onlyWrites {nowUnixMs : ℕ} :
    Keeps (OnlyWrites [.transfers]) (claimNextTransfer u nowUnixMs) := by
  have hclaim : ∀ candidate,
      Keeps (OnlyWrites [.transfers]) (claimTransfer nowUnixMs candidate) := by
    intro candidate
    cases candidate <;> unfold claimTransfer <;> infer_instance
  unfold claimNextTransfer
  infer_instance

section Pauses

variable {nextAttemptAtUnixMs updatedAtUnixMs nowUnixMs : ℕ} {errorCode : String}

set_option synthInstance.maxSize 100000 in
instance scheduleTransferRetry_onlyWrites : Keeps (OnlyWrites [.transfers])
    (scheduleTransferRetry u operationId nextAttemptAtUnixMs errorCode updatedAtUnixMs) := by
  unfold scheduleTransferRetry
  infer_instance

set_option synthInstance.maxSize 100000 in
instance pauseTransferOffline_onlyWrites : Keeps (OnlyWrites [.transfers])
    (pauseTransferOffline u operationId nextAttemptAtUnixMs errorCode updatedAtUnixMs) := by
  unfold pauseTransferOffline
  infer_instance

set_option synthInstance.maxSize 100000 in
instance markTransferStopped_onlyWrites {target : TransferPhase} : Keeps (OnlyWrites [.transfers])
    (markTransferStopped u operationId target errorCode updatedAtUnixMs) := by
  unfold markTransferStopped
  infer_instance

instance resumeAuthRequiredTransfers_onlyWrites :
    Keeps (OnlyWrites [.transfers]) (resumeAuthRequiredTransfers nowUnixMs) := by
  unfold resumeAuthRequiredTransfers
  infer_instance

instance requeueTransferForReconciliation_onlyWrites : Keeps (OnlyWrites [.transfers])
    (requeueTransferForReconciliation u operationId nowUnixMs) := by
  unfold requeueTransferForReconciliation
  infer_instance

instance publishTransferBaseReference_onlyWrites {baseReference : String} :
    Keeps (OnlyWrites [.transfers])
    (publishTransferBaseReference u operationId baseReference updatedAtUnixMs) := by
  unfold publishTransferBaseReference
  infer_instance

end Pauses

instance {transfer : TransferRecord} {completion : TransferCompletion}
    [Listed .remoteEntries parts] :
    Keeps (OnlyWrites parts) (updateRemoteBaseIfPresent transfer completion) := by
  unfold updateRemoteBaseIfPresent
  infer_instance

instance {mutationId : String} [Listed .batchProgress parts] :
    Keeps (OnlyWrites parts) (commitTransferMutation mutationId) := by
  unfold commitTransferMutation
  infer_instance

set_option synthInstance.maxSize 100000 in
instance completeVerifiedTransfer_onlyWrites {completion : TransferCompletion} :
    Keeps (OnlyWrites [.remoteEntries, .transfers, .transferHistory, .batchProgress])
      (completeVerifiedTransfer u operationId completion) := by
  unfold completeVerifiedTransfer activeTransferMutationState completeAgain completeNow
    insertTransferHistory
  infer_instance

set_option synthInstance.maxSize 100000 in
instance beginTransferLocalPublish_onlyWrites {nowUnixMs : ℕ} :
    Keeps (OnlyWrites [.transfers, .batchProgress])
    (beginTransferLocalPublish u operationId nowUnixMs) := by
  have hresume : ∀ transfer state, Keeps (OnlyWrites [.transfers, .batchProgress])
      (resumeLocalPublish transfer state) := by
    intro transfer state
    cases state with
    | none =>
        unfold resumeLocalPublish
        infer_instance
    | some state => cases state <;> unfold resumeLocalPublish <;> infer_instance
  unfold beginTransferLocalPublish touchTransfer
  infer_instance

end Footprints

end Store
end MyVault
