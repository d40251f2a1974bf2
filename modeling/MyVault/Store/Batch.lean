import MyVault.Store.Mutation
import MyVault.Store.Scan
import MyVault.Store.Transfer

/-!
# Change batches

A change batch moves the durable cursor from `expectedCursor` to `nextCursor` once
everything it declares is done.  There are three ways to begin one, three ways to
commit one and one to abort it; what it declares is a legacy mutation, the
mutation of a download, or a typed R3 dependency.
-/

namespace MyVault
namespace Store

open Check Program Table

/-- The vault is ready and its durable cursor is the expected one. -/
def requireCursor (vaultId : Uuid) (expectedCursor : String) : StoreProgram Unit := do
  let state ← requireState vaultId
  Program.reject (state.phase ≠ .ready ∨ state.durableCursor ≠ some expectedCursor)
    .cursorMismatch

/-- The batch that is active is this one. -/
def requireBatch (batchId : Uuid) : StoreProgram ChangeBatch := do
  let batch ← loadChangeBatch
  let batch ← the batch .noActiveBatch
  Program.reject (batch.batchId ≠ batchId) .noActiveBatch
  pure batch

/-! ## Legacy batches -/

/-- A mutation of a batch that is known by its name alone. -/
def legacyMutation (batchId : Uuid) (mutationId : String) : BatchMutationRow where
  batchId := batchId
  mutationId := mutationId
  dependencyKind := .legacyV3
  operationId := none
  committedEvidenceId := none
  state := .pending

/-- `begin_change_batch`. -/
def beginChangeBatch (vaultId batchId : Uuid) (expectedCursor nextCursor : String)
    (mutationIds : List String) : StoreProgram Unit := do
  Program.reject batchId.isNil .invalidStateTransition
  lift (validateRemoteToken expectedCursor)
  lift (validateRemoteToken nextCursor)
  Program.reject (¬ mutationIds.Nodup) .unknownMutation
  let declared := mutationIds.insertionSort (· ≤ ·)
  lift (each validateRedactedCode declared)
  transaction do
    requireCursor vaultId expectedCursor
    let active ← read (·.changeBatch)
    Program.reject active.isSome .batchAlreadyActive
    insertChangeBatch { batchId, expectedCursor, nextCursor }
    declared.forM fun mutationId => insertBatchMutation (legacyMutation batchId mutationId)

/-! ## Transfer batches -/

/-- `load_remote_entry`. -/
def loadRemoteEntry (u : Unicode) (db : Database) (fileId : String) :
    Except Error (Option RemoteEntry) := do
  let entry := (db.remoteEntries.lookup fileId).map (·.entry)
  each (RemoteEntry.validate u) entry.toList
  .ok entry

/-- The downloads the changes call for. -/
def requiredDownloads (u : Unicode) (db : Database) :
    List String → List RemoteChange → Except Error (List String)
  | _, [] => .ok []
  | _, .removed _ :: _ => .error .unsupportedTransferChange
  | seen, .upsert entry :: changes => do
      Check.reject (entry.fileId ∈ seen) .invalidRemoteEntry
      let existing ← loadRemoteEntry u db entry.fileId
      Check.reject (existing.any fun previous => previous.path ≠ entry.path ∨
        previous.parentId ≠ entry.parentId ∨ previous.kind ≠ entry.kind)
        .unsupportedTransferChange
      Check.reject (db.remoteEntries.rows.any fun row =>
        row.entry.path = entry.path ∧ row.entry.fileId ≠ entry.fileId) .unsupportedTransferChange
      let rest ← requiredDownloads u db (entry.fileId :: seen) changes
      .ok <|
        if entry.kind = .file ∧ existing.all (fun previous =>
          previous.remoteRevision ≠ entry.remoteRevision ∨
            previous.contentHash ≠ entry.contentHash)
        then entry.fileId :: rest
        else rest

/-- The entry of an upsert of the file. -/
def RemoteChange.upsertOf (fileId : String) : RemoteChange → Option RemoteEntry
  | .upsert entry => if entry.fileId = fileId then some entry else none
  | .removed _ => none

/-- The downloads supplied for the changes. -/
def suppliedDownloads (changes : List RemoteChange) :
    List String → List TransferRecord → Except Error (List String)
  | seen, [] => .ok seen
  | seen, transfer :: downloads =>
      match transfer.remoteFileId with
      | none => .error .transferChangeMismatch
      | some fileId => do
          Check.reject (fileId ∈ seen) .transferChangeMismatch
          match changes.findSome? (RemoteChange.upsertOf fileId) with
          | none => .error .transferChangeMismatch
          | some entry => do
              Check.reject (entry.kind ≠ .file ∨ transfer.portablePath ≠ entry.path ∨
                transfer.remoteParentId ≠ entry.parentId ∨
                transfer.expectedRemoteRevision ≠ some entry.remoteRevision ∨
                entry.contentHash.any (fun hash =>
                  hash.algorithm = .sha256 ∧ hash.hex ≠ transfer.sha256)) .transferChangeMismatch
              suppliedDownloads changes (fileId :: seen) downloads

/-- The downloads are those that the changes need. -/
def validateResolvedTransferChanges (u : Unicode) (db : Database)
    (changes : List RemoteChange) (downloads : List TransferRecord) : Except Error Unit := do
  let required ← requiredDownloads u db [] changes
  let supplied ← suppliedDownloads changes [] downloads
  Check.reject (!(supplied.all required.contains && required.all supplied.contains))
    .transferChangeMismatch

/-- A removal was refused before. -/
def upsertChange (u : Unicode) : RemoteChange → StoreProgram Unit
  | .upsert entry => upsertRemoteEntry u entry
  | .removed _ => pure ()

/-- A download, with the mutation of the batch that waits for it. -/
def declareDownload (u : Unicode) (batchId : Uuid) (transfer : TransferRecord) :
    StoreProgram Unit := do
  registerTransferInTransaction u transfer
  insertBatchMutation (legacyMutation batchId (transferMutationId transfer.operationId))

/-- `begin_transfer_change_batch`: the changes, and the downloads that they need. -/
def beginTransferChangeBatch (u : Unicode) (vaultId batchId : Uuid)
    (expectedCursor nextCursor : String) (changes : List RemoteChange)
    (downloads : List TransferRecord) : StoreProgram Unit := do
  Program.reject batchId.isNil .invalidStateTransition
  lift (validateRemoteToken expectedCursor)
  lift (validateRemoteToken nextCursor)
  Program.reject (maxScanPageEntries < changes.length) .invalidRemoteEntry
  lift (each (RemoteChange.validate u) changes)
  lift (each (fun transfer => do
    validateNewTransfer u transfer
    Check.reject (transfer.direction ≠ .download ∨ transfer.expectedRemoteRevision = none)
      .transferChangeMismatch) downloads)
  transaction do
    requireCursor vaultId expectedCursor
    let active ← loadChangeBatch
    Program.reject active.isSome .batchAlreadyActive
    let db ← read id
    lift (validateResolvedTransferChanges u db changes downloads)
    insertChangeBatch { batchId, expectedCursor, nextCursor }
    changes.forM (upsertChange u)
    downloads.forM (declareDownload u batchId)

/-! ## R3 batches -/

/-- A mutation of a batch that depends on an operation. -/
def r3Mutation (batchId : Uuid) (dependency : ChangeBatchDependency) : BatchMutationRow where
  batchId := batchId
  mutationId := dependency.operationId.toHyphenated
  dependencyKind := .typed dependency.kind
  operationId := some dependency.operationId
  committedEvidenceId := none
  state := .pending

/-- The intent of a dependency is registered, and it is of the declared kind. -/
def requireDependency (dependency : ChangeBatchDependency) : StoreProgram Unit := do
  let kind ← loadMutationKind dependency.operationId
  let kind ← the kind .mutationNotFound
  Program.reject (kind ≠ dependency.kind.requiredOperationKind) .mutationCollision
  let state ← loadMutationState dependency.operationId
  Program.reject (state = none) .mutationCollision

/-- `begin_r3_change_batch`. -/
def beginR3ChangeBatch (vaultId batchId : Uuid) (expectedCursor nextCursor : String)
    (dependencies : List ChangeBatchDependency) : StoreProgram Unit := do
  Program.reject batchId.isNil .invalidStateTransition
  lift (validateRemoteToken expectedCursor)
  lift (validateRemoteToken nextCursor)
  Program.reject (¬ (dependencies.map (·.operationId)).Nodup ∨
    dependencies.any (fun dependency => dependency.operationId = Uuid.nil)) .mutationCollision
  transaction do
    requireCursor vaultId expectedCursor
    let active ← loadChangeBatch
    Program.reject active.isSome .batchAlreadyActive
    dependencies.forM requireDependency
    insertChangeBatch { batchId, expectedCursor, nextCursor }
    dependencies.forM fun dependency => insertBatchMutation (r3Mutation batchId dependency)

/-- What an evidence record has to say to complete a mutation in this state. -/
def isCompletionEvidence (state : MutationState) (evidence : MutationVerificationEvidence) :
    Bool :=
  evidence.operationId == state.operationId && evidence.capturePhase == .postVerify &&
    evidence.disposition == .verifiedApplied && !evidence.forbiddenSideEffect &&
    evidence.attemptNumber == state.attemptNumber && evidence.outcomeCode == state.outcomeCode

/-- The event of the completion. -/
def isCompletionEvent (state : MutationState) (evidenceId : Uuid) (event : MutationEvent) : Bool :=
  event.operationId == state.operationId && event.evidenceId == some evidenceId &&
    event.attemptNumber == state.attemptNumber && event.stateVersion == state.stateVersion &&
    event.phase == .completed && event.disposition == some .verifiedApplied &&
    event.outcomeCode == state.outcomeCode

/-- The operation is completed, and this is its evidence. -/
def requireExactR3CompletionEvidence (operationId evidenceId : Uuid) : StoreProgram Unit := do
  let state ← loadMutationState operationId
  let state ← the state .mutationNotFound
  Program.reject (state.phase = .needsReconcile) .mutationNeedsReconcile
  Program.reject (state.phase ≠ .completed ∨ state.disposition ≠ some .verifiedApplied ∨
    state.lastEvidenceId ≠ some evidenceId) .localMutationIncomplete
  let evidence ← read (·.mutationEvidence.lookup evidenceId)
  require (evidence.any (isCompletionEvidence state)) .localMutationIncomplete
  lift (u64ToI64 state.stateVersion)
  let completed ← read fun db =>
    db.mutationEvents.rows.any (isCompletionEvent state evidenceId)
  Program.reject (!completed) .localMutationIncomplete

/-- A dependency is committed once; binding the same evidence again is allowed. -/
def checkDependencyState (row : BatchMutationRow) (evidenceId : Uuid) : Except Error Unit :=
  match row.state with
  | .committed => Check.reject (row.committedEvidenceId ≠ some evidenceId) .mutationCollision
  | .pending => .ok ()
  | .applying | .needsReconcile => .error .mutationNeedsReconcile

/-- `commit_r3_change_dependency`. -/
def commitR3ChangeDependency (batchId : Uuid) (dependency : ChangeBatchDependency)
    (evidenceId : Uuid) : StoreProgram Unit := do
  Program.reject (batchId.isNil || dependency.operationId.isNil || evidenceId.isNil)
    .invalidStateTransition
  transaction do
    let _ ← requireBatch batchId
    let row ← read fun db =>
      db.changeBatchMutations.lookup (batchId, dependency.operationId.toHyphenated)
    let row ← the row .unknownMutation
    Program.reject (row.dependencyKind ≠ .typed dependency.kind ∨
      row.operationId ≠ some dependency.operationId) .mutationCollision
    let kind ← loadMutationKind dependency.operationId
    let kind ← the kind .mutationNotFound
    Program.reject (kind ≠ dependency.kind.requiredOperationKind) .mutationCollision
    lift (checkDependencyState row evidenceId)
    requireExactR3CompletionEvidence dependency.operationId evidenceId
    if row.state = .committed then pure ()
    else
      let changed ← commitBatchMutations
        (fun row => decide (row.batchId = batchId ∧
          row.mutationId = dependency.operationId.toHyphenated ∧
          row.dependencyKind = .typed dependency.kind ∧
          row.operationId = some dependency.operationId ∧ row.state = .pending ∧
          row.committedEvidenceId = none)) evidenceId
      Program.reject (changed ≠ 1) .mutationStateVersionMismatch

/-- `intent.operation_kind` is not the one the dependency requires. -/
def hasOtherKind (dependency : BatchMutationRow) (intent : Option MutationIntent) : Bool :=
  match dependency.dependencyKind with
  | .typed kind =>
      differs (intent.map (·.operationKind)) (some kind.requiredOperationKind)
  | .legacyV3 => false

/-- An event of the completion that the dependency is bound to. -/
def hasCompletionEvent (db : Database) (dependency : BatchMutationRow)
    (state : Option MutationState) : Bool :=
  db.mutationEvents.rows.any fun event =>
    equals (some event.operationId) dependency.operationId &&
      equals event.evidenceId dependency.committedEvidenceId &&
      equals (some event.attemptNumber) (state.map (·.attemptNumber)) &&
      equals (some event.stateVersion) (state.map (·.stateVersion)) &&
      event.phase == .completed && event.disposition == some .verifiedApplied &&
      event.outcomeCode == state.bind (·.outcomeCode)

/-- The condition of the query that counts the incomplete dependencies; the joined
rows may be missing, and then their columns are NULL. -/
def isIncompleteDependency (db : Database) (dependency : BatchMutationRow) : Bool :=
  let intent := dependency.operationId.bind db.mutationIntents.lookup
  let state := dependency.operationId.bind db.mutationState.lookup
  let evidence := dependency.committedEvidenceId.bind db.mutationEvidence.lookup
  dependency.dependencyKind == .legacyV3 || dependency.operationId.isNone ||
    dependency.committedEvidenceId.isNone || dependency.state != .committed ||
    intent.isNone || hasOtherKind dependency intent ||
    differs (state.map (·.phase)) (some .completed) ||
    differs (state.bind (·.disposition)) (some .verifiedApplied) ||
    differs (state.bind (·.lastEvidenceId)) dependency.committedEvidenceId ||
    differs (evidence.map (·.operationId)) dependency.operationId ||
    differs (evidence.map (·.capturePhase)) (some .postVerify) ||
    differs (evidence.map (·.disposition)) (some .verifiedApplied) ||
    evidence.any (·.forbiddenSideEffect) || !hasCompletionEvent db dependency state

/-- How many dependencies of the batch are not over. -/
def incompleteDependencyCount (batchId : Uuid) : StoreProgram ℕ :=
  read fun db => db.changeBatchMutations.count fun row =>
    decide (row.batchId = batchId) && isIncompleteDependency db row

/-- The end of every commit: the cursor moves and the batch is gone. -/
def finishBatch (batch : ChangeBatch) (nowUnixMs : ℕ) : StoreProgram Unit := do
  advanceCursor batch.expectedCursor batch.nextCursor nowUnixMs
  deleteChangeBatch

/-- `commit_r3_change_batch`: the cursor moves when all dependencies are over. -/
def commitR3ChangeBatch (batchId : Uuid) (nowUnixMs : ℕ) : StoreProgram Unit := do
  lift (u64ToI64 nowUnixMs)
  transaction do
    let batch ← requireBatch batchId
    let legacy ← legacyV3DependencyCount batchId
    let transferBacked ← transferBackedMutationCount batchId
    Program.reject (legacy ≠ 0 ∨ transferBacked ≠ 0) .invalidStateTransition
    let incomplete ← incompleteDependencyCount batchId
    Program.reject (incomplete ≠ 0) .localMutationIncomplete
    finishBatch batch nowUnixMs

/-! ## Local mutations -/

/-- The mutation belongs to the active batch and is a legacy one. -/
def requireLegacyMutation (batchId : Uuid) (mutationId : String) : StoreProgram Unit := do
  lift (validateRedactedCode mutationId)
  let _ ← requireBatch batchId
  let legacy ← isLegacyV3Dependency batchId mutationId
  Program.reject (!legacy) .invalidStateTransition

/-- Moves one mutation from a state to another: the number of rows it matches. -/
def moveLocalMutation (batchId : Uuid) (mutationId : String) (source target : LocalMutationState) :
    StoreProgram ℕ :=
  updateBatchMutations (fun row => decide (row.key = (batchId, mutationId) ∧ row.state = source))
    target

/-- Why a mutation could not begin. -/
def refuseBegin : Option LocalMutationState → StoreProgram Unit
  | some .applying | some .needsReconcile => throw .mutationNeedsReconcile
  | some .committed => throw .invalidStateTransition
  | some .pending | none => throw .unknownMutation

/-- `begin_local_mutation`. -/
def beginLocalMutation (batchId : Uuid) (mutationId : String) : StoreProgram Unit := do
  requireLegacyMutation batchId mutationId
  let transferBacked ← isTransferBackedMutation batchId mutationId
  Program.reject transferBacked .invalidStateTransition
  let changed ← moveLocalMutation batchId mutationId .pending .applying
  if changed = 1 then pure ()
  else
    let state ← loadLocalMutationState batchId mutationId
    refuseBegin state

/-- `mark_local_mutation_committed`. -/
def markLocalMutationCommitted (batchId : Uuid) (mutationId : String) : StoreProgram Unit := do
  requireLegacyMutation batchId mutationId
  let transferBacked ← isTransferBackedMutation batchId mutationId
  Program.reject transferBacked .invalidStateTransition
  let changed ← moveLocalMutation batchId mutationId .applying .committed
  if changed = 1 then pure ()
  else
    let state ← loadLocalMutationState batchId mutationId
    throw (if state.isSome then .invalidStateTransition else .unknownMutation)

/-- `reset_local_mutation_after_verified_absence`. -/
def resetLocalMutationAfterVerifiedAbsence (batchId : Uuid) (mutationId : String) :
    StoreProgram Unit := do
  requireLegacyMutation batchId mutationId
  let changed ← moveLocalMutation batchId mutationId .applying .pending
  Program.reject (changed ≠ 1) .invalidStateTransition

/-! ## Committing and aborting -/

/-- `commit_change_batch`. -/
def commitChangeBatch (batchId : Uuid) (nowUnixMs : ℕ) : StoreProgram Unit := do
  lift (u64ToI64 nowUnixMs)
  transaction do
    let batch ← requireBatch batchId
    let transferBacked ← transferBackedMutationCount batchId
    Program.reject (transferBacked ≠ 0) .invalidStateTransition
    let typed ← typedR3DependencyCount batchId
    Program.reject (typed ≠ 0) .invalidStateTransition
    let legacy ← legacyV3DependencyCount batchId
    Program.reject (legacy ≠ 0) .localMutationIncomplete
    Program.reject (batch.applyingMutations ≠ 0 ∨
      batch.declaredMutations ≠ batch.committedMutations) .localMutationIncomplete
    finishBatch batch nowUnixMs

/-- The condition of the query that counts the mutations without exact evidence. -/
def isIncompleteMutation (db : Database) (mutation : BatchMutationRow) : Bool :=
  let transfer := db.transfers.rows.find? fun transfer =>
    transfer.operationId.toHyphenated = mutation.mutationId
  let history := transfer.bind fun transfer => db.transferHistory.lookup transfer.operationId
  let remote := (transfer.bind (·.remoteFileId)).bind db.remoteEntries.lookup
  let verifiedLocal := transfer.bind (·.verifiedLocalRevision)
  let verifiedRemote := transfer.bind (·.verifiedRemoteRevision)
  let expectedRemote := transfer.bind (·.expectedRemoteRevision)
  let base := remote.bind (·.base)
  mutation.state != .committed || differs (transfer.map (·.direction)) (some .download) ||
    differs (transfer.map (·.phase)) (some .completed) || history.isNone ||
    (transfer.bind (·.remoteFileId)).isNone || (transfer.bind (·.baseReference)).isNone ||
    verifiedLocal.isNone || verifiedRemote.isNone || expectedRemote.isNone ||
    differs expectedRemote verifiedRemote || remote.isNone ||
    differs (remote.map (·.entry.parentId)) (transfer.map (·.remoteParentId)) ||
    differs (remote.map (·.entry.path)) (transfer.map (·.portablePath)) ||
    differs (remote.map (·.entry.kind)) (some .file) ||
    differs (remote.map (·.entry.remoteRevision)) verifiedRemote ||
    differs (base.map (·.localRevision)) verifiedLocal ||
    differs (base.map (·.remoteRevision)) verifiedRemote ||
    differs (base.map (·.contentHash)) (transfer.map (·.sha256)) ||
    differs (base.map (·.byteLength)) (transfer.map (·.byteLength)) ||
    (remote.bind (·.entry.contentHash)).any fun hash =>
      hash.algorithm == .sha256 && differs (some hash.hex) (transfer.map (·.sha256))

/-- How many mutations of the batch are not over. -/
def incompleteMutationCount (batchId : Uuid) : StoreProgram ℕ :=
  read fun db => db.changeBatchMutations.count fun row =>
    decide (row.batchId = batchId) && isIncompleteMutation db row

/-- `commit_transfer_change_batch`. -/
def commitTransferChangeBatch (batchId : Uuid) (nowUnixMs : ℕ) : StoreProgram Unit := do
  lift (u64ToI64 nowUnixMs)
  transaction do
    let batch ← requireBatch batchId
    let typed ← typedR3DependencyCount batchId
    Program.reject (typed ≠ 0) .invalidStateTransition
    let legacy ← legacyV3DependencyCount batchId
    Program.reject (legacy ≠ 0) .localMutationIncomplete
    Program.reject (batch.applyingMutations ≠ 0 ∨
      batch.declaredMutations ≠ batch.committedMutations) .localMutationIncomplete
    let incomplete ← incompleteMutationCount batchId
    Program.reject (incomplete ≠ 0) .localMutationIncomplete
    finishBatch batch nowUnixMs

/-- `abort_change_batch`: a batch on which nothing was done is given up. -/
def abortChangeBatch (batchId : Uuid) : StoreProgram Unit :=
  transaction do
    let active ← requireBatch batchId
    let transferBacked ← transferBackedMutationCount batchId
    Program.reject (transferBacked ≠ 0) .mutationNeedsReconcile
    Program.reject (active.applyingMutations ≠ 0 ∨ active.committedMutations ≠ 0)
      .mutationNeedsReconcile
    let touched ← read fun db => db.changeBatchMutations.count fun row =>
      decide (row.batchId = batchId ∧ row.state ≠ .pending)
    Program.reject (touched ≠ 0) .mutationNeedsReconcile
    deleteChangeBatch

/-! ## Footprints -/

section Footprints

variable {parts : List Part} {R : Database → Database → Prop} {u : Unicode}
  {vaultId batchId : Uuid} {expectedCursor nextCursor mutationId : String} {nowUnixMs : ℕ}

instance [Std.Refl R] [IsTrans Database R] : Keeps R (requireCursor vaultId expectedCursor) := by
  unfold requireCursor
  infer_instance

instance [Std.Refl R] [IsTrans Database R] : Keeps R (requireBatch batchId) := by
  unfold requireBatch
  infer_instance

instance [Std.Refl R] [IsTrans Database R] :
    Keeps R (requireLegacyMutation batchId mutationId) := by
  unfold requireLegacyMutation
  infer_instance

set_option synthInstance.maxSize 10000000 in
instance beginChangeBatch_onlyWrites {mutationIds : List String} :
    Keeps (OnlyWrites [.changeBatch, .declaredMutations, .batchProgress])
      (beginChangeBatch vaultId batchId expectedCursor nextCursor mutationIds) := by
  unfold beginChangeBatch
  infer_instance

instance {change : RemoteChange} [Listed .remoteEntries parts] :
    Keeps (OnlyWrites parts) (upsertChange u change) := by
  cases change <;> unfold upsertChange <;> infer_instance

instance {transfer : TransferRecord} [Listed .transfers parts] [Listed .declaredMutations parts]
    [Listed .batchProgress parts] :
    Keeps (OnlyWrites parts) (declareDownload u batchId transfer) := by
  unfold declareDownload
  infer_instance

set_option synthInstance.maxSize 10000000 in
instance beginTransferChangeBatch_onlyWrites {changes : List RemoteChange}
    {downloads : List TransferRecord} :
    Keeps (OnlyWrites [.changeBatch, .declaredMutations, .batchProgress, .remoteEntries,
      .transfers]) (beginTransferChangeBatch u vaultId batchId expectedCursor nextCursor changes
        downloads) := by
  unfold beginTransferChangeBatch
  infer_instance

set_option synthInstance.maxSize 10000000 in
instance beginR3ChangeBatch_onlyWrites {dependencies : List ChangeBatchDependency} :
    Keeps (OnlyWrites [.changeBatch, .declaredMutations, .batchProgress])
      (beginR3ChangeBatch vaultId batchId expectedCursor nextCursor dependencies) := by
  unfold beginR3ChangeBatch requireDependency
  infer_instance

set_option synthInstance.maxSize 10000000 in
instance commitR3ChangeDependency_onlyWrites {dependency : ChangeBatchDependency}
    {evidenceId : Uuid} :
    Keeps (OnlyWrites [.batchProgress])
      (commitR3ChangeDependency batchId dependency evidenceId) := by
  unfold commitR3ChangeDependency requireExactR3CompletionEvidence
  infer_instance

instance {batch : ChangeBatch} [Listed .vaultState parts] [Listed .changeBatch parts]
    [Listed .declaredMutations parts] [Listed .batchProgress parts] :
    Keeps (OnlyWrites parts) (finishBatch batch nowUnixMs) := by
  unfold finishBatch
  infer_instance

set_option synthInstance.maxSize 10000000 in
instance commitR3ChangeBatch_onlyWrites :
    Keeps (OnlyWrites [.vaultState, .changeBatch, .declaredMutations, .batchProgress])
    (commitR3ChangeBatch batchId nowUnixMs) := by
  unfold commitR3ChangeBatch incompleteDependencyCount
  infer_instance

instance {source target : LocalMutationState} [Listed .batchProgress parts] :
    Keeps (OnlyWrites parts) (moveLocalMutation batchId mutationId source target) := by
  unfold moveLocalMutation
  infer_instance

instance [Std.Refl R] {state : Option LocalMutationState} : Keeps R (refuseBegin state) := by
  cases state with
  | none =>
      unfold refuseBegin
      infer_instance
  | some state => cases state <;> unfold refuseBegin <;> infer_instance

instance beginLocalMutation_onlyWrites :
    Keeps (OnlyWrites [.batchProgress]) (beginLocalMutation batchId mutationId) := by
  unfold beginLocalMutation
  infer_instance

instance markLocalMutationCommitted_onlyWrites :
    Keeps (OnlyWrites [.batchProgress]) (markLocalMutationCommitted batchId mutationId) := by
  unfold markLocalMutationCommitted
  infer_instance

instance resetLocalMutationAfterVerifiedAbsence_onlyWrites : Keeps (OnlyWrites [.batchProgress])
    (resetLocalMutationAfterVerifiedAbsence batchId mutationId) := by
  unfold resetLocalMutationAfterVerifiedAbsence
  infer_instance

set_option synthInstance.maxSize 10000000 in
instance commitChangeBatch_onlyWrites :
    Keeps (OnlyWrites [.vaultState, .changeBatch, .declaredMutations, .batchProgress])
    (commitChangeBatch batchId nowUnixMs) := by
  unfold commitChangeBatch
  infer_instance

set_option synthInstance.maxSize 10000000 in
instance commitTransferChangeBatch_onlyWrites :
    Keeps (OnlyWrites [.vaultState, .changeBatch, .declaredMutations, .batchProgress])
    (commitTransferChangeBatch batchId nowUnixMs) := by
  unfold commitTransferChangeBatch incompleteMutationCount
  infer_instance

instance abortChangeBatch_onlyWrites :
    Keeps (OnlyWrites [.changeBatch, .declaredMutations, .batchProgress])
    (abortChangeBatch batchId) := by
  unfold abortChangeBatch
  infer_instance

end Footprints

end Store
end MyVault
