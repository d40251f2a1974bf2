import MyVault.Library.Table
import MyVault.Store.Validation

/-!
# The database of one vault

The tables of schema version 5, and the statements `store.rs` runs on them.  A table
carries its primary key; a statement checks the rest of the schema: `UNIQUE` and
`FOREIGN KEY` columns, and the row conditions that the types do not already express.
`foreign_keys` is on, so deleting the change batch deletes its mutations too.  The
history tables are keyed by their `UNIQUE` operation; SQLite numbers their rows.

The column types are the enumerations of the source, not their spellings: only
the store writes the database, and it writes and parses them by the same table.
The automatic indices do not matter here.
-/

namespace MyVault
namespace Store

open Check Table

/-! ## Rows -/

/-- Verified three-way base of a remote file. -/
structure RemoteBaseEvidence where
  localRevision : String
  remoteRevision : String
  contentHash : String
  byteLength : ℕ
  deriving DecidableEq, Repr

/-- A row of `remote_entries`; the schema keeps the base columns together. -/
structure RemoteEntryRow where
  entry : RemoteEntry
  base : Option RemoteBaseEvidence
  deriving DecidableEq, Repr

/-- A folder that the scan is to list. -/
structure FrontierRow where
  sequence : ℕ
  folderId : String
  portablePath : String
  pageToken : Option String
  deriving DecidableEq, Repr

/-- A row of `sync_history` or `transfer_history`. -/
structure HistoryRow where
  eventId : ℕ
  operationId : Uuid
  outcomeCode : String
  occurredAtUnixMs : ℕ
  deriving DecidableEq

/-- The batch that is open. -/
structure ChangeBatchRow where
  batchId : Uuid
  expectedCursor : String
  nextCursor : String
  deriving DecidableEq

/-- The column `dependency_kind`. -/
inductive DependencyKind where
  | typed (kind : ChangeBatchDependencyKind)
  | legacyV3
  deriving DecidableEq, Repr

/-- A mutation that the batch waits for. -/
structure BatchMutationRow where
  batchId : Uuid
  mutationId : String
  dependencyKind : DependencyKind
  operationId : Option Uuid
  committedEvidenceId : Option Uuid
  state : LocalMutationState
  deriving DecidableEq

/-- The primary key of `change_batch_mutations`. -/
def BatchMutationRow.key (row : BatchMutationRow) : Uuid × String := (row.batchId, row.mutationId)

/-- The mutation in another state. -/
def BatchMutationRow.moveTo (state : LocalMutationState) (row : BatchMutationRow) :
    BatchMutationRow := { row with state }

@[simp] theorem BatchMutationRow.moveTo_key (state : LocalMutationState)
    (row : BatchMutationRow) : (row.moveTo state).key = row.key := rfl

/-- The mutation, committed on some evidence. -/
def BatchMutationRow.commit (evidenceId : Uuid) (row : BatchMutationRow) : BatchMutationRow :=
  { row with state := .committed, committedEvidenceId := some evidenceId }

@[simp] theorem BatchMutationRow.commit_key (evidenceId : Uuid) (row : BatchMutationRow) :
    (row.commit evidenceId).key = row.key := rfl

/-- The tables of the store. -/
structure Database where
  vaultState : Option VaultSyncState
  remoteEntries : Table fun row : RemoteEntryRow => row.entry.fileId
  scanFrontier : Table FrontierRow.sequence
  syncJobs : Table QueueJob.operationId
  syncHistory : Table HistoryRow.operationId
  changeBatch : Option ChangeBatchRow
  changeBatchMutations : Table BatchMutationRow.key
  mutationIntents : Table MutationIntent.operationId
  mutationState : Table MutationState.operationId
  mutationEvents : Table MutationEvent.eventId
  mutationEvidence : Table MutationVerificationEvidence.evidenceId
  conflictEvidence : Table ConflictEvidence.conflictId
  transfers : Table TransferRecord.operationId
  transferHistory : Table HistoryRow.operationId
  deriving DecidableEq

/-- The database `migrate` creates. -/
def Database.empty : Database where
  vaultState := none
  remoteEntries := .empty
  scanFrontier := .empty
  syncJobs := .empty
  syncHistory := .empty
  changeBatch := none
  changeBatchMutations := .empty
  mutationIntents := .empty
  mutationState := .empty
  mutationEvents := .empty
  mutationEvidence := .empty
  conflictEvidence := .empty
  transfers := .empty
  transferHistory := .empty

/-- A call of the store. -/
abbrev StoreProgram (α : Type) := Program Database Error α

open Program

/-- The `rowid` SQLite gives to a new row. -/
def nextRowid (rowids : List ℕ) : ℕ := rowids.foldr max 0 + 1

/-! ## Vault state -/

/-- What `load_state` checks of the row. -/
def checkStateRow (expectedVaultId : Uuid) (state : VaultSyncState) : Except Error Unit := do
  reject state.vaultId.isNil .invalidSchema
  reject (state.vaultId ≠ expectedVaultId) .bindingCollision
  validateRemoteId state.remoteRootId
  eachSome validateRemoteId [state.accountId]
  eachSome validateRemoteToken
    [state.startToken, state.scanPageToken, state.changesPageToken, state.durableCursor]

/-- The state of the vault. -/
def loadState (expectedVaultId : Uuid) : StoreProgram (Option VaultSyncState) := do
  let row ← read (·.vaultState)
  lift (each (checkStateRow expectedVaultId) row.toList)
  pure row

/-- It has to be there. -/
def requireState (expectedVaultId : Uuid) : StoreProgram VaultSyncState := do
  let state ← loadState expectedVaultId
  the state .invalidStateTransition

/-- `UPDATE vault_state SET … WHERE singleton = 1`. -/
def updateVaultState (f : VaultSyncState → VaultSyncState) : StoreProgram Unit :=
  write fun db => { db with vaultState := db.vaultState.map f }

/-- The `UPDATE` that advances the durable cursor, and the check of its row count. -/
def advanceCursor (expectedCursor nextCursor : String) (nowUnixMs : ℕ) : StoreProgram Unit := do
  let state ← read (·.vaultState)
  reject (!state.any fun state =>
    state.phase == .ready && state.durableCursor == some expectedCursor) .cursorMismatch
  updateVaultState fun state =>
    { state with durableCursor := some nextCursor, updatedAtUnixMs := nowUnixMs }

/-! ## Mutations -/

/-- What `row_to_mutation_state` checks of the row. -/
def checkMutationStateRow (state : MutationState) : Except Error Unit := do
  reject state.operationId.isNil .invalidSchema
  reject (2 ^ 32 ≤ state.attemptNumber) .invalidSchema
  reject (state.lastEvidenceId.any Uuid.isNil) .invalidSchema
  eachSome validateRedactedCode [state.outcomeCode]

/-- The state of an intent. -/
def loadMutationState (operationId : Uuid) : StoreProgram (Option MutationState) := do
  let row ← read (·.mutationState.lookup operationId)
  lift (each checkMutationStateRow row.toList)
  pure row

/-- `load_mutation_kind`; no caller uses the identifier it also returns. -/
def loadMutationKind (operationId : Uuid) : StoreProgram (Option MutationOperationKind) :=
  read fun db => (db.mutationIntents.lookup operationId).map (·.operationKind)

/-- `load_mutation_identity`: the fingerprint and the marker of an intent. -/
def loadMutationIdentity (operationId : Uuid) : StoreProgram (Option (String × String)) :=
  read fun db => (db.mutationIntents.lookup operationId).map fun row =>
    (row.intentFingerprint, row.operationMarker)

/-- An intent with this marker is registered. -/
def mutationMarkerExists (marker : String) : StoreProgram Bool :=
  read fun db => db.mutationIntents.rows.any fun row => row.operationMarker = marker

/-- `(hash IS NULL AND size IS NULL) OR (hash IS NOT NULL AND size IS NOT NULL)`. -/
def paired (hash : Option String) (size : Option ℕ) : Bool := hash.isSome == size.isSome

/-- The evidence a row names is there. -/
def evidenceExists (db : Database) (evidenceId : Option Uuid) : Bool :=
  evidenceId.all fun id => (db.mutationEvidence.lookup id).isSome

/-- The foreign key to the intents holds. -/
def intentExists (db : Database) (operationId : Uuid) : Bool :=
  (db.mutationIntents.lookup operationId).isSome

/-- `INSERT INTO mutation_intents`. -/
def insertMutationIntent (intent : MutationIntent) : StoreProgram Unit := do
  lift (each u64ToI64 intent.baseByteLength.toList)
  lift (each u64ToI64 intent.expectedLocalByteLength.toList)
  lift (each u64ToI64 intent.expectedRemoteByteLength.toList)
  lift (u64ToI64 intent.registeredAtUnixMs)
  let marked ← mutationMarkerExists intent.operationMarker
  reject marked .database
  require (paired intent.baseSha256 intent.baseByteLength ∧
    paired intent.expectedLocalSha256 intent.expectedLocalByteLength ∧
    paired intent.expectedRemoteSha256 intent.expectedRemoteByteLength) .database
  let inserted ← read (·.mutationIntents.insert intent)
  let table ← the inserted .database
  write fun db => { db with mutationIntents := table }

/-- The conditions of the schema on a row of `mutation_state`. -/
def mutationStateRowOk (state : MutationState) : Bool :=
  (state.phase == .retryScheduled) == state.nextAttemptAtUnixMs.isSome &&
    match state.retryMode with
    | none | some .restartExact => state.resumeReference.isNone
    | some .resumeExact => state.resumeReference.isSome

/-- The numbers of a state row that have to fit a column. -/
def checkMutationStateNumbers (state : MutationState) : Except Error Unit := do
  u64ToI64 state.stateVersion
  each u64ToI64 state.nextAttemptAtUnixMs.toList
  u64ToI64 state.updatedAtUnixMs

/-- `INSERT INTO mutation_state`. -/
def insertMutationState (state : MutationState) : StoreProgram Unit := do
  lift (checkMutationStateNumbers state)
  let db ← read id
  require (intentExists db state.operationId ∧ evidenceExists db state.lastEvidenceId ∧
    mutationStateRowOk state) .database
  let table ← the (db.mutationState.insert state) .database
  write fun db => { db with mutationState := table }

/-- `WHERE operation_id = … AND state_version = …`. -/
def atVersion (operationId : Uuid) (version : ℕ) (row : MutationState) : Bool :=
  decide (row.operationId = operationId ∧ row.stateVersion = version)

/-- Replaces the row of a state at a version. -/
def replaceMutationState (table : Table MutationState.operationId) (state : MutationState)
    (expectedVersion : ℕ) : Table MutationState.operationId :=
  table.update (atVersion state.operationId expectedVersion) (fun _ => state) fun _ h =>
    ((of_decide_eq_true h).1).symm

/-- `UPDATE mutation_state SET … WHERE operation_id = … AND state_version = …`, with
the check of its row count. -/
def updateMutationState (state : MutationState) (expectedVersion : ℕ) : StoreProgram Unit := do
  lift (checkMutationStateNumbers state)
  lift (u64ToI64 expectedVersion)
  let db ← read id
  let changed := db.mutationState.count (atVersion state.operationId expectedVersion)
  require (changed = 0 ∨ (evidenceExists db state.lastEvidenceId ∧ mutationStateRowOk state))
    .database
  write fun db =>
    { db with mutationState := replaceMutationState db.mutationState state expectedVersion }
  reject (changed ≠ 1) .mutationStateVersionMismatch

/-- `INSERT INTO mutation_verification_evidence`. -/
def insertMutationEvidence (evidence : MutationVerificationEvidence) : StoreProgram Unit := do
  lift (each u64ToI64 evidence.observedByteLength.toList)
  lift (each u64ToI64 evidence.verifiedReceivedByteOffset.toList)
  lift (u64ToI64 evidence.capturedAtUnixMs)
  let db ← read id
  require (intentExists db evidence.operationId ∧
    paired evidence.observedSha256 evidence.observedByteLength) .database
  let table ← the (db.mutationEvidence.insert evidence) .database
  write fun db => { db with mutationEvidence := table }

/-- Appends an event; the database numbers it. -/
def insertMutationEvent (operationId : Uuid) (attemptNumber stateVersion : ℕ)
    (phase : MutationPhase) (disposition : Option MutationDisposition) (evidenceId : Option Uuid)
    (outcomeCode : Option String) (occurredAtUnixMs : ℕ) : StoreProgram Unit := do
  lift (eachSome validateRedactedCode [outcomeCode])
  lift (u64ToI64 stateVersion)
  lift (u64ToI64 occurredAtUnixMs)
  let db ← read id
  require (intentExists db operationId ∧ evidenceExists db evidenceId) .database
  let eventId := nextRowid (db.mutationEvents.rows.map (·.eventId))
  let table ← the (db.mutationEvents.insert
    { eventId, operationId, attemptNumber, stateVersion, phase, disposition, evidenceId
      outcomeCode, occurredAtUnixMs }) .database
  write fun db => { db with mutationEvents := table }

/-- `conflict_evidence_copy_idx`: no envelope names the copy yet. -/
def copyUnclaimed (db : Database) (copyId : Option Uuid) : Bool :=
  copyId.all fun id => db.conflictEvidence.count (fun row =>
    row.conflictCopyOperationId == some id) == 0

/-- `INSERT INTO conflict_evidence`. -/
def insertConflictEvidence (evidence : ConflictEvidence) : StoreProgram Unit := do
  lift (each u64ToI64 evidence.baseByteLength.toList)
  lift (each u64ToI64 evidence.localByteLength.toList)
  lift (each u64ToI64 evidence.remoteByteLength.toList)
  lift (each u64ToI64 evidence.expectedConflictCopyByteLength.toList)
  lift (u64ToI64 evidence.capturedAtUnixMs)
  let db ← read id
  require (copyUnclaimed db evidence.conflictCopyOperationId ∧
    intentExists db evidence.operationId ∧
    evidence.conflictCopyOperationId.all (fun id => intentExists db id) ∧
    evidenceExists db evidence.baseEvidenceId ∧ evidenceExists db evidence.localEvidenceId ∧
    evidenceExists db evidence.remoteEvidenceId ∧
    paired evidence.baseSha256 evidence.baseByteLength ∧
    paired evidence.localSha256 evidence.localByteLength ∧
    paired evidence.remoteSha256 evidence.remoteByteLength ∧
    paired evidence.expectedConflictCopySha256 evidence.expectedConflictCopyByteLength) .database
  let table ← the (db.conflictEvidence.insert evidence) .database
  write fun db => { db with conflictEvidence := table }

/-! ## Change batches -/

/-- `load_change_batch`: the active batch and how far its mutations are. -/
def loadChangeBatch : StoreProgram (Option ChangeBatch) := do
  let db ← read id
  lift (each (fun row : ChangeBatchRow => do
    validateRemoteToken row.expectedCursor
    validateRemoteToken row.nextCursor
    reject row.batchId.isNil .invalidSchema) db.changeBatch.toList)
  pure <| db.changeBatch.map fun row =>
    let ofBatch := fun mutation : BatchMutationRow => decide (mutation.batchId = row.batchId)
    { batchId := row.batchId
      expectedCursor := row.expectedCursor
      nextCursor := row.nextCursor
      declaredMutations := db.changeBatchMutations.count ofBatch
      applyingMutations := db.changeBatchMutations.count fun mutation =>
        ofBatch mutation && mutation.state == .applying
      committedMutations := db.changeBatchMutations.count fun mutation =>
        ofBatch mutation && mutation.state == .committed }

/-- `INSERT INTO change_batch`. -/
def insertChangeBatch (row : ChangeBatchRow) : StoreProgram Unit := do
  let existing ← read (·.changeBatch)
  require (existing = none) .database
  write fun db => { db with changeBatch := some row }

/-- `DELETE FROM change_batch WHERE singleton = 1`; the mutations follow. -/
def deleteChangeBatch : StoreProgram Unit :=
  write fun db =>
    { db with
      changeBatch := none
      changeBatchMutations := db.changeBatchMutations.delete fun mutation =>
        db.changeBatch.any fun row => mutation.batchId = row.batchId }

/-- `INSERT INTO change_batch_mutations`. -/
def insertBatchMutation (mutation : BatchMutationRow) : StoreProgram Unit := do
  let db ← read id
  require (db.changeBatch.any (fun row => row.batchId = mutation.batchId) ∧
    mutation.operationId.all (fun id => intentExists db id) ∧
    evidenceExists db mutation.committedEvidenceId) .database
  let table ← the (db.changeBatchMutations.insert mutation) .database
  write fun db => { db with changeBatchMutations := table }

/-- `UPDATE change_batch_mutations SET state = …`: the number of rows it matches. -/
def updateBatchMutations (p : BatchMutationRow → Bool) (state : LocalMutationState) :
    StoreProgram ℕ := do
  let changed ← read (·.changeBatchMutations.count p)
  write fun db =>
    { db with
      changeBatchMutations := db.changeBatchMutations.update p (·.moveTo state) fun row _ =>
        row.moveTo_key state }
  pure changed

/-- `UPDATE change_batch_mutations SET state = 'committed', committed_evidence_id = …`. -/
def commitBatchMutations (p : BatchMutationRow → Bool) (evidenceId : Uuid) : StoreProgram ℕ := do
  let db ← read id
  require (db.changeBatchMutations.count p = 0 ∨ evidenceExists db (some evidenceId)) .database
  write fun db =>
    { db with
      changeBatchMutations := db.changeBatchMutations.update p (·.commit evidenceId) fun row _ =>
        row.commit_key evidenceId }
  pure (db.changeBatchMutations.count p)

/-- The state of a mutation of the batch. -/
def loadLocalMutationState (batchId : Uuid) (mutationId : String) :
    StoreProgram (Option LocalMutationState) :=
  read fun db => (db.changeBatchMutations.lookup (batchId, mutationId)).map (·.state)

/-- `transfer.operation_id = mutation.mutation_id`. -/
def hasTransfer (db : Database) (mutation : BatchMutationRow) : Bool :=
  db.transfers.rows.any fun transfer => transfer.operationId.toHyphenated = mutation.mutationId

/-- The mutation waits for a transfer. -/
def isTransferBackedMutation (batchId : Uuid) (mutationId : String) : StoreProgram Bool :=
  read fun db => (db.changeBatchMutations.lookup (batchId, mutationId)).any (hasTransfer db)

/-- The mutation is known by its name alone. -/
def isLegacyV3Dependency (batchId : Uuid) (mutationId : String) : StoreProgram Bool :=
  read fun db => (db.changeBatchMutations.lookup (batchId, mutationId)).any fun row =>
    row.dependencyKind = .legacyV3

/-- The join with `transfers`, whose keys are unique. -/
def transferBackedMutationCount (batchId : Uuid) : StoreProgram ℕ :=
  read fun db => db.changeBatchMutations.count fun row =>
    decide (row.batchId = batchId) && hasTransfer db row

/-- How many mutations of the batch are known by their names alone. -/
def legacyV3DependencyCount (batchId : Uuid) : StoreProgram ℕ :=
  read fun db => db.changeBatchMutations.count fun row =>
    decide (row.batchId = batchId ∧ row.dependencyKind = .legacyV3)

/-- How many mutations of the batch depend on an operation. -/
def typedR3DependencyCount (batchId : Uuid) : StoreProgram ℕ :=
  read fun db => db.changeBatchMutations.count fun row =>
    decide (row.batchId = batchId ∧ row.dependencyKind ≠ .legacyV3)

end Store
end MyVault
