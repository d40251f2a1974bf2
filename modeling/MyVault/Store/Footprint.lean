import MyVault.Store.Database

/-!
# What a program writes

`OnlyWrites parts` relates the databases before and after a program that leaves
every part but the listed ones alone.  It is reflexive and transitive, so the
footprint of a call follows from those of its statements: unfold the call and let
`infer_instance` compose them.

The rows of `change_batch_mutations` are two parts.  What a batch declares never
changes while the batch is active; how far its mutations are does.
-/

namespace MyVault
namespace Store

open Program

/-- A table, or some of its columns. -/
inductive Part where
  | vaultState
  | remoteEntries
  | scanFrontier
  | syncJobs
  | syncHistory
  | changeBatch
  | declaredMutations
  | batchProgress
  | mutationIntents
  | mutationState
  | mutationEvents
  | mutationEvidence
  | conflictEvidence
  | transfers
  | transferHistory
  deriving DecidableEq

/-- The row as the batch declared it. -/
def BatchMutationRow.declared (row : BatchMutationRow) : BatchMutationRow :=
  { row with state := .pending, committedEvidenceId := none }

@[simp] theorem BatchMutationRow.moveTo_declared (state : LocalMutationState)
    (row : BatchMutationRow) : (row.moveTo state).declared = row.declared := rfl

@[simp] theorem BatchMutationRow.commit_declared (evidenceId : Uuid) (row : BatchMutationRow) :
    (row.commit evidenceId).declared = row.declared := rfl

/-- The mutations the active batch declared. -/
def Database.declared (db : Database) : List BatchMutationRow :=
  db.changeBatchMutations.rows.map BatchMutationRow.declared

/-- The contents of a part. -/
abbrev Part.Content : Part → Type
  | .vaultState => Option VaultSyncState
  | .remoteEntries => Table fun row : RemoteEntryRow => row.entry.fileId
  | .scanFrontier => Table FrontierRow.sequence
  | .syncJobs => Table QueueJob.operationId
  | .changeBatch => Option ChangeBatchRow
  | .declaredMutations => List BatchMutationRow
  | .batchProgress => Table BatchMutationRow.key
  | .mutationIntents => Table MutationIntent.operationId
  | .mutationState => Table MutationState.operationId
  | .mutationEvents => Table MutationEvent.eventId
  | .mutationEvidence => Table MutationVerificationEvidence.evidenceId
  | .conflictEvidence => Table ConflictEvidence.conflictId
  | .transfers => Table TransferRecord.operationId
  | .syncHistory | .transferHistory => Table HistoryRow.operationId

/-- A table of the store. -/
def Database.content (db : Database) : (part : Part) → part.Content
  | .vaultState => db.vaultState
  | .remoteEntries => db.remoteEntries
  | .scanFrontier => db.scanFrontier
  | .syncJobs => db.syncJobs
  | .syncHistory => db.syncHistory
  | .changeBatch => db.changeBatch
  | .declaredMutations => db.declared
  | .batchProgress => db.changeBatchMutations
  | .mutationIntents => db.mutationIntents
  | .mutationState => db.mutationState
  | .mutationEvents => db.mutationEvents
  | .mutationEvidence => db.mutationEvidence
  | .conflictEvidence => db.conflictEvidence
  | .transfers => db.transfers
  | .transferHistory => db.transferHistory

/-- Every part that is not listed is the same in both databases. -/
def OnlyWrites (parts : List Part) (db db' : Database) : Prop :=
  ∀ part, part ∉ parts → db'.content part = db.content part

variable {parts : List Part}

instance : Std.Refl (OnlyWrites parts) := ⟨fun _ _ _ => rfl⟩

instance : IsTrans Database (OnlyWrites parts) :=
  ⟨fun _ _ _ hab hbc part h => (hbc part h).trans (hab part h)⟩

/-- The part is one of the listed ones. -/
class Listed (part : Part) (parts : List Part) : Prop where
  mem : part ∈ parts

instance {part : Part} : Listed part (part :: parts) := ⟨List.mem_cons_self⟩

instance {part other : Part} [h : Listed part parts] : Listed part (other :: parts) :=
  ⟨List.mem_cons_of_mem _ h.mem⟩

/-! ## One table -/

/-- A statement that changes one part. -/
theorem keeps_write {f : Database → Database} (part : Part) [h : Listed part parts]
    (hf : ∀ db other, other ≠ part → (f db).content other = db.content other) :
    Keeps (OnlyWrites parts) (write f : StoreProgram Unit) :=
  .write fun db other hother => hf db other fun heq => hother (heq ▸ h.mem)

section Writes

instance {f : Database → Option VaultSyncState} [Listed .vaultState parts] :
    Keeps (OnlyWrites parts)
      (write fun db => { db with vaultState := f db } : StoreProgram Unit) :=
  keeps_write .vaultState fun db other h => by cases other <;> first | rfl | exact absurd rfl h

instance {f : Database → Table fun row : RemoteEntryRow => row.entry.fileId}
    [Listed .remoteEntries parts] : Keeps (OnlyWrites parts)
      (write fun db => { db with remoteEntries := f db } : StoreProgram Unit) :=
  keeps_write .remoteEntries fun db other h => by cases other <;> first | rfl | exact absurd rfl h

instance {f : Database → Table FrontierRow.sequence} [Listed .scanFrontier parts] :
    Keeps (OnlyWrites parts)
      (write fun db => { db with scanFrontier := f db } : StoreProgram Unit) :=
  keeps_write .scanFrontier fun db other h => by cases other <;> first | rfl | exact absurd rfl h

instance {f : Database → Table QueueJob.operationId} [Listed .syncJobs parts] :
    Keeps (OnlyWrites parts) (write fun db => { db with syncJobs := f db } : StoreProgram Unit) :=
  keeps_write .syncJobs fun db other h => by cases other <;> first | rfl | exact absurd rfl h

instance {f : Database → Table HistoryRow.operationId} [Listed .syncHistory parts] :
    Keeps (OnlyWrites parts)
      (write fun db => { db with syncHistory := f db } : StoreProgram Unit) :=
  keeps_write .syncHistory fun db other h => by cases other <;> first | rfl | exact absurd rfl h

instance {f : Database → Option ChangeBatchRow} [Listed .changeBatch parts] :
    Keeps (OnlyWrites parts)
      (write fun db => { db with changeBatch := f db } : StoreProgram Unit) :=
  keeps_write .changeBatch fun db other h => by cases other <;> first | rfl | exact absurd rfl h

instance {f : Database → Table MutationIntent.operationId} [Listed .mutationIntents parts] :
    Keeps (OnlyWrites parts)
      (write fun db => { db with mutationIntents := f db } : StoreProgram Unit) :=
  keeps_write .mutationIntents fun db other h => by
    cases other <;> first | rfl | exact absurd rfl h

instance {f : Database → Table MutationState.operationId} [Listed .mutationState parts] :
    Keeps (OnlyWrites parts)
      (write fun db => { db with mutationState := f db } : StoreProgram Unit) :=
  keeps_write .mutationState fun db other h => by cases other <;> first | rfl | exact absurd rfl h

instance {f : Database → Table MutationEvent.eventId} [Listed .mutationEvents parts] :
    Keeps (OnlyWrites parts)
      (write fun db => { db with mutationEvents := f db } : StoreProgram Unit) :=
  keeps_write .mutationEvents fun db other h => by cases other <;> first | rfl | exact absurd rfl h

instance {f : Database → Table MutationVerificationEvidence.evidenceId}
    [Listed .mutationEvidence parts] : Keeps (OnlyWrites parts)
      (write fun db => { db with mutationEvidence := f db } : StoreProgram Unit) :=
  keeps_write .mutationEvidence fun db other h => by
    cases other <;> first | rfl | exact absurd rfl h

instance {f : Database → Table ConflictEvidence.conflictId} [Listed .conflictEvidence parts] :
    Keeps (OnlyWrites parts)
      (write fun db => { db with conflictEvidence := f db } : StoreProgram Unit) :=
  keeps_write .conflictEvidence fun db other h => by
    cases other <;> first | rfl | exact absurd rfl h

instance {f : Database → Table TransferRecord.operationId} [Listed .transfers parts] :
    Keeps (OnlyWrites parts) (write fun db => { db with transfers := f db } : StoreProgram Unit) :=
  keeps_write .transfers fun db other h => by cases other <;> first | rfl | exact absurd rfl h

instance {f : Database → Table HistoryRow.operationId} [Listed .transferHistory parts] :
    Keeps (OnlyWrites parts)
      (write fun db => { db with transferHistory := f db } : StoreProgram Unit) :=
  keeps_write .transferHistory fun db other h => by
    cases other <;> first | rfl | exact absurd rfl h

end Writes

/-! ## The mutations of the batch -/

section BatchMutations

/-- An update of the progress columns leaves what is declared. -/
theorem declared_update {p : BatchMutationRow → Bool} {f : BatchMutationRow → BatchMutationRow}
    (hkey : ∀ row, p row = true → (f row).key = row.key)
    (hf : ∀ row, (f row).declared = row.declared) (table : Table BatchMutationRow.key) :
    (table.update p f hkey).rows.map BatchMutationRow.declared =
      table.rows.map BatchMutationRow.declared := by
  show (table.rows.map _).map _ = _
  rw [List.map_map]
  refine List.map_congr_left fun row _ => ?_
  rw [Function.comp_apply]
  split
  · exact hf row
  · rfl

instance {p : BatchMutationRow → Bool} {state : LocalMutationState} [Listed .batchProgress parts] :
    Keeps (OnlyWrites parts) (updateBatchMutations p state) := by
  unfold updateBatchMutations
  refine .bind_of inferInstance fun changed =>
    .bind_of (keeps_write .batchProgress fun db other h => ?_) inferInstance
  cases other
  case declaredMutations =>
    exact declared_update (fun row _ => row.moveTo_key state)
      (fun row => row.moveTo_declared state) _
  case batchProgress => exact absurd rfl h
  all_goals rfl

instance {p : BatchMutationRow → Bool} {evidenceId : Uuid} [Listed .batchProgress parts] :
    Keeps (OnlyWrites parts) (commitBatchMutations p evidenceId) := by
  unfold commitBatchMutations
  refine .bind_of inferInstance fun db => .bind_of inferInstance fun _ =>
    .bind_of (keeps_write .batchProgress fun db other h => ?_) inferInstance
  cases other
  case declaredMutations =>
    exact declared_update (fun row _ => row.commit_key evidenceId)
      (fun row => row.commit_declared evidenceId) _
  case batchProgress => exact absurd rfl h
  all_goals rfl

instance {mutation : BatchMutationRow} [hd : Listed .declaredMutations parts]
    [hp : Listed .batchProgress parts] :
    Keeps (OnlyWrites parts) (insertBatchMutation mutation) := by
  unfold insertBatchMutation
  refine .bind_of inferInstance fun db => .bind_of inferInstance fun _ =>
    .bind_of inferInstance fun table => .write fun db other hother => ?_
  cases other
  case declaredMutations => exact absurd hd.mem hother
  case batchProgress => exact absurd hp.mem hother
  all_goals rfl

instance [hb : Listed .changeBatch parts] [hd : Listed .declaredMutations parts]
    [hp : Listed .batchProgress parts] : Keeps (OnlyWrites parts) deleteChangeBatch := by
  refine .write fun db other hother => ?_
  cases other
  case changeBatch => exact absurd hb.mem hother
  case declaredMutations => exact absurd hd.mem hother
  case batchProgress => exact absurd hp.mem hother
  all_goals rfl

end BatchMutations

/-! ## Reading -/

section Reading

variable {R : Database → Database → Prop} [Std.Refl R] [IsTrans Database R]

instance {vaultId : Uuid} : Keeps R (loadState vaultId) := by
  unfold loadState
  infer_instance

instance {vaultId : Uuid} : Keeps R (requireState vaultId) := by
  unfold requireState
  infer_instance

instance {operationId : Uuid} : Keeps R (loadMutationState operationId) := by
  unfold loadMutationState
  infer_instance

instance {operationId : Uuid} : Keeps R (loadMutationKind operationId) := by
  unfold loadMutationKind
  infer_instance

instance {operationId : Uuid} : Keeps R (loadMutationIdentity operationId) := by
  unfold loadMutationIdentity
  infer_instance

instance {marker : String} : Keeps R (mutationMarkerExists marker) := by
  unfold mutationMarkerExists
  infer_instance

instance : Keeps R loadChangeBatch := by
  unfold loadChangeBatch
  infer_instance

instance {batchId : Uuid} {mutationId : String} :
    Keeps R (loadLocalMutationState batchId mutationId) := by
  unfold loadLocalMutationState
  infer_instance

instance {batchId : Uuid} {mutationId : String} :
    Keeps R (isTransferBackedMutation batchId mutationId) := by
  unfold isTransferBackedMutation
  infer_instance

instance {batchId : Uuid} {mutationId : String} :
    Keeps R (isLegacyV3Dependency batchId mutationId) := by
  unfold isLegacyV3Dependency
  infer_instance

instance {batchId : Uuid} : Keeps R (transferBackedMutationCount batchId) := by
  unfold transferBackedMutationCount
  infer_instance

instance {batchId : Uuid} : Keeps R (legacyV3DependencyCount batchId) := by
  unfold legacyV3DependencyCount
  infer_instance

instance {batchId : Uuid} : Keeps R (typedR3DependencyCount batchId) := by
  unfold typedR3DependencyCount
  infer_instance

end Reading

/-! ## The other statements -/

section Statements

instance {f : VaultSyncState → VaultSyncState} [Listed .vaultState parts] :
    Keeps (OnlyWrites parts) (updateVaultState f) := by
  unfold updateVaultState
  infer_instance

instance {expectedCursor nextCursor : String} {nowUnixMs : ℕ} [Listed .vaultState parts] :
    Keeps (OnlyWrites parts) (advanceCursor expectedCursor nextCursor nowUnixMs) := by
  unfold advanceCursor
  infer_instance

set_option synthInstance.maxSize 100000 in
instance {intent : MutationIntent} [Listed .mutationIntents parts] :
    Keeps (OnlyWrites parts) (insertMutationIntent intent) := by
  unfold insertMutationIntent
  infer_instance

instance {state : MutationState} [Listed .mutationState parts] :
    Keeps (OnlyWrites parts) (insertMutationState state) := by
  unfold insertMutationState
  infer_instance

instance {state : MutationState} {version : ℕ} [Listed .mutationState parts] :
    Keeps (OnlyWrites parts) (updateMutationState state version) := by
  unfold updateMutationState
  infer_instance

set_option synthInstance.maxSize 100000 in
instance {evidence : MutationVerificationEvidence} [Listed .mutationEvidence parts] :
    Keeps (OnlyWrites parts) (insertMutationEvidence evidence) := by
  unfold insertMutationEvidence
  infer_instance

set_option synthInstance.maxSize 100000 in
instance {operationId : Uuid} {attemptNumber stateVersion : ℕ} {phase : MutationPhase}
    {disposition : Option MutationDisposition} {evidenceId : Option Uuid}
    {outcomeCode : Option String} {occurredAtUnixMs : ℕ} [Listed .mutationEvents parts] :
    Keeps (OnlyWrites parts) (insertMutationEvent operationId attemptNumber stateVersion phase
      disposition evidenceId outcomeCode occurredAtUnixMs) := by
  unfold insertMutationEvent
  infer_instance

set_option synthInstance.maxSize 100000 in
instance {evidence : ConflictEvidence} [Listed .conflictEvidence parts] :
    Keeps (OnlyWrites parts) (insertConflictEvidence evidence) := by
  unfold insertConflictEvidence
  infer_instance

instance {row : ChangeBatchRow} [Listed .changeBatch parts] :
    Keeps (OnlyWrites parts) (insertChangeBatch row) := by
  unfold insertChangeBatch
  infer_instance

end Statements

end Store
end MyVault
