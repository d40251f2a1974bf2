import MyVault.Library.Runs
import MyVault.Store.Batch

/-!
# The store as a transition system

An `Operation` is a call that may write, with its arguments; `reopen` closes the
store and opens it again, crash or not.  `perform` runs the call the operation
names, `step` is what is left of it in the database, and a run is any sequence of
operations from the empty database.

Every operation is atomic: a call that fails changes nothing.  Most of them are a
transaction; the others are reads, one `UPDATE` that matches at most one row, and
an error only if it matched none.
-/

namespace MyVault
namespace Store

open Program Runs

/-- The calls of the store. -/
inductive Operation where
  | bindRemoteRoot (requestedAccountId requestedRemoteRootId observedAccountId
      observedRemoteRootId : String) (nowUnixMs : ℕ)
  | beginInitialScan (startToken : String) (nowUnixMs : ℕ)
  | applyScanPage (expectedPageToken : Option String) (page : ScanPage) (nowUnixMs : ℕ)
  | applyChangesPage (expectedCursor : String) (page : ChangesPage) (nowUnixMs : ℕ)
  | markRescanRequired (nowUnixMs : ℕ)
  | enqueueJob (operationId : Uuid) (kind : QueueJobKind) (path : String)
      (destinationPath remoteFileId expectedLocalRevision : Option String) (createdAtUnixMs : ℕ)
  | claimNextJob (nowUnixMs : ℕ)
  | scheduleRetry (operationId : Uuid) (nextAttemptAtUnixMs : ℕ) (errorCode : String)
  | completeVerifiedJob (operationId : Uuid) (outcomeCode : String) (occurredAtUnixMs : ℕ)
  | registerTransfer (transfer : TransferRecord)
  | claimNextTransfer (nowUnixMs : ℕ)
  | scheduleTransferRetry (operationId : Uuid) (nextAttemptAtUnixMs : ℕ) (errorCode : String)
      (updatedAtUnixMs : ℕ)
  | pauseTransferOffline (operationId : Uuid) (nextAttemptAtUnixMs : ℕ) (errorCode : String)
      (updatedAtUnixMs : ℕ)
  | markTransferAuthRequired (operationId : Uuid) (errorCode : String) (updatedAtUnixMs : ℕ)
  | resumeAuthRequiredTransfers (nowUnixMs : ℕ)
  | markTransferNeedsReconcile (operationId : Uuid) (errorCode : String) (updatedAtUnixMs : ℕ)
  | requeueTransferForReconciliation (operationId : Uuid) (nowUnixMs : ℕ)
  | publishTransferBaseReference (operationId : Uuid) (baseReference : String)
      (updatedAtUnixMs : ℕ)
  | completeVerifiedTransfer (operationId : Uuid) (completion : TransferCompletion)
  | registerMutationIntent (intent : MutationIntent)
      (initialEvidence : Option MutationVerificationEvidence)
  | claimMutation (operationId : Uuid) (expectedStateVersion nowUnixMs : ℕ)
  | recordMutationOutcome (operationId : Uuid) (expectedStateVersion : ℕ)
      (evidence : MutationVerificationEvidence) (transition : MutationOutcomeTransition)
  | recordConflictEvidence (evidence : ConflictEvidence)
  | beginChangeBatch (batchId : Uuid) (expectedCursor nextCursor : String)
      (mutationIds : List String)
  | beginTransferChangeBatch (batchId : Uuid) (expectedCursor nextCursor : String)
      (changes : List RemoteChange) (downloads : List TransferRecord)
  | beginR3ChangeBatch (batchId : Uuid) (expectedCursor nextCursor : String)
      (dependencies : List ChangeBatchDependency)
  | commitR3ChangeDependency (batchId : Uuid) (dependency : ChangeBatchDependency)
      (evidenceId : Uuid)
  | commitR3ChangeBatch (batchId : Uuid) (nowUnixMs : ℕ)
  | beginTransferLocalPublish (operationId : Uuid) (nowUnixMs : ℕ)
  | beginLocalMutation (batchId : Uuid) (mutationId : String)
  | markLocalMutationCommitted (batchId : Uuid) (mutationId : String)
  | resetLocalMutationAfterVerifiedAbsence (batchId : Uuid) (mutationId : String)
  | commitChangeBatch (batchId : Uuid) (nowUnixMs : ℕ)
  | commitTransferChangeBatch (batchId : Uuid) (nowUnixMs : ℕ)
  | abortChangeBatch (batchId : Uuid)
  | reopen (newV4 : ℕ → Uuid)

/-- What a successful call returns. -/
inductive Reply where
  | done
  | bound (outcome : BindOutcome)
  | enqueued (outcome : EnqueueOutcome)
  | job (job : Option QueueJob)
  | transferRegistered (outcome : TransferRegistrationOutcome)
  | transfer (transfer : Option TransferRecord)
  | resumed (count : ℕ)
  | transferCompleted (outcome : TransferCompletionOutcome)
  | mutationRegistered (outcome : MutationRegistrationOutcome)
  | mutation (state : MutationState)
  | conflictEvidenceRecorded (outcome : ConflictEvidenceRegistrationOutcome)
  deriving DecidableEq

/-- Wraps what a call returns. -/
def replying {α : Type} (p : StoreProgram α) (reply : α → Reply) : StoreProgram Reply := do
  let result ← p
  pure (reply result)

/-- `open_in_private_root`, from the open database on. -/
def reopenStore (sha256 : Sha256) (vaultId : Uuid) (newV4 : ℕ → Uuid) : StoreProgram Unit := do
  let _ ← loadState vaultId
  recoverInterruptedJobs sha256 newV4

/-- `VerifiedRemoteBinding::new` and `bind_remote_root`. -/
def bindVerifiedRoot (vaultId : Uuid) (requestedAccountId requestedRemoteRootId observedAccountId
    observedRemoteRootId : String) (nowUnixMs : ℕ) : StoreProgram BindOutcome := do
  let binding ← lift (VerifiedRemoteBinding.new requestedAccountId requestedRemoteRootId
    observedAccountId observedRemoteRootId)
  bindRemoteRoot vaultId binding nowUnixMs

/-- `QueueJob::new` and `enqueue_job`. -/
def enqueueNewJob (u : Unicode) (vaultId operationId : Uuid) (kind : QueueJobKind) (path : String)
    (destinationPath remoteFileId expectedLocalRevision : Option String)
    (createdAtUnixMs : ℕ) : StoreProgram EnqueueOutcome := do
  let job ← lift (QueueJob.new u operationId kind path destinationPath remoteFileId
    expectedLocalRevision createdAtUnixMs)
  enqueueJob u vaultId job

/-- The call an operation names, in the store of one vault. -/
def perform (u : Unicode) (sha256 : Sha256) (vaultId : Uuid) : Operation → StoreProgram Reply
  | .bindRemoteRoot account root observedAccount observedRoot now =>
      replying (bindVerifiedRoot vaultId account root observedAccount observedRoot now) .bound
  | .beginInitialScan startToken now =>
      replying (beginInitialScan vaultId startToken now) fun _ => .done
  | .applyScanPage expectedPageToken page now =>
      replying (applyScanPage u vaultId expectedPageToken page now) fun _ => .done
  | .applyChangesPage expectedCursor page now =>
      replying (applyChangesPage u vaultId expectedCursor page now) fun _ => .done
  | .markRescanRequired now => replying (markRescanRequired vaultId now) fun _ => .done
  | .enqueueJob operationId kind path destinationPath remoteFileId revision createdAt =>
      replying (enqueueNewJob u vaultId operationId kind path destinationPath remoteFileId
        revision createdAt) .enqueued
  | .claimNextJob now => replying (claimNextJob u now) .job
  | .scheduleRetry operationId next code =>
      replying (scheduleRetry operationId next code) fun _ => .done
  | .completeVerifiedJob operationId code occurredAt =>
      replying (completeVerifiedJob u operationId code occurredAt) fun _ => .done
  | .registerTransfer transfer =>
      replying (registerTransfer u vaultId transfer) .transferRegistered
  | .claimNextTransfer now => replying (claimNextTransfer u now) .transfer
  | .scheduleTransferRetry operationId next code updatedAt =>
      replying (scheduleTransferRetry u operationId next code updatedAt) fun _ => .done
  | .pauseTransferOffline operationId next code updatedAt =>
      replying (pauseTransferOffline u operationId next code updatedAt) fun _ => .done
  | .markTransferAuthRequired operationId code updatedAt =>
      replying (markTransferAuthRequired u operationId code updatedAt) fun _ => .done
  | .resumeAuthRequiredTransfers now => replying (resumeAuthRequiredTransfers now) .resumed
  | .markTransferNeedsReconcile operationId code updatedAt =>
      replying (markTransferNeedsReconcile u operationId code updatedAt) fun _ => .done
  | .requeueTransferForReconciliation operationId now =>
      replying (requeueTransferForReconciliation u operationId now) fun _ => .done
  | .publishTransferBaseReference operationId reference updatedAt =>
      replying (publishTransferBaseReference u operationId reference updatedAt) fun _ => .done
  | .completeVerifiedTransfer operationId completion =>
      replying (completeVerifiedTransfer u operationId completion) .transferCompleted
  | .registerMutationIntent intent initialEvidence =>
      replying (registerMutationIntent u sha256 intent initialEvidence) .mutationRegistered
  | .claimMutation operationId version now =>
      replying (claimMutation operationId version now) .mutation
  | .recordMutationOutcome operationId version evidence transition =>
      replying (recordMutationOutcome u sha256 operationId version evidence transition) .mutation
  | .recordConflictEvidence evidence =>
      replying (recordConflictEvidence sha256 evidence) .conflictEvidenceRecorded
  | .beginChangeBatch batchId expected next mutationIds =>
      replying (beginChangeBatch vaultId batchId expected next mutationIds) fun _ => .done
  | .beginTransferChangeBatch batchId expected next changes downloads =>
      replying (beginTransferChangeBatch u vaultId batchId expected next changes downloads)
        fun _ => .done
  | .beginR3ChangeBatch batchId expected next dependencies =>
      replying (beginR3ChangeBatch vaultId batchId expected next dependencies) fun _ => .done
  | .commitR3ChangeDependency batchId dependency evidenceId =>
      replying (commitR3ChangeDependency batchId dependency evidenceId) fun _ => .done
  | .commitR3ChangeBatch batchId now => replying (commitR3ChangeBatch batchId now) fun _ => .done
  | .beginTransferLocalPublish operationId now =>
      replying (beginTransferLocalPublish u operationId now) fun _ => .done
  | .beginLocalMutation batchId mutationId =>
      replying (beginLocalMutation batchId mutationId) fun _ => .done
  | .markLocalMutationCommitted batchId mutationId =>
      replying (markLocalMutationCommitted batchId mutationId) fun _ => .done
  | .resetLocalMutationAfterVerifiedAbsence batchId mutationId =>
      replying (resetLocalMutationAfterVerifiedAbsence batchId mutationId) fun _ => .done
  | .commitChangeBatch batchId now => replying (commitChangeBatch batchId now) fun _ => .done
  | .commitTransferChangeBatch batchId now =>
      replying (commitTransferChangeBatch batchId now) fun _ => .done
  | .abortChangeBatch batchId => replying (abortChangeBatch batchId) fun _ => .done
  | .reopen newV4 => replying (reopenStore sha256 vaultId newV4) fun _ => .done

/-- The database after a call. -/
def step (u : Unicode) (sha256 : Sha256) (vaultId : Uuid) (db : Database) (op : Operation) :
    Database := (exec (perform u sha256 vaultId op) db).2

/-- The database after a sequence of calls on a new store. -/
def runStore (u : Unicode) (sha256 : Sha256) (vaultId : Uuid) (ops : List Operation) : Database :=
  run (step u sha256 vaultId) Database.empty ops

theorem runStore_append {u : Unicode} {sha256 : Sha256} {vaultId : Uuid}
    (ops later : List Operation) : runStore u sha256 vaultId (ops ++ later) =
      run (step u sha256 vaultId) (runStore u sha256 vaultId ops) later := run_append _ _ _

theorem runStore_concat {u : Unicode} {sha256 : Sha256} {vaultId : Uuid} (ops : List Operation)
    (op : Operation) : runStore u sha256 vaultId (ops ++ [op]) =
      step u sha256 vaultId (runStore u sha256 vaultId ops) op := run_concat _ _ _

/-- The id of a vault; no store is opened with the nil one. -/
def sampleVaultId : Uuid := ⟨[7, 7, 7, 7, 7, 7, 0x47, 7, 0x87, 7, 7, 7, 7, 7, 7, 7], rfl⟩

/-! ## What an operation writes -/

/-- The parts an operation may write. -/
def Operation.writes : Operation → List Part
  | .bindRemoteRoot .. | .markRescanRequired .. => [.vaultState, .scanFrontier]
  | .beginInitialScan .. | .applyScanPage .. => [.vaultState, .remoteEntries, .scanFrontier]
  | .applyChangesPage .. => [.vaultState, .remoteEntries]
  | .enqueueJob .. | .claimNextJob .. | .scheduleRetry .. => [.syncJobs]
  | .completeVerifiedJob .. => [.syncJobs, .syncHistory]
  | .registerTransfer .. | .claimNextTransfer .. | .scheduleTransferRetry ..
  | .pauseTransferOffline .. | .markTransferAuthRequired .. | .resumeAuthRequiredTransfers ..
  | .markTransferNeedsReconcile .. | .requeueTransferForReconciliation ..
  | .publishTransferBaseReference .. => [.transfers]
  | .completeVerifiedTransfer .. => [.remoteEntries, .transfers, .transferHistory, .batchProgress]
  | .registerMutationIntent .. =>
      [.mutationIntents, .mutationState, .mutationEvents, .mutationEvidence]
  | .claimMutation .. => [.mutationState, .mutationEvents]
  | .recordMutationOutcome .. => [.mutationState, .mutationEvents, .mutationEvidence]
  | .recordConflictEvidence .. => [.conflictEvidence]
  | .beginChangeBatch .. | .beginR3ChangeBatch .. | .abortChangeBatch .. =>
      [.changeBatch, .declaredMutations, .batchProgress]
  | .beginTransferChangeBatch .. =>
      [.changeBatch, .declaredMutations, .batchProgress, .remoteEntries, .transfers]
  | .commitR3ChangeDependency .. | .beginLocalMutation .. | .markLocalMutationCommitted ..
  | .resetLocalMutationAfterVerifiedAbsence .. => [.batchProgress]
  | .commitR3ChangeBatch .. | .commitChangeBatch .. | .commitTransferChangeBatch .. =>
      [.vaultState, .changeBatch, .declaredMutations, .batchProgress]
  | .beginTransferLocalPublish .. => [.transfers, .batchProgress]
  | .reopen .. => [.syncJobs, .transfers, .mutationState, .mutationEvents, .mutationEvidence]

section Frame

variable (u : Unicode) (sha256 : Sha256) (vaultId : Uuid) (db : Database) (op : Operation)

instance perform_onlyWrites : Keeps (OnlyWrites op.writes) (perform u sha256 vaultId op) := by
  cases op <;> dsimp only [perform, replying, Operation.writes, bindVerifiedRoot, enqueueNewJob,
    markTransferAuthRequired, markTransferNeedsReconcile, reopenStore] <;> infer_instance

/-- A part an operation does not write stays the same. -/
theorem step_content {part : Part} (h : part ∉ op.writes) :
    (step u sha256 vaultId db op).content part = db.content part :=
  (perform_onlyWrites u sha256 vaultId op).exec_rel db part h

end Frame

/-! ## Atomicity -/

section Atomicity

/-- An `UPDATE` that matches at most one row, and an error unless it matched one. -/
theorem atomic_of_update {α : Type} {p : StoreProgram ℕ} {f : ℕ → StoreProgram α}
    [∀ n, Keeps Eq (f n)]
    (hp : ∀ db, ∃ n db', exec p db = (.ok n, db') ∧ n ≤ 1 ∧ (n = 0 → db' = db))
    (hf : ∀ db e r, exec (f 1) db ≠ (.error e, r)) : Atomic (p >>= f) := by
  have hatomic : Atomic p := ⟨fun db db' e h => by
    obtain ⟨n, db'', hok, -, -⟩ := hp db
    rw [hok] at h
    cases h⟩
  refine Atomic.bind_checked fun db db' n hok => ?_
  obtain ⟨m, db'', hok', hle, hzero⟩ := hp db
  rw [hok'] at hok
  obtain ⟨rfl, rfl⟩ : m = n ∧ db'' = db' := by simpa using hok
  rcases Nat.le_one_iff_eq_zero_or_eq_one.mp hle with rfl | rfl
  · exact Or.inl (hzero rfl)
  · exact Or.inr (hf db'')

theorem exec_updateJobs {p : QueueJob → Bool} {f : QueueJob → QueueJob}
    {hf : ∀ job, p job = true → (f job).operationId = job.operationId}
    (hp : ∀ a b, p a = true → p b = true → a.operationId = b.operationId) (db : Database) :
    ∃ n db', exec (updateJobs p f hf) db = (.ok n, db') ∧ n ≤ 1 ∧ (n = 0 → db' = db) :=
  ⟨_, _, rfl, Table.count_le_one hp, fun h => by
    show { db with syncJobs := db.syncJobs.update p f hf } = db
    rw [Table.update_of_count_eq_zero h]⟩

theorem exec_updateTransfers {p : TransferRecord → Bool} {f : TransferRecord → TransferRecord}
    {hf : ∀ row, p row = true → (f row).operationId = row.operationId}
    (hp : ∀ a b, p a = true → p b = true → a.operationId = b.operationId) (db : Database) :
    ∃ n db', exec (updateTransfers p f hf) db = (.ok n, db') ∧ n ≤ 1 ∧ (n = 0 → db' = db) :=
  ⟨_, _, rfl, Table.count_le_one hp, fun h => by
    show { db with transfers := db.transfers.update p f hf } = db
    rw [Table.update_of_count_eq_zero h]⟩

theorem exec_moveLocalMutation (batchId : Uuid) (mutationId : String)
    (source target : LocalMutationState) (db : Database) :
    ∃ n db', exec (moveLocalMutation batchId mutationId source target) db = (.ok n, db') ∧
      n ≤ 1 ∧ (n = 0 → db' = db) := by
  refine ⟨_, _, rfl, Table.count_le_one fun a b ha hb => ?_, fun h => ?_⟩
  · exact (of_decide_eq_true ha).1.trans (of_decide_eq_true hb).1.symm
  · show ({ db with changeBatchMutations := db.changeBatchMutations.update _ _ _ } :
      Database) = db
    rw [Table.update_of_count_eq_zero h]

instance {operationId : Uuid} {c : QueueJob → Bool} {f : QueueJob → QueueJob}
    {hf : ∀ row, (decide (row.operationId = operationId) && c row) = true →
      (f row).operationId = row.operationId} {e : Error} :
    Atomic (updateJobs (fun row => decide (row.operationId = operationId) && c row) f hf >>=
      fun changed => Program.reject (changed ≠ 1) e) := by
  refine atomic_of_update (exec_updateJobs fun a b ha hb => ?_) fun db e r h => ?_
  · rw [Bool.and_eq_true, decide_eq_true_eq] at ha hb
    exact ha.1.trans hb.1.symm
  · simp [Program.reject] at h

instance {operationId : Uuid} {c : TransferRecord → Bool} {f : TransferRecord → TransferRecord}
    {hf : ∀ row : TransferRecord, row.matchesId operationId c = true →
      (f row).operationId = row.operationId} {e : Error} :
    Atomic (updateTransfers (fun row => row.matchesId operationId c) f hf >>=
      fun changed => Program.reject (changed ≠ 1) e) := by
  refine atomic_of_update (exec_updateTransfers fun a b ha hb => ?_) fun db e r h => ?_
  · rw [TransferRecord.matchesId, Bool.and_eq_true, decide_eq_true_eq] at ha hb
    exact ha.1.trans hb.1.symm
  · simp [Program.reject] at h

instance {p : TransferRecord → Bool} {f : TransferRecord → TransferRecord}
    {hf : ∀ row, p row = true → (f row).operationId = row.operationId} :
    Atomic (updateTransfers p f hf) := ⟨fun db db' e h => by cases h⟩

variable {batchId : Uuid} {mutationId : String}

instance : Atomic (beginLocalMutation batchId mutationId) := by
  unfold beginLocalMutation
  have hlast : Atomic (do
      let changed ← moveLocalMutation batchId mutationId .pending .applying
      if changed = 1 then pure ()
      else
        let state ← loadLocalMutationState batchId mutationId
        refuseBegin state) :=
    atomic_of_update (exec_moveLocalMutation batchId mutationId _ _) fun db e r h => by
      simp at h
  infer_instance

instance : Atomic (markLocalMutationCommitted batchId mutationId) := by
  unfold markLocalMutationCommitted
  have hlast : Atomic (do
      let changed ← moveLocalMutation batchId mutationId .applying .committed
      if changed = 1 then pure ()
      else
        let state ← loadLocalMutationState batchId mutationId
        throw (if state.isSome then .invalidStateTransition else .unknownMutation)) :=
    atomic_of_update (exec_moveLocalMutation batchId mutationId _ _) fun db e r h => by
      simp at h
  infer_instance

instance : Atomic (resetLocalMutationAfterVerifiedAbsence batchId mutationId) := by
  unfold resetLocalMutationAfterVerifiedAbsence
  have hlast : Atomic (do
      let changed ← moveLocalMutation batchId mutationId .applying .pending
      Program.reject (changed ≠ 1) Error.invalidStateTransition) :=
    atomic_of_update (exec_moveLocalMutation batchId mutationId _ _) fun db e r h => by
      simp [Program.reject] at h
  infer_instance

set_option synthInstance.maxSize 100000 in
/-- A call that fails changes nothing. -/
instance atomic_perform (u : Unicode) (sha256 : Sha256) (vaultId : Uuid) (op : Operation) :
    Atomic (perform u sha256 vaultId op) := by
  cases op <;> dsimp only [perform, replying, bindVerifiedRoot, bindRemoteRoot, beginInitialScan,
    applyScanPage, applyChangesPage, markRescanRequired, enqueueNewJob, enqueueJob, claimNextJob,
    scheduleRetry, completeVerifiedJob, registerTransfer, claimNextTransfer,
    scheduleTransferRetry, pauseTransferOffline, markTransferAuthRequired,
    resumeAuthRequiredTransfers, markTransferNeedsReconcile, markTransferStopped,
    requeueTransferForReconciliation, publishTransferBaseReference, completeVerifiedTransfer,
    registerMutationIntent, claimMutation, recordMutationOutcome, recordConflictEvidence,
    beginChangeBatch, beginTransferChangeBatch, beginR3ChangeBatch, commitR3ChangeDependency,
    commitR3ChangeBatch, beginTransferLocalPublish, commitChangeBatch, commitTransferChangeBatch,
    abortChangeBatch, reopenStore, recoverInterruptedJobs] <;> infer_instance

end Atomicity

theorem exec_replying_ok {α : Type} {p : StoreProgram α} {f : α → Reply} {db db' : Database}
    {r : Reply} :
    exec (replying p f) db = (.ok r, db') ↔ ∃ a, exec p db = (.ok a, db') ∧ f a = r := by
  simp only [replying, exec_bind_ok, exec_pure_ok]
  constructor
  · rintro ⟨a, _, h, ha, rfl⟩
    exact ⟨a, h, ha⟩
  · rintro ⟨a, h, ha⟩
    exact ⟨a, _, h, ha, rfl⟩

/-- An operation changes nothing, or its call succeeds. -/
theorem step_eq_or_ok (u : Unicode) (sha256 : Sha256) (vaultId : Uuid) (db : Database)
    (op : Operation) : step u sha256 vaultId db op = db ∨
      ∃ reply, exec (perform u sha256 vaultId op) db =
        (.ok reply, step u sha256 vaultId db op) := by
  cases h : (exec (perform u sha256 vaultId op) db).1 with
  | error e => exact Or.inl ((atomic_perform u sha256 vaultId op).eq_of_error db _ e
      (Prod.ext h rfl))
  | ok reply => exact Or.inr ⟨reply, Prod.ext h rfl⟩

theorem step_of_error {u : Unicode} {sha256 : Sha256} {vaultId : Uuid} {db : Database}
    {op : Operation} {e : Error} (h : (exec (perform u sha256 vaultId op) db).1 = .error e) :
    step u sha256 vaultId db op = db :=
  (atomic_perform u sha256 vaultId op).eq_of_error db _ e (Prod.ext h rfl)

end Store
end MyVault
