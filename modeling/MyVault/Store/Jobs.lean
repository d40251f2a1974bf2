import MyVault.Store.Footprint
import Mathlib.Data.List.Sort

/-!
# The job queue

`QueueJob::new`, `enqueue_job`, `claim_next_job`, `schedule_retry` and
`complete_verified_job` of `store.rs`.
-/

namespace MyVault
namespace Store

open Check Program

/-- `QueueJob::new`: the fields are private, so a caller's job is a new one. -/
def QueueJob.new (u : Unicode) (operationId : Uuid) (kind : QueueJobKind) (path : String)
    (destinationPath remoteFileId expectedLocalRevision : Option String)
    (createdAtUnixMs : ℕ) : Except Error QueueJob := do
  let job : QueueJob :=
    { operationId, kind, path, destinationPath, remoteFileId, expectedLocalRevision
      state := .pending
      attemptCount := 0
      nextAttemptAtUnixMs := createdAtUnixMs
      createdAtUnixMs
      lastErrorCode := none }
  job.validate u
  .ok job

/-- What `row_to_job` checks of the row. -/
def checkJobRow (u : Unicode) (job : QueueJob) : Except Error Unit := do
  reject (2 ^ 32 ≤ job.attemptCount) .invalidSchema
  job.validate u

/-- `load_job`. -/
def loadJob (u : Unicode) (operationId : Uuid) : StoreProgram (Option QueueJob) := do
  let row ← read (·.syncJobs.lookup operationId)
  lift (each (checkJobRow u) row.toList)
  pure row

/-- `INSERT INTO sync_jobs`. -/
def insertJob (job : QueueJob) : StoreProgram Unit := do
  lift (u64ToI64 job.nextAttemptAtUnixMs)
  lift (u64ToI64 job.createdAtUnixMs)
  let inserted ← read (·.syncJobs.insert job)
  let table ← the inserted .database
  write fun db => { db with syncJobs := table }

/-- `UPDATE sync_jobs`: the number of rows it matches. -/
def updateJobs (p : QueueJob → Bool) (f : QueueJob → QueueJob)
    (hf : ∀ job, p job = true → (f job).operationId = job.operationId) : StoreProgram ℕ := do
  let changed ← read (·.syncJobs.count p)
  write fun db => { db with syncJobs := db.syncJobs.update p f hf }
  pure changed

/-- A row of a history table; the database numbers it. -/
def historyRow (history : Table HistoryRow.operationId) (operationId : Uuid)
    (outcomeCode : String) (occurredAtUnixMs : ℕ) : HistoryRow where
  eventId := nextRowid (history.rows.map (·.eventId))
  operationId := operationId
  outcomeCode := outcomeCode
  occurredAtUnixMs := occurredAtUnixMs

/-- `INSERT INTO sync_history`. -/
def insertSyncHistory (operationId : Uuid) (outcomeCode : String) (occurredAtUnixMs : ℕ) :
    StoreProgram Unit := do
  let inserted ← read fun db =>
    db.syncHistory.insert (historyRow db.syncHistory operationId outcomeCode occurredAtUnixMs)
  let table ← the inserted .database
  write fun db => { db with syncHistory := table }

/-- A job for an operation that may have one. -/
def enqueueOver (job : QueueJob) : Option QueueJob → StoreProgram EnqueueOutcome
  | some existing => do
      Program.reject (!existing.sameRequest job) .queueCollision
      pure (if existing.state = .completed then .alreadyCompleted else .alreadyPresent)
  | none => do
      insertJob job
      pure .enqueued

/-- `enqueue_job`: the same job twice is one job. -/
def enqueueJob (u : Unicode) (vaultId : Uuid) (job : QueueJob) : StoreProgram EnqueueOutcome := do
  lift (job.validate u)
  transaction do
    let _ ← requireState vaultId
    let existing ← loadJob u job.operationId
    enqueueOver job existing

/-- `state IN ('pending', 'retry_scheduled')`. -/
def QueueJob.isWaiting (job : QueueJob) : Bool :=
  job.state == .pending || job.state == .retryScheduled

/-- `state IN ('running', 'needs_reconcile')`. -/
def QueueJob.isOpen (job : QueueJob) : Bool :=
  job.state == .running || job.state == .needsReconcile

/-- `ORDER BY created_at_unix_ms, operation_id`. -/
def createdBefore (createdA createdB : ℕ) (a b : Uuid) : Bool :=
  decide (createdA < createdB ∨ (createdA = createdB ∧ a.toHyphenated ≤ b.toHyphenated))

theorem createdBefore_total (createdA createdB : ℕ) (a b : Uuid) :
    createdBefore createdA createdB a b = true ∨ createdBefore createdB createdA b a = true := by
  rw [createdBefore, createdBefore, decide_eq_true_eq, decide_eq_true_eq]
  rcases Nat.lt_trichotomy createdA createdB with h | h | h
  · exact Or.inl (Or.inl h)
  · rcases String.le_total a.toHyphenated b.toHyphenated with hab | hba
    · exact Or.inl (Or.inr ⟨h, hab⟩)
    · exact Or.inr (Or.inr ⟨h.symm, hba⟩)
  · exact Or.inr (Or.inl h)

theorem createdBefore_trans {createdA createdB createdC : ℕ} {a b c : Uuid}
    (hab : createdBefore createdA createdB a b = true)
    (hbc : createdBefore createdB createdC b c = true) :
    createdBefore createdA createdC a c = true := by
  rw [createdBefore, decide_eq_true_eq] at *
  rcases hab with hab | ⟨hab, hleab⟩
  · rcases hbc with hbc | ⟨hbc, -⟩
    · exact Or.inl (hab.trans hbc)
    · exact Or.inl (hbc ▸ hab)
  · rcases hbc with hbc | ⟨hbc, hlebc⟩
    · exact Or.inl (hab ▸ hbc)
    · exact Or.inr ⟨hab.trans hbc, String.le_trans hleab hlebc⟩

/-- The oldest job that is due. -/
def dueJob (nowUnixMs : ℕ) (db : Database) : Option QueueJob :=
  ((db.syncJobs.rows.filter fun job =>
    job.isWaiting && decide (job.nextAttemptAtUnixMs ≤ nowUnixMs)).insertionSort fun a b =>
      createdBefore a.createdAtUnixMs b.createdAtUnixMs a.operationId b.operationId).head?

/-- A job that was found due is claimed. -/
def claimJob : Option QueueJob → StoreProgram (Option QueueJob)
  | none => pure none
  | some job => do
      let changed ← updateJobs
        (fun row => decide (row.operationId = job.operationId) && row.isWaiting)
        (fun row => { row with state := .running }) fun _ _ => rfl
      Program.reject (changed ≠ 1) .invalidStateTransition
      pure (some { job with state := .running })

/-- `claim_next_job`: the oldest job that is due. -/
def claimNextJob (u : Unicode) (nowUnixMs : ℕ) : StoreProgram (Option QueueJob) := do
  lift (u64ToI64 nowUnixMs)
  transaction do
    let candidate ← read (dueJob nowUnixMs)
    lift (each (checkJobRow u) candidate.toList)
    claimJob candidate

/-- `schedule_retry`. -/
def scheduleRetry (operationId : Uuid) (nextAttemptAtUnixMs : ℕ) (errorCode : String) :
    StoreProgram Unit := do
  Program.reject operationId.isNil .jobNotFound
  lift (validateRedactedCode errorCode)
  lift (u64ToI64 nextAttemptAtUnixMs)
  let changed ← updateJobs
    (fun row => decide (row.operationId = operationId) && row.isOpen)
    (fun row => { row with
      state := .retryScheduled
      attemptCount := row.attemptCount + 1
      nextAttemptAtUnixMs
      lastErrorCode := some errorCode }) fun _ _ => rfl
  Program.reject (changed ≠ 1) .invalidStateTransition

/-- `complete_verified_job`. -/
def completeVerifiedJob (u : Unicode) (operationId : Uuid) (outcomeCode : String)
    (occurredAtUnixMs : ℕ) : StoreProgram Unit := do
  Program.reject operationId.isNil .jobNotFound
  lift (validateRedactedCode outcomeCode)
  lift (u64ToI64 occurredAtUnixMs)
  transaction do
    let job ← loadJob u operationId
    let job ← the job .jobNotFound
    Program.reject (!job.isOpen) .invalidStateTransition
    insertSyncHistory operationId outcomeCode occurredAtUnixMs
    let changed ← updateJobs
      (fun row => decide (row.operationId = operationId) && row.isOpen)
      (fun row => { row with
        state := .completed
        nextAttemptAtUnixMs := occurredAtUnixMs
        lastErrorCode := none }) fun _ _ => rfl
    Program.reject (changed ≠ 1) .invalidStateTransition

/-! ## Footprints -/

section Footprints

variable {parts : List Part}

instance {R : Database → Database → Prop} [Std.Refl R] [IsTrans Database R] {u : Unicode}
    {operationId : Uuid} : Keeps R (loadJob u operationId) := by
  unfold loadJob
  infer_instance

instance {p : QueueJob → Bool} {f : QueueJob → QueueJob}
    {hf : ∀ job, p job = true → (f job).operationId = job.operationId} [Listed .syncJobs parts] :
    Keeps (OnlyWrites parts) (updateJobs p f hf) := by
  unfold updateJobs
  infer_instance

instance enqueueJob_onlyWrites {u : Unicode} {vaultId : Uuid} {job : QueueJob} :
    Keeps (OnlyWrites [.syncJobs]) (enqueueJob u vaultId job) := by
  have hover : ∀ existing, Keeps (OnlyWrites [.syncJobs]) (enqueueOver job existing) := by
    intro existing
    cases existing <;> unfold enqueueOver <;> try unfold insertJob
    all_goals infer_instance
  unfold enqueueJob
  infer_instance

instance claimNextJob_onlyWrites {u : Unicode} {nowUnixMs : ℕ} :
    Keeps (OnlyWrites [.syncJobs]) (claimNextJob u nowUnixMs) := by
  have hclaim : ∀ candidate, Keeps (OnlyWrites [.syncJobs]) (claimJob candidate) := by
    intro candidate
    cases candidate <;> unfold claimJob <;> infer_instance
  unfold claimNextJob
  infer_instance

instance scheduleRetry_onlyWrites {operationId : Uuid} {nextAttemptAtUnixMs : ℕ}
    {errorCode : String} :
    Keeps (OnlyWrites [.syncJobs]) (scheduleRetry operationId nextAttemptAtUnixMs errorCode) := by
  unfold scheduleRetry
  infer_instance

set_option synthInstance.maxSize 100000 in
instance completeVerifiedJob_onlyWrites {u : Unicode} {operationId : Uuid} {outcomeCode : String}
    {occurredAtUnixMs : ℕ} :
    Keeps (OnlyWrites [.syncJobs, .syncHistory])
      (completeVerifiedJob u operationId outcomeCode occurredAtUnixMs) := by
  unfold completeVerifiedJob insertSyncHistory
  infer_instance

end Footprints

end Store
end MyVault
