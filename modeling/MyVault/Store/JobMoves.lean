import MyVault.Store.Operation

/-!
# What the calls do to one job

A job is its row and the row of its history.  `JobStep` lists what an operation can do
to them, and `jobStep` says that this is all an operation does.
-/

namespace MyVault
namespace Store

open Check Program

/-- The row of a job and the row of its history. -/
abbrev JobView := Option QueueJob × Option HistoryRow

/-- What the store knows of a job: its row, and the history of its completion. -/
def Database.jobView (db : Database) (key : Uuid) : JobView :=
  (db.syncJobs.lookup key, db.syncHistory.lookup key)

/-- What an operation does to the job `key`. -/
inductive JobStep (db : Database) (key : Uuid) : Operation → JobView → JobView → Prop
  | same {op : Operation} {view : JobView} : JobStep db key op view view
  | enqueued {op : Operation} {job : QueueJob} {history : Option HistoryRow}
      (hnew : job.state = .pending) : JobStep db key op (none, history) (some job, history)
  | claimed {now : ℕ} {row : QueueJob} {history : Option HistoryRow}
      (hdue : dueJob now db = some row) (hwaiting : row.isWaiting = true) :
      JobStep db key (.claimNextJob now) (some row, history)
        (some { row with state := .running }, history)
  | retried {next : ℕ} {code : String} {row : QueueJob} {history : Option HistoryRow}
      (hopen : row.isOpen = true) :
      JobStep db key (.scheduleRetry key next code) (some row, history)
        (some { row with
          state := .retryScheduled
          attemptCount := row.attemptCount + 1
          nextAttemptAtUnixMs := next
          lastErrorCode := some code }, history)
  | completed {code : String} {occurredAt : ℕ} {row : QueueJob} {event : HistoryRow}
      (hopen : row.isOpen = true) (hcode : event.outcomeCode = code)
      (htime : event.occurredAtUnixMs = occurredAt) :
      JobStep db key (.completeVerifiedJob key code occurredAt) (some row, none)
        (some { row with
          state := .completed
          nextAttemptAtUnixMs := occurredAt
          lastErrorCode := none }, some event)
  | interrupted {newV4 : ℕ → Uuid} {row : QueueJob} {history : Option HistoryRow}
      (hstate : row.state = .running) :
      JobStep db key (.reopen newV4) (some row, history)
        (some { row with
          state := .needsReconcile
          lastErrorCode := some "interrupted_unknown_outcome" }, history)

section Statements

variable {u : Unicode} {sha256 : Sha256} {vaultId : Uuid} {db db' : Database}
  {key operationId : Uuid} {op : Operation}

theorem jobView_of_onlyWrites {parts : List Part} (h : OnlyWrites parts db db')
    (hrows : .syncJobs ∉ parts) (hhistory : .syncHistory ∉ parts) :
    db'.jobView key = db.jobView key := by
  have hjobs : db'.syncJobs = db.syncJobs := h .syncJobs hrows
  have hevents : db'.syncHistory = db.syncHistory := h .syncHistory hhistory
  rw [Database.jobView, Database.jobView, hjobs, hevents]

theorem jobStep_of_writes (h : Part.syncJobs ∉ op.writes ∧ Part.syncHistory ∉ op.writes) :
    JobStep db key op (db.jobView key) ((step u sha256 vaultId db op).jobView key) := by
  have hwrites : OnlyWrites op.writes db (step u sha256 vaultId db op) :=
    (perform_onlyWrites u sha256 vaultId op).exec_rel db
  rw [jobView_of_onlyWrites hwrites h.1 h.2]
  exact .same

theorem exec_updateJobs_ok {p : QueueJob → Bool} {f : QueueJob → QueueJob}
    {hf : ∀ job, p job = true → (f job).operationId = job.operationId} {n : ℕ} :
    exec (updateJobs p f hf) db = (.ok n, db') ↔ db.syncJobs.count p = n ∧
      { db with syncJobs := db.syncJobs.update p f hf } = db' := by
  simp only [updateJobs, exec_bind_ok, exec_read_ok, exec_write_ok, exec_pure_ok]
  constructor
  · rintro ⟨_, _, ⟨rfl, rfl⟩, _, _, rfl, rfl, rfl⟩
    exact ⟨rfl, rfl⟩
  · rintro ⟨rfl, rfl⟩
    exact ⟨_, _, ⟨rfl, rfl⟩, (), _, rfl, rfl, rfl⟩

theorem exec_loadJob_ok {row : Option QueueJob} :
    exec (loadJob u operationId) db = (.ok row, db') ↔
      db.syncJobs.lookup operationId = row ∧ each (checkJobRow u) row.toList = .ok () ∧
        db = db' := by
  simp only [loadJob, exec_bind_ok, exec_read_ok, exec_lift_ok, exec_pure_ok]
  constructor
  · rintro ⟨_, _, ⟨rfl, rfl⟩, _, _, ⟨hcheck, rfl⟩, rfl, rfl⟩
    exact ⟨rfl, hcheck, rfl⟩
  · rintro ⟨rfl, hcheck, rfl⟩
    exact ⟨_, _, ⟨rfl, rfl⟩, _, _, ⟨hcheck, rfl⟩, rfl, rfl⟩

/-- An update moves a job where it matches its row. -/
theorem jobStep_of_update {p : QueueJob → Bool} {f : QueueJob → QueueJob}
    {hf : ∀ row, p row = true → (f row).operationId = row.operationId}
    (hdb : { db with syncJobs := db.syncJobs.update p f hf } = db')
    (hmove : ∀ row, db.syncJobs.lookup key = some row → p row = true →
      JobStep db key op (some row, db.syncHistory.lookup key)
        (some (f row), db.syncHistory.lookup key)) :
    JobStep db key op (db.jobView key) (db'.jobView key) := by
  rw [← hdb, Database.jobView, Database.jobView, Table.lookup_update]
  cases hrow : db.syncJobs.lookup key with
  | none => exact .same
  | some row =>
      rw [Option.map_some]
      split
      · rename_i hp
        exact hmove row hrow hp
      · exact .same

theorem dueJob_eq_some {now : ℕ} {row : QueueJob} (h : dueJob now db = some row) :
    row ∈ db.syncJobs ∧ row.isWaiting = true ∧ row.nextAttemptAtUnixMs ≤ now := by
  have hmem := (List.mem_insertionSort _).mp (List.mem_of_head? h)
  rw [List.mem_filter, Bool.and_eq_true, decide_eq_true_eq] at hmem
  exact hmem

end Statements

section Calls

variable {u : Unicode} {sha256 : Sha256} {vaultId : Uuid} {db db' : Database}
  {key operationId : Uuid}

theorem jobStep_enqueue {kind : QueueJobKind} {path : String}
    {destinationPath remoteFileId revision : Option String} {createdAt : ℕ} {r : EnqueueOutcome}
    (h : exec (enqueueNewJob u vaultId operationId kind path destinationPath remoteFileId revision
      createdAt) db = (.ok r, db')) :
    JobStep db key (.enqueueJob operationId kind path destinationPath remoteFileId revision
      createdAt) (db.jobView key) (db'.jobView key) := by
  simp only [enqueueNewJob, enqueueJob, exec_bind_ok, exec_lift_ok, exec_transaction_ok,
    exec_loadJob_ok, exists_and_left, exists_eq_left', and_assoc] at h
  obtain ⟨job, hjob, _, -, _, mid, hstate, -, h⟩ := h
  have hkeeps : Keeps Eq (requireState vaultId) := inferInstance
  obtain rfl := hkeeps.of_exec hstate
  have hpending : job.state = .pending := by
    rw [QueueJob.new, seq_eq_ok] at hjob
    rw [← Except.ok.inj hjob.2]
  cases hexisting : db.syncJobs.lookup job.operationId with
  | some existing =>
      simp only [hexisting, enqueueOver, exec_bind_ok, exec_reject_ok, exec_pure_ok,
        exists_and_left, exists_eq_left', exists_const, and_assoc] at h
      rw [h.2.2]
      exact .same
  | none =>
      simp only [hexisting, enqueueOver, insertJob, exec_bind_ok, exec_lift_ok, exec_read_ok,
        exec_the_ok, exec_write_ok, exec_pure_ok, exists_and_left, exists_eq_left', exists_const,
        and_assoc] at h
      obtain ⟨_, ⟨_, -, _, -, table, hinsert, rfl⟩, -, rfl⟩ := h
      rw [Database.jobView, Database.jobView, Table.lookup_of_insert hinsert]
      by_cases hkey : job.operationId = key
      · rw [if_pos hkey, ← hkey, hexisting]
        exact .enqueued hpending
      · rw [if_neg hkey]
        exact .same

theorem jobStep_claim {now : ℕ} {claimed : Option QueueJob}
    (h : exec (claimNextJob u now) db = (.ok claimed, db')) :
    JobStep db key (.claimNextJob now) (db.jobView key) (db'.jobView key) := by
  simp only [claimNextJob, exec_bind_ok, exec_lift_ok, exec_transaction_ok, exec_read_ok,
    exists_and_left, exists_eq_left', and_assoc] at h
  obtain ⟨_, -, _, -, h⟩ := h
  cases hdue : dueJob now db with
  | none =>
      rw [hdue, claimJob, exec_pure_ok] at h
      rw [h.2]
      exact .same
  | some due =>
      simp only [hdue, claimJob, exec_bind_ok, exec_updateJobs_ok, exec_reject_ok, exec_pure_ok,
        exists_and_left, exists_eq_left', exists_const, and_assoc] at h
      obtain ⟨-, -, hdb⟩ := h
      obtain ⟨hmem, hwaiting, -⟩ := dueJob_eq_some hdue
      refine jobStep_of_update hdb fun row hrow hp => ?_
      rw [Bool.and_eq_true, decide_eq_true_eq] at hp
      obtain ⟨hrow, -⟩ := Table.lookup_eq_some_iff.mp hrow
      obtain rfl : row = due := db.syncJobs.eq_of_key_eq hrow hmem hp.1
      exact .claimed hdue hwaiting

theorem jobStep_retry {next : ℕ} {code : String} {v : Unit}
    (h : exec (scheduleRetry operationId next code) db = (.ok v, db')) :
    JobStep db key (.scheduleRetry operationId next code) (db.jobView key) (db'.jobView key) := by
  simp only [scheduleRetry, exec_bind_ok, exec_reject_ok, exec_lift_ok, exec_updateJobs_ok,
    exists_and_left, exists_eq_left', exists_const, and_assoc] at h
  obtain ⟨-, _, -, _, -, -, hdb⟩ := h
  refine jobStep_of_update hdb fun row hrow hp => ?_
  rw [Bool.and_eq_true, decide_eq_true_eq] at hp
  obtain rfl : operationId = key := hp.1.symm.trans (Table.lookup_eq_some_iff.mp hrow).2
  exact .retried hp.2

theorem jobStep_complete {code : String} {occurredAt : ℕ} {v : Unit}
    (h : exec (completeVerifiedJob u operationId code occurredAt) db = (.ok v, db')) :
    JobStep db key (.completeVerifiedJob operationId code occurredAt) (db.jobView key)
      (db'.jobView key) := by
  simp only [completeVerifiedJob, insertSyncHistory, exec_bind_ok, exec_reject_ok, exec_lift_ok,
    exec_transaction_ok, exec_loadJob_ok, exec_the_ok, exec_read_ok, exec_write_ok,
    exec_updateJobs_ok, exists_and_left, exists_eq_left', exists_const, and_assoc,
    Bool.not_eq_true', Bool.not_eq_false] at h
  obtain ⟨-, _, -, _, -, -, job, hjob, hopen, _, ⟨table, hinsert, rfl⟩, -, rfl⟩ := h
  have hhistory : ∀ key, table.lookup key =
      if operationId = key then some (historyRow db.syncHistory operationId code occurredAt)
      else db.syncHistory.lookup key := Table.lookup_of_insert hinsert
  have hfresh : db.syncHistory.lookup operationId = none := Table.lookup_of_insert_none hinsert
  rw [Database.jobView, Database.jobView, Table.lookup_update, hhistory key]
  by_cases hkey : operationId = key
  · subst hkey
    have hmatch : (decide (job.operationId = operationId) && job.isOpen) = true := by
      rw [Bool.and_eq_true, decide_eq_true_eq]
      exact ⟨(Table.lookup_eq_some_iff.mp hjob).2, hopen⟩
    rw [hjob, hfresh, if_pos rfl, Option.map_some, if_pos hmatch]
    exact .completed hopen rfl rfl
  · rw [if_neg hkey]
    cases hrow : db.syncJobs.lookup key with
    | none => exact .same
    | some row =>
        have hne : ¬ row.operationId = operationId := fun hid =>
          hkey (hid.symm.trans (Table.lookup_eq_some_iff.mp hrow).2)
        rw [Option.map_some, decide_eq_false hne]
        exact .same

/-- The recovery stops what was running. -/
theorem jobView_reopen {newV4 : ℕ → Uuid} {v : Unit}
    (h : exec (reopenStore sha256 vaultId newV4) db = (.ok v, db')) :
    db'.jobView key =
      ((db.syncJobs.lookup key).map fun row =>
        if row.state = .running then { row with
          state := .needsReconcile
          lastErrorCode := some "interrupted_unknown_outcome" } else row,
        db.syncHistory.lookup key) := by
  simp only [reopenStore, recoverInterruptedJobs, exec_bind_ok, exec_transaction_ok,
    exec_read_ok, exists_and_left, exists_eq_left', and_assoc] at h
  obtain ⟨_, mid, hload, _, jobs, hjobs, _, transfers, htransfers, hloop⟩ := h
  have hkeeps : Keeps Eq (loadState vaultId) := inferInstance
  obtain rfl := hkeeps.of_exec hload
  have ftransfers : OnlyWrites [.transfers, .mutationState, .mutationEvents, .mutationEvidence]
      jobs transfers := Keeps.of_exec inferInstance htransfers
  have floop : OnlyWrites [.transfers, .mutationState, .mutationEvents, .mutationEvidence]
      transfers db' := Keeps.of_exec inferInstance hloop
  rw [exec_write_ok] at hjobs
  rw [jobView_of_onlyWrites (IsTrans.trans _ _ _ ftransfers floop) (by decide) (by decide),
    ← hjobs, Database.jobView, Table.lookup_update]
  simp only [decide_eq_true_eq]

theorem jobStep_reopen {newV4 : ℕ → Uuid} {v : Unit}
    (h : exec (reopenStore sha256 vaultId newV4) db = (.ok v, db')) :
    JobStep db key (.reopen newV4) (db.jobView key) (db'.jobView key) := by
  rw [jobView_reopen h, Database.jobView]
  cases db.syncJobs.lookup key with
  | none => exact .same
  | some row =>
      rw [Option.map_some]
      split
      · rename_i hstate
        exact .interrupted hstate
      · exact .same

theorem jobStep (u : Unicode) (sha256 : Sha256) (vaultId : Uuid) (db : Database)
    (op : Operation) (key : Uuid) :
    JobStep db key op (db.jobView key) ((step u sha256 vaultId db op).jobView key) := by
  rcases step_eq_or_ok u sha256 vaultId db op with hsame | ⟨reply, hok⟩
  · rw [hsame]
    exact .same
  cases op
  case enqueueJob operationId kind path destinationPath remoteFileId revision createdAt =>
    obtain ⟨_, hcall, -⟩ := exec_replying_ok.mp hok
    exact jobStep_enqueue hcall
  case claimNextJob now =>
    obtain ⟨_, hcall, -⟩ := exec_replying_ok.mp hok
    exact jobStep_claim hcall
  case scheduleRetry operationId next code =>
    obtain ⟨_, hcall, -⟩ := exec_replying_ok.mp hok
    exact jobStep_retry hcall
  case completeVerifiedJob operationId code occurredAt =>
    obtain ⟨_, hcall, -⟩ := exec_replying_ok.mp hok
    exact jobStep_complete hcall
  case reopen newV4 =>
    obtain ⟨_, hcall, -⟩ := exec_replying_ok.mp hok
    exact jobStep_reopen hcall
  all_goals exact jobStep_of_writes (by simp [Operation.writes])

end Calls

end Store
end MyVault
