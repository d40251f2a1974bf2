import MyVault.Library.Dispatch
import MyVault.Store.Batches
import MyVault.Store.JobMoves
import MyVault.Store.TransferMoves

/-!
# Transfers and jobs are dispatched once for each authorisation

A transfer and a job are items of work: `transfers_dispatch` and `jobs_dispatch` say
that every operation makes one of the moves of `Library.Dispatch`.  What is said there
about items holds of both.  The history tables are an invariant of their own: an item
has its one row there from its completion on.

## Main results

* `transfers_dispatch`, `jobs_dispatch`: the stage of an item moves as the library says.  A retry
  authorises the next claim of an item, and of a transfer also a pause, a resumption and a requeue
  for reconciliation.
* `historyOfCompleted_run`: the history has one row for a completed item and none for another.
* `transfersDispatched`, `jobsDispatched`: between two claims of one item there is a call that
  authorises the second, an item found running by a restart is not claimed before one, and a
  completed item stays as it is.
* `dispatched_once`: both, of every run of the store's calls.

Transfers and jobs share nothing in the source but the shape of their tables.  So the stages, the
authorising calls and the completing calls are given twice, and the induction over the run once.
-/

namespace MyVault
namespace Store

open Check Program

/-! ## Stages -/

/-- The stage a phase of a transfer is in. -/
def TransferPhase.stage : TransferPhase → Stage
  | .pending | .retryScheduled => .waiting
  | .running | .authRequired | .needsReconcile => .taken
  | .completed => .done

/-- The stage a state of a job is in. -/
def JobState.stage : JobState → Stage
  | .pending | .retryScheduled => .waiting
  | .running | .needsReconcile => .taken
  | .completed => .done

/-- The stage of a transfer, as far as the store knows it. -/
def transferViewStage : TransferView → Stage
  | (some row, _) => row.phase.stage
  | (none, _) => .absent

/-- The stage of a job, as far as the store knows it. -/
def jobViewStage : JobView → Stage
  | (some row, _) => row.state.stage
  | (none, _) => .absent

/-- The stage of the transfer of an operation. -/
def transferStage (key : Uuid) (db : Database) : Stage := transferViewStage (db.transferView key)

/-- The stage of the job of an operation. -/
def jobStage (key : Uuid) (db : Database) : Stage := jobViewStage (db.jobView key)

/-- The calls that authorise a transfer to run again. -/
inductive AuthorisesTransfer (key : Uuid) : Operation → Prop
  | retry (next : ℕ) (code : String) (updatedAt : ℕ) :
      AuthorisesTransfer key (.scheduleTransferRetry key next code updatedAt)
  | pause (next : ℕ) (code : String) (updatedAt : ℕ) :
      AuthorisesTransfer key (.pauseTransferOffline key next code updatedAt)
  | resume (now : ℕ) : AuthorisesTransfer key (.resumeAuthRequiredTransfers now)
  | requeue (now : ℕ) : AuthorisesTransfer key (.requeueTransferForReconciliation key now)

/-- The call that authorises a job to run again. -/
inductive AuthorisesJob (key : Uuid) : Operation → Prop
  | retry (next : ℕ) (code : String) : AuthorisesJob key (.scheduleRetry key next code)

/-- The calls that give a transfer to a worker. -/
inductive ClaimsTransfer : Operation → Prop
  | claim (now : ℕ) : ClaimsTransfer (.claimNextTransfer now)

/-- The calls that give a job to a worker. -/
inductive ClaimsJob : Operation → Prop
  | claim (now : ℕ) : ClaimsJob (.claimNextJob now)

/-- The calls that complete the transfer. -/
inductive CompletesTransfer (key : Uuid) : Operation → Prop
  | complete (completion : TransferCompletion) :
      CompletesTransfer key (.completeVerifiedTransfer key completion)

/-- The calls that complete the job. -/
inductive CompletesJob (key : Uuid) : Operation → Prop
  | complete (code : String) (occurredAt : ℕ) :
      CompletesJob key (.completeVerifiedJob key code occurredAt)

theorem transferStage_isWaiting {row : TransferRecord} :
    row.isWaiting = true ↔ row.phase.stage = .waiting := by
  rw [TransferRecord.isWaiting]
  cases row.phase <;> decide

theorem transferStage_isOpen {row : TransferRecord} (h : row.isOpen = true) :
    row.phase.stage = .taken := by
  rw [TransferRecord.isOpen] at h
  revert h
  cases row.phase <;> decide

theorem transferStage_retried {row : TransferRecord}
    (h : (row.isOpen || row.phase == .authRequired) = true) : row.phase.stage = .taken := by
  rw [TransferRecord.isOpen] at h
  revert h
  cases row.phase <;> decide

theorem jobStage_isWaiting {row : QueueJob} :
    row.isWaiting = true ↔ row.state.stage = .waiting := by
  rw [QueueJob.isWaiting]
  cases row.state <;> decide

theorem jobStage_isOpen {row : QueueJob} (h : row.isOpen = true) : row.state.stage = .taken := by
  rw [QueueJob.isOpen] at h
  revert h
  cases row.state <;> decide

theorem phase_of_stage_done {phase : TransferPhase} (h : phase.stage = .done) :
    phase = .completed := by
  cases phase <;> first | rfl | cases h

theorem state_of_stage_done {state : JobState} (h : state.stage = .done) : state = .completed := by
  cases state <;> first | rfl | cases h

section Moves

variable (u : Unicode) (sha256 : Sha256) (vaultId : Uuid) (key : Uuid)

/-- Every operation makes a move of the transfer. -/
theorem transfers_dispatch : Dispatches (step u sha256 vaultId) (transferStage key)
    ClaimsTransfer (AuthorisesTransfer key) (CompletesTransfer key) := by
  intro db op
  have hstep := transferStep u sha256 vaultId db op key
  rw [transferStage, transferStage]
  generalize db.transferView key = view at hstep
  generalize (step u sha256 vaultId db op).transferView key = view' at hstep
  cases hstep with
  | same => exact .stay _
  | registered hvalid =>
      show Stage.Move _ _ _ .absent (TransferPhase.stage _)
      rw [(validateNewTransfer_eq_ok.mp hvalid).2.1]
      exact .enter
  | claimed hnow hdue hwaiting =>
      show Stage.Move _ _ _ (TransferPhase.stage _) .taken
      rw [transferStage_isWaiting.mp hwaiting]
      exact .claim (.claim _)
  | retried hnext hcode hupdated hphase htime =>
      show Stage.Move _ _ _ (TransferPhase.stage _) .waiting
      rw [transferStage_retried hphase]
      exact .authorise (.retry _ _ _)
  | paused hnext hcode hupdated hphase htime =>
      show Stage.Move _ _ _ (TransferPhase.stage _) .waiting
      rw [hphase]
      exact .authorise (.pause _ _ _)
  | @stopped _ target _ _ _ _ htarget hcode hupdated hphase htime =>
      show Stage.Move _ _ _ (TransferPhase.stage _) target.stage
      rw [hphase]
      rcases htarget with rfl | rfl
      · exact .stay .taken
      · exact .stay .taken
  | resumed hnow hphase htime =>
      show Stage.Move _ _ _ (TransferPhase.stage _) .waiting
      rw [hphase]
      exact .authorise (.resume _)
  | requeued hnow hphase htime =>
      show Stage.Move _ _ _ (TransferPhase.stage _) .waiting
      rw [hphase]
      exact .authorise (.requeue _)
  | based hreference hupdated hopen hnone htime => exact .stay _
  | completed hvalid hexpected hcode htime =>
      show Stage.Move _ _ _ (TransferPhase.stage _) .done
      rw [transferStage_isOpen (isOpen_of_isExpectedCompletion hexpected).1]
      exact .complete (.complete _)
  | touched hnow hopen htime => exact .stay _
  | interrupted hphase =>
      show Stage.Move _ _ _ (TransferPhase.stage _) .taken
      rw [hphase]
      exact .stay .taken

/-- Every operation makes a move of the job. -/
theorem jobs_dispatch : Dispatches (step u sha256 vaultId) (jobStage key) ClaimsJob
    (AuthorisesJob key) (CompletesJob key) := by
  intro db op
  have hstep := jobStep u sha256 vaultId db op key
  rw [jobStage, jobStage]
  generalize db.jobView key = view at hstep
  generalize (step u sha256 vaultId db op).jobView key = view' at hstep
  cases hstep with
  | same => exact .stay _
  | enqueued hnew =>
      show Stage.Move _ _ _ .absent (JobState.stage _)
      rw [hnew]
      exact .enter
  | claimed hdue hwaiting =>
      show Stage.Move _ _ _ (JobState.stage _) .taken
      rw [jobStage_isWaiting.mp hwaiting]
      exact .claim (.claim _)
  | retried hopen =>
      show Stage.Move _ _ _ (JobState.stage _) .waiting
      rw [jobStage_isOpen hopen]
      exact .authorise (.retry _ _)
  | completed hopen hcode htime =>
      show Stage.Move _ _ _ (JobState.stage _) .done
      rw [jobStage_isOpen hopen]
      exact .complete (.complete _ _)
  | interrupted hstate =>
      show Stage.Move _ _ _ (JobState.stage _) .taken
      rw [hstate]
      exact .stay .taken

end Moves

/-! ## Claims -/

/-- The call returns the reply. -/
def Returns (u : Unicode) (sha256 : Sha256) (vaultId : Uuid) (db : Database) (op : Operation)
    (reply : Reply) : Prop :=
  exec (perform u sha256 vaultId op) db = (.ok reply, step u sha256 vaultId db op)

section Claims

variable {u : Unicode} {sha256 : Sha256} {vaultId : Uuid} {db : Database} {now : ℕ}

theorem transferStage_of_lookup {row : TransferRecord}
    (h : db.transfers.lookup row.operationId = some row) :
    transferStage row.operationId db = row.phase.stage := by
  rw [transferStage, Database.transferView, h]
  rfl

theorem jobStage_of_lookup {row : QueueJob}
    (h : db.syncJobs.lookup row.operationId = some row) :
    jobStage row.operationId db = row.state.stage := by
  rw [jobStage, Database.jobView, h]
  rfl

/-- A claim returns a transfer that was waiting, and takes it. -/
theorem taken_of_claimNextTransfer {row : TransferRecord}
    (h : Returns u sha256 vaultId db (.claimNextTransfer now) (.transfer (some row))) :
    transferStage row.operationId db = .waiting ∧
      transferStage row.operationId (step u sha256 vaultId db (.claimNextTransfer now)) =
        .taken := by
  obtain ⟨claimed, hcall, hreply⟩ := exec_replying_ok.mp h
  cases hreply
  simp only [claimNextTransfer, exec_bind_ok, exec_lift_ok, exec_transaction_ok, exec_read_ok,
    exists_and_left, exists_eq_left', and_assoc] at hcall
  obtain ⟨_, -, _, -, hcall⟩ := hcall
  cases hdue : dueTransfer now db with
  | none =>
      rw [hdue, claimTransfer, exec_pure_ok] at hcall
      cases hcall.1
  | some due =>
      simp only [hdue, claimTransfer, exec_bind_ok, exec_updateTransfers_ok, exec_reject_ok,
        exec_pure_ok, exists_and_left, exists_eq_left', exists_const, and_assoc,
        Option.some.injEq] at hcall
      obtain ⟨-, rfl, hdb⟩ := hcall
      obtain ⟨hmem, hwaiting, -⟩ := dueTransfer_eq_some hdue
      have hrow : db.transfers.lookup due.operationId = some due :=
        Table.lookup_eq_some_iff.mpr ⟨hmem, rfl⟩
      constructor
      · exact (transferStage_of_lookup hrow).trans (transferStage_isWaiting.mp hwaiting)
      · rw [← hdb]
        show transferStage due.operationId _ = _
        rw [transferStage, Database.transferView, Table.lookup_update, hrow, Option.map_some,
          if_pos (matchesId_iff.mpr ⟨rfl, hwaiting⟩)]
        rfl

/-- A claim returns a job that was waiting, and takes it. -/
theorem taken_of_claimNextJob {row : QueueJob}
    (h : Returns u sha256 vaultId db (.claimNextJob now) (.job (some row))) :
    jobStage row.operationId db = .waiting ∧
      jobStage row.operationId (step u sha256 vaultId db (.claimNextJob now)) = .taken := by
  obtain ⟨claimed, hcall, hreply⟩ := exec_replying_ok.mp h
  cases hreply
  simp only [claimNextJob, exec_bind_ok, exec_lift_ok, exec_transaction_ok, exec_read_ok,
    exists_and_left, exists_eq_left', and_assoc] at hcall
  obtain ⟨_, -, _, -, hcall⟩ := hcall
  cases hdue : dueJob now db with
  | none =>
      rw [hdue, claimJob, exec_pure_ok] at hcall
      cases hcall.1
  | some due =>
      simp only [hdue, claimJob, exec_bind_ok, exec_updateJobs_ok, exec_reject_ok, exec_pure_ok,
        exists_and_left, exists_eq_left', exists_const, and_assoc, Option.some.injEq] at hcall
      obtain ⟨-, rfl, hdb⟩ := hcall
      obtain ⟨hmem, hwaiting, -⟩ := dueJob_eq_some hdue
      have hrow : db.syncJobs.lookup due.operationId = some due :=
        Table.lookup_eq_some_iff.mpr ⟨hmem, rfl⟩
      have hmatch : (decide (due.operationId = due.operationId) && due.isWaiting) = true := by
        rw [hwaiting, decide_eq_true rfl]
        rfl
      constructor
      · exact (jobStage_of_lookup hrow).trans (jobStage_isWaiting.mp hwaiting)
      · rw [← hdb]
        show jobStage due.operationId _ = _
        rw [jobStage, Database.jobView, Table.lookup_update, hrow, Option.map_some, if_pos hmatch]
        rfl

/-- A transfer found running needs to be reconciled. -/
theorem needsReconcile_of_reopen {newV4 : ℕ → Uuid} {row : TransferRecord}
    (h : Succeeds u sha256 vaultId db (.reopen newV4)) (hrow : row ∈ db.transfers)
    (hphase : row.phase = .running) :
    ∃ row', (step u sha256 vaultId db (.reopen newV4)).transfers.lookup row.operationId =
      some row' ∧ row'.phase = .needsReconcile := by
  obtain ⟨reply, hok⟩ := h
  obtain ⟨_, hcall, -⟩ := exec_replying_ok.mp hok
  have hview : (step u sha256 vaultId db (.reopen newV4)).transferView row.operationId = _ :=
    transferView_reopen hcall
  rw [Table.lookup_eq_some_iff.mpr ⟨hrow, rfl⟩, Option.map_some, if_pos hphase] at hview
  exact ⟨_, congrArg Prod.fst hview, rfl⟩

/-- A job found running needs to be reconciled. -/
theorem job_needsReconcile_of_reopen {newV4 : ℕ → Uuid} {row : QueueJob}
    (h : Succeeds u sha256 vaultId db (.reopen newV4)) (hrow : row ∈ db.syncJobs)
    (hstate : row.state = .running) :
    ∃ row', (step u sha256 vaultId db (.reopen newV4)).syncJobs.lookup row.operationId =
      some row' ∧ row'.state = .needsReconcile := by
  obtain ⟨reply, hok⟩ := h
  obtain ⟨_, hcall, -⟩ := exec_replying_ok.mp hok
  have hview : (step u sha256 vaultId db (.reopen newV4)).jobView row.operationId = _ :=
    jobView_reopen hcall
  rw [Table.lookup_eq_some_iff.mpr ⟨hrow, rfl⟩, Option.map_some, if_pos hstate] at hview
  exact ⟨_, congrArg Prod.fst hview, rfl⟩

end Claims

/-! ## Completed items -/

section Completed

variable {u : Unicode} {sha256 : Sha256} {vaultId : Uuid} {db : Database} {key : Uuid}

/-- A completed transfer stays as it is, and so does its history. -/
theorem transferView_of_completed {row : TransferRecord} {history : Option HistoryRow}
    (op : Operation) (hview : db.transferView key = (some row, history))
    (hphase : row.phase = .completed) :
    (step u sha256 vaultId db op).transferView key = (some row, history) := by
  have hstep := transferStep u sha256 vaultId db op key
  rw [hview] at hstep
  generalize (step u sha256 vaultId db op).transferView key = view' at hstep ⊢
  have hnot : ∀ stage, row.phase.stage = stage → stage = .done := by
    rintro _ rfl
    rw [hphase]
    rfl
  cases hstep with
  | same => rfl
  | claimed hnow hdue hwaiting => nomatch hnot _ (transferStage_isWaiting.mp hwaiting)
  | retried hnext hcode hupdated hopen htime => nomatch hnot _ (transferStage_retried hopen)
  | paused hnext hcode hupdated hrunning htime => cases hphase.symm.trans hrunning
  | stopped htarget hcode hupdated hrunning htime => cases hphase.symm.trans hrunning
  | resumed hnow hauth htime => cases hphase.symm.trans hauth
  | requeued hnow hreconcile htime => cases hphase.symm.trans hreconcile
  | based hreference hupdated hopen hnone htime => nomatch hnot _ (transferStage_isOpen hopen)
  | completed hvalid hexpected hcode htime =>
      nomatch hnot _ (transferStage_isOpen (isOpen_of_isExpectedCompletion hexpected).1)
  | touched hnow hopen htime => nomatch hnot _ (transferStage_isOpen hopen)
  | interrupted hrunning => cases hphase.symm.trans hrunning

/-- A completed job stays as it is, and so does its history. -/
theorem jobView_of_completed {row : QueueJob} {history : Option HistoryRow} (op : Operation)
    (hview : db.jobView key = (some row, history)) (hstate : row.state = .completed) :
    (step u sha256 vaultId db op).jobView key = (some row, history) := by
  have hstep := jobStep u sha256 vaultId db op key
  rw [hview] at hstep
  generalize (step u sha256 vaultId db op).jobView key = view' at hstep ⊢
  have hnot : ∀ stage, row.state.stage = stage → stage = .done := by
    rintro _ rfl
    rw [hstate]
    rfl
  cases hstep with
  | same => rfl
  | claimed hdue hwaiting => nomatch hnot _ (jobStage_isWaiting.mp hwaiting)
  | retried hopen => nomatch hnot _ (jobStage_isOpen hopen)
  | completed hopen hcode htime => nomatch hnot _ (jobStage_isOpen hopen)
  | interrupted hrunning => cases hstate.symm.trans hrunning

theorem transferView_run_of_completed {row : TransferRecord} {history : Option HistoryRow}
    (ops : List Operation) (hview : db.transferView key = (some row, history))
    (hphase : row.phase = .completed) :
    (Runs.run (step u sha256 vaultId) db ops).transferView key = (some row, history) :=
  Runs.run_induction (P := fun db : Database => db.transferView key = (some row, history))
    (fun _ op h => transferView_of_completed op h hphase) ops hview

theorem jobView_run_of_completed {row : QueueJob} {history : Option HistoryRow}
    (ops : List Operation) (hview : db.jobView key = (some row, history))
    (hstate : row.state = .completed) :
    (Runs.run (step u sha256 vaultId) db ops).jobView key = (some row, history) :=
  Runs.run_induction (P := fun db : Database => db.jobView key = (some row, history))
    (fun _ op h => jobView_of_completed op h hstate) ops hview

end Completed

/-! ## Histories -/

/-- A transfer has a row in its history exactly if it is completed, and a job has. -/
structure HistoryOfCompleted (db : Database) : Prop where
  transfers : ∀ key, (db.transferHistory.lookup key).isSome = true ↔ transferStage key db = .done
  jobs : ∀ key, (db.syncHistory.lookup key).isSome = true ↔ jobStage key db = .done

section History

variable {u : Unicode} {sha256 : Sha256} {vaultId : Uuid} {db : Database}

/-- Only a completion writes the history of a transfer. -/
theorem history_of_transferStep {key : Uuid} {op : Operation} {view view' : TransferView}
    (h : TransferStep u db key op view view')
    (hold : view.2.isSome = true ↔ transferViewStage view = .done) :
    view'.2.isSome = true ↔ transferViewStage view' = .done := by
  have hkeep : ∀ {stage stage' : Stage}, transferViewStage view = stage → stage ≠ .done →
      stage' ≠ .done → (view.2.isSome = true ↔ stage' = .done) := by
    rintro _ stage' rfl hne hne'
    exact hold.trans (iff_of_false hne hne')
  cases h with
  | same => exact hold
  | registered hvalid =>
      refine hkeep rfl nofun ?_
      rw [transferViewStage, (validateNewTransfer_eq_ok.mp hvalid).2.1]
      exact nofun
  | claimed hnow hdue hwaiting => exact hkeep (transferStage_isWaiting.mp hwaiting) nofun nofun
  | retried hnext hcode hupdated hphase htime =>
      exact hkeep (transferStage_retried hphase) nofun nofun
  | paused hnext hcode hupdated hphase htime =>
      exact hkeep (congrArg TransferPhase.stage hphase) nofun nofun
  | stopped htarget hcode hupdated hphase htime =>
      refine hkeep (congrArg TransferPhase.stage hphase) nofun ?_
      rcases htarget with rfl | rfl
      · exact nofun
      · exact nofun
  | resumed hnow hphase htime => exact hkeep (congrArg TransferPhase.stage hphase) nofun nofun
  | requeued hnow hphase htime => exact hkeep (congrArg TransferPhase.stage hphase) nofun nofun
  | based hreference hupdated hopen hnone htime => exact hold
  | completed hvalid hexpected hcode htime => exact iff_of_true rfl rfl
  | touched hnow hopen htime => exact hold
  | interrupted hphase => exact hkeep (congrArg TransferPhase.stage hphase) nofun nofun

/-- Only a completion writes the history of a job. -/
theorem history_of_jobStep {key : Uuid} {op : Operation} {view view' : JobView}
    (h : JobStep db key op view view')
    (hold : view.2.isSome = true ↔ jobViewStage view = .done) :
    view'.2.isSome = true ↔ jobViewStage view' = .done := by
  have hkeep : ∀ {stage stage' : Stage}, jobViewStage view = stage → stage ≠ .done →
      stage' ≠ .done → (view.2.isSome = true ↔ stage' = .done) := by
    rintro _ stage' rfl hne hne'
    exact hold.trans (iff_of_false hne hne')
  cases h with
  | same => exact hold
  | enqueued hnew =>
      refine hkeep rfl nofun ?_
      rw [jobViewStage, hnew]
      exact nofun
  | claimed hdue hwaiting => exact hkeep (jobStage_isWaiting.mp hwaiting) nofun nofun
  | retried hopen => exact hkeep (jobStage_isOpen hopen) nofun nofun
  | completed hopen hcode htime => exact iff_of_true rfl rfl
  | interrupted hstate => exact hkeep (congrArg JobState.stage hstate) nofun nofun

theorem historyOfCompleted_run (ops : List Operation) :
    HistoryOfCompleted (runStore u sha256 vaultId ops) := by
  have hempty : HistoryOfCompleted Database.empty :=
    ⟨fun _ => iff_of_false nofun nofun, fun _ => iff_of_false nofun nofun⟩
  refine Runs.run_induction (fun db op h => ⟨fun key => ?_, fun key => ?_⟩) ops hempty
  · exact history_of_transferStep (transferStep u sha256 vaultId db op key) (h.transfers key)
  · exact history_of_jobStep (jobStep u sha256 vaultId db op key) (h.jobs key)

end History

/-! ## The recorded completion -/

/-- The transfer is completed, and its row and its history say with what. -/
def Recorded (key : Uuid) (completion : TransferCompletion) (db : Database) : Prop :=
  ∃ row, db.transfers.lookup key = some row ∧ row.phase = .completed ∧
    isSameCompletion row (db.transferHistory.lookup key) completion = true

section Recorded

variable {u : Unicode} {sha256 : Sha256} {vaultId : Uuid} {db : Database} {key : Uuid}
  {completion : TransferCompletion}

theorem isSameCompletion_complete {row : TransferRecord} {event : HistoryRow}
    {completed : TransferCompletion} (hcode : event.outcomeCode = completed.outcomeCode)
    (htime : event.occurredAtUnixMs = completed.occurredAtUnixMs)
    (h : isSameCompletion (row.complete completed) (some event) completion = true) :
    completion = completed := by
  simp only [isSameCompletion, TransferRecord.complete, Bool.and_eq_true, beq_iff_eq,
    Option.some.injEq, Option.map_some, Prod.mk.injEq] at h
  obtain ⟨⟨⟨⟨hfile, hremote⟩, hlocal⟩, hbase⟩, hevent, hoccurred⟩ := h
  cases completion
  cases completed
  simp only [TransferCompletion.mk.injEq]
  exact ⟨hfile.symm, hremote.symm, hlocal.symm, hbase.symm, hevent.symm.trans hcode,
    hoccurred.symm.trans htime⟩

theorem transferStage_of_phase {row : TransferRecord} (hrow : db.transfers.lookup key = some row)
    (hphase : row.phase = .completed) : transferStage key db = .done := by
  rw [transferStage, Database.transferView, hrow, transferViewStage, hphase]
  rfl

theorem exists_of_transferStage_done (h : transferStage key db = .done) :
    ∃ row, db.transfers.lookup key = some row ∧ row.phase = .completed := by
  rw [transferStage, Database.transferView] at h
  cases hrow : db.transfers.lookup key with
  | none =>
      rw [hrow] at h
      cases h
  | some row =>
      rw [hrow] at h
      exact ⟨row, rfl, phase_of_stage_done h⟩

/-- Only the completion itself records a completion. -/
theorem completes_of_recorded {op : Operation} (hbefore : ¬ Recorded key completion db)
    (hafter : Recorded key completion (step u sha256 vaultId db op)) :
    op = .completeVerifiedTransfer key completion ∧
      Returns u sha256 vaultId db op (.transferCompleted .completed) := by
  obtain ⟨row, hrow, hphase, hsame⟩ := hafter
  have hdone := transferStage_of_phase hrow hphase
  have hnot : transferStage key db ≠ .done := by
    intro hdone
    obtain ⟨old, hold, hcompleted⟩ := exists_of_transferStage_done hdone
    have hview : db.transferView key = (some old, db.transferHistory.lookup key) := by
      rw [Database.transferView, hold]
    have hkept : (step u sha256 vaultId db op).transferView key =
        (some old, db.transferHistory.lookup key) := transferView_of_completed op hview hcompleted
    obtain ⟨hrows, hhistory⟩ := Prod.mk.inj hkept
    obtain rfl : row = old := Option.some.inj (hrow.symm.trans hrows)
    rw [hhistory] at hsame
    exact hbefore ⟨row, hold, hphase, hsame⟩
  have hmove := transfers_dispatch u sha256 vaultId key db op
  rw [hdone] at hmove
  generalize transferStage key db = stage at hmove hnot
  cases hmove with
  | stay => exact absurd rfl hnot
  | complete hcompletes =>
      obtain ⟨completed⟩ := hcompletes
      rcases step_eq_or_ok u sha256 vaultId db (.completeVerifiedTransfer key completed) with
        hunchanged | ⟨reply, hok⟩
      · rw [hunchanged] at hrow hsame
        exact absurd ⟨row, hrow, hphase, hsame⟩ hbefore
      · obtain ⟨r, hcall, rfl⟩ := exec_replying_ok.mp hok
        obtain ⟨-, existing, hexisting, hcases⟩ := completion_cases hcall
        rcases hcases with ⟨-, -, hunchanged, -⟩ | ⟨-, rfl, event, hcompletes⟩
        · rw [hunchanged] at hrow hsame
          exact absurd ⟨row, hrow, hphase, hsame⟩ hbefore
        · have hid : existing.operationId = key := (Table.lookup_eq_some_iff.mp hexisting).2
          have hview := hcompletes.view key
          rw [if_pos hid] at hview
          obtain ⟨hrows, hhistory⟩ := Prod.mk.inj hview
          obtain rfl : row = existing.complete completed :=
            Option.some.inj (hrow.symm.trans hrows)
          rw [hhistory] at hsame
          obtain rfl : completion = completed :=
            isSameCompletion_complete hcompletes.outcomeCode hcompletes.occurredAt hsame
          exact ⟨rfl, hok⟩

/-- What a transfer has recorded it was completed with by a call of the run. -/
theorem exists_completion_of_recorded {ops : List Operation}
    (h : Recorded key completion (runStore u sha256 vaultId ops)) :
    ∃ pre post, ops = pre ++ .completeVerifiedTransfer key completion :: post ∧
      Returns u sha256 vaultId (runStore u sha256 vaultId pre)
        (.completeVerifiedTransfer key completion) (.transferCompleted .completed) := by
  have hempty : ¬ Recorded key completion Database.empty := by
    rintro ⟨row, hrow, -⟩
    cases hrow
  obtain ⟨pre, op, post, rfl, hbefore, hafter⟩ :=
    Runs.exists_turn (fun db => ¬ Recorded key completion db) hempty (not_not_intro h)
  obtain ⟨rfl, hreturns⟩ := completes_of_recorded hbefore (not_not.mp hafter)
  exact ⟨pre, post, rfl, hreturns⟩

end Recorded

/-! ## Runs -/

section Runs

variable (u : Unicode) (sha256 : Sha256) (vaultId : Uuid)

/-- After the calls `pre`, one of the calls `mid` authorises the item. -/
def AuthorisedWithin (stage : Database → Stage) (Authorises : Operation → Prop)
    (pre mid : List Operation) : Prop :=
  ∃ front op back, mid = front ++ op :: back ∧
    Rearms (step u sha256 vaultId) stage Authorises (runStore u sha256 vaultId (pre ++ front)) op

/-- How the transfers of a store are dispatched. -/
structure TransfersDispatched : Prop where
  /-- Between two claims of a transfer a call authorises it. -/
  claims : ∀ pre mid now₁ now₂ row₁ row₂,
    Returns u sha256 vaultId (runStore u sha256 vaultId pre) (.claimNextTransfer now₁)
      (.transfer (some row₁)) →
    Returns u sha256 vaultId (runStore u sha256 vaultId (pre ++ .claimNextTransfer now₁ :: mid))
      (.claimNextTransfer now₂) (.transfer (some row₂)) →
    row₂.operationId = row₁.operationId →
    AuthorisedWithin u sha256 vaultId (transferStage row₁.operationId)
      (AuthorisesTransfer row₁.operationId) (pre ++ [.claimNextTransfer now₁]) mid
  /-- A transfer found running needs to be reconciled, and it is not claimed before a call
  authorises it. -/
  interrupted : ∀ pre newV4,
    Succeeds u sha256 vaultId (runStore u sha256 vaultId pre) (.reopen newV4) →
    ∀ row ∈ (runStore u sha256 vaultId pre).transfers, row.phase = .running →
      (∃ row' ∈ (runStore u sha256 vaultId (pre ++ [.reopen newV4])).transfers,
        row'.operationId = row.operationId ∧ row'.phase = .needsReconcile) ∧
      ∀ mid now row', Returns u sha256 vaultId
          (runStore u sha256 vaultId (pre ++ .reopen newV4 :: mid)) (.claimNextTransfer now)
          (.transfer (some row')) →
        row'.operationId = row.operationId →
        AuthorisedWithin u sha256 vaultId (transferStage row.operationId)
          (AuthorisesTransfer row.operationId) (pre ++ [.reopen newV4]) mid
  /-- A completed transfer stays as it is. -/
  terminal : ∀ pre mid, ∀ row ∈ (runStore u sha256 vaultId pre).transfers,
    row.phase = .completed → row ∈ (runStore u sha256 vaultId (pre ++ mid)).transfers
  /-- The history has one row of every completed transfer and no other. -/
  history : ∀ ops,
    (∀ row ∈ (runStore u sha256 vaultId ops).transfers,
      (runStore u sha256 vaultId ops).transferHistory.count
        (fun event => decide (event.operationId = row.operationId)) =
          if row.phase = .completed then 1 else 0) ∧
      ∀ event ∈ (runStore u sha256 vaultId ops).transferHistory,
        ∃ row ∈ (runStore u sha256 vaultId ops).transfers,
          row.operationId = event.operationId ∧ row.phase = .completed
  /-- The completion of a completed transfer changes nothing, and it succeeds only with
  the completion that was recorded. -/
  again : ∀ ops completion, ∀ row ∈ (runStore u sha256 vaultId ops).transfers,
    row.phase = .completed →
      step u sha256 vaultId (runStore u sha256 vaultId ops)
        (.completeVerifiedTransfer row.operationId completion) = runStore u sha256 vaultId ops ∧
      ∀ outcome, Returns u sha256 vaultId (runStore u sha256 vaultId ops)
          (.completeVerifiedTransfer row.operationId completion) (.transferCompleted outcome) →
        outcome = .alreadyCompleted ∧ Recorded row.operationId completion
          (runStore u sha256 vaultId ops) ∧
        ∃ pre post, ops = pre ++ .completeVerifiedTransfer row.operationId completion :: post ∧
          Returns u sha256 vaultId (runStore u sha256 vaultId pre)
            (.completeVerifiedTransfer row.operationId completion) (.transferCompleted .completed)

/-- How the jobs of a store are dispatched. -/
structure JobsDispatched : Prop where
  /-- Between two claims of a job a call authorises it. -/
  claims : ∀ pre mid now₁ now₂ row₁ row₂,
    Returns u sha256 vaultId (runStore u sha256 vaultId pre) (.claimNextJob now₁)
      (.job (some row₁)) →
    Returns u sha256 vaultId (runStore u sha256 vaultId (pre ++ .claimNextJob now₁ :: mid))
      (.claimNextJob now₂) (.job (some row₂)) →
    row₂.operationId = row₁.operationId →
    AuthorisedWithin u sha256 vaultId (jobStage row₁.operationId)
      (AuthorisesJob row₁.operationId) (pre ++ [.claimNextJob now₁]) mid
  /-- A job found running needs to be reconciled, and it is not claimed before a call
  authorises it. -/
  interrupted : ∀ pre newV4,
    Succeeds u sha256 vaultId (runStore u sha256 vaultId pre) (.reopen newV4) →
    ∀ row ∈ (runStore u sha256 vaultId pre).syncJobs, row.state = .running →
      (∃ row' ∈ (runStore u sha256 vaultId (pre ++ [.reopen newV4])).syncJobs,
        row'.operationId = row.operationId ∧ row'.state = .needsReconcile) ∧
      ∀ mid now row', Returns u sha256 vaultId
          (runStore u sha256 vaultId (pre ++ .reopen newV4 :: mid)) (.claimNextJob now)
          (.job (some row')) →
        row'.operationId = row.operationId →
        AuthorisedWithin u sha256 vaultId (jobStage row.operationId)
          (AuthorisesJob row.operationId) (pre ++ [.reopen newV4]) mid
  /-- A completed job stays as it is. -/
  terminal : ∀ pre mid, ∀ row ∈ (runStore u sha256 vaultId pre).syncJobs,
    row.state = .completed → row ∈ (runStore u sha256 vaultId (pre ++ mid)).syncJobs
  /-- The history has one row of every completed job and no other. -/
  history : ∀ ops,
    (∀ row ∈ (runStore u sha256 vaultId ops).syncJobs,
      (runStore u sha256 vaultId ops).syncHistory.count
        (fun event => decide (event.operationId = row.operationId)) =
          if row.state = .completed then 1 else 0) ∧
      ∀ event ∈ (runStore u sha256 vaultId ops).syncHistory,
        ∃ row ∈ (runStore u sha256 vaultId ops).syncJobs,
          row.operationId = event.operationId ∧ row.state = .completed

variable {u sha256 vaultId}

/-- An item taken by a call waits after more calls only if one of them authorises it. -/
theorem authorisedWithin_of_taken {stage : Database → Stage}
    {Claims Authorises Completes : Operation → Prop}
    (hdispatches : Dispatches (step u sha256 vaultId) stage Claims Authorises Completes)
    {pre mid : List Operation} {op : Operation}
    (htaken : stage (step u sha256 vaultId (runStore u sha256 vaultId pre) op) = .taken)
    (hwaiting : stage (runStore u sha256 vaultId (pre ++ op :: mid)) = .waiting) :
    AuthorisedWithin u sha256 vaultId stage Authorises (pre ++ [op]) mid := by
  have hlater : runStore u sha256 vaultId (pre ++ op :: mid) =
      Runs.run (step u sha256 vaultId) (runStore u sha256 vaultId (pre ++ [op])) mid := by
    rw [← runStore_append, List.append_assoc]
    rfl
  rw [← runStore_concat] at htaken
  rw [hlater] at hwaiting
  obtain ⟨front, authorising, back, rfl, hrearms⟩ :=
    hdispatches.authorised_of_waiting htaken hwaiting
  rw [← runStore_append] at hrearms
  exact ⟨front, authorising, back, rfl, hrearms⟩

/-- A row of the history for each item that is done. -/
theorem count_history {history : Table HistoryRow.operationId} {key : Uuid} {c : Prop}
    [Decidable c] (h : (history.lookup key).isSome = true ↔ c) :
    history.count (fun event => decide (event.operationId = key)) = if c then 1 else 0 := by
  rw [Table.count_key]
  exact if_congr h rfl rfl

theorem transferStage_done_iff {db : Database} {row : TransferRecord} (hrow : row ∈ db.transfers) :
    transferStage row.operationId db = .done ↔ row.phase = .completed := by
  rw [transferStage_of_lookup (Table.lookup_eq_some_iff.mpr ⟨hrow, rfl⟩)]
  refine ⟨phase_of_stage_done, fun h => ?_⟩
  rw [h]
  rfl

theorem jobStage_done_iff {db : Database} {row : QueueJob} (hrow : row ∈ db.syncJobs) :
    jobStage row.operationId db = .done ↔ row.state = .completed := by
  rw [jobStage_of_lookup (Table.lookup_eq_some_iff.mpr ⟨hrow, rfl⟩)]
  refine ⟨state_of_stage_done, fun h => ?_⟩
  rw [h]
  rfl

theorem exists_of_jobStage_done {db : Database} {key : Uuid} (h : jobStage key db = .done) :
    ∃ row, db.syncJobs.lookup key = some row ∧ row.state = .completed := by
  rw [jobStage, Database.jobView] at h
  cases hrow : db.syncJobs.lookup key with
  | none =>
      rw [hrow] at h
      cases h
  | some row =>
      rw [hrow] at h
      exact ⟨row, rfl, state_of_stage_done h⟩

theorem mem_transfers_of_completed {pre mid : List Operation} {row : TransferRecord}
    (hrow : row ∈ (runStore u sha256 vaultId pre).transfers) (hphase : row.phase = .completed) :
    row ∈ (runStore u sha256 vaultId (pre ++ mid)).transfers := by
  have hview : (runStore u sha256 vaultId pre).transferView row.operationId =
      (some row, (runStore u sha256 vaultId pre).transferHistory.lookup row.operationId) := by
    rw [Database.transferView, Table.lookup_eq_some_iff.mpr ⟨hrow, rfl⟩]
  rw [runStore_append]
  have hlater : (Runs.run (step u sha256 vaultId) (runStore u sha256 vaultId pre) mid).transferView
      row.operationId = _ := transferView_run_of_completed mid hview hphase
  exact (Table.lookup_eq_some_iff.mp (congrArg Prod.fst hlater)).1

theorem mem_syncJobs_of_completed {pre mid : List Operation} {row : QueueJob}
    (hrow : row ∈ (runStore u sha256 vaultId pre).syncJobs) (hstate : row.state = .completed) :
    row ∈ (runStore u sha256 vaultId (pre ++ mid)).syncJobs := by
  have hview : (runStore u sha256 vaultId pre).jobView row.operationId =
      (some row, (runStore u sha256 vaultId pre).syncHistory.lookup row.operationId) := by
    rw [Database.jobView, Table.lookup_eq_some_iff.mpr ⟨hrow, rfl⟩]
  rw [runStore_append]
  have hlater : (Runs.run (step u sha256 vaultId) (runStore u sha256 vaultId pre) mid).jobView
      row.operationId = _ := jobView_run_of_completed mid hview hstate
  exact (Table.lookup_eq_some_iff.mp (congrArg Prod.fst hlater)).1

/-- The completion of a completed transfer. -/
theorem recorded_of_completed {db : Database} {row : TransferRecord}
    {completion : TransferCompletion} (hrow : row ∈ db.transfers)
    (hphase : row.phase = .completed) :
    step u sha256 vaultId db (.completeVerifiedTransfer row.operationId completion) = db ∧
      ∀ outcome, Returns u sha256 vaultId db
          (.completeVerifiedTransfer row.operationId completion) (.transferCompleted outcome) →
        outcome = .alreadyCompleted ∧ Recorded row.operationId completion db := by
  have hlookup : db.transfers.lookup row.operationId = some row :=
    Table.lookup_eq_some_iff.mpr ⟨hrow, rfl⟩
  have hcall : ∀ reply, Returns u sha256 vaultId db
      (.completeVerifiedTransfer row.operationId completion) reply →
      reply = .transferCompleted .alreadyCompleted ∧
        step u sha256 vaultId db (.completeVerifiedTransfer row.operationId completion) = db ∧
        Recorded row.operationId completion db := by
    intro reply hreturns
    obtain ⟨r, hok, rfl⟩ := exec_replying_ok.mp hreturns
    obtain ⟨-, existing, hexisting, hcases⟩ := completion_cases hok
    obtain rfl : row = existing := Option.some.inj (hlookup.symm.trans hexisting)
    rcases hcases with ⟨-, rfl, hdb, hsame⟩ | ⟨hne, -⟩
    · exact ⟨rfl, hdb, row, hlookup, hphase, hsame⟩
    · exact absurd hphase hne
  constructor
  · rcases step_eq_or_ok u sha256 vaultId db
      (.completeVerifiedTransfer row.operationId completion) with hsame | ⟨reply, hok⟩
    · exact hsame
    · exact (hcall reply hok).2.1
  · intro outcome hreturns
    obtain ⟨hreply, -, hrecorded⟩ := hcall _ hreturns
    exact ⟨Reply.transferCompleted.inj hreply, hrecorded⟩

variable (u sha256 vaultId)

theorem transfersDispatched : TransfersDispatched u sha256 vaultId where
  claims := by
    intro pre mid now₁ now₂ row₁ row₂ hfirst hsecond hid
    have hwaiting := (taken_of_claimNextTransfer hsecond).1
    rw [hid] at hwaiting
    exact authorisedWithin_of_taken (transfers_dispatch u sha256 vaultId row₁.operationId)
      (taken_of_claimNextTransfer hfirst).2 hwaiting
  interrupted := by
    intro pre newV4 hreopens row hrow hphase
    obtain ⟨row', hlookup, hstopped⟩ := needsReconcile_of_reopen hreopens hrow hphase
    obtain ⟨hmem, hid⟩ := Table.lookup_eq_some_iff.mp hlookup
    constructor
    · rw [runStore_concat]
      exact ⟨row', hmem, hid, hstopped⟩
    · intro mid now claimed hclaim hsame
      have hwaiting := (taken_of_claimNextTransfer hclaim).1
      rw [hsame] at hwaiting
      refine authorisedWithin_of_taken (transfers_dispatch u sha256 vaultId row.operationId) ?_
        hwaiting
      rw [transferStage, Database.transferView, hlookup, transferViewStage, hstopped]
      rfl
  terminal pre mid row hrow hphase := mem_transfers_of_completed hrow hphase
  history := by
    intro ops
    have hhistory : HistoryOfCompleted (runStore u sha256 vaultId ops) :=
      historyOfCompleted_run ops
    refine ⟨fun row hrow => count_history ?_, fun event hevent => ?_⟩
    · exact (hhistory.transfers _).trans (transferStage_done_iff hrow)
    · have hsome := Table.lookup_eq_some_iff.mpr ⟨hevent, rfl⟩
      obtain ⟨row, hrow, hphase⟩ := exists_of_transferStage_done
        ((hhistory.transfers event.operationId).mp (by rw [hsome]; rfl))
      obtain ⟨hmem, hid⟩ := Table.lookup_eq_some_iff.mp hrow
      exact ⟨row, hmem, hid, hphase⟩
  again := by
    intro ops completion row hrow hphase
    obtain ⟨hsame, hreturns⟩ := recorded_of_completed hrow hphase
    refine ⟨hsame, fun outcome houtcome => ?_⟩
    obtain ⟨halready, hrecorded⟩ := hreturns outcome houtcome
    exact ⟨halready, hrecorded, exists_completion_of_recorded hrecorded⟩

theorem jobsDispatched : JobsDispatched u sha256 vaultId where
  claims := by
    intro pre mid now₁ now₂ row₁ row₂ hfirst hsecond hid
    have hwaiting := (taken_of_claimNextJob hsecond).1
    rw [hid] at hwaiting
    exact authorisedWithin_of_taken (jobs_dispatch u sha256 vaultId row₁.operationId)
      (taken_of_claimNextJob hfirst).2 hwaiting
  interrupted := by
    intro pre newV4 hreopens row hrow hstate
    obtain ⟨row', hlookup, hstopped⟩ := job_needsReconcile_of_reopen hreopens hrow hstate
    obtain ⟨hmem, hid⟩ := Table.lookup_eq_some_iff.mp hlookup
    constructor
    · rw [runStore_concat]
      exact ⟨row', hmem, hid, hstopped⟩
    · intro mid now claimed hclaim hsame
      have hwaiting := (taken_of_claimNextJob hclaim).1
      rw [hsame] at hwaiting
      refine authorisedWithin_of_taken (jobs_dispatch u sha256 vaultId row.operationId) ?_ hwaiting
      rw [jobStage, Database.jobView, hlookup, jobViewStage, hstopped]
      rfl
  terminal pre mid row hrow hstate := mem_syncJobs_of_completed hrow hstate
  history := by
    intro ops
    have hhistory : HistoryOfCompleted (runStore u sha256 vaultId ops) :=
      historyOfCompleted_run ops
    refine ⟨fun row hrow => count_history ?_, fun event hevent => ?_⟩
    · exact (hhistory.jobs _).trans (jobStage_done_iff hrow)
    · have hsome := Table.lookup_eq_some_iff.mpr ⟨hevent, rfl⟩
      obtain ⟨row, hrow, hstate⟩ := exists_of_jobStage_done
        ((hhistory.jobs event.operationId).mp (by rw [hsome]; rfl))
      obtain ⟨hmem, hid⟩ := Table.lookup_eq_some_iff.mp hrow
      exact ⟨row, hmem, hid, hstate⟩

/-- **Transfers and jobs are dispatched once for each authorisation and completed once.** -/
theorem dispatched_once :
    TransfersDispatched u sha256 vaultId ∧ JobsDispatched u sha256 vaultId :=
  ⟨transfersDispatched u sha256 vaultId, jobsDispatched u sha256 vaultId⟩

end Runs

end Store
end MyVault
