import MyVault.Store.Operation

/-!
# What the calls do to one transfer

A transfer is its row and the row of its history.  `TransferStep` lists what an
operation can do to them, with what it has checked before; `transferStep` says that
this is all an operation does.  The invariants of the transfers are case analyses
of it.
-/

namespace MyVault
namespace Store

open Check Program

/-- The row of a transfer and the row of its history. -/
abbrev TransferView := Option TransferRecord × Option HistoryRow

/-- What the store knows of a transfer: its row, and the history of its completion. -/
def Database.transferView (db : Database) (key : Uuid) : TransferView :=
  (db.transfers.lookup key, db.transferHistory.lookup key)

/-- What an operation does to the transfer `key`. -/
inductive TransferStep (u : Unicode) (db : Database) (key : Uuid) :
    Operation → TransferView → TransferView → Prop
  | same {op : Operation} {view : TransferView} : TransferStep u db key op view view
  | registered {op : Operation} {transfer : TransferRecord} {history : Option HistoryRow}
      (hvalid : validateNewTransfer u transfer = .ok ()) :
      TransferStep u db key op (none, history) (some transfer, history)
  | claimed {now : ℕ} {row : TransferRecord} {history : Option HistoryRow}
      (hnow : fitsI64 now = true) (hdue : dueTransfer now db = some row)
      (hwaiting : row.isWaiting = true) :
      TransferStep u db key (.claimNextTransfer now) (some row, history)
        (some { row with phase := .running, updatedAtUnixMs := now }, history)
  | retried {next updatedAt : ℕ} {code : String} {row : TransferRecord}
      {history : Option HistoryRow} (hnext : fitsI64 next = true)
      (hcode : isRedactedCode code = true) (hupdated : fitsI64 updatedAt = true)
      (hphase : (row.isOpen || row.phase == .authRequired) = true)
      (htime : row.updatedAtUnixMs ≤ updatedAt) :
      TransferStep u db key (.scheduleTransferRetry key next code updatedAt) (some row, history)
        (some { row with
          phase := .retryScheduled
          attemptCount := row.attemptCount + 1
          nextAttemptAtUnixMs := next
          updatedAtUnixMs := updatedAt
          lastErrorCode := some code }, history)
  | paused {next updatedAt : ℕ} {code : String} {row : TransferRecord}
      {history : Option HistoryRow} (hnext : fitsI64 next = true)
      (hcode : isRedactedCode code = true) (hupdated : fitsI64 updatedAt = true)
      (hphase : row.phase = .running) (htime : row.updatedAtUnixMs ≤ updatedAt) :
      TransferStep u db key (.pauseTransferOffline key next code updatedAt) (some row, history)
        (some { row with
          phase := .retryScheduled
          nextAttemptAtUnixMs := next
          updatedAtUnixMs := updatedAt
          lastErrorCode := some code }, history)
  | stopped {op : Operation} {target : TransferPhase} {updatedAt : ℕ} {code : String}
      {row : TransferRecord} {history : Option HistoryRow}
      (htarget : target = .authRequired ∨ target = .needsReconcile)
      (hcode : isRedactedCode code = true) (hupdated : fitsI64 updatedAt = true)
      (hphase : row.phase = .running) (htime : row.updatedAtUnixMs ≤ updatedAt) :
      TransferStep u db key op (some row, history)
        (some { row with
          phase := target, updatedAtUnixMs := updatedAt, lastErrorCode := some code }, history)
  | resumed {now : ℕ} {row : TransferRecord} {history : Option HistoryRow}
      (hnow : fitsI64 now = true) (hphase : row.phase = .authRequired)
      (htime : row.updatedAtUnixMs ≤ now) :
      TransferStep u db key (.resumeAuthRequiredTransfers now) (some row, history)
        (some (retryFrom now "auth_restored" row), history)
  | requeued {now : ℕ} {row : TransferRecord} {history : Option HistoryRow}
      (hnow : fitsI64 now = true) (hphase : row.phase = .needsReconcile)
      (htime : row.updatedAtUnixMs ≤ now) :
      TransferStep u db key (.requeueTransferForReconciliation key now) (some row, history)
        (some (retryFrom now "reconcile_requested" row), history)
  | based {reference : String} {updatedAt : ℕ} {row : TransferRecord}
      {history : Option HistoryRow} (hreference : isPrivateReference reference = true)
      (hupdated : fitsI64 updatedAt = true) (hopen : row.isOpen = true)
      (hnone : row.baseReference = none) (htime : row.updatedAtUnixMs ≤ updatedAt) :
      TransferStep u db key (.publishTransferBaseReference key reference updatedAt)
        (some row, history)
        (some { row with
          baseReference := some reference, updatedAtUnixMs := updatedAt }, history)
  | completed {completion : TransferCompletion} {row : TransferRecord} {event : HistoryRow}
      (hvalid : completion.validate = .ok ())
      (hexpected : isExpectedCompletion row completion = true)
      (hcode : event.outcomeCode = completion.outcomeCode)
      (htime : event.occurredAtUnixMs = completion.occurredAtUnixMs) :
      TransferStep u db key (.completeVerifiedTransfer key completion) (some row, none)
        (some (row.complete completion), some event)
  | touched {now : ℕ} {row : TransferRecord} {history : Option HistoryRow}
      (hnow : fitsI64 now = true) (hopen : row.isOpen = true)
      (htime : row.updatedAtUnixMs ≤ now) :
      TransferStep u db key (.beginTransferLocalPublish key now) (some row, history)
        (some { row with updatedAtUnixMs := now }, history)
  | interrupted {newV4 : ℕ → Uuid} {row : TransferRecord} {history : Option HistoryRow}
      (hphase : row.phase = .running) :
      TransferStep u db key (.reopen newV4) (some row, history)
        (some { row with
          phase := .needsReconcile
          lastErrorCode := some "interrupted_unknown_outcome" }, history)

/-! ## Statements -/

section Statements

variable {u : Unicode} {start db db' : Database} {key operationId : Uuid} {op : Operation}

/-- An update moves a transfer where it matches its row. -/
theorem transferStep_of_update {p : TransferRecord → Bool} {f : TransferRecord → TransferRecord}
    {hf : ∀ row, p row = true → (f row).operationId = row.operationId}
    (hdb : { db with transfers := db.transfers.update p f hf } = db')
    (hmove : ∀ row, db.transfers.lookup key = some row → p row = true →
      TransferStep u start key op (some row, db.transferHistory.lookup key)
        (some (f row), db.transferHistory.lookup key)) :
    TransferStep u start key op (db.transferView key) (db'.transferView key) := by
  rw [← hdb, Database.transferView, Database.transferView, Table.lookup_update]
  cases hrow : db.transfers.lookup key with
  | none => exact .same
  | some row =>
      rw [Option.map_some]
      split
      · rename_i hp
        exact hmove row hrow hp
      · exact .same

theorem matchesId_iff {row : TransferRecord} {c : TransferRecord → Bool} :
    row.matchesId operationId c = true ↔ row.operationId = operationId ∧ c row = true := by
  rw [TransferRecord.matchesId, Bool.and_eq_true, decide_eq_true_eq]

theorem phase_of_isOpen {row : TransferRecord} (h : row.isOpen = true) :
    row.phase ≠ .completed := by
  intro hphase
  rw [TransferRecord.isOpen, hphase] at h
  exact absurd h (by decide)

/-- An update of the row of one transfer. -/
theorem transferStep_of_update_id {c : TransferRecord → Bool}
    {f : TransferRecord → TransferRecord}
    {hf : ∀ row : TransferRecord, row.matchesId operationId c = true →
      (f row).operationId = row.operationId}
    (hdb : { db with transfers := db.transfers.update (·.matchesId operationId c) f hf } = db')
    (hmove : ∀ row, db.transfers.lookup key = some row → operationId = key → c row = true →
      TransferStep u start key op (some row, db.transferHistory.lookup key)
        (some (f row), db.transferHistory.lookup key)) :
    TransferStep u start key op (db.transferView key) (db'.transferView key) := by
  refine transferStep_of_update hdb fun row hrow hp => ?_
  obtain ⟨hid, hc⟩ := matchesId_iff.mp hp
  exact hmove row hrow (hid.symm.trans (Table.lookup_eq_some_iff.mp hrow).2) hc

theorem transferView_of_onlyWrites {parts : List Part} (h : OnlyWrites parts db db')
    (hrows : .transfers ∉ parts) (hhistory : .transferHistory ∉ parts) :
    db'.transferView key = db.transferView key := by
  have htransfers : db'.transfers = db.transfers := h .transfers hrows
  have hevents : db'.transferHistory = db.transferHistory := h .transferHistory hhistory
  rw [Database.transferView, Database.transferView, htransfers, hevents]

theorem exec_loadTransfer_ok {row : Option TransferRecord} :
    exec (loadTransfer u operationId) db = (.ok row, db') ↔
      db.transfers.lookup operationId = row ∧ each (checkTransferRow u) row.toList = .ok () ∧
        db = db' := by
  simp only [loadTransfer, exec_bind_ok, exec_read_ok, exec_lift_ok, exec_pure_ok]
  constructor
  · rintro ⟨_, _, ⟨rfl, rfl⟩, _, _, ⟨hcheck, rfl⟩, rfl, rfl⟩
    exact ⟨rfl, hcheck, rfl⟩
  · rintro ⟨rfl, hcheck, rfl⟩
    exact ⟨_, _, ⟨rfl, rfl⟩, _, _, ⟨hcheck, rfl⟩, rfl, rfl⟩

theorem exec_requireTransfer_ok {row : TransferRecord} :
    exec (requireTransfer u operationId) db = (.ok row, db') ↔
      db.transfers.lookup operationId = some row ∧ checkTransferRow u row = .ok () ∧ db = db' := by
  simp only [requireTransfer, exec_bind_ok, exec_loadTransfer_ok, exec_the_ok]
  constructor
  · rintro ⟨_, _, ⟨hrow, hcheck, rfl⟩, rfl, rfl⟩
    exact ⟨hrow, each_eq_ok.mp hcheck row List.mem_cons_self, rfl⟩
  · rintro ⟨hrow, hcheck, rfl⟩
    refine ⟨_, _, ⟨hrow, each_eq_ok.mpr fun found hfound => ?_, rfl⟩, rfl, rfl⟩
    rw [List.mem_singleton.mp hfound]
    exact hcheck

theorem exec_updateTransfers_ok {p : TransferRecord → Bool} {f : TransferRecord → TransferRecord}
    {hf : ∀ row, p row = true → (f row).operationId = row.operationId} {n : ℕ} :
    exec (updateTransfers p f hf) db = (.ok n, db') ↔ db.transfers.count p = n ∧
      { db with transfers := db.transfers.update p f hf } = db' := by
  simp only [updateTransfers, exec_bind_ok, exec_read_ok, exec_write_ok, exec_pure_ok]
  constructor
  · rintro ⟨_, _, ⟨rfl, rfl⟩, _, _, rfl, rfl, rfl⟩
    exact ⟨rfl, rfl⟩
  · rintro ⟨rfl, rfl⟩
    exact ⟨_, _, ⟨rfl, rfl⟩, (), _, rfl, rfl, rfl⟩

end Statements

/-! ## Claims and pauses -/

section Pauses

variable {u : Unicode} {db db' : Database} {key operationId : Uuid} {code : String}
  {next updatedAt now : ℕ}

theorem dueTransfer_eq_some {row : TransferRecord} (h : dueTransfer now db = some row) :
    row ∈ db.transfers ∧ row.isWaiting = true ∧ row.nextAttemptAtUnixMs ≤ now := by
  have hmem := (List.mem_insertionSort _).mp (List.mem_of_head? h)
  rw [List.mem_filter, Bool.and_eq_true, decide_eq_true_eq] at hmem
  exact hmem

theorem transferStep_claim {claimed : Option TransferRecord}
    (h : exec (claimNextTransfer u now) db = (.ok claimed, db')) :
    TransferStep u db key (.claimNextTransfer now) (db.transferView key)
      (db'.transferView key) := by
  simp only [claimNextTransfer, exec_bind_ok, exec_lift_ok, exec_transaction_ok, exec_read_ok,
    exists_and_left, exists_eq_left', and_assoc] at h
  obtain ⟨_, hnow, _, -, h⟩ := h
  cases hdue : dueTransfer now db with
  | none =>
      rw [hdue, claimTransfer, exec_pure_ok] at h
      rw [h.2]
      exact .same
  | some due =>
      simp only [hdue, claimTransfer, exec_bind_ok, exec_updateTransfers_ok, exec_reject_ok,
        exec_pure_ok, exists_and_left, exists_eq_left', exists_const, and_assoc] at h
      obtain ⟨-, -, hdb⟩ := h
      obtain ⟨hmem, hwaiting, -⟩ := dueTransfer_eq_some hdue
      refine transferStep_of_update_id hdb fun row hrow hid _ => ?_
      obtain ⟨hrow, hkey⟩ := Table.lookup_eq_some_iff.mp hrow
      obtain rfl : row = due := db.transfers.eq_of_key_eq hrow hmem (hkey.trans hid.symm)
      exact .claimed (u64ToI64_eq_ok.mp hnow) hdue hwaiting

theorem transferStep_retry {v : Unit}
    (h : exec (scheduleTransferRetry u operationId next code updatedAt) db = (.ok v, db')) :
    TransferStep u db key (.scheduleTransferRetry operationId next code updatedAt)
      (db.transferView key) (db'.transferView key) := by
  simp only [scheduleTransferRetry, exec_bind_ok, exec_reject_ok, exec_lift_ok,
    exec_requireTransfer_ok, exists_and_left, exists_eq_left', exists_const, and_assoc] at h
  obtain ⟨-, _, hcode, _, hnext, _, hupdated, existing, hexisting, -, h⟩ := h
  split at h
  · rw [(exec_pure_ok.mp h).2]
    exact .same
  · simp only [exec_bind_ok, exec_reject_ok, exec_updateTransfers_ok, exists_and_left,
      exists_eq_left', exists_const, and_assoc, not_lt] at h
    obtain ⟨htime, -, hdb⟩ := h
    refine transferStep_of_update_id hdb fun row hrow hid hphase => ?_
    subst hid
    obtain rfl : existing = row := Option.some.inj (hexisting.symm.trans hrow)
    exact .retried (u64ToI64_eq_ok.mp hnext) (validateRedactedCode_eq_ok.mp hcode)
      (u64ToI64_eq_ok.mp hupdated) hphase htime

theorem transferStep_pause {v : Unit}
    (h : exec (pauseTransferOffline u operationId next code updatedAt) db = (.ok v, db')) :
    TransferStep u db key (.pauseTransferOffline operationId next code updatedAt)
      (db.transferView key) (db'.transferView key) := by
  simp only [pauseTransferOffline, exec_bind_ok, exec_reject_ok, exec_lift_ok,
    exec_requireTransfer_ok, exists_and_left, exists_eq_left', exists_const, and_assoc] at h
  obtain ⟨-, _, hcode, _, hnext, _, hupdated, existing, hexisting, -, h⟩ := h
  split at h
  · rw [(exec_pure_ok.mp h).2]
    exact .same
  · simp only [exec_bind_ok, exec_reject_ok, exec_updateTransfers_ok, exists_and_left,
      exists_eq_left', exists_const, and_assoc, not_lt] at h
    obtain ⟨htime, -, hdb⟩ := h
    refine transferStep_of_update_id hdb fun row hrow hid hphase => ?_
    subst hid
    obtain rfl : existing = row := Option.some.inj (hexisting.symm.trans hrow)
    exact .paused (u64ToI64_eq_ok.mp hnext) (validateRedactedCode_eq_ok.mp hcode)
      (u64ToI64_eq_ok.mp hupdated) (beq_iff_eq.mp hphase) htime

theorem transferStep_stop {op : Operation} {target : TransferPhase} {v : Unit}
    (h : exec (markTransferStopped u operationId target code updatedAt) db = (.ok v, db')) :
    TransferStep u db key op (db.transferView key) (db'.transferView key) := by
  simp only [markTransferStopped, exec_bind_ok, exec_reject_ok, exec_lift_ok,
    exec_requireTransfer_ok, exists_and_left, exists_eq_left', exists_const, and_assoc] at h
  obtain ⟨-, htarget, _, hcode, _, hupdated, existing, hexisting, -, h⟩ := h
  split at h
  · rw [(exec_pure_ok.mp h).2]
    exact .same
  · simp only [exec_bind_ok, exec_reject_ok, exec_updateTransfers_ok, exists_and_left,
      exists_eq_left', exists_const, and_assoc, not_lt] at h
    obtain ⟨htime, -, hdb⟩ := h
    refine transferStep_of_update_id hdb fun row hrow hid hphase => ?_
    subst hid
    obtain rfl : existing = row := Option.some.inj (hexisting.symm.trans hrow)
    have htarget : target = .authRequired ∨ target = .needsReconcile := by
      rwa [Ne, Ne, ← not_or, not_not] at htarget
    exact .stopped htarget (validateRedactedCode_eq_ok.mp hcode) (u64ToI64_eq_ok.mp hupdated)
      (beq_iff_eq.mp hphase) htime

theorem transferStep_resume {n : ℕ}
    (h : exec (resumeAuthRequiredTransfers now) db = (.ok n, db')) :
    TransferStep u db key (.resumeAuthRequiredTransfers now) (db.transferView key)
      (db'.transferView key) := by
  simp only [resumeAuthRequiredTransfers, exec_bind_ok, exec_lift_ok, exec_updateTransfers_ok,
    exists_and_left, exists_eq_left', and_assoc] at h
  obtain ⟨_, hnow, -, hdb⟩ := h
  refine transferStep_of_update hdb fun row hrow hp => ?_
  rw [Bool.and_eq_true, beq_iff_eq, decide_eq_true_eq] at hp
  exact .resumed (u64ToI64_eq_ok.mp hnow) hp.1 hp.2

theorem transferStep_requeue {v : Unit}
    (h : exec (requeueTransferForReconciliation u operationId now) db = (.ok v, db')) :
    TransferStep u db key (.requeueTransferForReconciliation operationId now) (db.transferView key)
      (db'.transferView key) := by
  simp only [requeueTransferForReconciliation, exec_bind_ok, exec_reject_ok, exec_lift_ok,
    exec_transaction_ok, exec_requireTransfer_ok, exec_updateTransfers_ok, exists_and_left,
    exists_eq_left', exists_const, and_assoc] at h
  obtain ⟨-, _, hnow, _, -, -, -, -, hdb⟩ := h
  refine transferStep_of_update_id hdb fun row hrow hid hp => ?_
  subst hid
  rw [Bool.and_eq_true, beq_iff_eq, decide_eq_true_eq] at hp
  exact .requeued (u64ToI64_eq_ok.mp hnow) hp.1 hp.2

theorem transferStep_base {reference : String} {v : Unit}
    (h : exec (publishTransferBaseReference u operationId reference updatedAt) db =
      (.ok v, db')) :
    TransferStep u db key (.publishTransferBaseReference operationId reference updatedAt)
      (db.transferView key) (db'.transferView key) := by
  simp only [publishTransferBaseReference, exec_bind_ok, exec_lift_ok, exec_requireTransfer_ok,
    exists_and_left, exists_eq_left', and_assoc] at h
  obtain ⟨_, hreference, _, hupdated, existing, hexisting, -, h⟩ := h
  split at h
  · rw [(exec_pure_ok.mp h).2]
    exact .same
  · simp only [exec_bind_ok, exec_reject_ok, exec_updateTransfers_ok, exists_and_left,
      exists_eq_left', exists_const, and_assoc, not_or, not_lt] at h
    obtain ⟨-, htime, -, hdb⟩ := h
    refine transferStep_of_update_id hdb fun row hrow hid hp => ?_
    subst hid
    obtain rfl : existing = row := Option.some.inj (hexisting.symm.trans hrow)
    rw [Bool.and_eq_true, Option.isNone_iff_eq_none] at hp
    exact .based (validatePrivateReference_eq_ok.mp hreference) (u64ToI64_eq_ok.mp hupdated) hp.1
      hp.2 htime

end Pauses

/-! ## Registration -/

section Registration

variable {u : Unicode} {sha256 : Sha256} {vaultId : Uuid} {db db' : Database} {key : Uuid}

theorem validateNewTransfer_eq_ok {transfer : TransferRecord} :
    validateNewTransfer u transfer = .ok () ↔ transfer.validate u = .ok () ∧
      transfer.phase = .pending ∧ transfer.attemptCount = 0 ∧ transfer.lastErrorCode = none ∧
      transfer.verifiedLocalRevision = none ∧ transfer.verifiedRemoteRevision = none := by
  simp only [validateNewTransfer, seq_eq_ok, reject_eq_ok, not_or, Decidable.not_not]

/-- At most one of the transfers is new under the key. -/
def Inserts (transfers : List TransferRecord) (db db' : Database) (key : Uuid) : Prop :=
  db'.transferView key = db.transferView key ∨ ∃ transfer ∈ transfers,
    db.transfers.lookup key = none ∧
      db'.transferView key = (some transfer, db.transferHistory.lookup key)

theorem inserts_of_insertTransfer {transfer : TransferRecord} {v : Unit}
    (h : exec (insertTransfer transfer) db = (.ok v, db')) : Inserts [transfer] db db' key := by
  simp only [insertTransfer, exec_bind_ok, exec_lift_ok, exec_read_ok, exec_require_ok,
    exec_the_ok, exec_write_ok, exists_and_left, exists_eq_left', exists_const, and_assoc,
    id] at h
  obtain ⟨_, -, _, -, _, -, _, -, -, table, htable, rfl⟩ := h
  have hlookup := Table.lookup_of_insert htable key
  by_cases hid : transfer.operationId = key
  · subst hid
    rw [if_pos rfl] at hlookup
    refine Or.inr ⟨transfer, List.mem_singleton_self transfer, ?_, ?_⟩
    · exact Table.lookup_of_insert_none htable
    · rw [Database.transferView, hlookup]
  · rw [if_neg hid] at hlookup
    exact Or.inl (by rw [Database.transferView, hlookup, Database.transferView])

theorem transferStep_of_inserts {op : Operation} {transfers : List TransferRecord}
    (h : Inserts transfers db db' key)
    (hvalid : ∀ transfer ∈ transfers, validateNewTransfer u transfer = .ok ()) :
    TransferStep u db key op (db.transferView key) (db'.transferView key) := by
  rcases h with hsame | ⟨transfer, hmem, hnone, hview⟩
  · rw [hsame]
    exact .same
  · rw [hview, Database.transferView, hnone]
    exact .registered (hvalid transfer hmem)

theorem transferStep_register {transfer : TransferRecord} {r : TransferRegistrationOutcome}
    (h : exec (registerTransfer u vaultId transfer) db = (.ok r, db')) :
    TransferStep u db key (.registerTransfer transfer) (db.transferView key)
      (db'.transferView key) := by
  simp only [registerTransfer, exec_bind_ok, exec_lift_ok, exec_transaction_ok,
    exec_loadTransfer_ok, exists_and_left, exists_eq_left', and_assoc] at h
  obtain ⟨_, hvalid, _, mid, hstate, -, h⟩ := h
  have hkeeps : Keeps Eq (requireState vaultId) := inferInstance
  obtain rfl := hkeeps.of_exec hstate
  cases hexisting : db.transfers.lookup transfer.operationId with
  | some existing =>
      simp only [hexisting, registerOver, exec_bind_ok, exec_reject_ok, exec_pure_ok,
        exists_and_left, exists_eq_left', exists_const, and_assoc] at h
      rw [h.2.2]
      exact .same
  | none =>
      simp only [hexisting, registerOver, transferMarkerExists, exec_bind_ok, exec_read_ok,
        exec_reject_ok, exec_pure_ok, exists_and_left, exists_eq_left', exists_const,
        and_assoc] at h
      obtain ⟨-, _, _, hinsert, -, rfl⟩ := h
      refine transferStep_of_inserts (inserts_of_insertTransfer hinsert) fun other hother => ?_
      rw [List.mem_singleton.mp hother]
      exact hvalid

theorem inserts_of_declareDownload {batchId : Uuid} {transfer : TransferRecord} {v : Unit}
    (h : exec (declareDownload u batchId transfer) db = (.ok v, db')) :
    Inserts [transfer] db db' key := by
  simp only [declareDownload, registerTransferInTransaction, exec_bind_ok, exec_loadTransfer_ok,
    exists_and_left, exists_eq_left', and_assoc] at h
  obtain ⟨-, _, mid, hregister, hdeclare⟩ := h
  have hwrites : OnlyWrites [.declaredMutations, .batchProgress] mid db' :=
    Keeps.of_exec inferInstance hdeclare
  have hview : db'.transferView key = mid.transferView key :=
    transferView_of_onlyWrites hwrites (by decide) (by decide)
  rw [Inserts, hview]
  cases hexisting : db.transfers.lookup transfer.operationId with
  | some existing =>
      simp only [hexisting, registerInBatch, exec_reject_ok] at hregister
      rw [hregister.2]
      exact Or.inl rfl
  | none =>
      simp only [hexisting, registerInBatch, transferMarkerExists, exec_bind_ok, exec_read_ok,
        exec_reject_ok, exists_and_left, exists_eq_left', exists_const, and_assoc] at hregister
      exact inserts_of_insertTransfer hregister.2

/-- The loop over the downloads: a transfer that is there stays as it is. -/
theorem inserts_of_forM {batchId : Uuid} {downloads : List TransferRecord} {v : PUnit}
    (h : exec (downloads.forM (declareDownload u batchId)) db = (.ok v, db')) :
    Inserts downloads db db' key := by
  induction downloads generalizing db with
  | nil =>
      rw [exec_forM_nil_ok] at h
      rw [h]
      exact Or.inl rfl
  | cons transfer downloads ih =>
      rw [exec_forM_cons_ok] at h
      obtain ⟨_, mid, hdeclare, hrest⟩ := h
      have hinserts : Inserts [transfer] db mid key := inserts_of_declareDownload hdeclare
      rcases hinserts with hsame | ⟨new, hmem, hnone, hview⟩
      · obtain ⟨hrows, hhistory⟩ := Prod.mk.inj hsame
        rcases ih hrest with hkept | ⟨later, hlater, hmid, hview⟩
        · exact Or.inl (hkept.trans hsame)
        · refine Or.inr ⟨later, List.mem_cons_of_mem _ hlater, hrows ▸ hmid, ?_⟩
          rw [hview, hhistory]
      · rcases ih hrest with hkept | ⟨later, -, hmid, -⟩
        · refine Or.inr ⟨new, ?_, hnone, hkept.trans hview⟩
          rw [List.mem_singleton.mp hmem]
          exact List.mem_cons_self
        · have hrow : mid.transfers.lookup key = some new := congrArg Prod.fst hview
          rw [hrow] at hmid
          cases hmid

theorem transferStep_batch {batchId : Uuid} {expectedCursor nextCursor : String}
    {changes : List RemoteChange} {downloads : List TransferRecord} {v : Unit}
    (h : exec (beginTransferChangeBatch u vaultId batchId expectedCursor nextCursor changes
      downloads) db = (.ok v, db')) :
    TransferStep u db key
      (.beginTransferChangeBatch batchId expectedCursor nextCursor changes downloads)
      (db.transferView key) (db'.transferView key) := by
  simp only [beginTransferChangeBatch, exec_bind_ok, exec_reject_ok, exec_lift_ok,
    exec_transaction_ok, exec_read_ok, exists_and_left, exists_eq_left', exists_const,
    and_assoc, id] at h
  obtain ⟨-, _, -, _, -, -, _, -, _, hvalid, _, mid, hcursor, _, mid', hload, -, _, -, _, db₁,
    hinsert, _, db₂, hchanges, hloop⟩ := h
  have hkeeps : Keeps Eq (requireCursor vaultId expectedCursor) := inferInstance
  obtain rfl := hkeeps.of_exec hcursor
  have hkeeps' : Keeps Eq loadChangeBatch := inferInstance
  obtain rfl := hkeeps'.of_exec hload
  have fbatch : OnlyWrites [.changeBatch, .remoteEntries] db db₁ :=
    Keeps.of_exec inferInstance hinsert
  have fchanges : OnlyWrites [.changeBatch, .remoteEntries] db₁ db₂ :=
    Keeps.of_exec inferInstance hchanges
  have hview : db₂.transferView key = db.transferView key :=
    transferView_of_onlyWrites (IsTrans.trans _ _ _ fbatch fchanges) (by decide) (by decide)
  have hinserts : Inserts downloads db db' key := by
    obtain ⟨hrows, hhistory⟩ := Prod.mk.inj hview
    have hlater : Inserts downloads db₂ db' key := inserts_of_forM hloop
    rwa [Inserts, hview, hrows, hhistory] at hlater
  refine transferStep_of_inserts hinserts fun transfer htransfer => ?_
  obtain ⟨_, hnew, -⟩ := bind_eq_ok.mp (each_eq_ok.mp hvalid transfer htransfer)
  exact hnew

end Registration

/-! ## Completion -/

section Completion

variable {u : Unicode} {sha256 : Sha256} {vaultId : Uuid} {db db' : Database} {key : Uuid}
  {completion : TransferCompletion}

/-- What is left of a transfer that has just been completed. -/
structure Completes (db db' : Database) (existing : TransferRecord)
    (completion : TransferCompletion) (event : HistoryRow) : Prop where
  expected : isExpectedCompletion existing completion = true
  outcomeCode : event.outcomeCode = completion.outcomeCode
  occurredAt : event.occurredAtUnixMs = completion.occurredAtUnixMs
  fresh : db.transferHistory.lookup existing.operationId = none
  view : ∀ key, db'.transferView key =
    if existing.operationId = key then (some (existing.complete completion), some event)
    else db.transferView key

theorem isOpen_of_isExpectedCompletion {row : TransferRecord}
    (h : isExpectedCompletion row completion = true) :
    row.isOpen = true ∧ row.updatedAtUnixMs ≤ completion.occurredAtUnixMs := by
  simp only [isExpectedCompletion, Bool.and_eq_true, decide_eq_true_eq] at h
  exact h.1.1.1.1

theorem completes_of_completeNow {existing : TransferRecord}
    {mutationState : Option LocalMutationState} {r : TransferCompletionOutcome}
    (hexisting : db.transfers.lookup existing.operationId = some existing)
    (h : exec (completeNow existing completion mutationState) db = (.ok r, db')) :
    r = .completed ∧ ∃ event, Completes db db' existing completion event := by
  simp only [completeNow, insertTransferHistory, exec_bind_ok, exec_lift_ok, exec_reject_ok,
    exec_require_ok, exec_the_ok, exec_read_ok, exec_write_ok, exec_updateTransfers_ok,
    exec_pure_ok, id, exists_and_left, exists_eq_left', exists_const, and_assoc,
    Bool.not_eq_true', Bool.not_eq_false] at h
  obtain ⟨hexpected, -, -, _, -, -, _, ⟨table, hinsert, rfl⟩, -, _, db₁, hremote, _, _,
    hmutation, rfl, rfl⟩ := h
  have fremote : OnlyWrites [.remoteEntries, .batchProgress] _ db₁ :=
    Keeps.of_exec inferInstance hremote
  have fmutation : OnlyWrites [.remoteEntries, .batchProgress] db₁ _ :=
    Keeps.of_exec inferInstance hmutation
  have hopen : existing.isOpen = true := (isOpen_of_isExpectedCompletion hexpected).1
  have hhistory : ∀ key, table.lookup key =
      if existing.operationId = key then some (historyRow db.transferHistory existing.operationId
        completion.outcomeCode completion.occurredAtUnixMs)
      else db.transferHistory.lookup key := Table.lookup_of_insert hinsert
  refine ⟨rfl, historyRow db.transferHistory existing.operationId completion.outcomeCode
    completion.occurredAtUnixMs, hexpected, rfl, rfl, Table.lookup_of_insert_none hinsert,
    fun key => ?_⟩
  rw [transferView_of_onlyWrites (IsTrans.trans _ _ _ fremote fmutation) (by decide) (by decide),
    Database.transferView, Table.lookup_update, hhistory key]
  by_cases hkey : existing.operationId = key
  · rw [← hkey, hexisting, Option.map_some, if_pos (matchesId_iff.mpr ⟨rfl, hopen⟩), if_pos rfl,
      if_pos rfl]
  · rw [if_neg hkey, if_neg hkey, Database.transferView]
    cases hrow : db.transfers.lookup key with
    | none => rfl
    | some row =>
        have hne : ¬ row.matchesId existing.operationId (·.isOpen) = true := fun hmatch =>
          hkey ((matchesId_iff.mp hmatch).1.symm.trans (Table.lookup_eq_some_iff.mp hrow).2)
        rw [Option.map_some, if_neg hne]

theorem completeAgain_ok {existing : TransferRecord} {mutationState : Option LocalMutationState}
    {r : TransferCompletionOutcome}
    (h : exec (completeAgain existing completion mutationState) db = (.ok r, db')) :
    r = .alreadyCompleted ∧ db' = db ∧
      isSameCompletion existing (db.transferHistory.lookup existing.operationId) completion =
        true := by
  simp only [completeAgain, exec_bind_ok, exec_read_ok, exec_require_ok, exec_pure_ok,
    exists_and_left, exists_eq_left', exists_const, and_assoc] at h
  obtain ⟨hsame, -, hr, hdb⟩ := h
  exact ⟨hr.symm, hdb.symm, hsame⟩

/-- The two ways a completion succeeds. -/
theorem completion_cases {operationId : Uuid} {r : TransferCompletionOutcome}
    (h : exec (completeVerifiedTransfer u operationId completion) db = (.ok r, db')) :
    completion.validate = .ok () ∧ ∃ existing, db.transfers.lookup operationId = some existing ∧
      (existing.phase = .completed ∧ r = .alreadyCompleted ∧ db' = db ∧
          isSameCompletion existing (db.transferHistory.lookup operationId) completion = true ∨
        existing.phase ≠ .completed ∧ r = .completed ∧
          ∃ event, Completes db db' existing completion event) := by
  simp only [completeVerifiedTransfer, activeTransferMutationState, exec_bind_ok, exec_reject_ok,
    exec_lift_ok, exec_transaction_ok, exec_requireTransfer_ok, exec_read_ok, exists_and_left,
    exists_eq_left', exists_const, and_assoc] at h
  obtain ⟨-, _, hvalid, existing, hexisting, -, _, mid, ⟨_, _, hload, -, rfl⟩, h⟩ := h
  have hkeeps : Keeps Eq loadChangeBatch := inferInstance
  obtain rfl := hkeeps.of_exec hload
  obtain rfl : existing.operationId = operationId := (Table.lookup_eq_some_iff.mp hexisting).2
  refine ⟨hvalid, existing, hexisting, ?_⟩
  split at h
  · rename_i hphase
    exact Or.inl ⟨hphase, completeAgain_ok h⟩
  · rename_i hphase
    exact Or.inr ⟨hphase, completes_of_completeNow hexisting h⟩

theorem transferStep_complete {operationId : Uuid} {r : TransferCompletionOutcome}
    (h : exec (completeVerifiedTransfer u operationId completion) db = (.ok r, db')) :
    TransferStep u db key (.completeVerifiedTransfer operationId completion)
      (db.transferView key) (db'.transferView key) := by
  obtain ⟨hvalid, existing, hexisting, hcases⟩ := completion_cases h
  obtain rfl : existing.operationId = operationId := (Table.lookup_eq_some_iff.mp hexisting).2
  rcases hcases with ⟨-, -, rfl, -⟩ | ⟨-, -, event, hcompletes⟩
  · exact .same
  · rw [hcompletes.view key]
    split
    · rename_i hkey
      subst hkey
      rw [Database.transferView, hexisting, hcompletes.fresh]
      exact .completed hvalid hcompletes.expected hcompletes.outcomeCode hcompletes.occurredAt
    · exact .same

end Completion

/-! ## Local publications and recovery -/

section Recovery

variable {u : Unicode} {sha256 : Sha256} {vaultId : Uuid} {db db' : Database} {key : Uuid}

theorem transferStep_touch {operationId : Uuid} {now : ℕ} {v : Unit}
    (h : exec (beginTransferLocalPublish u operationId now) db = (.ok v, db')) :
    TransferStep u db key (.beginTransferLocalPublish operationId now) (db.transferView key)
      (db'.transferView key) := by
  simp only [beginTransferLocalPublish, exec_bind_ok, exec_reject_ok, exec_lift_ok,
    exec_transaction_ok, exec_requireTransfer_ok, exec_the_ok, exists_and_left, exists_eq_left',
    exists_const, and_assoc] at h
  obtain ⟨-, _, hnow, _, mid, hload, active, -, transfer, htransfer, -, -, n, db₁, hmutation,
    h⟩ := h
  have hkeeps : Keeps Eq loadChangeBatch := inferInstance
  obtain rfl := hkeeps.of_exec hload
  have fmutation : OnlyWrites [.batchProgress] db db₁ := Keeps.of_exec inferInstance hmutation
  have hview : db₁.transferView key = db.transferView key :=
    transferView_of_onlyWrites fmutation (by decide) (by decide)
  split at h
  · have hresume : ∀ state, Keeps Eq (resumeLocalPublish transfer state) := by
      intro state
      cases state with
      | none =>
          unfold resumeLocalPublish
          infer_instance
      | some state => cases state <;> unfold resumeLocalPublish <;> infer_instance
    have hkeeps' : Keeps Eq (do
        let state ← loadLocalMutationState active.batchId (transferMutationId operationId)
        resumeLocalPublish transfer state) := inferInstance
    rw [← hkeeps'.of_exec h, hview]
    exact .same
  · simp only [touchTransfer, exec_bind_ok, exec_updateTransfers_ok, exec_reject_ok,
      exists_and_left, exists_eq_left', and_assoc] at h
    obtain ⟨-, hdb⟩ := h
    rw [← hview]
    refine transferStep_of_update_id hdb fun row _ hid hp => ?_
    subst hid
    rw [Bool.and_eq_true, decide_eq_true_eq] at hp
    exact .touched (u64ToI64_eq_ok.mp hnow) hp.1 hp.2

/-- The recovery stops what was running. -/
theorem transferView_reopen {newV4 : ℕ → Uuid} {v : Unit}
    (h : exec (reopenStore sha256 vaultId newV4) db = (.ok v, db')) :
    db'.transferView key =
      ((db.transfers.lookup key).map fun row =>
        if row.phase = .running then { row with
          phase := .needsReconcile
          lastErrorCode := some "interrupted_unknown_outcome" } else row,
        db.transferHistory.lookup key) := by
  simp only [reopenStore, recoverInterruptedJobs, exec_bind_ok, exec_transaction_ok,
    exec_read_ok, exec_write_ok, exists_and_left, exists_eq_left', exists_const, and_assoc] at h
  obtain ⟨_, mid, hload, hloop⟩ := h
  have hkeeps : Keeps Eq (loadState vaultId) := inferInstance
  obtain rfl := hkeeps.of_exec hload
  have floop : OnlyWrites [.mutationState, .mutationEvents, .mutationEvidence] _ db' :=
    Keeps.of_exec inferInstance hloop
  rw [transferView_of_onlyWrites floop (by decide) (by decide), Database.transferView,
    Table.lookup_update]
  simp only [decide_eq_true_eq]

theorem transferStep_reopen {newV4 : ℕ → Uuid} {v : Unit}
    (h : exec (reopenStore sha256 vaultId newV4) db = (.ok v, db')) :
    TransferStep u db key (.reopen newV4) (db.transferView key) (db'.transferView key) := by
  rw [transferView_reopen h, Database.transferView]
  cases db.transfers.lookup key with
  | none => exact .same
  | some row =>
      rw [Option.map_some]
      split
      · rename_i hphase
        exact .interrupted hphase
      · exact .same

/-- A call that writes neither table. -/
theorem transferStep_of_writes {op : Operation}
    (h : Part.transfers ∉ op.writes ∧ Part.transferHistory ∉ op.writes) :
    TransferStep u db key op (db.transferView key)
      ((step u sha256 vaultId db op).transferView key) := by
  have hwrites : OnlyWrites op.writes db (step u sha256 vaultId db op) :=
    (perform_onlyWrites u sha256 vaultId op).exec_rel db
  rw [transferView_of_onlyWrites hwrites h.1 h.2]
  exact .same

theorem transferStep (u : Unicode) (sha256 : Sha256) (vaultId : Uuid) (db : Database)
    (op : Operation) (key : Uuid) : TransferStep u db key op (db.transferView key)
      ((step u sha256 vaultId db op).transferView key) := by
  rcases step_eq_or_ok u sha256 vaultId db op with hsame | ⟨reply, hok⟩
  · rw [hsame]
    exact .same
  cases op
  case registerTransfer transfer =>
    obtain ⟨_, hcall, -⟩ := exec_replying_ok.mp hok
    exact transferStep_register hcall
  case claimNextTransfer now =>
    obtain ⟨_, hcall, -⟩ := exec_replying_ok.mp hok
    exact transferStep_claim hcall
  case scheduleTransferRetry operationId next code updatedAt =>
    obtain ⟨_, hcall, -⟩ := exec_replying_ok.mp hok
    exact transferStep_retry hcall
  case pauseTransferOffline operationId next code updatedAt =>
    obtain ⟨_, hcall, -⟩ := exec_replying_ok.mp hok
    exact transferStep_pause hcall
  case markTransferAuthRequired operationId code updatedAt =>
    obtain ⟨_, hcall, -⟩ := exec_replying_ok.mp hok
    exact transferStep_stop hcall
  case resumeAuthRequiredTransfers now =>
    obtain ⟨_, hcall, -⟩ := exec_replying_ok.mp hok
    exact transferStep_resume hcall
  case markTransferNeedsReconcile operationId code updatedAt =>
    obtain ⟨_, hcall, -⟩ := exec_replying_ok.mp hok
    exact transferStep_stop hcall
  case requeueTransferForReconciliation operationId now =>
    obtain ⟨_, hcall, -⟩ := exec_replying_ok.mp hok
    exact transferStep_requeue hcall
  case publishTransferBaseReference operationId reference updatedAt =>
    obtain ⟨_, hcall, -⟩ := exec_replying_ok.mp hok
    exact transferStep_base hcall
  case completeVerifiedTransfer operationId completion =>
    obtain ⟨_, hcall, -⟩ := exec_replying_ok.mp hok
    exact transferStep_complete hcall
  case beginTransferChangeBatch batchId expectedCursor nextCursor changes downloads =>
    obtain ⟨_, hcall, -⟩ := exec_replying_ok.mp hok
    exact transferStep_batch hcall
  case beginTransferLocalPublish operationId now =>
    obtain ⟨_, hcall, -⟩ := exec_replying_ok.mp hok
    exact transferStep_touch hcall
  case reopen newV4 =>
    obtain ⟨_, hcall, -⟩ := exec_replying_ok.mp hok
    exact transferStep_reopen hcall
  all_goals exact transferStep_of_writes (by simp [Operation.writes])

end Recovery

end Store
end MyVault
