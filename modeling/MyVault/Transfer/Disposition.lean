import MyVault.Store.ScanTree
import MyVault.Transfer.Worker

/-!
# What a run of the worker does to the transfers

A run changes at most one transfer, the one it claims.  If it returns `Ok`, that
transfer has been settled by what the executor returned, and it is not running any more
(`Settles.settled`).  If it returns an error, either nothing has changed, or the claim
stands alone and the transfer is left running, for a restart to classify.  The second
case needs a reason: a row the worker's own rules refuse, a clock behind the row, a gate
that refused, a time no column holds, or evidence for the intent that the store does not
take (`Stranding`).

## How the argument goes

The run is taken apart where the source does: the claim (`Claims`), the intent that is made of the
row, the gates the executor goes through (`Touches`), and the call that settles what the executor
returned (`SettlesIf`).  The calls for a failure succeed exactly if the row can be settled
(`CanSettle`).  Most of this the claim has left that way (`Claimed`), and what it has not is a
reason for which a claim may stand alone.

`Disposes` says which result leads to which row: what is verified and matches completes the
transfer, an unknown outcome waits for reconciliation, a failure that is known to have had no
effect is tried again, and only some of them count as an attempt.
-/

namespace MyVault
namespace Transfer

open Store Check Program

/-! ## Calls of the store -/

section Lift

variable {α : Type} {p : StoreProgram α} {db db' : Database} {a : α}

theorem exec_onStore (p : StoreProgram α) (db : Database) : exec (onStore p) db =
    match exec p db with
    | (.ok a, db') => (.ok a, db')
    | (.error _, db') => (.error .store, db') := rfl

theorem exec_onStore_ok : exec (onStore p) db = (.ok a, db') ↔ exec p db = (.ok a, db') := by
  rw [exec_onStore]
  cases exec p db with
  | mk result db => cases result <;> simp

theorem exists_error_of_onStore {e : Error} (h : exec (onStore p) db = (.error e, db')) :
    ∃ error, exec p db = (.error error, db') := by
  rw [exec_onStore] at h
  cases hp : exec p db with
  | mk result db =>
      rw [hp] at h
      cases result with
      | ok a => simp at h
      | error error =>
          rw [Prod.mk.injEq] at h
          exact ⟨error, by rw [h.2]⟩

instance [h : Atomic p] : Atomic (onStore p) := ⟨fun db db' e hrun => by
  obtain ⟨error, hp⟩ := exists_error_of_onStore hrun
  exact h.eq_of_error db db' error hp⟩

instance {R : Database → Database → Prop} [h : Keeps R p] : Keeps R (onStore p) := by
  refine ⟨fun db => ?_⟩
  have hrel := h.exec_rel db
  rw [exec_onStore]
  cases hp : exec p db with
  | mk result db' =>
      rw [hp] at hrel
      cases result <;> exact hrel

theorem exec_attempt (q : Program Database Error Unit) (db : Database) : exec (attempt q) db =
    match exec q db with
    | (.ok _, db') => (.ok none, db')
    | (.error e, db') => (.ok (some e), db') := rfl

instance {R : Database → Database → Prop} {q : Program Database Error Unit} [h : Keeps R q] :
    Keeps R (attempt q) := by
  refine ⟨fun db => ?_⟩
  have hrel := h.exec_rel db
  rw [exec_attempt]
  cases hq : exec q db with
  | mk result db' =>
      rw [hq] at hrel
      cases result <;> exact hrel

theorem exec_viaStore (q : Program Database Error α) (worker : Worker) :
    exec (viaStore q) worker =
      ((exec q worker.store).1, { worker with store := (exec q worker.store).2 }) := rfl

theorem exec_viaStore_bind {q : Program Database Error α} {f : α → Program Worker Error β}
    {worker : Worker} (h : exec q worker.store = (.ok a, db')) :
    exec (viaStore q >>= f) worker = exec (f a) { worker with store := db' } := by
  rw [exec_bind, exec_viaStore, h]

theorem exec_viaStore_bind_of_error {q : Program Database Error α}
    {f : α → Program Worker Error β} {worker : Worker} {e : Error}
    (h : exec q worker.store = (.error e, db')) :
    exec (viaStore q >>= f) worker = (.error e, { worker with store := db' }) := by
  rw [exec_bind, exec_viaStore, h]

end Lift

/-! ## One row -/

/-- One transfer has a new row, the others are as before. -/
structure Replaces (db db' : Database) (row final : TransferRecord) : Prop where
  before : db.transfers.lookup row.operationId = some row
  after : db'.transfers.lookup row.operationId = some final
  others : ∀ key, key ≠ row.operationId → db'.transfers.lookup key = db.transfers.lookup key

/-- No transfer has changed. -/
def SameTransfers (db db' : Database) : Prop :=
  ∀ key, db'.transfers.lookup key = db.transfers.lookup key

theorem SameTransfers.refl (db : Database) : SameTransfers db db := fun _ => rfl

theorem Replaces.trans {db₁ db₂ db₃ : Database} {row next final : TransferRecord}
    (h : Replaces db₁ db₂ row next) (h' : Replaces db₂ db₃ next final)
    (hid : next.operationId = row.operationId) : Replaces db₁ db₃ row final where
  before := h.before
  after := hid ▸ h'.after
  others key hkey := (h'.others key (hid ▸ hkey)).trans (h.others key hkey)

theorem Replaces.same {db₁ db₂ db₃ : Database} {row final : TransferRecord}
    (h : Replaces db₁ db₂ row final) (hsame : SameTransfers db₂ db₃) :
    Replaces db₁ db₃ row final where
  before := h.before
  after := (hsame _).trans h.after
  others key hkey := (hsame key).trans (h.others key hkey)

section Rows

variable {db : Database} {row : TransferRecord} {c : TransferRecord → Bool}
  {f : TransferRecord → TransferRecord}

/-- An update of one transfer whose row it matches. -/
theorem replaces_of_update
    {hf : ∀ other : TransferRecord, other.matchesId row.operationId c = true →
      (f other).operationId = other.operationId}
    (hrow : db.transfers.lookup row.operationId = some row) (hc : c row = true) :
    Replaces db { db with transfers := db.transfers.update (·.matchesId row.operationId c) f hf }
      row (f row) where
  before := hrow
  after := by
    rw [Table.lookup_update, hrow, Option.map_some, if_pos (matchesId_iff.mpr ⟨rfl, hc⟩)]
  others key hkey := by
    rw [Table.lookup_update]
    cases hother : db.transfers.lookup key with
    | none => rfl
    | some other =>
        have hne : ¬ other.matchesId row.operationId c = true := fun hmatch =>
          hkey ((Table.lookup_eq_some_iff.mp hother).2.symm.trans (matchesId_iff.mp hmatch).1)
        rw [Option.map_some, if_neg hne]

theorem count_matchesId (hrow : db.transfers.lookup row.operationId = some row)
    (hc : c row = true) : db.transfers.count (·.matchesId row.operationId c) = 1 := by
  have hle : db.transfers.count (·.matchesId row.operationId c) ≤ 1 :=
    Table.count_le_one fun a b ha hb =>
      (matchesId_iff.mp ha).1.trans (matchesId_iff.mp hb).1.symm
  have hpos : 0 < db.transfers.count (·.matchesId row.operationId c) :=
    Table.count_pos_iff.mpr ⟨row, (Table.lookup_eq_some_iff.mp hrow).1,
      matchesId_iff.mpr ⟨rfl, hc⟩⟩
  omega

end Rows

/-- The update of one transfer, with the check of the row count. -/
theorem exec_updateOne {db : Database} {row : TransferRecord} {c : TransferRecord → Bool}
    {f : TransferRecord → TransferRecord} {e : Store.Error}
    (hf : ∀ other : TransferRecord, other.matchesId row.operationId c = true →
      (f other).operationId = other.operationId)
    (hrow : db.transfers.lookup row.operationId = some row) (hc : c row = true) :
    ∃ db', exec (do
      let changed ← updateTransfers (·.matchesId row.operationId c) f hf
      Program.reject (changed ≠ 1) e) db = (.ok (), db') ∧ Replaces db db' row (f row) := by
  refine ⟨_, exec_bind_ok.mpr ⟨_, _, exec_updateTransfers_ok.mpr ⟨rfl, rfl⟩,
    exec_reject_ok.mpr ⟨?_, rfl⟩⟩, replaces_of_update hrow hc⟩
  rw [count_matchesId hrow hc]
  exact fun hne => hne rfl

/-! ## The dispositions of a running transfer -/

/-- What the dispositions ask of a running transfer. -/
structure CanSettle (u : Unicode) (db : Database) (row : TransferRecord) (code : String)
    (time : ℕ) : Prop where
  found : db.transfers.lookup row.operationId = some row
  running : row.phase = .running
  valid : ValidTransfer u row
  code : isRedactedCode code = true
  fits : fitsI64 time = true
  order : row.updatedAtUnixMs ≤ time

section Dispositions

variable {u : Unicode} {db db' : Database} {row : TransferRecord} {code : String} {time : ℕ}

theorem CanSettle.exec_requireTransfer (h : CanSettle u db row code time) :
    exec (requireTransfer u row.operationId) db = (.ok row, db) :=
  exec_requireTransfer_ok.mpr ⟨h.found, checkTransferRow_eq_ok.mpr h.valid, rfl⟩

theorem CanSettle.ne_phase (h : CanSettle u db row code time) {phase : TransferPhase}
    (hne : phase ≠ .running) : row.phase ≠ phase := by
  rw [h.running]
  exact hne.symm

theorem CanSettle.not_sameRetry (h : CanSettle u db row code time) :
    ¬ isSameRetry row time code = true := by
  simp [isSameRetry, h.running]

theorem CanSettle.not_late (h : CanSettle u db row code time) :
    ¬ time < row.updatedAtUnixMs := Nat.not_lt.mpr h.order

theorem CanSettle.not_nil (h : CanSettle u db row code time) :
    ¬ row.operationId.isNil = true := Bool.eq_false_iff.mp h.valid.operationId

/-- A running transfer is stopped with a code. -/
theorem exec_markTransferStopped {target : TransferPhase} (h : CanSettle u db row code time)
    (htarget : target = .authRequired ∨ target = .needsReconcile) :
    ∃ db', exec (markTransferStopped u row.operationId target code time) db = (.ok (), db') ∧
      Replaces db db' row
        { row with phase := target, updatedAtUnixMs := time, lastErrorCode := some code } := by
  have hne : ¬ (row.phase = target ∧ row.lastErrorCode = some code) := fun hsame =>
    h.ne_phase (by rcases htarget with rfl | rfl <;> decide) hsame.1
  have hother : ¬ (target ≠ .authRequired ∧ target ≠ .needsReconcile) := fun hnot =>
    htarget.elim hnot.1 hnot.2
  obtain ⟨db', hupdate, hreplaces⟩ := exec_updateOne (c := (·.phase == .running))
    (f := fun row => { row with phase := target, updatedAtUnixMs := time
                                lastErrorCode := some code })
    (e := .invalidStateTransition) (fun _ _ => rfl) h.found (beq_iff_eq.mpr h.running)
  refine ⟨db', ?_, hreplaces⟩
  simp only [markTransferStopped, exec_bind_ok, exec_reject_ok, exec_lift_ok]
  refine ⟨(), db, ⟨h.not_nil, rfl⟩, (), db, ⟨hother, rfl⟩, (), db,
    ⟨validateRedactedCode_eq_ok.mpr h.code, rfl⟩, (), db, ⟨u64ToI64_eq_ok.mpr h.fits, rfl⟩, row,
    db, h.exec_requireTransfer, ?_⟩
  rw [if_neg hne]
  exact exec_bind_ok.mpr ⟨(), db, exec_reject_ok.mpr ⟨h.not_late, rfl⟩, hupdate⟩

/-- A running transfer is paused; that is no attempt. -/
theorem exec_pauseTransferOffline (h : CanSettle u db row code time) :
    ∃ db', exec (pauseTransferOffline u row.operationId time code time) db = (.ok (), db') ∧
      Replaces db db' row
        { row with
          phase := .retryScheduled, nextAttemptAtUnixMs := time, updatedAtUnixMs := time
          lastErrorCode := some code } := by
  obtain ⟨db', hupdate, hreplaces⟩ := exec_updateOne (c := (·.phase == .running))
    (f := fun row => { row with
      phase := .retryScheduled, nextAttemptAtUnixMs := time, updatedAtUnixMs := time
      lastErrorCode := some code })
    (e := .invalidStateTransition) (fun _ _ => rfl) h.found (beq_iff_eq.mpr h.running)
  refine ⟨db', ?_, hreplaces⟩
  simp only [pauseTransferOffline, exec_bind_ok, exec_reject_ok, exec_lift_ok]
  refine ⟨(), db, ⟨h.not_nil, rfl⟩, (), db, ⟨validateRedactedCode_eq_ok.mpr h.code, rfl⟩, (), db,
    ⟨u64ToI64_eq_ok.mpr h.fits, rfl⟩, (), db, ⟨u64ToI64_eq_ok.mpr h.fits, rfl⟩, row, db,
    h.exec_requireTransfer, ?_⟩
  rw [if_neg h.not_sameRetry]
  exact exec_bind_ok.mpr ⟨(), db, exec_reject_ok.mpr ⟨h.not_late, rfl⟩, hupdate⟩

/-- A running transfer is scheduled again, and that is an attempt. -/
theorem exec_scheduleTransferRetry (h : CanSettle u db row code time) :
    ∃ db', exec (scheduleTransferRetry u row.operationId time code time) db = (.ok (), db') ∧
      Replaces db db' row
        { row with
          phase := .retryScheduled, attemptCount := row.attemptCount + 1
          nextAttemptAtUnixMs := time, updatedAtUnixMs := time, lastErrorCode := some code } := by
  have hopen : (row.isOpen || row.phase == .authRequired) = true := by
    simp [TransferRecord.isOpen, h.running]
  obtain ⟨db', hupdate, hreplaces⟩ := exec_updateOne
    (c := fun row => row.isOpen || row.phase == .authRequired)
    (f := fun row => { row with
      phase := .retryScheduled, attemptCount := row.attemptCount + 1
      nextAttemptAtUnixMs := time, updatedAtUnixMs := time, lastErrorCode := some code })
    (e := .invalidStateTransition) (fun _ _ => rfl) h.found hopen
  refine ⟨db', ?_, hreplaces⟩
  simp only [scheduleTransferRetry, exec_bind_ok, exec_reject_ok, exec_lift_ok]
  refine ⟨(), db, ⟨h.not_nil, rfl⟩, (), db, ⟨validateRedactedCode_eq_ok.mpr h.code, rfl⟩, (), db,
    ⟨u64ToI64_eq_ok.mpr h.fits, rfl⟩, (), db, ⟨u64ToI64_eq_ok.mpr h.fits, rfl⟩, row, db,
    h.exec_requireTransfer, ?_⟩
  rw [if_neg h.not_sameRetry]
  exact exec_bind_ok.mpr ⟨(), db, exec_reject_ok.mpr ⟨h.not_late, rfl⟩, hupdate⟩

/-- A call settles the transfer if it can be settled; else it fails and changes nothing. -/
def SettlesIf (p : StoreProgram Unit) (db : Database) (row final : TransferRecord)
    (can : Prop) : Prop :=
  can ∧ (∃ db', exec (onStore p) db = (.ok (), db') ∧ Replaces db db' row final) ∨
    ¬ can ∧ ∃ e, exec (onStore p) db = (.error e, db)

theorem settlesIf_of_exec {p : StoreProgram Unit} [Atomic p] {final : TransferRecord} {can : Prop}
    (hcan : can → ∃ db', exec p db = (.ok (), db') ∧ Replaces db db' row final)
    (hok : ∀ db', exec p db = (.ok (), db') → can) : SettlesIf p db row final can := by
  cases h : exec (onStore p) db with
  | mk result db' =>
      cases result with
      | ok v =>
          have hsettled := hok db' (exec_onStore_ok.mp h)
          obtain ⟨db', hexec, hreplaces⟩ := hcan hsettled
          exact Or.inl ⟨hsettled, db', exec_onStore_ok.mpr hexec, hreplaces⟩
      | error e =>
          have hsame : db' = db := Atomic.eq_of_error db db' e h
          refine Or.inr ⟨fun hsettled => ?_, e, by rw [h, hsame]⟩
          obtain ⟨db', hexec, -⟩ := hcan hsettled
          rw [exec_onStore_ok.mpr hexec] at h
          cases h

set_option synthInstance.maxSize 100000 in
theorem settlesIf_stop {target : TransferPhase}
    (htarget : target = .authRequired ∨ target = .needsReconcile)
    (hrow : db.transfers.lookup row.operationId = some row) (hrunning : row.phase = .running) :
    SettlesIf (markTransferStopped u row.operationId target code time) db row
      { row with phase := target, updatedAtUnixMs := time, lastErrorCode := some code }
      (CanSettle u db row code time) := by
  have hatomic : Atomic (markTransferStopped u row.operationId target code time) := by
    unfold markTransferStopped
    infer_instance
  refine settlesIf_of_exec (fun h => exec_markTransferStopped h htarget) fun db' h => ?_
  simp only [markTransferStopped, exec_bind_ok, exec_reject_ok, exec_lift_ok,
    exec_requireTransfer_ok] at h
  obtain ⟨_, _, ⟨-, rfl⟩, _, _, ⟨-, rfl⟩, _, _, ⟨hcode, rfl⟩, _, _, ⟨hfits, rfl⟩, found, _,
    ⟨hfound, hvalid, rfl⟩, h⟩ := h
  obtain rfl : row = found := Option.some.inj (hrow.symm.trans hfound)
  rw [if_neg fun hsame => absurd (hrunning.symm.trans hsame.1) (by
    rcases htarget with rfl | rfl <;> decide)] at h
  obtain ⟨_, _, horder, -⟩ := exec_bind_ok.mp h
  exact ⟨hrow, hrunning, checkTransferRow_eq_ok.mp hvalid, validateRedactedCode_eq_ok.mp hcode,
    u64ToI64_eq_ok.mp hfits, Nat.not_lt.mp (exec_reject_ok.mp horder).1⟩

set_option synthInstance.maxSize 100000 in
theorem settlesIf_pause (hrow : db.transfers.lookup row.operationId = some row)
    (hrunning : row.phase = .running) :
    SettlesIf (pauseTransferOffline u row.operationId time code time) db row
      { row with
        phase := .retryScheduled, nextAttemptAtUnixMs := time, updatedAtUnixMs := time
        lastErrorCode := some code }
      (CanSettle u db row code time) := by
  have hatomic : Atomic (pauseTransferOffline u row.operationId time code time) := by
    unfold pauseTransferOffline
    infer_instance
  refine settlesIf_of_exec exec_pauseTransferOffline fun db' h => ?_
  simp only [pauseTransferOffline, exec_bind_ok, exec_reject_ok, exec_lift_ok,
    exec_requireTransfer_ok] at h
  obtain ⟨_, _, ⟨-, rfl⟩, _, _, ⟨hcode, rfl⟩, _, _, ⟨hfits, rfl⟩, _, _, ⟨-, rfl⟩, found, _,
    ⟨hfound, hvalid, rfl⟩, h⟩ := h
  obtain rfl : row = found := Option.some.inj (hrow.symm.trans hfound)
  rw [if_neg (by simp [isSameRetry, hrunning])] at h
  obtain ⟨_, _, horder, -⟩ := exec_bind_ok.mp h
  exact ⟨hrow, hrunning, checkTransferRow_eq_ok.mp hvalid, validateRedactedCode_eq_ok.mp hcode,
    u64ToI64_eq_ok.mp hfits, Nat.not_lt.mp (exec_reject_ok.mp horder).1⟩

set_option synthInstance.maxSize 100000 in
theorem settlesIf_retry (hrow : db.transfers.lookup row.operationId = some row)
    (hrunning : row.phase = .running) :
    SettlesIf (scheduleTransferRetry u row.operationId time code time) db row
      { row with
        phase := .retryScheduled, attemptCount := row.attemptCount + 1
        nextAttemptAtUnixMs := time, updatedAtUnixMs := time, lastErrorCode := some code }
      (CanSettle u db row code time) := by
  have hatomic : Atomic (scheduleTransferRetry u row.operationId time code time) := by
    unfold scheduleTransferRetry
    infer_instance
  refine settlesIf_of_exec exec_scheduleTransferRetry fun db' h => ?_
  simp only [scheduleTransferRetry, exec_bind_ok, exec_reject_ok, exec_lift_ok,
    exec_requireTransfer_ok] at h
  obtain ⟨_, _, ⟨-, rfl⟩, _, _, ⟨hcode, rfl⟩, _, _, ⟨hfits, rfl⟩, _, _, ⟨-, rfl⟩, found, _,
    ⟨hfound, hvalid, rfl⟩, h⟩ := h
  obtain rfl : row = found := Option.some.inj (hrow.symm.trans hfound)
  rw [if_neg (by simp [isSameRetry, hrunning])] at h
  obtain ⟨_, _, horder, -⟩ := exec_bind_ok.mp h
  exact ⟨hrow, hrunning, checkTransferRow_eq_ok.mp hvalid, validateRedactedCode_eq_ok.mp hcode,
    u64ToI64_eq_ok.mp hfits, Nat.not_lt.mp (exec_reject_ok.mp horder).1⟩

end Dispositions

/-! ## Codes and delays -/

/-- The worker's codes are codes of the store. -/
theorem isRedactedCode_of_validate {code : String}
    (h : Transfer.validateRedactedCode code = .ok ()) : isRedactedCode code = true := by
  simp only [validateRedactedCode, reject_eq_ok, not_or, Bool.not_eq_true', Bool.not_eq_false,
    not_lt] at h
  obtain ⟨hne, hlen, hchars⟩ := h
  rw [isRedactedCode, Bool.and_eq_true, decide_eq_true_eq]
  refine ⟨⟨?_, hlen.trans (by decide)⟩, List.all_eq_true.mpr fun c hc => ?_⟩
  · cases hlist : code.toList with
    | nil => exact absurd (String.toList_eq_nil_iff.mp hlist) hne
    | cons c rest =>
        have hpos := Char.utf8Size_pos c
        rw [strLen, hlist, utf8Len, List.map_cons, List.sum_cons]
        omega
  · have hchar := List.all_eq_true.mp hchars c hc
    simp only [Bool.or_eq_true] at hchar
    rcases hchar with (hlower | hdigit) | hunder
    · simp [isIdChar, isAlphanum_iff, hlower]
    · simp [isIdChar, isAlphanum_iff, hdigit]
    · simp [isIdChar, hunder]

theorem retryDelayMs_bounds (operationId : Uuid) (attempt : ℕ) :
    baseBackoffMs ≤ retryDelayMs operationId attempt ∧
      retryDelayMs operationId attempt ≤ maxBackoffMs := by
  have hpow : 1 ≤ 2 ^ min attempt 9 := Nat.one_le_two_pow
  have hexp : baseBackoffMs ≤ saturatingMul baseBackoffMs (2 ^ min attempt 9) := by
    exact Nat.le_min.mpr ⟨Nat.le_mul_of_pos_right _ hpow, by decide⟩
  have hmax : baseBackoffMs ≤ maxBackoffMs := by decide
  refine ⟨?_, Nat.min_le_right _ _⟩
  rw [retryDelayMs]
  exact le_min ((le_min hexp hmax).trans (Nat.le_add_right _ _)) hmax

theorem rateLimitDelay_bounds (operationId : Uuid) (attempt : ℕ) (retryAfter : Option ℕ) :
    baseBackoffMs ≤ rateLimitDelay operationId attempt retryAfter ∧
      rateLimitDelay operationId attempt retryAfter ≤ maxBackoffMs := by
  have hmax : baseBackoffMs ≤ maxBackoffMs := by decide
  exact ⟨le_max_left _ _, max_le hmax (min_le_left _ _)⟩

/-! ## The claim and the gate -/

/-- The row after its claim. -/
def claimedRow (row : TransferRecord) (cutoff : ℕ) : TransferRecord :=
  { row with phase := .running, updatedAtUnixMs := cutoff }

@[simp] theorem claimedRow_operationId (row : TransferRecord) (cutoff : ℕ) :
    (claimedRow row cutoff).operationId = row.operationId := rfl

/-- The transfer a claim takes. -/
structure Claims (u : Unicode) (db mid : Database) (cutoff : ℕ) (row : TransferRecord) :
    Prop where
  exec_eq : exec (claimNextTransfer u cutoff) db = (.ok (some (claimedRow row cutoff)), mid)
  waiting : row.isWaiting = true
  due : row.nextAttemptAtUnixMs ≤ cutoff
  valid : ValidTransfer u row
  fits : fitsI64 cutoff = true
  replaces : Replaces db mid row (claimedRow row cutoff)

section Claim

variable {u : Unicode} {db mid : Database} {cutoff : ℕ} {row : TransferRecord}

theorem claims_of_exec {claimed : TransferRecord}
    (h : exec (claimNextTransfer u cutoff) db = (.ok (some claimed), mid)) :
    ∃ row, claimed = claimedRow row cutoff ∧ Claims u db mid cutoff row := by
  have hexec := h
  simp only [claimNextTransfer, exec_bind_ok, exec_lift_ok, exec_transaction_ok,
    exec_read_ok] at h
  obtain ⟨_, _, ⟨hfits, rfl⟩, candidate, _, ⟨hdue, rfl⟩, _, _, ⟨hvalid, rfl⟩, h⟩ := h
  cases candidate with
  | none =>
      rw [claimTransfer, exec_pure_ok] at h
      cases h.1
  | some row =>
      simp only [claimTransfer, exec_bind_ok, exec_updateTransfers_ok, exec_reject_ok,
        exec_pure_ok, Option.some.injEq] at h
      obtain ⟨_, _, ⟨-, rfl⟩, _, _, ⟨-, rfl⟩, rfl, rfl⟩ := h
      obtain ⟨hmem, hwaiting, hbefore⟩ := dueTransfer_eq_some hdue
      refine ⟨row, rfl, hexec, hwaiting, hbefore, ?_, u64ToI64_eq_ok.mp hfits, ?_⟩
      · exact checkTransferRow_eq_ok.mp (each_eq_ok.mp hvalid row List.mem_cons_self)
      · exact replaces_of_update (Table.lookup_eq_some_iff.mpr ⟨hmem, rfl⟩) hwaiting

theorem eq_of_claim_none (h : exec (claimNextTransfer u cutoff) db = (.ok none, mid)) :
    mid = db := by
  simp only [claimNextTransfer, exec_bind_ok, exec_lift_ok, exec_transaction_ok,
    exec_read_ok] at h
  obtain ⟨_, _, ⟨-, rfl⟩, candidate, _, ⟨-, rfl⟩, _, _, ⟨-, rfl⟩, h⟩ := h
  cases candidate with
  | none =>
      rw [claimTransfer, exec_pure_ok] at h
      exact h.2.symm
  | some row =>
      simp only [claimTransfer, exec_bind_ok, exec_pure_ok] at h
      obtain ⟨_, _, -, _, _, -, hnone, -⟩ := h
      cases hnone

theorem eq_of_claim_error {e : Store.Error}
    (h : exec (claimNextTransfer u cutoff) db = (.error e, mid)) : mid = db := by
  have hatomic : Atomic (claimNextTransfer u cutoff) := by
    unfold claimNextTransfer
    infer_instance
  exact hatomic.eq_of_error db mid e h

/-- The gate leaves every other transfer alone, and of this one it writes the time. -/
def Touches (operationId : Uuid) (now : ℕ) (db db' : Database) : Prop :=
  ∀ key, db'.transfers.lookup key = db.transfers.lookup key ∨
    key = operationId ∧ db'.transfers.lookup key =
      (db.transfers.lookup key).map fun row => { row with updatedAtUnixMs := now }

variable {operationId : Uuid} {now : ℕ}

instance : Std.Refl (Touches operationId now) := ⟨fun _ _ => Or.inl rfl⟩

instance : IsTrans Database (Touches operationId now) := by
  refine ⟨fun a b c hab hbc key => ?_⟩
  rcases hab key with hab | ⟨hkey, hab⟩ <;> rcases hbc key with hbc | ⟨hkey', hbc⟩
  · exact Or.inl (hbc.trans hab)
  · exact Or.inr ⟨hkey', by rw [hbc, hab]⟩
  · exact Or.inr ⟨hkey, by rw [hbc, hab]⟩
  · refine Or.inr ⟨hkey, ?_⟩
    rw [hbc, hab, Option.map_map]
    rfl

theorem touches_of_transfers {db db' : Database} (h : db'.transfers = db.transfers) :
    Touches operationId now db db' := fun _ => Or.inl (by rw [h])

instance (priority := low) touches_of_onlyWrites {α : Type} {p : StoreProgram α}
    [h : Keeps (OnlyWrites [.batchProgress]) p] : Keeps (Touches operationId now) p :=
  h.mono fun _ _ hwrites => touches_of_transfers (hwrites .transfers (by decide))

theorem touches_of_update {p : TransferRecord → Bool}
    {hf : ∀ row, p row = true →
      ({ row with updatedAtUnixMs := now } : TransferRecord).operationId = row.operationId}
    (hp : ∀ row, p row = true → row.operationId = operationId) (db : Database) :
    Touches operationId now db { db with
      transfers := db.transfers.update p (fun row => { row with updatedAtUnixMs := now }) hf } := by
  intro key
  rw [Table.lookup_update]
  cases hrow : db.transfers.lookup key with
  | none => exact Or.inl rfl
  | some row =>
      rw [Option.map_some, Option.map_some]
      split
      · rename_i hmatch
        exact Or.inr ⟨(Table.lookup_eq_some_iff.mp hrow).2.symm.trans (hp row hmatch), rfl⟩
      · exact Or.inl rfl

instance keeps_touchTransfer : Keeps (Touches operationId now) (touchTransfer operationId now) := by
  have hwrite : Keeps (Touches operationId now) (updateTransfers
      (·.matchesId operationId fun row => row.isOpen && decide (row.updatedAtUnixMs ≤ now))
      (fun row => { row with updatedAtUnixMs := now }) fun _ _ => rfl) := by
    unfold updateTransfers
    exact .bind_of inferInstance fun _ => .bind_of
      (.write (touches_of_update fun _ hmatch => (matchesId_iff.mp hmatch).1))
      fun _ => inferInstance
  unfold touchTransfer
  infer_instance

set_option synthInstance.maxSize 100000 in
instance keeps_beginTransferLocalPublish :
    Keeps (Touches operationId now) (beginTransferLocalPublish u operationId now) := by
  have hresume : ∀ transfer state,
      Keeps (Touches operationId now) (resumeLocalPublish transfer state) := by
    intro transfer state
    cases state with
    | none =>
        unfold resumeLocalPublish
        infer_instance
    | some state => cases state <;> unfold resumeLocalPublish <;> infer_instance
  unfold beginTransferLocalPublish
  infer_instance

instance keeps_runGate {n : ℕ} {gateError : Option Error} :
    Keeps (Touches operationId now) (runGate u operationId now n gateError) := by
  have hpublish : ∀ batch,
      Keeps (Touches operationId now) (publishIfDeclared u operationId now batch) := by
    intro batch
    cases batch with
    | none =>
        unfold publishIfDeclared
        infer_instance
    | some batch =>
        unfold publishIfDeclared localMutationIds
        infer_instance
  have hbegin : Keeps (Touches operationId now) (beginLocalPublish u operationId now) := by
    unfold beginLocalPublish
    infer_instance
  induction n generalizing gateError with
  | zero =>
      unfold runGate
      infer_instance
  | succ n ih =>
      unfold runGate
      exact .bind_of inferInstance fun error => ih

/-- The gate always returns; what it returns is the error it has met. -/
theorem exec_runGate (n : ℕ) (gateError : Option Error) (db : Database) :
    ∃ error db', exec (runGate u operationId now n gateError) db = (.ok error, db') := by
  induction n generalizing gateError db with
  | zero => exact ⟨gateError, db, rfl⟩
  | succ n ih =>
      rw [runGate, exec_bind, exec_attempt]
      cases exec (beginLocalPublish u operationId now) db with
      | mk result db₁ => cases result <;> exact ih _ _

/-- The time the gate writes is that of the claim. -/
theorem sameTransfers_of_touches {db' : Database} (h : Touches row.operationId cutoff db db')
    (hrow : db.transfers.lookup row.operationId = some (claimedRow row cutoff)) :
    SameTransfers db db' := by
  intro key
  rcases h key with hsame | ⟨rfl, htouched⟩
  · exact hsame
  · rw [htouched, hrow]
    rfl

end Claim

/-! ## What the executor returned -/

/-- How a transfer is settled, and the row it ends in. -/
inductive Disposes (row : TransferRecord) (completedAt : ℕ) :
    Except ExecutionFailure VerifiedTransfer → WorkOutcome → TransferRecord → Prop
  | completed {verified : VerifiedTransfer} {final : TransferRecord}
      (hid : verified.operationId = row.operationId) (hdigest : verified.sha256Hex = row.sha256)
      (hlength : verified.byteLen = row.byteLength) (hphase : final.phase = .completed) :
      Disposes row completedAt (.ok verified) (.completed row.operationId) final
  | mismatched {verified : VerifiedTransfer} {final : TransferRecord}
      (hmismatch : verified.matches (intentOf row) = false)
      (hphase : final.phase = .needsReconcile) :
      Disposes row completedAt (.ok verified) (.needsReconcile row.operationId) final
  | unknown {failure : ExecutionFailure} {final : TransferRecord}
      (hkind : failure.kind = .permanent ∨ failure.kind = .transientUnknown ∨
        failure.kind = .needsReconcile) (hphase : final.phase = .needsReconcile) :
      Disposes row completedAt (.error failure) (.needsReconcile row.operationId) final
  | auth {failure : ExecutionFailure} {final : TransferRecord}
      (hkind : failure.kind = .authRequired) (hphase : final.phase = .authRequired)
      (hattempts : final.attemptCount = row.attemptCount) :
      Disposes row completedAt (.error failure) (.authRequired row.operationId) final
  | offline {failure : ExecutionFailure} {final : TransferRecord}
      (hkind : failure.kind = .offline) (hphase : final.phase = .retryScheduled)
      (hattempts : final.attemptCount = row.attemptCount)
      (hdue : final.nextAttemptAtUnixMs = completedAt + baseBackoffMs) :
      Disposes row completedAt (.error failure) (.retryScheduled row.operationId) final
  | retry {failure : ExecutionFailure} {final : TransferRecord}
      (hkind : failure.kind = .rateLimited ∨ failure.kind = .transientSafe)
      (hphase : final.phase = .retryScheduled)
      (hattempts : final.attemptCount = row.attemptCount + 1)
      (hleast : completedAt + baseBackoffMs ≤ final.nextAttemptAtUnixMs)
      (hmost : final.nextAttemptAtUnixMs ≤ completedAt + maxBackoffMs) :
      Disposes row completedAt (.error failure) (.retryScheduled row.operationId) final

/-- Why a claim may stand alone.  Evidence strands it only where `complete_verified` refuses
the evidence, in the store that the gate left. -/
inductive Stranding (u : Unicode) (mid : Database) (cutoff completedAt : ℕ)
    (row : TransferRecord) (executed : ExecutorRun) : Prop
  | intent (hintent : (intentOf row).validate ≠ .ok ())
  | gate (error : Error) (hgate : (exec (runGate u row.operationId cutoff executed.gateCalls none)
      mid).1 = .ok (some error))
  | clock (hclock : cutoff < row.createdAtUnixMs)
  | time (htime : 2 ^ 63 ≤ completedAt + maxBackoffMs)
  | evidence (verified : VerifiedTransfer) (db : Database) (error : Error)
      (hresult : executed.result = .ok verified)
      (hmatches : verified.matches (intentOf row) = true)
      (hgate : exec (runGate u row.operationId cutoff executed.gateCalls none) mid = (.ok none, db))
      (hrefused : (exec (completeVerified u verified completedAt) db).1 = .error error)

section Settle

variable {u : Unicode} {worker worker' : Worker} {row : TransferRecord} {cutoff time : ℕ}
  {code : String}

/-- What a disposition can miss: the order of the times, or their range. -/
theorem late_of_not_canSettle {db : Database} {next : ℕ}
    (hrow : db.transfers.lookup row.operationId = some (claimedRow row cutoff))
    (hvalid : ValidTransfer u row) (hfits : fitsI64 cutoff = true)
    (hcode : isRedactedCode code = true) (hcutoff : cutoff ≤ next)
    (hnext : next ≤ time + maxBackoffMs)
    (h : ¬ CanSettle u db (claimedRow row cutoff) code next) :
    cutoff < row.createdAtUnixMs ∨ 2 ^ 63 ≤ time + maxBackoffMs := by
  by_contra hnot
  rw [not_or, Nat.not_lt, Nat.not_le] at hnot
  refine h ⟨hrow, rfl, ?_, hcode, decide_eq_true (hnext.trans_lt hnot.2), hcutoff⟩
  exact { hvalid with updated := hfits, order := hnot.1, completed := nofun }

/-- A transfer was settled, or the claim stands alone for a reason. -/
def SettledOr (u : Unicode) (row : TransferRecord) (cutoff time : ℕ)
    (result : Except ExecutionFailure VerifiedTransfer) (before : Database)
    (returned : Except Error WorkOutcome × Worker) : Prop :=
  (∃ outcome final, returned.1 = .ok outcome ∧ Disposes row time result outcome final ∧
    Replaces before returned.2.store (claimedRow row cutoff) final) ∨
  (∃ error, returned.1 = .error error) ∧ returned.2.store = before ∧
    (cutoff < row.createdAtUnixMs ∨ 2 ^ 63 ≤ time + maxBackoffMs ∨
      ∃ verified error, result = .ok verified ∧ verified.matches (intentOf row) = true ∧
        (exec (completeVerified u verified time) before).1 = .error error)

/-- One call of the store, and the outcome. -/
theorem settledOr_of_call {p : StoreProgram Unit} {next : ℕ} {final : TransferRecord}
    {result : Except ExecutionFailure VerifiedTransfer} {outcome : WorkOutcome}
    {rest : Unit → Program Worker Error WorkOutcome}
    (hrest : ∀ worker, ∃ required, exec (rest ()) worker =
      (.ok outcome, { worker with authRefreshRequired := required }))
    (hsettles : SettlesIf p worker.store (claimedRow row cutoff) final
      (CanSettle u worker.store (claimedRow row cutoff) code next))
    (hdisposes : Disposes row time result outcome final)
    (hlate : ¬ CanSettle u worker.store (claimedRow row cutoff) code next →
      cutoff < row.createdAtUnixMs ∨ 2 ^ 63 ≤ time + maxBackoffMs) :
    SettledOr u row cutoff time result worker.store
      (exec (viaStore (onStore p) >>= rest) worker) := by
  rw [exec_bind, exec_viaStore]
  rcases hsettles with ⟨-, db', hexec, hreplaces⟩ | ⟨hnot, e, hexec⟩
  · rw [hexec]
    obtain ⟨required, hrest⟩ := hrest { worker with store := db' }
    show SettledOr u row cutoff time result worker.store
      (exec (rest ()) { worker with store := db' })
    rw [hrest]
    exact Or.inl ⟨outcome, final, rfl, hdisposes, hreplaces⟩
  · rw [hexec]
    exact Or.inr ⟨⟨e, rfl⟩, rfl, (hlate hnot).imp_right Or.inl⟩

/-- A delay after the completion that no machine word holds is no time of the store. -/
theorem settledOr_of_checkedAdd {delay : ℕ}
    {result : Except ExecutionFailure VerifiedTransfer}
    {rest : ℕ → Program Worker Error WorkOutcome} (hdelay : delay ≤ maxBackoffMs)
    (hrest : SettledOr u row cutoff time result worker.store
      (exec (rest (time + delay)) worker)) :
    SettledOr u row cutoff time result worker.store
      (exec (lift (checkedAddMs time delay) >>= rest) worker) := by
  rw [exec_bind, exec_lift, checkedAddMs, checkedAdd, fitsWord]
  by_cases hfits : time + delay < wordLimit
  · rw [if_pos hfits]
    exact hrest
  · rw [if_neg hfits]
    refine Or.inr ⟨⟨.timestampOverflow, rfl⟩, rfl, Or.inr (Or.inl ?_)⟩
    rw [wordLimit] at hfits
    omega

/-- The conditions a claim has left. -/
structure Claimed (u : Unicode) (db : Database) (cutoff time : ℕ) (row : TransferRecord) :
    Prop where
  found : db.transfers.lookup row.operationId = some (claimedRow row cutoff)
  valid : ValidTransfer u row
  fits : fitsI64 cutoff = true
  order : cutoff ≤ time

theorem Claimed.late (h : Claimed u worker.store cutoff time row) {next : ℕ}
    (hcode : isRedactedCode code = true) (hleast : time ≤ next)
    (hmost : next ≤ time + maxBackoffMs) :
    ¬ CanSettle u worker.store (claimedRow row cutoff) code next →
      cutoff < row.createdAtUnixMs ∨ 2 ^ 63 ≤ time + maxBackoffMs :=
  late_of_not_canSettle h.found h.valid h.fits hcode (h.order.trans hleast) hmost

theorem settledOr_of_stop (h : Claimed u worker.store cutoff time row) {target : TransferPhase}
    (htarget : target = .authRequired ∨ target = .needsReconcile)
    {result : Except ExecutionFailure VerifiedTransfer} {outcome : WorkOutcome}
    {rest : Unit → Program Worker Error WorkOutcome} (hcode : isRedactedCode code = true)
    (hrest : ∀ worker, ∃ required, exec (rest ()) worker =
      (.ok outcome, { worker with authRefreshRequired := required }))
    (hdisposes : Disposes row time result outcome
      { claimedRow row cutoff with
        phase := target, updatedAtUnixMs := time, lastErrorCode := some code }) :
    SettledOr u row cutoff time result worker.store (exec (viaStore (onStore
      (markTransferStopped u row.operationId target code time)) >>= rest) worker) :=
  settledOr_of_call hrest (settlesIf_stop htarget h.found rfl) hdisposes
    (h.late hcode (Nat.le_refl _) (Nat.le_add_right _ _))

theorem settledOr_of_retry (h : Claimed u worker.store cutoff time row) {delay : ℕ}
    {failure : ExecutionFailure} (hcode : isRedactedCode failure.code = true)
    (hkind : failure.kind = .rateLimited ∨ failure.kind = .transientSafe)
    (hdelay : baseBackoffMs ≤ delay ∧ delay ≤ maxBackoffMs) :
    SettledOr u row cutoff time (.error failure) worker.store (exec (do
      let next ← lift (checkedAddMs time delay)
      viaStore (scheduleRetry u row.operationId next failure.code)
      pure (.retryScheduled row.operationId)) worker) := by
  refine settledOr_of_checkedAdd hdelay.2 ?_
  refine settledOr_of_call (fun worker => ⟨worker.authRefreshRequired, rfl⟩)
    (settlesIf_retry h.found rfl) ?_
    (h.late hcode (Nat.le_add_right _ _) (Nat.add_le_add_left hdelay.2 _))
  exact .retry hkind rfl rfl (Nat.add_le_add_left hdelay.1 _) (Nat.add_le_add_left hdelay.2 _)

/-- A failure settles the transfer, unless its times are out of order or out of range. -/
theorem settledOr_handleFailure (h : Claimed u worker.store cutoff time row)
    (failure : ExecutionFailure) :
    SettledOr u row cutoff time (.error failure) worker.store
      (exec (handleFailure u row.operationId time row.attemptCount failure) worker) := by
  have hcode : isRedactedCode failure.code = true :=
    isRedactedCode_of_validate (seq_eq_ok.mp failure.valid).1
  have hpure : ∀ (outcome : WorkOutcome) (worker : Worker), ∃ required,
      exec (pure outcome : Program Worker Error WorkOutcome) worker =
        (.ok outcome, { worker with authRefreshRequired := required }) :=
    fun _ worker => ⟨worker.authRefreshRequired, rfl⟩
  rw [handleFailure]
  cases hkind : failure.kind with
  | authRequired =>
      exact settledOr_of_stop h (Or.inl rfl) hcode (fun _ => ⟨some row.operationId, rfl⟩)
        (.auth hkind rfl rfl)
  | offline =>
      refine settledOr_of_checkedAdd (by decide) ?_
      exact settledOr_of_call (hpure _) (settlesIf_pause h.found rfl)
        (.offline hkind rfl rfl rfl)
        (h.late hcode (Nat.le_add_right _ _) (Nat.add_le_add_left (by decide) _))
  | rateLimited =>
      exact settledOr_of_retry h hcode (Or.inl hkind) (rateLimitDelay_bounds _ _ _)
  | transientSafe =>
      exact settledOr_of_retry h hcode (Or.inr hkind) (retryDelayMs_bounds _ _)
  | permanent =>
      exact settledOr_of_stop h (Or.inr rfl) hcode (hpure _) (.unknown (Or.inl hkind) rfl)
  | transientUnknown =>
      exact settledOr_of_stop h (Or.inr rfl) hcode (hpure _)
        (.unknown (Or.inr (Or.inl hkind)) rfl)
  | needsReconcile =>
      exact settledOr_of_stop h (Or.inr rfl) hcode (hpure _)
        (.unknown (Or.inr (Or.inr hkind)) rfl)

/-- Evidence the store takes completes the transfer. -/
theorem replaces_of_completeVerified {verified : VerifiedTransfer} {db db' : Database} {v : Unit}
    (hrow : db.transfers.lookup row.operationId = some (claimedRow row cutoff))
    (hid : verified.operationId = row.operationId)
    (h : exec (completeVerified u verified time) db = (.ok v, db')) :
    ∃ final, final.phase = .completed ∧ Replaces db db' (claimedRow row cutoff) final := by
  simp only [completeVerified, exec_bind_ok, exec_the_ok, exec_lift_ok, exec_onStore_ok,
    exec_pure_ok] at h
  obtain ⟨revision, _, ⟨-, rfl⟩, _, _, ⟨-, rfl⟩, _, _, hcomplete, -, rfl⟩ := h
  obtain ⟨-, existing, hexisting, ⟨hcompleted, -⟩ | ⟨-, -, event, hcompletes⟩⟩ :=
    completion_cases hcomplete
  all_goals
    rw [hid] at hexisting
    obtain rfl : claimedRow row cutoff = existing :=
      Option.some.inj (hrow.symm.trans hexisting)
  · cases hcompleted
  · refine ⟨(claimedRow row cutoff).complete (completionOf verified revision time), rfl, hrow, ?_,
      fun key hkey => ?_⟩
    · have hview := hcompletes.view row.operationId
      rw [claimedRow_operationId, if_pos rfl] at hview
      exact congrArg Prod.fst hview
    · have hview := hcompletes.view key
      rw [if_neg hkey.symm] at hview
      exact congrArg Prod.fst hview

theorem settledOr_settle (h : Claimed u worker.store cutoff time row)
    (result : Except ExecutionFailure VerifiedTransfer) :
    SettledOr u row cutoff time result worker.store
      (exec (settle u (intentOf row) time result) worker) := by
  cases result with
  | error failure => exact settledOr_handleFailure h failure
  | ok verified =>
      rw [settle]
      cases hmatches : verified.matches (intentOf row) with
      | false =>
          exact settledOr_of_stop h (Or.inr rfl) (by decide)
            (fun worker => ⟨worker.authRefreshRequired, rfl⟩) (.mismatched hmatches rfl)
      | true =>
          have hsame := hmatches
          simp only [VerifiedTransfer.matches, Bool.and_eq_true, beq_iff_eq] at hsame
          obtain ⟨⟨hid, hdigest⟩, hlength⟩ := hsame
          have hcalls : ∀ completion,
              Atomic (completeVerifiedTransfer u verified.operationId completion) := by
            intro completion
            unfold completeVerifiedTransfer
            infer_instance
          have hatomic : Atomic (completeVerified u verified time) := by
            unfold completeVerified
            infer_instance
          show SettledOr u row cutoff time (.ok verified) worker.store (exec (do
            viaStore (completeVerified u verified time)
            pure (.completed row.operationId)) worker)
          rw [exec_bind, exec_viaStore]
          cases hcomplete : exec (completeVerified u verified time) worker.store with
          | mk returned db =>
              cases returned with
              | ok v =>
                  obtain ⟨final, hphase, hreplaces⟩ :=
                    replaces_of_completeVerified h.found hid hcomplete
                  exact Or.inl ⟨_, final, rfl, .completed hid hdigest hlength hphase, hreplaces⟩
              | error e =>
                  have hrefused : (exec (completeVerified u verified time) worker.store).1 =
                      .error e := by rw [hcomplete]
                  refine Or.inr ⟨⟨e, rfl⟩, ?_, Or.inr (Or.inr
                    ⟨verified, e, rfl, hmatches, hrefused⟩)⟩
                  exact hatomic.eq_of_error worker.store db e hcomplete

end Settle

/-! ## A run of the worker -/

/-- What a run does to the transfers. -/
inductive Settles (u : Unicode) (before after : Database) (cutoff completedAt : ℕ)
    (execute : TransferIntent → ExecutorRun) : Except Error WorkOutcome → Prop
  | unchanged {result : Except Error WorkOutcome} (hsame : SameTransfers before after)
      (hresult : ∀ outcome, result = .ok outcome → outcome = .idle) :
      Settles u before after cutoff completedAt execute result
  | settled {row final : TransferRecord} {outcome : WorkOutcome} (hwaiting : row.isWaiting = true)
      (hdue : row.nextAttemptAtUnixMs ≤ cutoff) (hreplaces : Replaces before after row final)
      (hdisposes : Disposes row completedAt (execute (intentOf row)).result outcome final) :
      Settles u before after cutoff completedAt execute (.ok outcome)
  | stranded {row : TransferRecord} {mid : Database} {error : Error}
      (hclaims : Claims u before mid cutoff row)
      (hreplaces : Replaces before after row (claimedRow row cutoff))
      (hstranding : Stranding u mid cutoff completedAt row (execute (intentOf row))) :
      Settles u before after cutoff completedAt execute (.error error)

/-- The transfer is running. -/
def IsRunning (db : Database) (key : Uuid) : Prop :=
  (db.transfers.lookup key).map (·.phase) = some .running

instance {db : Database} {key : Uuid} : Decidable (IsRunning db key) :=
  inferInstanceAs (Decidable (_ = _))

theorem Disposes.not_running {row final : TransferRecord} {completedAt : ℕ}
    {result : Except ExecutionFailure VerifiedTransfer} {outcome : WorkOutcome}
    (h : Disposes row completedAt result outcome final) : final.phase ≠ .running := by
  intro hrunning
  cases h with
  | completed _ _ _ hphase => cases hrunning.symm.trans hphase
  | mismatched _ hphase => cases hrunning.symm.trans hphase
  | unknown _ hphase => cases hrunning.symm.trans hphase
  | auth _ hphase => cases hrunning.symm.trans hphase
  | offline _ hphase => cases hrunning.symm.trans hphase
  | retry _ hphase => cases hrunning.symm.trans hphase

section Run

variable {u : Unicode} {worker : Worker} {cutoff clock : ℕ}
  {execute : TransferIntent → ExecutorRun}

/-- A claimed transfer, from the intent on. -/
theorem settles_work {before mid : Database} {row : TransferRecord}
    (hclaims : Claims u before mid cutoff row) (required : Option Uuid) :
    Settles u before (exec (work u cutoff clock execute (some (intentOf row)))
        ⟨mid, required⟩).2.store cutoff (max clock cutoff) execute
      (exec (work u cutoff clock execute (some (intentOf row))) ⟨mid, required⟩).1 := by
  obtain ⟨gateError, db, hgate⟩ : ∃ gateError db, exec (runGate u row.operationId cutoff
      (execute (intentOf row)).gateCalls none) mid = (.ok gateError, db) := exec_runGate _ none mid
  have hsame : SameTransfers mid db :=
    sameTransfers_of_touches (keeps_runGate.of_exec hgate) hclaims.replaces.after
  have hwork : exec (work u cutoff clock execute (some (intentOf row))) ⟨mid, required⟩ =
      exec (lift (gateResult gateError) >>= fun _ =>
        settle u (intentOf row) (max clock cutoff) (execute (intentOf row)).result)
          ⟨db, required⟩ := exec_viaStore_bind hgate
  rw [hwork, exec_bind, exec_lift]
  cases gateError with
  | some e =>
      exact .stranded hclaims (hclaims.replaces.same hsame) (.gate e (by rw [hgate]))
  | none =>
      show Settles u before (exec (settle u (intentOf row) (max clock cutoff)
        (execute (intentOf row)).result) ⟨db, required⟩).2.store cutoff (max clock cutoff) execute
        (exec (settle u (intentOf row) (max clock cutoff) (execute (intentOf row)).result)
          ⟨db, required⟩).1
      have hclaimed : Claimed u (⟨db, required⟩ : Worker).store cutoff (max clock cutoff) row :=
        ⟨(hsame _).trans hclaims.replaces.after, hclaims.valid, hclaims.fits, le_max_right _ _⟩
      rcases settledOr_settle hclaimed (execute (intentOf row)).result with
        ⟨outcome, final, hok, hdisposes, hreplaces⟩ | ⟨⟨error, herror⟩, hstore, hreason⟩
      · rw [hok]
        exact .settled hclaims.waiting hclaims.due
          ((hclaims.replaces.same hsame).trans hreplaces rfl) hdisposes
      · rw [herror]
        refine .stranded hclaims ?_ ?_
        · rw [hstore]
          exact hclaims.replaces.same hsame
        · rcases hreason with hclock | htime | ⟨verified, e, hresult, hmatches, hrefused⟩
          · exact .clock hclock
          · exact .time htime
          · exact .evidence verified db e hresult hmatches hgate hrefused

theorem run_settles : Settles u worker.store
    (exec (runOnceWithCompletionClock u cutoff clock execute) worker).2.store cutoff
    (max clock cutoff) execute
    (exec (runOnceWithCompletionClock u cutoff clock execute) worker).1 := by
  rw [runOnceWithCompletionClock, exec_bind, exec_read]
  show Settles u worker.store (exec (if worker.authRefreshRequired.isSome = true then pure .idle
    else viaStore (claimDue u cutoff) >>= work u cutoff clock execute) worker).2.store cutoff
    (max clock cutoff) execute (exec (if worker.authRefreshRequired.isSome = true then pure .idle
    else viaStore (claimDue u cutoff) >>= work u cutoff clock execute) worker).1
  by_cases hlatched : worker.authRefreshRequired.isSome = true
  · -- the token has expired
    rw [if_pos hlatched]
    refine .unchanged (SameTransfers.refl _) fun outcome hok => ?_
    exact (Except.ok.inj hok).symm
  · rw [if_neg hlatched]
    cases hclaim : exec (claimNextTransfer u cutoff) worker.store with
    | mk result mid =>
        cases result with
        | error e =>
            have hdue : exec (claimDue u cutoff) worker.store = (.error .store, mid) := by
              rw [claimDue, exec_bind, exec_onStore, hclaim]
            rw [exec_viaStore_bind_of_error hdue, eq_of_claim_error hclaim]
            exact .unchanged (SameTransfers.refl _) nofun
        | ok claimed =>
            have hdue : exec (claimDue u cutoff) worker.store =
                exec (checkedIntent claimed) mid := by
              rw [claimDue, exec_bind, exec_onStore, hclaim]
            cases claimed with
            | none =>
                rw [exec_viaStore_bind hdue, eq_of_claim_none hclaim]
                refine .unchanged (SameTransfers.refl _) fun outcome hok => ?_
                exact (Except.ok.inj hok).symm
            | some claimed =>
                obtain ⟨row, rfl, hclaims⟩ := claims_of_exec hclaim
                rw [checkedIntent, exec_bind, exec_lift] at hdue
                cases hintent : (intentOf (claimedRow row cutoff)).validate with
                | error e =>
                    rw [hintent] at hdue
                    rw [exec_viaStore_bind_of_error hdue]
                    refine .stranded hclaims hclaims.replaces (.intent fun hok => ?_)
                    have hrow : (intentOf row).validate = .error e := hintent
                    rw [hrow] at hok
                    cases hok
                | ok v =>
                    rw [hintent] at hdue
                    rw [exec_viaStore_bind hdue]
                    exact settles_work hclaims worker.authRefreshRequired

/-- **A run that returns `Ok` leaves nothing running that was not, and every run settles
the transfer it claims or leaves the claim alone, for a reason.** -/
theorem worker_settles (u : Unicode) (worker : Worker) (cutoff clock : ℕ)
    (execute : TransferIntent → ExecutorRun) :
    (∀ outcome, (exec (runOnceWithCompletionClock u cutoff clock execute) worker).1 = .ok outcome →
      ∀ key, IsRunning (exec (runOnceWithCompletionClock u cutoff clock execute) worker).2.store
        key → IsRunning worker.store key) ∧
    Settles u worker.store
      (exec (runOnceWithCompletionClock u cutoff clock execute) worker).2.store cutoff
      (max clock cutoff) execute
      (exec (runOnceWithCompletionClock u cutoff clock execute) worker).1 := by
  refine ⟨fun outcome hok key hrunning => ?_, run_settles⟩
  have hsettles : Settles u worker.store _ cutoff (max clock cutoff) execute _ := run_settles
  rw [hok] at hsettles
  cases hsettles with
  | unchanged hsame _ =>
      rwa [IsRunning, ← hsame key]
  | @settled row final _ _ _ hreplaces hdisposes =>
      by_cases hkey : key = row.operationId
      · rw [hkey, IsRunning, hreplaces.after, Option.map_some, Option.some.injEq] at hrunning
        exact absurd hrunning hdisposes.not_running
      · rwa [IsRunning, ← hreplaces.others key hkey]

end Run

/-! ## A claim that stands alone -/

/-- A download that waits. -/
def sampleTransfer (byteLength : ℕ) : TransferRecord where
  operationId := sampleVaultId
  direction := .download
  portablePath := "note.md"
  remoteParentId := "remote-root"
  remoteFileId := some "file"
  displayName := "note.md"
  expectedLocalRevision := none
  expectedRemoteRevision := none
  sha256 := String.ofList (List.replicate 64 'a')
  byteLength := byteLength
  mimeClass := .markdown
  operationMarker := "marker"
  stageReference := none
  baseReference := none
  phase := .pending
  attemptCount := 0
  nextAttemptAtUnixMs := 2
  createdAtUnixMs := 2
  updatedAtUnixMs := 2
  lastErrorCode := none
  verifiedLocalRevision := none
  verifiedRemoteRevision := none

/-- A worker over a bound vault with one transfer. -/
def sampleWorker (byteLength : ℕ) : Worker where
  store := runStore Unicode.ascii constantDigest sampleVaultId
    (bindRun ++ [.registerTransfer (sampleTransfer byteLength)])
  authRefreshRequired := none

/-- An executor whose credential has expired. -/
def expiredExecutor (_ : TransferIntent) : ExecutorRun where
  gateCalls := 0
  result := .error ⟨.authRequired, "auth_expired", none, by decide⟩

/-- The store takes a transfer that is larger than the worker's limit; the worker claims it
and returns.  And a transfer whose credential has expired is not due again by itself. -/
theorem oversized_transfer_stranded :
    (¬ IsRunning (sampleWorker (maxTransferBytes + 1)).store sampleVaultId ∧
      IsRunning (exec (runOnceWithCompletionClock Unicode.ascii 5 5 expiredExecutor)
        (sampleWorker (maxTransferBytes + 1))).2.store sampleVaultId) ∧
    ((exec (runOnceWithCompletionClock Unicode.ascii 5 5 expiredExecutor)
        (sampleWorker 7)).2.store.transfers.lookup sampleVaultId).map
      (fun row => (row.phase, row.nextAttemptAtUnixMs)) = some (.authRequired, 2) := by
  refine ⟨⟨?_, ?_⟩, ?_⟩
  · decide +kernel
  · decide +kernel
  · decide +kernel

end Transfer
end MyVault
