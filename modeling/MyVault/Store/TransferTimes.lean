import MyVault.Store.TransferMoves

/-!
# The rows of the transfers stay valid

`ValidTransfer` is what a load checks of a row.  Every operation compares its clock
with the row before it writes one, `claim_next_transfer` alone does not; and a
counted retry can pass the bound of the attempt counter.  `InTime` is the condition
on a call that neither happens; in a run of such calls every row stays valid and its
`updated_at` never decreases.

## How the argument goes

* `ValidTransfer` lists the checks of `row_to_transfer` and `TransferRecord::validate`, so that a
  row that has them is loaded as it is.
* `Advances` says what a call does to a row: its time does not decrease, and it stays valid.  Most
  of the writes compare the two times themselves; of the claim it has to be assumed.
* `IsNextDue` is the row a claim takes, so the condition on its clock is about the state before
  the call.
* `transfers_stay_valid`: the rows after every call of a run, and along it.

Where the clock has stepped back behind the creation of the row, the claim writes a time before
it, and no load accepts the row again (`claim_steps_back`).
-/

namespace MyVault
namespace Store

open Check Program

/-! ## What a load checks -/

/-- The checks of `row_to_transfer` and of `TransferRecord::validate`. -/
structure ValidTransfer (u : Unicode) (row : TransferRecord) : Prop where
  attempts : row.attemptCount < 2 ^ 32
  operationId : row.operationId.isNil = false
  path : isContentPath u row.portablePath = true
  displayName : row.displayName.toList = displayNameOf row.portablePath
  parent : isRemoteId row.remoteParentId = true
  remoteFile : ∀ remoteId ∈ row.remoteFileId, isRemoteId remoteId = true
  download : row.direction = .download → row.remoteFileId ≠ none
  upload : row.direction = .upload →
    row.expectedLocalRevision ≠ none ∧ row.stageReference ≠ none
  expectedLocal : ∀ revision ∈ row.expectedLocalRevision, isLowerHex64 revision = true
  expectedRemote : ∀ revision ∈ row.expectedRemoteRevision, isRemoteId revision = true
  digest : isLowerHex64 row.sha256 = true
  marker : isRemoteId row.operationMarker = true
  stage : ∀ reference ∈ row.stageReference, isPrivateReference reference = true
  base : ∀ reference ∈ row.baseReference, isPrivateReference reference = true
  lastError : ∀ code ∈ row.lastErrorCode, isRedactedCode code = true
  verifiedLocal : ∀ revision ∈ row.verifiedLocalRevision, isLowerHex64 revision = true
  verifiedRemote : ∀ revision ∈ row.verifiedRemoteRevision, isRemoteId revision = true
  byteLength : fitsI64 row.byteLength = true
  nextAttempt : fitsI64 row.nextAttemptAtUnixMs = true
  created : fitsI64 row.createdAtUnixMs = true
  updated : fitsI64 row.updatedAtUnixMs = true
  order : row.createdAtUnixMs ≤ row.updatedAtUnixMs
  completed : row.phase = .completed → row.remoteFileId ≠ none ∧ row.baseReference ≠ none ∧
    row.verifiedLocalRevision ≠ none ∧ row.verifiedRemoteRevision ≠ none

theorem checkTransferRow_eq_ok {u : Unicode} {row : TransferRecord} :
    checkTransferRow u row = .ok () ↔ ValidTransfer u row := by
  simp only [checkTransferRow, TransferRecord.validate, seq_eq_ok, reject_eq_ok, eachSome_eq_ok,
    validateContentPath_eq_ok, validateRemoteId_eq_ok, validateRevision_eq_ok,
    validateRedactedCode_eq_ok, validatePrivateReference_eq_ok, u64ToI64_eq_ok,
    List.mem_cons, List.not_mem_nil, or_false, not_le, not_and, not_or,
    not_lt, Bool.not_eq_true, Decidable.not_not, Ne]
  constructor
  · rintro ⟨attempts, operationId, path, displayName, parent, remoteFile, download, upload,
      expectedLocal, expectedRemote, digest, marker, references, lastError, verifiedLocal,
      verifiedRemote, byteLength, nextAttempt, created, updated, order, completed⟩
    exact
      { attempts, operationId, path, displayName, parent, download, upload, digest, marker,
        byteLength, nextAttempt, created, updated, order, completed
        remoteFile := fun remoteId h => remoteFile remoteId h.symm
        expectedLocal := fun revision h => expectedLocal revision h.symm
        expectedRemote := fun revision h => expectedRemote revision h.symm
        stage := fun reference h => references reference (Or.inl h.symm)
        base := fun reference h => references reference (Or.inr h.symm)
        lastError := fun code h => lastError code h.symm
        verifiedLocal := fun revision h => verifiedLocal revision h.symm
        verifiedRemote := fun revision h => verifiedRemote revision h.symm }
  · rintro h
    refine ⟨h.attempts, h.operationId, h.path, h.displayName, h.parent,
      fun remoteId heq => h.remoteFile remoteId heq.symm, h.download, h.upload,
      fun revision heq => h.expectedLocal revision heq.symm,
      fun revision heq => h.expectedRemote revision heq.symm, h.digest, h.marker, ?_,
      fun code heq => h.lastError code heq.symm,
      fun revision heq => h.verifiedLocal revision heq.symm,
      fun revision heq => h.verifiedRemote revision heq.symm, h.byteLength, h.nextAttempt,
      h.created, h.updated, h.order, h.completed⟩
    rintro reference (heq | heq)
    · exact h.stage reference heq.symm
    · exact h.base reference heq.symm

/-! ## Calls in time -/

/-- The transfer a claim takes: of those that are due, the oldest. -/
structure IsNextDue (db : Database) (now : ℕ) (row : TransferRecord) : Prop where
  mem : row ∈ db.transfers
  waiting : row.isWaiting = true
  due : row.nextAttemptAtUnixMs ≤ now
  oldest : ∀ other ∈ db.transfers, other.isWaiting = true → other.nextAttemptAtUnixMs ≤ now →
    createdBefore row.createdAtUnixMs other.createdAtUnixMs row.operationId
      other.operationId = true

/-- The operation schedules a retry of the transfer and counts it. -/
def CountsAttempt (row : TransferRecord) : Operation → Prop
  | .scheduleTransferRetry operationId next code updatedAt =>
      row.operationId = operationId ∧ fitsI64 next = true ∧ isRedactedCode code = true ∧
        fitsI64 updatedAt = true ∧ (row.isOpen || row.phase == .authRequired) = true ∧
        row.updatedAtUnixMs ≤ updatedAt
  | .resumeAuthRequiredTransfers now =>
      fitsI64 now = true ∧ row.phase = .authRequired ∧ row.updatedAtUnixMs ≤ now
  | .requeueTransferForReconciliation operationId now =>
      row.operationId = operationId ∧ fitsI64 now = true ∧ row.phase = .needsReconcile ∧
        row.updatedAtUnixMs ≤ now
  | _ => False

/-- The clock of a claim is not behind the row it takes, and the attempts of a row that
is counted again still fit. -/
structure InTime (db : Database) (op : Operation) : Prop where
  clock : ∀ now, op = .claimNextTransfer now → fitsI64 now = true →
    ∀ row, IsNextDue db now row → row.updatedAtUnixMs ≤ now
  attempts : ∀ row ∈ db.transfers, CountsAttempt row op → row.attemptCount + 1 < 2 ^ 32

theorem isNextDue_of_dueTransfer {db : Database} {now : ℕ} {row : TransferRecord}
    (h : dueTransfer now db = some row) : IsNextDue db now row := by
  obtain ⟨hmem, hwaiting, hdue⟩ := dueTransfer_eq_some h
  refine ⟨hmem, hwaiting, hdue, fun other hother hotherWaiting hotherDue => ?_⟩
  let older : TransferRecord → TransferRecord → Prop := fun a b =>
    createdBefore a.createdAtUnixMs b.createdAtUnixMs a.operationId b.operationId = true
  have htotal : Std.Total older := ⟨fun a b => createdBefore_total _ _ _ _⟩
  have htrans : IsTrans TransferRecord older := ⟨fun a b c => createdBefore_trans⟩
  have hsorted := List.pairwise_insertionSort older (db.transfers.rows.filter fun row =>
    row.isWaiting && decide (row.nextAttemptAtUnixMs ≤ now))
  have hcandidate : other ∈ (db.transfers.rows.filter fun row =>
      row.isWaiting && decide (row.nextAttemptAtUnixMs ≤ now)).insertionSort older := by
    rw [List.mem_insertionSort, List.mem_filter, hotherWaiting, decide_eq_true hotherDue]
    exact ⟨hother, rfl⟩
  obtain ⟨rest, hrest⟩ := List.head?_eq_some_iff.mp h
  have hlist : (db.transfers.rows.filter fun row =>
      row.isWaiting && decide (row.nextAttemptAtUnixMs ≤ now)).insertionSort older =
        row :: rest := hrest
  rw [hlist, List.pairwise_cons] at hsorted
  rw [hlist, List.mem_cons] at hcandidate
  rcases hcandidate with rfl | hlater
  · exact (createdBefore_total _ _ _ _).elim id id
  · exact hsorted.1 other hlater

/-! ## One step -/

section Step

variable {u : Unicode} {sha256 : Sha256} {vaultId : Uuid} {db : Database} {key : Uuid}
  {op : Operation}

theorem forall_mem_some {p : String → Prop} {value : String} (h : p value) :
    ∀ other ∈ some value, p other := fun _ hother => Option.mem_some.mp hother ▸ h

/-- A row and what becomes of it. -/
structure Advances (u : Unicode) (row row' : TransferRecord) : Prop where
  updated : row.updatedAtUnixMs ≤ row'.updatedAtUnixMs
  valid : ValidTransfer u row → ValidTransfer u row'

theorem advances_retry {row : TransferRecord} {next updatedAt : ℕ} {code : String}
    (hattempts : row.attemptCount + 1 < 2 ^ 32) (hnext : fitsI64 next = true)
    (hcode : isRedactedCode code = true) (hupdated : fitsI64 updatedAt = true)
    (htime : row.updatedAtUnixMs ≤ updatedAt) :
    Advances u row { row with
      phase := .retryScheduled
      attemptCount := row.attemptCount + 1
      nextAttemptAtUnixMs := next
      updatedAtUnixMs := updatedAt
      lastErrorCode := some code } where
  updated := htime
  valid h :=
    { h with
      attempts := hattempts
      nextAttempt := hnext
      updated := hupdated
      order := h.order.trans htime
      lastError := forall_mem_some hcode
      completed := nofun }

theorem advances_complete {row : TransferRecord} {completion : TransferCompletion}
    (hvalid : completion.validate = .ok ())
    (hexpected : isExpectedCompletion row completion = true) :
    Advances u row (row.complete completion) := by
  simp only [TransferCompletion.validate, seq_eq_ok, validateRemoteId_eq_ok,
    validateRevision_eq_ok, validatePrivateReference_eq_ok, u64ToI64_eq_ok] at hvalid
  obtain ⟨hfile, hremote, hlocal, hbase, -, htime⟩ := hvalid
  have hupdated : row.updatedAtUnixMs ≤ completion.occurredAtUnixMs :=
    (isOpen_of_isExpectedCompletion hexpected).2
  refine ⟨hupdated, fun h => ?_⟩
  exact
    { h with
      remoteFile := forall_mem_some hfile
      download := nofun
      base := forall_mem_some hbase
      lastError := nofun
      verifiedLocal := forall_mem_some hlocal
      verifiedRemote := forall_mem_some hremote
      nextAttempt := htime
      updated := htime
      order := h.order.trans hupdated
      completed := fun _ => ⟨nofun, nofun, nofun, nofun⟩ }

/-- A call in time advances every row. -/
theorem advances_of_transferStep {row : TransferRecord} {history : Option HistoryRow}
    {view : TransferView} (h : TransferStep u db key op (some row, history) view)
    (hrow : row ∈ db.transfers) (hid : row.operationId = key) (hin : InTime db op) :
    ∃ row' history', view = (some row', history') ∧ Advances u row row' := by
  cases h with
  | same => exact ⟨row, history, rfl, Nat.le_refl _, id⟩
  | claimed hnow hdue hwaiting =>
      have htime := hin.clock _ rfl hnow row (isNextDue_of_dueTransfer hdue)
      refine ⟨_, _, rfl, htime, fun hvalid => ?_⟩
      exact { hvalid with
        updated := hnow, order := hvalid.order.trans htime, completed := nofun }
  | retried hnext hcode hupdated hphase htime =>
      have hattempts := hin.attempts row hrow ⟨hid, hnext, hcode, hupdated, hphase, htime⟩
      exact ⟨_, _, rfl, advances_retry hattempts hnext hcode hupdated htime⟩
  | paused hnext hcode hupdated hphase htime =>
      refine ⟨_, _, rfl, htime, fun hvalid => ?_⟩
      exact { hvalid with
        nextAttempt := hnext, updated := hupdated, order := hvalid.order.trans htime
        lastError := forall_mem_some hcode, completed := nofun }
  | stopped htarget hcode hupdated hphase htime =>
      refine ⟨_, _, rfl, htime, fun hvalid => ?_⟩
      refine { hvalid with
        updated := hupdated, order := hvalid.order.trans htime
        lastError := forall_mem_some hcode, completed := fun hcompleted => ?_ }
      rcases htarget with rfl | rfl
      · cases hcompleted
      · cases hcompleted
  | resumed hnow hphase htime =>
      have hattempts := hin.attempts row hrow ⟨hnow, hphase, htime⟩
      exact ⟨_, _, rfl, advances_retry hattempts hnow (by decide) hnow htime⟩
  | requeued hnow hphase htime =>
      have hattempts := hin.attempts row hrow ⟨hid, hnow, hphase, htime⟩
      exact ⟨_, _, rfl, advances_retry hattempts hnow (by decide) hnow htime⟩
  | based hreference hupdated hopen hnone htime =>
      refine ⟨_, _, rfl, htime, fun hvalid => ?_⟩
      exact { hvalid with
        base := forall_mem_some hreference, updated := hupdated
        order := hvalid.order.trans htime
        completed := fun hcompleted => absurd hcompleted (phase_of_isOpen hopen) }
  | completed hvalid hexpected hcode htime =>
      exact ⟨_, _, rfl, advances_complete hvalid hexpected⟩
  | touched hnow hopen htime =>
      refine ⟨_, _, rfl, htime, fun hvalid => ?_⟩
      exact { hvalid with updated := hnow, order := hvalid.order.trans htime }
  | interrupted hphase =>
      refine ⟨_, _, rfl, Nat.le_refl _, fun hvalid => ?_⟩
      exact { hvalid with lastError := forall_mem_some (by decide), completed := nofun }

/-- A row that was not there has passed the checks of a registration. -/
theorem valid_of_transferStep {row : TransferRecord} {history history' : Option HistoryRow}
    (h : TransferStep u db key op (none, history) (some row, history')) : ValidTransfer u row := by
  cases h with
  | registered hvalid =>
      obtain ⟨hchecked, -, hattempts, -⟩ := validateNewTransfer_eq_ok.mp hvalid
      refine checkTransferRow_eq_ok.mp ?_
      rw [checkTransferRow, seq_eq_ok, reject_eq_ok, hattempts]
      exact ⟨by decide, hchecked⟩

/-- The row of a transfer after a call in time. -/
theorem exists_advances (op : Operation) (hin : InTime db op) {row : TransferRecord}
    (hrow : row ∈ db.transfers) : ∃ row' ∈ (step u sha256 vaultId db op).transfers,
      row'.operationId = row.operationId ∧ Advances u row row' := by
  have hstep := transferStep u sha256 vaultId db op row.operationId
  rw [Database.transferView, Table.lookup_eq_some_iff.mpr ⟨hrow, rfl⟩] at hstep
  obtain ⟨row', history', hview, hadvances⟩ := advances_of_transferStep hstep hrow rfl hin
  obtain ⟨hmem, hid⟩ := Table.lookup_eq_some_iff.mp (congrArg Prod.fst hview)
  exact ⟨row', hmem, hid, hadvances⟩

/-- Every row passes the checks of a load. -/
def TransfersAreValid (u : Unicode) (db : Database) : Prop :=
  ∀ row ∈ db.transfers, ValidTransfer u row

theorem transfersAreValid_step (h : TransfersAreValid u db) (hin : InTime db op) :
    TransfersAreValid u (step u sha256 vaultId db op) := by
  intro row' hrow'
  have hnew := Table.lookup_eq_some_iff.mpr ⟨hrow', rfl⟩
  have hstep := transferStep u sha256 vaultId db op row'.operationId
  cases hold : db.transfers.lookup row'.operationId with
  | none =>
      rw [Database.transferView, Database.transferView, hold, hnew] at hstep
      exact valid_of_transferStep hstep
  | some row =>
      obtain ⟨hrow, hid⟩ := Table.lookup_eq_some_iff.mp hold
      rw [Database.transferView, hold] at hstep
      obtain ⟨next, history', hview, hadvances⟩ := advances_of_transferStep hstep hrow hid hin
      have heq : next = row' := Option.some.inj ((congrArg Prod.fst hview).symm.trans hnew)
      exact heq ▸ hadvances.valid (h row hrow)

end Step

/-! ## Runs -/

section Runs

variable {u : Unicode} {sha256 : Sha256} {vaultId : Uuid} {db : Database}

/-- A row stays, and its time does not go back. -/
theorem exists_later_row {ops : List Operation}
    (h : Runs.Meets (step u sha256 vaultId) InTime db ops) {row : TransferRecord}
    (hrow : row ∈ db.transfers) :
    ∃ row' ∈ (Runs.run (step u sha256 vaultId) db ops).transfers,
      row'.operationId = row.operationId ∧ row.updatedAtUnixMs ≤ row'.updatedAtUnixMs := by
  induction ops generalizing db row with
  | nil => exact ⟨row, hrow, rfl, Nat.le_refl _⟩
  | cons op ops ih =>
      obtain ⟨mid, hmid, hid, hadvances⟩ := exists_advances op h.1 hrow
      obtain ⟨row', hrow', hid', hle⟩ := ih h.2 hmid
      exact ⟨row', hrow', hid'.trans hid, hadvances.updated.trans hle⟩

theorem transfersAreValid_run {ops : List Operation}
    (h : Runs.Meets (step u sha256 vaultId) InTime Database.empty ops) :
    TransfersAreValid u (runStore u sha256 vaultId ops) := by
  have hempty : TransfersAreValid u Database.empty := fun _ h => absurd h List.not_mem_nil
  exact Runs.run_induction_of_meets (fun _ _ hdb hin => transfersAreValid_step hdb hin) hempty h

variable (u sha256 vaultId)

/-- **In a run of calls in time, every row of a transfer can be loaded after every call,
and its time never decreases.** -/
theorem transfers_stay_valid (ops : List Operation)
    (h : Runs.Meets (step u sha256 vaultId) InTime Database.empty ops) :
    (∀ mid, mid <+: ops → ∀ row ∈ (runStore u sha256 vaultId mid).transfers,
      checkTransferRow u row = .ok () ∧
        exec (loadTransfer u row.operationId) (runStore u sha256 vaultId mid) =
          (.ok (some row), runStore u sha256 vaultId mid)) ∧
      ∀ pre mid, pre <+: mid → mid <+: ops → ∀ row ∈ (runStore u sha256 vaultId pre).transfers,
        ∃ row' ∈ (runStore u sha256 vaultId mid).transfers,
          row'.operationId = row.operationId ∧ row.updatedAtUnixMs ≤ row'.updatedAtUnixMs := by
  constructor
  · rintro mid ⟨rest, rfl⟩ row hrow
    have hvalid := transfersAreValid_run (Runs.meets_append.mp h).1 row hrow
    have hcheck := checkTransferRow_eq_ok.mpr hvalid
    refine ⟨hcheck, exec_loadTransfer_ok.mpr ⟨?_, ?_, rfl⟩⟩
    · exact Table.lookup_eq_some_iff.mpr ⟨hrow, rfl⟩
    · rw [Option.toList_some, each_eq_ok]
      exact List.forall_mem_singleton.mpr hcheck
  · rintro pre mid ⟨later, rfl⟩ ⟨rest, rfl⟩ row hrow
    have hlater := (Runs.meets_append.mp (Runs.meets_append.mp h).1).2
    rw [runStore, Runs.run_append]
    exact exists_later_row hlater hrow

end Runs

/-! ## A clock that steps back -/

theorem length_uploadId :
    ([1, 1, 1, 1, 1, 1, 0x41, 1, 0x81, 1, 1, 1, 1, 1, 1, 1] : List UInt8).length = 16 := rfl

/-- The operation of an upload. -/
def uploadId : Uuid := ⟨[1, 1, 1, 1, 1, 1, 0x41, 1, 0x81, 1, 1, 1, 1, 1, 1, 1], length_uploadId⟩

/-- The upload of a note, as `TransferRecord::new` makes it. -/
def noteUpload : TransferRecord where
  operationId := uploadId
  direction := .upload
  portablePath := "note.md"
  remoteParentId := "remote-root"
  remoteFileId := none
  displayName := "note.md"
  expectedLocalRevision := some (String.ofList (List.replicate 64 'a'))
  expectedRemoteRevision := none
  sha256 := String.ofList (List.replicate 64 'b')
  byteLength := 42
  mimeClass := .markdown
  operationMarker := "marker"
  stageReference := some "stage.note"
  baseReference := none
  phase := .pending
  attemptCount := 0
  nextAttemptAtUnixMs := 100
  createdAtUnixMs := 100
  updatedAtUnixMs := 100
  lastErrorCode := none
  verifiedLocalRevision := none
  verifiedRemoteRevision := none

/-- Binds the vault and registers the upload. -/
def registeredRun : List Operation :=
  [.bindRemoteRoot "account" "remote-root" "account" "remote-root" 1,
    .registerTransfer noteUpload]

/-- Claims the upload. -/
def uploadRun : List Operation := registeredRun ++ [.claimNextTransfer 100]

theorem uploadRun_inTime : Runs.Meets (step Unicode.ascii constantDigest sampleVaultId) InTime
    Database.empty uploadRun := by
  have htimes : ∀ row ∈ (runStore Unicode.ascii constantDigest sampleVaultId
      registeredRun).transfers.rows, row.updatedAtUnixMs ≤ 100 := by
    decide +kernel
  refine Runs.meets_append.mpr ⟨⟨⟨nofun, fun _ _ => False.elim⟩, ⟨nofun, fun _ _ => False.elim⟩,
    trivial⟩, ⟨fun now hop _ row hnext => ?_, fun _ _ => False.elim⟩, trivial⟩
  cases hop
  exact htimes row hnext.mem

theorem transfers_stay_valid_upload :
    (∃ row ∈ (runStore Unicode.ascii constantDigest sampleVaultId uploadRun).transfers,
      row.phase = .running ∧ checkTransferRow Unicode.ascii row = .ok ()) ∧
      ∃ row ∈ (runStore Unicode.ascii constantDigest sampleVaultId uploadRun).transfers,
        row.operationId = uploadId ∧ 100 ≤ row.updatedAtUnixMs := by
  obtain ⟨hvalid, hlater⟩ := transfers_stay_valid Unicode.ascii constantDigest sampleVaultId
    uploadRun uploadRun_inTime
  have hrow : { noteUpload with phase := .running } ∈
      (runStore Unicode.ascii constantDigest sampleVaultId uploadRun).transfers.rows := by
    decide +kernel
  have hregistered : noteUpload ∈ (runStore Unicode.ascii constantDigest sampleVaultId
      registeredRun).transfers.rows := by
    decide +kernel
  constructor
  · exact ⟨_, hrow, rfl, (hvalid uploadRun List.prefix_rfl _ hrow).1⟩
  · exact hlater _ uploadRun ⟨[.claimNextTransfer 100], rfl⟩ List.prefix_rfl _ hregistered

/-- A retry scheduled in the past is claimed by a clock that has stepped back: the row
the claim writes is older than its creation, and no load accepts it any more. -/
theorem claim_steps_back :
    ∃ row row', (runStore Unicode.ascii constantDigest sampleVaultId
        (uploadRun ++ [.scheduleTransferRetry uploadId 0 "offline" 100])).transfers.lookup
          uploadId = some row ∧
      (runStore Unicode.ascii constantDigest sampleVaultId
        (uploadRun ++ [.scheduleTransferRetry uploadId 0 "offline" 100,
          .claimNextTransfer 50])).transfers.lookup uploadId = some row' ∧
      checkTransferRow Unicode.ascii row = .ok () ∧
      row'.updatedAtUnixMs < row.updatedAtUnixMs ∧
      checkTransferRow Unicode.ascii row' = .error .invalidTransferEvidence := by
  refine ⟨{ noteUpload with
      phase := .retryScheduled, attemptCount := 1, nextAttemptAtUnixMs := 0
      lastErrorCode := some "offline" },
    { noteUpload with
      phase := .running, attemptCount := 1, nextAttemptAtUnixMs := 0, updatedAtUnixMs := 50
      lastErrorCode := some "offline" }, ?_, ?_, ?_, ?_, ?_⟩
  · decide +kernel
  · decide +kernel
  · decide +kernel
  · decide
  · decide +kernel

end Store
end MyVault
