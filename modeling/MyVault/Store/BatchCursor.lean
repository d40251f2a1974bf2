import MyVault.Store.Cursor

/-!
# The active batch and the cursor

A batch is begun on the durable cursor of a ready vault, and its commit asks for that
cursor again.  In between nothing may move the cursor: the scan and the drain need
another phase, a second binding changes nothing, and the commits and the abort end the
batch.  `mark_rescan_required` alone drops the cursor without a look at the batch.  So
the batch stays on its cursor exactly in the runs where no rescan is marked while a
batch is active (`batch_on_cursor`).

## How the argument goes

`Anchored` is the invariant: the vault has an account from its binding on (`NamesAccount`), and
under an active batch its row also passes the checks of a load.  `Anchored.step` carries it over
every operation that does not mark a rescan under a batch.

The row has to pass its checks for the converse: a rescan that is marked under a batch succeeds
then, and leaves the vault in another phase while the batch stays.  So the condition on the run is
not only enough.  The first call that violates it ends in a state in which the batch is not on the
cursor of a ready vault (`Anchored.rescansIdle`).
-/

namespace MyVault
namespace Store

open Check Program

/-- An active batch belongs to the current cursor of a ready vault. -/
def BatchOnCursor (db : Database) : Prop :=
  ∀ batch, db.changeBatch = some batch → ∃ state, db.vaultState = some state ∧
    state.phase = .ready ∧ state.durableCursor = some batch.expectedCursor

/-- No rescan is marked while a batch is active. -/
def RescansIdle (db : Database) (op : Operation) : Prop :=
  ∀ nowUnixMs, op = .markRescanRequired nowUnixMs → fitsI64 nowUnixMs = true →
    db.changeBatch = none

variable {db db' : Database}

/-! ## The account of the vault -/

/-- The vault has an account, once it is bound. -/
def NamesAccount (db : Database) : Prop := ∀ state ∈ db.vaultState, state.accountId.isSome = true

/-- The account is not lost. -/
def KeepsAccount (db db' : Database) : Prop := NamesAccount db → NamesAccount db'

instance : Std.Refl KeepsAccount := ⟨fun _ h => h⟩

instance : IsTrans Database KeepsAccount := ⟨fun _ _ _ hab hbc h => hbc (hab h)⟩

section Account

instance (priority := low) keepsAccount_of_onlyWrites {α : Type} {p : StoreProgram α}
    [h : Keeps (OnlyWrites [.remoteEntries, .scanFrontier, .changeBatch, .declaredMutations,
      .batchProgress]) p] : Keeps KeepsAccount p := by
  refine h.mono fun db db' hwrites haccount => ?_
  have hvault : db'.vaultState = db.vaultState := hwrites .vaultState (by decide)
  rwa [NamesAccount, hvault]

/-- An update of any columns but those of the binding. -/
instance keepsAccount_updateVaultState {phase : VaultSyncState → SyncPhase}
    {start scan changes durable : VaultSyncState → Option String}
    {rescan : VaultSyncState → Bool} {updatedAt : VaultSyncState → ℕ} :
    Keeps KeepsAccount (updateVaultState fun state =>
      { vaultId := state.vaultId
        accountId := state.accountId
        remoteRootId := state.remoteRootId
        phase := phase state
        startToken := start state
        scanPageToken := scan state
        changesPageToken := changes state
        durableCursor := durable state
        rescanRequired := rescan state
        updatedAtUnixMs := updatedAt state }) := by
  refine .write fun db haccount state hstate => ?_
  obtain ⟨old, hold, rfl⟩ := Option.map_eq_some_iff.mp hstate
  exact haccount old hold

instance {binding : VerifiedRemoteBinding} {vaultId : Uuid} {nowUnixMs : ℕ} :
    Keeps KeepsAccount (bindRemoteRoot vaultId binding nowUnixMs) := by
  have hconfirm : Keeps KeepsAccount (confirmLegacyBinding binding nowUnixMs) := by
    have hupdate : Keeps KeepsAccount (updateVaultState fun state =>
        if state.remoteRootId = binding.remoteRootId ∧ state.accountId = none then
          { state with
            accountId := some binding.accountId
            phase := .needStartToken
            startToken := none
            scanPageToken := none
            changesPageToken := none
            durableCursor := none
            rescanRequired := true
            updatedAtUnixMs := nowUnixMs }
        else state) := by
      refine .write fun db haccount state hstate => ?_
      obtain ⟨old, hold, rfl⟩ := Option.map_eq_some_iff.mp hstate
      split
      · rfl
      · exact haccount old hold
    unfold confirmLegacyBinding
    infer_instance
  have hover : ∀ state, Keeps KeepsAccount (bindOver vaultId binding nowUnixMs state) := by
    intro state
    cases state with
    | none =>
        have hnew : Keeps KeepsAccount (write fun db =>
            { db with vaultState := some (newVaultState vaultId binding nowUnixMs) } :
              StoreProgram Unit) := by
          refine .write fun db _ state hstate => ?_
          rw [← Option.some.inj hstate]
          rfl
        unfold bindOver
        infer_instance
    | some state =>
        unfold bindOver
        infer_instance
  unfold bindRemoteRoot
  infer_instance

set_option synthInstance.maxSize 100000 in
instance {vaultId : Uuid} {startToken : String} {nowUnixMs : ℕ} :
    Keeps KeepsAccount (beginInitialScan vaultId startToken nowUnixMs) := by
  unfold beginInitialScan
  infer_instance

set_option synthInstance.maxSize 100000 in
instance {u : Unicode} {vaultId : Uuid} {expectedPageToken : Option String} {page : ScanPage}
    {nowUnixMs : ℕ} : Keeps KeepsAccount (applyScanPage u vaultId expectedPageToken page
      nowUnixMs) := by
  have hfinish : ∀ state next, Keeps KeepsAccount (finishFolder state nowUnixMs next) := by
    intro state next
    cases next <;> unfold finishFolder <;> infer_instance
  have hadvance : ∀ state current next,
      Keeps KeepsAccount (advanceScan state current nowUnixMs next) := by
    intro state current next
    cases next <;> unfold advanceScan <;> infer_instance
  unfold applyScanPage
  infer_instance

set_option synthInstance.maxSize 100000 in
instance {u : Unicode} {vaultId : Uuid} {expectedCursor : String} {page : ChangesPage}
    {nowUnixMs : ℕ} : Keeps KeepsAccount (applyChangesPage u vaultId expectedCursor page
      nowUnixMs) := by
  have hchange : ∀ change, Keeps KeepsAccount (applyChange u change) := by
    intro change
    cases change <;> unfold applyChange <;> try unfold deleteRemoteEntry
    all_goals infer_instance
  have hadvance : ∀ next, Keeps KeepsAccount (advanceDrain page nowUnixMs next) := by
    intro next
    cases next <;> unfold advanceDrain <;> infer_instance
  unfold applyChangesPage
  infer_instance

instance {vaultId : Uuid} {nowUnixMs : ℕ} :
    Keeps KeepsAccount (markRescanRequired vaultId nowUnixMs) := by
  unfold markRescanRequired
  infer_instance

instance {batch : ChangeBatch} {nowUnixMs : ℕ} :
    Keeps KeepsAccount (finishBatch batch nowUnixMs) := by
  unfold finishBatch advanceCursor
  infer_instance

variable {u : Unicode} {sha256 : Sha256} {vaultId : Uuid}

theorem vaultState_of_writes {op : Operation} (h : Part.vaultState ∉ op.writes) :
    (step u sha256 vaultId db op).vaultState = db.vaultState :=
  step_content u sha256 vaultId db op h

set_option synthInstance.maxSize 100000 in
theorem namesAccount_step (op : Operation) (h : NamesAccount db) :
    NamesAccount (step u sha256 vaultId db op) := by
  have hsame : Part.vaultState ∉ op.writes → NamesAccount (step u sha256 vaultId db op) := by
    intro hwrites
    rwa [NamesAccount, vaultState_of_writes hwrites]
  have hkeeps : Keeps KeepsAccount (perform u sha256 vaultId op) →
      NamesAccount (step u sha256 vaultId db op) := fun hcall => hcall.exec_rel db h
  cases op
  case bindRemoteRoot | beginInitialScan | applyScanPage | applyChangesPage |
      markRescanRequired =>
    refine hkeeps ?_
    dsimp only [perform, replying, bindVerifiedRoot]
    infer_instance
  case commitR3ChangeBatch | commitChangeBatch | commitTransferChangeBatch =>
    refine hkeeps ?_
    dsimp only [perform, replying, commitR3ChangeBatch, commitChangeBatch,
      commitTransferChangeBatch, incompleteDependencyCount, incompleteMutationCount]
    infer_instance
  all_goals exact hsame (by simp [Operation.writes])

end Account

/-! ## The cursor of a batch -/

/-- What the beginning of a batch asks of the vault. -/
def OnCursor (vaultId : Uuid) (db : Database) (cursor : String) : Prop :=
  ∃ state, db.vaultState = some state ∧ checkStateRow vaultId state = .ok () ∧
    state.phase = .ready ∧ state.durableCursor = some cursor

theorem exec_requireState_ok {vaultId : Uuid} {state : VaultSyncState} :
    exec (requireState vaultId) db = (.ok state, db') ↔
      db.vaultState = some state ∧ checkStateRow vaultId state = .ok () ∧ db = db' := by
  simp only [requireState, loadState, exec_bind_ok, exec_read_ok, exec_lift_ok, exec_pure_ok,
    exec_the_ok]
  constructor
  · rintro ⟨_, _, ⟨_, _, ⟨rfl, rfl⟩, _, _, ⟨hcheck, rfl⟩, rfl, rfl⟩, hstate, rfl⟩
    rw [hstate, Option.toList_some, each_eq_ok] at hcheck
    exact ⟨hstate, hcheck state List.mem_cons_self, rfl⟩
  · rintro ⟨hstate, hcheck, rfl⟩
    refine ⟨_, _, ⟨_, _, ⟨rfl, rfl⟩, (), _, ⟨?_, rfl⟩, rfl, rfl⟩, hstate, rfl⟩
    rw [hstate, Option.toList_some, each_eq_ok]
    intro row hrow
    rw [List.mem_singleton.mp hrow]
    exact hcheck

theorem onCursor_of_requireCursor {vaultId : Uuid} {cursor : String} {v : Unit}
    (h : exec (requireCursor vaultId cursor) db = (.ok v, db')) : OnCursor vaultId db cursor := by
  simp only [requireCursor, exec_bind_ok, exec_requireState_ok, exec_reject_ok, not_or,
    Decidable.not_not] at h
  obtain ⟨state, _, ⟨hstate, hcheck, rfl⟩, ⟨hphase, hcursor⟩, -⟩ := h
  exact ⟨state, hstate, hcheck, hphase, hcursor⟩

section Calls

variable {u : Unicode} {sha256 : Sha256} {vaultId : Uuid}

/-- A batch is begun on the cursor of the vault. -/
theorem onCursor_of_declares {op : Operation} {batch : ChangeBatchRow}
    {rows : List BatchMutationRow} (hdeclares : op.declares = some (batch, rows))
    (h : Succeeds u sha256 vaultId db op) : OnCursor vaultId db batch.expectedCursor := by
  obtain ⟨reply, hok⟩ := h
  cases op <;> try cases hdeclares
  all_goals obtain ⟨_, hcall, -⟩ := exec_replying_ok.mp hok
  · simp only [beginChangeBatch, exec_bind_ok, exec_lift_ok, exec_reject_ok,
      exec_transaction_ok, exists_and_left, exists_eq_left', exists_const, and_assoc] at hcall
    obtain ⟨-, _, -, _, -, -, _, -, _, _, hcursor, -⟩ := hcall
    exact onCursor_of_requireCursor hcursor
  · simp only [beginTransferChangeBatch, exec_bind_ok, exec_lift_ok, exec_reject_ok,
      exec_transaction_ok, exec_read_ok, id, exists_and_left, exists_eq_left', exists_const,
      and_assoc] at hcall
    obtain ⟨-, _, -, _, -, -, _, -, _, -, _, _, hcursor, -⟩ := hcall
    exact onCursor_of_requireCursor hcursor
  · simp only [beginR3ChangeBatch, exec_bind_ok, exec_lift_ok, exec_reject_ok,
      exec_transaction_ok, exists_and_left, exists_eq_left', exists_const, and_assoc] at hcall
    obtain ⟨-, _, -, _, -, -, _, _, hcursor, -⟩ := hcall
    exact onCursor_of_requireCursor hcursor

/-- A bound vault is not bound again. -/
theorem vaultState_of_bindRemoteRoot {binding : VerifiedRemoteBinding} {nowUnixMs : ℕ}
    {outcome : BindOutcome} {state : VaultSyncState} (hstate : db.vaultState = some state)
    (haccount : state.accountId.isSome = true)
    (h : exec (bindRemoteRoot vaultId binding nowUnixMs) db = (.ok outcome, db')) :
    db'.vaultState = db.vaultState := by
  simp only [bindRemoteRoot, loadState, exec_bind_ok, exec_lift_ok, exec_transaction_ok,
    exec_read_ok, exec_pure_ok] at h
  obtain ⟨_, _, ⟨-, rfl⟩, row, _, ⟨_, _, ⟨hrow, rfl⟩, _, _, ⟨-, rfl⟩, rfl, rfl⟩, hover⟩ := h
  rw [hstate] at hrow
  rw [← hrow, bindOver, if_pos haccount] at hover
  simp only [exec_bind_ok, exec_reject_ok, exec_pure_ok] at hover
  obtain ⟨_, _, ⟨-, rfl⟩, _, _, ⟨-, rfl⟩, -, rfl⟩ := hover
  rfl

/-- The scan and the drain have phases of their own. -/
theorem phase_ne_ready_of_scan {op : Operation}
    (hop : (∃ token now, op = .beginInitialScan token now) ∨
      (∃ token page now, op = .applyScanPage token page now) ∨
      ∃ cursor page now, op = .applyChangesPage cursor page now)
    (h : Succeeds u sha256 vaultId db op) :
    ∃ state, db.vaultState = some state ∧ state.phase ≠ .ready := by
  obtain ⟨reply, hok⟩ := h
  rcases hop with ⟨token, now, rfl⟩ | ⟨token, page, now, rfl⟩ | ⟨cursor, page, now, rfl⟩
  all_goals obtain ⟨_, hcall, -⟩ := exec_replying_ok.mp hok
  · simp only [beginInitialScan, exec_bind_ok, exec_lift_ok, exec_transaction_ok,
      exec_requireState_ok, exec_reject_ok, Decidable.not_not, exists_and_left, exists_eq_left',
      exists_const, and_assoc] at hcall
    obtain ⟨_, -, _, -, state, hstate, -, hphase, -⟩ := hcall
    exact ⟨state, hstate, by rw [hphase]; decide⟩
  · simp only [applyScanPage, exec_bind_ok, exec_lift_ok, exec_transaction_ok,
      exec_requireState_ok, exec_reject_ok, Decidable.not_not, exists_and_left, exists_eq_left',
      exists_const, and_assoc] at hcall
    obtain ⟨_, -, _, -, _, -, state, hstate, -, hphase, -⟩ := hcall
    exact ⟨state, hstate, by rw [hphase]; decide⟩
  · simp only [applyChangesPage, exec_bind_ok, exec_lift_ok, exec_transaction_ok,
      exec_requireState_ok, exec_reject_ok, Decidable.not_not, exists_and_left, exists_eq_left',
      exists_const, and_assoc] at hcall
    obtain ⟨_, -, _, -, _, -, state, hstate, -, hphase, -⟩ := hcall
    exact ⟨state, hstate, by rw [hphase]; decide⟩

/-- A rescan that goes through drops the cursor, whatever batch is active. -/
theorem exec_markRescanRequired_ok {nowUnixMs : ℕ} {v : Unit} :
    exec (markRescanRequired vaultId nowUnixMs) db = (.ok v, db') ↔
      fitsI64 nowUnixMs = true ∧
      (∃ state, db.vaultState = some state ∧ checkStateRow vaultId state = .ok ()) ∧
      db' = { db with
        scanFrontier := .empty
        vaultState := db.vaultState.map fun state =>
          { state with
            phase := .needStartToken
            startToken := none
            scanPageToken := none
            changesPageToken := none
            durableCursor := none
            rescanRequired := true
            updatedAtUnixMs := nowUnixMs } } := by
  simp only [markRescanRequired, updateVaultState, exec_bind_ok, exec_lift_ok,
    exec_transaction_ok, exec_requireState_ok, exec_write_ok]
  constructor
  · rintro ⟨_, _, ⟨hfits, rfl⟩, state, _, ⟨hstate, hcheck, rfl⟩, _, _, rfl, rfl⟩
    exact ⟨u64ToI64_eq_ok.mp hfits, ⟨state, hstate, hcheck⟩, rfl⟩
  · rintro ⟨hfits, ⟨state, hstate, hcheck⟩, rfl⟩
    exact ⟨(), _, ⟨u64ToI64_eq_ok.mpr hfits, rfl⟩, state, _, ⟨hstate, hcheck, rfl⟩, (), _, rfl,
      rfl⟩

/-- While a batch is active, the vault stays as it is. -/
theorem vaultState_of_active {op : Operation} {batch : ChangeBatchRow} {cursor : String}
    (haccount : NamesAccount db) (hcursor : OnCursor vaultId db cursor)
    (hrescan : ∀ nowUnixMs, op ≠ .markRescanRequired nowUnixMs)
    (h : Succeeds u sha256 vaultId db op)
    (hactive : (step u sha256 vaultId db op).changeBatch = some batch) :
    (step u sha256 vaultId db op).vaultState = db.vaultState := by
  obtain ⟨state, hstate, -, hphase, -⟩ := hcursor
  have hscan : ∀ {P : Prop}, (∃ state, db.vaultState = some state ∧ state.phase ≠ .ready) → P := by
    rintro _ ⟨other, hother, hne⟩
    rw [hstate] at hother
    rw [← Option.some.inj hother] at hne
    exact absurd hphase hne
  have hcommit : op.IsCommit →
      (step u sha256 vaultId db op).vaultState = db.vaultState := by
    intro hop
    obtain ⟨ended, hcommits⟩ := commits_of_isCommit hop h
    rw [hcommits.gone] at hactive
    cases hactive
  have hok := h
  obtain ⟨reply, hcall⟩ := hok
  cases op
  case bindRemoteRoot account root observedAccount observedRoot now =>
    obtain ⟨_, hbind, -⟩ := exec_replying_ok.mp hcall
    simp only [bindVerifiedRoot, exec_bind_ok, exec_lift_ok] at hbind
    obtain ⟨_, _, ⟨-, rfl⟩, hbind⟩ := hbind
    exact vaultState_of_bindRemoteRoot hstate (haccount state hstate) hbind
  case beginInitialScan token now =>
    exact hscan (phase_ne_ready_of_scan (Or.inl ⟨token, now, rfl⟩) h)
  case applyScanPage token page now =>
    exact hscan (phase_ne_ready_of_scan (Or.inr (Or.inl ⟨token, page, now, rfl⟩)) h)
  case applyChangesPage cursor page now =>
    exact hscan (phase_ne_ready_of_scan (Or.inr (Or.inr ⟨cursor, page, now, rfl⟩)) h)
  case markRescanRequired now => exact absurd rfl (hrescan now)
  case commitR3ChangeBatch batchId now => exact hcommit (.r3 batchId now)
  case commitChangeBatch batchId now => exact hcommit (.legacy batchId now)
  case commitTransferChangeBatch batchId now => exact hcommit (.transfer batchId now)
  all_goals exact vaultState_of_writes (by simp [Operation.writes])

/-! ## Runs -/

/-- The vault is as the beginning of the active batch has found it. -/
structure Anchored (vaultId : Uuid) (db : Database) : Prop where
  account : NamesAccount db
  cursor : ∀ batch, db.changeBatch = some batch → OnCursor vaultId db batch.expectedCursor

theorem anchored_empty : Anchored vaultId Database.empty := ⟨nofun, nofun⟩

theorem Anchored.batchOnCursor (h : Anchored vaultId db) : BatchOnCursor db := by
  intro batch hbatch
  obtain ⟨state, hstate, -, hready⟩ := h.cursor batch hbatch
  exact ⟨state, hstate, hready⟩

theorem Anchored.step {op : Operation} (h : Anchored vaultId db) (hidle : RescansIdle db op) :
    Anchored vaultId (step u sha256 vaultId db op) := by
  refine ⟨namesAccount_step op h.account, fun batch hbatch => ?_⟩
  rcases batchStep u sha256 vaultId db op with
    hsame | ⟨hsucceeds, ⟨hsame, -⟩ | ⟨hdeclares, hbegins⟩ | hends⟩
  · rw [hsame] at hbatch ⊢
    exact h.cursor batch hbatch
  · have hactive : db.changeBatch = some batch := hsame.symm.trans hbatch
    have hrescan : ∀ nowUnixMs, op ≠ .markRescanRequired nowUnixMs := by
      rintro now rfl
      obtain ⟨_, hok⟩ := hsucceeds
      obtain ⟨_, hcall, -⟩ := exec_replying_ok.mp hok
      rw [hidle now rfl (exec_markRescanRequired_ok.mp hcall).1] at hactive
      cases hactive
    have hcursor := h.cursor batch hactive
    rw [OnCursor, vaultState_of_active h.account hcursor hrescan hsucceeds hbatch]
    exact hcursor
  · obtain rfl : batch = _ := Option.some.inj (hbatch.symm.trans hbegins.active)
    have hvault : (Store.step u sha256 vaultId db op).vaultState = db.vaultState := by
      cases op <;> try cases hdeclares
      all_goals exact vaultState_of_writes (by simp [Operation.writes])
    rw [OnCursor, hvault]
    exact onCursor_of_declares hdeclares hsucceeds
  · rw [hends.gone] at hbatch
    cases hbatch

/-- A rescan under an active batch leaves it without its cursor. -/
theorem Anchored.rescansIdle {op : Operation} (h : Anchored vaultId db)
    (hafter : BatchOnCursor (Store.step u sha256 vaultId db op)) : RescansIdle db op := by
  rintro now rfl hfits
  rw [Option.eq_none_iff_forall_ne_some]
  intro batch hactive
  obtain ⟨state, hstate, hcheck, -⟩ := h.cursor batch hactive
  have hcall := (exec_markRescanRequired_ok (v := ())).mpr
    ⟨hfits, ⟨state, hstate, hcheck⟩, rfl⟩
  have hstep : Store.step u sha256 vaultId db (.markRescanRequired now) = _ :=
    congrArg Prod.snd (exec_replying_ok.mpr ⟨(), hcall, rfl⟩)
  rw [hstep] at hafter
  obtain ⟨next, hnext, hready, -⟩ := hafter batch hactive
  rw [hstate] at hnext
  rw [← Option.some.inj hnext] at hready
  cases hready

variable (u sha256 vaultId)

/-- **In every state of a run an active batch belongs to the current cursor if and only if
the run marks no rescan while a batch is active.** -/
theorem batch_on_cursor (ops : List Operation) :
    (∀ pre, pre <+: ops → BatchOnCursor (runStore u sha256 vaultId pre)) ↔
      Runs.Meets (Store.step u sha256 vaultId) RescansIdle Database.empty ops :=
  (Runs.meets_iff_forall_prefix (I := Anchored vaultId) (fun _ h => h.batchOnCursor)
    (fun _ _ h hidle => h.step hidle) (fun _ _ h hafter => h.rescansIdle hafter)
    anchored_empty).symm

end Calls

/-! ## A stranded batch -/

/-- Begins a batch that declares nothing. -/
def batchRun : List Operation :=
  readyRun ++ [.beginChangeBatch sampleVaultId "durable-1" "durable-2" []]

/-- The cursor is marked as expired while the batch is active: the batch is still there,
its cursor is not, and the batch cannot be committed. -/
theorem rescan_strands_batch :
    ¬ BatchOnCursor (runStore Unicode.ascii constantDigest sampleVaultId
      (batchRun ++ [.markRescanRequired 5])) ∧
    (exec (commitChangeBatch sampleVaultId 6) (runStore Unicode.ascii constantDigest sampleVaultId
      batchRun)).1 = .ok () ∧
    (exec (commitChangeBatch sampleVaultId 6) (runStore Unicode.ascii constantDigest sampleVaultId
      (batchRun ++ [.markRescanRequired 5]))).1 = .error .cursorMismatch := by
  refine ⟨fun h => ?_, by decide +kernel, by decide +kernel⟩
  have hbatch : (runStore Unicode.ascii constantDigest sampleVaultId
      (batchRun ++ [.markRescanRequired 5])).changeBatch =
        some ⟨sampleVaultId, "durable-1", "durable-2"⟩ := by decide +kernel
  have hphase : (runStore Unicode.ascii constantDigest sampleVaultId
      (batchRun ++ [.markRescanRequired 5])).vaultState.map (·.phase) =
        some .needStartToken := by decide +kernel
  obtain ⟨state, hstate, hready, -⟩ := h _ hbatch
  rw [hstate, Option.map_some, hready] at hphase
  cases hphase

end Store
end MyVault
