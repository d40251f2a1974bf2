import MyVault.Store.Operation

/-!
# What the calls do to the active batch

There is at most one batch, and `batchStep` says what an operation does to it: it
leaves it as it was declared, begins one where there was none, or ends it.  How far
the mutations of the batch are is not part of this.

So the rows that are there belong to the active batch (`ownsItsRows_run`), and a
batch that is active after a run is what one call of the run declared, untouched
since (`active_since_begin`).
-/

namespace MyVault
namespace Store

open Check Program

/-! ## Declarations -/

/-- The batch a call declares, and the rows of it. -/
def Operation.declares : Operation → Option (ChangeBatchRow × List BatchMutationRow)
  | .beginChangeBatch batchId expectedCursor nextCursor mutationIds =>
      some (⟨batchId, expectedCursor, nextCursor⟩,
        (mutationIds.insertionSort (· ≤ ·)).map (legacyMutation batchId))
  | .beginTransferChangeBatch batchId expectedCursor nextCursor _ downloads =>
      some (⟨batchId, expectedCursor, nextCursor⟩,
        downloads.map fun transfer =>
          legacyMutation batchId (transferMutationId transfer.operationId))
  | .beginR3ChangeBatch batchId expectedCursor nextCursor dependencies =>
      some (⟨batchId, expectedCursor, nextCursor⟩, dependencies.map (r3Mutation batchId))
  | _ => none

/-- The active batch as it was declared. -/
def Database.activeBatch (db : Database) : Option (ChangeBatchRow × List BatchMutationRow) :=
  db.changeBatch.map fun batch => (batch, db.declared)

theorem batchId_of_declares {op : Operation} {batch : ChangeBatchRow}
    {rows : List BatchMutationRow} (h : op.declares = some (batch, rows)) :
    ∀ row ∈ rows, row.batchId = batch.batchId := by
  intro row hrow
  cases op <;> try cases h
  all_goals
    obtain ⟨_, -, rfl⟩ := List.mem_map.mp hrow
    rfl

/-! ## The statements -/

variable {db db' : Database}

/-- A loop that adds one row a turn. -/
theorem rows_of_forM {β : Type} {p : β → StoreProgram PUnit} {f : β → BatchMutationRow}
    (hp : ∀ x db db' v, exec (p x) db = (.ok v, db') →
      db'.changeBatchMutations.rows = db.changeBatchMutations.rows ++ [f x])
    {xs : List β} {v : PUnit} (h : exec (xs.forM p) db = (.ok v, db')) :
    db'.changeBatchMutations.rows = db.changeBatchMutations.rows ++ xs.map f := by
  induction xs generalizing db with
  | nil =>
      rw [exec_forM_nil_ok] at h
      rw [h, List.map_nil, List.append_nil]
  | cons x xs ih =>
      rw [exec_forM_cons_ok] at h
      obtain ⟨_, mid, hx, hxs⟩ := h
      rw [ih hxs, hp x db mid _ hx, List.append_assoc, List.map_cons, List.singleton_append]

theorem rows_of_insertBatchMutation {row : BatchMutationRow} {v : Unit}
    (h : exec (insertBatchMutation row) db = (.ok v, db')) :
    db'.changeBatchMutations.rows = db.changeBatchMutations.rows ++ [row] := by
  simp only [insertBatchMutation, exec_bind_ok, exec_read_ok, exec_require_ok, exec_the_ok,
    exec_write_ok, id, exists_and_left, exists_eq_left', exists_const, and_assoc] at h
  obtain ⟨-, -, -, table, htable, rfl⟩ := h
  exact (Table.insert_eq_some_iff.mp htable).2

theorem rows_of_declareDownload {u : Unicode} {batchId : Uuid} {transfer : TransferRecord}
    {v : Unit} (h : exec (declareDownload u batchId transfer) db = (.ok v, db')) :
    db'.changeBatchMutations.rows = db.changeBatchMutations.rows ++
      [legacyMutation batchId (transferMutationId transfer.operationId)] := by
  rw [declareDownload, exec_bind_ok] at h
  obtain ⟨_, mid, hregister, hinsert⟩ := h
  have f : OnlyWrites [.transfers] db mid := Keeps.of_exec inferInstance hregister
  have hsame : mid.changeBatchMutations = db.changeBatchMutations := f .batchProgress (by decide)
  rw [rows_of_insertBatchMutation hinsert, hsame]

/-- The batch is inserted and then its rows, which are new and untouched. -/
structure BeginsBatch (db db' : Database) (batch : ChangeBatchRow)
    (rows : List BatchMutationRow) : Prop where
  idle : db.changeBatch = none
  active : db'.changeBatch = some batch
  declared : db'.declared = db.declared ++ rows

/-- The batch and its rows are gone. -/
structure EndsBatch (db db' : Database) (batch : ChangeBatchRow) : Prop where
  active : db.changeBatch = some batch
  gone : db'.changeBatch = none
  left : ∀ row ∈ db'.declared, row ∈ db.declared ∧ row.batchId ≠ batch.batchId

theorem ends_of_deleteChangeBatch {batch : ChangeBatchRow} {v : Unit}
    (hactive : db.changeBatch = some batch) (h : exec deleteChangeBatch db = (.ok v, db')) :
    EndsBatch db db' batch := by
  rw [deleteChangeBatch, exec_write_ok] at h
  refine ⟨hactive, by rw [← h], fun row hrow => ?_⟩
  obtain ⟨kept, hkept, rfl⟩ := List.mem_map.mp hrow
  rw [← h, Table.mem_rows, Table.mem_delete, hactive, Option.any_some,
    decide_eq_false_iff_not] at hkept
  exact ⟨List.mem_map.mpr ⟨kept, hkept.1, rfl⟩, hkept.2⟩

theorem active_of_requireBatch {batchId : Uuid} {batch : ChangeBatch}
    (h : exec (requireBatch batchId) db = (.ok batch, db')) :
    db = db' ∧ ∃ row, db.changeBatch = some row ∧ row.batchId = batchId ∧
      batch.expectedCursor = row.expectedCursor ∧ batch.nextCursor = row.nextCursor := by
  simp only [requireBatch, loadChangeBatch, exec_bind_ok, exec_read_ok, exec_lift_ok,
    exec_the_ok, exec_reject_ok, exec_pure_ok, id, exists_and_left, exists_eq_left',
    exists_const, and_assoc, Decidable.not_not] at h
  obtain ⟨_, _, ⟨_, -, hload, rfl⟩, _, rfl, hid, rfl, rfl⟩ := h
  obtain ⟨row, hrow, rfl⟩ := Option.map_eq_some_iff.mp hload
  exact ⟨rfl, row, hrow, hid, rfl, rfl⟩

/-! ## Beginning -/

/-- Inserts the batch, then anything that leaves the batch alone, then its rows. -/
theorem begins_of_statements {β : Type} {p : β → StoreProgram PUnit} {f : β → BatchMutationRow}
    {xs : List β} {db₁ db₂ : Database} {batch : ChangeBatchRow} {v : Unit} {w : PUnit}
    (hinsert : exec (insertChangeBatch batch) db = (.ok v, db₁))
    (hmid : db₂.declared = db₁.declared) (hloop : exec (xs.forM p) db₂ = (.ok w, db'))
    (hactive : db'.changeBatch = db₁.changeBatch)
    (hp : ∀ x db db' v, exec (p x) db = (.ok v, db') →
      db'.changeBatchMutations.rows = db.changeBatchMutations.rows ++ [f x])
    (hf : ∀ x, (f x).declared = f x) : BeginsBatch db db' batch (xs.map f) := by
  simp only [insertChangeBatch, exec_bind_ok, exec_read_ok, exec_require_ok, exec_write_ok,
    exists_and_left, exists_eq_left', exists_const, and_assoc] at hinsert
  obtain ⟨hidle, rfl⟩ := hinsert
  refine ⟨hidle, hactive, ?_⟩
  have hsame : (xs.map f).map BatchMutationRow.declared = xs.map f := by
    rw [List.map_map]
    exact List.map_congr_left fun x _ => hf x
  rw [Database.declared, rows_of_forM hp hloop, List.map_append, hsame]
  exact congrArg (· ++ xs.map f) hmid

section Begin

variable {u : Unicode} {vaultId batchId : Uuid} {expectedCursor nextCursor : String} {v : Unit}

theorem begins_of_beginChangeBatch {mutationIds : List String}
    (h : exec (beginChangeBatch vaultId batchId expectedCursor nextCursor mutationIds) db =
      (.ok v, db')) :
    BeginsBatch db db' ⟨batchId, expectedCursor, nextCursor⟩
      ((mutationIds.insertionSort (· ≤ ·)).map (legacyMutation batchId)) := by
  simp only [beginChangeBatch, exec_bind_ok, exec_lift_ok, exec_reject_ok, exec_transaction_ok,
    exec_read_ok, exists_and_left, exists_eq_left', exists_const, and_assoc] at h
  obtain ⟨-, _, -, _, -, -, _, -, _, mid, hcursor, -, _, db₁, hinsert, hloop⟩ := h
  have hkeeps : Keeps Eq (requireCursor vaultId expectedCursor) := inferInstance
  obtain rfl := hkeeps.of_exec hcursor
  have floop : OnlyWrites [.declaredMutations, .batchProgress] db₁ db' :=
    Keeps.of_exec inferInstance hloop
  exact begins_of_statements hinsert rfl hloop (floop .changeBatch (by decide))
    (fun _ _ _ _ => rows_of_insertBatchMutation) fun _ => rfl

theorem begins_of_beginTransferChangeBatch {changes : List RemoteChange}
    {downloads : List TransferRecord}
    (h : exec (beginTransferChangeBatch u vaultId batchId expectedCursor nextCursor changes
      downloads) db = (.ok v, db')) :
    BeginsBatch db db' ⟨batchId, expectedCursor, nextCursor⟩
      (downloads.map fun transfer =>
        legacyMutation batchId (transferMutationId transfer.operationId)) := by
  simp only [beginTransferChangeBatch, exec_bind_ok, exec_lift_ok, exec_reject_ok,
    exec_transaction_ok, exec_read_ok, id, exists_and_left, exists_eq_left', exists_const,
    and_assoc] at h
  obtain ⟨-, _, -, _, -, -, _, -, _, -, _, mid, hcursor, _, mid', hload, -, _, -, _, db₁, hinsert,
    _, db₂, hchanges, hloop⟩ := h
  have hkeeps : Keeps Eq (requireCursor vaultId expectedCursor) := inferInstance
  obtain rfl := hkeeps.of_exec hcursor
  have hkeeps' : Keeps Eq loadChangeBatch := inferInstance
  obtain rfl := hkeeps'.of_exec hload
  have fchanges : OnlyWrites [.remoteEntries] db₁ db₂ := Keeps.of_exec inferInstance hchanges
  have floop : OnlyWrites [.declaredMutations, .batchProgress, .transfers] db₂ db' :=
    Keeps.of_exec inferInstance hloop
  refine begins_of_statements hinsert (fchanges .declaredMutations (by decide)) hloop ?_
    (fun _ _ _ _ => rows_of_declareDownload) fun _ => rfl
  exact (floop .changeBatch (by decide)).trans (fchanges .changeBatch (by decide))

theorem begins_of_beginR3ChangeBatch {dependencies : List ChangeBatchDependency}
    (h : exec (beginR3ChangeBatch vaultId batchId expectedCursor nextCursor dependencies) db =
      (.ok v, db')) :
    BeginsBatch db db' ⟨batchId, expectedCursor, nextCursor⟩
        (dependencies.map (r3Mutation batchId)) ∧
      (dependencies.map (·.operationId)).Nodup := by
  simp only [beginR3ChangeBatch, exec_bind_ok, exec_lift_ok, exec_reject_ok, exec_transaction_ok,
    exists_and_left, exists_eq_left', exists_const, and_assoc, not_or, Decidable.not_not] at h
  obtain ⟨-, _, -, _, -, hnodup, -, _, mid, hcursor, _, mid', hload, -, _, mid'', hrequire, _, db₁,
    hinsert, hloop⟩ := h
  have hkeeps : Keeps Eq (requireCursor vaultId expectedCursor) := inferInstance
  obtain rfl := hkeeps.of_exec hcursor
  have hkeeps' : Keeps Eq loadChangeBatch := inferInstance
  obtain rfl := hkeeps'.of_exec hload
  have hkeeps'' : Keeps Eq (dependencies.forM requireDependency) := by
    unfold requireDependency
    infer_instance
  obtain rfl := hkeeps''.of_exec hrequire
  have floop : OnlyWrites [.declaredMutations, .batchProgress] db₁ db' :=
    Keeps.of_exec inferInstance hloop
  exact ⟨begins_of_statements hinsert rfl hloop (floop .changeBatch (by decide))
    (fun _ _ _ _ => rows_of_insertBatchMutation) fun _ => rfl, hnodup⟩

end Begin

/-! ## Ending -/

/-- The cursor the vault has durably reached. -/
def Database.durableCursor (db : Database) : Option String := db.vaultState.bind (·.durableCursor)

/-- The end of a commit: the cursor goes from the one cursor of the batch to the other. -/
structure CommitsBatch (db db' : Database) (batch : ChangeBatchRow) : Prop
    extends EndsBatch db db' batch where
  expected : db.durableCursor = some batch.expectedCursor
  next : db'.durableCursor = some batch.nextCursor

theorem durableCursor_of_advanceCursor {expectedCursor nextCursor : String} {nowUnixMs : ℕ}
    {v : Unit} (h : exec (advanceCursor expectedCursor nextCursor nowUnixMs) db = (.ok v, db')) :
    db.durableCursor = some expectedCursor ∧ db'.durableCursor = some nextCursor := by
  simp only [advanceCursor, updateVaultState, exec_bind_ok, exec_read_ok, exec_reject_ok,
    exec_write_ok, exists_and_left, exists_eq_left', exists_const, and_assoc,
    Bool.not_eq_true', Bool.not_eq_false, Option.any_eq_true, Bool.and_eq_true, beq_iff_eq] at h
  obtain ⟨⟨state, hstate, -, hcursor⟩, rfl⟩ := h
  rw [Database.durableCursor, Database.durableCursor, hstate]
  exact ⟨hcursor, rfl⟩

theorem commits_of_finishBatch {row : ChangeBatchRow} {batch : ChangeBatch} {nowUnixMs : ℕ}
    {v : Unit} (hactive : db.changeBatch = some row)
    (hexpected : batch.expectedCursor = row.expectedCursor)
    (hnext : batch.nextCursor = row.nextCursor)
    (h : exec (finishBatch batch nowUnixMs) db = (.ok v, db')) : CommitsBatch db db' row := by
  rw [finishBatch, exec_bind_ok] at h
  obtain ⟨_, mid, hadvance, hdelete⟩ := h
  obtain ⟨hbefore, hafter⟩ := durableCursor_of_advanceCursor hadvance
  have fadvance : OnlyWrites [.vaultState] db mid := Keeps.of_exec inferInstance hadvance
  have hbatch : mid.changeBatch = db.changeBatch := fadvance .changeBatch (by decide)
  have hrows : mid.declared = db.declared := fadvance .declaredMutations (by decide)
  have fdelete : OnlyWrites [.changeBatch, .declaredMutations, .batchProgress] mid db' :=
    Keeps.of_exec inferInstance hdelete
  have hvault : db'.vaultState = mid.vaultState := fdelete .vaultState (by decide)
  obtain ⟨-, hgone, hleft⟩ := ends_of_deleteChangeBatch (hbatch.trans hactive) hdelete
  refine ⟨⟨hactive, hgone, hrows ▸ hleft⟩, hexpected ▸ hbefore, ?_⟩
  rw [Database.durableCursor, hvault, ← hnext]
  exact hafter

section End

variable {batchId : Uuid} {nowUnixMs : ℕ} {v : Unit}

/-- What the commit of an R3 batch has counted. -/
theorem commits_of_commitR3ChangeBatch (h : exec (commitR3ChangeBatch batchId nowUnixMs) db =
      (.ok v, db')) :
    ∃ batch, batch.batchId = batchId ∧ CommitsBatch db db' batch ∧
      ∀ row ∈ db.changeBatchMutations, row.batchId = batchId →
        row.dependencyKind ≠ .legacyV3 ∧ isIncompleteDependency db row = false := by
  simp only [commitR3ChangeBatch, legacyV3DependencyCount, transferBackedMutationCount,
    incompleteDependencyCount, exec_bind_ok, exec_lift_ok, exec_transaction_ok, exec_read_ok,
    exec_reject_ok, exists_and_left, exists_eq_left', exists_const, and_assoc, not_or,
    Decidable.not_not, Table.count_eq_zero_iff] at h
  obtain ⟨_, -, batch, mid, hbatch, hlegacy, -, hincomplete, hfinish⟩ := h
  obtain ⟨rfl, row, hactive, hid, hexpected, hnext⟩ := active_of_requireBatch hbatch
  refine ⟨row, hid, commits_of_finishBatch hactive hexpected hnext hfinish,
    fun mutation hmutation hof => ⟨fun hkind => ?_, ?_⟩⟩
  · exact hlegacy mutation hmutation (decide_eq_true ⟨hof, hkind⟩)
  · have hcounted := hincomplete mutation hmutation
    rwa [hof, decide_eq_true rfl, Bool.true_and, Bool.not_eq_true] at hcounted

theorem commits_of_commitChangeBatch (h : exec (commitChangeBatch batchId nowUnixMs) db =
    (.ok v, db')) : ∃ batch, CommitsBatch db db' batch := by
  simp only [commitChangeBatch, legacyV3DependencyCount, transferBackedMutationCount,
    typedR3DependencyCount, exec_bind_ok, exec_lift_ok, exec_transaction_ok, exec_read_ok,
    exec_reject_ok, exists_and_left, exists_eq_left', exists_const, and_assoc] at h
  obtain ⟨_, -, batch, mid, hbatch, -, -, -, -, hfinish⟩ := h
  obtain ⟨rfl, row, hactive, -, hexpected, hnext⟩ := active_of_requireBatch hbatch
  exact ⟨row, commits_of_finishBatch hactive hexpected hnext hfinish⟩

theorem commits_of_commitTransferChangeBatch
    (h : exec (commitTransferChangeBatch batchId nowUnixMs) db = (.ok v, db')) :
    ∃ batch, CommitsBatch db db' batch := by
  simp only [commitTransferChangeBatch, legacyV3DependencyCount, incompleteMutationCount,
    typedR3DependencyCount, exec_bind_ok, exec_lift_ok, exec_transaction_ok, exec_read_ok,
    exec_reject_ok, exists_and_left, exists_eq_left', exists_const, and_assoc] at h
  obtain ⟨_, -, batch, mid, hbatch, -, -, -, -, hfinish⟩ := h
  obtain ⟨rfl, row, hactive, -, hexpected, hnext⟩ := active_of_requireBatch hbatch
  exact ⟨row, commits_of_finishBatch hactive hexpected hnext hfinish⟩

theorem ends_of_abortChangeBatch (h : exec (abortChangeBatch batchId) db = (.ok v, db')) :
    ∃ batch, EndsBatch db db' batch := by
  simp only [abortChangeBatch, transferBackedMutationCount, exec_bind_ok, exec_transaction_ok,
    exec_read_ok, exec_reject_ok, exists_and_left, exists_eq_left', exists_const,
    and_assoc] at h
  obtain ⟨batch, mid, hbatch, -, -, -, hdelete⟩ := h
  obtain ⟨rfl, row, hactive, -, -, -⟩ := active_of_requireBatch hbatch
  exact ⟨row, ends_of_deleteChangeBatch hactive hdelete⟩

end End

/-! ## Operations -/

section Operations

variable {u : Unicode} {sha256 : Sha256} {vaultId : Uuid}

/-- The call succeeds. -/
def Succeeds (u : Unicode) (sha256 : Sha256) (vaultId : Uuid) (db : Database) (op : Operation) :
    Prop :=
  ∃ reply, exec (perform u sha256 vaultId op) db = (.ok reply, step u sha256 vaultId db op)

/-- What an operation does to the active batch. -/
inductive BatchStep (db : Database) (op : Operation) (db' : Database) : Prop
  | same (batch : db'.changeBatch = db.changeBatch) (declared : db'.declared = db.declared)
  | begun {batch : ChangeBatchRow} {rows : List BatchMutationRow}
      (hdeclares : op.declares = some (batch, rows)) (hbegins : BeginsBatch db db' batch rows)
  | ended {batch : ChangeBatchRow} (hends : EndsBatch db db' batch)

theorem batchStep_of_writes {op : Operation}
    (h : Part.changeBatch ∉ op.writes ∧ Part.declaredMutations ∉ op.writes) :
    BatchStep db op (step u sha256 vaultId db op) :=
  .same (step_content u sha256 vaultId db op h.1) (step_content u sha256 vaultId db op h.2)

theorem batchStep_of_succeeds {op : Operation} (h : Succeeds u sha256 vaultId db op) :
    BatchStep db op (step u sha256 vaultId db op) := by
  obtain ⟨reply, hok⟩ := h
  cases op
  case beginChangeBatch batchId expectedCursor nextCursor mutationIds =>
    obtain ⟨_, hcall, -⟩ := exec_replying_ok.mp hok
    exact .begun rfl (begins_of_beginChangeBatch hcall)
  case beginTransferChangeBatch batchId expectedCursor nextCursor changes downloads =>
    obtain ⟨_, hcall, -⟩ := exec_replying_ok.mp hok
    exact .begun rfl (begins_of_beginTransferChangeBatch hcall)
  case beginR3ChangeBatch batchId expectedCursor nextCursor dependencies =>
    obtain ⟨_, hcall, -⟩ := exec_replying_ok.mp hok
    exact .begun rfl (begins_of_beginR3ChangeBatch hcall).1
  case commitR3ChangeBatch batchId now =>
    obtain ⟨_, hcall, -⟩ := exec_replying_ok.mp hok
    obtain ⟨batch, -, hcommits, -⟩ := commits_of_commitR3ChangeBatch hcall
    exact .ended hcommits.toEndsBatch
  case commitChangeBatch batchId now =>
    obtain ⟨_, hcall, -⟩ := exec_replying_ok.mp hok
    obtain ⟨batch, hcommits⟩ := commits_of_commitChangeBatch hcall
    exact .ended hcommits.toEndsBatch
  case commitTransferChangeBatch batchId now =>
    obtain ⟨_, hcall, -⟩ := exec_replying_ok.mp hok
    obtain ⟨batch, hcommits⟩ := commits_of_commitTransferChangeBatch hcall
    exact .ended hcommits.toEndsBatch
  case abortChangeBatch batchId =>
    obtain ⟨_, hcall, -⟩ := exec_replying_ok.mp hok
    obtain ⟨batch, hends⟩ := ends_of_abortChangeBatch hcall
    exact .ended hends
  all_goals exact batchStep_of_writes (by simp [Operation.writes])

/-- An operation that fails leaves the batch alone, too. -/
theorem batchStep (u : Unicode) (sha256 : Sha256) (vaultId : Uuid) (db : Database)
    (op : Operation) : step u sha256 vaultId db op = db ∨
      Succeeds u sha256 vaultId db op ∧ BatchStep db op (step u sha256 vaultId db op) :=
  (step_eq_or_ok u sha256 vaultId db op).imp_right fun h => ⟨h, batchStep_of_succeeds h⟩

/-! ## Runs -/

/-- The rows that are there belong to the active batch. -/
def OwnsItsRows (db : Database) : Prop :=
  ∀ row ∈ db.declared, db.changeBatch.map (·.batchId) = some row.batchId

theorem OwnsItsRows.declared_of_idle (h : OwnsItsRows db) (hidle : db.changeBatch = none) :
    db.declared = [] := by
  refine List.eq_nil_iff_forall_not_mem.mpr fun row hrow => ?_
  have hbatch := h row hrow
  rw [hidle] at hbatch
  cases hbatch

theorem ownsItsRows_step (op : Operation) (h : OwnsItsRows db) :
    OwnsItsRows (step u sha256 vaultId db op) := by
  rcases batchStep u sha256 vaultId db op with
    hsame | ⟨-, ⟨hbatch, hdeclared⟩ | ⟨hdeclares, hbegins⟩ | hends⟩
  · rwa [hsame]
  · rw [OwnsItsRows, hbatch, hdeclared]
    exact h
  · intro row hrow
    rw [hbegins.declared, h.declared_of_idle hbegins.idle, List.nil_append] at hrow
    rw [hbegins.active, Option.map_some, batchId_of_declares hdeclares row hrow]
  · intro row hrow
    obtain ⟨hold, hne⟩ := hends.left row hrow
    have howner := h row hold
    rw [hends.active, Option.map_some, Option.some.injEq] at howner
    exact absurd howner.symm hne

theorem ownsItsRows_run (ops : List Operation) :
    OwnsItsRows (runStore u sha256 vaultId ops) := by
  have hempty : OwnsItsRows Database.empty := fun _ h => absurd h List.not_mem_nil
  have hstep : ∀ db op, OwnsItsRows db → OwnsItsRows (step u sha256 vaultId db op) :=
    fun _ op => ownsItsRows_step op
  exact Runs.run_induction hstep ops hempty

/-- The call succeeds and declares the batch. -/
def Begins (u : Unicode) (sha256 : Sha256) (vaultId : Uuid) (db : Database) (op : Operation)
    (batch : ChangeBatchRow × List BatchMutationRow) : Prop :=
  Succeeds u sha256 vaultId db op ∧ op.declares = some batch

/-- A batch that is active after a run was declared by a call of the run and was active
ever since. -/
theorem active_since_begin {ops : List Operation} {batch : ChangeBatchRow}
    (h : (runStore u sha256 vaultId ops).changeBatch = some batch) :
    ∃ pre begin post, ops = pre ++ begin :: post ∧
      Begins u sha256 vaultId (runStore u sha256 vaultId pre) begin
        (batch, (runStore u sha256 vaultId ops).declared) ∧
      ∀ mid, mid <+: post →
        (runStore u sha256 vaultId (pre ++ begin :: mid)).changeBatch = some batch := by
  have hactive : (runStore u sha256 vaultId ops).activeBatch =
      some (batch, (runStore u sha256 vaultId ops).declared) := by
    rw [Database.activeBatch, h, Option.map_some]
  have hstep : ∀ pre op a,
      (step u sha256 vaultId (runStore u sha256 vaultId pre) op).activeBatch = some a →
      (runStore u sha256 vaultId pre).activeBatch = some a ∨
        Begins u sha256 vaultId (runStore u sha256 vaultId pre) op a := by
    intro pre op a ha
    rcases batchStep u sha256 vaultId (runStore u sha256 vaultId pre) op with
      hsame | ⟨hsucceeds, ⟨hbatch, hdeclared⟩ | ⟨hdeclares, hbegins⟩ | hends⟩
    · rw [hsame] at ha
      exact Or.inl ha
    · rw [Database.activeBatch, hbatch, hdeclared] at ha
      exact Or.inl ha
    · refine Or.inr ⟨hsucceeds, ?_⟩
      rw [Database.activeBatch, hbegins.active, hbegins.declared,
        (ownsItsRows_run pre).declared_of_idle hbegins.idle] at ha
      rw [hdeclares, ← ha]
      rfl
    · rw [Database.activeBatch, hends.gone] at ha
      cases ha
  have hidle : Database.empty.activeBatch = none := rfl
  obtain ⟨pre, begin, post, hops, hbegins, hsince⟩ := Runs.exists_since hidle hstep hactive
  refine ⟨pre, begin, post, hops, hbegins, fun mid hmid => ?_⟩
  obtain ⟨row, hrow, heq⟩ := Option.map_eq_some_iff.mp (hsince mid hmid)
  rw [Prod.mk.injEq] at heq
  rw [← heq.1]
  exact hrow

end Operations

end Store
end MyVault
