import MyVault.Store.Batches
import MyVault.Store.Blocked

/-!
# The cursor of an R3 batch

The commit of an R3 batch moves the durable cursor only if its query finds no
incomplete dependency.  The query compares columns of four tables, some of which may
be NULL; that it is enough is a fact about reachable databases, where a completed
mutation is proven (`completedAreProven_run`) and the rows of the batch are what the
batch declared (`active_since_begin`).

## Main results

* `completed_of_isIncompleteDependency`: what one row of the query has compared.  NULL makes a row
  incomplete, so a row that is not has all of its columns.
* `isProven_of_isIncompleteDependency`: with the invariant of the mutations, the mutation of such
  a row is completed by evidence that is on record.
* `r3_cursor_is_gated`: the commit that succeeds is of the batch one earlier call has begun; every
  dependency that call has declared is proven, and the cursor is moved once, from the expected one
  to the next.

`DeclaresOnly` names the calls that begin a batch, so that what the batch declared is a fact about
the run and not about the tables.
-/

namespace MyVault
namespace Store

open Check Program Table

/-- The mutation of the dependency is of its kind, completed and proven. -/
def IsProven (db : Database) (dependency : ChangeBatchDependency) : Prop :=
  ∃ intent state evidence event, intent.operationId = dependency.operationId ∧
    intent.operationKind = dependency.kind.requiredOperationKind ∧
    Completion db intent state evidence event

/-- The call declares the dependencies and nothing else. -/
inductive DeclaresOnly : Operation → ChangeBatchRow → List ChangeBatchDependency → Prop
  | r3 (batchId : Uuid) (expectedCursor nextCursor : String)
      (dependencies : List ChangeBatchDependency) :
      DeclaresOnly (.beginR3ChangeBatch batchId expectedCursor nextCursor dependencies)
        ⟨batchId, expectedCursor, nextCursor⟩ dependencies
  | legacy (batchId : Uuid) (expectedCursor nextCursor : String) :
      DeclaresOnly (.beginChangeBatch batchId expectedCursor nextCursor [])
        ⟨batchId, expectedCursor, nextCursor⟩ []
  | transfer (batchId : Uuid) (expectedCursor nextCursor : String)
      (changes : List RemoteChange) :
      DeclaresOnly (.beginTransferChangeBatch batchId expectedCursor nextCursor changes [])
        ⟨batchId, expectedCursor, nextCursor⟩ []

/-- The calls that commit a batch. -/
inductive Operation.IsCommit : Operation → Prop
  | r3 (batchId : Uuid) (nowUnixMs : ℕ) : IsCommit (.commitR3ChangeBatch batchId nowUnixMs)
  | legacy (batchId : Uuid) (nowUnixMs : ℕ) : IsCommit (.commitChangeBatch batchId nowUnixMs)
  | transfer (batchId : Uuid) (nowUnixMs : ℕ) :
      IsCommit (.commitTransferChangeBatch batchId nowUnixMs)

/-! ## The query -/

section Query

variable {db : Database} {row : BatchMutationRow}

/-- A dependency that is not incomplete has a completed mutation of its kind. -/
theorem completed_of_isIncompleteDependency {kind : ChangeBatchDependencyKind}
    {operationId : Uuid} (hkind : row.dependencyKind = .typed kind)
    (hoperation : row.operationId = some operationId)
    (h : isIncompleteDependency db row = false) :
    ∃ intent state, db.mutationIntents.lookup operationId = some intent ∧
      db.mutationState.lookup operationId = some state ∧
      intent.operationKind = kind.requiredOperationKind ∧ state.phase = .completed := by
  simp only [isIncompleteDependency, hasOtherKind, hasCompletionEvent, hkind, hoperation,
    Option.bind_some, Bool.or_eq_false_iff, and_assoc] at h
  obtain ⟨-, -, -, -, hintent, hother, hphase, -, -, -, -, -, -, hevent⟩ := h
  obtain ⟨intent, hintent⟩ := Option.isSome_iff_exists.mp (Option.isNone_eq_false_iff.mp hintent)
  rw [Bool.not_eq_false', List.any_eq_true] at hevent
  obtain ⟨event, -, hevent⟩ := hevent
  simp only [Bool.and_eq_true, equals_some_iff, and_assoc] at hevent
  -- the state is there because the event has its attempt number
  obtain ⟨-, -, hattempt, -⟩ := hevent
  obtain ⟨state, hstate, -⟩ := Option.map_eq_some_iff.mp hattempt
  rw [hintent, Option.map_some, differs_eq_false_iff] at hother
  rw [hstate, Option.map_some, differs_eq_false_iff] at hphase
  exact ⟨intent, state, hintent, hstate, hother, hphase⟩

theorem isProven_of_isIncompleteDependency {dependency : ChangeBatchDependency}
    (hproven : CompletedAreProven db) (hkind : row.dependencyKind = .typed dependency.kind)
    (hoperation : row.operationId = some dependency.operationId)
    (h : isIncompleteDependency db row = false) : IsProven db dependency := by
  obtain ⟨intent, state, hintent, hstate, hother, hphase⟩ :=
    completed_of_isIncompleteDependency hkind hoperation h
  obtain ⟨hintent, hid⟩ := lookup_eq_some_iff.mp hintent
  obtain ⟨hstate, hsame⟩ := lookup_eq_some_iff.mp hstate
  obtain ⟨other, evidence, event, hcompletion⟩ := hproven state hstate hphase
  obtain rfl : other = intent := eq_of_key_eq _ hcompletion.intent_mem hintent
    (hcompletion.operationId.symm.trans (hsame.trans hid.symm))
  exact ⟨other, state, evidence, event, hid, hother, hcompletion⟩

end Query

/-! ## Declarations and commits -/

section Calls

variable {u : Unicode} {sha256 : Sha256} {vaultId : Uuid} {db : Database}

/-- A batch without legacy rows was declared by its dependencies only. -/
theorem declaresOnly_of_begins {op : Operation} {batch : ChangeBatchRow}
    {rows : List BatchMutationRow} (h : Begins u sha256 vaultId db op (batch, rows))
    (htyped : ∀ row ∈ rows, row.dependencyKind ≠ .legacyV3) :
    ∃ dependencies, DeclaresOnly op batch dependencies ∧
      rows = dependencies.map (r3Mutation batch.batchId) ∧
      (dependencies.map (·.operationId)).Nodup := by
  obtain ⟨⟨reply, hok⟩, hdeclares⟩ := h
  cases op <;> try cases hdeclares
  case beginChangeBatch batchId expectedCursor nextCursor mutationIds =>
    have hnone : mutationIds = [] := by
      refine List.eq_nil_iff_forall_not_mem.mpr fun mutationId hmem => ?_
      exact htyped _ (List.mem_map_of_mem ((List.mem_insertionSort _).mpr hmem)) rfl
    subst hnone
    exact ⟨[], .legacy .., rfl, List.nodup_nil⟩
  case beginTransferChangeBatch batchId expectedCursor nextCursor changes downloads =>
    have hnone : downloads = [] := by
      refine List.eq_nil_iff_forall_not_mem.mpr fun transfer hmem => ?_
      exact htyped _ (List.mem_map_of_mem hmem) rfl
    subst hnone
    exact ⟨[], .transfer .., rfl, List.nodup_nil⟩
  case beginR3ChangeBatch batchId expectedCursor nextCursor dependencies =>
    obtain ⟨_, hcall, -⟩ := exec_replying_ok.mp hok
    exact ⟨dependencies, .r3 .., rfl, (begins_of_beginR3ChangeBatch hcall).2⟩

theorem succeeds_of_reply {op : Operation} {reply : Reply}
    (h : (exec (perform u sha256 vaultId op) db).1 = .ok reply) :
    Succeeds u sha256 vaultId db op := ⟨reply, Prod.ext h rfl⟩

theorem commits_of_isCommit {op : Operation} (hcommit : op.IsCommit)
    (h : Succeeds u sha256 vaultId db op) :
    ∃ batch, CommitsBatch db (step u sha256 vaultId db op) batch := by
  obtain ⟨reply, hok⟩ := h
  cases hcommit with
  | r3 batchId now =>
      obtain ⟨_, hcall, -⟩ := exec_replying_ok.mp hok
      obtain ⟨batch, -, hcommits, -⟩ := commits_of_commitR3ChangeBatch hcall
      exact ⟨batch, hcommits⟩
  | legacy batchId now =>
      obtain ⟨_, hcall, -⟩ := exec_replying_ok.mp hok
      exact commits_of_commitChangeBatch hcall
  | transfer batchId now =>
      obtain ⟨_, hcall, -⟩ := exec_replying_ok.mp hok
      exact commits_of_commitTransferChangeBatch hcall

end Calls

/-! ## Runs -/

section Runs

variable (u : Unicode) (sha256 : Sha256) (vaultId : Uuid)

/-- What a commit of the batch after these operations rests on. -/
structure GatedCommit (ops : List Operation) (batch : ChangeBatchRow)
    (dependencies : List ChangeBatchDependency) : Prop where
  /-- One call of the run has begun the batch, and nothing has committed it since. -/
  begun : ∃ pre begin post, ops = pre ++ begin :: post ∧
    Succeeds u sha256 vaultId (runStore u sha256 vaultId pre) begin ∧
    DeclaresOnly begin batch dependencies ∧
    (∀ mid, mid <+: post →
      (runStore u sha256 vaultId (pre ++ begin :: mid)).changeBatch = some batch) ∧
    ∀ mid op rest, post = mid ++ op :: rest → op.IsCommit →
      ¬ Succeeds u sha256 vaultId (runStore u sha256 vaultId (pre ++ begin :: mid)) op
  distinct : (dependencies.map (·.operationId)).Nodup
  proven : ∀ dependency ∈ dependencies, IsProven (runStore u sha256 vaultId ops) dependency

variable {u sha256 vaultId}

/-- A batch that is active has not been committed. -/
theorem not_succeeds_of_active {pre post mid rest : List Operation} {begin op : Operation}
    {batch : ChangeBatchRow} (hsince : ∀ mid, mid <+: post →
      (runStore u sha256 vaultId (pre ++ begin :: mid)).changeBatch = some batch)
    (hpost : post = mid ++ op :: rest) (hcommit : op.IsCommit) :
    ¬ Succeeds u sha256 vaultId (runStore u sha256 vaultId (pre ++ begin :: mid)) op := by
  intro hsucceeds
  obtain ⟨ended, hcommits⟩ := commits_of_isCommit hcommit hsucceeds
  have hinit : mid ++ [op] <+: post := ⟨rest, by rw [hpost, List.append_assoc]; rfl⟩
  have hactive := hsince (mid ++ [op]) hinit
  have hrun : runStore u sha256 vaultId (pre ++ begin :: (mid ++ [op])) =
      step u sha256 vaultId (runStore u sha256 vaultId (pre ++ begin :: mid)) op := by
    rw [← List.cons_append, ← List.append_assoc]
    exact Runs.run_concat _ _ _
  rw [hrun, hcommits.gone] at hactive
  cases hactive

theorem gatedCommit_of_succeeds {ops : List Operation} {batchId : Uuid} {nowUnixMs : ℕ}
    (h : Succeeds u sha256 vaultId (runStore u sha256 vaultId ops)
      (.commitR3ChangeBatch batchId nowUnixMs)) :
    ∃ batch dependencies, batch.batchId = batchId ∧
      CommitsBatch (runStore u sha256 vaultId ops) (step u sha256 vaultId
        (runStore u sha256 vaultId ops) (.commitR3ChangeBatch batchId nowUnixMs)) batch ∧
      GatedCommit u sha256 vaultId ops batch dependencies := by
  obtain ⟨reply, hok⟩ := h
  obtain ⟨_, hcall, -⟩ := exec_replying_ok.mp hok
  obtain ⟨batch, rfl, hcommits, hrows⟩ := commits_of_commitR3ChangeBatch hcall
  obtain ⟨pre, begin, post, hops, hbegins, hsince⟩ := active_since_begin hcommits.active
  -- every declared row stands for a row the commit has looked at
  have hrow : ∀ declared ∈ (runStore u sha256 vaultId ops).declared,
      ∃ row, row.declared = declared ∧ row.dependencyKind ≠ .legacyV3 ∧
        isIncompleteDependency (runStore u sha256 vaultId ops) row = false := by
    intro declared hdeclared
    have howner := ownsItsRows_run ops declared hdeclared
    rw [hcommits.active, Option.map_some, Option.some.injEq] at howner
    obtain ⟨row, hmem, rfl⟩ := List.mem_map.mp hdeclared
    exact ⟨row, rfl, hrows row hmem howner.symm⟩
  obtain ⟨dependencies, hdeclares, hdeclared, hdistinct⟩ := declaresOnly_of_begins hbegins
    fun declared hmem => by
      obtain ⟨row, rfl, hkind, -⟩ := hrow declared hmem
      exact hkind
  refine ⟨batch, dependencies, rfl, hcommits, ⟨?_, hdistinct, fun dependency hmem => ?_⟩⟩
  · exact ⟨pre, begin, post, hops, hbegins.1, hdeclares, hsince, fun mid op rest hpost hcommit =>
      not_succeeds_of_active hsince hpost hcommit⟩
  · obtain ⟨row, hsame, -, hcomplete⟩ := hrow (r3Mutation batch.batchId dependency)
      (hdeclared ▸ List.mem_map_of_mem hmem)
    have hkind : row.dependencyKind = .typed dependency.kind :=
      congrArg BatchMutationRow.dependencyKind hsame
    have hid : row.operationId = some dependency.operationId :=
      congrArg BatchMutationRow.operationId hsame
    exact isProven_of_isIncompleteDependency (completedAreProven_run u sha256 vaultId ops) hkind
      hid hcomplete

variable (u sha256 vaultId)

/-- **The commit of an R3 batch moves the cursor from one end of the batch to the other,
once, and every dependency the batch was begun with is proven; a call that fails changes
nothing.** -/
theorem r3_cursor_is_gated (ops : List Operation) :
    (∀ batchId nowUnixMs,
      Succeeds u sha256 vaultId (runStore u sha256 vaultId ops)
        (.commitR3ChangeBatch batchId nowUnixMs) →
      ∃ batch dependencies, batch.batchId = batchId ∧
        CommitsBatch (runStore u sha256 vaultId ops) (step u sha256 vaultId
          (runStore u sha256 vaultId ops) (.commitR3ChangeBatch batchId nowUnixMs)) batch ∧
        GatedCommit u sha256 vaultId ops batch dependencies) ∧
    ∀ op, ¬ Succeeds u sha256 vaultId (runStore u sha256 vaultId ops) op →
      step u sha256 vaultId (runStore u sha256 vaultId ops) op = runStore u sha256 vaultId ops :=
  ⟨fun _ _ => gatedCommit_of_succeeds, fun op hfailed =>
    (step_eq_or_ok u sha256 vaultId _ op).resolve_right hfailed⟩

end Runs

/-! ## A batch that depends on a publication -/

/-- Binds the vault and scans it until it is ready. -/
def readyRun : List Operation :=
  [.bindRemoteRoot "account" "remote-root" "account" "remote-root" 1,
    .beginInitialScan "start-1" 2,
    .applyScanPage none ⟨[], none⟩ 3,
    .applyChangesPage "start-1" ⟨[], none, some "durable-1"⟩ 4]

/-- The rename, published from this device. -/
def publishIntent : MutationIntent :=
  { renameIntent with
    operationKind := .localPublish
    intentFingerprint := "ed54572338177c18f19712cefdf0f7ac1bd7365a196b3e0d306aec9b8ba917d9" }

/-- The digests of the records of the rename, and for 707 bytes that of this intent. -/
def publishDigest : Sha256 := fun stream =>
  if stream.length = 707 then ⟨
    [0xed, 0x54, 0x57, 0x23, 0x38, 0x17, 0x7c, 0x18, 0xf1, 0x97, 0x12,
     0xce, 0xfd, 0xf0, 0xf7, 0xac, 0x1b, 0xd7, 0x36, 0x5a, 0x19, 0x6b,
     0x3e, 0x0d, 0x30, 0x6a, 0xec, 0x9b, 0x8b, 0xa9, 0x17, 0xd9], rfl⟩
  else renameDigest stream

/-- Publishes the rename as the one dependency of a batch. -/
def publishRun : List Operation :=
  readyRun ++
    [.registerMutationIntent publishIntent none,
      .claimMutation renameOperation 0 11,
      .beginR3ChangeBatch sampleVaultId "durable-1" "durable-2" [⟨renameOperation, .mutation⟩],
      .recordMutationOutcome renameOperation 1 reconciliation .verifiedApplied,
      .commitR3ChangeDependency sampleVaultId ⟨renameOperation, .mutation⟩ reconciliationId]

theorem r3_cursor_is_gated_publish :
    (runStore Unicode.ascii publishDigest sampleVaultId publishRun).declared.map
        (·.operationId) = [some renameOperation] ∧
      (∃ batch dependencies, batch.batchId = sampleVaultId ∧
        CommitsBatch (runStore Unicode.ascii publishDigest sampleVaultId publishRun)
          (step Unicode.ascii publishDigest sampleVaultId
            (runStore Unicode.ascii publishDigest sampleVaultId publishRun)
            (.commitR3ChangeBatch sampleVaultId 30)) batch ∧
        GatedCommit Unicode.ascii publishDigest sampleVaultId publishRun batch dependencies) ∧
      (runStore Unicode.ascii publishDigest sampleVaultId
        (publishRun ++ [.commitR3ChangeBatch sampleVaultId 30])).vaultState.map
          (·.durableCursor) = some (some "durable-2") := by
  have hrun : (runStore Unicode.ascii publishDigest sampleVaultId publishRun).declared.map
        (·.operationId) = [some renameOperation] ∧
      (exec (perform Unicode.ascii publishDigest sampleVaultId
        (.commitR3ChangeBatch sampleVaultId 30)) (runStore Unicode.ascii publishDigest
          sampleVaultId publishRun)).1 = .ok .done ∧
      (runStore Unicode.ascii publishDigest sampleVaultId
        (publishRun ++ [.commitR3ChangeBatch sampleVaultId 30])).vaultState.map
          (·.durableCursor) = some (some "durable-2") := by decide +kernel
  obtain ⟨hdeclared, hok, hcursor⟩ := hrun
  exact ⟨hdeclared, (r3_cursor_is_gated Unicode.ascii publishDigest sampleVaultId
    publishRun).1 sampleVaultId 30 (succeeds_of_reply hok), hcursor⟩

end Store
end MyVault
