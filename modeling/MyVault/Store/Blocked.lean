import MyVault.Store.Completion

/-!
# Blocked mutations

A change of an existing remote item is registered as `RemoteExistingBlocked` and is
in `NeedsReconcile` from then on.  It cannot be claimed and cannot be scheduled
again.  One call takes it out of this state: `record_mutation_outcome` with exact
evidence that the change is applied, whoever applied it.  Then it is completed, and
stays so.

## How the argument goes

* `blocked_of_registered`: the registration itself writes the refusal and ends in
  `NeedsReconcile`; a registration without it is refused.
* `blocked_step`: any later call leaves the state of the mutation as it is, or is the one call
  that reconciles it.  The recovery on a restart looks at running mutations only, and a blocked
  one is never claimed.
* `blocked_until_reconciled`: by induction over the run, with the call that reconciled it as a
  witness (`WasReconciled`).

A contract of the repository ends these mutations at `NeedsReconcile`; the transition table of
`store.rs` lets them go on to `Completed`, and `blocked_mutation_completes` does so.
-/

namespace MyVault
namespace Store

open Check

/-- Refused, and waiting for reconciliation. -/
def IsBlocked (state : MutationState) : Prop :=
  state.phase = .needsReconcile ∧ state.disposition = some .needsReconcile

/-- Completed by this evidence. -/
structure IsReconciled (state : MutationState) (evidence : MutationVerificationEvidence) :
    Prop where
  phase : state.phase = .completed
  disposition : state.disposition = some .verifiedApplied
  lastEvidenceId : state.lastEvidenceId = some evidence.evidenceId

/-! ## One step -/

section Step

variable {u : Unicode} {sha256 : Sha256} {db db' : Database} {intent : MutationIntent}
  {state : MutationState}

/-- An interruption needs a running mutation. -/
theorem mem_of_interrupts (h : Relation.ReflTransGen (Interrupts sha256) db db')
    (hstate : state ∈ db.mutationState) (hphase : state.phase ≠ .running) :
    state ∈ db'.mutationState := by
  induction h with
  | refl => exact hstate
  | tail _ hstep ih =>
      obtain ⟨running, hrunning, evidenceId, hrun, hmoves⟩ := hstep
      refine (hmoves.state.mem_iff state).mpr (Or.inr ⟨ih, fun heq => hphase ?_⟩)
      rw [Table.eq_of_key_eq _ ih hrunning heq, hrun]

/-- A registration leaves the other mutations alone. -/
theorem NewMutation.mem_state {new : MutationIntent}
    {initialEvidence : Option MutationVerificationEvidence}
    (h : NewMutation db db' new initialEvidence) (hstate : state ∈ db.mutationState) :
    state ∈ db'.mutationState := by
  cases h with
  | plain hregisters => exact (hregisters.state state).mpr (Or.inl hstate)
  | blocked hregisters hmoves =>
      refine (hmoves.state.mem_iff state).mpr (Or.inr ⟨(hregisters.state state).mpr
        (Or.inl hstate), hregisters.freshState state hstate⟩)

/-- A blocked intent is registered with its evidence. -/
theorem blocked_of_checkInitialEvidence
    {initialEvidence : Option MutationVerificationEvidence}
    (hcheck : checkInitialEvidence intent initialEvidence = .ok ())
    (hnew : NewMutation db db' intent initialEvidence)
    (hkind : intent.operationKind = .remoteExistingBlocked) :
    ∃ state ∈ db'.mutationState, state.operationId = intent.operationId ∧ IsBlocked state := by
  cases hnew with
  | plain hregisters =>
      rw [checkInitialEvidence, reject_eq_ok] at hcheck
      exact absurd hkind hcheck
  | blocked hregisters hmoves =>
      exact ⟨_, (hmoves.state.mem_iff _).mpr (Or.inl rfl), rfl, rfl, rfl⟩

variable (vaultId : Uuid) (op : Operation)

/-- A new blocked mutation starts blocked. -/
theorem blocked_of_registered (hintent : intent ∈ (step u sha256 vaultId db op).mutationIntents)
    (hkind : intent.operationKind = .remoteExistingBlocked) :
    intent ∈ db.mutationIntents ∨ ∃ state ∈ (step u sha256 vaultId db op).mutationState,
      state.operationId = intent.operationId ∧ IsBlocked state := by
  generalize hdb' : step u sha256 vaultId db op = db' at hintent ⊢
  cases hdb' ▸ mutationStep u sha256 vaultId db op with
  | same hsame => exact Or.inl (hsame.intents ▸ hintent)
  | registered valid initial new =>
      rcases new.mem_intents.mp hintent with hold | rfl
      · exact Or.inl hold
      · exact Or.inr (blocked_of_checkInitialEvidence initial new hkind)
  | claimed _ _ _ _ _ hmoves => exact Or.inl (hmoves.intents ▸ hintent)
  | recorded _ _ _ _ _ _ hmoves => exact Or.inl (hmoves.intents ▸ hintent)
  | reopened hsame hinterrupts =>
      rw [intents_of_interrupts hinterrupts, hsame.intents] at hintent
      exact Or.inl hintent

/-- The state of a blocked mutation stays as it is, or the mutation is reconciled. -/
theorem blocked_step (hintent : intent ∈ db.mutationIntents)
    (hkind : intent.operationKind = .remoteExistingBlocked) (hstate : state ∈ db.mutationState)
    (hid : state.operationId = intent.operationId) (hphase : state.phase ≠ .running) :
    state ∈ (step u sha256 vaultId db op).mutationState ∨
      ∃ evidence, op = .recordMutationOutcome intent.operationId state.stateVersion evidence
          .verifiedApplied ∧ state.phase = .needsReconcile ∧ ProvesApplied intent evidence ∧
        ∃ next ∈ (step u sha256 vaultId db op).mutationState,
          next.operationId = intent.operationId ∧ IsReconciled next evidence := by
  generalize hdb' : step u sha256 vaultId db op = db'
  cases hdb' ▸ mutationStep u sha256 vaultId db op with
  | same hsame => exact Or.inl (hsame.state ▸ hstate)
  | registered valid initial new => exact Or.inl (new.mem_state hstate)
  | claimed hclaimed hsame hexecutable _ _ hmoves =>
      refine Or.inl ((hmoves.state.mem_iff state).mpr (Or.inr ⟨hstate, fun heq => ?_⟩))
      -- the claimed intent would be this one, and it is not executable
      rw [Table.eq_of_key_eq _ hclaimed hintent ((hsame.trans heq.symm).trans hid)] at hexecutable
      exact hexecutable hkind
  | @recorded current evidence transition target _ valid hevidence hattempt hcurrent happlied
      htarget hmoves =>
      by_cases heq : state.operationId = current.operationId
      · obtain rfl : state = current := Table.eq_of_key_eq _ hstate hcurrent heq
        rcases transitionTarget_eq_ok htarget with
          ⟨rfl, hfrom, hdisposition, hcapture, hharmless, rfl⟩ | ⟨-, hrunning, -⟩
        · obtain ⟨other, hother, hsame, hmatch⟩ := happlied rfl
          obtain rfl : other = intent := Table.eq_of_key_eq _ hother hintent (hsame.trans hid)
          refine Or.inr ⟨evidence, by rw [hid], hfrom.resolve_left hphase, ?_, _,
            (hmoves.state.mem_iff _).mpr (Or.inl rfl), hid, ⟨rfl, rfl, rfl⟩⟩
          exact ⟨hevidence.trans hid, hcapture, hdisposition, hharmless,
            requireMatch_eq_ok.mp hmatch⟩
        · exact absurd hrunning hphase
      · exact Or.inl ((hmoves.state.mem_iff state).mpr (Or.inr ⟨hstate, heq⟩))
  | reopened hsame hinterrupts =>
      exact Or.inl (mem_of_interrupts hinterrupts (hsame.state ▸ hstate) hphase)

end Step

/-! ## Runs -/

section Runs

variable (u : Unicode) (sha256 : Sha256) (vaultId : Uuid)

/-- A call of the run found the mutation blocked and brought the evidence that the
intent is applied. -/
def WasReconciled (ops : List Operation) (intent : MutationIntent) (state : MutationState) :
    Prop :=
  ∃ pre blocked evidence post,
    ops = pre ++ .recordMutationOutcome intent.operationId blocked.stateVersion evidence
      .verifiedApplied :: post ∧
    (runStore u sha256 vaultId pre).mutationState.lookup intent.operationId = some blocked ∧
    IsBlocked blocked ∧ ProvesApplied intent evidence ∧ IsReconciled state evidence

variable {u sha256 vaultId}

theorem WasReconciled.concat {ops : List Operation} {intent : MutationIntent}
    {state : MutationState} (h : WasReconciled u sha256 vaultId ops intent state)
    (op : Operation) : WasReconciled u sha256 vaultId (ops ++ [op]) intent state := by
  obtain ⟨pre, blocked, evidence, post, rfl, hrest⟩ := h
  exact ⟨pre, blocked, evidence, post ++ [op], by simp, hrest⟩

variable (u sha256 vaultId)

/-- The invariant: a blocked mutation is blocked or was reconciled. -/
theorem blocked_or_reconciled (ops : List Operation) {intent : MutationIntent}
    (hintent : intent ∈ (runStore u sha256 vaultId ops).mutationIntents)
    (hkind : intent.operationKind = .remoteExistingBlocked) :
    ∃ state ∈ (runStore u sha256 vaultId ops).mutationState,
      state.operationId = intent.operationId ∧
        (IsBlocked state ∨ WasReconciled u sha256 vaultId ops intent state) := by
  induction ops using List.reverseRecOn with
  | nil => exact absurd hintent Table.not_mem_empty
  | append_singleton ops op ih =>
      rw [runStore, Runs.run_concat] at hintent ⊢
      rcases blocked_of_registered vaultId op hintent hkind with hold | ⟨state, hnew⟩
      · obtain ⟨state, hstate, hid, hcases⟩ := ih hold
        have hphase : state.phase ≠ .running := by
          rcases hcases with hblocked | ⟨_, _, _, _, _, _, _, _, hreconciled⟩
          · rw [hblocked.1]
            decide
          · rw [hreconciled.phase]
            decide
        rcases blocked_step vaultId op hold hkind hstate hid hphase with
          hkept | ⟨evidence, rfl, hfrom, hproves, next, hnext, hsame, hreconciled⟩
        · exact ⟨state, hkept, hid, hcases.imp_right fun h => h.concat op⟩
        · refine ⟨next, hnext, hsame, Or.inr ⟨ops, state, evidence, [], rfl,
            Table.lookup_eq_some_iff.mpr ⟨hstate, hid⟩, ?_, hproves, hreconciled⟩⟩
          refine hcases.resolve_right fun h => ?_
          obtain ⟨_, _, _, _, _, _, _, _, hcompleted⟩ := h
          rw [hcompleted.phase] at hfrom
          cases hfrom
      · exact ⟨state, hnew.1, hnew.2.1, Or.inl hnew.2.2⟩

/-- After its registration a blocked mutation is in `NeedsReconcile`, unless a call found
it there and proved that it is applied. -/
theorem blocked_until_reconciled (registered later : List Operation) {intent : MutationIntent}
    (hintent : intent ∈ (runStore u sha256 vaultId registered).mutationIntents)
    (hkind : intent.operationKind = .remoteExistingBlocked) :
    ∃ state, (runStore u sha256 vaultId (registered ++ later)).mutationState.lookup
        intent.operationId = some state ∧
      (IsBlocked state ∨ WasReconciled u sha256 vaultId (registered ++ later) intent state) := by
  obtain ⟨state, hstate, hid, hcases⟩ := blocked_or_reconciled u sha256 vaultId
    (registered ++ later) (mem_intents_run hintent later) hkind
  exact ⟨state, Table.lookup_eq_some_iff.mpr ⟨hstate, hid⟩, hcases⟩

end Runs

/-! ## A rename of a remote note -/

/-- A rename of a remote file. -/
def renameOperation : Uuid := ⟨[1, 1, 1, 1, 1, 1, 0x41, 1, 0x81, 1, 1, 1, 1, 1, 1, 1], rfl⟩

/-- The evidence of its refusal. -/
def refusalId : Uuid := ⟨[2, 2, 2, 2, 2, 2, 0x42, 2, 0x82, 2, 2, 2, 2, 2, 2, 2], rfl⟩

/-- The evidence that it was done after all. -/
def reconciliationId : Uuid := ⟨[3, 3, 3, 3, 3, 3, 0x43, 3, 0x83, 3, 3, 3, 3, 3, 3, 3], rfl⟩

/-- The intent to rename the file. -/
def renameIntent : MutationIntent where
  operationId := renameOperation
  operationKind := .remoteExistingBlocked
  accountId := some "account"
  remoteRootId := some "root"
  remoteFileId := some "file"
  sourceParentId := some "parent"
  destinationParentId := none
  localObjectId := none
  sourcePath := some "note.md"
  destinationPath := none
  expectedLocalRevision := none
  expectedRemoteRevision := some "revision"
  baseReference := none
  baseLocalRevision := none
  baseRemoteRevision := none
  baseSha256 := none
  baseByteLength := none
  expectedLocalSha256 := none
  expectedLocalByteLength := none
  expectedRemoteSha256 := none
  expectedRemoteByteLength := none
  operationMarker := "marker"
  intentFingerprint := "a27b359a3e5ec9a8999536ad887b5a7935f0a30e71370da49d75b8b9fa1b7e75"
  registeredAtUnixMs := 10

/-- The evidence of the refusal. -/
def refusal : MutationVerificationEvidence where
  evidenceId := refusalId
  operationId := renameOperation
  attemptNumber := 0
  capturePhase := .preflight
  disposition := .needsReconcile
  outcomeCode := some "remote_existing_blocked"
  observedAccountId := some "account"
  observedRemoteRootId := some "root"
  observedRemoteFileId := some "file"
  observedParentId := some "parent"
  observedPath := some "note.md"
  observedLocalRevision := none
  observedRemoteRevision := some "revision"
  observedSha256 := none
  observedByteLength := none
  observedOperationMarker := some "marker"
  forbiddenSideEffect := true
  verifiedReceivedByteOffset := none
  resumeReference := none
  evidenceFingerprint := "f017917df749986f7ac067660bae0c18be828ea41bdefb18cabf0985ab7d39c7"
  capturedAtUnixMs := 10

/-- The evidence of a reconciliation. -/
def reconciliation : MutationVerificationEvidence :=
  { refusal with
    evidenceId := reconciliationId
    capturePhase := .postVerify
    disposition := .verifiedApplied
    outcomeCode := none
    forbiddenSideEffect := false
    evidenceFingerprint := "8599967cc8c864d0c61cc418f1c19027b72bd9d61a8f016433ac925dd950f61e"
    capturedAtUnixMs := 20 }

/-- The SHA-256 digests of the canonical bytes of the three records; these have 717, 755
and 727 bytes. -/
def renameDigest : Sha256 := fun stream =>
  if stream.length = 717 then ⟨
    [0xa2, 0x7b, 0x35, 0x9a, 0x3e, 0x5e, 0xc9, 0xa8, 0x99, 0x95, 0x36,
     0xad, 0x88, 0x7b, 0x5a, 0x79, 0x35, 0xf0, 0xa3, 0x0e, 0x71, 0x37,
     0x0d, 0xa4, 0x9d, 0x75, 0xb8, 0xb9, 0xfa, 0x1b, 0x7e, 0x75], rfl⟩
  else if stream.length = 755 then ⟨
    [0xf0, 0x17, 0x91, 0x7d, 0xf7, 0x49, 0x98, 0x6f, 0x7a, 0xc0, 0x67,
     0x66, 0x0b, 0xae, 0x0c, 0x18, 0xbe, 0x82, 0x8e, 0xa4, 0x1b, 0xde,
     0xfb, 0x18, 0xca, 0xbf, 0x09, 0x85, 0xab, 0x7d, 0x39, 0xc7], rfl⟩
  else ⟨
    [0x85, 0x99, 0x96, 0x7c, 0xc8, 0xc8, 0x64, 0xd0, 0xc6, 0x1c, 0xc4,
     0x18, 0xf1, 0xc1, 0x90, 0x27, 0xb7, 0x2b, 0xd9, 0xd6, 0x1a, 0x8f,
     0x01, 0x64, 0x33, 0xac, 0x92, 0x5d, 0xd9, 0x50, 0xf6, 0x1e], rfl⟩

/-- Registers the intent with the evidence of its refusal. -/
def registerRename : Operation := .registerMutationIntent renameIntent (some refusal)

/-- The outcome of the rename is recorded. -/
def reconcileRename : Operation :=
  .recordMutationOutcome renameOperation 1 reconciliation .verifiedApplied

theorem rename_registered : renameIntent ∈
    (runStore Unicode.ascii renameDigest sampleVaultId [registerRename]).mutationIntents := by
  rw [← Table.mem_rows]
  decide +kernel

theorem blocked_until_reconciled_rename :
    ∃ state, (runStore Unicode.ascii renameDigest sampleVaultId
        ([registerRename] ++ [.claimMutation renameOperation 1 11])).mutationState.lookup
        renameIntent.operationId = some state ∧
      (IsBlocked state ∨ WasReconciled Unicode.ascii renameDigest sampleVaultId
        ([registerRename] ++ [.claimMutation renameOperation 1 11]) renameIntent state) :=
  blocked_until_reconciled Unicode.ascii renameDigest sampleVaultId [registerRename]
    [.claimMutation renameOperation 1 11] rename_registered rfl

/-- A blocked mutation can be completed: the transition asks for its phase, not for the
kind of its intent. -/
theorem blocked_mutation_completes :
    renameIntent.operationKind = .remoteExistingBlocked ∧
      renameIntent ∈
        (runStore Unicode.ascii renameDigest sampleVaultId [registerRename]).mutationIntents ∧
      ((runStore Unicode.ascii renameDigest sampleVaultId
        ([registerRename] ++ [reconcileRename])).mutationState.lookup
          renameIntent.operationId).map (fun state => (state.phase, state.disposition)) =
        some (.completed, some .verifiedApplied) :=
  ⟨rfl, rename_registered, by decide +kernel⟩

end Store
end MyVault
