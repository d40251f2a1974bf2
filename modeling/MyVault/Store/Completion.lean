import MyVault.Store.Moves

/-!
# A completed mutation is proven

`ProvesApplied` is what an evidence record has to say before a mutation counts as
applied.  `Completion` is the whole record the store keeps of a completed mutation:
the intent, the state, the evidence and the last event, and that they agree.
Intents, evidence and events are only added and a completed state is never replaced,
so in every reachable database every completed state has its `Completion`.
-/

namespace MyVault
namespace Store

open Check

/-! ## Evidence of an applied mutation -/

/-- What the intent fixes is what was observed. -/
def Fixes {α : Type} (expected observed : Option α) : Prop :=
  ∀ value, expected = some value → observed = some value

/-- The evidence agrees with every field the intent fixes. -/
structure Agrees (intent : MutationIntent) (evidence : MutationVerificationEvidence) : Prop where
  accountId : Fixes intent.accountId evidence.observedAccountId
  remoteRootId : Fixes intent.remoteRootId evidence.observedRemoteRootId
  remoteFileId : Fixes intent.remoteFileId evidence.observedRemoteFileId
  parentId : Fixes (intent.destinationParentId.or intent.sourceParentId) evidence.observedParentId
  path : Fixes (intent.destinationPath.or intent.sourcePath) evidence.observedPath
  localRevision : Fixes intent.expectedLocalRevision evidence.observedLocalRevision
  remoteRevision : Fixes intent.expectedRemoteRevision evidence.observedRemoteRevision
  localSha256 : Fixes intent.expectedLocalSha256 evidence.observedSha256
  localByteLength : Fixes intent.expectedLocalByteLength evidence.observedByteLength
  remoteSha256 : Fixes intent.expectedRemoteSha256 evidence.observedSha256
  remoteByteLength : Fixes intent.expectedRemoteByteLength evidence.observedByteLength
  operationMarker : evidence.observedOperationMarker = some intent.operationMarker

theorem requireExpectedMatch_eq_ok {α : Type} [DecidableEq α] {expected observed : Option α} :
    requireExpectedMatch expected observed = .ok () ↔ Fixes expected observed := by
  rw [requireExpectedMatch, reject_eq_ok, Fixes]
  cases expected with
  | none => simp
  | some value => simp [eq_comm]

theorem requireMatch_eq_ok {intent : MutationIntent} {evidence : MutationVerificationEvidence} :
    intent.requireMatch evidence = .ok () ↔ Agrees intent evidence := by
  simp only [MutationIntent.requireMatch, seq_eq_ok, requireExpectedMatch_eq_ok, reject_eq_ok,
    Decidable.not_not]
  constructor
  · rintro ⟨h₁, h₂, h₃, h₄, h₅, h₆, h₇, h₈, h₉, h₁₀, h₁₁, h₁₂⟩
    exact ⟨h₁, h₂, h₃, h₄, h₅, h₆, h₇, h₈, h₉, h₁₀, h₁₁, h₁₂⟩
  · rintro ⟨h₁, h₂, h₃, h₄, h₅, h₆, h₇, h₈, h₉, h₁₀, h₁₁, h₁₂⟩
    exact ⟨h₁, h₂, h₃, h₄, h₅, h₆, h₇, h₈, h₉, h₁₀, h₁₁, h₁₂⟩

/-- The evidence shows the final state the intent asked for. -/
structure ProvesApplied (intent : MutationIntent) (evidence : MutationVerificationEvidence) :
    Prop where
  operationId : evidence.operationId = intent.operationId
  postVerify : evidence.capturePhase = .postVerify
  applied : evidence.disposition = .verifiedApplied
  harmless : evidence.forbiddenSideEffect = false
  agrees : Agrees intent evidence

/-- There are two transitions: a verified one, and a failure of a running mutation. -/
theorem transitionTarget_eq_ok {current : MutationPhase}
    {evidence : MutationVerificationEvidence} {transition : MutationOutcomeTransition}
    {target : TransitionTarget} (h : transitionTarget current evidence transition = .ok target) :
    (transition = .verifiedApplied ∧ (current = .running ∨ current = .needsReconcile) ∧
        evidence.disposition = .verifiedApplied ∧ evidence.capturePhase = .postVerify ∧
        evidence.forbiddenSideEffect = false ∧
        target = ⟨.completed, .verifiedApplied, none, none, none⟩) ∨
      (transition = .needsReconcile ∧ current = .running ∧
        target = ⟨.needsReconcile, .needsReconcile, none, none, none⟩) := by
  cases transition with
  | verifiedApplied =>
      rw [transitionTarget] at h
      split at h
      · rename_i hcond
        exact Or.inl ⟨rfl, hcond.1, hcond.2.1, hcond.2.2.1, hcond.2.2.2, (Except.ok.inj h).symm⟩
      · cases h
  | needsReconcile =>
      rw [transitionTarget] at h
      split at h
      · rename_i hcond
        exact Or.inr ⟨rfl, hcond.1, (Except.ok.inj h).symm⟩
      · cases h
  | verifiedNotApplied next => cases h
  | retrySafe next mode => cases h

/-! ## Completions -/

/-- What the database holds of a completed mutation. -/
structure Completion (db : Database) (intent : MutationIntent) (state : MutationState)
    (evidence : MutationVerificationEvidence) (event : MutationEvent) : Prop where
  intent_mem : intent ∈ db.mutationIntents
  state_mem : state ∈ db.mutationState
  evidence_mem : evidence ∈ db.mutationEvidence
  event_mem : event ∈ db.mutationEvents
  operationId : state.operationId = intent.operationId
  phase : state.phase = .completed
  disposition : state.disposition = some .verifiedApplied
  lastEvidenceId : state.lastEvidenceId = some evidence.evidenceId
  proves : ProvesApplied intent evidence
  attemptNumber : evidence.attemptNumber = state.attemptNumber
  outcomeCode : evidence.outcomeCode = state.outcomeCode
  isEventOf : IsEventOf event state (some evidence.evidenceId)
  last : ∀ other ∈ db.mutationEvents, other.operationId = intent.operationId →
    other.eventId ≤ event.eventId

variable {db db' : Database}

namespace Completion

variable {intent : MutationIntent} {state : MutationState}
  {evidence : MutationVerificationEvidence} {event : MutationEvent}

/-- Events of other mutations do not matter. -/
theorem last_of_announces (h : Completion db intent state evidence event)
    {other : MutationState} {evidenceId : Option Uuid}
    (hannounces : Announces db db' other evidenceId)
    (hne : other.operationId ≠ intent.operationId) : ∀ row ∈ db'.mutationEvents,
      row.operationId = intent.operationId → row.eventId ≤ event.eventId := by
  obtain ⟨new, hnew, -, hmem⟩ := hannounces
  intro row hrow hid
  rcases (hmem row).mp hrow with hrow | rfl
  · exact h.last row hrow hid
  · exact absurd (hnew.operationId.symm.trans hid) hne

theorem mem_of_announces (h : Completion db intent state evidence event)
    {other : MutationState} {evidenceId : Option Uuid}
    (hannounces : Announces db db' other evidenceId) : event ∈ db'.mutationEvents := by
  obtain ⟨_, -, -, hmem⟩ := hannounces
  exact (hmem event).mpr (Or.inl h.event_mem)

/-- A move of another mutation. -/
theorem of_moves (h : Completion db intent state evidence event) {next : MutationState}
    {added : Option MutationVerificationEvidence} (hmoves : Moves db db' next added)
    (hne : state.operationId ≠ next.operationId) : Completion db' intent state evidence event :=
  { h with
    intent_mem := hmoves.intents ▸ h.intent_mem
    state_mem := (hmoves.state.mem_iff state).mpr (Or.inr ⟨h.state_mem, hne⟩)
    evidence_mem := (hmoves.mem_evidence_iff evidence).mpr (Or.inl h.evidence_mem)
    event_mem := h.mem_of_announces hmoves.announced
    last := h.last_of_announces hmoves.announced fun heq => hne (h.operationId.trans heq.symm) }

/-- Another mutation is registered. -/
theorem of_registers (h : Completion db intent state evidence event) {new : MutationIntent}
    (hregisters : Registers db db' new) : Completion db' intent state evidence event :=
  { h with
    intent_mem := (hregisters.intents intent).mpr (Or.inl h.intent_mem)
    state_mem := (hregisters.state state).mpr (Or.inl h.state_mem)
    evidence_mem := hregisters.evidence ▸ h.evidence_mem
    event_mem := h.mem_of_announces hregisters.announced
    last := h.last_of_announces hregisters.announced fun heq =>
      hregisters.fresh intent h.intent_mem heq.symm }

theorem of_same (h : Completion db intent state evidence event) (hsame : SameMutations db db') :
    Completion db' intent state evidence event :=
  { h with
    intent_mem := hsame.intents ▸ h.intent_mem
    state_mem := hsame.state ▸ h.state_mem
    evidence_mem := hsame.evidence ▸ h.evidence_mem
    event_mem := hsame.events ▸ h.event_mem
    last := hsame.events ▸ h.last }

end Completion

/-! ## The invariant -/

/-- Every completed state has its completion. -/
def CompletedAreProven (db : Database) : Prop :=
  ∀ state ∈ db.mutationState, state.phase = .completed →
    ∃ intent evidence event, Completion db intent state evidence event

namespace CompletedAreProven

theorem empty : CompletedAreProven Database.empty := fun _ h => absurd h Table.not_mem_empty

theorem of_same (h : CompletedAreProven db) (hsame : SameMutations db db') :
    CompletedAreProven db' := by
  intro state hstate hphase
  rw [hsame.state] at hstate
  obtain ⟨intent, evidence, event, hcompletion⟩ := h state hstate hphase
  exact ⟨intent, evidence, event, hcompletion.of_same hsame⟩

/-- A move is proven if it completes the mutation. -/
theorem of_moves (h : CompletedAreProven db) {next : MutationState}
    {added : Option MutationVerificationEvidence} (hmoves : Moves db db' next added)
    (hnext : next.phase = .completed →
      ∃ intent evidence event, Completion db' intent next evidence event) :
    CompletedAreProven db' := by
  intro state hstate hphase
  rcases (hmoves.state.mem_iff state).mp hstate with rfl | ⟨hstate, hne⟩
  · exact hnext hphase
  · obtain ⟨intent, evidence, event, hcompletion⟩ := h state hstate hphase
    exact ⟨intent, evidence, event, hcompletion.of_moves hmoves hne⟩

theorem of_registers (h : CompletedAreProven db) {new : MutationIntent}
    (hregisters : Registers db db' new) : CompletedAreProven db' := by
  intro state hstate hphase
  rcases (hregisters.state state).mp hstate with hstate | rfl
  · obtain ⟨intent, evidence, event, hcompletion⟩ := h state hstate hphase
    exact ⟨intent, evidence, event, hcompletion.of_registers hregisters⟩
  · cases hphase

theorem of_interrupts {sha256 : Sha256} (h : CompletedAreProven db)
    (hinterrupts : Relation.ReflTransGen (Interrupts sha256) db db') :
    CompletedAreProven db' := by
  induction hinterrupts with
  | refl => exact h
  | tail _ hstep ih =>
      obtain ⟨state, -, evidenceId, -, hmoves⟩ := hstep
      exact ih.of_moves hmoves fun hphase => by cases hphase

end CompletedAreProven

/-- The move of an accepted outcome. -/
theorem completion_of_recorded {state : MutationState} {evidence : MutationVerificationEvidence}
    {transition : MutationOutcomeTransition} {target : TransitionTarget}
    (hid : evidence.operationId = state.operationId)
    (hattempt : evidence.attemptNumber = state.attemptNumber)
    (happlied : transition = .verifiedApplied → ∃ intent ∈ db.mutationIntents,
      intent.operationId = state.operationId ∧ intent.requireMatch evidence = .ok ())
    (htarget : transitionTarget state.phase evidence transition = .ok target)
    (hmoves : Moves db db' (recordedMutationState state evidence target) (some evidence))
    (hphase : target.phase = .completed) :
    ∃ intent event, Completion db' intent (recordedMutationState state evidence target) evidence
      event := by
  rcases transitionTarget_eq_ok htarget with
    ⟨htransition, -, hdisposition, hcapture, hharmless, rfl⟩ | ⟨-, -, rfl⟩
  · obtain ⟨intent, hintent, hsame, hmatch⟩ := happlied htransition
    obtain ⟨event, hevent, hlast, hmem⟩ := hmoves.announced
    refine ⟨intent, event, ?_⟩
    exact
      { intent_mem := hmoves.intents ▸ hintent
        state_mem := (hmoves.state.mem_iff _).mpr (Or.inl rfl)
        evidence_mem := (hmoves.mem_evidence_iff _).mpr (Or.inr rfl)
        event_mem := (hmem _).mpr (Or.inr rfl)
        operationId := hsame.symm
        phase := rfl
        disposition := rfl
        lastEvidenceId := rfl
        proves :=
          { operationId := hid.trans hsame.symm
            postVerify := hcapture
            applied := hdisposition
            harmless := hharmless
            agrees := requireMatch_eq_ok.mp hmatch }
        attemptNumber := hattempt
        outcomeCode := rfl
        isEventOf := hevent
        last := fun other hother _ => by
          rcases (hmem other).mp hother with hother | rfl
          · exact (hlast other hother).le
          · exact Nat.le_refl _ }
  · cases hphase

section Runs

variable (u : Unicode) (sha256 : Sha256) (vaultId : Uuid)

theorem completedAreProven_step (db : Database) (op : Operation) (h : CompletedAreProven db) :
    CompletedAreProven (step u sha256 vaultId db op) := by
  cases mutationStep u sha256 vaultId db op with
  | same hsame => exact h.of_same hsame
  | registered valid initial new =>
      cases new with
      | plain hregisters => exact h.of_registers hregisters
      | blocked hregisters hmoves =>
          exact (h.of_registers hregisters).of_moves hmoves fun hphase => by cases hphase
  | claimed hintent hid hkind hstate hclaimable hmoves =>
      exact h.of_moves hmoves fun hphase => by cases hphase
  | recorded valid hid hattempt hstate happlied htarget hmoves =>
      refine h.of_moves hmoves fun hphase => ?_
      obtain ⟨intent, event, hcompletion⟩ :=
        completion_of_recorded hid hattempt happlied htarget hmoves hphase
      exact ⟨intent, _, event, hcompletion⟩
  | reopened hsame hinterrupts => exact (h.of_same hsame).of_interrupts hinterrupts

/-- In every reachable database a completed mutation is proven. -/
theorem completedAreProven_run (ops : List Operation) :
    CompletedAreProven (runStore u sha256 vaultId ops) :=
  Runs.run_induction (completedAreProven_step u sha256 vaultId) ops .empty

end Runs

end Store
end MyVault
