import MyVault.Library.Log
import MyVault.Store.Batches
import MyVault.Store.Moves

/-!
# The event log of the mutations is their history

The state of a mutation, its events and its evidence are in three tables, and four
calls write them.  `FaithfulLog` is the invariant: the events of a mutation are a
`History` of its state, and an evidence id is always one of the mutation's own.
A registration and a move both announce one new state (`FaithfulLog.announce`), so
one argument serves all four calls, and the recovery of any number of running
mutations is one more induction.

The log only grows (`eventsOf_prefix_run`), and a call that expects a version succeeds
only where the log has exactly the events up to that version, and adds one.  So no two
calls that expect the same version succeed.

## Main results

* `FaithfulLog.announce`: an announced state keeps the log faithful.  A registration, a move and
  the recovery of a running mutation are such announcements.
* `faithfulLog_run`: the log is faithful in every state of a run.
* `eventsOf_prefix_run`, `length_eventsOf_of_expects`: it only grows, and a call that expects a
  version finds exactly so many events.
* `mutation_history`: the parts together, over every run of the store's calls.

`History` is the abstract layer, in `Library.Log`: a list of entries whose versions count up from
the first.  The state of a mutation is what the last entry records of it.
-/

namespace MyVault
namespace Store

open Check Program

/-! ## Histories of mutations -/

/-- What an event and a state say of a mutation. -/
structure MutationStatus where
  phase : MutationPhase
  attemptNumber : ℕ
  disposition : Option MutationDisposition
  outcomeCode : Option String
  deriving DecidableEq

/-- What an event says about its intent. -/
def MutationEvent.status (event : MutationEvent) : MutationStatus :=
  ⟨event.phase, event.attemptNumber, event.disposition, event.outcomeCode⟩

/-- What the state says about it. -/
def MutationState.status (state : MutationState) : MutationStatus :=
  ⟨state.phase, state.attemptNumber, state.disposition, state.outcomeCode⟩

/-- The events of a mutation, ordered by `event_id`. -/
def Database.eventsOf (db : Database) (operationId : Uuid) : List MutationEvent :=
  db.mutationEvents.log fun event => decide (event.operationId = operationId)

/-- The events tell the versions `0, 1, …` up to the current one, and the last event says
what the state says. -/
def HistoryOf (events : List MutationEvent) (state : MutationState) : Prop :=
  History MutationEvent.stateVersion MutationEvent.status events state.stateVersion state.status

/-- The evidence that is named, if any, is a record of the mutation. -/
def NamesEvidence (db : Database) (operationId : Uuid) (evidenceId : Option Uuid) : Prop :=
  ∀ id ∈ evidenceId, ∃ evidence ∈ db.mutationEvidence,
    evidence.evidenceId = id ∧ evidence.operationId = operationId

/-- The three tables agree. -/
structure FaithfulLog (db : Database) : Prop where
  registered : ∀ intent ∈ db.mutationIntents, ∃ state ∈ db.mutationState,
    state.operationId = intent.operationId
  history : ∀ state ∈ db.mutationState, HistoryOf (db.eventsOf state.operationId) state
  known : ∀ event ∈ db.mutationEvents, ∃ state ∈ db.mutationState,
    state.operationId = event.operationId
  stateEvidence : ∀ state ∈ db.mutationState,
    NamesEvidence db state.operationId state.lastEvidenceId
  eventEvidence : ∀ event ∈ db.mutationEvents,
    NamesEvidence db event.operationId event.evidenceId

variable {db db' : Database}

theorem namesEvidence_none (operationId : Uuid) : NamesEvidence db operationId none :=
  fun _ hid => nomatch hid

theorem NamesEvidence.mono {operationId : Uuid} {evidenceId : Option Uuid}
    (h : NamesEvidence db operationId evidenceId)
    (hsub : ∀ row ∈ db.mutationEvidence, row ∈ db'.mutationEvidence) :
    NamesEvidence db' operationId evidenceId := by
  intro id hid
  obtain ⟨evidence, hevidence, hnames⟩ := h id hid
  exact ⟨evidence, hsub evidence hevidence, hnames⟩

/-! ## Announcements -/

theorem IsEventOf.status_eq {event : MutationEvent} {state : MutationState}
    {evidenceId : Option Uuid} (h : IsEventOf event state evidenceId) :
    event.status = state.status := by
  rw [MutationEvent.status, MutationState.status, h.phase, h.attemptNumber, h.disposition,
    h.outcomeCode]

section Announce

variable {next : MutationState} {evidenceId : Option Uuid}

/-- An announcement comes to the end of the events of its mutation. -/
theorem eventsOf_of_announces (h : Announces db db' next evidenceId) :
    ∃ event, IsEventOf event next evidenceId ∧
      db'.eventsOf next.operationId = db.eventsOf next.operationId ++ [event] := by
  obtain ⟨event, hevent, hlast, hmem⟩ := h
  exact ⟨event, hevent, Table.log_of_last hmem hlast (decide_eq_true hevent.operationId)⟩

theorem eventsOf_of_announces_ne (h : Announces db db' next evidenceId) {operationId : Uuid}
    (hne : operationId ≠ next.operationId) :
    db'.eventsOf operationId = db.eventsOf operationId := by
  obtain ⟨event, hevent, -, hmem⟩ := h
  refine Table.log_of_other hmem fun heq => hne ?_
  rw [← of_decide_eq_true heq, hevent.operationId]

/-- One state is new or replaced, and one event announces it. -/
theorem FaithfulLog.announce (h : FaithfulLog db)
    (hannounces : Announces db db' next evidenceId)
    (hstates : ∀ row, row ∈ db'.mutationState ↔
      row = next ∨ row ∈ db.mutationState ∧ row.operationId ≠ next.operationId)
    (hintents : ∀ intent ∈ db'.mutationIntents,
      intent ∈ db.mutationIntents ∨ intent.operationId = next.operationId)
    (hsub : ∀ row ∈ db.mutationEvidence, row ∈ db'.mutationEvidence)
    (hhistory : ∀ event, IsEventOf event next evidenceId →
      HistoryOf (db.eventsOf next.operationId ++ [event]) next)
    (hstateEvidence : NamesEvidence db' next.operationId next.lastEvidenceId)
    (heventEvidence : NamesEvidence db' next.operationId evidenceId) : FaithfulLog db' := by
  -- every mutation that had a state has one
  have hkeeps : ∀ {operationId : Uuid}, (∃ state ∈ db.mutationState,
      state.operationId = operationId) → ∃ state ∈ db'.mutationState,
        state.operationId = operationId := by
    rintro _ ⟨state, hstate, rfl⟩
    by_cases heq : state.operationId = next.operationId
    · exact ⟨next, (hstates next).mpr (Or.inl rfl), heq.symm⟩
    · exact ⟨state, (hstates state).mpr (Or.inr ⟨hstate, heq⟩), rfl⟩
  obtain ⟨event, hevent, -, hevents⟩ := id hannounces
  constructor
  · intro intent hintent
    rcases hintents intent hintent with hold | hnew
    · exact hkeeps (h.registered intent hold)
    · exact ⟨next, (hstates next).mpr (Or.inl rfl), hnew.symm⟩
  · intro state hstate
    rcases (hstates state).mp hstate with rfl | ⟨hold, hne⟩
    · obtain ⟨event, hevent, hlog⟩ := eventsOf_of_announces hannounces
      rw [hlog]
      exact hhistory event hevent
    · rw [eventsOf_of_announces_ne hannounces hne]
      exact h.history state hold
  · intro row hrow
    rcases (hevents row).mp hrow with hold | rfl
    · exact hkeeps (h.known row hold)
    · exact ⟨next, (hstates next).mpr (Or.inl rfl), hevent.operationId.symm⟩
  · intro state hstate
    rcases (hstates state).mp hstate with rfl | ⟨hold, -⟩
    · exact hstateEvidence
    · exact (h.stateEvidence state hold).mono hsub
  · intro row hrow
    rcases (hevents row).mp hrow with hold | rfl
    · exact (h.eventEvidence row hold).mono hsub
    · rw [hevent.operationId, hevent.evidenceId]
      exact heventEvidence

end Announce

/-! ## Steps -/

theorem faithfulLog_empty : FaithfulLog Database.empty where
  registered _ hintent := absurd hintent Table.not_mem_empty
  history _ hstate := absurd hstate Table.not_mem_empty
  known _ hevent := absurd hevent Table.not_mem_empty
  stateEvidence _ hstate := absurd hstate Table.not_mem_empty
  eventEvidence _ hevent := absurd hevent Table.not_mem_empty

theorem FaithfulLog.same (h : FaithfulLog db) (hsame : SameMutations db db') :
    FaithfulLog db' := by
  obtain ⟨hregistered, hhistory, hknown, hstate, hevent⟩ := h
  constructor
  · rw [hsame.intents, hsame.state]
    exact hregistered
  · rw [hsame.state]
    intro state hmem
    rw [Database.eventsOf, hsame.events]
    exact hhistory state hmem
  · rw [hsame.events, hsame.state]
    exact hknown
  · rw [hsame.state]
    exact fun state hmem => (hstate state hmem).mono fun row hrow => hsame.evidence ▸ hrow
  · rw [hsame.events]
    exact fun event hmem => (hevent event hmem).mono fun row hrow => hsame.evidence ▸ hrow

/-- A mutation without a state has no events. -/
theorem FaithfulLog.eventsOf_eq_nil (h : FaithfulLog db) {operationId : Uuid}
    (hfresh : ∀ row ∈ db.mutationState, row.operationId ≠ operationId) :
    db.eventsOf operationId = [] := by
  rw [List.eq_nil_iff_forall_not_mem]
  intro event hevent
  obtain ⟨hmem, hid⟩ := Table.mem_log.mp hevent
  obtain ⟨state, hstate, hsame⟩ := h.known event hmem
  exact hfresh state hstate (hsame.trans (of_decide_eq_true hid))

theorem FaithfulLog.registers (h : FaithfulLog db) {intent : MutationIntent}
    (hregisters : Registers db db' intent) : FaithfulLog db' := by
  refine h.announce hregisters.announced (fun row => ?_) (fun new hnew => ?_)
    (fun row hrow => hregisters.evidence ▸ hrow) (fun event hevent => ?_)
    (namesEvidence_none _) (namesEvidence_none _)
  · rw [hregisters.state]
    constructor
    · rintro (hold | rfl)
      · exact Or.inr ⟨hold, hregisters.freshState row hold⟩
      · exact Or.inl rfl
    · rintro (rfl | ⟨hold, -⟩)
      · exact Or.inr rfl
      · exact Or.inl hold
  · refine ((hregisters.intents new).mp hnew).imp_right ?_
    rintro rfl
    rfl
  · have hnil : db.eventsOf (initialMutationState intent).operationId = [] :=
      h.eventsOf_eq_nil hregisters.freshState
    rw [hnil, List.nil_append, HistoryOf, ← hevent.status_eq]
    exact History.first hevent.stateVersion

/-- A move continues the history, whatever the mutation it is about. -/
theorem FaithfulLog.moves (h : FaithfulLog db) {next : MutationState}
    {evidence : Option MutationVerificationEvidence} (hmoves : Moves db db' next evidence)
    (hown : ∀ row ∈ evidence, row.operationId = next.operationId)
    (hlast : NamesEvidence db' next.operationId next.lastEvidenceId) : FaithfulLog db' := by
  have hsub : ∀ row ∈ db.mutationEvidence, row ∈ db'.mutationEvidence :=
    fun row hrow => (hmoves.mem_evidence_iff row).mpr (Or.inl hrow)
  refine h.announce hmoves.announced hmoves.state.mem_iff
    (fun intent hintent => Or.inl (hmoves.intents ▸ hintent)) hsub (fun event hevent => ?_) hlast
    fun id hid => ?_
  · obtain ⟨old, hold, hid, hversion⟩ := hmoves.state.existed
    have hhistory : HistoryOf (db.eventsOf next.operationId) old := hid ▸ h.history old hold
    rw [HistoryOf, hversion, ← hevent.status_eq]
    exact hhistory.next (hevent.stateVersion.trans hversion)
  · obtain ⟨row, rfl, rfl⟩ := Option.map_eq_some_iff.mp hid
    exact ⟨row, (hmoves.mem_evidence_iff row).mpr (Or.inr rfl), rfl, hown row rfl⟩

/-- A move whose evidence is the last evidence of the new state. -/
theorem FaithfulLog.moves_of_evidence (h : FaithfulLog db) {next : MutationState}
    {evidence : MutationVerificationEvidence} (hmoves : Moves db db' next (some evidence))
    (hown : evidence.operationId = next.operationId)
    (hlast : next.lastEvidenceId = some evidence.evidenceId) : FaithfulLog db' := by
  refine h.moves hmoves (fun row hrow => ?_) fun id hid => ?_
  · rw [← Option.some.inj hrow]
    exact hown
  · rw [hlast] at hid
    exact ⟨evidence, (hmoves.mem_evidence_iff _).mpr (Or.inr rfl), Option.some.inj hid, hown⟩

theorem FaithfulLog.interrupts {sha256 : Sha256} (h : FaithfulLog db)
    (hinterrupts : Relation.ReflTransGen (Interrupts sha256) db db') : FaithfulLog db' := by
  induction hinterrupts with
  | refl => exact h
  | tail _ hstep ih =>
      obtain ⟨state, -, evidenceId, -, hmoves⟩ := hstep
      exact ih.moves_of_evidence hmoves rfl rfl

section Runs

variable {u : Unicode} {sha256 : Sha256} {vaultId : Uuid}

/-- The evidence that comes with an intent is about its mutation. -/
theorem operationId_of_registerMutationIntent {intent : MutationIntent}
    {evidence : MutationVerificationEvidence} {r : MutationRegistrationOutcome}
    (h : exec (registerMutationIntent u sha256 intent (some evidence)) db = (.ok r, db')) :
    evidence.operationId = intent.operationId := by
  simp only [registerMutationIntent, exec_bind_ok, exec_lift_ok] at h
  obtain ⟨_, _, -, _, _, ⟨heach, -⟩, -⟩ := h
  rw [Option.toList_some, each_eq_ok] at heach
  have hevidence := heach evidence List.mem_cons_self
  simp only [bind_eq_ok, reject_eq_ok, Decidable.not_not] at hevidence
  obtain ⟨_, -, hid⟩ := hevidence
  exact hid

theorem FaithfulLog.step (h : FaithfulLog db) (op : Operation) :
    FaithfulLog (step u sha256 vaultId db op) := by
  rcases step_eq_or_ok u sha256 vaultId db op with hsame | ⟨reply, hok⟩
  · rw [hsame]
    exact h
  have hstep := mutationStep u sha256 vaultId db op
  generalize Store.step u sha256 vaultId db op = after at hstep hok
  cases hstep with
  | same hsame => exact h.same hsame
  | registered _ _ hnew =>
      cases hnew with
      | plain hregisters => exact h.registers hregisters
      | blocked hregisters hmoves =>
          obtain ⟨_, hcall, -⟩ := exec_replying_ok.mp hok
          exact (h.registers hregisters).moves_of_evidence hmoves
            (operationId_of_registerMutationIntent hcall) rfl
  | claimed _ _ _ hstate _ hmoves =>
      -- the last evidence is that of the state before
      refine h.moves hmoves (fun _ hrow => nomatch hrow) ?_
      exact (h.stateEvidence _ hstate).mono
        fun row hrow => (hmoves.mem_evidence_iff row).mpr (Or.inl hrow)
  | recorded _ hid _ _ _ _ hmoves => exact h.moves_of_evidence hmoves hid rfl
  | reopened hsame hinterrupts => exact (h.same hsame).interrupts hinterrupts

theorem faithfulLog_run (ops : List Operation) : FaithfulLog (runStore u sha256 vaultId ops) :=
  Runs.run_induction (fun _ op h => h.step op) ops faithfulLog_empty

/-! ## The log grows -/

theorem eventsOf_prefix_of_announces {next : MutationState} {evidenceId : Option Uuid}
    (h : Announces db db' next evidenceId) (operationId : Uuid) :
    db.eventsOf operationId <+: db'.eventsOf operationId := by
  by_cases heq : operationId = next.operationId
  · obtain ⟨event, -, hlog⟩ := eventsOf_of_announces h
    rw [heq, hlog]
    exact List.prefix_append _ _
  · have hsame := eventsOf_of_announces_ne h heq
    exact hsame ▸ List.prefix_refl _

theorem eventsOf_of_same (h : SameMutations db db') (operationId : Uuid) :
    db'.eventsOf operationId = db.eventsOf operationId := by
  rw [Database.eventsOf, h.events, Database.eventsOf]

theorem eventsOf_prefix_of_interrupts
    (h : Relation.ReflTransGen (Interrupts sha256) db db') (operationId : Uuid) :
    db.eventsOf operationId <+: db'.eventsOf operationId := by
  induction h with
  | refl => exact List.prefix_refl _
  | tail _ hstep ih =>
      obtain ⟨_, -, _, -, hmoves⟩ := hstep
      exact ih.trans (eventsOf_prefix_of_announces hmoves.announced operationId)

/-- No event is taken back or changed. -/
theorem eventsOf_prefix_step (op : Operation) (operationId : Uuid) :
    db.eventsOf operationId <+: (step u sha256 vaultId db op).eventsOf operationId := by
  cases mutationStep u sha256 vaultId db op with
  | same hsame => exact eventsOf_of_same hsame operationId ▸ List.prefix_refl _
  | registered _ _ hnew =>
      cases hnew with
      | plain hregisters => exact eventsOf_prefix_of_announces hregisters.announced operationId
      | blocked hregisters hmoves =>
          exact (eventsOf_prefix_of_announces hregisters.announced operationId).trans
            (eventsOf_prefix_of_announces hmoves.announced operationId)
  | claimed _ _ _ _ _ hmoves => exact eventsOf_prefix_of_announces hmoves.announced operationId
  | recorded _ _ _ _ _ _ hmoves =>
      exact eventsOf_prefix_of_announces hmoves.announced operationId
  | reopened hsame hinterrupts =>
      rw [← eventsOf_of_same hsame]
      exact eventsOf_prefix_of_interrupts hinterrupts operationId

theorem eventsOf_prefix_run (ops : List Operation) (operationId : Uuid) :
    db.eventsOf operationId <+:
      (Runs.run (step u sha256 vaultId) db ops).eventsOf operationId :=
  Runs.run_induction
    (P := fun after : Database => db.eventsOf operationId <+: after.eventsOf operationId)
    (fun _ op h => h.trans (eventsOf_prefix_step op operationId)) ops (List.prefix_refl _)

/-! ## Expected versions -/

/-- The calls that expect a version of a mutation. -/
inductive Expects (operationId : Uuid) (version : ℕ) : Operation → Prop
  | claim (nowUnixMs : ℕ) : Expects operationId version
      (.claimMutation operationId version nowUnixMs)
  | record (evidence : MutationVerificationEvidence) (transition : MutationOutcomeTransition) :
      Expects operationId version
        (.recordMutationOutcome operationId version evidence transition)

/-- A call that succeeds has found the version that it expects, and moved it. -/
theorem moves_of_expects {operationId : Uuid} {version : ℕ} {op : Operation}
    (hexpects : Expects operationId version op) (h : Succeeds u sha256 vaultId db op) :
    ∃ state ∈ db.mutationState, state.operationId = operationId ∧ state.stateVersion = version ∧
      ∃ next evidence, Moves db (step u sha256 vaultId db op) next evidence ∧
        next.operationId = operationId := by
  obtain ⟨reply, hok⟩ := h
  cases hexpects with
  | claim nowUnixMs =>
      obtain ⟨_, hcall, -⟩ := exec_replying_ok.mp hok
      obtain ⟨state, hstate, _, -, hid, hversion, -, -, -, hmoves⟩ := moves_of_claimMutation hcall
      exact ⟨state, hstate, hid, hversion, _, _, hmoves, hid⟩
  | record evidence transition =>
      obtain ⟨_, hcall, -⟩ := exec_replying_ok.mp hok
      obtain ⟨-, -, state, hstate, _, hid, hversion, -, -, -, hmoves⟩ :=
        moves_of_recordMutationOutcome hcall
      exact ⟨state, hstate, hid, hversion, _, _, hmoves, hid⟩

/-- The log before and after such a call. -/
theorem length_eventsOf_of_expects {operationId : Uuid} {version : ℕ} {op : Operation}
    (hfaithful : FaithfulLog db) (hexpects : Expects operationId version op)
    (h : Succeeds u sha256 vaultId db op) :
    (db.eventsOf operationId).length = version + 1 ∧
      ((step u sha256 vaultId db op).eventsOf operationId).length = version + 2 := by
  obtain ⟨state, hstate, rfl, rfl, next, _, hmoves, hid⟩ := moves_of_expects hexpects h
  have hlength := (hfaithful.history state hstate).length_eq
  obtain ⟨event, -, hlog⟩ := eventsOf_of_announces hmoves.announced
  rw [hid] at hlog
  refine ⟨hlength, ?_⟩
  rw [hlog, List.length_append, hlength, List.length_singleton]

/-! ## The history -/

/-- The event log is a faithful history of the mutations, whatever is called. -/
structure MutationHistory (u : Unicode) (sha256 : Sha256) (vaultId : Uuid) : Prop where
  faithful : ∀ ops, FaithfulLog (runStore u sha256 vaultId ops)
  /-- An error leaves states, events and evidence as they were. -/
  failed : ∀ ops op e, (exec (perform u sha256 vaultId op) (runStore u sha256 vaultId ops)).1 =
    .error e → SameMutations (runStore u sha256 vaultId ops)
      (runStore u sha256 vaultId (ops ++ [op]))
  /-- Of two calls that expect the same version, one fails. -/
  exclusive : ∀ pre op₁ mid op₂ operationId version, Expects operationId version op₁ →
    Expects operationId version op₂ →
    Succeeds u sha256 vaultId (runStore u sha256 vaultId pre) op₁ →
    ¬ Succeeds u sha256 vaultId (runStore u sha256 vaultId (pre ++ op₁ :: mid)) op₂

theorem mutation_history (u : Unicode) (sha256 : Sha256) (vaultId : Uuid) :
    MutationHistory u sha256 vaultId where
  faithful := faithfulLog_run
  failed := by
    intro ops op e herror
    rw [runStore_concat, step_of_error herror]
    exact SameMutations.refl _
  exclusive := by
    intro pre op₁ mid op₂ operationId version hfirst hsecond hsucceeds hagain
    have hafter : runStore u sha256 vaultId (pre ++ op₁ :: mid) =
        Runs.run (step u sha256 vaultId)
          (step u sha256 vaultId (runStore u sha256 vaultId pre) op₁) mid := by
      rw [runStore_append, Runs.run_cons]
    have hlength := (length_eventsOf_of_expects (faithfulLog_run pre) hfirst hsucceeds).2
    have hexpected := (length_eventsOf_of_expects (faithfulLog_run _) hsecond hagain).1
    have hgrown : ((step u sha256 vaultId (runStore u sha256 vaultId pre) op₁).eventsOf
        operationId).length ≤ ((runStore u sha256 vaultId (pre ++ op₁ :: mid)).eventsOf
          operationId).length := by
      rw [hafter]
      exact (eventsOf_prefix_run mid operationId).length_le
    rw [hlength, hexpected] at hgrown
    omega

end Runs

end Store
end MyVault
