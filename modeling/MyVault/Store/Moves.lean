import MyVault.Store.Operation
import Mathlib.Logic.Relation

/-!
# What the calls do to the mutations

The four tables of a mutation change in two ways only.  `Registers` adds an intent
with its first state and its first event.  `Moves` replaces the state of one
mutation by the next one, adds at most one evidence record and announces the new
state with one event.  `mutationStep` says which of these an operation does, and
what it has checked before; every invariant of the mutations is a case analysis of
it.
-/

namespace MyVault
namespace Store

open Check Program

/-! ## Events -/

/-- The event says what the state says. -/
structure IsEventOf (event : MutationEvent) (state : MutationState)
    (evidenceId : Option Uuid) : Prop where
  operationId : event.operationId = state.operationId
  attemptNumber : event.attemptNumber = state.attemptNumber
  stateVersion : event.stateVersion = state.stateVersion
  phase : event.phase = state.phase
  disposition : event.disposition = state.disposition
  evidenceId : event.evidenceId = evidenceId
  outcomeCode : event.outcomeCode = state.outcomeCode

/-- One event is new, it is the last, and it says what the state says. -/
def Announces (db db' : Database) (state : MutationState) (evidenceId : Option Uuid) : Prop :=
  ∃ event, IsEventOf event state evidenceId ∧
    (∀ old ∈ db.mutationEvents, old.eventId < event.eventId) ∧
    ∀ row, row ∈ db'.mutationEvents ↔ row ∈ db.mutationEvents ∨ row = event

theorem lt_nextRowid {n : ℕ} {rowids : List ℕ} (h : n ∈ rowids) : n < nextRowid rowids := by
  have hle : n ≤ rowids.foldr max 0 := by
    induction rowids with
    | nil => cases h
    | cons m rowids ih =>
        rcases List.mem_cons.mp h with rfl | h
        · exact Nat.le_max_left _ _
        · exact (ih h).trans (Nat.le_max_right _ _)
  exact Nat.lt_succ_of_le hle

variable {db db' : Database}

theorem announces_of_insert {state : MutationState} {evidenceId : Option Uuid} {time : ℕ}
    {v : Unit} (h : exec (insertMutationEvent state.operationId state.attemptNumber
      state.stateVersion state.phase state.disposition evidenceId state.outcomeCode time) db =
        (.ok v, db')) : Announces db db' state evidenceId := by
  simp only [insertMutationEvent, exec_bind_ok, exec_lift_ok, exec_read_ok, exec_require_ok,
    exec_the_ok, exec_write_ok, id, exists_and_left, exists_eq_left', exists_const,
    and_assoc] at h
  obtain ⟨_, -, _, -, _, -, -, -, table, htable, rfl⟩ := h
  refine ⟨_, ?_, fun old hold => ?_, fun row => Table.mem_of_insert htable⟩
  · exact ⟨rfl, rfl, rfl, rfl, rfl, rfl, rfl⟩
  · exact lt_nextRowid (List.mem_map_of_mem hold)

/-! ## States -/

/-- The state of one mutation is replaced; its version goes up by one. -/
structure ReplacesState (db db' : Database) (next : MutationState) : Prop where
  existed : ∃ old ∈ db.mutationState, old.operationId = next.operationId ∧
    next.stateVersion = old.stateVersion + 1
  mem_iff : ∀ row, row ∈ db'.mutationState ↔
    row = next ∨ row ∈ db.mutationState ∧ row.operationId ≠ next.operationId

/-- An update that matches exactly one row replaces the state of its mutation. -/
theorem mem_update_of_count {table : Table MutationState.operationId}
    {p : MutationState → Bool} {f : MutationState → MutationState}
    (hf : ∀ row, p row = true → (f row).operationId = row.operationId) {old : MutationState}
    (hold : old ∈ table) (hp : p old = true)
    (hkey : ∀ row, p row = true → row.operationId = old.operationId) (row : MutationState) :
    row ∈ table.update p f hf ↔
      row = f old ∨ row ∈ table ∧ row.operationId ≠ old.operationId := by
  rw [Table.mem_update]
  constructor
  · rintro (⟨other, hother, hpo, rfl⟩ | ⟨hrow, hpr⟩)
    · rw [table.eq_of_key_eq hother hold (hkey other hpo)]
      exact Or.inl rfl
    · refine Or.inr ⟨hrow, fun heq => ?_⟩
      rw [table.eq_of_key_eq hrow hold heq, hp] at hpr
      cases hpr
  · rintro (rfl | ⟨hrow, hne⟩)
    · exact Or.inl ⟨old, hold, hp, rfl⟩
    · exact Or.inr ⟨hrow, Bool.eq_false_iff.mpr fun hpr => hne (hkey row hpr)⟩

theorem exists_of_count_eq_one {table : Table MutationState.operationId}
    {p : MutationState → Bool} (h : table.count p = 1) : ∃ old ∈ table, p old = true :=
  Table.count_pos_iff.mp (by omega)

theorem replacesState_of_update {next : MutationState} {version : ℕ} {v : Unit}
    (h : exec (updateMutationState next version) db = (.ok v, db'))
    (hversion : next.stateVersion = version + 1) : ReplacesState db db' next := by
  simp only [updateMutationState, exec_bind_ok, exec_lift_ok, exec_read_ok, exec_require_ok,
    exec_write_ok, exec_reject_ok, id, exists_and_left, exists_eq_left', exists_const, and_assoc,
    Decidable.not_not] at h
  obtain ⟨_, -, _, -, -, hcount, rfl⟩ := h
  obtain ⟨old, hold, hp⟩ := exists_of_count_eq_one hcount
  obtain ⟨hid, hver⟩ := of_decide_eq_true hp
  refine ⟨⟨old, hold, hid, by rw [hversion, hver]⟩, fun row => ?_⟩
  have hmem := mem_update_of_count (f := fun _ => next)
    (fun _ hrow => (of_decide_eq_true hrow).1.symm) hold hp
    (fun row hrow => (of_decide_eq_true hrow).1.trans hid.symm) row
  rwa [hid] at hmem

/-! ## Moves -/

/-- One mutation has got its next state, with the evidence and the event of it. -/
structure Moves (db db' : Database) (next : MutationState)
    (evidence : Option MutationVerificationEvidence) : Prop where
  intents : db'.mutationIntents = db.mutationIntents
  state : ReplacesState db db' next
  mem_evidence_iff : ∀ row, row ∈ db'.mutationEvidence ↔
    row ∈ db.mutationEvidence ∨ evidence = some row
  announced : Announces db db' next (evidence.map (·.evidenceId))

/-- One mutation is new. -/
structure Registers (db db' : Database) (intent : MutationIntent) : Prop where
  intents : ∀ row, row ∈ db'.mutationIntents ↔ row ∈ db.mutationIntents ∨ row = intent
  fresh : ∀ row ∈ db.mutationIntents, row.operationId ≠ intent.operationId
  state : ∀ row, row ∈ db'.mutationState ↔
    row ∈ db.mutationState ∨ row = initialMutationState intent
  freshState : ∀ row ∈ db.mutationState, row.operationId ≠ intent.operationId
  evidence : db'.mutationEvidence = db.mutationEvidence
  announced : Announces db db' (initialMutationState intent) none

/-- The tables of the mutations are the same. -/
structure SameMutations (db db' : Database) : Prop where
  intents : db'.mutationIntents = db.mutationIntents
  state : db'.mutationState = db.mutationState
  events : db'.mutationEvents = db.mutationEvents
  evidence : db'.mutationEvidence = db.mutationEvidence

theorem SameMutations.refl (db : Database) : SameMutations db db := ⟨rfl, rfl, rfl, rfl⟩

theorem OnlyWrites.sameMutations {parts : List Part} (h : OnlyWrites parts db db')
    (hparts : ∀ part ∈ parts, part ≠ .mutationIntents ∧ part ≠ .mutationState ∧
      part ≠ .mutationEvents ∧ part ≠ .mutationEvidence) : SameMutations db db' where
  intents := h .mutationIntents fun hmem => (hparts _ hmem).1 rfl
  state := h .mutationState fun hmem => (hparts _ hmem).2.1 rfl
  events := h .mutationEvents fun hmem => (hparts _ hmem).2.2.1 rfl
  evidence := h .mutationEvidence fun hmem => (hparts _ hmem).2.2.2 rfl

/-- The evidence a statement adds. -/
theorem mem_of_insertEvidence {evidence : MutationVerificationEvidence} {v : Unit}
    (h : exec (insertMutationEvidence evidence) db = (.ok v, db')) (row) :
    row ∈ db'.mutationEvidence ↔ row ∈ db.mutationEvidence ∨ some evidence = some row := by
  simp only [insertMutationEvidence, exec_bind_ok, exec_lift_ok, exec_read_ok, exec_require_ok,
    exec_the_ok, exec_write_ok, id, exists_and_left, exists_eq_left', exists_const,
    and_assoc] at h
  obtain ⟨_, -, _, -, _, -, -, -, table, htable, rfl⟩ := h
  rw [Table.mem_of_insert htable, Option.some.injEq, eq_comm (a := row)]

/-- Evidence, state and event, one table after the other, are a move. -/
theorem moves_of_statements {db₁ db₂ : Database} {next : MutationState}
    {evidence : Option MutationVerificationEvidence}
    (f₁ : OnlyWrites [.mutationEvidence] db db₁) (f₂ : OnlyWrites [.mutationState] db₁ db₂)
    (f₃ : OnlyWrites [.mutationEvents] db₂ db')
    (hevidence : ∀ row, row ∈ db₁.mutationEvidence ↔
      row ∈ db.mutationEvidence ∨ evidence = some row)
    (hstate : ReplacesState db₁ db₂ next)
    (hevent : Announces db₂ db' next (evidence.map (·.evidenceId))) :
    Moves db db' next evidence where
  intents := (f₃ .mutationIntents (by decide)).trans <|
    (f₂ .mutationIntents (by decide)).trans (f₁ .mutationIntents (by decide))
  state := by
    have e₁ : db₁.mutationState = db.mutationState := f₁ .mutationState (by decide)
    have e₃ : db'.mutationState = db₂.mutationState := f₃ .mutationState (by decide)
    constructor
    · rw [← e₁]
      exact hstate.existed
    · rw [e₃, ← e₁]
      exact hstate.mem_iff
  mem_evidence_iff := by
    have e₂ : db₂.mutationEvidence = db₁.mutationEvidence := f₂ .mutationEvidence (by decide)
    have e₃ : db'.mutationEvidence = db₂.mutationEvidence := f₃ .mutationEvidence (by decide)
    rw [e₃, e₂]
    exact hevidence
  announced := by
    have e₁ : db₁.mutationEvents = db.mutationEvents := f₁ .mutationEvents (by decide)
    have e₂ : db₂.mutationEvents = db₁.mutationEvents := f₂ .mutationEvents (by decide)
    rw [Announces, ← e₁, ← e₂]
    exact hevent

theorem moves_of_writeOutcome {state next : MutationState}
    {evidence : MutationVerificationEvidence} {target : TransitionTarget}
    (h : exec (writeOutcome state evidence target) db = (.ok next, db')) :
    next = recordedMutationState state evidence target ∧ Moves db db' next (some evidence) := by
  simp only [writeOutcome, exec_bind_ok, exec_pure_ok] at h
  obtain ⟨_, db₁, hevidence, _, db₂, hstate, _, db₃, hevent, rfl, rfl⟩ := h
  exact ⟨rfl, moves_of_statements (Keeps.of_exec inferInstance hevidence)
    (Keeps.of_exec inferInstance hstate) (Keeps.of_exec inferInstance hevent)
    (mem_of_insertEvidence hevidence) (replacesState_of_update hstate rfl)
    (announces_of_insert hevent)⟩

/-! ## Registration -/

/-- The evidence of a blocked intent moves its first state. -/
theorem moves_of_recordInitialEvidence {intent : MutationIntent}
    {evidence : MutationVerificationEvidence} {v : Unit}
    (hinitial : initialMutationState intent ∈ db.mutationState)
    (h : exec (recordInitialEvidence intent evidence) db = (.ok v, db')) :
    Moves db db' (blockedMutationState evidence (initialMutationState intent))
      (some evidence) := by
  simp only [recordInitialEvidence, exec_bind_ok, exec_lift_ok, exec_read_ok, exec_write_ok,
    exec_reject_ok, exists_and_left, exists_eq_left', exists_const, and_assoc,
    Decidable.not_not] at h
  obtain ⟨_, db₁, hevidence, _, -, hcount, hevent⟩ := h
  have f₁ : OnlyWrites [.mutationEvidence] db db₁ := Keeps.of_exec inferInstance hevidence
  have e₁ : db₁.mutationState = db.mutationState := f₁ .mutationState (by decide)
  have hold : initialMutationState intent ∈ db₁.mutationState := by rwa [e₁]
  refine moves_of_statements f₁ ?_ (Keeps.of_exec inferInstance hevent)
    (mem_of_insertEvidence hevidence) ?_ (announces_of_insert hevent)
  · intro part hpart
    cases part <;> first | rfl | exact absurd List.mem_cons_self hpart
  · refine ⟨⟨_, hold, rfl, rfl⟩,
      mem_update_of_count (f := blockedMutationState evidence) (fun _ _ => rfl) hold ?_
        fun row hrow => ?_⟩
    · exact decide_eq_true ⟨rfl, rfl, rfl⟩
    · exact (of_decide_eq_true hrow).1

/-- What a new registration leaves behind, with the evidence of a blocked intent or
without any. -/
inductive NewMutation (db db' : Database) (intent : MutationIntent) :
    Option MutationVerificationEvidence → Prop
  | plain (hregisters : Registers db db' intent) : NewMutation db db' intent none
  | blocked {mid : Database} {evidence : MutationVerificationEvidence}
      (hregisters : Registers db mid intent)
      (hmoves : Moves mid db' (blockedMutationState evidence (initialMutationState intent))
        (some evidence)) : NewMutation db db' intent (some evidence)

theorem registers_of_statements {db₁ db₂ : Database} {intent : MutationIntent} {v₁ v₂ v₃ : Unit}
    (h₁ : exec (insertMutationIntent intent) db = (.ok v₁, db₁))
    (h₂ : exec (insertMutationState (initialMutationState intent)) db₁ = (.ok v₂, db₂))
    (h₃ : exec (insertMutationEvent intent.operationId 0 0 .intentDurable none none none
      intent.registeredAtUnixMs) db₂ = (.ok v₃, db')) : Registers db db' intent := by
  have hannounces : Announces db₂ db' (initialMutationState intent) none := announces_of_insert h₃
  have f₃ : OnlyWrites [.mutationEvents] db₂ db' := Keeps.of_exec inferInstance h₃
  simp only [insertMutationIntent, exec_bind_ok, exec_lift_ok, exec_read_ok, exec_require_ok,
    exec_reject_ok, mutationMarkerExists, exec_the_ok, exec_write_ok, exists_and_left,
    exists_eq_left', exists_const, and_assoc] at h₁
  obtain ⟨_, -, _, -, _, -, _, -, -, -, -, -, intents, hintents, rfl⟩ := h₁
  simp only [insertMutationState, exec_bind_ok, exec_lift_ok, exec_read_ok, exec_require_ok,
    exec_the_ok, exec_write_ok, id, exists_and_left, exists_eq_left', exists_const,
    and_assoc] at h₂
  obtain ⟨_, -, -, -, -, states, hstates, rfl⟩ := h₂
  have e₁ : db'.mutationIntents = intents := f₃ .mutationIntents (by decide)
  have e₂ : db'.mutationState = states := f₃ .mutationState (by decide)
  refine ⟨fun row => ?_, (Table.insert_eq_some_iff.mp hintents).1, fun row => ?_,
    (Table.insert_eq_some_iff.mp hstates).1, f₃ .mutationEvidence (by decide), hannounces⟩
  · rw [e₁, Table.mem_of_insert hintents]
  · rw [e₂, Table.mem_of_insert hstates]

theorem newMutation_of_registerNew {intent : MutationIntent}
    {initialEvidence : Option MutationVerificationEvidence} {r : MutationRegistrationOutcome}
    (h : exec (registerNew intent initialEvidence) db = (.ok r, db')) :
    NewMutation db db' intent initialEvidence := by
  simp only [registerNew, exec_bind_ok, exec_reject_ok, mutationMarkerExists, exec_read_ok,
    exec_pure_ok, exists_and_left, exists_eq_left', exists_const, and_assoc] at h
  obtain ⟨-, _, _, h₁, _, _, h₂, _, mid, h₃, _, _, hevidence, -, rfl⟩ := h
  have hregisters := registers_of_statements h₁ h₂ h₃
  cases initialEvidence with
  | none =>
      rw [Option.toList_none, exec_forM_nil_ok] at hevidence
      rw [← hevidence]
      exact .plain hregisters
  | some evidence =>
      simp only [Option.toList_some, exec_forM_cons_ok, exec_forM_nil_ok] at hevidence
      obtain ⟨_, _, hrecord, rfl⟩ := hevidence
      exact .blocked hregisters (moves_of_recordInitialEvidence
        ((hregisters.state _).mpr (Or.inr rfl)) hrecord)

theorem NewMutation.mem_intents {intent new : MutationIntent}
    {initialEvidence : Option MutationVerificationEvidence}
    (h : NewMutation db db' new initialEvidence) :
    intent ∈ db'.mutationIntents ↔ intent ∈ db.mutationIntents ∨ intent = new := by
  cases h with
  | plain hregisters => exact hregisters.intents intent
  | blocked hregisters hmoves =>
      rw [hmoves.intents]
      exact hregisters.intents intent

/-! ## Recovery -/

/-- A running mutation has lost its outcome. -/
def Interrupts (sha256 : Sha256) (db db' : Database) : Prop :=
  ∃ state ∈ db.mutationState, ∃ evidenceId, state.phase = .running ∧
    Moves db db'
      (recordedMutationState state (interruptedMutationEvidence sha256 evidenceId
        state.operationId state.attemptNumber state.updatedAtUnixMs)
        ⟨.needsReconcile, .needsReconcile, none, none, none⟩)
      (some (interruptedMutationEvidence sha256 evidenceId state.operationId state.attemptNumber
        state.updatedAtUnixMs))

/-- The loop of the recovery; every row is still there when its turn comes. -/
theorem interrupts_of_forM {sha256 : Sha256} {newV4 : ℕ → Uuid} {rows : List (MutationState × ℕ)}
    {v : PUnit} (hrows : ∀ row ∈ rows, row.1 ∈ db.mutationState ∧ row.1.phase = .running)
    (hdistinct : (rows.map fun row => row.1.operationId).Nodup)
    (h : exec (rows.forM fun row => interruptMutation sha256 (newV4 row.2) row.1) db =
      (.ok v, db')) : Relation.ReflTransGen (Interrupts sha256) db db' := by
  induction rows generalizing db with
  | nil =>
      rw [exec_forM_nil_ok] at h
      rw [h]
  | cons row rows ih =>
      rw [exec_forM_cons_ok] at h
      obtain ⟨_, mid, hrow, h⟩ := h
      simp only [interruptMutation, exec_bind_ok, exec_reject_ok, exec_pure_ok, exists_and_left,
        exists_eq_left', exists_const, and_assoc] at hrow
      obtain ⟨-, _, _, hwrite, -, rfl⟩ := hrow
      obtain ⟨rfl, hmoves⟩ := moves_of_writeOutcome hwrite
      obtain ⟨hcurrent, hrunning⟩ := hrows row List.mem_cons_self
      rw [List.map_cons, List.nodup_cons] at hdistinct
      refine .head ⟨row.1, hcurrent, _, hrunning, hmoves⟩
        (ih (fun other hother => ?_) hdistinct.2 h)
      obtain ⟨hmem, hphase⟩ := hrows other (List.mem_cons_of_mem _ hother)
      refine ⟨(hmoves.state.mem_iff _).mpr (Or.inr ⟨hmem, fun heq => ?_⟩), hphase⟩
      exact hdistinct.1 (List.mem_map.mpr ⟨other, hother, heq⟩)

theorem intents_of_interrupts {sha256 : Sha256}
    (h : Relation.ReflTransGen (Interrupts sha256) db db') :
    db'.mutationIntents = db.mutationIntents := by
  induction h with
  | refl => rfl
  | tail _ hstep ih =>
      obtain ⟨running, -, evidenceId, -, hmoves⟩ := hstep
      exact hmoves.intents.trans ih

theorem mem_runningMutations {state : MutationState} :
    state ∈ runningMutations db ↔ state ∈ db.mutationState ∧ state.phase = .running := by
  rw [runningMutations, List.mem_insertionSort, List.mem_filter, decide_eq_true_eq,
    Table.mem_rows]

theorem nodup_runningMutations : ((runningMutations db).map (·.operationId)).Nodup := by
  have hperm := List.perm_insertionSort
    (fun a b : MutationState => a.operationId.toHyphenated ≤ b.operationId.toHyphenated)
    (db.mutationState.rows.filter fun row => row.phase = .running)
  rw [runningMutations, (hperm.map (·.operationId)).nodup_iff]
  exact db.mutationState.nodup_keys.sublist (List.filter_sublist.map _)

/-! ## Operations -/

/-- What an operation does to the mutations, and what it has checked. -/
inductive MutationStep (u : Unicode) (sha256 : Sha256) (db : Database) :
    Operation → Database → Prop
  | same {op : Operation} {db' : Database} (h : SameMutations db db') :
      MutationStep u sha256 db op db'
  | registered {intent : MutationIntent} {initialEvidence : Option MutationVerificationEvidence}
      {db' : Database} (valid : validateMutationIntent u sha256 intent = .ok ())
      (initial : checkInitialEvidence intent initialEvidence = .ok ())
      (new : NewMutation db db' intent initialEvidence) :
      MutationStep u sha256 db (.registerMutationIntent intent initialEvidence) db'
  | claimed {state : MutationState} {intent : MutationIntent} {nowUnixMs : ℕ} {db' : Database}
      (hintent : intent ∈ db.mutationIntents) (hid : intent.operationId = state.operationId)
      (hkind : intent.operationKind ≠ .remoteExistingBlocked)
      (hstate : state ∈ db.mutationState) (hclaimable : isClaimable state nowUnixMs = true)
      (moves : Moves db db' (claimedMutationState state nowUnixMs) none) :
      MutationStep u sha256 db
        (.claimMutation state.operationId state.stateVersion nowUnixMs) db'
  | recorded {state : MutationState} {evidence : MutationVerificationEvidence}
      {transition : MutationOutcomeTransition} {target : TransitionTarget} {db' : Database}
      (valid : validateMutationEvidence u sha256 evidence = .ok ())
      (hid : evidence.operationId = state.operationId)
      (hattempt : evidence.attemptNumber = state.attemptNumber)
      (hstate : state ∈ db.mutationState)
      (happlied : transition = .verifiedApplied → ∃ intent ∈ db.mutationIntents,
        intent.operationId = state.operationId ∧ intent.requireMatch evidence = .ok ())
      (htarget : transitionTarget state.phase evidence transition = .ok target)
      (moves : Moves db db' (recordedMutationState state evidence target) (some evidence)) :
      MutationStep u sha256 db
        (.recordMutationOutcome state.operationId state.stateVersion evidence transition) db'
  | reopened {newV4 : ℕ → Uuid} {mid db' : Database} (same : SameMutations db mid)
      (interrupts : Relation.ReflTransGen (Interrupts sha256) mid db') :
      MutationStep u sha256 db (.reopen newV4) db'

section Calls

variable {u : Unicode} {sha256 : Sha256}

theorem exec_loadMutationState_ok {operationId : Uuid} {row : Option MutationState} :
    exec (loadMutationState operationId) db = (.ok row, db') ↔
      db.mutationState.lookup operationId = row ∧
        each checkMutationStateRow row.toList = .ok () ∧ db = db' := by
  simp only [loadMutationState, exec_bind_ok, exec_read_ok, exec_lift_ok, exec_pure_ok]
  constructor
  · rintro ⟨_, _, ⟨rfl, rfl⟩, _, _, ⟨hcheck, rfl⟩, rfl, rfl⟩
    exact ⟨rfl, hcheck, rfl⟩
  · rintro ⟨rfl, hcheck, rfl⟩
    exact ⟨_, _, ⟨rfl, rfl⟩, _, _, ⟨hcheck, rfl⟩, rfl, rfl⟩

theorem mutationStep_register {intent : MutationIntent}
    {initialEvidence : Option MutationVerificationEvidence} {r : MutationRegistrationOutcome}
    (h : exec (registerMutationIntent u sha256 intent initialEvidence) db = (.ok r, db')) :
    MutationStep u sha256 db (.registerMutationIntent intent initialEvidence) db' := by
  simp only [registerMutationIntent, exec_bind_ok, exec_lift_ok, exec_transaction_ok,
    loadMutationIdentity, exec_read_ok, exists_and_left, exists_eq_left', and_assoc] at h
  obtain ⟨_, hvalid, _, -, _, hinitial, h⟩ := h
  cases hlookup : db.mutationIntents.lookup intent.operationId with
  | none =>
      rw [hlookup, Option.map_none, registerWith] at h
      exact .registered hvalid hinitial (newMutation_of_registerNew h)
  | some existing =>
      rw [hlookup, Option.map_some, registerWith] at h
      have hkeeps : Keeps Eq (registerPresent intent
          (existing.intentFingerprint, existing.operationMarker)) := by
        unfold registerPresent
        infer_instance
      rw [← hkeeps.of_exec h]
      exact .same (SameMutations.refl db)

/-- A claim moves the state it expects. -/
theorem moves_of_claimMutation {operationId : Uuid} {version nowUnixMs : ℕ} {next : MutationState}
    (h : exec (claimMutation operationId version nowUnixMs) db = (.ok next, db')) :
    ∃ state ∈ db.mutationState, ∃ intent ∈ db.mutationIntents,
      state.operationId = operationId ∧ state.stateVersion = version ∧
        intent.operationId = operationId ∧ intent.operationKind ≠ .remoteExistingBlocked ∧
        isClaimable state nowUnixMs = true ∧
        Moves db db' (claimedMutationState state nowUnixMs) none := by
  simp only [claimMutation, exec_bind_ok, exec_lift_ok, exec_transaction_ok, loadMutationKind,
    exec_loadMutationState_ok, exec_read_ok, exec_the_ok, exec_reject_ok, exec_pure_ok,
    exists_and_left, exists_eq_left', exists_const, and_assoc, Decidable.not_not,
    Option.map_eq_some_iff, Bool.not_eq_true', Bool.not_eq_false] at h
  obtain ⟨_, -, _, ⟨intent, hintent, rfl⟩, hkind, -, state, hstate, rfl, hclaimable, _, db₁,
    hupdate, _, db₂, hevent, rfl, rfl⟩ := h
  rw [Table.lookup_eq_some_iff] at hintent hstate
  obtain ⟨hstate, rfl⟩ := hstate
  refine ⟨state, hstate, intent, hintent.1, rfl, rfl, hintent.2, hkind, hclaimable, ?_⟩
  exact moves_of_statements (Std.Refl.refl db) (Keeps.of_exec inferInstance hupdate)
    (Keeps.of_exec inferInstance hevent) (fun row => by simp)
    (replacesState_of_update hupdate rfl) (announces_of_insert hevent)

theorem mutationStep_claim {operationId : Uuid} {version nowUnixMs : ℕ} {next : MutationState}
    (h : exec (claimMutation operationId version nowUnixMs) db = (.ok next, db')) :
    MutationStep u sha256 db (.claimMutation operationId version nowUnixMs) db' := by
  obtain ⟨state, hstate, intent, hintent, rfl, rfl, hid, hkind, hclaimable, hmoves⟩ :=
    moves_of_claimMutation h
  exact .claimed hintent hid hkind hstate hclaimable hmoves

/-- An applied outcome is compared with its intent. -/
theorem requireMatch_of_validateTransition {evidence : MutationVerificationEvidence}
    {transition : MutationOutcomeTransition} {v : Unit}
    (h : exec (validateTransition evidence transition) db = (.ok v, db')) :
    transition = .verifiedApplied → ∃ intent ∈ db.mutationIntents,
      intent.operationId = evidence.operationId ∧ intent.requireMatch evidence = .ok () := by
  rintro rfl
  simp only [validateTransition, validateVerifiedAppliedEvidence, exec_bind_ok, exec_lift_ok,
    exec_read_ok, exec_the_ok, exec_reject_ok, exists_and_left, exists_eq_left', exists_const,
    and_assoc] at h
  obtain ⟨-, intent, hintent, hmatch, -⟩ := h
  obtain ⟨hmem, hid⟩ := Table.lookup_eq_some_iff.mp hintent
  exact ⟨intent, hmem, hid, hmatch⟩

/-- An outcome moves the state it expects. -/
theorem moves_of_recordMutationOutcome {operationId : Uuid} {version : ℕ}
    {evidence : MutationVerificationEvidence} {transition : MutationOutcomeTransition}
    {next : MutationState}
    (h : exec (recordMutationOutcome u sha256 operationId version evidence transition) db =
      (.ok next, db')) :
    validateMutationEvidence u sha256 evidence = .ok () ∧
      (transition = .verifiedApplied → ∃ intent ∈ db.mutationIntents,
        intent.operationId = operationId ∧ intent.requireMatch evidence = .ok ()) ∧
      ∃ state ∈ db.mutationState, ∃ target, state.operationId = operationId ∧
        state.stateVersion = version ∧ evidence.operationId = operationId ∧
        evidence.attemptNumber = state.attemptNumber ∧
        transitionTarget state.phase evidence transition = .ok target ∧
        Moves db db' (recordedMutationState state evidence target) (some evidence) := by
  simp only [recordMutationOutcome, exec_bind_ok, exec_lift_ok, exec_transaction_ok,
    exec_loadMutationState_ok, exec_the_ok, exec_reject_ok, exists_and_left, exists_eq_left',
    exists_const, and_assoc, Decidable.not_not, not_or] at h
  obtain ⟨_, hvalid, rfl, -, state, hstate, rfl, hattempt, -, _, mid, hvalidate, target, htarget,
    hwrite⟩ := h
  obtain ⟨hstate, hid⟩ := Table.lookup_eq_some_iff.mp hstate
  have hkeeps : Keeps Eq (validateTransition evidence transition) := inferInstance
  obtain rfl := hkeeps.of_exec hvalidate
  obtain ⟨rfl, hmoves⟩ := moves_of_writeOutcome hwrite
  exact ⟨hvalid, requireMatch_of_validateTransition hvalidate, state, hstate, target, hid, rfl,
    rfl, hattempt, htarget, hmoves⟩

theorem mutationStep_record {operationId : Uuid} {version : ℕ}
    {evidence : MutationVerificationEvidence} {transition : MutationOutcomeTransition}
    {next : MutationState}
    (h : exec (recordMutationOutcome u sha256 operationId version evidence transition) db =
      (.ok next, db')) :
    MutationStep u sha256 db (.recordMutationOutcome operationId version evidence transition)
      db' := by
  obtain ⟨hvalid, happlied, state, hstate, target, rfl, rfl, hid, hattempt, htarget, hmoves⟩ :=
    moves_of_recordMutationOutcome h
  exact .recorded hvalid hid hattempt hstate happlied htarget hmoves

theorem mutationStep_reopen {vaultId : Uuid} {newV4 : ℕ → Uuid} {v : Unit}
    (h : exec (reopenStore sha256 vaultId newV4) db = (.ok v, db')) :
    MutationStep u sha256 db (.reopen newV4) db' := by
  simp only [reopenStore, recoverInterruptedJobs, exec_bind_ok, exec_transaction_ok,
    exec_read_ok, exists_and_left, exists_eq_left', and_assoc] at h
  obtain ⟨_, _, hload, _, db₁, hjobs, _, mid, htransfers, hloop⟩ := h
  have hkeeps : Keeps Eq (loadState vaultId) := inferInstance
  obtain rfl := hkeeps.of_exec hload
  have fjobs : OnlyWrites [.syncJobs, .transfers] db db₁ := Keeps.of_exec inferInstance hjobs
  have ftransfers : OnlyWrites [.syncJobs, .transfers] db₁ mid :=
    Keeps.of_exec inferInstance htransfers
  refine .reopened ((IsTrans.trans _ _ _ fjobs ftransfers).sameMutations (by decide))
    (interrupts_of_forM (fun row hrow => ?_) ?_ hloop)
  · exact mem_runningMutations.mp (List.fst_mem_of_mem_zipIdx hrow)
  · show ((runningMutations mid).zipIdx.map (MutationState.operationId ∘ Prod.fst)).Nodup
    rw [← List.map_map, List.zipIdx_map_fst]
    exact nodup_runningMutations

/-- A call that writes none of the four tables. -/
theorem mutationStep_of_writes {vaultId : Uuid} {op : Operation}
    (hwrites : ∀ part ∈ op.writes, part ≠ .mutationIntents ∧ part ≠ .mutationState ∧
      part ≠ .mutationEvents ∧ part ≠ .mutationEvidence) :
    MutationStep u sha256 db op (step u sha256 vaultId db op) :=
  .same <| OnlyWrites.sameMutations ((perform_onlyWrites u sha256 vaultId op).exec_rel db) hwrites

theorem mutationStep (u : Unicode) (sha256 : Sha256) (vaultId : Uuid) (db : Database)
    (op : Operation) : MutationStep u sha256 db op (step u sha256 vaultId db op) := by
  rcases step_eq_or_ok u sha256 vaultId db op with hsame | ⟨reply, hok⟩
  · rw [hsame]
    exact .same (SameMutations.refl db)
  cases op
  case registerMutationIntent intent initialEvidence =>
    obtain ⟨_, hcall, -⟩ := exec_replying_ok.mp hok
    exact mutationStep_register hcall
  case claimMutation operationId version now =>
    obtain ⟨_, hcall, -⟩ := exec_replying_ok.mp hok
    exact mutationStep_claim hcall
  case recordMutationOutcome operationId version evidence transition =>
    obtain ⟨_, hcall, -⟩ := exec_replying_ok.mp hok
    exact mutationStep_record hcall
  case reopen newV4 =>
    obtain ⟨_, hcall, -⟩ := exec_replying_ok.mp hok
    exact mutationStep_reopen hcall
  all_goals exact mutationStep_of_writes (by simp [Operation.writes])

/-- Intents stay. -/
theorem mem_intents_step {vaultId : Uuid} {op : Operation} {intent : MutationIntent}
    (h : intent ∈ db.mutationIntents) :
    intent ∈ (step u sha256 vaultId db op).mutationIntents := by
  cases mutationStep u sha256 vaultId db op with
  | same hsame => exact hsame.intents ▸ h
  | registered _ _ hnew => exact hnew.mem_intents.mpr (Or.inl h)
  | claimed _ _ _ _ _ hmoves => exact hmoves.intents ▸ h
  | recorded _ _ _ _ _ _ hmoves => exact hmoves.intents ▸ h
  | reopened hsame hinterrupts =>
      rw [intents_of_interrupts hinterrupts, hsame.intents]
      exact h

theorem mem_intents_run {vaultId : Uuid} {ops : List Operation} {intent : MutationIntent}
    (h : intent ∈ (runStore u sha256 vaultId ops).mutationIntents) (later : List Operation) :
    intent ∈ (runStore u sha256 vaultId (ops ++ later)).mutationIntents := by
  rw [runStore, Runs.run_append]
  exact Runs.run_induction (P := fun db : Database => intent ∈ db.mutationIntents)
    (fun _ _ => mem_intents_step) later h

end Calls

end Store
end MyVault
