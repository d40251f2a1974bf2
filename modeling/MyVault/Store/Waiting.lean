import MyVault.Store.Completion
import MyVault.Store.ValidIntents

/-!
# Where a mutation waits for its outcome

An outcome is recorded from a state that is running or needs reconciliation.  Which of
these states the store reaches is decided by the kind of the intent alone: a blocked intent
is registered at version 1 and needs reconciliation there; any other is claimed once, which
takes it to version 1, and is at version 2 when its outcome was lost (`waitsAt_run`).  No
attempt is ever repeated, so the attempt is the first.

And a store gets to each of them with any valid intent (`exists_waiting`): a registration, a
claim and a lost outcome succeed where the checks of `store.rs` on the records do, and the
evidence they need can be built from the intent.
-/

namespace MyVault
namespace Store

open Check Program

/-! ## Statements that succeed -/

section Statements

variable {db : Database} {intent : MutationIntent} {state next : MutationState}
  {evidence : MutationVerificationEvidence}

theorem intentExists_of_mem {operationId : Uuid} (hintent : intent ∈ db.mutationIntents)
    (hid : intent.operationId = operationId) : intentExists db operationId = true := by
  rw [intentExists, Table.lookup_eq_some_iff.mpr ⟨hintent, hid⟩, Option.isSome_some]

theorem evidenceExists_of_mem {evidenceId : Option Uuid}
    (h : ∀ id ∈ evidenceId, ∃ row ∈ db.mutationEvidence, row.evidenceId = id) :
    evidenceExists db evidenceId = true := by
  cases evidenceId with
  | none => rfl
  | some id =>
      obtain ⟨row, hrow, hid⟩ := h id rfl
      rw [evidenceExists, Option.all_some, Table.lookup_eq_some_iff.mpr ⟨hrow, hid⟩,
        Option.isSome_some]

theorem fitsI64_of_succ {n : ℕ} (h : fitsI64 (n + 1) = true) : fitsI64 n = true := by
  simp only [fitsI64, decide_eq_true_eq] at h ⊢
  omega

/-- A load of a state whose row passes its checks finds it. -/
theorem checked_lookup (hstate : state ∈ db.mutationState)
    (hrow : checkMutationStateRow state = .ok ()) :
    each checkMutationStateRow (db.mutationState.lookup state.operationId).toList = .ok () ∧
      db.mutationState.lookup state.operationId = some state := by
  have hlookup : db.mutationState.lookup state.operationId = some state :=
    Table.lookup_eq_some_iff.mpr ⟨hstate, rfl⟩
  rw [hlookup, Option.toList_some]
  exact ⟨seq_eq_ok.mpr ⟨hrow, rfl⟩, rfl⟩

/-- An event is numbered after all others, so it can always be written. -/
theorem exists_insertMutationEvent {operationId : Uuid} {attempt version time : ℕ}
    {phase : MutationPhase} {disposition : Option MutationDisposition} {evidenceId : Option Uuid}
    {code : Option String} (hcode : eachSome validateRedactedCode [code] = .ok ())
    (hversion : fitsI64 version = true) (htime : fitsI64 time = true)
    (hintent : intentExists db operationId = true)
    (hevidence : evidenceExists db evidenceId = true) :
    ∃ db', exec (insertMutationEvent operationId attempt version phase disposition evidenceId code
      time) db = (.ok (), db') := by
  have hfree : db.mutationEvents.lookup
      (nextRowid (db.mutationEvents.rows.map (·.eventId))) = none := by
    rw [Table.lookup_eq_none_iff]
    intro old hold heq
    exact absurd heq (Nat.ne_of_lt (lt_nextRowid (List.mem_map_of_mem hold)))
  obtain ⟨table, htable⟩ := @Table.exists_insert _ _ _ _ db.mutationEvents
    ⟨_, operationId, attempt, version, phase, disposition, evidenceId, code, time⟩ hfree
  refine ⟨{ db with mutationEvents := table }, ?_⟩
  simp only [insertMutationEvent, exec_bind_ok, exec_lift_ok, exec_read_ok, exec_require_ok,
    exec_the_ok, exec_write_ok, id, exists_and_left, exists_eq_left', exists_const, and_assoc]
  exact ⟨(), hcode, (), u64ToI64_eq_ok.mpr hversion, (), u64ToI64_eq_ok.mpr htime, hintent,
    hevidence, table, htable, rfl⟩

/-- The state a mutation is in is replaced. -/
theorem exists_updateMutationState (hstate : state ∈ db.mutationState)
    (hid : state.operationId = next.operationId)
    (hnumbers : checkMutationStateNumbers next = .ok ())
    (hversion : fitsI64 state.stateVersion = true)
    (hevidence : evidenceExists db next.lastEvidenceId = true)
    (hrow : mutationStateRowOk next = true) :
    ∃ db', exec (updateMutationState next state.stateVersion) db = (.ok (), db') := by
  have hcount : db.mutationState.count (atVersion next.operationId state.stateVersion) = 1 := by
    refine Nat.le_antisymm (Table.count_le_one fun a b ha hb => ?_)
      (Table.count_pos_iff.mpr ⟨state, hstate, decide_eq_true ⟨hid, rfl⟩⟩)
    exact (of_decide_eq_true ha).1.trans (of_decide_eq_true hb).1.symm
  refine ⟨{ db with
    mutationState := replaceMutationState db.mutationState next state.stateVersion }, ?_⟩
  simp only [updateMutationState, exec_bind_ok, exec_lift_ok, exec_read_ok, exec_require_ok,
    exec_write_ok, exec_reject_ok, id, exists_and_left, exists_eq_left', exists_const, and_assoc]
  exact ⟨(), hnumbers, (), u64ToI64_eq_ok.mpr hversion, Or.inr ⟨hevidence, hrow⟩,
    not_not.mpr hcount, trivial⟩

/-- What a checked record needs to be stored. -/
structure Storable (evidence : MutationVerificationEvidence) : Prop where
  byteLength : each u64ToI64 evidence.observedByteLength.toList = .ok ()
  offset : each u64ToI64 evidence.verifiedReceivedByteOffset.toList = .ok ()
  capturedAt : u64ToI64 evidence.capturedAtUnixMs = .ok ()
  outcomeCode : eachSome validateRedactedCode [evidence.outcomeCode] = .ok ()
  content : paired evidence.observedSha256 evidence.observedByteLength = true

theorem storable_of_valid {u : Unicode} {sha256 : Sha256}
    (h : validateMutationEvidence u sha256 evidence = .ok ()) : Storable evidence := by
  simp only [validateMutationEvidence, seq_eq_ok, validateHashSizePair_eq_ok] at h
  obtain ⟨-, -, -, -, hcaptured, hcode, -, -, -, hpair, -, hoffset, -⟩ := h
  refine ⟨?_, hoffset, hcaptured, hcode, ?_⟩
  · rw [each_eq_ok]
    intro value hvalue
    exact u64ToI64_eq_ok.mpr (hpair.2.2 value (Option.mem_toList.mp hvalue))
  · rw [paired, hpair.1]
    exact beq_self_eq_true _

theorem exists_insertMutationEvidence (h : Storable evidence)
    (hintent : intentExists db evidence.operationId = true)
    (hfresh : db.mutationEvidence.lookup evidence.evidenceId = none) :
    ∃ db', exec (insertMutationEvidence evidence) db = (.ok (), db') := by
  obtain ⟨table, htable⟩ := Table.exists_insert hfresh
  refine ⟨{ db with mutationEvidence := table }, ?_⟩
  simp only [insertMutationEvidence, exec_bind_ok, exec_lift_ok, exec_read_ok, exec_require_ok,
    exec_the_ok, exec_write_ok, id, exists_and_left, exists_eq_left', exists_const, and_assoc]
  exact ⟨(), h.byteLength, (), h.offset, (), h.capturedAt, hintent, h.content, table, htable, rfl⟩

/-- The target of a recorded outcome, as `transition_target` gives it. -/
structure IsFinal (target : TransitionTarget) : Prop where
  phase : target.phase ≠ .retryScheduled
  nextAttempt : target.nextAttemptAtUnixMs = none
  retryMode : target.retryMode = none
  resumeReference : target.resumeReference = none

theorem isFinal_of_transitionTarget {current : MutationPhase} {target : TransitionTarget}
    {transition : MutationOutcomeTransition}
    (h : transitionTarget current evidence transition = .ok target) : IsFinal target := by
  obtain ⟨-, -, -, -, -, rfl⟩ | ⟨-, -, rfl⟩ := transitionTarget_eq_ok h
  · exact ⟨by decide, rfl, rfl, rfl⟩
  · exact ⟨by decide, rfl, rfl, rfl⟩

theorem exists_writeOutcome {target : TransitionTarget} (hstate : state ∈ db.mutationState)
    (hintent : intent ∈ db.mutationIntents) (hid : intent.operationId = state.operationId)
    (howner : evidence.operationId = state.operationId) (hstorable : Storable evidence)
    (hfresh : db.mutationEvidence.lookup evidence.evidenceId = none)
    (hversion : fitsI64 (state.stateVersion + 1) = true) (hfinal : IsFinal target) :
    ∃ next db', exec (writeOutcome state evidence target) db = (.ok next, db') := by
  have hlower := fitsI64_of_succ hversion
  obtain ⟨db₁, h₁⟩ := exists_insertMutationEvidence hstorable
    (howner ▸ intentExists_of_mem hintent hid) hfresh
  have f₁ : OnlyWrites [.mutationEvidence] db db₁ := Keeps.of_exec inferInstance h₁
  have estate : db₁.mutationState = db.mutationState := f₁ .mutationState (by decide)
  have eintents : db₁.mutationIntents = db.mutationIntents := f₁ .mutationIntents (by decide)
  have hwritten : evidenceExists db₁ (some evidence.evidenceId) = true := by
    refine evidenceExists_of_mem fun id hid => ?_
    obtain rfl := Option.some.inj hid
    exact ⟨evidence, (mem_of_insertEvidence h₁ evidence).mpr (Or.inr rfl), rfl⟩
  have hnumbers : checkMutationStateNumbers (recordedMutationState state evidence target) =
      .ok () := by
    simp only [checkMutationStateNumbers, seq_eq_ok, recordedMutationState, hfinal.nextAttempt]
    exact ⟨u64ToI64_eq_ok.mpr hversion, rfl, hstorable.capturedAt⟩
  have hrow : mutationStateRowOk (recordedMutationState state evidence target) = true := by
    simp [mutationStateRowOk, recordedMutationState, hfinal.phase, hfinal.nextAttempt,
      hfinal.retryMode, hfinal.resumeReference]
  obtain ⟨db₂, h₂⟩ := @exists_updateMutationState db₁ state
    (recordedMutationState state evidence target) (estate.symm ▸ hstate) rfl hnumbers hlower
    hwritten hrow
  have f₂ : OnlyWrites [.mutationState] db₁ db₂ := Keeps.of_exec inferInstance h₂
  have eintents' : db₂.mutationIntents = db₁.mutationIntents := f₂ .mutationIntents (by decide)
  have eevidence : db₂.mutationEvidence = db₁.mutationEvidence := f₂ .mutationEvidence (by decide)
  obtain ⟨db₃, h₃⟩ := @exists_insertMutationEvent db₂ state.operationId state.attemptNumber
    (state.stateVersion + 1) evidence.capturedAtUnixMs target.phase (some target.disposition)
    (some evidence.evidenceId) evidence.outcomeCode hstorable.outcomeCode hversion
    (u64ToI64_eq_ok.mp hstorable.capturedAt)
    (intentExists_of_mem (by rwa [eintents', eintents]) hid)
    (by rwa [evidenceExists, eevidence])
  exact ⟨_, db₃, exec_bind_ok.mpr ⟨(), db₁, h₁, exec_bind_ok.mpr ⟨(), db₂, h₂,
    exec_bind_ok.mpr ⟨(), db₃, h₃, exec_pure_ok.mpr ⟨rfl, rfl⟩⟩⟩⟩⟩

/-- An outcome is recorded wherever the checks of the call pass. -/
theorem exists_recordMutationOutcome {u : Unicode} {sha256 : Sha256}
    {transition : MutationOutcomeTransition} {target : TransitionTarget}
    (hstate : state ∈ db.mutationState) (hintent : intent ∈ db.mutationIntents)
    (hid : intent.operationId = state.operationId)
    (hrow : checkMutationStateRow state = .ok ())
    (hvalid : validateMutationEvidence u sha256 evidence = .ok ())
    (howner : evidence.operationId = state.operationId)
    (hattempt : evidence.attemptNumber = state.attemptNumber)
    (hphase : state.phase = .running ∨ state.phase = .needsReconcile)
    (htransition : exec (validateTransition evidence transition) db = (.ok (), db))
    (htarget : transitionTarget state.phase evidence transition = .ok target)
    (hfresh : db.mutationEvidence.lookup evidence.evidenceId = none)
    (hversion : fitsI64 (state.stateVersion + 1) = true) :
    ∃ next db', exec (recordMutationOutcome u sha256 state.operationId state.stateVersion evidence
      transition) db = (.ok next, db') := by
  obtain ⟨next, db', hwrite⟩ := exists_writeOutcome hstate hintent hid howner
    (storable_of_valid hvalid) hfresh hversion (isFinal_of_transitionTarget htarget)
  obtain ⟨hchecked, hlookup⟩ := checked_lookup hstate hrow
  refine ⟨next, db', ?_⟩
  simp only [recordMutationOutcome, exec_bind_ok, exec_lift_ok, exec_transaction_ok,
    exec_loadMutationState_ok, exec_the_ok, exec_reject_ok, exists_and_left, exists_eq_left',
    exists_const, and_assoc, Decidable.not_not, not_or]
  exact ⟨(), hvalid, howner, hchecked, state, hlookup, rfl, hattempt,
    fun hnot => hphase.elim hnot.1 hnot.2, (), _, htransition, target, htarget, hwrite⟩

/-- A durable intent is claimed. -/
theorem exists_claimMutation (hstate : state ∈ db.mutationState)
    (hintent : intent ∈ db.mutationIntents) (hid : intent.operationId = state.operationId)
    (hkind : intent.operationKind ≠ .remoteExistingBlocked)
    (hrow : checkMutationStateRow state = .ok ()) (hclaimable : isClaimable state 0 = true)
    (hevidence : state.lastEvidenceId = none) (hversion : fitsI64 (state.stateVersion + 1) = true) :
    ∃ next db', exec (claimMutation state.operationId state.stateVersion 0) db =
      (.ok next, db') := by
  have hlower := fitsI64_of_succ hversion
  have hnumbers : checkMutationStateNumbers (claimedMutationState state 0) = .ok () := by
    simp only [checkMutationStateNumbers, seq_eq_ok, claimedMutationState]
    exact ⟨u64ToI64_eq_ok.mpr hversion, rfl, rfl⟩
  obtain ⟨db₁, h₁⟩ := @exists_updateMutationState db state (claimedMutationState state 0) hstate rfl
    hnumbers hlower (by rw [claimedMutationState, hevidence]; rfl) rfl
  have f₁ : OnlyWrites [.mutationState] db db₁ := Keeps.of_exec inferInstance h₁
  have eintents : db₁.mutationIntents = db.mutationIntents := f₁ .mutationIntents (by decide)
  obtain ⟨db₂, h₂⟩ := @exists_insertMutationEvent db₁ state.operationId
    (claimedMutationState state 0).attemptNumber (state.stateVersion + 1) 0 .running none none none
    rfl hversion rfl (intentExists_of_mem (by rwa [eintents]) hid) rfl
  obtain ⟨hchecked, hlookup⟩ := checked_lookup hstate hrow
  have hkind' : (db.mutationIntents.lookup state.operationId).map (·.operationKind) =
      some intent.operationKind := by
    rw [Table.lookup_eq_some_iff.mpr ⟨hintent, hid⟩, Option.map_some]
  refine ⟨claimedMutationState state 0, db₂, ?_⟩
  simp only [claimMutation, exec_bind_ok, exec_lift_ok, exec_transaction_ok, loadMutationKind,
    exec_loadMutationState_ok, exec_read_ok, exec_the_ok, exec_reject_ok, exec_pure_ok,
    exists_and_left, exists_eq_left', exists_const, and_assoc, Decidable.not_not]
  exact ⟨(), rfl, intent.operationKind, hkind', hkind, hchecked, state, hlookup, rfl,
    by simp [hclaimable], (), db₁, h₁, (), db₂, h₂, rfl, rfl⟩

/-! ## A registration in a new store -/

/-- The evidence of the state in which a blocked intent was refused. -/
def refusalOf (sha256 : Sha256) (intent : MutationIntent) (evidenceId : Uuid) :
    MutationVerificationEvidence :=
  let fields : MutationVerificationEvidence :=
    { interruptedFields evidenceId intent.operationId 0 0 with
      capturePhase := .preflight
      outcomeCode := some "blocked"
      observedAccountId := intent.accountId
      observedRemoteRootId := intent.remoteRootId
      observedRemoteFileId := intent.remoteFileId
      observedParentId := intent.sourceParentId
      observedPath := intent.sourcePath
      observedLocalRevision := intent.expectedLocalRevision
      observedRemoteRevision := intent.expectedRemoteRevision
      observedOperationMarker := some intent.operationMarker }
  { fields with evidenceFingerprint := fields.canonicalFingerprint sha256 }

theorem valid_refusalOf {u : Unicode} {sha256 : Sha256} (hintent : ValidIntent u sha256 intent)
    {evidenceId : Uuid} (hid : evidenceId.isNil = false) :
    validateMutationEvidence u sha256 (refusalOf sha256 intent evidenceId) = .ok () := by
  have hlower : isLowerHex64 (refusalOf sha256 intent evidenceId).evidenceFingerprint = true :=
    isLowerHex64_hexSha256 _ _
  simp only [validateMutationEvidence, seq_eq_ok, reject_eq_ok, eachSome_eq_ok,
    validateRemoteId_eq_ok, validateRevision_eq_ok, validateRedactedCode_eq_ok,
    validatePrivateReference_eq_ok, validateContentPath_eq_ok, u64ToI64_eq_ok]
  refine ⟨?_, rfl, hlower, not_not.mpr rfl, rfl, ?_, ?_, ?_, ?_, rfl, ?_, rfl, ?_⟩
  · simp [refusalOf, interruptedFields, hid, hintent.operationId]
  · intro code hcode
    obtain rfl := Option.some.inj (List.mem_singleton.mp hcode)
    decide
  · exact fun h => absurd h.2 (by simp [refusalOf])
  · intro id hmem
    simp only [refusalOf, List.mem_cons, List.not_mem_nil, or_false] at hmem
    rcases hmem with h | h | h | h | h | h
    · exact hintent.ids id (by simp [h])
    · exact hintent.ids id (by simp [h])
    · exact hintent.ids id (by simp [h])
    · exact hintent.ids id (by simp [h])
    · exact hintent.revisions id (by simp [h])
    · exact hintent.revisions id (by simp [h])
  · intro path hpath
    exact hintent.paths path (by simp [List.mem_singleton.mp hpath, refusalOf])
  · intro code hcode
    obtain rfl := Option.some.inj (List.mem_singleton.mp hcode)
    exact hintent.operationMarker
  · intro reference hreference
    cases List.mem_singleton.mp hreference

theorem checkInitialEvidence_refusalOf {sha256 : Sha256} {evidenceId : Uuid}
    (hkind : intent.operationKind = .remoteExistingBlocked) :
    checkInitialEvidence intent (some (refusalOf sha256 intent evidenceId)) = .ok () := by
  rw [checkInitialEvidence, if_pos hkind, reject_eq_ok]
  simp [isBlockingEvidence, refusalOf, interruptedFields]

theorem paired_of_validPair {hash : Option String} {size : Option ℕ} (h : ValidPair hash size) :
    paired hash size = true ∧ each u64ToI64 size.toList = .ok () := by
  refine ⟨beq_iff_eq.mpr h.1, each_eq_ok.mpr fun value hvalue => ?_⟩
  exact u64ToI64_eq_ok.mpr (h.2.2 value (Option.mem_toList.mp hvalue))

theorem exists_recordInitialEvidence (hintent : intent ∈ db.mutationIntents)
    (hstate : initialMutationState intent ∈ db.mutationState)
    (howner : evidence.operationId = intent.operationId) (hstorable : Storable evidence)
    (hfresh : db.mutationEvidence.lookup evidence.evidenceId = none) :
    ∃ db', exec (recordInitialEvidence intent evidence) db = (.ok (), db') := by
  obtain ⟨db₁, h₁⟩ := exists_insertMutationEvidence hstorable
    (intentExists_of_mem hintent howner.symm) hfresh
  have f₁ : OnlyWrites [.mutationEvidence] db db₁ := Keeps.of_exec inferInstance h₁
  have estate : db₁.mutationState = db.mutationState := f₁ .mutationState (by decide)
  have eintents : db₁.mutationIntents = db.mutationIntents := f₁ .mutationIntents (by decide)
  have hcount : db₁.mutationState.count (isInitial intent.operationId) = 1 := by
    refine Nat.le_antisymm (Table.count_le_one fun a b ha hb => ?_)
      (Table.count_pos_iff.mpr ⟨_, estate.symm ▸ hstate, decide_eq_true ⟨rfl, rfl, rfl⟩⟩)
    exact (of_decide_eq_true ha).1.trans (of_decide_eq_true hb).1.symm
  obtain ⟨db₂, h₂⟩ := @exists_insertMutationEvent
    { db₁ with
      mutationState := db₁.mutationState.update (isInitial intent.operationId)
        (blockedMutationState evidence) fun _ _ => rfl }
    intent.operationId 0 1 evidence.capturedAtUnixMs .needsReconcile (some .needsReconcile)
    (some evidence.evidenceId) evidence.outcomeCode hstorable.outcomeCode rfl
    (u64ToI64_eq_ok.mp hstorable.capturedAt)
    (@intentExists_of_mem _ intent _ (eintents.symm ▸ hintent) rfl)
    (evidenceExists_of_mem fun id hid => ⟨evidence,
      (mem_of_insertEvidence h₁ evidence).mpr (Or.inr rfl), Option.some.inj hid⟩)
  refine ⟨db₂, ?_⟩
  simp only [recordInitialEvidence, exec_bind_ok, exec_lift_ok, exec_read_ok, exec_write_ok,
    exec_reject_ok, exists_and_left, exists_eq_left', exists_const, and_assoc,
    Decidable.not_not]
  exact ⟨(), db₁, h₁, (), hstorable.capturedAt, hcount, h₂⟩

theorem exists_insertMutationIntent {u : Unicode} {sha256 : Sha256}
    (hintent : ValidIntent u sha256 intent)
    (hmarker : ∀ old ∈ db.mutationIntents, old.operationMarker ≠ intent.operationMarker)
    (hfresh : db.mutationIntents.lookup intent.operationId = none) :
    ∃ intents, db.mutationIntents.insert intent = some intents ∧
      exec (insertMutationIntent intent) db =
        (.ok (), { db with mutationIntents := intents }) := by
  obtain ⟨hbase, hbaseFits⟩ := paired_of_validPair hintent.base
  obtain ⟨hlocal, hlocalFits⟩ := paired_of_validPair hintent.expectedLocal
  obtain ⟨hremote, hremoteFits⟩ := paired_of_validPair hintent.expectedRemote
  obtain ⟨intents, hintents⟩ := Table.exists_insert hfresh
  have hfree : ∀ old ∈ db.mutationIntents.rows, old.operationMarker ≠ intent.operationMarker :=
    fun old hold => hmarker old hold
  refine ⟨intents, hintents, ?_⟩
  simp only [insertMutationIntent, exec_bind_ok, exec_lift_ok, exec_read_ok, exec_require_ok,
    exec_reject_ok, mutationMarkerExists, exec_the_ok, exec_write_ok, exists_and_left,
    exists_eq_left', exists_const, and_assoc]
  exact ⟨(), hbaseFits, (), hlocalFits, (), hremoteFits, (), u64ToI64_eq_ok.mpr hintent.registered,
    by simpa using hfree, hbase, hlocal, hremote, intents, hintents, rfl⟩

theorem exists_insertMutationState (hintent : intent ∈ db.mutationIntents)
    (htime : fitsI64 intent.registeredAtUnixMs = true)
    (hfresh : db.mutationState.lookup intent.operationId = none) :
    ∃ states, db.mutationState.insert (initialMutationState intent) = some states ∧
      exec (insertMutationState (initialMutationState intent)) db =
        (.ok (), { db with mutationState := states }) := by
  obtain ⟨states, hstates⟩ := @Table.exists_insert _ _ _ _ db.mutationState
    (initialMutationState intent) hfresh
  have hnumbers : checkMutationStateNumbers (initialMutationState intent) = .ok () := by
    simp only [checkMutationStateNumbers, seq_eq_ok, initialMutationState]
    exact ⟨rfl, rfl, u64ToI64_eq_ok.mpr htime⟩
  refine ⟨states, hstates, ?_⟩
  simp only [insertMutationState, exec_bind_ok, exec_lift_ok, exec_read_ok, exec_require_ok,
    exec_the_ok, exec_write_ok, id, exists_and_left, exists_eq_left', exists_const, and_assoc]
  exact ⟨(), hnumbers, intentExists_of_mem hintent rfl, rfl, rfl, states, hstates, rfl⟩

/-- A valid intent is registered in a new store. -/
theorem exists_registerMutationIntent {u : Unicode} {sha256 : Sha256}
    (hintent : ValidIntent u sha256 intent)
    {initialEvidence : Option MutationVerificationEvidence}
    (hevidence : ∀ evidence ∈ initialEvidence, validateMutationEvidence u sha256 evidence = .ok () ∧
      evidence.operationId = intent.operationId)
    (hinitial : checkInitialEvidence intent initialEvidence = .ok ()) :
    ∃ db', exec (registerMutationIntent u sha256 intent initialEvidence) Database.empty =
      (.ok .registered, db') := by
  obtain ⟨intents, hintents, h₁⟩ := @exists_insertMutationIntent Database.empty intent u sha256
    hintent (fun _ h => absurd h Table.not_mem_empty) rfl
  have hmem : intent ∈ intents := (Table.mem_of_insert hintents).mpr (Or.inr rfl)
  obtain ⟨states, hstates, h₂⟩ := @exists_insertMutationState
    { Database.empty with mutationIntents := intents } intent hmem hintent.registered rfl
  have hstate : initialMutationState intent ∈ states :=
    (Table.mem_of_insert hstates).mpr (Or.inr rfl)
  obtain ⟨db₃, h₃⟩ := @exists_insertMutationEvent
    { Database.empty with mutationIntents := intents, mutationState := states }
    intent.operationId 0 0 intent.registeredAtUnixMs .intentDurable none none none rfl rfl
    hintent.registered (@intentExists_of_mem _ intent _ hmem rfl) rfl
  have f₃ : OnlyWrites [.mutationEvents] _ db₃ := Keeps.of_exec inferInstance h₃
  have eintents : db₃.mutationIntents = intents := f₃ .mutationIntents (by decide)
  have estate : db₃.mutationState = states := f₃ .mutationState (by decide)
  have eevidence : db₃.mutationEvidence = .empty := f₃ .mutationEvidence (by decide)
  obtain ⟨db₄, h₄⟩ : ∃ db₄, exec (initialEvidence.toList.forM (recordInitialEvidence intent)) db₃ =
      (.ok (), db₄) := by
    cases initialEvidence with
    | none => exact ⟨db₃, rfl⟩
    | some evidence =>
        obtain ⟨hvalid, howner⟩ := hevidence evidence rfl
        obtain ⟨db₄, hrecord⟩ := @exists_recordInitialEvidence db₃ intent evidence
          (eintents.symm ▸ hmem) (estate.symm ▸ hstate) howner (storable_of_valid hvalid)
          (by rw [eevidence]; rfl)
        exact ⟨db₄, exec_forM_cons_ok.mpr ⟨(), db₄, hrecord, rfl⟩⟩
  have hchecks : each (fun evidence => do
      validateMutationEvidence u sha256 evidence
      reject (evidence.operationId ≠ intent.operationId) .mutationCollision)
        initialEvidence.toList = .ok () := by
    rw [each_eq_ok]
    intro evidence hmem
    obtain ⟨hvalid, howner⟩ := hevidence evidence (Option.mem_toList.mp hmem)
    exact seq_eq_ok.mpr ⟨hvalid, reject_eq_ok.mpr (not_not.mpr howner)⟩
  refine ⟨db₄, ?_⟩
  simp only [registerMutationIntent, exec_bind_ok, exec_lift_ok, exec_transaction_ok,
    loadMutationIdentity, exec_read_ok, exists_and_left, exists_eq_left', and_assoc]
  refine ⟨(), validateMutationIntent_eq_ok.mpr hintent, (), hchecks, (), hinitial, ?_⟩
  have hnew : Database.empty.mutationIntents.lookup intent.operationId = none := rfl
  rw [hnew, Option.map_none, registerWith]
  simp only [registerNew, exec_bind_ok, exec_reject_ok, mutationMarkerExists, exec_read_ok,
    exec_pure_ok, exists_and_left, exists_eq_left', exists_const, and_assoc]
  exact ⟨by simp [Database.empty, Table.empty], (), _, h₁, (), _, h₂, (), db₃, h₃, (), db₄, h₄,
    trivial, rfl⟩

end Statements

/-! ## The states a store reaches -/

/-- The versions at which a mutation waits for its outcome. -/
def WaitsAt (kind : MutationOperationKind) (version : ℕ) : Prop :=
  version = 1 ∨ version = 2 ∧ kind ≠ .remoteExistingBlocked

/-- What the phase of a mutation says about its version; its attempt is the first. -/
structure OnCourse (kind : MutationOperationKind) (state : MutationState) : Prop where
  attemptNumber : state.attemptNumber = 0
  notScheduled : state.phase ≠ .retryScheduled
  intentDurable : state.phase = .intentDurable → state.stateVersion = 0
  running : state.phase = .running → state.stateVersion = 1 ∧ kind ≠ .remoteExistingBlocked
  needsReconcile : state.phase = .needsReconcile → WaitsAt kind state.stateVersion

/-- Every state of the database is on the course of its intent. -/
def AllOnCourse (db : Database) : Prop :=
  ∀ intent ∈ db.mutationIntents, ∀ state ∈ db.mutationState,
    state.operationId = intent.operationId → OnCourse intent.operationKind state

section Course

variable {db db' : Database} {u : Unicode} {sha256 : Sha256} {intent : MutationIntent}
  {state : MutationState} {kind : MutationOperationKind}

theorem OnCourse.initial (intent : MutationIntent) :
    OnCourse kind (initialMutationState intent) where
  attemptNumber := rfl
  notScheduled := by simp [initialMutationState]
  intentDurable := fun _ => rfl
  running := fun h => by simp [initialMutationState] at h
  needsReconcile := fun h => by simp [initialMutationState] at h

theorem OnCourse.blocked (intent : MutationIntent) (evidence : MutationVerificationEvidence) :
    OnCourse kind (blockedMutationState evidence (initialMutationState intent)) where
  attemptNumber := rfl
  notScheduled := by simp [blockedMutationState]
  intentDurable := fun h => by simp [blockedMutationState] at h
  running := fun h => by simp [blockedMutationState] at h
  needsReconcile := fun _ => Or.inl rfl

/-- Only a durable intent is claimed, at version 0. -/
theorem OnCourse.claimed {nowUnixMs : ℕ} (h : OnCourse kind state)
    (hkind : kind ≠ .remoteExistingBlocked) (hclaimable : isClaimable state nowUnixMs = true) :
    OnCourse kind (claimedMutationState state nowUnixMs) := by
  have hdurable : state.phase = .intentDurable := by
    simp only [isClaimable, Bool.and_eq_true, Bool.or_eq_true, beq_iff_eq] at hclaimable
    exact hclaimable.1.resolve_right h.notScheduled
  constructor
  · simp [claimedMutationState, hdurable, h.attemptNumber]
  · simp [claimedMutationState]
  · simp [claimedMutationState]
  · intro _
    exact ⟨by rw [claimedMutationState, h.intentDurable hdurable], hkind⟩
  · simp [claimedMutationState]

/-- A lost outcome leaves a running mutation at version 2. -/
theorem OnCourse.lost {evidence : MutationVerificationEvidence} (h : OnCourse kind state)
    (hrunning : state.phase = .running) :
    OnCourse kind (recordedMutationState state evidence
      ⟨.needsReconcile, .needsReconcile, none, none, none⟩) := by
  obtain ⟨hversion, hkind⟩ := h.running hrunning
  constructor
  · exact h.attemptNumber
  · simp [recordedMutationState]
  · simp [recordedMutationState]
  · simp [recordedMutationState]
  · intro _
    exact Or.inr ⟨by rw [recordedMutationState, hversion], hkind⟩

theorem OnCourse.recorded {evidence : MutationVerificationEvidence} {target : TransitionTarget}
    {transition : MutationOutcomeTransition} (h : OnCourse kind state)
    (htarget : transitionTarget state.phase evidence transition = .ok target) :
    OnCourse kind (recordedMutationState state evidence target) := by
  obtain ⟨-, -, -, -, -, rfl⟩ | ⟨-, hrunning, -, -, rfl⟩ := transitionTarget_eq_ok htarget
  · constructor
    · exact h.attemptNumber
    all_goals simp [recordedMutationState]
  · exact h.lost hrunning

theorem AllOnCourse.of_same (h : AllOnCourse db) (hsame : SameMutations db db') :
    AllOnCourse db' := by
  intro intent hintent state hstate hid
  exact h intent (hsame.intents ▸ hintent) state (hsame.state ▸ hstate) hid

theorem AllOnCourse.of_moves {next : MutationState}
    {evidence : Option MutationVerificationEvidence} (h : AllOnCourse db)
    (hmoves : Moves db db' next evidence)
    (hnext : ∀ intent ∈ db.mutationIntents, next.operationId = intent.operationId →
      OnCourse intent.operationKind next) : AllOnCourse db' := by
  intro intent hintent state hstate hid
  rw [hmoves.intents] at hintent
  rcases (hmoves.state.mem_iff state).mp hstate with rfl | ⟨hold, -⟩
  · exact hnext intent hintent hid
  · exact h intent hintent state hold hid

theorem AllOnCourse.of_registers {new : MutationIntent} (h : AllOnCourse db)
    (hregisters : Registers db db' new) : AllOnCourse db' := by
  intro intent hintent state hstate hid
  rcases (hregisters.state state).mp hstate with hold | rfl
  · rcases (hregisters.intents intent).mp hintent with hthere | rfl
    · exact h intent hthere state hold hid
    · exact absurd hid (hregisters.freshState state hold)
  · exact OnCourse.initial new

theorem AllOnCourse.of_interrupts (h : AllOnCourse db)
    (hinterrupts : Relation.ReflTransGen (Interrupts sha256) db db') : AllOnCourse db' := by
  induction hinterrupts with
  | refl => exact h
  | tail _ hstep ih =>
      obtain ⟨running, hstate, evidenceId, hrunning, hmoves⟩ := hstep
      exact ih.of_moves hmoves fun intent hintent hid => (ih intent hintent running hstate hid).lost
        hrunning

theorem allOnCourse_step (vaultId : Uuid) (db : Database) (op : Operation) (h : AllOnCourse db) :
    AllOnCourse (step u sha256 vaultId db op) := by
  generalize hdb' : step u sha256 vaultId db op = db'
  cases hdb' ▸ mutationStep u sha256 vaultId db op with
  | same hsame => exact h.of_same hsame
  | registered _ _ hnew =>
      cases hnew with
      | plain hregisters => exact h.of_registers hregisters
      | blocked hregisters hmoves =>
          exact (h.of_registers hregisters).of_moves hmoves fun _ _ _ => OnCourse.blocked _ _
  | claimed hclaimed hsame hkind hstate hclaimable hmoves =>
      refine h.of_moves hmoves fun intent hintent hid => ?_
      -- a claim checks the kind of the only intent with this identifier
      have hexecutable : intent.operationKind ≠ .remoteExistingBlocked := by
        rw [Table.eq_of_key_eq _ hintent hclaimed (hid.symm.trans hsame.symm)]
        exact hkind
      exact (h intent hintent _ hstate hid).claimed hexecutable hclaimable
  | recorded _ _ _ hstate _ htarget hmoves =>
      exact h.of_moves hmoves fun intent hintent hid => (h intent hintent _ hstate hid).recorded
        htarget
  | reopened hsame hinterrupts => exact (h.of_same hsame).of_interrupts hinterrupts

theorem allOnCourse_run (vaultId : Uuid) (ops : List Operation) :
    AllOnCourse (runStore u sha256 vaultId ops) :=
  Runs.run_induction (allOnCourse_step vaultId) ops fun _ h => absurd h Table.not_mem_empty

/-- **A mutation that waits for its outcome does so on its first attempt, at the version
that its kind allows.** -/
theorem waitsAt_run {vaultId : Uuid} {ops : List Operation}
    (hintent : intent ∈ (runStore u sha256 vaultId ops).mutationIntents)
    (hstate : state ∈ (runStore u sha256 vaultId ops).mutationState)
    (hid : state.operationId = intent.operationId)
    (hphase : state.phase = .running ∨ state.phase = .needsReconcile) :
    state.attemptNumber = 0 ∧ WaitsAt intent.operationKind state.stateVersion := by
  have hcourse := allOnCourse_run vaultId ops intent hintent state hstate hid
  refine ⟨hcourse.attemptNumber, hphase.elim (fun h => Or.inl (hcourse.running h).1) ?_⟩
  exact hcourse.needsReconcile

end Course

/-! ## Runs that reach them -/

/-- A mutation of the intent waits for its outcome at the version, and no record has the
identifier. -/
structure IsWaiting (db : Database) (intent : MutationIntent) (version : ℕ)
    (state : MutationState) (evidenceId : Uuid) : Prop where
  intent_mem : intent ∈ db.mutationIntents
  state_mem : state ∈ db.mutationState
  operationId : intent.operationId = state.operationId
  attemptNumber : state.attemptNumber = 0
  stateVersion : state.stateVersion = version
  phase : state.phase = .running ∨ state.phase = .needsReconcile
  row : checkMutationStateRow state = .ok ()
  fresh : db.mutationEvidence.lookup evidenceId = none

section Existence

variable {u : Unicode} {sha256 : Sha256} {intent : MutationIntent} {evidenceId : Uuid}

theorem exists_other_uuid (evidenceId : Uuid) :
    ∃ id : Uuid, id.isNil = false ∧ id ≠ evidenceId := by
  by_cases h : (⟨List.replicate 16 1, rfl⟩ : Uuid) = evidenceId
  · refine ⟨⟨List.replicate 16 2, rfl⟩, by decide, fun heq => ?_⟩
    exact absurd (congrArg Subtype.val (h.trans heq.symm)) (by decide)
  · exact ⟨⟨List.replicate 16 1, rfl⟩, by decide, h⟩

theorem checkMutationStateRow_of_valid {state : MutationState}
    (hintent : ValidIntent u sha256 intent) (hid : intent.operationId = state.operationId)
    (hattempt : state.attemptNumber = 0)
    (hevidence : ∀ id ∈ state.lastEvidenceId, id.isNil = false)
    (hcode : state.outcomeCode = none ∨ state.outcomeCode = some "blocked") :
    checkMutationStateRow state = .ok () := by
  simp only [checkMutationStateRow, seq_eq_ok, reject_eq_ok, eachSome_eq_ok,
    validateRedactedCode_eq_ok]
  refine ⟨?_, by simp [hattempt], ?_, ?_⟩
  · rw [← hid]
    simp [hintent.operationId]
  · cases hlast : state.lastEvidenceId with
    | none => simp
    | some id => simp [hevidence id hlast]
  · intro code hmem
    rcases hcode with h | h
    · rw [h, List.mem_singleton] at hmem
      cases hmem
    · rw [h, List.mem_singleton] at hmem
      obtain rfl := Option.some.inj hmem
      decide

theorem runStore_concat_of_ok {vaultId : Uuid} {ops : List Operation} {op : Operation}
    {reply : Reply} {db' : Database}
    (h : exec (perform u sha256 vaultId op) (runStore u sha256 vaultId ops) = (.ok reply, db')) :
    runStore u sha256 vaultId (ops ++ [op]) = db' := by
  rw [runStore_concat, step, h]

/-- A new store registers the intent, with its refusal if it is blocked. -/
theorem exists_run_registered (vaultId : Uuid) (hintent : ValidIntent u sha256 intent)
    {initialEvidence : Option MutationVerificationEvidence}
    (hevidence : ∀ evidence ∈ initialEvidence, validateMutationEvidence u sha256 evidence = .ok () ∧
      evidence.operationId = intent.operationId)
    (hinitial : checkInitialEvidence intent initialEvidence = .ok ()) :
    ∃ ops, NewMutation Database.empty (runStore u sha256 vaultId ops) intent initialEvidence := by
  obtain ⟨db', hregister⟩ := exists_registerMutationIntent hintent hevidence hinitial
  have hrun : runStore u sha256 vaultId ([] ++ [.registerMutationIntent intent initialEvidence]) =
      db' := runStore_concat_of_ok (exec_replying_ok.mpr ⟨_, hregister, rfl⟩)
  refine ⟨[] ++ [.registerMutationIntent intent initialEvidence], ?_⟩
  rw [hrun]
  simp only [registerMutationIntent, exec_bind_ok, exec_lift_ok, exec_transaction_ok,
    loadMutationIdentity, exec_read_ok, exists_and_left, exists_eq_left', and_assoc] at hregister
  obtain ⟨_, -, _, -, _, -, hregister⟩ := hregister
  exact newMutation_of_registerNew hregister

/-- A blocked intent waits at version 1 from its registration on. -/
theorem exists_waiting_blocked (vaultId : Uuid) (hintent : ValidIntent u sha256 intent)
    (hkind : intent.operationKind = .remoteExistingBlocked) (evidenceId : Uuid) :
    ∃ ops state, IsWaiting (runStore u sha256 vaultId ops) intent 1 state evidenceId := by
  obtain ⟨id, hnotNil, hne⟩ := exists_other_uuid evidenceId
  obtain ⟨ops, hnew⟩ := @exists_run_registered u sha256 intent vaultId hintent
    (some (refusalOf sha256 intent id)) (by
      intro evidence hmem
      obtain rfl := Option.some.inj hmem
      exact ⟨valid_refusalOf hintent hnotNil, rfl⟩) (checkInitialEvidence_refusalOf hkind)
  refine ⟨ops, blockedMutationState (refusalOf sha256 intent id) (initialMutationState intent), ?_⟩
  cases hnew with
  | blocked hregisters hmoves =>
  refine
    { intent_mem := by
        rw [hmoves.intents]
        exact (hregisters.intents _).mpr (Or.inr rfl)
      state_mem := (hmoves.state.mem_iff _).mpr (Or.inl rfl)
      operationId := rfl
      attemptNumber := rfl
      stateVersion := rfl
      phase := Or.inr rfl
      row := checkMutationStateRow_of_valid hintent rfl rfl ?_ (Or.inr rfl)
      fresh := Table.lookup_eq_none_iff.mpr fun row hrow heq => ?_ }
  · intro other hother
    obtain rfl := Option.some.inj hother
    exact hnotNil
  · rw [hmoves.mem_evidence_iff, hregisters.evidence] at hrow
    rcases hrow with hrow | hrow
    · exact Table.not_mem_empty hrow
    · obtain rfl := Option.some.inj hrow
      exact hne heq

/-- An executable intent waits at version 1 once it is claimed. -/
theorem exists_waiting_claimed (vaultId : Uuid) (hintent : ValidIntent u sha256 intent)
    (hkind : intent.operationKind ≠ .remoteExistingBlocked) :
    ∃ ops state, state.phase = .running ∧
      ∀ evidenceId, IsWaiting (runStore u sha256 vaultId ops) intent 1 state evidenceId := by
  obtain ⟨ops, hnew⟩ := @exists_run_registered u sha256 intent vaultId hintent none
    (fun _ h => by cases h) (reject_eq_ok.mpr hkind)
  cases hnew with
  | plain hregisters =>
  have hstate : initialMutationState intent ∈ (runStore u sha256 vaultId ops).mutationState :=
    (hregisters.state _).mpr (Or.inr rfl)
  have hmem : intent ∈ (runStore u sha256 vaultId ops).mutationIntents :=
    (hregisters.intents _).mpr (Or.inr rfl)
  obtain ⟨next, db', hclaim⟩ := exists_claimMutation hstate hmem rfl hkind
    (checkMutationStateRow_of_valid hintent rfl rfl (by simp [initialMutationState]) (Or.inl rfl))
    rfl rfl rfl
  have hrun : runStore u sha256 vaultId (ops ++ [.claimMutation intent.operationId 0 0]) = db' :=
    runStore_concat_of_ok (exec_replying_ok.mpr ⟨_, hclaim, rfl⟩)
  obtain ⟨state, hfrom, -, -, hid, -, -, -, -, hmoves⟩ := moves_of_claimMutation hclaim
  obtain rfl : state = initialMutationState intent := Table.eq_of_key_eq _ hfrom hstate hid
  refine ⟨ops ++ [.claimMutation intent.operationId 0 0],
    claimedMutationState (initialMutationState intent) 0, rfl, fun evidenceId => ?_⟩
  rw [hrun]
  refine
    { intent_mem := by rwa [hmoves.intents]
      state_mem := (hmoves.state.mem_iff _).mpr (Or.inl rfl)
      operationId := rfl
      attemptNumber := rfl
      stateVersion := rfl
      phase := Or.inl rfl
      row := checkMutationStateRow_of_valid hintent rfl rfl
        (by simp [claimedMutationState, initialMutationState]) (Or.inl rfl)
      fresh := Table.lookup_eq_none_iff.mpr fun row hrow heq => ?_ }
  rw [hmoves.mem_evidence_iff, hregisters.evidence] at hrow
  rcases hrow with hrow | hrow
  · exact Table.not_mem_empty hrow
  · cases hrow

/-- And at version 2 once its outcome was lost. -/
theorem exists_waiting_lost (vaultId : Uuid) (hintent : ValidIntent u sha256 intent)
    (hkind : intent.operationKind ≠ .remoteExistingBlocked) (evidenceId : Uuid) :
    ∃ ops state, IsWaiting (runStore u sha256 vaultId ops) intent 2 state evidenceId := by
  obtain ⟨id, hnotNil, hne⟩ := exists_other_uuid evidenceId
  obtain ⟨ops, running, hrunning, hclaimed⟩ := exists_waiting_claimed vaultId hintent hkind
  obtain ⟨hmem, hstate, hid, hattempt, hversion, hphase, hrow, hfresh⟩ := hclaimed id
  have htarget : transitionTarget running.phase (refusalOf sha256 intent id) .needsReconcile =
      .ok ⟨.needsReconcile, .needsReconcile, none, none, none⟩ := by
    rw [hrunning]
    rfl
  obtain ⟨next, db', hrecord⟩ := exists_recordMutationOutcome hstate hmem hid hrow
    (valid_refusalOf hintent hnotNil) hid hattempt.symm hphase rfl htarget hfresh
    (by rw [hversion]; rfl)
  have hrun : runStore u sha256 vaultId (ops ++ [.recordMutationOutcome running.operationId
      running.stateVersion (refusalOf sha256 intent id) .needsReconcile]) = db' :=
    runStore_concat_of_ok (exec_replying_ok.mpr ⟨_, hrecord, rfl⟩)
  obtain ⟨-, -, state, hfrom, target, hsame, -, -, -, htarget', hmoves⟩ :=
    moves_of_recordMutationOutcome hrecord
  obtain rfl : state = running := Table.eq_of_key_eq _ hfrom hstate hsame
  rw [htarget] at htarget'
  obtain rfl := Except.ok.inj htarget'
  refine ⟨ops ++ [.recordMutationOutcome state.operationId state.stateVersion
    (refusalOf sha256 intent id) .needsReconcile], recordedMutationState state
      (refusalOf sha256 intent id) ⟨.needsReconcile, .needsReconcile, none, none, none⟩, ?_⟩
  rw [hrun]
  refine
    { intent_mem := by rwa [hmoves.intents]
      state_mem := (hmoves.state.mem_iff _).mpr (Or.inl rfl)
      operationId := hid
      attemptNumber := hattempt
      stateVersion := by rw [recordedMutationState, hversion]
      phase := Or.inr rfl
      row := checkMutationStateRow_of_valid hintent hid hattempt ?_ (Or.inr rfl)
      fresh := Table.lookup_eq_none_iff.mpr fun row hrow heq => ?_ }
  · intro other hother
    obtain rfl := Option.some.inj hother
    exact hnotNil
  · rcases (hmoves.mem_evidence_iff row).mp hrow with hold | hnew
    · exact absurd heq (Table.lookup_eq_none_iff.mp (hclaimed evidenceId).fresh row hold)
    · obtain rfl := Option.some.inj hnew
      exact hne heq

/-- **A store gets to every version at which a valid intent can wait.** -/
theorem exists_waiting (vaultId : Uuid) (hintent : ValidIntent u sha256 intent) {version : ℕ}
    (hversion : WaitsAt intent.operationKind version) (evidenceId : Uuid) :
    ∃ ops state, IsWaiting (runStore u sha256 vaultId ops) intent version state evidenceId := by
  rcases hversion with rfl | ⟨rfl, hkind⟩
  · by_cases hkind : intent.operationKind = .remoteExistingBlocked
    · exact exists_waiting_blocked vaultId hintent hkind evidenceId
    · obtain ⟨ops, state, -, hwaiting⟩ := exists_waiting_claimed vaultId hintent hkind
      exact ⟨ops, state, hwaiting evidenceId⟩
  · exact exists_waiting_lost vaultId hintent hkind evidenceId

end Existence

end Store
end MyVault
