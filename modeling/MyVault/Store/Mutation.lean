import MyVault.Store.Footprint
import Mathlib.Data.List.Sort

/-!
# Mutations and crash recovery

`register_mutation_intent`, `claim_mutation`, `record_mutation_outcome`,
`record_conflict_evidence` and `recover_interrupted_jobs` of `store.rs`.

The identifiers `Uuid::new_v4` draws while the store recovers are a parameter: the
`i`-th interrupted mutation gets the `i`-th of them.
-/

namespace MyVault
namespace Store

open Check Program

/-! ## Registration -/

/-- What a blocked intent has to say about the state it was refused in. -/
def isBlockingEvidence (intent : MutationIntent) (evidence : MutationVerificationEvidence) :
    Bool :=
  evidence.disposition == .needsReconcile && evidence.capturePhase == .preflight &&
    evidence.forbiddenSideEffect && evidence.outcomeCode.isSome &&
    evidence.observedAccountId == intent.accountId &&
    evidence.observedRemoteRootId == intent.remoteRootId &&
    evidence.observedRemoteFileId == intent.remoteFileId &&
    evidence.observedParentId == intent.sourceParentId &&
    evidence.observedPath == intent.sourcePath &&
    evidence.observedLocalRevision == intent.expectedLocalRevision &&
    evidence.observedRemoteRevision == intent.expectedRemoteRevision &&
    evidence.observedOperationMarker == some intent.operationMarker

/-- Only a blocked intent comes with evidence. -/
def checkInitialEvidence (intent : MutationIntent) :
    Option MutationVerificationEvidence → Except Error Unit
  | some evidence =>
      if intent.operationKind = .remoteExistingBlocked then
        reject (!isBlockingEvidence intent evidence) .invalidTransferEvidence
      else .error .invalidStateTransition
  | none => reject (intent.operationKind = .remoteExistingBlocked) .invalidTransferEvidence

/-- The state a registration starts in. -/
def initialMutationState (intent : MutationIntent) : MutationState where
  operationId := intent.operationId
  phase := .intentDurable
  attemptNumber := 0
  stateVersion := 0
  disposition := none
  nextAttemptAtUnixMs := none
  retryMode := none
  resumeReference := none
  lastEvidenceId := none
  outcomeCode := none
  updatedAtUnixMs := intent.registeredAtUnixMs

/-- The state after the evidence of a blocked intent. -/
def blockedMutationState (evidence : MutationVerificationEvidence) (state : MutationState) :
    MutationState :=
  { state with
    phase := .needsReconcile
    stateVersion := 1
    disposition := some .needsReconcile
    lastEvidenceId := some evidence.evidenceId
    outcomeCode := evidence.outcomeCode
    updatedAtUnixMs := evidence.capturedAtUnixMs }

/-- `WHERE operation_id = … AND state_version = 0 AND phase = 'intent_durable'`. -/
def isInitial (operationId : Uuid) (row : MutationState) : Bool :=
  decide (row.operationId = operationId ∧ row.stateVersion = 0 ∧ row.phase = .intentDurable)

/-- The evidence that an intent is registered with. -/
def recordInitialEvidence (intent : MutationIntent) (evidence : MutationVerificationEvidence) :
    StoreProgram Unit := do
  insertMutationEvidence evidence
  lift (u64ToI64 evidence.capturedAtUnixMs)
  let changed ← read (·.mutationState.count (isInitial intent.operationId))
  write fun db =>
    { db with
      mutationState := db.mutationState.update (isInitial intent.operationId)
        (blockedMutationState evidence) fun _ _ => rfl }
  reject (changed ≠ 1) .mutationStateVersionMismatch
  insertMutationEvent intent.operationId 0 1 .needsReconcile (some .needsReconcile)
    (some evidence.evidenceId) evidence.outcomeCode evidence.capturedAtUnixMs

/-- The intent is there already; the same one may be registered again. -/
def registerPresent (intent : MutationIntent) (identity : String × String) :
    StoreProgram MutationRegistrationOutcome := do
  reject (identity.1 ≠ intent.intentFingerprint ∨ identity.2 ≠ intent.operationMarker)
    .mutationCollision
  let state ← loadMutationState intent.operationId
  let state ← the state .invalidSchema
  pure (if state.phase = .completed then .alreadyCompleted else .alreadyPresent)

/-- A new intent with its state and its first event. -/
def registerNew (intent : MutationIntent)
    (initialEvidence : Option MutationVerificationEvidence) :
    StoreProgram MutationRegistrationOutcome := do
  let marked ← mutationMarkerExists intent.operationMarker
  reject marked .mutationCollision
  insertMutationIntent intent
  insertMutationState (initialMutationState intent)
  insertMutationEvent intent.operationId 0 0 .intentDurable none none none
    intent.registeredAtUnixMs
  initialEvidence.toList.forM (recordInitialEvidence intent)
  pure .registered

/-- An intent for an operation that may have one. -/
def registerWith (intent : MutationIntent)
    (initialEvidence : Option MutationVerificationEvidence) :
    Option (String × String) → StoreProgram MutationRegistrationOutcome
  | some identity => registerPresent intent identity
  | none => registerNew intent initialEvidence

/-- `register_mutation_intent`: the same intent twice is one intent. -/
def registerMutationIntent (u : Unicode) (sha256 : Sha256) (intent : MutationIntent)
    (initialEvidence : Option MutationVerificationEvidence) :
    StoreProgram MutationRegistrationOutcome := do
  lift (validateMutationIntent u sha256 intent)
  lift (each (fun evidence => do
    validateMutationEvidence u sha256 evidence
    reject (evidence.operationId ≠ intent.operationId) .mutationCollision) initialEvidence.toList)
  lift (checkInitialEvidence intent initialEvidence)
  transaction do
    let identity ← loadMutationIdentity intent.operationId
    registerWith intent initialEvidence identity

/-! ## Claims -/

/-- A durable intent, or a retry that is due. -/
def isClaimable (state : MutationState) (nowUnixMs : ℕ) : Bool :=
  (state.phase == .intentDurable || state.phase == .retryScheduled) &&
    state.nextAttemptAtUnixMs.all fun due => decide (due ≤ nowUnixMs)

/-- The state after a claim; an attempt after a retry counts. -/
def claimedMutationState (state : MutationState) (nowUnixMs : ℕ) : MutationState where
  operationId := state.operationId
  phase := .running
  attemptNumber := state.attemptNumber + if state.phase = .retryScheduled then 1 else 0
  stateVersion := state.stateVersion + 1
  disposition := none
  nextAttemptAtUnixMs := none
  retryMode := none
  resumeReference := none
  lastEvidenceId := state.lastEvidenceId
  outcomeCode := none
  updatedAtUnixMs := nowUnixMs

/-- `claim_mutation`. -/
def claimMutation (operationId : Uuid) (expectedStateVersion nowUnixMs : ℕ) :
    StoreProgram MutationState := do
  lift (u64ToI64 nowUnixMs)
  transaction do
    let kind ← loadMutationKind operationId
    let kind ← the kind .mutationNotFound
    reject (kind = .remoteExistingBlocked) .mutationNeedsReconcile
    let state ← loadMutationState operationId
    let state ← the state .mutationNotFound
    reject (state.stateVersion ≠ expectedStateVersion) .mutationStateVersionMismatch
    reject (!isClaimable state nowUnixMs) .invalidStateTransition
    let next := claimedMutationState state nowUnixMs
    updateMutationState next state.stateVersion
    insertMutationEvent next.operationId next.attemptNumber next.stateVersion next.phase none none
      none nowUnixMs
    pure next

/-! ## Outcomes -/

/-- `require_expected_match`: what the intent does not fix is free. -/
def requireExpectedMatch {α : Type} [DecidableEq α] (expected observed : Option α) :
    Except Error Unit :=
  reject (expected.isSome = true ∧ expected ≠ observed) .invalidTransferEvidence

/-- The comparisons of `validate_verified_applied_evidence` with the immutable intent. -/
def MutationIntent.requireMatch (intent : MutationIntent)
    (evidence : MutationVerificationEvidence) : Except Error Unit := do
  requireExpectedMatch intent.accountId evidence.observedAccountId
  requireExpectedMatch intent.remoteRootId evidence.observedRemoteRootId
  requireExpectedMatch intent.remoteFileId evidence.observedRemoteFileId
  requireExpectedMatch (intent.destinationParentId.or intent.sourceParentId)
    evidence.observedParentId
  requireExpectedMatch (intent.destinationPath.or intent.sourcePath) evidence.observedPath
  requireExpectedMatch intent.expectedLocalRevision evidence.observedLocalRevision
  requireExpectedMatch intent.expectedRemoteRevision evidence.observedRemoteRevision
  requireExpectedMatch intent.expectedLocalSha256 evidence.observedSha256
  requireExpectedMatch intent.expectedLocalByteLength evidence.observedByteLength
  requireExpectedMatch intent.expectedRemoteSha256 evidence.observedSha256
  requireExpectedMatch intent.expectedRemoteByteLength evidence.observedByteLength
  reject (evidence.observedOperationMarker ≠ some intent.operationMarker) .invalidTransferEvidence

/-- `validate_verified_applied_evidence`: what was observed is what the intent is for. -/
def validateVerifiedAppliedEvidence (evidence : MutationVerificationEvidence) :
    StoreProgram Unit := do
  reject (evidence.capturePhase ≠ .postVerify ∨ evidence.forbiddenSideEffect = true)
    .invalidTransferEvidence
  let intent ← read (·.mutationIntents.lookup evidence.operationId)
  let intent ← the intent .mutationNotFound
  lift (intent.requireMatch evidence)

/-- Only an applied outcome is compared with the intent. -/
def validateTransition (evidence : MutationVerificationEvidence) :
    MutationOutcomeTransition → StoreProgram Unit
  | .verifiedApplied => validateVerifiedAppliedEvidence evidence
  | .verifiedNotApplied _ | .retrySafe _ _ | .needsReconcile => pure ()

/-- `MutationTransitionTarget`. -/
structure TransitionTarget where
  phase : MutationPhase
  disposition : MutationDisposition
  nextAttemptAtUnixMs : Option ℕ
  retryMode : Option MutationRetryMode
  resumeReference : Option String
  deriving DecidableEq, Repr

/-- `transition_target`: where an outcome leads, if it may be recorded in this phase. -/
def transitionTarget (current : MutationPhase) (evidence : MutationVerificationEvidence) :
    MutationOutcomeTransition → Except Error TransitionTarget
  | .verifiedApplied =>
      if (current = .running ∨ current = .needsReconcile) ∧
          evidence.disposition = .verifiedApplied ∧ evidence.capturePhase = .postVerify ∧
          evidence.forbiddenSideEffect = false then
        .ok ⟨.completed, .verifiedApplied, none, none, none⟩
      else .error .invalidStateTransition
  | .needsReconcile =>
      if current = .running ∧ evidence.disposition = .needsReconcile ∧
          evidence.outcomeCode.isSome = true then
        .ok ⟨.needsReconcile, .needsReconcile, none, none, none⟩
      else .error .invalidStateTransition
  -- reserved until there is an executor for retries
  | .verifiedNotApplied _ | .retrySafe _ _ => .error .invalidStateTransition

/-- The state after an outcome. -/
def recordedMutationState (state : MutationState) (evidence : MutationVerificationEvidence)
    (target : TransitionTarget) : MutationState where
  operationId := state.operationId
  phase := target.phase
  attemptNumber := state.attemptNumber
  stateVersion := state.stateVersion + 1
  disposition := some target.disposition
  nextAttemptAtUnixMs := target.nextAttemptAtUnixMs
  retryMode := target.retryMode
  resumeReference := target.resumeReference
  lastEvidenceId := some evidence.evidenceId
  outcomeCode := evidence.outcomeCode
  updatedAtUnixMs := evidence.capturedAtUnixMs

/-- The three statements of a transition that has evidence. -/
def writeOutcome (state : MutationState) (evidence : MutationVerificationEvidence)
    (target : TransitionTarget) : StoreProgram MutationState := do
  insertMutationEvidence evidence
  let next := recordedMutationState state evidence target
  updateMutationState next state.stateVersion
  insertMutationEvent next.operationId next.attemptNumber next.stateVersion next.phase
    next.disposition (some evidence.evidenceId) evidence.outcomeCode evidence.capturedAtUnixMs
  pure next

/-- `record_mutation_outcome`: the evidence, the state, and an event. -/
def recordMutationOutcome (u : Unicode) (sha256 : Sha256) (operationId : Uuid)
    (expectedStateVersion : ℕ) (evidence : MutationVerificationEvidence)
    (transition : MutationOutcomeTransition) : StoreProgram MutationState := do
  lift (validateMutationEvidence u sha256 evidence)
  reject (evidence.operationId ≠ operationId) .mutationCollision
  transaction do
    let state ← loadMutationState operationId
    let state ← the state .mutationNotFound
    reject (state.stateVersion ≠ expectedStateVersion) .mutationStateVersionMismatch
    reject (evidence.attemptNumber ≠ state.attemptNumber ∨
      ¬ (state.phase = .running ∨ state.phase = .needsReconcile)) .invalidStateTransition
    validateTransition evidence transition
    let target ← lift (transitionTarget state.phase evidence transition)
    writeOutcome state evidence target

/-! ## Conflict evidence -/

/-- The fingerprint of the evidence of a conflict. -/
def loadConflictEvidenceFingerprint (conflictId : String) : StoreProgram (Option String) :=
  read fun db => (db.conflictEvidence.lookup conflictId).map (·.evidenceFingerprint)

/-- The evidence is there, and it is about the operation. -/
def evidenceBelongsToOperation (evidenceId operationId : Uuid) : StoreProgram Bool :=
  read fun db => (db.mutationEvidence.lookup evidenceId).any fun row =>
    row.operationId = operationId

/-- The operation of a conflict copy is registered as one. -/
def requireConflictCopy (operationId : Uuid) : StoreProgram Unit := do
  let kind ← loadMutationKind operationId
  let kind ← the kind .mutationNotFound
  reject (kind ≠ .conflictCopyPublish) .mutationCollision

/-- It has to be. -/
def requireOwnEvidence (operationId evidenceId : Uuid) : StoreProgram Unit := do
  let belongs ← evidenceBelongsToOperation evidenceId operationId
  reject (!belongs) .mutationCollision

/-- `record_conflict_evidence`. -/
def recordConflictEvidence (sha256 : Sha256) (evidence : ConflictEvidence) :
    StoreProgram ConflictEvidenceRegistrationOutcome := do
  lift (validateConflictEvidence sha256 evidence)
  transaction do
    let kind ← loadMutationKind evidence.operationId
    reject (kind = none) .mutationNotFound
    let existing ← loadConflictEvidenceFingerprint evidence.conflictId
    if existing.isSome then
      reject (existing ≠ some evidence.evidenceFingerprint) .mutationCollision
      pure .alreadyPresent
    else
      evidence.conflictCopyOperationId.toList.forM requireConflictCopy
      ([evidence.baseEvidenceId, evidence.localEvidenceId, evidence.remoteEvidenceId].filterMap
        id).forM (requireOwnEvidence evidence.operationId)
      insertConflictEvidence evidence
      pure .registered

/-! ## Recovery -/

/-- `interrupted_mutation_evidence` without its fingerprint. -/
def interruptedFields (evidenceId operationId : Uuid) (attemptNumber capturedAtUnixMs : ℕ) :
    MutationVerificationEvidence where
  evidenceId := evidenceId
  operationId := operationId
  attemptNumber := attemptNumber
  capturePhase := .reconcile
  disposition := .needsReconcile
  outcomeCode := some "interrupted_unknown_outcome"
  observedAccountId := none
  observedRemoteRootId := none
  observedRemoteFileId := none
  observedParentId := none
  observedPath := none
  observedLocalRevision := none
  observedRemoteRevision := none
  observedSha256 := none
  observedByteLength := none
  observedOperationMarker := none
  forbiddenSideEffect := true
  verifiedReceivedByteOffset := none
  resumeReference := none
  evidenceFingerprint := ""
  capturedAtUnixMs := capturedAtUnixMs

/-- The evidence for an operation that was interrupted. -/
def interruptedMutationEvidence (sha256 : Sha256) (evidenceId operationId : Uuid)
    (attemptNumber capturedAtUnixMs : ℕ) : MutationVerificationEvidence :=
  let evidence := interruptedFields evidenceId operationId attemptNumber capturedAtUnixMs
  { evidence with evidenceFingerprint := evidence.canonicalFingerprint sha256 }

/-- A running mutation whose outcome is unknown. -/
def interruptMutation (sha256 : Sha256) (evidenceId : Uuid) (state : MutationState) :
    StoreProgram Unit := do
  reject (2 ^ 32 ≤ state.attemptNumber) .invalidSchema
  let evidence := interruptedMutationEvidence sha256 evidenceId state.operationId
    state.attemptNumber state.updatedAtUnixMs
  let _ ← writeOutcome state evidence ⟨.needsReconcile, .needsReconcile, none, none, none⟩

/-- `ORDER BY operation_id`. -/
def runningMutations (db : Database) : List MutationState :=
  (db.mutationState.rows.filter fun row => row.phase = .running).insertionSort fun a b =>
    a.operationId.toHyphenated ≤ b.operationId.toHyphenated

/-- `recover_interrupted_jobs`: what was running is left to a reconciliation. -/
def recoverInterruptedJobs (sha256 : Sha256) (newV4 : ℕ → Uuid) : StoreProgram Unit :=
  transaction do
    write fun db =>
      { db with
        syncJobs := db.syncJobs.update (fun job => job.state = .running)
          (fun job => { job with
            state := .needsReconcile, lastErrorCode := some "interrupted_unknown_outcome" })
          fun _ _ => rfl }
    write fun db =>
      { db with
        transfers := db.transfers.update (fun transfer => transfer.phase = .running)
          (fun transfer => { transfer with
            phase := .needsReconcile, lastErrorCode := some "interrupted_unknown_outcome" })
          fun _ _ => rfl }
    let running ← read runningMutations
    running.zipIdx.forM fun row => interruptMutation sha256 (newV4 row.2) row.1

/-! ## Footprints -/

section Footprints

variable {parts : List Part}

instance {intent : MutationIntent} {evidence : MutationVerificationEvidence}
    [Listed .mutationState parts] [Listed .mutationEvents parts]
    [Listed .mutationEvidence parts] :
    Keeps (OnlyWrites parts) (recordInitialEvidence intent evidence) := by
  unfold recordInitialEvidence
  infer_instance

set_option synthInstance.maxSize 100000 in
instance {intent : MutationIntent} {initialEvidence : Option MutationVerificationEvidence}
    {identity : Option (String × String)} [Listed .mutationIntents parts]
    [Listed .mutationState parts] [Listed .mutationEvents parts]
    [Listed .mutationEvidence parts] :
    Keeps (OnlyWrites parts) (registerWith intent initialEvidence identity) := by
  cases identity with
  | some identity =>
      unfold registerWith registerPresent
      infer_instance
  | none =>
      unfold registerWith registerNew
      infer_instance

set_option synthInstance.maxSize 100000 in
instance registerMutationIntent_onlyWrites {u : Unicode} {sha256 : Sha256} {intent : MutationIntent}
    {initialEvidence : Option MutationVerificationEvidence} :
    Keeps (OnlyWrites [.mutationIntents, .mutationState, .mutationEvents, .mutationEvidence])
      (registerMutationIntent u sha256 intent initialEvidence) := by
  unfold registerMutationIntent
  infer_instance

set_option synthInstance.maxSize 100000 in
instance claimMutation_onlyWrites {operationId : Uuid} {expectedStateVersion nowUnixMs : ℕ} :
    Keeps (OnlyWrites [.mutationState, .mutationEvents])
      (claimMutation operationId expectedStateVersion nowUnixMs) := by
  unfold claimMutation
  infer_instance

instance {state : MutationState} {evidence : MutationVerificationEvidence}
    {target : TransitionTarget} [Listed .mutationState parts] [Listed .mutationEvents parts]
    [Listed .mutationEvidence parts] :
    Keeps (OnlyWrites parts) (writeOutcome state evidence target) := by
  unfold writeOutcome
  infer_instance

instance {R : Database → Database → Prop} [Std.Refl R] [IsTrans Database R]
    {evidence : MutationVerificationEvidence} {transition : MutationOutcomeTransition} :
    Keeps R (validateTransition evidence transition) := by
  cases transition <;> unfold validateTransition
  case verifiedApplied =>
    unfold validateVerifiedAppliedEvidence
    infer_instance
  all_goals infer_instance

set_option synthInstance.maxSize 100000 in
instance recordMutationOutcome_onlyWrites {u : Unicode} {sha256 : Sha256} {operationId : Uuid}
    {expectedStateVersion : ℕ}
    {evidence : MutationVerificationEvidence} {transition : MutationOutcomeTransition} :
    Keeps (OnlyWrites [.mutationState, .mutationEvents, .mutationEvidence])
      (recordMutationOutcome u sha256 operationId expectedStateVersion evidence transition) := by
  unfold recordMutationOutcome
  infer_instance

set_option synthInstance.maxSize 100000 in
instance recordConflictEvidence_onlyWrites {sha256 : Sha256} {evidence : ConflictEvidence} :
    Keeps (OnlyWrites [.conflictEvidence]) (recordConflictEvidence sha256 evidence) := by
  unfold recordConflictEvidence loadConflictEvidenceFingerprint requireConflictCopy
    requireOwnEvidence evidenceBelongsToOperation
  infer_instance

instance {sha256 : Sha256} {evidenceId : Uuid} {state : MutationState}
    [Listed .mutationState parts] [Listed .mutationEvents parts]
    [Listed .mutationEvidence parts] :
    Keeps (OnlyWrites parts) (interruptMutation sha256 evidenceId state) := by
  unfold interruptMutation
  infer_instance

set_option synthInstance.maxSize 100000 in
instance recoverInterruptedJobs_onlyWrites {sha256 : Sha256} {newV4 : ℕ → Uuid} :
    Keeps (OnlyWrites [.syncJobs, .transfers, .mutationState, .mutationEvents, .mutationEvidence])
      (recoverInterruptedJobs sha256 newV4) := by
  unfold recoverInterruptedJobs
  infer_instance

end Footprints

end Store
end MyVault
