import MyVault.Conflict.Completable
import MyVault.Store.Blocked
import MyVault.Store.Waiting

/-!
# What the sealer and the store call applied

`ReplayProof::from_r3_1` seals a post-state and `record_mutation_outcome` accepts it; the
two compare the evidence with the intent separately.  The store compares more: it checks
the record itself, asks for the absence of a forbidden side effect, falls back to the
source where the intent has no destination, and compares the observed content with the
remote expectation too.  It also compares the attempt, in the state in which the mutation
waits for its outcome; a store gets to that state only if the next one has the version that
`Store.Waiting` allows.  The sealer in turn compares the state with the evidence.  Where all
these checks agree, the two agree (`seals_iff_accepts_iff`).

## What a state has to be

The sealer takes a state and evidence, while the store takes evidence and finds the state in its
table.  To compare the two, the given state is the one the store writes: `StoreAccepts` is about a
store that was reached by its own calls, has registered the intent, and has its mutation in a
state that precedes the given one (`Precedes`).

So the state is not free.  `succ_waitsAt_iff` says at which versions a mutation can be completed,
and `AttemptChecks` what the store compares with the state there: the attempt of the evidence,
which is the first.  `StoreChecks` is what it compares with the intent, and `StateChecks` what
only the sealer looks at.  `SealsAlike` is read off intent, state and evidence.
-/

namespace MyVault
namespace Conflict

open Store Check Program

section Definitions

variable (u : Unicode) (sha256 : Sha256) (vaultId : Uuid) (intent : MutationIntent)
  (state : MutationState) (evidence : MutationVerificationEvidence)

/-- `from_r3_1` seals an exact post-state. -/
def Seals : Prop :=
  ∃ proof, ReplayProof.fromR31 sha256 intent state evidence = .ok proof ∧
    proof.disposition = .verifiedAppliedExactPostState

/-- The state an outcome is recorded from, if it leads to the given one. -/
structure Precedes (prior : MutationState) : Prop where
  operationId : prior.operationId = state.operationId
  attemptNumber : prior.attemptNumber = state.attemptNumber
  stateVersion : prior.stateVersion + 1 = state.stateVersion

/-- `record_mutation_outcome` accepts the evidence as applied, in a store that has registered
the intent and has its mutation in the state before the given one. -/
def StoreAccepts : Prop :=
  ∃ (ops : List Operation) (prior next : MutationState) (db' : Database),
    intent ∈ (runStore u sha256 vaultId ops).mutationIntents ∧
      prior ∈ (runStore u sha256 vaultId ops).mutationState ∧
      prior.operationId = intent.operationId ∧ Precedes state prior ∧
      exec (recordMutationOutcome u sha256 intent.operationId prior.stateVersion evidence
        .verifiedApplied) (runStore u sha256 vaultId ops) = (.ok next, db')

/-- The completed state of an applied mutation, with the evidence it names. -/
structure PointsTo : Prop where
  phase : state.phase = .completed
  disposition : state.disposition = some .verifiedApplied
  lastEvidenceId : state.lastEvidenceId = some evidence.evidenceId

/-- What both compare. -/
structure ReportsApplied : Prop where
  operationId : evidence.operationId = intent.operationId
  disposition : evidence.disposition = .verifiedApplied
  capturePhase : evidence.capturePhase = .postVerify
  postState : ReplayProof.postStateMatchesIntent intent evidence = true

/-- What only the sealer compares: the state was moved there with the outcome of the
evidence. -/
structure StateChecks : Prop where
  stateVersion : state.stateVersion ≠ 0
  outcomeCode : state.outcomeCode = evidence.outcomeCode

/-- What only the store compares with the state: the evidence is of its attempt, which is the
first, and the mutation has waited for it in the state before. -/
structure AttemptChecks : Prop where
  attemptNumber : evidence.attemptNumber = state.attemptNumber
  firstAttempt : state.attemptNumber = 0
  stateVersion : state.stateVersion = 2 ∨
    state.stateVersion = 3 ∧ intent.operationKind ≠ .remoteExistingBlocked

/-- What only the store compares with the intent, and the checks of the record. -/
structure StoreChecks : Prop where
  valid : validateMutationEvidence u sha256 evidence = .ok ()
  harmless : evidence.forbiddenSideEffect = false
  sourceParentId : intent.destinationParentId = none →
    Fixes intent.sourceParentId evidence.observedParentId
  sourcePath : intent.destinationPath = none → Fixes intent.sourcePath evidence.observedPath
  remoteSha256 : Fixes intent.expectedRemoteSha256 evidence.observedSha256
  remoteByteLength : Fixes intent.expectedRemoteByteLength evidence.observedByteLength

end Definitions

variable {u : Unicode} {sha256 : Sha256} {vaultId : Uuid} {intent : MutationIntent}
  {state : MutationState} {evidence : MutationVerificationEvidence}

/-! ## The post-state -/

theorem agrees_eq_true {α : Type} [BEq α] [LawfulBEq α] {expected observed : Option α} :
    ReplayProof.agrees expected observed = true ↔ Fixes expected observed := by
  cases expected with
  | none => simp [ReplayProof.agrees, Fixes]
  | some value => simp [ReplayProof.agrees, Fixes]

/-- A fallback fixes what the first choice fixes, and else what the second does. -/
theorem fixes_or_iff {α : Type} {first second observed : Option α} :
    Fixes (first.or second) observed ↔
      Fixes first observed ∧ (first = none → Fixes second observed) := by
  cases first with
  | none => simp [Fixes]
  | some value => simp [Fixes]

/-- The store compares what the sealer compares, with two fallbacks and the remote content. -/
theorem agrees_iff : Agrees intent evidence ↔
    ReplayProof.postStateMatchesIntent intent evidence = true ∧
      (intent.destinationParentId = none →
        Fixes intent.sourceParentId evidence.observedParentId) ∧
      (intent.destinationPath = none → Fixes intent.sourcePath evidence.observedPath) ∧
      Fixes intent.expectedRemoteSha256 evidence.observedSha256 ∧
      Fixes intent.expectedRemoteByteLength evidence.observedByteLength := by
  simp only [ReplayProof.postStateMatchesIntent, Bool.and_eq_true, beq_iff_eq, agrees_eq_true]
  constructor
  · intro h
    have hparent := fixes_or_iff.mp h.parentId
    have hpath := fixes_or_iff.mp h.path
    exact ⟨⟨⟨⟨⟨⟨⟨⟨⟨⟨h.operationMarker, h.accountId⟩, h.remoteRootId⟩, h.remoteFileId⟩, hparent.1⟩,
      hpath.1⟩, h.localRevision⟩, h.remoteRevision⟩, h.localSha256⟩, h.localByteLength⟩,
      hparent.2, hpath.2, h.remoteSha256, h.remoteByteLength⟩
  · rintro ⟨⟨⟨⟨⟨⟨⟨⟨⟨⟨hmarker, haccount⟩, hroot⟩, hfile⟩, hparent⟩, hpath⟩, hlocal⟩, hremote⟩, hsha⟩,
      hlength⟩, hsourceParent, hsourcePath, hremoteSha, hremoteLength⟩
    exact ⟨haccount, hroot, hfile, fixes_or_iff.mpr ⟨hparent, hsourceParent⟩,
      fixes_or_iff.mpr ⟨hpath, hsourcePath⟩, hlocal, hremote, hsha, hlength, hremoteSha,
      hremoteLength, hmarker⟩

/-! ## The sealer -/

theorem intentContentFingerprint_of_validPair {hash : Option String} {size : Option ℕ}
    (h : ValidPair hash size) :
    ∃ content, ReplayProof.intentContentFingerprint hash size = .ok content := by
  obtain ⟨hsome, hhash, -⟩ := h
  cases hash with
  | none =>
      cases size with
      | none => exact ⟨none, rfl⟩
      | some size => cases hsome
  | some hash =>
      cases size with
      | none => cases hsome
      | some size =>
          rw [ReplayProof.intentContentFingerprint, if_pos (hhash hash rfl)]
          exact ⟨_, rfl⟩

theorem sealedDisposition_eq_applied_iff (hphase : state.phase = .completed) :
    ReplayProof.sealedDisposition intent state evidence = some .verifiedAppliedExactPostState ↔
      evidence.disposition = .verifiedApplied ∧ evidence.capturePhase = .postVerify ∧
        ReplayProof.postStateMatchesIntent intent evidence = true := by
  rw [ReplayProof.sealedDisposition]
  cases evidence.disposition with
  | verifiedApplied => simp [hphase]
  | verifiedNotApplied => simp [hphase]
  | needsReconcile => simp [hphase]
  | retrySafe => simp

/-- The checks of `from_r3_1`, and the proof it seals after them. -/
theorem fromR31_eq_ok {proof : ReplayProof} :
    ReplayProof.fromR31 sha256 intent state evidence = .ok proof ↔
      (intent.operationId = state.operationId ∧ intent.operationId = evidence.operationId ∧
        intent.intentFingerprint = intent.canonicalFingerprint sha256) ∧
      ∃ localContent, ReplayProof.intentContentFingerprint intent.expectedLocalSha256
          intent.expectedLocalByteLength = .ok localContent ∧
        ∃ remoteContent, ReplayProof.intentContentFingerprint intent.expectedRemoteSha256
            intent.expectedRemoteByteLength = .ok remoteContent ∧
          (evidence.evidenceFingerprint = evidence.canonicalFingerprint sha256 ∧
            state.stateVersion ≠ 0 ∧ state.lastEvidenceId = some evidence.evidenceId ∧
            state.disposition = some evidence.disposition ∧
            state.outcomeCode = evidence.outcomeCode) ∧
          ∃ disposition, ReplayProof.sealedDisposition intent state evidence =
              some disposition ∧
            ReplayProof.ofIntent intent state.stateVersion evidence.evidenceFingerprint
              disposition localContent remoteContent = proof := by
  rw [ReplayProof.fromR31, ite_error_eq_ok, bind_eq_ok]
  simp only [not_or, Decidable.not_not]
  refine and_congr_right fun _ => exists_congr fun localContent => and_congr_right fun _ => ?_
  rw [bind_eq_ok]
  refine exists_congr fun remoteContent => and_congr_right fun _ => ?_
  rw [ite_error_eq_ok]
  simp only [not_or, Decidable.not_not]
  refine and_congr_right fun _ => ?_
  cases ReplayProof.sealedDisposition intent state evidence with
  | none => simp
  | some disposition => simp

/-- A valid intent is sealed exactly if both groups of comparisons succeed. -/
theorem seals_iff (hintent : ValidIntent u sha256 intent) (hpoints : PointsTo state evidence)
    (hfingerprint : evidence.evidenceFingerprint = evidence.canonicalFingerprint sha256) :
    Seals sha256 intent state evidence ↔
      ReportsApplied intent evidence ∧ state.operationId = intent.operationId ∧
        StateChecks state evidence := by
  obtain ⟨expectedLocal, hlocal⟩ := intentContentFingerprint_of_validPair hintent.expectedLocal
  obtain ⟨expectedRemote, hremote⟩ := intentContentFingerprint_of_validPair hintent.expectedRemote
  constructor
  · rintro ⟨proof, hproof, hdisposition⟩
    obtain ⟨⟨hstate, hevidence, -⟩, _, -, _, -, ⟨-, hversion, -, -, hcode⟩, disposition, hsealed,
      rfl⟩ := fromR31_eq_ok.mp hproof
    rw [show disposition = .verifiedAppliedExactPostState from hdisposition,
      sealedDisposition_eq_applied_iff hpoints.phase] at hsealed
    exact ⟨⟨hevidence.symm, hsealed.1, hsealed.2.1, hsealed.2.2⟩, hstate.symm, hversion, hcode⟩
  · rintro ⟨hreports, hid, hstate⟩
    have hsealed := (sealedDisposition_eq_applied_iff hpoints.phase).mpr
      ⟨hreports.disposition, hreports.capturePhase, hreports.postState⟩
    have hdisposition : state.disposition = some evidence.disposition := by
      rw [hpoints.disposition, hreports.disposition]
    exact ⟨_, fromR31_eq_ok.mpr ⟨⟨hid.symm, hreports.operationId.symm,
      hintent.fingerprint⟩, _, hlocal, _, hremote, ⟨hfingerprint, hstate.stateVersion,
      hpoints.lastEvidenceId, hdisposition, hstate.outcomeCode⟩, _, hsealed, rfl⟩, rfl⟩

/-! ## The store -/

/-- The versions at which a mutation can be completed are those after its waiting ones. -/
theorem succ_waitsAt_iff {kind : MutationOperationKind} {version : ℕ} :
    (∃ prior, WaitsAt kind prior ∧ prior + 1 = version) ↔
      version = 2 ∨ version = 3 ∧ kind ≠ .remoteExistingBlocked := by
  constructor
  · rintro ⟨prior, rfl | ⟨rfl, hkind⟩, rfl⟩
    · exact Or.inl rfl
    · exact Or.inr ⟨rfl, hkind⟩
  · rintro (rfl | ⟨rfl, hkind⟩)
    · exact ⟨1, Or.inl rfl, rfl⟩
    · exact ⟨2, Or.inr ⟨rfl, hkind⟩, rfl⟩

/-- What a store that accepts the evidence has compared. -/
theorem checks_of_storeAccepts (h : StoreAccepts u sha256 vaultId intent state evidence) :
    ReportsApplied intent evidence ∧ state.operationId = intent.operationId ∧
      StoreChecks u sha256 intent evidence ∧ AttemptChecks intent state evidence := by
  obtain ⟨ops, prior, next, db', hmem, hprior, hid, hprecedes, h⟩ := h
  simp only [recordMutationOutcome, validateTransition, exec_bind_ok, exec_lift_ok,
    exec_transaction_ok, exec_loadMutationState_ok, exec_the_ok, exec_reject_ok,
    exists_and_left, exists_eq_left', exists_const, and_assoc, Decidable.not_not, not_or] at h
  obtain ⟨_, hvalid, howner, -, loaded, hloaded, -, hattempt, hphase, _, mid, happlied, target,
    htarget, -⟩ := h
  obtain rfl : loaded = prior := by
    rw [← hid, Table.lookup_eq_some_iff.mpr ⟨hprior, rfl⟩] at hloaded
    exact (Option.some.inj hloaded).symm
  have hkeeps : Keeps Eq (validateVerifiedAppliedEvidence evidence) := by
    unfold validateVerifiedAppliedEvidence
    infer_instance
  obtain rfl := hkeeps.of_exec happlied
  rw [exec_validateVerifiedAppliedEvidence hmem howner] at happlied
  obtain ⟨hcapture, hharmless, hagrees⟩ := happlied
  obtain ⟨hfirst, hwaits⟩ := waitsAt_run hmem hprior hid (by tauto)
  obtain ⟨-, -, hdisposition, -⟩ | ⟨h, -⟩ := transitionTarget_eq_ok htarget
  · obtain ⟨hpost, hparent, hpath, hsha, hlength⟩ := agrees_iff.mp hagrees
    exact ⟨⟨howner, hdisposition, hcapture, hpost⟩, hprecedes.operationId.symm.trans hid,
      ⟨hvalid, hharmless, hparent, hpath, hsha, hlength⟩,
      ⟨hattempt.trans hprecedes.attemptNumber, hprecedes.attemptNumber.symm.trans hfirst,
        succ_waitsAt_iff.mp ⟨_, hwaits, hprecedes.stateVersion⟩⟩⟩
  · cases h

/-- The store accepts exactly what agrees with all of its comparisons. -/
theorem storeAccepts_iff (hintent : ValidIntent u sha256 intent) :
    StoreAccepts u sha256 vaultId intent state evidence ↔
      ReportsApplied intent evidence ∧ state.operationId = intent.operationId ∧
        StoreChecks u sha256 intent evidence ∧ AttemptChecks intent state evidence := by
  refine ⟨checks_of_storeAccepts, ?_⟩
  rintro ⟨hreports, hid, hchecks, hattempt⟩
  obtain ⟨version, hwaits, hversion⟩ := succ_waitsAt_iff.mpr hattempt.stateVersion
  obtain ⟨ops, prior, hwaiting⟩ := exists_waiting vaultId hintent hwaits evidence.evidenceId
  have hvalidate : exec (validateTransition evidence .verifiedApplied)
      (runStore u sha256 vaultId ops) = (.ok (), runStore u sha256 vaultId ops) :=
    (exec_validateVerifiedAppliedEvidence hwaiting.intent_mem hreports.operationId).mpr
      ⟨hreports.capturePhase, hchecks.harmless, agrees_iff.mpr ⟨hreports.postState,
        hchecks.sourceParentId, hchecks.sourcePath, hchecks.remoteSha256,
        hchecks.remoteByteLength⟩⟩
  have htarget : transitionTarget prior.phase evidence .verifiedApplied =
      .ok ⟨.completed, .verifiedApplied, none, none, none⟩ := by
    rw [transitionTarget, if_pos ⟨hwaiting.phase, hreports.disposition, hreports.capturePhase,
      hchecks.harmless⟩]
  have hnumber : evidence.attemptNumber = prior.attemptNumber := by
    rw [hattempt.attemptNumber, hattempt.firstAttempt, hwaiting.attemptNumber]
  have hfits : fitsI64 (prior.stateVersion + 1) = true := by
    rw [hwaiting.stateVersion]
    rcases hwaits with rfl | ⟨rfl, -⟩ <;> rfl
  obtain ⟨next, db', h⟩ := exists_recordMutationOutcome hwaiting.state_mem hwaiting.intent_mem
    hwaiting.operationId hwaiting.row hchecks.valid
    (hreports.operationId.trans hwaiting.operationId) hnumber hwaiting.phase hvalidate htarget
    hwaiting.fresh hfits
  refine ⟨ops, prior, next, db', hwaiting.intent_mem, hwaiting.state_mem,
    hwaiting.operationId.symm, ?_, ?_⟩
  · exact ⟨hwaiting.operationId.symm.trans hid.symm,
      hwaiting.attemptNumber.trans hattempt.firstAttempt.symm,
      by rw [hwaiting.stateVersion, hversion]⟩
  · rwa [hwaiting.operationId]

/-! ## Agreement -/

/-- Where the evidence reports the post-state of the intent the state is of, the checks only
one of the two makes come out the same. -/
def SealsAlike (u : Unicode) (sha256 : Sha256) (intent : MutationIntent) (state : MutationState)
    (evidence : MutationVerificationEvidence) : Prop :=
  ReportsApplied intent evidence → state.operationId = intent.operationId →
    (StateChecks state evidence ↔
      StoreChecks u sha256 intent evidence ∧ AttemptChecks intent state evidence)

/-- **The sealer and the store agree on a registered intent exactly if the checks only one
of them makes agree.** -/
theorem seals_iff_accepts_iff {ops : List Operation}
    (hintent : intent ∈ (runStore u sha256 vaultId ops).mutationIntents)
    (hpoints : PointsTo state evidence)
    (hfingerprint : evidence.evidenceFingerprint = evidence.canonicalFingerprint sha256) :
    (Seals sha256 intent state evidence ↔ StoreAccepts u sha256 vaultId intent state evidence) ↔
      SealsAlike u sha256 intent state evidence := by
  have hvalid := validIntent_run hintent
  rw [seals_iff hvalid hpoints hfingerprint, storeAccepts_iff hvalid, SealsAlike,
    and_congr_right_iff]
  exact imp_congr_right fun _ => and_congr_right_iff

/-! ## A side effect that is sealed -/

/-- The state a completed rename is in. -/
def completedRename (evidence : MutationVerificationEvidence) : MutationState :=
  { initialMutationState renameIntent with
    phase := .completed
    stateVersion := 2
    disposition := some .verifiedApplied
    lastEvidenceId := some evidence.evidenceId
    outcomeCode := evidence.outcomeCode }

theorem seals_iff_accepts_iff_rename :
    (Seals renameDigest renameIntent (completedRename reconciliation) reconciliation ↔
      StoreAccepts Unicode.ascii renameDigest sampleVaultId renameIntent
        (completedRename reconciliation) reconciliation) ↔
      SealsAlike Unicode.ascii renameDigest renameIntent (completedRename reconciliation)
        reconciliation :=
  seals_iff_accepts_iff rename_registered ⟨rfl, rfl, rfl⟩ (by decide +kernel)

/-- The rename was applied, and so was something it was not allowed to do. -/
def spilled : MutationVerificationEvidence :=
  { reconciliation with
    forbiddenSideEffect := true
    evidenceFingerprint := "0d7b893eeb8372f9cf26bdfd2665d2a13226e686c9e7982f53f1488559be1276" }

/-- The digests of the intent, of the refusal and, for 727 bytes, of that evidence. -/
def spillDigest : Sha256 := fun stream =>
  if stream.length = 727 then ⟨
    [0x0d, 0x7b, 0x89, 0x3e, 0xeb, 0x83, 0x72, 0xf9, 0xcf, 0x26, 0xbd,
     0xfd, 0x26, 0x65, 0xd2, 0xa1, 0x32, 0x26, 0xe6, 0x86, 0xc9, 0xe7,
     0x98, 0x2f, 0x53, 0xf1, 0x48, 0x85, 0x59, 0xbe, 0x12, 0x76], rfl⟩
  else renameDigest stream

/-- The sealer reports the rename as an exact post-state; the store would not have
accepted it, for the side effect. -/
theorem forbidden_side_effect_is_sealed :
    renameIntent ∈
        (runStore Unicode.ascii spillDigest sampleVaultId [registerRename]).mutationIntents ∧
      PointsTo (completedRename spilled) spilled ∧
      spilled.evidenceFingerprint = spilled.canonicalFingerprint spillDigest ∧
      spilled.forbiddenSideEffect = true ∧
      Seals spillDigest renameIntent (completedRename spilled) spilled ∧
      ¬ StoreAccepts Unicode.ascii spillDigest sampleVaultId renameIntent (completedRename spilled)
        spilled := by
  have hregistered : renameIntent ∈
      (runStore Unicode.ascii spillDigest sampleVaultId [registerRename]).mutationIntents := by
    rw [← Table.mem_rows]
    decide +kernel
  have hvalid := validIntent_run hregistered
  have hpoints : PointsTo (completedRename spilled) spilled := ⟨rfl, rfl, rfl⟩
  have hfingerprint : spilled.evidenceFingerprint = spilled.canonicalFingerprint spillDigest := by
    decide +kernel
  refine ⟨hregistered, hpoints, hfingerprint, rfl, ?_, ?_⟩
  · rw [seals_iff hvalid hpoints hfingerprint]
    exact ⟨⟨rfl, rfl, rfl, by decide⟩, rfl, by decide, rfl⟩
  · rw [storeAccepts_iff hvalid]
    rintro ⟨-, -, hchecks, -⟩
    cases hchecks.harmless

end Conflict
end MyVault
