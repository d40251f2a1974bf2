import MyVault.Conflict.Registrable
import MyVault.Conflict.Sealing

/-!
# Replaying a completed publication

A publication completes with evidence that says what its intent expects
(`CompletesAsExpected`).  `from_r3_1` seals that, and the replay is classified with the
same facts and the published content.  The replay compares the identity of the facts,
that of the base before the local and the remote source, with the identity the intent
carries, that of the remote source, and the paths likewise.  So it is a verified no-op
exactly if these are the same (`replays_as_no_op_iff`).

## From the evidence to the replay

Three records meet here.  `CompletesAsExpected` ties the evidence to the intent the plan has
registered, `publishedFacts` is what the facts look like after the publication, and
`ReplaysAsNoOp` says that the records are sealed, that the replay is accepted, and that it has
nothing left to do.

Most of what the replay compares is the same on both sides because the intent was made from the
facts (`PublishesAs`), and the published side is compared with what was published.  What is not
the same by construction are the identity and the path: the facts take them from the base, then
the local and then the remote source, and the intent from the remote one.  `KeepsIdentity` says
that they are the same nevertheless.
-/

namespace MyVault
namespace Conflict

open Store Check

section Definitions

variable (u : Unicode) (sha256 : Sha256)

/-- The operation of the intent has completed, and the evidence says what it expects. -/
structure CompletesAsExpected (version : ℕ) (intent : MutationIntent) (state : MutationState)
    (evidence : MutationVerificationEvidence) : Prop where
  stateOperationId : state.operationId = intent.operationId
  points : PointsTo state evidence
  stateVersion : state.stateVersion = version
  outcomeCode : state.outcomeCode = evidence.outcomeCode
  operationId : evidence.operationId = intent.operationId
  capturePhase : evidence.capturePhase = .postVerify
  disposition : evidence.disposition = .verifiedApplied
  fingerprint : evidence.evidenceFingerprint = evidence.canonicalFingerprint sha256
  accountId : evidence.observedAccountId = intent.accountId
  remoteRootId : evidence.observedRemoteRootId = intent.remoteRootId
  remoteFileId : evidence.observedRemoteFileId = intent.remoteFileId
  parentId : evidence.observedParentId = intent.destinationParentId
  path : evidence.observedPath = intent.destinationPath
  localRevision : evidence.observedLocalRevision = intent.expectedLocalRevision
  remoteRevision : evidence.observedRemoteRevision = intent.expectedRemoteRevision
  localSha256 : evidence.observedSha256 = intent.expectedLocalSha256
  localByteLength : evidence.observedByteLength = intent.expectedLocalByteLength
  marker : evidence.observedOperationMarker = some intent.operationMarker

/-- The facts after an operation has published its content. -/
def publishedFacts (kind : MutationOperationKind) (content : Option ContentFingerprint)
    (facts : ClassificationEvidenceFacts) : ClassificationEvidenceFacts :=
  match kind with
  | .localPublish | .mergePublish => { facts with localContent := content }
  | .basePublish => { facts with base := content }
  | .conflictCopyPublish | .remoteExistingBlocked => facts

/-- The records are sealed, and the replay is accepted and has nothing left to do. -/
def ReplaysAsNoOp (input : ConflictInput u sha256) (draft : MaterializationDraft)
    (intent : MutationIntent) (state : MutationState)
    (evidence : MutationVerificationEvidence) : Prop :=
  ∃ proof, ReplayProof.fromR31 sha256 intent state evidence = .ok proof ∧
    ∃ replayed, ConflictInput.new u sha256
        (.new (proof.bindFacts (publishedFacts intent.operationKind draft.expectedContent
          input.evidence.facts)))
        .approved (.verifiedAppliedExactPostState proof) input.case = .ok replayed ∧
      (classifyConflict replayed).cell = .c29 ∧ (classifyConflict replayed).drafts = []

/-- The path an operation publishes from. -/
def publishedFrom (context : MaterializationContext) : MutationOperationKind → Option String
  | .localPublish | .conflictCopyPublish => context.remote.map (·.portablePath)
  | .mergePublish => context.localSource.map (·.portablePath)
  | .basePublish => some context.localTarget.portablePath
  | .remoteExistingBlocked => context.blockedRemoteSource.map (·.portablePath)

/-- The remote object is the one the conflict is identified by, and the operation publishes
from the path it is identified by. -/
def KeepsIdentity (context : MaterializationContext) (kind : MutationOperationKind) : Prop :=
  context.remote.map (·.objectId) = context.identitySource.map (·.objectId) ∧
    publishedFrom context kind = context.identitySource.map (·.portablePath)

end Definitions

/-! ## The replay proof -/

section Replay

variable {u : Unicode} {sha256 : Sha256} {newV5 : UuidV5} {context : MaterializationContext}
  {plan : MaterializationPlan} {draft : MaterializationDraft} {state : MutationState}
  {evidence : MutationVerificationEvidence} {intent : MutationIntent} {version : ℕ}

theorem fixes_of_eq {α : Type} {expected observed : Option α} (h : observed = expected) :
    Fixes expected observed := by
  rw [h]
  exact fixes_refl expected

theorem CompletesAsExpected.postState
    (h : CompletesAsExpected sha256 version intent state evidence) :
    ReplayProof.postStateMatchesIntent intent evidence = true := by
  simp only [ReplayProof.postStateMatchesIntent, Bool.and_eq_true, beq_iff_eq, agrees_eq_true]
  exact ⟨⟨⟨⟨⟨⟨⟨⟨⟨h.marker, fixes_of_eq h.accountId⟩, fixes_of_eq h.remoteRootId⟩,
    fixes_of_eq h.remoteFileId⟩, fixes_of_eq h.parentId⟩, fixes_of_eq h.path⟩,
    fixes_of_eq h.localRevision⟩, fixes_of_eq h.remoteRevision⟩, fixes_of_eq h.localSha256⟩,
    fixes_of_eq h.localByteLength⟩

/-- Such records are sealed, as an exact post-state. -/
theorem CompletesAsExpected.sealed_iff
    (h : CompletesAsExpected sha256 version intent state evidence)
    (hfingerprint : intent.intentFingerprint = intent.canonicalFingerprint sha256)
    (hversion : version ≠ 0) {localContent remoteContent : Option ContentFingerprint}
    (hlocal : ReplayProof.intentContentFingerprint intent.expectedLocalSha256
      intent.expectedLocalByteLength = .ok localContent)
    (hremote : ReplayProof.intentContentFingerprint intent.expectedRemoteSha256
      intent.expectedRemoteByteLength = .ok remoteContent) {proof : ReplayProof} :
    ReplayProof.fromR31 sha256 intent state evidence = .ok proof ↔
      proof = ReplayProof.ofIntent intent version evidence.evidenceFingerprint
        .verifiedAppliedExactPostState localContent remoteContent := by
  have hsealed : ReplayProof.sealedDisposition intent state evidence =
      some .verifiedAppliedExactPostState :=
    (sealedDisposition_eq_applied_iff h.points.phase).mpr
      ⟨h.disposition, h.capturePhase, h.postState⟩
  rw [fromR31_eq_ok, hlocal, hremote, hsealed, h.stateVersion]
  constructor
  · rintro ⟨-, _, hl, _, hr, -, _, hd, rfl⟩
    cases hl
    cases hr
    cases hd
    rfl
  · rintro rfl
    refine ⟨⟨h.stateOperationId.symm, h.operationId.symm, hfingerprint⟩, _, rfl, _, rfl,
      ⟨h.fingerprint, hversion, h.points.lastEvidenceId, ?_, h.outcomeCode⟩, _, rfl, rfl⟩
    rw [h.points.disposition, h.disposition]

theorem intentContentFingerprint_map {content : Option ContentFingerprint}
    (h : ∀ value ∈ content, validFingerprint value = true) :
    ReplayProof.intentContentFingerprint (content.map (·.sha256)) (content.map (·.byteLength)) =
      .ok content := by
  cases content with
  | none => rfl
  | some value =>
      have hvalid := h value rfl
      rw [validFingerprint, Bool.and_eq_true] at hvalid
      rw [Option.map_some, Option.map_some, ReplayProof.intentContentFingerprint,
        if_pos hvalid.1]

/-- The checks of a replay of an applied operation. -/
theorem validateReplayProof_applied_eq_ok {evidence : ClassificationEvidence}
    {proof : ReplayProof} :
    validateReplayProof evidence (.verifiedAppliedExactPostState proof) = .ok () ↔
      proof.operationId.isNil = false ∧
        proof.stateVersion = evidence.facts.durableStateVersion ∧
        isLowerHex64 proof.outcomeFingerprint = true ∧
        evidence.facts.priorOperationId = some proof.operationId ∧
        evidence.facts.priorOutcomeFingerprint = some proof.outcomeFingerprint ∧
        evidence.facts.priorIntentFingerprint = some proof.intentFingerprint ∧
        proof.disposition = .verifiedAppliedExactPostState ∧
        evidence.facts.priorReplayDisposition = some .verifiedAppliedExactPostState ∧
        replaySnapshotMatches evidence.facts proof = true := by
  simp [validateReplayProof, ReplayAssessment.proof, replayOperationMatches, and_assoc]

end Replay

/-! ## The snapshot -/

section Snapshot

variable {u : Unicode} {sha256 : Sha256} {newV5 : UuidV5} {classification : ConflictPlan}
  {context : MaterializationContext} {plan : MaterializationPlan}
  {evidence : ClassificationEvidence} {conflictId : String} {requirement : ConflictDraft}
  {draft : MaterializationDraft} {kind : MutationOperationKind}

/-- The proof sealed for a planned publication. -/
def plannedProof (sha256 : Sha256) (plan : MaterializationPlan) (draft : MaterializationDraft)
    (kind : MutationOperationKind) (registeredAtUnixMs version : ℕ) (fingerprint : String) :
    ReplayProof :=
  ReplayProof.ofIntent (intentOf sha256 plan draft kind registeredAtUnixMs) version fingerprint
    .verifiedAppliedExactPostState draft.expectedContent (plan.remote.map (·.content))

/-- Where a publication comes from, where it goes, and what it publishes. -/
structure PublishesAs (context : MaterializationContext) (draft : MaterializationDraft)
    (kind : MutationOperationKind) : Prop where
  source : draft.source.map (·.portablePath) = publishedFrom context kind
  destination : draft.destination.map (·.parentId) = some context.localTarget.parentId
  content : draft.expectedContent.isSome = true
  remote : kind = .localPublish ∨ kind = .conflictCopyPublish →
    draft.expectedContent = context.remote.map (·.content)

theorem publishesAs_of_draftOf
    (hof : DraftOf u sha256 newV5 classification.outcome context conflictId requirement draft)
    (hkind : draft.durableOperationKind = some kind) (hnot : kind ≠ .remoteExistingBlocked)
    (hlocal : context.localSource.isSome = true) : PublishesAs context draft kind := by
  obtain ⟨operationId, planKind, operation, source, destination, content, marker⟩ := draft
  cases hof.shape with
  | localPublish hremote =>
      cases hkind
      exact ⟨by rw [publishedFrom, hremote], rfl, rfl, fun _ => by rw [hremote]; rfl⟩
  | mergePublish hmerged =>
      cases hkind
      exact ⟨rfl, rfl, rfl, by simp⟩
  | copyPublish hremote hname =>
      cases hkind
      exact ⟨by rw [publishedFrom, hremote], rfl, rfl, fun _ => by rw [hremote]; rfl⟩
  | copyReuse hremote hname => cases hkind
  | basePublish hcontent =>
      cases hkind
      obtain ⟨localSource, hsource⟩ := Option.isSome_iff_exists.mp hlocal
      exact ⟨by simp [hsource, publishedFrom], rfl, rfl, by simp⟩
  | blocked hsource hdestination =>
      cases hkind
      exact absurd rfl hnot
  | guarded hguarded htarget => cases hkind

/-- The snapshot of a planned publication matches the facts it has updated exactly if it
keeps the identity. -/
theorem snapshot_iff
    (hplan : Materializes u sha256 newV5 classification context plan evidence conflictId)
    (hpublishes : PublishesAs context draft kind) (hnot : kind ≠ .remoteExistingBlocked)
    (hremote : context.remote.isSome = true) (hfrom : (publishedFrom context kind).isSome = true)
    (registeredAtUnixMs version : ℕ) (fingerprint : String) :
    replaySnapshotMatches
        ((plannedProof sha256 plan draft kind registeredAtUnixMs version fingerprint).bindFacts
          (publishedFacts kind draft.expectedContent evidence.facts))
        (plannedProof sha256 plan draft kind registeredAtUnixMs version fingerprint) = true ↔
      KeepsIdentity context kind := by
  have hbound := hplan.bound
  obtain ⟨content, hcontent⟩ := Option.isSome_iff_exists.mp hpublishes.content
  obtain ⟨remote, hremote⟩ := Option.isSome_iff_exists.mp hremote
  obtain ⟨path, hfrom⟩ := Option.isSome_iff_exists.mp hfrom
  have hsource := hpublishes.source
  rw [hfrom] at hsource
  have hpayload : kind = .localPublish ∨ kind = .conflictCopyPublish →
      content = remote.content := by
    intro h
    have hsome := hpublishes.remote h
    rw [hcontent, hremote, Option.map_some, Option.some.injEq] at hsome
    exact hsome
  cases kind
  case remoteExistingBlocked => exact absurd rfl hnot
  all_goals
    simp [replaySnapshotMatches, plannedProof, ReplayProof.ofIntent, ReplayProof.bindFacts,
      publishedFacts, intentOf, intentFields, KeepsIdentity, hfrom, hsource, hcontent,
      hpublishes.destination, hplan.accountId, hplan.remoteRootId, hplan.remote, hplan.base,
      hplan.localSource, hbound.accountId, hbound.remoteRootId, hbound.objectIdentity,
      hbound.identityPath, hbound.targetParentId, hbound.base, hbound.remote,
      hbound.localRevision, hbound.remoteRevision, hremote, Function.comp_def]
  case localPublish => exact fun _ _ _ _ _ _ => hpayload (Or.inl rfl)
  case conflictCopyPublish => exact fun _ _ _ _ _ _ => hpayload (Or.inr rfl)

end Snapshot

/-! ## The replay -/

section NoOp

variable {u : Unicode} {sha256 : Sha256} {newV5 : UuidV5} {context : MaterializationContext}
  {plan : MaterializationPlan} {draft : MaterializationDraft} {kind : MutationOperationKind}
  {intent : MutationIntent} {state : MutationState} {evidence : MutationVerificationEvidence}

/-- A replay of an applied operation is accepted or not, and then it is cell C29 without
drafts. -/
theorem classify_applied_iff {facts : ClassificationEvidence} {proof : ReplayProof}
    {case : ConflictCase} :
    (∃ replayed, ConflictInput.new u sha256 facts .approved (.verifiedAppliedExactPostState proof)
        case = .ok replayed ∧ (classifyConflict replayed).cell = .c29 ∧
        (classifyConflict replayed).drafts = []) ↔
      Accepted u sha256 facts (.verifiedAppliedExactPostState proof) case := by
  rw [← validateClassificationEvidence_eq_ok]
  constructor
  · rintro ⟨replayed, hnew, -, -⟩
    rw [ConflictInput.new] at hnew
    split at hnew
    · cases hnew
    · rename_i haccepted
      exact haccepted
  · intro haccepted
    refine ⟨⟨facts, .approved, .verifiedAppliedExactPostState proof, case, haccepted⟩, ?_, ?_⟩
    · rw [ConflictInput.new]
      split
      · rename_i hrejected
        rw [haccepted] at hrejected
        cases hrejected
      · rfl
    · by_cases hcopy : proof.operationKind = .conflictCopyPublish
      · simp [classifyConflict, classifyBoundary, classifyReplay, hcopy, needsReconcile,
          ConflictPlan.new, ConflictPlan.bindEvidence]
      · simp [classifyConflict, classifyBoundary, classifyReplay, hcopy, ConflictPlan.new,
          ConflictPlan.bindEvidence]

theorem requireContent_eq_ok {facts : ClassificationEvidenceFacts} {required : RequiredContent} :
    requireContent facts required = .ok () ↔
      (required.base = true → facts.base.isSome = true) ∧
        (required.localContent = true → facts.localContent.isSome = true) ∧
        (required.remote = true → facts.remote.isSome = true) := by
  rw [requireContent, ite_error_eq_ok, and_iff_left rfl]
  cases required.base <;> cases required.localContent <;> cases required.remote <;>
    simp [Option.isSome_iff_ne_none, and_assoc]

/-- A publication only adds content. -/
theorem requireContent_published {facts : ClassificationEvidenceFacts} {proof : ReplayProof}
    {content : Option ContentFingerprint} {required : RequiredContent}
    (hsome : content.isSome = true) (h : requireContent facts required = .ok ()) :
    requireContent (proof.bindFacts (publishedFacts kind content facts)) required = .ok () := by
  rw [requireContent_eq_ok] at h ⊢
  obtain ⟨hbase, hlocal, hremote⟩ := h
  cases kind with
  | localPublish => exact ⟨hbase, fun _ => hsome, hremote⟩
  | mergePublish => exact ⟨hbase, fun _ => hsome, hremote⟩
  | basePublish => exact ⟨fun _ => hsome, hlocal, hremote⟩
  | conflictCopyPublish => exact ⟨hbase, hlocal, hremote⟩
  | remoteExistingBlocked => exact ⟨hbase, hlocal, hremote⟩

/-- The contents stay well formed. -/
theorem contents_published {facts : ClassificationEvidence} {proof : ReplayProof}
    {content : Option ContentFingerprint}
    (hcontent : ∀ value ∈ content, validFingerprint value = true)
    (h : ∀ content ∈ [facts.facts.base, facts.facts.localContent, facts.facts.remote,
      facts.verifiedMarkdownMerge], ∀ value ∈ content, validFingerprint value = true) :
    let published := proof.bindFacts (publishedFacts kind content facts.facts)
    ∀ content ∈ [published.base, published.localContent, published.remote, none],
      ∀ value ∈ content, validFingerprint value = true := by
  have hbase := h _ List.mem_cons_self
  have hlocal := h facts.facts.localContent (by simp)
  have hremote := h facts.facts.remote (by simp)
  cases kind <;> simp only [publishedFacts, ReplayProof.bindFacts, List.forall_mem_cons] <;>
    simp_all

/-- The facts a publication leaves are accepted where those it started from were, but for
the replay proof. -/
theorem accepted_published_iff {facts : ClassificationEvidence} {proof : ReplayProof}
    {case : ConflictCase} {content : Option ContentFingerprint}
    (h : Accepted u sha256 facts .fresh case)
    (hcontent : ∀ value ∈ content, validFingerprint value = true)
    (hsome : content.isSome = true)
    (hdrafts : (classifyFreshCase case).drafts ≠ []) :
    Accepted u sha256 (.new (proof.bindFacts (publishedFacts kind content facts.facts)))
        (.verifiedAppliedExactPostState proof) case ↔
      validateReplayProof (.new (proof.bindFacts (publishedFacts kind content facts.facts)))
        (.verifiedAppliedExactPostState proof) = .ok () := by
  refine ⟨fun h => h.replayProof, fun hreplay => ?_⟩
  have hids : (proof.bindFacts (publishedFacts kind content facts.facts)).exactIds =
      facts.facts.exactIds := by cases kind <;> rfl
  refine
    { named := fun id hid => h.named id (hids ▸ hid)
      ids := fun id hid => h.ids id (hids ▸ hid)
      identityPath := by cases kind <;> exact h.identityPath
      localRevision := by cases kind <;> exact h.localRevision
      remoteRevision := by cases kind <;> exact h.remoteRevision
      version := by cases kind <;> exact h.version
      guarded := by cases kind <;> exact h.guarded
      guardedRequired := by cases kind <;> exact h.guardedRequired
      replayProof := hreplay
      contents := contents_published hcontent h.contents
      required := requireContent_published hsome h.required
      merge := nofun
      predicates := rfl
      semantic := ?_ }
  -- the three cases with a semantic proof have no drafts
  rintro (⟨rfl, -⟩ | ⟨rfl, -⟩ | ⟨rfl, -⟩) <;> exact hdrafts rfl

theorem eq_of_fresh_ok {facts : ClassificationEvidence} {case : ConflictCase}
    {input : ConflictInput u sha256} (h : ConflictInput.fresh u sha256 facts case = .ok input) :
    input.boundary = .approved ∧ input.replay = .fresh ∧
      Accepted u sha256 input.evidence .fresh input.case := by
  obtain ⟨haccepted, rfl⟩ := exists_of_fresh_ok h
  exact ⟨rfl, rfl, validateClassificationEvidence_eq_ok.mp haccepted⟩

/-- An accepted conflict has a revision on both sides, so both sources are there. -/
theorem Bound.sources_isSome {classification : ConflictPlan} {facts : ClassificationEvidence}
    {replay : ReplayAssessment} {case : ConflictCase}
    (hbound : Bound classification facts context) (h : Accepted u sha256 facts replay case) :
    context.localSource.isSome = true ∧ context.remote.isSome = true := by
  constructor
  · have hsome := Option.isSome_of_any h.localRevision
    rw [hbound.localRevision] at hsome
    exact Option.isSome_of_isSome_bind hsome
  · have hsome := Option.isSome_of_any h.remoteRevision
    rw [hbound.remoteRevision] at hsome
    exact Option.isSome_of_isSome_bind hsome

/-- The replay of a planned publication, with the intent the plan gives it. -/
theorem planned_replays_iff {input : ConflictInput u sha256} {conflictId : String}
    {requirement : ConflictDraft} (hboundary : input.boundary = .approved)
    (hreplay : input.replay = .fresh)
    (haccepted : Accepted u sha256 input.evidence .fresh input.case)
    (hnil : NeverNil newV5)
    (hplan : Materializes u sha256 newV5 (classifyConflict input) context plan input.evidence
      conflictId)
    (hrequirement : requirement ∈ (classifyConflict input).drafts)
    (hof : DraftOf u sha256 newV5 (classifyConflict input).outcome context conflictId requirement
      draft)
    (hkind : draft.durableOperationKind = some kind) (hnot : kind ≠ .remoteExistingBlocked)
    {registeredAtUnixMs : ℕ}
    (hcompletes : CompletesAsExpected sha256 input.evidence.facts.durableStateVersion
      (intentOf sha256 plan draft kind registeredAtUnixMs) state evidence) :
    ReplaysAsNoOp u sha256 input draft (intentOf sha256 plan draft kind registeredAtUnixMs) state
      evidence ↔ KeepsIdentity context kind := by
  obtain ⟨hlocal, hremote⟩ := hplan.bound.sources_isSome haccepted
  have hpublishes := publishesAs_of_draftOf hof hkind hnot hlocal
  have hshape := validShape_of_drafted hplan.valid hof.shape
  have hfrom : (publishedFrom context kind).isSome = true := by
    cases kind <;> simp_all [publishedFrom]
  have hdrafts : (classifyFreshCase input.case).drafts ≠ [] := by
    intro hnone
    have hsame : (classifyConflict input).drafts = (classifyFreshCase input.case).drafts := by
      rw [classifyConflict, hboundary, hreplay]
      rfl
    rw [hsame, hnone] at hrequirement
    cases hrequirement
  have hremoteContent : ReplayProof.intentContentFingerprint
      (intentOf sha256 plan draft kind registeredAtUnixMs).expectedRemoteSha256
      (intentOf sha256 plan draft kind registeredAtUnixMs).expectedRemoteByteLength =
        .ok (plan.remote.map (·.content)) := by
    have hvalid : ∀ value ∈ plan.remote.map (·.content), validFingerprint value = true := by
      intro value hvalue
      obtain ⟨remote, hfound, rfl⟩ := Option.map_eq_some_iff.mp hvalue
      exact (hplan.valid.remote_valid (hplan.remote ▸ hfound)).content
    rw [← intentContentFingerprint_map hvalid, Option.map_map, Option.map_map]
    rfl
  have hseals : ∀ proof, ReplayProof.fromR31 sha256
      (intentOf sha256 plan draft kind registeredAtUnixMs) state evidence = .ok proof ↔
        proof = plannedProof sha256 plan draft kind registeredAtUnixMs
          input.evidence.facts.durableStateVersion evidence.evidenceFingerprint :=
    fun proof => hcompletes.sealed_iff rfl haccepted.version
      (intentContentFingerprint_map hshape.content) hremoteContent
  have hfingerprint : isLowerHex64 evidence.evidenceFingerprint = true := by
    rw [hcompletes.fingerprint]
    exact isLowerHex64_hexSha256 sha256 _
  have hoperation : draft.operationId.isNil = false := by
    rw [hof.operationId]
    exact hnil _ _
  have hversion : ∀ content : Option ContentFingerprint,
      (publishedFacts kind content input.evidence.facts).durableStateVersion =
        input.evidence.facts.durableStateVersion := by
    intro content
    cases kind <;> rfl
  have hsnapshot := snapshot_iff hplan hpublishes hnot hremote hfrom registeredAtUnixMs
    input.evidence.facts.durableStateVersion evidence.evidenceFingerprint
  rw [ReplaysAsNoOp]
  simp only [hseals, exists_eq_left, classify_applied_iff]
  rw [accepted_published_iff haccepted hshape.content hpublishes.content hdrafts,
    validateReplayProof_applied_eq_ok]
  constructor
  · rintro ⟨-, -, -, -, -, -, -, -, hmatches⟩
    exact hsnapshot.mp hmatches
  · intro hkeeps
    exact ⟨hoperation, (hversion _).symm, hfingerprint, rfl, rfl, rfl, rfl, rfl,
      hsnapshot.mpr hkeeps⟩

/-- **The replay of a completed publication is a verified no-op exactly if the publication
keeps the identity of the conflict.** -/
theorem replays_as_no_op_iff {facts : ClassificationEvidence} {case : ConflictCase}
    {input : ConflictInput u sha256} (hfresh : ConflictInput.fresh u sha256 facts case = .ok input)
    (hnil : NeverNil newV5)
    (h : materializeConflictPlan u sha256 newV5 (classifyConflict input) context = .ok plan)
    (hdraft : draft ∈ plan.drafts) (hkind : draft.durableOperationKind = some kind)
    (hnot : kind ≠ .remoteExistingBlocked) {registeredAtUnixMs : ℕ}
    (hintent : mutationIntentFromDraft sha256 plan draft registeredAtUnixMs = .ok (some intent))
    (hcompletes : CompletesAsExpected sha256 input.evidence.facts.durableStateVersion intent state
      evidence) :
    ReplaysAsNoOp u sha256 input draft intent state evidence ↔ KeepsIdentity context kind := by
  obtain ⟨hboundary, hreplay, haccepted⟩ := eq_of_fresh_ok hfresh
  obtain ⟨sealedEvidence, conflictId, hplan⟩ := materializes_of_ok h
  obtain rfl : input.evidence = sealedEvidence := Option.some.inj hplan.carries
  obtain ⟨requirement, hrequirement, hof⟩ := exists_of_mem_right hplan.drafts hdraft
  obtain rfl : intentOf sha256 plan draft kind registeredAtUnixMs = intent := by
    rw [mutationIntentFromDraft, ite_error_eq_ok, ite_error_eq_ok, hkind,
      Option.map_some] at hintent
    exact Option.some.inj (Except.ok.inj hintent.2.2)
  exact planned_replays_iff hboundary hreplay haccepted hnil hplan hrequirement hof hkind hnot
    hcompletes

end NoOp

/-! ## A rename that is replayed -/

/-- The evidence that says what the intent expects. -/
def expectedEvidence (sha256 : Sha256) (intent : MutationIntent) : MutationVerificationEvidence :=
  let evidence : MutationVerificationEvidence :=
    { evidenceId := intent.operationId
      operationId := intent.operationId
      attemptNumber := 0
      capturePhase := .postVerify
      disposition := .verifiedApplied
      outcomeCode := none
      observedAccountId := intent.accountId
      observedRemoteRootId := intent.remoteRootId
      observedRemoteFileId := intent.remoteFileId
      observedParentId := intent.destinationParentId
      observedPath := intent.destinationPath
      observedLocalRevision := intent.expectedLocalRevision
      observedRemoteRevision := intent.expectedRemoteRevision
      observedSha256 := intent.expectedLocalSha256
      observedByteLength := intent.expectedLocalByteLength
      observedOperationMarker := some intent.operationMarker
      forbiddenSideEffect := false
      verifiedReceivedByteOffset := none
      resumeReference := none
      evidenceFingerprint := ""
      capturedAtUnixMs := 0 }
  { evidence with evidenceFingerprint := evidence.canonicalFingerprint sha256 }

/-- The completed state that names it. -/
def expectedState (version : ℕ) (intent : MutationIntent) : MutationState :=
  { initialMutationState intent with
    phase := .completed
    stateVersion := version
    disposition := some .verifiedApplied
    lastEvidenceId := some intent.operationId }

theorem completesAsExpected (sha256 : Sha256) (version : ℕ) (intent : MutationIntent) :
    CompletesAsExpected sha256 version intent (expectedState version intent)
      (expectedEvidence sha256 intent) :=
  ⟨rfl, ⟨rfl, rfl, rfl⟩, rfl, rfl, rfl, rfl, rfl, rfl, rfl, rfl, rfl, rfl, rfl, rfl, rfl, rfl, rfl,
    rfl⟩

theorem noteInput_fresh : ConflictInput.fresh Unicode.ascii noteDigest noteEvidence
    .nonOverlappingMarkdownChanges = .ok noteInput := fresh_eq_ok noteEvidence_accepted

/-- The draft of the merge of a plan. -/
theorem exists_mergePublish {u : Unicode} {sha256 : Sha256} {newV5 : UuidV5}
    {classification : ConflictPlan} {context : MaterializationContext} {plan : MaterializationPlan}
    {evidence : ClassificationEvidence} {conflictId : String}
    (hplan : Materializes u sha256 newV5 classification context plan evidence conflictId)
    (hmerge : .mergePublish ∈ classification.drafts) :
    ∃ draft ∈ plan.drafts, draft.durableOperationKind = some .mergePublish ∧
      DraftOf u sha256 newV5 classification.outcome context conflictId .mergePublish draft := by
  obtain ⟨draft, hdraft, hof⟩ := exists_of_mem_left hplan.drafts hmerge
  refine ⟨draft, hdraft, ?_, hof⟩
  obtain ⟨operationId, planKind, operation, source, destination, content, marker⟩ := draft
  cases hof.shape with
  | mergePublish hmerged => rfl
  | guarded hguarded htarget => cases hguarded

theorem replays_as_no_op_iff_note :
    ∃ plan, materializeConflictPlan Unicode.ascii noteDigest noteV5 (classifyConflict noteInput)
        noteContext = .ok plan ∧
      ∃ draft ∈ plan.drafts, ∃ intent,
        mutationIntentFromDraft noteDigest plan draft 1 = .ok (some intent) ∧
          ReplaysAsNoOp Unicode.ascii noteDigest noteInput draft intent (expectedState 1 intent)
            (expectedEvidence noteDigest intent) := by
  obtain ⟨plan, hplan⟩ := exists_ok_of_isOk noteInput_materializes
  obtain ⟨evidence, conflictId, hmaterializes⟩ := materializes_of_ok hplan
  obtain ⟨draft, hdraft, hkind, -⟩ := exists_mergePublish hmaterializes (by decide)
  have hintent : mutationIntentFromDraft noteDigest plan draft 1 =
      .ok (some (intentOf noteDigest plan draft .mergePublish 1)) :=
    mutationIntentFromDraft_eq_ok (by decide) hdraft hkind
  exact ⟨plan, hplan, draft, hdraft, _, hintent,
    (replays_as_no_op_iff noteInput_fresh neverNil_noteV5 hplan hdraft hkind (by decide) hintent
      (completesAsExpected noteDigest 1 _)).mpr ⟨rfl, rfl⟩⟩

/-- The note, after it was also renamed locally. -/
def renamedContext : MaterializationContext :=
  { noteContext with
    localSource := some { noteSource noteLocal.sha256 noteLocal with portablePath := "notes/b.md" }
    localTarget := { noteTarget with portablePath := "notes/b.md" } }

theorem renamedContext_materializes : (materializeConflictPlan Unicode.ascii noteDigest noteV5
    (classifyConflict noteInput) renamedContext).isOk = true := by decide +kernel

/-- The merge of a renamed note completes as expected, and its replay is refused: the conflict
is identified by the path of the base, the intent by the path it publishes from. -/
theorem renamed_merge_is_not_replayed :
    ∃ plan, materializeConflictPlan Unicode.ascii noteDigest noteV5 (classifyConflict noteInput)
        renamedContext = .ok plan ∧
      ∃ draft ∈ plan.drafts, draft.durableOperationKind = some .mergePublish ∧ ∃ intent,
        mutationIntentFromDraft noteDigest plan draft 1 = .ok (some intent) ∧
          CompletesAsExpected noteDigest noteInput.evidence.facts.durableStateVersion intent
            (expectedState 1 intent) (expectedEvidence noteDigest intent) ∧
          ¬ ReplaysAsNoOp Unicode.ascii noteDigest noteInput draft intent (expectedState 1 intent)
            (expectedEvidence noteDigest intent) := by
  obtain ⟨plan, hplan⟩ := exists_ok_of_isOk renamedContext_materializes
  obtain ⟨evidence, conflictId, hmaterializes⟩ := materializes_of_ok hplan
  obtain rfl : noteEvidence = evidence := Option.some.inj hmaterializes.carries
  have hmerge : .mergePublish ∈ (classifyConflict noteInput).drafts := by decide
  obtain ⟨draft, hdraft, hkind, hof⟩ := exists_mergePublish hmaterializes hmerge
  have hcompletes :=
    completesAsExpected noteDigest 1 (intentOf noteDigest plan draft .mergePublish 1)
  refine ⟨plan, hplan, draft, hdraft, hkind, _,
    mutationIntentFromDraft_eq_ok (by decide) hdraft hkind, hcompletes, fun hreplays => ?_⟩
  rw [planned_replays_iff rfl rfl (eq_of_fresh_ok noteInput_fresh).2.2 neverNil_noteV5 hmaterializes
    hmerge hof hkind (by decide) hcompletes] at hreplays
  exact absurd hreplays.2 (by decide)

end Conflict
end MyVault
