import MyVault.Conflict.IdentityStream
import MyVault.Conflict.Replay

/-!
# Published bytes are sealed bytes

The content a draft expects is read from the context, and the binding ties the context to
the sealed evidence: what a requirement publishes depends on the classification alone
(`expectedContent_eq`).  A blocked remote intent is the exception.  Its content is that of
the caller's own source; it is never executed and no cursor waits for it.

## Reading the bytes off the classification

`SealedEvidence` is the evidence a caller can build: the facts, and proofs sealed onto them.  The
proof of a merge can only be sealed with the three texts at hand, so its content is one that the
merge has computed (`ComputedMerge`).

The matrix drafts no requirement twice (`WellDrafted`), and every kind of draft answers one
requirement (`LocalPlanKind.requirement`).  So a draft of the plan can be traced to its
requirement (`PlannedDraft`), and `sealedContent` says which fingerprint that publishes.  The
operation ids are derived from the domain of the requirement, and are different where UUIDv5 has
no collision on these few names (`nodup_operationIds`).
-/

namespace MyVault
namespace Conflict

open Store Check

/-! ## Sealed evidence -/

section Evidence

variable (u : Unicode) (sha256 : Sha256) (diff : SequenceDiff Line)

/-- The evidence a caller can build: facts, and the proofs sealed onto them. -/
inductive SealedEvidence : ClassificationEvidence → Prop
  | new (facts : ClassificationEvidenceFacts) : SealedEvidence (.new facts)
  | markdownMerge {evidence verified : ClassificationEvidence} {base localText remote : Text}
      (h : SealedEvidence evidence)
      (hverify : evidence.verifyMarkdownMerge sha256 diff base localText remote = .ok verified) :
      SealedEvidence verified
  | deletedFinalState {evidence verified : ClassificationEvidence}
      {accountId remoteRootId objectIdentity : String} {durableStateVersion : ℕ}
      {localDeleted remoteDeleted : Bool} (h : SealedEvidence evidence)
      (hverify : evidence.verifyDeletedFinalState accountId remoteRootId objectIdentity
        durableStateVersion localDeleted remoteDeleted = .ok verified) : SealedEvidence verified
  | sameRename {evidence verified : ClassificationEvidence}
      {accountId remoteRootId objectIdentity : String} {durableStateVersion : ℕ}
      {localPath remotePath : String} (h : SealedEvidence evidence)
      (hverify : evidence.verifySameRename u accountId remoteRootId objectIdentity
        durableStateVersion localPath remotePath = .ok verified) : SealedEvidence verified
  | sameMove {evidence verified : ClassificationEvidence}
      {accountId remoteRootId objectIdentity : String} {durableStateVersion : ℕ}
      {localParentId remoteParentId : String} (h : SealedEvidence evidence)
      (hverify : evidence.verifySameMove accountId remoteRootId objectIdentity
        durableStateVersion localParentId remoteParentId = .ok verified) : SealedEvidence verified

/-- The engine has merged three texts with the fingerprints of the facts into the content. -/
def ComputedMerge (facts : ClassificationEvidenceFacts) (content : ContentFingerprint) : Prop :=
  ∃ base localText remote m,
    facts.base = some (ClassificationEvidence.fingerprintBytes sha256 (utf8Bytes base)) ∧
      facts.localContent =
        some (ClassificationEvidence.fingerprintBytes sha256 (utf8Bytes localText)) ∧
      facts.remote = some (ClassificationEvidence.fingerprintBytes sha256 (utf8Bytes remote)) ∧
      Markdown.mergeMarkdownThreeWay sha256 diff base localText remote = .merged m ∧
      content = { sha256 := m.sha256, byteLength := m.byteLength }

variable {u sha256 diff}

/-- A merge fingerprint is sealed only by running the engine. -/
theorem SealedEvidence.computed {evidence : ClassificationEvidence}
    (h : SealedEvidence u sha256 diff evidence) :
    ∀ content ∈ evidence.verifiedMarkdownMerge,
      ComputedMerge sha256 diff evidence.facts content := by
  induction h with
  | new facts => exact fun content hcontent => absurd hcontent (Option.not_mem_none content)
  | @markdownMerge evidence verified base localText remote h hverify ih =>
      rw [ClassificationEvidence.verifyMarkdownMerge] at hverify
      split at hverify
      · cases hverify
      · rename_i hfacts
        rw [not_or, not_or, not_not, not_not, not_not] at hfacts
        obtain ⟨hbase, hlocal, hremote⟩ := hfacts
        split at hverify
        · rename_i m hmerged
          cases hverify
          rintro content ⟨⟩
          exact ⟨base, localText, remote, m, hbase, hlocal, hremote, hmerged, rfl⟩
        · cases hverify
  | deletedFinalState h hverify ih =>
      rw [ClassificationEvidence.verifyDeletedFinalState] at hverify
      split at hverify
      · cases hverify
      · cases hverify
        exact ih
  | sameRename h hverify ih =>
      rw [ClassificationEvidence.verifySameRename] at hverify
      split at hverify
      · cases hverify
      · cases hverify
        exact ih
  | sameMove h hverify ih =>
      rw [ClassificationEvidence.verifySameMove] at hverify
      split at hverify
      · cases hverify
      · cases hverify
        exact ih

/-- The fingerprint a requirement of the classification publishes, as it is sealed. -/
def sealedContent (outcome : ConflictOutcome) (evidence : ClassificationEvidence) :
    ConflictDraft → Option ContentFingerprint
  | .localContentPublish | .conflictCopyPublish => evidence.facts.remote
  | .mergePublish => evidence.verifiedMarkdownMerge
  | .basePublish =>
    if outcome = .safeTextMergeLocal then evidence.verifiedMarkdownMerge else evidence.facts.remote
  | .guardedLocalRename | .guardedLocalMove | .guardedLocalRenameMove =>
    evidence.facts.localContent
  | .remoteExistingBlocked => none

end Evidence

/-! ## Kinds of drafts -/

section Kinds

/-- The requirement a kind of draft answers. -/
def LocalPlanKind.requirement : LocalPlanKind → ConflictDraft
  | .localPublish => .localContentPublish
  | .mergePublish => .mergePublish
  | .conflictCopyPublish | .conflictCopyReuseVerified => .conflictCopyPublish
  | .basePublish => .basePublish
  | .remoteExistingBlocked => .remoteExistingBlocked
  | .guardedLocalRename => .guardedLocalRename
  | .guardedLocalMove => .guardedLocalMove
  | .guardedLocalRenameMove => .guardedLocalRenameMove

/-- The operation a kind of draft is recorded as. -/
def LocalPlanKind.operation : LocalPlanKind → Option MutationOperationKind
  | .localPublish => some .localPublish
  | .mergePublish => some .mergePublish
  | .conflictCopyPublish => some .conflictCopyPublish
  | .basePublish => some .basePublish
  | .remoteExistingBlocked => some .remoteExistingBlocked
  | .conflictCopyReuseVerified | .guardedLocalRename | .guardedLocalMove
  | .guardedLocalRenameMove => none

/-- The publications, with the dependency the cursor has on them. -/
def LocalPlanKind.publishes : LocalPlanKind → Option ChangeBatchDependencyKind
  | .localPublish => some .mutation
  | .mergePublish => some .mergePublication
  | .conflictCopyPublish => some .conflictCopyPublication
  | .basePublish => some .basePublication
  | .conflictCopyReuseVerified | .remoteExistingBlocked | .guardedLocalRename
  | .guardedLocalMove | .guardedLocalRenameMove => none

variable {u : Unicode} {sha256 : Sha256} {newV5 : UuidV5} {classification : ConflictPlan}
  {context : MaterializationContext} {conflictId : String} {plan : MaterializationPlan}

theorem publishes_eq (kind : LocalPlanKind) :
    kind.publishes = kind.operation.bind dependencyKind := by
  cases kind <;> rfl

/-- A draft is of a kind that answers its requirement, and recorded as that kind says. -/
def OfKind (requirement : ConflictDraft) (draft : MaterializationDraft) : Prop :=
  draft.kind.requirement = requirement ∧ draft.durableOperationKind = draft.kind.operation

theorem ofKind_of_draftFor {requirement : ConflictDraft}
    {drafted : MaterializationDraft × Option ChangeBatchDependency}
    (h : draftFor u sha256 newV5 classification context conflictId requirement = .ok drafted) :
    OfKind requirement drafted.1 := by
  have hguarded : ∀ {kind : LocalPlanKind} {domain : ConflictOperationDomain},
      kind.requirement = requirement → kind.operation = none →
        guardedMetadataDraft newV5 kind domain context conflictId = .ok drafted →
          OfKind requirement drafted.1 := by
    intro kind domain hrequirement hoperation hdraft
    rw [guardedMetadataDraft] at hdraft
    split at hdraft
    · cases hdraft
    · cases hdraft
      exact ⟨hrequirement, hoperation.symm⟩
  cases requirement with
  | localContentPublish | mergePublish | basePublish =>
      rw [draftFor] at h
      split at h
      · cases h
      · cases h
        exact ⟨rfl, rfl⟩
  | conflictCopyPublish =>
      rw [draftFor] at h
      split at h
      · cases h
      · split at h
        · cases h
          exact ⟨rfl, rfl⟩
        · cases h
          exact ⟨rfl, rfl⟩
        · cases h
  | remoteExistingBlocked =>
      rw [draftFor] at h
      split at h
      · cases h
        exact ⟨rfl, rfl⟩
      · cases h
  | guardedLocalRename => exact hguarded rfl rfl h
  | guardedLocalMove => exact hguarded rfl rfl h
  | guardedLocalRenameMove => exact hguarded rfl rfl h

/-- What a successful materialization has established, with the identity of its plan and
the kinds of its drafts. -/
theorem materializes_self
    (h : materializeConflictPlan u sha256 newV5 classification context = .ok plan) :
    ∃ evidence, Materializes u sha256 newV5 classification context plan evidence plan.conflictId ∧
      List.Forall₂ OfKind classification.drafts plan.drafts := by
  obtain ⟨evidence, conflictId, hplan⟩ := materializes_of_ok h
  rw [materializeConflictPlan, seq_eq_ok] at h
  obtain ⟨found, hfound, h⟩ := bind_eq_ok.mp h.2
  have hsame : found = evidence := by
    rw [ConflictPlan.evidence, hplan.carries] at hfound
    exact (Except.ok.inj hfound).symm
  rw [seq_eq_ok] at h
  obtain ⟨derived, hderived, h⟩ := bind_eq_ok.mp h.2
  have hid : derived = conflictId := by
    rw [hsame, hplan.derived] at hderived
    exact (Except.ok.inj hderived).symm
  obtain ⟨drafted, hdrafted, h⟩ := bind_eq_ok.mp h
  rw [mapEach_eq_ok] at hdrafted
  cases h
  cases hid
  exact ⟨evidence, hplan,
    List.forall₂_map_right_iff.mpr (hdrafted.imp fun _ _ => ofKind_of_draftFor)⟩

end Kinds

/-! ## The matrix -/

section Matrix

/-- No requirement is drafted twice, and a merge only under its outcome. -/
def WellDrafted (classification : ConflictPlan) : Prop :=
  classification.drafts.Nodup ∧
    (.mergePublish ∈ classification.drafts → classification.outcome = .safeTextMergeLocal)

instance (classification : ConflictPlan) : Decidable (WellDrafted classification) :=
  inferInstanceAs (Decidable (_ ∧ _))

theorem wellDrafted_classifyFreshCase (case : ConflictCase) :
    WellDrafted (classifyFreshCase case) := by
  cases case with
  | bothDeleted proof => cases proof <;> decide
  | remoteContentChanged capability | bothChangedWithoutExactBase capability
  | invalidOrAmbiguousText capability | mergeInputExceedsBounds capability
  | destinationCreatedVsMoveOrRename capability | distinctCreatesAtEquivalentPath capability
  | portableEquivalentDestinationCollision capability => cases capability <;> decide
  | localEditedRemoteRename guard | localEditedRemoteMove guard | renameMoveConflict guard
  | childChangedWithParentChanged guard => cases guard <;> decide
  | _ => decide

theorem wellDrafted_classifyBoundary {boundary : BoundaryAssessment} {plan : ConflictPlan}
    (h : classifyBoundary boundary = some plan) : WellDrafted plan := by
  cases boundary <;> cases h <;> decide

theorem wellDrafted_classifyReplay {replay : ReplayAssessment} {plan : ConflictPlan}
    (h : classifyReplay replay = some plan) : WellDrafted plan := by
  cases replay with
  | fresh => cases h
  | verifiedAppliedExactPostState proof =>
      rw [classifyReplay] at h
      split at h <;> cases h <;> decide
  | verifiedNotApplied proof retry => cases retry <;> cases h <;> decide
  | sideEffectOutcomeUnknown proof => cases h; decide
  | queuedIntentCapturedBaseChanged proof => cases h; decide

theorem wellDrafted_classifyConflict {u : Unicode} {sha256 : Sha256}
    (input : ConflictInput u sha256) : WellDrafted (classifyConflict input) := by
  rw [classifyConflict]
  split
  · rename_i plan hboundary
    have hwell : WellDrafted plan := wellDrafted_classifyBoundary hboundary
    exact hwell
  · split
    · rename_i plan hreplay
      have hwell : WellDrafted plan := wellDrafted_classifyReplay hreplay
      exact hwell
    · exact wellDrafted_classifyFreshCase input.case

end Matrix

/-! ## What a plan publishes -/

section Plans

variable {u : Unicode} {sha256 : Sha256} {newV5 : UuidV5} {diff : SequenceDiff Line}
  {classification : ConflictPlan} {context : MaterializationContext} {plan : MaterializationPlan}
  {evidence : ClassificationEvidence} {conflictId : String} {requirement : ConflictDraft}
  {draft : MaterializationDraft}

/-- What a requirement publishes is sealed, whatever the context carries beside. -/
theorem expectedContent_eq (hbound : Bound classification evidence context)
    (hwell : WellDrafted classification) (hmem : requirement ∈ classification.drafts)
    (hblocked : requirement ≠ .remoteExistingBlocked)
    (hof : DraftOf u sha256 newV5 classification.outcome context conflictId requirement draft) :
    draft.expectedContent = sealedContent classification.outcome evidence requirement := by
  have hremote : ∀ {remote : PublicationSource}, context.remote = some remote →
      some remote.content = evidence.facts.remote := by
    intro remote hfound
    rw [hbound.remote, hfound, Option.map_some]
  obtain ⟨operationId, kind, operation, source, destination, content, marker⟩ := draft
  cases hof.shape with
  | localPublish hfound => exact hremote hfound
  | mergePublish hmerged =>
      show some _ = evidence.verifiedMarkdownMerge
      rw [hbound.merged (hwell.2 hmem), hmerged]
  | copyPublish hfound hname => exact hremote hfound
  | copyReuse hfound hname => exact hremote hfound
  | @basePublish content hcontent =>
      show some content = if _ then _ else _
      rw [← hcontent, hbound.remote]
      cases houtcome : classification.outcome <;> rw [houtcome] at hcontent
      case safeTextMergeLocal => exact (hbound.merged houtcome).symm
      case guardedLocalReplace => rfl
      case needsReconcile => rfl
      all_goals cases hcontent
  | blocked hsource hdestination => exact absurd rfl hblocked
  | guarded hguarded htarget =>
      cases requirement <;> first | exact hbound.localContent.symm | cases hguarded

/-- Every draft expects some content where the local source is there. -/
theorem expectedContent_isSome (hlocal : context.localSource.isSome = true)
    (hof : DraftOf u sha256 newV5 classification.outcome context conflictId requirement draft) :
    draft.expectedContent.isSome = true := by
  obtain ⟨operationId, kind, operation, source, destination, content, marker⟩ := draft
  cases hof.shape with
  | guarded hguarded htarget => exact Option.isSome_map.trans hlocal
  | _ => rfl

variable (newV5 classification evidence conflictId) in
/-- A draft of a plan and its requirement. -/
structure PlannedDraft (requirement : ConflictDraft) (draft : MaterializationDraft) : Prop where
  mem : requirement ∈ classification.drafts
  kind : draft.kind.requirement = requirement
  operation : draft.durableOperationKind = draft.kind.operation
  operationId : draft.operationId = deriveOperationId newV5 requirement.domain conflictId
  some : draft.expectedContent.isSome = true
  content : requirement ≠ .remoteExistingBlocked →
    draft.expectedContent = sealedContent classification.outcome evidence requirement

theorem plannedDrafts (hplan : Materializes u sha256 newV5 classification context plan evidence
    conflictId) (hwell : WellDrafted classification)
    (hkinds : List.Forall₂ OfKind classification.drafts plan.drafts)
    (hlocal : classification.drafts ≠ [] → context.localSource.isSome = true) :
    List.Forall₂ (PlannedDraft newV5 classification evidence conflictId) classification.drafts
      plan.drafts := by
  have hmem : List.Forall₂ (fun requirement draft => requirement ∈ classification.drafts ∧
      DraftOf u sha256 newV5 classification.outcome context conflictId requirement draft)
      classification.drafts plan.drafts :=
    (List.forall₂_and_left _ _).mpr ⟨fun _ h => h, hplan.drafts⟩
  refine List.Forall₂.mp ?_ hmem hkinds
  rintro requirement draft ⟨hmem, hof⟩ ⟨hkind, hoperation⟩
  exact
    { mem := hmem
      kind := hkind
      operation := hoperation
      operationId := hof.operationId
      some := expectedContent_isSome (hlocal (List.ne_nil_of_mem hmem)) hof
      content := fun hblocked => expectedContent_eq hplan.bound hwell hmem hblocked hof }

/-- The requirement of each draft of a plan, with the content it is drafted for. -/
def MaterializationPlan.bytes (plan : MaterializationPlan) :
    List (ConflictDraft × Option ContentFingerprint) :=
  (plan.drafts.filter fun draft => draft.kind ≠ .remoteExistingBlocked).map fun draft =>
    (draft.kind.requirement, draft.expectedContent)

theorem requirement_eq_blocked_iff {kind : LocalPlanKind} :
    kind.requirement = .remoteExistingBlocked ↔ kind = .remoteExistingBlocked := by
  cases kind <;> decide

/-- The bytes of a plan are read off the classification. -/
theorem bytes_eq {requirements : List ConflictDraft} {drafts : List MaterializationDraft}
    (h : List.Forall₂ (PlannedDraft newV5 classification evidence conflictId) requirements drafts) :
    (drafts.filter fun draft => draft.kind ≠ .remoteExistingBlocked).map
        (fun draft => (draft.kind.requirement, draft.expectedContent)) =
      (requirements.filter (· ≠ .remoteExistingBlocked)).map fun requirement =>
        (requirement, sealedContent classification.outcome evidence requirement) := by
  induction h with
  | nil => rfl
  | @cons requirement draft requirements drafts hplanned _ ih =>
      have hblocked := @requirement_eq_blocked_iff draft.kind
      rw [hplanned.kind] at hblocked
      by_cases hrequirement : requirement = .remoteExistingBlocked
      · rw [List.filter_cons_of_neg (by simp [hblocked.mp hrequirement]), ih,
          List.filter_cons_of_neg (by simp [hrequirement])]
      · have hkind : draft.kind ≠ .remoteExistingBlocked := fun h => hrequirement (hblocked.mpr h)
        rw [List.filter_cons_of_pos (by simp [hkind]), List.map_cons, ih,
          List.filter_cons_of_pos (by simp [hrequirement]), List.map_cons, hplanned.kind,
          hplanned.content hrequirement]

/-- The operation ids of a plan are those of its requirements. -/
theorem operationIds_eq {requirements : List ConflictDraft} {drafts : List MaterializationDraft}
    (h : List.Forall₂ (PlannedDraft newV5 classification evidence conflictId) requirements drafts) :
    drafts.map (·.operationId) = requirements.map fun requirement =>
      deriveOperationId newV5 requirement.domain conflictId := by
  induction h with
  | nil => rfl
  | cons hplanned _ ih => rw [List.map_cons, List.map_cons, hplanned.operationId, ih]

/-- The names of the operations of a conflict. -/
def operationNamesOf (conflictId : String) : Set (List UInt8) :=
  {name | ∃ domain, name = operationName domain conflictId}

/-- No two drafts of a plan share an operation. -/
theorem nodup_operationIds (hwell : WellDrafted classification)
    (hv5 : Set.InjOn (newV5 operationNamespace) (operationNamesOf conflictId))
    (h : List.Forall₂ (PlannedDraft newV5 classification evidence conflictId)
      classification.drafts plan.drafts) : (plan.drafts.map (·.operationId)).Nodup := by
  rw [operationIds_eq h]
  refine hwell.1.map_on ?_
  intro a _ b _ hsame
  have hname := hv5 ⟨a.domain, rfl⟩ ⟨b.domain, rfl⟩ hsame
  exact ConflictDraft.domain_injective (operationName_injective hname).1

/-- The fingerprints sealed in the evidence. -/
def ClassificationEvidence.fingerprints (evidence : ClassificationEvidence) :
    List (Option ContentFingerprint) :=
  [evidence.facts.base, evidence.facts.localContent, evidence.facts.remote,
    evidence.verifiedMarkdownMerge]

/-- What a plan publishes is sealed in the evidence, under operations of its own and in the
order the publications need. -/
structure PublishesSealed (sha256 : Sha256) (diff : SequenceDiff Line)
    (evidence : ClassificationEvidence) (plan : MaterializationPlan) : Prop where
  contents : ∀ draft ∈ plan.drafts, draft.kind ≠ .remoteExistingBlocked →
    draft.expectedContent.isSome = true ∧ draft.expectedContent ∈ evidence.fingerprints
  merge : ∀ content ∈ evidence.verifiedMarkdownMerge,
    ComputedMerge sha256 diff evidence.facts content
  publications : ∀ draft ∈ plan.drafts, draft.kind.publishes.isSome = true →
    draft.expectedContent = evidence.facts.remote ∨
      draft.expectedContent = evidence.verifiedMarkdownMerge
  copies : ∀ draft ∈ plan.drafts,
    draft.kind = .conflictCopyPublish ∨ draft.kind = .conflictCopyReuseVerified →
      draft.expectedContent = evidence.facts.remote
  operationIds : (plan.drafts.map (·.operationId)).Nodup
  dependencies : plan.cursorDependencies = plan.drafts.filterMap fun draft =>
    draft.kind.publishes.map fun kind => { operationId := draft.operationId, kind }
  prerequisites : ∀ draft ∈ plan.drafts, draft.kind = .basePublish →
    ∃ order ∈ plan.executionDependencies, order.operationId = draft.operationId ∧
      ∀ other ∈ plan.drafts, other ≠ draft → other.kind.publishes.isSome = true →
        other.operationId ∈ order.prerequisites

theorem sealedContent_mem (outcome : ConflictOutcome)
    (hblocked : requirement ≠ .remoteExistingBlocked) :
    sealedContent outcome evidence requirement ∈ evidence.fingerprints := by
  cases requirement with
  | basePublish =>
      rw [sealedContent]
      split <;> simp [ClassificationEvidence.fingerprints]
  | remoteExistingBlocked => exact absurd rfl hblocked
  | _ => simp [sealedContent, ClassificationEvidence.fingerprints]

theorem PlannedDraft.not_blocked
    (h : PlannedDraft newV5 classification evidence conflictId requirement draft)
    (hkind : draft.kind ≠ .remoteExistingBlocked) : requirement ≠ .remoteExistingBlocked := by
  rw [← h.kind]
  exact fun hblocked => hkind (requirement_eq_blocked_iff.mp hblocked)

theorem dependency_eq (hoperation : draft.durableOperationKind = draft.kind.operation) :
    draft.dependency = draft.kind.publishes.map fun kind =>
      { operationId := draft.operationId, kind } := by
  rw [MaterializationDraft.dependency, hoperation, publishes_eq]

theorem isPrerequisite_of_publishes {kind : LocalPlanKind}
    (hoperation : draft.durableOperationKind = draft.kind.operation) (hkind : draft.kind = kind)
    (hbase : kind ≠ .basePublish) (hpublishes : kind.publishes.isSome = true) :
    draft.isPrerequisite = true := by
  rw [MaterializationDraft.isPrerequisite, hoperation, hkind]
  cases kind with
  | localPublish | mergePublish | conflictCopyPublish => rfl
  | basePublish => exact absurd rfl hbase
  | _ => cases hpublishes

/-- **Published bytes are sealed bytes.** -/
theorem published_bytes_are_sealed {boundary : BoundaryAssessment} {replay : ReplayAssessment}
    {case : ConflictCase} {input : ConflictInput u sha256}
    (hsealed : SealedEvidence u sha256 diff evidence)
    (hinput : ConflictInput.new u sha256 evidence boundary replay case = .ok input)
    (h : materializeConflictPlan u sha256 newV5 (classifyConflict input) context = .ok plan)
    (hv5 : Set.InjOn (newV5 operationNamespace) (operationNamesOf plan.conflictId)) :
    PublishesSealed sha256 diff evidence plan ∧
      ∀ context' plan', materializeConflictPlan u sha256 newV5 (classifyConflict input) context' =
        .ok plan' → plan'.bytes = plan.bytes := by
  have hsame : input.evidence = evidence := by
    rw [ConflictInput.new] at hinput
    split at hinput
    · cases hinput
    · cases hinput
      rfl
  have hwell := wellDrafted_classifyConflict input
  have hdrafted : ∀ {context plan}, materializeConflictPlan u sha256 newV5 (classifyConflict input)
      context = .ok plan → List.Forall₂ (PlannedDraft newV5 (classifyConflict input) evidence
        plan.conflictId) (classifyConflict input).drafts plan.drafts := by
    intro context plan h
    obtain ⟨found, hplan, hkinds⟩ := materializes_self h
    obtain rfl : evidence = found := hsame.symm.trans (Option.some.inj hplan.carries)
    refine plannedDrafts hplan hwell hkinds fun hne => ?_
    obtain ⟨requirement, hmem⟩ := List.exists_mem_of_ne_nil _ hne
    have haccepted := accepted_of_mem_drafts input hmem
    rw [hsame] at haccepted
    exact (hplan.bound.sources_isSome haccepted).1
  have hdrafts := hdrafted h
  obtain ⟨found, hplan, -⟩ := materializes_self h
  have hnodup := nodup_operationIds hwell hv5 hdrafts
  refine ⟨
    { contents := fun draft hdraft hkind => ?_
      merge := hsealed.computed
      publications := fun draft hdraft hpublishes => ?_
      copies := fun draft hdraft hkind => ?_
      operationIds := hnodup
      dependencies := ?_
      prerequisites := fun draft hdraft hbase => ?_ }, fun context' plan' h' => ?_⟩
  · obtain ⟨requirement, -, hplanned⟩ := exists_of_mem_right hdrafts hdraft
    have hblocked := hplanned.not_blocked hkind
    rw [hplanned.content hblocked]
    exact ⟨hplanned.content hblocked ▸ hplanned.some, sealedContent_mem _ hblocked⟩
  · obtain ⟨requirement, -, hplanned⟩ := exists_of_mem_right hdrafts hdraft
    have hkind : draft.kind ≠ .remoteExistingBlocked := by
      intro hkind
      rw [hkind] at hpublishes
      cases hpublishes
    rw [hplanned.content (hplanned.not_blocked hkind), ← hplanned.kind]
    revert hpublishes
    cases draft.kind with
    | basePublish =>
        rw [LocalPlanKind.requirement, sealedContent]
        split
        · exact fun _ => Or.inr rfl
        · exact fun _ => Or.inl rfl
    | mergePublish => exact fun _ => Or.inr rfl
    | localPublish | conflictCopyPublish => exact fun _ => Or.inl rfl
    | _ =>
        intro hpublishes
        cases hpublishes
  · obtain ⟨requirement, -, hplanned⟩ := exists_of_mem_right hdrafts hdraft
    have hrequirement : requirement = .conflictCopyPublish := by
      rw [← hplanned.kind]
      rcases hkind with hkind | hkind <;> rw [hkind] <;> rfl
    rw [hplanned.content (by rw [hrequirement]; decide), hrequirement, sealedContent]
  · rw [hplan.dependencies]
    refine List.filterMap_congr fun draft hdraft => ?_
    obtain ⟨requirement, -, hplanned⟩ := exists_of_mem_right hdrafts hdraft
    exact dependency_eq hplanned.operation
  · obtain ⟨requirement, -, hplanned⟩ := exists_of_mem_right hdrafts hdraft
    have hdurable : draft.durableOperationKind = some .basePublish := by
      rw [hplanned.operation, hbase]
      rfl
    refine ⟨⟨draft.operationId, (plan.drafts.filter (·.isPrerequisite)).map (·.operationId)⟩, ?_,
      rfl, fun other hother hne hpublishes => ?_⟩
    · rw [hplan.order, publicationOrder]
      refine List.mem_map.mpr ⟨draft, hdraft, ?_⟩
      rw [if_pos hdurable]
    · obtain ⟨requirement', -, hplanned'⟩ := exists_of_mem_right hdrafts hother
      -- two base publications would share their operation
      have hother_base : other.kind ≠ .basePublish := by
        intro hsame
        have hids : other.operationId = draft.operationId := by
          rw [hplanned'.operationId, hplanned.operationId, ← hplanned'.kind, ← hplanned.kind,
            hsame, hbase]
        exact hne (List.inj_on_of_nodup_map hnodup hother hdraft hids)
      exact List.mem_map.mpr ⟨other, List.mem_filter.mpr ⟨hother,
        isPrerequisite_of_publishes hplanned'.operation rfl hother_base hpublishes⟩, rfl⟩
  · rw [MaterializationPlan.bytes, MaterializationPlan.bytes, bytes_eq (hdrafted h'),
      bytes_eq hdrafts]

end Plans

/-! ## A blocked intent for other bytes -/

/-- The id of the conflict of the note. -/
def noteConflictId : String := "a5791b3848afac23d18d253d3c6ef7174fa4fed2c47ac69f9d77501d377e779e"

/-- The version-5 UUIDs of all its operations; the guarded ones differ in the length of
their names. -/
def noteOperationsV5 : UuidV5 := fun space name =>
  if name.length = 85 then ⟨
    [0xbe, 0x67, 0xa2, 0xd4, 0x4c, 0xd6, 0x57, 0xba, 0xa1, 0x4a, 0x08, 0x3e, 0xf4, 0x66, 0x44,
     0x17], rfl⟩
  else if name.length = 83 then ⟨
    [0x05, 0x6e, 0xdc, 0x20, 0xb5, 0x0a, 0x50, 0xaa, 0xb9, 0x89, 0x58, 0xd6, 0x9b, 0x4e, 0x4f,
     0x92], rfl⟩
  else if name.length = 90 then ⟨
    [0xfc, 0x88, 0x0d, 0xa5, 0x35, 0xa7, 0x52, 0xd4, 0xae, 0xdf, 0x25, 0x87, 0xfe, 0x2e, 0x98,
     0x0e], rfl⟩
  else noteV5 space name

theorem noteOperationsV5_injOn :
    Set.InjOn (noteOperationsV5 operationNamespace) (operationNamesOf noteConflictId) := by
  have hnodup : (ConflictOperationDomain.all.map fun domain =>
      deriveOperationId noteOperationsV5 domain noteConflictId).Nodup := by decide +kernel
  rintro _ ⟨d, rfl⟩ _ ⟨e, rfl⟩ hsame
  rw [List.inj_on_of_nodup_map hnodup d.mem_all e.mem_all hsame]

theorem sealedEvidence_note : SealedEvidence Unicode.ascii noteDigest SequenceDiff.trimDiff
    noteEvidence := .markdownMerge (.new noteFacts) noteEvidence_verified

theorem conflictId_note {context : MaterializationContext} {plan : MaterializationPlan}
    (h : materializeConflictPlan Unicode.ascii noteDigest noteOperationsV5
      (classifyConflict noteInput) context = .ok plan) : plan.conflictId = noteConflictId := by
  obtain ⟨evidence, hplan, -⟩ := materializes_self h
  cases hplan.carries
  have hid : deriveBoundConflictId Unicode.ascii noteDigest (classifyConflict noteInput)
      noteEvidence.facts = .ok noteConflictId := by decide +kernel
  exact Except.ok.inj (hplan.derived.symm.trans hid)

theorem noteInput_new : ConflictInput.new Unicode.ascii noteDigest noteEvidence .approved .fresh
    .nonOverlappingMarkdownChanges = .ok noteInput := noteInput_fresh

theorem published_bytes_are_sealed_note :
    ∃ plan, materializeConflictPlan Unicode.ascii noteDigest noteOperationsV5
        (classifyConflict noteInput) noteContext = .ok plan ∧
      PublishesSealed noteDigest SequenceDiff.trimDiff noteEvidence plan := by
  have hok : (materializeConflictPlan Unicode.ascii noteDigest noteOperationsV5
      (classifyConflict noteInput) noteContext).isOk = true := by decide +kernel
  obtain ⟨plan, hplan⟩ := exists_ok_of_isOk hok
  have hv5 := noteOperationsV5_injOn
  rw [← conflictId_note hplan] at hv5
  exact ⟨plan, hplan, (published_bytes_are_sealed sealedEvidence_note noteInput_new hplan hv5).1⟩

/-- A fingerprint none of the three texts has. -/
def strayContent : ContentFingerprint where
  sha256 := "cccccccccccccccccccccccccccccccccccccccccccccccccccccccccccccccc"
  byteLength := 5

/-- The note, with a blocked update of other bytes. -/
def strayContext : MaterializationContext :=
  { noteContext with blockedRemoteSource := some (noteSource "revision-2" strayContent) }

/-- The content of the blocked intent is that of the caller, and no fingerprint of the
evidence. -/
theorem blocked_content_is_not_sealed :
    SealedEvidence Unicode.ascii noteDigest SequenceDiff.trimDiff noteEvidence ∧
      ConflictInput.new Unicode.ascii noteDigest noteEvidence .approved .fresh
        .nonOverlappingMarkdownChanges = .ok noteInput ∧
      ∃ plan, materializeConflictPlan Unicode.ascii noteDigest noteOperationsV5
          (classifyConflict noteInput) strayContext = .ok plan ∧
        ∃ draft ∈ plan.drafts, draft.expectedContent ∉ noteEvidence.fingerprints := by
  have hok : (materializeConflictPlan Unicode.ascii noteDigest noteOperationsV5
      (classifyConflict noteInput) strayContext).isOk = true := by decide +kernel
  obtain ⟨plan, hplan⟩ := exists_ok_of_isOk hok
  obtain ⟨evidence, conflictId, hmaterializes⟩ := materializes_of_ok hplan
  have hmem : .remoteExistingBlocked ∈ (classifyConflict noteInput).drafts := by decide
  obtain ⟨draft, hdraft, hof⟩ := exists_of_mem_left hmaterializes.drafts hmem
  refine ⟨sealedEvidence_note, noteInput_new, plan, hplan, draft, hdraft, ?_⟩
  obtain ⟨operationId, kind, operation, source, destination, content, marker⟩ := draft
  cases hof.shape with
  | blocked hsource hdestination =>
      cases hsource
      show some strayContent ∉ noteEvidence.fingerprints
      decide
  | guarded hguarded htarget => cases hguarded

end Conflict
end MyVault
