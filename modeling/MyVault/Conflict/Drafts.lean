import MyVault.Conflict.CopyNames
import MyVault.Conflict.Materialization

/-!
# What a successful materialization has checked

`Materializes` is everything `materialize_conflict_plan` has established when it
succeeds: the context is valid (`ValidContext`) and bound to the facts of the
classification (`Bound`), and every required draft is one of the kinds `Drafted`
lists.  The results about plans are case analyses of `Drafted`.
-/

namespace MyVault
namespace Conflict

open Store Check

section Context

/-- The checks of `validate_context`. -/
structure ValidContext (u : Unicode) (context : MaterializationContext) : Prop where
  version : context.durableStateVersion ≠ 0
  accountId : isRemoteId context.accountId = true
  remoteRootId : isRemoteId context.remoteRootId = true
  baseReference : ∀ reference ∈ context.baseReference, isPrivateReference reference = true
  baseLocalRevision : ∀ revision ∈ context.baseLocalRevision, isLowerHex64 revision = true
  baseRemoteRevision : ∀ revision ∈ context.baseRemoteRevision, isRemoteId revision = true
  localRevision : ∀ revision ∈ context.localSource.bind (·.revision),
    isLowerHex64 revision = true
  localObject : ∀ source ∈ context.localSource, isPrivateReference source.objectId = true
  remoteRevision : ∀ revision ∈ context.remote.bind (·.revision), isRemoteId revision = true
  source : ∀ source, some source ∈ context.sources → source.isValid u = true
  target : ∀ target, some target ∈ context.targets → target.isValid u = true
  copyParent : ∀ path ∈ context.conflictCopyDestinationParentPath,
    isExactContentPath u path = true
  merged : ∀ content ∈ context.mergedContent, validFingerprint content = true

theorem option_all_iff {α : Type} {p : α → Bool} {o : Option α} :
    o.all p = true ↔ ∀ a ∈ o, p a = true := by
  cases o with
  | none => simp
  | some a => simp

theorem validateContext_eq_ok {u : Unicode} {context : MaterializationContext} :
    validateContext u context = .ok () ↔ ValidContext u context := by
  simp only [validateContext, reject_eq_ok, not_or, Bool.not_eq_true', Bool.not_eq_false,
    option_all_iff, List.all_eq_true]
  constructor
  · rintro ⟨h₁, h₂, h₃, h₄, h₅, h₆, h₇, h₈, h₉, hsources, htargets, h₁₂, h₁₃⟩
    exact ⟨h₁, h₂, h₃, h₄, h₅, h₆, h₇, h₈, h₉, fun source hmem => hsources _ hmem source rfl,
      fun target hmem => htargets _ hmem target rfl, h₁₂, h₁₃⟩
  · rintro ⟨h₁, h₂, h₃, h₄, h₅, h₆, h₇, h₈, h₉, hsources, htargets, h₁₂, h₁₃⟩
    refine ⟨h₁, h₂, h₃, h₄, h₅, h₆, h₇, h₈, h₉, fun option hmem source hsource => ?_,
      fun option hmem target htarget => ?_, h₁₂, h₁₃⟩
    · exact hsources source (hsource ▸ hmem)
    · exact htargets target (htarget ▸ hmem)

/-- The checks of a source, one by one. -/
structure ValidSource (u : Unicode) (source : PublicationSource) : Prop where
  path : isExactContentPath u source.portablePath = true
  parentId : isRemoteId source.parentId = true
  objectId : isRemoteId source.objectId = true
  content : validFingerprint source.content = true

theorem isValid_source_iff {u : Unicode} {source : PublicationSource} :
    source.isValid u = true ↔ ValidSource u source := by
  rw [PublicationSource.isValid, Bool.and_eq_true, Bool.and_eq_true, Bool.and_eq_true]
  exact ⟨fun ⟨⟨⟨h₁, h₂⟩, h₃⟩, h₄⟩ => ⟨h₁, h₂, h₃, h₄⟩,
    fun ⟨h₁, h₂, h₃, h₄⟩ => ⟨⟨⟨h₁, h₂⟩, h₃⟩, h₄⟩⟩

namespace ValidContext

variable {u : Unicode} {context : MaterializationContext}

theorem base_valid (h : ValidContext u context) {source : PublicationSource}
    (hsource : context.base = some source) : ValidSource u source :=
  isValid_source_iff.mp (h.source source (by simp [MaterializationContext.sources, hsource]))

theorem local_valid (h : ValidContext u context) {source : PublicationSource}
    (hsource : context.localSource = some source) : ValidSource u source :=
  isValid_source_iff.mp (h.source source (by simp [MaterializationContext.sources, hsource]))

theorem remote_valid (h : ValidContext u context) {source : PublicationSource}
    (hsource : context.remote = some source) : ValidSource u source :=
  isValid_source_iff.mp (h.source source (by simp [MaterializationContext.sources, hsource]))

theorem blocked_valid (h : ValidContext u context) {source : PublicationSource}
    (hsource : context.blockedRemoteSource = some source) : ValidSource u source :=
  isValid_source_iff.mp (h.source source (by simp [MaterializationContext.sources, hsource]))

theorem target_valid (h : ValidContext u context) {target : PublicationTarget}
    (htarget : some target ∈ context.targets) :
    isExactContentPath u target.portablePath = true ∧ isRemoteId target.parentId = true := by
  have hvalid := h.target target htarget
  rw [PublicationTarget.isValid, Bool.and_eq_true, Bool.and_eq_true] at hvalid
  exact hvalid.1

end ValidContext
end Context

/-! ## The binding -/

/-- The checks of `validate_classification_binding`. -/
structure Bound (classification : ConflictPlan) (evidence : ClassificationEvidence)
    (context : MaterializationContext) : Prop where
  accountId : evidence.facts.accountId = some context.accountId
  remoteRootId : evidence.facts.remoteRootId = some context.remoteRootId
  objectIdentity : evidence.facts.objectIdentity = context.identitySource.map (·.objectId)
  identityPath :
    evidence.facts.canonicalIdentityPath = context.identitySource.map (·.portablePath)
  targetParentId : evidence.facts.targetParentId = some context.localTarget.parentId
  base : evidence.facts.base = context.base.map (·.content)
  localContent : evidence.facts.localContent = context.localSource.map (·.content)
  remote : evidence.facts.remote = context.remote.map (·.content)
  localRevision : evidence.facts.localRevision = context.localSource.bind (·.revision)
  remoteRevision : evidence.facts.remoteRevision = context.remote.bind (·.revision)
  version : evidence.facts.durableStateVersion = context.durableStateVersion
  guarded : guardedTargetMatches classification evidence.facts context = true
  merged : classification.outcome = .safeTextMergeLocal →
    evidence.verifiedMarkdownMerge = context.mergedContent

theorem validateClassificationBinding_eq_ok {classification : ConflictPlan}
    {evidence : ClassificationEvidence} {context : MaterializationContext} :
    validateClassificationBinding classification evidence context = .ok () ↔
      Bound classification evidence context := by
  rw [validateClassificationBinding, reject_eq_ok, Decidable.not_not]
  constructor
  · rintro ⟨h₁, h₂, h₃, h₄, h₅, h₆, h₇, h₈, h₉, h₁₀, h₁₁, h₁₂, h₁₃⟩
    exact ⟨h₁, h₂, h₃, h₄, h₅, h₆, h₇, h₈, h₉, h₁₀, h₁₁, h₁₂, h₁₃⟩
  · rintro ⟨h₁, h₂, h₃, h₄, h₅, h₆, h₇, h₈, h₉, h₁₀, h₁₁, h₁₂, h₁₃⟩
    exact ⟨h₁, h₂, h₃, h₄, h₅, h₆, h₇, h₈, h₉, h₁₀, h₁₁, h₁₂, h₁₃⟩

/-! ## Drafts -/

/-- The domain the operation of a draft is derived in. -/
def ConflictDraft.domain : ConflictDraft → ConflictOperationDomain
  | .localContentPublish => .localPublish
  | .mergePublish => .mergePublish
  | .conflictCopyPublish => .conflictCopy
  | .basePublish => .basePublish
  | .remoteExistingBlocked => .remoteExistingBlocked
  | .guardedLocalRename => .guardedLocalRename
  | .guardedLocalMove => .guardedLocalMove
  | .guardedLocalRenameMove => .guardedLocalRenameMove

theorem ConflictDraft.domain_injective : Function.Injective ConflictDraft.domain := by
  intro a b h
  cases a <;> cases b <;> first | rfl | cases h

section Drafted

variable (u : Unicode) (sha256 : Sha256) (newV5 : UuidV5) (outcome : ConflictOutcome)
  (context : MaterializationContext) (conflictId : String)

/-- What a required draft can become: a kind, the operation it stands for, where it comes
from and goes, and the content it expects. -/
inductive Drafted : ConflictDraft → LocalPlanKind → Option MutationOperationKind →
    Option PublicationSource → Option PublicationTarget → Option ContentFingerprint → Prop
  | localPublish {remote : PublicationSource} (hremote : context.remote = some remote) :
      Drafted .localContentPublish .localPublish (some .localPublish) (some remote)
        (some context.localTarget) (some remote.content)
  | mergePublish {content : ContentFingerprint} (hmerged : context.mergedContent = some content) :
      Drafted .mergePublish .mergePublish (some .mergePublish) context.localSource
        (some context.localTarget) (some content)
  | copyPublish {remote : PublicationSource} {name : ConflictCopyName}
      (hremote : context.remote = some remote)
      (hname : resolveConflictCopyName u sha256 (copyNameRequest context remote conflictId) =
        .create name) :
      Drafted .conflictCopyPublish .conflictCopyPublish (some .conflictCopyPublish) (some remote)
        (some (copyTarget context name)) (some remote.content)
  | copyReuse {remote : PublicationSource} {name : ConflictCopyName}
      (hremote : context.remote = some remote)
      (hname : resolveConflictCopyName u sha256 (copyNameRequest context remote conflictId) =
        .reuse name) :
      Drafted .conflictCopyPublish .conflictCopyReuseVerified none (some remote)
        (some (copyTarget context name)) (some remote.content)
  | basePublish {content : ContentFingerprint}
      (hcontent : resolvedBase outcome context = some content) :
      Drafted .basePublish .basePublish (some .basePublish) (baseSource context content)
        (some context.localTarget) (some content)
  | blocked {source : PublicationSource} {destination : PublicationTarget}
      (hsource : context.blockedRemoteSource = some source)
      (hdestination : context.blockedRemoteDestination = some destination) :
      Drafted .remoteExistingBlocked .remoteExistingBlocked (some .remoteExistingBlocked)
        (some source) (some destination) (some source.content)
  | guarded {requirement : ConflictDraft} {kind : LocalPlanKind} {target : PublicationTarget}
      (hguarded : requirement.isGuardedMetadata = true)
      (htarget : context.renameTarget = some target) :
      Drafted requirement kind none context.localSource (some target)
        (context.localSource.map (·.content))

/-- The dependency of an operation, if the cursor waits for it. -/
def dependencyKind : MutationOperationKind → Option ChangeBatchDependencyKind
  | .localPublish => some .mutation
  | .mergePublish => some .mergePublication
  | .conflictCopyPublish => some .conflictCopyPublication
  | .basePublish => some .basePublication
  | .remoteExistingBlocked => none

/-- The dependency the cursor has on a draft. -/
def MaterializationDraft.dependency (draft : MaterializationDraft) :
    Option ChangeBatchDependency :=
  (draft.durableOperationKind.bind dependencyKind).map fun kind =>
    { operationId := draft.operationId, kind }

/-- The draft of a requirement. -/
structure DraftOf (requirement : ConflictDraft) (draft : MaterializationDraft) : Prop where
  operationId : draft.operationId = deriveOperationId newV5 requirement.domain conflictId
  operationMarker : draft.operationMarker = operationMarker requirement.domain conflictId
  shape : Drafted u sha256 outcome context conflictId requirement draft.kind
    draft.durableOperationKind draft.source draft.destination draft.expectedContent

end Drafted

section Specification

variable {u : Unicode} {sha256 : Sha256} {newV5 : UuidV5} {classification : ConflictPlan}
  {context : MaterializationContext} {conflictId : String}

theorem draftOf_of_guardedMetadataDraft {requirement : ConflictDraft} {kind : LocalPlanKind}
    {drafted : MaterializationDraft × Option ChangeBatchDependency}
    (hguarded : requirement.isGuardedMetadata = true)
    (h : guardedMetadataDraft newV5 kind requirement.domain context conflictId = .ok drafted) :
    DraftOf u sha256 newV5 classification.outcome context conflictId requirement drafted.1 ∧
      drafted.2 = drafted.1.dependency := by
  rw [guardedMetadataDraft] at h
  split at h
  · cases h
  · rename_i target htarget
    cases h
    exact ⟨⟨rfl, rfl, .guarded hguarded htarget⟩, rfl⟩

/-- A requirement that succeeds gives its draft, and the dependency the draft has. -/
theorem draftOf_of_draftFor {requirement : ConflictDraft}
    {drafted : MaterializationDraft × Option ChangeBatchDependency}
    (h : draftFor u sha256 newV5 classification context conflictId requirement = .ok drafted) :
    DraftOf u sha256 newV5 classification.outcome context conflictId requirement drafted.1 ∧
      drafted.2 = drafted.1.dependency := by
  cases requirement with
  | localContentPublish =>
      rw [draftFor] at h
      split at h
      · cases h
      · rename_i remote hremote
        cases h
        exact ⟨⟨rfl, rfl, .localPublish hremote⟩, rfl⟩
  | mergePublish =>
      rw [draftFor] at h
      split at h
      · cases h
      · rename_i content hmerged
        cases h
        exact ⟨⟨rfl, rfl, .mergePublish hmerged⟩, rfl⟩
  | conflictCopyPublish =>
      rw [draftFor] at h
      split at h
      · cases h
      · rename_i remote hremote
        split at h
        · rename_i name hname
          cases h
          exact ⟨⟨rfl, rfl, .copyPublish hremote hname⟩, rfl⟩
        · rename_i name hname
          cases h
          exact ⟨⟨rfl, rfl, .copyReuse hremote hname⟩, rfl⟩
        · cases h
  | basePublish =>
      rw [draftFor] at h
      split at h
      · cases h
      · rename_i content hcontent
        cases h
        exact ⟨⟨rfl, rfl, .basePublish hcontent⟩, rfl⟩
  | remoteExistingBlocked =>
      rw [draftFor] at h
      split at h
      · rename_i source destination hsource hdestination
        cases h
        exact ⟨⟨rfl, rfl, .blocked hsource hdestination⟩, rfl⟩
      · cases h
  | guardedLocalRename => exact draftOf_of_guardedMetadataDraft rfl h
  | guardedLocalMove => exact draftOf_of_guardedMetadataDraft rfl h
  | guardedLocalRenameMove => exact draftOf_of_guardedMetadataDraft rfl h

/-! ## Plans -/

/-- What a plan takes over from its context. -/
structure CarriesContext (context : MaterializationContext) (plan : MaterializationPlan) :
    Prop where
  accountId : plan.accountId = context.accountId
  remoteRootId : plan.remoteRootId = context.remoteRootId
  baseReference : plan.baseReference = context.baseReference
  baseLocalRevision : plan.baseLocalRevision = context.baseLocalRevision
  baseRemoteRevision : plan.baseRemoteRevision = context.baseRemoteRevision
  base : plan.base = context.base
  localSource : plan.localSource = context.localSource
  remote : plan.remote = context.remote

variable (u sha256 newV5 classification context) in
/-- What a successful materialization has established. -/
structure Materializes (plan : MaterializationPlan) (evidence : ClassificationEvidence)
    (conflictId : String) : Prop extends CarriesContext context plan where
  valid : ValidContext u context
  carries : classification.classificationEvidence = some evidence
  bound : Bound classification evidence context
  derived : deriveBoundConflictId u sha256 classification evidence.facts = .ok conflictId
  drafts : List.Forall₂ (DraftOf u sha256 newV5 classification.outcome context conflictId)
    classification.drafts plan.drafts
  dependencies : plan.cursorDependencies = plan.drafts.filterMap (·.dependency)
  order : plan.executionDependencies = publicationOrder plan.drafts

/-- The dependencies are those of the drafts. -/
theorem filterMap_snd_eq {drafted : List (MaterializationDraft × Option ChangeBatchDependency)}
    (h : ∀ pair ∈ drafted, pair.2 = pair.1.dependency) :
    drafted.filterMap Prod.snd = (drafted.map Prod.fst).filterMap (·.dependency) := by
  rw [List.filterMap_map]
  exact List.filterMap_congr h

theorem materializes_of_ok {plan : MaterializationPlan}
    (h : materializeConflictPlan u sha256 newV5 classification context = .ok plan) :
    ∃ evidence conflictId,
      Materializes u sha256 newV5 classification context plan evidence conflictId := by
  rw [materializeConflictPlan, seq_eq_ok, validateContext_eq_ok] at h
  obtain ⟨hvalid, h⟩ := h
  obtain ⟨evidence, hevidence, h⟩ := bind_eq_ok.mp h
  rw [seq_eq_ok, validateClassificationBinding_eq_ok] at h
  obtain ⟨hbound, h⟩ := h
  obtain ⟨conflictId, hid, h⟩ := bind_eq_ok.mp h
  obtain ⟨drafted, hdrafted, h⟩ := bind_eq_ok.mp h
  rw [mapEach_eq_ok] at hdrafted
  cases h
  refine ⟨evidence, conflictId, ⟨rfl, rfl, rfl, rfl, rfl, rfl, rfl, rfl⟩, hvalid, ?_, hbound, hid,
    ?_, filterMap_snd_eq fun pair hpair => ?_, rfl⟩
  · rw [ConflictPlan.evidence] at hevidence
    split at hevidence
    · rename_i found hfound
      rw [hfound, Except.ok.inj hevidence]
    · cases hevidence
  · exact List.forall₂_map_right_iff.mpr (hdrafted.imp fun _ _ hfor => (draftOf_of_draftFor hfor).1)
  · obtain ⟨_, -, hfor⟩ := exists_of_mem_right hdrafted hpair
    exact (draftOf_of_draftFor hfor).2

end Specification

end Conflict
end MyVault
