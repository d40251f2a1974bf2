import MyVault.Conflict.Drafts
import MyVault.Store.Completion

/-!
# Which publications can be completed

A publication is completed by evidence the store accepts for its intent.  The evidence
carries one observed digest; the store compares it with the content the intent expects
locally and with the content it expects remotely.  So a publication is completable
exactly if the two are the same (`completable_iff`), and a plan that publishes merged
content is completable exactly if that is the remote content.

## What decides

`Completable` asks for some evidence that reports the draft (`Reports`) and that the store accepts
for its intent wherever that is registered (`AcceptsApplied`).  Evidence that reports all the
intent expects can always be written down (`reportOf`); the one thing it cannot do is to have two
digests at once.  So what is left is a property of the draft: the content it expects is the remote
content (`ExpectsRemote`).

A draft the cursor waits for expects the merged content in a plan that merges, and the remote
content otherwise (`expectedContent_of_listed`).  This turns the condition into one on the
classification and the context (`MergesToRemote`), and a merge that has kept local lines misses it
(`planned_merge_is_not_completable`).
-/

namespace MyVault
namespace Conflict

open Store Check Program

/-- The evidence reports the destination, the revisions and the content of the draft. -/
structure Reports (plan : MaterializationPlan) (draft : MaterializationDraft)
    (evidence : MutationVerificationEvidence) : Prop where
  capturePhase : evidence.capturePhase = .postVerify
  disposition : evidence.disposition = .verifiedApplied
  parentId : evidence.observedParentId = draft.destination.map (·.parentId)
  path : evidence.observedPath = draft.destination.map (·.portablePath)
  localRevision : evidence.observedLocalRevision = plan.localSource.bind (·.revision)
  remoteRevision : evidence.observedRemoteRevision = plan.remote.bind (·.revision)
  sha256 : evidence.observedSha256 = draft.expectedContent.map (·.sha256)
  byteLength : evidence.observedByteLength = draft.expectedContent.map (·.byteLength)

/-- `validate_verified_applied_evidence` passes wherever the intent is registered. -/
def AcceptsApplied (intent : MutationIntent) (evidence : MutationVerificationEvidence) : Prop :=
  evidence.operationId = intent.operationId ∧
    ∀ db : Database, intent ∈ db.mutationIntents →
      exec (validateVerifiedAppliedEvidence evidence) db = (.ok (), db)

/-- Some evidence reports the draft and is accepted for its intent. -/
def Completable (sha256 : Sha256) (plan : MaterializationPlan) (draft : MaterializationDraft)
    (registeredAtUnixMs : ℕ) : Prop :=
  ∃ intent evidence, mutationIntentFromDraft sha256 plan draft registeredAtUnixMs =
    .ok (some intent) ∧ Reports plan draft evidence ∧ AcceptsApplied intent evidence

/-- The cursor waits for the draft. -/
def IsListed (plan : MaterializationPlan) (draft : MaterializationDraft) : Prop :=
  ∃ dependency ∈ plan.cursorDependencies, dependency.operationId = draft.operationId ∧
    draft.durableOperationKind = some dependency.kind.requiredOperationKind

/-- The plan publishes merged content. -/
def PublishesMerge (classification : ConflictPlan) : Prop :=
  .mergePublish ∈ classification.drafts ∨
    .basePublish ∈ classification.drafts ∧ classification.outcome = .safeTextMergeLocal

/-! ## Accepted evidence -/

theorem exec_validateVerifiedAppliedEvidence {intent : MutationIntent}
    {evidence : MutationVerificationEvidence} {db : Database}
    (hintent : intent ∈ db.mutationIntents) (hid : evidence.operationId = intent.operationId) :
    exec (validateVerifiedAppliedEvidence evidence) db = (.ok (), db) ↔
      evidence.capturePhase = .postVerify ∧ evidence.forbiddenSideEffect = false ∧
        Agrees intent evidence := by
  have hlookup : db.mutationIntents.lookup evidence.operationId = some intent :=
    Table.lookup_eq_some_iff.mpr ⟨hintent, hid.symm⟩
  simp only [validateVerifiedAppliedEvidence, exec_bind_ok, exec_reject_ok, exec_read_ok,
    exec_the_ok, exec_lift_ok, exists_and_left, exists_eq_left', exists_const, and_assoc, not_or,
    Decidable.not_not, Bool.not_eq_true, hlookup, Option.some.injEq, requireMatch_eq_ok, and_true]

/-- A database that holds one intent. -/
def Database.ofIntent (intent : MutationIntent) : Database :=
  { Database.empty with mutationIntents := ⟨[intent], List.nodup_singleton _⟩ }

theorem mem_ofIntent (intent : MutationIntent) :
    intent ∈ (Database.ofIntent intent).mutationIntents := List.mem_singleton.mpr rfl

theorem acceptsApplied_iff {intent : MutationIntent} {evidence : MutationVerificationEvidence} :
    AcceptsApplied intent evidence ↔ evidence.operationId = intent.operationId ∧
      evidence.capturePhase = .postVerify ∧ evidence.forbiddenSideEffect = false ∧
        Agrees intent evidence := by
  refine and_congr_right fun hid => ?_
  constructor
  · intro h
    exact (exec_validateVerifiedAppliedEvidence (mem_ofIntent intent) hid).mp
      (h _ (mem_ofIntent intent))
  · intro h db hintent
    exact (exec_validateVerifiedAppliedEvidence hintent hid).mpr h

/-! ## One draft -/

section Draft

variable {sha256 : Sha256} {plan : MaterializationPlan} {draft : MaterializationDraft}
  {kind : MutationOperationKind} {registeredAtUnixMs : ℕ}

theorem mutationIntentFromDraft_eq_ok (ht : fitsI64 registeredAtUnixMs = true)
    (hdraft : draft ∈ plan.drafts) (hkind : draft.durableOperationKind = some kind) :
    mutationIntentFromDraft sha256 plan draft registeredAtUnixMs =
      .ok (some (intentOf sha256 plan draft kind registeredAtUnixMs)) := by
  rw [mutationIntentFromDraft, if_neg (by simp [ht]), if_neg (not_not.mpr hdraft), hkind,
    Option.map_some]

/-- The evidence that says of the draft what its intent asks for. -/
def reportOf (plan : MaterializationPlan) (draft : MaterializationDraft) :
    MutationVerificationEvidence where
  evidenceId := draft.operationId
  operationId := draft.operationId
  attemptNumber := 0
  capturePhase := .postVerify
  disposition := .verifiedApplied
  outcomeCode := none
  observedAccountId := some plan.accountId
  observedRemoteRootId := some plan.remoteRootId
  observedRemoteFileId := plan.remote.map (·.objectId)
  observedParentId := draft.destination.map (·.parentId)
  observedPath := draft.destination.map (·.portablePath)
  observedLocalRevision := plan.localSource.bind (·.revision)
  observedRemoteRevision := plan.remote.bind (·.revision)
  observedSha256 := draft.expectedContent.map (·.sha256)
  observedByteLength := draft.expectedContent.map (·.byteLength)
  observedOperationMarker := some draft.operationMarker
  forbiddenSideEffect := false
  verifiedReceivedByteOffset := none
  resumeReference := none
  evidenceFingerprint := ""
  capturedAtUnixMs := 0

theorem reports_reportOf : Reports plan draft (reportOf plan draft) :=
  ⟨rfl, rfl, rfl, rfl, rfl, rfl, rfl, rfl⟩

/-- The content the draft expects is the remote content. -/
def ExpectsRemote (plan : MaterializationPlan) (draft : MaterializationDraft) : Prop :=
  ∀ remote ∈ plan.remote, ∀ content ∈ draft.expectedContent, content = remote.content

theorem fixes_refl {α : Type} (o : Option α) : Fixes o o := fun _ h => h

theorem agrees_reportOf (hdestination : draft.destination.isSome = true)
    (hcontent : draft.expectedContent.isSome = true) (h : ExpectsRemote plan draft) :
    Agrees (intentOf sha256 plan draft kind registeredAtUnixMs) (reportOf plan draft) := by
  obtain ⟨destination, hdestination⟩ := Option.isSome_iff_exists.mp hdestination
  obtain ⟨content, hcontent⟩ := Option.isSome_iff_exists.mp hcontent
  have hremote : Fixes (plan.remote.map (·.content)) draft.expectedContent := by
    intro value hvalue
    obtain ⟨remote, hfound, rfl⟩ := Option.map_eq_some_iff.mp hvalue
    rw [hcontent, h remote hfound content hcontent]
  have hof : ∀ {β : Type} (f : ContentFingerprint → β), Fixes
      (plan.remote.map fun remote => f remote.content) (draft.expectedContent.map f) := by
    intro β f value hvalue
    obtain ⟨remote, hfound, rfl⟩ := Option.map_eq_some_iff.mp hvalue
    rw [hremote remote.content (by rw [hfound, Option.map_some]), Option.map_some]
  refine ⟨fixes_refl _, fixes_refl _, fixes_refl _, ?_, ?_, fixes_refl _, fixes_refl _,
    fixes_refl _, fixes_refl _, hof _, hof _, rfl⟩
  · simp only [intentOf, intentFields, reportOf, hdestination, Option.map_some, Option.some_or]
    exact fixes_refl _
  · simp only [intentOf, intentFields, reportOf, hdestination, Option.map_some, Option.some_or]
    exact fixes_refl _

/-- The store compares one observed digest with both expectations. -/
theorem expectsRemote_of_agrees {evidence : MutationVerificationEvidence}
    (h : Agrees (intentOf sha256 plan draft kind registeredAtUnixMs) evidence) :
    ExpectsRemote plan draft := by
  intro remote hremote content hcontent
  have hremote : plan.remote = some remote := hremote
  have hcontent : draft.expectedContent = some content := hcontent
  have hsha :=
    (h.localSha256 content.sha256 (by simp [intentOf, intentFields, hcontent])).symm.trans
    (h.remoteSha256 remote.content.sha256 (by simp [intentOf, intentFields, hremote]))
  have hlength := (h.localByteLength content.byteLength
    (by simp [intentOf, intentFields, hcontent])).symm.trans
      (h.remoteByteLength remote.content.byteLength (by simp [intentOf, intentFields, hremote]))
  obtain ⟨_, _⟩ := content
  exact congr (congrArg ContentFingerprint.mk (Option.some.inj hsha)) (Option.some.inj hlength)

/-- A publication is completable exactly if it publishes the remote content. -/
theorem completable_iff (ht : fitsI64 registeredAtUnixMs = true) (hdraft : draft ∈ plan.drafts)
    (hkind : draft.durableOperationKind = some kind)
    (hdestination : draft.destination.isSome = true)
    (hcontent : draft.expectedContent.isSome = true) :
    Completable sha256 plan draft registeredAtUnixMs ↔ ExpectsRemote plan draft := by
  rw [Completable, mutationIntentFromDraft_eq_ok ht hdraft hkind]
  constructor
  · rintro ⟨intent, evidence, hintent, -, haccepts⟩
    obtain rfl := Option.some.inj (Except.ok.inj hintent)
    exact expectsRemote_of_agrees (acceptsApplied_iff.mp haccepts).2.2.2
  · intro h
    exact ⟨_, reportOf plan draft, rfl, reports_reportOf,
      acceptsApplied_iff.mpr ⟨rfl, rfl, rfl, agrees_reportOf hdestination hcontent h⟩⟩

end Draft

/-! ## The publications of a plan -/

section Plan

variable {u : Unicode} {sha256 : Sha256} {newV5 : UuidV5} {classification : ConflictPlan}
  {context : MaterializationContext} {plan : MaterializationPlan}

/-- The content a listed draft expects is the merged content in a plan that merges, and
the remote content otherwise. -/
theorem expectedContent_of_listed {conflictId : String} {requirement : ConflictDraft}
    {draft : MaterializationDraft}
    (hof : DraftOf u sha256 newV5 classification.outcome context conflictId requirement draft)
    {kind : ChangeBatchDependencyKind}
    (hkind : draft.durableOperationKind = some kind.requiredOperationKind) :
    draft.destination.isSome = true ∧ draft.expectedContent.isSome = true ∧
      (draft.expectedContent = context.remote.map (·.content) ∨
        (requirement = .mergePublish ∨
          requirement = .basePublish ∧ classification.outcome = .safeTextMergeLocal) ∧
        draft.expectedContent = context.mergedContent) := by
  obtain ⟨operationId, planKind, operation, source, destination, content, marker⟩ := draft
  cases hof.shape with
  | localPublish hremote => exact ⟨rfl, rfl, Or.inl (by rw [hremote, Option.map_some])⟩
  | mergePublish hmerged => exact ⟨rfl, rfl, Or.inr ⟨Or.inl rfl, hmerged.symm⟩⟩
  | copyPublish hremote hname => exact ⟨rfl, rfl, Or.inl (by rw [hremote, Option.map_some])⟩
  | copyReuse hremote hname => cases hkind
  | basePublish hcontent =>
      refine ⟨rfl, rfl, ?_⟩
      cases houtcome : classification.outcome <;> rw [houtcome] at hcontent
      case safeTextMergeLocal => exact Or.inr ⟨Or.inr ⟨rfl, rfl⟩, hcontent.symm⟩
      case guardedLocalReplace => exact Or.inl hcontent.symm
      case needsReconcile => exact Or.inl hcontent.symm
      all_goals cases hcontent
  | blocked hsource hdestination => cases kind <;> cases hkind
  | guarded hguarded htarget => cases hkind

/-- The merged content, where the plan publishes it, is the remote content. -/
def MergesToRemote (classification : ConflictPlan) (context : MaterializationContext) : Prop :=
  PublishesMerge classification →
    ∀ remote ∈ context.remote, context.mergedContent = some remote.content

/-- A draft whose requirement publishes the merged content. -/
theorem exists_merge_draft {evidence : ClassificationEvidence} {conflictId : String}
    (h : Materializes u sha256 newV5 classification context plan evidence conflictId)
    (hmerge : PublishesMerge classification) :
    ∃ draft ∈ plan.drafts, IsListed plan draft ∧ draft.expectedContent.isSome = true ∧
      draft.expectedContent = context.mergedContent ∧ draft.destination.isSome = true := by
  have hlisted : ∀ {draft : MaterializationDraft} {dependency : ChangeBatchDependency},
      draft ∈ plan.drafts → draft.dependency = some dependency →
        dependency ∈ plan.cursorDependencies := by
    intro draft dependency hdraft hdependency
    rw [h.dependencies]
    exact List.mem_filterMap.mpr ⟨draft, hdraft, hdependency⟩
  rcases hmerge with hmerge | ⟨hbase, houtcome⟩
  · obtain ⟨draft, hdraft, hof⟩ := exists_of_mem_left h.drafts hmerge
    obtain ⟨operationId, planKind, operation, source, destination, content, marker⟩ := draft
    cases hof.shape with
    | mergePublish hmerged =>
        exact ⟨_, hdraft, ⟨_, hlisted hdraft rfl, rfl, rfl⟩, rfl, hmerged.symm, rfl⟩
    | guarded hguarded htarget => cases hguarded
  · obtain ⟨draft, hdraft, hof⟩ := exists_of_mem_left h.drafts hbase
    obtain ⟨operationId, planKind, operation, source, destination, content, marker⟩ := draft
    cases hof.shape with
    | basePublish hcontent =>
        rw [houtcome] at hcontent
        exact ⟨_, hdraft, ⟨_, hlisted hdraft rfl, rfl, rfl⟩, rfl, hcontent.symm, rfl⟩
    | guarded hguarded htarget => cases hguarded

theorem IsListed.durable {draft : MaterializationDraft} (h : IsListed plan draft) :
    ∃ kind : ChangeBatchDependencyKind,
      draft.durableOperationKind = some kind.requiredOperationKind := by
  obtain ⟨dependency, -, -, hkind⟩ := h
  exact ⟨dependency.kind, hkind⟩

theorem exists_ok_of_isOk {ε α : Type} {x : Except ε α} (h : x.isOk = true) :
    ∃ a, x = .ok a := by
  cases x with
  | error e => cases h
  | ok a => exact ⟨a, rfl⟩

/-- **Every publication the cursor waits for can be completed exactly if the merged
content, where the plan publishes it, is the remote content.** -/
theorem planned_publications_are_completable_iff
    (h : materializeConflictPlan u sha256 newV5 classification context = .ok plan)
    (registeredAtUnixMs : ℕ) (ht : fitsI64 registeredAtUnixMs = true) :
    (∀ draft ∈ plan.drafts, IsListed plan draft →
      Completable sha256 plan draft registeredAtUnixMs) ↔
      MergesToRemote classification context := by
  obtain ⟨evidence, conflictId, hplan⟩ := materializes_of_ok h
  have hremote : plan.remote = context.remote := hplan.remote
  constructor
  · intro hall hmerge remote hfound
    obtain ⟨draft, hdraft, hlisted, hsome, hcontent, hdestination⟩ :=
      exists_merge_draft hplan hmerge
    obtain ⟨kind, hkind⟩ := hlisted.durable
    have hcompletable := hall draft hdraft hlisted
    rw [completable_iff ht hdraft hkind hdestination hsome] at hcompletable
    obtain ⟨content, hsome⟩ := Option.isSome_iff_exists.mp hsome
    rw [← hcontent, hsome, hcompletable remote (hremote ▸ hfound) content hsome]
  · intro hmerges draft hdraft hlisted
    obtain ⟨kind, hkind⟩ := hlisted.durable
    obtain ⟨requirement, hrequirement, hof⟩ := exists_of_mem_right hplan.drafts hdraft
    obtain ⟨hdestination, hsome, hcontent⟩ := expectedContent_of_listed hof hkind
    rw [completable_iff ht hdraft hkind hdestination hsome]
    intro remote hfound content hexpected
    have hfound : context.remote = some remote := hremote ▸ hfound
    have hexpected : draft.expectedContent = some content := hexpected
    rcases hcontent with hcontent | ⟨hrequires, hcontent⟩
    · rw [hexpected, hfound, Option.map_some, Option.some.injEq] at hcontent
      exact hcontent
    · have hpublishes : PublishesMerge classification := by
        rcases hrequires with rfl | ⟨rfl, houtcome⟩
        · exact Or.inl hrequirement
        · exact Or.inr ⟨hrequirement, houtcome⟩
      rw [hmerges hpublishes remote hfound, hexpected, Option.some.injEq] at hcontent
      exact hcontent

end Plan

/-! ## A merge that cannot be completed -/

/-- The base of the note, as the toy digest has it. -/
def noteBase : ContentFingerprint where
  sha256 := "911169ddaaf146aff539f58c26c489af3b892dff0fe283c1c264c65ae5aa59a2"
  byteLength := 4

/-- The local content of the note. -/
def noteLocal : ContentFingerprint where
  sha256 := "7fb70b2c8e53af12ab5a1631e86294849c1b682d9cac55e8ca78b22da8dfb3fb"
  byteLength := 4

/-- The remote content of the note. -/
def noteRemote : ContentFingerprint where
  sha256 := "6f0b6bdc14efbd345e27a8d0e7f1c2da29aa093bb68fca6a9bd38328e0d3fa12"
  byteLength := 4

/-- The merge of the two. -/
def noteMerged : ContentFingerprint where
  sha256 := "daee1cd25194ae952d046ad9b9c81d3c07dc5332440b58d6d7461b248be56712"
  byteLength := 4

/-- A note with two lines: the first was edited locally, the second remotely. -/
def noteFacts : ClassificationEvidenceFacts where
  accountId := some "account-1"
  remoteRootId := some "root-1"
  objectIdentity := some "object-1"
  canonicalIdentityPath := some "notes/a.md"
  targetParentId := some "parent-1"
  base := some noteBase
  localContent := some noteLocal
  remote := some noteRemote
  localRevision := some noteLocal.sha256
  remoteRevision := some "revision-3"
  durableStateVersion := 1
  priorOperationId := none
  priorOutcomeFingerprint := none
  priorIntentFingerprint := none
  priorReplayDisposition := none
  guardedMetadataTarget := none

/-- The SHA-256 digests of the four texts and of the identity stream of the conflict. -/
def noteDigest : Sha256 := fun stream =>
  if stream = [0x61, 0x0a, 0x62, 0x0a] then ⟨
    [0x91, 0x11, 0x69, 0xdd, 0xaa, 0xf1, 0x46, 0xaf, 0xf5, 0x39, 0xf5,
     0x8c, 0x26, 0xc4, 0x89, 0xaf, 0x3b, 0x89, 0x2d, 0xff, 0x0f, 0xe2,
     0x83, 0xc1, 0xc2, 0x64, 0xc6, 0x5a, 0xe5, 0xaa, 0x59, 0xa2], rfl⟩
  else if stream = [0x41, 0x0a, 0x62, 0x0a] then ⟨
    [0x7f, 0xb7, 0x0b, 0x2c, 0x8e, 0x53, 0xaf, 0x12, 0xab, 0x5a, 0x16,
     0x31, 0xe8, 0x62, 0x94, 0x84, 0x9c, 0x1b, 0x68, 0x2d, 0x9c, 0xac,
     0x55, 0xe8, 0xca, 0x78, 0xb2, 0x2d, 0xa8, 0xdf, 0xb3, 0xfb], rfl⟩
  else if stream = [0x61, 0x0a, 0x42, 0x0a] then ⟨
    [0x6f, 0x0b, 0x6b, 0xdc, 0x14, 0xef, 0xbd, 0x34, 0x5e, 0x27, 0xa8,
     0xd0, 0xe7, 0xf1, 0xc2, 0xda, 0x29, 0xaa, 0x09, 0x3b, 0xb6, 0x8f,
     0xca, 0x6a, 0x9b, 0xd3, 0x83, 0x28, 0xe0, 0xd3, 0xfa, 0x12], rfl⟩
  else if stream = [0x41, 0x0a, 0x42, 0x0a] then ⟨
    [0xda, 0xee, 0x1c, 0xd2, 0x51, 0x94, 0xae, 0x95, 0x2d, 0x04, 0x6a,
     0xd9, 0xb9, 0xc8, 0x1d, 0x3c, 0x07, 0xdc, 0x53, 0x32, 0x44, 0x0b,
     0x58, 0xd6, 0xd7, 0x46, 0x1b, 0x24, 0x8b, 0xe5, 0x67, 0x12], rfl⟩
  else ⟨
    [0xa5, 0x79, 0x1b, 0x38, 0x48, 0xaf, 0xac, 0x23, 0xd1, 0x8d, 0x25,
     0x3d, 0x3c, 0x6e, 0xf7, 0x17, 0x4f, 0xa4, 0xfe, 0xd2, 0xc4, 0x7a,
     0xc6, 0x9f, 0x9d, 0x77, 0x50, 0x1d, 0x37, 0x7e, 0x77, 0x9e], rfl⟩

/-- The version-5 UUIDs of the names of its operations, told apart by their first byte. -/
def noteV5 : UuidV5 := fun _ name =>
  if name.head? = some 0x63 then ⟨
    [0x26, 0x50, 0xf1, 0x1c, 0xee, 0x91, 0x59, 0x8f, 0x9b, 0x35, 0xc2, 0x7e, 0xeb, 0x54, 0x2f,
     0x81], rfl⟩
  else if name.head? = some 0x6d then ⟨
    [0x25, 0x91, 0xe3, 0x07, 0x4d, 0xba, 0x55, 0x0b, 0xbd, 0xda, 0x3c, 0xb8, 0x8d, 0x63, 0x9f,
     0x41], rfl⟩
  else if name.head? = some 0x62 then ⟨
    [0x74, 0xc9, 0x48, 0x9e, 0x58, 0xbb, 0x5f, 0x41, 0xa7, 0x96, 0xd7, 0xec, 0x64, 0x67, 0x16,
     0x19], rfl⟩
  else if name.head? = some 0x6c then ⟨
    [0x9d, 0xd9, 0xd0, 0x70, 0x5d, 0x6c, 0x53, 0xdb, 0x87, 0x72, 0x7c, 0x9e, 0x2e, 0x73, 0xdc,
     0xfd], rfl⟩
  else ⟨
    [0xd9, 0x40, 0xe3, 0xca, 0xe7, 0x43, 0x59, 0xb8, 0x89, 0x59, 0x03, 0xc8, 0x2d, 0x5b, 0x09,
     0xef], rfl⟩

/-- The note, with a revision and a content. -/
def noteSource (revision : String) (content : ContentFingerprint) : PublicationSource where
  portablePath := "notes/a.md"
  parentId := "parent-1"
  objectId := "object-1"
  revision := some revision
  content := content

/-- The place of the note. -/
def noteTarget : PublicationTarget where
  portablePath := "notes/a.md"
  parentId := "parent-1"
  objectId := some "object-1"

/-- The evidence at hand when the conflict is materialized. -/
def noteContext : MaterializationContext where
  accountId := "account-1"
  remoteRootId := "root-1"
  baseReference := some "base-1"
  durableStateVersion := 1
  baseLocalRevision := some noteBase.sha256
  baseRemoteRevision := some "revision-1"
  base := some (noteSource "revision-1" noteBase)
  localSource := some (noteSource noteLocal.sha256 noteLocal)
  remote := some (noteSource "revision-3" noteRemote)
  localTarget := noteTarget
  conflictCopyDestinationParentPath := some "notes"
  occupiedConflictCopies := []
  renameTarget := none
  blockedRemoteSource := some (noteSource noteLocal.sha256 noteLocal)
  blockedRemoteDestination := some noteTarget
  mergedContent := some noteMerged

/-- The facts with the merge the engine has verified. -/
def noteEvidence : ClassificationEvidence :=
  { ClassificationEvidence.new noteFacts with verifiedMarkdownMerge := some noteMerged }

theorem noteEvidence_verified : ClassificationEvidence.verifyMarkdownMerge noteDigest
    SequenceDiff.trimDiff (.new noteFacts) "a\nb\n".toList "A\nb\n".toList "a\nB\n".toList =
      .ok noteEvidence := by decide +kernel

theorem noteEvidence_accepted : validateClassificationEvidence Unicode.ascii noteDigest
    noteEvidence .approved .fresh .nonOverlappingMarkdownChanges = .ok () := by decide +kernel

/-- Two changes of the note that do not overlap. -/
def noteInput : ConflictInput Unicode.ascii noteDigest :=
  ⟨noteEvidence, .approved, .fresh, .nonOverlappingMarkdownChanges, noteEvidence_accepted⟩

theorem noteInput_materializes : (materializeConflictPlan Unicode.ascii noteDigest noteV5
    (classifyConflict noteInput) noteContext).isOk = true := by decide +kernel

theorem planned_publications_are_completable_iff_note :
    ∃ plan, materializeConflictPlan Unicode.ascii noteDigest noteV5 (classifyConflict noteInput)
        noteContext = .ok plan ∧
      ((∀ draft ∈ plan.drafts, IsListed plan draft → Completable noteDigest plan draft 1) ↔
        MergesToRemote (classifyConflict noteInput) noteContext) := by
  obtain ⟨plan, hplan⟩ := exists_ok_of_isOk noteInput_materializes
  exact ⟨plan, hplan, planned_publications_are_completable_iff hplan 1 (by decide)⟩

/-- The two edits of the note are merged, and the merge is planned and never completed: the
observed digest cannot be that of the merged and of the remote text. -/
theorem planned_merge_is_not_completable :
    ∃ plan, materializeConflictPlan Unicode.ascii noteDigest noteV5 (classifyConflict noteInput)
        noteContext = .ok plan ∧
      ∃ draft ∈ plan.drafts, IsListed plan draft ∧ ¬ Completable noteDigest plan draft 1 := by
  obtain ⟨plan, hplan⟩ := exists_ok_of_isOk noteInput_materializes
  obtain ⟨evidence, conflictId, hmaterializes⟩ := materializes_of_ok hplan
  obtain ⟨draft, hdraft, hlisted, hsome, hcontent, hdestination⟩ :=
    exists_merge_draft hmaterializes (Or.inl List.mem_cons_self)
  obtain ⟨kind, hkind⟩ := hlisted.durable
  refine ⟨plan, hplan, draft, hdraft, hlisted, fun hcompletable => ?_⟩
  rw [completable_iff (by decide) hdraft hkind hdestination hsome] at hcompletable
  have hremote : plan.remote = noteContext.remote := hmaterializes.remote
  have hsame := hcompletable _ (hremote.trans rfl) _ (hcontent.trans rfl)
  exact absurd hsame (by decide)

end Conflict
end MyVault
