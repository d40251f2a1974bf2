import MyVault.Conflict.Classifier
import MyVault.Store.Validation

/-!
# Materialization of a conflict plan

`conflict/materialization.rs`: a classification and the evidence of the moment become
drafts of local publications, with the cursor dependencies and the order they need,
and a draft becomes the immutable intent the store registers.

The module repeats `is_remote_id`, `is_private_reference` and `is_lower_hex_64` of the
store word for word; they are the same definitions here.
-/

namespace MyVault
namespace Conflict

open Store Check

/-- Where the bytes of a publication come from. -/
structure PublicationSource where
  portablePath : String
  parentId : String
  objectId : String
  revision : Option String
  content : ContentFingerprint
  deriving DecidableEq, Repr

/-- Where they go. -/
structure PublicationTarget where
  portablePath : String
  parentId : String
  objectId : Option String
  deriving DecidableEq, Repr

/-- What is known when a plan is made concrete: sources, targets, revisions. -/
structure MaterializationContext where
  accountId : String
  remoteRootId : String
  baseReference : Option String
  durableStateVersion : ℕ
  baseLocalRevision : Option String
  baseRemoteRevision : Option String
  base : Option PublicationSource
  localSource : Option PublicationSource
  remote : Option PublicationSource
  localTarget : PublicationTarget
  conflictCopyDestinationParentPath : Option String
  occupiedConflictCopies : List OccupiedConflictCopy
  renameTarget : Option PublicationTarget
  blockedRemoteSource : Option PublicationSource
  blockedRemoteDestination : Option PublicationTarget
  mergedContent : Option ContentFingerprint
  deriving DecidableEq, Repr

/-- What a draft does on this device. -/
inductive LocalPlanKind where
  | localPublish
  | mergePublish
  | conflictCopyPublish
  | conflictCopyReuseVerified
  | basePublish
  | remoteExistingBlocked
  | guardedLocalRename
  | guardedLocalMove
  | guardedLocalRenameMove
  deriving DecidableEq, Repr

/-- One operation of a materialized plan. -/
structure MaterializationDraft where
  operationId : Uuid
  kind : LocalPlanKind
  durableOperationKind : Option MutationOperationKind
  source : Option PublicationSource
  destination : Option PublicationTarget
  expectedContent : Option ContentFingerprint
  operationMarker : String
  deriving DecidableEq

/-- The operations that must be over before this one. -/
structure PublicationOrderDependency where
  operationId : Uuid
  prerequisites : List Uuid
  deriving DecidableEq

/-- A classification with its operations, their order, and what the cursor waits for. -/
structure MaterializationPlan where
  conflictId : String
  cell : ConflictCell
  outcome : ConflictOutcome
  cursorGate : CursorGate
  retained : List RetainedEvidence
  classificationEvidence : ClassificationEvidence
  accountId : String
  remoteRootId : String
  baseReference : Option String
  durableStateVersion : ℕ
  baseLocalRevision : Option String
  baseRemoteRevision : Option String
  base : Option PublicationSource
  localSource : Option PublicationSource
  remote : Option PublicationSource
  drafts : List MaterializationDraft
  cursorDependencies : List ChangeBatchDependency
  executionDependencies : List PublicationOrderDependency
  deriving DecidableEq

/-- Why there is no plan. -/
inductive MaterializationFailure where
  | invalidConflictId
  | missingLocalEvidence
  | missingRemoteEvidence
  | missingMergedContent
  | missingConflictCopyTarget
  | missingResolvedBase
  | missingRenameTarget
  | missingBlockedIntentEvidence
  | invalidEvidence
  | invalidRegisteredTimestamp
  | draftNotInPlan
  | classificationEvidenceMismatch
  deriving DecidableEq, Repr

section Model

variable (u : Unicode) (sha256 : Sha256) (newV5 : UuidV5)

/-! ## The context -/

/-- `PublicationSource::is_valid`. -/
def PublicationSource.isValid (source : PublicationSource) : Bool :=
  isExactContentPath u source.portablePath && isRemoteId source.parentId &&
    isRemoteId source.objectId && validFingerprint source.content

/-- `PublicationTarget::is_valid`. -/
def PublicationTarget.isValid (target : PublicationTarget) : Bool :=
  isExactContentPath u target.portablePath && isRemoteId target.parentId &&
    target.objectId.all isRemoteId

/-- The sources a context may carry. -/
def MaterializationContext.sources (context : MaterializationContext) :
    List (Option PublicationSource) :=
  [context.base, context.localSource, context.remote, context.blockedRemoteSource]

/-- The targets a context may carry. -/
def MaterializationContext.targets (context : MaterializationContext) :
    List (Option PublicationTarget) :=
  [some context.localTarget, context.renameTarget, context.blockedRemoteDestination]

/-- `validate_context`: everything the context names is well formed. -/
def validateContext (context : MaterializationContext) : Except MaterializationFailure Unit :=
  reject (context.durableStateVersion = 0 ∨ !isRemoteId context.accountId ∨
    !isRemoteId context.remoteRootId ∨ !context.baseReference.all isPrivateReference ∨
    !context.baseLocalRevision.all isLowerHex64 ∨ !context.baseRemoteRevision.all isRemoteId ∨
    !(context.localSource.bind (·.revision)).all isLowerHex64 ∨
    !context.localSource.all (fun source => isPrivateReference source.objectId) ∨
    !(context.remote.bind (·.revision)).all isRemoteId ∨
    !context.sources.all (fun source => source.all (·.isValid u)) ∨
    !context.targets.all (fun target => target.all (·.isValid u)) ∨
    !context.conflictCopyDestinationParentPath.all (isExactContentPath u) ∨
    !context.mergedContent.all validFingerprint) .invalidEvidence

/-! ## The binding to the classification -/

/-- The source the identity of the conflict is read from. -/
def MaterializationContext.identitySource (context : MaterializationContext) :
    Option PublicationSource := (context.base.or context.localSource).or context.remote

/-- The draft renames or moves the local file. -/
def ConflictDraft.isGuardedMetadata : ConflictDraft → Bool
  | .guardedLocalRename | .guardedLocalMove | .guardedLocalRenameMove => true
  | _ => false

/-- The target of a guarded draft is the one the facts were checked with. -/
def guardedTargetMatches (classification : ConflictPlan) (facts : ClassificationEvidenceFacts)
    (context : MaterializationContext) : Bool :=
  if classification.drafts.any (·.isGuardedMetadata) then
    match facts.guardedMetadataTarget, context.renameTarget with
    | some evidence, some target =>
      evidence.portablePath == target.portablePath && evidence.parentId == target.parentId &&
        evidence.objectId == target.objectId
    | _, _ => false
  else true

/-- The context is about the object and the contents that were classified. -/
def validateClassificationBinding (classification : ConflictPlan)
    (evidence : ClassificationEvidence) (context : MaterializationContext) :
    Except MaterializationFailure Unit :=
  let facts := evidence.facts
  let identitySource := context.identitySource
  reject (¬ (facts.accountId = some context.accountId ∧
    facts.remoteRootId = some context.remoteRootId ∧
    facts.objectIdentity = identitySource.map (·.objectId) ∧
    facts.canonicalIdentityPath = identitySource.map (·.portablePath) ∧
    facts.targetParentId = some context.localTarget.parentId ∧
    facts.base = context.base.map (·.content) ∧
    facts.localContent = context.localSource.map (·.content) ∧
    facts.remote = context.remote.map (·.content) ∧
    facts.localRevision = context.localSource.bind (·.revision) ∧
    facts.remoteRevision = context.remote.bind (·.revision) ∧
    facts.durableStateVersion = context.durableStateVersion ∧
    guardedTargetMatches classification facts context = true ∧
    (classification.outcome = .safeTextMergeLocal →
      evidence.verifiedMarkdownMerge = context.mergedContent)))
    .classificationEvidenceMismatch

/-- The conflict id of the facts that the classification is bound to. -/
def deriveBoundConflictId (classification : ConflictPlan) (facts : ClassificationEvidenceFacts) :
    Except MaterializationFailure String :=
  match facts.accountId, facts.remoteRootId, facts.objectIdentity, facts.canonicalIdentityPath,
    facts.targetParentId with
  | some accountId, some remoteRootId, some objectIdentity, some canonicalIdentityPath,
    some targetParentId =>
    match deriveConflictId u sha256
      { accountId, remoteRootId, objectIdentity
        cell := classification.cell
        outcome := classification.outcome
        canonicalIdentityPath, targetParentId
        base := facts.base
        localContent := facts.localContent
        remote := facts.remote
        namingVersion := conflictNamingVersion } with
    | .ok conflictId => .ok conflictId
    | .error _ => .error .invalidConflictId
  | _, _, _, _, _ => .error .classificationEvidenceMismatch

/-! ## Drafts -/

/-- A draft with a durable operation, and what the cursor waits for. -/
def durableDraft (kind : LocalPlanKind) (durableOperationKind : MutationOperationKind)
    (domain : ConflictOperationDomain) (dependencyKind : ChangeBatchDependencyKind)
    (source : Option PublicationSource) (destination : Option PublicationTarget)
    (expectedContent : Option ContentFingerprint) (conflictId : String) :
    MaterializationDraft × Option ChangeBatchDependency :=
  let operationId := deriveOperationId newV5 domain conflictId
  ({ operationId, kind
     durableOperationKind := some durableOperationKind
     source, destination, expectedContent
     operationMarker := operationMarker domain conflictId },
    some { operationId, kind := dependencyKind })

/-- The draft of a rename or move, to the target of the context. -/
def guardedMetadataDraft (kind : LocalPlanKind) (domain : ConflictOperationDomain)
    (context : MaterializationContext) (conflictId : String) :
    Except MaterializationFailure (MaterializationDraft × Option ChangeBatchDependency) :=
  match context.renameTarget with
  | none => .error .missingRenameTarget
  | some target =>
    .ok
      ({ operationId := deriveOperationId newV5 domain conflictId
         kind
         durableOperationKind := none
         source := context.localSource
         destination := some target
         expectedContent := context.localSource.map (·.content)
         operationMarker := operationMarker domain conflictId }, none)

/-- The name asked for a conflict copy of the remote content. -/
def copyNameRequest (context : MaterializationContext) (remote : PublicationSource)
    (conflictId : String) : ConflictCopyNameRequest where
  conflictId := conflictId
  sourcePath := remote.portablePath
  destinationParentPath := context.conflictCopyDestinationParentPath
  expectedContent := remote.content
  namingVersion := conflictNamingVersion
  occupied := context.occupiedConflictCopies

/-- Where a conflict copy of that name goes. -/
def copyTarget (context : MaterializationContext) (name : ConflictCopyName) :
    PublicationTarget where
  portablePath := name.destinationPath
  parentId := context.localTarget.parentId
  objectId := name.existingObjectId

/-- The content the base is resolved to; other outcomes resolve none. -/
def resolvedBase (outcome : ConflictOutcome) (context : MaterializationContext) :
    Option ContentFingerprint :=
  match outcome with
  | .safeTextMergeLocal => context.mergedContent
  | .guardedLocalReplace | .needsReconcile => context.remote.map (·.content)
  | _ => none

/-- The source of a base publication: the local target, with the resolved content. -/
def baseSource (context : MaterializationContext) (content : ContentFingerprint) :
    Option PublicationSource :=
  context.localSource.map fun localSource =>
    { portablePath := context.localTarget.portablePath
      parentId := context.localTarget.parentId
      objectId := context.localTarget.objectId.getD localSource.objectId
      revision := localSource.revision
      content }

/-- The operation for a draft of the classification. -/
def draftFor (classification : ConflictPlan) (context : MaterializationContext)
    (conflictId : String) : ConflictDraft →
      Except MaterializationFailure (MaterializationDraft × Option ChangeBatchDependency)
  | .localContentPublish =>
    match context.remote with
    | none => .error .missingRemoteEvidence
    | some remote =>
      .ok (durableDraft newV5 .localPublish .localPublish .localPublish .mutation (some remote)
        (some context.localTarget) (some remote.content) conflictId)
  | .mergePublish =>
    match context.mergedContent with
    | none => .error .missingMergedContent
    | some mergedContent =>
      .ok (durableDraft newV5 .mergePublish .mergePublish .mergePublish .mergePublication
        context.localSource (some context.localTarget) (some mergedContent) conflictId)
  | .conflictCopyPublish =>
    match context.remote with
    | none => .error .missingRemoteEvidence
    | some remote =>
      match resolveConflictCopyName u sha256 (copyNameRequest context remote conflictId) with
      | .create name =>
        .ok (durableDraft newV5 .conflictCopyPublish .conflictCopyPublish .conflictCopy
          .conflictCopyPublication (some remote) (some (copyTarget context name))
          (some remote.content) conflictId)
      | .reuse name =>
        .ok
          ({ operationId := deriveOperationId newV5 .conflictCopy conflictId
             kind := .conflictCopyReuseVerified
             durableOperationKind := none
             source := some remote
             destination := some (copyTarget context name)
             expectedContent := some remote.content
             operationMarker := operationMarker .conflictCopy conflictId }, none)
      | .needsReconcile _ => .error .missingConflictCopyTarget
  | .basePublish =>
    match resolvedBase classification.outcome context with
    | none => .error .missingResolvedBase
    | some content =>
      .ok (durableDraft newV5 .basePublish .basePublish .basePublish .basePublication
        (baseSource context content) (some context.localTarget) (some content) conflictId)
  | .remoteExistingBlocked =>
    match context.blockedRemoteSource, context.blockedRemoteDestination with
    | some source, some destination =>
      .ok
        ({ operationId := deriveOperationId newV5 .remoteExistingBlocked conflictId
           kind := .remoteExistingBlocked
           durableOperationKind := some .remoteExistingBlocked
           source := some source
           destination := some destination
           expectedContent := some source.content
           operationMarker := operationMarker .remoteExistingBlocked conflictId }, none)
    | _, _ => .error .missingBlockedIntentEvidence
  | .guardedLocalRename =>
    guardedMetadataDraft newV5 .guardedLocalRename .guardedLocalRename context conflictId
  | .guardedLocalMove =>
    guardedMetadataDraft newV5 .guardedLocalMove .guardedLocalMove context conflictId
  | .guardedLocalRenameMove =>
    guardedMetadataDraft newV5 .guardedLocalRenameMove .guardedLocalRenameMove context conflictId

/-! ## The plan -/

/-- The publications a base publication has to wait for. -/
def MaterializationDraft.isPrerequisite (draft : MaterializationDraft) : Bool :=
  draft.durableOperationKind == some .localPublish ||
    draft.durableOperationKind == some .mergePublish ||
    draft.durableOperationKind == some .conflictCopyPublish

/-- The base is published after all other publications. -/
def publicationOrder (drafts : List MaterializationDraft) : List PublicationOrderDependency :=
  let prerequisites := (drafts.filter (·.isPrerequisite)).map (·.operationId)
  drafts.map fun draft =>
    { operationId := draft.operationId
      prerequisites :=
        if draft.durableOperationKind = some .basePublish then prerequisites else [] }

/-- A reused copy is only verified: its cursor needs reconciliation. -/
def materializedGate (drafts : List MaterializationDraft) (cursorGate : CursorGate) :
    CursorGate :=
  if drafts.any fun draft => draft.kind == .conflictCopyReuseVerified then .needsReconcile
  else cursorGate

/-- The plan with its drafts filled in. -/
def materializationPlan (classification : ConflictPlan) (evidence : ClassificationEvidence)
    (context : MaterializationContext) (conflictId : String)
    (drafted : List (MaterializationDraft × Option ChangeBatchDependency)) :
    MaterializationPlan :=
  let drafts := drafted.map Prod.fst
  { conflictId
    cell := classification.cell
    outcome := classification.outcome
    cursorGate := materializedGate drafts classification.cursorGate
    retained := classification.retained
    classificationEvidence := evidence
    accountId := context.accountId
    remoteRootId := context.remoteRootId
    baseReference := context.baseReference
    durableStateVersion := context.durableStateVersion
    baseLocalRevision := context.baseLocalRevision
    baseRemoteRevision := context.baseRemoteRevision
    base := context.base
    localSource := context.localSource
    remote := context.remote
    drafts
    cursorDependencies := drafted.filterMap Prod.snd
    executionDependencies := publicationOrder drafts }

/-- Every plan the classifier returns has its evidence; without it the source panics. -/
def ConflictPlan.evidence (classification : ConflictPlan) :
    Except MaterializationFailure ClassificationEvidence :=
  match classification.classificationEvidence with
  | some evidence => .ok evidence
  | none => .error .classificationEvidenceMismatch

/-- `materialize_conflict_plan`: the checks, the conflict id, and then each draft in order. -/
def materializeConflictPlan (classification : ConflictPlan) (context : MaterializationContext) :
    Except MaterializationFailure MaterializationPlan := do
  validateContext u context
  let evidence ← classification.evidence
  validateClassificationBinding classification evidence context
  let conflictId ← deriveBoundConflictId u sha256 classification evidence.facts
  let drafted ← mapEach (draftFor u sha256 newV5 classification context conflictId)
    classification.drafts
  .ok (materializationPlan classification evidence context conflictId drafted)

/-! ## Intents -/

/-- The intent of a draft without its fingerprint. -/
def intentFields (plan : MaterializationPlan) (draft : MaterializationDraft)
    (operationKind : MutationOperationKind) (registeredAtUnixMs : ℕ) : MutationIntent where
  operationId := draft.operationId
  operationKind := operationKind
  accountId := some plan.accountId
  remoteRootId := some plan.remoteRootId
  remoteFileId := plan.remote.map (·.objectId)
  sourceParentId := draft.source.map (·.parentId)
  destinationParentId := draft.destination.map (·.parentId)
  localObjectId := plan.localSource.map (·.objectId)
  sourcePath := draft.source.map (·.portablePath)
  destinationPath := draft.destination.map (·.portablePath)
  expectedLocalRevision := plan.localSource.bind (·.revision)
  expectedRemoteRevision := plan.remote.bind (·.revision)
  baseReference := plan.baseReference
  baseLocalRevision := plan.baseLocalRevision
  baseRemoteRevision := plan.baseRemoteRevision
  baseSha256 := plan.base.map (·.content.sha256)
  baseByteLength := plan.base.map (·.content.byteLength)
  expectedLocalSha256 := draft.expectedContent.map (·.sha256)
  expectedLocalByteLength := draft.expectedContent.map (·.byteLength)
  expectedRemoteSha256 := plan.remote.map (·.content.sha256)
  expectedRemoteByteLength := plan.remote.map (·.content.byteLength)
  operationMarker := draft.operationMarker
  intentFingerprint := ""
  registeredAtUnixMs := registeredAtUnixMs

/-- The intent of a draft, with its fingerprint. -/
def intentOf (plan : MaterializationPlan) (draft : MaterializationDraft)
    (operationKind : MutationOperationKind) (registeredAtUnixMs : ℕ) : MutationIntent :=
  let intent := intentFields plan draft operationKind registeredAtUnixMs
  { intent with intentFingerprint := intent.canonicalFingerprint sha256 }

/-- The intent to register for a draft of the plan, if it has a durable operation. -/
def mutationIntentFromDraft (plan : MaterializationPlan) (draft : MaterializationDraft)
    (registeredAtUnixMs : ℕ) : Except MaterializationFailure (Option MutationIntent) :=
  if !fitsI64 registeredAtUnixMs then .error .invalidRegisteredTimestamp
  else if draft ∉ plan.drafts then .error .draftNotInPlan
  else
    .ok <| draft.durableOperationKind.map fun operationKind =>
      intentOf sha256 plan draft operationKind registeredAtUnixMs

end Model

end Conflict
end MyVault
