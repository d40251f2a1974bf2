import MyVault.Conflict.Cells
import MyVault.Conflict.Evidence
import MyVault.Library.Program

/-!
# The conflict classifier

The second half of `conflict/classifier.rs`: which evidence an input needs, and
the plan the frozen matrix gives for it.  A `ConflictInput` carries the proof that
its evidence was accepted, so a plan is only ever made from accepted evidence.
-/

namespace MyVault
namespace Conflict

open Store Check

/-- Whether the consumer can prove guarded no-replace local publication. -/
inductive GuardedLocalCapability where
  | available
  | unavailable
  | unknown
  deriving DecidableEq, Repr

/-- Whether the guarded local replace may be drafted; `Unknown` counts as missing. -/
def GuardedLocalCapability.isAvailable : GuardedLocalCapability → Bool
  | .available => true
  | .unavailable | .unknown => false

/-- Whether the deletion of both sides is verified. -/
inductive DeletedFinalStateProof where
  | verified
  | notVerified
  deriving DecidableEq, Repr

/-- Whether a local rename or move is proved safe to carry out. -/
inductive LocalRenameGuard where
  | exactIdentityLineageAndNoCollision
  | notProven
  deriving DecidableEq, Repr

/-- Safety boundary evaluated before replay and content facts. -/
inductive BoundaryAssessment where
  | approved
  | protectedPath
  | unsupportedObjectOrTopology
  | malformedObjectMetadata
  | accountRootOrAllowlistMismatch
  | allowlistedIdentityLineageRevisionOrBaseMismatch
  deriving DecidableEq, Repr

/-- The facts of a conflict after boundary and replay precedence pass. -/
inductive ConflictCase where
  | remoteContentChanged (guardedLocalReplace : GuardedLocalCapability)
  | localContentChanged
  | nonOverlappingMarkdownChanges
  | overlappingTextChanges
  | bothBinaryChanged
  | bothChangedWithoutExactBase (guardedNoReplace : GuardedLocalCapability)
  | invalidOrAmbiguousText (guardedNoReplace : GuardedLocalCapability)
  | mergeInputExceedsBounds (guardedNoReplace : GuardedLocalCapability)
  | localDeleteRemoteEdited
  | localEditedRemoteDelete
  | bothDeleted (finalState : DeletedFinalStateProof)
  | localRenameRemoteEdited
  | localEditedRemoteRename (localRename : LocalRenameGuard)
  | sameExactRename
  | equivalentButByteDifferentRenames
  | divergentRenames
  | localMoveRemoteEdited
  | localEditedRemoteMove (localMove : LocalRenameGuard)
  | sameExactMove
  | divergentMoves
  | renameMoveCycle
  | renameMoveConflict (combinedTarget : LocalRenameGuard)
  | localMetadataChangeRemoteDelete
  | localDeleteRemoteMetadataChange
  | destinationCreatedVsMoveOrRename (guardedNoReplace : GuardedLocalCapability)
  | distinctCreatesAtEquivalentPath (guardedNoReplace : GuardedLocalCapability)
  | differentItemsMoveToSameTarget
  | duplicateRemotePath
  | childChangedWithParentChanged (resolvedLineage : LocalRenameGuard)
  | portableEquivalentDestinationCollision (guardedNoReplace : GuardedLocalCapability)
  deriving DecidableEq, Repr

/-- Why an input is no `ConflictInput`. -/
inductive ConflictInputFailure where
  | missingExactIdentity
  | invalidExactIdentity
  | invalidContentEvidence
  | invalidDurableStateVersion
  | missingMarkdownMergeProof
  | invalidReplayProof
  | missingSemanticProof
  deriving DecidableEq, Repr

/-! ## Which evidence is accepted -/

/-- The sides whose content a case needs. -/
structure RequiredContent where
  base : Bool
  localContent : Bool
  remote : Bool
  deriving DecidableEq, Repr

/-- The sides whose content a fresh case of this kind needs. -/
def requiredContent : ConflictCase → RequiredContent
  | .remoteContentChanged _ | .localContentChanged | .nonOverlappingMarkdownChanges
  | .overlappingTextChanges | .bothBinaryChanged =>
    { base := true, localContent := true, remote := true }
  | .bothChangedWithoutExactBase _ | .invalidOrAmbiguousText _ | .mergeInputExceedsBounds _
  | .destinationCreatedVsMoveOrRename _ | .distinctCreatesAtEquivalentPath _
  | .portableEquivalentDestinationCollision _ =>
    { base := false, localContent := true, remote := true }
  | .localDeleteRemoteEdited | .localRenameRemoteEdited | .localMoveRemoteEdited =>
    { base := false, localContent := false, remote := true }
  | .localEditedRemoteDelete | .localEditedRemoteRename _ =>
    { base := false, localContent := true, remote := false }
  | _ => { base := false, localContent := false, remote := false }

/-- The content that is required is there. -/
def requireContent (facts : ClassificationEvidenceFacts) (required : RequiredContent) :
    Except ConflictInputFailure Unit :=
  if (required.base && facts.base.isNone) || (required.localContent && facts.localContent.isNone) ||
      (required.remote && facts.remote.isNone) then
    .error .invalidContentEvidence
  else .ok ()

/-- The content a replay needs in place of the predicates of its case. -/
def replayRequired : ReplayAssessment → RequiredContent
  | .verifiedNotApplied _ .guardedLocalReplace | .verifiedNotApplied _ .guardedConflictCopy =>
    { base := false, localContent := false, remote := true }
  | _ => { base := false, localContent := false, remote := false }

/-- The content predicate of a fresh case. -/
def contentPredicate (facts : ClassificationEvidenceFacts) : ConflictCase → Bool
  | .remoteContentChanged _ => facts.localContent == facts.base && facts.remote != facts.base
  | .localContentChanged => facts.remote == facts.base && facts.localContent != facts.base
  | .nonOverlappingMarkdownChanges | .overlappingTextChanges | .bothBinaryChanged =>
    facts.localContent != facts.base && facts.remote != facts.base
  | .bothChangedWithoutExactBase _ =>
    facts.base.isNone && facts.localContent.isSome && facts.remote.isSome
  | .invalidOrAmbiguousText _ | .mergeInputExceedsBounds _ =>
    facts.localContent.isSome && facts.remote.isSome &&
      (facts.base.isNone || facts.localContent != facts.base || facts.remote != facts.base)
  | _ => true

/-- A fresh case must fit the content of the facts; a replayed one only has the sides it needs. -/
def validateContentPredicates (facts : ClassificationEvidenceFacts) (replay : ReplayAssessment)
    (case : ConflictCase) : Except ConflictInputFailure Unit :=
  match replay with
  | .fresh => if contentPredicate facts case then .ok () else .error .invalidContentEvidence
  | _ => requireContent facts (replayRequired replay)

/-- The cases that rename or move the local file under a guard. -/
def caseRequiresGuardedTarget : ConflictCase → Bool
  | .localEditedRemoteRename .exactIdentityLineageAndNoCollision
  | .localEditedRemoteMove .exactIdentityLineageAndNoCollision
  | .renameMoveConflict .exactIdentityLineageAndNoCollision
  | .childChangedWithParentChanged .exactIdentityLineageAndNoCollision => true
  | _ => false

/-- The proof of a rename or move is about the object and the state of the facts. -/
def semanticTargetMatches (proof : Option VerifiedSemanticTarget)
    (facts : ClassificationEvidenceFacts) : Bool :=
  proof.any fun proof =>
    facts.accountId == some proof.accountId && facts.remoteRootId == some proof.remoteRootId &&
      facts.objectIdentity == some proof.objectIdentity &&
      facts.durableStateVersion == proof.durableStateVersion && proof.target != ""

/-- The retry that the assessment proposes is of the kind of the prior operation. -/
def replayOperationMatches (replay : ReplayAssessment) (kind : MutationOperationKind) : Bool :=
  match replay with
  | .verifiedNotApplied _ .guardedLocalReplace => kind == .localPublish
  | .verifiedNotApplied _ .guardedConflictCopy => kind == .conflictCopyPublish
  | .verifiedNotApplied _ .remoteExistingMutationBlocked => kind == .remoteExistingBlocked
  | _ => true

/-- The snapshot of the prior operation is that of the facts, up to what the operation was to
change. -/
def replaySnapshotMatches (facts : ClassificationEvidenceFacts) (proof : ReplayProof) : Bool :=
  let identityMatches := proof.accountId == facts.accountId &&
    proof.remoteRootId == facts.remoteRootId && proof.objectIdentity == facts.objectIdentity &&
    proof.identityPath == facts.canonicalIdentityPath &&
    proof.targetParentId == facts.targetParentId
  let priorBaseMatchesCurrent := proof.baseSha256 == facts.base.map (·.sha256) &&
    proof.baseByteLength == facts.base.map (·.byteLength)
  let baseMatches :=
    if proof.disposition = .verifiedAppliedExactPostState ∧ proof.operationKind = .basePublish then
      true
    else priorBaseMatchesCurrent
  let payloadMatches :=
    match proof.operationKind with
    | .localPublish | .conflictCopyPublish => proof.expectedLocalContent == facts.remote
    | .mergePublish => proof.expectedLocalContent.isSome
    | .basePublish => proof.expectedLocalContent == facts.base
    | .remoteExistingBlocked => true
  let remoteMatches := proof.expectedRemoteContent.isNone ||
    proof.expectedRemoteContent == facts.remote
  let tupleMatches := baseMatches && proof.localRevision == facts.localRevision &&
    proof.remoteRevision == facts.remoteRevision && payloadMatches && remoteMatches
  let exactPostStateMatches :=
    proof.disposition != .verifiedAppliedExactPostState ||
      match proof.operationKind with
      | .localPublish | .mergePublish => facts.localContent == proof.expectedLocalContent
      | .conflictCopyPublish | .remoteExistingBlocked => true
      | .basePublish => facts.base == proof.expectedLocalContent
  identityMatches &&
    if proof.disposition = .queuedIntentCapturedBaseChanged then !tupleMatches
    else tupleMatches && exactPostStateMatches

/-- The proof a replay carries, with the disposition it has to have. -/
def ReplayAssessment.proof : ReplayAssessment → Option (ReplayProof × ReplayDisposition)
  | .fresh => none
  | .verifiedAppliedExactPostState proof => some (proof, .verifiedAppliedExactPostState)
  | .verifiedNotApplied proof _ => some (proof, .verifiedNotApplied)
  | .sideEffectOutcomeUnknown proof => some (proof, .sideEffectOutcomeUnknown)
  | .queuedIntentCapturedBaseChanged proof => some (proof, .queuedIntentCapturedBaseChanged)

/-- What the assessment says of a prior operation is what the evidence is bound to. -/
def validateReplayProof (evidence : ClassificationEvidence) (replay : ReplayAssessment) :
    Except ConflictInputFailure Unit :=
  let facts := evidence.facts
  match replay.proof with
  | none =>
    if facts.priorOperationId.isNone && facts.priorOutcomeFingerprint.isNone &&
        facts.priorIntentFingerprint.isNone && facts.priorReplayDisposition.isNone then
      .ok ()
    else .error .invalidReplayProof
  | some (proof, expectedDisposition) =>
    let versionMatches :=
      if expectedDisposition = .queuedIntentCapturedBaseChanged then
        decide (proof.stateVersion ≤ facts.durableStateVersion)
      else decide (proof.stateVersion = facts.durableStateVersion)
    if proof.operationId.isNil || !versionMatches || !isLowerHex64 proof.outcomeFingerprint ||
        facts.priorOperationId != some proof.operationId ||
        facts.priorOutcomeFingerprint != some proof.outcomeFingerprint ||
        facts.priorIntentFingerprint != some proof.intentFingerprint ||
        proof.disposition != expectedDisposition ||
        facts.priorReplayDisposition != some expectedDisposition ||
        !replayOperationMatches replay proof.operationKind ||
        !replaySnapshotMatches facts proof then
      .error .invalidReplayProof
    else .ok ()

section Validation

variable (u : Unicode) (sha256 : Sha256)

/-- The target of a rename or move is well formed, and its name is free among its siblings. -/
def validGuardedTarget (target : GuardedMetadataTargetEvidence) : Bool :=
  isExactContentPath u target.portablePath && isRemoteId target.parentId &&
    !target.objectId.any (fun id => !isRemoteId id) &&
    decide (normalizedCollisionKey u sha256 target.portablePath.toList =
      .ok target.normalizedCollisionKey) &&
    decide (target.occupiedCollisionKeys.length ≤ 4096) &&
    !target.occupiedCollisionKeys.any fun key =>
      !isLowerHex64 key || key == target.normalizedCollisionKey

/-- The four identities an approved input has to name. -/
def ClassificationEvidenceFacts.exactIds (facts : ClassificationEvidenceFacts) :
    List (Option String) :=
  [facts.accountId, facts.remoteRootId, facts.objectIdentity, facts.targetParentId]

/-- The checks of `validate_classification_evidence`, in the order of the source. -/
def validateClassificationEvidence (evidence : ClassificationEvidence)
    (boundary : BoundaryAssessment) (replay : ReplayAssessment) (case : ConflictCase) :
    Except ConflictInputFailure Unit :=
  if boundary ≠ .approved then .ok ()
  else do
    let facts := evidence.facts
    reject (facts.exactIds.any fun value => value.isNone) .missingExactIdentity
    reject (facts.exactIds.any (fun value => value.any fun value => !isRemoteId value) ||
      !facts.canonicalIdentityPath.any (fun path => isExactContentPath u path) ||
      !facts.localRevision.any isLowerHex64 || !facts.remoteRevision.any isRemoteId)
      .invalidExactIdentity
    reject (facts.durableStateVersion = 0) .invalidDurableStateVersion
    reject (facts.guardedMetadataTarget.any fun target => !validGuardedTarget u sha256 target)
      .invalidExactIdentity
    reject (caseRequiresGuardedTarget case && facts.guardedMetadataTarget.isNone)
      .missingSemanticProof
    validateReplayProof evidence replay
    reject ([facts.base, facts.localContent, facts.remote, evidence.verifiedMarkdownMerge].any
      fun content => content.any fun content => !validFingerprint content) .invalidContentEvidence
    requireContent facts (requiredContent case)
    reject (replay = .fresh ∧ case = .nonOverlappingMarkdownChanges ∧
      evidence.verifiedMarkdownMerge = none) .missingMarkdownMergeProof
    validateContentPredicates facts replay case
    reject ((case = .bothDeleted .verified ∧ evidence.verifiedDeletedFinalState = false) ∨
      (case = .sameExactRename ∧ semanticTargetMatches evidence.verifiedSameRename facts = false) ∨
      (case = .sameExactMove ∧ semanticTargetMatches evidence.verifiedSameMove facts = false))
      .missingSemanticProof

/-- Complete classifier input: what was accepted, with the proof that it was. -/
structure ConflictInput where
  evidence : ClassificationEvidence
  boundary : BoundaryAssessment
  replay : ReplayAssessment
  case : ConflictCase
  accepted : validateClassificationEvidence u sha256 evidence boundary replay case = .ok ()

/-- `ConflictInput::new`. -/
def ConflictInput.new (evidence : ClassificationEvidence) (boundary : BoundaryAssessment)
    (replay : ReplayAssessment) (case : ConflictCase) :
    Except ConflictInputFailure (ConflictInput u sha256) :=
  match h : validateClassificationEvidence u sha256 evidence boundary replay case with
  | .error failure => .error failure
  | .ok () => .ok ⟨evidence, boundary, replay, case, h⟩

/-- `ConflictInput::fresh`. -/
def ConflictInput.fresh (evidence : ClassificationEvidence) (case : ConflictCase) :
    Except ConflictInputFailure (ConflictInput u sha256) :=
  ConflictInput.new u sha256 evidence .approved .fresh case

end Validation

/-! ## The plan -/

/-- Pure operation drafts: requirements, not authorization to execute. -/
inductive ConflictDraft where
  | localContentPublish
  | mergePublish
  | conflictCopyPublish
  | basePublish
  | remoteExistingBlocked
  | guardedLocalRename
  | guardedLocalMove
  | guardedLocalRenameMove
  deriving DecidableEq, Repr

/-- User data or intent that must not be discarded. -/
inductive RetainedEvidence where
  | localBytes
  | remoteBytes
  | deleteIntent
  | localRenameIntent
  | remoteRenameIntent
  | moveIntent
  | localIdentity
  | remoteIdentity
  | parentLineage
  | destinationIdentity
  | providerMetadata
  | preserveBothEvidence
  deriving DecidableEq, Repr

/-- What must be durably completed before a cursor may advance. -/
inductive CursorGate where
  | exactVerification
  | allLocalPublications
  | needsReconcile
  deriving DecidableEq, Repr

/-- The classification of a conflict: its cell, what it comes to, and what is to be published. -/
structure ConflictPlan where
  cell : ConflictCell
  outcome : ConflictOutcome
  drafts : List ConflictDraft
  retained : List RetainedEvidence
  cursorGate : CursorGate
  classificationEvidence : Option ClassificationEvidence
  deriving DecidableEq

/-- A plan that is bound to no evidence. -/
def ConflictPlan.new (cell : ConflictCell) (outcome : ConflictOutcome)
    (drafts : List ConflictDraft) (retained : List RetainedEvidence) (cursorGate : CursorGate) :
    ConflictPlan :=
  ⟨cell, outcome, drafts, retained, cursorGate, none⟩

/-- The plan, bound to the evidence it was made from. -/
def ConflictPlan.bindEvidence (plan : ConflictPlan) (evidence : ClassificationEvidence) :
    ConflictPlan :=
  { plan with classificationEvidence := some evidence }

/-- A plan that leaves the conflict to a reconciliation. -/
def needsReconcile (cell : ConflictCell) (drafts : List ConflictDraft)
    (retained : List RetainedEvidence) : ConflictPlan :=
  .new cell .needsReconcile drafts retained .needsReconcile

/-- The remote content is published as a conflict copy beside the local one. -/
def preserveBoth (cell : ConflictCell) : ConflictPlan :=
  .new cell .preserveBothLocal [.conflictCopyPublish]
    [.localBytes, .remoteBytes, .preserveBothEvidence] .allLocalPublications

/-- Both are kept where the guarded publication is available. -/
def preserveOrReconcile (cell : ConflictCell) (capability : GuardedLocalCapability) :
    ConflictPlan :=
  if capability.isAvailable then preserveBoth cell
  else needsReconcile cell [] [.localBytes, .remoteBytes, .preserveBothEvidence]

/-- `preserve_or_reconcile` with a cell for each of the two answers. -/
def preserveIfAvailable (availableCell unavailableCell : ConflictCell)
    (capability : GuardedLocalCapability) : ConflictPlan :=
  if capability.isAvailable then preserveBoth availableCell
  else needsReconcile unavailableCell [] [.localBytes, .remoteBytes, .preserveBothEvidence]

/-- The draft of a rename or move, if its guard holds. -/
def guardedDraft (guard : LocalRenameGuard) (draft : ConflictDraft) : List ConflictDraft :=
  match guard, draft with
  | .exactIdentityLineageAndNoCollision, .guardedLocalMove => [.guardedLocalMove]
  | .exactIdentityLineageAndNoCollision, .guardedLocalRenameMove => [.guardedLocalRenameMove]
  | _, _ => []

/-- The canonical matrix. -/
def classifyFreshCase : ConflictCase → ConflictPlan
  | .remoteContentChanged guardedLocalReplace =>
    if guardedLocalReplace.isAvailable then
      .new .c01 .guardedLocalReplace [.localContentPublish, .basePublish] [.remoteBytes]
        .allLocalPublications
    else needsReconcile .c01 [] [.remoteBytes]
  | .localContentChanged =>
    .new .c02 .remoteMutationBlocked [.remoteExistingBlocked] [.localBytes] .needsReconcile
  | .nonOverlappingMarkdownChanges =>
    .new .c03 .safeTextMergeLocal [.mergePublish, .basePublish, .remoteExistingBlocked]
      [.localBytes, .remoteBytes] .needsReconcile
  | .overlappingTextChanges => preserveBoth .c04
  | .bothBinaryChanged => preserveBoth .c05
  | .bothChangedWithoutExactBase guardedNoReplace =>
    preserveIfAvailable .c06a .c06b guardedNoReplace
  | .invalidOrAmbiguousText guardedNoReplace => preserveOrReconcile .c07 guardedNoReplace
  | .mergeInputExceedsBounds guardedNoReplace => preserveOrReconcile .c08 guardedNoReplace
  | .localDeleteRemoteEdited =>
    .new .c09 .needsReconcile [.localContentPublish, .basePublish, .remoteExistingBlocked]
      [.remoteBytes, .deleteIntent] .needsReconcile
  | .localEditedRemoteDelete =>
    needsReconcile .c10 [.remoteExistingBlocked] [.localBytes, .deleteIntent, .preserveBothEvidence]
  | .bothDeleted .verified =>
    .new .c11 .noOpVerified [] [.deleteIntent] .exactVerification
  | .bothDeleted .notVerified => needsReconcile .c11 [] [.deleteIntent]
  | .localRenameRemoteEdited =>
    .new .c12 .remoteMutationBlocked [.localContentPublish, .basePublish, .remoteExistingBlocked]
      [.remoteBytes, .localRenameIntent] .needsReconcile
  | .localEditedRemoteRename localRename =>
    let drafts :=
      match localRename with
      | .exactIdentityLineageAndNoCollision => [.guardedLocalRename]
      | .notProven => []
    needsReconcile .c13 drafts [.localBytes, .remoteRenameIntent]
  | .sameExactRename => .new .c14a .noOpVerified [] [.localRenameIntent] .exactVerification
  | .equivalentButByteDifferentRenames =>
    needsReconcile .c14b [] [.localRenameIntent, .remoteRenameIntent]
  | .divergentRenames => needsReconcile .c14c [] [.localRenameIntent, .remoteRenameIntent]
  | .localMoveRemoteEdited =>
    needsReconcile .c15 [.localContentPublish, .remoteExistingBlocked] [.remoteBytes, .moveIntent]
  | .localEditedRemoteMove localMove =>
    needsReconcile .c16 (guardedDraft localMove .guardedLocalMove) [.localBytes, .moveIntent]
  | .sameExactMove => .new .c17 .noOpVerified [] [.parentLineage] .exactVerification
  | .divergentMoves => needsReconcile .c18 [] [.moveIntent, .parentLineage]
  | .renameMoveCycle =>
    needsReconcile .c18 [] [.moveIntent, .localRenameIntent, .parentLineage]
  | .renameMoveConflict combinedTarget =>
    needsReconcile .c19 (guardedDraft combinedTarget .guardedLocalRenameMove)
      [.localRenameIntent, .moveIntent]
  | .localMetadataChangeRemoteDelete =>
    needsReconcile .c20 [.remoteExistingBlocked] [.localRenameIntent, .moveIntent, .deleteIntent]
  | .localDeleteRemoteMetadataChange =>
    needsReconcile .c21 [] [.deleteIntent, .remoteRenameIntent, .moveIntent, .remoteIdentity]
  | .destinationCreatedVsMoveOrRename guardedNoReplace =>
    preserveIfAvailable .c22a .c22b guardedNoReplace
  | .distinctCreatesAtEquivalentPath guardedNoReplace =>
    preserveOrReconcile .c23 guardedNoReplace
  | .differentItemsMoveToSameTarget =>
    needsReconcile .c24 [] [.localIdentity, .remoteIdentity, .destinationIdentity]
  | .duplicateRemotePath => needsReconcile .c25 [] [.remoteIdentity, .destinationIdentity]
  | .childChangedWithParentChanged resolvedLineage =>
    needsReconcile .c26 (guardedDraft resolvedLineage .guardedLocalMove)
      [.localBytes, .parentLineage]
  | .portableEquivalentDestinationCollision guardedNoReplace =>
    preserveOrReconcile .c34 guardedNoReplace

/-- What is outside the boundary is classified before anything else. -/
def classifyBoundary : BoundaryAssessment → Option ConflictPlan
  | .approved => none
  | .protectedPath =>
    some (.new .c27 .unsupportedProtected [] [.destinationIdentity] .needsReconcile)
  | .unsupportedObjectOrTopology =>
    some (.new .c28a .unsupportedProtected [] [.providerMetadata] .needsReconcile)
  | .malformedObjectMetadata =>
    some (.new .c28b .needsReconcile [] [.providerMetadata] .needsReconcile)
  | .accountRootOrAllowlistMismatch =>
    some (.new .c33a .unsupportedProtected [] [.providerMetadata] .needsReconcile)
  | .allowlistedIdentityLineageRevisionOrBaseMismatch =>
    some (.new .c33b .needsReconcile [] [.providerMetadata, .parentLineage] .needsReconcile)

/-- The plan of a retry after a verified `not applied`. -/
def classifyRetry : VerifiedNotAppliedRetry → ConflictPlan
  | .guardedLocalReplace =>
    .new .c30 .guardedLocalReplace [.localContentPublish] [] .allLocalPublications
  | .guardedConflictCopy =>
    .new .c30 .preserveBothLocal [.conflictCopyPublish] [.preserveBothEvidence]
      .allLocalPublications
  | .remoteExistingMutationBlocked =>
    .new .c30 .remoteMutationBlocked [.remoteExistingBlocked] [] .needsReconcile
  | .preconditionsChangedOrCapabilityUnavailable => needsReconcile .c30 [] []

/-- What a prior operation of the same conflict has come to, if there was one. -/
def classifyReplay : ReplayAssessment → Option ConflictPlan
  | .fresh => none
  | .verifiedAppliedExactPostState proof =>
    if proof.operationKind = .conflictCopyPublish then
      some (needsReconcile .c29 [] [.preserveBothEvidence])
    else some (.new .c29 .noOpVerified [] [] .exactVerification)
  | .verifiedNotApplied _ retry => some (classifyRetry retry)
  | .sideEffectOutcomeUnknown _ => some (needsReconcile .c31 [] [])
  | .queuedIntentCapturedBaseChanged _ =>
    some (needsReconcile .c32 [] [.localBytes, .remoteBytes])

/-- `classify_conflict`: boundary before replay before the facts of the case. -/
def classifyConflict {u : Unicode} {sha256 : Sha256} (input : ConflictInput u sha256) :
    ConflictPlan :=
  let plan :=
    match classifyBoundary input.boundary with
    | some plan => plan
    | none =>
      match classifyReplay input.replay with
      | some plan => plan
      | none => classifyFreshCase input.case
  plan.bindEvidence input.evidence

end Conflict
end MyVault
