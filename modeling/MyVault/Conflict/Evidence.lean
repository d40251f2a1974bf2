import MyVault.Conflict.Identity
import MyVault.Markdown.Model
import MyVault.Store.Records

/-!
# The evidence a conflict is classified from

The first half of `conflict/classifier.rs`: the immutable facts, the proofs that
can be sealed onto them, and the replay proofs sealed from the durable records of
an earlier operation.
-/

namespace MyVault
namespace Conflict

open Store

/-- What is known of a prior operation. -/
inductive ReplayDisposition where
  | verifiedAppliedExactPostState
  | verifiedNotApplied
  | sideEffectOutcomeUnknown
  | queuedIntentCapturedBaseChanged
  deriving DecidableEq, Repr

/-- What a durable outcome proves about a prior operation. -/
structure ReplayProof where
  operationId : Uuid
  stateVersion : ℕ
  outcomeFingerprint : String
  disposition : ReplayDisposition
  operationKind : MutationOperationKind
  intentFingerprint : String
  accountId : Option String
  remoteRootId : Option String
  objectIdentity : Option String
  identityPath : Option String
  targetParentId : Option String
  baseSha256 : Option String
  baseByteLength : Option ℕ
  expectedLocalContent : Option ContentFingerprint
  expectedRemoteContent : Option ContentFingerprint
  localRevision : Option String
  remoteRevision : Option String
  deriving DecidableEq

/-- Why a durable outcome proves nothing. -/
inductive ReplayProofFailure where
  | invalidIntent
  | inconsistentDurableOutcome
  | unsupportedDisposition
  | baseDidNotChange
  deriving DecidableEq, Repr

/-- Allowlisted retry description for a prior `VerifiedNotApplied` result. -/
inductive VerifiedNotAppliedRetry where
  | guardedLocalReplace
  | guardedConflictCopy
  | remoteExistingMutationBlocked
  | preconditionsChangedOrCapabilityUnavailable
  deriving DecidableEq, Repr

/-- Prior outcome assessment. -/
inductive ReplayAssessment where
  | fresh
  | verifiedAppliedExactPostState (proof : ReplayProof)
  | verifiedNotApplied (proof : ReplayProof) (retry : VerifiedNotAppliedRetry)
  | sideEffectOutcomeUnknown (proof : ReplayProof)
  | queuedIntentCapturedBaseChanged (proof : ReplayProof)
  deriving DecidableEq

/-- The target of a rename or move, with the collision keys of its siblings. -/
structure GuardedMetadataTargetEvidence where
  portablePath : String
  parentId : String
  objectId : Option String
  normalizedCollisionKey : String
  occupiedCollisionKeys : List String
  deriving DecidableEq, Repr

/-- What was captured of the conflict: identities, contents, and the prior operation. -/
structure ClassificationEvidenceFacts where
  accountId : Option String
  remoteRootId : Option String
  objectIdentity : Option String
  canonicalIdentityPath : Option String
  targetParentId : Option String
  base : Option ContentFingerprint
  localContent : Option ContentFingerprint
  remote : Option ContentFingerprint
  localRevision : Option String
  remoteRevision : Option String
  durableStateVersion : ℕ
  priorOperationId : Option Uuid
  priorOutcomeFingerprint : Option String
  priorIntentFingerprint : Option String
  priorReplayDisposition : Option ReplayDisposition
  guardedMetadataTarget : Option GuardedMetadataTargetEvidence
  deriving DecidableEq

/-- A rename or move that both sides are verified to have made. -/
structure VerifiedSemanticTarget where
  accountId : String
  remoteRootId : String
  objectIdentity : String
  durableStateVersion : ℕ
  target : String
  deriving DecidableEq, Repr

/-- The facts, with what was verified about them. -/
structure ClassificationEvidence where
  facts : ClassificationEvidenceFacts
  verifiedMarkdownMerge : Option ContentFingerprint
  verifiedDeletedFinalState : Bool
  verifiedSameRename : Option VerifiedSemanticTarget
  verifiedSameMove : Option VerifiedSemanticTarget
  deriving DecidableEq

/-- Why a proof does not go with the facts. -/
inductive ClassificationProofFailure where
  | evidenceMismatch
  deriving DecidableEq, Repr

/-! ## Sealing -/

namespace ClassificationEvidence

/-- Facts about which nothing is verified. -/
def new (facts : ClassificationEvidenceFacts) : ClassificationEvidence where
  facts := facts
  verifiedMarkdownMerge := none
  verifiedDeletedFinalState := false
  verifiedSameRename := none
  verifiedSameMove := none

/-- The digest and the length of some bytes. -/
def fingerprintBytes (sha256 : Sha256) (bytes : List UInt8) : ContentFingerprint where
  sha256 := hexSha256 sha256 bytes
  byteLength := bytes.length

/-- Runs the Markdown engine and attaches its merged fingerprint. -/
def verifyMarkdownMerge (sha256 : Sha256) (diff : SequenceDiff Line)
    (evidence : ClassificationEvidence) (base localText remote : Text) :
    Except Markdown.MarkdownMergeIssue ClassificationEvidence :=
  if evidence.facts.base ≠ some (fingerprintBytes sha256 (utf8Bytes base)) ∨
      evidence.facts.localContent ≠ some (fingerprintBytes sha256 (utf8Bytes localText)) ∨
      evidence.facts.remote ≠ some (fingerprintBytes sha256 (utf8Bytes remote)) then
    .error .evidenceFingerprintMismatch
  else
    match Markdown.mergeMarkdownThreeWay sha256 diff base localText remote with
    | .merged m =>
      .ok
        { evidence with
          verifiedMarkdownMerge := some { sha256 := m.sha256, byteLength := m.byteLength } }
    | .preserveBoth issue => .error issue

/-- The identity and the state version are those of the facts. -/
def identifies (evidence : ClassificationEvidence)
    (accountId remoteRootId objectIdentity : String) (durableStateVersion : ℕ) : Bool :=
  evidence.facts.accountId == some accountId &&
    evidence.facts.remoteRootId == some remoteRootId &&
    evidence.facts.objectIdentity == some objectIdentity &&
    evidence.facts.durableStateVersion == durableStateVersion

/-- Seals a deleted final state of both sides. -/
def verifyDeletedFinalState (evidence : ClassificationEvidence)
    (accountId remoteRootId objectIdentity : String) (durableStateVersion : ℕ)
    (localDeleted remoteDeleted : Bool) :
    Except ClassificationProofFailure ClassificationEvidence :=
  if !evidence.identifies accountId remoteRootId objectIdentity durableStateVersion ||
      !localDeleted || !remoteDeleted then
    .error .evidenceMismatch
  else .ok { evidence with verifiedDeletedFinalState := true }

/-- Seals the equality of the intended names. -/
def verifySameRename (u : Unicode) (evidence : ClassificationEvidence)
    (accountId remoteRootId objectIdentity : String) (durableStateVersion : ℕ)
    (localIntendedPath remoteIntendedPath : String) :
    Except ClassificationProofFailure ClassificationEvidence :=
  if !evidence.identifies accountId remoteRootId objectIdentity durableStateVersion ||
      localIntendedPath != remoteIntendedPath || !isExactContentPath u localIntendedPath then
    .error .evidenceMismatch
  else
    .ok
      { evidence with
        verifiedSameRename := some
          { accountId, remoteRootId, objectIdentity, durableStateVersion
            target := localIntendedPath } }

/-- Seals the equality of the parents of a move. -/
def verifySameMove (evidence : ClassificationEvidence)
    (accountId remoteRootId objectIdentity : String) (durableStateVersion : ℕ)
    (localParentId remoteParentId : String) :
    Except ClassificationProofFailure ClassificationEvidence :=
  if !evidence.identifies accountId remoteRootId objectIdentity durableStateVersion ||
      localParentId != remoteParentId || !isRemoteId localParentId then
    .error .evidenceMismatch
  else
    .ok
      { evidence with
        verifiedSameMove := some
          { accountId, remoteRootId, objectIdentity, durableStateVersion
            target := localParentId } }

end ClassificationEvidence

/-! ## Replay proofs -/

namespace ReplayProof

/-- `bind_facts`: the binding keys of the sealed record. -/
def bindFacts (proof : ReplayProof) (facts : ClassificationEvidenceFacts) :
    ClassificationEvidenceFacts :=
  { facts with
    priorOperationId := some proof.operationId
    priorOutcomeFingerprint := some proof.outcomeFingerprint
    priorIntentFingerprint := some proof.intentFingerprint
    priorReplayDisposition := some proof.disposition }

/-- The content an intent expects: digest and length are both there or both absent. -/
def intentContentFingerprint (sha256 : Option String) (byteLength : Option ℕ) :
    Except ReplayProofFailure (Option ContentFingerprint) :=
  match sha256, byteLength with
  | none, none => .ok none
  | some sha256, some byteLength =>
    if isLowerHex64 sha256 then .ok (some { sha256, byteLength }) else .error .invalidIntent
  | _, _ => .error .invalidIntent

/-- `expected.is_none_or(|value| observed == Some(value))`. -/
def agrees {α : Type*} [BEq α] (expected observed : Option α) : Bool :=
  expected.all fun value => observed == some value

/-- What was observed after the operation is what its intent says. -/
def postStateMatchesIntent (intent : MutationIntent) (evidence : MutationVerificationEvidence) :
    Bool :=
  evidence.observedOperationMarker == some intent.operationMarker &&
    agrees intent.accountId evidence.observedAccountId &&
    agrees intent.remoteRootId evidence.observedRemoteRootId &&
    agrees intent.remoteFileId evidence.observedRemoteFileId &&
    agrees intent.destinationParentId evidence.observedParentId &&
    agrees intent.destinationPath evidence.observedPath &&
    agrees intent.expectedLocalRevision evidence.observedLocalRevision &&
    agrees intent.expectedRemoteRevision evidence.observedRemoteRevision &&
    agrees intent.expectedLocalSha256 evidence.observedSha256 &&
    agrees intent.expectedLocalByteLength evidence.observedByteLength

/-- What a proof copies from the intent. -/
def ofIntent (intent : MutationIntent) (stateVersion : ℕ) (outcomeFingerprint : String)
    (disposition : ReplayDisposition)
    (expectedLocalContent expectedRemoteContent : Option ContentFingerprint) : ReplayProof where
  operationId := intent.operationId
  stateVersion := stateVersion
  outcomeFingerprint := outcomeFingerprint
  disposition := disposition
  operationKind := intent.operationKind
  intentFingerprint := intent.intentFingerprint
  accountId := intent.accountId
  remoteRootId := intent.remoteRootId
  objectIdentity := intent.remoteFileId <|> intent.localObjectId
  identityPath := intent.sourcePath <|> intent.destinationPath
  targetParentId := intent.destinationParentId <|> intent.sourceParentId
  baseSha256 := intent.baseSha256
  baseByteLength := intent.baseByteLength
  expectedLocalContent := expectedLocalContent
  expectedRemoteContent := expectedRemoteContent
  localRevision := intent.expectedLocalRevision
  remoteRevision := intent.expectedRemoteRevision

/-- The disposition `from_r3_1` seals, if the records support one. -/
def sealedDisposition (intent : MutationIntent) (state : MutationState)
    (evidence : MutationVerificationEvidence) : Option ReplayDisposition :=
  match evidence.disposition with
  | .verifiedApplied =>
    if state.phase = .completed ∧ evidence.capturePhase = .postVerify ∧
        postStateMatchesIntent intent evidence = true then
      some .verifiedAppliedExactPostState
    else none
  | .verifiedNotApplied =>
    if state.phase = .needsReconcile ∧
        (evidence.capturePhase = .postVerify ∨ evidence.capturePhase = .reconcile) then
      some .verifiedNotApplied
    else none
  | .needsReconcile =>
    if state.phase = .needsReconcile ∧ evidence.capturePhase = .reconcile then
      some .sideEffectOutcomeUnknown
    else none
  | .retrySafe => none

/-- `from_r3_1`: seals replay evidence from the durable records. -/
def fromR31 (sha256 : Sha256) (intent : MutationIntent) (state : MutationState)
    (evidence : MutationVerificationEvidence) : Except ReplayProofFailure ReplayProof :=
  if intent.operationId ≠ state.operationId ∨ intent.operationId ≠ evidence.operationId ∨
      intent.intentFingerprint ≠ intent.canonicalFingerprint sha256 then
    .error .invalidIntent
  else do
    let expectedLocalContent ← intentContentFingerprint intent.expectedLocalSha256
      intent.expectedLocalByteLength
    let expectedRemoteContent ← intentContentFingerprint intent.expectedRemoteSha256
      intent.expectedRemoteByteLength
    if evidence.evidenceFingerprint ≠ evidence.canonicalFingerprint sha256 ∨
        state.stateVersion = 0 ∨
        state.lastEvidenceId ≠ some evidence.evidenceId ∨
        state.disposition ≠ some evidence.disposition ∨
        state.outcomeCode ≠ evidence.outcomeCode then
      .error .inconsistentDurableOutcome
    else
      match sealedDisposition intent state evidence with
      | none => .error .unsupportedDisposition
      | some disposition =>
        .ok (ofIntent intent state.stateVersion evidence.evidenceFingerprint disposition
          expectedLocalContent expectedRemoteContent)

end ReplayProof

end Conflict
end MyVault
