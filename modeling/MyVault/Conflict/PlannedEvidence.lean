import MyVault.Conflict.SealedBytes
import MyVault.Conflict.Registrable
import MyVault.Conflict.Envelopes

/-!
# The evidence of a plan

`conflict/evidence.rs`: the envelope of a plan, every code of it read off the
classification and the drafts.  The store accepts each of its fields
(`validEnvelope_of_plan`), so the envelope is recorded and read back unless

* the destination has a component that does not normalize to a component, and there is
  no collision key to write, or
* an envelope of another conflict names the copy the plan publishes.

## What recordable means

`Recordable` is the whole way of an envelope: it is built and registered, read back as it was
written, found again when it is rebuilt on another device or at another time, and nothing else is
recorded for its conflict.  Device and time are not part of the fingerprint (`envelope_rebuilt`),
which is why the second registration is the same one.

Both conditions are on the input.  `NormalizesToComponents` is about the destination in the plan:
the collision key is made of its normalized components, and the planner has checked the components
as they are.  `CopyIsUnclaimed` is about the table: the conflict itself has no envelope yet, but
one of another conflict may name the operation of the copy.
-/

namespace MyVault
namespace Conflict

open Store Check Program VaultPath

/-! ## Derived codes -/

/-- What one side has done since the base. -/
inductive SideState where
  | deleted
  | notCaptured
  | presentWithoutBase
  | unchangedFromBase
  | changedFromBase
  deriving DecidableEq, Repr

/-- Read off the contents of base and side. -/
def SideState.derive (deleted : Bool) (base side : Option ContentFingerprint) : SideState :=
  if deleted then .deleted
  else
    match base, side with
    | _, none => .notCaptured
    | none, some _ => .presentWithoutBase
    | some base, some side => if base = side then .unchangedFromBase else .changedFromBase

/-- The cells whose local side is deleted. -/
def ConflictCell.deletesLocal : ConflictCell → Bool
  | .c09 | .c11 | .c21 => true
  | _ => false

/-- The cells whose remote side is deleted. -/
def ConflictCell.deletesRemote : ConflictCell → Bool
  | .c10 | .c11 | .c20 => true
  | _ => false

/-- The code of a side's state in the evidence. -/
def SideState.asStr : SideState → String
  | .deleted => "deleted"
  | .notCaptured => "not_captured"
  | .presentWithoutBase => "present_without_base"
  | .unchangedFromBase => "unchanged_from_base"
  | .changedFromBase => "changed_from_base"

/-- What kind of content the conflict is about. -/
inductive ContentClass where
  | markdownVerified
  | text
  | binary
  | contentFingerprintOnly
  | metadataOnly
  deriving DecidableEq, Repr

/-- Read off the cell, and where it says nothing off the contents captured. -/
def ContentClass.derive (plan : MaterializationPlan) : ContentClass :=
  let facts := plan.classificationEvidence.facts
  match plan.cell with
  | .c03 => .markdownVerified
  | .c04 | .c07 | .c08 => .text
  | .c05 => .binary
  | _ =>
    if facts.base.isSome || facts.localContent.isSome || facts.remote.isSome then
      .contentFingerprintOnly
    else .metadataOnly

/-- The code of a content class in the evidence. -/
def ContentClass.asStr : ContentClass → String
  | .markdownVerified => "markdown_verified"
  | .text => "text"
  | .binary => "binary"
  | .contentFingerprintOnly => "content_fingerprint_only"
  | .metadataOnly => "metadata_only"

/-- A rename the move of the other side has made a cycle. -/
def MaterializationPlan.isRenameCycle (plan : MaterializationPlan) : Bool :=
  plan.cell == .c18 && plan.retained.contains .localRenameIntent

/-- What the conflict says about names and folders. -/
inductive LineageState where
  | exactIdentity
  | sameTarget
  | divergent
  | cycleRejected
  | destinationCollision
  | parentChanged
  deriving DecidableEq, Repr

/-- Read off the cell, but a cycle of renames comes first. -/
def LineageState.derive (plan : MaterializationPlan) : LineageState :=
  if plan.isRenameCycle then .cycleRejected
  else
    match plan.cell with
    | .c14a | .c17 => .sameTarget
    | .c14c | .c18 | .c19 => .divergent
    | .c14b | .c22a | .c22b | .c23 | .c24 | .c25 | .c34 => .destinationCollision
    | .c26 => .parentChanged
    | _ => .exactIdentity

/-- The code of a lineage in the evidence. -/
def LineageState.asStr : LineageState → String
  | .exactIdentity => "exact_identity"
  | .sameTarget => "same_target"
  | .divergent => "divergent"
  | .cycleRejected => "cycle_rejected"
  | .destinationCollision => "destination_collision"
  | .parentChanged => "parent_changed"

/-- Why the conflict cannot be resolved by itself. -/
inductive AmbiguityReason where
  | none
  | textOverlap
  | missingExactBase
  | ambiguousText
  | mergeBoundsExceeded
  | portableNameCollision
  | divergentRename
  | divergentMove
  | renameMoveConflict
  | renameMoveCycle
  | destinationCollision
  | duplicateRemotePath
  | parentLineageChanged
  deriving DecidableEq, Repr

/-- Read off the cell, but a cycle of renames comes first. -/
def AmbiguityReason.derive (plan : MaterializationPlan) : AmbiguityReason :=
  if plan.isRenameCycle then .renameMoveCycle
  else
    match plan.cell with
    | .c04 => .textOverlap
    | .c06a | .c06b => .missingExactBase
    | .c07 => .ambiguousText
    | .c08 => .mergeBoundsExceeded
    | .c14b | .c34 => .portableNameCollision
    | .c14c => .divergentRename
    | .c18 => .divergentMove
    | .c19 => .renameMoveConflict
    | .c22a | .c22b | .c23 | .c24 => .destinationCollision
    | .c25 => .duplicateRemotePath
    | .c26 => .parentLineageChanged
    | _ => .none

/-- The code of a reason in the evidence. -/
def AmbiguityReason.asStr : AmbiguityReason → String
  | .none => "none"
  | .textOverlap => "text_overlap"
  | .missingExactBase => "missing_exact_base"
  | .ambiguousText => "ambiguous_text"
  | .mergeBoundsExceeded => "merge_bounds_exceeded"
  | .portableNameCollision => "portable_name_collision"
  | .divergentRename => "divergent_rename"
  | .divergentMove => "divergent_move"
  | .renameMoveConflict => "rename_move_conflict"
  | .renameMoveCycle => "rename_move_cycle"
  | .destinationCollision => "destination_collision"
  | .duplicateRemotePath => "duplicate_remote_path"
  | .parentLineageChanged => "parent_lineage_changed"

/-- What the evidence is enough for. -/
inductive EvidenceSufficiency where
  | exact
  | preserveBothComplete
  | remoteBlockedComplete
  | reconcileComplete
  | boundaryRejected
  deriving DecidableEq, Repr

/-- Read off the outcome. -/
def EvidenceSufficiency.derive : ConflictOutcome → EvidenceSufficiency
  | .noOpVerified | .guardedLocalReplace | .safeTextMergeLocal => .exact
  | .preserveBothLocal => .preserveBothComplete
  | .remoteMutationBlocked => .remoteBlockedComplete
  | .needsReconcile => .reconcileComplete
  | .unsupportedProtected => .boundaryRejected

/-- The code of a sufficiency in the evidence. -/
def EvidenceSufficiency.asStr : EvidenceSufficiency → String
  | .exact => "exact"
  | .preserveBothComplete => "preserve_both_complete"
  | .remoteBlockedComplete => "remote_blocked_complete"
  | .reconcileComplete => "reconcile_complete"
  | .boundaryRejected => "boundary_rejected"

/-! ## The envelope -/

/-- What the caller adds to a plan for its evidence. -/
structure ConflictEvidenceInput where
  operationId : Uuid
  explanationCode : Option String
  deviceAlias : Option String
  capturedAtUnixMs : ℕ

/-- Why a plan gives no evidence. -/
inductive ConflictEvidenceFailure where
  | operationNotInPlan
  | missingDestinationEvidence
  | invalidDestinationPath
  | invalidEvidenceCode
  | invalidEvidenceReference
  deriving DecidableEq, Repr

/-- The codes are redacted ones and the time fits an `i64`. -/
def ConflictEvidenceInput.validate (input : ConflictEvidenceInput) :
    Except ConflictEvidenceFailure Unit := do
  reject (input.explanationCode.any (fun value => !isRedactedCode value) ∨
    input.deviceAlias.any (fun value => !isRedactedCode value)) .invalidEvidenceCode
  reject (!fitsI64 input.capturedAtUnixMs) .invalidEvidenceReference

/-- The durable draft of an operation. -/
def MaterializationPlan.operationDraft (plan : MaterializationPlan) (operationId : Uuid) :
    Option MaterializationDraft :=
  plan.drafts.find? fun draft =>
    draft.operationId == operationId && draft.durableOperationKind.isSome

/-- The copy the plan publishes. -/
def MaterializationPlan.conflictCopy (plan : MaterializationPlan) :
    Option MaterializationDraft :=
  plan.drafts.find? fun draft => draft.kind == .conflictCopyPublish

/-- The envelope without its fingerprint. -/
def MaterializationPlan.evidenceFields (plan : MaterializationPlan)
    (input : ConflictEvidenceInput) (destination : PublicationTarget) (collisionKey : String) :
    ConflictEvidence :=
  let facts := plan.classificationEvidence.facts
  let expectedCopy := plan.conflictCopy.bind (·.expectedContent)
  { conflictId := plan.conflictId
    operationId := input.operationId
    stableCellId := plan.cell.asStr
    localStateCode :=
      (SideState.derive plan.cell.deletesLocal facts.base facts.localContent).asStr
    remoteStateCode := (SideState.derive plan.cell.deletesRemote facts.base facts.remote).asStr
    contentClass := (ContentClass.derive plan).asStr
    lineageState := (LineageState.derive plan).asStr
    classificationCode := plan.outcome.asStr
    ambiguityReason := (AmbiguityReason.derive plan).asStr
    evidenceSufficiency := (EvidenceSufficiency.derive plan.outcome).asStr
    conflictCopyOperationId := plan.conflictCopy.map (·.operationId)
    baseEvidenceId := none
    localEvidenceId := none
    remoteEvidenceId := none
    baseSha256 := plan.base.map (·.content.sha256)
    baseByteLength := plan.base.map (·.content.byteLength)
    localSha256 := plan.localSource.map (·.content.sha256)
    localByteLength := plan.localSource.map (·.content.byteLength)
    remoteSha256 := plan.remote.map (·.content.sha256)
    remoteByteLength := plan.remote.map (·.content.byteLength)
    namingVersion := conflictNamingVersion
    normalizedCollisionKey := collisionKey
    targetParentId := destination.parentId
    expectedConflictCopySha256 := expectedCopy.map (·.sha256)
    expectedConflictCopyByteLength := expectedCopy.map (·.byteLength)
    explanationCode := input.explanationCode
    deviceAlias := input.deviceAlias
    evidenceFingerprint := ""
    capturedAtUnixMs := input.capturedAtUnixMs }

section Builder

variable (u : Unicode) (sha256 : Sha256)

/-- The envelope with its fingerprint. -/
def MaterializationPlan.envelope (plan : MaterializationPlan) (input : ConflictEvidenceInput)
    (destination : PublicationTarget) (collisionKey : String) : ConflictEvidence :=
  let evidence := plan.evidenceFields input destination collisionKey
  { evidence with evidenceFingerprint := evidence.canonicalFingerprint sha256 }

/-- `conflict_evidence_from_plan`: the row of an operation of the plan. -/
def conflictEvidenceFromPlan (plan : MaterializationPlan) (input : ConflictEvidenceInput) :
    Except ConflictEvidenceFailure ConflictEvidence := do
  input.validate
  match plan.operationDraft input.operationId with
  | none => .error .operationNotInPlan
  | some operationDraft =>
    match (plan.conflictCopy.getD operationDraft).destination with
    | none => .error .missingDestinationEvidence
    | some destination =>
      match normalizedCollisionKey u sha256 destination.portablePath.toList with
      | .error _ => .error .invalidDestinationPath
      | .ok collisionKey => .ok (plan.envelope sha256 input destination collisionKey)

end Builder

/-! ## What is asked of an envelope -/

section Recordable

variable (u : Unicode) (sha256 : Sha256)

/-- The request names explanation codes and a time the store can write. -/
structure ConflictEvidenceInput.Valid (input : ConflictEvidenceInput) : Prop where
  explanation : ∀ code ∈ input.explanationCode, isRedactedCode code = true
  device : ∀ code ∈ input.deviceAlias, isRedactedCode code = true
  captured : fitsI64 input.capturedAtUnixMs = true

/-- The two envelopes agree but for the device and the time. -/
def SameEvidence (evidence other : ConflictEvidence) : Prop :=
  other = { evidence with
    deviceAlias := other.deviceAlias
    capturedAtUnixMs := other.capturedAtUnixMs }

/-- The envelope of the plan is built and registered, it is read back as it was written, it
is found again when it is rebuilt on another device or at another time, and nothing else is
recorded for its conflict. -/
def Recordable (plan : MaterializationPlan) (input : ConflictEvidenceInput) (db : Database) :
    Prop :=
  ∃ evidence db',
    conflictEvidenceFromPlan u sha256 plan input = .ok evidence ∧
    exec (recordConflictEvidence sha256 evidence) db = (.ok .registered, db') ∧
    exec (conflictEvidence plan.conflictId) db' = (.ok (some evidence), db') ∧
    (∀ rebuilt : ConflictEvidenceInput, rebuilt.Valid →
      rebuilt.operationId = input.operationId →
      rebuilt.explanationCode = input.explanationCode →
      ∃ again, conflictEvidenceFromPlan u sha256 plan rebuilt = .ok again ∧
        exec (recordConflictEvidence sha256 again) db' = (.ok .alreadyPresent, db')) ∧
    ∀ other : ConflictEvidence, other.conflictId = plan.conflictId →
      ¬ SameEvidence evidence other →
      (sha256 other.stream = sha256 evidence.stream → other.stream = evidence.stream) →
      ∃ error, exec (recordConflictEvidence sha256 other) db' = (.error error, db')

/-- The intents of the durable drafts are registered. -/
def IntentsRegistered (db : Database) (plan : MaterializationPlan) : Prop :=
  ∀ draft ∈ plan.drafts, ∀ kind ∈ draft.durableOperationKind, ∃ intent,
    db.mutationIntents.lookup draft.operationId = some intent ∧ intent.operationKind = kind

/-- Where the envelope of an operation points: at the copy, or else where the draft goes. -/
def MaterializationPlan.evidenceDestination (plan : MaterializationPlan) (operationId : Uuid) :
    Option PublicationTarget :=
  (plan.operationDraft operationId).bind fun draft =>
    (plan.conflictCopy.getD draft).destination

/-- Every component of the destination normalizes to a component. -/
def NormalizesToComponents (plan : MaterializationPlan) (operationId : Uuid) : Prop :=
  ∀ destination ∈ plan.evidenceDestination operationId,
    ∀ component ∈ splitSlash destination.portablePath.toList,
      isNormalizedComponent u (componentCollisionKey u component) = true

/-- No envelope names the copy the plan publishes. -/
def CopyIsUnclaimed (db : Database) (plan : MaterializationPlan) : Prop :=
  ∀ copy ∈ plan.conflictCopy, ∀ row ∈ db.conflictEvidence,
    row.conflictCopyOperationId ≠ some copy.operationId

end Recordable

/-! ## The envelope of a plan is valid -/

section Valid

variable {u : Unicode} {sha256 : Sha256} {newV5 : UuidV5} {classification : ConflictPlan}
  {context : MaterializationContext} {plan : MaterializationPlan}
  {evidence : ClassificationEvidence} {input : ConflictEvidenceInput}

theorem ConflictEvidenceInput.validate_eq_ok : input.validate = .ok () ↔ input.Valid := by
  rw [ConflictEvidenceInput.validate, seq_eq_ok, reject_eq_ok, reject_eq_ok, not_or,
    Bool.not_eq_true, any_not_eq_false_iff, Bool.not_eq_true, any_not_eq_false_iff,
    Bool.not_eq_true', Bool.not_eq_false]
  exact ⟨fun ⟨⟨h₁, h₂⟩, h₃⟩ => ⟨h₁, h₂, h₃⟩, fun ⟨h₁, h₂, h₃⟩ => ⟨⟨h₁, h₂⟩, h₃⟩⟩

/-- A valid request gets its envelope exactly if the destination has a collision key. -/
theorem conflictEvidenceFromPlan_eq_ok {envelope : ConflictEvidence} :
    conflictEvidenceFromPlan u sha256 plan input = .ok envelope ↔
      input.Valid ∧ ∃ destination ∈ plan.evidenceDestination input.operationId, ∃ collisionKey,
        normalizedCollisionKey u sha256 destination.portablePath.toList = .ok collisionKey ∧
        plan.envelope sha256 input destination collisionKey = envelope := by
  rw [conflictEvidenceFromPlan, seq_eq_ok, ConflictEvidenceInput.validate_eq_ok,
    MaterializationPlan.evidenceDestination]
  refine and_congr_right fun _ => ?_
  cases plan.operationDraft input.operationId with
  | none => simp
  | some draft =>
      dsimp only
      rw [Option.bind_some]
      cases (plan.conflictCopy.getD draft).destination with
      | none => simp
      | some destination =>
          dsimp only
          cases hkey : normalizedCollisionKey u sha256 destination.portablePath.toList with
          | error failure => simp [hkey]
          | ok collisionKey => simp [hkey]

/-- A path has a collision key exactly if its components normalize to components. -/
theorem exists_normalizedCollisionKey_iff {value : String}
    (h : isExactContentPath u value = true) :
    (∃ key, normalizedCollisionKey u sha256 value.toList = .ok key) ↔
      ∀ component ∈ splitSlash value.toList,
        isNormalizedComponent u (componentCollisionKey u component) = true := by
  have hstream : ∀ components : List Text, (collisionStream u components).isSome = true ↔
      ∀ component ∈ components,
        isNormalizedComponent u (componentCollisionKey u component) = true := by
    intro components
    induction components with
    | nil => simp [collisionStream]
    | cons component rest ih =>
        rw [collisionStream, List.forall_mem_cons, ← ih]
        by_cases hcomponent : isNormalizedComponent u (componentCollisionKey u component) = true
        · simp [hcomponent]
        · simp [hcomponent]
  obtain ⟨path, hpath⟩ := Option.isSome_iff_exists.mp h
  rw [← hstream, normalizedCollisionKey, hpath]
  dsimp only
  rw [asStr_of_exactVaultPath hpath]
  cases collisionStream u (splitSlash value.toList) <;> simp

theorem isLowerHex64_of_normalizedCollisionKey {value : Text} {key : String}
    (h : normalizedCollisionKey u sha256 value = .ok key) : isLowerHex64 key = true := by
  rw [normalizedCollisionKey] at h
  split at h
  · cases h
  · split at h
    · cases h
    · cases h
      exact isLowerHex64_hexSha256 sha256 _

theorem isRedactedCode_of_isLowerHex64 {value : String} (h : isLowerHex64 value = true) :
    isRedactedCode value = true := by
  rw [isLowerHex64, Bool.and_eq_true, decide_eq_true_eq, List.all_eq_true] at h
  rw [isRedactedCode, Bool.and_eq_true, decide_eq_true_eq, List.all_eq_true]
  exact ⟨by omega, fun c hc => isIdChar_of_isLowerHexChar (h.2 c hc)⟩

/-! ### The codes are codes -/

theorem isRedactedCode_cell (cell : ConflictCell) : isRedactedCode cell.asStr = true := by
  cases cell <;> decide

theorem isRedactedCode_outcome (outcome : ConflictOutcome) :
    isRedactedCode outcome.asStr = true := by
  cases outcome <;> decide

theorem isRedactedCode_sideState (state : SideState) : isRedactedCode state.asStr = true := by
  cases state <;> decide

theorem isRedactedCode_contentClass (contentClass : ContentClass) :
    isRedactedCode contentClass.asStr = true := by
  cases contentClass <;> decide

theorem isRedactedCode_lineageState (state : LineageState) :
    isRedactedCode state.asStr = true := by
  cases state <;> decide

theorem isRedactedCode_ambiguityReason (reason : AmbiguityReason) :
    isRedactedCode reason.asStr = true := by
  cases reason <;> decide

theorem isRedactedCode_evidenceSufficiency (sufficiency : EvidenceSufficiency) :
    isRedactedCode sufficiency.asStr = true := by
  cases sufficiency <;> decide

/-! ### The drafts the envelope is read from -/

/-- A durable draft has a destination: an exact path under an identified parent. -/
theorem exists_destination (hplan : Materializes u sha256 newV5 classification context plan
      evidence plan.conflictId) {draft : MaterializationDraft} (hdraft : draft ∈ plan.drafts)
    (hdurable : draft.durableOperationKind.isSome = true) :
    ∃ destination, draft.destination = some destination ∧
      isExactContentPath u destination.portablePath = true ∧
      isRemoteId destination.parentId = true := by
  obtain ⟨requirement, -, hof⟩ := exists_of_mem_right hplan.drafts hdraft
  have hlocal := hplan.valid.localTarget_valid
  obtain ⟨operationId, kind, operation, source, destination, content, marker⟩ := draft
  cases hof.shape with
  | localPublish hremote => exact ⟨_, rfl, hlocal⟩
  | mergePublish hmerged => exact ⟨_, rfl, hlocal⟩
  | copyPublish hremote hname =>
      exact ⟨_, rfl, isExactContentPath_of_isContentPath (isContentPath_of_create hname), hlocal.2⟩
  | copyReuse hremote hname => cases hdurable
  | basePublish hcontent => exact ⟨_, rfl, hlocal⟩
  | blocked hsource hdestination =>
      exact ⟨_, rfl, hplan.valid.destination_valid hdestination⟩
  | guarded hguarded htarget => cases hdurable

/-- The copy of a plan is a durable draft that expects a content. -/
structure PublishesCopy (plan : MaterializationPlan) (copy : MaterializationDraft) : Prop where
  draft : copy ∈ plan.drafts
  kind : copy.durableOperationKind = some .conflictCopyPublish
  content : copy.expectedContent.isSome = true

theorem publishesCopy_of_conflictCopy (hplan : Materializes u sha256 newV5 classification context
      plan evidence plan.conflictId)
    (hkinds : List.Forall₂ OfKind classification.drafts plan.drafts)
    {copy : MaterializationDraft} (hcopy : plan.conflictCopy = some copy) :
    PublishesCopy plan copy := by
  have hmem : copy ∈ plan.drafts := List.mem_of_find?_eq_some hcopy
  have hkind : copy.kind = .conflictCopyPublish := by
    simpa using List.find?_some hcopy
  obtain ⟨_, -, hofKind⟩ := exists_of_mem_right hkinds hmem
  have hoperation : copy.durableOperationKind = some .conflictCopyPublish := by
    rw [hofKind.2, hkind]
    rfl
  refine ⟨hmem, hoperation, ?_⟩
  obtain ⟨requirement, -, hof⟩ := exists_of_mem_right hplan.drafts hmem
  obtain ⟨operationId, kind, operation, source, destination, content, marker⟩ := copy
  cases hof.shape with
  | copyPublish hremote hname => rfl
  | _ => cases hoperation

/-- The draft an operation of the plan is found at. -/
theorem operationDraft_mem {operationId : Uuid} {draft : MaterializationDraft}
    (h : plan.operationDraft operationId = some draft) :
    draft ∈ plan.drafts ∧ draft.operationId = operationId ∧
      draft.durableOperationKind.isSome = true := by
  have hfound := List.find?_some h
  rw [Bool.and_eq_true, beq_iff_eq] at hfound
  exact ⟨List.mem_of_find?_eq_some h, hfound⟩

theorem exists_operationDraft {draft : MaterializationDraft} (hdraft : draft ∈ plan.drafts)
    (hdurable : draft.durableOperationKind.isSome = true) :
    ∃ found, plan.operationDraft draft.operationId = some found := by
  rw [← Option.isSome_iff_exists, MaterializationPlan.operationDraft, List.find?_isSome]
  exact ⟨draft, hdraft, by simp [hdurable]⟩

/-- The destination of the envelope of an operation. -/
theorem exists_evidenceDestination (hplan : Materializes u sha256 newV5 classification context plan
      evidence plan.conflictId) (hkinds : List.Forall₂ OfKind classification.drafts plan.drafts)
    {draft : MaterializationDraft} (hdraft : draft ∈ plan.drafts)
    (hdurable : draft.durableOperationKind.isSome = true) :
    ∃ destination, plan.evidenceDestination draft.operationId = some destination ∧
      isExactContentPath u destination.portablePath = true ∧
      isRemoteId destination.parentId = true := by
  obtain ⟨found, hfound⟩ := exists_operationDraft hdraft hdurable
  rw [MaterializationPlan.evidenceDestination, hfound, Option.bind_some]
  cases hcopy : plan.conflictCopy with
  | none =>
      obtain ⟨hmem, -, hdurable⟩ := operationDraft_mem hfound
      exact exists_destination hplan hmem hdurable
  | some copy =>
      have hpublishes := publishesCopy_of_conflictCopy hplan hkinds hcopy
      exact exists_destination hplan hpublishes.draft (hpublishes.kind ▸ rfl)

theorem isNil_operationId (hnil : NeverNil newV5)
    (hplan : Materializes u sha256 newV5 classification context plan evidence plan.conflictId)
    {draft : MaterializationDraft} (hdraft : draft ∈ plan.drafts) :
    draft.operationId.isNil = false := by
  obtain ⟨requirement, -, hof⟩ := exists_of_mem_right hplan.drafts hdraft
  rw [hof.operationId]
  exact hnil _ _

/-- **The store accepts every field of the envelope of a plan.** -/
theorem validEnvelope_of_plan (hnil : NeverNil newV5)
    (hplan : Materializes u sha256 newV5 classification context plan evidence plan.conflictId)
    (hkinds : List.Forall₂ OfKind classification.drafts plan.drafts) (hinput : input.Valid)
    {draft : MaterializationDraft} (hdraft : draft ∈ plan.drafts)
    (hoperation : input.operationId = draft.operationId) {destination : PublicationTarget}
    (hparent : isRemoteId destination.parentId = true) {collisionKey : String}
    (hkey : isLowerHex64 collisionKey = true) :
    ValidEnvelope sha256 (plan.envelope sha256 input destination collisionKey) := by
  have hvalid := hplan.valid
  have hexpected : ∀ content ∈ plan.conflictCopy.bind (·.expectedContent),
      validFingerprint content = true := by
    intro content hcontent
    obtain ⟨copy, hcopy, hcontent⟩ := Option.bind_eq_some_iff.mp hcontent
    have hmem := (publishesCopy_of_conflictCopy hplan hkinds hcopy).draft
    obtain ⟨requirement, -, hof⟩ := exists_of_mem_right hplan.drafts hmem
    exact (validShape_of_drafted hvalid hof.shape).content content hcontent
  refine
    { operationId := ?_
      codes := ?_
      parentId := hparent
      explanation := hinput.explanation
      device := hinput.device
      copyId := ?_
      evidenceIds := ?_
      base := ?_
      localContent := ?_
      remote := ?_
      expectedCopy := validPair_map hexpected
      copyContent := ?_
      lowerHex := isLowerHex64_hexSha256 sha256 _
      fingerprint := rfl
      captured := hinput.captured }
  · show input.operationId.isNil = false
    rw [hoperation]
    exact isNil_operationId hnil hplan hdraft
  · have hconflict := isRedactedCode_of_isLowerHex64
      (isLowerHex64_of_deriveBoundConflictId hplan.derived)
    have hnaming : isRedactedCode conflictNamingVersion = true := by decide
    rw [ConflictEvidence.codes]
    simp only [List.forall_mem_cons]
    exact ⟨hconflict, isRedactedCode_cell _, isRedactedCode_sideState _,
      isRedactedCode_sideState _, isRedactedCode_contentClass _, isRedactedCode_lineageState _,
      isRedactedCode_outcome _, isRedactedCode_ambiguityReason _,
      isRedactedCode_evidenceSufficiency _, hnaming, isRedactedCode_of_isLowerHex64 hkey,
      List.forall_mem_nil _⟩
  · intro id hid
    obtain ⟨copy, hcopy, rfl⟩ := Option.map_eq_some_iff.mp hid
    exact isNil_operationId hnil hplan (publishesCopy_of_conflictCopy hplan hkinds hcopy).draft
  · intro id hid
    exact absurd hid (by simp [ConflictEvidence.evidenceIds, MaterializationPlan.envelope,
      MaterializationPlan.evidenceFields])
  · show ValidPair (plan.base.map (·.content.sha256)) (plan.base.map (·.content.byteLength))
    rw [hplan.base]
    exact validPair_map fun source hsource => (hvalid.base_valid hsource).content
  · show ValidPair (plan.localSource.map (·.content.sha256))
      (plan.localSource.map (·.content.byteLength))
    rw [hplan.localSource]
    exact validPair_map fun source hsource => (hvalid.local_valid hsource).content
  · show ValidPair (plan.remote.map (·.content.sha256)) (plan.remote.map (·.content.byteLength))
    rw [hplan.remote]
    exact validPair_map fun source hsource => (hvalid.remote_valid hsource).content
  · show (plan.conflictCopy.map (·.operationId)).isSome = true →
      ((plan.conflictCopy.bind (·.expectedContent)).map (·.sha256)).isSome = true
    rw [Option.isSome_map, Option.isSome_map]
    intro hsome
    obtain ⟨copy, hcopy⟩ := Option.isSome_iff_exists.mp hsome
    rw [hcopy, Option.bind_some]
    exact (publishesCopy_of_conflictCopy hplan hkinds hcopy).content

end Valid

/-! ## Recording the envelope of a plan -/

section Recording

variable {u : Unicode} {sha256 : Sha256} {newV5 : UuidV5} {classification : ConflictPlan}
  {context : MaterializationContext} {plan : MaterializationPlan}
  {input : ConflictEvidenceInput} {draft : MaterializationDraft} {db : Database}

/-- The device and the time are not part of the fingerprint. -/
theorem envelope_rebuilt {rebuilt : ConflictEvidenceInput}
    (hoperation : rebuilt.operationId = input.operationId)
    (hexplanation : rebuilt.explanationCode = input.explanationCode)
    (destination : PublicationTarget) (collisionKey : String) :
    (plan.envelope sha256 rebuilt destination collisionKey).evidenceFingerprint =
      (plan.envelope sha256 input destination collisionKey).evidenceFingerprint := by
  obtain ⟨operationId, explanationCode, deviceAlias, capturedAtUnixMs⟩ := rebuilt
  cases hoperation
  cases hexplanation
  rfl

/-- **The evidence of a plan is recordable exactly if its destination normalizes to
components and no envelope names the copy of the plan.** -/
theorem planned_evidence_is_recordable_iff (hnil : NeverNil newV5)
    (h : materializeConflictPlan u sha256 newV5 classification context = .ok plan)
    (hdraft : draft ∈ plan.drafts) (hdurable : draft.durableOperationKind.isSome = true)
    (hinput : input.Valid) (hoperation : input.operationId = draft.operationId)
    (hregistered : IntentsRegistered db plan)
    (hnew : db.conflictEvidence.lookup plan.conflictId = none) :
    Recordable u sha256 plan input db ↔
      NormalizesToComponents u plan draft.operationId ∧ CopyIsUnclaimed db plan := by
  obtain ⟨evidence, hplan, hkinds⟩ := materializes_self h
  obtain ⟨destination, hdestination, hexact, hparent⟩ :=
    exists_evidenceDestination hplan hkinds hdraft hdurable
  rw [← hoperation] at hdestination
  have hnormalizes : NormalizesToComponents u plan draft.operationId ↔ ∃ key,
      normalizedCollisionKey u sha256 destination.portablePath.toList = .ok key := by
    rw [exists_normalizedCollisionKey_iff hexact, NormalizesToComponents, ← hoperation,
      hdestination]
    simp
  have hclaim : ∀ key, CopyUnclaimed db
      (plan.envelope sha256 input destination key).conflictCopyOperationId ↔
        CopyIsUnclaimed db plan := by
    intro key
    show (∀ id ∈ plan.conflictCopy.map (·.operationId), ∀ row ∈ db.conflictEvidence,
      row.conflictCopyOperationId ≠ some id) ↔ _
    rw [CopyIsUnclaimed]
    cases plan.conflictCopy <;> simp
  constructor
  · rintro ⟨envelope, db', hbuilt, hrecorded, -⟩
    obtain ⟨-, found, hfound, key, hkey, rfl⟩ := conflictEvidenceFromPlan_eq_ok.mp hbuilt
    obtain rfl : destination = found := Option.some.inj (hdestination.symm.trans hfound)
    obtain ⟨-, -, hunclaimed, -⟩ := (exec_record_new hnew).mp hrecorded
    exact ⟨hnormalizes.mpr ⟨key, hkey⟩, (hclaim key).mp hunclaimed⟩
  · rintro ⟨hcomponents, hunclaimed⟩
    obtain ⟨key, hkey⟩ := hnormalizes.mp hcomponents
    have hhex := isLowerHex64_of_normalizedCollisionKey hkey
    have hvalid : ∀ {request : ConflictEvidenceInput}, request.Valid →
        request.operationId = input.operationId →
        ValidEnvelope sha256 (plan.envelope sha256 request destination key) :=
      fun hrequest hsame => validEnvelope_of_plan hnil hplan hkinds hrequest hdraft
        (hsame.trans hoperation) hparent hhex
    have href : Referenced db (plan.envelope sha256 input destination key) := by
      refine ⟨?_, fun id hid => ?_, fun id hid => ?_⟩
      · obtain ⟨kind, hkind⟩ := Option.isSome_iff_exists.mp hdurable
        obtain ⟨intent, hintent, -⟩ := hregistered draft hdraft kind hkind
        show (db.mutationIntents.lookup input.operationId).isSome = true
        rw [hoperation, hintent, Option.isSome_some]
      · obtain ⟨copy, hcopy, rfl⟩ := Option.map_eq_some_iff.mp hid
        have hpublishes := publishesCopy_of_conflictCopy hplan hkinds hcopy
        exact hregistered copy hpublishes.draft _ hpublishes.kind
      · exact absurd hid (by simp [ConflictEvidence.evidenceIds, MaterializationPlan.envelope,
          MaterializationPlan.evidenceFields])
    obtain ⟨table, htable⟩ : ∃ table, db.conflictEvidence.insert
        (plan.envelope sha256 input destination key) = some table := Table.exists_insert hnew
    have hlookup : table.lookup plan.conflictId =
        some (plan.envelope sha256 input destination key) := by
      rw [Table.lookup_of_insert htable]
      exact if_pos rfl
    refine ⟨_, { db with conflictEvidence := table },
      conflictEvidenceFromPlan_eq_ok.mpr ⟨hinput, destination, hdestination, key, hkey, rfl⟩,
      (exec_record_new hnew).mpr ⟨hvalid hinput rfl, href, (hclaim key).mpr hunclaimed, rfl,
        table, htable, rfl⟩, ?_, ?_, ?_⟩
    · exact exec_conflictEvidence_of_row (hvalid hinput rfl) hlookup
    · intro rebuilt hrebuilt hsame hexplanation
      refine ⟨_, conflictEvidenceFromPlan_eq_ok.mpr ⟨hrebuilt, destination,
        hsame.symm ▸ hdestination, key, hkey, rfl⟩, (exec_record_known hlookup).mpr
          ⟨hvalid hrebuilt hsame, ?_, (envelope_rebuilt hsame hexplanation _ _).symm, rfl, rfl⟩⟩
      show (db.mutationIntents.lookup rebuilt.operationId).isSome = true
      rw [hsame]
      exact href.operation
    · intro other hconflict hdiffers hcollision
      cases hrun : exec (recordConflictEvidence sha256 other)
          { db with conflictEvidence := table } with
      | mk result after =>
          cases result with
          | error error => exact ⟨error, by rw [eq_of_record_error hrun]⟩
          | ok outcome =>
              obtain ⟨hother, -, hfingerprint, -, -⟩ :=
                (exec_record_known (hconflict.symm ▸ hlookup)).mp hrun
              have hstream := hcollision (hexSha256_inj (hother.fingerprint.symm.trans
                (hfingerprint.symm.trans (hvalid hinput rfl).fingerprint)))
              exact absurd (eq_of_stream_eq (hvalid hinput rfl) hother hstream hfingerprint.symm)
                hdiffers

end Recording

/-! ## A path the planner accepts and the envelope does not -/

/-- The intents of a plan, as they are registered. -/
def plannedIntents (sha256 : Sha256) (plan : MaterializationPlan) : List MutationIntent :=
  plan.drafts.filterMap fun draft =>
    draft.durableOperationKind.map fun kind => intentOf sha256 plan draft kind 1

/-- The database with the intents of a plan and nothing else. -/
def intentsDatabase (sha256 : Sha256) (plan : MaterializationPlan)
    (h : ((plannedIntents sha256 plan).map (·.operationId)).Nodup) : Database :=
  { Database.empty with mutationIntents := ⟨plannedIntents sha256 plan, h⟩ }

theorem intentsRegistered_intentsDatabase {sha256 : Sha256} {plan : MaterializationPlan}
    (h : ((plannedIntents sha256 plan).map (·.operationId)).Nodup) :
    IntentsRegistered (intentsDatabase sha256 plan h) plan := by
  intro draft hdraft kind hkind
  refine ⟨intentOf sha256 plan draft kind 1, Table.lookup_eq_some_iff.mpr ⟨?_, rfl⟩, rfl⟩
  refine List.mem_filterMap.mpr ⟨draft, hdraft, ?_⟩
  rw [Option.mem_def.mp hkind, Option.map_some]

/-- The plan is there, registers each operation once, and has a draft of that sort. -/
def plansOnce (sha256 : Sha256) (p : MaterializationPlan → MaterializationDraft → Bool) :
    Except MaterializationFailure MaterializationPlan → Bool
  | .ok plan => decide ((plannedIntents sha256 plan).map (·.operationId)).Nodup &&
      plan.drafts.any (p plan)
  | .error _ => false

theorem exists_of_plansOnce {sha256 : Sha256}
    {p : MaterializationPlan → MaterializationDraft → Bool}
    {planned : Except MaterializationFailure MaterializationPlan}
    (h : plansOnce sha256 p planned = true) :
    ∃ plan, planned = .ok plan ∧ ((plannedIntents sha256 plan).map (·.operationId)).Nodup ∧
      ∃ draft ∈ plan.drafts, p plan draft = true := by
  cases planned with
  | error failure => cases h
  | ok plan =>
      rw [plansOnce, Bool.and_eq_true, decide_eq_true_eq, List.any_eq_true] at h
      exact ⟨plan, rfl, h⟩

theorem planned_evidence_is_recordable_iff_note :
    ∃ plan, materializeConflictPlan Unicode.ascii noteDigest noteV5 (classifyConflict noteInput)
        noteContext = .ok plan ∧
      ∃ h, ∃ draft ∈ plan.drafts,
        (Recordable Unicode.ascii noteDigest plan ⟨draft.operationId, none, some "laptop", 1⟩
          (intentsDatabase noteDigest plan h) ↔
        NormalizesToComponents Unicode.ascii plan draft.operationId ∧
          CopyIsUnclaimed (intentsDatabase noteDigest plan h) plan) := by
  have honce : plansOnce noteDigest (fun _ draft => draft.durableOperationKind.isSome)
      (materializeConflictPlan Unicode.ascii noteDigest noteV5 (classifyConflict noteInput)
        noteContext) = true := by decide +kernel
  obtain ⟨plan, hplan, hnodup, draft, hdraft, hdurable⟩ := exists_of_plansOnce honce
  refine ⟨plan, hplan, hnodup, draft, hdraft, ?_⟩
  exact planned_evidence_is_recordable_iff neverNil_noteV5 hplan hdraft hdurable
    ⟨nofun, fun code hcode => Option.some.inj hcode ▸ by decide, show fitsI64 1 = true by decide⟩
    rfl (intentsRegistered_intentsDatabase hnodup) rfl

/-- The mappings where the fullwidth colon decomposes to a colon, as it does in NFKC. -/
def Unicode.colon : Unicode :=
  { Unicode.ascii with nfkc := List.map fun c => if c = '\uff1a' then ':' else c }

/-- The note, published under a name with a fullwidth colon. -/
def colonContext : MaterializationContext :=
  { noteContext with
    localTarget := { noteTarget with portablePath := "notes/a\uff1ab.md" } }

theorem noteEvidence_accepted_colon : validateClassificationEvidence Unicode.colon noteDigest
    noteEvidence .approved .fresh .nonOverlappingMarkdownChanges = .ok () := by decide +kernel

/-- The same two changes where a colon is portable. -/
def colonInput : ConflictInput Unicode.colon noteDigest :=
  ⟨noteEvidence, .approved, .fresh, .nonOverlappingMarkdownChanges, noteEvidence_accepted_colon⟩

/-- The draft merges, its intent is one the store registers, and it has no envelope. -/
def isRefusedMerge (plan : MaterializationPlan) (draft : MaterializationDraft) : Bool :=
  draft.durableOperationKind == some .mergePublish &&
    decide (validateMutationIntent Unicode.colon noteDigest
      (intentOf noteDigest plan draft .mergePublish 1) = .ok ()) &&
    decide (conflictEvidenceFromPlan Unicode.colon noteDigest plan
      ⟨draft.operationId, none, none, 1⟩ = .error .invalidDestinationPath)

/-- The plan is materialized, its intents are registered, and its merge has no envelope. -/
theorem planned_evidence_is_refused :
    ∃ plan, materializeConflictPlan Unicode.colon noteDigest noteV5 (classifyConflict colonInput)
        colonContext = .ok plan ∧
      (∃ h, IntentsRegistered (intentsDatabase noteDigest plan h) plan ∧
        (intentsDatabase noteDigest plan h).conflictEvidence.lookup plan.conflictId = none) ∧
      ∃ draft ∈ plan.drafts, draft.durableOperationKind = some .mergePublish ∧
        validateMutationIntent Unicode.colon noteDigest
          (intentOf noteDigest plan draft .mergePublish 1) = .ok () ∧
        conflictEvidenceFromPlan Unicode.colon noteDigest plan
          ⟨draft.operationId, none, none, 1⟩ = .error .invalidDestinationPath := by
  have honce : plansOnce noteDigest isRefusedMerge (materializeConflictPlan Unicode.colon
      noteDigest noteV5 (classifyConflict colonInput) colonContext) = true := by decide +kernel
  obtain ⟨plan, hplan, hnodup, draft, hdraft, hrefused⟩ := exists_of_plansOnce honce
  rw [isRefusedMerge, Bool.and_eq_true, Bool.and_eq_true, beq_iff_eq, decide_eq_true_eq,
    decide_eq_true_eq] at hrefused
  exact ⟨plan, hplan, ⟨hnodup, intentsRegistered_intentsDatabase hnodup, rfl⟩, draft, hdraft,
    hrefused.1.1, hrefused.1.2, hrefused.2⟩

end Conflict
end MyVault
