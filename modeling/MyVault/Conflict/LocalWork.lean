import MyVault.Conflict.Classifier

/-!
# What a plan does to unsaved local work

`LocalContentPublish` is the draft that writes remote bytes over the local object.
The matrix emits it in the four cells C01, C09, C12 and C15 and in the retry C30,
never together with `LocalBytes` (`localContentPublish_mem_drafts_iff`,
`localBytes_notMem_retained`).  Of these only C01 needs evidence that the local
object is unchanged, so a plan keeps unsaved local work exactly when it does not
come from one of the others with a local object that differs from base and remote
(`keepsLocalWork_iff`).

## Two tables

`UnsavedLocal` is local content that neither the base nor the remote side has, and
`KeepsLocalWork` is about the plan: if it publishes over the local object, then nothing in there
is unsaved or its bytes are retained.  `publishesLocalContent` is the table of the cases that
publish, and `publishesUncheckedCase` of those among them whose evidence says nothing of the local
object.

A replay has no case of its own: what it drafts depends on the retry its assessment proposes, so
the retries are treated apart (`keepsLocalWork_retry_iff`).  In the failing input a renamed note
has three different contents (`rename_publishes_over_unsaved_work`).
-/

namespace MyVault
namespace Conflict

/-- The local object has content that neither the base nor the remote side has. -/
def UnsavedLocal (facts : ClassificationEvidenceFacts) : Prop :=
  facts.localContent ≠ none ∧ facts.localContent ≠ facts.base ∧
    facts.localContent ≠ facts.remote

/-- If the plan publishes over the local object, then there is nothing unsaved in
it or the plan retains its bytes. -/
def KeepsLocalWork (facts : ClassificationEvidenceFacts) (plan : ConflictPlan) : Prop :=
  .localContentPublish ∈ plan.drafts →
    facts.localContent = none ∨ facts.localContent = facts.base ∨
      facts.localContent = facts.remote ∨ .localBytes ∈ plan.retained

/-- The fresh cases that publish over a local object of which nothing is known. -/
def publishesUncheckedCase : ConflictCase → Bool
  | .localDeleteRemoteEdited | .localRenameRemoteEdited | .localMoveRemoteEdited => true
  | _ => false

/-- Publication over a local object that the accepted evidence does not constrain. -/
def publishesUnchecked (boundary : BoundaryAssessment) (replay : ReplayAssessment)
    (case : ConflictCase) : Bool :=
  boundary == .approved &&
    match replay with
    | .fresh => publishesUncheckedCase case
    | .verifiedNotApplied _ retry => retry == .guardedLocalReplace
    | _ => false

/-! ## The matrix -/

/-- The fresh cases that publish over the local object: C01, C09, C12 and C15. -/
def publishesLocalContent : ConflictCase → Bool
  | .remoteContentChanged capability => capability.isAvailable
  | case => publishesUncheckedCase case

/-- Cell by cell: which plans publish over the local object, and that these retain
no local bytes. -/
theorem drafts_classifyFreshCase (case : ConflictCase) :
    (.localContentPublish ∈ (classifyFreshCase case).drafts ↔ publishesLocalContent case = true) ∧
      (publishesLocalContent case = true → .localBytes ∉ (classifyFreshCase case).retained) := by
  cases case with
  | remoteContentChanged capability => cases capability <;> decide
  | bothChangedWithoutExactBase capability => cases capability <;> decide
  | invalidOrAmbiguousText capability => cases capability <;> decide
  | mergeInputExceedsBounds capability => cases capability <;> decide
  | bothDeleted finalState => cases finalState <;> decide
  | localEditedRemoteRename guard => cases guard <;> decide
  | localEditedRemoteMove guard => cases guard <;> decide
  | renameMoveConflict guard => cases guard <;> decide
  | destinationCreatedVsMoveOrRename capability => cases capability <;> decide
  | distinctCreatesAtEquivalentPath capability => cases capability <;> decide
  | childChangedWithParentChanged guard => cases guard <;> decide
  | portableEquivalentDestinationCollision capability => cases capability <;> decide
  | _ => decide

/-- C01 needs evidence that the local object is unchanged. -/
theorem contentPredicate_of_publishesLocalContent {facts : ClassificationEvidenceFacts}
    {case : ConflictCase} (h : publishesLocalContent case = true)
    (hchecked : publishesUncheckedCase case = false)
    (hpredicate : contentPredicate facts case = true) :
    facts.localContent = facts.base := by
  cases case with
  | remoteContentChanged capability =>
      rw [contentPredicate, Bool.and_eq_true, beq_iff_eq] at hpredicate
      exact hpredicate.1
  | _ => exact absurd (h.symm.trans hchecked) (by decide)

/-- Over a local object that may hold unsaved work, a fresh plan keeps it exactly
when nothing unsaved is there. -/
theorem keepsLocalWork_fresh_iff {facts : ClassificationEvidenceFacts} {case : ConflictCase}
    (hpredicate : contentPredicate facts case = true) :
    KeepsLocalWork facts (classifyFreshCase case) ↔
      ¬ (publishesUncheckedCase case = true ∧ UnsavedLocal facts) := by
  obtain ⟨hdrafts, hretained⟩ := drafts_classifyFreshCase case
  rw [KeepsLocalWork, hdrafts]
  cases hunchecked : publishesUncheckedCase case with
  | false =>
      refine iff_of_true (fun h => ?_) (by simp)
      exact Or.inr (Or.inl (contentPredicate_of_publishesLocalContent h hunchecked hpredicate))
  | true =>
      have hpublishes : publishesLocalContent case = true := by
        cases case with
        | remoteContentChanged capability => exact nomatch hunchecked
        | _ => exact hunchecked
      have hbytes := hretained hpublishes
      simp only [hpublishes, forall_const, hbytes, or_false, UnsavedLocal, true_and]
      tauto

/-! ## Replays -/

/-- The one retry that publishes over the local object retains nothing. -/
theorem drafts_classifyRetry (retry : VerifiedNotAppliedRetry) :
    (.localContentPublish ∈ (classifyRetry retry).drafts ↔ retry = .guardedLocalReplace) ∧
      .localBytes ∉ (classifyRetry retry).retained := by
  cases retry <;> decide

theorem keepsLocalWork_retry_iff {facts : ClassificationEvidenceFacts}
    (retry : VerifiedNotAppliedRetry) :
    KeepsLocalWork facts (classifyRetry retry) ↔
      ¬ ((retry == .guardedLocalReplace) = true ∧ UnsavedLocal facts) := by
  obtain ⟨hdrafts, hbytes⟩ := drafts_classifyRetry retry
  rw [KeepsLocalWork, hdrafts, beq_iff_eq, UnsavedLocal]
  tauto

/-! ## Accepted input -/

variable {u : Unicode} {sha256 : Sha256}

/-- An approved fresh input satisfies the content predicate of its case. -/
theorem contentPredicate_of_accepted {evidence : ClassificationEvidence} {case : ConflictCase}
    (h : validateClassificationEvidence u sha256 evidence .approved .fresh case = .ok ()) :
    contentPredicate evidence.facts case = true := by
  rw [validateClassificationEvidence, if_neg (not_not.mpr rfl)] at h
  simp only [Check.seq_eq_ok] at h
  obtain ⟨-, -, -, -, -, -, -, -, -, hpredicate, -⟩ := h
  rw [validateContentPredicates] at hpredicate
  split at hpredicate
  · assumption
  · exact nomatch hpredicate

/-- **A plan keeps unsaved local work exactly when it does not publish unchecked over it.** -/
theorem keepsLocalWork_iff (input : ConflictInput u sha256) :
    KeepsLocalWork input.evidence.facts (classifyConflict input) ↔
      ¬ (publishesUnchecked input.boundary input.replay input.case = true ∧
        UnsavedLocal input.evidence.facts) := by
  obtain ⟨evidence, boundary, replay, case, haccepted⟩ := input
  cases boundary with
  | approved =>
      cases replay with
      | fresh => exact keepsLocalWork_fresh_iff (contentPredicate_of_accepted haccepted)
      | verifiedNotApplied proof retry => exact keepsLocalWork_retry_iff retry
      | verifiedAppliedExactPostState proof =>
          refine iff_of_true (fun h => ?_) (fun h => nomatch h.1)
          -- an operation found applied drafts nothing
          simp only [classifyConflict, classifyBoundary, classifyReplay,
            ConflictPlan.bindEvidence] at h
          split_ifs at h
          · exact nomatch h
          · exact nomatch h
      | sideEffectOutcomeUnknown proof =>
          exact iff_of_true (fun h => nomatch h) (fun h => nomatch h.1)
      | queuedIntentCapturedBaseChanged proof =>
          exact iff_of_true (fun h => nomatch h) (fun h => nomatch h.1)
  | _ => exact iff_of_true (fun h => nomatch h) (fun h => nomatch h.1)

/-! ## A plan that loses local work -/

/-- A digest of one letter. -/
def sampleSha (c : Char) : String := String.ofList (List.replicate 64 c)

/-- A note that was edited and renamed locally and edited remotely: base, local and
remote content are three different ones. -/
def renamedNote : ClassificationEvidenceFacts where
  accountId := some "account-1"
  remoteRootId := some "root-1"
  objectIdentity := some "file-1"
  canonicalIdentityPath := some "note.md"
  targetParentId := some "root-1"
  base := some ⟨sampleSha 'a', 1⟩
  localContent := some ⟨sampleSha 'b', 2⟩
  remote := some ⟨sampleSha 'c', 3⟩
  localRevision := some (sampleSha 'b')
  remoteRevision := some "rev-2"
  durableStateVersion := 1
  priorOperationId := none
  priorOutcomeFingerprint := none
  priorIntentFingerprint := none
  priorReplayDisposition := none
  guardedMetadataTarget := none

theorem renamedNote_accepted (sha256 : Sha256) :
    validateClassificationEvidence Unicode.ascii sha256 (.new renamedNote) .approved .fresh
      .localRenameRemoteEdited = .ok () := rfl

/-- Cell C12 accepts the edited local content, publishes the remote bytes over it and
retains only the remote bytes and the rename, whatever the digest is. -/
theorem renamedNote_loses_local (sha256 : Sha256) :
    ∃ input : ConflictInput Unicode.ascii sha256,
      ConflictInput.fresh Unicode.ascii sha256 (.new renamedNote) .localRenameRemoteEdited =
          .ok input ∧
        (classifyConflict input).cell = .c12 ∧
        ¬ KeepsLocalWork input.evidence.facts (classifyConflict input) := by
  refine ⟨⟨.new renamedNote, .approved, .fresh, .localRenameRemoteEdited,
    renamedNote_accepted sha256⟩, ?_, rfl, ?_⟩
  · rw [ConflictInput.fresh, ConflictInput.new]
    split
    · rename_i failure h
      exact absurd (h.symm.trans (renamedNote_accepted sha256)) (by simp)
    · rfl
  · intro h
    have hkept : renamedNote.localContent = none ∨ renamedNote.localContent = renamedNote.base ∨
        renamedNote.localContent = renamedNote.remote ∨
          .localBytes ∈ (classifyFreshCase .localRenameRemoteEdited).retained :=
      h List.mem_cons_self
    exact absurd hkept (by decide)

theorem rename_publishes_over_unsaved_work :
    ∃ input : ConflictInput Unicode.ascii constantDigest,
      ConflictInput.fresh Unicode.ascii constantDigest (.new renamedNote)
          .localRenameRemoteEdited = .ok input ∧
        (classifyConflict input).cell = .c12 ∧
        ¬ KeepsLocalWork input.evidence.facts (classifyConflict input) :=
  renamedNote_loses_local constantDigest

end Conflict
end MyVault
