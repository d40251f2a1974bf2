import MyVault.Conflict.Classifier

/-!
# What an accepted input has passed

`Accepted` lists the checks `validate_classification_evidence` makes of an approved
input.  Only an approved input has drafts, so every result about the drafts of a
classification may use them.
-/

namespace MyVault
namespace Conflict

open Store Check

section Accepted

variable (u : Unicode) (sha256 : Sha256)

/-- The checks of an approved input. -/
structure Accepted (evidence : ClassificationEvidence) (replay : ReplayAssessment)
    (case : ConflictCase) : Prop where
  named : ∀ id ∈ evidence.facts.exactIds, id.isSome = true
  ids : ∀ id ∈ evidence.facts.exactIds, ∀ value ∈ id, isRemoteId value = true
  identityPath : evidence.facts.canonicalIdentityPath.any (isExactContentPath u) = true
  localRevision : evidence.facts.localRevision.any isLowerHex64 = true
  remoteRevision : evidence.facts.remoteRevision.any isRemoteId = true
  version : evidence.facts.durableStateVersion ≠ 0
  guarded : ∀ target ∈ evidence.facts.guardedMetadataTarget,
    validGuardedTarget u sha256 target = true
  guardedRequired : caseRequiresGuardedTarget case = true →
    evidence.facts.guardedMetadataTarget.isSome = true
  replayProof : validateReplayProof evidence replay = .ok ()
  contents : ∀ content ∈ [evidence.facts.base, evidence.facts.localContent,
    evidence.facts.remote, evidence.verifiedMarkdownMerge], ∀ value ∈ content,
      validFingerprint value = true
  required : requireContent evidence.facts (requiredContent case) = .ok ()
  merge : replay = .fresh → case = .nonOverlappingMarkdownChanges →
    evidence.verifiedMarkdownMerge.isSome = true
  predicates : validateContentPredicates evidence.facts replay case = .ok ()
  semantic : ¬ ((case = .bothDeleted .verified ∧ evidence.verifiedDeletedFinalState = false) ∨
    (case = .sameExactRename ∧
      semanticTargetMatches evidence.verifiedSameRename evidence.facts = false) ∨
    (case = .sameExactMove ∧
      semanticTargetMatches evidence.verifiedSameMove evidence.facts = false))

variable {u sha256} {evidence : ClassificationEvidence} {replay : ReplayAssessment}
  {case : ConflictCase}

theorem any_not_eq_false_iff {α : Type} {p : α → Bool} {o : Option α} :
    (o.any fun a => !p a) = false ↔ ∀ a ∈ o, p a = true := by
  cases o with
  | none => simp
  | some a => simp

theorem any_any_not_eq_false_iff {α : Type} {p : α → Bool} {os : List (Option α)} :
    (os.any fun o => o.any fun a => !p a) = false ↔ ∀ o ∈ os, ∀ a ∈ o, p a = true := by
  rw [List.any_eq_false]
  exact forall₂_congr fun o _ => by rw [Bool.not_eq_true, any_not_eq_false_iff]

theorem any_isNone_eq_false_iff {α : Type} {os : List (Option α)} :
    (os.any fun o => o.isNone) = false ↔ ∀ o ∈ os, o.isSome = true := by
  rw [List.any_eq_false]
  exact forall₂_congr fun o _ => by rw [Bool.not_eq_true, Option.isNone_eq_false_iff]

theorem validateClassificationEvidence_eq_ok :
    validateClassificationEvidence u sha256 evidence .approved replay case = .ok () ↔
      Accepted u sha256 evidence replay case := by
  rw [validateClassificationEvidence, if_neg (not_not.mpr rfl)]
  simp only [seq_eq_ok, reject_eq_ok, Bool.not_eq_true, any_isNone_eq_false_iff,
    Bool.or_eq_false_iff, Bool.not_eq_false', any_any_not_eq_false_iff, any_not_eq_false_iff,
    and_assoc]
  have hguarded : (caseRequiresGuardedTarget case &&
      evidence.facts.guardedMetadataTarget.isNone) = false ↔
      (caseRequiresGuardedTarget case = true →
        evidence.facts.guardedMetadataTarget.isSome = true) := by
    cases caseRequiresGuardedTarget case <;> simp [Option.isSome_iff_ne_none]
  have hmerge : ¬ (replay = .fresh ∧ case = .nonOverlappingMarkdownChanges ∧
      evidence.verifiedMarkdownMerge = none) ↔
      (replay = .fresh → case = .nonOverlappingMarkdownChanges →
        evidence.verifiedMarkdownMerge.isSome = true) := by
    rw [Option.isSome_iff_ne_none, not_and, not_and]
  rw [hguarded, hmerge]
  constructor
  · rintro ⟨h₁, h₂, h₃, h₄, h₅, h₆, h₇, h₈, h₉, h₁₀, h₁₁, h₁₂, h₁₃, h₁₄⟩
    exact ⟨h₁, h₂, h₃, h₄, h₅, h₆, h₇, h₈, h₉, h₁₀, h₁₁, h₁₂, h₁₃, h₁₄⟩
  · rintro ⟨h₁, h₂, h₃, h₄, h₅, h₆, h₇, h₈, h₉, h₁₀, h₁₁, h₁₂, h₁₃, h₁₄⟩
    exact ⟨h₁, h₂, h₃, h₄, h₅, h₆, h₇, h₈, h₉, h₁₀, h₁₁, h₁₂, h₁₃, h₁₄⟩

/-- `fresh` builds an input of exactly the evidence that is accepted. -/
theorem fresh_eq_ok (h : validateClassificationEvidence u sha256 evidence .approved .fresh case =
    .ok ()) : ConflictInput.fresh u sha256 evidence case =
      .ok ⟨evidence, .approved, .fresh, case, h⟩ := by
  rw [ConflictInput.fresh, ConflictInput.new]
  split
  · rename_i hrejected
    rw [h] at hrejected
    cases hrejected
  · rfl

theorem exists_of_fresh_ok {input : ConflictInput u sha256}
    (h : ConflictInput.fresh u sha256 evidence case = .ok input) :
    ∃ haccepted, input = ⟨evidence, .approved, .fresh, case, haccepted⟩ := by
  rw [ConflictInput.fresh, ConflictInput.new] at h
  split at h
  · cases h
  · rename_i haccepted
    cases h
    exact ⟨haccepted, rfl⟩

end Accepted

section Plans

variable {u : Unicode} {sha256 : Sha256} (input : ConflictInput u sha256)

/-- Outside the boundary nothing is drafted. -/
theorem approved_of_mem_drafts {requirement : ConflictDraft}
    (h : requirement ∈ (classifyConflict input).drafts) : input.boundary = .approved := by
  obtain ⟨evidence, boundary, replay, case, accepted⟩ := input
  cases boundary with
  | approved => rfl
  | _ => exact absurd h List.not_mem_nil

theorem accepted_of_mem_drafts {requirement : ConflictDraft}
    (h : requirement ∈ (classifyConflict input).drafts) :
    Accepted u sha256 input.evidence input.replay input.case := by
  rw [← validateClassificationEvidence_eq_ok, ← approved_of_mem_drafts input h]
  exact input.accepted

end Plans

end Conflict
end MyVault
