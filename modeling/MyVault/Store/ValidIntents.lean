import MyVault.Store.Moves

/-!
# Registered intents are valid

`ValidIntent` is what `validate_mutation_intent` has checked of an intent.  Only a
registration adds one, after that check, and no statement changes one; so every
intent of a reachable database is valid.
-/

namespace MyVault
namespace Store

open Check

/-- A digest with its size, or neither. -/
def ValidPair (hash : Option String) (size : Option ℕ) : Prop :=
  hash.isSome = size.isSome ∧ (∀ value ∈ hash, isLowerHex64 value = true) ∧
    ∀ value ∈ size, fitsI64 value = true

theorem validateHashSizePair_eq_ok {hash : Option String} {size : Option ℕ} :
    validateHashSizePair hash size = .ok () ↔ ValidPair hash size := by
  cases hash <;> cases size <;>
    simp [validateHashSizePair, ValidPair, seq_eq_ok, validateRevision_eq_ok, u64ToI64_eq_ok]

/-- The checks of `validate_mutation_intent`. -/
structure ValidIntent (u : Unicode) (sha256 : Sha256) (intent : MutationIntent) : Prop where
  operationId : intent.operationId.isNil = false
  operationMarker : isRedactedCode intent.operationMarker = true
  lowerHex : isLowerHex64 intent.intentFingerprint = true
  fingerprint : intent.intentFingerprint = intent.canonicalFingerprint sha256
  ids : ∀ id, some id ∈ [intent.accountId, intent.remoteRootId, intent.remoteFileId,
    intent.sourceParentId, intent.destinationParentId] → isRemoteId id = true
  paths : ∀ path, some path ∈ [intent.sourcePath, intent.destinationPath] →
    isContentPath u path = true
  revisions : ∀ revision, some revision ∈ [intent.expectedLocalRevision,
    intent.expectedRemoteRevision, intent.baseLocalRevision, intent.baseRemoteRevision] →
      isRemoteId revision = true
  references : ∀ reference, some reference ∈ [intent.localObjectId, intent.baseReference] →
    isPrivateReference reference = true
  base : ValidPair intent.baseSha256 intent.baseByteLength
  expectedLocal : ValidPair intent.expectedLocalSha256 intent.expectedLocalByteLength
  expectedRemote : ValidPair intent.expectedRemoteSha256 intent.expectedRemoteByteLength
  registered : fitsI64 intent.registeredAtUnixMs = true
  binding : intent.accountId.isSome = intent.remoteRootId.isSome
  blocked : intent.operationKind = .remoteExistingBlocked →
    intent.accountId.isSome = true ∧ intent.remoteRootId.isSome = true ∧
      intent.remoteFileId.isSome = true ∧ intent.sourceParentId.isSome = true ∧
      intent.sourcePath.isSome = true ∧ intent.expectedRemoteRevision.isSome = true
  wholeBase : intent.operationKind = .remoteExistingBlocked →
    (intent.baseLocalRevision = none ∧ intent.baseRemoteRevision = none ∧
        intent.baseSha256 = none ∧ intent.baseByteLength = none) ∨
      (intent.baseLocalRevision.isSome = true ∧ intent.baseRemoteRevision.isSome = true ∧
        intent.baseSha256.isSome = true ∧ intent.baseByteLength.isSome = true)

theorem validateMutationIntent_eq_ok {u : Unicode} {sha256 : Sha256} {intent : MutationIntent} :
    validateMutationIntent u sha256 intent = .ok () ↔ ValidIntent u sha256 intent := by
  simp only [validateMutationIntent, seq_eq_ok, reject_eq_ok, eachSome_eq_ok,
    validateRemoteId_eq_ok, validateRevision_eq_ok, validateRedactedCode_eq_ok,
    validatePrivateReference_eq_ok, validateContentPath_eq_ok, u64ToI64_eq_ok,
    validateHashSizePair_eq_ok, Bool.not_eq_true, Decidable.not_not, ne_eq]
  have hblocked : ∀ {p q : Prop}, ¬ (p ∧ ¬ q) ↔ (p → q) := by
    intro p q
    rw [not_and, not_not]
  have hsome : ¬ (intent.operationKind = .remoteExistingBlocked ∧
      (intent.accountId = none ∨ intent.remoteRootId = none ∨ intent.remoteFileId = none ∨
        intent.sourceParentId = none ∨ intent.sourcePath = none ∨
        intent.expectedRemoteRevision = none)) ↔
      (intent.operationKind = .remoteExistingBlocked →
        intent.accountId.isSome = true ∧ intent.remoteRootId.isSome = true ∧
          intent.remoteFileId.isSome = true ∧ intent.sourceParentId.isSome = true ∧
          intent.sourcePath.isSome = true ∧ intent.expectedRemoteRevision.isSome = true) := by
    simp only [not_and, not_or, Option.isSome_iff_ne_none, ne_eq]
  rw [hblocked, hsome]
  constructor
  · rintro ⟨h₁, h₂, h₃, h₄, h₅, h₆, h₇, h₈, h₉, h₁₀, h₁₁, h₁₂, h₁₃, h₁₄, h₁₅⟩
    exact ⟨h₁, h₂, h₃, h₄, h₅, h₆, h₇, h₈, h₉, h₁₀, h₁₁, h₁₂, h₁₃, h₁₄, h₁₅⟩
  · rintro ⟨h₁, h₂, h₃, h₄, h₅, h₆, h₇, h₈, h₉, h₁₀, h₁₁, h₁₂, h₁₃, h₁₄, h₁₅⟩
    exact ⟨h₁, h₂, h₃, h₄, h₅, h₆, h₇, h₈, h₉, h₁₀, h₁₁, h₁₂, h₁₃, h₁₄, h₁₅⟩

section Runs

variable {u : Unicode} {sha256 : Sha256} {vaultId : Uuid}

theorem validIntents_step {db : Database} (op : Operation)
    (h : ∀ intent ∈ db.mutationIntents, ValidIntent u sha256 intent) :
    ∀ intent ∈ (step u sha256 vaultId db op).mutationIntents, ValidIntent u sha256 intent := by
  intro intent hintent
  cases mutationStep u sha256 vaultId db op with
  | same hsame => exact h intent (hsame.intents ▸ hintent)
  | registered hvalid _ hnew =>
      rcases hnew.mem_intents.mp hintent with hold | rfl
      · exact h intent hold
      · exact validateMutationIntent_eq_ok.mp hvalid
  | claimed _ _ _ _ _ hmoves => exact h intent (hmoves.intents ▸ hintent)
  | recorded _ _ _ _ _ _ hmoves => exact h intent (hmoves.intents ▸ hintent)
  | reopened hsame hinterrupts =>
      rw [intents_of_interrupts hinterrupts, hsame.intents] at hintent
      exact h intent hintent

/-- Every registered intent is valid. -/
theorem validIntent_run {ops : List Operation} {intent : MutationIntent}
    (h : intent ∈ (runStore u sha256 vaultId ops).mutationIntents) :
    ValidIntent u sha256 intent := by
  have hempty : ∀ intent ∈ Database.empty.mutationIntents, ValidIntent u sha256 intent :=
    fun _ hmem => absurd hmem Table.not_mem_empty
  exact Runs.run_induction (P := fun db : Database => ∀ intent ∈ db.mutationIntents,
    ValidIntent u sha256 intent) (fun _ => validIntents_step) ops hempty intent h

end Runs

end Store
end MyVault
