import MyVault.Conflict.IdentityStream
import MyVault.Store.Mutation
import MyVault.Store.ValidIntents

/-!
# The envelopes of the store

The three functions of `store.rs` that keep conflict evidence.  An envelope is written
column by column and read back by position; its fingerprint is the digest of a stream
of named fields, in which every field but the device, the time and the fingerprint
itself stands.

* `decode_columns`: what is read back is what was written.
* `fieldValues_inj`: envelopes with one stream differ in the device and the time only.
* `exec_record_new`, `exec_record_known`: when an envelope is recorded, and when it is
  found already recorded.
-/

namespace MyVault
namespace Store

open Check Program

/-! ## Valid envelopes -/

section Valid

variable {sha256 : Sha256} {evidence : ConflictEvidence}

/-- The codes every envelope has. -/
def ConflictEvidence.codes (evidence : ConflictEvidence) : List String :=
  [evidence.conflictId, evidence.stableCellId, evidence.localStateCode, evidence.remoteStateCode,
    evidence.contentClass, evidence.lineageState, evidence.classificationCode,
    evidence.ambiguityReason, evidence.evidenceSufficiency, evidence.namingVersion,
    evidence.normalizedCollisionKey]

/-- The verification evidence an envelope names. -/
def ConflictEvidence.evidenceIds (evidence : ConflictEvidence) : List (Option Uuid) :=
  [evidence.baseEvidenceId, evidence.localEvidenceId, evidence.remoteEvidenceId]

/-- The checks of `validate_conflict_evidence`. -/
structure ValidEnvelope (sha256 : Sha256) (evidence : ConflictEvidence) : Prop where
  operationId : evidence.operationId.isNil = false
  codes : ∀ code ∈ evidence.codes, isRedactedCode code = true
  parentId : isRemoteId evidence.targetParentId = true
  explanation : ∀ code ∈ evidence.explanationCode, isRedactedCode code = true
  device : ∀ code ∈ evidence.deviceAlias, isRedactedCode code = true
  copyId : ∀ id ∈ evidence.conflictCopyOperationId, id.isNil = false
  evidenceIds : ∀ id, some id ∈ evidence.evidenceIds → id.isNil = false
  base : ValidPair evidence.baseSha256 evidence.baseByteLength
  localContent : ValidPair evidence.localSha256 evidence.localByteLength
  remote : ValidPair evidence.remoteSha256 evidence.remoteByteLength
  expectedCopy : ValidPair evidence.expectedConflictCopySha256
    evidence.expectedConflictCopyByteLength
  copyContent : evidence.conflictCopyOperationId.isSome = true →
    evidence.expectedConflictCopySha256.isSome = true
  lowerHex : isLowerHex64 evidence.evidenceFingerprint = true
  fingerprint : evidence.evidenceFingerprint = evidence.canonicalFingerprint sha256
  captured : fitsI64 evidence.capturedAtUnixMs = true

theorem validateConflictEvidence_eq_ok :
    validateConflictEvidence sha256 evidence = .ok () ↔ ValidEnvelope sha256 evidence := by
  have hsingle : ∀ {o : Option String}, (∀ code, some code ∈ [o] → isRedactedCode code = true) ↔
      ∀ code ∈ o, isRedactedCode code = true := by
    intro o
    simp only [List.mem_singleton, Option.mem_def, eq_comm]
  have hcopy : ¬ (evidence.conflictCopyOperationId.any Uuid.isNil = true) ↔
      ∀ id ∈ evidence.conflictCopyOperationId, id.isNil = false := by
    cases evidence.conflictCopyOperationId <;> simp
  have hids : ¬ ([evidence.baseEvidenceId, evidence.localEvidenceId,
      evidence.remoteEvidenceId].any (fun id => id.any Uuid.isNil) = true) ↔
      ∀ id, some id ∈ evidence.evidenceIds → id.isNil = false := by
    rw [Bool.not_eq_true, List.any_eq_false, ConflictEvidence.evidenceIds]
    constructor
    · intro h id hid
      simpa using h (some id) hid
    · intro h o ho
      cases o with
      | none => simp
      | some id => simp [h id ho]
  have hcontent : ¬ (evidence.conflictCopyOperationId.isSome = true ∧
      evidence.expectedConflictCopySha256 = none) ↔
      (evidence.conflictCopyOperationId.isSome = true →
        evidence.expectedConflictCopySha256.isSome = true) := by
    rw [not_and, Option.isSome_iff_ne_none, Option.isSome_iff_ne_none]
  simp only [validateConflictEvidence, seq_eq_ok, reject_eq_ok, each_eq_ok, eachSome_eq_ok,
    validateRemoteId_eq_ok, validateRevision_eq_ok, validateRedactedCode_eq_ok, u64ToI64_eq_ok,
    validateHashSizePair_eq_ok, hsingle, hcopy, hids, hcontent, ne_eq, Decidable.not_not,
    Bool.not_eq_true]
  constructor
  · rintro ⟨h₁, h₂, h₃, h₄, h₅, h₆, h₇, h₈, h₉, h₁₀, h₁₁, h₁₂, h₁₃, h₁₄, h₁₅⟩
    exact ⟨h₁, h₂, h₃, h₄, h₅, h₆, h₇, h₈, h₉, h₁₀, h₁₁, h₁₂, h₁₃, h₁₄, h₁₅⟩
  · rintro ⟨h₁, h₂, h₃, h₄, h₅, h₆, h₇, h₈, h₉, h₁₀, h₁₁, h₁₂, h₁₃, h₁₄, h₁₅⟩
    exact ⟨h₁, h₂, h₃, h₄, h₅, h₆, h₇, h₈, h₉, h₁₀, h₁₁, h₁₂, h₁₃, h₁₄, h₁₅⟩

end Valid

/-! ## Columns -/

/-- A value of a column. -/
inductive SqlValue where
  | null
  | integer (value : ℤ)
  | text (value : String)
  deriving DecidableEq

/-- A nullable text column. -/
def SqlValue.ofText (value : Option String) : SqlValue := value.elim .null .text

/-- A nullable size column. -/
def SqlValue.ofSize (value : Option ℕ) : SqlValue := value.elim .null fun size => .integer size

/-- A nullable column of hyphenated ids. -/
def SqlValue.ofUuid (value : Option Uuid) : SqlValue := .ofText (value.map Uuid.toHyphenated)

/-- `params![…]` of `insert_conflict_evidence`, in the order of its columns. -/
def ConflictEvidence.columns (evidence : ConflictEvidence) : List SqlValue :=
  [.text evidence.conflictId, .text evidence.operationId.toHyphenated,
    .text evidence.stableCellId, .text evidence.localStateCode, .text evidence.remoteStateCode,
    .text evidence.contentClass, .text evidence.lineageState, .text evidence.classificationCode,
    .text evidence.ambiguityReason, .text evidence.evidenceSufficiency,
    .ofUuid evidence.conflictCopyOperationId, .ofUuid evidence.baseEvidenceId,
    .ofUuid evidence.localEvidenceId, .ofUuid evidence.remoteEvidenceId,
    .ofText evidence.baseSha256, .ofSize evidence.baseByteLength,
    .ofText evidence.localSha256, .ofSize evidence.localByteLength,
    .ofText evidence.remoteSha256, .ofSize evidence.remoteByteLength,
    .text evidence.namingVersion, .text evidence.normalizedCollisionKey,
    .text evidence.targetParentId, .ofText evidence.expectedConflictCopySha256,
    .ofSize evidence.expectedConflictCopyByteLength, .ofText evidence.explanationCode,
    .ofText evidence.deviceAlias, .text evidence.evidenceFingerprint,
    .integer evidence.capturedAtUnixMs]

/-- `FromSql` of a `String`. -/
def SqlValue.asText : Option SqlValue → Except Error String
  | some (.text value) => .ok value
  | _ => .error .database

/-- `FromSql` of an `Option<String>`. -/
def SqlValue.asOptionalText : Option SqlValue → Except Error (Option String)
  | some (.text value) => .ok (some value)
  | some .null => .ok none
  | _ => .error .database

/-- `FromSql` of an `i64`. -/
def SqlValue.asInteger : Option SqlValue → Except Error ℤ
  | some (.integer value) => .ok value
  | _ => .error .database

/-- `FromSql` of an `Option<i64>`. -/
def SqlValue.asOptionalInteger : Option SqlValue → Except Error (Option ℤ)
  | some (.integer value) => .ok (some value)
  | some .null => .ok none
  | _ => .error .database

/-- `parse_uuid`: the canonical text of an id that is not nil. -/
def parseUuid (value : String) : Except Error Uuid :=
  match Uuid.parseCanonical value.toList with
  | none => .error .invalidSchema
  | some id => if id.isNil then .error .invalidSchema else .ok id

/-- `Option<String>` to `Option<Uuid>`. -/
def parseOptionalUuid (value : Option String) : Except Error (Option Uuid) :=
  match value with
  | none => .ok none
  | some value => (parseUuid value).map some

/-- `u64::try_from` of an `i64`. -/
def u64OfI64 (value : ℤ) : Except Error ℕ :=
  if 0 ≤ value then .ok value.toNat else .error .invalidSchema

/-- `optional_i64_to_u64`: a negative size is an invalid value. -/
def optionalI64ToU64 (value : Option ℤ) : Except Error (Option ℕ) :=
  match value with
  | none => .ok none
  | some value => (u64OfI64 value).map some

/-- The row of `load_conflict_evidence`: every column by its position, then the ids and
the numbers. -/
def ConflictEvidence.decode (row : List SqlValue) : Except Error ConflictEvidence := do
  let conflictId ← SqlValue.asText row[0]?
  let operationId ← SqlValue.asText row[1]?
  let stableCellId ← SqlValue.asText row[2]?
  let localStateCode ← SqlValue.asText row[3]?
  let remoteStateCode ← SqlValue.asText row[4]?
  let contentClass ← SqlValue.asText row[5]?
  let lineageState ← SqlValue.asText row[6]?
  let classificationCode ← SqlValue.asText row[7]?
  let ambiguityReason ← SqlValue.asText row[8]?
  let evidenceSufficiency ← SqlValue.asText row[9]?
  let conflictCopyOperationId ← SqlValue.asOptionalText row[10]?
  let baseEvidenceId ← SqlValue.asOptionalText row[11]?
  let localEvidenceId ← SqlValue.asOptionalText row[12]?
  let remoteEvidenceId ← SqlValue.asOptionalText row[13]?
  let baseSha256 ← SqlValue.asOptionalText row[14]?
  let baseByteLength ← SqlValue.asOptionalInteger row[15]?
  let localSha256 ← SqlValue.asOptionalText row[16]?
  let localByteLength ← SqlValue.asOptionalInteger row[17]?
  let remoteSha256 ← SqlValue.asOptionalText row[18]?
  let remoteByteLength ← SqlValue.asOptionalInteger row[19]?
  let namingVersion ← SqlValue.asText row[20]?
  let normalizedCollisionKey ← SqlValue.asText row[21]?
  let targetParentId ← SqlValue.asText row[22]?
  let expectedConflictCopySha256 ← SqlValue.asOptionalText row[23]?
  let expectedConflictCopyByteLength ← SqlValue.asOptionalInteger row[24]?
  let explanationCode ← SqlValue.asOptionalText row[25]?
  let deviceAlias ← SqlValue.asOptionalText row[26]?
  let evidenceFingerprint ← SqlValue.asText row[27]?
  let capturedAtUnixMs ← SqlValue.asInteger row[28]?
  let operationId ← parseUuid operationId
  let conflictCopyOperationId ← parseOptionalUuid conflictCopyOperationId
  let baseEvidenceId ← parseOptionalUuid baseEvidenceId
  let localEvidenceId ← parseOptionalUuid localEvidenceId
  let remoteEvidenceId ← parseOptionalUuid remoteEvidenceId
  let baseByteLength ← optionalI64ToU64 baseByteLength
  let localByteLength ← optionalI64ToU64 localByteLength
  let remoteByteLength ← optionalI64ToU64 remoteByteLength
  let expectedConflictCopyByteLength ← optionalI64ToU64 expectedConflictCopyByteLength
  let capturedAtUnixMs ← u64OfI64 capturedAtUnixMs
  .ok
    { conflictId, operationId, stableCellId, localStateCode, remoteStateCode, contentClass
      lineageState, classificationCode, ambiguityReason, evidenceSufficiency
      conflictCopyOperationId, baseEvidenceId, localEvidenceId, remoteEvidenceId, baseSha256
      baseByteLength, localSha256, localByteLength, remoteSha256, remoteByteLength
      namingVersion, normalizedCollisionKey, targetParentId, expectedConflictCopySha256
      expectedConflictCopyByteLength, explanationCode, deviceAlias, evidenceFingerprint
      capturedAtUnixMs }

/-- `load_conflict_evidence`. -/
def loadConflictEvidence (conflictId : String) : StoreProgram (Option ConflictEvidence) := do
  let row ← read fun db => db.conflictEvidence.lookup conflictId
  match row with
  | none => pure none
  | some row => some <$> lift (ConflictEvidence.decode row.columns)

/-- `SyncStore::conflict_evidence`. -/
def conflictEvidence (conflictId : String) : StoreProgram (Option ConflictEvidence) := do
  lift (validateRedactedCode conflictId)
  loadConflictEvidence conflictId

section Decode

@[simp] theorem SqlValue.asOptionalText_ofText (value : Option String) :
    SqlValue.asOptionalText (some (.ofText value)) = .ok value := by
  cases value <;> rfl

@[simp] theorem SqlValue.asOptionalText_ofUuid (value : Option Uuid) :
    SqlValue.asOptionalText (some (.ofUuid value)) = .ok (value.map Uuid.toHyphenated) :=
  SqlValue.asOptionalText_ofText _

@[simp] theorem SqlValue.asOptionalInteger_ofSize (value : Option ℕ) :
    SqlValue.asOptionalInteger (some (.ofSize value)) = .ok (value.map (Nat.cast : ℕ → ℤ)) := by
  cases value <;> rfl

theorem parseUuid_toHyphenated {id : Uuid} (h : id.isNil = false) :
    parseUuid id.toHyphenated = .ok id := by
  rw [parseUuid, Uuid.parseCanonical_eq_some_iff.mpr rfl]
  dsimp only
  rw [h, if_neg Bool.false_ne_true]

theorem parseOptionalUuid_map {value : Option Uuid} (h : ∀ id ∈ value, id.isNil = false) :
    parseOptionalUuid (value.map Uuid.toHyphenated) = .ok value := by
  cases value with
  | none => rfl
  | some id =>
      rw [Option.map_some, parseOptionalUuid, parseUuid_toHyphenated (h id rfl)]
      rfl

@[simp] theorem u64OfI64_natCast (value : ℕ) : u64OfI64 value = .ok value := by
  rw [u64OfI64, if_pos (Int.natCast_nonneg value), Int.toNat_natCast]

@[simp] theorem optionalI64ToU64_map (value : Option ℕ) :
    optionalI64ToU64 (value.map (Nat.cast : ℕ → ℤ)) = .ok value := by
  cases value with
  | none => rfl
  | some size =>
      rw [Option.map_some, optionalI64ToU64, u64OfI64_natCast]
      rfl

variable {sha256 : Sha256} {evidence : ConflictEvidence}

/-- **What is read back is what was written.** -/
theorem decode_columns (h : ValidEnvelope sha256 evidence) :
    ConflictEvidence.decode evidence.columns = .ok evidence := by
  have hids : ∀ o ∈ evidence.evidenceIds, ∀ id ∈ o, id.isNil = false :=
    fun o ho id hid => h.evidenceIds id (Option.mem_def.mp hid ▸ ho)
  have hbase := hids evidence.baseEvidenceId (by simp [ConflictEvidence.evidenceIds])
  have hlocal := hids evidence.localEvidenceId (by simp [ConflictEvidence.evidenceIds])
  have hremote := hids evidence.remoteEvidenceId (by simp [ConflictEvidence.evidenceIds])
  simp only [ConflictEvidence.decode, ConflictEvidence.columns, List.getElem?_cons_succ,
    List.getElem?_cons_zero, SqlValue.asText, SqlValue.asInteger, SqlValue.asOptionalText_ofText,
    SqlValue.asOptionalText_ofUuid, SqlValue.asOptionalInteger_ofSize, ok_bind,
    parseUuid_toHyphenated h.operationId, parseOptionalUuid_map h.copyId,
    parseOptionalUuid_map hbase, parseOptionalUuid_map hlocal, parseOptionalUuid_map hremote,
    optionalI64ToU64_map, u64OfI64_natCast]

end Decode

/-! ## The fingerprint -/

section Fingerprint

open SelfDelimiting Conflict

/-- The names of the fields of the fingerprint, in their order. -/
def conflictFieldNames : List String :=
  ["conflict_id", "operation_id", "stable_cell_id", "local_state_code", "remote_state_code",
    "content_class", "lineage_state", "classification_code", "ambiguity_reason",
    "evidence_sufficiency", "conflict_copy_operation_id", "base_evidence_id",
    "local_evidence_id", "remote_evidence_id", "base_sha256", "base_byte_length",
    "local_sha256", "local_byte_length", "remote_sha256", "remote_byte_length",
    "naming_version", "normalized_collision_key", "target_parent_id",
    "expected_conflict_copy_sha256", "expected_conflict_copy_byte_length", "explanation_code"]

/-- One field of a canonical stream. -/
def canonicalField (name : String) (value : Option String) : List UInt8 :=
  canonicalBytes name ++ tagged 1 0 [] canonicalBytes value

theorem selfDelimiting_canonicalField (name : String) :
    SelfDelimiting {v : Option String | ∀ s ∈ v, strLen s < wordLimit} (canonicalField name) :=
  (selfDelimiting_lengthDelimited.option (by decide : (1 : UInt8) ≠ 0) []).const_append
    (canonicalBytes name)

theorem canonicalFields_eq (fields : List (String × Option String)) :
    canonicalFields fields =
      (List.zipWith canonicalField (fields.map Prod.fst) (fields.map Prod.snd)).flatten := by
  induction fields with
  | nil => rfl
  | cons field fields ih =>
      obtain ⟨name, value⟩ := field
      rw [List.map_cons, List.map_cons, List.zipWith_cons_cons, List.flatten_cons, ← ih]
      cases value <;> rfl

variable {sha256 : Sha256} {evidence other : ConflictEvidence}

/-- The stream an envelope is fingerprinted as. -/
def ConflictEvidence.stream (evidence : ConflictEvidence) : List UInt8 :=
  canonicalBytes "r3-conflict-evidence-v1" ++ Store.canonicalFields evidence.canonicalFields

theorem fst_canonicalFields (evidence : ConflictEvidence) :
    evidence.canonicalFields.map Prod.fst = conflictFieldNames := rfl

theorem strLen_lt_of_isRedactedCode {s : String} (h : isRedactedCode s = true) :
    strLen s < wordLimit := by
  rw [isRedactedCode, Bool.and_eq_true, decide_eq_true_eq] at h
  have hword : 128 < wordLimit := by decide
  omega

theorem strLen_toHyphenated_lt (id : Uuid) : strLen id.toHyphenated < wordLimit := by
  have hlen : id.toHyphenated.toList.length ≤ 36 := by
    rw [Uuid.toHyphenated, String.toList_ofList, id.length_hyphenated]
  have hword : 4 * 36 < wordLimit := by decide
  exact Nat.lt_of_le_of_lt (strLen_le_of_length hlen) hword

/-- Every field of a valid envelope is shorter than a machine word can count. -/
theorem ValidEnvelope.fields_short (h : ValidEnvelope sha256 evidence) :
    ∀ v ∈ evidence.canonicalFields.map Prod.snd, ∀ s ∈ v, strLen s < wordLimit := by
  have hcode : ∀ code ∈ evidence.codes, strLen code < wordLimit :=
    fun code hcode => strLen_lt_of_isRedactedCode (h.codes code hcode)
  have hid : ∀ o : Option Uuid, ∀ s ∈ o.map Uuid.toHyphenated, strLen s < wordLimit := by
    intro o s hs
    obtain ⟨id, -, rfl⟩ := Option.map_eq_some_iff.mp hs
    exact strLen_toHyphenated_lt id
  have hhash : ∀ {hash size}, ValidPair hash size → ∀ s ∈ hash, strLen s < wordLimit :=
    fun hpair s hs => strLen_lt_of_isLowerHex64 (hpair.2.1 s hs)
  have hsize : ∀ {hash size}, ValidPair hash size → ∀ s ∈ size.map toString,
      strLen s < wordLimit := by
    intro hash size hpair s hs
    obtain ⟨n, hn, rfl⟩ := Option.map_eq_some_iff.mp hs
    exact strLen_toString_lt (hpair.2.2 n hn)
  have hexplanation : ∀ s ∈ evidence.explanationCode, strLen s < wordLimit :=
    fun s hs => strLen_lt_of_isRedactedCode (h.explanation s hs)
  simp only [ConflictEvidence.codes, List.forall_mem_cons] at hcode
  obtain ⟨h₁, h₂, h₃, h₄, h₅, h₆, h₇, h₈, h₉, h₁₀, h₁₁, -⟩ := hcode
  simp only [ConflictEvidence.canonicalFields, List.map_cons, List.map_nil, List.forall_mem_cons,
    Option.mem_some_iff, forall_eq']
  exact ⟨h₁, strLen_toHyphenated_lt _, h₂, h₃, h₄, h₅, h₆, h₇, h₈, h₉, hid _, hid _, hid _, hid _,
    hhash h.base, hsize h.base, hhash h.localContent, hsize h.localContent, hhash h.remote,
    hsize h.remote, h₁₀, h₁₁, strLen_lt_of_isRemoteId h.parentId, hhash h.expectedCopy,
    hsize h.expectedCopy, hexplanation, List.forall_mem_nil _⟩

/-- The fields determine the envelope, up to what explains it. -/
theorem eq_of_canonicalFields_eq
    (hfields : other.canonicalFields = evidence.canonicalFields)
    (hfingerprint : other.evidenceFingerprint = evidence.evidenceFingerprint) :
    other = { evidence with
      deviceAlias := other.deviceAlias
      capturedAtUnixMs := other.capturedAtUnixMs } := by
  have hid := Option.map_injective Uuid.toHyphenated_injective
  have hsize := Option.map_injective toString_nat_injective
  simp only [ConflictEvidence.canonicalFields, List.cons.injEq, Prod.mk.injEq, true_and,
    Option.some.injEq, and_true] at hfields
  obtain ⟨h₁, h₂, h₃, h₄, h₅, h₆, h₇, h₈, h₉, h₁₀, h₁₁, h₁₂, h₁₃, h₁₄, h₁₅, h₁₆, h₁₇, h₁₈, h₁₉,
    h₂₀, h₂₁, h₂₂, h₂₃, h₂₄, h₂₅, h₂₆⟩ := hfields
  cases other
  cases evidence
  simp only at *
  rw [h₁, Uuid.toHyphenated_injective h₂, h₃, h₄, h₅, h₆, h₇, h₈, h₉, h₁₀, hid h₁₁, hid h₁₂,
    hid h₁₃, hid h₁₄, h₁₅, hsize h₁₆, h₁₇, hsize h₁₈, h₁₉, hsize h₂₀, h₂₁, h₂₂, h₂₃, h₂₄,
    hsize h₂₅, h₂₆, hfingerprint]

/-- **Envelopes with one stream differ in the device and the time only.** -/
theorem eq_of_stream_eq (h : ValidEnvelope sha256 evidence) (hother : ValidEnvelope sha256 other)
    (hstream : other.stream = evidence.stream)
    (hfingerprint : other.evidenceFingerprint = evidence.evidenceFingerprint) :
    other = { evidence with
      deviceAlias := other.deviceAlias
      capturedAtUnixMs := other.capturedAtUnixMs } := by
  refine eq_of_canonicalFields_eq ?_ hfingerprint
  have hbytes := List.append_cancel_left hstream
  rw [canonicalFields_eq, canonicalFields_eq, fst_canonicalFields, fst_canonicalFields] at hbytes
  have hvalues := (zipWith selfDelimiting_canonicalField conflictFieldNames).injOn
    ⟨rfl, hother.fields_short⟩ ⟨rfl, h.fields_short⟩ hbytes
  calc other.canonicalFields
    _ = conflictFieldNames.zip (other.canonicalFields.map Prod.snd) :=
        (List.zip_of_prod (fst_canonicalFields other) rfl).symm
    _ = conflictFieldNames.zip (evidence.canonicalFields.map Prod.snd) := by rw [hvalues]
    _ = evidence.canonicalFields := List.zip_of_prod (fst_canonicalFields evidence) rfl

end Fingerprint

/-! ## Recording -/

section Record

variable {sha256 : Sha256} {evidence old : ConflictEvidence} {db t : Database}
  {outcome : ConflictEvidenceRegistrationOutcome}

/-- What a refused envelope leaves is the database as it was. -/
theorem eq_of_record_error {error : Error}
    (h : exec (recordConflictEvidence sha256 evidence) db = (.error error, t)) : t = db := by
  rw [recordConflictEvidence, exec_bind_error] at h
  rcases h with h | ⟨_, r, hcheck, h⟩
  · rw [exec_lift] at h
    exact (Prod.mk.inj h).2.symm
  · obtain ⟨-, rfl⟩ := exec_lift_ok.mp hcheck
    exact (exec_transaction_error.mp h).1

/-- What is left once the envelope is valid and its operation is known. -/
def recordBody (evidence : ConflictEvidence) (existing : Option String) :
    StoreProgram ConflictEvidenceRegistrationOutcome := do
  if existing.isSome then
    reject (existing ≠ some evidence.evidenceFingerprint) .mutationCollision
    pure .alreadyPresent
  else
    evidence.conflictCopyOperationId.toList.forM requireConflictCopy
    ([evidence.baseEvidenceId, evidence.localEvidenceId, evidence.remoteEvidenceId].filterMap
      id).forM (requireOwnEvidence evidence.operationId)
    insertConflictEvidence evidence
    pure .registered

theorem exec_record_ok :
    exec (recordConflictEvidence sha256 evidence) db = (.ok outcome, t) ↔
      ValidEnvelope sha256 evidence ∧
        (db.mutationIntents.lookup evidence.operationId).isSome = true ∧
        exec (recordBody evidence ((db.conflictEvidence.lookup evidence.conflictId).map
          (·.evidenceFingerprint))) db = (.ok outcome, t) := by
  have hkind : ¬ (db.mutationIntents.lookup evidence.operationId).map (·.operationKind) = none ↔
      (db.mutationIntents.lookup evidence.operationId).isSome = true := by
    rw [Option.map_eq_none_iff, Option.isSome_iff_ne_none]
  rw [recordConflictEvidence, exec_bind_ok]
  constructor
  · rintro ⟨_, r, hrun, h⟩
    obtain ⟨hvalid, rfl⟩ := exec_lift_ok.mp hrun
    obtain ⟨_, r, hrun, h⟩ := exec_bind_ok.mp (exec_transaction_ok.mp h)
    obtain ⟨rfl, rfl⟩ := exec_read_ok.mp hrun
    obtain ⟨_, r, hrun, h⟩ := exec_bind_ok.mp h
    obtain ⟨hknown, rfl⟩ := exec_reject_ok.mp hrun
    obtain ⟨_, r, hrun, h⟩ := exec_bind_ok.mp h
    obtain ⟨rfl, rfl⟩ := exec_read_ok.mp hrun
    exact ⟨validateConflictEvidence_eq_ok.mp hvalid, hkind.mp hknown, h⟩
  · rintro ⟨hvalid, hknown, h⟩
    refine ⟨(), db, exec_lift_ok.mpr ⟨validateConflictEvidence_eq_ok.mpr hvalid, rfl⟩,
      exec_transaction_ok.mpr ?_⟩
    refine exec_bind_ok.mpr ⟨_, db, exec_read_ok.mpr ⟨rfl, rfl⟩, ?_⟩
    refine exec_bind_ok.mpr ⟨(), db, exec_reject_ok.mpr ⟨hkind.mpr hknown, rfl⟩, ?_⟩
    exact exec_bind_ok.mpr ⟨_, db, exec_read_ok.mpr ⟨rfl, rfl⟩, h⟩

/-- An envelope whose conflict has one is only compared with it. -/
theorem exec_record_known (hrow : db.conflictEvidence.lookup evidence.conflictId = some old) :
    exec (recordConflictEvidence sha256 evidence) db = (.ok outcome, t) ↔
      ValidEnvelope sha256 evidence ∧
        (db.mutationIntents.lookup evidence.operationId).isSome = true ∧
        old.evidenceFingerprint = evidence.evidenceFingerprint ∧
        outcome = .alreadyPresent ∧ t = db := by
  rw [exec_record_ok, hrow, Option.map_some, recordBody, if_pos Option.isSome_some, exec_bind_ok]
  refine and_congr_right fun _ => and_congr_right fun _ => ?_
  constructor
  · rintro ⟨_, r, hrun, h⟩
    obtain ⟨hsame, rfl⟩ := exec_reject_ok.mp hrun
    obtain ⟨rfl, rfl⟩ := exec_pure_ok.mp h
    exact ⟨Option.some.inj (not_not.mp hsame), rfl, rfl⟩
  · rintro ⟨hsame, rfl, rfl⟩
    exact ⟨(), t, exec_reject_ok.mpr ⟨not_not.mpr (congrArg some hsame), rfl⟩,
      exec_pure_ok.mpr ⟨rfl, rfl⟩⟩

theorem exec_requireConflictCopy_ok {id : Uuid} {v : PUnit} :
    exec (requireConflictCopy id) db = (.ok v, t) ↔
      (∃ intent, db.mutationIntents.lookup id = some intent ∧
        intent.operationKind = .conflictCopyPublish) ∧ db = t := by
  rw [requireConflictCopy, exec_bind_ok]
  constructor
  · rintro ⟨_, r, hrun, h⟩
    obtain ⟨rfl, rfl⟩ := exec_read_ok.mp hrun
    obtain ⟨kind, r, hrun, h⟩ := exec_bind_ok.mp h
    obtain ⟨hkind, rfl⟩ := exec_the_ok.mp hrun
    obtain ⟨hcopy, rfl⟩ := exec_reject_ok.mp h
    obtain ⟨intent, hintent, rfl⟩ := Option.map_eq_some_iff.mp hkind
    exact ⟨⟨intent, hintent, not_not.mp hcopy⟩, rfl⟩
  · rintro ⟨⟨intent, hintent, hkind⟩, rfl⟩
    refine ⟨_, db, exec_read_ok.mpr ⟨rfl, rfl⟩, exec_bind_ok.mpr ⟨intent.operationKind, db,
      exec_the_ok.mpr ⟨?_, rfl⟩, exec_reject_ok.mpr ⟨not_not.mpr hkind, rfl⟩⟩⟩
    rw [hintent, Option.map_some]

theorem exec_requireOwnEvidence_ok {operationId id : Uuid} {v : PUnit} :
    exec (requireOwnEvidence operationId id) db = (.ok v, t) ↔
      (∃ row, db.mutationEvidence.lookup id = some row ∧ row.operationId = operationId) ∧
        db = t := by
  rw [requireOwnEvidence, exec_bind_ok]
  have hown : (db.mutationEvidence.lookup id).any (fun row => row.operationId = operationId) =
      true ↔ ∃ row, db.mutationEvidence.lookup id = some row ∧ row.operationId = operationId := by
    simp only [Option.any_eq_true, decide_eq_true_eq]
  constructor
  · rintro ⟨belongs, r, hrun, h⟩
    obtain ⟨rfl, rfl⟩ := exec_read_ok.mp hrun
    obtain ⟨hbelongs, rfl⟩ := exec_reject_ok.mp h
    rw [Bool.not_eq_true', Bool.not_eq_false] at hbelongs
    exact ⟨hown.mp hbelongs, rfl⟩
  · rintro ⟨hrow, rfl⟩
    refine ⟨_, db, exec_read_ok.mpr ⟨rfl, rfl⟩, exec_reject_ok.mpr ⟨?_, rfl⟩⟩
    rw [Bool.not_eq_true', Bool.not_eq_false]
    exact hown.mpr hrow

/-- No other envelope names the copy of this one. -/
def CopyUnclaimed (db : Database) (copyId : Option Uuid) : Prop :=
  ∀ id ∈ copyId, ∀ row ∈ db.conflictEvidence, row.conflictCopyOperationId ≠ some id

theorem copyUnclaimed_iff {copyId : Option Uuid} :
    copyUnclaimed db copyId = true ↔ CopyUnclaimed db copyId := by
  rw [copyUnclaimed, CopyUnclaimed, Option.all_eq_true]
  refine forall₂_congr fun id _ => ?_
  rw [beq_iff_eq, Table.count_eq_zero_iff]
  exact forall₂_congr fun row _ => by rw [beq_iff_eq]

/-- What the rows of the other tables have to say of a new envelope. -/
structure Referenced (db : Database) (evidence : ConflictEvidence) : Prop where
  operation : (db.mutationIntents.lookup evidence.operationId).isSome = true
  copy : ∀ id ∈ evidence.conflictCopyOperationId, ∃ intent,
    db.mutationIntents.lookup id = some intent ∧ intent.operationKind = .conflictCopyPublish
  evidence : ∀ id, some id ∈ evidence.evidenceIds → ∃ row,
    db.mutationEvidence.lookup id = some row ∧ row.operationId = evidence.operationId

/-- The row of a valid envelope whose references are there is written unless its copy is
claimed. -/
theorem exec_insertConflictEvidence_ok (hvalid : ValidEnvelope sha256 evidence)
    (href : Referenced db evidence) {v : PUnit} :
    exec (insertConflictEvidence evidence) db = (.ok v, t) ↔
      CopyUnclaimed db evidence.conflictCopyOperationId ∧
        ∃ table, db.conflictEvidence.insert evidence = some table ∧
          { db with conflictEvidence := table } = t := by
  have hsize : ∀ {hash size}, ValidPair hash size → each u64ToI64 size.toList = .ok () := by
    intro hash size hpair
    rw [each_eq_ok]
    exact fun n hn => u64ToI64_eq_ok.mpr (hpair.2.2 n (Option.mem_toList.mp hn))
  have hthere : ∀ o ∈ evidence.evidenceIds, evidenceExists db o = true := by
    intro o ho
    rw [evidenceExists, Option.all_eq_true]
    rintro id hid
    obtain ⟨row, hrow, -⟩ := href.evidence id (Option.mem_def.mp hid ▸ ho)
    rw [hrow, Option.isSome_some]
  have hpaired : ∀ {hash size}, ValidPair hash size → paired hash size = true :=
    fun hpair => beq_iff_eq.mpr hpair.1
  have hcopy : evidence.conflictCopyOperationId.all (fun id => intentExists db id) = true := by
    rw [Option.all_eq_true]
    intro id hid
    obtain ⟨intent, hintent, -⟩ := href.copy id hid
    rw [intentExists, hintent, Option.isSome_some]
  have hrequire : (copyUnclaimed db evidence.conflictCopyOperationId = true ∧
      intentExists db evidence.operationId = true ∧
      evidence.conflictCopyOperationId.all (fun id => intentExists db id) = true ∧
      evidenceExists db evidence.baseEvidenceId = true ∧
      evidenceExists db evidence.localEvidenceId = true ∧
      evidenceExists db evidence.remoteEvidenceId = true ∧
      paired evidence.baseSha256 evidence.baseByteLength = true ∧
      paired evidence.localSha256 evidence.localByteLength = true ∧
      paired evidence.remoteSha256 evidence.remoteByteLength = true ∧
      paired evidence.expectedConflictCopySha256 evidence.expectedConflictCopyByteLength = true) ↔
      CopyUnclaimed db evidence.conflictCopyOperationId := by
    rw [← copyUnclaimed_iff]
    exact and_iff_left ⟨href.operation, hcopy, hthere _ (by simp [ConflictEvidence.evidenceIds]),
      hthere _ (by simp [ConflictEvidence.evidenceIds]),
      hthere _ (by simp [ConflictEvidence.evidenceIds]), hpaired hvalid.base,
      hpaired hvalid.localContent, hpaired hvalid.remote, hpaired hvalid.expectedCopy⟩
  simp only [insertConflictEvidence, exec_bind_ok, exec_lift_ok, exec_read_ok, exec_require_ok,
    exec_the_ok, exec_write_ok, hsize hvalid.base, hsize hvalid.localContent,
    hsize hvalid.remote, hsize hvalid.expectedCopy, u64ToI64_eq_ok.mpr hvalid.captured]
  constructor
  · rintro ⟨_, r, ⟨-, rfl⟩, _, r, ⟨-, rfl⟩, _, r, ⟨-, rfl⟩, _, r, ⟨-, rfl⟩, _, r, ⟨-, rfl⟩,
      _, r, ⟨rfl, rfl⟩, _, r, ⟨hall, rfl⟩, table, r, ⟨htable, rfl⟩, rfl⟩
    exact ⟨hrequire.mp hall, table, htable, rfl⟩
  · rintro ⟨hunclaimed, table, htable, rfl⟩
    exact ⟨(), db, ⟨trivial, rfl⟩, (), db, ⟨trivial, rfl⟩, (), db, ⟨trivial, rfl⟩, (), db,
      ⟨trivial, rfl⟩, (), db, ⟨trivial, rfl⟩, db, db, ⟨rfl, rfl⟩, (), db,
      ⟨hrequire.mpr hunclaimed, rfl⟩, table, db, ⟨htable, rfl⟩, rfl⟩

/-- An envelope of a new conflict is registered exactly if it is valid, what it refers to
is there, and its copy has no other envelope. -/
theorem exec_record_new (hrow : db.conflictEvidence.lookup evidence.conflictId = none) :
    exec (recordConflictEvidence sha256 evidence) db = (.ok outcome, t) ↔
      ValidEnvelope sha256 evidence ∧ Referenced db evidence ∧
        CopyUnclaimed db evidence.conflictCopyOperationId ∧
        outcome = .registered ∧ ∃ table, db.conflictEvidence.insert evidence = some table ∧
          { db with conflictEvidence := table } = t := by
  have hown : ∀ id, id ∈ evidence.evidenceIds.filterMap (fun o => o) ↔
      some id ∈ evidence.evidenceIds := by
    intro id
    simp
  rw [exec_record_ok, hrow, Option.map_none, recordBody, if_neg (by simp), exec_bind_ok]
  refine and_congr_right fun hvalid => ?_
  constructor
  · rintro ⟨hoperation, _, r, hrun, h⟩
    obtain ⟨hcopy, rfl⟩ := (exec_forM_checks_ok fun _ _ => exec_requireConflictCopy_ok).mp hrun
    obtain ⟨_, r, hrun, h⟩ := exec_bind_ok.mp h
    obtain ⟨hevidence, rfl⟩ :=
      (exec_forM_checks_ok fun _ _ => exec_requireOwnEvidence_ok).mp hrun
    obtain ⟨_, r, hrun, h⟩ := exec_bind_ok.mp h
    obtain ⟨rfl, rfl⟩ := exec_pure_ok.mp h
    have href : Referenced db evidence := ⟨hoperation, fun id hid => hcopy id
      (Option.mem_toList.mpr hid), fun id hid => hevidence id ((hown id).mpr hid)⟩
    obtain ⟨hunclaimed, htable⟩ := (exec_insertConflictEvidence_ok hvalid href).mp hrun
    exact ⟨href, hunclaimed, rfl, htable⟩
  · rintro ⟨href, hunclaimed, rfl, htable⟩
    refine ⟨href.operation, (), db, ?_, exec_bind_ok.mpr ⟨(), db, ?_, exec_bind_ok.mpr ⟨(), t,
      (exec_insertConflictEvidence_ok hvalid href).mpr ⟨hunclaimed, htable⟩,
      exec_pure_ok.mpr ⟨rfl, rfl⟩⟩⟩⟩
    · exact (exec_forM_checks_ok fun _ _ => exec_requireConflictCopy_ok).mpr
        ⟨fun id hid => href.copy id (Option.mem_toList.mp hid), rfl⟩
    · exact (exec_forM_checks_ok fun _ _ => exec_requireOwnEvidence_ok).mpr
        ⟨fun id hid => href.evidence id ((hown id).mp hid), rfl⟩

/-- A valid envelope is read back as it was written. -/
theorem exec_conflictEvidence_of_row {conflictId : String} (hvalid : ValidEnvelope sha256 evidence)
    (hrow : db.conflictEvidence.lookup conflictId = some evidence) :
    exec (conflictEvidence conflictId) db = (.ok (some evidence), db) := by
  have hid : evidence.conflictId = conflictId := (Table.lookup_eq_some_iff.mp hrow).2
  have hcode : isRedactedCode conflictId = true :=
    hid ▸ hvalid.codes evidence.conflictId (by simp [ConflictEvidence.codes])
  rw [conflictEvidence, exec_bind_ok]
  refine ⟨(), db, exec_lift_ok.mpr ⟨validateRedactedCode_eq_ok.mpr hcode, rfl⟩, ?_⟩
  rw [loadConflictEvidence, exec_bind_ok]
  refine ⟨some evidence, db, exec_read_ok.mpr ⟨hrow, rfl⟩, ?_⟩
  dsimp only
  rw [decode_columns hvalid]
  rfl

end Record

end Store
end MyVault
