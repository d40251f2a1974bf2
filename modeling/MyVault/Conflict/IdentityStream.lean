import MyVault.Conflict.Identity
import Mathlib.Data.List.GetD
import Mathlib.Data.Nat.Digits.Defs

/-!
# The conflict identity stream is injective

Every field of the stream is written as a name and a value, each behind its
length, with a byte between them that says whether the value is there.  Such a
field can be cut off the front in one way only (`selfDelimiting_fieldBytes`), so
the stream determines the list of its values, and the values determine the input.

* `identityStream_injective`: equal streams come from equal inputs.
* `operationName_injective`: no domain contains the byte 0 that separates it from
  the conflict id.
* `conflict_identities_are_injective`: where SHA-256 has no collision on the
  streams and UUIDv5 none on the names, ids and operation ids are injective too.

## Where the assumption stands

Neither SHA-256 nor UUIDv5 is defined here.  They are parameters, and that they do not collide is
assumed on the values in question: the streams of the conflicts of `S` and the names of their
operations.  What is proved without it is the part the code answers for, namely that different
accepted inputs are never hashed from the same bytes.

The length of a field is written in eight bytes, so it would wrap for a field of 2^64 bytes.  An
accepted input has only shorter ones (`AcceptedIdentity.fieldValues_short`): its ids and its path
are bounded, and a length is written in decimal digits.
-/

namespace MyVault
namespace Conflict

open VaultPath SelfDelimiting

/-! ## One field -/

/-- A value behind its length. -/
def lengthDelimited (value : String) : List UInt8 := u64Be (strLen value) ++ strBytes value

theorem selfDelimiting_lengthDelimited :
    SelfDelimiting {s : String | strLen s < wordLimit} lengthDelimited := by
  have hmaps : Set.MapsTo strBytes {s : String | strLen s < wordLimit}
      {xs : List UInt8 | xs.length ∈ {n | n < wordLimit}} := fun s hs => by
    show (strBytes s).length < wordLimit
    rw [length_strBytes]
    exact hs
  have h := (length_append selfDelimiting_u64Be).comp hmaps strBytes_injective.injOn
  simp only [length_strBytes] at h
  exact h

theorem fieldBytes_eq (name : String) (value : Option String) :
    fieldBytes name value =
      u64Be (strLen name) ++ strBytes name ++ tagged 1 0 (u64Be 0) lengthDelimited value := by
  cases value <;> rfl

/-- **A field can be cut off in one way only.** -/
theorem selfDelimiting_fieldBytes (name : String) :
    SelfDelimiting {v : Option String | ∀ s ∈ v, strLen s < wordLimit} (fieldBytes name) := by
  have h := (selfDelimiting_lengthDelimited.option (by decide : (1 : UInt8) ≠ 0)
    (u64Be 0)).const_append (u64Be (strLen name) ++ strBytes name)
  rw [funext (fieldBytes_eq name)]
  exact h

/-! ## The whole stream -/

/-- The names of the fields, in the frozen order. -/
def fieldNames : List String :=
  ["identity_version", "account_id", "remote_root_id", "object_identity", "stable_cell_id",
    "classification_code", "canonical_identity_path", "target_parent_identity",
    "base_sha256", "base_byte_length", "local_sha256", "local_byte_length",
    "remote_sha256", "remote_byte_length", "naming_version"]

/-- The two values a fingerprint is written as. -/
def fingerprintValues (value : Option ContentFingerprint) : List (Option String) :=
  [value.map ContentFingerprint.sha256, value.map fun content => toString content.byteLength]

/-- The values of the fields. -/
def fieldValues (input : ConflictIdentityInput) : List (Option String) :=
  [some conflictIdVersion, some input.accountId, some input.remoteRootId,
    some input.objectIdentity, some input.cell.asStr, some input.outcome.asStr,
    some input.canonicalIdentityPath, some input.targetParentId] ++
  fingerprintValues input.base ++ fingerprintValues input.localContent ++
  fingerprintValues input.remote ++ [some input.namingVersion]

theorem pushFingerprint_eq (stream : List UInt8) (front : String)
    (value : Option ContentFingerprint) :
    pushFingerprint stream front value =
      stream ++ fieldBytes (front ++ "_sha256") (value.map ContentFingerprint.sha256) ++
        fieldBytes (front ++ "_byte_length")
          (value.map fun content => toString content.byteLength) := by
  cases value <;> rfl

theorem identityStream_eq (input : ConflictIdentityInput) :
    identityStream input = (List.zipWith fieldBytes fieldNames (fieldValues input)).flatten := by
  have hbase : "base" ++ "_sha256" = "base_sha256" := rfl
  have hbase' : "base" ++ "_byte_length" = "base_byte_length" := rfl
  have hlocal : "local" ++ "_sha256" = "local_sha256" := rfl
  have hlocal' : "local" ++ "_byte_length" = "local_byte_length" := rfl
  have hremote : "remote" ++ "_sha256" = "remote_sha256" := rfl
  have hremote' : "remote" ++ "_byte_length" = "remote_byte_length" := rfl
  simp only [identityStream, pushFingerprint_eq, pushField, fieldNames, fieldValues,
    fingerprintValues, hbase, hbase', hlocal, hlocal', hremote, hremote', List.nil_append,
    List.cons_append, List.zipWith_cons_cons, List.zipWith_nil_left, List.flatten_cons,
    List.flatten_nil, List.append_nil, List.append_assoc]

/-! ## Accepted inputs have short fields -/

theorem strLen_le_of_length {s : String} {n : ℕ} (h : s.toList.length ≤ n) : strLen s ≤ 4 * n :=
  (utf8Len_le _).trans (Nat.mul_le_mul_left 4 h)

theorem strLen_lt_of_isRemoteId {s : String} (h : isRemoteId s = true) : strLen s < wordLimit := by
  rw [isRemoteId, Bool.and_eq_true, decide_eq_true_eq] at h
  have hword : 512 < wordLimit := by decide
  exact Nat.lt_of_le_of_lt h.1.2 hword

theorem strLen_lt_of_isLowerHex64 {s : String} (h : isLowerHex64 s = true) :
    strLen s < wordLimit := by
  rw [isLowerHex64, Bool.and_eq_true, decide_eq_true_eq] at h
  have hword : 64 < wordLimit := by decide
  exact h.1 ▸ hword

theorem strLen_toString_lt {n : ℕ} (h : fitsI64 n = true) : strLen (toString n) < wordLimit := by
  rw [fitsI64, decide_eq_true_eq] at h
  have hlen : (toString n).toList.length ≤ 19 := by
    change (Nat.repr n).toList.length ≤ 19
    rw [Nat.toList_repr]
    exact Nat.toDigits_length 10 n 19 (by omega) (h.trans (by decide))
  have hword : 4 * 19 < wordLimit := by decide
  exact Nat.lt_of_le_of_lt (strLen_le_of_length hlen) hword

theorem toString_nat_injective : Function.Injective (toString : ℕ → String) := by
  intro m n h
  have hdigits := congrArg String.toList h
  change (Nat.repr m).toList = (Nat.repr n).toList at hdigits
  rw [Nat.toList_repr, Nat.toList_repr] at hdigits
  rw [← Nat.ofDigitChars_ten_toDigits (n := m), hdigits, Nat.ofDigitChars_ten_toDigits]

section Accepted

variable {u : Unicode}

/-- An exact path is its own canonical text. -/
theorem asStr_of_exactVaultPath {value : Text} {path : VaultPath u}
    (h : exactVaultPath u value = some path) : path.asStr = value := by
  unfold exactVaultPath at h
  split at h
  · exact absurd h (by simp)
  · split at h
    · rename_i hcond
      rw [Option.some.injEq] at h
      exact h ▸ hcond.1
    · exact absurd h (by simp)

/-- What `validate_identity_input` accepts. -/
structure AcceptedIdentity (u : Unicode) (input : ConflictIdentityInput) : Prop where
  naming : input.namingVersion = conflictNamingVersion
  path : (exactVaultPath u input.canonicalIdentityPath.toList).isSome
  ids : ∀ id ∈ [input.accountId, input.remoteRootId, input.objectIdentity, input.targetParentId],
    isRemoteId id = true
  fingerprints : ∀ content,
    content ∈ input.base ∨ content ∈ input.localContent ∨ content ∈ input.remote →
    validFingerprint content = true

theorem acceptedIdentity_of_ok {input : ConflictIdentityInput}
    (h : validateIdentityInput u input = .ok ()) : AcceptedIdentity u input := by
  unfold validateIdentityInput at h
  split at h
  · exact absurd h (by simp)
  rename_i hnaming
  split at h
  · exact absurd h (by simp)
  rename_i hpath
  split at h
  · exact absurd h (by simp)
  rename_i hfields
  simp only [Bool.or_eq_true, not_or, Bool.not_eq_true] at hfields
  obtain ⟨⟨⟨hids, hlocal⟩, hremote⟩, hbase⟩ := hfields
  have hopt : ∀ o : Option ContentFingerprint,
      o.any (fun content => !validFingerprint content) = false →
      ∀ content ∈ o, validFingerprint content = true := by
    rintro o ho content rfl
    simpa using ho
  refine ⟨not_ne_iff.mp hnaming, ?_, fun id hid => ?_, ?_⟩
  · simpa [Option.isSome_iff_ne_none] using hpath
  · have hid' := List.any_eq_false.mp hids id hid
    simpa using hid'
  · rintro content (hc | hc | hc)
    · exact hopt _ hbase content hc
    · exact hopt _ hlocal content hc
    · exact hopt _ hremote content hc

theorem fingerprintValues_short {o : Option ContentFingerprint}
    (h : ∀ content ∈ o, validFingerprint content = true) :
    ∀ v ∈ fingerprintValues o, ∀ s ∈ v, strLen s < wordLimit := by
  intro v hv s hs
  cases o with
  | none =>
      have hnone : v = none := by simpa [fingerprintValues] using hv
      exact absurd hs (by simp [hnone])
  | some content =>
      have hvalid := h content rfl
      rw [validFingerprint, Bool.and_eq_true] at hvalid
      rcases List.mem_cons.mp hv with rfl | hv
      · obtain rfl := Option.some.inj hs
        exact strLen_lt_of_isLowerHex64 hvalid.1
      · rw [List.mem_singleton] at hv
        subst hv
        obtain rfl := Option.some.inj hs
        exact strLen_toString_lt hvalid.2

/-- Every field of an accepted input is shorter than a machine word can count. -/
theorem AcceptedIdentity.fieldValues_short {input : ConflictIdentityInput}
    (h : AcceptedIdentity u input) : ∀ v ∈ fieldValues input, ∀ s ∈ v, strLen s < wordLimit := by
  have hcell : strLen input.cell.asStr < wordLimit := by cases input.cell <;> decide
  have houtcome : strLen input.outcome.asStr < wordLimit := by cases input.outcome <;> decide
  have hpath : strLen input.canonicalIdentityPath < wordLimit := by
    obtain ⟨path, hexact⟩ := Option.isSome_iff_exists.mp h.path
    have hlen := path.fits.2.1
    change utf8Len path.asStr ≤ maxPathBytes at hlen
    rw [asStr_of_exactVaultPath hexact] at hlen
    have hword : maxPathBytes < wordLimit := by decide
    exact Nat.lt_of_le_of_lt hlen hword
  have hnaming : strLen input.namingVersion < wordLimit := by
    rw [h.naming]
    decide
  have hversion : strLen conflictIdVersion < wordLimit := by decide
  have hids := fun id hid => strLen_lt_of_isRemoteId (h.ids id hid)
  simp only [List.mem_cons, List.not_mem_nil, or_false, forall_eq_or_imp, forall_eq] at hids
  obtain ⟨haccount, hroot, hobject, hparent⟩ := hids
  have hnil : ∀ v ∈ ([] : List (Option String)), ∀ s ∈ v, strLen s < wordLimit := by simp
  simp only [fieldValues, List.forall_mem_append, List.forall_mem_cons, Option.mem_some_iff,
    forall_eq']
  exact ⟨⟨⟨⟨⟨hversion, haccount, hroot, hobject, hcell, houtcome, hpath, hparent, hnil⟩,
    fingerprintValues_short fun c hc => h.fingerprints c (Or.inl hc)⟩,
    fingerprintValues_short fun c hc => h.fingerprints c (Or.inr (Or.inl hc))⟩,
    fingerprintValues_short fun c hc => h.fingerprints c (Or.inr (Or.inr hc))⟩, hnaming, hnil⟩

end Accepted

/-! ## The values determine the input -/

theorem fingerprintValues_injective : Function.Injective fingerprintValues := by
  intro a b h
  rw [fingerprintValues, fingerprintValues, List.cons.injEq, List.cons.injEq] at h
  obtain ⟨hsha, hlen, -⟩ := h
  cases a with
  | none =>
      cases b with
      | none => rfl
      | some b => exact absurd hsha (by simp)
  | some a =>
      cases b with
      | none => exact absurd hsha (by simp)
      | some b =>
          obtain ⟨asha, alen⟩ := a
          obtain ⟨bsha, blen⟩ := b
          simp only [Option.map_some, Option.some.injEq] at hsha hlen
          rw [hsha, toString_nat_injective hlen]

theorem fieldValues_injective : Function.Injective fieldValues := by
  intro a b h
  have hcut : ∀ o o' : Option ContentFingerprint,
      (fingerprintValues o).length = (fingerprintValues o').length := fun _ _ => rfl
  unfold fieldValues at h
  simp only [List.append_assoc] at h
  obtain ⟨hids, h⟩ := List.append_inj h rfl
  obtain ⟨hbase, h⟩ := List.append_inj h (hcut _ _)
  obtain ⟨hlocal, h⟩ := List.append_inj h (hcut _ _)
  obtain ⟨hremote, hnaming⟩ := List.append_inj h (hcut _ _)
  simp only [List.cons.injEq, Option.some.injEq, and_true, true_and] at hids hnaming
  obtain ⟨haccount, hroot, hobject, hcell, houtcome, hpath, hparent⟩ := hids
  obtain ⟨_, _, _, _, _, _, _, _, _, _, _⟩ := a
  obtain ⟨_, _, _, _, _, _, _, _, _, _, _⟩ := b
  simp only at haccount hroot hobject hcell houtcome hpath hparent hbase hlocal hremote hnaming
  rw [haccount, hroot, hobject, ConflictCell.asStr_injective hcell,
    ConflictOutcome.asStr_injective houtcome, hpath, hparent, fingerprintValues_injective hbase,
    fingerprintValues_injective hlocal, fingerprintValues_injective hremote, hnaming]

/-- **Equal streams come from equal inputs.** -/
theorem identityStream_injective {u : Unicode} {a b : ConflictIdentityInput}
    (ha : AcceptedIdentity u a) (hb : AcceptedIdentity u b)
    (h : identityStream a = identityStream b) : a = b := by
  have hfields := (zipWith selfDelimiting_fieldBytes fieldNames).injOn
  rw [identityStream_eq, identityStream_eq] at h
  exact fieldValues_injective (hfields ⟨rfl, ha.fieldValues_short⟩ ⟨rfl, hb.fieldValues_short⟩ h)

/-! ## Operation names -/

/-- Every operation domain. -/
def ConflictOperationDomain.all : List ConflictOperationDomain :=
  [.conflictCopy, .mergePublish, .basePublish, .localPublish, .remoteExistingBlocked,
    .guardedLocalRename, .guardedLocalMove, .guardedLocalRenameMove]

theorem ConflictOperationDomain.mem_all (domain : ConflictOperationDomain) :
    domain ∈ ConflictOperationDomain.all := by
  cases domain <;> decide

theorem ConflictOperationDomain.asStr_injective :
    Function.Injective ConflictOperationDomain.asStr := fun a b =>
  List.inj_on_of_nodup_map
    (by decide : (ConflictOperationDomain.all.map ConflictOperationDomain.asStr).Nodup)
    a.mem_all b.mem_all

/-- No spelling of a domain contains the byte that ends it. -/
theorem ConflictOperationDomain.notMem_strBytes (domain : ConflictOperationDomain) :
    0 ∉ strBytes domain.asStr := by
  cases domain <;> decide

/-- **A name determines its domain and its conflict.** -/
theorem operationName_injective {d e : ConflictOperationDomain} {x y : String}
    (h : operationName d x = operationName e y) : d = e ∧ x = y := by
  unfold operationName at h
  rw [List.append_cons, List.append_cons (strBytes e.asStr)] at h
  obtain ⟨hd, hxy⟩ := terminated 0 _ d.notMem_strBytes _ e.notMem_strBytes _ _ h
  exact ⟨ConflictOperationDomain.asStr_injective (strBytes_injective hd), strBytes_injective hxy⟩

/-! ## Ids -/

section Ids

variable {u : Unicode} {sha256 : Sha256}

theorem deriveConflictId_eq_ok_iff {input : ConflictIdentityInput} {id : String} :
    deriveConflictId u sha256 input = .ok id ↔
      validateIdentityInput u input = .ok () ∧ id = hexSha256 sha256 (identityStream input) := by
  unfold deriveConflictId
  split
  · rename_i failure h
    simp [h]
  · rename_i h
    simp [h, eq_comm]

/-- Where the digest has no collision on the streams, equal ids come from equal inputs. -/
theorem eq_of_deriveConflictId_eq {a b : ConflictIdentityInput} {id : String}
    (hsha : sha256 (identityStream a) = sha256 (identityStream b) →
      identityStream a = identityStream b)
    (ha : deriveConflictId u sha256 a = .ok id) (hb : deriveConflictId u sha256 b = .ok id) :
    a = b := by
  obtain ⟨hva, hida⟩ := deriveConflictId_eq_ok_iff.mp ha
  obtain ⟨hvb, hidb⟩ := deriveConflictId_eq_ok_iff.mp hb
  exact identityStream_injective (acceptedIdentity_of_ok hva) (acceptedIdentity_of_ok hvb)
    (hsha (hexSha256_inj (hida.symm.trans hidb)))

end Ids

/-- The names that the operations of the conflicts in `S` are derived from. -/
def operationNames (u : Unicode) (sha256 : Sha256) (S : Set ConflictIdentityInput) :
    Set (List UInt8) :=
  {name | ∃ domain, ∃ input ∈ S, ∃ id,
    deriveConflictId u sha256 input = .ok id ∧ name = operationName domain id}

/-- **The conflict identity stream is injective**, and for conflicts on whose streams
SHA-256 has no collision and on whose names UUIDv5 has none, so are the conflict ids
and the operation ids. -/
theorem conflict_identities_are_injective (u : Unicode) (sha256 : Sha256) (newV5 : UuidV5)
    (S : Set ConflictIdentityInput) (hsha : Set.InjOn sha256 (identityStream '' S))
    (hv5 : Set.InjOn (newV5 operationNamespace) (operationNames u sha256 S)) :
    (∀ a b, validateIdentityInput u a = .ok () → validateIdentityInput u b = .ok () →
      identityStream a = identityStream b → a = b) ∧
    (∀ a ∈ S, ∀ b ∈ S, ∀ id, deriveConflictId u sha256 a = .ok id →
      deriveConflictId u sha256 b = .ok id → a = b) ∧
    (∀ d e, ∀ a ∈ S, ∀ b ∈ S, ∀ x y, deriveConflictId u sha256 a = .ok x →
      deriveConflictId u sha256 b = .ok y →
      deriveOperationId newV5 d x = deriveOperationId newV5 e y → d = e ∧ a = b) := by
  have hids : ∀ a ∈ S, ∀ b ∈ S, ∀ id, deriveConflictId u sha256 a = .ok id →
      deriveConflictId u sha256 b = .ok id → a = b := fun a ha b hb id hida hidb =>
    eq_of_deriveConflictId_eq (hsha ⟨a, ha, rfl⟩ ⟨b, hb, rfl⟩) hida hidb
  refine ⟨fun a b ha hb => identityStream_injective (acceptedIdentity_of_ok ha)
    (acceptedIdentity_of_ok hb), hids, ?_⟩
  intro d e a ha b hb x y hx hy hop
  obtain ⟨hde, hxy⟩ := operationName_injective
    (hv5 ⟨d, a, ha, x, hx, rfl⟩ ⟨e, b, hb, y, hy, rfl⟩ hop)
  exact ⟨hde, hids a ha b hb x hx (hxy ▸ hy)⟩

/-! ## Two conflicts -/

/-- A conflict of one account. -/
def sampleIdentity (accountId : String) : ConflictIdentityInput where
  accountId := accountId
  remoteRootId := "root-1"
  objectIdentity := "object-1"
  cell := .c09
  outcome := .needsReconcile
  canonicalIdentityPath := "notes/a.md"
  targetParentId := "parent-1"
  base := none
  localContent := none
  remote := some ⟨"0303030303030303030303030303030303030303030303030303030303030303", 12⟩
  namingVersion := conflictNamingVersion

/-- The SHA-256 digest of the stream of the first sample conflict. -/
def sampleDigest₁ : List.Vector UInt8 32 := ⟨
  [0x9f, 0x4c, 0x03, 0x02, 0x26, 0x2c, 0xd6, 0xcc, 0xa4, 0xd6, 0x94,
   0xc5, 0xbd, 0x49, 0x78, 0x28, 0x37, 0xe0, 0x02, 0x36, 0x3a, 0xa8,
   0xee, 0xde, 0x4c, 0x55, 0xea, 0x73, 0x4a, 0xeb, 0xae, 0x3a], rfl⟩

/-- The SHA-256 digest of the stream of the second one. -/
def sampleDigest₂ : List.Vector UInt8 32 := ⟨
  [0xe2, 0xf2, 0x29, 0xab, 0xb0, 0xd2, 0xab, 0xc2, 0xb7, 0x05, 0x8c,
   0x71, 0x52, 0x3e, 0xab, 0xd9, 0x3c, 0xb0, 0x81, 0x6d, 0xce, 0x5c,
   0xa6, 0x94, 0x57, 0x9c, 0xbd, 0x03, 0xc6, 0x62, 0xa4, 0xcb], rfl⟩

/-- The SHA-256 digests of the streams of the two sample conflicts. -/
def sampleStreamDigest : Sha256 := fun stream =>
  if stream = identityStream (sampleIdentity "account-1") then sampleDigest₁ else sampleDigest₂

/-- The conflict id of a sample conflict. -/
def sampleId (accountId : String) : String :=
  hexSha256 sampleStreamDigest (identityStream (sampleIdentity accountId))

/-- The names of the operations of the two sample conflicts. -/
def sampleNames : List (List UInt8) :=
  ConflictOperationDomain.all.flatMap fun domain =>
    [operationName domain (sampleId "account-1"), operationName domain (sampleId "account-2")]

/-- The version-5 UUIDs of those names, in the same order. -/
def sampleUuids : List Uuid :=
  [⟨[0xe3, 0x7c, 0x43, 0x72, 0x47, 0x9c, 0x5e, 0x04,
      0xbb, 0xd6, 0xaf, 0x8e, 0x29, 0x66, 0xb9, 0x48], rfl⟩,
   ⟨[0xeb, 0x10, 0x91, 0x05, 0xb4, 0xeb, 0x56, 0x3b,
      0xb0, 0x24, 0xbf, 0x47, 0x1e, 0xe0, 0x01, 0xd3], rfl⟩,
   ⟨[0x32, 0x5b, 0xf7, 0xcb, 0xd3, 0xf5, 0x5d, 0xae,
      0xac, 0x10, 0xa1, 0x28, 0xc0, 0x0d, 0xf5, 0x99], rfl⟩,
   ⟨[0xc3, 0x0f, 0x66, 0x95, 0x81, 0xc8, 0x53, 0x0a,
      0xa8, 0x02, 0x40, 0xb9, 0x45, 0x35, 0x0b, 0x8c], rfl⟩,
   ⟨[0x02, 0xb8, 0xe5, 0x24, 0x0e, 0x30, 0x55, 0xdd,
      0x9a, 0x64, 0xb1, 0x61, 0xb2, 0xee, 0xd5, 0x4b], rfl⟩,
   ⟨[0x71, 0x4c, 0x8b, 0xd1, 0xff, 0x7e, 0x54, 0xe5,
      0xad, 0x5f, 0x14, 0xae, 0xbc, 0xed, 0xb6, 0xe2], rfl⟩,
   ⟨[0x75, 0x7e, 0x3c, 0x3e, 0xc7, 0xba, 0x51, 0x10,
      0x94, 0x1e, 0x82, 0x11, 0xd3, 0x33, 0x21, 0xb6], rfl⟩,
   ⟨[0x66, 0x1c, 0x70, 0x9f, 0x0e, 0x6c, 0x5b, 0xd1,
      0xaa, 0xda, 0x5b, 0x2c, 0x29, 0x1f, 0x9c, 0x06], rfl⟩,
   ⟨[0x1c, 0x7f, 0xda, 0x84, 0x32, 0x9b, 0x53, 0x1a,
      0xab, 0x83, 0xa2, 0x12, 0x46, 0xaa, 0x06, 0xfa], rfl⟩,
   ⟨[0x36, 0x77, 0x9d, 0x14, 0xa6, 0xa6, 0x5d, 0xf3,
      0xa9, 0xad, 0x6b, 0xff, 0xaf, 0xed, 0x7d, 0xf1], rfl⟩,
   ⟨[0xbd, 0x09, 0xcd, 0x1a, 0x6a, 0x51, 0x5c, 0x62,
      0x9d, 0xf8, 0xd0, 0xb4, 0xe1, 0x8f, 0xee, 0xc8], rfl⟩,
   ⟨[0x54, 0x9a, 0x27, 0xe4, 0x24, 0x28, 0x52, 0x22,
      0xa8, 0xbd, 0x0b, 0xaa, 0x78, 0x86, 0x93, 0xdd], rfl⟩,
   ⟨[0x22, 0x9d, 0x64, 0xf7, 0x27, 0x02, 0x52, 0x08,
      0xa4, 0xd4, 0x26, 0x85, 0x62, 0x5c, 0x6a, 0x24], rfl⟩,
   ⟨[0x6b, 0x3e, 0x26, 0x84, 0x74, 0x04, 0x53, 0x64,
      0xb5, 0x99, 0x86, 0x17, 0x92, 0x26, 0x41, 0xfd], rfl⟩,
   ⟨[0x9b, 0x76, 0x85, 0x55, 0x77, 0xb9, 0x5d, 0xeb,
      0x8b, 0xf0, 0xf3, 0xff, 0x44, 0x9a, 0x42, 0xa4], rfl⟩,
   ⟨[0xa6, 0xb7, 0x3b, 0xb3, 0x54, 0xfb, 0x59, 0xf3,
      0x90, 0xd2, 0x12, 0x9c, 0x76, 0x7d, 0x79, 0xc7], rfl⟩]

/-- The version-5 UUIDs of the sample names. -/
def sampleV5 : UuidV5 := fun _ name => sampleUuids.getD (sampleNames.idxOf name) Uuid.nil

theorem sampleV5_injOn : Set.InjOn (sampleV5 operationNamespace) {name | name ∈ sampleNames} := by
  intro m hm n hn h
  have hlen : sampleUuids.length = sampleNames.length := rfl
  have hnodup : sampleUuids.Nodup := by decide
  have hm' : sampleNames.idxOf m < sampleUuids.length := hlen ▸ List.idxOf_lt_length_iff.mpr hm
  have hn' : sampleNames.idxOf n < sampleUuids.length := hlen ▸ List.idxOf_lt_length_iff.mpr hn
  rw [sampleV5, sampleV5, List.getD_eq_getElem _ _ hm', List.getD_eq_getElem _ _ hn'] at h
  exact (List.idxOf_inj hm).mp ((List.Nodup.getElem_inj_iff hnodup).mp h)

theorem conflict_identities_are_injective_accounts :
    ∃ x y, deriveConflictId Unicode.ascii sampleStreamDigest (sampleIdentity "account-1") = .ok x ∧
      deriveConflictId Unicode.ascii sampleStreamDigest (sampleIdentity "account-2") = .ok y ∧
      x ≠ y ∧
      deriveOperationId sampleV5 .mergePublish x ≠ deriveOperationId sampleV5 .basePublish x := by
  have hne : identityStream (sampleIdentity "account-1") ≠
      identityStream (sampleIdentity "account-2") := by decide
  have hdigest : sampleStreamDigest (identityStream (sampleIdentity "account-1")) ≠
      sampleStreamDigest (identityStream (sampleIdentity "account-2")) := by
    rw [sampleStreamDigest, if_pos rfl, sampleStreamDigest, if_neg hne.symm]
    decide
  have hsha : Set.InjOn sampleStreamDigest (identityStream ''
      {sampleIdentity "account-1", sampleIdentity "account-2"}) := by
    rintro _ ⟨a, rfl | rfl, rfl⟩ _ ⟨b, rfl | rfl, rfl⟩ h
    · rfl
    · exact absurd h hdigest
    · exact absurd h.symm hdigest
    · rfl
  have hv5 : Set.InjOn (sampleV5 operationNamespace) (operationNames Unicode.ascii
      sampleStreamDigest {sampleIdentity "account-1", sampleIdentity "account-2"}) := by
    refine sampleV5_injOn.mono ?_
    rintro _ ⟨domain, a, ha, id, hid, rfl⟩
    obtain ⟨-, rfl⟩ := deriveConflictId_eq_ok_iff.mp hid
    refine List.mem_flatMap.mpr ⟨domain, domain.mem_all, ?_⟩
    rcases ha with rfl | rfl
    · exact List.mem_cons_self
    · exact List.mem_cons_of_mem _ List.mem_cons_self
  have h := conflict_identities_are_injective Unicode.ascii sampleStreamDigest sampleV5 _ hsha hv5
  have hx : deriveConflictId Unicode.ascii sampleStreamDigest (sampleIdentity "account-1") =
      .ok (sampleId "account-1") := deriveConflictId_eq_ok_iff.mpr ⟨by decide, rfl⟩
  have hy : deriveConflictId Unicode.ascii sampleStreamDigest (sampleIdentity "account-2") =
      .ok (sampleId "account-2") := deriveConflictId_eq_ok_iff.mpr ⟨by decide, rfl⟩
  refine ⟨_, _, hx, hy, fun hxy => ?_, fun hop => ?_⟩
  · rw [← hxy] at hy
    exact absurd (h.2.1 _ (Or.inl rfl) _ (Or.inr rfl) _ hx hy) (by decide)
  · exact absurd (h.2.2 _ _ _ (Or.inl rfl) _ (Or.inl rfl) _ _ hx hx hop).1 (by decide)

end Conflict
end MyVault
