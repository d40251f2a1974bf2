import MyVault.Core.Json
import MyVault.Store.Validation

/-!
# Recovery intents

The records of `myvault-recovery/src/lib.rs`: what an operation is about to move, with the
checks a record has to pass, and the bytes it is stored as.

BLAKE3 and the parsing half of `serde_json` are not part of the repository, so they are
parameters.  `Host.Reads` is what is asked of the parser: it reads back what was printed.
-/

namespace MyVault
namespace Recovery

open Check VaultPath

/-- `MAX_ENTRY_BYTES`. -/
def maxEntryBytes : ℕ := 64 * 1024

/-- The errors of the file system that the source tells apart. -/
inductive IoError where
  | alreadyExists
  | notFound
  | other
  deriving DecidableEq, Repr

/-- The errors of the journal. -/
inductive Error where
  | io (kind : IoError)
  | json
  | invalidRevision
  | invalidOperationId
  | invalidTrashId
  | invalidManifestDigest
  | invalidOperationTopology
  | invalidPortablePath
  | identicalPaths
  | caseRenameContractRequired
  | invalidCaseRenameContract
  | invalidEntryName
  | entryTooLarge
  | tooManyEntries
  | tooManyDirectoryEntries
  | invalidPageSize
  | unsupportedVersion (version : ℕ)
  | journalCollision
  | intentMismatch
  | externalMutation
  | publishedButNotSynced (kind : IoError)
  deriving DecidableEq, Repr

/-! ## Records -/

/-- The digest and the length of a file. -/
structure FileRevision where
  blake3Hex : String
  byteLen : ℕ
  deriving DecidableEq, Repr

/-- What an operation does with its file. -/
inductive RecoveryOperationKind where
  | normalMove
  | caseRename
  | trash (trashId : Uuid) (manifestBlake3 : String) (trashedAtUnixMs : ℤ)
  | restore (trashId : Uuid) (manifestBlake3 : String)
  deriving DecidableEq

/-- What an operation is about to do. -/
structure RenameMoveIntent where
  version : ℕ
  operationId : Uuid
  source : String
  destination : String
  expected : FileRevision
  temp : Option String
  kind : RecoveryOperationKind
  deriving DecidableEq

/-- That an operation is over, and which intent it had. -/
structure CompletionTombstone where
  version : ℕ
  operationId : Uuid
  intentBlake3Hex : String
  deriving DecidableEq

/-! ## Checks -/

/-- The digest is spelled in lower-case hex. -/
def FileRevision.validate (revision : FileRevision) : Except Error Unit :=
  reject (isLowerHex64 revision.blake3Hex = false) .invalidRevision

/-- The ids, digests and times of a kind are well formed. -/
def RecoveryOperationKind.validate : RecoveryOperationKind → Except Error Unit
  | normalMove | caseRename => .ok ()
  | trash trashId manifestBlake3 trashedAtUnixMs => do
      reject (trashId.isNil = true) .invalidTrashId
      reject (trashedAtUnixMs < 0) .invalidOperationTopology
      reject (isLowerHex64 manifestBlake3 = false) .invalidManifestDigest
  | restore trashId manifestBlake3 => do
      reject (trashId.isNil = true) .invalidTrashId
      reject (isLowerHex64 manifestBlake3 = false) .invalidManifestDigest

/-- Where the payload of a trashed file is. -/
def trashPayloadPath (area : String) (trashId : Uuid) : String :=
  ".trash/v1/" ++ area ++ "/" ++ trashId.toHyphenated ++ "/payload"

section Paths

variable (u : Unicode)

/-- A portable path, or the error for one that is not. -/
def parsePath (path : String) : Except Error (VaultPath u) :=
  match fromPortable u path.toList with
  | some vaultPath => .ok vaultPath
  | none => .error .invalidPortablePath

/-- `canonical_portable`, and that the text is the canonical one. -/
def requireCanonical (path : String) : Except Error Unit := do
  let vaultPath ← parsePath u path
  reject (vaultPath.asStr ≠ path.toList) .invalidPortablePath

/-- Whether the path is outside the two protected folders, under any spelling. -/
def isContentPath (path : String) : Except Error Bool := do
  let vaultPath ← parsePath u path
  let firstKey := (splitSlash (Store.collisionKey vaultPath)).head?
  pure (firstKey ≠ some ".trash".toList && firstKey ≠ some ".obsidian".toList)

/-- It has to be. -/
def requireContentPath (path : String) : Except Error Unit := do
  let content ← isContentPath u path
  reject (content = false) .invalidOperationTopology

/-- The two paths differ, and those of a case rename in their spelling alone; a temporary path,
which a case rename must have, is neither of them under any spelling. -/
def validatePathRelationship (source destination : String) (caseRename : Bool)
    (temp : Option String) : Except Error Unit := do
  reject (source = destination) .identicalPaths
  let sourcePath ← parsePath u source
  let destinationPath ← parsePath u destination
  let sourceKey := Store.collisionKey sourcePath
  let destinationKey := Store.collisionKey destinationPath
  reject (sourceKey = destinationKey ∧ caseRename = false) .caseRenameContractRequired
  match caseRename, temp with
  | true, none => .error .invalidCaseRenameContract
  | true, some temp => do
      let tempPath ← parsePath u temp
      let tempKey := Store.collisionKey tempPath
      reject (sourceKey ≠ destinationKey ∨ tempKey = sourceKey ∨ tempKey = destinationKey)
        .invalidCaseRenameContract
  | false, some temp => do
      let tempPath ← parsePath u temp
      let tempKey := Store.collisionKey tempPath
      reject (tempKey = sourceKey ∨ tempKey = destinationKey) .invalidCaseRenameContract
  | false, none => .ok ()

/-- The paths are where operations of this kind have them. -/
def validateOperationTopology (kind : RecoveryOperationKind) (source destination : String)
    (temp : Option String) : Except Error Unit :=
  match kind with
  | .normalMove => do
      requireContentPath u source
      requireContentPath u destination
      reject (temp.isSome = true) .invalidOperationTopology
      validatePathRelationship u source destination false none
  | .caseRename => do
      requireContentPath u source
      requireContentPath u destination
      match temp with
      | none => .error .invalidOperationTopology
      | some temp => do
          requireContentPath u temp
          validatePathRelationship u source destination true (some temp)
  | .trash trashId _ _ => do
      requireContentPath u source
      reject (destination ≠ trashPayloadPath "items" trashId ∨
        temp ≠ some (trashPayloadPath "staging" trashId)) .invalidOperationTopology
  | .restore trashId _ => do
      requireContentPath u destination
      reject (source ≠ trashPayloadPath "items" trashId ∨ temp.isSome = true)
        .invalidOperationTopology

end Paths

namespace RenameMoveIntent

/-- `RenameMoveIntent::VERSION`. -/
def currentVersion : ℕ := 4

/-- The three paths are parsed before they are compared, and one error says both. -/
def validate (u : Unicode) (intent : RenameMoveIntent) : Except Error Unit := do
  reject (intent.version ≠ currentVersion) (.unsupportedVersion intent.version)
  reject (intent.operationId.isNil = true) .invalidOperationId
  intent.kind.validate
  intent.expected.validate
  requireCanonical u intent.source
  requireCanonical u intent.destination
  each (requireCanonical u) intent.temp.toList
  validateOperationTopology u intent.kind intent.source intent.destination intent.temp

end RenameMoveIntent

/-! ## Texts -/

/-- `trashed_at_unix_ms` of a record that was checked is not negative. -/
def jsonInteger (n : ℤ) : Text :=
  if n < 0 then '-' :: Json.number n.natAbs else Json.number n.natAbs

/-- The text that serde writes. -/
def FileRevision.json (revision : FileRevision) : Text :=
  Json.object [
    ("blake3_hex", Json.string revision.blake3Hex.toList),
    ("byte_len", Json.number revision.byteLen)]

/-- The text that serde writes, with the kind as its tag. -/
def RecoveryOperationKind.json : RecoveryOperationKind → Text
  | normalMove => Json.object [("type", Json.string "normal_move".toList)]
  | caseRename => Json.object [("type", Json.string "case_rename".toList)]
  | trash trashId manifestBlake3 trashedAtUnixMs =>
      Json.object [
        ("type", Json.string "trash".toList),
        ("trash_id", Json.string trashId.toHyphenated.toList),
        ("manifest_blake3", Json.string manifestBlake3.toList),
        ("trashed_at_unix_ms", jsonInteger trashedAtUnixMs)]
  | restore trashId manifestBlake3 =>
      Json.object [
        ("type", Json.string "restore".toList),
        ("trash_id", Json.string trashId.toHyphenated.toList),
        ("manifest_blake3", Json.string manifestBlake3.toList)]

/-- The text that serde writes. -/
def RenameMoveIntent.json (intent : RenameMoveIntent) : Text :=
  Json.object [
    ("version", Json.number intent.version),
    ("operation_id", Json.string intent.operationId.toHyphenated.toList),
    ("from", Json.string intent.source.toList),
    ("to", Json.string intent.destination.toList),
    ("expected", intent.expected.json),
    ("temp", match intent.temp with
      | some temp => Json.string temp.toList
      | none => "null".toList),
    ("kind", intent.kind.json)]

/-- The text that serde writes. -/
def CompletionTombstone.json (tombstone : CompletionTombstone) : Text :=
  Json.object [
    ("version", Json.number tombstone.version),
    ("operation_id", Json.string tombstone.operationId.toHyphenated.toList),
    ("intent_blake3_hex", Json.string tombstone.intentBlake3Hex.toList)]

/-- `canonical_bytes`: the text of the intent, within the bound. -/
def canonicalBytes (intent : RenameMoveIntent) : Except Error (List UInt8) := do
  let bytes := utf8Bytes intent.json
  reject (maxEntryBytes < bytes.length) .entryTooLarge
  pure bytes

/-! ## Parsers -/

/-- What a call runs on. -/
structure Host where
  umask : ℕ
  unicode : Unicode
  blake3 : Blake3
  /-- `VersionEnvelope`. -/
  versionEnvelope : List UInt8 → Option ℕ
  /-- `RoutingEnvelope`, with the text of its operation id. -/
  routingEnvelope : List UInt8 → Option (ℕ × String)
  intent : List UInt8 → Option RenameMoveIntent
  tombstone : List UInt8 → Option CompletionTombstone

/-- What serde cannot read is an error of its own. -/
def orJson {α : Type} : Option α → Except Error α
  | some a => .ok a
  | none => .error .json

/-- What an entry tells about an operation. -/
inductive JournalEvidence where
  | supported (intent : RenameMoveIntent)
  | unsupported (operationId : Uuid) (version : ℕ)
  deriving DecidableEq

section Decode

variable (host : Host)

/-- The tombstone of an intent: its operation and the digest of its text. -/
def CompletionTombstone.forIntent (intent : RenameMoveIntent) :
    Except Error CompletionTombstone := do
  let bytes ← canonicalBytes intent
  pure ⟨1, intent.operationId, hexBlake3 host.blake3 bytes⟩

/-- It is the tombstone of the intent. -/
def CompletionTombstone.validateFor (tombstone : CompletionTombstone)
    (intent : RenameMoveIntent) : Except Error Unit := do
  let expected ← CompletionTombstone.forIntent host intent
  reject (tombstone ≠ expected) .intentMismatch

/-- `decode_intent`: the version is read first, and must be the one that this code writes. -/
def decodeIntent (bytes : List UInt8) : Except Error RenameMoveIntent := do
  let version ← orJson (host.versionEnvelope bytes)
  reject (version ≠ RenameMoveIntent.currentVersion) (.unsupportedVersion version)
  orJson (host.intent bytes)

/-- `deserialize_canonical_nonnil_uuid`, of the text in the record. -/
def canonicalNonnilUuid (text : String) : Except Error Uuid := do
  let operationId ← orJson (Uuid.parseCanonical text.toList)
  reject (operationId.isNil = true) .json
  pure operationId

/-- What follows in `read` and in `classify_evidence` when the record was parsed. -/
def requireCanonicalRecord (operationId : Uuid) (bytes : List UInt8)
    (intent : RenameMoveIntent) : Except Error Unit := do
  intent.validate host.unicode
  reject (intent.operationId ≠ operationId) .invalidEntryName
  let canonical ← canonicalBytes intent
  reject (canonical ≠ bytes) .invalidEntryName

/-- An entry of a later version is evidence too, but its intent is not read. -/
def classifyEvidence (operationId : Uuid) (bytes : List UInt8) :
    Except Error JournalEvidence := do
  let envelope ← orJson (host.routingEnvelope bytes)
  let found ← canonicalNonnilUuid envelope.2
  reject (found ≠ operationId) .invalidEntryName
  if envelope.1 ≠ RenameMoveIntent.currentVersion then
    pure (.unsupported operationId envelope.1)
  else do
    let intent ← orJson (host.intent bytes)
    requireCanonicalRecord host operationId bytes intent
    pure (.supported intent)

/-- The parser reads back what was printed of these intents and of their tombstones. -/
structure Host.Reads (intents : RenameMoveIntent → Prop) : Prop where
  versionEnvelope : ∀ intent, intents intent →
    host.versionEnvelope (utf8Bytes intent.json) = some intent.version
  routingEnvelope : ∀ intent, intents intent →
    host.routingEnvelope (utf8Bytes intent.json) =
      some (intent.version, intent.operationId.toHyphenated)
  intent : ∀ intent, intents intent → host.intent (utf8Bytes intent.json) = some intent
  tombstone : ∀ intent tombstone, intents intent →
    CompletionTombstone.forIntent host intent = .ok tombstone →
      host.tombstone (utf8Bytes tombstone.json) = some tombstone

end Decode

/-! ## What was printed is read -/

variable {host : Host} {intent intent' : RenameMoveIntent}

/-- A record that a call may publish. -/
structure Publishable (host : Host) (intent : RenameMoveIntent) : Prop where
  valid : intent.validate host.unicode = .ok ()
  size : (utf8Bytes intent.json).length ≤ maxEntryBytes

/-- The bytes of the tombstone of an intent. -/
def tombstoneOf (host : Host) (intent : RenameMoveIntent) : CompletionTombstone :=
  ⟨1, intent.operationId, hexBlake3 host.blake3 (utf8Bytes intent.json)⟩

theorem canonicalBytes_eq_ok {bytes : List UInt8} :
    canonicalBytes intent = .ok bytes ↔
      utf8Bytes intent.json = bytes ∧ bytes.length ≤ maxEntryBytes := by
  rw [canonicalBytes, seq_eq_ok, reject_eq_ok, Nat.not_lt]
  constructor
  · rintro ⟨hsize, h⟩
    cases h
    exact ⟨rfl, hsize⟩
  · rintro ⟨rfl, hsize⟩
    exact ⟨hsize, rfl⟩

theorem Publishable.canonical (h : Publishable host intent) :
    canonicalBytes intent = .ok (utf8Bytes intent.json) := canonicalBytes_eq_ok.mpr ⟨rfl, h.size⟩

theorem Publishable.forIntent (h : Publishable host intent) :
    CompletionTombstone.forIntent host intent = .ok (tombstoneOf host intent) := by
  rw [CompletionTombstone.forIntent, h.canonical]
  rfl

theorem Publishable.version (h : Publishable host intent) :
    intent.version = RenameMoveIntent.currentVersion := by
  have hvalid := h.valid
  rw [RenameMoveIntent.validate, seq_eq_ok, reject_eq_ok, Decidable.not_not] at hvalid
  exact hvalid.1

theorem Publishable.nonnil (h : Publishable host intent) : intent.operationId.isNil = false := by
  have hvalid := h.valid
  rw [RenameMoveIntent.validate, seq_eq_ok, seq_eq_ok, reject_eq_ok, reject_eq_ok,
    Bool.not_eq_true] at hvalid
  exact hvalid.2.1

theorem Host.Reads.injective {intents : RenameMoveIntent → Prop} (h : host.Reads intents)
    (hintent : intents intent) (hintent' : intents intent')
    (hbytes : utf8Bytes intent.json = utf8Bytes intent'.json) : intent = intent' := by
  have hread := h.intent intent hintent
  rw [hbytes, h.intent intent' hintent'] at hread
  exact (Option.some.inj hread).symm

theorem Publishable.requireCanonicalRecord (h : Publishable host intent) :
    requireCanonicalRecord host intent.operationId (utf8Bytes intent.json) intent = .ok () := by
  rw [Recovery.requireCanonicalRecord, h.valid, ok_bind, reject, if_neg (by simp), ok_bind,
    h.canonical, ok_bind, reject, if_neg (by simp)]

/-- A record that was published is classified as itself. -/
theorem Publishable.classify {intents : RenameMoveIntent → Prop} (h : Publishable host intent)
    (hreads : host.Reads intents) (hintent : intents intent) :
    classifyEvidence host intent.operationId (utf8Bytes intent.json) =
      .ok (.supported intent) := by
  have huuid : canonicalNonnilUuid intent.operationId.toHyphenated = .ok intent.operationId := by
    rw [canonicalNonnilUuid, Uuid.parseCanonical_eq_some_iff.mpr rfl, orJson, ok_bind, reject,
      if_neg (by simp [h.nonnil])]
    rfl
  rw [classifyEvidence, hreads.routingEnvelope intent hintent, orJson, ok_bind]
  dsimp only
  rw [huuid, ok_bind, reject, if_neg (by simp), ok_bind, h.version, if_neg (by simp),
    hreads.intent intent hintent, orJson, ok_bind, h.requireCanonicalRecord]
  rfl

theorem Publishable.decode {intents : RenameMoveIntent → Prop} (h : Publishable host intent)
    (hreads : host.Reads intents) (hintent : intents intent) :
    decodeIntent host (utf8Bytes intent.json) = .ok intent := by
  rw [decodeIntent, hreads.versionEnvelope intent hintent, orJson, ok_bind, reject, h.version,
    if_neg (by simp), ok_bind, hreads.intent intent hintent]
  rfl

theorem Publishable.validateFor (h : Publishable host intent) :
    (tombstoneOf host intent).validateFor host intent = .ok () := by
  rw [CompletionTombstone.validateFor, h.forIntent, ok_bind, reject, if_neg (by simp)]

/-- A tombstone is small. -/
theorem length_tombstone_le (host : Host) (intent : RenameMoveIntent) :
    (utf8Bytes (tombstoneOf host intent).json).length ≤ maxEntryBytes := by
  have hnames : utf8Len (Json.string "version".toList) = 9 ∧
      utf8Len (Json.string "operation_id".toList) = 14 ∧
      utf8Len (Json.string "intent_blake3_hex".toList) = 19 ∧ utf8Len (Json.number 1) = 1 := by
    decide
  obtain ⟨h₁, h₂, h₃, h₄⟩ := hnames
  have hdigest :
      utf8Len (Json.string (hexBlake3 host.blake3 (utf8Bytes intent.json)).toList) = 66 :=
    Json.utf8Len_digest (isLowerHex64_hexSha256 host.blake3 _)
  rw [tombstoneOf, CompletionTombstone.json, length_utf8Bytes, Json.utf8Len_object (by simp)]
  simp only [List.map_cons, List.map_nil, List.sum_cons, List.sum_nil, h₁, h₂, h₃, h₄,
    Json.utf8Len_uuid, hdigest, maxEntryBytes]
  omega

end Recovery
end MyVault
