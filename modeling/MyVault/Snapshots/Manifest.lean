import MyVault.Core.Directory
import MyVault.Core.Identifiers
import MyVault.Core.Json
import MyVault.Store.Validation

/-!
# Snapshots and their manifests

`myvault-snapshots/src/lib.rs`, as far as snapshots are looked at: the manifest with
its checks and its canonical bytes, and `inspect_object`, which decides what an object
directory is evidence of.

BLAKE3 and the parsing half of `serde_json` are not part of the repository, so they
are parameters.  Little has to be known of the parser: `inspect_object` accepts a
manifest only if printing it gives the bytes back, and printing is
`SnapshotManifest.json`.

The operation lock is held by one caller at a time and nothing else writes, so its
checks, the identities of directories and the second look at the length of a file
are left out.
-/

namespace MyVault
namespace Snapshots

open Check VaultPath

/-- What a publication has done. -/
inductive PublishOutcome where
  | published
  | alreadyPublished
  | promotedFromStaging
  deriving DecidableEq, Repr

/-- The errors of the store. -/
inductive Error where
  /-- `Io` with `ErrorKind::NotFound`. -/
  | notFound
  /-- `Io` with `ErrorKind::AlreadyExists`. -/
  | alreadyExists
  /-- What `private_fs` refuses to open. -/
  | privateFs
  | json
  | invalidSnapshotId
  | invalidVaultId
  | invalidRevision
  | invalidNotePath
  | manifestTooLarge
  | payloadTooLarge
  | unsupportedVersion (version : ℕ)
  | invalidObjectTopology
  | snapshotCollision
  | tooManySnapshotEntries
  | arithmeticOverflow
  | verificationBudgetExceeded
  | gcPlanTooLarge
  | tooManyGcRuns
  | invalidGcPlan
  | quarantineCollision
  | bindingCollision
  | ambiguousEvidence
  | publishedButLockLost (outcome : PublishOutcome)
  | operationFailedAndLockLost (error : Error)
  deriving DecidableEq, Repr

/-- `MAX_MANIFEST_BYTES`. -/
def maxManifestBytes : ℕ := 16 * 1024

/-- `MAX_PAYLOAD_BYTES`. -/
def maxPayloadBytes : ℕ := 16 * 1024 * 1024

/-- The name of the manifest in its directory. -/
def manifestFile : String := "manifest.json"

/-- The name of the content in its directory. -/
def payloadFile : String := "payload"

/-! ## Manifests -/

/-- The digest and the length of a content. -/
structure SnapshotRevision where
  blake3Hex : String
  byteLen : ℕ
  deriving DecidableEq, Repr

/-- The revision of some bytes. -/
def SnapshotRevision.fromBytes (blake3 : Blake3) (bytes : List UInt8) : SnapshotRevision where
  blake3Hex := hexBlake3 blake3 bytes
  byteLen := bytes.length

/-- The length is within the bound and the digest spelled in lower-case hex. -/
def SnapshotRevision.validate (revision : SnapshotRevision) : Except Error Unit :=
  reject (maxPayloadBytes < revision.byteLen ∨ isLowerHex64 revision.blake3Hex = false)
    .invalidRevision

/-- Why a snapshot was made. -/
inductive SnapshotReason where
  | beforeContentReplace
  deriving DecidableEq, Repr

/-- What a snapshot is of. -/
structure SnapshotManifest where
  version : ℕ
  snapshotId : Uuid
  vaultId : Uuid
  path : String
  createdAtUnixMs : ℕ
  revision : SnapshotRevision
  reason : SnapshotReason
  deriving DecidableEq

namespace SnapshotManifest

/-- `SnapshotManifest::VERSION`. -/
def currentVersion : ℕ := 1

/-- The checks of the path of a manifest. -/
def validatePath (u : Unicode) (path : Text) : Except Error Unit :=
  match fromPortable u path with
  | none => .error .invalidNotePath
  | some vaultPath =>
      let isSupportedNote := (vaultPath.components.getLast?.bind fileExtension).any fun e =>
        e == "md".toList || e == "MD".toList
      let protectedRoot := (splitSlash (Store.collisionKey vaultPath)).head?.any fun c =>
        c == ".trash".toList || c == ".obsidian".toList
      reject (vaultPath.asStr ≠ path ∨ isSupportedNote = false ∨ protectedRoot = true)
        .invalidNotePath

/-- The manifest is well formed. -/
def validate (u : Unicode) (manifest : SnapshotManifest) : Except Error Unit := do
  reject (manifest.version ≠ currentVersion) (.unsupportedVersion manifest.version)
  -- `validate_ids`
  reject (manifest.snapshotId.isNil = true) .invalidSnapshotId
  reject (manifest.vaultId.isNil = true) .invalidVaultId
  manifest.revision.validate
  validatePath u manifest.path.toList

/-- `serde_json::to_vec` of a manifest. -/
def json (manifest : SnapshotManifest) : Text :=
  Json.object [
    ("version", Json.number manifest.version),
    ("snapshot_id", Json.string manifest.snapshotId.toHyphenated.toList),
    ("vault_id", Json.string manifest.vaultId.toHyphenated.toList),
    ("path", Json.string manifest.path.toList),
    ("created_at_unix_ms", Json.number manifest.createdAtUnixMs),
    ("revision", Json.object [
      ("blake3_hex", Json.string manifest.revision.blake3Hex.toList),
      ("byte_len", Json.number manifest.revision.byteLen)]),
    ("reason", Json.string "before_content_replace".toList)]

/-- The text of the manifest, within the bound. -/
def canonicalBytes (manifest : SnapshotManifest) : Except Error (List UInt8) :=
  let bytes := utf8Bytes manifest.json
  if maxManifestBytes < bytes.length then .error .manifestTooLarge else .ok bytes

/-- The collision key of the path: snapshots of one key are one lineage. -/
def lineageKey (u : Unicode) (manifest : SnapshotManifest) : Except Error Text :=
  match fromPortable u manifest.path.toList with
  | some path => .ok (Store.collisionKey path)
  | none => .error .invalidNotePath

end SnapshotManifest

/-- The fields every schema has. -/
structure RoutingEnvelope where
  version : ℕ
  snapshotId : Uuid
  vaultId : Uuid

/-- `serde_json::from_slice` at the types of the manifest.  Bytes that are both a manifest
and an envelope have one value for a field of that name. -/
structure Serde where
  routingEnvelope : List UInt8 → Option RoutingEnvelope
  snapshotManifest : List UInt8 → Option SnapshotManifest
  agree : ∀ {bytes envelope manifest}, routingEnvelope bytes = some envelope →
    snapshotManifest bytes = some manifest →
      envelope.version = manifest.version ∧ envelope.snapshotId = manifest.snapshotId ∧
        envelope.vaultId = manifest.vaultId

/-- Where a snapshot was found. -/
inductive EvidenceLocation where
  | staging
  | objects
  deriving DecidableEq, Repr

/-- What a directory tells about a snapshot; of a later version that is little. -/
inductive SnapshotEvidence where
  | supported (location : EvidenceLocation) (manifest : SnapshotManifest)
  | unsupported (location : EvidenceLocation) (snapshotId vaultId : Uuid) (version : ℕ)
      (payloadRevision : SnapshotRevision)
  deriving DecidableEq

/-! ## Private files and directories -/

section PrivateFs

variable {α : Type}

/-- `open_held_private_file` and `read_held_private_file`. -/
def readPrivateFile (directory : Dir (Entry α)) (name : String) (maximum : ℕ) :
    Except Error (List UInt8) :=
  match directory.get name with
  | none => .error .notFound
  | some (.file bytes) =>
      if maximum < bytes.length then
        .error (if name = payloadFile then .payloadTooLarge else .manifestTooLarge)
      else .ok bytes
  | some _ => .error .privateFs

/-- `private_fs::open_private_dir`. -/
def openPrivateDir (parent : Dir (Entry α)) (name : String) : Except Error (Dir α) :=
  match parent.get name with
  | none => .error .notFound
  | some (.dir entries) => .ok entries
  | some _ => .error .privateFs

/-- A directory that may be missing. -/
def openOptionalPrivateDir (parent : Dir (Entry α)) (name : String) :
    Except Error (Option (Dir α)) :=
  match parent.get name with
  | none => .ok none
  | some (.dir entries) => .ok (some entries)
  | some _ => .error .privateFs

end PrivateFs

/-- What stands in an object directory. -/
abbrev ObjectDir := Dir (Entry Unit)

/-- `verify_exact_object_entries`: the two files and nothing else. -/
def verifyExactObjectEntries (directory : ObjectDir) : Except Error Unit :=
  reject (directory.rows.length ≠ 2 ∨ .utf8 manifestFile ∉ directory.names ∨
    .utf8 payloadFile ∉ directory.names) .invalidObjectTopology

section Inspect

variable (blake3 : Blake3) (u : Unicode) (serde : Serde)

/-- What the bytes of the two files are evidence of. -/
def evidenceOf (location : EvidenceLocation) (snapshotId vaultId : Uuid)
    (bytes payload : List UInt8) : Except Error SnapshotEvidence :=
  let payloadRevision := SnapshotRevision.fromBytes blake3 payload
  match serde.routingEnvelope bytes with
  | none => .error .json
  | some envelope =>
      if envelope.snapshotId ≠ snapshotId ∨ envelope.vaultId ≠ vaultId then
        .error .snapshotCollision
      else if envelope.version ≠ SnapshotManifest.currentVersion then
        .ok (.unsupported location envelope.snapshotId envelope.vaultId envelope.version
          payloadRevision)
      else
        match serde.snapshotManifest bytes with
        | none => .error .json
        | some manifest => do
          manifest.validate u
          let canonical ← manifest.canonicalBytes
          reject (canonical ≠ bytes ∨ payloadRevision ≠ manifest.revision) .snapshotCollision
          .ok (.supported location manifest)

/-- `inspect_object`: the evidence and the bytes of the two files, which a budget has to
cover. -/
def inspectObject (directory : ObjectDir) (location : EvidenceLocation)
    (snapshotId vaultId : Uuid) (budget : Option ℕ) :
    Except Error (Except Error SnapshotEvidence × ℕ) := do
  verifyExactObjectEntries directory
  let bytes ← readPrivateFile directory manifestFile maxManifestBytes
  let payload ← readPrivateFile directory payloadFile maxPayloadBytes
  let logicalBytes := bytes.length + payload.length
  reject (budget.any (· < logicalBytes) = true) .verificationBudgetExceeded
  .ok (evidenceOf blake3 u serde location snapshotId vaultId bytes payload, logicalBytes)

end Inspect

/-! ## What the checks say -/

section PrivateFs

variable {α : Type} {directory parent : Dir (Entry α)} {name : String}

theorem readPrivateFile_eq_ok {maximum : ℕ} {bytes : List UInt8} :
    readPrivateFile directory name maximum = .ok bytes ↔
      directory.get name = some (.file bytes) ∧ bytes.length ≤ maximum := by
  rw [readPrivateFile]
  split
  · rename_i h
    simp [h]
  · rename_i found h
    rw [ite_error_eq_ok, Except.ok.injEq, h, Option.some.injEq, Entry.file.injEq, Nat.not_lt]
    constructor
    · rintro ⟨hlen, rfl⟩
      exact ⟨rfl, hlen⟩
    · rintro ⟨rfl, hlen⟩
      exact ⟨hlen, rfl⟩
  · rename_i entry hfile h
    refine iff_of_false (fun hok => nomatch hok) fun ⟨hget, _⟩ => ?_
    rw [h, Option.some.injEq] at hget
    exact hfile bytes hget

theorem openPrivateDir_eq_ok {entries : Dir α} :
    openPrivateDir parent name = .ok entries ↔ parent.get name = some (.dir entries) := by
  rw [openPrivateDir]
  split
  · rename_i h
    simp [h]
  · rename_i found h
    rw [h, Except.ok.injEq, Option.some.injEq, Entry.dir.injEq]
  · rename_i entry hdir h
    refine iff_of_false (fun hok => nomatch hok) fun hget => ?_
    rw [h, Option.some.injEq] at hget
    exact hdir entries hget

theorem openOptionalPrivateDir_eq_some {entries : Dir α} :
    openOptionalPrivateDir parent name = .ok (some entries) ↔
      parent.get name = some (.dir entries) := by
  rw [openOptionalPrivateDir]
  split
  · rename_i h
    simp [h]
  · rename_i found h
    rw [h, Except.ok.injEq, Option.some.injEq, Option.some.injEq, Entry.dir.injEq]
  · rename_i entry hdir h
    refine iff_of_false (fun hok => nomatch hok) fun hget => ?_
    rw [h, Option.some.injEq] at hget
    exact hdir entries hget

end PrivateFs

theorem isLowerHex64_hexBlake3 (blake3 : Blake3) (bytes : List UInt8) :
    isLowerHex64 (hexBlake3 blake3 bytes) = true := isLowerHex64_hexSha256 blake3 bytes

namespace SnapshotManifest

theorem canonicalBytes_eq_ok {manifest : SnapshotManifest} {bytes : List UInt8} :
    manifest.canonicalBytes = .ok bytes ↔
      utf8Bytes manifest.json = bytes ∧ bytes.length ≤ maxManifestBytes := by
  rw [canonicalBytes, ite_error_eq_ok, Except.ok.injEq, Nat.not_lt]
  constructor
  · rintro ⟨hlen, rfl⟩
    exact ⟨rfl, hlen⟩
  · rintro ⟨rfl, hlen⟩
    exact ⟨hlen, rfl⟩

/-- What a snapshot counts for: its manifest and its content. -/
def logicalBytes (manifest : SnapshotManifest) : ℕ :=
  (utf8Bytes manifest.json).length + manifest.revision.byteLen

/-- What a manifest has passed that `inspect_object` accepts. -/
structure Valid (u : Unicode) (vaultId : Uuid) (manifest : SnapshotManifest) : Prop where
  validate : manifest.validate u = .ok ()
  vault : manifest.vaultId = vaultId
  bytes : (utf8Bytes manifest.json).length ≤ maxManifestBytes

variable {u : Unicode} {vaultId : Uuid} {manifest : SnapshotManifest}

theorem validate_eq_ok : manifest.validate u = .ok () ↔
    manifest.version = currentVersion ∧ manifest.snapshotId.isNil = false ∧
      manifest.vaultId.isNil = false ∧ manifest.revision.validate = .ok () ∧
        validatePath u manifest.path.toList = .ok () := by
  simp only [validate, seq_eq_ok, reject_eq_ok, Decidable.not_not, Bool.not_eq_true]

theorem Valid.byteLen_le (h : manifest.Valid u vaultId) :
    manifest.revision.byteLen ≤ maxPayloadBytes := by
  have hrevision := (validate_eq_ok.mp h.validate).2.2.2.1
  rw [SnapshotRevision.validate, reject_eq_ok] at hrevision
  exact Nat.le_of_not_lt fun hlt => hrevision (Or.inl hlt)

theorem Valid.isLowerHex64_payload (h : manifest.Valid u vaultId) :
    isLowerHex64 manifest.revision.blake3Hex = true := by
  have hrevision := (validate_eq_ok.mp h.validate).2.2.2.1
  rw [SnapshotRevision.validate, reject_eq_ok] at hrevision
  exact Bool.of_not_eq_false fun hfalse => hrevision (Or.inr hfalse)

/-- A valid path has a collision key. -/
theorem Valid.exists_lineageKey (h : manifest.Valid u vaultId) :
    ∃ key, manifest.lineageKey u = .ok key := by
  have hpath := (validate_eq_ok.mp h.validate).2.2.2.2
  rw [validatePath] at hpath
  rw [lineageKey]
  split at hpath
  · exact nomatch hpath
  · rename_i path hsome
    exact ⟨_, by rw [hsome]⟩

end SnapshotManifest

section Inspect

variable {blake3 : Blake3} {u : Unicode} {serde : Serde} {directory : ObjectDir}
  {location : EvidenceLocation} {snapshotId vaultId : Uuid}

theorem evidenceOf_eq_supported {location' : EvidenceLocation} {bytes payload : List UInt8}
    {manifest : SnapshotManifest}
    (h : evidenceOf blake3 u serde location snapshotId vaultId bytes payload =
      .ok (.supported location' manifest)) :
    location' = location ∧ manifest.snapshotId = snapshotId ∧ manifest.Valid u vaultId ∧
      utf8Bytes manifest.json = bytes ∧ manifest.revision = .fromBytes blake3 payload := by
  unfold evidenceOf at h
  dsimp only at h
  split at h
  · exact nomatch h
  · rename_i envelope henvelope
    rw [ite_error_eq_ok] at h
    obtain ⟨hids, h⟩ := h
    push Not at hids
    split at h
    · exact nomatch h
    · split at h
      · exact nomatch h
      · rename_i parsed hparsed
        simp only [↓seq_eq_ok, bind_eq_ok, reject_eq_ok, SnapshotManifest.canonicalBytes_eq_ok,
          Except.ok.injEq, SnapshotEvidence.supported.injEq] at h
        obtain ⟨hvalid, canonical, ⟨hbytes, hlen⟩, hsame, rfl, rfl⟩ := h
        push Not at hsame
        obtain ⟨-, hsnapshot, hvault⟩ := serde.agree henvelope hparsed
        exact ⟨rfl, hsnapshot.symm.trans hids.1,
          ⟨hvalid, hvault.symm.trans hids.2, by rwa [hbytes]⟩, hbytes.trans hsame.1,
          hsame.2.symm⟩

theorem inspectObject_eq_ok {budget : Option ℕ} {evidence : Except Error SnapshotEvidence}
    {logical : ℕ} :
    inspectObject blake3 u serde directory location snapshotId vaultId budget =
        .ok (evidence, logical) ↔
      inspectObject blake3 u serde directory location snapshotId vaultId none =
        .ok (evidence, logical) ∧ budget.any (· < logical) = false := by
  rw [inspectObject, inspectObject, seq_eq_ok, seq_eq_ok]
  simp only [↓seq_eq_ok, bind_eq_ok, reject_eq_ok, Except.ok.injEq, Prod.mk.injEq,
    Option.any_none, Bool.false_eq_true, not_false_eq_true, true_and, Bool.not_eq_true]
  constructor
  · rintro ⟨hexact, bytes, hbytes, payload, hpayload, hbudget, hevidence, rfl⟩
    exact ⟨⟨hexact, bytes, hbytes, payload, hpayload, hevidence, rfl⟩, hbudget⟩
  · rintro ⟨⟨hexact, bytes, hbytes, payload, hpayload, hevidence, rfl⟩, hbudget⟩
    exact ⟨hexact, bytes, hbytes, payload, hpayload, hbudget, hevidence, rfl⟩

/-- A budget that does not cover the object is the only thing a budget changes. -/
theorem inspectObject_eq_exceeded {budget logical : ℕ}
    {evidence : Except Error SnapshotEvidence}
    (h : inspectObject blake3 u serde directory location snapshotId vaultId none =
      .ok (evidence, logical)) (hbudget : budget < logical) :
    inspectObject blake3 u serde directory location snapshotId vaultId (some budget) =
      .error .verificationBudgetExceeded := by
  rw [inspectObject, seq_eq_ok] at h
  simp only [↓seq_eq_ok, bind_eq_ok, reject_eq_ok, Except.ok.injEq, Prod.mk.injEq,
    Option.any_none, Bool.false_eq_true, not_false_eq_true, true_and] at h
  obtain ⟨hexact, bytes, hbytes, payload, hpayload, -, rfl⟩ := h
  rw [inspectObject, hexact, hbytes, hpayload]
  have hany : (some budget).any (· < bytes.length + payload.length) = true := by
    simpa using hbudget
  show reject _ _ >>= _ = _
  rw [hany, reject, if_pos rfl]
  rfl

/-- What a directory holds that is evidence of a supported snapshot. -/
structure Complete (blake3 : Blake3) (u : Unicode) (serde : Serde) (vaultId : Uuid)
    (directory : ObjectDir) (manifest : SnapshotManifest) : Prop where
  inspect : inspectObject blake3 u serde directory .objects manifest.snapshotId vaultId none =
    .ok (.ok (.supported .objects manifest), manifest.logicalBytes)

theorem exists_of_inspectObject {budget : Option ℕ} {location' : EvidenceLocation}
    {manifest : SnapshotManifest} {logical : ℕ}
    (h : inspectObject blake3 u serde directory location snapshotId vaultId budget =
      .ok (.ok (.supported location' manifest), logical)) :
    location' = location ∧ manifest.snapshotId = snapshotId ∧ logical = manifest.logicalBytes ∧
      manifest.Valid u vaultId ∧
        directory.get manifestFile = some (.file (utf8Bytes manifest.json)) ∧
        ∃ payload, directory.get payloadFile = some (.file payload) ∧
          manifest.revision = .fromBytes blake3 payload := by
  rw [inspectObject, seq_eq_ok] at h
  simp only [↓seq_eq_ok, bind_eq_ok, reject_eq_ok, Except.ok.injEq, Prod.mk.injEq,
    readPrivateFile_eq_ok] at h
  obtain ⟨-, bytes, ⟨hbytes, -⟩, payload, ⟨hpayload, -⟩, -, hevidence, rfl⟩ := h
  obtain ⟨hlocation, hid, hvalid, rfl, hrevision⟩ := evidenceOf_eq_supported hevidence
  refine ⟨hlocation, hid, ?_, hvalid, hbytes, payload, hpayload, hrevision⟩
  rw [SnapshotManifest.logicalBytes, hrevision, SnapshotRevision.fromBytes]

theorem Complete.valid {manifest : SnapshotManifest}
    (h : Complete blake3 u serde vaultId directory manifest) : manifest.Valid u vaultId :=
  (exists_of_inspectObject h.inspect).2.2.2.1

theorem Complete.get_manifest {manifest : SnapshotManifest}
    (h : Complete blake3 u serde vaultId directory manifest) :
    directory.get manifestFile = some (.file (utf8Bytes manifest.json)) :=
  (exists_of_inspectObject h.inspect).2.2.2.2.1

/-- An inspection that found a supported object found it complete. -/
theorem complete_of_inspectObject {budget : Option ℕ} {location' : EvidenceLocation}
    {manifest : SnapshotManifest} {logical : ℕ}
    (h : inspectObject blake3 u serde directory .objects snapshotId vaultId budget =
      .ok (.ok (.supported location' manifest), logical)) :
    manifest.snapshotId = snapshotId ∧ logical = manifest.logicalBytes ∧
      Complete blake3 u serde vaultId directory manifest := by
  obtain ⟨rfl, rfl, rfl, -⟩ := exists_of_inspectObject h
  exact ⟨rfl, rfl, ⟨(inspectObject_eq_ok.mp h).1⟩⟩

end Inspect

end Snapshots
end MyVault
