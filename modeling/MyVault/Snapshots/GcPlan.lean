import MyVault.Snapshots.Retention

/-!
# The plan of a quarantine run

`myvault-snapshots/src/quarantine.rs`: what a run is going to detach.  A candidate of
the retention plan is bound to the bytes it was chosen for: `bind_candidate` looks at
the object again and records the digests of its manifest, its payload and its lineage.
The plan itself carries the digest of everything before it.  `validate_plan` is passed
before the plan is written, and again whenever it is read.
-/

namespace MyVault
namespace Snapshots

open Check VaultPath

/-- `MAX_PLAN_BYTES`. -/
def maxPlanBytes : ℕ := 128 * 1024

/-- A snapshot that a run is to remove, with the digests of its two files. -/
structure GcCandidate where
  snapshotId : Uuid
  manifestBlake3 : String
  payloadBlake3 : String
  payloadBytes : ℕ
  logicalBytes : ℕ
  createdAtUnixMs : ℕ
  lineageKey : String
  lineageBlake3 : String
  reasons : List RetentionReason
  deriving DecidableEq

/-- The snapshots that a run is to remove, with the digest of the whole. -/
structure GcPlan where
  version : ℕ
  runId : Uuid
  vaultId : Uuid
  policy : RetentionPolicy
  evaluatedAtUnixMs : ℕ
  candidates : List GcCandidate
  planBlake3 : String
  deriving DecidableEq

/-! ## The JSON text -/

/-- `#[serde(rename_all = "snake_case")]`. -/
def RetentionReason.name : RetentionReason → String
  | age => "age"
  | lineageCount => "lineage_count"
  | totalSize => "total_size"

/-- The text that serde writes. -/
def RetentionPolicy.json (policy : RetentionPolicy) : Text :=
  Json.object [
    ("max_age_ms", Json.number policy.maxAgeMs),
    ("max_per_lineage", Json.number policy.maxPerLineage),
    ("max_logical_bytes", Json.number policy.maxLogicalBytes)]

/-- The text that serde writes. -/
def GcCandidate.json (candidate : GcCandidate) : Text :=
  Json.object [
    ("snapshot_id", Json.string candidate.snapshotId.toHyphenated.toList),
    ("manifest_blake3", Json.string candidate.manifestBlake3.toList),
    ("payload_blake3", Json.string candidate.payloadBlake3.toList),
    ("payload_bytes", Json.number candidate.payloadBytes),
    ("logical_bytes", Json.number candidate.logicalBytes),
    ("created_at_unix_ms", Json.number candidate.createdAtUnixMs),
    ("lineage_key", Json.string candidate.lineageKey.toList),
    ("lineage_blake3", Json.string candidate.lineageBlake3.toList),
    ("reasons", Json.array (candidate.reasons.map fun reason => Json.string reason.name.toList))]

/-- The members of an `UnsignedPlan`, with which a plan begins. -/
def GcPlan.unsignedMembers (plan : GcPlan) : List (String × Text) := [
  ("version", Json.number plan.version),
  ("run_id", Json.string plan.runId.toHyphenated.toList),
  ("vault_id", Json.string plan.vaultId.toHyphenated.toList),
  ("policy", plan.policy.json),
  ("evaluated_at_unix_ms", Json.number plan.evaluatedAtUnixMs),
  ("candidates", Json.array (plan.candidates.map GcCandidate.json))]

/-- `serde_json::to_vec` of a plan. -/
def GcPlan.json (plan : GcPlan) : Text :=
  Json.object (plan.unsignedMembers ++ [("plan_blake3", Json.string plan.planBlake3.toList)])

/-! ## Checks -/

section Checks

variable (blake3 : Blake3)

/-- The digest of a plan, over all that is in it but the digest. -/
def planDigest (plan : GcPlan) : String :=
  hexBlake3 blake3 (utf8Bytes (Json.object plan.unsignedMembers))

/-- The order of the reasons. -/
def RetentionReason.rank : RetentionReason → ℕ
  | age => 0
  | lineageCount => 1
  | totalSize => 2

/-- What `validate_plan` asks of each candidate by itself. -/
def GcCandidate.isValid (candidate : GcCandidate) : Bool :=
  !candidate.snapshotId.isNil && isLowerHex64 candidate.manifestBlake3 &&
    isLowerHex64 candidate.payloadBlake3 &&
    decide (candidate.payloadBytes ≤ maxPayloadBytes) &&
    decide (candidate.payloadBytes ≤ candidate.logicalBytes) &&
    decide (candidate.logicalBytes - candidate.payloadBytes ≤ maxManifestBytes) &&
    decide (candidate.reasons ≠ []) &&
    -- the list of the set of the reasons is the list again
    decide (candidate.reasons.Pairwise fun a b => a.rank < b.rank) &&
    candidate.lineageBlake3 == hexBlake3 blake3 (strBytes candidate.lineageKey)

/-- `validate_plan`: the plan is of this vault, within the bounds, and has its own digest. -/
def validatePlan (plan : GcPlan) (vaultId : Uuid) : Except Error Unit := do
  reject (plan.version ≠ 1 ∨ plan.runId.isNil = true ∨ plan.vaultId ≠ vaultId ∨
    plan.candidates = [] ∨ maxRetentionCandidates < plan.candidates.length ∨
    plan.planBlake3 ≠ planDigest blake3 plan) .invalidGcPlan
  reject (¬ (plan.candidates.map (·.snapshotId)).Nodup ∨
    plan.candidates.all (GcCandidate.isValid blake3) = false) .invalidGcPlan
  reject (maxPlanBytes < utf8Len plan.json) .gcPlanTooLarge

end Checks

/-! ## Binding -/

section Bind

variable (blake3 : Blake3) (u : Unicode) (serde : Serde) (store : SnapshotStore)

/-- A candidate with the digests of its two files, as they are on the disk. -/
def SnapshotStore.bindCandidate (candidate : RetentionCandidate) : Except Error GcCandidate := do
  let source ← openPrivateDir store.objects candidate.snapshotId.toHyphenated
  let (evidence, logicalBytes) ←
    inspectObject blake3 u serde source .objects candidate.snapshotId store.vaultId none
  match ← evidence with
  | .unsupported .. => .error .invalidGcPlan
  | .supported _ manifest => do
    let manifestBytes ← readPrivateFile source manifestFile maxManifestBytes
    let lineageKey ← manifest.lineageKey u
    .ok
      { snapshotId := candidate.snapshotId
        manifestBlake3 := hexBlake3 blake3 manifestBytes
        payloadBlake3 := manifest.revision.blake3Hex
        payloadBytes := manifest.revision.byteLen
        logicalBytes := logicalBytes
        createdAtUnixMs := manifest.createdAtUnixMs
        lineageKey := String.ofList lineageKey
        lineageBlake3 := hexBlake3 blake3 (utf8Bytes lineageKey)
        reasons := candidate.reasons }

/-- The plan `quarantine_locked` makes of the candidates. -/
def SnapshotStore.newPlan (runId : Uuid) (now : ℕ) (policy : RetentionPolicy)
    (candidates : List GcCandidate) : GcPlan :=
  let plan : GcPlan :=
    { version := 1
      runId := runId
      vaultId := store.vaultId
      policy := policy
      evaluatedAtUnixMs := now
      candidates := candidates
      planBlake3 := "" }
  { plan with planBlake3 := planDigest blake3 plan }

/-- `quarantine_locked` from the candidates to a validated plan. -/
def SnapshotStore.bindPlan (runId : Uuid) (now : ℕ) (policy : RetentionPolicy)
    (candidates : List RetentionCandidate) : Except Error GcPlan := do
  let bound ← mapEach (store.bindCandidate blake3 u serde) candidates
  let plan := store.newPlan blake3 runId now policy bound
  validatePlan blake3 plan store.vaultId
  .ok plan

end Bind

end Snapshots
end MyVault
