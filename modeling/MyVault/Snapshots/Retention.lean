import MyVault.Snapshots.Manifest
import Mathlib.Data.List.Lex
import Mathlib.Data.List.Sort
import Mathlib.Data.Prod.Lex
import Mathlib.Data.Nat.Basic

/-!
# The retention plan

`myvault-snapshots/src/retention.rs`: which snapshots a policy gives up.  There are
three reasons to select one: its age, too many snapshots of its lineage, and too many
bytes in all.  `plan_manifests` selects among manifests; `plan_retention_locked` reads
the two directories, verifies the objects in the order of their ids as long as the
budget covers them, and keeps the first 256 candidates.

The sets and maps of the source that are keyed by a snapshot id are lists of ids here:
the ids of the manifests are checked to be different.
-/

namespace MyVault
namespace Snapshots

open Check VaultPath

/-- `MAX_RETENTION_CANDIDATES`. -/
def maxRetentionCandidates : ℕ := 256

/-- `MAX_SNAPSHOT_SCAN_ENTRIES`. -/
def maxSnapshotScanEntries : ℕ := 8192

/-- `MAX_VERIFICATION_BYTES`. -/
def maxVerificationBytes : ℕ := 256 * 1024 * 1024

/-- What is kept: how old, how many of a note, and how much in all. -/
structure RetentionPolicy where
  maxAgeMs : ℕ
  maxPerLineage : ℕ
  maxLogicalBytes : ℕ
  deriving DecidableEq, Repr

/-- Why a snapshot may go. -/
inductive RetentionReason where
  | age
  | lineageCount
  | totalSize
  deriving DecidableEq, Repr

/-- A snapshot that may go, and why. -/
structure RetentionCandidate where
  snapshotId : Uuid
  path : String
  createdAtUnixMs : ℕ
  logicalBytes : ℕ
  reasons : List RetentionReason
  deriving DecidableEq

/-- The snapshots that may go, and what else was found. -/
structure RetentionPlan where
  candidates : List RetentionCandidate
  scannedEntries : ℕ
  supportedObjects : ℕ
  opaqueEvidence : ℕ
  stagingEvidence : ℕ
  supportedLogicalBytes : ℕ
  verifiedBytes : ℕ
  verificationBudgetExhausted : Bool
  candidateCapReached : Bool
  capacityProven : Bool
  deriving DecidableEq

/-! ## Selection -/

/-- `Ord` of a UUID: the bytes are compared from the first. -/
def idKey (id : Uuid) : List ℕ := id.toList.map UInt8.toNat

/-- `(created_at_unix_ms, snapshot_id)`, the key of every sort. -/
def SnapshotManifest.sortKey (manifest : SnapshotManifest) : ℕ ×ₗ List ℕ :=
  toLex (manifest.createdAtUnixMs, idKey manifest.snapshotId)

/-- `sort_by_key(|manifest| (manifest.created_at_unix_ms, manifest.snapshot_id))`. -/
def sortByAge (manifests : List SnapshotManifest) : List SnapshotManifest :=
  manifests.insertionSort fun a b => a.sortKey ≤ b.sortKey

/-- What a snapshot counts for. -/
def manifestLogicalBytes (manifest : SnapshotManifest) : Except Error ℕ := do
  let bytes ← manifest.canonicalBytes
  match checkedAdd bytes.length manifest.revision.byteLen with
  | some total => .ok total
  | none => .error .arithmeticOverflow

/-- The sum of what the snapshots count for, if it fits a `u64`. -/
def checkedSum : ℕ → List ℕ → Except Error ℕ
  | total, [] => .ok total
  | total, bytes :: rest =>
      match checkedAdd total bytes with
      | some total => checkedSum total rest
      | none => .error .arithmeticOverflow

/-- The loop at the head of `plan_manifests`. -/
def checkManifests (u : Unicode) (expectedVaultId : Option Uuid) :
    List SnapshotManifest → List Uuid → Except Error Unit
  | [], _ => .ok ()
  | manifest :: rest, seen => do
    manifest.validate u
    reject (manifest.snapshotId ∈ seen ∨ expectedVaultId.any (manifest.vaultId ≠ ·) = true)
      .snapshotCollision
    checkManifests u expectedVaultId rest (manifest.snapshotId :: seen)

/-- The snapshots that are too old. -/
def RetentionPolicy.aged (policy : RetentionPolicy) (now : ℕ) (ordered : List SnapshotManifest) :
    List Uuid :=
  (ordered.filter fun manifest =>
    -- `checked_sub`
    decide (policy.maxAgeMs ≤ now ∧ manifest.createdAtUnixMs ≤ now - policy.maxAgeMs)).map
      (·.snapshotId)

/-- The oldest snapshots of a lineage that has too many. -/
def RetentionPolicy.lineageExcess (policy : RetentionPolicy)
    (keyed : List (Text × SnapshotManifest)) : List Uuid :=
  (keyed.map Prod.fst).dedup.flatMap fun key =>
    let lineage := sortByAge ((keyed.filter (·.1 = key)).map Prod.snd)
    (lineage.take (lineage.length - policy.maxPerLineage)).map (·.snapshotId)

/-- The oldest snapshots, until the others fit. -/
def RetentionPolicy.sizeExcess (policy : RetentionPolicy) :
    ℕ → List SnapshotManifest → Except Error (List Uuid)
  | _, [] => .ok []
  | remaining, manifest :: rest =>
      if remaining ≤ policy.maxLogicalBytes then .ok []
      else if manifest.logicalBytes ≤ remaining then do
        let more ← policy.sizeExcess (remaining - manifest.logicalBytes) rest
        .ok (manifest.snapshotId :: more)
      else .error .arithmeticOverflow

/-- The reasons found for a snapshot, in their order. -/
def reasonsFor (aged lineageExcess sizeExcess : List Uuid) (id : Uuid) : List RetentionReason :=
  [RetentionReason.age, .lineageCount, .totalSize].filter fun reason =>
    match reason with
    | .age => decide (id ∈ aged)
    | .lineageCount => decide (id ∈ lineageExcess)
    | .totalSize => decide (id ∈ sizeExcess)

/-- The candidate a manifest becomes, if there is a reason. -/
def SnapshotManifest.candidate (manifest : SnapshotManifest) (reasons : List RetentionReason) :
    Option RetentionCandidate :=
  if reasons = [] then none
  else some
    { snapshotId := manifest.snapshotId
      path := manifest.path
      createdAtUnixMs := manifest.createdAtUnixMs
      logicalBytes := manifest.logicalBytes
      reasons := reasons }

/-- `RetentionPolicy::plan_manifests`. -/
def RetentionPolicy.planManifests (policy : RetentionPolicy) (u : Unicode) (now : ℕ)
    (manifests : List SnapshotManifest) : Except Error (List RetentionCandidate) := do
  checkManifests u (manifests.head?.map (·.vaultId)) manifests []
  let ordered := sortByAge manifests
  let aged := policy.aged now ordered
  let keyed ← mapEach (fun manifest => do
    let key ← manifest.lineageKey u
    .ok (key, manifest)) manifests
  let lineageExcess := policy.lineageExcess keyed
  let logicalSizes ← mapEach manifestLogicalBytes manifests
  let total ← checkedSum 0 logicalSizes
  let sizeExcess ← policy.sizeExcess total ordered
  .ok <| ordered.filterMap fun manifest =>
    manifest.candidate (reasonsFor aged lineageExcess sizeExcess manifest.snapshotId)

/-! ## The directories -/

/-- What stands in an object directory. -/
abbrev FileEntry := Entry Unit

/-- What stands in `objects` and in the `items` of a run. -/
abbrev ObjectEntry := Entry FileEntry

/-- What stands in the directory of a run. -/
abbrev ControlEntry := Entry ObjectEntry

/-- What stands in `runs` and `work`. -/
abbrev RunEntry := Entry ControlEntry

/-- The directory of one vault. -/
structure SnapshotStore where
  vaultId : Uuid
  objects : Dir ObjectEntry
  staging : Dir ObjectEntry
  runs : Dir RunEntry
  work : Dir RunEntry

/-- `canonical_snapshot_id`. -/
def canonicalSnapshotId (name : FileName) : Option Uuid := do
  let text ← name.toStr
  let id ← Uuid.parseCanonical text.toList
  if id.isNil then none else some id

/-- What the loop over the ids of `plan_retention_locked` has found. -/
structure RetentionScan where
  manifests : List SnapshotManifest := []
  opaqueEvidence : ℕ := 0
  stagingEvidence : ℕ := 0
  verifiedBytes : ℕ := 0
  budgetExhausted : Bool := false

section Scan

variable (blake3 : Blake3) (u : Unicode) (serde : Serde)

/-- One turn of that loop. -/
def SnapshotStore.scanId (store : SnapshotStore) (scan : RetentionScan) (id : Uuid)
    (locations : List EvidenceLocation) : RetentionScan :=
  match locations with
  | [location] =>
      let parent := match location with
        | .objects => store.objects
        | .staging => store.staging
      match openOptionalPrivateDir parent id.toHyphenated with
      | .error _ | .ok none => { scan with opaqueEvidence := scan.opaqueEvidence + 1 }
      | .ok (some directory) =>
          let remaining := maxVerificationBytes - scan.verifiedBytes
          match inspectObject blake3 u serde directory location id store.vaultId
            (some remaining) with
          | .ok (.ok (.supported _ manifest), logicalBytes) =>
              match location with
              | .objects =>
                  { scan with
                    manifests := scan.manifests ++ [manifest]
                    verifiedBytes := scan.verifiedBytes + logicalBytes }
              | .staging =>
                  { scan with
                    stagingEvidence := scan.stagingEvidence + 1
                    verifiedBytes := scan.verifiedBytes + logicalBytes }
          | .ok (_, logicalBytes) =>
              { scan with
                opaqueEvidence := scan.opaqueEvidence + 1
                verifiedBytes := scan.verifiedBytes + logicalBytes }
          | .error .verificationBudgetExceeded =>
              { scan with
                opaqueEvidence := scan.opaqueEvidence + 1
                budgetExhausted := true }
          | .error _ => { scan with opaqueEvidence := scan.opaqueEvidence + 1 }
  | _ => { scan with opaqueEvidence := scan.opaqueEvidence + locations.length }

/-- The names of a directory that are ids, and where they stand. -/
def idEntries (location : EvidenceLocation) (names : List FileName) :
    List (Uuid × EvidenceLocation) :=
  names.filterMap fun name => (canonicalSnapshotId name).map fun id => (id, location)

/-- `SnapshotStore::plan_retention_locked`. -/
def SnapshotStore.planRetentionLocked (store : SnapshotStore) (now : ℕ)
    (policy : RetentionPolicy) : Except Error RetentionPlan := do
  -- `collect_entries`
  let scannedEntries := store.objects.rows.length + store.staging.rows.length
  reject (maxSnapshotScanEntries < scannedEntries) .tooManySnapshotEntries
  -- a `.work-` name in staging is no id either
  let byId := idEntries .objects store.objects.names ++ idEntries .staging store.staging.names
  let ids := (byId.map Prod.fst).dedup.insertionSort fun a b => idKey a ≤ idKey b
  let scan := ids.foldl
    (fun scan id => store.scanId blake3 u serde scan id ((byId.filter (·.1 = id)).map Prod.snd))
    { opaqueEvidence := scannedEntries - byId.length }
  let sizes ← mapEach manifestLogicalBytes scan.manifests
  let supportedLogicalBytes ← checkedSum 0 sizes
  let allCandidates ← policy.planManifests u now scan.manifests
  let candidateCapReached := decide (maxRetentionCandidates < allCandidates.length)
  .ok
    { candidates := allCandidates.take maxRetentionCandidates
      scannedEntries := scannedEntries
      supportedObjects := scan.manifests.length
      opaqueEvidence := scan.opaqueEvidence
      stagingEvidence := scan.stagingEvidence
      supportedLogicalBytes := supportedLogicalBytes
      verifiedBytes := scan.verifiedBytes
      verificationBudgetExhausted := scan.budgetExhausted
      candidateCapReached := candidateCapReached
      capacityProven := decide (scan.opaqueEvidence = 0) && decide (scan.stagingEvidence = 0) &&
        !scan.budgetExhausted && !candidateCapReached }

end Scan

/-! ## What a plan is made of -/

theorem sorted_reasonsFor (aged lineageExcess sizeExcess : List Uuid) (id : Uuid) :
    (reasonsFor aged lineageExcess sizeExcess id).Sublist [.age, .lineageCount, .totalSize] :=
  List.filter_sublist

theorem SnapshotManifest.candidate_eq_some {manifest : SnapshotManifest}
    {reasons : List RetentionReason} {candidate : RetentionCandidate} :
    manifest.candidate reasons = some candidate ↔ reasons ≠ [] ∧ candidate =
      { snapshotId := manifest.snapshotId
        path := manifest.path
        createdAtUnixMs := manifest.createdAtUnixMs
        logicalBytes := manifest.logicalBytes
        reasons := reasons } := by
  rw [SnapshotManifest.candidate]
  split
  · rename_i h
    exact iff_of_false (fun hnone => nomatch hnone) fun hnot => hnot.1 h
  · rename_i h
    rw [Option.some.injEq]
    exact ⟨fun heq => ⟨h, heq.symm⟩, fun heq => heq.2.symm⟩

theorem mem_sortByAge {manifests : List SnapshotManifest} {manifest : SnapshotManifest} :
    manifest ∈ sortByAge manifests ↔ manifest ∈ manifests := List.mem_insertionSort _

theorem sortByAge_perm (manifests : List SnapshotManifest) :
    (sortByAge manifests).Perm manifests := List.perm_insertionSort _ _

/-- What is kept of a list, in its order. -/
theorem map_filterMap_sublist {α β γ : Type} {f : α → Option β} {g : β → γ} {k : α → γ}
    (h : ∀ a b, f a = some b → g b = k a) {l : List α} :
    ((l.filterMap f).map g).Sublist (l.map k) := by
  induction l with
  | nil => exact List.Sublist.refl _
  | cons a l ih =>
      rw [List.filterMap_cons, List.map_cons]
      cases hf : f a with
      | none => exact ih.cons _
      | some b =>
          rw [List.map_cons, h a b hf]
          exact ih.cons_cons _

section Check

variable {u : Unicode} {expected : Option Uuid} {manifests : List SnapshotManifest}

theorem checkManifests_eq_ok {seen : List Uuid} :
    checkManifests u expected manifests seen = .ok () ↔
      (∀ m ∈ manifests, m.validate u = .ok () ∧ m.snapshotId ∉ seen ∧
        ∀ vaultId ∈ expected, m.vaultId = vaultId) ∧
      (manifests.map (·.snapshotId)).Nodup := by
  induction manifests generalizing seen with
  | nil => simp [checkManifests]
  | cons m rest ih =>
      have hvault : (expected.any (m.vaultId ≠ ·) = true) ↔
          ¬ ∀ vaultId ∈ expected, m.vaultId = vaultId := by
        cases expected <;> simp
      rw [checkManifests, seq_eq_ok, seq_eq_ok, reject_eq_ok, ih, hvault, not_or, Decidable.not_not,
        List.forall_mem_cons, List.map_cons, List.nodup_cons]
      constructor
      · rintro ⟨hvalid, ⟨hnew, hsame⟩, hrest, hnodup⟩
        refine ⟨⟨⟨hvalid, hnew, hsame⟩, fun m' hm' => ?_⟩, ?_, hnodup⟩
        · obtain ⟨hv, hseen, hs⟩ := hrest m' hm'
          exact ⟨hv, fun hmem => hseen (List.mem_cons_of_mem _ hmem), hs⟩
        · rintro hmem
          obtain ⟨m', hm', hid⟩ := List.mem_map.mp hmem
          exact (hrest m' hm').2.1 (hid ▸ List.mem_cons_self)
      · rintro ⟨⟨⟨hvalid, hnew, hsame⟩, hrest⟩, hfresh, hnodup⟩
        refine ⟨hvalid, ⟨hnew, hsame⟩, fun m' hm' => ?_, hnodup⟩
        obtain ⟨hv, hseen, hs⟩ := hrest m' hm'
        refine ⟨hv, fun hmem => ?_, hs⟩
        rcases List.mem_cons.mp hmem with hid | hid
        · exact hfresh (List.mem_map.mpr ⟨m', hm', hid⟩)
        · exact hseen hid

end Check

section Plan

variable {u : Unicode} {policy : RetentionPolicy} {now : ℕ} {manifests : List SnapshotManifest}
  {candidates : List RetentionCandidate}

/-- Every candidate is one of the manifests, with a reason, and none of them twice. -/
theorem RetentionPolicy.mem_of_planManifests
    (h : policy.planManifests u now manifests = .ok candidates) :
    (∀ c ∈ candidates, ∃ m ∈ manifests, ∃ reasons,
      reasons.Sublist [.age, .lineageCount, .totalSize] ∧ m.candidate reasons = some c) ∧
    (candidates.map (·.snapshotId)).Nodup := by
  rw [planManifests, seq_eq_ok] at h
  simp only [bind_eq_ok, Except.ok.injEq] at h
  obtain ⟨hcheck, keyed, -, sizes, -, total, -, sizeExcess, -, rfl⟩ := h
  have hnodup := (checkManifests_eq_ok.mp hcheck).2
  rw [← ((sortByAge_perm manifests).map _).nodup_iff] at hnodup
  constructor
  · intro c hc
    obtain ⟨m, hm, hcandidate⟩ := List.mem_filterMap.mp hc
    exact ⟨m, mem_sortByAge.mp hm, _, sorted_reasonsFor .., hcandidate⟩
  · refine hnodup.sublist (map_filterMap_sublist fun m c hcandidate => ?_)
    rw [(SnapshotManifest.candidate_eq_some.mp hcandidate).2]

end Plan

end Snapshots
end MyVault
