import MyVault.Snapshots.GcPlan
import Mathlib.Data.List.Dedup
import Mathlib.Data.List.Forall2

/-!
# Stores whose objects are supported snapshots

When every object is a complete snapshot and nothing is staged, the retention plan is a
function of the manifests alone.  The objects are inspected in the order of their ids,
and an object is passed over if what is left of the budget does not cover it
(`withinBudget`); `planRetentionLocked_of_holds` says that the plan is the selection
among the manifests that are left, cut at 256.

`SnapshotStore.ofSnapshots` is the other direction: valid manifests with their payloads
are what some store holds.
-/

namespace MyVault
namespace Snapshots

open Check VaultPath

/-- The objects are inspected in this order. -/
def sortById (manifests : List SnapshotManifest) : List SnapshotManifest :=
  manifests.insertionSort fun a b => idKey a.snapshotId ≤ idKey b.snapshotId

/-- The manifests a budget covers, taken in order; what does not fit is passed over. -/
def withinBudget : ℕ → List SnapshotManifest → List SnapshotManifest
  | _, [] => []
  | budget, m :: rest =>
      if m.logicalBytes ≤ budget then m :: withinBudget (budget - m.logicalBytes) rest
      else withinBudget budget rest

/-- The bytes of the snapshots of a list. -/
def totalBytes (manifests : List SnapshotManifest) : ℕ :=
  (manifests.map SnapshotManifest.logicalBytes).sum

theorem totalBytes_cons (m : SnapshotManifest) (rest : List SnapshotManifest) :
    totalBytes (m :: rest) = m.logicalBytes + totalBytes rest := by
  rw [totalBytes, List.map_cons, List.sum_cons, totalBytes]

theorem withinBudget_sublist (budget : ℕ) (manifests : List SnapshotManifest) :
    (withinBudget budget manifests).Sublist manifests := by
  induction manifests generalizing budget with
  | nil => exact List.Sublist.refl _
  | cons m rest ih =>
      rw [withinBudget]
      split
      · exact (ih _).cons_cons m
      · exact (ih _).cons m

theorem totalBytes_withinBudget (budget : ℕ) (manifests : List SnapshotManifest) :
    totalBytes (withinBudget budget manifests) ≤ budget := by
  induction manifests generalizing budget with
  | nil => exact Nat.zero_le _
  | cons m rest ih =>
      rw [withinBudget]
      split
      · have hrest := ih (budget - m.logicalBytes)
        rw [totalBytes_cons]
        omega
      · exact ih _

/-- A budget for all of them passes none over. -/
theorem withinBudget_of_le {budget : ℕ} {manifests : List SnapshotManifest}
    (h : totalBytes manifests ≤ budget) : withinBudget budget manifests = manifests := by
  induction manifests generalizing budget with
  | nil => rfl
  | cons m rest ih =>
      rw [totalBytes_cons] at h
      rw [withinBudget, if_pos (by omega), ih (by omega)]

/-- Where a key is taken once, it finds one element. -/
theorem filter_eq_singleton {α β : Type} [DecidableEq β] {f : α → β} {l : List α}
    (hnodup : (l.map f).Nodup) {a : α} (ha : a ∈ l) :
    l.filter (fun b => decide (f b = f a)) = [a] := by
  induction l with
  | nil => cases ha
  | cons b l ih =>
      rw [List.map_cons, List.nodup_cons] at hnodup
      rcases List.mem_cons.mp ha with rfl | ha
      · have hrest : l.filter (fun b => decide (f b = f a)) = [] := by
          refine List.filter_eq_nil_iff.mpr fun c hc hsame => hnodup.1 ?_
          rw [← of_decide_eq_true hsame]
          exact List.mem_map_of_mem hc
        rw [List.filter_cons, if_pos (decide_eq_true rfl), hrest]
      · have hne : f b ≠ f a := fun hsame => hnodup.1 (hsame ▸ List.mem_map_of_mem ha)
        rw [List.filter_cons, if_neg (by simpa using hne), ih hnodup.2 ha]

section Holds

variable (blake3 : Blake3) (u : Unicode) (serde : Serde)

/-- An entry of `objects` that is a complete snapshot under the name of its id. -/
def IsObject (vaultId : Uuid) (row : FileName × ObjectEntry) (m : SnapshotManifest) : Prop :=
  row.1 = .utf8 m.snapshotId.toHyphenated ∧
    ∃ directory, row.2 = .dir directory ∧ Complete blake3 u serde vaultId directory m

/-- The objects of a store are complete snapshots with these manifests, and nothing is
staged. -/
structure SnapshotStore.Holds (store : SnapshotStore) (manifests : List SnapshotManifest) :
    Prop where
  objects : List.Forall₂ (IsObject blake3 u serde store.vaultId) store.objects.rows manifests
  staging : store.staging.rows = []
  length_le : manifests.length ≤ maxSnapshotScanEntries

end Holds

section Scan

variable {blake3 : Blake3} {u : Unicode} {serde : Serde} {store : SnapshotStore}
  {manifests : List SnapshotManifest}

namespace SnapshotStore.Holds

theorem names_eq (h : store.Holds blake3 u serde manifests) :
    store.objects.names = manifests.map fun m => .utf8 m.snapshotId.toHyphenated := by
  obtain ⟨hrows, -, -⟩ := h
  rw [Dir.names]
  generalize store.objects.rows = rows at hrows
  induction hrows with
  | nil => rfl
  | cons hrow _ ih => rw [List.map_cons, List.map_cons, hrow.1, ih]

theorem nodup_ids (h : store.Holds blake3 u serde manifests) :
    (manifests.map (·.snapshotId)).Nodup := by
  have hnodup : store.objects.names.Nodup := store.objects.nodup_keys
  rw [h.names_eq] at hnodup
  refine List.Nodup.of_map (fun id : Uuid => FileName.utf8 id.toHyphenated) ?_
  rwa [List.map_map]

theorem exists_directory (h : store.Holds blake3 u serde manifests) {m : SnapshotManifest}
    (hm : m ∈ manifests) :
    ∃ directory, store.objects.get m.snapshotId.toHyphenated = some (.dir directory) ∧
      Complete blake3 u serde store.vaultId directory m := by
  obtain ⟨row, hrow, hname, directory, hentry, hcomplete⟩ :=
    exists_of_mem_right h.objects hm
  refine ⟨directory, Dir.get_eq_some_iff.mpr ?_, hcomplete⟩
  rw [← hname, ← hentry]
  exact hrow

theorem valid (h : store.Holds blake3 u serde manifests) {m : SnapshotManifest}
    (hm : m ∈ manifests) : m.Valid u store.vaultId := by
  obtain ⟨_, -, hcomplete⟩ := h.exists_directory hm
  exact hcomplete.valid

end SnapshotStore.Holds

/-! ## The scan -/

/-- One turn takes the object if the budget covers it. -/
theorem SnapshotStore.scanId_object {m : SnapshotManifest} {directory : ObjectDir}
    (hget : store.objects.get m.snapshotId.toHyphenated = some (.dir directory))
    (hcomplete : Complete blake3 u serde store.vaultId directory m) (scan : RetentionScan) :
    store.scanId blake3 u serde scan m.snapshotId [.objects] =
      if m.logicalBytes ≤ maxVerificationBytes - scan.verifiedBytes then
        { scan with
          manifests := scan.manifests ++ [m]
          verifiedBytes := scan.verifiedBytes + m.logicalBytes }
      else
        { scan with
          opaqueEvidence := scan.opaqueEvidence + 1
          budgetExhausted := true } := by
  have hopen := openOptionalPrivateDir_eq_some.mpr hget
  by_cases hfits : m.logicalBytes ≤ maxVerificationBytes - scan.verifiedBytes
  · have hinspect := inspectObject_eq_ok.mpr
      ⟨hcomplete.inspect, show (some (maxVerificationBytes - scan.verifiedBytes)).any
        (· < m.logicalBytes) = false by simpa using hfits⟩
    rw [if_pos hfits]
    unfold scanId
    dsimp only
    rw [hopen]
    dsimp only
    rw [hinspect]
  · have hinspect := inspectObject_eq_exceeded hcomplete.inspect (Nat.lt_of_not_le hfits)
    rw [if_neg hfits]
    unfold scanId
    dsimp only
    rw [hopen]
    dsimp only
    rw [hinspect]

theorem SnapshotStore.foldl_scanId {locations : Uuid → List EvidenceLocation}
    (hobjects : ∀ m ∈ manifests, locations m.snapshotId = [.objects] ∧
      ∃ directory, store.objects.get m.snapshotId.toHyphenated = some (.dir directory) ∧
        Complete blake3 u serde store.vaultId directory m) (scan : RetentionScan) :
    ((manifests.map (·.snapshotId)).foldl
      (fun scan id => store.scanId blake3 u serde scan id (locations id)) scan).manifests =
        scan.manifests ++ withinBudget (maxVerificationBytes - scan.verifiedBytes) manifests := by
  induction manifests generalizing scan with
  | nil => rw [List.map_nil, List.foldl_nil, withinBudget, List.append_nil]
  | cons m rest ih =>
      rw [List.forall_mem_cons] at hobjects
      obtain ⟨⟨hlocations, directory, hget, hcomplete⟩, hrest⟩ := hobjects
      rw [List.map_cons, List.foldl_cons, hlocations, store.scanId_object hget hcomplete,
        ih hrest, withinBudget]
      split
      · rw [List.append_assoc, List.singleton_append, Nat.sub_add_eq]
      · rfl

namespace SnapshotStore.Holds

theorem idEntries_objects (h : store.Holds blake3 u serde manifests) :
    idEntries .objects store.objects.names =
      manifests.map fun m => (m.snapshotId, EvidenceLocation.objects) := by
  rw [idEntries, h.names_eq, List.filterMap_map]
  rw [← List.filterMap_eq_map]
  refine List.filterMap_congr fun m hm => ?_
  have hid := (SnapshotManifest.validate_eq_ok.mp (h.valid hm).validate).2.1
  have hparse : Uuid.parseCanonical m.snapshotId.toHyphenated.toList = some m.snapshotId :=
    Uuid.parseCanonical_eq_some_iff.mpr rfl
  rw [Function.comp_apply, canonicalSnapshotId, FileName.toStr]
  simp only [Option.bind_eq_bind, Option.bind_some, hparse, hid, Bool.false_eq_true, if_false,
    Option.map_some]
  rfl

/-- What the scan of a store finds. -/
theorem scan_manifests (h : store.Holds blake3 u serde manifests) (scan : RetentionScan) :
    let byId := idEntries .objects store.objects.names ++ idEntries .staging store.staging.names
    (((byId.map Prod.fst).dedup.insertionSort fun a b => idKey a ≤ idKey b).foldl
      (fun scan id => store.scanId blake3 u serde scan id
        ((byId.filter (·.1 = id)).map Prod.snd)) scan).manifests =
      scan.manifests ++
        withinBudget (maxVerificationBytes - scan.verifiedBytes) (sortById manifests) := by
  intro byId
  have hbyId : byId = manifests.map fun m => (m.snapshotId, EvidenceLocation.objects) := by
    have hstaging : store.staging.names = [] := by rw [Dir.names, h.staging, List.map_nil]
    show idEntries .objects store.objects.names ++ idEntries .staging store.staging.names = _
    rw [h.idEntries_objects, hstaging]
    exact List.append_nil _
  have hids : (byId.map Prod.fst).dedup.insertionSort (fun a b => idKey a ≤ idKey b) =
      (sortById manifests).map (·.snapshotId) := by
    have hfst : byId.map Prod.fst = manifests.map (·.snapshotId) := by
      rw [hbyId, List.map_map]
      rfl
    rw [hfst, List.Nodup.dedup h.nodup_ids, sortById]
    exact (List.map_insertionSort (fun a b : SnapshotManifest =>
      idKey a.snapshotId ≤ idKey b.snapshotId) (fun a b : Uuid => idKey a ≤ idKey b) _ _
      fun a _ b _ => Iff.rfl).symm
  rw [hids]
  have hlocations : ∀ m ∈ sortById manifests,
      ((byId.filter (·.1 = m.snapshotId)).map Prod.snd) = [EvidenceLocation.objects] ∧
        ∃ directory, store.objects.get m.snapshotId.toHyphenated = some (.dir directory) ∧
          Complete blake3 u serde store.vaultId directory m := by
    intro m hm
    have hm := (List.mem_insertionSort _).mp hm
    refine ⟨?_, h.exists_directory hm⟩
    -- the id stands for one entry
    rw [hbyId, List.filter_map, Function.comp_def, filter_eq_singleton h.nodup_ids hm]
    rfl
  exact store.foldl_scanId hlocations scan

end SnapshotStore.Holds

/-! ## The selection -/

/-- The collision key of a path. -/
def lineageText (u : Unicode) (path : String) : Text :=
  (fromPortable u path.toList).elim [] Store.collisionKey

/-- The manifests under the keys of their lineages. -/
def keyedBy (u : Unicode) (manifests : List SnapshotManifest) : List (Text × SnapshotManifest) :=
  manifests.map fun m => (lineageText u m.path, m)

/-- The oldest snapshots, until what remains is small enough. -/
def oversized (maxLogicalBytes : ℕ) : ℕ → List SnapshotManifest → List Uuid
  | _, [] => []
  | remaining, m :: rest =>
      if remaining ≤ maxLogicalBytes then []
      else m.snapshotId :: oversized maxLogicalBytes (remaining - m.logicalBytes) rest

/-- Why a snapshot is given up. -/
def RetentionPolicy.reasons (policy : RetentionPolicy) (u : Unicode) (now : ℕ)
    (manifests : List SnapshotManifest) (m : SnapshotManifest) : List RetentionReason :=
  reasonsFor (policy.aged now (sortByAge manifests)) (policy.lineageExcess (keyedBy u manifests))
    (oversized policy.maxLogicalBytes (totalBytes manifests) (sortByAge manifests)) m.snapshotId

/-- What a policy gives up of valid snapshots. -/
def RetentionPolicy.select (policy : RetentionPolicy) (u : Unicode) (now : ℕ)
    (manifests : List SnapshotManifest) : List RetentionCandidate :=
  (sortByAge manifests).filterMap fun m => m.candidate (policy.reasons u now manifests m)

theorem SnapshotManifest.Valid.lineageKey_eq {m : SnapshotManifest} {vaultId : Uuid}
    (h : m.Valid u vaultId) : m.lineageKey u = .ok (lineageText u m.path) := by
  obtain ⟨key, hkey⟩ := h.exists_lineageKey
  rw [lineageKey] at hkey ⊢
  rw [lineageText]
  cases hpath : fromPortable u m.path.toList with
  | none =>
      rw [hpath] at hkey
      cases hkey
  | some path => rfl

theorem SnapshotManifest.Valid.manifestLogicalBytes_eq {m : SnapshotManifest} {vaultId : Uuid}
    (h : m.Valid u vaultId) : manifestLogicalBytes m = .ok m.logicalBytes := by
  have hbytes := h.bytes
  have hpayload := h.byteLen_le
  have hcanonical : m.canonicalBytes = .ok (utf8Bytes m.json) :=
    canonicalBytes_eq_ok.mpr ⟨rfl, hbytes⟩
  have hword : maxManifestBytes + maxPayloadBytes < wordLimit := by decide
  have hfits : checkedAdd (utf8Bytes m.json).length m.revision.byteLen = some m.logicalBytes :=
    fitsWord_eq_some_iff.mpr ⟨rfl, by rw [logicalBytes]; omega⟩
  rw [manifestLogicalBytes, hcanonical, ok_bind, hfits]

theorem checkedSum_eq {total : ℕ} {sizes : List ℕ} (h : total + sizes.sum < wordLimit) :
    checkedSum total sizes = .ok (total + sizes.sum) := by
  induction sizes generalizing total with
  | nil => rw [checkedSum, List.sum_nil, Nat.add_zero]
  | cons n rest ih =>
      rw [List.sum_cons, ← Nat.add_assoc] at h ⊢
      have hfits : checkedAdd total n = some (total + n) :=
        fitsWord_eq_some_iff.mpr ⟨rfl, by omega⟩
      rw [checkedSum, hfits]
      exact ih h

theorem RetentionPolicy.sizeExcess_eq {policy : RetentionPolicy} {remaining : ℕ}
    {manifests : List SnapshotManifest} (h : totalBytes manifests ≤ remaining) :
    policy.sizeExcess remaining manifests =
      .ok (oversized policy.maxLogicalBytes remaining manifests) := by
  induction manifests generalizing remaining with
  | nil => rfl
  | cons m rest ih =>
      rw [totalBytes_cons] at h
      rw [sizeExcess, oversized]
      by_cases hfits : remaining ≤ policy.maxLogicalBytes
      · rw [if_pos hfits, if_pos hfits]
      · rw [if_neg hfits, if_neg hfits, if_pos (by omega), ih (by omega)]
        rfl

theorem totalBytes_sortByAge (manifests : List SnapshotManifest) :
    totalBytes (sortByAge manifests) = totalBytes manifests :=
  ((sortByAge_perm manifests).map _).sum_eq

/-- Among valid snapshots the plan of a policy is its selection. -/
theorem RetentionPolicy.planManifests_eq {policy : RetentionPolicy} {now : ℕ} {vaultId : Uuid}
    (hvalid : ∀ m ∈ manifests, m.Valid u vaultId)
    (hnodup : (manifests.map (·.snapshotId)).Nodup) (hfits : totalBytes manifests < wordLimit) :
    policy.planManifests u now manifests = .ok (policy.select u now manifests) := by
  have hcheck : checkManifests u (manifests.head?.map (·.vaultId)) manifests [] = .ok () := by
    refine checkManifests_eq_ok.mpr ⟨fun m hm => ⟨(hvalid m hm).validate, List.not_mem_nil,
      fun vaultId' hvault => ?_⟩, hnodup⟩
    obtain ⟨first, hfirst, rfl⟩ := Option.map_eq_some_iff.mp hvault
    rw [(hvalid m hm).vault, (hvalid first (List.mem_of_mem_head? hfirst)).vault]
  have hkeyed : mapEach (fun manifest => do
      let key ← SnapshotManifest.lineageKey u manifest
      Except.ok (key, manifest)) manifests = .ok (keyedBy u manifests) :=
    mapEach_eq_map fun m hm => by rw [(hvalid m hm).lineageKey_eq, ok_bind]
  have hsizes : mapEach manifestLogicalBytes manifests =
      .ok (manifests.map SnapshotManifest.logicalBytes) :=
    mapEach_eq_map fun m hm => (hvalid m hm).manifestLogicalBytes_eq
  have htotal : checkedSum 0 (manifests.map SnapshotManifest.logicalBytes) =
      .ok (totalBytes manifests) := by
    rw [checkedSum_eq (by rwa [Nat.zero_add]), Nat.zero_add, totalBytes]
  rw [planManifests, hcheck, ok_bind, hkeyed, ok_bind, hsizes, ok_bind, htotal, ok_bind,
    sizeExcess_eq (totalBytes_sortByAge manifests).le, ok_bind]
  rfl

/-- The retention plan of a store is the selection among the snapshots the budget covers. -/
theorem SnapshotStore.Holds.planRetentionLocked_eq (h : store.Holds blake3 u serde manifests)
    (now : ℕ) (policy : RetentionPolicy) :
    ∃ plan, store.planRetentionLocked blake3 u serde now policy = .ok plan ∧
      plan.candidates = (policy.select u now
        (withinBudget maxVerificationBytes (sortById manifests))).take maxRetentionCandidates := by
  have hsub := withinBudget_sublist maxVerificationBytes (sortById manifests)
  have hperm : (sortById manifests).Perm manifests := List.perm_insertionSort _ _
  have hbudget := totalBytes_withinBudget maxVerificationBytes (sortById manifests)
  have hword : maxVerificationBytes < wordLimit := by decide
  have hvalid : ∀ m ∈ withinBudget maxVerificationBytes (sortById manifests),
      m.Valid u store.vaultId := fun m hm => h.valid (hperm.mem_iff.mp (hsub.subset hm))
  have hnodup : ((withinBudget maxVerificationBytes (sortById manifests)).map
      (·.snapshotId)).Nodup :=
    ((hperm.map _).nodup_iff.mpr h.nodup_ids).sublist (hsub.map _)
  have hscanned : ¬ maxSnapshotScanEntries <
      store.objects.rows.length + store.staging.rows.length := by
    have hlen := h.length_le
    rw [h.objects.length_eq, h.staging, List.length_nil]
    omega
  have hscan := h.scan_manifests
    { opaqueEvidence := store.objects.rows.length + store.staging.rows.length -
        (idEntries .objects store.objects.names ++
          idEntries .staging store.staging.names).length }
  dsimp only at hscan
  rw [List.nil_append, Nat.sub_zero] at hscan
  have hsizes : mapEach manifestLogicalBytes
      (withinBudget maxVerificationBytes (sortById manifests)) =
        .ok ((withinBudget maxVerificationBytes (sortById manifests)).map
          SnapshotManifest.logicalBytes) :=
    mapEach_eq_map fun m hm => (hvalid m hm).manifestLogicalBytes_eq
  have hsum : 0 + ((withinBudget maxVerificationBytes (sortById manifests)).map
      SnapshotManifest.logicalBytes).sum < wordLimit := by
    rw [← totalBytes]
    omega
  have htotal := checkedSum_eq hsum
  have hplan : policy.planManifests u now (withinBudget maxVerificationBytes
      (sortById manifests)) = .ok (policy.select u now _) :=
    RetentionPolicy.planManifests_eq hvalid hnodup (by omega)
  rw [planRetentionLocked, reject_eq_ok.mpr hscanned, ok_bind]
  dsimp only
  rw [hscan, hsizes, ok_bind, htotal, ok_bind, hplan, ok_bind]
  exact ⟨_, rfl, rfl⟩

end Scan

/-! ## Stores made of snapshots -/

/-- The object directory of a snapshot. -/
def objectDir (m : SnapshotManifest) (payload : List UInt8) : ObjectDir where
  rows := [(.utf8 manifestFile, .file (utf8Bytes m.json)), (.utf8 payloadFile, .file payload)]
  nodup_keys := by simp [manifestFile, payloadFile]

/-- A parser that knows some manifests. -/
def Serde.knowing (known : List SnapshotManifest) : Serde where
  routingEnvelope bytes := (known.find? fun m => utf8Bytes m.json = bytes).map fun m =>
    { version := m.version, snapshotId := m.snapshotId, vaultId := m.vaultId }
  snapshotManifest bytes := known.find? fun m => utf8Bytes m.json = bytes
  agree := by
    intro bytes envelope manifest henvelope hmanifest
    rw [hmanifest, Option.map_some, Option.some.injEq] at henvelope
    subst henvelope
    exact ⟨rfl, rfl, rfl⟩

/-- The text of a manifest tells whose it is. -/
theorem SnapshotManifest.snapshotId_of_json {a b : SnapshotManifest}
    (hversion : a.version = b.version) (h : a.json = b.json) : a.snapshotId = b.snapshotId := by
  have hplain : ∀ id : Uuid, Json.string id.toHyphenated.toList =
      '"' :: (hyphenated id.toList ++ ['"']) := fun id => by
    rw [Uuid.toHyphenated, String.toList_ofList]
    exact Json.string_of_plain fun c hc => Json.isPlain_of_mem_hyphenated hc
  simp only [json, Json.object, List.map_cons, Json.commaSeparated, Json.member, hversion, hplain,
    List.cons_append, List.append_assoc, List.cons.injEq, List.append_cancel_left_eq, true_and]
    at h
  have hyphens := (List.append_inj h
    ((Uuid.length_hyphenated _).trans (Uuid.length_hyphenated _).symm)).1
  refine Uuid.toHyphenated_injective ?_
  rw [Uuid.toHyphenated, Uuid.toHyphenated, hyphens]

theorem Serde.knowing_eq_some {known : List SnapshotManifest} {m : SnapshotManifest}
    (hversion : ∀ m ∈ known, m.version = SnapshotManifest.currentVersion)
    (hnodup : (known.map (·.snapshotId)).Nodup) (hm : m ∈ known) :
    known.find? (fun m' => decide (utf8Bytes m'.json = utf8Bytes m.json)) = some m := by
  cases hfind : known.find? fun m' => decide (utf8Bytes m'.json = utf8Bytes m.json) with
  | none => exact absurd (decide_eq_true rfl) (List.find?_eq_none.mp hfind m hm)
  | some other =>
      have hother := List.mem_of_find?_eq_some hfind
      have hfound := List.find?_some hfind
      have hbytes := of_decide_eq_true hfound
      have hid := SnapshotManifest.snapshotId_of_json
        ((hversion other hother).trans (hversion m hm).symm) (utf8Bytes_injective hbytes)
      rw [List.inj_on_of_nodup_map hnodup hother hm hid]

theorem complete_objectDir {blake3 : Blake3} {u : Unicode} {vaultId : Uuid}
    {known : List SnapshotManifest} {m : SnapshotManifest} {payload : List UInt8}
    (hversion : ∀ m ∈ known, m.version = SnapshotManifest.currentVersion)
    (hnodup : (known.map (·.snapshotId)).Nodup) (hm : m ∈ known) (hvalid : m.Valid u vaultId)
    (hrevision : m.revision = .fromBytes blake3 payload) :
    Complete blake3 u (.knowing known) vaultId (objectDir m payload) m where
  inspect := by
    have hexact : verifyExactObjectEntries (objectDir m payload) = .ok () :=
      reject_eq_ok.mpr (by simp [objectDir, Dir.names])
    have hmanifest : readPrivateFile (objectDir m payload) manifestFile maxManifestBytes =
        .ok (utf8Bytes m.json) :=
      readPrivateFile_eq_ok.mpr ⟨Dir.get_eq_some_iff.mpr List.mem_cons_self, hvalid.bytes⟩
    have hpayload : readPrivateFile (objectDir m payload) payloadFile maxPayloadBytes =
        .ok payload := by
      refine readPrivateFile_eq_ok.mpr ⟨Dir.get_eq_some_iff.mpr
        (List.mem_cons_of_mem _ List.mem_cons_self), ?_⟩
      have hlen := hvalid.byteLen_le
      rwa [hrevision, SnapshotRevision.fromBytes] at hlen
    have hfind := Serde.knowing_eq_some hversion hnodup hm
    have henvelope : (Serde.knowing known).routingEnvelope (utf8Bytes m.json) =
        some { version := m.version, snapshotId := m.snapshotId, vaultId := m.vaultId } := by
      rw [Serde.knowing]
      dsimp only
      rw [hfind, Option.map_some]
    have hcanonical : m.canonicalBytes = .ok (utf8Bytes m.json) :=
      SnapshotManifest.canonicalBytes_eq_ok.mpr ⟨rfl, hvalid.bytes⟩
    have hevidence : evidenceOf blake3 u (.knowing known) .objects m.snapshotId vaultId
        (utf8Bytes m.json) payload = .ok (.supported .objects m) := by
      unfold evidenceOf
      dsimp only
      rw [henvelope]
      dsimp only
      have hread : (Serde.knowing known).snapshotManifest (utf8Bytes m.json) = some m := hfind
      rw [if_neg (by simp [hvalid.vault]), if_neg (by simp [hversion m hm]), hread]
      dsimp only
      rw [hvalid.validate, ok_bind, hcanonical, ok_bind, reject_eq_ok.mpr (by simp [hrevision]),
        ok_bind]
    rw [inspectObject, hexact, ok_bind, hmanifest, ok_bind, hpayload, ok_bind]
    dsimp only
    rw [reject_eq_ok.mpr (by simp), ok_bind, hevidence, SnapshotManifest.logicalBytes, hrevision]
    rfl

/-- A store whose objects are the given snapshots. -/
def SnapshotStore.ofSnapshots (vaultId : Uuid) (snapshots : List (SnapshotManifest × List UInt8))
    (hnodup : (snapshots.map (·.1.snapshotId)).Nodup) : SnapshotStore where
  vaultId := vaultId
  objects :=
    { rows := snapshots.map fun s =>
        (.utf8 s.1.snapshotId.toHyphenated, .dir (objectDir s.1 s.2))
      nodup_keys := by
        rw [List.map_map]
        have hinjective : Function.Injective fun id : Uuid => FileName.utf8 id.toHyphenated :=
          fun a b h => Uuid.toHyphenated_injective (FileName.utf8.inj h)
        have hmap := hnodup.map hinjective
        rwa [List.map_map] at hmap }
  staging := Table.empty
  runs := Table.empty
  work := Table.empty

theorem SnapshotStore.holds_ofSnapshots {blake3 : Blake3} {u : Unicode} {vaultId : Uuid}
    {snapshots : List (SnapshotManifest × List UInt8)}
    {hnodup : (snapshots.map (·.1.snapshotId)).Nodup}
    (hvalid : ∀ s ∈ snapshots, s.1.Valid u vaultId)
    (hrevision : ∀ s ∈ snapshots, s.1.revision = .fromBytes blake3 s.2)
    (hlen : snapshots.length ≤ maxSnapshotScanEntries) :
    (ofSnapshots vaultId snapshots hnodup).Holds blake3 u (.knowing (snapshots.map Prod.fst))
      (snapshots.map Prod.fst) where
  objects := by
    rw [ofSnapshots, List.forall₂_map_left_iff, List.forall₂_map_right_iff, List.forall₂_same]
    intro s hs
    refine ⟨rfl, objectDir s.1 s.2, rfl, complete_objectDir ?_ (by rwa [List.map_map])
      (List.mem_map_of_mem hs) (hvalid s hs) (hrevision s hs)⟩
    intro m hm
    obtain ⟨s, hs, rfl⟩ := List.mem_map.mp hm
    exact (SnapshotManifest.validate_eq_ok.mp (hvalid s hs).validate).1
  staging := rfl
  length_le := by rwa [List.length_map]

/-- The length of the text of a manifest. -/
theorem SnapshotManifest.utf8Len_json {m : SnapshotManifest}
    (h : isLowerHex64 m.revision.blake3Hex = true) :
    utf8Len m.json = 286 + utf8Len (Json.number m.version) +
      utf8Len (Json.escape m.path.toList) + utf8Len (Json.number m.createdAtUnixMs) +
      utf8Len (Json.number m.revision.byteLen) := by
  have hnames : utf8Len (Json.string "version".toList) = 9 ∧
      utf8Len (Json.string "snapshot_id".toList) = 13 ∧
      utf8Len (Json.string "vault_id".toList) = 10 ∧
      utf8Len (Json.string "path".toList) = 6 ∧
      utf8Len (Json.string "created_at_unix_ms".toList) = 20 ∧
      utf8Len (Json.string "revision".toList) = 10 ∧
      utf8Len (Json.string "blake3_hex".toList) = 12 ∧
      utf8Len (Json.string "byte_len".toList) = 10 ∧
      utf8Len (Json.string "reason".toList) = 8 ∧
      utf8Len (Json.string "before_content_replace".toList) = 24 := by decide
  obtain ⟨h₁, h₂, h₃, h₄, h₅, h₆, h₇, h₈, h₉, h₁₀⟩ := hnames
  rw [json, Json.utf8Len_object (by simp)]
  simp only [List.map_cons, List.map_nil, List.sum_cons, List.sum_nil,
    Json.utf8Len_object (List.cons_ne_nil _ _), h₁, h₂, h₃, h₄, h₅, h₆, h₇, h₈, h₉, h₁₀,
    Json.utf8Len_uuid, Json.utf8Len_digest h, Json.utf8Len_string m.path.toList]
  omega

/-- An id for every number. -/
def numberedId (i : ℕ) : Uuid := ⟨natBe 16 (i + 1), length_natBe 16 _⟩

/-- A snapshot with the id of a number. -/
def numberedManifest (blake3 : Blake3) (vaultId : Uuid) (path : String) (payload : List UInt8)
    (i : ℕ) : SnapshotManifest where
  version := 1
  snapshotId := numberedId i
  vaultId := vaultId
  path := path
  createdAtUnixMs := 0
  revision := .fromBytes blake3 payload
  reason := .beforeContentReplace

/-- The snapshots numbered from 0 of one path and one content. -/
def numberedSnapshots (blake3 : Blake3) (vaultId : Uuid) (path : String) (payload : List UInt8)
    (count : ℕ) : List (SnapshotManifest × List UInt8) :=
  (List.range count).map fun i => (numberedManifest blake3 vaultId path payload i, payload)

theorem natBe_numbered_inj {i j : ℕ} (hi : i < 2 ^ 65) (hj : j < 2 ^ 65)
    (h : natBe 16 i = natBe 16 j) : i = j := by
  have hmod := natBe_inj h
  have hword : (2 : ℕ) ^ 65 < 256 ^ 16 := by decide
  rwa [Nat.mod_eq_of_lt (by omega), Nat.mod_eq_of_lt (by omega)] at hmod

theorem numberedId_inj {i j : ℕ} (hi : i < 2 ^ 64) (hj : j < 2 ^ 64)
    (h : numberedId i = numberedId j) : i = j := by
  have hbytes := natBe_numbered_inj (by omega) (by omega) (congrArg List.Vector.toList h)
  omega

theorem isNil_numberedId {i : ℕ} (hi : i < 2 ^ 64) : (numberedId i).isNil = false := by
  refine Bool.eq_false_iff.mpr fun hnil => ?_
  rw [Uuid.isNil, List.all_eq_true] at hnil
  have hzero : (numberedId i).toList = natBe 16 0 := by
    rw [show natBe 16 0 = List.replicate 16 0 by decide]
    exact List.eq_replicate_iff.mpr
      ⟨List.Vector.toList_length _, fun b hb => eq_of_beq (hnil b hb)⟩
  have hbytes := natBe_numbered_inj (by omega) (by omega) hzero
  omega

theorem nodup_numberedSnapshots {blake3 : Blake3} {vaultId : Uuid} {path : String}
    {payload : List UInt8} {count : ℕ} (hcount : count ≤ 2 ^ 64) :
    ((numberedSnapshots blake3 vaultId path payload count).map (·.1.snapshotId)).Nodup := by
  rw [numberedSnapshots, List.map_map]
  refine List.Nodup.map_on (fun i hi j hj h => ?_) List.nodup_range
  rw [List.mem_range] at hi hj
  exact numberedId_inj (by omega) (by omega) h

theorem valid_numberedSnapshots {blake3 : Blake3} {vaultId : Uuid} {path : String}
    {payload : List UInt8} {count : ℕ} (hvault : vaultId.isNil = false)
    (hpath : SnapshotManifest.validatePath u path.toList = .ok ())
    (hlen : utf8Len (Json.escape path.toList) ≤ 8192) (hpayload : payload.length ≤ maxPayloadBytes)
    (hdigits : utf8Len (Json.number payload.length) ≤ 20) (hcount : count ≤ 2 ^ 64)
    {s : SnapshotManifest × List UInt8}
    (hs : s ∈ numberedSnapshots blake3 vaultId path payload count) : s.1.Valid u vaultId := by
  obtain ⟨i, hi, rfl⟩ := List.mem_map.mp hs
  rw [List.mem_range] at hi
  have hid : (numberedManifest blake3 vaultId path payload i).snapshotId.isNil = false :=
    isNil_numberedId (by omega)
  have hrevision : (numberedManifest blake3 vaultId path payload i).revision.validate =
      .ok () := by
    rw [SnapshotRevision.validate, reject_eq_ok, numberedManifest, SnapshotRevision.fromBytes,
      isLowerHex64_hexBlake3]
    rintro (h | h)
    · exact Nat.not_lt.mpr hpayload h
    · cases h
  have hlower : isLowerHex64
      (numberedManifest blake3 vaultId path payload i).revision.blake3Hex = true :=
    isLowerHex64_hexBlake3 _ _
  refine ⟨SnapshotManifest.validate_eq_ok.mpr ⟨rfl, hid, hvault, hrevision, hpath⟩, rfl, ?_⟩
  have hone : utf8Len (Json.number 1) = 1 ∧ utf8Len (Json.number 0) = 1 := by decide
  rw [length_utf8Bytes, SnapshotManifest.utf8Len_json hlower, numberedManifest,
    SnapshotRevision.fromBytes]
  dsimp only
  rw [hone.1, hone.2, maxManifestBytes]
  omega

/-- The vault of these snapshots. -/
def numberedStore (blake3 : Blake3) (vaultId : Uuid) (path : String) (payload : List UInt8)
    (count : ℕ) (hcount : count ≤ 2 ^ 64) : SnapshotStore :=
  .ofSnapshots vaultId (numberedSnapshots blake3 vaultId path payload count)
    (nodup_numberedSnapshots hcount)

/-- The manifests of these snapshots. -/
def numberedManifests (blake3 : Blake3) (vaultId : Uuid) (path : String) (payload : List UInt8)
    (count : ℕ) : List SnapshotManifest :=
  (numberedSnapshots blake3 vaultId path payload count).map Prod.fst

theorem length_numberedManifests (blake3 : Blake3) (vaultId : Uuid) (path : String)
    (payload : List UInt8) (count : ℕ) :
    (numberedManifests blake3 vaultId path payload count).length = count := by
  rw [numberedManifests, numberedSnapshots, List.length_map, List.length_map, List.length_range]

theorem mem_numberedManifests {blake3 : Blake3} {vaultId : Uuid} {path : String}
    {payload : List UInt8} {count : ℕ} {m : SnapshotManifest}
    (hm : m ∈ numberedManifests blake3 vaultId path payload count) :
    ∃ i < count, m = numberedManifest blake3 vaultId path payload i := by
  obtain ⟨s, hs, rfl⟩ := List.mem_map.mp hm
  obtain ⟨i, hi, rfl⟩ := List.mem_map.mp hs
  exact ⟨i, List.mem_range.mp hi, rfl⟩

theorem holds_numberedStore {blake3 : Blake3} {vaultId : Uuid} {path : String}
    {payload : List UInt8} {count : ℕ} {hcount : count ≤ 2 ^ 64} (hvault : vaultId.isNil = false)
    (hpath : SnapshotManifest.validatePath u path.toList = .ok ())
    (hlen : utf8Len (Json.escape path.toList) ≤ 8192) (hpayload : payload.length ≤ maxPayloadBytes)
    (hdigits : utf8Len (Json.number payload.length) ≤ 20)
    (hentries : count ≤ maxSnapshotScanEntries) :
    (numberedStore blake3 vaultId path payload count hcount).Holds blake3 u
      (.knowing (numberedManifests blake3 vaultId path payload count))
      (numberedManifests blake3 vaultId path payload count) := by
  refine SnapshotStore.holds_ofSnapshots
    (fun s hs => valid_numberedSnapshots hvault hpath hlen hpayload hdigits hcount hs)
    (fun s hs => ?_) ?_
  · obtain ⟨i, -, rfl⟩ := List.mem_map.mp hs
    rfl
  · rwa [numberedSnapshots, List.length_map, List.length_range]

/-- A policy that gives up everything of a certain age gives up what has that age. -/
theorem RetentionPolicy.length_select {policy : RetentionPolicy} {now : ℕ}
    {manifests : List SnapshotManifest} (hnow : policy.maxAgeMs ≤ now)
    (hold : ∀ m ∈ manifests, m.createdAtUnixMs ≤ now - policy.maxAgeMs) :
    (policy.select u now manifests).length = manifests.length := by
  rw [select, List.filterMap_length_eq_length.mpr, (sortByAge_perm manifests).length_eq]
  intro m hm
  have haged : m.snapshotId ∈ policy.aged now (sortByAge manifests) := by
    refine List.mem_map_of_mem (List.mem_filter.mpr ⟨hm, decide_eq_true ⟨hnow, ?_⟩⟩)
    exact hold m (mem_sortByAge.mp hm)
  have hreason : RetentionReason.age ∈ policy.reasons u now manifests m :=
    List.mem_filter.mpr ⟨List.mem_cons_self, decide_eq_true haged⟩
  rw [SnapshotManifest.candidate, if_neg (List.ne_nil_of_mem hreason)]
  rfl

end Snapshots
end MyVault
