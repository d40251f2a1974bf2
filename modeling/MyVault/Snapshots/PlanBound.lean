import MyVault.Snapshots.Supported
import Mathlib.Algebra.Order.BigOperators.Group.List
import Mathlib.Algebra.Order.Group.Nat

/-!
# When a bound plan is accepted

A plan bound from the candidates of a retention plan passes every check of
`validate_plan` but the last: the checks are about digests and lengths that
`bind_candidate` has just computed.  The last check limits the JSON text of the plan to
128 KiB, while the number of candidates is limited to 256 and the collision key of a
path stands in each of them.  `bindPlan_isOk_iff` gives the length of that text as a sum
over the candidates, so it says which plans a run is refused for.

## The length of the text

`GcCandidate.textLen` is the length of one candidate in the JSON text: the names of its members,
its id and three digests are a constant, the numbers have as many digits as they have, and the
collision key of the path is escaped, so that one character of it may take six.  `planLen` adds up
the candidates and what the plan itself takes.

To state the condition on the store, the candidates are traced to their objects
(`SnapshotStore.HasObject`): a retention plan names objects that are complete, and what
`bind_candidate` reads of such an object is what its manifest says.  256 snapshots of a note with
a long name are too many (`long_name_refused`), those of one with a short name are not
(`short_name_accepted`).
-/

namespace MyVault
namespace Snapshots

open Check VaultPath

/-! ## The objects behind the candidates -/

section Scan

variable {blake3 : Blake3} {u : Unicode} {serde : Serde} {store : SnapshotStore}

/-- An object directory with a complete snapshot in it. -/
def SnapshotStore.HasObject (blake3 : Blake3) (u : Unicode) (serde : Serde)
    (store : SnapshotStore) (manifest : SnapshotManifest) : Prop :=
  ∃ directory, store.objects.get manifest.snapshotId.toHyphenated = some (.dir directory) ∧
    Complete blake3 u serde store.vaultId directory manifest

/-- One turn adds a complete object or none. -/
theorem SnapshotStore.scanId_manifests (scan : RetentionScan) (id : Uuid)
    (locations : List EvidenceLocation) :
    (store.scanId blake3 u serde scan id locations).manifests = scan.manifests ∨
      ∃ manifest, store.HasObject blake3 u serde manifest ∧
        (store.scanId blake3 u serde scan id locations).manifests =
          scan.manifests ++ [manifest] := by
  unfold scanId
  split
  · rename_i location
    dsimp only
    split
    · exact Or.inl rfl
    · exact Or.inl rfl
    · rename_i directory hdirectory
      split
      · rename_i location' manifest logical hinspect
        cases location with
        | staging => exact Or.inl rfl
        | objects =>
            obtain ⟨rfl, -, hcomplete⟩ := complete_of_inspectObject hinspect
            exact Or.inr ⟨manifest, ⟨directory,
              openOptionalPrivateDir_eq_some.mp hdirectory, hcomplete⟩, rfl⟩
      · exact Or.inl rfl
      · exact Or.inl rfl
      · exact Or.inl rfl
  · exact Or.inl rfl

theorem SnapshotStore.hasObject_of_scan {scan : RetentionScan} {ids : List Uuid}
    {locations : Uuid → List EvidenceLocation}
    (h : ∀ m ∈ scan.manifests, store.HasObject blake3 u serde m) :
    ∀ m ∈ (ids.foldl (fun scan id => store.scanId blake3 u serde scan id (locations id))
      scan).manifests, store.HasObject blake3 u serde m := by
  induction ids generalizing scan with
  | nil => exact h
  | cons id ids ih =>
      refine ih ?_
      have hstep : _ ∨ ∃ manifest, store.HasObject blake3 u serde manifest ∧
          (store.scanId blake3 u serde scan id (locations id)).manifests =
            scan.manifests ++ [manifest] := store.scanId_manifests scan id (locations id)
      rcases hstep with hsame | ⟨manifest, hmanifest, hmore⟩
      · rwa [hsame]
      · rw [hmore]
        intro m hm
        rcases List.mem_append.mp hm with hm | hm
        · exact h m hm
        · rwa [List.mem_singleton.mp hm]

/-- Every candidate of a retention plan is a complete object, and none stands twice. -/
theorem SnapshotStore.hasObject_of_plan {now : ℕ} {policy : RetentionPolicy}
    {plan : RetentionPlan}
    (h : store.planRetentionLocked blake3 u serde now policy = .ok plan) :
    (∀ c ∈ plan.candidates, ∃ m reasons, store.HasObject blake3 u serde m ∧
      reasons.Sublist [.age, .lineageCount, .totalSize] ∧ m.candidate reasons = some c) ∧
    (plan.candidates.map (·.snapshotId)).Nodup ∧
    plan.candidates.length ≤ maxRetentionCandidates := by
  rw [planRetentionLocked, seq_eq_ok] at h
  simp only [bind_eq_ok, Except.ok.injEq] at h
  obtain ⟨-, sizes, -, total, -, candidates, hcandidates, rfl⟩ := h
  obtain ⟨hmem, hnodup⟩ := RetentionPolicy.mem_of_planManifests hcandidates
  refine ⟨fun c hc => ?_, ?_, List.length_take_le _ _⟩
  · obtain ⟨m, hm, reasons, hreasons, hcandidate⟩ := hmem c (List.mem_of_mem_take hc)
    exact ⟨m, reasons, store.hasObject_of_scan (fun _ hnil => absurd hnil List.not_mem_nil) m hm,
      hreasons, hcandidate⟩
  · exact hnodup.sublist ((List.take_sublist _ _).map _)

end Scan

/-! ## Binding a candidate -/

section Bind

variable {blake3 : Blake3} {u : Unicode} {serde : Serde} {store : SnapshotStore}

/-- The candidate of a plan, from the manifest and the collision key of its path. -/
def SnapshotManifest.bound (blake3 : Blake3) (manifest : SnapshotManifest) (key : Text)
    (reasons : List RetentionReason) : GcCandidate where
  snapshotId := manifest.snapshotId
  manifestBlake3 := hexBlake3 blake3 (utf8Bytes manifest.json)
  payloadBlake3 := manifest.revision.blake3Hex
  payloadBytes := manifest.revision.byteLen
  logicalBytes := manifest.logicalBytes
  createdAtUnixMs := manifest.createdAtUnixMs
  lineageKey := String.ofList key
  lineageBlake3 := hexBlake3 blake3 (utf8Bytes key)
  reasons := reasons

theorem SnapshotStore.bindCandidate_of_hasObject {manifest : SnapshotManifest}
    {candidate : RetentionCandidate} {key : Text}
    (h : store.HasObject blake3 u serde manifest) (hkey : manifest.lineageKey u = .ok key)
    (hid : candidate.snapshotId = manifest.snapshotId) :
    store.bindCandidate blake3 u serde candidate =
      .ok (manifest.bound blake3 key candidate.reasons) := by
  obtain ⟨directory, hdirectory, hcomplete⟩ := h
  have hopen := openPrivateDir_eq_ok.mpr hdirectory
  have hread : readPrivateFile directory manifestFile maxManifestBytes =
      .ok (utf8Bytes manifest.json) :=
    readPrivateFile_eq_ok.mpr ⟨hcomplete.get_manifest, hcomplete.valid.bytes⟩
  rw [bindCandidate, hid, hopen, ok_bind, hcomplete.inspect, ok_bind]
  show (Except.ok _ >>= _) = _
  rw [ok_bind]
  show (readPrivateFile directory manifestFile maxManifestBytes >>= _) = _
  rw [hread, ok_bind, hkey, ok_bind]
  rfl

/-- What is bound passes the checks that look at one candidate. -/
theorem SnapshotManifest.isValid_bound {manifest : SnapshotManifest} {vaultId : Uuid} {key : Text}
    {reasons : List RetentionReason} (h : manifest.Valid u vaultId) (hne : reasons ≠ [])
    (hreasons : reasons.Sublist [.age, .lineageCount, .totalSize]) :
    (manifest.bound blake3 key reasons).isValid blake3 = true := by
  have hid := (SnapshotManifest.validate_eq_ok.mp h.validate).2.1
  have hsorted : reasons.Pairwise fun a b => a.rank < b.rank :=
    List.Pairwise.sublist hreasons (by decide)
  have hbytes := h.bytes
  have hpayload := h.byteLen_le
  simp only [GcCandidate.isValid, bound, Bool.and_eq_true, decide_eq_true_eq, Bool.not_eq_true',
    beq_iff_eq, isLowerHex64_hexBlake3, h.isLowerHex64_payload, hid, hpayload, hsorted,
    logicalBytes, strBytes, String.toList_ofList, true_and, and_true]
  exact ⟨⟨decide_eq_true (by omega), decide_eq_true (by omega)⟩, decide_eq_true hne⟩

/-- A plan that passes the other checks is refused for its length or not at all. -/
theorem validatePlan_of_checks {plan : GcPlan} {vaultId : Uuid} (hversion : plan.version = 1)
    (hrun : plan.runId.isNil = false) (hvault : plan.vaultId = vaultId)
    (hne : plan.candidates ≠ []) (hlen : plan.candidates.length ≤ maxRetentionCandidates)
    (hdigest : plan.planBlake3 = planDigest blake3 plan)
    (hnodup : (plan.candidates.map (·.snapshotId)).Nodup)
    (hvalid : ∀ c ∈ plan.candidates, c.isValid blake3 = true) :
    validatePlan blake3 plan vaultId =
      reject (maxPlanBytes < utf8Len plan.json) .gcPlanTooLarge := by
  have hall : plan.candidates.all (GcCandidate.isValid blake3) = true :=
    List.all_eq_true.mpr hvalid
  have hfirst : ¬ (plan.version ≠ 1 ∨ plan.runId.isNil = true ∨ plan.vaultId ≠ vaultId ∨
      plan.candidates = [] ∨ maxRetentionCandidates < plan.candidates.length ∨
      plan.planBlake3 ≠ planDigest blake3 plan) := by
    rw [hrun]
    rintro (h | h | h | h | h | h)
    · exact h hversion
    · exact nomatch h
    · exact h hvault
    · exact hne h
    · omega
    · exact h hdigest
  have hsecond : ¬ (¬ (plan.candidates.map (·.snapshotId)).Nodup ∨
      plan.candidates.all (GcCandidate.isValid blake3) = false) := by
    rw [hall]
    rintro (h | h)
    · exact h hnodup
    · exact nomatch h
  rw [validatePlan, reject_eq_ok.mpr hfirst, ok_bind, reject_eq_ok.mpr hsecond, ok_bind]

end Bind

/-! ## The length of the text -/

/-- The digits of a number. -/
def digits (n : ℕ) : ℕ := utf8Len (Json.number n)

/-- What the reasons of a candidate cost. -/
def reasonsLen (reasons : List RetentionReason) : ℕ :=
  (reasons.map fun reason => utf8Len (Json.string reason.name.toList) + 1).sum

/-- What one candidate costs in the text of a plan: the names of its members, the id and
the three digests, and what depends on the snapshot. -/
def GcCandidate.textLen (candidate : GcCandidate) : ℕ :=
  393 + digits candidate.payloadBytes + digits candidate.logicalBytes +
    digits candidate.createdAtUnixMs + utf8Len (Json.escape candidate.lineageKey.toList) +
    reasonsLen candidate.reasons

theorem utf8Len_json_candidate {candidate : GcCandidate}
    (hvalid : candidate.isValid blake3 = true) :
    utf8Len candidate.json + 1 = candidate.textLen := by
  simp only [GcCandidate.isValid, Bool.and_eq_true, decide_eq_true_eq, beq_iff_eq] at hvalid
  obtain ⟨⟨⟨⟨⟨⟨⟨⟨-, hmanifest⟩, hpayload⟩, -⟩, -⟩, -⟩, hne⟩, -⟩, hlineage⟩ := hvalid
  have hlineageDigest : utf8Len (Json.string candidate.lineageBlake3.toList) = 66 := by
    rw [hlineage]
    exact Json.utf8Len_digest (isLowerHex64_hexBlake3 blake3 _)
  have hnames : utf8Len (Json.string "snapshot_id".toList) = 13 ∧
      utf8Len (Json.string "manifest_blake3".toList) = 17 ∧
      utf8Len (Json.string "payload_blake3".toList) = 16 ∧
      utf8Len (Json.string "payload_bytes".toList) = 15 ∧
      utf8Len (Json.string "logical_bytes".toList) = 15 ∧
      utf8Len (Json.string "created_at_unix_ms".toList) = 20 ∧
      utf8Len (Json.string "lineage_key".toList) = 13 ∧
      utf8Len (Json.string "lineage_blake3".toList) = 16 ∧
      utf8Len (Json.string "reasons".toList) = 9 := by decide
  obtain ⟨h₁, h₂, h₃, h₄, h₅, h₆, h₇, h₈, h₉⟩ := hnames
  have hreasonsNe : (candidate.reasons.map fun reason => Json.string reason.name.toList) ≠ [] := by
    simpa using hne
  have hreasons := Json.utf8Len_array hreasonsNe
  rw [List.map_map] at hreasons
  rw [GcCandidate.json, Json.utf8Len_object (by simp)]
  simp only [List.map_cons, List.map_nil, List.sum_cons, List.sum_nil, h₁, h₂, h₃, h₄, h₅, h₆, h₇,
    h₈, h₉, Json.utf8Len_uuid, Json.utf8Len_digest hmanifest, Json.utf8Len_digest hpayload,
    hlineageDigest,
    Json.utf8Len_string candidate.lineageKey.toList, hreasons]
  rw [GcCandidate.textLen, digits, digits, digits, reasonsLen]
  simp only [Function.comp_def]
  omega

/-- The length of the text of a plan. -/
def planLen (policy : RetentionPolicy) (now : ℕ) (entries : List ℕ) : ℕ :=
  296 + digits policy.maxAgeMs + digits policy.maxPerLineage + digits policy.maxLogicalBytes +
    digits now + entries.sum

theorem utf8Len_json_newPlan {store : SnapshotStore} {runId : Uuid} {now : ℕ}
    {policy : RetentionPolicy} {bound : List GcCandidate} (hne : bound ≠ [])
    (hvalid : ∀ c ∈ bound, c.isValid blake3 = true) :
    utf8Len (store.newPlan blake3 runId now policy bound).json =
      planLen policy now (bound.map GcCandidate.textLen) := by
  have hnames : utf8Len (Json.string "version".toList) = 9 ∧
      utf8Len (Json.string "run_id".toList) = 8 ∧
      utf8Len (Json.string "vault_id".toList) = 10 ∧
      utf8Len (Json.string "policy".toList) = 8 ∧
      utf8Len (Json.string "max_age_ms".toList) = 12 ∧
      utf8Len (Json.string "max_per_lineage".toList) = 17 ∧
      utf8Len (Json.string "max_logical_bytes".toList) = 19 ∧
      utf8Len (Json.string "evaluated_at_unix_ms".toList) = 22 ∧
      utf8Len (Json.string "candidates".toList) = 12 ∧
      utf8Len (Json.string "plan_blake3".toList) = 13 ∧
      utf8Len (Json.number 1) = 1 := by decide
  obtain ⟨h₁, h₂, h₃, h₄, h₅, h₆, h₇, h₈, h₉, h₁₀, hone⟩ := hnames
  have hdigest : utf8Len (Json.string
      (store.newPlan blake3 runId now policy bound).planBlake3.toList) = 66 :=
    Json.utf8Len_digest (isLowerHex64_hexBlake3 blake3 _)
  have hjsonNe : bound.map GcCandidate.json ≠ [] := by simpa using hne
  have hcandidates := Json.utf8Len_array hjsonNe
  have hentries : (bound.map GcCandidate.json).map (fun t => utf8Len t + 1) =
      bound.map GcCandidate.textLen := by
    rw [List.map_map]
    exact List.map_congr_left fun c hc => utf8Len_json_candidate (hvalid c hc)
  rw [hentries] at hcandidates
  have hpolicy : utf8Len policy.json = 55 + digits policy.maxAgeMs + digits policy.maxPerLineage +
      digits policy.maxLogicalBytes := by
    rw [RetentionPolicy.json, Json.utf8Len_object (by simp)]
    simp only [List.map_cons, List.map_nil, List.sum_cons, List.sum_nil, h₅, h₆, h₇, digits]
    omega
  have hmembers : (store.newPlan blake3 runId now policy bound).unsignedMembers =
      [("version", Json.number 1), ("run_id", Json.string runId.toHyphenated.toList),
        ("vault_id", Json.string store.vaultId.toHyphenated.toList), ("policy", policy.json),
        ("evaluated_at_unix_ms", Json.number now),
        ("candidates", Json.array (bound.map GcCandidate.json))] := rfl
  rw [GcPlan.json, Json.utf8Len_object (by simp), hmembers]
  simp only [List.map_cons, List.map_nil, List.map_append, List.sum_append, List.sum_cons,
    List.sum_nil, h₁, h₂, h₃, h₄, h₈, h₉, h₁₀, hone, Json.utf8Len_uuid, hdigest, hcandidates,
    hpolicy]
  rw [planLen, digits, digits, digits, digits]
  omega

/-! ## Which plans are accepted -/

section Accepted

variable {blake3 : Blake3} {u : Unicode} {serde : Serde} {store : SnapshotStore}

/-- The length of the payload in an object directory. -/
def SnapshotStore.payloadLen (store : SnapshotStore) (id : Uuid) : ℕ :=
  match openPrivateDir store.objects id.toHyphenated with
  | .error _ => 0
  | .ok directory =>
      match readPrivateFile directory payloadFile maxPayloadBytes with
      | .error _ => 0
      | .ok payload => payload.length

/-- What a candidate of the retention plan costs in the text of the GC plan. -/
def SnapshotStore.entryLen (store : SnapshotStore) (u : Unicode) (c : RetentionCandidate) : ℕ :=
  393 + digits (store.payloadLen c.snapshotId) + digits c.logicalBytes +
    digits c.createdAtUnixMs + utf8Len (Json.escape (lineageText u c.path)) +
    reasonsLen c.reasons

theorem SnapshotStore.payloadLen_eq {m : SnapshotManifest}
    (h : store.HasObject blake3 u serde m) :
    store.payloadLen m.snapshotId = m.revision.byteLen := by
  obtain ⟨directory, hget, hcomplete⟩ := h
  obtain ⟨-, -, -, -, -, payload, hpayload, hrevision⟩ := exists_of_inspectObject hcomplete.inspect
  have hlen := hcomplete.valid.byteLen_le
  rw [hrevision, SnapshotRevision.fromBytes] at hlen
  rw [payloadLen, openPrivateDir_eq_ok.mpr hget]
  dsimp only
  rw [readPrivateFile_eq_ok.mpr ⟨hpayload, hlen⟩, hrevision, SnapshotRevision.fromBytes]

theorem map_eq_of_forall₂ {α β γ : Type} {f : α → γ} {g : β → γ} {xs : List α} {ys : List β}
    (h : List.Forall₂ (fun x y => g y = f x) xs ys) : xs.map f = ys.map g := by
  induction h with
  | nil => rfl
  | cons hxy _ ih => rw [List.map_cons, List.map_cons, hxy, ih]

/-- The plan bound from the candidates of a retention plan is accepted if its text is not
too long, and refused for that reason otherwise. -/
theorem SnapshotStore.bindPlan_eq {runId : Uuid} {now : ℕ} {policy : RetentionPolicy}
    {plan : RetentionPlan}
    (hplan : store.planRetentionLocked blake3 u serde now policy = .ok plan)
    (hne : plan.candidates ≠ []) (hrun : runId.isNil = false) :
    ∃ gc, store.bindPlan blake3 u serde runId now policy plan.candidates =
      (reject (maxPlanBytes < planLen policy now (plan.candidates.map (store.entryLen u)))
        .gcPlanTooLarge >>= fun _ => .ok gc) := by
  obtain ⟨hobjects, hnodup, hlen⟩ := store.hasObject_of_plan hplan
  -- what each candidate is bound to
  have hbound : ∀ c ∈ plan.candidates, ∃ gc, store.bindCandidate blake3 u serde c = .ok gc ∧
      gc.isValid blake3 = true ∧ gc.snapshotId = c.snapshotId ∧
        gc.textLen = store.entryLen u c := by
    intro c hc
    obtain ⟨m, reasons, hobject, hreasons, hcandidate⟩ := hobjects c hc
    obtain ⟨hreasonsNe, rfl⟩ := SnapshotManifest.candidate_eq_some.mp hcandidate
    have hvalid : m.Valid u store.vaultId := by
      obtain ⟨_, -, hcomplete⟩ := hobject
      exact hcomplete.valid
    have hkey := hvalid.lineageKey_eq
    refine ⟨_, store.bindCandidate_of_hasObject hobject hkey rfl,
      SnapshotManifest.isValid_bound hvalid hreasonsNe hreasons, rfl, ?_⟩
    rw [GcCandidate.textLen, entryLen, store.payloadLen_eq hobject, SnapshotManifest.bound]
    dsimp only
    rw [String.toList_ofList]
  obtain ⟨bound, hmap⟩ := exists_mapEach_ok fun c hc => (hbound c hc).imp fun _ h => h.1
  have hpairs : List.Forall₂ (fun c gc => gc.isValid blake3 = true ∧
      gc.snapshotId = c.snapshotId ∧ gc.textLen = store.entryLen u c) plan.candidates bound := by
    refine ((List.forall₂_and_left _ _).mpr ⟨hbound, mapEach_eq_ok.mp hmap⟩).imp ?_
    rintro c gc ⟨⟨gc', hgc', hfacts⟩, hgc⟩
    rw [hgc, Except.ok.injEq] at hgc'
    rwa [hgc']
  have hvalid : ∀ gc ∈ bound, gc.isValid blake3 = true := fun gc hgc => by
    obtain ⟨c, -, hfacts⟩ := exists_of_mem_right hpairs hgc
    exact hfacts.1
  have hids : bound.map (·.snapshotId) = plan.candidates.map (·.snapshotId) :=
    (map_eq_of_forall₂ (hpairs.imp fun _ _ h => h.2.1)).symm
  have hentries : bound.map GcCandidate.textLen = plan.candidates.map (store.entryLen u) :=
    (map_eq_of_forall₂ (hpairs.imp fun _ _ h => h.2.2)).symm
  have hboundNe : bound ≠ [] := by
    rintro rfl
    exact hne (List.forall₂_nil_right_iff.mp hpairs)
  have hboundLen : bound.length ≤ maxRetentionCandidates := hpairs.length_eq ▸ hlen
  have hboundNodup : (bound.map (·.snapshotId)).Nodup := hids ▸ hnodup
  have hchecks : validatePlan blake3 (store.newPlan blake3 runId now policy bound) store.vaultId =
      reject (maxPlanBytes < utf8Len (store.newPlan blake3 runId now policy bound).json)
        .gcPlanTooLarge :=
    validatePlan_of_checks rfl hrun rfl hboundNe hboundLen rfl hboundNodup hvalid
  refine ⟨store.newPlan blake3 runId now policy bound, ?_⟩
  rw [bindPlan, hmap, ok_bind]
  dsimp only
  rw [hchecks, utf8Len_json_newPlan hboundNe hvalid, hentries]

/-- A run that has candidates gets its plan accepted exactly if the text of the plan has at
most 128 KiB; otherwise it fails with `GcPlanTooLarge`. -/
theorem retention_plan_accepted_iff {runId : Uuid} {now : ℕ} {policy : RetentionPolicy}
    {plan : RetentionPlan}
    (hplan : store.planRetentionLocked blake3 u serde now policy = .ok plan)
    (hne : plan.candidates ≠ []) (hrun : runId.isNil = false) :
    ((∃ gc, store.bindPlan blake3 u serde runId now policy plan.candidates = .ok gc) ↔
      planLen policy now (plan.candidates.map (store.entryLen u)) ≤ maxPlanBytes) ∧
    (maxPlanBytes < planLen policy now (plan.candidates.map (store.entryLen u)) →
      store.bindPlan blake3 u serde runId now policy plan.candidates = .error .gcPlanTooLarge) := by
  obtain ⟨gc, hbind⟩ := store.bindPlan_eq hplan hne hrun
  rw [hbind]
  constructor
  · rw [← Nat.not_lt, ← reject_eq_ok (e := Error.gcPlanTooLarge)]
    constructor
    · rintro ⟨gc', h⟩
      exact (seq_eq_ok.mp h).1
    · exact fun h => ⟨gc, seq_eq_ok.mpr ⟨h, rfl⟩⟩
  · intro hlong
    rw [reject, if_pos hlong]
    rfl

end Accepted

/-- A policy under which everything that was ever written is too old. -/
def giveUpAll : RetentionPolicy :=
  { maxAgeMs := 0, maxPerLineage := 2 ^ 64 - 1, maxLogicalBytes := 2 ^ 64 - 1 }

/-- A short note: its plan is accepted. -/
theorem short_name_accepted :
    ∃ plan gc, (numberedStore constantDigest (numberedId 0) "a.md" [] 1 (by decide)).bindPlan
      constantDigest Unicode.ascii
      (.knowing (numberedManifests constantDigest (numberedId 0) "a.md" [] 1)) (numberedId 0) 1
      giveUpAll plan = .ok gc ∧ plan ≠ [] := by
  have hholds : (numberedStore constantDigest (numberedId 0) "a.md" [] 1 (by decide)).Holds
      constantDigest Unicode.ascii
      (.knowing (numberedManifests constantDigest (numberedId 0) "a.md" [] 1))
      (numberedManifests constantDigest (numberedId 0) "a.md" [] 1) :=
    holds_numberedStore (by decide) (by decide +kernel) (by decide +kernel) (by decide) (by decide)
      (by decide)
  obtain ⟨plan, hplan, hcandidates⟩ := hholds.planRetentionLocked_eq 1 giveUpAll
  have hne : plan.candidates ≠ [] := by
    rw [hcandidates]
    decide +kernel
  have hrun : (numberedId 0).isNil = false := by decide
  obtain ⟨gc, hgc⟩ := (retention_plan_accepted_iff hplan hne hrun).1.mpr (by
    rw [hcandidates]
    decide +kernel)
  exact ⟨plan.candidates, gc, hgc, hne⟩

/-- A note whose name has 253 characters. -/
def longName : String := String.ofList (List.replicate 250 'a' ++ ".md".toList)

theorem toList_longName : longName.toList = List.replicate 250 'a' ++ ".md".toList :=
  String.toList_ofList

theorem utf8Len_longName :
    utf8Len (Json.escape (lineageText Unicode.ascii longName)) = 253 := by
  have hkey : utf8Len (Json.escape ((fromPortable Unicode.ascii
      (List.replicate 250 'a' ++ ".md".toList)).elim [] Store.collisionKey)) = 253 := by
    decide +kernel
  rw [lineageText, toList_longName, hkey]

/-- The vault of 256 snapshots of it. -/
def longNameStore : SnapshotStore :=
  numberedStore constantDigest (numberedId 0) longName [] 256 (by decide)

/-- 256 snapshots of one note with a long name. -/
def longNameManifests : List SnapshotManifest :=
  numberedManifests constantDigest (numberedId 0) longName [] 256

theorem holds_longNameStore : longNameStore.Holds constantDigest Unicode.ascii
    (.knowing longNameManifests) longNameManifests := by
  have hpath : SnapshotManifest.validatePath Unicode.ascii
      (List.replicate 250 'a' ++ ".md".toList) = .ok () := by decide +kernel
  have hlen : utf8Len (Json.escape (List.replicate 250 'a' ++ ".md".toList)) ≤ 8192 := by
    decide +kernel
  rw [← toList_longName] at hpath hlen
  exact holds_numberedStore (by decide) hpath hlen (by decide) (by decide) (by decide)

theorem totalBytes_longName : totalBytes (sortById longNameManifests) ≤ maxVerificationBytes := by
  have hperm : (sortById longNameManifests).Perm longNameManifests := List.perm_insertionSort _ _
  have hsum := List.sum_le_card_nsmul ((sortById longNameManifests).map
    SnapshotManifest.logicalBytes) maxManifestBytes (by
      rw [List.forall_mem_map]
      intro m hm
      have hm := hperm.mem_iff.mp hm
      have hbytes := (holds_longNameStore.valid hm).bytes
      have hpayload : m.revision.byteLen = 0 := by
        obtain ⟨i, -, rfl⟩ := mem_numberedManifests hm
        rfl
      rwa [SnapshotManifest.logicalBytes, hpayload, Nat.add_zero])
  have hlen : (sortById longNameManifests).length = 256 := by
    rw [hperm.length_eq, longNameManifests, length_numberedManifests]
  rw [List.length_map, hlen] at hsum
  exact hsum.trans (by decide)

/-- 256 snapshots of one note, all of them due: the plan is longer than 128 KiB, and no
run of this vault is ever accepted. -/
theorem long_name_refused :
    longNameStore.Holds constantDigest Unicode.ascii (.knowing longNameManifests)
      longNameManifests ∧
    ∃ plan, longNameStore.planRetentionLocked constantDigest Unicode.ascii
        (.knowing longNameManifests) 1 giveUpAll = .ok plan ∧ plan.candidates ≠ [] ∧
      ∀ runId : Uuid, runId.isNil = false →
        longNameStore.bindPlan constantDigest Unicode.ascii (.knowing longNameManifests)
          runId 1 giveUpAll plan.candidates = .error .gcPlanTooLarge := by
  have hperm : (sortById longNameManifests).Perm longNameManifests := List.perm_insertionSort _ _
  obtain ⟨plan, hplan, hcandidates⟩ := holds_longNameStore.planRetentionLocked_eq 1 giveUpAll
  rw [withinBudget_of_le totalBytes_longName] at hcandidates
  have hcount : plan.candidates.length = 256 := by
    rw [hcandidates, List.length_take, RetentionPolicy.length_select (by decide),
      hperm.length_eq, longNameManifests, length_numberedManifests]
    · rfl
    · intro m hm
      obtain ⟨i, -, rfl⟩ := mem_numberedManifests (hperm.mem_iff.mp hm)
      exact Nat.zero_le _
  have hne : plan.candidates ≠ [] := by
    intro hnil
    rw [hnil] at hcount
    exact nomatch hcount
  have hentry : ∀ n ∈ plan.candidates.map (longNameStore.entryLen Unicode.ascii), 646 ≤ n := by
    rw [List.forall_mem_map]
    intro c hc
    rw [hcandidates] at hc
    obtain ⟨m, hm, hcandidate⟩ := List.mem_filterMap.mp (List.mem_of_mem_take hc)
    obtain ⟨i, -, rfl⟩ := mem_numberedManifests (hperm.mem_iff.mp (mem_sortByAge.mp hm))
    rw [SnapshotStore.entryLen, (SnapshotManifest.candidate_eq_some.mp hcandidate).2,
      numberedManifest]
    dsimp only
    rw [utf8Len_longName]
    omega
  have hsum := List.card_nsmul_le_sum _ _ hentry
  rw [List.length_map, hcount] at hsum
  refine ⟨holds_longNameStore, plan, hplan, hne, fun runId hrun => ?_⟩
  obtain ⟨gc, hbind⟩ := longNameStore.bindPlan_eq hplan hne hrun
  have hlong : maxPlanBytes < planLen giveUpAll 1
      (plan.candidates.map (longNameStore.entryLen Unicode.ascii)) := by
    have hlimit : maxPlanBytes < 256 • 646 := by decide
    rw [planLen]
    omega
  rw [hbind, reject, if_pos hlong]
  rfl

end Snapshots
end MyVault
