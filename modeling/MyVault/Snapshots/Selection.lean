import MyVault.Library.OldestFirst
import MyVault.Snapshots.Supported

/-!
# What a retention policy selects

The three reasons of `plan_manifests` are found independently of each other, and a snapshot
with any of them is selected.  Each is a property of the snapshot among the others and not
of a list of them (`mem_aged`, `mem_lineageExcess`, `mem_oversized`), so the order of the
manifests does not matter, and what is not selected satisfies every limit.

The bytes are counted down from the sum of all snapshots.  So a snapshot that is selected
for the bytes alone may be one that would fit once those of the other reasons are gone: the
age takes the oldest anyway, but the surplus of a lineage may be newer
(`lineage_surplus_is_counted`).

## Main results

* `selects_select`: what the selection comes to.  The candidates are those with a reason, in the
  order of their age, and what they leave satisfies all three limits.
* `retention_selects_oldest`: the plan is the same for every order of the manifests and names the
  oldest of what is selected.

The maps and sets of the source are lists under an order here, so a reason is first shown to be a
property of the snapshot (`mem_reasons`), and the permutation of the manifests is then one
rewriting (`reasons_perm`).
-/

namespace MyVault
namespace Snapshots

open Check VaultPath

/-! ## Valid manifests -/

section Valid

variable {u : Unicode} {m : SnapshotManifest}

/-- A character of a portable name is printed as it is. -/
theorem escapeChar_of_portable {name : Text} {c : Char} (h : PortableComponent u name)
    (hc : c ∈ name) : Json.escapeChar c = [c] := by
  have hportable := h.2
  rw [isPortableComponent] at hportable
  split at hportable
  · cases hportable
  rename_i hallowed
  have hforbidden : isForbiddenChar c = false := by
    refine Bool.eq_false_iff.mpr fun hbad => hallowed ?_
    exact Or.inr (Or.inr (Or.inr (List.any_eq_true.mpr ⟨c, hc, hbad⟩)))
  rw [isForbiddenChar, Bool.or_eq_false_iff, isControl, Bool.or_eq_false_iff,
    decide_eq_false_iff_not, Nat.not_lt, List.contains_eq_mem,
    decide_eq_false_iff_not] at hforbidden
  obtain ⟨⟨hprintable, -⟩, hlisted⟩ := hforbidden
  have hquote : c.toNat ≠ 0x22 := fun heq => hlisted (by
    rw [show c = '"' from Char.ext (UInt32.toNat_inj.mp heq)]
    decide)
  have hback : c.toNat ≠ 0x5c := fun heq => hlisted (by
    rw [show c = '\\' from Char.ext (UInt32.toNat_inj.mp heq)]
    decide)
  unfold Json.escapeChar
  split <;> first | omega | exact if_neg (by omega)

/-- A valid path is printed as it is. -/
theorem escape_of_validatePath {path : Text}
    (h : SnapshotManifest.validatePath u path = .ok ()) :
    Json.escape path = path ∧ utf8Len path ≤ maxPathBytes := by
  rw [SnapshotManifest.validatePath] at h
  split at h
  · cases h
  rename_i vaultPath _
  rw [reject_eq_ok, not_or, Decidable.not_not] at h
  obtain ⟨rfl, -⟩ := h
  refine ⟨Json.escape_of_plain fun c hc => ?_, vaultPath.fits.2.1⟩
  rcases mem_joinSlash hc with rfl | ⟨name, hname, hmem⟩
  · decide
  · exact escapeChar_of_portable (vaultPath.portable name hname) hmem

/-- A manifest that passes its checks fits into its file. -/
theorem SnapshotManifest.valid_of_validate (h : m.validate u = .ok ())
    (hcreated : m.createdAtUnixMs < wordLimit) : m.Valid u m.vaultId := by
  obtain ⟨hversion, -, -, hrevision, hpath⟩ := validate_eq_ok.mp h
  rw [SnapshotRevision.validate, reject_eq_ok, not_or, Bool.not_eq_false, Nat.not_lt] at hrevision
  obtain ⟨hescape, hlen⟩ := escape_of_validatePath hpath
  have hone : utf8Len (Json.number m.version) ≤ 1 := by
    rw [hversion]
    decide
  have hdate : utf8Len (Json.number m.createdAtUnixMs) ≤ 20 :=
    Json.utf8Len_number_le (by decide) (hcreated.trans (by decide))
  have hpayload : utf8Len (Json.number m.revision.byteLen) ≤ 20 :=
    Json.utf8Len_number_le (by decide) (hrevision.1.trans_lt (by decide))
  refine ⟨h, rfl, ?_⟩
  rw [length_utf8Bytes, utf8Len_json hrevision.2, hescape, maxManifestBytes]
  rw [maxPathBytes] at hlen
  omega

end Valid

/-! ## The reasons -/

/-- The snapshots that are as old as this one or newer. -/
def notOlder (manifests : List SnapshotManifest) (m : SnapshotManifest) : List SnapshotManifest :=
  manifests.filter fun other => m.sortKey ≤ other.sortKey

/-- The snapshots of a collision key. -/
def lineageOf (u : Unicode) (manifests : List SnapshotManifest) (key : Text) :
    List SnapshotManifest :=
  manifests.filter fun other => lineageText u other.path = key

/-- The snapshot is as old as the policy allows, or older. -/
def RetentionPolicy.IsAged (policy : RetentionPolicy) (now : ℕ) (m : SnapshotManifest) : Prop :=
  policy.maxAgeMs ≤ now ∧ m.createdAtUnixMs ≤ now - policy.maxAgeMs

section Reasons

variable {u : Unicode} {policy : RetentionPolicy} {now : ℕ} {manifests : List SnapshotManifest}
  {m : SnapshotManifest}

theorem idKey_injective : Function.Injective idKey := fun _ _ h =>
  List.Vector.toList_injective (List.map_injective_iff.mpr (fun _ _ => UInt8.toNat_inj.mp) h)

theorem sortKey_inj {a b : SnapshotManifest} (h : a.sortKey = b.sortKey) :
    a.snapshotId = b.snapshotId := by
  rw [SnapshotManifest.sortKey, SnapshotManifest.sortKey, toLex_inj, Prod.mk.injEq] at h
  exact idKey_injective h.2

/-- The order of the ages is strict among different ids. -/
theorem pairwise_sortByAge (hnodup : (manifests.map (·.snapshotId)).Nodup) :
    (sortByAge manifests).Pairwise fun a b => a.sortKey < b.sortKey := by
  have hsorted : (sortByAge manifests).Pairwise fun a b => a.sortKey ≤ b.sortKey :=
    List.pairwise_insertionSort _ _
  have hkeys : (sortByAge manifests).Pairwise fun a b => a.snapshotId ≠ b.snapshotId :=
    List.pairwise_map.mp (((sortByAge_perm manifests).map _).nodup_iff.mpr hnodup)
  exact (hsorted.and hkeys).imp fun h =>
    lt_of_le_of_ne h.1 fun heq => h.2 (sortKey_inj heq)

/-- What is said of a list in the order of the ages is said of the list. -/
theorem weight_filter_sortByAge {w : SnapshotManifest → ℕ} {p : SnapshotManifest → Bool} :
    weight w ((sortByAge manifests).filter p) = weight w (manifests.filter p) :=
  weight_perm ((sortByAge_perm manifests).filter p)

theorem oversized_eq (bound : ℕ) (ordered : List SnapshotManifest) :
    oversized bound (totalBytes ordered) ordered =
      (excess SnapshotManifest.logicalBytes bound ordered).map (·.snapshotId) := by
  induction ordered with
  | nil => rfl
  | cons first rest ih =>
      have hweight : weight SnapshotManifest.logicalBytes (first :: rest) =
          totalBytes (first :: rest) := rfl
      rw [oversized, excess, hweight]
      by_cases hfits : totalBytes (first :: rest) ≤ bound
      · rw [if_pos hfits, if_pos hfits, List.map_nil]
      · rw [if_neg hfits, if_neg hfits, List.map_cons, ← ih, totalBytes_cons,
          Nat.add_sub_cancel_left]

theorem keyedBy_lineage (key : Text) :
    ((keyedBy u manifests).filter (·.1 = key)).map Prod.snd = lineageOf u manifests key := by
  rw [keyedBy, List.filter_map, List.map_map, lineageOf]
  exact List.map_id _

variable (hnodup : (manifests.map (·.snapshotId)).Nodup) (hm : m ∈ manifests)
include hnodup hm

/-- An id of some of the snapshots is that of a snapshot among them. -/
theorem mem_ids_iff {some : List SnapshotManifest} (hsub : some ⊆ manifests) :
    m.snapshotId ∈ some.map (·.snapshotId) ↔ m ∈ some := by
  constructor
  · intro h
    obtain ⟨other, hother, hid⟩ := List.mem_map.mp h
    exact List.inj_on_of_nodup_map hnodup (hsub hother) hm hid ▸ hother
  · exact fun h => List.mem_map_of_mem h

theorem mem_aged : m.snapshotId ∈ policy.aged now (sortByAge manifests) ↔ policy.IsAged now m := by
  have hsub : ((sortByAge manifests).filter fun manifest => decide (policy.maxAgeMs ≤ now ∧
      manifest.createdAtUnixMs ≤ now - policy.maxAgeMs)) ⊆ manifests :=
    fun other hother => mem_sortByAge.mp (List.mem_of_mem_filter hother)
  rw [RetentionPolicy.aged, mem_ids_iff hnodup hm hsub, List.mem_filter, mem_sortByAge,
    decide_eq_true_eq, and_iff_right hm, RetentionPolicy.IsAged]

/-- Too many snapshots of the lineage are as new as this one. -/
theorem mem_lineageExcess : m.snapshotId ∈ policy.lineageExcess (keyedBy u manifests) ↔
    policy.maxPerLineage <
      (notOlder (lineageOf u manifests (lineageText u m.path)) m).length := by
  have hlineage : ∀ key, m.snapshotId ∈ ((sortByAge (lineageOf u manifests key)).take
      ((sortByAge (lineageOf u manifests key)).length - policy.maxPerLineage)).map
        (·.snapshotId) ↔ lineageText u m.path = key ∧
          policy.maxPerLineage < (notOlder (lineageOf u manifests key) m).length := by
    intro key
    have hof : (lineageOf u manifests key).Sublist manifests := List.filter_sublist
    have hsorted := pairwise_sortByAge (hnodup.sublist (hof.map _))
    have hsub : excess (fun _ => 1) policy.maxPerLineage (sortByAge (lineageOf u manifests key)) ⊆
        manifests :=
      fun other hother => hof.subset (mem_sortByAge.mp ((excess_sublist _).subset hother))
    rw [← excess_one, mem_ids_iff hnodup hm hsub]
    by_cases hkey : lineageText u m.path = key
    · have hmem : m ∈ sortByAge (lineageOf u manifests key) :=
        mem_sortByAge.mpr (List.mem_filter.mpr ⟨hm, decide_eq_true hkey⟩)
      rw [and_iff_right hkey, mem_excess_iff hsorted hmem, weight_filter_sortByAge, weight_one,
        notOlder]
    · refine iff_of_false (fun hmem => hkey ?_) fun h => hkey h.1
      have hmem := mem_sortByAge.mp ((excess_sublist _).subset hmem)
      exact of_decide_eq_true (List.mem_filter.mp hmem).2
  simp only [RetentionPolicy.lineageExcess, List.mem_flatMap, List.mem_dedup, keyedBy_lineage,
    hlineage]
  constructor
  · rintro ⟨_, -, rfl, h⟩
    exact h
  · intro h
    refine ⟨_, ?_, rfl, h⟩
    rw [keyedBy, List.map_map]
    exact List.mem_map.mpr ⟨m, hm, rfl⟩

/-- This snapshot and the newer ones are too large together. -/
theorem mem_oversized :
    m.snapshotId ∈ oversized policy.maxLogicalBytes (totalBytes manifests) (sortByAge manifests) ↔
      policy.maxLogicalBytes < totalBytes (notOlder manifests m) := by
  have hsub : excess SnapshotManifest.logicalBytes policy.maxLogicalBytes (sortByAge manifests) ⊆
      manifests := fun other hother => mem_sortByAge.mp ((excess_sublist _).subset hother)
  rw [← totalBytes_sortByAge manifests, oversized_eq, mem_ids_iff hnodup hm hsub,
    mem_excess_iff (pairwise_sortByAge hnodup) (mem_sortByAge.mpr hm), weight_filter_sortByAge]
  rfl

end Reasons

/-! ## The plan -/

/-- `(created_at_unix_ms, snapshot_id)` of a candidate. -/
def RetentionCandidate.sortKey (candidate : RetentionCandidate) : ℕ ×ₗ List ℕ :=
  toLex (candidate.createdAtUnixMs, idKey candidate.snapshotId)

/-- The snapshot is a candidate. -/
def IsSelected (candidates : List RetentionCandidate) (m : SnapshotManifest) : Prop :=
  ∃ c ∈ candidates, c.snapshotId = m.snapshotId

/-- The snapshot is a candidate for the reason. -/
def SelectedFor (candidates : List RetentionCandidate) (reason : RetentionReason)
    (m : SnapshotManifest) : Prop :=
  ∃ c ∈ candidates, c.snapshotId = m.snapshotId ∧ reason ∈ c.reasons

instance {candidates : List RetentionCandidate} {m : SnapshotManifest} :
    Decidable (IsSelected candidates m) := by
  unfold IsSelected
  infer_instance

instance {candidates : List RetentionCandidate} {reason : RetentionReason}
    {m : SnapshotManifest} : Decidable (SelectedFor candidates reason m) := by
  unfold SelectedFor
  infer_instance

/-- The snapshots that are not selected. -/
def keptBy (candidates : List RetentionCandidate) (manifests : List SnapshotManifest) :
    List SnapshotManifest := manifests.filter fun m => ¬ IsSelected candidates m

/-- What is left with the selections for some reasons and everything older than a candidate
removed. -/
def leftWithout (candidates : List RetentionCandidate) (reasons : List RetentionReason)
    (manifests : List SnapshotManifest) (c : RetentionCandidate) : List SnapshotManifest :=
  manifests.filter fun m =>
    c.sortKey ≤ m.sortKey ∧ ∀ reason ∈ reasons, ¬ SelectedFor candidates reason m

/-- What a plan is to select.  A snapshot that is selected for the bytes alone is needed,
also with the selections for the listed reasons gone. -/
structure Selects (policy : RetentionPolicy) (u : Unicode) (now : ℕ)
    (manifests : List SnapshotManifest) (candidates : List RetentionCandidate)
    (reasons : List RetentionReason) : Prop where
  sorted : candidates.Pairwise fun a b => a.sortKey < b.sortKey
  known : ∀ c ∈ candidates, ∃ m ∈ manifests, m.candidate c.reasons = some c
  young : ∀ m ∈ keptBy candidates manifests, now ≤ m.createdAtUnixMs + policy.maxAgeMs
  few : ∀ key, (lineageOf u (keptBy candidates manifests) key).length ≤ policy.maxPerLineage
  small : totalBytes (keptBy candidates manifests) ≤ policy.maxLogicalBytes
  older : ∀ m ∈ manifests, IsSelected candidates m → ∀ other ∈ manifests,
    lineageText u other.path = lineageText u m.path → other.sortKey < m.sortKey →
      IsSelected candidates other
  needed : ∀ c ∈ candidates, c.reasons = [.totalSize] →
    policy.maxLogicalBytes < totalBytes (leftWithout candidates reasons manifests c)

section Plan

variable {u : Unicode} {policy : RetentionPolicy} {now : ℕ} {manifests : List SnapshotManifest}
  {m : SnapshotManifest}

/-- The reasons of a snapshot among the others. -/
theorem mem_reasons (hnodup : (manifests.map (·.snapshotId)).Nodup) (hm : m ∈ manifests)
    (reason : RetentionReason) : reason ∈ policy.reasons u now manifests m ↔
      match reason with
      | .age => policy.IsAged now m
      | .lineageCount => policy.maxPerLineage <
          (notOlder (lineageOf u manifests (lineageText u m.path)) m).length
      | .totalSize => policy.maxLogicalBytes < totalBytes (notOlder manifests m) := by
  rw [RetentionPolicy.reasons, reasonsFor, List.mem_filter]
  cases reason with
  | age => simp [mem_aged hnodup hm]
  | lineageCount => simp [mem_lineageExcess hnodup hm]
  | totalSize => simp [mem_oversized hnodup hm]

/-- The order of the manifests does not matter. -/
theorem reasons_perm {manifests' : List SnapshotManifest}
    (hnodup : (manifests.map (·.snapshotId)).Nodup) (hperm : manifests'.Perm manifests)
    (hm : m ∈ manifests) :
    policy.reasons u now manifests' m = policy.reasons u now manifests m := by
  have hnodup' : (manifests'.map (·.snapshotId)).Nodup := (hperm.map _).nodup_iff.mpr hnodup
  have hlength : ∀ key, (notOlder (lineageOf u manifests' key) m).length =
      (notOlder (lineageOf u manifests key) m).length :=
    fun key => ((hperm.filter _).filter _).length_eq
  have hbytes : totalBytes (notOlder manifests' m) = totalBytes (notOlder manifests m) :=
    ((hperm.filter _).map _).sum_eq
  have hm' : m ∈ manifests' := hperm.mem_iff.mpr hm
  rw [RetentionPolicy.reasons, RetentionPolicy.reasons, reasonsFor, reasonsFor]
  refine List.filter_congr fun reason _ => ?_
  cases reason with
  | age => exact decide_eq_decide.mpr ((mem_aged hnodup' hm').trans (mem_aged hnodup hm).symm)
  | lineageCount =>
      refine decide_eq_decide.mpr ?_
      rw [mem_lineageExcess hnodup' hm', mem_lineageExcess hnodup hm, hlength]
  | totalSize =>
      refine decide_eq_decide.mpr ?_
      rw [mem_oversized hnodup' hm', mem_oversized hnodup hm, hbytes]

theorem select_perm {manifests' : List SnapshotManifest}
    (hnodup : (manifests.map (·.snapshotId)).Nodup) (hperm : manifests'.Perm manifests) :
    policy.select u now manifests' = policy.select u now manifests := by
  have hsorted := pairwise_sortByAge hnodup
  have hsorted' := pairwise_sortByAge ((hperm.map (·.snapshotId)).nodup_iff.mpr hnodup)
  have hordered : sortByAge manifests' = sortByAge manifests := by
    have hboth := (sortByAge_perm manifests').trans (hperm.trans (sortByAge_perm manifests).symm)
    exact hboth.eq_of_pairwise (fun a b _ _ hab hba => absurd hab hba.not_gt) hsorted' hsorted
  rw [RetentionPolicy.select, RetentionPolicy.select, hordered]
  refine List.filterMap_congr fun m hm => ?_
  rw [reasons_perm hnodup hperm (mem_sortByAge.mp hm)]

/-- A candidate is a snapshot with the reasons it has. -/
theorem mem_select {c : RetentionCandidate} : c ∈ policy.select u now manifests ↔
    ∃ m ∈ manifests, m.candidate (policy.reasons u now manifests m) = some c := by
  rw [RetentionPolicy.select, List.mem_filterMap]
  simp only [mem_sortByAge]

/-- The candidate of a snapshot. -/
theorem eq_of_mem_select (hnodup : (manifests.map (·.snapshotId)).Nodup) (hm : m ∈ manifests)
    {c : RetentionCandidate} (hc : c ∈ policy.select u now manifests)
    (hid : c.snapshotId = m.snapshotId) :
    policy.reasons u now manifests m ≠ [] ∧ c.reasons = policy.reasons u now manifests m ∧
      c.sortKey = m.sortKey := by
  obtain ⟨other, hother, hcandidate⟩ := mem_select.mp hc
  obtain ⟨hne, rfl⟩ := SnapshotManifest.candidate_eq_some.mp hcandidate
  obtain rfl : other = m := List.inj_on_of_nodup_map hnodup hother hm hid
  exact ⟨hne, rfl, rfl⟩

theorem selectedFor_select (hnodup : (manifests.map (·.snapshotId)).Nodup) (hm : m ∈ manifests)
    {reason : RetentionReason} : SelectedFor (policy.select u now manifests) reason m ↔
      reason ∈ policy.reasons u now manifests m := by
  constructor
  · rintro ⟨c, hc, hid, hreason⟩
    exact (eq_of_mem_select hnodup hm hc hid).2.1 ▸ hreason
  · intro hreason
    exact ⟨_, mem_select.mpr ⟨m, hm, SnapshotManifest.candidate_eq_some.mpr
      ⟨List.ne_nil_of_mem hreason, rfl⟩⟩, rfl, hreason⟩

theorem isSelected_select (hnodup : (manifests.map (·.snapshotId)).Nodup) (hm : m ∈ manifests) :
    IsSelected (policy.select u now manifests) m ↔
      ∃ reason, reason ∈ policy.reasons u now manifests m := by
  constructor
  · rintro ⟨c, hc, hid⟩
    exact List.exists_mem_of_ne_nil _ (eq_of_mem_select hnodup hm hc hid).1
  · rintro ⟨reason, hreason⟩
    obtain ⟨c, hc, hid, -⟩ := (selectedFor_select hnodup hm).mpr hreason
    exact ⟨c, hc, hid⟩

/-- What is kept has no reason. -/
theorem mem_keptBy_select (hnodup : (manifests.map (·.snapshotId)).Nodup) :
    m ∈ keptBy (policy.select u now manifests) manifests ↔
      m ∈ manifests ∧ ∀ reason, reason ∉ policy.reasons u now manifests m := by
  rw [keptBy, List.mem_filter, decide_eq_true_eq]
  exact and_congr_right fun hm => by rw [isSelected_select hnodup hm, not_exists]

theorem created_le_of_sortKey_le {a b : SnapshotManifest} (h : a.sortKey ≤ b.sortKey) :
    a.createdAtUnixMs ≤ b.createdAtUnixMs := Prod.Lex.monotone_fst _ _ h

/-- What is newer than a snapshot of a list is newer than an older one. -/
theorem weight_notOlder_mono {w : SnapshotManifest → ℕ} {some : List SnapshotManifest}
    {older : SnapshotManifest} (h : older.sortKey < m.sortKey) :
    weight w (notOlder some m) ≤ weight w (notOlder some older) :=
  weight_filter_mono fun _ _ hx => decide_eq_true (h.le.trans (of_decide_eq_true hx))

/-- The older snapshots of a lineage have the reasons of a newer one. -/
theorem reasons_older (hnodup : (manifests.map (·.snapshotId)).Nodup) (hm : m ∈ manifests)
    {older : SnapshotManifest} (holder : older ∈ manifests)
    (hlineage : lineageText u older.path = lineageText u m.path)
    (hlt : older.sortKey < m.sortKey) {reason : RetentionReason}
    (hreason : reason ∈ policy.reasons u now manifests m) :
    reason ∈ policy.reasons u now manifests older := by
  rw [mem_reasons hnodup hm] at hreason
  rw [mem_reasons hnodup holder]
  cases reason with
  | age =>
      obtain ⟨hnow, hcreated⟩ := hreason
      exact ⟨hnow, (created_le_of_sortKey_le hlt.le).trans hcreated⟩
  | lineageCount =>
      have hmono : weight (fun _ => 1) (notOlder (lineageOf u manifests (lineageText u m.path)) m) ≤
          weight (fun _ => 1) (notOlder (lineageOf u manifests (lineageText u m.path)) older) :=
        weight_notOlder_mono hlt
      rw [weight_one, weight_one] at hmono
      show policy.maxPerLineage < _
      rw [hlineage]
      exact lt_of_lt_of_le hreason hmono
  | totalSize =>
      exact lt_of_lt_of_le hreason (weight_notOlder_mono (w := SnapshotManifest.logicalBytes) hlt)

/-- A bound on the newest of some snapshots that is a reason to give up the others is kept. -/
theorem weight_keptBy_le (hnodup : (manifests.map (·.snapshotId)).Nodup)
    {w : SnapshotManifest → ℕ} {bound : ℕ} {some : List SnapshotManifest}
    (hsub : some.Sublist manifests)
    (hreason : ∀ m ∈ some, bound < weight w (notOlder some m) →
      ∃ reason, reason ∈ policy.reasons u now manifests m) :
    weight w (keptBy (policy.select u now manifests) some) ≤ bound := by
  rw [keptBy, ← weight_filter_sortByAge]
  refine weight_kept_le (pairwise_sortByAge (hnodup.sublist (hsub.map _))) fun m hm hkept => ?_
  have hm := mem_sortByAge.mp hm
  rw [weight_filter_sortByAge]
  refine Nat.le_of_not_lt fun hlt => of_decide_eq_true hkept ?_
  exact (isSelected_select hnodup (hsub.subset hm)).mpr (hreason m hm hlt)

/-- The selection meets every limit, with nothing given up twice over for the age. -/
theorem selects_select (hnodup : (manifests.map (·.snapshotId)).Nodup) :
    Selects policy u now manifests (policy.select u now manifests) [.age] := by
  refine ⟨?_, ?_, ?_, fun key => ?_, ?_, ?_, ?_⟩
  · refine (pairwise_sortByAge hnodup).filterMap _ fun a b hlt c hc d hd => ?_
    rw [(SnapshotManifest.candidate_eq_some.mp hc).2, (SnapshotManifest.candidate_eq_some.mp hd).2]
    exact hlt
  · intro c hc
    obtain ⟨m, hm, hcandidate⟩ := mem_select.mp hc
    have hreasons : c.reasons = policy.reasons u now manifests m := by
      rw [(SnapshotManifest.candidate_eq_some.mp hcandidate).2]
    exact ⟨m, hm, hreasons ▸ hcandidate⟩
  · intro m hm
    obtain ⟨hm, hnone⟩ := (mem_keptBy_select hnodup).mp hm
    have hyoung := hnone .age
    rw [mem_reasons hnodup hm] at hyoung
    show now ≤ _
    by_contra hold
    exact hyoung ⟨by omega, by omega⟩
  · have hswap : lineageOf u (keptBy (policy.select u now manifests) manifests) key =
        keptBy (policy.select u now manifests) (lineageOf u manifests key) := by
      rw [lineageOf, keptBy, keptBy, lineageOf, List.filter_filter, List.filter_filter]
      exact List.filter_congr fun _ _ => Bool.and_comm _ _
    rw [hswap, ← weight_one]
    refine weight_keptBy_le hnodup List.filter_sublist fun m hm hlt => ⟨.lineageCount, ?_⟩
    obtain ⟨hm, hkey⟩ := List.mem_filter.mp hm
    rw [mem_reasons hnodup hm]
    show policy.maxPerLineage < _
    rwa [of_decide_eq_true hkey, ← weight_one]
  · refine weight_keptBy_le hnodup (.refl manifests) fun m hm hlt => ⟨.totalSize, ?_⟩
    rw [mem_reasons hnodup hm]
    exact hlt
  · intro m hm hselected older holder hlineage hlt
    obtain ⟨reason, hreason⟩ := (isSelected_select hnodup hm).mp hselected
    exact (isSelected_select hnodup holder).mpr
      ⟨reason, reasons_older hnodup hm holder hlineage hlt hreason⟩
  · intro c hc honly
    obtain ⟨m, hm, hcandidate⟩ := mem_select.mp hc
    have hid : c.snapshotId = m.snapshotId := by
      rw [(SnapshotManifest.candidate_eq_some.mp hcandidate).2]
    obtain ⟨-, hreasons, hkey⟩ := eq_of_mem_select hnodup hm hc hid
    rw [honly] at hreasons
    have hsize : .totalSize ∈ policy.reasons u now manifests m ↔ _ := mem_reasons hnodup hm _
    have hage : .age ∈ policy.reasons u now manifests m ↔ _ := mem_reasons hnodup hm _
    rw [← hreasons] at hsize hage
    have hyoung : ¬ policy.IsAged now m := fun haged => absurd (hage.mpr haged) (by decide)
    -- nothing newer is selected for its age
    have hall : leftWithout (policy.select u now manifests) [.age] manifests c =
        notOlder manifests m := by
      refine List.filter_congr fun other hother => decide_eq_decide.mpr ?_
      rw [hkey, and_iff_left_iff_imp, List.forall_mem_singleton, selectedFor_select hnodup hother,
        mem_reasons hnodup hother]
      rintro hnewer ⟨hnow, hcreated⟩
      exact hyoung ⟨hnow, (created_le_of_sortKey_le hnewer).trans hcreated⟩
    rw [hall]
    exact hsize.mp List.mem_cons_self

variable (u policy now)

/-- **A plan selects the oldest snapshots, until every limit is met.**  The plan is the same
in every order of the manifests, and closed below in every lineage; a snapshot selected for
the bytes alone would not fit together with what is newer, with everything too old gone. -/
theorem retention_selects_oldest (manifests : List SnapshotManifest) (vaultId : Uuid)
    (hvalid : ∀ m ∈ manifests, m.validate u = .ok ())
    (hvault : ∀ m ∈ manifests, m.vaultId = vaultId)
    (hdates : ∀ m ∈ manifests, m.createdAtUnixMs < wordLimit)
    (hnodup : (manifests.map (·.snapshotId)).Nodup) (hfits : totalBytes manifests < wordLimit) :
    ∃ candidates, (∀ manifests', manifests'.Perm manifests →
        policy.planManifests u now manifests' = .ok candidates) ∧
      Selects policy u now manifests candidates [.age] := by
  refine ⟨policy.select u now manifests, fun manifests' hperm => ?_, selects_select hnodup⟩
  rw [← select_perm hnodup hperm]
  have hvalid' : ∀ m ∈ manifests', m.Valid u vaultId := fun m hm => by
    have hm := hperm.mem_iff.mp hm
    exact hvault m hm ▸ SnapshotManifest.valid_of_validate (hvalid m hm) (hdates m hm)
  refine RetentionPolicy.planManifests_eq hvalid' ((hperm.map _).nodup_iff.mpr hnodup) ?_
  rwa [totalBytes, (hperm.map SnapshotManifest.logicalBytes).sum_eq]

end Plan

/-! ## A surplus that is newer -/

/-- One snapshot of a note, and three newer ones of another. -/
def surplusManifests : List SnapshotManifest :=
  [numberedManifest constantDigest (numberedId 9) "a.md" [] 0,
    numberedManifest constantDigest (numberedId 9) "b.md" [] 1,
    numberedManifest constantDigest (numberedId 9) "b.md" [] 2,
    numberedManifest constantDigest (numberedId 9) "b.md" [] 3]

/-- One snapshot of every note, and bytes for two. -/
def oneOfEach : RetentionPolicy where
  maxAgeMs := wordLimit - 1
  maxPerLineage := 1
  maxLogicalBytes :=
    2 * (numberedManifest constantDigest (numberedId 9) "a.md" [] 0).logicalBytes

theorem surplus_valid : (∀ m ∈ surplusManifests, m.validate Unicode.ascii = .ok ()) ∧
    (∀ m ∈ surplusManifests, m.vaultId = numberedId 9) ∧
    (∀ m ∈ surplusManifests, m.createdAtUnixMs < wordLimit) ∧
    (surplusManifests.map (·.snapshotId)).Nodup ∧ totalBytes surplusManifests < wordLimit := by
  decide +kernel

/-- The snapshot of the first note is selected for the bytes, although it would fit with the
newest of the other note once the surplus of that is gone. -/
theorem lineage_surplus_is_counted :
    ∃ candidates, oneOfEach.planManifests Unicode.ascii 0 surplusManifests = .ok candidates ∧
      ¬ Selects oneOfEach Unicode.ascii 0 surplusManifests candidates [.age, .lineageCount] := by
  obtain ⟨hvalid, hvault, hdates, hnodup, hfits⟩ := surplus_valid
  have hvalid' : ∀ m ∈ surplusManifests, m.Valid Unicode.ascii (numberedId 9) := fun m hm =>
    hvault m hm ▸ SnapshotManifest.valid_of_validate (hvalid m hm) (hdates m hm)
  refine ⟨_, RetentionPolicy.planManifests_eq hvalid' hnodup hfits, fun h => ?_⟩
  have hsmall : ∃ c ∈ oneOfEach.select Unicode.ascii 0 surplusManifests,
      c.reasons = [.totalSize] ∧ totalBytes (leftWithout (oneOfEach.select Unicode.ascii 0
        surplusManifests) [.age, .lineageCount] surplusManifests c) ≤
          oneOfEach.maxLogicalBytes := by decide +kernel
  obtain ⟨c, hc, honly, hle⟩ := hsmall
  exact absurd (h.needed c hc honly) hle.not_gt

theorem surplus_selected : ∃ candidates, (∀ manifests', manifests'.Perm surplusManifests →
      oneOfEach.planManifests Unicode.ascii 0 manifests' = .ok candidates) ∧
    Selects oneOfEach Unicode.ascii 0 surplusManifests candidates [.age] := by
  obtain ⟨hvalid, hvault, hdates, hnodup, hfits⟩ := surplus_valid
  exact retention_selects_oldest Unicode.ascii oneOfEach 0 surplusManifests (numberedId 9) hvalid
    hvault hdates hnodup hfits

end Snapshots
end MyVault
