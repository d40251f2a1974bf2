import MyVault.Snapshots.Selection

/-!
# Retention in rounds

A plan names at most 256 candidates, the oldest of those the policy selects, and the rest is
left to later runs.  What a run removes does not change what is said of the others: the plan
of what is left is the rest of the plan, with the same reasons (`select_keptBy_take`).  So the
rounds come to what one run without a bound would have left.

## Main results

* `select_keptBy_take`: what is selected of the snapshots that a round leaves is what was selected
  at first, without the candidates that are gone.
* `retention_rounds`: after any number of rounds the snapshots are those that the first selection,
  cut after as many full plans, keeps, and the next plan is the rest of it.

The argument is about one snapshot at a time (`mem_reasons_keptBy`).  What counts against a
snapshot is not older than it, and a round removes the oldest of those that are selected; so all
that counts against a candidate that is left is still there.  The order is that of the sort keys,
which a removal leaves alone (`sortByAge_filter`).
-/

namespace MyVault
namespace Snapshots

open Check

variable {u : Unicode} {policy : RetentionPolicy} {now : ℕ} {manifests : List SnapshotManifest}
  {m : SnapshotManifest} {k : ℕ}

theorem keptBy_sublist (candidates : List RetentionCandidate) :
    (keptBy candidates manifests).Sublist manifests := List.filter_sublist

theorem mem_keptBy {candidates : List RetentionCandidate} :
    m ∈ keptBy candidates manifests ↔ m ∈ manifests ∧ ¬ IsSelected candidates m := by
  rw [keptBy, List.mem_filter, decide_eq_true_eq]

theorem keptBy_nil : keptBy [] manifests = manifests := by
  refine List.filter_eq_self.mpr fun m _ => decide_eq_true ?_
  rintro ⟨c, hc, -⟩
  cases hc

theorem keptBy_append (first second : List RetentionCandidate) :
    keptBy second (keptBy first manifests) = keptBy (first ++ second) manifests := by
  rw [keptBy, keptBy, keptBy, List.filter_filter]
  refine List.filter_congr fun m _ => ?_
  rw [← Bool.decide_and]
  refine decide_eq_decide.mpr ?_
  simp only [IsSelected, List.mem_append]
  constructor
  · rintro ⟨hsecond, hfirst⟩ ⟨c, hc | hc, hid⟩
    · exact hfirst ⟨c, hc, hid⟩
    · exact hsecond ⟨c, hc, hid⟩
  · intro h
    constructor
    · rintro ⟨c, hc, hid⟩
      exact h ⟨c, Or.inr hc, hid⟩
    · rintro ⟨c, hc, hid⟩
      exact h ⟨c, Or.inl hc, hid⟩

/-- The order of the ages is that of what is kept. -/
theorem sortByAge_filter (hnodup : (manifests.map (·.snapshotId)).Nodup)
    (p : SnapshotManifest → Bool) :
    sortByAge (manifests.filter p) = (sortByAge manifests).filter p := by
  have hsorted := (pairwise_sortByAge hnodup).filter p
  have hsorted' := pairwise_sortByAge (hnodup.sublist (List.filter_sublist (p := p) |>.map _))
  have hperm : (sortByAge (manifests.filter p)).Perm ((sortByAge manifests).filter p) :=
    (sortByAge_perm _).trans ((sortByAge_perm manifests).filter p).symm
  exact hperm.eq_of_pairwise (fun a b _ _ hab hba => absurd hab hba.not_gt) hsorted' hsorted

theorem lineageOf_keptBy (candidates : List RetentionCandidate) (key : Text) :
    lineageOf u (keptBy candidates manifests) key =
      keptBy candidates (lineageOf u manifests key) := by
  rw [lineageOf, keptBy, keptBy, lineageOf, List.filter_filter, List.filter_filter]
  exact List.filter_congr fun _ _ => Bool.and_comm _ _

theorem notOlder_keptBy_sublist (candidates : List RetentionCandidate)
    (some : List SnapshotManifest) :
    (notOlder (keptBy candidates some) m).Sublist (notOlder some m) :=
  (keptBy_sublist candidates).filter _

section Rounds

variable (hnodup : (manifests.map (·.snapshotId)).Nodup)
include hnodup

/-- What is as new as a candidate that is left is not removed before it. -/
theorem not_isSelected_take (hm : m ∈ manifests) {c : RetentionCandidate}
    (hc : c ∈ (policy.select u now manifests).drop k) (hid : c.snapshotId = m.snapshotId)
    {other : SnapshotManifest} (hother : other ∈ manifests) (hnewer : m.sortKey ≤ other.sortKey) :
    ¬ IsSelected ((policy.select u now manifests).take k) other := by
  rintro ⟨c', hc', hid'⟩
  have hselects : Selects policy u now manifests (policy.select u now manifests) [.age] :=
    selects_select hnodup
  have hsorted := hselects.sorted
  rw [← List.take_append_drop k (policy.select u now manifests), List.pairwise_append] at hsorted
  have hlt : c'.sortKey < c.sortKey := hsorted.2.2 c' hc' c hc
  rw [(eq_of_mem_select hnodup hother (List.mem_of_mem_take hc') hid').2.2,
    (eq_of_mem_select hnodup hm (List.mem_of_mem_drop hc) hid).2.2] at hlt
  exact absurd hlt hnewer.not_gt

/-- A snapshot that is left has the reasons it had. -/
theorem mem_reasons_keptBy (hm : m ∈ keptBy ((policy.select u now manifests).take k) manifests)
    (reason : RetentionReason) :
    reason ∈ policy.reasons u now (keptBy ((policy.select u now manifests).take k) manifests) m ↔
      reason ∈ policy.reasons u now manifests m := by
  obtain ⟨hmem, hkept⟩ := mem_keptBy.mp hm
  have hsublist : (keptBy ((policy.select u now manifests).take k) manifests).Sublist manifests :=
    keptBy_sublist _
  have hnodup' := hnodup.sublist (hsublist.map (·.snapshotId))
  -- what counts against a candidate that is left is not older than it, and all of it is there
  have hsame : reason ∈ policy.reasons u now manifests m → ∀ some : List SnapshotManifest,
      some ⊆ manifests → notOlder (keptBy ((policy.select u now manifests).take k) some) m =
        notOlder some m := by
    intro hreason some hsub
    obtain ⟨c, hc, hid⟩ := (isSelected_select hnodup hmem).mpr ⟨reason, hreason⟩
    have hdrop : c ∈ (policy.select u now manifests).drop k := by
      rw [← List.take_append_drop k (policy.select u now manifests), List.mem_append] at hc
      exact hc.resolve_left fun hc => hkept ⟨c, hc, hid⟩
    rw [notOlder, notOlder, keptBy, List.filter_filter]
    refine List.filter_congr fun other hother => ?_
    by_cases hnewer : m.sortKey ≤ other.sortKey
    · have hleft := not_isSelected_take hnodup hmem hdrop hid (hsub hother) hnewer
      rw [decide_eq_true hnewer, decide_eq_true hleft, Bool.and_self]
    · rw [decide_eq_false hnewer, Bool.false_and]
  have hlineage : lineageOf u manifests (lineageText u m.path) ⊆ manifests :=
    List.filter_sublist.subset
  rw [mem_reasons hnodup' hm]
  constructor
  · intro h
    rw [mem_reasons hnodup hmem]
    cases reason with
    | age => exact h
    | lineageCount =>
        rw [lineageOf_keptBy] at h
        exact lt_of_lt_of_le h (notOlder_keptBy_sublist _ _).length_le
    | totalSize =>
        exact lt_of_lt_of_le h (weight_le_of_sublist (w := SnapshotManifest.logicalBytes)
          (notOlder_keptBy_sublist _ _))
  · intro h
    have hall := hsame h
    rw [mem_reasons hnodup hmem] at h
    cases reason with
    | age => exact h
    | lineageCount =>
        rw [lineageOf_keptBy, hall _ hlineage]
        exact h
    | totalSize =>
        rw [hall _ (List.Subset.refl _)]
        exact h

theorem reasons_keptBy (hm : m ∈ keptBy ((policy.select u now manifests).take k) manifests) :
    policy.reasons u now (keptBy ((policy.select u now manifests).take k) manifests) m =
      policy.reasons u now manifests m := by
  have hmem := fun reason => mem_reasons_keptBy hnodup hm reason
  rw [RetentionPolicy.reasons, RetentionPolicy.reasons, reasonsFor, reasonsFor] at hmem ⊢
  refine List.filter_congr fun reason hreason => ?_
  have h := hmem reason
  rw [List.mem_filter, List.mem_filter, and_iff_right hreason, and_iff_right hreason] at h
  exact Bool.eq_iff_iff.mpr h

/-- The candidates of what is left are the candidates that are left. -/
theorem select_keptBy : policy.select u now
    (keptBy ((policy.select u now manifests).take k) manifests) =
      (policy.select u now manifests).filter fun c =>
        decide (∀ c' ∈ (policy.select u now manifests).take k, c'.snapshotId ≠ c.snapshotId) := by
  have hreasons : ∀ m ∈ sortByAge (keptBy ((policy.select u now manifests).take k) manifests),
      m.candidate (policy.reasons u now
        (keptBy ((policy.select u now manifests).take k) manifests) m) =
      m.candidate (policy.reasons u now manifests m) := by
    intro m hm
    rw [reasons_keptBy hnodup (mem_sortByAge.mp hm)]
  conv_lhs => rw [RetentionPolicy.select, List.filterMap_congr hreasons, keptBy,
    sortByAge_filter hnodup, List.filterMap_filter]
  conv_rhs => enter [2]; rw [RetentionPolicy.select]
  rw [List.filter_filterMap]
  refine List.filterMap_congr fun m _ => ?_
  cases hcandidate : m.candidate (policy.reasons u now manifests m) with
  | none => simp
  | some c =>
      have hid : c.snapshotId = m.snapshotId := by
        rw [(SnapshotManifest.candidate_eq_some.mp hcandidate).2]
      have hiff : (¬ IsSelected ((policy.select u now manifests).take k) m) ↔
          ∀ c' ∈ (policy.select u now manifests).take k, c'.snapshotId ≠ c.snapshotId := by
        rw [hid, IsSelected]
        simp only [not_exists, not_and]
      rw [Option.filter_some, decide_eq_decide.mpr hiff]

/-- **The plan of what is left is the rest of the plan.** -/
theorem select_keptBy_take : policy.select u now
    (keptBy ((policy.select u now manifests).take k) manifests) =
      (policy.select u now manifests).drop k := by
  have hselects : Selects policy u now manifests (policy.select u now manifests) [.age] :=
    selects_select hnodup
  have hsorted := hselects.sorted
  rw [← List.take_append_drop k (policy.select u now manifests), List.pairwise_append] at hsorted
  rw [select_keptBy hnodup]
  conv_lhs => enter [2]; rw [← List.take_append_drop k (policy.select u now manifests)]
  rw [List.filter_append, List.filter_eq_nil_iff.mpr, List.nil_append, List.filter_eq_self]
  · intro c hc
    rw [decide_eq_true_eq]
    intro c' hc' hid
    obtain ⟨m, hm, hcandidate⟩ := mem_select.mp (List.mem_of_mem_drop hc)
    have hcm : c.snapshotId = m.snapshotId := by
      rw [(SnapshotManifest.candidate_eq_some.mp hcandidate).2]
    have hlt := hsorted.2.2 c' hc' c hc
    rw [(eq_of_mem_select hnodup hm (List.mem_of_mem_take hc') (hid.trans hcm)).2.2,
      (eq_of_mem_select hnodup hm (List.mem_of_mem_drop hc) hcm).2.2] at hlt
    exact lt_irrefl _ hlt
  · intro c hc hnone
    exact of_decide_eq_true hnone c hc rfl

end Rounds

/-! ## The rounds of a store -/

/-- A round removes the candidates of its plan, at most 256 of them; it removes nothing where
there is no plan. -/
def retentionRound (policy : RetentionPolicy) (u : Unicode) (now : ℕ)
    (manifests : List SnapshotManifest) : List SnapshotManifest :=
  match policy.planManifests u now manifests with
  | .ok candidates => keptBy (candidates.take maxRetentionCandidates) manifests
  | .error _ => manifests

/-- What is left after some rounds. -/
def retentionRounds (policy : RetentionPolicy) (u : Unicode) (now : ℕ) :
    ℕ → List SnapshotManifest → List SnapshotManifest
  | 0, manifests => manifests
  | n + 1, manifests => retentionRounds policy u now n (retentionRound policy u now manifests)

section Store

variable (u : Unicode) (policy : RetentionPolicy) (now : ℕ)

/-- **The rounds come to what one run without a bound leaves.**  After any number of rounds the
removed snapshots are the first of the first plan, what is left is planned for exactly the
reasons it was planned for at first, and so after enough rounds nothing is. -/
theorem retention_rounds (manifests : List SnapshotManifest) (vaultId : Uuid)
    (hvalid : ∀ m ∈ manifests, m.validate u = .ok ())
    (hvault : ∀ m ∈ manifests, m.vaultId = vaultId)
    (hdates : ∀ m ∈ manifests, m.createdAtUnixMs < wordLimit)
    (hnodup : (manifests.map (·.snapshotId)).Nodup) (hfits : totalBytes manifests < wordLimit) :
    ∃ candidates, policy.planManifests u now manifests = .ok candidates ∧ ∀ n,
      retentionRounds policy u now n manifests =
        keptBy (candidates.take (n * maxRetentionCandidates)) manifests ∧
      policy.planManifests u now (retentionRounds policy u now n manifests) =
        .ok (candidates.drop (n * maxRetentionCandidates)) := by
  have hplan : ∀ left : List SnapshotManifest, left.Sublist manifests →
      policy.planManifests u now left = .ok (policy.select u now left) := by
    intro left hsub
    have hleft : ∀ m ∈ left, m.Valid u vaultId := fun m hm =>
      hvault m (hsub.subset hm) ▸ SnapshotManifest.valid_of_validate
        (hvalid m (hsub.subset hm)) (hdates m (hsub.subset hm))
    refine RetentionPolicy.planManifests_eq hleft (hnodup.sublist (hsub.map _)) ?_
    exact lt_of_le_of_lt (weight_le_of_sublist (w := SnapshotManifest.logicalBytes) hsub) hfits
  refine ⟨policy.select u now manifests, hplan _ (.refl _), fun n => ?_⟩
  suffices hleft : retentionRounds policy u now n manifests =
      keptBy ((policy.select u now manifests).take (n * maxRetentionCandidates)) manifests by
    refine ⟨hleft, ?_⟩
    rw [hleft, hplan _ (keptBy_sublist _), select_keptBy_take hnodup]
  clear hvalid hvault hdates hfits
  induction n generalizing manifests with
  | zero => rw [retentionRounds, Nat.zero_mul, List.take_zero, keptBy_nil]
  | succ n ih =>
      have hround : retentionRound policy u now manifests =
          keptBy ((policy.select u now manifests).take maxRetentionCandidates) manifests := by
        rw [retentionRound, hplan _ (.refl _)]
      have hsub : (keptBy ((policy.select u now manifests).take maxRetentionCandidates)
          manifests).Sublist manifests := keptBy_sublist _
      rw [retentionRounds, hround, ih _ (hnodup.sublist (hsub.map _))
        fun left hleft => hplan left (hleft.trans hsub), select_keptBy_take hnodup, keptBy_append,
        ← List.take_add, Nat.succ_mul, Nat.add_comm]

end Store

/-! ## A vault that takes two rounds -/

/-- Every snapshot is due. -/
def allDue : RetentionPolicy where
  maxAgeMs := 0
  maxPerLineage := wordLimit - 1
  maxLogicalBytes := wordLimit - 1

/-- 300 snapshots of one note. -/
def manyManifests : List SnapshotManifest :=
  numberedManifests constantDigest (numberedId 0) "a.md" [] 300

theorem many_valid : (∀ m ∈ manyManifests, m.Valid Unicode.ascii (numberedId 0)) ∧
    (∀ m ∈ manyManifests, m.createdAtUnixMs = 0) ∧
    (manyManifests.map (·.snapshotId)).Nodup ∧ totalBytes manyManifests < wordLimit := by
  have hvalid : ∀ m ∈ manyManifests, m.Valid Unicode.ascii (numberedId 0) := by
    intro m hm
    obtain ⟨s, hs, rfl⟩ := List.mem_map.mp hm
    exact valid_numberedSnapshots (by decide) (by decide +kernel) (by decide) (by decide)
      (by decide) (by decide) hs
  have hempty : ∀ m ∈ manyManifests, m.createdAtUnixMs = 0 ∧ m.revision.byteLen = 0 := by
    intro m hm
    obtain ⟨i, -, rfl⟩ := mem_numberedManifests hm
    exact ⟨rfl, rfl⟩
  refine ⟨hvalid, fun m hm => (hempty m hm).1, ?_, ?_⟩
  · rw [manyManifests, numberedManifests, List.map_map]
    exact nodup_numberedSnapshots (by decide)
  · have hsum := List.sum_le_card_nsmul (manyManifests.map SnapshotManifest.logicalBytes)
      maxManifestBytes (by
        rw [List.forall_mem_map]
        intro m hm
        rw [SnapshotManifest.logicalBytes, (hempty m hm).2, Nat.add_zero]
        exact (hvalid m hm).bytes)
    rw [List.length_map, manyManifests, length_numberedManifests] at hsum
    exact hsum.trans_lt (by decide)

/-- The first round takes 256 of them, and the second the rest. -/
theorem many_rounds : ∃ candidates : List RetentionCandidate, candidates.length = 300 ∧
    retentionRounds allDue Unicode.ascii 0 1 manyManifests =
      keptBy (candidates.take maxRetentionCandidates) manyManifests ∧
    allDue.planManifests Unicode.ascii 0 (retentionRounds allDue Unicode.ascii 0 1 manyManifests) =
      .ok (candidates.drop maxRetentionCandidates) ∧
    allDue.planManifests Unicode.ascii 0 (retentionRounds allDue Unicode.ascii 0 2 manyManifests) =
      .ok [] := by
  obtain ⟨hvalid, hnew, hnodup, hfits⟩ := many_valid
  obtain ⟨candidates, hplan, hrounds⟩ := retention_rounds Unicode.ascii allDue 0 manyManifests
    (numberedId 0) (fun m hm => (hvalid m hm).validate) (fun m hm => (hvalid m hm).vault)
    (fun m hm => by rw [hnew m hm]; decide) hnodup hfits
  have hlength : candidates.length = 300 := by
    rw [RetentionPolicy.planManifests_eq hvalid hnodup hfits] at hplan
    rw [← Except.ok.inj hplan, RetentionPolicy.length_select (by decide)
      fun m hm => by rw [hnew m hm]; exact Nat.zero_le _]
    exact length_numberedManifests _ _ _ _ _
  have hfirst := hrounds 1
  rw [Nat.one_mul] at hfirst
  refine ⟨candidates, hlength, hfirst.1, hfirst.2, ?_⟩
  rw [(hrounds 2).2, List.drop_eq_nil_of_le (by rw [hlength]; decide)]

end Snapshots
end MyVault
