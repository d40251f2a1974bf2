import MyVault.Library.Runs

/-!
# The change hint

The plugin keeps one dirty bit and one generation for all provider callbacks.  A scan
takes a snapshot, builds its inventory and consumes the generation it had observed.  A
change is lost when a scan older than the change clears the bit.

The tracker alone does not tell the two apart.  Callbacks are coalesced, that is, the
generation moves only when a clean tracker is marked, and a new root starts it over.  So on
the tracker a later change survives an older scan exactly when no change leaves it at a
generation that a scan under way has taken (`keepsChanges_iff`).

What tells them apart is `ioLock`.  Every use of the tracker is inside it, and an inventory
holds it from its snapshot to its consumption, so no change can come between the two.
`PluginHints` has the lock and the turns of the threads that want it, and over every order
of those turns no change is lost (`plugin_keeps_changes`).
-/

namespace MyVault
namespace Saf

/-- What a snapshot of the tracker shows. -/
structure SafChangeHint where
  dirty : Bool
  generation : ℕ
  deriving DecidableEq

/-- `MAX_SAFE_GENERATION`, the greatest integer that is exact across the bridge. -/
def maxSafeGeneration : ℕ := 9007199254740991

/-- The tracker: whether there is a change to scan for, and the generation it is told by. -/
structure SafDirtyGeneration where
  dirty : Bool := false
  generation : ℕ := 0
  deriving DecidableEq

namespace SafDirtyGeneration

/-- The generation after another; past the greatest one it starts over at 1. -/
def nextGeneration (generation : ℕ) : ℕ :=
  if maxSafeGeneration ≤ generation then 1 else generation + 1

/-- A callback.  Callbacks on a dirty tracker are coalesced. -/
def markDirty (tracker : SafDirtyGeneration) : SafDirtyGeneration :=
  if tracker.dirty then tracker
  else { dirty := true, generation := nextGeneration tracker.generation }

/-- Another root was picked: its first change is already there. -/
def resetForNewRoot (_tracker : SafDirtyGeneration) : SafDirtyGeneration :=
  markDirty { dirty := false, generation := 0 }

/-- What a scan observes before it starts. -/
def snapshot (tracker : SafDirtyGeneration) : SafChangeHint :=
  ⟨tracker.dirty, tracker.generation⟩

/-- A scan that observed the generation is complete. -/
def consume (tracker : SafDirtyGeneration) (observedGeneration : ℕ) : SafDirtyGeneration :=
  if tracker.dirty ∧ observedGeneration = tracker.generation then { tracker with dirty := false }
  else tracker

variable {tracker : SafDirtyGeneration}

@[simp] theorem dirty_markDirty : tracker.markDirty.dirty = true := by
  unfold markDirty
  split
  · assumption
  · rfl

theorem generation_markDirty : tracker.markDirty.generation =
    if tracker.dirty then tracker.generation else nextGeneration tracker.generation := by
  unfold markDirty
  split <;> rfl

@[simp] theorem generation_consume (observed : ℕ) :
    (tracker.consume observed).generation = tracker.generation := by
  unfold consume
  split <;> rfl

theorem consume_of_clean (h : tracker.dirty = false) (observed : ℕ) :
    tracker.consume observed = tracker := by
  simp [consume, h]

theorem consume_of_ne {observed : ℕ} (h : observed ≠ tracker.generation) :
    tracker.consume observed = tracker := by
  simp [consume, h]

/-- On a dirty tracker exactly the current generation is consumed. -/
theorem consume_eq_self_iff (h : tracker.dirty = true) {observed : ℕ} :
    tracker.consume observed = tracker ↔ observed ≠ tracker.generation := by
  refine ⟨?_, consume_of_ne⟩
  rintro hself rfl
  have hclean : (tracker.consume tracker.generation).dirty = false := by simp [consume, h]
  rw [hself, h] at hclean
  cases hclean

theorem consume_clears {observed : ℕ} (h : tracker.consume observed ≠ tracker) :
    (tracker.consume observed).dirty = false := by
  unfold consume at h ⊢
  split
  · rfl
  · rename_i hnot
    exact absurd (if_neg hnot) h

end SafDirtyGeneration

/-! ## Scans under way -/

/-- A scan between its snapshot and its end: what it observed, the root it was taken under,
and whether `markDirty` was called since. -/
structure HintScan where
  hint : SafChangeHint
  root : ℕ
  marked : Bool
  deriving DecidableEq

/-- The tracker, the number of roots so far, the scans under way, and whether there is a
change that no consumed scan was taken after. -/
structure HintWorld where
  tracker : SafDirtyGeneration := {}
  root : ℕ := 0
  scans : List HintScan := []
  pending : Bool := false

/-- A scan ends by consuming its generation, or without it where its inventory fails. -/
inductive HintEvent where
  | markDirty
  | resetForNewRoot
  | snapshot
  | consume (i : ℕ)
  | abandon (i : ℕ)
  deriving DecidableEq

namespace HintWorld

/-- A change or another root came after the scan's snapshot. -/
def Stale (w : HintWorld) (scan : HintScan) : Prop := scan.marked = true ∨ scan.root ≠ w.root

instance (w : HintWorld) (scan : HintScan) : Decidable (w.Stale scan) :=
  inferInstanceAs (Decidable (_ ∨ _))

/-- One event of the tracker or of a scan. -/
def step (w : HintWorld) : HintEvent → HintWorld
  | .markDirty =>
      { w with
        tracker := w.tracker.markDirty
        scans := w.scans.map fun scan => { scan with marked := true }
        pending := true }
  | .resetForNewRoot =>
      { w with tracker := w.tracker.resetForNewRoot, root := w.root + 1, pending := true }
  | .snapshot =>
      { w with
        scans := { hint := w.tracker.snapshot, root := w.root, marked := false } :: w.scans }
  | .consume i =>
      match w.scans[i]? with
      | none => w
      | some scan =>
          { w with
            tracker := w.tracker.consume scan.hint.generation
            scans := w.scans.eraseIdx i
            pending := w.pending && decide (w.Stale scan) }
  | .abandon i => { w with scans := w.scans.eraseIdx i }

/-- Consuming a stale scan's generation does nothing, and the tracker is dirty for as long
as there is a change that no consumed scan was taken after. -/
structure KeepsChanges (w : HintWorld) : Prop where
  stale : ∀ scan ∈ w.scans, w.Stale scan → w.tracker.consume scan.hint.generation = w.tracker
  pending : w.pending = true → w.tracker.dirty = true

/-- No scan under way has taken the generation. -/
def Untaken (w : HintWorld) (generation : ℕ) : Prop :=
  ∀ scan ∈ w.scans, scan.hint.generation ≠ generation

/-- A change leaves the tracker at a generation no scan under way has taken: the current
one where it is dirty, the next one where it is clean, and the first at a new root. -/
def Distinguishes (w : HintWorld) : HintEvent → Prop
  | .markDirty =>
      w.Untaken (if w.tracker.dirty then w.tracker.generation
        else SafDirtyGeneration.nextGeneration w.tracker.generation)
  | .resetForNewRoot => w.Untaken 1
  | .snapshot => True
  | .consume _ => True
  | .abandon _ => True

/-- Behind `KeepsChanges`: a scan that is not stale has observed the current generation. -/
structure Tracked (w : HintWorld) : Prop where
  keeps : w.KeepsChanges
  current : ∀ scan ∈ w.scans, ¬ w.Stale scan → scan.hint.generation = w.tracker.generation
  roots : ∀ scan ∈ w.scans, scan.root ≤ w.root

variable {w : HintWorld}

theorem Tracked.init : Tracked {} :=
  ⟨⟨nofun, nofun⟩, nofun, nofun⟩

theorem Tracked.markDirty (h : w.Tracked) (hfresh : w.Distinguishes .markDirty) :
    (w.step .markDirty).Tracked := by
  refine ⟨⟨?_, fun _ => SafDirtyGeneration.dirty_markDirty⟩, ?_, ?_⟩
  · rintro _ hscan -
    obtain ⟨scan, hmem, rfl⟩ := List.mem_map.mp hscan
    apply SafDirtyGeneration.consume_of_ne
    rw [show (w.step .markDirty).tracker = w.tracker.markDirty from rfl,
      SafDirtyGeneration.generation_markDirty]
    exact hfresh scan hmem
  · rintro _ hscan hcurrent
    obtain ⟨scan, _, rfl⟩ := List.mem_map.mp hscan
    exact absurd (Or.inl rfl) hcurrent
  · rintro _ hscan
    obtain ⟨scan, hmem, rfl⟩ := List.mem_map.mp hscan
    exact h.roots scan hmem

theorem Tracked.resetForNewRoot (h : w.Tracked) (hfresh : w.Distinguishes .resetForNewRoot) :
    (w.step .resetForNewRoot).Tracked := by
  refine ⟨⟨?_, fun _ => rfl⟩, ?_, ?_⟩
  · intro scan hmem _
    exact SafDirtyGeneration.consume_of_ne (hfresh scan hmem)
  · intro scan hmem hcurrent
    -- No scan was taken under the new root yet.
    have hroot : scan.root ≠ w.root + 1 := by
      have hle := h.roots scan hmem
      omega
    exact absurd (Or.inr hroot) hcurrent
  · intro scan hmem
    exact Nat.le_succ_of_le (h.roots scan hmem)

theorem Tracked.snapshot (h : w.Tracked) : (w.step .snapshot).Tracked := by
  refine ⟨⟨?_, h.keeps.pending⟩, ?_, ?_⟩
  · rintro scan (_ | ⟨_, hmem⟩) hstale
    · rcases hstale with hmarked | hroot
      · cases hmarked
      · exact absurd rfl hroot
    · exact h.keeps.stale scan hmem hstale
  · rintro scan (_ | ⟨_, hmem⟩) hcurrent
    · rfl
    · exact h.current scan hmem hcurrent
  · rintro scan (_ | ⟨_, hmem⟩)
    · exact Nat.le_refl _
    · exact h.roots scan hmem

theorem mem_of_mem_eraseIdx {scan : HintScan} {i : ℕ} (h : scan ∈ w.scans.eraseIdx i) :
    scan ∈ w.scans :=
  (List.eraseIdx_sublist w.scans i).subset h

theorem Tracked.abandon (h : w.Tracked) (i : ℕ) : (w.step (.abandon i)).Tracked := by
  refine ⟨⟨?_, h.keeps.pending⟩, ?_, ?_⟩
  · intro scan hmem hstale
    exact h.keeps.stale scan (mem_of_mem_eraseIdx hmem) hstale
  · intro scan hmem hcurrent
    exact h.current scan (mem_of_mem_eraseIdx hmem) hcurrent
  · intro scan hmem
    exact h.roots scan (mem_of_mem_eraseIdx hmem)

theorem step_consume {i : ℕ} {scan : HintScan} (h : w.scans[i]? = some scan) :
    w.step (.consume i) =
      { w with
        tracker := w.tracker.consume scan.hint.generation
        scans := w.scans.eraseIdx i
        pending := w.pending && decide (w.Stale scan) } := by
  simp only [step, h]

theorem step_consume_none {i : ℕ} (h : w.scans[i]? = none) : w.step (.consume i) = w := by
  simp only [step, h]

/-- A stale scan's generation is not consumed, and after one that is not stale the tracker
is clean, where nothing is consumed. -/
theorem Tracked.consume (h : w.Tracked) (i : ℕ) : (w.step (.consume i)).Tracked := by
  cases hi : w.scans[i]? with
  | none => rwa [step_consume_none hi]
  | some taken =>
      have htaken : taken ∈ w.scans := List.mem_of_getElem? hi
      rw [step_consume hi]
      refine ⟨⟨?_, ?_⟩, ?_, ?_⟩
      · intro scan hmem hstale
        by_cases hkept : w.tracker.consume taken.hint.generation = w.tracker
        · simp only [hkept]
          exact h.keeps.stale scan (mem_of_mem_eraseIdx hmem) hstale
        · exact SafDirtyGeneration.consume_of_clean (SafDirtyGeneration.consume_clears hkept) _
      · intro hpending
        obtain ⟨hpending, hstale⟩ := Bool.and_eq_true_iff.mp hpending
        simp only [h.keeps.stale taken htaken (of_decide_eq_true hstale)]
        exact h.keeps.pending hpending
      · intro scan hmem hcurrent
        simp only [SafDirtyGeneration.generation_consume]
        exact h.current scan (mem_of_mem_eraseIdx hmem) hcurrent
      · intro scan hmem
        exact h.roots scan (mem_of_mem_eraseIdx hmem)

theorem Tracked.step (w : HintWorld) (event : HintEvent) (h : w.Tracked)
    (hfresh : w.Distinguishes event) : (w.step event).Tracked := by
  cases event with
  | markDirty => exact h.markDirty hfresh
  | resetForNewRoot => exact h.resetForNewRoot hfresh
  | snapshot => exact h.snapshot
  | consume i => exact h.consume i
  | abandon i => exact h.abandon i

/-- Every scan under way is stale after a change, so each must be told apart from it. -/
theorem distinguishes_of_keepsChanges (w : HintWorld) (event : HintEvent) (h : w.Tracked)
    (hkeeps : (w.step event).KeepsChanges) : w.Distinguishes event := by
  cases event with
  | markDirty =>
      intro scan hmem
      have hself := hkeeps.stale _ (List.mem_map_of_mem hmem) (Or.inl rfl)
      have hne : scan.hint.generation ≠ w.tracker.markDirty.generation :=
        (SafDirtyGeneration.consume_eq_self_iff SafDirtyGeneration.dirty_markDirty).mp hself
      rwa [SafDirtyGeneration.generation_markDirty] at hne
  | resetForNewRoot =>
      intro scan hmem
      have hroot : scan.root ≠ w.root + 1 := by
        have hle := h.roots scan hmem
        omega
      have hself := hkeeps.stale scan hmem (Or.inr hroot)
      exact (SafDirtyGeneration.consume_eq_self_iff rfl).mp hself
  | snapshot => trivial
  | consume i => trivial
  | abandon i => trivial

/-- In exactly the runs whose changes are told apart from the scans under way, no change is
cleared by an older scan, in any state reached. -/
theorem keepsChanges_iff (events : List HintEvent) :
    Runs.Meets step Distinguishes {} events ↔
      ∀ pre, pre <+: events → (Runs.run step {} pre).KeepsChanges :=
  Runs.meets_iff_forall_prefix (fun _ h => h.keeps) Tracked.step distinguishes_of_keepsChanges
    Tracked.init

/-- A callback while the tracker is already dirty does not move the generation, and another
root starts it over, so the older scan's generation is the current one. -/
theorem change_cleared_by_older_scan :
    ¬ ∀ events, (Runs.run step {} events).KeepsChanges := by
  intro h
  have hrun := (h [.markDirty, .snapshot, .markDirty, .consume 0]).pending
  exact absurd (hrun rfl) (by decide)

/-- A scan of an earlier root clears the change of the current one. -/
example : (Runs.run step {} [.markDirty, .snapshot, .resetForNewRoot, .consume 0]).tracker.dirty =
    false := by decide

end HintWorld

/-! ## The plugin's lock -/

/-- The tracker with its scans, and the thread that is inside `inventory`, which holds
`ioLock` there. -/
structure PluginHints where
  hints : HintWorld := {}
  owner : Option ℕ := none

/-- A turn of a thread.  `onChange` and `onResume` mark the tracker, a picked folder is
activated, `changeHint` only looks, and an inventory takes two turns, between which its
inventory is built or fails. -/
inductive PluginTurn where
  | onChange
  | onResume
  | activateObserver
  | changeHint
  | inventory (thread : ℕ)
  | inventoryEnds (thread : ℕ) (succeeds : Bool)
  deriving DecidableEq

namespace PluginHints

/-- A thread whose turn comes while another is inside `inventory` waits for `ioLock`: its
turn does nothing. -/
def step (s : PluginHints) (turn : PluginTurn) : PluginHints :=
  match s.owner with
  | some owner =>
      match turn with
      | .inventoryEnds thread succeeds =>
          if thread = owner then
            { hints := s.hints.step (if succeeds then .consume 0 else .abandon 0), owner := none }
          else s
      | _ => s
  | none =>
      match turn with
      | .onChange => { s with hints := s.hints.step .markDirty }
      | .onResume => { s with hints := s.hints.step .markDirty }
      | .activateObserver => { s with hints := s.hints.step .resetForNewRoot }
      | .changeHint => s
      | .inventory thread => { hints := s.hints.step .snapshot, owner := some thread }
      | .inventoryEnds _ _ => s

/-- Behind `plugin_keeps_changes`: a scan is under way only while its thread holds the lock,
it is then the only one, and nothing has changed since its snapshot. -/
structure Locked (s : PluginHints) : Prop where
  tracked : s.hints.Tracked
  scans : s.hints.scans = [] ∨ s.owner ≠ none ∧ ∃ scan, s.hints.scans = [scan]
  current : ∀ scan ∈ s.hints.scans, ¬ s.hints.Stale scan
  dirty : s.hints.tracker.dirty = s.hints.pending

variable {s : PluginHints}

theorem Locked.init : Locked {} :=
  ⟨HintWorld.Tracked.init, Or.inl rfl, by simp, rfl⟩

theorem Locked.scans_of_free (h : s.Locked) (hfree : s.owner = none) : s.hints.scans = [] := by
  rcases h.scans with hnil | ⟨howned, -⟩
  · exact hnil
  · exact absurd hfree howned

/-- A change that comes while the lock is free meets no scan under way. -/
theorem Locked.change (h : s.Locked) (hfree : s.owner = none) {event : HintEvent}
    (hevent : event = .markDirty ∨ event = .resetForNewRoot) :
    Locked { s with hints := s.hints.step event } := by
  have hnil := h.scans_of_free hfree
  have huntaken : ∀ generation, s.hints.Untaken generation := by
    intro generation scan hmem
    rw [hnil] at hmem
    cases hmem
  rcases hevent with rfl | rfl
  · refine ⟨h.tracked.markDirty (huntaken _), Or.inl ?_, ?_, SafDirtyGeneration.dirty_markDirty⟩
    · simp [HintWorld.step, hnil]
    · simp [HintWorld.step, hnil]
  · refine ⟨h.tracked.resetForNewRoot (huntaken _), Or.inl hnil, ?_, rfl⟩
    simp [HintWorld.step, hnil]

theorem Locked.inventory (h : s.Locked) (hfree : s.owner = none) (thread : ℕ) :
    Locked { hints := s.hints.step .snapshot, owner := some thread } := by
  have hnil := h.scans_of_free hfree
  have hscans : (s.hints.step .snapshot).scans =
      [⟨s.hints.tracker.snapshot, s.hints.root, false⟩] := by
    simp [HintWorld.step, hnil]
  refine ⟨h.tracked.snapshot, Or.inr ⟨by simp, _, hscans⟩, ?_, h.dirty⟩
  · intro scan hmem
    simp only [hscans, List.mem_singleton] at hmem
    rw [hmem]
    rintro (hmarked | hroot)
    · cases hmarked
    · exact hroot rfl

/-- The one scan under way observed the current generation, so its end clears what is
there. -/
theorem Locked.inventoryEnds (h : s.Locked) (succeeds : Bool) :
    Locked { hints := s.hints.step (if succeeds then .consume 0 else .abandon 0),
             owner := none } := by
  cases succeeds with
  | false =>
      have hscans : (s.hints.step (.abandon 0)).scans = [] := by
        rcases h.scans with hnil | ⟨-, scan, hone⟩
        · simp [HintWorld.step, hnil]
        · simp [HintWorld.step, hone]
      refine ⟨h.tracked.abandon 0, Or.inl hscans, ?_, h.dirty⟩
      intro scan hmem
      simp [hscans] at hmem
  | true =>
      rcases h.scans with hnil | ⟨-, scan, hone⟩
      · have hsame : s.hints.step (.consume 0) = s.hints := by
          apply HintWorld.step_consume_none
          simp [hnil]
        simp only [if_true, hsame]
        exact ⟨h.tracked, Or.inl hnil, h.current, h.dirty⟩
      · have hmem : scan ∈ s.hints.scans := by simp [hone]
        have hcurrent := h.current scan hmem
        have hgeneration := h.tracked.current scan hmem hcurrent
        have hstep : s.hints.step (.consume 0) =
            { s.hints with
              tracker := s.hints.tracker.consume scan.hint.generation
              scans := []
              pending := false } := by
          rw [HintWorld.step_consume (by simp [hone] : s.hints.scans[0]? = some scan)]
          simp [hone, hcurrent]
        refine ⟨h.tracked.consume 0, Or.inl ?_, ?_, ?_⟩
        · simp only [if_true, hstep]
        · simp [hstep]
        · simp only [if_true, hstep, hgeneration, SafDirtyGeneration.consume]
          split
          · rfl
          · rename_i hclean
            simpa using hclean

theorem Locked.step (h : s.Locked) (turn : PluginTurn) : (s.step turn).Locked := by
  cases howner : s.owner with
  | some owner =>
      cases turn with
      | inventoryEnds thread succeeds =>
          simp only [PluginHints.step, howner]
          split
          · exact h.inventoryEnds succeeds
          · exact h
      | _ =>
          simp only [PluginHints.step, howner]
          exact h
  | none =>
      cases turn with
      | onChange =>
          simp only [PluginHints.step, howner]
          exact howner ▸ h.change howner (Or.inl rfl)
      | onResume =>
          simp only [PluginHints.step, howner]
          exact howner ▸ h.change howner (Or.inl rfl)
      | activateObserver =>
          simp only [PluginHints.step, howner]
          exact howner ▸ h.change howner (Or.inr rfl)
      | changeHint =>
          simp only [PluginHints.step, howner]
          exact h
      | inventory thread =>
          simp only [PluginHints.step, howner]
          exact h.inventory howner thread
      | inventoryEnds thread succeeds =>
          simp only [PluginHints.step, howner]
          exact h

/-- **What keeps a change hint.**  Over every order of turns of the plugin's threads no
change is cleared by an older scan or by a scan of an earlier root: the tracker is dirty
exactly while there is a change that no consumed scan was taken after, and a scan under way
is never older than a change.  The tracker alone keeps its changes in exactly the runs
whose changes are told apart from the scans under way. -/
theorem plugin_keeps_changes :
    (∀ turns : List PluginTurn, ∀ s : PluginHints, s = Runs.run step {} turns →
      s.hints.KeepsChanges ∧ s.hints.tracker.dirty = s.hints.pending ∧
        ∀ scan ∈ s.hints.scans, ¬ s.hints.Stale scan) ∧
    (∀ events : List HintEvent,
      Runs.Meets HintWorld.step HintWorld.Distinguishes {} events ↔
        ∀ pre, pre <+: events → (Runs.run HintWorld.step {} pre).KeepsChanges) := by
  refine ⟨?_, HintWorld.keepsChanges_iff⟩
  rintro turns _ rfl
  have hlocked : (Runs.run step {} turns).Locked :=
    Runs.run_induction (fun _ turn h => h.step turn) turns Locked.init
  exact ⟨hlocked.tracked.keeps, hlocked.dirty, hlocked.current⟩

/-- A callback that comes during an inventory waits, and is there for the next one. -/
example : (Runs.run step {} [.onChange, .inventory 1, .onChange, .inventoryEnds 1 true,
    .onChange]).hints.tracker = { dirty := true, generation := 2 } := by decide

end PluginHints
end Saf
end MyVault
