import MyVault.Editor.Workspace

/-!
# When no edit is dropped

A handler of the editor decides by what was last rendered, or by what was rendered when its
request went out, and acts on what is queued now.  Where the two agree nothing is lost: a
buffer that is replaced has been saved, a phase that reads saved belongs to a saved text, and
nothing is submitted after a conflict.  `Careful` says of each step that they agree where it
matters, and a run of careful steps keeps every edit (`careful_runs_keep_edits`).  The three
ways not to be careful each lose one (`stale_guards_drop_edits`).

## What the invariant has to say

`KeepsEdits` is what a step should keep: a note that replaces the buffer finds no unsaved edit in
there (`Kept`), a phase that reads clean or saved is `Truthful`, and nothing is submitted while
the last answer was a conflict or an unknown outcome.  All three speak of a ghost history: what
was typed since the load, and what was loaded and saved.

`Inv` ties the phase to that history.  It needs more than the property for the phases that read
clean or saved, because the next load relies on them: a clean buffer has no edits, and the text of
a saved one is on the disk.  `Careful` is about the state before the step.  It compares what the
handler looks at, which is rendered, with what it acts on, which is queued.
-/

namespace MyVault
namespace Editor

open Workspace

/-! ## What a run should keep -/

/-- The buffer holds no edit that has not reached the disk: none has been typed since the
load, or its text has been saved under its note. -/
def Kept (workspace : Workspace) : Prop :=
  workspace.history.edits = [] ∨
    ∃ path ∈ workspace.queued.activePath,
      (path, workspace.queued.text) ∈ workspace.history.saves

instance (workspace : Workspace) : Decidable (Kept workspace) :=
  inferInstanceAs (Decidable (_ ∨ _))

/-- A phase that reads clean or saved is that of a text that was loaded or saved. -/
def Truthful (workspace : Workspace) : Prop :=
  workspace.queued.save.phase = .clean ∨ workspace.queued.save.phase = .saved →
    workspace.queued.text = workspace.history.lastLoaded ∨
      workspace.history.lastSaved = some workspace.queued.text

instance (workspace : Workspace) : Decidable (Truthful workspace) :=
  inferInstanceAs (Decidable (_ → _))

/-- The step submits a save. -/
def Submits (workspace : Workspace) : Event → Prop
  | .autosave => shouldAutosave workspace.rendered.save = true ∧
      workspace.submission.isSome = true
  | .saveKey => workspace.submission.isSome = true
  | _ => False

instance (workspace : Workspace) : ∀ event, Decidable (Submits workspace event)
  | .autosave => inferInstanceAs (Decidable (_ ∧ _))
  | .saveKey => inferInstanceAs (Decidable (_ = _))
  | .type _ | .render | .saveResponse _ | .openNote _ | .reload _ | .vaultChanged _
  | .refreshTimer | .readResponse _ _ => inferInstanceAs (Decidable False)

/-- The step replaces the buffer by a loaded note, without the user having confirmed it. -/
def Replaces (workspace : Workspace) : Event → Prop
  | .readResponse index (.ok note) => ∃ read ∈ workspace.reads[index]?,
      read.reader ≠ .reloadFromDisk ∧ workspace.accepts read note = true
  | _ => False

instance (workspace : Workspace) : ∀ event, Decidable (Replaces workspace event)
  | .readResponse _ (.ok _) => inferInstanceAs (Decidable (∃ read ∈ _, _))
  | .type _ | .render | .autosave | .saveKey | .saveResponse _ | .openNote _ | .reload _
  | .vaultChanged _ | .refreshTimer | .readResponse _ (.error _) =>
    inferInstanceAs (Decidable False)

/-- What a step should keep. -/
structure KeepsEdits (workspace : Workspace) (event : Event) : Prop where
  replaced : Replaces workspace event → Kept workspace
  truthful : Truthful (step workspace event)
  quiet : Submits workspace event → workspace.history.blocked = false

/-- A finished save is compared with the text that is in the buffer. -/
def ComparesCurrent (workspace : Workspace) : Event → Prop
  | .saveResponse (.ok result) => ∀ request ∈ workspace.saveInFlight,
      workspace.expects request result = true → workspace.rendered.text = request.text →
      workspace.queued.text = workspace.rendered.text ∧
        workspace.queued.activePath = workspace.rendered.activePath
  | _ => True

instance (workspace : Workspace) : ∀ event, Decidable (ComparesCurrent workspace event)
  | .saveResponse (.ok _) => inferInstanceAs (Decidable (∀ request ∈ _, _))
  | .type _ | .render | .autosave | .saveKey | .saveResponse (.error _) | .openNote _
  | .reload _ | .vaultChanged _ | .refreshTimer | .readResponse _ _ =>
    inferInstanceAs (Decidable True)

/-- What a handler relies on holds of the state it acts on: the phase that let a save be
submitted, the phase that let a note be replaced, and the text a finished save is compared
with. -/
def Careful (workspace : Workspace) (event : Event) : Prop :=
  (Submits workspace event → workspace.queued.save.phase = .dirty) ∧
  (Replaces workspace event → workspace.queued.save.phase.canReload = true) ∧
  ComparesCurrent workspace event

instance (workspace : Workspace) (event : Event) : Decidable (Careful workspace event) :=
  inferInstanceAs (Decidable (_ ∧ _ ∧ _))

/-! ## The invariant -/

/-- What a careful run keeps. -/
structure Inv (workspace : Workspace) : Prop where
  clean : workspace.queued.save.phase = .clean →
    workspace.queued.text = workspace.history.lastLoaded ∧ workspace.history.edits = []
  saved : workspace.queued.save.phase = .saved →
    workspace.history.lastSaved = some workspace.queued.text ∧ Kept workspace
  blocked : workspace.history.blocked = true → workspace.saveInFlight = none ∧
    (workspace.queued.save.phase = .conflict ∨ workspace.queued.save.phase = .unknown)

theorem Inv.truthful {workspace : Workspace} (h : Inv workspace) : Truthful workspace := by
  rintro (hclean | hsaved)
  · exact Or.inl (h.clean hclean).1
  · exact Or.inr (h.saved hsaved).1

theorem Inv.kept {workspace : Workspace} (h : Inv workspace)
    (hphase : workspace.queued.save.phase.canReload = true) : Kept workspace := by
  rw [SavePhase.canReload, Bool.or_eq_true, beq_iff_eq, beq_iff_eq] at hphase
  rcases hphase with hclean | hsaved
  · exact Or.inl (h.clean hclean).2
  · exact (h.saved hsaved).2

theorem inv_initial (sessionId : Option String) : Inv (Workspace.initial sessionId) where
  clean _ := ⟨rfl, rfl⟩
  saved h := nomatch h
  blocked h := nomatch h

variable {workspace : Workspace}

/-- A step that changes neither the queued state nor the save in flight. -/
theorem Inv.of_same {next : Workspace} (h : Inv workspace)
    (hqueued : next.queued = workspace.queued)
    (hhistory : next.history = workspace.history)
    (hflight : next.saveInFlight = workspace.saveInFlight) : Inv next where
  clean := by
    rw [hqueued, hhistory]
    exact h.clean
  saved := by
    rw [Kept, hqueued, hhistory]
    exact h.saved
  blocked := by
    rw [hqueued, hhistory, hflight]
    exact h.blocked

theorem phase_edit (state : SaveState) :
    (saveReducer state .edit).phase =
      if state.phase = .conflict ∨ state.phase = .unknown then state.phase else .dirty := by
  rw [saveReducer]
  split <;> rfl

/-- Typing ends in no phase that says the buffer is on disk. -/
theorem inv_type (h : Inv workspace) (next : String) : Inv (workspace.type next) := by
  rw [Workspace.type]
  split
  · exact h
  · have hphase := phase_edit workspace.queued.save
    constructor
    · intro hclean
      dsimp only at hclean
      rw [hphase] at hclean
      split at hclean
      · rename_i hblocked
        rcases hblocked with hblocked | hblocked <;> rw [hblocked] at hclean <;> cases hclean
      · cases hclean
    · intro hsaved
      dsimp only at hsaved
      rw [hphase] at hsaved
      split at hsaved
      · rename_i hblocked
        rcases hblocked with hblocked | hblocked <;> rw [hblocked] at hsaved <;> cases hsaved
      · cases hsaved
    · intro hblocked
      obtain ⟨hflight, hconflict⟩ := h.blocked hblocked
      refine ⟨hflight, ?_⟩
      dsimp only
      rw [hphase, if_pos hconflict]
      exact hconflict

theorem inv_saveNow (h : Inv workspace)
    (hcareful : workspace.submission.isSome = true → workspace.queued.save.phase = .dirty) :
    Inv workspace.saveNow := by
  rw [saveNow]
  split
  · exact h
  · rename_i request hsubmission
    have hdirty := hcareful (hsubmission ▸ rfl)
    have hphase : (saveReducer workspace.queued.save .saving).phase = .saving := by
      rw [saveReducer, if_pos hdirty]
    refine ⟨fun hclean => ?_, fun hsaved => ?_, fun hblocked => ?_⟩
    · rw [hphase] at hclean
      cases hclean
    · rw [hphase] at hsaved
      cases hsaved
    · -- a dirty note is not blocked
      obtain ⟨-, hconflict⟩ := h.blocked hblocked
      rw [hdirty] at hconflict
      rcases hconflict with hconflict | hconflict <;> cases hconflict

theorem phase_failed (state : SaveState) (code : String) (message : Option String) :
    (saveReducer state (.failed code message)).phase = .conflict ∨
      (saveReducer state (.failed code message)).phase = .unknown ∨
      (saveReducer state (.failed code message)).phase = .error := by
  rw [saveReducer]
  split
  · exact Or.inl rfl
  · split
    · exact Or.inr (Or.inl rfl)
    · exact Or.inr (Or.inr rfl)

theorem inv_failSave (h : Inv workspace) (hflight : workspace.saveInFlight ≠ none) (code : String)
    (message : Option String) : Inv (workspace.failSave code message) := by
  have hphase := phase_failed workspace.queued.save code message
  have hfree : workspace.history.blocked = false := by
    by_contra hblocked
    rw [Bool.not_eq_false] at hblocked
    exact hflight (h.blocked hblocked).1
  rw [failSave]
  refine ⟨fun hclean => ?_, fun hsaved => ?_, fun hblocked => ⟨rfl, ?_⟩⟩
  · dsimp only at hclean
    rw [hclean] at hphase
    simp at hphase
  · dsimp only at hsaved
    rw [hsaved] at hphase
    simp at hphase
  · dsimp only at hblocked ⊢
    rw [hfree, Bool.false_or, Bool.or_eq_true, beq_iff_eq, beq_iff_eq] at hblocked
    exact hblocked

/-- A finished save reads saved only if the buffer is what was submitted. -/
theorem inv_finishSave {request : SaveRequest} {result : SaveDto} (h : Inv workspace)
    (hflight : workspace.saveInFlight = some request)
    (hexpects : workspace.expects request result = true)
    (hcareful : workspace.rendered.text = request.text →
      workspace.queued.text = workspace.rendered.text ∧
        workspace.queued.activePath = workspace.rendered.activePath) :
    Inv (workspace.finishSave request result) := by
  have hpath : workspace.rendered.activePath = some request.path := by
    rw [expects, Bool.and_eq_true, decide_eq_true_eq] at hexpects
    exact hexpects.2
  rw [finishSave]
  by_cases hcurrent : workspace.rendered.text = request.text
  · obtain ⟨htext, hactive⟩ := hcareful hcurrent
    refine ⟨fun hclean => ?_, fun _ => ⟨?_, Or.inr ⟨request.path, ?_, ?_⟩⟩, fun hblocked => ?_⟩
    · simp [saveReducer, hcurrent] at hclean
    · exact congrArg some (htext.trans hcurrent).symm
    · exact hactive.trans hpath
    · dsimp only
      rw [htext, hcurrent]
      exact List.mem_append_right _ List.mem_cons_self
    · exact absurd (h.blocked hblocked).1 (by rw [hflight]; simp)
  · refine ⟨fun hclean => ?_, fun hsaved => ?_, fun hblocked => ?_⟩
    · simp [saveReducer, hcurrent] at hclean
    · simp [saveReducer, hcurrent] at hsaved
    · exact absurd (h.blocked hblocked).1 (by rw [hflight]; simp)

theorem inv_takeSave {result : Except AppFailure SaveDto} (h : Inv workspace)
    (hcareful : Careful workspace (.saveResponse result)) : Inv (workspace.takeSave result) := by
  rw [takeSave.eq_def]
  split
  · exact h
  · rename_i hflight
    exact inv_failSave h (by rw [hflight]; simp) _ _
  · rename_i request result hflight
    split
    · rename_i hexpects
      exact inv_finishSave h hflight hexpects (hcareful.2.2 request hflight hexpects)
    · exact inv_failSave h (by rw [hflight]; simp) _ _

/-- A loaded note is clean and unblocked. -/
theorem inv_load (reader : Reader) (note : NoteDto) : Inv (workspace.load reader note) where
  clean _ := ⟨rfl, rfl⟩
  saved h := nomatch h
  blocked h := nomatch h

theorem inv_takeRead (h : Inv workspace) (index : ℕ) (result : Except AppFailure NoteDto) :
    Inv (workspace.takeRead index result) := by
  rw [takeRead.eq_def]
  split
  · exact h
  · exact h.of_same rfl rfl rfl
  · split
    · exact inv_load _ _
    · exact h.of_same rfl rfl rfl

/-- A careful step keeps the invariant: one case for each event. -/
theorem inv_step {event : Event} (h : Inv workspace) (hcareful : Careful workspace event) :
    Inv (step workspace event) := by
  cases event with
  | type next => exact inv_type h next
  | render => exact h.of_same rfl rfl rfl
  | autosave =>
      rw [step]
      split
      · rename_i hdirty
        exact inv_saveNow h fun hsubmits => hcareful.1 ⟨hdirty, hsubmits⟩
      · exact h
  | saveKey => exact inv_saveNow h hcareful.1
  | saveResponse result => exact inv_takeSave h hcareful
  | openNote path =>
      rw [step, Workspace.openNote]
      split
      · exact h
      · split
        · exact h
        · exact h.of_same rfl rfl rfl
  | reload confirmed =>
      rw [step, reloadFromDisk]
      split
      · split
        · exact h.of_same rfl rfl rfl
        · exact h
      · exact h
  | vaultChanged payload =>
      rw [step, Workspace.vaultChanged]
      split
      · exact h
      · exact h.of_same rfl rfl rfl
  | refreshTimer =>
      rw [step, refresh]
      split
      · exact h
      · dsimp only
        split
        · exact h.of_same rfl rfl rfl
        · exact h.of_same rfl rfl rfl
  | readResponse index result => exact inv_takeRead h index result

theorem keepsEdits_of_careful {event : Event} (h : Inv workspace)
    (hcareful : Careful workspace event) : KeepsEdits workspace event where
  replaced hreplaces := h.kept (hcareful.2.1 hreplaces)
  truthful := (inv_step h hcareful).truthful
  quiet hsubmits := by
    by_contra hblocked
    rw [Bool.not_eq_false] at hblocked
    obtain ⟨-, hconflict⟩ := h.blocked hblocked
    rw [hcareful.1 hsubmits] at hconflict
    rcases hconflict with hconflict | hconflict <;> cases hconflict

/-- **A run of careful steps drops no edit.**  Every buffer that is replaced has been saved,
every phase that reads clean or saved is true, and no save is submitted between a conflict
or an unknown outcome and the next load. -/
theorem careful_runs_keep_edits (sessionId : Option String) (events : List Event)
    (hcareful : Runs.Meets step Careful (Workspace.initial sessionId) events) :
    Runs.Meets step KeepsEdits (Workspace.initial sessionId) events :=
  Runs.meets_of_meets (fun _ _ h hstep => ⟨inv_step h hstep, keepsEdits_of_careful h hstep⟩)
    (inv_initial sessionId) hcareful

/-- A note as it is read. -/
def sampleNote (path text : String) : NoteDto where
  sessionId := "s"
  path := path
  text := text
  revisionHex := "r"
  byteLen := text.length

/-- The answer to a save of it. -/
def savedNote : SaveDto := { sessionId := "s", path := "a.md", revisionHex := "r2", byteLen := 1 }

/-- `a.md` is open. -/
def opened : List Event :=
  [.openNote "a.md", .readResponse 0 (.ok (sampleNote "a.md" "")), .render]

/-- The careful run of an edit that is saved before the next note is opened. -/
def savesThenOpens : List Event :=
  opened ++ [.type "x", .render, .autosave, .render, .saveResponse (.ok savedNote), .render,
    .openNote "b.md", .readResponse 0 (.ok (sampleNote "b.md" "")), .render]

theorem careful_runs_keep_edits_saved :
    Runs.Meets step KeepsEdits (Workspace.initial (some "s")) savesThenOpens :=
  careful_runs_keep_edits (some "s") savesThenOpens (by decide)

/-! ## Guards that have gone stale -/

/-- An edit is typed and rendered while `b.md` is being read. -/
def typesWhileOpening : List Event :=
  opened ++ [.openNote "b.md", .type "x", .render,
    .readResponse 0 (.ok (sampleNote "b.md" ""))]

/-- An edit is typed, and not yet rendered, when the save of the one before is answered. -/
def typesWhileSaving : List Event :=
  opened ++ [.type "x", .render, .autosave, .render, .type "xy", .saveResponse (.ok savedNote)]

/-- The timer fires between the answer of a stale save and the render that shows it. -/
def savesAfterConflict : List Event :=
  opened ++ [.type "x", .render, .autosave, .type "xy", .render,
    .saveResponse (.error { code := some "staleRevision", message := none }), .autosave]

/-- The edit typed behind the guard of the open is gone with the buffer, the one typed behind
the last render reads saved, and the conflict does not stop the next save. -/
theorem stale_guards_drop_edits :
    ¬ Runs.Meets step KeepsEdits (Workspace.initial (some "s")) typesWhileOpening ∧
      ¬ Runs.Meets step KeepsEdits (Workspace.initial (some "s")) typesWhileSaving ∧
      ¬ Runs.Meets step KeepsEdits (Workspace.initial (some "s")) savesAfterConflict := by
  refine ⟨fun h => ?_, fun h => ?_, fun h => ?_⟩
  · rw [typesWhileOpening, Runs.meets_append] at h
    have hkept := h.2.2.2.2.1.replaced (by decide)
    exact absurd hkept (by decide)
  · rw [typesWhileSaving, Runs.meets_append] at h
    have htruthful := h.2.2.2.2.2.2.1.truthful
    exact absurd htruthful (by decide)
  · rw [savesAfterConflict, Runs.meets_append] at h
    have hquiet := h.2.2.2.2.2.2.2.1.quiet (by decide)
    exact absurd hquiet (by decide)

end Editor
end MyVault
