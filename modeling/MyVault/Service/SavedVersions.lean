import MyVault.Service.SaveNote

/-!
# What a save has saved

The revision is checked before the snapshot and again just before the rename, and the
mutation lock is held from the first check of the replacement to its end.  So no other
call comes between the last check and the rename.  Another program may, and then the
bytes it wrote are gone without a snapshot (`saved_over_another_write`).

`Stage` says what the history holds of a call at each of its points; every step keeps it
(`inv_step`).  From it: a save that succeeds has a snapshot of the revision it expected,
and these are the bytes it replaced unless another write fell behind the last check; two
saves of one expected revision both succeed only if the note got that revision back; and
a save that fails, its outcome known, has written nothing.

## Records

The world carries a log of what has been done to the note: which call has published which
snapshot, when it began its last check, what it replaced, and what other programs wrote.  It is a
ghost, since no step looks at it.  The properties are about this log: `Preserved` of a save that
succeeds, `OneAfterTheOther` of two saves that expect one revision, and `Untouched` of a save that
fails.

`Window` is the part of the log since the last check of a call began.  While a call holds the
mutation lock no other call can add a replacement to it, so whatever changed the note in there is
another program's write.  Where there is none (`Calm`), the bytes that are replaced are those that
were checked.
-/

namespace MyVault
namespace Service

open Vault VaultPath

/-! ## Histories -/

/-- The call whose replacement it is. -/
def Record.replacedBy : Record → Option ℕ
  | .replaced index _ _ => some index
  | _ => none

/-- What is in the note after it. -/
def Record.written : Record → Option (List UInt8)
  | .external bytes => some bytes
  | .replaced _ _ text => some text
  | _ => none

/-- The note after the writes of a history. -/
def noteAfter (note : List UInt8) (log : List Record) : List UInt8 :=
  log.foldl (fun note record => record.written.getD note) note

/-- The call has not replaced the note. -/
def Untouched (log : List Record) (index : ℕ) : Prop :=
  ∀ record ∈ log, record.replacedBy ≠ some index

/-- No other program wrote. -/
def Calm (log : List Record) : Prop := ∀ record ∈ log, record.isExternal = false

section Histories

variable {note : List UInt8} {log log' : List Record} {index : ℕ} {entry : Record}

theorem noteAfter_append : noteAfter note (log ++ log') = noteAfter (noteAfter note log) log' :=
  List.foldl_append

theorem Untouched.append (h : Untouched log index) (hentry : entry.replacedBy ≠ some index) :
    Untouched (log ++ [entry]) index := by
  intro record hrecord
  rcases List.mem_append.mp hrecord with hold | hnew
  · exact h record hold
  · rw [List.mem_singleton.mp hnew]
    exact hentry

/-- What is in the note was there before or was written by a record. -/
theorem noteAfter_cases : noteAfter note log = note ∨
    ∃ record ∈ log, record.written = some (noteAfter note log) := by
  induction log using List.reverseRecOn with
  | nil => exact Or.inl rfl
  | append_singleton log entry ih =>
      rw [noteAfter_append]
      show entry.written.getD (noteAfter note log) = note ∨ _
      cases hwritten : entry.written with
      | some bytes =>
          refine Or.inr ⟨entry, by simp, ?_⟩
          rw [hwritten]
          show _ = some (entry.written.getD (noteAfter note log))
          rw [hwritten, Option.getD_some]
      | none =>
          rw [Option.getD_none]
          rcases ih with hsame | ⟨record, hrecord, hrecorded⟩
          · exact Or.inl hsame
          · refine Or.inr ⟨record, List.mem_append_left _ hrecord, ?_⟩
            rw [hrecorded]
            show _ = some (entry.written.getD (noteAfter note log))
            rw [hwritten, Option.getD_none]

end Histories

/-! ## The stages of a call -/

section Stages

variable (blake3 : Blake3) (note₀ : List UInt8) (log : List Record) (index : ℕ)
  (expected : FileRevision)

/-- The call has published a snapshot of the expected revision. -/
def Secured : Prop :=
  ∃ payload, .published index payload ∈ log ∧ .fromBytes blake3 payload = expected

/-- The last check of the call has begun, and no call has replaced the note since. -/
structure Window (before since : List Record) : Prop where
  log : log = before ++ .checking index :: since
  alone : ∀ record ∈ since, record.replacedBy = none

/-- The call has replaced the note, once, behind its snapshot and its last check; where
nobody else wrote since that check, the replaced bytes have the expected revision. -/
structure Replaced (pre : List Record) (displaced text : List UInt8) (post : List Record) :
    Prop where
  log : log = pre ++ .replaced index displaced text :: post
  untouched : Untouched pre index
  once : Untouched post index
  bytes : displaced = noteAfter note₀ pre
  secured : Secured blake3 pre index expected
  checked : ∃ before since, Window pre index before since ∧
    (Calm since → .fromBytes blake3 displaced = expected)

/-- What the history holds of a call at a point. -/
def Stage (note text : List UInt8) : Point → Prop
  | .begin | .readNote | .reading _ => Untouched log index
  | .snapshot payload => Untouched log index ∧ .fromBytes blake3 payload = expected
  | .replace | .check | .checking _ | .writeTemp | .recheck =>
    Untouched log index ∧ Secured blake3 log index expected
  | .rechecking writes =>
    Untouched log index ∧ Secured blake3 log index expected ∧
      ∃ before since, Window log index before since ∧
        before.countP Record.isExternal = writes
  | .verifyTemp | .rename =>
    Untouched log index ∧ Secured blake3 log index expected ∧
      ∃ before since, Window log index before since ∧
        (Calm since → .fromBytes blake3 note = expected)
  | .sync | .verifying _ _ | .done (.ok _) =>
    ∃ pre displaced post, Replaced blake3 note₀ log index expected pre displaced text post
  | .done (.error error) => error ≠ .writeOutcomeUnknown → Untouched log index

end Stages

/-- The points at which a call holds the mutation lock. -/
def Point.holds : Point → Bool
  | .reading _ | .check | .checking _ | .writeTemp | .recheck | .rechecking _ | .verifyTemp
  | .rename | .sync | .verifying _ _ => true
  | .begin | .readNote | .snapshot _ | .replace | .done _ => false

section Append

variable {blake3 : Blake3} {note₀ note note' text : List UInt8} {log : List Record} {index : ℕ}
  {expected : FileRevision} {entry : Record} {before since : List Record} {point : Point}

theorem Secured.append (h : Secured blake3 log index expected) :
    Secured blake3 (log ++ [entry]) index expected := by
  obtain ⟨payload, hmem, hrevision⟩ := h
  exact ⟨payload, List.mem_append_left _ hmem, hrevision⟩

theorem Window.append (h : Window log index before since) (hentry : entry.replacedBy = none) :
    Window (log ++ [entry]) index before (since ++ [entry]) where
  log := by rw [h.log, List.append_assoc, List.cons_append]
  alone := by
    intro record hrecord
    rcases List.mem_append.mp hrecord with hold | hnew
    · exact h.alone record hold
    · rw [List.mem_singleton.mp hnew]
      exact hentry

theorem Replaced.append {pre post : List Record} {displaced : List UInt8}
    (h : Replaced blake3 note₀ log index expected pre displaced text post)
    (hentry : entry.replacedBy ≠ some index) :
    Replaced blake3 note₀ (log ++ [entry]) index expected pre displaced text (post ++ [entry]) :=
  { h with
    log := by rw [h.log, List.append_assoc, List.cons_append]
    once := h.once.append hentry }

/-- What the history holds of a call, it holds when others go on; while the call has the
lock nobody else replaces the note. -/
theorem Stage.append (h : Stage blake3 note₀ log index expected note text point)
    (hentry : entry.replacedBy ≠ some index)
    (hheld : point.holds = true → entry.replacedBy = none)
    (hnote : entry.replacedBy = none → entry.isExternal = false → note' = note) :
    Stage blake3 note₀ (log ++ [entry]) index expected note' text point := by
  cases point with
  | begin => exact Untouched.append h hentry
  | readNote => exact Untouched.append h hentry
  | reading _ => exact Untouched.append h hentry
  | snapshot payload => exact ⟨h.1.append hentry, h.2⟩
  | replace => exact ⟨h.1.append hentry, h.2.append⟩
  | check => exact ⟨h.1.append hentry, h.2.append⟩
  | checking _ => exact ⟨h.1.append hentry, h.2.append⟩
  | writeTemp => exact ⟨h.1.append hentry, h.2.append⟩
  | recheck => exact ⟨h.1.append hentry, h.2.append⟩
  | rechecking writes =>
      obtain ⟨huntouched, hsecured, before, since, hwindow, hcount⟩ := h
      exact ⟨huntouched.append hentry, hsecured.append, before, _, hwindow.append (hheld rfl),
        hcount⟩
  | verifyTemp | rename =>
      obtain ⟨huntouched, hsecured, before, since, hwindow, hcalm⟩ := h
      refine ⟨huntouched.append hentry, hsecured.append, before, _, hwindow.append (hheld rfl),
        fun hquiet => ?_⟩
      rw [hnote (hheld rfl) (hquiet entry (by simp))]
      exact hcalm fun record hrecord => hquiet record (List.mem_append_left _ hrecord)
  | sync | verifying _ _ =>
      obtain ⟨pre, displaced, post, hreplaced⟩ := h
      exact ⟨pre, displaced, _, hreplaced.append hentry⟩
  | done result =>
      cases result with
      | error error => exact fun hknown => Untouched.append (h hknown) hentry
      | ok dto =>
          obtain ⟨pre, displaced, post, hreplaced⟩ := h
          exact ⟨pre, displaced, _, hreplaced.append hentry⟩

end Append

/-! ## The invariant -/

/-- The call is at this point. -/
def World.At (world : World) (index : ℕ) (call : SaveNote) : Prop :=
  world.calls index = some call

/-- The lock is with the call that holds it, the note is what the history wrote, and every
call is at its stage. -/
structure Inv (blake3 : Blake3) (note₀ : List UInt8) (world : World) : Prop where
  locked : ∀ {index call}, world.At index call → call.point.holds = true →
    world.mutationLock = some index
  note : world.note = noteAfter note₀ world.log
  fresh : ∀ {index}, world.calls index = none → Untouched world.log index
  stage : ∀ {index call}, world.At index call →
    Stage blake3 note₀ world.log index call.expected world.note call.text call.point

section Steps

variable {blake3 : Blake3} {path : Text} {note₀ : List UInt8} {world : World} {index : ℕ}
  {call call' : SaveNote} {lock' : Option ℕ} {entry : Record} {note' : List UInt8}

theorem inv_initial : Inv blake3 note₀ (World.initial note₀) where
  locked := nofun
  note := rfl
  fresh := fun _ => nofun
  stage := nofun

theorem at_update_iff {note : List UInt8} {lock : Option ℕ} {log : List Record} {j : ℕ}
    {d : SaveNote} :
    (World.mk note lock (Function.update world.calls index (some call')) log).At j d ↔
      (j = index ∧ d = call') ∨ (j ≠ index ∧ world.At j d) := by
  by_cases hj : j = index
  · subst hj
    simp [World.At, eq_comm]
  · simp [World.At, hj]

/-- A call goes on without a trace. -/
theorem inv_goTo (world : World) (h : Inv blake3 note₀ world)
    (hothers : ∀ j, j ≠ index → world.mutationLock = some j → lock' = some j)
    (hown : call'.point.holds = true → lock' = some index)
    (hstage : Stage blake3 note₀ world.log index call'.expected world.note call'.text call'.point) :
    Inv blake3 note₀ ⟨world.note, lock', Function.update world.calls index (some call'),
      world.log⟩ where
  locked := by
    intro j d hat hholds
    rcases at_update_iff.mp hat with ⟨rfl, rfl⟩ | ⟨hj, hat⟩
    · exact hown hholds
    · exact hothers j hj (h.locked hat hholds)
  note := h.note
  fresh := by
    intro j hnone
    by_cases hj : j = index
    · subst hj
      simp at hnone
    · dsimp only at hnone
      rw [Function.update_of_ne hj] at hnone
      exact h.fresh hnone
  stage := by
    intro j d hat
    rcases at_update_iff.mp hat with ⟨rfl, rfl⟩ | ⟨hj, hat⟩
    · exact hstage
    · exact h.stage hat

/-- A call goes on and leaves a record of its own. -/
theorem inv_record (h : Inv blake3 note₀ world)
    (hothers : ∀ j, j ≠ index → world.mutationLock = some j → lock' = some j)
    (hown : call'.point.holds = true → lock' = some index)
    (hentry : ∀ j, j ≠ index → entry.replacedBy ≠ some j)
    (hheld : entry.replacedBy ≠ none → world.mutationLock = some index)
    (hnote : note' = entry.written.getD world.note)
    (hquiet : entry.replacedBy = none → entry.isExternal = false → note' = world.note)
    (hstage : Stage blake3 note₀ (world.log ++ [entry]) index call'.expected note' call'.text
      call'.point) :
    Inv blake3 note₀ ⟨note', lock', Function.update world.calls index (some call'),
      world.log ++ [entry]⟩ where
  locked := by
    intro j d hat hholds
    rcases at_update_iff.mp hat with ⟨rfl, rfl⟩ | ⟨hj, hat⟩
    · exact hown hholds
    · exact hothers j hj (h.locked hat hholds)
  note := by
    rw [noteAfter_append, ← h.note]
    exact hnote
  fresh := by
    intro j hnone
    by_cases hj : j = index
    · subst hj
      simp at hnone
    · dsimp only at hnone
      rw [Function.update_of_ne hj] at hnone
      exact (h.fresh hnone).append (hentry j hj)
  stage := by
    intro j d hat
    rcases at_update_iff.mp hat with ⟨rfl, rfl⟩ | ⟨hj, hat⟩
    · exact hstage
    · refine (h.stage hat).append (hentry j hj) (fun hholds => ?_) hquiet
      by_contra hreplaces
      exact hj (Option.some.inj ((h.locked hat hholds).symm.trans (hheld hreplaces)))

/-- The lock stays with a call that holds it. -/
theorem others_of_lock (h : world.mutationLock = some index) :
    ∀ j, j ≠ index → world.mutationLock = some j → lock' = some j := by
  intro j hj hlock
  exact absurd (Option.some.inj (hlock.symm.trans h)) hj

theorem others_of_free (h : ¬ world.mutationLock.isSome = true) :
    ∀ j, j ≠ index → world.mutationLock = some j → lock' = some j := by
  intro j _ hlock
  rw [hlock] at h
  exact absurd rfl h

theorem others_same : ∀ j, j ≠ index → world.mutationLock = some j →
    world.mutationLock = some j := fun _ _ hlock => hlock

theorem verifyExpected_eq_none {expected : FileRevision} {answers : Answers}
    {bytes : List UInt8} (h : verifyExpected blake3 path expected answers bytes = none) :
    .fromBytes blake3 bytes = expected := by
  rw [verifyExpected] at h
  split at h
  · cases h
  · by_contra hne
    rw [if_neg hne] at h
    cases h

/-- A failed step of a call that has written nothing. -/
theorem inv_fail (world : World) (h : Inv blake3 note₀ world)
    (hothers : ∀ j, j ≠ index → world.mutationLock = some j → lock' = some j)
    (huntouched : Untouched world.log index) (error : AppError) :
    Inv blake3 note₀ ⟨world.note, lock', Function.update world.calls index
      (some { call with point := .done (.error error) }), world.log⟩ :=
  inv_goTo world h hothers nofun fun _ => huntouched

/-- **Every step of a call keeps the invariant.**  One case for each of its points. -/
theorem inv_advance (h : Inv blake3 note₀ world) (hat : world.At index call)
    (answers : Answers) : Inv blake3 note₀ (call.advance blake3 path world index answers) := by
  have hstage := h.stage hat
  have hlocked := h.locked hat
  rw [SaveNote.advance]
  cases hpoint : call.point with
  | begin =>
      rw [hpoint] at hstage
      dsimp only
      split
      · exact inv_fail world h others_same hstage _
      · exact inv_goTo world h others_same nofun hstage
  | readNote =>
      rw [hpoint] at hstage
      dsimp only
      split
      · exact h
      · rename_i hfree
        split
        · exact inv_fail world h others_same hstage _
        · exact inv_goTo world h (others_of_free hfree) (fun _ => rfl) hstage
  | reading writes =>
      rw [hpoint] at hstage
      have hothers : ∀ j, j ≠ index → world.mutationLock = some j → none = some j :=
        others_of_lock (hlocked (hpoint ▸ rfl))
      dsimp only
      split
      · exact inv_fail world h hothers hstage _
      · split
        · rename_i hrevision
          exact inv_goTo world h hothers nofun ⟨hstage, hrevision⟩
        · exact inv_fail world h hothers hstage _
  | snapshot payload =>
      rw [hpoint] at hstage
      dsimp only
      split
      · exact inv_fail world h others_same hstage.1 _
      · refine inv_record h others_same nofun nofun (fun hne => absurd rfl hne) rfl
          (fun _ _ => rfl) ⟨hstage.1.append nofun, payload, by simp, hstage.2⟩
  | replace =>
      rw [hpoint] at hstage
      dsimp only
      split
      · exact inv_fail world h others_same hstage.1 _
      · split
        · exact h
        · rename_i hfree
          split
          · exact inv_fail world h others_same hstage.1 _
          · exact inv_goTo world h (others_of_free hfree) (fun _ => rfl) hstage
  | check =>
      rw [hpoint] at hstage
      have hlock := hlocked (hpoint ▸ rfl)
      dsimp only
      split
      · exact inv_fail world h (others_of_lock hlock) hstage.1 _
      · exact inv_goTo world h others_same (fun _ => hlock) hstage
  | checking writes =>
      rw [hpoint] at hstage
      have hlock := hlocked (hpoint ▸ rfl)
      dsimp only
      split
      · exact inv_fail world h (others_of_lock hlock) hstage.1 _
      · exact inv_goTo world h others_same (fun _ => hlock) hstage
  | writeTemp =>
      rw [hpoint] at hstage
      have hlock := hlocked (hpoint ▸ rfl)
      dsimp only
      split
      · exact inv_fail world h (others_of_lock hlock) hstage.1 _
      · exact inv_goTo world h others_same (fun _ => hlock) hstage
  | recheck =>
      rw [hpoint] at hstage
      have hlock := hlocked (hpoint ▸ rfl)
      dsimp only
      split
      · exact inv_fail world h (others_of_lock hlock) hstage.1 _
      · refine inv_record h others_same (fun _ => hlock) nofun (fun hne => absurd rfl hne) rfl
          (fun _ _ => rfl) ⟨hstage.1.append nofun, hstage.2.append, world.log, [], ⟨rfl, nofun⟩,
            rfl⟩
  | rechecking writes =>
      rw [hpoint] at hstage
      have hlock := hlocked (hpoint ▸ rfl)
      obtain ⟨huntouched, hsecured, before, since, hwindow, hcount⟩ := hstage
      dsimp only
      split
      · exact inv_fail world h (others_of_lock hlock) huntouched _
      · rename_i hverified
        refine inv_goTo world h others_same (fun _ => hlock)
          ⟨huntouched, hsecured, before, since, hwindow,
          fun hcalm => ?_⟩
        -- nobody wrote, so the read has seen the note
        have hwrites : world.writes = writes := by
          rw [World.writes, hwindow.log, List.countP_append, List.countP_cons, hcount]
          have hnone : since.countP Record.isExternal = 0 :=
            List.countP_eq_zero.mpr fun record hrecord => by simp [hcalm record hrecord]
          rw [hnone]
          rfl
        have hrevision := verifyExpected_eq_none hverified
        rwa [World.readSince, if_pos hwrites] at hrevision
  | verifyTemp =>
      rw [hpoint] at hstage
      have hlock := hlocked (hpoint ▸ rfl)
      dsimp only
      split
      · exact inv_fail world h (others_of_lock hlock) hstage.1 _
      · exact inv_goTo world h others_same (fun _ => hlock) hstage
  | rename =>
      rw [hpoint] at hstage
      have hlock := hlocked (hpoint ▸ rfl)
      dsimp only
      split
      · exact inv_fail world h (others_of_lock hlock) hstage.1 _
      · refine inv_record h others_same (fun _ => hlock)
          (fun j hj hsame => hj (Option.some.inj hsame).symm) (fun _ => hlock) rfl nofun
          ⟨world.log, world.note, [], ?_⟩
        exact ⟨rfl, hstage.1, nofun, h.note, hstage.2.1, hstage.2.2⟩
  | sync =>
      rw [hpoint] at hstage
      exact inv_goTo world h others_same (fun _ => hlocked (hpoint ▸ rfl)) hstage
  | verifying synced writes =>
      rw [hpoint] at hstage
      have hothers : ∀ j, j ≠ index → world.mutationLock = some j → none = some j :=
        others_of_lock (hlocked (hpoint ▸ rfl))
      dsimp only
      refine inv_goTo world h hothers nofun ?_
      rw [replacementOutcome.eq_def]
      split
      · exact hstage
      · exact fun hknown => absurd rfl hknown
  | done result => exact h

theorem inv_step (h : Inv blake3 note₀ world) (event : Event) :
    Inv blake3 note₀ (step blake3 path world event) := by
  cases event with
  | call index text expected =>
      rw [step]
      split
      · exact h
      · rename_i hnone
        exact inv_goTo world h others_same nofun (h.fresh hnone)
  | act index answers =>
      rw [step]
      split
      · exact h
      · rename_i call hat
        exact inv_advance h hat answers
  | external bytes =>
      exact
        { locked := h.locked
          note := by
            show bytes = noteAfter note₀ (world.log ++ [.external bytes])
            rw [noteAfter_append]
            rfl
          fresh := fun hnone => (h.fresh hnone).append nofun
          stage := fun hat => (h.stage hat).append nofun (fun _ => rfl) nofun }

theorem inv_run (events : List Event) :
    Inv blake3 note₀ (Runs.run (step blake3 path) (World.initial note₀) events) :=
  Runs.run_induction (P := Inv blake3 note₀) (fun _ event h => inv_step h event) events inv_initial

end Steps

/-! ## What a run leaves -/

section Runs

variable {blake3 : Blake3} {path : Text} {note₀ : List UInt8} {world : World} {index : ℕ}
  {call : SaveNote} {log : List Record} {expected : FileRevision}

/-- The save has, from before its replacement, a snapshot of the revision it expected; these
are the bytes it replaced if nobody else wrote behind its last check. -/
def Preserved (blake3 : Blake3) (log : List Record) (index : ℕ) (call : SaveNote) : Prop :=
  ∃ pre displaced post payload before since,
    log = pre ++ .replaced index displaced call.text :: post ∧
    .published index payload ∈ pre ∧ .fromBytes blake3 payload = call.expected ∧
    pre = before ++ .checking index :: since ∧
    (Calm since → .fromBytes blake3 displaced = call.expected ∧
      ((blake3 displaced = blake3 payload → displaced = payload) → displaced = payload))

/-- Another program wrote the note, or a save wrote bytes of the expected revision. -/
def GivenBack (blake3 : Blake3) (expected : FileRevision) (log : List Record) : Prop :=
  ∃ record ∈ log, record.isExternal = true ∨
    ∃ bytes ∈ record.written, .fromBytes blake3 bytes = expected

theorem Replaced.preserved {pre post : List Record} {displaced : List UInt8}
    (h : Replaced blake3 note₀ log index call.expected pre displaced call.text post) :
    Preserved blake3 log index call := by
  obtain ⟨payload, hpublished, hrevision⟩ := h.secured
  obtain ⟨before, since, hwindow, hcalm⟩ := h.checked
  refine ⟨pre, displaced, post, payload, before, since, h.log, hpublished, hrevision, hwindow.log,
    fun hquiet => ⟨hcalm hquiet, fun hinjective => hinjective (hexBlake3_inj ?_)⟩⟩
  exact congrArg FileRevision.hex ((hcalm hquiet).trans hrevision.symm)

/-- Before a second replacement for one expected revision the note has got it back. -/
theorem Replaced.givenBack {pre post first between : List Record} {i : ℕ}
    {displaced text displaced' text' : List UInt8}
    (h : Replaced blake3 note₀ log index expected pre displaced text post)
    (hpre : pre = first ++ .replaced i displaced' text' :: between) :
    GivenBack blake3 expected (.replaced i displaced' text' :: between) := by
  obtain ⟨before, since, hwindow, hcalm⟩ := h.checked
  have hsince : since <:+ between := by
    have hlog := hpre.symm.trans hwindow.log
    rcases List.append_eq_append_iff.mp hlog with ⟨c, -, hc⟩ | ⟨c, -, hc⟩
    · cases c with
      | nil => cases hc
      | cons record c =>
          obtain ⟨rfl, rfl⟩ := List.cons.inj hc
          exact ⟨c ++ [.checking index], by simp⟩
    · -- the lock was held from the check on
      cases c with
      | nil => cases hc
      | cons record c =>
          obtain ⟨rfl, rfl⟩ := List.cons.inj hc
          have halone := hwindow.alone (.replaced i displaced' text') (by simp)
          cases halone
  by_cases hquiet : Calm since
  · have hnote : displaced = noteAfter text' between := by
      rw [h.bytes, hpre, noteAfter_append]
      rfl
    rcases @noteAfter_cases text' between with hsame | ⟨record, hrecord, hwritten⟩
    · refine ⟨.replaced i displaced' text', List.mem_cons_self, Or.inr ⟨text', rfl, ?_⟩⟩
      rw [← hsame, ← hnote]
      exact hcalm hquiet
    · refine ⟨record, List.mem_cons_of_mem _ hrecord, Or.inr ⟨_, hwritten, ?_⟩⟩
      rw [← hnote]
      exact hcalm hquiet
  · rw [Calm] at hquiet
    push Not at hquiet
    obtain ⟨record, hrecord, hexternal⟩ := hquiet
    exact ⟨record, List.mem_cons_of_mem _ (hsince.subset hrecord),
      Or.inl (Bool.eq_true_of_not_eq_false hexternal)⟩

/-- The first of two saves replaced the note, then the second did, and in between another
program wrote it or a save gave it the expected revision. -/
def OneAfterTheOther (blake3 : Blake3) (log : List Record) (i j : ℕ) (expected : FileRevision) :
    Prop :=
  ∃ pre displaced text between displaced' text' post,
    log = pre ++ .replaced i displaced text :: between ++ .replaced j displaced' text' :: post ∧
    GivenBack blake3 expected (.replaced i displaced text :: between)

/-- Two replacements stand one after the other. -/
theorem oneAfterTheOther {i j : ℕ} {preᵢ displacedᵢ textᵢ postᵢ preⱼ displacedⱼ textⱼ postⱼ}
    (hi : Replaced blake3 note₀ log i expected preᵢ displacedᵢ textᵢ postᵢ)
    (hj : Replaced blake3 note₀ log j expected preⱼ displacedⱼ textⱼ postⱼ) (hne : i ≠ j) :
    OneAfterTheOther blake3 log i j expected ∨ OneAfterTheOther blake3 log j i expected := by
  have hlog := hi.log.symm.trans hj.log
  rcases List.append_eq_append_iff.mp hlog with ⟨c, hc, hrest⟩ | ⟨c, hc, hrest⟩
  · cases c with
    | nil =>
        cases hrest
        exact absurd rfl hne
    | cons record c =>
        obtain ⟨rfl, rfl⟩ := List.cons.inj hrest
        refine Or.inl ⟨preᵢ, displacedᵢ, textᵢ, c, displacedⱼ, textⱼ, postⱼ, ?_, hj.givenBack hc⟩
        rw [hj.log, hc]
  · cases c with
    | nil =>
        cases hrest
        exact absurd rfl hne
    | cons record c =>
        obtain ⟨rfl, rfl⟩ := List.cons.inj hrest
        refine Or.inr ⟨preⱼ, displacedⱼ, textⱼ, c, displacedᵢ, textᵢ, postᵢ, ?_, hi.givenBack hc⟩
        rw [hi.log, hc]

/-- The call has ended with this result. -/
def World.Returned (world : World) (index : ℕ) (call : SaveNote)
    (result : Except AppError SaveNoteDto) : Prop :=
  world.At index call ∧ call.point = .done result

/-- **What saves leave behind.**  A save that returns `Ok` has its snapshot, two saves of one
expected revision return `Ok` only if the note had got it back, and a save that fails with a
known outcome has written nothing; whatever the order of the steps, and whoever writes. -/
theorem saved_versions_are_kept (note₀ : List UInt8) (events : List Event) :
    let world := Runs.run (step blake3 path) (World.initial note₀) events
    world.note = noteAfter note₀ world.log ∧
      (∀ index call dto, world.Returned index call (.ok dto) →
        Preserved blake3 world.log index call) ∧
      (∀ i j callᵢ callⱼ dtoᵢ dtoⱼ, i ≠ j → world.Returned i callᵢ (.ok dtoᵢ) →
        world.Returned j callⱼ (.ok dtoⱼ) → callᵢ.expected = callⱼ.expected →
        OneAfterTheOther blake3 world.log i j callᵢ.expected ∨
          OneAfterTheOther blake3 world.log j i callᵢ.expected) ∧
      ∀ index call error, world.Returned index call (.error error) →
        error ≠ .writeOutcomeUnknown → Untouched world.log index := by
  intro world
  have hinv : Inv blake3 note₀ world := inv_run events
  have hreplaced : ∀ {index call dto}, world.Returned index call (.ok dto) →
      ∃ pre displaced post, Replaced blake3 note₀ world.log index call.expected pre displaced
        call.text post := by
    intro index call dto hreturned
    have hstage := hinv.stage hreturned.1
    rwa [hreturned.2] at hstage
  refine ⟨hinv.note, fun index call dto hreturned => ?_, ?_, ?_⟩
  · obtain ⟨pre, displaced, post, h⟩ := hreplaced hreturned
    exact h.preserved
  · intro i j callᵢ callⱼ dtoᵢ dtoⱼ hne hi hj hexpected
    obtain ⟨preᵢ, displacedᵢ, postᵢ, hi⟩ := hreplaced hi
    obtain ⟨preⱼ, displacedⱼ, postⱼ, hj⟩ := hreplaced hj
    exact oneAfterTheOther hi (hexpected.symm ▸ hj) hne
  · intro index call error hreturned hknown
    have hstage := hinv.stage hreturned.1
    rw [hreturned.2] at hstage
    exact hstage hknown

end Runs

/-! ## A write that is lost -/

/-- A step that goes well. -/
def wellDone : Answers where
  admission := none
  core := none
  recoveryFails := false
  bytes := []
  sync := .ok .fullySynced

/-- A digest that tells the short notes below apart. -/
def firstByte : Blake3 := fun bytes => List.Vector.cons (bytes.headD 0) (List.Vector.replicate 31 0)

/-- A save of `b` over `a`; another program writes `x` behind its last check. -/
def disturbedSave : List Event :=
  .call 0 [0x62] (.fromBytes firstByte [0x61]) ::
    List.replicate 10 (.act 0 wellDone) ++
    .external [0x78] :: List.replicate 5 (.act 0 wellDone)

/-- A save of `a` over `a`, and then a save of `b` that expects `a` too. -/
def repeatedSave : List Event :=
  .call 0 [0x61] (.fromBytes firstByte [0x61]) :: List.replicate 15 (.act 0 wellDone) ++
    .call 1 [0x62] (.fromBytes firstByte [0x61]) :: List.replicate 15 (.act 1 wellDone)

/-- The first save returns `Ok`, and of the bytes it replaced nobody has a snapshot; the
second and the third expect one revision, write different texts, and both return `Ok`. -/
theorem saved_over_another_write :
    (∃ call dto, (Runs.run (step firstByte []) (World.initial [0x61]) disturbedSave).Returned 0
        call (.ok dto) ∧
      (Runs.run (step firstByte []) (World.initial [0x61]) disturbedSave).log =
        [.published 0 [0x61], .checking 0, .external [0x78], .replaced 0 [0x78] [0x62]]) ∧
    ∃ call dto call' dto',
      (Runs.run (step firstByte []) (World.initial [0x61]) repeatedSave).Returned 0 call
        (.ok dto) ∧
      (Runs.run (step firstByte []) (World.initial [0x61]) repeatedSave).Returned 1 call'
        (.ok dto') ∧
      call.expected = call'.expected ∧ call.text ≠ call'.text :=
  ⟨⟨_, _, ⟨rfl, rfl⟩, rfl⟩, _, _, _, _, ⟨rfl, rfl⟩, ⟨rfl, rfl⟩, rfl, by decide⟩

end Service
end MyVault
