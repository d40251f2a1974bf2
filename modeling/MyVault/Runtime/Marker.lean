import MyVault.Runtime.Commands

/-!
# Who holds the running marker

`transfer_running_session` is a lock in all but two sections.  `detach_store` takes a store
that is still open without looking at the marker, so a scan that started before a disconnect
takes over the disconnect's marker.  And a disconnect whose finalization fails after it has
given the marker back clears the marker once more, if its session holds it by then.  A run
whose sections stay clear of these two keeps the lock in every state, and a section that
does not breaks it (`marker_is_exclusive_iff`).

## One command at a time

A command is a sequence of sections, each under the mutex, and between them any others may run.
`Locked` is the property: at most one command is at a point where it holds the marker, and the
marker names the session of that one.  `KeepsLock` says what the marker promises of a step, and
`OrderlyAt` which sections stay clear of a marker that is not their own.

What one section does is said once for all of them (`Sound`): the marker afterwards is its own or
what it was before, and a store is detached by a command that has the marker then.  `Guarded` adds
to the lock that nobody has opened a store next to a detached one, and it is kept by every orderly
section.  For the converse, each of the two disorderly sections breaks the lock in the very step,
whatever the answers.
-/

namespace MyVault
namespace Runtime

/-! ## The lock and what it promises -/

/-- The command has set the marker and has neither given it back nor lost it. -/
def Point.holds : Point → Bool
  | .detached _ _ => true
  | .revoke _ => true
  | .disconnectCleanup _ holding => holding
  | _ => false

/-- The `index`-th command is at this point. -/
def World.At (world : World) (index : ℕ) (command : Command) : Prop :=
  world.commands index = some command

/-- The marker is that of the one command that holds it. -/
structure Locked (world : World) : Prop where
  exclusive : ∀ {i j c d}, world.At i c → world.At j d → c.point.holds = true →
    d.point.holds = true → i = j
  owned : ∀ sessionId, world.state.transferRunningSession = some sessionId ↔
    ∃ i c, world.At i c ∧ c.point.holds = true ∧ c.sessionId = sessionId

/-- The command discards its store instead of putting it back. -/
def Discards (answers : Answers) : Detacher → Prop
  | .scanStep => answers.outside = none ∧ answers.lease.isSome = true
  | .runGuarded => answers.outside.isSome = true ∨ answers.lease.isSome = true

/-- What the marker promises of a step. -/
structure KeepsLock (world : World) (event : Event) : Prop where
  before : Locked world
  after : Locked (step world event)
  /-- Only the command that holds the marker clears or replaces it. -/
  cleared : ∀ {index answers command}, event = .act index answers → world.At index command →
    world.state.transferRunningSession.isSome = true →
    (step world event).state.transferRunningSession ≠ world.state.transferRunningSession →
    command.point.holds = true
  /-- No store of a vault is opened while one of it is detached. -/
  alone : ∀ {index answers command}, event = .act index answers → world.At index command →
    (step world event).state.opened ≠ world.state.opened →
    ∀ {other d detacher active}, world.At other d → d.point = .detached detacher active →
      active.vaultId ≠ command.vaultId
  /-- A detached store is put back or discarded, and the marker with it. -/
  settled : ∀ {index answers command detacher active}, event = .act index answers →
    world.At index command → command.point = .detached detacher active →
    (Discards answers detacher →
      (step world event).state = { world.state with transferRunningSession := none }) ∧
    (¬ Discards answers detacher → (step world event).state =
      { world.state with active := some active, transferRunningSession := none })

/-- The section stays clear of a marker that is not the command's own: a store is detached
when nobody holds the marker, and a disconnect that has given the marker back finds no
marker of its session. -/
def OrderlyAt (command : Command) (answers : Answers) (state : AndroidSyncState) : Prop :=
  match command.point with
  | .detach _ => answers.outside = none →
      state.matches command.sessionId command.vaultId = true →
        state.transferRunningSession = none
  | .disconnectCleanup _ false => state.transferRunningSession ≠ some command.sessionId
  | _ => True

/-- An event that lets no command take the marker of another. -/
def Orderly (world : World) : Event → Prop
  | .call _ _ _ _ => True
  | .act index answers => ∀ command, world.At index command →
      OrderlyAt command answers world.state

/-! ## What one section does -/

section Sections

variable {sessionId : VaultSessionId} {vaultId : Uuid} {answers : Answers}
  {state state' : AndroidSyncState}

/-- Behind `ensure_store` the marker is as before; with a marker and no open store, all is. -/
theorem ensureStore_marker :
    (ensureStore sessionId vaultId answers state).2.transferRunningSession =
      state.transferRunningSession := by
  rw [ensureStore]
  split
  · rfl
  · split
    · rfl
    · split <;> rfl

theorem ensureStore_quiet (hmarker : state.transferRunningSession ≠ none) :
    (ensureStore sessionId vaultId answers state).2 = state := by
  rw [ensureStore]
  split
  · rfl
  · rw [if_pos (Option.isSome_iff_ne_none.mpr hmarker)]

theorem readStore_state : (readStore sessionId vaultId answers state).2 =
    (ensureStore sessionId vaultId answers state).2 := by
  rw [readStore]
  split
  · rename_i h
    rw [h]
  · rename_i h
    split <;> rw [h]

/-- A store is detached from a state without a marker, or one that still has it open. -/
theorem detachStore_ok {active : AndroidActiveSync}
    (h : detachStore sessionId vaultId answers state = (.ok active, state')) :
    (state.matches sessionId vaultId = true ∨ state.transferRunningSession = none) ∧
      active.sessionId = sessionId ∧ state'.active = none ∧
      state'.transferRunningSession = some sessionId ∧
      (state.transferRunningSession ≠ none → state'.opened = state.opened) := by
  rw [detachStore, ensureStore] at h
  by_cases hmatches : state.matches sessionId vaultId = true
  · rw [if_pos hmatches] at h
    dsimp only at h
    split at h
    · cases h
    · rename_i found hfound
      cases h
      refine ⟨Or.inl hmatches, ?_, rfl, rfl, fun _ => rfl⟩
      rw [AndroidSyncState.matches, hfound, Option.any_some, Bool.and_eq_true,
        beq_iff_eq] at hmatches
      exact hmatches.1
  · rw [if_neg hmatches] at h
    by_cases hmarker : state.transferRunningSession = none
    · rw [hmarker] at h
      cases hopens : answers.opens with
      | false =>
          rw [hopens] at h
          cases h
      | true =>
          rw [hopens] at h
          cases h
          exact ⟨Or.inr hmarker, rfl, rfl, rfl, fun hne => absurd hmarker hne⟩
    · rw [if_pos (Option.isSome_iff_ne_none.mpr hmarker)] at h
      cases h

theorem detachStore_error {error : SyncCommandError}
    (h : detachStore sessionId vaultId answers state = (.error error, state')) :
    state' = (ensureStore sessionId vaultId answers state).2 := by
  rw [detachStore] at h
  split at h
  · rename_i hensure
    cases h
    rw [hensure]
  · rename_i hensure
    split at h
    · cases h
      rw [hensure]
    · cases h

end Sections

/-! ## The sections of a command that neither takes nor holds the marker -/

/-- The marker is untouched, and where there is one the store is as well. -/
structure Passive (state state' : AndroidSyncState) : Prop where
  marker : state'.transferRunningSession = state.transferRunningSession
  store : state.transferRunningSession ≠ none →
    state'.active = state.active ∧ state'.opened = state.opened

theorem Passive.refl (state : AndroidSyncState) : Passive state state :=
  ⟨rfl, fun _ => ⟨rfl, rfl⟩⟩

theorem Passive.trans {s₁ s₂ s₃ : AndroidSyncState} (h : Passive s₁ s₂) (h' : Passive s₂ s₃) :
    Passive s₁ s₃ where
  marker := h'.marker.trans h.marker
  store hmarker := by
    obtain ⟨hactive, hopened⟩ := h.store hmarker
    obtain ⟨hactive', hopened'⟩ := h'.store (h.marker ▸ hmarker)
    exact ⟨hactive'.trans hactive, hopened'.trans hopened⟩

/-- Writing the other fields is passive. -/
theorem Passive.write (state : AndroidSyncState) (accountId rootName : Option String)
    (authorization : Option Authorization) :
    Passive state { state with accountId, rootName, authorization } :=
  ⟨rfl, fun _ => ⟨rfl, rfl⟩⟩

theorem passive_ensureStore {sessionId : VaultSessionId} {vaultId : Uuid} {answers : Answers}
    {state : AndroidSyncState} : Passive state (ensureStore sessionId vaultId answers state).2 where
  marker := ensureStore_marker
  store hmarker := by
    rw [ensureStore_quiet hmarker]
    exact ⟨rfl, rfl⟩

variable {command : Command} {answers : Answers} {state state' : AndroidSyncState}

theorem passive_ensureAndRead : Passive state (command.ensureAndRead answers state).2 := by
  rw [Command.ensureAndRead, readStore_state]
  exact passive_ensureStore

/-- A section that starts and ends without the marker. -/
structure Idle (state : AndroidSyncState) (result : AndroidSyncState × Point) : Prop where
  passive : Passive state result.1
  idle : result.2.holds = false

/-- What follows the reads is idle if both of its ways are. -/
theorem idle_of_ensureAndRead {start : AndroidSyncState} (hstart : Passive state start)
    {fails : SyncCommandError → AndroidSyncState → AndroidSyncState × Point}
    {goes : AndroidSyncState → AndroidSyncState × Point}
    (hfails : ∀ error state', Idle state' (fails error state'))
    (hgoes : ∀ state', Idle state' (goes state')) :
    Idle state (match command.ensureAndRead answers start with
      | (.error error, state') => fails error state'
      | (.ok (), state') => goes state') := by
  have hread : Passive start (command.ensureAndRead answers start).2 := passive_ensureAndRead
  split
  · rename_i h
    rw [h] at hread
    exact ⟨(hstart.trans hread).trans (hfails _ _).passive, (hfails _ _).idle⟩
  · rename_i h
    rw [h] at hread
    exact ⟨(hstart.trans hread).trans (hgoes _).passive, (hgoes _).idle⟩

theorem idle_done {result : Except SyncCommandError Unit} : Idle state (state, .done result) :=
  ⟨.refl state, rfl⟩

theorem idle_finishWith {start : AndroidSyncState} (hstart : Passive state start) :
    Idle state (Command.finishWith (command.ensureAndRead answers start)) :=
  ⟨hstart.trans passive_ensureAndRead, rfl⟩

theorem idle_beginSection {detacher : Detacher} :
    Idle state (command.beginSection answers state detacher) := by
  cases detacher with
  | scanStep =>
      rw [Command.beginSection]
      refine idle_of_ensureAndRead (.refl state) (fun _ _ => idle_done) fun state' => ?_
      split
      · exact idle_done
      · exact ⟨.refl state', rfl⟩
  | runGuarded =>
      rw [Command.beginSection]
      split
      · exact idle_done
      · exact idle_of_ensureAndRead (.refl state) (fun _ _ => idle_done)
          fun state' => ⟨.refl state', rfl⟩

/-- The sections that have nothing to do with the marker. -/
def Point.idles : Point → Bool
  | .detach _ => false
  | .disconnect => false
  | .disconnectCleanup _ _ => false
  | point => !point.holds

theorem idle_advance (h : command.point.idles = true) :
    Idle state (command.advance answers state) := by
  rw [Command.advance]
  cases hpoint : command.point with
  | status =>
      dsimp only
      split
      · exact idle_done
      · exact idle_finishWith (.refl state)
  | preview => exact idle_finishWith (.refl state)
  | connect =>
      exact idle_of_ensureAndRead (.refl state) (fun _ _ => idle_done)
        fun state' => ⟨.refl state', rfl⟩
  | connectFinish =>
      dsimp only
      split
      · exact idle_done
      · exact ⟨.refl state, rfl⟩
      · exact idle_of_ensureAndRead (.refl state) (fun _ state' => ⟨.refl state', rfl⟩)
          fun state' => ⟨.write state' _ _ _, rfl⟩
  | connectCleanup error =>
      dsimp only
      split
      · rename_i hfree
        -- without a marker the store may go
        exact ⟨⟨rfl, fun hmarker => absurd (Option.isNone_iff_eq_none.mp hfree.1) hmarker⟩, rfl⟩
      · exact idle_done
  | listFolders =>
      dsimp only
      split
      · exact idle_done
      · exact idle_done
      · split
        · exact ⟨.refl state, rfl⟩
        · exact idle_done
  | listFoldersFinish =>
      dsimp only
      split
      · exact idle_done
      · exact idle_done
      · exact ⟨.write state _ _ _, rfl⟩
  | bindRoot =>
      dsimp only
      split
      · exact idle_done
      · exact idle_done
      · split
        · exact idle_done
        · exact idle_of_ensureAndRead (.refl state) (fun _ _ => idle_done)
            fun state' => ⟨.write state' _ _ _, rfl⟩
  | begin detacher => exact idle_beginSection
  | finish detacher =>
      cases detacher with
      | scanStep => exact idle_finishWith (.write state _ _ _)
      | runGuarded => exact idle_finishWith (.write state _ _ _)
  | done result => exact idle_done
  | detach detacher => rw [hpoint] at h; cases h
  | detached detacher active => rw [hpoint] at h; cases h
  | disconnect => rw [hpoint] at h; cases h
  | revoke authorization => rw [hpoint] at h; cases h
  | disconnectCleanup error holding => rw [hpoint] at h; cases h

/-! ## Any section -/

/-- The command is where the lock lets it be: it has the marker it holds, and its detached
store is the only one. -/
structure Settled (command : Command) (state : AndroidSyncState) : Prop where
  marker : command.point.holds = true →
    state.transferRunningSession = some command.sessionId
  store : ∀ detacher active, command.point = .detached detacher active →
    state.active = none ∧ active.sessionId = command.sessionId

/-- What a section does to the marker and the store. -/
structure Sound (command : Command) (answers : Answers) (state : AndroidSyncState)
    (result : AndroidSyncState × Point) : Prop where
  marker : result.1.transferRunningSession =
    if result.2.holds then some command.sessionId
    else if command.point.holds then none else state.transferRunningSession
  free : result.2.holds = true → command.point.holds = true ∨
    state.transferRunningSession = none
  quiet : command.point.holds = false → state.transferRunningSession ≠ none →
    state.active = none → result.1.active = none ∧ result.1.opened = state.opened
  detaches : ∀ detacher active, result.2 = .detached detacher active →
    result.1.active = none ∧ active.sessionId = command.sessionId
  settled : ∀ detacher active, command.point = .detached detacher active →
    (Discards answers detacher → result.1 = { state with transferRunningSession := none }) ∧
    (¬ Discards answers detacher →
      result.1 = { state with active := some active, transferRunningSession := none })

theorem Sound.of_idle {result : AndroidSyncState × Point} (hstart : command.point.holds = false)
    (h : Idle state result) : Sound command answers state result where
  marker := by
    rw [h.idle, hstart, h.passive.marker]
    rfl
  free hholds := by
    rw [h.idle] at hholds
    cases hholds
  quiet _ hmarker hactive := by
    obtain ⟨hsame, hopened⟩ := h.passive.store hmarker
    exact ⟨hsame.trans hactive, hopened⟩
  detaches detacher active hpoint := by
    have hidle := h.idle
    rw [hpoint] at hidle
    cases hidle
  settled detacher active hpoint := by
    rw [hpoint] at hstart
    cases hstart

theorem sound_detach {detacher : Detacher} (hpoint : command.point = .detach detacher)
    (horderly : answers.outside = none →
      state.matches command.sessionId command.vaultId = true →
        state.transferRunningSession = none) :
    Sound command answers state (command.advance answers state) := by
  have hstart : command.point.holds = false := by
    rw [hpoint]
    rfl
  rw [Command.advance, hpoint]
  dsimp only
  split
  · exact .of_idle hstart idle_done
  · rename_i houtside
    split
    · rename_i hdetach
      rw [detachStore_error hdetach]
      exact .of_idle hstart ⟨passive_ensureStore, rfl⟩
    · rename_i active _ hdetach
      obtain ⟨hfrom, hsession, hactive, hmarker, -⟩ := detachStore_ok hdetach
      have hfree : state.transferRunningSession = none := hfrom.elim (horderly houtside) id
      refine
        { marker := hmarker
          free := fun _ => Or.inr hfree
          quiet := fun _ hne => absurd hfree hne
          detaches := ?_
          settled := fun _ _ h => ?_ }
      · rintro _ _ ⟨⟩
        exact ⟨hactive, hsession⟩
      · rw [hpoint] at h
        cases h

theorem awaits_of_settled {detacher : Detacher} {active : AndroidActiveSync}
    (h : Settled command state) (hpoint : command.point = .detached detacher active) :
    state.awaits active = true := by
  obtain ⟨hactive, hsession⟩ := h.store detacher active hpoint
  have hmarker := h.marker (hpoint ▸ rfl)
  rw [AndroidSyncState.awaits, hactive, hmarker, hsession]
  simp

/-- The store comes back, or is discarded, and the marker goes. -/
theorem sound_detached {detacher : Detacher} {active : AndroidActiveSync}
    (h : Settled command state) (hpoint : command.point = .detached detacher active) :
    Sound command answers state (command.advance answers state) := by
  have hawaits := awaits_of_settled h hpoint
  have hdiscard : ∀ error, Command.discardSection state active error =
      ({ state with transferRunningSession := none }, .done (.error error)) := by
    intro error
    rw [Command.discardSection, discardStore, if_pos hawaits]
  have hrestore : restoreInner active state =
      (.ok (), { state with active := some active, transferRunningSession := none }) := by
    rw [restoreInner, if_pos hawaits]
  -- the four ways out
  have hsettle : (Discards answers detacher ∧ ∃ error, command.advance answers state =
        ({ state with transferRunningSession := none }, .done (.error error))) ∨
      (¬ Discards answers detacher ∧ ∃ point, point.holds = false ∧
        command.advance answers state =
          ({ state with active := some active, transferRunningSession := none }, point)) := by
    rw [Command.advance, hpoint]
    dsimp only
    rw [Command.settleSection]
    cases houtside : answers.outside with
    | some error =>
        cases detacher with
        | scanStep =>
            refine Or.inr ⟨fun hdiscards => ?_, .done (.error error), rfl, ?_⟩
            · rw [hdiscards.1] at houtside
              cases houtside
            · rw [hrestore]
        | runGuarded => exact Or.inl ⟨Or.inl (houtside ▸ rfl), error, hdiscard error⟩
    | none =>
        cases hlease : answers.lease with
        | some error =>
            refine Or.inl ⟨?_, error, hdiscard error⟩
            cases detacher with
            | scanStep => exact ⟨houtside, hlease ▸ rfl⟩
            | runGuarded => exact Or.inr (hlease ▸ rfl)
        | none =>
            refine Or.inr ⟨fun hdiscards => ?_, .finish detacher, rfl, ?_⟩
            · cases detacher with
              | scanStep =>
                  rw [Discards, hlease] at hdiscards
                  cases hdiscards.2
              | runGuarded =>
                  rw [Discards, houtside, hlease] at hdiscards
                  rcases hdiscards with hfalse | hfalse <;> cases hfalse
            · dsimp only
              rw [hrestore]
  have hholds : command.point.holds = true := hpoint ▸ rfl
  have hown : ∀ detacher' active', command.point = .detached detacher' active' →
      detacher = detacher' ∧ active = active' := by
    intro detacher' active' hsame
    rw [hpoint] at hsame
    cases hsame
    exact ⟨rfl, rfl⟩
  rcases hsettle with ⟨hdiscards, error, hadvance⟩ | ⟨hkeeps, point, hpoint', hadvance⟩
  · rw [hadvance]
    refine
      { marker := by rw [hholds]; rfl
        free := fun hfalse => Bool.noConfusion hfalse
        quiet := fun hfalse => absurd (hholds.symm.trans hfalse) (by decide)
        detaches := fun _ _ hfalse => Point.noConfusion hfalse
        settled := fun detacher' active' hsame => ?_ }
    obtain ⟨rfl, rfl⟩ := hown detacher' active' hsame
    exact ⟨fun _ => rfl, fun hnot => absurd hdiscards hnot⟩
  · rw [hadvance]
    refine
      { marker := by rw [hholds, hpoint']; rfl
        free := fun hfalse => absurd (hpoint'.symm.trans hfalse) (by decide)
        quiet := fun hfalse => absurd (hholds.symm.trans hfalse) (by decide)
        detaches := fun _ _ hsame => ?_
        settled := fun detacher' active' hsame => ?_ }
    · dsimp only at hsame
      rw [hsame] at hpoint'
      cases hpoint'
    · obtain ⟨rfl, rfl⟩ := hown detacher' active' hsame
      exact ⟨fun hdiscards => absurd hdiscards hkeeps, fun _ => rfl⟩

/-- A command that has held the marker and is done with it. -/
theorem Sound.of_released {result : AndroidSyncState × Point}
    (hstart : command.point.holds = true)
    (hstore : ∀ detacher active, command.point ≠ .detached detacher active)
    (hmarker : result.1.transferRunningSession = none) (hnext : result.2.holds = false) :
    Sound command answers state result where
  marker := by
    rw [hmarker, hnext, hstart]
    rfl
  free hholds := absurd (hnext.symm.trans hholds) (by decide)
  quiet hfalse := absurd (hstart.symm.trans hfalse) (by decide)
  detaches detacher active hpoint := by
    rw [hpoint] at hnext
    cases hnext
  settled detacher active hpoint := absurd hpoint (hstore detacher active)

theorem sound_revoke {authorization : Option Authorization} (h : Settled command state)
    (hpoint : command.point = .revoke authorization) :
    Sound command answers state (command.advance answers state) := by
  have hstart : command.point.holds = true := hpoint ▸ rfl
  have hstore : ∀ detacher active, command.point ≠ .detached detacher active := by
    intro detacher active hsame
    rw [hpoint] at hsame
    cases hsame
  have hmarker := h.marker hstart
  rw [Command.advance, hpoint]
  dsimp only
  rw [Command.revokeSection]
  by_cases hfails : authorization.isSome ∧ answers.outside.isSome
  · rw [if_pos hfails, if_pos hmarker]
    exact .of_released hstart hstore rfl rfl
  · rw [if_neg hfails]
    cases hlease : answers.lease with
    | some error =>
        exact
          { marker := hmarker
            free := fun _ => Or.inl hstart
            quiet := fun hfalse => absurd (hstart.symm.trans hfalse) (by decide)
            detaches := fun _ _ hfalse => Point.noConfusion hfalse
            settled := fun detacher active hsame => absurd hsame (hstore detacher active) }
    | none =>
        dsimp only
        rw [if_pos hmarker]
        have hread : Passive
            { state with transferRunningSession := none, accountId := none, rootName := none }
            (command.ensureAndRead answers { state with
              transferRunningSession := none, accountId := none, rootName := none }).2 :=
          passive_ensureAndRead
        split
        · rename_i hensure
          rw [hensure] at hread
          exact .of_released hstart hstore hread.marker rfl
        · rename_i hensure
          rw [hensure] at hread
          exact .of_released hstart hstore hread.marker rfl

theorem sound_disconnect (hpoint : command.point = .disconnect) :
    Sound command answers state (command.advance answers state) := by
  have hstart : command.point.holds = false := hpoint ▸ rfl
  rw [Command.advance, hpoint]
  dsimp only
  split
  · exact .of_idle hstart idle_done
  · rename_i hfree
    rw [Bool.not_eq_true, Option.isSome_eq_false_iff, Option.isNone_iff_eq_none] at hfree
    exact
      { marker := rfl
        free := fun _ => Or.inr hfree
        quiet := fun _ hne => absurd hfree hne
        detaches := fun _ _ hfalse => Point.noConfusion hfalse
        settled := fun _ _ hsame => by
          rw [hpoint] at hsame
          cases hsame }

theorem sound_disconnectCleanup {error : SyncCommandError} {holding : Bool}
    (h : Settled command state) (hpoint : command.point = .disconnectCleanup error holding)
    (horderly : holding = false → state.transferRunningSession ≠ some command.sessionId) :
    Sound command answers state (command.advance answers state) := by
  rw [Command.advance, hpoint]
  dsimp only
  rw [clearMarker]
  cases holding with
  | false =>
      rw [if_neg (horderly rfl)]
      exact .of_idle (hpoint ▸ rfl) idle_done
  | true =>
      have hstart : command.point.holds = true := hpoint ▸ rfl
      rw [if_pos (h.marker hstart)]
      refine .of_released hstart (fun detacher active hsame => ?_) rfl rfl
      rw [hpoint] at hsame
      cases hsame

/-- One case for each point of a command. -/
theorem sound_advance (h : Settled command state) (horderly : OrderlyAt command answers state) :
    Sound command answers state (command.advance answers state) := by
  by_cases hidles : command.point.idles = true
  · refine .of_idle ?_ (idle_advance hidles)
    cases hpoint : command.point with
    | detached detacher active => rw [hpoint] at hidles; cases hidles
    | revoke authorization => rw [hpoint] at hidles; cases hidles
    | disconnectCleanup error holding => rw [hpoint] at hidles; cases hidles
    | _ => rfl
  · rw [OrderlyAt] at horderly
    cases hpoint : command.point with
    | detach detacher =>
        rw [hpoint] at horderly
        exact sound_detach hpoint horderly
    | detached detacher active => exact sound_detached h hpoint
    | revoke authorization => exact sound_revoke h hpoint
    | disconnect => exact sound_disconnect hpoint
    | disconnectCleanup error holding =>
        refine sound_disconnectCleanup h hpoint fun hholding => ?_
        rw [hpoint, hholding] at horderly
        exact horderly
    | _ => rw [hpoint] at hidles; exact absurd rfl hidles

/-! ## Interleavings -/

/-- The lock is held, and nobody has opened a store next to a detached one. -/
structure Guarded (world : World) : Prop where
  locked : Locked world
  store : ∀ {i c detacher active}, world.At i c → c.point = .detached detacher active →
    world.state.active = none ∧ active.sessionId = c.sessionId

variable {world : World} {index : ℕ}

theorem Guarded.settled (h : Guarded world) (hat : world.At index command) :
    Settled command world.state where
  marker hholds := (h.locked.owned command.sessionId).mpr ⟨index, command, hat, hholds, rfl⟩
  store _ _ hpoint := h.store hat hpoint

theorem at_update_iff {command' d : Command} {j : ℕ} :
    (World.mk state' (Function.update world.commands index (some command'))).At j d ↔
      (j = index ∧ d = command') ∨ (j ≠ index ∧ world.At j d) := by
  by_cases hj : j = index
  · subst hj
    simp [World.At, eq_comm]
  · simp [World.At, hj]

/-- By cases on who held the marker and who holds it now. -/
theorem Locked.act (h : Locked world) (hat : world.At index command)
    {result : AndroidSyncState × Point} (hsound : Sound command answers world.state result) :
    Locked ⟨result.1, Function.update world.commands index
      (some { command with point := result.2 })⟩ := by
  have hothers : ∀ {k d}, k ≠ index → world.At k d → d.point.holds = true →
      result.2.holds = false := by
    intro k d hk hd hholds
    by_contra hnext
    rcases hsound.free (Bool.eq_true_of_not_eq_false hnext) with hself | hfree
    · exact hk (h.exclusive hd hat hholds hself)
    · have hmarker := (h.owned d.sessionId).mpr ⟨k, d, hd, hholds, rfl⟩
      rw [hfree] at hmarker
      cases hmarker
  constructor
  · intro i j c d hc hd hci hdj
    rcases at_update_iff.mp hc with ⟨rfl, rfl⟩ | ⟨hi, hold⟩
    · rcases at_update_iff.mp hd with ⟨rfl, -⟩ | ⟨hj, hold⟩
      · rfl
      · exact absurd (hci.symm.trans (hothers hj hold hdj)) (by decide)
    · rcases at_update_iff.mp hd with ⟨rfl, rfl⟩ | ⟨-, hother⟩
      · exact absurd (hdj.symm.trans (hothers hi hold hci)) (by decide)
      · exact h.exclusive hold hother hci hdj
  · intro sessionId
    rw [hsound.marker]
    by_cases hnext : result.2.holds = true
    · rw [if_pos hnext, Option.some.injEq]
      constructor
      · rintro rfl
        exact ⟨index, _, at_update_iff.mpr (Or.inl ⟨rfl, rfl⟩), hnext, rfl⟩
      · rintro ⟨i, c, hc, hci, rfl⟩
        rcases at_update_iff.mp hc with ⟨-, rfl⟩ | ⟨hi, hc⟩
        · rfl
        · exact absurd (hnext.symm.trans (hothers hi hc hci)) (by decide)
    · rw [if_neg hnext]
      by_cases hself : command.point.holds = true
      · rw [if_pos hself]
        refine iff_of_false (by simp) ?_
        rintro ⟨i, c, hc, hci, -⟩
        rcases at_update_iff.mp hc with ⟨-, rfl⟩ | ⟨hi, hc⟩
        · exact hnext hci
        · exact hi (h.exclusive hc hat hci hself)
      · rw [if_neg hself, h.owned]
        refine exists_congr fun i => exists_congr fun c => ?_
        constructor
        · rintro ⟨hc, hci, hsession⟩
          refine ⟨at_update_iff.mpr (Or.inr ⟨?_, hc⟩), hci, hsession⟩
          rintro rfl
          rw [World.At, hat, Option.some.injEq] at hc
          exact hself (hc ▸ hci)
        · rintro ⟨hc, hci, hsession⟩
          rcases at_update_iff.mp hc with ⟨-, rfl⟩ | ⟨-, hc⟩
          · exact absurd hci hnext
          · exact ⟨hc, hci, hsession⟩

theorem step_act (hat : world.At index command) :
    step world (.act index answers) =
      ⟨(command.advance answers world.state).1, Function.update world.commands index
        (some { command with point := (command.advance answers world.state).2 })⟩ := by
  rw [step, hat]

/-- One section of a command that stays clear. -/
theorem guarded_act (h : Guarded world) (hat : world.At index command)
    (horderly : OrderlyAt command answers world.state) :
    Guarded (step world (.act index answers)) := by
  have hsound := sound_advance (h.settled hat) horderly
  rw [step_act hat]
  refine ⟨h.locked.act hat hsound, fun {i c detacher active} hc hpoint => ?_⟩
  rcases at_update_iff.mp hc with ⟨-, rfl⟩ | ⟨hi, hc⟩
  · exact hsound.detaches detacher active hpoint
  · -- somebody else's store is detached: this command does not hold the marker
    obtain ⟨hactive, hsession⟩ := h.store hc hpoint
    have hholds : c.point.holds = true := hpoint ▸ rfl
    have hidle : command.point.holds = false := by
      by_contra hself
      exact hi (h.locked.exclusive hc hat hholds (Bool.eq_true_of_not_eq_false hself))
    have hmarker := (h.locked.owned c.sessionId).mpr ⟨i, c, hc, hholds, rfl⟩
    exact ⟨(hsound.quiet hidle (by rw [hmarker]; simp) hactive).1, hsession⟩

theorem entry_holds (request : Request) : request.entry.holds = false := by
  cases request <;> rfl

/-- A new command holds nothing. -/
theorem guarded_call (h : Guarded world) (request : Request) (sessionId : VaultSessionId)
    (vaultId : Uuid) : Guarded (step world (.call index request sessionId vaultId)) := by
  rw [step]
  split
  · exact h
  · rename_i hnone
    have hsound : ∀ {j d}, (World.mk world.state (Function.update world.commands index
        (some { sessionId, vaultId, point := request.entry }))).At j d →
        d.point.holds = true → world.At j d := by
      intro j d hd hholds
      rcases at_update_iff.mp hd with ⟨-, rfl⟩ | ⟨-, hd⟩
      · exact absurd ((entry_holds request).symm.trans hholds) (by decide)
      · exact hd
    refine ⟨⟨fun hc hd hci hdj => h.locked.exclusive (hsound hc hci) (hsound hd hdj) hci hdj,
      fun session => ?_⟩, fun {i c detacher active} hc hpoint =>
        h.store (hsound hc (hpoint ▸ rfl)) hpoint⟩
    refine (h.locked.owned session).trans (exists_congr fun i => exists_congr fun c => ?_)
    constructor
    · rintro ⟨hc, hci, hsession⟩
      refine ⟨at_update_iff.mpr (Or.inr ⟨?_, hc⟩), hci, hsession⟩
      rintro rfl
      rw [World.At, hnone] at hc
      cases hc
    · rintro ⟨hc, hci, hsession⟩
      exact ⟨hsound hc hci, hci, hsession⟩

/-- An orderly step keeps the lock. -/
theorem keepsLock_of_orderly (h : Guarded world) {event : Event} (horderly : Orderly world event) :
    Guarded (step world event) ∧ KeepsLock world event := by
  cases event with
  | call index request sessionId vaultId =>
      have hnext : Guarded (step world (.call index request sessionId vaultId)) :=
        guarded_call h request sessionId vaultId
      exact ⟨hnext, h.locked, hnext.locked, nofun, nofun, nofun⟩
  | act index answers =>
      cases hcommand : world.commands index with
      | none =>
          have hstep : step world (.act index answers) = world := by rw [step, hcommand]
          refine ⟨hstep.symm ▸ h, h.locked, hstep.symm ▸ h.locked, ?_, ?_, ?_⟩
          · rintro _ _ command ⟨⟩ hat
            rw [World.At, hcommand] at hat
            cases hat
          · rintro _ _ command ⟨⟩ hat
            rw [World.At, hcommand] at hat
            cases hat
          · rintro _ _ command detacher active ⟨⟩ hat
            rw [World.At, hcommand] at hat
            cases hat
      | some command =>
          have hat : world.At index command := hcommand
          have hsound := sound_advance (h.settled hat) (horderly command hat)
          have hnext := guarded_act h hat (horderly command hat)
          have honly : ∀ {command'}, world.At index command' → command = command' := by
            intro command' hat'
            exact Option.some.inj (hat.symm.trans hat')
          refine ⟨hnext, h.locked, hnext.locked, ?_, ?_, ?_⟩
          · rintro _ _ command' ⟨⟩ hat' hmarker hchange
            obtain rfl := honly hat'
            by_contra hidle
            rw [Bool.not_eq_true] at hidle
            refine hchange ?_
            rw [step_act hat, hsound.marker, hidle]
            have hnext : (command.advance answers world.state).2.holds = false := by
              by_contra hholds
              rcases hsound.free (Bool.eq_true_of_not_eq_false hholds) with hself | hfree
              · exact absurd (hidle.symm.trans hself) (by decide)
              · rw [hfree] at hmarker
                cases hmarker
            rw [hnext]
            rfl
          · rintro _ _ command' ⟨⟩ hat' hopened other d detacher active hother hpoint -
            obtain rfl := honly hat'
            have hholds : d.point.holds = true := hpoint ▸ rfl
            have hmarker := (h.locked.owned d.sessionId).mpr ⟨other, d, hother, hholds, rfl⟩
            obtain ⟨hactive, -⟩ := h.store hother hpoint
            refine hopened ?_
            rw [step_act hat]
            by_cases hself : command.point.holds = true
            · -- the command is the one whose store is detached
              obtain rfl := h.locked.exclusive hother hat hholds hself
              obtain rfl := honly hother
              obtain ⟨hdiscard, hrestore⟩ := hsound.settled detacher active hpoint
              by_cases hdiscards : Discards answers detacher
              · rw [hdiscard hdiscards]
              · rw [hrestore hdiscards]
            · exact (hsound.quiet (by simpa using hself) (by rw [hmarker]; simp) hactive).2
          · rintro _ _ command' detacher active ⟨⟩ hat' hpoint
            obtain rfl := honly hat'
            rw [step_act hat]
            exact hsound.settled detacher active hpoint

theorem guarded_initial : Guarded World.initial where
  locked :=
    { exclusive := fun hc => nomatch hc
      owned := fun _ => iff_of_false nofun fun ⟨_, _, hc, _⟩ => nomatch hc }
  store hc := nomatch hc

/-- A step that is not orderly breaks the lock: two commands hold the marker, or one clears
the marker of another. -/
theorem orderly_of_keepsLock {event : Event} (h : KeepsLock world event) : Orderly world event := by
  cases event with
  | call index request sessionId vaultId => trivial
  | act index answers =>
      intro command hat
      have hstep := @step_act _ answers _ _ hat
      rw [OrderlyAt]
      split
      · rename_i detacher hpoint
        intro houtside hmatches
        by_contra hmarker
        obtain ⟨session, hsession⟩ := Option.ne_none_iff_exists'.mp hmarker
        obtain ⟨holder, d, hd, hholds, -⟩ := (h.before.owned session).mp hsession
        have hdiffer : holder ≠ index := by
          rintro rfl
          rw [World.At, hat, Option.some.injEq] at hd
          subst hd
          rw [hpoint] at hholds
          cases hholds
        -- the store is there, so it is detached
        obtain ⟨active, hactive⟩ : ∃ active, world.state.active = some active := by
          rw [AndroidSyncState.matches, Option.any_eq_true] at hmatches
          obtain ⟨active, hactive, -⟩ := hmatches
          exact ⟨active, hactive⟩
        have hadvance : (command.advance answers world.state).2 = .detached detacher active := by
          rw [Command.advance, hpoint]
          dsimp only
          rw [houtside]
          dsimp only
          rw [detachStore, ensureStore, if_pos hmatches]
          dsimp only
          rw [hactive]
        have hself : (step world (.act index answers)).At index
            { command with point := .detached detacher active } := by
          rw [hstep, hadvance]
          exact at_update_iff.mpr (Or.inl ⟨rfl, rfl⟩)
        have hother : (step world (.act index answers)).At holder d := by
          rw [hstep]
          exact at_update_iff.mpr (Or.inr ⟨hdiffer, hd⟩)
        exact hdiffer (h.after.exclusive hother hself hholds rfl)
      · rename_i error hpoint
        intro hmarker
        have hidle := h.cleared rfl hat (by rw [hmarker]; rfl) ?_
        · rw [hpoint] at hidle
          cases hidle
        · rw [hstep, hmarker, Command.advance, hpoint]
          dsimp only
          rw [clearMarker, if_pos hmarker]
          simp
      · trivial

/-- **The running marker is an exclusive lock in exactly the runs whose sections stay clear
of it.**  Whatever commands are called, by any sessions, and whatever they hear, every step
keeps the lock if every step is orderly, and only then. -/
theorem marker_is_exclusive_iff (events : List Event) :
    Runs.Meets step Orderly World.initial events ↔
      Runs.Meets step KeepsLock World.initial events :=
  Runs.meets_iff_meets (fun _ _ h horderly => keepsLock_of_orderly h horderly)
    (fun _ _ _ h => orderly_of_keepsLock h) guarded_initial

/-! ## A disconnect behind a scan -/

/-- Everything succeeds. -/
def allWell : Answers where
  outside := none
  lease := none
  opens := true
  store := none
  accountId := "account"
  rootName := "root"
  authorization := "token"

/-- A session. -/
def sampleSession : VaultSessionId := List.Vector.replicate 16 1

/-- A vault. -/
def sampleVault : Uuid := List.Vector.replicate 16 2

/-- After a connect, a scan step passes its first section, a disconnect sets the marker, and
the scan step takes the store. -/
def scanBehindDisconnect : List Event :=
  [.call 0 .connect sampleSession sampleVault, .act 0 allWell, .act 0 allWell,
    .call 1 .scanStep sampleSession sampleVault, .act 1 allWell,
    .call 2 .disconnect sampleSession sampleVault, .act 2 allWell, .act 1 allWell]

/-- The detached store still has the lease of its vault, so no other is opened. -/
def leaseHeld : Answers := { allWell with opens := false }

/-- Both hold the marker.  The disconnect then clears it and fails at the lease that the scan
step's store holds, and the scan step fails and loses the store. -/
theorem scan_takes_disconnects_marker :
    let world := Runs.run step World.initial scanBehindDisconnect
    let next := step world (.act 2 leaseHeld)
    let last := step next (.act 1 allWell)
    (∃ c d, world.At 1 c ∧ world.At 2 d ∧ c.point.holds = true ∧ d.point.holds = true) ∧
      world.state.opened = 1 ∧
      (∃ c active, next.At 1 c ∧ c.point = .detached .scanStep active ∧
        active.vaultId = sampleVault) ∧
      next.state.transferRunningSession = none ∧
      (∃ d, next.At 2 d ∧ d.point = .disconnectCleanup .storageUnavailable false) ∧
      (∃ c, last.At 1 c ∧ c.point = .done (.error .internal)) ∧ last.state.active = none ∧
      ¬ Runs.Meets step KeepsLock World.initial scanBehindDisconnect := by
  refine ⟨⟨_, _, rfl, rfl, rfl, rfl⟩, rfl, ⟨_, _, rfl, rfl, rfl⟩, rfl,
    ⟨_, rfl, rfl⟩, ⟨_, rfl, rfl⟩, rfl, ?_⟩
  intro hkeeps
  rw [← List.take_append_drop 7 scanBehindDisconnect, Runs.meets_append] at hkeeps
  have hexclusive := hkeeps.2.1.after.exclusive (i := 1) (j := 2) rfl rfl rfl rfl
  cases hexclusive

end Runtime
end MyVault
