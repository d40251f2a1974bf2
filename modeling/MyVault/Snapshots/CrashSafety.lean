import MyVault.Library.Runs
import MyVault.Snapshots.Publishing
import MyVault.Snapshots.Supported

/-!
# Snapshot publication and crashes

The calls of one vault, one after the other, of which each may be cut off before any of its
steps.  `Careful` is the one condition a run has to meet: a call is not cut off between the
creation of one of the six directories or of the lock and the step that makes it private,
if new entries are not private as they are.  After such a run what stands in `objects` is
whole and stays, and both calls come to their end again (`careful_runs_recover`).

A run that misses the condition ends the use of the store: what it has created is found by
every later call, is not accepted, and is not repaired (`cut_off_before_hardening`).

## Between two steps

A new directory has the mode that the umask leaves, and the next step makes it private.  `MayEnd`
says of a world that the process may end there: the next step is not one that makes something
private which is not private yet.  `Careful` asks that of every cut, and nothing else of any step;
so the condition is one on single steps, and the theorem is about every state of every such run.

`Inv` has three cases, one for each thing that may be going on.  Where no call runs, the disk is
sound and both calls will come to their end on it (`Usable`).  A call that runs began on such a
disk, and whatever is left of it keeps the disk within what `Between` and `Leaves` say, at every
step.  The cut and the end of the call are then the same argument.
-/

namespace MyVault
namespace Snapshots

open Process Runs

/-! ## The world -/

/-- A call of the snapshot store, with the random ids it draws. -/
inductive Call where
  | opening (draw : Uuid)
  | publishing (manifest : SnapshotManifest) (payload : List UInt8) (draws : Fin 32 → Uuid)

/-- What is left of the call that runs. -/
inductive Running where
  | opening (rest : Proc Unit)
  | publishing (rest : Proc PublishOutcome)

/-- The disk, and the call that runs. -/
structure World where
  disk : Disk
  /-- The process holds a `SnapshotStore`. -/
  opened : Bool
  running : Option Running

/-- Nothing is there. -/
def World.initial : World := ⟨.empty, false, none⟩

/-- What may happen, in any order. -/
inductive Event where
  /-- A call begins, if none runs; `publish` needs a store. -/
  | start (call : Call)
  /-- The call that runs takes its next step, or returns. -/
  | advance
  /-- The process ends where it is. -/
  | cut

section Step

variable (host : Host) (binding : VaultBinding)

/-- The steps of a call; a publication needs a store. -/
def Running.begin (opened : Bool) : Call → Option Running
  | .opening draw => some (.opening (openStore host binding draw))
  | .publishing manifest payload draws =>
      if opened then some (.publishing (publish host binding manifest payload draws)) else none

/-- The call that runs takes its next step, or returns. -/
def World.advance (world : World) : World :=
  match world.running with
  | none => world
  | some (.opening rest) =>
      match rest.result world.disk with
      | some (.ok ()) => { world with running := none, opened := true }
      | some (.error _) => { world with running := none }
      | none =>
          let after := rest.advance (Step.run host.umask) world.disk
          { world with disk := after.2, running := some (.opening after.1) }
  | some (.publishing rest) =>
      match rest.result world.disk with
      | some _ => { world with running := none }
      | none =>
          let after := rest.advance (Step.run host.umask) world.disk
          { world with disk := after.2, running := some (.publishing after.1) }

/-- The world after an event. -/
def step (world : World) : Event → World
  | .start call =>
      if world.running.isSome then world
      else { world with running := Running.begin host binding world.opened call }
  | .advance => world.advance host
  | .cut => { world with running := none, opened := false }

/-- The step the call that runs takes next. -/
def World.next (world : World) : Option Step :=
  match world.running with
  | none => none
  | some (.opening rest) => rest.next world.disk
  | some (.publishing rest) => rest.next world.disk

/-- The process may end here. -/
def World.MayEnd (world : World) : Prop :=
  ∀ st, world.next = some st → MayCut host.umask st

/-- It ends only where it may. -/
def Careful (world : World) : Event → Prop
  | .cut => world.MayEnd host
  | _ => True

end Step

/-- A call of the run that publishes this snapshot. -/
def Started (events : List Event) (m : SnapshotManifest) (payload : List UInt8) : Prop :=
  ∃ draws, .start (.publishing m payload draws) ∈ events

/-! ## What every step keeps -/

/-- A step leaves what stands in `objects`. -/
theorem objects_run {umask : ℕ} (st : Step) {d : Disk} {name : String} {node : DirNode}
    (h : d.objects name = some node) : (Step.run umask st d).2.objects name = some node := by
  cases st with
  | createDir dir =>
      cases dir <;> rw [Step.run] <;> split <;> exact h
  | hardenDir dir => cases dir <;> exact h
  | createFile dir file =>
      cases dir with
      | place place => rw [Step.run]; split <;> exact h
      | work work =>
          rw [Step.run]
          split
          · exact h
          · split <;> exact h
  | hardenFile dir file => cases dir <;> exact h
  | append dir file byte => cases dir <;> exact h
  | sync => exact h
  | moveFile place source destination =>
      rw [Step.run]
      split
      · exact h
      · split <;> exact h
  | stage source destination =>
      rw [Step.run]
      split
      · exact h
      · split <;> exact h
  | promote moved =>
      rw [Step.run]
      split
      · exact h
      · split
        · exact h
        · rename_i hfree
          have hne : name ≠ moved := by
            rintro rfl
            exact hfree (by rw [h]; rfl)
          show (d.withObject moved _).objects name = _
          rw [Disk.objects_withObject, if_neg hne]
          exact h

theorem objects_step {host : Host} {binding : VaultBinding} {world : World} (event : Event)
    {name : String} {node : DirNode} (h : world.disk.objects name = some node) :
    (step host binding world event).disk.objects name = some node := by
  cases event with
  | start call =>
      rw [step]
      split <;> exact h
  | cut => exact h
  | advance =>
      rw [step, World.advance]
      split
      · exact h
      · split
        · exact h
        · exact h
        · exact advance_keeps (Step.run host.umask)
            (P := fun d => d.objects name = some node) (fun st _ => objects_run st) _ h
      · split
        · exact h
        · exact advance_keeps (Step.run host.umask)
            (P := fun d => d.objects name = some node) (fun st _ => objects_run st) _ h

/-! ## The invariant -/

section Invariant

variable {host : Host} {binding : VaultBinding}
  {snapshots calls : SnapshotManifest → List UInt8 → Prop} {world : World}

theorem Sound.mono {d : Disk} (h : Sound calls d) (hsub : ∀ m payload, calls m payload →
    snapshots m payload) : Sound snapshots d where
  staged id node hnode := by
    obtain ⟨m, payload, hm, hid, rfl⟩ := h.staged id node hnode
    exact ⟨m, payload, hsub m payload hm, hid, rfl⟩
  published name node hnode := by
    obtain ⟨m, payload, hm, hname, rfl⟩ := h.published name node hnode
    exact ⟨m, payload, hsub m payload hm, hname, rfl⟩
  single := h.single

theorem Frame.sound {d t : Disk} (h : Frame d t) (hsound : Sound calls d) : Sound calls t where
  staged id node hnode := hsound.staged id node (h.staging ▸ hnode)
  published name node hnode := hsound.published name node (h.objects ▸ hnode)
  single id := by
    rw [h.staging, h.objects]
    exact hsound.single id

theorem Publishes.usable {m : SnapshotManifest} {payload : List UInt8} {d t : Disk}
    (h : Publishes m payload d t) (husable : Usable binding d) : Usable binding t where
  modes place mode hmode := husable.modes place mode (h.modes ▸ hmode)
  binding file hfile := husable.binding file (h.files ▸ hfile)
  lock file hfile := husable.lock file (h.files ▸ hfile)

theorem Publishes.lockReady {m : SnapshotManifest} {payload : List UInt8} {d t : Disk}
    (h : Publishes m payload d t) (hlock : LockReady d) : LockReady t := by
  rw [LockReady, h.files]
  exact hlock

theorem sound_empty : Sound calls .empty :=
  ⟨nofun, nofun, fun _ => Or.inl rfl⟩

theorem usable_empty : Usable binding .empty :=
  ⟨nofun, nofun, nofun⟩

/-- Where no call runs the disk is sound and usable.  A call that runs began on such a disk,
and is safe. -/
def Inv (host : Host) (binding : VaultBinding) (calls : SnapshotManifest → List UInt8 → Prop)
    (world : World) : Prop :=
  match world.running with
  | none => Sound calls world.disk ∧ Usable binding world.disk ∧
      (world.opened = true → LockReady world.disk)
  | some (.opening rest) => ∃ d, Sound calls d ∧ (world.opened = true → LockReady d) ∧
      rest.Safe (Step.run host.umask) (Between host.umask binding d)
        (fun x t => Usable binding t ∧ Frame d t ∧ (x = .ok () → LockReady t)) world.disk
  | some (.publishing rest) => ∃ d m payload, Sound calls d ∧ Usable binding d ∧
      LockReady d ∧ (Accepts host binding m payload → calls m payload) ∧
        rest.Safe (Step.run host.umask) (fun _ => Leaves host binding m payload d)
          (fun _ => Leaves host binding m payload d) world.disk

/-- What stands under an id is whole, whatever runs. -/
theorem Inv.sound (h : Inv host binding calls world) : Sound calls world.disk := by
  rw [Inv] at h
  split at h
  · exact h.1
  · obtain ⟨d, hsound, -, hsafe⟩ := h
    exact hsafe.now (fun st t hI => hI.2.sound hsound) fun x t hQ => hQ.2.1.sound hsound
  · obtain ⟨d, m, payload, hsound, -, -, hcalls, hsafe⟩ := h
    exact hsafe.now (fun st t hI => hI.sound hsound hcalls) fun x t hQ => hQ.sound hsound hcalls

/-- Where the process may end, it leaves a usable disk. -/
theorem Inv.usable (h : Inv host binding calls world) (hmay : world.MayEnd host) :
    Usable binding world.disk := by
  rw [World.MayEnd, World.next] at hmay
  rw [Inv] at h
  split at h
  · exact h.2.1
  · rename_i rest hrunning
    obtain ⟨d, -, -, hsafe⟩ := h
    rw [hrunning] at hmay
    exact hsafe.now_of_next (P := Usable binding) (fun st hst hI => hI.1 (hmay st hst))
      fun x t hQ => hQ.1
  · obtain ⟨d, m, payload, -, husable, -, -, hsafe⟩ := h
    exact hsafe.now (fun st t hI => hI.1.usable husable) fun x t hQ => hQ.1.usable husable

theorem inv_cut (h : Inv host binding calls world) (hmay : world.MayEnd host) :
    Inv host binding calls (step host binding world .cut) :=
  ⟨h.sound, h.usable hmay, nofun⟩

theorem inv_advance (h : Inv host binding calls world) :
    Inv host binding calls (world.advance host) := by
  rw [World.advance]
  rw [Inv] at h
  split
  · rename_i hrunning
    rw [hrunning] at h
    rw [Inv, hrunning]
    exact h
  · rename_i rest hrunning
    rw [hrunning] at h
    obtain ⟨d, hsound, hopened, hsafe⟩ := h
    split
    · rename_i hresult
      obtain ⟨husable, hframe, hlock⟩ := hsafe.of_result hresult
      exact ⟨hframe.sound hsound, husable, fun _ => hlock rfl⟩
    · rename_i e hresult
      obtain ⟨husable, hframe, -⟩ := hsafe.of_result hresult
      exact ⟨hframe.sound hsound, husable, fun hopen => hframe.lock (hopened hopen)⟩
    · exact ⟨d, hsound, hopened, hsafe.advance⟩
  · rename_i rest hrunning
    rw [hrunning] at h
    obtain ⟨d, m, payload, hsound, husable, hlock, hcalls, hsafe⟩ := h
    split
    · rename_i x hresult
      have hleaves := hsafe.of_result hresult
      exact ⟨hleaves.sound hsound hcalls, hleaves.1.usable husable,
        fun _ => hleaves.1.lockReady hlock⟩
    · exact ⟨d, m, payload, hsound, husable, hlock, hcalls, hsafe.advance⟩

theorem inv_start (hknown : Known host binding snapshots)
    (hsub : ∀ m payload, calls m payload → snapshots m payload) {call : Call}
    (hcall : ∀ m payload draws, call = .publishing m payload draws →
      snapshots m payload ∧ (Accepts host binding m payload → calls m payload))
    (h : Inv host binding calls world) :
    Inv host binding calls (step host binding world (.start call)) := by
  rw [step]
  split
  · exact h
  · rename_i hidle
    rw [Option.not_isSome_iff_eq_none] at hidle
    rw [Inv, hidle] at h
    obtain ⟨hsound, husable, hopened⟩ := h
    cases call with
    | opening draw =>
        exact ⟨world.disk, hsound, hopened, (safe_openStore host husable draw).mono
          (fun _ _ hI => hI) fun x t hQ => ⟨hQ.1, hQ.2.1, hQ.2.2.1⟩⟩
    | publishing m payload draws =>
        obtain ⟨hm, hcalls⟩ := hcall m payload draws rfl
        rw [Running.begin]
        split
        · rename_i hopen
          exact ⟨world.disk, m, payload, hsound, husable, hopened hopen, hcalls,
            (safe_publish hknown hm (hsound.mono hsub) (hopened hopen) draws).mono
              (fun _ _ hI => hI) fun x t hQ => hQ.leaves⟩
        · exact ⟨hsound, husable, hopened⟩

/-- **Every careful run keeps the invariant.** -/
theorem inv_run (hknown : Known host binding snapshots)
    (hsub : ∀ m payload, calls m payload → snapshots m payload) {events : List Event}
    (hcalls : ∀ m payload draws, .start (.publishing m payload draws) ∈ events →
      snapshots m payload ∧ (Accepts host binding m payload → calls m payload))
    (h : Inv host binding calls world)
    (hmeets : Meets (step host binding) (Careful host) world events) :
    Inv host binding calls (run (step host binding) world events) := by
  induction events generalizing world with
  | nil => exact h
  | cons event events ih =>
      refine ih (fun m payload draws hmem => hcalls m payload draws (List.mem_cons_of_mem _ hmem))
        ?_ hmeets.2
      cases event with
      | start call =>
          refine inv_start hknown hsub (fun m payload draws hcall => ?_) h
          exact hcalls m payload draws (hcall ▸ List.mem_cons_self)
      | advance => exact inv_advance h
      | cut => exact inv_cut h hmeets.1

end Invariant

/-! ## Recovery -/

/-- **Snapshot publication recovers.**  In a run in which no call is cut off between the
creation of a directory or of the lock and the step that makes it private, what stands in
`objects` is the snapshot of one call and stays there; wherever the process may end,
`open` succeeds again, and so does `publish` with a snapshot that has nothing else under
its id; a call with another snapshot under its id fails and no step of it changes
anything; and a call that finds nothing else under its id leaves nothing else there,
wherever it is cut off, so it can be repeated. -/
theorem careful_runs_recover {host : Host} {binding : VaultBinding}
    {snapshots : SnapshotManifest → List UInt8 → Prop} {events : List Event}
    (hknown : Known host binding snapshots)
    (hcalls : ∀ m payload, Started events m payload → snapshots m payload)
    (hmeets : Meets (step host binding) (Careful host) .initial events) :
    let world := run (step host binding) .initial events
    (∀ name node, world.disk.objects name = some node →
      (∃ m payload, Started events m payload ∧ Accepts host binding m payload ∧
        name = m.snapshotId.toHyphenated ∧ node = snapshotNode m payload) ∧
      ∀ event, (step host binding world event).disk.objects name = some node) ∧
    (world.MayEnd host → ∀ m payload, snapshots m payload → Accepts host binding m payload →
      Clear world.disk m payload → ∀ (draw : Uuid) (draws : Fin 32 → Uuid),
      BindingDrawFree world.disk draw →
      (∃ i, world.disk.staging (workName m.snapshotId (draws i)) = none) →
      let reopened := (openStore host binding draw).finish (Step.run host.umask) world.disk
      let again := (publish host binding m payload draws).finish (Step.run host.umask) reopened.2
      reopened.1 = .ok () ∧ (∃ outcome, again.1 = .ok outcome) ∧ Published again.2 m payload) ∧
    (world.opened = true → world.running.isNone = true → ∀ m payload, snapshots m payload →
      ∀ draws : Fin 32 → Uuid,
      (Clear world.disk m payload → (publish host binding m payload draws).Safe
        (Step.run host.umask) (fun _ t => Clear t m payload) (fun _ t => Clear t m payload)
          world.disk) ∧
      (¬ Clear world.disk m payload → (publish host binding m payload draws).Safe
        (Step.run host.umask) (fun _ t => t = world.disk) (Refused world.disk) world.disk)) := by
  intro world
  have hsub : ∀ m payload, Started events m payload ∧ Accepts host binding m payload →
      snapshots m payload := fun m payload h => hcalls m payload h.1
  have hinv : Inv host binding
      (fun m payload => Started events m payload ∧ Accepts host binding m payload) world := by
    refine inv_run hknown hsub (fun m payload draws hmem => ?_)
      ⟨sound_empty, usable_empty, nofun⟩ hmeets
    exact ⟨hcalls m payload ⟨draws, hmem⟩, fun haccepts => ⟨⟨draws, hmem⟩, haccepts⟩⟩
  have hsound : Sound snapshots world.disk := hinv.sound.mono hsub
  refine ⟨fun name node hnode => ⟨?_, fun event => objects_step event hnode⟩, ?_, ?_⟩
  · obtain ⟨m, payload, ⟨hstarted, haccepts⟩, hname, hnode⟩ := hinv.sound.published name node hnode
    exact ⟨m, payload, hstarted, haccepts, hname, hnode⟩
  · intro hmay m payload hm haccepts hclear draw draws hfree hwork reopened again
    obtain ⟨-, hvault, -⟩ := checkPublish_eq_ok.mp haccepts
    have hnil : binding.vaultId.isNil = false := by
      rw [← hvault]
      have hvalid := (checkPublish_eq_ok.mp haccepts).1
      exact (SnapshotManifest.validate_eq_ok.mp hvalid).2.2.1
    obtain ⟨-, hframe, hlock, hok⟩ := (safe_openStore host (hinv.usable hmay) draw).finish
    have hopen : reopened.1 = .ok () := hok hnil hknown.readsBinding hfree
    have hclear' : Clear reopened.2 m payload := by
      rw [Clear, hframe.staging, hframe.objects]
      exact hclear
    have hends := (safe_publish hknown hm (hframe.sound hsound) (hlock hopen) draws).finish
    obtain ⟨i, hi⟩ := hwork
    have hdraw : ∃ draw ∈ List.ofFn draws,
        reopened.2.staging (workName m.snapshotId draw) = none := by
      refine ⟨draws i, List.mem_ofFn.mpr ⟨i, rfl⟩, ?_⟩
      rw [hframe.staging]
      exact hi
    obtain ⟨houtcome, hpublished⟩ := hends.published hclear' haccepts hdraw
    exact ⟨hopen, houtcome, hpublished⟩
  · intro hopen hidle m payload hm draws
    rw [Option.isNone_iff_eq_none] at hidle
    rw [Inv, hidle] at hinv
    have hsafe := safe_publish hknown hm hsound (hinv.2.2 hopen) draws
    constructor
    · intro hclear
      exact hsafe.mono (fun _ _ hI => hI.clear hclear) fun _ _ hQ => hQ.leaves.clear hclear
    · intro hother
      have hboth : ¬ (Clear world.disk m payload ∧ Accepts host binding m payload) :=
        fun hand => hother hand.1
      exact hsafe.mono (fun _ _ hI => hI.2 hboth) fun _ _ hQ => hQ.refused hboth

/-! ### One snapshot -/

/-- The vault that the store is bound to. -/
def onlyVault : VaultBinding := bindingOf (numberedId 0) 1 2

/-- The content of its note. -/
def onlyPayload : List UInt8 := [104, 105]

/-- A snapshot of it. -/
def onlyManifest : SnapshotManifest :=
  numberedManifest constantDigest (numberedId 0) "a.md" onlyPayload 1

/-- A host whose new directories everybody can read. -/
def readableHost : Host where
  umask := 0o022
  unicode := Unicode.ascii
  blake3 := constantDigest
  serde := .knowing [onlyManifest]
  vaultBinding := fun bytes => if bytes = onlyVault.bytes then some onlyVault else none

theorem known_onlyManifest : Known readableHost onlyVault
    fun m payload => m = onlyManifest ∧ payload = onlyPayload where
  readsBinding := by
    show (if onlyVault.bytes = onlyVault.bytes then some onlyVault else none) = some onlyVault
    rw [if_pos rfl]
  reads := by
    rintro m payload ⟨rfl, -⟩
    have hread : ∀ bytes, readableHost.serde.snapshotManifest bytes =
        [onlyManifest].find? fun m => decide (utf8Bytes m.json = bytes) := fun _ => rfl
    rw [hread]
    exact List.find?_cons_of_pos (decide_eq_true rfl)
  distinct := by
    rintro m payload m' payload' ⟨-, rfl⟩ ⟨-, rfl⟩ -
    rfl

/-- The process ends after `recovery-snapshots` was created and made private. -/
theorem careful_runs_recover_early :
    let world := run (step readableHost onlyVault) .initial
      [.start (.opening (numberedId 7)), .advance, .advance, .cut]
    let reopened := (openStore readableHost onlyVault (numberedId 8)).finish
      (Step.run readableHost.umask) world.disk
    let again := (publish readableHost onlyVault onlyManifest onlyPayload
      fun i => numberedId i).finish
      (Step.run readableHost.umask) reopened.2
    reopened.1 = .ok () ∧ (∃ outcome, again.1 = .ok outcome) ∧
      Published again.2 onlyManifest onlyPayload := by
  have hmeets : Meets (step readableHost onlyVault) (Careful readableHost) .initial
      [.start (.opening (numberedId 7)), .advance, .advance, .cut] := by
    refine ⟨trivial, trivial, trivial, fun st hst => ?_, trivial⟩
    cases hst
    exact trivial
  have hclear : Clear (run (step readableHost onlyVault) .initial
      [.start (.opening (numberedId 7)), .advance, .advance, .cut]).disk onlyManifest
        onlyPayload := by
    rintro node (hnode | hnode)
    · exact nomatch hnode
    · exact nomatch hnode
  exact (careful_runs_recover known_onlyManifest
    (fun m payload ⟨draws, hmem⟩ => by simp at hmem) hmeets).2.1 nofun onlyManifest onlyPayload
    ⟨rfl, rfl⟩ (by decide +kernel) hclear (numberedId 8) (fun i => numberedId i) (Or.inr rfl)
    ⟨0, rfl⟩

/-- The process ends after `recovery-snapshots` was created and before it was made private:
no later call opens the store, and none changes what is there. -/
theorem cut_off_before_hardening :
    let world := run (step readableHost onlyVault) .initial
      [.start (.opening (numberedId 7)), .advance, .cut]
    ∀ draw, (openStore readableHost onlyVault draw).finish (Step.run readableHost.umask)
      world.disk = (.error .privateFs, world.disk) := by
  intro world draw
  rfl

end Snapshots
end MyVault
