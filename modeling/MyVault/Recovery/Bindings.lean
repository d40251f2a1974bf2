import MyVault.Library.Runs
import MyVault.Recovery.Alone
import MyVault.Recovery.Listing

/-!
# What the recovery journal binds

Runs of the journal: threads begin calls of `publish` and `complete`, do their steps in any
order, fail and are cut off.  No entry is ever changed, and every call comes to what `Ends`
says (`Kept.step`); so an operation stands for one intent from its first publication on, and
its tombstone was put there by a call of `complete` with exactly this intent.

## The calls beside a call

The journal has no lock.  A call looks at the two directories, and by its next step the others may
have changed them; so it is proved of every call what it comes to while the others do what they
may (`Allowed`, `Rely`), and that whatever it does itself is allowed.  `Kept` collects this for
all threads.  A call that has begun keeps the disk it began on, since `Ends` compares that disk
with the one it ends on.

`CompletedIn` is about the past: in every run that ends with a tombstone there is the turn that
has put it there, by a call of `complete` that has the operation and the published intent.
`Lists` reads the directory page by page, in whatever order the file system gives its names.
-/

namespace MyVault
namespace Recovery

open Process Runs

/-! ## Runs -/

/-- The directories, and the calls that run, each with the disk it began on. -/
abbrev JournalWorld := Pool ℕ (Call × Disk) Step (Except Error Unit) Disk Error Outcome

/-- What may happen to the recovery journal, in any order. -/
inductive JournalEvent where
  /-- A thread begins a call, if it has none. -/
  | begins (thread : ℕ) (call : Call)
  /-- The next look or step of its call. -/
  | turn (thread : ℕ)
  /-- It fails, and has done nothing. -/
  | fault (thread : ℕ)
  /-- The call is over, or cut off: what it has left on the disk stays. -/
  | cut (thread : ℕ)

/-- The event in the pool of the calls. -/
def JournalEvent.toEvent (host : Host) (d : Disk) :
    JournalEvent → Pool.Event ℕ (Call × Disk) Step (Except Error Unit) Disk Error Outcome
  | .begins thread call => .start thread (call, d) (call.process host thread)
  | .turn thread => .turn thread
  | .fault thread => .fault thread
  | .cut thread => .drop thread

/-- The journal and its calls after an event. -/
def journalStep (host : Host) (w : JournalWorld) (event : JournalEvent) : JournalWorld :=
  w.step (Step.run host.umask) (.error (.io .other)) (.io .other) (event.toEvent host w.state)

/-- An empty journal, and no call. -/
def JournalWorld.initial : JournalWorld := ⟨.empty, fun _ => none⟩

/-- What there is after these events. -/
def journalAfter (host : Host) (events : List JournalEvent) : JournalWorld :=
  run (journalStep host) .initial events

/-- The intents the calls are about. -/
def UsedIn (events : List JournalEvent) (intent : RenameMoveIntent) : Prop :=
  ∃ thread call, .begins thread call ∈ events ∧ call.intent = intent

/-! ## What every event keeps -/

variable {host : Host} {intents : RenameMoveIntent → Prop} {w : JournalWorld}
  {event : JournalEvent} {events : List JournalEvent}

/-- All calls are robust, on a disk whose entries hold records. -/
structure Kept (host : Host) (intents : RenameMoveIntent → Prop) (w : JournalWorld) : Prop where
  sound : w.state.Sound host intents
  robust : w.Sound (Step.run host.umask) (.error (.io .other)) (.io .other) (Rely host intents)
    (fun thread l => Allowed host thread l.1) fun thread l => l.1.Ends host thread l.2
  used : ∀ thread l p, w.running thread = some (l, p) → intents l.1.intent
  since : ∀ thread l p, w.running thread = some (l, p) → l.2.Grows w.state

theorem kept_initial : Kept host intents .initial where
  sound area operationId node hnode := by cases area <;> cases hnode
  robust := nofun
  used := nofun
  since := nofun

/-- A call that runs after an event ran before it, or begins with it. -/
theorem running_journalStep {thread : ℕ} {l : Call × Disk} {p : Proc Outcome}
    (h : (journalStep host w event).running thread = some (l, p)) :
    (∃ q, w.running thread = some (l, q)) ∨ event = .begins thread l.1 ∧ l.2 = w.state := by
  rcases Pool.running_step h with hrunning | hstart
  · exact .inl hrunning
  · cases event with
    | begins thread' call =>
        cases hstart
        exact .inr ⟨rfl, rfl⟩
    | turn thread' => cases hstart
    | fault thread' => cases hstart
    | cut thread' => cases hstart

/-- What an event does to the directories. -/
theorem Kept.state_step (h : Kept host intents w) (event : JournalEvent) :
    (journalStep host w event).state = w.state ∨
      ∃ thread l p st, event = .turn thread ∧ w.running thread = some (l, p) ∧
        Allowed host thread l.1 st w.state ∧
        (journalStep host w event).state = (st.run host.umask w.state).2 := by
  rcases h.robust.state_step (fun _ => interference_rely) (event.toEvent host w.state) with
    hsame | ⟨thread, l, p, st, hturn, hrunning, hallowed, hstate⟩
  · exact .inl hsame
  · cases event with
    | turn thread' =>
        cases hturn
        exact .inr ⟨thread, l, p, st, rfl, hrunning, hallowed, hstate⟩
    | begins thread' call => cases hturn
    | fault thread' => cases hturn
    | cut thread' => cases hturn

theorem Kept.grows (h : Kept host intents w) (event : JournalEvent) :
    w.state.Grows (journalStep host w event).state := by
  rcases h.state_step event with hsame | ⟨thread, l, p, st, -, -, hallowed, hstate⟩
  · rw [hsame]
    exact Disk.interference_grows.refl _
  · rw [hstate]
    exact hallowed.grows

theorem Kept.step (h : Kept host intents w)
    (hevent : ∀ thread call, event = .begins thread call → intents call.intent) :
    Kept host intents (journalStep host w event) where
  sound := by
    rcases h.state_step event with hsame | ⟨thread, l, p, st, -, hrunning, hallowed, hstate⟩
    · rw [hsame]
      exact h.sound
    · rw [hstate]
      exact hallowed.sound (h.used thread l p hrunning) h.sound
  robust := by
    refine h.robust.step (fun _ => interference_rely) ?_ _ ?_
    · intro thread other l p st hne hrunning hallowed
      exact hallowed.rely (h.used thread l p hrunning) hne
    · intro thread l p hstart
      cases event with
      | begins thread' call =>
          cases hstart
          exact robust_process (hevent _ _ rfl) h.sound
      | turn thread' => cases hstart
      | fault thread' => cases hstart
      | cut thread' => cases hstart
  used thread l p hrunning := by
    rcases running_journalStep hrunning with ⟨q, hq⟩ | ⟨hbegins, -⟩
    · exact h.used thread l q hq
    · exact hevent thread l.1 hbegins
  since thread l p hrunning := by
    rcases running_journalStep hrunning with ⟨q, hq⟩ | ⟨-, hdisk⟩
    · exact Disk.interference_grows.trans (h.since thread l q hq) (h.grows event)
    · rw [hdisk]
      exact h.grows event

/-- **The rule of a run.** -/
theorem Kept.run (h : Kept host intents w)
    (hevents : ∀ thread call, .begins thread call ∈ events → intents call.intent) :
    Kept host intents (run (journalStep host) w events) ∧
      w.state.Grows (run (journalStep host) w events).state := by
  induction events generalizing w with
  | nil => exact ⟨h, Disk.interference_grows.refl _⟩
  | cons event events ih =>
      have hnext := h.step fun thread call heq => hevents thread call (heq ▸ List.mem_cons_self)
      obtain ⟨hkept, hgrows⟩ := ih hnext fun thread call hmem =>
        hevents thread call (List.mem_cons_of_mem _ hmem)
      exact ⟨hkept, Disk.interference_grows.trans (h.grows event) hgrows⟩

/-! ## What a run has come to -/

theorem kept_journalAfter {pre : List JournalEvent} (hpre : pre <+: events) :
    Kept host (UsedIn events) (journalAfter host pre) :=
  (kept_initial.run fun thread call hmem =>
    ⟨thread, call, hpre.subset hmem, rfl⟩ : Kept host (UsedIn events) _ ∧ _).1

/-- No entry is ever changed. -/
theorem grows_journalAfter (host : Host) (pre post : List JournalEvent) :
    (journalAfter host pre).state.Grows (journalAfter host (pre ++ post)).state := by
  have hkept : Kept host (UsedIn (pre ++ post)) (journalAfter host pre) :=
    kept_journalAfter (List.prefix_append _ _)
  rw [journalAfter, journalAfter, run_append]
  exact (hkept.run fun thread call hmem =>
    ⟨thread, call, List.mem_append_right _ hmem, rfl⟩).2

/-- An entry of the journal is the record of one intent. -/
theorem existsUnique_intent (hreads : host.Reads (UsedIn events)) {operationId : Uuid}
    {node : FileNode}
    (hnode : (journalAfter host events).state.file .journal (.entry operationId) = some node) :
    ∃! intent, UsedIn events intent ∧ intent.operationId = operationId ∧
      node.bytes = utf8Bytes intent.json := by
  have hkept : Kept host (UsedIn events) (journalAfter host events) :=
    kept_journalAfter (List.prefix_refl _)
  obtain ⟨-, intent, hused, hrecord⟩ := hkept.sound _ _ _ hnode
  refine ⟨intent, ⟨hused, hrecord.identified, hrecord.bytes⟩, ?_⟩
  rintro other ⟨hother, -, hbytes⟩
  exact hreads.injective hother hused (hbytes.symm.trans hrecord.bytes)

/-- The call a thread runs, and the disk it began on. -/
def runningCall (thread : ℕ) (w : JournalWorld) : Option (Call × Disk) :=
  (w.running thread).map Prod.fst

/-- The thread begins it on this disk. -/
def BeginsCall (thread : ℕ) (w : JournalWorld) (event : JournalEvent) (l : Call × Disk) : Prop :=
  event = .begins thread l.1 ∧ l.2 = w.state

/-- A call that is over has come to what it may come to, since it began. -/
theorem ends_of_done {thread : ℕ} {call : Call} {d : Disk} {x : Except Error Outcome}
    (h : (journalAfter host events).running thread = some ((call, d), .done x)) :
    (∃ pre post, events = pre ++ .begins thread call :: post ∧
        d = (journalAfter host pre).state) ∧
      call.Ends host thread d x (journalAfter host events).state := by
  have hkept : Kept host (UsedIn events) (journalAfter host events) :=
    kept_journalAfter (List.prefix_refl _)
  have hactive : runningCall thread (journalAfter host events) = some (call, d) := by
    rw [runningCall, h, Option.map_some]
  have hinit : runningCall thread JournalWorld.initial = none := rfl
  have hstep : ∀ pre event l,
      runningCall thread (journalStep host (run (journalStep host) .initial pre) event) = some l →
        runningCall thread (run (journalStep host) .initial pre) = some l ∨
          BeginsCall thread (run (journalStep host) .initial pre) event l := by
    intro pre event l hl
    obtain ⟨⟨l', q⟩, hrunning, rfl⟩ := Option.map_eq_some_iff.mp hl
    rcases running_journalStep hrunning with ⟨q', hq⟩ | hbegins
    · rw [runningCall, hq]
      exact .inl rfl
    · exact .inr hbegins
  obtain ⟨pre, op, post, rfl, ⟨rfl, hdisk⟩, -⟩ := exists_since hinit hstep hactive
  exact ⟨⟨pre, post, rfl, hdisk⟩, (hkept.robust thread _ _ h).of_done interference_rely⟩

/-- A call of `complete` that has put the tombstone there succeeds, or could not synchronize
the directory. -/
theorem Kept.completed_or_notSynced (h : Kept host intents w) {thread : ℕ} {draw : Uuid}
    {operationId : Uuid} {expected : RenameMoveIntent} {d : Disk} {x : Except Error Outcome}
    {node : FileNode}
    (hrunning : w.running thread = some ((.complete draw operationId expected, d), .done x))
    (hnone : d.file .completed (.entry operationId) = none)
    (hnode : w.state.file .completed (.entry operationId) = some node)
    (howner : node.owner = thread) :
    (∃ outcome, x = .ok (.complete outcome)) ∨ x = .error (.publishedButNotSynced .other) := by
  obtain ⟨y, rfl, hends⟩ := (h.robust thread _ _ hrunning).of_done interference_rely
  cases y with
  | ok outcome => exact .inl ⟨outcome, rfl⟩
  | error e =>
      rcases hends.error e rfl with rfl | hadded
      · exact .inr rfl
      · exact nomatch hnone.symm.trans (hadded node hnode howner)

/-- The entry of an operation was suppressed by a call of `complete`: with its operation and
with the intent that was published, in the turn in which it put the tombstone there.  If this
call comes to its end it succeeds, or it could not synchronize the directory. -/
def CompletedIn (host : Host) (events : List JournalEvent) (operationId : Uuid) : Prop :=
  ∃ pre post thread draw expected d p, events = pre ++ .turn thread :: post ∧
    (journalAfter host pre).running thread = some ((.complete draw operationId expected, d), p) ∧
    (journalAfter host pre).state.Holds .journal operationId (utf8Bytes expected.json) ∧
    (journalAfter host pre).state.file .completed (.entry operationId) = none ∧
    (∃ node, (journalAfter host (pre ++ [.turn thread])).state.file .completed
        (.entry operationId) = some node ∧ node.owner = thread ∧
      node.bytes = recordBytes host expected .completed) ∧
    ∀ mid x, mid <+: post →
      (journalAfter host (pre ++ .turn thread :: mid)).running thread =
        some ((.complete draw operationId expected, d), .done x) →
      (∃ outcome, x = .ok (.complete outcome)) ∨ x = .error (.publishedButNotSynced .other)

/-- A tombstone was put there by a call of `complete` with the intent that was published. -/
theorem completedIn_of_tombstone {operationId : Uuid} {node : FileNode}
    (hnode : (journalAfter host events).state.file .completed (.entry operationId) = some node) :
    CompletedIn host events operationId := by
  have hinitial : JournalWorld.initial.state.file .completed (.entry operationId) = none := rfl
  have hlast : ¬ (run (journalStep host) .initial events).state.file .completed
      (.entry operationId) = none := by
    rw [journalAfter] at hnode
    rw [hnode]
    exact nofun
  obtain ⟨pre, event, post, rfl, hfree, hturn⟩ := exists_turn
    (fun w : JournalWorld => w.state.file .completed (.entry operationId) = none) hinitial hlast
  have hkept : Kept host (UsedIn (pre ++ event :: post)) (run (journalStep host) .initial pre) :=
    kept_journalAfter (List.prefix_append _ _)
  rcases hkept.state_step event with hsame | ⟨thread, l, p, st, rfl, hrunning, hallowed, hstate⟩
  · rw [hsame] at hturn
    exact absurd hfree hturn
  · obtain ⟨found, hfound⟩ := Option.ne_none_iff_exists'.mp hturn
    have hafter := hfound
    rw [hstate] at hafter
    rcases hallowed.added hafter with hthere | ⟨-, harea, hid, howner, -, hrecord⟩
    · exact nomatch hfree.symm.trans hthere
    · obtain ⟨call, d⟩ := l
      cases call with
      | publish draw intent => cases harea
      | complete draw op expected =>
          obtain rfl : operationId = op := hid
          have hput : (journalAfter host (pre ++ [.turn thread])).state.file .completed
              (.entry operationId) = some found := by
            rw [journalAfter, run_concat]
            exact hfound
          refine ⟨pre, post, thread, draw, expected, d, p, rfl, hrunning, hrecord.published rfl,
            hfree, ⟨found, hput, howner, hrecord.bytes⟩, fun mid x hmid hdone => ?_⟩
          have hwhole : pre ++ .turn thread :: mid <+: pre ++ .turn thread :: post :=
            (List.prefix_append_right_inj pre).mpr (List.cons_prefix_cons.mpr ⟨rfl, hmid⟩)
          have hend : Kept host (UsedIn (pre ++ .turn thread :: post))
              (journalAfter host (pre ++ .turn thread :: mid)) := kept_journalAfter hwhole
          have hgrows := grows_journalAfter host (pre ++ [.turn thread]) mid
          rw [List.append_assoc, List.singleton_append] at hgrows
          have hbefore : d.file .completed (.entry operationId) = none := by
            cases hd : d.file .completed (.entry operationId) with
            | none => rfl
            | some early =>
                exact nomatch hfree.symm.trans (hkept.since thread _ _ hrunning _ _ _ hd)
          exact hend.completed_or_notSynced hdone hbefore (hgrows _ _ _ hput) howner

/-! ## The journal -/

/-- From page to page the two lists give these intents, whatever the sizes of the pages and
the orders in which the directory gives its children. -/
def Lists (host : Host) (d : Disk) (listed : List RenameMoveIntent) : Prop :=
  ∀ (orders : ℕ → List (Option Name)) (limits : ℕ → ℕ) (calls : ℕ),
    (∀ call, (orders call).Perm d.childNames) →
    (∀ call, 1 ≤ limits call ∧ limits call ≤ maxPageSize) → listed.length < calls →
    (∃ pages, readPages (fun call after =>
        listEvidencePage host d (orders call) after (limits call)) calls 0 none =
          .ok (some pages) ∧
      pages.flatten = listed.map .supported) ∧
    ∃ pages, readPages (fun call after =>
        listPage host d (orders call) after (limits call)) calls 0 none = .ok (some pages) ∧
      pages.flatten = listed

/-- **The journal binds an intent to its operation, and lists the open ones.**  In every run,
with any number of calls at once, with failures and with calls that are cut off: an entry
stays as it is, and is the record of one intent; a call that is over has come to what `Ends`
says; where nothing fails, the same intent again is already published and another one
collides; an operation is suppressed only by a call of `complete` with its intent; and within
the bounds the lists give every open intent once, in the order of the identifiers. -/
theorem journal_binds_and_lists {host : Host} {events : List JournalEvent}
    (hreads : host.Reads (UsedIn events)) :
    let disk := (journalAfter host events).state
    (∀ pre, pre <+: events → (journalAfter host pre).state.Grows disk) ∧
    (∀ operationId node, disk.file .journal (.entry operationId) = some node →
      ∃! intent, UsedIn events intent ∧ intent.operationId = operationId ∧
        node.bytes = utf8Bytes intent.json) ∧
    (∀ thread call d x,
      (journalAfter host events).running thread = some ((call, d), .done x) →
        (∃ pre post, events = pre ++ .begins thread call :: post ∧
          d = (journalAfter host pre).state) ∧ call.Ends host thread d x disk) ∧
    (∀ thread draw intent, Publishable host intent →
      (disk.Holds .journal intent.operationId (utf8Bytes intent.json) →
        (publish host thread draw intent).finish (Step.run host.umask) disk =
          (.ok .alreadyPublished, disk)) ∧
      ∀ bytes, disk.Holds .journal intent.operationId bytes → bytes ≠ utf8Bytes intent.json →
        (publish host thread draw intent).finish (Step.run host.umask) disk =
          (.error .journalCollision, disk)) ∧
    (∀ operationId, disk.file .completed (.entry operationId) ≠ none →
      CompletedIn host events operationId) ∧
    (disk.childNames.length ≤ maxDirectoryEntryCount →
      (openIntents host disk).length ≤ maxEntryCount →
      (openIntents host disk).Pairwise
        (fun a b => uuidOrder a.operationId < uuidOrder b.operationId) ∧
      (∀ intent, intent ∈ openIntents host disk ↔ UsedIn events intent ∧ disk.IsOpen intent) ∧
      Lists host disk (openIntents host disk)) := by
  have hkept : Kept host (UsedIn events) (journalAfter host events) :=
    kept_journalAfter (List.prefix_refl _)
  refine ⟨?_, fun _ _ => existsUnique_intent hreads, fun _ _ _ _ => ends_of_done, ?_, ?_, ?_⟩
  · rintro pre ⟨post, rfl⟩
    exact grows_journalAfter host pre post
  · intro thread draw intent hpublishable
    exact ⟨finish_publish_again hkept.sound hpublishable, fun bytes hholds hother =>
      finish_publish_collision hkept.sound hpublishable hholds hother⟩
  · intro operationId hsome
    obtain ⟨node, hnode⟩ := Option.ne_none_iff_exists'.mp hsome
    exact completedIn_of_tombstone hnode
  · intro hchildren hopen
    refine ⟨pairwise_openIntents hkept.sound hreads,
      fun intent => mem_openIntents hkept.sound hreads, fun orders limits calls horders hlimits
        hcalls => ⟨?_, ?_⟩⟩
    · exact evidence_pages_eq hkept.sound hreads hchildren hopen horders hlimits hcalls
    · exact list_pages_eq hkept.sound hreads hchildren hopen horders hlimits hcalls

/-! ## A tombstone of a call that failed -/

/-- A host whose parser knows one intent. -/
def Host.knowing (unicode : Unicode) (blake3 : Blake3) (intent : RenameMoveIntent) : Host where
  umask := 0o022
  unicode := unicode
  blake3 := blake3
  versionEnvelope bytes := if bytes = utf8Bytes intent.json then some intent.version else none
  routingEnvelope bytes :=
    if bytes = utf8Bytes intent.json then some (intent.version, intent.operationId.toHyphenated)
    else none
  intent bytes := if bytes = utf8Bytes intent.json then some intent else none
  tombstone bytes :=
    let tombstone : CompletionTombstone :=
      ⟨1, intent.operationId, hexBlake3 blake3 (utf8Bytes intent.json)⟩
    if bytes = utf8Bytes tombstone.json then some tombstone else none

theorem reads_knowing {unicode : Unicode} {blake3 : Blake3} {intent : RenameMoveIntent}
    (hintents : ∀ other, intents other → other = intent)
    (hpublishable : Publishable (.knowing unicode blake3 intent) intent) :
    (Host.knowing unicode blake3 intent).Reads intents where
  versionEnvelope other hother := by
    obtain rfl := hintents other hother
    simp only [Host.knowing, if_true]
  routingEnvelope other hother := by
    obtain rfl := hintents other hother
    simp only [Host.knowing, if_true]
  intent other hother := by
    obtain rfl := hintents other hother
    simp only [Host.knowing, if_true]
  tombstone other tombstone hother h := by
    obtain rfl := hintents other hother
    rw [hpublishable.forIntent] at h
    cases h
    simp only [Host.knowing, tombstoneOf, if_true]

theorem journalStep_turn {thread : ℕ} {l : Call × Disk} {p : Proc Outcome}
    (h : w.running thread = some (l, p)) : journalStep host w (.turn thread) =
      ⟨(p.turn (Step.run host.umask) w.state).2, Function.update w.running thread
        (some (l, (p.turn (Step.run host.umask) w.state).1))⟩ := by
  rw [journalStep, JournalEvent.toEvent, Pool.step, h]
  rfl

/-- A call that runs alone comes to what it reaches. -/
theorem run_turns {thread : ℕ} {l : Call × Disk} {p q : Proc Outcome} {t : Disk}
    (h : w.running thread = some (l, p)) (hreaches : Reaches (Step.run host.umask) p w.state q t) :
    ∃ n, run (journalStep host) w (List.replicate n (.turn thread)) =
      ⟨t, Function.update w.running thread (some (l, q))⟩ := by
  obtain ⟨n, hturns⟩ := hreaches
  refine ⟨n, ?_⟩
  induction n generalizing w p with
  | zero =>
      cases hturns
      rw [← h, Function.update_eq_self]
      rfl
  | succ n ih =>
      have hnext : (journalStep host w (.turn thread)).running thread =
          some (l, (p.turn (Step.run host.umask) w.state).1) := by
        rw [journalStep_turn h]
        exact Function.update_self ..
      have hstate : (journalStep host w (.turn thread)).state =
          (p.turn (Step.run host.umask) w.state).2 := by rw [journalStep_turn h]
      rw [turns, ← hstate] at hturns
      rw [List.replicate_succ, run_cons, ih hnext hturns, journalStep_turn h, Function.update_idem]

/-- A call that begins, and runs alone. -/
theorem run_call {thread : ℕ} {call : Call} {q : Proc Outcome} {t : Disk}
    (hfree : w.running thread = none)
    (hreaches : Reaches (Step.run host.umask) (call.process host thread) w.state q t) :
    ∃ n, run (journalStep host) w (.begins thread call :: List.replicate n (.turn thread)) =
      ⟨t, Function.update w.running thread (some ((call, w.state), q))⟩ := by
  have hbegun : journalStep host w (.begins thread call) = ⟨w.state,
      Function.update w.running thread
        (some ((call, w.state), call.process host thread))⟩ := by
    rw [journalStep, JournalEvent.toEvent, Pool.step, hfree]
    rfl
  have hrunning : (journalStep host w (.begins thread call)).running thread =
      some ((call, w.state), call.process host thread) := by
    rw [hbegun]
    exact Function.update_self ..
  have hstate : (journalStep host w (.begins thread call)).state = w.state := by rw [hbegun]
  rw [← hstate] at hreaches
  obtain ⟨n, hn⟩ := run_turns hrunning hreaches
  refine ⟨n, ?_⟩
  rw [run_cons, hn, hbegun, Function.update_idem]

theorem journalStep_fault {thread : ℕ} {l : Call × Disk} {p : Proc Outcome}
    (h : w.running thread = some (l, p)) : journalStep host w (.fault thread) =
      ⟨w.state, Function.update w.running thread
        (some (l, p.fault (.error (.io .other)) (.io .other)))⟩ := by
  rw [journalStep, JournalEvent.toEvent, Pool.step, h]
  rfl

/-- An intent is published, and a call of `complete` puts its tombstone there and cannot
synchronize the directory. -/
def unsyncedRun (intent : RenameMoveIntent) (draw draw' : Uuid) (n m : ℕ) : List JournalEvent :=
  (.begins 0 (.publish draw intent) :: List.replicate n (.turn 0)) ++
    ((.begins 1 (.complete draw' intent.operationId intent) :: List.replicate m (.turn 1)) ++
      [.fault 1])

theorem usedIn_unsyncedRun {intent other : RenameMoveIntent} {draw draw' : Uuid} {n m : ℕ}
    (h : UsedIn (unsyncedRun intent draw draw' n m) other) : other = intent := by
  obtain ⟨thread, call, hmem, rfl⟩ := h
  simp only [unsyncedRun, List.mem_append, List.mem_cons, List.mem_replicate, List.not_mem_nil,
    JournalEvent.begins.injEq, reduceCtorEq, and_false, or_false] at hmem
  rcases hmem with ⟨-, rfl⟩ | ⟨-, rfl⟩
  · rfl
  · rfl

/-- What there is after it. -/
def unsyncedWorld (intent : RenameMoveIntent) (draw draw' : Uuid) (d t : Disk) : JournalWorld where
  state := t
  running := fun
    | 0 => some ((.publish draw intent, .empty), .done (.ok (.publish .published)))
    | 1 => some ((.complete draw' intent.operationId intent, d),
        .done (.error (.publishedButNotSynced .other)))
    | _ + 2 => none

theorem file_empty (area : Area) (name : Name) : Disk.empty.file area name = none := by
  cases area <;> rfl

/-- A publication that runs alone to its end. -/
theorem exists_publishedRun {intent : RenameMoveIntent} (hpublishable : Publishable host intent)
    (draw : Uuid) : ∃ n d,
      journalAfter host (.begins 0 (.publish draw intent) :: List.replicate n (.turn 0)) =
        ⟨d, Function.update (fun _ => none) 0
          (some ((.publish draw intent, .empty), .done (.ok (.publish .published))))⟩ ∧
      Disk.empty.Puts .journal (.entry intent.operationId)
        ⟨0, 0o600, utf8Bytes intent.json⟩ d := by
  have hempty : Disk.empty.Sound host (· = intent) := by
    intro area operationId node hnode
    rw [file_empty] at hnode
    cases hnode
  obtain ⟨d, hd, hpublish⟩ := reaches_publish 0 draw hempty hpublishable
    (file_empty _ _) (file_empty _ _)
  have hidle : JournalWorld.initial.running 0 = none := rfl
  obtain ⟨n, hn⟩ := run_call hidle hpublish
  exact ⟨n, d, hn, hd⟩

theorem exists_unsyncedRun {intent : RenameMoveIntent} (hpublishable : Publishable host intent)
    (draw draw' : Uuid) : ∃ n m d t,
      journalAfter host (unsyncedRun intent draw draw' n m) =
        unsyncedWorld intent draw draw' d t ∧
      Disk.empty.Puts .journal (.entry intent.operationId)
        ⟨0, 0o600, utf8Bytes intent.json⟩ d ∧
      d.Puts .completed (.entry intent.operationId)
        ⟨1, 0o600, recordBytes host intent .completed⟩ t := by
  obtain ⟨n, d, hn, hd⟩ := exists_publishedRun hpublishable draw
  rw [journalAfter] at hn
  have hsound : d.Sound host (· = intent) := by
    intro area operationId node hnode
    rw [hd, file_empty] at hnode
    split at hnode
    · rename_i hname
      obtain ⟨rfl, hname⟩ := hname
      cases hname
      cases hnode
      have hprivate : Snapshots.isPrivateFileMode 0o600 = true := by decide
      exact ⟨hprivate, intent, rfl, hpublishable, rfl, rfl, nofun⟩
    · cases hnode
  have hnone : ∀ name, d.file .completed name = none := by
    intro name
    rw [hd, file_empty, if_neg fun h => nomatch h.1]
  obtain ⟨p, t, ht, hcomplete, hfault⟩ := reaches_complete 1 draw' hsound hpublishable
    ⟨_, hd.file, rfl⟩ (hnone _) (hnone _)
  have hidle : (run (journalStep host) .initial
      (.begins 0 (.publish draw intent) :: List.replicate n (.turn 0))).running 1 = none := by
    rw [hn]
    rfl
  have hstate : (run (journalStep host) .initial
      (.begins 0 (.publish draw intent) :: List.replicate n (.turn 0))).state = d := by rw [hn]
  rw [← hstate] at hcomplete
  obtain ⟨m, hm⟩ := run_call hidle hcomplete
  refine ⟨n, m, d, t, ?_, hd, ht⟩
  rw [journalAfter, unsyncedRun, run_append, run_append, hm, run_cons, run_nil,
    journalStep_fault rfl, hfault, Function.update_idem, hn]
  refine congrArg (Pool.mk t) (funext fun thread => ?_)
  match thread with
  | 0 => rfl
  | 1 => rfl
  | thread + 2 => rfl

theorem childNames_le_of_only {d : Disk} (name : Name) (h : ∀ other, d.file .journal other ≠ none →
    other = name) : d.childNames.length ≤ 2 := by
  have hkeys := d.journal.nodup_keys
  have hall : ∀ key ∈ d.journal.rows.map Prod.fst, key = name := by
    intro key hkey
    obtain ⟨row, hrow, rfl⟩ := List.mem_map.mp hkey
    refine h row.1 ?_
    rw [Disk.file, Disk.directory, Table.lookup_eq_some_iff.mpr ⟨hrow, rfl⟩]
    rintro ⟨⟩
  have hlength : (d.journal.rows.map Prod.fst).length ≤ 1 := by
    rw [List.eq_replicate_of_mem hall] at hkeys ⊢
    rw [List.length_replicate]
    exact List.nodup_replicate.mp hkeys
  rw [List.length_map] at hlength
  rw [Disk.childNames, List.length_cons, List.length_map]
  omega

/-- An operation. -/
def sampleOperationId : Uuid :=
  ⟨[0x2a, 0x2a, 0x2a, 0x2a, 0x2a, 0x2a, 0x4a, 0x2a, 0x8a, 0x2a, 0x2a, 0x2a, 0x2a, 0x2a, 0x2a, 0x2a],
    rfl⟩

/-- The intent to rename a note. -/
def sampleIntent : RenameMoveIntent where
  version := 4
  operationId := sampleOperationId
  source := "a.md"
  destination := "b.md"
  expected := ⟨String.ofList (List.replicate 64 'a'), 1⟩
  temp := none
  kind := .normalMove

theorem publishable_sampleIntent :
    Publishable (.knowing .ascii constantDigest sampleIntent) sampleIntent where
  valid := by decide +kernel
  size := by decide +kernel

/-- **An operation may leave the list without a success.**  Where no call was cut off, a call
that has succeeded is still there at its end; here none of `complete` is, and the operation
that was published is not listed. -/
theorem hidden_without_success :
    ¬ ∀ (host : Host) (events : List JournalEvent) (thread : ℕ) (draw : Uuid)
      (intent : RenameMoveIntent) (d : Disk) (outcome : PublishOutcome),
      host.Reads (UsedIn events) → (∀ thread, .cut thread ∉ events) →
      (journalAfter host events).running thread =
        some ((.publish draw intent, d), .done (.ok (.publish outcome))) →
      listPage host (journalAfter host events).state (journalAfter host events).state.childNames
        none maxPageSize = .ok ([], none) →
      ∃ thread' draw' d' outcome', (journalAfter host events).running thread' =
        some ((.complete draw' intent.operationId intent, d'),
          .done (.ok (.complete outcome'))) := by
  intro h
  have hpublishable := publishable_sampleIntent
  obtain ⟨n, m, d, t, hworld, hd, ht⟩ :=
    exists_unsyncedRun hpublishable sampleOperationId sampleOperationId
  have hreads : (Host.knowing .ascii constantDigest sampleIntent).Reads
      (UsedIn (unsyncedRun sampleIntent sampleOperationId sampleOperationId n m)) :=
    reads_knowing (fun _ => usedIn_unsyncedRun) hpublishable
  have hcut : ∀ thread, .cut thread ∉
      unsyncedRun sampleIntent sampleOperationId sampleOperationId n m := by
    intro thread
    simp [unsyncedRun]
  have hkept : Kept (.knowing .ascii constantDigest sampleIntent) _ (journalAfter _
      (unsyncedRun sampleIntent sampleOperationId sampleOperationId n m)) :=
    kept_journalAfter (List.prefix_refl _)
  rw [hworld] at hkept
  have hsound : t.Sound _ _ := hkept.sound
  have hchildren : t.childNames.length ≤ 2 := by
    refine childNames_le_of_only (.entry sampleIntent.operationId) fun other hother => ?_
    rw [ht, hd, file_empty, if_neg fun hname => nomatch hname.1] at hother
    split at hother
    · rename_i hname
      exact hname.2
    · exact absurd rfl hother
  have hnone : openIntents (.knowing .ascii constantDigest sampleIntent) t = [] := by
    refine List.eq_nil_iff_forall_not_mem.mpr fun intent hintent => ?_
    obtain ⟨hused, hopen⟩ := (mem_openIntents hsound hreads).mp hintent
    obtain rfl := usedIn_unsyncedRun hused
    exact nomatch ht.file.symm.trans hopen.notCompleted
  have hlist : listPage (.knowing .ascii constantDigest sampleIntent) t t.childNames none
      maxPageSize = .ok ([], none) := by
    have hbound : t.childNames.length ≤ maxDirectoryEntryCount := hchildren.trans (by decide)
    have hfew : (openIntents (.knowing .ascii constantDigest sampleIntent) t).length ≤
        maxEntryCount := by
      rw [hnone]
      exact Nat.zero_le _
    rw [listPage_eq hsound hreads (List.Perm.refl _) hbound hfew (by decide), openPage_done]
    · exact congrArg (fun listed => Except.ok (listed, none)) hnone
    · exact (congrArg List.length hnone).le.trans (Nat.zero_le _)
  obtain ⟨thread', draw', d', outcome', hdone⟩ := h _ _ 0 sampleOperationId sampleIntent .empty
    .published hreads hcut (by rw [hworld]; rfl) (by rw [hworld]; exact hlist)
  rw [hworld] at hdone
  match thread', hdone with
  | 0, hdone => cases hdone
  | 1, hdone => cases hdone
  | thread' + 2, hdone => cases hdone

/-- A publication that has come to its end, and the pages that list it. -/
theorem journal_lists_after_publish :
    ∃ n, ∃ events : List JournalEvent,
      events = .begins 0 (.publish sampleOperationId sampleIntent) :: List.replicate n (.turn 0) ∧
      (journalAfter (.knowing .ascii constantDigest sampleIntent) events).running 0 =
        some ((.publish sampleOperationId sampleIntent, .empty),
          .done (.ok (.publish .published))) ∧
      Lists (.knowing .ascii constantDigest sampleIntent)
        (journalAfter (.knowing .ascii constantDigest sampleIntent) events).state
        [sampleIntent] := by
  have hpublishable := publishable_sampleIntent
  obtain ⟨n, d, hworld, hd⟩ := exists_publishedRun hpublishable sampleOperationId
  have hused : ∀ other, UsedIn (.begins 0 (.publish sampleOperationId sampleIntent) ::
      List.replicate n (.turn 0)) other → other = sampleIntent := by
    rintro other ⟨thread, call, hmem, rfl⟩
    simp only [List.mem_cons, JournalEvent.begins.injEq, List.mem_replicate, reduceCtorEq,
      and_false, or_false] at hmem
    rw [hmem.2]
    rfl
  have hreads := reads_knowing hused hpublishable
  have hsound : (journalAfter (.knowing .ascii constantDigest sampleIntent)
      (.begins 0 (.publish sampleOperationId sampleIntent) ::
        List.replicate n (.turn 0))).state.Sound _ _ :=
    (kept_journalAfter (List.prefix_refl _)).sound
  refine ⟨n, _, rfl, by rw [hworld]; rfl, ?_⟩
  have hchildren : d.childNames.length ≤ 2 := by
    refine childNames_le_of_only (.entry sampleIntent.operationId) fun other hother => ?_
    rw [hd, file_empty] at hother
    split at hother
    · rename_i hname
      exact hname.2
    · exact absurd rfl hother
  have hopen : d.IsOpen sampleIntent := by
    refine ⟨⟨_, hd.file, rfl⟩, ?_⟩
    rw [hd, file_empty, if_neg fun h => by cases h.1]
  have hone : openIntents (.knowing .ascii constantDigest sampleIntent) d = [sampleIntent] := by
    rw [hworld] at hsound
    have hmem : ∀ intent, intent ∈ openIntents (.knowing .ascii constantDigest sampleIntent) d ↔
        intent = sampleIntent := by
      intro intent
      rw [mem_openIntents hsound hreads]
      constructor
      · exact fun h => hused _ h.1
      · rintro rfl
        exact ⟨⟨0, _, List.mem_cons_self .., rfl⟩, hopen⟩
    have hnodup : (openIntents (.knowing .ascii constantDigest sampleIntent) d).Nodup :=
      (pairwise_openIntents hsound hreads).imp fun hlt heq => by
        rw [heq] at hlt
        exact lt_irrefl _ hlt
    exact List.perm_singleton.mp ((List.perm_ext_iff_of_nodup hnodup (List.nodup_singleton _)).mpr
      fun intent => by rw [hmem, List.mem_singleton])
  have hlists := ((journal_binds_and_lists hreads).2.2.2.2.2
    (by rw [hworld]; exact hchildren.trans (by decide))
    (by rw [hworld]; exact (congrArg List.length hone).le.trans (by decide))).2.2
  rw [hworld] at hlists ⊢
  rwa [hone] at hlists

end Recovery
end MyVault
