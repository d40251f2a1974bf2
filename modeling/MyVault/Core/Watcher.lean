import MyVault.Library.Runs
import MyVault.Library.SortedMap
import Mathlib.Data.Finset.Basic
import Mathlib.Data.String.Basic

/-!
# Coalescing a watcher burst

`myvault-core/src/watcher.rs`: `BurstNormalizer` collects the events of a burst and puts
them out as the renames in their order, and then one event for each path.  The normalizer
compares paths and does nothing else with them, so a path here is of any ordered type.

The abstract layer says what a burst is for.  A tree maps paths to contents, a change
changes the tree and is reported by one raw event, and an index that applies the output
should become the tree.  It does not if a path was written and then renamed in the burst:
the rename takes the pending upsert away, and the index moves the entry it had before.  These
are the paths of `lostPaths`, and a burst keeps the index exactly if none is left at its end
(`burst_keeps_index_iff`).

`SelfWriteSuppressor` hides the echoes of the application's own writes.  An event is hidden
exactly if the last write recorded for its path had its fingerprint, is not out of date and has
not hidden another event since (`shouldSuppress_iff`).

## Lost and stale

A path is lost when the rename takes its pending upsert away.  Whether the index is then wrong
depends on what the file had before, so the property is about every tree and every list of changes
that reports the events (`KeepsIndex`), and a lost path is made stale by a change of its content
(`written_and_renamed_is_stale`).  In the other direction every path is up to date, pending or
lost, and every event keeps that (`Marked`).
-/

namespace MyVault
namespace Watcher

/-! ## The normalizer -/

/-- A filesystem event before coalescing. -/
inductive RawEvent (P : Type) where
  | create (path : P)
  | modify (path : P)
  | delete (path : P)
  | rename (source target : P)
  deriving DecidableEq, Repr

/-- What a burst of raw events comes to for a path. -/
inductive NormalizedEvent (P : Type) where
  | upsert (path : P)
  | delete (path : P)
  | rename (source target : P)
  deriving DecidableEq, Repr

/-- The events of a burst: one for each path, and the renames in order. -/
structure BurstNormalizer (P : Type) [LinearOrder P] where
  byPath : SortedMap P (NormalizedEvent P)
  renames : List (NormalizedEvent P)

namespace BurstNormalizer

variable {P : Type} [LinearOrder P]

/-- `BurstNormalizer::default`. -/
def new : BurstNormalizer P := ⟨.empty, []⟩

/-- What an event does to the burst. -/
def push (burst : BurstNormalizer P) : RawEvent P → BurstNormalizer P
  | .create path | .modify path =>
      { burst with byPath := burst.byPath.insert path (.upsert path) }
  | .delete path => { burst with byPath := burst.byPath.insert path (.delete path) }
  | .rename source target =>
      { byPath := (burst.byPath.erase source).erase target
        renames := burst.renames ++ [.rename source target] }

/-- The events of the burst: the renames in order, and then one event for each path. -/
def finish (burst : BurstNormalizer P) : List (NormalizedEvent P) :=
  burst.renames ++ burst.byPath.values

/-- The output for a burst. -/
def normalize (events : List (RawEvent P)) : List (NormalizedEvent P) :=
  (events.foldl push new).finish

end BurstNormalizer

/-! ## Trees and changes -/

/-- The content of a file. -/
abbrev Content := List UInt8

/-- The files of a filesystem, or the entries of an index. -/
abbrev Tree (P : Type) := P → Option Content

/-- A change of the filesystem. -/
inductive Change (P : Type) where
  | create (path : P) (content : Content)
  | modify (path : P) (content : Content)
  | delete (path : P)
  | rename (source target : P)

variable {P : Type} [LinearOrder P]

/-- The event that reports a change. -/
def Change.event : Change P → RawEvent P
  | .create path _ => .create path
  | .modify path _ => .modify path
  | .delete path => .delete path
  | .rename source target => .rename source target

/-- Sets or removes one path. -/
def Tree.set (tree : Tree P) (path : P) (content : Option Content) : Tree P :=
  fun other => if other = path then content else tree other

/-- Moves what is at the source, if there is anything, over the target. -/
def Tree.move (tree : Tree P) (source target : P) : Tree P :=
  match tree source with
  | none => tree
  | some content => (tree.set source none).set target (some content)

/-- What the change does to the files. -/
def Change.apply (tree : Tree P) : Change P → Tree P
  | .create path content | .modify path content => tree.set path (some content)
  | .delete path => tree.set path none
  | .rename source target => tree.move source target

/-- Only what is there can be renamed. -/
def Change.Possible (tree : Tree P) : Change P → Prop
  | .rename source _ => tree source ≠ none
  | _ => True

/-- Each change is possible where the ones before have left the files. -/
def AllPossible : Tree P → List (Change P) → Prop
  | _, [] => True
  | tree, change :: changes => change.Possible tree ∧ AllPossible (change.apply tree) changes

/-- An index applies an event; an upsert reads the path from the filesystem. -/
def NormalizedEvent.apply (disk index : Tree P) : NormalizedEvent P → Tree P
  | .upsert path => index.set path (disk path)
  | .delete path => index.set path none
  | .rename source target => index.move source target

/-- The index after the output of a burst. -/
def indexAfter (disk index : Tree P) (events : List (NormalizedEvent P)) : Tree P :=
  events.foldl (NormalizedEvent.apply disk) index

/-- The index of a tree follows every burst of changes that these events report. -/
def KeepsIndex (events : List (RawEvent P)) : Prop :=
  ∀ (start : Tree P) (changes : List (Change P)), changes.map Change.event = events →
    AllPossible start changes →
    indexAfter (changes.foldl Change.apply start) start (BurstNormalizer.normalize events) =
      changes.foldl Change.apply start

/-- Some changes have these events. -/
def Reported (events : List (RawEvent P)) : Prop :=
  ∃ (start : Tree P) (changes : List (Change P)), changes.map Change.event = events ∧
    AllPossible start changes

/-! ## Lost writes -/

/-- The paths whose last write no event of the output reports any more: a rename has taken
the pending event of its source, or its source was such a path itself. -/
def lostAfter (burst : BurstNormalizer P) (lost : Finset P) : RawEvent P → Finset P
  | .create path | .modify path | .delete path => lost.erase path
  | .rename source target =>
      if (burst.byPath.lookup source).isSome ∨ source ∈ lost then
        insert target (lost.erase source)
      else (lost.erase source).erase target

/-- The normalizer and the lost paths, event by event. -/
def track (state : BurstNormalizer P × Finset P) (event : RawEvent P) :
    BurstNormalizer P × Finset P :=
  (state.1.push event, lostAfter state.1 state.2 event)

/-- The paths whose write is lost at the end of a burst. -/
def lostPaths (events : List (RawEvent P)) : Finset P := (events.foldl track (.new, ∅)).2

/-! ## Moves -/

section Trees

variable {tree disk index : Tree P} {path source target other : P}

theorem Tree.set_self {content : Option Content} : tree.set path content path = content :=
  if_pos rfl

theorem Tree.set_of_ne {content : Option Content} (h : other ≠ path) :
    tree.set path content other = tree other := if_neg h

theorem Tree.move_target (h : tree source ≠ none) :
    tree.move source target target = tree source := by
  cases hsource : tree source with
  | none => exact absurd hsource h
  | some content =>
      rw [Tree.move, hsource]
      exact Tree.set_self

theorem Tree.move_source (h : source ≠ target) : tree.move source target source = none := by
  cases hsource : tree source with
  | none =>
      rw [Tree.move, hsource]
      exact hsource
  | some content =>
      rw [Tree.move, hsource]
      exact (Tree.set_of_ne h).trans Tree.set_self

theorem Tree.move_of_ne (hsource : other ≠ source) (htarget : other ≠ target) :
    tree.move source target other = tree other := by
  cases h : tree source with
  | none => rw [Tree.move, h]
  | some content =>
      rw [Tree.move, h]
      exact (Tree.set_of_ne htarget).trans (Tree.set_of_ne hsource)

/-- The renames of a burst, on the index alone. -/
def RawEvent.movesIndex (index : Tree P) : RawEvent P → Tree P
  | .rename source target => index.move source target
  | _ => index

theorem indexAfter_renames (events : List (RawEvent P)) (burst : BurstNormalizer P) :
    indexAfter disk index (events.foldl BurstNormalizer.push burst).renames =
      events.foldl RawEvent.movesIndex (indexAfter disk index burst.renames) := by
  induction events generalizing burst with
  | nil => rfl
  | cons event events ih =>
      rw [List.foldl_cons, List.foldl_cons, ih]
      congr 1
      cases event with
      | create => rfl
      | modify => rfl
      | delete => rfl
      | rename source target =>
          show indexAfter disk index (burst.renames ++ [.rename source target]) = _
          rw [indexAfter, List.foldl_append]
          rfl

/-- What a pending event says of its path. -/
def Describes (disk : Tree P) (path : P) (event : NormalizedEvent P) : Prop :=
  event = .upsert path ∨ event = .delete path ∧ disk path = none

/-- The pending events, applied in any order, bring their paths up to date. -/
theorem indexAfter_pending {entries : List (P × NormalizedEvent P)}
    (h : ∀ entry ∈ entries, Describes disk entry.1 entry.2) :
    indexAfter disk index (entries.map (·.2)) other =
      if other ∈ entries.map (·.1) then disk other else index other := by
  induction entries generalizing index with
  | nil => rfl
  | cons entry entries ih =>
      have hset : NormalizedEvent.apply disk index entry.2 = index.set entry.1 (disk entry.1) := by
        rcases h entry List.mem_cons_self with hevent | ⟨hevent, hnone⟩
        · rw [hevent]
          rfl
        · rw [hevent, hnone]
          rfl
      rw [List.map_cons, List.map_cons, indexAfter, List.foldl_cons, hset]
      refine (ih fun entry hentry => h entry (List.mem_cons_of_mem _ hentry)).trans ?_
      by_cases hrest : other ∈ entries.map (·.1)
      · rw [if_pos hrest, if_pos (List.mem_cons_of_mem _ hrest)]
      · rw [if_neg hrest]
        by_cases hfirst : other = entry.1
        · rw [if_pos (List.mem_cons.mpr (Or.inl hfirst)), hfirst, Tree.set_self]
        · rw [if_neg (by simp [hfirst, hrest]), Tree.set_of_ne hfirst]

end Trees

/-! ## The path is up to date, pending or lost -/

section Agreement

variable {burst : BurstNormalizer P} {lost : Finset P} {disk index : Tree P}
  {path source target : P}

/-- Every path that is neither pending nor lost is where the moves have put it. -/
structure Agrees (burst : BurstNormalizer P) (lost : Finset P) (disk index : Tree P) : Prop where
  pending : ∀ path event, burst.byPath.lookup path = some event →
    path ∉ lost ∧ Describes disk path event
  same : ∀ path, burst.byPath.lookup path = none → path ∉ lost → index path = disk path

theorem Agrees.set {content : Option Content} {event : NormalizedEvent P}
    (h : Agrees burst lost disk index)
    (hevent : event = .upsert path ∨ event = .delete path ∧ content = none) :
    Agrees { burst with byPath := burst.byPath.insert path event } (lost.erase path)
      (disk.set path content) index := by
  constructor
  · intro other found hfound
    rw [SortedMap.lookup_insert] at hfound
    by_cases hother : other = path
    · subst hother
      rw [if_pos rfl, Option.some.injEq] at hfound
      subst hfound
      refine ⟨Finset.notMem_erase _ _, hevent.imp_right fun hdelete => ⟨hdelete.1, ?_⟩⟩
      rw [Tree.set_self]
      exact hdelete.2
    · rw [if_neg hother] at hfound
      obtain ⟨hkept, hdescribes⟩ := h.pending other found hfound
      refine ⟨fun hmem => hkept (Finset.mem_of_mem_erase hmem), ?_⟩
      rwa [Describes, Tree.set_of_ne hother]
  · intro other hnone hkept
    rw [SortedMap.lookup_insert] at hnone
    by_cases hother : other = path
    · rw [if_pos hother] at hnone
      cases hnone
    · rw [if_neg hother] at hnone
      rw [Tree.set_of_ne hother]
      exact h.same other hnone fun hmem => hkept (Finset.mem_erase.mpr ⟨hother, hmem⟩)

theorem lookup_after_rename {other : P} {event : NormalizedEvent P}
    (h : ((burst.byPath.erase source).erase target).lookup other = some event) :
    other ≠ source ∧ other ≠ target ∧ burst.byPath.lookup other = some event := by
  rw [SortedMap.lookup_erase, SortedMap.lookup_erase] at h
  split at h
  · cases h
  · split at h
    · cases h
    · exact ⟨‹_›, ‹_›, h⟩

theorem Agrees.rename (h : Agrees burst lost disk index) (hthere : disk source ≠ none) :
    Agrees (burst.push (.rename source target)) (lostAfter burst lost (.rename source target))
      (disk.move source target) (index.move source target) := by
  have hlost : ∀ other, other ≠ source → other ≠ target →
      (other ∈ lostAfter burst lost (.rename source target) ↔ other ∈ lost) := by
    intro other hsource htarget
    rw [lostAfter]
    split <;> simp [hsource, htarget]
  constructor
  · intro other event hevent
    obtain ⟨hsource, htarget, hevent⟩ := lookup_after_rename hevent
    obtain ⟨hkept, hdescribes⟩ := h.pending other event hevent
    rw [hlost other hsource htarget, Describes, Tree.move_of_ne hsource htarget]
    exact ⟨hkept, hdescribes⟩
  · intro other hnone hkept
    by_cases htarget : other = target
    · subst htarget
      rw [lostAfter] at hkept
      split at hkept
      · exact absurd (Finset.mem_insert_self _ _) hkept
      · -- the source was up to date
        rename_i hfound
        rw [not_or, Option.isSome_iff_ne_none, not_not] at hfound
        have hsame := h.same source hfound.1 hfound.2
        rw [Tree.move_target hthere, Tree.move_target (hsame ▸ hthere), hsame]
    · by_cases hsource : other = source
      · subst hsource
        rw [Tree.move_source htarget, Tree.move_source htarget]
      · rw [Tree.move_of_ne hsource htarget, Tree.move_of_ne hsource htarget]
        refine h.same other ?_ (mt (hlost other hsource htarget).mpr hkept)
        change ((burst.byPath.erase source).erase target).lookup other = none at hnone
        rwa [SortedMap.lookup_erase, if_neg htarget, SortedMap.lookup_erase, if_neg hsource]
          at hnone

theorem Agrees.push {change : Change P} (h : Agrees burst lost disk index)
    (hpossible : change.Possible disk) :
    Agrees (burst.push change.event) (lostAfter burst lost change.event) (change.apply disk)
      (change.event.movesIndex index) := by
  cases change with
  | create path content => exact h.set (Or.inl rfl)
  | modify path content => exact h.set (Or.inl rfl)
  | delete path => exact h.set (Or.inr ⟨rfl, rfl⟩)
  | rename source target => exact h.rename hpossible

theorem Agrees.pushAll {changes : List (Change P)} (h : Agrees burst lost disk index)
    (hpossible : AllPossible disk changes) :
    Agrees ((changes.map Change.event).foldl BurstNormalizer.push burst)
      ((changes.map Change.event).foldl track (burst, lost)).2
      (changes.foldl Change.apply disk)
      ((changes.map Change.event).foldl RawEvent.movesIndex index) := by
  induction changes generalizing burst lost disk index with
  | nil => exact h
  | cons change changes ih => exact ih (h.push hpossible.1) hpossible.2

/-- The index after a burst: what was pending is up to date, the rest is where it was moved. -/
theorem Agrees.indexAfter_finish (h : Agrees burst lost disk index) {start : Tree P}
    (hmoves : indexAfter disk start burst.renames = index) (other : P) :
    indexAfter disk start burst.finish other =
      if (burst.byPath.lookup other).isSome then disk other else index other := by
  have hdescribes : ∀ entry ∈ burst.byPath.entries, Describes disk entry.1 entry.2 :=
    fun entry hentry => (h.pending entry.1 entry.2 (SortedMap.lookup_eq_some_iff.mpr hentry)).2
  have hkeys : other ∈ burst.byPath.entries.map (·.1) ↔
      (burst.byPath.lookup other).isSome = true := by
    rw [Option.isSome_iff_exists, List.mem_map]
    constructor
    · rintro ⟨entry, hentry, rfl⟩
      exact ⟨entry.2, SortedMap.lookup_eq_some_iff.mpr hentry⟩
    · rintro ⟨event, hevent⟩
      exact ⟨(other, event), SortedMap.lookup_eq_some_iff.mp hevent, rfl⟩
  rw [BurstNormalizer.finish, indexAfter, List.foldl_append]
  refine (indexAfter_pending hdescribes).trans ?_
  rw [if_congr hkeys rfl rfl]
  split
  · rfl
  · rw [← hmoves]
    rfl

end Agreement

/-! ## A lost path can be stale -/

section Marks

variable {burst : BurstNormalizer P} {lost : Finset P} {disk other index : Tree P}

/-- The content every file has before the burst. -/
def oldContent : Content := [0]

/-- The content every write of the burst puts. -/
def newContent : Content := [1]

/-- The same change with the new content. -/
def Change.mark : Change P → Change P
  | .create path _ => .create path newContent
  | .modify path _ => .modify path newContent
  | .delete path => .delete path
  | .rename source target => .rename source target

theorem Change.event_mark {Q : Type} (change : Change Q) : change.mark.event = change.event := by
  cases change <;> rfl

/-- Two trees with files at the same paths. -/
def SamePaths (disk other : Tree P) : Prop := ∀ path, disk path = none ↔ other path = none

theorem SamePaths.set (h : SamePaths disk other) {content content' : Option Content}
    (hcontent : content = none ↔ content' = none) (path : P) :
    SamePaths (disk.set path content) (other.set path content') := by
  intro asked
  by_cases hasked : asked = path
  · rw [hasked, Tree.set_self, Tree.set_self]
    exact hcontent
  · rw [Tree.set_of_ne hasked, Tree.set_of_ne hasked]
    exact h asked

theorem SamePaths.move (h : SamePaths disk other) (source target : P) :
    SamePaths (disk.move source target) (other.move source target) := by
  cases hdisk : disk source with
  | none =>
      rw [Tree.move, hdisk, Tree.move, (h source).mp hdisk]
      exact h
  | some content =>
      obtain ⟨content', hother⟩ := Option.ne_none_iff_exists'.mp
        (mt (h source).mpr (hdisk ▸ Option.some_ne_none content))
      rw [Tree.move, hdisk, Tree.move, hother]
      exact (h.set Iff.rfl source).set (by simp) target

theorem allPossible_mark {changes : List (Change P)} (h : SamePaths disk other)
    (hpossible : AllPossible disk changes) : AllPossible other (changes.map Change.mark) := by
  induction changes generalizing disk other with
  | nil => trivial
  | cons change changes ih =>
      obtain ⟨hfirst, hrest⟩ := hpossible
      cases change with
      | create path content => exact ⟨trivial, ih (h.set (by simp) path) hrest⟩
      | modify path content => exact ⟨trivial, ih (h.set (by simp) path) hrest⟩
      | delete path => exact ⟨trivial, ih (h.set Iff.rfl path) hrest⟩
      | rename source target =>
          exact ⟨mt (h source).mpr hfirst, ih (h.move source target) hrest⟩

/-- Only writes of the burst have put the new content, and the moves know nothing of it. -/
structure Marked (burst : BurstNormalizer P) (lost : Finset P) (disk index : Tree P) :
    Prop where
  lost : ∀ path ∈ lost, disk path = some newContent
  pending : ∀ path event, burst.byPath.lookup path = some event →
    disk path = none ∨ disk path = some newContent
  index : ∀ path, index path ≠ some newContent

theorem Marked.set {content : Option Content} {event : NormalizedEvent P} {path : P}
    (h : Marked burst lost disk index) (hcontent : content = none ∨ content = some newContent) :
    Marked { burst with byPath := burst.byPath.insert path event } (lost.erase path)
      (disk.set path content) index := by
  refine ⟨fun asked hasked => ?_, fun asked found hfound => ?_, h.index⟩
  · obtain ⟨hne, hmem⟩ := Finset.mem_erase.mp hasked
    rw [Tree.set_of_ne hne]
    exact h.lost asked hmem
  · by_cases hasked : asked = path
    · rw [hasked, Tree.set_self]
      exact hcontent
    · rw [Tree.set_of_ne hasked]
      rw [SortedMap.lookup_insert, if_neg hasked] at hfound
      exact h.pending asked found hfound

theorem Marked.rename {source target : P} (h : Marked burst lost disk index)
    (hthere : disk source ≠ none) :
    Marked (burst.push (.rename source target)) (lostAfter burst lost (.rename source target))
      (disk.move source target) (index.move source target) := by
  have hkept : ∀ path ∈ lost, path ≠ source → path ≠ target →
      disk.move source target path = some newContent := by
    intro path hpath hsource htarget
    rw [Tree.move_of_ne hsource htarget]
    exact h.lost path hpath
  refine ⟨fun path hpath => ?_, fun path event hevent => ?_, fun path => ?_⟩
  · rw [lostAfter] at hpath
    split at hpath
    · rename_i hfound
      by_cases htarget : path = target
      · -- what was written at the source has moved here
        rw [htarget, Tree.move_target hthere]
        rcases hfound with hpending | hmem
        · obtain ⟨event, hevent⟩ := Option.isSome_iff_exists.mp hpending
          exact (h.pending source event hevent).resolve_left hthere
        · exact h.lost source hmem
      · obtain ⟨hsource, hmem⟩ := Finset.mem_erase.mp (Finset.mem_of_mem_insert_of_ne hpath htarget)
        exact hkept path hmem hsource htarget
    · obtain ⟨htarget, hpath⟩ := Finset.mem_erase.mp hpath
      obtain ⟨hsource, hmem⟩ := Finset.mem_erase.mp hpath
      exact hkept path hmem hsource htarget
  · obtain ⟨hsource, htarget, hevent⟩ := lookup_after_rename hevent
    rw [Tree.move_of_ne hsource htarget]
    exact h.pending path event hevent
  · by_cases hnone : index source = none
    · rw [Tree.move, hnone]
      exact h.index path
    · by_cases htarget : path = target
      · rw [htarget, Tree.move_target hnone]
        exact h.index source
      · by_cases hsource : path = source
        · subst hsource
          rw [Tree.move_source htarget]
          exact nofun
        · rw [Tree.move_of_ne hsource htarget]
          exact h.index path

theorem Marked.pushAll {changes : List (Change P)} (h : Marked burst lost disk index)
    (hpossible : AllPossible disk (changes.map Change.mark)) :
    Marked ((changes.map Change.event).foldl BurstNormalizer.push burst)
      ((changes.map Change.event).foldl track (burst, lost)).2
      ((changes.map Change.mark).foldl Change.apply disk)
      ((changes.map Change.event).foldl RawEvent.movesIndex index) := by
  induction changes generalizing burst lost disk index with
  | nil => exact h
  | cons change changes ih =>
      obtain ⟨hfirst, hrest⟩ := hpossible
      cases change with
      | create path content => exact ih (h.set (Or.inr rfl)) hrest
      | modify path content => exact ih (h.set (Or.inr rfl)) hrest
      | delete path => exact ih (h.set (Or.inl rfl)) hrest
      | rename source target => exact ih (h.rename hfirst) hrest

end Marks

/-! ## The meaning of a burst -/

/-- **A burst keeps the index exactly if no write is lost at its end**: whatever the files
were before, and whatever was written, the index that applies the output is the
filesystem after the changes. -/
theorem burst_keeps_index_iff (events : List (RawEvent P)) :
    KeepsIndex events ↔ (Reported events → lostPaths events = ∅) := by
  have hmoves : ∀ disk start : Tree P,
      indexAfter disk start (events.foldl BurstNormalizer.push .new).renames =
        events.foldl RawEvent.movesIndex start := fun _ _ => indexAfter_renames events .new
  have hagrees : ∀ (start : Tree P) (changes : List (Change P)),
      changes.map Change.event = events → AllPossible start changes →
      Agrees (events.foldl BurstNormalizer.push .new) (lostPaths events)
        (changes.foldl Change.apply start) (events.foldl RawEvent.movesIndex start) := by
    rintro start changes rfl hpossible
    have hnew : Agrees (.new : BurstNormalizer P) ∅ start start := ⟨nofun, fun _ _ _ => rfl⟩
    exact hnew.pushAll hpossible
  constructor
  · rintro hkeeps ⟨start, changes, rfl, hpossible⟩
    -- every file had the old content, and every write put the new one
    have hsame : SamePaths start (fun path => (start path).map fun _ => oldContent) :=
      fun path => Option.map_eq_none_iff.symm
    have hmarked := allPossible_mark hsame hpossible
    have hevents : (changes.map Change.mark).map Change.event = changes.map Change.event := by
      rw [List.map_map]
      exact List.map_congr_left fun change _ => change.event_mark
    have hnew : Marked (.new : BurstNormalizer P) ∅
        (fun path => (start path).map fun _ => oldContent)
        (fun path => (start path).map fun _ => oldContent) := by
      refine ⟨nofun, nofun, fun path h => ?_⟩
      obtain ⟨_, -, hold⟩ := Option.map_eq_some_iff.mp h
      exact absurd hold (by decide)
    have hend := hnew.pushAll hmarked
    have hresult := hkeeps _ _ hevents hmarked
    refine Finset.eq_empty_iff_forall_notMem.mpr fun path hpath => ?_
    have hfinal := hagrees _ _ hevents hmarked
    have hat := congrFun hresult path
    rw [BurstNormalizer.normalize, hfinal.indexAfter_finish (hmoves _ _), hend.lost path hpath,
      if_neg ?_] at hat
    · exact hend.index path hat
    · intro hpending
      obtain ⟨event, hevent⟩ := Option.isSome_iff_exists.mp hpending
      exact (hfinal.pending path event hevent).1 hpath
  · intro hlost start changes hevents hpossible
    have hnone := hlost ⟨start, changes, hevents, hpossible⟩
    have hfinal := hagrees start changes hevents hpossible
    ext path : 1
    rw [BurstNormalizer.normalize, hfinal.indexAfter_finish (hmoves _ _)]
    split
    · rfl
    · rename_i hpending
      rw [Option.not_isSome_iff_eq_none] at hpending
      exact hfinal.same path hpending (by rw [hnone]; exact Finset.notMem_empty path)

/-- A note that is written and then renamed: the index moves what it had before. -/
theorem written_and_renamed_is_stale :
    ¬ KeepsIndex [.modify "note.md", .rename "note.md" "moved.md"] := by
  intro hkeeps
  have hresult := hkeeps (fun path => if path = "note.md" then some oldContent else none)
    [.modify "note.md" newContent, .rename "note.md" "moved.md"] rfl ⟨trivial, nofun, trivial⟩
  have hat := congrFun hresult "moved.md"
  revert hat
  decide

/-! ## Echoes of own writes -/

/-- What the writer knows of a file and the watcher sees of it. -/
structure WriteFingerprint where
  byteLen : ℕ
  contentTag : ℕ
  deriving DecidableEq, Repr

/-- A write of the program itself, and until when its echo is expected. -/
structure Suppression where
  fingerprint : WriteFingerprint
  expiresAtTick : ℕ
  deriving DecidableEq, Repr

/-- The writes whose echo is expected. -/
structure SelfWriteSuppressor (P : Type) where
  entries : P → Option Suppression

namespace SelfWriteSuppressor

/-- `SelfWriteSuppressor::default`. -/
def new {P : Type} : SelfWriteSuppressor P := ⟨fun _ => none⟩

section Calls

variable {P : Type} [DecidableEq P] (s : SelfWriteSuppressor P)

/-- A write is on its way; the entry of an earlier one to the same path goes. -/
def record (path : P) (fingerprint : WriteFingerprint) (expiresAtTick : ℕ) :
    SelfWriteSuppressor P :=
  ⟨Function.update s.entries path (some ⟨fingerprint, expiresAtTick⟩)⟩

/-- `entries.remove(path)`. -/
def remove (path : P) : SelfWriteSuppressor P := ⟨Function.update s.entries path none⟩

/-- Whether an event is the echo of a write, and the entries after the question. -/
def shouldSuppress (path : P) (observed : WriteFingerprint) (nowTick : ℕ) :
    Bool × SelfWriteSuppressor P :=
  match s.entries path with
  | none => (false, s)
  | some entry =>
      if entry.expiresAtTick < nowTick then (false, s.remove path)
      else if observed = entry.fingerprint then (true, s.remove path)
      else (false, s)

/-- Remove what has expired. -/
def pruneExpired (nowTick : ℕ) : SelfWriteSuppressor P :=
  ⟨fun path => (s.entries path).filter fun entry => decide (nowTick ≤ entry.expiresAtTick)⟩

end Calls

/-! ### Runs -/

/-- A call of the suppressor. -/
inductive Op (P : Type) where
  | record (path : P) (fingerprint : WriteFingerprint) (expiresAtTick : ℕ)
  | shouldSuppress (path : P) (observed : WriteFingerprint) (nowTick : ℕ)
  | pruneExpired (nowTick : ℕ)

section Tokens

variable {P : Type} {ops : List (Op P)} {op : Op P} {path : P} {entry : Suppression}

/-- The operation is called no later than this tick; `record` reads no clock. -/
def Op.NotAfter (now : ℕ) : Op P → Prop
  | .record .. => True
  | .shouldSuppress _ _ nowTick => nowTick ≤ now
  | .pruneExpired nowTick => nowTick ≤ now

/-- After the operation a write of these bytes at the path no longer hides an event: another
write is recorded there, or it has hidden one. -/
def Op.Ends (path : P) (fingerprint : WriteFingerprint) : Op P → Prop
  | .record other _ _ => other = path
  | .shouldSuppress other observed _ => other = path ∧ observed = fingerprint
  | .pruneExpired _ => False

/-- The last write recorded for the path has these bytes and this expiry, and it has hidden no
event yet. -/
def Pending (ops : List (Op P)) (path : P) (entry : Suppression) : Prop :=
  ∃ pre post, ops = pre ++ .record path entry.fingerprint entry.expiresAtTick :: post ∧
    ∀ op ∈ post, ¬ op.Ends path entry.fingerprint

theorem not_pending_nil : ¬ Pending [] path entry := by
  rintro ⟨pre, post, h, -⟩
  exact absurd h.symm (List.append_ne_nil_of_right_ne_nil pre (List.cons_ne_nil _ _))

theorem pending_concat : Pending (ops ++ [op]) path entry ↔
    op = .record path entry.fingerprint entry.expiresAtTick ∨
      Pending ops path entry ∧ ¬ op.Ends path entry.fingerprint := by
  constructor
  · rintro ⟨pre, post, h, hpost⟩
    induction post using List.reverseRecOn with
    | nil => exact Or.inl (List.singleton_inj.mp (List.append_inj' h rfl).2)
    | append_singleton post last _ =>
        rw [← List.cons_append, ← List.append_assoc] at h
        obtain ⟨rfl, hlast⟩ := List.append_inj' h rfl
        cases hlast
        refine Or.inr ⟨⟨pre, post, rfl, fun op hop => hpost op (List.mem_append_left _ hop)⟩, ?_⟩
        exact hpost _ (List.mem_append_right _ List.mem_cons_self)
  · rintro (rfl | ⟨⟨pre, post, rfl, hpost⟩, hop⟩)
    · exact ⟨ops, [], rfl, fun _ h => absurd h List.not_mem_nil⟩
    · refine ⟨pre, post ++ [op], by simp, fun other hother => ?_⟩
      rcases List.mem_append.mp hother with hother | hother
      · exact hpost other hother
      · rw [List.mem_singleton.mp hother]
        exact hop

end Tokens

section Exact

variable {P : Type} [DecidableEq P] {s : SelfWriteSuppressor P} {path other : P}
  {entry : Suppression} {observed : WriteFingerprint} {tick : ℕ}

/-- The entries after a call. -/
def step (s : SelfWriteSuppressor P) : Op P → SelfWriteSuppressor P
  | .record path fingerprint expiresAtTick => s.record path fingerprint expiresAtTick
  | .shouldSuppress path observed nowTick => (s.shouldSuppress path observed nowTick).2
  | .pruneExpired nowTick => s.pruneExpired nowTick

theorem entries_record {fingerprint : WriteFingerprint} {expires : ℕ} :
    (s.record other fingerprint expires).entries path =
      if path = other then some ⟨fingerprint, expires⟩ else s.entries path :=
  Function.update_apply ..

theorem entries_remove :
    (s.remove other).entries path = if path = other then none else s.entries path :=
  Function.update_apply ..

theorem shouldSuppress_eq_true : (s.shouldSuppress path observed tick).1 = true ↔
    ∃ entry, s.entries path = some entry ∧ observed = entry.fingerprint ∧
      tick ≤ entry.expiresAtTick := by
  rw [shouldSuppress]
  cases hentry : s.entries path with
  | none => simp
  | some entry =>
      dsimp only
      by_cases htick : entry.expiresAtTick < tick
      · rw [if_pos htick]
        simp only [Option.some.injEq, exists_eq_left', Bool.false_eq_true, false_iff, not_and]
        omega
      · rw [if_neg htick]
        by_cases hsame : observed = entry.fingerprint
        · simp only [hsame, if_true, Option.some.injEq, exists_eq_left', true_and, true_iff]
          omega
        · simp [hsame]

/-- A call removes the entry that it finds used or out of date. -/
theorem entries_shouldSuppress :
    (s.shouldSuppress other observed tick).2.entries path = some entry ↔
      s.entries path = some entry ∧
        ¬ (other = path ∧ (observed = entry.fingerprint ∨ entry.expiresAtTick < tick)) := by
  rw [shouldSuppress]
  cases hfound : s.entries other with
  | none =>
      refine (and_iff_left_of_imp ?_).symm
      rintro h ⟨rfl, -⟩
      rw [hfound] at h
      cases h
  | some found =>
      have hsame : other = path → s.entries path = some entry → found = entry := by
        rintro rfl h
        exact Option.some.inj (hfound.symm.trans h)
      dsimp only
      by_cases hpath : other = path
      · subst hpath
        split
        · rename_i htick
          rw [entries_remove, if_pos rfl]
          refine iff_of_false (fun h => by cases h) fun h => h.2 ⟨rfl, Or.inr ?_⟩
          rwa [hsame rfl h.1] at htick
        · split
          · rename_i hused
            rw [entries_remove, if_pos rfl]
            refine iff_of_false (fun h => by cases h) fun h => h.2 ⟨rfl, Or.inl ?_⟩
            rwa [hsame rfl h.1] at hused
          · rename_i hcurrent hother
            refine (and_iff_left_of_imp ?_).symm
            rintro h ⟨-, hused | htick⟩
            · rw [hsame rfl h] at hother
              exact hother hused
            · rw [hsame rfl h] at hcurrent
              exact hcurrent htick
      · have hkept : (s.remove other).entries path = s.entries path := by
          rw [entries_remove, if_neg (Ne.symm hpath)]
        split
        · simp [hkept, hpath]
        · split <;> simp [hkept, hpath]

omit [DecidableEq P] in
theorem entries_pruneExpired : (s.pruneExpired tick).entries path = some entry ↔
    s.entries path = some entry ∧ tick ≤ entry.expiresAtTick := by
  show (s.entries path).filter _ = some entry ↔ _
  rw [Option.filter_eq_some_iff, decide_eq_true_eq]

/-- The entries that are not out of date at the end are the pending ones. -/
theorem entries_run {ops : List (Op P)} {now : ℕ} (hclock : ∀ op ∈ ops, op.NotAfter now)
    (hentry : now ≤ entry.expiresAtTick) :
    (Runs.run step new ops).entries path = some entry ↔ Pending ops path entry := by
  induction ops using List.reverseRecOn with
  | nil => exact iff_of_false (fun h => by cases h) not_pending_nil
  | append_singleton ops op ih =>
      have hbefore := ih fun other hother => hclock other (List.mem_append_left _ hother)
      have hop := hclock op (List.mem_append_right _ List.mem_cons_self)
      rw [Runs.run_concat, pending_concat, ← hbefore]
      cases op with
      | record other fingerprint expires =>
          rw [step, entries_record]
          by_cases hpath : path = other
          · subst hpath
            cases entry
            simp [Op.Ends]
          · simp [Op.Ends, hpath, Ne.symm hpath]
      | shouldSuppress other observed tick =>
          -- the clock has not passed the expiry, so only a use can remove the entry
          have htick : ¬ entry.expiresAtTick < tick := not_lt.mpr (le_trans hop hentry)
          rw [step, entries_shouldSuppress]
          simp [Op.Ends, htick]
      | pruneExpired tick =>
          have htick : tick ≤ entry.expiresAtTick := le_trans hop hentry
          rw [step, entries_pruneExpired]
          simp [Op.Ends, htick]

/-- **An event is hidden exactly if it is the echo of the last write.**  After any run of a
clock that does not go back, the answer is yes if and only if the last write recorded for the
path has the fingerprint that is observed, is not out of date and has hidden no event since. -/
theorem shouldSuppress_iff (ops : List (Op P)) (path : P) (observed : WriteFingerprint)
    (nowTick : ℕ) (hclock : ∀ op ∈ ops, op.NotAfter nowTick) :
    ((Runs.run step new ops).shouldSuppress path observed nowTick).1 = true ↔
      ∃ expiresAtTick, nowTick ≤ expiresAtTick ∧ Pending ops path ⟨observed, expiresAtTick⟩ := by
  rw [shouldSuppress_eq_true]
  constructor
  · rintro ⟨⟨fingerprint, expires⟩, hfound, rfl, htick⟩
    exact ⟨expires, htick, (entries_run hclock htick).mp hfound⟩
  · rintro ⟨expires, htick, hpending⟩
    exact ⟨⟨observed, expires⟩, (entries_run hclock htick).mpr hpending, rfl, htick⟩

/-- A write is recorded, another edit is seen, and then the echo of the write. -/
theorem shouldSuppress_echo :
    ((Runs.run step new [.record "note.md" ⟨10, 1⟩ 20, .shouldSuppress "note.md" ⟨11, 2⟩ 11,
      .pruneExpired 12]).shouldSuppress "note.md" ⟨10, 1⟩ 12).1 = true :=
  (shouldSuppress_iff _ _ _ 12 (by simp [Op.NotAfter])).mpr
    ⟨20, by decide, [], _, rfl, by simp [Op.Ends]⟩

end Exact

end SelfWriteSuppressor

end Watcher
end MyVault
