import MyVault.Core.Directory
import Mathlib.Data.List.Induction

/-!
# File trees

The files below the root of a vault, as a table of paths: what a path stands for is a
file with its bytes, a directory, a symbolic link or something else.  A path other than
a first-level one stands in a directory (`closed`), and no name of the file system is
empty, a dot, or contains a slash (`named`).  The root itself is no entry.

There are three ways to change a tree, and each has one lemma that says what stands where
afterwards: `put` sets a path to something (`nodeAt_put`), `erase` removes what is no
directory (`nodeAt_erase`), and `relocate` moves an entry with all that is below it
(`nodeAt_relocate`).
-/

namespace MyVault
namespace Vault

/-- Why a step of the file system fails. -/
inductive IoKind where
  | notFound
  | alreadyExists
  | isADirectory
  | notADirectory
  | invalidInput
  /-- `Unsupported`, `ENOSYS`, `ENOTSUP`. -/
  | unsupported
  | other
  deriving DecidableEq, Repr

/-- What stands at a path. -/
inductive Node where
  /-- A name of a file: names with the same `inode` are hard links to one file. -/
  | file (inode : ℕ) (bytes : List UInt8)
  | dir
  | symlink
  /-- A socket, a device and the like. -/
  | special
  deriving DecidableEq

/-- The names on the way from the root. -/
abbrev Location := List FileName

/-- The files and folders below a root: every entry is in a folder of the tree, and its name is a
name. -/
structure FileTree where
  entries : Table (Prod.fst : Location × Node → Location)
  nonempty : ∀ row ∈ entries, row.1 ≠ []
  closed : ∀ path name node, (path ++ [name], node) ∈ entries → path ≠ [] →
    (path, Node.dir) ∈ entries
  named : ∀ row ∈ entries, ∀ name, FileName.utf8 name ∈ row.1 →
    name.toList ≠ [] ∧ name.toList ≠ ['.'] ∧ '/' ∉ name.toList

namespace FileTree

variable {t : FileTree}

instance : Membership (Location × Node) FileTree := ⟨fun t row => row ∈ t.entries⟩

theorem eq_of_mem {path : Location} {node node' : Node} (h : (path, node) ∈ t)
    (h' : (path, node') ∈ t) : node = node' :=
  congrArg Prod.snd (t.entries.eq_of_key_eq (a := (path, node)) (b := (path, node')) h h' rfl)

/-- The entries of a directory, in the order it gives them. -/
def children (t : FileTree) (path : Location) : List (FileName × Node) :=
  t.entries.rows.filterMap fun row =>
    if row.1.dropLast = path then row.1.getLast?.map fun name => (name, row.2) else none

theorem mem_children {path : Location} {name : FileName} {node : Node} :
    (name, node) ∈ t.children path ↔ (path ++ [name], node) ∈ t := by
  rw [children, List.mem_filterMap]
  constructor
  · rintro ⟨⟨location, found⟩, hrow, h⟩
    split at h
    · rename_i hpath
      obtain ⟨last, hlast, heq⟩ := Option.map_eq_some_iff.mp h
      rw [Prod.mk.injEq] at heq
      obtain ⟨rfl, rfl⟩ := heq
      rw [← hpath, List.dropLast_append_getLast? last hlast]
      exact hrow
    · exact nomatch h
  · intro h
    exact ⟨(path ++ [name], node), h, by simp⟩

/-- What leads to an entry is a directory. -/
theorem dir_of_mem {path rest : Location} {node : Node} (h : (path ++ rest, node) ∈ t)
    (hpath : path ≠ []) (hrest : rest ≠ []) : (path, Node.dir) ∈ t := by
  induction rest using List.reverseRecOn generalizing node with
  | nil => exact absurd rfl hrest
  | append_singleton rest name ih =>
      rw [← List.append_assoc] at h
      have hdir := t.closed (path ++ rest) name node h (by simp [hpath])
      by_cases hnil : rest = []
      · rwa [hnil, List.append_nil] at hdir
      · exact ih hdir hnil

/-- The names of a path can stand in a directory. -/
def NamesOk (path : Location) : Prop :=
  ∀ name ∈ path, (name.toStr.all fun s => s ≠ "" ∧ s ≠ "." ∧ '/' ∉ s.toList) = true

instance (path : Location) : Decidable (NamesOk path) := inferInstanceAs (Decidable (∀ _ ∈ _, _))

theorem named_of_namesOk {path : Location} (h : NamesOk path) {name : String}
    (hname : FileName.utf8 name ∈ path) :
    name.toList ≠ [] ∧ name.toList ≠ ['.'] ∧ '/' ∉ name.toList := by
  have hall := of_decide_eq_true (h _ hname)
  refine ⟨fun h => hall.1 (String.toList_injective h), fun h => hall.2.1 ?_, hall.2.2⟩
  exact String.toList_injective h

/-- A tree from its rows, if each stands in a folder that is there. -/
def ofRows (rows : List (Location × Node)) (hkeys : (rows.map Prod.fst).Nodup)
    (hrows : ∀ row ∈ rows, row.1 ≠ [] ∧
      (row.1.dropLast ≠ [] → (row.1.dropLast, Node.dir) ∈ rows) ∧ NamesOk row.1) :
    FileTree where
  entries := ⟨rows, hkeys⟩
  nonempty row hrow := (hrows row hrow).1
  closed path name node h hpath := by
    have hdir := (hrows _ h).2.1
    rw [List.dropLast_concat] at hdir
    exact hdir hpath
  named row hrow name hname := named_of_namesOk (hrows row hrow).2.2 hname

/-! ## What stands at a path -/

/-- What stands at a path, if something does. -/
def nodeAt (t : FileTree) (path : Location) : Option Node := (t.entries.lookup path).map Prod.snd

theorem nodeAt_eq_some_iff {path : Location} {node : Node} :
    t.nodeAt path = some node ↔ (path, node) ∈ t := by
  rw [nodeAt, Option.map_eq_some_iff]
  constructor
  · rintro ⟨⟨path', node'⟩, h, rfl⟩
    obtain ⟨hmem, rfl⟩ := Table.lookup_eq_some_iff.mp h
    exact hmem
  · exact fun h => ⟨(path, node), Table.lookup_eq_some_iff.mpr ⟨h, rfl⟩, rfl⟩

theorem nodeAt_eq_none_iff {path : Location} : t.nodeAt path = none ↔ ∀ node, (path, node) ∉ t := by
  rw [Option.eq_none_iff_forall_ne_some]
  exact forall_congr' fun node => not_congr nodeAt_eq_some_iff

/-- Two trees agree at a path if they have the same entries there. -/
theorem nodeAt_congr {t t' : FileTree} {path path' : Location}
    (h : ∀ node, (path, node) ∈ t ↔ (path', node) ∈ t') : t.nodeAt path = t'.nodeAt path' := by
  refine Option.ext fun node => ?_
  rw [nodeAt_eq_some_iff, nodeAt_eq_some_iff]
  exact h node

/-- Below what is no directory, and below nothing, stands nothing. -/
theorem nodeAt_below {path rest : Location} (hne : path ≠ []) (hdir : t.nodeAt path ≠ some .dir)
    (hrest : rest ≠ []) : t.nodeAt (path ++ rest) = none := by
  rw [nodeAt_eq_none_iff]
  intro node hnode
  exact hdir (nodeAt_eq_some_iff.mpr (dir_of_mem hnode hne hrest))

/-! ## Changes -/

/-- The path can be an entry: it has a name, and a directory to stand in. -/
def CanHold (t : FileTree) (path : Location) : Prop :=
  path ≠ [] ∧ (path.dropLast ≠ [] → t.nodeAt path.dropLast = some .dir) ∧ NamesOk path

instance (path : Location) : Decidable (t.CanHold path) :=
  inferInstanceAs (Decidable (_ ∧ _ ∧ _))

/-- Sets a path that is no directory to something. -/
def put (t : FileTree) (path : Location) (node : Node) : Except IoKind FileTree :=
  if h : t.CanHold path ∧ t.nodeAt path ≠ some .dir then
    .ok
      { entries :=
          { rows := t.entries.rows.filter (·.1 ≠ path) ++ [(path, node)]
            nodup_keys := by
              rw [List.map_append]
              refine (t.entries.nodup_keys.sublist (List.filter_sublist.map _)).append
                (List.nodup_singleton _) fun key hkey hnew => ?_
              obtain ⟨row, hrow, rfl⟩ := List.mem_map.mp hkey
              exact of_decide_eq_true (List.mem_filter.mp hrow).2 (List.mem_singleton.mp hnew) }
        nonempty := by
          intro row hrow
          rcases List.mem_append.mp hrow with hrow | hrow
          · exact t.nonempty row (List.mem_filter.mp hrow).1
          · rw [List.mem_singleton.mp hrow]
            exact h.1.1
        closed := by
          intro above name found hrow habove
          have hdir : (above, Node.dir) ∈ t := by
            rcases List.mem_append.mp hrow with hrow | hrow
            · exact t.closed above name found (List.mem_filter.mp hrow).1 habove
            · obtain ⟨rfl, -⟩ := Prod.mk.inj (List.mem_singleton.mp hrow)
              have hparent := h.1.2.1
              rw [List.dropLast_concat] at hparent
              exact nodeAt_eq_some_iff.mp (hparent habove)
          refine List.mem_append_left _ (List.mem_filter.mpr ⟨hdir, decide_eq_true ?_⟩)
          rintro rfl
          exact h.2 (nodeAt_eq_some_iff.mpr hdir)
        named := by
          intro row hrow name hname
          rcases List.mem_append.mp hrow with hrow | hrow
          · exact t.named row (List.mem_filter.mp hrow).1 name hname
          · rw [List.mem_singleton.mp hrow] at hname
            exact named_of_namesOk h.1.2.2 hname }
  else .error .notFound

/-- Removes what is no directory. -/
def erase (t : FileTree) (path : Location) : Except IoKind FileTree :=
  if h : t.nodeAt path = some .dir then .error .isADirectory
  else if t.nodeAt path = none then .error .notFound
  else
    .ok
      { entries :=
          { rows := t.entries.rows.filter (·.1 ≠ path)
            nodup_keys := t.entries.nodup_keys.sublist (List.filter_sublist.map _) }
        nonempty := fun row hrow => t.nonempty row (List.mem_filter.mp hrow).1
        closed := by
          intro above name found hrow habove
          have hdir := t.closed above name found (List.mem_filter.mp hrow).1 habove
          refine List.mem_filter.mpr ⟨hdir, decide_eq_true ?_⟩
          rintro rfl
          exact h (nodeAt_eq_some_iff.mpr hdir)
        named := fun row hrow => t.named row (List.mem_filter.mp hrow).1 }

theorem nodeAt_put {path : Location} {node : Node} {t' : FileTree} (h : t.put path node = .ok t')
    (location : Location) :
    t'.nodeAt location = if location = path then some node else t.nodeAt location := by
  rw [put] at h
  split at h
  · rw [Except.ok.injEq] at h
    subst h
    split
    · rename_i heq
      subst heq
      exact nodeAt_eq_some_iff.mpr (List.mem_append_right _ (List.mem_singleton_self _))
    · rename_i hne
      refine nodeAt_congr fun found => ?_
      show _ ∈ t.entries.rows.filter (·.1 ≠ path) ++ [(path, node)] ↔ _
      rw [List.mem_append, List.mem_filter, List.mem_singleton]
      constructor
      · rintro (h | h)
        · exact h.1
        · exact absurd (congrArg Prod.fst h) hne
      · exact fun h => Or.inl ⟨h, decide_eq_true hne⟩
  · cases h

theorem nodeAt_erase {path : Location} {t' : FileTree} (h : t.erase path = .ok t')
    (location : Location) :
    t'.nodeAt location = if location = path then none else t.nodeAt location := by
  rw [erase] at h
  split at h
  · cases h
  · split at h
    · cases h
    · rw [Except.ok.injEq] at h
      subst h
      split
      · rename_i heq
        subst heq
        refine nodeAt_eq_none_iff.mpr fun node hnode => ?_
        exact of_decide_eq_true (List.mem_filter.mp hnode).2 rfl
      · rename_i hne
        exact nodeAt_congr fun node => List.mem_filter.trans
          (and_iff_left (decide_eq_true hne))

/-- Where a path is after `source` has become `destination`. -/
def moved (source destination location : Location) : Location :=
  if source <+: location then destination ++ location.drop source.length else location

theorem moved_append (source destination rest : Location) :
    moved source destination (source ++ rest) = destination ++ rest := by
  rw [moved, if_pos (List.prefix_append _ _), List.drop_left]

theorem moved_of_outside {source destination location : Location}
    (h : ¬ source <+: location) : moved source destination location = location := if_neg h

section Relocate

variable {source destination : Location} (hfree : t.nodeAt destination = none)

include hfree

theorem not_prefix_of_nodeAt_eq_none (hne : destination ≠ []) {row : Location × Node}
    (hrow : row ∈ t) : ¬ destination <+: row.1 := by
  rintro ⟨rest, hrest⟩
  have hsome : t.nodeAt (destination ++ rest) = some row.2 := by
    rw [hrest]
    exact nodeAt_eq_some_iff.mpr hrow
  by_cases hnil : rest = []
  · rw [hnil, List.append_nil, hfree] at hsome
    exact nomatch hsome
  · have hdir : t.nodeAt destination ≠ some .dir := by
      rw [hfree]
      exact nofun
    rw [nodeAt_below hne hdir hnil] at hsome
    exact nomatch hsome

theorem moved_injective_on (hne : destination ≠ []) {a b : Location × Node} (ha : a ∈ t)
    (hb : b ∈ t) (h : moved source destination a.1 = moved source destination b.1) :
    a.1 = b.1 := by
  have hnota := not_prefix_of_nodeAt_eq_none hfree hne ha
  have hnotb := not_prefix_of_nodeAt_eq_none hfree hne hb
  by_cases hpa : source <+: a.1
  · obtain ⟨ra, hra⟩ := hpa
    by_cases hpb : source <+: b.1
    · obtain ⟨rb, hrb⟩ := hpb
      rw [← hra, ← hrb, moved_append, moved_append] at h
      rw [← hra, ← hrb, List.append_cancel_left h]
    · rw [← hra, moved_append, moved_of_outside hpb] at h
      exact absurd ⟨ra, h⟩ hnotb
  · by_cases hpb : source <+: b.1
    · obtain ⟨rb, hrb⟩ := hpb
      rw [← hrb, moved_append, moved_of_outside hpa] at h
      exact absurd ⟨rb, h.symm⟩ hnota
    · rwa [moved_of_outside hpa, moved_of_outside hpb] at h

end Relocate

/-- What a move asks for. -/
def CanMove (t : FileTree) (source destination : Location) : Prop :=
  source ≠ [] ∧ t.CanHold destination ∧ t.nodeAt destination = none ∧ ¬ source <+: destination

instance (source destination : Location) : Decidable (t.CanMove source destination) :=
  inferInstanceAs (Decidable (_ ∧ _ ∧ _ ∧ _))

theorem closed_moved {source destination : Location} (h : t.CanMove source destination)
    {above : Location} {name : FileName} {row : Location × Node} (hrow : row ∈ t)
    (hmoved : moved source destination row.1 = above ++ [name]) (habove : above ≠ []) :
    ∃ old, (old, Node.dir) ∈ t ∧ moved source destination old = above := by
  obtain ⟨hsource, hhold, hfree, hinto⟩ := h
  by_cases hinit : source <+: row.1
  · obtain ⟨rest, hrest⟩ := hinit
    rw [← hrest, moved_append] at hmoved
    rcases List.eq_nil_or_concat rest with rfl | ⟨init, last, rfl⟩
    · -- the entry itself: its new parent has been there
      rw [List.append_nil] at hmoved
      subst hmoved
      have hparent := hhold.2.1
      rw [List.dropLast_concat] at hparent
      refine ⟨above, nodeAt_eq_some_iff.mp (hparent habove), moved_of_outside fun hp => hinto ?_⟩
      exact hp.trans (List.prefix_append _ _)
    · rw [List.concat_eq_append, ← List.append_assoc] at hmoved hrest
      obtain ⟨rfl, -⟩ := List.append_inj' hmoved rfl
      have hdir : (source ++ init, Node.dir) ∈ t := by
        have hmem : (source ++ init ++ [last], row.2) ∈ t := by
          rw [hrest]
          exact hrow
        exact t.closed _ last row.2 hmem (by simp [hsource])
      exact ⟨source ++ init, hdir, moved_append _ _ _⟩
  · rw [moved_of_outside hinit] at hmoved
    have hmem : (above ++ [name], row.2) ∈ t := by
      rw [← hmoved]
      exact hrow
    refine ⟨above, t.closed above name row.2 hmem habove, moved_of_outside fun hp => ?_⟩
    rw [hmoved] at hinit
    exact hinit (hp.trans (List.prefix_append _ _))

/-- An entry becomes another path, with all that is below it. -/
def relocate (t : FileTree) (source destination : Location) : Except IoKind FileTree :=
  if t.nodeAt source = none then .error .notFound
  else if t.nodeAt destination ≠ none then .error .alreadyExists
  else if h : t.CanMove source destination then
    .ok
      { entries :=
          { rows := t.entries.rows.map fun row => (moved source destination row.1, row.2)
            nodup_keys := by
              rw [List.map_map]
              refine (List.nodup_map_iff_inj_on (List.Nodup.of_map _ t.entries.nodup_keys)).mpr
                fun a ha b hb hab => ?_
              exact t.entries.eq_of_key_eq ha hb
                (moved_injective_on h.2.2.1 h.2.1.1 ha hb hab) }
        nonempty := by
          intro row hrow
          obtain ⟨old, hold, rfl⟩ := List.mem_map.mp hrow
          show moved source destination old.1 ≠ []
          rw [moved]
          split
          · exact fun hnil => h.2.1.1 (List.append_eq_nil_iff.mp hnil).1
          · exact t.nonempty old hold
        closed := by
          intro above name node hrow habove
          obtain ⟨old, hold, heq⟩ := List.mem_map.mp hrow
          obtain ⟨dir, hdir, hmoved⟩ := closed_moved h hold (congrArg Prod.fst heq) habove
          exact List.mem_map.mpr ⟨(dir, .dir), hdir, by rw [hmoved]⟩
        named := by
          intro row hrow name hname
          obtain ⟨old, hold, rfl⟩ := List.mem_map.mp hrow
          replace hname : FileName.utf8 name ∈ moved source destination old.1 := hname
          rw [moved] at hname
          split at hname
          · rcases List.mem_append.mp hname with hname | hname
            · exact named_of_namesOk h.2.1.2.2 hname
            · exact t.named old hold name (List.mem_of_mem_drop hname)
          · exact t.named old hold name hname }
  else .error .invalidInput

/-- Something stands at the source of a move that succeeds, and nothing at its destination. -/
theorem ends_of_relocate {source destination : Location} {t' : FileTree}
    (h : t.relocate source destination = .ok t') :
    t.nodeAt source ≠ none ∧ t.nodeAt destination = none := by
  rw [relocate] at h
  split at h
  · cases h
  · rename_i hsource
    split at h
    · cases h
    · rename_i hfree
      exact ⟨hsource, not_not.mp hfree⟩

theorem nodeAt_relocate {source destination : Location} {t' : FileTree}
    (h : t.relocate source destination = .ok t') (location : Location) :
    t'.nodeAt location =
      if destination <+: location then t.nodeAt (source ++ location.drop destination.length)
      else if source <+: location then none else t.nodeAt location := by
  rw [relocate] at h
  split at h
  · cases h
  · split at h
    · cases h
    · split at h
      · rename_i hcan
        rw [Except.ok.injEq] at h
        have hmem : ∀ location node, (location, node) ∈ t' ↔
            ∃ old, (old, node) ∈ t ∧ moved source destination old = location := by
          intro location node
          subst h
          refine List.mem_map.trans ⟨?_, ?_⟩
          · rintro ⟨⟨old, found⟩, hold, heq⟩
            obtain ⟨hkey, rfl⟩ := Prod.mk.inj heq
            exact ⟨old, hold, hkey⟩
          · rintro ⟨old, hold, rfl⟩
            exact ⟨(old, node), hold, rfl⟩
        split
        · rename_i hdestination
          obtain ⟨rest, rfl⟩ := hdestination
          rw [List.drop_left]
          refine nodeAt_congr fun node => (hmem _ node).trans ⟨?_, ?_⟩
          · rintro ⟨old, hold, hmoved⟩
            by_cases hinit : source <+: old
            · obtain ⟨rest', rfl⟩ := hinit
              rw [moved_append] at hmoved
              rwa [← List.append_cancel_left hmoved]
            · rw [moved_of_outside hinit] at hmoved
              exact absurd ⟨rest, hmoved.symm⟩
                (not_prefix_of_nodeAt_eq_none hcan.2.2.1 hcan.2.1.1 hold)
          · exact fun hold => ⟨_, hold, moved_append _ _ _⟩
        · rename_i hdestination
          split
          · rename_i hsource
            refine nodeAt_eq_none_iff.mpr fun node hnode => ?_
            obtain ⟨old, -, hmoved⟩ := (hmem _ node).mp hnode
            rw [moved] at hmoved
            split at hmoved
            · exact hdestination ⟨_, hmoved⟩
            · rename_i hinit
              exact hinit (hmoved ▸ hsource)
          · rename_i hsource
            refine nodeAt_congr fun node => (hmem _ node).trans ⟨?_, ?_⟩
            · rintro ⟨old, hold, hmoved⟩
              rw [moved] at hmoved
              split at hmoved
              · exact absurd ⟨_, hmoved⟩ hdestination
              · rwa [← hmoved]
            · exact fun hold => ⟨_, hold, moved_of_outside hsource⟩
      · cases h

end FileTree
end Vault
end MyVault
