import MyVault.Vault.Inventory
import Mathlib.Data.Set.Lattice

/-!
# What the inventory lists

The walk lists every regular file outside the internal trees, once, under the path that
is its location (`inventory_eq_ok`).  Two of the files never have the same collision
key.  A folder has no entry in that list, so two folders of the same key pass if they
hold no two files of the same key, and so does an empty folder beside another of its
key; the preflight of a path compares every name on the way with all its siblings.

`inventory_addressable_iff` says which trees that leaves: those in which no name that
leads to a file stands beside another name of its key, and no two paths that lead to
files have one key.

## How the argument goes

`Report` is what a walk has listed of a set of locations, and it composes: the report of a
directory is that of its entries, one after the other, and what a directory below comes to is an
assumption (`Descends`), so that the induction is on the levels alone.  The root is the one
directory whose names are classified (`IsContent`).

`Addressable` has a clause for each of the two readers of the list: no two keys are equal, not
even of the folders on the way, and the preflight of every path succeeds.  Both directions of the
result go through the names that lead to files (`LeadsToFile`), because that is all the inventory
sees of a directory.
-/

namespace MyVault
namespace Vault

open Check VaultPath

variable {u : Unicode} {t : FileTree} {limits : InventoryLimits}

theorem locationOf_append (a b : List Text) :
    locationOf (a ++ b) = locationOf a ++ locationOf b := List.map_append

theorem locationOf_injective : Function.Injective locationOf := by
  intro a b h
  exact List.map_injective_iff.mpr
    (fun c d hcd => String.ofList_injective (FileName.utf8.inj hcd)) h

theorem toStr_eq_some_iff {name : FileName} {text : String} :
    name.toStr = some text ↔ name = .utf8 text := by
  cases name <;> simp [FileName.toStr]

/-! ## One directory -/

theorem mem_collectEntries {atRoot : Bool} {remaining : ℕ} {found : List (FileName × Node)}
    {entries entries' : List (Text × Node)}
    (h : collectEntries u limits atRoot remaining found entries = .ok entries') :
    (∀ row ∈ found, ∃ text, row.1 = .utf8 text) ∧
    ∀ text node, (text, node) ∈ entries' ↔ (text, node) ∈ entries ∨
      (FileName.utf8 (String.ofList text), node) ∈ found ∧
        ¬ (atRoot = true ∧ classifyComponent u text ≠ .content) := by
  induction found generalizing entries with
  | nil =>
      rw [collectEntries, ite_error_eq_ok, Except.ok.injEq] at h
      obtain ⟨-, rfl⟩ := h
      simp
  | cons row rest ih =>
      obtain ⟨name, found⟩ := row
      rw [collectEntries] at h
      split at h
      · exact nomatch h
      · rename_i string hstring
        rw [toStr_eq_some_iff] at hstring
        subst hstring
        have hname : ∀ {text : Text} {node : Node},
            (FileName.utf8 (String.ofList text), node) = (FileName.utf8 string, found) ↔
              text = string.toList ∧ node = found := fun {text node} => by
          rw [Prod.mk.injEq, FileName.utf8.injEq]
          constructor
          · rintro ⟨rfl, rfl⟩
            exact ⟨String.toList_ofList.symm, rfl⟩
          · rintro ⟨rfl, rfl⟩
            exact ⟨String.ofList_toList, rfl⟩
        split at h
        · rename_i hskip
          obtain ⟨hutf8, hmem⟩ := ih h
          refine ⟨List.forall_mem_cons.mpr ⟨⟨string, rfl⟩, hutf8⟩, fun text node => ?_⟩
          rw [hmem, List.mem_cons, hname]
          constructor
          · rintro (hold | ⟨hrest, hkeep⟩)
            · exact Or.inl hold
            · exact Or.inr ⟨Or.inr hrest, hkeep⟩
          · rintro (hold | ⟨⟨rfl, rfl⟩ | hrest, hkeep⟩)
            · exact Or.inl hold
            · exact absurd hskip hkeep
            · exact Or.inr ⟨hrest, hkeep⟩
        · rename_i hkept
          rw [ite_error_eq_ok] at h
          obtain ⟨hutf8, hmem⟩ := ih h.2
          refine ⟨List.forall_mem_cons.mpr ⟨⟨string, rfl⟩, hutf8⟩, fun text node => ?_⟩
          rw [hmem, List.mem_cons, hname, List.mem_append, List.mem_singleton, Prod.mk.injEq]
          constructor
          · rintro ((hold | ⟨rfl, rfl⟩) | ⟨hrest, hkeep⟩)
            · exact Or.inl hold
            · exact Or.inr ⟨Or.inl ⟨rfl, rfl⟩, hkept⟩
            · exact Or.inr ⟨Or.inr hrest, hkeep⟩
          · rintro (hold | ⟨⟨rfl, rfl⟩ | hrest, hkeep⟩)
            · exact Or.inl (Or.inl hold)
            · exact Or.inl (Or.inr ⟨rfl, rfl⟩)
            · exact Or.inr ⟨hrest, hkeep⟩

/-! ## The walk -/

/-- What the walk has listed of a set of locations. -/
structure Report (t : FileTree) (covered : Set Location) (new : List (InventoryEntry u)) :
    Prop where
  sound : ∀ e ∈ new, locationOf e.path.components ∈ covered ∧
    ∃ inode bytes, (locationOf e.path.components, Node.file inode bytes) ∈ t ∧ e.size = bytes.length
  complete : ∀ location inode bytes, location ∈ covered → (location, Node.file inode bytes) ∈ t →
    ∃ e ∈ new, locationOf e.path.components = location
  utf8 : ∀ location name node, location ++ [name] ∈ covered → (location ++ [name], node) ∈ t →
    ∃ text, name = .utf8 text

namespace Report

theorem nil : Report t ∅ ([] : List (InventoryEntry u)) :=
  ⟨fun _ h => (nomatch h), fun _ _ _ h => h.elim, fun _ _ _ h => h.elim⟩

theorem append {a b : Set Location} {new new' : List (InventoryEntry u)} (h : Report t a new)
    (h' : Report t b new') : Report t (a ∪ b) (new ++ new') where
  sound e he := by
    rcases List.mem_append.mp he with he | he
    · exact ⟨Or.inl (h.sound e he).1, (h.sound e he).2⟩
    · exact ⟨Or.inr (h'.sound e he).1, (h'.sound e he).2⟩
  complete location inode bytes hlocation hfile := by
    rcases hlocation with hlocation | hlocation
    · obtain ⟨e, he, heq⟩ := h.complete location inode bytes hlocation hfile
      exact ⟨e, List.mem_append_left _ he, heq⟩
    · obtain ⟨e, he, heq⟩ := h'.complete location inode bytes hlocation hfile
      exact ⟨e, List.mem_append_right _ he, heq⟩
  utf8 location name node hlocation hnode := by
    rcases hlocation with hlocation | hlocation
    · exact h.utf8 location name node hlocation hnode
    · exact h'.utf8 location name node hlocation hnode

/-- Only what stands in the tree counts. -/
theorem congr {a b : Set Location} {new : List (InventoryEntry u)} (h : Report t a new)
    (hab : ∀ location node, (location, node) ∈ t → (location ∈ a ↔ location ∈ b)) :
    Report t b new where
  sound e he := by
    obtain ⟨hmem, inode, bytes, hfile, hsize⟩ := h.sound e he
    exact ⟨(hab _ _ hfile).mp hmem, inode, bytes, hfile, hsize⟩
  complete location inode bytes hlocation hfile :=
    h.complete location inode bytes ((hab _ _ hfile).mpr hlocation) hfile
  utf8 location name node hlocation hnode :=
    h.utf8 location name node ((hab _ _ hnode).mpr hlocation) hnode

end Report

/-- The locations at a path and below it. -/
def below (base : List Text) : Set Location := {location | locationOf base <+: location}

/-- The path of an entry has the names on the way to it. -/
theorem components_of_mem {components : List Text} {node : Node} {path : VaultPath u}
    (h : (locationOf components, node) ∈ t)
    (hpath : fromPortable u (joinSlash components) = some path) :
    path.components = components := by
  rw [components_of_fromPortable hpath]
  refine keptComponents_joinSlash ?_ fun c hc => ?_
  · rintro rfl
    exact t.nonempty _ h rfl
  · have hname := t.named _ h (String.ofList c) (List.mem_map.mpr ⟨c, hc, rfl⟩)
    rwa [String.toList_ofList] at hname

/-- Below what is no directory stands nothing else. -/
theorem eq_of_mem_below {base : List Text} {location : Location} {node node' : Node}
    (hbase : (locationOf base, node) ∈ t) (hnode : node ≠ .dir) (h : (location, node') ∈ t)
    (hbelow : location ∈ below base) : location = locationOf base := by
  obtain ⟨rest, rfl⟩ := hbelow
  by_cases hrest : rest = []
  · rw [hrest, List.append_nil]
  · have hdir := FileTree.dir_of_mem h (t.nonempty _ hbase) hrest
    exact absurd (FileTree.eq_of_mem hbase hdir) hnode

theorem utf8_of_concat_eq {location : Location} {name : FileName} {above : List Text} {text : Text}
    (h : location ++ [name] = locationOf (above ++ [text])) : ∃ s, name = .utf8 s := by
  rw [locationOf_append] at h
  exact ⟨String.ofList text, (List.append_inj' h rfl).2 |> List.singleton_inj.mp⟩

/-- What a way into the directories below has to do. -/
def Descends (t : FileTree) (descend : List Text → Walk u → Except CoreError (Walk u)) : Prop :=
  ∀ above name walk walk', (locationOf (above ++ [name]), Node.dir) ∈ t →
    descend (above ++ [name]) walk = .ok walk' →
    ∃ new, walk'.output = walk.output ++ new ∧ Report t (below (above ++ [name])) new

theorem visitEntry_eq_ok {descend : List Text → Walk u → Except CoreError (Walk u)}
    (hdescend : Descends t descend) {above : List Text} {walk walk' : Walk u}
    {entry : Text × Node} (hentry : (locationOf (above ++ [entry.1]), entry.2) ∈ t)
    (h : visitEntry u limits descend above walk entry = .ok walk') :
    ∃ new, walk'.output = walk.output ++ new ∧ Report t (below (above ++ [entry.1])) new := by
  obtain ⟨name, node⟩ := entry
  rw [visitEntry, ite_error_eq_ok] at h
  replace h := h.2
  dsimp only at h hentry ⊢
  split at h
  · exact nomatch h
  · rename_i path hpath
    have hcomponents := components_of_mem hentry hpath
    cases node with
    | symlink => exact nomatch h
    | dir =>
        dsimp only at h
        obtain ⟨new, houtput, hreport⟩ := hdescend above name _ walk' hentry h
        exact ⟨new, houtput, hreport⟩
    | file inode bytes =>
        dsimp only at h
        rw [Except.ok.injEq] at h
        subst h
        refine ⟨_, rfl, ⟨fun e he => ?_, fun location _ found hlocation hfile => ?_,
          fun location last found hlocation hfound => ?_⟩⟩
        · rw [List.mem_singleton] at he
          subst he
          dsimp only
          rw [hcomponents]
          exact ⟨List.prefix_refl _, inode, bytes, hentry, rfl⟩
        · refine ⟨_, List.mem_singleton_self _, ?_⟩
          dsimp only
          rw [hcomponents, eq_of_mem_below hentry (fun h => nomatch h) hfile hlocation]
        · exact utf8_of_concat_eq
            (eq_of_mem_below hentry (fun h => nomatch h) hfound hlocation)
    | special =>
        dsimp only at h
        rw [Except.ok.injEq] at h
        subst h
        refine ⟨[], (List.append_nil _).symm, ⟨fun e he => (nomatch he),
          fun location _ found hlocation hfile => ?_,
          fun location last found hlocation hfound => ?_⟩⟩
        · have heq := eq_of_mem_below hentry (fun h => nomatch h) hfile hlocation
          rw [heq] at hfile
          exact nomatch FileTree.eq_of_mem hentry hfile
        · exact utf8_of_concat_eq
            (eq_of_mem_below hentry (fun h => nomatch h) hfound hlocation)

theorem foldlM_visitEntry_eq_ok {descend : List Text → Walk u → Except CoreError (Walk u)}
    (hdescend : Descends t descend) {above : List Text} {entries : List (Text × Node)}
    (hentries : ∀ entry ∈ entries, (locationOf (above ++ [entry.1]), entry.2) ∈ t)
    {walk walk' : Walk u}
    (h : entries.foldlM (visitEntry u limits descend above) walk = .ok walk') :
    ∃ new, walk'.output = walk.output ++ new ∧
      Report t (⋃ entry ∈ entries, below (above ++ [entry.1])) new := by
  induction entries generalizing walk with
  | nil =>
      rw [List.foldlM_nil] at h
      cases h
      exact ⟨[], (List.append_nil _).symm, by simpa using Report.nil⟩
  | cons entry rest ih =>
      rw [List.foldlM_cons, bind_eq_ok] at h
      obtain ⟨middle, hmiddle, h⟩ := h
      obtain ⟨first, hfirst, hreport⟩ :=
        visitEntry_eq_ok hdescend (hentries entry List.mem_cons_self) hmiddle
      obtain ⟨others, hothers, hreports⟩ :=
        ih (fun e he => hentries e (List.mem_cons_of_mem _ he)) h
      refine ⟨first ++ others, ?_, ?_⟩
      · rw [hothers, hfirst, List.append_assoc]
      · simpa using hreport.append hreports

/-- The locations outside the internal trees. -/
def IsContent (u : Unicode) (location : Location) : Prop :=
  ∀ name, location.head? = some (.utf8 name) → classifyComponent u name.toList = .content

/-- The locations the walk of a directory covers. -/
def covered (u : Unicode) (above : List Text) : Set Location :=
  {location | location ∈ below above ∧ location ≠ locationOf above ∧
    (above = [] → IsContent u location)}

theorem isContent_cons_utf8 {text : Text} {rest : Location} :
    IsContent u (.utf8 (String.ofList text) :: rest) ↔ classifyComponent u text = .content := by
  rw [IsContent]
  constructor
  · intro h
    simpa using h _ rfl
  · rintro h name hname
    cases hname
    simpa using h

/-- The entries the walk of a directory leaves out are those of the internal trees. -/
theorem skipped_iff {above : List Text} {text : Text} {rest : Location} :
    ¬ (above.isEmpty = true ∧ classifyComponent u text ≠ .content) ↔
      (above = [] → IsContent u (locationOf above ++ .utf8 (String.ofList text) :: rest)) := by
  cases above with
  | nil => simp [locationOf, isContent_cons_utf8]
  | cons name above => simp

/-- What an entry of a directory leads to, and the entry. -/
theorem exists_entry {above : List Text} {location : Location} {node : Node}
    (h : (location, node) ∈ t) (hbelow : location ∈ below above)
    (hne : location ≠ locationOf above) :
    ∃ name rest found, location = locationOf above ++ name :: rest ∧
      (locationOf above ++ [name], found) ∈ t := by
  obtain ⟨rest, rfl⟩ := hbelow
  cases rest with
  | nil => exact absurd (List.append_nil _) hne
  | cons name rest =>
      by_cases hrest : rest = []
      · subst hrest
        exact ⟨name, [], node, rfl, h⟩
      · rw [List.append_cons] at h
        exact ⟨name, rest, .dir, rfl, FileTree.dir_of_mem h (by simp) hrest⟩

theorem walkDir_eq_ok {descend : List Text → Walk u → Except CoreError (Walk u)}
    (hdescend : Descends t descend) {above : List Text} {walk walk' : Walk u}
    (h : walkDir u t limits descend above walk = .ok walk') :
    ∃ new, walk'.output = walk.output ++ new ∧ Report t (covered u above) new := by
  rw [walkDir, bind_eq_ok] at h
  obtain ⟨entries, hcollect, h⟩ := h
  obtain ⟨hutf8, hmem⟩ := mem_collectEntries hcollect
  have hentries : ∀ entry ∈ entries.insertionSort fun a b => bytesKey a.1 ≤ bytesKey b.1,
      (locationOf (above ++ [entry.1]), entry.2) ∈ t := fun entry hentry => by
    rw [List.mem_insertionSort] at hentry
    rcases (hmem entry.1 entry.2).mp hentry with h | ⟨hchild, -⟩
    · exact nomatch h
    · rw [locationOf_append]
      exact FileTree.mem_children.mp hchild
  obtain ⟨new, houtput, hreport⟩ := foldlM_visitEntry_eq_ok hdescend hentries h
  refine ⟨new, houtput, hreport.congr fun location node hnode => ?_⟩
  simp only [Set.mem_iUnion, List.mem_insertionSort]
  constructor
  · rintro ⟨⟨text, found⟩, hentry, hlocation⟩
    obtain ⟨-, hkept⟩ := ((hmem text found).mp hentry).resolve_left fun h => nomatch h
    obtain ⟨rest, rfl⟩ := hlocation
    have hsplit : locationOf (above ++ [text]) ++ rest =
        locationOf above ++ .utf8 (String.ofList text) :: rest := by
      rw [locationOf_append, List.append_assoc]
      rfl
    rw [hsplit]
    exact ⟨⟨_, rfl⟩, by simp, skipped_iff.mp hkept⟩
  · rintro ⟨hbelow, hne, hcontent⟩
    obtain ⟨name, rest, found, rfl, hfound⟩ := exists_entry hnode hbelow hne
    have hchild := FileTree.mem_children.mpr hfound
    obtain ⟨string, rfl⟩ := hutf8 _ hchild
    rw [← String.ofList_toList (s := string)] at hchild hcontent ⊢
    refine ⟨(string.toList, found), (hmem _ _).mpr (Or.inr ⟨hchild, skipped_iff.mpr hcontent⟩),
      rest, ?_⟩
    rw [locationOf_append, List.append_assoc]
    rfl

/-- A directory itself is no file. -/
theorem Report.of_dir {above : List Text} {name : Text} {new : List (InventoryEntry u)}
    (h : Report t (covered u (above ++ [name])) new)
    (hdir : (locationOf (above ++ [name]), Node.dir) ∈ t) :
    Report t (below (above ++ [name])) new where
  sound e he := by
    obtain ⟨hcovered, hfile⟩ := h.sound e he
    exact ⟨hcovered.1, hfile⟩
  complete location inode bytes hlocation hfile := by
    by_cases heq : location = locationOf (above ++ [name])
    · rw [heq] at hfile
      exact nomatch FileTree.eq_of_mem hdir hfile
    · exact h.complete location inode bytes ⟨hlocation, heq, fun h => absurd h (by simp)⟩ hfile
  utf8 location last node hlocation hnode := by
    by_cases heq : location ++ [last] = locationOf (above ++ [name])
    · exact utf8_of_concat_eq heq
    · exact h.utf8 location last node ⟨hlocation, heq, fun h => absurd h (by simp)⟩ hnode

/-- Into the directories, by the levels that are left. -/
theorem descends_inventoryDir (levels : ℕ) : Descends t (inventoryDir u t limits levels) := by
  induction levels with
  | zero =>
      intro above name walk walk' _ h
      exact nomatch h
  | succ levels ih =>
      intro above name walk walk' hdir h
      obtain ⟨new, houtput, hreport⟩ := walkDir_eq_ok ih h
      exact ⟨new, houtput, hreport.of_dir hdir⟩

/-! ## The keys -/

theorem checkKeys_eq_ok {output : List (InventoryEntry u)} {seen : List (Text × Text)} :
    checkKeys u output seen = .ok () ↔
      (∀ e ∈ output, ∀ s ∈ seen, s.1 ≠ Store.collisionKey e.path) ∧
      output.Pairwise fun e e' => Store.collisionKey e.path ≠ Store.collisionKey e'.path := by
  induction output generalizing seen with
  | nil => simp [checkKeys]
  | cons entry rest ih =>
      rw [checkKeys, List.forall_mem_cons, List.pairwise_cons]
      split
      · rename_i existing hfound
        have hkey := List.find?_some hfound
        refine iff_of_false (fun h => nomatch h) fun h => ?_
        exact h.1.1 existing (List.mem_of_find?_eq_some hfound) (of_decide_eq_true hkey)
      · rename_i hnone
        rw [List.find?_eq_none] at hnone
        rw [ih]
        simp only [decide_eq_true_eq] at hnone
        simp only [List.forall_mem_cons]
        constructor
        · rintro ⟨hseen, hpairwise⟩
          exact ⟨⟨hnone, fun e he => (hseen e he).2⟩, fun e he => (hseen e he).1, hpairwise⟩
        · rintro ⟨⟨-, hseen⟩, hkeys, hpairwise⟩
          exact ⟨fun e he => ⟨hkeys e he, hseen e he⟩, hpairwise⟩

/-- What a successful call lists. -/
theorem inventory_eq_ok {output : List (InventoryEntry u)} (h : inventory u t limits = .ok output) :
    Report t (covered u []) output ∧
      output.Pairwise fun e e' => Store.collisionKey e.path ≠ Store.collisionKey e'.path := by
  rw [inventory, bind_eq_ok] at h
  obtain ⟨walk, hwalk, h⟩ := h
  rw [seq_eq_ok] at h
  obtain ⟨hkeys, h⟩ := h
  rw [Except.ok.injEq] at h
  subst h
  obtain ⟨new, houtput, hreport⟩ := walkDir_eq_ok (descends_inventoryDir limits.maxDepth) hwalk
  rw [List.nil_append] at houtput
  refine ⟨⟨fun e he => ?_, fun location inode bytes hlocation hfile => ?_, hreport.utf8⟩,
    (checkKeys_eq_ok.mp hkeys).2⟩
  · rw [List.mem_insertionSort, houtput] at he
    exact hreport.sound e he
  · obtain ⟨e, he, heq⟩ := hreport.complete location inode bytes hlocation hfile
    exact ⟨e, by rwa [List.mem_insertionSort, houtput], heq⟩

/-! ## The preflight -/

theorem rejectSiblingCollision_eq_ok {parent : Location} {desired incoming : Text} :
    rejectSiblingCollision u t parent desired incoming = .ok () ↔
      ∀ name node, (parent ++ [name], node) ∈ t → ∃ text, name = .utf8 (String.ofList text) ∧
        (componentCollisionKey u text = componentCollisionKey u desired → text = desired) := by
  rw [rejectSiblingCollision, each_eq_ok]
  constructor
  · intro h name node hnode
    have hentry := h _ (FileTree.mem_children.mpr hnode)
    cases name with
    | raw code => exact nomatch hentry
    | utf8 string =>
        refine ⟨string.toList, by rw [String.ofList_toList], fun hkey => ?_⟩
        by_contra hne
        exact reject_eq_ok.mp hentry ⟨hne, hkey⟩
  · rintro h ⟨name, node⟩ hmem
    obtain ⟨text, rfl, hkey⟩ := h name node (FileTree.mem_children.mp hmem)
    refine reject_eq_ok.mpr ?_
    rw [String.toList_ofList]
    exact fun ⟨hne, heq⟩ => hne (hkey heq)

theorem openChildDir_of_mem {path : Location} (h : (path, Node.dir) ∈ t) :
    openChildDir t path = .ok () := by
  rw [openChildDir, FileTree.nodeAt_eq_some_iff.mpr h]

/-- The folders on the way to an entry can be opened if no name among them stands beside
another name of its key. -/
theorem openFolders_eq_ok_iff {incoming : Text} {folders above : List Text}
    (hdirs : ∀ front c back, folders = front ++ c :: back →
      (locationOf (above ++ front ++ [c]), Node.dir) ∈ t) {parent : Location} :
    openFolders u t incoming (locationOf above) folders = .ok parent ↔
      parent = locationOf (above ++ folders) ∧ ∀ front c back, folders = front ++ c :: back →
        rejectSiblingCollision u t (locationOf (above ++ front)) c incoming = .ok () := by
  induction folders generalizing above with
  | nil =>
      rw [openFolders, Except.ok.injEq, List.append_nil, eq_comm, iff_self_and]
      intro _ front c back h
      exact absurd h (by simp)
  | cons name rest ih =>
      have hchild : locationOf above ++ [.utf8 (String.ofList name)] =
          locationOf (above ++ [name]) := (locationOf_append above [name]).symm
      have hdir : (locationOf (above ++ [name]), Node.dir) ∈ t := by
        simpa using hdirs [] name rest rfl
      rw [openFolders, seq_eq_ok, hchild]
      dsimp only
      rw [openChildDir_of_mem hdir, ok_bind, ih fun front c back h => by
          simpa using hdirs (name :: front) c back (by rw [h, List.cons_append])]
      rw [← List.append_cons]
      constructor
      · rintro ⟨hname, rfl, hrest⟩
        refine ⟨rfl, fun front c back hsplit => ?_⟩
        cases front with
        | nil =>
            obtain ⟨rfl, -⟩ := List.cons.inj hsplit
            rwa [List.append_nil]
        | cons first front =>
            obtain ⟨rfl, htail⟩ := List.cons.inj hsplit
            rw [List.append_cons]
            exact hrest front c back htail
      · rintro ⟨rfl, hall⟩
        refine ⟨?_, rfl, fun front c back hsplit => ?_⟩
        · simpa using hall [] name rest rfl
        · simpa using hall (name :: front) c back (by rw [hsplit, List.cons_append])

theorem openParentChecked_eq_ok {path : VaultPath u} {folders : List Text} {name : Text}
    (hcomponents : path.components = folders ++ [name]) {parent : Location} {last : Text} :
    openParentChecked u t path = .ok (parent, last) ↔
      openFolders u t path.asStr [] folders = .ok parent ∧ last = name := by
  rw [openParentChecked, hcomponents, List.dropLast_concat, List.getLast?_concat, bind_eq_ok]
  constructor
  · rintro ⟨found, hfound, h⟩
    cases h
    exact ⟨hfound, rfl⟩
  · rintro ⟨hfound, rfl⟩
    exact ⟨parent, hfound, rfl⟩

/-- The preflight of a path that leads to a file, name by name. -/
theorem preflight_eq_ok_iff {path : VaultPath u} {inode : ℕ}
    {bytes : List UInt8} (hfile : (locationOf path.components, Node.file inode bytes) ∈ t) :
    preflight u t path = .ok () ↔ ∀ front c back, path.components = front ++ c :: back →
      rejectSiblingCollision u t (locationOf front) c path.asStr = .ok () := by
  obtain ⟨folders, name, hcomponents⟩ : ∃ folders name, path.components = folders ++ [name] :=
    ⟨_, _, (List.dropLast_append_getLast path.fits.1).symm⟩
  have hdirs : ∀ front c back, folders = front ++ c :: back →
      (locationOf ([] ++ front ++ [c]), Node.dir) ∈ t := fun front c back hsplit => by
    rw [hcomponents, hsplit, List.append_assoc, List.cons_append, List.append_cons,
      locationOf_append] at hfile
    exact FileTree.dir_of_mem hfile (by simp [locationOf]) (by simp [locationOf])
  have hopen : ∀ parent, openFolders u t path.asStr (locationOf []) folders = .ok parent ↔ _ :=
    fun parent => openFolders_eq_ok_iff hdirs
  rw [preflight, bind_eq_ok]
  constructor
  · rintro ⟨⟨parent, last⟩, hparent, hlast⟩ front c back hsplit
    obtain ⟨hfolders, rfl⟩ := (openParentChecked_eq_ok hcomponents).mp hparent
    obtain ⟨rfl, hall⟩ := (hopen parent).mp hfolders
    rw [hcomponents] at hsplit
    rcases List.eq_nil_or_concat back with rfl | ⟨init, final, rfl⟩
    · obtain ⟨rfl, hname⟩ := List.append_inj' hsplit rfl
      obtain rfl := List.singleton_inj.mp hname
      exact hlast
    · rw [List.concat_eq_append, ← List.cons_append, ← List.append_assoc] at hsplit
      exact hall front c init (List.append_inj' hsplit rfl).1
  · intro hall
    refine ⟨(locationOf folders, name), (openParentChecked_eq_ok hcomponents).mpr
      ⟨(hopen _).mpr ⟨rfl, fun front c back hsplit => ?_⟩, rfl⟩, hall folders name [] hcomponents⟩
    exact hall front c (back ++ [name]) (by rw [hcomponents, hsplit]; simp)

/-! ## Which lists are addressable -/

/-- The collision key of a list of names. -/
def keyOf (u : Unicode) (components : List Text) : Text :=
  joinSlash (components.map (componentCollisionKey u))

/-- What a list of an inventory should be: the files outside the internal trees, each under
its location, no two of whose paths, or folders on the way, have one key, and all of which
pass the preflight. -/
structure Addressable (u : Unicode) (t : FileTree) (output : List (InventoryEntry u)) :
    Prop where
  located : ∀ e ∈ output, IsContent u (locationOf e.path.components) ∧
    ∃ inode bytes, (locationOf e.path.components, Node.file inode bytes) ∈ t ∧ e.size = bytes.length
  complete : ∀ location inode bytes, (location, Node.file inode bytes) ∈ t → IsContent u location →
    ∃ e ∈ output, locationOf e.path.components = location
  distinct : output.Pairwise fun e e' => Store.collisionKey e.path ≠ Store.collisionKey e'.path
  foldersDistinct : ∀ e ∈ output, ∀ e' ∈ output, ∀ a b, a ≠ [] → b ≠ [] →
    a <+: e.path.components → b <+: e'.path.components → keyOf u a = keyOf u b → a = b
  free : ∀ e ∈ output, preflight u t e.path = .ok ()

/-- The names lead to a file outside the internal trees. -/
def LeadsToFile (u : Unicode) (t : FileTree) (components : List Text) : Prop :=
  components ≠ [] ∧ ∃ rest inode bytes, (locationOf components ++ rest, Node.file inode bytes) ∈ t ∧
    IsContent u (locationOf components ++ rest)

/-- No name on the way to a file stands beside another name of its key, and no two ways to
files have one key. -/
structure AliasFree (u : Unicode) (t : FileTree) : Prop where
  siblings : ∀ above name other node, LeadsToFile u t (above ++ [name]) →
    (locationOf (above ++ [other]), node) ∈ t →
    componentCollisionKey u other = componentCollisionKey u name → other = name
  ways : ∀ a b, LeadsToFile u t a → LeadsToFile u t b → keyOf u a = keyOf u b → a = b

theorem mem_covered_nil {location : Location} :
    location ∈ covered u [] ↔ location ≠ [] ∧ IsContent u location :=
  ⟨fun h => ⟨h.2.1, h.2.2 rfl⟩, fun h => ⟨List.nil_prefix, h.1, fun _ => h.2⟩⟩

section Listed

variable {output : List (InventoryEntry u)} (hreport : Report t (covered u []) output)

include hreport

/-- The ways to files are those to the listed files. -/
theorem leadsToFile_iff {a : List Text} :
    LeadsToFile u t a ↔ a ≠ [] ∧ ∃ e ∈ output, a <+: e.path.components := by
  constructor
  · rintro ⟨hne, rest, inode, bytes, hfile, hcontent⟩
    obtain ⟨e, he, hlocation⟩ := hreport.complete _ inode bytes
      (mem_covered_nil.mpr ⟨t.nonempty _ hfile, hcontent⟩) hfile
    obtain ⟨front, back, hsplit, hfront, -⟩ := List.map_eq_append_iff.mp hlocation
    obtain rfl := locationOf_injective hfront
    exact ⟨hne, e, he, back, hsplit.symm⟩
  · rintro ⟨hne, e, he, back, hsplit⟩
    obtain ⟨hcovered, inode, bytes, hfile, -⟩ := hreport.sound e he
    rw [← hsplit, locationOf_append] at hcovered hfile
    exact ⟨hne, locationOf back, inode, bytes, hfile, (mem_covered_nil.mp hcovered).2⟩

/-- No name beside one on the way to a listed file is outside UTF-8. -/
theorem utf8_beside {e : InventoryEntry u} (he : e ∈ output) {front back : List Text}
    (hsplit : e.path.components = front ++ back) {name : FileName} {node : Node}
    (h : (locationOf front ++ [name], node) ∈ t) : ∃ text, name = .utf8 text := by
  cases name with
  | utf8 text => exact ⟨text, rfl⟩
  | raw code =>
      refine hreport.utf8 _ _ node (mem_covered_nil.mpr ⟨t.nonempty _ h, ?_⟩) h
      intro text htext
      cases front with
      | nil => exact nomatch htext
      | cons first front =>
          have hcontent := (mem_covered_nil.mp (hreport.sound e he).1).2
          rw [hsplit] at hcontent
          exact hcontent text htext

/-- The preflight finds nothing at the listed paths if and only if no name on the way to
one stands beside another of its key. -/
theorem free_iff :
    (∀ e ∈ output, preflight u t e.path = .ok ()) ↔
      ∀ above name other node, LeadsToFile u t (above ++ [name]) →
        (locationOf (above ++ [other]), node) ∈ t →
        componentCollisionKey u other = componentCollisionKey u name → other = name := by
  constructor
  · intro hfree above name other node hleads hother hkey
    obtain ⟨-, e, he, back, hsplit⟩ := (leadsToFile_iff hreport).mp hleads
    obtain ⟨-, inode, bytes, hfile, -⟩ := hreport.sound e he
    rw [List.append_assoc] at hsplit
    have hreject := (preflight_eq_ok_iff hfile).mp (hfree e he) above name back hsplit.symm
    rw [locationOf_append] at hother
    obtain ⟨text, htext, heq⟩ := rejectSiblingCollision_eq_ok.mp hreject _ node hother
    obtain rfl := String.ofList_injective (FileName.utf8.inj htext)
    exact heq hkey
  · intro hsiblings e he
    obtain ⟨-, inode, bytes, hfile, -⟩ := hreport.sound e he
    refine (preflight_eq_ok_iff hfile).mpr fun front c back hsplit => ?_
    refine rejectSiblingCollision_eq_ok.mpr fun name node hnode => ?_
    obtain ⟨string, rfl⟩ := utf8_beside hreport he hsplit hnode
    refine ⟨string.toList, by rw [String.ofList_toList], hsiblings front c string.toList node ?_ ?_⟩
    · exact (leadsToFile_iff hreport).mpr ⟨by simp, e, he, back, by rw [hsplit]; simp⟩
    · rw [locationOf_append, locationOf, locationOf, List.map_singleton, String.ofList_toList]
      exact hnode

end Listed

/-- An inventory lists what is addressable if and only if the tree has no aliases on the
ways to its files. -/
theorem inventory_addressable_iff {output : List (InventoryEntry u)}
    (h : inventory u t limits = .ok output) : Addressable u t output ↔ AliasFree u t := by
  obtain ⟨hreport, hdistinct⟩ := inventory_eq_ok h
  constructor
  · intro haddressable
    refine ⟨(free_iff hreport).mp haddressable.free, fun a b ha hb => ?_⟩
    obtain ⟨hane, e, he, hinit⟩ := (leadsToFile_iff hreport).mp ha
    obtain ⟨hbne, e', he', hinit'⟩ := (leadsToFile_iff hreport).mp hb
    exact haddressable.foldersDistinct e he e' he' a b hane hbne hinit hinit'
  · intro hfree
    refine ⟨fun e he => ?_, fun location inode bytes hfile hcontent => ?_, hdistinct,
      fun e he e' he' a b hane hbne ha hb => ?_, (free_iff hreport).mpr hfree.siblings⟩
    · obtain ⟨hcovered, hfile⟩ := hreport.sound e he
      exact ⟨(mem_covered_nil.mp hcovered).2, hfile⟩
    · exact hreport.complete location inode bytes
        (mem_covered_nil.mpr ⟨t.nonempty _ hfile, hcontent⟩) hfile
    · exact hfree.ways a b ((leadsToFile_iff hreport).mpr ⟨hane, e, he, ha⟩)
        ((leadsToFile_iff hreport).mpr ⟨hbne, e', he', hb⟩)

/-- Two folders of one key, with a file of its own in each. -/
def twoFolders : FileTree :=
  .ofRows [([.utf8 "Notes"], .dir), ([.utf8 "Notes", .utf8 "a.md"], .file 1 [49]),
      ([.utf8 "notes"], .dir), ([.utf8 "notes", .utf8 "b.md"], .file 2 [50])]
    (by decide) (by decide)

/-- The default limits. -/
def usualLimits : InventoryLimits := ⟨64, 100000⟩

theorem twoFolders_addressable_iff : ∃ output,
    inventory .ascii twoFolders usualLimits = .ok output ∧
      (Addressable .ascii twoFolders output ↔ AliasFree .ascii twoFolders) := by
  have hok : (inventory .ascii twoFolders usualLimits).isOk = true := by decide +kernel
  cases h : inventory .ascii twoFolders usualLimits with
  | error e =>
      rw [h] at hok
      exact nomatch hok
  | ok output => exact ⟨output, rfl, inventory_addressable_iff h⟩

/-- Both files are listed, and the preflight refuses each because of the other's folder. -/
theorem twoFolders_listed_not_addressable :
    ∃ output, inventory .ascii twoFolders usualLimits = .ok output ∧
      (output.map fun e => e.path.asStr) = ["Notes/a.md".toList, "notes/b.md".toList] ∧
      (output.map fun e => preflight .ascii twoFolders e.path) =
        [.error (.portablePathCollision "notes".toList "Notes/a.md".toList),
          .error (.portablePathCollision "Notes".toList "notes/b.md".toList)] ∧
      ¬ Addressable .ascii twoFolders output := by
  have hrun : (inventory .ascii twoFolders usualLimits).map
      (List.map fun e => (e.path.asStr, preflight .ascii twoFolders e.path)) =
      .ok [("Notes/a.md".toList,
          .error (.portablePathCollision "notes".toList "Notes/a.md".toList)),
        ("notes/b.md".toList,
          .error (.portablePathCollision "Notes".toList "notes/b.md".toList))] := by
    decide +kernel
  cases h : inventory .ascii twoFolders usualLimits with
  | error e =>
      rw [h] at hrun
      exact nomatch hrun
  | ok output =>
      rw [h, Except.map, Except.ok.injEq] at hrun
      have hpaths := congrArg (List.map Prod.fst) hrun
      have hchecks := congrArg (List.map Prod.snd) hrun
      rw [List.map_map] at hpaths hchecks
      refine ⟨output, rfl, hpaths, hchecks, fun haddressable => ?_⟩
      cases output with
      | nil => exact nomatch hrun
      | cons e rest =>
          have hfree := haddressable.free e List.mem_cons_self
          rw [List.map_cons, List.map_cons, List.cons.injEq, Function.comp_apply] at hchecks
          exact nomatch hfree.symm.trans hchecks.1

end Vault
end MyVault
