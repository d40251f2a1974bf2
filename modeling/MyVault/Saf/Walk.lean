import MyVault.Saf.Documents

/-!
# What the walk lists

The walk lists a file exactly if plain names lead to it from the root (`Leads`), and lists
it once.  Behind this is an invariant of the outer loop (`WalkInv`): what has been taken
from the queue is closed, up to what is in the queue.
-/

namespace MyVault
namespace Saf

open Check

/-- The names lead from the root to the child, and every step on the way is fit. -/
inductive Leads (provider : Provider) (Fit : List Child → Child → Prop) :
    List Text → Child → Prop
  | child {children : List Child} {child : Child}
      (hquery : provider.queryChildren provider.treeDocumentId = some children)
      (hmem : child ∈ children) (hfit : Fit children child)
      (hplain : isPlainName child.name = true) (hroot : isProtectedRootName child.name = false) :
      Leads provider Fit [child.name] child
  | step {names : List Text} {folder child : Child} {children : List Child}
      (hfolder : Leads provider Fit names folder) (hdir : folder.isDir = true)
      (hquery : provider.queryChildren folder.documentId = some children)
      (hmem : child ∈ children) (hfit : Fit children child)
      (hplain : isPlainName child.name = true) :
      Leads provider Fit (names ++ [child.name]) child

/-- A child that the walk comes to, if it does not stop before. -/
abbrev Reached (provider : Provider) : List Text → Child → Prop :=
  Leads provider fun _ _ => True

variable {provider : Provider} {directory : PendingDirectory} {scan scan' : Scan}
  {child : Child} {children : List Child}

/-! ## One directory -/

/-- The folder that a child adds to the queue. -/
def folderItem (directory : PendingDirectory) (child : Child) : Option PendingDirectory :=
  if isListed directory child = true ∧ child.isDir = true then
    some { documentId := child.documentId, path := childPath directory child
           depth := directory.depth + 1 }
  else none

/-- The file that a child adds to the entries. -/
def fileItem (directory : PendingDirectory) (child : Child) : Option (Text × Child) :=
  if isListed directory child = true ∧ child.isDir = false then
    some (childPath directory child, child)
  else none

theorem visitChild_ok (h : visitChild directory scan child = .ok scan') :
    scan' = { queue := scan.queue ++ (folderItem directory child).toList
              entries := scan.entries ++ (fileItem directory child).toList
              scanned := scan.scanned + 1 } ∧ scan.scanned + 1 ≤ maxEntries := by
  rw [visitChild] at h
  dsimp only at h
  obtain ⟨hle, h⟩ := ite_error_eq_ok.mp h
  refine ⟨?_, Nat.le_of_not_lt hle⟩
  rw [folderItem, fileItem]
  split at h
  · rename_i hskip
    cases h
    simp [hskip]
  · rename_i hlisted
    rw [Bool.not_eq_false] at hlisted
    split at h
    · rename_i hdir
      obtain ⟨-, h⟩ := ite_error_eq_ok.mp h
      cases h
      simp [hlisted, hdir]
    · rename_i hdir
      rw [Bool.not_eq_true] at hdir
      cases h
      simp [hlisted, hdir]

theorem visitChildren_ok (h : children.foldlM (visitChild directory) scan = .ok scan')
    (hle : scan.scanned ≤ maxEntries) :
    scan' = { queue := scan.queue ++ children.filterMap (folderItem directory)
              entries := scan.entries ++ children.filterMap (fileItem directory)
              scanned := scan.scanned + children.length } ∧ scan'.scanned ≤ maxEntries := by
  induction children generalizing scan with
  | nil =>
      cases h
      exact ⟨by simp, hle⟩
  | cons child rest ih =>
      rw [List.foldlM_cons] at h
      obtain ⟨next, hnext, h⟩ := bind_eq_ok.mp h
      obtain ⟨rfl, hle'⟩ := visitChild_ok hnext
      obtain ⟨rfl, hle''⟩ := ih h hle'
      refine ⟨?_, hle''⟩
      cases hfolder : folderItem directory child <;> cases hfile : fileItem directory child <;>
        simp [hfolder, hfile, Nat.add_comm, Nat.add_left_comm]

/-- With one turn for every directory in the queue and for every child that may still come,
the walk has as many as it needs. -/
theorem walk_of_le {turns more : ℕ} (hle : scan.scanned ≤ maxEntries)
    (hturns : scan.queue.length + (maxEntries - scan.scanned) ≤ turns) (hmore : turns ≤ more) :
    walk provider more scan = walk provider turns scan := by
  induction turns generalizing more scan with
  | zero =>
      have hnil : scan.queue = [] := List.length_eq_zero_iff.mp (by omega)
      rw [walk, walk, hnil]
  | succ turns ih =>
      obtain ⟨more, rfl⟩ : ∃ n, more = n + 1 := ⟨more - 1, by omega⟩
      rw [walk, walk]
      cases hqueue : scan.queue with
      | nil => rfl
      | cons directory rest =>
          dsimp only
          cases hvisit : visitDirectory provider directory { scan with queue := rest } with
          | error e => rfl
          | ok next =>
              show walk provider more next = walk provider turns next
              rw [visitDirectory] at hvisit
              split at hvisit
              · exact nomatch hvisit
              · rename_i children hquery
                obtain ⟨rfl, hle'⟩ := visitChildren_ok hvisit hle
                refine ih hle' ?_ (by omega)
                have hfolders := List.length_filterMap_le (folderItem directory) children
                rw [hqueue] at hturns
                simp only [List.length_append, List.length_cons] at hturns hle' ⊢
                omega

/-! ## Paths of children -/

section Paths

variable {Fit : List Child → Child → Prop} {names : List Text}

theorem isPlainName_iff {name : Text} : isPlainName name = true ↔
    name ≠ [] ∧ name ≠ ".".toList ∧ name ≠ "..".toList ∧ '/' ∉ name ∧ '\\' ∉ name ∧
      '\x00' ∉ name := by
  simp only [isPlainName, Bool.not_eq_true', Bool.or_eq_false_iff, List.isEmpty_eq_false_iff,
    beq_eq_false_iff_ne, List.contains_eq_mem, decide_eq_false_iff_not, ne_eq, and_assoc]

namespace Leads

theorem plain (h : Leads provider Fit names child) :
    ∀ name ∈ names, isPlainName name = true := by
  induction h with
  | child _ _ _ hplain => exact List.forall_mem_singleton.mpr hplain
  | step _ _ _ _ _ hplain ih =>
      intro name hname
      rcases List.mem_append.mp hname with hname | hname
      · exact ih name hname
      · rwa [List.mem_singleton.mp hname]

theorem ne_nil (h : Leads provider Fit names child) : names ≠ [] := by
  cases h with
  | child => exact List.cons_ne_nil _ _
  | step => simp

/-- The first name is not one of the protected ones. -/
theorem head_not_protected (h : Leads provider Fit names child) :
    names.head?.any isProtectedRootName = false := by
  induction h with
  | child _ _ _ _ hroot => exact hroot
  | step hfolder _ _ _ _ _ ih => rwa [List.head?_append_of_ne_nil _ hfolder.ne_nil]

theorem joinSlash_ne_nil (h : Leads provider Fit names child) : joinSlash names ≠ [] := by
  cases h with
  | child _ _ _ hplain =>
      rw [joinSlash, List.intercalate_singleton]
      exact (isPlainName_iff.mp hplain).1
  | step hfolder => simp [joinSlash_concat hfolder.ne_nil]

/-- The names are read off the path again. -/
theorem splitSlash_joinSlash (h : Leads provider Fit names child) :
    splitSlash (joinSlash names) = names :=
  List.splitOn_intercalate '/' (fun name hname => (isPlainName_iff.mp (h.plain name hname)).2.2.2.1)
    h.ne_nil

end Leads

/-- The folder in the queue. -/
def pendingOf (names : List Text) (folder : Child) : PendingDirectory :=
  { documentId := folder.documentId, path := joinSlash names, depth := names.length }

theorem childPath_pendingOf {folder : Child} (h : Leads provider Fit names folder) :
    childPath (pendingOf names folder) child = joinSlash (names ++ [child.name]) := by
  rw [childPath, pendingOf, if_neg h.joinSlash_ne_nil, joinSlash_concat h.ne_nil]

theorem childPath_root : childPath (rootDirectory provider) child = joinSlash [child.name] := by
  rw [childPath, rootDirectory, if_pos rfl, joinSlash, List.intercalate_singleton]

theorem isListed_pendingOf {folder : Child} (h : Leads provider Fit names folder) :
    isListed (pendingOf names folder) child = isPlainName child.name := by
  have hpath := h.joinSlash_ne_nil
  simp [isListed, pendingOf, hpath]

theorem isListed_root : isListed (rootDirectory provider) child = true ↔
    isPlainName child.name = true ∧ isProtectedRootName child.name = false := by
  simp [isListed, rootDirectory]

/-- A directory the walk has put into its queue. -/
inductive IsPending (provider : Provider) : PendingDirectory → Prop
  | root : IsPending provider (rootDirectory provider)
  | folder {names : List Text} {folder : Child} (h : Reached provider names folder)
      (hdir : folder.isDir = true) : IsPending provider (pendingOf names folder)

/-- What is listed in a directory of the queue has been reached. -/
theorem IsPending.reached (hpending : IsPending provider directory)
    (hquery : provider.queryChildren directory.documentId = some children)
    (hmem : child ∈ children) (hlisted : isListed directory child = true) :
    ∃ names, Reached provider names child ∧ childPath directory child = joinSlash names ∧
      directory.depth + 1 = names.length := by
  cases hpending with
  | root =>
      obtain ⟨hplain, hroot⟩ := isListed_root.mp hlisted
      exact ⟨[child.name], .child hquery hmem trivial hplain hroot, childPath_root, rfl⟩
  | @folder names folder h hdir =>
      rw [isListed_pendingOf h] at hlisted
      exact ⟨names ++ [child.name], .step h hdir hquery hmem trivial hlisted,
        childPath_pendingOf h, by simp [pendingOf]⟩

end Paths

/-! ## The outer loop -/

/-- The directory is a child of one of these. -/
def HasParentIn (provider : Provider) (done : List PendingDirectory) (documentId : String) :
    Prop :=
  ∃ above ∈ done, ∃ children, provider.queryChildren above.documentId = some children ∧
    ∃ child ∈ children, child.documentId = documentId

/-- What the outer loop keeps, with the directories it has taken from the queue. -/
structure WalkInv (provider : Provider) (done : List PendingDirectory) (scan : Scan) : Prop where
  root : rootDirectory provider ∈ done ++ scan.queue
  pending : ∀ directory ∈ done ++ scan.queue, IsPending provider directory
  parents : ∀ directory ∈ done ++ scan.queue,
    directory = rootDirectory provider ∨ HasParentIn provider done directory.documentId
  nodup : ((done ++ scan.queue).map PendingDirectory.documentId).Nodup
  reached : ∀ file ∈ scan.entries, ∃ names, Reached provider names file.2 ∧
    file.2.isDir = false ∧ file.1 = joinSlash names
  owners : ∀ file ∈ scan.entries, HasParentIn provider done file.2.documentId
  nodup_entries : (scan.entries.map fun file => file.2.documentId).Nodup
  closed : ∀ directory ∈ done, ∃ children,
    provider.queryChildren directory.documentId = some children ∧ ∀ child ∈ children,
      (∀ folder ∈ folderItem directory child, folder ∈ done ++ scan.queue) ∧
        ∀ file ∈ fileItem directory child, file ∈ scan.entries
  bound : scan.scanned ≤ maxEntries

theorem mem_folderItem {folder : PendingDirectory} : folder ∈ folderItem directory child ↔
    isListed directory child = true ∧ child.isDir = true ∧
      folder = { documentId := child.documentId, path := childPath directory child
                 depth := directory.depth + 1 } := by
  rw [folderItem]
  split
  · rename_i h
    rw [Option.mem_some_iff, and_iff_right h.1, and_iff_right h.2, eq_comm]
  · rename_i h
    exact iff_of_false nofun fun hand => h ⟨hand.1, hand.2.1⟩

theorem mem_fileItem {file : Text × Child} : file ∈ fileItem directory child ↔
    isListed directory child = true ∧ child.isDir = false ∧
      file = (childPath directory child, child) := by
  rw [fileItem]
  split
  · rename_i h
    rw [Option.mem_some_iff, and_iff_right h.1, and_iff_right h.2, eq_comm]
  · rename_i h
    exact iff_of_false nofun fun hand => h ⟨hand.1, hand.2.1⟩

/-- The ids of what the children of a directory give are ids of these children, each once. -/
theorem nodup_items {α : Type} {f : Child → Option α} {id : α → String}
    (hid : ∀ child a, a ∈ f child → id a = child.documentId)
    (hnodup : (children.map Child.documentId).Nodup) :
    ((children.filterMap f).map id).Nodup := by
  induction children with
  | nil => exact List.nodup_nil
  | cons child rest ih =>
      rw [List.map_cons, List.nodup_cons] at hnodup
      cases hf : f child with
      | none =>
          rw [List.filterMap_cons_none hf]
          exact ih hnodup.2
      | some a =>
          rw [List.filterMap_cons_some hf, List.map_cons, List.nodup_cons]
          refine ⟨fun hmem => hnodup.1 ?_, ih hnodup.2⟩
          obtain ⟨b, hb, heq⟩ := List.mem_map.mp hmem
          obtain ⟨other, hother, hb⟩ := List.mem_filterMap.mp hb
          rw [hid child a hf] at heq
          rw [← heq, hid other b hb]
          exact List.mem_map_of_mem hother

/-- A child of a directory that has not been taken before has no parent among those that
have. -/
theorem not_hasParentIn {done : List PendingDirectory}
    (hnew : directory.documentId ∉ done.map PendingDirectory.documentId)
    (hquery : provider.queryChildren directory.documentId = some children)
    (hmem : child ∈ children) :
    ¬ HasParentIn provider done child.documentId := by
  rintro ⟨above, habove, siblings, hsiblings, other, hother, heq⟩
  refine hnew ?_
  rw [provider.parent_unique _ _ _ _ hquery hsiblings child hmem other hother heq.symm]
  exact List.mem_map_of_mem habove

theorem HasParentIn.mono {done done' : List PendingDirectory} {documentId : String}
    (h : HasParentIn provider done documentId) (hle : done ⊆ done') :
    HasParentIn provider done' documentId := by
  obtain ⟨above, habove, hchild⟩ := h
  exact ⟨above, hle habove, hchild⟩

/-- One turn: the directory is taken from the queue, and what is below it comes in. -/
theorem WalkInv.visit {done rest : List PendingDirectory} (h : WalkInv provider done scan)
    (hqueue : scan.queue = directory :: rest)
    (hquery : provider.queryChildren directory.documentId = some children)
    (hbound : scan.scanned + children.length ≤ maxEntries) :
    WalkInv provider (done ++ [directory])
      { queue := rest ++ children.filterMap (folderItem directory)
        entries := scan.entries ++ children.filterMap (fileItem directory)
        scanned := scan.scanned + children.length } := by
  obtain ⟨hroot, hpending, hparents, hnodup, hreached, howners, hentries, hclosed, -⟩ := h
  rw [hqueue] at hroot hpending hparents hnodup
  have hdirectory : directory ∈ done ++ directory :: rest := by simp
  have hall : done ++ [directory] ++ (rest ++ children.filterMap (folderItem directory)) =
      (done ++ directory :: rest) ++ children.filterMap (folderItem directory) := by simp
  have hsub : done ⊆ done ++ [directory] := List.subset_append_left _ _
  have hnew : directory.documentId ∉ done.map PendingDirectory.documentId := by
    rw [List.map_append, List.map_cons, List.nodup_append'] at hnodup
    exact fun hmem => hnodup.2.2 hmem List.mem_cons_self
  have hown {child : Child} (hmem : child ∈ children) :
      HasParentIn provider (done ++ [directory]) child.documentId :=
    ⟨directory, by simp, children, hquery, child, hmem, rfl⟩
  have hchildren := provider.nodup_children _ _ hquery
  refine ⟨?_, ?_, ?_, ?_, ?_, ?_, ?_, ?_, hbound⟩
  · rw [hall]
    exact List.mem_append_left _ hroot
  · rw [hall]
    intro found hfound
    rcases List.mem_append.mp hfound with hold | hitem
    · exact hpending found hold
    · obtain ⟨child, hmem, hitem⟩ := List.mem_filterMap.mp hitem
      obtain ⟨hlisted, hdir, rfl⟩ := mem_folderItem.mp hitem
      obtain ⟨names, hreach, hpath, hdepth⟩ :=
        (hpending directory hdirectory).reached hquery hmem hlisted
      rw [hpath, hdepth]
      exact .folder hreach hdir
  · rw [hall]
    intro found hfound
    rcases List.mem_append.mp hfound with hold | hitem
    · exact (hparents found hold).imp_right (HasParentIn.mono · hsub)
    · obtain ⟨child, hmem, hitem⟩ := List.mem_filterMap.mp hitem
      obtain ⟨-, -, rfl⟩ := mem_folderItem.mp hitem
      exact Or.inr (hown hmem)
  · rw [hall, List.map_append, List.nodup_append']
    refine ⟨hnodup, nodup_items (fun child a ha => ?_) hchildren, ?_⟩
    · obtain ⟨-, -, rfl⟩ := mem_folderItem.mp ha
      rfl
    · intro documentId hold hitem
      obtain ⟨found, hfound, rfl⟩ := List.mem_map.mp hold
      obtain ⟨item, hitem, heq⟩ := List.mem_map.mp hitem
      obtain ⟨child, hmem, hitem⟩ := List.mem_filterMap.mp hitem
      obtain ⟨-, -, rfl⟩ := mem_folderItem.mp hitem
      rcases hparents found hfound with rfl | hparent
      · exact provider.root_no_child _ _ hquery child hmem heq
      · rw [← heq] at hparent
        exact not_hasParentIn hnew hquery hmem hparent
  · intro file hfile
    rcases List.mem_append.mp hfile with hold | hitem
    · exact hreached file hold
    · obtain ⟨child, hmem, hitem⟩ := List.mem_filterMap.mp hitem
      obtain ⟨hlisted, hdir, rfl⟩ := mem_fileItem.mp hitem
      obtain ⟨names, hreach, hpath, -⟩ :=
        (hpending directory hdirectory).reached hquery hmem hlisted
      exact ⟨names, hreach, hdir, hpath⟩
  · intro file hfile
    rcases List.mem_append.mp hfile with hold | hitem
    · exact (howners file hold).mono hsub
    · obtain ⟨child, hmem, hitem⟩ := List.mem_filterMap.mp hitem
      obtain ⟨-, -, rfl⟩ := mem_fileItem.mp hitem
      exact hown hmem
  · rw [List.map_append, List.nodup_append']
    refine ⟨hentries, nodup_items (fun child a ha => ?_) hchildren, ?_⟩
    · obtain ⟨-, -, rfl⟩ := mem_fileItem.mp ha
      rfl
    · intro documentId hold hitem
      obtain ⟨file, hfile, rfl⟩ := List.mem_map.mp hold
      obtain ⟨item, hitem, heq⟩ := List.mem_map.mp hitem
      obtain ⟨child, hmem, hitem⟩ := List.mem_filterMap.mp hitem
      obtain ⟨-, -, rfl⟩ := mem_fileItem.mp hitem
      exact not_hasParentIn hnew hquery hmem (heq ▸ howners file hfile)
  · rw [hall]
    intro found hfound
    rcases List.mem_append.mp hfound with hold | hself
    · obtain ⟨siblings, hsiblings, hitems⟩ := hclosed found hold
      rw [hqueue] at hitems
      refine ⟨siblings, hsiblings, fun child hmem =>
        ⟨fun folder hfolder => ?_, fun file hfile => ?_⟩⟩
      · exact List.mem_append_left _ ((hitems child hmem).1 folder hfolder)
      · exact List.mem_append_left _ ((hitems child hmem).2 file hfile)
    · rw [List.mem_singleton.mp hself]
      refine ⟨children, hquery, fun child hmem => ⟨fun folder hfolder => ?_, fun file hfile => ?_⟩⟩
      · exact List.mem_append_right _ (List.mem_filterMap.mpr ⟨child, hmem, hfolder⟩)
      · exact List.mem_append_right _ (List.mem_filterMap.mpr ⟨child, hmem, hfile⟩)

/-- The whole loop. -/
theorem WalkInv.walk {turns : ℕ} {done : List PendingDirectory} (h : WalkInv provider done scan)
    (hwalk : Saf.walk provider turns scan = .ok scan') :
    ∃ done', WalkInv provider done' scan' ∧ scan'.queue = [] := by
  induction turns generalizing scan done with
  | zero =>
      rw [Saf.walk] at hwalk
      split at hwalk
      · rename_i hnil
        cases hwalk
        exact ⟨done, h, hnil⟩
      · exact nomatch hwalk
  | succ turns ih =>
      rw [Saf.walk] at hwalk
      split at hwalk
      · rename_i hnil
        cases hwalk
        exact ⟨done, h, hnil⟩
      · rename_i directory rest hqueue
        obtain ⟨next, hvisit, hwalk⟩ := bind_eq_ok.mp hwalk
        rw [visitDirectory] at hvisit
        split at hvisit
        · exact nomatch hvisit
        · rename_i children hquery
          obtain ⟨rfl, hbound⟩ := visitChildren_ok hvisit h.bound
          exact ih (h.visit hqueue hquery hbound) hwalk

theorem walkInv_start : WalkInv provider []
    { queue := [rootDirectory provider], entries := [], scanned := 0 } where
  root := List.mem_singleton_self _
  pending := fun directory hmem => by
    rw [List.mem_singleton.mp hmem]
    exact .root
  parents := fun directory hmem => Or.inl (List.mem_singleton.mp hmem)
  nodup := List.nodup_singleton _
  reached := nofun
  owners := nofun
  nodup_entries := List.nodup_nil
  closed := nofun
  bound := Nat.zero_le _

/-- The files that are listed are those that are reached, each once. -/
theorem listFiles_ok {files : List (Text × Child)} {scanned : ℕ}
    (h : listFiles provider = .ok (files, scanned)) :
    (∀ path file, (path, file) ∈ files ↔
      ∃ names, Reached provider names file ∧ file.isDir = false ∧ path = joinSlash names) ∧
      (files.map fun file => file.2.documentId).Nodup := by
  obtain ⟨scan, hwalk, h⟩ := bind_eq_ok.mp h
  cases h
  obtain ⟨done, hinv, hnil⟩ := walkInv_start.walk hwalk
  have hperm := List.perm_insertionSort
    (fun a b : Text × Child => bytesKey a.1 ≤ bytesKey b.1) scan.entries
  refine ⟨fun path file => ?_, (hperm.map _).nodup_iff.mpr hinv.nodup_entries⟩
  rw [hperm.mem_iff]
  refine ⟨fun hmem => hinv.reached _ hmem, ?_⟩
  -- what is reached is closed under the turns that were made
  have hall : ∀ {names child}, Reached provider names child →
      if child.isDir = true then pendingOf names child ∈ done
      else (joinSlash names, child) ∈ scan.entries := by
    intro names child hreached
    have hroot := hinv.root
    rw [hnil, List.append_nil] at hroot
    have hitems {directory : PendingDirectory} {children : List Child} {child : Child}
        (hdone : directory ∈ done)
        (hquery : provider.queryChildren directory.documentId = some children)
        (hmem : child ∈ children) (hlisted : isListed directory child = true) :
        if child.isDir = true then
          { documentId := child.documentId, path := childPath directory child
            depth := directory.depth + 1 } ∈ done
        else (childPath directory child, child) ∈ scan.entries := by
      obtain ⟨siblings, hsiblings, hclosed⟩ := hinv.closed directory hdone
      rw [hquery, Option.some.injEq] at hsiblings
      subst hsiblings
      rw [hnil, List.append_nil] at hclosed
      split
      · rename_i hdir
        exact (hclosed child hmem).1 _ (mem_folderItem.mpr ⟨hlisted, hdir, rfl⟩)
      · rename_i hdir
        exact (hclosed child hmem).2 _
          (mem_fileItem.mpr ⟨hlisted, Bool.not_eq_true _ ▸ hdir, rfl⟩)
    induction hreached with
    | @child children child hquery hmem _ hplain hprotected =>
        have hitem := hitems hroot hquery hmem (isListed_root.mpr ⟨hplain, hprotected⟩)
        rwa [childPath_root] at hitem
    | @step names folder child children hfolder hdir hquery hmem _ hplain ih =>
        rw [if_pos hdir] at ih
        have hlisted : isListed (pendingOf names folder) child = true := by
          rw [isListed_pendingOf hfolder]
          exact hplain
        have hitem := hitems ih hquery hmem hlisted
        rw [childPath_pendingOf hfolder] at hitem
        rwa [pendingOf, List.length_append, List.length_singleton]
  rintro ⟨names, hreached, hfile, rfl⟩
  have hlisted := hall hreached
  rwa [if_neg (by rw [hfile]; exact Bool.false_ne_true)] at hlisted

end Saf
end MyVault
