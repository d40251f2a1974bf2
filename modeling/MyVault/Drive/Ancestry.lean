import MyVault.Drive.Client
import Mathlib.Logic.Relation

/-!
# Where a file is

The scan goes down from the bound root and a change is resolved upwards, but both put the
same names together: those of the folders between the root and the file, and the one of
the file (`Located`).  So the two agree on every file that is not deeper than the bound on
the hops (`scan_and_changes_agree`).  A name may contain a slash, and then the path has
more components than there are folders.

## No forest is needed for one half

A file that is resolved as inside was reached by a climb that ended at the root, and the folders
it went through are those between the root and the file.  So `located_of_inside` asks nothing of
the parents, and no cycle ever puts a file inside.  The other half does: where the folders above a
file go round, the root can be below itself, and the changes do not look for it there.
`Catalog.IsForest` excludes that.  And a native document is dropped by the changes, while the scan
lists it.

`Scanned` is the scan without its frontier: the entries of any page of the root, or of a folder
whose entry it has accepted before.  `Leads` is the way up that the climb takes.
-/

namespace MyVault
namespace Drive

open Check VaultPath

section Located

variable (catalog : Catalog) (rootId : String)

/-- The file is below the root, and these are the names on the way, its own last. -/
inductive Located : List Text → RemoteFile → Prop
  | child {file : RemoteFile} (hfile : file ∈ catalog.files) (hlive : file.trashed = false)
      (hparent : file.parents = [rootId]) : Located [file.name.toList] file
  | step {names : List Text} {folder file : RemoteFile} (hfolder : Located names folder)
      (hkind : folder.isFolder = true) (hfile : file ∈ catalog.files)
      (hlive : file.trashed = false) (hparent : file.parents = [folder.id]) :
      Located (names ++ [file.name.toList]) file

/-- The entries the scan accepts, when it reads the folders it has accepted before. -/
inductive Scanned (u : Unicode) : RemoteFile → Store.RemoteEntry → Prop
  | child {pageToken : Option String} {entries : List Store.RemoteEntry} {file : RemoteFile}
      {entry : Store.RemoteEntry}
      (hpage : scanFolderPage u catalog ⟨rootId, [], pageToken⟩ = .ok entries)
      (hfile : file ∈ (catalog.page rootId pageToken).files) (hentry : entry ∈ entries)
      (hid : entry.fileId = file.id) : Scanned u file entry
  | step {folder : RemoteFile} {folderEntry : Store.RemoteEntry} {pageToken : Option String}
      {entries : List Store.RemoteEntry} {file : RemoteFile} {entry : Store.RemoteEntry}
      (hfolder : Scanned u folder folderEntry) (hkind : folderEntry.kind = .folder)
      (hpage : scanFolderPage u catalog
        ⟨folderEntry.fileId, folderEntry.path.toList, pageToken⟩ = .ok entries)
      (hfile : file ∈ (catalog.page folderEntry.fileId pageToken).files)
      (hentry : entry ∈ entries) (hid : entry.fileId = file.id) : Scanned u file entry

end Located

/-- One file is the parent of the other. -/
def Catalog.IsParent (catalog : Catalog) (folder file : RemoteFile) : Prop :=
  folder ∈ catalog.files ∧ file ∈ catalog.files ∧ file.parents = [folder.id]

/-- No file is above itself. -/
def Catalog.IsForest (catalog : Catalog) : Prop :=
  ∀ file, ¬ Relation.TransGen catalog.IsParent file file

variable {u : Unicode} {catalog : Catalog} {rootId : String} {names : List Text}
  {file folder : RemoteFile} {entry : Store.RemoteEntry}

namespace Located

theorem mem (h : Located catalog rootId names file) : file ∈ catalog.files := by
  cases h with
  | child hfile => exact hfile
  | step _ _ hfile => exact hfile

theorem live (h : Located catalog rootId names file) : file.trashed = false := by
  cases h with
  | child _ hlive => exact hlive
  | step _ _ _ hlive => exact hlive

theorem ne_nil (h : Located catalog rootId names file) : names ≠ [] := by
  cases h with
  | child => exact List.cons_ne_nil _ _
  | step => simp

theorem transGen (h : Located catalog rootId names file) {root : RemoteFile}
    (hroot : root ∈ catalog.files) (hid : root.id = rootId) :
    Relation.TransGen catalog.IsParent root file := by
  induction h with
  | child hfile _ hparent => exact .single ⟨hroot, hfile, by rw [hparent, hid]⟩
  | step hfolder _ hfile _ hparent ih => exact .tail ih ⟨hfolder.mem, hfile, hparent⟩

/-- In a forest the root is not below itself. -/
theorem id_ne (h : Located catalog rootId names file) (hforest : catalog.IsForest) :
    file.id ≠ rootId := fun hid => hforest file (h.transGen h.mem hid)

end Located

/-! ## The scan -/

theorem toRemoteEntry_eq_ok {path : Text} (h : file.toRemoteEntry u path = .ok entry) :
    entry.fileId = file.id ∧ entry.path.toList = path ∧
      (entry.kind = .folder ↔ file.isFolder = true) ∧ (∃ parentId, file.parents = [parentId]) := by
  rw [RemoteFile.toRemoteEntry] at h
  split at h
  · exact nomatch h
  · split at h
    · rename_i parent hparents
      split at h
      · split at h
        · obtain ⟨hash, -, h⟩ := bind_eq_ok.mp h
          obtain ⟨⟨⟩, -, h⟩ := bind_eq_ok.mp h
          cases h
          refine ⟨rfl, String.toList_ofList, ?_, parent, hparents⟩
          cases file.isFolder <;> simp
        · exact nomatch h
      · exact nomatch h
    · exact nomatch h

theorem childPath_nil (name : Text) : childPath [] name = joinSlash [name] := by
  rw [childPath, if_pos rfl, joinSlash, List.intercalate_singleton]

theorem validateFile_name (h : validateFile file = .ok ()) : file.name.toList ≠ [] := by
  rw [validateFile, seq_eq_ok, seq_eq_ok, reject_eq_ok] at h
  intro hname
  exact h.2.1 (Or.inl (String.toList_eq_nil_iff.mp hname))

theorem validateFile_parents (h : validateFile file = .ok ()) : file.parents.length ≤ 1 := by
  rw [validateFile, seq_eq_ok, seq_eq_ok, seq_eq_ok, seq_eq_ok] at h
  exact Nat.le_of_not_lt (reject_eq_ok.mp h.2.2.2.1)

namespace Located

theorem joinSlash_ne_nil (h : Located catalog rootId names file) : joinSlash names ≠ [] := by
  cases h with
  | child hfile =>
      rw [joinSlash, List.intercalate_singleton]
      exact validateFile_name (catalog.valid _ hfile)
  | step hfolder => simp [joinSlash_concat hfolder.ne_nil]

/-- The path of a child, as the scan forms it. -/
theorem childPath_eq (h : Located catalog rootId names folder) (name : Text) :
    childPath (joinSlash names) name = joinSlash (names ++ [name]) := by
  rw [childPath, if_neg h.joinSlash_ne_nil, joinSlash_concat h.ne_nil]

end Located

/-- A file on a page of a folder is a live child of this folder. -/
theorem Catalog.parents_of_page {parentId : String} {pageToken : Option String}
    (h : file ∈ (catalog.page parentId pageToken).files) :
    file ∈ catalog.files ∧ file.trashed = false ∧ file.parents = [parentId] := by
  obtain ⟨hmem, hlive, hparent⟩ := catalog.page_sound parentId pageToken file h
  refine ⟨hmem, hlive, ?_⟩
  obtain ⟨first, hparents⟩ := List.length_eq_one_iff.mp (Nat.le_antisymm
    (validateFile_parents (catalog.valid file hmem)) (List.length_pos_of_mem hparent))
  rw [hparents, List.mem_singleton] at hparent
  rw [hparents, hparent]

/-- What the scan of a page accepts for one of its files. -/
theorem toRemoteEntry_of_scanFolderPage {request : ScanRequest}
    {entries : List Store.RemoteEntry} (h : scanFolderPage u catalog request = .ok entries)
    (hfile : file ∈ (catalog.page request.folderId request.pageToken).files)
    (hentry : entry ∈ entries) (hid : entry.fileId = file.id) :
    file.toRemoteEntry u (childPath request.folderPath file.name.toList) = .ok entry := by
  obtain ⟨page, hpage, h⟩ := bind_eq_ok.mp h
  have hpage' : page = catalog.page request.folderId request.pageToken := by
    rw [listChildrenPage] at hpage
    obtain ⟨⟨⟩, -, hpage⟩ := bind_eq_ok.mp hpage
    obtain ⟨⟨⟩, -, hpage⟩ := bind_eq_ok.mp hpage
    obtain ⟨⟨⟩, -, hpage⟩ := bind_eq_ok.mp hpage
    obtain ⟨⟨⟩, -, hpage⟩ := bind_eq_ok.mp hpage
    obtain ⟨⟨⟩, -, hpage⟩ := bind_eq_ok.mp hpage
    exact (Except.ok.inj hpage).symm
  subst hpage'
  -- the entry is the one of some file of the page, and that file has the same id
  obtain ⟨other, hother, hmade⟩ := exists_of_mem_right (mapEach_eq_ok.mp h) hentry
  have hsame : other = file := catalog.files.eq_of_key_eq (Catalog.parents_of_page hother).1
    (Catalog.parents_of_page hfile).1 ((toRemoteEntry_eq_ok hmade).1.symm.trans hid)
  rw [← hsame]
  exact hmade

/-- The entry of a scanned file is made from the names that lead to it. -/
theorem located_of_scanned (h : Scanned catalog rootId u file entry) :
    ∃ names, Located catalog rootId names file ∧
      file.toRemoteEntry u (joinSlash names) = .ok entry := by
  induction h with
  | @child pageToken entries file entry hpage hfile hentry hid =>
      obtain ⟨hmem, hlive, hparent⟩ := Catalog.parents_of_page hfile
      refine ⟨[file.name.toList], .child hmem hlive hparent, ?_⟩
      have hmade := toRemoteEntry_of_scanFolderPage hpage hfile hentry hid
      dsimp only at hmade
      rwa [childPath_nil] at hmade
  | @step folder folderEntry pageToken entries file entry _ hkind hpage hfile hentry hid ih =>
      obtain ⟨names, hlocated, hfolder⟩ := ih
      obtain ⟨hfolderId, hpath, hfolderKind, -⟩ := toRemoteEntry_eq_ok hfolder
      obtain ⟨hmem, hlive, hparent⟩ := Catalog.parents_of_page hfile
      refine ⟨names ++ [file.name.toList], .step hlocated (hfolderKind.mp hkind) hmem hlive
        (by rw [hparent, hfolderId]), ?_⟩
      have hmade := toRemoteEntry_of_scanFolderPage hpage hfile hentry hid
      dsimp only at hmade
      rwa [hpath, hlocated.childPath_eq] at hmade

theorem validateIdentifier_of_scanned (h : Scanned catalog rootId u file entry) :
    validateIdentifier rootId = .ok () := by
  induction h with
  | child hpage =>
      obtain ⟨page, hpage, -⟩ := bind_eq_ok.mp hpage
      exact (seq_eq_ok.mp hpage).1
  | step _ _ _ _ _ _ ih => exact ih

/-! ## The climb -/

theorem fileMetadata_of_mem (h : file ∈ catalog.files) :
    fileMetadata catalog file.id = .ok file := by
  have hvalid := catalog.valid file h
  have hid := (seq_eq_ok.mp hvalid).1
  have hlookup := Table.lookup_eq_some_iff.mpr ⟨h, rfl⟩
  rw [fileMetadata, seq_eq_ok]
  refine ⟨hid, ?_⟩
  rw [hlookup]
  dsimp only
  rw [seq_eq_ok, reject_eq_ok, seq_eq_ok]
  exact ⟨not_not_intro rfl, hvalid, rfl⟩

theorem mem_of_fileMetadata {fileId : String} (h : fileMetadata catalog fileId = .ok file) :
    file ∈ catalog.files ∧ file.id = fileId := by
  rw [fileMetadata, seq_eq_ok] at h
  replace h := h.2
  split at h
  · rename_i found hlookup
    rw [seq_eq_ok, seq_eq_ok] at h
    cases h.2.2
    exact Table.lookup_eq_some_iff.mp hlookup
  · exact nomatch h

/-- The names lead from the root to the folder; the root has none. -/
def Leads (catalog : Catalog) (rootId : String) (above : List Text) (parentId : String) : Prop :=
  (above = [] ∧ parentId = rootId) ∨
    ∃ parent, Located catalog rootId above parent ∧ parent.isFolder = true ∧ parent.id = parentId

theorem Leads.located {parentId : String} (h : Leads catalog rootId names parentId)
    (hfile : file ∈ catalog.files) (hlive : file.trashed = false)
    (hparent : file.parents = [parentId]) :
    Located catalog rootId (names ++ [file.name.toList]) file := by
  rcases h with ⟨rfl, rfl⟩ | ⟨parent, hlocated, hkind, rfl⟩
  · exact .child hfile hlive hparent
  · exact .step hlocated hkind hfile hlive hparent

/-- The other way round: a located file is the child of what its names lead to. -/
theorem Located.leads (h : Located catalog rootId names file) :
    ∃ above parentId, names = above ++ [file.name.toList] ∧ file.parents = [parentId] ∧
      Leads catalog rootId above parentId := by
  cases h with
  | child _ _ hparent => exact ⟨[], rootId, rfl, hparent, Or.inl ⟨rfl, rfl⟩⟩
  | step hfolder hkind _ _ hparent =>
      exact ⟨_, _, rfl, hparent, Or.inr ⟨_, hfolder, hkind, rfl⟩⟩

section Climb

variable {hops : ℕ} {above below : List Text} {parentId : String} {visited : List String}

theorem climb_succ {parent : RemoteFile} {next : String} (hmem : parent ∈ catalog.files)
    (hlive : parent.trashed = false) (hkind : parent.isFolder = true)
    (hparent : parent.parents = [next]) (hroot : parent.id ≠ rootId)
    (hnew : parent.id ∉ visited) :
    climb u catalog rootId file (hops + 1) below parent.id visited =
      climb u catalog rootId file hops (parent.name.toList :: below) next
        (parent.id :: visited) := by
  rw [climb, if_neg hroot, if_neg hnew, fileMetadata_of_mem hmem]
  dsimp only
  rw [if_neg (by simp [hlive, hkind]), hparent]

/-- On a forest the climb from a located folder reaches the root, unless there are more
names than hops.  What it has visited is below the folder, so that it meets none of it
again. -/
theorem climb_of_located (hforest : catalog.IsForest) {parent : RemoteFile}
    (hlocated : Located catalog rootId above parent) (hkind : parent.isFolder = true)
    (hbelow : ∀ id ∈ visited, ∃ seen, seen.id = id ∧
      Relation.TransGen catalog.IsParent parent seen) :
    climb u catalog rootId file hops below parent.id visited =
      if above.length < hops then
        (file.toRemoteEntry u (joinSlash (above ++ below))).map .inside
      else .error .cursorAmbiguous := by
  have hnew {parent : RemoteFile} {visited : List String} (hmem : parent ∈ catalog.files)
      (hbelow : ∀ id ∈ visited, ∃ seen, seen.id = id ∧
        Relation.TransGen catalog.IsParent parent seen) : parent.id ∉ visited := by
    intro hvisited
    obtain ⟨seen, hid, habove⟩ := hbelow parent.id hvisited
    have hseen : seen ∈ catalog.files := by
      obtain ⟨_, _, hlast⟩ := Relation.TransGen.tail'_iff.mp habove
      exact hlast.2.1
    rw [catalog.files.eq_of_key_eq hseen hmem hid] at habove
    exact hforest parent habove
  induction hlocated generalizing hops below visited with
  | @child parent hmem hlive hparent =>
      cases hops with
      | zero => rw [climb, if_neg (Nat.not_lt_zero _)]
      | succ hops =>
          rw [climb_succ hmem hlive hkind hparent
            ((Located.child hmem hlive hparent).id_ne hforest) (hnew hmem hbelow)]
          cases hops with
          | zero => rfl
          | succ hops => rw [climb, if_pos rfl, if_pos (by simp), List.singleton_append]
  | @step above folder parent hfolder hfolderKind hmem hlive hparent ih =>
      cases hops with
      | zero => rw [climb, if_neg (Nat.not_lt_zero _)]
      | succ hops =>
          rw [climb_succ hmem hlive hkind hparent
            ((Located.step hfolder hfolderKind hmem hlive hparent).id_ne hforest)
            (hnew hmem hbelow)]
          have hedge : catalog.IsParent folder parent := ⟨hfolder.mem, hmem, hparent⟩
          rw [ih hfolderKind]
          · simp only [List.length_append, List.length_singleton, Nat.add_lt_add_iff_right,
              List.append_assoc, List.singleton_append]
          · intro id hid
            rcases List.mem_cons.mp hid with rfl | hid
            · exact ⟨parent, rfl, .single hedge⟩
            · obtain ⟨seen, hseen, habove⟩ := hbelow id hid
              exact ⟨seen, hseen, .head hedge habove⟩

theorem climb_of_leads (hforest : catalog.IsForest) (hleads : Leads catalog rootId above parentId)
    (hfile : file ∈ catalog.files) (hparent : file.parents = [parentId]) (hhops : 0 < hops) :
    climb u catalog rootId file hops below parentId [file.id] =
      if above.length < hops then
        (file.toRemoteEntry u (joinSlash (above ++ below))).map .inside
      else .error .cursorAmbiguous := by
  rcases hleads with ⟨rfl, rfl⟩ | ⟨parent, hlocated, hkind, rfl⟩
  · obtain ⟨hops, rfl⟩ := Nat.exists_eq_add_of_lt hhops
    rw [Nat.zero_add, climb, if_pos rfl, if_pos (by simp), List.nil_append]
  · refine climb_of_located hforest hlocated hkind fun id hid => ?_
    rw [List.mem_singleton] at hid
    exact ⟨file, hid.symm, .single ⟨hlocated.mem, hfile, hparent⟩⟩

/-- On any parent graph: what the climb puts inside is below the root. -/
theorem leads_of_climb
    (h : climb u catalog rootId file hops below parentId visited = .ok (.inside entry)) :
    ∃ above, Leads catalog rootId above parentId ∧ above.length < hops ∧
      file.toRemoteEntry u (joinSlash (above ++ below)) = .ok entry := by
  induction hops generalizing below parentId visited with
  | zero => exact nomatch h
  | succ hops ih =>
      rw [climb] at h
      split at h
      · rename_i hroot
        refine ⟨[], Or.inl ⟨rfl, hroot⟩, by simp, ?_⟩
        cases hmade : file.toRemoteEntry u (joinSlash below) with
        | error e =>
            rw [hmade] at h
            exact nomatch h
        | ok made =>
            rw [hmade] at h
            cases h
            exact hmade
      · split at h
        · exact nomatch h
        · split at h
          · exact nomatch h
          · exact nomatch h
          · rename_i parent hfetch
            obtain ⟨hmem, hid⟩ := mem_of_fileMetadata hfetch
            split at h
            · exact nomatch h
            · rename_i hplain
              rw [not_or, Bool.not_eq_true, Bool.not_eq_false] at hplain
              split at h
              · rename_i next hnext
                obtain ⟨above, hleads, hlength, hmade⟩ := ih h
                refine ⟨above ++ [parent.name.toList], Or.inr ⟨parent,
                  hleads.located hmem hplain.1 hnext, hplain.2, hid⟩, ?_, ?_⟩
                · rw [List.length_append, List.length_singleton]
                  exact Nat.succ_lt_succ hlength
                · rwa [List.append_assoc, List.singleton_append]
              · exact nomatch h
              · exact nomatch h

end Climb

/-! ## Agreement -/

/-- A change that reports the file as it is now. -/
def upsert (file : RemoteFile) : Change :=
  { fileId := file.id, removed := false, file := some file }

theorem resolve_upsert {parentId : String} (hroot : validateIdentifier rootId = .ok ())
    (hfile : file ∈ catalog.files) (hlive : file.trashed = false)
    (hne : file.id ≠ rootId) (hnative : file.isNativeDocument = false)
    (hparent : file.parents = [parentId]) :
    resolveChangeBelowRoot u catalog rootId (upsert file) =
      climb u catalog rootId file maxChangeAncestryDepth [file.name.toList] parentId
        [file.id] := by
  have hvalid := catalog.valid file hfile
  have hid := (seq_eq_ok.mp hvalid).1
  simp only [resolveChangeBelowRoot, upsert, hroot, hid, hvalid, orElse, hlive, hparent,
    hnative, hne, Check.reject, Option.any_some, Option.filter_some, decide_true,
    Except.mapError, bind, Except.bind, if_true, if_false, Bool.false_eq_true, or_self]

theorem located_of_inside
    (h : resolveChangeBelowRoot u catalog rootId (upsert file) = .ok (.inside entry))
    (hfile : file ∈ catalog.files) :
    ∃ names, Located catalog rootId names file ∧ names.length ≤ maxChangeAncestryDepth ∧
      file.toRemoteEntry u (joinSlash names) = .ok entry := by
  rw [resolveChangeBelowRoot] at h
  obtain ⟨⟨⟩, -, h⟩ := bind_eq_ok.mp h
  obtain ⟨⟨⟩, -, h⟩ := bind_eq_ok.mp h
  split at h
  · exact nomatch h
  · rename_i hlive
    simp only [upsert, Bool.false_eq_true, Option.any_some, false_or, Bool.not_eq_true] at hlive
    simp only [upsert, Option.filter_some, decide_true, if_true] at h
    obtain ⟨⟨⟩, -, h⟩ := bind_eq_ok.mp h
    split at h
    · exact nomatch h
    · obtain ⟨⟨⟩, -, h⟩ := bind_eq_ok.mp h
      split at h
      · rename_i hparent
        obtain ⟨above, hleads, hlength, hmade⟩ := leads_of_climb h
        refine ⟨above ++ [file.name.toList], hleads.located hfile hlive hparent, ?_, hmade⟩
        rw [List.length_append, List.length_singleton]
        exact hlength
      · exact nomatch h

/-- A path is cut into the names again, if none of them contains a slash. -/
theorem splitSlash_path {path : Text} (hne : names ≠ []) (hplain : ∀ name ∈ names, '/' ∉ name)
    (hpath : path = joinSlash names) : splitSlash path = names := by
  rw [hpath]
  exact List.splitOn_intercalate '/' hplain hne

/-- On a forest, what a change of a located file is resolved to. -/
theorem resolve_of_located (hforest : catalog.IsForest)
    (hroot : validateIdentifier rootId = .ok ()) (hlocated : Located catalog rootId names file)
    (hnative : file.isNativeDocument = false) :
    resolveChangeBelowRoot u catalog rootId (upsert file) =
      if names.length ≤ maxChangeAncestryDepth then
        (file.toRemoteEntry u (joinSlash names)).map .inside
      else .error .cursorAmbiguous := by
  obtain ⟨above, parentId, rfl, hparent, hleads⟩ := hlocated.leads
  rw [resolve_upsert hroot hlocated.mem hlocated.live (hlocated.id_ne hforest) hnative hparent,
    climb_of_leads hforest hleads hlocated.mem hparent (by decide), List.length_append,
    List.length_singleton]
  rfl

/-- The scan and the changes agree on where a file is.  On a forest, a file the scan has
accepted is resolved to the same entry, unless more names lead to it than the climb takes;
and whatever the parents are, cycles included, a file that is not below the root is never
put inside. -/
theorem scan_and_changes_agree (u : Unicode) (catalog : Catalog) (rootId : String) :
    (∀ file entry, Scanned catalog rootId u file entry →
      ∃ names, Located catalog rootId names file ∧
        (catalog.IsForest → file.isNativeDocument = false →
          resolveChangeBelowRoot u catalog rootId (upsert file) =
            (if names.length ≤ maxChangeAncestryDepth then .ok (.inside entry)
             else .error .cursorAmbiguous)) ∧
        ((∀ name ∈ names, '/' ∉ name) →
          (splitSlash entry.path.toList).length = names.length)) ∧
    (∀ file ∈ catalog.files, (∀ names, ¬ Located catalog rootId names file) →
      ∀ entry, resolveChangeBelowRoot u catalog rootId (upsert file) ≠ .ok (.inside entry)) := by
  constructor
  · intro file entry hscanned
    obtain ⟨names, hlocated, hmade⟩ := located_of_scanned hscanned
    refine ⟨names, hlocated, fun hforest hnative => ?_, fun hplain => ?_⟩
    · rw [resolve_of_located hforest (validateIdentifier_of_scanned hscanned) hlocated hnative,
        hmade]
      rfl
    · rw [splitSlash_path hlocated.ne_nil hplain (toRemoteEntry_eq_ok hmade).2.1]
  · intro file hfile houtside entry hinside
    obtain ⟨names, hlocated, -⟩ := located_of_inside hinside hfile
    exact houtside names hlocated

/-- A catalog is a forest, when every parent ranks below its children. -/
theorem Catalog.isForest_of_rank (rank : String → ℕ)
    (h : ∀ file ∈ catalog.files, ∀ parentId ∈ file.parents, rank parentId < rank file.id) :
    catalog.IsForest := by
  intro file hcycle
  have hlt : ∀ below, Relation.TransGen catalog.IsParent file below →
      rank file.id < rank below.id := by
    have hedge {folder file : RemoteFile} (hparent : catalog.IsParent folder file) :
        rank folder.id < rank file.id :=
      h file hparent.2.1 folder.id (by rw [hparent.2.2]; exact List.mem_singleton_self _)
    intro below habove
    induction habove with
    | single hparent => exact hedge hparent
    | tail _ hparent ih => exact ih.trans (hedge hparent)
  exact Nat.lt_irrefl _ (hlt file hcycle)

/-! ## Samples -/

/-- Ids of two characters, one for each number below 128. -/
def idAt (n : ℕ) : String := String.ofList [Char.ofNat (48 + n / 16), Char.ofNat (97 + n % 16)]

/-- The number of an id. -/
def depthOf (id : String) : ℕ :=
  match id.toList with
  | [high, low] => (high.toNat - 48) * 16 + (low.toNat - 97)
  | _ => 0

/-- A folder in the folder before. -/
def sampleFolder (name : String) (depth : ℕ) : RemoteFile :=
  { id := idAt (depth + 1), name := name, mimeType := folderMimeType
    parents := [idAt depth], trashed := false, version := some "1"
    md5Checksum := none, sha1Checksum := none, sha256Checksum := none }

/-- The entry of the folder. -/
def sampleEntry (path : Text) (depth : ℕ) : Store.RemoteEntry :=
  { fileId := idAt (depth + 1), parentId := idAt depth, path := String.ofList path
    kind := .folder, contentHash := none, remoteRevision := paddedHex64 1 }

/-- So many folders of one name, each in the one before. -/
def nestedPath (depth : ℕ) : Text := joinSlash (List.replicate depth ['f'])

theorem splitSlash_nestedPath (depth : ℕ) :
    splitSlash (nestedPath (depth + 1)) = List.replicate (depth + 1) ['f'] := by
  refine List.splitOn_intercalate '/' (fun name hname => ?_) (by simp)
  rw [List.eq_of_mem_replicate hname]
  decide

/-- Such a path is one of content; what needs its length is evaluated. -/
theorem isContentPath_nestedPath {depth : ℕ} (h : depth < 65) :
    Store.isContentPath Unicode.ascii (String.ofList (nestedPath (depth + 1))) = true := by
  have hfits : ∀ depth < 65, PathFits (List.replicate (depth + 1) ['f']) := by decide +kernel
  have hplain : ∀ depth < 65, ¬ (nestedPath (depth + 1) = [] ∨
      (nestedPath (depth + 1)).head? = some '/' ∨ ['.', '/'] <+: nestedPath (depth + 1) ∨
      '\\' ∈ nestedPath (depth + 1)) := by decide +kernel
  have hname {p : Text → Prop} (hp : p ['f']) :
      ∀ name ∈ List.replicate (depth + 1) ['f'], p name := fun name hmem => by
    rwa [List.eq_of_mem_replicate hmem]
  have hnamed := hname (p := fun name => name ≠ [] ∧ name ≠ ['.'] ∧ '/' ∉ name) (by decide)
  have hportable := hname (p := PortableComponent Unicode.ascii) (by decide +kernel)
  have hkept : keptComponents (nestedPath (depth + 1)) = List.replicate (depth + 1) ['f'] :=
    keptComponents_joinSlash (by simp) hnamed
  have hparse : fromPortable Unicode.ascii (nestedPath (depth + 1)) =
      some ⟨List.replicate (depth + 1) ['f'], hportable, hnamed, hfits depth h⟩ := by
    rw [fromPortable, if_neg (hplain depth h)]
    simp only [hkept]
    rw [dif_pos hportable, dif_pos (hfits depth h)]
  have htext : (String.ofList (nestedPath (depth + 1))).toList = nestedPath (depth + 1) :=
    String.toList_ofList
  have hkey : componentCollisionKey Unicode.ascii ['f'] = ['f'] := by decide +kernel
  rw [Store.isContentPath, htext, hparse, Option.any_some, Store.collisionKey,
    List.map_replicate, hkey, ← nestedPath, splitSlash_nestedPath, asStr, ← nestedPath]
  simp only [Store.isObsidianMetadata, List.replicate_succ, List.head?_cons, Option.any_some, hkey]
  simp

theorem isFolder_sampleFolder (name : String) (depth : ℕ) :
    (sampleFolder name depth).isFolder = true := beq_self_eq_true _

theorem toRemoteEntry_sampleFolder {name : String} {path : Text} {depth : ℕ}
    (hpath : Store.isContentPath Unicode.ascii (String.ofList path) = true) (h : depth < 65) :
    (sampleFolder name depth).toRemoteEntry Unicode.ascii path = .ok (sampleEntry path depth) := by
  have hid : ∀ depth < 66, Store.validateRemoteId (idAt depth) = .ok () := by decide +kernel
  have hversion : parseU64 "1" = some 1 := by decide +kernel
  have htoken : Store.validateRemoteToken (paddedHex64 1) = .ok () := by decide +kernel
  have hfolder := isFolder_sampleFolder name depth
  have hvalid : (sampleEntry path depth).validate Unicode.ascii = .ok () := by
    simp only [Store.RemoteEntry.validate, seq_eq_ok]
    exact ⟨hid (depth + 1) (by omega), hid depth (by omega),
      Store.validateContentPath_eq_ok.mpr hpath, htoken, rfl, rfl⟩
  have hnonempty : (some "1").filter (· ≠ "") = some "1" := by decide
  have hhash : (sampleFolder name depth).contentHash = .ok none := by
    rw [RemoteFile.contentHash, if_pos hfolder]
    rfl
  rw [RemoteFile.toRemoteEntry, if_neg (by simp [sampleFolder]), hhash]
  simp only [sampleFolder, hnonempty, hversion]
  rw [bind_eq_ok]
  refine ⟨none, rfl, ?_⟩
  simp only [sampleFolder] at hfolder
  simp only [sampleEntry] at hvalid
  simp only [hfolder, if_true, hvalid]
  rfl

theorem validateIdentifier_idAt : ∀ depth < 66, validateIdentifier (idAt depth) = .ok () := by
  decide +kernel

theorem validateFile_sampleFolder {name : String} {depth : ℕ} (h : depth < 65)
    (hname : ¬ (name = "" ∨ 1024 < strLen name ∨ name.toList.any isControl = true)) :
    validateFile (sampleFolder name depth) = .ok () := by
  have hmime : ¬ (folderMimeType = "" ∨ 255 < strLen folderMimeType) := by decide +kernel
  have hparent : orElse (validateIdentifier (idAt depth)) ErrorCode.malformedResponse = .ok () := by
    rw [validateIdentifier_idAt depth (by omega)]
    rfl
  simp only [validateFile, seq_eq_ok, reject_eq_ok]
  refine ⟨validateIdentifier_idAt (depth + 1) (by omega), hname, hmime, by simp [sampleFolder],
    each_eq_ok.mpr fun parent hmem => ?_, ?_⟩
  · rw [sampleFolder, List.mem_singleton] at hmem
    rwa [hmem]
  · have hversion : ¬ ("1" = "" ∨ 128 < strLen "1") := by decide +kernel
    simpa [sampleFolder] using hversion

/-- Folders, one in the other. -/
def nested : Catalog :=
  Catalog.ofFiles ⟨(List.range 65).map (sampleFolder "f"), by decide +kernel⟩ fun file hfile => by
    obtain ⟨depth, hdepth, rfl⟩ := List.mem_map.mp hfile
    exact validateFile_sampleFolder (List.mem_range.mp hdepth) (by decide +kernel)

/-- A folder whose name contains a slash. -/
def slashed : Catalog :=
  Catalog.ofFiles ⟨[sampleFolder "f/g" 0], by decide +kernel⟩ fun file hfile => by
    rw [List.mem_singleton.mp hfile]
    exact validateFile_sampleFolder (by decide) (by decide +kernel)

theorem scanFolderPage_sample {catalog : Catalog} {name : String} {folderPath : Text} {depth : ℕ}
    (h : depth < 65)
    (hname : ¬ (name = "" ∨ 1024 < strLen name ∨ name.toList.any isControl = true))
    (hpage : catalog.page (idAt depth) none = ⟨[sampleFolder name depth], none, false⟩)
    (hpath : Store.isContentPath Unicode.ascii
      (String.ofList (childPath folderPath name.toList)) = true) :
    scanFolderPage Unicode.ascii catalog ⟨idAt depth, folderPath, none⟩ =
      .ok [sampleEntry (childPath folderPath name.toList) depth] := by
  have hroot : ∀ depth < 65, idAt depth ≠ "root" := by decide +kernel
  have hcheck : checkChild (idAt depth) (sampleFolder name depth) = .ok () := by
    rw [checkChild, validateFile_sampleFolder h hname, if_neg (hroot depth h)]
    simp [sampleFolder]
    rfl
  have hlist : listChildrenPage catalog (idAt depth) none =
      .ok ⟨[sampleFolder name depth], none, false⟩ := by
    rw [listChildrenPage, validateIdentifier_idAt depth (by omega), hpage]
    simp [each, hcheck]
    rfl
  rw [scanFolderPage, hlist, bind_eq_ok]
  refine ⟨_, rfl, ?_⟩
  dsimp only
  rw [mapEach_eq_ok, List.forall₂_cons]
  exact ⟨toRemoteEntry_sampleFolder hpath h, .nil⟩

theorem page_nested : ∀ depth < 65,
    nested.page (idAt depth) none = ⟨[sampleFolder "f" depth], none, false⟩ := by decide +kernel

theorem childPath_nestedPath (depth : ℕ) :
    childPath (nestedPath depth) "f".toList = nestedPath (depth + 1) := by
  cases depth with
  | zero => rfl
  | succ depth =>
      have hne : nestedPath (depth + 1) ≠ [] := by
        intro hnil
        have hsplit := splitSlash_nestedPath depth
        rw [hnil] at hsplit
        simp [splitSlash, List.replicate_succ] at hsplit
      have hconcat : nestedPath (depth + 2) = nestedPath (depth + 1) ++ '/' :: ['f'] := by
        rw [nestedPath, List.replicate_succ', joinSlash_concat (by simp), ← nestedPath]
      rw [childPath, if_neg hne, hconcat]
      rfl

theorem scanned_nested {depth : ℕ} (h : depth < 65) :
    Scanned nested (idAt 0) Unicode.ascii (sampleFolder "f" depth)
      (sampleEntry (nestedPath (depth + 1)) depth) := by
  have hname : ¬ ("f" = "" ∨ 1024 < strLen "f" ∨ "f".toList.any isControl = true) := by
    decide +kernel
  have hscan {depth : ℕ} (h : depth < 65) :
      scanFolderPage Unicode.ascii nested ⟨idAt depth, nestedPath depth, none⟩ =
        .ok [sampleEntry (nestedPath (depth + 1)) depth] := by
    rw [← childPath_nestedPath depth]
    refine scanFolderPage_sample h hname (page_nested depth h) ?_
    rw [childPath_nestedPath]
    exact isContentPath_nestedPath h
  have hfile {depth : ℕ} (h : depth < 65) :
      sampleFolder "f" depth ∈ (nested.page (idAt depth) none).files := by
    rw [page_nested depth h]
    exact List.mem_singleton_self _
  induction depth with
  | zero => exact .child (hscan h) (hfile h) (List.mem_singleton_self _) rfl
  | succ depth ih =>
      have hpath : (sampleEntry (nestedPath (depth + 1)) depth).path.toList =
          nestedPath (depth + 1) := String.toList_ofList
      refine .step (ih (Nat.lt_of_succ_lt h)) rfl ?_ (hfile h) (List.mem_singleton_self _) rfl
      rw [hpath]
      exact hscan h

theorem isForest_of_sampleFolders {catalog : Catalog}
    (h : ∀ file ∈ catalog.files, ∃ name depth, depth < 65 ∧ file = sampleFolder name depth) :
    catalog.IsForest := by
  have hdepth : ∀ depth < 66, depthOf (idAt depth) = depth := by decide +kernel
  refine Catalog.isForest_of_rank depthOf fun file hfile parentId hparent => ?_
  obtain ⟨name, depth, hlt, rfl⟩ := h file hfile
  rw [sampleFolder, List.mem_singleton] at hparent
  rw [hparent, hdepth depth (by omega), sampleFolder, hdepth (depth + 1) (by omega)]
  exact Nat.lt_succ_self depth

theorem isNativeDocument_sampleFolder (name : String) (depth : ℕ) :
    (sampleFolder name depth).isNativeDocument = false := by
  rw [RemoteFile.isNativeDocument, isFolder_sampleFolder, Bool.not_true, Bool.and_false]

theorem sampleFolder_of_mem_nested {file : RemoteFile} (h : file ∈ nested.files) :
    ∃ name depth, depth < 65 ∧ file = sampleFolder name depth := by
  obtain ⟨depth, hdepth, rfl⟩ := List.mem_map.mp h
  exact ⟨"f", depth, List.mem_range.mp hdepth, rfl⟩

theorem sampleFolder_of_mem_slashed {file : RemoteFile} (h : file ∈ slashed.files) :
    ∃ name depth, depth < 65 ∧ file = sampleFolder name depth :=
  ⟨"f/g", 0, by decide, List.mem_singleton.mp h⟩

theorem located_nested {depth : ℕ} (h : depth < 65) :
    Located nested (idAt 0) (List.replicate (depth + 1) ['f']) (sampleFolder "f" depth) := by
  have hmem {depth : ℕ} (h : depth < 65) : sampleFolder "f" depth ∈ nested.files :=
    List.mem_map_of_mem (List.mem_range.mpr h)
  induction depth with
  | zero => exact .child (hmem h) rfl rfl
  | succ depth ih =>
      have hstep := Located.step (ih (Nat.lt_of_succ_lt h)) (isFolder_sampleFolder _ _) (hmem h)
        rfl rfl
      have hname : "f".toList = ['f'] := by decide +kernel
      rw [sampleFolder] at hstep ⊢
      rwa [hname, ← List.replicate_succ'] at hstep

/-- A catalog whose two folders are each other's parent. -/
def cyclic : Catalog :=
  Catalog.ofFiles ⟨[{ sampleFolder "f" 1 with parents := [idAt 3] }, sampleFolder "g" 2],
    by decide +kernel⟩ fun file hfile => by
      have hvalid : ∀ file ∈ [{ sampleFolder "f" 1 with parents := [idAt 3] }, sampleFolder "g" 2],
          validateFile file = .ok () := by decide +kernel
      exact hvalid file hfile

theorem not_located_cyclic {names : List Text} {file : RemoteFile} :
    ¬ Located cyclic (idAt 0) names file := by
  intro hlocated
  induction hlocated with
  | child hfile _ hparent =>
      have hparents : ∀ file ∈ [{ sampleFolder "f" 1 with parents := [idAt 3] },
          sampleFolder "g" 2], file.parents ≠ [idAt 0] := by decide +kernel
      exact hparents _ hfile hparent
  | step _ _ _ _ _ ih => exact ih

theorem scan_and_changes_agree_nested :
    (∃ names, Located nested (idAt 0) names (sampleFolder "f" 3) ∧
      resolveChangeBelowRoot Unicode.ascii nested (idAt 0) (upsert (sampleFolder "f" 3)) =
        (if names.length ≤ maxChangeAncestryDepth then
          .ok (.inside (sampleEntry (nestedPath 4) 3))
         else .error .cursorAmbiguous) ∧
      ((∀ name ∈ names, '/' ∉ name) →
        (splitSlash (sampleEntry (nestedPath 4) 3).path.toList).length = names.length)) ∧
    ∀ entry, resolveChangeBelowRoot Unicode.ascii cyclic (idAt 0) (upsert (sampleFolder "g" 2)) ≠
      .ok (.inside entry) := by
  constructor
  · obtain ⟨names, hlocated, hresolved, hpath⟩ :=
      (scan_and_changes_agree Unicode.ascii nested (idAt 0)).1 _ _
        (scanned_nested (by decide : 3 < 65))
    refine ⟨names, hlocated, hresolved ?_ (isNativeDocument_sampleFolder _ _), hpath⟩
    exact isForest_of_sampleFolders fun _ => sampleFolder_of_mem_nested
  · exact (scan_and_changes_agree Unicode.ascii cyclic (idAt 0)).2 _
      (List.mem_cons_of_mem _ (List.mem_singleton_self _)) fun _ => not_located_cyclic

/-- The scan accepts a folder from which the climb does not reach the root, and one name
may be two components of a path. -/
theorem scan_and_changes_disagree :
    (nested.IsForest ∧ (∀ file ∈ nested.files, file.isNativeDocument = false) ∧
      Scanned nested (idAt 0) Unicode.ascii (sampleFolder "f" 64)
        (sampleEntry (nestedPath 65) 64) ∧
      resolveChangeBelowRoot Unicode.ascii nested (idAt 0) (upsert (sampleFolder "f" 64)) =
        .error .cursorAmbiguous) ∧
    (slashed.IsForest ∧ (∀ file ∈ slashed.files, file.isNativeDocument = false) ∧
      Located slashed (idAt 0) ["f/g".toList] (sampleFolder "f/g" 0) ∧
      Scanned slashed (idAt 0) Unicode.ascii (sampleFolder "f/g" 0)
        (sampleEntry "f/g".toList 0) ∧
      (splitSlash (sampleEntry "f/g".toList 0).path.toList).length = 2) := by
  have hforest : nested.IsForest := isForest_of_sampleFolders fun _ => sampleFolder_of_mem_nested
  refine ⟨⟨hforest, fun file hfile => ?_, scanned_nested (by decide), ?_⟩,
    isForest_of_sampleFolders fun _ => sampleFolder_of_mem_slashed, fun file hfile => ?_,
    @Located.child slashed (idAt 0) (sampleFolder "f/g" 0) (List.mem_singleton_self _) rfl rfl,
    ?_, by decide +kernel⟩
  · obtain ⟨name, depth, -, rfl⟩ := sampleFolder_of_mem_nested hfile
    exact isNativeDocument_sampleFolder name depth
  · rw [resolve_of_located hforest (validateIdentifier_idAt 0 (by decide))
      (located_nested (by decide)) (isNativeDocument_sampleFolder _ _)]
    rfl
  · obtain ⟨name, depth, -, rfl⟩ := sampleFolder_of_mem_slashed hfile
    exact isNativeDocument_sampleFolder name depth
  · have hpage : slashed.page (idAt 0) none = ⟨[sampleFolder "f/g" 0], none, false⟩ := by
      decide +kernel
    refine .child (scanFolderPage_sample (by decide) (by decide +kernel) hpage
      (by decide +kernel)) ?_ (List.mem_singleton_self _) rfl
    rw [hpage]
    exact List.mem_singleton_self _

end Drive
end MyVault
