import MyVault.Saf.Walk
import Mathlib.Data.List.Induction

/-!
# Which listed files can be asked for

A listed path passes the path policies exactly if it has no more than `maxDepth` names,
and is resolved to the listed document exactly if every name on the way is borne by one
child of its folder only.  The walk checks neither: it enters folders whose files are too
deep, and lists every one of several children with the same name.

## Names instead of paths

A listed file is reached by a list of names (`Reached`), each of them the name of a child of the
folder before.  `Leads` is the way of the resolution along these names, with a condition on every
child it meets: for `resolveDocument` it is that no other child of the folder has the name
(`Sole`), as the source gives up where a query returns two.

So a path is resolved to the listed document or not at all; that it is resolved to another
document cannot happen.  And where every name is the only one of its kind, the path is listed
once.  The depth is a matter of the policies: the walk enters a folder at `maxDepth` and lists its
files, whose paths have one name too many.
-/

namespace MyVault
namespace Saf

open Check

variable {provider : Provider} {Fit : List Child → Child → Prop} {names : List Text}
  {child : Child}

/-! ## The path policies -/

namespace Leads

/-- The first checks of both policies pass. -/
theorem path_plain (h : Leads provider Fit names child) :
    ¬ (joinSlash names = [] ∨ (joinSlash names).head? = some '/' ∨ '\\' ∈ joinSlash names ∨
      '\x00' ∈ joinSlash names) := by
  have hchar {c : Char} (hc : c ≠ '/') (hplain : ∀ name, isPlainName name = true → c ∉ name) :
      c ∉ joinSlash names := by
    intro hmem
    rcases mem_joinSlash hmem with rfl | ⟨name, hname, hcname⟩
    · exact hc rfl
    · exact hplain name (h.plain name hname) hcname
  rintro (hnil | hhead | hback | hnul)
  · exact h.joinSlash_ne_nil hnil
  · -- a slash in front is an empty first name
    obtain ⟨rest, hrest⟩ := List.head?_eq_some_iff.mp hhead
    have hsplit := h.splitSlash_joinSlash
    rw [hrest, splitSlash, List.splitOn_cons_eq_if_modifyHead,
      if_pos (beq_self_eq_true _)] at hsplit
    exact (isPlainName_iff.mp (h.plain [] (by rw [← hsplit]; exact List.mem_cons_self))).1 rfl
  · exact hchar (by decide) (fun name hname => (isPlainName_iff.mp hname).2.2.2.2.1) hback
  · exact hchar (by decide) (fun name hname => (isPlainName_iff.mp hname).2.2.2.2.2) hnul

theorem canonicalPortablePath_eq (h : Leads provider Fit names child) :
    canonicalPortablePath (joinSlash names) =
      if names.length ≤ maxDepth then .ok (joinSlash names) else .error .illegalArgument := by
  have hparts : (names.any fun part => part.isEmpty || part == ".".toList || part == "..".toList) =
      false := by
    rw [List.any_eq_false]
    intro name hname
    obtain ⟨hne, hdot, hdots, -⟩ := isPlainName_iff.mp (h.plain name hname)
    rw [Bool.not_eq_true, Bool.or_eq_false_iff, Bool.or_eq_false_iff]
    exact ⟨⟨List.isEmpty_eq_false_iff.mpr hne, beq_eq_false_iff_ne.mpr hdot⟩,
      beq_eq_false_iff_ne.mpr hdots⟩
  rw [canonicalPortablePath, if_neg h.path_plain]
  dsimp only
  rw [h.splitSlash_joinSlash, hparts, h.head_not_protected]
  by_cases hdepth : names.length ≤ maxDepth
  · rw [if_neg (by simp [hdepth]), if_neg (by simp), if_pos hdepth]
  · rw [if_pos (Or.inl (Nat.lt_of_not_le hdepth)), if_neg hdepth]

theorem validParts_eq {depth : ℕ} (hplain : ∀ name ∈ names, isPlainName name = true)
    (hdepth : depth ≤ maxDepth) :
    validParts depth names = decide (depth + names.length ≤ maxDepth) := by
  induction names generalizing depth with
  | nil => simp [validParts, hdepth]
  | cons name rest ih =>
      rw [List.forall_mem_cons] at hplain
      obtain ⟨hne, hdot, hdots, -⟩ := isPlainName_iff.mp hplain.1
      rw [validParts]
      by_cases hnext : depth + 1 ≤ maxDepth
      · rw [if_neg (not_or.mpr ⟨Nat.not_lt.mpr hnext, not_or.mpr ⟨hne, not_or.mpr ⟨hdot, hdots⟩⟩⟩),
          ih hplain.2 hnext, List.length_cons]
        simp only [Nat.add_assoc, Nat.add_comm 1]
      · rw [if_pos (Or.inl (Nat.lt_of_not_le hnext)), List.length_cons, eq_comm,
          decide_eq_false_iff_not]
        omega

theorem isValidPortablePath_eq (h : Leads provider Fit names child) :
    isValidPortablePath (joinSlash names) = decide (names.length ≤ maxDepth) := by
  rw [isValidPortablePath, if_neg h.path_plain, h.splitSlash_joinSlash]
  cases names with
  | nil => exact absurd rfl h.ne_nil
  | cons first rest =>
      have hplain := h.plain
      rw [List.forall_mem_cons] at hplain
      obtain ⟨hne, hdot, hdots, -⟩ := isPlainName_iff.mp hplain.1
      have hhead := h.head_not_protected
      simp only [List.head?_cons, Option.any_some, isProtectedRootName, Bool.or_eq_false_iff,
        beq_eq_false_iff_ne] at hhead
      dsimp only
      rw [if_neg (not_or.mpr hhead), if_neg (not_or.mpr ⟨hne, not_or.mpr ⟨hdot, hdots⟩⟩),
        validParts_eq hplain.2 (by decide), List.length_cons, Nat.add_comm]

end Leads

theorem validParts_true {depth : ℕ} {parts : List Text} (h : validParts depth parts = true)
    (hdepth : depth ≤ maxDepth) : depth + parts.length ≤ maxDepth ∧
      ∀ part ∈ parts, part ≠ [] ∧ part ≠ ".".toList ∧ part ≠ "..".toList := by
  induction parts generalizing depth with
  | nil => exact ⟨hdepth, nofun⟩
  | cons part rest ih =>
      rw [validParts] at h
      split at h
      · exact nomatch h
      · rename_i hpart
        simp only [not_or] at hpart
        obtain ⟨hlen, hrest⟩ := ih h (Nat.le_of_not_lt hpart.1)
        rw [List.length_cons, List.forall_mem_cons]
        exact ⟨by omega, hpart.2, hrest⟩

/-- What the client lets through the plugin lets through. -/
theorem canonicalPortablePath_of_isValid {value : Text} (h : isValidPortablePath value = true) :
    canonicalPortablePath value = .ok value := by
  rw [isValidPortablePath] at h
  split at h
  · exact nomatch h
  · rename_i hplain
    rw [canonicalPortablePath, if_neg hplain]
    have hjoin : joinSlash (splitSlash value) = value := List.intercalate_splitOn '/'
    dsimp only
    rw [hjoin]
    split at h
    · exact nomatch h
    · rename_i first rest hsplit
      split at h
      · exact nomatch h
      · rename_i hprotected
        split at h
        · exact nomatch h
        · rename_i hfirst
          simp only [not_or] at hfirst hprotected
          obtain ⟨hlen, hrest⟩ := validParts_true h (by decide)
          have hparts : ((first :: rest).any fun part =>
              part.isEmpty || part == ".".toList || part == "..".toList) = false := by
            rw [List.any_eq_false]
            intro part hpart
            obtain ⟨hne, hdot, hdots⟩ : part ≠ [] ∧ part ≠ ".".toList ∧ part ≠ "..".toList := by
              rcases List.mem_cons.mp hpart with rfl | hpart
              · exact hfirst
              · exact hrest part hpart
            rw [Bool.not_eq_true, Bool.or_eq_false_iff, Bool.or_eq_false_iff]
            exact ⟨⟨List.isEmpty_eq_false_iff.mpr hne, beq_eq_false_iff_ne.mpr hdot⟩,
              beq_eq_false_iff_ne.mpr hdots⟩
          have hhead : isProtectedRootName first = false := by
            rw [isProtectedRootName, Bool.or_eq_false_iff]
            exact ⟨beq_eq_false_iff_ne.mpr hprotected.1, beq_eq_false_iff_ne.mpr hprotected.2⟩
          rw [hsplit, hparts, List.head?_cons, Option.any_some, hhead, List.length_cons,
            if_neg (by simp; omega), if_neg Bool.false_ne_true]

/-! ## Resolution -/

/-- No other child of the folder has the name. -/
def Sole (children : List Child) (child : Child) : Prop :=
  children.filter (·.name = child.name) = [child]

/-- Two children with one id are the same. -/
theorem child_unique {parentId parentId' : String} {children children' : List Child}
    {child' : Child} (hquery : provider.queryChildren parentId = some children)
    (hquery' : provider.queryChildren parentId' = some children') (hmem : child ∈ children)
    (hmem' : child' ∈ children') (hid : child.documentId = child'.documentId) : child = child' := by
  obtain rfl := provider.parent_unique _ _ _ _ hquery hquery' child hmem child' hmem' hid
  rw [hquery, Option.some.injEq] at hquery'
  subst hquery'
  exact List.inj_on_of_nodup_map (provider.nodup_children _ _ hquery) hmem hmem' hid

theorem resolveFrom_singleton {parentId : String} {selected : Option Child} {name : Text} :
    resolveFrom provider.queryChildren parentId selected [name] = .ok (some child) ↔
      ∃ children, provider.queryChildren parentId = some children ∧
        children.filter (·.name = name) = [child] := by
  rw [resolveFrom]
  constructor
  · intro h
    split at h
    · exact nomatch h
    · rename_i children hquery
      split at h
      · rename_i found hfound
        rw [resolveFrom] at h
        cases h
        exact ⟨children, hquery, hfound⟩
      · exact nomatch h
  · rintro ⟨children, hquery, hfilter⟩
    rw [hquery]
    dsimp only
    rw [hfilter]
    rfl

/-- The last name of a path is looked up in what the names in front are resolved to. -/
theorem resolveFrom_concat {parentId : String} {selected : Option Child} {name : Text}
    (hne : names ≠ []) :
    resolveFrom provider.queryChildren parentId selected (names ++ [name]) =
      match resolveFrom provider.queryChildren parentId selected names with
      | .ok (some folder) =>
          resolveFrom provider.queryChildren folder.documentId (some folder) [name]
      | .ok none => .ok none
      | .error e => .error e := by
  induction names generalizing parentId selected with
  | nil => exact absurd rfl hne
  | cons first rest ih =>
      rw [List.cons_append, resolveFrom, resolveFrom.eq_2 _ _ _ first rest]
      cases provider.queryChildren parentId with
      | none => rfl
      | some children =>
          dsimp only
          cases children.filter (·.name = first) with
          | nil => rfl
          | cons found more =>
              cases more with
              | cons => rfl
              | nil =>
                  by_cases hrest : rest = []
                  · subst hrest
                    rfl
                  · exact ih hrest

theorem resolveFrom_concat_some {parentId : String} {selected : Option Child} {name : Text}
    (hne : names ≠ []) :
    resolveFrom provider.queryChildren parentId selected (names ++ [name]) = .ok (some child) ↔
      ∃ folder, resolveFrom provider.queryChildren parentId selected names = .ok (some folder) ∧
        resolveFrom provider.queryChildren folder.documentId (some folder) [name] =
          .ok (some child) := by
  rw [resolveFrom_concat hne]
  cases resolveFrom provider.queryChildren parentId selected names with
  | error e => simp
  | ok found => cases found <;> simp

/-- What a path is resolved to is a child of some folder. -/
theorem mem_of_resolveFrom {parentId : String} {selected : Option Child} (hne : names ≠ [])
    (h : resolveFrom provider.queryChildren parentId selected names = .ok (some child)) :
    ∃ folderId children, provider.queryChildren folderId = some children ∧ child ∈ children := by
  have hlast {folderId : String} {selected : Option Child} {name : Text}
      (h : resolveFrom provider.queryChildren folderId selected [name] = .ok (some child)) :
      ∃ folderId children, provider.queryChildren folderId = some children ∧ child ∈ children := by
    obtain ⟨children, hquery, hfilter⟩ := resolveFrom_singleton.mp h
    have hmem : child ∈ children.filter (·.name = name) := hfilter ▸ List.mem_singleton_self child
    exact ⟨folderId, children, hquery, List.mem_of_mem_filter hmem⟩
  rcases names.eq_nil_or_concat with rfl | ⟨front, name, rfl⟩
  · exact absurd rfl hne
  · rw [List.concat_eq_append] at h
    by_cases hfront : front = []
    · subst hfront
      exact hlast h
    · obtain ⟨folder, -, h⟩ := (resolveFrom_concat_some hfront).mp h
      exact hlast h

namespace Leads

theorem of_singleton {name : Text} (h : Leads provider Fit [name] child) :
    ∃ children, provider.queryChildren provider.treeDocumentId = some children ∧
      child ∈ children ∧ Fit children child := by
  generalize hnames : [name] = names at h
  cases h with
  | child hquery hmem hfit => exact ⟨_, hquery, hmem, hfit⟩
  | step hfolder =>
      have hnil := (List.append_eq_singleton_iff.mp hnames.symm).resolve_right (by simp)
      exact absurd hnil.1 hfolder.ne_nil

theorem of_concat {name : Text} (h : Leads provider Fit (names ++ [name]) child)
    (hne : names ≠ []) :
    ∃ folder children, Leads provider Fit names folder ∧
      provider.queryChildren folder.documentId = some children ∧ child ∈ children ∧
        Fit children child := by
  generalize hnames : names ++ [name] = all at h
  cases h with
  | child =>
      have hnil := (List.append_eq_singleton_iff.mp hnames).resolve_right (by simp)
      exact absurd hnil.1 hne
  | step hfolder _ hquery hmem hfit =>
      obtain ⟨rfl, -⟩ := List.append_inj' hnames rfl
      exact ⟨_, _, hfolder, hquery, hmem, hfit⟩

theorem exists_mem (h : Leads provider Fit names child) :
    ∃ folderId children, provider.queryChildren folderId = some children ∧ child ∈ children := by
  cases h with
  | child hquery hmem => exact ⟨_, _, hquery, hmem⟩
  | step _ _ hquery hmem => exact ⟨_, _, hquery, hmem⟩

end Leads

/-- The names lead to the child without a choice on the way exactly if they are resolved
to it. -/
theorem resolveFrom_eq_iff (h : Reached provider names child) :
    resolveFrom provider.queryChildren provider.treeDocumentId none names = .ok (some child) ↔
      Leads provider Sole names child := by
  induction h with
  | @child children child hquery hmem _ hplain hroot =>
      rw [resolveFrom_singleton]
      constructor
      · rintro ⟨siblings, hsiblings, hfilter⟩
        rw [hquery, Option.some.injEq] at hsiblings
        subst hsiblings
        exact .child hquery hmem hfilter hplain hroot
      · intro hsole
        obtain ⟨siblings, hsiblings, -, hfit⟩ := hsole.of_singleton
        exact ⟨siblings, hsiblings, hfit⟩
  | @step names folder child children hfolder hdir hquery hmem _ hplain ih =>
      rw [resolveFrom_concat_some hfolder.ne_nil]
      constructor
      · rintro ⟨found, hfound, hchild⟩
        obtain ⟨siblings, hsiblings, hfilter⟩ := resolveFrom_singleton.mp hchild
        have hsibling : child ∈ siblings.filter (·.name = child.name) :=
          hfilter ▸ List.mem_singleton_self child
        have hid := provider.parent_unique _ _ _ _ hsiblings hquery child
          (List.mem_of_mem_filter hsibling) child hmem rfl
        obtain ⟨_, _, hquery₁, hmem₁⟩ := mem_of_resolveFrom hfolder.ne_nil hfound
        obtain ⟨_, _, hquery₂, hmem₂⟩ := hfolder.exists_mem
        obtain rfl := child_unique hquery₁ hquery₂ hmem₁ hmem₂ hid
        exact .step (ih.mp hfound) hdir hsiblings (List.mem_of_mem_filter hsibling) hfilter hplain
      · intro hsole
        obtain ⟨found, siblings, hfound, hsiblings, hmem', hfit⟩ := hsole.of_concat hfolder.ne_nil
        have hid := provider.parent_unique _ _ _ _ hsiblings hquery child hmem' child hmem rfl
        obtain ⟨_, _, hquery₁, hmem₁⟩ := hfound.exists_mem
        obtain ⟨_, _, hquery₂, hmem₂⟩ := hfolder.exists_mem
        obtain rfl := child_unique hquery₁ hquery₂ hmem₁ hmem₂ hid
        exact ⟨found, ih.mpr hfound, resolveFrom_singleton.mpr ⟨siblings, hsiblings, hfit⟩⟩

/-- What the walk has come to is resolved to itself or to nothing. -/
theorem resolveFrom_eq_or (h : Reached provider names child) :
    resolveFrom provider.queryChildren provider.treeDocumentId none names = .ok (some child) ∨
      resolveFrom provider.queryChildren provider.treeDocumentId none names = .ok none := by
  have hlast {folderId : String} {selected : Option Child} {child : Child} {children : List Child}
      (hquery : provider.queryChildren folderId = some children) (hmem : child ∈ children) :
      resolveFrom provider.queryChildren folderId selected [child.name] = .ok (some child) ∨
        resolveFrom provider.queryChildren folderId selected [child.name] = .ok none := by
    rw [resolveFrom, hquery]
    dsimp only
    split
    · rename_i found hfound
      have hfilter : child ∈ children.filter (·.name = child.name) :=
        List.mem_filter.mpr ⟨hmem, decide_eq_true rfl⟩
      rw [hfound, List.mem_singleton] at hfilter
      exact Or.inl (by rw [resolveFrom, hfilter])
    · exact Or.inr rfl
  induction h with
  | child hquery hmem => exact hlast hquery hmem
  | step hfolder _ hquery hmem _ _ ih =>
      rw [resolveFrom_concat hfolder.ne_nil]
      rcases ih with ih | ih <;> rw [ih]
      · exact hlast hquery hmem
      · exact Or.inr rfl

/-! ## The listed entries -/

theorem Leads.resolveDocument_eq (h : Leads provider Fit names child) :
    resolveDocument provider (joinSlash names) =
      resolveFrom provider.queryChildren provider.treeDocumentId none names := by
  rw [resolveDocument, h.splitSlash_joinSlash]

theorem count_path_eq_one {files : List (Text × Child)} {file : Child} {path : Text}
    (hnodup : (files.map fun file => file.2.documentId).Nodup) (hmem : (path, file) ∈ files)
    (honly : ∀ other, (path, other) ∈ files → other = file) :
    (files.map Prod.fst).count path = 1 := by
  rw [← List.count_eq_one_of_mem hnodup.of_map hmem, List.count, List.count, List.countP_map]
  refine List.countP_congr fun entry hentry => ?_
  obtain ⟨entryPath, other⟩ := entry
  rw [Function.comp_apply, beq_iff_eq, beq_iff_eq, Prod.mk.injEq]
  constructor
  · rintro rfl
    exact ⟨rfl, honly other hentry⟩
  · exact And.left

/-- A listed path of at most `maxDepth` names passes both policies.  It is listed once and
resolved to the listed document if each of its names belongs to one child only, and is not
resolved at all otherwise. -/
theorem listed_path_resolves {entries : List InventoryEntry} {scanned : ℕ}
    (h : buildInventory provider = .ok (entries, scanned)) :
    ∃ files : List (Text × Child), entries = files.map inventoryEntry ∧
      (∀ path file, (path, file) ∈ files ↔
        ∃ names, Reached provider names file ∧ file.isDir = false ∧ path = joinSlash names) ∧
      ∀ names file, Reached provider names file → file.isDir = false →
        (names.length ≤ maxDepth →
          canonicalPortablePath (joinSlash names) = .ok (joinSlash names) ∧
            isValidPortablePath (joinSlash names) = true) ∧
        (Leads provider Sole names file →
          (files.map Prod.fst).count (joinSlash names) = 1 ∧
            resolveDocument provider (joinSlash names) = .ok (some file)) ∧
        (¬ Leads provider Sole names file →
          resolveDocument provider (joinSlash names) = .ok none) := by
  obtain ⟨⟨files, _⟩, hfiles, hentries⟩ := bind_eq_ok.mp h
  cases hentries
  obtain ⟨hlisted, hnodup⟩ := listFiles_ok hfiles
  refine ⟨files, rfl, hlisted, fun names file hreached hfile => ⟨fun hdepth => ?_, fun hsole => ?_,
    fun hsole => ?_⟩⟩
  · rw [hreached.canonicalPortablePath_eq, if_pos hdepth, hreached.isValidPortablePath_eq]
    exact ⟨rfl, decide_eq_true hdepth⟩
  · have hresolved := (resolveFrom_eq_iff hreached).mpr hsole
    rw [hreached.resolveDocument_eq]
    refine ⟨count_path_eq_one hnodup ((hlisted _ _).mpr ⟨names, hreached, hfile, rfl⟩) ?_,
      hresolved⟩
    -- another file under the path would be resolved to itself or to nothing
    intro other hother
    obtain ⟨names', hreached', -, hpath⟩ := (hlisted _ _).mp hother
    have hnames : names' = names := by
      rw [← hreached'.splitSlash_joinSlash, ← hpath, hreached.splitSlash_joinSlash]
    subst hnames
    rcases resolveFrom_eq_or hreached' with hother | hother <;> rw [hresolved] at hother
    · exact (Option.some.inj (Except.ok.inj hother)).symm
    · exact nomatch hother
  · rw [hreached.resolveDocument_eq]
    exact (resolveFrom_eq_or hreached).resolve_left fun hresolved =>
      hsole ((resolveFrom_eq_iff hreached).mp hresolved)

/-- A folder without folders in it. -/
def Provider.flat (treeDocumentId : String) (children : List Child)
    (hnodup : (children.map Child.documentId).Nodup)
    (hroot : ∀ child ∈ children, child.documentId ≠ treeDocumentId) : Provider where
  treeDocumentId := treeDocumentId
  queryChildren := fun parentId => if parentId = treeDocumentId then some children else none
  nodup_children := by
    rintro parentId _ h
    rw [Option.ite_none_right_eq_some] at h
    obtain ⟨-, h⟩ := h
    cases h
    exact hnodup
  parent_unique := by
    rintro parentId parentId' _ _ h h' - - - - -
    rw [Option.ite_none_right_eq_some] at h h'
    exact h.1.trans h'.1.symm
  root_no_child := by
    rintro parentId _ h
    rw [Option.ite_none_right_eq_some] at h
    obtain ⟨-, h⟩ := h
    cases h
    exact hroot

/-- A note of three bytes. -/
def noteChild (documentId : String) : Child :=
  { documentId := documentId, name := "a.md".toList, mime := "text/markdown", size := 3
    sizeKnown := true }

/-- The folder it is in. -/
def notesFolder : Child :=
  { documentId := "1", name := "notes".toList, mime := mimeTypeDir, size := 0, sizeKnown := true }

/-- A folder with a note, in the root folder. -/
def nestedProvider : Provider where
  treeDocumentId := "0"
  queryChildren := fun parentId =>
    if parentId = "0" then some [notesFolder]
    else if parentId = "1" then some [noteChild "2"] else none
  nodup_children := by
    intro parentId children h
    split at h
    · cases h
      decide
    · rw [Option.ite_none_right_eq_some] at h
      obtain ⟨-, h⟩ := h
      cases h
      decide
  parent_unique := by
    intro parentId parentId' children children' h h' child hchild child' hchild' hsame
    split at h <;> split at h'
    · exact (by assumption : parentId = "0").trans (Eq.symm (by assumption))
    · rw [Option.ite_none_right_eq_some] at h'
      cases h
      obtain ⟨-, h'⟩ := h'
      cases h'
      rw [List.mem_singleton] at hchild hchild'
      rw [hchild, hchild'] at hsame
      exact absurd hsame (by decide)
    · rw [Option.ite_none_right_eq_some] at h
      cases h'
      obtain ⟨-, h⟩ := h
      cases h
      rw [List.mem_singleton] at hchild hchild'
      rw [hchild, hchild'] at hsame
      exact absurd hsame (by decide)
    · rw [Option.ite_none_right_eq_some] at h h'
      exact h.1.trans h'.1.symm
  root_no_child := by
    intro parentId children h child hchild
    split at h
    · cases h
      rw [List.mem_singleton.mp hchild]
      decide
    · rw [Option.ite_none_right_eq_some] at h
      obtain ⟨-, h⟩ := h
      cases h
      rw [List.mem_singleton.mp hchild]
      decide

theorem listed_path_resolves_note :
    ∃ entries scanned, buildInventory nestedProvider = .ok (entries, scanned) ∧
      entries.map InventoryEntry.path = ["notes/a.md".toList] ∧
      resolveDocument nestedProvider "notes/a.md".toList = .ok (some (noteChild "2")) := by
  have hlist : buildInventory nestedProvider =
      .ok ([inventoryEntry ("notes/a.md".toList, noteChild "2")], 2) := by rfl
  obtain ⟨_, -, -, h⟩ := listed_path_resolves hlist
  have hleads {Fit : List Child → Child → Prop} (hfolder : Fit [notesFolder] notesFolder)
      (hnote : Fit [noteChild "2"] (noteChild "2")) :
      Leads nestedProvider Fit ["notes".toList, "a.md".toList] (noteChild "2") := by
    have hfirst : Leads nestedProvider Fit ["notes".toList] notesFolder :=
      .child rfl (List.mem_singleton_self _) hfolder (by decide) (by decide)
    exact hfirst.step rfl rfl (List.mem_singleton_self _) hnote (by decide)
  exact ⟨_, _, hlist, rfl, ((h _ _ (hleads trivial trivial) rfl).2.1 (hleads rfl rfl)).2⟩

/-- Two children with one name are listed under one path, and neither can be read. -/
theorem listed_path_ambiguous :
    ∃ provider entries scanned, buildInventory provider = .ok (entries, scanned) ∧
      entries.map InventoryEntry.path = ["a.md".toList, "a.md".toList] ∧
      resolveDocument provider "a.md".toList = .ok none :=
  ⟨Provider.flat "0" [noteChild "1", noteChild "2"] (by decide) (by decide),
    [inventoryEntry ("a.md".toList, noteChild "1"),
      inventoryEntry ("a.md".toList, noteChild "2")], 2,
    rfl, rfl, rfl⟩

end Saf
end MyVault
