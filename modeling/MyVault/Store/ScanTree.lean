import MyVault.Store.BatchCursor

/-!
# The tree of the initial scan

A scan starts from the bound root and reads one folder after the other.  The frontier
holds the folders that are not read to their end yet; its head is the one being read.
A folder enters it once: it needs a row in `remote_entries` first, a second folder of
that id is refused, and no row is deleted before the next scan.

A row is put below its folder, and folders do not move.  But a *file* may have the id of
a folder the scan has seen before, and then the row becomes a file: what was read below
it, or is read below it later, has no folder above it any more.  The tree of a scan
holds as long as no page does that to a folder that has, or then gets, a child
(`scan_visits_tree`).

## How the argument goes

`Scanning` is the invariant of a scan.  Beside the tree itself it holds that every row of the
frontier is of a known folder and stands where the row of that folder says, since a page is placed
by the path in the frontier and not by the one in `remote_entries`.

`Visits` says of a step that the folders it enters were not known before and are afterwards.
Folders that are known stay known, so no folder enters twice in a run, whatever pages come in
between.  Of a page that is applied `AppliesPage` says what it has found and done, and
`FoldersStay` is what the invariant asks of it: that it makes no file of the folder that is being
read, nor of one with children that the page does not list anew.
-/

namespace MyVault
namespace Store

open Check Program Runs

/-! ## The tree -/

/-- The path of a folder and one name more; the root has the empty path. -/
def IsChildPath (folder child : String) : Prop :=
  ∃ name : Text, name ≠ [] ∧ '/' ∉ name ∧
    child.toList = if folder = "" then name else folder.toList ++ '/' :: name

/-- The entries of `remote_entries`, without their base columns. -/
def Database.entries (db : Database) : List RemoteEntry := db.remoteEntries.rows.map (·.entry)

/-- The parent is the bound root or a folder, and the path is a name below it. -/
def InTree (root : String) (entries : List RemoteEntry) (entry : RemoteEntry) : Prop :=
  entry.parentId = root ∧ IsChildPath "" entry.path ∨
    ∃ parent ∈ entries, parent.fileId = entry.parentId ∧ parent.kind = .folder ∧
      IsChildPath parent.path entry.path

/-- A scan that began with a token: either a folder is being read, or the changes since
that token are next. -/
def ScanTree (startToken : String) (db : Database) : Prop :=
  ∃ state, db.vaultState = some state ∧
    (state.phase = .scanning ∧
        (∃ head, frontierHead db = some head ∧ head.pageToken = state.scanPageToken) ∨
      state.phase = .draining ∧ db.scanFrontier.rows = [] ∧
        state.changesPageToken = some startToken) ∧
    ∀ entry ∈ db.entries, InTree state.remoteRootId db.entries entry

/-- The folders that enter the frontier in a step, by the sequence numbers that are new. -/
def enteredFolders (db db' : Database) : List String :=
  (db'.scanFrontier.rows.filter fun row =>
    decide (row.sequence ∉ db.scanFrontier.rows.map (·.sequence))).map (·.folderId)

/-- The folders that enter the frontier in a run, in order. -/
def scannedFolders (step : Database → Operation → Database) : Database → List Operation →
    List String
  | _, [] => []
  | db, op :: ops => enteredFolders db (step db op) ++ scannedFolders step (step db op) ops

/-- A call of the scan, or one that leaves its tables alone. -/
inductive Operation.IsOfScan : Operation → Prop
  | begin (startToken : String) (nowUnixMs : ℕ) : IsOfScan (.beginInitialScan startToken nowUnixMs)
  | page (expectedPageToken : Option String) (page : ScanPage) (nowUnixMs : ℕ) :
      IsOfScan (.applyScanPage expectedPageToken page nowUnixMs)
  | other (op : Operation) (hvault : Part.vaultState ∉ op.writes)
      (hentries : Part.remoteEntries ∉ op.writes) (hfrontier : Part.scanFrontier ∉ op.writes) :
      IsOfScan op

/-- The folder whose page is read is still a folder, and a file of the page takes no id
that an entry has as its parent. -/
def FoldersStay (root : String) (current : FrontierRow) (entries listed : List RemoteEntry) :
    Prop :=
  (listed ≠ [] → current.folderId ≠ root →
    ∃ folder ∈ entries, folder.fileId = current.folderId ∧ folder.kind = .folder) ∧
  ∀ file ∈ listed, file.kind = .file → file.fileId ≠ root →
    file.fileId ≠ current.folderId ∧
    ∀ entry ∈ entries, entry.parentId = file.fileId → entry.fileId ∈ listed.map (·.fileId)

/-- A page whose children are valid makes no parent a file. -/
def PagesKeepFolders (u : Unicode) (db : Database) (op : Operation) : Prop :=
  ∀ expectedPageToken page nowUnixMs, op = .applyScanPage expectedPageToken page nowUnixMs →
    ∀ state current, db.vaultState = some state → state.phase = .scanning →
      state.scanPageToken = expectedPageToken → frontierHead db = some current →
      validateScanPageChildren u db state.remoteRootId current [] page.entries = .ok () →
      FoldersStay state.remoteRootId current db.entries page.entries

/-! ## The head of the frontier -/

theorem frontierHead_eq_some_iff {db : Database} {head : FrontierRow} :
    frontierHead db = some head ↔
      head ∈ db.scanFrontier ∧ ∀ row ∈ db.scanFrontier, head.sequence ≤ row.sequence := by
  have hmem : ∀ {row}, row ∈ db.scanFrontier.rows.insertionSort
      (fun a b => a.sequence ≤ b.sequence) ↔ row ∈ db.scanFrontier := List.mem_insertionSort _
  have hsorted := List.pairwise_insertionSort
    (fun a b : FrontierRow => a.sequence ≤ b.sequence) db.scanFrontier.rows
  rw [frontierHead]
  cases hrows : db.scanFrontier.rows.insertionSort fun a b => a.sequence ≤ b.sequence with
  | nil =>
      rw [hrows] at hmem
      exact iff_of_false nofun fun hhead => nomatch hmem.mpr hhead.1
  | cons first rest =>
      rw [hrows] at hmem hsorted
      have hfirst : ∀ row ∈ db.scanFrontier, first.sequence ≤ row.sequence := by
        intro row hrow
        rcases List.mem_cons.mp (hmem.mpr hrow) with rfl | hrow
        · exact Nat.le_refl _
        · exact List.rel_of_pairwise_cons hsorted hrow
      rw [List.head?_cons, Option.some.injEq]
      constructor
      · rintro rfl
        exact ⟨hmem.mp List.mem_cons_self, hfirst⟩
      · rintro ⟨hhead, hle⟩
        have hmemFirst : first ∈ db.scanFrontier := hmem.mp List.mem_cons_self
        exact db.scanFrontier.eq_of_key_eq hmemFirst hhead
          (Nat.le_antisymm (hfirst head hhead) (hle first hmemFirst))

theorem frontierHead_eq_none_iff {db : Database} :
    frontierHead db = none ↔ db.scanFrontier.rows = [] := by
  rw [frontierHead, List.head?_eq_none_iff, ← List.length_eq_zero_iff,
    List.length_insertionSort, List.length_eq_zero_iff]

/-! ## What a page lists -/

theorem mem_entries_upsertRow {table : Table fun row : RemoteEntryRow => row.entry.fileId}
    {new entry : RemoteEntry} :
    entry ∈ (upsertRow table new).rows.map (·.entry) ↔
      entry = new ∨ entry ∈ table.rows.map (·.entry) ∧ entry.fileId ≠ new.fileId := by
  rw [upsertRow]
  cases h : table.insert { entry := new, base := none } with
  | some inserted =>
      obtain ⟨hfresh, hrows⟩ := Table.insert_eq_some_iff.mp h
      rw [Option.getD_some, hrows, List.map_append, List.mem_append, List.map_singleton,
        List.mem_singleton]
      constructor
      · rintro (hold | rfl)
        · obtain ⟨row, hrow, rfl⟩ := List.mem_map.mp hold
          exact Or.inr ⟨hold, hfresh row hrow⟩
        · exact Or.inl rfl
      · rintro (rfl | ⟨hold, -⟩)
        · exact Or.inr rfl
        · exact Or.inl hold
  | none =>
      rw [Option.getD_none, List.mem_map]
      constructor
      · rintro ⟨row, hrow, rfl⟩
        rcases Table.mem_update.mp hrow with ⟨old, -, -, rfl⟩ | ⟨hrow, hother⟩
        · exact Or.inl rfl
        · exact Or.inr ⟨List.mem_map_of_mem hrow, of_decide_eq_false hother⟩
      · rintro (rfl | ⟨hold, hne⟩)
        · obtain ⟨row, hrow, hid⟩ := Table.insert_eq_none_iff.mp h
          exact ⟨{ row with entry }, Table.mem_update.mpr
            (Or.inl ⟨row, hrow, decide_eq_true hid, rfl⟩), rfl⟩
        · obtain ⟨row, hrow, rfl⟩ := List.mem_map.mp hold
          exact ⟨row, Table.mem_update.mpr (Or.inr ⟨hrow, decide_eq_false hne⟩), rfl⟩

/-- After a page its entries are there, and the entries of other ids. -/
theorem mem_entries_listed {listed : List RemoteEntry}
    {table : Table fun row : RemoteEntryRow => row.entry.fileId} {entry : RemoteEntry}
    (hnodup : (listed.map (·.fileId)).Nodup) :
    entry ∈ (listed.foldl upsertRow table).rows.map (·.entry) ↔
      entry ∈ listed ∨
        entry ∈ table.rows.map (·.entry) ∧ entry.fileId ∉ listed.map (·.fileId) := by
  induction listed generalizing table with
  | nil => simp
  | cons first rest ih =>
      obtain ⟨hfirst, hrest⟩ := List.nodup_cons.mp hnodup
      rw [List.foldl_cons, ih hrest, mem_entries_upsertRow, List.map_cons, List.mem_cons,
        List.mem_cons, not_or]
      constructor
      · rintro (hmem | ⟨rfl | ⟨hold, hne⟩, hnot⟩)
        · exact Or.inl (Or.inr hmem)
        · exact Or.inl (Or.inl rfl)
        · exact Or.inr ⟨hold, hne, hnot⟩
      · rintro ((rfl | hmem) | ⟨hold, hne, hnot⟩)
        · exact Or.inr ⟨Or.inl rfl, hfirst⟩
        · exact Or.inl hmem
        · exact Or.inr ⟨Or.inr ⟨hold, hne⟩, hnot⟩

theorem exec_forM_upsert {u : Unicode} {listed : List RemoteEntry} {db db' : Database} {v : PUnit}
    (h : exec (listed.forM (upsertRemoteEntry u)) db = (.ok v, db')) :
    db' = { db with remoteEntries := listed.foldl upsertRow db.remoteEntries } := by
  induction listed generalizing db with
  | nil => exact (exec_forM_nil_ok.mp h).symm
  | cons entry rest ih =>
      obtain ⟨_, db₁, hfirst, hrest⟩ := exec_forM_cons_ok.mp h
      simp only [upsertRemoteEntry, exec_bind_ok, exec_lift_ok, exec_write_ok] at hfirst
      obtain ⟨_, _, ⟨-, rfl⟩, rfl⟩ := hfirst
      exact ih hrest

/-- The path without the folder is a name. -/
theorem isChildPath_of_relativePath {folder child : String}
    (h : (relativePath folder child).all (fun relative =>
      relative == [] || relative.contains '/') = false) : IsChildPath folder child := by
  obtain ⟨name, hname⟩ : ∃ name, relativePath folder child = some name := by
    cases hrelative : relativePath folder child with
    | none =>
        rw [hrelative] at h
        cases h
    | some name => exact ⟨name, rfl⟩
  rw [hname, Option.all_some, Bool.or_eq_false_iff, beq_eq_false_iff_ne] at h
  refine ⟨name, h.1, by simpa using h.2, ?_⟩
  rw [relativePath] at hname
  split at hname
  · rename_i hroot
    rw [if_pos hroot, ← Option.some.inj hname]
  · rename_i hroot
    obtain ⟨rest, hrest, hslash⟩ := Option.bind_eq_some_iff.mp hname
    obtain ⟨_, hchild, hfolder⟩ := List.dropPrefix?_eq_some_iff.mp hrest
    obtain ⟨_, rfl, hone⟩ := List.dropPrefix?_eq_some_iff.mp hslash
    rw [if_neg hroot, hchild, beq_iff_eq.mp hfolder, beq_iff_eq.mp hone]
    rfl

/-- What `validate_scan_page_children` has checked of an entry. -/
structure PageChild (db : Database) (root : String) (current : FrontierRow)
    (entry : RemoteEntry) : Prop where
  parent : entry.parentId = current.folderId
  path : IsChildPath current.portablePath entry.path
  ne_root : entry.kind = .folder → entry.fileId ≠ root
  fresh : entry.kind = .folder → ∀ old ∈ db.entries, old.fileId ≠ entry.fileId

theorem pageChild_of_validate {u : Unicode} {db : Database} {root : String}
    {current : FrontierRow} {seen : List String} {entry : RemoteEntry}
    (h : validateScanChild u db root current seen entry = .ok ()) :
    PageChild db root current entry ∧ entry.fileId ∉ seen := by
  simp only [validateScanChild, seq_eq_ok, reject_eq_ok, not_or, not_and, Decidable.not_not,
    Bool.not_eq_true, Option.isSome_eq_false_iff, Option.isNone_iff_eq_none] at h
  obtain ⟨-, ⟨hparent, hseen⟩, hpath, hroot, hfresh⟩ := h
  refine ⟨⟨hparent, isChildPath_of_relativePath hpath, hroot, fun hkind old hold => ?_⟩, hseen⟩
  obtain ⟨row, hrow, rfl⟩ := List.mem_map.mp hold
  exact Table.lookup_eq_none_iff.mp (hfresh hkind) row hrow

theorem pageChildren_of_validate {u : Unicode} {db : Database} {root : String}
    {current : FrontierRow} {seen : List String} {listed : List RemoteEntry}
    (h : validateScanPageChildren u db root current seen listed = .ok ()) :
    (∀ entry ∈ listed, PageChild db root current entry ∧ entry.fileId ∉ seen) ∧
      (listed.map (·.fileId)).Nodup := by
  induction listed generalizing seen with
  | nil => exact ⟨nofun, List.nodup_nil⟩
  | cons first rest ih =>
      rw [validateScanPageChildren, seq_eq_ok] at h
      obtain ⟨hrest, hnodup⟩ := ih h.2
      refine ⟨?_, List.nodup_cons.mpr ⟨fun hmem => ?_, hnodup⟩⟩
      · intro entry hentry
        rcases List.mem_cons.mp hentry with rfl | hentry
        · exact pageChild_of_validate h.1
        · exact ⟨(hrest entry hentry).1, fun hmem =>
            (hrest entry hentry).2 (List.mem_cons_of_mem _ hmem)⟩
      · obtain ⟨entry, hentry, hid⟩ := List.mem_map.mp hmem
        exact (hrest entry hentry).2 (hid ▸ List.mem_cons_self)

/-! ## What a page adds to the frontier -/

/-- The rows of new folders: they come last, and each is for a folder of the page. -/
structure AddsFolders (folders : List RemoteEntry) (old added : List FrontierRow) : Prop where
  last : ∀ row ∈ added, ∀ other ∈ old, other.sequence < row.sequence
  folder : ∀ row ∈ added, ∃ folder ∈ folders, row.folderId = folder.fileId ∧
    row.portablePath = folder.path
  sublist : (added.map (·.folderId)).Sublist (folders.map (·.fileId))

theorem addsFolders_of_enqueueFolders {current : FrontierRow} {folders : List RemoteEntry}
    {nextSequence frontierCount : ℕ} {db db' : Database} {v : Unit}
    (hlast : ∀ row ∈ db.scanFrontier, row.sequence ≤ nextSequence)
    (h : exec (enqueueFolders current folders nextSequence frontierCount) db = (.ok v, db')) :
    ∃ added, db'.scanFrontier.rows = db.scanFrontier.rows ++ added ∧
      AddsFolders folders db.scanFrontier.rows added := by
  induction folders generalizing nextSequence frontierCount db with
  | nil =>
      rw [enqueueFolders, exec_pure_ok] at h
      exact ⟨[], by rw [← h.2, List.append_nil], by rintro _ ⟨⟩, (by rintro _ ⟨⟩),
        List.Sublist.refl _⟩
  | cons folder rest ih =>
      simp only [enqueueFolders, exec_bind_ok, exec_reject_ok, exec_read_ok] at h
      obtain ⟨_, _, ⟨-, rfl⟩, existing, _, ⟨-, rfl⟩, h⟩ := h
      by_cases hexisting : existing.isSome = true
      · -- the folder waits already
        rw [if_pos hexisting] at h
        simp only [exec_bind_ok, exec_reject_ok] at h
        obtain ⟨_, _, ⟨-, rfl⟩, h⟩ := h
        obtain ⟨added, hrows, hadded⟩ := ih hlast h
        refine ⟨added, hrows, hadded.last, fun row hrow => ?_, hadded.sublist.cons _⟩
        obtain ⟨other, hother, hrow⟩ := hadded.folder row hrow
        exact ⟨other, List.mem_cons_of_mem _ hother, hrow⟩
      · rw [if_neg hexisting] at h
        simp only [insertFrontier, exec_bind_ok, exec_reject_ok, exec_read_ok, exec_require_ok,
          exec_the_ok, exec_write_ok, id] at h
        obtain ⟨_, _, ⟨-, rfl⟩, _, _, ⟨-, rfl⟩, _, db₁, ⟨_, _, ⟨rfl, rfl⟩, _, _, ⟨-, rfl⟩, table, _,
          ⟨htable, rfl⟩, rfl⟩, h⟩ := h
        have hrows₁ := (Table.insert_eq_some_iff.mp htable).2
        have hlast₁ : ∀ row ∈ table, row.sequence ≤ nextSequence + 1 := by
          intro row hrow
          rcases (Table.mem_of_insert htable).mp hrow with hrow | rfl
          · exact (hlast row hrow).trans (Nat.le_succ _)
          · exact Nat.le_refl _
        obtain ⟨added, hrows, hadded⟩ := ih hlast₁ h
        refine ⟨⟨nextSequence + 1, folder.fileId, folder.path, none⟩ :: added,
          by rw [hrows, hrows₁, List.append_assoc, List.singleton_append], ?_, ?_,
          hadded.sublist.cons_cons folder.fileId⟩
        · intro row hrow other hother
          rcases List.mem_cons.mp hrow with rfl | hrow
          · exact Nat.lt_succ_of_le (hlast other hother)
          · exact hadded.last row hrow other (hrows₁ ▸ List.mem_append_left _ hother)
        · intro row hrow
          rcases List.mem_cons.mp hrow with rfl | hrow
          · exact ⟨folder, List.mem_cons_self, rfl, rfl⟩
          · obtain ⟨other, hother, hrow⟩ := hadded.folder row hrow
            exact ⟨other, List.mem_cons_of_mem _ hother, hrow⟩

/-! ## What follows a page -/

/-- What a page never changes of a row of the frontier. -/
def FrontierRow.place (row : FrontierRow) : ℕ × String × String :=
  (row.sequence, row.folderId, row.portablePath)

/-- A folder is being read, or the changes since the token are next. -/
def AtToken (startToken : String) (db : Database) (state : VaultSyncState) : Prop :=
  state.phase = .scanning ∧ state.startToken = some startToken ∧
      (∃ head, frontierHead db = some head ∧ head.pageToken = state.scanPageToken) ∨
    state.phase = .draining ∧ db.scanFrontier.rows = [] ∧
      state.changesPageToken = some startToken

section Advance

variable {startToken : String} {state : VaultSyncState} {current : FrontierRow} {nowUnixMs : ℕ}
  {next : Option String} {db db' : Database} {v : Unit}

theorem places_of_finishFolder {next : Option FrontierRow}
    (h : exec (finishFolder state nowUnixMs next) db = (.ok v, db')) :
    db'.scanFrontier = db.scanFrontier := by
  have hframe : Keeps (OnlyWrites [.vaultState]) (finishFolder state nowUnixMs next) := by
    cases next <;> unfold finishFolder <;> infer_instance
  exact hframe.of_exec h .scanFrontier (by decide)

theorem places_of_advanceScan
    (h : exec (advanceScan state current nowUnixMs next) db = (.ok v, db')) :
    (db'.scanFrontier.rows.map (·.place)).Sublist (db.scanFrontier.rows.map (·.place)) := by
  cases next with
  | some next =>
      simp only [advanceScan, updateVaultState, exec_bind_ok, exec_write_ok] at h
      obtain ⟨_, _, rfl, rfl⟩ := h
      have hplaces : (db.scanFrontier.rows.map fun row =>
          if decide (row.sequence = current.sequence) then { row with pageToken := some next }
          else row).map (·.place) = db.scanFrontier.rows.map (·.place) := by
        rw [List.map_map]
        refine List.map_congr_left fun row _ => ?_
        rw [Function.comp_apply]
        split <;> rfl
      exact hplaces ▸ List.Sublist.refl _
  | none =>
      simp only [advanceScan, exec_bind_ok, exec_write_ok, loadFrontierHead, exec_read_ok] at h
      obtain ⟨_, _, rfl, next, _, ⟨hnext, rfl⟩, h⟩ := h
      rw [places_of_finishFolder h]
      exact List.filter_sublist.map _

theorem atToken_of_advanceScan (hstate : db.vaultState = some state)
    (hscanning : state.phase = .scanning) (hstart : state.startToken = some startToken)
    (hcurrent : frontierHead db = some current)
    (h : exec (advanceScan state current nowUnixMs next) db = (.ok v, db')) :
    ∃ after, db'.vaultState = some after ∧ after.remoteRootId = state.remoteRootId ∧
      AtToken startToken db' after := by
  cases next with
  | some next =>
      -- the folder has more pages: it stays the head, with the next token
      simp only [advanceScan, updateVaultState, exec_bind_ok, exec_write_ok, hstate] at h
      obtain ⟨_, _, rfl, rfl⟩ := h
      have hrows : ∀ row, row ∈ db.scanFrontier.update
          (fun row => row.sequence = current.sequence)
          (fun row => { row with pageToken := some next }) (fun _ _ => rfl) ↔ _ :=
        fun row => Table.mem_update
      obtain ⟨hmem, hleast⟩ := frontierHead_eq_some_iff.mp hcurrent
      refine ⟨_, rfl, rfl, Or.inl ⟨hscanning, hstart, { current with pageToken := some next },
        frontierHead_eq_some_iff.mpr ⟨?_, fun row hrow => ?_⟩, rfl⟩⟩
      · exact (hrows _).mpr (Or.inl ⟨current, hmem, decide_eq_true rfl, rfl⟩)
      · rcases (hrows row).mp hrow with ⟨old, hold, -, rfl⟩ | ⟨hrow, -⟩
        · exact hleast old hold
        · exact hleast row hrow
  | none =>
      simp only [advanceScan, exec_bind_ok, exec_write_ok, loadFrontierHead, exec_read_ok] at h
      obtain ⟨_, _, rfl, next, _, ⟨hnext, rfl⟩, h⟩ := h
      cases next with
      | some next =>
          simp only [finishFolder, updateVaultState, exec_write_ok, hstate, Option.map_some] at h
          subst h
          exact ⟨_, rfl, rfl, Or.inl ⟨hscanning, hstart, next, hnext, rfl⟩⟩
      | none =>
          -- nothing waits any more
          simp only [finishFolder, updateVaultState, exec_bind_ok, exec_the_ok, exec_write_ok,
            hstate, hstart, Option.some.injEq] at h
          obtain ⟨_, _, ⟨rfl, rfl⟩, rfl⟩ := h
          exact ⟨_, rfl, rfl, Or.inr ⟨rfl, frontierHead_eq_none_iff.mp hnext, rfl⟩⟩

end Advance

theorem le_foldr_max {n : ℕ} {sequences : List ℕ} (h : n ∈ sequences) :
    n ≤ sequences.foldr max 0 := Nat.le_of_lt_succ (lt_nextRowid h)

theorem addsFolders_of_enqueueChildFolders {current : FrontierRow} {listed : List RemoteEntry}
    {db db' : Database} {v : Unit}
    (h : exec (enqueueChildFolders current listed) db = (.ok v, db')) :
    ∃ added, db'.scanFrontier.rows = db.scanFrontier.rows ++ added ∧
      AddsFolders (listed.filter fun entry => entry.kind = .folder) db.scanFrontier.rows added := by
  simp only [enqueueChildFolders, exec_bind_ok, exec_read_ok] at h
  obtain ⟨_, _, ⟨rfl, rfl⟩, h⟩ := h
  exact addsFolders_of_enqueueFolders
    (fun row hrow => le_foldr_max (List.mem_map_of_mem hrow)) h

/-- What a page that is applied has found and done. -/
structure AppliesPage (u : Unicode) (db db' : Database) (state : VaultSyncState)
    (current : FrontierRow) (page : ScanPage) (added : List FrontierRow) : Prop where
  vaultState : db.vaultState = some state
  scanning : state.phase = .scanning
  head : frontierHead db = some current
  valid : validateScanPageChildren u db state.remoteRootId current [] page.entries = .ok ()
  entries : db'.entries = (page.entries.foldl upsertRow db.remoteEntries).rows.map (·.entry)
  adds : AddsFolders (page.entries.filter fun entry => entry.kind = .folder)
    db.scanFrontier.rows added
  frontier : (db'.scanFrontier.rows.map (·.place)).Sublist
    ((db.scanFrontier.rows ++ added).map (·.place))
  atToken : ∀ startToken, state.startToken = some startToken →
    ∃ after, db'.vaultState = some after ∧ after.remoteRootId = state.remoteRootId ∧
      AtToken startToken db' after

theorem appliesPage_of_exec {u : Unicode} {vaultId : Uuid} {expectedPageToken : Option String}
    {page : ScanPage} {nowUnixMs : ℕ} {db db' : Database} {v : Unit}
    (h : exec (applyScanPage u vaultId expectedPageToken page nowUnixMs) db = (.ok v, db')) :
    ∃ state current added, state.scanPageToken = expectedPageToken ∧
      AppliesPage u db db' state current page added := by
  simp only [applyScanPage, loadFrontierHead, exec_bind_ok, exec_lift_ok, exec_transaction_ok,
    exec_requireState_ok, exec_reject_ok, exec_read_ok, exec_the_ok, id, Decidable.not_not,
    exists_and_left, exists_eq_left', exists_const, and_assoc] at h
  obtain ⟨_, -, _, -, _, -, state, hstate, -, hscanning, htoken, current, hhead, -, _, hvalid, _,
    db₁, hentries, _, db₂, henqueue, hadvance⟩ := h
  obtain rfl := exec_forM_upsert hentries
  have henqueued : OnlyWrites [.scanFrontier] _ db₂ := Keeps.of_exec inferInstance henqueue
  have hadvanced : OnlyWrites [.vaultState, .scanFrontier] db₂ db' :=
    Keeps.of_exec inferInstance hadvance
  have hstate₂ : db₂.vaultState = some state := (henqueued .vaultState (by decide)).trans hstate
  have hentries' : db'.remoteEntries = page.entries.foldl upsertRow db.remoteEntries :=
    (hadvanced .remoteEntries (by decide)).trans (henqueued .remoteEntries (by decide))
  obtain ⟨added, hrows, hadds⟩ := addsFolders_of_enqueueChildFolders henqueue
  obtain ⟨hmem, hleast⟩ := frontierHead_eq_some_iff.mp hhead
  have hhead₂ : frontierHead db₂ = some current := by
    refine frontierHead_eq_some_iff.mpr ⟨?_, fun row hrow => ?_⟩
    · rw [← Table.mem_rows, hrows]
      exact List.mem_append_left _ hmem
    · rw [← Table.mem_rows, hrows] at hrow
      rcases List.mem_append.mp hrow with hrow | hrow
      · exact hleast row hrow
      · exact (hadds.last row hrow current hmem).le
  refine ⟨state, current, added, htoken, hstate, hscanning, hhead, hvalid, ?_, hadds, ?_, ?_⟩
  · rw [Database.entries, hentries']
  · rw [← hrows]
    exact places_of_advanceScan hadvance
  · exact fun startToken hstart =>
      atToken_of_advanceScan hstate₂ hscanning hstart hhead₂ hadvance

/-! ## What a step keeps -/

/-- The root, or an id with a row. -/
def Known (root : String) (db : Database) (folderId : String) : Prop :=
  folderId = root ∨ ∃ entry ∈ db.entries, entry.fileId = folderId

/-- The folder of a row, as long as it is one, is where the row says. -/
def InPlace (root : String) (entries : List RemoteEntry) (row : FrontierRow) : Prop :=
  row.folderId = root ∧ row.portablePath = "" ∨
    row.folderId ≠ root ∧ row.portablePath ≠ "" ∧
      ∀ entry ∈ entries, entry.fileId = row.folderId → entry.kind = .folder →
        entry.path = row.portablePath

/-- A scan of a root, begun with a token, at work. -/
structure Scanning (startToken root : String) (db : Database) : Prop where
  vaultState : ∃ state, db.vaultState = some state ∧ state.remoteRootId = root ∧
    AtToken startToken db state
  known : ∀ row ∈ db.scanFrontier, Known root db row.folderId
  inPlace : ∀ row ∈ db.scanFrontier, InPlace root db.entries row
  ne_root : ∀ entry ∈ db.entries, entry.kind = .folder → entry.fileId ≠ root
  inTree : ∀ entry ∈ db.entries, InTree root db.entries entry

/-- What is known stays known, and what enters was not known and is entered once. -/
structure Visits (root : String) (db db' : Database) : Prop where
  kept : ∀ folderId, Known root db folderId → Known root db' folderId
  fresh : ∀ folderId ∈ enteredFolders db db', ¬ Known root db folderId
  entered : ∀ folderId ∈ enteredFolders db db', Known root db' folderId
  nodup : (enteredFolders db db').Nodup

section Page

variable {u : Unicode} {startToken root : String} {db db' : Database} {state : VaultSyncState}
  {current : FrontierRow} {page : ScanPage} {added : List FrontierRow}

theorem AppliesPage.mem_entries (h : AppliesPage u db db' state current page added)
    {entry : RemoteEntry} : entry ∈ db'.entries ↔
      entry ∈ page.entries ∨
        entry ∈ db.entries ∧ entry.fileId ∉ page.entries.map (·.fileId) := by
  rw [h.entries, mem_entries_listed (pageChildren_of_validate h.valid).2, Database.entries]

theorem AppliesPage.child (h : AppliesPage u db db' state current page added)
    {entry : RemoteEntry} (hentry : entry ∈ page.entries) :
    PageChild db state.remoteRootId current entry :=
  ((pageChildren_of_validate h.valid).1 entry hentry).1

theorem AppliesPage.known (h : AppliesPage u db db' state current page added)
    {folderId : String} (hknown : Known root db folderId) : Known root db' folderId := by
  rcases hknown with hroot | ⟨entry, hentry, hid⟩
  · exact Or.inl hroot
  · refine Or.inr ?_
    by_cases hlisted : entry.fileId ∈ page.entries.map (·.fileId)
    · obtain ⟨next, hnext, hsame⟩ := List.mem_map.mp hlisted
      exact ⟨next, h.mem_entries.mpr (Or.inl hnext), hsame.trans hid⟩
    · exact ⟨entry, h.mem_entries.mpr (Or.inr ⟨hentry, hlisted⟩), hid⟩

/-- A row of the frontier was there, or it is for a folder of the page. -/
theorem AppliesPage.frontier_cases (h : AppliesPage u db db' state current page added)
    {row : FrontierRow} (hrow : row ∈ db'.scanFrontier) :
    (∃ old ∈ db.scanFrontier, row.folderId = old.folderId ∧ row.portablePath = old.portablePath) ∨
      ∃ folder ∈ page.entries, folder.kind = .folder ∧ row.folderId = folder.fileId ∧
        row.portablePath = folder.path := by
  have hplace := h.frontier.subset (List.mem_map_of_mem hrow)
  obtain ⟨old, hold, heq⟩ := List.mem_map.mp hplace
  obtain ⟨-, hid, hpath⟩ : old.sequence = row.sequence ∧ old.folderId = row.folderId ∧
      old.portablePath = row.portablePath := by
    simpa only [FrontierRow.place, Prod.mk.injEq] using heq
  rcases List.mem_append.mp hold with hold | hold
  · exact Or.inl ⟨old, hold, hid.symm, hpath.symm⟩
  · obtain ⟨folder, hfolder, hsame, hplace⟩ := h.adds.folder old hold
    obtain ⟨hmem, hkind⟩ := List.mem_filter.mp hfolder
    exact Or.inr ⟨folder, hmem, of_decide_eq_true hkind, hid.symm.trans hsame,
      hpath.symm.trans hplace⟩

theorem ne_empty_of_isChildPath {folder child : String} (h : IsChildPath folder child) :
    child ≠ "" := by
  obtain ⟨name, hname, -, hchild⟩ := h
  rintro rfl
  split at hchild
  · exact hname hchild.symm
  · simp at hchild

/-- A folder of the page is new, and its row is where the frontier will look for it. -/
theorem AppliesPage.inPlace (h : AppliesPage u db db' state current page added)
    (hscan : Scanning startToken state.remoteRootId db) {row : FrontierRow}
    (hrow : row ∈ db'.scanFrontier) : InPlace state.remoteRootId db'.entries row := by
  obtain ⟨-, hnodup⟩ := pageChildren_of_validate h.valid
  rcases h.frontier_cases hrow with ⟨old, hold, hid, hpath⟩ | ⟨folder, hfolder, hkind, hid, hpath⟩
  · rw [InPlace, hid, hpath]
    refine (hscan.inPlace old hold).imp_right ?_
    rintro ⟨hne, hpath, hplace⟩
    refine ⟨hne, hpath, fun entry hentry hsame hkind => ?_⟩
    rcases h.mem_entries.mp hentry with hlisted | ⟨hentry, -⟩
    · -- a folder that waits is not listed again as a folder
      rcases hscan.known old hold with hroot | ⟨known, hknown, hknownId⟩
      · exact absurd hroot hne
      · exact absurd (hknownId.trans hsame.symm) ((h.child hlisted).fresh hkind known hknown)
    · exact hplace entry hentry hsame hkind
  · have hchild := h.child hfolder
    refine Or.inr ⟨hid ▸ hchild.ne_root hkind, hpath ▸ ne_empty_of_isChildPath hchild.path, ?_⟩
    intro entry hentry hsame _
    rw [hid] at hsame
    rcases h.mem_entries.mp hentry with hlisted | ⟨-, hnot⟩
    · rw [List.inj_on_of_nodup_map hnodup hlisted hfolder hsame, hpath]
    · exact absurd (hsame ▸ List.mem_map_of_mem hfolder) hnot

/-- The folders that stay folders keep the tree together. -/
theorem AppliesPage.inTree (h : AppliesPage u db db' state current page added)
    (hscan : Scanning startToken state.remoteRootId db)
    (hstay : FoldersStay state.remoteRootId current db.entries page.entries)
    {entry : RemoteEntry} (hentry : entry ∈ db'.entries) :
    InTree state.remoteRootId db'.entries entry := by
  obtain ⟨hcurrent, hfiles⟩ := hstay
  -- a folder that is not listed as a file is still there
  have hkept : ∀ folder ∈ db.entries, folder.kind = .folder →
      (∀ file ∈ page.entries, file.kind = .file → file.fileId ≠ folder.fileId) →
      folder ∈ db'.entries := by
    intro folder hfolder hkind hnone
    refine h.mem_entries.mpr (Or.inr ⟨hfolder, fun hlisted => ?_⟩)
    obtain ⟨other, hother, hsame⟩ := List.mem_map.mp hlisted
    cases hotherKind : other.kind with
    | file => exact hnone other hother hotherKind hsame
    | folder => exact (h.child hother).fresh hotherKind folder hfolder hsame.symm
  rcases h.mem_entries.mp hentry with hlisted | ⟨hold, hnot⟩
  · have hchild := h.child hlisted
    obtain ⟨hmem, -⟩ := frontierHead_eq_some_iff.mp h.head
    have hpath := hchild.path
    rcases hscan.inPlace current hmem with ⟨hroot, hempty⟩ | ⟨hne, -, hplace⟩
    · rw [hempty] at hpath
      exact Or.inl ⟨hchild.parent.trans hroot, hpath⟩
    · obtain ⟨folder, hfolder, hid, hkind⟩ := hcurrent (List.ne_nil_of_mem hlisted) hne
      refine Or.inr ⟨folder, hkept folder hfolder hkind fun file hfile hfileKind heq => ?_,
        hid.trans hchild.parent.symm, hkind, ?_⟩
      · have hfileId : file.fileId = current.folderId := heq.trans hid
        exact (hfiles file hfile hfileKind (hfileId ▸ hne)).1 hfileId
      · rw [hplace folder hfolder hid hkind]
        exact hpath
  · rcases hscan.inTree entry hold with hroot | ⟨parent, hparent, hid, hkind, hpath⟩
    · exact Or.inl hroot
    · refine Or.inr ⟨parent, hkept parent hparent hkind fun file hfile hfileKind heq => ?_, hid,
        hkind, hpath⟩
      have hne : file.fileId ≠ state.remoteRootId := heq ▸ hscan.ne_root parent hparent hkind
      exact hnot ((hfiles file hfile hfileKind hne).2 entry hold (hid.symm.trans heq.symm))

theorem enteredFolders_sublist
    (h : (db'.scanFrontier.rows.map (·.place)).Sublist
      ((db.scanFrontier.rows ++ added).map (·.place))) :
    (enteredFolders db db').Sublist (added.map (·.folderId)) := by
  let isNew : ℕ × String × String → Bool := fun place =>
    decide (place.1 ∉ db.scanFrontier.rows.map (·.sequence))
  have hplaces : ∀ rows : List FrontierRow,
      ((rows.map (·.place)).filter isNew).map (·.2.1) =
        (rows.filter fun row => isNew row.place).map (·.folderId) := by
    intro rows
    rw [List.filter_map, List.map_map]
    rfl
  have hold : db.scanFrontier.rows.filter (fun row => isNew row.place) = [] := by
    rw [List.filter_eq_nil_iff]
    intro row hrow hnew
    exact of_decide_eq_true hnew (List.mem_map_of_mem hrow)
  have hsublist := (h.filter isNew).map (·.2.1)
  rw [hplaces, hplaces, List.filter_append, hold, List.nil_append] at hsublist
  exact hsublist.trans (List.filter_sublist.map _)

theorem AppliesPage.visits (h : AppliesPage u db db' state current page added) :
    Visits state.remoteRootId db db' := by
  have hsublist := enteredFolders_sublist h.frontier
  have hfolder : ∀ folderId ∈ enteredFolders db db', ∃ folder ∈ page.entries,
      folder.kind = .folder ∧ folder.fileId = folderId := by
    intro folderId hmem
    obtain ⟨row, hrow, rfl⟩ := List.mem_map.mp (hsublist.subset hmem)
    obtain ⟨folder, hfolder, hid, -⟩ := h.adds.folder row hrow
    obtain ⟨hlisted, hkind⟩ := List.mem_filter.mp hfolder
    exact ⟨folder, hlisted, of_decide_eq_true hkind, hid.symm⟩
  refine ⟨fun _ hknown => h.known hknown, fun folderId hmem => ?_, fun folderId hmem => ?_, ?_⟩
  · obtain ⟨folder, hlisted, hkind, rfl⟩ := hfolder folderId hmem
    have hchild := h.child hlisted
    rintro (hroot | ⟨old, hold, hid⟩)
    · exact hchild.ne_root hkind hroot
    · exact hchild.fresh hkind old hold hid
  · obtain ⟨folder, hlisted, -, rfl⟩ := hfolder folderId hmem
    exact Or.inr ⟨folder, h.mem_entries.mpr (Or.inl hlisted), rfl⟩
  · have hpage := (pageChildren_of_validate h.valid).2
    exact hpage.sublist ((hsublist.trans h.adds.sublist).trans (List.filter_sublist.map _))

/-- Where the tree holds after the page, the page has made no parent a file. -/
theorem AppliesPage.foldersStay (h : AppliesPage u db db' state current page added)
    (hscan : Scanning startToken state.remoteRootId db)
    (htree : ∀ entry ∈ db'.entries, InTree state.remoteRootId db'.entries entry) :
    FoldersStay state.remoteRootId current db.entries page.entries := by
  obtain ⟨-, hnodup⟩ := pageChildren_of_validate h.valid
  obtain ⟨hmem, -⟩ := frontierHead_eq_some_iff.mp h.head
  -- what has the id of a parent is a folder
  have hfolder : ∀ entry ∈ db'.entries, entry.parentId ≠ state.remoteRootId →
      ∃ parent ∈ db'.entries, parent.fileId = entry.parentId ∧ parent.kind = .folder := by
    intro entry hentry hne
    rcases htree entry hentry with ⟨hroot, -⟩ | ⟨parent, hparent, hid, hkind, -⟩
    · exact absurd hroot hne
    · exact ⟨parent, hparent, hid, hkind⟩
  have hfile : ∀ file ∈ page.entries, file.kind = .file → ∀ parent ∈ db'.entries,
      parent.kind = .folder → parent.fileId ≠ file.fileId := by
    intro file hlisted hkind parent hparent hparentKind hid
    rcases h.mem_entries.mp hparent with hparent | ⟨-, hnot⟩
    · rw [List.inj_on_of_nodup_map hnodup hparent hlisted hid, hkind] at hparentKind
      cases hparentKind
    · exact hnot (hid ▸ List.mem_map_of_mem hlisted)
  constructor
  · intro hne hroot
    obtain ⟨entry, hlisted⟩ := List.exists_mem_of_ne_nil page.entries hne
    have hparentId := (h.child hlisted).parent
    obtain ⟨parent, hparent, hid, hkind⟩ := hfolder entry (h.mem_entries.mpr (Or.inl hlisted))
      (hparentId ▸ hroot)
    rw [hparentId] at hid
    rcases h.mem_entries.mp hparent with hlisted | ⟨hold, -⟩
    · -- the folder being read has a row already
      rcases hscan.known current hmem with hcurrent | ⟨known, hknown, hknownId⟩
      · exact absurd hcurrent hroot
      · exact absurd (hknownId.trans hid.symm) ((h.child hlisted).fresh hkind known hknown)
    · exact ⟨parent, hold, hid, hkind⟩
  · intro file hlisted hkind hne
    constructor
    · intro hcurrent
      have hparentId : file.parentId = file.fileId := (h.child hlisted).parent.trans hcurrent.symm
      obtain ⟨parent, hparent, hid, hparentKind⟩ := hfolder file
        (h.mem_entries.mpr (Or.inl hlisted)) (hparentId ▸ hne)
      exact hfile file hlisted hkind parent hparent hparentKind (hid.trans hparentId)
    · intro entry hentry hparentId
      by_contra hnot
      obtain ⟨parent, hparent, hid, hparentKind⟩ := hfolder entry
        (h.mem_entries.mpr (Or.inr ⟨hentry, hnot⟩)) (hparentId ▸ hne)
      exact hfile file hlisted hkind parent hparent hparentKind (hid.trans hparentId)

/-- The tree holds after a page if and only if the page makes no parent a file. -/
theorem AppliesPage.inTree_iff (h : AppliesPage u db db' state current page added)
    (hscan : Scanning startToken state.remoteRootId db) :
    (∀ entry ∈ db'.entries, InTree state.remoteRootId db'.entries entry) ↔
      FoldersStay state.remoteRootId current db.entries page.entries :=
  ⟨h.foldersStay hscan, fun hstay _ hentry => h.inTree hscan hstay hentry⟩

end Page

section Step

variable {u : Unicode} {sha256 : Sha256} {vaultId : Uuid} {startToken root : String}
  {db db' : Database} {op : Operation}

theorem Scanning.scanTree (h : Scanning startToken root db) : ScanTree startToken db := by
  obtain ⟨state, hstate, rfl, hat⟩ := h.vaultState
  exact ⟨state, hstate, hat.imp_left fun hscanning => ⟨hscanning.1, hscanning.2.2⟩, h.inTree⟩

/-- The scan does not see what happens to the other tables. -/
theorem Scanning.congr (h : Scanning startToken root db) (hvault : db'.vaultState = db.vaultState)
    (hentries : db'.remoteEntries = db.remoteEntries)
    (hfrontier : db'.scanFrontier = db.scanFrontier) :
    Scanning startToken root db' ∧ Visits root db db' := by
  have hlisted : db'.entries = db.entries := by rw [Database.entries, hentries, Database.entries]
  have hknown : ∀ folderId, Known root db folderId → Known root db' folderId := by
    intro folderId hknown
    rwa [Known, hlisted]
  have hentered : enteredFolders db db' = [] := by
    rw [enteredFolders, hfrontier, List.map_eq_nil_iff, List.filter_eq_nil_iff]
    intro row hrow hnew
    exact of_decide_eq_true hnew (List.mem_map_of_mem hrow)
  constructor
  · refine ⟨?_, ?_, ?_, ?_, ?_⟩
    · obtain ⟨state, hstate, hroot, hat⟩ := h.vaultState
      refine ⟨state, hvault.trans hstate, hroot, ?_⟩
      rwa [AtToken, frontierHead, hfrontier]
    · exact fun row hrow => hknown _ (h.known row (hfrontier ▸ hrow))
    · rw [hlisted, hfrontier]
      exact h.inPlace
    · rw [hlisted]
      exact h.ne_root
    · rw [hlisted]
      exact h.inTree
  · refine ⟨hknown, ?_, ?_, ?_⟩
    all_goals rw [hentered]
    · exact nofun
    · exact nofun
    · exact List.nodup_nil

theorem Scanning.step (h : Scanning startToken root db) (hop : op.IsOfScan)
    (hkeep : PagesKeepFolders u db op) :
    Scanning startToken root (Store.step u sha256 vaultId db op) ∧
      Visits root db (Store.step u sha256 vaultId db op) := by
  obtain ⟨state, hstate, rfl, hat⟩ := h.vaultState
  rcases step_eq_or_ok u sha256 vaultId db op with hsame | ⟨reply, hok⟩
  · rw [hsame]
    exact h.congr rfl rfl rfl
  · cases hop with
    | begin token now =>
        -- a scan is begun in another phase
        obtain ⟨_, hcall, -⟩ := exec_replying_ok.mp hok
        simp only [beginInitialScan, exec_bind_ok, exec_lift_ok, exec_transaction_ok,
          exec_requireState_ok, exec_reject_ok, Decidable.not_not, exists_and_left,
          exists_eq_left', exists_const, and_assoc] at hcall
        obtain ⟨_, -, _, -, other, hother, -, hphase, -⟩ := hcall
        rw [hstate, Option.some.injEq] at hother
        rw [← hother] at hphase
        rcases hat with ⟨hscanning, -⟩ | ⟨hdraining, -⟩
        · rw [hscanning] at hphase
          cases hphase
        · rw [hdraining] at hphase
          cases hphase
    | page expectedPageToken page now =>
        obtain ⟨_, hcall, -⟩ := exec_replying_ok.mp hok
        obtain ⟨found, current, added, htoken, happlies⟩ := appliesPage_of_exec hcall
        obtain rfl : state = found := Option.some.inj (hstate.symm.trans happlies.vaultState)
        have hstay := hkeep expectedPageToken page now rfl state current hstate
          happlies.scanning htoken happlies.head happlies.valid
        have hstart : state.startToken = some startToken := by
          rcases hat with hscanning | ⟨hdraining, -⟩
          · exact hscanning.2.1
          · rw [happlies.scanning] at hdraining
            cases hdraining
        refine ⟨⟨?_, ?_, ?_, ?_, ?_⟩, happlies.visits⟩
        · exact happlies.atToken startToken hstart
        · intro row hrow
          rcases happlies.frontier_cases hrow with ⟨old, hold, hid, -⟩ | ⟨folder, hmem, -, hid, -⟩
          · rw [hid]
            exact happlies.known (h.known old hold)
          · exact Or.inr ⟨folder, happlies.mem_entries.mpr (Or.inl hmem), hid.symm⟩
        · exact fun row hrow => happlies.inPlace h hrow
        · intro entry hentry hkind
          rcases happlies.mem_entries.mp hentry with hlisted | ⟨hold, -⟩
          · exact (happlies.child hlisted).ne_root hkind
          · exact h.ne_root entry hold hkind
        · exact (happlies.inTree_iff h).mpr hstay
    | other op hvault hentries hfrontier =>
        exact h.congr (step_content u sha256 vaultId db op hvault)
          (step_content u sha256 vaultId db op hentries)
          (step_content u sha256 vaultId db op hfrontier)

/-- A scan begins at the root, and with no entries. -/
theorem scanning_of_begin {nowUnixMs : ℕ} {v : Unit}
    (h : exec (beginInitialScan vaultId startToken nowUnixMs) db = (.ok v, db')) :
    ∃ root, Scanning startToken root db' ∧ db'.scanFrontier.rows.map (·.folderId) = [root] := by
  simp only [beginInitialScan, insertFrontier, updateVaultState, exec_bind_ok, exec_lift_ok,
    exec_transaction_ok, exec_requireState_ok, exec_reject_ok, exec_write_ok, exec_read_ok,
    exec_require_ok, exec_the_ok, id, exists_and_left, exists_eq_left', exists_const,
    and_assoc] at h
  obtain ⟨_, -, _, -, state, hstate, -, -, -, -, _, ⟨table, htable, rfl⟩, rfl⟩ := h
  have hrows : table.rows = [⟨1, state.remoteRootId, "", none⟩] :=
    (Table.insert_eq_some_iff.mp htable).2
  have honly : ∀ row ∈ table, row = ⟨1, state.remoteRootId, "", none⟩ := by
    intro row hrow
    rw [← Table.mem_rows, hrows] at hrow
    exact List.mem_singleton.mp hrow
  have hhead : ∀ begun : Database, begun.scanFrontier = table →
      frontierHead begun = some ⟨1, state.remoteRootId, "", none⟩ := by
    rintro begun rfl
    refine frontierHead_eq_some_iff.mpr ⟨?_, fun row hrow => by rw [honly row hrow]⟩
    rw [← Table.mem_rows, hrows]
    exact List.mem_singleton_self _
  refine ⟨state.remoteRootId, ⟨⟨_, congrArg (Option.map _) hstate, rfl,
    Or.inl ⟨rfl, rfl, _, hhead _ rfl, rfl⟩⟩, ?_, ?_, by rintro _ ⟨⟩, by rintro _ ⟨⟩⟩, ?_⟩
  · intro row hrow
    rw [honly row hrow]
    exact Or.inl rfl
  · intro row hrow
    rw [honly row hrow]
    exact Or.inl ⟨rfl, rfl⟩
  · rw [hrows]
    rfl

/-- What enters in a run was not known at its beginning, and it enters once. -/
theorem scannedFolders_fresh {ops : List Operation} (h : Scanning startToken root db)
    (hops : ∀ op ∈ ops, op.IsOfScan)
    (hkeep : Meets (Store.step u sha256 vaultId) (PagesKeepFolders u) db ops) :
    (∀ folderId ∈ scannedFolders (Store.step u sha256 vaultId) db ops, ¬ Known root db folderId) ∧
      (scannedFolders (Store.step u sha256 vaultId) db ops).Nodup := by
  induction ops generalizing db with
  | nil => exact ⟨nofun, List.nodup_nil⟩
  | cons op ops ih =>
      have hstep : Scanning startToken root (Store.step u sha256 vaultId db op) ∧
          Visits root db (Store.step u sha256 vaultId db op) :=
        h.step (hops op List.mem_cons_self) hkeep.1
      obtain ⟨hscan, hvisits⟩ := hstep
      obtain ⟨hfresh, hnodup⟩ := ih hscan (fun op hop => hops op (List.mem_cons_of_mem _ hop))
        hkeep.2
      rw [scannedFolders]
      constructor
      · intro folderId hmem hknown
        rcases List.mem_append.mp hmem with hmem | hmem
        · exact hvisits.fresh folderId hmem hknown
        · exact hfresh folderId hmem (hvisits.kept folderId hknown)
      · refine hvisits.nodup.append hnodup fun folderId hmem hlater => ?_
        exact hfresh folderId hlater (hvisits.entered folderId hmem)

theorem scanning_run {ops : List Operation} (h : Scanning startToken root db)
    (hops : ∀ op ∈ ops, op.IsOfScan)
    (hkeep : Meets (Store.step u sha256 vaultId) (PagesKeepFolders u) db ops) :
    Scanning startToken root (run (Store.step u sha256 vaultId) db ops) := by
  induction ops generalizing db with
  | nil => exact h
  | cons op ops ih =>
      exact ih (h.step (hops op List.mem_cons_self) hkeep.1).1
        (fun op hop => hops op (List.mem_cons_of_mem _ hop)) hkeep.2

/-- Binds the vault. -/
def bindRun : List Operation :=
  [.bindRemoteRoot "account" "remote-root" "account" "remote-root" 1]

/-- An entry without a content hash. -/
def sampleEntry (fileId parentId path : String) (kind : RemoteEntryKind) : RemoteEntry :=
  ⟨fileId, parentId, path, kind, none, "revision"⟩

variable (u sha256 vaultId)

/-- **A scan visits its tree once, as long as no page makes a folder with children a file.**
The token of the head is that of the vault, no folder is read twice, every entry is below
the bound root or a folder, and after the last folder come the changes since the token the
scan began with. -/
theorem scan_visits_tree (before ops : List Operation) (startToken : String) (nowUnixMs : ℕ)
    (hbegin : (exec (perform u sha256 vaultId (.beginInitialScan startToken nowUnixMs))
      (runStore u sha256 vaultId before)).1 = .ok .done)
    (hops : ∀ op ∈ ops, op.IsOfScan)
    (hkeep : Meets (Store.step u sha256 vaultId) (PagesKeepFolders u)
      (runStore u sha256 vaultId (before ++ [.beginInitialScan startToken nowUnixMs])) ops) :
    ScanTree startToken (runStore u sha256 vaultId
      (before ++ [.beginInitialScan startToken nowUnixMs] ++ ops)) ∧
    ((runStore u sha256 vaultId (before ++ [.beginInitialScan startToken nowUnixMs])
        ).scanFrontier.rows.map (·.folderId) ++
      scannedFolders (Store.step u sha256 vaultId)
        (runStore u sha256 vaultId (before ++ [.beginInitialScan startToken nowUnixMs]))
        ops).Nodup := by
  obtain ⟨_, hcall, -⟩ := exec_replying_ok.mp
    (Prod.ext hbegin rfl : exec (perform u sha256 vaultId (.beginInitialScan startToken nowUnixMs))
      (runStore u sha256 vaultId before) = (.ok .done, _))
  obtain ⟨root, hscan, hroot⟩ := scanning_of_begin hcall
  rw [runStore_append, runStore_concat] at *
  obtain ⟨hfresh, hnodup⟩ := scannedFolders_fresh hscan hops hkeep
  refine ⟨(scanning_run hscan hops hkeep).scanTree, ?_⟩
  have hstart : (Store.step u sha256 vaultId (runStore u sha256 vaultId before)
      (.beginInitialScan startToken nowUnixMs)).scanFrontier.rows.map (·.folderId) = [root] := hroot
  rw [hstart, List.singleton_append, List.nodup_cons]
  exact ⟨fun hmem => hfresh root hmem (Or.inl rfl), hnodup⟩

/-- A page of the root with a folder and a file. -/
theorem scan_visits_root :
    ScanTree "start-1" (runStore Unicode.ascii constantDigest sampleVaultId
      (bindRun ++ [.beginInitialScan "start-1" 2] ++ [.applyScanPage none
        ⟨[sampleEntry "g" "remote-root" "folder" .folder,
          sampleEntry "x" "remote-root" "file" .file], none⟩ 3])) := by
  refine (scan_visits_tree Unicode.ascii constantDigest sampleVaultId bindRun [_] "start-1" 2
    (by decide +kernel) ?_ ⟨?_, trivial⟩).1
  · intro op hop
    rw [List.mem_singleton.mp hop]
    exact .page _ _ _
  · intro expected page now hop state current hstate _ _ hhead _
    cases hop
    have hroot : (runStore Unicode.ascii constantDigest sampleVaultId
        (bindRun ++ [.beginInitialScan "start-1" 2])).vaultState.map (·.remoteRootId) =
          some "remote-root" := by decide +kernel
    have hcurrent : (frontierHead (runStore Unicode.ascii constantDigest sampleVaultId
        (bindRun ++ [.beginInitialScan "start-1" 2]))).map (·.folderId) =
          some "remote-root" := by decide +kernel
    have hentries : (runStore Unicode.ascii constantDigest sampleVaultId
        (bindRun ++ [.beginInitialScan "start-1" 2])).entries = [] := by decide +kernel
    rw [hstate, Option.map_some, Option.some.injEq] at hroot
    rw [hhead, Option.map_some, Option.some.injEq] at hcurrent
    rw [hentries, hroot]
    refine ⟨fun _ hne => absurd hcurrent hne, fun file hfile hkind _ => ⟨?_, nofun⟩⟩
    rw [hcurrent]
    rcases List.mem_cons.mp hfile with rfl | hfile
    · cases hkind
    · rw [List.mem_singleton.mp hfile]
      decide

end Step

/-! ## A folder that becomes a file -/

/-- A folder of the root is listed, then a file of its id, then a child of the folder. -/
def takenFolderRun : List Operation :=
  bindRun ++ [.beginInitialScan "start-1" 2] ++
    [.applyScanPage none ⟨[sampleEntry "g" "remote-root" "folder" .folder], some "page-2"⟩ 3,
      .applyScanPage (some "page-2") ⟨[sampleEntry "g" "remote-root" "file" .file], none⟩ 4,
      .applyScanPage none ⟨[sampleEntry "x" "g" "folder/x" .file], none⟩ 5]

/-- The child of the folder is below a file. -/
theorem file_takes_folder : ¬ ScanTree "start-1"
    (runStore Unicode.ascii constantDigest sampleVaultId takenFolderRun) := by
  have hentries : (runStore Unicode.ascii constantDigest sampleVaultId takenFolderRun).entries =
      [sampleEntry "g" "remote-root" "file" .file, sampleEntry "x" "g" "folder/x" .file] := by
    decide +kernel
  have hroot : (runStore Unicode.ascii constantDigest sampleVaultId takenFolderRun).vaultState.map
      (·.remoteRootId) = some "remote-root" := by decide +kernel
  rintro ⟨state, hstate, -, htree⟩
  rw [hstate, Option.map_some, Option.some.injEq] at hroot
  rw [hentries, hroot] at htree
  rcases htree (sampleEntry "x" "g" "folder/x" .file) (List.mem_cons_of_mem _ List.mem_cons_self)
    with ⟨hparent, -⟩ | ⟨parent, hparent, -, hkind, -⟩
  · exact absurd hparent (by decide)
  · rcases List.mem_cons.mp hparent with rfl | hparent
    · cases hkind
    · rw [List.mem_singleton.mp hparent] at hkind
      cases hkind

end Store
end MyVault
