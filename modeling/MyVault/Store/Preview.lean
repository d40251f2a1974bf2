import MyVault.Library.Paging
import MyVault.Store.ScanTree
import Mathlib.Data.List.Lex
import Mathlib.Data.Prod.Lex

/-!
# The preview of the remote tree

`remote_preview` of `store.rs` returns the remote entries in the byte order of their paths,
and of their ids where paths are equal, up to two hundred at a time.  Its cursor is the path and the
id of the last entry.  The entries of the store passed `RemoteEntry::validate` when they
were written, so that the store takes its own cursors, and the pages together are all
entries once each (`preview_lists_every_entry_once`).

## How the argument goes

`remotePreview` asks for one row more than it returns, to learn whether there is another page.
`IsPage` says what a page is of the rows that remain behind its cursor, and `exec_remotePreview`
that a call returns it.  The order is total on the rows, since the key has the id of the entry
behind its path (`previewKey_injective`); so a cursor cuts the rows at one place, and
`exec_previewPages` follows the pages by induction on the rows that remain.

That the store takes the cursor it made is an invariant of the database: every row has been
checked when it was written (`entriesValid_runStore`), and what is checked of a row is what
`RemotePreviewCursor::validate` checks of a cursor (`cursor_valid`).
-/

namespace MyVault
namespace Store

open Check Program

/-! ## Pages -/

/-- `MAX_REMOTE_PREVIEW_PAGE_SIZE`. -/
def maxRemotePreviewPageSize : ℕ := 200

/-- Where a page of the preview goes on. -/
structure RemotePreviewCursor where
  path : String
  fileId : String
  deriving DecidableEq, Repr

/-- An entry of the preview. -/
structure RemotePreviewEntry where
  fileId : String
  parentId : String
  path : String
  kind : RemoteEntryKind
  pathCollision : Bool
  deriving DecidableEq, Repr

/-- A page of the preview. -/
structure RemotePreviewPage where
  entries : List RemotePreviewEntry
  nextAfter : Option RemotePreviewCursor
  hasMore : Bool
  totalEntries : ℕ
  collidingEntries : ℕ
  rescanRequired : Bool
  deriving DecidableEq, Repr

/-- `COLLATE BINARY`: the bytes of a text. -/
def binary (value : String) : List ℕ := (strBytes value).map UInt8.toNat

/-- The columns the preview is ordered by. -/
def previewKey (path fileId : String) : List ℕ ×ₗ List ℕ := toLex (binary path, binary fileId)

/-- The place of a row in the preview. -/
def RemoteEntryRow.previewKey (row : RemoteEntryRow) : List ℕ ×ₗ List ℕ :=
  Store.previewKey row.entry.path row.entry.fileId

/-- The place of a cursor in the preview. -/
def RemotePreviewCursor.previewKey (cursor : RemotePreviewCursor) : List ℕ ×ₗ List ℕ :=
  Store.previewKey cursor.path cursor.fileId

/-- The place of an entry in the preview. -/
def RemotePreviewEntry.previewKey (entry : RemotePreviewEntry) : List ℕ ×ₗ List ℕ :=
  Store.previewKey entry.path entry.fileId

/-- `EXISTS(SELECT 1 FROM remote_entries duplicate WHERE …)`. -/
def hasDuplicate (db : Database) (row : RemoteEntryRow) : Bool :=
  db.remoteEntries.rows.any fun duplicate =>
    decide (duplicate.entry.path = row.entry.path ∧ duplicate.entry.fileId ≠ row.entry.fileId)

/-- The entry of a row. -/
def previewEntry (db : Database) (row : RemoteEntryRow) : RemotePreviewEntry where
  fileId := row.entry.fileId
  parentId := row.entry.parentId
  path := row.entry.path
  kind := row.entry.kind
  pathCollision := hasDuplicate db row

/-- The path and the id of a cursor are well formed. -/
def RemotePreviewCursor.validate (u : Unicode) (cursor : RemotePreviewCursor) :
    Except Error Unit := do
  (validateContentPath u cursor.path).mapError fun _ => .invalidPreviewCursor
  (validateRemoteId cursor.fileId).mapError fun _ => .invalidPreviewCursor

/-- The cursor behind the last entry of a page. -/
def cursorAfter (entries : List RemotePreviewEntry) : StoreProgram RemotePreviewCursor := do
  let last ← the entries.getLast? .invalidSchema
  pure { path := last.path, fileId := last.fileId }

/-- `remote_preview`: the entries after a cursor, in the order of path and id. -/
def remotePreview (u : Unicode) (vaultId : Uuid) (after : Option RemotePreviewCursor)
    (limit : ℕ) : StoreProgram RemotePreviewPage := do
  Program.reject (limit = 0 ∨ maxRemotePreviewPageSize < limit) .invalidPreviewLimit
  lift (each (RemotePreviewCursor.validate u) after.toList)
  let state ← loadState vaultId
  let state ← the state .invalidStateTransition
  let db ← read id
  let fetched := ((rowsAfter RemoteEntryRow.previewKey db.remoteEntries.rows
    (after.map (·.previewKey))).take (limit + 1)).map (previewEntry db)
  let hasMore := decide (limit < fetched.length)
  let entries := if hasMore then fetched.dropLast else fetched
  let nextAfter ← if hasMore then do
      let cursor ← cursorAfter entries
      pure (some cursor)
    else pure none
  pure
    { entries, nextAfter, hasMore
      totalEntries := db.remoteEntries.rows.length
      collidingEntries := db.remoteEntries.count (hasDuplicate db)
      rescanRequired := state.rescanRequired }

/-- Calls `remote_preview` with the cursor it returned, until there is no more: the pages, or
nothing if there are not calls enough.  The limit may change with every call. -/
def previewPages (u : Unicode) (vaultId : Uuid) (limits : ℕ → ℕ) :
    ℕ → ℕ → Option RemotePreviewCursor → StoreProgram (Option (List RemotePreviewPage))
  | 0, _, _ => pure none
  | calls + 1, call, after => do
    let page ← remotePreview u vaultId after (limits call)
    if page.hasMore then
      let rest ← previewPages u vaultId limits calls (call + 1) page.nextAfter
      pure (rest.map (page :: ·))
    else pure (some [page])

/-! ## The entries are valid -/

/-- Every entry passes the check of its cursor. -/
def EntriesValid (u : Unicode) (db : Database) : Prop :=
  ∀ row ∈ db.remoteEntries, row.entry.validate u = .ok ()

/-- Valid entries stay valid. -/
def KeepsEntriesValid (u : Unicode) (db db' : Database) : Prop :=
  EntriesValid u db → EntriesValid u db'

section EntriesValid

variable {u : Unicode} {sha256 : Sha256} {vaultId : Uuid} {db db' : Database}

instance : Std.Refl (KeepsEntriesValid u) := ⟨fun _ => id⟩

instance : IsTrans Database (KeepsEntriesValid u) := ⟨fun _ _ _ hab hbc h => hbc (hab h)⟩

theorem entriesValid_of_eq (h : db'.remoteEntries = db.remoteEntries) :
    KeepsEntriesValid u db db' := fun hvalid row hrow => hvalid row (h ▸ hrow)

/-- A program that leaves the table of the entries alone. -/
instance (priority := low) {α : Type} {p : StoreProgram α} [h : Keeps (OnlyWrites [.vaultState,
    .scanFrontier, .changeBatch, .declaredMutations, .batchProgress, .transfers,
    .transferHistory]) p] : Keeps (KeepsEntriesValid u) p :=
  h.mono fun _ _ hwrites => entriesValid_of_eq (hwrites .remoteEntries (by decide))

theorem mem_upsertRow {table : Table fun row : RemoteEntryRow => row.entry.fileId}
    {entry : RemoteEntry} {row : RemoteEntryRow} (h : row ∈ upsertRow table entry) :
    row.entry = entry ∨ row ∈ table := by
  rw [upsertRow] at h
  cases hinsert : table.insert { entry, base := none } with
  | some inserted =>
      rw [hinsert, Option.getD_some, Table.mem_of_insert hinsert] at h
      exact h.symm.imp_left fun heq => by rw [heq]
  | none =>
      rw [hinsert, Option.getD_none, Table.mem_update] at h
      rcases h with ⟨old, -, -, rfl⟩ | ⟨hrow, -⟩
      · exact Or.inl rfl
      · exact Or.inr hrow

instance upsertRemoteEntry_keepsValid {entry : RemoteEntry} :
    Keeps (KeepsEntriesValid u) (upsertRemoteEntry u entry) := by
  refine ⟨fun db hvalid => ?_⟩
  rw [upsertRemoteEntry, exec_bind, exec_lift]
  cases hentry : entry.validate u with
  | error e => exact hvalid
  | ok v =>
      intro row hrow
      rcases mem_upsertRow hrow with heq | hrow
      · rw [heq]
        exact hentry
      · exact hvalid row hrow

instance deleteRemoteEntry_keepsValid {fileId : String} :
    Keeps (KeepsEntriesValid u) (deleteRemoteEntry fileId) :=
  .write fun _ hvalid row hrow => hvalid row (Table.mem_delete.mp hrow).1

instance {transfer : TransferRecord} {completion : TransferCompletion} :
    Keeps (KeepsEntriesValid u) (updateRemoteBaseIfPresent transfer completion) := by
  have hwrite : ∀ f : RemoteEntryRow → RemoteEntryRow, (∀ row, (f row).entry = row.entry) →
      ∀ hkey, Keeps (KeepsEntriesValid u) (write fun db => { db with
        remoteEntries := db.remoteEntries.update (isVerifiedEntry transfer completion) f hkey } :
          StoreProgram Unit) := by
    refine fun f hf hkey => .write fun db hvalid row hrow => ?_
    have hupdated : row ∈ db.remoteEntries.update (isVerifiedEntry transfer completion) f hkey :=
      hrow
    rcases Table.mem_update.mp hupdated with ⟨old, hold, -, rfl⟩ | ⟨hrow, -⟩
    · rw [hf]
      exact hvalid old hold
    · exact hvalid row hrow
  have hbase := hwrite (fun row => { row with
    base := some ⟨completion.localRevision, completion.remoteRevision, transfer.sha256,
      transfer.byteLength⟩ }) (fun _ => rfl) fun _ _ => rfl
  unfold updateRemoteBaseIfPresent
  infer_instance

set_option synthInstance.maxSize 100000 in
instance completeVerifiedTransfer_keepsValid {operationId : Uuid}
    {completion : TransferCompletion} :
    Keeps (KeepsEntriesValid u) (completeVerifiedTransfer u operationId completion) := by
  unfold completeVerifiedTransfer activeTransferMutationState completeAgain completeNow
    insertTransferHistory
  infer_instance

set_option synthInstance.maxSize 100000 in
theorem entriesValid_step (op : Operation) :
    KeepsEntriesValid u db (step u sha256 vaultId db op) := by
  rcases step_eq_or_ok u sha256 vaultId db op with hsame | ⟨reply, hok⟩
  · rw [hsame]
    exact Std.Refl.refl db
  cases op
  case beginInitialScan startToken now =>
    obtain ⟨_, hcall, -⟩ := exec_replying_ok.mp hok
    have hempty : Keeps (KeepsEntriesValid u)
        (write fun db => { db with remoteEntries := .empty } : StoreProgram Unit) :=
      .write fun _ _ => nofun
    have hkeeps : Keeps (KeepsEntriesValid u) (beginInitialScan vaultId startToken now) := by
      unfold beginInitialScan
      infer_instance
    exact hkeeps.of_exec hcall
  case applyScanPage expectedPageToken page now =>
    obtain ⟨_, hcall, -⟩ := exec_replying_ok.mp hok
    have hkeeps : Keeps (KeepsEntriesValid u)
        (applyScanPage u vaultId expectedPageToken page now) := by
      unfold applyScanPage
      infer_instance
    exact hkeeps.of_exec hcall
  case applyChangesPage expectedCursor page now =>
    obtain ⟨_, hcall, -⟩ := exec_replying_ok.mp hok
    have happly : ∀ change, Keeps (KeepsEntriesValid u) (applyChange u change) := by
      intro change
      cases change <;> unfold applyChange <;> infer_instance
    have hadvance : ∀ next, Keeps (KeepsEntriesValid u) (advanceDrain page now next) := by
      intro next
      cases next <;> unfold advanceDrain <;> infer_instance
    have hkeeps : Keeps (KeepsEntriesValid u)
        (applyChangesPage u vaultId expectedCursor page now) := by
      unfold applyChangesPage
      infer_instance
    exact hkeeps.of_exec hcall
  case beginTransferChangeBatch batchId expectedCursor nextCursor changes downloads =>
    obtain ⟨_, hcall, -⟩ := exec_replying_ok.mp hok
    have hupsert : ∀ change, Keeps (KeepsEntriesValid u) (upsertChange u change) := by
      intro change
      cases change <;> unfold upsertChange <;> infer_instance
    have hkeeps : Keeps (KeepsEntriesValid u)
        (beginTransferChangeBatch u vaultId batchId expectedCursor nextCursor changes
          downloads) := by
      unfold beginTransferChangeBatch
      infer_instance
    exact hkeeps.of_exec hcall
  case completeVerifiedTransfer operationId completion =>
    obtain ⟨outcome, hcall, -⟩ := exec_replying_ok.mp hok
    exact completeVerifiedTransfer_keepsValid.of_exec hcall
  all_goals
    refine entriesValid_of_eq (@step_content u sha256 vaultId db _ .remoteEntries ?_)
    simp [Operation.writes]

theorem entriesValid_runStore (ops : List Operation) :
    EntriesValid u (runStore u sha256 vaultId ops) :=
  Runs.run_induction (P := EntriesValid u) (fun _ op h => entriesValid_step op h) ops nofun

end EntriesValid

/-! ## One page -/

section Page

variable {u : Unicode} {vaultId : Uuid} {db : Database} {state : VaultSyncState}
  {after : Option RemotePreviewCursor} {limit : ℕ}

theorem binary_injective : Function.Injective binary := fun _ _ h =>
  strBytes_injective ((List.map_injective_iff.mpr fun _ _ => UInt8.toNat_inj.mp) h)

theorem previewKey_injective {path fileId path' fileId' : String}
    (h : previewKey path fileId = previewKey path' fileId') : fileId = fileId' := by
  rw [previewKey, previewKey, toLex_inj, Prod.mk.injEq] at h
  exact binary_injective h.2

theorem nodup_previewKey : (db.remoteEntries.rows.map RemoteEntryRow.previewKey).Nodup := by
  have hkeys := List.pairwise_map.mp db.remoteEntries.nodup_keys
  exact List.pairwise_map.mpr (hkeys.imp fun hne hkey => hne (previewKey_injective hkey))

/-- A path that another row has. -/
theorem hasDuplicate_iff {row : RemoteEntryRow} : hasDuplicate db row = true ↔
    ∃ duplicate ∈ db.remoteEntries, duplicate.entry.path = row.entry.path ∧
      duplicate.entry.fileId ≠ row.entry.fileId := by
  rw [hasDuplicate, List.any_eq_true]
  simp only [decide_eq_true_eq]
  rfl

/-- The cursor of a row passes its check. -/
theorem cursor_valid {row : RemoteEntryRow} (hvalid : EntriesValid u db)
    (hrow : row ∈ db.remoteEntries) :
    (⟨row.entry.path, row.entry.fileId⟩ : RemotePreviewCursor).validate u = .ok () := by
  have hentry := hvalid row hrow
  simp only [RemoteEntry.validate, seq_eq_ok] at hentry
  obtain ⟨hid, -, hpath, -⟩ := hentry
  simp only [RemotePreviewCursor.validate, hpath, hid]
  rfl

/-- What a page says of the rows after its cursor. -/
structure IsPage (db : Database) (remaining : List RemoteEntryRow) (limit : ℕ)
    (page : RemotePreviewPage) : Prop where
  entries : page.entries = (remaining.take limit).map (previewEntry db)
  hasMore : page.hasMore = decide (limit < remaining.length)
  nextAfter : ∀ last ∈ (remaining.take limit).getLast?, limit < remaining.length →
    page.nextAfter = some ⟨last.entry.path, last.entry.fileId⟩

/-- The look-ahead: one entry more than the page holds is fetched, if there is one. -/
theorem fetched_eq {α β : Type} {f : α → β} {rows : List α} {limit : ℕ} :
    (if limit < ((rows.take (limit + 1)).map f).length then ((rows.take (limit + 1)).map f).dropLast
      else (rows.take (limit + 1)).map f) = (rows.take limit).map f := by
  rw [List.length_map, List.length_take]
  by_cases hmore : limit < rows.length
  · rw [if_pos (by omega), ← List.map_dropLast, List.dropLast_eq_take, List.take_take,
      List.length_take]
    congr 2
    omega
  · rw [if_neg (by omega), List.take_of_length_le (by omega), List.take_of_length_le (by omega)]

theorem exec_remotePreview (hstate : exec (loadState vaultId) db = (.ok (some state), db))
    (hlimit : 1 ≤ limit ∧ limit ≤ maxRemotePreviewPageSize)
    (hafter : ∀ cursor ∈ after, cursor.validate u = .ok ()) :
    ∃ page, exec (remotePreview u vaultId after limit) db = (.ok page, db) ∧
      IsPage db (rowsAfter RemoteEntryRow.previewKey db.remoteEntries.rows
        (after.map (·.previewKey))) limit page := by
  generalize hremaining : rowsAfter RemoteEntryRow.previewKey db.remoteEntries.rows
    (after.map (·.previewKey)) = remaining
  have hchecked : each (RemotePreviewCursor.validate u) after.toList = .ok () :=
    each_eq_ok.mpr fun cursor hmem => hafter cursor (Option.mem_toList.mp hmem)
  have hlength : limit < ((remaining.take (limit + 1)).map (previewEntry db)).length ↔
      limit < remaining.length := by
    rw [List.length_map, List.length_take]
    omega
  have hinside : ¬ (limit = 0 ∨ maxRemotePreviewPageSize < limit) := by omega
  simp only [remotePreview, exec_bind, Program.reject, if_neg hinside, exec_pure, exec_lift,
    hchecked, hstate, the, exec_read, id_eq, hremaining, decide_eq_true_eq, fetched_eq]
  by_cases hmore : limit < remaining.length
  · obtain ⟨last, hlast⟩ : ∃ last, (remaining.take limit).getLast? = some last := by
      refine Option.isSome_iff_exists.mp (List.getLast?_isSome.mpr ?_)
      exact List.ne_nil_of_length_pos (by rw [List.length_take]; omega)
    have hentry : ((remaining.take limit).map (previewEntry db)).getLast? =
        some (previewEntry db last) := by rw [List.getLast?_map, hlast, Option.map_some]
    simp only [hlength, hmore, if_true, cursorAfter, hentry, exec_bind, the, exec_pure]
    refine ⟨_, rfl, rfl, (decide_eq_true hmore).symm, fun last' hlast' _ => ?_⟩
    obtain rfl := Option.some.inj (hlast.symm.trans hlast')
    rfl
  · simp only [hlength, hmore, if_false, exec_bind, exec_pure]
    exact ⟨_, rfl, rfl, (decide_eq_false hmore).symm, fun _ _ h => absurd h hmore⟩

end Page

/-! ## All pages -/

section Pages

variable {u : Unicode} {vaultId : Uuid} {db : Database} {state : VaultSyncState}
  {limits : ℕ → ℕ}

/-- With calls enough for the rows after a cursor, the pages are these rows.  Every page but
the last takes at least one of them. -/
theorem exec_previewPages (hvalid : EntriesValid u db)
    (hstate : exec (loadState vaultId) db = (.ok (some state), db))
    (hlimits : ∀ call, 1 ≤ limits call ∧ limits call ≤ maxRemotePreviewPageSize)
    (calls call : ℕ) (after : Option RemotePreviewCursor)
    (hafter : ∀ cursor ∈ after, cursor.validate u = .ok ())
    (hcalls : (rowsAfter RemoteEntryRow.previewKey db.remoteEntries.rows
      (after.map (·.previewKey))).length < calls) :
    ∃ pages, exec (previewPages u vaultId limits calls call after) db = (.ok (some pages), db) ∧
      pages.flatMap (·.entries) = (rowsAfter RemoteEntryRow.previewKey db.remoteEntries.rows
        (after.map (·.previewKey))).map (previewEntry db) := by
  induction calls generalizing call after with
  | zero => omega
  | succ calls ih =>
      obtain ⟨page, hpage, hentries, hhas, hnext⟩ :=
        exec_remotePreview hstate (hlimits call) hafter
      generalize hremaining : rowsAfter RemoteEntryRow.previewKey db.remoteEntries.rows
        (after.map (·.previewKey)) = remaining at hcalls hentries hhas hnext
      by_cases hmore : limits call < remaining.length
      · -- the last row of the page is the next cursor
        obtain ⟨init, last, htake⟩ : ∃ init last,
            remaining.take (limits call) = init ++ [last] := by
          refine ⟨_, _, (List.dropLast_append_getLast (l := _) ?_).symm⟩
          have hpos := (hlimits call).1
          exact List.ne_nil_of_length_pos (by rw [List.length_take]; omega)
        have hsplit : remaining = init ++ last :: remaining.drop (limits call) :=
          calc
            remaining = remaining.take (limits call) ++ remaining.drop (limits call) :=
              (List.take_append_drop _ _).symm
            _ = init ++ last :: remaining.drop (limits call) := by
              rw [htake, List.append_assoc, List.singleton_append]
        have hrest := rowsAfter_key nodup_previewKey (hremaining.trans hsplit)
        have hmem : last ∈ remaining := hsplit ▸ List.mem_append_right _ List.mem_cons_self
        have hlast : last ∈ db.remoteEntries := (mem_rowsAfter.mp (hremaining ▸ hmem)).1
        have hcursor : page.nextAfter = some ⟨last.entry.path, last.entry.fileId⟩ :=
          hnext last (by rw [htake, List.getLast?_concat]; rfl) hmore
        have hfewer : (remaining.drop (limits call)).length < calls := by
          have hpos := (hlimits call).1
          rw [List.length_drop]
          omega
        obtain ⟨pages, hpages, hlisted⟩ := ih (call + 1)
          (some ⟨last.entry.path, last.entry.fileId⟩)
          (fun cursor hc => Option.mem_some.mp hc ▸ cursor_valid hvalid hlast)
          (lt_of_eq_of_lt (congrArg List.length hrest) hfewer)
        refine ⟨page :: pages, ?_, ?_⟩
        · rw [previewPages, exec_bind, hpage]
          simp only [hhas, decide_eq_true hmore, if_true, hcursor, exec_bind, hpages, exec_pure,
            Option.map_some]
        · have hlater : pages.flatMap (·.entries) =
              (remaining.drop (limits call)).map (previewEntry db) :=
            hlisted.trans (congrArg _ hrest)
          rw [List.flatMap_cons, hentries, hlater, ← List.map_append, List.take_append_drop]
      · have hlast : page.hasMore = false := hhas.trans (decide_eq_false hmore)
        refine ⟨[page], ?_, ?_⟩
        · rw [previewPages, exec_bind, hpage]
          simp only [hlast, Bool.false_eq_true, if_false, exec_pure]
        · rw [List.flatMap_singleton, hentries, List.take_of_length_le (by omega)]

variable (u vaultId) (sha256 : Sha256)

/-- **The pages of the preview are all entries once each, in the order of their keys.**  The
entries of every store are valid, and on valid entries no call fails: neither the first nor
one with the cursor that was returned. -/
theorem preview_lists_every_entry_once :
    (∀ ops, EntriesValid u (runStore u sha256 vaultId ops)) ∧
    ∀ (db : Database) (state : VaultSyncState) (limits : ℕ → ℕ), EntriesValid u db →
      (exec (loadState vaultId) db).1 = .ok (some state) →
      (∀ call, 1 ≤ limits call ∧ limits call ≤ maxRemotePreviewPageSize) →
      ∀ calls, db.remoteEntries.rows.length < calls →
        ∃ pages, exec (previewPages u vaultId limits calls 0 none) db = (.ok (some pages), db) ∧
          (pages.flatMap (·.entries)).Perm (db.remoteEntries.rows.map (previewEntry db)) ∧
          (pages.flatMap (·.entries)).Pairwise (fun a b => a.previewKey < b.previewKey) ∧
          ∀ row ∈ db.remoteEntries, (previewEntry db row).pathCollision = true ↔
            ∃ other ∈ db.remoteEntries, other.entry.path = row.entry.path ∧
              other.entry.fileId ≠ row.entry.fileId := by
  refine ⟨fun ops => entriesValid_runStore ops, ?_⟩
  intro db state limits hvalid hloaded hlimits calls hcalls
  have hkeeps : Keeps Eq (loadState vaultId) := inferInstance
  have hstate : exec (loadState vaultId) db = (.ok (some state), db) :=
    Prod.ext hloaded (hkeeps.exec_rel db).symm
  have hperm : (rowsAfter RemoteEntryRow.previewKey db.remoteEntries.rows none).Perm
      db.remoteEntries.rows := rowsAfter_none_perm
  obtain ⟨pages, hpages, hlisted⟩ := exec_previewPages hvalid hstate hlimits calls 0 none nofun
    (lt_of_eq_of_lt hperm.length_eq hcalls)
  refine ⟨pages, hpages, ?_, ?_, fun row _ => hasDuplicate_iff⟩
  · rw [hlisted]
    exact hperm.map _
  · rw [hlisted, List.pairwise_map]
    exact pairwise_rowsAfter nodup_previewKey

/-- Two files of one name in the root. -/
def sameNameRun : List Operation :=
  bindRun ++ [.beginInitialScan "start-1" 2, .applyScanPage none
    ⟨[sampleEntry "y" "remote-root" "file" .file, sampleEntry "x" "remote-root" "file" .file],
      none⟩ 3]

theorem preview_of_same_name : ∃ pages,
    exec (previewPages Unicode.ascii sampleVaultId (fun _ => 1) 3 0 none)
      (runStore Unicode.ascii constantDigest sampleVaultId sameNameRun) =
        (.ok (some pages), runStore Unicode.ascii constantDigest sampleVaultId sameNameRun) ∧
      (pages.flatMap (·.entries)).Pairwise (fun a b => a.previewKey < b.previewKey) := by
  obtain ⟨hvalid, hpages⟩ :=
    preview_lists_every_entry_once Unicode.ascii sampleVaultId constantDigest
  have hloaded : ((exec (loadState sampleVaultId)
      (runStore Unicode.ascii constantDigest sampleVaultId sameNameRun)).1.toOption.bind
        id).isSome =
        true := by decide +kernel
  have hlength : (runStore Unicode.ascii constantDigest sampleVaultId
      sameNameRun).remoteEntries.rows.length < 3 := by decide +kernel
  cases hresult : (exec (loadState sampleVaultId)
      (runStore Unicode.ascii constantDigest sampleVaultId sameNameRun)).1 with
  | error e =>
      rw [hresult] at hloaded
      exact absurd hloaded Bool.false_ne_true
  | ok result =>
      rw [hresult] at hloaded
      obtain ⟨state, rfl⟩ := Option.isSome_iff_exists.mp hloaded
      obtain ⟨pages, hlisted, -, hsorted, -⟩ := hpages _ state (fun _ => 1) (hvalid sameNameRun)
        hresult (fun _ => ⟨le_refl 1, by decide⟩) 3 hlength
      exact ⟨pages, hlisted, hsorted⟩

end Pages

end Store
end MyVault
