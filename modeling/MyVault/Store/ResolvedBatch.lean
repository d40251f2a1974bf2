import MyVault.Store.BatchCursor
import MyVault.Store.RemoteBase

/-!
# What a transfer batch has resolved

`begin_transfer_change_batch` takes a page of changes together with the downloads for it.
`validate_resolved_transfer_changes` compares every change with the rows of
`remote_entries`: a path that another row has is refused.  It does not compare the changes
of the page with each other, so two new entries of one path pass, and so do their two
downloads (`two_downloads_of_one_path`).  Everything else holds: the downloads are those the
changes call for, and each says what its change says.  The paths stay apart exactly if the
upserts of the page have paths of their own (`batch_keeps_paths_apart_iff`).

## How the argument goes

The two loops of the validation are read off one by one: `PageChecked` is what is known of the
changes after the first, and `SuppliedChecked` of the downloads after the second.  With the
comparison of the two lists of ids at the end they make `BatchChecked`, which is all that a call
which succeeds has checked, and the rows it writes are those of the page.

A page changes no path of a row that is there, so two rows that share a path afterwards are both
of the page.  Hence `PathsApart` of its upserts decides, and it is a condition on the page alone.
The downloads follow the upserts, and `Resolves` says so for their targets too.
-/

namespace MyVault
namespace Store

open Check Program

/-! ## The changes of a page -/

/-- No two files share a path. -/
def PathsApart (entries : List RemoteEntry) : Prop :=
  ∀ a ∈ entries, ∀ b ∈ entries, a.path = b.path → a.fileId = b.fileId

instance {entries : List RemoteEntry} : Decidable (PathsApart entries) := by
  unfold PathsApart
  infer_instance

/-- The entry a change writes. -/
def RemoteChange.upserted : RemoteChange → Option RemoteEntry
  | .upsert entry => some entry
  | .removed _ => none

/-- The entries a page writes. -/
def upserts (changes : List RemoteChange) : List RemoteEntry :=
  changes.filterMap RemoteChange.upserted

/-- A file that is new, or whose revision or hash is another than that of the row. -/
def NeedsDownload (db : Database) (entry : RemoteEntry) : Prop :=
  entry.kind = .file ∧ ∀ previous ∈ db.entries, previous.fileId = entry.fileId →
    previous.remoteRevision ≠ entry.remoteRevision ∨ previous.contentHash ≠ entry.contentHash

/-- The download says what the change says. -/
structure Fetches (transfer : TransferRecord) (entry : RemoteEntry) : Prop where
  fileId : transfer.remoteFileId = some entry.fileId
  path : transfer.portablePath = entry.path
  parent : transfer.remoteParentId = entry.parentId
  revision : transfer.expectedRemoteRevision = some entry.remoteRevision
  hash : ∀ hash ∈ entry.contentHash, hash.algorithm = .sha256 → hash.hex = transfer.sha256

/-- What a batch that has begun is to have resolved. -/
structure Resolves (db db' : Database) (changes : List RemoteChange)
    (downloads : List TransferRecord) : Prop where
  rows : PathsApart db'.entries
  targets : downloads.Pairwise fun a b => a.portablePath ≠ b.portablePath
  once : downloads.Pairwise fun a b => a.remoteFileId ≠ b.remoteFileId
  needed : ∀ entry ∈ upserts changes, NeedsDownload db entry →
    ∃ transfer ∈ downloads, Fetches transfer entry
  fetched : ∀ transfer ∈ downloads, ∃ entry ∈ upserts changes,
    NeedsDownload db entry ∧ Fetches transfer entry
  registered : ∀ transfer ∈ downloads, ∃ row,
    db'.transfers.lookup transfer.operationId = some row ∧ row.sameRegistration transfer = true

section Validation

variable {u : Unicode} {db : Database} {changes : List RemoteChange}
  {downloads : List TransferRecord}

theorem mem_upserts {entry : RemoteEntry} :
    entry ∈ upserts changes ↔ .upsert entry ∈ changes := by
  rw [upserts, List.mem_filterMap]
  constructor
  · rintro ⟨change, hchange, hentry⟩
    cases change with
    | upsert other =>
        obtain rfl := Option.some.inj hentry
        exact hchange
    | removed fileId => cases hentry
  · exact fun h => ⟨_, h, rfl⟩

/-- What the checks of one change say of the rows. -/
structure ChangeChecked (db : Database) (entry : RemoteEntry) : Prop where
  stays : ∀ previous ∈ db.entries, previous.fileId = entry.fileId → previous.path = entry.path
  free : ∀ other ∈ db.entries, other.path = entry.path → other.fileId = entry.fileId

/-- The page is a page of upserts, of one id each, and the ids that are required are those of
the entries that need a download. -/
structure PageChecked (db : Database) (seen : List String) (changes : List RemoteChange)
    (required : List String) : Prop where
  upsertsOnly : changes = (upserts changes).map RemoteChange.upsert
  nodup : ((upserts changes).map (·.fileId)).Nodup
  unseen : ∀ entry ∈ upserts changes, entry.fileId ∉ seen
  checked : ∀ entry ∈ upserts changes, ChangeChecked db entry
  required : ∀ fileId, fileId ∈ required ↔
    ∃ entry ∈ upserts changes, entry.fileId = fileId ∧ NeedsDownload db entry

/-- The row of a file, without its base columns. -/
theorem loadRemoteEntry_eq_ok {fileId : String} {existing : Option RemoteEntry}
    (h : loadRemoteEntry u db fileId = .ok existing) :
    ∀ previous, previous ∈ existing ↔ previous ∈ db.entries ∧ previous.fileId = fileId := by
  rw [loadRemoteEntry, seq_eq_ok, Except.ok.injEq] at h
  obtain ⟨-, rfl⟩ := h
  intro previous
  rw [Option.mem_def, Option.map_eq_some_iff, Database.entries, List.mem_map]
  constructor
  · rintro ⟨row, hrow, rfl⟩
    obtain ⟨hmem, hid⟩ := Table.lookup_eq_some_iff.mp hrow
    exact ⟨⟨row, hmem, rfl⟩, hid⟩
  · rintro ⟨⟨row, hmem, rfl⟩, hid⟩
    exact ⟨row, Table.lookup_eq_some_iff.mpr ⟨hmem, hid⟩, rfl⟩

section Change

variable {entry : RemoteEntry} {existing : Option RemoteEntry}
  (hprevious : ∀ previous, previous ∈ existing ↔
    previous ∈ db.entries ∧ previous.fileId = entry.fileId)
include hprevious

theorem changeChecked
    (hstays : ¬ (existing.any fun previous => previous.path ≠ entry.path ∨
      previous.parentId ≠ entry.parentId ∨ previous.kind ≠ entry.kind) = true)
    (hfree : ¬ (db.remoteEntries.rows.any fun row =>
      row.entry.path = entry.path ∧ row.entry.fileId ≠ entry.fileId) = true) :
    ChangeChecked db entry := by
  refine ⟨fun previous hmem hid => ?_, fun owner howner hpath => ?_⟩
  · by_contra hne
    refine hstays ((Option.any_eq_true _ _).mpr ⟨previous, ?_, decide_eq_true (Or.inl hne)⟩)
    exact (hprevious previous).mpr ⟨hmem, hid⟩
  · by_contra hne
    obtain ⟨row, hrow, rfl⟩ := List.mem_map.mp howner
    exact hfree (List.any_eq_true.mpr ⟨row, hrow, decide_eq_true ⟨hpath, hne⟩⟩)

theorem needsDownload_iff : (entry.kind = .file ∧ (existing.all fun previous =>
    previous.remoteRevision ≠ entry.remoteRevision ∨
      previous.contentHash ≠ entry.contentHash) = true) ↔ NeedsDownload db entry := by
  rw [NeedsDownload, Option.all_eq_true]
  simp only [← Option.mem_def, hprevious, decide_eq_true_eq, and_imp]

end Change

theorem pageChecked_of_required {seen required : List String}
    (h : requiredDownloads u db seen changes = .ok required) :
    PageChecked db seen changes required := by
  induction changes generalizing seen required with
  | nil =>
      rw [requiredDownloads, Except.ok.injEq] at h
      subst h
      exact ⟨rfl, List.nodup_nil, nofun, nofun, fun _ => by simp [upserts]⟩
  | cons change changes ih =>
      cases change with
      | removed fileId => cases h
      | upsert entry =>
          rw [requiredDownloads, seq_eq_ok, reject_eq_ok, bind_eq_ok] at h
          obtain ⟨hunseen, existing, hexisting, h⟩ := h
          rw [seq_eq_ok, reject_eq_ok, seq_eq_ok, reject_eq_ok, bind_eq_ok] at h
          obtain ⟨hstays, hfree, rest, hrest, h⟩ := h
          have hprevious := loadRemoteEntry_eq_ok hexisting
          obtain ⟨honly, hnodup, hrestUnseen, hchecked, hrequired⟩ := ih hrest
          have hlisted : upserts (.upsert entry :: changes) = entry :: upserts changes := rfl
          refine ⟨?_, ?_, ?_, ?_, fun fileId => ?_⟩
          all_goals rw [hlisted]
          · rw [List.map_cons, ← honly]
          · rw [List.map_cons, List.nodup_cons, List.mem_map]
            refine ⟨?_, hnodup⟩
            rintro ⟨later, hlater, hid⟩
            exact hrestUnseen later hlater (hid ▸ List.mem_cons_self)
          · intro other hother
            rcases List.mem_cons.mp hother with rfl | hother
            · exact hunseen
            · exact fun hmem => hrestUnseen other hother (List.mem_cons_of_mem _ hmem)
          · intro other hother
            rcases List.mem_cons.mp hother with rfl | hother
            · exact changeChecked hprevious hstays hfree
            · exact hchecked other hother
          · simp only [List.mem_cons, exists_eq_or_imp]
            rw [← hrequired fileId, ← needsDownload_iff hprevious, ← Except.ok.inj h]
            split
            · rename_i hneeds
              rw [List.mem_cons, eq_comm (a := fileId), and_iff_left hneeds]
            · rename_i hneeds
              rw [eq_false hneeds, and_false, false_or]

/-- The downloads that are supplied are of one id each, and each says what the upsert of its
id says. -/
structure SuppliedChecked (changes : List RemoteChange) (seen : List String)
    (downloads : List TransferRecord) (supplied : List String) : Prop where
  once : downloads.Pairwise fun a b => a.remoteFileId ≠ b.remoteFileId
  unseen : ∀ transfer ∈ downloads, ∀ fileId ∈ seen, transfer.remoteFileId ≠ some fileId
  fetched : ∀ transfer ∈ downloads, ∃ entry ∈ upserts changes, Fetches transfer entry
  supplied : ∀ fileId, fileId ∈ supplied ↔
    fileId ∈ seen ∨ ∃ transfer ∈ downloads, transfer.remoteFileId = some fileId

theorem mem_of_findSome_upsertOf {fileId : String} {entry : RemoteEntry}
    (h : changes.findSome? (RemoteChange.upsertOf fileId) = some entry) :
    entry ∈ upserts changes ∧ entry.fileId = fileId := by
  obtain ⟨change, hchange, hentry⟩ := List.exists_of_findSome?_eq_some h
  cases change with
  | removed other => cases hentry
  | upsert other =>
      rw [RemoteChange.upsertOf] at hentry
      split at hentry
      · rename_i hid
        obtain rfl := Option.some.inj hentry
        exact ⟨mem_upserts.mpr hchange, hid⟩
      · cases hentry

theorem suppliedChecked_of_supplied {seen supplied : List String}
    (h : suppliedDownloads changes seen downloads = .ok supplied) :
    SuppliedChecked changes seen downloads supplied := by
  induction downloads generalizing seen with
  | nil =>
      rw [suppliedDownloads, Except.ok.injEq] at h
      subst h
      exact ⟨.nil, List.forall_mem_nil _, List.forall_mem_nil _, fun _ => by simp⟩
  | cons transfer downloads ih =>
      rw [suppliedDownloads] at h
      split at h
      · cases h
      rename_i fileId hfileId
      rw [seq_eq_ok, reject_eq_ok] at h
      obtain ⟨hunseen, h⟩ := h
      split at h
      · cases h
      rename_i entry hentry
      rw [seq_eq_ok, reject_eq_ok] at h
      obtain ⟨hmatch, h⟩ := h
      simp only [not_or, Decidable.not_not, Bool.not_eq_true, Option.any_eq_false,
        decide_eq_false_iff_not, not_and] at hmatch
      obtain ⟨hkind, hpath, hparent, hrevision, hhash⟩ := hmatch
      obtain ⟨hmem, hid⟩ := mem_of_findSome_upsertOf hentry
      obtain ⟨honce, hlater, hfetched, hsupplied⟩ := ih h
      have hfetches : Fetches transfer entry :=
        ⟨hfileId.trans (congrArg some hid.symm), hpath, hparent, hrevision,
          fun hash hmem halgorithm => hhash hash hmem halgorithm⟩
      refine ⟨List.pairwise_cons.mpr ⟨fun other hother => ?_, honce⟩, ?_, ?_, fun other => ?_⟩
      · rw [hfileId]
        exact (hlater other hother fileId List.mem_cons_self).symm
      · intro other hother seenId hseen
        rcases List.mem_cons.mp hother with rfl | hother
        · rw [hfileId, ne_eq, Option.some.injEq]
          exact fun heq => hunseen (heq ▸ hseen)
        · exact hlater other hother seenId (List.mem_cons_of_mem _ hseen)
      · exact List.forall_mem_cons.mpr ⟨⟨entry, hmem, hfetches⟩, hfetched⟩
      · rw [hsupplied other, List.mem_cons]
        simp only [List.mem_cons, exists_eq_or_imp, hfileId, Option.some.injEq]
        rw [or_assoc, or_left_comm, eq_comm]

/-- What a batch has checked before it writes. -/
structure BatchChecked (db : Database) (changes : List RemoteChange)
    (downloads : List TransferRecord) (required supplied : List String) : Prop where
  page : PageChecked db [] changes required
  downloads : SuppliedChecked changes [] downloads supplied
  same : ∀ fileId, fileId ∈ supplied ↔ fileId ∈ required

theorem batchChecked_of_validate {v : Unit}
    (h : validateResolvedTransferChanges u db changes downloads = .ok v) :
    ∃ required supplied, BatchChecked db changes downloads required supplied := by
  rw [validateResolvedTransferChanges, bind_eq_ok] at h
  obtain ⟨required, hrequired, h⟩ := h
  obtain ⟨supplied, hsupplied, h⟩ := bind_eq_ok.mp h
  cases v
  simp only [reject_eq_ok, Bool.not_eq_true', Bool.not_eq_false, Bool.and_eq_true,
    List.all_eq_true, List.contains_iff_mem] at h
  exact ⟨required, supplied, pageChecked_of_required hrequired,
    suppliedChecked_of_supplied hsupplied, fun fileId => ⟨h.1 fileId, h.2 fileId⟩⟩

namespace BatchChecked

variable {required supplied : List String} (h : BatchChecked db changes downloads required supplied)
include h

/-- The upserts of a page are of one id each. -/
theorem upsert_unique {a b : RemoteEntry} (ha : a ∈ upserts changes) (hb : b ∈ upserts changes)
    (hid : a.fileId = b.fileId) : a = b :=
  List.inj_on_of_nodup_map h.page.nodup ha hb hid

theorem needed {entry : RemoteEntry} (hentry : entry ∈ upserts changes)
    (hneeds : NeedsDownload db entry) : ∃ transfer ∈ downloads, Fetches transfer entry := by
  have hrequired : entry.fileId ∈ required :=
    (h.page.required _).mpr ⟨entry, hentry, rfl, hneeds⟩
  rcases (h.downloads.supplied _).mp ((h.same _).mpr hrequired) with hnil | ⟨transfer, hmem, hid⟩
  · cases hnil
  · obtain ⟨other, hother, hfetches⟩ := h.downloads.fetched transfer hmem
    have hsame : other.fileId = entry.fileId := Option.some.inj (hfetches.fileId.symm.trans hid)
    exact ⟨transfer, hmem, h.upsert_unique hother hentry hsame ▸ hfetches⟩

theorem fetched {transfer : TransferRecord} (hmem : transfer ∈ downloads) :
    ∃ entry ∈ upserts changes, NeedsDownload db entry ∧ Fetches transfer entry := by
  obtain ⟨entry, hentry, hfetches⟩ := h.downloads.fetched transfer hmem
  have hsupplied : entry.fileId ∈ supplied :=
    (h.downloads.supplied _).mpr (Or.inr ⟨transfer, hmem, hfetches.fileId⟩)
  obtain ⟨other, hother, hid, hneeds⟩ := (h.page.required _).mp ((h.same _).mp hsupplied)
  exact ⟨entry, hentry, h.upsert_unique hother hentry hid ▸ hneeds, hfetches⟩

/-- Downloads of different paths, if the upserts have paths of their own. -/
theorem targets (hapart : PathsApart (upserts changes)) :
    downloads.Pairwise fun a b => a.portablePath ≠ b.portablePath := by
  refine h.downloads.once.imp_of_mem fun {a b} ha hb hne hpath => hne ?_
  obtain ⟨first, hfirst, hfetchesFirst⟩ := h.downloads.fetched a ha
  obtain ⟨second, hsecond, hfetchesSecond⟩ := h.downloads.fetched b hb
  have hid : first.fileId = second.fileId := hapart first hfirst second hsecond
    (hfetchesFirst.path.symm.trans (hpath.trans hfetchesSecond.path))
  rw [hfetchesFirst.fileId, hfetchesSecond.fileId, hid]

/-- The rows keep their paths apart exactly if the upserts have paths of their own: against
the rows they were checked. -/
theorem rows_iff (hbefore : PathsApart db.entries) :
    PathsApart (((upserts changes).foldl upsertRow db.remoteEntries).rows.map (·.entry)) ↔
      PathsApart (upserts changes) := by
  constructor
  · intro hafter a ha b hb
    exact hafter a ((mem_entries_listed h.page.nodup).mpr (Or.inl ha))
      b ((mem_entries_listed h.page.nodup).mpr (Or.inl hb))
  · intro hapart a ha b hb hpath
    rcases (mem_entries_listed h.page.nodup).mp ha with ha | ⟨ha, -⟩
    · rcases (mem_entries_listed h.page.nodup).mp hb with hb | ⟨hb, -⟩
      · exact hapart a ha b hb hpath
      · exact ((h.page.checked a ha).free b hb hpath.symm).symm
    · rcases (mem_entries_listed h.page.nodup).mp hb with hb | ⟨hb, -⟩
      · exact (h.page.checked b hb).free a ha hpath
      · exact hbefore a ha b hb hpath

end BatchChecked

end Validation

/-! ## The call -/

section Call

variable {u : Unicode} {vaultId : Uuid} {db db' : Database}

theorem sameRegistration_refl (transfer : TransferRecord) :
    transfer.sameRegistration transfer = true := by
  simp [TransferRecord.sameRegistration]

theorem lookup_of_insertTransfer {transfer : TransferRecord} {v : Unit}
    (h : exec (insertTransfer transfer) db = (.ok v, db')) :
    db'.transfers.lookup transfer.operationId = some transfer := by
  simp only [insertTransfer, exec_bind_ok, exec_lift_ok, exec_read_ok, exec_require_ok,
    exec_the_ok, exec_write_ok, exists_and_left, exists_eq_left', exists_const, and_assoc,
    id] at h
  obtain ⟨_, -, _, -, _, -, _, -, -, table, htable, rfl⟩ := h
  exact (Table.lookup_of_insert htable transfer.operationId).trans (if_pos rfl)

theorem registered_of_declareDownload {batchId : Uuid} {transfer : TransferRecord} {v : Unit}
    (h : exec (declareDownload u batchId transfer) db = (.ok v, db')) :
    ∃ row, db'.transfers.lookup transfer.operationId = some row ∧
      row.sameRegistration transfer = true := by
  simp only [declareDownload, registerTransferInTransaction, exec_bind_ok, exec_loadTransfer_ok,
    exists_and_left, exists_eq_left', and_assoc] at h
  obtain ⟨-, _, mid, hregister, hdeclare⟩ := h
  have hwrites : OnlyWrites [.declaredMutations, .batchProgress] mid db' :=
    Keeps.of_exec inferInstance hdeclare
  have htransfers : db'.transfers = mid.transfers := hwrites .transfers (by decide)
  rw [htransfers]
  cases hexisting : db.transfers.lookup transfer.operationId with
  | some existing =>
      rw [hexisting, registerInBatch, exec_reject_ok, not_or, Bool.not_eq_false] at hregister
      rw [← hregister.2]
      exact ⟨existing, hexisting, hregister.1.1⟩
  | none =>
      simp only [hexisting, registerInBatch, transferMarkerExists, exec_bind_ok, exec_read_ok,
        exec_reject_ok, exists_and_left, exists_eq_left', exists_const, and_assoc] at hregister
      exact ⟨transfer, lookup_of_insertTransfer hregister.2, sameRegistration_refl transfer⟩

/-- After the loop every download is there, and none has been changed by a later one. -/
theorem registered_of_forM {batchId : Uuid} {downloads : List TransferRecord} {v : PUnit}
    (h : exec (downloads.forM (declareDownload u batchId)) db = (.ok v, db')) :
    ∀ transfer ∈ downloads, ∃ row, db'.transfers.lookup transfer.operationId = some row ∧
      row.sameRegistration transfer = true := by
  induction downloads generalizing db with
  | nil => exact List.forall_mem_nil _
  | cons first rest ih =>
      obtain ⟨_, mid, hfirst, hrest⟩ := exec_forM_cons_ok.mp h
      refine List.forall_mem_cons.mpr ⟨?_, ih hrest⟩
      obtain ⟨row, hrow, hsame⟩ := registered_of_declareDownload hfirst
      refine ⟨row, ?_, hsame⟩
      have hinserts : Inserts rest mid db' first.operationId := inserts_of_forM hrest
      rcases hinserts with hkept | ⟨_, -, hnone, -⟩
      · exact (congrArg Prod.fst hkept).trans hrow
      · rw [hrow] at hnone
        cases hnone

theorem forM_upsertChange (entries : List RemoteEntry) :
    (entries.map RemoteChange.upsert).forM (upsertChange u) =
      entries.forM (upsertRemoteEntry u) := by
  induction entries with
  | nil => rfl
  | cons entry rest ih =>
      show (upsertRemoteEntry u entry >>= fun _ =>
        (rest.map RemoteChange.upsert).forM (upsertChange u)) = _
      rw [ih]
      rfl

/-- What a call that succeeds has checked and written. -/
theorem batch_of_exec {batchId : Uuid} {expectedCursor nextCursor : String}
    {changes : List RemoteChange} {downloads : List TransferRecord} {v : Unit}
    (h : exec (beginTransferChangeBatch u vaultId batchId expectedCursor nextCursor changes
      downloads) db = (.ok v, db')) :
    (∃ required supplied, BatchChecked db changes downloads required supplied) ∧
      db'.remoteEntries = (upserts changes).foldl upsertRow db.remoteEntries ∧
      ∀ transfer ∈ downloads, ∃ row, db'.transfers.lookup transfer.operationId = some row ∧
        row.sameRegistration transfer = true := by
  simp only [beginTransferChangeBatch, exec_bind_ok, exec_lift_ok, exec_reject_ok,
    exec_transaction_ok, exec_read_ok, id, exists_and_left, exists_eq_left', exists_const,
    and_assoc] at h
  obtain ⟨-, _, -, _, -, -, _, -, _, -, _, mid, hcursor, _, mid', hload, -, _, hvalidate, _, db₁,
    hinsert, _, db₂, hchanges, hloop⟩ := h
  have hkeeps : Keeps Eq (requireCursor vaultId expectedCursor) := inferInstance
  obtain rfl := hkeeps.of_exec hcursor
  have hkeeps' : Keeps Eq loadChangeBatch := inferInstance
  obtain rfl := hkeeps'.of_exec hload
  obtain ⟨required, supplied, hchecked⟩ := batchChecked_of_validate hvalidate
  refine ⟨⟨required, supplied, hchecked⟩, ?_, registered_of_forM hloop⟩
  have finsert : OnlyWrites [.changeBatch] db db₁ := Keeps.of_exec inferInstance hinsert
  have floop : OnlyWrites [.declaredMutations, .batchProgress, .transfers] db₂ db' :=
    Keeps.of_exec inferInstance hloop
  have hentries : exec ((upserts changes).forM (upsertRemoteEntry u)) db₁ = (.ok (), db₂) := by
    rw [← forM_upsertChange, ← hchecked.page.upsertsOnly]
    exact hchanges
  have hbefore : db₁.remoteEntries = db.remoteEntries := finsert .remoteEntries (by decide)
  have hafter : db'.remoteEntries = db₂.remoteEntries := floop .remoteEntries (by decide)
  rw [hafter, exec_forM_upsert hentries, hbefore]

set_option synthInstance.maxSize 100000 in
theorem beginTransferChangeBatch_atomic {batchId : Uuid} {expectedCursor nextCursor : String}
    {changes : List RemoteChange} {downloads : List TransferRecord} :
    Atomic (beginTransferChangeBatch u vaultId batchId expectedCursor nextCursor changes
      downloads) := by
  unfold beginTransferChangeBatch
  infer_instance

variable (u vaultId)

/-- **A batch keeps the paths apart exactly if its upserts have paths of their own.**  All
else it resolves, whatever the page, and a call that fails changes nothing. -/
theorem batch_keeps_paths_apart_iff (batchId : Uuid) (expectedCursor nextCursor : String)
    (changes : List RemoteChange) (downloads : List TransferRecord) (db : Database)
    (hpaths : PathsApart db.entries) :
    (∀ v db', exec (beginTransferChangeBatch u vaultId batchId expectedCursor nextCursor changes
        downloads) db = (.ok v, db') →
      (Resolves db db' changes downloads ↔ PathsApart (upserts changes))) ∧
    ∀ e db', exec (beginTransferChangeBatch u vaultId batchId expectedCursor nextCursor changes
      downloads) db = (.error e, db') → db' = db := by
  constructor
  · intro v db' h
    obtain ⟨⟨required, supplied, hchecked⟩, hentries, hregistered⟩ := batch_of_exec h
    have hrows : PathsApart db'.entries ↔ PathsApart (upserts changes) := by
      rw [Database.entries, hentries]
      exact hchecked.rows_iff hpaths
    refine ⟨fun hresolves => hrows.mp hresolves.rows, fun hapart => ?_⟩
    exact ⟨hrows.mpr hapart, hchecked.targets hapart, hchecked.downloads.once,
      fun _ hentry => hchecked.needed hentry, fun _ => hchecked.fetched, hregistered⟩
  · exact fun e db' h => beginTransferChangeBatch_atomic.eq_of_error db db' e h

end Call

/-! ## Two entries of one path -/

/-- The operation of a download. -/
def downloadId (byte : UInt8) : Uuid :=
  ⟨[byte, 1, 1, 1, 1, 1, 0x41, 1, 0x81, 1, 1, 1, 1, 1, 1, 1], rfl⟩

/-- The download of a note in the root. -/
def noteDownload (byte : UInt8) (fileId name : String) : TransferRecord :=
  { noteUpload with
    operationId := downloadId byte
    direction := .download
    portablePath := name
    displayName := name
    remoteFileId := some fileId
    expectedLocalRevision := none
    expectedRemoteRevision := some "revision"
    operationMarker := fileId
    stageReference := none }

/-- A ready vault begins a batch with two new notes, the second of the given name. -/
def twoNotes (second : String) : StoreProgram Unit :=
  beginTransferChangeBatch Unicode.ascii sampleVaultId sampleVaultId "durable-1" "durable-2"
    [.upsert (sampleEntry "x" "remote-root" "note.md" .file),
      .upsert (sampleEntry "y" "remote-root" second .file)]
    [noteDownload 1 "x" "note.md", noteDownload 2 "y" second]

/-- Two new notes of one name are accepted, and so are their two downloads. -/
theorem two_downloads_of_one_path :
    PathsApart (runStore Unicode.ascii constantDigest sampleVaultId readyRun).entries ∧
    (exec (twoNotes "note.md")
      (runStore Unicode.ascii constantDigest sampleVaultId readyRun)).1 = .ok () ∧
    ¬ Resolves (runStore Unicode.ascii constantDigest sampleVaultId readyRun)
      (exec (twoNotes "note.md") (runStore Unicode.ascii constantDigest sampleVaultId readyRun)).2
      [.upsert (sampleEntry "x" "remote-root" "note.md" .file),
        .upsert (sampleEntry "y" "remote-root" "note.md" .file)]
      [noteDownload 1 "x" "note.md", noteDownload 2 "y" "note.md"] := by
  refine ⟨by decide +kernel, by decide +kernel, fun h => absurd h.rows ?_⟩
  decide +kernel

/-- Two new notes of two names. -/
theorem two_downloads_of_two_paths :
    Resolves (runStore Unicode.ascii constantDigest sampleVaultId readyRun)
      (exec (twoNotes "other.md") (runStore Unicode.ascii constantDigest sampleVaultId readyRun)).2
      [.upsert (sampleEntry "x" "remote-root" "note.md" .file),
        .upsert (sampleEntry "y" "remote-root" "other.md" .file)]
      [noteDownload 1 "x" "note.md", noteDownload 2 "y" "other.md"] := by
  have hbefore : PathsApart
      (runStore Unicode.ascii constantDigest sampleVaultId readyRun).entries := by decide +kernel
  have hok : (exec (twoNotes "other.md")
      (runStore Unicode.ascii constantDigest sampleVaultId readyRun)).1 = .ok () := by
    decide +kernel
  generalize runStore Unicode.ascii constantDigest sampleVaultId readyRun = db at hbefore hok ⊢
  obtain ⟨hsucceeds, -⟩ := batch_keeps_paths_apart_iff Unicode.ascii sampleVaultId sampleVaultId
    "durable-1" "durable-2" [.upsert (sampleEntry "x" "remote-root" "note.md" .file),
      .upsert (sampleEntry "y" "remote-root" "other.md" .file)]
    [noteDownload 1 "x" "note.md", noteDownload 2 "y" "other.md"] _ hbefore
  have hapart : PathsApart (upserts [.upsert (sampleEntry "x" "remote-root" "note.md" .file),
      .upsert (sampleEntry "y" "remote-root" "other.md" .file)]) := by decide +kernel
  exact (hsucceeds () _ (Prod.ext hok rfl)).mpr hapart

end Store
end MyVault
