import MyVault.Store.Footprint
import Mathlib.Data.List.Sort

/-!
# Binding, the initial scan and the changes drain

`bind_remote_root`, `begin_initial_scan`, `apply_scan_page`, `apply_changes_page`
and `mark_rescan_required` of `store.rs`.
-/

namespace MyVault
namespace Store

open Check Program

/-! ## Binding -/

/-- The state of a binding before its first scan. -/
def newVaultState (vaultId : Uuid) (binding : VerifiedRemoteBinding) (nowUnixMs : ℕ) :
    VaultSyncState where
  vaultId := vaultId
  accountId := some binding.accountId
  remoteRootId := binding.remoteRootId
  phase := .needStartToken
  startToken := none
  scanPageToken := none
  changesPageToken := none
  durableCursor := none
  rescanRequired := false
  updatedAtUnixMs := nowUnixMs

/-- A binding of schema version 1 has no account yet. -/
def confirmLegacyBinding (binding : VerifiedRemoteBinding) (nowUnixMs : ℕ) :
    StoreProgram BindOutcome := do
  updateVaultState fun state =>
    if state.remoteRootId = binding.remoteRootId ∧ state.accountId = none then
      { state with
        accountId := some binding.accountId
        phase := .needStartToken
        startToken := none
        scanPageToken := none
        changesPageToken := none
        durableCursor := none
        rescanRequired := true
        updatedAtUnixMs := nowUnixMs }
    else state
  write fun db => { db with scanFrontier := .empty }
  pure .legacyBindingConfirmed

/-- A binding over a state that may be there. -/
def bindOver (vaultId : Uuid) (binding : VerifiedRemoteBinding) (nowUnixMs : ℕ) :
    Option VaultSyncState → StoreProgram BindOutcome
  | some state => do
      reject (state.remoteRootId ≠ binding.remoteRootId) .bindingCollision
      if state.accountId.isSome then
        reject (state.accountId ≠ some binding.accountId) .bindingCollision
        pure .alreadyBound
      else confirmLegacyBinding binding nowUnixMs
  | none => do
      write fun db => { db with vaultState := some (newVaultState vaultId binding nowUnixMs) }
      pure .created

/-- `bind_remote_root`: a vault is bound to one root of one account. -/
def bindRemoteRoot (vaultId : Uuid) (binding : VerifiedRemoteBinding) (nowUnixMs : ℕ) :
    StoreProgram BindOutcome := do
  lift (u64ToI64 nowUnixMs)
  transaction do
    let state ← loadState vaultId
    bindOver vaultId binding nowUnixMs state

/-! ## Remote entries -/

/-- `INSERT … ON CONFLICT(file_id) DO UPDATE`; the base columns stay. -/
def upsertRow (table : Table fun row : RemoteEntryRow => row.entry.fileId) (entry : RemoteEntry) :
    Table fun row : RemoteEntryRow => row.entry.fileId :=
  (table.insert { entry, base := none }).getD <|
    table.update (fun row => row.entry.fileId = entry.fileId) (fun row => { row with entry })
      fun _ h => (of_decide_eq_true h).symm

/-- `upsert_remote_entry`. -/
def upsertRemoteEntry (u : Unicode) (entry : RemoteEntry) : StoreProgram Unit := do
  lift (entry.validate u)
  write fun db => { db with remoteEntries := upsertRow db.remoteEntries entry }

/-- `DELETE FROM remote_entries`. -/
def deleteRemoteEntry (fileId : String) : StoreProgram Unit :=
  write fun db =>
    { db with remoteEntries := db.remoteEntries.delete fun row => row.entry.fileId = fileId }

/-! ## The scan frontier -/

/-- `ORDER BY sequence LIMIT 1`. -/
def frontierHead (db : Database) : Option FrontierRow :=
  (db.scanFrontier.rows.insertionSort fun a b => a.sequence ≤ b.sequence).head?

/-- The folder that the scan is at. -/
def loadFrontierHead : StoreProgram (Option FrontierRow) := read frontierHead

/-- `INSERT INTO scan_frontier`; a folder is there once. -/
def insertFrontier (row : FrontierRow) : StoreProgram Unit := do
  let db ← read id
  require (∀ old ∈ db.scanFrontier.rows, old.folderId ≠ row.folderId) .database
  let table ← the (db.scanFrontier.insert row) .database
  write fun db => { db with scanFrontier := table }

/-- The path of a child below its folder. -/
def relativePath (folder child : String) : Option Text :=
  if folder = "" then some child.toList
  else (child.toList.dropPrefix? folder.toList).bind fun rest => rest.dropPrefix? ['/']

/-- The checks of one entry; `seen` are the identities of the entries before it. -/
def validateScanChild (u : Unicode) (db : Database) (remoteRootId : String)
    (current : FrontierRow) (seen : List String) (entry : RemoteEntry) : Except Error Unit := do
  entry.validate u
  reject (entry.parentId ≠ current.folderId ∨ entry.fileId ∈ seen) .invalidRemoteEntry
  reject ((relativePath current.portablePath entry.path).all fun relative =>
    relative == [] || relative.contains '/') .invalidRemoteEntry
  reject (entry.kind = .folder ∧ entry.fileId = remoteRootId) .invalidRemoteEntry
  reject (entry.kind = .folder ∧ (db.remoteEntries.lookup entry.fileId).isSome = true)
    .invalidRemoteEntry

/-- Every entry of the page is a child of the folder and is there once. -/
def validateScanPageChildren (u : Unicode) (db : Database) (remoteRootId : String)
    (current : FrontierRow) : List String → List RemoteEntry → Except Error Unit
  | _, [] => .ok ()
  | seen, entry :: entries => do
      validateScanChild u db remoteRootId current seen entry
      validateScanPageChildren u db remoteRootId current (entry.fileId :: seen) entries

/-- The loop over the folders of a page. -/
def enqueueFolders (current : FrontierRow) : List RemoteEntry → ℕ → ℕ → StoreProgram Unit
  | [], _, _ => pure ()
  | entry :: entries, nextSequence, frontierCount => do
      reject (entry.fileId = current.folderId) .invalidRemoteEntry
      let existing ← read fun db =>
        db.scanFrontier.rows.find? fun row => row.folderId = entry.fileId
      if existing.isSome then
        reject (existing.map (·.portablePath) ≠ some entry.path) .invalidRemoteEntry
        enqueueFolders current entries nextSequence frontierCount
      else
        reject (!fitsI64 (nextSequence + 1)) .invalidRemoteEntry
        reject (maxScanFrontierFolders < frontierCount + 1) .invalidRemoteEntry
        insertFrontier
          { sequence := nextSequence + 1
            folderId := entry.fileId
            portablePath := entry.path
            pageToken := none }
        enqueueFolders current entries (nextSequence + 1) (frontierCount + 1)

/-- The folders of the page are to be listed too. -/
def enqueueChildFolders (current : FrontierRow) (entries : List RemoteEntry) :
    StoreProgram Unit := do
  let rows ← read (·.scanFrontier.rows)
  enqueueFolders current (entries.filter fun entry => entry.kind = .folder)
    ((rows.map (·.sequence)).foldr max 0) rows.length

/-! ## The initial scan -/

/-- `begin_initial_scan`. -/
def beginInitialScan (vaultId : Uuid) (startToken : String) (nowUnixMs : ℕ) :
    StoreProgram Unit := do
  lift (validateRemoteToken startToken)
  lift (u64ToI64 nowUnixMs)
  transaction do
    let state ← requireState vaultId
    reject (state.phase ≠ .needStartToken) .invalidStateTransition
    reject (state.accountId = none) .bindingRequiresAccount
    write fun db => { db with remoteEntries := .empty }
    write fun db => { db with scanFrontier := .empty }
    insertFrontier
      { sequence := 1, folderId := state.remoteRootId, portablePath := "", pageToken := none }
    updateVaultState fun state =>
      { state with
        phase := .scanning
        startToken := some startToken
        scanPageToken := none
        changesPageToken := none
        durableCursor := none
        rescanRequired := false
        updatedAtUnixMs := nowUnixMs }

/-- The folder is done; the scan goes on with the next one or drains the changes. -/
def finishFolder (state : VaultSyncState) (nowUnixMs : ℕ) :
    Option FrontierRow → StoreProgram Unit
  | some next =>
      updateVaultState fun state =>
        { state with scanPageToken := next.pageToken, updatedAtUnixMs := nowUnixMs }
  | none => do
      let start ← the state.startToken .invalidStateTransition
      updateVaultState fun state =>
        { state with
          phase := .draining
          scanPageToken := none
          changesPageToken := some start
          updatedAtUnixMs := nowUnixMs }

/-- The scan goes on with the next page of the folder, or with the next folder. -/
def advanceScan (state : VaultSyncState) (current : FrontierRow) (nowUnixMs : ℕ) :
    Option String → StoreProgram Unit
  | some next => do
      write fun db =>
        { db with
          scanFrontier := db.scanFrontier.update (fun row => row.sequence = current.sequence)
            (fun row => { row with pageToken := some next }) fun _ _ => rfl }
      updateVaultState fun state =>
        { state with scanPageToken := some next, updatedAtUnixMs := nowUnixMs }
  | none => do
      write fun db =>
        { db with
          scanFrontier := db.scanFrontier.delete fun row => row.sequence = current.sequence }
      let next ← loadFrontierHead
      finishFolder state nowUnixMs next

/-- `apply_scan_page`. -/
def applyScanPage (u : Unicode) (vaultId : Uuid) (expectedPageToken : Option String)
    (page : ScanPage) (nowUnixMs : ℕ) : StoreProgram Unit := do
  lift (eachSome validateRemoteToken [expectedPageToken])
  lift (page.validate u)
  lift (u64ToI64 nowUnixMs)
  transaction do
    let state ← requireState vaultId
    reject (state.phase ≠ .scanning) .invalidStateTransition
    reject (state.scanPageToken ≠ expectedPageToken) .cursorMismatch
    let current ← loadFrontierHead
    let current ← the current .invalidSchema
    reject (current.pageToken ≠ expectedPageToken) .cursorMismatch
    let db ← read id
    lift (validateScanPageChildren u db state.remoteRootId current [] page.entries)
    page.entries.forM (upsertRemoteEntry u)
    enqueueChildFolders current page.entries
    advanceScan state current nowUnixMs page.nextPageToken

/-! ## The changes drain -/

/-- A change is applied to the entries. -/
def applyChange (u : Unicode) : RemoteChange → StoreProgram Unit
  | .upsert entry => upsertRemoteEntry u entry
  | .removed fileId => deleteRemoteEntry fileId

/-- The changes go on with the next page, or have come to an end. -/
def advanceDrain (page : ChangesPage) (nowUnixMs : ℕ) : Option String → StoreProgram Unit
  | some next =>
      updateVaultState fun state =>
        { state with changesPageToken := some next, updatedAtUnixMs := nowUnixMs }
  | none => do
      let durable ← the page.newStartPageToken .invalidRemoteEntry
      updateVaultState fun state =>
        { state with
          phase := .ready
          startToken := none
          scanPageToken := none
          changesPageToken := none
          durableCursor := some durable
          updatedAtUnixMs := nowUnixMs }

/-- `apply_changes_page`. -/
def applyChangesPage (u : Unicode) (vaultId : Uuid) (expectedCursor : String)
    (page : ChangesPage) (nowUnixMs : ℕ) : StoreProgram Unit := do
  lift (validateRemoteToken expectedCursor)
  lift (page.validate u)
  lift (u64ToI64 nowUnixMs)
  transaction do
    let state ← requireState vaultId
    reject (state.phase ≠ .draining) .invalidStateTransition
    reject (state.changesPageToken ≠ some expectedCursor) .cursorMismatch
    page.changes.forM (applyChange u)
    advanceDrain page nowUnixMs page.nextPageToken

/-- `mark_rescan_required`. -/
def markRescanRequired (vaultId : Uuid) (nowUnixMs : ℕ) : StoreProgram Unit := do
  lift (u64ToI64 nowUnixMs)
  transaction do
    let _ ← requireState vaultId
    write fun db => { db with scanFrontier := .empty }
    updateVaultState fun state =>
      { state with
        phase := .needStartToken
        startToken := none
        scanPageToken := none
        changesPageToken := none
        durableCursor := none
        rescanRequired := true
        updatedAtUnixMs := nowUnixMs }

/-! ## Footprints -/

section Footprints

variable {parts : List Part}

instance {u : Unicode} {entry : RemoteEntry} [Listed .remoteEntries parts] :
    Keeps (OnlyWrites parts) (upsertRemoteEntry u entry) := by
  unfold upsertRemoteEntry
  infer_instance

instance {row : FrontierRow} [Listed .scanFrontier parts] :
    Keeps (OnlyWrites parts) (insertFrontier row) := by
  unfold insertFrontier
  infer_instance

instance {R : Database → Database → Prop} [Std.Refl R] : Keeps R loadFrontierHead := by
  unfold loadFrontierHead
  infer_instance

instance bindRemoteRoot_onlyWrites {vaultId : Uuid} {binding : VerifiedRemoteBinding}
    {nowUnixMs : ℕ} :
    Keeps (OnlyWrites [.vaultState, .scanFrontier]) (bindRemoteRoot vaultId binding nowUnixMs) := by
  unfold bindRemoteRoot
  have hover : ∀ state, Keeps (OnlyWrites [.vaultState, .scanFrontier])
      (bindOver vaultId binding nowUnixMs state) := by
    intro state
    cases state <;> unfold bindOver <;> unfold confirmLegacyBinding <;> infer_instance
  infer_instance

set_option synthInstance.maxSize 100000 in
instance beginInitialScan_onlyWrites {vaultId : Uuid} {startToken : String} {nowUnixMs : ℕ} :
    Keeps (OnlyWrites [.vaultState, .remoteEntries, .scanFrontier])
      (beginInitialScan vaultId startToken nowUnixMs) := by
  unfold beginInitialScan
  infer_instance

set_option synthInstance.maxSize 100000 in
instance {current : FrontierRow} {entries : List RemoteEntry} [Listed .scanFrontier parts] :
    Keeps (OnlyWrites parts) (enqueueChildFolders current entries) := by
  have hloop : ∀ (folders : List RemoteEntry) (nextSequence frontierCount : ℕ),
      Keeps (OnlyWrites parts) (enqueueFolders current folders nextSequence frontierCount) := by
    intro folders
    induction folders with
    | nil =>
        intro nextSequence frontierCount
        unfold enqueueFolders
        infer_instance
    | cons entry folders ih =>
        intro nextSequence frontierCount
        unfold enqueueFolders
        infer_instance
  unfold enqueueChildFolders
  infer_instance

instance {state : VaultSyncState} {current : FrontierRow} {nowUnixMs : ℕ} {next : Option String}
    [Listed .vaultState parts] [Listed .scanFrontier parts] :
    Keeps (OnlyWrites parts) (advanceScan state current nowUnixMs next) := by
  have hfinish : ∀ next, Keeps (OnlyWrites parts) (finishFolder state nowUnixMs next) := by
    intro next
    cases next <;> unfold finishFolder <;> infer_instance
  cases next <;> unfold advanceScan <;> infer_instance

set_option synthInstance.maxSize 100000 in
instance applyScanPage_onlyWrites {u : Unicode} {vaultId : Uuid} {expectedPageToken : Option String}
    {page : ScanPage}
    {nowUnixMs : ℕ} : Keeps (OnlyWrites [.vaultState, .remoteEntries, .scanFrontier])
      (applyScanPage u vaultId expectedPageToken page nowUnixMs) := by
  unfold applyScanPage
  infer_instance

set_option synthInstance.maxSize 100000 in
instance applyChangesPage_onlyWrites {u : Unicode} {vaultId : Uuid} {expectedCursor : String}
    {page : ChangesPage}
    {nowUnixMs : ℕ} : Keeps (OnlyWrites [.vaultState, .remoteEntries])
      (applyChangesPage u vaultId expectedCursor page nowUnixMs) := by
  have hchange : ∀ change, Keeps (OnlyWrites [.vaultState, .remoteEntries])
      (applyChange u change) := by
    intro change
    cases change <;> unfold applyChange <;> try unfold deleteRemoteEntry
    all_goals infer_instance
  have hadvance : ∀ next, Keeps (OnlyWrites [.vaultState, .remoteEntries])
      (advanceDrain page nowUnixMs next) := by
    intro next
    cases next <;> unfold advanceDrain <;> infer_instance
  unfold applyChangesPage
  infer_instance

instance markRescanRequired_onlyWrites {vaultId : Uuid} {nowUnixMs : ℕ} :
    Keeps (OnlyWrites [.vaultState, .scanFrontier]) (markRescanRequired vaultId nowUnixMs) := by
  unfold markRescanRequired
  infer_instance

end Footprints

end Store
end MyVault
