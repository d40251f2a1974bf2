import MyVault.Library.InsertionMap
import MyVault.Library.Runs
import MyVault.Runtime.PreviewTrip

/-!
# The sync panel

`syncReducer` of `sync.ts`, the state of the panel that shows the Drive folders and the preview
of the remote tree, and the calls of `SyncPanel.tsx` that load the preview.

The panel keeps at most 2000 folders and 1000 entries, no file twice, and a selected folder is
one of those it shows (`Sound`).  From an unchanged store it shows the entries in the order of
the store, fifty more with every click, and stops at the end or at the thousandth
(`panel_shows_preview`).

## What the panel keeps

`SyncUiState.Sound` holds of every state that the reducer reaches, by any list of actions in any
order (`panel_run`); answers of an earlier session that arrive late are among them and change
nothing.  It is kept by each action for itself, and what an answer brings is cut to the room that
is left.

`Showing` is the state between two clicks as long as there is room: the first pages of the
preview, and a cursor that stands at the end of them.  `Full` is the state after the thousandth
entry, and `Shows` puts the two together.  The calls go through the cursor of
`Runtime.PreviewTrip`, so every entry with another after it has to fit.
-/

namespace MyVault
namespace Runtime

open Store

/-! ## The state -/

/-- The status that the panel shows. -/
structure SyncStatus where
  sessionId : String
  supported : Bool
  bindingAvailable : Bool
  configured : Bool
  connected : Bool
  bound : Bool
  phase : String
  rescanRequired : Bool
  active : ℕ
  pending : ℕ
  retryScheduled : ℕ
  authRequired : ℕ
  needsReconcile : ℕ
  completed : ℕ
  accountId : Option String
  rootId : Option String
  rootName : Option String
  deriving DecidableEq, Repr

/-- A folder that may be bound. -/
structure FolderCandidate where
  id : String
  name : String
  deriving DecidableEq, Repr

/-- A page of folders. -/
structure FolderPage where
  sessionId : String
  parentId : Option String
  folders : List FolderCandidate
  nextPageToken : Option String
  deriving DecidableEq, Repr

/-- What the panel waits for. -/
inductive SyncBusy where
  | status
  | connect
  | folders
  | bind
  | scan
  | preview
  | transfer
  | disconnect
  deriving DecidableEq, Repr

/-- The state of the panel. -/
structure SyncUiState where
  sessionId : String
  status : Option SyncStatus
  folders : List FolderCandidate
  folderParentId : Option String
  folderNextPageToken : Option String
  folderLimitReached : Bool
  selectedFolderId : Option String
  preview : List PreviewEntry
  previewNextAfter : Option String
  previewHasMore : Bool
  previewLimitReached : Bool
  busy : Option SyncBusy
  error : Option String
  deriving DecidableEq, Repr

/-- What is dispatched to `syncReducer`. -/
inductive SyncAction where
  | reset (sessionId : String)
  | busy (sessionId : String) (busy : Option SyncBusy)
  | status (sessionId : String) (status : SyncStatus) (keepBusy : Bool)
  | folders (sessionId : String) (page : FolderPage) (append : Bool)
  | selectFolder (sessionId folderId : String)
  | preview (sessionId : String) (page : PreviewPage) (append : Bool)
  | failure (sessionId message : String)
  | clearError (sessionId : String)

/-- The session an action is for. -/
def SyncAction.sessionId : SyncAction → String
  | .reset sessionId => sessionId
  | .busy sessionId _ => sessionId
  | .status sessionId _ _ => sessionId
  | .folders sessionId _ _ => sessionId
  | .selectFolder sessionId _ => sessionId
  | .preview sessionId _ _ => sessionId
  | .failure sessionId _ => sessionId
  | .clearError sessionId => sessionId

/-- The action begins a session. -/
def SyncAction.isReset : SyncAction → Bool
  | .reset _ => true
  | _ => false

/-- `MAX_ACCUMULATED_FOLDERS`. -/
def maxAccumulatedFolders : ℕ := 2000

/-- `MAX_ACCUMULATED_PREVIEW_ENTRIES`. -/
def maxAccumulatedPreviewEntries : ℕ := 1000

/-- The panel of a session that has just begun. -/
def initialSyncState (sessionId : String) : SyncUiState where
  sessionId := sessionId
  status := none
  folders := []
  folderParentId := none
  folderNextPageToken := none
  folderLimitReached := false
  selectedFolderId := none
  preview := []
  previewNextAfter := none
  previewHasMore := false
  previewLimitReached := false
  busy := some .status
  error := none

/-! ## The reducer -/

/-- `case "folders"`. -/
def foldersAction (state : SyncUiState) (page : FolderPage) (append : Bool) : SyncUiState :=
  let combined :=
    if append then mapValues FolderCandidate.id (state.folders ++ page.folders) else page.folders
  let folderLimitReached := decide (maxAccumulatedFolders < combined.length)
  { state with
    folders := combined.take maxAccumulatedFolders
    folderParentId := page.parentId
    folderNextPageToken := if folderLimitReached then none else page.nextPageToken
    folderLimitReached := folderLimitReached
    selectedFolderId := if append then state.selectedFolderId else none
    busy := none
    error := none }

/-- `case "preview"`. -/
def previewAction (state : SyncUiState) (page : PreviewPage) (append : Bool) : SyncUiState :=
  let combined := mapValues PreviewEntry.fileId
    (if append then state.preview ++ page.entries else page.entries)
  let previewLimitReached := decide (maxAccumulatedPreviewEntries < combined.length)
  { state with
    preview := combined.take maxAccumulatedPreviewEntries
    previewNextAfter := if previewLimitReached then none else page.nextAfter
    previewHasMore := if previewLimitReached then false else page.hasMore
    previewLimitReached := previewLimitReached
    busy := none
    error := none }

/-- The panel after an action; an action for another session changes nothing, unless it begins one.
-/
def syncReducer (state : SyncUiState) (action : SyncAction) : SyncUiState :=
  match action with
  | .reset sessionId => initialSyncState sessionId
  | .busy sessionId busy =>
      if sessionId ≠ state.sessionId then state else { state with busy := busy, error := none }
  | .status sessionId status keepBusy =>
      if sessionId ≠ state.sessionId then state
      else
        { state with
          status := some status
          busy := if keepBusy then state.busy else none
          error := none }
  | .folders sessionId page append =>
      if sessionId ≠ state.sessionId then state else foldersAction state page append
  | .selectFolder sessionId folderId =>
      if sessionId ≠ state.sessionId then state
      else if state.folders.any fun folder => decide (folder.id = folderId) then
        { state with selectedFolderId := some folderId, error := none }
      else state
  | .preview sessionId page append =>
      if sessionId ≠ state.sessionId then state else previewAction state page append
  | .failure sessionId message =>
      if sessionId ≠ state.sessionId then state
      else { state with busy := none, error := some message }
  | .clearError sessionId =>
      if sessionId ≠ state.sessionId then state else { state with error := none }

/-! ## What the panel keeps -/

/-- What holds of every state of the panel. -/
structure SyncUiState.Sound (state : SyncUiState) : Prop where
  preview_nodup : (state.preview.map PreviewEntry.fileId).Nodup
  preview_length : state.preview.length ≤ maxAccumulatedPreviewEntries
  preview_limit : state.previewLimitReached = true →
    state.preview.length = maxAccumulatedPreviewEntries ∧ state.previewHasMore = false ∧
      state.previewNextAfter = none
  folders_length : state.folders.length ≤ maxAccumulatedFolders
  folders_limit : state.folderLimitReached = true →
    state.folders.length = maxAccumulatedFolders ∧ state.folderNextPageToken = none
  selected : ∀ id ∈ state.selectedFolderId, id ∈ state.folders.map FolderCandidate.id

namespace SyncUiState.Sound

variable {state : SyncUiState}

theorem initial (sessionId : String) : (initialSyncState sessionId).Sound where
  preview_nodup := List.nodup_nil
  preview_length := Nat.zero_le _
  preview_limit h := absurd h Bool.false_ne_true
  folders_length := Nat.zero_le _
  folders_limit h := absurd h Bool.false_ne_true
  selected id hid := by cases hid

theorem folders (h : state.Sound) (page : FolderPage) (append : Bool) :
    (foldersAction state page append).Sound where
  preview_nodup := h.preview_nodup
  preview_length := h.preview_length
  preview_limit := h.preview_limit
  folders_length := List.length_take_le _ _
  folders_limit hlimit := by
    have hlength := of_decide_eq_true hlimit
    constructor
    · show (List.take _ _).length = _
      rw [List.length_take]
      exact Nat.min_eq_left hlength.le
    · exact if_pos hlimit
  selected id hid := by
    cases append with
    | false => cases hid
    | true => exact mem_keys_take_mapValues (h.selected id hid) h.folders_length

theorem preview (h : state.Sound) (page : PreviewPage) (append : Bool) :
    (previewAction state page append).Sound where
  preview_nodup := (nodup_keys_mapValues _).sublist ((List.take_sublist _ _).map _)
  preview_length := List.length_take_le _ _
  preview_limit hlimit := by
    have hlength := of_decide_eq_true hlimit
    refine ⟨?_, if_pos hlimit, if_pos hlimit⟩
    show (List.take _ _).length = _
    rw [List.length_take]
    exact Nat.min_eq_left hlength.le
  folders_length := h.folders_length
  folders_limit := h.folders_limit
  selected := h.selected

/-- Every action keeps it. -/
theorem step (h : state.Sound) (action : SyncAction) : (syncReducer state action).Sound := by
  cases action with
  | reset sessionId => exact initial sessionId
  | folders sessionId page append =>
      rw [syncReducer]
      split
      · exact h
      · exact h.folders page append
  | preview sessionId page append =>
      rw [syncReducer]
      split
      · exact h
      · exact h.preview page append
  | selectFolder sessionId folderId =>
      rw [syncReducer]
      split
      · exact h
      · split
        · rename_i hfolder
          obtain ⟨folder, hmem, hid⟩ := List.any_eq_true.mp hfolder
          refine { h with selected := fun id hselected => ?_ }
          cases hselected
          exact List.mem_map.mpr ⟨folder, hmem, of_decide_eq_true hid⟩
        · exact h
  | busy sessionId busy =>
      rw [syncReducer]
      split
      · exact h
      · exact { h with }
  | status sessionId status keepBusy =>
      rw [syncReducer]
      split
      · exact h
      · exact { h with }
  | failure sessionId message =>
      rw [syncReducer]
      split
      · exact h
      · exact { h with }
  | clearError sessionId =>
      rw [syncReducer]
      split
      · exact h
      · exact { h with }

end SyncUiState.Sound

/-- An action of another session changes nothing, unless it opens that session. -/
theorem syncReducer_of_foreign {state : SyncUiState} {action : SyncAction}
    (hreset : action.isReset = false) (hforeign : action.sessionId ≠ state.sessionId) :
    syncReducer state action = state := by
  cases action with
  | reset sessionId => cases hreset
  | busy sessionId busy => exact if_pos hforeign
  | status sessionId status keepBusy => exact if_pos hforeign
  | folders sessionId page append => exact if_pos hforeign
  | selectFolder sessionId folderId => exact if_pos hforeign
  | preview sessionId page append => exact if_pos hforeign
  | failure sessionId message => exact if_pos hforeign
  | clearError sessionId => exact if_pos hforeign

/-- The session changes with a reset only. -/
theorem sessionId_syncReducer {state : SyncUiState} {action : SyncAction}
    (hreset : action.isReset = false) : (syncReducer state action).sessionId = state.sessionId := by
  by_cases hforeign : action.sessionId ≠ state.sessionId
  · rw [syncReducer_of_foreign hreset hforeign]
  · rw [ne_eq, Decidable.not_not] at hforeign
    cases action with
    | reset sessionId => cases hreset
    | selectFolder sessionId folderId =>
        rw [syncReducer, if_neg fun h => h hforeign]
        split <;> rfl
    | busy sessionId busy => rw [syncReducer, if_neg fun h => h hforeign]
    | status sessionId status keepBusy => rw [syncReducer, if_neg fun h => h hforeign]
    | folders sessionId page append =>
        rw [syncReducer, if_neg fun h => h hforeign]
        rfl
    | preview sessionId page append =>
        rw [syncReducer, if_neg fun h => h hforeign]
        rfl
    | failure sessionId message => rw [syncReducer, if_neg fun h => h hforeign]
    | clearError sessionId => rw [syncReducer, if_neg fun h => h hforeign]

/-- Late answers to another session are as if they had never come. -/
theorem run_own_actions {actions : List SyncAction} {state : SyncUiState}
    (hresets : ∀ action ∈ actions, action.isReset = false) :
    Runs.run syncReducer state actions = Runs.run syncReducer state
      (actions.filter fun action => decide (action.sessionId = state.sessionId)) := by
  induction actions generalizing state with
  | nil => rfl
  | cons action actions ih =>
      obtain ⟨hreset, hresets⟩ := List.forall_mem_cons.mp hresets
      rw [Runs.run_cons, ih hresets, sessionId_syncReducer hreset]
      by_cases hown : action.sessionId = state.sessionId
      · rw [List.filter_cons, if_pos (decide_eq_true hown), Runs.run_cons]
      · rw [List.filter_cons, if_neg (by rwa [decide_eq_true_eq]),
          syncReducer_of_foreign hreset hown]

/-- **Every state of the panel is sound**, whatever actions have come in whatever order; and
until the next session is opened only the actions of the own session count. -/
theorem panel_run (sessionId : String) (actions late : List SyncAction)
    (hlate : ∀ action ∈ late, action.isReset = false) :
    (Runs.run syncReducer (initialSyncState sessionId) actions).Sound ∧
    Runs.run syncReducer (initialSyncState sessionId) (actions ++ late) =
      Runs.run syncReducer (initialSyncState sessionId) (actions ++ late.filter fun action =>
        decide (action.sessionId =
          (Runs.run syncReducer (initialSyncState sessionId) actions).sessionId)) := by
  constructor
  · exact Runs.run_induction (fun _ action h => h.step action) actions (.initial sessionId)
  · rw [Runs.run_append, Runs.run_append]
    exact run_own_actions hlate

/-- A late failure of the session that was left. -/
theorem panel_late_failure :
    (Runs.run syncReducer (initialSyncState "session-a") [.reset "session-b"]).Sound ∧
    Runs.run syncReducer (initialSyncState "session-a")
        ([.reset "session-b"] ++ [.failure "session-a" "message"]) =
      Runs.run syncReducer (initialSyncState "session-a") ([.reset "session-b"] ++
        [SyncAction.failure "session-a" "message"].filter fun action => decide (action.sessionId =
          (Runs.run syncReducer (initialSyncState "session-a") [.reset "session-b"]).sessionId)) :=
  panel_run "session-a" [.reset "session-b"] [.failure "session-a" "message"] (by
    intro action haction
    rw [List.mem_singleton.mp haction]
    rfl)

/-! ## Loading the preview -/

/-- The name that serde gives a code. -/
def SyncCommandCode.name : SyncCommandCode → String
  | .noActiveVault => "noActiveVault"
  | .staleSession => "staleSession"
  | .invalidRequest => "invalidRequest"
  | .unsupported => "unsupported"
  | .unconfigured => "unconfigured"
  | .authRequired => "authRequired"
  | .bindingMismatch => "bindingMismatch"
  | .rescanRequired => "rescanRequired"
  | .busy => "busy"
  | .providerUnavailable => "providerUnavailable"
  | .storageUnavailable => "storageUnavailable"
  | .internal => "internal"

/-- `raw.code`; an error of the front end has none. -/
def PreviewFailure.code : PreviewFailure → String
  | .command error => error.code.name
  | .response _ => ""

/-- `safeSyncFailure`, by the code. -/
def safeSyncFailure (code : String) : String :=
  let messages : List (String × String) := [
    ("authRequired", "Connect Google Drive before continuing."),
    ("bindingMismatch",
      "The selected account or exact folder no longer matches this Vault."),
    ("cursorExpired",
      "Drive metadata changed too far back. A fresh read-only scan is required."),
    ("cursorAmbiguous",
      "A Drive move could not be mapped safely. A fresh read-only scan is required."),
    ("rescanRequired",
      "Drive metadata must be scanned again before the preview can continue."),
    ("notConfigured", "Google Drive access is not configured on this device."),
    ("unconfigured", "Google Drive access is not configured on this device."),
    ("staleSession",
      "The active Vault changed. Reopen this panel for the current Vault.")]
  (messages.lookup code).getD "The Google Drive operation could not be completed."

/-- `PREVIEW_PAGE_SIZE`. -/
def previewPageSize : ℕ := 50

section Loading

variable (serde : SerdeJson) (u : Unicode) (vaultId : Uuid) (sessionId : VaultSessionId)
  (db : Database)

/-- `loadPreview`, of a panel that stays open. -/
def loadPreview (state : SyncUiState) (append : Bool) : SyncUiState :=
  let waiting := syncReducer state (.busy sessionId.toHyphenated (some .preview))
  match preview serde u vaultId sessionId db (if append then state.previewNextAfter else none)
      previewPageSize with
  | .ok page => syncReducer waiting (.preview sessionId.toHyphenated page append)
  | .error failure =>
      syncReducer waiting (.failure sessionId.toHyphenated (safeSyncFailure failure.code))

/-- So many clicks on "Load more", which is there as long as there is more. -/
def loadMore : ℕ → SyncUiState → SyncUiState
  | 0, state => state
  | clicks + 1, state =>
      if state.previewHasMore then
        loadMore clicks (loadPreview serde u vaultId sessionId db state true)
      else state

end Loading

section Loaded

variable {serde : SerdeJson} {u : Unicode} {vaultId : Uuid} {sessionId : VaultSessionId}
  {db : Database} {store : VaultSyncState} {after : Option String}
  {key : Option (List ℕ ×ₗ List ℕ)}

/-- The rows of the store in the order of the preview. -/
def previewRows (db : Database) : List RemoteEntryRow :=
  rowsAfter RemoteEntryRow.previewKey db.remoteEntries.rows none

/-- What the panel shows of a row. -/
def previewRow (db : Database) (row : RemoteEntryRow) : PreviewEntry := shown (previewEntry db row)

/-- One page where it stands. -/
theorem preview_page (serde : SerdeJson) (sessionId : VaultSessionId)
    (hvalid : EntriesValid u db)
    (hstate : Program.exec (loadState vaultId) db = (.ok (some store), db))
    (hfit : EntriesFit db) (hat : StandsAt db after key) :
    ∃ page, preview serde u vaultId sessionId db after previewPageSize = .ok page ∧
      page.entries = ((rowsAfter RemoteEntryRow.previewKey db.remoteEntries.rows key).take
        previewPageSize).map (previewRow db) ∧
      page.hasMore = decide (previewPageSize <
        (rowsAfter RemoteEntryRow.previewKey db.remoteEntries.rows key).length) ∧
      (page.hasMore = true → ∃ next, StandsAt db page.nextAfter next ∧
        rowsAfter RemoteEntryRow.previewKey db.remoteEntries.rows next =
          (rowsAfter RemoteEntryRow.previewKey db.remoteEntries.rows key).drop
            previewPageSize) := by
  have hsize : 1 ≤ previewPageSize ∧ previewPageSize ≤ maxRemotePreviewPageSize := by decide
  by_cases hlength : previewPageSize <
      (rowsAfter RemoteEntryRow.previewKey db.remoteEntries.rows key).length
  · obtain ⟨init, last, htake⟩ : ∃ init last, (rowsAfter RemoteEntryRow.previewKey
        db.remoteEntries.rows key).take previewPageSize = init ++ [last] := by
      refine ⟨_, _, (List.dropLast_append_getLast (l := _) ?_).symm⟩
      refine List.ne_nil_of_length_pos ?_
      rw [List.length_take]
      omega
    have hrows : rowsAfter RemoteEntryRow.previewKey db.remoteEntries.rows key = init ++ last ::
        (rowsAfter RemoteEntryRow.previewKey db.remoteEntries.rows key).drop previewPageSize := by
      conv_lhs => rw [← List.take_append_drop previewPageSize
        (rowsAfter RemoteEntryRow.previewKey db.remoteEntries.rows key), htake]
      rw [List.append_assoc, List.singleton_append]
    have hcount : init.length + 1 = previewPageSize := by
      have h := congrArg List.length htake
      rw [List.length_take, List.length_append, List.length_singleton] at h
      omega
    have hrest : (rowsAfter RemoteEntryRow.previewKey db.remoteEntries.rows key).drop
        previewPageSize ≠ [] := by
      refine List.ne_nil_of_length_pos ?_
      rw [List.length_drop]
      omega
    obtain ⟨hmem, later, hlater, hlt⟩ := exists_later hrows hrest
    have haccepted := accepted_of_valid hvalid hmem
    have hfits := hfit last hmem later hlater hlt
    obtain ⟨value, hencode⟩ := exists_encoded haccepted hfits
    have htext := (isText_iff_cursorFits haccepted hencode).mpr hfits
    refine ⟨⟨sessionId.toHyphenated, (init ++ [last]).map (previewRow db), some value, true⟩,
      ?_, ?_, ?_, fun _ => ⟨some last.previewKey, ?_, ?_⟩⟩
    · rw [preview_more serde sessionId hvalid hstate hsize.2 hat hrows hcount hrest, hencode]
      exact if_pos htext
    · rw [htake]
    · exact (decide_eq_true hlength).symm
    · exact Or.inr ⟨last, hmem, value, rfl, hencode, rfl⟩
    · exact rowsAfter_key nodup_previewKey hrows
  · refine ⟨_, preview_done hvalid hstate hsize hat (Nat.le_of_not_lt hlength), ?_, ?_, ?_⟩
    · rw [List.take_of_length_le (Nat.le_of_not_lt hlength)]
      rfl
    · exact (decide_eq_false hlength).symm
    · intro hmore
      cases hmore

/-- No file stands twice among the entries. -/
theorem nodup_previewRows : ((previewRows db).map fun row => (previewRow db row).fileId).Nodup := by
  have hperm : (previewRows db).Perm db.remoteEntries.rows := rowsAfter_none_perm
  exact (hperm.map _).nodup_iff.mpr db.remoteEntries.nodup_keys

theorem mapValues_previewRows (count : ℕ) :
    mapValues PreviewEntry.fileId (((previewRows db).take count).map (previewRow db)) =
      ((previewRows db).take count).map (previewRow db) := by
  refine mapValues_eq_self ?_
  rw [List.map_map]
  exact nodup_previewRows.sublist ((List.take_sublist count _).map _)

/-- The panel shows so many pages, and there is room for all of them. -/
structure Showing (sessionId : VaultSessionId) (db : Database) (pages : ℕ)
    (state : SyncUiState) : Prop where
  session : state.sessionId = sessionId.toHyphenated
  preview : state.preview =
    ((previewRows db).take (pages * previewPageSize)).map (previewRow db)
  hasMore : state.previewHasMore = decide (pages * previewPageSize < (previewRows db).length)
  limit : state.previewLimitReached = false
  idle : state.busy = none ∧ state.error = none
  next : pages * previewPageSize < (previewRows db).length → ∃ key,
    StandsAt db state.previewNextAfter key ∧
      rowsAfter RemoteEntryRow.previewKey db.remoteEntries.rows key =
        (previewRows db).drop (pages * previewPageSize)

/-- The state while a page is loaded. -/
def SyncUiState.waiting (state : SyncUiState) : SyncUiState :=
  { state with busy := some .preview, error := none }

theorem loadPreview_of_page {state : SyncUiState} {append : Bool} {page : PreviewPage}
    (hsession : state.sessionId = sessionId.toHyphenated)
    (hpage : Runtime.preview serde u vaultId sessionId db
      (if append then state.previewNextAfter else none) previewPageSize = .ok page) :
    loadPreview serde u vaultId sessionId db state append =
      previewAction state.waiting page append := by
  have hwaiting : syncReducer state (.busy sessionId.toHyphenated (some .preview)) =
      state.waiting := if_neg fun h => h hsession.symm
  rw [loadPreview, hpage, hwaiting]
  exact if_neg fun h => h hsession.symm

section Reduce

variable (state : SyncUiState) (page : PreviewPage) (append : Bool) {combined : List PreviewEntry}
  (hcombined : mapValues PreviewEntry.fileId
    (if append then state.preview ++ page.entries else page.entries) = combined)
include hcombined

theorem previewAction_of_room (hroom : combined.length ≤ maxAccumulatedPreviewEntries) :
    previewAction state page append =
      { state with
        preview := combined
        previewNextAfter := page.nextAfter
        previewHasMore := page.hasMore
        previewLimitReached := false
        busy := none
        error := none } := by
  have hlimit : decide (maxAccumulatedPreviewEntries < combined.length) = false :=
    decide_eq_false (Nat.not_lt.mpr hroom)
  rw [previewAction, hcombined, hlimit, List.take_of_length_le hroom]
  rfl

theorem previewAction_of_full (hfull : maxAccumulatedPreviewEntries < combined.length) :
    previewAction state page append =
      { state with
        preview := combined.take maxAccumulatedPreviewEntries
        previewNextAfter := none
        previewHasMore := false
        previewLimitReached := true
        busy := none
        error := none } := by
  rw [previewAction, hcombined, decide_eq_true hfull]
  rfl

end Reduce

/-- The panel shows the first thousand entries, and no more are loaded. -/
structure Full (db : Database) (state : SyncUiState) : Prop where
  preview : state.preview =
    ((previewRows db).take maxAccumulatedPreviewEntries).map (previewRow db)
  hasMore : state.previewHasMore = false
  limit : state.previewLimitReached = true
  idle : state.busy = none ∧ state.error = none

section Steps

variable (hvalid : EntriesValid u db)
  (hstate : Program.exec (loadState vaultId) db = (.ok (some store), db)) (hfit : EntriesFit db)
include hvalid hstate hfit

/-- The first page replaces what was shown. -/
theorem showing_first (serde : SerdeJson) {state : SyncUiState}
    (hsession : state.sessionId = sessionId.toHyphenated) :
    Showing sessionId db 1 (loadPreview serde u vaultId sessionId db state false) := by
  obtain ⟨page, hpage, hentries, hmore, hnext⟩ :=
    preview_page serde sessionId hvalid hstate hfit (Or.inl ⟨rfl, rfl⟩)
  have hcombined : mapValues PreviewEntry.fileId page.entries = page.entries := by
    rw [hentries]
    exact mapValues_previewRows previewPageSize
  have hshort : page.entries.length ≤ previewPageSize := by
    rw [hentries, List.length_map]
    exact List.length_take_le _ _
  have hroom : page.entries.length ≤ maxAccumulatedPreviewEntries :=
    hshort.trans (by decide)
  rw [loadPreview_of_page hsession hpage,
    previewAction_of_room state.waiting page false hcombined hroom]
  refine ⟨hsession, ?_, ?_, rfl, ⟨rfl, rfl⟩, fun hlater => ?_⟩
  · rw [Nat.one_mul]
    exact hentries
  · rw [Nat.one_mul]
    exact hmore
  · rw [Nat.one_mul] at hlater ⊢
    exact hnext (hmore.trans (decide_eq_true hlater))

/-- With the next page the panel shows the pages so far, or it is full. -/
theorem showing_next {pages : ℕ} {state : SyncUiState}
    (h : Showing sessionId db pages state) (hmore : state.previewHasMore = true) :
    ((pages + 1) * previewPageSize ≤ maxAccumulatedPreviewEntries →
      Showing sessionId db (pages + 1) (loadPreview serde u vaultId sessionId db state true)) ∧
    (pages * previewPageSize = maxAccumulatedPreviewEntries →
      Full db (loadPreview serde u vaultId sessionId db state true)) := by
  have hlater := of_decide_eq_true (h.hasMore.symm.trans hmore)
  obtain ⟨key, hat, hrows⟩ := h.next hlater
  obtain ⟨page, hpage, hentries, hpageMore, hnext⟩ :=
    preview_page serde sessionId hvalid hstate hfit hat
  rw [hrows] at hentries hpageMore hnext
  have hcount : pages * previewPageSize + previewPageSize = (pages + 1) * previewPageSize :=
    (Nat.succ_mul pages previewPageSize).symm
  have hcombined : mapValues PreviewEntry.fileId (state.preview ++ page.entries) =
      ((previewRows db).take ((pages + 1) * previewPageSize)).map (previewRow db) := by
    rw [h.preview, hentries, ← List.map_append, ← List.take_add, hcount, mapValues_previewRows]
  have hlength : (((previewRows db).take ((pages + 1) * previewPageSize)).map
      (previewRow db)).length = min ((pages + 1) * previewPageSize) (previewRows db).length := by
    rw [List.length_map, List.length_take]
  rw [loadPreview_of_page h.session hpage]
  constructor
  · intro hroom
    rw [previewAction_of_room state.waiting page true hcombined (by omega)]
    refine ⟨h.session, rfl, ?_, rfl, ⟨rfl, rfl⟩, fun hrest => ?_⟩
    · refine hpageMore.trans (decide_eq_decide.mpr ?_)
      rw [List.length_drop]
      omega
    · obtain ⟨next, hstands, hdrop⟩ := hnext (hpageMore.trans (decide_eq_true (by
        rw [List.length_drop]
        omega)))
      refine ⟨next, hstands, ?_⟩
      rw [hdrop, List.drop_drop, hcount]
  · intro hthousand
    have hpos : 0 < previewPageSize := by decide
    rw [previewAction_of_full state.waiting page true hcombined (by omega)]
    refine ⟨?_, rfl, rfl, ⟨rfl, rfl⟩⟩
    show List.take _ (List.map _ _) = _
    rw [← List.map_take, List.take_take, Nat.min_eq_left (by omega)]

end Steps

theorem loadMore_of_not_hasMore (clicks : ℕ) {state : SyncUiState}
    (h : state.previewHasMore = false) :
    loadMore serde u vaultId sessionId db clicks state = state := by
  cases clicks with
  | zero => rfl
  | succ clicks =>
      rw [loadMore, h]
      rfl

/-- What the panel shows after so many pages have been asked for. -/
def Shows (db : Database) (pages : ℕ) (state : SyncUiState) : Prop :=
  if maxAccumulatedPreviewEntries < pages * previewPageSize ∧
      maxAccumulatedPreviewEntries < (previewRows db).length then Full db state
  else
    state.preview = ((previewRows db).take (pages * previewPageSize)).map (previewRow db) ∧
      state.previewHasMore = decide (pages * previewPageSize < (previewRows db).length) ∧
      state.previewLimitReached = false ∧ state.busy = none ∧ state.error = none

theorem Showing.shows {pages : ℕ} {state : SyncUiState} (h : Showing sessionId db pages state)
    (hroom : pages * previewPageSize ≤ maxAccumulatedPreviewEntries) : Shows db pages state := by
  rw [Shows, if_neg fun hfull => absurd hfull.1 (Nat.not_lt.mpr hroom)]
  exact ⟨h.preview, h.hasMore, h.limit, h.idle⟩

/-- A panel that has come to the end shows the same after every further click. -/
theorem Showing.shows_of_end {pages later : ℕ} {state : SyncUiState}
    (h : Showing sessionId db pages state)
    (hroom : pages * previewPageSize ≤ maxAccumulatedPreviewEntries)
    (hend : (previewRows db).length ≤ pages * previewPageSize) (hle : pages ≤ later) :
    Shows db later state := by
  have hlater : pages * previewPageSize ≤ later * previewPageSize := Nat.mul_le_mul_right _ hle
  rw [Shows, if_neg (by omega)]
  refine ⟨?_, ?_, h.limit, h.idle⟩
  · rw [h.preview, List.take_of_length_le hend, List.take_of_length_le (hend.trans hlater)]
  · rw [h.hasMore]
    exact decide_eq_decide.mpr (by omega)

section Clicks

variable (hvalid : EntriesValid u db)
  (hstate : Program.exec (loadState vaultId) db = (.ok (some store), db)) (hfit : EntriesFit db)
include hvalid hstate hfit

theorem shows_loadMore (clicks : ℕ) {pages : ℕ} {state : SyncUiState}
    (h : Showing sessionId db pages state)
    (hroom : pages * previewPageSize ≤ maxAccumulatedPreviewEntries) :
    Shows db (pages + clicks) (loadMore serde u vaultId sessionId db clicks state) := by
  induction clicks generalizing pages state with
  | zero => exact h.shows hroom
  | succ clicks ih =>
      cases hmore : state.previewHasMore with
      | false =>
          have hend := of_decide_eq_false (h.hasMore.symm.trans hmore)
          rw [loadMore_of_not_hasMore _ hmore]
          exact h.shows_of_end hroom (Nat.le_of_not_lt hend) (Nat.le_add_right _ _)
      | true =>
          have hlater := of_decide_eq_true (h.hasMore.symm.trans hmore)
          obtain ⟨hnext, hthousand⟩ := showing_next hvalid hstate hfit h hmore
          rw [loadMore, if_pos hmore, Nat.add_comm clicks, ← Nat.add_assoc]
          by_cases hmoreRoom : (pages + 1) * previewPageSize ≤ maxAccumulatedPreviewEntries
          · exact ih (hnext hmoreRoom) hmoreRoom
          · -- a page is a whole part of the thousand, so it was reached exactly
            have hexact : pages * previewPageSize = maxAccumulatedPreviewEntries := by
              rw [previewPageSize, maxAccumulatedPreviewEntries] at *
              omega
            have hfull := hthousand hexact
            rw [loadMore_of_not_hasMore _ hfull.hasMore, Shows, if_pos]
            · exact hfull
            · rw [← hexact]
              refine ⟨?_, hlater⟩
              rw [previewPageSize]
              omega

end Clicks

variable (serde u vaultId sessionId)

/-- **The panel shows the remote tree.**  From a store that stays as it is, a refresh and any
number of clicks on "Load more" show the first entries of the store in its order, fifty for
each page asked for; the panel offers more exactly while there is more, up to the thousandth
entry, where it says that it has reached its limit if there is another one. -/
theorem panel_shows_preview (sha256 : Sha256) (ops : List Operation) (store : VaultSyncState)
    (hloaded : (Program.exec (loadState vaultId) (runStore u sha256 vaultId ops)).1 =
      .ok (some store))
    (hfit : EntriesFit (runStore u sha256 vaultId ops)) (panel : SyncUiState)
    (hsession : panel.sessionId = sessionId.toHyphenated) (clicks : ℕ) :
    Shows (runStore u sha256 vaultId ops) (clicks + 1)
      (loadMore serde u vaultId sessionId (runStore u sha256 vaultId ops) clicks
        (loadPreview serde u vaultId sessionId (runStore u sha256 vaultId ops) panel false)) := by
  have hvalid : EntriesValid u (runStore u sha256 vaultId ops) := entriesValid_runStore ops
  have hkeeps : Program.Keeps Eq (loadState vaultId) := inferInstance
  have hstate : Program.exec (loadState vaultId) (runStore u sha256 vaultId ops) =
      (.ok (some store), runStore u sha256 vaultId ops) :=
    Prod.ext hloaded (hkeeps.exec_rel _).symm
  have hfirst := showing_first hvalid hstate hfit serde hsession
  rw [Nat.add_comm]
  exact shows_loadMore hvalid hstate hfit clicks hfirst (by decide)

/-- Fifty-one files of one name: a page, and one entry more. -/
def fullPageRun : List Operation :=
  bindRun ++ [.beginInitialScan "start-1" 2, .applyScanPage none
    ⟨(List.range 51).map fun n => sampleEntry
      (String.ofList [Char.ofNat (97 + n / 26), Char.ofNat (97 + n % 26)]) "remote-root" "file"
      .file, none⟩ 3]

/-- They are loaded, and each can be a cursor. -/
theorem fullPageRun_fits :
    ((Program.exec (loadState sampleVaultId)
      (runStore Unicode.ascii constantDigest sampleVaultId fullPageRun)).1.toOption.bind
        id).isSome =
        true ∧
    (runStore Unicode.ascii constantDigest sampleVaultId
      fullPageRun).remoteEntries.rows.length = 51 ∧
    (runStore Unicode.ascii constantDigest sampleVaultId fullPageRun).remoteEntries.rows.all
      (fun row => decide (CursorFits row.entry.path row.entry.fileId)) = true := by decide +kernel

/-- A refresh and a click, which gives the last of the fifty-one files. -/
theorem panel_of_same_name :
    (runStore Unicode.ascii constantDigest sampleVaultId fullPageRun).remoteEntries.rows.length =
      51 ∧
    Shows (runStore Unicode.ascii constantDigest sampleVaultId fullPageRun)
      (1 + 1) (loadMore SerdeJson.compact Unicode.ascii sampleVaultId sampleVaultId
        (runStore Unicode.ascii constantDigest sampleVaultId fullPageRun) 1
        (loadPreview SerdeJson.compact Unicode.ascii sampleVaultId sampleVaultId
          (runStore Unicode.ascii constantDigest sampleVaultId fullPageRun)
          (initialSyncState sampleVaultId.toHyphenated) false)) := by
  obtain ⟨hloaded, hlength, hfits⟩ := fullPageRun_fits
  refine ⟨hlength, ?_⟩
  cases hresult : (Program.exec (loadState sampleVaultId)
      (runStore Unicode.ascii constantDigest sampleVaultId fullPageRun)).1 with
  | error e =>
      rw [hresult] at hloaded
      exact absurd hloaded Bool.false_ne_true
  | ok result =>
      rw [hresult] at hloaded
      obtain ⟨state, rfl⟩ := Option.isSome_iff_exists.mp hloaded
      refine panel_shows_preview SerdeJson.compact Unicode.ascii sampleVaultId sampleVaultId
        constantDigest fullPageRun state hresult ?_ _ rfl 1
      intro row hrow _ _ _
      exact of_decide_eq_true (List.all_eq_true.mp hfits row hrow)

end Loaded

end Runtime
end MyVault
