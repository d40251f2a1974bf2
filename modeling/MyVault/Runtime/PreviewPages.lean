import MyVault.Runtime.PreviewCursor

/-!
# The preview from the store to the screen

`preview_page` and `sync_preview` of `sync_commands.rs`, and what `sync.ts` makes of the
answer (`mapPreviewPage`).  The front end takes texts of at most 4096 UTF-16 code units, the
cursor included, and asks for the next page with the cursor it was given.

A cursor of 4096 characters is one of 3072 bytes of JSON.  So the front end takes a page
exactly if the path and the id of its last entry are at most 3049 bytes together
(`survives_iff`), although the store takes paths of 4096 bytes.
-/

namespace MyVault
namespace Runtime

open Check Store
open Program (exec exec_bind_ok exec_reject_ok exec_lift_ok exec_the_ok exec_pure_ok)

/-! ## The answer of the command -/

/-- `DEFAULT_PREVIEW_LIMIT`. -/
def defaultPreviewLimit : ℕ := 100

/-- An entry of the preview, on its way to the panel. -/
structure RemotePreviewEntryDto where
  fileId : String
  path : String
  kind : String
  pathCollision : Bool
  deriving DecidableEq, Repr

/-- A page of the preview, on its way to the panel. -/
structure RemotePreviewPageDto where
  sessionId : VaultSessionId
  entries : List RemotePreviewEntryDto
  nextAfter : Option String
  hasMore : Bool

/-- `map_sync_error`. -/
def mapSyncError : Store.Error → SyncCommandError
  | .bindingCollision | .bindingIdentityMismatch | .bindingRequiresAccount =>
    ⟨.bindingMismatch, "the Google account or exact Drive root does not match"⟩
  | .invalidRemoteId | .invalidRemoteToken | .invalidPreviewCursor | .invalidPreviewLimit =>
    ⟨.invalidRequest, "the sync request identifier, cursor, or limit is invalid"⟩
  | _ => .storageUnavailable

/-- The name that serde gives a kind. -/
def kindName : RemoteEntryKind → String
  | .file => "file"
  | .folder => "folder"

/-- The entry that is sent. -/
def previewEntryDto (entry : RemotePreviewEntry) : RemotePreviewEntryDto where
  fileId := entry.fileId
  path := entry.path
  kind := kindName entry.kind
  pathCollision := entry.pathCollision

/-- The page that is sent, if its cursor can be encoded. -/
def previewPage (sessionId : VaultSessionId) (page : RemotePreviewPage) :
    Except SyncCommandError RemotePreviewPageDto := do
  let nextAfter ← match page.nextAfter with
    | none => .ok none
    | some cursor => (encodePreviewCursor cursor).map some
  .ok
    { sessionId, nextAfter
      entries := page.entries.map previewEntryDto
      hasMore := page.hasMore }

/-- The command in an open session. -/
def syncPreview (serde : SerdeJson) (u : Unicode) (vaultId : Uuid) (sessionId : VaultSessionId)
    (after : Option String) (limit : Option ℕ) (db : Database) :
    Except SyncCommandError RemotePreviewPageDto := do
  let cursor ← decodePreviewCursor serde after
  let page ← (exec (remotePreview u vaultId cursor (limit.getD defaultPreviewLimit)) db).1.mapError
    mapSyncError
  previewPage sessionId page

/-! ## The front end -/

/-- A value of an answer; no code here reads a number. -/
inductive JsValue where
  | undefined
  | null
  | number
  | boolean (value : Bool)
  | string (value : String)
  | array (elements : List JsValue)
  | object (members : List (String × JsValue))

/-- `raw.name`. -/
def property (raw : List (String × JsValue)) (name : String) : JsValue :=
  (raw.lookup name).getD .undefined

/-- The entry as it arrives. -/
def RemotePreviewEntryDto.toJs (entry : RemotePreviewEntryDto) : JsValue :=
  .object [("fileId", .string entry.fileId), ("path", .string entry.path),
    ("kind", .string entry.kind), ("pathCollision", .boolean entry.pathCollision)]

/-- The page as it arrives. -/
def RemotePreviewPageDto.toJs (page : RemotePreviewPageDto) : JsValue :=
  .object [("sessionId", .string page.sessionId.toHyphenated),
    ("entries", .array (page.entries.map RemotePreviewEntryDto.toJs)),
    ("nextAfter", page.nextAfter.elim .null .string), ("hasMore", .boolean page.hasMore)]

/-- An entry of the preview in the panel. -/
structure PreviewEntry where
  fileId : String
  path : String
  kind : RemoteEntryKind
  pathCollision : Bool
  deriving DecidableEq, Repr

/-- A page of the preview in the panel. -/
structure PreviewPage where
  sessionId : String
  entries : List PreviewEntry
  nextAfter : Option String
  hasMore : Bool
  deriving DecidableEq, Repr

/-- `MAX_TEXT`, in UTF-16 units. -/
def maxText : ℕ := 4096

/-- The message for a field that is not what it should be. -/
def invalidResponse (label : String) : String := label ++ " response is invalid"

/-- The value is an object. -/
def recordOf (value : JsValue) (label : String) : Except String (List (String × JsValue)) :=
  match value with
  | .object members => .ok members
  | _ => .error (invalidResponse label)

/-- The value is a text, within the bound. -/
def textOf (value : JsValue) (label : String) (allowEmpty : Bool) : Except String String :=
  match value with
  | .string text =>
    if maxText < utf16Len text.toList ∨ (allowEmpty = false ∧ text.toList = []) then
      .error (invalidResponse label)
    else .ok text
  | _ => .error (invalidResponse label)

/-- The value is a text or missing. -/
def optionalTextOf (value : JsValue) (label : String) : Except String (Option String) :=
  match value with
  | .null => .ok none
  | .undefined => .ok none
  | value => (textOf value label false).map some

/-- The value is a boolean. -/
def booleanOf (value : JsValue) (label : String) : Except String Bool :=
  match value with
  | .boolean value => .ok value
  | _ => .error (invalidResponse label)

/-- The answer is for this session. -/
def assertSession (value : JsValue) (expectedSessionId : String) : Except String String := do
  let sessionId ← textOf value "session identity" false
  reject (sessionId ≠ expectedSessionId) "Sync response identity mismatch"
  .ok sessionId

/-- The kind of an entry, by its name. -/
def kindOf (rawKind : String) : Except String RemoteEntryKind :=
  if rawKind = "file" then .ok .file
  else if rawKind = "folder" then .ok .folder
  else .error "Preview entry kind is invalid"

/-- An entry, as it is read from an answer. -/
def mapPreviewEntry (value : JsValue) : Except String PreviewEntry := do
  let entry ← recordOf value "Preview entry"
  let rawKind ← textOf (property entry "kind") "entry kind" false
  let kind ← kindOf rawKind
  let fileId ← textOf (property entry "fileId") "file id" false
  let path ← textOf (property entry "path") "entry path" false
  let pathCollision ← booleanOf (property entry "pathCollision") "path collision"
  .ok { fileId, path, kind, pathCollision }

/-- `raw.entries`, at most two hundred. -/
def entriesOf (value : JsValue) : Except String (List JsValue) :=
  match value with
  | .array elements =>
    if 200 < elements.length then .error "Preview page response is invalid" else .ok elements
  | _ => .error "Preview page response is invalid"

/-- A page, as it is read from an answer. -/
def mapPreviewPage (value : JsValue) (expectedSessionId : String)
    (expectedAfter : Option String) : Except String PreviewPage := do
  let raw ← recordOf value "Preview page"
  let elements ← entriesOf (property raw "entries")
  let entries ← elements.mapM mapPreviewEntry
  let nextAfter ← optionalTextOf (property raw "nextAfter") "preview cursor"
  let hasMore ← booleanOf (property raw "hasMore") "preview continuation"
  reject (hasMore = true ∧ nextAfter = none)
    "Preview response is missing its continuation cursor"
  reject (expectedAfter ≠ none ∧ nextAfter = expectedAfter) "Preview cursor did not advance"
  let sessionId ← assertSession (property raw "sessionId") expectedSessionId
  .ok { sessionId, entries, nextAfter, hasMore }

/-- What `syncApi.preview` throws. -/
inductive PreviewFailure where
  | command (error : SyncCommandError)
  | response (message : String)
  deriving DecidableEq, Repr

/-- `syncApi.preview`. -/
def preview (serde : SerdeJson) (u : Unicode) (vaultId : Uuid) (sessionId : VaultSessionId)
    (db : Database) (after : Option String) (limit : ℕ) : Except PreviewFailure PreviewPage := do
  let answer ← (syncPreview serde u vaultId sessionId after (some limit) db).mapError .command
  (mapPreviewPage answer.toJs sessionId.toHyphenated after).mapError .response

/-! ## What the front end takes -/

/-- A text the front end takes. -/
def IsText (text : String) : Prop := text.toList ≠ [] ∧ utf16Len text.toList ≤ maxText

instance (text : String) : Decidable (IsText text) := inferInstanceAs (Decidable (_ ∧ _))

theorem textOf_string {text label : String} (h : IsText text) :
    textOf (.string text) label false = .ok text := by
  have htext : ¬ (maxText < utf16Len text.toList ∨ (false = false ∧ text.toList = [])) := by
    rintro (hlong | ⟨-, hempty⟩)
    · exact absurd h.2 (by omega)
    · exact h.1 hempty
  rw [textOf, if_neg htext]

theorem textOf_of_not_isText {text label : String} (h : ¬ IsText text) :
    textOf (.string text) label false = .error (invalidResponse label) := by
  refine if_pos (by_contra fun hfits => h ?_)
  obtain ⟨hshort, hempty⟩ := not_or.mp hfits
  exact ⟨fun hnil => hempty ⟨rfl, hnil⟩, by omega⟩

theorem isText_of_isRemoteId {text : String} (h : isRemoteId text = true) : IsText text := by
  have hascii := ascii_of_isRemoteId h
  rw [isRemoteId, Bool.and_eq_true, decide_eq_true_eq, strLen, utf8Len_of_ascii hascii] at h
  refine ⟨List.ne_nil_of_length_pos h.1.1, ?_⟩
  rw [utf16Len_of_ascii hascii, maxText]
  omega

theorem isText_of_isContentPath {u : Unicode} {text : String} (h : isContentPath u text = true) :
    IsText text := by
  obtain ⟨path, hpath⟩ := path_of_isContentPath h
  obtain ⟨hne, -, hunits⟩ := path.fits
  refine ⟨?_, hpath ▸ hunits⟩
  intro hnil
  rw [← hpath] at hnil
  have hsplit := VaultPath.splitOn_asStr path
  rw [hnil] at hsplit
  have hname := path.named [] (by rw [← hsplit]; decide)
  exact hname.1 rfl

theorem isText_toHyphenated (id : Uuid) : IsText id.toHyphenated := by
  have hlength := Json.length_toHyphenated id
  have hascii : ∀ c ∈ id.toHyphenated.toList, c.toNat < 128 := by
    intro c hc
    have hbounds := (Json.isPlain_of_mem_toHyphenated hc).toNat_bounds
    omega
  refine ⟨List.ne_nil_of_length_pos (by omega), ?_⟩
  rw [utf16Len_of_ascii hascii, hlength]
  decide

/-- The entry that the panel shows for an entry of the store. -/
def shown (entry : RemotePreviewEntry) : PreviewEntry where
  fileId := entry.fileId
  path := entry.path
  kind := entry.kind
  pathCollision := entry.pathCollision

theorem mapPreviewEntry_toJs {u : Unicode} {entry : RemotePreviewEntry}
    (h : Accepted u ⟨entry.path, entry.fileId⟩) :
    mapPreviewEntry (previewEntryDto entry).toJs = .ok (shown entry) := by
  have hkind : IsText (kindName entry.kind) := by
    cases entry.kind <;> exact ⟨by decide, by decide⟩
  have hread : kindOf (kindName entry.kind) = .ok entry.kind := by
    cases entry.kind <;> rfl
  show (textOf (.string (kindName entry.kind)) "entry kind" false >>= _) = _
  rw [textOf_string hkind, ok_bind, hread, ok_bind]
  show (textOf (.string entry.fileId) "file id" false >>= _) = _
  rw [textOf_string (isText_of_isRemoteId h.fileId), ok_bind]
  show (textOf (.string entry.path) "entry path" false >>= _) = _
  rw [textOf_string (isText_of_isContentPath h.path), ok_bind]
  rfl

theorem mapM_mapPreviewEntry {u : Unicode} {entries : List RemotePreviewEntry}
    (h : ∀ entry ∈ entries, Accepted u ⟨entry.path, entry.fileId⟩) :
    ((entries.map previewEntryDto).map RemotePreviewEntryDto.toJs).mapM mapPreviewEntry =
      .ok (entries.map shown) := by
  induction entries with
  | nil => rfl
  | cons entry entries ih =>
      obtain ⟨hentry, hrest⟩ := List.forall_mem_cons.mp h
      rw [List.map_cons, List.map_cons, List.mapM_cons, mapPreviewEntry_toJs hentry, ok_bind,
        ih hrest, ok_bind]
      rfl

/-! ## One page -/

section Page

variable {serde : SerdeJson} {u : Unicode} {vaultId : Uuid} {sessionId : VaultSessionId}
  {db : Database} {after : Option String} {page : RemotePreviewPage}

/-- What the store has checked when it returns a page. -/
theorem isPage_of_exec_ok {after : Option RemotePreviewCursor} {limit : ℕ}
    (h : (exec (remotePreview u vaultId after limit) db).1 = .ok page) :
    limit ≤ maxRemotePreviewPageSize ∧ IsPage db
      (rowsAfter RemoteEntryRow.previewKey db.remoteEntries.rows (after.map (·.previewKey)))
      limit page ∧ (page.hasMore = false → page.nextAfter = none) := by
  have hrun : exec (remotePreview u vaultId after limit) db = (.ok page, _) := Prod.ext h rfl
  have hrun' := hrun
  rw [remotePreview] at hrun
  obtain ⟨_, _, hrange, hrun⟩ := exec_bind_ok.mp hrun
  obtain ⟨hrange, rfl⟩ := exec_reject_ok.mp hrange
  obtain ⟨_, _, hchecked, hrun⟩ := exec_bind_ok.mp hrun
  obtain ⟨hcursor, rfl⟩ := exec_lift_ok.mp hchecked
  obtain ⟨loaded, r, hloaded, hrun⟩ := exec_bind_ok.mp hrun
  obtain ⟨state, _, hstate, hrun⟩ := exec_bind_ok.mp hrun
  obtain ⟨rfl, rfl⟩ := exec_the_ok.mp hstate
  have hsame : Program.Keeps Eq (loadState vaultId) := inferInstance
  obtain rfl : db = r := by
    have heq := hsame.exec_rel db
    rwa [hloaded] at heq
  have hlimit : 1 ≤ limit ∧ limit ≤ maxRemotePreviewPageSize := by omega
  obtain ⟨page', hpage, hsound⟩ := exec_remotePreview hloaded hlimit
    fun cursor hmem => each_eq_ok.mp hcursor cursor (Option.mem_toList.mpr hmem)
  rw [hpage, Prod.mk.injEq, Except.ok.injEq] at hrun'
  refine ⟨hlimit.2, hrun'.1 ▸ hsound, fun hmore => ?_⟩
  obtain ⟨_, _, -, hrun⟩ := exec_bind_ok.mp hrun
  dsimp only at hrun
  split at hrun
  · rename_i hlonger
    obtain ⟨_, _, -, hrun⟩ := exec_bind_ok.mp hrun
    obtain ⟨_, _, -, hrun⟩ := exec_bind_ok.mp hrun
    obtain ⟨rfl, -⟩ := exec_pure_ok.mp hrun
    rw [hlonger] at hmore
    cases hmore
  · obtain ⟨_, _, hnone, hrun⟩ := exec_bind_ok.mp hrun
    obtain ⟨rfl, -⟩ := exec_pure_ok.mp hnone
    obtain ⟨rfl, -⟩ := exec_pure_ok.mp hrun
    rfl

/-- An entry of a valid store as the cursor behind it. -/
theorem accepted_of_valid {row : RemoteEntryRow} (hvalid : EntriesValid u db)
    (hrow : row ∈ db.remoteEntries) : Accepted u ⟨row.entry.path, row.entry.fileId⟩ := by
  have hentry := hvalid row hrow
  simp only [RemoteEntry.validate, seq_eq_ok] at hentry
  obtain ⟨hid, -, hpath, -⟩ := hentry
  rw [validateContentPath, reject_eq_ok] at hpath
  exact ⟨by simpa using hpath, validateRemoteId_eq_ok.mp hid⟩

theorem accepted_of_isPage {remaining : List RemoteEntryRow} {limit : ℕ}
    (hvalid : EntriesValid u db) (hremaining : ∀ row ∈ remaining, row ∈ db.remoteEntries)
    (hpage : IsPage db remaining limit page) :
    ∀ entry ∈ page.entries, Accepted u ⟨entry.path, entry.fileId⟩ := by
  intro entry hentry
  rw [hpage.entries] at hentry
  obtain ⟨row, hrow, rfl⟩ := List.mem_map.mp hentry
  exact accepted_of_valid hvalid (hremaining row (List.mem_of_mem_take hrow))

/-- The front end on an answer with entries of the store: it is the cursor that decides. -/
theorem mapPreviewPage_toJs (dto : RemotePreviewPageDto) {entries : List RemotePreviewEntry}
    (hentries : dto.entries = entries.map previewEntryDto)
    (haccepted : ∀ entry ∈ entries, Accepted u ⟨entry.path, entry.fileId⟩)
    (hcount : entries.length ≤ 200) :
    mapPreviewPage dto.toJs dto.sessionId.toHyphenated after =
      (do
        let nextAfter ← optionalTextOf (dto.nextAfter.elim .null .string) "preview cursor"
        reject (dto.hasMore = true ∧ nextAfter = none)
          "Preview response is missing its continuation cursor"
        reject (after ≠ none ∧ nextAfter = after) "Preview cursor did not advance"
        .ok
          { sessionId := dto.sessionId.toHyphenated
            entries := entries.map shown
            nextAfter
            hasMore := dto.hasMore }) := by
  have hread : entriesOf (.array (dto.entries.map RemotePreviewEntryDto.toJs)) =
      .ok ((entries.map previewEntryDto).map RemotePreviewEntryDto.toJs) := by
    rw [entriesOf, hentries, List.length_map, List.length_map, if_neg (by omega)]
  have hsession : assertSession (.string dto.sessionId.toHyphenated) dto.sessionId.toHyphenated =
      .ok dto.sessionId.toHyphenated := by
    rw [assertSession, textOf_string (isText_toHyphenated _), ok_bind, reject,
      if_neg (not_not_intro rfl), ok_bind]
  show (entriesOf (.array (dto.entries.map RemotePreviewEntryDto.toJs)) >>= _) = _
  rw [hread, ok_bind, mapM_mapPreviewEntry haccepted, ok_bind]
  show (optionalTextOf (dto.nextAfter.elim .null .string) "preview cursor" >>= _) = _
  refine bind_congr fun nextAfter => ?_
  show (reject _ _ >>= fun _ => reject _ _ >>= fun _ =>
    assertSession (.string dto.sessionId.toHyphenated) dto.sessionId.toHyphenated >>= _) = _
  rw [hsession]
  rfl

/-- The path and the id leave a cursor of 3072 bytes, which are 4096 characters. -/
def CursorFits (path fileId : String) : Prop := strLen path + strLen fileId ≤ 3049

instance (path fileId : String) : Decidable (CursorFits path fileId) :=
  inferInstanceAs (Decidable (_ ≤ _))

/-- An encoded cursor is a text the front end takes exactly if the path and the id fit. -/
theorem isText_iff_cursorFits {cursor : RemotePreviewCursor} {value : String}
    (haccepted : Accepted u cursor) (hencode : encodePreviewCursor cursor = .ok value) :
    IsText value ↔ CursorFits cursor.path cursor.fileId := by
  obtain ⟨-, rfl⟩ := encodePreviewCursor_eq_ok.mp hencode
  have hbytes := length_utf8Bytes (cursorJson cursor)
  rw [utf8Len_cursorJson_of_accepted haccepted] at hbytes
  have hunits := (length_encoded (utf8Bytes (cursorJson cursor))).2
  have hsome := UrlSafe.length_encode (utf8Bytes (cursorJson cursor))
  rw [IsText, CursorFits, String.toList_ofList, hunits, maxText]
  constructor
  · rintro ⟨-, hle⟩
    omega
  · intro hfits
    exact ⟨List.ne_nil_of_length_pos (by omega), by omega⟩

theorem exists_encoded {cursor : RemotePreviewCursor} (haccepted : Accepted u cursor)
    (hfits : CursorFits cursor.path cursor.fileId) :
    ∃ value, encodePreviewCursor cursor = .ok value := by
  refine ⟨_, encodePreviewCursor_eq_ok.mpr ⟨?_, rfl⟩⟩
  rw [utf8Len_cursorJson_of_accepted haccepted, maxCursorBytes]
  rw [CursorFits] at hfits
  omega

/-- The row behind the last entry of a page that is not the last one. -/
theorem last_of_isPage {remaining : List RemoteEntryRow} {limit : ℕ} {last : RemotePreviewEntry}
    (hpage : IsPage db remaining limit page) (hmore : page.hasMore = true)
    (hlast : page.entries.getLast? = some last) :
    page.nextAfter = some ⟨last.path, last.fileId⟩ ∧
      ∃ row ∈ remaining, last = previewEntry db row := by
  rw [hpage.entries, List.getLast?_map, Option.map_eq_some_iff] at hlast
  obtain ⟨row, hrow, rfl⟩ := hlast
  rw [hpage.hasMore, decide_eq_true_eq] at hmore
  exact ⟨hpage.nextAfter row hrow hmore, row, List.mem_of_mem_take (List.mem_of_getLast? hrow), rfl⟩

/-- A cursor stands before the rows after it, so none of theirs is the same text. -/
theorem encoded_ne_after {cursor : Option RemotePreviewCursor} {row : RemoteEntryRow}
    {value : String} (hafter : decodePreviewCursor serde after = .ok cursor)
    (hrow : row ∈ rowsAfter RemoteEntryRow.previewKey db.remoteEntries.rows
      (cursor.map (·.previewKey)))
    (hencode : encodePreviewCursor ⟨row.entry.path, row.entry.fileId⟩ = .ok value) :
    after ≠ some value := by
  rintro rfl
  rw [decodePreviewCursor_of_encoded hencode, Except.ok.injEq] at hafter
  subst hafter
  exact absurd ((mem_rowsAfter.mp hrow).2 _ rfl) (lt_irrefl row.previewKey)

/-- **The trip of the cursor behind an entry.**  It is encoded, the front end takes the page
with it and all entries, and it is decoded to the path and the id of the entry. -/
def Survives (serde : SerdeJson) (sessionId : VaultSessionId) (after : Option String)
    (page : RemotePreviewPage) (last : RemotePreviewEntry) : Prop :=
  ∃ value, encodePreviewCursor ⟨last.path, last.fileId⟩ = .ok value ∧
    (∃ dto, previewPage sessionId page = .ok dto ∧
      mapPreviewPage dto.toJs sessionId.toHyphenated after =
        .ok ⟨sessionId.toHyphenated, page.entries.map shown, some value, true⟩) ∧
    decodePreviewCursor serde (some value) = .ok (some ⟨last.path, last.fileId⟩)

theorem previewPage_of_encoded {cursor : RemotePreviewCursor} {value : String}
    (hnext : page.nextAfter = some cursor) (hencode : encodePreviewCursor cursor = .ok value) :
    previewPage sessionId page =
      .ok ⟨sessionId, page.entries.map previewEntryDto, some value, page.hasMore⟩ := by
  rw [previewPage, hnext]
  dsimp only
  rw [hencode]
  rfl

variable {cursor : Option RemotePreviewCursor} {limit : ℕ}

theorem length_entries_le {remaining : List RemoteEntryRow} (hpage : IsPage db remaining limit page)
    (hlimit : limit ≤ maxRemotePreviewPageSize) : page.entries.length ≤ 200 := by
  rw [hpage.entries, List.length_map, List.length_take]
  rw [maxRemotePreviewPageSize] at hlimit
  omega

/-- The front end takes a page with a cursor exactly if the cursor is a text it takes. -/
theorem mapPreviewPage_of_encoded {value : String}
    (haccepted : ∀ entry ∈ page.entries, Accepted u ⟨entry.path, entry.fileId⟩)
    (hcount : page.entries.length ≤ 200) (hmore : page.hasMore = true)
    (hadvances : after ≠ some value) :
    mapPreviewPage (RemotePreviewPageDto.toJs
        ⟨sessionId, page.entries.map previewEntryDto, some value, page.hasMore⟩)
        sessionId.toHyphenated after =
      if IsText value then
        .ok ⟨sessionId.toHyphenated, page.entries.map shown, some value, true⟩
      else .error "preview cursor response is invalid" := by
  refine (mapPreviewPage_toJs ⟨sessionId, _, some value, page.hasMore⟩ rfl haccepted
    hcount).trans ?_
  show ((textOf (.string value) "preview cursor" false).map some >>= _) = _
  by_cases htext : IsText value
  · rw [textOf_string htext, if_pos htext]
    show (reject _ _ >>= _) = _
    rw [reject, if_neg (by simp), ok_bind, reject, if_neg (fun h => hadvances h.2.symm), ok_bind,
      hmore]
  · rw [textOf_of_not_isText htext, if_neg htext]
    rfl

/-- Where there is no more, the front end takes the page without a cursor. -/
theorem mapPreviewPage_of_last
    (haccepted : ∀ entry ∈ page.entries, Accepted u ⟨entry.path, entry.fileId⟩)
    (hcount : page.entries.length ≤ 200) (hmore : page.hasMore = false) :
    mapPreviewPage (RemotePreviewPageDto.toJs
        ⟨sessionId, page.entries.map previewEntryDto, none, page.hasMore⟩)
        sessionId.toHyphenated after =
      .ok ⟨sessionId.toHyphenated, page.entries.map shown, none, false⟩ := by
  refine (mapPreviewPage_toJs ⟨sessionId, _, none, page.hasMore⟩ rfl haccepted
    hcount).trans ?_
  show (reject _ _ >>= _) = _
  rw [reject, if_neg (by simp [hmore]), ok_bind, reject, if_neg (fun h => h.1 h.2.symm), ok_bind,
    hmore]

theorem survives_iff {last : RemotePreviewEntry} (hvalid : EntriesValid u db)
    (hafter : decodePreviewCursor serde after = .ok cursor)
    (hpage : (exec (remotePreview u vaultId cursor limit) db).1 = .ok page)
    (hlast : page.entries.getLast? = some last) (hmore : page.hasMore = true) :
    Survives serde sessionId after page last ↔ CursorFits last.path last.fileId := by
  obtain ⟨hlimit, hsound, -⟩ := isPage_of_exec_ok hpage
  obtain ⟨hnext, row, hrow, rfl⟩ := last_of_isPage hsound hmore hlast
  have haccepted := accepted_of_isPage hvalid (fun row hmem => (mem_rowsAfter.mp hmem).1) hsound
  have hrowAccepted := accepted_of_valid hvalid (mem_rowsAfter.mp hrow).1
  have hcount := length_entries_le hsound hlimit
  constructor
  · rintro ⟨value, hencode, ⟨dto, hdto, hshown⟩, -⟩
    rw [previewPage_of_encoded hnext hencode, Except.ok.injEq] at hdto
    rw [← hdto, mapPreviewPage_of_encoded haccepted hcount hmore
      (encoded_ne_after hafter hrow hencode)] at hshown
    by_cases htext : IsText value
    · exact (isText_iff_cursorFits hrowAccepted hencode).mp htext
    · rw [if_neg htext] at hshown
      cases hshown
  · intro hfits
    obtain ⟨value, hencode⟩ := exists_encoded hrowAccepted hfits
    refine ⟨value, hencode, ⟨_, previewPage_of_encoded hnext hencode, ?_⟩,
      decodePreviewCursor_of_encoded hencode⟩
    rw [mapPreviewPage_of_encoded haccepted hcount hmore (encoded_ne_after hafter hrow hencode),
      if_pos ((isText_iff_cursorFits hrowAccepted hencode).mpr hfits)]

end Page

end Runtime
end MyVault
