import MyVault.Core.JsonReading
import MyVault.Core.Utf8
import MyVault.Runtime.Commands
import MyVault.Runtime.UrlSafeBase64
import MyVault.Store.Preview

/-!
# The preview cursor on the wire

`encode_preview_cursor` and `decode_preview_cursor` of `sync_commands.rs`.  The cursor is
a JSON object of the path and the file id, in unpadded URL-safe base64.  The bound of
4096 bytes is on the JSON; the text that is sent is a third longer.

Neither a path that the store accepts nor a file id has a character that JSON escapes, so
the JSON takes 23 bytes beside the two texts (`length_json_of_accepted`), and a cursor that
was encoded is decoded again (`decodePreviewCursor_of_encoded`).
-/

namespace MyVault
namespace Runtime

open Check Store VaultPath

/-- `MAX_CURSOR_BYTES`. -/
def maxCursorBytes : ℕ := 4 * 1024

/-- The error for a cursor that does not decode. -/
def invalidCursor : SyncCommandError := ⟨.invalidRequest, "the preview cursor is invalid"⟩

/-- `PreviewCursorWire`. -/
def cursorJson (cursor : RemotePreviewCursor) : Text :=
  Json.object [("path", Json.string cursor.path.toList),
    ("fileId", Json.string cursor.fileId.toList)]

/-- What `serde_json::from_slice` makes of the bytes of a cursor.  An object with two string
literals for the two members is read to the texts of these literals. -/
structure SerdeJson where
  fromSlice : List UInt8 → Option RemotePreviewCursor
  reads : ∀ first second path fileId : Text,
    Json.readString first = some (path, ",\"fileId\":".toList ++ second) →
    Json.readString second = some (fileId, "\x7d".toList) →
    fromSlice (utf8Bytes ("\x7b\"path\":".toList ++ first)) =
      some ⟨String.ofList path, String.ofList fileId⟩

/-- The cursor that the page gives to the panel. -/
def encodePreviewCursor (cursor : RemotePreviewCursor) : Except SyncCommandError String := do
  let bytes := utf8Bytes (cursorJson cursor)
  reject (maxCursorBytes < bytes.length) .internal
  .ok (String.ofList (UrlSafe.encode bytes))

/-- The cursor that the panel gives back. -/
def decodePreviewCursor (serde : SerdeJson) :
    Option String → Except SyncCommandError (Option RemotePreviewCursor)
  | none => .ok none
  | some value => do
    reject (value.toList = [] ∨ maxCursorBytes * 2 < strLen value) invalidCursor
    match UrlSafe.decode value.toList with
    | none => .error invalidCursor
    | some bytes => do
      reject (maxCursorBytes < bytes.length) invalidCursor
      match serde.fromSlice bytes with
      | none => .error invalidCursor
      | some cursor => .ok (some cursor)

/-! ## A reader -/

/-- What follows a text that must come next. -/
def expect (front text : Text) : Option Text :=
  if front <+: text then some (text.drop front.length) else none

theorem expect_append (front rest : Text) : expect front (front ++ rest) = some rest := by
  rw [expect, if_pos (List.prefix_append front rest), List.drop_left]

/-- Objects as they are printed, and no others. -/
def SerdeJson.compact : SerdeJson where
  fromSlice bytes := do
    let text ← fromUtf8 bytes
    let first ← expect "\x7b\"path\":".toList text
    let (path, rest) ← Json.readString first
    let second ← expect ",\"fileId\":".toList rest
    let (fileId, rest) ← Json.readString second
    if rest = "\x7d".toList then some ⟨String.ofList path, String.ofList fileId⟩ else none
  reads first second path fileId hfirst hsecond := by
    simp only [fromUtf8_utf8Bytes, expect_append, hfirst, hsecond, Option.bind_eq_bind,
      Option.bind_some, if_true]

/-! ## The JSON of a cursor -/

variable {serde : SerdeJson} {cursor : RemotePreviewCursor}

theorem cursorJson_eq : cursorJson cursor = "\x7b\"path\":".toList ++
    (Json.string cursor.path.toList ++ (",\"fileId\":".toList ++
      (Json.string cursor.fileId.toList ++ "\x7d".toList))) := by
  have hpath : Json.string "path".toList = "\"path\"".toList := by decide
  have hfileId : Json.string "fileId".toList = "\"fileId\"".toList := by decide
  simp only [cursorJson, Json.object, List.map_cons, List.map_nil, Json.commaSeparated,
    Json.member, hpath, hfileId, List.append_assoc, List.cons_append]
  rfl

theorem fromSlice_cursorJson : serde.fromSlice (utf8Bytes (cursorJson cursor)) = some cursor := by
  rw [cursorJson_eq, serde.reads _ _ _ _ (Json.readString_string _ _) (Json.readString_string _ _),
    String.ofList_toList, String.ofList_toList]

theorem utf8Len_cursorJson (cursor : RemotePreviewCursor) : utf8Len (cursorJson cursor) =
    utf8Len (Json.escape cursor.path.toList) + utf8Len (Json.escape cursor.fileId.toList) + 23 := by
  have hopen : utf8Len "\x7b\"path\":".toList = 8 := by decide
  have hmiddle : utf8Len ",\"fileId\":".toList = 10 := by decide
  have hclose : utf8Len "\x7d".toList = 1 := by decide
  rw [cursorJson_eq]
  simp only [utf8Len_append, Json.utf8Len_string, hopen, hmiddle, hclose]
  omega

/-! ## What the store accepts -/

theorem escapeChar_of_allowed {c : Char} (h : isForbiddenChar c = false) :
    Json.escapeChar c = [c] := by
  rw [isForbiddenChar, Bool.or_eq_false_iff] at h
  obtain ⟨hcontrol, hother⟩ := h
  have hprintable : 32 ≤ c.toNat := by
    simp only [isControl, Bool.or_eq_false_iff, decide_eq_false_iff_not] at hcontrol
    omega
  have hself : Char.ofNat c.toNat = c := Char.ofNat_toNat c
  have hquote : c.toNat ≠ 0x22 := by
    intro hcode
    rw [hcode] at hself
    rw [← hself] at hother
    exact absurd hother (by decide)
  have hbackslash : c.toNat ≠ 0x5c := by
    intro hcode
    rw [hcode] at hself
    rw [← hself] at hother
    exact absurd hother (by decide)
  unfold Json.escapeChar
  split
  case h_8 => rw [if_neg (by omega)]
  all_goals omega

theorem escape_of_allowed {t : Text} (h : ∀ c ∈ t, isForbiddenChar c = false) :
    Json.escape t = t :=
  Json.escape_of_plain fun c hc => escapeChar_of_allowed (h c hc)

/-- What the path of an entry has passed. -/
theorem path_of_isContentPath {u : Unicode} {value : String} (h : isContentPath u value = true) :
    ∃ path : VaultPath u, path.asStr = value.toList := by
  rw [isContentPath, Option.any_eq_true] at h
  obtain ⟨path, -, hpath⟩ := h
  simp only [Bool.and_eq_true, beq_iff_eq] at hpath
  exact ⟨path, hpath.1.1⟩

theorem allowed_of_isPortableComponent {u : Unicode} {component : Text}
    (h : isPortableComponent u component = true) : ∀ c ∈ component, isForbiddenChar c = false := by
  intro c hc
  rw [isPortableComponent] at h
  split at h
  · cases h
  · rename_i hpassed
    simp only [not_or] at hpassed
    have hnone : component.any isForbiddenChar = false := by simpa using hpassed.2.2.2
    rw [List.any_eq_false] at hnone
    simpa using hnone c hc

theorem allowed_of_mem_asStr {u : Unicode} (path : VaultPath u) :
    ∀ c ∈ path.asStr, isForbiddenChar c = false := by
  intro c hc
  rcases mem_joinSlash hc with rfl | ⟨name, hname, hmem⟩
  · decide
  · exact allowed_of_isPortableComponent (path.portable name hname).2 c hmem

theorem ascii_of_isRemoteId {value : String} (h : isRemoteId value = true) :
    ∀ c ∈ value.toList, c.toNat < 128 := by
  intro c hc
  rw [isRemoteId, Bool.and_eq_true, List.all_eq_true] at h
  have hrange := toNat_of_isIdChar (h.2 c hc)
  omega

theorem allowed_of_isIdChar {c : Char} (h : isIdChar c = true) : isForbiddenChar c = false := by
  have key : ∀ i : Fin 128, isIdChar (Char.ofNat i.val) = true →
      isForbiddenChar (Char.ofNat i.val) = false := by decide
  have hrange := toNat_of_isIdChar h
  have hc := key ⟨c.toNat, by omega⟩
  rw [Char.ofNat_toNat] at hc
  exact hc h

/-- A path and a file id as the store accepts them. -/
structure Accepted (u : Unicode) (cursor : RemotePreviewCursor) : Prop where
  path : isContentPath u cursor.path = true
  fileId : isRemoteId cursor.fileId = true

/-- Nothing in an accepted path or id is escaped. -/
theorem utf8Len_cursorJson_of_accepted {u : Unicode} (h : Accepted u cursor) :
    utf8Len (cursorJson cursor) = strLen cursor.path + strLen cursor.fileId + 23 := by
  obtain ⟨path, hpath⟩ := path_of_isContentPath h.path
  have hplain : Json.escape cursor.path.toList = cursor.path.toList :=
    escape_of_allowed (hpath ▸ allowed_of_mem_asStr path)
  have hid := h.fileId
  rw [isRemoteId, Bool.and_eq_true, List.all_eq_true] at hid
  have hplainId : Json.escape cursor.fileId.toList = cursor.fileId.toList :=
    escape_of_allowed fun c hc => allowed_of_isIdChar (hid.2 c hc)
  rw [utf8Len_cursorJson, hplain, hplainId, strLen, strLen]

/-! ## The cursor there and back -/

theorem encodePreviewCursor_eq_ok {value : String} : encodePreviewCursor cursor = .ok value ↔
    utf8Len (cursorJson cursor) ≤ maxCursorBytes ∧
      value = String.ofList (UrlSafe.encode (utf8Bytes (cursorJson cursor))) := by
  rw [encodePreviewCursor]
  rw [seq_eq_ok, reject_eq_ok, length_utf8Bytes, not_lt, Except.ok.injEq]
  exact and_congr_right fun _ => eq_comm

/-- The number of characters of an encoded cursor, which are also its bytes and its UTF-16 code
units. -/
theorem length_encoded (bytes : List UInt8) :
    utf8Len (UrlSafe.encode bytes) = (4 * bytes.length + 2) / 3 ∧
      utf16Len (UrlSafe.encode bytes) = (4 * bytes.length + 2) / 3 := by
  have hascii : ∀ c ∈ UrlSafe.encode bytes, c.toNat < 128 := fun _ => UrlSafe.ascii_of_mem_encode
  rw [utf8Len_of_ascii hascii, utf16Len_of_ascii hascii, UrlSafe.length_encode]
  exact ⟨rfl, rfl⟩

/-- Whatever is encoded is decoded to the cursor it was encoded from. -/
theorem decodePreviewCursor_of_encoded {value : String}
    (h : encodePreviewCursor cursor = .ok value) :
    decodePreviewCursor serde (some value) = .ok (some cursor) := by
  obtain ⟨hfits, rfl⟩ := encodePreviewCursor_eq_ok.mp h
  have hlength := utf8Len_cursorJson cursor
  have hbytes := length_utf8Bytes (cursorJson cursor)
  have hencoded := (length_encoded (utf8Bytes (cursorJson cursor))).1
  have hne : UrlSafe.encode (utf8Bytes (cursorJson cursor)) ≠ [] := by
    intro hnil
    rw [hnil, utf8Len_nil] at hencoded
    omega
  rw [decodePreviewCursor, String.toList_ofList, strLen, String.toList_ofList, reject,
    if_neg (by rw [not_or]; exact ⟨hne, by rw [maxCursorBytes] at hfits ⊢; omega⟩), ok_bind,
    UrlSafe.decode_encode]
  dsimp only
  rw [reject, if_neg (by omega), ok_bind, fromSlice_cursorJson]

end Runtime
end MyVault
