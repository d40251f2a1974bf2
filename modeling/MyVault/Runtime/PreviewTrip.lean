import MyVault.Runtime.PreviewPages

/-!
# Paging through a remote tree

The user asks for one page after the other and stops at the first that has no cursor.  Every
page stands or falls with the cursor behind its last entry (`preview_more`), so the user comes
to the end with any page sizes exactly if every entry that has another after it fits
(`preview_cursor_survives_iff`).

## Where a cursor goes

The cursor of a page is a path and an id.  The backend writes it as JSON and in base64, the front
end takes it as a text of at most 4096 UTF-16 units, and with the next question the backend
decodes it and checks that it is one of its own.  For the entries of a store the check is no
obstacle, as they passed the same rules when they were written, so the length decides: the two
texts may have 3049 bytes together (`CursorFits`).

`Reaches` is about the user, who asks for pages of any sizes until there is no cursor.
`EntriesFit` is about all entries but the last, since some choice of sizes puts each of them at
the end of a page.  An entry whose path is too long for that is accepted by the store, and then no
page that ends with it can be shown (`long_path_stops_preview`).
-/

namespace MyVault
namespace Runtime

open Check Store
open Program (exec exec_bind_ok exec_reject_ok exec_lift_ok exec_forM_cons_ok exec_transaction_ok)

section Tree

variable (serde : SerdeJson) (u : Unicode) (vaultId : Uuid) (sessionId : VaultSessionId)
  (db : Database) (limits : ℕ → ℕ)

/-- The user asks for one page after the other, each with the cursor of the last. -/
def userPage (call : ℕ) (after : Option String) :
    Except PreviewFailure (List PreviewEntry × Option String) :=
  (preview serde u vaultId sessionId db after (limits call)).map fun page =>
    (page.entries, page.nextAfter)

variable {serde u vaultId sessionId db limits}

/-- What the user asks with: nothing, or the cursor of an entry. -/
def StandsAt (db : Database) (after : Option String) (key : Option (List ℕ ×ₗ List ℕ)) : Prop :=
  (after = none ∧ key = none) ∨ ∃ row ∈ db.remoteEntries, ∃ value, after = some value ∧
    encodePreviewCursor ⟨row.entry.path, row.entry.fileId⟩ = .ok value ∧ key = some row.previewKey

theorem StandsAt.decoded (serde : SerdeJson) {after : Option String}
    {key : Option (List ℕ ×ₗ List ℕ)} (hvalid : EntriesValid u db) (h : StandsAt db after key) :
    ∃ cursor, decodePreviewCursor serde after = .ok cursor ∧ cursor.map (·.previewKey) = key ∧
      ∀ c ∈ cursor, c.validate u = .ok () := by
  rcases h with ⟨rfl, rfl⟩ | ⟨row, hrow, value, rfl, hencode, rfl⟩
  · exact ⟨none, rfl, rfl, nofun⟩
  · refine ⟨some ⟨row.entry.path, row.entry.fileId⟩, decodePreviewCursor_of_encoded hencode, rfl,
      ?_⟩
    intro c hc
    rw [← Option.mem_some.mp hc]
    exact cursor_valid hvalid hrow

variable {state : VaultSyncState} {limit : ℕ} {after : Option String}
  {key : Option (List ℕ ×ₗ List ℕ)}

/-- One call where it stands: the page of the store, and what the front end makes of it. -/
theorem preview_standsAt (serde : SerdeJson) (sessionId : VaultSessionId)
    (hvalid : EntriesValid u db)
    (hstate : exec (loadState vaultId) db = (.ok (some state), db))
    (hlimit : 1 ≤ limit ∧ limit ≤ maxRemotePreviewPageSize) (hat : StandsAt db after key) :
    ∃ cursor page, decodePreviewCursor serde after = .ok cursor ∧
      cursor.map (·.previewKey) = key ∧
      (exec (remotePreview u vaultId cursor limit) db).1 = .ok page ∧
      preview serde u vaultId sessionId db after limit =
        ((previewPage sessionId page).mapError .command >>= fun answer =>
          (mapPreviewPage answer.toJs sessionId.toHyphenated after).mapError .response) := by
  obtain ⟨cursor, hcursor, hkey, hchecked⟩ := hat.decoded serde hvalid
  obtain ⟨page, hpage, -⟩ := exec_remotePreview hstate hlimit hchecked
  have hresult := congrArg Prod.fst hpage
  refine ⟨cursor, page, hcursor, hkey, hresult, ?_⟩
  rw [preview, syncPreview, hcursor, ok_bind, Option.getD_some, hresult]
  rfl

/-- A page with entries after it stands or falls with the cursor of its last entry. -/
theorem preview_more (serde : SerdeJson) (sessionId : VaultSessionId)
    {init rest : List RemoteEntryRow} {last : RemoteEntryRow} (hvalid : EntriesValid u db)
    (hstate : exec (loadState vaultId) db = (.ok (some state), db))
    (hlimit : limit ≤ maxRemotePreviewPageSize) (hat : StandsAt db after key)
    (hrows : rowsAfter RemoteEntryRow.previewKey db.remoteEntries.rows key = init ++ last :: rest)
    (hcount : init.length + 1 = limit) (hrest : rest ≠ []) :
    preview serde u vaultId sessionId db after limit =
      match encodePreviewCursor ⟨last.entry.path, last.entry.fileId⟩ with
      | .error e => .error (.command e)
      | .ok value =>
        if IsText value then
          .ok ⟨sessionId.toHyphenated, (init ++ [last]).map fun row => shown (previewEntry db row),
            some value, true⟩
        else .error (.response "preview cursor response is invalid") := by
  obtain ⟨cursor, page, hcursor, rfl, hpage, hpreview⟩ :=
    preview_standsAt serde sessionId hvalid hstate (show 1 ≤ limit ∧ _ by omega) hat
  obtain ⟨-, hsound, -⟩ := isPage_of_exec_ok hpage
  have haccepted := accepted_of_isPage hvalid (fun row hmem => (mem_rowsAfter.mp hmem).1) hsound
  have hentries := length_entries_le hsound hlimit
  have hlast : last ∈ rowsAfter RemoteEntryRow.previewKey db.remoteEntries.rows
      (cursor.map (·.previewKey)) := hrows ▸ List.mem_append_right _ List.mem_cons_self
  have htake : (init ++ last :: rest).take limit = init ++ [last] := by
    rw [List.append_cons, List.take_append_of_le_length (by simp; omega),
      List.take_of_length_le (by simp; omega)]
  rw [hrows] at hsound
  have hlength : limit < (init ++ last :: rest).length := by
    have hpos := List.length_pos_of_ne_nil hrest
    rw [List.length_append, List.length_cons]
    omega
  have hmore : page.hasMore = true := hsound.hasMore.trans (decide_eq_true hlength)
  have hnext : page.nextAfter = some ⟨last.entry.path, last.entry.fileId⟩ :=
    hsound.nextAfter last (by rw [htake, List.getLast?_concat]; rfl) hlength
  have hshown : page.entries.map shown =
      (init ++ [last]).map fun row => shown (previewEntry db row) := by
    rw [hsound.entries, htake, List.map_map]
    rfl
  rw [hpreview]
  cases hencode : encodePreviewCursor ⟨last.entry.path, last.entry.fileId⟩ with
  | error e =>
      have hanswer : previewPage sessionId page = .error e := by
        rw [previewPage, hnext]
        dsimp only
        rw [hencode]
        rfl
      rw [hanswer]
      rfl
  | ok value =>
      rw [previewPage_of_encoded hnext hencode]
      show (mapPreviewPage _ _ _).mapError _ = _
      rw [mapPreviewPage_of_encoded haccepted hentries hmore
        (encoded_ne_after hcursor hlast hencode), hshown]
      dsimp only
      split <;> rfl

/-- The last page needs no cursor. -/
theorem preview_done (hvalid : EntriesValid u db)
    (hstate : exec (loadState vaultId) db = (.ok (some state), db))
    (hlimit : 1 ≤ limit ∧ limit ≤ maxRemotePreviewPageSize) (hat : StandsAt db after key)
    (hrows : (rowsAfter RemoteEntryRow.previewKey db.remoteEntries.rows key).length ≤ limit) :
    preview serde u vaultId sessionId db after limit =
      .ok ⟨sessionId.toHyphenated,
        (rowsAfter RemoteEntryRow.previewKey db.remoteEntries.rows key).map fun row =>
          shown (previewEntry db row), none, false⟩ := by
  obtain ⟨cursor, page, -, rfl, hpage, hpreview⟩ :=
    preview_standsAt serde sessionId hvalid hstate hlimit hat
  obtain ⟨-, hsound, hnone⟩ := isPage_of_exec_ok hpage
  have haccepted := accepted_of_isPage hvalid (fun row hmem => (mem_rowsAfter.mp hmem).1) hsound
  have hentries := length_entries_le hsound hlimit.2
  have hmore : page.hasMore = false := hsound.hasMore.trans (decide_eq_false (by omega))
  have hanswer : previewPage sessionId page =
      .ok ⟨sessionId, page.entries.map previewEntryDto, none, page.hasMore⟩ := by
    rw [previewPage, hnone hmore]
    rfl
  rw [hpreview, hanswer]
  show (mapPreviewPage _ _ _).mapError _ = _
  rw [mapPreviewPage_of_last haccepted hentries hmore, hsound.entries,
    List.take_of_length_le hrows, List.map_map]
  rfl

/-- **The user comes to the end of the tree.** -/
def Reaches (serde : SerdeJson) (u : Unicode) (vaultId : Uuid) (sessionId : VaultSessionId)
    (db : Database) (limits : ℕ → ℕ) : Prop :=
  ∀ calls, db.remoteEntries.rows.length < calls →
    ∃ pages, readPages (userPage serde u vaultId sessionId db limits) calls 0 none =
        .ok (some pages) ∧
      pages.flatten = (rowsAfter RemoteEntryRow.previewKey db.remoteEntries.rows none).map
        fun row => shown (previewEntry db row)

/-- With page sizes the store takes. -/
def PageSizes (limits : ℕ → ℕ) : Prop :=
  ∀ call, 1 ≤ limits call ∧ limits call ≤ maxRemotePreviewPageSize

theorem pageSizes_one : PageSizes fun _ => 1 :=
  fun _ => ⟨le_refl 1, show 1 ≤ maxRemotePreviewPageSize by decide⟩

/-- Every entry that has another after it fits. -/
def EntriesFit (db : Database) : Prop :=
  ∀ row ∈ db.remoteEntries, ∀ later ∈ db.remoteEntries, row.previewKey < later.previewKey →
    CursorFits row.entry.path row.entry.fileId

theorem exists_later {init rest : List RemoteEntryRow} {last : RemoteEntryRow}
    (hrows : rowsAfter RemoteEntryRow.previewKey db.remoteEntries.rows key = init ++ last :: rest)
    (hrest : rest ≠ []) : last ∈ db.remoteEntries ∧
      ∃ later ∈ db.remoteEntries, last.previewKey < later.previewKey := by
  obtain ⟨later, rest, rfl⟩ := List.exists_cons_of_ne_nil hrest
  have hmem : ∀ row ∈ init ++ last :: later :: rest, row ∈ db.remoteEntries :=
    fun row hrow => (mem_rowsAfter.mp (hrows ▸ hrow)).1
  have hsorted : (rowsAfter RemoteEntryRow.previewKey db.remoteEntries.rows key).Pairwise
      fun a b => a.previewKey < b.previewKey := pairwise_rowsAfter nodup_previewKey
  rw [hrows] at hsorted
  have hlast := (List.pairwise_cons.mp (List.pairwise_append.mp hsorted).2.1).1
  exact ⟨hmem last (by simp), later, hmem later (by simp), hlast later List.mem_cons_self⟩

theorem reaches_of_entriesFit (hvalid : EntriesValid u db)
    (hstate : exec (loadState vaultId) db = (.ok (some state), db)) (hlimits : PageSizes limits)
    (hfit : EntriesFit db) : Reaches serde u vaultId sessionId db limits := by
  intro calls hcalls
  have hstart : StandsAt db none none := Or.inl ⟨rfl, rfl⟩
  refine readPages_eq nodup_previewKey (fun call => (hlimits call).1) ?_ ?_ calls 0 hstart
    (by rwa [rowsAfter_none_perm.length_eq])
  · intro call after key init last rest hat hrows hcount hrest
    obtain ⟨hmem, later, hlater, hlt⟩ := exists_later hrows hrest
    have haccepted := accepted_of_valid hvalid hmem
    have hfits := hfit last hmem later hlater hlt
    obtain ⟨value, hencode⟩ := exists_encoded haccepted hfits
    have htext := (isText_iff_cursorFits haccepted hencode).mpr hfits
    refine ⟨value, ?_, Or.inr ⟨last, hmem, value, rfl, hencode, rfl⟩⟩
    rw [userPage, preview_more serde sessionId hvalid hstate (hlimits call).2 hat hrows hcount
      hrest, hencode]
    dsimp only
    rw [if_pos htext]
    rfl
  · intro call after key hat hrows
    rw [userPage, preview_done hvalid hstate (hlimits call) hat hrows]
    rfl

/-- An entry that has another after it, in the order of the pages. -/
theorem exists_split {row later : RemoteEntryRow} (hrow : row ∈ db.remoteEntries)
    (hlater : later ∈ db.remoteEntries) (hlt : row.previewKey < later.previewKey) :
    ∃ init rest, rowsAfter RemoteEntryRow.previewKey db.remoteEntries.rows none =
      init ++ row :: rest ∧ rest ≠ [] := by
  have hmem : row ∈ rowsAfter RemoteEntryRow.previewKey db.remoteEntries.rows none :=
    mem_rowsAfter.mpr ⟨hrow, nofun⟩
  obtain ⟨init, rest, hrows⟩ := List.append_of_mem hmem
  refine ⟨init, rest, hrows, ?_⟩
  rintro rfl
  have hsorted : (rowsAfter RemoteEntryRow.previewKey db.remoteEntries.rows none).Pairwise
      fun a b => a.previewKey < b.previewKey := pairwise_rowsAfter nodup_previewKey
  have hthere : later ∈ rowsAfter RemoteEntryRow.previewKey db.remoteEntries.rows none :=
    mem_rowsAfter.mpr ⟨hlater, nofun⟩
  rw [hrows] at hsorted hthere
  rcases List.mem_append.mp hthere with hbefore | hlast
  · have hle := (List.pairwise_append.mp hsorted).2.2 later hbefore row List.mem_cons_self
    exact absurd hlt hle.not_gt
  · rw [List.mem_singleton.mp hlast] at hlt
    exact absurd hlt (lt_irrefl _)

/-- Entry by entry, the user passes every one that has another after it. -/
theorem entriesFit_of_reaches (hvalid : EntriesValid u db)
    (hstate : exec (loadState vaultId) db = (.ok (some state), db))
    (hreaches : Reaches serde u vaultId sessionId db fun _ => 1) : EntriesFit db := by
  intro row hrow later hlater hlt
  obtain ⟨pages, hpages, -⟩ := hreaches _ (Nat.lt_succ_self _)
  obtain ⟨init, rest, hrows, hrest⟩ := exists_split hrow hlater hlt
  have hstart : StandsAt db none none := Or.inl ⟨rfl, rfl⟩
  refine given_of_readPages nodup_previewKey
    (fun row => CursorFits row.entry.path row.entry.fileId) ?_ hstart hpages hrows hrest
  intro call after key last rest entries next hat hrows hrest hpage
  have hwhole : rowsAfter RemoteEntryRow.previewKey db.remoteEntries.rows key =
      [] ++ last :: rest := hrows
  have hmem := (exists_later hwhole hrest).1
  have hmax : 1 ≤ maxRemotePreviewPageSize := by decide
  have hone := preview_more serde sessionId hvalid hstate hmax hat hwhole rfl hrest
  rw [userPage, hone] at hpage
  cases hencode : encodePreviewCursor ⟨last.entry.path, last.entry.fileId⟩ with
  | error e =>
      rw [hencode] at hpage
      cases hpage
  | ok value =>
      rw [hencode] at hpage
      dsimp only at hpage
      by_cases htext : IsText value
      · rw [if_pos htext] at hpage
        cases hpage
        exact ⟨(isText_iff_cursorFits (accepted_of_valid hvalid hmem) hencode).mp htext, value, rfl,
          Or.inr ⟨last, hmem, value, rfl, hencode, rfl⟩⟩
      · rw [if_neg htext] at hpage
        cases hpage

variable (serde u vaultId sessionId)

/-- **A cursor survives exactly if its path and id fit.**  Behind the last entry of a page
that has another after it, the cursor is encoded, taken by the front end and decoded again
exactly if the two are at most 3049 bytes together; and the user comes to the end of the
tree, whatever the page sizes, exactly if every entry but the last one fits. -/
theorem preview_cursor_survives_iff (sha256 : Sha256) (ops : List Operation) :
    (∀ after cursor limit page last, decodePreviewCursor serde after = .ok cursor →
      (exec (remotePreview u vaultId cursor limit) (runStore u sha256 vaultId ops)).1 = .ok page →
      page.entries.getLast? = some last → page.hasMore = true →
        (Survives serde sessionId after page last ↔ CursorFits last.path last.fileId)) ∧
    ∀ state, (exec (loadState vaultId) (runStore u sha256 vaultId ops)).1 = .ok (some state) →
      ((∀ limits, PageSizes limits →
        Reaches serde u vaultId sessionId (runStore u sha256 vaultId ops) limits) ↔
          EntriesFit (runStore u sha256 vaultId ops)) := by
  have hvalid : EntriesValid u (runStore u sha256 vaultId ops) := entriesValid_runStore ops
  refine ⟨fun after cursor limit page last hafter hpage hlast hmore =>
    survives_iff hvalid hafter hpage hlast hmore, fun state hloaded => ?_⟩
  have hkeeps : Program.Keeps Eq (loadState vaultId) := inferInstance
  have hstate : exec (loadState vaultId) (runStore u sha256 vaultId ops) =
      (.ok (some state), runStore u sha256 vaultId ops) :=
    Prod.ext hloaded (hkeeps.exec_rel _).symm
  constructor
  · intro hreaches
    exact entriesFit_of_reaches hvalid hstate (hreaches _ pageSizes_one)
  · intro hfit limits hlimits
    exact reaches_of_entriesFit hvalid hstate hlimits hfit

/-- The first page of two files of one name. -/
def sameNamePage : RemotePreviewPage where
  entries := [⟨"x", "remote-root", "file", .file, true⟩]
  nextAfter := some ⟨"file", "x"⟩
  hasMore := true
  totalEntries := 2
  collidingEntries := 2
  rescanRequired := false

theorem preview_cursor_of_same_name :
    Survives SerdeJson.compact sampleVaultId none sameNamePage
        ⟨"x", "remote-root", "file", .file, true⟩ ∧
      Reaches SerdeJson.compact Unicode.ascii sampleVaultId sampleVaultId
        (runStore Unicode.ascii constantDigest sampleVaultId sameNameRun) fun _ => 1 := by
  obtain ⟨hpages, hends⟩ := preview_cursor_survives_iff SerdeJson.compact Unicode.ascii
    sampleVaultId sampleVaultId constantDigest sameNameRun
  refine ⟨(hpages none none 1 _ _ rfl (by decide +kernel) rfl rfl).mpr (by decide), ?_⟩
  have hfits : (runStore Unicode.ascii constantDigest sampleVaultId
      sameNameRun).remoteEntries.rows.all (fun row =>
        decide (CursorFits row.entry.path row.entry.fileId)) = true := by
    decide +kernel
  have hloaded : ((exec (loadState sampleVaultId) (runStore Unicode.ascii constantDigest
      sampleVaultId sameNameRun)).1.toOption.bind id).isSome = true := by decide +kernel
  cases hresult : (exec (loadState sampleVaultId)
      (runStore Unicode.ascii constantDigest sampleVaultId sameNameRun)).1 with
  | error e =>
      rw [hresult] at hloaded
      exact absurd hloaded Bool.false_ne_true
  | ok result =>
      rw [hresult] at hloaded
      obtain ⟨state, rfl⟩ := Option.isSome_iff_exists.mp hloaded
      refine (hends state hresult).mpr ?_ _ pageSizes_one
      intro row hrow _ _ _
      exact of_decide_eq_true (List.all_eq_true.mp hfits row hrow)

end Tree

/-! ## A path that is too long for the cursor -/

/-- Names that are their own collision keys make a path of the content. -/
theorem isContentPath_joinSlash {u : Unicode} {components : List Text} (hne : components ≠ [])
    (hnamed : ∀ c ∈ components, c ≠ [] ∧ c ≠ ['.'] ∧ '/' ∉ c)
    (hportable : ∀ c ∈ components, VaultPath.PortableComponent u c)
    (hkey : ∀ c ∈ components, VaultPath.componentCollisionKey u c = c)
    (hroot : ∀ c ∈ components, c ≠ ".obsidian".toList ∧ c ≠ ".trash".toList)
    (hfits : VaultPath.PathFits components)
    (hparse : ¬ (joinSlash components = [] ∨ (joinSlash components).head? = some '/' ∨
      ['.', '/'] <+: joinSlash components ∨ '\\' ∈ joinSlash components)) :
    isContentPath u (String.ofList (joinSlash components)) = true := by
  have hkept := VaultPath.keptComponents_joinSlash hne hnamed
  obtain ⟨path, hfrom, hpath⟩ : ∃ path : VaultPath u,
      VaultPath.fromPortable u (joinSlash components) = some path ∧
        path.components = VaultPath.keptComponents (joinSlash components) := by
    have hcomponents : ∀ c ∈ VaultPath.keptComponents (joinSlash components),
        VaultPath.PortableComponent u c := by rwa [hkept]
    have hkeptFits : VaultPath.PathFits (VaultPath.keptComponents (joinSlash components)) := by
      rwa [hkept]
    refine ⟨⟨_, hcomponents, VaultPath.named_keptComponents _, hkeptFits⟩, ?_, rfl⟩
    rw [VaultPath.fromPortable, if_neg hparse]
    dsimp only
    rw [dif_pos hcomponents, dif_pos hkeptFits]
  rw [hkept] at hpath
  obtain ⟨first, rest, rfl⟩ := List.exists_cons_of_ne_nil hne
  have hfirst := List.mem_cons_self (a := first) (l := rest)
  have hkeys : collisionKey path = joinSlash (first :: rest) := by
    rw [collisionKey, hpath, List.map_congr_left hkey, List.map_id']
  have hsplit : splitSlash (joinSlash (first :: rest)) = first :: rest :=
    List.splitOn_intercalate '/' (fun c hc => (hnamed c hc).2.2) hne
  have hmetadata : isObsidianMetadata path = false := by
    rw [isObsidianMetadata, hpath, List.head?_cons, Option.any_some, hkey first hfirst,
      beq_eq_false_iff_ne]
    exact (hroot first hfirst).1
  have hstr : path.asStr = joinSlash (first :: rest) := by rw [VaultPath.asStr, hpath]
  have hobsidian : (first == ".obsidian".toList) = false :=
    beq_eq_false_iff_ne.mpr (hroot first hfirst).1
  have htrash : (first == ".trash".toList) = false :=
    beq_eq_false_iff_ne.mpr (hroot first hfirst).2
  have htext : (String.ofList (joinSlash (first :: rest))).toList = joinSlash (first :: rest) :=
    String.toList_ofList
  rw [isContentPath, htext, hfrom, Option.any_some, hkeys, hsplit, List.head?_cons,
    Option.any_some, hmetadata, hstr]
  dsimp only
  rw [hobsidian, htrash, beq_self_eq_true]
  rfl

/-- A name of 250 letters. -/
def longName : Text := List.replicate 250 'a'

/-- Thirteen of them: a path of 3262 bytes. -/
def longComponents : List Text := List.replicate 13 longName

/-- A path of many long names. -/
def longPath : String := String.ofList (joinSlash longComponents)

theorem length_joinSlash_longComponents : (joinSlash longComponents).length = 3262 := by
  have hname : longName.length = 250 := List.length_replicate
  simp [joinSlash, longComponents, List.replicate, List.intercalate_cons_cons, hname]

theorem mem_longPath {c : Char} (h : c ∈ joinSlash longComponents) : c = '/' ∨ c = 'a' := by
  refine (mem_joinSlash h).imp_right fun ⟨name, hname, hc⟩ => ?_
  rw [List.eq_of_mem_replicate hname] at hc
  exact List.eq_of_mem_replicate hc

theorem ascii_longPath : ∀ c ∈ joinSlash longComponents, c.toNat < 128 := by
  intro c hc
  rcases mem_longPath hc with rfl | rfl <;> decide

theorem isContentPath_longPath : isContentPath Unicode.ascii longPath = true := by
  have hall : ∀ {P : Text → Prop}, P longName → ∀ c ∈ longComponents, P c :=
    fun hname c hc => List.eq_of_mem_replicate hc ▸ hname
  have hne : longComponents ≠ [] := List.ne_nil_of_length_pos (by decide)
  refine isContentPath_joinSlash hne (hall (by decide +kernel)) (hall (by decide +kernel))
    (hall (by decide +kernel)) (hall (by decide +kernel)) ?_ ?_
  · rw [VaultPath.PathFits, utf8Len_of_ascii ascii_longPath, utf16Len_of_ascii ascii_longPath,
      length_joinSlash_longComponents]
    exact ⟨hne, by decide, by decide⟩
  · have hhead : (joinSlash longComponents).head? = some 'a' := by decide +kernel
    rintro (hempty | hroot | ⟨rest, hrelative⟩ | hback)
    · rw [hempty] at hhead
      cases hhead
    · rw [hhead] at hroot
      exact absurd hroot (by decide)
    · rw [← hrelative, List.cons_append, List.head?_cons] at hhead
      exact absurd hhead (by decide)
    · rcases mem_longPath hback with hc | hc <;> exact absurd hc (by decide)

/-- An entry with that path. -/
def longEntry : RemoteEntry := sampleEntry "x" "remote-root" longPath .file

/-- An entry after it. -/
def laterEntry : RemoteEntry := sampleEntry "y" "remote-root" "z" .file

/-- The scan of an empty root. -/
def drainingRun : List Operation :=
  bindRun ++ [.beginInitialScan "start-1" 2, .applyScanPage none ⟨[], none⟩ 3]

/-- Then an entry is reported, and another one. -/
def reportingRun (entry : RemoteEntry) : List Operation :=
  drainingRun ++ [.applyChangesPage "start-1"
    ⟨[.upsert entry, .upsert laterEntry], none, some "durable-1"⟩ 4]

theorem validate_longEntry : longEntry.validate Unicode.ascii = .ok () := by
  have hpath : validateContentPath Unicode.ascii longEntry.path = .ok () := by
    rw [validateContentPath, reject_eq_ok]
    show ¬ (!isContentPath Unicode.ascii longPath) = true
    rw [isContentPath_longPath]
    decide
  have hfileId : validateRemoteId longEntry.fileId = .ok () := by decide +kernel
  have hparentId : validateRemoteId longEntry.parentId = .ok () := by decide +kernel
  have hrevision : validateRemoteToken longEntry.remoteRevision = .ok () := by decide +kernel
  rw [RemoteEntry.validate, hfileId, ok_bind, hparentId, ok_bind, hpath, ok_bind, hrevision]
  rfl

/-- The state after a drain. -/
def readyState (durable : String) (now : ℕ) (state : VaultSyncState) : VaultSyncState :=
  { state with
    phase := .ready
    startToken := none
    scanPageToken := none
    changesPageToken := none
    durableCursor := some durable
    updatedAtUnixMs := now }

/-- The last page of a drain that reports two entries, both of which pass their checks. -/
theorem exec_applyChangesPage_two {u : Unicode} {vaultId : Uuid} {db : Database}
    {state : VaultSyncState} {first second : RemoteEntry} (cursor : String)
    {durable : String} (now : ℕ)
    (hcursor : validateRemoteToken cursor = .ok ())
    (hpage : (ChangesPage.mk [.upsert first, .upsert second] none (some durable)).validate u =
      .ok ())
    (hfirst : first.validate u = .ok ()) (hsecond : second.validate u = .ok ())
    (hnow : u64ToI64 now = .ok ()) (hstate : exec (requireState vaultId) db = (.ok state, db))
    (hphase : state.phase = .draining) (htoken : state.changesPageToken = some cursor) :
    ∃ t, exec (applyChangesPage u vaultId cursor
        ⟨[.upsert first, .upsert second], none, some durable⟩ now) db = (.ok (), t) ∧
      t.remoteEntries = upsertRow (upsertRow db.remoteEntries first) second ∧
      t.vaultState = db.vaultState.map (readyState durable now) := by
  have hupsert : ∀ (entry : RemoteEntry) (db : Database), entry.validate u = .ok () →
      exec (applyChange u (.upsert entry)) db =
        (.ok (), { db with remoteEntries := upsertRow db.remoteEntries entry }) :=
    fun entry db hentry => exec_bind_ok.mpr ⟨(), db, exec_lift_ok.mpr ⟨hentry, rfl⟩, rfl⟩
  have hchanges : exec ([.upsert first, .upsert second].forM (applyChange u)) db =
      (.ok ⟨⟩, { db with remoteEntries := upsertRow (upsertRow db.remoteEntries first) second }) :=
    exec_forM_cons_ok.mpr ⟨(), _, hupsert first db hfirst,
      exec_forM_cons_ok.mpr ⟨(), _, hupsert second _ hsecond, rfl⟩⟩
  have hdrains : exec (Program.reject (state.phase ≠ .draining) .invalidStateTransition) db =
      ((.ok () : Except Store.Error Unit), db) := exec_reject_ok.mpr ⟨not_not.mpr hphase, rfl⟩
  have hwaits : exec (Program.reject (state.changesPageToken ≠ some cursor) .cursorMismatch) db =
      ((.ok () : Except Store.Error Unit), db) := exec_reject_ok.mpr ⟨not_not.mpr htoken, rfl⟩
  have hdone : ∀ (page : ChangesPage) (db : Database), page.newStartPageToken = some durable →
      ∃ t, exec (advanceDrain page now none) db = (.ok (), t) ∧
        t.remoteEntries = db.remoteEntries ∧
        t.vaultState = db.vaultState.map (readyState durable now) := by
    intro page db hdurable
    rw [advanceDrain, hdurable]
    exact ⟨_, rfl, rfl, rfl⟩
  obtain ⟨t, hadvanced, hentries⟩ := hdone ⟨[.upsert first, .upsert second], none, some durable⟩
    { db with remoteEntries := upsertRow (upsertRow db.remoteEntries first) second } rfl
  refine ⟨t, ?_, hentries⟩
  rw [applyChangesPage]
  refine exec_bind_ok.mpr ⟨(), db, exec_lift_ok.mpr ⟨hcursor, rfl⟩, ?_⟩
  refine exec_bind_ok.mpr ⟨(), db, exec_lift_ok.mpr ⟨hpage, rfl⟩, ?_⟩
  refine exec_bind_ok.mpr ⟨(), db, exec_lift_ok.mpr ⟨hnow, rfl⟩, exec_transaction_ok.mpr ?_⟩
  refine exec_bind_ok.mpr ⟨state, db, hstate, exec_bind_ok.mpr ⟨(), db, hdrains, ?_⟩⟩
  exact exec_bind_ok.mpr ⟨(), db, hwaits, exec_bind_ok.mpr ⟨⟨⟩, _, hchanges, hadvanced⟩⟩

theorem validate_laterEntry : laterEntry.validate Unicode.ascii = .ok () := by decide +kernel

theorem loadState_congr {vaultId : Uuid} {a b : Database} (h : a.vaultState = b.vaultState) :
    (exec (loadState vaultId) a).1 = (exec (loadState vaultId) b).1 := by
  simp only [loadState, Program.exec_bind, Program.exec_read, Program.exec_lift, h]
  cases each (checkStateRow vaultId) b.vaultState.toList <;> rfl

/-- The store takes both entries. -/
theorem stored_reportingRun {first : RemoteEntry} (hfirst : first.validate Unicode.ascii = .ok ())
    (hne : first.fileId ≠ laterEntry.fileId) :
    (∀ entry, entry ∈ (runStore Unicode.ascii constantDigest sampleVaultId
      (reportingRun first)).remoteEntries.rows.map (·.entry) ↔
        entry = laterEntry ∨ entry = first) ∧
      ∃ state, (exec (loadState sampleVaultId) (runStore Unicode.ascii constantDigest sampleVaultId
        (reportingRun first))).1 = .ok (some state) := by
  have hpage : (ChangesPage.mk [.upsert first, .upsert laterEntry] none
      (some "durable-1")).validate Unicode.ascii = .ok () := by
    rw [ChangesPage.validate]
    simp only [each, RemoteChange.validate, hfirst, validate_laterEntry, ok_bind]
    decide +kernel
  obtain ⟨state, hstate, hphase, htoken⟩ : ∃ state,
      (exec (requireState sampleVaultId) (runStore Unicode.ascii constantDigest sampleVaultId
        drainingRun)).1 = .ok state ∧ state.phase = .draining ∧
          state.changesPageToken = some "start-1" := by
    have hwaits : ((exec (requireState sampleVaultId) (runStore Unicode.ascii constantDigest
        sampleVaultId drainingRun)).1.toOption.map fun state =>
          (state.phase, state.changesPageToken)) = some (.draining, some "start-1") := by
      decide +kernel
    cases hresult : (exec (requireState sampleVaultId) (runStore Unicode.ascii constantDigest
        sampleVaultId drainingRun)).1 with
    | error e =>
        rw [hresult] at hwaits
        cases hwaits
    | ok state =>
        rw [hresult] at hwaits
        obtain ⟨hphase, htoken⟩ := Prod.mk.inj (Option.some.inj hwaits)
        exact ⟨state, rfl, hphase, htoken⟩
  have hempty : (runStore Unicode.ascii constantDigest sampleVaultId
      drainingRun).remoteEntries.rows = [] := by decide +kernel
  have hkeeps : Program.Keeps Eq (requireState sampleVaultId) := inferInstance
  obtain ⟨t, hrun, hentries, hvault⟩ := exec_applyChangesPage_two "start-1" 4 (by decide +kernel)
    hpage hfirst validate_laterEntry (by decide +kernel)
    (Prod.ext hstate (hkeeps.exec_rel _).symm) hphase htoken
  have hstep : runStore Unicode.ascii constantDigest sampleVaultId (reportingRun first) = t := by
    rw [reportingRun, runStore_concat]
    exact congrArg Prod.snd (exec_replying_ok (r := .done).mpr ⟨(), hrun, rfl⟩)
  rw [hstep]
  constructor
  · intro entry
    rw [hentries, mem_entries_upsertRow, mem_entries_upsertRow, hempty]
    constructor
    · rintro (rfl | ⟨rfl | ⟨hnone, -⟩, -⟩)
      · exact Or.inl rfl
      · exact Or.inr rfl
      · cases hnone
    · rintro (rfl | rfl)
      · exact Or.inl rfl
      · exact Or.inr ⟨Or.inl rfl, hne⟩
  · have hready : ((exec (loadState sampleVaultId) { Database.empty with
        vaultState := (runStore Unicode.ascii constantDigest sampleVaultId
          drainingRun).vaultState.map (readyState "durable-1" 4) }).1.toOption.bind id).isSome =
            true := by decide +kernel
    rw [← loadState_congr (a := t) hvault] at hready
    cases hloaded : (exec (loadState sampleVaultId) t).1 with
    | error e =>
        rw [hloaded] at hready
        cases hready
    | ok result =>
        rw [hloaded] at hready
        obtain ⟨state, rfl⟩ := Option.isSome_iff_exists.mp hready
        exact ⟨state, rfl⟩

theorem previewKey_lt {path path' fileId fileId' : String} (h : binary path < binary path') :
    previewKey path fileId < previewKey path' fileId' :=
  Prod.Lex.toLex_lt_toLex.mpr (Or.inl h)

/-- The long path begins with the smaller letter. -/
theorem binary_longPath_lt : binary longPath < binary "z" := by
  obtain ⟨rest, hrest⟩ : ∃ rest, joinSlash longComponents = 'a' :: rest := by
    have hhead : (joinSlash longComponents).head? = some 'a' := by decide +kernel
    exact List.head?_eq_some_iff.mp hhead
  have hlong : binary longPath = 97 :: (utf8Bytes rest).map UInt8.toNat := by
    rw [binary, strBytes, longPath, String.toList_ofList, hrest]
    rfl
  have hlater : binary "z" = [122] := by decide +kernel
  rw [hlong, hlater, List.cons_lt_cons_iff]
  exact Or.inl (by decide)

theorem strLen_longPath : strLen longPath = 3262 := by
  rw [strLen, longPath, String.toList_ofList, utf8Len_of_ascii ascii_longPath,
    length_joinSlash_longComponents]

/-- The path is one the store takes, and its cursor is 3286 bytes of JSON.  They are encoded in
4382 characters, so the front end does not take the page, and the user does not get past it. -/
theorem long_path_stops_preview :
    (¬ ∀ after cursor limit page last,
      decodePreviewCursor SerdeJson.compact after = .ok cursor →
      (exec (remotePreview Unicode.ascii sampleVaultId cursor limit)
        (runStore Unicode.ascii constantDigest sampleVaultId (reportingRun longEntry))).1 =
          .ok page →
      page.entries.getLast? = some last → page.hasMore = true →
        Survives SerdeJson.compact sampleVaultId after page last) ∧
    ¬ Reaches SerdeJson.compact Unicode.ascii sampleVaultId sampleVaultId
      (runStore Unicode.ascii constantDigest sampleVaultId (reportingRun longEntry))
      fun _ => 1 := by
  obtain ⟨hstored, state, hloaded⟩ := stored_reportingRun validate_longEntry (by decide)
  have hvalid : EntriesValid Unicode.ascii (runStore Unicode.ascii constantDigest sampleVaultId
    (reportingRun longEntry)) := entriesValid_runStore (reportingRun longEntry)
  have hlong : ¬ CursorFits longEntry.path longEntry.fileId := by
    have hpath : longEntry.path = longPath := rfl
    rw [CursorFits, hpath, strLen_longPath]
    omega
  have hlt : previewKey longEntry.path longEntry.fileId <
      previewKey laterEntry.path laterEntry.fileId := previewKey_lt binary_longPath_lt
  generalize longEntry = entry at *
  generalize runStore Unicode.ascii constantDigest sampleVaultId (reportingRun entry) = db at *
  obtain ⟨row, hrow, rfl⟩ := List.mem_map.mp ((hstored entry).mpr (Or.inr rfl))
  obtain ⟨later, hlater, hentry⟩ := List.mem_map.mp ((hstored laterEntry).mpr (Or.inl rfl))
  rw [← hentry] at hlt
  have hkeeps : Program.Keeps Eq (loadState sampleVaultId) := inferInstance
  have hstate : exec (loadState sampleVaultId) db = (.ok (some state), db) :=
    Prod.ext hloaded (hkeeps.exec_rel _).symm
  constructor
  · intro hsurvives
    obtain ⟨init, rest, hrows, hrest⟩ := exists_split hrow hlater hlt
    have hinit : init = [] := by
      refine List.eq_nil_iff_forall_not_mem.mpr fun other hother => ?_
      have hsorted : (rowsAfter RemoteEntryRow.previewKey db.remoteEntries.rows none).Pairwise
          fun a b => a.previewKey < b.previewKey := pairwise_rowsAfter nodup_previewKey
      rw [hrows] at hsorted
      have hbefore := (List.pairwise_append.mp hsorted).2.2 other hother row List.mem_cons_self
      have hmem : other ∈ db.remoteEntries :=
        (mem_rowsAfter.mp (hrows ▸ List.mem_append_left _ hother)).1
      rcases (hstored other.entry).mp (List.mem_map_of_mem hmem) with hsame | hsame
      · rw [RemoteEntryRow.previewKey, hsame, ← hentry] at hbefore
        exact absurd (hbefore.trans hlt) (lt_irrefl _)
      · rw [RemoteEntryRow.previewKey, hsame] at hbefore
        exact absurd hbefore (lt_irrefl _)
    subst hinit
    obtain ⟨page, hpage, hsound⟩ : ∃ page,
        exec (remotePreview Unicode.ascii sampleVaultId none 1) db = (.ok page, db) ∧
          IsPage db (rowsAfter RemoteEntryRow.previewKey db.remoteEntries.rows none) 1 page :=
      exec_remotePreview hstate ⟨le_refl 1, by decide⟩ (by rintro _ ⟨⟩)
    rw [hrows] at hsound
    have hmore : page.hasMore = true := by
      obtain ⟨next, rest, rfl⟩ := List.exists_cons_of_ne_nil hrest
      rw [hsound.hasMore]
      simp
    have hlast : page.entries.getLast? = some (previewEntry db row) := by
      rw [hsound.entries]
      rfl
    have hpage' := congrArg Prod.fst hpage
    exact hlong ((survives_iff hvalid rfl hpage' hlast hmore).mp
      (hsurvives none none 1 page _ rfl hpage' hlast hmore))
  · intro hreaches
    exact hlong (entriesFit_of_reaches hvalid hstate hreaches row hrow later hlater hlt)

end Runtime
end MyVault
