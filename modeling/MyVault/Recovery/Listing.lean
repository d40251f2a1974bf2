import MyVault.Recovery.Calls

/-!
# The lists of the recovery journal

`list_evidence_page` and `list_page` on a disk whose entries hold records.  Both go through
the children of the directory, in whatever order it gives them, and keep the intents that
have no tombstone (`scanEvidence_eq`, `scanActive_eq`); what a page selects of them are the
rows after its cursor (`filter_sortedOnce`).  So a reader that goes from page to page gets
every open intent once, in the order of the identifiers (`evidence_pages_eq`,
`list_pages_eq`).
-/

namespace MyVault
namespace Recovery

open Check

/-! ## Names -/

theorem stripSuffix_append (t suffix : Text) : stripSuffix suffix (t ++ suffix) = some t := by
  rw [stripSuffix, if_pos (List.isSuffixOf_iff_suffix.mpr (List.suffix_append t suffix)),
    List.length_append, Nat.add_sub_cancel, List.take_left]

theorem parseEntryName_json (t : Text) :
    parseEntryName (t ++ ".json".toList) = Uuid.parseCanonical t := by
  rw [parseEntryName, stripSuffix_append, Option.bind_some]

theorem parseEntryName_tmp (t : Text) : parseEntryName (t ++ ".tmp".toList) = none := by
  have hnot : ¬ ".json".toList <:+ t ++ ".tmp".toList := by
    rintro ⟨init, hsame⟩
    have hlast := congrArg List.getLast? hsame
    rw [List.getLast?_append_of_ne_nil _ (by decide),
      List.getLast?_append_of_ne_nil _ (by decide)] at hlast
    exact absurd hlast (by decide)
  rw [parseEntryName, stripSuffix, if_neg (List.isSuffixOf_iff_suffix.not.mpr hnot),
    Option.bind_none]

theorem nameText_entry (operationId : Uuid) : nameText (some (.entry operationId)) =
    operationId.toHyphenated.toList ++ ".json".toList := rfl

theorem nameText_temporary (draw : Uuid) : nameText (some (.temporary draw)) =
    ".publish-".toList ++ (draw.toHyphenated.toList ++ ".tmp".toList) := rfl

/-- The name of an entry says its operation. -/
theorem parseEntryName_entry (operationId : Uuid) :
    parseEntryName (nameText (some (.entry operationId))) = some operationId := by
  rw [nameText_entry, parseEntryName_json, Uuid.parseCanonical_eq_some_iff]

/-- The name of a temporary file is none of an entry. -/
theorem parseEntryName_temporary (draw : Uuid) :
    parseEntryName (nameText (some (.temporary draw))) = none := by
  rw [nameText_temporary, ← List.append_assoc, parseEntryName_tmp]

theorem parseEntryName_completed : parseEntryName (nameText none) = none := by decide

/-! ## Reading -/

variable {host : Host} {intents : RenameMoveIntent → Prop} {d : Disk}

/-- The intent was published and has no tombstone. -/
structure Disk.IsOpen (d : Disk) (intent : RenameMoveIntent) : Prop where
  published : d.Holds .journal intent.operationId (utf8Bytes intent.json)
  notCompleted : d.file .completed (.entry intent.operationId) = none

/-- What a tombstone suppresses. -/
theorem hasValidCompletionFor_eq (hd : d.Sound host intents) (hreads : host.Reads intents)
    {intent : RenameMoveIntent} (hintent : intents intent)
    (hholds : d.Holds .journal intent.operationId (utf8Bytes intent.json)) :
    hasValidCompletionFor host d intent =
      (d.file .completed (.entry intent.operationId)).isSome := by
  rw [hasValidCompletionFor, hd.readRawIfExists]
  cases hnode : d.file .completed (.entry intent.operationId) with
  | none => rfl
  | some node =>
      obtain ⟨-, other, hother, hrecord⟩ := hd _ _ _ hnode
      obtain rfl : intent = other :=
        hreads.injective hintent hother (hholds.unique (hrecord.published rfl))
      have hbytes : node.bytes = utf8Bytes (tombstoneOf host intent).json := hrecord.bytes
      have htombstone := hreads.tombstone intent _ hother hrecord.publishable.forIntent
      rw [Option.map_some]
      dsimp only
      rw [hbytes, htombstone]
      dsimp only
      rw [decide_eq_true hrecord.publishable.validateFor, decide_eq_true rfl]
      rfl

/-- An entry is read as the intent it holds. -/
structure Reading (host : Host) (intents : RenameMoveIntent → Prop) (d : Disk)
    (intent : RenameMoveIntent) : Prop where
  used : intents intent
  holds : d.Holds .journal intent.operationId (utf8Bytes intent.json)
  read : read host d intent.operationId = .ok intent
  evidence : readEvidence host d intent.operationId = .ok (.supported intent)
  completion : hasValidCompletionFor host d intent =
    (d.file .completed (.entry intent.operationId)).isSome

theorem Disk.Sound.reading (hd : d.Sound host intents) (hreads : host.Reads intents)
    {operationId : Uuid} {node : FileNode}
    (hnode : d.file .journal (.entry operationId) = some node) :
    ∃ intent, intent.operationId = operationId ∧ Reading host intents d intent := by
  obtain ⟨-, intent, hintent, hrecord⟩ := hd _ _ _ hnode
  obtain rfl := hrecord.identified
  have hholds : d.Holds .journal intent.operationId (utf8Bytes intent.json) :=
    ⟨node, hnode, hrecord.bytes⟩
  have hraw : readRaw d .journal intent.operationId = .ok (utf8Bytes intent.json) := by
    rw [readRaw, hholds.readRawIfExists hd, ok_bind]
  have hpublishable := hrecord.publishable
  refine ⟨intent, rfl, hintent, hholds, ?_, ?_, hasValidCompletionFor_eq hd hreads hintent hholds⟩
  · rw [Recovery.read, hraw, ok_bind, hpublishable.decode hreads hintent, ok_bind,
      hpublishable.requireCanonicalRecord]
    rfl
  · rw [readEvidence, hraw, ok_bind, hpublishable.classify hreads hintent]

theorem Disk.IsOpen.read {intent : RenameMoveIntent} (h : d.IsOpen intent)
    (hd : d.Sound host intents) (hreads : host.Reads intents) (hintent : intents intent) :
    read host d intent.operationId = .ok intent := by
  obtain ⟨node, hnode, hbytes⟩ := h.published
  obtain ⟨found, hid, hreading⟩ := hd.reading hreads hnode
  have hread := hreading.read
  have hholds := hreading.holds
  rw [hid] at hread hholds
  rwa [hreads.injective hreading.used hintent (hholds.unique ⟨node, hnode, hbytes⟩)] at hread

/-! ## Scanning -/

/-- The open intent of a name of the journal directory, if it has one. -/
def openIntent (host : Host) (d : Disk) (name : Option Name) : Option RenameMoveIntent :=
  match parseEntryName (nameText name) with
  | none => none
  | some operationId =>
      match read host d operationId with
      | .ok intent => if hasValidCompletionFor host d intent then none else some intent
      | .error _ => none

/-- A name of the journal directory: it is none of an entry, or its entry can be read. -/
theorem Disk.Sound.child (hd : d.Sound host intents) (hreads : host.Reads intents)
    {name : Option Name} (hname : name ∈ d.childNames) :
    parseEntryName (nameText name) = none ∨
      ∃ intent, parseEntryName (nameText name) = some intent.operationId ∧
        name = some (.entry intent.operationId) ∧ Reading host intents d intent := by
  rcases List.mem_cons.mp hname with rfl | hname
  · exact .inl parseEntryName_completed
  · obtain ⟨⟨found, node⟩, hrow, rfl⟩ := List.mem_map.mp hname
    cases found with
    | temporary draw => exact .inl (parseEntryName_temporary draw)
    | entry operationId =>
        have hnode : d.file .journal (.entry operationId) = some node := by
          rw [Disk.file, Disk.directory, Table.lookup_eq_some_iff.mpr ⟨hrow, rfl⟩, Option.map_some]
        obtain ⟨intent, rfl, hreading⟩ := hd.reading hreads hnode
        exact .inr ⟨intent, parseEntryName_entry _, rfl, hreading⟩

theorem openIntent_of_none {name : Option Name} (h : parseEntryName (nameText name) = none) :
    openIntent host d name = none := by
  rw [openIntent, h]

theorem Reading.openIntent {intent : RenameMoveIntent} (h : Reading host intents d intent)
    {name : Option Name} (hname : parseEntryName (nameText name) = some intent.operationId) :
    openIntent host d name =
      if (d.file .completed (.entry intent.operationId)).isSome then none else some intent := by
  rw [Recovery.openIntent, hname]
  dsimp only
  rw [h.read]
  dsimp only
  rw [h.completion]

/-- The intents the scans keep. -/
theorem openIntent_eq_some_iff (hd : d.Sound host intents) (hreads : host.Reads intents)
    {name : Option Name} (hname : name ∈ d.childNames) {intent : RenameMoveIntent} :
    openIntent host d name = some intent ↔
      name = some (.entry intent.operationId) ∧ intents intent ∧ d.IsOpen intent := by
  rcases hd.child hreads hname with hnone | ⟨found, hparse, rfl, hreading⟩
  · rw [openIntent_of_none hnone]
    refine ⟨nofun, fun ⟨hentry, _⟩ => ?_⟩
    rw [hentry, parseEntryName_entry] at hnone
    cases hnone
  · rw [hreading.openIntent hparse]
    constructor
    · intro h
      split at h
      · cases h
      · rename_i hnot
        cases h
        exact ⟨rfl, hreading.used, hreading.holds, by simpa using hnot⟩
    · rintro ⟨hsame, hused, hopen⟩
      obtain hid : found.operationId = intent.operationId := by simpa using hsame
      have hbytes := hreading.holds
      rw [hid] at hbytes
      obtain rfl : found = intent :=
        hreads.injective hreading.used hused (hbytes.unique hopen.published)
      rw [hopen.notCompleted]
      rfl

section Scan

variable {names : List (Option Name)}

theorem scanEvidence_eq (hd : d.Sound host intents) (hreads : host.Reads intents)
    (hnames : ∀ name ∈ names, name ∈ d.childNames) {found : List (Uuid × JournalEvidence)}
    (hcount : found.length + (names.filterMap (openIntent host d)).length ≤ maxEntryCount) :
    scanEvidence host d found names = .ok (found ++ (names.filterMap (openIntent host d)).map
      fun intent => (intent.operationId, .supported intent)) := by
  induction names generalizing found with
  | nil => rw [scanEvidence, List.filterMap_nil, List.map_nil, List.append_nil]
  | cons name rest ih =>
      have hrest : ∀ name ∈ rest, name ∈ d.childNames :=
        fun name hname => hnames name (List.mem_cons_of_mem _ hname)
      rw [scanEvidence]
      rcases hd.child hreads (hnames name List.mem_cons_self) with
        hnone | ⟨intent, hparse, -, hreading⟩
      · rw [List.filterMap_cons_none (openIntent_of_none hnone)] at hcount ⊢
        rw [hnone]
        exact ih hrest hcount
      · rw [hparse]
        dsimp only
        rw [hreading.evidence, ok_bind, isActive, hreading.completion]
        have hopen := hreading.openIntent hparse
        cases hfile : (d.file .completed (.entry intent.operationId)).isSome with
        | true =>
            rw [hfile, if_pos rfl] at hopen
            rw [List.filterMap_cons_none hopen] at hcount ⊢
            exact ih hrest hcount
        | false =>
            rw [hfile, if_neg Bool.false_ne_true] at hopen
            rw [List.filterMap_cons_some hopen] at hcount ⊢
            rw [List.length_cons] at hcount
            have hlength : (found ++ [(intent.operationId,
                JournalEvidence.supported intent)]).length = found.length + 1 := by simp
            rw [Bool.not_false, if_pos rfl, reject, if_neg (by omega), ok_bind,
              ih hrest (by omega), List.map_cons, List.append_assoc, List.singleton_append]

theorem scanActive_eq (hd : d.Sound host intents) (hreads : host.Reads intents)
    (hnames : ∀ name ∈ names, name ∈ d.childNames) {found : List Uuid}
    (hcount : found.length + (names.filterMap (openIntent host d)).length ≤ maxEntryCount) :
    scanActive host d found names = .ok (found ++
      (names.filterMap (openIntent host d)).map RenameMoveIntent.operationId) := by
  induction names generalizing found with
  | nil => rw [scanActive, List.filterMap_nil, List.map_nil, List.append_nil]
  | cons name rest ih =>
      have hrest : ∀ name ∈ rest, name ∈ d.childNames :=
        fun name hname => hnames name (List.mem_cons_of_mem _ hname)
      rw [scanActive]
      rcases hd.child hreads (hnames name List.mem_cons_self) with
        hnone | ⟨intent, hparse, -, hreading⟩
      · rw [List.filterMap_cons_none (openIntent_of_none hnone)] at hcount ⊢
        rw [hnone]
        exact ih hrest hcount
      · rw [hparse]
        dsimp only
        rw [hreading.read, ok_bind, hreading.completion]
        have hopen := hreading.openIntent hparse
        cases hfile : (d.file .completed (.entry intent.operationId)).isSome with
        | true =>
            rw [hfile, if_pos rfl] at hopen
            rw [List.filterMap_cons_none hopen] at hcount ⊢
            exact ih hrest hcount
        | false =>
            rw [hfile, if_neg Bool.false_ne_true] at hopen
            rw [List.filterMap_cons_some hopen] at hcount ⊢
            rw [List.length_cons] at hcount
            have hlength : (found ++ [intent.operationId]).length = found.length + 1 := by simp
            rw [if_neg Bool.false_ne_true, reject, if_neg (by omega), ok_bind,
              ih hrest (by omega), List.map_cons, List.append_assoc, List.singleton_append]

end Scan

/-! ## Pages -/

theorem uuidOrder_injective : Function.Injective uuidOrder := by
  intro a b h
  have hbytes : a.toList = b.toList :=
    List.map_injective_iff.mpr (fun _ _ => UInt8.toNat_inj.mp) h
  exact List.Vector.toList_injective hbytes

section Pages

variable {α β : Type} {rows : List α} {f : α → β} {idOf : β → Uuid} {idOf' : α → Uuid}

/-- What a page selects from: the rows after the cursor. -/
theorem filter_sortedOnce (hid : ∀ a, idOf (f a) = idOf' a)
    (hkeys : (rows.map fun a => uuidOrder (idOf' a)).Nodup) (after : Option Uuid) :
    ((sortedOnce idOf (rows.map f)).filter fun row =>
        after.all fun cursor => uuidOrder cursor < uuidOrder (idOf row)) =
      (rowsAfter (fun a => uuidOrder (idOf' a)) rows (after.map uuidOrder)).map f := by
  have hkeys' : ((rows.map f).map fun b => uuidOrder (idOf b)).Nodup := by
    rw [List.map_map]
    simpa only [Function.comp_def, hid] using hkeys
  have hsorted : (rowsAfter (fun b => uuidOrder (idOf b)) (rows.map f) none).Pairwise
      fun a b => uuidOrder (idOf a) < uuidOrder (idOf b) := pairwise_rowsAfter hkeys'
  have honce : sortedOnce idOf (rows.map f) =
      rowsAfter (fun b => uuidOrder (idOf b)) (rows.map f) none := by
    rw [sortedOnce, ← rowsAfter_none]
    refine List.destutter_of_isChain _ _ (hsorted.imp ?_).isChain
    intro a b hlt heq
    rw [heq] at hlt
    exact lt_irrefl _ hlt
  rw [honce]
  refine eq_of_pairwise_of_mem_iff (hsorted.filter _) ?_ ?_
  · refine List.pairwise_map.mpr ((pairwise_rowsAfter hkeys).imp fun hlt => ?_)
    rwa [hid, hid]
  · intro b
    rw [List.mem_filter, mem_rowsAfter, List.mem_map, List.mem_map]
    constructor
    · rintro ⟨⟨⟨a, ha, rfl⟩, -⟩, hafter⟩
      refine ⟨a, mem_rowsAfter.mpr ⟨ha, fun last hlast => ?_⟩, rfl⟩
      obtain ⟨cursor, rfl, rfl⟩ := Option.map_eq_some_iff.mp hlast
      rw [← hid]
      exact of_decide_eq_true hafter
    · rintro ⟨a, ha, rfl⟩
      obtain ⟨ha, hafter⟩ := mem_rowsAfter.mp ha
      refine ⟨⟨⟨a, ha, rfl⟩, nofun⟩, ?_⟩
      cases after with
      | none => rfl
      | some cursor =>
          have hlt := hafter (uuidOrder cursor) rfl
          rw [← hid] at hlt
          exact decide_eq_true hlt

theorem selectPage_eq (hid : ∀ a, idOf (f a) = idOf' a)
    (hkeys : (rows.map fun a => uuidOrder (idOf' a)).Nodup) (after : Option Uuid) (limit : ℕ) :
    selectPage idOf (sortedOnce idOf (rows.map f)) after limit =
      let later := rowsAfter (fun a => uuidOrder (idOf' a)) rows (after.map uuidOrder)
      ((later.take limit).map f,
        if limit < later.length then (later.take limit).getLast?.map idOf' else none) := by
  rw [selectPage]
  dsimp only
  rw [filter_sortedOnce hid hkeys after]
  generalize rowsAfter (fun a => uuidOrder (idOf' a)) rows (after.map uuidOrder) = later
  have htake : ((later.map f).take (limit + 1)).take limit = (later.take limit).map f := by
    rw [List.take_take, Nat.min_eq_left (Nat.le_succ limit), List.map_take]
  have hlength : limit < ((later.map f).take (limit + 1)).length ↔ limit < later.length := by
    rw [List.length_take, List.length_map]
    omega
  have hlast : ((later.take limit).map f).getLast?.map idOf =
      (later.take limit).getLast?.map idOf' := by
    rw [List.getLast?_map, Option.map_map]
    exact congrArg (Option.map · _) (funext hid)
  rw [htake, hlast]
  exact congrArg _ (if_congr hlength rfl rfl)

end Pages

/-! ## Every open intent once -/

/-- The key of the pages. -/
def pageKey (intent : RenameMoveIntent) : List ℕ := uuidOrder intent.operationId

/-- The open intents, in the order of their identifiers. -/
def openIntents (host : Host) (d : Disk) : List RenameMoveIntent :=
  rowsAfter pageKey (d.childNames.filterMap (openIntent host d)) none

/-- A page of them. -/
def openPage (host : Host) (d : Disk) (after : Option Uuid) (limit : ℕ) :
    List RenameMoveIntent × Option Uuid :=
  let later := rowsAfter pageKey (d.childNames.filterMap (openIntent host d)) (after.map uuidOrder)
  (later.take limit,
    if limit < later.length then (later.take limit).getLast?.map RenameMoveIntent.operationId
    else none)

theorem nodup_childNames (d : Disk) : d.childNames.Nodup := by
  refine List.nodup_cons.mpr ⟨fun hmem => ?_, ?_⟩
  · obtain ⟨row, -, hrow⟩ := List.mem_map.mp hmem
    cases hrow
  · have hsome : d.journal.rows.map (fun row => some row.1) =
        (d.journal.rows.map Prod.fst).map some := by rw [List.map_map]; rfl
    rw [hsome]
    exact d.journal.nodup_keys.map (Option.some_injective _)

section Open

variable (hd : d.Sound host intents) (hreads : host.Reads intents)

include hd hreads

/-- No two open intents have the same key. -/
theorem nodup_pageKey : ((d.childNames.filterMap (openIntent host d)).map pageKey).Nodup := by
  refine List.pairwise_map.mpr (List.pairwise_filterMap.mpr ?_)
  refine (nodup_childNames d).imp_of_mem fun {name name'} hname hname' hne => ?_
  intro intent hintent intent' hintent' hsame
  obtain ⟨rfl, -⟩ := (openIntent_eq_some_iff hd hreads hname).mp hintent
  obtain ⟨rfl, -⟩ := (openIntent_eq_some_iff hd hreads hname').mp hintent'
  rw [uuidOrder_injective hsame] at hne
  exact hne rfl

theorem mem_openIntents {intent : RenameMoveIntent} :
    intent ∈ openIntents host d ↔ intents intent ∧ d.IsOpen intent := by
  rw [openIntents, rowsAfter_none_perm.mem_iff, List.mem_filterMap]
  constructor
  · rintro ⟨name, hname, hopen⟩
    exact ((openIntent_eq_some_iff hd hreads hname).mp hopen).2
  · rintro ⟨hused, hopen⟩
    obtain ⟨node, hnode, -⟩ := hopen.published
    obtain ⟨row, hrow, rfl⟩ := Option.map_eq_some_iff.mp hnode
    obtain ⟨hmem, hkey⟩ := Table.lookup_eq_some_iff.mp hrow
    have hname : some (Name.entry intent.operationId) ∈ d.childNames :=
      List.mem_cons_of_mem _ (List.mem_map.mpr ⟨row, hmem, congrArg some hkey⟩)
    exact ⟨_, hname, (openIntent_eq_some_iff hd hreads hname).mpr ⟨rfl, hused, hopen⟩⟩

/-- They come in the order of their identifiers, each once. -/
theorem pairwise_openIntents :
    (openIntents host d).Pairwise fun a b => uuidOrder a.operationId < uuidOrder b.operationId :=
  pairwise_rowsAfter (nodup_pageKey hd hreads)

variable {names : List (Option Name)} (hnames : names.Perm d.childNames)

include hnames

/-- What a page selects from does not depend on the order of the directory. -/
theorem selectPage_openIntent {β : Type} (f : RenameMoveIntent → β) (idOf : β → Uuid)
    (hid : ∀ intent, idOf (f intent) = intent.operationId) (after : Option Uuid) (limit : ℕ) :
    selectPage idOf (sortedOnce idOf ((names.filterMap (openIntent host d)).map f)) after limit =
      ((openPage host d after limit).1.map f, (openPage host d after limit).2) := by
  have hperm := hnames.filterMap (openIntent host d)
  have hkeys := nodup_pageKey hd hreads
  have hkeys' : ((names.filterMap (openIntent host d)).map pageKey).Nodup :=
    (hperm.map pageKey).nodup_iff.mpr hkeys
  have hlater : rowsAfter pageKey (names.filterMap (openIntent host d)) (after.map uuidOrder) =
      rowsAfter pageKey (d.childNames.filterMap (openIntent host d)) (after.map uuidOrder) :=
    rowsAfter_eq_of_perm hperm hkeys'
  rw [selectPage_eq hid hkeys', openPage, ← hlater]
  rfl

omit hd hreads in
theorem length_filterMap :
    (names.filterMap (openIntent host d)).length = (openIntents host d).length := by
  rw [(hnames.filterMap (openIntent host d)).length_eq]
  exact rowsAfter_none_perm.length_eq.symm

omit hd hreads in
theorem directoryEntriesBounded_eq (hchildren : d.childNames.length ≤ maxDirectoryEntryCount) :
    directoryEntriesBounded names = .ok names := by
  rw [directoryEntriesBounded, hnames.length_eq, reject, if_neg (Nat.not_lt.mpr hchildren)]
  rfl

variable (hchildren : d.childNames.length ≤ maxDirectoryEntryCount)
  (hopen : (openIntents host d).length ≤ maxEntryCount)
  {limit : ℕ} (hlimit : 1 ≤ limit ∧ limit ≤ maxPageSize)

include hchildren hopen hlimit

/-- **A page of the evidence.** -/
theorem listEvidencePage_eq (after : Option Uuid) :
    listEvidencePage host d names after limit =
      .ok ((openPage host d after limit).1.map .supported, (openPage host d after limit).2) := by
  have hcount : ([] : List (Uuid × JournalEvidence)).length +
      (names.filterMap (openIntent host d)).length ≤ maxEntryCount := by
    rwa [List.length_nil, Nat.zero_add, length_filterMap hnames]
  have hscan := scanEvidence_eq hd hreads (fun _ => hnames.mem_iff.mp) hcount
  have hselect := selectPage_openIntent hd hreads hnames
    (fun intent => (intent.operationId, JournalEvidence.supported intent)) Prod.fst
    (fun _ => rfl) after limit
  rw [List.nil_append] at hscan
  rw [listEvidencePage, reject, if_neg (not_not.mpr hlimit), ok_bind,
    directoryEntriesBounded_eq hnames hchildren, ok_bind, hscan, ok_bind]
  dsimp only
  rw [hselect, List.map_map]
  rfl

/-- **A page of the intents.** -/
theorem listPage_eq (after : Option Uuid) :
    listPage host d names after limit = .ok (openPage host d after limit) := by
  have hcount : ([] : List Uuid).length + (names.filterMap (openIntent host d)).length ≤
      maxEntryCount := by
    rwa [List.length_nil, Nat.zero_add, length_filterMap hnames]
  have hscan := scanActive_eq hd hreads (fun _ => hnames.mem_iff.mp) hcount
  have hselect := selectPage_openIntent hd hreads hnames RenameMoveIntent.operationId id
    (fun _ => rfl) after limit
  have hread : mapEach (read host d) ((openPage host d after limit).1.map
      RenameMoveIntent.operationId) = .ok (openPage host d after limit).1 := by
    refine mapEach_eq_ok.mpr (List.forall₂_map_left_iff.mpr (List.forall₂_same.mpr ?_))
    intro intent hintent
    have hmem := (mem_rowsAfter.mp (List.mem_of_mem_take hintent)).1
    obtain ⟨name, hname, hfound⟩ := List.mem_filterMap.mp hmem
    obtain ⟨-, hused, hisOpen⟩ := (openIntent_eq_some_iff hd hreads hname).mp hfound
    exact hisOpen.read hd hreads hused
  rw [List.nil_append] at hscan
  rw [listPage, reject, if_neg (not_not.mpr hlimit), ok_bind,
    directoryEntriesBounded_eq hnames hchildren, ok_bind, hscan, ok_bind]
  dsimp only
  rw [hselect]
  dsimp only
  rw [hread]
  rfl

end Open

/-! ### Readers -/

/-- Where a cursor stands. -/
def StandsAfter (after : Option Uuid) (key : Option (List ℕ)) : Prop := key = after.map uuidOrder

theorem openPage_more {after : Option Uuid} {init rest : List RenameMoveIntent}
    {last : RenameMoveIntent} (hrest : rest ≠ [])
    (hrows : rowsAfter pageKey (d.childNames.filterMap (openIntent host d))
      (after.map uuidOrder) = init ++ last :: rest) :
    openPage host d after (init.length + 1) = (init ++ [last], some last.operationId) := by
  have hpos := List.length_pos_iff.mpr hrest
  have htake : (init ++ last :: rest).take (init.length + 1) = init ++ [last] := by
    rw [← List.singleton_append, ← List.append_assoc]
    exact List.take_left' List.length_append
  have hmore : init.length + 1 < (init ++ last :: rest).length := by
    rw [List.length_append, List.length_cons]
    omega
  rw [openPage, hrows, htake, if_pos hmore, List.getLast?_concat]
  rfl

theorem openPage_done {after : Option Uuid} {limit : ℕ}
    (hcount : (rowsAfter pageKey (d.childNames.filterMap (openIntent host d))
      (after.map uuidOrder)).length ≤ limit) :
    openPage host d after limit = (rowsAfter pageKey
      (d.childNames.filterMap (openIntent host d)) (after.map uuidOrder), none) := by
  rw [openPage, List.take_of_length_le hcount, if_neg (Nat.not_lt.mpr hcount)]

section Readers

variable (hd : d.Sound host intents) (hreads : host.Reads intents)
  (hchildren : d.childNames.length ≤ maxDirectoryEntryCount)
  (hopen : (openIntents host d).length ≤ maxEntryCount) {orders : ℕ → List (Option Name)}
  (horders : ∀ call, (orders call).Perm d.childNames) {limits : ℕ → ℕ}
  (hlimits : ∀ call, 1 ≤ limits call ∧ limits call ≤ maxPageSize) {calls : ℕ}
  (hcalls : (openIntents host d).length < calls)

include hd hreads hlimits hcalls

/-- A reader of pages gets every open intent once. -/
theorem readPages_openPage {β : Type} (f : RenameMoveIntent → β)
    {page : ℕ → Option Uuid → Except Error (List β × Option Uuid)}
    (hpage : ∀ call after, page call after = .ok ((openPage host d after (limits call)).1.map f,
      (openPage host d after (limits call)).2)) :
    ∃ pages, readPages page calls 0 none = .ok (some pages) ∧
      pages.flatten = (openIntents host d).map f := by
  have hstart : StandsAfter none none := rfl
  refine readPages_eq (nodup_pageKey hd hreads) (fun call => (hlimits call).1) ?_ ?_ calls 0 hstart
    hcalls
  · rintro call after k init last rest rfl hrows hcount hrest
    refine ⟨last.operationId, ?_, rfl⟩
    rw [hpage, ← hcount, openPage_more hrest hrows]
  · rintro call after k rfl hcount
    rw [hpage, openPage_done hcount]

include hchildren hopen horders

/-- **`list_evidence_page`, page after page.** -/
theorem evidence_pages_eq :
    ∃ pages, readPages (fun call after =>
        listEvidencePage host d (orders call) after (limits call)) calls 0 none =
          .ok (some pages) ∧
      pages.flatten = (openIntents host d).map .supported :=
  readPages_openPage hd hreads hlimits hcalls JournalEvidence.supported fun call after =>
    listEvidencePage_eq hd hreads (horders call) hchildren hopen (hlimits call) after

/-- **`list_page`, page after page.** -/
theorem list_pages_eq :
    ∃ pages, readPages (fun call after => listPage host d (orders call) after (limits call))
        calls 0 none = .ok (some pages) ∧
      pages.flatten = openIntents host d := by
  have hpage : ∀ call after, listPage host d (orders call) after (limits call) =
      .ok ((openPage host d after (limits call)).1.map id,
        (openPage host d after (limits call)).2) := by
    intro call after
    rw [listPage_eq hd hreads (horders call) hchildren hopen (hlimits call), List.map_id]
  obtain ⟨pages, hpages, hlisted⟩ := readPages_openPage hd hreads hlimits hcalls id hpage
  exact ⟨pages, hpages, hlisted.trans (List.map_id _)⟩

end Readers

end Recovery
end MyVault
