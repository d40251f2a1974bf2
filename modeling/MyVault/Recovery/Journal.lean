import MyVault.Library.Interleaving
import MyVault.Library.Paging
import MyVault.Recovery.Intent
import MyVault.Snapshots.Publication
import Mathlib.Data.List.Destutter

/-!
# The recovery journal

`RecoveryJournal` of `myvault-recovery/src/lib.rs`.  `publish` and `complete` are processes:
a record is written to a temporary file of its own, byte by byte, and renamed to the name of
its operation if nothing stands there.  The lists look at the two directories and change
nothing.

Several calls may run at once, each in a thread of its own; a file knows the thread that has
created it.  Nothing removes an entry, so a handle of a temporary file is its name, and a
record that is there can be read in one look.
-/

namespace MyVault
namespace Recovery

open Process Check

/-- `MAX_ENTRY_COUNT`. -/
def maxEntryCount : ℕ := 4096

/-- `MAX_DIRECTORY_ENTRY_COUNT`. -/
def maxDirectoryEntryCount : ℕ := 8192

/-- `MAX_PAGE_SIZE`. -/
def maxPageSize : ℕ := 128

/-! ## The directories -/

/-- The names that the journal gives. -/
inductive Name where
  /-- `{operation_id}.json`. -/
  | entry (operationId : Uuid)
  /-- `.publish-{draw}.tmp`. -/
  | temporary (draw : Uuid)
  deriving DecidableEq

/-- `operation-journal`, and `completed` in it. -/
inductive Area where
  | journal
  | completed
  deriving DecidableEq, Repr

/-- A file, its writer, its mode and its content. -/
structure FileNode where
  owner : ℕ
  mode : ℕ
  bytes : List UInt8
  deriving DecidableEq

/-- The mode of the file is that of a private one. -/
def FileNode.isPrivate (file : FileNode) : Bool := Snapshots.isPrivateFileMode file.mode

/-- What stands in a directory of the journal, but for `completed`. -/
abbrev Directory := Table (Prod.fst : Name × FileNode → Name)

/-- The two directories of the journal. -/
structure Disk where
  journal : Directory
  completed : Directory

/-- Two empty directories. -/
def Disk.empty : Disk := ⟨.empty, .empty⟩

namespace Disk

variable (d : Disk)

/-- The directory of an area. -/
def directory : Area → Directory
  | .journal => d.journal
  | .completed => d.completed

/-- The file of a name. -/
def file (area : Area) (name : Name) : Option FileNode :=
  ((d.directory area).lookup name).map Prod.snd

/-- The disk with one directory replaced. -/
def withDirectory (directory : Directory) : Area → Disk
  | .journal => { d with journal := directory }
  | .completed => { d with completed := directory }

/-- The disk with a file under a name. -/
def withFile (area : Area) (name : Name) (node : FileNode) : Disk :=
  d.withDirectory ((d.directory area).put (name, node)) area

/-- The disk without it. -/
def withoutFile (area : Area) (name : Name) : Disk :=
  d.withDirectory ((d.directory area).delete fun row => decide (row.1 = name)) area

theorem directory_withDirectory (directory : Directory) (area area' : Area) :
    (d.withDirectory directory area).directory area' =
      if area' = area then directory else d.directory area' := by
  cases area <;> cases area' <;> rfl

theorem file_withFile (area : Area) (name : Name) (node : FileNode) (area' : Area)
    (name' : Name) : (d.withFile area name node).file area' name' =
      if area' = area ∧ name' = name then some node else d.file area' name' := by
  rw [file, withFile, directory_withDirectory]
  by_cases harea : area' = area
  · subst harea
    rw [if_pos rfl, Table.lookup_put]
    by_cases hname : name = name'
    · subst hname
      simp
    · rw [if_neg hname, if_neg fun hand => hname hand.2.symm, file]
  · rw [if_neg harea, if_neg fun hand => harea hand.1, file]

theorem file_withoutFile (area : Area) (name : Name) (area' : Area) (name' : Name) :
    (d.withoutFile area name).file area' name' =
      if area' = area ∧ name' = name then none else d.file area' name' := by
  rw [file, withoutFile, directory_withDirectory]
  by_cases harea : area' = area
  · subst harea
    rw [if_pos rfl, Table.lookup_delete]
    cases hlookup : (d.directory area').lookup name' with
    | none => simp [file, hlookup]
    | some row =>
        obtain ⟨found, node⟩ := row
        obtain ⟨-, hkey⟩ := Table.lookup_eq_some_iff.mp hlookup
        cases hkey
        by_cases hname : found = name
        · simp [hname]
        · simp [hname, file, hlookup]
  · rw [if_neg harea, if_neg fun hand => harea hand.1, file]

end Disk

/-! ## Steps -/

/-- What a call asks of the file system. -/
inductive Step where
  /-- `create_new(true)` of a temporary file. -/
  | createNew (area : Area) (draw : Uuid) (owner : ℕ)
  /-- `set_private_file_permissions`. -/
  | harden (area : Area) (draw : Uuid)
  /-- One more byte of `write_all`. -/
  | write (area : Area) (draw : Uuid) (byte : UInt8)
  /-- `sync_all` of the temporary file. -/
  | syncFile (area : Area) (draw : Uuid)
  /-- `atomic_rename_noreplace`. -/
  | rename (area : Area) (draw operationId : Uuid)
  | syncDirectory (area : Area)
  deriving DecidableEq

/-- A change of the temporary file of a draw. -/
def Disk.modifyTemporary (d : Disk) (area : Area) (draw : Uuid) (f : FileNode → FileNode) : Disk :=
  match d.file area (.temporary draw) with
  | some node => d.withFile area (.temporary draw) (f node)
  | none => d

/-- The answer of a step that does not fail, and what it leaves. -/
def Step.run (umask : ℕ) : Step → Disk → Except Error Unit × Disk
  | .createNew area draw owner, d =>
      if (d.file area (.temporary draw)).isSome then (.error (.io .alreadyExists), d)
      else (.ok (), d.withFile area (.temporary draw) ⟨owner, Snapshots.fileMode umask, []⟩)
  | .harden area draw, d =>
      (.ok (), d.modifyTemporary area draw fun node => { node with mode := 0o600 })
  | .write area draw byte, d =>
      (.ok (), d.modifyTemporary area draw fun node => { node with bytes := node.bytes ++ [byte] })
  | .syncFile _ _, d => (.ok (), d)
  | .rename area draw operationId, d =>
      match d.file area (.temporary draw) with
      | none => (.error (.io .notFound), d)
      | some node =>
          if (d.file area (.entry operationId)).isSome then (.error (.io .alreadyExists), d)
          else (.ok (), (d.withoutFile area (.temporary draw)).withFile area
            (.entry operationId) node)
  | .syncDirectory _, d => (.ok (), d)

/-- A process on the disk. -/
abbrev Proc (α : Type) := Process Step (Except Error Unit) Disk Error α

/-- What a publication has done. -/
inductive PublishOutcome where
  | published
  | alreadyPublished
  deriving DecidableEq, Repr

/-- What a completion has done. -/
inductive CompleteOutcome where
  | completed
  | alreadyCompleted
  deriving DecidableEq, Repr

/-! ## Publishing and completing -/

/-- `read_raw_if_exists`, of the entry of an operation. -/
def readRawIfExists (d : Disk) (area : Area) (operationId : Uuid) :
    Except Error (Option (List UInt8)) :=
  match d.file area (.entry operationId) with
  | none => .ok none
  | some node => do
      reject (maxEntryBytes < node.bytes.length) .entryTooLarge
      -- `verify_private_file`
      reject (node.isPrivate = false) .externalMutation
      pure (some node.bytes)

/-- `read_raw`. -/
def readRaw (d : Disk) (area : Area) (operationId : Uuid) : Except Error (List UInt8) := do
  let found ← readRawIfExists d area operationId
  match found with
  | some bytes => .ok bytes
  | none => .error (.io .notFound)

/-- An error of the file system after the rename says that the entry is there. -/
def publishedSyncError : Error → Error
  | .io kind => .publishedButNotSynced kind
  | e => e

/-- `sync(directory).map_err(published_sync_error)`. -/
def syncPublished (area : Area) : Proc Unit := do
  let answer ← perform (.syncDirectory area)
  lift (answer.mapError publishedSyncError)

/-- Write the bytes, one after the other. -/
def writeAll (area : Area) (draw : Uuid) : List UInt8 → Proc Unit
  | [] => pure ()
  | byte :: rest => do
    io (.write area draw byte)
    writeAll area draw rest

/-- `verify_private_file` of the temporary file. -/
def verifyTemporary (d : Disk) (area : Area) (draw : Uuid) : Except Error Unit :=
  match d.file area (.temporary draw) with
  | some node => reject (node.isPrivate = false) .externalMutation
  | none => .error .externalMutation

/-- What `publish_bytes` makes of the answer to its rename. -/
def afterRename (area : Area) (operationId : Uuid) (bytes : List UInt8) :
    Except Error Unit → Proc Bool
  | .ok () => do
      syncPublished area
      pure true
  | .error (.io .alreadyExists) => do
      let actual ← ask fun d => readRaw d area operationId
      if actual = bytes then do
        syncPublished area
        pure false
      else fail .journalCollision
  | .error e => fail e

/-- Write the bytes to a staging file and rename that, unless the name is taken. -/
def publishBytes (thread : ℕ) (draw : Uuid) (area : Area) (operationId : Uuid)
    (bytes : List UInt8) : Proc Bool := do
  io (.createNew area draw thread)
  io (.harden area draw)
  writeAll area draw bytes
  io (.syncFile area draw)
  ask fun d => verifyTemporary d area draw
  let renamed ← perform (.rename area draw operationId)
  afterRename area operationId bytes renamed

/-- An entry that is there must be the same, byte for byte. -/
def comparePublished (actual expected : List UInt8) : Except Error PublishOutcome :=
  if actual = expected then .ok .alreadyPublished else .error .journalCollision

section Calls

variable (host : Host)

/-- What `publish` makes of the record it finds. -/
def publishOver (thread : ℕ) (draw operationId : Uuid) (bytes : List UInt8) :
    Option (List UInt8) → Proc PublishOutcome
  | some actual => do
      let outcome ← lift (comparePublished actual bytes)
      syncPublished .journal
      pure outcome
  | none => do
      let made ← publishBytes thread draw .journal operationId bytes
      pure (if made then .published else .alreadyPublished)

/-- `RecoveryJournal::publish`, with the identifier that is drawn for its temporary file. -/
def publish (thread : ℕ) (draw : Uuid) (intent : RenameMoveIntent) : Proc PublishOutcome := do
  lift (intent.validate host.unicode)
  let bytes ← lift (canonicalBytes intent)
  let found ← ask fun d => readRawIfExists d .journal intent.operationId
  publishOver thread draw intent.operationId bytes found

/-- A tombstone that is there already. -/
def checkTombstone (expected : RenameMoveIntent) (actual : List UInt8) : Except Error Unit := do
  let observed ← orJson (host.tombstone actual)
  observed.validateFor host expected
  reject (utf8Bytes observed.json ≠ actual) .intentMismatch

/-- What `complete` makes of the tombstone it finds. -/
def completeOver (thread : ℕ) (draw operationId : Uuid) (expected : RenameMoveIntent)
    (tombstone : CompletionTombstone) : Option (List UInt8) → Proc CompleteOutcome
  | some actual => do
      lift (checkTombstone host expected actual)
      syncPublished .completed
      pure .alreadyCompleted
  | none => do
      let made ← publishBytes thread draw .completed operationId (utf8Bytes tombstone.json)
      pure (if made then .completed else .alreadyCompleted)

/-- `RecoveryJournal::complete`. -/
def complete (thread : ℕ) (draw operationId : Uuid) (expected : RenameMoveIntent) :
    Proc CompleteOutcome := do
  lift (expected.validate host.unicode)
  lift (reject (expected.operationId ≠ operationId) .intentMismatch)
  let found ← ask fun d => readRawIfExists d .journal operationId
  let actual ← lift (match found with
    | some actual => .ok actual
    | none => .error .intentMismatch)
  let bytes ← lift (canonicalBytes expected)
  lift (reject (actual ≠ bytes) .intentMismatch)
  let tombstone ← lift (CompletionTombstone.forIntent host expected)
  let existing ← ask fun d => readRawIfExists d .completed operationId
  completeOver host thread draw operationId expected tombstone existing

/-! ## Lists -/

/-- The text of a name of the journal directory; `none` is `completed`. -/
def nameText : Option Name → Text
  | some (.entry operationId) => operationId.toHyphenated.toList ++ ".json".toList
  | some (.temporary draw) => ".publish-".toList ++ (draw.toHyphenated.toList ++ ".tmp".toList)
  | none => "completed".toList

/-- `str::strip_suffix`. -/
def stripSuffix (suffix text : Text) : Option Text :=
  if suffix.isSuffixOf text then some (text.take (text.length - suffix.length)) else none

/-- The operation that a file name is for. -/
def parseEntryName (name : Text) : Option Uuid :=
  (stripSuffix ".json".toList name).bind Uuid.parseCanonical

/-- The children of the journal directory, in some order. -/
def Disk.childNames (d : Disk) : List (Option Name) :=
  none :: d.journal.rows.map fun row => some row.1

/-- A directory of too many entries is not listed. -/
def directoryEntriesBounded (names : List (Option Name)) : Except Error (List (Option Name)) := do
  reject (maxDirectoryEntryCount < names.length) .tooManyDirectoryEntries
  pure names

/-- The intent of an operation, read back and checked. -/
def read (d : Disk) (operationId : Uuid) : Except Error RenameMoveIntent := do
  let bytes ← readRaw d .journal operationId
  let intent ← decodeIntent host bytes
  requireCanonicalRecord host operationId bytes intent
  pure intent

/-- What the entry of an operation tells. -/
def readEvidence (d : Disk) (operationId : Uuid) : Except Error JournalEvidence := do
  let bytes ← readRaw d .journal operationId
  classifyEvidence host operationId bytes

/-- There is a canonical tombstone of the intent. -/
def hasValidCompletionFor (d : Disk) (intent : RenameMoveIntent) : Bool :=
  match readRawIfExists d .completed intent.operationId with
  | .ok (some bytes) =>
      match host.tombstone bytes with
      | some tombstone =>
          decide (tombstone.validateFor host intent = .ok ()) &&
            decide (utf8Bytes tombstone.json = bytes)
      | none => false
  | _ => false

/-- The operation is not known to be over. -/
def isActive (d : Disk) : JournalEvidence → Bool
  | .supported intent => !hasValidCompletionFor host d intent
  | .unsupported _ _ => true

/-- The scan of `list_evidence_page`, from some entries on. -/
def scanEvidence (d : Disk) (found : List (Uuid × JournalEvidence)) :
    List (Option Name) → Except Error (List (Uuid × JournalEvidence))
  | [] => .ok found
  | name :: rest =>
      match parseEntryName (nameText name) with
      | none => scanEvidence d found rest
      | some operationId => do
          let evidence ← readEvidence host d operationId
          if isActive host d evidence then do
            reject (maxEntryCount < (found ++ [(operationId, evidence)]).length) .tooManyEntries
            scanEvidence d (found ++ [(operationId, evidence)]) rest
          else scanEvidence d found rest

/-- The scan of `active_ids`. -/
def scanActive (d : Disk) (found : List Uuid) : List (Option Name) → Except Error (List Uuid)
  | [] => .ok found
  | name :: rest =>
      match parseEntryName (nameText name) with
      | none => scanActive d found rest
      | some operationId => do
          let intent ← read host d operationId
          if hasValidCompletionFor host d intent then scanActive d found rest
          else do
            reject (maxEntryCount < (found ++ [operationId]).length) .tooManyEntries
            scanActive d (found ++ [operationId]) rest

/-- The order of `Uuid`: by its bytes. -/
def uuidOrder (id : Uuid) : List ℕ := id.toList.map UInt8.toNat

/-- `sort_unstable_by_key` and `dedup_by_key`, by the UUID. -/
def sortedOnce {α : Type} (idOf : α → Uuid) (rows : List α) : List α :=
  (rows.insertionSort fun a b => uuidOrder (idOf a) ≤ uuidOrder (idOf b)).destutter
    fun a b => idOf a ≠ idOf b

/-- One page of sorted rows: the rows after the cursor, and the next cursor if there are
more than the page holds. -/
def selectPage {α : Type} (idOf : α → Uuid) (rows : List α) (after : Option Uuid)
    (limit : ℕ) : List α × Option Uuid :=
  let selected := (rows.filter fun row =>
    after.all fun cursor => uuidOrder cursor < uuidOrder (idOf row)).take (limit + 1)
  let entries := selected.take limit
  (entries, if limit < selected.length then entries.getLast?.map idOf else none)

/-- `list_evidence_page`, where the directory gives its children in this order. -/
def listEvidencePage (d : Disk) (names : List (Option Name)) (after : Option Uuid)
    (limit : ℕ) : Except Error (List JournalEvidence × Option Uuid) := do
  reject (¬ (1 ≤ limit ∧ limit ≤ maxPageSize)) .invalidPageSize
  let names ← directoryEntriesBounded names
  let entries ← scanEvidence host d [] names
  let page := selectPage Prod.fst (sortedOnce Prod.fst entries) after limit
  pure (page.1.map Prod.snd, page.2)

/-- `list_page`. -/
def listPage (d : Disk) (names : List (Option Name)) (after : Option Uuid) (limit : ℕ) :
    Except Error (List RenameMoveIntent × Option Uuid) := do
  reject (¬ (1 ≤ limit ∧ limit ≤ maxPageSize)) .invalidPageSize
  let names ← directoryEntriesBounded names
  let ids ← scanActive host d [] names
  let page := selectPage id (sortedOnce id ids) after limit
  let entries ← mapEach (read host d) page.1
  pure (entries, page.2)

end Calls

end Recovery
end MyVault
