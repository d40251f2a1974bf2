import MyVault.Store.Batches
import MyVault.Store.ScanTree
import MyVault.Store.TransferTimes

/-!
# The verified base of a remote file

A completed transfer writes what it verified into the base columns of the row of its file,
and the next guarded plan reads them with `remote_base`.  The columns live as long as the
row does.  An upsert keeps them, whatever it changes; but two calls delete rows:
`begin_initial_scan` starts from an empty table, and a page of the changes drain deletes
the rows it lists as removed.

So the base stays exactly what was completed until a later completion for the file, or
until one of the two calls (`base_stays_until_forgotten`).  A completion for a file without
a row writes no base, and after one of the two calls there is none before the next
completion.  A rescan that finds the file as it was has no base for it
(`rescan_forgets_base`).

## How the argument goes

`Database.baseOf` is all that is said of the table: the base of a file, if it has a row and the
row has one.  A call keeps it (`SameBases`), writes it (`WritesBase`), or deletes rows.  Which of
the three a call does is decided for every operation once, and the runs are then an induction in
which neither `Forgets` nor `CompletesFile` is met.

The conditions are on the calls of the run and on whether they succeed.  A page that fails deletes
nothing, and a transfer that is completed a second time is recognised and writes nothing.  What
was written is read back through the checks of `remote_base`, which the checks of the completion
imply.
-/

namespace MyVault
namespace Store

open Check Program Runs

/-! ## Reading -/

/-- What `remote_base` checks of the columns. -/
def checkRemoteBase (base : RemoteBaseEvidence) : Except Error Unit := do
  validateRevision base.localRevision
  validateRemoteToken base.remoteRevision
  RemoteContentHash.validate { algorithm := .sha256, hex := base.contentHash }

/-- The base columns of the row of a file. -/
def Database.baseOf (db : Database) (fileId : String) : Option RemoteBaseEvidence :=
  (db.remoteEntries.lookup fileId).bind (·.base)

/-- `remote_base`: the base of a file, checked. -/
def remoteBase (fileId : String) : StoreProgram (Option RemoteBaseEvidence) := do
  lift (validateRemoteId fileId)
  let base ← read (·.baseOf fileId)
  lift (each checkRemoteBase base.toList)
  pure base

/-- What a completed transfer has verified. -/
def verifiedBase (transfer : TransferRecord) (completion : TransferCompletion) :
    RemoteBaseEvidence where
  localRevision := completion.localRevision
  remoteRevision := completion.remoteRevision
  contentHash := transfer.sha256
  byteLength := transfer.byteLength

theorem remoteBase_eq {db : Database} {fileId : String} {base : Option RemoteBaseEvidence}
    (hfile : isRemoteId fileId = true) (hbase : db.baseOf fileId = base)
    (hvalid : ∀ evidence ∈ base, checkRemoteBase evidence = .ok ()) :
    (exec (remoteBase fileId) db).1 = .ok base := by
  have hok : exec (remoteBase fileId) db = (.ok base, db) := by
    simp only [remoteBase, exec_bind_ok, exec_lift_ok, exec_read_ok, exec_pure_ok]
    have hchecked : each checkRemoteBase base.toList = .ok () :=
      each_eq_ok.mpr fun evidence hmem => hvalid evidence (Option.mem_toList.mp hmem)
    exact ⟨(), _, ⟨validateRemoteId_eq_ok.mpr hfile, rfl⟩, _, _, ⟨hbase, rfl⟩, (), _,
      ⟨hchecked, rfl⟩, rfl, rfl⟩
  rw [hok]

theorem isAsciiControl_of_isIdChar {c : Char} (h : isIdChar c = true) :
    isAsciiControl c = false := by
  have hrange := toNat_of_isIdChar h
  simp only [isAsciiControl, Bool.or_eq_false_iff, decide_eq_false_iff_not, beq_eq_false_iff_ne]
  omega

/-- An identifier is a token, too. -/
theorem isRemoteToken_of_isRemoteId {value : String} (h : isRemoteId value = true) :
    isRemoteToken value = true := by
  simp only [isRemoteId, Bool.and_eq_true, decide_eq_true_eq, List.all_eq_true] at h
  simp only [isRemoteToken, Bool.and_eq_true, decide_eq_true_eq, Bool.not_eq_true',
    List.any_eq_false, Bool.not_eq_true]
  exact ⟨by omega, fun c hc => isAsciiControl_of_isIdChar (h.2 c hc)⟩

/-- What a completion of a stored transfer verifies passes the checks of the columns. -/
theorem checkRemoteBase_verifiedBase {u : Unicode} {transfer : TransferRecord}
    {completion : TransferCompletion} (hvalid : completion.validate = .ok ())
    (hrow : checkTransferRow u transfer = .ok ()) :
    checkRemoteBase (verifiedBase transfer completion) = .ok () := by
  simp only [TransferCompletion.validate, seq_eq_ok] at hvalid
  simp only [checkTransferRow, TransferRecord.validate, seq_eq_ok] at hrow
  obtain ⟨-, hrevision, hlocal, -⟩ := hvalid
  obtain ⟨-, -, -, -, -, -, -, -, -, -, hdigest, -⟩ := hrow
  rw [validateRemoteId_eq_ok] at hrevision
  rw [validateRevision_eq_ok, isLowerHex64, Bool.and_eq_true, decide_eq_true_eq] at hdigest
  rw [checkRemoteBase, seq_eq_ok, seq_eq_ok]
  refine ⟨hlocal, ?_, ?_⟩
  · rw [validateRemoteToken, reject_eq_ok]
    show ¬ (!isRemoteToken completion.remoteRevision) = true
    rw [isRemoteToken_of_isRemoteId hrevision]
    exact Bool.false_ne_true
  · rw [RemoteContentHash.validate, reject_eq_ok, not_or]
    exact ⟨not_not.mpr hdigest.1, by rw [verifiedBase, hdigest.2]; rintro ⟨⟩⟩

/-! ## Statements on the rows -/

section Statements

variable {table : Table fun row : RemoteEntryRow => row.entry.fileId} {u : Unicode}
  {db db' : Database}

/-- An upsert writes the entry over the old one and leaves the base. -/
theorem lookup_upsertRow (entry : RemoteEntry) (fileId : String) :
    (upsertRow table entry).lookup fileId =
      if entry.fileId = fileId then
        some { entry, base := (table.lookup fileId).bind (·.base) }
      else table.lookup fileId := by
  rw [upsertRow]
  cases h : table.insert { entry, base := none } with
  | some inserted =>
      have hnone : table.lookup entry.fileId = none := Table.lookup_of_insert_none h
      rw [Option.getD_some, Table.lookup_of_insert h]
      by_cases hid : entry.fileId = fileId
      · rw [if_pos hid, if_pos hid, ← hid, hnone, Option.bind_none]
      · rw [if_neg hid, if_neg hid]
  | none =>
      obtain ⟨old, hold, hkey⟩ := Table.insert_eq_none_iff.mp h
      have hrow : table.lookup entry.fileId = some old := Table.lookup_eq_some_iff.mpr ⟨hold, hkey⟩
      rw [Option.getD_none, Table.lookup_update]
      by_cases hid : entry.fileId = fileId
      · subst hid
        have hmatch : decide (old.entry.fileId = entry.fileId) = true := decide_eq_true hkey
        rw [hrow, Option.map_some, if_pos hmatch, if_pos rfl, Option.bind_some]
      · rw [if_neg hid]
        cases hother : table.lookup fileId with
        | none => rfl
        | some other =>
            have hne : ¬ decide (other.entry.fileId = entry.fileId) = true := by
              rw [decide_eq_true_eq, (Table.lookup_eq_some_iff.mp hother).2]
              exact fun heq => hid heq.symm
            rw [Option.map_some, if_neg hne]

/-- Every file has the base it had. -/
def SameBases (db db' : Database) : Prop := ∀ fileId, db'.baseOf fileId = db.baseOf fileId

instance : Std.Refl SameBases := ⟨fun _ _ => rfl⟩

instance : IsTrans Database SameBases :=
  ⟨fun _ _ _ hab hbc fileId => (hbc fileId).trans (hab fileId)⟩

theorem sameBases_of_entries (h : db'.remoteEntries = db.remoteEntries) : SameBases db db' :=
  fun fileId => by rw [Database.baseOf, Database.baseOf, h]

/-- A program that leaves the table of the entries alone. -/
instance (priority := low) {α : Type} {p : StoreProgram α} [h : Keeps (OnlyWrites [.vaultState,
    .scanFrontier, .changeBatch, .declaredMutations, .batchProgress, .transfers]) p] :
    Keeps SameBases p :=
  h.mono fun _ _ hwrites => sameBases_of_entries (hwrites .remoteEntries (by decide))

instance {entry : RemoteEntry} : Keeps SameBases (upsertRemoteEntry u entry) := by
  have hwrite : Keeps SameBases
      (write fun db => { db with remoteEntries := upsertRow db.remoteEntries entry } :
        StoreProgram Unit) := .write fun db fileId => by
    show ((upsertRow db.remoteEntries entry).lookup fileId).bind (·.base) =
      (db.remoteEntries.lookup fileId).bind (·.base)
    rw [lookup_upsertRow]
    split
    · rfl
    · rfl
  unfold upsertRemoteEntry
  infer_instance

theorem baseOf_deleteRemoteEntry {fileId : String} {v : Unit}
    (h : exec (deleteRemoteEntry fileId) db = (.ok v, db')) (other : String) :
    db'.baseOf other = if fileId = other then none else db.baseOf other := by
  rw [deleteRemoteEntry, exec_write_ok] at h
  subst h
  rw [Database.baseOf, Table.lookup_delete, Database.baseOf]
  cases hrow : db.remoteEntries.lookup other with
  | none => split <;> rfl
  | some row =>
      have hid : row.entry.fileId = other := (Table.lookup_eq_some_iff.mp hrow).2
      rw [Option.filter_some, hid]
      by_cases heq : fileId = other
      · subst heq
        simp
      · have hne : ¬ other = fileId := fun h => heq h.symm
        simp [heq, hne]

/-- The changes of a page in their order; what it lists as removed has no base after it,
also where it lists the file again. -/
theorem baseOf_forM_applyChange {changes : List RemoteChange} {v : PUnit}
    (h : exec (changes.forM (applyChange u)) db = (.ok v, db')) (fileId : String) :
    db'.baseOf fileId = if .removed fileId ∈ changes then none else db.baseOf fileId := by
  induction changes generalizing db with
  | nil =>
      rw [exec_forM_nil_ok.mp h]
      rfl
  | cons change rest ih =>
      obtain ⟨_, mid, hchange, hrest⟩ := exec_forM_cons_ok.mp h
      rw [ih hrest]
      cases change with
      | upsert entry =>
          have hkeeps : Keeps SameBases (upsertRemoteEntry u entry) := inferInstance
          have hsame : mid.baseOf fileId = db.baseOf fileId := hkeeps.of_exec hchange fileId
          simp [hsame]
      | removed other =>
          rw [baseOf_deleteRemoteEntry hchange fileId]
          by_cases hid : other = fileId
          · subst hid
            simp
          · have hne : ¬ fileId = other := fun h => hid h.symm
            simp [hid, hne]

end Statements

/-! ## Calls -/

section Calls

variable {u : Unicode} {vaultId : Uuid} {db db' : Database}

theorem baseOf_beginInitialScan {startToken : String} {nowUnixMs : ℕ} {v : Unit}
    (h : exec (beginInitialScan vaultId startToken nowUnixMs) db = (.ok v, db'))
    (fileId : String) : db'.baseOf fileId = none := by
  simp only [beginInitialScan, exec_bind_ok, exec_lift_ok, exec_transaction_ok, exec_reject_ok,
    exec_write_ok, exists_and_left, exists_eq_left', exists_const, and_assoc] at h
  obtain ⟨_, -, _, -, state, mid, hstate, -, -, _, db₁, hfrontier, hupdate⟩ := h
  have hfirst : Keeps SameBases (insertFrontier
      { sequence := 1, folderId := state.remoteRootId, portablePath := "", pageToken := none }) :=
    inferInstance
  have hlast : SameBases db₁ db' := Keeps.of_exec inferInstance hupdate
  rw [hlast fileId, hfirst.of_exec hfrontier fileId]
  rfl

theorem baseOf_applyChangesPage {expectedCursor : String} {page : ChangesPage} {nowUnixMs : ℕ}
    {v : Unit} (h : exec (applyChangesPage u vaultId expectedCursor page nowUnixMs) db =
      (.ok v, db')) (fileId : String) :
    db'.baseOf fileId = if .removed fileId ∈ page.changes then none else db.baseOf fileId := by
  simp only [applyChangesPage, exec_bind_ok, exec_lift_ok, exec_transaction_ok, exec_reject_ok,
    exists_and_left, exists_eq_left', exists_const, and_assoc] at h
  obtain ⟨_, -, _, -, _, -, state, mid, hstate, -, -, _, db₁, hchanges, hadvance⟩ := h
  have hkeeps : Keeps Eq (requireState vaultId) := inferInstance
  obtain rfl := hkeeps.of_exec hstate
  have hlast : ∀ next, Keeps SameBases (advanceDrain page nowUnixMs next) := by
    intro next
    cases next <;> unfold advanceDrain <;> infer_instance
  rw [(hlast _).of_exec hadvance fileId, baseOf_forM_applyChange hchanges]

set_option synthInstance.maxSize 100000 in
instance applyScanPage_sameBases {expectedPageToken : Option String} {page : ScanPage}
    {nowUnixMs : ℕ} :
    Keeps SameBases (applyScanPage u vaultId expectedPageToken page nowUnixMs) := by
  unfold applyScanPage
  infer_instance

set_option synthInstance.maxSize 100000 in
instance beginTransferChangeBatch_sameBases {batchId : Uuid} {expectedCursor nextCursor : String}
    {changes : List RemoteChange} {downloads : List TransferRecord} :
    Keeps SameBases (beginTransferChangeBatch u vaultId batchId expectedCursor nextCursor changes
      downloads) := by
  have hupsert : ∀ change, Keeps SameBases (upsertChange u change) := by
    intro change
    cases change <;> unfold upsertChange <;> infer_instance
  unfold beginTransferChangeBatch
  infer_instance

/-- The row of the file is what the transfer was verified against. -/
structure VerifiedEntry (transfer : TransferRecord) (completion : TransferCompletion)
    (entry : RemoteEntry) : Prop where
  parent : entry.parentId = transfer.remoteParentId
  path : entry.path = transfer.portablePath
  kind : entry.kind = .file
  revision : entry.remoteRevision = completion.remoteRevision

/-- What a completion writes into the table of the entries. -/
inductive WritesBase (db db' : Database) (transfer : TransferRecord)
    (completion : TransferCompletion) : Prop
  | absent (hrow : db.remoteEntries.lookup completion.remoteFileId = none)
      (hsame : SameBases db db')
  | present (row : RemoteEntryRow)
      (hrow : db.remoteEntries.lookup completion.remoteFileId = some row)
      (verified : VerifiedEntry transfer completion row.entry)
      (bases : ∀ fileId, db'.baseOf fileId = if completion.remoteFileId = fileId then
        some (verifiedBase transfer completion) else db.baseOf fileId)

theorem writesBase_of_update {transfer : TransferRecord} {completion : TransferCompletion}
    {v : Unit} (h : exec (updateRemoteBaseIfPresent transfer completion) db = (.ok v, db')) :
    WritesBase db db' transfer completion := by
  simp only [updateRemoteBaseIfPresent, exec_bind_ok, exec_read_ok, exists_and_left,
    exists_eq_left', and_assoc] at h
  cases hrow : db.remoteEntries.lookup completion.remoteFileId with
  | none =>
      rw [hrow, if_pos rfl, exec_pure_ok] at h
      exact .absent hrow fun fileId => by rw [h.2]
  | some row =>
      rw [hrow, if_neg (Option.some_ne_none row)] at h
      simp only [exec_bind_ok, exec_lift_ok, exec_read_ok, exec_write_ok, exec_reject_ok,
        exists_and_left, exists_eq_left', exists_const, and_assoc, Decidable.not_not] at h
      obtain ⟨_, -, hcount, rfl⟩ := h
      have hpos : 0 < db.remoteEntries.count (isVerifiedEntry transfer completion) := by omega
      obtain ⟨found, hfound, hverified⟩ := Table.count_pos_iff.mp hpos
      have hchecked := hverified
      simp only [isVerifiedEntry, Bool.and_eq_true, beq_iff_eq] at hchecked
      obtain ⟨⟨⟨⟨⟨hid, hparent⟩, hpath⟩, hkind⟩, hrevision⟩, -⟩ := hchecked
      have hsame : found = row := Option.some.inj
        ((Table.lookup_eq_some_iff.mpr ⟨hfound, hid⟩).symm.trans hrow)
      subst hsame
      refine .present found hrow ⟨hparent, hpath, hkind, hrevision⟩ fun fileId => ?_
      rw [Database.baseOf, Table.lookup_update, Database.baseOf]
      by_cases hfile : completion.remoteFileId = fileId
      · rw [if_pos hfile, ← hfile, hrow, Option.map_some, if_pos hverified]
        rfl
      · rw [if_neg hfile]
        cases hother : db.remoteEntries.lookup fileId with
        | none => rfl
        | some other =>
            have hne : ¬ isVerifiedEntry transfer completion other = true := by
              intro hmatch
              simp only [isVerifiedEntry, Bool.and_eq_true, beq_iff_eq] at hmatch
              exact hfile (hmatch.1.1.1.1.1.symm.trans (Table.lookup_eq_some_iff.mp hother).2)
            rw [Option.map_some, if_neg hne]

/-- A completion that is new writes the base of its file, if the file has a row. -/
theorem writesBase_of_complete {operationId : Uuid} {completion : TransferCompletion}
    (h : exec (completeVerifiedTransfer u operationId completion) db =
      (.ok .completed, db')) :
    ∃ transfer, db.transfers.lookup operationId = some transfer ∧
      completion.validate = .ok () ∧ checkTransferRow u transfer = .ok () ∧
      WritesBase db db' transfer completion := by
  simp only [completeVerifiedTransfer, activeTransferMutationState, exec_bind_ok, exec_reject_ok,
    exec_lift_ok, exec_transaction_ok, exec_requireTransfer_ok, exec_read_ok, exists_and_left,
    exists_eq_left', exists_const, and_assoc] at h
  obtain ⟨-, _, hvalid, transfer, htransfer, hcheck, mutationState, mid, ⟨_, _, hload, -, rfl⟩,
    h⟩ := h
  have hkeeps : Keeps Eq loadChangeBatch := inferInstance
  obtain rfl := hkeeps.of_exec hload
  refine ⟨transfer, htransfer, hvalid, hcheck, ?_⟩
  split at h
  · cases (completeAgain_ok h).1
  simp only [completeNow, exec_bind_ok, exec_lift_ok, exec_reject_ok, exec_pure_ok,
    exists_and_left, exists_eq_left', exists_const, and_assoc] at h
  obtain ⟨-, -, -, _, -, _, db₁, hhistory, _, db₂, htransfers, -, _, db₃, hbase, _, _, hmutation,
    -, rfl⟩ := h
  have khistory : Keeps (OnlyWrites [.transfers, .transferHistory, .batchProgress])
      (insertTransferHistory transfer.operationId completion.outcomeCode
        completion.occurredAtUnixMs) := by
    unfold insertTransferHistory
    infer_instance
  have fhistory : OnlyWrites [.transfers, .transferHistory, .batchProgress] db db₁ :=
    khistory.of_exec hhistory
  have ftransfers : OnlyWrites [.transfers, .transferHistory, .batchProgress] db₁ db₂ :=
    Keeps.of_exec inferInstance htransfers
  have fmutation : OnlyWrites [.transfers, .transferHistory, .batchProgress] db₃ _ :=
    Keeps.of_exec inferInstance hmutation
  have hbefore : db₂.remoteEntries = db.remoteEntries :=
    IsTrans.trans _ _ _ fhistory ftransfers .remoteEntries (by decide)
  have hafter := sameBases_of_entries (fmutation .remoteEntries (by decide))
  cases writesBase_of_update hbase with
  | absent hrow hsame =>
      exact .absent (hbefore ▸ hrow)
        (IsTrans.trans _ _ _ (IsTrans.trans _ _ _ (sameBases_of_entries hbefore) hsame) hafter)
  | present row hrow hverified hbases =>
      refine .present row (hbefore ▸ hrow) hverified fun fileId => ?_
      rw [hafter fileId, hbases fileId, sameBases_of_entries hbefore fileId]

end Calls

/-! ## Runs -/

section Runs

variable {u : Unicode} {sha256 : Sha256} {vaultId : Uuid} {db : Database} {op : Operation}
  {fileId : String}

/-- The call deletes the row of the file. -/
def Operation.deletesEntry (fileId : String) : Operation → Bool
  | .beginInitialScan .. => true
  | .applyChangesPage _ page _ => decide (.removed fileId ∈ page.changes)
  | _ => false

/-- A call that succeeds and leaves no base of the file. -/
def Forgets (u : Unicode) (sha256 : Sha256) (vaultId : Uuid) (fileId : String) (db : Database)
    (op : Operation) : Prop :=
  op.deletesEntry fileId = true ∧ Succeeds u sha256 vaultId db op

/-- The call completes a transfer of the file that was not completed before. -/
def CompletesFile (u : Unicode) (sha256 : Sha256) (vaultId : Uuid) (fileId : String)
    (db : Database) (op : Operation) : Prop :=
  ∃ operationId completion, op = .completeVerifiedTransfer operationId completion ∧
    completion.remoteFileId = fileId ∧
    (exec (perform u sha256 vaultId op) db).1 = .ok (.transferCompleted .completed)

theorem baseOf_of_forgets (h : Forgets u sha256 vaultId fileId db op) :
    (step u sha256 vaultId db op).baseOf fileId = none := by
  obtain ⟨hdeletes, reply, hok⟩ := h
  cases op
  case beginInitialScan startToken now =>
    obtain ⟨_, hcall, -⟩ := exec_replying_ok.mp hok
    exact baseOf_beginInitialScan hcall fileId
  case applyChangesPage expectedCursor page now =>
    obtain ⟨_, hcall, -⟩ := exec_replying_ok.mp hok
    rw [baseOf_applyChangesPage hcall, if_pos (of_decide_eq_true hdeletes)]
  all_goals exact absurd hdeletes Bool.false_ne_true

/-- A call that does not write the entries. -/
theorem baseOf_step_of_writes (h : Part.remoteEntries ∉ op.writes) :
    (step u sha256 vaultId db op).baseOf fileId = db.baseOf fileId :=
  sameBases_of_entries (step_content u sha256 vaultId db op h) fileId

/-- No other call changes a base. -/
theorem baseOf_step (hforgets : ¬ Forgets u sha256 vaultId fileId db op)
    (hcompletes : ¬ CompletesFile u sha256 vaultId fileId db op) :
    (step u sha256 vaultId db op).baseOf fileId = db.baseOf fileId := by
  rcases step_eq_or_ok u sha256 vaultId db op with hsame | hsucceeds
  · rw [hsame]
  have hkept : op.deletesEntry fileId = false :=
    Bool.eq_false_iff.mpr fun hdeletes => hforgets ⟨hdeletes, hsucceeds⟩
  obtain ⟨reply, hok⟩ := hsucceeds
  cases op
  case beginInitialScan startToken now => cases hkept
  case applyScanPage expectedPageToken page now =>
    obtain ⟨_, hcall, -⟩ := exec_replying_ok.mp hok
    exact applyScanPage_sameBases.of_exec hcall fileId
  case applyChangesPage expectedCursor page now =>
    obtain ⟨_, hcall, -⟩ := exec_replying_ok.mp hok
    rw [baseOf_applyChangesPage hcall, if_neg (of_decide_eq_false hkept)]
  case beginTransferChangeBatch batchId expectedCursor nextCursor changes downloads =>
    obtain ⟨_, hcall, -⟩ := exec_replying_ok.mp hok
    exact beginTransferChangeBatch_sameBases.of_exec hcall fileId
  case completeVerifiedTransfer operationId completion =>
    obtain ⟨outcome, hcall, rfl⟩ := exec_replying_ok.mp hok
    cases outcome with
    | alreadyCompleted =>
        obtain ⟨-, _, -, ⟨-, -, hsame, -⟩ | ⟨-, hnew, -⟩⟩ := completion_cases hcall
        · rw [hsame]
        · cases hnew
    | completed =>
        have hother : completion.remoteFileId ≠ fileId := fun hfile =>
          hcompletes ⟨operationId, completion, rfl, hfile, congrArg Prod.fst hok⟩
        obtain ⟨_, -, -, -, hwrites⟩ := writesBase_of_complete hcall
        cases hwrites with
        | absent _ hsame => exact hsame fileId
        | present _ _ _ hbases => rw [hbases, if_neg hother]
  all_goals exact baseOf_step_of_writes (by simp [Operation.writes])

/-- What is read of a file after a run without a new completion and without a call that
forgets it. -/
theorem baseOf_run {later : List Operation}
    (hlater : Meets (step u sha256 vaultId) (fun db op => ¬ Forgets u sha256 vaultId fileId db op ∧
      ¬ CompletesFile u sha256 vaultId fileId db op) db later) :
    (run (step u sha256 vaultId) db later).baseOf fileId = db.baseOf fileId := by
  have hstep : ∀ s op, s.baseOf fileId = db.baseOf fileId →
      ¬ Forgets u sha256 vaultId fileId s op ∧ ¬ CompletesFile u sha256 vaultId fileId s op →
      (step u sha256 vaultId s op).baseOf fileId = db.baseOf fileId :=
    fun s op hs hop => (baseOf_step hop.1 hop.2).trans hs
  exact run_induction_of_meets hstep rfl hlater

/-- Without a new completion a file gets no base. -/
theorem baseOf_run_none {later : List Operation} (hnone : db.baseOf fileId = none)
    (hlater : Meets (step u sha256 vaultId)
      (fun db op => ¬ CompletesFile u sha256 vaultId fileId db op) db later) :
    (run (step u sha256 vaultId) db later).baseOf fileId = none := by
  have hstep : ∀ s op, s.baseOf fileId = none → ¬ CompletesFile u sha256 vaultId fileId s op →
      (step u sha256 vaultId s op).baseOf fileId = none := by
    intro s op hs hop
    by_cases hforgets : Forgets u sha256 vaultId fileId s op
    · exact baseOf_of_forgets hforgets
    · exact (baseOf_step hforgets hop).trans hs
  exact run_induction_of_meets hstep hnone hlater

/-! ## The base of a completed transfer -/

variable (u sha256 vaultId)

/-- **The base of a file is what the last completion verified, as long as no call has
deleted the row since.** -/
theorem base_stays_until_forgotten (before : List Operation) (operationId : Uuid)
    (completion : TransferCompletion)
    (hcompletes : (exec (perform u sha256 vaultId (.completeVerifiedTransfer operationId
      completion)) (runStore u sha256 vaultId before)).1 = .ok (.transferCompleted .completed)) :
    ∃ transfer, (runStore u sha256 vaultId before).transfers.lookup operationId = some transfer ∧
      (∀ row, (runStore u sha256 vaultId before).remoteEntries.lookup completion.remoteFileId =
          some row →
        VerifiedEntry transfer completion row.entry ∧
        ∀ later, Meets (step u sha256 vaultId)
            (fun db op => ¬ Forgets u sha256 vaultId completion.remoteFileId db op ∧
              ¬ CompletesFile u sha256 vaultId completion.remoteFileId db op)
            (runStore u sha256 vaultId
              (before ++ [.completeVerifiedTransfer operationId completion])) later →
          (exec (remoteBase completion.remoteFileId) (runStore u sha256 vaultId
            (before ++ [.completeVerifiedTransfer operationId completion] ++ later))).1 =
              .ok (some (verifiedBase transfer completion))) ∧
      ((runStore u sha256 vaultId before).remoteEntries.lookup completion.remoteFileId = none →
        ∀ later, Meets (step u sha256 vaultId)
            (fun db op => ¬ CompletesFile u sha256 vaultId completion.remoteFileId db op)
            (runStore u sha256 vaultId
              (before ++ [.completeVerifiedTransfer operationId completion])) later →
          (exec (remoteBase completion.remoteFileId) (runStore u sha256 vaultId
            (before ++ [.completeVerifiedTransfer operationId completion] ++ later))).1 =
              .ok none) ∧
      ∀ between op later,
        Forgets u sha256 vaultId completion.remoteFileId (runStore u sha256 vaultId
          (before ++ [.completeVerifiedTransfer operationId completion] ++ between)) op →
        Meets (step u sha256 vaultId)
          (fun db op => ¬ CompletesFile u sha256 vaultId completion.remoteFileId db op)
          (runStore u sha256 vaultId (before ++
            [.completeVerifiedTransfer operationId completion] ++
            between ++ [op])) later →
        (exec (remoteBase completion.remoteFileId) (runStore u sha256 vaultId
          (before ++ [.completeVerifiedTransfer operationId completion] ++ between ++ [op] ++
            later))).1 = .ok none := by
  obtain ⟨outcome, hcall, houtcome⟩ := exec_replying_ok.mp
    (Prod.ext hcompletes rfl : exec (perform u sha256 vaultId (.completeVerifiedTransfer
      operationId completion)) (runStore u sha256 vaultId before) =
        (.ok (.transferCompleted .completed), _))
  cases houtcome
  obtain ⟨transfer, htransfer, hvalid, hrow, hwrites⟩ := writesBase_of_complete hcall
  have hfile : isRemoteId completion.remoteFileId = true := by
    simp only [TransferCompletion.validate, seq_eq_ok, validateRemoteId_eq_ok] at hvalid
    exact hvalid.1
  have hbase : ∀ evidence ∈ some (verifiedBase transfer completion),
      checkRemoteBase evidence = .ok () := fun evidence hmem =>
    Option.mem_some.mp hmem ▸ checkRemoteBase_verifiedBase hvalid hrow
  refine ⟨transfer, htransfer, fun row hknown => ?_, fun hunknown later hlater => ?_,
    fun between op later hforgets hlater => ?_⟩
  · cases hwrites with
    | absent hrow => rw [hrow] at hknown; cases hknown
    | present found hfound hverified hbases =>
        cases hfound.symm.trans hknown
        refine ⟨hverified, fun later hlater => remoteBase_eq hfile ?_ hbase⟩
        rw [runStore_append, baseOf_run hlater, runStore_concat]
        exact (hbases _).trans (if_pos rfl)
  · cases hwrites with
    | present found hfound => rw [hfound] at hunknown; cases hunknown
    | absent _ hsame =>
        refine remoteBase_eq hfile ?_ (by rintro _ ⟨⟩)
        rw [runStore_append]
        refine baseOf_run_none ?_ hlater
        rw [runStore_concat]
        refine (hsame _).trans ?_
        rw [Database.baseOf, hunknown, Option.bind_none]
  · refine remoteBase_eq hfile ?_ (by rintro _ ⟨⟩)
    rw [runStore_append]
    refine baseOf_run_none ?_ hlater
    rw [runStore_concat]
    exact baseOf_of_forgets hforgets

end Runs

/-! ## A rescan that finds the file again -/

/-- The note as the scan lists it. -/
def noteEntry : RemoteEntry := sampleEntry "file" "remote-root" "note.md" .file

/-- Scans the root, which holds the given entries. -/
def scanRun (startToken : String) (listed : List RemoteEntry) (nowUnixMs : ℕ) :
    List Operation :=
  [.beginInitialScan startToken nowUnixMs, .applyScanPage none ⟨listed, none⟩ nowUnixMs]

/-- The upload of the note has been claimed over a scan with the given entries. -/
def claimedRun (listed : List RemoteEntry) : List Operation :=
  bindRun ++ scanRun "start-1" listed 2 ++ [.registerTransfer noteUpload, .claimNextTransfer 100]

/-- What the upload of a note has left. -/
def noteCompletion : TransferCompletion where
  remoteFileId := "file"
  remoteRevision := "revision"
  localRevision := String.ofList (List.replicate 64 'a')
  baseReference := "base"
  outcomeCode := "uploaded"
  occurredAtUnixMs := 101

/-- The upload completes, and then a rescan is due. -/
theorem base_stays_after_upload :
    (exec (remoteBase "file") (runStore Unicode.ascii constantDigest sampleVaultId
      (claimedRun [noteEntry] ++ [.completeVerifiedTransfer uploadId noteCompletion] ++
        [.markRescanRequired 102]))).1 = .ok (some (verifiedBase noteUpload noteCompletion)) := by
  have hclaimed : (exec (perform Unicode.ascii constantDigest sampleVaultId
        (.completeVerifiedTransfer uploadId noteCompletion))
        (runStore Unicode.ascii constantDigest sampleVaultId (claimedRun [noteEntry]))).1 =
          .ok (.transferCompleted .completed) ∧
      (runStore Unicode.ascii constantDigest sampleVaultId
        (claimedRun [noteEntry])).transfers.lookup uploadId =
          some { noteUpload with phase := .running } ∧
      (runStore Unicode.ascii constantDigest sampleVaultId
        (claimedRun [noteEntry])).remoteEntries.lookup "file" = some ⟨noteEntry, none⟩ := by
    decide +kernel
  obtain ⟨hcompletes, hrow, hentry⟩ := hclaimed
  obtain ⟨transfer, htransfer, hknown, -, -⟩ := base_stays_until_forgotten Unicode.ascii
    constantDigest sampleVaultId (claimedRun [noteEntry]) uploadId noteCompletion hcompletes
  cases hrow.symm.trans htransfer
  refine (hknown _ hentry).2 [.markRescanRequired 102] ⟨⟨?_, ?_⟩, trivial⟩
  · exact fun hforgets => absurd hforgets.1 Bool.false_ne_true
  · rintro ⟨_, _, hop, -⟩
    cases hop

/-- A rescan finds the file as it was, and its base is gone; and a file that was uploaded
before the drain reported it never had one. -/
theorem rescan_forgets_base :
    ((exec (perform Unicode.ascii constantDigest sampleVaultId
        (.completeVerifiedTransfer uploadId noteCompletion))
        (runStore Unicode.ascii constantDigest sampleVaultId (claimedRun [noteEntry]))).1 =
          .ok (.transferCompleted .completed) ∧
      (runStore Unicode.ascii constantDigest sampleVaultId
        (claimedRun [noteEntry])).entries = [noteEntry] ∧
      (runStore Unicode.ascii constantDigest sampleVaultId (claimedRun [noteEntry] ++
        [.completeVerifiedTransfer uploadId noteCompletion, .markRescanRequired 102] ++
        scanRun "start-2" [noteEntry] 103)).entries = [noteEntry] ∧
      (exec (remoteBase "file") (runStore Unicode.ascii constantDigest sampleVaultId
        (claimedRun [noteEntry] ++ [.completeVerifiedTransfer uploadId noteCompletion,
          .markRescanRequired 102] ++ scanRun "start-2" [noteEntry] 103))).1 = .ok none) ∧
    ((exec (perform Unicode.ascii constantDigest sampleVaultId
        (.completeVerifiedTransfer uploadId noteCompletion))
        (runStore Unicode.ascii constantDigest sampleVaultId (claimedRun []))).1 =
          .ok (.transferCompleted .completed) ∧
      (runStore Unicode.ascii constantDigest sampleVaultId (claimedRun [] ++
        [.completeVerifiedTransfer uploadId noteCompletion,
          .applyChangesPage "start-1" ⟨[.upsert noteEntry], none, some "cursor-1"⟩ 103])).entries =
            [noteEntry] ∧
      (exec (remoteBase "file") (runStore Unicode.ascii constantDigest sampleVaultId
        (claimedRun [] ++ [.completeVerifiedTransfer uploadId noteCompletion,
          .applyChangesPage "start-1" ⟨[.upsert noteEntry], none, some "cursor-1"⟩ 103]))).1 =
            .ok none) := by
  refine ⟨?_, ?_⟩
  · decide +kernel
  · decide +kernel

end Store
end MyVault
