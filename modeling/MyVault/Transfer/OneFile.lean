import MyVault.Conflict.IdentityStream
import MyVault.Drive.Requests
import MyVault.Transfer.Upload
import Mathlib.Algebra.Order.BigOperators.Group.List

/-!
# An upload makes one file

A permit is given only where no file carries the marker, and it is used for one session.  So
an attempt adds at most one file that carries the marker, and only where there was none
(`Extends`); this is transitive, and holds over any number of attempts.  While the session is
open no file carries the marker (`Owns`), whatever answers are lost.

## How the argument goes

The provider is a state of its own: its files, its sessions and the answers it has given.  A turn
of the network may lose a request or its answer, and may let other devices create files; they do
not use the marker of the operation (`Apart`), which is the one assumption on them.

Each function of the upload is given its effect on the files with the marker: it leaves them
(`Leaves`), it fills its session (`Fills`), or it adds at most one (`Adds`).  These compose along
the code of an attempt, and `Reaches` along the attempts, however each of them ended.  What an
attempt returns as verified is there as the intent says (`Confirms`), since the attempt has read
its metadata back.
-/

namespace MyVault
namespace Transfer

open Drive Program

variable {drive : TransferDrive} {provider : Provider} {net : ℕ → Turn} {side : LocalSide}
  {remote remote' : Remote} {marker parentId : String} {create : CreateIntent}

/-- The files that carry the marker. -/
def marked (marker : String) (remote : Remote) : List StoredFile :=
  remote.files.rows.filter fun file => file.carries marker

/-- No other device creates files with the marker. -/
def Apart (net : ℕ → Turn) (marker : String) : Prop :=
  ∀ n, ∀ file ∈ (net n).created, file.carries marker = false

/-- Files are added, and one with the marker only where there was none. -/
def Extends (marker parentId : String) (remote remote' : Remote) : Prop :=
  ∃ added, remote'.files.rows = remote.files.rows ++ added ∧
    (added.filter (fun file => file.carries marker) = [] ∨
      marked marker remote = [] ∧ ∃ file, added.filter (fun file => file.carries marker) = [file] ∧
        file.trashed = false ∧ file.parents = [parentId])

namespace Extends

theorem of_files_eq (h : remote'.files = remote.files) :
    Extends marker parentId remote remote' :=
  ⟨[], by rw [h, List.append_nil], Or.inl rfl⟩

instance : Std.Refl (Extends marker parentId) := ⟨fun _ => of_files_eq rfl⟩

theorem marked_eq {added : List StoredFile}
    (h : remote'.files.rows = remote.files.rows ++ added) :
    marked marker remote' =
      marked marker remote ++ added.filter fun file => file.carries marker := by
  rw [marked, h, List.filter_append, marked]

instance : IsTrans Remote (Extends marker parentId) := by
  refine ⟨?_⟩
  rintro r₁ r₂ r₃ ⟨added, hrows, hadded⟩ ⟨added', hrows', hadded'⟩
  refine ⟨added ++ added', by rw [hrows', hrows, List.append_assoc], ?_⟩
  rw [List.filter_append]
  have hmarked := @marked_eq r₁ r₂ marker _ hrows
  rcases hadded with hnone | ⟨hnew, file, hone, hfile⟩
  · rw [hnone, List.append_nil] at hmarked
    rw [hnone, List.nil_append, ← hmarked]
    exact hadded'
  · rcases hadded' with hnone' | ⟨hnew', -⟩
    · rw [hone, hnone']
      exact Or.inr ⟨hnew, file, rfl, hfile⟩
    · -- there is a file with the marker already
      rw [hmarked, hone] at hnew'
      exact absurd hnew' (by simp)

theorem rows_kept (h : Extends marker parentId remote remote') :
    remote.files.rows <+: remote'.files.rows := by
  obtain ⟨added, hrows, -⟩ := h
  exact ⟨added, hrows.symm⟩

end Extends

/-- Every file that carries the marker is where the intent creates it, and is live. -/
def Placed (marker parentId : String) (remote : Remote) : Prop :=
  ∀ file ∈ marked marker remote, file.trashed = false ∧ file.parents = [parentId]

theorem Placed.extends (h : Placed marker parentId remote)
    (hextends : Extends marker parentId remote remote') : Placed marker parentId remote' := by
  obtain ⟨added, hrows, hadded⟩ := hextends
  rw [Placed, Extends.marked_eq hrows]
  intro file hfile
  rcases List.mem_append.mp hfile with hfile | hfile
  · exact h file hfile
  · rcases hadded with hnone | ⟨-, new, hone, hnew⟩
    · rw [hnone] at hfile
      exact nomatch hfile
    · rw [hone, List.mem_singleton] at hfile
      rw [hfile]
      exact hnew

/-- What others create does not carry the marker. -/
theorem exists_arrive (hapart : Apart net marker) (remote : Remote) :
    ∃ added, (remote.arrive provider (net remote.requests)).files.rows =
        remote.files.rows ++ added ∧ added.filter (fun file => file.carries marker) = [] := by
  obtain ⟨added, hrows, hadded⟩ :=
    @rows_foldl_create provider (net remote.requests).created remote.files
  refine ⟨added, hrows, ?_⟩
  rw [List.filter_eq_nil_iff]
  intro file hfile
  rw [Bool.not_eq_true]
  refine hapart remote.requests file.toNewFile ?_
  rw [← hadded]
  exact List.mem_map_of_mem hfile

theorem extends_arrive (hapart : Apart net marker) (remote : Remote) :
    Extends marker parentId remote (remote.arrive provider (net remote.requests)) := by
  obtain ⟨added, hrows, hadded⟩ := @exists_arrive provider net marker hapart remote
  exact ⟨added, hrows, Or.inl hadded⟩

theorem marked_arrive (hapart : Apart net marker) (remote : Remote) :
    marked marker (remote.arrive provider (net remote.requests)) = marked marker remote := by
  obtain ⟨added, hrows, hadded⟩ := @exists_arrive provider net marker hapart remote
  rw [Extends.marked_eq hrows, hadded, List.append_nil]

/-! ## One attempt -/

/-- What an attempt may do, given where the marker is and that others stay apart. -/
def Adds (net : ℕ → Turn) (marker parentId : String) (remote remote' : Remote) : Prop :=
  Apart net marker → Placed marker parentId remote → Extends marker parentId remote remote'

instance : Std.Refl (Adds net marker parentId) := ⟨fun _ _ _ => Std.Refl.refl _⟩

instance : IsTrans Remote (Adds net marker parentId) :=
  ⟨fun _ _ _ h h' hapart hplaced =>
    let hextends := h hapart hplaced
    IsTrans.trans _ _ _ hextends (h' hapart (hplaced.extends hextends))⟩

instance : Arrives provider net (Adds net marker parentId) :=
  ⟨fun remote hapart _ => extends_arrive hapart remote⟩

instance : Forgets (Adds net marker parentId) := ⟨fun _ _ _ _ => Extends.of_files_eq rfl⟩

/-- The session is the one of the intent, and as long as it is not a file there is none. -/
def Owns (create : CreateIntent) (uri : ℕ) (remote : Remote) : Prop :=
  ∃ session, remote.sessions[uri]? = some session ∧ session.intent = create ∧
    (session.file = none → marked create.operationMarker remote = [])

/-- What an attempt may do with its session. -/
def Fills (net : ℕ → Turn) (create : CreateIntent) (uri : ℕ) (remote remote' : Remote) : Prop :=
  Apart net create.operationMarker → Owns create uri remote →
    Owns create uri remote' ∧ Extends create.operationMarker create.parentId remote remote'

section Fills

variable {uri : ℕ}

instance : Std.Refl (Fills net create uri) := ⟨fun _ _ howns => ⟨howns, Std.Refl.refl _⟩⟩

instance : IsTrans Remote (Fills net create uri) := by
  refine ⟨fun r₁ r₂ r₃ h h' hapart howns => ?_⟩
  obtain ⟨howns₂, hextends⟩ := h hapart howns
  obtain ⟨howns₃, hextends'⟩ := h' hapart howns₂
  exact ⟨howns₃, IsTrans.trans _ _ _ hextends hextends'⟩

instance : Arrives provider net (Fills net create uri) := by
  refine ⟨fun remote hapart howns => ⟨?_, extends_arrive hapart remote⟩⟩
  obtain ⟨session, hsession, hintent, hnone⟩ := howns
  refine ⟨session, hsession, hintent, fun hfile => ?_⟩
  rw [marked_arrive hapart, hnone hfile]

instance : Forgets (Fills net create uri) :=
  ⟨fun _ _ _ howns => ⟨howns, Extends.of_files_eq rfl⟩⟩

theorem receive_intent (session : Session) (offset : Option ℕ) (bytes : List UInt8) :
    (session.receive offset bytes).intent = session.intent ∧
      (session.receive offset bytes).file = session.file := by
  rw [Session.receive]
  split <;> exact ⟨rfl, rfl⟩

/-- A `PUT` makes a file of an open session, or none. -/
theorem fills_put (offset : Option ℕ) (bytes : List UInt8) (remote : Remote) :
    Fills net create uri remote (remote.put provider uri offset bytes) := by
  rintro - ⟨session, hsession, hintent, hnone⟩
  have hlt : uri < remote.sessions.length := (List.getElem?_eq_some_iff.mp hsession).1
  rw [Remote.put, hsession]
  dsimp only
  by_cases hfile : session.file = none
  · obtain ⟨hreceived, hopen⟩ := receive_intent session offset bytes
    rw [if_pos hfile]
    generalize session.receive offset bytes = received at hreceived hopen
    rw [Provider.settle]
    split
    · -- the last byte: there was no file with the marker
      have hcarries : (provider.store remote.files
          (received.intent.newFile received.received)).carries create.operationMarker = true := by
        rw [hreceived, hintent]
        exact beq_self_eq_true _
      refine ⟨⟨{ received with file := some (provider.newId remote.files) }, ?_, ?_, nofun⟩,
        [_], rows_create _ _, Or.inr ⟨hnone hfile, _, List.filter_cons_of_pos hcarries, rfl, ?_⟩⟩
      · exact List.getElem?_set_self hlt
      · exact hreceived.trans hintent
      · show [received.intent.parentId] = _
        rw [hreceived, hintent]
    · exact ⟨⟨received, List.getElem?_set_self hlt, hreceived.trans hintent, fun _ => hnone hfile⟩,
        Extends.of_files_eq rfl⟩
  · rw [if_neg hfile, Provider.settle, if_neg (fun h => hfile h.1)]
    exact ⟨⟨session, List.getElem?_set_self hlt, hintent, fun h => absurd h hfile⟩,
      Extends.of_files_eq rfl⟩

end Fills

/-- Nothing is added that carries the marker. -/
def Leaves (net : ℕ → Turn) (marker : String) (remote remote' : Remote) : Prop :=
  Apart net marker → marked marker remote' = marked marker remote

instance : Std.Refl (Leaves net marker) := ⟨fun _ _ => rfl⟩

instance : IsTrans Remote (Leaves net marker) :=
  ⟨fun _ _ _ h h' hapart => (h' hapart).trans (h hapart)⟩

instance : Arrives provider net (Leaves net marker) :=
  ⟨fun remote hapart => marked_arrive hapart remote⟩

instance : Forgets (Leaves net marker) := ⟨fun _ _ _ => rfl⟩

/-! ## The parts of an attempt -/

section Parts

variable {R : Remote → Remote → Prop} [Std.Refl R] [IsTrans Remote R] [Arrives provider net R]
  {session : UploadSession}

theorem keeps_chunkProgress {bytes : List UInt8}
    (hput : ∀ offset bytes remote, R remote (Remote.put provider session.uri offset bytes remote)) :
    Keeps R (chunkProgress drive provider net session bytes) := by
  have hchunk := @TransferDrive.keeps_uploadChunk drive provider net R _ _ _ session bytes hput
  have hstatus := @TransferDrive.keeps_queryUploadStatus drive provider net R _ _ _ session hput
  rw [chunkProgress]
  refine .bind_of inferInstance fun progress => ?_
  split <;> infer_instance

instance keeps_nextChunk : Keeps R (nextChunk side session) := by
  rw [nextChunk]
  infer_instance

theorem keeps_uploadLoop {turns : ℕ}
    (hput : ∀ offset bytes remote, R remote (Remote.put provider session.uri offset bytes remote)) :
    Keeps R (uploadLoop drive provider net side turns session) := by
  induction turns generalizing session with
  | zero => exact .throw
  | succ turns ih =>
      rw [uploadLoop]
      refine .bind_of inferInstance fun bytes =>
        .bind_of (keeps_chunkProgress hput) fun progress => ?_
      split
      · exact .pure
      · exact ih hput

instance keeps_inspectObserved {intent : TransferIntent} :
    Keeps R (inspectObserved drive provider net intent) := by
  rw [inspectObserved]
  split
  · exact .pure
  · split
    · exact .throw
    · infer_instance

end Parts

/-- Where the query for the marker finds nothing, no file carries it. -/
theorem marked_eq_nil (hplaced : Placed create.operationMarker create.parentId remote')
    (h : remote'.files.rows.filter (TransferDrive.markerQuery create).selects = []) :
    marked create.operationMarker remote' = [] := by
  rw [marked, List.filter_eq_nil_iff]
  rw [List.filter_eq_nil_iff] at h
  intro file hfile hcarries
  obtain ⟨hlive, hparents⟩ := hplaced file (List.mem_filter.mpr ⟨hfile, hcarries⟩)
  refine h file hfile ?_
  rw [TransferDrive.markerQuery, FileQuery.selects, hlive, hparents, hcarries]
  simp

/-- A permit comes from two queries that have found nothing. -/
theorem reconcileCreate_absent {permit : CreatePermit}
    (h : exec (drive.reconcileCreate provider net create) remote =
      (.ok (.absent permit), remote')) :
    permit = { intent := create } ∧ ∃ asked,
      exec (drive.queryFiles provider net (TransferDrive.markerQuery create)) remote =
          (.ok [], asked) ∧
        exec (drive.queryFiles provider net (TransferDrive.nameQuery create)) asked =
          (.ok [], remote') := by
  rw [TransferDrive.reconcileCreate] at h
  obtain ⟨found, asked, hmarker, h⟩ := exec_bind_ok.mp h
  split at h
  · rw [TransferDrive.reconcileMarked] at h
    split at h
    · obtain ⟨verified, _, -, h⟩ := exec_bind_ok.mp h
      split at h
      · obtain ⟨_, _, -, h⟩ := exec_bind_ok.mp h
        cases h
      · cases h
    · cases h
  · obtain ⟨named, _, hname, h⟩ := exec_bind_ok.mp h
    split at h
    · obtain ⟨hpermit, rfl⟩ := exec_pure_ok.mp h
      cases hpermit
      exact ⟨rfl, asked, hmarker, hname⟩
    · rw [TransferDrive.reconcileNamed] at h
      split at h
      · obtain ⟨verified, _, -, h⟩ := exec_bind_ok.mp h
        split at h
        · obtain ⟨_, _, -, h⟩ := exec_bind_ok.mp h
          cases h
        · cases h
      · cases h
    · cases h
  · cases h

/-- With a permit no file carries the marker. -/
theorem marked_of_absent (hapart : Apart net create.operationMarker)
    (hplaced : Placed create.operationMarker create.parentId remote) {permit : CreatePermit}
    (h : exec (drive.reconcileCreate provider net create) remote =
      (.ok (.absent permit), remote')) :
    permit = { intent := create } ∧ marked create.operationMarker remote' = [] := by
  obtain ⟨rfl, asked, hmarker, hname⟩ := reconcileCreate_absent h
  refine ⟨rfl, ?_⟩
  have hleaves : Leaves net create.operationMarker asked remote' :=
    TransferDrive.keeps_queryFiles.of_exec hname
  have hadds : Adds net create.operationMarker create.parentId remote asked :=
    TransferDrive.keeps_queryFiles.of_exec hmarker
  obtain ⟨found, hfound, hfiles, -⟩ := TransferDrive.queryFilesWithPageSize_ok hmarker
  rw [hleaves hapart]
  refine marked_eq_nil (hplaced.extends (hadds hapart hplaced)) ?_
  rw [← hfound]
  exact List.map_eq_nil_iff.mp hfiles.symm

/-- The session that is opened is the only one that may become a file with the marker. -/
theorem owns_of_initiate (hapart : Apart net create.operationMarker)
    (hmarked : marked create.operationMarker remote = []) {session : UploadSession}
    (h : exec (drive.initiateResumableCreate provider net { intent := create }) remote =
      (.ok session, remote')) : Owns create session.uri remote' := by
  rw [TransferDrive.initiateResumableCreate] at h
  obtain ⟨_, folder, hfolder, h⟩ := exec_bind_ok.mp h
  obtain ⟨uri, opened, hrequest, h⟩ := exec_bind_ok.mp h
  obtain ⟨rfl, rfl⟩ := exec_pure_ok.mp h
  obtain ⟨-, rfl, huri⟩ := request_ok hrequest
  have hleaves : Leaves net create.operationMarker remote folder :=
    TransferDrive.keeps_ensureFolderBelowRoot.of_exec hfolder
  refine ⟨{ intent := create, received := [], file := none }, ?_, rfl, fun _ => ?_⟩
  · rw [← Except.ok.inj huri, Remote.openSession, List.length_append]
    exact List.getElem?_concat_length
  · have harrive : marked create.operationMarker
        (folder.arrive provider (net folder.requests)) = [] := by
      rw [marked_arrive hapart, hleaves hapart, hmarked]
    exact harrive

/-- What follows a permit adds one file with the marker at most. -/
theorem extends_createAndVerify (hapart : Apart net create.operationMarker)
    (hmarked : marked create.operationMarker remote = []) {turns : ℕ}
    {x : Except Interrupted RemoteObject}
    (h : exec (createAndVerify drive provider net side turns create { intent := create }) remote =
      (x, remote')) :
    Extends create.operationMarker create.parentId remote remote' := by
  rw [createAndVerify, exec_bind, exec_mapError] at h
  cases hinitiate :
      exec (drive.initiateResumableCreate provider net { intent := create }) remote with
  | mk y opened =>
      have hplaced : Placed create.operationMarker create.parentId remote := by
        rw [Placed, hmarked]
        exact nofun
      have hopened : Adds net create.operationMarker create.parentId remote opened :=
        (TransferDrive.keeps_initiateResumableCreate fun _ _ _ =>
          Extends.of_files_eq rfl).of_exec hinitiate
      rw [hinitiate] at h
      cases y with
      | error e =>
          cases h
          exact hopened hapart hplaced
      | ok session =>
          have hrest : Keeps (Fills net create session.uri) (do
              let created ← uploadLoop drive provider net side turns session
              mapError (interrupted true)
                (drive.verifyCreatedUpload provider net create created)) :=
            .bind_of (keeps_uploadLoop fills_put) fun _ => inferInstance
          have hfills := hrest.of_exec h
          exact IsTrans.trans _ _ _ (hopened hapart hplaced)
            (hfills hapart (owns_of_initiate hapart hmarked hinitiate)).2

instance keeps_adds_remoteFor {turns : ℕ} :
    Keeps (Adds net create.operationMarker create.parentId)
      (remoteFor drive provider net side turns create) := by
  refine ⟨fun remote hapart hplaced => ?_⟩
  rw [remoteFor, exec_bind, exec_mapError]
  cases hreconcile : exec (drive.reconcileCreate provider net create) remote with
  | mk y reconciled =>
      have hadds : Adds net create.operationMarker create.parentId remote reconciled :=
        TransferDrive.keeps_reconcileCreate.of_exec hreconcile
      have hextends := hadds hapart hplaced
      cases y with
      | error e => exact hextends
      | ok reconciliation =>
          cases reconciliation with
          | verifiedExisting object => exact hextends
          | needsReconcile reason => exact hextends
          | absent permit =>
              obtain ⟨rfl, hmarked⟩ := marked_of_absent hapart hplaced hreconcile
              exact IsTrans.trans _ _ _ hextends (extends_createAndVerify hapart hmarked rfl)

theorem createIntent_new_ok {intent : TransferIntent}
    (h : intent.createIntent.new = .ok create) : create = intent.createIntent := by
  rw [CreateIntent.new] at h
  obtain ⟨-, -, h⟩ := Check.bind_eq_ok.mp h
  exact (Except.ok.inj h).symm

instance keeps_adds_executeUpload {turns : ℕ} {intent : TransferIntent} :
    Keeps (Adds net intent.operationMarker intent.parentId)
      (executeUpload drive provider net side turns intent) := by
  rw [executeUpload]
  refine .bind_of inferInstance fun stage => ?_
  obtain ⟨stage, localRevision⟩ := stage
  refine .bind_of inferInstance fun _ => ?_
  refine ⟨fun remote => ?_⟩
  rw [exec_bind, exec_mapError, check, exec_lift]
  cases hcreate : intent.createIntent.new with
  | error e => exact Std.Refl.refl _
  | ok create =>
      obtain rfl := createIntent_new_ok hcreate
      have hremote : Keeps (Adds net intent.operationMarker intent.parentId)
          (remoteFor drive provider net side turns intent.createIntent) :=
        @keeps_adds_remoteFor drive provider net side intent.createIntent turns
      have hrest : Keeps (Adds net intent.operationMarker intent.parentId) (do
          let remote ← remoteFor drive provider net side turns intent.createIntent
          lift ((finishUpload side intent localRevision remote).mapError .failed) :
          UploadProgram VerifiedTransfer) := inferInstance
      exact hrest.exec_rel remote

/-! ## What an attempt has verified -/

/-- The provider has a file of this id that is as the intent says. -/
def Confirms (provider : Provider) (create : CreateIntent) (object : RemoteObject)
    (remote : Remote) : Prop :=
  object.sha256 = create.sha256 ∧ object.size = create.size ∧
    ∃ stored ∈ remote.files, stored.id = object.fileId ∧
      fileHasSameContent (stored.transferFile provider.sha256) create = true

theorem objectOf_ok {file : TransferFile} {object : RemoteObject}
    (h : objectOf file create = .ok object) :
    object.fileId = file.id ∧ object.sha256 = create.sha256 ∧ object.size = create.size := by
  rw [objectOf] at h
  split at h
  · cases h
  · obtain ⟨-, -, h⟩ := Check.bind_eq_ok.mp h
    obtain ⟨_, -, h⟩ := Check.bind_eq_ok.mp h
    cases h
    exact ⟨rfl, rfl, rfl⟩

theorem remoteObject_ok {file : TransferFile} {object : RemoteObject}
    (h : remoteObject file create = .ok object) :
    objectOf file create = .ok object ∧ fileHasSameContent file create = true := by
  rw [remoteObject, Check.ite_error_eq_ok, Bool.not_eq_false, fileMatchesIntent,
    Bool.and_eq_true] at h
  exact ⟨h.2, h.1.1⟩

theorem remoteObjectSameContent_ok {file : TransferFile} {object : RemoteObject}
    (h : remoteObjectSameContent file create = .ok object) :
    objectOf file create = .ok object ∧ fileHasSameContent file create = true := by
  rw [remoteObjectSameContent, Check.ite_error_eq_ok, Bool.not_eq_false] at h
  exact h.symm

/-- A file that was read again and is as the intent says. -/
theorem confirms_of_recheck {fileId : String} {requireMarker : Bool} {file : TransferFile}
    {object : RemoteObject}
    (h : exec (drive.recheckExisting provider net fileId create requireMarker) remote =
      (.ok (some file), remote'))
    (hobject : objectOf file create = .ok object ∧ fileHasSameContent file create = true) :
    Confirms provider create object remote' ∧ object.fileId = fileId := by
  obtain ⟨stored, hstored, hid, rfl⟩ := TransferDrive.recheckExisting_ok h
  obtain ⟨hfile, hsha, hsize⟩ := objectOf_ok hobject.1
  exact ⟨⟨hsha, hsize, stored, hstored, hfile.symm, hobject.2⟩, hfile.trans hid⟩

theorem reconcileMarked_existing {file : TransferFile} {object : RemoteObject}
    (h : exec (drive.reconcileMarked provider net create file) remote =
      (.ok (.verifiedExisting object), remote')) :
    Confirms provider create object remote' ∧ object.fileId = file.id := by
  rw [TransferDrive.reconcileMarked] at h
  split at h
  · obtain ⟨verified, _, hrecheck, h⟩ := exec_bind_ok.mp h
    split at h
    · obtain ⟨_, _, hcheck, h⟩ := exec_bind_ok.mp h
      obtain ⟨hobject, rfl⟩ := TransferDrive.check_ok hcheck
      obtain ⟨hexisting, rfl⟩ := exec_pure_ok.mp h
      cases hexisting
      exact confirms_of_recheck hrecheck (remoteObject_ok hobject)
    · cases h
  · cases h

theorem reconcileNamed_existing {file : TransferFile} {object : RemoteObject}
    (h : exec (drive.reconcileNamed provider net create file) remote =
      (.ok (.verifiedExisting object), remote')) :
    Confirms provider create object remote' ∧ object.fileId = file.id := by
  rw [TransferDrive.reconcileNamed] at h
  split at h
  · obtain ⟨verified, _, hrecheck, h⟩ := exec_bind_ok.mp h
    split at h
    · obtain ⟨_, _, hcheck, h⟩ := exec_bind_ok.mp h
      obtain ⟨hobject, rfl⟩ := TransferDrive.check_ok hcheck
      obtain ⟨hexisting, rfl⟩ := exec_pure_ok.mp h
      cases hexisting
      exact confirms_of_recheck hrecheck (remoteObjectSameContent_ok hobject)
    · cases h
  · cases h

/-- An existing file was found by its marker, or, where there is none, by its name. -/
theorem reconcileCreate_existing {object : RemoteObject}
    (h : exec (drive.reconcileCreate provider net create) remote =
      (.ok (.verifiedExisting object), remote')) :
    ∃ file asked,
      exec (drive.queryFiles provider net (TransferDrive.markerQuery create)) remote =
          (.ok [file], asked) ∧
        exec (drive.reconcileMarked provider net create file) asked =
          (.ok (.verifiedExisting object), remote') ∨
      exec (drive.queryFiles provider net (TransferDrive.markerQuery create)) remote =
          (.ok [], asked) ∧ ∃ named,
        exec (drive.queryFiles provider net (TransferDrive.nameQuery create)) asked =
            (.ok [file], named) ∧
          exec (drive.reconcileNamed provider net create file) named =
            (.ok (.verifiedExisting object), remote') := by
  rw [TransferDrive.reconcileCreate] at h
  obtain ⟨found, asked, hmarker, h⟩ := exec_bind_ok.mp h
  split at h
  · exact ⟨_, asked, Or.inl ⟨hmarker, h⟩⟩
  · obtain ⟨byName, named, hname, h⟩ := exec_bind_ok.mp h
    split at h
    · cases h
    · exact ⟨_, asked, Or.inr ⟨hmarker, named, hname, h⟩⟩
    · cases h
  · cases h

/-- The two queries of the verification, and the file read again. -/
theorem verifyCreatedUpload_ok {created object : RemoteObject}
    (h : exec (drive.verifyCreatedUpload provider net create created) remote =
      (.ok object, remote')) :
    Confirms provider create object remote' ∧ object.fileId = created.fileId ∧
      ∃ byMarker asked byName named,
        exec (drive.queryFilesWithPageSize provider net (TransferDrive.markerQuery create) 2)
            remote = (.ok byMarker, asked) ∧
          requireUniqueCreatedMatch byMarker create created = .ok () ∧
          exec (drive.queryFilesWithPageSize provider net (TransferDrive.nameQuery create) 2)
            asked = (.ok byName, named) ∧
          requireUniqueCreatedMatch byName create created = .ok () ∧ Silent named remote' := by
  rw [TransferDrive.verifyCreatedUpload] at h
  obtain ⟨byMarker, asked, hmarker, h⟩ := exec_bind_ok.mp h
  obtain ⟨_, _, hcheck, h⟩ := exec_bind_ok.mp h
  obtain ⟨hunique, rfl⟩ := TransferDrive.check_ok hcheck
  obtain ⟨byName, named, hname, h⟩ := exec_bind_ok.mp h
  obtain ⟨_, _, hcheck', h⟩ := exec_bind_ok.mp h
  obtain ⟨hunique', rfl⟩ := TransferDrive.check_ok hcheck'
  obtain ⟨verified, _, hrecheck, h⟩ := exec_bind_ok.mp h
  obtain ⟨file, _, hfile, h⟩ := exec_bind_ok.mp h
  obtain ⟨rfl, rfl⟩ := exec_the_ok.mp hfile
  obtain ⟨_, _, hremote, h⟩ := exec_bind_ok.mp h
  obtain ⟨hobject, rfl⟩ := TransferDrive.check_ok hremote
  obtain ⟨_, _, hversion, h⟩ := exec_bind_ok.mp h
  obtain ⟨-, rfl⟩ := TransferDrive.check_ok hversion
  obtain ⟨rfl, rfl⟩ := exec_pure_ok.mp h
  obtain ⟨hconfirms, hid⟩ := confirms_of_recheck hrecheck (remoteObject_ok hobject)
  exact ⟨hconfirms, hid, byMarker, asked, byName, named, hmarker, hunique, hname, hunique',
    TransferDrive.keeps_recheckExisting.of_exec hrecheck⟩

/-- The three ways to an object: found by marker, found by name, created. -/
theorem remoteFor_ok {turns : ℕ} {object : RemoteObject}
    (h : exec (remoteFor drive provider net side turns create) remote = (.ok object, remote')) :
    exec (drive.reconcileCreate provider net create) remote =
        (.ok (.verifiedExisting object), remote') ∨
      ∃ reconciled opened session uploaded created,
        exec (drive.reconcileCreate provider net create) remote =
            (.ok (.absent { intent := create }), reconciled) ∧
          exec (drive.initiateResumableCreate provider net { intent := create }) reconciled =
            (.ok session, opened) ∧
          exec (uploadLoop drive provider net side turns session) opened =
            (.ok created, uploaded) ∧
          exec (drive.verifyCreatedUpload provider net create created) uploaded =
            (.ok object, remote') := by
  rw [remoteFor] at h
  obtain ⟨reconciliation, reconciled, hreconcile, h⟩ := exec_bind_ok.mp h
  have hreconcile := exec_mapError_ok.mp hreconcile
  split at h
  · obtain ⟨rfl, rfl⟩ := exec_pure_ok.mp h
    exact Or.inl hreconcile
  · exact nomatch h
  · obtain ⟨rfl, -⟩ := reconcileCreate_absent hreconcile
    rw [createAndVerify] at h
    obtain ⟨session, opened, hinitiate, h⟩ := exec_bind_ok.mp h
    obtain ⟨created, uploaded, hloop, h⟩ := exec_bind_ok.mp h
    exact Or.inr ⟨reconciled, opened, session, uploaded, created, hreconcile,
      exec_mapError_ok.mp hinitiate, hloop, exec_mapError_ok.mp h⟩

theorem remoteFor_confirms {turns : ℕ} {object : RemoteObject}
    (h : exec (remoteFor drive provider net side turns create) remote = (.ok object, remote')) :
    Confirms provider create object remote' := by
  rcases remoteFor_ok h with hreconcile | ⟨_, _, _, _, _, -, -, -, hverify⟩
  · obtain ⟨_, _, ⟨-, hmarked⟩ | ⟨-, _, -, hnamed⟩⟩ := reconcileCreate_existing hreconcile
    · exact (reconcileMarked_existing hmarked).1
    · exact (reconcileNamed_existing hnamed).1
  · exact (verifyCreatedUpload_ok hverify).1

/-- What a verified transfer says. -/
theorem executeUpload_ok {turns : ℕ} {intent : TransferIntent} {verified : VerifiedTransfer}
    (h : exec (executeUpload drive provider net side turns intent) remote =
      (.ok verified, remote')) :
    ∃ inspected object,
      exec (inspectObserved drive provider net intent) remote = (.ok (), inspected) ∧
        exec (remoteFor drive provider net side turns intent.createIntent) inspected =
          (.ok object, remote') ∧
        verified.remoteFileId = object.fileId := by
  rw [executeUpload] at h
  obtain ⟨stage, _, hstage, h⟩ := exec_bind_ok.mp h
  obtain ⟨-, rfl⟩ := exec_lift_ok.mp hstage
  obtain ⟨stage, localRevision⟩ := stage
  obtain ⟨_, inspected, hinspect, h⟩ := exec_bind_ok.mp h
  obtain ⟨create, _, hcheck, h⟩ := exec_bind_ok.mp h
  obtain ⟨hcreate, rfl⟩ := TransferDrive.check_ok (exec_mapError_ok.mp hcheck)
  obtain rfl := createIntent_new_ok hcreate
  obtain ⟨object, found, hremote, h⟩ := exec_bind_ok.mp h
  obtain ⟨hfinish, rfl⟩ := exec_lift_ok.mp h
  refine ⟨inspected, object, hinspect, hremote, ?_⟩
  cases hfinished : finishUpload side intent localRevision object with
  | error e =>
      rw [hfinished] at hfinish
      exact nomatch hfinish
  | ok verified' =>
      rw [hfinished] at hfinish
      cases hfinish
      rw [finishUpload] at hfinished
      obtain ⟨-, -, hfinished⟩ := Check.bind_eq_ok.mp hfinished
      obtain ⟨baseRef, -, hfinished⟩ := Check.bind_eq_ok.mp hfinished
      rw [VerifiedTransfer.new] at hfinished
      split at hfinished
      · cases hfinished
        rfl
      · exact nomatch hfinished

/-! ## Any number of attempts -/

/-- One attempt: the capability, the network, the local side and the turns of the loop. -/
structure Attempt where
  drive : TransferDrive
  net : ℕ → Turn
  side : LocalSide
  turns : ℕ
  intent : TransferIntent

/-- An attempt to upload the file. -/
def Attempt.run (provider : Provider) (attempt : Attempt) : UploadProgram VerifiedTransfer :=
  executeUpload attempt.drive provider attempt.net attempt.side attempt.turns attempt.intent

/-- An attempt for the operation: what its row never changes is the same, and other devices do
not use its marker. -/
structure AttemptFor (intent : TransferIntent) (attempt : Attempt) : Prop where
  createIntent_eq : attempt.intent.createIntent = intent.createIntent
  apart : Apart attempt.net intent.operationMarker

/-- What such attempts leave, one after the other, each as far as it gets. -/
inductive Reaches (provider : Provider) (admits : Attempt → Prop) (start : Remote) : Remote → Prop
  | start : Reaches provider admits start start
  | attempt {remote : Remote} (attempt : Attempt) (hreaches : Reaches provider admits start remote)
      (hattempt : admits attempt) :
      Reaches provider admits start (exec (attempt.run provider) remote).2

theorem AttemptFor.extends {intent : TransferIntent} {attempt : Attempt}
    (h : AttemptFor intent attempt)
    (hplaced : Placed intent.operationMarker intent.parentId remote) :
    Extends intent.operationMarker intent.parentId remote
      (exec (attempt.run provider) remote).2 := by
  have hmarker : attempt.intent.operationMarker = intent.operationMarker :=
    congrArg CreateIntent.operationMarker h.createIntent_eq
  have hparent : attempt.intent.parentId = intent.parentId :=
    congrArg CreateIntent.parentId h.createIntent_eq
  have hkeeps := @keeps_adds_executeUpload attempt.drive provider attempt.net attempt.side
    attempt.turns attempt.intent
  have hadds := hkeeps.exec_rel remote
  rw [hmarker, hparent] at hadds
  exact hadds h.apart hplaced

theorem Reaches.extends {intent : TransferIntent} {start : Remote}
    (h : Reaches provider (AttemptFor intent) start remote)
    (hplaced : Placed intent.operationMarker intent.parentId start) :
    Extends intent.operationMarker intent.parentId start remote := by
  induction h with
  | start => exact Std.Refl.refl _
  | attempt attempt _ hattempt ih =>
      exact IsTrans.trans _ _ _ ih (hattempt.extends (hplaced.extends ih))

/-- However many attempts there are and however they end, one file with the marker is made at
most, and no file is changed; a verified file is there as the intent says. -/
theorem upload_creates_one_file {provider : Provider} {intent : TransferIntent} {start : Remote}
    (hnew : ∀ file ∈ start.files, file.carries intent.operationMarker = false)
    (h : Reaches provider (AttemptFor intent) start remote) :
    remote.files.count (fun file => file.carries intent.operationMarker) ≤ 1 ∧
      start.files.rows <+: remote.files.rows ∧
      ∀ attempt, AttemptFor intent attempt →
        remote.files.rows <+: (exec (attempt.run provider) remote).2.files.rows ∧
        ∀ verified remote', exec (attempt.run provider) remote = (.ok verified, remote') →
          ∃ file ∈ remote'.files, file.id = verified.remoteFileId ∧ file.trashed = false ∧
            file.parents = [intent.parentId] ∧ file.name = intent.displayName ∧
            ∃ content, file.content = some content ∧ content.length = intent.byteLen ∧
              hexSha256 provider.sha256 content = intent.sha256Hex := by
  have hmarked : marked intent.operationMarker start = [] := by
    rw [marked, List.filter_eq_nil_iff]
    exact fun file hfile => by simp [hnew file hfile]
  have hplaced : Placed intent.operationMarker intent.parentId start := by
    rw [Placed, hmarked]
    exact nofun
  have hextends := h.extends hplaced
  refine ⟨?_, hextends.rows_kept, fun attempt hattempt => ⟨?_, ?_⟩⟩
  · obtain ⟨added, hrows, hadded⟩ := hextends
    have hcount := @Extends.marked_eq _ _ intent.operationMarker _ hrows
    rw [hmarked, List.nil_append] at hcount
    rw [Table.count, List.countP_eq_length_filter]
    show (marked intent.operationMarker remote).length ≤ 1
    rw [hcount]
    rcases hadded with hnone | ⟨-, file, hone, -⟩
    · rw [hnone]
      exact Nat.zero_le 1
    · rw [hone]
      exact le_rfl
  · exact (hattempt.extends (hplaced.extends hextends)).rows_kept
  · intro verified remote' hrun
    obtain ⟨inspected, object, -, hremote, hid⟩ := executeUpload_ok hrun
    rw [hattempt.createIntent_eq] at hremote
    obtain ⟨-, -, stored, hstored, hfile, hsame⟩ := remoteFor_confirms hremote
    rw [fileHasSameContent, decide_eq_true_eq] at hsame
    obtain ⟨hlive, hname, -, hparents, hsha, hsize⟩ := hsame
    obtain ⟨content, hcontent, hdigest⟩ := Option.map_eq_some_iff.mp hsha
    refine ⟨stored, hstored, hfile.trans hid.symm, hlive, hparents, hname, content, hcontent, ?_,
      hdigest⟩
    rw [StoredFile.transferFile, hcontent, Option.map_some, Option.some.injEq] at hsize
    exact Conflict.toString_nat_injective hsize

/-! ## A provider with one folder -/

/-- The ids of a provider grow. -/
def growingProvider : Provider where
  sha256 := constantDigest
  accountId := "account"
  version := some "1"
  newId := fun files =>
    String.ofList (List.replicate ((files.rows.map fun file => file.id.length).sum + 1) 'f')
  newId_fresh := by
    intro files file hfile hid
    have hlength := congrArg String.length hid
    rw [String.length_ofList, List.length_replicate] at hlength
    have hle : file.id.length ≤ (files.rows.map fun file => file.id.length).sum :=
      List.le_sum_of_mem (List.mem_map_of_mem hfile)
    omega

/-- The bound root. -/
def rootFolder : StoredFile where
  id := "root"
  name := "Vault"
  mimeType := folderMimeType
  parents := []
  appProperties := none
  content := none
  trashed := false
  version := some "1"

/-- A provider with nothing in the root. -/
def emptyRemote : Remote where
  files := ⟨[rootFolder], List.nodup_singleton _⟩
  sessions := []
  requests := 0
  answered := []

/-- An upload of three bytes. -/
def noteUpload : TransferIntent where
  operationId := List.Vector.replicate 16 1
  direction := .upload
  path := "a.md"
  parentId := "root"
  remoteFileId := none
  expectedLocalRevision := some "local"
  expectedRemoteRevision := none
  sha256Hex := hexSha256 constantDigest [97, 98, 99]
  byteLen := 3
  contentKind := .markdown
  operationMarker := "marker"
  stageRef := some ("stage-" ++ Uuid.toHyphenated (List.Vector.replicate 16 1))
  baseRef := none
  attemptCount := 1

/-- The note, as it was staged. -/
def noteSnapshot : Vault.Stepwise.ContentSnapshot where
  revision := { hex := "local", byteLen := 3 }
  sha256 := hexSha256 constantDigest [97, 98, 99]

/-- The stage is there and is the source. -/
def stagedSide : LocalSide where
  loadTransferStage :=
    .ok { operationId := List.Vector.replicate 16 1, snapshot := noteSnapshot }
  sourceBeforeDiscard := .ok noteSnapshot
  discardIncompleteTransferStage := .ok ()
  stageTransferSource := .error .stageAlreadyExists
  currentSource := .ok noteSnapshot
  readVerifiedStageChunk := fun _ offset length => .ok (([97, 98, 99].drop offset).take length)
  publishVerifiedStageAsBase := .ok "base"

/-- Every request is answered, and others create these files before the n-th. -/
def noteAttempt (created : ℕ → List NewFile) : Attempt where
  drive := { accountId := "account", rootId := "root", maxBlobBytes := maxTransferBytes }
  net := fun n => { created := created n, delivery := .answered 3 }
  side := stagedSide
  turns := 1
  intent := noteUpload

/-- From the twelfth request on the requests arrive and their answers are lost. -/
def lostAnswerAttempt : Attempt :=
  { noteAttempt fun _ => [] with
    net := fun n =>
      { created := []
        delivery :=
          if n < 11 then .answered 3
          else .failed (some 3) { code := .transport, retryAfterSeconds := none } } }

theorem upload_creates_one_file_note :
    let first := exec (lostAnswerAttempt.run growingProvider) emptyRemote
    let second := exec ((noteAttempt fun _ => []).run growingProvider) first.2
    first.1.isOk = false ∧ first.2.files.count (fun file => file.carries "marker") = 1 ∧
      (second.1.map fun verified => verified.remoteFileId).toOption = some "fffff" ∧
      second.2.files.count (fun file => file.carries "marker") ≤ 1 := by
  refine ⟨by decide +kernel, by decide +kernel, by decide +kernel, ?_⟩
  have hlost : AttemptFor noteUpload lostAnswerAttempt := ⟨rfl, fun _ _ h => by cases h⟩
  have hagain : AttemptFor noteUpload (noteAttempt fun _ => []) := ⟨rfl, fun _ _ h => by cases h⟩
  have hfresh : ∀ file ∈ emptyRemote.files, file.carries noteUpload.operationMarker = false := by
    decide
  exact (upload_creates_one_file hfresh (.attempt _ (.attempt _ .start hlost) hagain)).1

end Transfer
end MyVault
