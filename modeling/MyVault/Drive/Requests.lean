import MyVault.Drive.Transfer

/-!
# What the parts of a transfer leave

Most requests only look.  What holds from one state of the provider to the next whenever other
devices create files (`Arrives`) holds of all these parts; a query moreover records what it was
answered.  Only a session that is opened and a `PUT` on it do more.
-/

namespace MyVault
namespace Drive

open Program

variable {drive : TransferDrive} {provider : Provider} {net : ℕ → Turn} {remote remote' : Remote}
  {intent : CreateIntent} {R : Remote → Remote → Prop}

/-- The relation admits the files that others create. -/
class Arrives (provider : Provider) (net : ℕ → Turn) (R : Remote → Remote → Prop) : Prop where
  arrive : ∀ remote, R remote (remote.arrive provider (net remote.requests))

/-- The relation does not look at the answers so far. -/
class Forgets (R : Remote → Remote → Prop) : Prop where
  answered : ∀ (remote : Remote) answered, R remote { remote with answered }

/-- No query is answered. -/
def Silent (remote remote' : Remote) : Prop := remote'.answered = remote.answered

instance : Std.Refl Silent := ⟨fun _ => rfl⟩

instance : IsTrans Remote Silent := ⟨fun _ _ _ h h' => h'.trans h⟩

instance : Arrives provider net Silent := ⟨fun _ => rfl⟩

namespace TransferDrive

section Keeps

variable [Std.Refl R] [IsTrans Remote R]

instance keeps_check {α : Type} {x : Except ErrorCode α} : Keeps R (check x) := by
  rw [check]
  infer_instance

variable [Arrives provider net R]

instance keeps_get {α : Type} {answer : Remote → Except DriveError α} :
    Keeps R (get provider net answer) :=
  keeps_request Arrives.arrive fun _ _ => Std.Refl.refl _

instance keeps_accountIdentity : Keeps R (accountIdentity provider net) := by
  rw [accountIdentity]
  infer_instance

instance keeps_fileMetadata {fileId : String} : Keeps R (fileMetadata provider net fileId) := by
  rw [fileMetadata]
  infer_instance

instance keeps_verifyRoot {fileId : String} : Keeps R (verifyRoot provider net fileId) := by
  rw [verifyRoot]
  infer_instance

instance keeps_ensureBinding : Keeps R (ensureBinding drive provider net) := by
  rw [ensureBinding]
  infer_instance

instance keeps_climbToRoot {hops : ℕ} {current : String} {visited : List String} :
    Keeps R (climbToRoot drive provider net hops current visited) := by
  induction hops generalizing current visited with
  | zero => exact .throw
  | succ hops ih =>
      rw [climbToRoot]
      refine .bind_of inferInstance fun _ => .bind_of inferInstance fun file => ?_
      split
      · rename_i parent _
        have hnext := @ih parent (current :: visited)
        infer_instance
      · exact .throw

instance keeps_ensureFolderBelowRoot {folderId : String} :
    Keeps R (ensureFolderBelowRoot drive provider net folderId) := by
  rw [ensureFolderBelowRoot]
  infer_instance

instance keeps_transferFileMetadata {fileId : String} :
    Keeps R (transferFileMetadata provider net fileId) := by
  rw [transferFileMetadata]
  infer_instance

instance keeps_recheckExisting {fileId : String} {marker : Bool} :
    Keeps R (recheckExisting drive provider net fileId intent marker) := by
  rw [recheckExisting]
  infer_instance

set_option synthInstance.maxSize 100000 in
instance keeps_inspectDownloadCandidate {fileId parentId name revision : String} :
    Keeps R (inspectDownloadCandidate drive provider net fileId parentId name revision) := by
  rw [inspectDownloadCandidate, inspectDownloadCandidateMetadata]
  refine .bind_of inferInstance fun _ => .bind_of inferInstance fun _ =>
    .bind_of inferInstance fun candidate => ?_
  cases candidate
  infer_instance

instance keeps_reconcileMarked {file : TransferFile} :
    Keeps R (reconcileMarked drive provider net intent file) := by
  rw [reconcileMarked]
  split
  · refine .bind_of inferInstance fun verified => ?_
    split <;> infer_instance
  · exact .pure

instance keeps_reconcileNamed {file : TransferFile} :
    Keeps R (reconcileNamed drive provider net intent file) := by
  rw [reconcileNamed]
  split
  · refine .bind_of inferInstance fun verified => ?_
    split <;> infer_instance
  · exact .pure

variable [Forgets R]

instance keeps_queryFilesWithPageSize {query : FileQuery} {pageSize : ℕ} :
    Keeps R (queryFilesWithPageSize drive provider net query pageSize) := by
  rw [queryFilesWithPageSize]
  refine .bind_of inferInstance fun _ => .bind_of inferInstance fun _ =>
    .bind_of inferInstance fun _ => .bind_of inferInstance fun found => ?_
  exact .bind_of (.write fun remote => Forgets.answered remote _) fun _ => inferInstance

instance keeps_queryFiles {query : FileQuery} : Keeps R (queryFiles drive provider net query) :=
  keeps_queryFilesWithPageSize

instance keeps_reconcileCreate : Keeps R (reconcileCreate drive provider net intent) := by
  rw [reconcileCreate]
  refine .bind_of inferInstance fun marked => ?_
  split
  · infer_instance
  · refine .bind_of inferInstance fun named => ?_
    split <;> infer_instance
  · exact .pure

set_option synthInstance.maxSize 100000 in
instance keeps_verifyCreatedUpload {created : RemoteObject} :
    Keeps R (verifyCreatedUpload drive provider net intent created) := by
  rw [verifyCreatedUpload]
  infer_instance

end Keeps

/-! ## Sessions -/

section Sessions

variable [Std.Refl R] [IsTrans Remote R] [Arrives provider net R]

theorem keeps_initiateResumableCreate {permit : CreatePermit}
    (hopen : ∀ remote : Remote, R remote (remote.openSession permit.intent)) :
    Keeps R (initiateResumableCreate drive provider net permit) := by
  rw [initiateResumableCreate]
  have hrequest {answer : Remote → Except DriveError ℕ} :
      Keeps R (request provider net (fun _ => Remote.openSession permit.intent) answer) :=
    keeps_request Arrives.arrive fun _ => hopen
  infer_instance

variable {session : UploadSession}

theorem keeps_putSession {body : List UInt8} {offset : Option ℕ}
    (hput : ∀ offset bytes remote, R remote (Remote.put provider session.uri offset bytes remote)) :
    Keeps R (putSession drive provider net session body offset) := by
  rw [putSession]
  exact .bind_of inferInstance fun _ => keeps_request Arrives.arrive fun _ _ => hput _ _ _

set_option synthInstance.maxSize 100000 in
instance keeps_decodeUploadResponse {uploaded : Option (ℕ × ℕ)} {response : UploadResponse} :
    Keeps R (decodeUploadResponse drive provider net session uploaded response) := by
  cases response <;> rw [decodeUploadResponse] <;> infer_instance

theorem keeps_uploadChunk {bytes : List UInt8}
    (hput : ∀ offset bytes remote, R remote (Remote.put provider session.uri offset bytes remote)) :
    Keeps R (uploadChunk drive provider net session bytes) := by
  rw [uploadChunk]
  dsimp only
  refine .bind_of inferInstance fun _ => .bind_of inferInstance fun _ => ?_
  exact .bind_of (keeps_putSession hput) fun _ => inferInstance

theorem keeps_queryUploadStatus
    (hput : ∀ offset bytes remote, R remote (Remote.put provider session.uri offset bytes remote)) :
    Keeps R (queryUploadStatus drive provider net session) := by
  rw [queryUploadStatus]
  exact .bind_of (keeps_putSession hput) fun _ => inferInstance

end Sessions

/-! ## What was found -/

theorem check_ok {α : Type} {x : Except ErrorCode α} {a : α}
    (h : exec (check x) remote = (.ok a, remote')) : x = .ok a ∧ remote = remote' := by
  rw [check, exec_lift_ok] at h
  obtain ⟨hx, rfl⟩ := h
  cases x with
  | ok b =>
      cases hx
      exact ⟨rfl, rfl⟩
  | error e => exact nomatch hx

theorem transferFileMetadata_ok {fileId : String} {file : TransferFile}
    (h : exec (transferFileMetadata provider net fileId) remote = (.ok file, remote')) :
    ∃ stored ∈ remote'.files, stored.id = fileId ∧ file = stored.transferFile provider.sha256 := by
  rw [transferFileMetadata] at h
  obtain ⟨_, _, -, h⟩ := exec_bind_ok.mp h
  obtain ⟨stored, found, hget, h⟩ := exec_bind_ok.mp h
  obtain ⟨-, hmetadata⟩ := get_ok hget
  obtain ⟨_, _, hcheck, h⟩ := exec_bind_ok.mp h
  obtain ⟨-, rfl⟩ := check_ok hcheck
  obtain ⟨_, _, hreject, h⟩ := exec_bind_ok.mp h
  obtain ⟨hid, rfl⟩ := exec_reject_ok.mp hreject
  obtain ⟨rfl, rfl⟩ := exec_pure_ok.mp h
  rw [metadataOf] at hmetadata
  split at hmetadata
  · exact nomatch hmetadata
  · rename_i stored' hlookup
    cases hmetadata
    exact ⟨stored, (Table.lookup_eq_some_iff.mp hlookup).1, Decidable.not_not.mp hid, rfl⟩

theorem recheckExisting_ok {fileId : String} {marker : Bool} {file : TransferFile}
    (h : exec (recheckExisting drive provider net fileId intent marker) remote =
      (.ok (some file), remote')) :
    ∃ stored ∈ remote'.files, stored.id = fileId ∧ file = stored.transferFile provider.sha256 := by
  rw [recheckExisting] at h
  obtain ⟨_, _, -, h⟩ := exec_bind_ok.mp h
  obtain ⟨found, _, hmetadata, h⟩ := exec_bind_ok.mp h
  obtain ⟨hfile, rfl⟩ := exec_pure_ok.mp h
  rw [Option.ite_none_right_eq_some] at hfile
  obtain ⟨-, hfile⟩ := hfile
  cases hfile
  exact transferFileMetadata_ok hmetadata

/-- What a query found, and that it is recorded. -/
theorem queryFilesWithPageSize_ok {query : FileQuery} {pageSize : ℕ} {files : List TransferFile}
    (h : exec (queryFilesWithPageSize drive provider net query pageSize) remote =
      (.ok files, remote')) :
    ∃ found, found = remote'.files.rows.filter query.selects ∧
      files = found.map (StoredFile.transferFile provider.sha256) ∧
      remote'.answered = remote.answered ++ [(query, found)] := by
  rw [queryFilesWithPageSize] at h
  obtain ⟨_, _, hreject, h⟩ := exec_bind_ok.mp h
  obtain ⟨-, rfl⟩ := exec_reject_ok.mp hreject
  obtain ⟨_, _, hreject, h⟩ := exec_bind_ok.mp h
  obtain ⟨-, rfl⟩ := exec_reject_ok.mp hreject
  obtain ⟨_, folder, hfolder, h⟩ := exec_bind_ok.mp h
  obtain ⟨found, asked, hget, h⟩ := exec_bind_ok.mp h
  obtain ⟨_, _, hwrite, h⟩ := exec_bind_ok.mp h
  obtain rfl := exec_write_ok.mp hwrite
  obtain ⟨_, _, hreject, h⟩ := exec_bind_ok.mp h
  obtain ⟨-, rfl⟩ := exec_reject_ok.mp hreject
  obtain ⟨_, _, hcheck, h⟩ := exec_bind_ok.mp h
  obtain ⟨-, rfl⟩ := check_ok hcheck
  obtain ⟨rfl, rfl⟩ := exec_pure_ok.mp h
  obtain ⟨-, hfound⟩ := get_ok hget
  have hfolder' : Silent remote folder := keeps_ensureFolderBelowRoot.of_exec hfolder
  have hasked : Silent folder asked := keeps_get.of_exec hget
  refine ⟨found, (Except.ok.inj hfound).symm, rfl, ?_⟩
  show asked.answered ++ [(query, found)] = _
  rw [hasked, hfolder']

end TransferDrive

end Drive
end MyVault
