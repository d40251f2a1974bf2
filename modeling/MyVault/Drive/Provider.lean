import MyVault.Drive.Files
import MyVault.Library.Program
import MyVault.Library.Table
import MyVault.Core.Digest

/-!
# The provider, request by request

What `myvault-drive/src/transfer.rs` talks to: the files of the provider, its upload sessions,
and the network in between.  Queries and metadata are exact.  A session becomes a file, with
the metadata it was opened with, exactly when its last byte arrives.  Before each request
other devices may create files; a request or its answer may be lost, the provider may answer
with an error, and the process may end.
-/

namespace MyVault
namespace Drive

open Program

/-- An error of the adapter: its code, and the hint when to try again. -/
structure DriveError where
  code : ErrorCode
  retryAfterSeconds : Option ℕ
  deriving DecidableEq, Repr

/-- Why a request gives nothing: an error, or the process has ended. -/
inductive Stopped where
  | failed (error : DriveError)
  | crashed
  deriving DecidableEq, Repr

/-- `Error::new`. -/
def ErrorCode.stop (code : ErrorCode) : Stopped := .failed { code, retryAfterSeconds := none }

/-! ## Files -/

/-- The properties by which a file is tied to the operation that has made it. -/
structure TransferProperties where
  operation : Option String
  sha256 : Option String
  size : Option String
  deriving DecidableEq, Repr

/-- What the provider reports for `TRANSFER_FILE_FIELDS`. -/
structure TransferFile where
  id : String
  name : String
  mimeType : String
  parents : List String
  trashed : Bool
  version : Option String
  size : Option String
  sha256Checksum : Option String
  appProperties : Option TransferProperties
  deriving DecidableEq, Repr

/-- The metadata and the bytes of a file that is created; a folder has none. -/
structure NewFile where
  name : String
  mimeType : String
  parents : List String
  appProperties : Option TransferProperties
  content : Option (List UInt8)
  deriving DecidableEq, Repr

/-- A file of the provider. -/
structure StoredFile extends NewFile where
  id : String
  trashed : Bool
  version : Option String
  deriving DecidableEq, Repr

/-- The file carries the marker of an operation. -/
def NewFile.carries (file : NewFile) (marker : String) : Bool :=
  file.appProperties.bind TransferProperties.operation == some marker

/-- The metadata that a scan or a change shows of it. -/
def StoredFile.remoteFile (sha256 : Sha256) (file : StoredFile) : RemoteFile where
  id := file.id
  name := file.name
  mimeType := file.mimeType
  parents := file.parents
  trashed := file.trashed
  version := file.version
  md5Checksum := none
  sha1Checksum := none
  sha256Checksum := file.content.map (hexSha256 sha256)

/-- The metadata that a transfer asks for. -/
def StoredFile.transferFile (sha256 : Sha256) (file : StoredFile) : TransferFile where
  id := file.id
  name := file.name
  mimeType := file.mimeType
  parents := file.parents
  trashed := file.trashed
  version := file.version
  size := file.content.map fun content => toString content.length
  sha256Checksum := file.content.map (hexSha256 sha256)
  appProperties := file.appProperties

/-! ## Intents and queries -/

/-- The file that an operation is to create. -/
structure CreateIntent where
  parentId : String
  name : String
  mimeType : String
  operationMarker : String
  sha256 : String
  size : ℕ
  deriving DecidableEq, Repr

/-- The metadata of `initiate_resumable_create`. -/
def CreateIntent.newFile (intent : CreateIntent) (content : List UInt8) : NewFile where
  name := intent.name
  mimeType := intent.mimeType
  parents := [intent.parentId]
  appProperties := some
    { operation := some intent.operationMarker, sha256 := some intent.sha256
      size := some (toString intent.size) }
  content := some content

/-- The queries for live files of a folder. -/
inductive FileQuery where
  | marker (parentId operationMarker : String)
  | name (parentId title : String)
  deriving DecidableEq, Repr

/-- The folder that is searched. -/
def FileQuery.parentId : FileQuery → String
  | .marker parentId _ => parentId
  | .name parentId _ => parentId

/-- `escape_query_literal`. -/
def escapeQueryLiteral (value : String) : Text :=
  value.toList.flatMap fun c => if c = '\\' ∨ c = '\'' then ['\\', c] else [c]

/-- The text of the query. -/
def FileQuery.text : FileQuery → Text
  | .marker parentId operationMarker =>
    "'".toList ++ parentId.toList ++
      "' in parents and trashed = false and appProperties has ".toList ++
      "\x7b key='myvaultOperation' and value='".toList ++
      escapeQueryLiteral operationMarker ++ "' \x7d".toList
  | .name parentId title =>
    "'".toList ++ parentId.toList ++ "' in parents and trashed = false and name = '".toList ++
      escapeQueryLiteral title ++ "'".toList

/-- The files that the query asks for. -/
def FileQuery.selects : FileQuery → StoredFile → Bool
  | .marker parentId operationMarker, file =>
    file.parents.contains parentId && !file.trashed && file.carries operationMarker
  | .name parentId title, file =>
    file.parents.contains parentId && !file.trashed && file.name == title

/-! ## The provider -/

/-- An upload session: its metadata, the bytes so far, and the file it has become. -/
structure Session where
  intent : CreateIntent
  received : List UInt8
  file : Option String
  deriving DecidableEq, Repr

/-- The provider, and the requests of the client so far; a session is addressed by its number.
`answered` are the file queries that were answered, with what was found. -/
structure Remote where
  files : Table StoredFile.id
  sessions : List Session
  requests : ℕ
  answered : List (FileQuery × List StoredFile)
  deriving DecidableEq

/-- What the provider adds to a file that is created. -/
structure Provider where
  sha256 : Sha256
  /-- The permission id of the account. -/
  accountId : String
  version : Option String
  newId : Table StoredFile.id → String
  newId_fresh : ∀ files : Table StoredFile.id, ∀ file ∈ files, file.id ≠ newId files

/-- The file that the provider makes of a new one. -/
def Provider.store (provider : Provider) (files : Table StoredFile.id) (file : NewFile) :
    StoredFile :=
  { file with id := provider.newId files, trashed := false, version := provider.version }

/-- The files with a new one. -/
def Provider.create (provider : Provider) (files : Table StoredFile.id) (file : NewFile) :
    Table StoredFile.id :=
  (files.insert (provider.store files file)).getD files

/-- What becomes of a request on its way. -/
inductive Delivery where
  /-- The answer comes; of a body so many bytes have arrived. -/
  | answered (taken : ℕ)
  /-- The client has an error; the request may have arrived. -/
  | failed (arrived : Option ℕ) (error : DriveError)
  /-- The process ends; the request may have arrived. -/
  | crashed (arrived : Option ℕ)
  deriving DecidableEq, Repr

/-- One request of the client: what other devices create before it, and how it goes. -/
structure Turn where
  created : List NewFile
  delivery : Delivery
  deriving DecidableEq, Repr

/-- Calls of the client, on what the provider has. -/
abbrev DriveProgram (α : Type) := Program Remote Stopped α

/-- The files a request finds. -/
def Remote.arrive (provider : Provider) (turn : Turn) (remote : Remote) : Remote :=
  { remote with
      files := turn.created.foldl provider.create remote.files
      requests := remote.requests + 1 }

/-- A request that has this effect when so many bytes of its body arrive. -/
def request {α : Type} (provider : Provider) (net : ℕ → Turn) (effect : ℕ → Remote → Remote)
    (answer : Remote → Except DriveError α) : DriveProgram α := do
  let turn ← read fun remote => net remote.requests
  write (Remote.arrive provider turn)
  match turn.delivery with
  | .answered taken => do
    write (effect taken)
    let remote ← read id
    lift ((answer remote).mapError .failed)
  | .failed arrived error => do
    write fun remote => arrived.elim remote fun taken => effect taken remote
    throw (.failed error)
  | .crashed arrived => do
    write fun remote => arrived.elim remote fun taken => effect taken remote
    throw .crashed

/-- A request that changes nothing. -/
def get {α : Type} (provider : Provider) (net : ℕ → Turn)
    (answer : Remote → Except DriveError α) : DriveProgram α :=
  request provider net (fun _ remote => remote) answer

/-! ## Sessions -/

/-- A session is opened. -/
def Remote.openSession (intent : CreateIntent) (remote : Remote) : Remote :=
  { remote with sessions := remote.sessions ++ [{ intent, received := [], file := none }] }

/-- The bytes that a `PUT` brings, at the offset of its content range; a `PUT` that only asks
has none. -/
def Session.receive (session : Session) (offset : Option ℕ) (bytes : List UInt8) : Session :=
  if offset = some session.received.length then
    { session with received := session.received ++ bytes }
  else session

/-- A session that has all its bytes becomes a file. -/
def Provider.settle (provider : Provider) (files : Table StoredFile.id) (session : Session) :
    Table StoredFile.id × Session :=
  if session.file = none ∧ session.received.length = session.intent.size then
    (provider.create files (session.intent.newFile session.received),
      { session with file := some (provider.newId files) })
  else (files, session)

/-- A `PUT` on a session. -/
def Remote.put (provider : Provider) (uri : ℕ) (offset : Option ℕ) (bytes : List UInt8)
    (remote : Remote) : Remote :=
  match remote.sessions[uri]? with
  | none => remote
  | some session =>
    let settled := provider.settle remote.files
      (if session.file = none then session.receive offset bytes else session)
    { remote with files := settled.1, sessions := remote.sessions.set uri settled.2 }

/-- What the provider says of an upload session. -/
inductive UploadResponse where
  | complete (file : TransferFile)
  | incomplete (received : ℕ)
  deriving DecidableEq, Repr

/-- What the provider says about a session. -/
def Remote.uploadResponse (provider : Provider) (uri : ℕ) (remote : Remote) :
    Except DriveError UploadResponse :=
  match remote.sessions[uri]? with
  | none => .error { code := .sessionExpired, retryAfterSeconds := none }
  | some session =>
    match session.file with
    | none => .ok (.incomplete session.received.length)
    | some id =>
      match remote.files.lookup id with
      | none => .error { code := .notFound, retryAfterSeconds := none }
      | some file => .ok (.complete (file.transferFile provider.sha256))

/-! ## What a request does -/

section

variable {provider : Provider} {net : ℕ → Turn} {remote remote' : Remote}

theorem rows_create (files : Table StoredFile.id) (file : NewFile) :
    (provider.create files file).rows = files.rows ++ [provider.store files file] := by
  rw [Provider.create]
  cases hinsert : files.insert (provider.store files file) with
  | none =>
      obtain ⟨old, hold, hid⟩ := Table.insert_eq_none_iff.mp hinsert
      exact absurd hid (provider.newId_fresh files old hold)
  | some files' => exact (Table.insert_eq_some_iff.mp hinsert).2

/-- What others create comes after the files there are. -/
theorem rows_foldl_create (created : List NewFile) (files : Table StoredFile.id) :
    ∃ added : List StoredFile,
      (created.foldl provider.create files).rows = files.rows ++ added ∧
        added.map StoredFile.toNewFile = created := by
  induction created generalizing files with
  | nil => exact ⟨[], (List.append_nil _).symm, rfl⟩
  | cons file created ih =>
      obtain ⟨added, hrows, hadded⟩ := ih (provider.create files file)
      refine ⟨provider.store files file :: added, ?_, ?_⟩
      · rw [List.foldl_cons, hrows, rows_create, List.append_assoc, List.singleton_append]
      · rw [List.map_cons, hadded]
        rfl

variable {α : Type} {effect : ℕ → Remote → Remote} {answer : Remote → Except DriveError α}

theorem request_ok {a : α}
    (h : exec (request provider net effect answer) remote = (.ok a, remote')) :
    ∃ taken, remote' = effect taken (remote.arrive provider (net remote.requests)) ∧
      answer remote' = .ok a := by
  rw [request, exec_bind, exec_read] at h
  dsimp only at h
  rw [exec_bind, exec_write] at h
  dsimp only at h
  split at h
  · rename_i taken _
    rw [exec_bind, exec_write] at h
    dsimp only at h
    rw [exec_bind, exec_read] at h
    dsimp only [id_eq] at h
    obtain ⟨hanswer, rfl⟩ := exec_lift_ok.mp h
    refine ⟨taken, rfl, ?_⟩
    cases hx : answer (effect taken (remote.arrive provider (net remote.requests))) with
    | ok b =>
        rw [hx] at hanswer
        cases hanswer
        rfl
    | error e =>
        rw [hx] at hanswer
        exact nomatch hanswer
  · exact nomatch h
  · exact nomatch h

theorem get_ok {a : α} (h : exec (get provider net answer) remote = (.ok a, remote')) :
    remote' = remote.arrive provider (net remote.requests) ∧ answer remote' = .ok a := by
  obtain ⟨-, hremote, hanswer⟩ := request_ok h
  exact ⟨hremote, hanswer⟩

/-- What holds of the arrival and of the effect holds of the request. -/
theorem keeps_request {R : Remote → Remote → Prop} [Std.Refl R] [IsTrans Remote R]
    (harrive : ∀ remote, R remote (remote.arrive provider (net remote.requests)))
    (heffect : ∀ taken remote, R remote (effect taken remote)) :
    Keeps R (request provider net effect answer) := by
  refine ⟨fun remote => ?_⟩
  have helim (arrived : Option ℕ) (r : Remote) :
      R r (arrived.elim r fun taken => effect taken r) := by
    cases arrived with
    | none => exact Std.Refl.refl _
    | some taken => exact heffect taken r
  rw [request, exec_bind, exec_read]
  dsimp only
  rw [exec_bind, exec_write]
  dsimp only
  refine IsTrans.trans _ _ _ (harrive remote) ?_
  split
  · exact heffect _ _
  · exact helim _ _
  · exact helim _ _

end

end Drive
end MyVault
