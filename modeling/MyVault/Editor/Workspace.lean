import MyVault.Library.Runs

/-!
# The note editor of the front end

`App.tsx` with the reducer of `workspace.ts` and the refresh plan of `reader.ts`.  A
`setState` is queued and takes effect at the next render, and the refs and closures the
handlers read are those of the last render; so the state is kept twice, with everything
queued applied (`queued`) and as rendered (`rendered`).  Requests to the native side are in
flight until an event brings their response, in any order and after any delay.

An edit belongs to the note that the buffer holds with everything queued applied.  So one
that is typed between a load that is queued and the render that shows it is an edit of the
note that was loaded, although the screen still shows the other.

The session stays the same throughout: choosing another vault is not part of the model.
-/

namespace MyVault
namespace Editor

/-! ## `workspace.ts` -/

/-- How the text in the editor stands to the file. -/
inductive SavePhase where
  | clean
  | dirty
  | saving
  | saved
  | conflict
  | unknown
  | error
  deriving DecidableEq, Repr

/-- The phase, and the revision that was read or saved last. -/
structure SaveState where
  phase : SavePhase
  revisionHex : String
  byteLen : ℕ
  message : Option String
  deriving DecidableEq, Repr

/-- What is dispatched to `saveReducer`. -/
inductive SaveAction where
  | load (revisionHex : String) (byteLen : ℕ)
  | edit
  | saving
  | saved (revisionHex : String) (byteLen : ℕ) (stillCurrent : Option Bool)
  | failed (code : String) (message : Option String)
  deriving DecidableEq, Repr

/-- The state after an action. -/
def saveReducer (state : SaveState) : SaveAction → SaveState
  | .load revisionHex byteLen => { phase := .clean, revisionHex, byteLen, message := none }
  | .edit =>
    if state.phase = .conflict ∨ state.phase = .unknown then state
    else { state with phase := .dirty, message := none }
  | .saving => if state.phase = .dirty then { state with phase := .saving } else state
  | .saved revisionHex byteLen stillCurrent =>
    { phase := if stillCurrent = some false then .dirty else .saved
      revisionHex
      byteLen
      message := none }
  | .failed code message =>
    if code = "staleRevision" then
      { state with
        phase := .conflict
        message := some "ไฟล์ถูกแก้ไขจากที่อื่น — หยุดบันทึกอัตโนมัติแล้ว" }
    else if code = "writeOutcomeUnknown" then
      { state with
        phase := .unknown
        message := some "ยังยืนยันผลการบันทึกไม่ได้ — กรุณาเปิดโน้ตใหม่ก่อนเขียนต่อ" }
    else { state with phase := .error, message := some (message.getD "บันทึกไม่สำเร็จ") }

/-- `INITIAL_SAVE` of `App.tsx`. -/
def initialSave : SaveState := { phase := .clean, revisionHex := "", byteLen := 0, message := none }

/-- The answer is for the note that is open. -/
def matchesDocumentIdentity (expectedSessionId expectedPath sessionId path : String) : Bool :=
  sessionId == expectedSessionId && path == expectedPath

/-- There are edits that are not on their way. -/
def shouldAutosave (state : SaveState) : Bool := state.phase == .dirty

/-! ## `reader.ts` -/

/-- What to do about a change of the vault. -/
inductive VaultChangePlan where
  | ignore
  | refresh (sessionId : String) (activePath : Option String)
  deriving DecidableEq, Repr

/-- `["clean", "saved"].includes(phase)`. -/
def SavePhase.canReload (phase : SavePhase) : Bool := phase == .clean || phase == .saved

/-- `payload` is the session id of the payload, where it has one. -/
def planVaultChange (payload sessionId activePath : Option String) (savePhase : SavePhase) :
    VaultChangePlan :=
  match payload with
  | none => .ignore
  | some payload =>
    if payload = "" ∨ sessionId ≠ some payload then .ignore
    else .refresh payload (if savePhase.canReload then activePath else none)

/-! ## The state of `App` -/

/-- A note as the backend reads it. -/
structure NoteDto where
  sessionId : String
  path : String
  text : String
  revisionHex : String
  byteLen : ℕ
  deriving DecidableEq, Repr

/-- The backend's answer to a save. -/
structure SaveDto where
  sessionId : String
  path : String
  revisionHex : String
  byteLen : ℕ
  deriving DecidableEq, Repr

/-- An error as it arrives in the frontend; either field may be missing. -/
structure AppFailure where
  code : Option String
  message : Option String
  deriving DecidableEq, Repr

/-- The arguments of a `vault_save_note`. -/
structure SaveRequest where
  sessionId : String
  path : String
  text : String
  expectedRevisionHex : String
  expectedByteLen : ℕ
  deriving DecidableEq, Repr

/-- The functions that wait for a `vault_read_note`. -/
inductive Reader where
  | openNote
  | refreshActiveNote
  | reloadFromDisk
  deriving DecidableEq, Repr

/-- A read of a note that is under way, and what it was asked for. -/
structure Read where
  reader : Reader
  request : ℕ
  sessionId : String
  path : String
  deriving DecidableEq, Repr

/-- The state variables the handlers decide by. -/
structure View where
  activePath : Option String
  text : String
  save : SaveState
  deriving DecidableEq, Repr

/-- What has happened to the buffer; no handler reads it. -/
structure History where
  /-- The text last loaded into the buffer. -/
  lastLoaded : String
  /-- The text of the last save that succeeded. -/
  lastSaved : Option String
  /-- The saves that succeeded: the note and the text. -/
  saves : List (String × String)
  /-- The texts typed since the last load. -/
  edits : List String
  /-- The phase has been `conflict` or `unknown` since the last load. -/
  blocked : Bool
  deriving DecidableEq, Repr

/-- The state of the editor: what React has queued and rendered, and the requests that are out. -/
structure Workspace where
  sessionId : Option String
  queued : View
  rendered : View
  noteRequest : ℕ
  externalNoteRequest : ℕ
  /-- The session the pending refresh is for. -/
  refreshTimer : Option String
  saveInFlight : Option SaveRequest
  reads : List Read
  history : History
  deriving DecidableEq, Repr

/-- The editor before a note is open. -/
def Workspace.initial (sessionId : Option String) : Workspace where
  sessionId := sessionId
  queued := { activePath := none, text := "", save := initialSave }
  rendered := { activePath := none, text := "", save := initialSave }
  noteRequest := 0
  externalNoteRequest := 0
  refreshTimer := none
  saveInFlight := none
  reads := []
  history := { lastLoaded := "", lastSaved := none, saves := [], edits := [], blocked := false }

namespace Workspace

variable (workspace : Workspace)

/-- `onChange` of the mounted editor. -/
def type (next : String) : Workspace :=
  match workspace.rendered.activePath with
  | none => workspace
  | some _ =>
    { workspace with
      queued :=
        { workspace.queued with text := next, save := saveReducer workspace.queued.save .edit }
      history := { workspace.history with edits := workspace.history.edits ++ [next] } }

/-- React renders what is queued. -/
def render : Workspace := { workspace with rendered := workspace.queued }

/-! ### Saving -/

/-- What `saveNow` submits, if it submits. -/
def submission : Option SaveRequest :=
  match workspace.sessionId, workspace.rendered.activePath, workspace.saveInFlight with
  | some sessionId, some path, none =>
    if workspace.rendered.save.phase = .dirty then
      some
        { sessionId
          path
          text := workspace.rendered.text
          expectedRevisionHex := workspace.rendered.save.revisionHex
          expectedByteLen := workspace.rendered.save.byteLen }
    else none
  | _, _, _ => none

/-- `saveNow`: the rendered text is sent, if it is dirty and no save is under way. -/
def saveNow : Workspace :=
  match workspace.submission with
  | none => workspace
  | some request =>
    { workspace with
      queued := { workspace.queued with save := saveReducer workspace.queued.save .saving }
      saveInFlight := some request }

/-- The save has failed. -/
def failSave (code : String) (message : Option String) : Workspace :=
  let save := saveReducer workspace.queued.save (.failed code message)
  { workspace with
    queued := { workspace.queued with save }
    saveInFlight := none
    history := { workspace.history with
      blocked := workspace.history.blocked || save.phase == .conflict || save.phase == .unknown } }

/-- The response is that of the note in the editor. -/
def expects (request : SaveRequest) (result : SaveDto) : Bool :=
  matchesDocumentIdentity request.sessionId request.path result.sessionId result.path &&
    decide (workspace.sessionId = some request.sessionId) &&
    decide (workspace.rendered.activePath = some request.path)

/-- A save of the open note is over; it is clean if the text is still the one that was sent. -/
def finishSave (request : SaveRequest) (result : SaveDto) : Workspace :=
  let stillCurrent := decide (workspace.rendered.text = request.text)
  { workspace with
    queued := { workspace.queued with
      save := saveReducer workspace.queued.save
        (.saved result.revisionHex result.byteLen (some stillCurrent)) }
    saveInFlight := none
    history := { workspace.history with
      lastSaved := some request.text
      saves := workspace.history.saves ++ [(request.path, request.text)] } }

/-- The answer to the save arrives. -/
def takeSave (result : Except AppFailure SaveDto) : Workspace :=
  match workspace.saveInFlight, result with
  | none, _ => workspace
  | some _, .error failure => workspace.failSave (failure.code.getD "error") failure.message
  | some request, .ok result =>
    if workspace.expects request result then workspace.finishSave request result
    else workspace.failSave "error" (some "Save response identity mismatch")

/-! ### Loading -/

/-- `openNote`: the read of another note begins, if the rendered one may be left. -/
def openNote (path : String) : Workspace :=
  match workspace.sessionId with
  | none => workspace
  | some sessionId =>
    if workspace.rendered.activePath = some path ∨ workspace.rendered.save.phase.canReload = false
    then workspace
    else
      let request := workspace.noteRequest + 1
      { workspace with
        noteRequest := request
        reads := workspace.reads ++ [{ reader := .openNote, request, sessionId, path }] }

/-- The phases that show the reload button. -/
def offersReload : Bool :=
  workspace.rendered.save.phase == .conflict || workspace.rendered.save.phase == .unknown ||
    workspace.rendered.save.phase == .error

/-- The user reloads a note that changed on disk. -/
def reloadFromDisk (confirmed : Bool) : Workspace :=
  match workspace.sessionId, workspace.rendered.activePath with
  | some sessionId, some path =>
    if workspace.offersReload && confirmed then
      let request := workspace.noteRequest + 1
      { workspace with
        noteRequest := request
        reads := workspace.reads ++ [{ reader := .reloadFromDisk, request, sessionId, path }] }
    else workspace
  | _, _ => workspace

/-- The plan the refs give. -/
def plan (payload : Option String) : VaultChangePlan :=
  planVaultChange payload workspace.sessionId workspace.rendered.activePath
    workspace.rendered.save.phase

/-- The event of the backend sets the timer of the refresh. -/
def vaultChanged (payload : Option String) : Workspace :=
  match workspace.plan payload with
  | .ignore => workspace
  | .refresh sessionId _ => { workspace with refreshTimer := some sessionId }

/-- The timer of the refresh: the note is read again, if it is clean. -/
def refresh : Workspace :=
  match workspace.refreshTimer with
  | none => workspace
  | some sessionId =>
    let workspace := { workspace with refreshTimer := none }
    match workspace.plan (some sessionId) with
    | .refresh sessionId (some path) =>
      let request := workspace.externalNoteRequest + 1
      { workspace with
        externalNoteRequest := request
        reads := workspace.reads ++ [{ reader := .refreshActiveNote, request, sessionId, path }] }
    | _ => workspace

/-- The checks between the response and the load. -/
def accepts (read : Read) (note : NoteDto) : Bool :=
  matchesDocumentIdentity read.sessionId read.path note.sessionId note.path &&
  match read.reader with
  | .openNote =>
    read.request == workspace.noteRequest && decide (workspace.sessionId = some read.sessionId)
  | .reloadFromDisk =>
    read.request == workspace.noteRequest && decide (workspace.sessionId = some read.sessionId) &&
      decide (workspace.rendered.activePath = some read.path)
  | .refreshActiveNote =>
    read.request == workspace.externalNoteRequest &&
      decide (workspace.plan (some read.sessionId) = .refresh read.sessionId (some read.path)) &&
      !(workspace.rendered.save.revisionHex == note.revisionHex &&
        workspace.rendered.save.byteLen == note.byteLen)

/-- The note that was read is put in the editor. -/
def load (reader : Reader) (note : NoteDto) : Workspace :=
  { workspace with
    queued :=
      { activePath :=
          if reader = .openNote then some note.path else workspace.queued.activePath
        text := note.text
        save := saveReducer initialSave (.load note.revisionHex note.byteLen) }
    history := { workspace.history with
      lastLoaded := note.text
      edits := []
      blocked := false } }

/-- The answer to a read arrives; it is loaded if it is still the one that is wanted. -/
def takeRead (index : ℕ) (result : Except AppFailure NoteDto) : Workspace :=
  match workspace.reads[index]?, result with
  | none, _ => workspace
  | some _, .error _ => { workspace with reads := workspace.reads.eraseIdx index }
  | some read, .ok note =>
    if workspace.accepts read note then
      { workspace with reads := workspace.reads.eraseIdx index }.load read.reader note
    else { workspace with reads := workspace.reads.eraseIdx index }

end Workspace

/-! ## Runs -/

/-- What may happen to the editor, in any order. -/
inductive Event where
  | type (next : String)
  | render
  /-- The autosave timer; a rendered phase that wants no autosave has cleared it. -/
  | autosave
  | saveKey
  | saveResponse (result : Except AppFailure SaveDto)
  | openNote (path : String)
  | reload (confirmed : Bool)
  | vaultChanged (payload : Option String)
  | refreshTimer
  | readResponse (index : ℕ) (result : Except AppFailure NoteDto)

/-- The editor after an event. -/
def step (workspace : Workspace) : Event → Workspace
  | .type next => workspace.type next
  | .render => workspace.render
  | .autosave => if shouldAutosave workspace.rendered.save then workspace.saveNow else workspace
  | .saveKey => workspace.saveNow
  | .saveResponse result => workspace.takeSave result
  | .openNote path => workspace.openNote path
  | .reload confirmed => workspace.reloadFromDisk confirmed
  | .vaultChanged payload => workspace.vaultChanged payload
  | .refreshTimer => workspace.refresh
  | .readResponse index result => workspace.takeRead index result

end Editor
end MyVault
