import MyVault.Core.Identifiers
import MyVault.Library.Runs
import Mathlib.Logic.Function.Basic

/-!
# The sync commands of the Android runtime

The `platform` module of `sync_commands.rs` for Android.  The commands share one
`AndroidSyncState` behind a mutex and hold it only for short sections; between the
sections they talk to Google, to Drive and to the vault.  A command is the point it has
reached, one section takes it to the next, and what the calls in between and the store
answer is free (`Answers`).  The commands of any number of callers interleave section by
section (`step`).

A scan and a guarded run take the open store out of the state for as long as they work on
it; `transfer_running_session` is meant to keep everybody else away.  A disconnect sets the
same marker and leaves the store where it is.
-/

namespace MyVault
namespace Runtime

/-- The codes of the errors of the commands. -/
inductive SyncCommandCode where
  | noActiveVault
  | staleSession
  | invalidRequest
  | unsupported
  | unconfigured
  | authRequired
  | bindingMismatch
  | rescanRequired
  | busy
  | providerUnavailable
  | storageUnavailable
  | internal
  deriving DecidableEq, Repr

/-- An error of a command. -/
structure SyncCommandError where
  code : SyncCommandCode
  message : String
  deriving DecidableEq, Repr

namespace SyncCommandError

/-- `SyncCommandError::internal`. -/
def internal : SyncCommandError := ⟨.internal, "the native sync service is unavailable"⟩

/-- `SyncCommandError::busy`. -/
def busy : SyncCommandError := ⟨.busy, "a guarded transfer is already running"⟩

/-- The store cannot be opened or read. -/
def storageUnavailable : SyncCommandError :=
  ⟨.storageUnavailable, "private sync state is unavailable"⟩

/-- The user has to sign in. -/
def authRequired : SyncCommandError := ⟨.authRequired, "Google authorization is required"⟩

/-- Somebody else has signed in. -/
def bindingMismatch : SyncCommandError :=
  ⟨.bindingMismatch, "the Google account does not match this Vault's exact binding"⟩

/-- The sign-in could not be undone. -/
def cleanupIncomplete : SyncCommandError :=
  ⟨.providerUnavailable, "Google authorization cleanup did not complete"⟩

end SyncCommandError

/-! ## The shared state -/

/-- Sessions have UUIDs. -/
abbrev VaultSessionId := Uuid

/-- The access token of an `Authorization`. -/
abbrev Authorization := String

/-- An open store; `store` says which of the stores opened so far it is. -/
structure AndroidActiveSync where
  sessionId : VaultSessionId
  vaultId : Uuid
  store : ℕ
  deriving DecidableEq

/-- `opened` counts the calls of `open_sync_store` that succeeded. -/
structure AndroidSyncState where
  accountId : Option String
  rootName : Option String
  authorization : Option Authorization
  active : Option AndroidActiveSync
  transferRunningSession : Option VaultSessionId
  opened : ℕ
  deriving DecidableEq

/-- `AndroidSyncState::default()`. -/
def AndroidSyncState.initial : AndroidSyncState where
  accountId := none
  rootName := none
  authorization := none
  active := none
  transferRunningSession := none
  opened := 0

/-- What a section, and the calls before it, hear from outside. -/
structure Answers where
  /-- What the calls since the last section failed with. -/
  outside : Option SyncCommandError
  /-- What `with_current_session` refused with. -/
  lease : Option SyncCommandError
  /-- `open_sync_store` succeeds. -/
  opens : Bool
  /-- What reading the store, and checking what it says, failed with. -/
  store : Option SyncCommandError
  accountId : String
  rootName : String
  authorization : Authorization

section Sections

variable (sessionId : VaultSessionId) (vaultId : Uuid) (answers : Answers)

/-- The open store is the one of this session and vault. -/
def AndroidSyncState.matches (state : AndroidSyncState) : Bool :=
  state.active.any fun active => active.sessionId == sessionId && active.vaultId == vaultId

/-- `ensure_store`: the store of the session is open afterwards, unless a transfer runs in another
one. -/
def ensureStore (state : AndroidSyncState) : Except SyncCommandError Unit × AndroidSyncState :=
  if state.matches sessionId vaultId then (.ok (), state)
  else if state.transferRunningSession.isSome then (.error .busy, state)
  else if answers.opens then
    (.ok (), { state with
      active := some { sessionId, vaultId, store := state.opened }
      rootName := none
      opened := state.opened + 1 })
  else (.error .storageUnavailable, { state with active := none })

/-- `ensure_store` and the reads behind it. -/
def readStore (state : AndroidSyncState) : Except SyncCommandError Unit × AndroidSyncState :=
  match ensureStore sessionId vaultId answers state with
  | (.error error, state) => (.error error, state)
  | (.ok (), state) =>
    match answers.store with
    | some error => (.error error, state)
    | none => (.ok (), state)

/-- `detach_store`: the store is taken out of the state. -/
def detachStore (state : AndroidSyncState) :
    Except SyncCommandError AndroidActiveSync × AndroidSyncState :=
  match ensureStore sessionId vaultId answers state with
  | (.error error, state) => (.error error, state)
  | (.ok (), state) =>
    match state.active with
    | none => (.error .internal, state)
    | some active =>
      (.ok active, { state with active := none, transferRunningSession := some sessionId })

end Sections

/-- What `restore_inner` and `discard_store` want to find. -/
def AndroidSyncState.awaits (state : AndroidSyncState) (active : AndroidActiveSync) : Bool :=
  state.active.isNone && decide (state.transferRunningSession = some active.sessionId)

/-- `restore_inner`; the store is lost when it fails. -/
def restoreInner (active : AndroidActiveSync) (state : AndroidSyncState) :
    Except SyncCommandError Unit × AndroidSyncState :=
  if state.awaits active then
    (.ok (), { state with active := some active, transferRunningSession := none })
  else (.error .internal, state)

/-- `discard_store`, which closes the store first. -/
def discardStore (active : AndroidActiveSync) (state : AndroidSyncState) :
    Except SyncCommandError Unit × AndroidSyncState :=
  if state.awaits active then (.ok (), { state with transferRunningSession := none })
  else (.error .internal, state)

/-- `if state.transfer_running_session == Some(requested)` the marker goes. -/
def clearMarker (requested : VaultSessionId) (state : AndroidSyncState) : AndroidSyncState :=
  if state.transferRunningSession = some requested then
    { state with transferRunningSession := none }
  else state

/-! ## The commands -/

/-- The two commands that detach the store: `sync_scan_step` and `sync_run_guarded`. -/
inductive Detacher where
  | scanStep
  | runGuarded
  deriving DecidableEq, Repr

/-- The section a command comes to next. -/
inductive Point where
  | status
  | preview
  | connect
  | connectFinish
  | connectCleanup (error : SyncCommandError)
  | listFolders
  | listFoldersFinish
  | bindRoot
  /-- The first section of a scan step or a guarded run. -/
  | begin (command : Detacher)
  | detach (command : Detacher)
  /-- The command works on the store outside the state. -/
  | detached (command : Detacher) (active : AndroidActiveSync)
  /-- The store is back; the rest of the finalization. -/
  | finish (command : Detacher)
  | disconnect
  /-- The marker is set; the authorization it took is being revoked. -/
  | revoke (authorization : Option Authorization)
  /-- The finalization failed; `holding` when it has not touched the marker. -/
  | disconnectCleanup (error : SyncCommandError) (holding : Bool)
  | done (result : Except SyncCommandError Unit)

/-- A command that is under way, and where it is. -/
structure Command where
  sessionId : VaultSessionId
  vaultId : Uuid
  point : Point

namespace Command

variable (command : Command) (answers : Answers) (state : AndroidSyncState)

/-- The store is opened and read. -/
def ensureAndRead : Except SyncCommandError Unit × AndroidSyncState :=
  readStore command.sessionId command.vaultId answers state

/-- A section that ends its command. -/
def finishWith : Except SyncCommandError Unit × AndroidSyncState → AndroidSyncState × Point
  | (result, state) => (state, .done result)

/-- The two checks of a first section, in the order of the command. -/
def beginSection : Detacher → AndroidSyncState × Point
  | .scanStep =>
    match command.ensureAndRead answers state with
    | (.error error, state) => (state, .done (.error error))
    | (.ok (), state) =>
      if state.authorization.isNone then (state, .done (.error .authRequired))
      else (state, .detach .scanStep)
  | .runGuarded =>
    if state.authorization.isNone then (state, .done (.error .authRequired))
    else
      match command.ensureAndRead answers state with
      | (.error error, state) => (state, .done (.error error))
      | (.ok (), state) => (state, .detach .runGuarded)

/-- `discard_store()?` before the error of the command is returned. -/
def discardSection (active : AndroidActiveSync) (error : SyncCommandError) :
    AndroidSyncState × Point :=
  match discardStore active state with
  | (.error failure, state) => (state, .done (.error failure))
  | (.ok (), state) => (state, .done (.error error))

/-- What becomes of the detached store.  A scan step that fails on its way drops it, and the
drop restores it; a guarded run that fails discards it. -/
def settleSection (detacher : Detacher) (active : AndroidActiveSync) : AndroidSyncState × Point :=
  match answers.outside with
  | some error =>
    match detacher with
    | .scanStep => ((restoreInner active state).2, .done (.error error))
    | .runGuarded => discardSection state active error
  | none =>
    match answers.lease with
    | some error => discardSection state active error
    | none =>
      match restoreInner active state with
      -- `discard_store` finds no store to discard
      | (.error _, state) => (state, .done (.error .internal))
      | (.ok (), state) => (state, .finish detacher)

/-- What the finalization writes before it reads the store. -/
def finishState : Detacher → AndroidSyncState
  | .scanStep => { state with authorization := some answers.authorization }
  | .runGuarded =>
    { state with
      accountId := some answers.accountId
      authorization := some answers.authorization }

/-- The second section of `sync_disconnect_impl`. -/
def revokeSection (authorization : Option Authorization) : AndroidSyncState × Point :=
  if authorization.isSome ∧ answers.outside.isSome then
    if state.transferRunningSession = some command.sessionId then
      ({ state with transferRunningSession := none, authorization },
        .done (.error .cleanupIncomplete))
    else (state, .done (.error .cleanupIncomplete))
  else
    match answers.lease with
    | some error => (state, .disconnectCleanup error true)
    | none =>
      if state.transferRunningSession = some command.sessionId then
        match command.ensureAndRead answers
          { state with transferRunningSession := none, accountId := none, rootName := none } with
        | (.error error, state) => (state, .disconnectCleanup error false)
        | (.ok (), state) => (state, .done (.ok ()))
      else (state, .disconnectCleanup .internal false)

/-- The next section of the command. -/
def advance : AndroidSyncState × Point :=
  match command.point with
  | .status =>
    match answers.lease with
    | some error => (state, .done (.error error))
    | none => finishWith (command.ensureAndRead answers state)
  | .preview => finishWith (command.ensureAndRead answers state)
  | .connect =>
    match command.ensureAndRead answers state with
    | (.error error, state) => (state, .done (.error error))
    | (.ok (), state) => (state, .connectFinish)
  | .connectFinish =>
    match answers.outside, answers.lease with
    | some error, _ => (state, .done (.error error))
    | none, some error => (state, .connectCleanup error)
    | none, none =>
      match command.ensureAndRead answers state with
      | (.error error, state) => (state, .connectCleanup error)
      | (.ok (), state) =>
        ({ state with
            accountId := some answers.accountId
            authorization := some answers.authorization }, .done (.ok ()))
  | .connectCleanup error =>
    if state.transferRunningSession.isNone ∧
        state.active.any (fun active => active.sessionId == command.sessionId) = true then
      ({ state with active := none, rootName := none }, .done (.error error))
    else (state, .done (.error error))
  | .listFolders =>
    match answers.outside, state.accountId with
    | some error, _ => (state, .done (.error error))
    | none, none => (state, .done (.error .authRequired))
    | none, some expected =>
      if expected = answers.accountId then (state, .listFoldersFinish)
      else (state, .done (.error .bindingMismatch))
  | .listFoldersFinish =>
    match answers.outside, answers.lease with
    | some error, _ => (state, .done (.error error))
    | none, some error => (state, .done (.error error))
    | none, none => ({ state with authorization := some answers.authorization }, .done (.ok ()))
  | .bindRoot =>
    match answers.outside, answers.lease with
    | some error, _ => (state, .done (.error error))
    | none, some error => (state, .done (.error error))
    | none, none =>
      if state.accountId.any (· != answers.accountId) then
        (state, .done (.error .bindingMismatch))
      else
        match command.ensureAndRead answers state with
        | (.error error, state) => (state, .done (.error error))
        | (.ok (), state) =>
          ({ state with
              accountId := some answers.accountId
              authorization := some answers.authorization
              rootName := some answers.rootName }, .done (.ok ()))
  | .begin detacher => command.beginSection answers state detacher
  | .detach detacher =>
    match answers.outside with
    | some error => (state, .done (.error error))
    | none =>
      match detachStore command.sessionId command.vaultId answers state with
      | (.error error, state) => (state, .done (.error error))
      | (.ok active, state) => (state, .detached detacher active)
  | .detached detacher active => settleSection answers state detacher active
  | .finish detacher =>
      finishWith (command.ensureAndRead answers (finishState answers state detacher))
  | .disconnect =>
    if state.transferRunningSession.isSome then (state, .done (.error .busy))
    else
      ({ state with transferRunningSession := some command.sessionId, authorization := none },
        .revoke state.authorization)
  | .revoke authorization => command.revokeSection answers state authorization
  | .disconnectCleanup error _ => (clearMarker command.sessionId state, .done (.error error))
  | .done result => (state, .done result)

end Command

/-! ## Interleavings -/

/-- The sync commands of the front end. -/
inductive Request where
  | status
  | connect
  | listFolders
  | bindRoot
  | scanStep
  | preview
  | runGuarded
  | disconnect
  deriving DecidableEq, Repr

/-- Where a command begins. -/
def Request.entry : Request → Point
  | .status => .status
  | .connect => .connect
  | .listFolders => .listFolders
  | .bindRoot => .bindRoot
  | .scanStep => .begin .scanStep
  | .preview => .preview
  | .runGuarded => .begin .runGuarded
  | .disconnect => .disconnect

/-- The runtime and the commands called so far, each under a number of its own. -/
structure World where
  state : AndroidSyncState
  commands : ℕ → Option Command

/-- No command is under way. -/
def World.initial : World := ⟨.initial, fun _ => none⟩

/-- What may happen, in any order. -/
inductive Event where
  /-- A command is called. -/
  | call (index : ℕ) (request : Request) (sessionId : VaultSessionId) (vaultId : Uuid)
  /-- A command runs its next section. -/
  | act (index : ℕ) (answers : Answers)

/-- The world after an event. -/
def step (world : World) : Event → World
  | .call index request sessionId vaultId =>
    match world.commands index with
    | some _ => world
    | none =>
      { world with
        commands := Function.update world.commands index
          (some { sessionId, vaultId, point := request.entry }) }
  | .act index answers =>
    match world.commands index with
    | none => world
    | some command =>
      { state := (command.advance answers world.state).1
        commands := Function.update world.commands index
          (some { command with point := (command.advance answers world.state).2 }) }

end Runtime
end MyVault
