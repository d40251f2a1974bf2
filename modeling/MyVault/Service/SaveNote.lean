import MyVault.Vault.Content
import MyVault.Library.Runs
import Mathlib.Logic.Function.Basic

/-!
# Saving a note while others write

`save_note` of the app service with its snapshot store, and the vault's
`replace_content_file_with_hooks` below it, as steps of a call.  Any number of calls
interleave step by step, and other programs write the note's file between any two steps
(`Event.external`).  The mutation lock of the vault keeps the calls apart; it keeps no
other program out.

A file is read in pieces, so a read is two steps, its beginning and its end: what it
gives is the content of the file if nobody else wrote in between, and anything otherwise.
Which step fails, and with what, is free (`Answers`).

`log` is the history the results are about: the writes of the note, the snapshots, and
where the last check of a replacement began.
-/

namespace MyVault
namespace Service

open Vault Vault.Stepwise VaultPath

/-! ## Errors -/

/-- The codes of the errors of the service. -/
inductive AppErrorCode where
  | noActiveSession
  | staleSession
  | invalidPath
  | invalidRevision
  | staleRevision
  | writeOutcomeUnknown
  | recoveryUnavailable
  | vaultUnavailable
  | resourceLimit
  | internal
  deriving DecidableEq, Repr

/-- An error of the service. -/
structure AppError where
  code : AppErrorCode
  message : String
  deriving DecidableEq, Repr

namespace AppError

/-- `invalid_path_error`. -/
def invalidPath : AppError := ⟨.invalidPath, "the note path is invalid"⟩

/-- `resource_limit_error`. -/
def resourceLimit : AppError :=
  ⟨.resourceLimit, "the requested resource exceeds its safe limit"⟩

/-- `AppError::vault_unavailable`. -/
def vaultUnavailable : AppError := ⟨.vaultUnavailable, "vault evidence is unavailable"⟩

/-- `AppError::stale_revision`. -/
def staleRevision : AppError := ⟨.staleRevision, "the note changed after it was opened"⟩

/-- `AppError::write_outcome_unknown`. -/
def writeOutcomeUnknown : AppError :=
  ⟨.writeOutcomeUnknown, "the note write outcome is unknown"⟩

/-- `AppError::recovery_unavailable`. -/
def recoveryUnavailable : AppError :=
  ⟨.recoveryUnavailable, "the recovery snapshot could not be secured, so the note was not saved"⟩

end AppError

/-- The error of the service for an error of the vault. -/
def mapSaveError : CoreError → AppError
  | .invalidRevision => ⟨.invalidRevision, "the expected note revision is invalid"⟩
  | .staleRevision .. => ⟨.staleRevision, "the note changed before it could be saved"⟩
  | .replaceContentOutcomeUnknown .. => .writeOutcomeUnknown
  | .invalidRelativePath | .automaticObsidianWriteDenied _ | .trashWriteDenied _
  | .invalidMove .. | .revisionTargetNotFile _ => .invalidPath
  | .resourceLimitExceeded .. => .resourceLimit
  | _ => .vaultUnavailable

/-! ## Calls -/

/-- `MAX_NOTE_BYTES`. -/
def maxNoteBytes : ℕ := 16 * 1024 * 1024

/-- Whether the rename was synced. -/
inductive MoveDurability where
  | fullySynced
  | directorySyncUnsupported
  deriving DecidableEq, Repr

/-- The revision and the durability of `SaveNoteDto`. -/
structure SaveNoteDto where
  revision : FileRevision
  durability : MoveDurability
  deriving DecidableEq, Repr

/-- The step a call comes to next.  A `since` counts the writes of others before the read
that has begun. -/
inductive Point where
  | begin
  | readNote
  | reading (since : ℕ)
  | snapshot (note : List UInt8)
  | replace
  | check
  | checking (since : ℕ)
  | writeTemp
  | recheck
  | rechecking (since : ℕ)
  | verifyTemp
  | rename
  | sync
  | verifying (synced : Except IoKind MoveDurability) (since : ℕ)
  | done (result : Except AppError SaveNoteDto)

/-- A call of `save_note`, and where it is. -/
structure SaveNote where
  text : List UInt8
  expected : FileRevision
  point : Point

/-- What the step hears from outside. -/
structure Answers where
  /-- What the session was refused with. -/
  admission : Option AppError
  /-- What a step of the vault failed with. -/
  core : Option CoreError
  /-- The clock, the manifest or the snapshot store failed. -/
  recoveryFails : Bool
  /-- What a disturbed read gives. -/
  bytes : List UInt8
  sync : Except IoKind MoveDurability

/-! ## The world -/

/-- What the history keeps. -/
inductive Record where
  /-- Another program wrote the note. -/
  | external (bytes : List UInt8)
  /-- The call published a snapshot of this payload. -/
  | published (index : ℕ) (payload : List UInt8)
  /-- The last check before the replacement of the call began. -/
  | checking (index : ℕ)
  /-- The call replaced the note. -/
  | replaced (index : ℕ) (displaced text : List UInt8)
  deriving DecidableEq

/-- Another program has written. -/
def Record.isExternal : Record → Bool
  | external _ => true
  | _ => false

/-- The note, the lock, the calls, and what has been written. -/
structure World where
  note : List UInt8
  mutationLock : Option ℕ
  calls : ℕ → Option SaveNote
  log : List Record

/-- Nobody has called yet. -/
def World.initial (note : List UInt8) : World where
  note := note
  mutationLock := none
  calls := fun _ => none
  log := []

namespace World

variable (world : World) (index : ℕ) (call : SaveNote)

/-- The writes of others so far. -/
def writes : ℕ := world.log.countP Record.isExternal

/-- What a read gives that began when there were `since` writes. -/
def readSince (since : ℕ) (answers : Answers) : List UInt8 :=
  if world.writes = since then world.note else answers.bytes

/-- The call goes on at another point. -/
def goTo (point : Point) : World :=
  { world with calls := Function.update world.calls index (some { call with point }) }

/-- The world with one more record. -/
def record (entry : Record) : World := { world with log := world.log ++ [entry] }

/-- The world with the lock taken. -/
def lock : World := { world with mutationLock := some index }

/-- The world with the lock free. -/
def unlock : World := { world with mutationLock := none }

end World

/-! ## Steps -/

section Steps

variable (blake3 : Blake3) (path : Text)

/-- The size of the text, `FileRevision::new`, and the session; the path is that of the note. -/
def SaveNote.admit (call : SaveNote) (answers : Answers) : Option AppError :=
  if maxNoteBytes < call.text.length then some .resourceLimit
  else
    match validateRevision call.expected with
    | .error error => some (mapSaveError error)
    | .ok () => answers.admission

/-- What a replacement refuses before it takes the lock. -/
def SaveNote.replaceRefuses (call : SaveNote) : Option CoreError :=
  match validateRevision call.expected with
  | .error error => some error
  | .ok () =>
    if maxNoteBytes < call.expected.byteLen then
      some (.resourceLimitExceeded "expected content revision bytes" maxNoteBytes)
    else if maxNoteBytes < call.text.length then
      some (.resourceLimitExceeded "replacement content bytes" maxNoteBytes)
    else none

/-- `verify_expected_from_parent`, at the end of its read. -/
def verifyExpected (expected : FileRevision) (answers : Answers) (bytes : List UInt8) :
    Option CoreError :=
  match answers.core with
  | some error => some error
  | none =>
    if .fromBytes blake3 bytes = expected then none
    else some (.staleRevision path expected (.fromBytes blake3 bytes))

/-- The outcome of a replacement that has happened, of the flush and the verification. -/
def replacementOutcome (call : SaveNote) (synced : Except IoKind MoveDurability)
    (verification : Option CoreError) : Except AppError SaveNoteDto :=
  match synced, verification with
  | .ok durability, none => .ok ⟨.fromBytes blake3 call.text, durability⟩
  | _, _ => .error .writeOutcomeUnknown

/-- The next step of a call. -/
def SaveNote.advance (world : World) (index : ℕ) (call : SaveNote) (answers : Answers) : World :=
  match call.point with
  | .begin =>
    match call.admit answers with
    | some error => world.goTo index call (.done (.error error))
    | none => world.goTo index call .readNote
  | .readNote =>
    if world.mutationLock.isSome then world
    else
      match answers.core with
      | some error => world.goTo index call (.done (.error (mapSaveError error)))
      | none => (world.lock index).goTo index call (.reading world.writes)
  | .reading since =>
    match answers.core with
    | some error => world.unlock.goTo index call (.done (.error (mapSaveError error)))
    | none =>
      if .fromBytes blake3 (world.readSince since answers) = call.expected then
        world.unlock.goTo index call (.snapshot (world.readSince since answers))
      else world.unlock.goTo index call (.done (.error .staleRevision))
  | .snapshot note =>
    if answers.recoveryFails then world.goTo index call (.done (.error .recoveryUnavailable))
    else (world.record (.published index note)).goTo index call .replace
  | .replace =>
    match call.replaceRefuses with
    | some error => world.goTo index call (.done (.error (mapSaveError error)))
    | none =>
      if world.mutationLock.isSome then world
      else
        match answers.core with
        | some error => world.goTo index call (.done (.error (mapSaveError error)))
        | none => (world.lock index).goTo index call .check
  | .check =>
    match answers.core with
    | some error => world.unlock.goTo index call (.done (.error (mapSaveError error)))
    | none => world.goTo index call (.checking world.writes)
  | .checking since =>
    match verifyExpected blake3 path call.expected answers (world.readSince since answers) with
    | some error => world.unlock.goTo index call (.done (.error (mapSaveError error)))
    | none => world.goTo index call .writeTemp
  | .writeTemp =>
    match answers.core with
    | some error => world.unlock.goTo index call (.done (.error (mapSaveError error)))
    | none => world.goTo index call .recheck
  | .recheck =>
    match answers.core with
    | some error => world.unlock.goTo index call (.done (.error (mapSaveError error)))
    | none => (world.record (.checking index)).goTo index call (.rechecking world.writes)
  | .rechecking since =>
    match verifyExpected blake3 path call.expected answers (world.readSince since answers) with
    | some error => world.unlock.goTo index call (.done (.error (mapSaveError error)))
    | none => world.goTo index call .verifyTemp
  | .verifyTemp =>
    match answers.core with
    | some error => world.unlock.goTo index call (.done (.error (mapSaveError error)))
    | none => world.goTo index call .rename
  | .rename =>
    match answers.core with
    | some error => world.unlock.goTo index call (.done (.error (mapSaveError error)))
    | none =>
      { (world.record (.replaced index world.note call.text)) with note := call.text }.goTo index
        call .sync
  | .sync => world.goTo index call (.verifying answers.sync world.writes)
  | .verifying synced since =>
    world.unlock.goTo index call (.done (replacementOutcome blake3 call synced
      (verifyExpected blake3 path (.fromBytes blake3 call.text) answers
        (world.readSince since answers))))
  | .done _ => world

/-- What happens next: a new call, a step of one, or a write of another program. -/
inductive Event where
  | call (index : ℕ) (text : List UInt8) (expected : FileRevision)
  | act (index : ℕ) (answers : Answers)
  | external (bytes : List UInt8)

/-- The world after an event. -/
def step (world : World) : Event → World
  | .call index text expected =>
    match world.calls index with
    | some _ => world
    | none => world.goTo index ⟨text, expected, .begin⟩ .begin
  | .act index answers =>
    match world.calls index with
    | none => world
    | some call => call.advance blake3 path world index answers
  | .external bytes => { (world.record (.external bytes)) with note := bytes }

end Steps

end Service
end MyVault
