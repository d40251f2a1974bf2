import MyVault.Vault.Content

/-!
# Moves of content files

`myvault-core/src/vault.rs`: `atomic_move`, `move_content_file_if_revision` and
`case_rename_content_file_if_revision`, with the resuming variants of the last two.
-/

namespace MyVault
namespace Vault
namespace Stepwise

open Program VaultPath

/-- How the flushes of the parents after a move went; `none` if they are one directory. -/
structure MoveSyncReport where
  destination : Except IoKind Unit
  source : Option (Except IoKind Unit)

namespace MoveSyncReport

/-- A folder was not synced. -/
def hasFailure (report : MoveSyncReport) : Bool :=
  !report.destination.isOk || report.source.any fun synced => !synced.isOk

/-- What the sync of the first folder has come to. -/
def sourceStatus (report : MoveSyncReport) : DirectorySyncStatus :=
  report.source.elim .sharedWithDestination directorySyncStatus

/-- `finish_atomic_move_sync`. -/
def intoResult (report : MoveSyncReport) (source destination : Text) : Except CoreError Unit :=
  match report.destination, report.source with
  | .ok (), none => .ok ()
  | .ok (), some (.ok ()) => .ok ()
  | synced, _ => .error (.atomicMoveOutcomeUnknown source destination
      (directorySyncStatus synced) report.sourceStatus)

/-- The error for a move that was made and not verified. -/
def intoVerifiedUnknown (report : MoveSyncReport) (source destination : Text)
    (verification : CoreError) : CoreError :=
  .verifiedMoveOutcomeUnknown source destination (directorySyncStatus report.destination)
    report.sourceStatus verification

/-- The error for a move that was not begun. -/
def intoContentPrepublicationSyncFailed (report : MoveSyncReport) (source destination : Text)
    (cause : CoreError) : CoreError :=
  .moveContentPrepublicationSyncFailed source destination
    (directorySyncStatus report.destination) report.sourceStatus cause

end MoveSyncReport

section Steps

variable (u : Unicode) (blake3 : Blake3) (faults : Faults)

/-- The flushes of the two parents. -/
def syncParents (sameParent : Bool) : VaultProgram MoveSyncReport := do
  let destination ← catching (syncDirectory faults)
  if sameParent = true then pure { destination := destination, source := none }
  else do
    let source ← catching (syncDirectory faults)
    pure { destination := destination, source := some source }

/-! ## `atomic_move` -/

/-- `str::strip_prefix` and a slash: a path is below another. -/
def isDescendant (source destination : Text) : Bool :=
  decide (source <+: destination) && decide ((destination.drop source.length).head? = some '/')

/-- The checks of what is to be moved. -/
def requireMovable (source destination : Text) : Node → VaultProgram Unit
  | .symlink => throw .symlinkRejected
  | .special => throw (.invalidMove source destination
      "source must be a regular file or directory")
  | .dir =>
      Program.reject (isDescendant source destination = true)
        (.invalidMove source destination "a directory cannot be moved into its own descendant")
  | .file _ _ => pure ()

/-- What `atomic_move_locked_report` does before the rename. -/
def atomicMoveChecks (source destination : VaultPath u) : VaultProgram (Location × Location) := do
  Program.reject (source.asStr = destination.asStr) (.alreadyExists destination.asStr)
  let sourceParent ← openParentChecked u faults source
  let sourceEntry := entry sourceParent (nameOf source)
  rejectFinalSymlink faults sourceEntry
  let found ← io (symlinkMetadata faults sourceEntry)
  requireMovable source.asStr destination.asStr found
  let destinationParent ← openParentChecked u faults destination
  rejectSiblingCollision u faults destinationParent (nameOf destination) destination.asStr
  pure (sourceEntry, entry destinationParent (nameOf destination))

/-- The rename, and what the syncs have come to. -/
def atomicMoveLockedReport (source destination : VaultPath u) : VaultProgram MoveSyncReport := do
  let (sourceEntry, destinationEntry) ← atomicMoveChecks u faults source destination
  mapError (mapAtomicMoveError source.asStr destination.asStr)
    (change faults (·.renameNoReplace sourceEntry destinationEntry))
  syncParents faults (sameParentPath source destination)

/-- `atomic_move`: rename a file to a name that is free. -/
def atomicMove (source destination : VaultPath u) (intent : WriteIntent) : VaultProgram Unit := do
  lift (validateMutationPolicy source intent)
  lift (validateMutationPolicy destination intent)
  let report ← atomicMoveLockedReport u faults source destination
  lift (report.intoResult source.asStr destination.asStr)

/-! ## `move_content_file_if_revision` -/

/-- The folders are still those that were opened, the file is at the destination, and nothing is at
the source. -/
def verifyContentMoveTopology (source destination : VaultPath u) (expected : FileRevision)
    (expectedSourceParent expectedDestinationParent : Location) : VaultProgram Unit := do
  let destinationParent ← openParentChecked u faults destination
  let sourceParent ← openParentChecked u faults source
  let same ← sameOpenDirectories faults expectedDestinationParent destinationParent
    expectedSourceParent sourceParent
  Program.require (same = true) (.invalidMove source.asStr destination.asStr
    "content parent directory identity changed")
  verifyExpectedFromParent blake3 faults (entry destinationParent (nameOf destination))
    destination.asStr expected maxTrashPayloadBytes
  verifySingleLinkFromParent faults (entry destinationParent (nameOf destination))
    destination.asStr
  verifySourceAbsent faults (entry sourceParent (nameOf source)) source.asStr destination.asStr

/-- `confirm_content_move`: after a flush that failed the parents are flushed once more, as
far as they can be opened. -/
def confirmContentMove (source destination : VaultPath u) (expected : FileRevision)
    (expectedSourceParent expectedDestinationParent : Location) :
    VaultProgram MoveContentOutcome := do
  let sameParent := sameParentPath source destination
  let destinationOpen ← catching (openParent u faults destination)
  let sourceOpen ← catching (openParent u faults source)
  match destinationOpen, sourceOpen with
  | .ok _, .ok _ => do
    let report ← syncParents faults sameParent
    let verification ← catching (verifyContentMoveTopology u blake3 faults source destination
      expected expectedSourceParent expectedDestinationParent)
    match verification with
    | .error cause => throw (report.intoVerifiedUnknown source.asStr destination.asStr cause)
    | .ok () => do
      Program.reject (report.hasFailure = true)
        (report.intoVerifiedUnknown source.asStr destination.asStr .moveDurabilitySyncFailed)
      lift (report.intoResult source.asStr destination.asStr)
      pure .moved
  | .error cause, .ok _ => do
    let synced ← catching (syncDirectory faults)
    let (destinationSync, sourceSync) :=
      if sameParent = true then
        (directorySyncStatus synced, DirectorySyncStatus.sharedWithDestination)
      else (.notAttempted, directorySyncStatus synced)
    throw (.verifiedMoveOutcomeUnknown source.asStr destination.asStr destinationSync sourceSync
      cause)
  | .ok _, .error cause => do
    let synced ← catching (syncDirectory faults)
    throw (.verifiedMoveOutcomeUnknown source.asStr destination.asStr (directorySyncStatus synced)
      (if sameParent = true then .sharedWithDestination else .notAttempted) cause)
  | .error cause, .error _ =>
    throw (.verifiedMoveOutcomeUnknown source.asStr destination.asStr .notAttempted .notAttempted
      cause)

/-- What `move_content_file_if_revision` looks at first: the parents, and which of the two
ends exist. -/
def moveContentChecks (source destination : VaultPath u) (expected : FileRevision) :
    VaultProgram (Location × Location × Bool × Bool) := do
  lift (requireContentPath source)
  lift (requireContentPath destination)
  Program.reject (source.asStr = destination.asStr ∨
      Store.collisionKey source = Store.collisionKey destination)
    (.invalidMove source.asStr destination.asStr
      "content move endpoints must have distinct portable collision keys")
  lift (validateRevision expected)
  Program.reject (maxTrashPayloadBytes < expected.byteLen)
    (.resourceLimitExceeded "move content revision bytes" maxTrashPayloadBytes)
  let destinationParent ← openParent u faults destination
  let sourceParent ← openParent u faults source
  let report ← syncParents faults (sameParentPath source destination)
  Program.reject (report.hasFailure = true)
    (report.intoContentPrepublicationSyncFailed source.asStr destination.asStr
      .moveDurabilitySyncFailed)
  lift (report.intoResult source.asStr destination.asStr)
  let authoritativeDestination ← openParentChecked u faults destination
  let authoritativeSource ← openParentChecked u faults source
  let same ← sameOpenDirectories faults destinationParent authoritativeDestination
    sourceParent authoritativeSource
  Program.require (same = true) (.invalidMove source.asStr destination.asStr
    "content parent directory identity changed")
  rejectSiblingCollision u faults authoritativeSource (nameOf source) source.asStr
  rejectSiblingCollision u faults authoritativeDestination (nameOf destination) destination.asStr
  let sourceExists ← entryExists faults (entry authoritativeSource (nameOf source))
  let destinationExists ← entryExists faults (entry authoritativeDestination (nameOf destination))
  pure (authoritativeSource, authoritativeDestination, sourceExists, destinationExists)

/-- The last look before the rename. -/
def moveContentRecheck (source destination : VaultPath u) (expected : FileRevision)
    (authoritativeSource authoritativeDestination : Location) :
    VaultProgram (Location × Location) := do
  verifyExpectedFromParent blake3 faults (entry authoritativeSource (nameOf source)) source.asStr
    expected maxTrashPayloadBytes
  verifySingleLinkFromParent faults (entry authoritativeSource (nameOf source)) source.asStr
  let latestDestination ← openParentChecked u faults destination
  let latestSource ← openParentChecked u faults source
  let same ← sameOpenDirectories faults authoritativeDestination latestDestination
    authoritativeSource latestSource
  Program.require (same = true) (.invalidMove source.asStr destination.asStr
    "content parent directory identity changed before rename")
  pure (latestSource, latestDestination)

/-- What comes after the rename. -/
def finishContentMove (source destination : VaultPath u) (expected : FileRevision)
    (latestSource latestDestination : Location) : VaultProgram MoveContentOutcome := do
  let report ← syncParents faults (sameParentPath source destination)
  if report.hasFailure = true then
    confirmContentMove u blake3 faults source destination expected latestSource latestDestination
  else do
    let verification ← catching (verifyContentMoveTopology u blake3 faults source destination
      expected latestSource latestDestination)
    match verification with
    | .error cause => throw (report.intoVerifiedUnknown source.asStr destination.asStr cause)
    | .ok () => do
      lift (report.intoResult source.asStr destination.asStr)
      pure .moved

/-- `move_content_file`: the move is made, or taken up where it was left. -/
def moveContentFile (source destination : VaultPath u) (expected : FileRevision) (mode : Mode) :
    VaultProgram MoveContentOutcome := do
  let (authoritativeSource, authoritativeDestination, sourceExists, destinationExists) ←
    moveContentChecks u faults source destination expected
  match sourceExists, destinationExists with
  | true, true => throw (.alreadyExists destination.asStr)
  | false, false => throw (.invalidMove source.asStr destination.asStr
      "source and destination are both absent")
  | false, true => do
    verifyContentMoveTopology u blake3 faults source destination expected authoritativeSource
      authoritativeDestination
    pure .alreadyMoved
  | true, false =>
    match mode with
    | .resume => throw (.invalidMove source.asStr destination.asStr
        "source-only topology is ambiguous during retained move recovery")
    | .fresh => do
      let (latestSource, latestDestination) ← moveContentRecheck u blake3 faults source destination
        expected authoritativeSource authoritativeDestination
      mapError (mapAtomicMoveError source.asStr destination.asStr)
        (change faults (·.renameNoReplace (entry latestSource (nameOf source))
          (entry latestDestination (nameOf destination))))
      finishContentMove u blake3 faults source destination expected latestSource latestDestination

/-! ## `case_rename_content_file_if_revision` -/

/-- Which of the three names exist: source, temporary, destination. -/
structure CaseRenameState where
  source : Bool
  temporary : Bool
  destination : Bool
  deriving DecidableEq

/-- The loop of `case_rename_state`. -/
def caseRenameEntries (source destination temporary : VaultPath u) :
    List FileName → CaseRenameState → VaultProgram CaseRenameState
  | [], state => pure state
  | name :: rest, state => do
    io (tick faults)
    let existing ← the name.toStr .invalidRelativePath
    if existing.toList = nameOf source then
      caseRenameEntries source destination temporary rest { state with source := true }
    else if existing.toList = nameOf temporary then
      caseRenameEntries source destination temporary rest { state with temporary := true }
    else if existing.toList = nameOf destination then
      caseRenameEntries source destination temporary rest { state with destination := true }
    else do
      let key := componentCollisionKey u existing.toList
      Program.reject (key = componentCollisionKey u (nameOf source))
        (.portablePathCollision existing.toList destination.asStr)
      Program.reject (key = componentCollisionKey u (nameOf temporary))
        (.portablePathCollision existing.toList temporary.asStr)
      caseRenameEntries source destination temporary rest state

/-- Which of the three names are there. -/
def caseRenameState (parent : Location) (source destination temporary : VaultPath u) :
    VaultProgram CaseRenameState := do
  let names ← io (readDir faults parent)
  caseRenameEntries u faults source destination temporary names
    { source := false, temporary := false, destination := false }

/-- The file of this name is the one to rename. -/
def verifyCaseRenameEntry (path : Location) (relative : Text) (expected : FileRevision) :
    VaultProgram Unit := do
  verifyExpectedFromParent blake3 faults path relative expected maxTrashPayloadBytes
  verifySingleLinkFromParent faults path relative

/-- The look after a rename of `sync_case_rename_phase`. -/
def verifyCaseRenamePhase (parent : Location) (source destination temporary path : VaultPath u)
    (expected : FileRevision) (expectedState : CaseRenameState) : VaultProgram Unit := do
  let state ← caseRenameState u faults parent source destination temporary
  Program.require (state = expectedState) (.invalidMove source.asStr destination.asStr
    "case rename topology changed after publication")
  verifyCaseRenameEntry blake3 faults (entry parent (nameOf path)) path.asStr expected

/-- The only name that exists after a phase. -/
def phaseEnd (destination temporary : VaultPath u) :
    CaseRenamePhase → VaultPath u × CaseRenameState
  | .sourceToTemporary => (temporary, ⟨false, true, false⟩)
  | .temporaryToDestination => (destination, ⟨false, false, true⟩)

/-- `sync_case_rename_phase`. -/
def syncCaseRenamePhase (parent : Location) (source destination temporary : VaultPath u)
    (expected : FileRevision) (phase : CaseRenamePhase) : VaultProgram Unit := do
  let synced ← catching (syncDirectory faults)
  let verification ← catching (verifyCaseRenamePhase u blake3 faults parent source destination
    temporary (phaseEnd u destination temporary phase).1 expected
    (phaseEnd u destination temporary phase).2)
  match synced, verification with
  | .ok (), .ok () => pure ()
  | synced, .ok () => throw (.caseRenameOutcomeUnknown source.asStr destination.asStr
      temporary.asStr phase (directorySyncStatus synced) .moveDurabilitySyncFailed)
  | synced, .error e => throw (.caseRenameOutcomeUnknown source.asStr destination.asStr
      temporary.asStr phase (directorySyncStatus synced) e)

/-- What `case_rename_content_file_if_revision` looks at first: the parent, and which of the
three names exist. -/
def caseRenameChecks (source destination temporary : VaultPath u) (expected : FileRevision) :
    VaultProgram (Location × CaseRenameState) := do
  lift (validateCaseRenamePaths source destination temporary)
  lift (validateRevision expected)
  Program.reject (maxTrashPayloadBytes < expected.byteLen)
    (.resourceLimitExceeded "case rename revision bytes" maxTrashPayloadBytes)
  let parent ← openParentChecked u faults source
  let destinationParent ← openParentChecked u faults destination
  let temporaryParent ← openParentChecked u faults temporary
  let same ← sameOpenDirectories faults parent destinationParent parent temporaryParent
  Program.require (same = true) (.invalidMove source.asStr destination.asStr
    "case rename parent directory identity changed during preflight")
  mapError (fun kind => .caseRenamePrepublicationSyncFailed source.asStr destination.asStr
    temporary.asStr (.failed kind) (.io kind)) (syncDirectory faults)
  let state ← caseRenameState u faults parent source destination temporary
  pure (parent, state)

/-- The first half: the source becomes the temporary name. -/
def renameToTemporary (parent : Location) (source destination temporary : VaultPath u)
    (expected : FileRevision) : VaultProgram Unit := do
  verifyCaseRenameEntry blake3 faults (entry parent (nameOf source)) source.asStr expected
  let latest ← openParentChecked u faults source
  let same ← sameOpenDirectory faults parent latest
  Program.require (same = true) (.invalidMove source.asStr destination.asStr
    "case rename parent directory identity changed before source-to-temporary rename")
  mapError (mapAtomicMoveError source.asStr temporary.asStr)
    (change faults (·.renameNoReplace (entry latest (nameOf source))
      (entry latest (nameOf temporary))))
  syncCaseRenamePhase u blake3 faults latest source destination temporary expected
    .sourceToTemporary

/-- The second half up to its rename: the temporary name becomes the destination. -/
def renameToDestination (parent : Location) (source destination temporary : VaultPath u) :
    VaultProgram Location := do
  let latest ← openParentChecked u faults destination
  let same ← sameOpenDirectory faults parent latest
  Program.require (same = true) (.invalidMove source.asStr destination.asStr
    "case rename parent directory identity changed before temporary-to-destination rename")
  mapError (mapAtomicMoveError temporary.asStr destination.asStr)
    (change faults (·.renameNoReplace (entry latest (nameOf temporary))
      (entry latest (nameOf destination))))
  pure latest

/-- `case_rename_content_file`: the rename is made in two steps, or taken up where it was left. -/
def caseRenameContentFile (source destination temporary : VaultPath u) (expected : FileRevision)
    (mode : Mode) : VaultProgram CaseRenameOutcome := do
  let (parent, state) ← caseRenameChecks u faults source destination temporary expected
  match state, mode with
  | ⟨false, false, true⟩, _ => do
    verifyCaseRenameEntry blake3 faults (entry parent (nameOf destination)) destination.asStr
      expected
    pure .alreadyRenamed
  | ⟨true, false, false⟩, .resume => throw (.invalidMove source.asStr destination.asStr
      "source-only topology is ambiguous during retained case rename recovery")
  | ⟨true, false, false⟩, .fresh => do
    renameToTemporary u blake3 faults parent source destination temporary expected
    let latest ← renameToDestination u faults parent source destination temporary
    syncCaseRenamePhase u blake3 faults latest source destination temporary expected
      .temporaryToDestination
    pure .renamed
  | ⟨false, true, false⟩, .resume => do
    verifyCaseRenameEntry blake3 faults (entry parent (nameOf temporary)) temporary.asStr expected
    let latest ← renameToDestination u faults parent source destination temporary
    syncCaseRenamePhase u blake3 faults latest source destination temporary expected
      .temporaryToDestination
    pure .resumedFromTemporary
  | ⟨false, true, false⟩, .fresh => throw (.invalidMove source.asStr destination.asStr
      "temporary-only topology requires retained case rename recovery")
  | ⟨false, false, false⟩, _ => throw (.invalidMove source.asStr destination.asStr
      "case rename source, temporary, and destination are all absent")
  | _, _ => throw (.invalidMove source.asStr destination.asStr
      "case rename topology contains multiple endpoints")

end Steps

end Stepwise
end Vault
end MyVault
