import MyVault.Core.Identifiers
import MyVault.Snapshots.Publication

/-!
# The transfer store of an Android device

`AndroidTransferStore` of `tauri-plugin-private-root/src/transfer_store.rs`, as processes
whose steps are those of the file system.  A stage is filled by its writer; `publish_base`
copies a verified stage to `{operation_id}.pending`, renames the copy to `{sha256}.blob` and
removes the stage.

The directories of the store are there and are those it holds, so `verify_store` passes and
is left out, and nothing else writes in them.  A file has one link as long as its name is
there, and none after that.
-/

namespace MyVault
namespace PrivateRoot

open Process Check

/-- `MAX_ANDROID_TRANSFER_BYTES`. -/
def maxAndroidTransferBytes : ℕ := 16 * 1024 * 1024

/-! ## The disk -/

/-- `{operation_id}.stage` in `staging`, `{operation_id}.pending` and `{sha256}.blob` in
`objects`. -/
inductive Name where
  | stage (operationId : Uuid)
  | pending (operationId : Uuid)
  | blob (sha256 : String)
  deriving DecidableEq

/-- A file, with the identity a handle knows it by. -/
structure FileNode where
  identity : ℕ
  mode : ℕ
  bytes : List UInt8
  deriving DecidableEq

/-- The private directory. -/
structure Disk where
  files : Name → Option FileNode
  /-- The identity of the next new file. -/
  nextIdentity : ℕ

/-- An empty directory. -/
def Disk.empty : Disk := ⟨fun _ => none, 0⟩

namespace Disk

variable (d : Disk)

/-- The directory with a file under a name, or with none. -/
def withFile (name : Name) (file : Option FileNode) : Disk :=
  { d with files := Function.update d.files name file }

/-- The directory with a new, empty file. -/
def withNew (name : Name) (mode : ℕ) : Disk where
  files := Function.update d.files name (some ⟨d.nextIdentity, mode, []⟩)
  nextIdentity := d.nextIdentity + 1

theorem files_withFile (name : Name) (file : Option FileNode) (name' : Name) :
    (d.withFile name file).files name' = if name' = name then file else d.files name' :=
  Function.update_apply ..

theorem files_withNew (name : Name) (mode : ℕ) (name' : Name) :
    (d.withNew name mode).files name' =
      if name' = name then some ⟨d.nextIdentity, mode, []⟩ else d.files name' :=
  Function.update_apply ..

@[simp] theorem files_withFile_self (name : Name) (file : Option FileNode) :
    (d.withFile name file).files name = file := Function.update_self ..

@[simp] theorem files_withNew_self (name : Name) (mode : ℕ) :
    (d.withNew name mode).files name = some ⟨d.nextIdentity, mode, []⟩ := Function.update_self ..

theorem files_withFile_of_ne {name name' : Name} (file : Option FileNode) (h : name' ≠ name) :
    (d.withFile name file).files name' = d.files name' := Function.update_of_ne h ..

theorem files_withNew_of_ne {name name' : Name} (mode : ℕ) (h : name' ≠ name) :
    (d.withNew name mode).files name' = d.files name' := Function.update_of_ne h ..

end Disk

/-! ## Steps -/

/-- The errors of the file system that the source tells apart. -/
inductive IoError where
  | alreadyExists
  | notFound
  deriving DecidableEq, Repr

/-- The errors of the store. -/
inductive TransferStoreError where
  | invalidOperationId
  | invalidDigest
  | resourceLimit
  | stageCollision
  | stageUnavailable
  | digestMismatch
  | evidencePreserved
  | evidenceAmbiguous
  | io (kind : IoError)
  | privateStorage
  deriving DecidableEq, Repr

/-- The places where the source syncs. -/
inductive DurabilityPoint where
  | beginStageFile
  | beginStageDirectory
  | finishStageFile
  | finishStageDirectory
  | discardStageDirectory
  | baseCopyFile
  | baseCopyDirectory
  | basePublishDirectory
  | baseVerifiedFile
  | baseVerifiedDirectory
  | baseCleanupDirectory
  deriving DecidableEq, Repr

/-- What a call asks of the file system. -/
inductive Step where
  /-- `create_new(true)`. -/
  | createNew (name : Name)
  /-- `harden_new_file`. -/
  | harden (name : Name)
  /-- One more byte of `write_all`. -/
  | write (name : Name) (byte : UInt8)
  /-- `remove_file`. -/
  | remove (name : Name)
  /-- `rename_noreplace`. -/
  | rename (source destination : Name)
  /-- `sync_file` and `sync_directory`. -/
  | sync (point : DurabilityPoint)
  deriving DecidableEq

/-- The answer of a step and what it leaves.  A handle that is written to is one of a file
that was just created, and stands for its name. -/
def Step.run (umask : ℕ) : Step → Disk → Except TransferStoreError Unit × Disk
  | .createNew name, d =>
      if (d.files name).isSome then (.error (.io .alreadyExists), d)
      else (.ok (), d.withNew name (Snapshots.fileMode umask))
  | .harden name, d =>
      (.ok (), d.withFile name ((d.files name).map fun f => { f with mode := 0o600 }))
  | .write name byte, d =>
      (.ok (), d.withFile name ((d.files name).map fun f => { f with bytes := f.bytes ++ [byte] }))
  | .remove name, d =>
      if (d.files name).isSome then (.ok (), d.withFile name none)
      else (.error (.io .notFound), d)
  | .rename source destination, d =>
      match d.files source with
      | none => (.error (.io .notFound), d)
      | some file =>
          if (d.files destination).isSome then (.error (.io .alreadyExists), d)
          else (.ok (), (d.withFile destination (some file)).withFile source none)
  | .sync _, d => (.ok (), d)

/-- A process on the disk. -/
abbrev Proc (α : Type) := Process Step (Except TransferStoreError Unit) Disk TransferStoreError α

/-- `create_new` with an error of its own for a name that is taken. -/
def orCollision (collision : TransferStoreError) :
    Except TransferStoreError Unit → Except TransferStoreError Unit
  | .error (.io .alreadyExists) => .error collision
  | answer => answer

/-! ## Looks -/

/-- `AndroidStageWriter`, with the bytes its digest has seen. -/
structure AndroidStageWriter where
  identity : ℕ
  operationId : Uuid
  digest : List UInt8
  written : ℕ
  deriving DecidableEq

/-- A stage whose content was verified, and the identity of its file. -/
structure VerifiedAndroidStage where
  identity : ℕ
  operationId : Uuid
  sha256 : String
  byteLen : ℕ
  deriving DecidableEq

/-- The name and the length of a published base. -/
structure NativeBaseObjectRef where
  opaqueRef : String
  byteLen : ℕ
  deriving DecidableEq

/-- The mode of the file is that of a private one. -/
def FileNode.isPrivate (file : FileNode) : Bool := Snapshots.isPrivateFileMode file.mode

/-- `verify_file` of a file that still has its name. -/
def verifyFile (file : FileNode) : Except TransferStoreError Unit :=
  reject (file.isPrivate = false) .privateStorage

/-- The file of a name. -/
def openFileUnverified (d : Disk) (name : Name) : Except TransferStoreError FileNode :=
  match d.files name with
  | some file => .ok file
  | none => .error .stageUnavailable

/-- The file of a name, if it is private. -/
def openFile (d : Disk) (name : Name) : Except TransferStoreError FileNode := do
  let file ← openFileUnverified d name
  verifyFile file
  pure file

/-- `verify_file` of a handle: the file it was opened for has its name still. -/
def heldFile (d : Disk) (name : Name) (identity : ℕ) : Except TransferStoreError FileNode :=
  match d.files name with
  | some file =>
      if file.identity = identity then do
        verifyFile file
        pure file
      else .error .privateStorage
  | none => .error .privateStorage

/-- The content of the file, if it has the expected length. -/
def readExactBounded (file : FileNode) (expectedByteLen : ℕ) :
    Except TransferStoreError (List UInt8) := do
  reject (maxAndroidTransferBytes < expectedByteLen) .resourceLimit
  let bytes := file.bytes.take (maxAndroidTransferBytes + 1)
  reject (bytes.length ≠ expectedByteLen) .digestMismatch
  pure bytes

/-- The expected digest is well formed and the length within the bound. -/
def validateExpected (expectedSha256 : String) (expectedByteLen : ℕ) :
    Except TransferStoreError Unit := do
  reject (maxAndroidTransferBytes < expectedByteLen) .resourceLimit
  reject (isLowerHex64 expectedSha256 = false) .invalidDigest

/-- The stage is still the file that was verified. -/
def verifyStage (d : Disk) (stage : VerifiedAndroidStage) : Except TransferStoreError Unit := do
  reject (stage.operationId.isNil = true ∨ maxAndroidTransferBytes < stage.byteLen)
    .evidenceAmbiguous
  let _ ← heldFile d (.stage stage.operationId) stage.identity
  let current ← openFile d (.stage stage.operationId)
  reject (current.identity ≠ stage.identity ∨ current.bytes.length ≠ stage.byteLen)
    .evidenceAmbiguous

section Calls

variable (sha256 : Sha256)

/-- The content of the stage, verified once more. -/
def readVerifiedStage (d : Disk) (stage : VerifiedAndroidStage) :
    Except TransferStoreError (List UInt8) := do
  verifyStage d stage
  let file ← heldFile d (.stage stage.operationId) stage.identity
  let bytes ← readExactBounded file stage.byteLen
  reject (hexSha256 sha256 bytes ≠ stage.sha256) .digestMismatch
  verifyStage d stage
  pure bytes

/-- The file is private and holds the bytes of the stage. -/
def verifyExactBase (file : FileNode) (bytes : List UInt8) (stage : VerifiedAndroidStage) :
    Except TransferStoreError Unit := do
  verifyFile file
  let readback ← readExactBounded file stage.byteLen
  reject (readback ≠ bytes ∨ hexSha256 sha256 readback ≠ stage.sha256) .digestMismatch

/-! ## Stages -/

/-- Create the file of a stage. -/
def beginStage (operationId : Uuid) : Proc AndroidStageWriter := do
  lift (reject (operationId.isNil = true) .invalidOperationId)
  let created ← perform (.createNew (.stage operationId))
  lift (orCollision .stageCollision created)
  io (.harden (.stage operationId))
  let file ← ask fun d => openFile d (.stage operationId)
  io (.sync .beginStageFile)
  io (.sync .beginStageDirectory)
  pure ⟨file.identity, operationId, [], 0⟩

/-- Sync and verify a stage that is written. -/
def finishStage (writer : AndroidStageWriter) (expectedSha256 : String) (expectedByteLen : ℕ) :
    Proc VerifiedAndroidStage := do
  lift (validateExpected expectedSha256 expectedByteLen)
  io (.sync .finishStageFile)
  let stage ← ask fun d => do
    let file ← heldFile d (.stage writer.operationId) writer.identity
    reject (file.bytes.length ≠ expectedByteLen ∨ writer.written ≠ expectedByteLen ∨
      hexSha256 sha256 writer.digest ≠ expectedSha256) .digestMismatch
    let stage := ⟨writer.identity, writer.operationId, expectedSha256, expectedByteLen⟩
    let _ ← readVerifiedStage sha256 d stage
    pure stage
  io (.sync .finishStageDirectory)
  pure stage

/-- A stage that an earlier call has finished. -/
def loadVerifiedStage (operationId : Uuid) (expectedSha256 : String) (expectedByteLen : ℕ) :
    Proc VerifiedAndroidStage := do
  lift (reject (operationId.isNil = true) .invalidOperationId)
  lift (validateExpected expectedSha256 expectedByteLen)
  ask fun d => do
    let file ← openFileUnverified d (.stage operationId)
    let stage := ⟨file.identity, operationId, expectedSha256, expectedByteLen⟩
    let _ ← readVerifiedStage sha256 d stage
    pure stage

/-- Remove a stage, if it is not the evidence. -/
def discardIncompleteStage (operationId : Uuid) (expectedSha256 : String)
    (expectedByteLen : ℕ) : Proc Unit := do
  lift (reject (operationId.isNil = true) .invalidOperationId)
  lift (validateExpected expectedSha256 expectedByteLen)
  ask look
  io (.remove (.stage operationId))
  io (.sync .discardStageDirectory)
where
  look (d : Disk) : Except TransferStoreError Unit := do
    let held ← openFile d (.stage operationId)
    reject (expectedByteLen ≤ held.bytes.length ∨ maxAndroidTransferBytes < held.bytes.length)
      .evidencePreserved
    let current ← openFile d (.stage operationId)
    reject (current.identity ≠ held.identity) .evidenceAmbiguous

/-! ## Base objects -/

/-- What stands under the temporary name of an operation. -/
inductive PendingCopy where
  | absent
  | exact (identity : ℕ)
  /-- Less than the whole, as a call leaves it that was cut off. -/
  | short (identity : ℕ)
  deriving DecidableEq, Repr

/-- The first looks of `prepare_base_copy` and of `cleanup_recoverable_pending`. -/
def inspectPending (d : Disk) (bytes : List UInt8) (stage : VerifiedAndroidStage) :
    Except TransferStoreError PendingCopy :=
  match openFile d (.pending stage.operationId) with
  | .ok pending =>
      match verifyExactBase sha256 pending bytes stage with
      | .ok () => .ok (.exact pending.identity)
      | .error .digestMismatch =>
          if pending.bytes.length < stage.byteLen then .ok (.short pending.identity)
          else .error .digestMismatch
      | .error e => .error e
  | .error .stageUnavailable => .ok .absent
  | .error e => .error e

/-- Remove a pending copy, if it is still the one that was inspected. -/
def removeExactPending (operationId : Uuid) (identity : ℕ) : Proc Unit := do
  ask fun d => do
    let current ← openFile d (.pending operationId)
    reject (current.identity ≠ identity) .evidenceAmbiguous
  io (.remove (.pending operationId))
  io (.sync .baseCopyDirectory)

/-- Remove a pending copy that may be removed. -/
def cleanupPending (operationId : Uuid) : PendingCopy → Proc Unit
  | .absent => pure ()
  | .exact identity | .short identity => removeExactPending operationId identity

/-- Inspect the pending copy of a stage, and remove it. -/
def cleanupRecoverablePending (bytes : List UInt8) (stage : VerifiedAndroidStage) :
    Proc Unit := do
  let pending ← ask fun d => inspectPending sha256 d bytes stage
  cleanupPending stage.operationId pending

/-- Write the bytes, one after the other. -/
def writeAll (name : Name) : List UInt8 → Proc Unit
  | [] => pure ()
  | byte :: rest => do
    io (.write name byte)
    writeAll name rest

/-- The second half of `prepare_base_copy`: a new copy. -/
def writeBaseCopy (bytes : List UInt8) (stage : VerifiedAndroidStage) : Proc ℕ := do
  let created ← perform (.createNew (.pending stage.operationId))
  lift (orCollision .evidenceAmbiguous created)
  io (.harden (.pending stage.operationId))
  let temporary ← ask fun d => openFile d (.pending stage.operationId)
  writeAll (.pending stage.operationId) bytes
  io (.sync .baseCopyFile)
  ask fun d => do
    let file ← heldFile d (.pending stage.operationId) temporary.identity
    verifyExactBase sha256 file bytes stage
  io (.sync .baseCopyDirectory)
  pure temporary.identity

/-- The pending copy of the stage: written anew, or taken over from an earlier call. -/
def prepareFrom (bytes : List UInt8) (stage : VerifiedAndroidStage) : PendingCopy → Proc ℕ
  | .absent => writeBaseCopy sha256 bytes stage
  | .exact identity => do
      io (.sync .baseCopyFile)
      io (.sync .baseCopyDirectory)
      pure identity
  | .short identity => do
      removeExactPending stage.operationId identity
      writeBaseCopy sha256 bytes stage

/-- Inspect the pending copy of a stage, and make it the exact one. -/
def prepareBaseCopy (bytes : List UInt8) (stage : VerifiedAndroidStage) : Proc ℕ := do
  let pending ← ask fun d => inspectPending sha256 d bytes stage
  prepareFrom sha256 bytes stage pending

/-- What `publish_base` makes of the answer to its rename. -/
def afterRename (bytes : List UInt8) (stage : VerifiedAndroidStage) (temporary : ℕ) :
    Except TransferStoreError Unit → Proc (Option ℕ)
  | .ok () => pure (some temporary)
  | .error (.io .alreadyExists) => do
      ask fun d => do
        let raced ← openFile d (.blob stage.sha256)
        verifyExactBase sha256 raced bytes stage
      removeExactPending stage.operationId temporary
      pure none
  | .error e => fail e

/-- The object is not there: a copy is made and renamed. -/
def publishCopy (bytes : List UInt8) (stage : VerifiedAndroidStage) : Proc ℕ := do
  let temporary ← prepareBaseCopy sha256 bytes stage
  ask fun d => do
    let again ← readVerifiedStage sha256 d stage
    reject (again ≠ bytes) .evidenceAmbiguous
    let current ← openFile d (.pending stage.operationId)
    reject (current.identity ≠ temporary) .evidenceAmbiguous
    verifyExactBase sha256 current bytes stage
    reject (current.bytes.length ≠ stage.byteLen) .evidenceAmbiguous
  let renamed ← perform (.rename (.pending stage.operationId) (.blob stage.sha256))
  let identity ← afterRename sha256 bytes stage temporary renamed
  io (.sync .basePublishDirectory)
  ask fun d => do
    let published ← openFile d (.blob stage.sha256)
    reject (identity.any (fun identity => published.identity ≠ identity) = true)
      .evidenceAmbiguous
    pure published.identity

/-- The object, if it is there. -/
def openBase (d : Disk) (bytes : List UInt8) (stage : VerifiedAndroidStage) :
    Except TransferStoreError (Option ℕ) :=
  match openFile d (.blob stage.sha256) with
  | .ok existing => do
      verifyExactBase sha256 existing bytes stage
      pure (some existing.identity)
  | .error .stageUnavailable => .ok none
  | .error e => .error e

/-- The base that is there already, or the copy of the stage. -/
def baseFrom (bytes : List UInt8) (stage : VerifiedAndroidStage) : Option ℕ → Proc ℕ
  | some identity => do
      cleanupRecoverablePending sha256 bytes stage
      pure identity
  | none => publishCopy sha256 bytes stage

/-- The end of `publish_base`: the object is there, and the stage goes. -/
def settleBase (bytes : List UInt8) (stage : VerifiedAndroidStage) (identity : ℕ) :
    Proc NativeBaseObjectRef := do
  ask heldBase
  io (.sync .baseVerifiedFile)
  ask heldBase
  io (.sync .baseVerifiedDirectory)
  ask fun d => do
    let currentBase ← openFile d (.blob stage.sha256)
    reject (currentBase.identity ≠ identity) .evidenceAmbiguous
    verifyExactBase sha256 currentBase bytes stage
    let currentStage ← openFile d (.stage stage.operationId)
    reject (currentStage.identity ≠ stage.identity) .evidenceAmbiguous
  io (.remove (.stage stage.operationId))
  io (.sync .baseCleanupDirectory)
  ask fun d => do
    let existing ← openFile d (.blob stage.sha256)
    verifyExactBase sha256 existing bytes stage
  pure ⟨"sha256-" ++ stage.sha256, stage.byteLen⟩
where
  heldBase (d : Disk) : Except TransferStoreError Unit := do
    let existing ← heldFile d (.blob stage.sha256) identity
    verifyExactBase sha256 existing bytes stage

/-- Publish the base of a stage. -/
def publishBase (stage : VerifiedAndroidStage) : Proc NativeBaseObjectRef := do
  let bytes ← ask fun d => readVerifiedStage sha256 d stage
  let existing ← ask fun d => openBase sha256 d bytes stage
  let identity ← baseFrom sha256 bytes stage existing
  settleBase sha256 bytes stage identity

end Calls

end PrivateRoot
end MyVault
