import MyVault.Library.Interleaving
import MyVault.Library.Table
import MyVault.Snapshots.Publication
import MyVault.Transfer.Upload

/-!
# The private transfer store of a desktop

`PrivateTransferStore` of `myvault-app-service/src/transfer.rs`, as processes whose steps are
those of the file system, and the part of `execute_download` in
`src-tauri/src/transfer_runtime.rs` that makes its stage.  A stage is published by a hard link:
for a while `staging/{operation_id}.part` and `objects/{sha256}.blob` are one file with two
links, and how many links a file has is what the later calls go by.

The directories of the store are those it holds, so `verify_root` passes and is left out, and
nothing else writes in them.  A handle is the number of a file; a file that is not being
written to is read in one look.
-/

namespace MyVault
namespace PrivateTransferStore

open Process Check Transfer Vault.Stepwise

/-! ## The disk -/

/-- A file of the store. -/
structure FileNode where
  mode : ℕ
  bytes : List UInt8
  deriving DecidableEq

/-- The mode of the file is that of a private one. -/
def FileNode.isPrivate (node : FileNode) : Bool := Snapshots.isPrivateFileMode node.mode

/-- The directories of the store. -/
structure Disk where
  /-- `{operation_id}.part`, and the number of its file. -/
  staging : Table (Prod.fst : Uuid × ℕ → Uuid)
  /-- `{sha256}.blob`, and the number of its file. -/
  objects : Table (Prod.fst : String × ℕ → String)
  /-- The files, by their numbers. -/
  nodes : List FileNode

namespace Disk

/-- Nothing is there. -/
def empty : Disk := ⟨.empty, .empty, []⟩

variable (d : Disk)

/-- The file of a stage. -/
def stage (operationId : Uuid) : Option ℕ := (d.staging.lookup operationId).map Prod.snd

/-- The file of an object. -/
def object (sha256 : String) : Option ℕ := (d.objects.lookup sha256).map Prod.snd

/-- How many names a file has. -/
def links (handle : ℕ) : ℕ :=
  (d.staging.rows.map Prod.snd).count handle + (d.objects.rows.map Prod.snd).count handle

/-- A new file in `staging`. -/
def withStage (operationId : Uuid) (mode : ℕ) : Disk where
  staging := d.staging.put (operationId, d.nodes.length)
  objects := d.objects
  nodes := d.nodes ++ [⟨mode, []⟩]

/-- The disk without a stage. -/
def withoutStage (operationId : Uuid) : Disk :=
  { d with staging := d.staging.delete fun row => decide (row.1 = operationId) }

/-- The disk with an object. -/
def withObject (sha256 : String) (handle : ℕ) : Disk :=
  { d with objects := d.objects.put (sha256, handle) }

/-- The disk with a file changed. -/
def modify (handle : ℕ) (f : FileNode → FileNode) : Disk :=
  { d with nodes := d.nodes.modify handle f }

variable (operationId operationId' : Uuid) (sha256 sha256' : String) (handle mode : ℕ)

theorem stage_withStage : (d.withStage operationId mode).stage operationId' =
    if operationId = operationId' then some d.nodes.length else d.stage operationId' := by
  rw [stage, withStage, Table.lookup_put, apply_ite (Option.map Prod.snd)]
  rfl

theorem stage_withoutStage : (d.withoutStage operationId).stage operationId' =
    if operationId = operationId' then none else d.stage operationId' := by
  rw [stage, withoutStage, Table.lookup_delete, stage]
  cases hlookup : d.staging.lookup operationId' with
  | none => simp
  | some row =>
      obtain ⟨-, hkey⟩ := Table.lookup_eq_some_iff.mp hlookup
      rw [Option.filter_some, hkey]
      by_cases hop : operationId' = operationId
      · simp [hop]
      · simp [hop, Ne.symm hop]

theorem object_withObject : (d.withObject sha256 handle).object sha256' =
    if sha256 = sha256' then some handle else d.object sha256' := by
  rw [object, withObject, Table.lookup_put, apply_ite (Option.map Prod.snd)]
  rfl

@[simp] theorem object_withoutStage :
    (d.withoutStage operationId).object sha256 = d.object sha256 := rfl

@[simp] theorem stage_modify (f : FileNode → FileNode) :
    (d.modify handle f).stage operationId = d.stage operationId := rfl

theorem nodes_modify_of_ne {other : ℕ} (f : FileNode → FileNode) (hne : handle ≠ other) :
    (d.modify handle f).nodes[other]? = d.nodes[other]? := by
  rw [modify, List.getElem?_modify_ne _ _ hne]

theorem nodes_modify_self (f : FileNode → FileNode) :
    (d.modify handle f).nodes[handle]? = d.nodes[handle]?.map f := by
  rw [modify, List.getElem?_modify_eq]
  rfl

theorem nodes_withStage_of_lt {other : ℕ} (hlt : other < d.nodes.length) :
    (d.withStage operationId mode).nodes[other]? = d.nodes[other]? :=
  List.getElem?_append_left hlt

theorem nodes_withStage_self :
    (d.withStage operationId mode).nodes[d.nodes.length]? = some ⟨mode, []⟩ :=
  List.getElem?_concat_length

end Disk

/-! ## Steps -/

/-- The errors of the file system that the source tells apart. -/
inductive IoKind where
  | alreadyExists
  | notFound
  | other
  deriving DecidableEq, Repr

/-- What a call asks of the file system. -/
inductive Step where
  /-- `create_new(true)` of a stage. -/
  | createStage (operationId : Uuid)
  /-- `set_private_file_permissions`. -/
  | harden (handle : ℕ)
  /-- One more byte of `write_all`. -/
  | write (handle : ℕ) (byte : UInt8)
  | syncFile (handle : ℕ)
  | syncStaging
  | syncObjects
  /-- `hard_link` of a stage to the name of an object. -/
  | hardLink (operationId : Uuid) (sha256 : String)
  /-- `remove_file` of a stage. -/
  | removeStage (operationId : Uuid)
  deriving DecidableEq

/-- The answer of a step that does not fail, and what it leaves. -/
def Step.run (umask : ℕ) : Step → Disk → Except IoKind Unit × Disk
  | .createStage operationId, d =>
      if (d.stage operationId).isSome then (.error .alreadyExists, d)
      else (.ok (), d.withStage operationId (Snapshots.fileMode umask))
  | .harden handle, d => (.ok (), d.modify handle fun node => { node with mode := 0o600 })
  | .write handle byte, d =>
      (.ok (), d.modify handle fun node => { node with bytes := node.bytes ++ [byte] })
  | .syncFile _, d => (.ok (), d)
  | .syncStaging, d => (.ok (), d)
  | .syncObjects, d => (.ok (), d)
  | .hardLink operationId sha256, d =>
      match d.stage operationId with
      | none => (.error .notFound, d)
      | some handle =>
          if (d.object sha256).isSome then (.error .alreadyExists, d)
          else (.ok (), d.withObject sha256 handle)
  | .removeStage operationId, d =>
      if (d.stage operationId).isSome then (.ok (), d.withoutStage operationId)
      else (.error .notFound, d)

/-- A process on the disk. -/
abbrev Proc (α : Type) := Process Step (Except IoKind Unit) Disk NativeTransferError α

/-- A step, and what becomes of its error. -/
def call (st : Step) (orElse : IoKind → NativeTransferError) : Proc Unit := do
  let answer ← perform st
  lift (answer.mapError orElse)

/-- `map_private_error`. -/
def mapPrivateError (_ : IoKind) : NativeTransferError := .privateStoreUnavailable

/-! ## Looks -/

/-- The name and the length of a published base. -/
structure TransferBaseRef where
  sha256 : String
  byteLen : ℕ
  deriving DecidableEq

/-- `TransferStageWriter`.  There is one store, so the identities it keeps are the store's. -/
structure TransferStageWriter where
  handle : ℕ
  operationId : Uuid
  written : ℕ
  maxBytes : ℕ
  deriving DecidableEq

/-- The file of a handle. -/
def held (d : Disk) (handle : ℕ) : Except NativeTransferError FileNode :=
  match d.nodes[handle]? with
  | some node => .ok node
  | none => .error .privateStoreUnavailable

/-- `verify_private_file`. -/
def verifyPrivateFile (d : Disk) (handle maxLinks : ℕ) : Except NativeTransferError Unit := do
  let node ← held d handle
  reject (node.isPrivate = false) .privateStoreUnavailable
  reject (¬ (1 ≤ d.links handle ∧ d.links handle ≤ maxLinks)) .privateStoreUnavailable

/-- The file of a name, or this error if there is none. -/
def named (found : Option ℕ) (missing : NativeTransferError) : Except NativeTransferError ℕ :=
  match found with
  | some handle => .ok handle
  | none => .error missing

/-- `open_stage`. -/
def openStage (operationId : Uuid) (maxLinks : ℕ) : Proc ℕ := do
  let handle ← ask fun d => named (d.stage operationId) .stageUnavailable
  ask fun d => verifyPrivateFile d handle maxLinks
  pure handle

/-- `open_private_file` of an object. -/
def openObject (sha256 : String) (maxLinks : ℕ) : Proc ℕ := do
  let handle ← ask fun d => named (d.object sha256) .privateStoreUnavailable
  ask fun d => verifyPrivateFile d handle maxLinks
  pure handle

section Calls

variable (sha256 : Sha256) (blake3 : Blake3)

/-- `stream_content_snapshot` of a whole file. -/
def fileSnapshot (d : Disk) (handle maxBytes : ℕ) : Except NativeTransferError ContentSnapshot := do
  let node ← held d handle
  reject (maxBytes < node.bytes.length) .resourceLimit
  pure (.of sha256 blake3 node.bytes)

/-- The file is still what it was. -/
def verifyFileSnapshot (d : Disk) (handle : ℕ) (expected : ContentSnapshot) (maxBytes : ℕ) :
    Except NativeTransferError Unit := do
  let actual ← fileSnapshot sha256 blake3 d handle maxBytes
  reject (actual ≠ expected) .digestMismatch

/-! ## Stages -/

/-- `load_stage`: the stage of an operation, if it is the evidence. -/
def loadStage (operationId : Uuid) (expectedSha256 : String) (expectedByteLen maxBytes : ℕ) :
    Proc TransferStageRef := do
  lift (reject (operationId.isNil = true ∨ maxBytes < expectedByteLen) .invalidRequest)
  let file ← openStage operationId 2
  let snapshot ← ask fun d => fileSnapshot sha256 blake3 d file maxBytes
  lift (reject (snapshot.sha256 ≠ expectedSha256 ∨ snapshot.revision.byteLen ≠ expectedByteLen)
    .digestMismatch)
  pure ⟨operationId, snapshot⟩

/-- `begin_stage`: create the file of a stage. -/
def beginStage (operationId : Uuid) (maxBytes : ℕ) : Proc TransferStageWriter := do
  lift (reject (operationId.isNil = true) .invalidRequest)
  call (.createStage operationId) fun
    | .alreadyExists => .stageAlreadyExists
    | _ => .privateStoreUnavailable
  let file ← ask fun d => named (d.stage operationId) .privateStoreUnavailable
  call (.harden file) mapPrivateError
  ask fun d => verifyPrivateFile d file 1
  call (.syncFile file) mapPrivateError
  call .syncStaging mapPrivateError
  pure ⟨file, operationId, 0, maxBytes⟩

/-- Write the bytes, one after the other. -/
def writeBytes (handle : ℕ) : List UInt8 → Proc Unit
  | [] => pure ()
  | byte :: rest => do
    call (.write handle byte) fun _ => .stageUnavailable
    writeBytes handle rest

/-- `write_all` of these buffers, one after the other. -/
def TransferStageWriter.writeAll (writer : TransferStageWriter) :
    List (List UInt8) → Proc TransferStageWriter
  | [] => pure writer
  | buffer :: rest => do
    lift (reject (writer.maxBytes < writer.written + buffer.length) .stageUnavailable)
    writeBytes writer.handle buffer
    TransferStageWriter.writeAll { writer with written := writer.written + buffer.length } rest

/-- `finish_stage`: sync and verify a stage that is written. -/
def finishStage (writer : TransferStageWriter) (expectedSha256 : String)
    (expectedByteLen maxBytes : ℕ) : Proc TransferStageRef := do
  lift (reject (writer.written ≠ expectedByteLen ∨ maxBytes < writer.written) .digestMismatch)
  call (.syncFile writer.handle) mapPrivateError
  ask fun d => verifyPrivateFile d writer.handle 1
  call .syncStaging mapPrivateError
  loadStage sha256 blake3 writer.operationId expectedSha256 expectedByteLen maxBytes

/-- `remove_private_file_if_identity` of a stage. -/
def removeStageIfIdentity (operationId : Uuid) (file : ℕ) : Proc Unit := do
  let current ← openStage operationId 1
  ask fun d => verifyPrivateFile d file 1
  ask fun d => verifyPrivateFile d current 1
  lift (reject (current ≠ file) .privateStoreUnavailable)
  call (.removeStage operationId) fun
    | .notFound => .stageUnavailable
    | _ => .privateStoreUnavailable

/-- `discard_incomplete_stage`: remove a stage, if it is not the evidence. -/
def discardIncompleteStage (operationId : Uuid) (expectedSha256 : String)
    (expectedByteLen maxBytes : ℕ) : Proc Unit := do
  lift (reject (operationId.isNil = true ∨ maxBytes < expectedByteLen) .invalidRequest)
  let file ← openStage operationId 1
  ask fun d => verifyPrivateFile d file 1
  let snapshot ← ask fun d => fileSnapshot sha256 blake3 d file maxBytes
  lift (reject (snapshot.sha256 = expectedSha256 ∧ snapshot.revision.byteLen = expectedByteLen)
    .stageAlreadyExists)
  lift (reject (expectedByteLen ≤ snapshot.revision.byteLen) .digestMismatch)
  removeStageIfIdentity operationId file
  call .syncStaging mapPrivateError

/-- Open a stage that is still what it was. -/
def openVerifiedStage (stage : TransferStageRef) (maxBytes : ℕ) : Proc ℕ := do
  let verified ← loadStage sha256 blake3 stage.operationId stage.snapshot.sha256
    stage.snapshot.revision.byteLen maxBytes
  lift (reject (verified ≠ stage) .digestMismatch)
  openStage stage.operationId 2

/-! ## Objects -/

/-- `publish_base`, once the object is there and open. -/
def removePublishedStage (stage : TransferStageRef) (maxBytes stageFile object : ℕ) :
    Proc TransferBaseRef := do
  ask fun d => verifyFileSnapshot sha256 blake3 d object stage.snapshot maxBytes
  let current ← openStage stage.operationId 2
  lift (reject (current ≠ stageFile) .publicationUnknown)
  call (.removeStage stage.operationId) fun _ => .publicationUnknown
  call .syncStaging mapPrivateError
  let object ← openObject stage.snapshot.sha256 1
  ask fun d => verifyFileSnapshot sha256 blake3 d object stage.snapshot maxBytes
  pure ⟨stage.snapshot.sha256, stage.snapshot.revision.byteLen⟩

/-- `publish_base`, where `again` is its call of itself after the name was taken in between. -/
def publishBaseOr (stage : TransferStageRef) (maxBytes : ℕ) (again : Proc TransferBaseRef) :
    Proc TransferBaseRef := do
  let stageFile ← openVerifiedStage sha256 blake3 stage maxBytes
  let found ← ask fun d => .ok (d.object stage.snapshot.sha256)
  match found with
  | some object => do
      ask fun d => verifyPrivateFile d object 2
      let stageLinks ← ask fun d => .ok (d.links stageFile)
      lift (reject (1 < stageLinks ∧ stageFile ≠ object) .publicationUnknown)
      removePublishedStage sha256 blake3 stage maxBytes stageFile object
  | none => do
      ask fun d => verifyPrivateFile d stageFile 1
      let linked ← perform (.hardLink stage.operationId stage.snapshot.sha256)
      match linked with
      | .ok () => do
          call .syncObjects mapPrivateError
          let object ← openObject stage.snapshot.sha256 2
          lift (reject (stageFile ≠ object) .publicationUnknown)
          removePublishedStage sha256 blake3 stage maxBytes stageFile object
      | .error .alreadyExists => again
      | .error _ => fail .publicationUnknown

/-- `publish_base`, which calls itself at most so many times. -/
def publishBase (stage : TransferStageRef) (maxBytes : ℕ) : ℕ → Proc TransferBaseRef
  | 0 => publishBaseOr sha256 blake3 stage maxBytes (fail .publicationUnknown)
  | turns + 1 => publishBaseOr sha256 blake3 stage maxBytes (publishBase stage maxBytes turns)

/-- `open_base`, and what is read through the handle. -/
def openBase (d : Disk) (base : TransferBaseRef) (maxBytes : ℕ) :
    Except NativeTransferError (List UInt8) := do
  let file ← named (d.object base.sha256) .privateStoreUnavailable
  verifyPrivateFile d file 1
  let snapshot ← fileSnapshot sha256 blake3 d file maxBytes
  reject (snapshot.sha256 ≠ base.sha256 ∨ snapshot.revision.byteLen ≠ base.byteLen) .digestMismatch
  let node ← held d file
  pure node.bytes

/-! ## The stage of an upload -/

/-- What the vault answers in an attempt. -/
structure SourceSide where
  /-- What `stream_transfer_source` writes. -/
  buffers : List (List UInt8)
  /-- The error it comes to in the end. -/
  failure : Option NativeTransferError
  /-- The source, where the stage is there already. -/
  before : Except NativeTransferError ContentSnapshot
  /-- The source, once more. -/
  current : Except NativeTransferError ContentSnapshot

/-- `stage_transfer_source`: copy a file of the vault to a stage, or take the one that is there. -/
def stageTransferSource (operationId : Uuid) (maxBytes : ℕ) (source : SourceSide) :
    Proc TransferStageRef := do
  let begun ← (beginStage operationId maxBytes).attempt
  match begun with
  | .error .stageAlreadyExists => do
      let snapshot ← lift source.before
      let stage ← loadStage sha256 blake3 operationId snapshot.sha256 snapshot.revision.byteLen
        maxBytes
      let current ← lift source.current
      lift (reject (current ≠ stage.snapshot) .digestMismatch)
      pure stage
  | .error error => fail error
  | .ok writer => do
      let written ← (writer.writeAll source.buffers).attempt
      match written, source.failure with
      | .error _, _ => fail .vaultUnavailable
      | .ok _, some error => fail error
      | .ok writer, none => do
          let snapshot := ContentSnapshot.of sha256 blake3 source.buffers.flatten
          let stage ← finishStage sha256 blake3 writer snapshot.sha256 snapshot.revision.byteLen
            maxBytes
          let current ← lift source.current
          lift (reject (current ≠ stage.snapshot) .digestMismatch)
          pure stage

/-! ## The stage of a download -/

/-- `classify_download_stream_failure`, with whether the empty stage is discarded. -/
def classifyDownloadStreamFailure (code : Drive.ErrorCode) (bytesWritten expectedBytes : ℕ) :
    ExecutionFailureKind × Bool :=
  if bytesWritten = 0 ∧ expectedBytes ≠ 0 then
    match code with
    | .unauthorized => (.authRequired, true)
    | .transport => (.offline, true)
    | .timeout => (.transientSafe, true)
    | .transientProvider => (.transientSafe, true)
    | _ => (.needsReconcile, false)
  else (.needsReconcile, false)

/-- What the provider answers in an attempt. -/
structure RemoteSide where
  /-- `verify_download`, of a stage that is complete. -/
  verifyDownload : Except Drive.DriveError Unit
  /-- The buffers that `download_blob_to` writes. -/
  buffers : List (List UInt8)
  /-- The error it comes to in the end, for one of its own reasons. -/
  failure : Option Drive.ErrorCode

theorem validateFailure_stream (kind : ExecutionFailureKind) (code : Drive.ErrorCode) :
    validateFailure kind code.asStr none = .ok () := by
  rw [validateFailure, validateRedactedCode_asStr, Check.ok_bind, Check.reject_eq_ok]
  simp

/-- `failure(disposition.kind, error.code().as_str(), None)`. -/
def streamFailure (kind : ExecutionFailureKind) (code : Drive.ErrorCode) : ExecutionFailure where
  kind := kind
  code := code.asStr
  retryAfter := none
  valid := validateFailure_stream kind code

/-- The stream has come to this error after so many bytes, and the writer is dropped. -/
def afterStreamFailure (operationId : Uuid) (expectedSha256 : String)
    (expectedByteLen maxBytes : ℕ) (code : Drive.ErrorCode) (bytesWritten : ℕ) :
    Proc (Except ExecutionFailure TransferStageRef) := do
  let disposition := classifyDownloadStreamFailure code bytesWritten expectedByteLen
  if disposition.2 = true then do
    let discarded ← (discardIncompleteStage sha256 blake3 operationId expectedSha256
      expectedByteLen maxBytes).attempt
    match discarded with
    | .ok () => pure (.error (streamFailure disposition.1 code))
    | .error error => pure (.error (localFailure error))
  else pure (.error (streamFailure disposition.1 code))

/-- Write what the provider sends to a new stage. -/
def downloadIntoNewStage (operationId : Uuid) (expectedSha256 : String)
    (expectedByteLen maxBytes : ℕ) (remote : RemoteSide) :
    Proc (Except ExecutionFailure TransferStageRef) := do
  let begun ← (beginStage operationId maxBytes).attempt
  match begun with
  | .error error => pure (.error (localFailure error))
  | .ok writer => do
      let written ← (writer.writeAll remote.buffers).attempt
      match written with
      -- what was counted makes no difference to a `LocalIo`
      | .error _ =>
          afterStreamFailure sha256 blake3 operationId expectedSha256 expectedByteLen maxBytes
            .localIo 0
      | .ok writer =>
          match remote.failure with
          | some code =>
              afterStreamFailure sha256 blake3 operationId expectedSha256 expectedByteLen
                maxBytes code writer.written
          | none => do
              let finished ← (finishStage sha256 blake3 writer expectedSha256 expectedByteLen
                maxBytes).attempt
              pure (finished.mapError localFailure)

/-- The stage of `execute_download`. -/
def downloadStage (operationId : Uuid) (expectedSha256 : String) (expectedByteLen maxBytes : ℕ)
    (remote : RemoteSide) : Proc (Except ExecutionFailure TransferStageRef) := do
  let loaded ← (loadStage sha256 blake3 operationId expectedSha256 expectedByteLen maxBytes).attempt
  match loaded with
  | .ok stage =>
      pure ((remote.verifyDownload.mapError (driveFailure · true)).map fun _ => stage)
  | .error .stageUnavailable =>
      downloadIntoNewStage sha256 blake3 operationId expectedSha256 expectedByteLen maxBytes remote
  | .error .digestMismatch => do
      let discarded ← (discardIncompleteStage sha256 blake3 operationId expectedSha256
        expectedByteLen maxBytes).attempt
      match discarded with
      | .ok () =>
          downloadIntoNewStage sha256 blake3 operationId expectedSha256 expectedByteLen maxBytes
            remote
      | .error error => pure (.error (localFailure error))
  | .error error => pure (.error (localFailure error))

end Calls

/-! ## Calls -/

/-- One call on the store. -/
inductive Call where
  | download (operationId : Uuid) (expectedSha256 : String) (expectedByteLen maxBytes : ℕ)
      (remote : RemoteSide)
  | stageSource (operationId : Uuid) (maxBytes : ℕ) (source : SourceSide)
  | load (operationId : Uuid) (expectedSha256 : String) (expectedByteLen maxBytes : ℕ)
  | discard (operationId : Uuid) (expectedSha256 : String) (expectedByteLen maxBytes : ℕ)
  /-- With how often it calls itself at most. -/
  | publish (stage : TransferStageRef) (maxBytes turns : ℕ)

/-- What a call returns. -/
inductive Outcome where
  | downloaded (stage : Except ExecutionFailure TransferStageRef)
  | staged (stage : TransferStageRef)
  | loaded (stage : TransferStageRef)
  | discarded
  | published (base : TransferBaseRef)

namespace Call

/-- The operation of a call. -/
def operationId : Call → Uuid
  | download operationId _ _ _ _ => operationId
  | stageSource operationId _ _ => operationId
  | load operationId _ _ _ => operationId
  | discard operationId _ _ _ => operationId
  | publish stage _ _ => stage.operationId

/-- The length that a stage falls short of where the call discards it. -/
def discards : Call → Option ℕ
  | download _ _ expectedByteLen _ _ => some expectedByteLen
  | discard _ _ expectedByteLen _ => some expectedByteLen
  | _ => none

/-- What a stage holds that the call publishes. -/
def publishes : Call → Option ContentSnapshot
  | publish stage _ _ => some stage.snapshot
  | _ => none

/-- The steps of a call. -/
def process (sha256 : Sha256) (blake3 : Blake3) : Call → Proc Outcome
  | download operationId expectedSha256 expectedByteLen maxBytes remote => do
      let stage ← downloadStage sha256 blake3 operationId expectedSha256 expectedByteLen maxBytes
        remote
      pure (.downloaded stage)
  | stageSource operationId maxBytes source => do
      let stage ← stageTransferSource sha256 blake3 operationId maxBytes source
      pure (.staged stage)
  | load operationId expectedSha256 expectedByteLen maxBytes => do
      let stage ← loadStage sha256 blake3 operationId expectedSha256 expectedByteLen maxBytes
      pure (.loaded stage)
  | discard operationId expectedSha256 expectedByteLen maxBytes => do
      discardIncompleteStage sha256 blake3 operationId expectedSha256 expectedByteLen maxBytes
      pure .discarded
  | publish stage maxBytes turns => do
      let base ← publishBase sha256 blake3 stage maxBytes turns
      pure (.published base)

end Call

end PrivateTransferStore
end MyVault
