import MyVault.Library.Process
import MyVault.Snapshots.Manifest
import Mathlib.Logic.Function.Basic

/-!
# Publishing a snapshot, step by step

`SnapshotStore::open` and `SnapshotStore::publish` of `myvault-snapshots/src/lib.rs`, with
`create_or_open_private_dir` and its relatives of `myvault-private-fs/src/lib.rs`, as
processes whose steps are those of the file system: an entry is created with the mode the
process gives new entries, its private mode is set by a step of its own, and a file is
written byte by byte.

The disk is the directory of one vault and the directories above it, below a private root
that is accepted.  A handle of an open directory or file is its place: nothing here removes
an entry, and the only ones that move are moved after their handles are dropped.  Nothing
else writes, and the calls of one vault follow one another, so the lock is always free, and
the identities of files and the second looks at them are left out.
-/

namespace MyVault
namespace Snapshots

open Process

/-! ## The disk -/

/-- A file and its permission bits. -/
structure FileNode where
  mode : ℕ
  bytes : List UInt8
  deriving DecidableEq, Repr

/-- A directory in `staging` or `objects`. -/
structure DirNode where
  mode : ℕ
  files : Dir FileNode
  deriving DecidableEq

/-- The directories every call finds under the same name: `recovery-snapshots`, `v1`,
`vaults`, the directory of the vault, and the two in it. -/
inductive Place where
  | recovery
  | version
  | vaults
  | vault
  | staging
  | objects
  deriving DecidableEq, Repr

/-- A directory that is held open. -/
inductive Held where
  | place (place : Place)
  /-- A directory in `staging` that is being filled. -/
  | work (name : String)
  deriving DecidableEq, Repr

/-- The directories of a vault. -/
structure Disk where
  /-- The permission bits of the directories that are there. -/
  modes : Place → Option ℕ
  files : Place → String → Option FileNode
  staging : String → Option DirNode
  objects : String → Option DirNode

/-- Nothing is there yet. -/
def Disk.empty : Disk := ⟨fun _ => none, fun _ _ => none, fun _ => none, fun _ => none⟩

/-- `create_dir` asks for `0o777`. -/
def dirMode (umask : ℕ) : ℕ := 0o777 &&& (0o777 ^^^ (umask &&& 0o777))

/-- `open_with` asks for `0o666`. -/
def fileMode (umask : ℕ) : ℕ := 0o666 &&& (0o777 ^^^ (umask &&& 0o777))

/-- No group or world access. -/
def isPrivateDirMode (mode : ℕ) : Bool := mode &&& 0o077 == 0

/-- A file of mode 0600. -/
def isPrivateFileMode (mode : ℕ) : Bool := mode &&& 0o777 == 0o600

/-- What a call can make of a file. -/
def FileNode.entry {α : Type} (file : FileNode) : Entry α :=
  if isPrivateFileMode file.mode then .file file.bytes else .other

/-- What a call finds in a directory. -/
def DirNode.view (node : DirNode) : ObjectDir where
  rows := node.files.rows.map fun row => (row.1, row.2.entry)
  nodup_keys := by
    rw [List.map_map]
    exact node.files.nodup_keys

/-- The directory with a new, empty file. -/
def DirNode.create (node : DirNode) (name : String) (mode : ℕ) : Except Error DirNode :=
  match node.files.insert (.utf8 name, ⟨mode, []⟩) with
  | some files => .ok { node with files := files }
  | none => .error .alreadyExists

/-- The directory with a file changed. -/
def DirNode.modify (node : DirNode) (name : String) (f : FileNode → FileNode) : DirNode :=
  { node with
    files := node.files.update (fun row => row.1 = .utf8 name) (fun row => (row.1, f row.2))
      fun _ _ => rfl }

namespace Disk

variable (d : Disk)

/-- The disk with a directory of this mode. -/
def withMode (place : Place) (mode : ℕ) : Disk :=
  { d with modes := Function.update d.modes place (some mode) }

/-- The disk with a file under a name, or with none. -/
def withFile (place : Place) (name : String) (file : Option FileNode) : Disk :=
  { d with files := Function.update d.files place (Function.update (d.files place) name file) }

/-- The disk with a directory in `staging`, or with none. -/
def withStaging (name : String) (node : Option DirNode) : Disk :=
  { d with staging := Function.update d.staging name node }

/-- The disk with a directory in `objects`, or with none. -/
def withObject (name : String) (node : Option DirNode) : Disk :=
  { d with objects := Function.update d.objects name node }

theorem modes_withMode (place : Place) (mode : ℕ) (place' : Place) :
    (d.withMode place mode).modes place' =
      if place' = place then some mode else d.modes place' := Function.update_apply ..

theorem files_withFile (place : Place) (name : String) (file : Option FileNode)
    (place' : Place) (name' : String) : (d.withFile place name file).files place' name' =
      if place' = place ∧ name' = name then file else d.files place' name' := by
  show Function.update d.files place _ place' name' = _
  rw [Function.update_apply]
  by_cases h : place' = place
  · subst h
    rw [if_pos rfl, Function.update_apply]
    simp only [true_and]
  · rw [if_neg h, if_neg fun hand => h hand.1]

theorem staging_withStaging (name : String) (node : Option DirNode) (name' : String) :
    (d.withStaging name node).staging name' =
      if name' = name then node else d.staging name' := Function.update_apply ..

theorem objects_withObject (name : String) (node : Option DirNode) (name' : String) :
    (d.withObject name node).objects name' =
      if name' = name then node else d.objects name' := Function.update_apply ..

/-- The mode of a directory that is held. -/
def modeOf : Held → Option ℕ
  | .place place => d.modes place
  | .work name => (d.staging name).map DirNode.mode

/-- A file of a directory that is held. -/
def fileAt : Held → String → Option FileNode
  | .place place, name => d.files place name
  | .work work, name => (d.staging work).bind fun node => node.files.get name

end Disk

/-! ## Steps -/

/-- What a call asks of the file system. -/
inductive Step where
  | createDir (dir : Held)
  /-- `set_permissions(0o700)`. -/
  | hardenDir (dir : Held)
  /-- `create_new(true)`. -/
  | createFile (dir : Held) (name : String)
  /-- `set_permissions(0o600)`. -/
  | hardenFile (dir : Held) (name : String)
  /-- One more byte of `write_all`. -/
  | append (dir : Held) (name : String) (byte : UInt8)
  /-- `sync_all` of a file or a directory. -/
  | sync
  /-- `renameat_with` and `RenameFlags::NOREPLACE`, of a file. -/
  | moveFile (place : Place) (source destination : String)
  /-- The same within `staging`. -/
  | stage (source destination : String)
  /-- The same from `staging` to `objects`. -/
  | promote (name : String)
  deriving DecidableEq, Repr

section Run

variable (umask : ℕ)

/-- The answer of a step and what it leaves. -/
def Step.run : Step → Disk → Except Error Unit × Disk
  | .createDir (.place place), d =>
      if (d.modes place).isSome then (.error .alreadyExists, d)
      else (.ok (), d.withMode place (dirMode umask))
  | .createDir (.work name), d =>
      if (d.staging name).isSome then (.error .alreadyExists, d)
      else (.ok (), d.withStaging name (some ⟨dirMode umask, .empty⟩))
  | .hardenDir (.place place), d => (.ok (), d.withMode place 0o700)
  | .hardenDir (.work name), d =>
      (.ok (), d.withStaging name ((d.staging name).map fun node => { node with mode := 0o700 }))
  | .createFile (.place place) name, d =>
      if (d.files place name).isSome then (.error .alreadyExists, d)
      else (.ok (), d.withFile place name (some ⟨fileMode umask, []⟩))
  | .createFile (.work work) name, d =>
      match d.staging work with
      | none => (.error .notFound, d)
      | some node =>
          match node.create name (fileMode umask) with
          | .ok node' => (.ok (), d.withStaging work (some node'))
          | .error e => (.error e, d)
  | .hardenFile dir name, d => (.ok (), modifyFile d dir name fun f => { f with mode := 0o600 })
  | .append dir name byte, d =>
      (.ok (), modifyFile d dir name fun f => { f with bytes := f.bytes ++ [byte] })
  | .sync, d => (.ok (), d)
  | .moveFile place source destination, d =>
      match d.files place source with
      | none => (.error .notFound, d)
      | some file =>
          if (d.files place destination).isSome then (.error .alreadyExists, d)
          else (.ok (), (d.withFile place destination (some file)).withFile place source none)
  | .stage source destination, d =>
      match d.staging source with
      | none => (.error .notFound, d)
      | some node =>
          if (d.staging destination).isSome then (.error .alreadyExists, d)
          else (.ok (), (d.withStaging destination (some node)).withStaging source none)
  | .promote name, d =>
      match d.staging name with
      | none => (.error .notFound, d)
      | some node =>
          if (d.objects name).isSome then (.error .alreadyExists, d)
          else (.ok (), (d.withObject name (some node)).withStaging name none)
where
  /-- A change of a file through its handle. -/
  modifyFile (d : Disk) (dir : Held) (name : String) (f : FileNode → FileNode) : Disk :=
    match dir with
    | .place place => d.withFile place name ((d.files place name).map f)
    | .work work => d.withStaging work ((d.staging work).map fun node => node.modify name f)

end Run

/-- A process on the disk. -/
abbrev Proc (α : Type) := Process Step (Except Error Unit) Disk Error α

/-! ## Private files and directories -/

/-- `require_private_directory`. -/
def requirePrivateDirectory (dir : Held) : Proc Unit :=
  ask fun d =>
    match d.modeOf dir with
    | some mode => if isPrivateDirMode mode then .ok () else .error .privateFs
    | none => .error .notFound

/-- `verify_private_file`. -/
def verifyPrivateFile : Option FileNode → Except Error Unit
  | some file => if isPrivateFileMode file.mode then .ok () else .error .privateFs
  | none => .error .notFound

/-- `create_or_open_private_dir`. -/
def createOrOpenPrivateDir (dir : Held) : Proc Unit := do
  let created ← perform (.createDir dir)
  hardenCreated created
  requirePrivateDirectory dir
  io .sync
  io .sync
where
  hardenCreated : Except Error Unit → Proc Unit
    | .ok () => io (.hardenDir dir)
    | .error .alreadyExists => pure ()
    | .error e => fail e

/-- `create_private_dir`. -/
def createPrivateDir (dir : Held) : Proc Unit := do
  io (.createDir dir)
  io (.hardenDir dir)
  requirePrivateDirectory dir
  io .sync
  io .sync

/-- Write the bytes, one after the other. -/
def writeAll (dir : Held) (name : String) : List UInt8 → Proc Unit
  | [] => pure ()
  | byte :: rest => do
    io (.append dir name byte)
    writeAll dir name rest

/-- `write_private_file`: create, harden, write, sync, and verify. -/
def writePrivateFile (dir : Held) (name : String) (bytes : List UInt8) : Proc Unit := do
  io (.createFile dir name)
  io (.hardenFile dir name)
  writeAll dir name bytes
  io .sync
  ask fun d => verifyPrivateFile (d.fileAt dir name)

/-- `read_optional_private_file`, of a file that is no payload. -/
def readOptionalPrivateFile (place : Place) (name : String) (maximum : ℕ) :
    Proc (Option (List UInt8)) :=
  ask fun d =>
    match d.files place name with
    | none => .ok none
    | some file =>
        if isPrivateFileMode file.mode = false then .error .privateFs
        else if maximum < file.bytes.length then .error .manifestTooLarge
        else .ok (some file.bytes)

/-- `open_optional_private_dir`, and what is in it. -/
def openOptionalNode : Option DirNode → Except Error (Option ObjectDir)
  | none => .ok none
  | some node => if isPrivateDirMode node.mode then .ok (some node.view) else .error .privateFs

/-! ## Opening a store -/

/-- The vault and the directory that belong together. -/
structure VaultBinding where
  version : UInt32
  vaultId : Uuid
  unixDevice : UInt64
  unixInode : UInt64
  deriving DecidableEq

/-- `serde_json::to_vec` of a binding. -/
def VaultBinding.bytes (binding : VaultBinding) : List UInt8 :=
  utf8Bytes (Json.object [
    ("version", Json.number binding.version.toNat),
    ("vault_id", Json.string binding.vaultId.toHyphenated.toList),
    ("unix_device", Json.number binding.unixDevice.toNat),
    ("unix_inode", Json.number binding.unixInode.toNat)])

/-- The binding of a vault whose root has this identity. -/
def bindingOf (vaultId : Uuid) (unixDevice unixInode : UInt64) : VaultBinding where
  version := 1
  vaultId := vaultId
  unixDevice := unixDevice
  unixInode := unixInode

/-- The name of the file that ties the store to its vault. -/
def bindingFile : String := "binding.json"

/-- The name of the lock of the store. -/
def operationLockFile : String := "operation.lock"

/-- The name under which the binding is written. -/
def bindingTemporary (draw : Uuid) : String := ".binding-" ++ draw.toHyphenated ++ ".tmp"

/-- What a call runs on.  BLAKE3 and the parsing half of `serde_json` are not part of the
repository. -/
structure Host where
  umask : ℕ
  unicode : Unicode
  blake3 : Blake3
  serde : Serde
  vaultBinding : List UInt8 → Option VaultBinding

section Calls

variable (host : Host) (binding : VaultBinding)

/-- What `publish_or_verify_binding` finds where the temporary file was to go. -/
def afterBindingMove : Except Error Unit → Proc Unit
  | .ok () => io .sync
  | .error .alreadyExists => do
      let actual ← readOptionalPrivateFile .vault bindingFile maxManifestBytes
      match actual with
      | some bytes => if bytes = binding.bytes then io .sync else fail .bindingCollision
      | none => fail .notFound
  | .error e => fail e

/-- `publish_or_verify_binding`: the binding is written, or is the one that is there. -/
def publishOrVerifyBinding (draw : Uuid) : Proc Unit := do
  let found ← readOptionalPrivateFile .vault bindingFile maxManifestBytes
  match found with
  | some actual =>
      match host.vaultBinding actual with
      | none => fail .json
      | some observed =>
          if observed ≠ binding ∨ observed.bytes ≠ actual then fail .bindingCollision
          else io .sync
  | none => do
      let temporary := bindingTemporary draw
      writePrivateFile (.place .vault) temporary binding.bytes
      let moved ← perform (.moveFile .vault temporary bindingFile)
      afterBindingMove binding moved

/-- The private mode of a lock that was just created. -/
def hardenLock : Except Error Unit → Proc Unit
  | .ok () => do
      io (.hardenFile (.place .vault) operationLockFile)
      io .sync
      ask fun d => verifyPrivateFile (d.files .vault operationLockFile)
      io .sync
  | .error .alreadyExists =>
      ask fun d => verifyPrivateFile (d.files .vault operationLockFile)
  | .error e => fail e

/-- The file of the lock is there. -/
def ensureOperationLock : Proc Unit := do
  let created ← perform (.createFile (.place .vault) operationLockFile)
  hardenLock created

/-- `SnapshotStore::open`, after the roots were opened. -/
def openStore (draw : Uuid) : Proc Unit := do
  lift (Check.reject (binding.vaultId.isNil = true) .invalidVaultId)
  createOrOpenPrivateDir (.place .recovery)
  createOrOpenPrivateDir (.place .version)
  createOrOpenPrivateDir (.place .vaults)
  createOrOpenPrivateDir (.place .vault)
  publishOrVerifyBinding host binding draw
  ensureOperationLock
  createOrOpenPrivateDir (.place .staging)
  createOrOpenPrivateDir (.place .objects)

/-! ## Publishing -/

/-- `verify_expected_object`. -/
def verifyExpectedObject (directory : ObjectDir) (expected : SnapshotManifest)
    (expectedBytes : List UInt8) : Except Error Unit := do
  verifyExactObjectEntries directory
  let bytes ← readPrivateFile directory manifestFile maxManifestBytes
  Check.reject (bytes ≠ expectedBytes) .snapshotCollision
  match host.serde.snapshotManifest bytes with
  | none => .error .json
  | some observed => do
      observed.validate host.unicode
      Check.reject (observed ≠ expected) .snapshotCollision
      let canonical ← observed.canonicalBytes
      Check.reject (canonical ≠ bytes) .snapshotCollision
      let payload ← readPrivateFile directory payloadFile maxPayloadBytes
      Check.reject (SnapshotRevision.fromBytes host.blake3 payload ≠ expected.revision)
        .snapshotCollision

/-- The checks of `publish` on its arguments, and the bytes of the manifest. -/
def checkPublish (manifest : SnapshotManifest) (payload : List UInt8) :
    Except Error (List UInt8) := do
  manifest.validate host.unicode
  Check.reject (manifest.vaultId ≠ binding.vaultId) .invalidVaultId
  Check.reject (maxPayloadBytes < payload.length) .payloadTooLarge
  Check.reject (SnapshotRevision.fromBytes host.blake3 payload ≠ manifest.revision)
    .invalidRevision
  manifest.canonicalBytes

/-- `promote_staging`, after the rename. -/
def afterPromotion (manifest : SnapshotManifest) (manifestBytes : List UInt8)
    (outcome : PublishOutcome) : Except Error Unit → Proc PublishOutcome
  | .ok () => do
      io .sync
      io .sync
      ask fun d => do
        let object ← openOptionalNode (d.objects manifest.snapshotId.toHyphenated)
        match object with
        | some directory => verifyExpectedObject host directory manifest manifestBytes
        | none => .error .notFound
      pure outcome
  | .error .alreadyExists => fail .ambiguousEvidence
  | .error e => fail e

/-- `promote_staging`: rename a complete directory from `staging` to `objects`. -/
def promoteStaging (manifest : SnapshotManifest) (manifestBytes : List UInt8)
    (outcome : PublishOutcome) : Proc PublishOutcome := do
  let moved ← perform (.promote manifest.snapshotId.toHyphenated)
  afterPromotion host manifest manifestBytes outcome moved

/-- The rest of `resume_stable`, by what stands in `objects` and in `staging`. -/
def resumeFrom (manifest : SnapshotManifest) (manifestBytes : List UInt8) :
    Option ObjectDir × Option ObjectDir → Proc (Option PublishOutcome)
  | (some _, some _) => fail .ambiguousEvidence
  | (some directory, none) => do
      lift (verifyExpectedObject host directory manifest manifestBytes)
      io .sync
      io .sync
      pure (some .alreadyPublished)
  | (none, some directory) => do
      lift (verifyExpectedObject host directory manifest manifestBytes)
      let outcome ← promoteStaging host manifest manifestBytes .promotedFromStaging
      pure (some outcome)
  | (none, none) => pure none

/-- What an earlier call has left of this snapshot: nothing, a staged directory to promote, or the
object. -/
def resumeStable (manifest : SnapshotManifest) (manifestBytes : List UInt8) :
    Proc (Option PublishOutcome) := do
  let name := manifest.snapshotId.toHyphenated
  let found ← ask fun d => do
    let object ← openOptionalNode (d.objects name)
    let staging ← openOptionalNode (d.staging name)
    .ok (object, staging)
  resumeFrom host manifest manifestBytes found

/-- The name of the directory in which a snapshot is written. -/
def workName (snapshotId draw : Uuid) : String :=
  ".work-" ++ snapshotId.toHyphenated ++ "-" ++ draw.toHyphenated

/-- `create_fresh_work`: one attempt for each identifier that is drawn. -/
def createFreshWork (snapshotId : Uuid) : List Uuid → Proc String
  | [] => fail .snapshotCollision
  | draw :: rest => do
      let made ← attempt (createPrivateDir (.work (workName snapshotId draw)))
      match made with
      | .ok () => pure (workName snapshotId draw)
      | .error .alreadyExists => createFreshWork snapshotId rest
      | .error e => fail e

/-- `publish`, after the rename into `staging`. -/
def afterStaging (manifest : SnapshotManifest) (manifestBytes : List UInt8) :
    Except Error Unit → Proc PublishOutcome
  | .ok () => do
      io .sync
      promoteStaging host manifest manifestBytes .published
  | .error .alreadyExists => do
      let resumed ← resumeStable host manifest manifestBytes
      match resumed with
      | some outcome => pure outcome
      | none => fail .snapshotCollision
  | .error e => fail e

/-- A new work directory is filled and gets the name of the snapshot. -/
def publishFresh (manifest : SnapshotManifest) (payload manifestBytes : List UInt8)
    (draws : List Uuid) : Proc PublishOutcome := do
  let work ← createFreshWork manifest.snapshotId draws
  writePrivateFile (.work work) payloadFile payload
  writePrivateFile (.work work) manifestFile manifestBytes
  ask fun d =>
    match d.staging work with
    | some node => verifyExpectedObject host node.view manifest manifestBytes
    | none => .error .notFound
  io .sync
  let moved ← perform (.stage work manifest.snapshotId.toHyphenated)
  afterStaging host manifest manifestBytes moved

/-- `publish` under the lock. -/
def publishLocked (manifest : SnapshotManifest) (payload : List UInt8) (draws : List Uuid) :
    Proc PublishOutcome := do
  let manifestBytes ← lift (checkPublish host binding manifest payload)
  let resumed ← resumeStable host manifest manifestBytes
  match resumed with
  | some outcome => pure outcome
  | none => publishFresh host manifest payload manifestBytes draws

/-- `finish_publish_operation`. -/
def finishPublishOperation (result : Except Error PublishOutcome)
    (lock : Except Error Unit) : Except Error PublishOutcome :=
  match result, lock with
  | .ok outcome, .ok () => .ok outcome
  | .ok outcome, .error _ => .error (.publishedButLockLost outcome)
  | .error e, .ok () => .error e
  | .error e, .error _ => .error (.operationFailedAndLockLost e)

/-- `SnapshotStore::publish`, with the identifiers that are drawn: one for each of the 32
attempts of `create_fresh_work`. -/
def publish (manifest : SnapshotManifest) (payload : List UInt8) (draws : Fin 32 → Uuid) :
    Proc PublishOutcome := do
  ask fun d => verifyPrivateFile (d.files .vault operationLockFile)
  let result ← attempt (publishLocked host binding manifest payload (List.ofFn draws))
  ask fun d =>
    finishPublishOperation result (verifyPrivateFile (d.files .vault operationLockFile))

end Calls

end Snapshots
end MyVault
