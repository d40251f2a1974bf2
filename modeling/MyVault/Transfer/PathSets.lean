import MyVault.Store.Validation
import MyVault.Vault.Inventory

/-!
# The preflights of a set of transfer paths

`reject_portable_path_collisions` of `sync_commands.rs` on the desktop and
`validate_saf_path_set` of `android_transfer_policy.rs`.  Both go through the paths and
remember the keys of those they have seen.  They compare whole paths: the desktop after
NFC and lower-casing, Android by the collision key of the vault.
-/

namespace MyVault
namespace Transfer

open Check VaultPath

/-- The codes of the errors of the commands. -/
inductive SyncCommandCode where
  | noActiveVault
  | staleSession
  | invalidRequest
  | unsupported
  | unconfigured
  | authRequired
  | bindingMismatch
  | rescanRequired
  | busy
  | providerUnavailable
  | storageUnavailable
  | internal
  deriving DecidableEq, Repr

/-- An error of a command. -/
structure SyncCommandError where
  code : SyncCommandCode
  message : String
  deriving DecidableEq, Repr

/-- `nfc` and `char::to_lowercase`. -/
structure CaseMapping where
  nfc : Text → Text
  lowercase : Char → Text

/-- The mappings as they are on ASCII text. -/
def CaseMapping.ascii : CaseMapping where
  nfc := id
  lowercase c := [c.toLower]

/-- `collision_key` of the desktop. -/
def desktopCollisionKey (m : CaseMapping) (path : Text) : Text := (m.nfc path).flatMap m.lowercase

section Desktop

variable (m : CaseMapping)

/-- The loop, with the paths by their keys; the latest one counts. -/
def rejectCollisionsFrom : List (Text × Text) → List Text → Except SyncCommandError Unit
  | _, [] => .ok ()
  | seen, path :: rest => do
    let key := desktopCollisionKey m path
    reject ((seen.lookup key).any (· ≠ path) = true)
      ⟨.invalidRequest, "case-folded or Unicode-normalized transfer paths collide"⟩
    rejectCollisionsFrom ((key, path) :: seen) rest

/-- No path of the list is an alias of one before it. -/
def rejectPortablePathCollisions (paths : List Text) : Except SyncCommandError Unit :=
  rejectCollisionsFrom m [] paths

end Desktop

/-- Why a path may not be transferred. -/
inductive AndroidTransferPolicyError where
  | tooLarge
  | invalidPath
  | protectedPath
  | duplicatePath
  | portablePathCollision
  | invalidSha256
  | invalidRevision
  | lengthMismatch
  | digestMismatch
  | revisionMismatch
  deriving DecidableEq, Repr

section Android

variable (u : Unicode)

/-- The path, if it is portable and outside the two protected folders. -/
def validatedContentPath (value : Text) : Except AndroidTransferPolicyError (VaultPath u) :=
  match fromPortable u value with
  | none => .error .invalidPath
  | some path =>
    let protectedRoot := (splitSlash (Store.collisionKey path)).head?.any fun root =>
      root == ".obsidian".toList || root == ".trash".toList
    if protectedRoot = true then .error .protectedPath else .ok path

/-- The loop, with the paths and the paths by their keys so far. -/
def validateSafPathsFrom :
    List Text → List (Text × Text) → List Text → Except AndroidTransferPolicyError Unit
  | _, _, [] => .ok ()
  | exact, seen, value :: rest => do
    let path ← validatedContentPath u value
    reject (path.asStr ∈ exact) .duplicatePath
    reject ((seen.lookup (Store.collisionKey path)).any (· ≠ path.asStr) = true)
      .portablePathCollision
    validateSafPathsFrom (path.asStr :: exact) ((Store.collisionKey path, path.asStr) :: seen) rest

/-- Every path of the list may be transferred, and none is there twice. -/
def validateSafPathSet (paths : List Text) : Except AndroidTransferPolicyError Unit :=
  validateSafPathsFrom u [] [] paths

end Android

end Transfer
end MyVault
