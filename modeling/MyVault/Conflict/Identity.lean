import MyVault.Conflict.Cells
import MyVault.Core.Identifiers
import MyVault.Core.Path

/-!
# Conflict identities and conflict-copy names

`conflict/identity.rs`: the byte stream a conflict id is the digest of, the ids
and markers of the operations of a conflict, and the search for the name of a
conflict copy.

The SHA-256 digest, the Unicode mappings and the version-5 UUID are parameters.
A `&str` a function takes apart is a `Text`; the fields of the records are
`String`s, as in the source.
-/

namespace MyVault
namespace Conflict

open VaultPath

/-- The tag that heads the stream of a conflict id. -/
def conflictIdVersion : String := "myvault-r3-conflict-id-v1"

/-- The naming rules the conflict ids and copy names follow. -/
def conflictNamingVersion : String := "r3-conflict-name-v1-nfkc17-casefold9-nfkc"

/-- `Uuid::new_v5`: a UUID from a namespace and a name. -/
abbrev UuidV5 := Uuid → List UInt8 → Uuid

/-- The UUIDv5 namespace of the operation ids. -/
def operationNamespace : Uuid := ⟨
  [0xa8, 0x35, 0x7e, 0x62, 0x4e, 0x5d, 0x5a, 0x88, 0x91, 0x69, 0x91, 0x3b, 0x90, 0x6d, 0x46, 0xcf],
  rfl⟩

/-- SHA-256 digest and length of a content. -/
structure ContentFingerprint where
  sha256 : String
  byteLength : ℕ
  deriving DecidableEq, Repr

/-- All that a conflict id is derived from. -/
structure ConflictIdentityInput where
  accountId : String
  remoteRootId : String
  objectIdentity : String
  cell : ConflictCell
  outcome : ConflictOutcome
  canonicalIdentityPath : String
  targetParentId : String
  base : Option ContentFingerprint
  localContent : Option ContentFingerprint
  remote : Option ContentFingerprint
  namingVersion : String
  deriving DecidableEq, Repr

/-- The operations that a conflict may have, one domain each. -/
inductive ConflictOperationDomain where
  | conflictCopy
  | mergePublish
  | basePublish
  | localPublish
  | remoteExistingBlocked
  | guardedLocalRename
  | guardedLocalMove
  | guardedLocalRenameMove
  deriving DecidableEq, Repr

/-- The text of a domain, in ids and markers. -/
def ConflictOperationDomain.asStr : ConflictOperationDomain → String
  | .conflictCopy => "conflict-copy"
  | .mergePublish => "merge-publish"
  | .basePublish => "base-publish"
  | .localPublish => "local-publish"
  | .remoteExistingBlocked => "remote-existing-blocked"
  | .guardedLocalRename => "guarded-local-rename"
  | .guardedLocalMove => "guarded-local-move"
  | .guardedLocalRenameMove => "guarded-local-rename-move"

/-- A conflict copy that is in the folder already. -/
structure OccupiedConflictCopy where
  normalizedCollisionKey : String
  conflictId : String
  expectedContent : ContentFingerprint
  destinationPath : String
  objectId : String
  deriving DecidableEq, Repr

/-- What a name is asked for: the conflict, the file, its content, and the names that are taken. -/
structure ConflictCopyNameRequest where
  conflictId : String
  sourcePath : String
  destinationParentPath : Option String
  expectedContent : ContentFingerprint
  namingVersion : String
  occupied : List OccupiedConflictCopy
  deriving DecidableEq, Repr

/-- The name of a conflict copy, and the object that has it already, if one has. -/
structure ConflictCopyName where
  destinationPath : String
  normalizedCollisionKey : String
  idPrefixLength : ℕ
  existingObjectId : Option String
  deriving DecidableEq, Repr

/-- Why there is no name. -/
inductive ConflictNameFailure where
  | unsupportedNamingVersion
  | invalidConflictId
  | invalidContentFingerprint
  | invalidSourcePath
  | invalidDestinationParent
  | invalidNormalizedComponent
  | invalidIdentityField
  | invalidOccupiedEvidence
  | exhaustedConflictId
  deriving DecidableEq, Repr

/-- The name to create, the copy to use again, or neither. -/
inductive ConflictCopyNameOutcome where
  | create (name : ConflictCopyName)
  | reuse (name : ConflictCopyName)
  | needsReconcile (failure : ConflictNameFailure)
  deriving DecidableEq, Repr

section Model

variable (u : Unicode) (sha256 : Sha256) (newV5 : UuidV5)

/-! ## Paths -/

/-- The first component folds to one of the two protected roots. -/
def isProtectedRoot (path : VaultPath u) : Bool :=
  match (splitSlash path.asStr).head? with
  | some component =>
    let key := componentCollisionKey u component
    key == ".obsidian".toList || key == ".trash".toList
  | none => false

/-- A path in canonical form whose first component is not protected. -/
def exactVaultPath (value : Text) : Option (VaultPath u) :=
  match fromPortable u value with
  | none => none
  | some path =>
    if path.asStr = value ∧ isProtectedRoot u path = false then some path else none

/-- The text is a portable path in its one spelling, and not protected. -/
def isExactContentPath (value : String) : Bool := (exactVaultPath u value.toList).isSome

/-- What `normalized_collision_key` refuses in a normalized component. -/
def isNormalizedComponent (normalized : Text) : Bool :=
  !(normalized.isEmpty ||
    normalized.any (fun c => c == '/' || c == '\x00' || isControl c) ||
    !((fromPortable u normalized).any fun component => component.asStr == normalized))

/-- The loop over the components: each normalized one behind its length. -/
def collisionStream : List Text → Option (List UInt8)
  | [] => some []
  | component :: rest =>
    let normalized := componentCollisionKey u component
    if isNormalizedComponent u normalized then
      (collisionStream rest).map fun stream =>
        u64Be (utf8Len normalized) ++ utf8Bytes normalized ++ stream
    else none

/-- The persisted digest for the versioned collision comparator. -/
def normalizedCollisionKey (path : Text) : Except ConflictNameFailure String :=
  match exactVaultPath u path with
  | none => .error .invalidSourcePath
  | some path =>
    match collisionStream u (splitSlash path.asStr) with
    | none => .error .invalidNormalizedComponent
    | some stream => .ok (hexSha256 sha256 stream)

/-! ## Identities -/

/-- The digest is spelled in 64 lower-case hex digits and the length fits an `i64`. -/
def validFingerprint (value : ContentFingerprint) : Bool :=
  isLowerHex64 value.sha256 && fitsI64 value.byteLength

/-- `validate_identity_input`. -/
def validateIdentityInput (input : ConflictIdentityInput) : Except ConflictNameFailure Unit :=
  if input.namingVersion ≠ conflictNamingVersion then
    .error .unsupportedNamingVersion
  else if (exactVaultPath u input.canonicalIdentityPath.toList).isNone then
    .error .invalidSourcePath
  else if [input.accountId, input.remoteRootId, input.objectIdentity, input.targetParentId].any
        (fun value => !isRemoteId value) ||
      input.localContent.any (fun content => !validFingerprint content) ||
      input.remote.any (fun remote => !validFingerprint remote) ||
      input.base.any (fun base => !validFingerprint base) then
    .error .invalidIdentityField
  else .ok ()

/-- The bytes `push_field` appends. -/
def fieldBytes (name : String) (value : Option String) : List UInt8 :=
  u64Be (strLen name) ++ strBytes name ++
    match value with
    | some value => 1 :: (u64Be (strLen value) ++ strBytes value)
    | none => 0 :: u64Be 0

/-- `push_field`: append a name and a value. -/
def pushField (stream : List UInt8) (name : String) (value : Option String) : List UInt8 :=
  stream ++ fieldBytes name value

/-- `push_fingerprint`: append the digest and the length, or that there are none. -/
def pushFingerprint (stream : List UInt8) (front : String) (value : Option ContentFingerprint) :
    List UInt8 :=
  match value with
  | some value =>
    let stream := pushField stream (front ++ "_sha256") (some value.sha256)
    pushField stream (front ++ "_byte_length") (some (toString value.byteLength))
  | none =>
    let stream := pushField stream (front ++ "_sha256") none
    pushField stream (front ++ "_byte_length") none

/-- The stream `derive_conflict_id` hashes. -/
def identityStream (input : ConflictIdentityInput) : List UInt8 :=
  let stream := pushField [] "identity_version" (some conflictIdVersion)
  let stream := pushField stream "account_id" (some input.accountId)
  let stream := pushField stream "remote_root_id" (some input.remoteRootId)
  let stream := pushField stream "object_identity" (some input.objectIdentity)
  let stream := pushField stream "stable_cell_id" (some input.cell.asStr)
  let stream := pushField stream "classification_code" (some input.outcome.asStr)
  let stream := pushField stream "canonical_identity_path" (some input.canonicalIdentityPath)
  let stream := pushField stream "target_parent_identity" (some input.targetParentId)
  let stream := pushFingerprint stream "base" input.base
  let stream := pushFingerprint stream "local" input.localContent
  let stream := pushFingerprint stream "remote" input.remote
  pushField stream "naming_version" (some input.namingVersion)

/-- The stable domain-separated conflict identity. -/
def deriveConflictId (input : ConflictIdentityInput) : Except ConflictNameFailure String :=
  match validateIdentityInput u input with
  | .error failure => .error failure
  | .ok () => .ok (hexSha256 sha256 (identityStream input))

/-- The name `derive_operation_id` gives to the version-5 UUID. -/
def operationName (domain : ConflictOperationDomain) (conflictId : String) : List UInt8 :=
  strBytes domain.asStr ++ 0 :: strBytes conflictId

/-- The id of the operation of a domain for a conflict. -/
def deriveOperationId (domain : ConflictOperationDomain) (conflictId : String) : Uuid :=
  newV5 operationNamespace (operationName domain conflictId)

/-- The marker under which the operation of a domain is found again. -/
def operationMarker (domain : ConflictOperationDomain) (conflictId : String) : String :=
  "r3." ++ domain.asStr ++ "." ++ String.ofList (conflictId.toList.take 32)

/-! ## Names of conflict copies -/

/-- `str::rfind('.')`, counted in characters. -/
def rfindDot (name : Text) : Option ℕ :=
  (name.reverse.findIdx? (· = '.')).map fun k => name.length - 1 - k

/-- The name without its extension, and the extension with its dot. -/
def splitExtension (name : Text) : Text × Text :=
  match rfindDot name with
  | none => (name, [])
  | some index =>
    if index = 0 ∨ index + 1 = name.length then (name, [])
    else (name.take index, name.drop index)

/-- The path tried for one truncation of the stem. -/
def candidatePath (parent : Option Text) (truncatedStem extension suffix : Text) : Text :=
  let component := truncatedStem ++ suffix ++ extension
  match parent with
  | none => component
  | some parent => parent ++ '/' :: component

/-- The loop of `build_candidate_path` with the first `n` characters of the stem left. -/
def buildFrom (parent : Option Text) (stem extension suffix : Text) : ℕ → Option (VaultPath u)
  | 0 => exactVaultPath u (candidatePath parent (stem.take 0) extension suffix)
  | n + 1 =>
    match exactVaultPath u (candidatePath parent (stem.take (n + 1)) extension suffix) with
    | some path => some path
    | none => buildFrom parent stem extension suffix n

/-- The longest prefix of the stem that fits, with the suffix and the extension. -/
def buildCandidatePath (parent : Option Text) (stem extension suffix : Text) :
    Option (VaultPath u) := buildFrom u parent stem extension suffix stem.length

/-- `(12..=64).step_by(4)`. -/
def prefixLengths : List ℕ := [12, 16, 20, 24, 28, 32, 36, 40, 44, 48, 52, 56, 60, 64]

/-- `" (conflict {…})"` with the first characters of the conflict id. -/
def conflictSuffix (conflictId : String) (prefixLength : ℕ) : Text :=
  " (conflict ".toList ++ conflictId.toList.take prefixLength ++ [')']

/-- The name tried with one prefix length, or the failure that ends the search. -/
def candidateName (request : ConflictCopyNameRequest) (stem extension : Text)
    (prefixLength : ℕ) : Except ConflictNameFailure ConflictCopyName :=
  match buildCandidatePath u (request.destinationParentPath.map String.toList) stem extension
      (conflictSuffix request.conflictId prefixLength) with
  | none => .error .invalidDestinationParent
  | some candidate =>
    match normalizedCollisionKey u sha256 candidate.asStr with
    | .error failure => .error failure
    | .ok key =>
      .ok
        { destinationPath := String.ofList candidate.asStr
          normalizedCollisionKey := key
          idPrefixLength := prefixLength
          existingObjectId := none }

/-- What one name and the entries that collide with it decide; `none` when the
search goes on. -/
def decideName (request : ConflictCopyNameRequest) (name : ConflictCopyName) :
    Option ConflictCopyNameOutcome :=
  let collisions := request.occupied.filter fun occupied =>
    occupied.normalizedCollisionKey = name.normalizedCollisionKey
  match collisions with
  | [] => some (.create name)
  | first :: _ =>
    if collisions.all fun occupied =>
        occupied.conflictId == request.conflictId &&
          occupied.expectedContent == request.expectedContent then
      let objectId := first.objectId
      if collisions.any fun occupied =>
          occupied.objectId != objectId ||
            occupied.destinationPath != name.destinationPath then
        some (.needsReconcile .invalidOccupiedEvidence)
      else
        some (.reuse { name with existingObjectId := some objectId })
    else none

/-- The loop over the prefix lengths. -/
def searchPrefixes (request : ConflictCopyNameRequest) (stem extension : Text) :
    List ℕ → ConflictCopyNameOutcome
  | [] => .needsReconcile .exhaustedConflictId
  | prefixLength :: rest =>
    match candidateName u sha256 request stem extension prefixLength with
    | .error failure => .needsReconcile failure
    | .ok name =>
      match decideName request name with
      | some outcome => outcome
      | none => searchPrefixes request stem extension rest

/-- What the request's occupied evidence has to satisfy. -/
def validOccupied (occupied : OccupiedConflictCopy) : Bool :=
  isLowerHex64 occupied.normalizedCollisionKey &&
    isLowerHex64 occupied.conflictId &&
    validFingerprint occupied.expectedContent &&
    isRemoteId occupied.objectId &&
    decide (normalizedCollisionKey u sha256 occupied.destinationPath.toList =
      .ok occupied.normalizedCollisionKey)

/-- `source.as_str().rsplit('/').next()`. -/
def sourceName (source : VaultPath u) : Text :=
  ((splitSlash source.asStr).getLast?).getD source.asStr

/-- A deterministic portable name for a conflict copy. -/
def resolveConflictCopyName (request : ConflictCopyNameRequest) : ConflictCopyNameOutcome :=
  if request.namingVersion ≠ conflictNamingVersion then
    .needsReconcile .unsupportedNamingVersion
  else if isLowerHex64 request.conflictId = false then
    .needsReconcile .invalidConflictId
  else if validFingerprint request.expectedContent = false then
    .needsReconcile .invalidContentFingerprint
  else if 4096 < request.occupied.length ∨
      request.occupied.any (fun occupied => !validOccupied u sha256 occupied) = true then
    .needsReconcile .invalidOccupiedEvidence
  else
    match exactVaultPath u request.sourcePath.toList with
    | none => .needsReconcile .invalidSourcePath
    | some source =>
      if request.destinationParentPath.any (fun parent =>
          (exactVaultPath u parent.toList).isNone) = true then
        .needsReconcile .invalidDestinationParent
      else
        let split := splitExtension (sourceName u source)
        searchPrefixes u sha256 request split.1 split.2 prefixLengths

end Model

end Conflict
end MyVault
