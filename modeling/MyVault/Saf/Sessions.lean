import MyVault.Core.Identifiers
import MyVault.Saf.Base64
import MyVault.Saf.Documents

/-!
# The binary sessions of the plugin

`VaultSafPlugin.kt`: the commands that read a document and create one in chunks.  The plugin
holds its lock while it handles a command, so a command is one step from state to state.

What the provider and the system answer is an `Android`: the n-th call may throw, a read
may give fewer bytes than were asked for, and a created document may come under another
name.  The stream of a read session is what it will still give.
-/

namespace MyVault
namespace Saf

open Program

/-- `BINARY_MAX_TRANSFER_BYTES`. -/
def binaryMaxTransferBytes : ℕ := 16 * 1024 * 1024

/-- `BINARY_BRIDGE_CHUNK_BYTES`. -/
def binaryBridgeChunkBytes : ℕ := 192 * 1024

/-- `UUID.fromString` of version 4, printed as it was. -/
def isCanonicalBinarySessionId (value : String) : Bool :=
  (Uuid.parseCanonical value.toList).any fun id => (id.toList.getD 6 0).toNat / 16 == 4

/-- An offset within the bound of a transfer. -/
def isValidBinaryReadOffset (offset : ℤ) : Bool :=
  decide (0 ≤ offset ∧ offset ≤ binaryMaxTransferBytes)

/-- A chunk that is not full is the last. -/
def isBinaryChunkEof (chunkSize : ℕ) : Bool := decide (chunkSize < binaryBridgeChunkBytes)

/-- The offset after a chunk, if the chunk goes where the content has got to. -/
def nextBinaryWriteOffset (written expectedByteLen : ℕ) (requestOffset : ℤ) (chunkSize : ℕ) :
    Option ℕ :=
  if ¬ (1 ≤ chunkSize ∧ chunkSize ≤ binaryBridgeChunkBytes) ∨ requestOffset ≠ written then none
  else
    let next := written + chunkSize
    if written ≤ next ∧ next ≤ expectedByteLen then some next else none

/-- The word of a JSON answer. -/
inductive OutcomeWord where
  | ready
  | busy
  | vaultUnavailable
  | notFound
  | nativeBridge
  | invalidRequest
  | aborted
  | alreadyExists
  | writeOutcomeUnknown
  | accepted
  | saved
  | resourceLimit
  deriving DecidableEq, Repr

/-- The answer to a request that does not fit the write session. -/
def malformedBinaryWriteOutcome (hasActiveWriteSession : Bool) : OutcomeWord :=
  if hasActiveWriteSession = true then .writeOutcomeUnknown else .invalidRequest

/-- The answer to a request that does not fit the read session. -/
def malformedBinaryReadOutcome (hasActiveReadSession : Bool) : OutcomeWord :=
  if hasActiveReadSession = true then .nativeBridge else .invalidRequest

/-- Whose session it is that is open. -/
inductive BinarySessionOwnership where
  | idle
  | owner
  | foreign
  deriving DecidableEq, Repr

/-- A session is the owner's if id and root are. -/
def classifyBinarySessionOwnership (activeSessionId activeRootIdentityHex requestSessionId
    requestRootIdentityHex : Option String) : BinarySessionOwnership :=
  if activeSessionId = none ∧ activeRootIdentityHex = none then .idle
  else if activeSessionId = requestSessionId ∧ activeRootIdentityHex = requestRootIdentityHex then
    .owner
  else .foreign

/-! ## State -/

/-- The read that is open. -/
structure BinaryReadSession where
  id : String
  rootIdentityHex : String
  root : String
  path : Text
  documentId : String
  /-- What the stream will give. -/
  input : List UInt8
  /-- What the digest has been fed. -/
  digest : List UInt8
  read : ℕ
  deriving DecidableEq, Repr

/-- The create that is open. -/
structure BinaryWriteSession where
  id : String
  rootIdentityHex : String
  root : String
  path : Text
  documentId : String
  expectedSha256Hex : String
  expectedByteLen : ℕ
  /-- What the digest has been fed. -/
  digest : List UInt8
  written : ℕ
  deriving DecidableEq, Repr

/-- The plugin, its preferences and the documents of the provider. -/
structure Plugin where
  rootUri : Option String
  /-- The persisted read and write permission for the root. -/
  permitted : Bool
  operationInFlight : Bool
  binaryReadSession : Option BinaryReadSession
  binaryWriteSession : Option BinaryWriteSession
  children : String → Option (List Child)
  content : String → Option (List UInt8)
  /-- The calls of the provider so far. -/
  calls : ℕ

/-- What a call of the provider throws. -/
inductive Failure where
  | security
  | other
  deriving DecidableEq, Repr

/-- The answers of the provider and of the system. -/
structure Android where
  sha256 : Sha256
  getTreeDocumentId : String → String
  /-- `Base64.decode` without line breaks, the standard decoding. -/
  decode : List UInt8 → Option (List UInt8)
  decode_encodeBase64 : ∀ bytes, decode (encodeBase64 bytes) = some bytes
  throws : ℕ → Option Failure
  /-- How many bytes a read has at hand. -/
  available : ℕ → ℕ
  /-- The id and the display name of a document that is created. -/
  created : ℕ → Option (String × Text)

/-- What a command of the plugin throws. -/
inductive Thrown where
  | missing
  | limit
  | stale
  | existing
  | unknownWrite
  | rootMismatch
  | sessionBusy
  | sessionMismatch
  | security
  | other
  deriving DecidableEq, Repr

/-- Commands of the plugin. -/
abbrev Command (α : Type) := Program Plugin Thrown α

/-- What the plugin throws where Android does. -/
def Failure.thrown : Failure → Thrown
  | .security => .security
  | .other => .other

/-! ## Sessions and root -/

/-- Close the read session, or only the one of this id. -/
def closeBinaryReadSession (expectedSessionId : Option String) (plugin : Plugin) : Plugin :=
  match plugin.binaryReadSession with
  | none => plugin
  | some session =>
    if expectedSessionId ≠ none ∧ some session.id ≠ expectedSessionId then plugin
    else { plugin with binaryReadSession := none }

/-- Close the write session, or only the one of this id. -/
def closeBinaryWriteSession (expectedSessionId : Option String) (plugin : Plugin) : Plugin :=
  match plugin.binaryWriteSession with
  | none => plugin
  | some session =>
    if expectedSessionId ≠ none ∧ some session.id ≠ expectedSessionId then plugin
    else { plugin with binaryWriteSession := none }

/-- Forget the root, and with it both sessions. -/
def clearRoot (plugin : Plugin) : Plugin :=
  { closeBinaryWriteSession none (closeBinaryReadSession none plugin) with rootUri := none }

/-- The session that is open, if one is. -/
def activeBinarySessionId (plugin : Plugin) : Option String :=
  plugin.binaryReadSession.map BinaryReadSession.id <|>
    plugin.binaryWriteSession.map BinaryWriteSession.id

/-- No session is open and no operation under way. -/
def requireNoBinarySession : Command Unit := do
  let plugin ← read id
  reject (activeBinarySessionId plugin ≠ none ∨ plugin.operationInFlight = true) .sessionBusy

/-- Without the permission the root is forgotten. -/
def persistedRoot : Command (Option String) := do
  let plugin ← read id
  if plugin.rootUri ≠ none ∧ plugin.permitted = false then do
    write clearRoot
    pure none
  else pure plugin.rootUri

/-- What is hashed before the root. -/
def rootIdentityDomain : String := "myvault:saf-root:v1\x00"

section Commands

variable (android : Android)

/-- The identity of a root. -/
def stableRootIdentityHex (rootUri : String) : String :=
  hexSha256 android.sha256 (strBytes (rootIdentityDomain ++ rootUri))

/-- The root is the expected one, and no session of others is open. -/
def requireRoot (expectedRootIdentityHex : String) (ownerSessionId : Option String) :
    Command String := do
  let plugin ← read id
  let activeSessionId := activeBinarySessionId plugin
  reject (activeSessionId ≠ none ∧ activeSessionId ≠ ownerSessionId) .sessionBusy
  require (isLowerHex64 expectedRootIdentityHex = true) .rootMismatch
  let root ← persistedRoot
  let root ← the root .security
  require (stableRootIdentityHex android root = expectedRootIdentityHex) .rootMismatch
  pure root

/-- Forget the root if it is this one. -/
def clearRootIfMatches (expectedRootIdentityHex : String) (plugin : Plugin) : Plugin :=
  match plugin.rootUri with
  | none => plugin
  | some root =>
    if stableRootIdentityHex android root = expectedRootIdentityHex then clearRoot plugin
    else plugin

/-! ## Calls of the provider -/

/-- A call that may throw; its number. -/
def call : Command ℕ := do
  let now ← read Plugin.calls
  write fun plugin => { plugin with calls := plugin.calls + 1 }
  match android.throws now with
  | some failure => throw failure.thrown
  | none => pure now

/-- The children of a document. -/
def queryChildren (parentId : String) : Command (List Child) := do
  let _ ← call android
  let plugin ← read id
  the (plugin.children parentId) .security

/-- The loop of `resolveDocument`. -/
def resolveComponents : String → Option Child → List Text → Command (Option Child)
  | _, selected, [] => pure selected
  | parentId, _, component :: rest => do
    let children ← queryChildren android parentId
    match children.filter (·.name = component) with
    | [child] => resolveComponents child.documentId (some child) rest
    | _ => pure none

/-- The document of a path below the root. -/
def resolveDocumentIn (root : String) (path : Text) : Command (Option Child) :=
  resolveComponents android (android.getTreeDocumentId root) none (splitSlash path)

/-- The content of a document. -/
def openInputStream (documentId : String) : Command (List UInt8) := do
  let _ ← call android
  let plugin ← read id
  the (plugin.content documentId) .missing

/-- One `read` of a stream that is not at its end, into room for so many bytes. -/
def readSome (room : ℕ) (input : List UInt8) : Command ℕ := do
  let now ← call android
  let count := min room (min input.length (android.available now))
  reject (count = 0) .missing
  pure count

/-- The loop of `readNextChunk`: what it has read, and what the stream still gives. -/
def readNextChunk (output input : List UInt8) : Command (List UInt8 × List UInt8) :=
  if binaryBridgeChunkBytes ≤ output.length then pure (output, input)
  else
    match input with
    | [] => do
      let _ ← call android
      pure (output, [])
    | byte :: input => do
      let count ← readSome android (min 8192 (binaryBridgeChunkBytes - output.length))
        (byte :: input)
      readNextChunk (output ++ (byte :: input).take count) (input.drop (count - 1))
termination_by input.length
decreasing_by simp only [List.length_drop, List.length_cons]; omega

/-- The loop of `verifyBinaryDocument`; what the digest has been fed. -/
def verifyStream (digest input : List UInt8) : Command (List UInt8) :=
  match input with
  | [] => do
    let _ ← call android
    pure digest
  | byte :: input => do
    let count ← readSome android 8192 (byte :: input)
    reject (binaryMaxTransferBytes < digest.length + count) .limit
    verifyStream (digest ++ (byte :: input).take count) (input.drop (count - 1))
termination_by input.length
decreasing_by simp only [List.length_drop, List.length_cons]; omega

/-- The digest and the length of a document, read to its end. -/
def verifyBinaryDocument (documentId : String) : Command (String × ℕ) := do
  let input ← openInputStream android documentId
  let digest ← verifyStream android [] input
  pure (hexSha256 android.sha256 digest, digest.length)

/-! ## Creating a document -/

/-- A new document of a folder, under the name the provider gives it. -/
def addDocument (parentId mime : String) (answer : String × Text) (plugin : Plugin) : Plugin :=
  let child := { documentId := answer.1, name := answer.2, mime, size := 0, sizeKnown := true }
  let children := fun documentId =>
    if documentId = parentId then (plugin.children parentId).map (· ++ [child])
    else if documentId = answer.1 ∧ mime = mimeTypeDir then some []
    else plugin.children documentId
  { plugin with
      children := children
      content := fun documentId =>
        if documentId = answer.1 then some [] else plugin.content documentId }

/-- `DocumentsContract.createDocument` and the id of what it has created. -/
def createDocument (parentId mime : String) : Command String := do
  let now ← call android
  let answer ← the (android.created now) .unknownWrite
  write (addDocument parentId mime answer)
  pure answer.1

/-- One turn of the loop over the folders of a path. -/
def enterFolder (parentId : String) (component : Text) : Command String := do
  let children ← queryChildren android parentId
  match children.filter (·.name = component) with
  | [] => createDocument android parentId mimeTypeDir
  | [child] => if child.isDir = true then pure child.documentId else throw .existing
  | _ => throw .unknownWrite

/-- Create the document of a path, with the folders above it. -/
def createEmptyBinaryDocument (root : String) (path : Text) : Command String := do
  let parts := splitSlash path
  let name := parts.getLastD []
  let parentId ← parts.dropLast.foldlM (enterFolder android) (android.getTreeDocumentId root)
  let children ← queryChildren android parentId
  reject ((children.any (·.name = name)) = true) .existing
  let documentId ← createDocument android parentId "application/octet-stream"
  let children ← queryChildren android parentId
  require ((children.filter (·.name = name)).map Child.documentId = [documentId]) .unknownWrite
  pure documentId

/-! ## Reading -/

/-- An answer with a word; only `ready` echoes the session, and only some have evidence. -/
structure Outcome where
  outcome : OutcomeWord
  sessionId : Option String
  nextOffset : Option ℕ
  revisionHex : Option String
  byteLen : Option ℕ
  deriving DecidableEq, Repr

/-- An answer that is a word. -/
def saveOutcome (outcome : OutcomeWord) : Outcome :=
  { outcome, sessionId := none, nextOffset := none, revisionHex := none, byteLen := none }

/-- The answer to a begin that went well. -/
def readyOutcome (sessionId : String) : Outcome :=
  { saveOutcome .ready with sessionId := some sessionId }

/-- The answer to a finish that went well. -/
def savedBinaryEvidence (revisionHex : String) (byteLen : ℕ) : Outcome :=
  { saveOutcome .saved with revisionHex := some revisionHex, byteLen := some byteLen }

/-- The answer to a read of a chunk. -/
structure Chunk where
  offset : ℤ
  bytesBase64 : List UInt8
  eof : Bool
  revisionHex : Option String
  byteLen : Option ℕ
  deriving DecidableEq, Repr

/-- The code of a rejected command. -/
inductive Rejection where
  | nativeBridge
  | resourceLimit
  | vaultUnavailable
  deriving DecidableEq, Repr

/-- A command with its answer; nothing is thrown out of it. -/
abbrev Answered (α : Type) := Program Plugin Rejection α

/-- The arguments of `beginBinaryRead`. -/
structure BinaryReadBeginArgs where
  expectedRootIdentityHex : String
  path : Text
  sessionId : String

/-- The arguments of `readBinaryChunk`. -/
structure BinaryReadChunkArgs where
  expectedRootIdentityHex : String
  sessionId : String
  offset : ℤ

/-- The arguments of the commands that end a session. -/
structure BinarySessionArgs where
  expectedRootIdentityHex : String
  sessionId : String

/-- Who asks, as the active read session sees it. -/
def readOwnership (plugin : Plugin) (sessionId rootIdentityHex : String) :
    BinarySessionOwnership :=
  classifyBinarySessionOwnership (plugin.binaryReadSession.map BinaryReadSession.id)
    (plugin.binaryReadSession.map BinaryReadSession.rootIdentityHex) (some sessionId)
    (some rootIdentityHex)

/-- Whose the write session is. -/
def writeOwnership (plugin : Plugin) (sessionId rootIdentityHex : String) :
    BinarySessionOwnership :=
  classifyBinarySessionOwnership (plugin.binaryWriteSession.map BinaryWriteSession.id)
    (plugin.binaryWriteSession.map BinaryWriteSession.rootIdentityHex) (some sessionId)
    (some rootIdentityHex)

/-- What `beginBinaryRead` does under the lock. -/
def openReadSession (args : BinaryReadBeginArgs) (path : Text) : Command Outcome := do
  requireNoBinarySession
  let root ← requireRoot android args.expectedRootIdentityHex none
  let document ← resolveDocumentIn android root path
  let document ← the document .missing
  reject (document.isDir = true) .missing
  let input ← openInputStream android document.documentId
  let session :=
    { id := args.sessionId, rootIdentityHex := args.expectedRootIdentityHex, root, path
      documentId := document.documentId, input, digest := [], read := 0 }
  write fun plugin => { plugin with binaryReadSession := some session }
  pure (readyOutcome args.sessionId)

/-- Open a read, if nothing is open and the document is there. -/
def beginBinaryRead (args : BinaryReadBeginArgs) : Answered Outcome :=
  match canonicalPortablePath args.path with
  | .error _ => pure (saveOutcome .invalidRequest)
  | .ok path =>
    if isCanonicalBinarySessionId args.sessionId = false then
      pure (saveOutcome .invalidRequest)
    else do
      match ← catching (openReadSession android args path) with
      | .ok outcome => pure outcome
      | .error .sessionBusy => pure (saveOutcome .busy)
      | .error .rootMismatch => pure (saveOutcome .vaultUnavailable)
      | .error .missing => pure (saveOutcome .notFound)
      | .error .security => do
        write (clearRootIfMatches android args.expectedRootIdentityHex)
        pure (saveOutcome .vaultUnavailable)
      | .error _ => pure (saveOutcome .nativeBridge)

/-- The end of a stream: the document is read again. -/
def finishRead (session : BinaryReadSession) (offset : ℤ) (chunk : List UInt8) :
    Command Chunk := do
  let streamedDigest := hexSha256 android.sha256 session.digest
  let streamedLength := session.read
  write (closeBinaryReadSession (some session.id))
  let current ← resolveDocumentIn android session.root session.path
  let current ← the (current.filter fun child =>
    child.documentId = session.documentId ∧ child.isDir = false) .stale
  let verification ← verifyBinaryDocument android current.documentId
  require (verification = (streamedDigest, streamedLength)) .stale
  pure { offset, bytesBase64 := encodeBase64 chunk, eof := true
         revisionHex := some streamedDigest, byteLen := some streamedLength }

/-- What follows the checks of the owner and the offset. -/
def continueRead (session : BinaryReadSession) (args : BinaryReadChunkArgs) : Command Chunk := do
  let _ ← requireRoot android args.expectedRootIdentityHex (some args.sessionId)
  let (chunk, input) ← readNextChunk android [] session.input
  let session := { session with
    input, digest := session.digest ++ chunk, read := session.read + chunk.length }
  reject (binaryMaxTransferBytes < session.read) .limit
  write fun plugin => { plugin with binaryReadSession := some session }
  if isBinaryChunkEof chunk.length = true then finishRead android session args.offset chunk
  else pure { offset := args.offset, bytesBase64 := encodeBase64 chunk, eof := false
              revisionHex := none, byteLen := none }

/-- What `readBinaryChunk` does under the lock. -/
def nextReadChunk (args : BinaryReadChunkArgs) : Command Chunk := do
  let plugin ← read id
  match plugin.binaryReadSession with
  | none => throw .sessionMismatch
  | some session =>
    if readOwnership plugin args.sessionId args.expectedRootIdentityHex ≠ .owner then
      throw .sessionMismatch
    else if (session.read : ℤ) ≠ args.offset then do
      write (closeBinaryReadSession (some args.sessionId))
      throw .sessionMismatch
    else continueRead android session args

/-- A session that the request owns is closed. -/
def closeOwnRead (sessionId rootIdentityHex : String) (plugin : Plugin) : Plugin :=
  if readOwnership plugin sessionId rootIdentityHex = .owner then
    closeBinaryReadSession (some sessionId) plugin
  else plugin

/-- The next chunk of a read. -/
def readBinaryChunk (args : BinaryReadChunkArgs) : Answered Chunk := do
  if isCanonicalBinarySessionId args.sessionId = false ∨
      isValidBinaryReadOffset args.offset = false then do
    let plugin ← read id
    write (closeOwnRead args.sessionId args.expectedRootIdentityHex)
    if readOwnership plugin args.sessionId args.expectedRootIdentityHex ≠ .idle then
      throw .nativeBridge
    else throw .resourceLimit
  else
    match ← catching (nextReadChunk android args) with
    | .ok chunk => pure chunk
    | .error .sessionMismatch => throw .nativeBridge
    | .error .rootMismatch => do
      write (closeBinaryReadSession (some args.sessionId))
      throw .vaultUnavailable
    | .error .stale => do
      write (closeBinaryReadSession (some args.sessionId))
      throw .nativeBridge
    | .error .limit => do
      write (closeBinaryReadSession (some args.sessionId))
      throw .resourceLimit
    | .error .security => do
      write (clearRootIfMatches android args.expectedRootIdentityHex)
      throw .vaultUnavailable
    | .error _ => do
      write (closeBinaryReadSession (some args.sessionId))
      throw .vaultUnavailable

/-- Give a read up. -/
def abortBinaryRead (args : BinarySessionArgs) : Answered Outcome := do
  let plugin ← read id
  let ownership := readOwnership plugin args.sessionId args.expectedRootIdentityHex
  if ownership ≠ .owner then
    pure (saveOutcome (malformedBinaryReadOutcome (ownership == .foreign)))
  else do
    write (closeBinaryReadSession (some args.sessionId))
    pure (saveOutcome .aborted)

/-! ## Creating -/

/-- The arguments of `beginBinaryCreate`. -/
structure BinaryWriteBeginArgs where
  expectedRootIdentityHex : String
  path : Text
  sha256Hex : String
  sessionId : String
  byteLen : ℤ

/-- The arguments of `appendBinaryChunk`. -/
structure BinaryWriteChunkArgs where
  expectedRootIdentityHex : String
  sessionId : String
  bytesBase64 : List UInt8
  offset : ℤ

/-- `openFileDescriptor` in the mode that truncates. -/
def openTruncated (documentId : String) : Command Unit := do
  match ← catching (call android) with
  | .error _ => throw .unknownWrite
  | .ok _ => do
    let plugin ← read id
    require ((plugin.content documentId).isSome = true) .unknownWrite
    write fun plugin => { plugin with
      content := fun id => if id = documentId then some [] else plugin.content id }

/-- What `beginBinaryCreate` does under the lock. -/
def openWriteSession (args : BinaryWriteBeginArgs) (path : Text) : Command Outcome := do
  requireNoBinarySession
  let root ← requireRoot android args.expectedRootIdentityHex none
  let documentId ← createEmptyBinaryDocument android root path
  openTruncated android documentId
  let session :=
    { id := args.sessionId, rootIdentityHex := args.expectedRootIdentityHex, root, path
      documentId, expectedSha256Hex := args.sha256Hex, expectedByteLen := args.byteLen.toNat
      digest := [], written := 0 }
  write fun plugin => { plugin with binaryWriteSession := some session }
  pure (readyOutcome args.sessionId)

/-- Create an empty document and open it, if nothing is open. -/
def beginBinaryCreate (args : BinaryWriteBeginArgs) : Answered Outcome :=
  match canonicalPortablePath args.path with
  | .error _ => pure (saveOutcome .invalidRequest)
  | .ok path =>
    if isLowerHex64 args.sha256Hex = false ∨ isCanonicalBinarySessionId args.sessionId = false ∨
        args.byteLen < 0 ∨ (binaryMaxTransferBytes : ℤ) < args.byteLen then
      pure (saveOutcome .invalidRequest)
    else do
      match ← catching (openWriteSession android args path) with
      | .ok outcome => pure outcome
      | .error .sessionBusy => pure (saveOutcome .busy)
      | .error .rootMismatch => pure (saveOutcome .vaultUnavailable)
      | .error .existing => pure (saveOutcome .alreadyExists)
      | .error .security => do
        write (clearRootIfMatches android args.expectedRootIdentityHex)
        pure (saveOutcome .writeOutcomeUnknown)
      | .error _ => pure (saveOutcome .writeOutcomeUnknown)

/-- Bytes written at a position of a file. -/
def writeAt (content : List UInt8) (position : ℕ) (chunk : List UInt8) : List UInt8 :=
  (content ++ List.replicate (position - content.length) 0).take position ++ chunk ++
    content.drop (position + chunk.length)

/-- The document with a chunk at a position. -/
def writeContent (documentId : String) (position : ℕ) (chunk : List UInt8) (plugin : Plugin) :
    Plugin :=
  { plugin with
      content := fun id =>
        if id = documentId then (plugin.content id).map fun content =>
          writeAt content position chunk
        else plugin.content id }

/-- `output.write`: when it throws, a part may be written. -/
def writeOutput (session : BinaryWriteSession) (chunk : List UInt8) : Command Unit := do
  let now ← read Plugin.calls
  match ← catching (call android) with
  | .error thrown => do
    write (writeContent session.documentId session.written (chunk.take (android.available now)))
    throw thrown
  | .ok _ => write (writeContent session.documentId session.written chunk)

/-- The `try` of `appendBinaryChunk`. -/
def appendChunk (session : BinaryWriteSession) (args : BinaryWriteChunkArgs) (chunk : List UInt8)
    (nextOffset : ℕ) : Command Outcome := do
  let _ ← requireRoot android args.expectedRootIdentityHex (some args.sessionId)
  writeOutput android session chunk
  let session := { session with digest := session.digest ++ chunk, written := nextOffset }
  write fun plugin => { plugin with binaryWriteSession := some session }
  pure { saveOutcome .accepted with nextOffset := some nextOffset }

/-- A session that the request owns is closed. -/
def closeOwnWrite (sessionId rootIdentityHex : String) (plugin : Plugin) : Plugin :=
  if writeOwnership plugin sessionId rootIdentityHex = .owner then
    closeBinaryWriteSession (some sessionId) plugin
  else plugin

/-- The next chunk of a create. -/
def appendBinaryChunk (args : BinaryWriteChunkArgs) : Answered Outcome := do
  let plugin ← read id
  let ownership := writeOwnership plugin args.sessionId args.expectedRootIdentityHex
  match android.decode args.bytesBase64 with
  | none => do
    write (closeOwnWrite args.sessionId args.expectedRootIdentityHex)
    pure (saveOutcome (malformedBinaryWriteOutcome (ownership != .idle)))
  | some chunk =>
    match plugin.binaryWriteSession with
    | none => pure (saveOutcome (malformedBinaryWriteOutcome false))
    | some session =>
      if ownership ≠ .owner then
        pure (saveOutcome (malformedBinaryWriteOutcome (ownership == .foreign)))
      else
        match nextBinaryWriteOffset session.written session.expectedByteLen args.offset
            chunk.length with
        | none => do
          write (closeBinaryWriteSession (some args.sessionId))
          pure (saveOutcome .writeOutcomeUnknown)
        | some nextOffset => do
          match ← catching (appendChunk android session args chunk nextOffset) with
          | .ok outcome => pure outcome
          | .error _ => do
            write (closeBinaryWriteSession (some args.sessionId))
            pure (saveOutcome .writeOutcomeUnknown)

/-- The `try` of `finishBinaryCreate`. -/
def finishCreate (session : BinaryWriteSession) (args : BinarySessionArgs) : Command Outcome := do
  let _ ← requireRoot android args.expectedRootIdentityHex (some args.sessionId)
  if session.written ≠ session.expectedByteLen ∨
      hexSha256 android.sha256 session.digest ≠ session.expectedSha256Hex then do
    write (closeBinaryWriteSession (some args.sessionId))
    pure (saveOutcome .writeOutcomeUnknown)
  else do
    let _ ← call android
    let _ ← call android
    write (closeBinaryWriteSession (some args.sessionId))
    let current ← resolveDocumentIn android session.root session.path
    match current.filter fun child =>
        child.documentId = session.documentId ∧ child.isDir = false with
    | none => pure (saveOutcome .writeOutcomeUnknown)
    | some current => do
      let verification ← verifyBinaryDocument android current.documentId
      if verification.2 ≠ session.expectedByteLen ∨ verification.1 ≠ session.expectedSha256Hex then
        pure (saveOutcome .writeOutcomeUnknown)
      else pure (savedBinaryEvidence verification.1 verification.2)

/-- Close a create, and verify what was written. -/
def finishBinaryCreate (args : BinarySessionArgs) : Answered Outcome := do
  let plugin ← read id
  match plugin.binaryWriteSession with
  | none => pure (saveOutcome (malformedBinaryWriteOutcome false))
  | some session =>
    let ownership := writeOwnership plugin args.sessionId args.expectedRootIdentityHex
    if ownership ≠ .owner then
      pure (saveOutcome (malformedBinaryWriteOutcome (ownership == .foreign)))
    else do
      match ← catching (finishCreate android session args) with
      | .ok outcome => pure outcome
      | .error _ => do
        write (closeBinaryWriteSession (some args.sessionId))
        pure (saveOutcome .writeOutcomeUnknown)

/-- Give a create up. -/
def abortBinaryCreate (args : BinarySessionArgs) : Answered Outcome := do
  let plugin ← read id
  match plugin.binaryWriteSession with
  | none => pure (saveOutcome (malformedBinaryWriteOutcome false))
  | some _ =>
    let ownership := writeOwnership plugin args.sessionId args.expectedRootIdentityHex
    if ownership ≠ .owner then
      pure (saveOutcome (malformedBinaryWriteOutcome (ownership == .foreign)))
    else do
      write (closeBinaryWriteSession (some args.sessionId))
      pure (saveOutcome .aborted)

end Commands

end Saf
end MyVault
