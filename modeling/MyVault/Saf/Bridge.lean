import MyVault.Saf.Sessions

/-!
# The client of the binary sessions

`tauri-plugin-vault-saf/src/lib.rs`: `read_binary` and `write_binary`, which drive the plugin
request by request.  Between two of its requests the plugin may be asked by others, under
other session ids, and other apps may change the documents; a request or its answer may be
lost.  All this is a `Turn` for each request of the client.
-/

namespace MyVault
namespace Saf

open Program

/-! ## What happens in between -/

/-- A command with its arguments. -/
inductive Request where
  | beginBinaryRead (args : BinaryReadBeginArgs)
  | readBinaryChunk (args : BinaryReadChunkArgs)
  | abortBinaryRead (args : BinarySessionArgs)
  | beginBinaryCreate (args : BinaryWriteBeginArgs)
  | appendBinaryChunk (args : BinaryWriteChunkArgs)
  | finishBinaryCreate (args : BinarySessionArgs)
  | abortBinaryCreate (args : BinarySessionArgs)

/-- The session a request is for. -/
def Request.sessionId : Request → String
  | .beginBinaryRead args => args.sessionId
  | .readBinaryChunk args => args.sessionId
  | .abortBinaryRead args => args.sessionId
  | .beginBinaryCreate args => args.sessionId
  | .appendBinaryChunk args => args.sessionId
  | .finishBinaryCreate args => args.sessionId
  | .abortBinaryCreate args => args.sessionId

/-- The root a request is for. -/
def Request.rootIdentityHex : Request → String
  | .beginBinaryRead args => args.expectedRootIdentityHex
  | .readBinaryChunk args => args.expectedRootIdentityHex
  | .abortBinaryRead args => args.expectedRootIdentityHex
  | .beginBinaryCreate args => args.expectedRootIdentityHex
  | .appendBinaryChunk args => args.expectedRootIdentityHex
  | .finishBinaryCreate args => args.expectedRootIdentityHex
  | .abortBinaryCreate args => args.expectedRootIdentityHex

/-- What the command leaves, whatever it answers. -/
def Request.run (android : Android) : Request → Plugin → Plugin
  | .beginBinaryRead args, plugin => (exec (Saf.beginBinaryRead android args) plugin).2
  | .readBinaryChunk args, plugin => (exec (Saf.readBinaryChunk android args) plugin).2
  | .abortBinaryRead args, plugin => (exec (Saf.abortBinaryRead args) plugin).2
  | .beginBinaryCreate args, plugin => (exec (Saf.beginBinaryCreate android args) plugin).2
  | .appendBinaryChunk args, plugin => (exec (Saf.appendBinaryChunk android args) plugin).2
  | .finishBinaryCreate args, plugin => (exec (Saf.finishBinaryCreate android args) plugin).2
  | .abortBinaryCreate args, plugin => (exec (Saf.abortBinaryCreate args) plugin).2

/-- A request of another session, or a change by another app: it may touch the documents,
the permission, and what an open stream still gives. -/
inductive Disturbance (sessionId : String) where
  | request (asked : Request) (other : asked.sessionId ≠ sessionId)
  | change (children : String → Option (List Child)) (content : String → Option (List UInt8))
      (permitted : Bool) (input : List UInt8)

/-- Another caller has asked something. -/
def Disturbance.isRequest {sessionId : String} : Disturbance sessionId → Bool
  | .request _ _ => true
  | .change _ _ _ _ => false

/-- The plugin after a disturbance. -/
def Disturbance.apply {sessionId : String} (android : Android) (plugin : Plugin) :
    Disturbance sessionId → Plugin
  | .request asked _ => asked.run android plugin
  | .change children content permitted input =>
    { plugin with
        children, content, permitted
        binaryReadSession := plugin.binaryReadSession.map fun session => { session with input } }

/-- What becomes of a request on its way. -/
inductive Delivery where
  | delivered
  | requestLost
  | answerLost
  deriving DecidableEq, Repr

/-- One request of the client: what happens before it, and whether it gets through. -/
structure Turn (sessionId : String) where
  before : List (Disturbance sessionId)
  delivery : Delivery

/-- The plugin, and the requests of the client so far. -/
structure Bridge where
  plugin : Plugin
  requests : ℕ

/-- Calls of the bridge, with the errors it returns. -/
abbrev Client (α : Type) := Program Bridge SafTransferError α

/-- The `Result` of a part. -/
def attempt {α : Type} (p : Client α) : Client (Except SafTransferError α) := catching p

/-! ## The client -/

/-- What to do after the answer to a begin. -/
inductive NativeBeginDecision where
  | proceed
  | rejectWithoutAbort
  | rejectAndAbort
  deriving DecidableEq, Repr

/-- Go on, give up, or give up and abort what may have begun. -/
def classifyNativeBeginResponse (outcome : OutcomeWord) (echoedSessionId : Option String)
    (requestedSessionId : String) (explicitRejections : List OutcomeWord) : NativeBeginDecision :=
  if outcome = .ready ∧ echoedSessionId = some requestedSessionId then .proceed
  else if outcome ∈ explicitRejections then .rejectWithoutAbort
  else .rejectAndAbort

/-- The content that was read, and its revision. -/
structure SafBinary where
  bytes : List UInt8
  revisionHex : String
  byteLen : ℕ
  deriving DecidableEq, Repr

/-- The revision that was created. -/
structure SafSave where
  revisionHex : String
  byteLen : ℕ
  deriving DecidableEq, Repr

/-- `MAX_NATIVE_TRANSFER_BYTES`. -/
def maxNativeTransferBytes : ℕ := 16 * 1024 * 1024

/-- `MAX_NATIVE_BRIDGE_CHUNK_BYTES`. -/
def maxNativeBridgeChunkBytes : ℕ := 192 * 1024

/-- `map_transfer_plugin_error`. -/
def Rejection.transferError : Rejection → SafTransferError
  | .nativeBridge => .nativeBridge
  | .resourceLimit => .resourceLimit
  | .vaultUnavailable => .vaultUnavailable

section Client

variable (android : Android) {sessionId : String} (turns : ℕ → Turn sessionId)

/-- `run_mobile_plugin`; an answer that does not arrive has no code. -/
def runMobilePlugin {α : Type} (command : Answered α) : Client α := do
  let bridge ← read id
  let turn := turns bridge.requests
  let plugin := turn.before.foldl (Disturbance.apply android) bridge.plugin
  match turn.delivery with
  | .requestLost => do
    write fun _ => { plugin, requests := bridge.requests + 1 }
    throw .nativeBridge
  | .answerLost => do
    write fun _ => { plugin := (exec command plugin).2, requests := bridge.requests + 1 }
    throw .nativeBridge
  | .delivered => do
    write fun _ => { plugin := (exec command plugin).2, requests := bridge.requests + 1 }
    lift ((exec command plugin).1.mapError Rejection.transferError)

/-- A request whose answer is not looked at, and then the error. -/
def abortWith {α : Type} (command : Answered Outcome) (error : SafTransferError) : Client α := do
  let _ ← attempt (runMobilePlugin android turns command)
  throw error

/-- Abort the read and return the error. -/
def abortReadWith {α : Type} (root : String) (error : SafTransferError) : Client α :=
  abortWith android turns (abortBinaryRead { expectedRootIdentityHex := root, sessionId }) error

/-- Abort the create and return the error. -/
def abortCreateWith {α : Type} (root : String) (error : SafTransferError) : Client α :=
  abortWith android turns (abortBinaryCreate { expectedRootIdentityHex := root, sessionId }) error

/-- The evidence of the last chunk. -/
def acceptRead (bytes : List UInt8) (response : Chunk) : Except SafTransferError SafBinary :=
  match response.revisionHex.filter isLowerHex64, response.byteLen with
  | some revisionHex, some byteLen =>
    if byteLen ≠ bytes.length ∨ hexSha256 android.sha256 bytes ≠ revisionHex then
      .error .nativeBridge
    else .ok { bytes, revisionHex, byteLen }
  | _, _ => .error .nativeBridge

/-- The checks on an answer of `readBinaryChunk`; the bytes read so far. -/
def acceptChunk (maxBytes : ℕ) (bytes : List UInt8) (response : Chunk) :
    Except SafTransferError (List UInt8) := do
  Check.reject (response.offset ≠ bytes.length) .nativeBridge
  let chunk ← decodeBase64Bounded response.bytesBase64 maxNativeBridgeChunkBytes
  let invalidEofChunk := response.eof = true ∧ chunk.length = maxNativeBridgeChunkBytes
  let invalidContinuation := response.eof = false ∧
    (chunk.length ≠ maxNativeBridgeChunkBytes ∨ response.revisionHex.isSome = true ∨
      response.byteLen.isSome = true)
  Check.reject (invalidEofChunk ∨ invalidContinuation) .nativeBridge
  Check.reject (maxBytes < bytes.length + chunk.length) .resourceLimit
  .ok (bytes ++ chunk)

/-- The loop of `read_binary`.  `acceptChunk` lets only full chunks go on, so the second
condition holds whenever it is asked. -/
def readLoop (root : String) (maxBytes : ℕ) (bytes : List UInt8) : Client SafBinary := do
  let response ← runMobilePlugin android turns
    (readBinaryChunk android
      { expectedRootIdentityHex := root, sessionId, offset := (bytes.length : ℤ) })
  let bytes' ← lift (acceptChunk maxBytes bytes response)
  if response.eof = true then lift (acceptRead android bytes' response)
  else if bytes.length < bytes'.length ∧ bytes'.length ≤ maxBytes then
    readLoop root maxBytes bytes'
  else throw .nativeBridge
termination_by maxBytes - bytes.length

/-- The error for a refused begin of a read. -/
def readBeginError : OutcomeWord → SafTransferError
  | .notFound => .notFound
  | .resourceLimit => .resourceLimit
  | .vaultUnavailable => .vaultUnavailable
  | .busy => .vaultUnavailable
  | .invalidRequest => .invalidRequest
  | _ => .nativeBridge

/-- `read_binary`: begin, read the chunks, and verify what has come. -/
def readBinary (root : String) (path : Text) (maxBytes : ℕ) : Client SafBinary :=
  if isValidPortablePath path = false then throw .invalidPath
  else if maxNativeTransferBytes < maxBytes then throw .invalidRequest
  else do
    match ← attempt (runMobilePlugin android turns
        (beginBinaryRead android { expectedRootIdentityHex := root, path, sessionId })) with
    | .error error => abortReadWith android turns root error
    | .ok begun =>
      match classifyNativeBeginResponse begun.outcome begun.sessionId sessionId
          [.notFound, .resourceLimit, .vaultUnavailable, .busy, .invalidRequest] with
      | .rejectAndAbort => abortReadWith android turns root (readBeginError begun.outcome)
      | .rejectWithoutAbort => throw (readBeginError begun.outcome)
      | .proceed =>
        match ← attempt (readLoop android turns root maxBytes []) with
        | .ok binary => pure binary
        | .error error => abortReadWith android turns root error

/-- The loop of `write_binary` over the chunks of what is left. -/
def writeLoop (root : String) (offset : ℕ) : List UInt8 → Client Unit
  | [] => pure ()
  | byte :: rest => do
    let chunk := (byte :: rest).take maxNativeBridgeChunkBytes
    let response ← mapError (fun _ => SafTransferError.writeOutcomeUnknown)
      (runMobilePlugin android turns (appendBinaryChunk android
        { expectedRootIdentityHex := root, sessionId, bytesBase64 := encodeBase64 chunk
          offset := (offset : ℤ) }))
    let offset := offset + chunk.length
    require (response.outcome = .accepted ∧ response.nextOffset = some offset) .writeOutcomeUnknown
    writeLoop root offset (rest.drop (maxNativeBridgeChunkBytes - 1))
termination_by rest => rest.length
decreasing_by simp only [List.length_drop, List.length_cons]; omega

/-- The plugin has saved the bytes that were sent. -/
def acceptSave (bytes : List UInt8) (sha256Hex : String) (response : Outcome) :
    Except SafTransferError SafSave :=
  match response.outcome with
  | .saved =>
    match response.revisionHex.filter fun value => isLowerHex64 value && value == sha256Hex,
        response.byteLen.filter (· == bytes.length) with
    | some revisionHex, some byteLen => .ok { revisionHex, byteLen }
    | _, _ => .error .writeOutcomeUnknown
  | _ => .error .writeOutcomeUnknown

/-- The chunks and the end of `write_binary`. -/
def writeAndFinish (root : String) (bytes : List UInt8) (sha256Hex : String) : Client SafSave := do
  writeLoop android turns root 0 bytes
  let response ← mapError (fun _ => SafTransferError.writeOutcomeUnknown)
    (runMobilePlugin android turns
      (finishBinaryCreate android { expectedRootIdentityHex := root, sessionId }))
  lift (acceptSave bytes sha256Hex response)

/-- The error for a refused begin of a create. -/
def writeBeginError : OutcomeWord → SafTransferError
  | .alreadyExists => .alreadyExists
  | .resourceLimit => .resourceLimit
  | .vaultUnavailable => .vaultUnavailable
  | .busy => .vaultUnavailable
  | .invalidRequest => .invalidRequest
  | _ => .writeOutcomeUnknown

/-- `write_binary`: begin, send the chunks, and finish. -/
def writeBinary (root : String) (path : Text) (bytes : List UInt8) (sha256Hex : String) :
    Client SafSave :=
  if isValidPortablePath path = false ∨ maxNativeTransferBytes < bytes.length ∨
      isLowerHex64 sha256Hex = false then throw .invalidRequest
  else if hexSha256 android.sha256 bytes ≠ sha256Hex then throw .digestMismatch
  else do
    match ← attempt (runMobilePlugin android turns
        (beginBinaryCreate android
          { expectedRootIdentityHex := root, path, sha256Hex, sessionId
            byteLen := (bytes.length : ℤ) })) with
    | .error _ => abortCreateWith android turns root .writeOutcomeUnknown
    | .ok begun =>
      match classifyNativeBeginResponse begun.outcome begun.sessionId sessionId
          [.alreadyExists, .resourceLimit, .vaultUnavailable, .busy, .invalidRequest] with
      | .rejectAndAbort => abortCreateWith android turns root (writeBeginError begun.outcome)
      | .rejectWithoutAbort => throw (writeBeginError begun.outcome)
      | .proceed =>
        match ← attempt (writeAndFinish android turns root bytes sha256Hex) with
        | .ok save => pure save
        | .error error => abortCreateWith android turns root error

end Client

end Saf
end MyVault
