import MyVault.Drive.Transfer

/-!
# Resumable sessions, response by response

`upload_chunk` and `query_upload_status` of `myvault-drive/src/transfer.rs`, against a provider
that may answer anything: an `Exchange` is all that comes back in one call, the outcomes of the
proofs about account, root and folder among it.

The offset of a session only grows, and only by what a `308` acknowledges or by final metadata
that was read once more and matched (`Reply.Shape.sound`).
-/

namespace MyVault
namespace Drive
namespace Resumable

/-- The value of `Content-Range`. -/
inductive ContentRange where
  | bytes (first last total : ℕ)
  | unknown (total : ℕ)
  deriving DecidableEq, Repr

/-- A `PUT` on the session. -/
structure PutRequest where
  contentRange : ContentRange
  body : List UInt8
  deriving DecidableEq, Repr

/-- The answer to a `PUT`: a header is there if its value is text, and the body is what
`decode_bounded_json` makes of it. -/
structure PutResponse where
  status : ℕ
  range : Option String
  retryAfter : Option String
  body : Except ErrorCode TransferFile

/-- What comes back in one call: of the checks in front of the `PUT`, of the `PUT`, and of the
two requests that read the final metadata once more. -/
structure Exchange where
  folder : Except DriveError Unit
  response : Except DriveError PutResponse
  folderAgain : Except DriveError Unit
  metadata : Except DriveError TransferFile

/-- What a call does: the `PUT` it sends, its result, and the offset it leaves. -/
structure Reply where
  request : Option PutRequest
  result : Except DriveError UploadProgress
  nextOffset : ℕ

/-- An hour is the longest delay that is followed. -/
def maxRetryAfterSeconds : ℕ := 60 * 60

/-- An error without a hint. -/
def ErrorCode.plain (code : ErrorCode) : DriveError := { code, retryAfterSeconds := none }

/-- The error for the status of a response. -/
def mapStatusResponse (response : PutResponse) (session : Bool) : DriveError where
  code :=
    if response.status = 401 then .unauthorized
    else if response.status = 403 then .forbidden
    else if (response.status = 404 ∨ response.status = 410) ∧ session = true then .sessionExpired
    else if response.status = 404 then .notFound
    else if response.status = 429 then .rateLimited
    else if 500 ≤ response.status ∧ response.status ≤ 599 then .transientProvider
    else .providerRejected
  retryAfterSeconds :=
    if response.status = 429 then
      (response.retryAfter.bind parseU64).filter (· ≤ maxRetryAfterSeconds)
    else none

/-- `value.strip_prefix("bytes=0-")`. -/
def stripBytesFromZero (value : String) : Option String :=
  if "bytes=0-".toList.isPrefixOf value.toList = true then
    some (String.ofList (value.toList.drop 8))
  else none

/-- The offset to go on from, in the `Range` header; without one nothing has arrived. -/
def parseResumeRange : Option String → Except ErrorCode ℕ
  | none => .ok 0
  | some value =>
    match ((stripBytesFromZero value).bind parseU64).bind fun last => checkedAdd last 1 with
    | none => .error .rangeRejected
    | some nextOffset => .ok nextOffset

/-- `transfer_file_metadata`, of what comes back. -/
def transferFileMetadata (exchange : Exchange) (fileId : String) :
    Except DriveError TransferFile := do
  (validateIdentifier fileId).mapError ErrorCode.plain
  let file ← exchange.metadata
  (validateTransferFile file).mapError ErrorCode.plain
  Check.reject (file.id ≠ fileId) (ErrorCode.plain .malformedResponse)
  .ok file

/-- `recheck_existing`, with the operation marker. -/
def recheckExisting (exchange : Exchange) (fileId : String) (intent : CreateIntent) :
    Except DriveError (Option TransferFile) := do
  exchange.folderAgain
  let file ← transferFileMetadata exchange fileId
  .ok (if fileMatchesIntent file intent = true then some file else none)

/-- `ok_or_else` with a code. -/
def okOr {α : Type} (code : ErrorCode) : Option α → Except DriveError α
  | none => .error (ErrorCode.plain code)
  | some a => .ok a

/-- The final metadata, read once more. -/
def verifiedFinal (exchange : Exchange) (intent : CreateIntent) (response : PutResponse) :
    Except DriveError TransferFile := do
  let file ← response.body.mapError ErrorCode.plain
  (validateTransferFile file).mapError ErrorCode.plain
  Check.reject (fileMatchesIntent file intent = false) (ErrorCode.plain .malformedResponse)
  let responseVersion ← okOr .malformedResponse file.version
  let found ← recheckExisting exchange file.id intent
  let verified ← okOr .revisionMismatch found
  let verifiedVersion ← okOr .malformedResponse verified.version
  (requireProviderVersionNotRegressed responseVersion verifiedVersion).mapError ErrorCode.plain
  .ok verified

/-- `decode_upload_response`: the result, and the offset of the session. -/
def decodeUploadResponse (intent : CreateIntent) (offset : ℕ) (exchange : Exchange)
    (response : PutResponse) (uploaded : Option (ℕ × ℕ)) : Except DriveError UploadProgress × ℕ :=
  if 300 ≤ response.status ∧ response.status ≤ 399 ∧ response.status ≠ 308 then
    (.error (ErrorCode.plain .redirectRejected), offset)
  else if response.status = 308 then
    match parseResumeRange response.range with
    | .error code => (.error (ErrorCode.plain code), offset)
    | .ok nextOffset =>
      if intent.size < nextOffset ∨ nextOffset < offset ∨
          uploaded.any (fun range => decide (nextOffset ≤ range.1 ∨ range.2 < nextOffset)) then
        (.error (ErrorCode.plain .rangeRejected), offset)
      else (.ok (.inProgress nextOffset), nextOffset)
  else if response.status = 404 ∨ response.status = 410 then
    (.error (ErrorCode.plain .sessionExpired), offset)
  else if response.status ≠ 200 ∧ response.status ≠ 201 then
    (.error (mapStatusResponse response true), offset)
  else
    match verifiedFinal exchange intent response with
    | .error error => (.error error, offset)
    | .ok verified =>
      -- the offset is set before the result is put together
      (((remoteObject verified intent).mapError ErrorCode.plain).map .complete, intent.size)

/-- `put_session`, and what is made of its response. -/
def putSession (intent : CreateIntent) (offset : ℕ) (request : PutRequest) (exchange : Exchange)
    (uploaded : Option (ℕ × ℕ)) : Reply :=
  match exchange.folder with
  | .error error => { request := none, result := .error error, nextOffset := offset }
  | .ok _ =>
    match exchange.response with
    | .error error => { request := some request, result := .error error, nextOffset := offset }
    | .ok response =>
      { request := some request
        result := (decodeUploadResponse intent offset exchange response uploaded).1
        nextOffset := (decodeUploadResponse intent offset exchange response uploaded).2 }

/-- The guard of `upload_chunk`; where the chunk ends. -/
def chunkEnd (size offset length : ℕ) : Except ErrorCode ℕ :=
  if resumableUploadChunkBytes < length then .error .invalidInput
  else
    match checkedAdd offset length with
    | none => .error .invalidInput
    | some endOffset =>
      if size < endOffset ∨
          (endOffset < size ∧ (length = 0 ∨ length % chunkAlignment ≠ 0)) ∨
          (size ≠ 0 ∧ length = 0) then
        .error .invalidInput
      else .ok endOffset

/-- The range that a chunk is sent with. -/
def chunkRange (size offset endOffset : ℕ) : ContentRange :=
  if size = 0 then .unknown 0 else .bytes offset (endOffset - 1) size

/-- Send a chunk of the content. -/
def uploadChunk (intent : CreateIntent) (offset : ℕ) (bytes : List UInt8) (exchange : Exchange) :
    Reply :=
  match chunkEnd intent.size offset bytes.length with
  | .error code =>
    { request := none, result := .error (ErrorCode.plain code), nextOffset := offset }
  | .ok endOffset =>
    putSession intent offset
      { contentRange := chunkRange intent.size offset endOffset, body := bytes } exchange
      (some (offset, endOffset))

/-- Ask how much has arrived. -/
def queryUploadStatus (intent : CreateIntent) (offset : ℕ) (exchange : Exchange) : Reply :=
  putSession intent offset { contentRange := .unknown intent.size, body := [] } exchange none

/-! ## What a call does -/

/-- The final metadata has been read once more, and is what the intent says. -/
def Matched (exchange : Exchange) (intent : CreateIntent) : Prop :=
  ∃ verified, exchange.metadata = .ok verified ∧ fileMatchesIntent verified intent = true

/-- What a call can come to: a failure that leaves the offset, an acknowledgement, or the final
metadata. -/
inductive Reply.Shape (intent : CreateIntent) (offset : ℕ) (request : PutRequest)
    (exchange : Exchange) (uploaded : Option (ℕ × ℕ)) : Reply → Prop
  | failed (sent : Option PutRequest) (error : DriveError) (hsent : ∀ put ∈ sent, put = request) :
      Shape intent offset request exchange uploaded
        { request := sent, result := .error error, nextOffset := offset }
  | acknowledged (response : PutResponse) (nextOffset : ℕ)
      (hresponse : exchange.response = .ok response) (hstatus : response.status = 308)
      (hrange : parseResumeRange response.range = .ok nextOffset) (hgrows : offset ≤ nextOffset)
      (hfits : nextOffset ≤ intent.size)
      (hsent : ∀ range ∈ uploaded, range.1 < nextOffset ∧ nextOffset ≤ range.2) :
      Shape intent offset request exchange uploaded
        { request := some request, result := .ok (.inProgress nextOffset), nextOffset }
  | final (response : PutResponse) (result : Except DriveError UploadProgress)
      (hresponse : exchange.response = .ok response)
      (hstatus : response.status = 200 ∨ response.status = 201)
      (hresult : ∀ nextOffset, result ≠ .ok (.inProgress nextOffset))
      (hmatched : Matched exchange intent) :
      Shape intent offset request exchange uploaded
        { request := some request, result, nextOffset := intent.size }

variable {intent : CreateIntent} {offset : ℕ} {exchange : Exchange} {response : PutResponse}
  {uploaded : Option (ℕ × ℕ)} {request : PutRequest} {bytes : List UInt8} {reply : Reply}

theorem matched_of_verifiedFinal {verified : TransferFile}
    (h : verifiedFinal exchange intent response = .ok verified) : Matched exchange intent := by
  rw [verifiedFinal] at h
  obtain ⟨file, -, h⟩ := Check.bind_eq_ok.mp h
  obtain ⟨-, h⟩ := Check.seq_eq_ok.mp h
  obtain ⟨-, h⟩ := Check.seq_eq_ok.mp h
  obtain ⟨responseVersion, -, h⟩ := Check.bind_eq_ok.mp h
  obtain ⟨found, hfound, h⟩ := Check.bind_eq_ok.mp h
  obtain ⟨verified', hverified, h⟩ := Check.bind_eq_ok.mp h
  rw [recheckExisting] at hfound
  obtain ⟨-, hfound⟩ := Check.seq_eq_ok.mp hfound
  obtain ⟨again, hagain, hfound⟩ := Check.bind_eq_ok.mp hfound
  have hmatch : fileMatchesIntent again intent = true := by
    by_contra hne
    rw [if_neg hne] at hfound
    obtain rfl := Except.ok.inj hfound
    cases hverified
  rw [transferFileMetadata] at hagain
  obtain ⟨-, hagain⟩ := Check.seq_eq_ok.mp hagain
  obtain ⟨metadata, hmetadata, hagain⟩ := Check.bind_eq_ok.mp hagain
  obtain ⟨-, hagain⟩ := Check.seq_eq_ok.mp hagain
  obtain ⟨-, hagain⟩ := Check.seq_eq_ok.mp hagain
  obtain rfl := Except.ok.inj hagain
  exact ⟨metadata, hmetadata, hmatch⟩

/-- A result that is put together from the final metadata is no acknowledgement. -/
theorem final_ne_inProgress {verified : TransferFile} {nextOffset : ℕ} :
    ((remoteObject verified intent).mapError ErrorCode.plain).map UploadProgress.complete ≠
      .ok (.inProgress nextOffset) := by
  intro h
  cases hobject : remoteObject verified intent with
  | error error =>
      rw [hobject] at h
      cases h
  | ok remote =>
      rw [hobject] at h
      cases h

theorem putSession_shape :
    (putSession intent offset request exchange uploaded).Shape intent offset request exchange
      uploaded := by
  have hsame : ∀ put ∈ some request, put = request := fun put h => (Option.mem_some.mp h).symm
  rw [putSession]
  split
  · exact .failed none _ nofun
  · split
    · exact .failed _ _ hsame
    · rename_i response hresponse
      generalize hdecode : decodeUploadResponse intent offset exchange response uploaded = decoded
      rw [decodeUploadResponse] at hdecode
      split at hdecode
      · subst hdecode
        exact .failed _ _ hsame
      · split at hdecode
        · rename_i hstatus
          split at hdecode
          · subst hdecode
            exact .failed _ _ hsame
          · rename_i nextOffset hrange
            split at hdecode
            · subst hdecode
              exact .failed _ _ hsame
            · rename_i hbounds
              subst hdecode
              rw [not_or, not_or] at hbounds
              refine .acknowledged response nextOffset hresponse hstatus hrange
                (Nat.le_of_not_lt hbounds.2.1) (Nat.le_of_not_lt hbounds.1) fun range hmem => ?_
              obtain rfl := Option.mem_def.mp hmem
              have hany := hbounds.2.2
              rw [Option.any_some, decide_eq_true_eq, not_or] at hany
              exact ⟨Nat.lt_of_not_le hany.1, Nat.le_of_not_lt hany.2⟩
        · split at hdecode
          · subst hdecode
            exact .failed _ _ hsame
          · split at hdecode
            · subst hdecode
              exact .failed _ _ hsame
            · rename_i hstatus
              split at hdecode
              · subst hdecode
                exact .failed _ _ hsame
              · rename_i verified hverified
                subst hdecode
                exact .final response _ hresponse (by omega) (fun _ => final_ne_inProgress)
                  (matched_of_verifiedFinal hverified)

theorem chunkEnd_eq_ok {size length endOffset : ℕ}
    (h : chunkEnd size offset length = .ok endOffset) :
    endOffset = offset + length := by
  rw [chunkEnd] at h
  obtain ⟨-, h⟩ := Check.ite_error_eq_ok.mp h
  split at h
  · cases h
  · rename_i sum hsum
    obtain ⟨-, h⟩ := Check.ite_error_eq_ok.mp h
    rw [checkedAdd, fitsWord] at hsum
    split at hsum
    · rw [← Except.ok.inj h, ← Option.some.inj hsum]
    · cases hsum

/-- A chunk is sent with its range, if at all. -/
theorem uploadChunk_shape :
    (uploadChunk intent offset bytes exchange).Shape intent offset
      { contentRange := chunkRange intent.size offset (offset + bytes.length), body := bytes }
      exchange (some (offset, offset + bytes.length)) := by
  rw [uploadChunk]
  split
  · exact .failed none _ nofun
  · rename_i endOffset hend
    obtain rfl := chunkEnd_eq_ok hend
    exact putSession_shape

/-- A chunk that the guard lets through is sent once the folder has been proven. -/
theorem request_uploadChunk {endOffset : ℕ}
    (hguard : chunkEnd intent.size offset bytes.length = .ok endOffset)
    (hfolder : exchange.folder = .ok ()) :
    (uploadChunk intent offset bytes exchange).request =
      some { contentRange := chunkRange intent.size offset endOffset, body := bytes } := by
  rw [uploadChunk, hguard]
  dsimp only
  rw [putSession, hfolder]
  dsimp only
  split
  · rfl
  · rfl

theorem queryUploadStatus_shape :
    (queryUploadStatus intent offset exchange).Shape intent offset
      { contentRange := .unknown intent.size, body := [] } exchange none :=
  putSession_shape

/-! ## The offset -/

/-- What holds of every call: where the offset goes, and what a failure and a completion mean. -/
structure Reply.Sound (intent : CreateIntent) (offset : ℕ) (exchange : Exchange)
    (reply : Reply) : Prop where
  grows : offset ≤ reply.nextOffset
  fits : reply.nextOffset ≤ intent.size
  failed : ∀ error, reply.result = .error error →
    reply.nextOffset = offset ∨ (reply.nextOffset = intent.size ∧ Matched exchange intent)
  progress : ∀ nextOffset, reply.result = .ok (.inProgress nextOffset) →
    reply.nextOffset = nextOffset
  complete : ∀ remote, reply.result = .ok (.complete remote) →
    reply.nextOffset = intent.size ∧ Matched exchange intent
  /-- The offset moves only by a response to the `PUT` of the call. -/
  moved : reply.nextOffset = offset ∨ reply.request.isSome ∧ ∃ response,
    exchange.response = .ok response ∧
      (response.status = 308 ∧ parseResumeRange response.range = .ok reply.nextOffset ∨
        (response.status = 200 ∨ response.status = 201) ∧ reply.nextOffset = intent.size)

theorem Reply.Shape.sound (h : reply.Shape intent offset request exchange uploaded)
    (hoffset : offset ≤ intent.size) : reply.Sound intent offset exchange := by
  cases h with
  | failed sent error hsent =>
      exact
        { grows := le_rfl
          fits := hoffset
          failed := fun _ _ => Or.inl rfl
          progress := fun _ h => nomatch h
          complete := fun _ h => nomatch h
          moved := Or.inl rfl }
  | acknowledged response nextOffset hresponse hstatus hrange hgrows hfits hsent =>
      exact
        { grows := hgrows
          fits := hfits
          failed := fun _ h => nomatch h
          progress := fun _ h => UploadProgress.inProgress.inj (Except.ok.inj h)
          complete := fun _ h => nomatch h
          moved := Or.inr ⟨rfl, response, hresponse, Or.inl ⟨hstatus, hrange⟩⟩ }
  | final response result hresponse hstatus hresult hmatched =>
      exact
        { grows := hoffset
          fits := le_rfl
          failed := fun _ _ => Or.inr ⟨rfl, hmatched⟩
          progress := fun _ h => absurd h (hresult _)
          complete := fun _ _ => ⟨rfl, hmatched⟩
          moved := Or.inr ⟨rfl, response, hresponse, Or.inr ⟨hstatus, rfl⟩⟩ }

/-- What is sent is what was given. -/
theorem Reply.Shape.request_eq (h : reply.Shape intent offset request exchange uploaded)
    {sent : PutRequest} (hsent : sent ∈ reply.request) : sent = request := by
  cases h with
  | failed _ _ hsame => exact hsame sent hsent
  | _ => exact (Option.mem_some.mp hsent).symm

/-- An acknowledgement of a chunk is of some of its bytes. -/
theorem uploadChunk_advances {nextOffset : ℕ}
    (h : (uploadChunk intent offset bytes exchange).result = .ok (.inProgress nextOffset)) :
    offset < nextOffset := by
  have hshape := @uploadChunk_shape intent offset exchange bytes
  generalize uploadChunk intent offset bytes exchange = reply at h hshape
  cases hshape with
  | failed _ _ _ => cases h
  | acknowledged _ next _ _ _ _ _ hsent =>
      obtain rfl := UploadProgress.inProgress.inj (Except.ok.inj h)
      exact (hsent _ rfl).1
  | final _ _ _ _ hresult _ => exact absurd h (hresult _)

end Resumable
end Drive
end MyVault
