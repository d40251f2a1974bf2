import MyVault.Drive.Resumable
import MyVault.Transfer.Upload

/-!
# The loop over the chunks

The loop of `execute_upload` on both platforms (`transfer_runtime.rs`,
`android_transfer_runtime.rs`), against a provider that may answer anything.  A turn plans a
chunk, reads it from the stage and sends it; after a failure of unknown outcome it asks how far
the session got.

* `upload_sends_stage`: every chunk is accepted by the guard of `upload_chunk` and is sent with
  the range it has in the stage, so a provider that keeps what it acknowledges holds a prefix of
  the stage.
* `chunk_loop_ends`: a turn gets further unless its question is answered with the offset it
  started from.  An answer that acknowledges the whole of an object is progress as well, and no
  chunk can be planned after it.

## The model

A `ChunkTurn` holds all that a turn does not decide: whether the folder is proven, how the stage
is read, what the provider answers to the chunk and to the question.  The two platforms differ in
how a chunk is read: the desktop opens the stage again for each chunk, Android takes the bytes
from the stage it holds.  `runUpload` returns the calls that were made and what the loop came to,
if it has returned.

`TurnSound` is the lemma about one turn, and `chunkLoop_sound` carries it over the loop; both
results are read off the list of calls.  What the provider holds is no part of the code, so it is
a relation along the calls (`KeptAlong`): it may keep any part of what it was sent, as long as it
keeps what it acknowledges.
-/

namespace MyVault
namespace Transfer

open Drive Drive.Resumable

/-- A staged byte string, and the intent it is uploaded for. -/
structure StagedUpload where
  intent : CreateIntent
  stage : List UInt8
  size_eq : intent.size = stage.length
  fits : stage.length < wordLimit

/-- What one turn meets: whether the stage can be opened, and what comes back in its calls. -/
structure ChunkTurn where
  opened : Except NativeTransferError Unit
  chunk : Exchange
  query : Exchange

/-- A call to the session; a question has no plan. -/
structure Call where
  offset : ℕ
  plan : Option UploadChunkPlan
  bytes : List UInt8
  exchange : Exchange
  reply : Reply

/-- The two clients that upload. -/
inductive Platform where
  | desktop
  | android
  deriving DecidableEq, Repr

/-- `read_verified_stage_chunk`, of a stage that opens. -/
def readVerifiedStageChunk (stage : List UInt8) (opened : Except NativeTransferError Unit)
    (offset maxChunk maxTotal : ℕ) : Except NativeTransferError (List UInt8) := do
  Check.reject (maxChunk = 0 ∨ 8 * 1024 * 1024 < maxChunk ∨ maxTotal < stage.length ∨
    stage.length < offset) .invalidRequest
  opened
  .ok ((stage.drop offset).take (min maxChunk (stage.length - offset)))

/-- The bytes of a plan, as the two executors read them. -/
def readChunk (upload : StagedUpload) (turn : ChunkTurn) (plan : UploadChunkPlan) :
    Platform → Except ExecutionFailure (List UInt8)
  | .desktop => do
    let bytes ← (readVerifiedStageChunk upload.stage turn.opened plan.offset
      (if upload.intent.size = 0 then 1 else plan.byteLen) maxTransferBytes).mapError localFailure
    Check.reject (bytes.length ≠ plan.byteLen)
      (reconcileFailure "stage_chunk_length_mismatch" valid_chunkLength)
    .ok bytes
  | .android => do
    Check.reject (upload.stage.length < plan.offset + plan.byteLen)
      (reconcileFailure "stage_chunk_length_mismatch" valid_chunkLength)
    .ok ((upload.stage.drop plan.offset).take plan.byteLen)

/-- How a turn ends. -/
inductive TurnEnd where
  | returns (result : Except ExecutionFailure RemoteObject)
  | continues (offset : ℕ)

/-- The question how far the session got. -/
def statusCall (upload : StagedUpload) (turn : ChunkTurn) (offset : ℕ) : Call where
  offset := offset
  plan := none
  bytes := []
  exchange := turn.query
  reply := queryUploadStatus upload.intent offset turn.query

/-- A chunk has been sent: what follows. -/
def afterChunk (upload : StagedUpload) (turn : ChunkTurn) (chunk : Call) : List Call × TurnEnd :=
  match chunk.reply.result with
  | .ok (.complete remote) => ([chunk], .returns (.ok remote))
  | .ok (.inProgress _) => ([chunk], .continues chunk.reply.nextOffset)
  | .error error =>
    if isUnknownTransport error.code = true then
      let query := statusCall upload turn chunk.reply.nextOffset
      match query.reply.result with
      | .ok (.complete remote) => ([chunk, query], .returns (.ok remote))
      | .ok (.inProgress _) => ([chunk, query], .continues query.reply.nextOffset)
      | .error error => ([chunk, query], .returns (.error (driveFailure error true)))
    else ([chunk], .returns (.error (driveFailure error true)))

/-- One turn of the loop: its calls, and how it ends. -/
def loopTurn (platform : Platform) (upload : StagedUpload) (turn : ChunkTurn) (offset : ℕ) :
    List Call × TurnEnd :=
  match planResumableUploadChunk upload.intent.size offset with
  | .error _ =>
    ([], .returns (.error (reconcileFailure "transfer_size_invalid" valid_sizeInvalid)))
  | .ok plan =>
    match readChunk upload turn plan platform with
    | .error failure => ([], .returns (.error failure))
    | .ok bytes =>
      afterChunk upload turn
        { offset, plan := some plan, bytes, exchange := turn.chunk
          reply := uploadChunk upload.intent offset bytes turn.chunk }

/-- So many turns of the loop, from a turn and an offset on: the calls, and the result if the
loop has returned. -/
def chunkLoop (platform : Platform) (upload : StagedUpload) (turns : ℕ → ChunkTurn) :
    ℕ → ℕ → ℕ → List Call × Option (Except ExecutionFailure RemoteObject)
  | 0, _, _ => ([], none)
  | n + 1, i, offset =>
    match loopTurn platform upload (turns i) offset with
    | (calls, .returns result) => (calls, some result)
    | (calls, .continues next) =>
      (calls ++ (chunkLoop platform upload turns n (i + 1) next).1,
        (chunkLoop platform upload turns n (i + 1) next).2)

/-- The loop, from the start. -/
def runUpload (platform : Platform) (upload : StagedUpload) (turns : ℕ → ChunkTurn) (n : ℕ) :
    List Call × Option (Except ExecutionFailure RemoteObject) :=
  chunkLoop platform upload turns n 0 0

/-! ## What is sent -/

/-- The range names exactly the offsets of the bytes. -/
def PutRequest.Exact (stage : List UInt8) (request : PutRequest) : Prop :=
  match request.contentRange with
  | .bytes first last total =>
    total = stage.length ∧ first ≤ last ∧ last < total ∧
      request.body = (stage.drop first).take (last + 1 - first)
  | .unknown total => total = stage.length ∧ request.body = []

/-- What holds of every call of the loop. -/
structure Call.Sound (upload : StagedUpload) (call : Call) : Prop where
  reply : call.reply.Sound upload.intent call.offset call.exchange
  accepted : ∀ plan ∈ call.plan, plan.offset = call.offset ∧
    chunkEnd upload.intent.size call.offset call.bytes.length = .ok plan.endOffset
  exact : ∀ request ∈ call.reply.request, PutRequest.Exact upload.stage request
  /-- A planned chunk is sent once the folder has been proven. -/
  sent : ∀ plan ∈ call.plan, call.exchange.folder = .ok () →
    call.reply.request = some
      { contentRange := chunkRange upload.intent.size call.offset plan.endOffset
        body := call.bytes }

variable {platform : Platform} {upload : StagedUpload} {turn : ChunkTurn} {turns : ℕ → ChunkTurn}
  {plan : UploadChunkPlan} {offset : ℕ} {bytes : List UInt8} {exchange : Exchange}

theorem plan_eq_ok {size : ℕ} (h : planResumableUploadChunk size offset = .ok plan) :
    (offset < size ∨ (size = 0 ∧ offset = 0)) ∧ plan.offset = offset ∧
      plan.byteLen = min (size - offset) resumableUploadChunkBytes ∧
      plan.endOffset = offset + plan.byteLen := by
  rw [planResumableUploadChunk] at h
  obtain ⟨hvalid, h⟩ := Check.ite_error_eq_ok.mp h
  obtain rfl := Except.ok.inj h
  exact ⟨by omega, rfl, rfl, rfl⟩

/-- Both executors read the planned part of the stage. -/
theorem readChunk_eq_ok (h : readChunk upload turn plan platform = .ok bytes)
    (hplan : planResumableUploadChunk upload.intent.size offset = .ok plan) :
    bytes = (upload.stage.drop offset).take plan.byteLen ∧ bytes.length = plan.byteLen := by
  obtain ⟨hoffset, hplanned, hlength, -⟩ := plan_eq_ok hplan
  rw [upload.size_eq] at hoffset hlength
  have hfull : ((upload.stage.drop offset).take plan.byteLen).length = plan.byteLen := by
    rw [List.length_take, List.length_drop]
    omega
  cases platform with
  | desktop =>
      rw [readChunk] at h
      obtain ⟨read, hread, h⟩ := Check.bind_eq_ok.mp h
      obtain ⟨hsame, h⟩ := Check.seq_eq_ok.mp h
      obtain rfl := Except.ok.inj h
      have hsame := not_not.mp (Check.reject_eq_ok.mp hsame)
      refine ⟨?_, hsame⟩
      cases hstage : readVerifiedStageChunk upload.stage turn.opened plan.offset
          (if upload.intent.size = 0 then 1 else plan.byteLen) maxTransferBytes with
      | error error =>
          rw [hstage] at hread
          cases hread
      | ok found =>
          rw [hstage] at hread
          obtain rfl := Except.ok.inj hread
          rw [readVerifiedStageChunk] at hstage
          obtain ⟨-, hstage⟩ := Check.seq_eq_ok.mp hstage
          obtain ⟨-, hstage⟩ := Check.seq_eq_ok.mp hstage
          obtain rfl := Except.ok.inj hstage
          -- the bytes read are a prefix of the rest, of the planned length
          rw [hplanned] at hsame ⊢
          have hinit := List.prefix_iff_eq_take.mp (List.take_prefix (min
            (if upload.intent.size = 0 then 1 else plan.byteLen) (upload.stage.length - offset))
            (upload.stage.drop offset))
          rwa [hsame] at hinit
  | android =>
      rw [readChunk] at h
      obtain ⟨-, h⟩ := Check.seq_eq_ok.mp h
      obtain rfl := Except.ok.inj h
      rw [hplanned]
      exact ⟨rfl, hfull⟩

/-- Every planned chunk passes the guard. -/
theorem chunkEnd_of_plan (hplan : planResumableUploadChunk upload.intent.size offset = .ok plan) :
    chunkEnd upload.intent.size offset plan.byteLen = .ok plan.endOffset := by
  obtain ⟨hoffset, -, hlength, hend⟩ := plan_eq_ok hplan
  have hfits := upload.fits
  rw [← upload.size_eq] at hfits
  have haligned : resumableUploadChunkBytes % chunkAlignment = 0 := rfl
  have hpositive : 0 < resumableUploadChunkBytes := by decide
  have hsum : checkedAdd offset plan.byteLen = some (offset + plan.byteLen) := by
    rw [checkedAdd, fitsWord, if_pos (by omega)]
  rw [chunkEnd, if_neg (by omega), hsum, hend]
  refine if_neg ?_
  rintro (hpast | ⟨hinner, hempty | hodd⟩ | ⟨hsize, hempty⟩)
  · omega
  · omega
  · have hchunk : plan.byteLen = resumableUploadChunkBytes := by omega
    rw [hchunk] at hodd
    exact hodd haligned
  · omega

/-- A planned chunk is sent with the range it has in the stage. -/
theorem call_sound_of_plan (hplan : planResumableUploadChunk upload.intent.size offset = .ok plan)
    (hread : readChunk upload turn plan platform = .ok bytes) :
    Call.Sound upload
      { offset, plan := some plan, bytes, exchange
        reply := uploadChunk upload.intent offset bytes exchange } := by
  obtain ⟨hoffset, hplanned, hlength, hend⟩ := plan_eq_ok hplan
  obtain ⟨hbytes, hcount⟩ := readChunk_eq_ok hread hplan
  have hguard := chunkEnd_of_plan hplan
  rw [← hcount] at hguard
  have hfits : offset ≤ upload.intent.size := by omega
  refine
    { reply := uploadChunk_shape.sound hfits
      accepted := fun other hother => ?_
      exact := fun request hrequest => ?_
      sent := fun other hother hfolder => ?_ }
  · obtain rfl := Option.mem_some.mp hother
    exact ⟨hplanned, hguard⟩
  · obtain rfl := uploadChunk_shape.request_eq hrequest
    have hsize := upload.size_eq
    rw [PutRequest.Exact, chunkRange]
    by_cases hempty : upload.intent.size = 0
    · rw [if_pos hempty]
      have hnone : bytes.length = 0 := by omega
      exact ⟨hempty.symm.trans hsize, List.eq_nil_of_length_eq_zero hnone⟩
    · have hpositive : 0 < resumableUploadChunkBytes := by decide
      rw [if_neg hempty]
      have hlast : offset + bytes.length - 1 + 1 - offset = plan.byteLen := by omega
      refine ⟨hsize, by omega, by omega, ?_⟩
      show bytes = _
      rw [hlast, hbytes]
  · obtain rfl := Option.mem_some.mp hother
    exact request_uploadChunk hguard hfolder

theorem statusCall_sound (h : offset ≤ upload.intent.size) :
    (statusCall upload turn offset).Sound upload where
  reply := queryUploadStatus_shape.sound h
  accepted plan hplan := by cases hplan
  exact request hrequest := by
    obtain rfl := queryUploadStatus_shape.request_eq hrequest
    exact ⟨upload.size_eq, rfl⟩
  sent plan hplan := by cases hplan

/-! ## One turn -/

/-- The offset that some calls leave. -/
def offsetAfter : ℕ → List Call → ℕ
  | offset, [] => offset
  | _, call :: calls => offsetAfter call.reply.nextOffset calls

/-- Every call starts at the offset that the one before it left. -/
def Chained : ℕ → List Call → Prop
  | _, [] => True
  | offset, call :: calls => call.offset = offset ∧ Chained call.reply.nextOffset calls

/-- A question that is answered with the offset the session has anyway. -/
def Call.Idle (call : Call) : Prop :=
  call.plan = none ∧ call.reply.result = .ok (.inProgress call.offset)

instance : DecidablePred Call.Idle := fun call =>
  match hreply : call.reply.result with
  | .ok (.inProgress nextOffset) =>
    decidable_of_iff (call.plan.isNone ∧ nextOffset = call.offset) (by
      rw [Call.Idle, hreply, Option.isNone_iff_eq_none]
      simp)
  | .ok (.complete _) => isFalse (by simp [Call.Idle, hreply])
  | .error _ => isFalse (by simp [Call.Idle, hreply])

/-- No chunk can be planned. -/
def sizeInvalid : ExecutionFailure :=
  reconcileFailure "transfer_size_invalid" valid_sizeInvalid

/-- What a turn comes to, from an offset on. -/
structure TurnSound (upload : StagedUpload) (offset : ℕ) (calls : List Call) (ends : TurnEnd) :
    Prop where
  sound : ∀ call ∈ calls, call.Sound upload
  chained : Chained offset calls
  few : calls.length ≤ 2
  /-- It goes on exactly after an acknowledgement. -/
  goesOn : ∀ next, ends = .continues next ↔
    ∃ call ∈ calls, call.reply.result = .ok (.inProgress next)
  leaves : ∀ next, ends = .continues next → next = offsetAfter offset calls
  advances : ∀ next, ends = .continues next → offset < next ∨ ∃ call ∈ calls, call.Idle
  /-- It fails for want of a plan only where there is none. -/
  planned : ∀ failure, ends = .returns (.error failure) →
    failure.code = "transfer_size_invalid" → upload.intent.size ≤ offset ∧ 0 < upload.intent.size

theorem driveFailure_code_ne (error : DriveError) (possible : Bool) :
    (driveFailure error possible).code ≠ "transfer_size_invalid" := by
  show error.code.asStr ≠ _
  cases error.code <;> decide

theorem localFailure_code_ne (error : NativeTransferError) :
    (localFailure error).code ≠ "transfer_size_invalid" := by
  show error.code ≠ _
  cases error <;> decide

theorem readChunk_code_ne {failure : ExecutionFailure}
    (h : readChunk upload turn plan platform = .error failure) :
    failure.code ≠ "transfer_size_invalid" := by
  have hlength : (reconcileFailure "stage_chunk_length_mismatch" valid_chunkLength).code ≠
      "transfer_size_invalid" := by
    show "stage_chunk_length_mismatch" ≠ _
    decide
  cases platform with
  | desktop =>
      rw [readChunk] at h
      cases hread : readVerifiedStageChunk upload.stage turn.opened plan.offset
          (if upload.intent.size = 0 then 1 else plan.byteLen) maxTransferBytes with
      | error error =>
          rw [hread] at h
          obtain rfl := Except.error.inj h
          exact localFailure_code_ne error
      | ok found =>
          rw [hread] at h
          replace h : (Check.reject (found.length ≠ plan.byteLen) _ >>= fun _ => .ok found) =
            Except.error failure := h
          rw [Check.reject] at h
          split at h
          · obtain rfl := Except.error.inj h
            exact hlength
          · cases h
  | android =>
      rw [readChunk, Check.reject] at h
      split at h
      · obtain rfl := Except.error.inj h
        exact hlength
      · cases h

/-- A turn that returns without a call. -/
theorem turnSound_of_failure {failure : ExecutionFailure}
    (h : failure.code = "transfer_size_invalid" →
      upload.intent.size ≤ offset ∧ 0 < upload.intent.size) :
    TurnSound upload offset [] (.returns (.error failure)) where
  sound := List.forall_mem_nil _
  chained := trivial
  few := Nat.zero_le _
  goesOn _ := by simp
  leaves _ hends := nomatch hends
  advances _ hends := nomatch hends
  planned _ hends := by
    obtain rfl := Except.error.inj (TurnEnd.returns.inj hends)
    exact h

/-- A turn that returns after its calls. -/
theorem turnSound_of_returns {calls : List Call} {result : Except ExecutionFailure RemoteObject}
    (hsound : ∀ call ∈ calls, call.Sound upload) (hchained : Chained offset calls)
    (hfew : calls.length ≤ 2)
    (hnone : ∀ call ∈ calls, ∀ next, call.reply.result ≠ .ok (.inProgress next))
    (hcode : ∀ failure, result = .error failure → failure.code ≠ "transfer_size_invalid") :
    TurnSound upload offset calls (.returns result) where
  sound := hsound
  chained := hchained
  few := hfew
  goesOn next := by
    refine iff_of_false nofun ?_
    rintro ⟨call, hmem, hresult⟩
    exact hnone call hmem next hresult
  leaves _ h := nomatch h
  advances _ h := nomatch h
  planned failure h hfailure := absurd hfailure (hcode failure (TurnEnd.returns.inj h))

theorem afterChunk_sound {chunk : Call} (hchunk : chunk.Sound upload)
    (hoffset : chunk.offset = offset)
    (hadvances : ∀ next, chunk.reply.result = .ok (.inProgress next) → offset < next) :
    TurnSound upload offset (afterChunk upload turn chunk).1 (afterChunk upload turn chunk).2 := by
  have hone : ∀ call ∈ [chunk], call.Sound upload := List.forall_mem_singleton.mpr hchunk
  rw [afterChunk]
  split
  · rename_i remote hresult
    refine turnSound_of_returns hone ⟨hoffset, trivial⟩ (by simp) ?_ nofun
    rw [List.forall_mem_singleton, hresult]
    exact nofun
  · rename_i acknowledged hresult
    have hnext := hchunk.reply.progress _ hresult
    exact
      { sound := hone
        chained := ⟨hoffset, trivial⟩
        few := by simp
        goesOn := fun next => by
          simp only [hnext, List.mem_singleton, exists_eq_left, hresult, TurnEnd.continues.injEq,
            Except.ok.injEq, UploadProgress.inProgress.injEq]
        leaves := fun next h => (TurnEnd.continues.inj h).symm
        advances := fun next h => by
          rw [← TurnEnd.continues.inj h, hnext]
          exact Or.inl (hadvances _ hresult)
        planned := fun _ h => nomatch h }
  · rename_i error hresult
    have hnone : ∀ next, chunk.reply.result ≠ .ok (.inProgress next) := by
      rw [hresult]
      exact nofun
    by_cases hunknown : isUnknownTransport error.code = true
    · rw [if_pos hunknown]
      have hquery := @statusCall_sound upload turn chunk.reply.nextOffset hchunk.reply.fits
      have hstart : (statusCall upload turn chunk.reply.nextOffset).offset =
        chunk.reply.nextOffset := rfl
      have hasks : (statusCall upload turn chunk.reply.nextOffset).plan = none := rfl
      dsimp only
      generalize statusCall upload turn chunk.reply.nextOffset = query at hquery hstart hasks ⊢
      have hboth : ∀ call ∈ [chunk, query], call.Sound upload :=
        List.forall_mem_cons.mpr ⟨hchunk, List.forall_mem_singleton.mpr hquery⟩
      have hchained : Chained offset [chunk, query] := ⟨hoffset, hstart, trivial⟩
      split
      · rename_i remote hdone
        refine turnSound_of_returns hboth hchained (by simp) ?_ nofun
        rw [List.forall_mem_cons, List.forall_mem_singleton]
        refine ⟨hnone, ?_⟩
        rw [hdone]
        exact nofun
      · rename_i acknowledged hdone
        have hnext := hquery.reply.progress _ hdone
        exact
          { sound := hboth
            chained := hchained
            few := by simp
            goesOn := fun next => by
              simp only [hnext, List.mem_cons, List.not_mem_nil, or_false, exists_eq_or_imp,
                exists_eq_left, hdone, TurnEnd.continues.injEq, Except.ok.injEq,
                UploadProgress.inProgress.injEq, or_iff_right (hnone next)]
            leaves := fun next h => (TurnEnd.continues.inj h).symm
            advances := fun next h => by
              obtain rfl := TurnEnd.continues.inj h
              have hgrows := hchunk.reply.grows
              have hfurther := hquery.reply.grows
              rcases Nat.lt_or_eq_of_le hfurther with hlt | heq
              · exact Or.inl (by omega)
              · refine Or.inr ⟨query, List.mem_cons_of_mem _ List.mem_cons_self, hasks, ?_⟩
                rw [hdone, heq, hnext]
            planned := fun _ h => nomatch h }
      · rename_i failure hdone
        refine turnSound_of_returns hboth hchained (by simp) ?_ ?_
        · rw [List.forall_mem_cons, List.forall_mem_singleton]
          refine ⟨hnone, ?_⟩
          rw [hdone]
          exact nofun
        · intro found hfound
          rw [← Except.error.inj hfound]
          exact driveFailure_code_ne _ _
    · rw [if_neg hunknown]
      refine turnSound_of_returns hone ⟨hoffset, trivial⟩ (by simp)
        (List.forall_mem_singleton.mpr hnone) ?_
      intro found hfound
      rw [← Except.error.inj hfound]
      exact driveFailure_code_ne _ _

theorem loopTurn_sound (h : offset ≤ upload.intent.size) :
    TurnSound upload offset (loopTurn platform upload turn offset).1
      (loopTurn platform upload turn offset).2 := by
  rw [loopTurn]
  split
  · rename_i hplan
    refine turnSound_of_failure fun _ => ?_
    rw [planResumableUploadChunk] at hplan
    split at hplan
    · omega
    · cases hplan
  · rename_i plan hplan
    split
    · rename_i hread
      exact turnSound_of_failure fun hcode => absurd hcode (readChunk_code_ne hread)
    · rename_i bytes hread
      exact afterChunk_sound (call_sound_of_plan hplan hread) rfl fun _ => uploadChunk_advances

/-! ## The run -/

variable {n i : ℕ} {front behind : List Call}

theorem chained_append : Chained offset (front ++ behind) ↔
    Chained offset front ∧ Chained (offsetAfter offset front) behind := by
  induction front generalizing offset with
  | nil => exact (and_iff_right trivial).symm
  | cons call front ih =>
      show call.offset = offset ∧ Chained _ (front ++ behind) ↔ _
      rw [ih, ← and_assoc]
      rfl

theorem le_offsetAfter {calls : List Call} (hsound : ∀ call ∈ calls, call.Sound upload)
    (hchained : Chained offset calls) : offset ≤ offsetAfter offset calls := by
  induction calls generalizing offset with
  | nil => exact le_rfl
  | cons call calls ih =>
      obtain ⟨rfl, hrest⟩ := hchained
      obtain ⟨hcall, hcalls⟩ := List.forall_mem_cons.mp hsound
      exact hcall.reply.grows.trans (ih hcalls hrest)

theorem TurnSound.next_le {calls : List Call} {ends : TurnEnd} {next : ℕ}
    (h : TurnSound upload offset calls ends) (hnext : ends = .continues next) :
    next ≤ upload.intent.size := by
  obtain ⟨call, hmem, hresult⟩ := (h.goesOn next).mp hnext
  rw [← (h.sound call hmem).reply.progress _ hresult]
  exact (h.sound call hmem).reply.fits

/-- All calls of a run are sound, and each starts where the one before it left off. -/
theorem chunkLoop_sound (h : offset ≤ upload.intent.size) :
    (∀ call ∈ (chunkLoop platform upload turns n i offset).1, call.Sound upload) ∧
      Chained offset (chunkLoop platform upload turns n i offset).1 := by
  induction n generalizing i offset with
  | zero => exact ⟨List.forall_mem_nil _, trivial⟩
  | succ n ih =>
      have hturn := @loopTurn_sound platform upload (turns i) offset h
      rw [chunkLoop]
      rcases hloop : loopTurn platform upload (turns i) offset with ⟨calls, result | next⟩
      · rw [hloop] at hturn
        exact ⟨hturn.sound, hturn.chained⟩
      · rw [hloop] at hturn
        obtain ⟨hsound, hchained⟩ := @ih next (i + 1) (hturn.next_le rfl)
        refine ⟨fun call hmem => ?_, chained_append.mpr ⟨hturn.chained, ?_⟩⟩
        · exact (List.mem_append.mp hmem).elim (hturn.sound call) (hsound call)
        · rw [← hturn.leaves next rfl]
          exact hchained

theorem length_chunkLoop (h : offset ≤ upload.intent.size) :
    (chunkLoop platform upload turns n i offset).1.length ≤ 2 * n := by
  induction n generalizing i offset with
  | zero => exact Nat.zero_le _
  | succ n ih =>
      have hturn := @loopTurn_sound platform upload (turns i) offset h
      rw [chunkLoop]
      rcases hloop : loopTurn platform upload (turns i) offset with ⟨calls, result | next⟩
      · rw [hloop] at hturn
        exact hturn.few.trans (by omega)
      · rw [hloop] at hturn
        have hrest := @ih next (i + 1) (hturn.next_le rfl)
        have hfew := hturn.few
        dsimp only at hfew ⊢
        rw [List.length_append]
        omega

/-- How often a question was answered with the offset the session had anyway. -/
def idleQuestions (calls : List Call) : ℕ := calls.countP fun call => decide call.Idle

/-- A run that goes on has got further with every turn, idle questions apart. -/
theorem turns_le (h : offset ≤ upload.intent.size)
    (hruns : (chunkLoop platform upload turns n i offset).2 = none) :
    n + offset ≤
      upload.intent.size + idleQuestions (chunkLoop platform upload turns n i offset).1 := by
  induction n generalizing i offset with
  | zero => omega
  | succ n ih =>
      have hturn := @loopTurn_sound platform upload (turns i) offset h
      rw [chunkLoop] at hruns ⊢
      rcases hloop : loopTurn platform upload (turns i) offset with ⟨calls, result | next⟩
      · rw [hloop] at hruns
        cases hruns
      · rw [hloop] at hturn hruns
        have hrest := ih (hturn.next_le rfl) hruns
        dsimp only
        rw [idleQuestions, List.countP_append, ← idleQuestions, ← idleQuestions]
        rcases hturn.advances next rfl with hlt | ⟨call, hmem, hidle⟩
        · omega
        · have hone : 0 < idleQuestions calls :=
            List.countP_pos_iff.mpr ⟨call, hmem, decide_eq_true hidle⟩
          have hgrows := le_offsetAfter hturn.sound hturn.chained
          rw [← hturn.leaves next rfl] at hgrows
          omega

/-! ## What a provider holds -/

/-- What a provider that holds some bytes has when so many more of a `PUT` have arrived. -/
def PutRequest.store (request : PutRequest) (held : List UInt8) (taken : ℕ) : List UInt8 :=
  match request.contentRange with
  | .bytes first _ _ =>
    if first ≤ held.length then held ++ (request.body.drop (held.length - first)).take taken
    else held
  | .unknown _ => held

/-- A call to a provider that keeps exactly the bytes it acknowledges. -/
structure KeptBy (upload : StagedUpload) (held : List UInt8) (call : Call)
    (held' : List UInt8) : Prop where
  stores : ∃ taken, held' = (call.reply.request.map fun request =>
    PutRequest.store request held taken).getD held
  acknowledges : ∀ response nextOffset, call.reply.request.isSome →
    call.exchange.response = .ok response → response.status = 308 →
    parseResumeRange response.range = .ok nextOffset → nextOffset = held'.length
  completes : ∀ response, call.reply.request.isSome → call.exchange.response = .ok response →
    response.status = 200 ∨ response.status = 201 → held'.length = upload.intent.size

/-- The same over some calls. -/
def KeptAlong (upload : StagedUpload) : List UInt8 → List Call → List UInt8 → Prop
  | held, [], held' => held' = held
  | held, call :: calls, held' =>
    ∃ next, KeptBy upload held call next ∧ KeptAlong upload next calls held'

theorem store_prefix {request : PutRequest} {held : List UInt8} {taken : ℕ}
    (hexact : PutRequest.Exact upload.stage request) (hheld : held <+: upload.stage) :
    PutRequest.store request held taken <+: upload.stage ∧
      held.length ≤ (PutRequest.store request held taken).length := by
  rw [PutRequest.store]
  rw [PutRequest.Exact] at hexact
  split
  · rename_i first last total hrange
    rw [hrange] at hexact
    obtain ⟨-, -, -, hbody⟩ := hexact
    split
    · rename_i hfirst
      have hnew : (request.body.drop (held.length - first)).take taken <+:
          upload.stage.drop held.length := by
        rw [hbody, List.drop_take, List.drop_drop, Nat.add_sub_cancel' hfirst]
        exact (List.take_prefix _ _).trans (List.take_prefix _ _)
      refine ⟨?_, by simp⟩
      obtain ⟨rest, hrest⟩ := hnew
      refine ⟨rest, ?_⟩
      rw [List.append_assoc, hrest]
      exact List.prefix_iff_eq_append.mp hheld
    · exact ⟨hheld, le_rfl⟩
  · exact ⟨hheld, le_rfl⟩

/-- What is held stays a prefix of the stage, and reaches as far as the session. -/
theorem kept_prefix {call : Call} {held held' : List UInt8} (hcall : call.Sound upload)
    (hheld : held <+: upload.stage) (hreaches : call.offset ≤ held.length)
    (h : KeptBy upload held call held') :
    held' <+: upload.stage ∧ call.reply.nextOffset ≤ held'.length := by
  obtain ⟨taken, hstores⟩ := h.stores
  have hstored : held' <+: upload.stage ∧ held.length ≤ held'.length := by
    cases hrequest : call.reply.request with
    | none =>
        rw [hrequest] at hstores
        obtain rfl := hstores
        exact ⟨hheld, le_rfl⟩
    | some request =>
        rw [hrequest] at hstores
        obtain rfl := hstores
        exact store_prefix (hcall.exact request hrequest) hheld
  refine ⟨hstored.1, ?_⟩
  rcases hcall.reply.moved with hstays | ⟨hsent, response, hresponse,
    ⟨hstatus, hrange⟩ | ⟨hstatus, hfinal⟩⟩
  · rw [hstays]
    exact hreaches.trans hstored.2
  · exact (h.acknowledges _ _ hsent hresponse hstatus hrange).le
  · rw [hfinal, h.completes _ hsent hresponse hstatus]

theorem keptAlong_prefix {calls : List Call} {held held' : List UInt8}
    (hsound : ∀ call ∈ calls, call.Sound upload) (hchained : Chained offset calls)
    (hheld : held <+: upload.stage) (hreaches : offset ≤ held.length)
    (h : KeptAlong upload held calls held') :
    held' <+: upload.stage ∧ offsetAfter offset calls ≤ held'.length := by
  induction calls generalizing offset held with
  | nil =>
      obtain rfl := h
      exact ⟨hheld, hreaches⟩
  | cons call calls ih =>
      obtain ⟨rfl, hrest⟩ := hchained
      obtain ⟨next, hkept, h⟩ := h
      obtain ⟨hcall, hcalls⟩ := List.forall_mem_cons.mp hsound
      obtain ⟨hnext, hnextReaches⟩ := kept_prefix hcall hheld hreaches hkept
      exact ih hcalls hrest hnext hnextReaches h

/-- **The stage is sent.**  Whatever the provider answers, on both platforms: every planned chunk
is accepted by the guard and, once the folder is proven, sent with the range it has in the stage,
the offset only grows and stays within the total, a failure leaves it or has matched the final
metadata, and a completion has.  After any of the calls, a provider that keeps exactly the bytes
it acknowledges holds a prefix of the stage that reaches as far as the session. -/
theorem upload_sends_stage (platform : Platform) (upload : StagedUpload) (turns : ℕ → ChunkTurn)
    (n : ℕ) :
    (∀ call ∈ (runUpload platform upload turns n).1, call.Sound upload) ∧
      Chained 0 (runUpload platform upload turns n).1 ∧
      ∀ front behind held, (runUpload platform upload turns n).1 = front ++ behind →
        KeptAlong upload [] front held →
        held <+: upload.stage ∧ upload.stage.take (offsetAfter 0 front) <+: held := by
  obtain ⟨hsound, hchained⟩ := @chunkLoop_sound platform upload turns 0 n 0 (Nat.zero_le _)
  refine ⟨hsound, hchained, fun front behind held hsplit hkept => ?_⟩
  rw [runUpload] at hsplit
  rw [hsplit] at hsound hchained
  obtain ⟨hinit, hreaches⟩ := keptAlong_prefix
    (fun call hmem => hsound call (List.mem_append_left _ hmem)) (chained_append.mp hchained).1
    List.nil_prefix (Nat.zero_le _) hkept
  refine ⟨hinit, ?_⟩
  rw [List.prefix_iff_eq_take.mp hinit]
  exact List.take_prefix_take_left hreaches

/-! ### A chunk that is lost once -/

/-- A file of one byte. -/
def oneByte : StagedUpload where
  intent :=
    { parentId := "folder", name := "note.md", mimeType := "text/markdown"
      operationMarker := "operation"
      sha256 := "4bf5122f344554c53bde2ebb8cd2b7e3d1600ad631c385a5d7cce23c7785459a", size := 1 }
  stage := [1]
  size_eq := rfl
  fits := by decide

/-- An exchange in which the `PUT` meets this. -/
def exchangeOf (response : Except DriveError PutResponse) : Exchange where
  folder := .ok ()
  response := response
  folderAgain := .ok ()
  metadata := .error (ErrorCode.plain .notFound)

/-- A `308` with this range. -/
def incomplete (range : Option String) : PutResponse where
  status := 308
  range := range
  retryAfter := none
  body := .error .malformedResponse

/-- The chunk is lost, and the provider has nothing of it. -/
def lostChunk : ChunkTurn where
  opened := .ok ()
  chunk := exchangeOf (.error (ErrorCode.plain .transport))
  query := exchangeOf (.ok (incomplete none))

/-- The file that the object becomes. -/
def oneByteFile : TransferFile where
  id := "file"
  name := "note.md"
  mimeType := "text/markdown"
  parents := ["folder"]
  trashed := false
  version := some "1"
  size := some "1"
  sha256Checksum := some oneByte.intent.sha256
  appProperties := some
    { operation := some "operation", sha256 := some oneByte.intent.sha256, size := some "1" }

/-- The chunk arrives, and the final metadata matches. -/
def sentChunk : ChunkTurn where
  opened := .ok ()
  chunk :=
    { folder := .ok ()
      response := .ok { status := 200, range := none, retryAfter := none, body := .ok oneByteFile }
      folderAgain := .ok ()
      metadata := .ok oneByteFile }
  query := exchangeOf (.ok (incomplete none))

/-- The chunk is lost, then it arrives. -/
def lostOnce (i : ℕ) : ChunkTurn := if i = 0 then lostChunk else sentChunk

theorem upload_sends_stage_lost_once :
    (runUpload .desktop oneByte lostOnce 2).2.map (·.toOption.map (·.fileId)) = some (some "file") ∧
      ∃ held, KeptAlong oneByte [] (runUpload .desktop oneByte lostOnce 2).1 held ∧
        oneByte.stage.take (offsetAfter 0 (runUpload .desktop oneByte lostOnce 2).1) <+: held ∧
        offsetAfter 0 (runUpload .desktop oneByte lostOnce 2).1 = 1 := by
  have hkept : KeptAlong oneByte [] (runUpload .desktop oneByte lostOnce 2).1 [1] := by
    refine ⟨[], ⟨⟨0, rfl⟩, ?_, ?_⟩, [], ⟨⟨0, rfl⟩, ?_, ?_⟩, [1], ⟨⟨1, rfl⟩, ?_, ?_⟩, rfl⟩
    -- the lost chunk has no response
    · intro response next hsent hresponse
      cases hresponse
    · intro response hsent hresponse
      cases hresponse
    -- the question is answered with an empty range
    · intro response next hsent hresponse hstatus hrange
      cases hresponse
      cases hrange
      rfl
    · intro response hsent hresponse hstatus
      cases hresponse
      exact absurd hstatus (by decide)
    -- the second chunk is the object
    · intro response next hsent hresponse hstatus
      cases hresponse
      exact absurd hstatus (by decide)
    · intro response hsent hresponse hstatus
      rfl
  exact ⟨by decide +kernel, [1], hkept,
    ((upload_sends_stage .desktop oneByte lostOnce 2).2.2 _ [] _ (List.append_nil _).symm hkept).2,
    by decide +kernel⟩

/-! ## How the loop ends -/

/-- A run that fails for want of a plan had the whole of the object acknowledged. -/
theorem acknowledged_of_sizeInvalid {failure : ExecutionFailure} (h : offset ≤ upload.intent.size)
    (hresult : (chunkLoop platform upload turns n i offset).2 = some (.error failure))
    (hcode : failure.code = "transfer_size_invalid") :
    0 < upload.intent.size ∧ (offset = upload.intent.size ∨
      ∃ call ∈ (chunkLoop platform upload turns n i offset).1,
        call.reply.result = .ok (.inProgress upload.intent.size)) := by
  induction n generalizing i offset with
  | zero => cases hresult
  | succ n ih =>
      have hturn := @loopTurn_sound platform upload (turns i) offset h
      rw [chunkLoop] at hresult ⊢
      rcases hloop : loopTurn platform upload (turns i) offset with ⟨calls, result | next⟩
      · rw [hloop] at hturn hresult
        obtain rfl := Option.some.inj hresult
        obtain ⟨hpast, hpositive⟩ := hturn.planned failure rfl hcode
        exact ⟨hpositive, Or.inl (Nat.le_antisymm h hpast)⟩
      · rw [hloop] at hturn hresult
        obtain ⟨hpositive, hlast⟩ := ih (hturn.next_le rfl) hresult
        refine ⟨hpositive, Or.inr ?_⟩
        rcases hlast with rfl | ⟨call, hmem, hcall⟩
        · obtain ⟨call, hmem, hcall⟩ := (hturn.goesOn upload.intent.size).mp rfl
          exact ⟨call, List.mem_append_left _ hmem, hcall⟩
        · exact ⟨call, List.mem_append_right _ hmem, hcall⟩

/-- At the end of an object that is not empty, no chunk can be planned. -/
theorem chunkLoop_at_end (hpositive : 0 < upload.intent.size) :
    chunkLoop platform upload turns (n + 1) i upload.intent.size =
      ([], some (.error sizeInvalid)) := by
  have hplan : planResumableUploadChunk upload.intent.size upload.intent.size =
      .error .invalidInput := by
    rw [planResumableUploadChunk, if_pos (by omega)]
  rw [chunkLoop, loopTurn, hplan]
  rfl

/-- Where the whole of an object that is not empty is acknowledged, the run fails. -/
theorem sizeInvalid_of_acknowledged {call : Call}
    {result : Except ExecutionFailure RemoteObject} (h : offset ≤ upload.intent.size)
    (hpositive : 0 < upload.intent.size)
    (hresult : (chunkLoop platform upload turns n i offset).2 = some result)
    (hmem : call ∈ (chunkLoop platform upload turns n i offset).1)
    (hcall : call.reply.result = .ok (.inProgress upload.intent.size)) :
    result = .error sizeInvalid := by
  induction n generalizing i offset with
  | zero => cases hresult
  | succ n ih =>
      have hturn := @loopTurn_sound platform upload (turns i) offset h
      rw [chunkLoop] at hresult hmem
      rcases hloop : loopTurn platform upload (turns i) offset with ⟨calls, ended | next⟩
      · rw [hloop] at hturn hmem
        cases (hturn.goesOn _).mpr ⟨call, hmem, hcall⟩
      · rw [hloop] at hturn hresult hmem
        rcases List.mem_append.mp hmem with hmem | hmem
        · obtain rfl := TurnEnd.continues.inj ((hturn.goesOn _).mpr ⟨call, hmem, hcall⟩)
          cases n with
          | zero => cases hresult
          | succ n =>
              dsimp only at hresult
              rw [chunkLoop_at_end hpositive] at hresult
              exact (Option.some.inj hresult).symm
        · exact ih (hturn.next_le rfl) hresult hmem

/-- **The loop ends.**  Idle questions apart, a run of more turns than the object has bytes has
returned; a turn makes two calls at most; an acknowledgement leaves an offset from which a chunk
can be planned unless it is of the whole of an object that is not empty, and such a run, and no
other, fails because no chunk can be planned. -/
theorem chunk_loop_ends (platform : Platform) (upload : StagedUpload) (turns : ℕ → ChunkTurn)
    (n : ℕ) :
    (upload.intent.size + idleQuestions (runUpload platform upload turns n).1 < n →
        (runUpload platform upload turns n).2.isSome = true) ∧
      (runUpload platform upload turns n).1.length ≤ 2 * n ∧
      (∀ call ∈ (runUpload platform upload turns n).1, ∀ nextOffset,
        call.reply.result = .ok (.inProgress nextOffset) →
        ((∃ plan, planResumableUploadChunk upload.intent.size nextOffset = .ok plan) ↔
          ¬ (0 < upload.intent.size ∧ nextOffset = upload.intent.size))) ∧
      ∀ result, (runUpload platform upload turns n).2 = some result →
        ((∃ failure, result = .error failure ∧ failure.code = "transfer_size_invalid") ↔
          0 < upload.intent.size ∧ ∃ call ∈ (runUpload platform upload turns n).1,
            call.reply.result = .ok (.inProgress upload.intent.size)) := by
  have hsound := (@chunkLoop_sound platform upload turns 0 n 0 (Nat.zero_le _)).1
  refine ⟨fun hmany => ?_, length_chunkLoop (Nat.zero_le _),
    fun call hmem nextOffset hcall => ?_, fun result hresult => ⟨?_, ?_⟩⟩
  · rw [Option.isSome_iff_ne_none]
    intro hruns
    have hturns := turns_le (Nat.zero_le _) hruns
    rw [runUpload] at hmany
    omega
  · have hfits := (hsound call hmem).reply.fits
    rw [(hsound call hmem).reply.progress _ hcall] at hfits
    rw [planResumableUploadChunk]
    split
    · rename_i hinvalid
      refine iff_of_false (fun ⟨_, hplan⟩ => nomatch hplan) ?_
      omega
    · rename_i hvalid
      refine iff_of_true ⟨_, rfl⟩ ?_
      omega
  · rintro ⟨failure, rfl, hcode⟩
    obtain ⟨hpositive, hstart | hcall⟩ :=
      acknowledged_of_sizeInvalid (Nat.zero_le _) hresult hcode
    · omega
    · exact ⟨hpositive, hcall⟩
  · rintro ⟨hpositive, call, hmem, hcall⟩
    exact ⟨sizeInvalid,
      sizeInvalid_of_acknowledged (Nat.zero_le _) hpositive hresult hmem hcall, rfl⟩

/-! ### A question without an answer, and an answer that is no completion -/

/-- The only byte is acknowledged, and the upload is not complete. -/
def acknowledgedChunk : ChunkTurn where
  opened := .ok ()
  chunk := exchangeOf (.ok (incomplete (some "bytes=0-0")))
  query := exchangeOf (.ok (incomplete none))

/-- While chunks are lost the loop never returns, and an acknowledgement of the whole object ends
it with a failure. -/
theorem lost_chunks_keep_loop_going :
    (∀ platform n, (runUpload platform oneByte (fun _ => lostChunk) n).2 = none) ∧
      ∀ platform, (runUpload platform oneByte (fun _ => acknowledgedChunk) 2).2 =
        some (.error sizeInvalid) := by
  constructor
  · intro platform n
    have hturn : (loopTurn platform oneByte lostChunk 0).2 = .continues 0 := by
      cases platform <;> rfl
    have hrun : ∀ i, (chunkLoop platform oneByte (fun _ => lostChunk) n i 0).2 = none := by
      induction n with
      | zero => exact fun _ => rfl
      | succ n ih =>
          intro i
          rw [chunkLoop]
          rcases hloop : loopTurn platform oneByte lostChunk 0 with ⟨calls, ends⟩
          rw [hloop] at hturn
          obtain rfl := hturn
          exact ih (i + 1)
    exact hrun 0
  · intro platform
    cases platform <;> rfl

end Transfer
end MyVault
