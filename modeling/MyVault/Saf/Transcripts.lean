import MyVault.Saf.LettingGo

/-!
# What the client has in the end

A read carries along that the bytes so far are what the digest of the session has been fed
(`Reading`), a create that they are what the document holds (`Writing`).  Requests of other
sessions leave both as they are; other apps may change the documents, and then only the
evidence of the last answer remains.
-/

namespace MyVault
namespace Saf

open Program

variable {android : Android} {sessionId root : String} {turns : ℕ → Turn sessionId}
  {plugin plugin' : Plugin} {bridge bridge' : Bridge}

/-- From this request on no other app changes anything. -/
def Unchanged (turns : ℕ → Turn sessionId) (first : ℕ) : Prop :=
  ∀ n, first ≤ n → ∀ disturbance ∈ (turns n).before, disturbance.isRequest = true

theorem Unchanged.mono {first later : ℕ} (h : Unchanged turns first) (hle : first ≤ later) :
    Unchanged turns later := fun n hn => h n (hle.trans hn)

/-- An open session is not touched by the requests of others. -/
theorem foldl_eq_of_requests {disturbances : List (Disturbance sessionId)}
    (hforeign : ∀ asked : Request, asked.sessionId ≠ sessionId → Foreign asked plugin)
    (h : ∀ disturbance ∈ disturbances, disturbance.isRequest = true) :
    disturbances.foldl (Disturbance.apply android) plugin = plugin := by
  induction disturbances with
  | nil => rfl
  | cons disturbance rest ih =>
      rw [List.forall_mem_cons] at h
      rw [List.foldl_cons]
      cases disturbance with
      | request asked other =>
          rw [Disturbance.apply, run_eq_of_foreign (hforeign asked other)]
          exact ih h.2
      | change => exact nomatch h.1

/-! ## Reading -/

/-- The read session that the client holds. -/
structure Reading (sessionId : String) (plugin : Plugin) (session : BinaryReadSession) : Prop where
  read_some : plugin.binaryReadSession = some session
  write_none : plugin.binaryWriteSession = none
  id_eq : session.id = sessionId

namespace Reading

variable {session : BinaryReadSession}

theorem foreign (h : Reading sessionId plugin session) {asked : Request}
    (hasked : asked.sessionId ≠ sessionId) : Foreign asked plugin where
  active := by
    rw [ne_eq, activeBinarySessionId_eq_none, h.read_some]
    exact fun hnone => by cases hnone.1
  read := by
    rw [readSlot, h.read_some, Option.map_some, h.id_eq]
    exact fun heq => hasked (congrArg Prod.fst (Option.some.inj heq)).symm
  write := by
    rw [writeSlot, h.write_none]
    rintro ⟨⟩

/-- Only what the stream will give can change. -/
theorem disturb {disturbances : List (Disturbance sessionId)}
    (h : Reading sessionId plugin session) :
    ∃ input, Reading sessionId (disturbances.foldl (Disturbance.apply android) plugin)
      { session with input } := by
  induction disturbances generalizing plugin session with
  | nil => exact ⟨session.input, h⟩
  | cons disturbance rest ih =>
      rw [List.foldl_cons]
      cases disturbance with
      | request asked other =>
          rw [Disturbance.apply, run_eq_of_foreign (h.foreign other)]
          exact ih h
      | change children content permitted input =>
          have hnext : Reading sessionId
              ((Disturbance.change children content permitted input :
                Disturbance sessionId).apply android plugin) { session with input } := by
            refine ⟨?_, h.write_none, h.id_eq⟩
            rw [Disturbance.apply, h.read_some, Option.map_some]
          obtain ⟨input', hreading⟩ := ih hnext
          exact ⟨input', hreading⟩

variable (android turns) in
/-- The next request finds the session, with the same stream if nothing has changed. -/
theorem arrive (h : Reading sessionId bridge.plugin session) :
    ∃ input, Reading sessionId (arriving android turns bridge) { session with input } ∧
      (Unchanged turns bridge.requests →
        input = session.input ∧ arriving android turns bridge = bridge.plugin) := by
  obtain ⟨input, hreading⟩ : ∃ input, Reading sessionId (arriving android turns bridge)
      { session with input } := h.disturb
  refine ⟨input, hreading, fun hunchanged => ?_⟩
  have hsame : arriving android turns bridge = bridge.plugin :=
    foldl_eq_of_requests (fun _ hasked => h.foreign hasked) (hunchanged _ le_rfl)
  refine ⟨?_, hsame⟩
  have hread := hreading.read_some
  rw [hsame, h.read_some, Option.some.injEq] at hread
  exact (congrArg BinaryReadSession.input hread).symm

end Reading

theorem acceptChunk_ok {maxBytes : ℕ} {bytes bytes' chunk : List UInt8} {response : Chunk}
    (hencoded : response.bytesBase64 = encodeBase64 chunk)
    (hle : chunk.length ≤ maxNativeBridgeChunkBytes)
    (h : acceptChunk maxBytes bytes response = .ok bytes') : bytes' = bytes ++ chunk := by
  rw [acceptChunk, hencoded, decodeBase64Bounded_encodeBase64 hle] at h
  obtain ⟨-, h⟩ := Check.seq_eq_ok.mp h
  obtain ⟨_, hchunk, h⟩ := Check.bind_eq_ok.mp h
  cases hchunk
  obtain ⟨-, h⟩ := Check.seq_eq_ok.mp h
  obtain ⟨-, h⟩ := Check.seq_eq_ok.mp h
  cases h
  rfl

theorem acceptRead_ok {bytes : List UInt8} {response : Chunk} {binary : SafBinary}
    (h : acceptRead android bytes response = .ok binary) :
    binary =
      { bytes, revisionHex := hexSha256 android.sha256 bytes, byteLen := bytes.length } := by
  rw [acceptRead] at h
  split at h
  · split at h
    · exact nomatch h
    · rename_i hsame
      rw [not_or, not_not, not_not] at hsame
      cases h
      rw [hsame.1, hsame.2]
  · exact nomatch h

/-- The result of a read: its own evidence, that of the session's document in the end, and, if
nothing was changed, all bytes of the stream. -/
theorem readLoop_exact {maxBytes : ℕ} {bytes : List UInt8} {binary : SafBinary}
    {session : BinaryReadSession} (hreading : Reading sessionId bridge.plugin session)
    (hdigest : session.digest = bytes) (hread : session.read = bytes.length)
    (h : exec (readLoop android turns root maxBytes bytes) bridge = (.ok binary, bridge')) :
    binary.revisionHex = hexSha256 android.sha256 binary.bytes ∧
      binary.byteLen = binary.bytes.length ∧
      (∃ content, bridge'.plugin.content session.documentId = some content ∧
        hexSha256 android.sha256 content = hexSha256 android.sha256 binary.bytes ∧
        content.length = binary.bytes.length) ∧
      (Unchanged turns bridge.requests → binary.bytes = bytes ++ session.input) := by
  induction bytes using readLoop.induct maxBytes generalizing bridge session with
  | case1 bytes ih =>
      rw [readLoop] at h
      obtain ⟨response, after, hrequest, h⟩ := exec_bind_ok.mp h
      obtain ⟨bytes', _, hlift, h⟩ := exec_bind_ok.mp h
      obtain ⟨haccept, rfl⟩ := exec_lift_ok.mp hlift
      obtain ⟨input, harrive, hsame⟩ := hreading.arrive android turns
      obtain ⟨-, hrequests, hrun⟩ := runMobilePlugin_ok hrequest
      obtain ⟨found, chunk, hfound, -, -, hanswer⟩ := readBinaryChunk_ok hrun
      rw [harrive.read_some, Option.some.injEq] at hfound
      subst hfound
      rcases hanswer with hgoes | hends
      · -- one more full chunk
        have hresponse := hgoes.response_eq
        obtain ⟨rest, n, hinput, hafter⟩ := hgoes.goes_on
        obtain rfl := acceptChunk_ok (congrArg Chunk.bytesBase64 hresponse) hgoes.full.le haccept
        rw [hresponse] at h
        rw [if_neg Bool.false_ne_true] at h
        split at h
        · rename_i hmore
          have hnext : Reading sessionId after.plugin
              { session with
                input := rest, digest := session.digest ++ chunk
                read := session.read + chunk.length } := by
            rw [hafter]
            exact ⟨rfl, harrive.write_none, harrive.id_eq⟩
          obtain ⟨hrevision, hlen, hverified, hexact⟩ := ih _ hmore hnext (by rw [hdigest])
            (by rw [hread, List.length_append]) h
          refine ⟨hrevision, hlen, hverified, fun hunchanged => ?_⟩
          rw [hexact (hunchanged.mono (by omega)), List.append_assoc, ← hinput,
            (hsame hunchanged).1]
        · cases h
      · have hresponse := hends.response_eq
        have hlt := hends.short
        obtain rfl := acceptChunk_ok (congrArg Chunk.bytesBase64 hresponse) hlt.le haccept
        rw [hresponse, if_pos rfl] at h
        obtain ⟨hread', rfl⟩ := exec_lift_ok.mp h
        obtain rfl := acceptRead_ok hread'
        obtain ⟨n, hclosed⟩ := hends.closed
        obtain ⟨content, hcontent, hsha, hlen⟩ := hends.verified
        refine ⟨rfl, rfl, ⟨content, ?_, ?_, ?_⟩, fun hunchanged => ?_⟩
        · rw [hclosed]
          exact hcontent
        · rw [hsha, hdigest]
        · rw [hlen, hread, List.length_append]
        · exact congrArg (bytes ++ ·) (hends.input_eq.symm.trans (hsame hunchanged).1)

/-! ## Creating -/

/-- The create session that the client holds. -/
structure Writing (sessionId : String) (plugin : Plugin) (session : BinaryWriteSession) : Prop where
  read_none : plugin.binaryReadSession = none
  write_some : plugin.binaryWriteSession = some session
  id_eq : session.id = sessionId

namespace Writing

variable {session : BinaryWriteSession}

theorem foreign (h : Writing sessionId plugin session) {asked : Request}
    (hasked : asked.sessionId ≠ sessionId) : Foreign asked plugin where
  active := by
    rw [ne_eq, activeBinarySessionId_eq_none, h.write_some]
    exact fun hnone => by cases hnone.2
  read := by
    rw [readSlot, h.read_none]
    rintro ⟨⟩
  write := by
    rw [writeSlot, h.write_some, Option.map_some, h.id_eq]
    exact fun heq => hasked (congrArg Prod.fst (Option.some.inj heq)).symm

theorem disturb {disturbances : List (Disturbance sessionId)}
    (h : Writing sessionId plugin session) :
    Writing sessionId (disturbances.foldl (Disturbance.apply android) plugin) session := by
  induction disturbances generalizing plugin with
  | nil => exact h
  | cons disturbance rest ih =>
      rw [List.foldl_cons]
      cases disturbance with
      | request asked other =>
          rw [Disturbance.apply, run_eq_of_foreign (h.foreign other)]
          exact ih h
      | change children content permitted input =>
          refine ih ⟨?_, h.write_some, h.id_eq⟩
          rw [Disturbance.apply, h.read_none, Option.map_none]

variable (android turns) in
theorem arrive (h : Writing sessionId bridge.plugin session) :
    Writing sessionId (arriving android turns bridge) session ∧
      (Unchanged turns bridge.requests → arriving android turns bridge = bridge.plugin) :=
  ⟨h.disturb, fun hunchanged =>
    foldl_eq_of_requests (fun _ hasked => h.foreign hasked) (hunchanged _ le_rfl)⟩

end Writing

/-- At the end of a file bytes are appended. -/
theorem writeAt_length (content chunk : List UInt8) :
    writeAt content content.length chunk = content ++ chunk := by
  rw [writeAt, Nat.sub_self, List.replicate_zero, List.append_nil, List.take_length,
    List.drop_eq_nil_of_le (Nat.le_add_right _ _), List.append_nil]

/-- All bytes have been written, in order. -/
theorem writeLoop_exact {offset : ℕ} {bytes : List UInt8} {u : Unit}
    {session : BinaryWriteSession} (hwriting : Writing sessionId bridge.plugin session)
    (hwritten : session.written = offset)
    (h : exec (writeLoop android turns root offset bytes) bridge = (.ok u, bridge')) :
    bridge.requests ≤ bridge'.requests ∧
      Writing sessionId bridge'.plugin
        { session with digest := session.digest ++ bytes, written := offset + bytes.length } ∧
      (Unchanged turns bridge.requests → ∀ done : List UInt8, done.length = offset →
        bridge.plugin.content session.documentId = some done →
          bridge'.plugin.content session.documentId = some (done ++ bytes)) := by
  induction offset, bytes using writeLoop.induct generalizing bridge session with
  | case1 offset =>
      rw [writeLoop] at h
      obtain ⟨-, rfl⟩ := exec_pure_ok.mp h
      refine ⟨le_rfl, ?_, fun _ done _ hdone => ?_⟩
      · rw [List.append_nil, List.length_nil, Nat.add_zero, ← hwritten]
        exact hwriting
      · rwa [List.append_nil]
  | case2 offset byte rest chunk =>
      rename_i ih
      rw [writeLoop] at h
      dsimp only [chunk] at h ih
      obtain ⟨response, after, hrequest, h⟩ := exec_bind_ok.mp h
      obtain ⟨-, hrequests, hrun⟩ := runMobilePlugin_ok (exec_mapError_ok.mp hrequest)
      obtain ⟨_, _, hrequire, h⟩ := exec_bind_ok.mp h
      obtain ⟨haccepted, rfl⟩ := exec_require_ok.mp hrequire
      obtain ⟨harrive, hsame⟩ := hwriting.arrive android turns
      obtain ⟨found, decoded, n, hfound, hdecode, hafter⟩ :=
        appendBinaryChunk_accepted hrun haccepted.1
      rw [harrive.write_some, Option.some.injEq] at hfound
      subst hfound
      rw [android.decode_encodeBase64, Option.some.injEq] at hdecode
      have hall : decoded ++ rest.drop (maxNativeBridgeChunkBytes - 1) = byte :: rest := by
        rw [← hdecode]
        exact take_append_drop_pred (by decide)
      rw [hdecode] at ih h
      have hnext : Writing sessionId after.plugin
          { session with
            digest := session.digest ++ decoded, written := session.written + decoded.length } := by
        rw [hafter]
        exact ⟨harrive.read_none, rfl, harrive.id_eq⟩
      obtain ⟨hle, hend, hexact⟩ := ih hnext (by rw [hwritten]) h
      refine ⟨by omega, ?_, fun hunchanged done hlen hdone => ?_⟩
      · rw [List.append_assoc, hall, Nat.add_assoc, ← List.length_append, hall] at hend
        exact hend
      · have hcontent : after.plugin.content session.documentId = some (done ++ decoded) := by
          rw [hafter, hsame hunchanged, hwritten, ← hlen]
          dsimp only [writeContent]
          rw [if_pos rfl, hdone, Option.map_some, writeAt_length]
        have hrest := hexact (hunchanged.mono (by omega)) (done ++ decoded)
          (by rw [List.length_append, hlen]) hcontent
        rwa [List.append_assoc, hall] at hrest

/-- A create that is reported as saved: the document has the evidence, and, if nothing was
changed, the bytes. -/
theorem writeAndFinish_exact {bytes : List UInt8} {sha256Hex : String} {save : SafSave}
    {session : BinaryWriteSession} (hwriting : Writing sessionId bridge.plugin session)
    (hwritten : session.written = 0) (hsha : session.expectedSha256Hex = sha256Hex)
    (hbyteLen : session.expectedByteLen = bytes.length)
    (h : exec (writeAndFinish android turns root bytes sha256Hex) bridge = (.ok save, bridge')) :
    (∃ content, bridge'.plugin.content session.documentId = some content ∧
      hexSha256 android.sha256 content = sha256Hex ∧ content.length = bytes.length) ∧
      (Unchanged turns bridge.requests →
        bridge.plugin.content session.documentId = some [] →
          bridge'.plugin.content session.documentId = some bytes) := by
  rw [writeAndFinish] at h
  obtain ⟨_, written, hloop, h⟩ := exec_bind_ok.mp h
  obtain ⟨response, after, hfinish, h⟩ := exec_bind_ok.mp h
  obtain ⟨haccept, rfl⟩ := exec_lift_ok.mp h
  obtain ⟨hle, hend, hexact⟩ := writeLoop_exact hwriting hwritten hloop
  obtain ⟨-, -, hrun⟩ := runMobilePlugin_ok (exec_mapError_ok.mp hfinish)
  obtain ⟨harrive, hsame⟩ := hend.arrive android turns
  obtain ⟨found, n, hfound, hafter, content, hcontent, hdigest, hlen⟩ :=
    finishBinaryCreate_saved hrun (acceptSave_ok haccept).1
  rw [harrive.write_some, Option.some.injEq] at hfound
  subst hfound
  refine ⟨⟨content, ?_, hdigest.trans hsha, hlen.trans hbyteLen⟩, fun hunchanged hempty => ?_⟩
  · rw [hafter]
    exact hcontent
  · rw [hafter, hsame (hunchanged.mono hle)]
    exact hexact hunchanged [] rfl hempty

end Saf
end MyVault
