import MyVault.Saf.Addressing
import MyVault.Saf.Transcripts

/-!
# An undisturbed read

If no call throws, every read gives something, every request is answered and no other app
changes anything, then `read_binary` returns the bytes of the document, whatever other
sessions ask in between.
-/

namespace MyVault
namespace Saf

open Program

variable {android : Android} {sessionId root : String} {turns : ℕ → Turn sessionId}
  {plugin : Plugin} {bridge : Bridge}

/-- No call throws, and a read that is not at the end of its stream gives something. -/
def Android.Quiet (android : Android) : Prop :=
  ∀ n, android.throws n = none ∧ 0 < android.available n

/-! ## Parts of the commands -/

section Parts

variable (hquiet : android.Quiet)

include hquiet

theorem exec_call :
    exec (call android) plugin = (.ok plugin.calls, { plugin with calls := plugin.calls + 1 }) := by
  rw [call, exec_bind, exec_read]
  dsimp only
  rw [exec_bind, exec_write]
  dsimp only
  rw [(hquiet plugin.calls).1]
  rfl

theorem exec_resolveComponents {parentId : String} {selected found : Option Child}
    {names : List Text} (h : resolveFrom plugin.children parentId selected names = .ok found) :
    ∃ n, exec (resolveComponents android parentId selected names) plugin =
      (.ok found, { plugin with calls := n }) := by
  induction names generalizing plugin parentId selected with
  | nil =>
      cases h
      exact ⟨plugin.calls, rfl⟩
  | cons name rest ih =>
      rw [resolveFrom] at h
      split at h
      · cases h
      · rename_i children hquery
        rw [resolveComponents, exec_bind, queryChildren, exec_bind, exec_call hquiet]
        dsimp only
        rw [exec_bind, exec_read]
        dsimp only [id_eq]
        rw [hquery, the, exec_pure]
        dsimp only
        -- both sides look at the children of that name
        generalize children.filter (fun child => decide (child.name = name)) = named at h ⊢
        rcases named with _ | ⟨child, _ | ⟨second, others⟩⟩
        · cases h
          exact ⟨plugin.calls + 1, rfl⟩
        · exact ih h
        · cases h
          exact ⟨plugin.calls + 1, rfl⟩

theorem exec_readSome {room : ℕ} {byte : UInt8} {input : List UInt8} (hroom : 0 < room) :
    ∃ count n, exec (readSome android room (byte :: input)) plugin =
      (.ok count, { plugin with calls := n }) ∧ 0 < count ∧ count ≤ room ∧
        count ≤ (byte :: input).length := by
  have havailable := (hquiet plugin.calls).2
  have hpos : ¬ min room (min (byte :: input).length (android.available plugin.calls)) = 0 := by
    rw [List.length_cons]
    omega
  refine ⟨_, plugin.calls + 1, ?_, Nat.pos_of_ne_zero hpos, by omega, by omega⟩
  rw [readSome, exec_bind, exec_call hquiet]
  dsimp only
  rw [reject, if_neg hpos]
  rfl

omit hquiet in
theorem drop_pred (byte : UInt8) {input : List UInt8} {count : ℕ} (h : 0 < count) :
    input.drop (count - 1) = (byte :: input).drop count := by
  obtain ⟨n, rfl⟩ : ∃ n, count = n + 1 := ⟨count - 1, by omega⟩
  rw [List.drop_succ_cons, Nat.add_sub_cancel]

theorem exec_readNextChunk {output input : List UInt8} :
    ∃ n, exec (readNextChunk android output input) plugin =
      (.ok (output ++ input.take (binaryBridgeChunkBytes - output.length),
        input.drop (binaryBridgeChunkBytes - output.length)), { plugin with calls := n }) := by
  induction output, input using readNextChunk.induct generalizing plugin with
  | case1 output input hfull =>
      refine ⟨plugin.calls, ?_⟩
      rw [readNextChunk.eq_def, if_pos hfull, Nat.sub_eq_zero_of_le hfull, List.take_zero,
        List.append_nil, List.drop_zero]
      rfl
  | case2 output hfull =>
      refine ⟨plugin.calls + 1, ?_⟩
      rw [readNextChunk, if_neg hfull, exec_bind, exec_call hquiet, List.take_nil,
        List.append_nil, List.drop_nil]
      rfl
  | case3 output hfull byte input ih =>
      obtain ⟨count, n, hread, hpos, hle, hlen⟩ := @exec_readSome _ plugin hquiet
        (min 8192 (binaryBridgeChunkBytes - output.length)) byte input (by omega)
      obtain ⟨n', hrest⟩ := @ih count { plugin with calls := n }
      obtain ⟨more, hmore⟩ : ∃ more, binaryBridgeChunkBytes - output.length = count + more :=
        ⟨binaryBridgeChunkBytes - output.length - count, by omega⟩
      refine ⟨n', ?_⟩
      rw [readNextChunk, if_neg hfull, exec_bind, hread]
      dsimp only
      rw [hrest, drop_pred byte hpos, hmore, List.length_append, List.length_take,
        Nat.min_eq_left hlen, Nat.sub_add_eq, hmore, Nat.add_sub_cancel_left, List.drop_drop,
        List.append_assoc, List.take_add]

theorem exec_verifyStream {digest input : List UInt8}
    (hle : digest.length + input.length ≤ binaryMaxTransferBytes) :
    ∃ n, exec (verifyStream android digest input) plugin =
      (.ok (digest ++ input), { plugin with calls := n }) := by
  induction digest, input using verifyStream.induct generalizing plugin with
  | case1 digest =>
      refine ⟨plugin.calls + 1, ?_⟩
      rw [verifyStream, exec_bind, exec_call hquiet, List.append_nil]
      rfl
  | case2 digest byte input ih =>
      obtain ⟨count, n, hread, hpos, -, hlen⟩ := @exec_readSome _ plugin hquiet 8192 byte input
        (by decide)
      obtain ⟨n', hrest⟩ := @ih count { plugin with calls := n } (by
        rw [drop_pred byte hpos, ← List.length_append, List.append_assoc,
          List.take_append_drop, List.length_append]
        exact hle)
      refine ⟨n', ?_⟩
      rw [verifyStream, exec_bind, hread]
      dsimp only
      rw [exec_bind, reject, if_neg (by omega), exec_pure]
      dsimp only
      rw [hrest, drop_pred byte hpos, List.append_assoc, List.take_append_drop]

theorem exec_openInputStream {documentId : String} {content : List UInt8}
    (h : plugin.content documentId = some content) :
    exec (openInputStream android documentId) plugin =
      (.ok content, { plugin with calls := plugin.calls + 1 }) := by
  rw [openInputStream, exec_bind, exec_call hquiet]
  dsimp only
  rw [exec_bind, exec_read]
  dsimp only [id_eq]
  rw [h, the, exec_pure]

theorem exec_verifyBinaryDocument {documentId : String} {content : List UInt8}
    (h : plugin.content documentId = some content)
    (hle : content.length ≤ binaryMaxTransferBytes) :
    ∃ n, exec (verifyBinaryDocument android documentId) plugin =
      (.ok (hexSha256 android.sha256 content, content.length), { plugin with calls := n }) := by
  obtain ⟨n, hstream⟩ := @exec_verifyStream _ { plugin with calls := plugin.calls + 1 } hquiet []
    content (by simpa using hle)
  refine ⟨n, ?_⟩
  rw [verifyBinaryDocument, exec_bind, exec_openInputStream hquiet h]
  dsimp only
  rw [exec_bind, hstream]
  rfl

end Parts

/-- The root of the vault is there and nothing else is going on. -/
structure Reachable (android : Android) (root : String) (rootUri : String) (plugin : Plugin) :
    Prop where
  rootUri_eq : plugin.rootUri = some rootUri
  permitted : plugin.permitted = true
  identity : stableRootIdentityHex android rootUri = root

theorem exec_requireRoot {rootUri : String} {owner : Option String}
    (h : Reachable android root rootUri plugin)
    (howner : activeBinarySessionId plugin = none ∨ activeBinarySessionId plugin = owner) :
    exec (requireRoot android root owner) plugin = (.ok rootUri, plugin) := by
  have hform : isLowerHex64 root = true := by
    rw [← h.identity]
    exact isLowerHex64_hexSha256 _ _
  rw [requireRoot, exec_bind, exec_read]
  dsimp only [id_eq]
  rw [exec_bind, reject, if_neg (fun hbusy => howner.elim hbusy.1 hbusy.2), exec_pure]
  dsimp only
  rw [exec_bind, require, if_pos hform, exec_pure]
  dsimp only
  rw [exec_bind, persistedRoot, exec_bind, exec_read]
  dsimp only [id_eq]
  rw [h.permitted, if_neg (by simp), exec_pure]
  dsimp only
  rw [exec_bind, h.rootUri_eq, the, exec_pure]
  dsimp only
  rw [exec_bind, require, if_pos h.identity]
  rfl

/-! ## The commands -/

/-- A document that can be read under the path. -/
structure Readable (android : Android) (root rootUri : String) (path : Text) (child : Child)
    (content : List UInt8) (plugin : Plugin) : Prop extends
    Reachable android root rootUri plugin where
  resolved : resolveFrom plugin.children (android.getTreeDocumentId rootUri) none
    (splitSlash path) = .ok (some child)
  file : child.isDir = false
  content_eq : plugin.content child.documentId = some content
  length_le : content.length ≤ binaryMaxTransferBytes

section Commands

variable {rootUri : String} {path : Text} {child : Child} {content : List UInt8}
  {session : BinaryReadSession}

/-- The sessions have no part in it. -/
theorem Readable.with_session (h : Readable android root rootUri path child content plugin)
    (session : Option BinaryReadSession) (n : ℕ) :
    Readable android root rootUri path child content
      { plugin with binaryReadSession := session, calls := n } :=
  ⟨⟨h.rootUri_eq, h.permitted, h.identity⟩, h.resolved, h.file, h.content_eq, h.length_le⟩

/-- The session that a begin opens. -/
def newReadSession (sessionId root rootUri : String) (path : Text) (child : Child)
    (content : List UInt8) : BinaryReadSession :=
  { id := sessionId, rootIdentityHex := root, root := rootUri, path
    documentId := child.documentId, input := content, digest := [], read := 0 }

theorem exec_beginBinaryRead (hquiet : android.Quiet)
    (h : Readable android root rootUri path child content plugin)
    (hfree : activeBinarySessionId plugin = none) (hidle : plugin.operationInFlight = false)
    (hpath : canonicalPortablePath path = .ok path)
    (hid : isCanonicalBinarySessionId sessionId = true) :
    ∃ n, exec (beginBinaryRead android ⟨root, path, sessionId⟩) plugin =
      (.ok (readyOutcome sessionId),
        { plugin with
            binaryReadSession := some (newReadSession sessionId root rootUri path child content)
            calls := n }) := by
  have hslot : exec requireNoBinarySession plugin = (.ok (), plugin) := by
    rw [requireNoBinarySession, exec_bind, exec_read]
    dsimp only [id_eq]
    rw [reject, if_neg (by simp [hfree, hidle]), exec_pure]
  obtain ⟨n, hresolve⟩ := exec_resolveComponents hquiet h.resolved
  have hopen := @exec_openInputStream _ { plugin with calls := n } hquiet _ _ h.content_eq
  refine ⟨n + 1, ?_⟩
  rw [beginBinaryRead, hpath]
  dsimp only
  rw [if_neg (by simp [hid]), exec_bind, exec_catching, openReadSession, exec_bind, hslot]
  dsimp only
  rw [exec_bind, exec_requireRoot h.toReachable (Or.inl hfree)]
  dsimp only
  rw [exec_bind, resolveDocumentIn, hresolve]
  dsimp only
  rw [exec_bind, the, exec_pure]
  dsimp only
  rw [exec_bind, reject, if_neg (by simp [h.file]), exec_pure]
  dsimp only
  rw [exec_bind, hopen]
  rfl

theorem exec_finishRead (hquiet : android.Quiet)
    (h : Readable android root rootUri path child content plugin)
    (hsession : plugin.binaryReadSession = some session) (hroot : session.root = rootUri)
    (hpath : session.path = path) (hdocument : session.documentId = child.documentId)
    (hdigest : session.digest = content) (hread : session.read = content.length)
    {offset : ℤ} {chunk : List UInt8} :
    ∃ response plugin',
      exec (finishRead android session offset chunk) plugin = (.ok response, plugin') := by
  have hclose : closeBinaryReadSession (some session.id) plugin =
      { plugin with binaryReadSession := none } :=
    closeBinaryReadSession_some hsession
  obtain ⟨n, hresolve⟩ := @exec_resolveComponents _ { plugin with binaryReadSession := none }
    hquiet _ _ _ _ h.resolved
  obtain ⟨n', hverify⟩ := @exec_verifyBinaryDocument _
    { plugin with binaryReadSession := none, calls := n } hquiet _ _ h.content_eq h.length_le
  rw [finishRead, exec_bind, exec_write]
  dsimp only
  rw [hclose, exec_bind, resolveDocumentIn, hroot, hpath, hresolve]
  dsimp only
  rw [exec_bind, Option.filter_some, if_pos (by simp [hdocument, h.file]), the, exec_pure]
  dsimp only
  rw [exec_bind, hverify]
  dsimp only
  rw [exec_bind, require, if_pos (by rw [hdigest, hread])]
  exact ⟨_, _, rfl⟩

/-- The next chunk is answered. -/
theorem exec_readBinaryChunk (hquiet : android.Quiet)
    (h : Readable android root rootUri path child content plugin)
    (hreading : Reading sessionId plugin session)
    (hid : isCanonicalBinarySessionId sessionId = true)
    (hidentity : session.rootIdentityHex = root) (hroot : session.root = rootUri)
    (hpath : session.path = path) (hdocument : session.documentId = child.documentId)
    (hcontent : session.digest ++ session.input = content)
    (hread : session.read = session.digest.length) :
    ∃ response plugin', exec (readBinaryChunk android ⟨root, sessionId, (session.read : ℤ)⟩)
      plugin = (.ok response, plugin') := by
  have hlen : session.digest.length + session.input.length = content.length := by
    rw [← hcontent, List.length_append]
  have hle := h.length_le
  have hslot : readSlot plugin = some (sessionId, root) := by
    rw [readSlot, hreading.read_some, Option.map_some, hreading.id_eq, hidentity]
  have hactive : activeBinarySessionId plugin = some sessionId := by
    rw [activeBinarySessionId, hreading.read_some, Option.map_some, hreading.id_eq]
    rfl
  obtain ⟨n, hchunk⟩ := @exec_readNextChunk _ plugin hquiet [] session.input
  rw [List.nil_append, List.length_nil, Nat.sub_zero] at hchunk
  have htake : (session.input.take binaryBridgeChunkBytes).length ≤ session.input.length :=
    List.length_take_le' _ _
  have hshort : (session.input.take binaryBridgeChunkBytes).length < binaryBridgeChunkBytes →
      session.input.take binaryBridgeChunkBytes = session.input := by
    rw [List.length_take]
    exact fun hlt => List.take_of_length_le (by omega)
  generalize session.input.take binaryBridgeChunkBytes = chunk at hchunk htake hshort
  generalize session.input.drop binaryBridgeChunkBytes = rest at hchunk
  obtain ⟨response, plugin', hnext⟩ : ∃ response plugin',
      exec (nextReadChunk android ⟨root, sessionId, (session.read : ℤ)⟩) plugin =
        (.ok response, plugin') := by
    rw [nextReadChunk, exec_bind, exec_read]
    dsimp only [id_eq]
    rw [hreading.read_some]
    dsimp only
    rw [if_neg (not_not_intro (readOwnership_eq_owner.mpr hslot)), if_neg (not_not_intro rfl),
      continueRead, exec_bind, exec_requireRoot h.toReachable (Or.inr hactive)]
    dsimp only
    rw [exec_bind, hchunk]
    dsimp only
    rw [exec_bind, reject, if_neg (by omega), exec_pure]
    dsimp only
    rw [exec_bind, exec_write]
    dsimp only
    split
    · rename_i heof
      rw [isBinaryChunkEof, decide_eq_true_eq] at heof
      obtain rfl := hshort heof
      let ended : BinaryReadSession :=
        { session with
          input := rest, digest := session.digest ++ session.input
          read := session.read + session.input.length }
      have hlast : ended.read = content.length := by rw [← hlen, ← hread]
      exact @exec_finishRead android root _ rootUri path child content ended hquiet
        (h.with_session (some ended) n) rfl hroot hpath hdocument hcontent hlast _ _
    · exact ⟨_, _, rfl⟩
  refine ⟨response, plugin', ?_⟩
  rw [readBinaryChunk, if_neg, exec_bind, exec_catching, hnext]
  · rfl
  · rw [hid, isValidBinaryReadOffset]
    simp
    omega

end Commands

/-! ## The client -/

theorem acceptChunk_eq {maxBytes : ℕ} {bytes chunk : List UInt8} {response : Chunk}
    (hoffset : response.offset = bytes.length)
    (hencoded : response.bytesBase64 = encodeBase64 chunk)
    (hend : response.eof = true ∧ chunk.length < maxNativeBridgeChunkBytes ∨
      response.eof = false ∧ chunk.length = maxNativeBridgeChunkBytes ∧
        response.revisionHex = none ∧ response.byteLen = none)
    (hle : bytes.length + chunk.length ≤ maxBytes) :
    acceptChunk maxBytes bytes response = .ok (bytes ++ chunk) := by
  have hlen : chunk.length ≤ maxNativeBridgeChunkBytes := hend.elim (fun h => h.2.le)
    fun h => h.2.1.le
  rw [acceptChunk, hencoded, decodeBase64Bounded_encodeBase64 hlen, Check.reject,
    if_neg (not_not_intro hoffset), Check.ok_bind, Check.ok_bind]
  dsimp only
  rw [Check.reject, if_neg, Check.ok_bind, Check.reject, if_neg (by omega), Check.ok_bind]
  rcases hend with ⟨heof, hlt⟩ | ⟨heof, hfull, hrevision, hbyteLen⟩
  · rw [heof]
    simp [hlt.ne]
  · rw [heof, hrevision, hbyteLen]
    simp [hfull]

theorem acceptRead_eq {bytes : List UInt8} {response : Chunk}
    (hrevision : response.revisionHex = some (hexSha256 android.sha256 bytes))
    (hbyteLen : response.byteLen = some bytes.length) :
    acceptRead android bytes response =
      .ok { bytes, revisionHex := hexSha256 android.sha256 bytes, byteLen := bytes.length } := by
  rw [acceptRead, hrevision, hbyteLen, Option.filter_some,
    if_pos (isLowerHex64_hexSha256 _ _)]
  dsimp only
  rw [if_neg (by simp)]

theorem exec_runMobilePlugin_delivered {α : Type} {command : Answered α} {a : α}
    {plugin' : Plugin} (hdelivered : ∀ n, (turns n).delivery = .delivered)
    (h : exec command (arriving android turns bridge) = (.ok a, plugin')) :
    exec (runMobilePlugin android turns command) bridge =
      (.ok a, ⟨plugin', bridge.requests + 1⟩) := by
  rw [exec_runMobilePlugin, hdelivered]
  dsimp only
  rw [h]
  rfl

section Client

variable {rootUri : String} {path : Text} {child : Child} {content : List UInt8}
  {session : BinaryReadSession} {maxBytes : ℕ}

/-- The loop from the state in which the next request finds the plugin. -/
theorem exec_readLoop (hquiet : android.Quiet)
    (hdelivered : ∀ n, (turns n).delivery = .delivered)
    (hid : isCanonicalBinarySessionId sessionId = true) (hmax : content.length ≤ maxBytes)
    (hunchanged : Unchanged turns (bridge.requests + 1))
    (h : Readable android root rootUri path child content (arriving android turns bridge))
    (hreading : Reading sessionId (arriving android turns bridge) session)
    (hidentity : session.rootIdentityHex = root) (hroot : session.root = rootUri)
    (hpath : session.path = path) (hdocument : session.documentId = child.documentId)
    (hcontent : session.digest ++ session.input = content)
    (hread : session.read = session.digest.length) :
    (exec (readLoop android turns root maxBytes session.digest) bridge).1 =
      .ok { bytes := content, revisionHex := hexSha256 android.sha256 content
            byteLen := content.length } := by
  generalize hbytes : session.digest = bytes
  induction bytes using readLoop.induct maxBytes generalizing bridge session with
  | case1 bytes ih =>
      obtain ⟨response, plugin', hrun⟩ := exec_readBinaryChunk hquiet h hreading hid hidentity
        hroot hpath hdocument hcontent hread
      have hrequest := exec_runMobilePlugin_delivered hdelivered hrun
      obtain ⟨found, chunk, hfound, -, -, hanswer⟩ := readBinaryChunk_ok hrun
      rw [hreading.read_some, Option.some.injEq] at hfound
      subst hfound
      rw [readLoop, ← hbytes, ← hread, exec_bind, hrequest]
      dsimp only
      have hsum : session.digest.length + session.input.length = content.length := by
        rw [← hcontent, List.length_append]
      rcases hanswer with hgoes | hends
      · have hresponse := hgoes.response_eq
        obtain ⟨rest, n, hinput, hafter⟩ := hgoes.goes_on
        have hchunk : chunk.length + rest.length = session.input.length := by
          rw [hinput, List.length_append]
        have hfull := hgoes.full
        have haccept : acceptChunk maxBytes session.digest response =
            .ok (session.digest ++ chunk) := by
          refine acceptChunk_eq ?_ (congrArg Chunk.bytesBase64 hresponse) (Or.inr ?_) (by omega)
          · rw [hresponse, hread]
          · rw [hresponse]
            exact ⟨rfl, hfull, rfl, rfl⟩
        have hpos : 0 < chunk.length := by
          rw [hfull]
          decide
        have hmore : session.digest.length < (session.digest ++ chunk).length ∧
            (session.digest ++ chunk).length ≤ maxBytes := by
          rw [List.length_append]
          omega
        rw [exec_bind, haccept, exec_lift]
        dsimp only
        rw [hresponse, if_neg Bool.false_ne_true, if_pos (by rwa [hread])]
        let next : BinaryReadSession :=
          { session with
            input := rest, digest := session.digest ++ chunk
            read := session.read + chunk.length }
        have hheld : Reading sessionId plugin' next := by
          rw [hafter]
          exact ⟨rfl, hreading.write_none, hreading.id_eq⟩
        have harrive : arriving android turns ⟨plugin', bridge.requests + 1⟩ = plugin' :=
          foldl_eq_of_requests (fun _ hasked => hheld.foreign hasked) (hunchanged _ le_rfl)
        have hnext : Readable android root rootUri path child content plugin' := by
          rw [hafter]
          exact h.with_session _ n
        refine @ih (session.digest ++ chunk) (by rw [← hbytes]; exact hmore) _ next
          (hunchanged.mono (Nat.le_succ _)) ?_ ?_ hidentity hroot hpath hdocument ?_ ?_ rfl
        · rw [harrive]
          exact hnext
        · rw [harrive]
          exact hheld
        · rw [← hcontent, hinput, List.append_assoc]
        · rw [List.length_append, ← hread]
      · have hresponse := hends.response_eq
        have hall : session.digest ++ chunk = content := by rw [← hends.input_eq, hcontent]
        have hlen : session.digest.length + chunk.length = content.length := by
          rw [← hall, List.length_append]
        have haccept : acceptChunk maxBytes session.digest response =
            .ok (session.digest ++ chunk) := by
          refine acceptChunk_eq ?_ (congrArg Chunk.bytesBase64 hresponse) (Or.inl ?_) (by omega)
          · rw [hresponse, hread]
          · rw [hresponse]
            exact ⟨rfl, hends.short⟩
        rw [exec_bind, haccept, exec_lift]
        dsimp only
        rw [if_pos (by rw [hresponse]), hall, exec_lift]
        refine acceptRead_eq ?_ ?_
        · rw [hresponse, hall]
        · rw [hresponse, hread, hlen]

/-- What follows a begin that is answered. -/
theorem exec_readBinary_begun {plugin' : Plugin} {binary : SafBinary}
    (hvalid : isValidPortablePath path = true) (hlimit : maxBytes ≤ maxNativeTransferBytes)
    (hbegin : exec (runMobilePlugin android turns (beginBinaryRead android
      ⟨root, path, sessionId⟩)) bridge =
        (.ok (readyOutcome sessionId), ⟨plugin', bridge.requests + 1⟩))
    (hloop : (exec (readLoop android turns root maxBytes []) ⟨plugin', bridge.requests + 1⟩).1 =
      .ok binary) :
    (exec (readBinary android turns root path maxBytes) bridge).1 = .ok binary := by
  rw [readBinary, if_neg (by simp [hvalid]), if_neg (Nat.not_lt.mpr hlimit), attempt, exec_bind,
    exec_catching, hbegin]
  dsimp only
  rw [classifyNativeBeginResponse, if_pos ⟨rfl, rfl⟩]
  dsimp only
  rw [attempt, exec_bind, exec_catching]
  dsimp only
  rw [hloop]
  rfl

/-- A read of a document that can be read. -/
theorem exec_readBinary (hquiet : android.Quiet)
    (hdelivered : ∀ n, (turns n).delivery = .delivered)
    (hunchanged : Unchanged turns (bridge.requests + 1))
    (hid : isCanonicalBinarySessionId sessionId = true)
    (hvalid : isValidPortablePath path = true) (hmax : content.length ≤ maxBytes)
    (hlimit : maxBytes ≤ maxNativeTransferBytes)
    (h : Readable android root rootUri path child content (arriving android turns bridge))
    (hfree : activeBinarySessionId (arriving android turns bridge) = none)
    (hidle : (arriving android turns bridge).operationInFlight = false) :
    (exec (readBinary android turns root path maxBytes) bridge).1 =
      .ok { bytes := content, revisionHex := hexSha256 android.sha256 content
            byteLen := content.length } := by
  obtain ⟨n, hrun⟩ := exec_beginBinaryRead hquiet h hfree hidle
    (canonicalPortablePath_of_isValid hvalid) hid
  let session := newReadSession sessionId root rootUri path child content
  have hheld : Reading sessionId
      { arriving android turns bridge with binaryReadSession := some session, calls := n }
      session := ⟨rfl, (activeBinarySessionId_eq_none.mp hfree).2, rfl⟩
  have harrive : arriving android turns
      ⟨{ arriving android turns bridge with binaryReadSession := some session, calls := n },
        bridge.requests + 1⟩ =
      { arriving android turns bridge with binaryReadSession := some session, calls := n } :=
    foldl_eq_of_requests (fun _ hasked => hheld.foreign hasked) (hunchanged _ le_rfl)
  refine exec_readBinary_begun hvalid hlimit (exec_runMobilePlugin_delivered hdelivered hrun) ?_
  refine @exec_readLoop _ _ _ turns ⟨_, bridge.requests + 1⟩ rootUri path child content session _
    hquiet hdelivered hid hmax (hunchanged.mono (Nat.le_succ _)) ?_ ?_ rfl rfl rfl rfl rfl rfl
  · rw [harrive]
    exact h.with_session (some session) n
  · rw [harrive]
    exact hheld

end Client

end Saf
end MyVault
