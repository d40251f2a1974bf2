import MyVault.Saf.Undisturbed

/-!
# The bridge as a whole

What a call of the client gives, what others can do to its session, and that the session is
gone after the call.  A request of the owner at another offset closes the session; and a
document that another app changes after it was opened is returned as it was changed.

## Reads and creates among others

The plugin keeps one read session and one write session for all callers.  Between two requests of
a client anything may happen: other callers send requests, other apps change documents, the
permission goes, and a request or its answer is lost.  `Turn` is what happens before a request,
and the statement is for every sequence of turns.

A read returns bytes that were hashed twice, once as they were read and once when the document was
read back; nothing in the protocol holds a document still between the two.  So the digest is that
of the content at the second time, and the bytes are those of the first.  A create writes to a
document of its own and reads it back in the same way.
-/

namespace MyVault
namespace Saf

open Program

variable {android : Android} {sessionId root : String} {turns : ℕ → Turn sessionId}
  {bridge bridge' : Bridge}

/-- The result of a read and the document it was opened on. -/
theorem readBinary_exact {path : Text} {maxBytes : ℕ} {binary : SafBinary}
    (h : exec (readBinary android turns root path maxBytes) bridge = (.ok binary, bridge')) :
    binary.revisionHex = hexSha256 android.sha256 binary.bytes ∧
      binary.byteLen = binary.bytes.length ∧
      ∃ session, Opened android (arriving android turns bridge) path session ∧
        (∃ content, bridge'.plugin.content session.documentId = some content ∧
          hexSha256 android.sha256 content = hexSha256 android.sha256 binary.bytes ∧
          content.length = binary.bytes.length) ∧
        (Unchanged turns (bridge.requests + 1) → session.input = binary.bytes) := by
  rw [readBinary] at h
  split at h
  · cases h
  · split at h
    · cases h
    · obtain ⟨begun, opened, hattempt, h⟩ := exec_bind_ok.mp h
      have hbegin := exec_catching_ok.mp hattempt
      have habort {error : SafTransferError} {b : Bridge} :
          exec (abortReadWith android turns root error : Client SafBinary) b ≠
            (.ok binary, bridge') := by
        rw [abortReadWith, abortWith, attempt, exec_bind, exec_catching]
        rintro ⟨⟩
      split at h
      · exact absurd h habort
      · obtain ⟨-, hrequests, hrun⟩ := runMobilePlugin_ok hbegin
        split at h
        · exact absurd h habort
        · cases h
        · rename_i hdecision
          obtain ⟨result, after, hattempt', h⟩ := exec_bind_ok.mp h
          have hloop := exec_catching_ok.mp hattempt'
          split at h
          · obtain ⟨rfl, rfl⟩ := exec_pure_ok.mp h
            rcases beginBinaryRead_ok hrun with ⟨hfree, -, session, n, hopened, hid, -, hdigest,
              hread, hplugin⟩ | ⟨hne, -⟩
            · have hreading : Reading sessionId opened.plugin session := by
                rw [hplugin]
                exact ⟨rfl, (activeBinarySessionId_eq_none.mp hfree).2, hid⟩
              obtain ⟨hrevision, hlen, hverified, hexact⟩ := readLoop_exact hreading hdigest hread
                hloop
              refine ⟨hrevision, hlen, session, hopened, hverified, fun hunchanged => ?_⟩
              rw [hexact (by rwa [hrequests]), List.nil_append]
            · -- only `ready` goes on
              rw [classifyNativeBeginResponse, if_neg (fun hready => hne hready.1)] at hdecision
              split at hdecision <;> cases hdecision
          · exact absurd h habort

/-- What a create that is reported as saved has made. -/
theorem writeBinary_exact {path : Text} {bytes : List UInt8} {sha256Hex : String} {save : SafSave}
    (h : exec (writeBinary android turns root path bytes sha256Hex) bridge =
      (.ok save, bridge')) :
    sha256Hex = hexSha256 android.sha256 bytes ∧ ∃ rootUri documentId,
      (arriving android turns bridge).rootUri = some rootUri ∧
        (exec (createEmptyBinaryDocument android rootUri path) (arriving android turns bridge)).1 =
          .ok documentId ∧
        (∃ content, bridge'.plugin.content documentId = some content ∧
          hexSha256 android.sha256 content = sha256Hex ∧ content.length = bytes.length) ∧
        (Unchanged turns (bridge.requests + 1) →
          bridge'.plugin.content documentId = some bytes) := by
  rw [writeBinary] at h
  split at h
  · cases h
  · split at h
    · cases h
    · rename_i hsha
      refine ⟨(Decidable.not_not.mp hsha).symm, ?_⟩
      obtain ⟨begun, opened, hattempt, h⟩ := exec_bind_ok.mp h
      have hbegin := exec_catching_ok.mp hattempt
      have habort {error : SafTransferError} {b : Bridge} :
          exec (abortCreateWith android turns root error : Client SafSave) b ≠
            (.ok save, bridge') := by
        rw [abortCreateWith, abortWith, attempt, exec_bind, exec_catching]
        rintro ⟨⟩
      split at h
      · exact absurd h habort
      · obtain ⟨-, hrequests, hrun⟩ := runMobilePlugin_ok hbegin
        split at h
        · exact absurd h habort
        · cases h
        · rename_i hdecision
          obtain ⟨result, after, hattempt', h⟩ := exec_bind_ok.mp h
          have hloop := exec_catching_ok.mp hattempt'
          split at h
          · obtain ⟨rfl, rfl⟩ := exec_pure_ok.mp h
            rcases beginBinaryCreate_ok hrun with ⟨-, session, hcreated⟩ | ⟨hne, -⟩
            · have hwriting : Writing sessionId opened.plugin session :=
                ⟨hcreated.read_none, hcreated.write_some, hcreated.id_eq⟩
              obtain ⟨hverified, hexact⟩ := writeAndFinish_exact hwriting hcreated.written_eq
                hcreated.sha256_eq (hcreated.byteLen_eq.trans (Int.toNat_natCast _)) hloop
              exact ⟨session.root, session.documentId, hcreated.rootUri_eq, hcreated.document,
                hverified, fun hunchanged => hexact (by rwa [hrequests]) hcreated.content_eq⟩
            · rw [classifyNativeBeginResponse, if_neg (fun hready => hne hready.1)] at hdecision
              split at hdecision <;> cases hdecision
          · exact absurd h habort

/-- The bridge: what a read returns, namely what the document it opened holds when that is read
back, that an undisturbed read returns, what a create has made below the plugin's root, that a
session is left alone by others and closed by its owner's wrong offset, and that it is gone after
the call. -/
theorem bridge_exact (android : Android) (sessionId root : String)
    (turns : ℕ → Turn sessionId) (plugin : Plugin) (path : Text) :
    (∀ maxBytes binary bridge',
      exec (readBinary android turns root path maxBytes) ⟨plugin, 0⟩ = (.ok binary, bridge') →
        binary.revisionHex = hexSha256 android.sha256 binary.bytes ∧
          binary.byteLen = binary.bytes.length ∧
          ∃ session, Opened android (arriving android turns ⟨plugin, 0⟩) path session ∧
            (∃ content, bridge'.plugin.content session.documentId = some content ∧
              hexSha256 android.sha256 content = hexSha256 android.sha256 binary.bytes ∧
              content.length = binary.bytes.length) ∧
            (Unchanged turns 1 → session.input = binary.bytes)) ∧
    (∀ rootUri child content maxBytes, android.Quiet →
      (∀ n, (turns n).delivery = .delivered) → Unchanged turns 1 →
      isCanonicalBinarySessionId sessionId = true → isValidPortablePath path = true →
      content.length ≤ maxBytes → maxBytes ≤ maxNativeTransferBytes →
      Readable android root rootUri path child content (arriving android turns ⟨plugin, 0⟩) →
      activeBinarySessionId (arriving android turns ⟨plugin, 0⟩) = none →
      (arriving android turns ⟨plugin, 0⟩).operationInFlight = false →
        (exec (readBinary android turns root path maxBytes) ⟨plugin, 0⟩).1 =
          .ok { bytes := content, revisionHex := hexSha256 android.sha256 content
                byteLen := content.length }) ∧
    (∀ bytes sha256Hex save bridge',
      exec (writeBinary android turns root path bytes sha256Hex) ⟨plugin, 0⟩ =
          (.ok save, bridge') →
        sha256Hex = hexSha256 android.sha256 bytes ∧ ∃ rootUri documentId,
          (arriving android turns ⟨plugin, 0⟩).rootUri = some rootUri ∧
            (exec (createEmptyBinaryDocument android rootUri path)
              (arriving android turns ⟨plugin, 0⟩)).1 = .ok documentId ∧
            (∃ content, bridge'.plugin.content documentId = some content ∧
              hexSha256 android.sha256 content = sha256Hex ∧ content.length = bytes.length) ∧
            (Unchanged turns 1 → bridge'.plugin.content documentId = some bytes)) ∧
    (∀ asked, Foreign asked plugin → asked.run android plugin = plugin) ∧
    (∀ session offset, plugin.binaryReadSession = some session → (session.read : ℤ) ≠ offset →
      (Request.readBinaryChunk ⟨session.rootIdentityHex, session.id, offset⟩).run android plugin =
        { plugin with binaryReadSession := none }) ∧
    (∀ session bytesBase64 offset, plugin.binaryWriteSession = some session →
      (session.written : ℤ) ≠ offset →
        (Request.appendBinaryChunk
            ⟨session.rootIdentityHex, session.id, bytesBase64, offset⟩).run android plugin =
          { plugin with binaryWriteSession := none }) ∧
    (∀ maxBytes x bridge', readView.Free sessionId plugin →
      exec (readBinary android turns root path maxBytes) ⟨plugin, 0⟩ = (x, bridge') →
      (∀ n, bridge'.requests = n + 1 → (turns n).delivery ≠ .requestLost) →
        readView.Free sessionId bridge'.plugin) ∧
    (∀ bytes sha256Hex x bridge', writeView.Free sessionId plugin →
      exec (writeBinary android turns root path bytes sha256Hex) ⟨plugin, 0⟩ = (x, bridge') →
      (∀ n, bridge'.requests = n + 1 → (turns n).delivery ≠ .requestLost) →
        writeView.Free sessionId bridge'.plugin) := by
  refine ⟨fun _ _ _ => readBinary_exact, ?_, fun _ _ _ _ => writeBinary_exact, ?_, ?_, ?_, ?_, ?_⟩
  · intro rootUri child content maxBytes hquiet hdelivered hunchanged hid hvalid hmax hlimit h
      hfree hidle
    exact exec_readBinary hquiet hdelivered hunchanged hid hvalid hmax hlimit h hfree hidle
  · exact fun _ => run_eq_of_foreign
  · exact fun _ _ => run_readBinaryChunk_wrong_offset
  · exact fun _ _ _ => run_appendBinaryChunk_wrong_offset
  · intro maxBytes x bridge' hfree h hlast
    exact @readBinary_free _ _ _ _ ⟨plugin, 0⟩ _ _ _ _ hfree h hlast
  · intro bytes sha256Hex x bridge' hfree h hlast
    exact @writeBinary_free _ _ _ _ ⟨plugin, 0⟩ _ _ _ _ _ hfree h hlast

/-- A system whose calls all give something. -/
def quietAndroid : Android where
  sha256 := constantDigest
  getTreeDocumentId := fun _ => "0"
  decode := fun value => (decodeBase64Bounded value value.length).toOption
  decode_encodeBase64 := by
    intro bytes
    have hle : bytes.length ≤ (encodeBase64 bytes).length := by
      rw [length_encodeBase64]
      omega
    rw [decodeBase64Bounded_encodeBase64 hle]
    rfl
  throws := fun _ => none
  available := fun _ => 1
  created := fun _ => none

theorem quietAndroid_quiet : quietAndroid.Quiet := fun _ => ⟨rfl, Nat.one_pos⟩

/-- A vault with one document. -/
def onePlugin (content : List UInt8) : Plugin where
  rootUri := some "tree"
  permitted := true
  operationInFlight := false
  binaryReadSession := none
  binaryWriteSession := none
  children := fun documentId => if documentId = "0" then some [noteChild "1"] else none
  content := fun documentId => if documentId = "1" then some content else none
  calls := 0

theorem onePlugin_readable {content : List UInt8} (h : content.length ≤ binaryMaxTransferBytes) :
    Readable quietAndroid (stableRootIdentityHex quietAndroid "tree") "tree" "a.md".toList
      (noteChild "1") content (onePlugin content) :=
  ⟨⟨rfl, rfl, rfl⟩, rfl, rfl, rfl, h⟩

/-- A document that another app changes after it was opened is read as changed; and a request
of the owner at another offset closes its session. -/
theorem bridge_inexact :
    let sessionId := "00000000-0000-4000-8000-000000000000"
    let root := stableRootIdentityHex quietAndroid "tree"
    let session := newReadSession sessionId root "tree" "a.md".toList (noteChild "1") [97]
    let rewritten := onePlugin [98]
    let turns : ℕ → Turn sessionId := fun n =>
      { before :=
          if n = 1 then [.change rewritten.children rewritten.content rewritten.permitted [98]]
          else []
        delivery := .delivered }
    (exec (beginBinaryRead quietAndroid ⟨root, "a.md".toList, sessionId⟩)
          (onePlugin [97])).2.binaryReadSession = some session ∧
      (exec (readBinary quietAndroid turns root "a.md".toList 1) ⟨onePlugin [97], 0⟩).1 =
        .ok { bytes := [98], revisionHex := hexSha256 constantDigest [98], byteLen := 1 } ∧
      (Request.readBinaryChunk ⟨root, sessionId, 1⟩).run quietAndroid
          { onePlugin [97] with binaryReadSession := some session } =
        { onePlugin [97] with binaryReadSession := none } := by
  intro sessionId root session rewritten turns
  have hid : isCanonicalBinarySessionId sessionId = true := by decide
  have hvalid : isValidPortablePath "a.md".toList = true := by decide
  have hopened : Readable quietAndroid root "tree" "a.md".toList (noteChild "1") [97]
      (onePlugin [97]) := onePlugin_readable (by decide)
  have hchanged : Readable quietAndroid root "tree" "a.md".toList (noteChild "1") [98]
      (onePlugin [98]) := onePlugin_readable (by decide)
  obtain ⟨n, hrun⟩ := exec_beginBinaryRead quietAndroid_quiet hopened rfl rfl
    (canonicalPortablePath_of_isValid hvalid) hid
  have hdelivered : ∀ n, (turns n).delivery = .delivered := fun _ => rfl
  have hwrong := @run_readBinaryChunk_wrong_offset quietAndroid
    { onePlugin [97] with binaryReadSession := some session } session 1 rfl (by decide)
  refine ⟨congrArg (fun answer => answer.2.binaryReadSession) hrun, ?_, hwrong⟩
  have hbegin := @exec_runMobilePlugin_delivered quietAndroid _ turns ⟨onePlugin [97], 0⟩ _ _ _ _
    hdelivered hrun
  refine exec_readBinary_begun hvalid (by decide) hbegin ?_
  refine @exec_readLoop quietAndroid _ root turns ⟨_, 1⟩ "tree" "a.md".toList (noteChild "1") [98]
    { session with input := [98] } 1 quietAndroid_quiet hdelivered hid (by decide) ?_
    (hchanged.with_session (some { session with input := [98] }) n) ⟨rfl, rfl, rfl⟩ rfl rfl rfl
    rfl rfl rfl
  intro m hm disturbance hmem
  have hlater : (turns m).before = [] := if_neg (Nat.ne_of_gt (show 1 < m from hm))
  rw [hlater] at hmem
  exact nomatch hmem

end Saf
end MyVault
