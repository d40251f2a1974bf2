import MyVault.Library.Invariant
import MyVault.Saf.Ownership

/-!
# What an answer says

Each successful answer of the plugin, read back as a statement about the sessions and the
documents before and after it.
-/

namespace MyVault
namespace Saf

open Program

variable {android : Android} {plugin plugin' : Plugin}

/-! ## Parts of the commands -/

theorem requireNoBinarySession_ok {u : Unit}
    (h : exec requireNoBinarySession plugin = (.ok u, plugin')) :
    plugin = plugin' ∧ activeBinarySessionId plugin = none := by
  rw [requireNoBinarySession] at h
  obtain ⟨_, _, hread, h⟩ := exec_bind_ok.mp h
  obtain ⟨rfl, rfl⟩ := exec_read_ok.mp hread
  obtain ⟨hfree, rfl⟩ := exec_reject_ok.mp h
  exact ⟨rfl, Decidable.not_not.mp fun hactive => hfree (Or.inl hactive)⟩

theorem requireRoot_ok {expected root : String} {owner : Option String}
    (h : exec (requireRoot android expected owner) plugin = (.ok root, plugin')) :
    plugin = plugin' ∧ plugin.rootUri = some root ∧
      stableRootIdentityHex android root = expected := by
  rw [requireRoot] at h
  obtain ⟨_, _, hread, h⟩ := exec_bind_ok.mp h
  obtain ⟨rfl, rfl⟩ := exec_read_ok.mp hread
  obtain ⟨_, _, hbusy, h⟩ := exec_bind_ok.mp h
  obtain ⟨-, rfl⟩ := exec_reject_ok.mp hbusy
  obtain ⟨_, _, hform, h⟩ := exec_bind_ok.mp h
  obtain ⟨-, rfl⟩ := exec_require_ok.mp hform
  obtain ⟨found, kept, hpersisted, h⟩ := exec_bind_ok.mp h
  obtain ⟨_, _, hthe, h⟩ := exec_bind_ok.mp h
  obtain ⟨rfl, rfl⟩ := exec_the_ok.mp hthe
  obtain ⟨_, _, hrequire, h⟩ := exec_bind_ok.mp h
  obtain ⟨hidentity, rfl⟩ := exec_require_ok.mp hrequire
  obtain ⟨rfl, rfl⟩ := exec_pure_ok.mp h
  -- a root that is forgotten is not found
  rw [persistedRoot] at hpersisted
  obtain ⟨_, _, hread, hpersisted⟩ := exec_bind_ok.mp hpersisted
  obtain ⟨rfl, rfl⟩ := exec_read_ok.mp hread
  split at hpersisted
  · obtain ⟨_, _, -, hpersisted⟩ := exec_bind_ok.mp hpersisted
    exact nomatch (exec_pure_ok.mp hpersisted).1
  · obtain ⟨hroot, rfl⟩ := exec_pure_ok.mp hpersisted
    exact ⟨rfl, hroot, hidentity⟩

theorem readSome_ok {room count : ℕ} {input : List UInt8}
    (h : exec (readSome android room input) plugin = (.ok count, plugin')) :
    Calls plugin plugin' ∧ 0 < count ∧ count ≤ room ∧ count ≤ input.length := by
  refine ⟨keeps_calls_readSome.of_exec h, ?_⟩
  rw [readSome] at h
  obtain ⟨now, _, -, h⟩ := exec_bind_ok.mp h
  obtain ⟨_, _, hcount, h⟩ := exec_bind_ok.mp h
  obtain ⟨hcount, rfl⟩ := exec_reject_ok.mp hcount
  obtain ⟨rfl, rfl⟩ := exec_pure_ok.mp h
  omega

theorem take_append_drop_pred {byte : UInt8} {input : List UInt8} {count : ℕ} (h : 0 < count) :
    (byte :: input).take count ++ input.drop (count - 1) = byte :: input := by
  obtain ⟨n, rfl⟩ : ∃ n, count = n + 1 := ⟨count - 1, by omega⟩
  rw [List.take_succ_cons, Nat.add_sub_cancel, List.cons_append, List.take_append_drop]

/-- A chunk is what comes first in the stream: as much as fits, or all of it. -/
theorem readNextChunk_ok {output input chunk rest : List UInt8}
    (hroom : output.length ≤ binaryBridgeChunkBytes)
    (h : exec (readNextChunk android output input) plugin = (.ok (chunk, rest), plugin')) :
    Calls plugin plugin' ∧ chunk ++ rest = output ++ input ∧
      chunk.length ≤ binaryBridgeChunkBytes ∧
      (chunk.length < binaryBridgeChunkBytes → rest = []) := by
  refine ⟨keeps_calls_readNextChunk.of_exec h, ?_⟩
  induction output, input using readNextChunk.induct generalizing plugin with
  | case1 output input hfull =>
      rw [readNextChunk.eq_def, if_pos hfull] at h
      obtain ⟨hpair, rfl⟩ := exec_pure_ok.mp h
      cases hpair
      exact ⟨rfl, hroom, fun hlt => absurd hfull (Nat.not_le_of_lt hlt)⟩
  | case2 output hfull =>
      rw [readNextChunk, if_neg hfull] at h
      obtain ⟨_, _, -, h⟩ := exec_bind_ok.mp h
      obtain ⟨hpair, rfl⟩ := exec_pure_ok.mp h
      cases hpair
      exact ⟨rfl, hroom, fun _ => rfl⟩
  | case3 output hfull byte input ih =>
      rw [readNextChunk, if_neg hfull] at h
      obtain ⟨count, next, hcount, h⟩ := exec_bind_ok.mp h
      obtain ⟨-, hpos, hle, hlen⟩ := readSome_ok hcount
      obtain ⟨happend, hrest⟩ := ih count (by
        rw [List.length_append, List.length_take, Nat.min_eq_left hlen]
        omega) h
      rw [List.append_assoc, take_append_drop_pred hpos] at happend
      exact ⟨happend, hrest⟩

theorem verifyStream_ok {digest input all : List UInt8}
    (h : exec (verifyStream android digest input) plugin = (.ok all, plugin')) :
    all = digest ++ input := by
  induction digest, input using verifyStream.induct generalizing plugin with
  | case1 digest =>
      rw [verifyStream] at h
      obtain ⟨_, _, -, h⟩ := exec_bind_ok.mp h
      rw [← (exec_pure_ok.mp h).1, List.append_nil]
  | case2 digest byte input ih =>
      rw [verifyStream] at h
      obtain ⟨count, _, hcount, h⟩ := exec_bind_ok.mp h
      obtain ⟨-, hpos, -, -⟩ := readSome_ok hcount
      obtain ⟨_, _, -, h⟩ := exec_bind_ok.mp h
      have hall := ih count h
      rwa [List.append_assoc, take_append_drop_pred hpos] at hall

theorem openInputStream_ok {documentId : String} {input : List UInt8}
    (h : exec (openInputStream android documentId) plugin = (.ok input, plugin')) :
    Calls plugin plugin' ∧ plugin.content documentId = some input := by
  refine ⟨keeps_calls_openInputStream.of_exec h, ?_⟩
  rw [openInputStream] at h
  obtain ⟨_, called, hcall, h⟩ := exec_bind_ok.mp h
  obtain ⟨n, rfl⟩ := keeps_calls_call.of_exec hcall
  obtain ⟨_, _, hread, h⟩ := exec_bind_ok.mp h
  obtain ⟨rfl, rfl⟩ := exec_read_ok.mp hread
  exact (exec_the_ok.mp h).1

/-- The evidence of a document is that of its bytes. -/
theorem verifyBinaryDocument_ok {documentId : String} {verification : String × ℕ}
    (h : exec (verifyBinaryDocument android documentId) plugin = (.ok verification, plugin')) :
    ∃ content, plugin.content documentId = some content ∧
      verification = (hexSha256 android.sha256 content, content.length) := by
  rw [verifyBinaryDocument] at h
  obtain ⟨input, _, hopen, h⟩ := exec_bind_ok.mp h
  obtain ⟨digest, _, hstream, h⟩ := exec_bind_ok.mp h
  rw [← (exec_pure_ok.mp h).1, verifyStream_ok hstream]
  exact ⟨input, (openInputStream_ok hopen).2, rfl⟩

/-! ## Reading -/

/-- What an open stream begins with. -/
def Opened (android : Android) (plugin : Plugin) (path : Text) (session : BinaryReadSession) :
    Prop :=
  plugin.rootUri = some session.root ∧ session.path = path ∧ (∃ child : Child,
    (exec (resolveDocumentIn android session.root path) plugin).1 = .ok (some child) ∧
      child.isDir = false ∧ child.documentId = session.documentId) ∧
    plugin.content session.documentId = some session.input

theorem openReadSession_ok {args : BinaryReadBeginArgs} {path : Text} {outcome : Outcome}
    (h : exec (openReadSession android args path) plugin = (.ok outcome, plugin')) :
    activeBinarySessionId plugin = none ∧ outcome = readyOutcome args.sessionId ∧
      ∃ session n, Opened android plugin path session ∧ session.id = args.sessionId ∧
        session.rootIdentityHex = args.expectedRootIdentityHex ∧ session.digest = [] ∧
        session.read = 0 ∧
        plugin' = { plugin with binaryReadSession := some session, calls := n } := by
  rw [openReadSession] at h
  obtain ⟨_, _, hslot, h⟩ := exec_bind_ok.mp h
  obtain ⟨rfl, hfree⟩ := requireNoBinarySession_ok hslot
  obtain ⟨root, _, hrequire, h⟩ := exec_bind_ok.mp h
  obtain ⟨rfl, hroot, -⟩ := requireRoot_ok hrequire
  obtain ⟨found, resolved, hresolve, h⟩ := exec_bind_ok.mp h
  obtain ⟨n, rfl⟩ := keeps_calls_resolveDocumentIn.of_exec hresolve
  obtain ⟨child, _, hthe, h⟩ := exec_bind_ok.mp h
  obtain ⟨rfl, rfl⟩ := exec_the_ok.mp hthe
  obtain ⟨_, _, hreject, h⟩ := exec_bind_ok.mp h
  obtain ⟨hfile, rfl⟩ := exec_reject_ok.mp hreject
  obtain ⟨input, opened, hopen, h⟩ := exec_bind_ok.mp h
  obtain ⟨⟨n', rfl⟩, hcontent⟩ := openInputStream_ok hopen
  obtain ⟨_, _, hwrite, h⟩ := exec_bind_ok.mp h
  obtain rfl := exec_write_ok.mp hwrite
  obtain ⟨rfl, rfl⟩ := exec_pure_ok.mp h
  refine ⟨hfree, rfl, _, _, ⟨hroot, rfl, ⟨child, ?_, Bool.not_eq_true _ ▸ hfile, rfl⟩, hcontent⟩,
    rfl,
    rfl, rfl, rfl, rfl⟩
  dsimp only
  rw [hresolve]

/-- A begin that fails opens nothing. -/
theorem openReadSession_error {args : BinaryReadBeginArgs} {path : Text} {thrown : Thrown}
    (h : exec (openReadSession android args path) plugin = (.error thrown, plugin')) :
    Loses plugin plugin' := by
  rw [openReadSession] at h
  refine Keeps.rel_of_bind_error inferInstance (fun _ {_ _ _} h => ?_) h
  refine Keeps.rel_of_bind_error inferInstance (fun _ {_ _ _} h => ?_) h
  refine Keeps.rel_of_bind_error inferInstance (fun _ {_ _ _} h => ?_) h
  refine Keeps.rel_of_bind_error inferInstance (fun _ {_ _ _} h => ?_) h
  refine Keeps.rel_of_bind_error inferInstance (fun _ {_ _ _} h => ?_) h
  refine Keeps.rel_of_bind_error inferInstance (fun _ {_ _ _} h => ?_) h
  exact nomatch h

theorem canonicalPortablePath_ok {value path : Text}
    (h : canonicalPortablePath value = .ok path) : path = value := by
  rw [canonicalPortablePath] at h
  split at h
  · exact nomatch h
  · dsimp only at h
    split at h
    · exact nomatch h
    · split at h
      · exact nomatch h
      · cases h
        exact List.intercalate_splitOn '/'

/-- A begin opens a session, or says something else than `ready`. -/
theorem beginBinaryRead_ok {args : BinaryReadBeginArgs} {outcome : Outcome}
    (h : exec (beginBinaryRead android args) plugin = (.ok outcome, plugin')) :
    (activeBinarySessionId plugin = none ∧ outcome = readyOutcome args.sessionId ∧
      ∃ session n, Opened android plugin args.path session ∧ session.id = args.sessionId ∧
        session.rootIdentityHex = args.expectedRootIdentityHex ∧ session.digest = [] ∧
        session.read = 0 ∧
        plugin' = { plugin with binaryReadSession := some session, calls := n }) ∨
      outcome.outcome ≠ .ready ∧ Loses plugin plugin' := by
  rw [beginBinaryRead] at h
  split at h
  · obtain ⟨rfl, rfl⟩ := exec_pure_ok.mp h
    exact Or.inr ⟨by rintro ⟨⟩, Std.Refl.refl _⟩
  · rename_i path hpath
    obtain rfl := canonicalPortablePath_ok hpath
    split at h
    · obtain ⟨rfl, rfl⟩ := exec_pure_ok.mp h
      exact Or.inr ⟨by rintro ⟨⟩, Std.Refl.refl _⟩
    · obtain ⟨result, opened, hopen, h⟩ := exec_bind_ok.mp h
      have hrun := exec_catching_ok.mp hopen
      split at h
      · obtain ⟨rfl, rfl⟩ := exec_pure_ok.mp h
        exact Or.inl (openReadSession_ok hrun)
      all_goals refine Or.inr ?_
      · obtain ⟨rfl, rfl⟩ := exec_pure_ok.mp h
        exact ⟨by rintro ⟨⟩, openReadSession_error hrun⟩
      · obtain ⟨rfl, rfl⟩ := exec_pure_ok.mp h
        exact ⟨by rintro ⟨⟩, openReadSession_error hrun⟩
      · obtain ⟨rfl, rfl⟩ := exec_pure_ok.mp h
        exact ⟨by rintro ⟨⟩, openReadSession_error hrun⟩
      · have hclear := (inferInstance : Keeps Loses (do
          write (clearRootIfMatches android args.expectedRootIdentityHex)
          pure (saveOutcome .vaultUnavailable) : Answered Outcome)).of_exec h
        obtain ⟨_, _, -, h⟩ := exec_bind_ok.mp h
        obtain ⟨rfl, rfl⟩ := exec_pure_ok.mp h
        exact ⟨by rintro ⟨⟩, IsTrans.trans _ _ _ (openReadSession_error hrun) hclear⟩
      · obtain ⟨rfl, rfl⟩ := exec_pure_ok.mp h
        exact ⟨by rintro ⟨⟩, openReadSession_error hrun⟩

/-- A stream that goes on. -/
structure Continued (android : Android) (session : BinaryReadSession) (chunk : List UInt8)
    (response : Chunk) (plugin plugin' : Plugin) : Prop where
  full : chunk.length = binaryBridgeChunkBytes
  response_eq : response =
    { offset := (session.read : ℤ), bytesBase64 := encodeBase64 chunk, eof := false
      revisionHex := none, byteLen := none }
  goes_on : ∃ rest n, session.input = chunk ++ rest ∧
    plugin' = { plugin with
      binaryReadSession := some { session with
        input := rest, digest := session.digest ++ chunk, read := session.read + chunk.length }
      calls := n }

/-- The end of a stream: the document it was opened on has the same evidence. -/
structure Ended (android : Android) (session : BinaryReadSession) (chunk : List UInt8)
    (response : Chunk) (plugin plugin' : Plugin) : Prop where
  short : chunk.length < binaryBridgeChunkBytes
  input_eq : session.input = chunk
  response_eq : response =
    { offset := (session.read : ℤ), bytesBase64 := encodeBase64 chunk, eof := true
      revisionHex := some (hexSha256 android.sha256 (session.digest ++ chunk))
      byteLen := some (session.read + chunk.length) }
  closed : ∃ n, plugin' = { plugin with binaryReadSession := none, calls := n }
  verified : ∃ content, plugin.content session.documentId = some content ∧
    hexSha256 android.sha256 content = hexSha256 android.sha256 (session.digest ++ chunk) ∧
    content.length = session.read + chunk.length

theorem finishRead_ok {session : BinaryReadSession} {offset : ℤ} {chunk : List UInt8}
    {response : Chunk} (hsession : plugin.binaryReadSession = some session)
    (h : exec (finishRead android session offset chunk) plugin = (.ok response, plugin')) :
    response =
        { offset, bytesBase64 := encodeBase64 chunk, eof := true
          revisionHex := some (hexSha256 android.sha256 session.digest)
          byteLen := some session.read } ∧
      (∃ n, plugin' = { plugin with binaryReadSession := none, calls := n }) ∧
      ∃ content, plugin.content session.documentId = some content ∧
        hexSha256 android.sha256 content = hexSha256 android.sha256 session.digest ∧
        content.length = session.read := by
  have hclose : closeBinaryReadSession (some session.id) plugin =
      { plugin with binaryReadSession := none } :=
    closeBinaryReadSession_some hsession
  rw [finishRead] at h
  obtain ⟨_, _, hwrite, h⟩ := exec_bind_ok.mp h
  obtain rfl := exec_write_ok.mp hwrite
  rw [hclose] at h
  obtain ⟨found, resolved, hresolve, h⟩ := exec_bind_ok.mp h
  obtain ⟨n, rfl⟩ := keeps_calls_resolveDocumentIn.of_exec hresolve
  obtain ⟨current, _, hthe, h⟩ := exec_bind_ok.mp h
  obtain ⟨hcurrent, rfl⟩ := exec_the_ok.mp hthe
  have hdocument : current.documentId = session.documentId :=
    (of_decide_eq_true (Option.filter_eq_some_iff.mp hcurrent).2).1
  obtain ⟨verification, verified, hverify, h⟩ := exec_bind_ok.mp h
  obtain ⟨n', rfl⟩ := keeps_calls_verifyBinaryDocument.of_exec hverify
  obtain ⟨content, hcontent, rfl⟩ := verifyBinaryDocument_ok hverify
  obtain ⟨_, _, hrequire, h⟩ := exec_bind_ok.mp h
  obtain ⟨hsame, rfl⟩ := exec_require_ok.mp hrequire
  obtain ⟨rfl, rfl⟩ := exec_pure_ok.mp h
  rw [Prod.mk.injEq] at hsame
  rw [hdocument] at hcontent
  exact ⟨rfl, ⟨n', rfl⟩, content, hcontent, hsame⟩

/-- A chunk that is answered comes from the session of the one who asks. -/
theorem readBinaryChunk_ok {args : BinaryReadChunkArgs} {response : Chunk}
    (h : exec (readBinaryChunk android args) plugin = (.ok response, plugin')) :
    ∃ session chunk, plugin.binaryReadSession = some session ∧ session.id = args.sessionId ∧
      args.offset = session.read ∧
      (Continued android session chunk response plugin plugin' ∨
        Ended android session chunk response plugin plugin') := by
  rw [readBinaryChunk] at h
  split at h
  · obtain ⟨_, _, -, h⟩ := exec_bind_ok.mp h
    obtain ⟨_, _, -, h⟩ := exec_bind_ok.mp h
    split at h
    · cases h
    · cases h
  · obtain ⟨result, next, hnext, h⟩ := exec_bind_ok.mp h
    have hrun := exec_catching_ok.mp hnext
    have hfail {f : Plugin → Plugin} {rejection : Rejection} {s t : Plugin} {answer : Chunk} :
        exec (do write f; throw rejection : Answered Chunk) s ≠ (.ok answer, t) := by rintro ⟨⟩
    split at h
    · obtain ⟨rfl, rfl⟩ := exec_pure_ok.mp h
      rw [nextReadChunk] at hrun
      obtain ⟨_, _, hread, hrun⟩ := exec_bind_ok.mp hrun
      obtain ⟨rfl, rfl⟩ := exec_read_ok.mp hread
      dsimp only [id_eq] at hrun
      split at hrun
      · cases hrun
      · rename_i session hsession
        split at hrun
        · cases hrun
        · rename_i howner
          split at hrun
          · cases hrun
          · rename_i hoffset
            obtain ⟨_, _, hroot, hrun⟩ := exec_bind_ok.mp hrun
            obtain ⟨rfl, -, -⟩ := requireRoot_ok hroot
            obtain ⟨⟨chunk, rest⟩, chunked, hchunk, hrun⟩ := exec_bind_ok.mp hrun
            obtain ⟨⟨n, rfl⟩, happend, hle, hend⟩ := readNextChunk_ok (Nat.zero_le _) hchunk
            rw [List.nil_append] at happend
            dsimp only at hrun
            obtain ⟨_, _, hlimit, hrun⟩ := exec_bind_ok.mp hrun
            obtain ⟨-, rfl⟩ := exec_reject_ok.mp hlimit
            obtain ⟨_, _, hwrite, hrun⟩ := exec_bind_ok.mp hrun
            obtain rfl := exec_write_ok.mp hwrite
            have hslot := readOwnership_eq_owner.mp (Decidable.not_not.mp howner)
            rw [readSlot, hsession, Option.map_some, Option.some.injEq, Prod.mk.injEq] at hslot
            have hoffset := Decidable.not_not.mp hoffset
            refine ⟨session, chunk, hsession, hslot.1, hoffset.symm, ?_⟩
            split at hrun
            · rename_i heof
              rw [isBinaryChunkEof, decide_eq_true_eq] at heof
              have hrest := hend heof
              subst hrest
              obtain ⟨hresponse, hclosed, hverified⟩ := finishRead_ok rfl hrun
              rw [← hoffset] at hresponse
              rw [List.append_nil] at happend
              exact Or.inr ⟨heof, happend.symm, hresponse, hclosed, hverified⟩
            · rename_i heof
              rw [isBinaryChunkEof, decide_eq_true_eq, Nat.not_lt] at heof
              obtain ⟨rfl, rfl⟩ := exec_pure_ok.mp hrun
              rw [← hoffset]
              exact Or.inl ⟨Nat.le_antisymm hle heof, rfl, rest, n, happend.symm, rfl⟩
    · cases h
    all_goals exact absurd h hfail

/-- After an abort the session is not the one of the request. -/
theorem readSlot_abortBinaryRead {args : BinarySessionArgs} :
    readSlot (exec (abortBinaryRead args) plugin).2 ≠
      some (args.sessionId, args.expectedRootIdentityHex) := by
  rw [abortBinaryRead, exec_bind, exec_read]
  dsimp only [id_eq]
  split
  · rename_i howner
    rw [exec_pure]
    exact fun hslot => howner (readOwnership_eq_owner.mpr hslot)
  · rename_i howner
    have hslot := readOwnership_eq_owner.mp (Decidable.not_not.mp howner)
    rw [exec_bind, exec_write]
    dsimp only
    rw [closeBinaryReadSession_owner hslot]
    rintro ⟨⟩

/-! ## Creating -/

/-- A document that was created, empty and open for writing. -/
structure Created (android : Android) (args : BinaryWriteBeginArgs) (session : BinaryWriteSession)
    (plugin plugin' : Plugin) : Prop where
  rootUri_eq : plugin.rootUri = some session.root
  path_eq : session.path = args.path
  document : (exec (createEmptyBinaryDocument android session.root args.path) plugin).1 =
    .ok session.documentId
  id_eq : session.id = args.sessionId
  root_eq : session.rootIdentityHex = args.expectedRootIdentityHex
  sha256_eq : session.expectedSha256Hex = args.sha256Hex
  byteLen_eq : session.expectedByteLen = args.byteLen.toNat
  digest_eq : session.digest = []
  written_eq : session.written = 0
  read_none : plugin'.binaryReadSession = none
  write_some : plugin'.binaryWriteSession = some session
  content_eq : plugin'.content session.documentId = some []

theorem openTruncated_ok {documentId : String} {u : Unit}
    (h : exec (openTruncated android documentId) plugin = (.ok u, plugin')) :
    plugin'.content documentId = some [] := by
  rw [openTruncated] at h
  obtain ⟨result, called, hcall, h⟩ := exec_bind_ok.mp h
  split at h
  · cases h
  · obtain ⟨_, _, hread, h⟩ := exec_bind_ok.mp h
    obtain ⟨rfl, rfl⟩ := exec_read_ok.mp hread
    obtain ⟨_, _, hrequire, h⟩ := exec_bind_ok.mp h
    obtain ⟨-, rfl⟩ := exec_require_ok.mp hrequire
    obtain rfl := exec_write_ok.mp h
    exact if_pos rfl

theorem openWriteSession_ok {args : BinaryWriteBeginArgs} {outcome : Outcome}
    (h : exec (openWriteSession android args args.path) plugin = (.ok outcome, plugin')) :
    outcome = readyOutcome args.sessionId ∧
      ∃ session, Created android args session plugin plugin' := by
  rw [openWriteSession] at h
  obtain ⟨_, _, hslot, h⟩ := exec_bind_ok.mp h
  obtain ⟨rfl, hfree⟩ := requireNoBinarySession_ok hslot
  obtain ⟨root, _, hrequire, h⟩ := exec_bind_ok.mp h
  obtain ⟨rfl, hroot, -⟩ := requireRoot_ok hrequire
  obtain ⟨documentId, made, hcreate, h⟩ := exec_bind_ok.mp h
  obtain ⟨_, opened, hopen, h⟩ := exec_bind_ok.mp h
  obtain ⟨_, _, hwrite, h⟩ := exec_bind_ok.mp h
  obtain rfl := exec_write_ok.mp hwrite
  obtain ⟨rfl, rfl⟩ := exec_pure_ok.mp h
  have hloses : Loses plugin opened := IsTrans.trans _ _ _
    (keeps_loses_createEmptyBinaryDocument.of_exec hcreate)
    (keeps_loses_openTruncated.of_exec hopen)
  have hnone : opened.binaryReadSession = none := by
    rcases hloses.1 with hnone | hsame
    · exact hnone
    · rw [hsame, (activeBinarySessionId_eq_none.mp hfree).1]
  have hempty := openTruncated_ok hopen
  let session : BinaryWriteSession :=
    { id := args.sessionId, rootIdentityHex := args.expectedRootIdentityHex, root
      path := args.path, documentId, expectedSha256Hex := args.sha256Hex
      expectedByteLen := args.byteLen.toNat, digest := [], written := 0 }
  exact ⟨rfl, session, hroot, rfl, congrArg Prod.fst hcreate, rfl, rfl, rfl, rfl, rfl, rfl, hnone,
    rfl, hempty⟩

/-- A begin that fails opens nothing. -/
theorem openWriteSession_error {args : BinaryWriteBeginArgs} {path : Text} {thrown : Thrown}
    (h : exec (openWriteSession android args path) plugin = (.error thrown, plugin')) :
    Loses plugin plugin' := by
  rw [openWriteSession] at h
  refine Keeps.rel_of_bind_error inferInstance (fun _ {_ _ _} h => ?_) h
  refine Keeps.rel_of_bind_error inferInstance (fun _ {_ _ _} h => ?_) h
  refine Keeps.rel_of_bind_error inferInstance (fun _ {_ _ _} h => ?_) h
  refine Keeps.rel_of_bind_error inferInstance (fun _ {_ _ _} h => ?_) h
  exact nomatch h

theorem beginBinaryCreate_ok {args : BinaryWriteBeginArgs} {outcome : Outcome}
    (h : exec (beginBinaryCreate android args) plugin = (.ok outcome, plugin')) :
    (outcome = readyOutcome args.sessionId ∧
      ∃ session, Created android args session plugin plugin') ∨
      outcome.outcome ≠ .ready ∧ Loses plugin plugin' := by
  rw [beginBinaryCreate] at h
  split at h
  · obtain ⟨rfl, rfl⟩ := exec_pure_ok.mp h
    exact Or.inr ⟨by rintro ⟨⟩, Std.Refl.refl _⟩
  · rename_i path hpath
    obtain rfl := canonicalPortablePath_ok hpath
    split at h
    · obtain ⟨rfl, rfl⟩ := exec_pure_ok.mp h
      exact Or.inr ⟨by rintro ⟨⟩, Std.Refl.refl _⟩
    · obtain ⟨result, opened, hopen, h⟩ := exec_bind_ok.mp h
      have hrun := exec_catching_ok.mp hopen
      split at h
      · obtain ⟨rfl, rfl⟩ := exec_pure_ok.mp h
        exact Or.inl (openWriteSession_ok hrun)
      all_goals refine Or.inr ?_
      · obtain ⟨rfl, rfl⟩ := exec_pure_ok.mp h
        exact ⟨by rintro ⟨⟩, openWriteSession_error hrun⟩
      · obtain ⟨rfl, rfl⟩ := exec_pure_ok.mp h
        exact ⟨by rintro ⟨⟩, openWriteSession_error hrun⟩
      · obtain ⟨rfl, rfl⟩ := exec_pure_ok.mp h
        exact ⟨by rintro ⟨⟩, openWriteSession_error hrun⟩
      · have hclear := (inferInstance : Keeps Loses (do
          write (clearRootIfMatches android args.expectedRootIdentityHex)
          pure (saveOutcome .writeOutcomeUnknown) : Answered Outcome)).of_exec h
        obtain ⟨_, _, -, h⟩ := exec_bind_ok.mp h
        obtain ⟨rfl, rfl⟩ := exec_pure_ok.mp h
        exact ⟨by rintro ⟨⟩, IsTrans.trans _ _ _ (openWriteSession_error hrun) hclear⟩
      · obtain ⟨rfl, rfl⟩ := exec_pure_ok.mp h
        exact ⟨by rintro ⟨⟩, openWriteSession_error hrun⟩

theorem writeOutput_ok {session : BinaryWriteSession} {chunk : List UInt8} {u : Unit}
    (h : exec (writeOutput android session chunk) plugin = (.ok u, plugin')) :
    ∃ n, plugin' =
      { writeContent session.documentId session.written chunk plugin with calls := n } := by
  rw [writeOutput] at h
  obtain ⟨now, _, hread, h⟩ := exec_bind_ok.mp h
  obtain ⟨rfl, rfl⟩ := exec_read_ok.mp hread
  obtain ⟨result, called, hcall, h⟩ := exec_bind_ok.mp h
  obtain ⟨n, rfl⟩ := keeps_calls_call.of_exec (exec_catching_ok.mp hcall)
  split at h
  · obtain ⟨_, _, -, h⟩ := exec_bind_ok.mp h
    cases h
  · obtain rfl := exec_write_ok.mp h
    exact ⟨n, rfl⟩

/-- A chunk that is accepted is written behind what was written before. -/
theorem appendBinaryChunk_accepted {args : BinaryWriteChunkArgs} {outcome : Outcome}
    (h : exec (appendBinaryChunk android args) plugin = (.ok outcome, plugin'))
    (haccepted : outcome.outcome = .accepted) :
    ∃ session chunk n, plugin.binaryWriteSession = some session ∧
      android.decode args.bytesBase64 = some chunk ∧
      plugin' = { writeContent session.documentId session.written chunk plugin with
        binaryWriteSession := some { session with
          digest := session.digest ++ chunk, written := session.written + chunk.length }
        calls := n } := by
  have hmalformed {active : Bool} : malformedBinaryWriteOutcome active ≠ .accepted := by
    cases active <;> rintro ⟨⟩
  rw [appendBinaryChunk] at h
  obtain ⟨_, _, hread, h⟩ := exec_bind_ok.mp h
  obtain ⟨rfl, rfl⟩ := exec_read_ok.mp hread
  dsimp only [id_eq] at h
  split at h
  · obtain ⟨_, _, -, h⟩ := exec_bind_ok.mp h
    obtain ⟨rfl, -⟩ := exec_pure_ok.mp h
    exact absurd haccepted hmalformed
  · rename_i chunk hdecode
    split at h
    · obtain ⟨rfl, -⟩ := exec_pure_ok.mp h
      exact absurd haccepted (@hmalformed false)
    · rename_i session hsession
      split at h
      · obtain ⟨rfl, -⟩ := exec_pure_ok.mp h
        exact absurd haccepted hmalformed
      · split at h
        · obtain ⟨_, _, -, h⟩ := exec_bind_ok.mp h
          obtain ⟨rfl, -⟩ := exec_pure_ok.mp h
          cases haccepted
        · rename_i nextOffset hnext
          obtain ⟨result, appended, happend, h⟩ := exec_bind_ok.mp h
          have hrun := exec_catching_ok.mp happend
          split at h
          · obtain ⟨rfl, rfl⟩ := exec_pure_ok.mp h
            rw [appendChunk] at hrun
            obtain ⟨_, _, hroot, hrun⟩ := exec_bind_ok.mp hrun
            obtain ⟨rfl, -, -⟩ := requireRoot_ok hroot
            obtain ⟨_, _, hout, hrun⟩ := exec_bind_ok.mp hrun
            obtain ⟨n, rfl⟩ := writeOutput_ok hout
            obtain ⟨_, _, hwrite, hrun⟩ := exec_bind_ok.mp hrun
            obtain rfl := exec_write_ok.mp hwrite
            obtain ⟨rfl, rfl⟩ := exec_pure_ok.mp hrun
            rw [nextBinaryWriteOffset] at hnext
            split at hnext
            · cases hnext
            · dsimp only at hnext
              split at hnext
              · cases hnext
                exact ⟨session, chunk, n, hsession, hdecode, rfl⟩
              · cases hnext
          · obtain ⟨_, _, -, h⟩ := exec_bind_ok.mp h
            obtain ⟨rfl, -⟩ := exec_pure_ok.mp h
            cases haccepted

/-- What is reported as saved has been read back. -/
theorem finishBinaryCreate_saved {args : BinarySessionArgs} {outcome : Outcome}
    (h : exec (finishBinaryCreate android args) plugin = (.ok outcome, plugin'))
    (hsaved : outcome.outcome = .saved) :
    ∃ session n, plugin.binaryWriteSession = some session ∧
      plugin' = { plugin with binaryWriteSession := none, calls := n } ∧
      ∃ content, plugin.content session.documentId = some content ∧
        hexSha256 android.sha256 content = session.expectedSha256Hex ∧
        content.length = session.expectedByteLen := by
  have hmalformed {active : Bool} : malformedBinaryWriteOutcome active ≠ .saved := by
    cases active <;> rintro ⟨⟩
  rw [finishBinaryCreate] at h
  obtain ⟨_, _, hread, h⟩ := exec_bind_ok.mp h
  obtain ⟨rfl, rfl⟩ := exec_read_ok.mp hread
  dsimp only [id_eq] at h
  split at h
  · obtain ⟨rfl, -⟩ := exec_pure_ok.mp h
    exact absurd hsaved (@hmalformed false)
  · rename_i session hsession
    split at h
    · obtain ⟨rfl, -⟩ := exec_pure_ok.mp h
      exact absurd hsaved hmalformed
    · rename_i howner
      have hslot := writeOwnership_eq_owner.mp (Decidable.not_not.mp howner)
      obtain ⟨result, finished, hfinish, h⟩ := exec_bind_ok.mp h
      have hrun := exec_catching_ok.mp hfinish
      split at h
      · obtain ⟨rfl, rfl⟩ := exec_pure_ok.mp h
        rw [finishCreate] at hrun
        obtain ⟨_, _, hroot, hrun⟩ := exec_bind_ok.mp hrun
        obtain ⟨rfl, -, -⟩ := requireRoot_ok hroot
        split at hrun
        · obtain ⟨_, _, -, hrun⟩ := exec_bind_ok.mp hrun
          obtain ⟨rfl, -⟩ := exec_pure_ok.mp hrun
          cases hsaved
        · obtain ⟨_, _, hflush, hrun⟩ := exec_bind_ok.mp hrun
          obtain ⟨n, rfl⟩ := keeps_calls_call.of_exec hflush
          obtain ⟨_, _, hsync, hrun⟩ := exec_bind_ok.mp hrun
          obtain ⟨n', rfl⟩ := keeps_calls_call.of_exec hsync
          obtain ⟨_, _, hwrite, hrun⟩ := exec_bind_ok.mp hrun
          obtain rfl := exec_write_ok.mp hwrite
          rw [@closeBinaryWriteSession_owner { plugin with calls := n' } _ _ hslot] at hrun
          obtain ⟨found, resolved, hresolve, hrun⟩ := exec_bind_ok.mp hrun
          obtain ⟨m, rfl⟩ := keeps_calls_resolveDocumentIn.of_exec hresolve
          split at hrun
          · obtain ⟨rfl, -⟩ := exec_pure_ok.mp hrun
            cases hsaved
          · rename_i current hcurrent
            obtain ⟨verification, verified, hverify, hrun⟩ := exec_bind_ok.mp hrun
            obtain ⟨m', rfl⟩ := keeps_calls_verifyBinaryDocument.of_exec hverify
            obtain ⟨content, hcontent, rfl⟩ := verifyBinaryDocument_ok hverify
            split at hrun
            · obtain ⟨rfl, -⟩ := exec_pure_ok.mp hrun
              cases hsaved
            · rename_i hsame
              rw [not_or, not_not, not_not] at hsame
              obtain ⟨rfl, rfl⟩ := exec_pure_ok.mp hrun
              rw [Option.filter_eq_some_iff, decide_eq_true_eq] at hcurrent
              rw [hcurrent.2.1] at hcontent
              exact ⟨session, m', hsession, rfl, content, hcontent, hsame.2, hsame.1⟩
      · obtain ⟨_, _, -, h⟩ := exec_bind_ok.mp h
        obtain ⟨rfl, -⟩ := exec_pure_ok.mp h
        cases hsaved

theorem writeSlot_abortBinaryCreate {args : BinarySessionArgs} :
    writeSlot (exec (abortBinaryCreate args) plugin).2 ≠
      some (args.sessionId, args.expectedRootIdentityHex) := by
  rw [abortBinaryCreate, exec_bind, exec_read]
  dsimp only [id_eq]
  split
  · rename_i hnone
    rw [exec_pure, writeSlot, hnone]
    rintro ⟨⟩
  · split
    · rename_i howner
      rw [exec_pure]
      exact fun hslot => howner (writeOwnership_eq_owner.mpr hslot)
    · rename_i howner
      have hslot := writeOwnership_eq_owner.mp (Decidable.not_not.mp howner)
      rw [exec_bind, exec_write]
      dsimp only
      rw [closeBinaryWriteSession_owner hslot]
      rintro ⟨⟩

end Saf
end MyVault
