import MyVault.Transfer.StoreRuns

/-!
# Operations that have the turns to themselves

What a call comes to after any run where nothing fails and no other call runs.
`download_completes_iff` says exactly when a download makes its stage: it is held up by what
is left of its own stage, where that cannot be read, is long enough and not the evidence, or
is an object.  `publish_completes_iff` says exactly when the base of a stage is published: it
is held up by the object under the name of its digest, where that holds other bytes or is still
the stage of another operation, which was cut off between the link and the removal of its stage.
A download that has come to a failure after which it is tried again by itself is not held up
(`retried_download_completes`), and neither is the publication that was cut off there
(`cut_publication_completes`).

## How the argument goes

A call is a process that takes a turn for each access to the disk.  Alone, its turns come to one
function of the disk, `finish`, so the calls are computed there: one equation for each of the
functions of the source, over a disk that the invariant of the runs holds of.
`finish_downloadStage` and `finish_publishBase_iff` are the ones the results need, and
`storeAfter_alone` takes them back to the events.

The conditions `StageFits`, `ObjectFits` and `Publishable` are on the disk before the call: which
stage and which object are there, and what they hold.
-/

namespace MyVault
namespace PrivateTransferStore

open Process Check Transfer Vault.Stepwise

variable {sha256 : Sha256} {blake3 : Blake3} {umask : ℕ} {d t u : Disk} {operationId : Uuid}
  {expectedSha256 digest : String} {expectedByteLen maxBytes handle : ℕ} {node : FileNode}
  {α : Type}

/-! ## Looks -/

/-- What `openStage` comes to. -/
def opens (d : Disk) (operationId : Uuid) (maxLinks : ℕ) : Except NativeTransferError ℕ := do
  let handle ← named (d.stage operationId) .stageUnavailable
  verifyPrivateFile d handle maxLinks
  pure handle

theorem finish_openStage (d : Disk) (operationId : Uuid) (maxLinks : ℕ) :
    (openStage operationId maxLinks).finish (Step.run umask) d =
      (opens d operationId maxLinks, d) :=
  finish_look_bind rfl fun _ _ => finish_look_bind rfl fun _ _ => rfl

theorem opens_eq_ok {maxLinks : ℕ} : opens d operationId maxLinks = .ok handle ↔
    d.stage operationId = some handle ∧ (∃ node, d.nodes[handle]? = some node ∧
      node.isPrivate = true) ∧ 1 ≤ d.links handle ∧ d.links handle ≤ maxLinks := by
  rw [opens, bind_eq_ok]
  constructor
  · rintro ⟨found, hfound, h⟩
    obtain ⟨hverify, h⟩ := seq_eq_ok.mp h
    cases h
    exact ⟨named_eq_ok.mp hfound, verifyPrivateFile_eq_ok.mp hverify⟩
  · rintro ⟨hstage, hverify⟩
    exact ⟨handle, named_eq_ok.mpr hstage, seq_eq_ok.mpr ⟨verifyPrivateFile_eq_ok.mpr hverify, rfl⟩⟩

/-- What `openObject` comes to. -/
def opensObject (d : Disk) (digest : String) (maxLinks : ℕ) : Except NativeTransferError ℕ := do
  let handle ← named (d.object digest) .privateStoreUnavailable
  verifyPrivateFile d handle maxLinks
  pure handle

theorem finish_openObject (d : Disk) (digest : String) (maxLinks : ℕ) :
    (openObject digest maxLinks).finish (Step.run umask) d = (opensObject d digest maxLinks, d) :=
  finish_look_bind rfl fun _ _ => finish_look_bind rfl fun _ _ => rfl

/-- What `loadStage` comes to. -/
def loads (sha256 : Sha256) (blake3 : Blake3) (d : Disk) (operationId : Uuid)
    (expectedSha256 : String) (expectedByteLen maxBytes : ℕ) :
    Except NativeTransferError TransferStageRef := do
  reject (operationId.isNil = true ∨ maxBytes < expectedByteLen) .invalidRequest
  let file ← opens d operationId 2
  let snapshot ← fileSnapshot sha256 blake3 d file maxBytes
  reject (snapshot.sha256 ≠ expectedSha256 ∨ snapshot.revision.byteLen ≠ expectedByteLen)
    .digestMismatch
  pure ⟨operationId, snapshot⟩

theorem finish_loadStage (d : Disk) (operationId : Uuid) (expectedSha256 : String)
    (expectedByteLen maxBytes : ℕ) :
    (loadStage sha256 blake3 operationId expectedSha256 expectedByteLen maxBytes).finish
      (Step.run umask) d =
      (loads sha256 blake3 d operationId expectedSha256 expectedByteLen maxBytes, d) :=
  finish_look_bind rfl fun _ _ => finish_look_bind (finish_openStage d operationId 2) fun _ _ =>
    finish_look_bind rfl fun _ _ => finish_look_bind rfl fun _ _ => rfl

theorem request_eq_ok : reject (operationId.isNil = true ∨ maxBytes < expectedByteLen)
    NativeTransferError.invalidRequest = .ok () ↔
      operationId.isNil = false ∧ expectedByteLen ≤ maxBytes := by
  rw [reject_eq_ok, not_or, Bool.not_eq_true, Nat.not_lt]

/-- The stage of the operation is private and this file, which has at most two names. -/
theorem opens_two (hd : d.Sound sha256) (hstage : d.HasStage operationId handle node)
    (hprivate : node.isPrivate = true) : opens d operationId 2 = .ok handle := by
  refine opens_eq_ok.mpr ⟨hstage.stage, ⟨node, hstage.node, hprivate⟩, ?_⟩
  by_cases hlinked : d.Linked handle
  · obtain ⟨digest, hobject⟩ := hlinked
    rw [hd.links_of_linked hstage.stage hobject]
    omega
  · rw [hd.links_of_unlinked hstage.stage hlinked]
    omega

theorem loads_of_exact (hd : d.Sound sha256) (hid : operationId.isNil = false)
    (hstage : d.HasStage operationId handle node) (hprivate : node.isPrivate = true)
    (hmax : node.bytes.length ≤ maxBytes) :
    loads sha256 blake3 d operationId (hexSha256 sha256 node.bytes) node.bytes.length maxBytes =
      .ok ⟨operationId, .of sha256 blake3 node.bytes⟩ := by
  have hexact : ¬ ((ContentSnapshot.of sha256 blake3 node.bytes).sha256 ≠
      hexSha256 sha256 node.bytes ∨
      (ContentSnapshot.of sha256 blake3 node.bytes).revision.byteLen ≠ node.bytes.length) := by
    rw [not_or, not_not, not_not]
    exact ⟨rfl, rfl⟩
  rw [loads, request_eq_ok.mpr ⟨hid, hmax⟩, ok_bind, opens_two hd hstage hprivate, ok_bind,
    fileSnapshot_eq_ok.mpr ⟨node, hstage.node, hmax, rfl⟩, ok_bind, reject_eq_ok.mpr hexact,
    ok_bind]
  rfl

/-- It has one, where it is no object. -/
theorem Disk.Sound.verify_stage (hd : d.Sound sha256) (hstage : d.HasStage operationId handle node)
    (hprivate : node.isPrivate = true) (hunlinked : ¬ d.Linked handle) :
    verifyPrivateFile d handle 1 = .ok () := by
  have hlinks := hd.links_of_unlinked hstage.stage hunlinked
  exact verifyPrivateFile_eq_ok.mpr ⟨⟨node, hstage.node, hprivate⟩, hlinks.ge, hlinks.le⟩

/-- A stage that is loaded is the evidence. -/
theorem of_loads {stage : TransferStageRef}
    (h : loads sha256 blake3 d operationId expectedSha256 expectedByteLen maxBytes = .ok stage) :
    operationId.isNil = false ∧ expectedByteLen ≤ maxBytes ∧
    ∃ handle node, d.HasStage operationId handle node ∧ node.isPrivate = true ∧
      hexSha256 sha256 node.bytes = expectedSha256 ∧ node.bytes.length = expectedByteLen ∧
      stage = ⟨operationId, .of sha256 blake3 node.bytes⟩ := by
  obtain ⟨hrequest, h⟩ := seq_eq_ok.mp h
  obtain ⟨hid, hmax⟩ := request_eq_ok.mp hrequest
  obtain ⟨file, hfile, h⟩ := bind_eq_ok.mp h
  obtain ⟨snapshot, hsnapshot, h⟩ := bind_eq_ok.mp h
  obtain ⟨hexact, h⟩ := seq_eq_ok.mp h
  cases h
  obtain ⟨hstage, ⟨node, hnode, hprivate⟩, -⟩ := opens_eq_ok.mp hfile
  obtain ⟨found, hfound, -, rfl⟩ := fileSnapshot_eq_ok.mp hsnapshot
  cases Option.some.inj (hfound.symm.trans hnode)
  rw [reject_eq_ok, not_or, not_not, not_not] at hexact
  exact ⟨hid, hmax, file, _, ⟨hstage, hfound⟩, hprivate, hexact.1, hexact.2, rfl⟩

/-! ## A new stage -/

theorem finish_call_bind {st : Step} {orElse : IoKind → NativeTransferError} {k : Unit → Proc α}
    (h : st.run umask d = (.ok (), t)) :
    (call st orElse >>= k).finish (Step.run umask) d = (k ()).finish (Step.run umask) t := by
  refine finish_bind_ok ?_
  show (((st.run umask d).1.mapError orElse, (st.run umask d).2)) = _
  rw [h]
  rfl

/-- The operation has a new stage, and all else is as it was. -/
structure Disk.Stages (sha256 : Sha256) (d : Disk) (operationId : Uuid) (handle : ℕ)
    (bytes : List UInt8) (t : Disk) : Prop where
  sound : t.Sound sha256
  stage : t.HasStage operationId handle ⟨0o600, bytes⟩
  unlinked : ¬ t.Linked handle
  others : ∀ other, other ≠ operationId → t.stage other = d.stage other
  objects : ∀ {digest handle node}, t.HasObject digest handle node ↔ d.HasObject digest handle node

theorem private_0600 (bytes : List UInt8) : (FileNode.mk 0o600 bytes).isPrivate = true := by
  have hmode : Snapshots.isPrivateFileMode 0o600 = true := by decide
  exact hmode

theorem Disk.Stages.verify {bytes : List UInt8} (h : d.Stages sha256 operationId handle bytes t) :
    verifyPrivateFile t handle 1 = .ok () :=
  h.sound.verify_stage h.stage (private_0600 bytes) h.unlinked

/-- What is there of an object stays where no object is written to. -/
theorem hasObject_modify (hunlinked : ¬ d.Linked handle) (f : FileNode → FileNode)
    {other : ℕ} : (d.modify handle f).HasObject digest other node ↔
      d.HasObject digest other node := by
  constructor
  · rintro ⟨hobject, hnode⟩
    refine ⟨hobject, ?_⟩
    rw [← hnode, Disk.nodes_modify_of_ne]
    rintro rfl
    exact hunlinked ⟨digest, hobject⟩
  · rintro ⟨hobject, hnode⟩
    refine ⟨hobject, ?_⟩
    rw [← hnode, Disk.nodes_modify_of_ne]
    rintro rfl
    exact hunlinked ⟨digest, hobject⟩

theorem Disk.Stages.write {bytes : List UInt8} (h : d.Stages sha256 operationId handle bytes t)
    (byte : UInt8) : d.Stages sha256 operationId handle (bytes ++ [byte])
      ((Step.write handle byte).run umask t).2 where
  sound := (since_modify h.sound h.unlinked _).sound h.sound
  stage := by
    refine ⟨h.stage.stage, ?_⟩
    rw [Step.run, Disk.nodes_modify_self, h.stage.node]
    rfl
  unlinked := h.unlinked
  others := h.others
  objects := (hasObject_modify h.unlinked _).trans h.objects

theorem finish_writeBytes {written : List UInt8} (bytes : List UInt8)
    (h : d.Stages sha256 operationId handle written t) :
    ∃ u, d.Stages sha256 operationId handle (written ++ bytes) u ∧
      (writeBytes handle bytes).finish (Step.run umask) t = (.ok (), u) := by
  induction bytes generalizing written t with
  | nil => exact ⟨t, by rwa [List.append_nil], rfl⟩
  | cons byte rest ih =>
      have hwrite : d.Stages sha256 operationId handle (written ++ [byte])
          ((Step.write handle byte).run umask t).2 := h.write byte
      obtain ⟨u, hu, hfinish⟩ := ih hwrite
      rw [List.append_assoc, List.singleton_append] at hu
      exact ⟨u, hu, (finish_call_bind rfl).trans hfinish⟩

theorem finish_writeAll {written : List UInt8} {writer : TransferStageWriter}
    (buffers : List (List UInt8)) (h : d.Stages sha256 operationId writer.handle written t)
    (hmax : writer.written + buffers.flatten.length ≤ writer.maxBytes) :
    ∃ u, d.Stages sha256 operationId writer.handle (written ++ buffers.flatten) u ∧
      (writer.writeAll buffers).finish (Step.run umask) t =
        (.ok { writer with written := writer.written + buffers.flatten.length }, u) := by
  induction buffers generalizing writer written t with
  | nil => exact ⟨t, by simpa using h, rfl⟩
  | cons buffer rest ih =>
      rw [List.flatten_cons, List.length_append] at hmax
      obtain ⟨u, hu, hbuffer⟩ : ∃ u, d.Stages sha256 operationId writer.handle
          (written ++ buffer) u ∧
          (writeBytes writer.handle buffer).finish (Step.run umask) t = (.ok (), u) :=
        finish_writeBytes buffer h
      obtain ⟨v, hv, hrest⟩ := @ih u (written ++ buffer)
        { writer with written := writer.written + buffer.length } hu (by dsimp only; omega)
      rw [List.append_assoc, ← List.flatten_cons] at hv
      have hlimit : ¬ writer.maxBytes < writer.written + buffer.length := by omega
      refine ⟨v, hv, ?_⟩
      rw [List.flatten_cons, List.length_append, ← Nat.add_assoc]
      exact (finish_lift_bind (reject_eq_ok.mpr hlimit)).trans
        ((finish_bind_ok hbuffer).trans hrest)

theorem finish_beginStage (hd : d.Sound sha256) (hid : operationId.isNil = false)
    (hnone : d.stage operationId = none) (maxBytes : ℕ) :
    ∃ u, d.Stages sha256 operationId d.nodes.length [] u ∧
      (beginStage operationId maxBytes).finish (Step.run umask) d =
        (.ok ⟨d.nodes.length, operationId, 0, maxBytes⟩, u) := by
  have hcreate : (Step.createStage operationId).run umask d =
      (.ok (), d.withStage operationId (Snapshots.fileMode umask)) := by
    rw [Step.run, hnone]
    rfl
  have hsince := since_withStage hd operationId (Snapshots.fileMode umask)
  have hstage : (d.withStage operationId (Snapshots.fileMode umask)).stage operationId =
      some d.nodes.length := by rw [Disk.stage_withStage, if_pos rfl]
  have hunlinked : ¬ (d.withStage operationId (Snapshots.fileMode umask)).Linked
      d.nodes.length := by
    rintro ⟨digest, hobject⟩
    exact absurd (hd.object_lt hobject) (Nat.lt_irrefl _)
  have hstages : d.Stages sha256 operationId d.nodes.length []
      ((d.withStage operationId (Snapshots.fileMode umask)).modify d.nodes.length
        fun node => { node with mode := 0o600 }) := by
    refine ⟨(since_modify (hsince.sound hd) hunlinked _).sound (hsince.sound hd), ⟨hstage, ?_⟩,
      hunlinked, fun other hother => ?_, (hasObject_modify hunlinked _).trans ⟨?_, ?_⟩⟩
    · rw [Disk.nodes_modify_self, Disk.nodes_withStage_self]
      rfl
    · rw [Disk.stage_modify, Disk.stage_withStage, if_neg (Ne.symm hother)]
    · rintro ⟨hobject, hnode⟩
      refine ⟨hobject, ?_⟩
      rw [← hnode, Disk.nodes_withStage_of_lt _ _ _ (hd.object_lt hobject)]
    · exact hsince.objects
  refine ⟨_, hstages, ?_⟩
  have hrequest : ¬ operationId.isNil = true := by
    rw [hid]
    exact Bool.false_ne_true
  refine (finish_lift_bind (reject_eq_ok.mpr hrequest)).trans ((finish_call_bind hcreate).trans ?_)
  refine (finish_ask_bind (a := d.nodes.length) ?_).trans ?_
  · exact named_eq_ok.mpr hstage
  refine (finish_call_bind rfl).trans ((finish_ask_bind (a := ()) ?_).trans ?_)
  · exact hstages.verify
  exact (finish_call_bind rfl).trans (finish_call_bind rfl)

theorem finish_finishStage {bytes : List UInt8} (hid : operationId.isNil = false)
    (h : d.Stages sha256 operationId handle bytes t) (hmax : bytes.length ≤ maxBytes) :
    (finishStage sha256 blake3 ⟨handle, operationId, bytes.length, maxBytes⟩
      (hexSha256 sha256 bytes) bytes.length maxBytes).finish (Step.run umask) t =
      (.ok ⟨operationId, .of sha256 blake3 bytes⟩, t) := by
  have hwritten : ¬ (bytes.length ≠ bytes.length ∨ maxBytes < bytes.length) := by simpa using hmax
  have hload : loads sha256 blake3 t operationId (hexSha256 sha256 bytes) bytes.length maxBytes =
      .ok ⟨operationId, .of sha256 blake3 bytes⟩ :=
    loads_of_exact h.sound hid h.stage (private_0600 bytes) hmax
  refine (finish_lift_bind (reject_eq_ok.mpr hwritten)).trans ((finish_call_bind rfl).trans ?_)
  refine (finish_ask_bind (a := ()) ?_).trans ?_
  · exact h.verify
  refine (finish_call_bind rfl).trans ?_
  exact (finish_loadStage t operationId _ _ maxBytes).trans (Prod.ext hload rfl)

/-! ## Publication -/

theorem Disk.Sound.verify_object (hd : d.Sound sha256) (hobject : d.HasObject digest handle node) :
    verifyPrivateFile d handle 2 = .ok () := by
  obtain ⟨found, hfound, hprivate, -⟩ := hd.object _ _ hobject.object
  refine verifyPrivateFile_eq_ok.mpr ⟨⟨found, hfound, hprivate⟩, ?_⟩
  by_cases hstaged : d.Staged handle
  · obtain ⟨other, hother⟩ := hstaged
    rw [hd.links_of_linked hother hobject.object]
    omega
  · rw [hd.links_of_unstaged hobject.object hstaged]
    omega

/-- A stage that is an object is the one of its digest. -/
theorem Disk.Sound.object_of_linked (hd : d.Sound sha256)
    (hstage : d.HasStage operationId handle node) (hlinked : d.Linked handle) :
    d.object (hexSha256 sha256 node.bytes) = some handle := by
  obtain ⟨digest, hobject⟩ := hlinked
  obtain ⟨found, hfound, -, rfl⟩ := hd.object _ _ hobject
  cases Option.some.inj (hfound.symm.trans hstage.node)
  exact hobject

/-- Without its stage an object that is no other one's is no stage. -/
theorem not_staged_withoutStage {object : ℕ}
    (honly : ∀ other, d.stage other = some object → other = operationId) :
    ¬ (d.withoutStage operationId).Staged object := by
  rintro ⟨other, hother⟩
  rw [Disk.stage_withoutStage] at hother
  split at hother
  · cases hother
  · rename_i hne
    exact hne (honly other hother).symm

/-- What is there under the name of the digest holds the same, and is no other operation's
stage. -/
def ObjectFits (sha256 : Sha256) (blake3 : Blake3) (d : Disk) (operationId : Uuid)
    (bytes : List UInt8) : Prop :=
  ∀ object found, d.HasObject (hexSha256 sha256 bytes) object found →
    ContentSnapshot.of sha256 blake3 found.bytes = .of sha256 blake3 bytes ∧
      ∀ other, d.stage other = some object → other = operationId

theorem publishBase_eq (sha256 : Sha256) (blake3 : Blake3) (stage : TransferStageRef)
    (maxBytes turns : ℕ) : ∃ again, publishBase sha256 blake3 stage maxBytes turns =
      publishBaseOr sha256 blake3 stage maxBytes again := by
  cases turns with
  | zero => exact ⟨_, rfl⟩
  | succ turns => exact ⟨_, rfl⟩

section Publish

variable {object : ℕ} {found : FileNode} (hd : d.Sound sha256)
  (hstage : d.HasStage operationId handle node) (hprivate : node.isPrivate = true)
  (hmax : node.bytes.length ≤ maxBytes)
include hd hstage hprivate hmax

theorem finish_openVerifiedStage (hid : operationId.isNil = false) :
    (openVerifiedStage sha256 blake3 ⟨operationId, .of sha256 blake3 node.bytes⟩ maxBytes).finish
      (Step.run umask) d = (.ok handle, d) := by
  have hload : loads sha256 blake3 d operationId (hexSha256 sha256 node.bytes)
      node.bytes.length maxBytes = .ok ⟨operationId, .of sha256 blake3 node.bytes⟩ :=
    loads_of_exact hd hid hstage hprivate hmax
  refine (finish_bind_ok ((finish_loadStage d _ _ _ _).trans (Prod.ext hload rfl))).trans ?_
  refine (finish_lift_bind (reject_eq_ok.mpr (not_not.mpr rfl))).trans ?_
  exact (finish_openStage d _ 2).trans (Prod.ext (opens_two hd hstage hprivate) rfl)

/-- The stage is removed, and what follows goes by the names that the object has left. -/
theorem finish_removePublishedStage
    (hobject : d.HasObject (hexSha256 sha256 node.bytes) object found)
    (hsame : ContentSnapshot.of sha256 blake3 found.bytes = .of sha256 blake3 node.bytes) :
    ((∀ other, d.stage other = some object → other = operationId) →
      (removePublishedStage sha256 blake3 ⟨operationId, .of sha256 blake3 node.bytes⟩ maxBytes
        handle object).finish (Step.run umask) d =
        (.ok ⟨hexSha256 sha256 node.bytes, node.bytes.length⟩, d.withoutStage operationId)) ∧
    ((∃ other, other ≠ operationId ∧ d.stage other = some object) →
      (removePublishedStage sha256 blake3 ⟨operationId, .of sha256 blake3 node.bytes⟩ maxBytes
        handle object).finish (Step.run umask) d =
        (.error .privateStoreUnavailable, d.withoutStage operationId)) := by
  have hlength : found.bytes.length = node.bytes.length :=
    congrArg (fun snapshot => snapshot.revision.byteLen) hsame
  have hverify : verifyFileSnapshot sha256 blake3 d object (.of sha256 blake3 node.bytes)
      maxBytes = .ok () :=
    verifyFileSnapshot_eq_ok.mpr ⟨found, hobject.node, hlength.trans_le hmax, hsame.symm⟩
  have hremove : (Step.removeStage operationId).run umask d =
      (.ok (), d.withoutStage operationId) := by
    rw [Step.run, hstage.stage]
    rfl
  have hsound := (since_withoutStage hd operationId).sound hd
  have hstart : (removePublishedStage sha256 blake3 ⟨operationId, .of sha256 blake3 node.bytes⟩
      maxBytes handle object).finish (Step.run umask) d =
      (openObject (hexSha256 sha256 node.bytes) 1 >>= fun object =>
        (ask fun d => verifyFileSnapshot sha256 blake3 d object (.of sha256 blake3 node.bytes)
          maxBytes) >>= fun _ => pure (TransferBaseRef.mk (hexSha256 sha256 node.bytes)
            node.bytes.length) : Proc TransferBaseRef).finish (Step.run umask)
        (d.withoutStage operationId) := by
    refine (finish_ask_bind (a := ()) ?_).trans ?_
    · exact hverify
    refine (finish_bind_ok ((finish_openStage d _ 2).trans
      (Prod.ext (opens_two hd hstage hprivate) rfl))).trans ?_
    refine (finish_lift_bind (reject_eq_ok.mpr (not_not.mpr rfl))).trans ?_
    exact (finish_call_bind hremove).trans (finish_call_bind rfl)
  constructor
  · intro honly
    obtain ⟨file, hfile, hfound, -⟩ := hsound.object _ _ hobject.object
    have hopen : opensObject (d.withoutStage operationId) (hexSha256 sha256 node.bytes) 1 =
        .ok object := by
      have hlinks := hsound.links_of_unstaged hobject.object (not_staged_withoutStage honly)
      have hnamed : named ((d.withoutStage operationId).object (hexSha256 sha256 node.bytes))
          .privateStoreUnavailable = .ok object := named_eq_ok.mpr hobject.object
      have hverify := verifyPrivateFile_eq_ok.mpr ⟨⟨file, hfile, hfound⟩, hlinks.ge, hlinks.le⟩
      rw [opensObject, hnamed, ok_bind, hverify, ok_bind]
      rfl
    refine hstart.trans ?_
    refine (finish_bind_ok ((finish_openObject _ _ 1).trans (Prod.ext hopen rfl))).trans ?_
    refine (finish_ask_bind (a := ()) ?_).trans rfl
    exact hverify
  · rintro ⟨other, hne, hother⟩
    have hstaged : (d.withoutStage operationId).stage other = some object := by
      rw [Disk.stage_withoutStage, if_neg (Ne.symm hne), hother]
    have hlinks : (d.withoutStage operationId).links object = 2 :=
      hsound.links_of_linked hstaged hobject.object
    obtain ⟨file, hfile, hfound, -⟩ := hsound.object _ _ hobject.object
    have hopen : opensObject (d.withoutStage operationId) (hexSha256 sha256 node.bytes) 1 =
        .error .privateStoreUnavailable := by
      have hnamed : named ((d.withoutStage operationId).object (hexSha256 sha256 node.bytes))
          .privateStoreUnavailable = .ok object := named_eq_ok.mpr hobject.object
      have hverify : verifyPrivateFile (d.withoutStage operationId) object 1 =
          .error .privateStoreUnavailable := by
        rw [verifyPrivateFile, held_eq_ok.mpr hfile, ok_bind, hlinks, hfound]
        rfl
      rw [opensObject, hnamed, ok_bind, hverify]
      rfl
    refine hstart.trans ?_
    exact finish_bind_error ((finish_openObject _ _ 1).trans (Prod.ext hopen rfl))

/-- A stage that is not published yet gets the name of its digest. -/
theorem finish_publishBaseOr_of_free (hid : operationId.isNil = false)
    (hfree : d.object (hexSha256 sha256 node.bytes) = none) (again : Proc TransferBaseRef) :
    (publishBaseOr sha256 blake3 ⟨operationId, .of sha256 blake3 node.bytes⟩ maxBytes again).finish
      (Step.run umask) d = (.ok ⟨hexSha256 sha256 node.bytes, node.bytes.length⟩,
        (d.withObject (hexSha256 sha256 node.bytes) handle).withoutStage operationId) := by
  have hunlinked : ¬ d.Linked handle := by
    intro hlinked
    exact absurd (hfree.symm.trans (hd.object_of_linked hstage hlinked)) (by simp)
  have hlink : (Step.hardLink operationId (hexSha256 sha256 node.bytes)).run umask d =
      (.ok (), d.withObject (hexSha256 sha256 node.bytes) handle) := by
    rw [Step.run, hstage.stage]
    dsimp only
    rw [hfree]
    rfl
  have hsound := (since_withObject hd hstage.node hunlinked hprivate rfl hfree).sound hd
  have hobject : (d.withObject (hexSha256 sha256 node.bytes) handle).HasObject
      (hexSha256 sha256 node.bytes) handle node :=
    ⟨by rw [Disk.object_withObject, if_pos rfl], hstage.node⟩
  have hopen : opensObject (d.withObject (hexSha256 sha256 node.bytes) handle)
      (hexSha256 sha256 node.bytes) 2 = .ok handle := by
    rw [opensObject, named_eq_ok.mpr hobject.object, ok_bind, hsound.verify_object hobject, ok_bind]
    rfl
  refine (finish_bind_ok (finish_openVerifiedStage hd hstage hprivate hmax hid)).trans ?_
  refine (finish_ask_bind (a := none) ?_).trans ?_
  · exact congrArg Except.ok hfree
  refine (finish_ask_bind (a := ()) ?_).trans ?_
  · exact hd.verify_stage hstage hprivate hunlinked
  refine (finish_perform_bind hlink).trans ((finish_call_bind rfl).trans ?_)
  refine (finish_bind_ok ((finish_openObject _ _ 2).trans (Prod.ext hopen rfl))).trans ?_
  refine (finish_lift_bind (reject_eq_ok.mpr (not_not.mpr rfl))).trans ?_
  refine (finish_removePublishedStage hsound ⟨hstage.stage, hstage.node⟩ hprivate hmax hobject
    rfl).1 fun other hother => ?_
  exact hd.stage_unique _ _ _ hother hstage.stage

/-- Where there is an object already, the stage has to agree with it. -/
theorem finish_publishBaseOr_of_object (hid : operationId.isNil = false)
    (hobject : d.HasObject (hexSha256 sha256 node.bytes) object found)
    (again : Proc TransferBaseRef) :
    (publishBaseOr sha256 blake3 ⟨operationId, .of sha256 blake3 node.bytes⟩ maxBytes again).finish
      (Step.run umask) d =
    (removePublishedStage sha256 blake3 ⟨operationId, .of sha256 blake3 node.bytes⟩ maxBytes
      handle object).finish (Step.run umask) d := by
  have hlinks : ¬ (1 < d.links handle ∧ handle ≠ object) := by
    rintro ⟨hlinks, hne⟩
    have hlinked : d.Linked handle := by
      by_contra hunlinked
      rw [hd.links_of_unlinked hstage.stage hunlinked] at hlinks
      omega
    exact hne (Option.some.inj ((hd.object_of_linked hstage hlinked).symm.trans hobject.object))
  refine (finish_bind_ok (finish_openVerifiedStage hd hstage hprivate hmax hid)).trans ?_
  refine (finish_ask_bind (a := some object) ?_).trans ?_
  · exact congrArg Except.ok hobject.object
  refine (finish_ask_bind (a := ()) ?_).trans ?_
  · exact hd.verify_object hobject
  refine (finish_ask_bind (a := d.links handle) ?_).trans ?_
  · rfl
  · exact finish_lift_bind (reject_eq_ok.mpr hlinks)

/-- **When a stage is published**: where its bytes are no object yet, or the object holds the
same and is not the stage of another operation. -/
theorem finish_publishBase (hid : operationId.isNil = false) (turns : ℕ) :
    (ObjectFits sha256 blake3 d operationId node.bytes → ∃ u,
      (publishBase sha256 blake3 ⟨operationId, .of sha256 blake3 node.bytes⟩ maxBytes turns).finish
        (Step.run umask) d = (.ok ⟨hexSha256 sha256 node.bytes, node.bytes.length⟩, u) ∧
      ∃ object, u.object (hexSha256 sha256 node.bytes) = some object ∧ ¬ u.Staged object) ∧
    ((∃ base u, (publishBase sha256 blake3 ⟨operationId, .of sha256 blake3 node.bytes⟩ maxBytes
      turns).finish (Step.run umask) d = (.ok base, u)) →
        ObjectFits sha256 blake3 d operationId node.bytes) := by
  obtain ⟨again, hturns⟩ := publishBase_eq sha256 blake3
    ⟨operationId, .of sha256 blake3 node.bytes⟩ maxBytes turns
  rw [hturns]
  cases hfound : d.object (hexSha256 sha256 node.bytes) with
  | none =>
      refine ⟨fun _ => ⟨_, finish_publishBaseOr_of_free hd hstage hprivate hmax hid hfound again,
        handle, ?_, ?_⟩, fun _ object found hobject => ?_⟩
      · rw [Disk.object_withoutStage, Disk.object_withObject, if_pos rfl]
      · exact not_staged_withoutStage fun other hother =>
          hd.stage_unique _ _ _ hother hstage.stage
      · exact absurd (hfound.symm.trans hobject.object) (by simp)
  | some object =>
      obtain ⟨found, hnode, -⟩ := hd.object _ _ hfound
      have hobject : d.HasObject (hexSha256 sha256 node.bytes) object found := ⟨hfound, hnode⟩
      rw [finish_publishBaseOr_of_object hd hstage hprivate hmax hid hobject again]
      constructor
      · intro hfits
        obtain ⟨hsame, honly⟩ := hfits object found hobject
        refine ⟨_, (finish_removePublishedStage hd hstage hprivate hmax hobject hsame).1 honly,
          object, hfound, not_staged_withoutStage honly⟩
      · rintro ⟨base, u, hpublished⟩ object' found' hobject'
        cases Option.some.inj (hobject'.object.symm.trans hfound)
        cases Option.some.inj (hobject'.node.symm.trans hnode)
        obtain ⟨_, _, hverify, -⟩ := of_finish_bind hpublished
        obtain ⟨file, hfile, -, hsame⟩ := verifyFileSnapshot_eq_ok.mp (congrArg Prod.fst hverify)
        cases Option.some.inj (hfile.symm.trans hnode)
        refine ⟨hsame.symm, fun other hother => ?_⟩
        by_contra hne
        have hblocked : (removePublishedStage sha256 blake3
            ⟨operationId, .of sha256 blake3 node.bytes⟩ maxBytes handle object).finish
            (Step.run umask) d =
            (.error .privateStoreUnavailable, d.withoutStage operationId) :=
          (finish_removePublishedStage hd hstage hprivate hmax hobject hsame.symm).2
            ⟨other, hne, hother⟩
        rw [hblocked] at hpublished
        cases hpublished

end Publish

/-- What a stage has to be for its base to be published. -/
def Publishable (sha256 : Sha256) (blake3 : Blake3) (d : Disk) (stage : TransferStageRef)
    (maxBytes : ℕ) : Prop :=
  stage.operationId.isNil = false ∧ ∃ handle node, d.HasStage stage.operationId handle node ∧
    node.isPrivate = true ∧ node.bytes.length ≤ maxBytes ∧
    stage.snapshot = .of sha256 blake3 node.bytes ∧
    ObjectFits sha256 blake3 d stage.operationId node.bytes

theorem finish_publishBase_iff (hd : d.Sound sha256) (stage : TransferStageRef)
    (maxBytes turns : ℕ) :
    (∃ base u, (publishBase sha256 blake3 stage maxBytes turns).finish (Step.run umask) d =
      (.ok base, u)) ↔ Publishable sha256 blake3 d stage maxBytes := by
  constructor
  · rintro ⟨base, u, h⟩
    obtain ⟨again, hturns⟩ := publishBase_eq sha256 blake3 stage maxBytes turns
    have hopen := h
    rw [hturns] at hopen
    obtain ⟨_, _, hopen, -⟩ := of_finish_bind hopen
    obtain ⟨verified, hload, hopen⟩ := of_finish_look_bind (finish_loadStage d _ _ _ _) hopen
    obtain ⟨_, hsame, -⟩ := of_finish_look_bind rfl hopen
    rw [reject_eq_ok, not_not] at hsame
    subst hsame
    obtain ⟨hid, hmax, handle, node, hstage, hprivate, -, hlength, heq⟩ := of_loads hload
    have hsnapshot : verified.snapshot = .of sha256 blake3 node.bytes := by rw [heq]
    refine ⟨hid, handle, node, hstage, hprivate, hlength.trans_le hmax, hsnapshot, ?_⟩
    rw [heq] at h
    exact (finish_publishBase hd hstage hprivate (hlength.trans_le hmax) hid turns).2 ⟨base, u, h⟩
  · rintro ⟨hid, handle, node, hstage, hprivate, hmax, hsnapshot, hfits⟩
    have heq : stage = ⟨stage.operationId, .of sha256 blake3 node.bytes⟩ := by rw [← hsnapshot]
    rw [heq]
    obtain ⟨u, hu, -⟩ := (finish_publishBase hd hstage hprivate hmax hid turns).1 hfits
    exact ⟨_, u, hu⟩

/-! ## The stage of a download -/

/-- What there is of the stage is the evidence, or less than it and no object. -/
def StageFits (sha256 : Sha256) (d : Disk) (operationId : Uuid) (expectedSha256 : String)
    (expectedByteLen : ℕ) : Prop :=
  ∀ handle node, d.HasStage operationId handle node → node.isPrivate = true ∧
    (hexSha256 sha256 node.bytes = expectedSha256 ∧ node.bytes.length = expectedByteLen ∨
      node.bytes.length < expectedByteLen ∧ ¬ d.Linked handle)

/-- There is no stage, or one that cannot be read, or one that can and is not the evidence. -/
theorem loads_of_none (hid : operationId.isNil = false) (hlen : expectedByteLen ≤ maxBytes)
    (hnone : d.stage operationId = none) :
    loads sha256 blake3 d operationId expectedSha256 expectedByteLen maxBytes =
      .error .stageUnavailable := by
  rw [loads, request_eq_ok.mpr ⟨hid, hlen⟩, ok_bind, opens, hnone]
  rfl

theorem loads_of_other (hd : d.Sound sha256) (hid : operationId.isNil = false)
    (hlen : expectedByteLen ≤ maxBytes) (hstage : d.HasStage operationId handle node)
    (hprivate : node.isPrivate = true) (hmax : node.bytes.length ≤ maxBytes)
    (hother : ¬ (hexSha256 sha256 node.bytes = expectedSha256 ∧
      node.bytes.length = expectedByteLen)) :
    loads sha256 blake3 d operationId expectedSha256 expectedByteLen maxBytes =
      .error .digestMismatch := by
  have hmismatch : (ContentSnapshot.of sha256 blake3 node.bytes).sha256 ≠ expectedSha256 ∨
      (ContentSnapshot.of sha256 blake3 node.bytes).revision.byteLen ≠ expectedByteLen :=
    not_and_or.mp hother
  rw [loads, request_eq_ok.mpr ⟨hid, hlen⟩, ok_bind, opens_two hd hstage hprivate, ok_bind,
    fileSnapshot_eq_ok.mpr ⟨node, hstage.node, hmax, rfl⟩, ok_bind, reject, if_pos hmismatch]
  rfl

/-- A stage that cannot be read holds up its operation. -/
theorem loads_of_unreadable (hid : operationId.isNil = false) (hlen : expectedByteLen ≤ maxBytes)
    (hstage : d.HasStage operationId handle node)
    (hunreadable : node.isPrivate = false ∨ opens d operationId 2 = .ok handle ∧
      maxBytes < node.bytes.length) :
    ∃ e, loads sha256 blake3 d operationId expectedSha256 expectedByteLen maxBytes = .error e ∧
      e ≠ .stageUnavailable ∧ e ≠ .digestMismatch := by
  rw [loads, request_eq_ok.mpr ⟨hid, hlen⟩, ok_bind]
  rcases hunreadable with hprivate | ⟨hopens, hlong⟩
  · refine ⟨.privateStoreUnavailable, ?_, by decide, by decide⟩
    rw [opens, named_eq_ok.mpr hstage.stage, ok_bind, verifyPrivateFile,
      held_eq_ok.mpr hstage.node, ok_bind, hprivate]
    rfl
  · refine ⟨.resourceLimit, ?_, by decide, by decide⟩
    rw [hopens, ok_bind, fileSnapshot, held_eq_ok.mpr hstage.node, ok_bind, reject, if_pos hlong]
    rfl

/-- A stage that is too short is discarded. -/
theorem finish_discardIncompleteStage (hd : d.Sound sha256) (hid : operationId.isNil = false)
    (hlen : expectedByteLen ≤ maxBytes) (hstage : d.HasStage operationId handle node)
    (hprivate : node.isPrivate = true) (hshort : node.bytes.length < expectedByteLen)
    (hunlinked : ¬ d.Linked handle) :
    (discardIncompleteStage sha256 blake3 operationId expectedSha256 expectedByteLen
      maxBytes).finish (Step.run umask) d = (.ok (), d.withoutStage operationId) := by
  have hverify := hd.verify_stage hstage hprivate hunlinked
  have hopen : (openStage operationId 1).finish (Step.run umask) d = (.ok handle, d) :=
    (finish_openStage d _ 1).trans (Prod.ext (opens_eq_ok.mpr
      ⟨hstage.stage, verifyPrivateFile_eq_ok.mp hverify⟩) rfl)
  have hremove : (Step.removeStage operationId).run umask d =
      (.ok (), d.withoutStage operationId) := by
    rw [Step.run, hstage.stage]
    rfl
  have hlength : (ContentSnapshot.of sha256 blake3 node.bytes).revision.byteLen =
      node.bytes.length := rfl
  refine (finish_lift_bind (request_eq_ok.mpr ⟨hid, hlen⟩)).trans ((finish_bind_ok hopen).trans ?_)
  refine (finish_ask_bind (a := ()) ?_).trans ?_
  · exact hverify
  refine (finish_ask_bind (a := .of sha256 blake3 node.bytes) ?_).trans ?_
  · exact fileSnapshot_eq_ok.mpr ⟨node, hstage.node, by omega, rfl⟩
  refine (finish_lift_bind (reject_eq_ok.mpr ?_)).trans ?_
  · rw [hlength]
    omega
  refine (finish_lift_bind (reject_eq_ok.mpr ?_)).trans ?_
  · rw [hlength]
    omega
  refine (finish_bind_ok (a := ()) (t := d.withoutStage operationId) ?_).trans rfl
  refine (finish_bind_ok hopen).trans ((finish_ask_bind (a := ()) ?_).trans ?_)
  · exact hverify
  refine (finish_ask_bind (a := ()) ?_).trans ?_
  · exact hverify
  refine (finish_lift_bind (reject_eq_ok.mpr (not_not.mpr rfl))).trans ?_
  show ((((Step.removeStage operationId).run umask d).1.mapError _), _) = _
  rw [hremove]
  rfl

theorem of_finish_discardIncompleteStage (hd : d.Sound sha256)
    (hstage : d.HasStage operationId handle node)
    (h : (discardIncompleteStage sha256 blake3 operationId expectedSha256 expectedByteLen
      maxBytes).finish (Step.run umask) d = (.ok (), t)) :
    node.isPrivate = true ∧ node.bytes.length < expectedByteLen ∧ ¬ d.Linked handle := by
  obtain ⟨_, -, h⟩ := of_finish_look_bind rfl h
  obtain ⟨file, hfile, h⟩ := of_finish_look_bind (finish_openStage d operationId 1) h
  obtain ⟨_, -, h⟩ := of_finish_look_bind rfl h
  obtain ⟨snapshot, hsnapshot, h⟩ := of_finish_look_bind rfl h
  obtain ⟨_, -, h⟩ := of_finish_look_bind rfl h
  obtain ⟨_, hshort, -⟩ := of_finish_look_bind rfl h
  obtain ⟨hfile, ⟨_, hnode, hprivate⟩, -, hlinks⟩ := opens_eq_ok.mp hfile
  cases Option.some.inj (hfile.symm.trans hstage.stage)
  cases Option.some.inj (hnode.symm.trans hstage.node)
  obtain ⟨_, hnode, -, rfl⟩ := fileSnapshot_eq_ok.mp hsnapshot
  cases Option.some.inj (hnode.symm.trans hstage.node)
  exact ⟨hprivate, Nat.lt_of_not_le (reject_eq_ok.mp hshort), hd.not_linked hstage.stage hlinks⟩

section Download

variable {remote : RemoteSide} (hd : d.Sound sha256) (hid : operationId.isNil = false)
  (hmax : expectedByteLen ≤ maxBytes) (hfailure : remote.failure = none)
  (hdigest : hexSha256 sha256 remote.buffers.flatten = expectedSha256)
  (hlength : remote.buffers.flatten.length = expectedByteLen)
include hd hid hmax hfailure hdigest hlength

theorem finish_downloadIntoNewStage (hnone : d.stage operationId = none) :
    ∃ u, d.Stages sha256 operationId d.nodes.length remote.buffers.flatten u ∧
      (downloadIntoNewStage sha256 blake3 operationId expectedSha256 expectedByteLen maxBytes
        remote).finish (Step.run umask) d =
        (.ok (.ok ⟨operationId, .of sha256 blake3 remote.buffers.flatten⟩), u) := by
  subst hdigest hlength
  obtain ⟨t, ht, hbegin⟩ : ∃ t, d.Stages sha256 operationId d.nodes.length [] t ∧
      (beginStage operationId maxBytes).finish (Step.run umask) d =
        (.ok ⟨d.nodes.length, operationId, 0, maxBytes⟩, t) :=
    finish_beginStage hd hid hnone maxBytes
  obtain ⟨u, hu, hwrite⟩ : ∃ u, d.Stages sha256 operationId d.nodes.length
      remote.buffers.flatten u ∧
      (TransferStageWriter.writeAll ⟨d.nodes.length, operationId, 0, maxBytes⟩
        remote.buffers).finish (Step.run umask) t =
        (.ok ⟨d.nodes.length, operationId, remote.buffers.flatten.length, maxBytes⟩, u) := by
    have hwrite := @finish_writeAll sha256 umask d t operationId []
      ⟨d.nodes.length, operationId, 0, maxBytes⟩ remote.buffers ht (by simpa using hmax)
    simpa only [List.nil_append, Nat.zero_add] using hwrite
  refine ⟨u, hu, ?_⟩
  refine (finish_attempt_bind hbegin).trans ((finish_attempt_bind hwrite).trans ?_)
  dsimp only
  rw [hfailure]
  exact (finish_attempt_bind (finish_finishStage hid hu hmax)).trans rfl

/-- **When the stage of a download is made.** -/
theorem finish_downloadStage (hverified : remote.verifyDownload = .ok ()) :
    (∃ stage u, (downloadStage sha256 blake3 operationId expectedSha256 expectedByteLen maxBytes
      remote).finish (Step.run umask) d = (.ok (.ok stage), u)) ↔
      StageFits sha256 d operationId expectedSha256 expectedByteLen := by
  have hstart : ∀ x, loads sha256 blake3 d operationId expectedSha256 expectedByteLen maxBytes = x →
      (loadStage sha256 blake3 operationId expectedSha256 expectedByteLen maxBytes).finish
        (Step.run umask) d = (x, d) :=
    fun x hx => (finish_loadStage d _ _ _ _).trans (Prod.ext hx rfl)
  have hstuck : ∀ e, loads sha256 blake3 d operationId expectedSha256 expectedByteLen maxBytes =
      .error e → e ≠ .stageUnavailable → e ≠ .digestMismatch →
      ¬ ∃ stage u, (downloadStage sha256 blake3 operationId expectedSha256 expectedByteLen maxBytes
        remote).finish (Step.run umask) d = (.ok (.ok stage), u) := by
    rintro e hload hne hne' ⟨stage, u, h⟩
    have hends := (finish_attempt_bind (hstart _ hload)).symm.trans h
    split at hends
    · cases ‹Except.error e = .ok _›
    · rename_i heq
      exact hne (Except.error.inj heq)
    · rename_i heq
      exact hne' (Except.error.inj heq)
    · cases hends
  cases hfound : d.stage operationId with
  | none =>
      obtain ⟨u, -, hnew⟩ := finish_downloadIntoNewStage hd hid hmax hfailure hdigest hlength hfound
      refine iff_of_true ⟨_, u, (finish_attempt_bind (hstart _ (loads_of_none hid hmax
        hfound))).trans hnew⟩ fun handle node hstage => ?_
      exact absurd (hfound.symm.trans hstage.stage) (by simp)
  | some handle =>
      obtain ⟨node, hstage⟩ := hd.exists_node hfound
      have hfits : StageFits sha256 d operationId expectedSha256 expectedByteLen ↔
          node.isPrivate = true ∧
            (hexSha256 sha256 node.bytes = expectedSha256 ∧ node.bytes.length = expectedByteLen ∨
              node.bytes.length < expectedByteLen ∧ ¬ d.Linked handle) := by
        refine ⟨fun h => h handle node hstage, fun h other found hother => ?_⟩
        cases Option.some.inj (hother.stage.symm.trans hstage.stage)
        cases Option.some.inj (hother.node.symm.trans hstage.node)
        exact h
      rw [hfits]
      by_cases hprivate : node.isPrivate = true
      · by_cases hlong : maxBytes < node.bytes.length
        · obtain ⟨e, hload, hne, hne'⟩ : ∃ e, loads sha256 blake3 d operationId expectedSha256
              expectedByteLen maxBytes = .error e ∧ e ≠ .stageUnavailable ∧ e ≠ .digestMismatch :=
            loads_of_unreadable hid hmax hstage (.inr ⟨opens_two hd hstage hprivate, hlong⟩)
          refine iff_of_false (hstuck e hload hne hne') ?_
          rintro ⟨-, ⟨-, hlength'⟩ | ⟨hshort, -⟩⟩ <;> omega
        by_cases hexact : hexSha256 sha256 node.bytes = expectedSha256 ∧
            node.bytes.length = expectedByteLen
        · refine iff_of_true ⟨⟨operationId, .of sha256 blake3 node.bytes⟩, d, ?_⟩
            ⟨hprivate, .inl hexact⟩
          have hload := hstart (.ok ⟨operationId, .of sha256 blake3 node.bytes⟩) (by
            rw [← hexact.1, ← hexact.2]
            exact loads_of_exact hd hid hstage hprivate (Nat.le_of_not_lt hlong))
          refine (finish_attempt_bind hload).trans ?_
          rw [hverified]
          rfl
        · have hload := hstart _ (loads_of_other hd hid hmax hstage hprivate
            (Nat.le_of_not_lt hlong) hexact)
          constructor
          · rintro ⟨stage, u, h⟩
            have hends := (finish_attempt_bind hload).symm.trans h
            cases hdiscard : (discardIncompleteStage sha256 blake3 operationId expectedSha256
                expectedByteLen maxBytes).finish (Step.run umask) d with
            | mk x v =>
                cases x with
                | ok _ =>
                    obtain ⟨-, hrest⟩ := of_finish_discardIncompleteStage hd hstage hdiscard
                    exact ⟨hprivate, .inr hrest⟩
                | error e =>
                    have hstopped := (finish_attempt_bind hdiscard).symm.trans hends
                    cases hstopped
          · rintro ⟨-, hexact' | ⟨hshort, hunlinked⟩⟩
            · exact absurd hexact' hexact
            · have hnone : (d.withoutStage operationId).stage operationId = none := by
                rw [Disk.stage_withoutStage, if_pos rfl]
              obtain ⟨u, -, hnew⟩ := finish_downloadIntoNewStage
                ((since_withoutStage hd operationId).sound hd) hid hmax hfailure hdigest hlength
                hnone
              refine ⟨⟨operationId, .of sha256 blake3 remote.buffers.flatten⟩, u,
                (finish_attempt_bind hload).trans ?_⟩
              exact (finish_attempt_bind (finish_discardIncompleteStage hd hid hmax hstage hprivate
                hshort hunlinked)).trans hnew
      · obtain ⟨e, hload, hne, hne'⟩ : ∃ e, loads sha256 blake3 d operationId expectedSha256
            expectedByteLen maxBytes = .error e ∧ e ≠ .stageUnavailable ∧ e ≠ .digestMismatch :=
          loads_of_unreadable hid hmax hstage (.inl (by simpa using hprivate))
        exact iff_of_false (hstuck e hload hne hne') fun h => hprivate h.1

end Download

/-! ## After any run -/

/-- A call begins and has the next turns. -/
def alone (call : Call) (turns : ℕ) : List StoreEvent :=
  .begins call :: List.replicate turns (.turn call.operationId)

section Alone

variable {w : StoreWorld} {call : Call} {events : List StoreEvent}

theorem run_turns {p : Proc Outcome} (h : w.running operationId = some (call, p)) (turns : ℕ) :
    (Runs.run (storeStep sha256 blake3 umask) w
      (List.replicate turns (.turn operationId))).running operationId =
        some (call, (p.turns (Step.run umask) turns w.state).1) ∧
    (Runs.run (storeStep sha256 blake3 umask) w
      (List.replicate turns (.turn operationId))).state =
        (p.turns (Step.run umask) turns w.state).2 := by
  induction turns generalizing w p with
  | zero => exact ⟨h, rfl⟩
  | succ turns ih =>
      have hstep : storeStep sha256 blake3 umask w (.turn operationId) =
          { w.withProcess operationId (some (call, (p.turn (Step.run umask) w.state).1)) with
            state := (p.turn (Step.run umask) w.state).2 } := by
        rw [storeStep, StoreEvent.toEvent, Pool.step, h]
      rw [List.replicate_succ, Runs.run_cons, hstep]
      refine ih ?_
      show (w.withProcess operationId _).running operationId = _
      rw [Pool.running_withProcess, if_pos rfl]

/-- A call of an operation that has no other does what it does by itself. -/
theorem storeAfter_alone
    (hfree : (storeAfter sha256 blake3 umask events).running call.operationId = none) (turns : ℕ) :
    (storeAfter sha256 blake3 umask (events ++ alone call turns)).running call.operationId =
      some (call, ((call.process sha256 blake3).turns (Step.run umask) turns
        (storeAfter sha256 blake3 umask events).state).1) ∧
    (storeAfter sha256 blake3 umask (events ++ alone call turns)).state =
      ((call.process sha256 blake3).turns (Step.run umask) turns
        (storeAfter sha256 blake3 umask events).state).2 := by
  have hbegin : storeStep sha256 blake3 umask (storeAfter sha256 blake3 umask events)
      (.begins call) = (storeAfter sha256 blake3 umask events).withProcess call.operationId
        (some (call, call.process sha256 blake3)) := by
    rw [storeStep, StoreEvent.toEvent, Pool.step, hfree]
    rfl
  have hrunning : ((storeAfter sha256 blake3 umask events).withProcess call.operationId
      (some (call, call.process sha256 blake3))).running call.operationId =
      some (call, call.process sha256 blake3) := by
    rw [Pool.running_withProcess, if_pos rfl]
  have hrun : storeAfter sha256 blake3 umask (events ++ alone call turns) =
      Runs.run (storeStep sha256 blake3 umask)
        ((storeAfter sha256 blake3 umask events).withProcess call.operationId
          (some (call, call.process sha256 blake3)))
        (List.replicate turns (.turn call.operationId)) := by
    rw [storeAfter, Runs.run_append, alone, Runs.run_cons]
    exact congrArg (fun w => Runs.run (storeStep sha256 blake3 umask) w _) hbegin
  rw [hrun]
  exact run_turns hrunning turns

/-- And comes to the end it comes to by itself. -/
theorem done_alone_iff
    (hfree : (storeAfter sha256 blake3 umask events).running call.operationId = none)
    {x : Except NativeTransferError Outcome} :
    (∃ turns, (storeAfter sha256 blake3 umask (events ++ alone call turns)).running
      call.operationId = some (call, .done x)) ↔
    ((call.process sha256 blake3).finish (Step.run umask)
      (storeAfter sha256 blake3 umask events).state).1 = x := by
  constructor
  · rintro ⟨turns, hdone⟩
    have hend := (Prod.mk.inj (Option.some.inj
      ((storeAfter_alone hfree turns).1.symm.trans hdone))).2
    rw [Reaches.finish_of_turns hend]
  · rintro rfl
    obtain ⟨turns, hturns⟩ : Reaches (Step.run umask) (call.process sha256 blake3)
        (storeAfter sha256 blake3 umask events).state (.done _) _ := Reaches.finish _ _
    refine ⟨turns, (storeAfter_alone hfree turns).1.trans ?_⟩
    rw [hturns]

theorem result_map_iff {β : Type} {y : Except NativeTransferError α × Disk} {f : α → β} {a : α}
    (hf : ∀ a b, f a = f b → a = b) : y.1.map f = .ok (f a) ↔ ∃ u, y = (.ok a, u) := by
  obtain ⟨x, v⟩ := y
  cases x with
  | error e =>
      refine iff_of_false (fun h => by cases h) ?_
      rintro ⟨_, h⟩
      cases h
  | ok b =>
      constructor
      · intro h
        cases hf _ _ (Except.ok.inj h)
        exact ⟨v, rfl⟩
      · rintro ⟨_, h⟩
        cases h
        rfl

theorem downloaded_alone_iff {remote : RemoteSide}
    (hfree : (storeAfter sha256 blake3 umask events).running operationId = none) :
    (∃ turns stage, (storeAfter sha256 blake3 umask (events ++
      alone (.download operationId expectedSha256 expectedByteLen maxBytes remote)
        turns)).running operationId =
      some (.download operationId expectedSha256 expectedByteLen maxBytes remote,
        .done (.ok (.downloaded (.ok stage))))) ↔
    ∃ stage u, (downloadStage sha256 blake3 operationId expectedSha256 expectedByteLen maxBytes
      remote).finish (Step.run umask) (storeAfter sha256 blake3 umask events).state =
        (.ok (.ok stage), u) := by
  rw [exists_comm]
  refine exists_congr fun stage => (done_alone_iff hfree).trans ?_
  rw [Call.process, finish_map]
  exact result_map_iff fun _ _ h => Outcome.downloaded.inj h

theorem published_alone_iff {stage : TransferStageRef} {turnsAgain : ℕ}
    (hfree : (storeAfter sha256 blake3 umask events).running stage.operationId = none) :
    (∃ turns base, (storeAfter sha256 blake3 umask (events ++
      alone (.publish stage maxBytes turnsAgain) turns)).running stage.operationId =
      some (.publish stage maxBytes turnsAgain, .done (.ok (.published base)))) ↔
    ∃ base u, (publishBase sha256 blake3 stage maxBytes turnsAgain).finish (Step.run umask)
      (storeAfter sha256 blake3 umask events).state = (.ok base, u) := by
  rw [exists_comm]
  refine exists_congr fun base => (done_alone_iff hfree).trans ?_
  rw [Call.process, finish_map]
  exact result_map_iff fun _ _ h => Outcome.published.inj h

/-- A call that is cut off leaves the disk as it is, and its operation free. -/
theorem storeAfter_cut (events : List StoreEvent) (operationId : Uuid) :
    (storeAfter sha256 blake3 umask (events ++ [.cut operationId])).running operationId = none ∧
    (storeAfter sha256 blake3 umask (events ++ [.cut operationId])).state =
      (storeAfter sha256 blake3 umask events).state := by
  rw [storeAfter, Runs.run_concat, storeStep, StoreEvent.toEvent, Pool.step]
  refine ⟨?_, rfl⟩
  rw [Pool.running_withProcess, if_pos rfl]

end Alone

theorem Resumable.stageFits
    (h : Resumable sha256 operationId expectedSha256 expectedByteLen d) :
    StageFits sha256 d operationId expectedSha256 expectedByteLen := by
  intro handle node hstage
  rcases h with hnone | ⟨other, found, hother, hprivate, hexact⟩
  · exact absurd (hnone.symm.trans hstage.stage) (by simp)
  · cases Option.some.inj (hother.stage.symm.trans hstage.stage)
    cases Option.some.inj (hother.node.symm.trans hstage.node)
    exact ⟨hprivate, .inl hexact⟩

/-- **When a download completes.**  After any run, a download that has the turns to itself and
is given the bytes makes its stage if and only if there is none, or one that is the evidence, or
one that is shorter and no object. -/
theorem download_completes_iff (sha256 : Sha256) (blake3 : Blake3) (umask : ℕ)
    (events : List StoreEvent) (operationId : Uuid) (expectedSha256 : String)
    (expectedByteLen maxBytes : ℕ) (remote : RemoteSide)
    (hfree : (storeAfter sha256 blake3 umask events).running operationId = none)
    (hid : operationId.isNil = false) (hmax : expectedByteLen ≤ maxBytes)
    (hverified : remote.verifyDownload = .ok ()) (hfailure : remote.failure = none)
    (hdigest : hexSha256 sha256 remote.buffers.flatten = expectedSha256)
    (hlength : remote.buffers.flatten.length = expectedByteLen) :
    (∃ turns stage, (storeAfter sha256 blake3 umask (events ++
      alone (.download operationId expectedSha256 expectedByteLen maxBytes remote)
        turns)).running operationId =
      some (.download operationId expectedSha256 expectedByteLen maxBytes remote,
        .done (.ok (.downloaded (.ok stage))))) ↔
      StageFits sha256 (storeAfter sha256 blake3 umask events).state operationId expectedSha256
        expectedByteLen := by
  have hkept : Kept sha256 blake3 umask (storeAfter sha256 blake3 umask events) :=
    kept_storeAfter events
  exact (downloaded_alone_iff hfree).trans
    (finish_downloadStage hkept.sound hid hmax hfailure hdigest hlength hverified)

/-- The provider is gone after the first of two bytes. -/
def brokenDownload : Call :=
  .download onlyOperation (hexSha256 constantDigest [104, 105]) 2 2
    ⟨.ok (), [[104]], some .transport⟩

/-- The same bytes, and nothing fails. -/
def twoByteDownload : Call :=
  .download onlyOperation (hexSha256 constantDigest [104, 105]) 2 2
    ⟨.ok (), [[104], [105]], none⟩

/-- The stage has the first byte when the download is called again. -/
theorem two_byte_download_completes :
    ∃ turns stage, (storeAfter constantDigest constantDigest 0
      ((.begins brokenDownload :: List.replicate 14 (.turn onlyOperation) ++
        [.cut onlyOperation]) ++ alone twoByteDownload turns)).running onlyOperation =
      some (twoByteDownload, .done (.ok (.downloaded (.ok stage)))) := by
  refine (download_completes_iff constantDigest constantDigest 0 _ onlyOperation
    (hexSha256 constantDigest [104, 105]) 2 2 ⟨.ok (), [[104], [105]], none⟩ rfl (by decide) le_rfl
    rfl rfl rfl rfl).mpr ?_
  intro handle node hstage
  cases hstage.stage
  cases hstage.node
  refine ⟨private_0600 _, .inr ⟨by decide, ?_⟩⟩
  rintro ⟨digest, hobject⟩
  cases hobject

/-- **A download that is tried again by itself completes.**  After any run, where a download has
come to a failure that lets it be tried again, the next attempt makes the stage if it has the
turns to itself and is given the bytes. -/
theorem retried_download_completes (sha256 : Sha256) (blake3 : Blake3) (umask : ℕ)
    (events : List StoreEvent) (operationId : Uuid) (expectedSha256 : String)
    (expectedByteLen maxBytes : ℕ) (lost remote : RemoteSide) (failure : ExecutionFailure)
    (hfailed : (storeAfter sha256 blake3 umask events).running operationId =
      some (.download operationId expectedSha256 expectedByteLen maxBytes lost,
        .done (.ok (.downloaded (.error failure)))))
    (hretried : failure.kind ≠ .needsReconcile)
    (hid : operationId.isNil = false) (hmax : expectedByteLen ≤ maxBytes)
    (hverified : remote.verifyDownload = .ok ()) (hfailure : remote.failure = none)
    (hdigest : hexSha256 sha256 remote.buffers.flatten = expectedSha256)
    (hlength : remote.buffers.flatten.length = expectedByteLen) :
    ∃ turns stage, (storeAfter sha256 blake3 umask (events ++ [.cut operationId] ++
      alone (.download operationId expectedSha256 expectedByteLen maxBytes remote)
        turns)).running operationId =
      some (.download operationId expectedSha256 expectedByteLen maxBytes remote,
        .done (.ok (.downloaded (.ok stage)))) := by
  have hkept : Kept sha256 blake3 umask (storeAfter sha256 blake3 umask events) :=
    kept_storeAfter events
  obtain ⟨hfree, hstate⟩ : (storeAfter sha256 blake3 umask
      (events ++ [.cut operationId])).running operationId = none ∧ _ :=
    storeAfter_cut events operationId
  refine (downloaded_alone_iff hfree).mpr ?_
  rw [hstate]
  exact (finish_downloadStage hkept.sound hid hmax hfailure hdigest hlength hverified).mpr
    (retried_download_resumes hfailed hretried).stageFits

/-- The provider is gone before the first byte. -/
def lostDownload : Call :=
  .download onlyOperation (hexSha256 constantDigest [104]) 1 1 ⟨.ok (), [], some .transport⟩

/-- And then it is back. -/
theorem one_byte_retry_completes :
    ∃ turns stage, (storeAfter constantDigest constantDigest 0
      (.begins lostDownload :: List.replicate 17 (.turn onlyOperation) ++ [.cut onlyOperation] ++
        alone oneByteDownload turns)).running onlyOperation =
      some (oneByteDownload, .done (.ok (.downloaded (.ok stage)))) :=
  retried_download_completes constantDigest constantDigest 0 _ onlyOperation
    (hexSha256 constantDigest [104]) 1 1 _ ⟨.ok (), [[104]], none⟩
    (streamFailure .offline .transport) rfl (by decide) (by decide) le_rfl rfl rfl rfl rfl

/-- **When a base is published.**  After any run, a publication that has the turns to itself
completes if and only if its stage is there and is what the reference says, and the name of its
digest is free or that of an object that holds the same and is no other operation's stage. -/
theorem publish_completes_iff (sha256 : Sha256) (blake3 : Blake3) (umask : ℕ)
    (events : List StoreEvent) (stage : TransferStageRef) (maxBytes turnsAgain : ℕ)
    (hfree : (storeAfter sha256 blake3 umask events).running stage.operationId = none) :
    (∃ turns base, (storeAfter sha256 blake3 umask (events ++
      alone (.publish stage maxBytes turnsAgain) turns)).running stage.operationId =
      some (.publish stage maxBytes turnsAgain, .done (.ok (.published base)))) ↔
      Publishable sha256 blake3 (storeAfter sha256 blake3 umask events).state stage maxBytes := by
  have hkept : Kept sha256 blake3 umask (storeAfter sha256 blake3 umask events) :=
    kept_storeAfter events
  exact (published_alone_iff hfree).trans (finish_publishBase_iff hkept.sound stage maxBytes _)

/-- The publication of a download that is over. -/
theorem one_byte_publish_completes :
    ∃ turns base, (storeAfter constantDigest constantDigest 0
      ((.begins oneByteDownload :: List.replicate 14 (.turn onlyOperation) ++
        [.cut onlyOperation]) ++ alone oneBytePublish turns)).running onlyOperation =
      some (oneBytePublish, .done (.ok (.published base))) := by
  refine (publish_completes_iff constantDigest constantDigest 0 _
    ⟨onlyOperation, .of constantDigest constantDigest [104]⟩ 1 0 rfl).mpr ?_
  refine ⟨by decide, 0, ⟨0o600, [104]⟩, ⟨rfl, rfl⟩, private_0600 _, le_rfl, rfl, ?_⟩
  intro object found hobject
  cases hobject.object

/-- **A publication that was cut off completes.**  After any run, where a stage has the name of
an object already and was not removed, its publication completes if it has the turns to
itself. -/
theorem cut_publication_completes (sha256 : Sha256) (blake3 : Blake3) (umask : ℕ)
    (events : List StoreEvent) (operationId : Uuid) (handle : ℕ) (node : FileNode)
    (maxBytes turnsAgain : ℕ)
    (hfree : (storeAfter sha256 blake3 umask events).running operationId = none)
    (hstage : (storeAfter sha256 blake3 umask events).state.HasStage operationId handle node)
    (hlinked : (storeAfter sha256 blake3 umask events).state.Linked handle)
    (hid : operationId.isNil = false) (hmax : node.bytes.length ≤ maxBytes) :
    ∃ turns base, (storeAfter sha256 blake3 umask (events ++
      alone (.publish ⟨operationId, .of sha256 blake3 node.bytes⟩ maxBytes turnsAgain)
        turns)).running operationId =
      some (.publish ⟨operationId, .of sha256 blake3 node.bytes⟩ maxBytes turnsAgain,
        .done (.ok (.published base))) := by
  have hkept : Kept sha256 blake3 umask (storeAfter sha256 blake3 umask events) :=
    kept_storeAfter events
  have hobject := hkept.sound.object_of_linked hstage hlinked
  obtain ⟨found, hfound, hprivate, -⟩ := hkept.sound.object _ _ hobject
  cases Option.some.inj (hfound.symm.trans hstage.node)
  have hfits : ObjectFits sha256 blake3 (storeAfter sha256 blake3 umask events).state operationId
      node.bytes := by
    intro object found hother
    cases Option.some.inj (hother.object.symm.trans hobject)
    cases Option.some.inj (hother.node.symm.trans hfound)
    exact ⟨rfl, fun _ hstaged => hkept.sound.stage_unique _ _ _ hstaged hstage.stage⟩
  refine (published_alone_iff hfree).mpr ?_
  exact (finish_publishBase_iff hkept.sound ⟨operationId, .of sha256 blake3 node.bytes⟩ maxBytes
    turnsAgain).mpr ⟨hid, handle, node, hstage, hprivate, hmax, rfl, hfits⟩

/-- Cut off between the link and the removal of the stage. -/
theorem one_byte_cut_publication_completes :
    ∃ turns base, (storeAfter constantDigest constantDigest 0
      ((.begins oneByteDownload :: List.replicate 14 (.turn onlyOperation) ++
        .cut onlyOperation :: .begins oneBytePublish :: List.replicate 8 (.turn onlyOperation) ++
        [.cut onlyOperation]) ++ alone oneBytePublish turns)).running onlyOperation =
      some (oneBytePublish, .done (.ok (.published base))) :=
  cut_publication_completes constantDigest constantDigest 0 _ onlyOperation 0 ⟨0o600, [104]⟩ 1 0 rfl
    ⟨rfl, rfl⟩ ⟨hexSha256 constantDigest [104], rfl⟩ (by decide) le_rfl

end PrivateTransferStore
end MyVault
