import MyVault.Transfer.SharedObjects

/-!
# What a call on the store comes to

Every call is robust against the calls of other operations and against steps and looks that
fail: it takes the steps of `Allowed` only, and where it ends with a result, the result is
still true.  A base that was published is an object with one name (`Based`), and a download
that may be tried again by itself has left no stage.
-/

namespace MyVault
namespace PrivateTransferStore

open Process Check Transfer Vault.Stepwise

/-- Robust against the other operations, and against steps and looks that fail. -/
abbrev CallRobust {α : Type} (sha256 : Sha256) (blake3 : Blake3) (umask : ℕ) (call : Call)
    (Q : Except NativeTransferError α → Disk → Prop) (p : Proc α) (d : Disk) : Prop :=
  Robust (Step.run umask) (.error .other) .privateStoreUnavailable
    (Rely sha256 call.operationId) (Allowed sha256 blake3 call) Q p d

variable {sha256 : Sha256} {blake3 : Blake3} {umask : ℕ} {d t u : Disk} {call : Call}
  {digest : String} {handle : ℕ} {node : FileNode} {α β : Type}

/-- What is said of a result that is no error. -/
def OnOk (P : α → Disk → Prop) (x : Except NativeTransferError α) (d : Disk) : Prop :=
  ∀ a, x = .ok a → P a d

theorem OnOk.error {P : α → Disk → Prop} (e : NativeTransferError) (d : Disk) :
    OnOk P (.error e) d := by
  intro a ha
  cases ha

theorem OnOk.ok {P : α → Disk → Prop} {a : α} (h : P a d) : OnOk P (.ok a) d := by
  intro a' ha
  cases ha
  exact h

/-! ## Rules -/

namespace CallRobust

section Rules

variable {Q : Except NativeTransferError β → Disk → Prop} (herror : ∀ e t, Q (.error e) t)
include herror

theorem ask_bind {f : Disk → Except NativeTransferError α} {k : α → Proc β}
    (h : ∀ t a, Rely sha256 call.operationId d t → f t = .ok a →
      CallRobust sha256 blake3 umask call Q (k a) t) :
    CallRobust sha256 blake3 umask call Q (ask f >>= k) d :=
  Robust.ask_bind (fun t _ => herror _ t) h fun _ u e _ _ _ => herror e u

theorem lift_bind {x : Except NativeTransferError α} {k : α → Proc β}
    (h : ∀ a, x = .ok a → CallRobust sha256 blake3 umask call Q (k a) d) :
    CallRobust sha256 blake3 umask call Q (lift x >>= k) d := by
  cases x with
  | error e => exact Robust.lift_bind_error rfl fun t _ => herror e t
  | ok a => exact Robust.lift_bind rfl (h a rfl)

theorem reject_bind {c : Prop} [Decidable c] {e : NativeTransferError} {k : Unit → Proc β}
    (h : ¬ c → CallRobust sha256 blake3 umask call Q (k ()) d) :
    CallRobust sha256 blake3 umask call Q (lift (reject c e) >>= k) d :=
  lift_bind herror fun _ hpass => h (reject_eq_ok.mp hpass)

theorem step_bind {st : Step} {orElse : IoKind → NativeTransferError} {k : Unit → Proc β}
    (h : ∀ t, Rely sha256 call.operationId d t → Allowed sha256 blake3 call st t ∧
      ((st.run umask t).1 = .ok () →
        CallRobust sha256 blake3 umask call Q (k ()) (st.run umask t).2)) :
    CallRobust sha256 blake3 umask call Q (PrivateTransferStore.call st orElse >>= k) d := by
  show CallRobust sha256 blake3 umask call Q
    (perform st >>= fun answer => lift (answer.mapError orElse) >>= k) d
  refine Robust.perform_bind fun t ht => ?_
  obtain ⟨hallowed, hok⟩ := h t ht
  refine ⟨hallowed, lift_bind herror fun a ha => ?_, lift_bind herror fun a ha => ?_⟩
  · cases hanswer : (st.run umask t).1 with
    | ok a => exact hok hanswer
    | error kind =>
        rw [hanswer] at ha
        cases ha
  · cases ha

/-- A step that leaves everything as it is. -/
theorem sync_bind {st : Step} {orElse : IoKind → NativeTransferError} {k : Unit → Proc β}
    (hsync : ∀ t, Allowed sha256 blake3 call st t ∧ st.run umask t = (.ok (), t))
    (h : ∀ t, Rely sha256 call.operationId d t →
      CallRobust sha256 blake3 umask call Q (k ()) t) :
    CallRobust sha256 blake3 umask call Q (PrivateTransferStore.call st orElse >>= k) d := by
  refine step_bind herror fun t ht => ⟨(hsync t).1, fun _ => ?_⟩
  rw [(hsync t).2]
  exact h t ht

theorem seq {Q' : Except NativeTransferError α → Disk → Prop} {p : Proc α} {k : α → Proc β}
    (hp : CallRobust sha256 blake3 umask call Q' p d)
    (hok : ∀ a t, Q' (.ok a) t → CallRobust sha256 blake3 umask call Q (k a) t) :
    CallRobust sha256 blake3 umask call Q (p >>= k) d :=
  Robust.bind interference_rely hp hok fun e t _ => herror e t

end Rules

/-- A step with which a part ends. -/
theorem last_step {Q : Except NativeTransferError Unit → Disk → Prop}
    (herror : ∀ e t, Q (.error e) t) {st : Step} {orElse : IoKind → NativeTransferError}
    (h : ∀ t, Rely sha256 call.operationId d t → Allowed sha256 blake3 call st t ∧
      ((st.run umask t).1 = .ok () →
        ∀ u, Rely sha256 call.operationId (st.run umask t).2 u → Q (.ok ()) u)) :
    CallRobust sha256 blake3 umask call Q (PrivateTransferStore.call st orElse) d := by
  refine Robust.perform_bind fun t ht => ?_
  obtain ⟨hallowed, hok⟩ := h t ht
  refine ⟨hallowed, ?_, Robust.of_fail fun u _ => herror _ u⟩
  cases hanswer : (st.run umask t).1 with
  | ok a => exact Robust.of_pure fun u hu => hok hanswer u hu
  | error kind => exact Robust.of_fail fun u _ => herror _ u

theorem of_pure {Q : Except NativeTransferError α → Disk → Prop} {a : α}
    (h : ∀ t, Rely sha256 call.operationId d t → Q (.ok a) t) :
    CallRobust sha256 blake3 umask call Q (pure a) d := Robust.of_pure h

theorem of_fail {Q : Except NativeTransferError α → Disk → Prop} {e : NativeTransferError}
    (herror : ∀ e t, Q (.error e) t) : CallRobust sha256 blake3 umask call Q (fail e) d :=
  Robust.of_fail fun t _ => herror e t

/-- Whatever a call does, the store stays sound. -/
theorem sound {Q : Except NativeTransferError α → Disk → Prop} {p : Proc α}
    (h : CallRobust sha256 blake3 umask call Q p d) (hd : d.Sound sha256) :
    CallRobust sha256 blake3 umask call (fun x t => Q x t ∧ t.Sound sha256) p d := by
  have hkeeps : Interference fun d t : Disk => d.Sound sha256 → t.Sound sha256 :=
    ⟨fun _ h => h, fun h h' hd => h' (h hd)⟩
  exact (Robust.keeping hkeeps (fun _ _ hrely => hrely.sound)
    (fun _ _ hallowed hsound => (hallowed.since hsound umask).sound hsound) h id).mono
      (fun _ _ hallowed => hallowed) fun _ _ hx => ⟨hx.1, hx.2 hd⟩

/-- A part whose result is looked at. -/
theorem attempt_bind {Q : Except NativeTransferError β → Disk → Prop}
    {Q' : Except NativeTransferError α → Disk → Prop} {p : Proc α}
    {k : Except NativeTransferError α → Proc β} (herror : ∀ e t, Q (.error e) t)
    (hp : CallRobust sha256 blake3 umask call Q' p d) (hd : d.Sound sha256)
    (hk : ∀ x t, Q' x t → t.Sound sha256 → CallRobust sha256 blake3 umask call Q (k x) t) :
    CallRobust sha256 blake3 umask call Q (p.attempt >>= k) d := by
  have hattempt : Robust (Step.run umask) (.error .other) .privateStoreUnavailable
      (Rely sha256 call.operationId) (Allowed sha256 blake3 call)
      (OnOk fun x t => Q' x t ∧ t.Sound sha256) p.attempt d :=
    Robust.attempt (hp.sound hd) (fun _ _ h => OnOk.ok h) fun t _ => OnOk.error _ t
  refine Robust.bind interference_rely hattempt (fun x t hx => ?_) fun e t _ => herror e t
  obtain ⟨hresult, hsound⟩ := hx x rfl
  exact hk x t hresult hsound

end CallRobust

open CallRobust

/-! ## Opening -/

/-- What a handle of an open stage is. -/
structure Opened (operationId : Uuid) (maxLinks : ℕ) (d : Disk) (handle : ℕ) (node : FileNode) :
    Prop where
  stage : d.HasStage operationId handle node
  isPrivate : node.isPrivate = true
  unlinked : maxLinks = 1 → ¬ d.Linked handle

theorem Opened.rely {operationId : Uuid} {maxLinks : ℕ}
    (h : Opened operationId maxLinks d handle node) (hrely : Rely sha256 operationId d t) :
    Opened operationId maxLinks t handle node := by
  refine ⟨hrely.own_node h.stage, h.isPrivate, fun hone => ?_⟩
  rintro ⟨digest, hobject⟩
  exact h.unlinked hone ⟨digest, hrely.own_object h.stage.stage hobject⟩

theorem robust_openStage (hd : d.Sound sha256) (maxLinks : ℕ) :
    CallRobust sha256 blake3 umask call (OnOk fun handle t =>
      Rely sha256 call.operationId d t ∧ ∃ node, Opened call.operationId maxLinks t handle node)
      (openStage call.operationId maxLinks) d := by
  refine ask_bind OnOk.error fun t handle ht hfound => ?_
  refine ask_bind OnOk.error fun u _ hu hverify => ?_
  obtain ⟨⟨node, hnode, hprivate⟩, -, hlinks⟩ := verifyPrivateFile_eq_ok.mp hverify
  have hstage := hu.own.trans (named_eq_ok.mp hfound)
  have hopened : Opened call.operationId maxLinks u handle node := by
    refine ⟨⟨hstage, hnode⟩, hprivate, fun hone => ?_⟩
    exact (hu.sound (ht.sound hd)).not_linked hstage (hone ▸ hlinks)
  refine of_pure fun v hv => OnOk.ok ?_
  exact ⟨interference_rely.trans ht (interference_rely.trans hu hv), node, hopened.rely hv⟩

theorem robust_openObject (hd : d.Sound sha256) (maxLinks : ℕ) :
    CallRobust sha256 blake3 umask call (OnOk fun handle t =>
      Rely sha256 call.operationId d t ∧ t.object digest = some handle ∧
        (maxLinks = 1 → ¬ t.Staged handle)) (openObject digest maxLinks) d := by
  refine ask_bind OnOk.error fun t handle ht hfound => ?_
  refine ask_bind OnOk.error fun u _ hu hverify => ?_
  obtain ⟨-, -, hlinks⟩ := verifyPrivateFile_eq_ok.mp hverify
  have hthere : ∀ v, Rely sha256 call.operationId t v → v.object digest = some handle := by
    intro v hv
    obtain ⟨node, hnode, -⟩ := (ht.sound hd).object _ _ (named_eq_ok.mp hfound)
    exact (hv.objects ⟨named_eq_ok.mp hfound, hnode⟩).object
  refine of_pure fun v hv => OnOk.ok ?_
  have hsound := hu.sound (ht.sound hd)
  refine ⟨interference_rely.trans ht (interference_rely.trans hu hv),
    hthere v (interference_rely.trans hu hv), fun hone => ?_⟩
  exact hv.not_staged hsound (hthere u hu) (hsound.not_staged (hthere u hu) (hone ▸ hlinks))

/-! ## Stages -/

theorem allowed_sync (st : Step) (hst : (∃ handle, st = .syncFile handle) ∨ st = .syncStaging ∨
    st = .syncObjects) (t : Disk) :
    Allowed sha256 blake3 call st t ∧ st.run umask t = (.ok (), t) := by
  rcases hst with ⟨handle, rfl⟩ | rfl | rfl <;> exact ⟨trivial, rfl⟩

/-- The stage is the one of the operation, and it is the evidence that was expected. -/
def Loaded (sha256 : Sha256) (blake3 : Blake3) (operationId : Uuid) (expectedSha256 : String)
    (expectedByteLen : ℕ) (stage : TransferStageRef) (d : Disk) : Prop :=
  (∃ handle node, d.HasStage operationId handle node ∧ node.isPrivate = true ∧
    stage = ⟨operationId, .of sha256 blake3 node.bytes⟩) ∧
  stage.snapshot.sha256 = expectedSha256 ∧ stage.snapshot.revision.byteLen = expectedByteLen

theorem Loaded.rely {operationId : Uuid} {expectedSha256 : String} {expectedByteLen : ℕ}
    {stage : TransferStageRef}
    (h : Loaded sha256 blake3 operationId expectedSha256 expectedByteLen stage d)
    (hrely : Rely sha256 operationId d t) :
    Loaded sha256 blake3 operationId expectedSha256 expectedByteLen stage t := by
  obtain ⟨⟨handle, node, hstage, hrest⟩, hexact⟩ := h
  exact ⟨⟨handle, node, hrely.own_node hstage, hrest⟩, hexact⟩

theorem robust_loadStage (hd : d.Sound sha256) (expectedSha256 : String)
    (expectedByteLen maxBytes : ℕ) :
    CallRobust sha256 blake3 umask call (OnOk fun stage t => Rely sha256 call.operationId d t ∧
      Loaded sha256 blake3 call.operationId expectedSha256 expectedByteLen stage t)
      (loadStage sha256 blake3 call.operationId expectedSha256 expectedByteLen maxBytes) d := by
  refine reject_bind OnOk.error fun _ => ?_
  refine seq OnOk.error (robust_openStage hd 2) fun file t hopened => ?_
  obtain ⟨ht, node, hnode⟩ := hopened file rfl
  refine ask_bind OnOk.error fun u snapshot hu hsnapshot => ?_
  refine reject_bind OnOk.error fun hexact => ?_
  obtain ⟨found, hfound, -, rfl⟩ := fileSnapshot_eq_ok.mp hsnapshot
  rw [not_or, not_not, not_not] at hexact
  have hloaded : Loaded sha256 blake3 call.operationId expectedSha256 expectedByteLen
      ⟨call.operationId, .of sha256 blake3 found.bytes⟩ u := by
    have hstage := hu.own_node hnode.stage
    cases Option.some.inj (hfound.symm.trans hstage.node)
    exact ⟨⟨file, _, hstage, hnode.isPrivate, rfl⟩, hexact⟩
  exact of_pure fun v hv => OnOk.ok ⟨interference_rely.trans ht (interference_rely.trans hu hv),
    hloaded.rely hv⟩

theorem robust_openVerifiedStage (hd : d.Sound sha256) {stage : TransferStageRef}
    (hoperation : stage.operationId = call.operationId) (maxBytes : ℕ) :
    CallRobust sha256 blake3 umask call (OnOk fun file t => Rely sha256 call.operationId d t ∧
      ∃ node, Opened call.operationId 2 t file node ∧
        stage.snapshot = .of sha256 blake3 node.bytes)
      (openVerifiedStage sha256 blake3 stage maxBytes) d := by
  rw [openVerifiedStage, hoperation]
  refine seq OnOk.error (robust_loadStage hd _ _ maxBytes) fun verified t hloaded => ?_
  obtain ⟨ht, ⟨handle, node, hstage, -, hverified⟩, -⟩ := hloaded verified rfl
  refine reject_bind OnOk.error fun hsame => ?_
  rw [not_not] at hsame
  refine (robust_openStage (ht.sound hd) 2).mono (fun _ _ h => h) fun x u hopened => ?_
  intro file hfile
  obtain ⟨hu, found, hfound⟩ := hopened file hfile
  have hstage' := hu.own_node hstage
  have hhandle : file = handle :=
    Option.some.inj (hfound.stage.stage.symm.trans hstage'.stage)
  have hnode : found = node :=
    Option.some.inj (hfound.stage.node.symm.trans (hhandle ▸ hstage'.node))
  refine ⟨interference_rely.trans ht hu, found, hfound, ?_⟩
  rw [← hsame, hverified, hnode]

theorem robust_beginStage (hd : d.Sound sha256) (maxBytes : ℕ) :
    CallRobust sha256 blake3 umask call (OnOk fun writer t =>
      writer.operationId = call.operationId ∧ t.Writing call.operationId writer.handle)
      (beginStage call.operationId maxBytes) d := by
  refine reject_bind OnOk.error fun _ => step_bind OnOk.error fun t ht => ⟨rfl, fun hcreated => ?_⟩
  have hwriting : ((Step.createStage call.operationId).run umask t).2.Writing call.operationId
      t.nodes.length := by
    rw [Step.run] at hcreated ⊢
    split
    · rename_i htaken
      rw [if_pos htaken] at hcreated
      cases hcreated
    · refine ⟨by rw [Disk.stage_withStage, if_pos rfl], ?_⟩
      rintro ⟨digest, hobject⟩
      exact absurd ((ht.sound hd).object_lt hobject) (Nat.lt_irrefl _)
  refine ask_bind OnOk.error fun u file hu hfile => ?_
  have hwriting := hwriting.rely hu
  cases Option.some.inj ((named_eq_ok.mp hfile).symm.trans hwriting.stage)
  refine step_bind OnOk.error fun v hv => ⟨hwriting.rely hv, fun _ => ?_⟩
  have hwriting : ((Step.harden t.nodes.length).run umask v).2.Writing call.operationId
      t.nodes.length := ⟨(hwriting.rely hv).stage, (hwriting.rely hv).unlinked⟩
  refine ask_bind OnOk.error fun w _ hw _ => ?_
  refine sync_bind OnOk.error (allowed_sync _ (.inl ⟨_, rfl⟩)) fun x hx => ?_
  refine sync_bind OnOk.error (allowed_sync _ (.inr (.inl rfl))) fun y hy => ?_
  exact of_pure fun z hz => OnOk.ok ⟨rfl, (((hwriting.rely hw).rely hx).rely hy).rely hz⟩

theorem robust_writeBytes (bytes : List UInt8) (hwriting : d.Writing call.operationId handle) :
    CallRobust sha256 blake3 umask call (OnOk fun _ t => t.Writing call.operationId handle)
      (writeBytes handle bytes) d := by
  induction bytes generalizing d with
  | nil => exact of_pure fun t ht => OnOk.ok (hwriting.rely ht)
  | cons byte rest ih =>
      refine step_bind OnOk.error fun t ht => ⟨hwriting.rely ht, fun _ => ih ?_⟩
      exact ⟨(hwriting.rely ht).stage, (hwriting.rely ht).unlinked⟩

theorem robust_writeAll {writer : TransferStageWriter} (buffers : List (List UInt8))
    (hwriting : d.Writing call.operationId writer.handle) :
    CallRobust sha256 blake3 umask call (OnOk fun writer' _ => writer'.operationId =
      writer.operationId ∧ writer'.written = writer.written + buffers.flatten.length)
      (writer.writeAll buffers) d := by
  induction buffers generalizing d writer with
  | nil => exact of_pure fun t ht => OnOk.ok ⟨rfl, rfl⟩
  | cons buffer rest ih =>
      refine reject_bind OnOk.error fun _ => ?_
      refine seq OnOk.error (robust_writeBytes buffer hwriting) fun _ t hwritten => ?_
      have hrest := @ih t { writer with written := writer.written + buffer.length }
        (hwritten () rfl)
      refine hrest.mono (fun _ _ h => h) fun x u hx writer' hok => ?_
      obtain ⟨hid, hlength⟩ := hx writer' hok
      refine ⟨hid, hlength.trans ?_⟩
      rw [List.flatten_cons, List.length_append, Nat.add_assoc]

theorem robust_finishStage {writer : TransferStageWriter} (hd : d.Sound sha256)
    (hwriter : writer.operationId = call.operationId) (expectedSha256 : String)
    (expectedByteLen maxBytes : ℕ) :
    CallRobust sha256 blake3 umask call (OnOk fun stage t =>
      Loaded sha256 blake3 call.operationId expectedSha256 expectedByteLen stage t)
      (finishStage sha256 blake3 writer expectedSha256 expectedByteLen maxBytes) d := by
  refine reject_bind OnOk.error fun _ => ?_
  refine sync_bind OnOk.error (allowed_sync _ (.inl ⟨_, rfl⟩)) fun t ht => ?_
  refine ask_bind OnOk.error fun u _ hu _ => ?_
  refine sync_bind OnOk.error (allowed_sync _ (.inr (.inl rfl))) fun v hv => ?_
  rw [hwriter]
  exact (robust_loadStage (hv.sound (hu.sound (ht.sound hd))) _ _ maxBytes).mono
    (fun _ _ h => h) fun _ _ hloaded stage hok => (hloaded stage hok).2

/-- A stage that is too short and no object is removed, where the call may do so. -/
theorem robust_discardIncompleteStage (hd : d.Sound sha256) {expectedByteLen : ℕ}
    (hdiscards : expectedByteLen ∈ call.discards) (expectedSha256 : String) (maxBytes : ℕ) :
    CallRobust sha256 blake3 umask call (OnOk fun _ t => t.stage call.operationId = none)
      (discardIncompleteStage sha256 blake3 call.operationId expectedSha256 expectedByteLen
        maxBytes) d := by
  refine reject_bind OnOk.error fun _ => ?_
  refine seq OnOk.error (robust_openStage hd 1) fun file t hopened => ?_
  obtain ⟨ht, node, hnode⟩ := hopened file rfl
  refine ask_bind OnOk.error fun u _ hu _ => ?_
  refine ask_bind OnOk.error fun v snapshot hv hsnapshot => ?_
  refine reject_bind OnOk.error fun _ => reject_bind OnOk.error fun hshort => ?_
  have hnode := (hnode.rely hu).rely hv
  obtain ⟨found, hfound, -, rfl⟩ := fileSnapshot_eq_ok.mp hsnapshot
  cases Option.some.inj (hfound.symm.trans hnode.stage.node)
  have hlength : node.bytes.length < expectedByteLen := Nat.not_le.mp hshort
  have hsound := hv.sound (hu.sound (ht.sound hd))
  have hremoved : CallRobust sha256 blake3 umask call
      (OnOk fun _ t => t.stage call.operationId = none)
      (removeStageIfIdentity call.operationId file) v := by
    refine seq OnOk.error (robust_openStage hsound 1) fun current w hcurrent => ?_
    obtain ⟨hw, -⟩ := hcurrent current rfl
    refine ask_bind OnOk.error fun x _ hx _ => ask_bind OnOk.error fun y _ hy _ => ?_
    refine reject_bind OnOk.error fun _ => ?_
    have hnode := ((hnode.rely hw).rely hx).rely hy
    refine last_step OnOk.error fun z hz => ?_
    have hnode := hnode.rely hz
    refine ⟨⟨rfl, fun handle node' hstage => .inl ⟨_, hdiscards, ?_⟩⟩, fun _ w hw => OnOk.ok ?_⟩
    · cases Option.some.inj (hstage.stage.symm.trans hnode.stage.stage)
      cases Option.some.inj (hstage.node.symm.trans hnode.stage.node)
      exact ⟨hlength, hnode.unlinked rfl⟩
    · have hrun : (Step.removeStage call.operationId).run umask z =
          (.ok (), z.withoutStage call.operationId) := by
        rw [Step.run, hnode.stage.stage]
        rfl
      rw [hw.own, hrun, Disk.stage_withoutStage, if_pos rfl]
  refine seq OnOk.error hremoved fun _ w hnone => ?_
  have hgone : ∀ t, Rely sha256 call.operationId w t → t.stage call.operationId = none :=
    fun t ht => ht.own.trans (hnone () rfl)
  refine last_step OnOk.error fun x hx => ⟨trivial, fun _ y hy => OnOk.ok ?_⟩
  exact hgone y (interference_rely.trans hx hy)

/-! ## Objects -/

/-- A base that was published: an object of that length, with no other name. -/
def Based (d : Disk) (base : TransferBaseRef) : Prop :=
  ∃ handle node, d.HasObject base.sha256 handle node ∧ node.bytes.length = base.byteLen ∧
    ¬ d.Staged handle

theorem Based.since {base : TransferBaseRef} (h : Based d base) (hd : d.Sound sha256)
    (hsince : Since sha256 d t) : Based t base := by
  obtain ⟨handle, node, hobject, hlength, hunstaged⟩ := h
  exact ⟨handle, node, hsince.objects hobject, hlength,
    hsince.not_staged hd hobject.object hunstaged⟩

section Publish

variable {stage : TransferStageRef} (hoperation : stage.operationId = call.operationId)
  (hpublishes : stage.snapshot ∈ call.publishes)
include hoperation hpublishes

theorem robust_removePublishedStage (hd : d.Sound sha256) {stageFile object : ℕ}
    (hstage : d.HasStage call.operationId stageFile node)
    (hsnapshot : stage.snapshot = .of sha256 blake3 node.bytes)
    (hobject : d.object stage.snapshot.sha256 = some object) (maxBytes : ℕ) :
    CallRobust sha256 blake3 umask call (OnOk fun base t => Based t base)
      (removePublishedStage sha256 blake3 stage maxBytes stageFile object) d := by
  rw [removePublishedStage, hoperation]
  refine ask_bind OnOk.error fun t _ ht hverify => ?_
  obtain ⟨found, hfound, -, hheld⟩ := verifyFileSnapshot_eq_ok.mp hverify
  have hthere : t.HasObject stage.snapshot.sha256 object found := by
    obtain ⟨_, hnode, -⟩ := hd.object _ _ hobject
    exact ⟨(ht.objects ⟨hobject, hnode⟩).object, hfound⟩
  refine seq OnOk.error (robust_openStage (ht.sound hd) 2) fun current u hcurrent => ?_
  obtain ⟨hu, -⟩ := hcurrent current rfl
  refine reject_bind OnOk.error fun _ => step_bind OnOk.error fun v hv => ?_
  have hsound := hv.sound (hu.sound (ht.sound hd))
  have hthere := hv.objects (hu.objects hthere)
  have hstage := hv.own_node (hu.own_node (ht.own_node hstage))
  have hallowed : Allowed sha256 blake3 call (.removeStage call.operationId) v := by
    refine ⟨rfl, fun handle node' hnode => .inr ⟨_, hpublishes, ?_, object, found, hthere, hheld⟩⟩
    cases Option.some.inj (hnode.stage.symm.trans hstage.stage)
    cases Option.some.inj (hnode.node.symm.trans hstage.node)
    exact hsnapshot
  refine ⟨hallowed, fun _ => ?_⟩
  have hsound' := (hallowed.since hsound umask).sound hsound
  refine sync_bind OnOk.error (allowed_sync _ (.inr (.inl rfl))) fun w hw => ?_
  refine seq OnOk.error (robust_openObject (hw.sound hsound') 1) fun last x hlast => ?_
  obtain ⟨hx, hnamed, hunstaged⟩ := hlast last rfl
  refine ask_bind OnOk.error fun y _ hy hverify => ?_
  obtain ⟨found', hfound', -, hheld'⟩ := verifyFileSnapshot_eq_ok.mp hverify
  have hsound := hx.sound (hw.sound hsound')
  have hnamed' : y.HasObject stage.snapshot.sha256 last found' := by
    obtain ⟨_, hnode, -⟩ := hsound.object _ _ hnamed
    exact ⟨(hy.objects ⟨hnamed, hnode⟩).object, hfound'⟩
  have hbased : Based y ⟨stage.snapshot.sha256, stage.snapshot.revision.byteLen⟩ := by
    refine ⟨last, found', hnamed', ?_, hy.not_staged hsound hnamed (hunstaged rfl)⟩
    rw [hheld']
    rfl
  exact of_pure fun z hz => OnOk.ok (hbased.since (hy.sound hsound) hz.toSince)

theorem robust_publishBaseOr (hd : d.Sound sha256) (maxBytes : ℕ) {again : Proc TransferBaseRef}
    (hagain : ∀ t : Disk, t.Sound sha256 →
      CallRobust sha256 blake3 umask call (OnOk fun base t => Based t base) again t) :
    CallRobust sha256 blake3 umask call (OnOk fun base t => Based t base)
      (publishBaseOr sha256 blake3 stage maxBytes again) d := by
  refine seq OnOk.error (robust_openVerifiedStage hd hoperation maxBytes)
    fun stageFile t hverified => ?_
  obtain ⟨ht, node, hopened, hsnapshot⟩ := hverified stageFile rfl
  refine ask_bind OnOk.error fun u found hu hfound => ?_
  have hopened := hopened.rely hu
  have hsound := hu.sound (ht.sound hd)
  cases found with
  | some object =>
      refine ask_bind OnOk.error fun v _ hv _ => ask_bind OnOk.error fun w links hw _ => ?_
      refine reject_bind OnOk.error fun _ => ?_
      refine robust_removePublishedStage hoperation hpublishes (hw.sound (hv.sound hsound))
        (hw.own_node (hv.own_node hopened.stage)) hsnapshot ?_ maxBytes
      obtain ⟨_, hnode, -⟩ := hsound.object _ _ (Except.ok.inj hfound)
      exact (hw.objects (hv.objects ⟨Except.ok.inj hfound, hnode⟩)).object
  | none =>
      refine ask_bind OnOk.error fun v _ hv hverify => ?_
      have hopened := hopened.rely hv
      have hsound := hv.sound hsound
      obtain ⟨-, -, hlinks⟩ := verifyPrivateFile_eq_ok.mp hverify
      have hopened : Opened call.operationId 1 v stageFile node :=
        ⟨hopened.stage, hopened.isPrivate,
          fun _ => hsound.not_linked hopened.stage.stage hlinks⟩
      refine Robust.perform_bind fun w hw => ?_
      have hopened := hopened.rely hw
      have hsound := hw.sound hsound
      have hallowed : Allowed sha256 blake3 call
          (.hardLink stage.operationId stage.snapshot.sha256) w := by
        refine ⟨hoperation, fun handle hhandle => ?_⟩
        rw [hoperation] at hhandle
        cases Option.some.inj (hhandle.symm.trans hopened.stage.stage)
        exact ⟨hopened.unlinked rfl, node, hopened.stage.node, hopened.isPrivate, by
          rw [hsnapshot]
          rfl⟩
      have hsound' := (hallowed.since hsound umask).sound hsound
      refine ⟨hallowed, ?_, of_fail OnOk.error⟩
      cases hrun : (Step.hardLink stage.operationId stage.snapshot.sha256).run umask w with
      | mk answer after =>
          rw [hrun] at hsound'
          cases answer with
          | error kind =>
              cases kind with
              | alreadyExists => exact hagain after hsound'
              | notFound => exact of_fail OnOk.error
              | other => exact of_fail OnOk.error
          | ok _ =>
              rw [Step.run, hoperation, hopened.stage.stage] at hrun
              dsimp only at hrun
              split at hrun
              · cases hrun
              · cases hrun
                have hstage : (w.withObject stage.snapshot.sha256 stageFile).HasStage
                    call.operationId stageFile node := ⟨hopened.stage.stage, hopened.stage.node⟩
                refine sync_bind OnOk.error (allowed_sync _ (.inr (.inr rfl))) fun x hx => ?_
                refine seq OnOk.error (robust_openObject (hx.sound hsound') 2)
                  fun object y hobject => ?_
                obtain ⟨hy, hnamed, -⟩ := hobject object rfl
                refine reject_bind OnOk.error fun _ => ?_
                exact robust_removePublishedStage hoperation hpublishes
                  (hy.sound (hx.sound hsound')) (hy.own_node (hx.own_node hstage)) hsnapshot
                  hnamed maxBytes

theorem robust_publishBase (hd : d.Sound sha256) (maxBytes turns : ℕ) :
    CallRobust sha256 blake3 umask call (OnOk fun base t => Based t base)
      (publishBase sha256 blake3 stage maxBytes turns) d := by
  induction turns generalizing d with
  | zero =>
      exact robust_publishBaseOr hoperation hpublishes hd maxBytes fun _ _ => of_fail OnOk.error
  | succ turns ih =>
      exact robust_publishBaseOr hoperation hpublishes hd maxBytes fun _ ht => ih ht

end Publish

/-! ## Calls -/

/-- What is there of a stage does not stand in the way of the next attempt: there is none, or
it is the evidence. -/
def Resumable (sha256 : Sha256) (operationId : Uuid) (expectedSha256 : String)
    (expectedByteLen : ℕ) (d : Disk) : Prop :=
  d.stage operationId = none ∨ ∃ handle node, d.HasStage operationId handle node ∧
    node.isPrivate = true ∧ hexSha256 sha256 node.bytes = expectedSha256 ∧
    node.bytes.length = expectedByteLen

theorem Loaded.resumable {operationId : Uuid} {expectedSha256 : String} {expectedByteLen : ℕ}
    {stage : TransferStageRef}
    (h : Loaded sha256 blake3 operationId expectedSha256 expectedByteLen stage d) :
    Resumable sha256 operationId expectedSha256 expectedByteLen d := by
  obtain ⟨⟨handle, node, hstage, hprivate, rfl⟩, hexact⟩ := h
  exact .inr ⟨handle, node, hstage, hprivate, hexact⟩

/-- What a download comes to: the evidence, or a failure; and after a failure that does not
ask to be looked at, the next attempt can begin. -/
def StageEnds (sha256 : Sha256) (blake3 : Blake3) (operationId : Uuid) (expectedSha256 : String)
    (expectedByteLen : ℕ) : Except ExecutionFailure TransferStageRef → Disk → Prop
  | .ok stage, d => Loaded sha256 blake3 operationId expectedSha256 expectedByteLen stage d
  | .error failure, d => failure.kind ≠ .needsReconcile →
      Resumable sha256 operationId expectedSha256 expectedByteLen d

/-- A failure of the stream that does not ask to be looked at discards the stage. -/
theorem classify_discards {code : Drive.ErrorCode} {bytesWritten expectedBytes : ℕ}
    (h : (classifyDownloadStreamFailure code bytesWritten expectedBytes).1 ≠ .needsReconcile) :
    (classifyDownloadStreamFailure code bytesWritten expectedBytes).2 = true := by
  unfold classifyDownloadStreamFailure at h ⊢
  by_cases hempty : bytesWritten = 0 ∧ expectedBytes ≠ 0
  · rw [if_pos hempty] at h ⊢
    cases code <;> first | rfl | exact absurd rfl h
  · rw [if_neg hempty] at h
    exact absurd rfl h

section Download

variable {expectedSha256 : String} {expectedByteLen maxBytes : ℕ} (hd : d.Sound sha256)
  (hdiscards : expectedByteLen ∈ call.discards)
include hd hdiscards

theorem robust_afterStreamFailure (code : Drive.ErrorCode) (bytesWritten : ℕ) :
    CallRobust sha256 blake3 umask call
      (OnOk (StageEnds sha256 blake3 call.operationId expectedSha256 expectedByteLen))
      (afterStreamFailure sha256 blake3 call.operationId expectedSha256 expectedByteLen maxBytes
        code bytesWritten) d := by
  rw [afterStreamFailure]
  split
  · refine attempt_bind OnOk.error (robust_discardIncompleteStage hd hdiscards _ maxBytes) hd
      fun x t hx _ => ?_
    cases x with
    | ok _ => exact of_pure fun u hu => OnOk.ok fun _ => .inl (hu.own.trans (hx () rfl))
    | error e => exact of_pure fun u _ => OnOk.ok fun hkind => absurd rfl hkind
  · rename_i hkept
    exact of_pure fun u _ => OnOk.ok fun hkind => absurd (classify_discards hkind) hkept

theorem robust_downloadIntoNewStage (remote : RemoteSide) :
    CallRobust sha256 blake3 umask call
      (OnOk (StageEnds sha256 blake3 call.operationId expectedSha256 expectedByteLen))
      (downloadIntoNewStage sha256 blake3 call.operationId expectedSha256 expectedByteLen maxBytes
        remote) d := by
  refine attempt_bind OnOk.error (robust_beginStage hd maxBytes) hd fun x t hx ht => ?_
  cases x with
  | error e => exact of_pure fun u _ => OnOk.ok fun hkind => absurd rfl hkind
  | ok writer =>
      obtain ⟨hwriter, hwriting⟩ := hx writer rfl
      refine attempt_bind OnOk.error (robust_writeAll remote.buffers hwriting) ht
        fun y u hy hu => ?_
      cases y with
      | error e => exact robust_afterStreamFailure hu hdiscards _ _
      | ok writer' =>
          obtain ⟨hwriter', -⟩ := hy writer' rfl
          dsimp only
          split
          · exact robust_afterStreamFailure hu hdiscards _ _
          · refine attempt_bind OnOk.error (robust_finishStage hu (hwriter'.trans hwriter) _ _
              maxBytes) hu fun z v hz _ => ?_
            refine of_pure fun w hw => OnOk.ok ?_
            cases z with
            | ok stage => exact (hz stage rfl).rely hw
            | error e => exact fun hkind => absurd rfl hkind

theorem robust_downloadStage (remote : RemoteSide) :
    CallRobust sha256 blake3 umask call
      (OnOk (StageEnds sha256 blake3 call.operationId expectedSha256 expectedByteLen))
      (downloadStage sha256 blake3 call.operationId expectedSha256 expectedByteLen maxBytes
        remote) d := by
  refine attempt_bind OnOk.error (robust_loadStage hd expectedSha256 expectedByteLen maxBytes) hd
    fun x t hx ht => ?_
  cases x with
  | ok stage =>
      obtain ⟨-, hloaded⟩ := hx stage rfl
      refine of_pure fun u hu => OnOk.ok ?_
      cases remote.verifyDownload with
      | ok _ => exact hloaded.rely hu
      | error e => exact fun _ => (hloaded.rely hu).resumable
  | error e =>
      have hfailed : CallRobust sha256 blake3 umask call
          (OnOk (StageEnds sha256 blake3 call.operationId expectedSha256 expectedByteLen))
          (pure (.error (localFailure e))) t :=
        of_pure fun u _ => OnOk.ok fun hkind => absurd rfl hkind
      cases e with
      | stageUnavailable => exact robust_downloadIntoNewStage ht hdiscards remote
      | digestMismatch =>
          refine attempt_bind OnOk.error
            (robust_discardIncompleteStage ht hdiscards expectedSha256 maxBytes) ht
            fun y u _ hu => ?_
          cases y with
          | ok _ => exact robust_downloadIntoNewStage hu hdiscards remote
          | error e => exact of_pure fun v _ => OnOk.ok fun hkind => absurd rfl hkind
      | _ => exact hfailed

end Download

theorem robust_stageTransferSource (hd : d.Sound sha256) (maxBytes : ℕ) (source : SourceSide) :
    CallRobust sha256 blake3 umask call (OnOk fun _ _ => True)
      (stageTransferSource sha256 blake3 call.operationId maxBytes source) d := by
  refine attempt_bind OnOk.error (robust_beginStage hd maxBytes) hd fun x t hx ht => ?_
  cases x with
  | ok writer =>
      obtain ⟨hwriter, hwriting⟩ := hx writer rfl
      refine attempt_bind OnOk.error (robust_writeAll source.buffers hwriting) ht
        fun y u hy hu => ?_
      cases y with
      | error e => exact of_fail OnOk.error
      | ok writer' =>
          obtain ⟨hwriter', -⟩ := hy writer' rfl
          cases source.failure with
          | some error => exact of_fail OnOk.error
          | none =>
              refine seq OnOk.error (robust_finishStage hu (hwriter'.trans hwriter) _ _ maxBytes)
                fun stage v _ => lift_bind OnOk.error fun current _ => ?_
              exact reject_bind OnOk.error fun _ => of_pure fun _ _ => OnOk.ok trivial
  | error e =>
      have hfailed : ∀ e, CallRobust sha256 blake3 umask call (OnOk fun _ _ => True)
          (fail e : Proc TransferStageRef) t := fun e => of_fail OnOk.error
      cases e with
      | stageAlreadyExists =>
          refine lift_bind OnOk.error fun snapshot _ => ?_
          refine seq OnOk.error (robust_loadStage ht _ _ maxBytes) fun stage u _ => ?_
          refine lift_bind OnOk.error fun current _ => ?_
          exact reject_bind OnOk.error fun _ => of_pure fun _ _ => OnOk.ok trivial
      | _ => exact hfailed _

/-- What a call comes to. -/
def Call.Ends (sha256 : Sha256) (blake3 : Blake3) : Call → Outcome → Disk → Prop
  | .download operationId expectedSha256 expectedByteLen _ _, .downloaded stage, d =>
      StageEnds sha256 blake3 operationId expectedSha256 expectedByteLen stage d
  | _, .published base, d => Based d base
  | _, _, _ => True

theorem robust_process (hd : d.Sound sha256) :
    CallRobust sha256 blake3 umask call (OnOk (call.Ends sha256 blake3))
      (call.process sha256 blake3) d := by
  cases call with
  | download operationId expectedSha256 expectedByteLen maxBytes remote =>
      have hstage : CallRobust sha256 blake3 umask
          (.download operationId expectedSha256 expectedByteLen maxBytes remote)
          (OnOk (StageEnds sha256 blake3 operationId expectedSha256 expectedByteLen))
          (downloadStage sha256 blake3 operationId expectedSha256 expectedByteLen maxBytes
            remote) d := robust_downloadStage hd rfl remote
      refine hstage.map fun x t hx => ?_
      cases x with
      | error e => exact OnOk.error e t
      | ok stage => exact OnOk.ok (hx stage rfl)
  | stageSource operationId maxBytes source =>
      have hstage : CallRobust sha256 blake3 umask (.stageSource operationId maxBytes source)
          (OnOk fun _ _ => True)
          (stageTransferSource sha256 blake3 operationId maxBytes source) d :=
        robust_stageTransferSource hd maxBytes source
      refine hstage.map fun x t _ => ?_
      cases x with
      | error e => exact OnOk.error e t
      | ok stage => exact OnOk.ok trivial
  | load operationId expectedSha256 expectedByteLen maxBytes =>
      have hstage : CallRobust sha256 blake3 umask
          (.load operationId expectedSha256 expectedByteLen maxBytes)
          (OnOk fun stage t => Rely sha256 operationId d t ∧
            Loaded sha256 blake3 operationId expectedSha256 expectedByteLen stage t)
          (loadStage sha256 blake3 operationId expectedSha256 expectedByteLen maxBytes) d :=
        robust_loadStage hd expectedSha256 expectedByteLen maxBytes
      refine hstage.map fun x t _ => ?_
      cases x with
      | error e => exact OnOk.error e t
      | ok stage => exact OnOk.ok trivial
  | discard operationId expectedSha256 expectedByteLen maxBytes =>
      have hdiscarded : CallRobust sha256 blake3 umask
          (.discard operationId expectedSha256 expectedByteLen maxBytes)
          (OnOk fun _ t => t.stage operationId = none)
          (discardIncompleteStage sha256 blake3 operationId expectedSha256 expectedByteLen
            maxBytes) d := robust_discardIncompleteStage hd rfl expectedSha256 maxBytes
      refine hdiscarded.map fun x t _ => ?_
      cases x with
      | error e => exact OnOk.error e t
      | ok _ => exact OnOk.ok trivial
  | publish stage maxBytes turns =>
      have hbase : CallRobust sha256 blake3 umask (.publish stage maxBytes turns)
          (OnOk fun base t => Based t base)
          (publishBase sha256 blake3 stage maxBytes turns) d :=
        robust_publishBase rfl rfl hd maxBytes turns
      refine hbase.map fun x t hx => ?_
      cases x with
      | error e => exact OnOk.error e t
      | ok base => exact OnOk.ok (hx base rfl)

end PrivateTransferStore
end MyVault
