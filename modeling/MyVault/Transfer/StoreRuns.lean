import MyVault.Transfer.RobustCalls

/-!
# Runs of the transfer store

Calls of any operations run side by side, one at a time for an operation, and each of them
may fail at every step or be cut off anywhere.

* `objects_outlive_stages`: an object holds bytes of its digest and is never changed, and a
  stage is only removed where its bytes are an object or were too few.
* `published_base_opens`: a base that was published can be opened from then on.
* `retried_download_resumes`: a download whose failure lets it be tried again by itself has
  left nothing that the next attempt would refuse.

## How the argument goes

`Kept` is the invariant of the runs: the disk is sound, and every call that is running is robust,
that is, it ends as its contract says whatever the calls of other operations do between its turns.
What these may do is said once, as a relation between two disks (`Rely`), and the steps a call may
take itself by `Allowed`, which implies it for the others.

`Kept.step` is the step lemma: a call that begins, takes a turn, fails at it, or is cut off.  That
the pool of the calls keeps such an invariant is a rule of the library; what is proved here is
that every call of the store is robust when it begins, and what follows over runs.
-/

namespace MyVault
namespace PrivateTransferStore

open Process Check Transfer Vault.Stepwise Runs

/-- The store, and the calls that run, by their operations. -/
abbrev StoreWorld := Pool Uuid Call Step (Except IoKind Unit) Disk NativeTransferError Outcome

/-- What may happen to the store, in any order. -/
inductive StoreEvent where
  /-- A call begins, if its operation has none. -/
  | begins (call : Call)
  /-- The next look or step of the call of an operation. -/
  | turn (operationId : Uuid)
  /-- It fails, and has done nothing. -/
  | fault (operationId : Uuid)
  /-- The call is over, or cut off: what it has left on the disk stays. -/
  | cut (operationId : Uuid)

section Runs

variable (sha256 : Sha256) (blake3 : Blake3) (umask : ℕ)

/-- The event in the pool of the calls. -/
def StoreEvent.toEvent : StoreEvent →
    Pool.Event Uuid Call Step (Except IoKind Unit) Disk NativeTransferError Outcome
  | .begins call => .start call.operationId call (call.process sha256 blake3)
  | .turn operationId => .turn operationId
  | .fault operationId => .fault operationId
  | .cut operationId => .drop operationId

/-- The store and its calls after an event. -/
def storeStep (w : StoreWorld) (event : StoreEvent) : StoreWorld :=
  w.step (Step.run umask) (.error .other) .privateStoreUnavailable (event.toEvent sha256 blake3)

/-- An empty store, and no call. -/
def StoreWorld.initial : StoreWorld := ⟨.empty, fun _ => none⟩

/-- What there is after these events. -/
def storeAfter (events : List StoreEvent) : StoreWorld :=
  run (storeStep sha256 blake3 umask) .initial events

/-- All calls are robust, on a store that is sound. -/
structure Kept (w : StoreWorld) : Prop where
  sound : w.state.Sound sha256
  robust : w.Sound (Step.run umask) (.error .other) .privateStoreUnavailable (Rely sha256)
    (fun _ call => Allowed sha256 blake3 call) fun _ call => OnOk (call.Ends sha256 blake3)
  named : ∀ operationId call p, w.running operationId = some (call, p) →
    call.operationId = operationId

end Runs

variable {sha256 : Sha256} {blake3 : Blake3} {umask : ℕ} {w : StoreWorld} {event : StoreEvent}
  {events : List StoreEvent}

theorem kept_initial : Kept sha256 blake3 umask .initial where
  sound := by
    refine ⟨?_, ?_, ?_, ?_⟩
    · intro _ _ _ h
      cases h
    · intro _ _ _ h
      cases h
    · intro _ _ h
      cases h
    · intro _ _ h
      cases h
  robust := by
    intro _ _ _ h
    cases h
  named := by
    intro _ _ _ h
    cases h

/-- What an event does to the store. -/
theorem Kept.state_step (h : Kept sha256 blake3 umask w) (event : StoreEvent) :
    (storeStep sha256 blake3 umask w event).state = w.state ∨
      ∃ call p st, event = .turn call.operationId ∧
        w.running call.operationId = some (call, p) ∧ Allowed sha256 blake3 call st w.state ∧
        (storeStep sha256 blake3 umask w event).state = (st.run umask w.state).2 := by
  rcases h.robust.state_step (fun _ => interference_rely) (event.toEvent sha256 blake3) with
    hsame | ⟨operationId, call, p, st, hevent, hrunning, hallowed, hstate⟩
  · exact .inl hsame
  · have hname := h.named operationId call p hrunning
    subst hname
    refine .inr ⟨call, p, st, ?_, hrunning, hallowed, hstate⟩
    cases event <;> cases hevent
    rfl

theorem Kept.since (h : Kept sha256 blake3 umask w) (event : StoreEvent) :
    Since sha256 w.state (storeStep sha256 blake3 umask w event).state := by
  rcases h.state_step event with hsame | ⟨call, p, st, -, -, hallowed, hstate⟩
  · rw [hsame]
    exact .refl _
  · rw [hstate]
    exact hallowed.since h.sound umask

theorem Kept.step (h : Kept sha256 blake3 umask w) (event : StoreEvent) :
    Kept sha256 blake3 umask (storeStep sha256 blake3 umask w event) where
  sound := (h.since event).sound h.sound
  robust := by
    refine h.robust.step (fun _ => interference_rely) ?_ _ ?_
    · intro operationId other call p st hne hrunning hallowed
      exact hallowed.rely h.sound umask ((h.named _ _ _ hrunning).symm ▸ hne)
    · intro operationId call p hevent
      cases event with
      | begins begun =>
          cases hevent
          exact robust_process h.sound
      | turn _ => cases hevent
      | fault _ => cases hevent
      | cut _ => cases hevent
  named := by
    intro operationId call p hrunning
    rcases Pool.running_step hrunning with ⟨q, hbefore⟩ | hevent
    · exact h.named operationId call q hbefore
    · cases event with
      | begins begun =>
          cases hevent
          rfl
      | turn _ => cases hevent
      | fault _ => cases hevent
      | cut _ => cases hevent

/-- **What every run keeps.** -/
theorem Kept.run (h : Kept sha256 blake3 umask w) (events : List StoreEvent) :
    Kept sha256 blake3 umask (run (storeStep sha256 blake3 umask) w events) ∧
      Since sha256 w.state (run (storeStep sha256 blake3 umask) w events).state := by
  induction events generalizing w with
  | nil => exact ⟨h, .refl _⟩
  | cons event events ih =>
      obtain ⟨hkept, hsince⟩ := ih (h.step event)
      exact ⟨hkept, (h.since event).trans hsince⟩

theorem kept_storeAfter (events : List StoreEvent) :
    Kept sha256 blake3 umask (storeAfter sha256 blake3 umask events) :=
  (kept_initial.run events).1

/-- A stage that is not there any more was removed by a call of its operation. -/
theorem Kept.removes (h : Kept sha256 blake3 umask w) {operationId : Uuid} {handle : ℕ}
    {node : FileNode} (hstage : w.state.HasStage operationId handle node)
    (hgone : (storeStep sha256 blake3 umask w event).state.stage operationId ≠ some handle) :
    (storeStep sha256 blake3 umask w event).state.stage operationId = none ∧
      event = .turn operationId ∧ ∃ call p, w.running operationId = some (call, p) ∧
        Removable sha256 blake3 call w.state handle node := by
  rcases h.state_step event with hsame | ⟨call, p, st, hevent, hrunning, hallowed, hstate⟩
  · exact absurd (hsame ▸ hstage.stage) hgone
  rw [hstate] at hgone ⊢
  by_cases hname : call.operationId = operationId
  · subst hname
    rcases hallowed.cases umask with hsame | ⟨hnone, -⟩ | ⟨_, f, -, hchange⟩ |
      ⟨digest, _, _, -, -, -, -, -, hchange⟩ | ⟨handle', hstage', hremove, hchange⟩
    · rw [hsame] at hgone
      exact absurd hstage.stage hgone
    · exact absurd (hnone.symm.trans hstage.stage) (by simp)
    · rw [hchange] at hgone
      exact absurd hstage.stage hgone
    · rw [hchange] at hgone
      exact absurd hstage.stage hgone
    · cases Option.some.inj (hstage'.symm.trans hstage.stage)
      refine ⟨?_, hevent, call, p, hrunning, hremove node hstage⟩
      rw [hchange, Disk.stage_withoutStage, if_pos rfl]
  · exact absurd ((hallowed.rely h.sound umask hname).own_node hstage).stage hgone

/-- **Objects outlive their stages.**  After every run an object holds bytes of its digest,
and whatever happens next it stays the file that it is.  A stage disappears in a step of a
call of its own operation only: of one that publishes it, when there is an object with the
digest and the length of its bytes, or of one that discards it, being shorter than expected
and no object. -/
theorem objects_outlive_stages (sha256 : Sha256) (blake3 : Blake3) (umask : ℕ)
    (events more : List StoreEvent) :
    (∀ digest handle, (storeAfter sha256 blake3 umask events).state.object digest = some handle →
      ∃ node, node.isPrivate = true ∧ hexSha256 sha256 node.bytes = digest ∧
        (storeAfter sha256 blake3 umask (events ++ more)).state.HasObject digest handle node) ∧
    ∀ event operationId handle node,
      (storeAfter sha256 blake3 umask events).state.HasStage operationId handle node →
      (storeAfter sha256 blake3 umask (events ++ [event])).state.stage operationId ≠ some handle →
      (storeAfter sha256 blake3 umask (events ++ [event])).state.stage operationId = none ∧
        event = .turn operationId ∧ ∃ call p,
          (storeAfter sha256 blake3 umask events).running operationId = some (call, p) ∧
          Removable sha256 blake3 call (storeAfter sha256 blake3 umask events).state handle
            node := by
  have hkept : Kept sha256 blake3 umask (storeAfter sha256 blake3 umask events) :=
    kept_storeAfter events
  constructor
  · intro digest handle hobject
    obtain ⟨node, hnode, hprivate, hdigest⟩ := hkept.sound.object digest handle hobject
    refine ⟨node, hprivate, hdigest, ?_⟩
    rw [storeAfter, run_append]
    exact (hkept.run more).2.objects ⟨hobject, hnode⟩
  · intro event operationId handle node hstage
    rw [storeAfter, run_concat]
    exact fun hgone => hkept.removes hstage hgone

theorem Based.openBase {d : Disk} {base : TransferBaseRef} (hd : d.Sound sha256)
    (h : Based d base) : ∃ handle node, d.HasObject base.sha256 handle node ∧
      ∀ maxBytes, base.byteLen ≤ maxBytes →
        openBase sha256 blake3 d base maxBytes = .ok node.bytes := by
  obtain ⟨handle, node, hobject, hlength, hunstaged⟩ := h
  refine ⟨handle, node, hobject, fun maxBytes hmax => ?_⟩
  obtain ⟨found, hfound, hprivate, hdigest⟩ := hd.object _ _ hobject.object
  cases Option.some.inj (hfound.symm.trans hobject.node)
  have hlinks := hd.links_of_unstaged hobject.object hunstaged
  have hverify : verifyPrivateFile d handle 1 = .ok () :=
    verifyPrivateFile_eq_ok.mpr ⟨⟨_, hfound, hprivate⟩, hlinks.ge, hlinks.le⟩
  have hsnapshot : fileSnapshot sha256 blake3 d handle maxBytes =
      .ok (.of sha256 blake3 node.bytes) :=
    fileSnapshot_eq_ok.mpr ⟨_, hfound, hlength.trans_le hmax, rfl⟩
  have hexact : ¬ ((ContentSnapshot.of sha256 blake3 node.bytes).sha256 ≠ base.sha256 ∨
      (ContentSnapshot.of sha256 blake3 node.bytes).revision.byteLen ≠ base.byteLen) := by
    rw [not_or, not_not, not_not]
    exact ⟨hdigest, hlength⟩
  rw [PrivateTransferStore.openBase, named_eq_ok.mpr hobject.object, ok_bind, hverify, ok_bind,
    hsnapshot, ok_bind, reject_eq_ok.mpr hexact, ok_bind, held_eq_ok.mpr hfound, ok_bind]
  rfl

/-- **A base that was published can be opened from then on**, and always has the same bytes,
of its digest and its length. -/
theorem published_base_opens (sha256 : Sha256) (blake3 : Blake3) (umask : ℕ)
    (events : List StoreEvent) (operationId : Uuid) (call : Call) (base : TransferBaseRef)
    (hpublished : (storeAfter sha256 blake3 umask events).running operationId =
      some (call, .done (.ok (.published base)))) :
    ∃ bytes, hexSha256 sha256 bytes = base.sha256 ∧ bytes.length = base.byteLen ∧
      ∀ more maxBytes, base.byteLen ≤ maxBytes →
        openBase sha256 blake3 (storeAfter sha256 blake3 umask (events ++ more)).state base
          maxBytes = .ok bytes := by
  have hkept : Kept sha256 blake3 umask (storeAfter sha256 blake3 umask events) :=
    kept_storeAfter events
  have hbased : Based (storeAfter sha256 blake3 umask events).state base := by
    have hends := (hkept.robust _ _ _ hpublished).of_done interference_rely _ rfl
    cases call <;> exact hends
  obtain ⟨handle, node, hobject, hlength, -⟩ := id hbased
  obtain ⟨found, hfound, -, hdigest⟩ := hkept.sound.object _ _ hobject.object
  cases Option.some.inj (hfound.symm.trans hobject.node)
  refine ⟨node.bytes, hdigest, hlength, fun more maxBytes hmax => ?_⟩
  obtain ⟨hkept', hsince⟩ := hkept.run more
  rw [storeAfter, run_append]
  obtain ⟨handle', node', hobject', hopens⟩ :=
    (hbased.since hkept.sound hsince).openBase hkept'.sound
  have hthere := hsince.objects hobject
  cases Option.some.inj (hobject'.object.symm.trans hthere.object)
  cases Option.some.inj (hobject'.node.symm.trans hthere.node)
  exact hopens maxBytes hmax

/-! ### One operation -/

/-- An operation. -/
def onlyOperation : Uuid := List.Vector.replicate 16 1

/-- One byte, and nothing fails. -/
def oneByteDownload : Call :=
  .download onlyOperation (hexSha256 constantDigest [104]) 1 1 ⟨.ok (), [[104]], none⟩

/-- Its stage is published. -/
def oneBytePublish : Call := .publish ⟨onlyOperation, .of constantDigest constantDigest [104]⟩ 1 0

theorem one_byte_base_opens :
    ∃ bytes, hexSha256 constantDigest bytes = hexSha256 constantDigest [104] ∧ bytes.length = 1 ∧
      ∀ more maxBytes, 1 ≤ maxBytes →
        openBase constantDigest constantDigest (storeAfter constantDigest constantDigest 0
          (.begins oneByteDownload :: List.replicate 14 (.turn onlyOperation) ++
            .cut onlyOperation :: .begins oneBytePublish ::
            List.replicate 19 (.turn onlyOperation) ++ more)).state
          ⟨hexSha256 constantDigest [104], 1⟩ maxBytes = .ok bytes :=
  published_base_opens constantDigest constantDigest 0 _ onlyOperation oneBytePublish
    ⟨hexSha256 constantDigest [104], 1⟩ rfl

/-- What a download that fails and may be tried again by itself has left of its stage is
nothing, or the evidence. -/
theorem retried_download_resumes {operationId : Uuid} {expectedSha256 : String}
    {expectedByteLen maxBytes : ℕ} {remote : RemoteSide} {failure : ExecutionFailure}
    (hfailed : (storeAfter sha256 blake3 umask events).running operationId =
      some (.download operationId expectedSha256 expectedByteLen maxBytes remote,
        .done (.ok (.downloaded (.error failure)))))
    (hretried : failure.kind ≠ .needsReconcile) :
    Resumable sha256 operationId expectedSha256 expectedByteLen
      (storeAfter sha256 blake3 umask events).state := by
  have hkept : Kept sha256 blake3 umask (storeAfter sha256 blake3 umask events) :=
    kept_storeAfter events
  exact (hkept.robust _ _ _ hfailed).of_done interference_rely _ rfl hretried

end PrivateTransferStore
end MyVault
