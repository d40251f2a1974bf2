import MyVault.Saf.Exchanges

/-!
# The client lets go

Whatever happens on the way, once the last request of a call of the client has arrived its
session is gone.  A read and a create are the same in this: both hold one slot, end with a
request that empties it, and abort otherwise.
-/

namespace MyVault
namespace Saf

open Program

variable {android : Android} {sessionId root : String} {turns : ℕ → Turn sessionId}
  {plugin plugin' : Plugin} {bridge bridge' : Bridge}

/-! ## Slots between two requests -/

/-- The slot of the read session, or that of the write session. -/
structure SlotView where
  slot : Plugin → Option (String × String)
  of_slots : ∀ {id root plugin plugin'}, Slots id root plugin plugin' →
    ∀ pair ∈ slot plugin', pair = (id, root) ∨ pair ∈ slot plugin
  change_eq : ∀ {sessionId} (android : Android) plugin children content permitted input,
    slot ((Disturbance.change children content permitted input :
      Disturbance sessionId).apply android plugin) = slot plugin

/-- The read session of a plugin. -/
def readView : SlotView where
  slot := readSlot
  of_slots h := h.1
  change_eq _ plugin _ _ _ _ := by
    rw [readSlot, readSlot, Disturbance.apply, Option.map_map]
    rfl

/-- The write session of a plugin. -/
def writeView : SlotView where
  slot := writeSlot
  of_slots h := h.2
  change_eq _ _ _ _ _ _ := rfl

namespace SlotView

variable (view : SlotView)

/-- The session has not got the slot. -/
def Free (sessionId : String) (plugin : Plugin) : Prop :=
  ∀ pair ∈ view.slot plugin, pair.1 ≠ sessionId

/-- If the session has got the slot, then for this root. -/
def Own (sessionId root : String) (plugin : Plugin) : Prop :=
  ∀ pair ∈ view.slot plugin, pair.1 = sessionId → pair = (sessionId, root)

variable {view}

theorem Free.own (h : view.Free sessionId plugin) : view.Own sessionId root plugin :=
  fun pair hpair hid => absurd hid (h pair hpair)

theorem Own.free (h : view.Own sessionId root plugin)
    (hslot : view.slot plugin ≠ some (sessionId, root)) : view.Free sessionId plugin :=
  fun pair hpair hid => hslot (h pair hpair hid ▸ hpair)

theorem free_of_none (h : view.slot plugin = none) : view.Free sessionId plugin := by
  intro pair hpair
  rw [h] at hpair
  exact nomatch hpair

theorem Own.slots (h : view.Own sessionId root plugin)
    (hslots : Slots sessionId root plugin plugin') : view.Own sessionId root plugin' := by
  intro pair hpair hid
  rcases view.of_slots hslots pair hpair with hnew | hold
  · exact hnew
  · exact h pair hold hid

theorem apply_cases (disturbance : Disturbance sessionId) (plugin : Plugin)
    {pair : String × String} (hpair : pair ∈ view.slot (disturbance.apply android plugin)) :
    pair.1 ≠ sessionId ∨ pair ∈ view.slot plugin := by
  cases disturbance with
  | request asked other =>
      refine (view.of_slots (slots_run asked plugin) pair hpair).imp_left ?_
      rintro rfl
      exact other
  | change children content permitted input =>
      rw [view.change_eq] at hpair
      exact Or.inr hpair

theorem Free.disturb {disturbances : List (Disturbance sessionId)}
    (h : view.Free sessionId plugin) :
    view.Free sessionId (disturbances.foldl (Disturbance.apply android) plugin) := by
  induction disturbances generalizing plugin with
  | nil => exact h
  | cons disturbance rest ih =>
      refine ih fun pair hpair => ?_
      exact (apply_cases disturbance plugin hpair).elim (fun hne => hne) (h pair)

theorem Own.disturb {disturbances : List (Disturbance sessionId)}
    (h : view.Own sessionId root plugin) :
    view.Own sessionId root (disturbances.foldl (Disturbance.apply android) plugin) := by
  induction disturbances generalizing plugin with
  | nil => exact h
  | cons disturbance rest ih =>
      refine ih fun pair hpair hid => ?_
      rcases apply_cases disturbance plugin hpair with hother | hold
      · exact absurd hid hother
      · exact h pair hold hid

end SlotView

/-! ## One request -/

/-- The plugin as the next request finds it. -/
def arriving (android : Android) (turns : ℕ → Turn sessionId) (bridge : Bridge) : Plugin :=
  (turns bridge.requests).before.foldl (Disturbance.apply android) bridge.plugin

theorem exec_runMobilePlugin {α : Type} (command : Answered α) :
    exec (runMobilePlugin android turns command) bridge =
      match (turns bridge.requests).delivery with
      | .requestLost =>
        (.error .nativeBridge, ⟨arriving android turns bridge, bridge.requests + 1⟩)
      | .answerLost =>
        (.error .nativeBridge,
          ⟨(exec command (arriving android turns bridge)).2, bridge.requests + 1⟩)
      | .delivered =>
        ((exec command (arriving android turns bridge)).1.mapError Rejection.transferError,
          ⟨(exec command (arriving android turns bridge)).2, bridge.requests + 1⟩) := by
  rw [runMobilePlugin, exec_bind, exec_read]
  dsimp only [id_eq]
  cases (turns bridge.requests).delivery <;> rfl

/-- A request that is answered. -/
theorem runMobilePlugin_ok {α : Type} {command : Answered α} {a : α}
    (h : exec (runMobilePlugin android turns command) bridge = (.ok a, bridge')) :
    (turns bridge.requests).delivery = .delivered ∧ bridge'.requests = bridge.requests + 1 ∧
      exec command (arriving android turns bridge) = (.ok a, bridge'.plugin) := by
  rw [exec_runMobilePlugin] at h
  split at h
  · exact nomatch (Prod.mk.inj h).1
  · exact nomatch (Prod.mk.inj h).1
  · rename_i hdelivery
    obtain ⟨hanswer, rfl⟩ := Prod.mk.inj h
    refine ⟨hdelivery, rfl, ?_⟩
    cases hrun : exec command (arriving android turns bridge) with
    | mk x t =>
        rw [hrun] at hanswer
        cases x with
        | ok b =>
            cases hanswer
            rfl
        | error e => exact nomatch hanswer

/-- Whatever comes of a request, it arrives or is lost. -/
theorem runMobilePlugin_cases {α : Type} {command : Answered α} {x : Except SafTransferError α}
    (h : exec (runMobilePlugin android turns command) bridge = (x, bridge')) :
    bridge'.requests = bridge.requests + 1 ∧
      ((turns bridge.requests).delivery = .requestLost ∧
          bridge'.plugin = arriving android turns bridge ∨
        bridge'.plugin = (exec command (arriving android turns bridge)).2) := by
  rw [exec_runMobilePlugin] at h
  split at h
  · rename_i hlost
    obtain ⟨rfl, rfl⟩ := Prod.mk.inj h
    exact ⟨rfl, Or.inl ⟨hlost, rfl⟩⟩
  · obtain ⟨rfl, rfl⟩ := Prod.mk.inj h
    exact ⟨rfl, Or.inr rfl⟩
  · obtain ⟨rfl, rfl⟩ := Prod.mk.inj h
    exact ⟨rfl, Or.inr rfl⟩

/-- A part of the client leaves the slot to the session and its root. -/
def OwnKept (view : SlotView) (sessionId root : String) (bridge bridge' : Bridge) : Prop :=
  view.Own sessionId root bridge.plugin → view.Own sessionId root bridge'.plugin

section OwnKept

variable {view : SlotView}

instance : Std.Refl (OwnKept view sessionId root) := ⟨fun _ h => h⟩

instance : IsTrans Bridge (OwnKept view sessionId root) := ⟨fun _ _ _ h h' hown => h' (h hown)⟩

theorem keeps_own_runMobilePlugin {α : Type} {command : Answered α}
    (h : Keeps (Slots sessionId root) command) :
    Keeps (OwnKept view sessionId root) (runMobilePlugin android turns command) := by
  refine ⟨fun bridge hown => ?_⟩
  have harrive : view.Own sessionId root (arriving android turns bridge) := hown.disturb
  cases hrun : exec (runMobilePlugin android turns command) bridge with
  | mk x after =>
      dsimp only
      obtain ⟨-, ⟨-, hplugin⟩ | hplugin⟩ := runMobilePlugin_cases hrun
      · rw [hplugin]
        exact harrive
      · rw [hplugin]
        exact harrive.slots (h.exec_rel _)

/-- After an abort that has arrived, the session has not got the slot. -/
theorem abortWith_free {α : Type} {command : Answered Outcome} {error : SafTransferError}
    {x : Except SafTransferError α} (hkeeps : Keeps (Slots sessionId root) command)
    (hclose : ∀ plugin, view.slot (exec command plugin).2 ≠ some (sessionId, root))
    (hown : view.Own sessionId root bridge.plugin)
    (h : exec (abortWith android turns command error : Client α) bridge = (x, bridge'))
    (hlast : ∀ n, bridge'.requests = n + 1 → (turns n).delivery ≠ .requestLost) :
    view.Free sessionId bridge'.plugin := by
  rw [abortWith, attempt] at h
  obtain ⟨y, after, habort, h⟩ : ∃ y after,
      exec (runMobilePlugin android turns command) bridge = (y, after) ∧
        exec (throw error : Client α) after = (x, bridge') := by
    rw [exec_bind, exec_catching] at h
    exact ⟨_, _, rfl, h⟩
  obtain ⟨-, rfl⟩ := Prod.mk.inj h
  obtain ⟨hrequests, hplugin⟩ := runMobilePlugin_cases habort
  have hrun : after.plugin = (exec command (arriving android turns bridge)).2 := by
    rcases hplugin with ⟨hlost, -⟩ | hplugin
    · exact absurd hlost (hlast _ hrequests)
    · exact hplugin
  have harrive : view.Own sessionId root (arriving android turns bridge) := hown.disturb
  rw [hrun]
  exact (harrive.slots (hkeeps.exec_rel _)).free (hclose _)

end OwnKept

/-! ## A read -/

theorem keeps_own_readLoop {maxBytes : ℕ} {bytes : List UInt8} :
    Keeps (OwnKept readView sessionId root) (readLoop android turns root maxBytes bytes) := by
  induction bytes using readLoop.induct maxBytes with
  | case1 bytes ih =>
      rw [readLoop]
      refine .bind_of (keeps_own_runMobilePlugin
        (@keeps_slots_readBinaryChunk _ ⟨root, sessionId, _⟩)) fun response =>
        .bind_of inferInstance fun bytes' => ?_
      split
      · infer_instance
      · split
        · rename_i hmore
          exact ih bytes' hmore
        · infer_instance

/-- The last chunk closes the session. -/
theorem readLoop_closes {maxBytes : ℕ} {bytes : List UInt8} {binary : SafBinary}
    (h : exec (readLoop android turns root maxBytes bytes) bridge = (.ok binary, bridge')) :
    bridge'.plugin.binaryReadSession = none := by
  induction bytes using readLoop.induct maxBytes generalizing bridge with
  | case1 bytes ih =>
      rw [readLoop] at h
      obtain ⟨response, after, hrequest, h⟩ := exec_bind_ok.mp h
      obtain ⟨bytes', _, haccept, h⟩ := exec_bind_ok.mp h
      obtain ⟨-, rfl⟩ := exec_lift_ok.mp haccept
      split at h
      · rename_i heof
        obtain ⟨-, rfl⟩ := exec_lift_ok.mp h
        obtain ⟨-, -, hrun⟩ := runMobilePlugin_ok hrequest
        obtain ⟨session, chunk, -, -, -, hgoes | hends⟩ := readBinaryChunk_ok hrun
        · rw [hgoes.response_eq] at heof
          exact nomatch heof
        · obtain ⟨n, hclosed⟩ := hends.closed
          rw [hclosed]
      · split at h
        · rename_i hmore
          exact ih bytes' hmore h
        · exact nomatch h

theorem abortReadWith_free {α : Type} {error : SafTransferError} {x : Except SafTransferError α}
    (hown : readView.Own sessionId root bridge.plugin)
    (h : exec (abortReadWith android turns root error : Client α) bridge = (x, bridge'))
    (hlast : ∀ n, bridge'.requests = n + 1 → (turns n).delivery ≠ .requestLost) :
    readView.Free sessionId bridge'.plugin :=
  abortWith_free (keeps_loses_abortBinaryRead.mono fun _ _ => Loses.slots)
    (fun plugin => @readSlot_abortBinaryRead plugin ⟨root, sessionId⟩) hown h hlast

/-- A call of `read_binary` whose last request has arrived does not leave its session open. -/
theorem readBinary_free {path : Text} {maxBytes : ℕ} {x : Except SafTransferError SafBinary}
    (hfree : readView.Free sessionId bridge.plugin)
    (h : exec (readBinary android turns root path maxBytes) bridge = (x, bridge'))
    (hlast : ∀ n, bridge'.requests = n + 1 → (turns n).delivery ≠ .requestLost) :
    readView.Free sessionId bridge'.plugin := by
  rw [readBinary] at h
  split at h
  · cases h
    exact hfree
  · split at h
    · cases h
      exact hfree
    · rw [attempt, exec_bind, exec_catching] at h
      cases hbegin : exec (runMobilePlugin android turns
        (beginBinaryRead android { expectedRootIdentityHex := root, path, sessionId })) bridge with
      | mk begun opened =>
          have hown : readView.Own sessionId root opened.plugin :=
            (keeps_own_runMobilePlugin (@keeps_slots_beginBinaryRead _
              ⟨root, path, sessionId⟩)).of_exec
              hbegin hfree.own
          rw [hbegin] at h
          cases begun with
          | error error => exact abortReadWith_free hown h hlast
          | ok begun =>
              dsimp only at h
              obtain ⟨-, -, hrun⟩ := runMobilePlugin_ok hbegin
              split at h
              · exact abortReadWith_free hown h hlast
              · -- a refused begin has opened nothing
                rename_i hdecision
                obtain ⟨-, rfl⟩ := Prod.mk.inj h
                rcases beginBinaryRead_ok hrun with ⟨-, rfl, -⟩ | ⟨-, hloses⟩
                · rw [classifyNativeBeginResponse, if_pos ⟨rfl, rfl⟩] at hdecision
                  exact nomatch hdecision
                · exact fun pair hpair => hfree.disturb pair (hloses.readSlot hpair)
              · rw [attempt, exec_bind, exec_catching] at h
                cases hloop : exec (readLoop android turns root maxBytes []) opened with
                | mk y after =>
                    rw [hloop] at h
                    cases y with
                    | error error =>
                        exact abortReadWith_free (keeps_own_readLoop.of_exec hloop hown) h hlast
                    | ok binary =>
                        cases h
                        have hnone : readSlot after.plugin = none := by
                          rw [readSlot, readLoop_closes hloop, Option.map_none]
                        exact SlotView.free_of_none hnone

/-! ## A create -/

theorem keeps_own_writeLoop {offset : ℕ} {bytes : List UInt8} :
    Keeps (OwnKept writeView sessionId root) (writeLoop android turns root offset bytes) := by
  induction offset, bytes using writeLoop.induct with
  | case1 offset =>
      rw [writeLoop]
      infer_instance
  | case2 offset byte rest chunk ih =>
      have hrequest : Keeps (OwnKept writeView sessionId root) (runMobilePlugin android turns
          (appendBinaryChunk android ⟨root, sessionId, encodeBase64 chunk, (offset : ℤ)⟩)) :=
        keeps_own_runMobilePlugin (@keeps_slots_appendBinaryChunk _ ⟨root, sessionId, _, _⟩)
      rw [writeLoop]
      exact .bind_of inferInstance fun response => .bind_of inferInstance fun _ => ih

theorem keeps_own_writeAndFinish {bytes : List UInt8} {sha256Hex : String} :
    Keeps (OwnKept writeView sessionId root)
      (writeAndFinish android turns root bytes sha256Hex) := by
  have hfinish : Keeps Loses (finishBinaryCreate android ⟨root, sessionId⟩) :=
    keeps_loses_finishBinaryCreate
  have hrequest : Keeps (OwnKept writeView sessionId root)
      (runMobilePlugin android turns (finishBinaryCreate android ⟨root, sessionId⟩)) :=
    keeps_own_runMobilePlugin inferInstance
  rw [writeAndFinish]
  exact .bind_of keeps_own_writeLoop fun _ => .bind_of inferInstance fun response => inferInstance

theorem acceptSave_ok {bytes : List UInt8} {sha256Hex : String} {response : Outcome}
    {save : SafSave} (h : acceptSave bytes sha256Hex response = .ok save) :
    response.outcome = .saved ∧ save = { revisionHex := sha256Hex, byteLen := bytes.length } := by
  rw [acceptSave] at h
  split at h
  · rename_i hsaved
    split at h
    · rename_i revisionHex byteLen hrevision hlen
      rw [Option.filter_eq_some_iff, Bool.and_eq_true, beq_iff_eq] at hrevision
      rw [Option.filter_eq_some_iff, beq_iff_eq] at hlen
      cases h
      rw [hrevision.2.2, hlen.2]
      exact ⟨hsaved, rfl⟩
    · exact nomatch h
  · exact nomatch h

/-- The end closes the session. -/
theorem writeAndFinish_closes {bytes : List UInt8} {sha256Hex : String} {save : SafSave}
    (h : exec (writeAndFinish android turns root bytes sha256Hex) bridge = (.ok save, bridge')) :
    bridge'.plugin.binaryWriteSession = none := by
  rw [writeAndFinish] at h
  obtain ⟨_, written, -, h⟩ := exec_bind_ok.mp h
  obtain ⟨response, after, hfinish, h⟩ := exec_bind_ok.mp h
  obtain ⟨haccept, rfl⟩ := exec_lift_ok.mp h
  obtain ⟨-, -, hrun⟩ := runMobilePlugin_ok (exec_mapError_ok.mp hfinish)
  obtain ⟨session, n, -, hclosed, -⟩ := finishBinaryCreate_saved hrun (acceptSave_ok haccept).1
  rw [hclosed]

theorem abortCreateWith_free {α : Type} {error : SafTransferError}
    {x : Except SafTransferError α} (hown : writeView.Own sessionId root bridge.plugin)
    (h : exec (abortCreateWith android turns root error : Client α) bridge = (x, bridge'))
    (hlast : ∀ n, bridge'.requests = n + 1 → (turns n).delivery ≠ .requestLost) :
    writeView.Free sessionId bridge'.plugin :=
  abortWith_free (keeps_loses_abortBinaryCreate.mono fun _ _ => Loses.slots)
    (fun plugin => @writeSlot_abortBinaryCreate plugin ⟨root, sessionId⟩) hown h hlast

/-- A call of `write_binary` whose last request has arrived does not leave its session open. -/
theorem writeBinary_free {path : Text} {bytes : List UInt8} {sha256Hex : String}
    {x : Except SafTransferError SafSave} (hfree : writeView.Free sessionId bridge.plugin)
    (h : exec (writeBinary android turns root path bytes sha256Hex) bridge = (x, bridge'))
    (hlast : ∀ n, bridge'.requests = n + 1 → (turns n).delivery ≠ .requestLost) :
    writeView.Free sessionId bridge'.plugin := by
  rw [writeBinary] at h
  split at h
  · cases h
    exact hfree
  · split at h
    · cases h
      exact hfree
    · rw [attempt, exec_bind, exec_catching] at h
      cases hbegin : exec (runMobilePlugin android turns (beginBinaryCreate android
        { expectedRootIdentityHex := root, path, sha256Hex, sessionId
          byteLen := (bytes.length : ℤ) })) bridge with
      | mk begun opened =>
          have hown : writeView.Own sessionId root opened.plugin :=
            (keeps_own_runMobilePlugin
              (@keeps_slots_beginBinaryCreate _ ⟨root, path, sha256Hex, sessionId, _⟩)).of_exec
              hbegin hfree.own
          rw [hbegin] at h
          cases begun with
          | error error => exact abortCreateWith_free hown h hlast
          | ok begun =>
              dsimp only at h
              obtain ⟨-, -, hrun⟩ := runMobilePlugin_ok hbegin
              split at h
              · exact abortCreateWith_free hown h hlast
              · rename_i hdecision
                obtain ⟨-, rfl⟩ := Prod.mk.inj h
                rcases beginBinaryCreate_ok hrun with ⟨rfl, -⟩ | ⟨-, hloses⟩
                · rw [classifyNativeBeginResponse, if_pos ⟨rfl, rfl⟩] at hdecision
                  exact nomatch hdecision
                · exact fun pair hpair => hfree.disturb pair (hloses.writeSlot hpair)
              · rw [attempt, exec_bind, exec_catching] at h
                cases hloop : exec (writeAndFinish android turns root bytes sha256Hex) opened with
                | mk y after =>
                    rw [hloop] at h
                    cases y with
                    | error error =>
                        exact abortCreateWith_free (keeps_own_writeAndFinish.of_exec hloop hown) h
                          hlast
                    | ok save =>
                        cases h
                        have hnone : writeSlot after.plugin = none := by
                          rw [writeSlot, writeAndFinish_closes hloop, Option.map_none]
                        exact SlotView.free_of_none hnone

end Saf
end MyVault
