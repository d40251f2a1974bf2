import MyVault.Recovery.Calls

/-!
# Calls of the recovery journal that run alone

What `publish` and `complete` do where no other thread runs and no step fails: an intent that
was published is published already, another one of its operation collides, and a fresh record
is written and renamed to its name.
-/

namespace MyVault
namespace Recovery

open Process Check

variable {host : Host} {intents : RenameMoveIntent → Prop} {thread : ℕ} {d : Disk} {area : Area}
  {draw operationId : Uuid} {bytes : List UInt8}

/-! ## Records that are there -/

section Alone

variable {intent : RenameMoveIntent}

theorem safe_publishOver_same : Safe (Step.run host.umask) (fun _ _ => True)
    (fun x t => x = .ok .alreadyPublished ∧ t = d)
    (publishOver thread draw operationId bytes (some bytes)) d := by
  have hsame : comparePublished bytes bytes = .ok .alreadyPublished := if_pos rfl
  rw [publishOver]
  exact Safe.lift_bind hsame ⟨trivial, rfl, rfl⟩

theorem safe_publishOver_other {actual : List UInt8} (hother : actual ≠ bytes) :
    Safe (Step.run host.umask) (fun _ _ => True)
      (fun x t => x = .error .journalCollision ∧ t = d)
      (publishOver thread draw operationId bytes (some actual)) d := by
  have hcollision : comparePublished actual bytes = .error .journalCollision := if_neg hother
  rw [publishOver]
  exact Safe.lift_bind_error hcollision ⟨rfl, rfl⟩

theorem safe_publish (thread : ℕ) (draw : Uuid) {I : Step → Disk → Prop}
    {Q : Except Error PublishOutcome → Disk → Prop} (hd : d.Sound host intents)
    (hpublishable : Publishable host intent) {content : List UInt8}
    (hcontent : utf8Bytes intent.json = content)
    (hholds : d.Holds .journal intent.operationId bytes)
    (hover : Safe (Step.run host.umask) I Q (publishOver thread draw intent.operationId
      content (some bytes)) d) :
    Safe (Step.run host.umask) I Q (publish host thread draw intent) d := by
  rw [publish, hpublishable.valid, hpublishable.canonical, hcontent]
  refine Safe.lift_bind rfl (Safe.lift_bind rfl ?_)
  exact Safe.ask_bind (hholds.readRawIfExists hd) hover

/-- The same intent again, and nothing fails. -/
theorem finish_publish_again (hd : d.Sound host intents) (hpublishable : Publishable host intent)
    (hholds : d.Holds .journal intent.operationId (utf8Bytes intent.json)) :
    (publish host thread draw intent).finish (Step.run host.umask) d =
      (.ok .alreadyPublished, d) := by
  generalize hcontent : utf8Bytes intent.json = content at hholds
  have hends :=
    (safe_publish thread draw hd hpublishable hcontent hholds safe_publishOver_same).finish
  exact Prod.ext hends.1 hends.2

/-- A different intent of the same operation. -/
theorem finish_publish_collision (hd : d.Sound host intents)
    (hpublishable : Publishable host intent) (hholds : d.Holds .journal intent.operationId bytes)
    (hother : bytes ≠ utf8Bytes intent.json) :
    (publish host thread draw intent).finish (Step.run host.umask) d =
      (.error .journalCollision, d) := by
  have hends :=
    (safe_publish thread draw hd hpublishable rfl hholds (safe_publishOver_other hother)).finish
  exact Prod.ext hends.1 hends.2

end Alone

/-! ## A fresh record -/

section Fresh

variable {mode : ℕ} {written : List UInt8} {t : Disk}

/-- One file was put there, and all else is as it was. -/
def Disk.Puts (d : Disk) (area : Area) (name : Name) (node : FileNode) (t : Disk) : Prop :=
  ∀ area' name', t.file area' name' =
    if area' = area ∧ name' = name then some node else d.file area' name'

theorem Disk.Puts.file {name : Name} {node : FileNode} (h : d.Puts area name node t) :
    t.file area name = some node := (h area name).trans (if_pos ⟨rfl, rfl⟩)

theorem Disk.Puts.trans {name : Name} {node node' : FileNode} {u : Disk}
    (h : d.Puts area name node t) (h' : t.Puts area name node' u) : d.Puts area name node' u := by
  intro area' name'
  rw [h' area' name', h area' name']
  split <;> rfl

theorem puts_withFile (d : Disk) (area : Area) (name : Name) (node : FileNode) :
    d.Puts area name node (d.withFile area name node) := d.file_withFile area name node

theorem puts_modifyTemporary {node : FileNode} (f : FileNode → FileNode)
    (hnode : d.file area (.temporary draw) = some node) :
    d.Puts area (.temporary draw) (f node) (d.modifyTemporary area draw f) := by
  rw [Disk.modifyTemporary, hnode]
  exact puts_withFile d area _ _

theorem reaches_writeAll (umask : ℕ) (rest : List UInt8)
    (h : d.Puts area (.temporary draw) ⟨thread, mode, written⟩ t) :
    ∃ u, d.Puts area (.temporary draw) ⟨thread, mode, written ++ rest⟩ u ∧
      Reaches (Step.run umask) (writeAll area draw rest) t (pure ()) u := by
  induction rest generalizing written t with
  | nil =>
      rw [List.append_nil]
      exact ⟨t, h, Reaches.refl _ _ _⟩
  | cons byte rest ih =>
      have hput := puts_modifyTemporary (fun node => { node with bytes := node.bytes ++ [byte] })
        h.file
      obtain ⟨u, hu, hreaches⟩ := ih (h.trans hput)
      rw [List.append_assoc, List.singleton_append] at hu
      exact ⟨u, hu, Reaches.io_bind rfl hreaches⟩

/-- A record is written, and renamed to a name that is free. -/
theorem reaches_publishBytes (umask thread : ℕ) (bytes : List UInt8)
    (hfree : d.file area (.temporary draw) = none)
    (hentry : d.file area (.entry operationId) = none) :
    ∃ t, d.Puts area (.entry operationId) ⟨thread, 0o600, bytes⟩ t ∧
      Reaches (Step.run umask) (publishBytes thread draw area operationId bytes) d
        (afterRename area operationId bytes (.ok ())) t := by
  have hcreate : (Step.createNew area draw thread).run umask d =
      (.ok (), d.withFile area (.temporary draw) ⟨thread, Snapshots.fileMode umask, []⟩) := by
    rw [Step.run, hfree]
    rfl
  have hcreated := puts_withFile d area (.temporary draw) ⟨thread, Snapshots.fileMode umask, []⟩
  have hhardened := hcreated.trans
    (puts_modifyTemporary (fun node => { node with mode := 0o600 }) hcreated.file)
  obtain ⟨u, hu, hwrites⟩ := reaches_writeAll umask bytes hhardened
  have hprivate : Snapshots.isPrivateFileMode 0o600 ≠ false := by decide
  have hverify : verifyTemporary u area draw = .ok () := by
    rw [verifyTemporary, hu.file]
    exact reject_eq_ok.mpr hprivate
  have hrename : (Step.rename area draw operationId).run umask u = (.ok (),
      (u.withoutFile area (.temporary draw)).withFile area (.entry operationId)
        ⟨thread, 0o600, bytes⟩) := by
    have hnone : u.file area (.entry operationId) = none := by
      rw [hu area _, if_neg (by simp), hentry]
    rw [Step.run, hu.file]
    dsimp only
    rw [hnone]
    rfl
  refine ⟨_, fun area' name' => ?_, Reaches.io_bind hcreate (Reaches.io_bind rfl
    (hwrites.bind.trans (Reaches.io_bind rfl (Reaches.ask_bind hverify
      (Reaches.perform_bind hrename (Reaches.refl _ _ _))))))⟩
  rw [file_rename]
  split
  · rfl
  · split
    · rename_i hname
      rw [hname.1, hname.2, hfree]
    · rename_i hname
      rw [hu area' name', if_neg hname]

variable {intent : RenameMoveIntent}

/-- An intent of an operation that is new is published. -/
theorem reaches_publish (thread : ℕ) (draw : Uuid) (hd : d.Sound host intents)
    (hpublishable : Publishable host intent) (hfree : d.file .journal (.temporary draw) = none)
    (hentry : d.file .journal (.entry intent.operationId) = none) :
    ∃ t, d.Puts .journal (.entry intent.operationId)
        ⟨thread, 0o600, utf8Bytes intent.json⟩ t ∧
      Reaches (Step.run host.umask) ((Call.publish draw intent).process host thread) d
        (.done (.ok (.publish .published))) t := by
  obtain ⟨t, ht, hreaches⟩ := reaches_publishBytes host.umask thread (utf8Bytes intent.json)
    hfree hentry
  have hfound : readRawIfExists d .journal intent.operationId = .ok none := by
    rw [hd.readRawIfExists, hentry, Option.map_none]
  have hpublish : Reaches (Step.run host.umask) (publish host thread draw intent) d
      (.done (.ok .published)) t := by
    rw [publish, hpublishable.valid, hpublishable.canonical]
    refine Reaches.lift_bind rfl (Reaches.lift_bind rfl (Reaches.ask_bind hfound ?_))
    exact hreaches.bind.trans (Reaches.perform_bind rfl (Reaches.refl _ _ _))
  exact ⟨t, ht, hpublish.bind⟩

/-- A call of `complete` comes to the synchronization of the directory, and where this fails
its tombstone is there. -/
theorem reaches_complete (thread : ℕ) (draw : Uuid) (hd : d.Sound host intents)
    (hpublishable : Publishable host intent)
    (hholds : d.Holds .journal intent.operationId (utf8Bytes intent.json))
    (hfree : d.file .completed (.temporary draw) = none)
    (hentry : d.file .completed (.entry intent.operationId) = none) :
    ∃ p t, d.Puts .completed (.entry intent.operationId)
        ⟨thread, 0o600, recordBytes host intent .completed⟩ t ∧
      Reaches (Step.run host.umask)
        ((Call.complete draw intent.operationId intent).process host thread) d p t ∧
      p.fault (.error (.io .other)) (.io .other) =
        .done (.error (.publishedButNotSynced .other)) := by
  obtain ⟨t, ht, hreaches⟩ := reaches_publishBytes host.umask thread
    (recordBytes host intent .completed) hfree hentry
  have hfound : readRawIfExists d .completed intent.operationId = .ok none := by
    rw [hd.readRawIfExists, hentry, Option.map_none]
  have hcomplete : Reaches (Step.run host.umask)
      (complete host thread draw intent.operationId intent) d
      (afterRename .completed intent.operationId (recordBytes host intent .completed) (.ok ()) >>=
        fun made => pure (if made then .completed else .alreadyCompleted)) t := by
    rw [complete, hpublishable.valid, hpublishable.canonical, hpublishable.forIntent]
    refine Reaches.lift_bind rfl (Reaches.lift_bind (reject_eq_ok.mpr (not_not.mpr rfl)) ?_)
    refine Reaches.ask_bind (hholds.readRawIfExists hd) (Reaches.lift_bind rfl ?_)
    refine Reaches.lift_bind rfl (Reaches.lift_bind (reject_eq_ok.mpr (not_not.mpr rfl)) ?_)
    refine Reaches.lift_bind rfl (Reaches.ask_bind hfound ?_)
    exact hreaches.bind
  exact ⟨_, t, ht, hcomplete.bind, rfl⟩

end Fresh

end Recovery
end MyVault
