import MyVault.Snapshots.Opening
import Mathlib.Data.List.OfFn

/-!
# Publishing a snapshot after a crash

A snapshot stands under its id in `staging` or in `objects` only as a whole: the directory
is filled under a name of its own, and what a crash leaves there is never looked at again.
So on a disk that is `Sound` (what stands under an id is what some call published, and it
stands in one of the two directories) a call finds its own snapshot, another one, or
nothing; and each of its steps leads to a disk that differs from the first in what is under
this id only (`Publishes`).

`safe_publish` says what the call comes to: where nothing else stands under the id it
succeeds, and otherwise it fails and changes nothing.
-/

namespace MyVault
namespace Snapshots

open Process Check

/-! ## Whole snapshots -/

/-- The directory of a snapshot, with the files in the order they are written. -/
def snapshotNode (manifest : SnapshotManifest) (payload : List UInt8) : DirNode where
  mode := 0o700
  files :=
    { rows := [(.utf8 payloadFile, ⟨0o600, payload⟩),
        (.utf8 manifestFile, ⟨0o600, utf8Bytes manifest.json⟩)]
      nodup_keys := by
        simp only [List.map_cons, List.map_nil]
        decide }

theorem rows_view_snapshotNode (m : SnapshotManifest) (payload : List UInt8) :
    (snapshotNode m payload).view.rows = [(.utf8 payloadFile, .file payload),
      (.utf8 manifestFile, .file (utf8Bytes m.json))] := by
  simp [DirNode.view, snapshotNode, FileNode.entry]

theorem get_view_snapshotNode (m : SnapshotManifest) (payload : List UInt8) :
    (snapshotNode m payload).view.get payloadFile = some (.file payload) ∧
      (snapshotNode m payload).view.get manifestFile = some (.file (utf8Bytes m.json)) := by
  simp only [Dir.get_eq_some_iff, ← Table.mem_rows, rows_view_snapshotNode]
  exact ⟨List.mem_cons_self, List.mem_cons_of_mem _ List.mem_cons_self⟩

section Checks

variable {host : Host} {binding : VaultBinding} {m m' : SnapshotManifest}
  {payload payload' : List UInt8}

/-- The arguments of a call pass its checks. -/
def Accepts (host : Host) (binding : VaultBinding) (m : SnapshotManifest)
    (payload : List UInt8) : Prop :=
  checkPublish host binding m payload = .ok (utf8Bytes m.json)

instance : Decidable (Accepts host binding m payload) := by
  unfold Accepts
  infer_instance

theorem checkPublish_eq_ok {bytes : List UInt8} :
    checkPublish host binding m payload = .ok bytes ↔
      m.validate host.unicode = .ok () ∧ m.vaultId = binding.vaultId ∧
        payload.length ≤ maxPayloadBytes ∧
        SnapshotRevision.fromBytes host.blake3 payload = m.revision ∧
        utf8Bytes m.json = bytes ∧ bytes.length ≤ maxManifestBytes := by
  simp only [checkPublish, ↓seq_eq_ok, reject_eq_ok, Decidable.not_not, Nat.not_lt,
    SnapshotManifest.canonicalBytes_eq_ok]

theorem bytes_of_checkPublish {bytes : List UInt8}
    (h : checkPublish host binding m payload = .ok bytes) : bytes = utf8Bytes m.json :=
  (checkPublish_eq_ok.mp h).2.2.2.2.1.symm

/-- A call whose own snapshot is there accepts it. -/
theorem verifyExpectedObject_self (h : Accepts host binding m payload)
    (hread : host.serde.snapshotManifest (utf8Bytes m.json) = some m) :
    verifyExpectedObject host (snapshotNode m payload).view m (utf8Bytes m.json) = .ok () := by
  obtain ⟨hvalid, -, hlen, hrevision, -, hbytes⟩ := checkPublish_eq_ok.mp h
  obtain ⟨hpayload, hmanifest⟩ := get_view_snapshotNode m payload
  have hexact : verifyExactObjectEntries (snapshotNode m payload).view = .ok () := by
    rw [verifyExactObjectEntries, Dir.names, rows_view_snapshotNode, reject_eq_ok]
    simp
  have hread₁ := readPrivateFile_eq_ok.mpr ⟨hmanifest, hbytes⟩
  have hread₂ := readPrivateFile_eq_ok.mpr ⟨hpayload, hlen⟩
  have hcanonical := SnapshotManifest.canonicalBytes_eq_ok.mpr ⟨rfl, hbytes⟩
  rw [verifyExpectedObject, hexact, ok_bind, hread₁, ok_bind, reject, if_neg (by simp), ok_bind,
    hread]
  show (m.validate host.unicode >>= _) = _
  rw [hvalid, ok_bind, reject, if_neg (by simp), ok_bind, hcanonical, ok_bind, reject,
    if_neg (by simp), ok_bind, hread₂, ok_bind, reject, if_neg (by simp [hrevision])]

/-- What a call accepts has the bytes of its manifest and the digest of its payload. -/
theorem eq_of_verifyExpectedObject
    (h : verifyExpectedObject host (snapshotNode m' payload').view m (utf8Bytes m.json) =
      .ok ()) :
    utf8Bytes m'.json = utf8Bytes m.json ∧
      SnapshotRevision.fromBytes host.blake3 payload' = m.revision := by
  obtain ⟨hpayload, hmanifest⟩ := get_view_snapshotNode m' payload'
  rw [verifyExpectedObject] at h
  obtain ⟨bytes, hbytes, h⟩ := bind_eq_ok.mp (seq_eq_ok.mp h).2
  obtain ⟨hsame, h⟩ := seq_eq_ok.mp h
  obtain ⟨hget, -⟩ := readPrivateFile_eq_ok.mp hbytes
  cases hmanifest.symm.trans hget
  split at h
  · exact nomatch h
  · obtain ⟨-, h⟩ := seq_eq_ok.mp (seq_eq_ok.mp h).2
    obtain ⟨canonical, -, h⟩ := bind_eq_ok.mp h
    obtain ⟨found, hfound, hrevision⟩ := bind_eq_ok.mp (seq_eq_ok.mp h).2
    obtain ⟨hget, -⟩ := readPrivateFile_eq_ok.mp hfound
    cases hpayload.symm.trans hget
    exact ⟨Decidable.not_not.mp (reject_eq_ok.mp hsame),
      Decidable.not_not.mp (reject_eq_ok.mp hrevision)⟩

end Checks

/-- What is known of the snapshots that are ever published: the parsers read a binding and
a manifest that were printed, and no two payloads have one digest. -/
structure Known (host : Host) (binding : VaultBinding)
    (snapshots : SnapshotManifest → List UInt8 → Prop) : Prop where
  readsBinding : host.vaultBinding binding.bytes = some binding
  reads : ∀ m payload, snapshots m payload →
    host.serde.snapshotManifest (utf8Bytes m.json) = some m
  distinct : ∀ m payload m' payload', snapshots m payload → snapshots m' payload' →
    hexBlake3 host.blake3 payload = hexBlake3 host.blake3 payload' → payload = payload'

/-- A snapshot a call accepts is its own. -/
theorem Known.eq_of_verify {host : Host} {binding : VaultBinding} {m m' : SnapshotManifest}
    {payload payload' : List UInt8} {snapshots : SnapshotManifest → List UInt8 → Prop}
    (hknown : Known host binding snapshots) (h : snapshots m payload) (h' : snapshots m' payload')
    (haccepts : Accepts host binding m payload)
    (hverify : verifyExpectedObject host (snapshotNode m' payload').view m (utf8Bytes m.json) =
      .ok ()) : snapshotNode m' payload' = snapshotNode m payload := by
  obtain ⟨hbytes, hrevision⟩ := eq_of_verifyExpectedObject hverify
  obtain ⟨-, -, -, hown, -, -⟩ := checkPublish_eq_ok.mp haccepts
  have hhash : hexBlake3 host.blake3 payload' = hexBlake3 host.blake3 payload :=
    congrArg SnapshotRevision.blake3Hex (hrevision.trans hown.symm)
  rw [hknown.distinct _ _ _ _ h' h hhash, snapshotNode, snapshotNode]
  simp only [hbytes]

/-! ## Sound disks -/

/-- What stands under an id is the whole snapshot of some call, in one place. -/
structure Sound (snapshots : SnapshotManifest → List UInt8 → Prop) (d : Disk) : Prop where
  staged : ∀ (id : Uuid) node, d.staging id.toHyphenated = some node →
    ∃ m payload, snapshots m payload ∧ m.snapshotId = id ∧ node = snapshotNode m payload
  published : ∀ name node, d.objects name = some node →
    ∃ m payload, snapshots m payload ∧ name = m.snapshotId.toHyphenated ∧
      node = snapshotNode m payload
  single : ∀ id : Uuid, d.staging id.toHyphenated = none ∨ d.objects id.toHyphenated = none

/-- Nothing else stands under the id. -/
def Clear (d : Disk) (m : SnapshotManifest) (payload : List UInt8) : Prop :=
  ∀ node, d.staging m.snapshotId.toHyphenated = some node ∨
    d.objects m.snapshotId.toHyphenated = some node → node = snapshotNode m payload

/-- The snapshot is complete in `objects` and absent from `staging`. -/
def Published (d : Disk) (m : SnapshotManifest) (payload : List UInt8) : Prop :=
  d.objects m.snapshotId.toHyphenated = some (snapshotNode m payload) ∧
    d.staging m.snapshotId.toHyphenated = none

/-- It waits in `staging`. -/
def Staged (d : Disk) (m : SnapshotManifest) (payload : List UInt8) : Prop :=
  d.staging m.snapshotId.toHyphenated = some (snapshotNode m payload) ∧
    d.objects m.snapshotId.toHyphenated = none

/-- What a call may have done: its own snapshot has come to stand under its id, if nothing
else did, and what stands under other ids is as it was. -/
structure Publishes (m : SnapshotManifest) (payload : List UInt8) (d t : Disk) : Prop where
  modes : t.modes = d.modes
  files : t.files = d.files
  staging : ∀ id : Uuid, id ≠ m.snapshotId →
    t.staging id.toHyphenated = d.staging id.toHyphenated
  objects : ∀ name, name ≠ m.snapshotId.toHyphenated → t.objects name = d.objects name
  own : t.staging m.snapshotId.toHyphenated = d.staging m.snapshotId.toHyphenated ∧
      t.objects m.snapshotId.toHyphenated = d.objects m.snapshotId.toHyphenated ∨
    Clear d m payload ∧ (Staged t m payload ∨ Published t m payload)

section Publishes

variable {m m' : SnapshotManifest} {payload payload' : List UInt8} {d t : Disk}
  {snapshots : SnapshotManifest → List UInt8 → Prop}

theorem Publishes.refl (d : Disk) : Publishes m payload d d :=
  ⟨rfl, rfl, fun _ _ => rfl, fun _ _ => rfl, Or.inl ⟨rfl, rfl⟩⟩

theorem Staged.clear (h : Staged d m payload) : Clear d m payload := by
  rintro node (hnode | hnode)
  · exact Option.some.inj (hnode.symm.trans h.1)
  · exact nomatch hnode.symm.trans h.2

theorem Published.clear (h : Published d m payload) : Clear d m payload := by
  rintro node (hnode | hnode)
  · exact nomatch hnode.symm.trans h.2
  · exact Option.some.inj (hnode.symm.trans h.1)

theorem Publishes.clear (h : Publishes m payload d t) (hclear : Clear d m payload) :
    Clear t m payload := by
  rcases h.own with ⟨hstaging, hobjects⟩ | ⟨-, hstaged | hpublished⟩
  · intro node hnode
    rw [hstaging, hobjects] at hnode
    exact hclear node hnode
  · exact hstaged.clear
  · exact hpublished.clear

theorem Publishes.sound (h : Publishes m payload d t) (hsound : Sound snapshots d)
    (hm : snapshots m payload) : Sound snapshots t where
  staged id node hnode := by
    by_cases hid : id = m.snapshotId
    · subst hid
      rcases h.own with ⟨hstaging, -⟩ | ⟨-, hstaged | hpublished⟩
      · exact hsound.staged _ _ (hstaging ▸ hnode)
      · exact ⟨m, payload, hm, rfl, Option.some.inj (hnode.symm.trans hstaged.1)⟩
      · exact nomatch hnode.symm.trans hpublished.2
    · exact hsound.staged _ _ (h.staging id hid ▸ hnode)
  published name node hnode := by
    by_cases hname : name = m.snapshotId.toHyphenated
    · subst hname
      rcases h.own with ⟨-, hobjects⟩ | ⟨-, hstaged | hpublished⟩
      · exact hsound.published _ _ (hobjects ▸ hnode)
      · exact nomatch hnode.symm.trans hstaged.2
      · exact ⟨m, payload, hm, rfl, Option.some.inj (hnode.symm.trans hpublished.1)⟩
    · exact hsound.published _ _ (h.objects name hname ▸ hnode)
  single id := by
    by_cases hid : id = m.snapshotId
    · subst hid
      rcases h.own with ⟨hstaging, hobjects⟩ | ⟨-, hstaged | hpublished⟩
      · rw [hstaging, hobjects]
        exact hsound.single _
      · exact Or.inr hstaged.2
      · exact Or.inl hpublished.2
    · rw [h.staging id hid, h.objects _ fun heq => hid (Uuid.toHyphenated_injective heq)]
      exact hsound.single id

end Publishes

/-! ### Disks on the way -/

theorem head_workName (id draw : Uuid) : (workName id draw).toList.head? = some '.' := by
  rw [workName, String.toList_append, String.toList_append, String.toList_append]
  rfl

/-- The name of a work directory is no id. -/
theorem workName_ne (id draw id' : Uuid) : id'.toHyphenated ≠ workName id draw := by
  intro h
  have hhead := head_workName id draw
  rw [← h] at hhead
  have hmem : '.' ∈ id'.toHyphenated.toList := List.mem_of_mem_head? hhead
  rw [Uuid.toHyphenated, String.toList_ofList] at hmem
  have hplain : Json.IsPlain '.' := Json.isPlain_of_mem_hyphenated hmem
  rcases hplain with h | h
  · exact absurd h (by decide)
  · exact absurd h (by decide)

section Disks

variable {m : SnapshotManifest} {payload : List UInt8} {d t r : Disk}

theorem Publishes.trans (h : Publishes m payload d t) (h' : Publishes m payload t r) :
    Publishes m payload d r := by
  refine ⟨h'.modes.trans h.modes, h'.files.trans h.files,
    fun id hid => (h'.staging id hid).trans (h.staging id hid),
    fun name hname => (h'.objects name hname).trans (h.objects name hname), ?_⟩
  rcases h'.own with ⟨hstaging, hobjects⟩ | ⟨hclear, hown⟩
  · rcases h.own with ⟨hstaging', hobjects'⟩ | ⟨hclear, hown⟩
    · exact Or.inl ⟨hstaging.trans hstaging', hobjects.trans hobjects'⟩
    · refine Or.inr ⟨hclear, ?_⟩
      rw [Staged, Published, hstaging, hobjects]
      exact hown
  · refine Or.inr ⟨?_, hown⟩
    rcases h.own with ⟨hstaging, hobjects⟩ | ⟨hclear', -⟩
    · rw [Clear, ← hstaging, ← hobjects]
      exact hclear
    · exact hclear'

/-- What happens in a work directory is not under an id. -/
theorem publishes_work (d : Disk) (m : SnapshotManifest) (payload : List UInt8) (draw : Uuid)
    (node : Option DirNode) :
    Publishes m payload d (d.withStaging (workName m.snapshotId draw) node) := by
  have hstaging : ∀ id : Uuid, (d.withStaging (workName m.snapshotId draw) node).staging
      id.toHyphenated = d.staging id.toHyphenated := fun id => by
    rw [Disk.staging_withStaging, if_neg (workName_ne m.snapshotId draw id)]
  exact ⟨rfl, rfl, fun id _ => hstaging id, fun _ _ => rfl, Or.inl ⟨hstaging _, rfl⟩⟩

/-- The disk after the rename into `objects`. -/
def Disk.promoted (d : Disk) (m : SnapshotManifest) (payload : List UInt8) : Disk :=
  (d.withObject m.snapshotId.toHyphenated (some (snapshotNode m payload))).withStaging
    m.snapshotId.toHyphenated none

theorem published_promoted (d : Disk) (m : SnapshotManifest) (payload : List UInt8) :
    Published (d.promoted m payload) m payload := by
  constructor
  · show (d.withObject _ _).objects _ = _
    rw [Disk.objects_withObject, if_pos rfl]
  · rw [Disk.promoted, Disk.staging_withStaging, if_pos rfl]

theorem publishes_promoted (h : Staged d m payload) :
    Publishes m payload d (d.promoted m payload) where
  modes := rfl
  files := rfl
  staging id hid := by
    rw [Disk.promoted, Disk.staging_withStaging,
      if_neg fun heq => hid (Uuid.toHyphenated_injective heq)]
    rfl
  objects name hname := by
    show (d.withObject _ _).objects name = _
    rw [Disk.objects_withObject, if_neg hname]
  own := Or.inr ⟨h.clear, Or.inr (published_promoted d m payload)⟩

/-- The disk after the rename within `staging`. -/
def Disk.staged (d : Disk) (m : SnapshotManifest) (payload : List UInt8) (draw : Uuid) : Disk :=
  (d.withStaging m.snapshotId.toHyphenated (some (snapshotNode m payload))).withStaging
    (workName m.snapshotId draw) none

theorem staged_staged (draw : Uuid) (h : d.objects m.snapshotId.toHyphenated = none) :
    Staged (d.staged m payload draw) m payload := by
  refine ⟨?_, h⟩
  rw [Disk.staged, Disk.staging_withStaging, if_neg (workName_ne _ _ _),
    Disk.staging_withStaging, if_pos rfl]

theorem publishes_staged (draw : Uuid) (hstaging : d.staging m.snapshotId.toHyphenated = none)
    (hobjects : d.objects m.snapshotId.toHyphenated = none) :
    Publishes m payload d (d.staged m payload draw) where
  modes := rfl
  files := rfl
  staging id hid := by
    rw [Disk.staged, Disk.staging_withStaging, if_neg (workName_ne _ _ _),
      Disk.staging_withStaging, if_neg fun heq => hid (Uuid.toHyphenated_injective heq)]
  objects _ _ := rfl
  own := by
    refine Or.inr ⟨?_, Or.inl (staged_staged draw hobjects)⟩
    rintro node (hnode | hnode)
    · exact nomatch hnode.symm.trans hstaging
    · exact nomatch hnode.symm.trans hobjects

end Disks

/-! ## The calls -/

theorem openOptionalNode_snapshotNode (m : SnapshotManifest) (payload : List UInt8) :
    openOptionalNode (some (snapshotNode m payload)) =
      .ok (some (snapshotNode m payload).view) := if_pos isPrivateDirMode_hardened

section Calls

variable {host : Host} {binding : VaultBinding} {m : SnapshotManifest} {payload : List UInt8}
  {d₀ d : Disk}

/-- Between two steps of `publish`, which starts at `d`. -/
abbrev Midway (m : SnapshotManifest) (payload : List UInt8) (d : Disk) (_ : Step) (t : Disk) :
    Prop := Publishes m payload d t

theorem safe_promoteStaging (haccepts : Accepts host binding m payload)
    (hread : host.serde.snapshotManifest (utf8Bytes m.json) = some m)
    (h : Publishes m payload d₀ d) (hstaged : Staged d m payload) (outcome : PublishOutcome) :
    Safe (Step.run host.umask) (Midway m payload d₀)
      (fun x t => x = .ok outcome ∧ Publishes m payload d₀ t ∧ Published t m payload)
      (promoteStaging host m (utf8Bytes m.json) outcome) d := by
  have hrun : Step.run host.umask (.promote m.snapshotId.toHyphenated) d =
      (.ok (), d.promoted m payload) := by
    simp [Step.run, hstaged.1, hstaged.2, Disk.promoted]
  have hpublishes := h.trans (publishes_promoted hstaged)
  have hpublished := published_promoted d m payload
  refine ⟨h, ?_⟩
  rw [hrun]
  refine ⟨hpublishes, hpublishes, ?_⟩
  refine Safe.ask_bind (s := d.promoted m payload) (a := ()) ?_ ⟨rfl, hpublishes, hpublished⟩
  rw [hpublished.1, openOptionalNode_snapshotNode, ok_bind]
  exact verifyExpectedObject_self haccepts hread

/-- What `resumeStable` finds decides what it does. -/
theorem safe_resumeStable_of {I : Step → Disk → Prop}
    {Q : Except Error (Option PublishOutcome) → Disk → Prop} {bytes : List UInt8}
    (object staging : Option ObjectDir)
    (hobject : openOptionalNode (d.objects m.snapshotId.toHyphenated) = .ok object)
    (hstaging : openOptionalNode (d.staging m.snapshotId.toHyphenated) = .ok staging)
    (h : Safe (Step.run host.umask) I Q (resumeFrom host m bytes (object, staging)) d) :
    Safe (Step.run host.umask) I Q (resumeStable host m bytes) d := by
  have hfind : Safe (Step.run host.umask) I (fun x t => x = .ok (object, staging) ∧ t = d)
      (ask fun d => do
        let object ← openOptionalNode (d.objects m.snapshotId.toHyphenated)
        let staging ← openOptionalNode (d.staging m.snapshotId.toHyphenated)
        .ok (object, staging)) d := by
    refine .ask ⟨?_, rfl⟩
    rw [hobject, ok_bind, hstaging, ok_bind]
  refine hfind.bind ?_ fun e t he => nomatch he.1
  rintro _ t ⟨hx, rfl⟩
  cases hx
  exact h

/-- Nothing else stands under the id: the call finds its own snapshot and makes it
complete, or it finds nothing. -/
theorem safe_resumeStable (haccepts : Accepts host binding m payload)
    (hread : host.serde.snapshotManifest (utf8Bytes m.json) = some m)
    (hclear : Clear d m payload) (hsingle : d.staging m.snapshotId.toHyphenated = none ∨
      d.objects m.snapshotId.toHyphenated = none) :
    Safe (Step.run host.umask) (Midway m payload d)
      (fun x t => x = .ok none ∧ t = d ∧ d.staging m.snapshotId.toHyphenated = none ∧
          d.objects m.snapshotId.toHyphenated = none ∨
        (∃ outcome, x = .ok (some outcome)) ∧ Publishes m payload d t ∧ Published t m payload)
      (resumeStable host m (utf8Bytes m.json)) d := by
  have hverify : Safe (Step.run host.umask) (Midway m payload d) (fun x t => x = .ok () ∧ t = d)
      (lift (verifyExpectedObject host (snapshotNode m payload).view m (utf8Bytes m.json))) d :=
    .lift ⟨verifyExpectedObject_self haccepts hread, rfl⟩
  have hsame : Publishes m payload d d := .refl d
  cases hobject : d.objects m.snapshotId.toHyphenated with
  | some node =>
      have hstaging := hsingle.resolve_right (by rw [hobject]; exact nofun)
      cases hclear node (Or.inr hobject)
      refine safe_resumeStable_of (some (snapshotNode m payload).view) none
        (by rw [hobject, openOptionalNode_snapshotNode])
        (by rw [hstaging]; rfl) ?_
      refine hverify.bind ?_ fun e t he => nomatch he.1
      rintro _ t ⟨-, rfl⟩
      exact ⟨hsame, hsame, Or.inr ⟨⟨_, rfl⟩, hsame, hobject, hstaging⟩⟩
  | none =>
      cases hstaging : d.staging m.snapshotId.toHyphenated with
      | some node =>
          cases hclear node (Or.inl hstaging)
          refine safe_resumeStable_of none (some (snapshotNode m payload).view)
            (by rw [hobject]; rfl)
            (by rw [hstaging, openOptionalNode_snapshotNode]) ?_
          refine hverify.bind ?_ fun e t he => nomatch he.1
          rintro _ t ⟨-, rfl⟩
          refine (safe_promoteStaging haccepts hread hsame ⟨hstaging, hobject⟩
            .promotedFromStaging).bind ?_ fun e r he => nomatch he.1
          rintro outcome r ⟨-, hpublishes, hpublished⟩
          exact Or.inr ⟨⟨outcome, rfl⟩, hpublishes, hpublished⟩
      | none =>
          refine safe_resumeStable_of none none (by rw [hobject]; rfl)
            (by rw [hstaging]; rfl) ?_
          exact Or.inl ⟨rfl, rfl, rfl, rfl⟩

/-- Something else stands under the id: the call fails before it has done anything. -/
theorem safe_resumeStable_other {snapshots : SnapshotManifest → List UInt8 → Prop}
    (hknown : Known host binding snapshots) (hm : snapshots m payload)
    (haccepts : Accepts host binding m payload) (hsound : Sound snapshots d)
    (hother : ¬ Clear d m payload) :
    Safe (Step.run host.umask) (fun _ t => t = d) (fun x t => t = d ∧ ∃ e, x = .error e)
      (resumeStable host m (utf8Bytes m.json)) d := by
  have hverify : ∀ (m' : SnapshotManifest) payload', snapshots m' payload' →
      snapshotNode m' payload' ≠ snapshotNode m payload → ∃ e,
        verifyExpectedObject host (snapshotNode m' payload').view m (utf8Bytes m.json) =
          .error e := by
    intro m' payload' hm' hne
    cases hresult : verifyExpectedObject host (snapshotNode m' payload').view m
        (utf8Bytes m.json) with
    | error e => exact ⟨e, rfl⟩
    | ok _ => exact absurd (hknown.eq_of_verify hm hm' haccepts hresult) hne
  have hfails : ∀ {x : Except Error Unit} {e : Error}, x = .error e →
      Safe (Step.run host.umask) (fun _ t => t = d) (fun y t => t = d ∧ y = .error e) (lift x)
        d := fun he => .lift ⟨rfl, he⟩
  rw [Clear] at hother
  push Not at hother
  obtain ⟨node, hnode, hne⟩ := hother
  rcases hnode with hstaging | hobject
  · obtain ⟨m', payload', hm', -, rfl⟩ := hsound.staged _ _ hstaging
    have hobject := (hsound.single m.snapshotId).resolve_left (by rw [hstaging]; exact nofun)
    obtain ⟨e, he⟩ := hverify m' payload' hm' hne
    refine safe_resumeStable_of none (some (snapshotNode m' payload').view)
      (by rw [hobject]; rfl) (by rw [hstaging, openOptionalNode_snapshotNode]) ?_
    exact (hfails he).bind (fun a t ha => nomatch ha.2) fun e' t he' => ⟨he'.1, e', rfl⟩
  · obtain ⟨m', payload', hm', -, rfl⟩ := hsound.published _ _ hobject
    have hstaging := (hsound.single m.snapshotId).resolve_right (by rw [hobject]; exact nofun)
    obtain ⟨e, he⟩ := hverify m' payload' hm' hne
    refine safe_resumeStable_of (some (snapshotNode m' payload').view) none
      (by rw [hobject, openOptionalNode_snapshotNode]) (by rw [hstaging]; rfl) ?_
    exact (hfails he).bind (fun a t ha => nomatch ha.2) fun e' t he' => ⟨he'.1, e', rfl⟩

/-! ### A new work directory -/

theorem safe_createPrivateDir (h : Publishes m payload d₀ d) (draw : Uuid)
    (hfree : d.staging (workName m.snapshotId draw) = none) :
    Safe (Step.run host.umask) (Midway m payload d₀)
      (fun x t => x = .ok () ∧
        t = d.withStaging (workName m.snapshotId draw) (some ⟨0o700, .empty⟩))
      (createPrivateDir (.work (workName m.snapshotId draw))) d := by
  have hwork : ∀ node, Publishes m payload d₀ (d.withStaging (workName m.snapshotId draw) node) :=
    fun node => h.trans (publishes_work d m payload draw node)
  have hcreate : Step.run host.umask (.createDir (.work (workName m.snapshotId draw))) d =
      (.ok (), d.withStaging (workName m.snapshotId draw)
        (some ⟨dirMode host.umask, .empty⟩)) := by simp [Step.run, hfree]
  have hharden : Step.run host.umask (.hardenDir (.work (workName m.snapshotId draw)))
      (d.withStaging (workName m.snapshotId draw) (some ⟨dirMode host.umask, .empty⟩)) =
      (.ok (), d.withStaging (workName m.snapshotId draw) (some ⟨0o700, .empty⟩)) := by
    simp [Step.run, Disk.withStaging]
  refine ⟨h, ?_⟩
  rw [hcreate]
  refine ⟨hwork _, ?_⟩
  rw [hharden]
  have hrequire : Safe (Step.run host.umask) (Midway m payload d₀)
      (fun x t => x = .ok () ∧
        t = d.withStaging (workName m.snapshotId draw) (some ⟨0o700, .empty⟩))
      (requirePrivateDirectory (.work (workName m.snapshotId draw)))
      (d.withStaging (workName m.snapshotId draw) (some ⟨0o700, .empty⟩)) := by
    refine .ask ⟨?_, rfl⟩
    rw [Disk.modeOf, Disk.staging_withStaging, if_pos rfl]
    rfl
  refine hrequire.bind ?_ fun e t he => by cases he.1
  rintro _ t ⟨-, rfl⟩
  exact ⟨hwork _, hwork _, rfl, rfl⟩

/-- One of the names that are drawn is free, or none is. -/
theorem safe_createFreshWork (h : Publishes m payload d₀ d) (draws : List Uuid) :
    Safe (Step.run host.umask) (Midway m payload d₀)
      (fun x t => (∃ draw, x = .ok (workName m.snapshotId draw) ∧
          t = d.withStaging (workName m.snapshotId draw) (some ⟨0o700, .empty⟩)) ∨
        (∃ e, x = .error e) ∧ t = d ∧
          ∀ draw ∈ draws, d.staging (workName m.snapshotId draw) ≠ none)
      (createFreshWork m.snapshotId draws) d := by
  induction draws with
  | nil => exact Or.inr ⟨⟨_, rfl⟩, rfl, by rintro _ ⟨⟩⟩
  | cons draw rest ih =>
      cases hfree : d.staging (workName m.snapshotId draw) with
      | none =>
          have hmade : Safe (Step.run host.umask) (Midway m payload d₀)
              (fun x t => x = .ok (.ok ()) ∧
                t = d.withStaging (workName m.snapshotId draw) (some ⟨0o700, .empty⟩))
              (attempt (createPrivateDir (.work (workName m.snapshotId draw)))) d := by
            refine .attempt ((safe_createPrivateDir h draw hfree).mono (fun _ _ hI => hI) ?_)
            exact fun x t hx => ⟨congrArg Except.ok hx.1, hx.2⟩
          refine hmade.bind ?_ fun e t he => by cases he.1
          rintro x t ⟨hx, rfl⟩
          cases hx
          exact Or.inl ⟨draw, rfl, rfl⟩
      | some node =>
          have hrun : Step.run host.umask (.createDir (.work (workName m.snapshotId draw))) d =
              (.error .alreadyExists, d) := by simp [Step.run, hfree]
          have hmade : Safe (Step.run host.umask) (Midway m payload d₀)
              (fun x t => x = .ok (.error .alreadyExists) ∧ t = d)
              (attempt (createPrivateDir (.work (workName m.snapshotId draw)))) d := by
            refine .attempt ⟨h, ?_⟩
            rw [hrun]
            exact ⟨rfl, rfl⟩
          refine hmade.bind ?_ fun e t he => by cases he.1
          rintro x t ⟨hx, rfl⟩
          cases hx
          refine ih.mono (fun _ _ hI => hI) fun x r hx => ?_
          rcases hx with hok | ⟨he, rfl, hall⟩
          · exact Or.inl hok
          · refine Or.inr ⟨he, rfl, List.forall_mem_cons.mpr ⟨?_, hall⟩⟩
            rw [hfree]
            rintro ⟨⟩

/-- The work directory while its first file is written. -/
def payloadNode (file : FileNode) : DirNode where
  mode := 0o700
  files := ⟨[(.utf8 payloadFile, file)], List.nodup_singleton _⟩

/-- The work directory while its second file is written. -/
def manifestNode (payload : List UInt8) (file : FileNode) : DirNode where
  mode := 0o700
  files :=
    { rows := [(.utf8 payloadFile, ⟨0o600, payload⟩), (.utf8 manifestFile, file)]
      nodup_keys := by
        simp only [List.map_cons, List.map_nil]
        decide }

/-- A file in a work directory is a slot. -/
theorem slot_work (umask : ℕ) (d : Disk) (work : String) {name : String}
    {node : FileNode → DirNode} (hmodify : ∀ file f, (node file).modify name f = node (f file))
    (hget : ∀ file, (node file).files.get name = some file) :
    Slot umask (.work work) name fun file => d.withStaging work (some (node file)) := by
  have hdisk : ∀ file f, Step.run.modifyFile (d.withStaging work (some (node file)))
      (.work work) name f = d.withStaging work (some (node (f file))) := by
    intro file f
    show (d.withStaging work _).withStaging work _ = _
    rw [Disk.staging_withStaging, if_pos rfl, Option.map_some, hmodify]
    simp only [Disk.withStaging, Function.update_idem]
  refine ⟨fun file => ?_, fun file byte => ?_, fun file => ?_⟩
  · rw [Step.run, hdisk]
  · rw [Step.run, hdisk]
  · rw [Disk.fileAt, Disk.staging_withStaging, if_pos rfl, Option.bind_some, hget]

theorem slot_payload (umask : ℕ) (d : Disk) (work : String) :
    Slot umask (.work work) payloadFile fun file =>
      d.withStaging work (some (payloadNode file)) := by
  refine slot_work umask d work (fun file f => ?_) fun file => ?_
  · simp [DirNode.modify, Table.update, payloadNode]
  · rw [Dir.get_eq_some_iff]
    exact List.mem_cons_self

theorem slot_manifest (umask : ℕ) (d : Disk) (work : String) (payload : List UInt8) :
    Slot umask (.work work) manifestFile
      fun file => d.withStaging work (some (manifestNode payload file)) := by
  refine slot_work umask d work (fun file f => ?_) fun file => ?_
  · simp [DirNode.modify, Table.update, manifestNode, payloadFile, manifestFile]
  · rw [Dir.get_eq_some_iff]
    exact List.mem_cons_of_mem _ List.mem_cons_self

theorem Disk.withStaging_withStaging (d : Disk) (name : String) (a b : Option DirNode) :
    (d.withStaging name a).withStaging name b = d.withStaging name b := by
  simp only [Disk.withStaging, Function.update_idem]

theorem run_createFile_work (umask : ℕ) (d : Disk) (work name : String)
    (node node' : DirNode) (h : node.create name (fileMode umask) = .ok node') :
    Step.run umask (.createFile (.work work) name) (d.withStaging work (some node)) =
      (.ok (), d.withStaging work (some node')) := by
  simp only [Step.run, Disk.staging_withStaging, if_pos, h, Disk.withStaging_withStaging]

theorem safe_writePayload (h : Publishes m payload d₀ d) (draw : Uuid) :
    Safe (Step.run host.umask) (Midway m payload d₀)
      (fun x t => x = .ok () ∧ t = d.withStaging (workName m.snapshotId draw)
        (some (payloadNode ⟨0o600, payload⟩)))
      (writePrivateFile (.work (workName m.snapshotId draw)) payloadFile payload)
      (d.withStaging (workName m.snapshotId draw) (some ⟨0o700, .empty⟩)) := by
  have hwork : ∀ node, Publishes m payload d₀ (d.withStaging (workName m.snapshotId draw) node) :=
    fun node => h.trans (publishes_work d m payload draw node)
  exact (slot_payload host.umask d (workName m.snapshotId draw)).safe_writePrivateFile
    (run_createFile_work host.umask d _ _ _ (payloadNode ⟨fileMode host.umask, []⟩) rfl)
    (hwork _) (fun _ _ => hwork _) payload

theorem safe_writeManifest (h : Publishes m payload d₀ d) (draw : Uuid) :
    Safe (Step.run host.umask) (Midway m payload d₀)
      (fun x t => x = .ok () ∧
        t = d.withStaging (workName m.snapshotId draw) (some (snapshotNode m payload)))
      (writePrivateFile (.work (workName m.snapshotId draw)) manifestFile (utf8Bytes m.json))
      (d.withStaging (workName m.snapshotId draw)
        (some (payloadNode ⟨0o600, payload⟩))) := by
  have hwork : ∀ node, Publishes m payload d₀ (d.withStaging (workName m.snapshotId draw) node) :=
    fun node => h.trans (publishes_work d m payload draw node)
  exact (slot_manifest host.umask d (workName m.snapshotId draw) payload).safe_writePrivateFile
    (run_createFile_work host.umask d _ _ _
      (manifestNode payload ⟨fileMode host.umask, []⟩) rfl)
    (hwork _) (fun _ _ => hwork _) (utf8Bytes m.json)

theorem run_stage {umask : ℕ} {draw : Uuid}
    (h : (d.withStaging (workName m.snapshotId draw) (some (snapshotNode m payload))).staging
      m.snapshotId.toHyphenated = none) :
    Step.run umask (.stage (workName m.snapshotId draw) m.snapshotId.toHyphenated)
        (d.withStaging (workName m.snapshotId draw) (some (snapshotNode m payload))) =
      (.ok (), (d.withStaging (workName m.snapshotId draw)
        (some (snapshotNode m payload))).staged m payload draw) := by
  rw [Step.run, Disk.staging_withStaging, if_pos rfl, h]
  rfl

/-- Nothing stands under the id: the snapshot is made, or all names that are drawn are
taken. -/
theorem safe_publishFresh (haccepts : Accepts host binding m payload)
    (hread : host.serde.snapshotManifest (utf8Bytes m.json) = some m)
    (hstaging : d.staging m.snapshotId.toHyphenated = none)
    (hobjects : d.objects m.snapshotId.toHyphenated = none) (draws : List Uuid) :
    Safe (Step.run host.umask) (Midway m payload d)
      (fun x t => Publishes m payload d t ∧
        ((∃ draw ∈ draws, d.staging (workName m.snapshotId draw) = none) →
          (∃ outcome, x = .ok outcome) ∧ Published t m payload))
      (publishFresh host m payload (utf8Bytes m.json) draws) d := by
  have hsame : Publishes m payload d d := .refl d
  refine (safe_createFreshWork hsame draws).bind ?_ ?_
  · rintro work t (⟨draw, hwork, rfl⟩ | ⟨⟨e, he⟩, -⟩)
    · cases hwork
      refine (safe_writePayload hsame draw).bind ?_ fun e t he => by cases he.1
      rintro _ t ⟨-, rfl⟩
      refine (safe_writeManifest hsame draw).bind ?_ fun e t he => by cases he.1
      rintro _ t ⟨-, rfl⟩
      have hfilled := publishes_work d m payload draw (some (snapshotNode m payload))
      refine Safe.ask_bind (a := ()) ?_ ⟨hfilled, ?_⟩
      · rw [Disk.staging_withStaging, if_pos rfl]
        exact verifyExpectedObject_self haccepts hread
      have hother : (d.withStaging (workName m.snapshotId draw)
          (some (snapshotNode m payload))).staging m.snapshotId.toHyphenated = none := by
        rw [Disk.staging_withStaging, if_neg (workName_ne _ _ _), hstaging]
      have hmove : Safe (Step.run host.umask) (Midway m payload d)
          (fun x t => x = .ok (.ok ()) ∧ t = (d.withStaging (workName m.snapshotId draw)
            (some (snapshotNode m payload))).staged m payload draw)
          (perform (.stage (workName m.snapshotId draw) m.snapshotId.toHyphenated) :
            Proc (Except Error Unit))
          (d.withStaging (workName m.snapshotId draw) (some (snapshotNode m payload))) := by
        refine .perform hfilled ?_
        rw [run_stage hother]
        exact ⟨rfl, rfl⟩
      refine hmove.bind ?_ fun e t he => by cases he.1
      rintro moved t ⟨hmoved, rfl⟩
      cases hmoved
      have hstaged := hfilled.trans (publishes_staged draw hother hobjects)
      refine ⟨hstaged, (safe_promoteStaging haccepts hread hstaged
        (staged_staged draw hobjects) .published).mono (fun _ _ hI => hI) fun x t hx => ?_⟩
      exact ⟨hx.2.1, fun _ => ⟨⟨_, hx.1⟩, hx.2.2⟩⟩
    · cases he
  · rintro e t (⟨draw, hwork, -⟩ | ⟨-, rfl, hall⟩)
    · cases hwork
    · refine ⟨hsame, fun hsome => ?_⟩
      obtain ⟨draw, hmem, hfree⟩ := hsome
      exact absurd hfree (hall draw hmem)

/-! ### The whole call -/

/-- A call that is refused has done nothing. -/
abbrev Refused (d : Disk) (x : Except Error PublishOutcome) (t : Disk) : Prop :=
  t = d ∧ ∃ e, x = .error e

/-- What a call comes to that starts at `d`. -/
structure CallEnds (host : Host) (binding : VaultBinding) (m : SnapshotManifest)
    (payload : List UInt8) (draws : List Uuid) (d : Disk) (x : Except Error PublishOutcome)
    (t : Disk) : Prop where
  publishes : Publishes m payload d t
  refused : ¬ (Clear d m payload ∧ Accepts host binding m payload) → Refused d x t
  published : Clear d m payload → Accepts host binding m payload →
    (∃ draw ∈ draws, d.staging (workName m.snapshotId draw) = none) →
      (∃ outcome, x = .ok outcome) ∧ Published t m payload

/-- What a call leaves that starts at `d`, wherever it is cut off. -/
def Leaves (host : Host) (binding : VaultBinding) (m : SnapshotManifest) (payload : List UInt8)
    (d t : Disk) : Prop :=
  Publishes m payload d t ∧
    (¬ (Clear d m payload ∧ Accepts host binding m payload) → t = d)

theorem CallEnds.leaves {draws : List Uuid} {x : Except Error PublishOutcome} {t : Disk}
    (h : CallEnds host binding m payload draws d x t) : Leaves host binding m payload d t :=
  ⟨h.publishes, fun hother => (h.refused hother).1⟩

theorem Leaves.clear {t : Disk} (h : Leaves host binding m payload d t)
    (hclear : Clear d m payload) : Clear t m payload := h.1.clear hclear

theorem Leaves.sound {snapshots : SnapshotManifest → List UInt8 → Prop} {t : Disk}
    (h : Leaves host binding m payload d t) (hsound : Sound snapshots d)
    (hm : Accepts host binding m payload → snapshots m payload) : Sound snapshots t := by
  by_cases hboth : Clear d m payload ∧ Accepts host binding m payload
  · exact h.1.sound hsound (hm hboth.2)
  · rw [h.2 hboth]
    exact hsound

/-- Nothing was done and nothing may be done. -/
theorem CallEnds.of_refused {draws : List Uuid} {x : Except Error PublishOutcome} {t : Disk}
    (h : Refused d x t) (haccepts : ¬ (Clear d m payload ∧ Accepts host binding m payload)) :
    CallEnds host binding m payload draws d x t := by
  obtain ⟨rfl, he⟩ := h
  exact ⟨.refl _, fun _ => ⟨rfl, he⟩, fun hclear hok => absurd ⟨hclear, hok⟩ haccepts⟩

section Whole

variable {snapshots : SnapshotManifest → List UInt8 → Prop}

theorem safe_publishLocked (hknown : Known host binding snapshots) (hm : snapshots m payload)
    (hsound : Sound snapshots d) (draws : List Uuid) :
    Safe (Step.run host.umask) (fun _ => Leaves host binding m payload d)
      (CallEnds host binding m payload draws d)
      (publishLocked host binding m payload draws) d := by
  have hread := hknown.reads m payload hm
  by_cases haccepts : Accepts host binding m payload
  · have hcheck : Safe (Step.run host.umask) (fun _ => Leaves host binding m payload d)
        (fun x t => x = .ok (utf8Bytes m.json) ∧ t = d)
        (lift (checkPublish host binding m payload)) d := .lift ⟨haccepts, rfl⟩
    refine hcheck.bind ?_ fun e t he => nomatch he.1
    rintro _ t ⟨hbytes, rfl⟩
    cases hbytes
    by_cases hclear : Clear t m payload
    · have hboth : Clear t m payload ∧ Accepts host binding m payload := ⟨hclear, haccepts⟩
      have hleaves : ∀ (_ : Step) r, Publishes m payload t r → Leaves host binding m payload t r :=
        fun _ r hr => ⟨hr, fun hother => absurd hboth hother⟩
      have hends : ∀ x r, (∃ outcome, x = Except.ok outcome) → Publishes m payload t r →
          Published r m payload → CallEnds host binding m payload draws t x r :=
        fun x r hx hr hpublished =>
          ⟨hr, fun hother => absurd hboth hother, fun _ _ _ => ⟨hx, hpublished⟩⟩
      refine ((safe_resumeStable haccepts hread hclear (hsound.single _)).mono
        hleaves fun _ _ hQ => hQ).bind ?_ ?_
      · rintro resumed r (⟨hx, rfl, hstaging, hobjects⟩ | ⟨⟨outcome, hx⟩, hr, hpublished⟩)
        · cases hx
          refine (safe_publishFresh haccepts hread hstaging hobjects draws).mono hleaves
            fun x s hx => ?_
          exact ⟨hx.1, fun hother => absurd hboth hother, fun _ _ => hx.2⟩
        · cases hx
          exact hends _ _ ⟨outcome, rfl⟩ hr hpublished
      · rintro e r (⟨hx, -⟩ | ⟨⟨outcome, hx⟩, -⟩)
        · exact nomatch hx
        · exact nomatch hx
    · refine ((safe_resumeStable_other hknown hm haccepts hsound hclear).mono
        (fun st r hr => hr ▸ ⟨.refl _, fun _ => rfl⟩) fun _ _ hQ => hQ).bind ?_ ?_
      · exact fun a r hr => nomatch hr.2
      · rintro e r ⟨rfl, -⟩
        exact .of_refused ⟨rfl, e, rfl⟩ fun hand => hclear hand.1
  · have hcheck : Safe (Step.run host.umask) (fun _ => Leaves host binding m payload d)
        (fun x t => t = d ∧ ∃ e, x = .error e) (lift (checkPublish host binding m payload)) d := by
      refine .lift ⟨rfl, ?_⟩
      cases hresult : checkPublish host binding m payload with
      | error e => exact ⟨e, rfl⟩
      | ok bytes =>
          rw [bytes_of_checkPublish hresult] at hresult
          exact absurd hresult haccepts
    refine hcheck.bind (fun a t ha => nomatch ha.2) ?_
    rintro e t ⟨rfl, -⟩
    exact .of_refused ⟨rfl, e, rfl⟩ fun hand => haccepts hand.2

/-- **Publishing a snapshot.**  Where nothing else stands under the id, a call that passes
the checks succeeds, and where something else does, it fails and no step changes anything. -/
theorem safe_publish (hknown : Known host binding snapshots) (hm : snapshots m payload)
    (hsound : Sound snapshots d) (hlock : LockReady d) (draws : Fin 32 → Uuid) :
    Safe (Step.run host.umask) (fun _ => Leaves host binding m payload d)
      (CallEnds host binding m payload (List.ofFn draws) d)
      (publish host binding m payload draws) d := by
  have hverify : ∀ t : Disk, t.files = d.files →
      verifyPrivateFile (t.files .vault operationLockFile) = .ok () := by
    intro t ht
    obtain ⟨file, hfile, hmode⟩ := hlock
    rw [ht, hfile, verifyPrivateFile_some hmode]
  have hheld : Safe (Step.run host.umask) (fun _ => Leaves host binding m payload d)
      (fun x t => x = .ok () ∧ t = d)
      (ask fun d => verifyPrivateFile (d.files .vault operationLockFile)) d :=
    .ask ⟨hverify d rfl, rfl⟩
  refine hheld.bind ?_ fun e t he => nomatch he.1
  rintro _ t ⟨-, rfl⟩
  have hlocked := Safe.attempt (Q := fun x r => ∃ y, x = .ok y ∧
    CallEnds host binding m payload (List.ofFn draws) t y r)
    ((safe_publishLocked hknown hm hsound (List.ofFn draws)).mono (fun _ _ hI => hI)
      fun y r hy => ⟨y, rfl, hy⟩)
  refine hlocked.bind ?_ ?_
  · rintro y r ⟨_, hy, hends⟩
    cases hy
    refine .ask ?_
    rw [hverify r hends.publishes.files]
    cases y with
    | ok outcome => exact hends
    | error e => exact hends
  · rintro e r ⟨y, hy, -⟩
    exact nomatch hy

end Whole

end Calls

end Snapshots
end MyVault
