import MyVault.Library.Runs
import MyVault.Transfer.PrivateStore

/-!
# Operations that share the objects of a store

What a call of one operation may do to the store while calls of other operations run.  A call
creates, fills and removes the stage of its operation only, and gives a file that it does not
write to the name of its digest (`Allowed.cases`).  So an object stays the file that it is
(`Since`), the stage of an operation is there as long as its own calls leave it (`Rely`), and
every object holds bytes of its digest (`Disk.Sound`).
-/

namespace MyVault
namespace PrivateTransferStore

open Process Check Transfer Vault.Stepwise

variable {sha256 : Sha256} {blake3 : Blake3} {d t u : Disk} {st : Step}
  {operationId other : Uuid} {digest : String} {handle : ℕ} {node : FileNode}

/-! ## Files and their names -/

/-- The file has the name of an object. -/
def Disk.Linked (d : Disk) (handle : ℕ) : Prop := ∃ digest, d.object digest = some handle

/-- The file is a stage. -/
def Disk.Staged (d : Disk) (handle : ℕ) : Prop := ∃ operationId, d.stage operationId = some handle

/-- The stage of the operation is this file. -/
structure Disk.HasStage (d : Disk) (operationId : Uuid) (handle : ℕ) (node : FileNode) : Prop where
  stage : d.stage operationId = some handle
  node : d.nodes[handle]? = some node

/-- The object is there, and this is its file. -/
structure Disk.HasObject (d : Disk) (digest : String) (handle : ℕ) (node : FileNode) : Prop where
  object : d.object digest = some handle
  node : d.nodes[handle]? = some node

/-- No file is two stages or two objects, and an object is a private file with bytes of its
digest. -/
structure Disk.Sound (sha256 : Sha256) (d : Disk) : Prop where
  stage_unique : ∀ operationId other handle, d.stage operationId = some handle →
    d.stage other = some handle → operationId = other
  object_unique : ∀ digest digest' handle, d.object digest = some handle →
    d.object digest' = some handle → digest = digest'
  stage_lt : ∀ operationId handle, d.stage operationId = some handle → handle < d.nodes.length
  object : ∀ digest handle, d.object digest = some handle → ∃ node, d.nodes[handle]? = some node ∧
    node.isPrivate = true ∧ hexSha256 sha256 node.bytes = digest

section Values

variable {K : Type} [DecidableEq K] {table : Table (Prod.fst : K × ℕ → K)} {n : ℕ}

theorem mem_values : n ∈ table.rows.map Prod.snd ↔
    ∃ k, (table.lookup k).map Prod.snd = some n := by
  rw [List.mem_map]
  constructor
  · rintro ⟨row, hrow, rfl⟩
    exact ⟨row.1, by rw [Table.lookup_eq_some_iff.mpr ⟨hrow, rfl⟩, Option.map_some]⟩
  · rintro ⟨k, hk⟩
    obtain ⟨row, hrow, rfl⟩ := Option.map_eq_some_iff.mp hk
    exact ⟨row, (Table.lookup_eq_some_iff.mp hrow).1, rfl⟩

/-- Where no two keys have one value, it is there once. -/
theorem count_values (hunique : ∀ k k' n, (table.lookup k).map Prod.snd = some n →
    (table.lookup k').map Prod.snd = some n → k = k') {k : K}
    (hk : (table.lookup k).map Prod.snd = some n) : (table.rows.map Prod.snd).count n = 1 := by
  refine List.count_eq_one_of_mem (List.Nodup.map_on ?_ ?_) (mem_values.mpr ⟨k, hk⟩)
  · intro a ha b hb heq
    refine table.eq_of_key_eq ha hb (hunique a.1 b.1 a.2 ?_ ?_)
    · rw [Table.lookup_eq_some_iff.mpr ⟨ha, rfl⟩, Option.map_some]
    · rw [Table.lookup_eq_some_iff.mpr ⟨hb, rfl⟩, Option.map_some, heq]
  · exact List.Nodup.of_map Prod.fst table.nodup_keys

end Values

namespace Disk.Sound

/-- A stage that is no object has one link. -/
theorem links_of_unlinked (hd : d.Sound sha256) (hstage : d.stage operationId = some handle)
    (hunlinked : ¬ d.Linked handle) : d.links handle = 1 := by
  have hobjects : (d.objects.rows.map Prod.snd).count handle = 0 :=
    List.count_eq_zero.mpr fun hmem => hunlinked (mem_values.mp hmem)
  rw [links, count_values hd.stage_unique hstage, hobjects]

/-- A stage that is an object has two. -/
theorem links_of_linked (hd : d.Sound sha256) (hstage : d.stage operationId = some handle)
    (hobject : d.object digest = some handle) : d.links handle = 2 := by
  rw [links, count_values hd.stage_unique hstage, count_values hd.object_unique hobject]

/-- And an object that is no stage has one. -/
theorem links_of_unstaged (hd : d.Sound sha256) (hobject : d.object digest = some handle)
    (hunstaged : ¬ d.Staged handle) : d.links handle = 1 := by
  have hstages : (d.staging.rows.map Prod.snd).count handle = 0 :=
    List.count_eq_zero.mpr fun hmem => hunstaged (mem_values.mp hmem)
  rw [links, hstages, count_values hd.object_unique hobject]

theorem not_linked (hd : d.Sound sha256) (hstage : d.stage operationId = some handle)
    (hlinks : d.links handle ≤ 1) : ¬ d.Linked handle := by
  rintro ⟨digest, hobject⟩
  rw [hd.links_of_linked hstage hobject] at hlinks
  omega

theorem not_staged (hd : d.Sound sha256) (hobject : d.object digest = some handle)
    (hlinks : d.links handle ≤ 1) : ¬ d.Staged handle := by
  rintro ⟨operationId, hstage⟩
  rw [hd.links_of_linked hstage hobject] at hlinks
  omega

/-- The file of a stage is there. -/
theorem exists_node (hd : d.Sound sha256) (hstage : d.stage operationId = some handle) :
    ∃ node, d.HasStage operationId handle node :=
  ⟨_, hstage, List.getElem?_eq_getElem (hd.stage_lt _ _ hstage)⟩

theorem object_lt (hd : d.Sound sha256) (hobject : d.object digest = some handle) :
    handle < d.nodes.length := by
  obtain ⟨node, hnode, -⟩ := hd.object _ _ hobject
  exact (List.getElem?_eq_some_iff.mp hnode).1

end Disk.Sound

/-! ### Looks that pass -/

theorem held_eq_ok : held d handle = .ok node ↔ d.nodes[handle]? = some node := by
  rw [held]
  cases d.nodes[handle]? with
  | none => exact iff_of_false (by simp) (by simp)
  | some found => simp

theorem verifyPrivateFile_eq_ok {maxLinks : ℕ} : verifyPrivateFile d handle maxLinks = .ok () ↔
    (∃ node, d.nodes[handle]? = some node ∧ node.isPrivate = true) ∧
      1 ≤ d.links handle ∧ d.links handle ≤ maxLinks := by
  rw [verifyPrivateFile, bind_eq_ok]
  constructor
  · rintro ⟨node, hnode, h⟩
    rw [seq_eq_ok, reject_eq_ok, reject_eq_ok, not_not, Bool.not_eq_false] at h
    exact ⟨⟨node, held_eq_ok.mp hnode, h.1⟩, h.2⟩
  · rintro ⟨⟨node, hnode, hprivate⟩, hlinks⟩
    refine ⟨node, held_eq_ok.mpr hnode, ?_⟩
    rw [seq_eq_ok, reject_eq_ok, reject_eq_ok, not_not, Bool.not_eq_false]
    exact ⟨hprivate, hlinks⟩

theorem fileSnapshot_eq_ok {maxBytes : ℕ} {snapshot : ContentSnapshot} :
    fileSnapshot sha256 blake3 d handle maxBytes = .ok snapshot ↔
      ∃ node, d.nodes[handle]? = some node ∧ node.bytes.length ≤ maxBytes ∧
        snapshot = .of sha256 blake3 node.bytes := by
  rw [fileSnapshot, bind_eq_ok]
  refine exists_congr fun node => ?_
  rw [held_eq_ok, seq_eq_ok, reject_eq_ok, Nat.not_lt]
  refine and_congr_right fun _ => and_congr_right fun _ => ?_
  constructor
  · intro h
    cases h
    rfl
  · rintro rfl
    rfl

theorem verifyFileSnapshot_eq_ok {maxBytes : ℕ} {expected : ContentSnapshot} :
    verifyFileSnapshot sha256 blake3 d handle expected maxBytes = .ok () ↔
      ∃ node, d.nodes[handle]? = some node ∧ node.bytes.length ≤ maxBytes ∧
        expected = .of sha256 blake3 node.bytes := by
  rw [verifyFileSnapshot, bind_eq_ok, ← fileSnapshot_eq_ok]
  constructor
  · rintro ⟨actual, hactual, h⟩
    rw [reject_eq_ok, not_not] at h
    exact h ▸ hactual
  · exact fun h => ⟨expected, h, reject_eq_ok.mpr (not_not.mpr rfl)⟩

theorem named_eq_ok {found : Option ℕ} {missing : NativeTransferError} :
    named found missing = .ok handle ↔ found = some handle := by
  cases found with
  | none => exact iff_of_false (by simp [named]) (by simp)
  | some other => simp [named]

/-! ## What the calls may do -/

/-- Why a stage may be removed: it is shorter than it has to be and no object, or there is an
object that holds what it holds. -/
def Removable (sha256 : Sha256) (blake3 : Blake3) (call : Call) (d : Disk) (handle : ℕ)
    (node : FileNode) : Prop :=
  (∃ length ∈ call.discards, node.bytes.length < length ∧ ¬ d.Linked handle) ∨
  ∃ snapshot ∈ call.publishes, snapshot = .of sha256 blake3 node.bytes ∧
    ∃ object found, d.HasObject snapshot.sha256 object found ∧
      snapshot = .of sha256 blake3 found.bytes

/-- A stage that its call may still write to. -/
structure Disk.Writing (d : Disk) (operationId : Uuid) (handle : ℕ) : Prop where
  stage : d.stage operationId = some handle
  unlinked : ¬ d.Linked handle

/-- The steps of a call. -/
def Allowed (sha256 : Sha256) (blake3 : Blake3) (call : Call) : Step → Disk → Prop
  | .createStage operationId, _ => operationId = call.operationId
  | .harden handle, d => d.Writing call.operationId handle
  | .write handle _, d => d.Writing call.operationId handle
  | .hardLink operationId digest, d => operationId = call.operationId ∧
      ∀ handle, d.stage operationId = some handle → ¬ d.Linked handle ∧
        ∃ node, d.nodes[handle]? = some node ∧ node.isPrivate = true ∧
          hexSha256 sha256 node.bytes = digest
  | .removeStage operationId, d => operationId = call.operationId ∧
      ∀ handle node, d.HasStage operationId handle node →
        Removable sha256 blake3 call d handle node
  | _, _ => True

/-- What may have been done since, by anybody. -/
structure Since (sha256 : Sha256) (d t : Disk) : Prop where
  objects : ∀ {digest handle node}, d.HasObject digest handle node → t.HasObject digest handle node
  /-- A file that was there is not made a stage. -/
  staged : ∀ {operationId handle}, t.stage operationId = some handle →
    handle < d.nodes.length → d.stage operationId = some handle
  length_le : d.nodes.length ≤ t.nodes.length
  sound : d.Sound sha256 → t.Sound sha256

/-- What the other operations may have done since. -/
structure Rely (sha256 : Sha256) (operationId : Uuid) (d t : Disk) : Prop
    extends Since sha256 d t where
  own : t.stage operationId = d.stage operationId
  own_node : ∀ {handle node}, d.HasStage operationId handle node →
    t.HasStage operationId handle node
  own_object : ∀ {handle digest}, d.stage operationId = some handle →
    t.object digest = some handle → d.object digest = some handle

namespace Since

theorem refl (d : Disk) : Since sha256 d d := ⟨id, fun h _ => h, le_rfl, id⟩

theorem trans (h : Since sha256 d t) (h' : Since sha256 t u) : Since sha256 d u where
  objects hobject := h'.objects (h.objects hobject)
  staged hstage hlt := h.staged (h'.staged hstage (Nat.lt_of_lt_of_le hlt h.length_le)) hlt
  length_le := h.length_le.trans h'.length_le
  sound hd := h'.sound (h.sound hd)

/-- An object that is no stage does not become one. -/
theorem not_staged (h : Since sha256 d t) (hd : d.Sound sha256)
    (hobject : d.object digest = some handle) (hunstaged : ¬ d.Staged handle) :
    ¬ t.Staged handle := by
  rintro ⟨operationId, hstage⟩
  exact hunstaged ⟨operationId, h.staged hstage (hd.object_lt hobject)⟩

end Since

theorem interference_rely : Interference (Rely sha256 operationId) where
  refl d := ⟨.refl d, rfl, id, fun _ h => h⟩
  trans h h' := ⟨h.toSince.trans h'.toSince, h'.own.trans h.own,
    fun hstage => h'.own_node (h.own_node hstage), fun hstage hobject =>
      h.own_object hstage (h'.own_object (h.own.trans hstage) hobject)⟩

theorem Disk.Writing.rely (h : d.Writing operationId handle) (hrely : Rely sha256 operationId d t) :
    t.Writing operationId handle := by
  refine ⟨hrely.own.trans h.stage, ?_⟩
  rintro ⟨digest, hobject⟩
  exact h.unlinked ⟨digest, hrely.own_object h.stage hobject⟩

/-! ### What each change keeps -/

theorem lt_of_node (hnode : d.nodes[handle]? = some node) : handle < d.nodes.length :=
  (List.getElem?_eq_some_iff.mp hnode).1

section Changes

variable (hd : d.Sound sha256)
include hd

theorem since_withStage (operationId : Uuid) (mode : ℕ) :
    Since sha256 d (d.withStage operationId mode) where
  objects := by
    intro digest handle node hobject
    refine ⟨hobject.object, ?_⟩
    rw [Disk.nodes_withStage_of_lt _ _ _ (lt_of_node hobject.node), hobject.node]
  staged := by
    intro other handle hstage hlt
    rw [Disk.stage_withStage] at hstage
    split at hstage
    · cases hstage
      exact absurd hlt (Nat.lt_irrefl _)
    · exact hstage
  length_le := by simp [Disk.withStage]
  sound _ := by
    have hold : ∀ other handle, d.stage other = some handle → handle ≠ d.nodes.length :=
      fun other handle hstage => (hd.stage_lt other handle hstage).ne
    refine ⟨?_, hd.object_unique, ?_, ?_⟩
    · intro first second handle hfirst hsecond
      rw [Disk.stage_withStage] at hfirst hsecond
      split at hfirst <;> split at hsecond
      · rename_i h h'
        exact h.symm.trans h'
      · cases hfirst
        exact absurd rfl (hold _ _ hsecond)
      · cases hsecond
        exact absurd rfl (hold _ _ hfirst)
      · exact hd.stage_unique _ _ _ hfirst hsecond
    · intro other handle hstage
      have hlength : (d.withStage operationId mode).nodes.length = d.nodes.length + 1 := by
        simp [Disk.withStage]
      rw [Disk.stage_withStage] at hstage
      split at hstage
      · cases hstage
        omega
      · have hlt := hd.stage_lt _ _ hstage
        omega
    · intro digest handle hobject
      obtain ⟨node, hnode, hrest⟩ := hd.object digest handle hobject
      exact ⟨node, by rw [Disk.nodes_withStage_of_lt _ _ _ (lt_of_node hnode), hnode], hrest⟩

theorem since_modify (hunlinked : ¬ d.Linked handle) (f : FileNode → FileNode) :
    Since sha256 d (d.modify handle f) := by
  have hobjects : ∀ digest other, d.object digest = some other →
      (d.modify handle f).nodes[other]? = d.nodes[other]? := by
    intro digest other hobject
    refine Disk.nodes_modify_of_ne d handle f ?_
    rintro rfl
    exact hunlinked ⟨digest, hobject⟩
  have hlength : (d.modify handle f).nodes.length = d.nodes.length := by simp [Disk.modify]
  refine ⟨fun hobject => ⟨hobject.object, ?_⟩, fun hstage _ => hstage, hlength.ge, fun _ => ?_⟩
  · rw [hobjects _ _ hobject.object, hobject.node]
  · refine ⟨hd.stage_unique, hd.object_unique, ?_, ?_⟩
    · intro other handle' hstage
      rw [hlength]
      exact hd.stage_lt other handle' hstage
    · intro digest other hobject
      rw [hobjects digest other hobject]
      exact hd.object digest other hobject

theorem since_withObject (hnode : d.nodes[handle]? = some node) (hunlinked : ¬ d.Linked handle)
    (hprivate : node.isPrivate = true) (hdigest : hexSha256 sha256 node.bytes = digest)
    (hfree : d.object digest = none) : Since sha256 d (d.withObject digest handle) where
  objects := by
    intro digest' handle' node' hobject
    refine ⟨?_, hobject.node⟩
    rw [Disk.object_withObject, if_neg, hobject.object]
    rintro rfl
    exact absurd (hfree.symm.trans hobject.object) (by simp)
  staged hstage _ := hstage
  length_le := le_rfl
  sound _ := by
    refine ⟨hd.stage_unique, ?_, hd.stage_lt, ?_⟩
    · intro first second other hfirst hsecond
      rw [Disk.object_withObject] at hfirst hsecond
      split at hfirst <;> split at hsecond
      · rename_i h h'
        exact h.symm.trans h'
      · cases hfirst
        exact absurd ⟨second, hsecond⟩ hunlinked
      · cases hsecond
        exact absurd ⟨first, hfirst⟩ hunlinked
      · exact hd.object_unique _ _ _ hfirst hsecond
    · intro digest' other hobject
      rw [Disk.object_withObject] at hobject
      split at hobject
      · rename_i h
        cases hobject
        exact ⟨node, hnode, hprivate, hdigest.trans h⟩
      · exact hd.object _ _ hobject

theorem since_withoutStage (operationId : Uuid) :
    Since sha256 d (d.withoutStage operationId) := by
  have hless : ∀ other handle, (d.withoutStage operationId).stage other = some handle →
      d.stage other = some handle := by
    intro other handle hstage
    rw [Disk.stage_withoutStage] at hstage
    split at hstage
    · cases hstage
    · exact hstage
  exact ⟨fun hobject => ⟨hobject.object, hobject.node⟩, fun hstage _ => hless _ _ hstage, le_rfl,
    fun _ => ⟨fun first second handle hfirst hsecond =>
      hd.stage_unique _ _ _ (hless _ _ hfirst) (hless _ _ hsecond), hd.object_unique,
      fun other handle hstage => hd.stage_lt _ _ (hless _ _ hstage), hd.object⟩⟩

end Changes

/-! ### Steps -/

/-- **The steps of a call.**  A step leaves everything; or it makes a stage of a new file,
changes the stage that is being written, gives a stage that is no object yet to the name of its
digest, or removes a stage. -/
theorem Allowed.cases {call : Call} (h : Allowed sha256 blake3 call st d) (umask : ℕ) :
    (st.run umask d).2 = d ∨
    d.stage call.operationId = none ∧
      (st.run umask d).2 = d.withStage call.operationId (Snapshots.fileMode umask) ∨
    (∃ handle f, d.Writing call.operationId handle ∧ (st.run umask d).2 = d.modify handle f) ∨
    (∃ digest handle node, d.HasStage call.operationId handle node ∧ ¬ d.Linked handle ∧
      node.isPrivate = true ∧ hexSha256 sha256 node.bytes = digest ∧ d.object digest = none ∧
      (st.run umask d).2 = d.withObject digest handle) ∨
    (∃ handle, d.stage call.operationId = some handle ∧
      (∀ node, d.HasStage call.operationId handle node →
        Removable sha256 blake3 call d handle node) ∧
      (st.run umask d).2 = d.withoutStage call.operationId) := by
  cases st with
  | createStage operationId =>
      cases h
      rw [Step.run]
      split
      · exact .inl rfl
      · rename_i hnone
        exact .inr (.inl ⟨by simpa using hnone, rfl⟩)
  | harden handle => exact .inr (.inr (.inl ⟨handle, _, h, rfl⟩))
  | write handle byte => exact .inr (.inr (.inl ⟨handle, _, h, rfl⟩))
  | syncFile handle => exact .inl rfl
  | syncStaging => exact .inl rfl
  | syncObjects => exact .inl rfl
  | hardLink operationId digest =>
      obtain ⟨rfl, hlink⟩ := h
      rw [Step.run]
      cases hstage : d.stage call.operationId with
      | none => exact .inl rfl
      | some handle =>
          obtain ⟨hunlinked, node, hnode, hprivate, hdigest⟩ := hlink handle hstage
          dsimp only
          split
          · exact .inl rfl
          · rename_i hfree
            exact .inr (.inr (.inr (.inl ⟨digest, handle, node, ⟨hstage, hnode⟩, hunlinked,
              hprivate, hdigest, by simpa using hfree, rfl⟩)))
  | removeStage operationId =>
      obtain ⟨rfl, hremove⟩ := h
      rw [Step.run]
      cases hstage : d.stage call.operationId with
      | none => exact .inl rfl
      | some handle =>
          exact .inr (.inr (.inr (.inr ⟨handle, rfl, hremove handle, rfl⟩)))

section Steps

variable {call : Call} (h : Allowed sha256 blake3 call st d) (hd : d.Sound sha256)
include h hd

theorem Allowed.since (umask : ℕ) : Since sha256 d (st.run umask d).2 := by
  rcases h.cases umask with hsame | ⟨-, hchange⟩ | ⟨handle, f, hwriting, hchange⟩ |
    ⟨digest, handle, node, hstage, hunlinked, hprivate, hdigest, hfree, hchange⟩ |
    ⟨handle, -, -, hchange⟩
  · rw [hsame]
    exact .refl d
  · rw [hchange]
    exact since_withStage hd _ _
  · rw [hchange]
    exact since_modify hd hwriting.unlinked f
  · rw [hchange]
    exact since_withObject hd hstage.node hunlinked hprivate hdigest hfree
  · rw [hchange]
    exact since_withoutStage hd _

/-- The steps of one operation are what the others rely on. -/
theorem Allowed.rely (umask : ℕ) (hother : call.operationId ≠ other) :
    Rely sha256 other d (st.run umask d).2 := by
  suffices hown : (st.run umask d).2.stage other = d.stage other ∧
      (∀ {handle node}, d.HasStage other handle node →
        (st.run umask d).2.HasStage other handle node) ∧
      ∀ {handle digest}, d.stage other = some handle →
        (st.run umask d).2.object digest = some handle → d.object digest = some handle from
    ⟨h.since hd umask, hown.1, hown.2.1, hown.2.2⟩
  rcases h.cases umask with hsame | ⟨-, hchange⟩ | ⟨handle, f, hwriting, hchange⟩ |
    ⟨digest, handle, node, hstage, hunlinked, hprivate, hdigest, hfree, hchange⟩ |
    ⟨handle, -, -, hchange⟩
  · rw [hsame]
    exact ⟨rfl, id, fun _ h => h⟩
  · rw [hchange]
    refine ⟨?_, fun hstage => ⟨?_, ?_⟩, fun _ h => h⟩
    · rw [Disk.stage_withStage, if_neg hother]
    · rw [Disk.stage_withStage, if_neg hother, hstage.stage]
    · rw [Disk.nodes_withStage_of_lt _ _ _ (lt_of_node hstage.node), hstage.node]
  · rw [hchange]
    refine ⟨rfl, fun hstage => ⟨hstage.stage, ?_⟩, fun _ h => h⟩
    rw [Disk.nodes_modify_of_ne, hstage.node]
    rintro rfl
    exact hother (hd.stage_unique _ _ _ hwriting.stage hstage.stage)
  · rw [hchange]
    refine ⟨rfl, fun hstage => ⟨hstage.stage, hstage.node⟩, fun hstage' hobject => ?_⟩
    rw [Disk.object_withObject] at hobject
    split at hobject
    · cases hobject
      exact absurd (hd.stage_unique _ _ _ hstage.stage hstage') hother
    · exact hobject
  · rw [hchange]
    refine ⟨?_, fun hstage => ⟨?_, hstage.node⟩, fun _ h => h⟩
    · rw [Disk.stage_withoutStage, if_neg hother]
    · rw [Disk.stage_withoutStage, if_neg hother, hstage.stage]

end Steps

end PrivateTransferStore
end MyVault
