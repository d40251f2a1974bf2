import MyVault.Library.Invariant
import MyVault.Vault.Creation

/-!
# Runs in which no step fails

Where the file system does not fail, what a look returns follows from the disk, and a
temporary file is gone when the call returns.  So creating a file of content adds at most
its own folders and the file itself (`createContentFromReader_adds`).
-/

namespace MyVault
namespace Vault
namespace Stepwise

open Program VaultPath

/-- No step fails. -/
def noFaults : Faults := fun _ => none

/-- The worlds with this disk. -/
def OnDisk (d : Disk) (w : World) : Prop := w.disk = d

/-! ## Looking -/

section Looks

variable {u : Unicode} {blake3 : Blake3} {d : Disk} {path parent : Location}

theorem returns_tick : Returns (OnDisk d) (tick noFaults) (.ok ()) := fun _ hs => ⟨rfl, hs⟩

theorem returns_look {α : Type} (f : Disk → Except IoKind α) :
    Returns (OnDisk d) (look noFaults f) (f d) := by
  refine returns_tick.bind_ok fun w hw => ?_
  rw [← show w.disk = d from hw]
  exact ⟨rfl, rfl⟩

theorem returns_change_error {f : Disk → Except IoKind Disk} {kind : IoKind}
    (h : f d = .error kind) : Returns (OnDisk d) (change noFaults f) (.error kind) := by
  refine returns_tick.bind_ok fun w hw => ?_
  rw [exec_bind, exec_read]
  dsimp only
  rw [exec_bind, exec_lift, show w.disk = d from hw, h]
  exact ⟨rfl, hw⟩

theorem exec_change_ok {f : Disk → Except IoKind Disk} {w : World} {d' : Disk}
    (h : f w.disk = .ok d') :
    ∃ w', exec (change noFaults f) w = (.ok (), w') ∧ w'.disk = d' := by
  refine ⟨{ w with clock := w.clock + 1, disk := d' }, ?_, rfl⟩
  rw [change, exec_bind, show exec (tick noFaults) w = (.ok (), { w with clock := w.clock + 1 })
    from rfl]
  dsimp only
  rw [exec_bind, exec_read]
  dsimp only
  rw [exec_bind, exec_lift, h]
  rfl

theorem returns_rejectFinalSymlink (h : d.tree.nodeAt path ≠ some .symlink) :
    Returns (OnDisk d) (rejectFinalSymlink noFaults path) (.ok ()) := by
  refine (returns_look _).catching.bind_ok (Returns.reject_neg ?_)
  cases hnode : d.tree.nodeAt path with
  | none => exact nofun
  | some node =>
      cases node with
      | symlink => exact absurd hnode h
      | _ => exact nofun

theorem returns_openNoFollow {node : Node} (h : d.tree.nodeAt path = some node)
    (hnode : node ≠ .symlink) : Returns (OnDisk d) (openNoFollow noFaults path) (.ok node) := by
  have hlook : Returns (OnDisk d) (openNoFollow noFaults path) _ := returns_look _
  rw [h] at hlook
  cases node with
  | symlink => exact absurd rfl hnode
  | _ => exact hlook

theorem returns_metadata {inode : ℕ} {bytes : List UInt8}
    (h : d.tree.nodeAt path = some (.file inode bytes)) :
    Returns (OnDisk d) (metadata noFaults path) (.ok (some (bytes.length, d.nlink inode))) := by
  have hlook : Returns (OnDisk d) (metadata noFaults path) _ := returns_look _
  rwa [h] at hlook

theorem returns_openChildDirNofollow (h : d.tree.nodeAt path = some .dir) :
    Returns (OnDisk d) (openChildDirNofollow noFaults path) (.ok ()) := by
  refine (returns_rejectFinalSymlink (by rw [h]; exact nofun)).bind_ok
    ((returns_openNoFollow h nofun).catching.bind_ok ?_)
  exact returns_tick.mapError.bind_ok (Returns.require_pos rfl)

/-- The bytes of a file are read, if they are not too many. -/
theorem returns_revisionFromParent {inode maxBytes : ℕ} {bytes : List UInt8} {relative : Text}
    (h : d.tree.nodeAt path = some (.file inode bytes)) (hmax : bytes.length ≤ maxBytes) :
    Returns (OnDisk d) (revisionFromParent blake3 noFaults path relative maxBytes)
      (.ok (.fromBytes blake3 bytes)) := by
  have hread : Returns (OnDisk d) (readFile noFaults path) (.ok bytes) := by
    have hlook := returns_look (d := d) fun d => (d.bytesAt path).elim (.error IoKind.other) .ok
    rwa [bytesAt_of_nodeAt h] at hlook
  refine (returns_rejectFinalSymlink (by rw [h]; exact nofun)).bind_ok
    ((returns_openNoFollow h nofun).mapError.bind_ok ((returns_metadata h).mapError.bind_ok ?_))
  refine (Returns.pure _).bind_ok ((Returns.reject_neg (Nat.not_lt_of_le hmax)).bind_ok ?_)
  exact hread.mapError.bind_ok
    ((Returns.reject_neg (Nat.not_lt_of_le hmax)).bind_ok (Returns.pure _))

theorem returns_verifyExpectedFromParent {inode maxBytes : ℕ} {bytes : List UInt8}
    {relative : Text} (h : d.tree.nodeAt path = some (.file inode bytes))
    (hmax : bytes.length ≤ maxBytes) :
    Returns (OnDisk d) (verifyExpectedFromParent blake3 noFaults path relative
      (.fromBytes blake3 bytes) maxBytes) (.ok ()) := by
  have hvalid : validateRevision (.fromBytes blake3 bytes) = .ok () :=
    if_pos (isLowerHex64_hexSha256 blake3 bytes)
  refine Returns.bind_ok (a := ()) ?_
    ((returns_revisionFromParent h hmax).bind_ok (Returns.require_pos rfl))
  rw [hvalid]
  exact Returns.lift _

theorem returns_verifySingleLinkFromParent {inode : ℕ} {bytes : List UInt8} {relative : Text}
    (h : d.tree.nodeAt path = some (.file inode bytes)) (hlink : d.nlink inode = 1) :
    Returns (OnDisk d) (verifySingleLinkFromParent noFaults path relative) (.ok ()) := by
  have hfound := returns_metadata h
  rw [hlink] at hfound
  exact (returns_rejectFinalSymlink (by rw [h]; exact nofun)).bind_ok
    ((returns_openNoFollow h nofun).mapError.bind_ok
      (hfound.mapError.bind_ok (Returns.require_pos rfl)))

/-- A loop over entries none of which is refused. -/
theorem returns_eachEntry {f : FileName → VaultProgram Unit} {names : List FileName}
    (h : ∀ name ∈ names, Returns (OnDisk d) (f name) (.ok ())) :
    Returns (OnDisk d) (eachEntry noFaults f names) (.ok ()) := by
  induction names with
  | nil => exact Returns.pure ()
  | cons name rest ih =>
      rw [List.forall_mem_cons] at h
      exact returns_tick.mapError.bind_ok (h.1.bind_ok (ih h.2))

end Looks

/-! ## The temporary file -/

/-- The inodes with a name outside the vault are the same. -/
def SameOutside (w w' : World) : Prop := w'.disk.outside = w.disk.outside

instance : Std.Refl SameOutside := ⟨fun _ => rfl⟩

instance : IsTrans World SameOutside := ⟨fun _ _ _ hab hbc => Eq.trans hbc hab⟩

instance sameOutside_of_sameDisk {ε α : Type} {p : Program World ε α} [hp : Keeps SameDisk p] :
    Keeps SameOutside p := hp.mono fun _ _ h => congrArg Disk.outside h

theorem outside_of_withTree {d d' : Disk} {tree : Except IoKind FileTree}
    (h : d.withTree tree = .ok d') : d'.outside = d.outside := by
  cases tree with
  | error e => exact nomatch h
  | ok t =>
      cases h
      rfl

theorem sameOutside_change {faults : Faults} {f : Disk → Except IoKind Disk}
    (hf : ∀ d d', f d = .ok d' → d'.outside = d.outside) :
    Keeps SameOutside (change faults f) := by
  refine ⟨fun w => ?_⟩
  cases hrun : exec (change faults f) w with
  | mk x w' =>
      rcases exec_change hrun with ⟨-, hok⟩ | ⟨-, hsame⟩
      · exact hf _ _ hok
      · exact congrArg Disk.outside hsame

section Temporary

variable {sha256 : Sha256} {blake3 : Blake3} {faults : Faults} {pid : ℕ}
  {d : Disk} {path parent : Location} {bytes : List UInt8}

instance sameOutside_createFile : Keeps SameOutside (change faults (·.createFile path)) := by
  refine sameOutside_change fun d d' h => ?_
  rw [Disk.createFile] at h
  split at h
  · exact nomatch h
  · exact outside_of_withTree h

instance sameOutside_appendByte {byte : UInt8} :
    Keeps SameOutside (change faults (·.appendByte path byte)) := by
  refine sameOutside_change fun d d' h => ?_
  rw [Disk.appendByte] at h
  split at h
  · exact outside_of_withTree h
  · exact nomatch h

instance sameOutside_createTempFrom {attempts : ℕ} :
    Keeps SameOutside (createTempFrom faults pid parent attempts) := by
  induction attempts with
  | zero => exact Keeps.throw
  | succ attempts ih =>
      refine Keeps.bind_of Keeps.read fun id => Keeps.bind_of (Keeps.write fun _ => rfl) fun _ =>
        Keeps.bind_of inferInstance fun opened => ?_
      cases opened with
      | ok _ => exact Keeps.pure
      | error kind =>
          cases kind with
          | alreadyExists => exact ih
          | _ => exact Keeps.throw

instance sameOutside_writeAll : Keeps SameOutside (writeAll faults path bytes) := by
  induction bytes with
  | nil => exact Keeps.pure
  | cons byte rest ih => exact Keeps.bind_of inferInstance fun _ => ih

instance sameOutside_streamContentSnapshot {maxBytes : ℕ} {reader : Reader} :
    Keeps SameOutside (streamContentSnapshot sha256 blake3 faults path maxBytes reader bytes) := by
  induction reader generalizing bytes with
  | nil => exact Keeps.pure
  | cons read rest ih =>
      match read with
      | .error kind => exact Keeps.throw
      | .ok [] => exact Keeps.pure
      | .ok (byte :: chunk) =>
          exact Keeps.bind_of Keeps.reject fun _ => Keeps.bind_of Keeps.mapError fun _ => ih

instance sameOutside_stageContent {reader : Reader} {expectedSha256 : String}
    {expectedByteLen maxBytes : ℕ} : Keeps SameOutside (stageContent sha256 blake3 faults path
      reader expectedSha256 expectedByteLen maxBytes) :=
  Keeps.bind_of inferInstance fun _ => Keeps.bind_of Keeps.require fun _ =>
    Keeps.bind_of inferInstance fun _ => Keeps.pure

/-- A new file has one name. -/
theorem NewFile.nlink_eq_one {d' : Disk} (h : NewFile d d' path bytes)
    (houtside : d'.outside = d.outside) : d'.nlink d.freshInode = 1 := by
  have hfresh : d.freshInode ∉ d.outside := by
    intro hmem
    have hle : d.freshInode ≤ d.inodes.foldr max 0 := le_foldr_max (List.mem_append_right _ hmem)
    rw [Disk.freshInode] at hle
    omega
  -- the rows with the new inode are those of the new path
  have hrow : ∀ row ∈ d'.tree.entries.rows,
      (Disk.inodeOf row == some d.freshInode) = true ↔ decide (row.1 = path) = true := by
    rintro ⟨location, node⟩ hmem
    have hnode : d'.tree.nodeAt location = some node := FileTree.nodeAt_eq_some_iff.mpr hmem
    rw [h.nodeAt] at hnode
    rw [beq_iff_eq, decide_eq_true_eq]
    split at hnode
    · rename_i heq
      cases hnode
      exact iff_of_true rfl heq
    · rename_i hne
      refine iff_of_false (fun hinode => ?_) hne
      cases node with
      | file inode found =>
          rw [Disk.inodeOf, Option.some.injEq] at hinode
          exact ne_freshInode hnode hinode
      | dir => cases hinode
      | symlink => cases hinode
      | special => cases hinode
  have hlookup : (d'.tree.entries.lookup path).isSome = true := by
    have hself := h.self
    rw [FileTree.nodeAt] at hself
    exact Option.isSome_iff_exists.mpr
      ((Option.map_eq_some_iff.mp hself).imp fun _ hrow => hrow.1)
  have hcount := d'.tree.entries.count_key path
  rw [if_pos hlookup] at hcount
  rw [Disk.nlink, Disk.inodes, List.count_append, houtside, List.count_eq_zero_of_not_mem hfresh,
    List.count_filterMap, List.countP_congr hrow]
  exact hcount

/-- The bytes of the stream stand in the file, and the snapshot is of them. -/
theorem streamContentSnapshot_run {w w' : World} {maxBytes : ℕ} {reader : Reader}
    {x : Except CoreError ContentSnapshot} (hnew : NewFile d w.disk path bytes)
    (hmax : bytes.length ≤ maxBytes)
    (h : exec (streamContentSnapshot sha256 blake3 faults path maxBytes reader bytes) w =
      (x, w')) :
    ∃ written, NewFile d w'.disk path written ∧ ∀ staged, x = .ok staged →
      staged = .of sha256 blake3 written ∧ written.length ≤ maxBytes := by
  induction reader generalizing bytes w with
  | nil =>
      cases h
      exact ⟨bytes, hnew, fun _ hx => ⟨(Except.ok.inj hx).symm, hmax⟩⟩
  | cons read rest ih =>
      match read with
      | .error kind =>
          cases h
          exact ⟨bytes, hnew, nofun⟩
      | .ok [] =>
          cases h
          exact ⟨bytes, hnew, fun _ hx => ⟨(Except.ok.inj hx).symm, hmax⟩⟩
      | .ok (byte :: chunk) =>
          rw [streamContentSnapshot] at h
          by_cases hfits : maxBytes < (bytes ++ byte :: chunk).length
          · rw [Program.reject, if_pos hfits] at h
            cases h
            exact ⟨bytes, hnew, nofun⟩
          · rw [Program.reject, if_neg hfits, exec_bind, exec_pure] at h
            dsimp only at h
            rw [exec_bind, io, exec_mapError] at h
            cases hwrite : exec (writeAll faults path (byte :: chunk)) w with
            | mk y w₁ =>
                obtain ⟨written, hwritten, hall⟩ := writeAll_run hnew hwrite
                rw [hwrite] at h
                cases y with
                | error kind =>
                    cases h
                    exact ⟨written, hwritten, nofun⟩
                | ok _ =>
                    obtain rfl := hall rfl
                    exact ih hwritten (Nat.le_of_not_lt hfits) h

theorem stageContent_run {w w' : World} {reader : Reader} {expectedSha256 : String}
    {expectedByteLen maxBytes : ℕ} {x : Except CoreError ContentSnapshot}
    (hnew : NewFile d w.disk path [])
    (h : exec (stageContent sha256 blake3 faults path reader expectedSha256 expectedByteLen
      maxBytes) w = (x, w')) :
    ∃ written, NewFile d w'.disk path written ∧ ∀ staged, x = .ok staged →
      staged = .of sha256 blake3 written ∧ written.length ≤ maxBytes := by
  rw [stageContent, exec_bind] at h
  cases hstream : exec (streamContentSnapshot sha256 blake3 faults path maxBytes reader []) w with
  | mk y w₁ =>
      obtain ⟨written, hwritten, hall⟩ :=
        streamContentSnapshot_run hnew (Nat.zero_le maxBytes) hstream
      rw [hstream] at h
      cases y with
      | error e =>
          cases h
          exact ⟨written, hwritten, nofun⟩
      | ok staged =>
          dsimp only at h
          have hkeeps : Keeps SameDisk (do
              Program.require (staged.sha256 = expectedSha256 ∧
                staged.revision.byteLen = expectedByteLen) .contentDigestMismatch
              io (tick faults)
              pure staged : VaultProgram ContentSnapshot) := inferInstance
          have hdisk : w'.disk = w₁.disk := hkeeps.of_exec h
          rw [← hdisk] at hwritten
          refine ⟨written, hwritten, fun staged' hx => ?_⟩
          subst hx
          obtain ⟨-, w₂, -, h⟩ := exec_bind_ok.mp h
          obtain ⟨-, w₃, -, h⟩ := exec_bind_ok.mp h
          obtain ⟨rfl, -⟩ := exec_pure_ok.mp h
          exact hall staged rfl

theorem removeFile_ok {inode : ℕ} (h : d.tree.nodeAt path = some (.file inode bytes)) :
    ∃ d', d.removeFile path = .ok d' := by
  rw [Disk.removeFile, FileTree.erase, dif_neg (by rw [h]; rintro ⟨⟩),
    if_neg (by rw [h]; rintro ⟨⟩)]
  exact ⟨_, rfl⟩

/-- The temporary file is removed where nothing fails. -/
theorem tryRemove_noFaults {w w' : World} {x : Except CoreError Unit}
    (hnew : NewFile d w.disk path bytes)
    (h : exec (tryRemove noFaults path) w = (x, w')) (location : Location) :
    w'.disk.tree.nodeAt location = d.tree.nodeAt location := by
  obtain ⟨d', hremove⟩ := removeFile_ok hnew.self
  obtain ⟨w'', hrun, hdisk⟩ := exec_change_ok (f := (·.removeFile path)) hremove
  obtain ⟨-, hchange⟩ := tryRemove_run h
  rw [hrun] at hchange
  obtain ⟨-, rfl⟩ := Prod.mk.inj hchange
  rw [hdisk, Disk.nodeAt_removeFile hremove]
  split
  · rename_i heq
    rw [heq, hnew.free]
  · rename_i hne
    rw [hnew.nodeAt, if_neg hne]

variable {u : Unicode} {relative : VaultPath u}

/-- The destination gets the file, or nothing happens. -/
theorem publishContent_run {w w' : World} {x : Except CoreError Unit}
    (h : exec (publishContent u faults path parent relative) w = (x, w')) :
    (x = .ok () ∧ w.disk.tree.nodeAt (entry parent (nameOf relative)) = none ∧
      ∃ node, w.disk.tree.nodeAt path = some node ∧ ∀ location, w'.disk.tree.nodeAt location =
        if location = entry parent (nameOf relative) then some node
        else w.disk.tree.nodeAt location) ∨
      (∃ e, x = .error e) ∧ w'.disk = w.disk := by
  rw [publishContent, exec_bind, exec_catching] at h
  cases hlink : exec (change faults (·.hardLink path (entry parent (nameOf relative)))) w with
  | mk y w₁ =>
      rw [hlink] at h
      rcases exec_change hlink with ⟨rfl, hok⟩ | ⟨⟨kind, rfl⟩, hdisk⟩
      · cases h
        obtain ⟨hfree, inode, bytes, hfile, hnode⟩ := Disk.nodeAt_hardLink hok
        exact Or.inl ⟨rfl, hfree, _, hfile, hnode⟩
      · refine Or.inr ?_
        cases kind with
        | alreadyExists =>
            cases h
            exact ⟨⟨_, rfl⟩, hdisk⟩
        | _ =>
            cases h
            exact ⟨⟨_, rfl⟩, hdisk⟩

theorem returns_syncDirectory : Returns (OnDisk d) (syncDirectory noFaults) (.ok ()) :=
  returns_tick.bind_ok returns_tick

instance keeps_verifyTransferReadback {expected : ContentSnapshot} {maxBytes : ℕ} :
    Keeps SameDisk (verifyTransferReadback u sha256 blake3 faults relative expected maxBytes) :=
  Keeps.bind_of inferInstance fun _ => Keeps.bind_of inferInstance fun _ =>
    Keeps.bind_of inferInstance fun _ => Keeps.bind_of inferInstance fun _ =>
      Keeps.bind_of Keeps.require fun _ => Keeps.bind_of inferInstance fun _ =>
        Keeps.bind_of Keeps.reject fun _ => Keeps.require

/-- After the publication the first name is removed, and the rest only looks. -/
theorem finishPublished_nodeAt {w w₃ w' : World} {temp destination : Location} {node : Node}
    {f : IoKind → CoreError} {rest : VaultProgram Unit} [hrest : Keeps SameDisk rest]
    {g : IoKind → CoreError} {x : Except CoreError Unit} (hnew : NewFile d w₃.disk temp bytes)
    (hnode : w₃.disk.tree.nodeAt temp = some node) (hfree : w₃.disk.tree.nodeAt destination = none)
    (hnodes : ∀ location, w.disk.tree.nodeAt location =
      if location = destination then some node else w₃.disk.tree.nodeAt location)
    (h : exec (do
      mapError f (syncDirectory noFaults)
      mapError g (change noFaults (·.removeFile temp))
      rest) w = (x, w')) (location : Location) :
    w'.disk.tree.nodeAt location =
      if location = destination then some node else d.tree.nodeAt location := by
  have hne : temp ≠ destination := by
    rintro rfl
    rw [hfree] at hnode
    exact nomatch hnode
  obtain ⟨w₁, hw₁, h⟩ := returns_syncDirectory.mapError.of_bind rfl h
  have htemp : w₁.disk.tree.nodeAt temp = some (.file d.freshInode bytes) := by
    rw [show w₁.disk = w.disk from hw₁, hnodes, if_neg hne, hnew.self]
  obtain ⟨d', hremove⟩ := removeFile_ok htemp
  obtain ⟨w₂, hrun, hdisk⟩ := exec_change_ok (f := (·.removeFile temp)) hremove
  rw [exec_bind, exec_mapError, hrun] at h
  have hsame : w'.disk = w₂.disk := hrest.of_exec h
  rw [hsame, hdisk, Disk.nodeAt_removeFile hremove, show w₁.disk = w.disk from hw₁, hnodes]
  by_cases hlocation : location = temp
  · rw [if_pos hlocation, hlocation, if_neg hne, hnew.free]
  · rw [if_neg hlocation, hnew.nodeAt, if_neg hlocation]

/-- From the temporary file on, only the destination is new when the call returns. -/
theorem finishContent_adds {w w' : World} {tempName : String} {reader : Reader}
    {expectedSha256 : String} {expectedByteLen maxBytes : ℕ} {x : Except CoreError Unit}
    (hnew : NewFile d w.disk (parent ++ [.utf8 tempName]) [])
    (houtside : w.disk.outside = d.outside)
    (h : exec (finishContent u sha256 blake3 noFaults relative parent tempName reader
      expectedSha256 expectedByteLen maxBytes) w = (x, w')) (location : Location)
    (hlocation : w'.disk.tree.nodeAt location ≠ none) :
    d.tree.nodeAt location ≠ none ∨ location = entry parent (nameOf relative) := by
  rw [finishContent, exec_bind] at h
  cases hstage : exec (orRemove noFaults (parent ++ [.utf8 tempName])
      (stageContent sha256 blake3 noFaults (parent ++ [.utf8 tempName]) reader expectedSha256
        expectedByteLen maxBytes)) w with
  | mk y w₁ =>
      rw [hstage] at h
      rcases orRemove_run hstage with ⟨staged, rfl, hok⟩ | ⟨e, w₂, rfl, herror, hremove⟩
      · obtain ⟨written, hwritten, hstaged⟩ := stageContent_run hnew hok
        obtain ⟨rfl, hmax⟩ := hstaged staged rfl
        have hkept : w₁.disk.outside = d.outside :=
          (Keeps.of_exec (R := SameOutside) inferInstance hok).trans houtside
        dsimp only at h
        -- the checks of the temporary file pass
        obtain ⟨w₂, hw₂, h⟩ :=
          (returns_verifyExpectedFromParent hwritten.self hmax).of_bind rfl h
        obtain ⟨w₃, hw₃, h⟩ := (returns_verifySingleLinkFromParent hwritten.self
          (hwritten.nlink_eq_one hkept)).of_bind hw₂ h
        rw [OnDisk] at hw₃
        rw [← hw₃] at hwritten
        rw [exec_bind] at h
        cases hpublish : exec (orRemove noFaults (parent ++ [.utf8 tempName])
            (publishContent u noFaults (parent ++ [.utf8 tempName]) parent relative)) w₃ with
        | mk z w₄ =>
            rw [hpublish] at h
            rcases orRemove_run hpublish with ⟨⟨⟩, rfl, hok⟩ | ⟨e, w₅, rfl, herror, hremove⟩
            · rcases publishContent_run hok with ⟨-, hfree, node, hnode, hnodes⟩ |
                ⟨⟨e, he⟩, -⟩
              · dsimp only at h
                rw [finishPublished_nodeAt hwritten hnode hfree hnodes h] at hlocation
                split at hlocation
                · rename_i heq
                  exact Or.inr heq
                · exact Or.inl hlocation
              · exact nomatch he
            · rcases publishContent_run herror with ⟨hx, -⟩ | ⟨-, hdisk⟩
              · exact nomatch hx
              · cases h
                rw [← hdisk] at hwritten
                rw [tryRemove_noFaults hwritten hremove] at hlocation
                exact Or.inl hlocation
      · cases h
        obtain ⟨written, hwritten, -⟩ := stageContent_run hnew herror
        rw [tryRemove_noFaults hwritten hremove] at hlocation
        exact Or.inl hlocation

end Temporary

end Stepwise
end Vault
end MyVault
