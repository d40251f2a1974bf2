import MyVault.Vault.Looks

/-!
# Temporary files and their publication

A write goes to a temporary file that was not there before, under an inode that no other
name has; so a rename or a hard link puts its bytes at the destination and changes the
bytes of no other path, and removing it gives back the bytes from before.
-/

namespace MyVault
namespace Vault
namespace Stepwise

open Program VaultPath

/-- Every path has the bytes it had. -/
def SameBytes (d d' : Disk) : Prop := ∀ location, d'.bytesAt location = d.bytesAt location

/-- One path has new bytes, and every other path has the bytes it had. -/
def Sets (d d' : Disk) (path : Location) (bytes : List UInt8) : Prop :=
  ∀ location, d'.bytesAt location = if location = path then some bytes else d.bytesAt location

/-- A file of its own has come to a free path. -/
structure NewFile (d d' : Disk) (path : Location) (bytes : List UInt8) : Prop where
  free : d.tree.nodeAt path = none
  nodeAt : ∀ location, d'.tree.nodeAt location =
    if location = path then some (.file d.freshInode bytes) else d.tree.nodeAt location

theorem bytesAt_of_nodeAt {d : Disk} {path : Location} {inode : ℕ} {bytes : List UInt8}
    (h : d.tree.nodeAt path = some (.file inode bytes)) : d.bytesAt path = some bytes := by
  rw [Disk.bytesAt, h]

theorem bytesAt_of_free {d : Disk} {path : Location} (h : d.tree.nodeAt path = none) :
    d.bytesAt path = none := by
  rw [Disk.bytesAt, h]

theorem le_foldr_max {n : ℕ} {xs : List ℕ} (h : n ∈ xs) : n ≤ xs.foldr max 0 := by
  induction xs with
  | nil => exact nomatch h
  | cons x xs ih =>
      rw [List.foldr_cons]
      rcases List.mem_cons.mp h with rfl | h
      · exact le_max_left _ _
      · exact (ih h).trans (le_max_right _ _)

theorem ne_freshInode {d : Disk} {path : Location} {inode : ℕ} {bytes : List UInt8}
    (h : d.tree.nodeAt path = some (.file inode bytes)) : inode ≠ d.freshInode := by
  have hmem : inode ∈ d.inodes :=
    List.mem_append_left _ (List.mem_filterMap.mpr
      ⟨(path, .file inode bytes), FileTree.nodeAt_eq_some_iff.mp h, rfl⟩)
  have hle := le_foldr_max hmem
  rw [Disk.freshInode]
  omega

namespace NewFile

variable {d d' d'' : Disk} {path destination : Location} {bytes : List UInt8}

theorem of_createFile (h : d.createFile path = .ok d') : NewFile d d' path [] :=
  ⟨(Disk.nodeAt_createFile h).1, (Disk.nodeAt_createFile h).2⟩

theorem self (h : NewFile d d' path bytes) :
    d'.tree.nodeAt path = some (.file d.freshInode bytes) := by rw [h.nodeAt, if_pos rfl]

theorem appendByte (h : NewFile d d' path bytes) {byte : UInt8}
    (happend : d'.appendByte path byte = .ok d'') : NewFile d d'' path (bytes ++ [byte]) := by
  obtain ⟨inode, found, hfound, hnode⟩ := Disk.nodeAt_appendByte happend
  rw [h.self, Option.some.injEq, Node.file.injEq] at hfound
  obtain ⟨rfl, rfl⟩ := hfound
  refine ⟨h.free, fun location => ?_⟩
  rw [hnode]
  split
  · rfl
  · rename_i hne
    rw [h.nodeAt, if_neg hne]

/-- Removing it gives back what was there. -/
theorem removeFile (h : NewFile d d' path bytes) (hremove : d'.removeFile path = .ok d'') :
    SameBytes d d'' := by
  intro location
  refine Disk.bytesAt_congr ?_
  rw [Disk.nodeAt_removeFile hremove]
  split
  · rename_i heq
    rw [heq, h.free]
  · rename_i hne
    rw [h.nodeAt, if_neg hne]

/-- As long as it is there, its path has other bytes than before. -/
theorem bytesAt_ne (h : NewFile d d' path bytes) : d'.bytesAt path ≠ d.bytesAt path := by
  rw [bytesAt_of_nodeAt h.self, bytesAt_of_free h.free]
  exact nofun

/-- No other path has other bytes. -/
theorem bytesAt_of_ne (h : NewFile d d' path bytes) {location : Location} (hne : location ≠ path) :
    d'.bytesAt location = d.bytesAt location :=
  Disk.bytesAt_congr (by rw [h.nodeAt, if_neg hne])

/-- Renaming it sets the destination, and the path is free unless it is the destination. -/
theorem rename (h : NewFile d d' path bytes) (hrename : d'.rename path destination = .ok d'') :
    Sets d d'' destination bytes ∧ (destination ≠ path → d''.tree.nodeAt path = none) := by
  obtain ⟨inode, found, hfound, -, hcases⟩ := Disk.nodeAt_rename hrename
  rw [h.self, Option.some.injEq, Node.file.injEq] at hfound
  obtain ⟨rfl, rfl⟩ := hfound
  rcases hcases with ⟨rfl, bytes', hsame⟩ | hnode
  · -- two names of one file: the new file has one name only
    have hpath : destination = path := by
      by_contra hne
      rw [h.nodeAt, if_neg hne] at hsame
      exact ne_freshInode hsame rfl
    subst hpath
    refine ⟨fun location => ?_, fun hne => absurd rfl hne⟩
    split
    · rename_i heq
      rw [heq, bytesAt_of_nodeAt h.self]
    · rename_i hne
      exact Disk.bytesAt_congr (by rw [h.nodeAt, if_neg hne])
  · refine ⟨fun location => ?_, fun hne => by rw [hnode, if_neg hne.symm, if_pos rfl]⟩
    split
    · rename_i heq
      rw [heq]
      exact bytesAt_of_nodeAt (by rw [hnode, if_pos rfl])
    · rename_i hne
      refine Disk.bytesAt_congr ?_
      rw [hnode, if_neg hne]
      split
      · rename_i heq
        rw [heq, h.free]
      · rename_i hne
        rw [h.nodeAt, if_neg hne]

/-- A second name for it, and the first one removed. -/
theorem hardLink (h : NewFile d d' path bytes) (hlink : d'.hardLink path destination = .ok d'') :
    ∀ d₃, d''.removeFile path = .ok d₃ → Sets d d₃ destination bytes := by
  intro d₃ hremove location
  obtain ⟨hfree, inode, found, hfound, hnode⟩ := Disk.nodeAt_hardLink hlink
  rw [h.self, Option.some.injEq, Node.file.injEq] at hfound
  obtain ⟨rfl, rfl⟩ := hfound
  have hne : destination ≠ path := by
    rintro rfl
    rw [h.self] at hfree
    exact nomatch hfree
  split
  · rename_i heq
    rw [heq]
    exact bytesAt_of_nodeAt (by rw [Disk.nodeAt_removeFile hremove, if_neg hne, hnode, if_pos rfl])
  · rename_i hother
    refine Disk.bytesAt_congr ?_
    rw [Disk.nodeAt_removeFile hremove]
    split
    · rename_i heq
      rw [heq, h.free]
    · rename_i hpath
      rw [hnode, if_neg hother, h.nodeAt, if_neg hpath]

end NewFile

/-! ## Runs -/

section Runs

variable {faults : Faults} {pid : ℕ} {d : Disk} {path parent : Location} {bytes : List UInt8}

/-- What `create_temp` makes is a new file, and where it fails it has made nothing. -/
theorem createTempFrom_run {attempts : ℕ} {w w' : World} {x : Except CoreError String}
    (h : exec (createTempFrom faults pid parent attempts) w = (x, w')) :
    (∃ e, x = .error e) ∧ w'.disk = w.disk ∨
      ∃ name, x = .ok name ∧ NewFile w.disk w'.disk (parent ++ [.utf8 name]) [] := by
  induction attempts generalizing w with
  | zero =>
      cases h
      exact Or.inl ⟨⟨_, rfl⟩, rfl⟩
  | succ attempts ih =>
      rw [createTempFrom, exec_bind, exec_read] at h
      dsimp only at h
      rw [exec_bind, exec_write] at h
      dsimp only at h
      rw [exec_bind, exec_catching] at h
      dsimp only at h
      cases hopen : exec (change faults
          (·.createFile (parent ++ [.utf8 (tempName pid w.nextTempId)])))
          { w with nextTempId := w.nextTempId + 1 } with
      | mk opened w₁ =>
          rw [hopen] at h
          rcases exec_change hopen with ⟨rfl, hcreate⟩ | ⟨⟨kind, rfl⟩, hsame⟩
          · cases h
            exact Or.inr ⟨_, rfl, NewFile.of_createFile hcreate⟩
          · cases kind with
            | alreadyExists =>
                rcases ih h with ⟨he, hdisk⟩ | ⟨name, hname, hnew⟩
                · exact Or.inl ⟨he, hdisk.trans hsame⟩
                · rw [hsame] at hnew
                  exact Or.inr ⟨name, hname, hnew⟩
            | _ =>
                cases h
                exact Or.inl ⟨⟨_, rfl⟩, hsame⟩

/-- The bytes that were written stand in the file; all of them if nothing failed. -/
theorem writeAll_run {rest : List UInt8} {w w' : World} {x : Except IoKind Unit}
    (hnew : NewFile d w.disk path bytes) (h : exec (writeAll faults path rest) w = (x, w')) :
    ∃ written, NewFile d w'.disk path written ∧ (x = .ok () → written = bytes ++ rest) := by
  induction rest generalizing w bytes with
  | nil =>
      cases h
      exact ⟨bytes, hnew, fun _ => (List.append_nil _).symm⟩
  | cons byte rest ih =>
      rw [writeAll, exec_bind] at h
      cases hchange : exec (change faults (·.appendByte path byte)) w with
      | mk y w₁ =>
          rw [hchange] at h
          rcases exec_change hchange with ⟨rfl, happend⟩ | ⟨⟨kind, rfl⟩, hsame⟩
          · obtain ⟨written, hwritten, hall⟩ := ih (hnew.appendByte happend) h
            refine ⟨written, hwritten, fun hx => ?_⟩
            rw [hall hx, List.append_assoc, List.singleton_append]
          · cases h
            rw [← hsame] at hnew
            exact ⟨bytes, hnew, nofun⟩

theorem writeTemp_run {contents : List UInt8} {w w' : World} {x : Except CoreError Unit}
    (hnew : NewFile d w.disk path []) (h : exec (writeTemp faults path contents) w = (x, w')) :
    ∃ written, NewFile d w'.disk path written ∧ (x = .ok () → written = contents) := by
  rw [writeTemp, exec_bind, io, exec_mapError] at h
  cases hwrite : exec (writeAll faults path contents) w with
  | mk y w₁ =>
      rw [hwrite] at h
      obtain ⟨written, hwritten, hall⟩ := writeAll_run hnew hwrite
      cases y with
      | error kind =>
          cases h
          exact ⟨written, hwritten, nofun⟩
      | ok _ =>
          rw [← same_of_exec h] at hwritten
          exact ⟨written, hwritten, fun _ => hall rfl⟩

/-- Either the file is removed, or nothing happens. -/
theorem tryRemove_run {w w' : World} {x : Except CoreError Unit}
    (h : exec (tryRemove faults path) w = (x, w')) :
    x = .ok () ∧ exec (change faults (·.removeFile path)) w =
      ((exec (change faults (·.removeFile path)) w).1, w') := by
  rw [tryRemove, exec_bind, exec_catching] at h
  cases h
  exact ⟨rfl, rfl⟩

/-- A failure before the publication is passed on, after the attempt to remove the file. -/
theorem orRemove_run {α : Type} {p : VaultProgram α} {w w' : World} {x : Except CoreError α}
    (h : exec (orRemove faults path p) w = (x, w')) :
    (∃ a, x = .ok a ∧ exec p w = (.ok a, w')) ∨
      ∃ e w₁, x = .error e ∧ exec p w = (.error e, w₁) ∧
        exec (tryRemove faults path) w₁ = (.ok (), w') := by
  rw [orRemove, exec_bind, exec_catching] at h
  dsimp only at h
  cases hp : exec p w with
  | mk y w₁ =>
      rw [hp] at h
      cases y with
      | ok a =>
          cases h
          exact Or.inl ⟨a, rfl, rfl⟩
      | error e =>
          dsimp only at h
          rw [exec_bind] at h
          cases hremove : exec (tryRemove faults path) w₁ with
          | mk z w₂ =>
              obtain ⟨rfl, -⟩ := tryRemove_run hremove
              rw [hremove] at h
              cases h
              exact Or.inr ⟨e, w₁, rfl, rfl, hremove⟩

/-- Every path has the bytes it had. -/
def KeptBytes (w w' : World) : Prop := SameBytes w.disk w'.disk

instance : Std.Refl KeptBytes := ⟨fun _ _ => rfl⟩

instance : IsTrans World KeptBytes :=
  ⟨fun _ _ _ hab hbc location => (hbc location).trans (hab location)⟩

instance keptBytes_of_sameDisk {ε α : Type} {p : Program World ε α} [hp : Keeps SameDisk p] :
    Keeps KeptBytes p := hp.mono fun _ _ h location => by rw [h]

/-- A new directory changes no bytes. -/
instance keptBytes_createDir : Keeps KeptBytes (change faults (·.createDir path)) := by
  refine ⟨fun w location => ?_⟩
  cases hrun : exec (change faults (·.createDir path)) w with
  | mk x w' =>
      rcases exec_change hrun with ⟨-, hcreate⟩ | ⟨-, hsame⟩
      · obtain ⟨hfree, hnode⟩ := Disk.nodeAt_createDir hcreate
        by_cases heq : location = path
        · rw [heq, bytesAt_of_free hfree, Disk.bytesAt, hnode, if_pos rfl]
        · exact Disk.bytesAt_congr (by rw [hnode, if_neg heq])
      · exact congrArg (Disk.bytesAt · location) hsame

variable {u : Unicode}

instance keptBytes_createFolders {incoming : Text} {components : List Text} {current : Location} :
    Keeps KeptBytes (createFolders u faults incoming current components) := by
  induction components generalizing current with
  | nil => exact Keeps.pure
  | cons c rest ih =>
      refine Keeps.bind_of inferInstance fun _ => Keeps.bind_of inferInstance fun made => ?_
      cases made with
      | ok _ =>
          exact Keeps.bind_of inferInstance fun _ => Keeps.bind_of inferInstance fun _ => ih
      | error kind =>
          cases kind with
          | alreadyExists => exact Keeps.bind_of inferInstance fun _ => ih
          | _ => exact Keeps.throw

instance keptBytes_createNewChecks {relative : VaultPath u} {intent : WriteIntent} :
    Keeps KeptBytes (createNewChecks u faults relative intent) := by
  refine Keeps.bind_of Keeps.lift fun _ => ?_
  split
  · refine Keeps.bind_of (Keeps.bind_of inferInstance fun _ => keptBytes_createFolders) fun _ => ?_
    exact Keeps.bind_of inferInstance fun _ => Keeps.bind_of inferInstance fun _ =>
      Keeps.bind_of inferInstance fun _ => Keeps.pure
  · exact Keeps.bind_of inferInstance fun _ => Keeps.bind_of inferInstance fun _ =>
      Keeps.bind_of inferInstance fun _ => Keeps.pure

end Runs

end Stepwise
end Vault
end MyVault
