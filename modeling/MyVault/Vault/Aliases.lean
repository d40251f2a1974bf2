import MyVault.Vault.Collisions
import Mathlib.Data.List.Dedup

/-!
# Aliases collide

With one file on the disk, the names on the way to it are all there is.  So a path with an
alias is created up to the folder where the two differ, and refused there.

## How the argument goes

`soleDisk` has the file of one path and its folders, and nothing else.  The creation of an alias
on it goes through folder by folder (`returns_createFolders`), up to the one where the two paths
differ, and collides there; so a list that never collides has no two aliases
(`noAliases_of_neverCollides`).  The converse is the invariant of `Vault.Collisions`.

Both preflights compare whole paths.  So two notes in folders `A` and `a` are accepted by both,
and collide (`preflights_accept_aliases`).  `preflights_suffice_iff` says, for every list of
paths, that an accepted list never collides if and only if it has no two aliases.
-/

namespace MyVault
namespace Vault
namespace Stepwise

open Program VaultPath

variable {u : Unicode}

/-! ## One file -/

/-- The rows of one file and its folders. -/
def soleRows (location : Location) : List (Location × Node) :=
  (List.range location.length).map fun k =>
    (location.take (k + 1), if k + 1 = location.length then .file 1 [] else .dir)

theorem mem_soleRows {location : Location} {row : Location × Node} :
    row ∈ soleRows location ↔ ∃ k < location.length, row = (location.take (k + 1),
      if k + 1 = location.length then .file 1 [] else .dir) := by
  simp only [soleRows, List.mem_map, List.mem_range, eq_comm]

theorem nodup_soleRows (location : Location) : ((soleRows location).map Prod.fst).Nodup := by
  rw [soleRows, List.map_map]
  refine List.Nodup.map_on (fun k hk k' hk' heq => ?_) List.nodup_range
  have hlength := congrArg List.length heq
  simp only [Function.comp_apply, List.length_take] at hlength
  rw [List.mem_range] at hk hk'
  omega

theorem namesOk_pathOf (p : VaultPath u) : FileTree.NamesOk (pathOf p) := by
  intro name hname
  obtain ⟨c, hc, rfl⟩ := List.mem_map.mp hname
  obtain ⟨hne, hdot, hslash⟩ := p.named c hc
  refine decide_eq_true ⟨fun h => hne ?_, fun h => hdot ?_, ?_⟩
  · rw [← String.toList_ofList (l := c), h]
    rfl
  · rw [← String.toList_ofList (l := c), h]
    rfl
  · rwa [String.toList_ofList]

theorem ne_nil_of_mem_soleRows {location : Location} {row : Location × Node}
    (h : row ∈ soleRows location) : row.1 ≠ [] := by
  obtain ⟨k, hk, rfl⟩ := mem_soleRows.mp h
  refine List.ne_nil_of_length_pos ?_
  rw [List.length_take]
  omega

theorem dir_mem_soleRows {location : Location} {row : Location × Node}
    (h : row ∈ soleRows location) (habove : row.1.dropLast ≠ []) :
    (row.1.dropLast, Node.dir) ∈ soleRows location := by
  obtain ⟨k, hk, rfl⟩ := mem_soleRows.mp h
  have htake : (location.take (k + 1)).dropLast = location.take k := by
    rw [List.dropLast_eq_take, List.length_take, List.take_take]
    congr 1
    omega
  dsimp only at habove ⊢
  rw [htake] at habove ⊢
  have hpos : k ≠ 0 := by
    rintro rfl
    exact habove List.take_zero
  refine mem_soleRows.mpr ⟨k - 1, by omega, ?_⟩
  rw [Nat.sub_add_cancel (by omega), if_neg (by omega)]

/-- The disk with one file. -/
def soleDisk (p : VaultPath u) : Disk where
  tree := .ofRows (soleRows (pathOf p)) (nodup_soleRows _) fun row hrow =>
    ⟨ne_nil_of_mem_soleRows hrow, dir_mem_soleRows hrow, fun name hname => by
      obtain ⟨k, -, rfl⟩ := mem_soleRows.mp hrow
      exact namesOk_pathOf p name (List.mem_of_mem_take hname)⟩
  outside := []

theorem nodeAt_soleDisk {p : VaultPath u} {location : Location} {node : Node} :
    (soleDisk p).tree.nodeAt location = some node ↔ (location, node) ∈ soleRows (pathOf p) :=
  FileTree.nodeAt_eq_some_iff

theorem pathOf_eq {p : VaultPath u} {front rest : List Text}
    (h : p.components = front ++ rest) : pathOf p = locationOf front ++ locationOf rest := by
  rw [pathOf, h, locationOf_append]

/-- A folder on the way to the file. -/
theorem nodeAt_soleDisk_folder {p : VaultPath u} {front rest : List Text}
    (h : p.components = front ++ rest) (hfront : front ≠ []) (hrest : rest ≠ []) :
    (soleDisk p).tree.nodeAt (locationOf front) = some .dir := by
  have hpos := List.length_pos_iff.mpr hfront
  have hpos' := List.length_pos_iff.mpr hrest
  have hlength : (locationOf front).length = front.length := List.length_map _
  have hlength' : (locationOf rest).length = rest.length := List.length_map _
  rw [nodeAt_soleDisk, mem_soleRows, pathOf_eq h]
  refine ⟨front.length - 1, ?_, ?_⟩
  · rw [List.length_append]
    omega
  · rw [Nat.sub_add_cancel hpos, ← hlength, List.take_left, if_neg]
    rw [List.length_append]
    omega

theorem nodeAt_soleDisk_self (p : VaultPath u) :
    (soleDisk p).tree.nodeAt (pathOf p) = some (.file 1 []) := by
  have hpos : 0 < (pathOf p).length := by
    rw [pathOf, locationOf, List.length_map]
    exact List.length_pos_iff.mpr p.fits.1
  rw [nodeAt_soleDisk, mem_soleRows]
  refine ⟨(pathOf p).length - 1, by omega, ?_⟩
  rw [Nat.sub_add_cancel hpos, List.take_length, if_pos rfl]

theorem present_soleDisk (p : VaultPath u) : Present [p] (soleDisk p) := by
  refine ⟨fun q hq => ?_, fun location hlocation => ⟨p, List.mem_singleton_self p, ?_⟩⟩
  · rw [List.mem_singleton.mp hq]
    exact ⟨1, [], nodeAt_soleDisk_self p⟩
  · obtain ⟨node, hnode⟩ := Option.ne_none_iff_exists'.mp hlocation
    obtain ⟨k, -, hk⟩ := mem_soleRows.mp (nodeAt_soleDisk.mp hnode)
    rw [(Prod.mk.inj hk).1]
    exact List.take_prefix _ _

/-- In a folder on the way there is one name. -/
theorem children_soleDisk {p : VaultPath u} {front rest : List Text} {name : Text}
    (h : p.components = front ++ name :: rest) :
    (∀ found ∈ ((soleDisk p).tree.children (locationOf front)).map Prod.fst,
      found = .utf8 (String.ofList name)) ∧
      ((soleDisk p).tree.children (locationOf front)).map Prod.fst ≠ [] := by
  constructor
  · intro found hfound
    obtain ⟨⟨_, node⟩, hchild, rfl⟩ := List.mem_map.mp hfound
    have hnode := FileTree.nodeAt_eq_some_iff.mpr (FileTree.mem_children.mp hchild)
    obtain ⟨q, hq, hbelow⟩ := (present_soleDisk p).2 _ (by rw [hnode]; exact nofun)
    rw [List.mem_singleton.mp hq] at hbelow
    obtain ⟨name', rest', hname, hp⟩ := exists_of_entry hbelow
    rw [h, List.append_cancel_left_eq, List.cons.injEq] at hp
    rw [hname, hp.1]
  · have hentry : ∃ node, (locationOf front ++ [FileName.utf8 (String.ofList name)], node) ∈
        (soleDisk p).tree := by
      have hlocation : locationOf front ++ [FileName.utf8 (String.ofList name)] =
          locationOf (front ++ [name]) := by
        rw [locationOf_append]
        rfl
      rw [hlocation]
      by_cases hrest : rest = []
      · have hself := nodeAt_soleDisk_self p
        rw [pathOf, h, hrest] at hself
        exact ⟨_, FileTree.nodeAt_eq_some_iff.mp hself⟩
      · have hdir := nodeAt_soleDisk_folder (show p.components = (front ++ [name]) ++ rest by
          simp [h]) (by simp) hrest
        exact ⟨_, FileTree.nodeAt_eq_some_iff.mp hdir⟩
    obtain ⟨node, hmem⟩ := hentry
    exact List.ne_nil_of_mem (List.mem_map_of_mem (FileTree.mem_children.mpr hmem))

/-! ## The run of a path with an alias -/

section Run

variable {q : VaultPath u} {front : List Text} {name name' incoming : Text}

/-- The names on the way to the file are not refused. -/
theorem returns_rejectSiblingCollision {rest : List Text}
    (h : q.components = front ++ name :: rest) :
    Returns (OnDisk (soleDisk q))
      (rejectSiblingCollision u noFaults (locationOf front) name incoming) (.ok ()) := by
  refine (returns_look _).mapError.bind_ok (returns_eachEntry fun found hfound => ?_)
  rw [(children_soleDisk h).1 found hfound]
  refine Returns.reject_neg ?_
  rw [String.toList_ofList]
  exact fun hne => hne.1 rfl

/-- An alias of one of them is refused. -/
theorem returns_collision {rest' : List Text} (h : q.components = front ++ name' :: rest')
    (hne : name ≠ name') (hkey : componentCollisionKey u name = componentCollisionKey u name') :
    Returns (OnDisk (soleDisk q))
      (rejectSiblingCollision u noFaults (locationOf front) name incoming)
      (.error (.portablePathCollision (String.ofList name').toList incoming)) := by
  refine (returns_look _).mapError.bind_ok ?_
  obtain ⟨hall, hne'⟩ := children_soleDisk h
  cases hnames : ((soleDisk q).tree.children (locationOf front)).map Prod.fst with
  | nil => exact absurd hnames hne'
  | cons found others =>
      rw [hnames, List.forall_mem_cons] at hall
      rw [hall.1]
      refine returns_tick.mapError.bind_ok (Returns.bind_error ?_)
      refine Returns.reject_pos ?_
      rw [String.toList_ofList]
      exact ⟨hne.symm, hkey.symm⟩

theorem entry_locationOf (front : List Text) (c : Text) :
    entry (locationOf front) c = locationOf (front ++ [c]) := by
  rw [locationOf_append]
  rfl

/-- A folder on the way is there already. -/
theorem returns_createFolders_step {c : Text} {components after : List Text}
    {x : Except CoreError Unit} (h : q.components = front ++ c :: after) (hafter : after ≠ [])
    (hrest : Returns (OnDisk (soleDisk q))
      (createFolders u noFaults incoming (locationOf (front ++ [c])) components) x) :
    Returns (OnDisk (soleDisk q))
      (createFolders u noFaults incoming (locationOf front) (c :: components)) x := by
  have hdir := nodeAt_soleDisk_folder (p := q)
    (show q.components = (front ++ [c]) ++ after by simp [h]) (by simp) hafter
  have hmade : (soleDisk q).createDir (entry (locationOf front) c) = .error .alreadyExists := by
    rw [Disk.createDir, entry_locationOf, if_pos (by rw [hdir]; rintro ⟨⟩)]
  refine (returns_rejectSiblingCollision h).bind_ok
    ((returns_change_error hmade).catching.bind_ok ?_)
  rw [entry_locationOf]
  exact (returns_openChildDirNofollow hdir).bind_ok hrest

variable (front) in
theorem returns_createFolders {components rest : List Text} (hrest : rest ≠ [])
    (h : q.components = front ++ (components ++ rest)) :
    Returns (OnDisk (soleDisk q))
      (createFolders u noFaults incoming (locationOf front) components) (.ok ()) := by
  induction components generalizing front with
  | nil => exact Returns.pure ()
  | cons c components ih =>
      exact returns_createFolders_step h (by simp [hrest]) (ih _ (by simp [h]))

variable (front) in
/-- An alias further on is found, as the folders on the way to it are there. -/
theorem returns_createFolders_collision {components rest rest' : List Text}
    (h : q.components = front ++ (components ++ name' :: rest')) (hne : name ≠ name')
    (hkey : componentCollisionKey u name = componentCollisionKey u name') :
    Returns (OnDisk (soleDisk q))
      (createFolders u noFaults incoming (locationOf front) (components ++ name :: rest))
      (.error (.portablePathCollision (String.ofList name').toList incoming)) := by
  induction components generalizing front with
  | nil => exact (returns_collision h hne hkey).bind_error
  | cons c components ih =>
      exact returns_createFolders_step h (by simp) (ih _ (by simp [h]))

variable (front) in
theorem returns_openFolders {components rest : List Text} (hrest : rest ≠ [])
    (h : q.components = front ++ (components ++ rest)) :
    Returns (OnDisk (soleDisk q))
      (openFolders noFaults (fun current c => rejectSiblingCollision u noFaults current c incoming)
        (locationOf front) components) (.ok (locationOf (front ++ components))) := by
  induction components generalizing front with
  | nil =>
      rw [List.append_nil]
      exact Returns.pure _
  | cons c components ih =>
      have hdir := nodeAt_soleDisk_folder (p := q)
        (show q.components = (front ++ [c]) ++ (components ++ rest) by simp [h]) (by simp)
        (by simp [hrest])
      have hnext := ih (front ++ [c]) (by simp [h])
      rw [← entry_locationOf, List.append_assoc, List.singleton_append] at hnext
      rw [← entry_locationOf] at hdir
      exact (returns_rejectSiblingCollision h).bind_ok
        ((returns_openChildDirNofollow hdir).bind_ok hnext)

/-- With a path on the disk, an alias of it is not created. -/
theorem returns_createContentChecks {p : VaultPath u} (hcontent : classify p = .content)
    (halias : Aliases u p.components q.components) {expectedByteLen maxBytes : ℕ}
    (hmax : expectedByteLen ≤ maxBytes) :
    ∃ existing incoming, Returns (OnDisk (soleDisk q))
      (createContentChecks u noFaults p expectedByteLen maxBytes)
      (.error (.portablePathCollision existing incoming)) := by
  obtain ⟨front, name, name', rest, rest', hp, hq, hne, hkey⟩ := halias
  have haccepted : Returns (OnDisk (soleDisk q))
      (lift (requireContentPath p) : VaultProgram Unit) (.ok ()) := by
    rw [requireContentPath, if_pos hcontent]
    exact Returns.lift _
  have hfits : Returns (OnDisk (soleDisk q)) (Program.reject (maxBytes < expectedByteLen)
      (transferBytesExceeded maxBytes) : VaultProgram Unit) (.ok ()) :=
    Returns.reject_neg (Nat.not_lt_of_le hmax)
  rcases rest.eq_nil_or_concat with rfl | ⟨middle, last, rfl⟩
  · -- the names of the two files are aliases
    have hfolders : folders p = front := by rw [folders, hp, List.dropLast_concat]
    have hname : nameOf p = name := by simp [nameOf, hp]
    have hcreate : Returns (OnDisk (soleDisk q)) (createFoldersOf u noFaults p) (.ok ()) := by
      rw [createFoldersOf]
      split
      · rw [hfolders]
        exact returns_tick.mapError.bind_ok
          (returns_createFolders [] (List.cons_ne_nil name' rest') hq)
      · exact Returns.pure ()
    have hopen : Returns (OnDisk (soleDisk q)) (openParentChecked u noFaults p)
        (.ok (locationOf front)) := by
      rw [openParentChecked, hfolders]
      exact returns_tick.mapError.bind_ok
        (returns_openFolders [] (List.cons_ne_nil name' rest') hq)
    refine ⟨(String.ofList name').toList, p.asStr, haccepted.bind_ok (hfits.bind_ok (hcreate.bind_ok
      (hopen.bind_ok (Returns.bind_error ?_))))⟩
    rw [hname]
    exact returns_collision hq hne hkey
  · -- the two paths differ at a folder
    have hfolders : folders p = front ++ name :: middle := by
      rw [folders, hp, List.concat_eq_append, ← List.cons_append, ← List.append_assoc,
        List.dropLast_concat]
    refine ⟨(String.ofList name').toList, joinSlash (front ++ name :: middle),
      haccepted.bind_ok (hfits.bind_ok
      (Returns.bind_error ?_))⟩
    rw [createFoldersOf, if_pos (by simp [hfolders]), hfolders]
    exact returns_tick.mapError.bind_ok
      (returns_createFolders_collision [] hq hne hkey)

end Run

/-! ## Exactly the lists without aliases -/

section Lists

variable {sha256 : Sha256} {blake3 : Blake3} {pid : ℕ} {paths : List (VaultPath u)}

/-- A creation of an empty file. -/
def emptyCreation (p : VaultPath u) : Creation u :=
  { path := p, reader := [], expectedSha256 := "", expectedByteLen := 0, maxBytes := 0 }

/-- One alias is there, and the other one is created first. -/
theorem noAliases_of_neverCollides (h : NeverCollides sha256 blake3 pid paths) :
    NoAliases paths := by
  classical
  intro p hp q hq hcontent halias
  have hne : p ≠ q := by
    rintro rfl
    obtain ⟨front, name, name', rest, rest', heq, heq', hname, -⟩ := halias
    rw [heq, List.append_cancel_left_eq, List.cons.injEq] at heq'
    exact hname heq'.1
  let others := (paths.filter fun path => path ≠ p ∧ path ≠ q).dedup
  have hothers {path : VaultPath u} : path ∈ others ↔ path ∈ paths ∧ path ≠ p ∧ path ≠ q := by
    rw [List.mem_dedup, List.mem_filter, decide_eq_true_eq]
  let order := (p :: others).map emptyCreation
  have horder : order.map Creation.path = p :: others := by
    rw [List.map_map]
    exact List.map_id _
  have hcollides := h [q] order ⟨soleDisk q, 0, 0⟩ (fun path => ?_) ?_ ?_ (present_soleDisk q)
  · obtain ⟨existing, incoming, hchecks⟩ :=
      returns_createContentChecks hcontent halias (Nat.le_refl 0)
    have hrun : Returns (OnDisk (soleDisk q)) ((emptyCreation p).run sha256 blake3 pid)
        (.error (.portablePathCollision existing incoming)) := hchecks.bind_error
    refine hcollides _ List.mem_cons_self ⟨existing, incoming, ?_⟩
    exact (hrun ⟨soleDisk q, 0, 0⟩ rfl).1
  · rw [horder, List.mem_singleton, List.mem_cons, hothers]
    refine ⟨fun hpath => ?_, ?_⟩
    · by_cases hpathq : path = q
      · exact Or.inl hpathq
      · by_cases hpathp : path = p
        · exact Or.inr (Or.inl hpathp)
        · exact Or.inr (Or.inr ⟨hpath, hpathp, hpathq⟩)
    · rintro (rfl | rfl | hpath)
      · exact hq
      · exact hp
      · exact hpath.1
  · rw [horder, List.nodup_cons]
    exact ⟨fun hmem => (hothers.mp hmem).2.1 rfl, List.nodup_dedup _⟩
  · rw [horder, List.forall_mem_cons]
    refine ⟨fun hmem => hne (List.mem_singleton.mp hmem), fun path hpath hmem => ?_⟩
    exact (hothers.mp hpath).2.2 (List.mem_singleton.mp hmem)

theorem neverCollides_of_noAliases (h : NoAliases paths) :
    NeverCollides sha256 blake3 pid paths := by
  intro present order w hpaths _ _ hpresent
  refine not_isCollision_of_mem_results h (fun creation hcreation => ?_)
    fun location hlocation => ?_
  · exact (hpaths _).mpr (Or.inr (List.mem_map_of_mem hcreation))
  · obtain ⟨q, hq, hbelow⟩ := hpresent.2 location hlocation
    exact ⟨q, (hpaths q).mpr (Or.inl hq), hbelow⟩

/-- What a preflight accepts is created without a collision if and only if no two of the
paths are aliases. -/
theorem preflights_suffice_iff (u : Unicode) (sha256 : Sha256) (blake3 : Blake3) (pid : ℕ)
    (m : Transfer.CaseMapping) (paths : List (VaultPath u)) :
    ((Transfer.rejectPortablePathCollisions m (paths.map asStr) = .ok () →
        NeverCollides sha256 blake3 pid paths) ↔
      (Transfer.rejectPortablePathCollisions m (paths.map asStr) = .ok () → NoAliases paths)) ∧
    ((Transfer.validateSafPathSet u (paths.map asStr) = .ok () →
        NeverCollides sha256 blake3 pid paths) ↔
      (Transfer.validateSafPathSet u (paths.map asStr) = .ok () → NoAliases paths)) :=
  ⟨forall_congr' fun _ => ⟨noAliases_of_neverCollides, neverCollides_of_noAliases⟩,
    forall_congr' fun _ => ⟨noAliases_of_neverCollides, neverCollides_of_noAliases⟩⟩

/-! ### Two folders that are aliases -/

/-- A note in the folder `A`. -/
def upperPath : VaultPath Unicode.ascii :=
  (fromPortable Unicode.ascii "A/x.md".toList).get (by decide +kernel)

/-- A note in the folder `a`. -/
def lowerPath : VaultPath Unicode.ascii :=
  (fromPortable Unicode.ascii "a/y.md".toList).get (by decide +kernel)

/-- Both preflights accept two files of two folders that are aliases, and with one of them
there the other one collides. -/
theorem preflights_accept_aliases :
    Transfer.rejectPortablePathCollisions .ascii ([upperPath, lowerPath].map asStr) = .ok () ∧
      Transfer.validateSafPathSet Unicode.ascii ([upperPath, lowerPath].map asStr) = .ok () ∧
      (exec ((emptyCreation upperPath).run constantDigest constantDigest 7)
        ⟨soleDisk lowerPath, 0, 0⟩).1 =
          .error (.portablePathCollision "a".toList "A".toList) ∧
      ¬ NeverCollides constantDigest constantDigest 7 [upperPath, lowerPath] := by
  refine ⟨by decide +kernel, by decide +kernel, by decide +kernel, fun h => ?_⟩
  refine noAliases_of_neverCollides h upperPath (by simp) lowerPath (by simp) (by decide +kernel)
    ⟨[], "A".toList, "a".toList, ["x.md".toList], ["y.md".toList], ?_, ?_, ?_, ?_⟩
  all_goals decide +kernel

end Lists

end Stepwise
end Vault
end MyVault
