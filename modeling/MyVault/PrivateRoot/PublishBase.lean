import MyVault.PrivateRoot.TransferStore

/-!
# Publishing a base object, step by step

What `publish_base` does from any disk, once it has read its stage: it works under the
temporary name of its operation, puts the bytes of the stage under the name of the object
if nothing stands there, and removes the stage when the object holds the same bytes
(`Reaches`, `Within`).  Left alone it comes to its end, or it finds something it does not
accept and leaves everything as it was (`safe_publishBase`).
-/

namespace MyVault
namespace PrivateRoot

open Process Check

variable {sha256 : Sha256} {umask : ℕ} {stage : VerifiedAndroidStage} {bytes : List UInt8}
  {d t u : Disk}

/-! ## Looks -/

/-- Under this name stands a private file. -/
structure Shows (d : Disk) (name : Name) (identity : ℕ) (bytes : List UInt8) : Prop where
  found : ∃ file, d.files name = some file ∧ file.isPrivate = true ∧ file.identity = identity ∧
    file.bytes = bytes

/-- What the fields of a stage promise of its bytes. -/
structure IsExact (sha256 : Sha256) (stage : VerifiedAndroidStage) (bytes : List UInt8) :
    Prop where
  valid : stage.operationId.isNil = false
  limit : stage.byteLen ≤ maxAndroidTransferBytes
  length : bytes.length = stage.byteLen
  digest : hexSha256 sha256 bytes = stage.sha256

theorem verifyFile_eq_ok {file : FileNode} : verifyFile file = .ok () ↔ file.isPrivate = true := by
  rw [verifyFile, reject_eq_ok, Bool.not_eq_false]

theorem openFileUnverified_eq_ok {name : Name} {file : FileNode} :
    openFileUnverified d name = .ok file ↔ d.files name = some file := by
  rw [openFileUnverified]
  split
  · rename_i found hfound
    rw [hfound, Except.ok.injEq, Option.some.injEq]
  · rename_i hnone
    rw [hnone]
    exact iff_of_false nofun nofun

theorem openFile_eq_ok {name : Name} {file : FileNode} :
    openFile d name = .ok file ↔ d.files name = some file ∧ file.isPrivate = true := by
  rw [openFile, bind_eq_ok]
  constructor
  · rintro ⟨found, hfound, h⟩
    obtain ⟨hverify, h⟩ := seq_eq_ok.mp h
    cases h
    exact ⟨openFileUnverified_eq_ok.mp hfound, verifyFile_eq_ok.mp hverify⟩
  · rintro ⟨hfile, hprivate⟩
    exact ⟨file, openFileUnverified_eq_ok.mpr hfile,
      seq_eq_ok.mpr ⟨verifyFile_eq_ok.mpr hprivate, rfl⟩⟩

theorem openFile_of_none {name : Name} (h : d.files name = none) :
    openFile d name = .error .stageUnavailable := by
  rw [openFile, openFileUnverified, h]
  rfl

theorem none_of_openFile {name : Name} (h : openFile d name = .error .stageUnavailable) :
    d.files name = none := by
  cases hfile : d.files name with
  | none => rfl
  | some file =>
      rw [openFile, openFileUnverified, hfile] at h
      dsimp only at h
      rw [ok_bind, verifyFile, reject] at h
      split at h
      · cases h
      · cases h

theorem heldFile_eq_ok {name : Name} {identity : ℕ} {file : FileNode} :
    heldFile d name identity = .ok file ↔
      d.files name = some file ∧ file.identity = identity ∧ file.isPrivate = true := by
  rw [heldFile]
  split
  · rename_i found hfound
    rw [hfound, Option.some.injEq]
    split
    · rename_i hid
      rw [seq_eq_ok, verifyFile_eq_ok]
      constructor
      · rintro ⟨hprivate, h⟩
        cases h
        exact ⟨rfl, hid, hprivate⟩
      · rintro ⟨rfl, -, hprivate⟩
        exact ⟨hprivate, rfl⟩
    · rename_i hid
      refine iff_of_false nofun ?_
      rintro ⟨rfl, hsame, -⟩
      exact hid hsame
  · rename_i hnone
    rw [hnone]
    exact iff_of_false nofun fun h => nomatch h.1

theorem readExactBounded_eq_ok {file : FileNode} {n : ℕ} :
    readExactBounded file n = .ok bytes ↔
      n ≤ maxAndroidTransferBytes ∧ file.bytes = bytes ∧ bytes.length = n := by
  rw [readExactBounded, seq_eq_ok, reject_eq_ok, Nat.not_lt, seq_eq_ok, reject_eq_ok,
    Decidable.not_not, List.length_take]
  constructor
  · rintro ⟨hlimit, hlength, h⟩
    have hshort : file.bytes.length ≤ maxAndroidTransferBytes + 1 := by omega
    rw [List.take_of_length_le hshort] at h
    cases h
    exact ⟨hlimit, rfl, by omega⟩
  · rintro ⟨hlimit, rfl, hlength⟩
    have hshort : file.bytes.length ≤ maxAndroidTransferBytes + 1 := by omega
    refine ⟨hlimit, by omega, ?_⟩
    rw [List.take_of_length_le hshort]
    rfl

theorem verifyExactBase_eq_ok {file : FileNode} :
    verifyExactBase sha256 file bytes stage = .ok () ↔
      file.isPrivate = true ∧ stage.byteLen ≤ maxAndroidTransferBytes ∧ file.bytes = bytes ∧
        bytes.length = stage.byteLen ∧ hexSha256 sha256 bytes = stage.sha256 := by
  rw [verifyExactBase, seq_eq_ok, verifyFile_eq_ok, bind_eq_ok]
  constructor
  · rintro ⟨hprivate, readback, hread, h⟩
    obtain ⟨hlimit, rfl, hlength⟩ := readExactBounded_eq_ok.mp hread
    rw [reject_eq_ok, not_or, Decidable.not_not, Decidable.not_not] at h
    obtain ⟨rfl, hdigest⟩ := h
    exact ⟨hprivate, hlimit, rfl, hlength, hdigest⟩
  · rintro ⟨hprivate, hlimit, rfl, hlength, hdigest⟩
    refine ⟨hprivate, file.bytes, readExactBounded_eq_ok.mpr ⟨hlimit, rfl, hlength⟩, ?_⟩
    rw [reject_eq_ok, not_or, Decidable.not_not, Decidable.not_not]
    exact ⟨rfl, hdigest⟩

theorem IsExact.verify {file : FileNode} (h : IsExact sha256 stage bytes)
    (hprivate : file.isPrivate = true) (hbytes : file.bytes = bytes) :
    verifyExactBase sha256 file bytes stage = .ok () :=
  verifyExactBase_eq_ok.mpr ⟨hprivate, h.limit, hbytes, h.length, h.digest⟩

/-- Fewer bytes do not match, and that is what the answer says. -/
theorem IsExact.verify_short {file : FileNode} (h : IsExact sha256 stage bytes)
    (hprivate : file.isPrivate = true) (hshort : file.bytes.length < stage.byteLen) :
    verifyExactBase sha256 file bytes stage = .error .digestMismatch := by
  have hlimit := h.limit
  have htake : file.bytes.length ≤ maxAndroidTransferBytes + 1 := by omega
  rw [verifyExactBase, verifyFile_eq_ok.mpr hprivate, ok_bind, readExactBounded,
    reject_eq_ok.mpr (Nat.not_lt.mpr hlimit), ok_bind]
  dsimp only
  rw [List.take_of_length_le htake, reject, if_pos (Nat.ne_of_lt hshort)]
  rfl

theorem verifyStage_eq_ok :
    verifyStage d stage = .ok () ↔ stage.operationId.isNil = false ∧
      stage.byteLen ≤ maxAndroidTransferBytes ∧
        ∃ file, d.files (.stage stage.operationId) = some file ∧ file.isPrivate = true ∧
          file.identity = stage.identity ∧ file.bytes.length = stage.byteLen := by
  rw [verifyStage, seq_eq_ok, reject_eq_ok, not_or, Bool.not_eq_true, Nat.not_lt, bind_eq_ok]
  constructor
  · rintro ⟨⟨hnil, hlimit⟩, file, hheld, h⟩
    obtain ⟨hfile, hid, hprivate⟩ := heldFile_eq_ok.mp hheld
    obtain ⟨current, hcurrent, h⟩ := bind_eq_ok.mp h
    cases hfile.symm.trans (openFile_eq_ok.mp hcurrent).1
    rw [reject_eq_ok, not_or, Decidable.not_not, Decidable.not_not] at h
    exact ⟨hnil, hlimit, file, hfile, hprivate, hid, h.2⟩
  · rintro ⟨hnil, hlimit, file, hfile, hprivate, hid, hlength⟩
    refine ⟨⟨hnil, hlimit⟩, file, heldFile_eq_ok.mpr ⟨hfile, hid, hprivate⟩, ?_⟩
    refine bind_eq_ok.mpr ⟨file, openFile_eq_ok.mpr ⟨hfile, hprivate⟩, ?_⟩
    rw [reject_eq_ok, not_or, Decidable.not_not, Decidable.not_not]
    exact ⟨hid, hlength⟩

/-- **What `read_verified_stage` has checked.** -/
theorem readVerifiedStage_eq_ok :
    readVerifiedStage sha256 d stage = .ok bytes ↔ IsExact sha256 stage bytes ∧
      Shows d (.stage stage.operationId) stage.identity bytes := by
  rw [readVerifiedStage, seq_eq_ok, bind_eq_ok]
  constructor
  · rintro ⟨hverify, file, hheld, h⟩
    obtain ⟨hnil, hlimit, -⟩ := verifyStage_eq_ok.mp hverify
    obtain ⟨hfile, hid, hprivate⟩ := heldFile_eq_ok.mp hheld
    obtain ⟨found, hfound, h⟩ := bind_eq_ok.mp h
    obtain ⟨-, hbytes, hlength⟩ := readExactBounded_eq_ok.mp hfound
    obtain ⟨hdigest, h⟩ := seq_eq_ok.mp h
    obtain ⟨-, h⟩ := seq_eq_ok.mp h
    cases h
    rw [reject_eq_ok, Decidable.not_not] at hdigest
    exact ⟨⟨hnil, hlimit, hlength, hdigest⟩, ⟨file, hfile, hprivate, hid, hbytes⟩⟩
  · rintro ⟨hexact, ⟨file, hfile, hprivate, hid, hbytes⟩⟩
    have hverify : verifyStage d stage = .ok () := verifyStage_eq_ok.mpr
      ⟨hexact.valid, hexact.limit, file, hfile, hprivate, hid, hbytes ▸ hexact.length⟩
    refine ⟨hverify, file, heldFile_eq_ok.mpr ⟨hfile, hid, hprivate⟩, ?_⟩
    refine bind_eq_ok.mpr ⟨bytes, readExactBounded_eq_ok.mpr
      ⟨hexact.limit, hbytes, hexact.length⟩, ?_⟩
    refine seq_eq_ok.mpr ⟨reject_eq_ok.mpr (Decidable.not_not.mpr hexact.digest), ?_⟩
    exact seq_eq_ok.mpr ⟨hverify, rfl⟩

/-- The temporary name holds nothing, a private whole copy, or a private file that is short. -/
theorem of_inspectPending {pending : PendingCopy}
    (h : inspectPending sha256 d bytes stage = .ok pending) :
    match pending with
    | .absent => d.files (.pending stage.operationId) = none
    | .exact identity => Shows d (.pending stage.operationId) identity bytes
    | .short identity =>
        ∃ found, Shows d (.pending stage.operationId) identity found := by
  rw [inspectPending] at h
  split at h
  · rename_i file hopen
    obtain ⟨hfile, hprivate⟩ := openFile_eq_ok.mp hopen
    split at h
    · rename_i hverify
      cases h
      exact ⟨file, hfile, hprivate, rfl, (verifyExactBase_eq_ok.mp hverify).2.2.1⟩
    · split at h
      · cases h
        exact ⟨file.bytes, file, hfile, hprivate, rfl, rfl⟩
      · exact nomatch h
    · exact nomatch h
  · rename_i hopen
    cases h
    exact none_of_openFile hopen
  · exact nomatch h

/-- A part of the copy is one that can be dealt with. -/
theorem exists_inspectPending (hexact : IsExact sha256 stage bytes)
    (h : ∀ file, d.files (.pending stage.operationId) = some file →
      file.isPrivate = true ∧ file.bytes <+: bytes) :
    ∃ pending, inspectPending sha256 d bytes stage = .ok pending := by
  cases hfile : d.files (.pending stage.operationId) with
  | none =>
      refine ⟨.absent, ?_⟩
      rw [inspectPending, openFile_of_none hfile]
  | some file =>
      obtain ⟨hprivate, hpart⟩ := h file hfile
      by_cases hwhole : file.bytes = bytes
      · refine ⟨.exact file.identity, ?_⟩
        rw [inspectPending, openFile_eq_ok.mpr ⟨hfile, hprivate⟩]
        dsimp only
        rw [hexact.verify hprivate hwhole]
      · have hshort : file.bytes.length < stage.byteLen := by
          have hle := hpart.length_le
          have hne : file.bytes.length ≠ bytes.length := fun hlen =>
            hwhole (hpart.eq_of_length hlen)
          rw [← hexact.length]
          omega
        refine ⟨.short file.identity, ?_⟩
        rw [inspectPending, openFile_eq_ok.mpr ⟨hfile, hprivate⟩]
        dsimp only
        rw [hexact.verify_short hprivate hshort]
        exact if_pos hshort

theorem of_openBase {found : Option ℕ} (h : openBase sha256 d bytes stage = .ok found) :
    match found with
    | none => d.files (.blob stage.sha256) = none
    | some identity => Shows d (.blob stage.sha256) identity bytes := by
  rw [openBase] at h
  split at h
  · rename_i file hopen
    obtain ⟨hfile, hprivate⟩ := openFile_eq_ok.mp hopen
    obtain ⟨hverify, h⟩ := seq_eq_ok.mp h
    cases h
    exact ⟨file, hfile, hprivate, rfl, (verifyExactBase_eq_ok.mp hverify).2.2.1⟩
  · rename_i hopen
    cases h
    exact none_of_openFile hopen
  · exact nomatch h

theorem exists_openBase (hexact : IsExact sha256 stage bytes)
    (h : ∀ file, d.files (.blob stage.sha256) = some file →
      file.isPrivate = true ∧ file.bytes = bytes) :
    ∃ found, openBase sha256 d bytes stage = .ok found := by
  cases hfile : d.files (.blob stage.sha256) with
  | none =>
      refine ⟨none, ?_⟩
      rw [openBase, openFile_of_none hfile]
  | some file =>
      obtain ⟨hprivate, hbytes⟩ := h file hfile
      refine ⟨some file.identity, ?_⟩
      rw [openBase, openFile_eq_ok.mpr ⟨hfile, hprivate⟩]
      dsimp only
      rw [hexact.verify hprivate hbytes]
      rfl

/-! ## What a call does -/

/-- Nothing is changed but what stands under this name. -/
def Apart (name : Name) (d u : Disk) : Prop :=
  ∀ other, other ≠ name → u.files other = d.files other

/-- A disk a call comes to from `d`. -/
structure Reaches (stage : VerifiedAndroidStage) (bytes : List UInt8) (d u : Disk) : Prop where
  apart : ∀ name, name ≠ .stage stage.operationId → name ≠ .pending stage.operationId →
    name ≠ .blob stage.sha256 → u.files name = d.files name
  staged : u.files (.stage stage.operationId) = d.files (.stage stage.operationId) ∨
    u.files (.stage stage.operationId) = none
  pending : u.files (.pending stage.operationId) = d.files (.pending stage.operationId) ∨
    u.files (.pending stage.operationId) = none ∨
    ∃ file, u.files (.pending stage.operationId) = some file ∧ file.bytes <+: bytes
  blob : u.files (.blob stage.sha256) = d.files (.blob stage.sha256) ∨
    d.files (.blob stage.sha256) = none ∧
      ∃ file, u.files (.blob stage.sha256) = some file ∧ file.bytes = bytes

/-- The steps of a call, and what it has seen before each. -/
def Publishing (stage : VerifiedAndroidStage) (bytes : List UInt8) : Step → Disk → Prop
  | .createNew name, _ => name = .pending stage.operationId
  | .harden name, _ => name = .pending stage.operationId
  | .write name _, _ => name = .pending stage.operationId
  | .remove name, u => name = .pending stage.operationId ∨ name = .stage stage.operationId ∧
      (∃ identity, Shows u (.stage stage.operationId) identity bytes) ∧
        ∃ identity, Shows u (.blob stage.sha256) identity bytes
  | .rename source destination, u => source = .pending stage.operationId ∧
      destination = .blob stage.sha256 ∧
        ∃ identity, Shows u (.pending stage.operationId) identity bytes
  | .sync _, _ => True

/-- What holds before every step of a call that starts from `d`. -/
def Within (stage : VerifiedAndroidStage) (bytes : List UInt8) (d : Disk) (st : Step)
    (u : Disk) : Prop :=
  Publishing stage bytes st u ∧ Reaches stage bytes d u

theorem Apart.refl (name : Name) (d : Disk) : Apart name d d := fun _ _ => rfl

theorem Apart.withFile {name : Name} (h : Apart name d u) (file : Option FileNode) :
    Apart name d (u.withFile name file) := fun other hne => by
  rw [Disk.files_withFile_of_ne _ _ hne]
  exact h other hne

theorem Apart.withNew {name : Name} (h : Apart name d u) (mode : ℕ) :
    Apart name d (u.withNew name mode) := fun other hne => by
  rw [Disk.files_withNew_of_ne _ _ hne]
  exact h other hne

/-- The temporary file is at work. -/
theorem Reaches.of_apart (h : Apart (.pending stage.operationId) d u)
    (hpending : u.files (.pending stage.operationId) = d.files (.pending stage.operationId) ∨
      u.files (.pending stage.operationId) = none ∨
      ∃ file, u.files (.pending stage.operationId) = some file ∧ file.bytes <+: bytes) :
    Reaches stage bytes d u where
  apart name _ hname _ := h name hname
  staged := .inl (h _ nofun)
  pending := hpending
  blob := .inl (h _ nofun)

theorem Reaches.refl (stage : VerifiedAndroidStage) (bytes : List UInt8) (d : Disk) :
    Reaches stage bytes d d := .of_apart (.refl _ _) (.inl rfl)

theorem Shows.congr {name : Name} {identity : ℕ} (h : Shows d name identity bytes)
    (hfile : u.files name = d.files name) : Shows u name identity bytes := by
  obtain ⟨file, hfound, hrest⟩ := h
  exact ⟨file, hfile.trans hfound, hrest⟩

/-- A base under a name that is held. -/
theorem Shows.verify {name : Name} {identity : ℕ} (h : Shows u name identity bytes)
    (hexact : IsExact sha256 stage bytes) :
    ∃ file, openFile u name = .ok file ∧ heldFile u name identity = .ok file ∧
      file.identity = identity ∧ file.bytes = bytes ∧
        verifyExactBase sha256 file bytes stage = .ok () := by
  obtain ⟨file, hfile, hprivate, hid, hbytes⟩ := h
  exact ⟨file, openFile_eq_ok.mpr ⟨hfile, hprivate⟩, heldFile_eq_ok.mpr ⟨hfile, hid, hprivate⟩,
    hid, hbytes, hexact.verify hprivate hbytes⟩

/-! ### The temporary file -/

theorem safe_removeExactPending {identity : ℕ} {found : List UInt8}
    (h : Shows u (.pending stage.operationId) identity found)
    (hapart : Apart (.pending stage.operationId) d u) (hreach : Reaches stage bytes d u) :
    Safe (Step.run umask) (Within stage bytes d)
      (fun x t => x = .ok () ∧ Apart (.pending stage.operationId) d t ∧
        t.files (.pending stage.operationId) = none)
      (removeExactPending stage.operationId identity) u := by
  obtain ⟨file, hfile, hprivate, hid, -⟩ := h
  have hlook : (do
      let current ← openFile u (.pending stage.operationId)
      reject (current.identity ≠ identity) TransferStoreError.evidenceAmbiguous) = .ok () := by
    rw [openFile_eq_ok.mpr ⟨hfile, hprivate⟩, ok_bind, reject_eq_ok, Decidable.not_not]
    exact hid
  have hremove : Step.run umask (.remove (.pending stage.operationId)) u =
      (.ok (), u.withFile (.pending stage.operationId) none) := by
    rw [Step.run, hfile]
    rfl
  have hgone := hapart.withFile none
  have hnone := u.files_withFile_self (.pending stage.operationId) none
  refine .ask_bind hlook (.io_bind ⟨.inl rfl, hreach⟩ hremove (.io ?_ ⟨rfl, hgone, hnone⟩))
  exact ⟨trivial, .of_apart hgone (.inr (.inl hnone))⟩

/-- The copy grows byte by byte. -/
theorem safe_writeAll {identity mode : ℕ} {rest written : List UInt8}
    (hfile : u.files (.pending stage.operationId) = some ⟨identity, mode, written⟩)
    (hapart : Apart (.pending stage.operationId) d u) (hpart : written ++ rest = bytes) :
    Safe (Step.run umask) (Within stage bytes d)
      (fun x t => x = .ok () ∧ Apart (.pending stage.operationId) d t ∧
        t.files (.pending stage.operationId) = some ⟨identity, mode, bytes⟩)
      (writeAll (.pending stage.operationId) rest) u := by
  induction rest generalizing u written with
  | nil =>
      rw [List.append_nil] at hpart
      subst hpart
      exact ⟨rfl, hapart, hfile⟩
  | cons byte rest ih =>
      have hreach : Reaches stage bytes d u :=
        .of_apart hapart (.inr (.inr ⟨_, hfile, byte :: rest, hpart⟩))
      have hwrite : Step.run umask (.write (.pending stage.operationId) byte) u =
          (.ok (), u.withFile (.pending stage.operationId)
            (some ⟨identity, mode, written ++ [byte]⟩)) := by
        rw [Step.run, hfile]
        rfl
      refine .io_bind ⟨rfl, hreach⟩ hwrite ?_
      refine ih (u.files_withFile_self _ _) (hapart.withFile _) ?_
      rw [← hpart, List.append_assoc, List.singleton_append]

theorem safe_writeBaseCopy (hexact : IsExact sha256 stage bytes)
    (hnone : u.files (.pending stage.operationId) = none)
    (hapart : Apart (.pending stage.operationId) d u) :
    Safe (Step.run umask) (Within stage bytes d)
      (fun x t => ∃ identity, x = .ok identity ∧ Apart (.pending stage.operationId) d t ∧
        Shows t (.pending stage.operationId) identity bytes)
      (writeBaseCopy sha256 bytes stage) u := by
  have hcreate : Step.run umask (.createNew (.pending stage.operationId)) u =
      (.ok (), u.withNew (.pending stage.operationId) (Snapshots.fileMode umask)) := by
    rw [Step.run, hnone]
    rfl
  have hnew := u.files_withNew_self (.pending stage.operationId) (Snapshots.fileMode umask)
  have hmade := hapart.withNew (Snapshots.fileMode umask)
  refine .perform_bind ⟨rfl, .of_apart hapart (.inr (.inl hnone))⟩ hcreate ?_
  refine .lift_bind rfl ?_
  generalize u.withNew (.pending stage.operationId) (Snapshots.fileMode umask) = created
    at hnew hmade
  generalize u.nextIdentity = identity at hnew
  have hharden : Step.run umask (.harden (.pending stage.operationId)) created =
      (.ok (), created.withFile (.pending stage.operationId) (some ⟨identity, 0o600, []⟩)) := by
    rw [Step.run, hnew]
    rfl
  refine .io_bind ⟨rfl, .of_apart hmade (.inr (.inr ⟨_, hnew, List.nil_prefix⟩))⟩ hharden ?_
  have hempty := created.files_withFile_self (.pending stage.operationId)
    (some ⟨identity, 0o600, []⟩)
  have hmode : Snapshots.isPrivateFileMode 0o600 = true := by decide
  have hprivate (bytes : List UInt8) : FileNode.isPrivate ⟨identity, 0o600, bytes⟩ = true := hmode
  refine .ask_bind (openFile_eq_ok.mpr ⟨hempty, hprivate []⟩) ?_
  refine (safe_writeAll hempty (hmade.withFile _) (List.nil_append bytes)).bind ?_
    fun e t he => nomatch he.1
  rintro ⟨⟩ t ⟨-, hapart', hfile⟩
  have hreach : Reaches stage bytes d t :=
    .of_apart hapart' (.inr (.inr ⟨_, hfile, List.prefix_rfl⟩))
  have hshows : Shows t (.pending stage.operationId) identity bytes :=
    ⟨_, hfile, hprivate bytes, rfl, rfl⟩
  have hlook : (do
      let file ← heldFile t (.pending stage.operationId) identity
      verifyExactBase sha256 file bytes stage) = .ok () := by
    obtain ⟨file, -, hheld, -, -, hverify⟩ := hshows.verify hexact
    rw [hheld, ok_bind]
    exact hverify
  refine .io_bind ⟨trivial, hreach⟩ rfl (.ask_bind hlook (.io_bind ⟨trivial, hreach⟩ rfl ?_))
  exact ⟨identity, rfl, hapart', hshows⟩

theorem safe_prepareBaseCopy (hexact : IsExact sha256 stage bytes) :
    Safe (Step.run umask) (Within stage bytes d)
      (fun x t => (∃ identity, x = .ok identity ∧ Apart (.pending stage.operationId) d t ∧
          Shows t (.pending stage.operationId) identity bytes) ∨
        ∃ e, x = .error e ∧ t = d ∧ inspectPending sha256 d bytes stage = .error e)
      (prepareBaseCopy sha256 bytes stage) d := by
  cases hpending : inspectPending sha256 d bytes stage with
  | error e => exact .ask_bind_error hpending (.inr ⟨e, rfl, rfl, rfl⟩)
  | ok pending =>
      refine .ask_bind hpending ?_
      have hfound := of_inspectPending hpending
      have hreach := Reaches.refl stage bytes d
      cases pending with
      | absent =>
          exact (safe_writeBaseCopy hexact hfound (.refl _ _)).mono (fun _ _ hI => hI)
            fun x t hQ => .inl hQ
      | exact identity =>
          refine .io_bind ⟨trivial, hreach⟩ rfl (.io_bind ⟨trivial, hreach⟩ rfl ?_)
          exact .inl ⟨identity, rfl, .refl _ _, hfound⟩
      | short identity =>
          obtain ⟨found, hfound⟩ := hfound
          refine (safe_removeExactPending hfound (.refl _ _) hreach).bind ?_
            fun e t he => nomatch he.1
          rintro ⟨⟩ t ⟨-, hapart, hnone⟩
          exact (safe_writeBaseCopy hexact hnone hapart).mono (fun _ _ hI => hI)
            fun x t hQ => .inl hQ

theorem safe_cleanupRecoverablePending :
    Safe (Step.run umask) (Within stage bytes d)
      (fun x t => (x = .ok () ∧ Apart (.pending stage.operationId) d t ∧
          t.files (.pending stage.operationId) = none) ∨
        ∃ e, x = .error e ∧ t = d ∧ inspectPending sha256 d bytes stage = .error e)
      (cleanupRecoverablePending sha256 bytes stage) d := by
  cases hpending : inspectPending sha256 d bytes stage with
  | error e => exact .ask_bind_error hpending (.inr ⟨e, rfl, rfl, rfl⟩)
  | ok pending =>
      refine .ask_bind hpending ?_
      have hfound := of_inspectPending hpending
      have hreach := Reaches.refl stage bytes d
      cases pending with
      | absent => exact .inl ⟨rfl, .refl _ _, hfound⟩
      | exact identity =>
          exact (safe_removeExactPending hfound (.refl _ _) hreach).mono (fun _ _ hI => hI)
            fun x t hQ => .inl hQ
      | short identity =>
          obtain ⟨found, hfound⟩ := hfound
          exact (safe_removeExactPending hfound (.refl _ _) hreach).mono (fun _ _ hI => hI)
            fun x t hQ => .inl hQ

/-! ### The object -/

/-- The object holds the bytes, and the temporary name is free. -/
structure Based (stage : VerifiedAndroidStage) (bytes : List UInt8) (d t : Disk)
    (identity : ℕ) : Prop where
  apart : ∀ name, name ≠ .pending stage.operationId → name ≠ .blob stage.sha256 →
    t.files name = d.files name
  pending : t.files (.pending stage.operationId) = none
  base : Shows t (.blob stage.sha256) identity bytes
  blob : t.files (.blob stage.sha256) = d.files (.blob stage.sha256) ∨
    d.files (.blob stage.sha256) = none

theorem Based.reaches {identity : ℕ} (h : Based stage bytes d t identity) :
    Reaches stage bytes d t where
  apart name _ hpending hblob := h.apart name hpending hblob
  staged := .inl (h.apart _ nofun nofun)
  pending := .inr (.inl h.pending)
  blob := by
    rcases h.blob with hsame | hnone
    · exact .inl hsame
    · obtain ⟨file, hfile, -, -, hbytes⟩ := h.base
      exact .inr ⟨hnone, file, hfile, hbytes⟩

/-- The rename, and the looks before it and after. -/
theorem safe_publishCopy (hread : readVerifiedStage sha256 d stage = .ok bytes)
    (hnone : d.files (.blob stage.sha256) = none) :
    Safe (Step.run umask) (Within stage bytes d)
      (fun x t => (∃ identity, x = .ok identity ∧ Based stage bytes d t identity) ∨
        ∃ e, x = .error e ∧ t = d ∧ inspectPending sha256 d bytes stage = .error e)
      (publishCopy sha256 bytes stage) d := by
  obtain ⟨hexact, hstage⟩ := readVerifiedStage_eq_ok.mp hread
  refine (safe_prepareBaseCopy hexact).bind ?_ ?_
  · rintro identity t (⟨_, hid, hapart, hshows⟩ | ⟨e, he, -⟩)
    · cases hid
      have hreach : Reaches stage bytes d t := by
        obtain ⟨file, hfile, -, -, hbytes⟩ := hshows
        exact .of_apart hapart (.inr (.inr ⟨file, hfile, hbytes ▸ List.prefix_rfl⟩))
      have hlook : (do
          let again ← readVerifiedStage sha256 t stage
          reject (again ≠ bytes) TransferStoreError.evidenceAmbiguous
          let current ← openFile t (.pending stage.operationId)
          reject (current.identity ≠ identity) .evidenceAmbiguous
          verifyExactBase sha256 current bytes stage
          reject (current.bytes.length ≠ stage.byteLen) .evidenceAmbiguous) = .ok () := by
        obtain ⟨file, hopen, -, hid, hbytes, hverify⟩ := hshows.verify hexact
        have hagain : readVerifiedStage sha256 t stage = .ok bytes :=
          readVerifiedStage_eq_ok.mpr ⟨hexact, hstage.congr (hapart _ (by rintro ⟨⟩))⟩
        have hlength : file.bytes.length = stage.byteLen := by rw [hbytes, hexact.length]
        simp only [hagain, hopen, hverify, hid, hlength, reject, ok_bind, ne_eq,
          not_true_eq_false, if_false]
      obtain ⟨file, hfile, hprivate, hid, hbytes⟩ := hshows
      have hrename : Step.run umask (.rename (.pending stage.operationId) (.blob stage.sha256)) t =
          (.ok (), (t.withFile (.blob stage.sha256) (some file)).withFile
            (.pending stage.operationId) none) := by
        rw [Step.run, hfile]
        dsimp only
        rw [hapart (.blob stage.sha256) (by rintro ⟨⟩), hnone]
        rfl
      have hbased : Based stage bytes d ((t.withFile (.blob stage.sha256) (some file)).withFile
          (.pending stage.operationId) none) identity := by
        refine ⟨fun name hpending hblob => ?_, Disk.files_withFile_self .., ⟨file, ?_, hprivate,
          hid,
          hbytes⟩, .inr hnone⟩
        · rw [Disk.files_withFile_of_ne _ _ hpending, Disk.files_withFile_of_ne _ _ hblob]
          exact hapart name hpending
        · have hne : Name.blob stage.sha256 ≠ .pending stage.operationId := by rintro ⟨⟩
          rw [Disk.files_withFile_of_ne _ _ hne, Disk.files_withFile_self]
      refine .ask_bind hlook (.perform_bind ⟨⟨rfl, rfl, identity, file, hfile, hprivate, hid,
        hbytes⟩, hreach⟩ hrename ?_)
      generalize (t.withFile (.blob stage.sha256) (some file)).withFile
        (.pending stage.operationId) none = renamed at hbased
      refine .io_bind ⟨trivial, hbased.reaches⟩ rfl (.ask ?_)
      obtain ⟨base, hopen, -, hbase, -⟩ := hbased.base.verify hexact
      refine .inl ⟨identity, ?_, hbased⟩
      simp [hopen, ok_bind, hbase, reject]
    · cases he
  · rintro e t (⟨_, he, -⟩ | herror)
    · cases he
    · exact .inr herror

/-- What a call has come to that was not cut off. -/
def Ends (sha256 : Sha256) (stage : VerifiedAndroidStage) (bytes : List UInt8) (d : Disk)
    (x : Except TransferStoreError NativeBaseObjectRef) (t : Disk) : Prop :=
  ((∃ base, x = .ok base) ∧ t.files (.stage stage.operationId) = none ∧
      t.files (.pending stage.operationId) = none ∧
      (∃ identity, Shows t (.blob stage.sha256) identity bytes) ∧ Reaches stage bytes d t) ∨
    (∃ e, x = .error e) ∧ t = d ∧
      ((∃ e, inspectPending sha256 d bytes stage = .error e) ∨
        ∃ e, openBase sha256 d bytes stage = .error e)

theorem safe_settleBase {identity : ℕ} (hread : readVerifiedStage sha256 d stage = .ok bytes)
    (hbased : Based stage bytes d t identity) :
    Safe (Step.run umask) (Within stage bytes d) (Ends sha256 stage bytes d)
      (settleBase sha256 bytes stage identity) t := by
  obtain ⟨hexact, hstage⟩ := readVerifiedStage_eq_ok.mp hread
  obtain ⟨base, hopen, hheld, hid, hbytes, hverify⟩ := hbased.base.verify hexact
  have hstage' := hstage.congr (hbased.apart _ (by rintro ⟨⟩) (by rintro ⟨⟩))
  have hlook : settleBase.heldBase sha256 bytes stage identity t = .ok () := by
    rw [settleBase.heldBase, hheld, ok_bind]
    exact hverify
  have hreach := hbased.reaches
  obtain ⟨file, hopenStage, -, hidStage, -⟩ := hstage'.verify hexact
  have hlast : (do
      let currentBase ← openFile t (.blob stage.sha256)
      reject (currentBase.identity ≠ identity) TransferStoreError.evidenceAmbiguous
      verifyExactBase sha256 currentBase bytes stage
      let currentStage ← openFile t (.stage stage.operationId)
      reject (currentStage.identity ≠ stage.identity) .evidenceAmbiguous) = .ok () := by
    simp only [hopen, hverify, hid, hopenStage, hidStage, reject, ok_bind, ne_eq,
      not_true_eq_false, if_false]
  obtain ⟨found, hfile, -⟩ := hstage'
  have hremove : Step.run umask (.remove (.stage stage.operationId)) t =
      (.ok (), t.withFile (.stage stage.operationId) none) := by
    rw [Step.run, hfile]
    rfl
  have hgone := t.files_withFile_self (.stage stage.operationId) none
  have hkeep : ∀ name, name ≠ .stage stage.operationId →
      (t.withFile (.stage stage.operationId) none).files name = t.files name :=
    fun name hne => t.files_withFile_of_ne none hne
  have hreach' : Reaches stage bytes d (t.withFile (.stage stage.operationId) none) := by
    refine ⟨fun name hname hpending hblob => ?_, .inr hgone, .inr (.inl ?_), ?_⟩
    · rw [hkeep name hname]
      exact hbased.apart name hpending hblob
    · rw [hkeep (.pending stage.operationId) (by rintro ⟨⟩)]
      exact hbased.pending
    · rw [hkeep (.blob stage.sha256) (by rintro ⟨⟩)]
      exact hreach.blob
  have hbase' := hbased.base.congr (hkeep (.blob stage.sha256) (by rintro ⟨⟩))
  obtain ⟨base', hopen', -, -, -, hverify'⟩ := hbase'.verify hexact
  refine .ask_bind hlook (.io_bind ⟨trivial, hreach⟩ rfl (.ask_bind hlook
    (.io_bind ⟨trivial, hreach⟩ rfl (.ask_bind hlast ?_))))
  refine .io_bind ⟨.inr ⟨rfl, ⟨stage.identity, ?_⟩, identity, hbased.base⟩, hreach⟩ hremove ?_
  · exact hstage.congr (hbased.apart _ (by rintro ⟨⟩) (by rintro ⟨⟩))
  refine .io_bind ⟨trivial, hreach'⟩ rfl (.ask_bind (a := ()) ?_ ?_)
  · rw [hopen', ok_bind]
    exact hverify'
  · exact .inl ⟨⟨_, rfl⟩, hgone,
      (hkeep (.pending stage.operationId) (by rintro ⟨⟩)).trans hbased.pending,
      ⟨identity, hbase'⟩, hreach'⟩

/-- **`publish_base`, step by step.** -/
theorem safe_publishBase (hread : readVerifiedStage sha256 d stage = .ok bytes) :
    Safe (Step.run umask) (Within stage bytes d) (Ends sha256 stage bytes d)
      (publishBase sha256 stage) d := by
  obtain ⟨hexact, -⟩ := readVerifiedStage_eq_ok.mp hread
  refine .ask_bind hread ?_
  cases hbase : openBase sha256 d bytes stage with
  | error e => exact .ask_bind_error hbase (.inr ⟨⟨e, rfl⟩, rfl, .inr ⟨e, hbase⟩⟩)
  | ok found =>
      refine .ask_bind hbase ?_
      have hfound := of_openBase hbase
      have hfrom : Safe (Step.run umask) (Within stage bytes d)
          (fun x t => (∃ identity, x = .ok identity ∧ Based stage bytes d t identity) ∨
            ∃ e, x = .error e ∧ t = d ∧ inspectPending sha256 d bytes stage = .error e)
          (baseFrom sha256 bytes stage found) d := by
        cases found with
        | none => exact safe_publishCopy hread hfound
        | some identity =>
            refine safe_cleanupRecoverablePending.bind ?_ ?_
            · rintro ⟨⟩ t (⟨-, hapart, hnone⟩ | ⟨e, he, -⟩)
              · have hsame := hapart (.blob stage.sha256) nofun
                exact .inl ⟨identity, rfl, fun name hpending _ => hapart name hpending, hnone,
                  hfound.congr hsame, .inl hsame⟩
              · exact nomatch he
            · rintro e t (⟨he, -⟩ | ⟨e, he, hrest⟩)
              · exact nomatch he
              · cases he
                exact .inr ⟨e, rfl, hrest⟩
      refine hfrom.bind ?_ ?_
      · rintro identity t (⟨_, hid, hbased⟩ | ⟨e, he, -⟩)
        · cases hid
          exact safe_settleBase hread hbased
        · exact nomatch he
      · rintro e t (⟨_, he, -⟩ | ⟨e, -, hsame, hinspect⟩)
        · exact nomatch he
        · exact .inr ⟨⟨_, rfl⟩, hsame, .inl ⟨e, hinspect⟩⟩

end PrivateRoot
end MyVault
