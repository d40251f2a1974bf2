import MyVault.Snapshots.Publication
import Mathlib.Data.Nat.Digits.Defs

/-!
# Opening a store that a crash has left

An entry under a name that every call uses is created with the mode the process gives new
entries, and made private by the next step.  A later call looks at the mode of what it
finds and does not change it.  So there is one kind of place where a call must not be cut
off (`MayCut`), unless new entries are private as they are.

If it is not cut off there, what it leaves is `Usable`: the directories and the lock that
are there are private, and the binding is written whole or not there.  From such a disk
`openStore` comes to its end, and so does the next one from wherever it is cut off
(`safe_openStore`).
-/

namespace MyVault
namespace Snapshots

open Process

/-! ## Steps in a slot -/

@[simp] theorem isPrivateDirMode_hardened : isPrivateDirMode 0o700 = true := by decide

@[simp] theorem isPrivateFileMode_hardened : isPrivateFileMode 0o600 = true := by decide

theorem verifyPrivateFile_some {file : FileNode} (h : isPrivateFileMode file.mode = true) :
    verifyPrivateFile (some file) = .ok () := if_pos h

/-- A file that is being written, and the disk for each content of it. -/
structure Slot (umask : ℕ) (dir : Held) (name : String) (slot : FileNode → Disk) : Prop where
  harden : ∀ file, Step.run umask (.hardenFile dir name) (slot file) =
    (.ok (), slot { file with mode := 0o600 })
  append : ∀ file byte, Step.run umask (.append dir name byte) (slot file) =
    (.ok (), slot { file with bytes := file.bytes ++ [byte] })
  fileAt : ∀ file, (slot file).fileAt dir name = some file

section Slot

variable {umask : ℕ} {dir : Held} {name : String} {slot : FileNode → Disk}
  {I : Step → Disk → Prop}

theorem Slot.safe_writeAll (h : Slot umask dir name slot) (hI : ∀ st file, I st (slot file))
    (mode : ℕ) (written bytes : List UInt8) :
    Safe (Step.run umask) I (fun x t => x = .ok () ∧ t = slot ⟨mode, written ++ bytes⟩)
      (writeAll dir name bytes) (slot ⟨mode, written⟩) := by
  induction bytes generalizing written with
  | nil =>
      rw [List.append_nil]
      exact ⟨rfl, rfl⟩
  | cons byte rest ih =>
      have hstep : Safe (Step.run umask) I
          (fun x t => x = .ok () ∧ t = slot ⟨mode, written ++ [byte]⟩)
          (io (.append dir name byte)) (slot ⟨mode, written⟩) := by
        refine .io (hI _ _) ?_
        rw [h.append]
        exact ⟨rfl, rfl⟩
      refine hstep.bind ?_ fun e t he => nomatch he.1
      rintro _ t ⟨-, rfl⟩
      rw [← List.singleton_append, ← List.append_assoc]
      exact ih _

/-- A new file is written whole, and every state on the way is one of its slot. -/
theorem Slot.safe_writePrivateFile (h : Slot umask dir name slot) {d : Disk}
    (hcreate : Step.run umask (.createFile dir name) d = (.ok (), slot ⟨fileMode umask, []⟩))
    (hd : I (.createFile dir name) d) (hI : ∀ st file, I st (slot file)) (bytes : List UInt8) :
    Safe (Step.run umask) I (fun x t => x = .ok () ∧ t = slot ⟨0o600, bytes⟩)
      (writePrivateFile dir name bytes) d := by
  have hcreated : Safe (Step.run umask) I
      (fun x t => x = .ok () ∧ t = slot ⟨fileMode umask, []⟩) (io (.createFile dir name)) d := by
    refine .io hd ?_
    rw [hcreate]
    exact ⟨rfl, rfl⟩
  refine hcreated.bind ?_ fun e t he => nomatch he.1
  rintro _ t ⟨-, rfl⟩
  have hhardened : Safe (Step.run umask) I (fun x t => x = .ok () ∧ t = slot ⟨0o600, []⟩)
      (io (.hardenFile dir name)) (slot ⟨fileMode umask, []⟩) := by
    refine .io (hI _ _) ?_
    rw [h.harden]
    exact ⟨rfl, rfl⟩
  refine hhardened.bind ?_ fun e t he => nomatch he.1
  rintro _ t ⟨-, rfl⟩
  refine (h.safe_writeAll hI 0o600 [] bytes).bind ?_ fun e t he => nomatch he.1
  rintro _ t ⟨-, rfl⟩
  refine ⟨hI _ _, ?_⟩
  show verifyPrivateFile ((slot ⟨0o600, bytes⟩).fileAt dir name) = .ok () ∧ _
  rw [h.fileAt, verifyPrivateFile_some isPrivateFileMode_hardened]
  exact ⟨rfl, rfl⟩

end Slot

/-- A file in a directory of a fixed name is a slot. -/
theorem slot_place (umask : ℕ) (d : Disk) (place : Place) (name : String) :
    Slot umask (.place place) name fun file => d.withFile place name (some file) := by
  have hmodify : ∀ file f, Step.run.modifyFile (d.withFile place name (some file))
      (.place place) name f = d.withFile place name (some (f file)) := by
    intro file f
    show (d.withFile place name (some file)).withFile place name _ = _
    simp only [Disk.withFile, Function.update_idem, Function.update_self, Option.map_some]
  refine ⟨fun file => ?_, fun file byte => ?_, fun file => ?_⟩
  · rw [Step.run, hmodify]
  · rw [Step.run, hmodify]
  · rw [Disk.fileAt, Disk.files_withFile, if_pos ⟨rfl, rfl⟩]

/-! ## What a crash may leave -/

/-- Whether a process may be cut off before this step: the step that makes the entry of a
fixed name private must not be the next one, if it is needed. -/
def MayCut (umask : ℕ) : Step → Prop
  | .hardenDir (.place _) => isPrivateDirMode (dirMode umask) = true
  | .hardenFile (.place .vault) name =>
      name = operationLockFile → isPrivateFileMode (fileMode umask) = true
  | _ => True

instance (umask : ℕ) (st : Step) : Decidable (MayCut umask st) := by
  unfold MayCut
  split <;> infer_instance

/-- What is found under the fixed names can be used. -/
structure Usable (binding : VaultBinding) (d : Disk) : Prop where
  modes : ∀ place mode, d.modes place = some mode → isPrivateDirMode mode = true
  binding : ∀ file, d.files .vault bindingFile = some file → file = ⟨0o600, binding.bytes⟩
  lock : ∀ file, d.files .vault operationLockFile = some file →
    isPrivateFileMode file.mode = true

/-- The lock is there. -/
def LockReady (d : Disk) : Prop :=
  ∃ file, d.files .vault operationLockFile = some file ∧ isPrivateFileMode file.mode = true

/-- Opening a store leaves the snapshots and the lock. -/
structure Frame (d t : Disk) : Prop where
  staging : t.staging = d.staging
  objects : t.objects = d.objects
  lock : LockReady d → LockReady t

theorem Frame.refl (d : Disk) : Frame d d := ⟨rfl, rfl, id⟩

/-- Between two steps of `openStore`. -/
def Between (umask : ℕ) (binding : VaultBinding) (d : Disk) (st : Step) (t : Disk) : Prop :=
  (MayCut umask st → Usable binding t) ∧ Frame d t

section Opening

variable {umask : ℕ} {binding : VaultBinding} {d₀ d : Disk}

theorem Usable.between (h : Usable binding d) (hframe : Frame d₀ d) (st : Step) :
    Between umask binding d₀ st d := ⟨fun _ => h, hframe⟩

/-- A directory that is private now. -/
theorem Usable.withMode (h : Usable binding d) (place : Place) {mode : ℕ}
    (hmode : isPrivateDirMode mode = true) : Usable binding (d.withMode place mode) where
  modes place' mode' hmode' := by
    rw [Disk.modes_withMode] at hmode'
    split at hmode'
    · cases hmode'
      exact hmode
    · exact h.modes place' mode' hmode'
  binding := h.binding
  lock := h.lock

theorem Frame.withMode (h : Frame d₀ d) (place : Place) (mode : ℕ) :
    Frame d₀ (d.withMode place mode) := ⟨h.staging, h.objects, h.lock⟩

/-- The end of `createOrOpenPrivateDir`, where the directory is private. -/
theorem safe_requirePrivate (h : Usable binding d) (hframe : Frame d₀ d) {place : Place}
    {mode : ℕ} (hplace : d.modes place = some mode) (hmode : isPrivateDirMode mode = true) :
    Safe (Step.run umask) (Between umask binding d₀)
      (fun x t => x = .ok () ∧ Usable binding t ∧ Frame d₀ t ∧ t.files = d.files)
      (requirePrivateDirectory (.place place) >>= fun _ => io .sync >>= fun _ => io .sync)
      d := by
  have hrequire : Safe (Step.run umask) (Between umask binding d₀)
      (fun x t => x = .ok () ∧ t = d) (requirePrivateDirectory (.place place)) d := by
    refine .ask ⟨?_, rfl⟩
    rw [Disk.modeOf, hplace]
    exact if_pos hmode
  refine hrequire.bind ?_ fun e t he => nomatch he.1
  rintro _ t ⟨-, rfl⟩
  exact ⟨h.between hframe _, h.between hframe _, rfl, h, hframe, rfl⟩

theorem safe_createOrOpen (h : Usable binding d) (hframe : Frame d₀ d) (place : Place) :
    Safe (Step.run umask) (Between umask binding d₀)
      (fun x t => x = .ok () ∧ Usable binding t ∧ Frame d₀ t ∧ t.files = d.files)
      (createOrOpenPrivateDir (.place place)) d := by
  cases hplace : d.modes place with
  | none =>
      have hrun : Step.run umask (.createDir (.place place)) d =
          (.ok (), d.withMode place (dirMode umask)) := by simp [Step.run, hplace]
      refine ⟨h.between hframe _, ?_⟩
      rw [hrun]
      -- the one step the process must not be cut off before
      refine ⟨⟨fun hmay => h.withMode place hmay, hframe.withMode place _⟩, ?_⟩
      have hhardened : Step.run umask (.hardenDir (.place place))
          (d.withMode place (dirMode umask)) = (.ok (), d.withMode place 0o700) := by
        simp [Step.run, Disk.withMode]
      rw [hhardened]
      exact safe_requirePrivate (h.withMode place (by decide)) (hframe.withMode place _)
        (Function.update_self ..) (by decide)
  | some mode =>
      have hrun : Step.run umask (.createDir (.place place)) d = (.error .alreadyExists, d) := by
        simp [Step.run, hplace]
      refine ⟨h.between hframe _, ?_⟩
      rw [hrun]
      exact safe_requirePrivate h hframe hplace (h.modes place mode hplace)

/-! ### The binding -/

theorem VaultBinding.length_bytes_le (binding : VaultBinding) :
    binding.bytes.length ≤ maxManifestBytes := by
  have hnumber : ∀ n k : ℕ, 0 < k → n < 10 ^ k → utf8Len (Json.number n) ≤ 4 * k :=
    fun n k hk hn => (utf8Len_le _).trans
      (Nat.mul_le_mul_left 4 (Nat.toDigits_length 10 n k hk hn))
  have hversion := hnumber binding.version.toNat 10 (by omega)
    (binding.version.toNat_lt.trans (by decide))
  have hdevice := hnumber binding.unixDevice.toNat 20 (by omega)
    (binding.unixDevice.toNat_lt.trans (by decide))
  have hinode := hnumber binding.unixInode.toNat 20 (by omega)
    (binding.unixInode.toNat_lt.trans (by decide))
  have hnames : utf8Len (Json.string "version".toList) = 9 ∧
      utf8Len (Json.string "vault_id".toList) = 10 ∧
      utf8Len (Json.string "unix_device".toList) = 13 ∧
      utf8Len (Json.string "unix_inode".toList) = 12 := by decide
  obtain ⟨h₁, h₂, h₃, h₄⟩ := hnames
  rw [VaultBinding.bytes, length_utf8Bytes, Json.utf8Len_object (by simp)]
  simp only [List.map_cons, List.map_nil, List.sum_cons, List.sum_nil, h₁, h₂, h₃, h₄,
    Json.utf8Len_uuid, maxManifestBytes]
  omega

theorem bindingTemporary_ne (draw : Uuid) :
    bindingTemporary draw ≠ bindingFile ∧ bindingTemporary draw ≠ operationLockFile := by
  have hhead : (bindingTemporary draw).toList.head? = some '.' := by
    rw [bindingTemporary, String.toList_append, String.toList_append]
    rfl
  constructor
  · intro h
    rw [h] at hhead
    exact absurd hhead (by decide)
  · intro h
    rw [h] at hhead
    exact absurd hhead (by decide)

/-- A file of another name does not matter. -/
theorem Usable.withFile (h : Usable binding d) {name : String} (file : Option FileNode)
    (hbinding : name ≠ bindingFile) (hlock : name ≠ operationLockFile) :
    Usable binding (d.withFile .vault name file) where
  modes := h.modes
  binding found hfound := by
    rw [Disk.files_withFile, if_neg fun hname => hbinding hname.2.symm] at hfound
    exact h.binding found hfound
  lock found hfound := by
    rw [Disk.files_withFile, if_neg fun hname => hlock hname.2.symm] at hfound
    exact h.lock found hfound

theorem Frame.withFile (h : Frame d₀ d) {name : String} (file : Option FileNode)
    (hlock : name ≠ operationLockFile) : Frame d₀ (d.withFile .vault name file) := by
  refine ⟨h.staging, h.objects, fun hready => ?_⟩
  obtain ⟨found, hfound, hmode⟩ := h.lock hready
  refine ⟨found, ?_, hmode⟩
  rw [Disk.files_withFile, if_neg fun hname => hlock hname.2.symm]
  exact hfound

/-- The binding that is put in its place. -/
theorem Usable.withBinding (h : Usable binding d) :
    Usable binding (d.withFile .vault bindingFile (some ⟨0o600, binding.bytes⟩)) where
  modes := h.modes
  binding found hfound := by
    rw [Disk.files_withFile, if_pos ⟨rfl, rfl⟩] at hfound
    exact (Option.some.inj hfound).symm
  lock found hfound := by
    rw [Disk.files_withFile, if_neg (by decide)] at hfound
    exact h.lock found hfound

/-- The name that is drawn for the temporary file is free, where one is needed. -/
def BindingDrawFree (d : Disk) (draw : Uuid) : Prop :=
  d.files .vault bindingFile ≠ none ∨ d.files .vault (bindingTemporary draw) = none

/-- A new binding is written under the drawn name and moved to its place. -/
theorem safe_writeBinding (h : Usable binding d) (hframe : Frame d₀ d) {draw : Uuid}
    (hnone : d.files .vault bindingFile = none)
    (hfree : d.files .vault (bindingTemporary draw) = none) :
    Safe (Step.run umask) (Between umask binding d₀)
      (fun x t => x = .ok () ∧ Usable binding t ∧ Frame d₀ t)
      (writePrivateFile (.place .vault) (bindingTemporary draw) binding.bytes >>= fun _ =>
        perform (.moveFile .vault (bindingTemporary draw) bindingFile) >>=
          afterBindingMove binding) d := by
  obtain ⟨hbinding, hlock⟩ := bindingTemporary_ne draw
  have hcreate : Step.run umask (.createFile (.place .vault) (bindingTemporary draw)) d =
      (.ok (), d.withFile .vault (bindingTemporary draw) (some ⟨fileMode umask, []⟩)) := by
    simp [Step.run, hfree]
  have hslot : ∀ file, Usable binding (d.withFile .vault (bindingTemporary draw) (some file)) ∧
      Frame d₀ (d.withFile .vault (bindingTemporary draw) (some file)) := fun file =>
    ⟨h.withFile _ hbinding hlock, hframe.withFile _ hlock⟩
  refine ((slot_place umask d .vault (bindingTemporary draw)).safe_writePrivateFile hcreate
    (h.between hframe _) (fun st file => (hslot file).1.between (hslot file).2 st)
    binding.bytes).bind ?_ fun e t he => nomatch he.1
  rintro _ t ⟨-, rfl⟩
  obtain ⟨husable, hframe'⟩ := hslot ⟨0o600, binding.bytes⟩
  refine ⟨husable.between hframe' _, ?_⟩
  have hmove : Step.run umask (.moveFile .vault (bindingTemporary draw) bindingFile)
      (d.withFile .vault (bindingTemporary draw) (some ⟨0o600, binding.bytes⟩)) =
      (.ok (), ((d.withFile .vault (bindingTemporary draw) (some ⟨0o600, binding.bytes⟩)).withFile
        .vault bindingFile (some ⟨0o600, binding.bytes⟩)).withFile .vault
          (bindingTemporary draw) none) := by
    rw [Step.run, Disk.files_withFile, if_pos ⟨rfl, rfl⟩, Disk.files_withFile,
      if_neg fun hname => hbinding hname.2.symm, hnone]
    rfl
  rw [hmove]
  have hmoved := husable.withBinding.withFile none hbinding hlock
  have hkept := (hframe'.withFile (some ⟨0o600, binding.bytes⟩)
    (by decide : bindingFile ≠ operationLockFile)).withFile none hlock
  exact ⟨hmoved.between hkept _, rfl, hmoved, hkept⟩

theorem safe_publishOrVerifyBinding (host : Host) (h : Usable binding d) (hframe : Frame d₀ d)
    (draw : Uuid) :
    Safe (Step.run umask) (Between umask binding d₀)
      (fun x t => Usable binding t ∧ Frame d₀ t ∧
        (host.vaultBinding binding.bytes = some binding → BindingDrawFree d draw → x = .ok ()))
      (publishOrVerifyBinding host binding draw) d := by
  cases hfile : d.files .vault bindingFile with
  | some file =>
      have hread : Safe (Step.run umask) (Between umask binding d₀)
          (fun x t => x = .ok (some binding.bytes) ∧ t = d)
          (readOptionalPrivateFile .vault bindingFile maxManifestBytes) d := by
        refine .ask ⟨?_, rfl⟩
        rw [hfile, h.binding file hfile]
        simp [binding.length_bytes_le]
      refine hread.bind ?_ fun e t he => by cases he.1
      rintro _ t ⟨hbytes, rfl⟩
      cases hbytes
      dsimp only
      split
      · rename_i hnone
        exact ⟨h, hframe, fun hsome => by cases hnone.symm.trans hsome⟩
      · rename_i observed hobserved
        split
        · rename_i hbad
          refine ⟨h, hframe, fun hsome => ?_⟩
          cases hobserved.symm.trans hsome
          exact absurd hbad (by simp)
        · exact ⟨h.between hframe _, h, hframe, fun _ _ => rfl⟩
  | none =>
      have hread : Safe (Step.run umask) (Between umask binding d₀)
          (fun x t => x = .ok none ∧ t = d)
          (readOptionalPrivateFile .vault bindingFile maxManifestBytes) d := by
        refine .ask ⟨?_, rfl⟩
        rw [hfile]
      refine hread.bind ?_ fun e t he => by cases he.1
      rintro _ t ⟨hbytes, rfl⟩
      cases hbytes
      cases hdraw : t.files .vault (bindingTemporary draw) with
      | none =>
          exact (safe_writeBinding h hframe hfile hdraw).mono (fun _ _ hI => hI)
            fun x r hx => ⟨hx.2.1, hx.2.2, fun _ _ => hx.1⟩
      | some file =>
          have hrun : Step.run umask (.createFile (.place .vault) (bindingTemporary draw)) t =
              (.error .alreadyExists, t) := by simp [Step.run, hdraw]
          have hcreate : Safe (Step.run umask) (Between umask binding d₀)
              (fun x r => x = .error .alreadyExists ∧ r = t)
              (writePrivateFile (.place .vault) (bindingTemporary draw) binding.bytes) t := by
            refine ⟨h.between hframe _, ?_⟩
            rw [hrun]
            exact ⟨rfl, rfl⟩
          refine hcreate.bind (fun a r ha => by cases ha.1) ?_
          rintro e r ⟨-, rfl⟩
          refine ⟨h, hframe, fun _ hfree => ?_⟩
          rcases hfree with hbinding | hnone
          · exact absurd hfile hbinding
          · cases hdraw.symm.trans hnone

/-! ### The lock -/

/-- The lock is there, and the process may be cut off. -/
theorem Usable.withLock (h : Usable binding d) {file : FileNode}
    (hmode : isPrivateFileMode file.mode = true) :
    Usable binding (d.withFile .vault operationLockFile (some file)) where
  modes := h.modes
  binding found hfound := by
    rw [Disk.files_withFile, if_neg (by decide)] at hfound
    exact h.binding found hfound
  lock found hfound := by
    rw [Disk.files_withFile, if_pos ⟨rfl, rfl⟩] at hfound
    exact Option.some.inj hfound ▸ hmode

theorem safe_ensureOperationLock (h : Usable binding d) (hframe : Frame d₀ d) :
    Safe (Step.run umask) (Between umask binding d₀)
      (fun x t => x = .ok () ∧ Usable binding t ∧ Frame d₀ t ∧ LockReady t)
      ensureOperationLock d := by
  refine ⟨h.between hframe _, ?_⟩
  cases hfile : d.files .vault operationLockFile with
  | some file =>
      have hrun : Step.run umask (.createFile (.place .vault) operationLockFile) d =
          (.error .alreadyExists, d) := by simp [Step.run, hfile]
      have hmode := h.lock file hfile
      rw [hrun]
      refine ⟨?_, h, hframe, file, hfile, hmode⟩
      show verifyPrivateFile (d.files .vault operationLockFile) = .ok ()
      rw [hfile, verifyPrivateFile_some hmode]
  | none =>
      have hrun : Step.run umask (.createFile (.place .vault) operationLockFile) d =
          (.ok (), d.withFile .vault operationLockFile (some ⟨fileMode umask, []⟩)) := by
        simp [Step.run, hfile]
      have hslot := slot_place umask d .vault operationLockFile
      -- there was no lock the old store could have held
      have hlock : ∀ file, isPrivateFileMode file.mode = true →
          LockReady (d.withFile .vault operationLockFile (some file)) := fun file hmode =>
        ⟨file, by rw [Disk.files_withFile, if_pos ⟨rfl, rfl⟩], hmode⟩
      have hnew : ∀ file, Frame d₀ (d.withFile .vault operationLockFile (some file)) := by
        refine fun file => ⟨hframe.staging, hframe.objects, fun hready => ?_⟩
        obtain ⟨found, hfound, -⟩ := hframe.lock hready
        exact nomatch hfile.symm.trans hfound
      rw [hrun]
      refine ⟨⟨fun hmay => h.withLock (hmay rfl), hnew _⟩, ?_⟩
      rw [hslot.harden]
      have husable : Usable binding (d.withFile .vault operationLockFile (some ⟨0o600, []⟩)) :=
        h.withLock (by decide)
      refine ⟨husable.between (hnew _) _, ?_⟩
      have hverify : Safe (Step.run umask) (Between umask binding d₀)
          (fun x t => x = .ok () ∧
            t = d.withFile .vault operationLockFile (some ⟨0o600, []⟩))
          (ask fun d => verifyPrivateFile (d.files .vault operationLockFile))
          (d.withFile .vault operationLockFile (some ⟨0o600, []⟩)) := by
        refine .ask ⟨?_, rfl⟩
        rw [Disk.files_withFile, if_pos ⟨rfl, rfl⟩,
          verifyPrivateFile_some isPrivateFileMode_hardened]
      refine hverify.bind ?_ fun e t he => nomatch he.1
      rintro _ t ⟨-, rfl⟩
      exact ⟨husable.between (hnew _) _, rfl, husable, hnew _, hlock _ (by decide)⟩

/-! ### The store -/

/-- **Opening a store.**  Wherever it may be cut off, it leaves a usable disk with the
snapshots as they were, and from a usable disk it succeeds. -/
theorem safe_openStore (host : Host) (h : Usable binding d) (draw : Uuid) :
    Safe (Step.run host.umask) (Between host.umask binding d)
      (fun x t => Usable binding t ∧ Frame d t ∧ (x = .ok () → LockReady t) ∧
        (binding.vaultId.isNil = false → host.vaultBinding binding.bytes = some binding →
          BindingDrawFree d draw → x = .ok ()))
      (openStore host binding draw) d := by
  have hframe := Frame.refl d
  have hcheck : Safe (Step.run host.umask) (Between host.umask binding d)
      (fun x t => t = d ∧ (binding.vaultId.isNil = false → x = .ok ()))
      (lift (Check.reject (binding.vaultId.isNil = true) Error.invalidVaultId)) d := by
    refine .lift ⟨rfl, fun hnil => ?_⟩
    rw [hnil]
    rfl
  refine hcheck.bind ?_ ?_
  · rintro _ t ⟨rfl, -⟩
    refine (safe_createOrOpen h hframe .recovery).bind ?_ fun e r he => nomatch he.1
    rintro _ r₁ ⟨-, h₁, hframe₁, hfiles₁⟩
    refine (safe_createOrOpen h₁ hframe₁ .version).bind ?_ fun e r he => nomatch he.1
    rintro _ r₂ ⟨-, h₂, hframe₂, hfiles₂⟩
    refine (safe_createOrOpen h₂ hframe₂ .vaults).bind ?_ fun e r he => nomatch he.1
    rintro _ r₃ ⟨-, h₃, hframe₃, hfiles₃⟩
    refine (safe_createOrOpen h₃ hframe₃ .vault).bind ?_ fun e r he => nomatch he.1
    rintro _ r₄ ⟨-, h₄, hframe₄, hfiles₄⟩
    have hfiles : r₄.files = t.files := hfiles₄.trans (hfiles₃.trans (hfiles₂.trans hfiles₁))
    refine (safe_publishOrVerifyBinding host h₄ hframe₄ draw).bind ?_ ?_
    · rintro _ r₅ ⟨h₅, hframe₅, -⟩
      refine (safe_ensureOperationLock h₅ hframe₅).bind ?_ fun e r he => nomatch he.1
      rintro _ r₆ ⟨-, h₆, hframe₆, hlock⟩
      refine (safe_createOrOpen h₆ hframe₆ .staging).bind ?_ fun e r he => nomatch he.1
      rintro _ r₇ ⟨-, h₇, hframe₇, hfiles₇⟩
      refine (safe_createOrOpen h₇ hframe₇ .objects).mono (fun _ _ hI => hI) ?_
      rintro x r₈ ⟨hx, h₈, hframe₈, hfiles₈⟩
      refine ⟨h₈, hframe₈, fun _ => ?_, fun _ _ _ => hx⟩
      rw [LockReady, hfiles₈, hfiles₇]
      exact hlock
    · rintro e r₅ ⟨h₅, hframe₅, hok⟩
      refine ⟨h₅, hframe₅, nofun, fun _ hparse hfree => ?_⟩
      rw [BindingDrawFree, ← hfiles] at hfree
      exact nomatch hok hparse hfree
  · rintro e t ⟨rfl, hok⟩
    exact ⟨h, hframe, nofun, fun hnil => nomatch hok hnil⟩

end Opening

end Snapshots
end MyVault
