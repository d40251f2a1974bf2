import MyVault.Core.Text
import Mathlib.Data.Vector.Basic

/-!
# Digests and their lower-case hexadecimal form

SHA-256 and BLAKE3 themselves are not part of the repository.  A `Sha256`, a `Blake3` is
any function from byte strings to 32 bytes; results that need more about it say so.
-/

namespace MyVault

/-- `Sha256::digest`. -/
abbrev Sha256 := List UInt8 → List.Vector UInt8 32

/-- A digest that looks at nothing. -/
def constantDigest : Sha256 := fun _ => List.Vector.replicate 32 0

/-- One hexadecimal digit. -/
def hexDigit (n : ℕ) : Char :=
  match n with
  | 0 => '0' | 1 => '1' | 2 => '2' | 3 => '3' | 4 => '4' | 5 => '5' | 6 => '6' | 7 => '7'
  | 8 => '8' | 9 => '9' | 10 => 'a' | 11 => 'b' | 12 => 'c' | 13 => 'd' | 14 => 'e' | _ => 'f'

/-- `{byte:02x}`. -/
def hexByte (b : UInt8) : Text := [hexDigit (b.toNat / 16), hexDigit (b.toNat % 16)]

/-- `{bytes:x}`: two digits for every byte. -/
def hexBytes (bytes : List UInt8) : Text := bytes.flatMap hexByte

/-- `hex_sha256`, and `format!("{digest:x}")`: the digest in hexadecimal. -/
def hexSha256 (sha256 : Sha256) (bytes : List UInt8) : String :=
  String.ofList (hexBytes (sha256 bytes).toList)

/-- `blake3::hash`. -/
abbrev Blake3 := List UInt8 → List.Vector UInt8 32

/-- `blake3::hash(bytes).to_hex()`. -/
def hexBlake3 (blake3 : Blake3) (bytes : List UInt8) : String :=
  String.ofList (hexBytes (blake3 bytes).toList)

theorem hexDigit_inj {m n : ℕ} (hm : m < 16) (hn : n < 16) (h : hexDigit m = hexDigit n) :
    m = n := by
  have key : ∀ i j : Fin 16, hexDigit i.val = hexDigit j.val → i = j := by decide
  exact congrArg Fin.val (key ⟨m, hm⟩ ⟨n, hn⟩ h)

theorem hexByte_inj {a b : UInt8} (h : hexByte a = hexByte b) : a = b := by
  rw [hexByte, hexByte, List.cons.injEq, List.cons.injEq] at h
  have ha := a.toNat_lt
  have hb := b.toNat_lt
  have hhigh := hexDigit_inj (by omega) (by omega) h.1
  have hlow := hexDigit_inj (Nat.mod_lt _ (by omega)) (Nat.mod_lt _ (by omega)) h.2.1
  exact UInt8.toNat_inj.mp (by omega)

theorem hexBytes_inj {xs ys : List UInt8} (h : hexBytes xs = hexBytes ys) : xs = ys := by
  induction xs generalizing ys with
  | nil =>
      cases ys with
      | nil => rfl
      | cons y ys => exact absurd h (by simp [hexBytes, hexByte])
  | cons x xs ih =>
      cases ys with
      | nil => exact absurd h (by simp [hexBytes, hexByte])
      | cons y ys =>
          rw [hexBytes, List.flatMap_cons, hexBytes, List.flatMap_cons] at h
          obtain ⟨hhead, htail⟩ := List.append_inj h rfl
          rw [hexByte_inj hhead, ih htail]

/-- The hexadecimal form loses nothing. -/
theorem hexSha256_inj {sha256 : Sha256} {xs ys : List UInt8}
    (h : hexSha256 sha256 xs = hexSha256 sha256 ys) : sha256 xs = sha256 ys :=
  List.Vector.toList_injective (hexBytes_inj (String.ofList_injective h))

theorem hexBlake3_inj {blake3 : Blake3} {xs ys : List UInt8}
    (h : hexBlake3 blake3 xs = hexBlake3 blake3 ys) : blake3 xs = blake3 ys :=
  List.Vector.toList_injective (hexBytes_inj (String.ofList_injective h))

end MyVault
