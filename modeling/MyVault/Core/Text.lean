import Mathlib.Algebra.GroupWithZero.Nat
import Mathlib.Data.List.Basic
import Mathlib.Data.Nat.Notation

/-!
# Texts, their UTF-8 bytes and machine sizes

A Rust `&str` is a sequence of Unicode scalar values, so it is a list of `Char`
here, and `len()` counts the bytes of the UTF-8 encoding.  The bytes LF and CR
occur in that encoding only as the characters of that name, so a scan over the
bytes for them is a scan over the characters.

`usize` and `u64` are both 64 bits wide on the targets of the crate; the helpers
`checkedAdd`, `saturatingMul` and `u64TryFrom` are the operations of the standard
library at that width.
-/

namespace MyVault

/-- The characters of a `&str`. -/
abbrev Text := List Char

/-- One logical line of a document, without its terminator. -/
abbrev Line := List Char

/-- `str::len`: the number of bytes of the UTF-8 encoding. -/
def utf8Len (t : Text) : ℕ := (t.map Char.utf8Size).sum

/-- `str::as_bytes`. -/
def utf8Bytes (t : Text) : List UInt8 := t.flatMap String.utf8EncodeChar

@[simp] theorem utf8Len_nil : utf8Len [] = 0 := rfl

@[simp] theorem utf8Len_append (s t : Text) : utf8Len (s ++ t) = utf8Len s + utf8Len t := by
  rw [utf8Len, List.map_append, List.sum_append, utf8Len, utf8Len]

/-- A character takes at most four bytes. -/
theorem utf8Len_le (t : Text) : utf8Len t ≤ 4 * t.length := by
  induction t with
  | nil => simp
  | cons c t ih =>
      have hc := Char.utf8Size_le_four c
      rw [utf8Len, List.map_cons, List.sum_cons, ← utf8Len, List.length_cons]
      omega

/-- ASCII characters take one byte each. -/
theorem utf8Len_of_ascii {t : Text} (h : ∀ c ∈ t, c.toNat < 128) : utf8Len t = t.length := by
  have hone : t.map Char.utf8Size = t.map fun _ => 1 := by
    refine List.map_congr_left fun c hc => ?_
    rw [Char.utf8Size_eq_one_iff, UInt32.le_iff_toNat_le]
    exact Nat.le_of_lt_succ (h c hc)
  rw [utf8Len, hone]
  simp

theorem length_utf8Bytes (t : Text) : (utf8Bytes t).length = utf8Len t := by
  rw [utf8Bytes, List.length_flatMap, utf8Len]
  simp only [String.length_utf8EncodeChar]

/-- The encoding loses nothing. -/
theorem utf8Bytes_injective : Function.Injective utf8Bytes := by
  intro s t h
  have hbytes : s.utf8Encode = t.utf8Encode := congrArg List.toByteArray h
  have hdecode := congrArg ByteArray.utf8Decode? hbytes
  rw [List.utf8Decode?_utf8Encode, List.utf8Decode?_utf8Encode, Option.some.injEq] at hdecode
  exact congrArg Array.toList hdecode

/-- `str::len` of a stored string. -/
def strLen (s : String) : ℕ := utf8Len s.toList

/-- `str::as_bytes` of a stored string. -/
def strBytes (s : String) : List UInt8 := utf8Bytes s.toList

theorem length_strBytes (s : String) : (strBytes s).length = strLen s := length_utf8Bytes _

theorem strBytes_injective : Function.Injective strBytes :=
  fun _ _ h => String.toList_injective (utf8Bytes_injective h)

/-! ## Sizes -/

/-- One more than the largest `usize` or `u64`. -/
def wordLimit : ℕ := 2 ^ 64

/-- The value, if a machine word holds it. -/
def fitsWord (n : ℕ) : Option ℕ := if n < wordLimit then some n else none

/-- `usize::checked_add`. -/
def checkedAdd (a b : ℕ) : Option ℕ := fitsWord (a + b)

/-- `usize::saturating_mul`. -/
def saturatingMul (a b : ℕ) : ℕ := min (a * b) (wordLimit - 1)

/-- `u64::try_from`. -/
def u64TryFrom (n : ℕ) : Option ℕ := fitsWord n

theorem fitsWord_eq_some_iff {n m : ℕ} : fitsWord n = some m ↔ n = m ∧ m < wordLimit := by
  unfold fitsWord
  split
  · rename_i h
    rw [Option.some.injEq]
    constructor
    · rintro rfl
      exact ⟨rfl, h⟩
    · exact And.left
  · rename_i h
    constructor
    · intro hm
      exact absurd hm (by simp)
    · rintro ⟨rfl, hlt⟩
      exact absurd hlt h

end MyVault
