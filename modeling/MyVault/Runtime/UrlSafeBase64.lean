import MyVault.Core.Text
import MyVault.Saf.Base64

/-!
# Unpadded URL-safe base64

`URL_SAFE_NO_PAD` of the `base64` crate: the alphabet of RFC 4648 with `-` and `_`, no
padding, and on the way back no bits that belong to no byte.

What is encoded is decoded again (`decode_encode`), and three bytes take four characters
(`length_encode`).
-/

namespace MyVault
namespace UrlSafe

open Saf

/-- The character of an index below 64. -/
def char (index : UInt8) : Char :=
  let n := index.toNat
  Char.ofNat <|
    if n < 26 then 65 + n else if n < 52 then 97 + (n - 26) else if n < 62 then 48 + (n - 52)
    else if n = 62 then 45 else 95

/-- The six bits of a character. -/
def value (c : Char) : Option UInt8 :=
  let n := c.toNat
  if 65 ≤ n ∧ n ≤ 90 then some (UInt8.ofNat (n - 65))
  else if 97 ≤ n ∧ n ≤ 122 then some (UInt8.ofNat (n - 97 + 26))
  else if 48 ≤ n ∧ n ≤ 57 then some (UInt8.ofNat (n - 48 + 52))
  else if n = 45 then some 62
  else if n = 95 then some 63
  else none

/-- A last group of one or two bytes takes two or three characters. -/
def encode : List UInt8 → Text
  | [] => []
  | [a] => [char (a >>> 2), char (((a &&& 0x03) <<< 4) ||| ((0 : UInt8) >>> 4))]
  | [a, b] =>
    [char (a >>> 2), char (((a &&& 0x03) <<< 4) ||| (b >>> 4)),
      char (((b &&& 0x0f) <<< 2) ||| ((0 : UInt8) >>> 6))]
  | a :: b :: c :: rest =>
    char (a >>> 2) :: char (((a &&& 0x03) <<< 4) ||| (b >>> 4)) ::
      char (((b &&& 0x0f) <<< 2) ||| (c >>> 6)) :: char (c &&& 0x3f) :: encode rest

/-- The bytes of a text; the last group may be short, and its unused bits must be zero. -/
def decode : Text → Option (List UInt8)
  | [] => some []
  | [_] => none
  | [w, x] => do
    let a ← value w
    let b ← value x
    if b &&& 0x0f = 0 then some [(a <<< 2) ||| (b >>> 4)] else none
  | [w, x, y] => do
    let a ← value w
    let b ← value x
    let c ← value y
    if c &&& 0x03 = 0 then some [(a <<< 2) ||| (b >>> 4), (b <<< 4) ||| (c >>> 2)] else none
  | w :: x :: y :: z :: rest => do
    let a ← value w
    let b ← value x
    let c ← value y
    let d ← value z
    let bytes ← decode rest
    some (((a <<< 2) ||| (b >>> 4)) :: ((b <<< 4) ||| (c >>> 2)) :: ((c <<< 6) ||| d) :: bytes)

theorem value_char {index : UInt8} (h : index < 64) : value (char index) = some index := by
  have key : ∀ i : Fin 64, value (char (UInt8.ofNat i.val)) = some (UInt8.ofNat i.val) := by
    decide
  have hindex := key ⟨index.toNat, UInt8.lt_iff_toNat_lt.mp h⟩
  rwa [UInt8.ofNat_toNat] at hindex

/-- The bits of the last character that belong to no byte. -/
theorem unused_bits (a b : UInt8) :
    (((a &&& 0x03) <<< 4) ||| ((0 : UInt8) >>> 4)) &&& 0x0f = 0 ∧
      (((b &&& 0x0f) <<< 2) ||| ((0 : UInt8) >>> 6)) &&& 0x03 = 0 := by
  constructor <;>
  · refine eq_of_bits fun i hi => ?_
    interval_cases i <;> simp

theorem decode_encode (bytes : List UInt8) : decode (encode bytes) = some bytes := by
  induction bytes using encode.induct with
  | case1 => rfl
  | case2 a =>
      obtain ⟨h₀, h₁, -, -⟩ := indices_lt a 0 0
      simp only [encode, decode, value_char h₀, value_char h₁, Option.bind_eq_bind,
        Option.bind_some, (unused_bits a 0).1, if_true, join_first]
  | case3 a b =>
      obtain ⟨h₀, h₁, h₂, -⟩ := indices_lt a b 0
      simp only [encode, decode, value_char h₀, value_char h₁, value_char h₂,
        Option.bind_eq_bind, Option.bind_some, (unused_bits a b).2, if_true, join_first,
        join_second]
  | case4 a b c rest ih =>
      obtain ⟨h₀, h₁, h₂, h₃⟩ := indices_lt a b c
      simp only [encode, decode, value_char h₀, value_char h₁, value_char h₂, value_char h₃,
        Option.bind_eq_bind, Option.bind_some, ih, join_first, join_second, join_third]

theorem length_encode (bytes : List UInt8) :
    (encode bytes).length = (4 * bytes.length + 2) / 3 := by
  induction bytes using encode.induct with
  | case1 => rfl
  | case2 a => simp [encode]
  | case3 a b => simp [encode]
  | case4 a b c rest ih =>
      simp only [encode, List.length_cons, ih]
      omega

theorem char_ascii (index : UInt8) : (char index).toNat < 128 := by
  have key : ∀ i : Fin 256, (char (UInt8.ofNat i.val)).toNat < 128 := by decide +kernel
  have hindex := key ⟨index.toNat, index.toNat_lt⟩
  rwa [UInt8.ofNat_toNat] at hindex

theorem ascii_of_mem_encode {bytes : List UInt8} {c : Char} (h : c ∈ encode bytes) :
    c.toNat < 128 := by
  induction bytes using encode.induct with
  | case1 => cases h
  | case2 a =>
      simp only [encode, List.mem_cons, List.not_mem_nil, or_false] at h
      rcases h with rfl | rfl <;> exact char_ascii _
  | case3 a b =>
      simp only [encode, List.mem_cons, List.not_mem_nil, or_false] at h
      rcases h with rfl | rfl | rfl <;> exact char_ascii _
  | case4 a b c rest ih =>
      simp only [encode, List.mem_cons] at h
      rcases h with rfl | rfl | rfl | rfl | h
      · exact char_ascii _
      · exact char_ascii _
      · exact char_ascii _
      · exact char_ascii _
      · exact ih h

end UrlSafe
end MyVault
