import MyVault.Library.Program
import Mathlib.Data.Nat.Notation
import Mathlib.Tactic.IntervalCases

/-!
# The base64 of the bridge

`tauri-plugin-vault-saf/src/lib.rs`: `encode_base64` and `decode_base64_bounded` on the
bytes of a string.  What is encoded is decoded again, if it is no longer than the bound
(`decodeBase64Bounded_encodeBase64`).
-/

namespace MyVault
namespace Saf

open Check

/-- The errors of the bridge. -/
inductive SafTransferError where
  | staleRevision
  | alreadyExists
  | notFound
  | invalidPath
  | invalidRequest
  | digestMismatch
  | resourceLimit
  | vaultUnavailable
  | unsupportedReplace
  | writeOutcomeUnknown
  | nativeBridge
  deriving DecidableEq, Repr

/-- `ALPHABET[index]`. -/
def base64Char (index : UInt8) : UInt8 :=
  let n := index.toNat
  UInt8.ofNat <|
    if n < 26 then 65 + n else if n < 52 then 97 + (n - 26) else if n < 62 then 48 + (n - 52)
    else if n = 62 then 43 else 47

/-- `b'='`. -/
def padByte : UInt8 := 61

/-- The four characters of a group; a byte that is not there counts as zero. -/
def encodeGroup (first : UInt8) (second third : Option UInt8) : List UInt8 :=
  let b := second.getD 0
  let c := third.getD 0
  [base64Char (first >>> 2), base64Char (((first &&& 0x03) <<< 4) ||| (b >>> 4)),
    if second.isSome = true then base64Char (((b &&& 0x0f) <<< 2) ||| (c >>> 6)) else padByte,
    if third.isSome = true then base64Char (c &&& 0x3f) else padByte]

/-- `encode_base64`. -/
def encodeBase64 : List UInt8 → List UInt8
  | [] => []
  | [first] => encodeGroup first none none
  | [first, second] => encodeGroup first (some second) none
  | first :: second :: third :: rest =>
    encodeGroup first (some second) (some third) ++ encodeBase64 rest

/-- The six bits of a character. -/
def base64Value (byte : UInt8) : Option UInt8 :=
  let n := byte.toNat
  if 65 ≤ n ∧ n ≤ 90 then some (byte - 65)
  else if 97 ≤ n ∧ n ≤ 122 then some (byte - 97 + 26)
  else if 48 ≤ n ∧ n ≤ 57 then some (byte - 48 + 52)
  else if n = 43 then some 62
  else if n = 47 then some 63
  else none

/-- The value of a character that may be padding at the end. -/
def paddedValue (byte : UInt8) (mayPad : Bool) : Except SafTransferError UInt8 :=
  if byte = padByte then if mayPad = true then .ok 0 else .error .nativeBridge
  else (base64Value byte).elim (.error .nativeBridge) .ok

/-- The bytes of one group. -/
def decodeGroup (last : Bool) (w x y z : UInt8) : Except SafTransferError (List UInt8) := do
  let a ← (base64Value w).elim (.error .nativeBridge) .ok
  let b ← (base64Value x).elim (.error .nativeBridge) .ok
  let c ← paddedValue y (last && z == padByte)
  let d ← paddedValue z last
  .ok ([(a <<< 2) ||| (b >>> 4)] ++ (if y ≠ padByte then [(b <<< 4) ||| (c >>> 2)] else []) ++
    if z ≠ padByte then [(c <<< 6) ||| d] else [])

/-- The loop of `decode_base64_bounded`. -/
def decodeGroups (maxBytes : ℕ) : List UInt8 → List UInt8 → Except SafTransferError (List UInt8)
  | output, w :: x :: y :: z :: rest => do
    let group ← decodeGroup rest.isEmpty w x y z
    let output := output ++ group
    reject (maxBytes < output.length) .resourceLimit
    decodeGroups maxBytes output rest
  | output, _ => .ok output

/-- `decode_base64_bounded`. -/
def decodeBase64Bounded (value : List UInt8) (maxBytes : ℕ) :
    Except SafTransferError (List UInt8) := do
  reject (value.length % 4 ≠ 0 ∨ maxBytes + 2 < value.length / 4 * 3) .resourceLimit
  decodeGroups maxBytes [] value

/-! ## One group -/

theorem base64Value_base64Char {index : UInt8} (h : index < 64) :
    base64Value (base64Char index) = some index ∧ base64Char index ≠ padByte := by
  have key : ∀ i : Fin 64, base64Value (base64Char (UInt8.ofNat i.val)) = some (UInt8.ofNat i.val) ∧
      base64Char (UInt8.ofNat i.val) ≠ padByte := by decide
  have hindex := key ⟨index.toNat, UInt8.lt_iff_toNat_lt.mp h⟩
  rwa [UInt8.ofNat_toNat] at hindex

theorem lt_of_high_bits {x : UInt8} (h₆ : x.toBitVec.getLsbD 6 = false)
    (h₇ : x.toBitVec.getLsbD 7 = false) : x < 64 := by
  have key : ∀ i : Fin 256, (UInt8.ofNat i.val).toBitVec.getLsbD 6 = false →
      (UInt8.ofNat i.val).toBitVec.getLsbD 7 = false → UInt8.ofNat i.val < 64 := by
    decide +kernel
  have hx := key ⟨x.toNat, x.toNat_lt⟩
  rw [UInt8.ofNat_toNat] at hx
  exact hx h₆ h₇

/-- The four indices into the alphabet. -/
theorem indices_lt (a b c : UInt8) :
    a >>> 2 < 64 ∧ ((a &&& 0x03) <<< 4) ||| (b >>> 4) < 64 ∧
      ((b &&& 0x0f) <<< 2) ||| (c >>> 6) < 64 ∧ c &&& 0x3f < 64 := by
  refine ⟨lt_of_high_bits ?_ ?_, lt_of_high_bits ?_ ?_, lt_of_high_bits ?_ ?_,
    lt_of_high_bits ?_ ?_⟩ <;> simp [BitVec.getLsbD_of_ge]

theorem eq_of_bits {x y : UInt8}
    (h : ∀ i, i < 8 → x.toBitVec.getLsbD i = y.toBitVec.getLsbD i) : x = y := by
  refine UInt8.toBitVec_inj.mp ?_
  ext i hi
  rw [← BitVec.getLsbD_eq_getElem, ← BitVec.getLsbD_eq_getElem]
  exact h i hi

theorem join_first (a b : UInt8) :
    (a >>> 2) <<< 2 ||| (((a &&& 0x03) <<< 4) ||| (b >>> 4)) >>> 4 = a := by
  refine eq_of_bits fun i hi => ?_
  interval_cases i <;> simp [BitVec.getLsbD_of_ge]

theorem join_second (a b c : UInt8) :
    (((a &&& 0x03) <<< 4) ||| (b >>> 4)) <<< 4 ||| (((b &&& 0x0f) <<< 2) ||| (c >>> 6)) >>> 2 =
      b := by
  refine eq_of_bits fun i hi => ?_
  interval_cases i <;> simp [BitVec.getLsbD_of_ge]

theorem join_third (b c : UInt8) :
    (((b &&& 0x0f) <<< 2) ||| (c >>> 6)) <<< 6 ||| (c &&& 0x3f) = c := by
  refine eq_of_bits fun i hi => ?_
  interval_cases i <;> simp

theorem paddedValue_base64Char {index : UInt8} {mayPad : Bool} (h : index < 64) :
    paddedValue (base64Char index) mayPad = .ok index := by
  obtain ⟨hvalue, hpad⟩ := base64Value_base64Char h
  rw [paddedValue, if_neg hpad, hvalue]
  rfl

theorem paddedValue_padByte : paddedValue padByte true = .ok 0 := rfl

theorem decodeGroup_three (last : Bool) (a b c : UInt8) :
    decodeGroup last (base64Char (a >>> 2)) (base64Char (((a &&& 0x03) <<< 4) ||| (b >>> 4)))
      (base64Char (((b &&& 0x0f) <<< 2) ||| (c >>> 6))) (base64Char (c &&& 0x3f)) =
        .ok [a, b, c] := by
  obtain ⟨h₀, h₁, h₂, h₃⟩ := indices_lt a b c
  rw [decodeGroup, (base64Value_base64Char h₀).1, (base64Value_base64Char h₁).1,
    paddedValue_base64Char h₂, paddedValue_base64Char h₃]
  show Except.ok _ = _
  rw [if_pos (base64Value_base64Char h₂).2, if_pos (base64Value_base64Char h₃).2, join_first,
    join_second, join_third]
  rfl

theorem decodeGroup_two (a b : UInt8) :
    decodeGroup true (base64Char (a >>> 2)) (base64Char (((a &&& 0x03) <<< 4) ||| (b >>> 4)))
      (base64Char (((b &&& 0x0f) <<< 2) ||| ((0 : UInt8) >>> 6))) padByte = .ok [a, b] := by
  obtain ⟨h₀, h₁, h₂, -⟩ := indices_lt a b 0
  rw [decodeGroup, (base64Value_base64Char h₀).1, (base64Value_base64Char h₁).1,
    paddedValue_base64Char h₂, paddedValue_padByte]
  show Except.ok _ = _
  rw [if_pos (base64Value_base64Char h₂).2, if_neg (not_not_intro rfl), join_first, join_second]
  rfl

theorem decodeGroup_one (a : UInt8) :
    decodeGroup true (base64Char (a >>> 2))
      (base64Char (((a &&& 0x03) <<< 4) ||| ((0 : UInt8) >>> 4)))
      padByte padByte = .ok [a] := by
  obtain ⟨h₀, h₁, -, -⟩ := indices_lt a 0 0
  rw [decodeGroup, (base64Value_base64Char h₀).1, (base64Value_base64Char h₁).1, Bool.true_and,
    beq_self_eq_true, paddedValue_padByte]
  show Except.ok _ = _
  rw [if_neg (not_not_intro rfl), join_first]
  rfl

/-! ## The round trip -/

/-- A group that is decoded, and what follows it. -/
theorem decodeGroups_cons {maxBytes : ℕ} {output group rest : List UInt8} {w x y z : UInt8}
    (hgroup : decodeGroup rest.isEmpty w x y z = .ok group)
    (hle : output.length + group.length ≤ maxBytes) :
    decodeGroups maxBytes output (w :: x :: y :: z :: rest) =
      decodeGroups maxBytes (output ++ group) rest := by
  rw [decodeGroups, hgroup, ok_bind]
  dsimp only
  rw [reject, if_neg (by rw [List.length_append]; omega), ok_bind]

theorem decodeGroups_encodeBase64 {maxBytes : ℕ} {output bytes : List UInt8}
    (h : output.length + bytes.length ≤ maxBytes) :
    decodeGroups maxBytes output (encodeBase64 bytes) = .ok (output ++ bytes) := by
  induction bytes using encodeBase64.induct generalizing output with
  | case1 =>
      rw [List.append_nil]
      rfl
  | case2 first => exact decodeGroups_cons (decodeGroup_one first) h
  | case3 first second => exact decodeGroups_cons (decodeGroup_two first second) h
  | case4 first second third rest ih =>
      simp only [List.length_cons] at h
      refine (decodeGroups_cons (decodeGroup_three _ first second third) ?_).trans ?_
      · simp only [List.length_cons, List.length_nil]
        omega
      · have hrest := @ih (output ++ [first, second, third]) (by
          simp only [List.length_append, List.length_cons, List.length_nil]
          omega)
        rwa [List.append_assoc] at hrest

theorem length_encodeBase64 (bytes : List UInt8) :
    (encodeBase64 bytes).length = (bytes.length + 2) / 3 * 4 := by
  induction bytes using encodeBase64.induct with
  | case1 => rfl
  | case2 => simp [encodeBase64, encodeGroup]
  | case3 => simp [encodeBase64, encodeGroup]
  | case4 first second third rest ih =>
      rw [encodeBase64, List.length_append, ih, encodeGroup]
      simp only [List.length_cons, List.length_nil]
      omega

/-- What is encoded is decoded again. -/
theorem decodeBase64Bounded_encodeBase64 {maxBytes : ℕ} {bytes : List UInt8}
    (h : bytes.length ≤ maxBytes) :
    decodeBase64Bounded (encodeBase64 bytes) maxBytes = .ok bytes := by
  rw [decodeBase64Bounded, length_encodeBase64, reject, if_neg (by omega), ok_bind]
  exact decodeGroups_encodeBase64 (by simpa using h)

end Saf
end MyVault
