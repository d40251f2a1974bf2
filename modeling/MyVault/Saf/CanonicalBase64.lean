import MyVault.Saf.Base64

/-!
# Which texts the bridge's decoder accepts

`decode_base64_bounded` checks the alphabet, the padding and the length of a text, but it
does not look at the bits of the last character that belong to no byte.  So the bytes of a
text it accepts are encoded as this text again exactly if these bits are zero
(`encodes_back_iff_unusedBits`).

## The two directions

The encoder is injective and its texts are accepted, so the only question is which other texts are
accepted too.  A group of four characters with no padding has no bits left over.  With one `=` the
third character has two bits that belong to no byte, and with two the second has four
(`unusedBits`).  `DecodedGroup` says for each kind of group which bytes it gives and when they are
encoded as this group again.

The decoder works group by group and compares the length with the bound as it goes, so a text that
is too long is refused before it is decoded to its end, and bytes that fit the bound are always
taken back (`decodeBase64Bounded_encodeBase64_of_lt` has the other case).
-/

namespace MyVault
namespace Saf

open Check

/-- The bits of the last character before the padding that no byte takes. -/
def unusedBits : List UInt8 → UInt8
  | [_, x, y, z] =>
    if y = padByte then (base64Value x).getD 0 &&& 0x0f
    else if z = padByte then (base64Value y).getD 0 &&& 0x03
    else 0
  | _ :: _ :: _ :: _ :: rest => unusedBits rest
  | _ => 0

/-! ## Characters and their values -/

theorem base64Char_of_base64Value {byte index : UInt8} (h : base64Value byte = some index) :
    index < 64 ∧ base64Char index = byte ∧ byte ≠ padByte := by
  have hpad : padByte.toNat = 61 := rfl
  have hlimit : (64 : UInt8).toNat = 64 := rfl
  rw [UInt8.lt_iff_toNat_lt, hlimit, Ne, ← UInt8.toNat_inj (b := padByte), hpad]
  simp only [base64Value] at h
  -- one case for each range of the alphabet
  split at h
  · rename_i hrange
    cases h
    have hindex : (byte - 65).toNat = byte.toNat - 65 := UInt8.toNat_sub_of_le _ _ hrange.1
    have hback : 65 + (byte.toNat - 65) = byte.toNat := by omega
    simp only [base64Char, hindex]
    rw [if_pos (by omega), hback, UInt8.ofNat_toNat]
    exact ⟨by omega, rfl, by omega⟩
  split at h
  · rename_i hrange
    cases h
    have hsub : (byte - 97).toNat = byte.toNat - 97 := UInt8.toNat_sub_of_le _ _ hrange.1
    have hindex : (byte - 97 + 26).toNat = byte.toNat - 97 + 26 := by
      rw [UInt8.toNat_add, hsub]
      simp only [UInt8.reduceToNat]
      omega
    have hback : 97 + (byte.toNat - 97 + 26 - 26) = byte.toNat := by omega
    simp only [base64Char, hindex]
    rw [if_neg (by omega), if_pos (by omega), hback, UInt8.ofNat_toNat]
    exact ⟨by omega, rfl, by omega⟩
  split at h
  · rename_i hrange
    cases h
    have hsub : (byte - 48).toNat = byte.toNat - 48 := UInt8.toNat_sub_of_le _ _ hrange.1
    have hindex : (byte - 48 + 52).toNat = byte.toNat - 48 + 52 := by
      rw [UInt8.toNat_add, hsub]
      simp only [UInt8.reduceToNat]
      omega
    have hback : 48 + (byte.toNat - 48 + 52 - 52) = byte.toNat := by omega
    simp only [base64Char, hindex]
    rw [if_neg (by omega), if_neg (by omega), if_pos (by omega), hback, UInt8.ofNat_toNat]
    exact ⟨by omega, rfl, by omega⟩
  split at h
  · rename_i hplus
    cases h
    exact ⟨by decide, by rw [← UInt8.toNat_inj, hplus]; rfl, by omega⟩
  split at h
  · rename_i hslash
    cases h
    exact ⟨by decide, by rw [← UInt8.toNat_inj, hslash]; rfl, by omega⟩
  · cases h

theorem base64Char_inj {i j : UInt8} (hi : i < 64) (hj : j < 64) :
    base64Char i = base64Char j ↔ i = j := by
  refine ⟨fun h => ?_, congrArg base64Char⟩
  have hvalue := (base64Value_base64Char hi).1
  rw [h, (base64Value_base64Char hj).1] at hvalue
  exact (Option.some.inj hvalue).symm

theorem high_bits_of_lt {x : UInt8} (h : x < 64) :
    x.toBitVec.getLsbD 6 = false ∧ x.toBitVec.getLsbD 7 = false := by
  have key : ∀ i : Fin 64, (UInt8.ofNat i.val).toBitVec.getLsbD 6 = false ∧
      (UInt8.ofNat i.val).toBitVec.getLsbD 7 = false := by decide
  have hx := key ⟨x.toNat, UInt8.lt_iff_toNat_lt.mp h⟩
  rwa [UInt8.ofNat_toNat] at hx

/-! ## The indices of decoded bytes -/

section Split

variable {a b c d : UInt8}

theorem split_first (ha : a < 64) (hb : b < 64) : (a <<< 2 ||| b >>> 4) >>> 2 = a := by
  obtain ⟨ha₆, ha₇⟩ := high_bits_of_lt ha
  obtain ⟨hb₆, hb₇⟩ := high_bits_of_lt hb
  refine eq_of_bits fun i hi => ?_
  interval_cases i <;> simp_all [BitVec.getLsbD_of_ge]

theorem split_second (hb : b < 64) (hc : c < 64) :
    ((a <<< 2 ||| b >>> 4) &&& 0x03) <<< 4 ||| (b <<< 4 ||| c >>> 2) >>> 4 = b := by
  obtain ⟨hb₆, hb₇⟩ := high_bits_of_lt hb
  obtain ⟨hc₆, hc₇⟩ := high_bits_of_lt hc
  refine eq_of_bits fun i hi => ?_
  interval_cases i <;> simp_all [BitVec.getLsbD_of_ge]

theorem split_third (hc : c < 64) (hd : d < 64) :
    ((b <<< 4 ||| c >>> 2) &&& 0x0f) <<< 2 ||| (c <<< 6 ||| d) >>> 6 = c := by
  obtain ⟨hc₆, hc₇⟩ := high_bits_of_lt hc
  obtain ⟨hd₆, hd₇⟩ := high_bits_of_lt hd
  refine eq_of_bits fun i hi => ?_
  interval_cases i <;> simp_all [BitVec.getLsbD_of_ge]

theorem split_fourth (hd : d < 64) : (c <<< 6 ||| d) &&& 0x3f = d := by
  obtain ⟨hd₆, hd₇⟩ := high_bits_of_lt hd
  refine eq_of_bits fun i hi => ?_
  interval_cases i <;> simp_all

/-- The last index of two bytes has lost two bits. -/
theorem split_tail_two (hc : c < 64) :
    ((b <<< 4 ||| c >>> 2) &&& 0x0f) <<< 2 ||| (0 : UInt8) >>> 6 = c ↔ c &&& 0x03 = 0 := by
  obtain ⟨hc₆, hc₇⟩ := high_bits_of_lt hc
  have hkept : ((b <<< 4 ||| c >>> 2) &&& 0x0f) <<< 2 ||| (0 : UInt8) >>> 6 = c &&& 0x3c := by
    refine eq_of_bits fun i hi => ?_
    interval_cases i <;> simp_all
  have key : ∀ i : Fin 64, UInt8.ofNat i.val &&& 0x3c = UInt8.ofNat i.val ↔
      UInt8.ofNat i.val &&& 0x03 = 0 := by decide
  have hiff := key ⟨c.toNat, UInt8.lt_iff_toNat_lt.mp hc⟩
  rw [UInt8.ofNat_toNat] at hiff
  rw [hkept, hiff]

/-- The last index of one byte has lost four bits. -/
theorem split_tail_one (hb : b < 64) :
    ((a <<< 2 ||| b >>> 4) &&& 0x03) <<< 4 ||| (0 : UInt8) >>> 4 = b ↔ b &&& 0x0f = 0 := by
  obtain ⟨hb₆, hb₇⟩ := high_bits_of_lt hb
  have hkept : ((a <<< 2 ||| b >>> 4) &&& 0x03) <<< 4 ||| (0 : UInt8) >>> 4 = b &&& 0x30 := by
    refine eq_of_bits fun i hi => ?_
    interval_cases i <;> simp_all
  have key : ∀ i : Fin 64, UInt8.ofNat i.val &&& 0x30 = UInt8.ofNat i.val ↔
      UInt8.ofNat i.val &&& 0x0f = 0 := by decide
  have hiff := key ⟨b.toNat, UInt8.lt_iff_toNat_lt.mp hb⟩
  rw [UInt8.ofNat_toNat] at hiff
  rw [hkept, hiff]

end Split

/-! ## A group that is accepted -/

section Group

variable {last : Bool} {w x y z : UInt8} {group : List UInt8}

theorem elim_eq_ok {o : Option UInt8} {v : UInt8}
    (h : o.elim (.error .nativeBridge) .ok = (.ok v : Except SafTransferError UInt8)) :
    o = some v := by
  cases o with
  | none => cases h
  | some value =>
      cases h
      rfl

/-- The bytes of a group, and when they are encoded as this group. -/
inductive DecodedGroup (w x y z : UInt8) : Bool → List UInt8 → Prop
  | three {last : Bool} (p q r : UInt8) (hy : y ≠ padByte) (hz : z ≠ padByte)
      (encoded : encodeGroup p (some q) (some r) = [w, x, y, z]) :
      DecodedGroup w x y z last [p, q, r]
  | two (p q : UInt8)
      (encoded : encodeGroup p (some q) none = [w, x, y, z] ↔ unusedBits [w, x, y, z] = 0) :
      DecodedGroup w x y z true [p, q]
  | one (p : UInt8)
      (encoded : encodeGroup p none none = [w, x, y, z] ↔ unusedBits [w, x, y, z] = 0) :
      DecodedGroup w x y z true [p]

theorem decodedGroup_of_decodeGroup (h : decodeGroup last w x y z = .ok group) :
    DecodedGroup w x y z last group := by
  rw [decodeGroup] at h
  obtain ⟨a, ha, h₁⟩ := bind_eq_ok.mp h
  obtain ⟨b, hb, h₂⟩ := bind_eq_ok.mp h₁
  obtain ⟨c, hc, h₃⟩ := bind_eq_ok.mp h₂
  obtain ⟨d, hd, hgroup⟩ := bind_eq_ok.mp h₃
  clear h h₁ h₂ h₃
  have hx := elim_eq_ok hb
  obtain ⟨ha64, hw, -⟩ := base64Char_of_base64Value (elim_eq_ok ha)
  obtain ⟨hb64, hxChar, -⟩ := base64Char_of_base64Value hx
  rw [paddedValue] at hc hd
  by_cases hz : z = padByte
  · rw [if_pos hz] at hd
    have hlast : last = true := by
      by_contra hne
      rw [if_neg hne] at hd
      cases hd
    subst hlast
    by_cases hy : y = padByte
    · -- one byte
      rw [if_neg (not_not_intro hy), if_neg (not_not_intro hz)] at hgroup
      cases hgroup
      refine .one _ ?_
      have hindex : ((a <<< 2 ||| b >>> 4) &&& 0x03) <<< 4 ||| (0 : UInt8) >>> 4 < 64 :=
        (indices_lt (a <<< 2 ||| b >>> 4) 0 0).2.1
      rw [unusedBits, if_pos hy, hx, Option.getD_some, ← split_tail_one (a := a) hb64,
        ← base64Char_inj hindex hb64, hxChar, encodeGroup, split_first ha64 hb64, hw, hy, hz]
      simp
    · -- two bytes
      rw [if_neg hy] at hc
      have hyValue := elim_eq_ok hc
      obtain ⟨hc64, hyChar, -⟩ := base64Char_of_base64Value hyValue
      rw [if_pos hy, if_neg (not_not_intro hz)] at hgroup
      cases hgroup
      refine .two _ _ ?_
      have hindex : ((b <<< 4 ||| c >>> 2) &&& 0x0f) <<< 2 ||| (0 : UInt8) >>> 6 < 64 :=
        (indices_lt 0 (b <<< 4 ||| c >>> 2) 0).2.2.1
      rw [unusedBits, if_neg hy, if_pos hz, hyValue, Option.getD_some,
        ← split_tail_two (b := b) hc64, ← base64Char_inj hindex hc64, hyChar, encodeGroup,
        Option.getD_some, split_first ha64 hb64, split_second hb64 hc64, hw, hxChar, hz]
      simp
  · rw [if_neg hz] at hd
    obtain ⟨hd64, hzChar, -⟩ := base64Char_of_base64Value (elim_eq_ok hd)
    by_cases hy : y = padByte
    · rw [if_pos hy, if_neg (by simp [hz])] at hc
      cases hc
    · -- three bytes
      rw [if_neg hy] at hc
      obtain ⟨hc64, hyChar, -⟩ := base64Char_of_base64Value (elim_eq_ok hc)
      rw [if_pos hy, if_pos hz] at hgroup
      cases hgroup
      refine .three _ _ _ hy hz ?_
      rw [encodeGroup, Option.getD_some, Option.getD_some, split_first ha64 hb64,
        split_second hb64 hc64, split_third hc64 hd64, split_fourth hd64, hw, hxChar, hyChar,
        hzChar]
      rfl

end Group

/-! ## A text that is accepted -/

theorem unusedBits_cons {w x y z : UInt8} {rest : List UInt8} (h : rest ≠ []) :
    unusedBits (w :: x :: y :: z :: rest) = unusedBits rest := by
  cases rest with
  | nil => exact absurd rfl h
  | cons first rest => rfl

/-- Bytes are encoded as the text they are decoded from if it has no unused bits. -/
theorem encodes_back_of_decodeGroups {maxBytes : ℕ} {output value bytes : List UInt8}
    (hfour : value.length % 4 = 0) (hle : output.length ≤ maxBytes)
    (h : decodeGroups maxBytes output value = .ok bytes) :
    bytes.length ≤ maxBytes ∧ ∃ tail, bytes = output ++ tail ∧
      (encodeBase64 tail = value ↔ unusedBits value = 0) := by
  rcases value with _ | ⟨w, _ | ⟨x, _ | ⟨y, _ | ⟨z, rest⟩⟩⟩⟩
  · cases h
    exact ⟨hle, [], (List.append_nil _).symm, by simp [encodeBase64, unusedBits]⟩
  · simp at hfour
  · simp at hfour
  · simp at hfour
  · rw [decodeGroups] at h
    obtain ⟨group, hgroup, h⟩ := bind_eq_ok.mp h
    dsimp only at h
    rw [seq_eq_ok, reject_eq_ok, not_lt] at h
    obtain ⟨hbound, hrest⟩ := h
    have hlength : rest.length % 4 = 0 := by
      simp only [List.length_cons] at hfour
      omega
    obtain ⟨hmax, tail, rfl, hiff⟩ := encodes_back_of_decodeGroups hlength hbound hrest
    refine ⟨hmax, group ++ tail, List.append_assoc _ _ _, ?_⟩
    have hdecoded := decodedGroup_of_decodeGroup hgroup
    by_cases hrestNil : rest = []
    · subst hrestNil
      obtain rfl : tail = [] := by
        rw [decodeGroups, Except.ok.injEq, eq_comm] at hrest
        · exact List.self_eq_append_right.mp hrest.symm
        · rintro _ _ _ _ _ ⟨⟩
      cases hdecoded with
      | three p q r hy hz hencoded =>
          refine iff_of_true ?_ ?_
          · rw [← hencoded]
            exact List.append_nil _
          · rw [unusedBits, if_neg hy, if_neg hz]
      | two p q hencoded => exact hencoded
      | one p hencoded => exact hencoded
    · generalize hlast : rest.isEmpty = last at hdecoded
      cases hdecoded with
      | three p q r hy hz hencoded =>
          have hsplit : encodeBase64 ([p, q, r] ++ tail) = [w, x, y, z] ++ encodeBase64 tail := by
            rw [← hencoded]
            rfl
          rw [hsplit, unusedBits_cons hrestNil, ← hiff]
          show [w, x, y, z] ++ encodeBase64 tail = [w, x, y, z] ++ rest ↔ _
          rw [List.append_cancel_left_eq]
      | two p q => exact absurd (List.isEmpty_iff.mp hlast) hrestNil
      | one p => exact absurd (List.isEmpty_iff.mp hlast) hrestNil

/-! ## A text that is too long -/

/-- A group that is decoded and passes the bound. -/
theorem decodeGroups_cons_of_lt {maxBytes : ℕ} {output group rest : List UInt8} {w x y z : UInt8}
    (hgroup : decodeGroup rest.isEmpty w x y z = .ok group)
    (hlong : maxBytes < output.length + group.length) :
    decodeGroups maxBytes output (w :: x :: y :: z :: rest) = .error .resourceLimit := by
  rw [decodeGroups, hgroup, ok_bind]
  dsimp only
  rw [reject, if_pos (by rw [List.length_append]; exact hlong)]
  rfl

theorem decodeGroups_encodeBase64_of_lt {maxBytes : ℕ} {output bytes : List UInt8}
    (hle : output.length ≤ maxBytes) (h : maxBytes < output.length + bytes.length) :
    decodeGroups maxBytes output (encodeBase64 bytes) = .error .resourceLimit := by
  induction bytes using encodeBase64.induct generalizing output with
  | case1 =>
      rw [List.length_nil] at h
      omega
  | case2 first => exact decodeGroups_cons_of_lt (decodeGroup_one first) h
  | case3 first second => exact decodeGroups_cons_of_lt (decodeGroup_two first second) h
  | case4 first second third rest ih =>
      have hthree := decodeGroup_three (encodeBase64 rest).isEmpty first second third
      simp only [List.length_cons] at h
      by_cases hlong : maxBytes < output.length + 3
      · exact decodeGroups_cons_of_lt hthree hlong
      · have hlength : (output ++ [first, second, third]).length = output.length + 3 :=
          List.length_append
        refine (decodeGroups_cons hthree (not_lt.mp hlong)).trans (ih ?_ ?_)
        · omega
        · omega

theorem decodeBase64Bounded_encodeBase64_of_lt {maxBytes : ℕ} {bytes : List UInt8}
    (h : maxBytes < bytes.length) :
    decodeBase64Bounded (encodeBase64 bytes) maxBytes = .error .resourceLimit := by
  by_cases hlong : maxBytes + 2 < (encodeBase64 bytes).length / 4 * 3
  · rw [decodeBase64Bounded, reject, if_pos (Or.inr hlong)]
    rfl
  · have hfour : (encodeBase64 bytes).length % 4 = 0 := by
      rw [length_encodeBase64, Nat.mul_mod_left]
    have hpasses : ¬ ((encodeBase64 bytes).length % 4 ≠ 0 ∨
        maxBytes + 2 < (encodeBase64 bytes).length / 4 * 3) := by
      rw [hfour]
      exact fun hor => hor.elim (absurd rfl) hlong
    rw [decodeBase64Bounded, reject, if_neg hpasses, ok_bind]
    exact decodeGroups_encodeBase64_of_lt (Nat.zero_le _) (by simpa using h)

/-! ## The codec -/

/-- **Bytes that fit the bound survive the codec, and a text that is accepted is the one its
bytes are encoded as exactly if its unused bits are zero.** -/
theorem encodes_back_iff_unusedBits (maxBytes : ℕ) :
    (∀ bytes : List UInt8, decodeBase64Bounded (encodeBase64 bytes) maxBytes =
      if bytes.length ≤ maxBytes then .ok bytes else .error .resourceLimit) ∧
    ∀ value bytes : List UInt8, decodeBase64Bounded value maxBytes = .ok bytes →
      bytes.length ≤ maxBytes ∧ (encodeBase64 bytes = value ↔ unusedBits value = 0) := by
  refine ⟨fun bytes => ?_, fun value bytes h => ?_⟩
  · by_cases hle : bytes.length ≤ maxBytes
    · rw [if_pos hle, decodeBase64Bounded_encodeBase64 hle]
    · rw [if_neg hle, decodeBase64Bounded_encodeBase64_of_lt (not_le.mp hle)]
  · rw [decodeBase64Bounded, seq_eq_ok, reject_eq_ok, not_or, Decidable.not_not] at h
    obtain ⟨hmax, tail, rfl, hiff⟩ := encodes_back_of_decodeGroups h.1.1 (Nat.zero_le _) h.2
    exact ⟨hmax, hiff⟩

/-- `AA==` is accepted, and it is what its byte is encoded as. -/
theorem encodes_back_zero_byte : encodeBase64 [0] = [65, 65, 61, 61] :=
  (((encodes_back_iff_unusedBits 1).2 [65, 65, 61, 61] [0] (by decide)).2).mpr (by decide)

/-- `AB==` is accepted for the byte of `AA==`. -/
theorem noncanonical_text_accepted :
    decodeBase64Bounded [65, 66, 61, 61] 16 = .ok [0] ∧ encodeBase64 [0] ≠ [65, 66, 61, 61] := by
  decide

end Saf
end MyVault
