import MyVault.Core.Text

/-!
# Reading UTF-8

`str::from_utf8`: the text whose bytes are given, if there is one.  Bytes that end in a line
feed are a text of their own, whatever follows them: the byte occurs in no other character.
-/

namespace MyVault

/-- `str::from_utf8`. -/
def fromUtf8 (bytes : List UInt8) : Option Text :=
  bytes.toByteArray.utf8Decode?.map Array.toList

variable {t : Text} {front rest bytes : List UInt8}

theorem fromUtf8_utf8Bytes (t : Text) : fromUtf8 (utf8Bytes t) = some t := by
  show (t.utf8Encode.utf8Decode?).map Array.toList = some t
  rw [List.utf8Decode?_utf8Encode, Option.map_some]

theorem fromUtf8_eq_some : fromUtf8 bytes = some t ↔ utf8Bytes t = bytes := by
  constructor
  · intro h
    obtain ⟨chars, hchars, rfl⟩ := Option.map_eq_some_iff.mp h
    have hsome : bytes.toByteArray.utf8Decode?.isSome = true := by rw [hchars]; rfl
    have hencode : (bytes.toByteArray.utf8Decode?.get hsome).toList.utf8Encode =
        bytes.toByteArray := ByteArray.utf8Encode_get_utf8Decode?
    have hget : bytes.toByteArray.utf8Decode?.get hsome = chars := Option.get_of_eq_some _ hchars
    rw [hget] at hencode
    exact List.toByteArray_inj.mp hencode
  · rintro rfl
    exact fromUtf8_utf8Bytes t

theorem utf8Bytes_append (s t : Text) : utf8Bytes (s ++ t) = utf8Bytes s ++ utf8Bytes t := by
  rw [utf8Bytes, List.flatMap_append, utf8Bytes, utf8Bytes]

/-- A line feed is no part of another character: the bytes of longer encodings are above it. -/
theorem eq_of_lineFeed_mem {c : Char} (h : 10 ∈ String.utf8EncodeChar c) : c = '\n' := by
  have hlarge : ∀ n, 0x80 ≤ n → n < 0x100 → (10 : UInt8) ≠ UInt8.ofNat n := by
    intro n hlow hhigh heq
    have hnat := congrArg UInt8.toNat heq
    rw [UInt8.toNat_ofNat_of_lt' (by omega)] at hnat
    have hten : (10 : UInt8).toNat = 10 := rfl
    omega
  rw [String.utf8EncodeChar] at h
  split at h
  · rename_i hascii
    have hnat := congrArg UInt8.toNat (List.mem_singleton.mp h)
    rw [UInt8.toNat_ofNat_of_lt' (Nat.lt_of_le_of_lt hascii (by decide))] at hnat
    exact Char.ext (UInt32.toNat_inj.mp hnat.symm)
  · exfalso
    split at h
    · simp only [List.mem_cons, List.not_mem_nil, or_false] at h
      rcases h with h | h <;> exact hlarge _ (by omega) (by omega) h
    · split at h
      · simp only [List.mem_cons, List.not_mem_nil, or_false] at h
        rcases h with h | h | h <;> exact hlarge _ (by omega) (by omega) h
      · simp only [List.mem_cons, List.not_mem_nil, or_false] at h
        rcases h with h | h | h | h <;> exact hlarge _ (by omega) (by omega) h

/-- What stands in front of a line feed is a text, and what stands behind it. -/
theorem exists_lines {t : Text} (h : utf8Bytes t = front ++ 10 :: rest) :
    ∃ s r, t = s ++ '\n' :: r ∧ utf8Bytes s = front ∧ utf8Bytes r = rest := by
  induction t generalizing front with
  | nil => exact absurd h (by simp [utf8Bytes])
  | cons c t ih =>
      have hcons : String.utf8EncodeChar c ++ utf8Bytes t = front ++ 10 :: rest := h
      rcases List.append_eq_append_iff.mp hcons with ⟨more, rfl, ht⟩ | ⟨more, hc, hrest⟩
      · obtain ⟨s, r, rfl, rfl, rfl⟩ := ih ht
        exact ⟨c :: s, r, rfl, rfl, rfl⟩
      · cases more with
        | nil =>
            -- the first character ends where the line feed begins
            obtain ⟨s, r, rfl, hs, rfl⟩ := @ih [] hrest.symm
            refine ⟨c :: s, r, rfl, ?_, rfl⟩
            show String.utf8EncodeChar c ++ utf8Bytes s = front
            rw [hs, List.append_nil, hc, List.append_nil]
        | cons first more =>
            obtain ⟨rfl, hmore⟩ := List.cons.inj hrest
            obtain rfl : c = '\n' :=
              eq_of_lineFeed_mem (hc ▸ List.mem_append_right _ List.mem_cons_self)
            have hone : String.utf8EncodeChar '\n' = [10] := by decide
            rw [hone] at hc
            have hlength := congrArg List.length hc
            simp only [List.length_append, List.length_cons, List.length_nil] at hlength
            obtain rfl : front = [] := List.eq_nil_of_length_eq_zero (by omega)
            obtain rfl : more = [] := List.eq_nil_of_length_eq_zero (by omega)
            exact ⟨[], t, rfl, rfl, hmore.symm⟩

/-- Bytes behind a line feed are read by themselves. -/
theorem fromUtf8_line_append : fromUtf8 (front ++ 10 :: rest) =
    (fromUtf8 (front ++ [10])).bind fun head => (fromUtf8 rest).map (head ++ ·) := by
  ext t
  rw [fromUtf8_eq_some, Option.bind_eq_some_iff]
  simp only [Option.map_eq_some_iff, fromUtf8_eq_some]
  constructor
  · intro h
    obtain ⟨s, r, rfl, hs, hr⟩ := exists_lines h
    refine ⟨s ++ ['\n'], ?_, r, hr, by simp⟩
    rw [utf8Bytes_append, hs]
    rfl
  · rintro ⟨head, hhead, r, rfl, rfl⟩
    rw [utf8Bytes_append, hhead, List.append_assoc, List.singleton_append]

end MyVault
