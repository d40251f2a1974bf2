import MyVault.Core.Digest
import MyVault.Library.SelfDelimiting

/-!
# Identifiers

The shapes of the identifiers the engine stores, the big-endian length prefix of
its byte streams, and UUIDs in their hyphenated form.
-/

namespace MyVault

/-- `byte.is_ascii_alphanumeric() || matches!(byte, b'-' | b'_' | b'.')`. -/
def isIdChar (c : Char) : Bool := c.isAlphanum || c == '-' || c == '_' || c == '.'

/-- `is_remote_id`: one to 512 bytes, all of them letters, digits, `-`, `_` or `.`. -/
def isRemoteId (value : String) : Bool :=
  decide (1 ≤ strLen value ∧ strLen value ≤ 512) && value.toList.all isIdChar

/-- `byte.is_ascii_digit() || (b'a'..=b'f').contains(&byte)`. -/
def isLowerHexChar (c : Char) : Bool := c.isDigit || decide ('a' ≤ c ∧ c ≤ 'f')

/-- `is_lower_hex_64`: the form of a SHA-256 digest. -/
def isLowerHex64 (value : String) : Bool :=
  decide (strLen value = 64) && value.toList.all isLowerHexChar

/-- `i64::try_from(value).is_ok()` of a `u64`. -/
def fitsI64 (value : ℕ) : Bool := decide (value < 2 ^ 63)

theorem utf8Size_of_isLowerHexChar {c : Char} (h : isLowerHexChar c = true) : c.utf8Size = 1 := by
  rw [Char.utf8Size_eq_one_iff, UInt32.le_iff_toNat_le]
  rw [isLowerHexChar, Bool.or_eq_true, decide_eq_true_eq, Char.isDigit, Bool.and_eq_true,
    decide_eq_true_eq, decide_eq_true_eq] at h
  simp only [ge_iff_le, Char.le_def, UInt32.le_iff_toNat_le] at h
  have h9 : '9'.val.toNat = 57 := rfl
  have hf : 'f'.val.toNat = 102 := rfl
  rw [show (127 : UInt32).toNat = 127 from rfl]
  rcases h with ⟨-, h⟩ | ⟨-, h⟩
  · change c.val.toNat ≤ 57 at h
    omega
  · omega

/-- Hexadecimal digits take one byte each. -/
theorem utf8Len_of_isLowerHexChar {t : Text} (h : ∀ c ∈ t, isLowerHexChar c = true) :
    utf8Len t = t.length := by
  have hone : t.map Char.utf8Size = t.map fun _ => 1 :=
    List.map_congr_left fun c hc => utf8Size_of_isLowerHexChar (h c hc)
  rw [utf8Len, hone]
  simp

/-! ### ASCII characters -/

theorem isUpper_iff {c : Char} : c.isUpper = true ↔ 65 ≤ c.toNat ∧ c.toNat ≤ 90 :=
  decide_eq_true_iff

theorem isLower_iff {c : Char} : c.isLower = true ↔ 97 ≤ c.toNat ∧ c.toNat ≤ 122 := by
  show (decide (97 ≤ c.toNat) && decide (c.toNat ≤ 122)) = true ↔ _
  rw [Bool.and_eq_true, decide_eq_true_eq, decide_eq_true_eq]

theorem isDigit_iff {c : Char} : c.isDigit = true ↔ 48 ≤ c.toNat ∧ c.toNat ≤ 57 := by
  show (decide (48 ≤ c.toNat) && decide (c.toNat ≤ 57)) = true ↔ _
  rw [Bool.and_eq_true, decide_eq_true_eq, decide_eq_true_eq]

theorem isAlphanum_iff {c : Char} :
    c.isAlphanum = true ↔ (c.isUpper = true ∨ c.isLower = true) ∨ c.isDigit = true := by
  show (c.isUpper || c.isLower || c.isDigit) = true ↔ _
  rw [Bool.or_eq_true, Bool.or_eq_true]

theorem isLower_of_hex {c : Char} (ha : 'a' ≤ c) (hf : c ≤ 'f') : c.isLower = true := by
  have ha : 97 ≤ c.toNat := ha
  have hf : c.toNat ≤ 102 := hf
  exact isLower_iff.mpr ⟨ha, by omega⟩

/-- A character of an identifier is ASCII. -/
theorem toNat_of_isIdChar {c : Char} (h : isIdChar c = true) : 45 ≤ c.toNat ∧ c.toNat ≤ 122 := by
  rw [isIdChar, Bool.or_eq_true, Bool.or_eq_true, Bool.or_eq_true, isAlphanum_iff, isUpper_iff,
    isLower_iff, isDigit_iff, beq_iff_eq, beq_iff_eq, beq_iff_eq] at h
  rcases h with ((((h | h) | h) | rfl) | rfl) | rfl
  · omega
  · omega
  · omega
  · decide
  · decide
  · decide

theorem isIdChar_of_isLowerHexChar {c : Char} (h : isLowerHexChar c = true) :
    isIdChar c = true := by
  rw [isLowerHexChar, Bool.or_eq_true, decide_eq_true_eq] at h
  rcases h with hdigit | ⟨ha, hf⟩
  · simp [isIdChar, isAlphanum_iff, hdigit]
  · have hlower : c.isLower = true := isLower_of_hex ha hf
    simp [isIdChar, isAlphanum_iff, hlower]

/-- A digest may stand where an identifier is asked for. -/
theorem isRemoteId_of_isLowerHex64 {value : String} (h : isLowerHex64 value = true) :
    isRemoteId value = true := by
  rw [isLowerHex64, Bool.and_eq_true, decide_eq_true_eq, List.all_eq_true] at h
  rw [isRemoteId, Bool.and_eq_true, decide_eq_true_eq, List.all_eq_true]
  exact ⟨by omega, fun c hc => isIdChar_of_isLowerHexChar (h.2 c hc)⟩

/-! ## Lengths in front -/

/-- The last `k` base-256 digits of a number, the highest first. -/
def natBe : ℕ → ℕ → List UInt8
  | 0, _ => []
  | k + 1, n => UInt8.ofNat (n / 256 ^ k % 256) :: natBe k n

/-- `u64::to_be_bytes`. -/
def u64Be (n : ℕ) : List UInt8 := natBe 8 n

@[simp] theorem length_natBe (k n : ℕ) : (natBe k n).length = k := by
  induction k with
  | zero => rfl
  | succ k ih => rw [natBe, List.length_cons, ih]

theorem natBe_inj {k m n : ℕ} (h : natBe k m = natBe k n) : m % 256 ^ k = n % 256 ^ k := by
  induction k with
  | zero => rw [Nat.pow_zero, Nat.mod_one, Nat.mod_one]
  | succ k ih =>
      rw [natBe, natBe, List.cons.injEq] at h
      have hdigit := congrArg UInt8.toNat h.1
      simp only [UInt8.toNat_ofNat', Nat.reducePow, Nat.mod_mod] at hdigit
      rw [Nat.mod_pow_succ, Nat.mod_pow_succ, ih h.2, hdigit]

theorem u64Be_injOn : Set.InjOn u64Be {n | n < wordLimit} := by
  intro m hm n hn h
  have hmod := natBe_inj h
  have hword : (256 : ℕ) ^ 8 = wordLimit := by decide
  rwa [hword, Nat.mod_eq_of_lt hm, Nat.mod_eq_of_lt hn] at hmod

/-- A `u64` length in front delimits it by itself. -/
theorem selfDelimiting_u64Be : SelfDelimiting {n | n < wordLimit} u64Be :=
  SelfDelimiting.of_length_eq 8 (fun n _ => length_natBe 8 n) u64Be_injOn

/-! ## UUIDs -/

/-- The sixteen bytes of a UUID. -/
abbrev Uuid := List.Vector UInt8 16

/-- `Uuid::nil()`. -/
def Uuid.nil : Uuid := List.Vector.replicate 16 0

/-- `Uuid::is_nil`. -/
def Uuid.isNil (id : Uuid) : Bool := id.toList.all (· == 0)

/-- Two digits a byte, a hyphen after bytes 4, 6, 8 and 10. -/
def hyphenated (bytes : List UInt8) : Text :=
  hexBytes (bytes.take 4) ++ '-' :: (hexBytes ((bytes.drop 4).take 2) ++
    '-' :: (hexBytes ((bytes.drop 6).take 2) ++ '-' :: (hexBytes ((bytes.drop 8).take 2) ++
      '-' :: hexBytes (bytes.drop 10))))

/-- `Uuid::to_string`: the hyphenated form in lower case. -/
def Uuid.toHyphenated (id : Uuid) : String := String.ofList (hyphenated id.toList)

theorem length_hexBytes (xs : List UInt8) : (hexBytes xs).length = 2 * xs.length := by
  induction xs with
  | nil => rfl
  | cons x xs ih =>
      rw [hexBytes, List.flatMap_cons, List.length_append, ← hexBytes, ih, hexByte,
        List.length_cons]
      simp only [List.length_cons, List.length_nil]
      omega

theorem Uuid.length_hyphenated (id : Uuid) : (hyphenated id.toList).length = 36 := by
  simp only [hyphenated, List.length_append, List.length_cons, length_hexBytes, List.length_take,
    List.length_drop, List.Vector.toList_length]
  rfl

theorem isLowerHexChar_hexDigit (n : ℕ) : isLowerHexChar (hexDigit n) = true := by
  unfold hexDigit
  split <;> decide

/-- The digest of anything has the form of a digest. -/
theorem isLowerHex64_hexSha256 (sha256 : Sha256) (bytes : List UInt8) :
    isLowerHex64 (hexSha256 sha256 bytes) = true := by
  have hall : ∀ c ∈ hexBytes (sha256 bytes).toList, isLowerHexChar c = true := by
    intro c hc
    obtain ⟨b, -, hc⟩ := List.mem_flatMap.mp hc
    rw [hexByte, List.mem_cons, List.mem_singleton] at hc
    rcases hc with rfl | rfl <;> exact isLowerHexChar_hexDigit _
  rw [isLowerHex64, hexSha256, Bool.and_eq_true, decide_eq_true_eq, String.toList_ofList,
    List.all_eq_true, strLen, String.toList_ofList, utf8Len_of_isLowerHexChar hall,
    length_hexBytes, List.Vector.toList_length]
  exact ⟨rfl, hall⟩

theorem hyphenated_inj {xs ys : List UInt8} (hlen : xs.length = ys.length)
    (h : hyphenated xs = hyphenated ys) : xs = ys := by
  have hcut : ∀ k m : ℕ, (hexBytes ((xs.drop k).take m)).length =
      (hexBytes ((ys.drop k).take m)).length := by
    intro k m
    simp only [length_hexBytes, List.length_take, List.length_drop, hlen]
  obtain ⟨h₀, h⟩ := List.append_inj h (hcut 0 4)
  obtain ⟨h₁, h⟩ := List.append_inj (List.cons.inj h).2 (hcut 4 2)
  obtain ⟨h₂, h⟩ := List.append_inj (List.cons.inj h).2 (hcut 6 2)
  obtain ⟨h₃, h⟩ := List.append_inj (List.cons.inj h).2 (hcut 8 2)
  have h₄ := (List.cons.inj h).2
  have hsplit : ∀ zs : List UInt8, zs = zs.take 4 ++ ((zs.drop 4).take 2 ++
      ((zs.drop 6).take 2 ++ ((zs.drop 8).take 2 ++ zs.drop 10))) := by
    intro zs
    have e : ∀ k m, (zs.drop k).take m ++ zs.drop (k + m) = zs.drop k := fun k m => by
      rw [← List.drop_drop, List.take_append_drop]
    rw [e 8 2, e 6 2, e 4 2, List.take_append_drop]
  rw [hsplit xs, hsplit ys, hexBytes_inj h₀, hexBytes_inj h₁, hexBytes_inj h₂, hexBytes_inj h₃,
    hexBytes_inj h₄]

/-- Different UUIDs are printed differently. -/
theorem Uuid.toHyphenated_injective : Function.Injective Uuid.toHyphenated := by
  intro a b h
  refine List.Vector.toList_injective (hyphenated_inj ?_ (String.ofList_injective h))
  rw [List.Vector.toList_length, List.Vector.toList_length]

/-! ## Reading a UUID -/

/-- The value of a lower-case hexadecimal digit. -/
def hexValue (c : Char) : Option ℕ :=
  if c.isDigit then some (c.toNat - '0'.toNat)
  else if 'a' ≤ c ∧ c ≤ 'f' then some (c.toNat - 'a'.toNat + 10) else none

/-- The bytes of a text of digit pairs. -/
def unhexBytes : Text → Option (List UInt8)
  | [] => some []
  | [_] => none
  | high :: low :: rest => do
    let h ← hexValue high
    let l ← hexValue low
    let bytes ← unhexBytes rest
    some (UInt8.ofNat (16 * h + l) :: bytes)

/-- `Uuid::parse_str(text)` where `to_string` of the result has to be the text again. -/
def Uuid.parseCanonical (text : Text) : Option Uuid :=
  match unhexBytes (text.filter (· ≠ '-')) with
  | none => none
  | some bytes =>
      if h : bytes.length = 16 then
        let id : Uuid := ⟨bytes, h⟩
        if id.toHyphenated.toList = text then some id else none
      else none

theorem hexValue_hexDigit {n : ℕ} (h : n < 16) : hexValue (hexDigit n) = some n := by
  have key : ∀ i : Fin 16, hexValue (hexDigit i.val) = some i.val := by decide
  exact key ⟨n, h⟩

theorem unhexBytes_hexBytes (bytes : List UInt8) : unhexBytes (hexBytes bytes) = some bytes := by
  induction bytes with
  | nil => rfl
  | cons b bytes ih =>
      have hb := b.toNat_lt
      have hhigh := hexValue_hexDigit (n := b.toNat / 16) (by omega)
      have hlow := hexValue_hexDigit (n := b.toNat % 16) (by omega)
      have hvalue : UInt8.ofNat (16 * (b.toNat / 16) + b.toNat % 16) = b := by
        rw [Nat.div_add_mod, UInt8.ofNat_toNat]
      rw [hexBytes, List.flatMap_cons, hexByte, ← hexBytes, List.cons_append, List.cons_append,
        List.nil_append, unhexBytes, hhigh, hlow, ih]
      simp only [Option.bind_eq_bind, Option.bind_some, hvalue]

theorem filter_hexBytes (bytes : List UInt8) :
    (hexBytes bytes).filter (· ≠ '-') = hexBytes bytes := by
  have key : ∀ i : Fin 16, hexDigit i.val ≠ '-' := by decide
  refine List.filter_eq_self.mpr fun c hc => decide_eq_true ?_
  obtain ⟨b, -, hc⟩ := List.mem_flatMap.mp hc
  have hb := b.toNat_lt
  rw [hexByte, List.mem_cons, List.mem_singleton] at hc
  rcases hc with rfl | rfl
  · exact key ⟨b.toNat / 16, by omega⟩
  · exact key ⟨b.toNat % 16, by omega⟩

theorem filter_hyphenated (bytes : List UInt8) :
    (hyphenated bytes).filter (· ≠ '-') = hexBytes bytes := by
  have hdash : ∀ t : Text, ('-' :: t).filter (· ≠ '-') = t.filter (· ≠ '-') := fun t => by simp
  have e : ∀ k m, (bytes.drop k).take m ++ bytes.drop (k + m) = bytes.drop k := fun k m => by
    rw [← List.drop_drop, List.take_append_drop]
  simp only [hyphenated, List.filter_append, hdash, filter_hexBytes]
  simp only [hexBytes, ← List.flatMap_append]
  rw [e 8 2, e 6 2, e 4 2, List.take_append_drop]

theorem Uuid.parseCanonical_eq_some_iff {text : Text} {id : Uuid} :
    Uuid.parseCanonical text = some id ↔ text = id.toHyphenated.toList := by
  constructor
  · intro h
    unfold Uuid.parseCanonical at h
    split at h
    · exact nomatch h
    · split at h
      · dsimp only at h
        split at h
        · rename_i htext
          rw [← htext, Option.some.inj h]
        · exact nomatch h
      · exact nomatch h
  · rintro rfl
    have hbytes : unhexBytes (id.toHyphenated.toList.filter (· ≠ '-')) = some id.toList := by
      rw [Uuid.toHyphenated, String.toList_ofList, filter_hyphenated, unhexBytes_hexBytes]
    unfold Uuid.parseCanonical
    rw [hbytes]
    dsimp only
    rw [dif_pos id.toList_length]
    exact if_pos rfl

end MyVault
