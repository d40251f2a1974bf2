import MyVault.Core.Json

/-!
# Reading JSON string literals

A string literal as RFC 8259 has it: a backslash begins one of the eight short escapes or
the four digits of a UTF-16 code unit, where a high surrogate must be followed by a low
one, a character below U+0020 must be escaped, and a quotation mark ends the literal.

What is printed is read again (`readString_string`).
-/

namespace MyVault
namespace Json

/-- The value of a hexadecimal digit in either case. -/
def digitValue (c : Char) : Option ℕ := hexValue c.toLower

/-- Four hexadecimal digits, and what follows them. -/
def readHex4 : Text → Option (ℕ × Text)
  | a :: b :: c :: d :: rest => do
    let a ← digitValue a
    let b ← digitValue b
    let c ← digitValue c
    let d ← digitValue d
    some (((a * 16 + b) * 16 + c) * 16 + d, rest)
  | _ => none

/-- The low surrogate after a high one. -/
def readLowSurrogate (high : ℕ) : Text → Option (Char × Text)
  | '\\' :: 'u' :: rest => do
    let (low, rest) ← readHex4 rest
    if 0xDC00 ≤ low ∧ low < 0xE000 then
      some (Char.ofNat (0x10000 + (high - 0xD800) * 0x400 + (low - 0xDC00)), rest)
    else none
  | _ => none

/-- The character behind a backslash, and what follows it. -/
def readEscape : Text → Option (Char × Text)
  | '"' :: rest => some ('"', rest)
  | '\\' :: rest => some ('\\', rest)
  | '/' :: rest => some ('/', rest)
  | 'b' :: rest => some (Char.ofNat 0x08, rest)
  | 'f' :: rest => some (Char.ofNat 0x0c, rest)
  | 'n' :: rest => some ('\n', rest)
  | 'r' :: rest => some ('\r', rest)
  | 't' :: rest => some ('\t', rest)
  | 'u' :: rest => do
    let (unit, rest) ← readHex4 rest
    if 0xD800 ≤ unit ∧ unit < 0xDC00 then readLowSurrogate unit rest
    else if 0xDC00 ≤ unit ∧ unit < 0xE000 then none
    else some (Char.ofNat unit, rest)
  | _ => none

/-- The characters up to the quotation mark, and what follows it. -/
def readCharacters : ℕ → Text → Option (Text × Text)
  | 0, _ => none
  | _ + 1, [] => none
  | fuel + 1, c :: rest =>
    if c = '"' then some ([], rest)
    else if c = '\\' then do
      let (c, rest) ← readEscape rest
      let (t, rest) ← readCharacters fuel rest
      some (c :: t, rest)
    else if c.toNat < 0x20 then none
    else do
      let (t, rest) ← readCharacters fuel rest
      some (c :: t, rest)

/-- A string literal, and what follows it. -/
def readString : Text → Option (Text × Text)
  | '"' :: rest => readCharacters (rest.length + 1) rest
  | _ => none

/-! ## What is printed is read -/

theorem digitValue_hexDigit {n : ℕ} (h : n < 16) : digitValue (hexDigit n) = some n := by
  have key : ∀ i : Fin 16, digitValue (hexDigit i.val) = some i.val := by decide
  exact key ⟨n, h⟩

theorem readHex4_hexDigits {n : ℕ} (h : n < 256) (rest : Text) :
    readHex4 ('0' :: '0' :: hexDigit (n / 16) :: hexDigit (n % 16) :: rest) = some (n, rest) := by
  have hzero : digitValue '0' = some 0 := by decide
  have hn : ((0 * 16 + 0) * 16 + n / 16) * 16 + n % 16 = n := by omega
  simp only [readHex4, hzero, digitValue_hexDigit (show n / 16 < 16 by omega),
    digitValue_hexDigit (show n % 16 < 16 by omega), Option.bind_eq_bind, Option.bind_some, hn]

/-- A character that is printed as it is. -/
theorem readCharacters_plain {c : Char} {fuel : ℕ} {rest : Text} (hquote : c ≠ '"')
    (hbackslash : c ≠ '\\') (hcontrol : ¬ c.toNat < 0x20) :
    readCharacters (fuel + 1) (c :: rest) =
      (readCharacters fuel rest).map fun (t, rest) => (c :: t, rest) := by
  rw [readCharacters, if_neg hquote, if_neg hbackslash, if_neg hcontrol]
  cases readCharacters fuel rest <;> rfl

/-- A character that is printed behind a backslash. -/
theorem readCharacters_escaped {c : Char} {fuel : ℕ} (escaped : Text) {rest : Text}
    (h : readEscape (escaped ++ rest) = some (c, rest)) :
    readCharacters (fuel + 1) ('\\' :: escaped ++ rest) =
      (readCharacters fuel rest).map fun (t, rest) => (c :: t, rest) := by
  rw [List.cons_append, readCharacters, if_neg (by decide), if_pos rfl, h]
  cases hrest : readCharacters fuel rest <;> simp [hrest]

theorem readCharacters_escapeChar (c : Char) (fuel : ℕ) (rest : Text) :
    readCharacters (fuel + 1) (escapeChar c ++ rest) =
      (readCharacters fuel rest).map fun (t, rest) => (c :: t, rest) := by
  have hself : Char.ofNat c.toNat = c := Char.ofNat_toNat c
  unfold escapeChar
  split
  case h_8 code hquote hbackslash _ _ _ _ _ =>
    by_cases hcontrol : c.toNat < 0x20
    · rw [if_pos hcontrol]
      refine readCharacters_escaped ['u', '0', '0', _, _] ?_
      have hread := readHex4_hexDigits (n := c.toNat) (by omega) rest
      simp only [List.cons_append, List.nil_append, readEscape, hread]
      simp [hself, show ¬ 0xD800 ≤ c.toNat by omega, show ¬ 0xDC00 ≤ c.toNat by omega]
    · rw [if_neg hcontrol]
      refine readCharacters_plain ?_ ?_ hcontrol
      · rintro rfl
        exact hquote rfl
      · rintro rfl
        exact hbackslash rfl
  all_goals
    rename_i hcode
    rw [← hself, hcode]
    exact readCharacters_escaped [_] rfl

theorem readCharacters_escape {t : Text} {fuel : ℕ} (h : t.length < fuel) (rest : Text) :
    readCharacters fuel (escape t ++ '"' :: rest) = some (t, rest) := by
  induction t generalizing fuel with
  | nil =>
      obtain ⟨fuel, rfl⟩ := Nat.exists_eq_add_of_lt h
      rfl
  | cons c t ih =>
      rw [List.length_cons] at h
      obtain ⟨fuel, rfl⟩ : ∃ more, fuel = more + 1 := ⟨fuel - 1, by omega⟩
      rw [escape, List.flatMap_cons, List.append_assoc, readCharacters_escapeChar, ← escape,
        ih (by omega)]
      rfl

theorem length_le_length_escape (t : Text) : t.length ≤ (escape t).length := by
  induction t with
  | nil => exact Nat.le_refl 0
  | cons c t ih =>
      have hchar : 1 ≤ (escapeChar c).length := by
        unfold escapeChar
        split
        case h_8 => split <;> simp
        all_goals simp
      rw [escape, List.flatMap_cons, List.length_append, ← escape, List.length_cons]
      omega

/-- A literal that was printed is read as the text it was printed from. -/
theorem readString_string (t rest : Text) : readString (string t ++ rest) = some (t, rest) := by
  have hle := length_le_length_escape t
  rw [string, List.cons_append, List.append_assoc, List.singleton_append, readString]
  apply readCharacters_escape
  rw [List.length_append, List.length_cons]
  omega

end Json
end MyVault
