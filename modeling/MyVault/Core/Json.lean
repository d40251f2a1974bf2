import MyVault.Core.Identifiers

/-!
# JSON texts

What `serde_json::to_vec` prints: no blanks, the members of a structure in the order
of its fields, and string literals in which only the quotation mark, the backslash and
the characters below U+0020 are escaped.

A text is put together from the texts of its parts, so the number of its bytes is a
sum over them.  A nonempty object costs two bytes for each member, one for itself, and
what the names and the values cost: the colon of a member, and the comma or the brace
that ends it (`utf8Len_object`).  In the same way an array costs one byte for each
element and one for itself.
-/

namespace MyVault
namespace Json

/-- One character of a string literal. -/
def escapeChar (c : Char) : Text :=
  match c.toNat with
  | 0x22 => ['\\', '"']
  | 0x5c => ['\\', '\\']
  | 0x08 => ['\\', 'b']
  | 0x09 => ['\\', 't']
  | 0x0a => ['\\', 'n']
  | 0x0c => ['\\', 'f']
  | 0x0d => ['\\', 'r']
  | code => if code < 0x20 then ['\\', 'u', '0', '0', hexDigit (code / 16), hexDigit (code % 16)]
    else [c]

/-- The inside of a string literal. -/
def escape (t : Text) : Text := t.flatMap escapeChar

/-- A string. -/
def string (t : Text) : Text := '"' :: (escape t ++ ['"'])

/-- An unsigned integer. -/
def number (n : ℕ) : Text := Nat.toDigits 10 n

/-- The parts with commas between them. -/
def commaSeparated : List Text → Text
  | [] => []
  | [t] => t
  | t :: u :: rest => t ++ ',' :: commaSeparated (u :: rest)

/-- A sequence. -/
def array (elements : List Text) : Text := '[' :: (commaSeparated elements ++ [']'])

/-- A member of a structure. -/
def member (m : String × Text) : Text := string m.1.toList ++ ':' :: m.2

/-- A structure with named fields. -/
def object (members : List (String × Text)) : Text :=
  '\x7b' :: (commaSeparated (members.map member) ++ ['\x7d'])

/-! ## Lengths -/

theorem utf8Len_cons (c : Char) (t : Text) : utf8Len (c :: t) = c.utf8Size + utf8Len t := by
  rw [utf8Len, List.map_cons, List.sum_cons, utf8Len]

theorem utf8Len_commaSeparated {parts : List Text} (h : parts ≠ []) :
    utf8Len (commaSeparated parts) + 1 = (parts.map fun t => utf8Len t + 1).sum := by
  induction parts with
  | nil => exact absurd rfl h
  | cons t rest ih =>
      cases rest with
      | nil => rw [commaSeparated, List.map_singleton, List.sum_singleton]
      | cons u rest =>
          have hcomma : ','.utf8Size = 1 := by decide
          have hrest := ih (by simp)
          rw [commaSeparated, utf8Len_append, utf8Len_cons, hcomma, List.map_cons, List.sum_cons,
            ← hrest]
          omega

theorem utf8Len_string (t : Text) : utf8Len (string t) = utf8Len (escape t) + 2 := by
  have hquote : '"'.utf8Size = 1 := by decide
  rw [string, utf8Len_cons, utf8Len_append, utf8Len_cons, hquote, utf8Len_nil]
  omega

theorem utf8Len_member (m : String × Text) :
    utf8Len (member m) = utf8Len (string m.1.toList) + 1 + utf8Len m.2 := by
  have hcolon : ':'.utf8Size = 1 := by decide
  rw [member, utf8Len_append, utf8Len_cons, hcolon]
  omega

theorem utf8Len_object {members : List (String × Text)} (h : members ≠ []) :
    utf8Len (object members) =
      1 + (members.map fun m => utf8Len (string m.1.toList) + utf8Len m.2 + 2).sum := by
  have hbraces : '\x7b'.utf8Size = 1 ∧ '\x7d'.utf8Size = 1 := by decide
  have hne : members.map member ≠ [] := by simpa using h
  have hparts := utf8Len_commaSeparated hne
  rw [List.map_map] at hparts
  have hsum : ((fun t => utf8Len t + 1) ∘ member) =
      fun m => utf8Len (string m.1.toList) + utf8Len m.2 + 2 := by
    funext m
    rw [Function.comp_apply, utf8Len_member]
    omega
  rw [hsum] at hparts
  rw [object, utf8Len_cons, utf8Len_append, utf8Len_cons, hbraces.1, hbraces.2, ← hparts,
    utf8Len_nil]

theorem utf8Len_array {elements : List Text} (h : elements ≠ []) :
    utf8Len (array elements) = 1 + (elements.map fun t => utf8Len t + 1).sum := by
  have hbrackets : '['.utf8Size = 1 ∧ ']'.utf8Size = 1 := by decide
  have hparts := utf8Len_commaSeparated h
  rw [array, utf8Len_cons, utf8Len_append, utf8Len_cons, hbrackets.1, hbrackets.2, ← hparts,
    utf8Len_nil]

/-- A text of characters that need no escape is its own literal. -/
theorem escape_of_plain {t : Text} (h : ∀ c ∈ t, escapeChar c = [c]) : escape t = t := by
  induction t with
  | nil => rfl
  | cons c t ih =>
      rw [List.forall_mem_cons] at h
      rw [escape, List.flatMap_cons, h.1, ← escape, ih h.2, List.singleton_append]

theorem utf8Len_number_le {n k : ℕ} (hk : 0 < k) (h : n < 10 ^ k) : utf8Len (number n) ≤ k := by
  have hdigits : ∀ c ∈ number n, isLowerHexChar c = true := fun c hc => by
    rw [isLowerHexChar, Nat.isDigit_of_mem_toDigits (by decide) (by decide) hc, Bool.true_or]
  rw [utf8Len_of_isLowerHexChar hdigits]
  exact (Nat.length_toDigits_le_iff (by decide) hk).mpr h

/-! ## Identifiers and digests -/

/-- A character that JSON prints as it is, in one byte. -/
def IsPlain (c : Char) : Prop := isLowerHexChar c = true ∨ c = '-'

theorem isPlain_of_mem_hyphenated {bytes : List UInt8} {c : Char} (h : c ∈ hyphenated bytes) :
    IsPlain c := by
  by_cases hdash : c = '-'
  · exact Or.inr hdash
  · have hmem : c ∈ (hyphenated bytes).filter (· ≠ '-') :=
      List.mem_filter.mpr ⟨h, decide_eq_true hdash⟩
    rw [filter_hyphenated, hexBytes, List.mem_flatMap] at hmem
    obtain ⟨b, -, hc⟩ := hmem
    rw [hexByte, List.mem_cons, List.mem_singleton] at hc
    rcases hc with rfl | rfl <;> exact Or.inl (isLowerHexChar_hexDigit _)

theorem IsPlain.toNat_bounds {c : Char} (h : IsPlain c) :
    0x2d ≤ c.toNat ∧ c.toNat ≤ 0x66 ∧ c.toNat ≠ 0x5c := by
  rcases h with h | rfl
  · rw [isLowerHexChar, Bool.or_eq_true, decide_eq_true_eq, Char.isDigit, Bool.and_eq_true,
      decide_eq_true_eq, decide_eq_true_eq] at h
    simp only [ge_iff_le, Char.le_def, UInt32.le_iff_toNat_le] at h
    have h0 : '0'.val.toNat = 0x30 := rfl
    have h9 : '9'.val.toNat = 0x39 := rfl
    have ha : 'a'.val.toNat = 0x61 := rfl
    have hf : 'f'.val.toNat = 0x66 := rfl
    rw [h0, h9, ha, hf] at h
    show 0x2d ≤ c.val.toNat ∧ c.val.toNat ≤ 0x66 ∧ c.val.toNat ≠ 0x5c
    omega
  · decide

theorem string_of_plain {t : Text} (h : ∀ c ∈ t, IsPlain c) : string t = '"' :: (t ++ ['"']) := by
  have hescape : escape t = t := by
    refine escape_of_plain fun c hc => ?_
    have hbounds := (h c hc).toNat_bounds
    unfold escapeChar
    split <;> first | omega | exact if_neg (by omega)
  rw [string, hescape]

theorem utf8Len_string_of_plain {t : Text} (h : ∀ c ∈ t, IsPlain c) :
    utf8Len (string t) = t.length + 2 := by
  have hquote : '"'.utf8Size = 1 := by decide
  have hsize : utf8Len t = t.length := by
    refine utf8Len_of_ascii fun c hc => ?_
    have hbounds := (h c hc).toNat_bounds
    omega
  rw [string_of_plain h, utf8Len_cons, utf8Len_append, utf8Len_cons, hquote, hsize, utf8Len_nil]
  omega

theorem isPlain_of_mem_toHyphenated {id : Uuid} {c : Char} (h : c ∈ id.toHyphenated.toList) :
    IsPlain c := by
  rw [Uuid.toHyphenated, String.toList_ofList] at h
  exact isPlain_of_mem_hyphenated h

theorem length_toHyphenated (id : Uuid) : id.toHyphenated.toList.length = 36 := by
  rw [Uuid.toHyphenated, String.toList_ofList, id.length_hyphenated]

theorem utf8Len_uuid (id : Uuid) : utf8Len (string id.toHyphenated.toList) = 38 := by
  rw [utf8Len_string_of_plain fun c hc => isPlain_of_mem_toHyphenated hc, length_toHyphenated]

theorem utf8Len_digest {digest : String} (h : isLowerHex64 digest = true) :
    utf8Len (string digest.toList) = 66 := by
  rw [isLowerHex64, Bool.and_eq_true, decide_eq_true_eq, List.all_eq_true] at h
  have hlen : digest.toList.length = 64 := by
    rw [← utf8Len_of_isLowerHexChar h.2]
    exact h.1
  rw [utf8Len_string_of_plain fun c hc => Or.inl (h.2 c hc), hlen]

end Json
end MyVault
