import MyVault.Core.Text

/-!
# Portable vault paths

`myvault-core/src/path.rs`.  A `VaultPath` carries its components and the checks
they passed, so a path that breaks the portable contract cannot be built;
`asStr` is the canonical text and `splitOn_asStr` says that splitting it at the
slashes gives the components back.

The Unicode data the checks need is not part of the repository: `to_uppercase`
of the standard library, NFKC of `unicode-normalization` and the full case
folding of `unicode-casefold`.  They are the fields of a `Unicode`.
-/

namespace MyVault

/-- The Unicode mappings of the standard library and of the two crates. -/
structure Unicode where
  toUppercase : Text → Text
  nfkc : Text → Text
  caseFold : Text → Text

/-- The mappings as they are on ASCII text. -/
def Unicode.ascii : Unicode where
  toUppercase := List.map Char.toUpper
  nfkc := id
  caseFold := List.map Char.toLower

/-- `char::is_control`: the general category Cc. -/
def isControl (c : Char) : Bool := c.toNat < 32 || (127 ≤ c.toNat && c.toNat ≤ 159)

/-- `encode_utf16().count()`. -/
def utf16Len (t : Text) : ℕ := (t.map fun c => if c.toNat < 0x10000 then 1 else 2).sum

/-- ASCII characters take one code unit each. -/
theorem utf16Len_of_ascii {t : Text} (h : ∀ c ∈ t, c.toNat < 128) : utf16Len t = t.length := by
  have hone : (t.map fun c => if c.toNat < 0x10000 then 1 else 2) = t.map fun _ => 1 := by
    refine List.map_congr_left fun c hc => if_pos ?_
    have hnat := h c hc
    omega
  rw [utf16Len, hone]
  simp

/-- `str::split('/')`. -/
def splitSlash (t : Text) : List Text := t.splitOn '/'

/-- `Path::extension` of a file name: what follows the last dot, unless that dot is its
first character. -/
def fileExtension (name : Text) : Option Text :=
  let after := name.reverse.takeWhile (· ≠ '.')
  if after.length + 1 < name.length then some after.reverse else none

/-- `components.join("/")`. -/
def joinSlash (components : List Text) : Text := ['/'].intercalate components

theorem joinSlash_concat {names : List Text} {name : Text} (hne : names ≠ []) :
    joinSlash (names ++ [name]) = joinSlash names ++ '/' :: name := by
  induction names with
  | nil => exact absurd rfl hne
  | cons first rest ih =>
      rcases rest.eq_nil_or_concat with rfl | ⟨_, _, rfl⟩
      · rw [joinSlash, joinSlash, List.singleton_append, List.intercalate_cons_cons,
          List.intercalate_singleton, List.intercalate_singleton, List.append_assoc,
          List.singleton_append]
      · have hjoin := ih (by simp)
        rw [joinSlash, joinSlash] at hjoin ⊢
        rw [List.cons_append, List.intercalate_cons_of_ne_nil (by simp), hjoin,
          List.intercalate_cons_of_ne_nil (by simp)]
        simp only [List.append_assoc]

/-- What a joined text is made of. -/
theorem mem_joinSlash {names : List Text} {c : Char} (h : c ∈ joinSlash names) :
    c = '/' ∨ ∃ name ∈ names, c ∈ name := by
  induction names with
  | nil => cases h
  | cons first rest ih =>
      rcases rest.eq_nil_or_concat with rfl | ⟨_, _, rfl⟩
      · rw [joinSlash, List.intercalate_singleton] at h
        exact Or.inr ⟨first, List.mem_cons_self, h⟩
      · rw [joinSlash, List.intercalate_cons_of_ne_nil (by simp), List.mem_append,
          List.mem_append, List.mem_singleton] at h
        rcases h with (h | h) | h
        · exact Or.inr ⟨first, List.mem_cons_self, h⟩
        · exact Or.inl h
        · exact (ih h).imp_right fun ⟨other, hother, hc⟩ =>
            ⟨other, List.mem_cons_of_mem _ hother, hc⟩

namespace VaultPath

/-- `MAX_COMPONENT_BYTES`. -/
def maxComponentBytes : ℕ := 255

/-- `MAX_COMPONENT_UTF16_UNITS`. -/
def maxComponentUtf16Units : ℕ := 255

/-- `MAX_PATH_BYTES`. -/
def maxPathBytes : ℕ := 4096

/-- `MAX_PATH_UTF16_UNITS`. -/
def maxPathUtf16Units : ℕ := 4096

/-- The name of a numbered device such as `COM1`. -/
def reservedNumberedName (value front : Text) : Bool :=
  if front <+: value then
    ["1", "2", "3", "4", "5", "6", "7", "8", "9", "¹", "²", "³"].any fun suffix =>
      value.drop front.length == suffix.toList
  else false

/-- The name of a device that Windows reserves, in upper case. -/
def isWindowsReservedName (u : Unicode) (stem : Text) : Bool :=
  let uppercase := u.toUppercase stem
  (["CON", "PRN", "AUX", "NUL", "CONIN$", "CONOUT$", "CLOCK$"].any fun name =>
    uppercase == name.toList) ||
  reservedNumberedName uppercase "COM".toList ||
  reservedNumberedName uppercase "LPT".toList

/-- `character.is_control() || matches!(character, '<' | '>' | …)`. -/
def isForbiddenChar (c : Char) : Bool :=
  isControl c || ['<', '>', ':', '"', '|', '?', '*', '\\'].contains c

/-- A name that every platform can have in a folder. -/
def isPortableComponent (u : Unicode) (component : Text) : Bool :=
  if maxComponentBytes < utf8Len component ∨
      maxComponentUtf16Units < utf16Len component ∨
      (component.getLast? = some '.' ∨ component.getLast? = some ' ') ∨
      component.any isForbiddenChar = true then
    false
  else
    -- the part before the first dot
    let stem := component.takeWhile (· ≠ '.')
    !isWindowsReservedName u stem

/-- What a component of a path has passed. -/
def PortableComponent (u : Unicode) (component : Text) : Prop :=
  component ≠ ['.', '.'] ∧ isPortableComponent u component = true

instance (u : Unicode) (component : Text) : Decidable (PortableComponent u component) :=
  inferInstanceAs (Decidable (_ ∧ _))

/-- What the components of a path have passed together. -/
def PathFits (components : List Text) : Prop :=
  components ≠ [] ∧ utf8Len (joinSlash components) ≤ maxPathBytes ∧
    utf16Len (joinSlash components) ≤ maxPathUtf16Units

instance (components : List Text) : Decidable (PathFits components) :=
  inferInstanceAs (Decidable (_ ∧ _ ∧ _))

end VaultPath

open VaultPath

/-- A validated, portable, non-empty path relative to a vault root. -/
structure VaultPath (u : Unicode) where
  components : List Text
  portable : ∀ c ∈ components, PortableComponent u c
  named : ∀ c ∈ components, c ≠ [] ∧ c ≠ ['.'] ∧ '/' ∉ c
  fits : PathFits components

namespace VaultPath

variable {u : Unicode}

@[ext] theorem ext {p q : VaultPath u} (h : p.components = q.components) : p = q := by
  obtain ⟨_, _, _, _⟩ := p
  obtain ⟨_, _, _, _⟩ := q
  subst h
  rfl

/-- `as_str`: the canonical, slash-separated text. -/
def asStr (path : VaultPath u) : Text := joinSlash path.components

/-- The components `from_portable` keeps: the empty ones and `.` are dropped. -/
def keptComponents (value : Text) : List Text :=
  (splitSlash value).filter fun c => c ≠ [] ∧ c ≠ ['.']

theorem notMem_of_mem_splitSlash {value c : Text} (h : c ∈ splitSlash value) : '/' ∉ c := by
  induction value generalizing c with
  | nil =>
      rw [splitSlash, List.splitOn_nil, List.mem_singleton] at h
      simp [h]
  | cons x value ih =>
      rw [splitSlash, List.splitOn_cons_eq_if_modifyHead] at h
      split at h
      · rcases List.mem_cons.mp h with rfl | h
        · simp
        · exact ih h
      · rename_i hx
        rw [beq_iff_eq] at hx
        cases hsplit : value.splitOn '/' with
        | nil => exact absurd hsplit (List.splitOn_ne_nil _ _)
        | cons y ys =>
            rw [hsplit, List.modifyHead_cons] at h
            rcases List.mem_cons.mp h with rfl | h
            · have hy := ih (c := y) (by rw [splitSlash, hsplit]; simp)
              simpa [Ne.symm hx] using hy
            · exact ih (by rw [splitSlash, hsplit]; exact List.mem_cons_of_mem _ h)

theorem named_keptComponents (value : Text) :
    ∀ c ∈ keptComponents value, c ≠ [] ∧ c ≠ ['.'] ∧ '/' ∉ c := by
  intro c hc
  rw [keptComponents, List.mem_filter, decide_eq_true_eq] at hc
  exact ⟨hc.2.1, hc.2.2, notMem_of_mem_splitSlash hc.1⟩

/-- Parses a path that already uses portable separators; the one error of the
source carries only its input. -/
def fromPortable (u : Unicode) (value : Text) : Option (VaultPath u) :=
  if value = [] ∨ value.head? = some '/' ∨ ['.', '/'] <+: value ∨ '\\' ∈ value then
    none
  else
    let components := keptComponents value
    if hportable : ∀ c ∈ components, PortableComponent u c then
      -- `from_components`
      if hfits : PathFits components then
        some ⟨components, hportable, named_keptComponents value, hfits⟩
      else none
    else none

/-- Splitting the canonical text gives the components. -/
theorem splitOn_asStr (path : VaultPath u) : splitSlash path.asStr = path.components :=
  List.splitOn_intercalate '/' (fun c hc => (path.named c hc).2.2) path.fits.1

theorem asStr_injective : Function.Injective (asStr (u := u)) := by
  intro p q h
  have hsplit := congrArg splitSlash h
  rw [splitOn_asStr, splitOn_asStr] at hsplit
  exact VaultPath.ext hsplit

/-- A joined list of names is read as these names. -/
theorem keptComponents_joinSlash {components : List Text} (hne : components ≠ [])
    (hnamed : ∀ c ∈ components, c ≠ [] ∧ c ≠ ['.'] ∧ '/' ∉ c) :
    keptComponents (joinSlash components) = components := by
  have hsplit : splitSlash (joinSlash components) = components :=
    List.splitOn_intercalate '/' (fun c hc => (hnamed c hc).2.2) hne
  rw [keptComponents, hsplit, List.filter_eq_self]
  exact fun c hc => decide_eq_true ⟨(hnamed c hc).1, (hnamed c hc).2.1⟩

theorem components_of_fromPortable {value : Text} {path : VaultPath u}
    (h : fromPortable u value = some path) : path.components = keptComponents value := by
  unfold fromPortable at h
  split at h
  · exact nomatch h
  · dsimp only at h
    split at h
    · split at h
      · rw [Option.some.injEq] at h
        rw [← h]
      · exact nomatch h
    · exact nomatch h

theorem not_forbidden_of_portable {component : Text} (h : PortableComponent u component) {c : Char}
    (hc : c ∈ component) : isForbiddenChar c = false := by
  have hcomponent := h.2
  rw [isPortableComponent] at hcomponent
  split at hcomponent
  · cases hcomponent
  · rename_i hrejected
    rw [not_or, not_or, not_or] at hrejected
    exact Bool.eq_false_iff.mpr fun hforbidden =>
      hrejected.2.2.2 (List.any_eq_true.mpr ⟨c, hc, hforbidden⟩)

/-- The canonical text of a path is parsed as this path. -/
theorem fromPortable_asStr (path : VaultPath u) : fromPortable u path.asStr = some path := by
  have hkept : keptComponents path.asStr = path.components :=
    keptComponents_joinSlash path.fits.1 path.named
  have hplain : ¬(path.asStr = [] ∨ path.asStr.head? = some '/' ∨ ['.', '/'] <+: path.asStr ∨
      '\\' ∈ path.asStr) := by
    have hsplit := splitOn_asStr path
    rintro (hnil | hslash | ⟨rest, hdot⟩ | hback)
    · rw [hnil] at hkept
      exact path.fits.1 hkept.symm
    · obtain ⟨rest, hrest⟩ := List.head?_eq_some_iff.mp hslash
      rw [hrest, splitSlash, List.splitOn_cons_eq_if_modifyHead,
        if_pos (beq_self_eq_true _)] at hsplit
      exact (path.named [] (hsplit ▸ List.mem_cons_self)).1 rfl
    · rw [← hdot, splitSlash] at hsplit
      simp [List.splitOn_cons_eq_if_modifyHead] at hsplit
      exact (path.named ['.'] (hsplit ▸ List.mem_cons_self)).2.1 rfl
    · rcases mem_joinSlash hback with hslash | ⟨component, hcomponent, hmem⟩
      · exact absurd hslash (by decide)
      · have hfree := not_forbidden_of_portable (path.portable component hcomponent) hmem
        exact absurd hfree (by decide)
  rw [fromPortable, if_neg hplain]
  simp only [hkept]
  rw [dif_pos path.portable, dif_pos path.fits]

/-- `component_collision_key`. -/
def componentCollisionKey (u : Unicode) (component : Text) : Text :=
  u.nfkc (u.caseFold (u.nfkc component))

end VaultPath
end MyVault
