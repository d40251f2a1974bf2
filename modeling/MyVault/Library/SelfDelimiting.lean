import Mathlib.Data.List.Basic
import Mathlib.Data.Nat.Notation
import Mathlib.Data.Set.Function

/-!
# Encodings that end by themselves

An encoding is self-delimiting on a set of values when its output can be cut off
the front of any longer string in one way only.  Such encodings compose: a record
written field by field is again self-delimiting, and so is anything with its
length written in front.

The definition compares two encodings followed by arbitrary rests.  With empty
rests it says that the encoding is injective.
-/

namespace MyVault

variable {α β γ σ : Type*}

/-- On the values in `P`, the encoding `e` can be cut off in one way only. -/
def SelfDelimiting (P : Set α) (e : α → List σ) : Prop :=
  ∀ a ∈ P, ∀ b ∈ P, ∀ s t, e a ++ s = e b ++ t → a = b ∧ s = t

namespace SelfDelimiting

theorem injOn {P : Set α} {e : α → List σ} (h : SelfDelimiting P e) : Set.InjOn e P := by
  intro a ha b hb hab
  exact (h a ha b hb [] [] (by rw [hab])).1

/-- A terminator that the strings themselves do not contain. -/
theorem terminated (c : σ) : SelfDelimiting {xs : List σ | c ∉ xs} fun xs => xs ++ [c] := by
  intro xs hxs ys hys s t h
  induction xs generalizing ys with
  | nil =>
      cases ys with
      | nil => exact ⟨rfl, (List.cons.inj h).2⟩
      | cons y ys => exact absurd (List.mem_cons.mpr (Or.inl (List.cons.inj h).1)) hys
  | cons x xs ih =>
      cases ys with
      | nil => exact absurd (List.mem_cons.mpr (Or.inl (List.cons.inj h).1.symm)) hxs
      | cons y ys =>
          obtain ⟨hxy, hrest⟩ := List.cons.inj h
          obtain ⟨htail, hst⟩ := ih (fun hc => hxs (List.mem_cons_of_mem _ hc)) ys
            (fun hc => hys (List.mem_cons_of_mem _ hc)) hrest
          exact ⟨by rw [hxy, htail], hst⟩

/-- Injective encodings of one common length are self-delimiting. -/
theorem of_length_eq {P : Set α} {e : α → List σ} (n : ℕ) (hlen : ∀ a ∈ P, (e a).length = n)
    (hinj : Set.InjOn e P) : SelfDelimiting P e := by
  intro a ha b hb s t h
  obtain ⟨hhead, htail⟩ := List.append_inj h ((hlen a ha).trans (hlen b hb).symm)
  exact ⟨hinj ha hb hhead, htail⟩

/-- A self-delimiting encoding of something the value is determined by. -/
theorem comp {P : Set α} {Q : Set β} {e : β → List σ} (h : SelfDelimiting Q e) {f : α → β}
    (hf : Set.MapsTo f P Q) (hinj : Set.InjOn f P) : SelfDelimiting P fun a => e (f a) := by
  intro a ha b hb s t hab
  obtain ⟨hfab, hst⟩ := h _ (hf ha) _ (hf hb) _ _ hab
  exact ⟨hinj ha hb hfab, hst⟩

/-- A constant in front changes nothing. -/
theorem const_append {P : Set α} {e : α → List σ} (h : SelfDelimiting P e) (l : List σ) :
    SelfDelimiting P fun a => l ++ e a := by
  intro a ha b hb s t hab
  rw [List.append_assoc, List.append_assoc] at hab
  exact h a ha b hb s t (List.append_cancel_left hab)

/-- **The length in front delimits a string**, if the lengths are written in a
self-delimiting way. -/
theorem length_append {L : Set ℕ} {e : ℕ → List σ} (h : SelfDelimiting L e) :
    SelfDelimiting {xs : List σ | xs.length ∈ L} fun xs => e xs.length ++ xs := by
  intro xs hxs ys hys s t hab
  rw [List.append_assoc, List.append_assoc] at hab
  obtain ⟨hlen, hrest⟩ := h _ hxs _ hys _ _ hab
  exact List.append_inj hrest hlen

/-- An optional value behind a tag that says whether it is there. -/
def tagged (present absent : σ) (l : List σ) (e : α → List σ) : Option α → List σ
  | none => absent :: l
  | some a => present :: e a

/-- A tag for presence: `none` and `some` begin with different symbols. -/
theorem option {P : Set α} {e : α → List σ} (h : SelfDelimiting P e) {present absent : σ}
    (hne : present ≠ absent) (l : List σ) :
    SelfDelimiting {o : Option α | ∀ a ∈ o, a ∈ P} (tagged present absent l e) := by
  intro a ha b hb s t hab
  cases a with
  | none =>
      cases b with
      | none => exact ⟨rfl, List.append_cancel_left hab⟩
      | some b => exact absurd (List.cons.inj hab).1.symm hne
  | some a =>
      cases b with
      | none => exact absurd (List.cons.inj hab).1 hne
      | some b =>
          obtain ⟨hval, hst⟩ := h a (ha a rfl) b (hb b rfl) s t (List.cons.inj hab).2
          exact ⟨congrArg some hval, hst⟩

/-- A list of values under a fixed list of names, each value in the encoding of its
name.  The induction is on the names. -/
theorem zipWith {P : Set α} {e : β → α → List σ} (h : ∀ n, SelfDelimiting P (e n))
    (names : List β) :
    SelfDelimiting {vs : List α | vs.length = names.length ∧ ∀ v ∈ vs, v ∈ P}
      fun vs => (List.zipWith e names vs).flatten := by
  induction names with
  | nil =>
      rintro vs ⟨hvs, -⟩ ws ⟨hws, -⟩ s t hab
      rw [List.length_nil, List.length_eq_zero_iff] at hvs hws
      subst hvs hws
      exact ⟨rfl, hab⟩
  | cons n names ih =>
      rintro vs ⟨hvs, hvP⟩ ws ⟨hws, hwP⟩ s t hab
      cases vs with
      | nil => exact absurd hvs (by simp)
      | cons v vs =>
          cases ws with
          | nil => exact absurd hws (by simp)
          | cons w ws =>
              obtain ⟨hv, hvP⟩ := List.forall_mem_cons.mp hvP
              obtain ⟨hw, hwP⟩ := List.forall_mem_cons.mp hwP
              simp only [List.zipWith_cons_cons, List.flatten_cons, List.append_assoc] at hab
              obtain ⟨hvw, hrest⟩ := h n v hv w hw _ _ hab
              obtain ⟨htail, hst⟩ :=
                ih vs ⟨Nat.succ.inj hvs, hvP⟩ ws ⟨Nat.succ.inj hws, hwP⟩ s t hrest
              exact ⟨by rw [hvw, htail], hst⟩

end SelfDelimiting
end MyVault
