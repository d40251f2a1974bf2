import MyVault.Library.Program

/-!
# Programs under an invariant

`Under I E p` says of a program that it keeps the invariant `I` of the state, whatever its
result, and that from such a state it fails with the errors of `E` only.  Both are needed
together where an error is excluded by what the state is like.  `Returns I p x` says more:
under the invariant the result is `x`.
-/

namespace MyVault
namespace Program

variable {σ ε α β : Type}

/-- The program keeps the invariant and has no other errors. -/
class Under (I : σ → Prop) (E : ε → Prop) (p : Program σ ε α) : Prop where
  of_exec : ∀ {s t : σ} {x : Except ε α}, I s → exec p s = (x, t) →
    I t ∧ ∀ e, x = .error e → E e

namespace Under

variable {I : σ → Prop} {E : ε → Prop}

/-- What a successful first part has found may be used for the rest. -/
theorem bind_of {p : Program σ ε α} {f : α → Program σ ε β} (Q : α → Prop)
    (hp : Under I E p) (hQ : ∀ s a t, I s → exec p s = (.ok a, t) → Q a)
    (hf : ∀ a, Q a → Under I E (f a)) : Under I E (p >>= f) := by
  refine ⟨fun {s t x} hs h => ?_⟩
  rw [exec_bind] at h
  cases hrun : exec p s with
  | mk y r =>
      rw [hrun] at h
      obtain ⟨hr, herror⟩ := hp.of_exec hs hrun
      cases y with
      | ok a => exact (hf a (hQ s a r hs hrun)).of_exec hr h
      | error e =>
          cases h
          refine ⟨hr, fun e' he => ?_⟩
          cases he
          exact herror e rfl

theorem then_of {p : Program σ ε α} {f : α → Program σ ε β} (hp : Under I E p)
    (hf : ∀ a, Under I E (f a)) : Under I E (p >>= f) :=
  bind_of (fun _ => True) hp (fun _ _ _ _ _ => trivial) fun a _ => hf a

instance pure {a : α} : Under I E (Pure.pure a : Program σ ε α) := by
  refine ⟨fun hs h => ?_⟩
  cases h
  exact ⟨hs, nofun⟩

theorem throw {e : ε} (he : E e) : Under I E (MonadExcept.throw e : Program σ ε α) := by
  refine ⟨fun hs h => ?_⟩
  cases h
  refine ⟨hs, fun e' heq => ?_⟩
  cases heq
  exact he

theorem lift {x : Except ε α} (hx : ∀ e, x = .error e → E e) :
    Under I E (Program.lift x : Program σ ε α) := by
  refine ⟨fun hs h => ?_⟩
  cases h
  exact ⟨hs, hx⟩

theorem reject {c : Prop} [Decidable c] {e : ε} (he : ¬ c ∨ E e) :
    Under I E (Program.reject c e : Program σ ε Unit) := by
  rw [Program.reject]
  split
  · rename_i hc
    exact throw (he.resolve_left (not_not_intro hc))
  · exact pure

theorem require {c : Prop} [Decidable c] {e : ε} (he : E e) :
    Under I E (Program.require c e : Program σ ε Unit) := by
  rw [Program.require]
  split
  · exact pure
  · exact throw he

theorem the {o : Option α} {e : ε} (he : E e) :
    Under I E (Program.the o e : Program σ ε α) := by
  cases o with
  | none => exact throw he
  | some a => exact pure

theorem ite_of {c : Prop} [Decidable c] {p q : Program σ ε α} (hp : Under I E p)
    (hq : Under I E q) : Under I E (if c then p else q) := by
  split
  · exact hp
  · exact hq

theorem mapError {ε' : Type} {E' : ε' → Prop} {f : ε' → ε} {p : Program σ ε' α}
    (hp : Under I E' p) (hf : ∀ e, E' e → E (f e)) : Under I E (Program.mapError f p) := by
  refine ⟨fun {s t x} hs h => ?_⟩
  rw [exec_mapError] at h
  cases hrun : exec p s with
  | mk y r =>
      rw [hrun] at h
      cases h
      obtain ⟨hr, herror⟩ := hp.of_exec hs hrun
      refine ⟨hr, fun e he => ?_⟩
      cases y with
      | ok a => exact nomatch he
      | error e' =>
          cases he
          exact hf e' (herror e' rfl)

instance catching {ε' : Type} {E' : ε' → Prop} {p : Program σ ε α}
    [hp : Under I (fun _ => True) p] :
    Under I E' (Program.catching p : Program σ ε' (Except ε α)) := by
  refine ⟨fun {s t x} hs h => ?_⟩
  rw [exec_catching] at h
  cases h
  exact ⟨(hp.of_exec hs rfl).1, nofun⟩

/-- A program that leaves what the invariant is about, and may fail in any way. -/
theorem of_keeps {R : σ → σ → Prop} {p : Program σ ε α} (hp : Keeps R p)
    (hI : ∀ s t, R s t → I s → I t) : Under I (fun _ => True) p :=
  ⟨fun hs h => ⟨hI _ _ (hp.of_exec h) hs, fun _ _ => trivial⟩⟩

end Under

/-- What the first part keeps and a failing rest keeps. -/
theorem Keeps.rel_of_bind_error {R : σ → σ → Prop} [IsTrans σ R] {p : Program σ ε α}
    {f : α → Program σ ε β} (hp : Keeps R p)
    (hf : ∀ a {s t : σ} {e : ε}, exec (f a) s = (.error e, t) → R s t) {s t : σ} {e : ε}
    (h : exec (p >>= f) s = (.error e, t)) : R s t := by
  rcases exec_bind_error.mp h with hfirst | ⟨a, r, hok, hrest⟩
  · exact hp.of_exec hfirst
  · exact IsTrans.trans _ _ _ (hp.of_exec hok) (hf a hrest)

/-- From every state of the invariant the program has this result, and keeps it. -/
def Returns (I : σ → Prop) (p : Program σ ε α) (x : Except ε α) : Prop :=
  ∀ s, I s → (exec p s).1 = x ∧ I (exec p s).2

namespace Returns

variable {I : σ → Prop} {x : Except ε α} {y : Except ε β}

theorem of_exec {p : Program σ ε α} (hp : Returns I p x) {s t : σ} {x' : Except ε α} (hs : I s)
    (h : exec p s = (x', t)) : x' = x ∧ I t := by
  have hrun := hp s hs
  rwa [h] at hrun

/-- The rest of a run, after a part that succeeds. -/
theorem of_bind {p : Program σ ε α} {f : α → Program σ ε β} {a : α} {s t : σ}
    (hp : Returns I p (.ok a)) (hs : I s) (h : exec (p >>= f) s = (y, t)) :
    ∃ r, I r ∧ exec (f a) r = (y, t) := by
  rw [exec_bind] at h
  cases hrun : exec p s with
  | mk z r =>
      obtain ⟨rfl, hr⟩ := hp.of_exec hs hrun
      rw [hrun] at h
      exact ⟨r, hr, h⟩

theorem bind_ok {p : Program σ ε α} {f : α → Program σ ε β} {a : α}
    (hp : Returns I p (.ok a)) (hf : Returns I (f a) y) : Returns I (p >>= f) y := by
  intro s hs
  obtain ⟨r, hr, hrun⟩ := hp.of_bind hs (f := f) rfl
  obtain ⟨hy, ht⟩ := hf.of_exec hr hrun
  exact ⟨hy, ht⟩

theorem bind_error {p : Program σ ε α} {f : α → Program σ ε β} {e : ε}
    (hp : Returns I p (.error e)) : Returns I (p >>= f) (.error e) := by
  intro s hs
  rw [exec_bind]
  cases hrun : exec p s with
  | mk z r =>
      obtain ⟨rfl, hr⟩ := hp.of_exec hs hrun
      exact ⟨rfl, hr⟩

theorem pure (a : α) : Returns I (Pure.pure a : Program σ ε α) (.ok a) := fun _ hs => ⟨rfl, hs⟩

theorem throw (e : ε) : Returns I (MonadExcept.throw e : Program σ ε α) (.error e) :=
  fun _ hs => ⟨rfl, hs⟩

theorem lift (x : Except ε α) : Returns I (Program.lift x : Program σ ε α) x :=
  fun _ hs => ⟨rfl, hs⟩

theorem reject_neg {c : Prop} [Decidable c] {e : ε} (hc : ¬ c) :
    Returns I (Program.reject c e : Program σ ε Unit) (.ok ()) := by
  rw [Program.reject, if_neg hc]
  exact pure ()

theorem reject_pos {c : Prop} [Decidable c] {e : ε} (hc : c) :
    Returns I (Program.reject c e : Program σ ε Unit) (.error e) := by
  rw [Program.reject, if_pos hc]
  exact throw e

theorem require_pos {c : Prop} [Decidable c] {e : ε} (hc : c) :
    Returns I (Program.require c e : Program σ ε Unit) (.ok ()) := by
  rw [Program.require, if_pos hc]
  exact pure ()

theorem mapError {ε' : Type} {f : ε → ε'} {p : Program σ ε α} (hp : Returns I p x) :
    Returns I (Program.mapError f p) (x.mapError f) := by
  intro s hs
  obtain ⟨hx, ht⟩ := hp s hs
  rw [exec_mapError, hx]
  exact ⟨rfl, ht⟩

theorem catching {ε' : Type} {p : Program σ ε α} (hp : Returns I p x) :
    Returns I (Program.catching p : Program σ ε' (Except ε α)) (.ok x) := by
  intro s hs
  obtain ⟨hx, ht⟩ := hp s hs
  rw [exec_catching, hx]
  exact ⟨rfl, ht⟩

end Returns

end Program
end MyVault
