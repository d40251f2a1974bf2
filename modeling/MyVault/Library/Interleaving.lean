import MyVault.Library.Process
import Mathlib.Data.Nat.Notation
import Mathlib.Logic.Function.Basic

/-!
# Processes side by side

Several processes work on one state.  A turn is one look or one step of one of them, so
between any two turns of a process the others may have changed the state; a look or a step
may fail, and a process may be dropped where it is.

`Robust` is what `Process.Safe` is for a process alone.  `rely` says what the others may
have done since the last turn: at any state they can have come to, the next step has to be
one that `I` allows, and the result has to satisfy `Q`.  A process that is robust stays so
under its own turns (`Robust.turn`, `Robust.fault`) and under what the others do
(`Robust.stable`).  In a `Pool` what one process may do has to be what the others rely on,
and then every run keeps all of them robust (`Pool.Sound.step`).
-/

namespace MyVault
namespace Process

variable {S R σ ε α β : Type}

/-- One turn: a look or a step. -/
def turn (act : S → σ → R × σ) : Process S R σ ε α → σ → Process S R σ ε α × σ
  | done x, s => (done x, s)
  | look k, s => (k s, s)
  | step st k, s => (k (act st s).1, (act st s).2)

/-- Some turns, and nothing in between. -/
def turns (act : S → σ → R × σ) : ℕ → Process S R σ ε α → σ → Process S R σ ε α × σ
  | 0, p, s => (p, s)
  | n + 1, p, s => turns act n (p.turn act s).1 (p.turn act s).2

/-- Alone and without a failure a process comes to be this one, at this state. -/
def Reaches (act : S → σ → R × σ) (p : Process S R σ ε α) (s : σ) (p' : Process S R σ ε α)
    (s' : σ) : Prop :=
  ∃ n, p.turns act n s = (p', s')

/-- A turn that fails: a look ends the process with `e`, and a step is answered by `r` and
has done nothing. -/
def fault (r : R) (e : ε) : Process S R σ ε α → Process S R σ ε α
  | done x => done x
  | look _ => done (.error e)
  | step _ k => k r

namespace Reaches

variable {act : S → σ → R × σ} {p p' p'' : Process S R σ ε α} {s s' s'' : σ}

theorem refl (act : S → σ → R × σ) (p : Process S R σ ε α) (s : σ) : Reaches act p s p s :=
  ⟨0, rfl⟩

theorem head (h : Reaches act (p.turn act s).1 (p.turn act s).2 p' s') : Reaches act p s p' s' := by
  obtain ⟨n, h⟩ := h
  exact ⟨n + 1, h⟩

theorem trans (h : Reaches act p s p' s') (h' : Reaches act p' s' p'' s'') :
    Reaches act p s p'' s'' := by
  obtain ⟨n, h⟩ := h
  induction n generalizing p s with
  | zero =>
      cases h
      exact h'
  | succ n ih => exact head (ih h)

theorem bind {f : α → Process S R σ ε β} (h : Reaches act p s p' s') :
    Reaches act (p >>= f) s (p' >>= f) s' := by
  obtain ⟨n, h⟩ := h
  induction n generalizing p s with
  | zero =>
      cases h
      exact refl act _ _
  | succ n ih =>
      cases p with
      | done x => exact ih h
      | look k => exact head (ih h)
      | step st k => exact head (ih h)

theorem lift_bind {x : Except ε α} {k : α → Process S R σ ε β} {q : Process S R σ ε β} {a : α}
    (h : x = .ok a) (hk : Reaches act (k a) s q s') : Reaches act (lift x >>= k) s q s' := by
  rw [h]
  exact hk

theorem ask_bind {f : σ → Except ε α} {k : α → Process S R σ ε β} {q : Process S R σ ε β} {a : α}
    (h : f s = .ok a) (hk : Reaches act (k a) s q s') : Reaches act (ask f >>= k) s q s' := by
  refine head ?_
  show Reaches act (Process.bind (done (f s)) k) s q s'
  rw [h]
  exact hk

theorem perform_bind {st : S} {k : R → Process S R σ ε β} {q : Process S R σ ε β} {r : R}
    {t : σ} (h : act st s = (r, t)) (hk : Reaches act (k r) t q s') :
    Reaches act (perform st >>= k) s q s' := by
  refine head ?_
  show Reaches act (k (act st s).1) (act st s).2 q s'
  rw [h]
  exact hk

theorem io_bind {act : S → σ → Except ε α × σ} {st : S}
    {k : α → Process S (Except ε α) σ ε β} {q : Process S (Except ε α) σ ε β} {a : α} {t : σ}
    (h : act st s = (.ok a, t)) (hk : Reaches act (k a) t q s') :
    Reaches act (io st >>= k) s q s' := by
  refine head ?_
  show Reaches act (Process.bind (done (act st s).1) k) (act st s).2 q s'
  rw [h]
  exact hk

/-! ### A process that has all the turns -/

theorem turns_finish (n : ℕ) (p : Process S R σ ε α) (s : σ) :
    (p.turns act n s).1.finish act (p.turns act n s).2 = p.finish act s := by
  induction n generalizing p s with
  | zero => rfl
  | succ n ih =>
      refine (ih _ _).trans ?_
      cases p with
      | done x => rfl
      | look k => rfl
      | step st k => rfl

/-- The end it comes to is that of all its steps. -/
theorem finish_of_turns {n : ℕ} {x : Except ε α} (h : (p.turns act n s).1 = done x) :
    p.finish act s = (x, (p.turns act n s).2) := by
  rw [← turns_finish n p s, h]
  rfl

/-- And it comes to its end. -/
theorem finish (p : Process S R σ ε α) (s : σ) :
    Reaches act p s (done (p.finish act s).1) (p.finish act s).2 := by
  induction p generalizing s with
  | done x => exact refl act _ _
  | look k ih => exact head (ih s s)
  | step st k ih => exact head (ih _ _)

end Reaches

/-- What others may do between two turns: nothing, or one thing after the other. -/
structure Interference (rely : σ → σ → Prop) : Prop where
  refl : ∀ s, rely s s
  trans : ∀ {s t u}, rely s t → rely t u → rely s u

variable (act : S → σ → R × σ) (r : R) (e : ε) (rely : σ → σ → Prop)

/-- Whatever the others do and whatever fails, `I` allows every step, and `Q` holds at the
end and from then on. -/
def Robust (I : S → σ → Prop) (Q : Except ε α → σ → Prop) : Process S R σ ε α → σ → Prop
  | done x, s => ∀ t, rely s t → Q x t
  | look k, s => ∀ t, rely s t → Q (.error e) t ∧ Robust I Q (k t) t
  | step st k, s => ∀ t, rely s t → I st t ∧ Robust I Q (k (act st t).1) (act st t).2 ∧
      Robust I Q (k r) t

namespace Robust

variable {act r e rely} {I I' : S → σ → Prop} {Q Q' : Except ε α → σ → Prop} {s t : σ}

theorem stable (hrely : Interference rely) {p : Process S R σ ε α}
    (h : Robust act r e rely I Q p s) (hst : rely s t) : Robust act r e rely I Q p t := by
  cases p with
  | done x => exact fun u hu => h u (hrely.trans hst hu)
  | look k => exact fun u hu => h u (hrely.trans hst hu)
  | step st k => exact fun u hu => h u (hrely.trans hst hu)

theorem mono {p : Process S R σ ε α} (h : Robust act r e rely I' Q' p s)
    (hI : ∀ st t, I' st t → I st t) (hQ : ∀ x t, Q' x t → Q x t) :
    Robust act r e rely I Q p s := by
  induction p generalizing s with
  | done x => exact fun t ht => hQ x t (h t ht)
  | look k ih => exact fun t ht => ⟨hQ _ t (h t ht).1, ih t (h t ht).2⟩
  | step st k ih =>
      exact fun t ht => ⟨hI st t (h t ht).1, ih _ (h t ht).2.1, ih _ (h t ht).2.2⟩

/-- **The rule of a sequence.** -/
theorem bind (hrely : Interference rely) {p : Process S R σ ε α} {f : α → Process S R σ ε β}
    {Q : Except ε β → σ → Prop} (hp : Robust act r e rely I Q' p s)
    (hok : ∀ a t, Q' (.ok a) t → Robust act r e rely I Q (f a) t)
    (herror : ∀ e t, Q' (.error e) t → Q (.error e) t) :
    Robust act r e rely I Q (p >>= f) s := by
  show Robust act r e rely I Q (p.bind f) s
  induction p generalizing s with
  | done x =>
      cases x with
      | ok a => exact hok a s (hp s (hrely.refl s))
      | error e => exact fun t ht => herror e t (hp t ht)
  | look k ih => exact fun t ht => ⟨herror _ t (hp t ht).1, ih t (hp t ht).2⟩
  | step st k ih =>
      exact fun t ht => ⟨(hp t ht).1, ih _ (hp t ht).2.1, ih _ (hp t ht).2.2⟩

/-- What is said of the result of a process is said of what is made of it. -/
theorem map {p : Process S R σ ε α} {f : α → β} {Q : Except ε β → σ → Prop}
    (hp : Robust act r e rely I Q' p s) (hQ : ∀ x t, Q' x t → Q (x.map f) t) :
    Robust act r e rely I Q (p >>= fun a => pure (f a)) s := by
  show Robust act r e rely I Q (p.bind fun a => pure (f a)) s
  induction p generalizing s with
  | done x =>
      cases x with
      | ok a => exact fun t ht => hQ (.ok a) t (hp t ht)
      | error e => exact fun t ht => hQ (.error e) t (hp t ht)
  | look k ih => exact fun t ht => ⟨hQ (.error e) t (hp t ht).1, ih t (hp t ht).2⟩
  | step st k ih => exact fun t ht => ⟨(hp t ht).1, ih _ (hp t ht).2.1, ih _ (hp t ht).2.2⟩

theorem of_pure {a : α} (h : ∀ t, rely s t → Q (.ok a) t) :
    Robust act r e rely I Q (pure a) s := h

theorem of_fail {e' : ε} (h : ∀ t, rely s t → Q (.error e') t) :
    Robust act r e rely I Q (fail e') s := h

theorem lift_bind {x : Except ε α} {k : α → Process S R σ ε β} {Q : Except ε β → σ → Prop}
    {a : α} (h : x = .ok a) (hk : Robust act r e rely I Q (k a) s) :
    Robust act r e rely I Q (Process.lift x >>= k) s := by
  rw [h]
  exact hk

theorem lift_bind_error {x : Except ε α} {k : α → Process S R σ ε β}
    {Q : Except ε β → σ → Prop} {e' : ε} (h : x = .error e')
    (hQ : ∀ t, rely s t → Q (.error e') t) :
    Robust act r e rely I Q (Process.lift x >>= k) s := by
  rw [h]
  exact hQ

theorem perform_bind {st : S} {k : R → Process S R σ ε β} {Q : Except ε β → σ → Prop}
    (h : ∀ t, rely s t → I st t ∧ Robust act r e rely I Q (k (act st t).1) (act st t).2 ∧
      Robust act r e rely I Q (k r) t) :
    Robust act r e rely I Q (Process.perform st >>= k) s := h

/-- A step whose failure ends the process. -/
theorem io_bind {act : S → σ → Except ε α × σ} {e' : ε} {I : S → σ → Prop} {st : S}
    {k : α → Process S (Except ε α) σ ε β} {Q : Except ε β → σ → Prop}
    (h : ∀ t, rely s t → I st t ∧
      (∀ a, (act st t).1 = .ok a → Robust act (.error e') e rely I Q (k a) (act st t).2) ∧
      (∀ e₁, (act st t).1 = .error e₁ → ∀ u, rely (act st t).2 u → Q (.error e₁) u) ∧
      ∀ u, rely t u → Q (.error e') u) :
    Robust act (.error e') e rely I Q (Process.io st >>= k) s := by
  intro t ht
  obtain ⟨hI, hok, herror, hfault⟩ := h t ht
  refine ⟨hI, ?_, hfault⟩
  show Robust act _ e rely I Q (Process.bind (done (act st t).1) k) _
  cases hanswer : (act st t).1 with
  | ok a => exact hok a hanswer
  | error e₁ => exact herror e₁ hanswer

theorem ask_bind {f : σ → Except ε α} {k : α → Process S R σ ε β} {Q : Except ε β → σ → Prop}
    (hfail : ∀ t, rely s t → Q (.error e) t)
    (hok : ∀ t a, rely s t → f t = .ok a → Robust act r e rely I Q (k a) t)
    (herror : ∀ t u e', rely s t → f t = .error e' → rely t u → Q (.error e') u) :
    Robust act r e rely I Q (Process.ask f >>= k) s := by
  intro t ht
  refine ⟨hfail t ht, ?_⟩
  show Robust act r e rely I Q (Process.bind (done (f t)) k) t
  cases hf : f t with
  | ok a => exact hok t a ht hf
  | error e' => exact fun u hu => herror t u e' ht hf hu

/-- A process whose result is looked at.  A look that fails ends it all the same. -/
theorem attempt {p : Process S R σ ε α} {Q : Except ε (Except ε α) → σ → Prop}
    (h : Robust act r e rely I Q' p s) (hok : ∀ x t, Q' x t → Q (.ok x) t)
    (hfail : ∀ t, Q' (.error e) t → Q (.error e) t) : Robust act r e rely I Q p.attempt s := by
  induction p generalizing s with
  | done x => exact fun t ht => hok x t (h t ht)
  | look k ih => exact fun t ht => ⟨hfail t (h t ht).1, ih t (h t ht).2⟩
  | step st k ih => exact fun t ht => ⟨(h t ht).1, ih _ (h t ht).2.1, ih _ (h t ht).2.2⟩

/-- What the others and every step keep, a process keeps. -/
theorem keeping {K : σ → σ → Prop} (hK : Interference K) (hrely : ∀ s t, rely s t → K s t)
    (hstep : ∀ st t, I st t → K t (act st t).2) {p : Process S R σ ε α}
    (h : Robust act r e rely I Q p s) {s₀ : σ} (hs : K s₀ s) :
    Robust act r e rely I (fun x t => Q x t ∧ K s₀ t) p s := by
  induction p generalizing s with
  | done x => exact fun t ht => ⟨h t ht, hK.trans hs (hrely s t ht)⟩
  | look k ih =>
      intro t ht
      have ht' := hK.trans hs (hrely s t ht)
      exact ⟨⟨(h t ht).1, ht'⟩, ih t (h t ht).2 ht'⟩
  | step st k ih =>
      intro t ht
      obtain ⟨hI, hok, hfault⟩ := h t ht
      have ht' := hK.trans hs (hrely s t ht)
      exact ⟨hI, ih _ hok (hK.trans ht' (hstep st t hI)), ih _ hfault ht'⟩

/-! ### What a robust process is good for -/

theorem turn (hrely : Interference rely) {p : Process S R σ ε α}
    (h : Robust act r e rely I Q p s) :
    Robust act r e rely I Q (p.turn act s).1 (p.turn act s).2 := by
  cases p with
  | done x => exact h
  | look k => exact (h s (hrely.refl s)).2
  | step st k => exact (h s (hrely.refl s)).2.1

theorem fault (hrely : Interference rely) {p : Process S R σ ε α}
    (h : Robust act r e rely I Q p s) : Robust act r e rely I Q (p.fault r e) s := by
  cases p with
  | done x => exact h
  | look k => exact fun t ht => (h t ht).1
  | step st k => exact (h s (hrely.refl s)).2.2

/-- A turn leaves the state or is a step that `I` allows. -/
theorem turn_state (hrely : Interference rely) {p : Process S R σ ε α}
    (h : Robust act r e rely I Q p s) :
    (p.turn act s).2 = s ∨ ∃ st, I st s ∧ (p.turn act s).2 = (act st s).2 := by
  cases p with
  | done x => exact .inl rfl
  | look k => exact .inl rfl
  | step st k => exact .inr ⟨st, (h s (hrely.refl s)).1, rfl⟩

theorem of_done (hrely : Interference rely) {x : Except ε α}
    (h : Robust act r e rely I Q (.done x) s) : Q x s := h s (hrely.refl s)

end Robust

-- From here on the rules above are all that is known of it.
attribute [irreducible] Robust

end Process

open Process

/-- A state, and the processes that run on it under their names, each with what it is
for. -/
structure Pool (ι Λ S R σ ε α : Type) where
  state : σ
  running : ι → Option (Λ × Process S R σ ε α)

namespace Pool

variable {ι Λ S R σ ε α : Type} [DecidableEq ι]

/-- What happens to a pool. -/
inductive Event (ι Λ S R σ ε α : Type) where
  /-- A process begins under a name, if none runs under it. -/
  | start (i : ι) (l : Λ) (p : Process S R σ ε α)
  | turn (i : ι)
  | fault (i : ι)
  /-- The process of the name is dropped, at its end or before. -/
  | drop (i : ι)

/-- The process of a name is another one. -/
def withProcess (pool : Pool ι Λ S R σ ε α) (i : ι) (p : Option (Λ × Process S R σ ε α)) :
    Pool ι Λ S R σ ε α :=
  { pool with running := Function.update pool.running i p }

theorem running_withProcess (pool : Pool ι Λ S R σ ε α) (i j : ι)
    (p : Option (Λ × Process S R σ ε α)) :
    (pool.withProcess i p).running j = if j = i then p else pool.running j :=
  Function.update_apply ..

section Step

variable (act : S → σ → R × σ) (r : R) (e : ε)

/-- What an event does to the pool. -/
def step (pool : Pool ι Λ S R σ ε α) : Event ι Λ S R σ ε α → Pool ι Λ S R σ ε α
  | .start i l p => if (pool.running i).isSome then pool else pool.withProcess i (some (l, p))
  | .turn i =>
      match pool.running i with
      | none => pool
      | some (l, p) =>
          { pool.withProcess i (some (l, (p.turn act pool.state).1)) with
            state := (p.turn act pool.state).2 }
  | .fault i =>
      match pool.running i with
      | none => pool
      | some (l, p) => pool.withProcess i (some (l, p.fault r e))
  | .drop i => pool.withProcess i none

variable (rely : ι → σ → σ → Prop) (I : ι → Λ → S → σ → Prop)
  (Q : ι → Λ → Except ε α → σ → Prop)

/-- All processes of a pool are robust. -/
def Sound (pool : Pool ι Λ S R σ ε α) : Prop :=
  ∀ i l p, pool.running i = some (l, p) → Robust act r e (rely i) (I i l) (Q i l) p pool.state

end Step

variable {act : S → σ → R × σ} {r : R} {e : ε} {rely : ι → σ → σ → Prop}
  {I : ι → Λ → S → σ → Prop} {Q : ι → Λ → Except ε α → σ → Prop} {pool : Pool ι Λ S R σ ε α}

theorem Sound.withProcess (h : pool.Sound act r e rely I Q) {i : ι}
    {p : Option (Λ × Process S R σ ε α)}
    (hp : ∀ l q, p = some (l, q) → Robust act r e (rely i) (I i l) (Q i l) q pool.state) :
    (pool.withProcess i p).Sound act r e rely I Q := by
  intro j l q hj
  rw [running_withProcess] at hj
  split at hj
  · rename_i hij
    subst hij
    exact hp l q hj
  · exact h j l q hj

/-- A process that runs after an event ran before it, or begins with it. -/
theorem running_step {event : Event ι Λ S R σ ε α} {i : ι} {l : Λ} {p : Process S R σ ε α}
    (h : (pool.step act r e event).running i = some (l, p)) :
    (∃ q, pool.running i = some (l, q)) ∨ event = .start i l p := by
  cases event with
  | start j m q =>
      rw [step] at h
      split at h
      · exact .inl ⟨p, h⟩
      · rw [running_withProcess] at h
        split at h
        · rename_i hij
          cases h
          rw [hij]
          exact .inr rfl
        · exact .inl ⟨p, h⟩
  | turn j =>
      rw [step] at h
      split at h
      · exact .inl ⟨p, h⟩
      · rename_i m q hj
        have h' : (pool.withProcess j (some (m, (q.turn act pool.state).1))).running i =
            some (l, p) := h
        rw [running_withProcess] at h'
        split at h'
        · rename_i hij
          cases h'
          exact .inl ⟨q, by rw [hij, hj]⟩
        · exact .inl ⟨p, h'⟩
  | fault j =>
      rw [step] at h
      split at h
      · exact .inl ⟨p, h⟩
      · rename_i m q hj
        rw [running_withProcess] at h
        split at h
        · rename_i hij
          cases h
          exact .inl ⟨q, by rw [hij, hj]⟩
        · exact .inl ⟨p, h⟩
  | drop j =>
      rw [step, running_withProcess] at h
      split at h
      · cases h
      · exact .inl ⟨p, h⟩

/-- What an event does to the state. -/
theorem Sound.state_step (hrely : ∀ i, Interference (rely i)) (h : pool.Sound act r e rely I Q)
    (event : Event ι Λ S R σ ε α) : (pool.step act r e event).state = pool.state ∨
      ∃ i l p st, event = .turn i ∧ pool.running i = some (l, p) ∧ I i l st pool.state ∧
        (pool.step act r e event).state = (act st pool.state).2 := by
  cases event with
  | start i l p =>
      rw [step]
      split <;> exact .inl rfl
  | turn i =>
      rw [step]
      split
      · exact .inl rfl
      · rename_i l p hi
        rcases (h i l p hi).turn_state (hrely i) with hsame | ⟨st, hI, hstate⟩
        · exact .inl hsame
        · exact .inr ⟨i, l, p, st, rfl, hi, hI, hstate⟩
  | fault i =>
      rw [step]
      split <;> exact .inl rfl
  | drop i => exact .inl rfl

/-- **The rule of a pool.**  Where the steps of a process are what the others rely on, every
event keeps all processes robust. -/
theorem Sound.step (hrely : ∀ i, Interference (rely i)) (h : pool.Sound act r e rely I Q)
    (hothers : ∀ i j l p st, i ≠ j → pool.running i = some (l, p) → I i l st pool.state →
      rely j pool.state (act st pool.state).2)
    (event : Event ι Λ S R σ ε α)
    (hstart : ∀ i l p, event = .start i l p →
      Robust act r e (rely i) (I i l) (Q i l) p pool.state) :
    (pool.step act r e event).Sound act r e rely I Q := by
  cases event with
  | start i l p =>
      rw [Pool.step]
      split
      · exact h
      · refine h.withProcess fun l' q hq => ?_
        cases hq
        exact hstart i l p rfl
  | turn i =>
      rw [Pool.step]
      split
      · exact h
      · rename_i l p hi
        intro j l' q hj
        have hj' : (pool.withProcess i (some (l, (p.turn act pool.state).1))).running j =
            some (l', q) := hj
        rw [running_withProcess] at hj'
        split at hj'
        · rename_i hij
          subst hij
          cases hj'
          exact (h j l p hi).turn (hrely j)
        · rename_i hij
          have hq := h j l' q hj'
          show Robust act r e (rely j) (I j l') (Q j l') q (p.turn act pool.state).2
          rcases (h i l p hi).turn_state (hrely i) with hsame | ⟨st, hI, hstate⟩
          · rw [hsame]
            exact hq
          · rw [hstate]
            exact hq.stable (hrely j) (hothers i j l p st (Ne.symm hij) hi hI)
  | fault i =>
      rw [Pool.step]
      split
      · exact h
      · rename_i l p hi
        refine h.withProcess fun l' q hq => ?_
        cases hq
        exact (h i l p hi).fault (hrely i)
  | drop i => exact h.withProcess nofun

end Pool
end MyVault
