/-!
# Processes that are cut off

A `Process` is a program whose effects are steps, carried out one at a time by what it
runs on; between two steps it may look at the state.  A process that is cut off has done
its first steps and does no other, so what can be found after a crash is what stands
between two steps.

`Safe act I Q p s` says both what is found there and what the process comes to: before
every step the state satisfies `I`, which may depend on the step that would be next, and
at the end the result and the state satisfy `Q`.  A process is proved safe from its parts
(`Safe.bind`), and a safe process is one of which every partial run says so
(`Safe.now`, `Safe.advance`, `Safe.finish`).
-/

namespace MyVault

/-- A program that does the steps `S`, whose answers are `R`. -/
inductive Process (S R σ ε α : Type) where
  | done (result : Except ε α)
  | look (next : σ → Process S R σ ε α)
  | step (s : S) (next : R → Process S R σ ε α)

namespace Process

variable {S R σ ε α β : Type}

/-- One process after another. -/
protected def bind : Process S R σ ε α → (α → Process S R σ ε β) → Process S R σ ε β
  | done (.ok a), f => f a
  | done (.error e), _ => done (.error e)
  | look next, f => look fun s => (next s).bind f
  | step s next, f => step s fun r => (next r).bind f

instance : Monad (Process S R σ ε) where
  pure a := done (.ok a)
  bind := Process.bind

/-- `return Err(e)`. -/
def fail (e : ε) : Process S R σ ε α := done (.error e)

/-- The `?` on a result at hand. -/
def lift (x : Except ε α) : Process S R σ ε α := done x

/-- What the state says. -/
def ask (f : σ → Except ε α) : Process S R σ ε α := look fun s => done (f s)

/-- A step and its answer. -/
def perform (s : S) : Process S R σ ε R := step s fun r => done (.ok r)

/-- The `?` on the answer of a step. -/
def io (s : S) : Process S (Except ε α) σ ε α := step s done

/-- The result of a process, whatever it is. -/
def attempt : Process S R σ ε α → Process S R σ ε (Except ε α)
  | done x => done (.ok x)
  | look next => look fun s => (next s).attempt
  | step s next => step s fun r => (next r).attempt

/-! ## Partial runs -/

/-- The step a process does next. -/
def next : Process S R σ ε α → σ → Option S
  | done _, _ => none
  | look k, s => (k s).next s
  | step st _, _ => some st

/-- What a process that has done all its steps has come to. -/
def result : Process S R σ ε α → σ → Option (Except ε α)
  | done x, _ => some x
  | look k, s => (k s).result s
  | step _ _, _ => none

variable (act : S → σ → R × σ)

/-- The next step, and what is left to do. -/
def advance : Process S R σ ε α → σ → Process S R σ ε α × σ
  | done x, s => (done x, s)
  | look k, s => (k s).advance s
  | step st k, s => (k (act st s).1, (act st s).2)

/-- All steps. -/
def finish : Process S R σ ε α → σ → Except ε α × σ
  | done x, s => (x, s)
  | look k, s => (k s).finish s
  | step st k, s => (k (act st s).1).finish (act st s).2

/-- What every step keeps, a process keeps. -/
theorem advance_keeps {P : σ → Prop} (hact : ∀ st s, P s → P (act st s).2)
    (p : Process S R σ ε α) {s : σ} (h : P s) : P (p.advance act s).2 := by
  induction p generalizing s with
  | done x => exact h
  | look k ih => exact ih s h
  | step st k _ => exact hact st s h

/-- A process that has not come to its end takes its next step. -/
theorem advance_of_result (p : Process S R σ ε α) {s : σ} (h : p.result s = none) :
    ∃ st, p.next s = some st ∧ (p.advance act s).2 = (act st s).2 := by
  induction p generalizing s with
  | done x => exact nomatch h
  | look k ih => exact ih s h
  | step st k _ => exact ⟨st, rfl, rfl⟩

/-! ### Processes that run alone -/

section Alone

variable {act} {s t : σ} {p : Process S R σ ε α}

theorem finish_bind_ok {f : α → Process S R σ ε β} {a : α} (h : p.finish act s = (.ok a, t)) :
    (p >>= f).finish act s = (f a).finish act t := by
  show (p.bind f).finish act s = _
  induction p generalizing s with
  | done x =>
      cases h
      rfl
  | look k ih => exact ih s h
  | step st k ih => exact ih _ h

theorem finish_bind_error {f : α → Process S R σ ε β} {e : ε}
    (h : p.finish act s = (.error e, t)) : (p >>= f).finish act s = (.error e, t) := by
  show (p.bind f).finish act s = _
  induction p generalizing s with
  | done x =>
      cases h
      rfl
  | look k ih => exact ih s h
  | step st k ih => exact ih _ h

/-- A sequence that succeeds is a success of each part. -/
theorem of_finish_bind {f : α → Process S R σ ε β} {b : β}
    (h : (p >>= f).finish act s = (.ok b, t)) :
    ∃ a u, p.finish act s = (.ok a, u) ∧ (f a).finish act u = (.ok b, t) := by
  cases hp : p.finish act s with
  | mk x u =>
      cases x with
      | ok a => exact ⟨a, u, rfl, (finish_bind_ok hp).symm.trans h⟩
      | error e =>
          rw [finish_bind_error hp] at h
          cases h

theorem finish_attempt (p : Process S R σ ε α) (s : σ) :
    p.attempt.finish act s = (.ok (p.finish act s).1, (p.finish act s).2) := by
  induction p generalizing s with
  | done x => rfl
  | look k ih => exact ih s s
  | step st k ih => exact ih _ _

theorem finish_ask_bind {f : σ → Except ε α} {k : α → Process S R σ ε β} {a : α}
    (h : f s = .ok a) : (ask f >>= k).finish act s = (k a).finish act s :=
  finish_bind_ok (Prod.ext h rfl)

theorem finish_perform_bind {st : S} {k : R → Process S R σ ε β} {r : R}
    (h : act st s = (r, t)) : (perform st >>= k).finish act s = (k r).finish act t := by
  show (k (act st s).1).finish act (act st s).2 = _
  rw [h]

theorem finish_lift_bind {x : Except ε α} {k : α → Process S R σ ε β} {a : α} (h : x = .ok a) :
    (lift x >>= k).finish act s = (k a).finish act s :=
  finish_bind_ok (Prod.ext h rfl)

/-- Looks in front of looks. -/
theorem finish_look_bind {x : Except ε α} {k : α → Process S R σ ε β} {g : α → Except ε β}
    (hp : p.finish act s = (x, s)) (hk : ∀ a, x = .ok a → (k a).finish act s = (g a, s)) :
    (p >>= k).finish act s = (x >>= g, s) := by
  cases x with
  | ok a =>
      rw [finish_bind_ok hp, hk a rfl]
      rfl
  | error e =>
      rw [finish_bind_error hp]
      rfl

/-- What is made of a success. -/
theorem finish_map (p : Process S R σ ε α) (f : α → β) (s : σ) :
    (p >>= fun a => pure (f a)).finish act s = ((p.finish act s).1.map f, (p.finish act s).2) := by
  cases hp : p.finish act s with
  | mk x u =>
      cases x with
      | ok a => exact finish_bind_ok hp
      | error e => exact finish_bind_error hp

/-- The result of a process is looked at. -/
theorem finish_attempt_bind {k : Except ε α → Process S R σ ε β} {x : Except ε α}
    (h : p.finish act s = (x, t)) : (p.attempt >>= k).finish act s = (k x).finish act t := by
  refine finish_bind_ok ?_
  rw [finish_attempt, h]

/-- A look in front of a success was passed. -/
theorem of_finish_look_bind {f : α → Process S R σ ε β} {x : Except ε α} {b : β}
    (hp : p.finish act s = (x, s)) (h : (p >>= f).finish act s = (.ok b, t)) :
    ∃ a, x = .ok a ∧ (f a).finish act s = (.ok b, t) := by
  obtain ⟨a, u, ha, hrest⟩ := of_finish_bind h
  obtain ⟨rfl, rfl⟩ := Prod.mk.inj (hp.symm.trans ha)
  exact ⟨a, rfl, hrest⟩

end Alone

/-! ## Safe processes -/

/-- Before every step there is `I`, and at the end there is `Q`. -/
def Safe (I : S → σ → Prop) (Q : Except ε α → σ → Prop) : Process S R σ ε α → σ → Prop
  | done x, s => Q x s
  | look k, s => Safe I Q (k s) s
  | step st k, s => I st s ∧ Safe I Q (k (act st s).1) (act st s).2

namespace Safe

variable {act} {I I' : S → σ → Prop} {Q Q' : Except ε α → σ → Prop} {s : σ}

theorem mono {p : Process S R σ ε α} (h : Safe act I' Q' p s) (hI : ∀ st t, I' st t → I st t)
    (hQ : ∀ x t, Q' x t → Q x t) : Safe act I Q p s := by
  induction p generalizing s with
  | done x => exact hQ x s h
  | look k ih => exact ih s h
  | step st k ih => exact ⟨hI st s h.1, ih _ h.2⟩

/-- **The rule of a sequence.**  The second part starts where the first has ended, and an
error of the first part is one of the whole. -/
theorem bind {p : Process S R σ ε α} {f : α → Process S R σ ε β} {Q : Except ε β → σ → Prop}
    (hp : Safe act I Q' p s) (hok : ∀ a t, Q' (.ok a) t → Safe act I Q (f a) t)
    (herror : ∀ e t, Q' (.error e) t → Q (.error e) t) : Safe act I Q (p >>= f) s := by
  show Safe act I Q (p.bind f) s
  induction p generalizing s with
  | done x =>
      cases x with
      | ok a => exact hok a s hp
      | error e => exact herror e s hp
  | look k ih => exact ih s hp
  | step st k ih => exact ⟨hp.1, ih _ hp.2⟩

theorem lift {x : Except ε α} (h : Q x s) : Safe act I Q (Process.lift x) s := h

theorem ask {f : σ → Except ε α} (h : Q (f s) s) : Safe act I Q (Process.ask f) s := h

theorem perform {st : S} {Q : Except ε R → σ → Prop} (hI : I st s)
    (h : Q (.ok (act st s).1) (act st s).2) : Safe act I Q (Process.perform st) s := ⟨hI, h⟩

theorem io {act : S → σ → Except ε α × σ} {I : S → σ → Prop} {Q : Except ε α → σ → Prop} {st : S}
    (hI : I st s) (h : Q (act st s).1 (act st s).2) : Safe act I Q (Process.io st) s := ⟨hI, h⟩

/-! ### One step in front of the rest -/

theorem ask_bind {f : σ → Except ε α} {k : α → Process S R σ ε β} {Q : Except ε β → σ → Prop}
    {a : α} (h : f s = .ok a) (hk : Safe act I Q (k a) s) :
    Safe act I Q (Process.ask f >>= k) s := by
  show Safe act I Q (Process.bind (done (f s)) k) s
  rw [h]
  exact hk

theorem ask_bind_error {f : σ → Except ε α} {k : α → Process S R σ ε β}
    {Q : Except ε β → σ → Prop} {e : ε} (h : f s = .error e) (hQ : Q (.error e) s) :
    Safe act I Q (Process.ask f >>= k) s := by
  show Safe act I Q (Process.bind (done (f s)) k) s
  rw [h]
  exact hQ

theorem lift_bind {x : Except ε α} {k : α → Process S R σ ε β} {Q : Except ε β → σ → Prop}
    {a : α} (h : x = .ok a) (hk : Safe act I Q (k a) s) :
    Safe act I Q (Process.lift x >>= k) s := by
  rw [h]
  exact hk

theorem lift_bind_error {x : Except ε α} {k : α → Process S R σ ε β} {Q : Except ε β → σ → Prop}
    {e : ε} (h : x = .error e) (hQ : Q (.error e) s) : Safe act I Q (Process.lift x >>= k) s := by
  rw [h]
  exact hQ

theorem perform_bind {st : S} {k : R → Process S R σ ε β} {Q : Except ε β → σ → Prop} {r : R}
    {t : σ} (hI : I st s) (h : act st s = (r, t)) (hk : Safe act I Q (k r) t) :
    Safe act I Q (Process.perform st >>= k) s := by
  refine ⟨hI, ?_⟩
  rw [h]
  exact hk

theorem io_bind {act : S → σ → Except ε α × σ} {I : S → σ → Prop} {st : S}
    {k : α → Process S (Except ε α) σ ε β} {Q : Except ε β → σ → Prop} {a : α} {t : σ}
    (hI : I st s) (h : act st s = (.ok a, t)) (hk : Safe act I Q (k a) t) :
    Safe act I Q (Process.io st >>= k) s := by
  refine ⟨hI, ?_⟩
  rw [h]
  exact hk

theorem attempt {p : Process S R σ ε α} {Q : Except ε (Except ε α) → σ → Prop}
    (h : Safe act I (fun x t => Q (.ok x) t) p s) : Safe act I Q p.attempt s := by
  induction p generalizing s with
  | done x => exact h
  | look k ih => exact ih s h
  | step st k ih => exact ⟨h.1, ih _ h.2⟩

/-! ### What a safe process is good for -/

theorem advance {p : Process S R σ ε α} (h : Safe act I Q p s) :
    Safe act I Q (p.advance act s).1 (p.advance act s).2 := by
  induction p generalizing s with
  | done x => exact h
  | look k ih => exact ih s h
  | step st k _ => exact h.2

theorem of_result {p : Process S R σ ε α} {x : Except ε α} (h : Safe act I Q p s)
    (hresult : p.result s = some x) : Q x s := by
  induction p generalizing s with
  | done y =>
      cases hresult
      exact h
  | look k ih => exact ih s h hresult
  | step st k _ => exact nomatch hresult

/-- What holds before every step and at the end holds now. -/
theorem now {p : Process S R σ ε α} {P : σ → Prop} (h : Safe act I Q p s)
    (hI : ∀ st t, I st t → P t) (hQ : ∀ x t, Q x t → P t) : P s := by
  induction p generalizing s with
  | done x => exact hQ x s h
  | look k ih => exact ih s h
  | step st k _ => exact hI st s h.1

/-- A process that may be cut off where it stands, or has come to its end. -/
theorem now_of_next {p : Process S R σ ε α} {P : σ → Prop} (h : Safe act I Q p s)
    (hI : ∀ st, p.next s = some st → I st s → P s) (hQ : ∀ x t, Q x t → P t) : P s := by
  induction p generalizing s with
  | done x => exact hQ x s h
  | look k ih => exact ih s h hI
  | step st k _ => exact hI st rfl h.1

/-- What holds before every step holds before the next one. -/
theorem of_next {p : Process S R σ ε α} {st : S} (h : Safe act I Q p s)
    (hnext : p.next s = some st) : I st s := by
  induction p generalizing s with
  | done x => exact nomatch hnext
  | look k ih => exact ih s h hnext
  | step st' k _ =>
      cases hnext
      exact h.1

theorem finish {p : Process S R σ ε α} (h : Safe act I Q p s) :
    Q (p.finish act s).1 (p.finish act s).2 := by
  induction p generalizing s with
  | done x => exact h
  | look k ih => exact ih s h
  | step st k ih => exact ih _ h.2

end Safe
end Process
end MyVault
