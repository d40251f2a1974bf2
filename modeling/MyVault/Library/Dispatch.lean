import MyVault.Library.Runs

/-!
# Items of work that are dispatched

An item enters and waits; a claim takes it; a taken item is completed, or a call
authorises it to wait again.  `Stage.Move` is what one step of a system may do to an
item, and a system that `Dispatches` makes no other moves.  So an item that was taken
waits again only after an authorisation (`authorised_of_waiting`), and a completed item
stays completed (`done_run`).
-/

namespace MyVault

/-- Where an item of work is. -/
inductive Stage where
  | absent
  | waiting
  | taken
  | done
  deriving DecidableEq, Repr

/-- What a step does to an item, and what kind of step it has to be for that. -/
inductive Stage.Move (Claims Authorises Completes : Prop) : Stage → Stage → Prop
  | stay (stage : Stage) : Move Claims Authorises Completes stage stage
  | enter : Move Claims Authorises Completes .absent .waiting
  | claim (h : Claims) : Move Claims Authorises Completes .waiting .taken
  | authorise (h : Authorises) : Move Claims Authorises Completes .taken .waiting
  | complete (h : Completes) : Move Claims Authorises Completes .taken .done

section Dispatches

variable {σ ι : Type}

/-- Every step of the system makes a move of the item. -/
def Dispatches (step : σ → ι → σ) (stage : σ → Stage) (Claims Authorises Completes : ι → Prop) :
    Prop :=
  ∀ s op, Stage.Move (Claims op) (Authorises op) (Completes op) (stage s) (stage (step s op))

/-- The operation authorises an item that was taken, and it waits again. -/
structure Rearms (step : σ → ι → σ) (stage : σ → Stage) (Authorises : ι → Prop) (s : σ)
    (op : ι) : Prop where
  authorises : Authorises op
  before : stage s = .taken
  after : stage (step s op) = .waiting

namespace Dispatches

open Runs

variable {step : σ → ι → σ} {stage : σ → Stage} {Claims Authorises Completes : ι → Prop}

/-- A completed item stays completed. -/
theorem done_run (h : Dispatches step stage Claims Authorises Completes) {s : σ} (ops : List ι)
    (hs : stage s = .done) : stage (run step s ops) = .done := by
  have hstep : ∀ s op, stage s = .done → stage (step s op) = .done := by
    intro s op hdone
    have hmove := h s op
    rw [hdone] at hmove
    generalize stage (step s op) = next at hmove
    cases hmove with
    | stay => rfl
  exact run_induction hstep ops hs

/-- An item that was taken waits again only after it was authorised. -/
theorem authorised_of_waiting (h : Dispatches step stage Claims Authorises Completes) {s : σ}
    {ops : List ι} (hs : stage s = .taken) (hops : stage (run step s ops) = .waiting) :
    ∃ pre op post, ops = pre ++ op :: post ∧
      Rearms step stage Authorises (run step s pre) op := by
  have hleft : ¬ stage (run step s ops) = .taken := by
    rw [hops]
    exact Stage.noConfusion
  obtain ⟨pre, op, post, rfl, hbefore, hafter⟩ :=
    exists_turn (fun s => stage s = .taken) hs hleft
  refine ⟨pre, op, post, rfl, ?_⟩
  have hmove := h (run step s pre) op
  rw [hbefore] at hmove
  cases hnext : stage (step (run step s pre) op) with
  | absent =>
      rw [hnext] at hmove
      nomatch hmove
  | waiting =>
      rw [hnext] at hmove
      cases hmove with
      | authorise hauthorises => exact ⟨hauthorises, hbefore, hnext⟩
  | taken => exact absurd hnext hafter
  | done =>
      have hdone := h.done_run post hnext
      rw [run_append, run_cons, hdone] at hops
      cases hops

end Dispatches
end Dispatches
end MyVault
