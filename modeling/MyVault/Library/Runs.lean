import Mathlib.Data.List.Induction

/-!
# Runs of a deterministic system

A system is a step function on a state; a run is a list of operations.  There are
six rules.  An invariant that every step keeps holds after every run
(`run_induction`).  An invariant that a step keeps under a condition holds after
every run whose steps meet the condition (`run_induction_of_meets`).  Where a step
that misses the condition breaks it, the runs that meet the condition are exactly those
it holds all along (`meets_iff_forall_prefix`), and the same for what is said of steps
(`meets_of_meets`, `meets_iff_meets`).  What holds before a run and not after it ends in
one of its steps (`exists_turn`).  And what is there after a run was once begun, and has been
there since (`exists_since`).
-/

namespace MyVault
namespace Runs

variable {σ ι α : Type} {step : σ → ι → σ}

/-- The state after the operations, in order. -/
def run (step : σ → ι → σ) (s : σ) (ops : List ι) : σ := ops.foldl step s

@[simp] theorem run_nil (s : σ) : run step s [] = s := rfl

@[simp] theorem run_cons (s : σ) (op : ι) (ops : List ι) :
    run step s (op :: ops) = run step (step s op) ops := rfl

theorem run_append (s : σ) (ops ops' : List ι) :
    run step s (ops ++ ops') = run step (run step s ops) ops' := List.foldl_append

theorem run_concat (s : σ) (ops : List ι) (op : ι) :
    run step s (ops ++ [op]) = step (run step s ops) op := by
  rw [run_append, run_cons, run_nil]

/-- Every step of the run meets the condition on its state and its operation. -/
def Meets (step : σ → ι → σ) (C : σ → ι → Prop) : σ → List ι → Prop
  | _, [] => True
  | s, op :: ops => C s op ∧ Meets step C (step s op) ops

instance decidableMeets {C : σ → ι → Prop} [∀ s op, Decidable (C s op)] :
    ∀ (s : σ) (ops : List ι), Decidable (Meets step C s ops)
  | _, [] => .isTrue trivial
  | s, op :: ops => @instDecidableAnd _ _ _ (decidableMeets (step s op) ops)

theorem meets_append {C : σ → ι → Prop} {s : σ} {ops ops' : List ι} :
    Meets step C s (ops ++ ops') ↔ Meets step C s ops ∧ Meets step C (run step s ops) ops' := by
  induction ops generalizing s with
  | nil => exact (and_iff_right trivial).symm
  | cons op ops ih =>
      rw [List.cons_append, Meets, Meets, ih, run_cons, and_assoc]

theorem run_induction_of_meets {P : σ → Prop} {C : σ → ι → Prop}
    (hstep : ∀ s op, P s → C s op → P (step s op)) {s : σ} {ops : List ι} (hs : P s)
    (hops : Meets step C s ops) : P (run step s ops) := by
  induction ops generalizing s with
  | nil => exact hs
  | cons op ops ih => exact ih (hstep s op hs hops.1) hops.2

theorem run_induction {P : σ → Prop} (hstep : ∀ s op, P s → P (step s op)) {s : σ}
    (ops : List ι) (hs : P s) : P (run step s ops) := by
  induction ops generalizing s with
  | nil => exact hs
  | cons op ops ih => exact ih (hstep s op hs)

/-- `I` is the invariant behind `P`: the condition keeps it, and a step that misses the
condition breaks `P`. -/
theorem meets_iff_forall_prefix {I P : σ → Prop} {C : σ → ι → Prop}
    (hholds : ∀ s, I s → P s) (hkeeps : ∀ s op, I s → C s op → I (step s op))
    (hbreaks : ∀ s op, I s → P (step s op) → C s op) {s : σ} {ops : List ι} (hs : I s) :
    Meets step C s ops ↔ ∀ pre, pre <+: ops → P (run step s pre) := by
  constructor
  · rintro hmeets pre ⟨post, rfl⟩
    exact hholds _ (run_induction_of_meets hkeeps hs (meets_append.mp hmeets).1)
  · induction ops generalizing s with
    | nil => exact fun _ => trivial
    | cons op ops ih =>
        intro h
        have hop : C s op := hbreaks s op hs (h [op] (List.prefix_append [op] ops))
        refine ⟨hop, ih (hkeeps s op hs hop) fun pre hpre => ?_⟩
        exact h (op :: pre) (List.cons_prefix_cons.mpr ⟨rfl, hpre⟩)

/-- `I` is the invariant behind `K`: under the condition a step keeps both. -/
theorem meets_of_meets {I : σ → Prop} {C K : σ → ι → Prop}
    (hkeeps : ∀ s op, I s → C s op → I (step s op) ∧ K s op) {s : σ} {ops : List ι} (hs : I s)
    (hops : Meets step C s ops) : Meets step K s ops := by
  induction ops generalizing s with
  | nil => trivial
  | cons op ops ih =>
      obtain ⟨hnext, hkept⟩ := hkeeps s op hs hops.1
      exact ⟨hkept, ih hnext hops.2⟩

/-- The same where a step that misses the condition breaks `K`. -/
theorem meets_iff_meets {I : σ → Prop} {C K : σ → ι → Prop}
    (hkeeps : ∀ s op, I s → C s op → I (step s op) ∧ K s op)
    (hbreaks : ∀ s op, I s → K s op → C s op) {s : σ} {ops : List ι} (hs : I s) :
    Meets step C s ops ↔ Meets step K s ops := by
  refine ⟨meets_of_meets hkeeps hs, ?_⟩
  induction ops generalizing s with
  | nil => exact fun _ => trivial
  | cons op ops ih =>
      rintro ⟨hkept, hrest⟩
      have hop := hbreaks s op hs hkept
      exact ⟨hop, ih (hkeeps s op hs hop).1 hrest⟩

/-- What holds before a run and not after it ends in one of its steps. -/
theorem exists_turn (P : σ → Prop) {s : σ} {ops : List ι} (hs : P s)
    (h : ¬ P (run step s ops)) : ∃ pre op post, ops = pre ++ op :: post ∧
      P (run step s pre) ∧ ¬ P (step (run step s pre) op) := by
  induction ops generalizing s with
  | nil => exact absurd hs h
  | cons op ops ih =>
      by_cases hnext : P (step s op)
      · obtain ⟨pre, turn, post, rfl, hbefore, hafter⟩ := ih hnext h
        exact ⟨op :: pre, turn, post, rfl, hbefore, hafter⟩
      · exact ⟨[], op, ops, rfl, hs, hnext⟩

/-- What is active after a run was begun by a step of it and was active ever since. -/
theorem exists_since {active : σ → Option α} {Begins : σ → ι → α → Prop} {s : σ}
    (hinit : active s = none)
    (hstep : ∀ pre op a, active (step (run step s pre) op) = some a →
      active (run step s pre) = some a ∨ Begins (run step s pre) op a)
    {ops : List ι} {a : α} (h : active (run step s ops) = some a) :
    ∃ pre op post, ops = pre ++ op :: post ∧ Begins (run step s pre) op a ∧
      ∀ mid, mid <+: post → active (run step s (pre ++ op :: mid)) = some a := by
  induction ops using List.reverseRecOn with
  | nil =>
      rw [run_nil, hinit] at h
      cases h
  | append_singleton ops last ih =>
      have hlast : active (step (run step s ops) last) = some a := by rwa [run_concat] at h
      rcases hstep ops last a hlast with hbefore | hbegin
      · obtain ⟨pre, op, post, rfl, hbegin, hsince⟩ := ih hbefore
        refine ⟨pre, op, post ++ [last], by simp, hbegin, fun mid hmid => ?_⟩
        rcases List.prefix_concat_iff.mp hmid with rfl | hmid
        · rw [← h]
          congr 2
          simp
        · exact hsince mid hmid
      · refine ⟨ops, last, [], rfl, hbegin, fun mid hmid => ?_⟩
        rw [List.prefix_nil.mp hmid]
        exact h

end Runs
end MyVault
