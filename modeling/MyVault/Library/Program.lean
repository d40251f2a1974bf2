import Mathlib.Data.List.Forall2
import Mathlib.Logic.Basic
import Mathlib.Order.Defs.Unbundled

/-!
# Programs over a database that may fail

A `Program` works on a state, and it may stop with an error.  What it has written
by then stays written; only `transaction` puts the old state back.  So whether a
failed call leaves anything behind is a question about the program, not about the
type.

`Program.exec` runs a program.  The lemmas named `exec_…_ok` turn a successful run
into what the program has read, checked and written.  `Keeps` and `Atomic` are the
other way to reason: properties of a program that follow from those of its parts.
They are classes, so that `infer_instance` walks through a program once its
definition is unfolded.
-/

namespace MyVault

/-! ## Checks without a state -/

namespace Check

variable {ε α β : Type}

theorem ok_bind (a : α) (f : α → Except ε β) : (Except.ok a >>= f) = f a := rfl

/-- A successful sequence is a success of each part. -/
theorem bind_eq_ok {x : Except ε α} {f : α → Except ε β} {b : β} :
    (x >>= f) = .ok b ↔ ∃ a, x = .ok a ∧ f a = .ok b := by
  cases x with
  | error e => exact iff_of_false (fun h => nomatch h) (fun ⟨_, h, _⟩ => nomatch h)
  | ok a =>
      constructor
      · exact fun h => ⟨a, rfl, h⟩
      · rintro ⟨a', ha, h⟩
        cases ha
        exact h

theorem seq_eq_ok {x : Except ε Unit} {f : Unit → Except ε β} {b : β} :
    (x >>= f) = .ok b ↔ x = .ok () ∧ f () = .ok b := by
  rw [bind_eq_ok]
  constructor
  · rintro ⟨⟨⟩, h⟩
    exact h
  · exact fun h => ⟨(), h⟩

/-- `if c { return Err(e); }`. -/
def reject (c : Prop) [Decidable c] (e : ε) : Except ε Unit := if c then .error e else .ok ()

theorem reject_eq_ok {c : Prop} [Decidable c] {e : ε} : reject c e = .ok () ↔ ¬ c := by
  rw [reject]
  split
  · rename_i h
    simp [h]
  · rename_i h
    simp [h]

/-- `if c { return Err(e); }` in front of what follows. -/
theorem ite_error_eq_ok {c : Prop} [Decidable c] {e : ε} {x : Except ε α} {a : α} :
    (if c then .error e else x) = .ok a ↔ ¬ c ∧ x = .ok a := by
  split
  · rename_i h
    exact iff_of_false (fun h => nomatch h) fun hnot => hnot.1 h
  · rename_i h
    exact (and_iff_right h).symm

/-- A check of every element. -/
def each (f : α → Except ε Unit) : List α → Except ε Unit
  | [] => .ok ()
  | x :: xs => do
    f x
    each f xs

theorem each_eq_ok {f : α → Except ε Unit} {xs : List α} :
    each f xs = .ok () ↔ ∀ x ∈ xs, f x = .ok () := by
  induction xs with
  | nil => simp [each]
  | cons x xs ih => rw [each, seq_eq_ok, ih, List.forall_mem_cons]

/-- The results for every element. -/
def mapEach (f : α → Except ε β) : List α → Except ε (List β)
  | [] => .ok []
  | x :: xs => do
    let y ← f x
    let ys ← mapEach f xs
    .ok (y :: ys)

theorem mapEach_eq_ok {f : α → Except ε β} {xs : List α} {ys : List β} :
    mapEach f xs = .ok ys ↔ List.Forall₂ (fun x y => f x = .ok y) xs ys := by
  induction xs generalizing ys with
  | nil => rw [mapEach, Except.ok.injEq, List.forall₂_nil_left_iff, eq_comm]
  | cons x xs ih =>
      rw [mapEach, bind_eq_ok]
      constructor
      · rintro ⟨y, hy, h⟩
        obtain ⟨zs, hzs, h⟩ := bind_eq_ok.mp h
        cases h
        exact .cons hy (ih.mp hzs)
      · rintro (_ | ⟨hy, hzs⟩)
        exact ⟨_, hy, bind_eq_ok.mpr ⟨_, ih.mpr hzs, rfl⟩⟩

/-- Where every element succeeds, a sequence of calls is a map. -/
theorem mapEach_eq_map {f : α → Except ε β} {g : α → β} {xs : List α}
    (h : ∀ x ∈ xs, f x = .ok (g x)) : mapEach f xs = .ok (xs.map g) := by
  rw [mapEach_eq_ok, List.forall₂_map_right_iff, List.forall₂_same]
  exact h

theorem exists_mapEach_ok {f : α → Except ε β} {xs : List α} (h : ∀ x ∈ xs, ∃ y, f x = .ok y) :
    ∃ ys, mapEach f xs = .ok ys := by
  induction xs with
  | nil => exact ⟨[], rfl⟩
  | cons x xs ih =>
      obtain ⟨y, hy⟩ := h x List.mem_cons_self
      obtain ⟨ys, hys⟩ := ih fun x hx => h x (List.mem_cons_of_mem _ hx)
      exact ⟨y :: ys, mapEach_eq_ok.mpr (.cons hy (mapEach_eq_ok.mp hys))⟩

theorem exists_of_mem_left {R : α → β → Prop} {xs : List α} {ys : List β}
    (h : List.Forall₂ R xs ys) {x : α} (hx : x ∈ xs) : ∃ y ∈ ys, R x y := by
  induction h with
  | nil => cases hx
  | cons hR _ ih =>
      rcases List.mem_cons.mp hx with rfl | hx
      · exact ⟨_, List.mem_cons_self, hR⟩
      · obtain ⟨y, hy, hxy⟩ := ih hx
        exact ⟨y, List.mem_cons_of_mem _ hy, hxy⟩

theorem exists_of_mem_right {R : α → β → Prop} {xs : List α} {ys : List β}
    (h : List.Forall₂ R xs ys) {y : β} (hy : y ∈ ys) : ∃ x ∈ xs, R x y := by
  have hflip : List.Forall₂ (flip R) ys xs := List.Forall₂.flip h
  exact exists_of_mem_left hflip hy

end Check

/-! ## Programs -/

/-- A computation on a state that may fail; the state a failure leaves is kept. -/
abbrev Program (σ ε α : Type) := ExceptT ε (StateM σ) α

namespace Program

variable {σ ε α β : Type}

/-- The result of a run and the state it ends in. -/
def exec (p : Program σ ε α) (s : σ) : Except ε α × σ := (ExceptT.run p).run s

/-- Reads the state. -/
def read (f : σ → α) : Program σ ε α := ExceptT.mk fun s => (.ok (f s), s)

/-- Writes the state. -/
def write (f : σ → σ) : Program σ ε Unit := ExceptT.mk fun s => (.ok (), f s)

/-- `if c { return Err(e); }`. -/
def reject (c : Prop) [Decidable c] (e : ε) : Program σ ε Unit := if c then throw e else pure ()

/-- Fails unless the condition holds. -/
def require (c : Prop) [Decidable c] (e : ε) : Program σ ε Unit := if c then pure () else throw e

/-- `Option::ok_or` and `?`. -/
def the (o : Option α) (e : ε) : Program σ ε α :=
  match o with
  | some a => pure a
  | none => throw e

/-- The `?` after a check that does not look at the state. -/
def lift (x : Except ε α) : Program σ ε α := ExceptT.mk fun s => (x, s)

/-- Runs a program and puts the old state back if it fails. -/
def transaction (p : Program σ ε α) : Program σ ε α := ExceptT.mk fun s =>
  match exec p s with
  | (.ok a, t) => (.ok a, t)
  | (.error e, _) => (.error e, s)

/-- `map_err`. -/
def mapError {ε' : Type} (f : ε → ε') (p : Program σ ε α) : Program σ ε' α :=
  ExceptT.mk fun s => ((exec p s).1.mapError f, (exec p s).2)

/-- Runs a program and gives back its result, whatever it is. -/
def catching {ε' : Type} (p : Program σ ε α) : Program σ ε' (Except ε α) :=
  ExceptT.mk fun s => (.ok (exec p s).1, (exec p s).2)

/-! ## Successful runs -/

section Exec

variable {s t : σ}

@[simp] theorem exec_pure (a : α) : exec (pure a : Program σ ε α) s = (.ok a, s) := rfl

@[simp] theorem exec_throw (e : ε) : exec (throw e : Program σ ε α) s = (.error e, s) := rfl

@[simp] theorem exec_read (f : σ → α) : exec (read f : Program σ ε α) s = (.ok (f s), s) := rfl

@[simp] theorem exec_write (f : σ → σ) : exec (write f : Program σ ε Unit) s = (.ok (), f s) := rfl

@[simp] theorem exec_lift (x : Except ε α) : exec (lift x : Program σ ε α) s = (x, s) := rfl

theorem exec_bind (p : Program σ ε α) (f : α → Program σ ε β) :
    exec (p >>= f) s =
      match exec p s with
      | (.ok a, r) => exec (f a) r
      | (.error e, r) => (.error e, r) := by
  show (match exec p s with
    | (x, r) => ExceptT.bindCont f x r) = _
  cases exec p s with
  | mk x r => cases x <;> rfl

theorem exec_bind_ok {p : Program σ ε α} {f : α → Program σ ε β} {b : β} :
    exec (p >>= f) s = (.ok b, t) ↔ ∃ a r, exec p s = (.ok a, r) ∧ exec (f a) r = (.ok b, t) := by
  rw [exec_bind]
  cases exec p s with
  | mk x r => cases x <;> simp [and_assoc]

theorem exec_bind_error {p : Program σ ε α} {f : α → Program σ ε β} {e : ε} :
    exec (p >>= f) s = (.error e, t) ↔
      exec p s = (.error e, t) ∨
        ∃ a r, exec p s = (.ok a, r) ∧ exec (f a) r = (.error e, t) := by
  rw [exec_bind]
  cases exec p s with
  | mk x r => cases x <;> simp [and_assoc]

theorem exec_require_ok {c : Prop} [Decidable c] {e : ε} {u : Unit} :
    exec (require c e : Program σ ε Unit) s = (.ok u, t) ↔ c ∧ s = t := by
  rw [require]
  split
  · rename_i h
    simp [h]
  · rename_i h
    simp [h]

theorem exec_reject_ok {c : Prop} [Decidable c] {e : ε} {u : Unit} :
    exec (reject c e : Program σ ε Unit) s = (.ok u, t) ↔ ¬ c ∧ s = t := by
  rw [reject]
  split
  · rename_i h
    simp [h]
  · rename_i h
    simp [h]

theorem exec_the_ok {o : Option α} {e : ε} {a : α} :
    exec (the o e : Program σ ε α) s = (.ok a, t) ↔ o = some a ∧ s = t := by
  cases o with
  | none => simp [the]
  | some b => simp [the]

theorem exec_pure_ok {a b : α} :
    exec (pure a : Program σ ε α) s = (.ok b, t) ↔ a = b ∧ s = t := by simp

theorem exec_read_ok {f : σ → α} {a : α} :
    exec (read f : Program σ ε α) s = (.ok a, t) ↔ f s = a ∧ s = t := by simp

theorem exec_write_ok {f : σ → σ} {u : Unit} :
    exec (write f : Program σ ε Unit) s = (.ok u, t) ↔ f s = t := by simp

theorem exec_lift_ok {x : Except ε α} {a : α} :
    exec (lift x : Program σ ε α) s = (.ok a, t) ↔ x = .ok a ∧ s = t := by simp

theorem exec_mapError {ε' : Type} (f : ε → ε') (p : Program σ ε α) :
    exec (mapError f p) s = ((exec p s).1.mapError f, (exec p s).2) := rfl

theorem exec_mapError_ok {ε' : Type} {f : ε → ε'} {p : Program σ ε α} {a : α} :
    exec (mapError f p) s = (.ok a, t) ↔ exec p s = (.ok a, t) := by
  rw [exec_mapError]
  cases exec p s with
  | mk x r => cases x <;> simp [Except.mapError]

theorem exec_mapError_error {ε' : Type} {f : ε → ε'} {p : Program σ ε α} {e' : ε'} :
    exec (mapError f p) s = (.error e', t) ↔ ∃ e, exec p s = (.error e, t) ∧ f e = e' := by
  rw [exec_mapError]
  cases exec p s with
  | mk x r => cases x <;> simp [Except.mapError, and_comm]

theorem exec_catching {ε' : Type} (p : Program σ ε α) :
    exec (catching p : Program σ ε' (Except ε α)) s = (.ok (exec p s).1, (exec p s).2) := rfl

theorem exec_catching_ok {ε' : Type} {p : Program σ ε α} {x : Except ε α} :
    exec (catching p : Program σ ε' (Except ε α)) s = (.ok x, t) ↔ exec p s = (x, t) := by
  rw [exec_catching]
  cases exec p s with
  | mk y r => simp

theorem exec_forM_nil_ok {f : β → Program σ ε PUnit} {v : PUnit} :
    exec (([] : List β).forM f) s = (.ok v, t) ↔ s = t := by
  rw [List.forM, exec_pure_ok, and_iff_right rfl]

theorem exec_forM_cons_ok {x : β} {xs : List β} {f : β → Program σ ε PUnit} {v : PUnit} :
    exec ((x :: xs).forM f) s = (.ok v, t) ↔
      ∃ w r, exec (f x) s = (.ok w, r) ∧ exec (xs.forM f) r = (.ok v, t) := exec_bind_ok

/-- A loop of checks goes through exactly if every check does. -/
theorem exec_forM_checks_ok {xs : List β} {f : β → Program σ ε PUnit} {c : β → Prop} {v : PUnit}
    (hf : ∀ x r, exec (f x) s = (.ok v, r) ↔ c x ∧ s = r) :
    exec (xs.forM f) s = (.ok v, t) ↔ (∀ x ∈ xs, c x) ∧ s = t := by
  induction xs with
  | nil => rw [exec_forM_nil_ok, and_iff_right (List.forall_mem_nil c)]
  | cons x xs ih =>
      rw [exec_forM_cons_ok, List.forall_mem_cons, and_assoc, ← ih]
      constructor
      · rintro ⟨_, r, hrun, hrest⟩
        obtain ⟨hx, rfl⟩ := (hf x r).mp hrun
        exact ⟨hx, hrest⟩
      · exact fun ⟨hx, hrest⟩ => ⟨v, s, (hf x s).mpr ⟨hx, rfl⟩, hrest⟩

theorem exec_transaction (p : Program σ ε α) :
    exec (transaction p) s =
      match exec p s with
      | (.ok a, t) => (.ok a, t)
      | (.error e, _) => (.error e, s) := rfl

theorem exec_transaction_ok {p : Program σ ε α} {a : α} :
    exec (transaction p) s = (.ok a, t) ↔ exec p s = (.ok a, t) := by
  rw [exec_transaction]
  cases hp : exec p s with
  | mk x r => cases x <;> simp

/-- A failed transaction leaves the state as it was. -/
theorem exec_transaction_error {p : Program σ ε α} {e : ε} :
    exec (transaction p) s = (.error e, t) ↔ t = s ∧ ∃ r, exec p s = (.error e, r) := by
  rw [exec_transaction]
  cases hp : exec p s with
  | mk x r => cases x <;> simp [eq_comm, and_comm]

end Exec

/-! ## Relations a program keeps -/

/-- Whatever the result, the state after stands in the relation to the state before. -/
class Keeps (R : σ → σ → Prop) (p : Program σ ε α) : Prop where
  exec_rel : ∀ s, R s (exec p s).2

namespace Keeps

variable {R : σ → σ → Prop}

theorem of_exec {p : Program σ ε α} (h : Keeps R p) {s t : σ} {x : Except ε α}
    (hp : exec p s = (x, t)) : R s t := by
  have hs := h.exec_rel s
  rwa [hp] at hs

theorem write {f : σ → σ} (h : ∀ s, R s (f s)) : Keeps R (Program.write f : Program σ ε Unit) :=
  ⟨h⟩

/-- A transaction keeps what its successful runs keep. -/
theorem transaction_of_ok [Std.Refl R] {p : Program σ ε α}
    (h : ∀ s t a, exec p s = (.ok a, t) → R s t) : Keeps R (Program.transaction p) := by
  refine ⟨fun s => ?_⟩
  rw [exec_transaction]
  split
  · rename_i a t hrun
    exact h s t a hrun
  · exact Std.Refl.refl s

theorem mono {R' : σ → σ → Prop} {p : Program σ ε α} (h : Keeps R p)
    (hle : ∀ s t, R s t → R' s t) : Keeps R' p := ⟨fun s => hle s _ (h.exec_rel s)⟩

instance ite {c : Prop} [Decidable c] {p q : Program σ ε α} [hp : Keeps R p] [hq : Keeps R q] :
    Keeps R (if c then p else q) := by
  split
  · exact hp
  · exact hq

theorem bind_of [IsTrans σ R] {p : Program σ ε α} {f : α → Program σ ε β} (hp : Keeps R p)
    (hf : ∀ a, Keeps R (f a)) : Keeps R (p >>= f) := by
  refine ⟨fun s => ?_⟩
  rw [exec_bind]
  have hs := hp.exec_rel s
  split
  · rename_i a r hrun
    rw [hrun] at hs
    exact IsTrans.trans _ _ _ hs ((hf a).exec_rel r)
  · rename_i e r hrun
    rw [hrun] at hs
    exact hs

instance bind [IsTrans σ R] {p : Program σ ε α} {f : α → Program σ ε β} [hp : Keeps R p]
    [hf : ∀ a, Keeps R (f a)] : Keeps R (p >>= f) := bind_of hp hf

section Refl

variable [Std.Refl R]

instance pure {a : α} : Keeps R (Pure.pure a : Program σ ε α) := ⟨fun s => Std.Refl.refl s⟩

instance throw {e : ε} : Keeps R (MonadExcept.throw e : Program σ ε α) :=
  ⟨fun s => Std.Refl.refl s⟩

instance read {f : σ → α} : Keeps R (Program.read f : Program σ ε α) :=
  ⟨fun s => Std.Refl.refl s⟩

instance lift {x : Except ε α} : Keeps R (Program.lift x : Program σ ε α) :=
  ⟨fun s => Std.Refl.refl s⟩

instance require {c : Prop} [Decidable c] {e : ε} :
    Keeps R (Program.require c e : Program σ ε Unit) := ite

instance reject {c : Prop} [Decidable c] {e : ε} :
    Keeps R (Program.reject c e : Program σ ε Unit) := ite

instance the {o : Option α} {e : ε} : Keeps R (Program.the o e : Program σ ε α) := by
  cases o with
  | none => exact throw
  | some a => exact pure

instance transaction {p : Program σ ε α} [hp : Keeps R p] : Keeps R (Program.transaction p) :=
  transaction_of_ok fun _ _ _ h => hp.of_exec h

instance mapError {ε' : Type} {f : ε → ε'} {p : Program σ ε α} [hp : Keeps R p] :
    Keeps R (Program.mapError f p) := ⟨hp.exec_rel⟩

instance catching {ε' : Type} {p : Program σ ε α} [hp : Keeps R p] :
    Keeps R (Program.catching p : Program σ ε' (Except ε α)) := ⟨hp.exec_rel⟩

instance forM [IsTrans σ R] {xs : List β} {f : β → Program σ ε PUnit}
    [hf : ∀ x, Keeps R (f x)] : Keeps R (xs.forM f) := by
  induction xs with
  | nil => exact pure
  | cons x xs ih => exact bind_of (hf x) fun _ => ih

end Refl
end Keeps

/-- A failed run leaves the state as it was. -/
class Atomic (p : Program σ ε α) : Prop where
  eq_of_error : ∀ s t e, exec p s = (.error e, t) → t = s

namespace Atomic

instance transaction {p : Program σ ε α} : Atomic (Program.transaction p) :=
  ⟨fun _ _ _ h => (exec_transaction_error.mp h).1⟩

theorem of_keeps {p : Program σ ε α} (hp : Keeps Eq p) : Atomic p :=
  ⟨fun _ _ _ h => (hp.of_exec h).symm⟩

/-- Reads and checks before an atomic rest. -/
instance bind_keeps {p : Program σ ε α} {f : α → Program σ ε β} [hp : Keeps Eq p]
    [hf : ∀ a, Atomic (f a)] : Atomic (p >>= f) := by
  refine ⟨fun s t e h => ?_⟩
  rcases exec_bind_error.mp h with h | ⟨a, r, hrun, h⟩
  · exact (hp.of_exec h).symm
  · rw [(hf a).eq_of_error r t e h]
    exact (hp.of_exec hrun).symm

instance ite {c : Prop} [Decidable c] {p q : Program σ ε α} [hp : Atomic p] [hq : Atomic q] :
    Atomic (if c then p else q) := by
  split
  · exact hp
  · exact hq

instance pure {a : α} : Atomic (Pure.pure a : Program σ ε α) := of_keeps inferInstance

/-- A write, and checks after it that fail only if nothing was written. -/
theorem bind_checked {p : Program σ ε α} {f : α → Program σ ε β} [hp : Atomic p]
    [hf : ∀ a, Keeps Eq (f a)]
    (h : ∀ s t a, exec p s = (.ok a, t) → t = s ∨ ∀ e r, exec (f a) t ≠ (.error e, r)) :
    Atomic (p >>= f) := by
  refine ⟨fun s t e hrun => ?_⟩
  rcases exec_bind_error.mp hrun with hfirst | ⟨a, r, hok, hrest⟩
  · exact hp.eq_of_error s t e hfirst
  · rcases h s r a hok with hsame | hne
    · rw [← hsame]
      exact ((hf a).of_exec hrest).symm
    · exact absurd hrest (hne e t)

/-- What cannot fail may follow. -/
instance bind_pure {p : Program σ ε α} {g : α → β} [hp : Atomic p] :
    Atomic (p >>= fun a => Pure.pure (g a)) :=
  bind_checked fun _ _ _ _ => Or.inr fun e r h => absurd h (by simp)

end Atomic

end Program
end MyVault
