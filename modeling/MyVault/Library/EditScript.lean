import Mathlib.Algebra.BigOperators.Group.List.Basic
import Mathlib.Algebra.GroupWithZero.Nat
import Mathlib.Data.Finset.Max
import Mathlib.Data.List.Pairwise
import Mathlib.Data.List.Perm.Basic
import Mathlib.Data.List.Sort

/-!
# Edit scripts over a list

An edit replaces the half-open range `[start, stop)` of a base list by a block.
A script is a list of edits, and what it *means* is written down without an
order of application: `splice E base` walks the base once, and at every position
emits the blocks anchored there and then the base entry, unless an edit deletes
it.  Nothing in that definition looks at the order of `E`.

* `Apart a b`: one edit ends before the other one starts, and their anchors
  differ.  Pairwise apart edits never fight for a position.
* `splice_perm`: pairwise apart scripts mean the same in every order.
* `spliceFrom_cons`: a script in base order is spliced edit by edit, which is
  what a left-to-right application does.
* `head?_splice_eq_some_iff`, `getLast?_splice_eq_some_iff`: the first and the last
  entry, read off what the edits leave at each position of the base.
* `sum_splice`: any weight of a splice is that of the base, with the insertions and
  without the deletions.
* `union`, `pairwise_apart_union`, `perm_union_comm`: two scripts taken
  together, shared edits once.
* `prefix_splice_union_iff`: when the edits of a second script keep the beginning of
  what the first one makes.
-/

namespace MyVault
namespace EditScript

variable {α : Type*}

/-- One edit: `[start, stop)` of the base is replaced by `replacement`. -/
structure Edit (α : Type*) where
  start : ℕ
  stop : ℕ
  replacement : List α
  deriving DecidableEq, Repr

/-- The edit names a range of a base of length `n`. -/
def Edit.InRange (n : ℕ) (e : Edit α) : Prop := e.start ≤ e.stop ∧ e.stop ≤ n

/-- Position `i` of the base is deleted by one of the edits. -/
def deletedAt (E : List (Edit α)) (i : ℕ) : Bool :=
  E.any fun e => decide (e.start ≤ i ∧ i < e.stop)

/-- The blocks the edits put in front of base position `i`. -/
def blocksAt (E : List (Edit α)) (i : ℕ) : List α :=
  (E.filter fun e => decide (e.start = i)).flatMap Edit.replacement

/-- The script read along a tail of the base that begins at position `i`. -/
def spliceFrom (E : List (Edit α)) : ℕ → List α → List α
  | i, [] => blocksAt E i
  | i, x :: xs =>
      blocksAt E i ++ ((if deletedAt E i then [] else [x]) ++ spliceFrom E (i + 1) xs)

/-- What a script makes of a base: every block at its anchor, every base entry
that no edit deletes, and nothing else. -/
def splice (E : List (Edit α)) (base : List α) : List α := spliceFrom E 0 base

@[simp] theorem deletedAt_nil (i : ℕ) : deletedAt ([] : List (Edit α)) i = false := rfl

@[simp] theorem blocksAt_nil (i : ℕ) : blocksAt ([] : List (Edit α)) i = [] := rfl

theorem deletedAt_eq_true_iff {E : List (Edit α)} {i : ℕ} :
    deletedAt E i = true ↔ ∃ e ∈ E, e.start ≤ i ∧ i < e.stop := by
  simp [deletedAt]

theorem deletedAt_eq_false_iff {E : List (Edit α)} {i : ℕ} :
    deletedAt E i = false ↔ ∀ e ∈ E, e.start ≤ i → e.stop ≤ i := by
  simp [deletedAt]

theorem blocksAt_eq_nil {E : List (Edit α)} {i : ℕ} (h : ∀ e ∈ E, e.start ≠ i) :
    blocksAt E i = [] := by
  have hnil : E.filter (fun e => decide (e.start = i)) = [] := by
    rw [List.filter_eq_nil_iff]
    intro e he
    simpa using h e he
  rw [blocksAt, hnil, List.flatMap_nil]

theorem blocksAt_cons_of_ne {e : Edit α} {E : List (Edit α)} {i : ℕ} (h : e.start ≠ i) :
    blocksAt (e :: E) i = blocksAt E i := by
  rw [blocksAt, List.filter_cons_of_neg (by simpa using h), blocksAt]

theorem blocksAt_cons_self {e : Edit α} {E : List (Edit α)} :
    blocksAt (e :: E) e.start = e.replacement ++ blocksAt E e.start := by
  rw [blocksAt, List.filter_cons_of_pos (by simp), List.flatMap_cons, blocksAt]

theorem deletedAt_cons {e : Edit α} {E : List (Edit α)} {i : ℕ} :
    deletedAt (e :: E) i = (decide (e.start ≤ i ∧ i < e.stop) || deletedAt E i) := rfl

/-! ## Reading a script locally -/

/-- A splice depends only on what the edits do at the positions it reads. -/
theorem spliceFrom_congr {E F : List (Edit α)} {i : ℕ} {xs : List α}
    (hb : ∀ j, i ≤ j → blocksAt E j = blocksAt F j)
    (hd : ∀ j, i ≤ j → deletedAt E j = deletedAt F j) :
    spliceFrom E i xs = spliceFrom F i xs := by
  induction xs generalizing i with
  | nil => exact hb i (le_refl i)
  | cons x xs ih =>
      rw [spliceFrom, spliceFrom, hb i (le_refl i), hd i (le_refl i),
        ih (fun j hj => hb j (by omega)) (fun j hj => hd j (by omega))]

@[simp] theorem spliceFrom_nil_script (i : ℕ) (xs : List α) :
    spliceFrom ([] : List (Edit α)) i xs = xs := by
  induction xs generalizing i with
  | nil => rfl
  | cons x xs ih => simp [spliceFrom, ih]

/-- Positions no edit touches are copied. -/
theorem spliceFrom_keep {E : List (Edit α)} {i k : ℕ} {xs : List α} (hk : k ≤ xs.length)
    (hb : ∀ j, i ≤ j → j < i + k → blocksAt E j = [])
    (hd : ∀ j, i ≤ j → j < i + k → deletedAt E j = false) :
    spliceFrom E i xs = xs.take k ++ spliceFrom E (i + k) (xs.drop k) := by
  induction k generalizing i xs with
  | zero => simp
  | succ k ih =>
      match xs, hk with
      | x :: xs, hk =>
        rw [spliceFrom, hb i (le_refl i) (by omega), hd i (le_refl i) (by omega),
          ih (Nat.le_of_succ_le_succ hk) (fun j h₁ h₂ => hb j (by omega) (by omega))
            (fun j h₁ h₂ => hd j (by omega) (by omega))]
        simp [Nat.add_comm, Nat.add_left_comm]

/-- Deleted positions without an anchor are skipped. -/
theorem spliceFrom_skip {E : List (Edit α)} {i k : ℕ} {xs : List α} (hk : k ≤ xs.length)
    (hb : ∀ j, i ≤ j → j < i + k → blocksAt E j = [])
    (hd : ∀ j, i ≤ j → j < i + k → deletedAt E j = true) :
    spliceFrom E i xs = spliceFrom E (i + k) (xs.drop k) := by
  induction k generalizing i xs with
  | zero => simp
  | succ k ih =>
      match xs, hk with
      | x :: xs, hk =>
        rw [spliceFrom, hb i (le_refl i) (by omega), hd i (le_refl i) (by omega),
          ih (Nat.le_of_succ_le_succ hk) (fun j h₁ h₂ => hb j (by omega) (by omega))
            (fun j h₁ h₂ => hd j (by omega) (by omega))]
        simp [Nat.add_comm, Nat.add_left_comm]

/-- The blocks anchored at the position a splice starts from come first. -/
theorem spliceFrom_eq_blocksAt_append {E F : List (Edit α)} {i : ℕ} {xs : List α}
    (hb : blocksAt F i = []) (hb' : ∀ j, i < j → blocksAt E j = blocksAt F j)
    (hd : ∀ j, i ≤ j → deletedAt E j = deletedAt F j) :
    spliceFrom E i xs = blocksAt E i ++ spliceFrom F i xs := by
  cases xs with
  | nil => simp [spliceFrom, hb]
  | cons x xs =>
      rw [spliceFrom, spliceFrom, hb, hd i (le_refl i),
        spliceFrom_congr (fun j hj => hb' j (by omega)) (fun j hj => hd j (by omega))]
      simp

/-! ## The entries of a splice -/

theorem mem_blocksAt {E : List (Edit α)} {i : ℕ} {x : α} :
    x ∈ blocksAt E i ↔ ∃ e ∈ E, e.start = i ∧ x ∈ e.replacement := by
  simp [blocksAt, and_assoc]

/-- Every entry of a splice is one of the base or of a block. -/
theorem mem_spliceFrom {E : List (Edit α)} {i : ℕ} {xs : List α} {x : α}
    (h : x ∈ spliceFrom E i xs) : x ∈ xs ∨ ∃ e ∈ E, x ∈ e.replacement := by
  have hblock : ∀ j, x ∈ blocksAt E j → ∃ e ∈ E, x ∈ e.replacement := fun j hj => by
    obtain ⟨e, he, -, hx⟩ := mem_blocksAt.mp hj
    exact ⟨e, he, hx⟩
  induction xs generalizing i with
  | nil => exact Or.inr (hblock i h)
  | cons y xs ih =>
      rw [spliceFrom, List.mem_append, List.mem_append] at h
      rcases h with h | h | h
      · exact Or.inr (hblock i h)
      · split at h
        · exact absurd h (by simp)
        · exact Or.inl (List.mem_cons.mpr (Or.inl (List.mem_singleton.mp h)))
      · exact (ih h).imp_left (List.mem_cons_of_mem _)

/-- Every block anchored in the part of the base that is read is emitted. -/
theorem mem_spliceFrom_of_mem_replacement {E : List (Edit α)} {e : Edit α} (he : e ∈ E) {i : ℕ}
    {xs : List α} (hi : i ≤ e.start) (hlen : e.start ≤ i + xs.length) {x : α}
    (hx : x ∈ e.replacement) : x ∈ spliceFrom E i xs := by
  induction xs generalizing i with
  | nil =>
      have heq : e.start = i := by
        rw [List.length_nil] at hlen
        omega
      exact mem_blocksAt.mpr ⟨e, he, heq, hx⟩
  | cons y xs ih =>
      rw [spliceFrom, List.mem_append, List.mem_append]
      rcases Nat.eq_or_lt_of_le hi with heq | hlt
      · exact Or.inl (mem_blocksAt.mpr ⟨e, he, heq.symm, hx⟩)
      · rw [List.length_cons] at hlen
        exact Or.inr (Or.inr (ih (by omega) (by omega)))

/-! ## What a script leaves at a position -/

section Left

variable {E F : List (Edit α)} {base : List α}

/-- What a script leaves at position `i`: the blocks there, then the base entry unless it
is deleted. -/
def leftAt (E : List (Edit α)) (base : List α) (i : ℕ) : List α :=
  blocksAt E i ++ if deletedAt E i then [] else base[i]?.toList

/-- What a script leaves in front of position `k`. -/
def leftBefore (E : List (Edit α)) (base : List α) (k : ℕ) : List α :=
  (List.range k).flatMap (leftAt E base)

/-- What a script leaves from position `k` on. -/
def leftFrom (E : List (Edit α)) (base : List α) (k : ℕ) : List α := spliceFrom E k (base.drop k)

theorem leftAt_length : leftAt E base base.length = blocksAt E base.length := by
  simp [leftAt]

theorem leftFrom_of_lt {k : ℕ} (hk : k < base.length) :
    leftFrom E base k = leftAt E base k ++ leftFrom E base (k + 1) := by
  rw [leftFrom, List.drop_eq_getElem_cons hk, spliceFrom, leftFrom, leftAt,
    List.getElem?_eq_getElem hk, Option.toList_some, List.append_assoc]

theorem leftFrom_length : leftFrom E base base.length = leftAt E base base.length := by
  rw [leftFrom, List.drop_length, spliceFrom, leftAt_length]

/-- A splice is what is left in front of a position and what is left from there on. -/
theorem splice_eq_leftBefore_append {k : ℕ} (hk : k ≤ base.length) :
    splice E base = leftBefore E base k ++ leftFrom E base k := by
  induction k with
  | zero => rfl
  | succ k ih =>
      rw [ih (by omega), leftFrom_of_lt hk, leftBefore, leftBefore, List.range_succ,
        List.flatMap_append, List.flatMap_singleton, List.append_assoc]

/-- A splice is what the script leaves at each position, one after the other. -/
theorem splice_eq_flatMap :
    splice E base = (List.range (base.length + 1)).flatMap (leftAt E base) := by
  rw [splice_eq_leftBefore_append (Nat.le_refl _), leftFrom_length, leftBefore, List.range_succ,
    List.flatMap_append, List.flatMap_singleton]

end Left

/-! ## The first and the last entry -/

section Ends

variable {E : List (Edit α)} {base : List α} {x : α}

/-- The first position at which a script leaves anything leaves `x` first. -/
def Leads (E : List (Edit α)) (base : List α) (x : α) : Prop :=
  ∃ i ≤ base.length, (leftAt E base i).head? = some x ∧ ∀ j < i, leftAt E base j = []

/-- The last position at which a script leaves anything leaves `x` last. -/
def Trails (E : List (Edit α)) (base : List α) (x : α) : Prop :=
  ∃ i ≤ base.length, (leftAt E base i).getLast? = some x ∧
    ∀ j ≤ base.length, i < j → leftAt E base j = []

/-- The first entry of pieces in a row is that of the first piece that has one. -/
theorem head?_flatMap_range_eq_some_iff {f : ℕ → List α} {n : ℕ} :
    ((List.range n).flatMap f).head? = some x ↔
      ∃ i < n, (f i).head? = some x ∧ ∀ j < i, f j = [] := by
  induction n with
  | zero => simp
  | succ n ih =>
      rw [List.range_succ, List.flatMap_append, List.flatMap_singleton, List.head?_append,
        Option.or_eq_some_iff, ih, List.head?_eq_none_iff, List.flatMap_eq_nil_iff]
      simp only [List.mem_range]
      constructor
      · rintro (⟨i, hi, hhead, hbefore⟩ | ⟨hbefore, hhead⟩)
        · exact ⟨i, by omega, hhead, hbefore⟩
        · exact ⟨n, by omega, hhead, hbefore⟩
      · rintro ⟨i, hi, hhead, hbefore⟩
        rcases Nat.lt_succ_iff_lt_or_eq.mp hi with hlt | rfl
        · exact Or.inl ⟨i, hlt, hhead, hbefore⟩
        · exact Or.inr ⟨hbefore, hhead⟩

theorem getLast?_flatMap_range_eq_some_iff {f : ℕ → List α} {n : ℕ} :
    ((List.range n).flatMap f).getLast? = some x ↔
      ∃ i < n, (f i).getLast? = some x ∧ ∀ j < n, i < j → f j = [] := by
  induction n with
  | zero => simp
  | succ n ih =>
      rw [List.range_succ, List.flatMap_append, List.flatMap_singleton, List.getLast?_append,
        Option.or_eq_some_iff, ih, List.getLast?_eq_none_iff]
      constructor
      · rintro (hlast | ⟨hnil, i, hi, hlast, hafter⟩)
        · exact ⟨n, by omega, hlast, fun j hj hnj => by omega⟩
        · refine ⟨i, by omega, hlast, fun j hj hij => ?_⟩
          rcases Nat.lt_succ_iff_lt_or_eq.mp hj with hlt | rfl
          · exact hafter j hlt hij
          · exact hnil
      · rintro ⟨i, hi, hlast, hafter⟩
        rcases Nat.lt_succ_iff_lt_or_eq.mp hi with hlt | rfl
        · exact Or.inr ⟨hafter n (by omega) hlt, i, hlt, hlast,
            fun j hj hij => hafter j (by omega) hij⟩
        · exact Or.inl hlast

theorem head?_splice_eq_some_iff : (splice E base).head? = some x ↔ Leads E base x := by
  rw [splice_eq_flatMap, head?_flatMap_range_eq_some_iff, Leads]
  simp only [Nat.lt_succ_iff]

theorem getLast?_splice_eq_some_iff : (splice E base).getLast? = some x ↔ Trails E base x := by
  rw [splice_eq_flatMap, getLast?_flatMap_range_eq_some_iff, Trails]
  simp only [Nat.lt_succ_iff]

end Ends

/-! ## Edits in base order -/

/-- `a` is done, and anchored, before `b` begins. -/
def Before (a b : Edit α) : Prop := a.stop ≤ b.start ∧ a.start < b.start

/-- The two edits do not compete for a base position. -/
def Apart (a b : Edit α) : Prop := Before a b ∨ Before b a

theorem Apart.symm {a b : Edit α} (h : Apart a b) : Apart b a := Or.symm h

theorem Apart.start_ne {a b : Edit α} (h : Apart a b) : a.start ≠ b.start := by
  rcases h with h | h
  · exact Nat.ne_of_lt h.2
  · exact (Nat.ne_of_lt h.2).symm

theorem Apart.ne {a b : Edit α} (h : Apart a b) : a ≠ b :=
  fun hab => h.start_ne (congrArg Edit.start hab)

/-- **A script in base order is spliced edit by edit.**  The base is copied up to
the first anchor, its block follows, and the rest of the script reads on from the
end of its range. -/
theorem spliceFrom_cons {e : Edit α} {E : List (Edit α)} {i : ℕ} {xs : List α}
    (hi : i ≤ e.start) (he : e.start ≤ e.stop) (hlen : e.stop ≤ i + xs.length)
    (hE : ∀ f ∈ E, Before e f) :
    spliceFrom (e :: E) i xs =
      xs.take (e.start - i) ++ (e.replacement ++
        spliceFrom E e.stop (xs.drop (e.stop - i))) := by
  have hb : ∀ j, j ≠ e.start → blocksAt (e :: E) j = blocksAt E j :=
    fun j hj => blocksAt_cons_of_ne (Ne.symm hj)
  have hE0 : ∀ j, j < e.stop ∨ j ≤ e.start → blocksAt E j = [] := fun j hj =>
    blocksAt_eq_nil fun f hf => by
      have := hE f hf
      unfold Before at this
      omega
  have hdE : ∀ j, j < e.stop → deletedAt E j = false := fun j hj =>
    deletedAt_eq_false_iff.mpr fun f hf hfj => by
      have := hE f hf
      unfold Before at this
      omega
  -- copy up to the anchor
  rw [spliceFrom_keep (k := e.start - i) (by omega)
    (fun j h₁ h₂ => by rw [hb j (by omega), hE0 j (by omega)])
    (fun j h₁ h₂ => by
      rw [deletedAt_cons, hdE j (by omega)]
      simp only [Bool.or_false, decide_eq_false_iff_not]
      omega)]
  have hpos : i + (e.start - i) = e.start := by omega
  rw [hpos]
  congr 1
  -- emit the block, then skip the range; `F` is the script without the block
  let F : List (Edit α) := ⟨e.start, e.stop, []⟩ :: E
  have hF : ∀ j, blocksAt F j = blocksAt E j := by
    intro j
    by_cases hj : e.start = j
    · subst hj
      exact blocksAt_cons_self (e := ⟨e.start, e.stop, []⟩)
    · exact blocksAt_cons_of_ne hj
  have hblock : blocksAt (e :: E) e.start = e.replacement := by
    rw [blocksAt_cons_self, hE0 e.start (Or.inr (le_refl _)), List.append_nil]
  rw [spliceFrom_eq_blocksAt_append (E := e :: E) (F := F)
    (by rw [hF, hE0 e.start (Or.inr (le_refl _))])
    (fun j hj => by rw [hF, hb j (by omega)]) (fun j _ => rfl), hblock]
  congr 1
  rw [spliceFrom_skip (k := e.stop - e.start) (by rw [List.length_drop]; omega)
    (fun j h₁ h₂ => by rw [hF, hE0 j (by omega)])
    (fun j h₁ h₂ => by
      rw [deletedAt_cons]
      simp only [Bool.or_eq_true, decide_eq_true_eq]
      exact Or.inl (by omega)),
    List.drop_drop]
  have h₁ : e.start + (e.stop - e.start) = e.stop := by omega
  have h₂ : e.start - i + (e.stop - e.start) = e.stop - i := by omega
  rw [h₁, h₂]
  refine spliceFrom_congr (fun j _ => hF j) (fun j hj => ?_)
  rw [deletedAt_cons]
  have hout : decide (e.start ≤ j ∧ j < e.stop) = false := by
    rw [decide_eq_false_iff_not]
    omega
  rw [hout, Bool.false_or]

/-! ## The order of a script does not matter -/

/-- Pairwise apart edits have at most one block to put at a position. -/
theorem length_filter_start_le_one {E : List (Edit α)} (hE : E.Pairwise Apart) (i : ℕ) :
    (E.filter fun e => decide (e.start = i)).length ≤ 1 := by
  have hp := hE.filter fun e : Edit α => decide (e.start = i)
  match hl : E.filter (fun e => decide (e.start = i)) with
  | [] => rw [hl]; simp
  | [_] => rw [hl]; simp
  | a :: b :: l =>
    rw [hl] at hp
    have hab : Apart a b := (List.pairwise_cons.mp hp).1 b (by simp)
    have ha : a ∈ E.filter (fun e => decide (e.start = i)) := by rw [hl]; simp
    have hb : b ∈ E.filter (fun e => decide (e.start = i)) := by rw [hl]; simp
    rw [List.mem_filter, decide_eq_true_eq] at ha hb
    exact absurd (ha.2.trans hb.2.symm) hab.start_ne

/-- The block of an edit is all that pairwise apart edits put at its anchor. -/
theorem blocksAt_of_mem {E : List (Edit α)} (hE : E.Pairwise Apart) {e : Edit α} (he : e ∈ E) :
    blocksAt E e.start = e.replacement := by
  have hmem : e ∈ E.filter fun f => decide (f.start = e.start) := by
    rw [List.mem_filter]
    exact ⟨he, by simp⟩
  have hlen := length_filter_start_le_one hE e.start
  rw [blocksAt]
  match hl : E.filter (fun f => decide (f.start = e.start)) with
  | [] => exact absurd (hl ▸ hmem) (by simp)
  | [f] =>
    rw [hl, List.mem_singleton] at hmem
    rw [hl, List.flatMap_singleton, hmem]
  | f :: g :: l => exact absurd (hl ▸ hlen) (by simp)

theorem perm_eq_of_length_le_one {l₁ l₂ : List α} (h : l₁.Perm l₂) (hl : l₁.length ≤ 1) :
    l₁ = l₂ := by
  match l₁, hl with
  | [], _ => exact (List.nil_perm.mp h).symm
  | [x], _ => exact List.singleton_perm.mp h

/-- **Pairwise apart scripts mean the same in every order.** -/
theorem splice_perm {E F : List (Edit α)} (hE : E.Pairwise Apart) (h : E.Perm F)
    (base : List α) : splice E base = splice F base := by
  refine spliceFrom_congr (fun j _ => ?_) (fun j _ => ?_)
  · rw [blocksAt, blocksAt,
      perm_eq_of_length_le_one (h.filter _) (length_filter_start_le_one hE j)]
  · rw [Bool.eq_iff_iff, deletedAt_eq_true_iff, deletedAt_eq_true_iff]
    simp only [h.mem_iff]

/-- Apart edits listed by increasing anchor are in base order. -/
theorem pairwise_before_of_start_le {E : List (Edit α)} (hE : E.Pairwise Apart)
    (hs : E.Pairwise fun a b => a.start ≤ b.start) : E.Pairwise Before := by
  refine (hE.and hs).imp ?_
  rintro a b ⟨hab | hba, hle⟩
  · exact hab
  · exact absurd hba.2 (Nat.not_lt.mpr hle)

/-! ## What a script adds and takes away -/

section Balance

variable {E F : List (Edit α)} {base : List α}

/-- The base entries an edit deletes. -/
def Edit.deleted (base : List α) (e : Edit α) : List α :=
  (base.drop e.start).take (e.stop - e.start)

/-- The weight of the base, with what the edits insert and without what they delete. -/
def balance (E : List (Edit α)) (base : List α) (w : α → ℕ) : ℕ :=
  (base.map w).sum + (E.map fun e => (e.replacement.map w).sum).sum -
    (E.map fun e => ((e.deleted base).map w).sum).sum

/-- From the position where an edit ends on, the base is what it deletes and the rest. -/
theorem drop_eq_append_deleted {e : Edit α} {i : ℕ} (hi : i ≤ e.start) (he : e.start ≤ e.stop) :
    base.drop i = (base.drop i).take (e.start - i) ++ (e.deleted base ++ base.drop e.stop) := by
  have hstart : base.drop e.start = e.deleted base ++ base.drop e.stop := by
    have hrest : (base.drop e.start).drop (e.stop - e.start) = base.drop e.stop := by
      rw [List.drop_drop, Nat.add_sub_cancel' he]
    rw [← hrest, Edit.deleted, List.take_append_drop]
  have hdrop : (base.drop i).drop (e.start - i) = base.drop e.start := by
    rw [List.drop_drop, Nat.add_sub_cancel' hi]
  rw [← hstart, ← hdrop, List.take_append_drop]

/-- The weights along a script in base order. -/
theorem sum_leftFrom_add (w : α → ℕ) {i : ℕ} (hE : E.Pairwise Before)
    (hrange : ∀ e ∈ E, i ≤ e.start ∧ e.InRange base.length) :
    ((leftFrom E base i).map w).sum + (E.map fun e => ((e.deleted base).map w).sum).sum =
      ((base.drop i).map w).sum + (E.map fun e => (e.replacement.map w).sum).sum := by
  induction E generalizing i with
  | nil => simp [leftFrom]
  | cons e E ih =>
      obtain ⟨hi, hle, hlen⟩ := hrange e List.mem_cons_self
      obtain ⟨hbefore, hE⟩ := List.pairwise_cons.mp hE
      have hleft : leftFrom (e :: E) base i =
          (base.drop i).take (e.start - i) ++ (e.replacement ++ leftFrom E base e.stop) := by
        have hdrop : (base.drop i).drop (e.stop - i) = base.drop e.stop := by
          rw [List.drop_drop, Nat.add_sub_cancel' (hi.trans hle)]
        rw [leftFrom, spliceFrom_cons hi hle (by rw [List.length_drop]; omega) hbefore, hdrop,
          leftFrom]
      have hrest := ih hE fun f hf =>
        ⟨(hbefore f hf).1, (hrange f (List.mem_cons_of_mem e hf)).2⟩
      have hbase := congrArg (fun l => (l.map w).sum) (@drop_eq_append_deleted _ base _ _ hi hle)
      simp only [List.map_append, List.sum_append] at hbase
      rw [hleft, hbase]
      simp only [List.map_append, List.sum_append, List.map_cons, List.sum_cons]
      omega

/-- **What a script leaves weighs the base, with the insertions and without the deletions.** -/
theorem sum_splice (w : α → ℕ) (hE : E.Pairwise Before) (hperm : E.Perm F)
    (hrange : ∀ e ∈ E, e.InRange base.length) :
    ((splice F base).map w).sum = balance F base w := by
  have hsum := sum_leftFrom_add w (i := 0) hE fun e he => ⟨Nat.zero_le _, hrange e he⟩
  have hdel := (hperm.map fun e => ((e.deleted base).map w).sum).sum_eq
  have hins := (hperm.map fun e => (e.replacement.map w).sum).sum_eq
  rw [List.drop_zero, hdel, hins] at hsum
  rw [← splice_perm (hE.imp Or.inl) hperm, balance]
  exact (Nat.sub_eq_of_eq_add hsum.symm).symm

end Balance

/-! ## Two scripts over one base -/

section Union

variable [DecidableEq α]

/-- Both scripts, an edit they share taken once. -/
def union (E F : List (Edit α)) : List (Edit α) := E ++ F.filter fun f => f ∉ E

theorem mem_union {E F : List (Edit α)} {e : Edit α} : e ∈ union E F ↔ e ∈ E ∨ e ∈ F := by
  rw [union, List.mem_append, List.mem_filter]
  by_cases h : e ∈ E <;> simp [h]

/-- A position is deleted by the two scripts when it is by one of them. -/
theorem deletedAt_union (E F : List (Edit α)) (i : ℕ) :
    deletedAt (union E F) i = (deletedAt E i || deletedAt F i) := by
  rw [Bool.eq_iff_iff, Bool.or_eq_true, deletedAt_eq_true_iff, deletedAt_eq_true_iff,
    deletedAt_eq_true_iff]
  simp only [mem_union, or_and_right, exists_or]

@[simp] theorem union_nil_left (F : List (Edit α)) : union [] F = F := by
  simp [union]

@[simp] theorem union_nil_right (E : List (Edit α)) : union E [] = E := by
  simp [union]

@[simp] theorem union_self (E : List (Edit α)) : union E E = E := by
  have h : E.filter (fun f => f ∉ E) = [] := by
    rw [List.filter_eq_nil_iff]
    intro e he
    simpa using he
  rw [union, h, List.append_nil]

/-- Two scripts whose different edits are apart form one script of apart edits. -/
theorem pairwise_apart_union {E F : List (Edit α)} (hE : E.Pairwise Apart)
    (hF : F.Pairwise Apart) (h : ∀ e ∈ E, ∀ f ∈ F, e ≠ f → Apart e f) :
    (union E F).Pairwise Apart := by
  rw [union, List.pairwise_append]
  refine ⟨hE, hF.filter _, fun e he f hf => ?_⟩
  rw [List.mem_filter, decide_eq_true_eq] at hf
  exact h e he f hf.1 fun hef => hf.2 (hef ▸ he)

omit [DecidableEq α] in
theorem nodup_of_pairwise_apart {E : List (Edit α)} (hE : E.Pairwise Apart) : E.Nodup :=
  hE.imp Apart.ne

theorem nodup_union {E F : List (Edit α)} (hE : E.Nodup) (hF : F.Nodup) :
    (union E F).Nodup := by
  rw [union, List.nodup_append]
  refine ⟨hE, hF.filter _, fun e he f hf hef => ?_⟩
  rw [List.mem_filter, decide_eq_true_eq] at hf
  exact hf.2 (hef ▸ he)

/-- Which script comes first does not matter. -/
theorem perm_union_comm {E F : List (Edit α)} (hE : E.Nodup) (hF : F.Nodup) :
    (union E F).Perm (union F E) := by
  rw [List.perm_ext_iff_of_nodup (nodup_union hE hF) (nodup_union hF hE)]
  intro e
  rw [mem_union, mem_union, Or.comm]

end Union

/-! ## The first edit of the other script -/

section Own

variable [DecidableEq α] {E F : List (Edit α)} {base : List α}

/-- The first edit of `F` that `E` does not have. -/
structure FirstOwn (E F : List (Edit α)) (e : Edit α) : Prop where
  mem : e ∈ F
  own : e ∉ E
  first : ∀ f ∈ F, f ∉ E → e.start ≤ f.start

/-- The edits behind an edit. -/
def behind (e : Edit α) (E : List (Edit α)) : List (Edit α) :=
  E.filter fun f => decide (e.stop ≤ f.start ∧ e.start < f.start)

/-- What an edit puts in the place of its range, and what the edits behind it leave there. -/
def leftInPlace (E : List (Edit α)) (base : List α) (e : Edit α) : List α :=
  e.replacement ++ leftFrom (behind e E) base e.stop

theorem exists_firstOwn_or_eq (E F : List (Edit α)) :
    (∃ e, FirstOwn E F e) ∨ union E F = E := by
  by_cases hown : F.filter (fun f => f ∉ E) = []
  · right
    rw [union, hown, List.append_nil]
  · left
    obtain ⟨e, he, hmin⟩ := Finset.exists_min_image (F.filter fun f => f ∉ E).toFinset Edit.start
      (List.toFinset_nonempty_iff _ |>.mpr hown)
    simp only [List.mem_toFinset, List.mem_filter, decide_eq_true_eq] at he hmin
    exact ⟨e, he.1, he.2, fun f hf hfE => hmin f ⟨hf, hfE⟩⟩

/-- In front of the first edit `E` does not have, both scripts leave what `E` leaves. -/
theorem leftBefore_union {e : Edit α} (he : FirstOwn E F e) :
    leftBefore (union E F) base e.start = leftBefore E base e.start := by
  rw [leftBefore, leftBefore]
  refine List.flatMap_congr fun i hi => ?_
  rw [List.mem_range] at hi
  have hlater : ∀ f ∈ F.filter (fun f => f ∉ E), i < f.start := by
    intro f hf
    rw [List.mem_filter, decide_eq_true_eq] at hf
    exact Nat.lt_of_lt_of_le hi (he.first f hf.1 hf.2)
  have hblocks : blocksAt (union E F) i = blocksAt E i := by
    have hnil : blocksAt (F.filter fun f => f ∉ E) i = [] :=
      blocksAt_eq_nil fun f hf => (Nat.ne_of_lt (hlater f hf)).symm
    rw [blocksAt] at hnil
    rw [blocksAt, union, List.filter_append, List.flatMap_append, hnil, List.append_nil, blocksAt]
  have hdeleted : deletedAt (union E F) i = deletedAt E i := by
    have hno : deletedAt (F.filter fun f => f ∉ E) i = false :=
      deletedAt_eq_false_iff.mpr fun f hf hle => absurd hle (Nat.not_le.mpr (hlater f hf))
    rw [deletedAt] at hno
    rw [deletedAt, union, List.any_append, hno, Bool.or_false, deletedAt]
  rw [leftAt, leftAt, hblocks, hdeleted]

omit [DecidableEq α] in
/-- Apart scripts that anchor the same edits at a position put the same block there. -/
theorem blocksAt_congr {i : ℕ} (hE : E.Pairwise Apart) (hF : F.Pairwise Apart)
    (h : ∀ e, e.start = i → (e ∈ E ↔ e ∈ F)) : blocksAt E i = blocksAt F i := by
  have hperm : (E.filter fun e => decide (e.start = i)).Perm
      (F.filter fun e => decide (e.start = i)) := by
    rw [List.perm_ext_iff_of_nodup ((nodup_of_pairwise_apart hE).filter _)
      ((nodup_of_pairwise_apart hF).filter _)]
    intro e
    rw [List.mem_filter, List.mem_filter, decide_eq_true_eq]
    exact and_congr_left (h e)
  rw [blocksAt, blocksAt, perm_eq_of_length_le_one hperm (length_filter_start_le_one hE i)]

omit [DecidableEq α] in
/-- From the anchor of an edit on, apart edits leave its block and then what the edits
behind it leave. -/
theorem leftFrom_of_mem {e : Edit α} (hE : E.Pairwise Apart) (he : e ∈ E)
    (hrange : e.InRange base.length) : leftFrom E base e.start = leftInPlace E base e := by
  have hbehind : ∀ f, f ∈ behind e E ↔ f ∈ E ∧ Before e f := by
    intro f
    rw [behind, List.mem_filter, decide_eq_true_eq, Before]
  have hcases : ∀ f ∈ E, f ∈ e :: behind e E ∨ Before f e := by
    intro f hf
    by_cases hfe : e = f
    · exact Or.inl (hfe ▸ List.mem_cons_self)
    · have : Std.Symm (Apart (α := α)) := ⟨fun _ _ h => h.symm⟩
      rcases hE.forall he hf hfe with h | h
      · exact Or.inl (List.mem_cons_of_mem _ ((hbehind f).mpr ⟨hf, h⟩))
      · exact Or.inr h
  have hsub : ∀ f ∈ e :: behind e E, f ∈ E := by
    intro f hf
    rcases List.mem_cons.mp hf with rfl | hf
    · exact he
    · exact ((hbehind f).mp hf).1
  have hapart : (e :: behind e E).Pairwise Apart :=
    List.pairwise_cons.mpr ⟨fun f hf => Or.inl ((hbehind f).mp hf).2, hE.filter _⟩
  have hscript : leftFrom E base e.start = leftFrom (e :: behind e E) base e.start := by
    refine spliceFrom_congr (fun j hj => blocksAt_congr hE hapart fun f hf => ?_) fun j hj => ?_
    · refine ⟨fun hmem => (hcases f hmem).resolve_right fun h => ?_, hsub f⟩
      exact absurd h.2 (by omega)
    · rw [Bool.eq_iff_iff, deletedAt_eq_true_iff, deletedAt_eq_true_iff]
      constructor
      · rintro ⟨f, hf, hle, hlt⟩
        refine ⟨f, (hcases f hf).resolve_right fun h => ?_, hle, hlt⟩
        exact absurd h.1 (by omega)
      · rintro ⟨f, hf, hle, hlt⟩
        exact ⟨f, hsub f hf, hle, hlt⟩
  have hdrop : (base.drop e.start).drop (e.stop - e.start) = base.drop e.stop := by
    rw [List.drop_drop, Nat.add_sub_cancel' hrange.1]
  rw [hscript, leftFrom, spliceFrom_cons (Nat.le_refl _) hrange.1
    (by rw [List.length_drop]; have := hrange.2; omega) fun f hf => ((hbehind f).mp hf).2, hdrop,
    Nat.sub_self, List.take_zero, List.nil_append, leftInPlace, leftFrom]

/-- **Where the first edit `E` does not have stands, the two scripts part.**  In front of it
they leave what `E` leaves, then its block, then what the edits behind it leave. -/
theorem splice_union_of_firstOwn {e : Edit α} (hapart : (union E F).Pairwise Apart)
    (he : FirstOwn E F e) (hrange : e.InRange base.length) :
    splice (union E F) base =
      leftBefore E base e.start ++ leftInPlace (union E F) base e := by
  rw [splice_eq_leftBefore_append (hrange.1.trans hrange.2), leftBefore_union he,
    leftFrom_of_mem hapart (mem_union.mpr (Or.inr he.mem)) hrange]

/-- The number of entries `E` leaves in front of an edit. -/
def placeOf (E : List (Edit α)) (base : List α) (e : Edit α) : ℕ :=
  (leftBefore E base e.start).length

/-- **When the other script keeps the beginning of what `E` makes.**  Its first own edit
stands behind that beginning, or puts back the rest of it. -/
theorem prefix_splice_union_iff {start : List α} (hapart : (union E F).Pairwise Apart)
    (hrange : ∀ e ∈ F, e.InRange base.length) (hstart : start <+: splice E base) :
    start <+: splice (union E F) base ↔ ∀ e, FirstOwn E F e → placeOf E base e < start.length →
      start.drop (placeOf E base e) <+: leftInPlace (union E F) base e := by
  have hfront : ∀ e, FirstOwn E F e → leftBefore E base e.start <+: splice E base := fun e he => by
    have hle := (hrange e he.mem).1.trans (hrange e he.mem).2
    rw [splice_eq_leftBefore_append hle]
    exact List.prefix_append _ _
  constructor
  · intro h e he hplace
    rw [splice_union_of_firstOwn hapart he (hrange e he.mem)] at h
    have hdrop := h.drop (placeOf E base e)
    rwa [placeOf, List.drop_left] at hdrop
  · intro h
    rcases exists_firstOwn_or_eq E F with ⟨e, he⟩ | heq
    · rw [splice_union_of_firstOwn hapart he (hrange e he.mem)]
      rcases Nat.lt_or_ge (placeOf E base e) start.length with hlt | hge
      · -- what `E` leaves in front of the edit is the first part of the beginning
        have hpart : leftBefore E base e.start <+: start :=
          List.prefix_of_prefix_length_le (hfront e he) hstart (Nat.le_of_lt hlt)
        obtain ⟨rest, rfl⟩ := hpart
        have hrest := h e he hlt
        rw [placeOf, List.drop_left] at hrest
        exact (List.prefix_append_right_inj _).mpr hrest
      · exact (List.prefix_of_prefix_length_le hstart (hfront e he) hge).trans
          (List.prefix_append _ _)
    · rwa [heq]

/-- **When the other script puts `x` first.**  Its first own edit stands in front of all that
`E` leaves, and leaves `x` first in its place. -/
theorem head?_splice_union_ne_iff {x : α} (hapart : (union E F).Pairwise Apart)
    (hrange : ∀ e ∈ F, e.InRange base.length) (hhead : (splice E base).head? ≠ some x) :
    (splice (union E F) base).head? ≠ some x ↔ ∀ e, FirstOwn E F e → placeOf E base e = 0 →
      (leftInPlace (union E F) base e).head? ≠ some x := by
  constructor
  · intro h e he hplace
    rwa [splice_union_of_firstOwn hapart he (hrange e he.mem), List.length_eq_zero_iff.mp hplace,
      List.nil_append] at h
  · intro h
    rcases exists_firstOwn_or_eq E F with ⟨e, he⟩ | heq
    · have hle := (hrange e he.mem).1.trans (hrange e he.mem).2
      rw [splice_eq_leftBefore_append hle] at hhead
      rw [splice_union_of_firstOwn hapart he (hrange e he.mem)]
      by_cases hnil : leftBefore E base e.start = []
      · rw [hnil, List.nil_append]
        exact h e he (List.length_eq_zero_iff.mpr hnil)
      · rw [List.head?_append_of_ne_nil _ hnil] at hhead ⊢
        exact hhead
    · rwa [heq]

end Own

end EditScript
end MyVault
