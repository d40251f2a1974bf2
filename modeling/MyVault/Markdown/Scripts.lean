import MyVault.Markdown.Model
import Mathlib.Data.List.Pairwise

/-!
# The edit scripts of the merge

Three facts carry the merge.

* `applyEdits_eq_splice`: a script in base order is applied to exactly what it
  means, `splice`.
* `myersEdits_isScript`, `splice_myersEdits`: the script of a diff has its edits
  separated by at least one kept base line, and its meaning is the changed side.
  `editsFromMyers` therefore never fails.
* `combineEdits_eq_ok_iff`: two such scripts combine exactly when no two of their
  different edits overlap, and then into their union in base order.
-/

namespace MyVault
namespace Markdown

open EditScript SequenceDiff

/-! ## Application -/

theorem applyStep_eq_some {base output : List Line} {cursor : ℕ} {edit : Edit Line}
    (h₁ : cursor ≤ edit.start) (h₂ : edit.start ≤ edit.stop) (h₃ : edit.stop ≤ base.length) :
    applyStep base (output, cursor) edit =
      some (output ++ slice base cursor edit.start ++ edit.replacement, edit.stop) := by
  rw [applyStep, if_neg]
  omega

/-- The loop of `apply_edits`, from any point it can be in. -/
theorem foldlM_applyStep {base : List Line} {edits : List (Edit Line)}
    (hR : ∀ e ∈ edits, e.InRange base.length) (hB : edits.Pairwise Before)
    (output : List Line) {cursor : ℕ} (hc : cursor ≤ base.length)
    (hE : ∀ e ∈ edits, cursor ≤ e.start) :
    ∃ out stop, edits.foldlM (applyStep base) (output, cursor) = some (out, stop) ∧
      out ++ base.drop stop = output ++ spliceFrom edits cursor (base.drop cursor) := by
  induction edits generalizing output cursor with
  | nil => exact ⟨output, cursor, rfl, by rw [spliceFrom_nil_script]⟩
  | cons e edits ih =>
      obtain ⟨hse, hen⟩ := hR e (by simp)
      have hce := hE e (by simp)
      obtain ⟨hBe, hB'⟩ := List.pairwise_cons.mp hB
      obtain ⟨out, stop, hfold, hout⟩ := ih (fun f hf => hR f (List.mem_cons_of_mem _ hf)) hB'
        (output ++ slice base cursor e.start ++ e.replacement) hen fun f hf => (hBe f hf).1
      refine ⟨out, stop, ?_, ?_⟩
      · rw [List.foldlM_cons, applyStep_eq_some hce hse hen]
        exact hfold
      · rw [hout, spliceFrom_cons hce hse (by rw [List.length_drop]; omega) hBe, List.drop_drop,
          show cursor + (e.stop - cursor) = e.stop by omega, slice]
        simp only [List.append_assoc]

/-- **A script in base order is applied to what it means.** -/
theorem applyEdits_eq_splice {base : List Line} {edits : List (Edit Line)}
    (hR : ∀ e ∈ edits, e.InRange base.length) (hB : edits.Pairwise Before) :
    applyEdits base edits = some (splice edits base) := by
  obtain ⟨out, stop, hfold, hout⟩ := foldlM_applyStep hR hB [] (Nat.zero_le _)
    fun _ _ => Nat.zero_le _
  rw [applyEdits, hfold]
  rw [List.nil_append, List.drop_zero] at hout
  exact congrArg some hout

/-! ## Scripts with a kept line between their edits -/

/-- At least one base line lies between the two edits. -/
def Separated (a b : Edit Line) : Prop := a.stop < b.start

/-- The scripts `edits_from_myers` produces: edits in range, in base order, and
separated by kept lines. -/
structure IsScript (n : ℕ) (E : List (Edit Line)) : Prop where
  inRange : ∀ e ∈ E, e.InRange n
  separated : E.Pairwise Separated

theorem IsScript.nil (n : ℕ) : IsScript n [] := ⟨by simp, List.Pairwise.nil⟩

theorem IsScript.before {n : ℕ} {E : List (Edit Line)} (h : IsScript n E) :
    E.Pairwise Before := by
  refine h.separated.imp_of_mem ?_
  intro a b ha hb hab
  have hra := h.inRange a ha
  unfold Separated at hab
  unfold Edit.InRange at hra
  unfold Before
  omega

theorem IsScript.apart {n : ℕ} {E : List (Edit Line)} (h : IsScript n E) :
    E.Pairwise Apart := h.before.imp Or.inl

theorem IsScript.nodup {n : ℕ} {E : List (Edit Line)} (h : IsScript n E) : E.Nodup :=
  nodup_of_pairwise_apart h.apart

/-- A new last edit keeps a script a script. -/
theorem IsScript.append_singleton {n : ℕ} {E : List (Edit Line)} (h : IsScript n E)
    {e : Edit Line} (he : e.InRange n) (hE : ∀ f ∈ E, f.stop < e.start) :
    IsScript n (E ++ [e]) := by
  refine ⟨fun f hf => ?_, ?_⟩
  · rcases List.mem_append.mp hf with hf | hf
    · exact h.inRange f hf
    · rw [List.mem_singleton.mp hf]
      exact he
  · rw [List.pairwise_append]
    refine ⟨h.separated, List.pairwise_singleton _ _, fun f hf g hg => ?_⟩
    rw [List.mem_singleton.mp hg]
    exact hE f hf

/-! ## The loop of `edits_from_myers` -/

/-- The pending edit, or the empty one that would be opened at base line `i`. -/
def openEdit (i : ℕ) (pending : Option (Edit Line)) : Edit Line := pending.getD ⟨i, i, []⟩

@[simp] theorem openEdit_none (i : ℕ) : openEdit i none = ⟨i, i, []⟩ := rfl

@[simp] theorem openEdit_some (i : ℕ) (p : Edit Line) : openEdit i (some p) = p := rfl

/-- What is known of the two loop variables when `i` base lines and `j` changed
lines have been read: the finished edits are a script, the open edit is separated
from them and reaches to `i`, and applying all of them gives the `j` lines. -/
structure Collected (base changed : List Line) (i j : ℕ)
    (edits : List (Edit Line)) (pending : Option (Edit Line)) : Prop where
  script : IsScript base.length edits
  inRange : i ≤ base.length
  gap : ∀ f ∈ edits, f.stop < (openEdit i pending).start
  ordered : (openEdit i pending).start ≤ i
  stop : (openEdit i pending).stop = i
  applied : ∃ output cursor, cursor ≤ (openEdit i pending).start ∧
    edits.foldlM (applyStep base) ([], 0) = some (output, cursor) ∧
    output ++ slice base cursor (openEdit i pending).start ++
      (openEdit i pending).replacement = changed.take j

theorem Collected.initial (base changed : List Line) : Collected base changed 0 0 [] none where
  script := .nil _
  inRange := Nat.zero_le _
  gap := by simp
  ordered := by simp
  stop := by simp
  applied := ⟨[], 0, le_refl 0, rfl, by simp⟩

/-- Closing the open edit at `i` leaves a script that gives the `j` lines. -/
theorem Collected.close {base changed : List Line} {i j : ℕ} {edits : List (Edit Line)}
    {pending : Option (Edit Line)} (h : Collected base changed i j edits pending) :
    IsScript base.length (edits ++ pending.toList) ∧
    (∀ f ∈ edits ++ pending.toList, f ∈ edits ∨ f.stop = i) ∧
    ∃ output cursor, cursor ≤ i ∧
      (edits ++ pending.toList).foldlM (applyStep base) ([], 0) = some (output, cursor) ∧
      output ++ slice base cursor i = changed.take j := by
  obtain ⟨output, cursor, hcursor, hfold, hout⟩ := h.applied
  cases pending with
  | none =>
      rw [Option.toList_none, List.append_nil]
      refine ⟨h.script, fun f hf => Or.inl hf, output, cursor, hcursor, hfold, ?_⟩
      rwa [openEdit_none, List.append_nil] at hout
  | some p =>
      have hstop : p.stop = i := h.stop
      have hord : p.start ≤ i := h.ordered
      have hin := h.inRange
      refine ⟨h.script.append_singleton ⟨by omega, by omega⟩ h.gap, fun f hf => ?_,
        output ++ slice base cursor p.start ++ p.replacement, i, le_refl i, ?_, ?_⟩
      · rcases List.mem_append.mp hf with hf | hf
        · exact Or.inl hf
        · rw [Option.toList_some, List.mem_singleton] at hf
          exact Or.inr (hf ▸ hstop)
      · rw [List.foldlM_append, hfold, Option.toList_some]
        rw [openEdit_some] at hcursor
        change List.foldlM (applyStep base) (output, cursor) [p] = _
        rw [List.foldlM_cons, applyStep_eq_some hcursor (by omega) (by omega), hstop]
        rfl
      · rw [slice_self, List.append_nil]
        exact hout

/-- One operation of the diff keeps what is known of the loop variables. -/
theorem Collected.step {base changed : List Line} {i j : ℕ} {edits : List (Edit Line)}
    {pending : Option (Edit Line)} {op : DiffOp} {ops : List DiffOp}
    (h : Collected base changed i j edits pending)
    (hops : Partitions base changed i j (op :: ops)) :
    Collected base changed op.oldEnd op.newEnd
      (myersStep changed (edits, pending) op).1 (myersStep changed (edits, pending) op).2 := by
  obtain ⟨⟨hi, hj⟩, ⟨hio, hon⟩, ⟨hjo, -⟩, heq, -⟩ := hops
  rw [myersStep]
  split
  · -- an `equal` run: the open edit is closed and a new one would start after it
    rename_i htag
    obtain ⟨hlt, hslice⟩ := heq htag
    obtain ⟨hscript, hmem, output, cursor, hcursor, hfold, hout⟩ := h.close
    refine ⟨hscript, hon, fun f hf => ?_, le_refl _, rfl, output, cursor, ?_, hfold, ?_⟩
    · rw [openEdit_none]
      rcases hmem f hf with hf | hf
      · have := h.gap f hf
        have := h.ordered
        show f.stop < op.oldEnd
        omega
      · show f.stop < op.oldEnd
        omega
    · show cursor ≤ op.oldEnd
      omega
    · show output ++ slice base cursor op.oldEnd ++ [] = _
      rw [List.append_nil, ← slice_append_slice hcursor hio, ← List.append_assoc, hout, hslice,
        take_append_slice hjo]
  · -- any other operation extends the open edit
    obtain ⟨output, cursor, hcursor, hfold, hout⟩ := h.applied
    refine ⟨h.script, hon, ?_, ?_, rfl, output, cursor, ?_, hfold, ?_⟩
    · rw [hi]
      exact h.gap
    · rw [hi]
      exact h.ordered.trans hio
    · rw [hi]
      exact hcursor
    · rw [hi, hj, openEdit_some]
      show output ++ slice base cursor (openEdit i pending).start ++
        ((openEdit i pending).replacement ++ slice changed j op.newEnd) = _
      rw [← List.append_assoc, hout, take_append_slice hjo]

/-- The loop over all operations. -/
theorem Collected.run {base changed : List Line} {ops : List DiffOp} {i j : ℕ}
    {edits : List (Edit Line)} {pending : Option (Edit Line)}
    (h : Collected base changed i j edits pending) (hops : Partitions base changed i j ops) :
    Collected base changed base.length changed.length
      (ops.foldl (myersStep changed) (edits, pending)).1
      (ops.foldl (myersStep changed) (edits, pending)).2 := by
  induction ops generalizing i j edits pending with
  | nil =>
      obtain ⟨hi, hj⟩ := hops
      rw [hi, hj] at h
      exact h
  | cons op ops ih =>
      rw [List.foldl_cons]
      exact ih (h.step hops) hops.2.2.2.2

section Diff

variable (diff : SequenceDiff Line) (base changed : List Line)

theorem collected_myersEdits :
    IsScript base.length (myersEdits diff base changed) ∧
    applyEdits base (myersEdits diff base changed) = some changed := by
  obtain ⟨hscript, -, output, cursor, hcursor, hfold, hout⟩ :=
    ((Collected.initial base changed).run (diff.partitions base changed)).close
  refine ⟨hscript, ?_⟩
  rw [applyEdits, myersEdits, hfold]
  rw [slice_length, List.take_length] at hout
  exact congrArg some hout

/-- The edits of a diff are a script: in range, in order, separated by kept lines. -/
theorem myersEdits_isScript : IsScript base.length (myersEdits diff base changed) :=
  (collected_myersEdits diff base changed).1

/-- The reconstruction check of `edits_from_myers` always passes. -/
theorem editsFromMyers_eq_ok :
    editsFromMyers diff base changed = .ok (myersEdits diff base changed) := by
  rw [editsFromMyers, (collected_myersEdits diff base changed).2]
  simp

/-- **The script of a diff means the changed side.** -/
theorem splice_myersEdits : splice (myersEdits diff base changed) base = changed := by
  have hscript := myersEdits_isScript diff base changed
  have h := applyEdits_eq_splice hscript.inRange hscript.before
  rw [(collected_myersEdits diff base changed).2] at h
  exact (Option.some.inj h).symm

end Diff

/-- A loop over `equal` operations only collects nothing. -/
theorem foldl_myersStep_equal {changed : List Line} {ops : List DiffOp}
    (h : ∀ op ∈ ops, op.tag = .equal) :
    ops.foldl (myersStep changed) ([], none) = ([], none) := by
  induction ops with
  | nil => rfl
  | cons op ops ih =>
      rw [List.foldl_cons, myersStep, if_pos (h op (by simp))]
      exact ih fun op' hop' => h op' (List.mem_cons_of_mem _ hop')

theorem myersEdits_self {diff : SequenceDiff Line} (hd : diff.Reflexive) (base : List Line) :
    myersEdits diff base base = [] := by
  rw [myersEdits, foldl_myersStep_equal (hd base)]
  rfl

/-! ## Overlap -/

theorem sameEdit_iff {a b : Edit Line} : sameEdit a b = true ↔ a = b := by
  obtain ⟨s, t, r⟩ := a
  obtain ⟨s', t', r'⟩ := b
  simp [sameEdit, and_assoc]

/-- The frozen overlap rule, case by case. -/
theorem editsOverlap_eq_true_iff {a b : Edit Line} : editsOverlap a b = true ↔
    (a.start = a.stop ∧ b.start = b.stop ∧ a.start = b.start) ∨
    (a.start = a.stop ∧ b.start ≠ b.stop ∧ b.start ≤ a.start ∧ a.start ≤ b.stop) ∨
    (a.start ≠ a.stop ∧ b.start = b.stop ∧ a.start ≤ b.start ∧ b.start ≤ a.stop) ∨
    (a.start ≠ a.stop ∧ b.start ≠ b.stop ∧ max a.start b.start < min a.stop b.stop) := by
  unfold editsOverlap
  rcases ha : a.start == a.stop with _ | _ <;> rcases hb : b.start == b.stop with _ | _ <;>
    simp only [beq_eq_false_iff_ne, beq_iff_eq, ne_eq] at ha hb <;>
    simp [ha, hb]

theorem editsOverlap_symm {a b : Edit Line} (h : editsOverlap a b = true) :
    editsOverlap b a = true := by
  rw [editsOverlap_eq_true_iff] at h ⊢
  rcases h with ⟨ha, hb, h⟩ | ⟨ha, hb, h⟩ | ⟨ha, hb, h⟩ | ⟨ha, hb, h⟩
  · exact Or.inl ⟨hb, ha, h.symm⟩
  · exact Or.inr (Or.inr (Or.inl ⟨hb, ha, h⟩))
  · exact Or.inr (Or.inl ⟨hb, ha, h⟩)
  · exact Or.inr (Or.inr (Or.inr ⟨hb, ha, by rwa [max_comm, min_comm]⟩))

theorem editsOverlap_comm (a b : Edit Line) : editsOverlap a b = editsOverlap b a :=
  Bool.eq_iff_iff.mpr ⟨editsOverlap_symm, editsOverlap_symm⟩

/-- The overlap rule leaves no room for two edits to compete for a base position. -/
theorem apart_of_editsOverlap_eq_false {a b : Edit Line} (ha : a.start ≤ a.stop)
    (hb : b.start ≤ b.stop) (h : editsOverlap a b = false) : Apart a b := by
  rw [← Bool.not_eq_true, editsOverlap_eq_true_iff] at h
  unfold Apart Before
  omega

theorem editsOverlap_eq_false_of_separated {a b : Edit Line} (ha : a.start ≤ a.stop)
    (h : Separated a b) : editsOverlap a b = false := by
  rw [← Bool.not_eq_true, editsOverlap_eq_true_iff]
  unfold Separated at h
  omega

/-- The edits of one script do not overlap each other. -/
theorem IsScript.pairwise_not_overlap {n : ℕ} {E : List (Edit Line)} (h : IsScript n E) :
    E.Pairwise fun a b => editsOverlap a b = false :=
  h.separated.imp_of_mem fun ha _ hs =>
    editsOverlap_eq_false_of_separated (h.inRange _ ha).1 hs

theorem IsScript.editsOverlap_eq_false {n : ℕ} {E : List (Edit Line)} (h : IsScript n E)
    {a b : Edit Line} (ha : a ∈ E) (hb : b ∈ E) (hab : a ≠ b) : editsOverlap a b = false := by
  have : Std.Symm fun a b : Edit Line => editsOverlap a b = false :=
    ⟨fun a b hab => (editsOverlap_comm b a).trans hab⟩
  exact h.pairwise_not_overlap.forall ha hb hab

/-- No edit of one script overlaps a different edit of the other. -/
def NoOverlap (E F : List (Edit Line)) : Prop :=
  ∀ e ∈ E, ∀ f ∈ F, e ≠ f → editsOverlap e f = false

instance (E F : List (Edit Line)) : Decidable (NoOverlap E F) :=
  inferInstanceAs (Decidable (∀ e ∈ E, ∀ f ∈ F, e ≠ f → editsOverlap e f = false))

theorem NoOverlap.symm {E F : List (Edit Line)} (h : NoOverlap E F) : NoOverlap F E :=
  fun f hf e he hfe => (editsOverlap_comm f e).trans (h e he f hf (Ne.symm hfe))

theorem IsScript.noOverlap_self {n : ℕ} {E : List (Edit Line)} (h : IsScript n E) :
    NoOverlap E E := fun _ he _ hf hef => h.editsOverlap_eq_false he hf hef

/-! ## Combining two scripts -/

theorem combineStep_of_mem {acc : List (Edit Line)} {f : Edit Line} (hf : f ∈ acc) :
    combineStep acc f = .ok acc := by
  rw [combineStep, if_pos]
  exact List.any_eq_true.mpr ⟨f, hf, sameEdit_iff.mpr rfl⟩

theorem combineStep_of_notMem {acc : List (Edit Line)} {f : Edit Line} (hf : f ∉ acc) :
    combineStep acc f =
      if ∀ e ∈ acc, editsOverlap e f = false then .ok (acc ++ [f])
      else .error .overlappingEdits := by
  have hsame : (acc.any fun edit => sameEdit edit f) = false := by
    rw [List.any_eq_false]
    intro e he hef
    exact hf (sameEdit_iff.mp hef ▸ he)
  rw [combineStep, if_neg (by rw [hsame]; simp)]
  by_cases h : ∀ e ∈ acc, editsOverlap e f = false
  · rw [if_pos h, if_neg]
    simpa using h
  · rw [if_neg h, if_pos]
    simpa using h

/-- The loop of `combine_edits`, from any accumulator. -/
theorem foldlM_combineStep_eq_ok_iff {remote : List (Edit Line)} (acc combined : List (Edit Line))
    (hn : remote.Nodup) (hp : remote.Pairwise fun a b => editsOverlap a b = false) :
    remote.foldlM combineStep acc = .ok combined ↔
      (∀ f ∈ remote, f ∈ acc ∨ ∀ e ∈ acc, editsOverlap e f = false) ∧
      combined = union acc remote := by
  induction remote generalizing acc with
  | nil =>
      rw [List.foldlM_nil, union_nil_right]
      constructor
      · rintro ⟨rfl⟩
        simp
      · rintro ⟨-, rfl⟩
        rfl
  | cons f remote ih =>
      obtain ⟨hfr, hn'⟩ := List.nodup_cons.mp hn
      obtain ⟨hpf, hp'⟩ := List.pairwise_cons.mp hp
      rw [List.foldlM_cons]
      by_cases hf : f ∈ acc
      · -- a shared edit is passed over
        rw [combineStep_of_mem hf]
        change remote.foldlM combineStep acc = .ok combined ↔ _
        have hunion : union acc (f :: remote) = union acc remote := by
          rw [union, union, List.filter_cons_of_neg (by simpa using hf)]
        rw [ih acc hn' hp', hunion, List.forall_mem_cons]
        simp only [hf, true_or, true_and]
      · rw [combineStep_of_notMem hf]
        by_cases hno : ∀ e ∈ acc, editsOverlap e f = false
        · -- the candidate is accepted and compared with all later ones
          rw [if_pos hno]
          change remote.foldlM combineStep (acc ++ [f]) = .ok combined ↔ _
          have hunion : union acc (f :: remote) = union (acc ++ [f]) remote := by
            have hfilter : remote.filter (fun g => g ∉ acc) =
                remote.filter (fun g => g ∉ acc ++ [f]) := by
              refine List.filter_congr fun g hg => ?_
              have hgf : g ≠ f := fun h => hfr (h ▸ hg)
              simp [hgf]
            rw [union, union, List.filter_cons_of_pos (by simpa using hf), hfilter,
              List.append_assoc, List.singleton_append]
          rw [ih (acc ++ [f]) hn' hp', hunion, List.forall_mem_cons]
          refine and_congr_left' ?_
          constructor
          · intro h
            refine ⟨Or.inr hno, fun g hg => ?_⟩
            rcases h g hg with hmem | hall
            · rcases List.mem_append.mp hmem with hmem | hmem
              · exact Or.inl hmem
              · rw [List.mem_singleton] at hmem
                exact absurd (hmem ▸ hg) hfr
            · exact Or.inr fun e he => hall e (List.mem_append_left _ he)
          · rintro ⟨-, h⟩ g hg
            refine (h g hg).imp (List.mem_append_left _) fun hall e he => ?_
            rcases List.mem_append.mp he with he | he
            · exact hall e he
            · rw [List.mem_singleton] at he
              exact he ▸ hpf g hg
        · rw [if_neg hno]
          constructor
          · intro h
            exact absurd h (by simp [Bind.bind, Except.bind])
          · rintro ⟨h, -⟩
            exact absurd (h f (by simp)) (by simp [hf, hno])

/-- The two scripts together, in base order. -/
def sortedUnion (E F : List (Edit Line)) : List (Edit Line) :=
  (union E F).insertionSort sortKeyLe

theorem sortedUnion_perm (E F : List (Edit Line)) : (sortedUnion E F).Perm (union E F) :=
  List.perm_insertionSort _ _

section TwoScripts

variable {n : ℕ} {E F : List (Edit Line)}

/-- **Combining succeeds exactly when no two different edits of opposite sides
overlap**, and the result is the union of the scripts in base order. -/
theorem combineEdits_eq_ok_iff (hE : IsScript n E) (hF : IsScript n F)
    {combined : List (Edit Line)} :
    combineEdits E F = .ok combined ↔ NoOverlap E F ∧ combined = sortedUnion E F := by
  have hfold := fun c => foldlM_combineStep_eq_ok_iff E c hF.nodup hF.pairwise_not_overlap
  have hno : (∀ f ∈ F, f ∈ E ∨ ∀ e ∈ E, editsOverlap e f = false) ↔ NoOverlap E F := by
    constructor
    · intro h e he f hf hef
      rcases h f hf with hfE | hall
      · exact hE.editsOverlap_eq_false he hfE hef
      · exact hall e he
    · intro h f hf
      by_cases hfE : f ∈ E
      · exact Or.inl hfE
      · exact Or.inr fun e he => h e he f hf fun hef => hfE (hef ▸ he)
  rw [combineEdits]
  rw [hno] at hfold
  split
  · rename_i c hc
    rw [hfold] at hc
    rw [Except.ok.injEq, hc.2, sortedUnion, eq_comm]
    simp only [hc.1, true_and]
  · rename_i issue hissue
    refine iff_of_false (by simp) fun h => ?_
    rw [(hfold _).mpr ⟨h.1, rfl⟩] at hissue
    exact absurd hissue (by simp)

/-- Different edits that do not overlap make the union one script of apart edits. -/
theorem pairwise_apart_union_of_noOverlap (hE : IsScript n E) (hF : IsScript n F)
    (h : NoOverlap E F) : (union E F).Pairwise Apart :=
  pairwise_apart_union hE.apart hF.apart fun e he f hf hef =>
    apart_of_editsOverlap_eq_false (hE.inRange e he).1 (hF.inRange f hf).1 (h e he f hf hef)

/-- The sort puts the union in base order. -/
theorem sortedUnion_before (hE : IsScript n E) (hF : IsScript n F) (h : NoOverlap E F) :
    (sortedUnion E F).Pairwise Before := by
  have hapart : (sortedUnion E F).Pairwise Apart :=
    (sortedUnion_perm E F).symm.pairwise (pairwise_apart_union_of_noOverlap hE hF h)
      (fun {_ _} hab => hab.symm)
  refine pairwise_before_of_start_le hapart ?_
  have : Std.Total sortKeyLe := ⟨fun a b => by unfold sortKeyLe; omega⟩
  have : IsTrans (Edit Line) sortKeyLe := ⟨fun a b c => by unfold sortKeyLe; omega⟩
  refine (List.pairwise_insertionSort sortKeyLe (union E F)).imp ?_
  intro a b hab
  unfold sortKeyLe at hab
  omega

/-- **Applying the combined script never fails**, and gives what the union means. -/
theorem applyEdits_sortedUnion {base : List Line} (hE : IsScript base.length E)
    (hF : IsScript base.length F) (h : NoOverlap E F) :
    applyEdits base (sortedUnion E F) = some (splice (union E F) base) := by
  have hbefore := sortedUnion_before hE hF h
  rw [applyEdits_eq_splice (fun e he => ?_) hbefore,
    splice_perm (hbefore.imp Or.inl) (sortedUnion_perm E F)]
  rw [(sortedUnion_perm E F).mem_iff, mem_union] at he
  exact he.elim (hE.inRange e) (hF.inRange e)

/-- The union means the same whichever script comes first. -/
theorem splice_union_comm (hE : IsScript n E) (hF : IsScript n F) (h : NoOverlap E F)
    (base : List Line) : splice (union E F) base = splice (union F E) base :=
  splice_perm (pairwise_apart_union_of_noOverlap hE hF h)
    (perm_union_comm hE.nodup hF.nodup) base

end TwoScripts

end Markdown
end MyVault
