import Mathlib.Data.List.Sort
import Mathlib.Data.List.Nodup
import Mathlib.Order.Basic

/-!
# Paging by a key

A reader gets the rows after a cursor in the order of their keys, some at a time, and takes
the key of the last row it got as the next cursor.  As long as no two rows have the same key
and the rows stay, it gets every row once (`rowsAfter_key`, `readPages_eq`).
-/

namespace MyVault

variable {α K : Type} [LinearOrder K] (key : α → K)

/-- The rows whose key comes after the cursor, in the order of their keys. -/
def rowsAfter (rows : List α) (cursor : Option K) : List α :=
  (rows.filter fun row => cursor.all fun last => last < key row).insertionSort
    fun a b => key a ≤ key b

variable {key} {rows : List α} {cursor : Option K}

theorem mem_rowsAfter {row : α} :
    row ∈ rowsAfter key rows cursor ↔ row ∈ rows ∧ ∀ last ∈ cursor, last < key row := by
  rw [rowsAfter, List.mem_insertionSort, List.mem_filter]
  cases cursor <;> simp

theorem rowsAfter_none :
    rowsAfter key rows none = rows.insertionSort fun a b => key a ≤ key b := by
  have hall : (rows.filter fun row => (none : Option K).all fun last => last < key row) = rows :=
    List.filter_eq_self.mpr fun _ _ => rfl
  rw [rowsAfter, hall]

theorem rowsAfter_none_perm : (rowsAfter key rows none).Perm rows := by
  rw [rowsAfter_none]
  exact List.perm_insertionSort _ _

/-- The keys of the rows after a cursor increase. -/
theorem pairwise_rowsAfter (hkeys : (rows.map key).Nodup) :
    (rowsAfter key rows cursor).Pairwise fun a b => key a < key b := by
  have hsorted : (rowsAfter key rows cursor).Pairwise fun a b => key a ≤ key b :=
    List.pairwise_insertionSort _ _
  have hperm : (rowsAfter key rows cursor).Perm _ := List.perm_insertionSort _ _
  have hnodup : (rowsAfter key rows cursor).Pairwise fun a b => key a ≠ key b := by
    refine List.pairwise_map.mp ((hperm.map key).nodup_iff.mpr ?_)
    exact hkeys.sublist (List.filter_sublist.map key)
  exact (hsorted.and hnodup).imp fun h => lt_of_le_of_ne h.1 h.2

/-- Rows whose keys increase are the same if they have the same members. -/
theorem eq_of_pairwise_of_mem_iff {l l' : List α} (hl : l.Pairwise fun a b => key a < key b)
    (hl' : l'.Pairwise fun a b => key a < key b) (hmem : ∀ row, row ∈ l ↔ row ∈ l') : l = l' := by
  have hperm : l.Perm l' := by
    refine (List.perm_ext_iff_of_nodup ?_ ?_).mpr hmem
    · exact hl.imp fun hlt heq => (heq ▸ hlt).ne rfl
    · exact hl'.imp fun hlt heq => (heq ▸ hlt).ne rfl
  exact hperm.eq_of_pairwise (fun a b _ _ hab hba => absurd hab hba.not_gt) hl hl'

theorem rowsAfter_eq_of_perm {rows' : List α} (hperm : rows.Perm rows')
    (hkeys : (rows.map key).Nodup) : rowsAfter key rows cursor = rowsAfter key rows' cursor := by
  refine eq_of_pairwise_of_mem_iff (pairwise_rowsAfter hkeys) (pairwise_rowsAfter ?_) fun row => ?_
  · exact (hperm.map key).nodup_iff.mp hkeys
  · rw [mem_rowsAfter, mem_rowsAfter, hperm.mem_iff]

/-- After some of the rows, and the last of them as the cursor, come the others. -/
theorem rowsAfter_key {init rest : List α} {last : α} (hkeys : (rows.map key).Nodup)
    (h : rowsAfter key rows cursor = init ++ last :: rest) :
    rowsAfter key rows (some (key last)) = rest := by
  have hsorted : (rowsAfter key rows cursor).Pairwise fun a b => key a < key b :=
    pairwise_rowsAfter hkeys
  have hlater : (rowsAfter key rows (some (key last))).Pairwise fun a b => key a < key b :=
    pairwise_rowsAfter hkeys
  rw [h] at hsorted
  obtain ⟨-, hrest, hinit⟩ := List.pairwise_append.mp hsorted
  obtain ⟨hlast, hrest⟩ := List.pairwise_cons.mp hrest
  have hmem : ∀ row, row ∈ rowsAfter key rows (some (key last)) ↔ row ∈ rest := by
    intro row
    have hat : last ∈ rowsAfter key rows cursor := h ▸ List.mem_append_right _ List.mem_cons_self
    rw [mem_rowsAfter]
    constructor
    · rintro ⟨hrow, hafter⟩
      have hlt : key last < key row := hafter _ rfl
      have hthere : row ∈ rowsAfter key rows cursor :=
        mem_rowsAfter.mpr ⟨hrow, fun c hc => ((mem_rowsAfter.mp hat).2 c hc).trans hlt⟩
      rw [h] at hthere
      rcases List.mem_append.mp hthere with hthere | hthere
      · exact absurd (hinit row hthere last List.mem_cons_self) hlt.not_gt
      · rcases List.mem_cons.mp hthere with rfl | hthere
        · exact absurd hlt (lt_irrefl _)
        · exact hthere
    · intro hrow
      have hthere : row ∈ rowsAfter key rows cursor :=
        h ▸ List.mem_append_right _ (List.mem_cons_of_mem _ hrow)
      refine ⟨(mem_rowsAfter.mp hthere).1, fun c hc => ?_⟩
      rw [← Option.mem_some.mp hc]
      exact hlast row hrow
  exact eq_of_pairwise_of_mem_iff hlater hrest hmem

/-! ## A reader -/

section Reader

variable {β C ε : Type}

/-- What a reader gets that asks for one page after the other, with what it is given as the
next cursor, until it is given none; `none` if it stops before that. -/
def readPages (page : ℕ → Option C → Except ε (List β × Option C)) :
    ℕ → ℕ → Option C → Except ε (Option (List (List β)))
  | 0, _, _ => .ok none
  | calls + 1, call, after =>
      match page call after with
      | .error e => .error e
      | .ok (entries, none) => .ok (some [entries])
      | .ok (entries, some next) =>
          (readPages page calls (call + 1) (some next)).map (Option.map (entries :: ·))

variable {page : ℕ → Option C → Except ε (List β × Option C)} {At : Option C → Option K → Prop}
  {f : α → β} {limits : ℕ → ℕ}

/-- **The pages are the rows.**  What the reader asks with stands at a key, and it is given
something that stands at the key of the last row of its page if there are rows after it:
with calls enough for the rows, it gets each of them once, in order. -/
theorem readPages_eq (hkeys : (rows.map key).Nodup) (hlimits : ∀ call, 1 ≤ limits call)
    (hmore : ∀ call after k init last rest, At after k →
      rowsAfter key rows k = init ++ last :: rest → init.length + 1 = limits call → rest ≠ [] →
      ∃ next, page call after = .ok ((init ++ [last]).map f, some next) ∧
        At (some next) (some (key last)))
    (hdone : ∀ call after k, At after k → (rowsAfter key rows k).length ≤ limits call →
      page call after = .ok ((rowsAfter key rows k).map f, none))
    (calls call : ℕ) {after : Option C} {k : Option K} (hat : At after k)
    (hcalls : (rowsAfter key rows k).length < calls) :
    ∃ pages, readPages page calls call after = .ok (some pages) ∧
      pages.flatten = (rowsAfter key rows k).map f := by
  induction calls generalizing call after k with
  | zero => omega
  | succ calls ih =>
      have hpos := hlimits call
      by_cases hlength : limits call < (rowsAfter key rows k).length
      · -- the last row of the page is the next cursor
        obtain ⟨init, last, htake⟩ : ∃ init last,
            (rowsAfter key rows k).take (limits call) = init ++ [last] := by
          refine ⟨_, _, (List.dropLast_append_getLast (l := _) ?_).symm⟩
          exact List.ne_nil_of_length_pos (by rw [List.length_take]; omega)
        have hsplit : rowsAfter key rows k =
            init ++ last :: (rowsAfter key rows k).drop (limits call) :=
          calc
            rowsAfter key rows k = _ ++ (rowsAfter key rows k).drop (limits call) :=
              (List.take_append_drop (limits call) _).symm
            _ = _ := by rw [htake, List.append_assoc, List.singleton_append]
        have hinit : init.length + 1 = limits call := by
          have hcount := congrArg List.length htake
          rw [List.length_take, List.length_append, List.length_singleton] at hcount
          omega
        have hrest : (rowsAfter key rows k).drop (limits call) ≠ [] :=
          List.ne_nil_of_length_pos (by rw [List.length_drop]; omega)
        obtain ⟨next, hpage, hnext⟩ := hmore call after k init last _ hat hsplit hinit hrest
        have hafter := rowsAfter_key hkeys hsplit
        obtain ⟨pages, hpages, hlisted⟩ := ih (call + 1) hnext (by
          rw [hafter, List.length_drop]
          omega)
        refine ⟨(init ++ [last]).map f :: pages, ?_, ?_⟩
        · rw [readPages, hpage]
          dsimp only
          rw [hpages]
          rfl
        · rw [List.flatten_cons, hlisted, hafter, ← htake, ← List.map_append,
            List.take_append_drop]
      · refine ⟨[(rowsAfter key rows k).map f], ?_, ?_⟩
        · rw [readPages, hdone call after k hat (by omega)]
        · rw [List.flatten_singleton]

/-- Row by row, a reader that comes to the end was given a next cursor at every row that has
another after it. -/
theorem given_of_readPages (hkeys : (rows.map key).Nodup) (Given : α → Prop)
    (hgiven : ∀ call after k last rest entries next, At after k →
      rowsAfter key rows k = last :: rest → rest ≠ [] → page call after = .ok (entries, next) →
      Given last ∧ ∃ c, next = some c ∧ At (some c) (some (key last)))
    {calls call : ℕ} {after : Option C} {k : Option K} {pages : List (List β)} (hat : At after k)
    (hread : readPages page calls call after = .ok (some pages)) {init rest : List α} {last : α}
    (hrows : rowsAfter key rows k = init ++ last :: rest) (hrest : rest ≠ []) : Given last := by
  induction calls generalizing call after k init pages with
  | zero => cases hread
  | succ calls ih =>
      obtain ⟨first, later, hfirst, hlater⟩ : ∃ first later,
          rowsAfter key rows k = first :: later ∧ later ≠ [] := by
        cases init with
        | nil => exact ⟨last, rest, hrows, hrest⟩
        | cons first init => exact ⟨first, init ++ last :: rest, hrows, by simp⟩
      rw [readPages] at hread
      cases hpage : page call after with
      | error e =>
          rw [hpage] at hread
          cases hread
      | ok answer =>
          obtain ⟨entries, next⟩ := answer
          obtain ⟨hthis, c, rfl, hnext⟩ :=
            hgiven call after k first later entries next hat hfirst hlater hpage
          cases init with
          | nil =>
              obtain rfl : first = last := (List.cons.inj (hfirst.symm.trans hrows)).1
              exact hthis
          | cons head init =>
              obtain rfl : first = head := (List.cons.inj (hfirst.symm.trans hrows)).1
              rw [hpage] at hread
              dsimp only at hread
              cases hmore : readPages page calls (call + 1) (some c) with
              | error e =>
                  rw [hmore] at hread
                  cases hread
              | ok found =>
                  rw [hmore] at hread
                  cases found with
                  | none => cases hread
                  | some pages =>
                      have hwhole : rowsAfter key rows k = [] ++ first :: (init ++ last :: rest) :=
                        hrows
                      exact ih hnext hmore (rowsAfter_key hkeys hwhole)

end Reader

end MyVault
