import MyVault.Markdown.Merge

/-!
# What a merged document is read as

The lines, the newline style, the final newline and the frontmatter of a merge
are chosen apart from each other and only meet in `render`.  This file says when
the text that comes out is again a document with those parts.

* `merged_is_read_back_iff`: the published text is accepted, with the merged lines
  and the merged final newline, exactly when the edits of the two sides are
  `MergeReadable`, which counts what they insert and delete and looks at the first
  and the last place where they leave a line.
* `merged_frontmatter_is_chosen_iff`: its frontmatter is the one of the side that
  changed it exactly when the first edit that only the other side has stands behind
  the closing fence, or puts back what it takes.

Both properties fail on inputs the merge accepts, as the two closed examples show.

## Conditions on the edits

Both conditions are read off the edits of the two sides, the lines of the base, and the parts that
are chosen (`chosenOf`).  How many lines and bytes there are in the end, and how many of them are
fences, is a balance: what the base has, with what the edits insert and without what they delete
(`editedWeight`).  The two ends of the text are the first and the last place where the edits leave
a line (`Leads`, `Trails`).

`FrontmatterKept` is about the edits that one side has alone.  The region of the chosen side is
there before them, so the first of them decides (`FirstOwn`): behind the closing fence it cannot
touch the region, and in front of it it must leave the rest of the region in its place
(`leftInPlace`).  What comes behind that edit does not matter any more.
-/

namespace MyVault
namespace Markdown

open EditScript SequenceDiff

section Lines

variable {diff : SequenceDiff Line} {b x y : ParsedMarkdown}

/-- A line of a replacement is a line of the changed side. -/
theorem mem_of_mem_replacement {base changed : List Line} {e : Edit Line}
    (he : e ∈ myersEdits diff base changed) {l : Line} (hl : l ∈ e.replacement) : l ∈ changed := by
  obtain ⟨hse, hen⟩ := (myersEdits_isScript diff base changed).inRange e he
  have hmem : l ∈ splice (myersEdits diff base changed) base :=
    mem_spliceFrom_of_mem_replacement he (Nat.zero_le _) (by omega) hl
  rwa [splice_myersEdits] at hmem

/-- Every line a merge leaves is a line of one of the three versions. -/
theorem mem_linesLeft {l : Line} (h : l ∈ linesLeft diff b x y) :
    l ∈ b.lines ∨ l ∈ x.lines ∨ l ∈ y.lines := by
  rcases mem_spliceFrom h with h | ⟨e, he, hl⟩
  · exact Or.inl h
  · rcases mem_union.mp he with he | he
    · exact Or.inr (Or.inl (mem_of_mem_replacement he hl))
    · exact Or.inr (Or.inr (mem_of_mem_replacement he hl))

theorem clean_linesLeft {s t u : Text} (hb : ParsesTo s b) (hx : ParsesTo t x)
    (hy : ParsesTo u y) : ∀ l ∈ linesLeft diff b x y, CleanLine l := by
  intro l hl
  rcases mem_linesLeft hl with h | h | h
  · exact hb.clean l h
  · exact hx.clean l h
  · exact hy.clean l h

end Lines

/-! ## The text is read back -/

/-- The merged text is accepted as any version, and what is read from it is the
merged line list and the merged final newline. -/
def ReadBack (diff : SequenceDiff Line) (b x y : ParsedMarkdown) (m : MergedMarkdown) : Prop :=
  ∀ version, ∃ p localEdits remoteEdits edits,
    editsFromMyers diff b.lines x.lines = .ok localEdits ∧
    editsFromMyers diff b.lines y.lines = .ok remoteEdits ∧
    combineEdits localEdits remoteEdits = .ok edits ∧
    parseMarkdown m.content version = .ok p ∧
    applyEdits b.lines edits = some p.lines ∧
    p.finalNewline = m.finalNewline ∧ endsWithLf m.content = m.finalNewline

/-- The value a merge selects: that of the side that changed it. -/
def chosenOf {α : Type*} [DecidableEq α] (base localValue remote : α) : α :=
  if localValue ≠ base then localValue else remote

theorem eq_chosenOf {α : Type*} [DecidableEq α] {base x y z : α}
    (h : selectThreeWay base x y = some z) : z = chosenOf base x y := by
  unfold selectThreeWay at h
  unfold chosenOf
  grind

/-- The edits of both sides, a shared one once. -/
def bothEdits (diff : SequenceDiff Line) (b x y : ParsedMarkdown) : List (Edit Line) :=
  union (scriptOf diff b x) (scriptOf diff b y)

/-- What the edits make of a weight of the base lines: the inserted lines are added, the
deleted ones taken away. -/
def editedWeight (diff : SequenceDiff Line) (b x y : ParsedMarkdown) (w : Line → ℕ) : ℕ :=
  balance (bothEdits diff b x y) b.lines w

/-- The edits of the two sides leave a document that is read back: by their counts it has no
more lines and bytes than a version may have and, if it begins with a fence, a second one;
at the first place where they leave a line it does not begin with a byte order mark; and
without a final newline they leave a line, the last of which is not empty. -/
structure MergeReadable (diff : SequenceDiff Line) (b x y : ParsedMarkdown) : Prop where
  size : editedWeight diff b x y utf8Len +
      utf8Len (separator (chosenOf b.newlineStyle x.newlineStyle y.newlineStyle)) *
        (editedWeight diff b x y (fun _ => 1) - 1 +
          if chosenOf b.finalNewline x.finalNewline y.finalNewline then 1 else 0) ≤
    maxMarkdownVersionBytes
  lineCount : editedWeight diff b x y (fun _ => 1) ≤ maxMarkdownLogicalLines
  noMark : ∀ rest, ¬ Leads (bothEdits diff b x y) b.lines (byteOrderMark :: rest)
  closed : Leads (bothEdits diff b x y) b.lines fence →
    2 ≤ editedWeight diff b x y fun l => if l = fence then 1 else 0
  noLines : editedWeight diff b x y (fun _ => 1) = 0 →
    chosenOf b.finalNewline x.finalNewline y.finalNewline = false
  lastLine : Trails (bothEdits diff b x y) b.lines [] →
    chosenOf b.finalNewline x.finalNewline y.finalNewline = true

section Weights

variable {diff : SequenceDiff Line} {b x y : ParsedMarkdown}

theorem sum_linesLeft (hno : NoOverlap (scriptOf diff b x) (scriptOf diff b y)) (w : Line → ℕ) :
    ((linesLeft diff b x y).map w).sum = editedWeight diff b x y w := by
  have hx := myersEdits_isScript diff b.lines x.lines
  have hy := myersEdits_isScript diff b.lines y.lines
  refine sum_splice w (sortedUnion_before hx hy hno) (sortedUnion_perm _ _) fun e he => ?_
  rw [(sortedUnion_perm _ _).mem_iff, mem_union] at he
  exact he.elim (hx.inRange e) (hy.inRange e)

theorem length_linesLeft (hno : NoOverlap (scriptOf diff b x) (scriptOf diff b y)) :
    (linesLeft diff b x y).length = editedWeight diff b x y fun _ => 1 := by
  rw [← sum_linesLeft hno]
  simp

theorem count_linesLeft (hno : NoOverlap (scriptOf diff b x) (scriptOf diff b y)) :
    (linesLeft diff b x y).count fence =
      editedWeight diff b x y fun l => if l = fence then 1 else 0 := by
  rw [← sum_linesLeft hno]
  generalize linesLeft diff b x y = lines
  induction lines with
  | nil => rfl
  | cons l lines ih =>
      rw [List.count_cons, List.map_cons, List.sum_cons, ih, beq_eq_decide, add_comm]
      simp

/-- A list that begins with a fence has another one exactly if it has two. -/
theorem fence_mem_drop_iff {lines : List Line} (hhead : lines.head? = some fence) :
    fence ∈ lines.drop 1 ↔ 2 ≤ lines.count fence := by
  cases lines with
  | nil => cases hhead
  | cons l lines =>
      obtain rfl := Option.some.inj hhead
      rw [List.drop_succ_cons, List.drop_zero, List.count_cons_self, Nat.succ_le_succ_iff,
        Nat.succ_le_iff, List.count_pos_iff]

/-- The parser's conditions on the lines that are left are conditions on the edits. -/
theorem readable_linesLeft_iff (hno : NoOverlap (scriptOf diff b x) (scriptOf diff b y)) :
    Readable (linesLeft diff b x y) (chosenOf b.newlineStyle x.newlineStyle y.newlineStyle)
      (chosenOf b.finalNewline x.finalNewline y.finalNewline) ↔ MergeReadable diff b x y := by
  have hlength := length_linesLeft hno
  have hcount := count_linesLeft hno
  have hbytes := sum_linesLeft hno utf8Len
  have hfirst : ∀ l, (linesLeft diff b x y).head? = some l ↔
      Leads (bothEdits diff b x y) b.lines l := fun l => head?_splice_eq_some_iff
  have hlast : ∀ l, (linesLeft diff b x y).getLast? = some l ↔
      Trails (bothEdits diff b x y) b.lines l := fun l => getLast?_splice_eq_some_iff
  constructor
  · rintro ⟨hsize, hlines, hmark, hclosed, hnil, hend⟩
    rw [renderedLen, hbytes, hlength] at hsize
    refine ⟨hsize, hlength ▸ hlines, fun rest h => hmark rest ((hfirst _).mpr h), fun h => ?_,
      fun h => hnil ?_, fun h => hend ((hlast _).mpr h)⟩
    · have hhead := (hfirst _).mpr h
      rw [← hcount, ← fence_mem_drop_iff hhead]
      exact hclosed hhead
    · rw [← hlength] at h
      exact List.length_eq_zero_iff.mp h
  · rintro ⟨hsize, hlines, hmark, hclosed, hnil, hend⟩
    refine ⟨?_, hlength ▸ hlines, fun rest h => hmark rest ((hfirst _).mp h), fun h => ?_,
      fun h => hnil ?_, fun h => hend ((hlast _).mp h)⟩
    · rw [renderedLen, hbytes, hlength]
      exact hsize
    · rw [fence_mem_drop_iff h, hcount]
      exact hclosed ((hfirst _).mp h)
    · rw [← hlength, h, List.length_nil]

end Weights

theorem readBack_iff {diff : SequenceDiff Line} {b x y : ParsedMarkdown} {m : MergedMarkdown}
    (hno : NoOverlap (scriptOf diff b x) (scriptOf diff b y)) :
    ReadBack diff b x y m ↔
      ∃ p, ParsesTo m.content p ∧ p.lines = linesLeft diff b x y ∧
        p.finalNewline = m.finalNewline := by
  have hx := myersEdits_isScript diff b.lines x.lines
  have hy := myersEdits_isScript diff b.lines y.lines
  constructor
  · intro h
    obtain ⟨p, le, re, edits, hle, hre, hedits, hp, happly, hfinal, -⟩ := h .base
    rw [editsFromMyers_eq_ok, Except.ok.injEq] at hle hre
    subst hle hre
    obtain ⟨-, rfl⟩ := (combineEdits_eq_ok_iff hx hy).mp hedits
    rw [applyEdits_sortedUnion hx hy hno] at happly
    exact ⟨p, parseMarkdown_eq_ok_iff.mp hp, (Option.some.inj happly).symm, hfinal⟩
  · rintro ⟨p, hp, hlines, hfinal⟩ version
    refine ⟨p, _, _, _, editsFromMyers_eq_ok .., editsFromMyers_eq_ok ..,
      (combineEdits_eq_ok_iff hx hy).mpr ⟨hno, rfl⟩, parseMarkdown_eq_ok_iff.mpr hp, ?_, hfinal,
      hp.finalNewline.symm.trans hfinal⟩
    rw [applyEdits_sortedUnion hx hy hno, hlines]
    rfl

/-- **When a merge is read back.** -/
theorem merged_is_read_back_iff (sha256 : Sha256) (diff : SequenceDiff Line)
    (base localText remote : Text) (b x y : ParsedMarkdown) (m : MergedMarkdown)
    (hb : parseMarkdown base .base = .ok b)
    (hx : parseMarkdown localText .localVersion = .ok x)
    (hy : parseMarkdown remote .remote = .ok y)
    (h : mergeMarkdownThreeWay sha256 diff base localText remote = .merged m) :
    ReadBack diff b x y m ↔ MergeReadable diff b x y := by
  rw [parseMarkdown_eq_ok_iff] at hb hx hy
  obtain ⟨-, b', x', y', hb', hx', hy', hm⟩ := mergeMarkdownThreeWay_eq_merged_iff.mp h
  rw [hb'.unique hb, hx'.unique hx, hy'.unique hy] at hm
  rw [readBack_iff hm.noOverlap,
    parsesTo_of_render_iff (clean_linesLeft hb hx hy) hm.content, eq_chosenOf hm.newlineStyle,
    eq_chosenOf hm.finalNewline, readable_linesLeft_iff hm.noOverlap]

theorem merged_is_read_back_iff_abc :
    ∃ b x y m, (ReadBack trimDiff b x y m ↔ MergeReadable trimDiff b x y) ∧
      m.content = "A\nb\nC\n".toList :=
  ⟨_, _, _, _, merged_is_read_back_iff sampleSha256 trimDiff "a\nb\nc\n".toList
    "A\nb\nc\n".toList "a\nb\nC\n".toList _ _ _ _ rfl rfl rfl rfl, rfl⟩

/-- Each side deletes one of the last two lines: the line before them, which is
empty, is left as the last one, and without a final newline it is not read back. -/
theorem merge_can_lose_its_last_line :
    ∃ b x y m,
      parseMarkdown "a\n\nx\ny".toList .base = .ok b ∧
      parseMarkdown "a\n\nx".toList .localVersion = .ok x ∧
      parseMarkdown "a\n\ny".toList .remote = .ok y ∧
      mergeMarkdownThreeWay sampleSha256 trimDiff "a\n\nx\ny".toList "a\n\nx".toList
        "a\n\ny".toList = .merged m ∧
      ¬ ReadBack trimDiff b x y m := by
  refine ⟨_, _, _, _, rfl, rfl, rfl, rfl, ?_⟩
  rw [readBack_iff (by decide)]
  rintro ⟨p, hp, hlines, -⟩
  have hread : p.lines = [['a']] := Option.some.inj (hp.lines.symm.trans rfl)
  rw [hread] at hlines
  exact absurd hlines (by decide)

/-! ## The frontmatter of a list of lines -/

/-- The frontmatter a list of lines opens with: `some none` when it opens with no
fence, `none` when the fence is never closed. -/
def regionOf (lines : List Line) : Option (Option (List Line)) :=
  (frontmatterEndOf lines).map fun stop => stop.map lines.take

/-- The lines of a frontmatter: a fence, lines that are none, and a fence. -/
def IsRegion (region : List Line) : Prop :=
  ∃ inner, fence ∉ inner ∧ region = fence :: (inner ++ [fence])

theorem findIdx?_fence {inner rest : List Line} (h : fence ∉ inner) :
    (inner ++ fence :: rest).findIdx? (· = fence) = some inner.length := by
  have hnone : inner.findIdx? (fun l => decide (l = fence)) = none := by
    rw [List.findIdx?_eq_none_iff]
    intro l hl
    rw [decide_eq_false_iff_not]
    exact fun heq => h (heq ▸ hl)
  rw [List.findIdx?_append, hnone, List.findIdx?_cons]
  simp

/-- The region of a list of lines is the frontmatter it begins with. -/
theorem regionOf_eq_some_some_iff {lines region : List Line} :
    regionOf lines = some (some region) ↔ IsRegion region ∧ region <+: lines := by
  constructor
  · intro h
    unfold regionOf frontmatterEndOf at h
    split at h
    · rename_i hhead
      split at h
      · rename_i k hk
        simp only [Option.map_some, Option.some.injEq] at h
        subst h
        refine ⟨?_, List.take_prefix _ _⟩
        cases lines with
        | nil => exact absurd hhead (by simp)
        | cons l ls =>
            rw [List.head?_cons, Option.some.injEq] at hhead
            rw [List.drop_succ_cons, List.drop_zero] at hk
            obtain ⟨hlt, heq, hbefore⟩ := List.findIdx?_eq_some_iff_getElem.mp hk
            rw [decide_eq_true_eq] at heq
            refine ⟨ls.take k, fun hmem => ?_, ?_⟩
            · obtain ⟨i, hi, hget⟩ := List.mem_take_iff_getElem.mp hmem
              exact absurd (hbefore i (by omega)) (by simp [hget])
            · rw [List.take_succ_cons, hhead, List.take_succ_eq_append_getElem hlt, heq]
      · exact absurd h (by simp)
    · exact absurd h (by simp)
  · rintro ⟨⟨inner, hinner, rfl⟩, rest, rfl⟩
    rw [regionOf, frontmatterEndOf]
    simp only [List.cons_append, List.append_assoc, List.head?_cons, if_true,
      List.drop_succ_cons, List.drop_zero, List.nil_append, findIdx?_fence hinner,
      Option.map_some, Option.some.injEq]
    simp [List.take_append]

theorem regionOf_eq_some_none_iff {lines : List Line} :
    regionOf lines = some none ↔ lines.head? ≠ some fence := by
  rw [regionOf, frontmatterEndOf]
  split
  · rename_i h
    split <;> simp [h]
  · rename_i h
    simp [h]

/-- What the parser found is the region of the lines. -/
theorem ParsesTo.regionOf_lines {t : Text} {p : ParsedMarkdown} (h : ParsesTo t p) :
    regionOf p.lines = some (frontmatter p) := by
  rw [regionOf, h.closed]
  rfl

/-- The lines that are lost or made when a text is read back are empty, so they are
no part of a frontmatter. -/
theorem regionOf_readBack (lines : List Line) (final : Bool) :
    regionOf (readBack lines final) = regionOf lines := by
  have hdrop : lines.getLast? = some [] → regionOf lines.dropLast = regionOf lines := by
    intro hlast
    have hlines := List.dropLast_append_getLast? [] hlast
    generalize lines.dropLast = init at hlines
    subst hlines
    have hstart : ∀ region, IsRegion region → (region <+: init ++ [[]] ↔ region <+: init) := by
      rintro region ⟨inner, -, rfl⟩
      rw [List.prefix_concat_iff, or_iff_right]
      intro heq
      have hends := congrArg List.getLast? heq
      rw [← List.cons_append, List.getLast?_concat, List.getLast?_concat] at hends
      exact absurd (Option.some.inj hends) (by decide)
    have hhead : (init ++ [[]]).head? = some fence ↔ init.head? = some fence := by
      cases init with
      | nil => simp [fence]
      | cons l init => simp
    refine Option.ext fun region => ?_
    cases region with
    | none =>
        rw [regionOf_eq_some_none_iff, regionOf_eq_some_none_iff, ne_eq, ne_eq, hhead]
    | some region =>
        rw [regionOf_eq_some_some_iff, regionOf_eq_some_some_iff]
        exact and_congr_right fun hregion => (hstart region hregion).symm
  cases final with
  | true =>
      by_cases hnil : lines = []
      · rw [hnil]
        rfl
      · rw [readBack, if_pos rfl, if_neg hnil]
  | false =>
      rw [readBack, if_neg (by simp)]
      split
      · rename_i hlast
        exact hdrop hlast
      · rfl

/-! ## The frontmatter of a merge -/

/-- The frontmatter region of a text: from an opening fence on its first line
through the closing one, `some none` without an opening fence, and `none` when it
is never closed. -/
def contentFrontmatter (content : Text) : Option (Option (List Line)) :=
  (logicalLines content).bind regionOf

/-- The frontmatter the merge has to keep: local's where it differs from the base,
otherwise remote's. -/
def chosenFrontmatter (b x y : ParsedMarkdown) : Option (List Line) :=
  if frontmatter x ≠ frontmatter b then frontmatter x else frontmatter y

/-- The script of the side whose frontmatter is kept. -/
def chosenScript (diff : SequenceDiff Line) (b x y : ParsedMarkdown) : List (Edit Line) :=
  if frontmatter x ≠ frontmatter b then scriptOf diff b x else scriptOf diff b y

/-- The script of the other side. -/
def otherScript (diff : SequenceDiff Line) (b x y : ParsedMarkdown) : List (Edit Line) :=
  if frontmatter x ≠ frontmatter b then scriptOf diff b y else scriptOf diff b x

/-- The first edit of the other side that the chosen side does not share stands behind the
closing fence of the chosen frontmatter, or it puts back what it takes: the lines in its
place begin with the rest of that frontmatter.  Where none was chosen, an edit that stands
in front of every line does not leave a fence first in its place. -/
def FrontmatterKept (diff : SequenceDiff Line) (b x y : ParsedMarkdown) : Prop :=
  ∀ e, FirstOwn (chosenScript diff b x y) (otherScript diff b x y) e →
    match chosenFrontmatter b x y with
    | some region => placeOf (chosenScript diff b x y) b.lines e < region.length →
        region.drop (placeOf (chosenScript diff b x y) b.lines e) <+:
          leftInPlace (union (chosenScript diff b x y) (otherScript diff b x y)) b.lines e
    | none => placeOf (chosenScript diff b x y) b.lines e = 0 →
        (leftInPlace (union (chosenScript diff b x y) (otherScript diff b x y)) b.lines e).head? ≠
          some fence

/-- What the chosen side and the other one are: the two replicas, one way or the other. -/
theorem chosen_cases {diff : SequenceDiff Line} {b x y : ParsedMarkdown} {t u : Text}
    (hx : ParsesTo t x) (hy : ParsesTo u y)
    (hno : NoOverlap (scriptOf diff b x) (scriptOf diff b y)) :
    ∃ v c o, ParsesTo v c ∧ chosenFrontmatter b x y = frontmatter c ∧
      chosenScript diff b x y = scriptOf diff b c ∧ otherScript diff b x y = scriptOf diff b o ∧
      NoOverlap (scriptOf diff b c) (scriptOf diff b o) ∧
      linesLeft diff b x y = splice (union (scriptOf diff b c) (scriptOf diff b o)) b.lines := by
  by_cases h : frontmatter x ≠ frontmatter b
  · exact ⟨t, x, y, hx, if_pos h, if_pos h, if_pos h, hno, rfl⟩
  · exact ⟨u, y, x, hy, if_neg h, if_neg h, if_neg h, hno.symm,
      splice_union_comm (myersEdits_isScript ..) (myersEdits_isScript ..) hno b.lines⟩

/-- The region of the lines both sides leave is the chosen one exactly if the first own edit
of the other side spares it. -/
theorem regionOf_linesLeft_iff {diff : SequenceDiff Line} {b x y : ParsedMarkdown} {t u : Text}
    (hx : ParsesTo t x) (hy : ParsesTo u y)
    (hno : NoOverlap (scriptOf diff b x) (scriptOf diff b y)) :
    regionOf (linesLeft diff b x y) = some (chosenFrontmatter b x y) ↔
      FrontmatterKept diff b x y := by
  obtain ⟨v, c, o, hc, hchosen, hscript, hother, hnoco, hleft⟩ := chosen_cases hx hy hno
  have hEscript := myersEdits_isScript diff b.lines c.lines
  have hFscript := myersEdits_isScript diff b.lines o.lines
  have hapart := pairwise_apart_union_of_noOverlap hEscript hFscript hnoco
  have hself : splice (scriptOf diff b c) b.lines = c.lines := splice_myersEdits ..
  have hregion := hc.regionOf_lines
  rw [FrontmatterKept, hscript, hother, hchosen, hleft]
  cases hfront : frontmatter c with
  | some region =>
      rw [hfront, regionOf_eq_some_some_iff] at hregion
      rw [regionOf_eq_some_some_iff, and_iff_right hregion.1]
      exact prefix_splice_union_iff hapart hFscript.inRange (hself ▸ hregion.2)
  | none =>
      rw [hfront, regionOf_eq_some_none_iff] at hregion
      rw [regionOf_eq_some_none_iff]
      exact head?_splice_union_ne_iff hapart hFscript.inRange (hself ▸ hregion)

/-- **When a merge keeps the chosen frontmatter.** -/
theorem merged_frontmatter_is_chosen_iff (sha256 : Sha256) (diff : SequenceDiff Line)
    (base localText remote : Text) (b x y : ParsedMarkdown) (m : MergedMarkdown)
    (hb : parseMarkdown base .base = .ok b)
    (hx : parseMarkdown localText .localVersion = .ok x)
    (hy : parseMarkdown remote .remote = .ok y)
    (h : mergeMarkdownThreeWay sha256 diff base localText remote = .merged m) :
    contentFrontmatter m.content = some (chosenFrontmatter b x y) ↔
      FrontmatterKept diff b x y := by
  rw [parseMarkdown_eq_ok_iff] at hb hx hy
  obtain ⟨-, b', x', y', hb', hx', hy', hm⟩ := mergeMarkdownThreeWay_eq_merged_iff.mp h
  rw [hb'.unique hb, hx'.unique hx, hy'.unique hy] at hm
  obtain ⟨hlines, -⟩ := readBack_of_render (clean_linesLeft hb hx hy) hm.content
  rw [contentFrontmatter, hlines, Option.bind_some, regionOf_readBack,
    regionOf_linesLeft_iff hx hy hm.noOverlap]

theorem merged_frontmatter_is_chosen_iff_abc :
    ∃ b x y, ∃ m : MergedMarkdown, (contentFrontmatter m.content = some (chosenFrontmatter b x y) ↔
      FrontmatterKept trimDiff b x y) ∧ m.content = "A\nb\nC\n".toList :=
  ⟨_, _, _, _, merged_frontmatter_is_chosen_iff sampleSha256 trimDiff "a\nb\nc\n".toList
    "A\nb\nc\n".toList "a\nb\nC\n".toList _ _ _ _ rfl rfl rfl rfl, rfl⟩

/-- Local puts a fence in front of a body that holds a thematic break, remote deletes
the break: the fence local closed its frontmatter with is gone. -/
theorem merge_can_open_a_frontmatter :
    ∃ b x y m,
      parseMarkdown "a\n---\nb\n".toList .base = .ok b ∧
      parseMarkdown "---\na\n---\nb\n".toList .localVersion = .ok x ∧
      parseMarkdown "a\nb\n".toList .remote = .ok y ∧
      mergeMarkdownThreeWay sampleSha256 trimDiff "a\n---\nb\n".toList
        "---\na\n---\nb\n".toList "a\nb\n".toList = .merged m ∧
      contentFrontmatter m.content ≠ some (chosenFrontmatter b x y) :=
  ⟨_, _, _, _, rfl, rfl, rfl, rfl, by decide⟩

end Markdown
end MyVault
