import MyVault.Markdown.Model

/-!
# The accepted documents and their lines

`ParsesTo t p` says what `parse_markdown` checks and returns, without the order of
the checks and without the version its errors carry.

* `render_of_parsesTo`: rendering a parsed document gives the text back, byte for
  byte.
* `logicalLines_of_render`, `endsWithLf_of_render`: what a rendered list of lines
  is read back as.  A last empty line without a final newline is lost, and a
  final newline after no line at all becomes a line.
-/

namespace MyVault
namespace Markdown

/-- The newline style the two flags of the scan select. -/
def styleOf (sawLf sawCrlf : Bool) : NewlineStyle :=
  if sawCrlf then .crLf else if sawLf then .lf else .none

/-- The text is accepted and `p` is what is read from it. -/
structure ParsesTo (input : Text) (p : ParsedMarkdown) : Prop where
  size : utf8Len input ≤ maxMarkdownVersionBytes
  noMark : input.head? ≠ some byteOrderMark
  scan : ∃ sawLf sawCrlf, scanNewlines input false false = some (sawLf, sawCrlf) ∧
    (sawLf && sawCrlf) = false ∧ p.newlineStyle = styleOf sawLf sawCrlf
  lines : logicalLines input = some p.lines
  lineCount : p.lines.length ≤ maxMarkdownLogicalLines
  closed : frontmatterEndOf p.lines = some p.frontmatterEnd
  finalNewline : p.finalNewline = endsWithLf input

theorem parseMarkdown_eq_ok_iff {input : Text} {version : MarkdownVersion} {p : ParsedMarkdown} :
    parseMarkdown input version = .ok p ↔ ParsesTo input p := by
  constructor
  · intro h
    unfold parseMarkdown at h
    split at h
    · exact absurd h (by simp)
    rename_i hsize
    split at h
    · exact absurd h (by simp)
    rename_i hmark
    split at h
    · exact absurd h (by simp)
    rename_i sawLf sawCrlf hscan
    split at h
    · exact absurd h (by simp)
    rename_i hmixed
    dsimp only at h
    split at h
    · exact absurd h (by simp)
    rename_i lines hlines
    split at h
    · exact absurd h (by simp)
    rename_i hcount
    split at h
    · exact absurd h (by simp)
    rename_i frontmatterEnd hclosed
    rw [Except.ok.injEq] at h
    subst h
    exact ⟨Nat.not_lt.mp hsize, hmark, ⟨sawLf, sawCrlf, hscan, by simpa using hmixed, rfl⟩,
      hlines, Nat.not_lt.mp hcount, hclosed, rfl⟩
  · rintro ⟨hsize, hmark, ⟨sawLf, sawCrlf, hscan, hmixed, hstyle⟩, hlines, hcount, hclosed, hfinal⟩
    obtain ⟨lines, newlineStyle, finalNewline, frontmatterEnd⟩ := p
    simp only at hlines hcount hclosed hstyle hfinal
    rw [parseMarkdown, if_neg (Nat.not_lt.mpr hsize), if_neg hmark, hscan]
    simp only [hmixed, hlines, hclosed, if_neg (Nat.not_lt.mpr hcount), hstyle, hfinal, styleOf,
      Bool.false_eq_true, if_false]

/-! ## Splitting -/

/-- A line has no terminator inside it. -/
def CleanLine (l : Line) : Prop := '\r' ∉ l ∧ '\n' ∉ l

@[simp] theorem stripCr_nil : stripCr [] = [] := rfl

theorem stripCr_of_notMem {l : Line} (h : '\r' ∉ l) : stripCr l = l := by
  rw [stripCr, if_neg]
  intro hl
  exact h (List.mem_of_getLast? hl)

theorem stripCr_append (l : Line) : stripCr (l ++ ['\r']) = l := by
  rw [stripCr, List.getLast?_append, if_pos (by simp), List.dropLast_concat]

theorem stripCr_cons {c : Char} (hc : c ≠ '\r') (l : Line) :
    stripCr (c :: l) = c :: stripCr l := by
  cases l with
  | nil => simp [stripCr, hc]
  | cons d l =>
      rw [stripCr, stripCr, List.getLast?_cons_cons]
      split <;> rfl

@[simp] theorem splitLines_nil : splitLines [] = [[]] := rfl

theorem splitLines_lf (t : Text) : splitLines ('\n' :: t) = [] :: splitLines t := by
  rw [splitLines, List.splitOn_cons_eq_if_modifyHead, if_pos (by simp)]
  rfl

theorem splitLines_ne_nil (t : Text) : splitLines t ≠ [] := by
  simp [splitLines]

theorem splitLines_crLf (t : Text) : splitLines ('\r' :: '\n' :: t) = [] :: splitLines t := by
  rw [splitLines, List.splitOn_cons_eq_if_modifyHead, if_neg (by decide),
    List.splitOn_cons_eq_if_modifyHead, if_pos (by simp)]
  rfl

theorem splitLines_cons {c : Char} (hr : c ≠ '\r') (hn : c ≠ '\n') (t : Text) :
    splitLines (c :: t) = (splitLines t).modifyHead (c :: ·) := by
  rw [splitLines, List.splitOn_cons_eq_if_modifyHead, if_neg (by simpa using hn), splitLines]
  cases h : t.splitOn '\n' with
  | nil => rfl
  | cons l ls => simp [stripCr_cons hr]

/-- A clean line followed by a separator is split off as it is. -/
theorem splitLines_append_separator {l : Line} (hl : CleanLine l) {style : NewlineStyle}
    (hs : style ≠ .none) (t : Text) :
    splitLines (l ++ (separator style ++ t)) = l :: splitLines t := by
  obtain ⟨hr, hn⟩ := hl
  cases style with
  | none => exact absurd rfl hs
  | lf =>
      show splitLines (l ++ '\n' :: t) = _
      rw [splitLines, List.splitOn_append_cons_self_of_not_mem hn, List.map_cons,
        stripCr_of_notMem hr, splitLines]
  | crLf =>
      have hassoc : l ++ (separator .crLf ++ t) = (l ++ ['\r']) ++ '\n' :: t := by
        simp [separator]
      rw [hassoc, splitLines, List.splitOn_append_cons_self_of_not_mem (by simp [hn]),
        List.map_cons, stripCr_append, splitLines]

theorem splitLines_of_clean {l : Line} (hl : CleanLine l) : splitLines l = [l] := by
  rw [splitLines, List.splitOn_eq_singleton hl.2, List.map_singleton, stripCr_of_notMem hl.1]

theorem mem_intercalate_of_mem (sep : Text) {ls : List Line} {l : Line} {c : Char}
    (hl : l ∈ ls) (hc : c ∈ l) : c ∈ sep.intercalate ls := by
  induction ls with
  | nil => exact absurd hl (by simp)
  | cons l' ls ih =>
      cases ls with
      | nil =>
          rw [List.mem_singleton] at hl
          rw [List.intercalate_singleton, ← hl]
          exact hc
      | cons l'' ls =>
          rw [List.intercalate_cons_cons, List.mem_append, List.mem_append]
          rcases List.mem_cons.mp hl with rfl | hl
          · exact Or.inl (Or.inl hc)
          · exact Or.inr (ih hl)

theorem intercalate_append_singleton (sep : Text) {ls : List Line} (hls : ls ≠ []) (l : Line) :
    sep.intercalate (ls ++ [l]) = sep.intercalate ls ++ sep ++ l := by
  induction ls with
  | nil => exact absurd rfl hls
  | cons l' ls ih =>
      cases ls with
      | nil => simp
      | cons l'' ls =>
          have := ih (by simp)
          rw [List.cons_append] at this
          rw [List.cons_append, List.cons_append, List.intercalate_cons_cons, this,
            List.intercalate_cons_cons]
          simp only [List.append_assoc]

/-! ## What the scan knows -/

/-- Every CR of an accepted text is followed by an LF, so no line keeps one. -/
theorem clean_of_scanNewlines {t : Text} {a b : Bool} {flags : Bool × Bool}
    (h : scanNewlines t a b = some flags) : ∀ l ∈ splitLines t, CleanLine l := by
  fun_induction scanNewlines t a b with
  | case1 => simp [CleanLine]
  | case2 rest _ _ ih =>
      rw [splitLines_crLf]
      exact List.forall_mem_cons.mpr ⟨by simp [CleanLine], ih h⟩
  | case3 => exact absurd h (by simp)
  | case4 rest _ _ ih =>
      rw [splitLines_lf]
      exact List.forall_mem_cons.mpr ⟨by simp [CleanLine], ih h⟩
  | case5 c rest _ _ _ hr hn ih =>
      rw [splitLines_cons hr hn]
      have hclean := ih h
      cases hsplit : splitLines rest with
      | nil => exact absurd hsplit (splitLines_ne_nil rest)
      | cons l ls =>
          rw [hsplit, List.forall_mem_cons] at hclean
          rw [List.modifyHead_cons, List.forall_mem_cons]
          refine ⟨⟨?_, ?_⟩, hclean.2⟩
          · simpa [Ne.symm hr] using hclean.1.1
          · simpa [Ne.symm hn] using hclean.1.2

/-- A flag that is set stays set. -/
theorem scanNewlines_flags {t : Text} {a b sawLf sawCrlf : Bool}
    (h : scanNewlines t a b = some (sawLf, sawCrlf)) :
    (sawLf = false → a = false) ∧ (sawCrlf = false → b = false ∧ '\r' ∉ t) ∧
    (sawLf = false → sawCrlf = false → '\n' ∉ t) := by
  fun_induction scanNewlines t a b with
  | case1 a b =>
      rw [Option.some.injEq, Prod.mk.injEq] at h
      simp [h]
  | case2 rest a b ih =>
      obtain ⟨h₁, h₂, -⟩ := ih h
      refine ⟨h₁, fun hc => absurd (h₂ hc).1 (by simp), fun _ hc => absurd (h₂ hc).1 (by simp)⟩
  | case3 => exact absurd h (by simp)
  | case4 rest a b ih =>
      obtain ⟨h₁, h₂, -⟩ := ih h
      refine ⟨fun hl => absurd (h₁ hl) (by simp), fun hc => ⟨(h₂ hc).1, ?_⟩,
        fun hl => absurd (h₁ hl) (by simp)⟩
      simpa using (h₂ hc).2
  | case5 c rest a b _ hr hn ih =>
      obtain ⟨h₁, h₂, h₃⟩ := ih h
      refine ⟨h₁, fun hc => ⟨(h₂ hc).1, ?_⟩, fun hl hc => ?_⟩
      · simpa [Ne.symm hr] using (h₂ hc).2
      · simpa [Ne.symm hn] using h₃ hl hc

/-- A text without a bare LF is its lines with a CRLF between them. -/
theorem intercalate_crLf_of_scan {t : Text} {a b sawCrlf : Bool}
    (h : scanNewlines t a b = some (false, sawCrlf)) :
    ['\r', '\n'].intercalate (splitLines t) = t := by
  fun_induction scanNewlines t a b with
  | case1 => simp
  | case2 rest _ _ ih =>
      rw [splitLines_crLf, List.intercalate_cons_of_ne_nil (splitLines_ne_nil rest), ih h]
      rfl
  | case3 => exact absurd h (by simp)
  | case4 rest _ _ _ => exact absurd ((scanNewlines_flags h).1 rfl) (by simp)
  | case5 c rest _ _ _ hr hn ih =>
      rw [splitLines_cons hr hn]
      have hih := ih h
      cases hsplit : splitLines rest with
      | nil => exact absurd hsplit (splitLines_ne_nil rest)
      | cons l ls =>
          rw [hsplit] at hih
          rw [List.modifyHead_cons, List.intercalate_cons_cons_left, hih]

/-- A text without a CR is its lines with an LF between them. -/
theorem intercalate_lf_of_notMem {t : Text} (h : '\r' ∉ t) :
    ['\n'].intercalate (splitLines t) = t := by
  have hstrip : (t.splitOn '\n').map stripCr = t.splitOn '\n' := by
    conv_rhs => rw [← List.map_id (t.splitOn '\n')]
    refine List.map_congr_left fun l hl => stripCr_of_notMem fun hr => h ?_
    have hmem := mem_intercalate_of_mem ['\n'] hl hr
    rwa [List.intercalate_splitOn] at hmem
  rw [splitLines, hstrip, List.intercalate_splitOn]

/-- An accepted text is its pieces with its own separator between them. -/
theorem intercalate_splitLines {t : Text} {sawLf sawCrlf : Bool}
    (h : scanNewlines t false false = some (sawLf, sawCrlf)) (hm : (sawLf && sawCrlf) = false) :
    (separator (styleOf sawLf sawCrlf)).intercalate (splitLines t) = t := by
  obtain ⟨-, hcr, hlf⟩ := scanNewlines_flags h
  cases sawCrlf with
  | true =>
      rw [Bool.and_true] at hm
      subst hm
      exact intercalate_crLf_of_scan h
  | false =>
      cases sawLf with
      | true => exact intercalate_lf_of_notMem (hcr rfl).2
      | false =>
          rw [splitLines_of_clean ⟨(hcr rfl).2, hlf rfl rfl⟩]
          simp

/-! ## Rendering what was parsed -/

theorem logicalLines_eq_some_iff {t : Text} {ls : List Line} :
    logicalLines t = some ls ↔
      (endsWithLf t = true ∧ splitLines t = ls ++ [[]]) ∨
      (endsWithLf t = false ∧ t = [] ∧ ls = []) ∨
      (endsWithLf t = false ∧ t ≠ [] ∧ ls = splitLines t) := by
  rw [logicalLines]
  by_cases hend : endsWithLf t = true
  · by_cases hlast : (splitLines t).getLast? = some []
    · have hpieces := List.dropLast_append_getLast? [] hlast
      simp only [hend, hlast, if_true, Option.some.injEq, true_and, Bool.true_eq_false, false_and,
        or_false]
      constructor
      · rintro rfl
        exact hpieces.symm
      · intro h
        rw [h, List.dropLast_concat]
    · simp only [hend, hlast, if_true, if_false, true_and, Bool.true_eq_false, false_and,
        or_false, reduceCtorEq, false_iff]
      intro h
      exact hlast (by rw [h, List.getLast?_append]; rfl)
  · rw [Bool.not_eq_true] at hend
    by_cases ht : t = []
    · subst ht
      have hend' : endsWithLf [] = false := rfl
      simp only [hend', Bool.false_eq_true, if_false, if_true, Option.some.injEq, false_and,
        true_and, ne_eq, not_true_eq_false, false_or, or_false]
      exact eq_comm
    · simp only [hend, ht, Bool.false_eq_true, if_false, Option.some.injEq, false_and, and_false,
        true_and, ne_eq, not_false_eq_true, false_or]
      exact eq_comm

theorem render_eq_some_iff {ls : List Line} {style : NewlineStyle} {final : Bool} {t : Text} :
    render ls style final = some t ↔
      (style = .none → ls.length ≤ 1 ∧ final = false) ∧
      t = (separator style).intercalate ls ++ if final then separator style else [] := by
  rw [render]
  by_cases h : style = .none ∧ (1 < ls.length ∨ final = true)
  · rw [if_pos h]
    simp only [reduceCtorEq, false_iff, not_and]
    intro h'
    have := h' h.1
    rcases h.2 with hlen | hfinal
    · omega
    · exact absurd hfinal (by simp [this.2])
  · rw [if_neg h]
    have hstyle : style = .none → ls.length ≤ 1 ∧ final = false := fun hs => by
      rw [not_and, not_or, Bool.not_eq_true, Nat.not_lt] at h
      exact h hs
    rw [and_iff_right hstyle, Option.some.injEq, eq_comm]
    cases final <;> simp

section Parsed

variable {t : Text} {p : ParsedMarkdown}

theorem ParsesTo.clean (h : ParsesTo t p) : ∀ l ∈ p.lines, CleanLine l := by
  obtain ⟨sawLf, sawCrlf, hscan, -, -⟩ := h.scan
  have hclean := clean_of_scanNewlines hscan
  intro l hl
  rcases logicalLines_eq_some_iff.mp h.lines with ⟨-, hs⟩ | ⟨-, -, hs⟩ | ⟨-, -, hs⟩
  · exact hclean l (hs ▸ List.mem_append_left _ hl)
  · exact absurd hl (by simp [hs])
  · exact hclean l (hs ▸ hl)

theorem ParsesTo.intercalate_splitLines (h : ParsesTo t p) :
    (separator p.newlineStyle).intercalate (splitLines t) = t := by
  obtain ⟨sawLf, sawCrlf, hscan, hmixed, hstyle⟩ := h.scan
  rw [hstyle]
  exact Markdown.intercalate_splitLines hscan hmixed

/-- A text of style `none` has one piece and no final newline. -/
theorem ParsesTo.style_none (h : ParsesTo t p) (hs : p.newlineStyle = .none) :
    splitLines t = [t] ∧ endsWithLf t = false := by
  obtain ⟨sawLf, sawCrlf, hscan, -, hstyle⟩ := h.scan
  rw [hs, styleOf] at hstyle
  have hcrlf : sawCrlf = false := by
    cases sawCrlf with
    | false => rfl
    | true => exact absurd hstyle (by simp)
  have hlf : sawLf = false := by
    cases sawLf with
    | false => rfl
    | true => exact absurd hstyle (by simp [hcrlf])
  obtain ⟨-, hcr, hnl⟩ := scanNewlines_flags hscan
  refine ⟨splitLines_of_clean ⟨(hcr hcrlf).2, hnl hlf hcrlf⟩, ?_⟩
  rw [endsWithLf, decide_eq_false_iff_not]
  exact fun hlast => hnl hlf hcrlf (List.mem_of_getLast? hlast)

/-- **Rendering is a left inverse of parsing**: the lines, the style and the final
newline of an accepted text determine every byte of it. -/
theorem render_of_parsesTo (h : ParsesTo t p) :
    render p.lines p.newlineStyle p.finalNewline = some t := by
  have hjoin := h.intercalate_splitLines
  rw [render_eq_some_iff, h.finalNewline]
  rcases logicalLines_eq_some_iff.mp h.lines with ⟨hend, hs⟩ | ⟨hend, ht, hs⟩ | ⟨hend, -, hs⟩
  · -- the pieces are the lines and one empty piece
    have hne : p.lines ≠ [] := by
      intro hnil
      rw [hs, hnil, List.nil_append, List.intercalate_singleton] at hjoin
      exact absurd hend (by simp [← hjoin, endsWithLf])
    rw [hs, intercalate_append_singleton _ hne, List.append_nil] at hjoin
    refine ⟨fun hstyle => absurd hend (by simp [(h.style_none hstyle).2]), ?_⟩
    rw [hend, if_pos rfl, hjoin]
  · rw [hs, hend]
    exact ⟨fun _ => ⟨Nat.zero_le _, rfl⟩, by simp [ht]⟩
  · rw [hs, hjoin, hend]
    refine ⟨fun hstyle => ⟨?_, rfl⟩, by simp⟩
    rw [(h.style_none hstyle).1, List.length_singleton]

end Parsed

/-! ## Reading back what was rendered -/

theorem separator_getLast? {style : NewlineStyle} (hs : style ≠ .none) :
    (separator style).getLast? = some '\n' := by
  cases style with
  | none => exact absurd rfl hs
  | lf => rfl
  | crLf => rfl

/-- Clean lines with a separator between them are split into themselves. -/
theorem splitLines_intercalate {ls : List Line} (hclean : ∀ l ∈ ls, CleanLine l) (hne : ls ≠ [])
    {style : NewlineStyle} (hs : style = .none → ls.length ≤ 1) :
    splitLines ((separator style).intercalate ls) = ls := by
  induction ls with
  | nil => exact absurd rfl hne
  | cons l ls ih =>
      obtain ⟨hl, hls⟩ := List.forall_mem_cons.mp hclean
      cases ls with
      | nil => rw [List.intercalate_singleton, splitLines_of_clean hl]
      | cons l' ls =>
          have hstyle : style ≠ .none := fun h => by simpa using hs h
          rw [List.intercalate_cons_cons, List.append_assoc,
            splitLines_append_separator hl hstyle,
            ih hls (by simp) fun h => absurd h hstyle]

theorem endsWithLf_append_clean {l : Line} (hl : CleanLine l) {t : Text} :
    endsWithLf (t ++ l) = if l = [] then endsWithLf t else false := by
  split
  · rename_i h
    rw [h, List.append_nil]
  · rename_i h
    rw [endsWithLf, List.getLast?_append, decide_eq_false_iff_not]
    intro hlast
    rw [List.getLast?_eq_some_getLast h, Option.some_or, Option.some.injEq] at hlast
    exact hl.2 (hlast ▸ List.getLast_mem h)

/-- The lines that are read from a rendered list of lines: without a final newline
a last empty line is lost, and a final newline after no line makes one. -/
def readBack (ls : List Line) (final : Bool) : List Line :=
  if final then (if ls = [] then [[]] else ls)
  else if ls.getLast? = some [] then ls.dropLast else ls

theorem readBack_eq_self_iff {ls : List Line} {final : Bool} :
    readBack ls final = ls ↔
      (ls = [] → final = false) ∧ (ls.getLast? = some [] → final = true) := by
  cases final with
  | true => by_cases h : ls = [] <;> simp [readBack, h]
  | false =>
      by_cases h : ls.getLast? = some []
      · have hne : ls ≠ [] := fun hnil => by simp [hnil] at h
        simp only [readBack, Bool.false_eq_true, if_false, h, if_true, implies_true, true_and,
          forall_const, iff_false]
        intro hdrop
        have hlen := congrArg List.length hdrop
        rw [List.length_dropLast] at hlen
        have := List.length_pos_of_ne_nil hne
        omega
      · simp [readBack, h]

section Rendered

variable {ls : List Line} {style : NewlineStyle} {final : Bool} {t : Text}

/-- Lines rendered with a final newline: every one of them is followed by a
separator, and so is the missing one when there is none. -/
theorem readBack_of_final (hclean : ∀ l ∈ ls, CleanLine l) (hs : style ≠ .none)
    (ht : t = (separator style).intercalate ls ++ separator style) :
    logicalLines t = some (readBack ls true) ∧ endsWithLf t = true := by
  have hend : endsWithLf t = true := by
    rw [ht, endsWithLf, List.getLast?_append, separator_getLast? hs]
    rfl
  refine ⟨logicalLines_eq_some_iff.mpr (Or.inl ⟨hend, ?_⟩), hend⟩
  by_cases hnil : ls = []
  · have hsplit := splitLines_append_separator (l := []) ⟨by simp, by simp⟩ hs []
    simpa [ht, readBack, hnil] using hsplit
  · have hrow := intercalate_append_singleton (separator style) hnil []
    rw [List.append_nil, ← ht] at hrow
    rw [← hrow, splitLines_intercalate _ (by simp) fun h => absurd h hs]
    · simp [readBack, hnil]
    · intro l hl
      rcases List.mem_append.mp hl with hl | hl
      · exact hclean l hl
      · rw [List.mem_singleton] at hl
        simp [hl, CleanLine]

/-- One line on its own: nothing separates it from anything. -/
theorem readBack_singleton {l : Line} (hl : CleanLine l) :
    logicalLines l = some (readBack [l] false) ∧ endsWithLf l = false := by
  have hend : endsWithLf l = false := by
    have happend := endsWithLf_append_clean hl (t := [])
    rw [List.nil_append] at happend
    rw [happend]
    split <;> rfl
  refine ⟨?_, hend⟩
  by_cases hlnil : l = []
  · simp [hlnil, readBack, logicalLines, endsWithLf]
  · refine logicalLines_eq_some_iff.mpr (Or.inr (Or.inr ⟨hend, hlnil, ?_⟩))
    simp [readBack, hlnil, splitLines_of_clean hl]

/-- Several lines without a final newline: an empty last one is read as the end of
the line before it. -/
theorem readBack_of_several {init : List Line} {l : Line}
    (hclean : ∀ l' ∈ init ++ [l], CleanLine l') (hinit : init ≠ []) (hs : style ≠ .none)
    (ht : t = (separator style).intercalate (init ++ [l])) :
    logicalLines t = some (readBack (init ++ [l]) false) ∧ endsWithLf t = decide (l = []) := by
  have hl : CleanLine l := hclean l (by simp)
  have hpieces := splitLines_intercalate hclean (by simp) fun h => absurd h hs
  rw [← ht] at hpieces
  rw [intercalate_append_singleton _ hinit] at ht
  have hend : endsWithLf t = decide (l = []) := by
    rw [ht, endsWithLf_append_clean hl]
    split
    · rename_i hlnil
      rw [endsWithLf, List.getLast?_append, separator_getLast? hs]
      simp [hlnil]
    · rename_i hlnil
      simp [hlnil]
  refine ⟨logicalLines_eq_some_iff.mpr ?_, hend⟩
  by_cases hlnil : l = []
  · refine Or.inl ⟨by simp [hend, hlnil], ?_⟩
    rw [hpieces]
    simp [readBack, hlnil]
  · refine Or.inr (Or.inr ⟨by simp [hend, hlnil], by simp [ht, hlnil], ?_⟩)
    rw [hpieces]
    simp [readBack, hlnil]

/-- **What a rendered list of lines is read back as.** -/
theorem readBack_of_render (hclean : ∀ l ∈ ls, CleanLine l)
    (h : render ls style final = some t) :
    logicalLines t = some (readBack ls final) ∧
      (readBack ls final = ls → endsWithLf t = final) := by
  obtain ⟨hstyle, ht⟩ := render_eq_some_iff.mp h
  cases hfinal : final with
  | true =>
      rw [hfinal, if_pos rfl] at ht
      obtain ⟨hlines, hend⟩ := readBack_of_final hclean (fun hs => by simp [hstyle hs] at hfinal) ht
      exact ⟨hlines, fun _ => hend⟩
  | false =>
      rw [hfinal, if_neg (by simp), List.append_nil] at ht
      rcases List.eq_nil_or_concat ls with hnil | ⟨init, l, hinit⟩
      · simp [ht, hnil, readBack, logicalLines, endsWithLf]
      rw [List.concat_eq_append] at hinit
      subst hinit
      by_cases hinitNil : init = []
      · subst hinitNil
        rw [List.nil_append, List.intercalate_singleton] at ht
        obtain ⟨hlines, hend⟩ := readBack_singleton (hclean l (by simp))
        exact ⟨ht ▸ hlines, fun _ => ht ▸ hend⟩
      · have hs : style ≠ .none := fun hs => by
          have hlen := (hstyle hs).1
          have hpos := List.length_pos_of_ne_nil hinitNil
          rw [List.length_append, List.length_singleton] at hlen
          omega
        obtain ⟨hlines, hend⟩ := readBack_of_several hclean hinitNil hs ht
        refine ⟨hlines, fun hself => ?_⟩
        have hlast := (readBack_eq_self_iff.mp hself).2
        rw [hend, decide_eq_false_iff_not]
        rintro rfl
        exact absurd (hlast (by simp)) (by simp)

/-- The bytes of a rendered list of lines. -/
def renderedLen (ls : List Line) (style : NewlineStyle) (final : Bool) : ℕ :=
  (ls.map utf8Len).sum + utf8Len (separator style) * (ls.length - 1 + if final then 1 else 0)

theorem utf8Len_intercalate (sep : Text) (ls : List Line) :
    utf8Len (sep.intercalate ls) = (ls.map utf8Len).sum + utf8Len sep * (ls.length - 1) := by
  induction ls with
  | nil => simp
  | cons l ls ih =>
      cases ls with
      | nil => simp
      | cons l' ls =>
          rw [List.intercalate_cons_cons, utf8Len_append, utf8Len_append, ih]
          simp only [List.map_cons, List.sum_cons, List.length_cons, Nat.add_sub_cancel,
            Nat.mul_add, Nat.mul_one]
          omega

theorem utf8Len_of_render (h : render ls style final = some t) :
    utf8Len t = renderedLen ls style final := by
  obtain ⟨-, rfl⟩ := render_eq_some_iff.mp h
  rw [utf8Len_append, utf8Len_intercalate, renderedLen]
  cases final <;> simp [Nat.mul_add, Nat.add_assoc]

theorem separator_head?_ne (hs : style ≠ .none) (rest : Text) :
    (separator style ++ rest).head? ≠ some byteOrderMark := by
  cases style with
  | none => exact absurd rfl hs
  | lf => exact fun h => absurd (Option.some.inj h) (by decide)
  | crLf => exact fun h => absurd (Option.some.inj h) (by decide)

/-- A rendered text begins with the byte order mark only where its first line does. -/
theorem head?_of_render (h : render ls style final = some t) :
    t.head? = some byteOrderMark ↔ ∃ rest, ls.head? = some (byteOrderMark :: rest) := by
  obtain ⟨hstyle, ht⟩ := render_eq_some_iff.mp h
  have htail : (if final then separator style else []).head? ≠ some byteOrderMark := by
    split
    · rename_i hfinal
      have hs : style ≠ .none := fun hs => by simp [hstyle hs] at hfinal
      simpa using separator_head?_ne hs []
    · simp
  -- the text is the first line and something that does not begin with the mark
  have hfirst : ∀ l ls', ls = l :: ls' → ∃ rest : Text, t = l ++ rest ∧
      rest.head? ≠ some byteOrderMark := by
    rintro l ls' rfl
    cases ls' with
    | nil => exact ⟨_, by rw [ht, List.intercalate_singleton], htail⟩
    | cons l' ls' =>
        have hs : style ≠ .none := fun hs => by simpa using (hstyle hs).1
        refine ⟨separator style ++ ((separator style).intercalate (l' :: ls') ++
          if final then separator style else []), ?_, separator_head?_ne hs _⟩
        rw [ht, List.intercalate_cons_cons, List.append_assoc, List.append_assoc]
  cases ls with
  | nil =>
      rw [List.intercalate_nil, List.nil_append] at ht
      simp [ht, htail]
  | cons l ls =>
      obtain ⟨rest, hrest, hne⟩ := hfirst l ls rfl
      rw [hrest]
      cases l with
      | nil => simp [hne]
      | cons c l => simp

end Rendered

/-! ## When a rendered list of lines is read back -/

/-- The scan passes over a clean line. -/
theorem scanNewlines_clean {l : Line} (hl : CleanLine l) (t : Text) (a b : Bool) :
    scanNewlines (l ++ t) a b = scanNewlines t a b := by
  induction l with
  | nil => rfl
  | cons c l ih =>
      obtain ⟨hr, hn⟩ := hl
      rw [List.mem_cons, not_or] at hr hn
      rw [List.cons_append, scanNewlines]
      · exact ih ⟨hr.2, hn.2⟩
      · exact fun _ h => absurd h.symm hr.1
      · exact fun h => absurd h.symm hr.1
      · exact fun h => absurd h.symm hn.1

/-- The flags the separators of one style can raise. -/
def FlagsOf (style : NewlineStyle) (flags : Bool × Bool) : Prop :=
  (flags.1 = true → style = .lf) ∧ (flags.2 = true → style = .crLf)

theorem scanNewlines_separator (style : NewlineStyle) (t : Text) {a b : Bool}
    (h : FlagsOf style (a, b)) :
    ∃ a' b', FlagsOf style (a', b') ∧
      scanNewlines (separator style ++ t) a b = scanNewlines t a' b' := by
  cases style with
  | none => exact ⟨a, b, h, rfl⟩
  | lf => exact ⟨true, b, ⟨fun _ => rfl, h.2⟩, rfl⟩
  | crLf => exact ⟨a, true, ⟨h.1, fun _ => rfl⟩, rfl⟩

theorem scanNewlines_intercalate {ls : List Line} (hclean : ∀ l ∈ ls, CleanLine l)
    (style : NewlineStyle) (t : Text) {a b : Bool} (h : FlagsOf style (a, b)) :
    ∃ a' b', FlagsOf style (a', b') ∧
      scanNewlines ((separator style).intercalate ls ++ t) a b = scanNewlines t a' b' := by
  induction ls generalizing a b with
  | nil => exact ⟨a, b, h, rfl⟩
  | cons l ls ih =>
      obtain ⟨hl, hls⟩ := List.forall_mem_cons.mp hclean
      cases ls with
      | nil =>
          refine ⟨a, b, h, ?_⟩
          rw [List.intercalate_singleton, scanNewlines_clean hl]
      | cons l' ls =>
          rw [List.intercalate_cons_cons, List.append_assoc, List.append_assoc,
            scanNewlines_clean hl]
          obtain ⟨a₁, b₁, h₁, hs₁⟩ := scanNewlines_separator style
            ((separator style).intercalate (l' :: ls) ++ t) h
          obtain ⟨a₂, b₂, h₂, hs₂⟩ := ih hls h₁
          exact ⟨a₂, b₂, h₂, hs₁.trans hs₂⟩

/-- A rendered text has no bare CR and no mixed terminators. -/
theorem scanNewlines_of_render {ls : List Line} {style : NewlineStyle} {final : Bool} {t : Text}
    (hclean : ∀ l ∈ ls, CleanLine l) (h : render ls style final = some t) :
    ∃ sawLf sawCrlf, scanNewlines t false false = some (sawLf, sawCrlf) ∧
      (sawLf && sawCrlf) = false := by
  obtain ⟨-, ht⟩ := render_eq_some_iff.mp h
  have hstart : FlagsOf style (false, false) := ⟨by simp, by simp⟩
  have hend : ∀ a b, FlagsOf style (a, b) → (a && b) = false := by
    rintro a b ⟨ha, hb⟩
    cases a <;> cases b <;> simp_all
  obtain ⟨a, b, hab, hscan⟩ := scanNewlines_intercalate hclean style
    (if final then separator style else []) hstart
  rw [← ht] at hscan
  split at hscan
  · obtain ⟨a', b', hab', hscan'⟩ := scanNewlines_separator style [] hab
    rw [List.append_nil] at hscan'
    exact ⟨a', b', hscan.trans hscan', hend a' b' hab'⟩
  · exact ⟨a, b, hscan, hend a b hab⟩

/-- The lines of an accepted document, and what the parser reads from its text. -/
structure Readable (ls : List Line) (style : NewlineStyle) (final : Bool) : Prop where
  size : renderedLen ls style final ≤ maxMarkdownVersionBytes
  lineCount : ls.length ≤ maxMarkdownLogicalLines
  noMark : ∀ rest, ls.head? ≠ some (byteOrderMark :: rest)
  closed : ls.head? = some fence → fence ∈ ls.drop 1
  noLines : ls = [] → final = false
  lastLine : ls.getLast? = some [] → final = true

theorem frontmatterEndOf_ne_none_iff {ls : List Line} :
    frontmatterEndOf ls ≠ none ↔ (ls.head? = some fence → fence ∈ ls.drop 1) := by
  rw [frontmatterEndOf]
  by_cases hopen : ls.head? = some fence
  · rw [if_pos hopen]
    cases hfind : (ls.drop 1).findIdx? (· = fence) with
    | none =>
        rw [List.findIdx?_eq_none_iff] at hfind
        simp only [ne_eq, not_true_eq_false, hopen, forall_const, false_iff]
        intro hmem
        simpa using hfind fence hmem
    | some k =>
        obtain ⟨hlt, heq, -⟩ := List.findIdx?_eq_some_iff_getElem.mp hfind
        rw [decide_eq_true_eq] at heq
        simp only [ne_eq, reduceCtorEq, not_false_eq_true, true_iff]
        exact fun _ => heq ▸ List.getElem_mem hlt
  · simp [hopen]

/-- **A rendered list of lines is an accepted document with those lines exactly when
it is `Readable`.** -/
theorem parsesTo_of_render_iff {ls : List Line} {style : NewlineStyle} {final : Bool} {t : Text}
    (hclean : ∀ l ∈ ls, CleanLine l) (h : render ls style final = some t) :
    (∃ p, ParsesTo t p ∧ p.lines = ls ∧ p.finalNewline = final) ↔ Readable ls style final := by
  obtain ⟨hlines, hfinal⟩ := readBack_of_render hclean h
  constructor
  · rintro ⟨p, hp, rfl, hpf⟩
    have hself : readBack p.lines final = p.lines :=
      Option.some.inj (hlines.symm.trans hp.lines)
    obtain ⟨hnil, hlast⟩ := readBack_eq_self_iff.mp hself
    refine ⟨utf8Len_of_render h ▸ hp.size, hp.lineCount, fun rest hhead => ?_, ?_, hnil, hlast⟩
    · exact hp.noMark ((head?_of_render h).mpr ⟨rest, hhead⟩)
    · exact frontmatterEndOf_ne_none_iff.mp (by rw [hp.closed]; simp)
  · intro hr
    have hself : readBack ls final = ls := readBack_eq_self_iff.mpr ⟨hr.noLines, hr.lastLine⟩
    obtain ⟨sawLf, sawCrlf, hscan, hmixed⟩ := scanNewlines_of_render hclean h
    obtain ⟨stop, hstop⟩ := Option.ne_none_iff_exists'.mp
      (frontmatterEndOf_ne_none_iff.mpr hr.closed)
    refine ⟨⟨ls, styleOf sawLf sawCrlf, final, stop⟩, ⟨?_, ?_, ⟨sawLf, sawCrlf, hscan, hmixed, rfl⟩,
      ?_, hr.lineCount, hstop, (hfinal hself).symm⟩, rfl, rfl⟩
    · rw [utf8Len_of_render h]
      exact hr.size
    · intro hmark
      obtain ⟨rest, hrest⟩ := (head?_of_render h).mp hmark
      exact hr.noMark rest hrest
    · rw [hlines, hself]

end Markdown
end MyVault
