import MyVault.Markdown.Grammar
import MyVault.Markdown.Scripts

/-!
# What a merge is

`IsMergeOf` says what a merged document is without saying how it is computed: the
three checks of whole documents, and a content that renders the lines both edit
scripts leave of the base.  `mergeParsed_eq_merged_iff` and
`mergeMarkdownThreeWay_eq_merged_iff` identify the function with it, so every
later result about merges reads off this structure.

* `merged_is_base_with_both_scripts`: the lines of a merged document are the base
  with both scripts applied, and two scripts that do not overlap always combine.
* `merge_comm`: the two replicas may change places.
* `merge_reproduces_one_sided_change`: a change of one side, or the same change of
  both, is reproduced byte for byte.

## Order and application

The source combines the edits into one sorted list and walks the base with a cursor.
`Library.EditScript` says what a list of edits means without an order (`splice`), and the cursor
arrives at the same lines for sorted edits that do not overlap.  So the merge is described by the
union of the two scripts, `linesLeft`, and which script is added to which makes no difference to
it: this is all there is to `merge_comm`.

`BothApplied` says in full what the union is: which base lines are deleted, and which block stands
at which anchor.  `MergedMarkdown` has two more parts that are chosen, the newline style and the
final newline, and each of them is what one side has made of the base.
-/

namespace MyVault
namespace Markdown

open EditScript SequenceDiff

/-! ## Selecting one of three -/

section Select

variable {α : Type*} [DecidableEq α]

theorem selectThreeWay_comm (base x y : α) : selectThreeWay base x y = selectThreeWay base y x := by
  unfold selectThreeWay
  grind

/-- A side that equals the base leaves the choice to the other one. -/
@[simp] theorem selectThreeWay_left (base x : α) : selectThreeWay base base x = some x := by
  unfold selectThreeWay
  grind

@[simp] theorem selectThreeWay_same (base x : α) : selectThreeWay base x x = some x := by
  simp [selectThreeWay]

end Select

theorem divergentFrontmatter_comm (b x y : ParsedMarkdown) :
    divergentFrontmatter b x y = divergentFrontmatter b y x := Bool.and_comm _ _

theorem divergentFrontmatter_eq_false_iff {b x y : ParsedMarkdown} :
    divergentFrontmatter b x y = false ↔
      frontmatter x = frontmatter b ∨ frontmatter y = frontmatter b := by
  rw [divergentFrontmatter, Bool.and_eq_false_iff, bne_eq_false_iff_eq, bne_eq_false_iff_eq]

theorem diffWork_comm (b x y : ParsedMarkdown) : diffWork b x y = diffWork b y x := by
  rw [diffWork, diffWork, max_comm]

/-! ## The merge as a relation -/

/-- The edit script of one side. -/
def scriptOf (diff : SequenceDiff Line) (base changed : ParsedMarkdown) : List (Edit Line) :=
  myersEdits diff base.lines changed.lines

/-- The lines that both edit scripts leave of the base. -/
def linesLeft (diff : SequenceDiff Line) (b x y : ParsedMarkdown) : List Line :=
  splice (union (scriptOf diff b x) (scriptOf diff b y)) b.lines

/-- `m` is the merge of `x` and `y` over `b`. -/
structure IsMergeOf (sha256 : Sha256) (diff : SequenceDiff Line) (b x y : ParsedMarkdown)
    (m : MergedMarkdown) : Prop where
  work : diffWork b x y ≤ maxMarkdownDiffWork
  frontmatter : divergentFrontmatter b x y = false
  newlineStyle :
    selectThreeWay b.newlineStyle x.newlineStyle y.newlineStyle = some m.newlineStyle
  finalNewline :
    selectThreeWay b.finalNewline x.finalNewline y.finalNewline = some m.finalNewline
  noOverlap : NoOverlap (scriptOf diff b x) (scriptOf diff b y)
  content : render (linesLeft diff b x y) m.newlineStyle m.finalNewline = some m.content
  byteLength : u64TryFrom (utf8Len m.content) = some m.byteLength
  digest : m.sha256 = hexSha256 sha256 (utf8Bytes m.content)

theorem mergeParsed_eq_merged_iff {sha256 : Sha256} {diff : SequenceDiff Line}
    {b x y : ParsedMarkdown} {m : MergedMarkdown} :
    mergeParsed sha256 diff b x y = .merged m ↔ IsMergeOf sha256 diff b x y m := by
  have hx := myersEdits_isScript diff b.lines x.lines
  have hy := myersEdits_isScript diff b.lines y.lines
  constructor
  · intro h
    unfold mergeParsed at h
    rw [editsFromMyers_eq_ok, editsFromMyers_eq_ok] at h
    split at h
    · exact absurd h (by simp)
    rename_i hwork
    split at h
    · exact absurd h (by simp)
    rename_i hfront
    split at h
    · exact absurd h (by simp)
    rename_i style hstyle
    split at h
    · exact absurd h (by simp)
    rename_i final hfinal
    dsimp only at h
    split at h
    · exact absurd h (by simp)
    rename_i edits hedits
    obtain ⟨hno, rfl⟩ := (combineEdits_eq_ok_iff hx hy).mp hedits
    rw [applyEdits_sortedUnion hx hy hno] at h
    dsimp only at h
    split at h
    · exact absurd h (by simp)
    rename_i content hcontent
    split at h
    · exact absurd h (by simp)
    rename_i byteLength hlength
    rw [MarkdownMergeOutcome.merged.injEq] at h
    subst h
    exact ⟨Nat.not_lt.mp hwork, by simpa using hfront, hstyle, hfinal, hno, hcontent, hlength, rfl⟩
  · rintro ⟨hwork, hfront, hstyle, hfinal, hno, hcontent, hlength, hdigest⟩
    have hedits := (combineEdits_eq_ok_iff hx hy).mpr ⟨hno, rfl⟩
    have happly := applyEdits_sortedUnion hx hy hno
    rw [linesLeft, scriptOf, scriptOf] at hcontent
    simp only [mergeParsed, if_neg (Nat.not_lt.mpr hwork), hfront, hstyle, hfinal,
      editsFromMyers_eq_ok, hedits, happly, hcontent, hlength, Bool.false_eq_true, if_false,
      ← hdigest]

theorem combinedSize_eq_some_iff {base x y : Text} {n : ℕ} :
    combinedSize base x y = some n ↔
      utf8Len base + utf8Len x + utf8Len y = n ∧ n < wordLimit := by
  unfold combinedSize checkedAdd
  split
  · rename_i h
    have hlarge : ¬ utf8Len base + utf8Len x < wordLimit := fun hlt => by
      rw [fitsWord_eq_some_iff.mpr ⟨rfl, hlt⟩] at h
      exact absurd h (by simp)
    simp only [reduceCtorEq, false_iff, not_and]
    omega
  · rename_i size h
    obtain ⟨rfl, -⟩ := fitsWord_eq_some_iff.mp h
    exact fitsWord_eq_some_iff

/-- **The function is the relation.** -/
theorem mergeMarkdownThreeWay_eq_merged_iff {sha256 : Sha256} {diff : SequenceDiff Line}
    {base x y : Text} {m : MergedMarkdown} :
    mergeMarkdownThreeWay sha256 diff base x y = .merged m ↔
      utf8Len base + utf8Len x + utf8Len y ≤ maxMarkdownCombinedBytes ∧
      ∃ b l r, ParsesTo base b ∧ ParsesTo x l ∧ ParsesTo y r ∧ IsMergeOf sha256 diff b l r m := by
  have hword : maxMarkdownCombinedBytes < wordLimit := by decide
  constructor
  · intro h
    unfold mergeMarkdownThreeWay at h
    split at h
    · exact absurd h (by simp)
    rename_i size hsize
    split at h
    · exact absurd h (by simp)
    rename_i hbound
    split at h
    · exact absurd h (by simp)
    rename_i b hb
    split at h
    · exact absurd h (by simp)
    rename_i l hl
    split at h
    · exact absurd h (by simp)
    rename_i r hr
    rw [parseMarkdown_eq_ok_iff] at hb hl hr
    obtain ⟨rfl, -⟩ := combinedSize_eq_some_iff.mp hsize
    exact ⟨Nat.not_lt.mp hbound, b, l, r, hb, hl, hr, mergeParsed_eq_merged_iff.mp h⟩
  · rintro ⟨hbound, b, l, r, hb, hl, hr, h⟩
    have hsize := combinedSize_eq_some_iff.mpr
      ⟨rfl, Nat.lt_of_le_of_lt hbound hword⟩
    unfold mergeMarkdownThreeWay
    simp only [hsize, if_neg (Nat.not_lt.mpr hbound), parseMarkdown_eq_ok_iff.mpr hb,
      parseMarkdown_eq_ok_iff.mpr hl, parseMarkdown_eq_ok_iff.mpr hr,
      mergeParsed_eq_merged_iff.mpr h]

/-- A text is parsed in one way only. -/
theorem ParsesTo.unique {t : Text} {p q : ParsedMarkdown} (hp : ParsesTo t p) (hq : ParsesTo t q) :
    p = q := by
  have h : parseMarkdown t .base = .ok p := parseMarkdown_eq_ok_iff.mpr hp
  rw [parseMarkdown_eq_ok_iff.mpr hq] at h
  exact (Except.ok.inj h).symm

/-! ## Base plus both scripts -/

/-- `merged` is the base with both scripts applied, a shared edit once. -/
structure BothApplied (base : List Line) (localEdits remoteEdits : List (Edit Line))
    (merged : List Line) : Prop where
  /-- No two different edits of opposite sides overlap. -/
  noOverlap : ∀ e ∈ localEdits, ∀ f ∈ remoteEdits, e ≠ f → editsOverlap e f = false
  /-- Position by position: the block anchored there, then the base line unless deleted. -/
  result : merged = splice (union localEdits remoteEdits) base
  /-- A base line is deleted exactly when one of the sides deletes it. -/
  kept : ∀ i, deletedAt (union localEdits remoteEdits) i =
    (deletedAt localEdits i || deletedAt remoteEdits i)
  /-- Every edit names a range of the base. -/
  anchored : ∀ e, e ∈ localEdits ∨ e ∈ remoteEdits → e.InRange base.length
  /-- The block of an edit is all there is at its anchor. -/
  block : ∀ e, e ∈ localEdits ∨ e ∈ remoteEdits →
    blocksAt (union localEdits remoteEdits) e.start = e.replacement
  /-- Where no edit is anchored there is no block. -/
  noBlock : ∀ i, (∀ e, e ∈ localEdits ∨ e ∈ remoteEdits → e.start ≠ i) →
    blocksAt (union localEdits remoteEdits) i = []

theorem bothApplied {base : List Line} {E F : List (Edit Line)} (hE : IsScript base.length E)
    (hF : IsScript base.length F) (h : NoOverlap E F) :
    BothApplied base E F (splice (union E F) base) where
  noOverlap := h
  result := rfl
  kept := deletedAt_union E F
  anchored := fun e he => he.elim (hE.inRange e) (hF.inRange e)
  block := fun _ he => blocksAt_of_mem (pairwise_apart_union_of_noOverlap hE hF h)
    (mem_union.mpr he)
  noBlock := fun _ hi => blocksAt_eq_nil fun e he => hi e (mem_union.mp he)

/-- **A merge is the base with both edit scripts applied.**  And two scripts of the
diff that do not overlap always combine into one that can be applied. -/
theorem merged_is_base_with_both_scripts (sha256 : Sha256) (diff : SequenceDiff Line) :
    (∀ base localText remote m,
      mergeMarkdownThreeWay sha256 diff base localText remote = .merged m →
      ∃ b l r localEdits remoteEdits edits merged,
        parseMarkdown base .base = .ok b ∧
        parseMarkdown localText .localVersion = .ok l ∧
        parseMarkdown remote .remote = .ok r ∧
        editsFromMyers diff b.lines l.lines = .ok localEdits ∧
        editsFromMyers diff b.lines r.lines = .ok remoteEdits ∧
        combineEdits localEdits remoteEdits = .ok edits ∧
        applyEdits b.lines edits = some merged ∧
        render merged m.newlineStyle m.finalNewline = some m.content ∧
        BothApplied b.lines localEdits remoteEdits merged) ∧
    (∀ base x y localEdits remoteEdits,
      editsFromMyers diff base x = .ok localEdits →
      editsFromMyers diff base y = .ok remoteEdits →
      (∀ e ∈ localEdits, ∀ f ∈ remoteEdits, e ≠ f → editsOverlap e f = false) →
      ∃ edits, combineEdits localEdits remoteEdits = .ok edits ∧ applyEdits base edits ≠ none) := by
  constructor
  · intro base localText remote m h
    obtain ⟨-, b, l, r, hb, hl, hr, hm⟩ := mergeMarkdownThreeWay_eq_merged_iff.mp h
    have hx := myersEdits_isScript diff b.lines l.lines
    have hy := myersEdits_isScript diff b.lines r.lines
    exact ⟨b, l, r, _, _, _, _, parseMarkdown_eq_ok_iff.mpr hb, parseMarkdown_eq_ok_iff.mpr hl,
      parseMarkdown_eq_ok_iff.mpr hr, editsFromMyers_eq_ok .., editsFromMyers_eq_ok ..,
      (combineEdits_eq_ok_iff hx hy).mpr ⟨hm.noOverlap, rfl⟩,
      applyEdits_sortedUnion hx hy hm.noOverlap, hm.content, bothApplied hx hy hm.noOverlap⟩
  · intro base x y localEdits remoteEdits hl hr hno
    rw [editsFromMyers_eq_ok, Except.ok.injEq] at hl hr
    subst hl hr
    have hx := myersEdits_isScript diff base x
    have hy := myersEdits_isScript diff base y
    refine ⟨_, (combineEdits_eq_ok_iff hx hy).mpr ⟨hno, rfl⟩, ?_⟩
    rw [applyEdits_sortedUnion hx hy hno]
    simp

/-- A digest function whose value is the SHA-256 digest of `"A\nb\nC\n"`. -/
def sampleSha256 : Sha256 := fun _ => ⟨
    [0x62, 0x7a, 0xb6, 0xa6, 0xaa, 0xc9, 0x9d, 0x0c, 0x41, 0xdb, 0x06,
    0x57, 0x64, 0x28, 0xa6, 0x85, 0x5f, 0xba, 0x13, 0x0d, 0xd8, 0x39,
    0x8c, 0x48, 0xbd, 0x14, 0x73, 0x14, 0x1a, 0xe2, 0x93, 0xe5], rfl⟩

theorem merged_is_base_with_both_scripts_abc :
    (∃ base localEdits remoteEdits merged,
      render merged .lf true = some "A\nb\nC\n".toList ∧
      BothApplied base localEdits remoteEdits merged) ∧
    ∃ edits, combineEdits [⟨0, 1, [['A']]⟩] [⟨2, 3, [['C']]⟩] = .ok edits ∧
      applyEdits [['a'], ['b'], ['c']] edits ≠ none := by
  have h := merged_is_base_with_both_scripts sampleSha256 trimDiff
  constructor
  · obtain ⟨b, _, _, localEdits, remoteEdits, _, merged, _, _, _, _, _, _, _, hrender, happlied⟩ :=
      h.1 "a\nb\nc\n".toList "A\nb\nc\n".toList "a\nb\nC\n".toList _ rfl
    exact ⟨b.lines, localEdits, remoteEdits, merged, hrender, happlied⟩
  · exact h.2 [['a'], ['b'], ['c']] [['A'], ['b'], ['c']] [['a'], ['b'], ['C']] _ _ rfl rfl
      (by decide)

/-! ## The replicas may change places -/

theorem IsMergeOf.comm {sha256 : Sha256} {diff : SequenceDiff Line} {b x y : ParsedMarkdown}
    {m : MergedMarkdown} (h : IsMergeOf sha256 diff b x y m) : IsMergeOf sha256 diff b y x m where
  work := diffWork_comm b x y ▸ h.work
  frontmatter := divergentFrontmatter_comm b x y ▸ h.frontmatter
  newlineStyle := selectThreeWay_comm b.newlineStyle x.newlineStyle y.newlineStyle ▸ h.newlineStyle
  finalNewline := selectThreeWay_comm b.finalNewline x.finalNewline y.finalNewline ▸ h.finalNewline
  noOverlap := h.noOverlap.symm
  content := by
    have hlines : linesLeft diff b y x = linesLeft diff b x y :=
      splice_union_comm (myersEdits_isScript ..) (myersEdits_isScript ..) h.noOverlap.symm b.lines
    rw [hlines]
    exact h.content
  byteLength := h.byteLength
  digest := h.digest

theorem mergeMarkdownThreeWay_swap {sha256 : Sha256} {diff : SequenceDiff Line}
    {base x y : Text} {m : MergedMarkdown}
    (h : mergeMarkdownThreeWay sha256 diff base x y = .merged m) :
    mergeMarkdownThreeWay sha256 diff base y x = .merged m := by
  obtain ⟨hsize, b, l, r, hb, hl, hr, hm⟩ := mergeMarkdownThreeWay_eq_merged_iff.mp h
  exact mergeMarkdownThreeWay_eq_merged_iff.mpr ⟨by omega, b, r, l, hb, hr, hl, hm.comm⟩

/-- **The merge does not depend on which replica is called local.** -/
theorem merge_comm (sha256 : Sha256) (diff : SequenceDiff Line) (base x y : Text)
    (m : MergedMarkdown) :
    mergeMarkdownThreeWay sha256 diff base x y = .merged m ↔
      mergeMarkdownThreeWay sha256 diff base y x = .merged m :=
  ⟨mergeMarkdownThreeWay_swap, mergeMarkdownThreeWay_swap⟩

/-! ## One-sided and identical changes -/

section OneSided

variable {diff : SequenceDiff Line} {b x : ParsedMarkdown}

theorem linesLeft_left (hd : diff.Reflexive) : linesLeft diff b b x = x.lines := by
  rw [linesLeft, scriptOf, scriptOf, myersEdits_self hd, union_nil_left, splice_myersEdits]

theorem linesLeft_same : linesLeft diff b x x = x.lines := by
  rw [linesLeft, union_self, scriptOf, splice_myersEdits]

/-- The merged document that reproduces a text. -/
def reproduced (sha256 : Sha256) (text : Text) (p : ParsedMarkdown) : MergedMarkdown where
  content := text
  sha256 := hexSha256 sha256 (utf8Bytes text)
  byteLength := utf8Len text
  newlineStyle := p.newlineStyle
  finalNewline := p.finalNewline

theorem isMergeOf_reproduced {sha256 : Sha256} {text : Text} (hx : ParsesTo text x)
    {y z : ParsedMarkdown} (hwork : diffWork b y z ≤ maxMarkdownDiffWork)
    (hfront : divergentFrontmatter b y z = false)
    (hstyle : selectThreeWay b.newlineStyle y.newlineStyle z.newlineStyle = some x.newlineStyle)
    (hfinal : selectThreeWay b.finalNewline y.finalNewline z.finalNewline = some x.finalNewline)
    (hno : NoOverlap (scriptOf diff b y) (scriptOf diff b z))
    (hlines : linesLeft diff b y z = x.lines) :
    IsMergeOf sha256 diff b y z (reproduced sha256 text x) where
  work := hwork
  frontmatter := hfront
  newlineStyle := hstyle
  finalNewline := hfinal
  noOverlap := hno
  content := by
    rw [hlines]
    exact render_of_parsesTo hx
  byteLength := by
    have hword : maxMarkdownVersionBytes < wordLimit := by decide
    exact fitsWord_eq_some_iff.mpr ⟨rfl, Nat.lt_of_le_of_lt hx.size hword⟩
  digest := rfl

theorem isMergeOf_left (sha256 : Sha256) {text : Text} (hd : diff.Reflexive)
    (hx : ParsesTo text x) (hwork : diffWork b b x ≤ maxMarkdownDiffWork) :
    IsMergeOf sha256 diff b b x (reproduced sha256 text x) := by
  refine isMergeOf_reproduced hx hwork ?_ (selectThreeWay_left _ _) (selectThreeWay_left _ _) ?_
    (linesLeft_left hd)
  · exact divergentFrontmatter_eq_false_iff.mpr (Or.inl rfl)
  · rw [scriptOf, myersEdits_self hd]
    exact fun e he => absurd he (by simp)

theorem isMergeOf_same {sha256 : Sha256} {text : Text} (hx : ParsesTo text x)
    (hwork : diffWork b x x ≤ maxMarkdownDiffWork) (hfront : frontmatter x = frontmatter b) :
    IsMergeOf sha256 diff b x x (reproduced sha256 text x) :=
  isMergeOf_reproduced hx hwork (divergentFrontmatter_eq_false_iff.mpr (Or.inl hfront))
    (selectThreeWay_same _ _) (selectThreeWay_same _ _)
    (myersEdits_isScript diff b.lines x.lines).noOverlap_self linesLeft_same

end OneSided

/-- Three accepted versions are within the combined bound. -/
theorem combined_le_of_parsesTo {s t u : Text} {p q r : ParsedMarkdown} (hs : ParsesTo s p)
    (ht : ParsesTo t q) (hu : ParsesTo u r) :
    utf8Len s + utf8Len t + utf8Len u ≤ maxMarkdownCombinedBytes := by
  have h₁ := hs.size
  have h₂ := ht.size
  have h₃ := hu.size
  unfold maxMarkdownVersionBytes at h₁ h₂ h₃
  unfold maxMarkdownCombinedBytes
  omega

/-- **A change of one side only, and the same change of both sides, is reproduced
byte for byte.**  The diff is assumed to find no change between equal inputs. -/
theorem merge_reproduces_one_sided_change (sha256 : Sha256) (diff : SequenceDiff Line)
    (hd : diff.Reflexive) (b x : Text) (pb px : ParsedMarkdown)
    (hb : parseMarkdown b .base = .ok pb) (hx : parseMarkdown x .localVersion = .ok px) :
    (diffWork pb pb px ≤ maxMarkdownDiffWork →
      mergeMarkdownThreeWay sha256 diff b b x = .merged (reproduced sha256 x px) ∧
      mergeMarkdownThreeWay sha256 diff b x b = .merged (reproduced sha256 x px)) ∧
    (diffWork pb px px ≤ maxMarkdownDiffWork → frontmatter px = frontmatter pb →
      mergeMarkdownThreeWay sha256 diff b x x = .merged (reproduced sha256 x px)) := by
  rw [parseMarkdown_eq_ok_iff] at hb hx
  constructor
  · intro hwork
    have hm := isMergeOf_left sha256 hd hx hwork
    exact ⟨mergeMarkdownThreeWay_eq_merged_iff.mpr
        ⟨combined_le_of_parsesTo hb hb hx, pb, pb, px, hb, hb, hx, hm⟩,
      mergeMarkdownThreeWay_eq_merged_iff.mpr
        ⟨combined_le_of_parsesTo hb hx hb, pb, px, pb, hb, hx, hb, hm.comm⟩⟩
  · intro hwork hfront
    exact mergeMarkdownThreeWay_eq_merged_iff.mpr ⟨combined_le_of_parsesTo hb hx hx, pb, px, px,
      hb, hx, hx, isMergeOf_same hx hwork hfront⟩

theorem merge_reproduces_one_sided_change_ab :
    (∃ m, mergeMarkdownThreeWay sampleSha256 trimDiff "a\nb\n".toList "a\nb\n".toList
        "a\r\nc".toList = .merged m ∧ m.content = "a\r\nc".toList) ∧
    ∃ m, mergeMarkdownThreeWay sampleSha256 trimDiff "a\nb\n".toList "a\r\nc".toList
        "a\r\nc".toList = .merged m ∧ m.content = "a\r\nc".toList := by
  have h := merge_reproduces_one_sided_change sampleSha256 trimDiff trimDiff_reflexive
    "a\nb\n".toList "a\r\nc".toList _ _ rfl rfl
  exact ⟨⟨_, (h.1 (by decide)).1, rfl⟩, ⟨_, h.2 (by decide) rfl, rfl⟩⟩

end Markdown
end MyVault
