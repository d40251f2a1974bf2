import MyVault.Core.Digest
import MyVault.Library.EditScript
import MyVault.Library.SequenceDiff

/-!
# Three-way merge of Markdown documents

`merge_markdown_three_way` of `conflict/markdown.rs`: the three versions are
parsed into logical lines, the newline style, the final newline and the
frontmatter are compared as wholes, the two line diffs become edit scripts, and
the scripts are combined, applied and rendered.

The line diff is the Myers diff of the `similar` crate, which is not part of the
repository.  It enters as a `SequenceDiff`, that is, as any function whose
operations partition both line lists.

Where the source indexes a slice, `slice` is used; the ranges are in bounds
there because a diff partitions its lists and because `applyStep` checks an edit
before it copies.
-/

namespace MyVault
namespace Markdown

open EditScript SequenceDiff

/-- `MAX_MARKDOWN_VERSION_BYTES`. -/
def maxMarkdownVersionBytes : ℕ := 4 * 1024 * 1024

/-- `MAX_MARKDOWN_COMBINED_BYTES`. -/
def maxMarkdownCombinedBytes : ℕ := 12 * 1024 * 1024

/-- `MAX_MARKDOWN_LOGICAL_LINES`. -/
def maxMarkdownLogicalLines : ℕ := 100000

/-- `MAX_MARKDOWN_DIFF_WORK`. -/
def maxMarkdownDiffWork : ℕ := 100000000

/-- The three texts of a merge. -/
inductive MarkdownVersion where
  | base
  | localVersion
  | remote
  deriving DecidableEq, Repr

/-- How the lines of a text are separated. -/
inductive NewlineStyle where
  | none
  | lf
  | crLf
  deriving DecidableEq, Repr

/-- Why there is no merge. -/
inductive MarkdownMergeIssue where
  | evidenceFingerprintMismatch
  | versionTooLarge (version : MarkdownVersion)
  | combinedInputTooLarge
  | tooManyLogicalLines (version : MarkdownVersion)
  | byteOrderMark (version : MarkdownVersion)
  | bareCarriageReturn (version : MarkdownVersion)
  | mixedNewlines (version : MarkdownVersion)
  | unclosedFrontmatter (version : MarkdownVersion)
  | divergentFrontmatter
  | overlappingEdits
  | divergentNewlineStyle
  | divergentFinalNewline
  | invalidEditScript
  | diffComplexityLimit
  deriving DecidableEq, Repr

/-- A merge, with its digest and its conventions. -/
structure MergedMarkdown where
  content : Text
  sha256 : String
  byteLength : ℕ
  newlineStyle : NewlineStyle
  finalNewline : Bool
  deriving DecidableEq, Repr

/-- A merge, or why both texts are kept. -/
inductive MarkdownMergeOutcome where
  | merged (m : MergedMarkdown)
  | preserveBoth (issue : MarkdownMergeIssue)
  deriving DecidableEq, Repr

/-- The lines of a text, its conventions, and where its frontmatter ends. -/
structure ParsedMarkdown where
  lines : List Line
  newlineStyle : NewlineStyle
  finalNewline : Bool
  frontmatterEnd : Option ℕ
  deriving DecidableEq, Repr

/-! ## Parsing -/

/-- The first character the parser refuses. -/
def byteOrderMark : Char := '\uFEFF'

/-- The line that opens and closes a frontmatter. -/
def fence : Line := ['-', '-', '-']

/-- The scan for terminators: whether an LF and whether a CRLF was seen, or
`none` at a CR that no LF follows. -/
def scanNewlines : Text → Bool → Bool → Option (Bool × Bool)
  | [], sawLf, sawCrlf => some (sawLf, sawCrlf)
  | '\r' :: '\n' :: rest, sawLf, _ => scanNewlines rest sawLf true
  | '\r' :: _, _, _ => none
  | '\n' :: rest, _, sawCrlf => scanNewlines rest true sawCrlf
  | _ :: rest, sawLf, sawCrlf => scanNewlines rest sawLf sawCrlf

/-- `str::ends_with('\n')`. -/
def endsWithLf (input : Text) : Bool := input.getLast? = some '\n'

/-- `line.strip_suffix('\r').unwrap_or(line)`. -/
def stripCr (line : Line) : Line :=
  if line.getLast? = some '\r' then line.dropLast else line

/-- The pieces between the LFs, each without a CR at its end. -/
def splitLines (input : Text) : List Line := (input.splitOn '\n').map stripCr

/-- The logical lines: the empty piece after a final LF is not one, and an empty
text has none.  `none` when the piece after a final LF is not empty. -/
def logicalLines (input : Text) : Option (List Line) :=
  let lines := splitLines input
  if endsWithLf input then
    if lines.getLast? = some [] then some lines.dropLast else none
  else if input = [] then some [] else some lines

/-- Where the frontmatter ends, one line past its closing fence: `some none` for
a document without one, `none` for one that is opened and never closed. -/
def frontmatterEndOf (lines : List Line) : Option (Option ℕ) :=
  if lines.head? = some fence then
    match (lines.drop 1).findIdx? (· = fence) with
    | some relative => some (some (relative + 2))
    | none => none
  else
    some none

/-- `parse_markdown`: the bounds, the conventions, and the frontmatter. -/
def parseMarkdown (input : Text) (version : MarkdownVersion) :
    Except MarkdownMergeIssue ParsedMarkdown :=
  if maxMarkdownVersionBytes < utf8Len input then
    .error (.versionTooLarge version)
  else if input.head? = some byteOrderMark then
    .error (.byteOrderMark version)
  else
    match scanNewlines input false false with
    | none => .error (.bareCarriageReturn version)
    | some (sawLf, sawCrlf) =>
      if sawLf && sawCrlf then
        .error (.mixedNewlines version)
      else
        let newlineStyle :=
          if sawCrlf then NewlineStyle.crLf
          else if sawLf then NewlineStyle.lf
          else NewlineStyle.none
        match logicalLines input with
        | none => .error (.bareCarriageReturn version)
        | some lines =>
          if maxMarkdownLogicalLines < lines.length then
            .error (.tooManyLogicalLines version)
          else
            match frontmatterEndOf lines with
            | none => .error (.unclosedFrontmatter version)
            | some frontmatterEnd =>
              .ok { lines, newlineStyle, finalNewline := endsWithLf input, frontmatterEnd }

/-- The lines of the frontmatter, both fences included. -/
def frontmatter (parsed : ParsedMarkdown) : Option (List Line) :=
  parsed.frontmatterEnd.map fun stop => parsed.lines.take stop

/-- Both sides have a frontmatter of their own. -/
def divergentFrontmatter (base localVersion remote : ParsedMarkdown) : Bool :=
  frontmatter localVersion != frontmatter base && frontmatter remote != frontmatter base

/-- What one side has made of the base; none where both have made something of it. -/
def selectThreeWay {α : Type*} [DecidableEq α] (base localValue remote : α) : Option α :=
  if localValue = remote then some localValue
  else if localValue = base then some remote
  else if remote = base then some localValue
  else none

/-! ## Edit scripts -/

/-- One edit of the loop of `apply_edits`: the output so far and the cursor. -/
def applyStep (base : List Line) :
    List Line × ℕ → Edit Line → Option (List Line × ℕ)
  | (output, cursor), edit =>
    if edit.start < cursor ∨ edit.stop < edit.start ∨ base.length < edit.stop then none
    else some (output ++ slice base cursor edit.start ++ edit.replacement, edit.stop)

/-- The base with the edits, from left to right. -/
def applyEdits (base : List Line) (edits : List (Edit Line)) : Option (List Line) :=
  match edits.foldlM (applyStep base) ([], 0) with
  | some (output, cursor) => some (output ++ base.drop cursor)
  | none => none

/-- One operation of the loop of `edits_from_myers`: an `equal` operation closes
the pending edit, any other one extends it. -/
def myersStep (changed : List Line) :
    List (Edit Line) × Option (Edit Line) → DiffOp → List (Edit Line) × Option (Edit Line)
  | (edits, pending), op =>
    if op.tag = .equal then
      (edits ++ pending.toList, none)
    else
      let edit := pending.getD ⟨op.oldStart, op.oldStart, []⟩
      (edits, some
        { start := edit.start
          stop := op.oldEnd
          replacement := edit.replacement ++ slice changed op.newStart op.newEnd })

/-- The edits the loop collects, the pending one at the end included. -/
def myersEdits (diff : SequenceDiff Line) (base changed : List Line) : List (Edit Line) :=
  let collected := (diff.ops base changed).foldl (myersStep changed) ([], none)
  collected.1 ++ collected.2.toList

/-- The edits of the diff, if they lead from one text to the other. -/
def editsFromMyers (diff : SequenceDiff Line) (base changed : List Line) :
    Except MarkdownMergeIssue (List (Edit Line)) :=
  let edits := myersEdits diff base changed
  if applyEdits base edits ≠ some changed then .error .invalidEditScript else .ok edits

/-- The edits do the same. -/
def sameEdit (left right : Edit Line) : Bool :=
  left.start == right.start && left.stop == right.stop && left.replacement == right.replacement

/-- The edits touch the same lines or insert at the same place. -/
def editsOverlap (left right : Edit Line) : Bool :=
  let leftEmpty := left.start == left.stop
  let rightEmpty := right.start == right.stop
  match leftEmpty, rightEmpty with
  | true, true => left.start == right.start
  | true, false => decide (right.start ≤ left.start ∧ left.start ≤ right.stop)
  | false, true => decide (left.start ≤ right.start ∧ right.start ≤ left.stop)
  | false, false => decide (max left.start right.start < min left.stop right.stop)

/-- One candidate of the loop of `combine_edits`. -/
def combineStep (combined : List (Edit Line)) (candidate : Edit Line) :
    Except MarkdownMergeIssue (List (Edit Line)) :=
  if combined.any fun edit => sameEdit edit candidate then .ok combined
  else if combined.any fun edit => editsOverlap edit candidate then .error .overlappingEdits
  else .ok (combined ++ [candidate])

/-- The order of the sort key `(start, end)`. -/
def sortKeyLe (left right : Edit Line) : Prop :=
  left.start < right.start ∨ (left.start = right.start ∧ left.stop ≤ right.stop)

instance : DecidableRel sortKeyLe := fun left right =>
  inferInstanceAs (Decidable (left.start < right.start ∨
    (left.start = right.start ∧ left.stop ≤ right.stop)))

/-- All edits in the order of the base, if those of one side do not overlap those of the other. -/
def combineEdits (localEdits remote : List (Edit Line)) :
    Except MarkdownMergeIssue (List (Edit Line)) :=
  match remote.foldlM combineStep localEdits with
  | .ok combined => .ok (combined.insertionSort sortKeyLe)
  | .error issue => .error issue

/-! ## Rendering and merging -/

/-- What stands between two lines. -/
def separator : NewlineStyle → Text
  | .none => []
  | .lf => ['\n']
  | .crLf => ['\r', '\n']

/-- The text of the lines; more than one line needs a separator. -/
def render (lines : List Line) (style : NewlineStyle) (finalNewline : Bool) : Option Text :=
  if style = .none ∧ (1 < lines.length ∨ finalNewline = true) then none
  else
    let output := (separator style).intercalate lines
    some (if finalNewline then output ++ separator style else output)

/-- The work bound of the two diffs. -/
def diffWork (base localVersion remote : ParsedMarkdown) : ℕ :=
  saturatingMul base.lines.length (max localVersion.lines.length remote.lines.length)

/-- The part of the merge after the three versions are parsed. -/
def mergeParsed (sha256 : Sha256) (diff : SequenceDiff Line)
    (base localVersion remote : ParsedMarkdown) : MarkdownMergeOutcome :=
  if maxMarkdownDiffWork < diffWork base localVersion remote then
    .preserveBoth .diffComplexityLimit
  else if divergentFrontmatter base localVersion remote then
    .preserveBoth .divergentFrontmatter
  else
    match selectThreeWay base.newlineStyle localVersion.newlineStyle remote.newlineStyle with
    | none => .preserveBoth .divergentNewlineStyle
    | some newlineStyle =>
    match selectThreeWay base.finalNewline localVersion.finalNewline remote.finalNewline with
    | none => .preserveBoth .divergentFinalNewline
    | some finalNewline =>
    match editsFromMyers diff base.lines localVersion.lines with
    | .error _ => .preserveBoth .invalidEditScript
    | .ok localEdits =>
    match editsFromMyers diff base.lines remote.lines with
    | .error _ => .preserveBoth .invalidEditScript
    | .ok remoteEdits =>
    match combineEdits localEdits remoteEdits with
    | .error issue => .preserveBoth issue
    | .ok edits =>
    match applyEdits base.lines edits with
    | none => .preserveBoth .invalidEditScript
    | some mergedLines =>
    match render mergedLines newlineStyle finalNewline with
    | none => .preserveBoth .invalidEditScript
    | some content =>
    match u64TryFrom (utf8Len content) with
    | none => .preserveBoth .invalidEditScript
    | some byteLength =>
      .merged
        { content
          sha256 := hexSha256 sha256 (utf8Bytes content)
          byteLength
          newlineStyle
          finalNewline }

/-- `base.len() + local.len() + remote.len()`, if a `usize` holds it. -/
def combinedSize (base localText remote : Text) : Option ℕ :=
  match checkedAdd (utf8Len base) (utf8Len localText) with
  | none => none
  | some size => checkedAdd size (utf8Len remote)

/-- `merge_markdown_three_way`. -/
def mergeMarkdownThreeWay (sha256 : Sha256) (diff : SequenceDiff Line)
    (base localText remote : Text) : MarkdownMergeOutcome :=
  match combinedSize base localText remote with
  | none => .preserveBoth .combinedInputTooLarge
  | some combined =>
    if maxMarkdownCombinedBytes < combined then
      .preserveBoth .combinedInputTooLarge
    else
      match parseMarkdown base .base with
      | .error issue => .preserveBoth issue
      | .ok parsedBase =>
      match parseMarkdown localText .localVersion with
      | .error issue => .preserveBoth issue
      | .ok parsedLocal =>
      match parseMarkdown remote .remote with
      | .error issue => .preserveBoth issue
      | .ok parsedRemote => mergeParsed sha256 diff parsedBase parsedLocal parsedRemote

end Markdown
end MyVault
