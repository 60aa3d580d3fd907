import TokenGrammar.Diagnostic.Canvas
import TokenGrammar.Diagnostic.Mark

/-!
# Margins of a listing

All lines of a listing are cut at the same columns, chosen so that the marks and their labels can be
seen. A cut is shown by an ellipsis.
-/
namespace TokenGrammar

def lineWidth : Nat := 140

def ellipsis : List Char := ['.', '.', '.']

/-- The columns of the source that are shown. -/
structure Margin where
  /-- Number of columns that fit. -/
  width : Nat
  left : Nat
  right : Nat

namespace Margin

/-- Columns left free around marks and labels, so that an ellipsis hides none of them. -/
def clearance : Nat := 6

/--
Chosen from the blanks before the text, the columns of the marks and the width of the longest line. If
the text does not fit, it is cut behind the blanks, else around marks and labels, else around the
marks alone.
-/
def choose (width blanks spanLeft spanRight labelRight longest : Nat) : Margin :=
  let blanks := blanks - clearance
  let spanLeft := spanLeft - clearance
  let spanRight := spanRight + clearance
  let labelRight := labelRight + clearance
  let left := if 20 < blanks then blanks - 16 else 0
  let right := max longest left
  if right - left ≤ width then ⟨width, left, right⟩
  else if blanks ≤ labelRight ∧ labelRight - blanks ≤ width then ⟨width, blanks, blanks + width⟩
  else if labelRight - spanLeft ≤ width then
    let left := spanLeft - (width - (labelRight - spanLeft)) / 2
    ⟨width, left, left + width⟩
  else if spanRight - spanLeft ≤ width then
    let left := spanLeft - (width - (spanRight - spanLeft)) / 5 * 2
    ⟨width, left, left + width⟩
  else ⟨width, spanLeft, spanRight⟩

def blanksBefore (text : List Char) : Nat := textWidth (text.takeWhile isBlank)

/-- Reaches over a mark and, at least, over its label if that stands on the same row. -/
def labelEnd (m : Mark) : Nat :=
  m.stopColumns + (m.label.map fun l => textWidth l.toList + 1).getD 0

def ofLines (width : Nat) (lines : List MarkedLine) : Margin :=
  let marks := lines.flatMap (·.marks)
  let texts := lines.map (·.line.text)
  let blanks := (texts.filter (·.any (!isBlank ·))).map blanksBefore
  let ends := marks.flatMap fun m => [m.startColumns, m.stopColumns]
  choose width (blanks.min?.getD 0) (ends.min?.getD 0) (ends.max?.getD 0)
    ((marks.map labelEnd).max?.getD 0) ((texts.map textWidth).max?.getD 0)

end Margin

/-- What follows the fewest characters that take `n` columns, and the columns that those take. -/
def dropColumns (n : Nat) : List Char → List Char × Nat
  | [] => ([], 0)
  | c :: cs =>
    if n = 0 then (c :: cs, 0)
    else
      let (rest, taken) := dropColumns (n - shownWidth c) cs
      (rest, shownWidth c + taken)

/-- The most characters at the front that fit into `n` columns. -/
def takeColumns (n : Nat) : List Char → List Char
  | [] => []
  | c :: cs => if shownWidth c ≤ n then c :: takeColumns (n - shownWidth c) cs else []

/-- The fewest characters at the front that take the columns of an ellipsis. -/
def underEllipsis (text : List Char) : List Char := go ellipsis.length text
where
  go (n : Nat) : List Char → List Char
    | [] => []
    | c :: cs => if n ≤ shownWidth c then [c] else c :: go (n - shownWidth c) cs

/-- Where the parts of a listing stand. -/
structure Layout where
  /-- Columns of the longest line number. -/
  numberWidth : Nat
  /-- Columns of the gutter for ranges over several lines. -/
  depth : Nat
  margin : Margin

namespace Layout

/-- Column of the bar behind the line numbers. -/
def bar (l : Layout) : Nat := l.numberWidth + 1

/-- The column before the gutter's first one. -/
def gutter (l : Layout) : Nat := l.numberWidth + 2

/-- Where the source text starts. -/
def code (numberWidth depth : Nat) : Nat :=
  if depth = 0 then numberWidth + 3 else numberWidth + 4 + depth

def ofLines (lines : List MarkedLine) (depth : Nat) : Layout :=
  let last := (lines.map (·.line.number)).max?.getD 0
  let numberWidth := (Nat.repr last).length
  ⟨numberWidth, depth, .ofLines (lineWidth - code numberWidth depth) lines⟩

end Layout

namespace Canvas

def drawBar (canvas : Canvas) (l : Layout) (row : Nat) : Canvas :=
  canvas.put row l.bar .frame '|'

/-- Draws a line of the source; also gives the number of columns that are cut off on its left. -/
def drawLine (canvas : Canvas) (l : Layout) (row : Nat) (line : SourceLine) : Canvas × Nat :=
  let start := Layout.code l.numberWidth l.depth
  let total := textWidth line.text
  let left := min l.margin.left total
  let right := if total - l.margin.left ≤ l.margin.width then total else min total l.margin.right
  let (rest, skipped) := dropColumns left line.text
  let kept := takeColumns (right - left) rest
  let hidden := if 0 < l.margin.left then underEllipsis kept else []
  let column := start + textWidth hidden
  let text := kept.drop hidden.length
  let canvas := if 0 < l.margin.left then canvas.write row start .frame ellipsis else canvas
  let canvas := canvas.write row column .plain (shownText text)
  let canvas := if right < total then
      canvas.write row (column + text.length - (underEllipsis kept.reverse).length) .frame ellipsis
    else canvas
  let number := Nat.repr line.number
  let padding := List.replicate (l.numberWidth - number.length) ' '
  let canvas := canvas.write row 0 .frame (padding ++ number.toList)
  (canvas.drawBar l row, max left skipped - (textWidth hidden - ellipsis.length))

end Canvas

end TokenGrammar
