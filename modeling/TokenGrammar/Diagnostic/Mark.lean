import TokenGrammar.Diagnostic.Source
import TokenGrammar.Text.Blank

/-!
# Marks under source lines

A range within a line is one mark. A range over several lines is a mark where it opens, one where it
closes, and a bar in a gutter on the lines between; ranges that share lines get gutter columns of
their own.
-/
namespace TokenGrammar

/-- A range to be drawn. -/
structure Highlight where
  span : Span
  primary : Bool
  label : Option String

inductive MarkShape
  | within
  /-- Opens a range in a column of the gutter, counted from one. -/
  | opens (depth : Nat)
  | passes (depth : Nat)
  | closes (depth : Nat)
  deriving DecidableEq

/-- What is drawn on one line for a range: from a column (and character) up to another. -/
structure Mark where
  startColumns : Nat
  startChars : Nat
  stopColumns : Nat
  stopChars : Nat
  primary : Bool
  label : Option String
  shape : MarkShape

namespace Mark

def hasLabel (m : Mark) : Bool := m.label.any (· ≠ "")

/-- Its line to the gutter needs a row of its own. -/
def takesSpace (m : Mark) : Bool :=
  match m.shape with
  | .opens _ | .closes _ => true
  | _ => false

def isBar (m : Mark) : Bool :=
  match m.shape with
  | .passes _ => true
  | _ => false

def isOpening (m : Mark) : Bool :=
  match m.shape with
  | .opens _ => true
  | _ => false

def columns (m : Mark) : Nat := m.stopColumns - m.startColumns

end Mark

/-- Whether two half-open ranges meet, one of them made longer at its end. -/
def rangesMeet (a b c d : Nat) : Bool := c ≤ a && a < d || a ≤ c && c < b

namespace Mark

/-- Whether `m`, with some columns behind it, meets `n`. -/
def meets (m n : Mark) (extra : Nat) : Bool :=
  rangesMeet m.startColumns (m.stopColumns + extra) n.startColumns n.stopColumns

end Mark

/-- A range over several lines. -/
structure LongMark where
  depth : Nat
  start : Spot
  stop : Spot
  primary : Bool
  label : Option String
  /-- Another range covers exactly the same. -/
  coincides : Bool

namespace LongMark

def sameSpan (a b : LongMark) : Bool := a.start = b.start && a.stop = b.stop

def sharesLines (a b : LongMark) : Bool :=
  rangesMeet a.start.line (a.stop.line + 1) b.start.line (b.stop.line + 1)

def opening (a : LongMark) : Mark :=
  ⟨a.start.columns, a.start.chars, a.start.columns + 1, a.start.chars + 1, a.primary, none,
    .opens a.depth⟩

def closing (a : LongMark) : Mark :=
  ⟨a.stop.columns - 1, a.stop.chars - 1, a.stop.columns, a.stop.chars, a.primary, a.label,
    if a.coincides then .within else .closes a.depth⟩

def bar (a : LongMark) : Mark := ⟨0, 0, 0, 0, a.primary, none, .passes a.depth⟩

/-- Moves the ranges before the outer one that share lines with it one column further. -/
def makeRoom (outer : Nat) (range : LongMark) (primaries : List (Spot × Spot)) (inner : Nat) :
    List LongMark → List LongMark
  | [] => []
  | a :: rest =>
    if !range.sameSpan a && range.sharesLines a then
      { a with depth := a.depth + 1 } :: makeRoom outer range primaries (inner + 1) rest
    else if range.sameSpan a && outer ≠ inner then
      { a with coincides := true } :: makeRoom outer range primaries (inner + 1) rest
    else { a with primary := a.primary || primaries.contains (a.start, a.stop) } :: rest

def makeRoomForAll (primaries : List (Spot × Spot)) (outer : Nat) :
    List LongMark → List LongMark → List LongMark
  | [], ranges => ranges
  | range :: rest, ranges =>
    let primaries := if range.primary then (range.start, range.stop) :: primaries else primaries
    makeRoomForAll primaries (outer + 1) rest (makeRoom outer range primaries 0 ranges)

/-- The ranges with their columns of the gutter, and the number of columns. -/
def arrange (ranges : List LongMark) : List LongMark × Nat :=
  let sorted := ranges.mergeSort fun a b =>
    a.start.line < b.start.line || a.start.line = b.start.line && b.stop.line ≤ a.stop.line
  let placed := makeRoomForAll [] 0 sorted sorted
  let depth := placed.foldl (fun d a => max d a.depth) 0
  (placed.map fun a => { a with depth := depth + 1 - a.depth }, depth)

end LongMark

/-- A line with its marks. -/
structure MarkedLine where
  line : SourceLine
  marks : List Mark

namespace MarkedLine

/-- Lines that say nothing by themselves. -/
def idleLines : List (List Char) := [[], ['\x7b'], ['\x7d'], ['('], [')'], ['['], [']']]

/-- Whether a line has more to show than a comment or a single bracket. -/
def isTelling (text : List Char) : Bool :=
  let text := dropBlanksEnd (dropBlanks text)
  let isComment := text.take 2 = ['/', '/'] && !(text.take 3 = ['/', '/', '/'] ||
    text.take 3 = ['/', '/', '!'])
  !isComment && !idleLines.contains text

/-- Lines between the ends of a range that are shown with its bar. -/
def barLines (lines : List SourceLine) (a : LongMark) : List Nat :=
  let isTellingLine (n : Nat) : Bool :=
    (lines.find? (·.number = n)).any fun l => isTelling l.text
  let middle := min (a.start.line + 4) a.stop.line
  let shown := (List.range' a.start.line (middle - a.start.line)).reverse.find? isTellingLine
  let stop := (shown.map (· + 1)).getD a.start.line
  let last := a.stop.line - 1
  List.range' (a.start.line + 1) (stop - (a.start.line + 1)) ++
    if middle < last && isTellingLine last then [last] else []

def marksOf (lines : List SourceLine) (a : LongMark) : List (Nat × Mark) :=
  let opening := if a.coincides then []
    else (a.start.line, a.opening) :: (barLines lines a).map fun n => (n, a.bar)
  opening ++ [(a.stop.line, a.closing)]

/-- The lines that carry marks, in order, and the number of columns of the gutter. -/
def ofHighlights (lines : List SourceLine) (highlights : List Highlight) : List MarkedLine × Nat :=
  let placed := highlights.map fun h => (h, SourceLine.spots lines h.span)
  let short := placed.filterMap fun (h, start, stop) =>
    if start.line = stop.line then
      let stopColumns := if start.columns = stop.columns then stop.columns + 1 else stop.columns
      some (start.line, (⟨start.columns, start.chars, stopColumns, stop.chars, h.primary, h.label,
        .within⟩ : Mark))
    else none
  let long := placed.filterMap fun (h, start, stop) =>
    if start.line = stop.line then none
    else some (⟨1, start, stop, h.primary, h.label, false⟩ : LongMark)
  let (arranged, depth) := LongMark.arrange long
  let marks := short ++ arranged.flatMap (marksOf lines)
  let marked := lines.filterMap fun line =>
    match marks.filterMap fun (n, m) => if n = line.number then some m else none with
    | [] => none
    | ms => some ⟨line, ms⟩
  (marked, depth)

end MarkedLine

end TokenGrammar
