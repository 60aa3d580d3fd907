import TokenGrammar.Diagnostic.Margin

/-!
# Diagnostics drawn into their source

A diagnostic is drawn as its message, the lines that it points at with marks under them, and its
hints. Labels that would run into other marks move to rows of their own below, with a line down from
the mark.
-/
namespace TokenGrammar

namespace Mark

def ink (severity : Severity) (m : Mark) : Ink := if m.primary then .severity severity else .frame

/-- The character that a mark is made of. -/
def stroke (m : Mark) : Char := if m.primary then '^' else '-'

def columnsOfLabel (m : Mark) : Nat := (m.label.map (·.utf8ByteSize + 2)).getD 0

/-- The label cannot stand behind the mark, because a mark further left is under it too. -/
def isCovered (m : Mark) (later : List Mark) : Bool :=
  m.hasLabel && later.any fun n =>
    n.meets m 0 &&
      !(n.startColumns = m.startColumns && n.stopColumns = m.stopColumns && !n.hasLabel)

/-- Marks further left need rows below this one's. -/
def crowds (row : Nat) (m n : Mark) : Bool :=
  n.meets m n.columnsOfLabel && m.hasLabel && n.hasLabel ||
    m.takesSpace && n.hasLabel ||
    m.hasLabel && n.takesSpace ||
    m.takesSpace && n.takesSpace ||
    n.meets m n.columnsOfLabel && n.stopColumns ≤ m.stopColumns && n.hasLabel && row = 0

/-- The rows of marks that are sorted from right to left; row 0 is that of the marks themselves. -/
def rows (row : Nat) : List Mark → List (Nat × Mark)
  | [] => []
  | m :: later =>
    let row := if row = 0 && m.isCovered later then 1 else row
    (row, m) :: rows (if later.any (crowds row m) then row + 1 else row) later

/-- For every mark, whether another one meets it. -/
def meetings (marks : List Mark) : List Bool :=
  let numbered := marks.zipIdx
  numbered.map fun (m, i) => numbered.any fun (n, j) =>
    i < j && n.meets m 0 || j < i && m.meets n 0

end Mark

namespace Canvas

/-- The state of drawing the marks of one line. -/
structure Ground where
  layout : Layout
  severity : Severity
  /-- The row of the source line. -/
  row : Nat
  /-- Columns that are cut off on its left. -/
  cut : Nat
  /-- Number of rows below that of the marks. -/
  below : Nat

namespace Ground

/-- The canvas column of a source column. -/
def column (g : Ground) (source : Nat) : Nat :=
  Layout.code g.layout.numberWidth g.layout.depth + source - g.cut

/-- The line from the gutter to a mark that opens or closes a range. -/
def drawArm (g : Ground) (canvas : Canvas) (placed : Nat × Mark) : Canvas :=
  let (row, m) := placed
  match m.shape with
  | .opens depth | .closes depth =>
    canvas.stroke (g.row + row + 1) (g.layout.gutter + 1 + depth) (g.column m.startColumns)
      (m.ink g.severity) '_'
  | _ => canvas

/-- The line down from a mark, and the bar in the gutter up or down from its arm. -/
def drawStem (g : Ground) (canvas : Canvas) (placed : Nat × Mark) : Canvas :=
  let (row, m) := placed
  let ink := m.ink g.severity
  let last := g.row + row + 1
  let canvas := if 0 < row && (m.hasLabel || m.takesSpace) then
      canvas.descend (g.column m.startColumns) (g.row + 1) (last + 1) ink '|'
    else canvas
  match m.shape with
  | .opens depth =>
    let column := g.layout.gutter + depth
    (canvas.put last column ink ' ').descend column (last + 1) (g.row + g.below + 2) ink '|'
  | .closes depth => canvas.descend (g.layout.gutter + depth) g.row (last + 1) ink '|'
  | _ => canvas

def drawLabel (g : Ground) (canvas : Canvas) (placed : Nat × Mark) : Canvas :=
  let (row, m) := placed
  let start := Layout.code g.layout.numberWidth g.layout.depth
  match m.label with
  | none => canvas
  | some label =>
    let (row, column) :=
      if row = 0 then (1, if m.stopColumns = 0 then 2 else m.stopColumns + 1)
      else (row + 2, m.startColumns)
    canvas.write (g.row + row) (start + (column - g.cut)) (m.ink g.severity)
      (shownText label.toList)

def drawMark (g : Ground) (canvas : Canvas) (placed : Nat × Mark) : Canvas :=
  let (row, m) := placed
  let ink := m.ink g.severity
  let canvas := (List.range' m.startColumns m.columns).foldl
    (fun canvas column => canvas.put (g.row + 1) (g.column column) ink m.stroke) canvas
  if m.takesSpace || 0 < row && m.hasLabel then
    canvas.put (g.row + 1) (g.column m.startColumns) ink m.stroke
  else canvas

/-- Leaves out the middle of a mark that is too long for the margin, in the source line too. -/
def shortenMark (g : Ground) (canvas : Canvas) (m : Mark) (meets : Bool) : Canvas :=
  let width := g.layout.margin.width
  if meets || m.shape ≠ .within || m.columns ≤ width * 2 || m.columns ≤ 10 then canvas
  else
    let padding := max (width / 3) 5
    let first := m.startColumns + padding
    let stop := m.stopColumns - padding
    (canvas.shorten g.row first stop ellipsis).shorten (g.row + 1) first stop ellipsis

end Ground

/-- The gutter columns where ranges open or close on a line. -/
def ends (severity : Severity) (marks : List Mark) : List (Nat × Ink) :=
  marks.filterMap fun m =>
    match m.shape with
    | .opens depth | .closes depth => some (depth, m.ink severity)
    | _ => none

/--
A line whose marks only open ranges, with blanks before them, needs no row for the marks: the bars
start beside the line.
-/
def drawOpenings (canvas : Canvas) (l : Layout) (severity : Severity) (row : Nat)
    (marks : List Mark) : Canvas :=
  (ends severity marks).foldl
    (fun canvas (depth, ink) => canvas.put row (l.gutter + depth) ink '/') canvas

def opensBeside (line : MarkedLine) : Bool :=
  line.marks.all fun m =>
    m.isBar || m.isOpening && (line.line.text.take m.startChars).all isBlank

/-- Draws the marks of a line below it. -/
def drawMarks (canvas : Canvas) (l : Layout) (severity : Severity) (row cut : Nat)
    (marks : List Mark) : Canvas × List (Nat × Ink) :=
  let sorted := marks.mergeSort fun a b =>
    b.startColumns < a.startColumns ||
      a.startColumns = b.startColumns && b.startChars ≤ a.startChars
  let placed := Mark.rows 0 sorted
  let lowest := (placed.map (·.1)).foldl max 0
  let onlyOpens := sorted.all (·.isOpening)
  let placed := if onlyOpens then placed.map fun (row, m) => (lowest - row, m) else placed
  let below := if lowest = 0 then 0 else if onlyOpens then lowest else lowest + 1
  let g : Ground := ⟨l, severity, row, cut, below⟩
  let canvas := (List.range (below + 1)).foldl
    (fun canvas i => canvas.drawBar l (row + i + 1)) canvas
  let canvas := placed.foldl g.drawArm canvas
  let canvas := placed.foldl g.drawStem canvas
  let canvas := placed.foldl g.drawLabel canvas
  let byLength := placed.mergeSort fun (_, a) (_, b) =>
    b.columns < a.columns || a.columns = b.columns && (!a.primary || b.primary)
  let canvas := byLength.foldl g.drawMark canvas
  let canvas := (byLength.zip (Mark.meetings sorted)).foldl
    (fun canvas ((_, m), meets) => g.shortenMark canvas m meets) canvas
  (canvas, ends severity (byLength.map (·.2)))

/-- Draws a line with its marks; also gives the gutter columns where ranges open or close. -/
def drawMarkedLine (canvas : Canvas) (l : Layout) (severity : Severity) (line : MarkedLine) :
    Canvas × List (Nat × Ink) :=
  let row := canvas.size
  let (canvas, cut) := canvas.drawLine l row line.line
  if opensBeside line then
    (canvas.drawOpenings l severity row line.marks, ends severity line.marks)
  else if line.marks.all (·.isBar) then (canvas, [])
  else canvas.drawMarks l severity row cut line.marks

/-- Bars of the ranges that are open, in the rows from `first` on. -/
def drawOpen (canvas : Canvas) (l : Layout) (first : Nat) (bars : List (Nat × Ink)) : Canvas :=
  bars.foldl (fun canvas (depth, ink) =>
    canvas.descend (l.gutter + depth) first canvas.size ink '|') canvas

/-- What stands between two marked lines: nothing, the one line between them, or an ellipsis. -/
def drawGap (canvas : Canvas) (l : Layout) (between : List SourceLine) (bars : List (Nat × Ink)) :
    Canvas :=
  let row := canvas.size
  match between with
  | [] => canvas
  | [line] => (canvas.drawLine l row line).1.drawOpen l row bars
  | _ => (canvas.write row 0 .frame ellipsis).drawOpen l row bars

/-- Draws marked lines in order; `bars` are the ranges that are open before them. -/
def drawLines (canvas : Canvas) (l : Layout) (severity : Severity) (source : List SourceLine)
    (bars : List (Nat × Ink)) : List MarkedLine → Canvas
  | [] => canvas
  | line :: rest =>
    let row := canvas.size
    let (canvas, changed) := canvas.drawMarkedLine l severity line
    let (closed, opened) := changed.partition fun (depth, _) => bars.any (·.1 = depth)
    let bars := bars.filter fun (depth, _) => closed.all (·.1 ≠ depth)
    let canvas := canvas.drawOpen l row bars
    let canvas := match rest with
      | [] => canvas
      | next :: _ =>
        let between := source.filter fun (s : SourceLine) =>
          line.line.number < s.number && s.number < next.line.number
        let opening := line.marks.filterMap fun (m : Mark) =>
          match m.shape with
          | .opens depth => some (depth, m.ink severity)
          | _ => none
        canvas.drawGap l between (bars ++ opening)
    canvas.drawLines l severity source (bars ++ opened) rest

/-- Lines of a text behind a heading that takes `indent` columns. -/
def drawText (canvas : Canvas) (row indent : Nat) (ink : Ink) (text : String) : Canvas :=
  match (shownText text.toList).splitOn '\n' with
  | [] => canvas
  | first :: more =>
    (more.zipIdx (row + 1)).foldl
      (fun canvas (line, row) =>
        (canvas.write row 0 .plain (List.replicate indent ' ')).append row ink line)
      (canvas.append row ink first)

def drawTitle (severity : Severity) (message : String) : Canvas :=
  let name := severity.name.toList
  let canvas := Canvas.write #[] 0 0 (.severity severity) name
  (canvas.append 0 .bold [':', ' ']).drawText 0 (name.length + 2) .bold message

/-- Where the diagnostic stands: the first mark of its own range. -/
def drawPlace (canvas : Canvas) (l : Layout) (path : String) (lines : List MarkedLine) : Canvas :=
  let row := canvas.size
  let position := match lines.find? (·.marks.any (·.primary)) with
    | none => ""
    | some line =>
      let starts := (line.marks.filter (·.primary)).map (·.startChars)
      s!":{line.line.number}:{starts.min?.getD 0 + 1}"
  let canvas := canvas.write row l.numberWidth .frame "--> ".toList
  canvas.append row .plain (path ++ position).toList

def drawHint (canvas : Canvas) (l : Layout) (hint : String) : Canvas :=
  let row := canvas.size
  let canvas := canvas.write row l.bar .frame ['=', ' ']
  let canvas := (canvas.append row .bold "help".toList).append row .plain [':', ' ']
  canvas.drawText row (l.numberWidth + 9) .plain hint

end Canvas

namespace Diagnostic

/-- An empty range is widened by a byte, so that there is something to mark. -/
def visibleSpan (size : Nat) (span : Span) : Span :=
  let start := min span.start size
  let stop := min span.stop size
  if start = stop then ⟨start, min (start + 1) size⟩ else ⟨start, stop⟩

/-- Its own range, then the ranges that help to understand it. -/
def highlights (size : Nat) (d : Diagnostic) : List Highlight :=
  ⟨visibleSpan size d.span, true, none⟩ ::
    d.related.map fun r => ⟨visibleSpan size r.span, false, some r.message⟩

def draw (source : String) (path : Option String) (d : Diagnostic) : Canvas :=
  let lines := SourceLine.lines source.toList
  let (marked, depth) := MarkedLine.ofHighlights lines (d.highlights source.utf8ByteSize)
  let l := Layout.ofLines marked depth
  let canvas := Canvas.drawTitle d.severity d.message
  let canvas := match path with
    | none => canvas
    | some path => canvas.drawPlace l path marked
  let canvas := canvas.drawBar l canvas.size
  let canvas := canvas.drawLines l d.severity lines [] marked
  if d.hints.isEmpty then canvas
  else d.hints.foldl (Canvas.drawHint · l) (canvas.drawBar l canvas.size)

/-- Diagnostics drawn into the source that they point into. -/
def listing (source : String) (path : Option String) (styled : Bool) (ds : List Diagnostic) :
    String :=
  "\n".intercalate (ds.map fun d => (d.draw source path).render styled)

end Diagnostic

end TokenGrammar
