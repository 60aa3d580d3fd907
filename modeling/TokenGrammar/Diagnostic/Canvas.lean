import TokenGrammar.Diagnostic.Basic

/-!
# A canvas of styled characters

Text with marks under it is drawn cell by cell, one cell a character, and later strokes cover earlier
ones.
-/
namespace TokenGrammar

inductive Ink
  | plain
  | bold
  /-- Line numbers, bars, and what is not primary. -/
  | frame
  /-- The color of a severity. -/
  | severity (s : Severity)
  deriving DecidableEq, Repr

/-- The escape sequence that switches the ink on. -/
def Ink.code : Ink → String
  | plain => ""
  | bold => "\x1b[1m"
  | frame => "\x1b[1m\x1b[94m"
  | severity .error => "\x1b[1m\x1b[91m"
  | severity .warning => "\x1b[1m\x1b[33m"

structure Cell where
  char : Char
  ink : Ink

def Cell.blank : Cell := ⟨' ', .plain⟩

/-- Rows of cells; a row ends with the last cell that was drawn. -/
abbrev Canvas := Array (Array Cell)

namespace Canvas

/-- At least so many rows. -/
def extend (canvas : Canvas) (rows : Nat) : Canvas :=
  canvas ++ Array.replicate (rows - canvas.size) #[]

def put (canvas : Canvas) (row column : Nat) (ink : Ink) (c : Char) : Canvas :=
  (canvas.extend (row + 1)).modify row fun cells =>
    (cells ++ Array.replicate (column + 1 - cells.size) Cell.blank).setIfInBounds column ⟨c, ink⟩

def write (canvas : Canvas) (row column : Nat) (ink : Ink) (text : List Char) : Canvas :=
  match text with
  | [] => canvas.extend (row + 1)
  | c :: cs => (canvas.put row column ink c).write row (column + 1) ink cs

/-- Writes behind the last cell of a row. -/
def append (canvas : Canvas) (row : Nat) (ink : Ink) (text : List Char) : Canvas :=
  canvas.write row ((canvas[row]?.map (·.size)).getD 0) ink text

/-- The same character in the columns from `first` up to and without `stop`. -/
def stroke (canvas : Canvas) (row first stop : Nat) (ink : Ink) (c : Char) : Canvas :=
  canvas.write row first ink (List.replicate (stop - first) c)

/-- The same character in one column of the rows from `first` up to and without `stop`. -/
def descend (canvas : Canvas) (column first stop : Nat) (ink : Ink) (c : Char) : Canvas :=
  (List.range' first (stop - first)).foldl (fun canvas row => canvas.put row column ink c) canvas

/-- Puts a text in the place of a longer stretch of a row. -/
def shorten (canvas : Canvas) (row first stop : Nat) (text : List Char) : Canvas :=
  canvas.modify row fun cells =>
    if first = stop ∨ cells.size < first ∨ cells.size < stop then cells
    else
      let kept := cells.extract 0 first ++ cells.extract (stop - text.length) cells.size
      (text.zipIdx first).foldl (fun cells (c, i) => cells.setIfInBounds i ⟨c, .frame⟩) kept

def renderRow (styled : Bool) (cells : List Cell) (ink : Ink) : List Char :=
  let reset (ink : Ink) : List Char := if styled ∧ ink ≠ .plain then "\x1b[0m".toList else []
  match cells with
  | [] => reset ink
  | cell :: rest =>
    let change := if styled ∧ cell.ink ≠ ink then reset ink ++ cell.ink.code.toList else []
    change ++ cell.char :: renderRow styled rest cell.ink

def render (styled : Bool) (canvas : Canvas) : String :=
  "\n".intercalate
    (canvas.toList.map fun cells => String.ofList (renderRow styled cells.toList .plain))

end Canvas

end TokenGrammar
