import TokenGrammar.Diagnostic.Basic
import TokenGrammar.Text.Width

/-!
# Lines of an annotated source

Diagnostics point at byte ranges; what is drawn under a line is measured in the columns that its
characters take.
-/
namespace TokenGrammar

/-- Characters that would spoil a listing, and what is shown in their place. -/
def shown (c : Char) : List Char :=
  let n := c.toNat
  if c = '\t' then [' ', ' ', ' ', ' ']
  else if c = '\n' then [c]
  else if n < 0x20 then [Char.ofNat (0x2400 + n)]
  else if n = 0x7F then ['␡']
  else if n = 0x200D then []
  else if 0x202A ≤ n ∧ n ≤ 0x202E ∨ 0x2066 ≤ n ∧ n ≤ 0x2069 then ['�']
  else [c]

/-- Columns that a character takes as it is shown. -/
def shownWidth (c : Char) : Nat :=
  let n := c.toNat
  if c = '\t' then 4
  else if 0x202A ≤ n ∧ n ≤ 0x202E ∨ 0x2066 ≤ n ∧ n ≤ 0x2069 then 1
  else charWidth c

def shownText (text : List Char) : List Char := text.flatMap shown

def textWidth : List Char → Nat
  | [] => 0
  | c :: cs => shownWidth c + textWidth cs

/-- A place in a source: its line, and how many characters and columns stand before it there. -/
structure Spot where
  line : Nat
  chars : Nat
  columns : Nat
  deriving DecidableEq, Repr

/-- A line without its line break. -/
structure SourceLine where
  number : Nat
  text : List Char
  start : Nat
  /-- Behind the line break. -/
  stop : Nat
  breakSize : Nat

namespace SourceLine

/-- What is left of a line once a carriage return before its line feed is dropped, and the break. -/
def splitBreak (text : List Char) : List Char × Nat :=
  if text.getLast? = some '\r' then (text.dropLast, 2) else (text, 1)

/-- Lines of a text of which the first, with that number and start, has `line` reversed before it. -/
def linesFrom (number start : Nat) (line : List Char) : List Char → List SourceLine
  | [] =>
    if line.isEmpty then [] else [⟨number, line.reverse, start, start + byteLength line, 0⟩]
  | c :: cs =>
    if c = '\n' then
      let (kept, size) := splitBreak line.reverse
      let stop := start + byteLength line + 1
      ⟨number, kept, start, stop, size⟩ :: linesFrom (number + 1) stop [] cs
    else linesFrom number start (c :: line) cs

/-- An empty text still has a line; a break at the end opens none. -/
def lines (text : List Char) : List SourceLine :=
  if text.isEmpty then [⟨1, [], 0, 1, 0⟩] else linesFrom 1 0 [] text

/-- The characters of the line that start before the byte `offset` of the source. -/
def before (line : SourceLine) (offset : Nat) : List Char := go (offset - line.start) line.text
where
  go (n : Nat) : List Char → List Char
    | [] => []
    | c :: cs => if n = 0 then [] else c :: go (n - c.utf8Size) cs

/-- The line that the byte `offset` belongs to; past the end it is the last. -/
def containing (lines : List SourceLine) (offset : Nat) : SourceLine :=
  match lines.find? fun l => l.start ≤ offset ∧ offset < l.stop with
  | some line => line
  | none => lines.getLastD ⟨1, [], 0, 1, 0⟩

/-- Where a range starts and ends. -/
def spots (lines : List SourceLine) (range : Span) : Spot × Spot :=
  let first := containing lines range.start
  let text := first.before range.start
  let isBehind := byteLength first.text < range.start - first.start
  let start : Spot := ⟨first.number, if isBehind then text.length + 1 else text.length, textWidth text⟩
  if range.start = range.stop then (start, start)
  else
    let last := containing lines range.stop
    let text := last.before range.stop
    let extra := if first.number ≠ last.number ∧ last.stop - last.breakSize < range.stop then 1 else 0
    (start, ⟨last.number, text.length + extra, textWidth text + extra⟩)

end SourceLine

end TokenGrammar
