import TokenGrammar.Text.Position
import TokenGrammar.Text.Ranges

/-!
# Tables of line starts

Where many places of one text are looked up, the byte offsets at which its lines start are listed once. An
offset is then on the last line that starts at or before it, which is found by bisection, and its column is
counted from there.
-/
namespace TokenGrammar

/-- Where a number is among increasing ones, or else where it would have to be put. -/
def searchSorted (numbers : Array Nat) (n : Nat) : Except Nat Nat :=
  let i := bisect (fun i => numbers[i]?.any (· < n)) 0 numbers.size
  if numbers[i]? = some n then .ok i else .error i

/-- The starts of the lines that line feeds open, in a text that begins at the offset. -/
def openedLineStarts (offset : Nat) : List Char → List Nat
  | [] => []
  | c :: cs =>
    let behind := offset + c.utf8Size
    if c = '\n' then behind :: openedLineStarts behind cs else openedLineStarts behind cs

/-- Number of characters between two byte offsets, if both are between characters. -/
def charactersBetween? (text : List Char) (start stop : Nat) : Option Nat :=
  (characterCount? text start).bind fun n => characterCount? (text.drop n) (stop - start)

/-- A text and the byte offset of each of its lines. -/
structure LineIndex where
  text : List Char
  starts : Array Nat

namespace LineIndex

def ofText (text : List Char) : LineIndex := ⟨text, (0 :: openedLineStarts 0 text).toArray⟩

/-- The line that an offset is on, counted from zero. There would be none in front of the first start. -/
def line? (index : LineIndex) (offset : Nat) : Option Nat :=
  match searchSorted index.starts offset with
  | .ok line => some line
  | .error 0 => none
  | .error (line + 1) => some line

/--
Position of a byte offset, counted from the start of its line, unless the table has no such line or the line
starts behind the offset. Offsets past the end count as the end; inside a character the bytes are counted.
-/
def position? (index : LineIndex) (offset : Nat) : Option Position := do
  let offset := min offset (byteLength index.text)
  let line ← index.line? offset
  let start ← index.starts[line]?
  if start ≤ offset then
    some ⟨line + 1, (charactersBetween? index.text start offset).getD (offset - start) + 1⟩
  else none

end LineIndex

end TokenGrammar
