import TokenGrammar.Json.Fault

/-!
# Going through a JSON text

A reader goes through the text once and stops at the first fault. Faults are placed where reading
stands, or one byte further where the next character is the one to blame.
-/
namespace TokenGrammar.Json

/-- What is left of a text. -/
structure Cursor where
  line : Nat
  /-- Bytes of the line that were read. -/
  column : Nat
  rest : List Char

namespace Cursor

/-- Line and column some bytes further on, or at the end of the text. -/
def ahead (c : Cursor) (n : Nat) : Nat × Nat := go n c.line c.column c.rest
where
  go (n line column : Nat) : List Char → Nat × Nat
    | [] => (line, column)
    | c :: cs =>
      if n = 0 then (line, column)
      else if n < c.utf8Size then (line, column + n)
      else if c = '\n' then go (n - 1) (line + 1) 0 cs
      else go (n - c.utf8Size) line (column + c.utf8Size) cs

def skip (c : Cursor) : Cursor :=
  match c.rest with
  | [] => c
  | ch :: cs => if ch = '\n' then ⟨c.line + 1, 0, cs⟩ else ⟨c.line, c.column + ch.utf8Size, cs⟩

def isSpace (c : Char) : Bool := c = ' ' || c = '\n' || c = '\t' || c = '\r'

def skipSpaces (c : Cursor) : Cursor := go c.line c.column c.rest
where
  go (line column : Nat) : List Char → Cursor
    | [] => ⟨line, column, []⟩
    | c :: cs =>
      if c = '\n' then go (line + 1) 0 cs
      else if isSpace c then go line (column + 1) cs
      else ⟨line, column, c :: cs⟩

end Cursor

abbrev Reader := StateT Cursor (Except ReadError)

namespace Reader

/-- Fails some bytes further on. -/
def failAfter {α : Type} (bytes : Nat) (fault : Fault) : Reader α := fun c =>
  .error ⟨fault, (c.ahead bytes).1, (c.ahead bytes).2⟩

def fail {α : Type} (fault : Fault) : Reader α := failAfter 0 fault

/-- Blames the next character. -/
def blame {α : Type} (fault : Fault) : Reader α := failAfter 1 fault

def next? : Reader (Option Char) := do return (← get).rest.head?

def skip : Reader Unit := modify Cursor.skip

/-- The next character behind spaces. -/
def nextBehindSpaces? : Reader (Option Char) := do
  modify Cursor.skipSpaces
  next?

end Reader

end TokenGrammar.Json
