/-!
# Places in a text

Lines and columns count from one and columns count characters, so that a position is what an editor
shows; spans and offsets count the bytes of the UTF-8 form. `Place.after` walks over a piece of text
and keeps both in step.
-/
namespace TokenGrammar

structure Position where
  line : Nat
  column : Nat
  deriving DecidableEq, Repr

/-- Half-open range of byte offsets. -/
structure Span where
  start : Nat
  stop : Nat
  deriving DecidableEq, Repr

/-- The part of a text that a message points at. -/
structure Location where
  span : Span
  position : Position
  deriving DecidableEq, Repr

/-- A point between two characters of a text. -/
structure Place where
  offset : Nat
  position : Position
  deriving DecidableEq, Repr

/-- Number of bytes of a text's UTF-8 form. -/
def byteLength : List Char → Nat
  | [] => 0
  | c :: cs => c.utf8Size + byteLength cs

/-- How many characters at the front of a text take this many bytes. There is no such number if the bytes
end inside a character or behind the text. -/
def characterCount? : List Char → Nat → Option Nat
  | _, 0 => some 0
  | [], _ + 1 => none
  | c :: cs, bytes =>
    if c.utf8Size ≤ bytes then (characterCount? cs (bytes - c.utf8Size)).map (· + 1) else none

namespace Position

def start : Position := ⟨1, 1⟩

def next (p : Position) (c : Char) : Position :=
  if c = '\n' then ⟨p.line + 1, 1⟩ else ⟨p.line, p.column + 1⟩

def after (p : Position) (text : List Char) : Position := text.foldl next p

def describe (p : Position) : String := s!"line {p.line}, column {p.column}"

/-- Lexicographic: by line, then by column. -/
def lt (p q : Position) : Prop := p.line < q.line ∨ p.line = q.line ∧ p.column < q.column

instance : LT Position := ⟨lt⟩

/--
Position of a byte offset. Past the end it is the position of the end; inside a character the
column counts the bytes from the start of the line.
-/
def ofOffset (text : List Char) (offset : Nat) : Position := go start 0 text offset
where
  go (p : Position) (lineBytes : Nat) : List Char → Nat → Position
    | [], _ => p
    | c :: cs, n =>
      if n = 0 then p
      else if n < c.utf8Size then ⟨p.line, lineBytes + n + 1⟩
      else go (p.next c) (if c = '\n' then 0 else lineBytes + c.utf8Size) cs (n - c.utf8Size)

end Position

/-- Every newline opens a line, so a text without one still has one line. -/
def lineCount (text : List Char) : Nat := text.count '\n' + 1

namespace Place

def start : Place := ⟨0, Position.start⟩

def after (p : Place) (text : List Char) : Place :=
  ⟨p.offset + byteLength text, p.position.after text⟩

/-- The location of the text that starts at the place. -/
def covering (p : Place) (text : List Char) : Location :=
  ⟨⟨p.offset, p.offset + byteLength text⟩, p.position⟩

end Place

theorem byteLength_append (s t : List Char) :
    byteLength (s ++ t) = byteLength s + byteLength t := by
  induction s with
  | nil => simp [byteLength]
  | cons c s ih => simp only [List.cons_append, byteLength, ih, Nat.add_assoc]

theorem Position.after_append (p : Position) (s t : List Char) :
    p.after (s ++ t) = (p.after s).after t := by
  simp only [Position.after, List.foldl_append]

theorem Place.after_nil (p : Place) : p.after [] = p := rfl

theorem Place.after_append (p : Place) (s t : List Char) :
    p.after (s ++ t) = (p.after s).after t := by
  simp only [Place.after, byteLength_append, Position.after_append, Nat.add_assoc]

end TokenGrammar
