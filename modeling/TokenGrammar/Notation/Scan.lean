import TokenGrammar.Notation.Token

/-!
# Scanning the grammar notation

A text is cut into pieces, each the longest that the notation's rules allow at its start. Where no
rule applies, the piece is the longest stretch that could still have become a token, and at least one
character. Neighbouring pieces of that sort are one unexpected fragment, so that a run of garbage is
reported once. Main statement: the pieces are the text.
-/
namespace TokenGrammar.Notation

def isNameStart (c : Char) : Bool :=
  'A' ≤ c && c ≤ 'Z' || 'a' ≤ c && c ≤ 'z' || c = '_'

def isNameChar (c : Char) : Bool :=
  isNameStart c || '0' ≤ c && c ≤ '9' || c = '-'

def isSpacing (c : Char) : Bool :=
  c = ' ' || c = '\t' || c = '\r' || c = '\n' || c = '\x0c'

/-- Number of characters at the front that satisfy `p`. -/
def spanLength (p : Char → Bool) (text : List Char) : Nat := (text.takeWhile p).length

/--
How far a literal reaches behind its opening quote, and whether it is closed. It is given up behind a
backslash that escapes neither a quote nor a backslash, or at the end of the text.
-/
def literalLength : List Char → Nat × Bool
  | [] => (0, false)
  | '"' :: _ => (1, true)
  | ['\\'] => (1, false)
  | '\\' :: c :: cs =>
    if c = '"' ∨ c = '\\' then
      let (n, closed) := literalLength cs
      (n + 2, closed)
    else (1, false)
  | _ :: cs =>
    let (n, closed) := literalLength cs
    (n + 1, closed)

/-- A sigil makes a reference only if a name follows at once. -/
def referenceLength (kind : Kind) : List Char → Kind × Nat
  | c :: cs => if isNameStart c then (kind, spanLength isNameChar cs + 1) else (.unexpectedFragment, 0)
  | [] => (.unexpectedFragment, 0)

/-- Kind of the piece that starts with `c`, and how many characters of `cs` belong to it. -/
def extent (c : Char) (cs : List Char) : Kind × Nat :=
  if isNameStart c then
    let n := spanLength isNameChar cs
    if c = 'o' ∧ cs.take n = ['r'] then (.alternator, n) else (.name, n)
  else if isSpacing c then (.whitespace, spanLength isSpacing cs)
  else match c with
    | '=' => (.assignment, 0)
    | ';' => (.terminator, 0)
    | '(' => (.groupOpen, 0)
    | ')' => (.groupClose, 0)
    | '|' => (.alternator, 0)
    | '?' => (.optional, 0)
    | '*' => (.zeroOrMore, 0)
    | '+' => (.oneOrMore, 0)
    | '.' => referenceLength .classRef cs
    | '@' => referenceLength .subruleRef cs
    | '#' => referenceLength .definitionRef cs
    | '~' => referenceLength .ignorationRef cs
    | '"' =>
      let (n, closed) := literalLength cs
      (if closed then .literal else .unexpectedFragment, n)
    | '/' =>
      match cs with
      | '/' :: rest => (.lineComment, spanLength (· ≠ '\n') rest + 1)
      | _ => (.unexpectedFragment, 0)
    | _ => (.unexpectedFragment, 0)

structure Piece where
  kind : Kind
  text : List Char
  deriving DecidableEq, Repr

def pieces : List Char → List Piece
  | [] => []
  | c :: cs => ⟨(extent c cs).1, c :: cs.take (extent c cs).2⟩ :: pieces (cs.drop (extent c cs).2)
termination_by text => text.length
decreasing_by simp only [List.length_drop, List.length_cons]; omega

def joinUnexpected : List Piece → List Piece
  | [] => []
  | p :: rest =>
    match joinUnexpected rest with
    | [] => [p]
    | q :: more =>
      if p.kind = .unexpectedFragment ∧ q.kind = .unexpectedFragment then
        ⟨.unexpectedFragment, p.text ++ q.text⟩ :: more
      else p :: q :: more

def locate (place : Place) : List Piece → List Token
  | [] => []
  | p :: rest =>
    ⟨p.kind, String.ofList p.text, place.covering p.text⟩ :: locate (place.after p.text) rest

/-- The tokens of a text that starts at `origin` inside a larger one. -/
def scan (origin : Place) (text : List Char) : List Token :=
  (locate origin (joinUnexpected (pieces text))).filter (!·.kind.isTrivia)

theorem flatMap_text_pieces (text : List Char) : (pieces text).flatMap (·.text) = text := by
  induction text using pieces.induct with
  | case1 => simp [pieces]
  | case2 c cs ih =>
      rw [pieces, List.flatMap_cons, ih, List.cons_append, List.take_append_drop]

theorem flatMap_text_joinUnexpected (ps : List Piece) :
    (joinUnexpected ps).flatMap (·.text) = ps.flatMap (·.text) := by
  induction ps with
  | nil => rfl
  | cons p ps ih =>
      rw [joinUnexpected, List.flatMap_cons, ← ih]
      split
      · next h => simp [h]
      · next q more h =>
          split <;> simp [h]

end TokenGrammar.Notation
