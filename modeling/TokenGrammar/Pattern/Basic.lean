import TokenGrammar.Pattern.CharSet

/-!
# Patterns

The meaning of a pattern once its flags are known. A choice prefers its left side; repetition is a
choice between going on and stopping, in the order that greed asks for.
-/
namespace TokenGrammar

namespace Pattern

/-- A condition on the characters before and after a place. -/
inductive Look
  | textStart
  | textEnd
  | lineStart
  | lineEnd
  /-- Lines that end in a line feed, a carriage return, or both together. -/
  | crlfLineStart
  | crlfLineEnd
  | asciiBoundary
  | notAsciiBoundary
  | asciiWordStart
  | asciiWordEnd
  | notAfterAsciiWord
  | notBeforeAsciiWord
  /-- Any condition on letters and digits beyond ASCII. -/
  | unicodeWord
  deriving DecidableEq, Repr

/-- Whether the condition holds between two characters, which are absent at the ends of the text. -/
def Look.holds (before after : Option Char) : Look → Bool
  | textStart => before.isNone
  | textEnd => after.isNone
  | lineStart => before.all (· = '\n')
  | lineEnd => after.all (· = '\n')
  | crlfLineStart => before.all fun c => c = '\n' || c = '\r' && after != some '\n'
  | crlfLineEnd => after.all fun c => c = '\r' || c = '\n' && before != some '\r'
  | asciiBoundary => before.any CharSet.asciiWord.contains != after.any CharSet.asciiWord.contains
  | notAsciiBoundary =>
    before.any CharSet.asciiWord.contains == after.any CharSet.asciiWord.contains
  | asciiWordStart =>
    !before.any CharSet.asciiWord.contains && after.any CharSet.asciiWord.contains
  | asciiWordEnd =>
    before.any CharSet.asciiWord.contains && !after.any CharSet.asciiWord.contains
  | notAfterAsciiWord => !before.any CharSet.asciiWord.contains
  | notBeforeAsciiWord => !after.any CharSet.asciiWord.contains
  | unicodeWord => false

end Pattern

inductive Pattern
  | empty
  | one (set : CharSet)
  | look (condition : Pattern.Look)
  | seq (first second : Pattern)
  | alt (preferred other : Pattern)
  /-- Once or more often. -/
  | plus (greedy : Bool) (inner : Pattern)

namespace Pattern

def opt (greedy : Bool) (p : Pattern) : Pattern := if greedy then alt p empty else alt empty p

/-- Any number of times. -/
def star (greedy : Bool) (p : Pattern) : Pattern := opt greedy (plus greedy p)

def ofSeq : List Pattern → Pattern
  | [] => empty
  | [p] => p
  | p :: rest => seq p (ofSeq rest)

def ofAlts : List Pattern → Pattern
  | [] => empty
  | [p] => p
  | p :: rest => alt p (ofAlts rest)

/-- At most so many times, each only if the one before it was there. -/
def upTo (greedy : Bool) (p : Pattern) : Nat → Pattern
  | 0 => empty
  | n + 1 => opt greedy (seq p (upTo greedy p n))

/-- At least and at most so many times; never is the same as nothing. -/
def repeated (greedy : Bool) (least : Nat) (most : Option Nat) (p : Pattern) : Pattern :=
  match most with
  | some most => ofSeq (List.replicate least p ++ (if least < most then [upTo greedy p (most - least)] else []))
  | none =>
    if least = 0 then star greedy p
    else ofSeq (List.replicate (least - 1) p ++ [plus greedy p])

/-- Whether some condition looks at letters and digits beyond ASCII. -/
def needsUnicodeWord : Pattern → Bool
  | look condition => condition = .unicodeWord
  | seq a b | alt a b => a.needsUnicodeWord || b.needsUnicodeWord
  | plus _ p => p.needsUnicodeWord
  | empty | one _ => false

end Pattern

end TokenGrammar
