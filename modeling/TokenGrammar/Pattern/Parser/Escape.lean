import TokenGrammar.Pattern.Expr
import TokenGrammar.Text.Blank
import TokenGrammar.Text.Hex

/-!
# Escapes in patterns

Every reader takes the text that is left and gives what it read with the text behind it; a fault gives
nothing. With the flag `x` blanks and comments between the parts of a pattern are skipped.
-/
namespace TokenGrammar.Pattern.Parser

mutual

def skipSpace : List Char → List Char
  | [] => []
  | c :: cs =>
    if isBlank c then skipSpace cs
    else if c = '#' then skipComment cs
    else c :: cs

/-- A comment ends with its line. -/
def skipComment : List Char → List Char
  | [] => []
  | c :: cs => if c = '\n' then skipSpace cs else skipComment cs

end

def trim (x : Bool) (text : List Char) : List Char := if x then skipSpace text else text

/-- Drops what is expected at the front. -/
def expect : List Char → List Char → Option (List Char)
  | [], text => some text
  | _ :: _, [] => none
  | e :: es, c :: cs => if e = c then expect es cs else none

def charOf? (n : Nat) : Option Char := if n.isValidChar then some (Char.ofNat n) else none

/-- A number of exactly as many digits. -/
def fixedHex (x : Bool) (value : Nat) : Nat → List Char → Option (Nat × List Char)
  | 0, text => some (value, text)
  | _ + 1, [] => none
  | digits + 1, c :: cs => do
    let d ← hexValue? c
    fixedHex x (value * 16 + d) digits (trim x cs)

/-- The digits before a closing brace; `value` is absent before the first of them. -/
def bracedHex (x : Bool) (value : Option Nat) : Nat → List Char → Option (Nat × List Char)
  | 0, _ => none
  | fuel + 1, text =>
    match trim x text with
    | [] => none
    | '\x7d' :: cs => value.map fun v => (v, trim x cs)
    | c :: cs => do
      let d ← hexValue? c
      bracedHex x (some (value.getD 0 * 16 + d)) fuel cs

/-- A code point behind `\x`, `\u` or `\U`, in that many digits or between braces. -/
def hexLiteral (x : Bool) (digits : Nat) (text : List Char) : Option (Literal × List Char) := do
  let text := trim x text
  match text with
  | [] => none
  | '\x7b' :: cs =>
    let (n, rest) ← bracedHex x none (cs.length + 1) cs
    let c ← charOf? n
    some (⟨c, false⟩, rest)
  | _ =>
    let (n, rest) ← fixedHex x 0 digits text
    let c ← charOf? n
    some (⟨c, digits = 2⟩, rest)

/-- The characters before a closing brace. -/
def bracedName (x : Bool) : Nat → List Char → Option (List Char × List Char)
  | 0, _ => none
  | fuel + 1, text =>
    match trim x text with
    | [] => none
    | '\x7d' :: cs => some ([], cs)
    | c :: cs => (bracedName x fuel cs).map fun (name, rest) => (c :: name, rest)

/-- The two sides of the first place where `mark` stands. -/
def splitAt? (mark : List Char) : List Char → Option (List Char × List Char)
  | [] => none
  | c :: cs =>
    match expect mark (c :: cs) with
    | some rest => some ([], rest)
    | none => (splitAt? mark cs).map fun (before, rest) => (c :: before, rest)

/-- A set's name behind `\p` or `\P`; `!=` turns the sense round. -/
def setName (x negated : Bool) (text : List Char) : Option ((SetName × Bool) × List Char) := do
  match trim x text with
  | [] => none
  | '\x7b' :: cs =>
    let (name, rest) ← bracedName x (cs.length + 1) cs
    match splitAt? ['!', '='] name with
    | some (property, value) => some ((.valued property value, !negated), rest)
    | none =>
      match splitAt? [':'] name with
      | some (property, value) => some ((.valued property value, negated), rest)
      | none =>
        match splitAt? ['='] name with
        | some (property, value) => some ((.valued property value, negated), rest)
        | none => some ((.one name, negated), rest)
  | c :: cs => if c = '\\' then none else some ((.one [c], negated), trim x cs)

def isBoundaryChar (c : Char) : Bool := 'A' ≤ c && c ≤ 'Z' || 'a' ≤ c && c ≤ 'z' || c = '-'

/-- The name of a special word boundary, up to its closing brace. -/
def boundaryName (x : Bool) : Nat → List Char → Option (List Char × List Char)
  | 0, _ => none
  | fuel + 1, text =>
    match trim x text with
    | [] => none
    | '\x7d' :: cs => some ([], cs)
    | c :: cs =>
      if isBoundaryChar c then
        (boundaryName x fuel cs).map fun (name, rest) => (c :: name, rest)
      else none

/-- What follows `\b`: the name of a special boundary, or something else that is left alone. -/
def wordBoundary (x : Bool) (text : List Char) : Option (Anchor × List Char) :=
  match text with
  | '\x7b' :: cs =>
    match trim x cs with
    | [] => none
    | c :: _ =>
      if isBoundaryChar c then do
        let (name, rest) ← boundaryName x (cs.length + 1) cs
        if name = "start".toList then some (.wordStart, rest)
        else if name = "end".toList then some (.wordEnd, rest)
        else if name = "start-half".toList then some (.wordStartHalf, rest)
        else if name = "end-half".toList then some (.wordEndHalf, rest)
        else none
      else some (.wordBoundary, text)
  | _ => some (.wordBoundary, text)

/-- What a backslash may make of the character behind it. -/
inductive Escaped
  | literal (l : Literal)
  | shorthand (kind : Shorthand) (negated : Bool)
  | named (name : SetName) (negated : Bool)
  | anchor (kind : Anchor)

/-- Every ASCII character but letters, digits and angle brackets may be escaped to stand for itself. -/
def isEscapable (c : Char) : Bool :=
  c.toNat < 0x80 && !c.isAlphanum && c ≠ '<' && c ≠ '>'

def escape (x : Bool) : List Char → Option (Escaped × List Char)
  | [] => none
  | c :: cs =>
    let plain (c : Char) : Option (Escaped × List Char) := some (.literal ⟨c, false⟩, cs)
    match c with
    | 'x' => (hexLiteral x 2 cs).map fun (l, rest) => (.literal l, rest)
    | 'u' => (hexLiteral x 4 cs).map fun (l, rest) => (.literal l, rest)
    | 'U' => (hexLiteral x 8 cs).map fun (l, rest) => (.literal l, rest)
    | 'p' => (setName x false cs).map fun ((name, negated), rest) => (.named name negated, rest)
    | 'P' => (setName x true cs).map fun ((name, negated), rest) => (.named name negated, rest)
    | 'd' => some (.shorthand .digit false, cs)
    | 's' => some (.shorthand .space false, cs)
    | 'w' => some (.shorthand .word false, cs)
    | 'D' => some (.shorthand .digit true, cs)
    | 'S' => some (.shorthand .space true, cs)
    | 'W' => some (.shorthand .word true, cs)
    | 'a' => plain '\x07'
    | 'f' => plain '\x0c'
    | 't' => plain '\t'
    | 'n' => plain '\n'
    | 'r' => plain '\r'
    | 'v' => plain '\x0b'
    | 'A' => some (.anchor .textStart, cs)
    | 'z' => some (.anchor .textEnd, cs)
    | 'b' => (wordBoundary x cs).map fun (kind, rest) => (.anchor kind, rest)
    | 'B' => some (.anchor .notWordBoundary, cs)
    | '<' => some (.anchor .wordStart, cs)
    | '>' => some (.anchor .wordEnd, cs)
    | _ => if isEscapable c then plain c else none

end TokenGrammar.Pattern.Parser
