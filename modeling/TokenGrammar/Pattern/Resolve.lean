import TokenGrammar.Pattern.Basic
import TokenGrammar.Pattern.CharName
import TokenGrammar.Pattern.Expr

/-!
# What a written pattern means

Flags hold from where they are set to the end of the group that they are set in. Without the flag `u`
sets hold ASCII characters only, and whatever would match a part of a longer character is refused.
-/
namespace TokenGrammar.Pattern

structure Flags where
  ignoreCase : Bool
  multiLine : Bool
  dotAll : Bool
  swapGreed : Bool
  unicode : Bool
  crlf : Bool

namespace Flags

def initial : Flags := ⟨false, false, false, false, true, false⟩

def set (f : Flags) : Flag × Bool → Flags
  | (.ignoreCase, on) => { f with ignoreCase := on }
  | (.multiLine, on) => { f with multiLine := on }
  | (.dotAll, on) => { f with dotAll := on }
  | (.swapGreed, on) => { f with swapGreed := on }
  | (.unicode, on) => { f with unicode := on }
  | (.crlf, on) => { f with crlf := on }
  | (.ignoreSpace, _) => f

def change (f : Flags) (changes : FlagChanges) : Flags := changes.foldl set f

/-- The set with all variants in case, if case is ignored. -/
def fold (f : Flags) (s : CharSet) : CharSet :=
  if f.ignoreCase then (if f.unicode then .folded s else .asciiFolded s) else s

/-- Without `u`, the rest of an ASCII set holds parts of characters. -/
def negate (f : Flags) (negated : Bool) (s : CharSet) : Option CharSet :=
  if negated then (if f.unicode then some (.compl s) else none) else some s

end Flags

def Shorthand.set (unicode : Bool) : Shorthand → CharSet
  | digit => if unicode then .digit else .asciiDigit
  | space => if unicode then .space else .asciiSpace
  | word => if unicode then .word else .asciiWord

def Posix.set : Posix → CharSet
  | alnum => .ofRanges [('0', '9'), ('A', 'Z'), ('a', 'z')]
  | alpha => .ofRanges [('A', 'Z'), ('a', 'z')]
  | ascii => .range '\x00' '\x7f'
  | blank => .ofRanges [('\t', '\t'), (' ', ' ')]
  | cntrl => .ofRanges [('\x00', '\x1f'), ('\x7f', '\x7f')]
  | digit => .asciiDigit
  | graph => .range '!' '~'
  | lower => .range 'a' 'z'
  | print => .range ' ' '~'
  | punct => .ofRanges [('!', '/'), (':', '@'), ('[', '\x60'), ('\x7b', '~')]
  | space => .asciiSpace
  | upper => .range 'A' 'Z'
  | word => .asciiWord
  | xdigit => .ofRanges [('0', '9'), ('A', 'F'), ('a', 'f')]

def SetName.set? : SetName → Option CharSet
  | one name => CharName.set? name
  | valued property value => CharName.setOfValue? property value

namespace Flags

/-- The character that a literal stands for; a byte beyond ASCII is none where bytes are meant. -/
def char? (f : Flags) (l : Literal) : Option Char :=
  if !f.unicode && l.isByte && 0x80 ≤ l.char.toNat then none else some l.char

/-- A member of a set; without `u` it has to be ASCII. -/
def member? (f : Flags) (l : Literal) : Option Char :=
  if !f.unicode && 0x80 ≤ l.char.toNat then none else some l.char

def shorthand? (f : Flags) (kind : Shorthand) (negated : Bool) : Option CharSet :=
  f.negate negated (kind.set f.unicode)

def named? (f : Flags) (name : SetName) (negated : Bool) : Option CharSet :=
  if f.unicode then do
    let s ← name.set?
    f.negate negated (f.fold s)
  else none

mutual

def set? (f : Flags) : SetExpr → Option CharSet
  | .nothing => some .none
  | .literal l => (f.member? l).map .single
  | .range first last => do
    let first ← f.member? first
    let last ← f.member? last
    some (.range first last)
  | .posix kind negated => f.negate negated (f.fold kind.set)
  | .shorthand kind negated => f.shorthand? kind negated
  | .named name negated => f.named? name negated
  | .bracketed negated content => do
    let s ← f.set? content
    f.negate negated (f.fold s)
  | .union items => f.union? items
  | .op kind left right => do
    let left ← f.set? left
    let right ← f.set? right
    match kind with
    | .intersection => some (.inter (f.fold left) (f.fold right))
    | .difference => some (.diff (f.fold left) (f.fold right))
    | .symmetricDifference => some (.symmDiff (f.fold left) (f.fold right))

def union? (f : Flags) : List SetExpr → Option CharSet
  | [] => some .none
  | item :: rest => do
    let s ← f.set? item
    let t ← f.union? rest
    some (.union s t)

end

def dot? (f : Flags) : Option CharSet :=
  if !f.unicode then none
  else if f.dotAll then some .any
  else if f.crlf then some (.compl (.union (.single '\r') (.single '\n')))
  else some (.compl (.single '\n'))

def look (f : Flags) : Anchor → Look
  | .lineStart =>
    if f.multiLine then (if f.crlf then .crlfLineStart else .lineStart) else .textStart
  | .lineEnd => if f.multiLine then (if f.crlf then .crlfLineEnd else .lineEnd) else .textEnd
  | .textStart => .textStart
  | .textEnd => .textEnd
  | .wordBoundary => if f.unicode then .unicodeWord else .asciiBoundary
  | .notWordBoundary => if f.unicode then .unicodeWord else .notAsciiBoundary
  | .wordStart => if f.unicode then .unicodeWord else .asciiWordStart
  | .wordEnd => if f.unicode then .unicodeWord else .asciiWordEnd
  | .wordStartHalf => if f.unicode then .unicodeWord else .notAfterAsciiWord
  | .wordEndHalf => if f.unicode then .unicodeWord else .notBeforeAsciiWord

mutual

/-- The meaning of a part under the flags before it, and the flags behind it. -/
def resolve (f : Flags) : Expr → Option (Pattern × Flags)
  | .empty => some (.empty, f)
  | .flags changes => some (.empty, f.change changes)
  | .literal l => (f.char? l).map fun c => (.one (f.fold (.single c)), f)
  | .dot => f.dot?.map fun s => (.one s, f)
  | .anchor kind => some (.look (f.look kind), f)
  | .shorthand kind negated => (f.shorthand? kind negated).map fun s => (.one s, f)
  | .named name negated => (f.named? name negated).map fun s => (.one s, f)
  | .bracketed negated content => do
    let s ← f.set? content
    let s ← f.negate negated (f.fold s)
    some (.one s, f)
  | .repeated greedy least most inner => do
    let (p, after) ← f.resolve inner
    some (.repeated (greedy != f.swapGreed) least most p, after)
  | .group changes inner => do
    let (p, _) ← (f.change changes).resolve inner
    some (p, f)
  | .choice branches => do
    let (ps, after) ← f.resolveAll branches
    some (.ofAlts ps, after)
  | .sequence parts => do
    let (ps, after) ← f.resolveAll parts
    some (.ofSeq ps, after)

def resolveAll (f : Flags) : List Expr → Option (List Pattern × Flags)
  | [] => some ([], f)
  | part :: rest => do
    let (p, after) ← f.resolve part
    let (ps, after) ← after.resolveAll rest
    some (p :: ps, after)

end

end Flags

end TokenGrammar.Pattern
