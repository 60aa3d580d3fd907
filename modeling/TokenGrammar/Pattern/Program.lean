import TokenGrammar.Pattern.Parser
import TokenGrammar.Pattern.Resolve

/-!
# Matching patterns

A pattern becomes a program of instructions that test a character, test the surroundings, or go on in
two places of which the first is preferred. All places of the program that the text read so far can
lead to are followed at once, in the order of preference, and none twice; so a match is found in time
linear in the text.
-/
namespace TokenGrammar.Pattern

inductive Instruction
  | one (set : CharSet) (next : Nat)
  | look (condition : Look) (next : Nat)
  | split (preferred other : Nat)
  | accept

/-- Instructions, and where they start. -/
structure Program where
  code : Array Instruction
  start : Nat

namespace Program

/-- Adds an instruction and tells where it stands. -/
def push (code : Array Instruction) (i : Instruction) : Program := ⟨code.push i, code.size⟩

/-- Adds the code of a pattern that goes on at `next`. -/
def add (code : Array Instruction) (next : Nat) : Pattern → Program
  | .empty => ⟨code, next⟩
  | .one set => push code (.one set next)
  | .look condition => push code (.look condition next)
  | .seq first second =>
    let rest := add code next second
    add rest.code rest.start first
  | .alt preferred other =>
    let b := add code next other
    let a := add b.code next preferred
    push a.code (.split a.start b.start)
  | .plus greedy inner =>
    let loop := code.size
    let body := add (code.push .accept) loop inner
    let branch := if greedy then .split body.start next else .split next body.start
    ⟨body.code.setIfInBounds loop branch, body.start⟩

def ofPattern (p : Pattern) : Program := add #[.accept] 0 p

/--
Follows the instructions on the stack that read no character. Gives those that do, the most preferred
last, and what has been visited.
-/
def close (p : Program) (before after : Option Char) :
    Nat → List Nat → Array Bool → List Nat → List Nat × Array Bool
  | 0, _, visited, found => (found, visited)
  | _ + 1, [], visited, found => (found, visited)
  | fuel + 1, i :: stack, visited, found =>
    if visited.getD i true then p.close before after fuel stack visited found
    else
      let visited := visited.setIfInBounds i true
      match p.code[i]? with
      | none => p.close before after fuel stack visited found
      | some (.split a b) => p.close before after fuel (a :: b :: stack) visited found
      | some (.look condition next) =>
        let stack := if condition.holds before after then next :: stack else stack
        p.close before after fuel stack visited found
      | some _ => p.close before after fuel stack visited (i :: found)

/-- The threads at a place, the most preferred first. -/
def threads (p : Program) (before after : Option Char) (starts : List Nat) : List Nat :=
  let fuel := starts.length + 2 * p.code.size + 1
  (p.close before after fuel starts (Array.replicate p.code.size false) []).1.reverse

/-- Whether one of the threads accepts, and where those before it go on when they read `c`. -/
def advance (p : Program) (c : Option Char) : List Nat → Bool × List Nat
  | [] => (false, [])
  | i :: rest =>
    match p.code[i]?, c with
    | some .accept, _ => (true, [])
    | some (.one set next), some c =>
      let (accepted, more) := p.advance c rest
      (accepted, if set.contains c then next :: more else more)
    | _, c => p.advance c rest

/-- Length of the match that the threads prefer; `best` is the last one found so far. -/
def search (p : Program) (before : Option Char) (length : Nat) (best : Option Nat) :
    List Nat → List Char → Option Nat
  | starts, text =>
    match p.threads before text.head? starts with
    | [] => best
    | live =>
      let (accepted, starts) := p.advance text.head? live
      let best := if accepted then some length else best
      match text with
      | [] => best
      | c :: cs => p.search (some c) (length + 1) best starts cs
termination_by _ text => text.length

/--
Number of characters at the front of `text` that the pattern matches, if it does. `before` is the
character in front of them.
-/
def matchLength? (p : Program) (before : Option Char) (text : List Char) : Option Nat :=
  p.search before 0 none [p.start] text

end Program

inductive PatternError
  /-- Not well formed, or not a pattern for whole characters. -/
  | malformed
  /-- A condition that looks at letters and digits beyond ASCII. -/
  | unicodeWord
  deriving DecidableEq, Repr

def PatternError.message : PatternError → String
  | malformed => "error building NFA"
  | unicodeWord =>
    "unsupported regex feature for DFAs: cannot build DFAs for regexes with Unicode word " ++
    "boundaries; switch to ASCII word boundaries, or heuristically enable Unicode word boundaries " ++
    "or use a different regex engine"

/-- The program of a written pattern. -/
def build (text : String) : Except PatternError Program :=
  match (Parser.parse text.toList).bind (Flags.initial.resolve ·) with
  | none => .error .malformed
  | some (p, _) => if p.needsUnicodeWord then .error .unicodeWord else .ok (.ofPattern p)

end TokenGrammar.Pattern
