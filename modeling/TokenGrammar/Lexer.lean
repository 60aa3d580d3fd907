import TokenGrammar.Pattern.Program
import TokenGrammar.Token

/-!
# Lexing programs

A lexer is an ordered list of named rules. At each place the first rule with a match that is not empty
and ends between two characters takes its text, which becomes a token of that kind unless the rule skips
it. What a rule matches is a parameter here, the number of bytes behind the place; `Lexer` takes patterns.
-/
namespace TokenGrammar

inductive LexError
  | invalidPattern (rule : String) (cause : Pattern.PatternError)
  | unexpectedCharacter (found : Char) (place : Place)
  deriving DecidableEq, Repr

def LexError.message : LexError → String
  | invalidPattern rule cause => s!"invalid pattern for token `{rule}`: {cause.message}"
  | unexpectedCharacter found place =>
    s!"unexpected character {quotedChar found} at {place.position.describe}"

/-- A rule, with its pattern in whatever form the lexer uses. -/
structure LexRule (π : Type) where
  name : String
  /-- Matches are dropped. -/
  skips : Bool
  pattern : π

namespace LexRule

variable {π : Type}

/-- A later rule of the same name takes the place of the earlier one. -/
def declare (rules : List (LexRule π)) (rule : LexRule π) : List (LexRule π) :=
  match rules with
  | [] => [rule]
  | r :: rest => if r.name = rule.name then rule :: rest else r :: declare rest rule

/-- The first rule whose match takes whole characters and at least one, and how many it takes. The text in
front of the place is read backwards. -/
def first? (matchBytes? : π → List Char → List Char → Option Nat) (before text : List Char) :
    List (LexRule π) → Option (LexRule π × Nat)
  | [] => none
  | rule :: rest =>
    match (matchBytes? rule.pattern before text).bind (characterCount? text) with
    | some (n + 1) => some (rule, n + 1)
    | _ => first? matchBytes? before text rest

/-- Tokens from a place on, behind those already found (the last one first). -/
def lexFrom (matchBytes? : π → List Char → List Char → Option Nat) (rules : List (LexRule π))
    (place : Place) (before : List Char) (found : List Token) :
    List Char → Except LexError (List Token)
  | [] => .ok found.reverse
  | c :: cs =>
    match first? matchBytes? before (c :: cs) rules with
    | none => .error (.unexpectedCharacter c place)
    | some (rule, n) =>
      let piece := c :: cs.take (n - 1)
      let found := if rule.skips then found
        else ⟨rule.name, String.ofList piece, place.position, place.offset⟩ :: found
      lexFrom matchBytes? rules (place.after piece) (piece.reverse ++ before) found (cs.drop (n - 1))
termination_by text => text.length
decreasing_by simp only [List.length_drop, List.length_cons]; omega

def lex (matchBytes? : π → List Char → List Char → Option Nat) (rules : List (LexRule π))
    (source : List Char) : Except LexError (List Token) :=
  lexFrom matchBytes? rules .start [] [] source

end LexRule

/-- Rules in the order in which they are tried. -/
abbrev Lexer := List (LexRule Pattern.Program)

namespace Lexer

/-- Builds the patterns of declared rules, up to the first that is not one. -/
def build : List (LexRule String) → Except LexError Lexer
  | [] => .ok []
  | rule :: rest =>
    match Pattern.build rule.pattern with
    | .error cause => .error (.invalidPattern rule.name cause)
    | .ok program => (build rest).map (⟨rule.name, rule.skips, program⟩ :: ·)

/-- How many bytes a pattern matches behind a text that is read backwards. -/
def matchBytes? (p : Pattern.Program) (before text : List Char) : Option Nat :=
  (p.matchLength? before.head? text).map fun n => byteLength (text.take n)

def lex (lexer : Lexer) (source : String) : Except LexError (List Token) :=
  LexRule.lex matchBytes? lexer source.toList

end Lexer

end TokenGrammar
