import TokenGrammar.Notation.Token

/-!
# Recognizers

The compiled form of a grammar line: ordered alternatives, each a sequence of symbols. References are
kept by name and looked up when they are reached, so that they may be declared later or again. A group
runs under the name of the rule that it stands in, and needs none of its own.
-/
namespace TokenGrammar

/-- How many tokens of its kind a class reference takes. -/
inductive Quantifier
  | one
  | optional
  | zeroOrMore
  | oneOrMore
  deriving DecidableEq, Repr

namespace Quantifier

def least : Quantifier → Nat
  | one | oneOrMore => 1
  | optional | zeroOrMore => 0

/-- No limit is `none`. -/
def most : Quantifier → Option Nat
  | one | optional => some 1
  | zeroOrMore | oneOrMore => none

def suffix : Quantifier → String
  | one => ""
  | optional => "?"
  | zeroOrMore => "*"
  | oneOrMore => "+"

end Quantifier

inductive Symbol
  /-- One token with this lexeme. -/
  | literal (text : String)
  /-- A run of tokens of one kind; `explicit` if written with a dot. -/
  | tokens (kind : String) (quantifier : Quantifier) (explicit : Bool)
  | subrule (name : String)
  | definition (name : String)
  | group (alternatives : List (List Symbol))
  /-- A token without a meaning where it stands; reaching it fails the whole run. -/
  | stray (token : Notation.Token)
  deriving Repr

/-- The empty alternative matches no token. -/
abbrev Alternative := List Symbol

structure Recognizer where
  name : String
  alternatives : List Alternative
  deriving Repr

mutual

/-- A symbol in the grammar notation. -/
def Symbol.render : Symbol → String
  | .literal text => quoted text
  | .tokens kind quantifier explicit =>
    (if explicit then "." else "") ++ kind ++ quantifier.suffix
  | .subrule name => "@" ++ name
  | .definition name => "#" ++ name
  | .group alternatives => "(" ++ " | ".intercalate (renderAlternatives alternatives) ++ ")"
  | .stray token => "!" ++ token.text

def renderAlternatives : List (List Symbol) → List String
  | [] => []
  | symbols :: rest => " ".intercalate (renderSymbols symbols) :: renderAlternatives rest

def renderSymbols : List Symbol → List String
  | [] => []
  | symbol :: rest => symbol.render :: renderSymbols rest

end

namespace Recognizer

/-- The alternatives in the grammar notation, without the name. -/
def body (r : Recognizer) : String := " | ".intercalate (renderAlternatives r.alternatives)

def render (r : Recognizer) : String := r.name ++ " = " ++ r.body ++ ";"

end Recognizer

end TokenGrammar
