import TokenGrammar.Notation.Literal
import TokenGrammar.Text.Position
import TokenGrammar.Text.Quoted

/-!
# Tokens of the grammar notation
-/
namespace TokenGrammar.Notation

inductive Kind
  | assignment | terminator
  | groupOpen | groupClose
  | alternator
  | optional | zeroOrMore | oneOrMore
  | literal
  | classRef | subruleRef | definitionRef | ignorationRef
  | name
  | whitespace | lineComment
  | unexpectedFragment
  deriving DecidableEq, Repr

namespace Kind

/-- Trivia separates tokens and is dropped. -/
def isTrivia : Kind → Bool
  | whitespace | lineComment => true
  | _ => false

def isQuantifier : Kind → Bool
  | optional | zeroOrMore | oneOrMore => true
  | _ => false

/-- A reference is written as a sigil and a name. -/
def isReference : Kind → Bool
  | classRef | subruleRef | definitionRef | ignorationRef => true
  | _ => false

/-- How a message speaks of a token of the kind. -/
def describe : Kind → String
  | assignment => "`=`"
  | terminator => "`;`"
  | groupOpen => "`(`"
  | groupClose => "`)`"
  | alternator => "alternator"
  | optional => "`?`"
  | zeroOrMore => "`*`"
  | oneOrMore => "`+`"
  | literal => "literal"
  | classRef => "class reference"
  | subruleRef => "subrule reference"
  | definitionRef => "definition reference"
  | ignorationRef => "ignoration reference"
  | name => "name"
  | whitespace => "whitespace"
  | lineComment => "comment"
  | unexpectedFragment => "unexpected characters"

/-- The kind's own name, as token listings show it. -/
def label : Kind → String
  | assignment => "Assignment"
  | terminator => "Terminator"
  | groupOpen => "GroupOpen"
  | groupClose => "GroupClose"
  | alternator => "Alternator"
  | optional => "Optional"
  | zeroOrMore => "ZeroOrMore"
  | oneOrMore => "OneOrMore"
  | literal => "Literal"
  | classRef => "ClassRef"
  | subruleRef => "SubruleRef"
  | definitionRef => "DefinitionRef"
  | ignorationRef => "IgnorationRef"
  | name => "Name"
  | whitespace => "Whitespace"
  | lineComment => "LineComment"
  | unexpectedFragment => "UnexpectedFragment"

def all : List Kind :=
  [assignment, terminator, groupOpen, groupClose, alternator, optional, zeroOrMore, oneOrMore,
    literal, classRef, subruleRef, definitionRef, ignorationRef, name, whitespace, lineComment,
    unexpectedFragment]

def ofLabel? (label : String) : Option Kind := all.find? (·.label = label)

end Kind

/-- The text is the source text, with sigil and quotes. -/
structure Token where
  kind : Kind
  text : String
  location : Location
  deriving DecidableEq, Repr

namespace Token

/-- The referenced name without its sigil; any other token's text. -/
def name (t : Token) : String :=
  if t.kind.isReference then String.ofList (t.text.toList.drop 1) else t.text

/-- The text that a literal stands for. -/
def literalValue (t : Token) : String := String.ofList (Literal.decode t.text.toList)

def describe (t : Token) : String := t.kind.label ++ " " ++ quoted t.text

end Token

end TokenGrammar.Notation
