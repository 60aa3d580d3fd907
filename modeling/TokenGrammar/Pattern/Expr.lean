/-!
# Written patterns

The structure of a pattern as it is written. What a part denotes may depend on flags that stand before
it, so they are kept where they stand.
-/
namespace TokenGrammar.Pattern

inductive Flag
  | ignoreCase
  | multiLine
  | dotAll
  | swapGreed
  | unicode
  | crlf
  | ignoreSpace
  deriving DecidableEq, Repr

/-- Flags that are switched on or off, in the order in which they are written. -/
abbrev FlagChanges := List (Flag × Bool)

inductive Shorthand
  | digit
  | space
  | word
  deriving DecidableEq, Repr

inductive Posix
  | alnum | alpha | ascii | blank | cntrl | digit | graph | lower | print | punct | space | upper
  | word | xdigit
  deriving DecidableEq, Repr

inductive SetOp
  | intersection
  | difference
  | symmetricDifference
  deriving DecidableEq, Repr

/-- A condition on the characters around a place. -/
inductive Anchor
  | lineStart
  | lineEnd
  | textStart
  | textEnd
  | wordBoundary
  | notWordBoundary
  | wordStart
  | wordEnd
  | wordStartHalf
  | wordEndHalf
  deriving DecidableEq, Repr

/-- A character, and whether it is written as the value of a byte. -/
structure Literal where
  char : Char
  isByte : Bool
  deriving DecidableEq, Repr

/-- A named set of characters: by one name, or by a property and its value. -/
inductive SetName
  | one (name : List Char)
  | valued (property value : List Char)
  deriving DecidableEq, Repr

/-- What stands between brackets. -/
inductive SetExpr
  | nothing
  | literal (l : Literal)
  | range (first last : Literal)
  | posix (kind : Posix) (negated : Bool)
  | shorthand (kind : Shorthand) (negated : Bool)
  | named (name : SetName) (negated : Bool)
  | bracketed (negated : Bool) (content : SetExpr)
  | union (items : List SetExpr)
  | op (kind : SetOp) (left right : SetExpr)
  deriving Repr

inductive Expr
  | empty
  | flags (changes : FlagChanges)
  | literal (l : Literal)
  | dot
  | anchor (kind : Anchor)
  | shorthand (kind : Shorthand) (negated : Bool)
  | named (name : SetName) (negated : Bool)
  | bracketed (negated : Bool) (content : SetExpr)
  | repeated (greedy : Bool) (least : Nat) (most : Option Nat) (inner : Expr)
  | group (changes : FlagChanges) (inner : Expr)
  | choice (branches : List Expr)
  | sequence (parts : List Expr)
  deriving Repr

mutual

/-- Number of brackets, unions and operators around the innermost item. -/
def SetExpr.height : SetExpr → Nat
  | .bracketed _ content => content.height + 1
  | .union items => heightOfItems items + 1
  | .op _ left right => max left.height right.height + 1
  | _ => 0

def heightOfItems : List SetExpr → Nat
  | [] => 0
  | item :: rest => max item.height (heightOfItems rest)

end

mutual

/-- Number of groups, repetitions, choices and sequences around the innermost part. -/
def Expr.height : Expr → Nat
  | .bracketed _ content => content.height + 1
  | .repeated _ _ _ inner => inner.height + 1
  | .group _ inner => inner.height + 1
  | .choice branches => heightOfParts branches + 1
  | .sequence parts => heightOfParts parts + 1
  | _ => 0

def heightOfParts : List Expr → Nat
  | [] => 0
  | part :: rest => max part.height (heightOfParts rest)

end

def SetExpr.ofItems : List SetExpr → SetExpr
  | [] => .nothing
  | [item] => item
  | items => .union items

def Expr.ofParts : List Expr → Expr
  | [] => .empty
  | [part] => part
  | parts => .sequence parts

def Expr.ofBranches : List Expr → Expr
  | [] => .empty
  | [branch] => branch
  | branches => .choice branches

end TokenGrammar.Pattern
