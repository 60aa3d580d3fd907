import TokenGrammar.Pattern.Parser.Set
import TokenGrammar.Text.Property

/-!
# Reading patterns

A pattern is read part by part, with the groups that are open on a stack. The loop spends one unit of
fuel on each part, and a part is never empty, so the length of the text is fuel enough.
-/
namespace TokenGrammar.Pattern.Parser

def flag? : Char → Option Flag
  | 'i' => some .ignoreCase
  | 'm' => some .multiLine
  | 's' => some .dotAll
  | 'U' => some .swapGreed
  | 'u' => some .unicode
  | 'R' => some .crlf
  | 'x' => some .ignoreSpace
  | _ => none

/--
Flags up to `)` or `:`; the latter opens a group. No flag and no `-` may be repeated, and a `-` needs a
flag behind it.
-/
def flags (changes : FlagChanges) (negated dangling : Bool) :
    List Char → Option (FlagChanges × Bool × List Char)
  | [] => none
  | ':' :: cs => if dangling then none else some (changes, true, cs)
  | ')' :: cs => if dangling then none else some (changes, false, cs)
  | '-' :: cs => if negated then none else flags changes true true cs
  | c :: cs => do
    let flag ← flag? c
    if changes.any (·.1 = flag) then none
    else flags (changes ++ [(flag, !negated)]) negated false cs

def isNameChar (first : Bool) (c : Char) : Bool :=
  c = '_' || CharProperty.alphabetic.holds c ||
  !first && (c = '.' || c = '[' || c = ']' || [Category.nd, .nl, .no].contains (Category.of c))

/-- The name of a group, up to `>`. -/
def groupName : List Char → Option (List Char × List Char)
  | [] => none
  | '>' :: _ => none
  | c :: cs =>
    let name := c :: cs.takeWhile (· ≠ '>')
    match cs.dropWhile (· ≠ '>') with
    | [] => none
    | _ :: rest =>
      if isNameChar true c && name.tail.all (isNameChar false) then some (name, rest) else none

/-- What an opening parenthesis starts. -/
inductive Opening
  | group (name : Option (List Char)) (changes : FlagChanges)
  | flags (changes : FlagChanges)

def opening (x : Bool) (text : List Char) : Option (Opening × List Char) :=
  let named (text : List Char) : Option (Opening × List Char) :=
    (groupName text).map fun (name, rest) => (.group (some name) [], rest)
  match trim x text with
  | '?' :: '=' :: _ | '?' :: '!' :: _ | '?' :: '<' :: '=' :: _ | '?' :: '<' :: '!' :: _ => none
  | '?' :: 'P' :: '<' :: cs => named cs
  | '?' :: '<' :: cs => named cs
  | '?' :: cs => do
    let (changes, isGroup, rest) ← flags [] false false cs
    if isGroup then some (.group none changes, rest)
    else if changes.isEmpty then none
    else some (.flags changes, rest)
  | text => some (.group none [], text)

/-- A `?` directly behind a repetition makes it lazy. -/
def lazyMark : List Char → Bool × List Char
  | '?' :: cs => (false, cs)
  | text => (true, text)

/-- Decimal digits, with blanks around them. -/
def digits (x : Bool) : Nat → List Char → List Char × List Char
  | 0, text => ([], text)
  | fuel + 1, text =>
    match text with
    | c :: cs =>
      if c.isDigit then
        let (more, rest) := digits x fuel (trim x cs)
        (c :: more, rest)
      else ([], text)
    | [] => ([], [])

def maxCount : Nat := 4294967295

/-- A count; none is read if there is no digit, and a count that is too large is a fault. -/
def decimal (x : Bool) (text : List Char) : Option (Option Nat × List Char) :=
  let (ds, rest) := digits x text.length (dropBlanks text)
  let rest := dropBlanks rest
  let n := ds.foldl (fun n c => n * 10 + (c.toNat - '0'.toNat)) 0
  if ds.isEmpty then some (none, rest)
  else if n ≤ maxCount then some (some n, trim x rest)
  else none

/-- The bounds of a counted repetition behind its opening brace, and whether it is greedy. -/
def counts (x : Bool) (text : List Char) : Option ((Nat × Option Nat × Bool) × List Char) := do
  let close (least : Nat) (most : Option Nat) (text : List Char) :
      Option ((Nat × Option Nat × Bool) × List Char) :=
    match text with
    | '\x7d' :: cs =>
      let (greedy, rest) := lazyMark (trim x cs)
      if most.all (least ≤ ·) then some ((least, most, greedy), rest) else none
    | _ => none
  let (least, rest) ← decimal x (trim x text)
  let least ← least
  match rest with
  | ',' :: cs =>
    match trim x cs with
    | '\x7d' :: cs => close least none ('\x7d' :: cs)
    | cs => do
      let (most, rest) ← decimal x cs
      let most ← most
      close least (some most) rest
  | rest => close least (some least) rest

/-- An open group: what stood before it, the last one first, and the flags that it sets. -/
structure GroupOpen where
  branches : List Expr
  parts : List Expr
  changes : FlagChanges
  /-- The flag `x` outside of the group. -/
  ignoreSpace : Bool

/-- The finished content of a group or pattern. -/
def content (branches parts : List Expr) : Expr :=
  .ofBranches ((Expr.ofParts parts.reverse :: branches).reverse)

/-- Puts a repetition around the last part. Flags cannot be repeated. -/
def repeatLast (greedy : Bool) (least : Nat) (most : Option Nat) : List Expr → Option (List Expr)
  | [] => none
  | .empty :: _ => none
  | .flags _ :: _ => none
  | last :: parts => some (.repeated greedy least most last :: parts)

def Escaped.expr : Escaped → Expr
  | .literal l => .literal l
  | .shorthand kind negated => .shorthand kind negated
  | .named name negated => .named name negated
  | .anchor kind => .anchor kind

/-- Reads a pattern part by part; `parts` and `branches` hold the last one first. -/
def loop : Nat → Bool → List (List Char) → List GroupOpen → List Expr → List Expr → List Char →
    Option Expr
  | 0, _, _, _, _, _, _ => none
  | fuel + 1, x, names, stack, branches, parts, text =>
    let repetition (least : Nat) (most : Option Nat) (cs : List Char) : Option Expr := do
      let (greedy, rest) := lazyMark cs
      let parts ← repeatLast greedy least most parts
      loop fuel x names stack branches parts rest
    match trim x text with
    | [] => if stack.isEmpty then some (content branches parts) else none
    | '(' :: cs => do
      match ← opening x cs with
      | (.flags changes, rest) =>
        let x := (changes.lookup .ignoreSpace).getD x
        loop fuel x names stack branches (.flags changes :: parts) rest
      | (.group name changes, rest) =>
        if name.any names.contains then none
        else
          let inner := (changes.lookup .ignoreSpace).getD x
          loop fuel inner (name.toList ++ names) (⟨branches, parts, changes, x⟩ :: stack) [] [] rest
    | ')' :: cs =>
      match stack with
      | [] => none
      | group :: stack =>
        let expr := .group group.changes (content branches parts)
        loop fuel group.ignoreSpace names stack group.branches (expr :: group.parts) cs
    | '|' :: cs => loop fuel x names stack (.ofParts parts.reverse :: branches) [] cs
    | '[' :: cs => do
      let (expr, rest) ← set x cs
      loop fuel x names stack branches (expr :: parts) rest
    | '?' :: cs => repetition 0 (some 1) cs
    | '*' :: cs => repetition 0 none cs
    | '+' :: cs => repetition 1 none cs
    | '\x7b' :: cs => do
      let ((least, most, greedy), rest) ← counts x cs
      let parts ← repeatLast greedy least most parts
      loop fuel x names stack branches parts rest
    | '\\' :: cs => do
      let (escaped, rest) ← escape x cs
      loop fuel x names stack branches (escaped.expr :: parts) rest
    | '.' :: cs => loop fuel x names stack branches (.dot :: parts) cs
    | '^' :: cs => loop fuel x names stack branches (.anchor .lineStart :: parts) cs
    | '$' :: cs => loop fuel x names stack branches (.anchor .lineEnd :: parts) cs
    | c :: cs => loop fuel x names stack branches (.literal ⟨c, false⟩ :: parts) cs

def maxHeight : Nat := 250

/-- The structure of a whole pattern, if it is well formed and not nested too deeply. -/
def parse (text : List Char) : Option Expr := do
  let expr ← loop (text.length + 1) false [] [] [] [] text
  if expr.height ≤ maxHeight then some expr else none

end TokenGrammar.Pattern.Parser
