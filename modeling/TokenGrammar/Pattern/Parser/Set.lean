import TokenGrammar.Pattern.Parser.Escape

/-!
# Bracketed sets in patterns

Members stand one after the other; operators between members take all that is left of them as their
left side. Sets nest. The loop spends one unit of fuel on each member, bracket or operator, so the
length of the text is fuel enough.
-/
namespace TokenGrammar.Pattern.Parser

def posixKind? (name : List Char) : Option Posix :=
  [("alnum", Posix.alnum), ("alpha", .alpha), ("ascii", .ascii), ("blank", .blank),
    ("cntrl", .cntrl), ("digit", .digit), ("graph", .graph), ("lower", .lower),
    ("print", .print), ("punct", .punct), ("space", .space), ("upper", .upper),
    ("word", .word), ("xdigit", .xdigit)].lookup (String.ofList name)

/-- A named ASCII set such as `[:alpha:]`; whatever else a bracket opens is not read. -/
def posix (text : List Char) : Option (SetExpr × List Char) := do
  let text ← expect ['[', ':'] text
  let (negated, text) := match text with
    | '^' :: cs => (true, cs)
    | _ => (false, text)
  let name := text.takeWhile (· ≠ ':')
  let rest ← expect [':', ']'] (text.dropWhile (· ≠ ':'))
  let kind ← posixKind? name
  some (.posix kind negated, rest)

/-- One member of a set, or one end of a range. -/
def setItem (x : Bool) : List Char → Option (Escaped × List Char)
  | [] => none
  | '\\' :: cs => escape x cs
  | c :: cs => some (.literal ⟨c, false⟩, cs)

def Escaped.setExpr? : Escaped → Option SetExpr
  | .literal l => some (.literal l)
  | .shorthand kind negated => some (.shorthand kind negated)
  | .named name negated => some (.named name negated)
  | .anchor _ => none

def Escaped.literal? : Escaped → Option Literal
  | .literal l => some l
  | _ => none

/-- The next character behind blanks; with `x` the sign of a comment is passed over as well. -/
def peek (x : Bool) (text : List Char) : Option Char :=
  if x then go false text <|> text.head? else text.head?
where
  go (inComment : Bool) : List Char → Option Char
    | [] => none
    | c :: cs =>
      if isBlank c then go inComment cs
      else if !inComment && c = '#' then go true cs
      else some c

/-- A member or a range. A `-` before a closing bracket or another `-` makes no range. -/
def setRange (x : Bool) (text : List Char) : Option (SetExpr × List Char) := do
  let (first, rest) ← setItem x text
  match trim x rest with
  | [] => none
  | '-' :: cs =>
    if peek x cs = some ']' ∨ peek x cs = some '-' then
      let item ← first.setExpr?
      some (item, '-' :: cs)
    else
      let (last, rest) ← setItem x (trim x cs)
      let first ← first.literal?
      let last ← last.literal?
      if first.char ≤ last.char then some (.range first last, rest) else none
  | rest => do
    let item ← first.setExpr?
    some (item, rest)

/-- Leading `-`, each a member. -/
def leadingDashes (x : Bool) : Nat → List Char → Option (List SetExpr × List Char)
  | 0, _ => none
  | fuel + 1, text =>
    match trim x text with
    | [] => none
    | '-' :: cs =>
      (leadingDashes x fuel cs).map fun (items, rest) => (.literal ⟨'-', false⟩ :: items, rest)
    | text => some ([], text)

/-- What follows an opening bracket: whether the set is negated, and the members that stand first. -/
def openSet (x : Bool) (text : List Char) : Option (Bool × List SetExpr × List Char) := do
  let text := trim x text
  let (negated, text) := match text with
    | '^' :: cs => (true, cs)
    | _ => (false, text)
  let (dashes, text) ← leadingDashes x (text.length + 1) text
  match dashes, text with
  | [], ']' :: cs =>
    match trim x cs with
    | [] => none
    | rest => some (negated, [.literal ⟨']', false⟩], rest)
  | _, _ => some (negated, dashes, text)

/-- What is open while a set is read. -/
inductive SetOpen
  /-- A bracket, with the members before it, the last one first. -/
  | bracket (negated : Bool) (before : List SetExpr)
  /-- An operator and its left side. -/
  | op (kind : SetOp) (left : SetExpr)

/-- Operators are of one rank and group to the left. -/
def closeOp (right : SetExpr) : List SetOpen → SetExpr × List SetOpen
  | .op kind left :: stack => (.op kind left right, stack)
  | stack => (right, stack)

/-- Reads a set up to the bracket that closes the outermost; `items` holds the last one first. -/
def setLoop (x : Bool) : Nat → List SetOpen → List SetExpr → List Char → Option (Expr × List Char)
  | 0, _, _, _ => none
  | fuel + 1, stack, items, text =>
    let operator (kind : SetOp) (rest : List Char) : Option (Expr × List Char) :=
      let (left, stack) := closeOp (.ofItems items.reverse) stack
      setLoop x fuel (.op kind left :: stack) [] rest
    match trim x text with
    | [] => none
    | '[' :: cs =>
      match posix ('[' :: cs) with
      | some (item, rest) => setLoop x fuel stack (item :: items) rest
      | none => do
        let (negated, first, rest) ← openSet x cs
        setLoop x fuel (.bracket negated items :: stack) first.reverse rest
    | ']' :: cs =>
      let (content, stack) := closeOp (.ofItems items.reverse) stack
      match stack with
      | [.bracket negated _] => some (.bracketed negated content, cs)
      | .bracket negated before :: stack =>
        setLoop x fuel stack (.bracketed negated content :: before) cs
      | _ => none
    | '&' :: '&' :: cs => operator .intersection cs
    | '-' :: '-' :: cs => operator .difference cs
    | '~' :: '~' :: cs => operator .symmetricDifference cs
    | text => do
      let (item, rest) ← setRange x text
      setLoop x fuel stack (item :: items) rest

/-- A set behind its opening bracket. -/
def set (x : Bool) (text : List Char) : Option (Expr × List Char) := do
  let (negated, first, rest) ← openSet x text
  setLoop x (text.length + 1) [.bracket negated []] first.reverse rest

end TokenGrammar.Pattern.Parser
