import TokenGrammar.Json.Layout
import TokenGrammar.Match.Tree
import TokenGrammar.Text.Hex

/-!
# Written JSON

Fields are written in their given order, and text with only those characters escaped that must be. Numbers are
whole and not negative. Apart from the blanks of its layout, a value is written without any.
-/
namespace TokenGrammar

inductive Json
  | number (n : Nat)
  | text (s : String)
  | array (items : List Json)
  | object (fields : List (String × Json))

namespace Json

def escape (c : Char) : List Char :=
  if c = '"' then ['\\', '"']
  else if c = '\\' then ['\\', '\\']
  else if c = '\x08' then ['\\', 'b']
  else if c = '\t' then ['\\', 't']
  else if c = '\n' then ['\\', 'n']
  else if c = '\x0c' then ['\\', 'f']
  else if c = '\r' then ['\\', 'r']
  else if c.toNat < 0x20 then ['\\', 'u', '0', '0', hexDigit (c.toNat / 16), hexDigit c.toNat]
  else [c]

/-- A text between quotes, in front of what follows it. -/
def writeText (s : String) (rest : List Char) : List Char :=
  '"' :: (s.toList.flatMap escape ++ '"' :: rest)

mutual

/-- A value that begins at the depth, in front of what follows it. -/
def writeIn (l : Layout) (depth : Nat) (rest : List Char) : Json → List Char
  | .number n => (Nat.repr n).toList ++ rest
  | .text s => writeText s rest
  | .array [] => '[' :: ']' :: rest
  | .array (item :: items) =>
    '[' :: (l.lineBreak (depth + 1) ++ item.writeIn l (depth + 1)
      (writeItemsIn l (depth + 1) (l.lineBreak depth ++ ']' :: rest) items))
  | .object [] => '\x7b' :: '\x7d' :: rest
  | .object ((name, value) :: fields) =>
    '\x7b' :: (l.lineBreak (depth + 1) ++ writeText name (':' :: (l.gap ++ value.writeIn l (depth + 1)
      (writeFieldsIn l (depth + 1) (l.lineBreak depth ++ '\x7d' :: rest) fields))))

/-- Further items, each behind a comma. -/
def writeItemsIn (l : Layout) (depth : Nat) (rest : List Char) : List Json → List Char
  | [] => rest
  | item :: items => ',' :: (l.lineBreak depth ++ item.writeIn l depth (writeItemsIn l depth rest items))

/-- Further fields, each behind a comma. -/
def writeFieldsIn (l : Layout) (depth : Nat) (rest : List Char) : List (String × Json) → List Char
  | [] => rest
  | (name, value) :: fields =>
    ',' :: (l.lineBreak depth ++ writeText name (':' :: (l.gap ++ value.writeIn l depth
      (writeFieldsIn l depth rest fields))))

end

def renderIn (l : Layout) (value : Json) : String := String.ofList (value.writeIn l 0 [])

def render (value : Json) : String := value.renderIn .compact

example : (array [.number 1, .object [("a", .array [])]]).renderIn .pretty =
    "[\n  1,\n  \x7b\n    \"a\": []\n  \x7d\n]" := by cbv

end Json

def Token.json (t : Token) : Json :=
  .object [("kind", .text t.kind), ("lexeme", .text t.lexeme), ("line", .number t.position.line),
    ("column", .number t.position.column), ("offset", .number t.offset)]

mutual

/-- A group has no field for its rule. -/
def Node.json : Node → Json
  | .token t => t.json
  | .tree label width children =>
    .object ((label.map fun l => ("rule", Json.text l)).toList ++
      [("width", .number width), ("children", .array (jsonAll children))])

def jsonAll : List Node → List Json
  | [] => []
  | node :: rest => node.json :: jsonAll rest

end

def Program.json (p : Program) : Json :=
  .object [("kind", .text "program"), ("expressions", .array (p.expressions.map (·.node.json)))]

def tokensJson (tokens : List Token) : Json := .array (tokens.map Token.json)

end TokenGrammar
