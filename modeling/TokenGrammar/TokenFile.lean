import TokenGrammar.Json.Basic
import TokenGrammar.Json.Reader

/-!
# Token files

Tokens of a program, made by another lexer, as a JSON array. A token is an object, whose other fields
are ignored, or an array of its fields in order; the offset may be left out and is then zero. Lines
and columns are numbers of 32 bits, offsets of 64.
-/
namespace TokenGrammar.TokenFile

open Json (Reader ReadError Cursor Fault)
open Json.Reader

/-- Whether another item follows; the comma before it is read. -/
def hasItem (first : Bool) : Reader Bool := do
  match ← nextBehindSpaces? with
  | none => blame (.endOfText .list)
  | some ']' => return false
  | some c =>
    if first then return true
    else if c ≠ ',' then blame .expectedCommaOrBracket
    else do
      skip
      match ← nextBehindSpaces? with
      | none => blame (.endOfText .value)
      | some ']' => blame .trailingComma
      | some _ => return true

/-- Whether another field follows; everything before its name is read. -/
def hasField (first : Bool) : Reader Bool := do
  match ← nextBehindSpaces? with
  | none => blame (.endOfText .object)
  | some '\x7d' => return false
  | some c =>
    if first then
      if c = '"' then return true else blame .keyNotText
    else if c ≠ ',' then blame .expectedCommaOrBrace
    else do
      skip
      match ← nextBehindSpaces? with
      | none => blame (.endOfText .value)
      | some '"' => return true
      | some '\x7d' => blame .trailingComma
      | some _ => blame .keyNotText

def lineNumber (rounds : Nat) : Reader Nat := natural rounds (Nat.pow 2 32) "u32"

def byteOffset (rounds : Nat) : Reader Nat := natural rounds (Nat.pow 2 64) "usize"

/-- The fields that were read so far. -/
structure Fields where
  kind : Option String
  lexeme : Option String
  line : Option Nat
  column : Option Nat
  offset : Option Nat

/-- The token of all fields, or the first field that is missing. -/
def Fields.token (f : Fields) : Except String Token :=
  match f with
  | ⟨none, _, _, _, _⟩ => .error "kind"
  | ⟨_, none, _, _, _⟩ => .error "lexeme"
  | ⟨_, _, none, _, _⟩ => .error "line"
  | ⟨_, _, _, none, _⟩ => .error "column"
  | ⟨some kind, some lexeme, some line, some column, offset⟩ =>
    .ok ⟨kind, lexeme, ⟨line, column⟩, offset.getD 0⟩

/-- Told behind the bracket that ends the object, if that comes next. -/
def failBehind {α : Type} (fault : Fault) : Reader α := do
  if (← nextBehindSpaces?) = some '\x7d' then skip
  fail fault

/-- Reads a value into a field that must not have been there before. -/
def once {α : Type} (name : String) (known : Option α) (value : Reader α) : Reader (Option α) :=
  match known with
  | some _ => failBehind (.duplicateField name)
  | none => do
    colon
    return some (← value)

/-- Fields of an object behind those that were read, up to its closing brace. -/
def objectFields (rounds : Nat) (first : Bool) (f : Fields) : Nat → Reader Fields
  | 0 => blame (.endOfText .object)
  | n + 1 => do
    if !(← hasField first) then return f
    skip
    let f ← match ← textBody true [] rounds with
      | "kind" => do pure { f with kind := ← once "kind" f.kind (text rounds) }
      | "lexeme" => do pure { f with lexeme := ← once "lexeme" f.lexeme (text rounds) }
      | "line" => do pure { f with line := ← once "line" f.line (lineNumber rounds) }
      | "column" => do pure { f with column := ← once "column" f.column (lineNumber rounds) }
      | "offset" => do pure { f with offset := ← once "offset" f.offset (byteOffset rounds) }
      | _ => do
        colon
        skipValue rounds
        pure f
    objectFields rounds false f n

/-- The item of an array with that index, which must be there. -/
def arrayItem {α : Type} (index : Nat) (value : Reader α) : Reader α := do
  if ← hasItem (index = 0) then value
  else do
    skip
    fail (.wrongLength index "struct Token with 5 elements")

def arrayToken (rounds : Nat) : Reader Token := do
  let kind ← arrayItem 0 (text rounds)
  let lexeme ← arrayItem 1 (text rounds)
  let line ← arrayItem 2 (lineNumber rounds)
  let column ← arrayItem 3 (lineNumber rounds)
  let offset ← if ← hasItem false then byteOffset rounds else pure 0
  match ← nextBehindSpaces? with
  | none => blame (.endOfText .list)
  | some ']' => skip
  | some ',' => do
    skip
    if (← nextBehindSpaces?) = some ']' then blame .trailingComma
    else blame .trailingCharacters
  | some _ => blame .trailingCharacters
  return ⟨kind, lexeme, ⟨line, column⟩, offset⟩

def token (rounds : Nat) : Reader Token := do
  match ← nextBehindSpaces? with
  | none => blame (.endOfText .value)
  | some '[' => do
    skip
    arrayToken rounds
  | some '\x7b' => do
    skip
    let f ← objectFields rounds true ⟨none, none, none, none, none⟩ rounds
    skip
    match f.token with
    | .ok t => return t
    | .error name => fail (.missingField name)
  | some _ => refuse rounds "struct Token"

/-- Tokens behind those that were read (the last one first), up to the closing bracket. -/
def items (rounds : Nat) (reversed : List Token) : Nat → Reader (List Token)
  | 0 => blame (.endOfText .list)
  | n + 1 => do
    if ← hasItem reversed.isEmpty then items rounds ((← token rounds) :: reversed) n
    else return reversed.reverse

def tokens (rounds : Nat) : Reader (List Token) := do
  match ← nextBehindSpaces? with
  | none => blame (.endOfText .value)
  | some '[' => do
    skip
    let ts ← items rounds [] rounds
    skip
    match ← nextBehindSpaces? with
    | none => return ts
    | some _ => blame .trailingCharacters
  | some _ => refuse rounds "a sequence"

def parse (source : String) : Except ReadError (List Token) :=
  (tokens (source.length + 1)).run' ⟨1, 0, source.toList⟩

end TokenGrammar.TokenFile
