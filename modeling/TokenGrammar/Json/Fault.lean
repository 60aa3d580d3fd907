import TokenGrammar.Json.Binary64
import TokenGrammar.Text.Quoted

/-!
# What can be wrong with a JSON text

A text ends too early, breaks the rules of JSON, or does not have the shape that was asked for.
-/
namespace TokenGrammar.Json

/-- A value in place of another one. -/
inductive Found
  | null
  | boolean (b : Bool)
  | integer (n : Int)
  | float (negative : Bool) (magnitude : Binary64)
  | text (s : String)
  | sequence
  | map
  deriving DecidableEq, Repr

def Found.describe : Found → String
  | null => "null"
  | boolean b => s!"boolean `{b}`"
  | integer n => s!"integer `{n}`"
  | float negative magnitude =>
    let sign := if negative then "-" else ""
    s!"floating point `{sign}{magnitude.render}`"
  | text s => s!"string {quoted s}"
  | sequence => "sequence"
  | map => "map"

/-- What a text can end in the middle of. -/
inductive Unfinished
  | value
  | list
  | object
  | text
  deriving DecidableEq, Repr

def Unfinished.describe : Unfinished → String
  | value => "a value"
  | list => "a list"
  | object => "an object"
  | text => "a string"

inductive Fault
  | endOfText (within : Unfinished)
  | expectedColon
  | expectedCommaOrBracket
  | expectedCommaOrBrace
  | expectedWord
  | expectedValue
  | invalidEscape
  | invalidNumber
  | numberOutOfRange
  | controlCharacter
  | keyNotText
  | loneSurrogate
  | unfinishedPair
  | trailingComma
  | trailingCharacters
  | missingField (name : String)
  | duplicateField (name : String)
  | wrongType (found : Found) (expected : String)
  | wrongValue (n : Int) (expected : String)
  | wrongLength (n : Nat) (expected : String)
  deriving DecidableEq, Repr

inductive Fault.Category
  | endOfText
  | grammar
  | shape
  deriving DecidableEq, Repr

namespace Fault

def category : Fault → Category
  | endOfText _ => .endOfText
  | missingField _ | duplicateField _ | wrongType .. | wrongValue .. | wrongLength .. => .shape
  | _ => .grammar

def message : Fault → String
  | endOfText within => s!"EOF while parsing {within.describe}"
  | expectedColon => "expected `:`"
  | expectedCommaOrBracket => "expected `,` or `]`"
  | expectedCommaOrBrace => "expected `,` or `\x7d`"
  | expectedWord => "expected ident"
  | expectedValue => "expected value"
  | invalidEscape => "invalid escape"
  | invalidNumber => "invalid number"
  | numberOutOfRange => "number out of range"
  | controlCharacter => "control character (\\u0000-\\u001F) found while parsing a string"
  | keyNotText => "key must be a string"
  | loneSurrogate => "lone leading surrogate in hex escape"
  | unfinishedPair => "unexpected end of hex escape"
  | trailingComma => "trailing comma"
  | trailingCharacters => "trailing characters"
  | missingField name => s!"missing field `{name}`"
  | duplicateField name => s!"duplicate field `{name}`"
  | wrongType found expected => s!"invalid type: {found.describe}, expected {expected}"
  | wrongValue n expected => s!"invalid value: integer `{n}`, expected {expected}"
  | wrongLength n expected => s!"invalid length {n}, expected {expected}"

end Fault

/-- A fault and its place; the column counts the bytes of the line up to it. -/
structure ReadError where
  fault : Fault
  line : Nat
  column : Nat
  deriving DecidableEq, Repr

def ReadError.message (e : ReadError) : String :=
  s!"{e.fault.message} at line {e.line} column {e.column}"

end TokenGrammar.Json
