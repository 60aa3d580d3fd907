import TokenGrammar.Grammar
import TokenGrammar.Lexer
import TokenGrammar.Text.Blank

/-!
# Grammar files

One statement a line: `token` and `skip` declare the rules of the program's lexer, `ignore`, `define`
and `rule` compile a line into a namespace. Blank lines and comments count for nothing. A line that is
refused leaves a diagnostic and nothing else, so that one reading reports all faults.
-/
namespace TokenGrammar

/-- The lines of a text, each with its line feed if it has one. -/
def splitLines : List Char → List (List Char)
  | [] => []
  | c :: cs =>
    if c = '\n' then [c] :: splitLines cs
    else match splitLines cs with
      | [] => [[c]]
      | line :: rest => (c :: line) :: rest

/-- A line without the line feed and the carriage returns at its end. -/
def lineContent (line : List Char) : List Char :=
  (line.reverse.dropWhile fun c => c = '\n' || c = '\r').reverse

/-- The first word of a text, the blanks behind it, and what follows them. -/
def splitWord (text : List Char) : List Char × List Char × List Char :=
  let word := text.takeWhile (!isBlank ·)
  let behind := text.dropWhile (!isBlank ·)
  (word, behind.takeWhile isBlank, behind.dropWhile isBlank)

/-- What a line of a grammar file asks for, and where the text that it speaks of starts. -/
inductive Statement
  | nothing
  | lexRule (skips : Bool) (place : Place) (text : List Char)
  | recognizer (space : Namespace) (place : Place) (text : List Char)
  | unknown (place : Place) (keyword : List Char)
  deriving DecidableEq, Repr

namespace Statement

/-- Reads a statement that starts with its keyword. -/
def ofText (place : Place) (text : List Char) : Statement :=
  let (keyword, blanks, rest) := splitWord text
  let behind := place.after (keyword ++ blanks)
  match String.ofList keyword with
  | "token" => .lexRule false behind rest
  | "skip" => .lexRule true behind rest
  | word =>
    match Namespace.ofKeyword? word with
    | some space => .recognizer space behind rest
    | none => .unknown place keyword

/-- Reads the content of a line that starts at a place. -/
def ofLine (place : Place) (content : List Char) : Statement :=
  let text := dropBlanks content
  if text.isEmpty || text.take 2 = ['/', '/'] then .nothing
  else ofText (place.after (content.takeWhile isBlank)) text

end Statement

/-- The statements of lines of which the first starts at a place. -/
def statementsOf (place : Place) : List (List Char) → List Statement
  | [] => []
  | line :: rest =>
    Statement.ofLine place (lineContent line) :: statementsOf (place.after line) rest

/-- Name and pattern of a lexer rule, or what is wrong with its text. -/
def LexRule.parse (text : List Char) : Except String (String × String) :=
  let (name, _, rest) := splitWord text
  if name.isEmpty then .error "missing token name"
  else match dropBlanksEnd rest with
    | '/' :: body =>
      match body.getLast? with
      | some '/' =>
        if body.dropLast.isEmpty then .error s!"empty pattern for `{String.ofList name}`"
        else .ok (String.ofList name, String.ofList body.dropLast)
      | _ => .error s!"expected `/pattern/` after `{String.ofList name}`"
    | _ => .error s!"expected `/pattern/` after `{String.ofList name}`"

/-- What the statements so far have declared, and the errors of those that were refused. -/
structure Declarations where
  grammar : Grammar
  rules : List (LexRule String)
  errors : List Diagnostic

namespace Declarations

def empty : Declarations := ⟨.empty, [], []⟩

def refuse (d : Declarations) (error : Diagnostic) : Declarations :=
  { d with errors := d.errors ++ [error] }

/-- A pattern is built when its rule is declared, so that a bad one is refused with its line. -/
def lexRule (d : Declarations) (skips : Bool) (span : Span) (text : List Char) : Declarations :=
  match LexRule.parse text with
  | .error detail => d.refuse (.report .invalidTokenPattern span (some detail) [] [])
  | .ok (name, pattern) =>
    match Pattern.build pattern with
    | .error cause =>
      d.refuse (.report .invalidTokenPattern span (some s!"`{name}`: {cause.message}") [] [])
    | .ok _ => { d with rules := LexRule.declare d.rules ⟨name, skips, pattern⟩ }

def statement (d : Declarations) : Statement → Declarations
  | .nothing => d
  | .lexRule skips place text => d.lexRule skips (place.covering text).span text
  | .recognizer space place text =>
    match d.grammar.attempt ⟨space, place, text⟩ with
    | (.error e, grammar) => { d with grammar }.refuse e.diagnostic
    | (.ok _, grammar) => { d with grammar }
  | .unknown place keyword =>
    d.refuse (.report .unknownStatement (place.covering keyword).span
      (some s!"`{String.ofList keyword}`") [] [])

/-- A line that does not compile leaves the grammar as it was. -/
theorem statement_recognizer (d : Declarations) (space : Namespace) (place : Place) (text : List Char) :
    d.statement (.recognizer space place text) =
      match d.grammar.define space place text with
      | .error e => d.refuse e.diagnostic
      | .ok (_, grammar) => { d with grammar } := by
  simp only [statement, Grammar.attempt]
  cases d.grammar.define space place text with
  | error e => rfl
  | ok declared => rfl

end Declarations

structure GrammarFile where
  grammar : Grammar
  /-- Absent when the file declares no rules for it. -/
  lexer : Option Lexer
  /-- Errors of statements, then warnings of the grammar. -/
  diagnostics : List Diagnostic

namespace GrammarFile

def ofDeclarations (d : Declarations) : GrammarFile :=
  if d.rules.isEmpty then ⟨d.grammar, none, d.errors ++ d.grammar.warnings⟩
  else match Lexer.build d.rules with
    | .ok lexer => ⟨d.grammar, some lexer, d.errors ++ d.grammar.warnings⟩
    | .error e =>
      let d := d.refuse (.report .invalidTokenPattern ⟨0, 0⟩ (some e.message) [] [])
      ⟨d.grammar, none, d.errors ++ d.grammar.warnings⟩

def parse (source : String) : GrammarFile :=
  ofDeclarations
    ((statementsOf .start (splitLines source.toList)).foldl Declarations.statement .empty)

/-- Errors make a file invalid; if `strict`, warnings do too. -/
def isValid (file : GrammarFile) (strict : Bool) : Bool :=
  !file.diagnostics.any (·.isError) && !(strict && file.diagnostics.any (·.isWarning))

end GrammarFile

end TokenGrammar
