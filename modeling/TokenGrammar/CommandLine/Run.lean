import TokenGrammar.CommandLine.Command
import TokenGrammar.Diagnostic.Snippet
import TokenGrammar.GrammarFile
import TokenGrammar.Match.Program
import TokenGrammar.TokenFile

/-!
# Running commands

A command reads its grammar, says what is wrong with it, and goes on only if it may. What a run prints
and its exit code are a function of the texts that it can read and of where its output goes: at a terminal,
JSON is spread over lines unless it is to be compact, and in a pipe, colors are off unless they are asked for.
-/
namespace TokenGrammar

/-- Why a text cannot be read. -/
inductive AccessError
  /-- What the system calls the error, and its number. -/
  | system (text : String) (number : Nat)
  | notUnicode
  deriving DecidableEq, Repr

namespace AccessError

def notFound : AccessError := .system "No such file or directory" 2

def notDirectory : AccessError := .system "Not a directory" 20

def isDirectory : AccessError := .system "Is a directory" 21

def message : AccessError → String
  | system text number => s!"{text} (os error {number})"
  | notUnicode => "stream did not contain valid UTF-8"

end AccessError

/-- The texts that a run can read, by path; `-` is the standard input. -/
abbrev Inputs := String → Except AccessError String

inductive InputError
  | unreadable (path : String) (cause : AccessError)
  | stdinTwice
  | missingProgram
  | noLexer
  | tokenFile (path : String) (cause : Json.ReadError)
  | lex (cause : LexError)
  deriving DecidableEq, Repr

def InputError.message : InputError → String
  | unreadable path cause =>
    if path = "-" then s!"failed to read stdin: {cause.message}"
    else s!"failed to read '{path}': {cause.message}"
  | stdinTwice => "grammar and program cannot both be read from stdin"
  | missingProgram => "program is required: use positional argument, -s/--source, or --tokens"
  | noLexer => "grammar declares no `token` rules: add them or pass --tokens"
  | tokenFile path cause => s!"invalid token file '{path}': {cause.message}"
  | lex cause => cause.message

/-- What a run leaves behind. -/
structure Outcome where
  code : Nat
  stdout : String
  stderr : String
  deriving DecidableEq, Repr

namespace Outcome

def printed (text : String) : Outcome := ⟨0, text, ""⟩

def failed (e : InputError) : Outcome := ⟨1, "", s!"error: {e.message}\n"⟩

/-- A run that a limit ended has a code of its own. -/
def ofRuntimeError (e : RuntimeError) : Outcome :=
  let note := match e.furthest? with
    | some f => s!"  note: {f.describe}\n"
    | none => ""
  ⟨if e.isLimit then 2 else 1, "", s!"error: {e.message}\n" ++ note⟩

/-- The run went on behind what it had printed. -/
def behind (o : Outcome) (stdout stderr : String) : Outcome :=
  { o with stdout := stdout ++ o.stdout, stderr := stderr ++ o.stderr }

end Outcome

def Inputs.text (inputs : Inputs) (path : String) : Except InputError String :=
  (inputs path).mapError (.unreadable path)

namespace GrammarFile

def lex (file : GrammarFile) (text : String) : Except InputError (List Token) :=
  match file.lexer with
  | none => .error .noLexer
  | some lexer => (lexer.lex text).mapError .lex

/-- The diagnostics as they are told to the user. -/
def report (file : GrammarFile) (source path : String) (styled : Bool) : String :=
  if file.diagnostics.isEmpty then ""
  else Diagnostic.listing source (some path) styled file.diagnostics ++ "\n"

end GrammarFile

namespace Command

/-- The path is the standard input, and the grammar takes it already. -/
abbrev Shares (c : Command) (path : String) : Prop := path = "-" ∧ c.grammar = "-"

/-- The tokens of the program, lexed by the grammar's lexer or read from a token file. -/
def tokensOf (c : Command) (inputs : Inputs) (file : GrammarFile) :
    Option ProgramSource → Except InputError (List Token)
  | none => .error .missingProgram
  | some (.text text) => file.lex text
  | some (.file path) => do
    if c.Shares path then .error .stdinTwice
    else file.lex (← inputs.text path)
  | some (.tokenFile path) => do
    if c.Shares path then .error .stdinTwice
    else (TokenFile.parse (← inputs.text path)).mapError (.tokenFile path)

/-- Loads the grammar and goes on with it if it is valid. -/
def withGrammar (c : Command) (inputs : Inputs) (strict styled : Bool)
    (go : GrammarFile → Outcome) : Outcome :=
  match inputs.text c.grammar with
  | .error e => .failed e
  | .ok source =>
    let file := GrammarFile.parse source
    let report := file.report source c.grammar styled
    if file.isValid strict then (go file).behind "" report else ⟨1, "", report⟩

/-- Loads the grammar and the program and goes on with both. -/
def withProgram (c : Command) (inputs : Inputs) (source : Option ProgramSource)
    (strict styled : Bool) (go : GrammarFile → List Token → Outcome) : Outcome :=
  c.withGrammar inputs strict styled fun file =>
    match c.tokensOf inputs file source with
    | .error e => .failed e
    | .ok tokens => go file tokens

def runTokens (options : TokensOptions) (onTerminal : Bool) (palette : Palette) (tokens : List Token) :
    Outcome :=
  if options.json then
    .printed ((tokensJson tokens).renderIn (.chosen options.compact onTerminal) ++ "\n")
  else .printed (Token.listing palette tokens)

def runParse (options : ParseOptions) (onTerminal : Bool) (file : GrammarFile) (tokens : List Token) :
    Outcome :=
  let machine : Machine (Option Failure) :=
    ⟨file.grammar, options.run.limits, Observer.ofFailures.onlyIf options.run.furthest⟩
  match (machine.parse tokens none).outcome with
  | .error e => .ofRuntimeError e
  | .ok program => .printed (program.json.renderIn (.chosen options.compact onTerminal) ++ "\n")

def runTrace (options : TraceOptions) (palette : Palette) (file : GrammarFile)
    (tokens : List Token) : Outcome :=
  let machine : Machine (Option Failure × Trace) :=
    ⟨file.grammar, options.run.limits, (Observer.ofFailures.onlyIf options.run.furthest).pair
      (.ofTrace options.verbosity palette)⟩
  let run := machine.parse tokens (none, .empty)
  let trace := String.join (run.log.2.lines.map (· ++ "\n"))
  let rest : Outcome := match run.outcome with
    | .error e => .ofRuntimeError e
    | .ok program =>
      if options.noResult then .printed ""
      else .printed (s!"{palette.dim}---{palette.reset}\n" ++
        String.join (program.outline.map (· ++ "\n")))
  rest.behind trace ""

/-- Runs a command. The flags tell whether what it prints and what it complains of go to a terminal. Colors are
only chosen by themselves if both do. -/
def run (c : Command) (inputs : Inputs) (onTerminal : Bool) (errorsOnTerminal : Bool := onTerminal) :
    Outcome :=
  let styled := c.color.isOn (onTerminal && errorsOnTerminal)
  let palette := Palette.ofEnabled styled
  match c.action with
  | .check strict => c.withGrammar inputs strict styled fun _ => .printed ""
  | .tokens options =>
    c.withProgram inputs options.source false styled fun _ tokens =>
      runTokens options onTerminal palette tokens
  | .parse options =>
    c.withProgram inputs options.source options.strict styled (runParse options onTerminal)
  | .trace options =>
    c.withProgram inputs options.source false styled (runTrace options palette)

/-- The paths that a command may read. -/
def paths (c : Command) : List String :=
  let source := match c.action with
    | .check _ => none
    | .tokens o => o.source
    | .parse o => o.source
    | .trace o => o.source
  c.grammar :: (source.bind (·.path?)).toList

end Command

end TokenGrammar
