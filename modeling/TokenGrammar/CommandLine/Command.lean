import TokenGrammar.Match.Trace

/-!
# Commands

What a user can ask for, once the command line is understood.
-/
namespace TokenGrammar

/-- Where the program comes from. A path of `-` is the standard input. -/
inductive ProgramSource
  | file (path : String)
  | text (text : String)
  | tokenFile (path : String)
  deriving DecidableEq, Repr

/-- The path that the program is read from, if it is not given on the command line. -/
def ProgramSource.path? : ProgramSource → Option String
  | file path | tokenFile path => some path
  | text _ => none

inductive ColorMode
  | auto
  | always
  | never
  deriving DecidableEq, Repr

namespace ColorMode

/-- Colors are only chosen by themselves on a terminal. -/
def isOn (onTerminal : Bool) : ColorMode → Bool
  | auto => onTerminal
  | always => true
  | never => false

end ColorMode

/-- Options of a run over a program. -/
structure RunOptions where
  limits : Limits
  /-- Whether an error comes with the furthest failure. -/
  furthest : Bool
  deriving DecidableEq, Repr

structure TokensOptions where
  source : Option ProgramSource
  json : Bool
  compact : Bool
  deriving DecidableEq, Repr

structure ParseOptions where
  source : Option ProgramSource
  compact : Bool
  run : RunOptions
  strict : Bool
  deriving DecidableEq, Repr

structure TraceOptions where
  source : Option ProgramSource
  verbosity : Verbosity
  /-- Leaves out the program tree behind the trace. -/
  noResult : Bool
  run : RunOptions
  deriving DecidableEq, Repr

inductive Action
  /-- Reports the diagnostics of the grammar; if `strict`, warnings fail too. -/
  | check (strict : Bool)
  | tokens (options : TokensOptions)
  | parse (options : ParseOptions)
  | trace (options : TraceOptions)
  deriving DecidableEq, Repr

/-- An action on a grammar file. -/
structure Command where
  grammar : String
  color : ColorMode
  action : Action
  deriving DecidableEq, Repr

end TokenGrammar
