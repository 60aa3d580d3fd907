import TokenGrammar.CommandLine.Command

/-!
# What a command line gives

Settings and flags as they were given, before they become a command. Each may be given once.
-/
namespace TokenGrammar

/-- Why a command line is not a command. -/
inductive UsageError
  /-- The user asked for help. -/
  | help
  /-- Help in place of an action. -/
  | noAction
  | unknownAction
  | unknownArgument
  /-- A value is missing, empty where it must not be, or none of those to choose from. -/
  | invalidValue
  | invalidNumber
  /-- A value for an option that takes none. -/
  | needlessValue
  | conflict
  | noGrammar
  deriving DecidableEq, Repr

def UsageError.code : UsageError → Nat
  | help => 0
  | _ => 2

inductive Flag
  | strict
  | compact
  | json
  | furthest
  | noResult
  deriving DecidableEq, Repr

/-- An option with a value. -/
inductive Setting
  | text
  | tokens
  | color
  | fuel
  | depth
  deriving DecidableEq, Repr

/-- What was given on the command line. -/
structure Given where
  grammar : Option String
  program : Option String
  text : Option String
  tokens : Option String
  color : Option ColorMode
  fuel : Option Nat
  depth : Option Nat
  flags : List Flag
  verbose : Nat

namespace Given

def nothing : Given := ⟨none, none, none, none, none, none, none, [], 0⟩

def has (g : Given) : Setting → Bool
  | .text => g.text.isSome
  | .tokens => g.tokens.isSome
  | .color => g.color.isSome
  | .fuel => g.fuel.isSome
  | .depth => g.depth.isSome

/-- A number of 32 bits, with or without a sign. -/
def number? (s : String) : Option Nat :=
  let digits? (cs : List Char) : Option Nat :=
    if cs.isEmpty || !cs.all Char.isDigit then none
    else
      let n := cs.foldl (fun n c => n * 10 + (c.toNat - '0'.toNat)) 0
      if n < Nat.pow 2 32 then some n else none
  match s.toList with
  | '+' :: cs => digits? cs
  | '-' :: cs => (digits? cs).filter (· = 0)
  | cs => digits? cs

def colorMode? : String → Option ColorMode
  | "auto" => some .auto
  | "always" => some .always
  | "never" => some .never
  | _ => none

def path (s : String) : Except UsageError String :=
  if s.isEmpty then .error .invalidValue else .ok s

/-- Takes the value of a setting, which may be given once. -/
def set (g : Given) (setting : Setting) (value : String) : Except UsageError Given :=
  if g.has setting then .error .conflict
  else match setting with
    | .text => .ok { g with text := some value }
    | .tokens => do .ok { g with tokens := some (← path value) }
    | .color =>
      match colorMode? value with
      | some mode => .ok { g with color := some mode }
      | none => .error .invalidValue
    | .fuel =>
      match number? value with
      | some n => .ok { g with fuel := some n }
      | none => .error .invalidNumber
    | .depth =>
      match number? value with
      | some n => .ok { g with depth := some n }
      | none => .error .invalidNumber

def setFlag (g : Given) (flag : Flag) : Except UsageError Given :=
  if flag ∈ g.flags then .error .conflict else .ok { g with flags := flag :: g.flags }

/-- The ways to give a program exclude each other. -/
def conflicts (g : Given) : Bool :=
  1 < ([g.program, g.text, g.tokens].filter (·.isSome)).length

def source (g : Given) : Option ProgramSource :=
  match g.tokens, g.text, g.program with
  | some path, _, _ => some (.tokenFile path)
  | none, some text, _ => some (.text text)
  | none, none, some path => some (.file path)
  | none, none, none => none

def verbosity (g : Given) : Verbosity :=
  match g.verbose with
  | 0 => .rules
  | 1 => .alternatives
  | _ => .symbols

def run (g : Given) : RunOptions :=
  ⟨⟨g.fuel.getD Limits.standard.fuel, g.depth.getD Limits.standard.depth⟩, .furthest ∈ g.flags⟩

end Given

end TokenGrammar
