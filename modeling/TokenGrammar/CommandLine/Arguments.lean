import TokenGrammar.CommandLine.Given

/-!
# Reading the command line

The first argument names the action. Every action knows every option, so that one line of options fits
all of them; those that it has no use for are read and dropped. A value is settled when the next
argument is understood, so that an unknown argument directly behind a bad value is reported first.
-/
namespace TokenGrammar

/-- What the last argument leaves to be settled. -/
inductive Pending
  | nothing
  | grammar (path : String)
  | program (path : String)
  /-- The next argument is the value. -/
  | awaited (setting : Setting)
  | value (setting : Setting) (value : String)

/-- Reading up to some argument: what is settled, what is not, and the number of plain arguments. -/
structure Reading where
  given : Given
  pending : Pending
  plain : Nat

namespace Reading

def start : Reading := ⟨.nothing, .nothing, 0⟩

def settle (r : Reading) : Except UsageError Reading := do
  let given ← match r.pending with
    | .nothing => .ok r.given
    | .grammar path => do .ok { r.given with grammar := some (← Given.path path) }
    | .program path => do .ok { r.given with program := some (← Given.path path) }
    | .awaited _ => .error .invalidValue
    | .value setting value => r.given.set setting value
  .ok { r with given, pending := .nothing }

/-- An argument without a dash: the grammar, then the program. -/
def takePlain (r : Reading) (arg : String) : Except UsageError Reading :=
  match r.plain with
  | 0 => do .ok { ← r.settle with pending := .grammar arg, plain := 1 }
  | 1 => do .ok { ← r.settle with pending := .program arg, plain := 2 }
  | _ => .error .unknownArgument

def takeFlag (r : Reading) (flag : Flag) : Except UsageError Reading := do
  let r ← r.settle
  .ok { r with given := ← r.given.setFlag flag }

/-- A setting, with its value if that is attached. -/
def takeSetting (r : Reading) (setting : Setting) (attached : Option String) :
    Except UsageError Reading := do
  let r ← r.settle
  match attached with
  | some value => .ok { r with given := ← r.given.set setting value }
  | none => .ok { r with pending := .awaited setting }

def askHelp (r : Reading) : Except UsageError Reading := do
  let _ ← r.settle
  .error .help

inductive LongName
  | flag (f : Flag)
  | setting (s : Setting)
  | help

def longName? : String → Option LongName
  | "strict" => some (.flag .strict)
  | "compact" => some (.flag .compact)
  | "json" => some (.flag .json)
  | "furthest" => some (.flag .furthest)
  | "no-result" => some (.flag .noResult)
  | "source" => some (.setting .text)
  | "tokens" => some (.setting .tokens)
  | "color" => some (.setting .color)
  | "fuel" => some (.setting .fuel)
  | "recursion-limit" => some (.setting .depth)
  | "help" => some .help
  | _ => none

/-- An argument behind two dashes. -/
def takeLong (r : Reading) (arg : List Char) : Except UsageError Reading :=
  let name := String.ofList (arg.takeWhile (· ≠ '='))
  let attached := match arg.dropWhile (· ≠ '=') with
    | [] => none
    | _ :: value => some (String.ofList value)
  match longName? name, attached with
  | none, _ => .error .unknownArgument
  | some (.setting s), _ => r.takeSetting s attached
  | some _, some _ => .error .needlessValue
  | some (.flag f), none => r.takeFlag f
  | some .help, none => r.askHelp

/-- Letters behind one dash; what follows the letter of a setting is its value. -/
def takeShort (r : Reading) : List Char → Except UsageError Reading
  | [] => .ok r
  | 'v' :: cs => do
    let r ← r.settle
    takeShort { r with given := { r.given with verbose := r.given.verbose + 1 } } cs
  | 's' :: cs =>
    match cs with
    | [] => r.takeSetting .text none
    | '=' :: value => r.takeSetting .text (some (String.ofList value))
    | value => r.takeSetting .text (some (String.ofList value))
  | 'h' :: _ => r.askHelp
  | _ => .error .unknownArgument

/-- Reads arguments; behind `--` all of them are plain. -/
def takeAll (r : Reading) (onlyPlain : Bool) : List String → Except UsageError Reading
  | [] => .ok r
  | arg :: rest => do
    if onlyPlain then takeAll (← r.takePlain arg) true rest
    else match arg.toList with
      | ['-', '-'] => takeAll r true rest
      | '-' :: '-' :: name => takeAll (← r.takeLong name) false rest
      | '-' :: c :: letters => takeAll (← r.takeShort (c :: letters)) false rest
      | _ =>
        match r.pending with
        | .awaited setting => takeAll { r with pending := .value setting arg } false rest
        | _ => takeAll (← r.takePlain arg) false rest

end Reading

/-- What the first argument asks for. -/
inductive ActionName
  | check
  | tokens
  | parse
  | trace
  deriving DecidableEq, Repr

namespace ActionName

def ofWord? : String → Option ActionName
  | "check" => some check
  | "tokens" => some tokens
  | "parse" => some parse
  | "trace" => some trace
  | _ => none

def action (g : Given) : ActionName → Action
  | check => .check (.strict ∈ g.flags)
  | tokens => .tokens ⟨g.source, .json ∈ g.flags, .compact ∈ g.flags⟩
  | parse => .parse ⟨g.source, .compact ∈ g.flags, g.run, .strict ∈ g.flags⟩
  | trace => .trace ⟨g.source, g.verbosity, .noResult ∈ g.flags, g.run⟩

end ActionName

namespace Command

def ofGiven (name : ActionName) (g : Given) : Except UsageError Command :=
  if g.conflicts then .error .conflict
  else match g.grammar with
    | none => .error .noGrammar
    | some grammar => .ok ⟨grammar, g.color.getD .auto, name.action g⟩

/-- Help on an action, which must be one. -/
def help : List String → UsageError
  | [] => .help
  | word :: rest =>
    if (ActionName.ofWord? word).isSome || word = "help" then
      if rest.isEmpty then .help else .unknownAction
    else .unknownAction

/-- Reads the arguments behind the program's own name. -/
def ofArguments : List String → Except UsageError Command
  | [] => .error .noAction
  | "help" :: rest => .error (help rest)
  | word :: rest =>
    match ActionName.ofWord? word with
    | some name => do
      let r ← (← Reading.start.takeAll false rest).settle
      ofGiven name r.given
    | none =>
      match word.toList with
      | ['-', '-'] =>
        match rest with
        | [] => .error .noAction
        | next :: _ =>
          if (ActionName.ofWord? next).isSome || next = "help" then .error .unknownArgument
          else .error .unknownAction
      | '-' :: '-' :: name =>
        if name = "help".toList then .error .help
        else if name.takeWhile (· ≠ '=') = "help".toList then .error .needlessValue
        else .error .unknownArgument
      | '-' :: 'h' :: _ => .error .help
      | '-' :: _ :: _ => .error .unknownArgument
      | _ => .error .unknownAction

end Command

end TokenGrammar
