import TokenGrammar.Text.Position

/-!
# Diagnostics

Warnings and errors about a grammar, each pointing at a byte range of the text it was read from.
-/
namespace TokenGrammar

inductive Severity
  | error
  | warning
  deriving DecidableEq, Repr

def Severity.name : Severity → String
  | .error => "error"
  | .warning => "warning"

namespace Diagnostic

inductive Kind
  | unknownStatement
  | invalidTokenPattern
  | unexpectedCharacters
  | expectedRuleName
  | expectedAssignment
  | unclosedGroup
  | illegalIgnorationReference
  | leftRecursion
  | emptyGroup
  | straySymbol
  deriving DecidableEq, Repr

namespace Kind

/-- A warned line is accepted, but is probably not what was meant. -/
def severity : Kind → Severity
  | emptyGroup | straySymbol => .warning
  | _ => .error

/-- The hint that every diagnostic of the kind carries. -/
def hint? : Kind → Option String
  | unknownStatement =>
    some "statements start with `token`, `skip`, `ignore`, `define` or `rule`"
  | leftRecursion => some "put a token-consuming symbol before the self-reference"
  | illegalIgnorationReference => some "ignorations cannot be referenced from rule bodies"
  | _ => none

/-- The message when there is no detail to give. -/
def summary : Kind → String
  | unknownStatement => "unknown statement"
  | invalidTokenPattern => "invalid token pattern"
  | unexpectedCharacters => "unexpected characters"
  | expectedRuleName => "expected rule name"
  | expectedAssignment => "expected `=` after rule name"
  | unclosedGroup => "missing closing `)`"
  | illegalIgnorationReference => "ignoration reference is not allowed"
  | leftRecursion => "left recursion"
  | emptyGroup => "empty group is skipped"
  | straySymbol => "symbol has no meaning here"

/-- What stands before and after the detail in a message that has one. -/
def frame : Kind → String × String
  | leftRecursion => ("rule `", "` is left-recursive")
  | illegalIgnorationReference => ("`~", "` cannot be referenced here")
  | straySymbol => ("", " has no meaning here and fails when reached")
  | unclosedGroup => (unclosedGroup.summary ++ "; ", "")
  | kind => (kind.summary ++ ": ", "")

def message (kind : Kind) : Option String → String
  | none => kind.summary
  | some detail => kind.frame.1 ++ detail ++ kind.frame.2

end Kind

/-- A second range that helps to understand the first. -/
structure Related where
  message : String
  span : Span
  deriving DecidableEq, Repr

end Diagnostic

structure Diagnostic where
  kind : Diagnostic.Kind
  span : Span
  message : String
  related : List Diagnostic.Related
  hints : List String
  deriving DecidableEq, Repr

namespace Diagnostic

def severity (d : Diagnostic) : Severity := d.kind.severity

def isError (d : Diagnostic) : Bool := d.severity = .error

def isWarning (d : Diagnostic) : Bool := d.severity = .warning

/-- A diagnostic with its kind's message and hint; further hints come after that one. -/
def report (kind : Kind) (span : Span) (detail : Option String) (related : List Related)
    (hints : List String) : Diagnostic :=
  ⟨kind, span, kind.message detail, related, kind.hint?.toList ++ hints⟩

/-- The diagnostic on one line, without the text that it points into. -/
def describe (d : Diagnostic) : String :=
  s!"{d.severity.name} at {d.span.start}..{d.span.stop}: {d.message}" ++
    String.join (d.related.map fun r =>
      s!" (related: {r.message} at {r.span.start}..{r.span.stop})") ++
    String.join (d.hints.map fun h => s!" (hint: {h})")

end Diagnostic

end TokenGrammar
