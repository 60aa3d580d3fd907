import TokenGrammar.Diagnostic.Basic
import TokenGrammar.Notation.Token

/-!
# Why a line does not compile
-/
namespace TokenGrammar

/-- The first fault of a grammar line; nothing is stored when there is one. -/
inductive CompileError
  | unexpectedCharacters (text : String) (location : Location)
  /-- `found` is empty at the end of the line. -/
  | expectedRuleName (found : Option Notation.Kind) (location : Location)
  | expectedAssignment (found : Option Notation.Kind) (location : Location)
  | leftRecursion (rule : String) (location declared : Location)
  | illegalIgnorationReference (name rule : String) (location : Location)
  | unclosedGroup (rule : String) (location : Location)
  deriving DecidableEq, Repr

namespace CompileError

def kind : CompileError → Diagnostic.Kind
  | unexpectedCharacters .. => .unexpectedCharacters
  | expectedRuleName .. => .expectedRuleName
  | expectedAssignment .. => .expectedAssignment
  | leftRecursion .. => .leftRecursion
  | illegalIgnorationReference .. => .illegalIgnorationReference
  | unclosedGroup .. => .unclosedGroup

/-- Where the error points. -/
def location : CompileError → Location
  | unexpectedCharacters _ l | expectedRuleName _ l | expectedAssignment _ l => l
  | leftRecursion _ l _ | illegalIgnorationReference _ _ l | unclosedGroup _ l => l

/-- What the error's diagnostic says beyond its kind. -/
def detail : CompileError → Option String
  | unexpectedCharacters text _ => some s!"`{text}`"
  | expectedRuleName found _ | expectedAssignment found _ =>
    found.map fun kind => "found " ++ kind.describe
  | leftRecursion rule .. => some rule
  | illegalIgnorationReference name .. => some name
  | unclosedGroup rule _ => some s!"group in rule `{rule}`"

def message (e : CompileError) : String :=
  let place := e.location.position.describe
  match e with
  | leftRecursion rule .. => s!"rule `{rule}` is left-recursive at {place}"
  | illegalIgnorationReference name rule _ =>
    s!"ignoration `{name}` cannot be referenced in rule `{rule}` at {place}"
  | unclosedGroup rule _ => s!"group opened at {place} in rule `{rule}` is never closed"
  | _ => s!"{e.kind.message e.detail} at {place}"

def related : CompileError → List Diagnostic.Related
  | leftRecursion _ _ declared => [⟨"rule declared here", declared.span⟩]
  | _ => []

def diagnostic (e : CompileError) : Diagnostic :=
  .report e.kind e.location.span e.detail e.related []

end CompileError

end TokenGrammar
