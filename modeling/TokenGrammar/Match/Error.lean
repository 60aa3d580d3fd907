import TokenGrammar.Grammar
import TokenGrammar.Match.Failure

/-!
# Why a run fails
-/
namespace TokenGrammar

inductive RuntimeError
  /-- A reference names nothing in its namespace; told when it is reached. -/
  | undefinedRule (space : Namespace) (name : String)
  | unsupportedSymbol (rule : String) (symbol : Notation.Token)
  /-- No rule advances at this token. -/
  | unexpectedToken (token : Token) (furthest : Option Failure)
  | recursionLimitExceeded (limit : Nat)
  | fuelExhausted (limit : Nat)
  deriving DecidableEq, Repr

namespace RuntimeError

def message : RuntimeError → String
  | undefinedRule space name => s!"undefined {space.noun} `{name}`"
  | unsupportedSymbol rule symbol =>
    s!"unsupported symbol `{symbol.text}` in rule `{rule}` at {symbol.location.position.describe}"
  | unexpectedToken token _ => s!"unexpected {token.describe} at {token.position.describe}"
  | recursionLimitExceeded limit =>
    s!"runtime recursion limit exceeded ({limit} nested invocations)"
  | fuelExhausted limit => s!"runtime execution limit exceeded ({limit} steps)"

/-- Whether a limit ended the run, and not the program. -/
def isLimit : RuntimeError → Bool
  | recursionLimitExceeded _ | fuelExhausted _ => true
  | _ => false

def furthest? : RuntimeError → Option Failure
  | unexpectedToken _ furthest => furthest
  | _ => none

end RuntimeError

end TokenGrammar
