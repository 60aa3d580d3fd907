import TokenGrammar.Match.Event
import TokenGrammar.Text.Article

/-!
# Furthest failures

The deepest place at which an expectation failed, with everything that was expected there. Most often
it is what is wrong with a program that does not parse.
-/
namespace TokenGrammar

inductive Expectation
  | literal (text : String)
  | kind (name : String)
  deriving DecidableEq, Repr

def Expectation.describe : Expectation → String
  | .literal text => quoted text
  | .kind name => withArticle name

structure Failure where
  offset : Nat
  /-- The rule that was tried when the first of the expectations failed. -/
  rule : String
  /-- Without repetition, in the order in which they failed first. -/
  expected : List Expectation
  /-- Absent at the end of the program. -/
  found : Option Token
  deriving DecidableEq, Repr

namespace Failure

def describe (f : Failure) : String :=
  let found := match f.found with
    | some t => s!"{t.describe} at {t.position.describe}"
    | none => "end of input"
  let expected := " or ".intercalate (f.expected.map (·.describe))
  s!"expected {expected}, found {found} (while trying `{f.rule}`)"

/-- The furthest failure when one more expectation has failed. -/
def furthest (known : Option Failure) (rule : String) (expected : Expectation) (offset : Nat)
    (found : Option Token) : Failure :=
  match known with
  | none => ⟨offset, rule, [expected], found⟩
  | some f =>
    if f.offset < offset then ⟨offset, rule, [expected], found⟩
    else if offset = f.offset ∧ expected ∉ f.expected then
      { f with expected := f.expected ++ [expected] }
    else f

/-- Keeps the furthest failure up to date. -/
def note (known : Option Failure) : Event → Option Failure
  | .literalFailed rule text offset found => furthest known rule (.literal text) offset found
  | .tokensFailed rule kind _ _ offset found => furthest known rule (.kind kind) offset found
  | _ => known

end Failure

end TokenGrammar
