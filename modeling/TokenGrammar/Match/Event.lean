import TokenGrammar.Token

/-!
# Events of a run

What an observer learns while recognizers run. Offsets count tokens from the start of the program.
-/
namespace TokenGrammar

inductive Event
  | enter (rule : String) (offset : Nat)
  /-- The width is absent when the rule did not match. -/
  | leave (rule : String) (width : Option Nat)
  | alternative (rule : String) (index : Nat)
  /-- The alternative failed; the next one starts over where this one did. -/
  | backtrack (rule : String) (index : Nat)
  | literalMatched (token : Token)
  | literalFailed (rule text : String) (offset : Nat) (found : Option Token)
  | tokensMatched (kind : String) (count : Nat)
  /-- The run broke off at `offset`, before the least count was reached. -/
  | tokensFailed (rule kind : String) (count least offset : Nat) (found : Option Token)
  | expression (rule : String) (offset width : Nat)
  deriving DecidableEq, Repr

end TokenGrammar
