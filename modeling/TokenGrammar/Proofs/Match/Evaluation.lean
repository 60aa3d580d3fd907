import TokenGrammar.Match.Program

/-!
# Recursive evaluation

Ordered choice written with native recursion instead of a stack of frames: a recognizer at depth `d`
refuses to run at the depth limit, takes a unit of fuel, and tries its alternatives in order; a symbol
takes a unit of fuel and, if it invokes a recognizer, evaluates it at depth `d + 1`. The first error
ends everything. What fuel, events and errors are is left to the monad: `Machine.Action` meters a real
run, other instances only record one.
-/
namespace TokenGrammar

/-- What an evaluation does besides returning: it takes fuel, tells what happens, and gives up. -/
class Effects (M : Type → Type) extends Monad M where
  spend : M Unit
  note : Event → M Unit
  fail {α : Type} : RuntimeError → M α

namespace Matched

/-- What an alternative without symbols matches. -/
def empty : Matched := ⟨0, []⟩

instance : Append Matched := ⟨fun a b => ⟨a.width + b.width, a.nodes ++ b.nodes⟩⟩

/-- What an invocation contributes to its caller: all its nodes below one label. -/
def below (label : Option String) (matched : Matched) : Matched :=
  ⟨matched.width, [.tree label matched.width matched.nodes]⟩

@[simp] theorem width_append (a b : Matched) : (a ++ b).width = a.width + b.width := rfl

@[simp] theorem nodes_append (a b : Matched) : (a ++ b).nodes = a.nodes ++ b.nodes := rfl

@[simp] theorem empty_append (a : Matched) : empty ++ a = a := by
  cases a with
  | mk width nodes => exact congrArg (Matched.mk · nodes) (Nat.zero_add width)

@[simp] theorem append_empty (a : Matched) : a ++ empty = a := by
  cases a with
  | mk width nodes => exact congrArg (Matched.mk width) (List.append_nil nodes)

theorem append_assoc (a b c : Matched) : a ++ b ++ c = a ++ (b ++ c) := by
  change Matched.mk _ _ = Matched.mk _ _
  simp only [width_append, nodes_append, Nat.add_assoc, List.append_assoc]

end Matched

namespace Grammar

open Effects

variable {M : Type → Type} [Effects M]

/-- Invokes what a reference names. -/
def evaluateReference (g : Grammar) (call : Recognizer → Nat → List Token → M (Option Matched))
    (space : Namespace) (name : String) (cursor : Nat) (rest : List Token) : M (Option Matched) :=
  match g.lookup space name with
  | none => fail (.undefinedRule space name)
  | some r => do
    let result ← call r cursor rest
    pure (result.map (.below (some name)))

/-- What one symbol of a rule contributes at the cursor, or none when it fails there. -/
def evaluateSymbol (g : Grammar) (call : Recognizer → Nat → List Token → M (Option Matched))
    (rule : String) (cursor : Nat) (rest : List Token) : Symbol → M (Option Matched)
  | .literal text =>
    match rest with
    | token :: _ =>
      if token.lexeme = text then do
        note (.literalMatched token)
        pure (some ⟨1, [.token token]⟩)
      else do
        note (.literalFailed rule text cursor (some token))
        pure none
    | [] => do
      note (.literalFailed rule text cursor none)
      pure none
  | .tokens kind quantifier _ =>
    let run := kindRun kind quantifier rest
    if run.length < quantifier.least then do
      note (.tokensFailed rule kind run.length quantifier.least (cursor + run.length)
        (rest.drop run.length).head?)
      pure none
    else do
      note (.tokensMatched kind run.length)
      pure (some ⟨run.length, run.map .token⟩)
  | .subrule name => g.evaluateReference call .rules name cursor rest
  | .definition name => g.evaluateReference call .definitions name cursor rest
  | .group alternatives => do
    let result ← call ⟨rule, alternatives⟩ cursor rest
    pure (result.map (.below none))
  | .stray token => fail (.unsupportedSymbol rule token)

/-- Runs symbols one after the other, each where the one before stopped. -/
def evaluateSymbols (g : Grammar) (call : Recognizer → Nat → List Token → M (Option Matched))
    (rule : String) : List Symbol → Nat → List Token → M (Option Matched)
  | [], _, _ => pure (some .empty)
  | symbol :: symbols, cursor, rest => do
    spend
    let part ← g.evaluateSymbol call rule cursor rest symbol
    match part with
    | none => pure none
    | some part => do
      let others ← g.evaluateSymbols call rule symbols (cursor + part.width) (rest.drop part.width)
      pure (others.map (part ++ ·))

/-- The first of the alternatives, numbered from `index` on, that matches at the offset. -/
def evaluateAlternatives (g : Grammar) (call : Recognizer → Nat → List Token → M (Option Matched))
    (rule : String) (offset : Nat) (input : List Token) :
    Nat → List Alternative → M (Option Matched)
  | _, [] => pure none
  | index, symbols :: others => do
    note (.alternative rule index)
    let result ← g.evaluateSymbols call rule symbols offset input
    match result with
    | some matched => pure (some matched)
    | none => do
      note (.backtrack rule index)
      g.evaluateAlternatives call rule offset input (index + 1) others

/-- Evaluates a recognizer on the tokens from `offset` on, `depth` invocations deep. -/
def evaluate (g : Grammar) (limit depth : Nat) (r : Recognizer) (offset : Nat)
    (input : List Token) : M (Option Matched) :=
  if limit ≤ depth then fail (.recursionLimitExceeded limit)
  else do
    spend
    note (.enter r.name offset)
    let result ← g.evaluateAlternatives
      (fun r offset input => g.evaluate limit (depth + 1) r offset input)
      r.name offset input 0 r.alternatives
    note (.leave r.name (result.map (·.width)))
    pure result
termination_by limit - depth

/-- The first of the rules that consumes at least one token. -/
def evaluateRules (g : Grammar) (limit offset : Nat) (input : List Token) :
    List Recognizer → M (Option (Recognizer × Matched))
  | [] => pure none
  | r :: others => do
    let result ← g.evaluate limit 0 r offset input
    match result with
    | some matched =>
      if matched.width = 0 then g.evaluateRules limit offset input others
      else pure (some (r, matched))
    | none => g.evaluateRules limit offset input others

/-- The expressions of a program from `offset` on, and the token where no rule advances, if any. -/
def evaluateProgram (g : Grammar) (limit offset : Nat) :
    List Token → M (List Subtree × Option Token)
  | [] => pure ([], none)
  | token :: rest => do
    let found ← g.evaluateRules limit offset (token :: rest) g.rules.reverse
    match found with
    | none => pure ([], some token)
    | some (r, matched) => do
      note (.expression r.name offset matched.width)
      let (others, stuck) ← g.evaluateProgram limit (offset + matched.width)
        (rest.drop (matched.width - 1))
      pure (⟨some r.name, matched.width, matched.nodes⟩ :: others, stuck)
termination_by tokens => tokens.length
decreasing_by simp only [List.length_drop, List.length_cons]; omega

end Grammar

end TokenGrammar
