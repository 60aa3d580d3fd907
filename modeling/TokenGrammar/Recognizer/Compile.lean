import TokenGrammar.Notation.Scan
import TokenGrammar.Recognizer.Basic
import TokenGrammar.Recognizer.Error

/-!
# Compiling a grammar line

A line is `Name = body`, with an optional `;` at the end. The body is cut at the alternators outside
of groups; an alternative that starts with its own rule is refused; then symbols are built from left
to right, groups by the same rules under the name of the rule that they stand in.
-/
namespace TokenGrammar

/-- Warnings so far, and a result or the error that ended compilation. -/
structure Compiled (α : Type) where
  warnings : List Diagnostic
  result : Except CompileError α

namespace Compiled

def bind {α β : Type} (x : Compiled α) (f : α → Compiled β) : Compiled β :=
  match x.result with
  | .error e => ⟨x.warnings, .error e⟩
  | .ok a =>
    let y := f a
    ⟨x.warnings ++ y.warnings, y.result⟩

instance : Monad Compiled where
  pure a := ⟨[], .ok a⟩
  bind := bind

def warn (d : Diagnostic) : Compiled Unit := ⟨[d], .ok ()⟩

def fail {α : Type} (e : CompileError) : Compiled α := ⟨[], .error e⟩

end Compiled

namespace Recognizer

open Notation (Kind)

/-- What a token adds to the depth of groups. -/
def nesting : Kind → Int
  | .groupOpen => 1
  | .groupClose => -1
  | _ => 0

/--
First and further alternatives of a body. The depth falls below zero at an unmatched `)`, so that no
alternator behind it is at depth zero until as many `(` were opened again.
-/
def splitAlternatives (depth : Int) :
    List Notation.Token → List Notation.Token × List (List Notation.Token)
  | [] => ([], [])
  | t :: rest =>
    if t.kind = .alternator ∧ depth = 0 then
      let (first, others) := splitAlternatives depth rest
      ([], first :: others)
    else
      let (first, others) := splitAlternatives (depth + nesting t.kind) rest
      (t :: first, others)

def alternativesOf (body : List Notation.Token) : List (List Notation.Token) :=
  let (first, others) := splitAlternatives 0 body
  first :: others

/-- Whether the first token names the rule itself. A dotted class reference never does. -/
def isLeftRecursive (rule : String) : List Notation.Token → Bool
  | [] => false
  | t :: _ =>
    match t.kind with
    | .literal => t.literalValue = rule
    | .subruleRef | .name => t.name = rule
    | _ => false

/-- Contents of an opened group, its closing bracket, and what follows. -/
def splitGroup (depth : Int) :
    List Notation.Token → Option (List Notation.Token × Notation.Token × List Notation.Token)
  | [] => none
  | t :: rest =>
    if t.kind = .groupClose ∧ depth = 0 then some ([], t, rest)
    else (splitGroup (depth + nesting t.kind) rest).map fun (inner, after) => (t :: inner, after)

/-- The quantifier that directly follows a class reference, if any. -/
def takeQuantifier : List Notation.Token → Quantifier × List Notation.Token
  | [] => (.one, [])
  | t :: rest =>
    match t.kind with
    | .optional => (.optional, rest)
    | .zeroOrMore => (.zeroOrMore, rest)
    | .oneOrMore => (.oneOrMore, rest)
    | _ => (.one, t :: rest)

/-- Warning for a token that means nothing where it stands. -/
def strayWarning (t : Notation.Token) : Diagnostic :=
  .report .straySymbol t.location.span (some s!"`{t.text}`") []
    (if t.kind.isQuantifier then ["quantifiers only apply to class references"] else [])

def emptyGroupWarning (opening close : Notation.Token) : Diagnostic :=
  .report .emptyGroup ⟨opening.location.span.start, close.location.span.stop⟩ none [] []

theorem splitGroup_eq {depth : Int} {tokens inner after : List Notation.Token}
    {close : Notation.Token} (h : splitGroup depth tokens = some (inner, close, after)) :
    tokens = inner ++ close :: after := by
  induction tokens generalizing depth inner with
  | nil => simp [splitGroup] at h
  | cons t rest ih =>
      rw [splitGroup] at h
      split at h
      · obtain ⟨rfl, rfl, rfl⟩ : [] = inner ∧ t = close ∧ rest = after := by
          simpa only [Option.some.injEq, Prod.mk.injEq] using h
        rfl
      · obtain ⟨⟨i, c, a⟩, hs, he⟩ := Option.map_eq_some_iff.1 h
        obtain ⟨rfl, rfl, rfl⟩ : t :: i = inner ∧ c = close ∧ a = after := by
          simpa only [Prod.mk.injEq] using he
        rw [ih hs, List.cons_append]

theorem takeQuantifier_length (tokens : List Notation.Token) :
    (takeQuantifier tokens).2.length ≤ tokens.length := by
  cases tokens with
  | nil => exact Nat.le_refl _
  | cons t rest => rw [takeQuantifier]; split <;> simp

theorem splitAlternatives_length (depth : Int) (body : List Notation.Token) :
    (splitAlternatives depth body).1.length + (splitAlternatives depth body).2.flatten.length +
      (splitAlternatives depth body).2.length = body.length := by
  induction body generalizing depth with
  | nil => rfl
  | cons t rest ih =>
      rw [splitAlternatives]
      split
      · have := ih depth
        simp only [List.length_nil, List.flatten_cons, List.length_append, List.length_cons]
        omega
      · have := ih (depth + nesting t.kind)
        simp only [List.length_cons]
        omega

mutual

/-- Alternatives of a body or of the contents of a group; `header` is the rule's name. -/
def compileBody (header : Notation.Token) (body : List Notation.Token) :
    Compiled (List Alternative) :=
  match (alternativesOf body).find? (isLeftRecursive header.text) with
  | some (first :: _) => .fail (.leftRecursion header.text first.location header.location)
  | _ => compileAlternatives header (alternativesOf body)
termination_by (body.length + 1, 2)
decreasing_by
  have := splitAlternatives_length 0 body
  simp only [alternativesOf, List.flatten_cons, List.length_append, List.length_cons]
  rw [show (splitAlternatives 0 body).1.length + (splitAlternatives 0 body).2.flatten.length +
    ((splitAlternatives 0 body).2.length + 1) = body.length + 1 by omega]
  exact Prod.Lex.right _ (by decide)

def compileAlternatives (header : Notation.Token) (alternatives : List (List Notation.Token)) :
    Compiled (List Alternative) :=
  match alternatives with
  | [] => pure []
  | a :: rest => do
    let first ← compileSymbols header a
    let others ← compileAlternatives header rest
    pure (first :: others)
termination_by (alternatives.flatten.length + alternatives.length, 1)
decreasing_by
  · simp only [List.flatten_cons, List.length_append, List.length_cons]
    by_cases h : rest = []
    · subst h
      exact Prod.Lex.right _ (by decide)
    · refine Prod.Lex.left _ _ ?_
      have := List.length_pos_iff.2 h
      omega
  · refine Prod.Lex.left _ _ ?_
    simp only [List.flatten_cons, List.length_append, List.length_cons]
    omega

def compileSymbols (header : Notation.Token) (tokens : List Notation.Token) :
    Compiled (List Symbol) :=
  match tokens with
  | [] => pure []
  | t :: rest =>
    match t.kind with
    | .literal => do
      let more ← compileSymbols header rest
      pure (.literal t.literalValue :: more)
    | .classRef | .name => do
      let more ← compileSymbols header (takeQuantifier rest).2
      pure (.tokens t.name (takeQuantifier rest).1 (t.kind = .classRef) :: more)
    | .subruleRef => do
      let more ← compileSymbols header rest
      pure (.subrule t.name :: more)
    | .definitionRef => do
      let more ← compileSymbols header rest
      pure (.definition t.name :: more)
    | .ignorationRef => .fail (.illegalIgnorationReference t.name header.text t.location)
    | .groupOpen =>
      match _ : splitGroup 0 rest with
      | none => .fail (.unclosedGroup header.text t.location)
      | some ([], close, after) => do
        .warn (emptyGroupWarning t close)
        compileSymbols header after
      | some (inner, _, after) => do
        let alternatives ← compileBody header inner
        let more ← compileSymbols header after
        pure (.group alternatives :: more)
    | .groupClose | .alternator | .optional | .zeroOrMore | .oneOrMore | .assignment
    | .terminator => do
      .warn (strayWarning t)
      let more ← compileSymbols header rest
      pure (.stray t :: more)
    | .unexpectedFragment => .fail (.unexpectedCharacters t.text t.location)
    | .whitespace | .lineComment => compileSymbols header rest
termination_by (tokens.length + 1, 0)
decreasing_by
  all_goals refine Prod.Lex.left _ _ ?_
  all_goals simp only [List.length_cons]
  all_goals first
    | omega
    | have := takeQuantifier_length rest
      omega
    | have := congrArg List.length (splitGroup_eq (by assumption))
      simp only [List.length_append, List.length_cons, List.length_nil] at this
      omega

end

/-- Compiles the body of the rule that `header` names. -/
def compile (header : Notation.Token) (body : List Notation.Token) : Compiled Recognizer := do
  let alternatives ← compileBody header body
  pure ⟨header.text, alternatives⟩

/-- A `;` at the very end closes the line and is no part of the body. -/
def dropTerminator (body : List Notation.Token) : List Notation.Token :=
  if body.getLast?.any (·.kind = .terminator) then body.dropLast else body

/-- Name and body of a line; `stop` is where a token is missing when the line ends too early. -/
def splitHeader (stop : Location) :
    List Notation.Token → Except CompileError (Notation.Token × List Notation.Token)
  | [] => .error (.expectedRuleName none stop)
  | header :: rest =>
    if header.kind ≠ .name then .error (.expectedRuleName (some header.kind) header.location)
    else match rest with
      | [] => .error (.expectedAssignment none stop)
      | t :: body =>
        if t.kind ≠ .assignment then .error (.expectedAssignment (some t.kind) t.location)
        else .ok (header, body)

/-- Compiles the tokens of a whole line; characters that form no token are reported first. -/
def ofTokens (stop : Location) (tokens : List Notation.Token) : Compiled Recognizer :=
  match tokens.find? (·.kind = .unexpectedFragment) with
  | some t => .fail (.unexpectedCharacters t.text t.location)
  | none =>
    match splitHeader stop tokens with
    | .error e => .fail e
    | .ok (header, body) => compile header (dropTerminator body)

/-- Compiles a line that starts at `origin` inside a larger text. -/
def ofLine (origin : Place) (line : List Char) : Compiled Recognizer :=
  ofTokens ((origin.after line).covering []) (Notation.scan origin line)

end Recognizer

end TokenGrammar
