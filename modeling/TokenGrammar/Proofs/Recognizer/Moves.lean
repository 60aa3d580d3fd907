import TokenGrammar.Proofs.Recognizer.Derivation

/-!
# Locations have no part in compilation

Nothing that is compiled depends on where the tokens are. Main statement: whatever becomes of the offsets and
positions of the tokens of a line, becomes of those in what the line compiles to, that is in stray symbols, in
the error and in warnings, and nothing else changes.
-/
namespace TokenGrammar

/-- What becomes of offsets and of positions. -/
structure Move where
  offset : Nat → Nat
  position : Position → Position

/-- Here all offsets and positions are forgotten. -/
def Move.away : Move := ⟨fun _ => 0, fun _ => .start⟩

def Span.move (m : Move) (s : Span) : Span := ⟨m.offset s.start, m.offset s.stop⟩

def Location.move (m : Move) (l : Location) : Location := ⟨l.span.move m, m.position l.position⟩

def Notation.Token.move (m : Move) (t : Notation.Token) : Notation.Token :=
  { t with location := t.location.move m }

/-- A diagnostic has ranges alone, without lines and columns. -/
def Diagnostic.move (m : Move) (d : Diagnostic) : Diagnostic :=
  { d with
    span := d.span.move m
    related := d.related.map fun r => { r with span := r.span.move m } }

def CompileError.move (m : Move) : CompileError → CompileError
  | unexpectedCharacters text l => unexpectedCharacters text (l.move m)
  | expectedRuleName found l => expectedRuleName found (l.move m)
  | expectedAssignment found l => expectedAssignment found (l.move m)
  | leftRecursion rule l declared => leftRecursion rule (l.move m) (declared.move m)
  | illegalIgnorationReference name rule l => illegalIgnorationReference name rule (l.move m)
  | unclosedGroup rule l => unclosedGroup rule (l.move m)

mutual

/-- Only stray symbols have a location. -/
def Symbol.move (m : Move) : Symbol → Symbol
  | .stray t => .stray (t.move m)
  | .group alternatives => .group (moveAlternatives m alternatives)
  | .literal text => .literal text
  | .tokens kind quantifier explicit => .tokens kind quantifier explicit
  | .subrule name => .subrule name
  | .definition name => .definition name

def moveAlternatives (m : Move) : List (List Symbol) → List (List Symbol)
  | [] => []
  | symbols :: rest => moveSymbols m symbols :: moveAlternatives m rest

def moveSymbols (m : Move) : List Symbol → List Symbol
  | [] => []
  | symbol :: rest => symbol.move m :: moveSymbols m rest

end

def Recognizer.move (m : Move) (r : Recognizer) : Recognizer :=
  ⟨r.name, moveAlternatives m r.alternatives⟩

/-- Moves warnings and the error, and the result in its own way. -/
def Compiled.move {α : Type} (m : Move) (f : α → α) (x : Compiled α) : Compiled α :=
  ⟨x.warnings.map (·.move m),
    match x.result with
    | .error e => .error (e.move m)
    | .ok a => .ok (f a)⟩

variable {m : Move}

namespace Recognizer

open Notation (Token)

theorem splitAlternatives_move (depth : Int) (body : List Token) :
    splitAlternatives depth (body.map (·.move m)) =
      ((splitAlternatives depth body).1.map (·.move m),
        (splitAlternatives depth body).2.map (·.map (·.move m))) := by
  induction body generalizing depth with
  | nil => rfl
  | cons t rest ih =>
      have kind : (t.move m).kind = t.kind := rfl
      rw [List.map_cons, splitAlternatives, splitAlternatives, kind]
      split
      · rw [ih]
        rfl
      · rw [ih]
        rfl

theorem alternativesOf_move (body : List Token) :
    alternativesOf (body.map (·.move m)) = (alternativesOf body).map (·.map (·.move m)) := by
  rw [alternativesOf, alternativesOf, splitAlternatives_move]
  rfl

theorem isLeftRecursive_move (rule : String) (tokens : List Token) :
    isLeftRecursive rule (tokens.map (·.move m)) = isLeftRecursive rule tokens := by
  cases tokens <;> rfl

theorem find?_isLeftRecursive_move (rule : String) (parts : List (List Token)) :
    (parts.map (·.map (·.move m))).find? (isLeftRecursive rule) =
      (parts.find? (isLeftRecursive rule)).map (·.map (·.move m)) := by
  have same : isLeftRecursive rule ∘ (·.map (·.move m)) = isLeftRecursive rule := by
    funext tokens
    exact isLeftRecursive_move rule tokens
  rw [List.find?_map, same]

theorem splitGroup_move (depth : Int) (tokens : List Token) :
    splitGroup depth (tokens.map (·.move m)) =
      (splitGroup depth tokens).map fun (inner, close, after) =>
        (inner.map (·.move m), close.move m, after.map (·.move m)) := by
  induction tokens generalizing depth with
  | nil => rfl
  | cons t rest ih =>
      have kind : (t.move m).kind = t.kind := rfl
      rw [List.map_cons, splitGroup, splitGroup, kind]
      split
      · rfl
      · rw [ih, Option.map_map, Option.map_map]
        rfl

theorem takeQuantifier_move (tokens : List Token) :
    takeQuantifier (tokens.map (·.move m)) =
      ((takeQuantifier tokens).1, (takeQuantifier tokens).2.map (·.move m)) := by
  cases tokens with
  | nil => rfl
  | cons t rest =>
      have kind : (t.move m).kind = t.kind := rfl
      rw [List.map_cons, takeQuantifier, takeQuantifier, kind]
      split <;> rfl

end Recognizer

namespace Compiled

variable {α β : Type}

theorem move_warned (m : Move) (warnings : List Diagnostic) :
    (Compiled.mk warnings (.ok ())).move m id = ⟨warnings.map (·.move m), .ok ()⟩ := rfl

theorem move_bind {f : α → α} {g : β → β} {x x' : Compiled α} {k k' : α → Compiled β}
    (hx : x.move m f = x') (hk : ∀ a, (k a).move m g = k' (f a)) :
    (x >>= k).move m g = x' >>= k' := by
  subst hx
  rcases x with ⟨warnings, e | a⟩
  · rfl
  · simp only [bind_eq, move, ← hk, List.map_append]

end Compiled

namespace Recognizer

variable {header : Notation.Token}

theorem Stands.move {t : Notation.Token} {symbol : Symbol} {warnings : List Diagnostic}
    (h : Stands t symbol warnings) (m : Move) :
    Stands (t.move m) (symbol.move m) (warnings.map (·.move m)) := by
  cases h with
  | literal hk =>
      rw [Symbol.move]
      exact .literal hk
  | subrule hk =>
      rw [Symbol.move]
      exact .subrule hk
  | definition hk =>
      rw [Symbol.move]
      exact .definition hk
  | stray hk =>
      rw [Symbol.move]
      exact .stray hk

/-- What the tokens compile to is moved with them. -/
def SymbolsMove (m : Move) (header : Notation.Token) (tokens : List Notation.Token) : Prop :=
  (compileSymbols header tokens).move m (moveSymbols m) =
    compileSymbols (header.move m) (tokens.map (·.move m))

theorem SymbolsMove.cons {symbol symbol' : Symbol} {rest : List Notation.Token}
    (h : SymbolsMove m header rest) (hs : symbol.move m = symbol') :
    (compileSymbols header rest >>= fun more => pure (symbol :: more)).move m
        (moveSymbols m) =
      (compileSymbols (header.move m) (rest.map (·.move m)) >>= fun more =>
        pure (symbol' :: more)) := by
  refine Compiled.move_bind h fun more => ?_
  rw [← hs]
  simp only [Compiled.pure_eq, Compiled.move, moveSymbols, List.map_nil]

theorem SymbolsMove.single {t : Notation.Token} {symbol : Symbol} {warnings : List Diagnostic}
    {rest : List Notation.Token} (hs : Stands t symbol warnings) (h : SymbolsMove m header rest) :
    SymbolsMove m header (t :: rest) := by
  rw [SymbolsMove, List.map_cons, compileSymbols_single hs, compileSymbols_single (hs.move m)]
  exact Compiled.move_bind (Compiled.move_warned m warnings) fun _ => h.cons rfl

theorem SymbolsMove.tokens {t : Notation.Token} {rest : List Notation.Token}
    (hk : t.kind = .classRef ∨ t.kind = .name)
    (h : SymbolsMove m header (takeQuantifier rest).2) : SymbolsMove m header (t :: rest) := by
  have moved : (t.move m).kind = .classRef ∨ (t.move m).kind = .name := hk
  rw [SymbolsMove, List.map_cons, compileSymbols_tokens hk, compileSymbols_tokens moved,
    takeQuantifier_move]
  exact h.cons (by rw [Symbol.move]; rfl)

theorem compileBody_move (m : Move) (header : Notation.Token) :
    (∀ body, (compileBody header body).move m (moveAlternatives m) =
      compileBody (header.move m) (body.map (·.move m))) ∧
    (∀ parts, (compileAlternatives header parts).move m (moveAlternatives m) =
      compileAlternatives (header.move m) (parts.map (·.map (·.move m)))) ∧
    ∀ tokens, SymbolsMove m header tokens := by
  apply compileBody.mutual_induct header
  case case1 =>
    intro body first tail recursive
    have moved : (alternativesOf (body.map (·.move m))).find?
        (isLeftRecursive (header.move m).text) =
          some (first.move m :: tail.map (·.move m)) := by
      rw [alternativesOf_move, find?_isLeftRecursive_move]
      exact congrArg (Option.map _) recursive
    rw [compileBody, recursive, compileBody, moved]
    rfl
  case case2 =>
    intro body front ih
    have none := find?_isLeftRecursive_eq_none front
    have moved : (alternativesOf (body.map (·.move m))).find?
        (isLeftRecursive (header.move m).text) = .none := by
      rw [alternativesOf_move, find?_isLeftRecursive_move]
      exact congrArg (Option.map _) none
    rw [compileBody, none, compileBody, moved, alternativesOf_move]
    exact ih
  case case3 =>
    rw [List.map_nil, compileAlternatives, compileAlternatives]
    simp only [Compiled.pure_eq, Compiled.move, moveAlternatives, List.map_nil]
  case case4 =>
    intro a rest iha ihr
    rw [List.map_cons, compileAlternatives, compileAlternatives]
    refine Compiled.move_bind iha fun first => Compiled.move_bind ihr fun others => ?_
    simp only [Compiled.pure_eq, Compiled.move, moveAlternatives, List.map_nil]
  case case5 =>
    rw [SymbolsMove, List.map_nil, compileSymbols, compileSymbols]
    simp only [Compiled.pure_eq, Compiled.move, moveSymbols, List.map_nil]
  case case6 => exact fun t rest hk ih => .single (.literal hk) ih
  case case7 => exact fun t rest hk ih => .tokens (.inl hk) ih
  case case8 => exact fun t rest hk ih => .tokens (.inr hk) ih
  case case9 => exact fun t rest hk ih => .single (.subrule hk) ih
  case case10 => exact fun t rest hk ih => .single (.definition hk) ih
  case case11 =>
    intro t rest hk
    have moved : (t.move m).kind = .ignorationRef := hk
    rw [SymbolsMove, List.map_cons, compileSymbols, hk, compileSymbols, moved]
    rfl
  case case12 =>
    intro opening rest ho unclosed
    have moved : (opening.move m).kind = .groupOpen := ho
    rw [SymbolsMove, List.map_cons, compileSymbols_unclosed ho unclosed, compileSymbols_unclosed moved]
    · rfl
    · rw [splitGroup_move, unclosed]
      rfl
  case case13 =>
    intro opening rest ho close after hs ih
    obtain ⟨rfl, hc⟩ := splitGroup_nil_iff.mp hs
    have moved : (opening.move m).kind = .groupOpen := ho
    have closed : (close.move m).kind = .groupClose := hc
    rw [SymbolsMove, List.map_cons, List.map_cons, compileSymbols_emptyGroup ho hc,
      compileSymbols_emptyGroup moved closed]
    exact Compiled.move_bind (Compiled.move_warned m _) fun _ => ih
  case case14 =>
    intro opening rest ho inner close after hi hs ihb ihr
    have moved : (opening.move m).kind = .groupOpen := ho
    have split : splitGroup 0 (rest.map (·.move m)) = some (inner.map (·.move m),
        close.move m, after.map (·.move m)) := by
      rw [splitGroup_move, hs]
      rfl
    rw [SymbolsMove, List.map_cons, compileSymbols_group ho hs hi,
      compileSymbols_group moved split (by simpa using hi)]
    exact Compiled.move_bind ihb fun alternatives => SymbolsMove.cons ihr (by rw [Symbol.move])
  case case22 =>
    intro t rest hk
    have moved : (t.move m).kind = .unexpectedFragment := hk
    rw [SymbolsMove, List.map_cons, compileSymbols, hk, compileSymbols, moved]
    rfl
  case case23 | case24 =>
    intro t rest hk ih
    have trivia : t.kind.isTrivia = true := by rw [hk]; rfl
    have moved : (t.move m).kind.isTrivia = true := trivia
    rw [SymbolsMove, List.map_cons, compileSymbols_trivia trivia, compileSymbols_trivia moved]
    exact ih
  -- What is left are the seven kinds that stray.
  all_goals exact fun t rest hk ih => .single (.stray (by rw [hk]; rfl)) ih

theorem dropTerminator_move (body : List Notation.Token) :
    dropTerminator (body.map (·.move m)) = (dropTerminator body).map (·.move m) := by
  have last : (body.map (·.move m)).getLast?.any (·.kind = .terminator) =
      body.getLast?.any (·.kind = .terminator) := by
    rw [List.getLast?_map]
    cases body.getLast? <;> rfl
  rw [dropTerminator, dropTerminator, last]
  split
  · exact List.map_dropLast.symm
  · rfl

theorem splitHeader_move (stop : Location) (line : List Notation.Token) :
    splitHeader (stop.move m) (line.map (·.move m)) =
      match splitHeader stop line with
      | .error e => .error (e.move m)
      | .ok (header, body) => .ok (header.move m, body.map (·.move m)) := by
  rcases line with _ | ⟨header, _ | ⟨assignment, body⟩⟩
  · rfl
  · have kind : (header.move m).kind = header.kind := rfl
    simp only [List.map_cons, List.map_nil, splitHeader, kind]
    split <;> rfl
  · have kind : (header.move m).kind = header.kind := rfl
    have kind' : (assignment.move m).kind = assignment.kind := rfl
    simp only [List.map_cons, splitHeader, kind, kind']
    split
    · rfl
    · split <;> rfl

theorem ofTokens_move (m : Move) (stop : Location) (line : List Notation.Token) :
    ofTokens (stop.move m) (line.map (·.move m)) =
      (ofTokens stop line).move m (Recognizer.move m) := by
  have found : (line.map (·.move m)).find? (·.kind = .unexpectedFragment) =
      (line.find? (·.kind = .unexpectedFragment)).map (·.move m) := List.find?_map ..
  rw [ofTokens, ofTokens, found]
  cases line.find? (·.kind = .unexpectedFragment) with
  | some t => rfl
  | none =>
      dsimp only [Option.map_none]
      rw [splitHeader_move]
      cases splitHeader stop line with
      | error e => rfl
      | ok parts =>
          obtain ⟨header, body⟩ := parts
          dsimp only
          rw [compile, compile, dropTerminator_move]
          exact (Compiled.move_bind ((compileBody_move m header).1 _) fun _ => rfl).symm

end Recognizer

end TokenGrammar
