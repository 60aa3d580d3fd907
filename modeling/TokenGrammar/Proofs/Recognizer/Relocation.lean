import TokenGrammar.Proofs.Notation.Scanned
import TokenGrammar.Proofs.Recognizer.Moves

/-!
# Lines at other places

Where a line starts has no part in what it compiles to but for the locations in it. Main statement: a line
compiled at some origin gives what it gives at the start of a text, and every location of a stray symbol, of an
error or of a warning is moved to the origin.
-/
namespace TokenGrammar

/-- The position in a larger text of a position in a text that starts at the origin. On its first line the
origin's columns count, too. -/
def Position.shift (origin p : Position) : Position :=
  ⟨p.line + origin.line - 1, if p.line = 1 then p.column + origin.column - 1 else p.column⟩

def Span.shift (s : Span) (offset : Nat) : Span := ⟨s.start + offset, s.stop + offset⟩

def Location.relocate (origin : Place) (l : Location) : Location :=
  ⟨l.span.shift origin.offset, origin.position.shift l.position⟩

def Notation.Token.relocate (origin : Place) (t : Notation.Token) : Notation.Token :=
  { t with location := t.location.relocate origin }

/-- A diagnostic has ranges alone, without lines and columns. -/
def Diagnostic.relocate (origin : Place) (d : Diagnostic) : Diagnostic :=
  { d with
    span := d.span.shift origin.offset
    related := d.related.map fun r => { r with span := r.span.shift origin.offset } }

def CompileError.relocate (origin : Place) : CompileError → CompileError
  | unexpectedCharacters text l => unexpectedCharacters text (l.relocate origin)
  | expectedRuleName found l => expectedRuleName found (l.relocate origin)
  | expectedAssignment found l => expectedAssignment found (l.relocate origin)
  | leftRecursion rule l declared => leftRecursion rule (l.relocate origin) (declared.relocate origin)
  | illegalIgnorationReference name rule l => illegalIgnorationReference name rule (l.relocate origin)
  | unclosedGroup rule l => unclosedGroup rule (l.relocate origin)

mutual

/-- Only stray symbols have a location. -/
def Symbol.relocate (origin : Place) : Symbol → Symbol
  | .stray t => .stray (t.relocate origin)
  | .group alternatives => .group (relocateAlternatives origin alternatives)
  | .literal text => .literal text
  | .tokens kind quantifier explicit => .tokens kind quantifier explicit
  | .subrule name => .subrule name
  | .definition name => .definition name

def relocateAlternatives (origin : Place) : List (List Symbol) → List (List Symbol)
  | [] => []
  | symbols :: rest => relocateSymbols origin symbols :: relocateAlternatives origin rest

def relocateSymbols (origin : Place) : List Symbol → List Symbol
  | [] => []
  | symbol :: rest => symbol.relocate origin :: relocateSymbols origin rest

end

def Recognizer.relocate (origin : Place) (r : Recognizer) : Recognizer :=
  ⟨r.name, relocateAlternatives origin r.alternatives⟩

/-- Moves warnings and the error, and the result in its own way. -/
def Compiled.relocate {α : Type} (origin : Place) (move : α → α) (x : Compiled α) : Compiled α :=
  ⟨x.warnings.map (·.relocate origin),
    match x.result with
    | .error e => .error (e.relocate origin)
    | .ok a => .ok (move a)⟩

variable {origin : Place}

theorem Position.shift_next {p : Position} (line : 1 ≤ p.line) (column : 1 ≤ p.column) (origin : Position)
    (c : Char) : origin.shift (p.next c) = (origin.shift p).next c := by
  by_cases newline : c = '\n'
  · simp only [next, newline, if_true, shift, Position.mk.injEq]
    rw [if_neg (by omega)]
    omega
  · simp only [next, newline, if_false, shift, Position.mk.injEq, true_and]
    split <;> omega

/-- Walking from the origin is walking from the start, and then moving. -/
theorem Position.shift_after (origin : Position) (text : List Char) :
    origin.shift (start.after text) = origin.after text := by
  suffices walk : ∀ p : Position, 1 ≤ p.line → 1 ≤ p.column →
      origin.shift (p.after text) = (origin.shift p).after text by
    have moved := walk start (Nat.le_refl 1) (Nat.le_refl 1)
    rw [moved]
    simp [shift, start]
  induction text with
  | nil => exact fun _ _ _ => rfl
  | cons c cs ih =>
      intro p line column
      have further := ih (p.next c) (by unfold next; split <;> simp; omega) (by unfold next; split <;> simp)
      rw [shift_next line column] at further
      exact further

theorem Place.relocate_covering (origin : Place) (front piece : List Char) :
    ((Place.start.after front).covering piece).relocate origin = (origin.after front).covering piece := by
  simp only [Location.relocate, Span.shift, covering, after, Location.mk.injEq, Span.mk.injEq]
  exact ⟨⟨by simp [start, Nat.add_comm], by simp [start]; omega⟩, Position.shift_after _ _⟩

namespace Notation

theorem locate_relocate (origin : Place) (front : List Char) (ps : List Piece) :
    locate (origin.after front) ps = (locate (Place.start.after front) ps).map (·.relocate origin) := by
  induction ps generalizing front with
  | nil => rfl
  | cons p ps ih =>
      rw [locate, locate, List.map_cons, ← Place.after_append, ← Place.after_append, ih, Token.relocate,
        Place.relocate_covering]

/-- The tokens of a text at some origin are those of the text by itself, moved there. -/
theorem scan_relocate (origin : Place) (text : List Char) :
    scan origin text = (scan .start text).map (·.relocate origin) := by
  have located := locate_relocate origin [] (joinUnexpected (pieces text))
  rw [Place.after_nil, Place.after_nil] at located
  rw [scan, scan, located, List.filter_map]
  rfl

end Notation

/-- Moves locations from the start of a text to the origin. -/
def Move.to (origin : Place) : Move := ⟨(· + origin.offset), origin.position.shift⟩

theorem CompileError.move_to (origin : Place) (e : CompileError) : e.move (.to origin) = e.relocate origin := by
  cases e <;> rfl

mutual

theorem Symbol.move_to (origin : Place) : ∀ symbol : Symbol, symbol.move (.to origin) = symbol.relocate origin
  | .stray _ => by
      rw [Symbol.move, Symbol.relocate]
      rfl
  | .group alternatives => by
      rw [Symbol.move, Symbol.relocate, moveAlternatives_to origin alternatives]
  | .literal _ | .tokens _ _ _ | .subrule _ | .definition _ => by rw [Symbol.move, Symbol.relocate]

theorem moveAlternatives_to (origin : Place) :
    ∀ alternatives, moveAlternatives (.to origin) alternatives = relocateAlternatives origin alternatives
  | [] => by rw [moveAlternatives, relocateAlternatives]
  | symbols :: rest => by
      rw [moveAlternatives, relocateAlternatives, moveSymbols_to origin symbols,
        moveAlternatives_to origin rest]

theorem moveSymbols_to (origin : Place) :
    ∀ symbols, moveSymbols (.to origin) symbols = relocateSymbols origin symbols
  | [] => by rw [moveSymbols, relocateSymbols]
  | symbol :: rest => by
      rw [moveSymbols, relocateSymbols, symbol.move_to origin, moveSymbols_to origin rest]

end

theorem Compiled.move_to (origin : Place) (x : Compiled Recognizer) :
    x.move (.to origin) (Recognizer.move (.to origin)) = x.relocate origin (Recognizer.relocate origin) := by
  rcases x with ⟨warnings, e | r⟩
  · simp only [move, relocate, CompileError.move_to]
    rfl
  · simp only [move, relocate, Recognizer.move, Recognizer.relocate, moveAlternatives_to]
    rfl

/-- A line at some origin gives what it gives at the start of a text, moved to the origin. -/
theorem Recognizer.ofLine_relocate (origin : Place) (line : List Char) :
    ofLine origin line = (ofLine .start line).relocate origin (Recognizer.relocate origin) := by
  have moved := ofTokens_move (.to origin) ((Place.start.after line).covering []) (Notation.scan .start line)
  rw [Compiled.move_to] at moved
  rw [ofLine, ofLine, ← moved, Notation.scan_relocate, ← Place.relocate_covering]
  rfl

end TokenGrammar
