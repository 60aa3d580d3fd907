import TokenGrammar.Proofs.Grammar.Table
import TokenGrammar.Proofs.Match.Choice
import TokenGrammar.Proofs.Recognizer.Depth

/-!
# Definitions that start with themselves

The check against left recursion knows how a rule refers to itself, and checks a line for just that in whichever
namespace it is stored. So a definition may start with a reference to itself. Main statement: where a run comes to
that reference, the definition is entered again and no token is taken, until a limit ends the run; there is
nothing that it could answer.
-/
namespace TokenGrammar

namespace Grammar

/-- Ordered choice comes to an alternative that starts with the symbol: it is one of the alternatives or of a
group at the front of one, and all those before it fail. -/
inductive ComesTo (g : Grammar) (input : List Token) (symbol : Symbol) : List Alternative → Prop
  | here (symbols : Alternative) (others : List Alternative) :
      ComesTo g input symbol ((symbol :: symbols) :: others)
  | inside {inner : List Alternative} (symbols : Alternative) (others : List Alternative) :
      ComesTo g input symbol inner → ComesTo g input symbol ((.group inner :: symbols) :: others)
  | next {symbols : Alternative} {others : List Alternative} :
      g.Follows symbols input none → ComesTo g input symbol others →
      ComesTo g input symbol (symbols :: others)

variable {g : Grammar} {input : List Token} {limit : Nat}

/-- If the symbol only ever runs into the depth limit, so do the alternatives that come to it. -/
theorem ComesTo.exceeds {symbol : Symbol} {alternatives : List Alternative}
    (h : g.ComesTo input symbol alternatives) {depth : Nat}
    (symbol_exceeds : ∀ deeper, depth ≤ deeper → ∀ rule cursor,
      (g.evaluateSymbol (g.script limit deeper) rule cursor input symbol).outcome =
        .error (.recursionLimitExceeded limit))
    (rule : String) (offset index : Nat) :
    (g.evaluateAlternatives (g.script limit depth) rule offset input index alternatives).outcome =
      .error (.recursionLimitExceeded limit) := by
  induction h generalizing depth rule offset index with
  | here symbols others =>
      have first := symbol_exceeds depth (Nat.le_refl _) rule offset
      rw [evaluateAlternatives, Script.outcome_note_bind, evaluateSymbols]
      refine Script.outcome_bind_of_error ?_ _
      rw [Script.outcome_spend_bind]
      exact Script.outcome_bind_of_error first _
  | @inside inner symbols others _ ih =>
      have group : (g.script limit depth ⟨rule, inner⟩ offset input).outcome =
          .error (.recursionLimitExceeded limit) := by
        rw [script_eq]
        split
        · rfl
        · rw [Script.outcome_spend_bind, Script.outcome_note_bind]
          exact Script.outcome_bind_of_error
            (ih (fun deeper below => symbol_exceeds deeper (Nat.le_of_succ_le below)) rule offset 0) _
      rw [evaluateAlternatives, Script.outcome_note_bind, evaluateSymbols]
      refine Script.outcome_bind_of_error ?_ _
      rw [Script.outcome_spend_bind, evaluateSymbol]
      exact Script.outcome_bind_of_error (Script.outcome_bind_of_error group _) _
  | next fails _ ih =>
      rw [evaluateAlternatives, Script.outcome_note_bind]
      obtain ⟨levels, cost, settled⟩ := fails.settles rule offset
      -- The alternatives before may need more levels than there are, which ends in the same error.
      rcases settled.otherwise limit depth with done | exceeded
      · rw [Script.outcome_bind_of_ok done, Script.outcome_note_bind]
        exact ih symbol_exceeds rule offset (index + 1)
      · exact Script.outcome_bind_of_error exceeded _

variable {r : Recognizer}

/-- The definition invokes itself one level deeper, at the same tokens. -/
theorem ComesTo.script_exceeds (hr : g.lookup .definitions r.name = some r)
    (h : g.ComesTo input (.definition r.name) r.alternatives) (depth offset : Nat) :
    (g.script limit depth r offset input).outcome = .error (.recursionLimitExceeded limit) := by
  obtain ⟨levels, enough⟩ : ∃ levels, limit ≤ depth + levels := ⟨limit, Nat.le_add_left _ _⟩
  induction levels generalizing depth offset with
  | zero =>
      rw [script_eq, if_pos (show limit ≤ depth from enough)]
      rfl
  | succ levels ih =>
      rw [script_eq]
      split
      · rfl
      · rw [Script.outcome_spend_bind, Script.outcome_note_bind]
        refine Script.outcome_bind_of_error (h.exceeds ?_ r.name offset 0) _
        intro deeper below rule cursor
        rw [evaluateSymbol, evaluateReference, hr]
        exact Script.outcome_bind_of_error (ih deeper cursor (by omega)) _

theorem ComesTo.not_chooses (hr : g.lookup .definitions r.name = some r)
    (h : g.ComesTo input (.definition r.name) r.alternatives) (result : Option Matched) :
    ¬ g.Chooses r.alternatives input result := by
  intro chooses
  obtain ⟨levels, cost, settled⟩ := settles_script chooses.settles 0
  have done := settled.outcome (Nat.le_refl (levels + 0))
  rw [h.script_exceeds hr] at done
  cases done

end Grammar

namespace Machine

/-- A definition of a grammar that was made by declarations may start with itself. Then nothing is derived where
it comes to that, and recognizing it can only end at a limit. -/
theorem limit_of_selfInvocation {σ : Type} {m : Machine σ} (hg : m.grammar.Defined) {r : Recognizer}
    (hr : r ∈ m.grammar.table .definitions) {tokens : List Token}
    (h : m.grammar.ComesTo tokens (.definition r.name) r.alternatives) (log : σ) :
    (∀ result, ¬ m.grammar.Contributes (.definition r.name) tokens result) ∧
      ((m.recognize .definitions r.name tokens log).outcome =
          .error (.recursionLimitExceeded m.limits.depth) ∨
        (m.recognize .definitions r.name tokens log).outcome = .error (.fuelExhausted m.limits.fuel)) := by
  have stored := hg.lookup_of_mem hr
  constructor
  · intro result contributes
    cases contributes with
    | definition found chooses =>
        obtain rfl := Option.some.inj (stored.symm.trans found)
        exact h.not_chooses stored _ chooses
  · rw [recognize_of_lookup m stored, Script.outcome_play, h.script_exceeds stored]
    split
    · exact .inl rfl
    · exact .inr rfl

end Machine

namespace SelfInvocation

def definition : Recognizer := ⟨"A", [[.definition "A"]]⟩

def grammar : Grammar := ⟨[], [definition], [], []⟩

/-- The line `A = #A;` is accepted as a definition. -/
theorem define_definition :
    Grammar.empty.define .definitions .start "A = #A;".toList = .ok (definition, grammar) := by
  have scanned : Notation.scan .start "A = #A;".toList =
      [⟨.name, "A", ⟨⟨0, 1⟩, ⟨1, 1⟩⟩⟩, ⟨.assignment, "=", ⟨⟨2, 3⟩, ⟨1, 3⟩⟩⟩,
        ⟨.definitionRef, "#A", ⟨⟨4, 6⟩, ⟨1, 5⟩⟩⟩, ⟨.terminator, ";", ⟨⟨6, 7⟩, ⟨1, 7⟩⟩⟩] := by
    decide +kernel
  rw [Grammar.define, Recognizer.ofLine, scanned]
  generalize (Place.after .start _).covering [] = stop
  cbv

theorem defined : grammar.Defined := .define .empty define_definition

/-- So a stored definition may have an alternative that starts with the definition itself. -/
theorem startsWithDefinition_of_defined :
    ¬ ∀ g : Grammar, g.Defined → ∀ r ∈ g.table .definitions, ∀ symbols,
      HasAlternative r.alternatives symbols → symbols.head? ≠ some (.definition r.name) := by
  intro never
  exact never grammar defined definition List.mem_cons_self [.definition "A"] (.here List.mem_cons_self) rfl

theorem limit_of_definition :
    ((⟨grammar, .standard, .silent⟩ : Machine Unit).recognize .definitions "A" Brackets.tokens ()).outcome =
        .error (.recursionLimitExceeded 1024) ∨
      ((⟨grammar, .standard, .silent⟩ : Machine Unit).recognize .definitions "A" Brackets.tokens ()).outcome =
        .error (.fuelExhausted 1000000) :=
  (Machine.limit_of_selfInvocation (m := ⟨grammar, .standard, .silent⟩) defined List.mem_cons_self
    (.here [] []) ()).2

end SelfInvocation

end TokenGrammar
