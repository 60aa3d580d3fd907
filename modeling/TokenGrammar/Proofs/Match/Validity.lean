import Mathlib
import TokenGrammar.Proofs.Grammar.File
import TokenGrammar.Proofs.Match.Faults

/-!
# Runs of valid grammars

Stray symbols and references to nothing are the only causes of a failure inside a run, so a grammar
without them fails at limits only, or at a token of the program that no rule takes. A file that is valid
when warnings count has no strays; what its references name is not part of its validity.
-/
namespace TokenGrammar

namespace Grammar

/-- Every reference in a stored recognizer, at any depth, names an entry of its namespace. -/
def Closed (g : Grammar) : Prop :=
  ∀ n, ∀ r ∈ g.table n,
    (∀ name, Occurs (.subrule name) r.alternatives → g.lookup .rules name ≠ none) ∧
    (∀ name, Occurs (.definition name) r.alternatives → g.lookup .definitions name ≠ none)

/-- No stored recognizer holds a stray symbol at any depth. -/
def Strayless (g : Grammar) : Prop :=
  ∀ n, ∀ r ∈ g.table n, ∀ token, ¬ Occurs (.stray token) r.alternatives

variable {g : Grammar} {e : RuntimeError}

theorem Strayless.not_unsupported (h : g.Strayless) (hf : g.Faulty e) (rule : String)
    (token : Notation.Token) : e ≠ .unsupportedSymbol rule token := by
  obtain ⟨n, r, hr, symbol, ho, hs⟩ := hf
  rintro rfl
  cases hs with
  | stray => exact h n r hr token ho

theorem Strayless.not_faulty (h : g.Strayless) (hc : g.Closed) : ¬ g.Faulty e := by
  rintro ⟨n, r, hr, symbol, ho, hs⟩
  cases hs with
  | subrule hl => exact (hc n r hr).1 _ ho hl
  | definition hl => exact (hc n r hr).2 _ ho hl
  | stray token => exact h n r hr token ho

end Grammar

namespace Machine

/-- With the grammar of a strictly valid file, no run ever reaches a stray symbol. If the grammar is
closed besides, a recognition fails at limits only, and a parse there or at a token without a rule. -/
theorem errors_of_strictly_valid {source : String}
    (hv : (GrammarFile.parse source).isValid true = true) {σ : Type} {m : Machine σ}
    (hm : m.grammar = (GrammarFile.parse source).grammar) (tokens : List Token) (log : σ)
    (e : RuntimeError) :
    (∀ space name, (m.recognize space name tokens log).outcome = .error e →
      (∀ rule token, e ≠ .unsupportedSymbol rule token) ∧
      (m.grammar.Closed → m.grammar.lookup space name ≠ none → e.isLimit = true)) ∧
    ((m.parse tokens log).outcome = .error e →
      (∀ rule token, e ≠ .unsupportedSymbol rule token) ∧
      (m.grammar.Closed →
        e.isLimit = true ∨ ∃ token furthest, e = .unexpectedToken token furthest)) := by
  have strayless : m.grammar.Strayless := by
    rw [hm]
    exact fun n r hr => GrammarFile.not_occurs_stray hv hr
  constructor
  · intro space name h
    rcases cause_of_recognize h with limit | faulty | ⟨missing, rfl⟩
    · refine ⟨?_, fun _ _ => limit⟩
      rintro rule token rfl
      cases limit
    · exact ⟨strayless.not_unsupported faulty, fun hc _ => (strayless.not_faulty hc faulty).elim⟩
    · exact ⟨fun _ _ => nofun, fun _ found => absurd missing found⟩
  · intro h
    rcases cause_of_parse h with limit | faulty | ⟨token, furthest, rfl⟩
    · refine ⟨?_, fun _ => .inl limit⟩
      rintro rule token rfl
      cases limit
    · exact ⟨strayless.not_unsupported faulty, fun hc => (strayless.not_faulty hc faulty).elim⟩
    · exact ⟨fun _ _ => nofun, fun _ => .inr ⟨token, furthest, rfl⟩⟩

end Machine

namespace Brackets

def source : String := "rule nest = \"(\" @nest \")\" | ;\n"

theorem grammar_source : (GrammarFile.parse source).grammar = grammar := by cbv

theorem isValid_source : (GrammarFile.parse source).isValid true = true := by cbv

theorem closed : grammar.Closed := by
  have flat (symbol : Symbol) (h : Occurs symbol [[.literal "(", .subrule "nest", .literal ")"], []]) :
      symbol = .literal "(" ∨ symbol = .subrule "nest" ∨ symbol = .literal ")" := by
    obtain ⟨symbols, ha, hs⟩ := h
    cases ha with
    | here member =>
        rcases List.mem_cons.mp member with rfl | last
        · simpa using hs
        · rw [List.mem_singleton.mp last] at hs
          cases hs
    | inside member hg _ =>
        rcases List.mem_cons.mp member with rfl | last
        · simp at hg
        · rw [List.mem_singleton.mp last] at hg
          cases hg
  intro n r hr
  cases n with
  | ignorations | definitions => cases hr
  | rules =>
      cases List.mem_singleton.mp hr
      constructor
      · intro name ho
        rcases flat _ ho with h | h | h
        · cases h
        · cases h
          exact nofun
        · cases h
      · intro name ho
        rcases flat _ ho with h | h | h <;> cases h

/-- An opening bracket alone is not taken, and five units of fuel are too few to take a pair. -/
theorem errors_of_brackets :
    (∃ e, ((machine .standard).parse [opening 0] ()).outcome = .error e ∧
      (e.isLimit = true ∨ ∃ token furthest, e = .unexpectedToken token furthest)) ∧
    ∃ e, ((machine ⟨5, 2⟩).recognize .rules "nest" tokens ()).outcome = .error e ∧
      e.isLimit = true := by
  have refused : ((machine .standard).parse [opening 0] ()).outcome =
      .error (.unexpectedToken (opening 0) none) := by with_unfolding_all rfl
  have cut : ((machine ⟨5, 2⟩).recognize .rules "nest" tokens ()).outcome =
      .error (.fuelExhausted 5) := by with_unfolding_all rfl
  constructor
  · exact ⟨_, refused, ((Machine.errors_of_strictly_valid isValid_source
      (m := machine .standard) grammar_source.symm [opening 0] () _).2 refused).2 closed⟩
  · exact ⟨_, cut, ((Machine.errors_of_strictly_valid isValid_source
      (m := machine ⟨5, 2⟩) grammar_source.symm tokens () _).1 .rules "nest" cut).2 closed nofun⟩

end Brackets

end TokenGrammar
