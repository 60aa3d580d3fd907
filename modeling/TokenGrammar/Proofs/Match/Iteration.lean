import TokenGrammar.Proofs.Grammar.Table
import TokenGrammar.Proofs.Match.Leaves

/-!
# Parsing as iterated recognition

A reference driver that starts every attempt anew: with all the fuel, a fresh log, and the tokens that
are left as the whole program. The parser shares fuel and log among its attempts and counts offsets
from the start of the program, which makes no difference unless the fuel runs out.
-/
namespace TokenGrammar

/-- The error without the report on the furthest failure. -/
def RuntimeError.unreported : RuntimeError → RuntimeError
  | unexpectedToken token _ => unexpectedToken token none
  | e => e

/-- Puts an expression in front of a program. -/
def Program.cons (s : Subtree) (p : Program) : Program := ⟨s :: p.expressions⟩

namespace Machine

variable {σ : Type}

/-- The first of the named rules that matches at least one token, each tried by itself. -/
def firstMatch (m : Machine σ) (log : σ) (tokens : List Token) :
    List String → Except RuntimeError (Option Subtree)
  | [] => .ok none
  | name :: others =>
    match (m.recognize .rules name tokens log).outcome with
    | .error e => .error e
    | .ok none => m.firstMatch log tokens others
    | .ok (some matched) =>
      if matched.width = 0 then m.firstMatch log tokens others
      else .ok (some (matched.expression name))

theorem width_pos_of_firstMatch {m : Machine σ} {log : σ} {tokens : List Token}
    {names : List String} {s : Subtree} (h : m.firstMatch log tokens names = .ok (some s)) :
    0 < s.width := by
  induction names with
  | nil => cases h
  | cons name others ih =>
      unfold firstMatch at h
      split at h
      · cases h
      · exact ih h
      · split at h
        · exact ih h
        · next positive =>
            cases h
            exact Nat.pos_of_ne_zero positive

/-- Takes one expression after the other off the front of the tokens. -/
def iterate (m : Machine σ) (log : σ) : List Token → Except RuntimeError Program
  | [] => .ok ⟨[]⟩
  | token :: rest =>
    match _ : m.firstMatch log (token :: rest) (m.grammar.rules.reverse.map (·.name)) with
    | .error e => .error e
    | .ok none => .error (.unexpectedToken token none)
    | .ok (some s) => (m.iterate log ((token :: rest).drop s.width)).map (.cons s)
termination_by tokens => tokens.length
decreasing_by
  have := width_pos_of_firstMatch (by assumption)
  simp only [List.length_drop, List.length_cons]
  omega

theorem iterate_cons (m : Machine σ) (log : σ) (token : Token) (rest : List Token) :
    m.iterate log (token :: rest) =
      match m.firstMatch log (token :: rest) (m.grammar.rules.reverse.map (·.name)) with
      | .error e => .error e
      | .ok none => .error (.unexpectedToken token none)
      | .ok (some s) => (m.iterate log ((token :: rest).drop s.width)).map (.cons s) := by
  rw [iterate]
  split
  · next h => rw [h]
  · next h => rw [h]
  · next h => rw [h]

end Machine

namespace Grammar

variable (g : Grammar) (limit : Nat)

theorem outcome_script (depth : Nat) (r : Recognizer) (offset : Nat) (input : List Token) :
    (g.script limit depth r offset input).outcome = (g.script limit depth r 0 input).outcome := by
  have moved := g.script_add limit depth r 0 offset input
  rw [Nat.zero_add] at moved
  rw [moved, Script.outcome_shift]

theorem cost_script (depth : Nat) (r : Recognizer) (offset : Nat) (input : List Token) :
    (g.script limit depth r offset input).cost = (g.script limit depth r 0 input).cost := by
  have moved := g.script_add limit depth r 0 offset input
  rw [Nat.zero_add] at moved
  rw [moved, Script.cost_shift]

/-- Behind its first expressions a script comes to the others. -/
theorem programScript_drop {offset : Nat} {tokens : List Token} {front back : List Subtree}
    {stuck : Option Token}
    (h : (g.programScript limit offset tokens).outcome = .ok (front ++ back, stuck)) :
    ∃ k, (g.programScript limit k (tokens.drop (Program.width ⟨front⟩))).outcome = .ok (back, stuck) ∧
      (g.programScript limit k (tokens.drop (Program.width ⟨front⟩))).cost ≤
        (g.programScript limit offset tokens).cost := by
  induction front generalizing offset tokens with
  | nil => exact ⟨offset, h, Nat.le_refl _⟩
  | cons s front ih =>
      obtain ⟨-, later, cheaper⟩ := next_of_programScript h
      obtain ⟨k, outcome, cost⟩ := ih later
      have behind : (tokens.drop s.width).drop (Program.width ⟨front⟩) =
          tokens.drop (Program.width ⟨s :: front⟩) := List.drop_drop
      rw [behind] at outcome cost
      exact ⟨k, outcome, Nat.le_trans cost cheaper⟩

end Grammar

namespace Machine

variable {σ : Type} (m : Machine σ)

theorem firstMatch_eq (offset : Nat) (tokens : List Token) (log : σ) {rules : List Recognizer}
    (hr : ∀ r ∈ rules, m.grammar.lookup .rules r.name = some r)
    (hc : Script.cost (m.grammar.evaluateRules m.limits.depth offset tokens rules) ≤ m.limits.fuel) :
    m.firstMatch log tokens (rules.map (·.name)) =
      (Script.outcome (m.grammar.evaluateRules m.limits.depth offset tokens rules)).map
        (Option.map fun found => found.2.expression found.1.name) := by
  induction rules with
  | nil => rfl
  | cons r others ih =>
      have hi := ih fun s member => hr s (List.mem_cons_of_mem r member)
      have first : (m.recognize .rules r.name tokens log).outcome =
          (m.grammar.script m.limits.depth 0 r offset tokens).outcome := by
        have enough := Nat.le_trans (Script.cost_le_cost_bind _ _) hc
        have moved := m.grammar.cost_script m.limits.depth 0 r offset tokens
        rw [recognize_of_lookup m (hr r List.mem_cons_self), Script.outcome_play,
          if_pos (Nat.le_trans (Nat.le_of_eq moved.symm) enough), ← Grammar.outcome_script]
      rw [List.map_cons, firstMatch, first]
      rw [Grammar.evaluateRules_cons] at hc ⊢
      cases hs : (m.grammar.script m.limits.depth 0 r offset tokens).outcome with
      | error e =>
          rw [Script.outcome_bind_of_error hs]
          rfl
      | ok result =>
          rw [Script.cost_bind_of_ok hs] at hc
          rw [Script.outcome_bind_of_ok hs]
          have rest := Nat.le_trans (Nat.le_add_left _ _) hc
          cases result with
          | none => exact hi rest
          | some matched =>
              by_cases hw : matched.width = 0
              · simp only [if_pos hw] at rest ⊢
                exact hi rest
              · simp only [if_neg hw]
                rfl

theorem conclude_cons (s : Subtree) (result : Except RuntimeError (List Subtree × Option Token)) :
    (conclude [] none result).map (.cons s) =
      conclude [] none (result.map fun others => (s :: others.1, others.2)) := by
  rcases result with e | ⟨others, _ | token⟩ <;> rfl

theorem unreported_conclude (furthest : Option Failure)
    (result : Except RuntimeError (List Subtree × Option Token)) :
    (conclude [] furthest result).mapError RuntimeError.unreported =
      (conclude [] none result).mapError RuntimeError.unreported := by
  rcases result with e | ⟨others, _ | token⟩ <;> rfl

theorem iterate_eq (hg : m.grammar.Defined) (offset : Nat) (tokens : List Token) (log : σ)
    (hc : (m.grammar.programScript m.limits.depth offset tokens).cost ≤ m.limits.fuel) :
    m.iterate log tokens =
      conclude [] none (m.grammar.programScript m.limits.depth offset tokens).outcome := by
  unfold Grammar.programScript at hc ⊢
  induction offset, tokens using Grammar.evaluateProgram.induct with
  | case1 offset =>
      rw [iterate, Grammar.evaluateProgram]
      rfl
  | case2 offset token rest ih =>
      have known : ∀ r ∈ m.grammar.rules.reverse, m.grammar.lookup .rules r.name = some r :=
        fun r member => hg.lookup_of_mem (List.mem_reverse.mp member)
      rw [Grammar.evaluateProgram] at hc ⊢
      have enough := Nat.le_trans (Script.cost_le_cost_bind _ _) hc
      rw [iterate_cons, m.firstMatch_eq offset (token :: rest) log known enough]
      cases hf : Script.outcome (m.grammar.evaluateRules m.limits.depth offset (token :: rest)
          m.grammar.rules.reverse) with
      | error e =>
          rw [Script.outcome_bind_of_error hf]
          rfl
      | ok found =>
          rw [Script.cost_bind_of_ok hf] at hc
          rw [Script.outcome_bind_of_ok hf]
          cases found with
          | none => rfl
          | some found =>
              have positive := (Grammar.script_of_evaluateRules hf).2.1
              have behind : (token :: rest).drop found.2.width = rest.drop (found.2.width - 1) :=
                List.drop_cons positive
              have others := ih found.2 (Nat.le_trans (Script.cost_le_cost_bind _ _)
                (Nat.le_trans (Nat.le_add_left _ _) hc))
              change (m.iterate log ((token :: rest).drop found.2.width)).map
                (Program.cons (found.2.expression found.1.name)) = _
              rw [behind, others, conclude_cons, ← Script.outcome_bind_pure]
              rfl

/-- A parse that no limit ends comes to what recognizing the rules over and over comes to, on what is
left of the tokens. A recognizer matches the same wherever the tokens stand, and a parsed program can be
parsed from any expression on. -/
theorem parse_iterates (hg : m.grammar.Defined) (tokens : List Token) (log log' : σ) :
    ((∀ e, (m.parse tokens log).outcome = .error e → e.isLimit = false) →
      (m.parse tokens log).outcome.mapError RuntimeError.unreported =
        (m.iterate log' tokens).mapError RuntimeError.unreported) ∧
    (∀ r offset fuel, (m.invoke r offset (tokens.drop offset) fuel log).outcome =
      (m.invoke r 0 (tokens.drop offset) fuel log').outcome) ∧
    ∀ front back, (m.parse tokens log).outcome = .ok ⟨front ++ back⟩ →
      (m.parse (tokens.drop (Program.width ⟨front⟩)) log').outcome = .ok ⟨back⟩ := by
  refine ⟨?_, ?_, ?_⟩
  · intro unlimited
    by_cases hc : (m.grammar.programScript m.limits.depth 0 tokens).cost ≤ m.limits.fuel
    · rw [m.outcome_parse_of_cost_le log hc, m.iterate_eq hg 0 tokens log' hc, unreported_conclude]
    · cases unlimited _ (m.outcome_parse_of_lt_cost log (Nat.lt_of_not_le hc))
  · intro r offset fuel
    rw [Script.invoke_eq_play, Script.invoke_eq_play, Script.outcome_play, Script.outcome_play,
      Grammar.outcome_script, Grammar.cost_script]
  · intro front back h
    obtain ⟨enough, outcome⟩ := programScript_of_parse h
    obtain ⟨k, later, cheaper⟩ := Grammar.programScript_drop _ _ outcome
    have moved := m.grammar.programScript_add m.limits.depth 0 k
      (tokens.drop (Program.width ⟨front⟩))
    rw [Nat.zero_add] at moved
    rw [moved, Script.outcome_shift] at later
    rw [moved, Script.cost_shift] at cheaper
    rw [m.outcome_parse_of_cost_le log' (Nat.le_trans cheaper enough), later]
    rfl

end Machine

namespace Brackets

open Recognizer in
theorem defined : grammar.Defined := by
  have scanned : Notation.scan ⟨0, ⟨1, 1⟩⟩ "nest = \"(\" @nest \")\" |".toList =
      [⟨.name, "nest", ⟨⟨0, 4⟩, ⟨1, 1⟩⟩⟩, ⟨.assignment, "=", ⟨⟨5, 6⟩, ⟨1, 6⟩⟩⟩,
        ⟨.literal, "\"(\"", ⟨⟨7, 10⟩, ⟨1, 8⟩⟩⟩, ⟨.subruleRef, "@nest", ⟨⟨11, 16⟩, ⟨1, 12⟩⟩⟩,
        ⟨.literal, "\")\"", ⟨⟨17, 20⟩, ⟨1, 18⟩⟩⟩, ⟨.alternator, "|", ⟨⟨21, 22⟩, ⟨1, 22⟩⟩⟩] := by
    decide +kernel
  have declared : Grammar.empty.define .rules ⟨0, ⟨1, 1⟩⟩ "nest = \"(\" @nest \")\" |".toList =
      .ok (⟨"nest", [[.literal "(", .subrule "nest", .literal ")"], []]⟩, grammar) := by
    rw [Grammar.define, ofLine, scanned]
    generalize (Place.after ⟨0, ⟨1, 1⟩⟩ _).covering [] = stop
    cbv
  exact .define .empty declared

theorem parse_iterates_pairs :
    ((machine .standard).parse tokens ()).outcome.mapError RuntimeError.unreported =
      ((machine .standard).iterate () tokens).mapError RuntimeError.unreported ∧
    ((machine .standard).parse [opening 2, closing 3] ()).outcome =
      .ok ⟨[(pair 2).expression "nest"]⟩ := by
  have parsed : ((machine .standard).parse tokens ()).outcome =
      .ok ⟨[(pair 0).expression "nest"] ++ [(pair 2).expression "nest"]⟩ := by
    with_unfolding_all rfl
  obtain ⟨iterates, -, behind⟩ := Machine.parse_iterates (machine .standard) defined tokens () ()
  refine ⟨iterates ?_, behind _ _ parsed⟩
  intro e h
  rw [parsed] at h
  cases h

end Brackets

end TokenGrammar
