import TokenGrammar.Proofs.Match.Leaves
import TokenGrammar.Proofs.Recognizer.Depth

/-!
# What makes a run fail

An error that is neither a limit nor a token without a rule has a cause in the grammar: a stray symbol,
or a reference to nothing, that stands in the recognizer that was asked for or in a stored one.
-/
namespace TokenGrammar

namespace Grammar

/-- The error that a symbol makes wherever it is reached in the rule. -/
inductive Faults (g : Grammar) (rule : String) : Symbol → RuntimeError → Prop
  | subrule {name : String} : g.lookup .rules name = none →
      Faults g rule (.subrule name) (.undefinedRule .rules name)
  | definition {name : String} : g.lookup .definitions name = none →
      Faults g rule (.definition name) (.undefinedRule .definitions name)
  | stray (token : Notation.Token) : Faults g rule (.stray token) (.unsupportedSymbol rule token)

/-- A symbol of the recognizer makes the error. -/
def FaultyIn (g : Grammar) (r : Recognizer) (e : RuntimeError) : Prop :=
  ∃ symbol, Occurs symbol r.alternatives ∧ g.Faults r.name symbol e

/-- A symbol of a stored recognizer makes the error. -/
def Faulty (g : Grammar) (e : RuntimeError) : Prop := ∃ n, ∃ r ∈ g.table n, g.FaultyIn r e

theorem mem_table_of_lookup {g : Grammar} {n : Namespace} {name : String} {r : Recognizer}
    (h : g.lookup n name = some r) : r ∈ g.table n :=
  List.mem_of_find?_eq_some h

/-- Where the error of a recognizer's evaluation can come from. -/
inductive Caused (g : Grammar) (limit : Nat) (rule : String) (alternatives : List Alternative) :
    RuntimeError → Prop
  | limit : Caused g limit rule alternatives (.recursionLimitExceeded limit)
  | here {e : RuntimeError} : g.FaultyIn ⟨rule, alternatives⟩ e → Caused g limit rule alternatives e
  | stored {e : RuntimeError} : g.Faulty e → Caused g limit rule alternatives e

theorem Caused.mono {g : Grammar} {limit : Nat} {rule : String} {alternatives others : List Alternative}
    {e : RuntimeError} (h : g.Caused limit rule alternatives e)
    (hm : ∀ symbol, Occurs symbol alternatives → Occurs symbol others) :
    g.Caused limit rule others e := by
  cases h with
  | limit => exact .limit
  | here hf =>
      obtain ⟨symbol, ho, hs⟩ := hf
      exact .here ⟨symbol, hm symbol ho, hs⟩
  | stored hf => exact .stored hf

/-- In a stored recognizer every cause is a stored one. -/
theorem Caused.of_mem {g : Grammar} {limit : Nat} {n : Namespace} {r : Recognizer} {e : RuntimeError}
    (hr : r ∈ g.table n) (h : g.Caused limit r.name r.alternatives e) :
    e = .recursionLimitExceeded limit ∨ g.Faulty e := by
  cases h with
  | limit => exact .inl rfl
  | here hf => exact .inr ⟨n, r, hr, hf⟩
  | stored hf => exact .inr hf

variable {g : Grammar} {limit : Nat}

section Call

variable {call : Recognizer → Nat → List Token → Script (Option Matched)}
  (hc : ∀ r offset input e, (call r offset input).outcome = .error e →
    g.Caused limit r.name r.alternatives e)

include hc

theorem cause_of_evaluateReference {space : Namespace} {name : String} {cursor : Nat}
    {rest : List Token} {e : RuntimeError}
    (h : (g.evaluateReference call space name cursor rest).outcome = .error e) :
    (g.lookup space name = none ∧ e = .undefinedRule space name) ∨
      e = .recursionLimitExceeded limit ∨ g.Faulty e := by
  unfold evaluateReference at h
  cases hl : g.lookup space name with
  | none =>
      rw [hl] at h
      cases h
      exact .inl ⟨rfl, rfl⟩
  | some r =>
      rw [hl] at h
      rcases Script.outcome_bind_eq_error.mp h with hr | ⟨_, -, hp⟩
      · exact .inr (Caused.of_mem (mem_table_of_lookup hl) (hc r cursor rest e hr))
      · cases hp

theorem caused_of_evaluateSymbol {rule : String} {cursor : Nat} {rest : List Token}
    {symbol : Symbol} {e : RuntimeError}
    (h : (g.evaluateSymbol call rule cursor rest symbol).outcome = .error e) :
    g.Caused limit rule [[symbol]] e := by
  have own : Occurs symbol [[symbol]] := .of_mem List.mem_cons_self List.mem_cons_self
  cases symbol with
  | literal text =>
      cases rest with
      | nil => cases h
      | cons token rest =>
          by_cases hl : token.lexeme = text
          · simp only [evaluateSymbol, if_pos hl] at h
            cases h
          · simp only [evaluateSymbol, if_neg hl] at h
            cases h
  | tokens kind quantifier explicit =>
      by_cases hl : (kindRun kind quantifier rest).length < quantifier.least
      · simp only [evaluateSymbol, if_pos hl] at h
        cases h
      · simp only [evaluateSymbol, if_neg hl] at h
        cases h
  | subrule name =>
      rcases cause_of_evaluateReference hc h with ⟨hl, rfl⟩ | rfl | hf
      · exact .here ⟨_, own, .subrule hl⟩
      · exact .limit
      · exact .stored hf
  | definition name =>
      rcases cause_of_evaluateReference hc h with ⟨hl, rfl⟩ | rfl | hf
      · exact .here ⟨_, own, .definition hl⟩
      · exact .limit
      · exact .stored hf
  | group alternatives =>
      rcases Script.outcome_bind_eq_error.mp h with hr | ⟨_, -, hp⟩
      · refine (hc ⟨rule, alternatives⟩ cursor rest e hr).mono fun symbol ho => ?_
        exact ho.of_group List.mem_cons_self List.mem_cons_self
      · cases hp
  | stray token =>
      cases h
      exact .here ⟨_, own, .stray token⟩

theorem caused_of_evaluateSymbols {rule : String} {symbols : List Symbol} {cursor : Nat}
    {rest : List Token} {e : RuntimeError}
    (h : (g.evaluateSymbols call rule symbols cursor rest).outcome = .error e) :
    g.Caused limit rule [symbols] e := by
  induction symbols generalizing cursor rest with
  | nil => cases h
  | cons symbol symbols ih =>
      simp only [evaluateSymbols, Script.outcome_spend_bind] at h
      rcases Script.outcome_bind_eq_error.mp h with hs | ⟨part, -, hn⟩
      · refine (caused_of_evaluateSymbol hc hs).mono fun _ ho => ho.of_part List.mem_cons_self ?_
        exact List.cons_subset_cons symbol (List.nil_subset symbols)
      · cases part with
        | none => cases hn
        | some part =>
            rcases Script.outcome_bind_eq_error.mp hn with ho | ⟨_, -, hp⟩
            · refine (ih ho).mono fun _ ho => ho.of_part List.mem_cons_self ?_
              exact List.subset_cons_self symbol symbols
            · cases hp

theorem caused_of_evaluateAlternatives {rule : String} {offset index : Nat} {input : List Token}
    {alternatives : List Alternative} {e : RuntimeError}
    (h : (g.evaluateAlternatives call rule offset input index alternatives).outcome = .error e) :
    g.Caused limit rule alternatives e := by
  induction alternatives generalizing index with
  | nil => cases h
  | cons symbols others ih =>
      simp only [evaluateAlternatives, Script.outcome_note_bind] at h
      rcases Script.outcome_bind_eq_error.mp h with hs | ⟨result, -, hn⟩
      · refine (caused_of_evaluateSymbols hc hs).mono fun _ ho => ?_
        exact ho.of_part List.mem_cons_self (List.Subset.refl symbols)
      · cases result with
        | none =>
            simp only [Script.outcome_note_bind] at hn
            refine (ih hn).mono fun _ ho => ho.mono ?_
            intro other later s member
            exact ⟨other, List.mem_cons_of_mem symbols later, member⟩
        | some matched => cases hn

end Call

theorem caused_of_script {depth : Nat} {r : Recognizer} {offset : Nat} {input : List Token}
    {e : RuntimeError} (h : (g.script limit depth r offset input).outcome = .error e) :
    g.Caused limit r.name r.alternatives e := by
  induction depth, r, offset, input using evaluate.induct limit generalizing e with
  | case1 depth r offset input hd =>
      rw [script_eq, if_pos hd] at h
      cases h
      exact .limit
  | case2 depth r offset input hd ih =>
      rw [script_eq, if_neg hd] at h
      simp only [Script.outcome_spend_bind, Script.outcome_note_bind] at h
      rcases Script.outcome_bind_eq_error.mp h with ha | ⟨_, -, hp⟩
      · exact caused_of_evaluateAlternatives (fun r offset input _ h => ih r offset input h) ha
      · cases hp

theorem cause_of_evaluateRules {offset : Nat} {input : List Token} {rules : List Recognizer}
    (hr : ∀ r ∈ rules, r ∈ g.rules) {e : RuntimeError}
    (h : Script.outcome (g.evaluateRules limit offset input rules) = .error e) :
    e = .recursionLimitExceeded limit ∨ g.Faulty e := by
  induction rules with
  | nil => cases h
  | cons r others ih =>
      have later := ih fun s member => hr s (List.mem_cons_of_mem r member)
      rcases Script.outcome_bind_eq_error.mp h with hs | ⟨result, -, ho⟩
      · exact Caused.of_mem (n := .rules) (hr r List.mem_cons_self) (caused_of_script hs)
      · cases result with
        | none => exact later ho
        | some matched =>
            by_cases hw : matched.width = 0
            · simp only [if_pos hw] at ho
              exact later ho
            · simp only [if_neg hw] at ho
              cases ho

theorem cause_of_programScript {offset : Nat} {tokens : List Token} {e : RuntimeError}
    (h : (g.programScript limit offset tokens).outcome = .error e) :
    e = .recursionLimitExceeded limit ∨ g.Faulty e := by
  unfold programScript at h
  induction offset, tokens using evaluateProgram.induct with
  | case1 offset =>
      rw [evaluateProgram] at h
      cases h
  | case2 offset token rest ih =>
      rw [evaluateProgram] at h
      rcases Script.outcome_bind_eq_error.mp h with hf | ⟨found, -, ho⟩
      · exact cause_of_evaluateRules (fun r member => List.mem_reverse.mp member) hf
      · rcases found with _ | ⟨r, matched⟩
        · cases ho
        · simp only [Script.outcome_note_bind] at ho
          rcases Script.outcome_bind_eq_error.mp ho with hs | ⟨_, -, hp⟩
          · exact ih matched hs
          · cases hp

end Grammar

namespace Machine

variable {σ : Type} {m : Machine σ} {tokens : List Token} {log : σ} {e : RuntimeError}

/-- A recognition fails at a limit, at a name that leads nowhere, or at a faulty symbol. -/
theorem cause_of_recognize {space : Namespace} {name : String}
    (h : (m.recognize space name tokens log).outcome = .error e) :
    e.isLimit = true ∨ m.grammar.Faulty e ∨
      (m.grammar.lookup space name = none ∧ e = .undefinedRule space name) := by
  cases hr : m.grammar.lookup space name with
  | none =>
      rw [recognize, hr] at h
      cases h
      exact .inr (.inr ⟨rfl, rfl⟩)
  | some r =>
      rw [recognize_of_lookup m hr, Script.outcome_play] at h
      split at h
      · rcases (Grammar.caused_of_script h).of_mem (Grammar.mem_table_of_lookup hr) with rfl | hf
        · exact .inl rfl
        · exact .inr (.inl hf)
      · cases h
        exact .inl rfl

/-- A parse fails at a limit, at a faulty symbol, or at a token where no rule advances. -/
theorem cause_of_parse (h : (m.parse tokens log).outcome = .error e) :
    e.isLimit = true ∨ m.grammar.Faulty e ∨ ∃ token furthest, e = .unexpectedToken token furthest := by
  by_cases hc : (m.grammar.programScript m.limits.depth 0 tokens).cost ≤ m.limits.fuel
  · rw [m.outcome_parse_of_cost_le log hc] at h
    rcases hs : (m.grammar.programScript m.limits.depth 0 tokens).outcome with
      e' | ⟨expressions, _ | token⟩
    · rw [hs] at h
      cases h
      rcases Grammar.cause_of_programScript hs with rfl | hf
      · exact .inl rfl
      · exact .inr (.inl hf)
    · rw [hs] at h
      cases h
    · rw [hs] at h
      cases h
      exact .inr (.inr ⟨token, _, rfl⟩)
  · rw [m.outcome_parse_of_lt_cost log (Nat.lt_of_not_le hc)] at h
    cases h
    exact .inl rfl

end Machine

end TokenGrammar
