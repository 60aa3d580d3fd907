import TokenGrammar.Proofs.Match.Script

/-!
# Scripts of whole programs

Parsing a program plays one script, too. All attempts are in it, so they share the fuel and the log
without saying so.
-/
namespace TokenGrammar

/-- The expression that a match of a named rule makes. -/
def Matched.expression (name : String) (matched : Matched) : Subtree :=
  ⟨some name, matched.width, matched.nodes⟩

namespace Grammar

/-- What parsing the tokens from `offset` on does. -/
def programScript (g : Grammar) (limit offset : Nat) (tokens : List Token) :
    Script (List Subtree × Option Token) :=
  g.evaluateProgram limit offset tokens

theorem programScript_add (g : Grammar) (limit offset k : Nat) (tokens : List Token) :
    g.programScript limit (offset + k) tokens = (g.programScript limit offset tokens).shift k :=
  (Script.shifting limit k).evaluateProgram g offset tokens

variable {g : Grammar} {limit offset : Nat}

theorem evaluateRules_cons (input : List Token) (r : Recognizer) (others : List Recognizer) :
    g.evaluateRules limit offset input (r :: others) =
      (g.script limit 0 r offset input >>= fun result =>
        match result with
        | some matched =>
          if matched.width = 0 then g.evaluateRules limit offset input others
          else pure (some (r, matched))
        | none => g.evaluateRules limit offset input others) := rfl

theorem script_of_evaluateRules {input : List Token} {rules : List Recognizer} {r : Recognizer}
    {matched : Matched}
    (h : Script.outcome (g.evaluateRules limit offset input rules) = .ok (some (r, matched))) :
    r ∈ rules ∧ 0 < matched.width ∧
      (g.script limit 0 r offset input).outcome = .ok (some matched) := by
  induction rules with
  | nil => cases h
  | cons first others ih =>
      have later (ho : Script.outcome (g.evaluateRules limit offset input others) =
          .ok (some (r, matched))) : r ∈ first :: others ∧ 0 < matched.width ∧
            (g.script limit 0 r offset input).outcome = .ok (some matched) :=
        ⟨List.mem_cons_of_mem first (ih ho).1, (ih ho).2⟩
      obtain ⟨result, hr, ho⟩ := Script.outcome_bind_eq_ok.mp h
      cases result with
      | none => exact later ho
      | some found =>
          by_cases hw : found.width = 0
          · simp only [if_pos hw] at ho
            exact later ho
          · simp only [if_neg hw] at ho
            cases ho
            exact ⟨List.mem_cons_self, Nat.pos_of_ne_zero hw, hr⟩

/-- A script without expressions that is not stuck has had no tokens. -/
theorem eq_nil_of_programScript {tokens : List Token}
    (h : (g.programScript limit offset tokens).outcome = .ok ([], none)) : tokens = [] := by
  cases tokens with
  | nil => rfl
  | cons token rest =>
      rw [programScript, evaluateProgram] at h
      obtain ⟨_ | ⟨r, matched⟩, -, ho⟩ := Script.outcome_bind_eq_ok.mp h
      · cases ho
      · simp only [Script.outcome_note_bind] at ho
        obtain ⟨others, -, he⟩ := Script.outcome_bind_eq_ok.mp ho
        cases he

/-- A script's first expression is a match of a rule, and the script goes on behind it. -/
theorem next_of_programScript {tokens : List Token} {s : Subtree} {others : List Subtree}
    {stuck : Option Token}
    (h : (g.programScript limit offset tokens).outcome = .ok (s :: others, stuck)) :
    (∃ r matched, r ∈ g.rules ∧ s = matched.expression r.name ∧ 0 < matched.width ∧
      (g.script limit 0 r offset tokens).outcome = .ok (some matched)) ∧
    (g.programScript limit (offset + s.width) (tokens.drop s.width)).outcome = .ok (others, stuck) ∧
      (g.programScript limit (offset + s.width) (tokens.drop s.width)).cost ≤
        (g.programScript limit offset tokens).cost := by
  cases tokens with
  | nil =>
      rw [programScript, evaluateProgram] at h
      cases h
  | cons token rest =>
      rw [programScript, evaluateProgram] at h
      obtain ⟨_ | ⟨r, matched⟩, hf, ho⟩ := Script.outcome_bind_eq_ok.mp h
      · cases ho
      · simp only [Script.outcome_note_bind] at ho
        obtain ⟨result, hs, he⟩ := Script.outcome_bind_eq_ok.mp ho
        cases he
        obtain ⟨member, positive, hr⟩ := script_of_evaluateRules hf
        have behind : (token :: rest).drop matched.width = rest.drop (matched.width - 1) :=
          List.drop_cons positive
        refine ⟨⟨r, matched, List.mem_reverse.mp member, rfl, positive, hr⟩, ?_, ?_⟩
        · change (g.programScript limit _ ((token :: rest).drop matched.width)).outcome = _
          rw [behind]
          exact hs
        · change (g.programScript limit _ ((token :: rest).drop matched.width)).cost ≤ _
          rw [behind, programScript, programScript, evaluateProgram, Script.cost_bind_of_ok hf]
          exact Nat.le_trans (Script.cost_le_cost_bind _ _) (Nat.le_add_left _ _)

end Grammar

namespace Machine

variable {σ : Type} (m : Machine σ)

theorem firstAdvance_eq_play (offset : Nat) (input : List Token) (fuel : Nat) (log : σ)
    (rules : List Recognizer) :
    m.firstAdvance offset input fuel log rules =
      Script.play m (m.grammar.evaluateRules m.limits.depth offset input rules) fuel log := by
  induction rules generalizing fuel log with
  | nil => rfl
  | cons r others ih =>
      rw [firstAdvance, Grammar.evaluateRules_cons, Script.play_bind, Action.bind_apply]
      simp only [Script.invoke_eq_play]
      rcases Script.play m (m.grammar.script m.limits.depth 0 r offset input) fuel log with
        ⟨e | result, fuel, log⟩
      · rfl
      · cases result with
        | none => exact ih fuel log
        | some matched =>
            by_cases hw : matched.width = 0
            · simp only [if_pos hw]
              exact ih fuel log
            · simp only [if_neg hw]
              rfl

/-- How a parse ends whose first expressions are `found` and whose others have come out. -/
def conclude (found : List Subtree) (furthest : Option Failure) :
    Except RuntimeError (List Subtree × Option Token) → Except RuntimeError Program
  | .ok (others, none) => .ok ⟨found ++ others⟩
  | .ok (_, some token) => .error (.unexpectedToken token furthest)
  | .error e => .error e

def report (found : List Subtree) (run : Run σ (List Subtree × Option Token)) : Run σ Program :=
  ⟨conclude found (m.observer.furthest? run.log) run.outcome, run.fuel, run.log⟩

theorem report_bind_cons (found : List Subtree) (s : Subtree)
    (a : m.Action (List Subtree × Option Token)) (fuel : Nat) (log : σ) :
    m.report found ((a >>= fun others => pure (s :: others.1, others.2)) fuel log) =
      m.report (found ++ [s]) (a fuel log) := by
  rw [Action.bind_apply]
  rcases a fuel log with ⟨e | ⟨others, _ | token⟩, fuel, log⟩
  · rfl
  · have joined : found ++ s :: others = found ++ [s] ++ others := by
      rw [List.append_assoc, List.singleton_append]
    exact congrArg (fun all => Run.mk (.ok (Program.mk all)) fuel log) joined
  · rfl

theorem parseFrom_eq_report (offset : Nat) (found : List Subtree) (fuel : Nat) (log : σ)
    (tokens : List Token) :
    m.parseFrom offset found fuel log tokens =
      m.report found.reverse
        ((m.grammar.programScript m.limits.depth offset tokens).play m fuel log) := by
  unfold Grammar.programScript
  induction offset, tokens using Grammar.evaluateProgram.induct generalizing found fuel log with
  | case1 offset =>
      rw [parseFrom, Grammar.evaluateProgram]
      exact congrArg (fun all => Run.mk (.ok (Program.mk all)) fuel log) (List.append_nil _).symm
  | case2 offset token rest ih =>
      rw [parseFrom, Grammar.evaluateProgram, Script.play_bind, Action.bind_apply]
      simp only [firstAdvance_eq_play]
      rcases Script.play m (m.grammar.evaluateRules m.limits.depth offset (token :: rest)
        m.grammar.rules.reverse) fuel log with ⟨e | found', fuel, log⟩
      · rfl
      · rcases found' with _ | ⟨r, matched⟩
        · rfl
        · have rest := ih matched (⟨some r.name, matched.width, matched.nodes⟩ :: found) fuel
            (m.observer.note log (.expression r.name offset matched.width))
          rw [List.reverse_cons, ← report_bind_cons] at rest
          simp only [Script.play_bind]
          exact rest

/-- A machine plays the script of the program that it parses. -/
theorem parse_eq_report (tokens : List Token) (log : σ) :
    m.parse tokens log = m.report [] ((m.grammar.programScript m.limits.depth 0 tokens).play m
      m.limits.fuel log) :=
  m.parseFrom_eq_report 0 [] m.limits.fuel log tokens

theorem outcome_parse_of_cost_le {tokens : List Token} (log : σ)
    (h : (m.grammar.programScript m.limits.depth 0 tokens).cost ≤ m.limits.fuel) :
    (m.parse tokens log).outcome =
      conclude [] (m.observer.furthest? (m.parse tokens log).log)
        (m.grammar.programScript m.limits.depth 0 tokens).outcome := by
  rw [parse_eq_report, Script.play_of_cost_le m _ log h]
  rfl

theorem log_parse_of_cost_le {tokens : List Token} (log : σ)
    (h : (m.grammar.programScript m.limits.depth 0 tokens).cost ≤ m.limits.fuel) :
    (m.parse tokens log).log =
      (m.grammar.programScript m.limits.depth 0 tokens).events.foldl m.observer.note log := by
  rw [parse_eq_report, report, Script.play_of_cost_le m _ log h]

theorem outcome_parse_of_lt_cost {tokens : List Token} (log : σ)
    (h : m.limits.fuel < (m.grammar.programScript m.limits.depth 0 tokens).cost) :
    (m.parse tokens log).outcome = .error (.fuelExhausted m.limits.fuel) := by
  rw [parse_eq_report, report, Script.outcome_play_of_lt_cost m _ log h]
  rfl

variable {m} in
theorem programScript_of_parse {tokens : List Token} {log : σ} {p : Program}
    (h : (m.parse tokens log).outcome = .ok p) :
    (m.grammar.programScript m.limits.depth 0 tokens).cost ≤ m.limits.fuel ∧
      (m.grammar.programScript m.limits.depth 0 tokens).outcome = .ok (p.expressions, none) := by
  by_cases hc : (m.grammar.programScript m.limits.depth 0 tokens).cost ≤ m.limits.fuel
  · refine ⟨hc, ?_⟩
    rw [m.outcome_parse_of_cost_le log hc] at h
    rcases hs : (m.grammar.programScript m.limits.depth 0 tokens).outcome with
      e | ⟨expressions, _ | token⟩
    · rw [hs] at h
      cases h
    · rw [hs] at h
      cases h
      rfl
    · rw [hs] at h
      cases h
  · rw [m.outcome_parse_of_lt_cost log (Nat.lt_of_not_le hc)] at h
    cases h

end Machine

end TokenGrammar
