import TokenGrammar.Proofs.Match.Attempts

/-!
# What a run costs

Fuel is taken where a frame is opened and where a symbol is run, and events are told elsewhere. Main statement:
what a run has told tells what fuel it took; and with this much fuel it goes the same way, but with less it
does not come to its end.
-/
namespace TokenGrammar

open Event (openings trials)

variable {σ α : Type}

/-- The units that so many invocations took, by what they have told: two for a frame, one for it and one for
the symbol that calls for it, which an invocation itself has not; and one for a literal or a class. -/
def Event.bill (invocations : Nat) (events : List Event) : Nat :=
  2 * openings events - invocations + trials events

/-- The run has taken just so many units of its fuel. With these alone it comes to the same, and with fewer,
the fuel runs out. -/
structure Run.Costs (run : Run σ α) (units fuel : Nat) (again : Nat → Run σ α) : Prop where
  paid : run.fuel + units = fuel
  enough : (again units).Alike run
  short : ∀ less < units, (again less).outcome = .error (.fuelExhausted less)

/-- All the invocations of the parse have come to their end. -/
def Run.Completes (run : Run σ Program) : Prop :=
  (∃ program, run.outcome = .ok program) ∨
    ∃ token furthest, run.outcome = .error (.unexpectedToken token furthest)

namespace Machine

variable {m : Machine σ}

theorem completed_ruleInvocations {offset fuel : Nat} {input : List Token} {log : σ}
    {rules : List Recognizer} {result : Option (Recognizer × Matched)}
    (h : (m.firstAdvance offset input fuel log rules).outcome = .ok result) :
    ∀ i ∈ m.ruleInvocations offset input fuel log rules, ∃ result, (m.perform i).outcome = .ok result := by
  induction rules generalizing fuel log with
  | nil => exact List.forall_mem_nil _
  | cons r others ih =>
      rw [firstAdvance] at h
      rw [ruleInvocations, List.forall_mem_cons, perform]
      generalize m.invoke r offset input fuel log = run at h ⊢
      rcases run with ⟨e | _ | matched, left, log⟩
      · cases h
      · exact ⟨⟨none, rfl⟩, ih h⟩
      · refine ⟨⟨some matched, rfl⟩, ?_⟩
        by_cases hw : matched.width = 0
        · simp only [if_pos hw] at h ⊢
          exact ih h
        · simp only [if_neg hw]
          exact List.forall_mem_nil _

theorem recognizeInvocations_of_ok {space : Namespace} {name : String} {tokens : List Token} {log : σ}
    {result : Option Matched} (h : (m.recognize space name tokens log).outcome = .ok result) :
    ∃ i, m.recognizeInvocations space name tokens log = [i] ∧ (m.perform i).outcome = .ok result := by
  unfold recognize at h
  unfold recognizeInvocations
  cases hr : m.grammar.lookup space name with
  | none =>
      rw [hr] at h
      cases h
  | some r =>
      rw [hr] at h
      exact ⟨_, rfl, h⟩

theorem completed_programInvocations {offset fuel : Nat} {found : List Subtree} {log : σ}
    {tokens : List Token} (h : (m.parseFrom offset found fuel log tokens).Completes) :
    ∀ i ∈ m.programInvocations offset fuel log tokens, ∃ result, (m.perform i).outcome = .ok result := by
  induction offset, tokens using Grammar.evaluateProgram.induct generalizing found fuel log with
  | case1 offset =>
      rw [programInvocations]
      exact List.forall_mem_nil _
  | case2 offset token rest ih =>
      rw [parseFrom] at h
      rw [programInvocations, List.forall_mem_append]
      cases ho : (m.firstAdvance offset (token :: rest) fuel log m.grammar.rules.reverse).outcome with
      | error e =>
          simp only [ho] at h
          rcases h with ⟨program, ok⟩ | ⟨stuck, furthest, refused⟩
          · cases ok
          · cases refused
            exact absurd ho outcome_firstAdvance_ne
      | ok result =>
          refine ⟨completed_ruleInvocations ho, ?_⟩
          rcases result with _ | ⟨r, matched⟩
          · exact List.forall_mem_nil _
          · simp only [ho] at h
            exact ih matched h

theorem ok_of_ruleInvocations {offset fuel : Nat} {input : List Token} {log : σ} {rules : List Recognizer}
    (h : ∀ i ∈ m.ruleInvocations offset input fuel log rules, ∃ result, (m.perform i).outcome = .ok result) :
    ∃ result, (m.firstAdvance offset input fuel log rules).outcome = .ok result := by
  induction rules generalizing fuel log with
  | nil => exact ⟨none, rfl⟩
  | cons r others ih =>
      rw [ruleInvocations, List.forall_mem_cons, perform] at h
      rw [firstAdvance]
      generalize m.invoke r offset input fuel log = run at h ⊢
      obtain ⟨⟨result, ok⟩, later⟩ := h
      rcases run with ⟨e | _ | matched, left, log⟩
      · cases ok
      · exact ih later
      · by_cases hw : matched.width = 0
        · simp only [if_pos hw] at later ⊢
          exact ih later
        · simp only [if_neg hw]
          exact ⟨some (r, matched), rfl⟩

/-- A program whose invocations have all come to their end is played to the end. -/
theorem ok_of_programInvocations {offset fuel : Nat} {log : σ} {tokens : List Token}
    (h : ∀ i ∈ m.programInvocations offset fuel log tokens, ∃ result, (m.perform i).outcome = .ok result) :
    ∃ v, ((m.grammar.programScript m.limits.depth offset tokens).play m fuel log).outcome = .ok v := by
  unfold Grammar.programScript
  induction offset, tokens using Grammar.evaluateProgram.induct generalizing fuel log with
  | case1 offset =>
      rw [Grammar.evaluateProgram]
      exact ⟨_, rfl⟩
  | case2 offset token rest ih =>
      rw [programInvocations, List.forall_mem_append] at h
      obtain ⟨result, ok⟩ := ok_of_ruleInvocations h.1
      rw [Grammar.evaluateProgram, Script.play_bind, Action.bind_apply, ← firstAdvance_eq_play]
      generalize m.firstAdvance offset (token :: rest) fuel log m.grammar.rules.reverse = run at h ok ⊢
      rcases run with ⟨outcome, left, log⟩
      cases ok
      rcases result with _ | ⟨r, matched⟩
      · exact ⟨_, rfl⟩
      · obtain ⟨others, ok⟩ := ih matched h.2
        have told : Script.play m (Effects.note (.expression r.name offset matched.width)) left log =
          ⟨.ok (), left, m.observer.note log (.expression r.name offset matched.width)⟩ := rfl
        simp only [Script.play_bind, Action.bind_apply, told]
        generalize Script.play m (m.grammar.evaluateProgram m.limits.depth (offset + matched.width)
          (rest.drop (matched.width - 1))) left _ = run at ok ⊢
        rcases run with ⟨outcome, left, log⟩
        cases ok
        exact ⟨_, rfl⟩

section Seen

variable {τ : Type} {part : σ → τ} {p : Observer τ} (h : m.observer.Shows part p)

include h

theorem ruleInvocations_seen (offset : Nat) (input : List Token) (fuel : Nat) (log : σ)
    (rules : List Recognizer) :
    (m.under p).ruleInvocations offset input fuel (part log) rules =
      (m.ruleInvocations offset input fuel log rules).map (.seen part) := by
  induction rules generalizing fuel log with
  | nil => rfl
  | cons r others ih =>
      rw [ruleInvocations, ruleInvocations, List.map_cons, invoke_seen h]
      congr 1
      rcases m.invoke r offset input fuel log with ⟨e | _ | matched, left, log⟩
      · rfl
      · exact ih left log
      · by_cases hw : matched.width = 0
        · simp only [Run.seen, if_pos hw]
          exact ih left log
        · simp only [Run.seen, if_neg hw]
          rfl

theorem programInvocations_seen (offset fuel : Nat) (log : σ) (tokens : List Token) :
    (m.under p).programInvocations offset fuel (part log) tokens =
      (m.programInvocations offset fuel log tokens).map (.seen part) := by
  induction offset, tokens using Grammar.evaluateProgram.induct generalizing fuel log with
  | case1 offset =>
      rw [programInvocations, programInvocations]
      rfl
  | case2 offset token rest ih =>
      rw [programInvocations, programInvocations, List.map_append]
      simp only [under_grammar, ruleInvocations_seen h, firstAdvance_seen h]
      congr 1
      rcases m.firstAdvance offset (token :: rest) fuel log m.grammar.rules.reverse with
        ⟨e | _ | ⟨r, matched⟩, left, log⟩
      · rfl
      · rfl
      · simp only [Run.seen, under_observer, h.note]
        exact ih matched left _

end Seen

/-- A parse invokes what it would invoke without another observer beside. -/
theorem length_parseInvocations_beside {τ : Type} (m : Machine σ) (p : Observer τ) (tokens : List Token)
    (log : σ × τ) :
    ((m.beside p).parseInvocations tokens log).length = (m.parseInvocations tokens log.1).length := by
  have same := programInvocations_seen (m := m.beside p) (m.observer.shows_fst p) 0 m.limits.fuel log tokens
  have length := congrArg List.length same
  rw [List.length_map] at length
  exact length.symm

/-- A script that is played to its end has cost what is gone, and not a unit less is enough. -/
theorem costs_play (m : Machine σ) (s : Script α) {units fuel : Nat} (log : σ)
    (h : (s.play m fuel log).outcome ≠ .error (.fuelExhausted m.limits.fuel))
    (paid : (s.play m fuel log).fuel + units = fuel) :
    (s.play m fuel log).Costs units fuel
      fun again => s.play (m.within ⟨again, m.limits.depth⟩) again log := by
  have enough : s.cost ≤ fuel := by
    refine Nat.le_of_not_lt fun short => ?_
    exact h (Script.outcome_play_of_lt_cost m s log short)
  have cost : s.cost = units := by
    rw [Script.play_of_cost_le m s log enough] at paid
    simp only at paid
    omega
  refine ⟨paid, ?_, ?_⟩
  · rw [Script.play_of_cost_le m s log enough,
      Script.play_of_cost_le (m.within ⟨units, m.limits.depth⟩) s log (Nat.le_of_eq cost)]
    exact ⟨rfl, rfl⟩
  · intro less short
    exact Script.outcome_play_of_lt_cost (m.within ⟨less, m.limits.depth⟩) s log (cost ▸ short)

theorem paid_of_recognize {space : Namespace} {name : String} {tokens : List Token} {log : σ}
    {result : Option Matched} (h : (m.recognize space name tokens log).outcome = .ok result) :
    1 ≤ openings ((m.beside .recording).recognize space name tokens (log, [])).log.2 ∧
      (m.recognize space name tokens log).fuel + Event.bill 1
        ((m.beside .recording).recognize space name tokens (log, [])).log.2 = m.limits.fuel := by
  have beside := m.recognize_beside .recording space name tokens (log, [])
  have recognized : ((m.beside .recording).recognize space name tokens (log, [])).outcome = .ok result :=
    (congrArg Run.outcome beside).symm.trans h
  have fuel : (m.recognize space name tokens log).fuel =
      ((m.beside .recording).recognize space name tokens (log, [])).fuel := congrArg Run.fuel beside
  obtain ⟨i, only, ok⟩ := recognizeInvocations_of_ok recognized
  have relays := (m.beside .recording).relays_recognizeInvocations space name tokens (log, [])
  rw [only] at relays
  have completed : ∀ j ∈ [i], ∃ result, ((m.beside .recording).perform j).outcome = .ok result := by
    intro j member
    cases List.mem_singleton.mp member
    exact ⟨result, ok⟩
  obtain ⟨enough, paid⟩ := relays.recorded.2 completed
  rw [List.length_singleton] at enough paid
  refine ⟨enough, ?_⟩
  unfold Event.bill
  rw [fuel]
  change _ = m.limits.fuel + 1 at paid
  omega

theorem paid_of_parse {tokens : List Token} {log : σ} (h : (m.parse tokens log).Completes) :
    (m.parseInvocations tokens log).length ≤
        openings ((m.beside .recording).parse tokens (log, [])).log.2 ∧
      (m.parse tokens log).fuel + Event.bill (m.parseInvocations tokens log).length
        ((m.beside .recording).parse tokens (log, [])).log.2 = m.limits.fuel := by
  have same : ((m.beside .recording).parse tokens (log, [])).outcome = (m.parse tokens log).outcome :=
    m.outcome_parse_beside .recording tokens (log, [])
  have fuel : (m.parse tokens log).fuel = ((m.beside .recording).parse tokens (log, [])).fuel :=
    congrArg Run.fuel (m.parse_beside .recording tokens (log, []))
  have length : ((m.beside .recording).parseInvocations tokens (log, [])).length =
      (m.parseInvocations tokens log).length := m.length_parseInvocations_beside .recording tokens (log, [])
  have completes : ((m.beside .recording).parse tokens (log, [])).Completes := by
    unfold Run.Completes
    rw [same]
    exact h
  obtain ⟨enough, paid⟩ := ((m.beside .recording).relays_parseInvocations tokens (log, [])).recorded.2
    (completed_programInvocations completes)
  rw [length] at enough paid
  refine ⟨enough, ?_⟩
  unfold Event.bill
  rw [fuel]
  change _ = m.limits.fuel + _ at paid
  omega

/-- So does the report about it. -/
theorem costs_report {run : Run σ (List Subtree × Option Token)} {units fuel : Nat}
    {again : Nat → Run σ (List Subtree × Option Token)} (h : run.Costs units fuel again) :
    (m.report [] run).Costs units fuel
      fun less => (m.within ⟨less, m.limits.depth⟩).report [] (again less) where
  paid := h.paid
  enough := report_alike rfl h.enough
  short less short := outcome_report_of_error _ (h.short less short)

/-- If a run comes to the end of all its invocations, one can read off its events what it costs: two units for
every frame but only one for the first of an invocation, and one for every literal or class. With just so much
fuel it tells and comes to the same, and with less the fuel runs out. -/
theorem bill_is_sharp (m : Machine σ) (tokens : List Token) (log : σ) :
    (∀ space name result, (m.recognize space name tokens log).outcome = .ok result →
      let events := ((m.beside .recording).recognize space name tokens (log, [])).log.2
      1 ≤ openings events ∧
      (m.recognize space name tokens log).Costs (Event.bill 1 events) m.limits.fuel
        fun fuel => (m.within ⟨fuel, m.limits.depth⟩).recognize space name tokens log) ∧
    ((m.parse tokens log).Completes →
      let invocations := (m.parseInvocations tokens log).length
      let events := ((m.beside .recording).parse tokens (log, [])).log.2
      invocations ≤ openings events ∧
      (m.parse tokens log).Costs (Event.bill invocations events) m.limits.fuel
        fun fuel => (m.within ⟨fuel, m.limits.depth⟩).parse tokens log) := by
  constructor
  · intro space name result ok events
    obtain ⟨enough, paid⟩ := paid_of_recognize ok
    refine ⟨enough, ?_⟩
    cases hr : m.grammar.lookup space name with
    | none =>
        rw [recognize_of_no_lookup hr] at ok
        cases ok
    | some r =>
        have again (fuel : Nat) := recognize_of_lookup (m.within ⟨fuel, m.limits.depth⟩) hr tokens log
        simp only [again]
        rw [recognize_of_lookup m hr] at ok paid ⊢
        apply m.costs_play _ log _ paid
        rw [ok]
        nofun
  · intro completes invocations events
    obtain ⟨enough, paid⟩ := paid_of_parse completes
    refine ⟨enough, ?_⟩
    have again (fuel : Nat) := parse_eq_report (m.within ⟨fuel, m.limits.depth⟩) tokens log
    simp only [again]
    rw [m.parse_eq_report] at completes paid ⊢
    apply costs_report
    apply m.costs_play _ log _ paid
    intro exhausted
    rcases completes with ⟨program, ok⟩ | ⟨token, furthest, refused⟩
    · cases ok.symm.trans (m.outcome_report_of_error exhausted)
    · cases refused.symm.trans (m.outcome_report_of_error exhausted)

end Machine

namespace Brackets

/-- A pair of brackets costs six units, and two pairs cost twelve: with one less, the fuel runs out. -/
theorem bill_is_sharp_pairs :
    (((machine .standard).within ⟨6, 1024⟩).recognize .rules "nest" tokens ()).outcome =
      .ok (some (pair 0)) ∧
    (((machine .standard).within ⟨5, 1024⟩).recognize .rules "nest" tokens ()).outcome =
      .error (.fuelExhausted 5) ∧
    (((machine .standard).within ⟨12, 1024⟩).parse tokens ()).outcome =
      .ok ⟨[(pair 0).expression "nest", (pair 2).expression "nest"]⟩ ∧
    (((machine .standard).within ⟨11, 1024⟩).parse tokens ()).outcome = .error (.fuelExhausted 11) := by
  have recognized : ((machine .standard).recognize .rules "nest" tokens ()).outcome =
      .ok (some (pair 0)) := by with_unfolding_all rfl
  have parsed : ((machine .standard).parse tokens ()).outcome =
      .ok ⟨[(pair 0).expression "nest", (pair 2).expression "nest"]⟩ := by with_unfolding_all rfl
  have pair : Event.bill 1
      (((machine .standard).beside .recording).recognize .rules "nest" tokens ((), [])).log.2 = 6 := by
    with_unfolding_all rfl
  have pairs : Event.bill ((machine .standard).parseInvocations tokens ()).length
      (((machine .standard).beside .recording).parse tokens ((), [])).log.2 = 12 := by
    with_unfolding_all rfl
  obtain ⟨recognition, parse⟩ := Machine.bill_is_sharp (machine .standard) tokens ()
  obtain ⟨-, costs⟩ := recognition .rules "nest" _ recognized
  obtain ⟨-, costs'⟩ := parse (.inl ⟨_, parsed⟩)
  rw [pair] at costs
  rw [pairs] at costs'
  refine ⟨costs.enough.outcome.trans recognized, costs.short 5 (by decide), ?_, ?_⟩
  · exact costs'.enough.outcome.trans parsed
  · exact costs'.short 11 (by decide)

end Brackets

end TokenGrammar
