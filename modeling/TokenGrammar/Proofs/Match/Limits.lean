import TokenGrammar.Proofs.Match.Leaves

/-!
# Limits only cut runs off

More fuel plays the same script further, and a greater depth limit continues a script where the smaller
one cut it off. So a run that a limit did not end comes to the same under a larger one: the same result
or error, with the same report on the furthest failure, and the same events.
-/
namespace TokenGrammar

namespace Script

variable {α β : Type}

/-- The first script is the second one as far as a depth limit lets it come. -/
inductive Cut (limit : Nat) : Script α → Script α → Prop
  | pure (v : α) : Cut limit (.pure v) (.pure v)
  | fail (e : RuntimeError) : Cut limit (.fail e) (.fail e)
  | spend {s t : Script α} : Cut limit s t → Cut limit (.spend s) (.spend t)
  | note (e : Event) {s t : Script α} : Cut limit s t → Cut limit (.note e s) (.note e t)
  | off (t : Script α) : Cut limit (.fail (.recursionLimitExceeded limit)) t

namespace Cut

variable {limit : Nat}

theorem refl (s : Script α) : s.Cut limit s := by
  induction s with
  | pure v => exact .pure v
  | fail e => exact .fail e
  | spend rest ih => exact .spend ih
  | note e rest ih => exact .note e ih

theorem bind {s t : Script α} {f f' : α → Script β} (h : s.Cut limit t)
    (hf : ∀ v, (f v).Cut limit (f' v)) : (s >>= f).Cut limit (t >>= f') := by
  induction h with
  | pure v => exact hf v
  | fail e => exact .fail e
  | spend _ ih => exact .spend ih
  | note e _ ih => exact .note e ih
  | off t => exact .off _

end Cut

/-- Evaluating under a greater depth limit is a congruence up to where the smaller one cuts off. -/
def cutting {limit limit' : Nat} (h : limit ≤ limit') : Congruence Script Script where
  Holds s t := s.Cut limit t
  shift := 0
  limit := limit
  limit' := limit'
  limit_le := h
  pure := .pure
  bind := Cut.bind
  spend := .refl _
  note e := by
    rw [Event.shift_zero]
    exact .refl _
  fail := .fail
  cut t _ := .off t

end Script

theorem Grammar.script_cut (g : Grammar) {limit limit' : Nat} (h : limit ≤ limit') (depth : Nat)
    (r : Recognizer) (offset : Nat) (input : List Token) :
    (g.script limit depth r offset input).Cut limit (g.script limit' depth r offset input) :=
  (Script.cutting h).evaluate g depth r offset input

theorem Grammar.programScript_cut (g : Grammar) {limit limit' : Nat} (h : limit ≤ limit')
    (offset : Nat) (tokens : List Token) :
    (g.programScript limit offset tokens).Cut limit (g.programScript limit' offset tokens) :=
  (Script.cutting h).evaluateProgram g offset tokens

/-- Two runs that end alike and have told the same; the fuel that is left may differ. -/
structure Run.Alike {σ α : Type} (a b : Run σ α) : Prop where
  outcome : a.outcome = b.outcome
  log : a.log = b.log

namespace Machine

variable {σ α : Type}

/-- The machine under other limits. -/
def within (m : Machine σ) (limits : Limits) : Machine σ := { m with limits }

/-- Whichever way they are entered, the second machine answers as the first one does unless the first
one breaks off with the error. -/
structure AnswersAlike (m m' : Machine σ) (tokens : List Token) (log : σ) (cutOff : RuntimeError) :
    Prop where
  recognize (space : Namespace) (name : String) :
    (m.recognize space name tokens log).outcome ≠ .error cutOff →
      (m'.recognize space name tokens log).Alike (m.recognize space name tokens log)
  parse : (m.parse tokens log).outcome ≠ .error cutOff →
    (m'.parse tokens log).Alike (m.parse tokens log)

theorem play_within_fuel (m : Machine σ) (s : Script α) {fuel fuel' : Nat} (log : σ)
    (hf : fuel ≤ fuel')
    (h : (s.play m fuel log).outcome ≠ .error (.fuelExhausted m.limits.fuel)) :
    (s.play (m.within ⟨fuel', m.limits.depth⟩) fuel' log).Alike (s.play m fuel log) := by
  have enough : s.cost ≤ fuel := by
    refine Nat.le_of_not_lt fun short => ?_
    exact h (Script.outcome_play_of_lt_cost m s log short)
  rw [Script.play_of_cost_le m s log enough,
    Script.play_of_cost_le (m.within ⟨fuel', m.limits.depth⟩) s log (Nat.le_trans enough hf)]
  exact ⟨rfl, rfl⟩

theorem play_within_depth (m : Machine σ) {s t : Script α} (hc : s.Cut m.limits.depth t)
    (depth fuel : Nat) (log : σ)
    (h : (s.play m fuel log).outcome ≠ .error (.recursionLimitExceeded m.limits.depth)) :
    t.play (m.within ⟨m.limits.fuel, depth⟩) fuel log = s.play m fuel log := by
  induction hc generalizing fuel log with
  | pure v => rfl
  | fail e => rfl
  | spend _ ih =>
      cases fuel with
      | zero => rfl
      | succ fuel => exact ih fuel log h
  | note e _ ih => exact ih fuel _ h
  | off t => exact absurd rfl h

theorem recognize_of_no_lookup {m : Machine σ} {space : Namespace} {name : String}
    (hr : m.grammar.lookup space name = none) (tokens : List Token) (log : σ) :
    m.recognize space name tokens log =
      ⟨.error (.undefinedRule space name), m.limits.fuel, log⟩ := by
  rw [recognize, hr]

/-- A report tells no more than the run that it is about. -/
theorem report_alike {m m' : Machine σ} (ho : m'.observer = m.observer)
    {a b : Run σ (List Subtree × Option Token)} (h : a.Alike b) :
    (m'.report [] a).Alike (m.report [] b) := by
  constructor
  · unfold report
    rw [ho, h.outcome, h.log]
  · exact h.log

theorem outcome_report_of_error (m : Machine σ) {run : Run σ (List Subtree × Option Token)}
    {e : RuntimeError} (h : run.outcome = .error e) : (m.report [] run).outcome = .error e := by
  unfold report
  rw [h]
  rfl

theorem answersAlike_within_fuel (m : Machine σ) (tokens : List Token) (log : σ) {fuel : Nat}
    (hf : m.limits.fuel ≤ fuel) :
    m.AnswersAlike (m.within ⟨fuel, m.limits.depth⟩) tokens log (.fuelExhausted m.limits.fuel) := by
  constructor
  · intro space name h
    cases hr : m.grammar.lookup space name with
    | none =>
        rw [recognize_of_no_lookup hr,
          recognize_of_no_lookup (m := m.within ⟨fuel, m.limits.depth⟩) hr]
        exact ⟨rfl, rfl⟩
    | some r =>
        rw [recognize_of_lookup m hr] at h ⊢
        rw [recognize_of_lookup (m.within ⟨fuel, m.limits.depth⟩) hr]
        exact m.play_within_fuel _ log hf h
  · intro h
    rw [parse_eq_report] at h ⊢
    rw [parse_eq_report]
    refine report_alike rfl (m.play_within_fuel _ log hf fun exhausted => ?_)
    exact h (m.outcome_report_of_error exhausted)

theorem answersAlike_within_depth (m : Machine σ) (tokens : List Token) (log : σ) {depth : Nat}
    (hd : m.limits.depth ≤ depth) :
    m.AnswersAlike (m.within ⟨m.limits.fuel, depth⟩) tokens log
      (.recursionLimitExceeded m.limits.depth) := by
  constructor
  · intro space name h
    cases hr : m.grammar.lookup space name with
    | none =>
        rw [recognize_of_no_lookup hr,
          recognize_of_no_lookup (m := m.within ⟨m.limits.fuel, depth⟩) hr]
        exact ⟨rfl, rfl⟩
    | some r =>
        rw [recognize_of_lookup m hr] at h ⊢
        rw [recognize_of_lookup (m.within ⟨m.limits.fuel, depth⟩) hr]
        have same := m.play_within_depth (m.grammar.script_cut hd 0 r 0 tokens) depth _ log h
        exact ⟨congrArg Run.outcome same, congrArg Run.log same⟩
  · intro h
    rw [parse_eq_report] at h ⊢
    rw [parse_eq_report]
    have same := m.play_within_depth (m.grammar.programScript_cut hd 0 tokens) depth
      m.limits.fuel log fun exceeded => h (m.outcome_report_of_error exceeded)
    exact report_alike rfl ⟨congrArg Run.outcome same, congrArg Run.log same⟩

/-- Limits only cut runs off: unless a run ends at one, raising this limit changes neither its outcome,
nor what the observer learns of it. -/
theorem limits_only_cut_off (m : Machine σ) (tokens : List Token) (log : σ) :
    (∀ fuel, m.limits.fuel ≤ fuel →
      m.AnswersAlike (m.within ⟨fuel, m.limits.depth⟩) tokens log
        (.fuelExhausted m.limits.fuel)) ∧
    (∀ depth, m.limits.depth ≤ depth →
      m.AnswersAlike (m.within ⟨m.limits.fuel, depth⟩) tokens log
        (.recursionLimitExceeded m.limits.depth)) :=
  ⟨fun _ hf => m.answersAlike_within_fuel tokens log hf,
    fun _ hd => m.answersAlike_within_depth tokens log hd⟩

end Machine

namespace Brackets

/-- Six units of fuel and two levels are just enough to recognize one pair of brackets. -/
def narrow : Limits := ⟨6, 2⟩

theorem narrow_limits_suffice :
    (((machine narrow).within ⟨1000000, 2⟩).recognize .rules "nest" tokens ()).outcome =
      .ok (some (pair 0)) ∧
    (((machine narrow).within ⟨6, 1024⟩).recognize .rules "nest" tokens ()).outcome =
      .ok (some (pair 0)) := by
  have recognized : ((machine narrow).recognize .rules "nest" tokens ()).outcome =
      .ok (some (pair 0)) := by with_unfolding_all rfl
  have unlimited : ∀ e : RuntimeError,
      ((machine narrow).recognize .rules "nest" tokens ()).outcome ≠ .error e := by
    intro e h
    rw [recognized] at h
    cases h
  obtain ⟨fuel, depth⟩ := Machine.limits_only_cut_off (machine narrow) tokens ()
  constructor
  · exact ((fuel 1000000 (by decide)).recognize _ _ (unlimited _)).outcome.trans recognized
  · exact ((depth 1024 (by decide)).recognize _ _ (unlimited _)).outcome.trans recognized

end Brackets

end TokenGrammar
