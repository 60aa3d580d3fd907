import TokenGrammar.Proofs.Match.Limits
import TokenGrammar.Proofs.Match.Observers

/-!
# The invocations of a run

A parse invokes one rule after the other, and each of them goes on with the fuel and the log that the one
before has left. So what holds of one invocation adds up. Main statement: at any point of a run, the loops of
all its invocations have had no more iterations than units of fuel are gone, and all of them end.
-/
namespace TokenGrammar

open Event (openings trials)

namespace Machine

variable {σ : Type}

/-- What is invoked until a rule advances, one rule after the other. -/
def ruleInvocations (m : Machine σ) (offset : Nat) (input : List Token) (fuel : Nat) (log : σ) :
    List Recognizer → List (Invocation σ)
  | [] => []
  | r :: others =>
    let run := m.invoke r offset input fuel log
    ⟨r, offset, input, fuel, log⟩ :: match run.outcome with
      | .error _ => []
      | .ok (some matched) =>
        if matched.width = 0 then m.ruleInvocations offset input run.fuel run.log others else []
      | .ok none => m.ruleInvocations offset input run.fuel run.log others

/-- What is invoked while the tokens from `offset` on are parsed. -/
def programInvocations (m : Machine σ) (offset : Nat) (fuel : Nat) (log : σ) :
    List Token → List (Invocation σ)
  | [] => []
  | token :: rest =>
    let run := m.firstAdvance offset (token :: rest) fuel log m.grammar.rules.reverse
    m.ruleInvocations offset (token :: rest) fuel log m.grammar.rules.reverse ++ match run.outcome with
      | .ok (some (r, matched)) =>
        let log := m.observer.note run.log (.expression r.name offset matched.width)
        m.programInvocations (offset + matched.width) run.fuel log (rest.drop (matched.width - 1))
      | _ => []
termination_by tokens => tokens.length
decreasing_by simp only [List.length_drop, List.length_cons]; omega

/-- What a parse invokes, in order. -/
def parseInvocations (m : Machine σ) (tokens : List Token) (log : σ) : List (Invocation σ) :=
  m.programInvocations 0 m.limits.fuel log tokens

/-- What a recognition invokes: what is named, if there is something of this name. -/
def recognizeInvocations (m : Machine σ) (space : Namespace) (name : String) (tokens : List Token)
    (log : σ) : List (Invocation σ) :=
  (m.grammar.lookup space name).toList.map fun r => ⟨r, 0, tokens, m.limits.fuel, log⟩

/-- Each invocation starts with the fuel that the one before has left, and with its log, to which only events
without a price have been added. -/
inductive Relays (m : Machine σ) : Nat → σ → List (Invocation σ) → Nat → σ → Prop
  | done {fuel : Nat} {log : σ} : Relays m fuel log [] fuel log
  | tell {fuel left : Nat} {log log' : σ} {invocations : List (Invocation σ)} {e : Event} :
      e.isEnter = false → e.isTrial = false →
      Relays m fuel (m.observer.note log e) invocations left log' →
      Relays m fuel log invocations left log'
  | invoke (i : Invocation σ) {left : Nat} {log' : σ} {others : List (Invocation σ)} :
      Relays m (m.perform i).fuel (m.perform i).log others left log' →
      Relays m i.fuel i.log (i :: others) left log'

variable {m : Machine σ} {fuel left : Nat} {log log' : σ} {invocations : List (Invocation σ)}

namespace Relays

theorem append {mid : Nat} {log₁ : σ} {others : List (Invocation σ)}
    (h : m.Relays fuel log invocations mid log₁) (h' : m.Relays mid log₁ others left log') :
    m.Relays fuel log (invocations ++ others) left log' := by
  induction h with
  | done => exact h'
  | tell opens tries _ ih => exact .tell opens tries (ih h')
  | invoke i _ ih => exact .invoke i (ih h')

theorem total_le (h : m.Relays fuel log invocations left log') :
    (invocations.map m.iterations).sum + left ≤ fuel := by
  induction h with
  | done => simp
  | tell _ _ _ ih => exact ih
  | invoke i _ ih =>
      have own := m.iterations_add_fuel_le i
      rw [List.map_cons, List.sum_cons]
      omega

/-- Where an invocation starts, those in front of it are paid. -/
theorem started_le {before after : List (Invocation σ)} {i : Invocation σ}
    (h : m.Relays fuel log (before ++ i :: after) left log') :
    (before.map m.iterations).sum + i.fuel ≤ fuel := by
  generalize hi : before ++ i :: after = invocations at h
  induction h generalizing before with
  | done => simp at hi
  | tell _ _ _ ih => exact ih hi
  | invoke j _ ih =>
      cases before with
      | nil =>
          cases hi
          simp
      | cons _ before =>
          cases hi
          have rest := ih rfl
          have own := m.iterations_add_fuel_le j
          rw [List.map_cons, List.sum_cons]
          omega

/-- What all the invocations have told tells what fuel they took. -/
theorem told (h : m.Relays fuel log invocations left log') :
    ∃ opened tried, m.Tells log log' opened tried ∧ opened + left ≤ fuel ∧
      ((∀ i ∈ invocations, ∃ result, (m.perform i).outcome = .ok result) →
        invocations.length ≤ opened ∧ left + 2 * opened + tried = fuel + invocations.length) := by
  induction h with
  | @done fuel log => exact ⟨0, 0, .refl m log, by simp, fun _ => by simp⟩
  | @tell fuel left log log' invocations e opens tries _ ih =>
      obtain ⟨opened, tried, later, bill⟩ := ih
      have own := Tells.note m log e
      rw [opens, tries] at own
      exact ⟨opened, tried, by simpa using own.trans later, bill⟩
  | @invoke i left log' others _ ih =>
      obtain ⟨opened, tried, own, less, bill⟩ := m.told_perform i
      obtain ⟨opened', tried', later, less', bill'⟩ := ih
      refine ⟨opened + opened', tried + tried', own.trans later, ?_, fun completed => ?_⟩
      · omega
      · obtain ⟨⟨result, ok⟩, completed⟩ := List.forall_mem_cons.mp completed
        obtain ⟨positive, bill⟩ := bill result ok
        obtain ⟨enough, bill'⟩ := bill' completed
        rw [List.length_cons]
        omega

end Relays

theorem relays_ruleInvocations (m : Machine σ) (offset : Nat) (input : List Token) (fuel : Nat) (log : σ)
    (rules : List Recognizer) :
    m.Relays fuel log (m.ruleInvocations offset input fuel log rules)
      (m.firstAdvance offset input fuel log rules).fuel
      (m.firstAdvance offset input fuel log rules).log := by
  induction rules generalizing fuel log with
  | nil => exact .done
  | cons r others ih =>
      apply Relays.invoke ⟨r, offset, input, fuel, log⟩
      rw [firstAdvance, perform]
      rcases m.invoke r offset input fuel log with ⟨e | _ | matched, left, log⟩
      · exact .done
      · exact ih left log
      · by_cases hw : matched.width = 0
        · simp only [if_pos hw]
          exact ih left log
        · simp only [if_neg hw]
          exact .done

theorem relays_programInvocations (m : Machine σ) (offset : Nat) (found : List Subtree) (fuel : Nat)
    (log : σ) (tokens : List Token) :
    m.Relays fuel log (m.programInvocations offset fuel log tokens)
      (m.parseFrom offset found fuel log tokens).fuel
      (m.parseFrom offset found fuel log tokens).log := by
  induction offset, tokens using Grammar.evaluateProgram.induct generalizing found fuel log with
  | case1 offset =>
      rw [programInvocations, parseFrom]
      exact .done
  | case2 offset token rest ih =>
      rw [programInvocations, parseFrom]
      apply (m.relays_ruleInvocations offset (token :: rest) fuel log m.grammar.rules.reverse).append
      rcases m.firstAdvance offset (token :: rest) fuel log m.grammar.rules.reverse with
        ⟨e | _ | ⟨r, matched⟩, left, log⟩
      · exact .done
      · exact .done
      · exact .tell rfl rfl (ih matched _ left _)

theorem relays_parseInvocations (m : Machine σ) (tokens : List Token) (log : σ) :
    m.Relays m.limits.fuel log (m.parseInvocations tokens log) (m.parse tokens log).fuel
      (m.parse tokens log).log :=
  m.relays_programInvocations 0 [] m.limits.fuel log tokens

theorem relays_recognizeInvocations (m : Machine σ) (space : Namespace) (name : String)
    (tokens : List Token) (log : σ) :
    m.Relays m.limits.fuel log (m.recognizeInvocations space name tokens log)
      (m.recognize space name tokens log).fuel (m.recognize space name tokens log).log := by
  unfold recognizeInvocations recognize
  cases m.grammar.lookup space name with
  | none => exact .done
  | some r => exact .invoke ⟨r, 0, tokens, m.limits.fuel, log⟩ .done

theorem length_ruleInvocations_le (m : Machine σ) (offset : Nat) (input : List Token) (fuel : Nat)
    (log : σ) (rules : List Recognizer) :
    (m.ruleInvocations offset input fuel log rules).length ≤ rules.length := by
  induction rules generalizing fuel log with
  | nil => exact Nat.le_refl 0
  | cons r others ih =>
      rw [ruleInvocations]
      apply Nat.succ_le_succ
      rcases m.invoke r offset input fuel log with ⟨e | _ | matched, left, log⟩
      · exact Nat.zero_le _
      · exact ih left log
      · by_cases hw : matched.width = 0
        · simp only [if_pos hw]
          exact ih left log
        · simp only [if_neg hw]
          exact Nat.zero_le _

theorem length_programInvocations_le (m : Machine σ) (offset fuel : Nat) (log : σ) (tokens : List Token) :
    (m.programInvocations offset fuel log tokens).length ≤ tokens.length * m.grammar.rules.length := by
  induction offset, tokens using Grammar.evaluateProgram.induct generalizing fuel log with
  | case1 offset =>
      rw [programInvocations]
      exact Nat.zero_le _
  | case2 offset token rest ih =>
      have own := m.length_ruleInvocations_le offset (token :: rest) fuel log m.grammar.rules.reverse
      rw [List.length_reverse] at own
      rw [programInvocations, List.length_append, List.length_cons, Nat.add_mul, Nat.one_mul, Nat.add_comm]
      apply Nat.add_le_add _ own
      rcases m.firstAdvance offset (token :: rest) fuel log m.grammar.rules.reverse with
        ⟨e | _ | ⟨r, matched⟩, left, log⟩
      · exact Nat.zero_le _
      · exact Nat.zero_le _
      · refine Nat.le_trans (ih matched left _) (Nat.mul_le_mul_right _ ?_)
        rw [List.length_drop]
        exact Nat.sub_le _ _

/-- An expression takes tokens, and none that are not there. -/
theorem advance_of_attempts {tokens : List Token} {p : Nat} {r : Recognizer} {matched : Matched}
    (h : (m.attempts tokens p fuel log).outcome = .ok (some (r, matched))) (hp : p < tokens.length) :
    p < p + matched.width ∧ p + matched.width ≤ tokens.length := by
  obtain ⟨-, positive, ho⟩ := Grammar.script_of_evaluateRules (script_of_attempts h).1
  have fits := ((m.grammar.chooses_of_script ho).covers matched rfl).width_le
  rw [List.length_drop] at fits
  omega

/-- At any point, the loops of the invocations so far have had no more iterations than units of fuel are gone,
the one that is under way included; and all of them end. -/
structure StopsInTime (m : Machine σ) (invocations : List (Invocation σ)) (left : Nat) : Prop where
  started : ∀ before i after, invocations = before ++ i :: after →
    (before.map m.iterations).sum + i.fuel ≤ m.limits.fuel
  underway : ∀ before i after, invocations = before ++ i :: after → ∀ n s, m.Loops i n s →
    (before.map m.iterations).sum + (n + 1) + s.fuel ≤ m.limits.fuel
  total : (invocations.map m.iterations).sum + left ≤ m.limits.fuel
  stops : ∀ i ∈ invocations, m.Stops i

theorem Relays.stopsInTime (h : m.Relays m.limits.fuel log invocations left log') :
    m.StopsInTime invocations left where
  started := by
    rintro before i after rfl
    exact h.started_le
  underway := by
    rintro before i after rfl n s loops
    have started := h.started_le
    have accounts := loops.accounts
    omega
  total := h.total_le
  stops i _ := m.stops i

/-- What is told beside a recorder is written down. -/
theorem Tells.recorded {events : List Event} {log' : σ × List Event} {opened tried : Nat}
    (h : (m.beside .recording).Tells (log, events) log' opened tried) :
    openings log'.2 = openings events + opened ∧ trials log'.2 = trials events + tried := by
  obtain ⟨told, rfl, rfl, rfl⟩ := h
  have written : (told.foldl (m.beside .recording).observer.note (log, events)).2 = events ++ told :=
    (Observer.foldl_pair_snd m.observer .recording told (log, events)).trans
      (Observer.foldl_recording told events)
  rw [written]
  exact ⟨Event.openings_append events told, Event.trials_append events told⟩

/-- What the invocations have told is what was written down meanwhile. -/
theorem Relays.recorded {invocations : List (Invocation (σ × List Event))} {log' : σ × List Event}
    (h : (m.beside .recording).Relays fuel (log, []) invocations left log') :
    openings log'.2 + left ≤ fuel ∧
      ((∀ i ∈ invocations, ∃ result, ((m.beside .recording).perform i).outcome = .ok result) →
        invocations.length ≤ openings log'.2 ∧
        left + 2 * openings log'.2 + trials log'.2 = fuel + invocations.length) := by
  obtain ⟨opened, tried, told, bill⟩ := h.told
  obtain ⟨opens, tries⟩ := told.recorded
  rw [Event.openings_nil, Nat.zero_add] at opens
  rw [Event.trials_nil, Nat.zero_add] at tries
  rw [opens, tries]
  exact bill

/-- Recognitions and parses stop in time, whatever the grammar, the tokens and the limits are. A parse tries
the rules at most once a token; where it finds an expression it goes on further behind, so that no match of
nothing keeps it; and no more frames are opened than there are units of fuel. -/
theorem iterations_within_fuel (m : Machine σ) (tokens : List Token) (log : σ) :
    (∀ space name, m.StopsInTime (m.recognizeInvocations space name tokens log)
      (m.recognize space name tokens log).fuel) ∧
    m.StopsInTime (m.parseInvocations tokens log) (m.parse tokens log).fuel ∧
    (m.parseInvocations tokens log).length ≤ tokens.length * m.grammar.rules.length ∧
    (∀ p fuel log' r matched, p < tokens.length →
      (m.attempts tokens p fuel log').outcome = .ok (some (r, matched)) →
      p < p + matched.width ∧ p + matched.width ≤ tokens.length) ∧
    openings ((m.beside .recording).parse tokens (log, [])).log.2 ≤ m.limits.fuel := by
  refine ⟨?_, ?_, ?_, ?_, ?_⟩
  · intro space name
    exact (m.relays_recognizeInvocations space name tokens log).stopsInTime
  · exact (m.relays_parseInvocations tokens log).stopsInTime
  · exact m.length_programInvocations_le 0 m.limits.fuel log tokens
  · intro p fuel log' r matched hp advances
    exact advance_of_attempts advances hp
  · have recorded := ((m.beside .recording).relays_parseInvocations tokens (log, [])).recorded
    exact Nat.le_trans (Nat.le_add_right _ _) recorded.1

end Machine

namespace Brackets

/-- Six units are enough for a pair of brackets, and they are not enough for more than six iterations. -/
theorem iterations_within_fuel_pair :
    (((machine narrow).recognizeInvocations .rules "nest" tokens ()).map (machine narrow).iterations).sum +
      ((machine narrow).recognize .rules "nest" tokens ()).fuel ≤ 6 ∧
    ((machine narrow).parseInvocations tokens ()).length ≤ 4 ∧
    openings (((machine narrow).beside .recording).parse tokens ((), [])).log.2 ≤ 6 := by
  obtain ⟨recognized, -, few, -, opened⟩ := Machine.iterations_within_fuel (machine narrow) tokens ()
  exact ⟨(recognized .rules "nest").total, few, opened⟩

end Brackets

end TokenGrammar
