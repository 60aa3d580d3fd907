import TokenGrammar.Proofs.Match.Congruence
import TokenGrammar.Proofs.Match.Simulation

/-!
# Scripts of a run

What an evaluation does, apart from how much fuel there is and who watches. A machine plays the script
until it ends or the fuel does; so fuel and observer only decide how far a run gets and what is noted.
-/
namespace TokenGrammar

/-- The effects of an evaluation one after the other, and how it ends. -/
inductive Script (α : Type)
  | pure (v : α)
  | fail (e : RuntimeError)
  | spend (rest : Script α)
  | note (e : Event) (rest : Script α)

namespace Script

variable {α β : Type}

protected def bind : Script α → (α → Script β) → Script β
  | .pure v, f => f v
  | .fail e, _ => .fail e
  | .spend rest, f => .spend (rest.bind f)
  | .note e rest, f => .note e (rest.bind f)

instance : Effects Script where
  pure := .pure
  bind := Script.bind
  spend := .spend (.pure ())
  note e := .note e (.pure ())
  fail := .fail

def outcome : Script α → Except RuntimeError α
  | .pure v => .ok v
  | .fail e => .error e
  | .spend rest | .note _ rest => rest.outcome

/-- The fuel that playing the script to its end takes. -/
def cost : Script α → Nat
  | .pure _ | .fail _ => 0
  | .spend rest => rest.cost + 1
  | .note _ rest => rest.cost

def events : Script α → List Event
  | .pure _ | .fail _ => []
  | .spend rest => rest.events
  | .note e rest => e :: rest.events

/-- The script of the same evaluation `k` tokens further on. -/
def shift (k : Nat) : Script α → Script α
  | .pure v => .pure v
  | .fail e => .fail e
  | .spend rest => .spend (rest.shift k)
  | .note e rest => .note (e.shift k) (rest.shift k)

/-- Plays a script on a machine. -/
def play {σ : Type} (m : Machine σ) : Script α → m.Action α
  | .pure v, fuel, log => ⟨.ok v, fuel, log⟩
  | .fail e, fuel, log => ⟨.error e, fuel, log⟩
  | .spend _, 0, log => ⟨.error (.fuelExhausted m.limits.fuel), 0, log⟩
  | .spend rest, fuel + 1, log => rest.play m fuel log
  | .note e rest, fuel, log => rest.play m fuel (m.observer.note log e)

@[simp] theorem outcome_spend_bind (f : Unit → Script β) :
    ((Effects.spend : Script Unit) >>= f).outcome = (f ()).outcome := rfl

@[simp] theorem outcome_note_bind (e : Event) (f : Unit → Script β) :
    ((Effects.note e : Script Unit) >>= f).outcome = (f ()).outcome := rfl

theorem outcome_bind_of_ok {s : Script α} {v : α} (h : s.outcome = .ok v) (f : α → Script β) :
    (s >>= f).outcome = (f v).outcome := by
  induction s with
  | pure w =>
      cases h
      rfl
  | fail e => cases h
  | spend rest ih => exact ih h
  | note e rest ih => exact ih h

theorem outcome_bind_of_error {s : Script α} {e : RuntimeError} (h : s.outcome = .error e)
    (f : α → Script β) : (s >>= f).outcome = .error e := by
  induction s with
  | pure w => cases h
  | fail e =>
      cases h
      rfl
  | spend rest ih => exact ih h
  | note e rest ih => exact ih h

theorem outcome_bind_eq_ok {s : Script α} {f : α → Script β} {w : β} :
    (s >>= f).outcome = .ok w ↔ ∃ v, s.outcome = .ok v ∧ (f v).outcome = .ok w := by
  constructor
  · intro h
    cases hs : s.outcome with
    | ok v => exact ⟨v, rfl, by rwa [outcome_bind_of_ok hs] at h⟩
    | error e =>
        rw [outcome_bind_of_error hs] at h
        cases h
  · rintro ⟨v, hs, hf⟩
    rw [outcome_bind_of_ok hs, hf]

theorem outcome_bind_eq_error {s : Script α} {f : α → Script β} {e : RuntimeError} :
    (s >>= f).outcome = .error e ↔
      s.outcome = .error e ∨ ∃ v, s.outcome = .ok v ∧ (f v).outcome = .error e := by
  constructor
  · intro h
    cases hs : s.outcome with
    | ok v => exact .inr ⟨v, rfl, by rwa [outcome_bind_of_ok hs] at h⟩
    | error e' =>
        rw [outcome_bind_of_error hs] at h
        cases h
        exact .inl rfl
  · rintro (hs | ⟨v, hs, hf⟩)
    · exact outcome_bind_of_error hs f
    · rw [outcome_bind_of_ok hs, hf]

theorem outcome_bind_pure (s : Script α) (f : α → β) :
    (s >>= fun v => Pure.pure (f v)).outcome = s.outcome.map f := by
  cases hs : s.outcome with
  | ok v => exact outcome_bind_of_ok hs _
  | error e => exact outcome_bind_of_error hs _

theorem cost_bind_of_ok {s : Script α} {v : α} (h : s.outcome = .ok v) (f : α → Script β) :
    (s >>= f).cost = s.cost + (f v).cost := by
  induction s with
  | pure w =>
      cases h
      exact (Nat.zero_add _).symm
  | fail e => cases h
  | spend rest ih =>
      change (rest >>= f).cost + 1 = rest.cost + 1 + (f v).cost
      rw [ih h, Nat.add_right_comm]
  | note e rest ih => exact ih h

theorem cost_le_cost_bind (s : Script α) (f : α → Script β) : s.cost ≤ (s >>= f).cost := by
  induction s with
  | pure v => exact Nat.zero_le _
  | fail e => exact Nat.le_refl _
  | spend rest ih => exact Nat.succ_le_succ ih
  | note e rest ih => exact ih

@[simp] theorem outcome_shift (k : Nat) (s : Script α) : (s.shift k).outcome = s.outcome := by
  induction s with
  | pure v => rfl
  | fail e => rfl
  | spend rest ih => exact ih
  | note e rest ih => exact ih

@[simp] theorem cost_shift (k : Nat) (s : Script α) : (s.shift k).cost = s.cost := by
  induction s with
  | pure v => rfl
  | fail e => rfl
  | spend rest ih => exact congrArg (· + 1) ih
  | note e rest ih => exact ih

theorem shift_bind (k : Nat) (s : Script α) (f : α → Script β) :
    (s >>= f).shift k = s.shift k >>= fun v => (f v).shift k := by
  induction s with
  | pure v => rfl
  | fail e => rfl
  | spend rest ih => exact congrArg Script.spend ih
  | note e rest ih => exact congrArg (Script.note _) ih

end Script

/-- What evaluating a recognizer does, `depth` invocations deep. -/
def Grammar.script (g : Grammar) (limit depth : Nat) (r : Recognizer) (offset : Nat)
    (input : List Token) : Script (Option Matched) :=
  g.evaluate limit depth r offset input

theorem Grammar.script_eq (g : Grammar) (limit depth : Nat) (r : Recognizer) (offset : Nat)
    (input : List Token) :
    g.script limit depth r offset input =
      if limit ≤ depth then Effects.fail (.recursionLimitExceeded limit)
      else (do
        Effects.spend
        Effects.note (.enter r.name offset)
        let result ← g.evaluateAlternatives (g.script limit (depth + 1)) r.name offset input 0
          r.alternatives
        Effects.note (.leave r.name (result.map (·.width)))
        pure result) := by
  unfold script
  rw [evaluate]

namespace Script

variable {α β : Type}

section Play

variable {σ : Type} (m : Machine σ)

theorem play_bind (s : Script α) (f : α → Script β) :
    (s >>= f).play m = s.play m >>= fun v => (f v).play m := by
  induction s with
  | pure v => rfl
  | fail e => rfl
  | spend rest ih =>
      funext fuel log
      cases fuel with
      | zero => rfl
      | succ fuel => exact congrFun (congrFun ih fuel) log
  | note e rest ih =>
      funext fuel log
      exact congrFun (congrFun ih fuel) _

/-- With fuel enough, a script is played to its end. -/
theorem play_of_cost_le (s : Script α) {fuel : Nat} (log : σ) (h : s.cost ≤ fuel) :
    s.play m fuel log = ⟨s.outcome, fuel - s.cost, s.events.foldl m.observer.note log⟩ := by
  induction s generalizing fuel log with
  | pure v => rfl
  | fail e => rfl
  | spend rest ih =>
      cases fuel with
      | zero => cases h
      | succ fuel =>
          have played := ih log (Nat.le_of_succ_le_succ h)
          rw [← Nat.succ_sub_succ] at played
          exact played
  | note e rest ih => exact ih _ h

/-- With less, the fuel runs out. -/
theorem outcome_play_of_lt_cost (s : Script α) {fuel : Nat} (log : σ) (h : fuel < s.cost) :
    (s.play m fuel log).outcome = .error (.fuelExhausted m.limits.fuel) := by
  induction s generalizing fuel log with
  | pure v => cases h
  | fail e => cases h
  | spend rest ih =>
      cases fuel with
      | zero => rfl
      | succ fuel => exact ih log (Nat.lt_of_succ_lt_succ h)
  | note e rest ih => exact ih _ h

theorem outcome_play (s : Script α) (fuel : Nat) (log : σ) :
    (s.play m fuel log).outcome =
      if s.cost ≤ fuel then s.outcome else .error (.fuelExhausted m.limits.fuel) := by
  by_cases h : s.cost ≤ fuel
  · rw [if_pos h, play_of_cost_le m s log h]
  · rw [if_neg h, outcome_play_of_lt_cost m s log (Nat.lt_of_not_le h)]

/-- Playing a script on a machine is a congruence. -/
def playing : Congruence Script m.Action where
  Holds s a := s.play m = a
  shift := 0
  limit := m.limits.depth
  limit' := m.limits.depth
  limit_le := Nat.le_refl _
  pure _ := rfl
  bind := by
    intro α β s a f f' hs hf
    rw [play_bind, hs]
    exact bind_congr hf
  spend := by
    funext fuel log
    cases fuel <;> rfl
  note e := by
    rw [Event.shift_zero]
    rfl
  fail _ := rfl
  cut _ h := absurd h (Nat.lt_irrefl _)

/-- A machine plays the script of the recognizer that it invokes. -/
theorem invoke_eq_play (r : Recognizer) (offset : Nat) (input : List Token) (fuel : Nat) (log : σ) :
    m.invoke r offset input fuel log =
      (m.grammar.script m.limits.depth 0 r offset input).play m fuel log := by
  have entered := m.run_entered r 0 offset input fuel log []
  have played := (playing m).evaluate m.grammar 0 r offset input
  rw [Machine.bind_unwind_nil] at entered
  exact entered.trans (congrFun (congrFun played.symm fuel) log)

end Play

/-- Moving every event is a congruence. -/
def shifting (limit k : Nat) : Congruence Script Script where
  Holds s t := t = s.shift k
  shift := k
  limit := limit
  limit' := limit
  limit_le := Nat.le_refl _
  pure _ := rfl
  bind := by
    intro α β s t f f' hs hf
    rw [shift_bind, hs]
    exact congrArg _ (funext hf)
  spend := rfl
  note _ := rfl
  fail _ := rfl
  cut _ h := absurd h (Nat.lt_irrefl _)

end Script

/-- Where a recognizer stands only moves its events. -/
theorem Grammar.script_add (g : Grammar) (limit depth : Nat) (r : Recognizer) (offset k : Nat)
    (input : List Token) :
    g.script limit depth r (offset + k) input = (g.script limit depth r offset input).shift k :=
  (Script.shifting limit k).evaluate g depth r offset input

end TokenGrammar
