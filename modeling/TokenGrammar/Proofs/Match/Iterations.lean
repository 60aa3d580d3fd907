import TokenGrammar.Match.Program

/-!
# Iterations of the loop

An invocation runs a loop with one step of the machine an iteration. Some iterations take no fuel: a frame is
left, and its caller goes on or backtracks. But that frame took a unit when it was opened. Main statement: the
iterations so far, the open frames and the fuel that is left add up to the fuel of the invocation; and what the
run has told so far is worth the fuel it took.
-/
namespace TokenGrammar

namespace Event

/-- A frame was opened. -/
def isEnter : Event → Bool
  | enter .. => true
  | _ => false

/-- A literal or a class was tried, with or without success. -/
def isTrial : Event → Bool
  | literalMatched .. | literalFailed .. | tokensMatched .. | tokensFailed .. => true
  | _ => false

def openings (events : List Event) : Nat := events.countP isEnter

def trials (events : List Event) : Nat := events.countP isTrial

@[simp] theorem openings_nil : openings [] = 0 := rfl

@[simp] theorem trials_nil : trials [] = 0 := rfl

@[simp] theorem openings_cons (e : Event) (events : List Event) :
    openings (e :: events) = openings events + if e.isEnter then 1 else 0 := List.countP_cons

@[simp] theorem trials_cons (e : Event) (events : List Event) :
    trials (e :: events) = trials events + if e.isTrial then 1 else 0 := List.countP_cons

@[simp] theorem openings_append (events more : List Event) :
    openings (events ++ more) = openings events + openings more := List.countP_append

@[simp] theorem trials_append (events more : List Event) :
    trials (events ++ more) = trials events + trials more := List.countP_append

end Event

open Event (openings trials)

/-- What the machine is invoked with. -/
structure Invocation (σ : Type) where
  recognizer : Recognizer
  offset : Nat
  input : List Token
  fuel : Nat
  log : σ

namespace Machine

variable {σ : Type} {m : Machine σ}

/-- From one log to the other, so many frames are opened and so many literals and classes are tried. -/
def Tells (m : Machine σ) (log log' : σ) (opened tried : Nat) : Prop :=
  ∃ events, log' = events.foldl m.observer.note log ∧ openings events = opened ∧ trials events = tried

namespace Tells

variable {log log₁ log₂ : σ} {opened opened' tried tried' : Nat}

theorem refl (m : Machine σ) (log : σ) : m.Tells log log 0 0 := ⟨[], rfl, rfl, rfl⟩

theorem note (m : Machine σ) (log : σ) (e : Event) :
    m.Tells log (m.observer.note log e) (if e.isEnter then 1 else 0) (if e.isTrial then 1 else 0) :=
  ⟨[e], rfl, by simp, by simp⟩

theorem trans (h : m.Tells log log₁ opened tried) (h' : m.Tells log₁ log₂ opened' tried') :
    m.Tells log log₂ (opened + opened') (tried + tried') := by
  obtain ⟨events, rfl, rfl, rfl⟩ := h
  obtain ⟨more, rfl, rfl, rfl⟩ := h'
  refine ⟨events ++ more, ?_, ?_, ?_⟩
  · rw [List.foldl_append]
  · rw [Event.openings_append]
  · rw [Event.trials_append]

end Tells

theorem tells_backtrack (m : Machine σ) (fuel : Nat) (log : σ) (f : Frame) (callers : List Frame) :
    m.Tells log (m.backtrack fuel log f callers).log 0 0 := by
  by_cases last : f.nextAlternative.alternatives.isEmpty
  · exact ⟨[.backtrack f.rule f.index], by simp [backtrack, last], rfl, rfl⟩
  · refine ⟨[.backtrack f.rule f.index,
      .alternative f.nextAlternative.rule f.nextAlternative.index], ?_, rfl, rfl⟩
    simp [backtrack, last]

/-- How a step changes the stack, what fuel it takes, and how much it tells. -/
inductive Pays (m : Machine σ) (s t : State σ) : Prop
  /-- A literal or a class takes the unit of a symbol. -/
  | trial : m.Tells s.log t.log 0 1 → t.callers = s.callers → t.fuel + 1 = s.fuel → Pays m s t
  /-- A reference or a group takes another unit for the frame that it opens. -/
  | opening : m.Tells s.log t.log 1 0 → t.callers = s.top :: s.callers → t.fuel + 2 = s.fuel → Pays m s t
  /-- A frame is left for nothing. -/
  | leaving {caller : Frame} : m.Tells s.log t.log 0 0 → s.callers = caller :: t.callers →
      t.fuel = s.fuel → Pays m s t

theorem enter_eq_ok {r : Recognizer} {depth offset fuel left : Nat} {input : List Token} {log log' : σ}
    {frame : Frame} (h : m.enter r depth offset input fuel log = .ok (frame, left, log')) :
    left + 1 = fuel ∧ m.Tells log log' 1 0 := by
  unfold enter at h
  split at h
  · cases h
  · cases fuel with
    | zero => cases h
    | succ fuel =>
        simp only [Except.ok.injEq, Prod.mk.injEq] at h
        obtain ⟨-, rfl, rfl⟩ := h
        refine ⟨rfl, ?_⟩
        by_cases none : r.alternatives.isEmpty
        · exact ⟨[.enter r.name offset], by simp [none], rfl, rfl⟩
        · exact ⟨[.enter r.name offset, .alternative r.name 0], by simp [none], rfl, rfl⟩

variable {s t : State σ} {fuel : Nat}

theorem pays_call {r : Recognizer} (hf : s.fuel = fuel + 1)
    (h : m.call r fuel s.log s.top s.callers = .ok t) : m.Pays s t := by
  unfold call at h
  cases he : m.enter r (s.top.depth + 1) s.top.cursor s.top.rest fuel s.log with
  | error done =>
      rw [he] at h
      cases h
  | ok entered =>
      obtain ⟨callee, left, log⟩ := entered
      rw [he] at h
      cases h
      obtain ⟨paid, told⟩ := enter_eq_ok he
      refine .opening told rfl ?_
      rw [hf, ← paid]

theorem pays_refer {space : Namespace} {name : String} (hf : s.fuel = fuel + 1)
    (h : m.refer space name fuel s.log s.top s.callers = .ok t) : m.Pays s t := by
  unfold refer at h
  split at h
  · cases h
  · exact pays_call hf h

/-- A symbol that fails has been tried, and its frame backtracks. -/
theorem pays_backtrack (hf : s.fuel = fuel + 1) {log : σ} (tried : m.Tells s.log log 0 1) :
    m.Pays s (m.backtrack fuel log s.top s.callers) :=
  .trial (tried.trans (m.tells_backtrack fuel log s.top s.callers)) rfl hf.symm

theorem pays_execute {symbol : Symbol} (hf : s.fuel = fuel + 1)
    (h : m.execute symbol fuel s.log s.top s.callers = .ok t) : m.Pays s t := by
  cases symbol with
  | literal text =>
      simp only [execute] at h
      split at h
      · split at h
        · cases h
          exact .trial (.note m s.log _) rfl hf.symm
        · cases h
          exact pays_backtrack hf (.note m s.log _)
      · cases h
        exact pays_backtrack hf (.note m s.log _)
  | tokens kind quantifier explicit =>
      simp only [execute] at h
      split at h
      · cases h
        exact pays_backtrack hf (.note m s.log _)
      · cases h
        exact .trial (.note m s.log _) rfl hf.symm
  | subrule name => exact pays_refer hf h
  | definition name => exact pays_refer hf h
  | group alternatives => exact pays_call hf h
  | stray token => cases h

theorem pays_leave {result : Option Matched} (h : m.leave s result = .ok t) : m.Pays s t := by
  rcases s with ⟨fuel, log, top, callers⟩
  cases callers with
  | nil => cases result <;> cases h
  | cons caller callers =>
      cases result with
      | none =>
          cases h
          have left : m.Tells log _ 0 0 := .note m log (.leave top.rule none)
          exact .leaving (left.trans (m.tells_backtrack fuel _ caller callers)) rfl rfl
      | some matched =>
          cases h
          exact .leaving (.note m log (.leave top.rule (some matched.width))) rfl rfl

theorem pays_step (h : m.step s = .ok t) : m.Pays s t := by
  unfold step at h
  split at h
  · exact pays_leave h
  · split at h
    · exact pays_leave h
    · split at h
      · cases h
      · next hf => exact pays_execute hf h

/-- A run breaks off in silence, without a result and with no more fuel than there was. -/
structure BreaksOff (fuel : Nat) (log : σ) (done : Run σ (Option Matched)) : Prop where
  silent : done.log = log
  fuel_le : done.fuel ≤ fuel
  outcome_ne : ∀ result, done.outcome ≠ .ok result

theorem breaksOff_enter {r : Recognizer} {depth offset : Nat} {input : List Token} {log : σ}
    {done : Run σ (Option Matched)} (h : m.enter r depth offset input fuel log = .error done) :
    BreaksOff fuel log done := by
  unfold enter at h
  split at h
  · cases h
    exact ⟨rfl, Nat.le_refl _, by simp⟩
  · cases fuel with
    | zero =>
        cases h
        exact ⟨rfl, Nat.le_refl _, by simp⟩
    | succ fuel => cases h

theorem breaksOff_call {r : Recognizer} {log : σ} {f : Frame} {callers : List Frame}
    {done : Run σ (Option Matched)} (h : m.call r fuel log f callers = .error done) :
    BreaksOff fuel log done := by
  unfold call at h
  cases he : m.enter r (f.depth + 1) f.cursor f.rest fuel log with
  | error refused =>
      rw [he] at h
      cases h
      exact breaksOff_enter he
  | ok entered =>
      rw [he] at h
      cases h

theorem breaksOff_refer {space : Namespace} {name : String} {log : σ} {f : Frame}
    {callers : List Frame} {done : Run σ (Option Matched)}
    (h : m.refer space name fuel log f callers = .error done) : BreaksOff fuel log done := by
  unfold refer at h
  split at h
  · cases h
    exact ⟨rfl, Nat.le_refl _, by simp⟩
  · exact breaksOff_call h

theorem breaksOff_execute {symbol : Symbol} {log : σ} {f : Frame} {callers : List Frame}
    {done : Run σ (Option Matched)} (h : m.execute symbol fuel log f callers = .error done) :
    BreaksOff fuel log done := by
  cases symbol with
  | literal text =>
      simp only [execute] at h
      split at h
      · split at h <;> cases h
      · cases h
  | tokens kind quantifier explicit =>
      simp only [execute] at h
      split at h <;> cases h
  | subrule name => exact breaksOff_refer h
  | definition name => exact breaksOff_refer h
  | group alternatives => exact breaksOff_call h
  | stray token =>
      cases h
      exact ⟨rfl, Nat.le_refl _, by simp⟩

/-- The last step opens nothing and tries nothing; and if there is a result, it takes no fuel. -/
structure Ends (m : Machine σ) (s : State σ) (done : Run σ (Option Matched)) : Prop where
  told : m.Tells s.log done.log 0 0
  fuel_le : done.fuel ≤ s.fuel
  fuel_eq : ∀ result, done.outcome = .ok result → done.fuel = s.fuel

theorem ends_leave {result : Option Matched} {done : Run σ (Option Matched)}
    (h : m.leave s result = .error done) : m.Ends s done := by
  rcases s with ⟨fuel, log, top, callers⟩
  cases callers with
  | nil =>
      cases h
      exact ⟨.note m log (.leave top.rule (result.map (·.width))), Nat.le_refl _, fun _ _ => rfl⟩
  | cons caller callers => cases result <;> cases h

theorem ends_step {done : Run σ (Option Matched)} (h : m.step s = .error done) : m.Ends s done := by
  unfold step at h
  split at h
  · exact ends_leave h
  · split at h
    · exact ends_leave h
    · split at h
      · cases h
        exact ⟨.refl m s.log, Nat.zero_le _, by simp⟩
      · next fuel hf =>
          have broken := breaksOff_execute h
          refine ⟨?_, ?_, fun result ok => absurd ok (broken.outcome_ne result)⟩
          · rw [broken.silent]
            exact .refl m s.log
          · rw [hf]
            exact Nat.le_succ_of_le broken.fuel_le

/-- What an invocation comes to. -/
def perform (m : Machine σ) (i : Invocation σ) : Run σ (Option Matched) :=
  m.invoke i.recognizer i.offset i.input i.fuel i.log

/-- After so many iterations, the loop of the invocation is in this state. -/
inductive Loops (m : Machine σ) (i : Invocation σ) : Nat → State σ → Prop
  | enter {frame : Frame} {fuel : Nat} {log : σ} :
      m.enter i.recognizer 0 i.offset i.input i.fuel i.log = .ok (frame, fuel, log) →
      Loops m i 0 ⟨fuel, log, frame, []⟩
  | step {n : Nat} {s t : State σ} : Loops m i n s → m.step s = .ok t → Loops m i (n + 1) t

/-- How many iterations there are from a state on, the one that ends the run included. -/
def iterationsFrom (m : Machine σ) (s : State σ) : Nat :=
  match _ : m.step s with
  | .ok t => m.iterationsFrom t + 1
  | .error _ => 1
termination_by s.measure
decreasing_by exact measure_step (by assumption)

/-- How many iterations the loop of an invocation has. There is none if no frame can be opened. -/
def iterations (m : Machine σ) (i : Invocation σ) : Nat :=
  match m.enter i.recognizer 0 i.offset i.input i.fuel i.log with
  | .error _ => 0
  | .ok (frame, fuel, log) => m.iterationsFrom ⟨fuel, log, frame, []⟩

variable {i : Invocation σ} {n : Nat}

/-- Every iteration and every open frame has taken a unit, and nothing else has. -/
theorem Loops.accounts (h : m.Loops i n s) : n + (s.callers.length + 1) + s.fuel = i.fuel := by
  induction h with
  | enter entered =>
      obtain ⟨paid, -⟩ := enter_eq_ok entered
      simp only [List.length_nil]
      omega
  | step _ stepped ih =>
      cases pays_step stepped with
      | trial _ stack paid =>
          rw [stack]
          omega
      | opening _ stack paid =>
          rw [stack, List.length_cons]
          omega
      | leaving _ stack paid =>
          rw [stack, List.length_cons] at ih
          omega

/-- What was told tells what fuel was taken: two units for a frame, but one for the first, and one for a
trial. -/
theorem Loops.told (h : m.Loops i n s) :
    ∃ opened tried, m.Tells i.log s.log opened tried ∧ 0 < opened ∧
      s.fuel + 2 * opened + tried = i.fuel + 1 := by
  induction h with
  | enter entered =>
      obtain ⟨paid, told⟩ := enter_eq_ok entered
      refine ⟨1, 0, told, Nat.one_pos, ?_⟩
      simp only
      omega
  | step _ stepped ih =>
      obtain ⟨opened, tried, before, positive, bill⟩ := ih
      cases pays_step stepped with
      | trial told _ paid | opening told _ paid | leaving told _ paid =>
          refine ⟨_, _, before.trans told, ?_, ?_⟩
          · omega
          · omega

theorem run_of_ok (h : m.step s = .ok t) : m.run s = m.run t := by
  rw [run, h]

theorem iterationsFrom_of_ok (h : m.step s = .ok t) :
    m.iterationsFrom s = m.iterationsFrom t + 1 := by
  rw [iterationsFrom, h]

/-- From any of its states on, the loop ends. -/
theorem Loops.ends (h : m.Loops i n s) :
    ∃ n' s', m.Loops i n' s' ∧ m.step s' = .error (m.run s) ∧ n' + 1 = n + m.iterationsFrom s := by
  induction s using run.induct m generalizing n with
  | case1 s t hs ih =>
      obtain ⟨n', s', later, last, count⟩ := ih (h.step hs)
      refine ⟨n', s', later, ?_, ?_⟩
      · rw [last, run_of_ok hs]
      · rw [count, iterationsFrom_of_ok hs]
        omega
  | case2 s done hs =>
      refine ⟨n, s, h, ?_, ?_⟩
      · rw [run, hs]
      · rw [iterationsFrom, hs]

/-- The loop of an invocation is not begun, or it ends with what the invocation comes to. -/
def Stops (m : Machine σ) (i : Invocation σ) : Prop :=
  (m.enter i.recognizer 0 i.offset i.input i.fuel i.log = .error (m.perform i) ∧ m.iterations i = 0) ∨
  ∃ n s, m.Loops i n s ∧ m.step s = .error (m.perform i) ∧ m.iterations i = n + 1

theorem stops (m : Machine σ) (i : Invocation σ) : m.Stops i := by
  unfold Stops perform invoke iterations
  cases he : m.enter i.recognizer 0 i.offset i.input i.fuel i.log with
  | error done => exact .inl ⟨rfl, rfl⟩
  | ok entered =>
      obtain ⟨frame, fuel, log⟩ := entered
      obtain ⟨n, s, loops, last, count⟩ := (Loops.enter he).ends
      refine .inr ⟨n, s, loops, last, ?_⟩
      rw [count, Nat.zero_add]

/-- The iterations of an invocation and what it leaves of its fuel. -/
theorem iterations_add_fuel_le (m : Machine σ) (i : Invocation σ) :
    m.iterations i + (m.perform i).fuel ≤ i.fuel := by
  rcases m.stops i with ⟨refused, none⟩ | ⟨n, s, loops, last, count⟩
  · have less := (breaksOff_enter refused).fuel_le
    omega
  · have paid := loops.accounts
    have less := (ends_step last).fuel_le
    omega

theorem told_perform (m : Machine σ) (i : Invocation σ) :
    ∃ opened tried, m.Tells i.log (m.perform i).log opened tried ∧
      opened + (m.perform i).fuel ≤ i.fuel ∧
      ∀ result, (m.perform i).outcome = .ok result →
        0 < opened ∧ (m.perform i).fuel + 2 * opened + tried = i.fuel + 1 := by
  rcases m.stops i with ⟨refused, -⟩ | ⟨n, s, loops, last, -⟩
  · have broken := breaksOff_enter refused
    refine ⟨0, 0, ?_, ?_, fun result ok => absurd ok (broken.outcome_ne result)⟩
    · rw [broken.silent]
      exact .refl m i.log
    · rw [Nat.zero_add]
      exact broken.fuel_le
  · obtain ⟨opened, tried, before, positive, bill⟩ := loops.told
    have ends := ends_step last
    have less := ends.fuel_le
    refine ⟨opened, tried, before.trans ends.told, ?_, fun result ok => ⟨positive, ?_⟩⟩
    · omega
    · rw [ends.fuel_eq result ok]
      exact bill

end Machine

end TokenGrammar
