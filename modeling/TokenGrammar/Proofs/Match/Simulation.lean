import TokenGrammar.Proofs.Match.Evaluation

/-!
# The machine and the recursive evaluation

A state stands for the evaluation that it has still to do: the frame on top is completed, and its
result is handed down the stack. A step changes the state but not what it stands for, so a run and the
recursive evaluation end alike, with the same fuel left and the same log.
-/
namespace TokenGrammar

namespace Machine

variable {σ : Type}

/-- An evaluation metered by a machine: fuel and log go in, and what is left of them comes out. -/
def Action (_ : Machine σ) (α : Type) : Type := Nat → σ → Run σ α

namespace Action

variable {m : Machine σ} {α β : Type}

protected def bind (a : m.Action α) (f : α → m.Action β) : m.Action β := fun fuel log =>
  match a fuel log with
  | ⟨.ok v, fuel, log⟩ => f v fuel log
  | ⟨.error e, fuel, log⟩ => ⟨.error e, fuel, log⟩

instance : Effects m.Action where
  pure v := fun fuel log => ⟨.ok v, fuel, log⟩
  bind := Action.bind
  spend := fun fuel log =>
    match fuel with
    | 0 => ⟨.error (.fuelExhausted m.limits.fuel), 0, log⟩
    | fuel + 1 => ⟨.ok (), fuel, log⟩
  note e := fun fuel log => ⟨.ok (), fuel, m.observer.note log e⟩
  fail e := fun fuel log => ⟨.error e, fuel, log⟩

instance : LawfulMonad m.Action := LawfulMonad.mk' _
  (by
    intro α a
    funext fuel log
    change Action.bind a _ fuel log = a fuel log
    unfold Action.bind
    rcases a fuel log with ⟨_ | _, _, _⟩ <;> rfl)
  (by
    intro α β v f
    rfl)
  (by
    intro α β γ a f g
    funext fuel log
    change Action.bind (Action.bind a f) g fuel log =
      Action.bind a (fun v => Action.bind (f v) g) fuel log
    unfold Action.bind
    rcases a fuel log with ⟨_ | _, _, _⟩ <;> rfl)

theorem bind_apply (a : m.Action α) (f : α → m.Action β) (fuel : Nat) (log : σ) :
    (a >>= f) fuel log =
      match a fuel log with
      | ⟨.ok v, fuel, log⟩ => f v fuel log
      | ⟨.error e, fuel, log⟩ => ⟨.error e, fuel, log⟩ := rfl

theorem bind_eq_bind {a b : m.Action α} {fuel fuel' : Nat} {log log' : σ}
    (h : a fuel log = b fuel' log') (f : α → m.Action β) :
    (a >>= f) fuel log = (b >>= f) fuel' log' := by
  rw [bind_apply, bind_apply, h]

@[simp] theorem note_bind (e : Event) (f : Unit → m.Action β) (fuel : Nat) (log : σ) :
    ((Effects.note e : m.Action Unit) >>= f) fuel log = f () fuel (m.observer.note log e) := rfl

end Action

/-- The recursive evaluation, metered by the machine. -/
def evaluation (m : Machine σ) (depth : Nat) (r : Recognizer) (offset : Nat) (input : List Token) :
    m.Action (Option Matched) :=
  m.grammar.evaluate m.limits.depth depth r offset input

open Effects (note)

/-- Leaves a frame with its result. -/
def close (m : Machine σ) (f : Frame) (result : Option Matched) : m.Action (Option Matched) := do
  note (.leave f.rule (result.map (·.width)))
  pure result

/-- What a frame has still to do once its alternative has failed. -/
def retry (m : Machine σ) (f : Frame) : m.Action (Option Matched) := do
  note (.backtrack f.rule f.index)
  let result ← m.grammar.evaluateAlternatives (m.evaluation (f.depth + 1)) f.rule f.offset f.input
    (f.index + 1) f.alternatives.tail
  m.close f result

/-- What a frame has still to do. -/
def complete (m : Machine σ) (f : Frame) : m.Action (Option Matched) :=
  if f.alternatives.isEmpty then m.close f none
  else do
    let others ← m.grammar.evaluateSymbols (m.evaluation (f.depth + 1)) f.rule f.symbols f.cursor f.rest
    match others with
    | some others => m.close f (some (⟨f.width, f.nodes⟩ ++ others))
    | none => m.retry f

/-- What a frame has still to do once its current symbol has come out. -/
def resume (m : Machine σ) (f : Frame) : Option Matched → m.Action (Option Matched)
  | some part => m.complete (f.accept part.nodes part.width)
  | none => m.retry f

/-- Hands a result down the stack. -/
def unwind (m : Machine σ) : List Frame → Option Matched → m.Action (Option Matched)
  | [], result => pure result
  | caller :: callers, result => do
    let result ← m.resume caller (result.map (.below caller.label))
    m.unwind callers result

/-- How the run goes on from a state, told without its steps. -/
def prospect (m : Machine σ) (s : State σ) : Run σ (Option Matched) :=
  (m.complete s.top >>= m.unwind s.callers) s.fuel s.log

theorem evaluation_eq (m : Machine σ) (depth : Nat) (r : Recognizer) (offset : Nat)
    (input : List Token) :
    m.evaluation depth r offset input =
      if m.limits.depth ≤ depth then Effects.fail (.recursionLimitExceeded m.limits.depth)
      else (do
        Effects.spend
        note (.enter r.name offset)
        let result ← m.grammar.evaluateAlternatives (m.evaluation (depth + 1)) r.name offset input 0
          r.alternatives
        note (.leave r.name (result.map (·.width)))
        pure result) := by
  unfold evaluation
  rw [Grammar.evaluate]

/-- A frame whose alternative has not begun has to try it and those behind it. -/
theorem complete_fresh (m : Machine σ) (f : Frame) (hs : f.symbols = f.alternatives.headD [])
    (hw : f.width = 0) (hr : f.rest = f.input) (hn : f.nodes = []) (fuel : Nat) (log : σ) :
    m.complete f fuel (if f.alternatives.isEmpty then log
        else m.observer.note log (.alternative f.rule f.index)) =
      (m.grammar.evaluateAlternatives (m.evaluation (f.depth + 1)) f.rule f.offset f.input f.index
        f.alternatives >>= m.close f) fuel log := by
  have hc : f.cursor = f.offset := by rw [Frame.cursor, hw, Nat.add_zero]
  have hd : (⟨f.width, f.nodes⟩ : Matched) = .empty := by rw [hw, hn]; rfl
  cases ha : f.alternatives with
  | nil => simp only [complete, ha, Grammar.evaluateAlternatives, List.isEmpty_nil, if_true, pure_bind]
  | cons symbols others =>
      simp only [complete, retry, ha, hs, hc, hr, hd, Grammar.evaluateAlternatives, List.isEmpty_cons,
        Bool.false_eq_true, if_false, List.headD_cons, List.tail_cons, bind_assoc, Action.note_bind]
      refine congrFun (congrFun (bind_congr ?_) fuel) _
      intro result
      cases result with
      | none => simp only [bind_assoc]
      | some matched => simp only [pure_bind, Matched.empty_append]

theorem prospect_backtrack (m : Machine σ) (fuel : Nat) (log : σ) (f : Frame)
    (callers : List Frame) :
    m.prospect (m.backtrack fuel log f callers) = (m.retry f >>= m.unwind callers) fuel log := by
  have fresh := m.complete_fresh f.nextAlternative rfl rfl rfl rfl fuel
    (m.observer.note log (.backtrack f.rule f.index))
  have tried : m.retry f fuel log =
      (m.grammar.evaluateAlternatives (m.evaluation (f.depth + 1)) f.rule f.offset f.input
        (f.index + 1) f.alternatives.tail >>= m.close f) fuel
        (m.observer.note log (.backtrack f.rule f.index)) := rfl
  exact Action.bind_eq_bind (fresh.trans tried.symm) _

/-- What the result of a step comes to. -/
def settle (m : Machine σ) : Except (Run σ (Option Matched)) (State σ) → Run σ (Option Matched)
  | .ok t => m.prospect t
  | .error done => done

theorem settle_leave (m : Machine σ) (s : State σ) (result : Option Matched) :
    m.settle (m.leave s result) = (m.close s.top result >>= m.unwind s.callers) s.fuel s.log := by
  rcases s with ⟨fuel, log, top, callers⟩
  cases callers with
  | nil => rfl
  | cons caller callers =>
      cases result with
      | none => exact m.prospect_backtrack fuel _ caller callers
      | some matched => rfl

/-- With a symbol at the front, a frame runs it and goes on with what came out. -/
theorem complete_symbol (m : Machine σ) {f : Frame} {symbol : Symbol} {symbols : List Symbol}
    (ha : f.alternatives.isEmpty = false) (hs : f.symbols = symbol :: symbols) :
    m.complete f = (do
      Effects.spend
      let part ← m.grammar.evaluateSymbol (m.evaluation (f.depth + 1)) f.rule f.cursor f.rest symbol
      m.resume f part) := by
  simp only [complete, ha, hs, Grammar.evaluateSymbols, Bool.false_eq_true, if_false, bind_assoc]
  refine bind_congr fun _ => bind_congr ?_
  intro part
  cases part with
  | none => simp only [pure_bind, resume]
  | some part =>
      have hc : (f.accept part.nodes part.width).cursor = f.cursor + part.width :=
        (Nat.add_assoc f.offset f.width part.width).symm
      have ha' : (f.accept part.nodes part.width).alternatives.isEmpty = false := ha
      have hs' : (f.accept part.nodes part.width).symbols = symbols := by
        change f.symbols.tail = symbols
        rw [hs, List.tail_cons]
      simp only [resume, complete, hc, ha', hs', Bool.false_eq_true, if_false, bind_assoc, pure_bind]
      refine bind_congr ?_
      intro others
      cases others with
      | none => rfl
      | some others =>
          have joined : (⟨f.width, f.nodes⟩ : Matched) ++ (part ++ others) =
              ⟨f.width + part.width, f.nodes ++ part.nodes⟩ ++ others :=
            (Matched.append_assoc _ _ _).symm
          exact congrArg (fun all => m.close f (some all)) joined

theorem evaluation_enter (m : Machine σ) (r : Recognizer) (depth offset : Nat) (input : List Token)
    (fuel : Nat) (log : σ) (k : Option Matched → m.Action (Option Matched)) :
    (m.evaluation depth r offset input >>= k) fuel log =
      match m.enter r depth offset input fuel log with
      | .error done => done
      | .ok (frame, fuel, log) => (m.complete frame >>= k) fuel log := by
  rw [evaluation_eq]
  unfold enter
  by_cases hd : m.limits.depth ≤ depth
  · rw [if_pos hd, if_pos hd]
    rfl
  · rw [if_neg hd, if_neg hd]
    cases fuel with
    | zero => rfl
    | succ fuel =>
        have fresh := m.complete_fresh (.enter r depth offset input) rfl rfl rfl rfl fuel
          (m.observer.note log (.enter r.name offset))
        exact Action.bind_eq_bind fresh.symm k

theorem settle_call (m : Machine σ) (r : Recognizer) (fuel : Nat) (log : σ) (f : Frame)
    (callers : List Frame) :
    m.settle (m.call r fuel log f callers) =
      (m.evaluation (f.depth + 1) r f.cursor f.rest >>= m.unwind (f :: callers)) fuel log := by
  rw [evaluation_enter, call]
  rcases m.enter r (f.depth + 1) f.cursor f.rest fuel log with _ | ⟨_, _, _⟩ <;> rfl

theorem settle_refer (m : Machine σ) (space : Namespace) (name : String) (fuel : Nat) (log : σ)
    (f : Frame) (callers : List Frame) (hl : f.label = some name) :
    m.settle (m.refer space name fuel log f callers) =
      (m.grammar.evaluateReference (m.evaluation (f.depth + 1)) space name f.cursor f.rest >>=
        m.resume f >>= m.unwind callers) fuel log := by
  unfold refer Grammar.evaluateReference
  cases m.grammar.lookup space name with
  | none => rfl
  | some r =>
      simp only [settle_call, unwind, hl, bind_assoc, pure_bind]

theorem settle_execute (m : Machine σ) {symbol : Symbol} {symbols : List Symbol} (fuel : Nat)
    (log : σ) (f : Frame) (callers : List Frame) (hs : f.symbols = symbol :: symbols) :
    m.settle (m.execute symbol fuel log f callers) =
      (m.grammar.evaluateSymbol (m.evaluation (f.depth + 1)) f.rule f.cursor f.rest symbol >>=
        m.resume f >>= m.unwind callers) fuel log := by
  cases symbol with
  | literal text =>
      unfold execute Grammar.evaluateSymbol
      cases f.rest with
      | nil => exact m.prospect_backtrack fuel _ f callers
      | cons token rest =>
          by_cases hl : token.lexeme = text
          · simp only [if_pos hl]
            rfl
          · simp only [if_neg hl]
            exact m.prospect_backtrack fuel _ f callers
  | tokens kind quantifier explicit =>
      unfold execute Grammar.evaluateSymbol
      by_cases hc : (kindRun kind quantifier f.rest).length < quantifier.least
      · simp only [if_pos hc]
        exact m.prospect_backtrack fuel _ f callers
      · simp only [if_neg hc]
        rfl
  | subrule name => exact m.settle_refer .rules name fuel log f callers (by rw [Frame.label, hs])
  | definition name =>
      exact m.settle_refer .definitions name fuel log f callers (by rw [Frame.label, hs])
  | group alternatives =>
      have hl : f.label = none := by rw [Frame.label, hs]
      simp only [execute, Grammar.evaluateSymbol, settle_call, unwind, hl, bind_assoc, pure_bind]
  | stray token => rfl

/-- A step does not change how the run goes on. -/
theorem settle_step (m : Machine σ) (s : State σ) : m.settle (m.step s) = m.prospect s := by
  rcases s with ⟨fuel, log, top, callers⟩
  unfold step
  cases ha : top.alternatives.isEmpty with
  | true =>
      simp only [if_true, settle_leave, prospect, complete, ha]
  | false =>
      simp only [Bool.false_eq_true, if_false]
      cases hs : top.symbols with
      | nil =>
          have ended : m.complete top = m.close top (some ⟨top.width, top.nodes⟩) := by
            simp only [complete, ha, hs, Grammar.evaluateSymbols, Bool.false_eq_true, if_false,
              pure_bind, Matched.append_empty]
          rw [settle_leave, prospect, ended]
      | cons symbol symbols =>
          rw [prospect, complete_symbol m ha hs]
          cases fuel with
          | zero => rfl
          | succ fuel => exact m.settle_execute fuel log top callers hs

theorem run_eq_prospect (m : Machine σ) (s : State σ) : m.run s = m.prospect s := by
  induction s using run.induct m with
  | case1 s t hs ih =>
      rw [run, ← settle_step, hs]
      exact ih
  | case2 s done hs =>
      rw [run, ← settle_step, hs]
      rfl

theorem bind_unwind_nil {m : Machine σ} (a : m.Action (Option Matched)) :
    a >>= m.unwind [] = a := bind_pure a

/-- A recognizer entered on top of a stack is evaluated, and its result goes down the stack. -/
theorem run_entered (m : Machine σ) (r : Recognizer) (depth offset : Nat) (input : List Token)
    (fuel : Nat) (log : σ) (callers : List Frame) :
    (match m.enter r depth offset input fuel log with
      | .error done => done
      | .ok (frame, fuel, log) => m.run ⟨fuel, log, frame, callers⟩) =
      (m.evaluation depth r offset input >>= m.unwind callers) fuel log := by
  rw [evaluation_enter]
  rcases m.enter r depth offset input fuel log with done | ⟨frame, fuel, log⟩
  · rfl
  · exact m.run_eq_prospect ⟨fuel, log, frame, callers⟩

/-- The machine and the recursive evaluation agree in the result or error, in the fuel that is left,
and in the log, hence in the furthest failure and in every event told. -/
theorem invoke_eq_evaluate (m : Machine σ) (r : Recognizer) (offset : Nat) (input : List Token)
    (fuel : Nat) (log : σ) :
    m.invoke r offset input fuel log =
      (m.grammar.evaluate m.limits.depth 0 r offset input : m.Action (Option Matched)) fuel log := by
  have entered := m.run_entered r 0 offset input fuel log []
  rwa [bind_unwind_nil] at entered

end Machine

end TokenGrammar
