import TokenGrammar.Match.Error
import TokenGrammar.Match.Tree

/-!
# Ordered choice on a stack of frames

A recognizer tries its alternatives in order, each from the place where the recognizer was entered,
and takes the first whose symbols match one after the other. Invocations nest on a stack of frames, so
that the recursion limit alone bounds their depth. Entering a recognizer and running a symbol take one
unit of fuel each. Main statement: every step that does not end the run lowers `State.measure`, so a
run always ends.
-/
namespace TokenGrammar

structure Limits where
  fuel : Nat
  depth : Nat
  deriving DecidableEq, Repr

def Limits.standard : Limits := ⟨1000000, 1024⟩

/-- What watches a run: it folds the events into a log. -/
structure Observer (σ : Type) where
  note : σ → Event → σ
  /-- What the log knows about the furthest failure. -/
  furthest? : σ → Option Failure

namespace Observer

def silent : Observer Unit := ⟨fun _ _ => (), fun _ => none⟩

def ofFailures : Observer (Option Failure) := ⟨Failure.note, id⟩

/-- Watches only if asked to. -/
def onlyIf {σ : Type} (watched : Bool) (o : Observer σ) : Observer σ :=
  if watched then o else ⟨fun log _ => log, fun _ => none⟩

def pair {σ τ : Type} (o : Observer σ) (p : Observer τ) : Observer (σ × τ) where
  note log e := (o.note log.1 e, p.note log.2 e)
  furthest? log := o.furthest? log.1

end Observer

/-- One running recognizer. -/
structure Frame where
  rule : String
  /-- Number of frames below. -/
  depth : Nat
  offset : Nat
  /-- The tokens from `offset` on. -/
  input : List Token
  /-- The alternative that runs and those still to be tried; none is left when all have failed. -/
  alternatives : List Alternative
  index : Nat
  /-- What is left of the alternative that runs. -/
  symbols : List Symbol
  /-- Number of tokens that the alternative has consumed. -/
  width : Nat
  /-- The tokens behind those. -/
  rest : List Token
  nodes : List Node

namespace Frame

def enter (r : Recognizer) (depth offset : Nat) (input : List Token) : Frame :=
  ⟨r.name, depth, offset, input, r.alternatives, 0, r.alternatives.headD [], 0, input, []⟩

/-- Drops what the alternative has done and turns to the next one. -/
def nextAlternative (f : Frame) : Frame :=
  { f with
    alternatives := f.alternatives.tail
    index := f.index + 1
    symbols := f.alternatives.tail.headD []
    width := 0
    rest := f.input
    nodes := [] }

/-- Moves behind the current symbol, which consumed `width` tokens. -/
def accept (f : Frame) (nodes : List Node) (width : Nat) : Frame :=
  { f with
    symbols := f.symbols.tail
    width := f.width + width
    rest := f.rest.drop width
    nodes := f.nodes ++ nodes }

/-- Where the alternative stands in the program. -/
def cursor (f : Frame) : Nat := f.offset + f.width

/-- The label of the subtree for what the current symbol invokes. -/
def label (f : Frame) : Option String :=
  match f.symbols with
  | .subrule name :: _ | .definition name :: _ => some name
  | _ => none

end Frame

/-- The state of a run: the frame on top and those below it. -/
structure State (σ : Type) where
  fuel : Nat
  log : σ
  top : Frame
  callers : List Frame

/-- Falls with every step: a symbol takes fuel, and a result takes a frame. -/
def State.measure {σ : Type} (s : State σ) : Nat := 2 * s.fuel + s.callers.length

/-- How a run ends, and what it leaves. -/
structure Run (σ α : Type) where
  outcome : Except RuntimeError α
  fuel : Nat
  log : σ

structure Machine (σ : Type) where
  grammar : Grammar
  limits : Limits
  observer : Observer σ

/-- The longest run of one kind at the front, as far as the quantifier allows. -/
def kindRun (kind : String) (quantifier : Quantifier) (input : List Token) : List Token :=
  let allowed := match quantifier.most with
    | some most => input.take most
    | none => input
  allowed.takeWhile (·.kind = kind)

namespace Machine

variable {σ : Type}

def backtrack (m : Machine σ) (fuel : Nat) (log : σ) (f : Frame) (callers : List Frame) : State σ :=
  let log := m.observer.note log (.backtrack f.rule f.index)
  let next := f.nextAlternative
  let log := if next.alternatives.isEmpty then log
    else m.observer.note log (.alternative next.rule next.index)
  ⟨fuel, log, next, callers⟩

/-- Opens a frame, unless it would be too deep or there is no fuel for it. -/
def enter (m : Machine σ) (r : Recognizer) (depth offset : Nat) (input : List Token)
    (fuel : Nat) (log : σ) : Except (Run σ (Option Matched)) (Frame × Nat × σ) :=
  if m.limits.depth ≤ depth then .error ⟨.error (.recursionLimitExceeded m.limits.depth), fuel, log⟩
  else match fuel with
    | 0 => .error ⟨.error (.fuelExhausted m.limits.fuel), 0, log⟩
    | fuel + 1 =>
      let log := m.observer.note log (.enter r.name offset)
      let log := if r.alternatives.isEmpty then log
        else m.observer.note log (.alternative r.name 0)
      .ok (.enter r depth offset input, fuel, log)

/-- Invokes a recognizer where the frame on top stands. -/
def call (m : Machine σ) (r : Recognizer) (fuel : Nat) (log : σ) (f : Frame)
    (callers : List Frame) : Except (Run σ (Option Matched)) (State σ) :=
  match m.enter r (f.depth + 1) f.cursor f.rest fuel log with
  | .error done => .error done
  | .ok (callee, fuel, log) => .ok ⟨fuel, log, callee, f :: callers⟩

/-- Invokes what a reference names. -/
def refer (m : Machine σ) (space : Namespace) (name : String) (fuel : Nat) (log : σ) (f : Frame)
    (callers : List Frame) : Except (Run σ (Option Matched)) (State σ) :=
  match m.grammar.lookup space name with
  | none => .error ⟨.error (.undefinedRule space name), fuel, log⟩
  | some r => m.call r fuel log f callers

/-- Runs one symbol of the frame on top. -/
def execute (m : Machine σ) (symbol : Symbol) (fuel : Nat) (log : σ) (f : Frame)
    (callers : List Frame) : Except (Run σ (Option Matched)) (State σ) :=
  match symbol with
  | .literal text =>
    match f.rest with
    | token :: _ =>
      if token.lexeme = text then
        .ok ⟨fuel, m.observer.note log (.literalMatched token), f.accept [.token token] 1, callers⟩
      else
        let log := m.observer.note log (.literalFailed f.rule text f.cursor (some token))
        .ok (m.backtrack fuel log f callers)
    | [] =>
      let log := m.observer.note log (.literalFailed f.rule text f.cursor none)
      .ok (m.backtrack fuel log f callers)
  | .tokens kind quantifier _ =>
    let run := kindRun kind quantifier f.rest
    let count := run.length
    if count < quantifier.least then
      let log := m.observer.note log (.tokensFailed f.rule kind count quantifier.least
        (f.cursor + count) (f.rest.drop count).head?)
      .ok (m.backtrack fuel log f callers)
    else
      .ok ⟨fuel, m.observer.note log (.tokensMatched kind count),
        f.accept (run.map .token) count, callers⟩
  | .subrule name => m.refer .rules name fuel log f callers
  | .definition name => m.refer .definitions name fuel log f callers
  | .group alternatives => m.call ⟨f.rule, alternatives⟩ fuel log f callers
  | .stray token => .error ⟨.error (.unsupportedSymbol f.rule token), fuel, log⟩

/-- Hands the result of the frame on top to its caller, or ends the run. -/
def leave (m : Machine σ) (s : State σ) (result : Option Matched) :
    Except (Run σ (Option Matched)) (State σ) :=
  let log := m.observer.note s.log (.leave s.top.rule (result.map (·.width)))
  match s.callers, result with
  | [], _ => .error ⟨.ok result, s.fuel, log⟩
  | caller :: callers, none => .ok (m.backtrack s.fuel log caller callers)
  | caller :: callers, some matched =>
    let subtree := .tree caller.label matched.width matched.nodes
    .ok ⟨s.fuel, log, caller.accept [subtree] matched.width, callers⟩

/-- The next state, or the end of the run. -/
def step (m : Machine σ) (s : State σ) : Except (Run σ (Option Matched)) (State σ) :=
  if s.top.alternatives.isEmpty then m.leave s none
  else match s.top.symbols with
    | [] => m.leave s (some ⟨s.top.width, s.top.nodes⟩)
    | symbol :: _ =>
      match s.fuel with
      | 0 => .error ⟨.error (.fuelExhausted m.limits.fuel), 0, s.log⟩
      | fuel + 1 => m.execute symbol fuel s.log s.top s.callers

theorem measure_call {m : Machine σ} {r : Recognizer} {fuel : Nat} {log : σ} {f : Frame}
    {callers : List Frame} {t : State σ} (h : m.call r fuel log f callers = .ok t) :
    t.measure < 2 * fuel + callers.length := by
  simp only [call, enter] at h
  by_cases hd : m.limits.depth ≤ f.depth + 1
  · simp [hd] at h
  · cases fuel with
    | zero => simp [hd] at h
    | succ fuel =>
        simp only [hd, if_false, Except.ok.injEq] at h
        subst h
        simp only [State.measure, List.length_cons]
        omega

theorem measure_refer {m : Machine σ} {space : Namespace} {name : String} {fuel : Nat} {log : σ}
    {f : Frame} {callers : List Frame} {t : State σ}
    (h : m.refer space name fuel log f callers = .ok t) :
    t.measure < 2 * fuel + callers.length := by
  rw [refer] at h
  split at h
  · cases h
  · exact measure_call h

theorem measure_execute {m : Machine σ} {symbol : Symbol} {fuel : Nat} {log : σ} {f : Frame}
    {callers : List Frame} {t : State σ} (h : m.execute symbol fuel log f callers = .ok t) :
    t.measure ≤ 2 * fuel + callers.length := by
  cases symbol with
  | literal text =>
      simp only [execute] at h
      split at h
      · split at h <;> cases h <;> exact Nat.le_refl _
      · cases h
        exact Nat.le_refl _
  | tokens kind quantifier explicit =>
      simp only [execute] at h
      split at h <;> cases h <;> exact Nat.le_refl _
  | subrule name => exact Nat.le_of_lt (measure_refer h)
  | definition name => exact Nat.le_of_lt (measure_refer h)
  | group alternatives => exact Nat.le_of_lt (measure_call h)
  | stray token => cases h

theorem measure_leave {m : Machine σ} {s t : State σ} {result : Option Matched}
    (h : m.leave s result = .ok t) : t.measure < s.measure := by
  rcases s with ⟨fuel, log, top, callers⟩
  cases callers with
  | nil => cases result <;> cases h
  | cons caller callers =>
      cases result <;> cases h <;> exact Nat.lt_succ_self _

theorem measure_step {m : Machine σ} {s t : State σ} (h : m.step s = .ok t) :
    t.measure < s.measure := by
  rw [step] at h
  split at h
  · exact measure_leave h
  · split at h
    · exact measure_leave h
    · split at h
      · cases h
      · next fuel hf =>
          have := measure_execute h
          simp only [State.measure, hf] at this ⊢
          omega

/-- Steps until the run ends. -/
def run (m : Machine σ) (s : State σ) : Run σ (Option Matched) :=
  match _ : m.step s with
  | .ok t => m.run t
  | .error done => done
termination_by s.measure
decreasing_by exact measure_step (by assumption)

/-- Runs a recognizer on the tokens from `offset` on. -/
def invoke (m : Machine σ) (r : Recognizer) (offset : Nat) (input : List Token) (fuel : Nat)
    (log : σ) : Run σ (Option Matched) :=
  match m.enter r 0 offset input fuel log with
  | .error done => done
  | .ok (frame, fuel, log) => m.run ⟨fuel, log, frame, []⟩

/-- Runs a named recognizer on the tokens from the first on; what it leaves over does not matter. -/
def recognize (m : Machine σ) (space : Namespace) (name : String) (tokens : List Token) (log : σ) :
    Run σ (Option Matched) :=
  match m.grammar.lookup space name with
  | none => ⟨.error (.undefinedRule space name), m.limits.fuel, log⟩
  | some r => m.invoke r 0 tokens m.limits.fuel log

end Machine

end TokenGrammar
