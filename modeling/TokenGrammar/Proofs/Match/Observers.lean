import TokenGrammar.Match.Trace
import TokenGrammar.Proofs.Match.Iterations
import TokenGrammar.Proofs.Match.Moving
import TokenGrammar.Proofs.Match.Summary

/-!
# Observers never steer

Two machines that differ only in who watches them, one of whom knows part of what the other one does, go
through the same states but for the log. So neither the search for the furthest failure nor a trace has a say
in how a run ends.
-/
namespace TokenGrammar

variable {σ τ α : Type}

/-- Part of what the first observer knows is what the second one knows. -/
structure Observer.Shows (o : Observer σ) (part : σ → τ) (p : Observer τ) : Prop where
  note (log : σ) (e : Event) : p.note (part log) e = part (o.note log e)

theorem Observer.shows_fst (o : Observer σ) (p : Observer τ) : (o.pair p).Shows Prod.fst o := ⟨fun _ _ => rfl⟩

def State.seen (part : σ → τ) (s : State σ) : State τ := ⟨s.fuel, part s.log, s.top, s.callers⟩

def Run.seen (part : σ → τ) (run : Run σ α) : Run τ α := ⟨run.outcome, run.fuel, part run.log⟩

/-- The run without the report on the furthest failure. -/
def Run.unreported (run : Run σ α) : Run σ α := ⟨run.outcome.mapError .unreported, run.fuel, run.log⟩

def Invocation.seen (part : σ → τ) (i : Invocation σ) : Invocation τ :=
  ⟨i.recognizer, i.offset, i.input, i.fuel, part i.log⟩

/-- The next state or the end of a run. -/
def seenNext (part : σ → τ) : Except (Run σ α) (State σ) → Except (Run τ α) (State τ)
  | .ok t => .ok (t.seen part)
  | .error done => .error (done.seen part)

namespace Machine

/-- The machine under another observer. -/
def under (m : Machine σ) (p : Observer τ) : Machine τ := ⟨m.grammar, m.limits, p⟩

variable {m : Machine σ} {part : σ → τ} {p : Observer τ}

@[simp] theorem under_grammar : (m.under p).grammar = m.grammar := rfl

@[simp] theorem under_observer : (m.under p).observer = p := rfl

variable (h : m.observer.Shows part p)

include h

theorem backtrack_seen (fuel : Nat) (log : σ) (f : Frame) (callers : List Frame) :
    (m.under p).backtrack fuel (part log) f callers = (m.backtrack fuel log f callers).seen part := by
  by_cases last : f.nextAlternative.alternatives.isEmpty
  · simp [backtrack, State.seen, under, last, h.note]
  · simp [backtrack, State.seen, under, last, h.note]

theorem enter_seen (r : Recognizer) (depth offset : Nat) (input : List Token) (fuel : Nat) (log : σ) :
    (m.under p).enter r depth offset input fuel (part log) =
      match m.enter r depth offset input fuel log with
      | .ok (frame, left, log) => .ok (frame, left, part log)
      | .error done => .error (done.seen part) := by
  by_cases deep : m.limits.depth ≤ depth
  · simp [enter, under, Run.seen, deep]
  · cases fuel with
    | zero => simp [enter, under, Run.seen, deep]
    | succ fuel =>
        by_cases none : r.alternatives.isEmpty
        · simp [enter, under, deep, none, h.note]
        · simp [enter, under, deep, none, h.note]

theorem call_seen (r : Recognizer) (fuel : Nat) (log : σ) (f : Frame) (callers : List Frame) :
    (m.under p).call r fuel (part log) f callers = seenNext part (m.call r fuel log f callers) := by
  unfold call
  rw [enter_seen h]
  cases m.enter r (f.depth + 1) f.cursor f.rest fuel log with
  | ok entered => rfl
  | error done => rfl

theorem refer_seen (space : Namespace) (name : String) (fuel : Nat) (log : σ) (f : Frame)
    (callers : List Frame) :
    (m.under p).refer space name fuel (part log) f callers =
      seenNext part (m.refer space name fuel log f callers) := by
  unfold refer
  rw [under_grammar]
  cases m.grammar.lookup space name with
  | none => rfl
  | some r => exact call_seen h r fuel log f callers

theorem execute_seen (symbol : Symbol) (fuel : Nat) (log : σ) (f : Frame) (callers : List Frame) :
    (m.under p).execute symbol fuel (part log) f callers =
      seenNext part (m.execute symbol fuel log f callers) := by
  have failed (e : Event) : (m.under p).backtrack fuel (p.note (part log) e) f callers =
      (m.backtrack fuel (m.observer.note log e) f callers).seen part := by
    rw [h.note]
    exact backtrack_seen h fuel _ f callers
  have matched (e : Event) (next : Frame) : (⟨fuel, p.note (part log) e, next, callers⟩ : State τ) =
      State.seen part ⟨fuel, m.observer.note log e, next, callers⟩ := by
    rw [h.note]
    rfl
  cases symbol with
  | literal text =>
      simp only [execute]
      cases f.rest with
      | nil => exact congrArg Except.ok (failed _)
      | cons token rest =>
          by_cases hl : token.lexeme = text
          · simp only [if_pos hl]
            exact congrArg Except.ok (matched _ _)
          · simp only [if_neg hl]
            exact congrArg Except.ok (failed _)
  | tokens kind quantifier explicit =>
      simp only [execute]
      by_cases hl : (kindRun kind quantifier f.rest).length < quantifier.least
      · simp only [if_pos hl]
        exact congrArg Except.ok (failed _)
      · simp only [if_neg hl]
        exact congrArg Except.ok (matched _ _)
  | subrule name => exact refer_seen h .rules name fuel log f callers
  | definition name => exact refer_seen h .definitions name fuel log f callers
  | group alternatives => exact call_seen h ⟨f.rule, alternatives⟩ fuel log f callers
  | stray token => rfl

theorem leave_seen (s : State σ) (result : Option Matched) :
    (m.under p).leave (s.seen part) result = seenNext part (m.leave s result) := by
  have left (e : Event) : p.note (part s.log) e = part (m.observer.note s.log e) := h.note s.log e
  rcases s with ⟨fuel, log, top, callers⟩
  cases callers with
  | nil => simp only [leave, State.seen, under, left]; rfl
  | cons caller callers =>
      cases result with
      | none =>
          simp only [leave, State.seen, under, left]
          exact congrArg Except.ok (backtrack_seen h fuel _ caller callers)
      | some matched => simp only [leave, State.seen, under, left]; rfl

/-- The machines step together. -/
theorem step_seen (s : State σ) : (m.under p).step (s.seen part) = seenNext part (m.step s) := by
  rcases s with ⟨fuel, log, top, callers⟩
  by_cases failed : top.alternatives.isEmpty
  · simp only [step, State.seen, failed, if_true]
    exact leave_seen h ⟨fuel, log, top, callers⟩ none
  · simp only [step, State.seen, failed]
    cases top.symbols with
    | nil => exact leave_seen h ⟨fuel, log, top, callers⟩ _
    | cons symbol symbols =>
        cases fuel with
        | zero => rfl
        | succ fuel => exact execute_seen h symbol fuel log top callers

theorem run_seen (s : State σ) : (m.under p).run (s.seen part) = (m.run s).seen part := by
  induction s using run.induct m with
  | case1 s t hs ih =>
      have hs' : (m.under p).step (s.seen part) = .ok (t.seen part) := by rw [step_seen h, hs]; rfl
      rw [run_of_ok hs, run_of_ok hs', ih]
  | case2 s done hs =>
      have hs' : (m.under p).step (s.seen part) = .error (done.seen part) := by rw [step_seen h, hs]; rfl
      rw [run, hs', run, hs]

theorem invoke_seen (r : Recognizer) (offset : Nat) (input : List Token) (fuel : Nat) (log : σ) :
    (m.under p).invoke r offset input fuel (part log) = (m.invoke r offset input fuel log).seen part := by
  unfold invoke
  rw [enter_seen h]
  cases m.enter r 0 offset input fuel log with
  | error done => rfl
  | ok entered =>
      obtain ⟨frame, left, log⟩ := entered
      exact run_seen h ⟨left, log, frame, []⟩

/-- Iteration by iteration, an invocation goes through the same states. -/
theorem Loops.seen {i : Invocation σ} {n : Nat} {s : State σ} (loops : m.Loops i n s) :
    (m.under p).Loops (i.seen part) n (s.seen part) := by
  induction loops with
  | @enter frame fuel log entered =>
      have entered' := enter_seen h i.recognizer 0 i.offset i.input i.fuel i.log
      rw [entered] at entered'
      exact .enter entered'
  | step _ stepped ih =>
      apply ih.step
      rw [step_seen h, stepped]
      rfl

theorem recognize_seen (space : Namespace) (name : String) (tokens : List Token) (log : σ) :
    (m.under p).recognize space name tokens (part log) =
      (m.recognize space name tokens log).seen part := by
  unfold recognize
  rw [under_grammar]
  cases m.grammar.lookup space name with
  | none => rfl
  | some r => exact invoke_seen h r 0 tokens m.limits.fuel log

theorem firstAdvance_seen (offset : Nat) (input : List Token) (fuel : Nat) (log : σ)
    (rules : List Recognizer) :
    (m.under p).firstAdvance offset input fuel (part log) rules =
      (m.firstAdvance offset input fuel log rules).seen part := by
  induction rules generalizing fuel log with
  | nil => rfl
  | cons r others ih =>
      rw [firstAdvance, firstAdvance, invoke_seen h]
      rcases m.invoke r offset input fuel log with ⟨e | _ | matched, fuel, log⟩
      · rfl
      · exact ih fuel log
      · by_cases hw : matched.width = 0
        · simp only [Run.seen, if_pos hw]
          exact ih fuel log
        · simp only [Run.seen, if_neg hw]

theorem parseFrom_seen (offset : Nat) (found : List Subtree) (fuel : Nat) (log : σ)
    (tokens : List Token) :
    ((m.under p).parseFrom offset found fuel (part log) tokens).unreported =
      (m.parseFrom offset found fuel log tokens).unreported.seen part := by
  induction offset, tokens using Grammar.evaluateProgram.induct generalizing found fuel log with
  | case1 offset =>
      rw [parseFrom, parseFrom]
      rfl
  | case2 offset token rest ih =>
      rw [parseFrom, parseFrom]
      simp only [under_grammar, firstAdvance_seen h]
      rcases m.firstAdvance offset (token :: rest) fuel log m.grammar.rules.reverse with
        ⟨e | _ | ⟨r, matched⟩, left, log⟩
      · rfl
      · rfl
      · simp only [Run.seen, under_observer, h.note]
        exact ih matched _ left _

theorem parse_seen (tokens : List Token) (log : σ) :
    ((m.under p).parse tokens (part log)).unreported = (m.parse tokens log).unreported.seen part :=
  parseFrom_seen h 0 [] m.limits.fuel log tokens

omit h

theorem recognize_beside (m : Machine σ) (p : Observer τ) (space : Namespace) (name : String)
    (tokens : List Token) (log : σ × τ) :
    m.recognize space name tokens log.1 =
      ((m.beside p).recognize space name tokens log).seen Prod.fst :=
  recognize_seen (m := m.beside p) (m.observer.shows_fst p) space name tokens log

theorem parse_beside (m : Machine σ) (p : Observer τ) (tokens : List Token) (log : σ × τ) :
    (m.parse tokens log.1).unreported = ((m.beside p).parse tokens log).unreported.seen Prod.fst :=
  parse_seen (m := m.beside p) (m.observer.shows_fst p) tokens log

/-- A machine that knows of no furthest failure reports none. -/
theorem unreported_of_unwatched {m : Machine σ} (unwatched : ∀ log, m.observer.furthest? log = none)
    (tokens : List Token) (log : σ) :
    (m.parse tokens log).outcome.mapError .unreported = (m.parse tokens log).outcome := by
  cases ho : (m.parse tokens log).outcome with
  | ok program => rfl
  | error e =>
      cases e with
      | unexpectedToken token furthest =>
          obtain ⟨-, known⟩ := script_of_unexpectedToken ho
          rw [known, unwatched]
          rfl
      | undefinedRule | unsupportedSymbol | recursionLimitExceeded | fuelExhausted => rfl

theorem message_unreported (e : RuntimeError) : e.unreported.message = e.message := by
  cases e with
  | unexpectedToken | undefinedRule | unsupportedSymbol | recursionLimitExceeded | fuelExhausted => rfl

/-- What is known without the search for the furthest failure. -/
def untracked (log : Option Failure × τ) : Option Failure × τ := (none, log.2)

theorem shows_untracked (p : Observer τ) :
    ((Observer.ofFailures.onlyIf true).pair p).Shows untracked
      ((Observer.ofFailures.onlyIf false).pair p) := ⟨fun _ _ => rfl⟩

/-- A parse without the search for the furthest failure is the parse with it, seen without it. -/
theorem parse_untracked (g : Grammar) (limits : Limits) (p : Observer τ) (tokens : List Token) (log : τ) :
    ((reporting g limits false).beside p).parse tokens (none, log) =
      (((reporting g limits true).beside p).parse tokens (none, log)).unreported.seen untracked := by
  have seen := parse_seen (m := (reporting g limits true).beside p) (shows_untracked p) tokens (none, log)
  have same := unreported_of_unwatched (m := (reporting g limits false).beside p) (fun _ => rfl) tokens
    (none, log)
  rw [← seen]
  exact congrArg (Run.mk · _ _) same.symm

/-- With the search for the furthest failure and without it, every invocation goes through the same frames
with the same fuel, and whoever else watches is told the same. Recognitions end alike, and so do parses but
for that failure, of which no message tells. Traces, however verbose, make no difference either. -/
theorem observers_never_steer (g : Grammar) (limits : Limits) (tokens : List Token) (p : Observer τ)
    (log : τ) :
    let tracked := (reporting g limits true).beside p
    let plain := (reporting g limits false).beside p
    (∀ i n s, tracked.Loops i n s → plain.Loops (i.seen untracked) n (s.seen untracked)) ∧
    (∀ space name,
      (tracked.recognize space name tokens (none, log)).outcome =
        (plain.recognize space name tokens (none, log)).outcome ∧
      (tracked.recognize space name tokens (none, log)).log.2 =
        (plain.recognize space name tokens (none, log)).log.2) ∧
    (tracked.parse tokens (none, log)).outcome.mapError .unreported =
      (plain.parse tokens (none, log)).outcome ∧
    (tracked.parse tokens (none, log)).outcome.mapError RuntimeError.message =
      (plain.parse tokens (none, log)).outcome.mapError RuntimeError.message ∧
    (tracked.parse tokens (none, log)).log.2 = (plain.parse tokens (none, log)).log.2 ∧
    ∀ watched verbosity palette,
      let untraced := reporting g limits watched
      let traced := untraced.beside (.ofTrace verbosity palette)
      (∀ space name, (traced.recognize space name tokens (none, Trace.empty)).outcome =
        (untraced.recognize space name tokens none).outcome) ∧
      (traced.parse tokens (none, Trace.empty)).outcome = (untraced.parse tokens none).outcome := by
  intro tracked plain
  have recognized (space : Namespace) (name : String) :
      plain.recognize space name tokens (none, log) =
        (tracked.recognize space name tokens (none, log)).seen untracked :=
    recognize_seen (m := tracked) (shows_untracked p) space name tokens (none, log)
  have parsed : plain.parse tokens (none, log) =
      (tracked.parse tokens (none, log)).unreported.seen untracked := parse_untracked g limits p tokens log
  refine ⟨?_, ?_, ?_, ?_, ?_, ?_⟩
  · intro i n s loops
    exact loops.seen (shows_untracked p)
  · intro space name
    rw [recognized]
    exact ⟨rfl, rfl⟩
  · rw [parsed]
    rfl
  · rw [parsed]
    change _ = ((tracked.parse tokens (none, log)).outcome.mapError RuntimeError.unreported).mapError _
    cases (tracked.parse tokens (none, log)).outcome with
    | ok program => rfl
    | error e => exact congrArg Except.error (message_unreported e).symm
  · rw [parsed]
    rfl
  · intro watched verbosity palette untraced traced
    constructor
    · intro space name
      exact congrArg Run.outcome (recognize_beside untraced _ space name tokens (none, Trace.empty)).symm
    · exact outcome_parse_beside untraced _ tokens (none, Trace.empty)

end Machine

namespace Brackets

/-- A single opening bracket is refused, whether it is told what was expected behind it or not, and whether
all that happens is printed or not. -/
theorem observers_never_steer_opening :
    (((Machine.reporting grammar .standard true).beside .recording).parse [opening 0]
      (none, [])).outcome.mapError RuntimeError.unreported =
      .error (.unexpectedToken (opening 0) none) ∧
    (((Machine.reporting grammar .standard true).beside .recording).parse [opening 0] (none, [])).log.2 =
      (((Machine.reporting grammar .standard false).beside .recording).parse [opening 0] (none, [])).log.2 ∧
    (((Machine.reporting grammar .standard true).beside (.ofTrace .symbols .plain)).parse [opening 0]
      (none, Trace.empty)).outcome = .error (.unexpectedToken (opening 0)
        (some ⟨1, "nest", [.literal "(", .literal ")"], none⟩)) := by
  have refused : (((Machine.reporting grammar .standard false).beside .recording).parse [opening 0]
      (none, [])).outcome = .error (.unexpectedToken (opening 0) none) := by with_unfolding_all rfl
  have told : ((Machine.reporting grammar .standard true).parse [opening 0] none).outcome =
      .error (.unexpectedToken (opening 0) (some ⟨1, "nest", [.literal "(", .literal ")"], none⟩)) := by
    with_unfolding_all rfl
  obtain ⟨-, -, outcome, -, calls, traced⟩ :=
    Machine.observers_never_steer grammar .standard [opening 0] .recording []
  exact ⟨outcome.trans refused, calls, (traced true .symbols .plain).2.trans told⟩

end Brackets

end TokenGrammar
