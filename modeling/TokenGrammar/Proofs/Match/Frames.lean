import TokenGrammar.Proofs.Match.Iterations
import TokenGrammar.Proofs.Match.LeftCalls

/-!
# The stack of frames

Every frame but the one on top waits at a symbol, and the frame above it runs just what this symbol calls, from
where the frame stands. It keeps the tokens that it has taken, and has the others still before it. A step changes
the frame on top, opens one above it, or hands its result to the one below. Main statement: in every iteration of
an invocation the stack is of this form, and is no higher than the recursion limit. So whatever a step takes out of
the program is in it, and a result is kept under the name that was called.
-/
namespace TokenGrammar

/-- The tokens from one place to another, if both are in the program and in this order. -/
def slice? (tokens : List Token) (start stop : Nat) : Option (List Token) :=
  if start ≤ stop ∧ stop ≤ tokens.length then some (tokens.extract start stop) else none

/-- The name that a reference has. A group has none. -/
def Symbol.reference? : Symbol → Option String
  | .subrule name | .definition name => some name
  | _ => none

/-- All frames of a state, the one on top first. -/
def State.frames {σ : Type} (s : State σ) : List Frame := s.top :: s.callers

namespace Frame

/-- The frame is in one of the recognizer's alternatives, before one of its symbols or behind the last, or all of
them have failed. -/
structure Runs (f : Frame) (r : Recognizer) : Prop where
  rule : f.rule = r.name
  alternatives : f.alternatives = r.alternatives.drop f.index
  symbols : f.symbols <:+ f.alternatives.headD []

/-- The frame has taken tokens of the program from its start on, and the others are before it. -/
structure Reads (f : Frame) (tokens : List Token) : Prop where
  start_le : f.offset ≤ tokens.length
  input : f.input = tokens.drop f.offset
  rest : f.rest = tokens.drop f.cursor
  covers : (⟨f.width, f.nodes⟩ : Matched).Covers f.input

/-- The frame runs what is invoked at a place and a depth. -/
structure Activates (f : Frame) (tokens : List Token) (r : Recognizer) (start depth : Nat) : Prop where
  runs : f.Runs r
  reads : f.Reads tokens
  offset : f.offset = start
  depth : f.depth = depth

variable {f : Frame} {r : Recognizer} {tokens : List Token} {start depth : Nat}

theorem label_eq {symbol : Symbol} {symbols : List Symbol} (h : f.symbols = symbol :: symbols) :
    f.label = symbol.reference? := by
  unfold label
  rw [h]
  cases symbol with
  | literal | tokens | subrule | definition | group | stray => rfl

theorem Reads.cursor_le (h : f.Reads tokens) : f.cursor ≤ tokens.length := by
  have taken : f.width ≤ f.input.length := h.covers.width_le
  have start := h.start_le
  rw [h.input, List.length_drop] at taken
  rw [cursor]
  omega

theorem Reads.rest_eq (h : f.Reads tokens) : f.rest = f.input.drop f.width := by
  rw [h.rest, h.input, List.drop_drop, cursor]

/-- Its nodes are made of the tokens from its start to its cursor. -/
theorem Reads.slice?_eq (h : f.Reads tokens) :
    slice? tokens f.offset f.cursor = some (leavesAll f.nodes) := by
  have inside : f.offset ≤ f.cursor ∧ f.cursor ≤ tokens.length := ⟨Nat.le_add_right _ _, h.cursor_le⟩
  have leaves : leavesAll f.nodes = f.input.take f.width := h.covers.leaves
  rw [slice?, if_pos inside, leaves, h.input, List.extract_eq_take_drop, cursor, Nat.add_sub_cancel_left]

/-- What is at the front of the tokens before it is in the program at its cursor. -/
theorem Reads.slice?_front (h : f.Reads tokens) {front : List Token} (hf : front <+: f.rest) :
    slice? tokens f.cursor (f.cursor + front.length) = some front := by
  have left : front.length ≤ tokens.length - f.cursor := by
    rw [← List.length_drop, ← h.rest]
    exact hf.length_le
  have inside : f.cursor ≤ f.cursor + front.length ∧ f.cursor + front.length ≤ tokens.length :=
    ⟨Nat.le_add_right _ _, by have := h.cursor_le; omega⟩
  rw [slice?, if_pos inside, List.extract_eq_take_drop, Nat.add_sub_cancel_left, ← h.rest,
    List.prefix_iff_eq_take.mp hf |>.symm]

theorem Reads.slice?_rest (h : f.Reads tokens) : slice? tokens f.cursor tokens.length = some f.rest := by
  have whole := h.slice?_front List.prefix_rfl
  rwa [h.rest, List.length_drop, Nat.add_sub_of_le h.cursor_le, ← h.rest] at whole

theorem activates_enter (r : Recognizer) (depth : Nat) (inside : start ≤ tokens.length) :
    (enter r depth start (tokens.drop start)).Activates tokens r start depth where
  runs := ⟨rfl, rfl, List.suffix_rfl⟩
  reads := ⟨inside, rfl, rfl, .empty _⟩
  offset := rfl
  depth := rfl

theorem Activates.nextAlternative (h : f.Activates tokens r start depth) :
    f.nextAlternative.Activates tokens r start depth where
  runs.rule := h.runs.rule
  runs.alternatives := by
    have left := congrArg List.tail h.runs.alternatives
    rwa [List.tail_drop] at left
  runs.symbols := List.suffix_rfl
  reads := ⟨h.reads.start_le, h.reads.input, h.reads.input, .empty _⟩
  offset := h.offset
  depth := h.depth

theorem Activates.accept (h : f.Activates tokens r start depth) {part : Matched} (hp : part.Covers f.rest) :
    (f.accept part.nodes part.width).Activates tokens r start depth where
  runs := ⟨h.runs.rule, h.runs.alternatives, (List.tail_suffix _).trans h.runs.symbols⟩
  reads.start_le := h.reads.start_le
  reads.input := h.reads.input
  reads.rest := by
    change f.rest.drop part.width = tokens.drop (f.offset + (f.width + part.width))
    rw [h.reads.rest, List.drop_drop, cursor, Nat.add_assoc]
  reads.covers := by
    have later := h.reads.rest_eq ▸ hp
    exact h.reads.covers.append later
  offset := h.offset
  depth := h.depth

/-- What a frame has taken is what the frame below it goes on with. -/
theorem Reads.covers_below {lower : Frame} (h : f.Reads tokens) (hl : lower.Reads tokens)
    (here : f.offset = lower.cursor) (label : Option String) :
    ((⟨f.width, f.nodes⟩ : Matched).below label).Covers lower.rest := by
  rw [hl.rest, ← here, ← h.input]
  exact h.covers.below label

end Frame

/-- Frames on a stack, the one on top first: at the bottom one for what is invoked, and above each other frame one
for what its current symbol calls. -/
inductive Stacked (g : Grammar) (tokens : List Token) (r : Recognizer) (start : Nat) : List Frame → Prop
  | bottom {f : Frame} : f.Activates tokens r start 0 → Stacked g tokens r start [f]
  | call {upper lower : Frame} {below : List Frame} {symbol : Symbol} {symbols : List Symbol}
      {callee : Recognizer} : Stacked g tokens r start (lower :: below) → lower.symbols = symbol :: symbols →
      g.Calls lower.rule symbol callee → upper.Activates tokens callee lower.cursor (lower.depth + 1) →
      Stacked g tokens r start (upper :: lower :: below)

namespace Stacked

variable {g : Grammar} {tokens : List Token} {r : Recognizer} {start : Nat} {frames : List Frame}

theorem reads (h : Stacked g tokens r start frames) : ∀ f ∈ frames, f.Reads tokens := by
  induction h with
  | bottom own => exact List.forall_mem_singleton.mpr own.reads
  | call _ _ _ own ih => exact List.forall_mem_cons.mpr ⟨own.reads, ih⟩

theorem exists_bottom (h : Stacked g tokens r start frames) :
    ∃ f, frames.getLast? = some f ∧ f.Runs r ∧ f.offset = start := by
  induction h with
  | @bottom f own => exact ⟨f, rfl, own.runs, own.offset⟩
  | call _ _ _ _ ih =>
      obtain ⟨f, last, begun⟩ := ih
      exact ⟨f, by rw [List.getLast?_cons_cons, last], begun⟩

/-- The frame above another one runs what the other one's current symbol calls. -/
theorem called (h : Stacked g tokens r start frames) (above : List Frame) {upper lower : Frame}
    {below : List Frame} (hf : frames = above ++ upper :: lower :: below) :
    ∃ symbol symbols callee, lower.symbols = symbol :: symbols ∧ g.Calls lower.rule symbol callee ∧
      upper.Runs callee ∧ upper.offset = lower.cursor := by
  induction h generalizing above with
  | bottom own =>
      have lengths := congrArg List.length hf
      simp only [List.length_append, List.length_cons, List.length_nil] at lengths
      omega
  | @call _ _ _ symbol symbols callee _ current calls own ih =>
      cases above with
      | nil =>
          cases hf
          exact ⟨symbol, symbols, callee, current, calls, own.runs, own.offset⟩
      | cons _ above => exact ih above (List.cons.inj hf).2

theorem current_of_mem_tail (h : Stacked g tokens r start frames) : ∀ f ∈ frames.tail, f.symbols ≠ [] := by
  induction h with
  | bottom own => exact List.forall_mem_nil _
  | call _ current _ _ ih =>
      refine List.forall_mem_cons.mpr ⟨?_, ih⟩
      rw [current]
      nofun

variable {top : Frame} {callers : List Frame}

theorem depth_eq (h : Stacked g tokens r start (top :: callers)) : top.depth = callers.length := by
  generalize hf : top :: callers = frames at h
  induction h generalizing top callers with
  | bottom own =>
      cases hf
      exact own.depth
  | call _ _ _ own ih =>
      cases hf
      rw [own.depth, ih rfl, List.length_cons]

/-- The frame on top may change as long as it goes on with what it runs. -/
theorem change (h : Stacked g tokens r start (top :: callers)) {top' : Frame}
    (goes : ∀ callee offset depth, top.Activates tokens callee offset depth →
      top'.Activates tokens callee offset depth) : Stacked g tokens r start (top' :: callers) := by
  cases h with
  | bottom own => exact .bottom (goes _ _ _ own)
  | call stacked current calls own => exact .call stacked current calls (goes _ _ _ own)

end Stacked

namespace State

variable {σ : Type}

/-- The frame on top is where the stack, counted from the bottom, ends. No cursor is behind the program, and what
is looked at from there is in it: the tokens that are left, and those of a class at their front. -/
structure InRange (tokens : List Token) (s : State σ) : Prop where
  top : s.frames.reverse[s.frames.length - 1]? = some s.top
  cursor : ∀ f ∈ s.frames, min f.cursor tokens.length = f.cursor
  rest : ∀ f ∈ s.frames, slice? tokens f.cursor tokens.length = some f.rest
  run : ∀ f ∈ s.frames, ∀ kind quantifier,
    slice? tokens f.cursor (f.cursor + (kindRun kind quantifier f.rest).length) =
      some (kindRun kind quantifier f.rest)

variable {s : State σ} {tokens : List Token}

theorem inRange_of_reads (reads : ∀ f ∈ s.frames, f.Reads tokens) : s.InRange tokens where
  top := by
    have last : s.frames.length - 1 < s.frames.length := Nat.sub_lt (Nat.succ_pos _) Nat.one_pos
    rw [List.getElem?_reverse last, Nat.sub_self]
    rfl
  cursor f member := Nat.min_eq_left (reads f member).cursor_le
  rest f member := (reads f member).slice?_rest
  run f member kind quantifier :=
    (reads f member).slice?_front (isKindRun_kindRun kind quantifier f.rest).front

end State

namespace Machine

variable {σ : Type} {m : Machine σ} {s t : State σ}

/-- How a step changes the stack. -/
inductive Turns (m : Machine σ) (s t : State σ) : Prop
  /-- The current symbol takes tokens itself. -/
  | taken {part : Matched} : part.Covers s.top.rest → t.callers = s.callers →
      t.top = s.top.accept part.nodes part.width → Turns m s t
  | failed : t.callers = s.callers → t.top = s.top.nextAlternative → Turns m s t
  | called {symbol : Symbol} {symbols : List Symbol} {r : Recognizer} : s.top.symbols = symbol :: symbols →
      m.grammar.Calls s.top.rule symbol r → s.top.depth + 1 < m.limits.depth →
      t.callers = s.top :: s.callers → t.top = .enter r (s.top.depth + 1) s.top.cursor s.top.rest →
      Turns m s t
  | returned {caller : Frame} : s.callers = caller :: t.callers →
      t.top = caller.accept [.tree caller.label s.top.width s.top.nodes] s.top.width → Turns m s t
  | refused {caller : Frame} : s.callers = caller :: t.callers → t.top = caller.nextAlternative →
      Turns m s t

theorem frame_of_enter {r : Recognizer} {depth offset fuel left : Nat} {input : List Token} {log log' : σ}
    {frame : Frame} (h : m.enter r depth offset input fuel log = .ok (frame, left, log')) :
    depth < m.limits.depth ∧ frame = .enter r depth offset input := by
  unfold enter at h
  split at h
  · cases h
  · next shallow =>
      cases fuel with
      | zero => cases h
      | succ fuel =>
          cases h
          exact ⟨Nat.lt_of_not_le shallow, rfl⟩

theorem turns_call {symbol : Symbol} {symbols : List Symbol} {r : Recognizer} {fuel : Nat} {log : σ}
    (hs : s.top.symbols = symbol :: symbols) (calls : m.grammar.Calls s.top.rule symbol r)
    (h : m.call r fuel log s.top s.callers = .ok t) : m.Turns s t := by
  unfold call at h
  cases he : m.enter r (s.top.depth + 1) s.top.cursor s.top.rest fuel log with
  | error done =>
      rw [he] at h
      cases h
  | ok entered =>
      obtain ⟨callee, left, log⟩ := entered
      rw [he] at h
      cases h
      obtain ⟨shallow, opened⟩ := frame_of_enter he
      exact .called hs calls shallow rfl opened

theorem turns_refer {space : Namespace} {name : String} {symbol : Symbol} {symbols : List Symbol} {fuel : Nat}
    {log : σ} (hs : s.top.symbols = symbol :: symbols)
    (calls : ∀ r, m.grammar.lookup space name = some r → m.grammar.Calls s.top.rule symbol r)
    (h : m.refer space name fuel log s.top s.callers = .ok t) : m.Turns s t := by
  unfold refer at h
  cases hl : m.grammar.lookup space name with
  | none =>
      rw [hl] at h
      cases h
  | some r =>
      rw [hl] at h
      exact turns_call hs (calls r hl) h

theorem turns_execute {symbol : Symbol} {symbols : List Symbol} {fuel : Nat} {log : σ}
    (hs : s.top.symbols = symbol :: symbols) (h : m.execute symbol fuel log s.top s.callers = .ok t) :
    m.Turns s t := by
  cases symbol with
  | literal text =>
      simp only [execute] at h
      split at h
      · next token rest ahead =>
          split at h
          · cases h
            have front : [token] <+: s.top.rest := ahead ▸ List.prefix_append [token] rest
            exact .taken (.run front) rfl rfl
          · cases h
            exact .failed rfl rfl
      · cases h
        exact .failed rfl rfl
  | tokens kind quantifier explicit =>
      simp only [execute] at h
      split at h
      · cases h
        exact .failed rfl rfl
      · cases h
        exact .taken (.run (isKindRun_kindRun kind quantifier s.top.rest).front) rfl rfl
  | subrule name => exact turns_refer hs (fun _ found => .subrule found) h
  | definition name => exact turns_refer hs (fun _ found => .definition found) h
  | group alternatives => exact turns_call hs (.group alternatives) h
  | stray token => cases h

theorem turns_leave_none (h : m.leave s none = .ok t) : m.Turns s t := by
  rcases s with ⟨fuel, log, top, callers⟩
  cases callers with
  | nil => cases h
  | cons caller callers =>
      cases h
      exact .refused rfl rfl

theorem turns_leave_some (h : m.leave s (some ⟨s.top.width, s.top.nodes⟩) = .ok t) : m.Turns s t := by
  rcases s with ⟨fuel, log, top, callers⟩
  cases callers with
  | nil => cases h
  | cons caller callers =>
      cases h
      exact .returned rfl rfl

theorem turns_step (h : m.step s = .ok t) : m.Turns s t := by
  unfold step at h
  split at h
  · exact turns_leave_none h
  · split at h
    · exact turns_leave_some h
    · next hs =>
        split at h
        · cases h
        · exact turns_execute hs h

variable {tokens : List Token} {r : Recognizer} {start : Nat}

/-- A step keeps the stack in form. -/
theorem Turns.stacked (h : m.Turns s t) (stacked : Stacked m.grammar tokens r start s.frames) :
    Stacked m.grammar tokens r start t.frames := by
  rcases s with ⟨_, _, top, callers⟩
  rcases t with ⟨_, _, top', callers'⟩
  cases h with
  | taken covers stack here =>
      cases stack
      cases here
      exact stacked.change fun _ _ _ own => own.accept covers
  | failed stack here =>
      cases stack
      cases here
      exact stacked.change fun _ _ _ own => own.nextAlternative
  | called current calls shallow stack here =>
      cases stack
      cases here
      have own := stacked.reads top List.mem_cons_self
      refine .call stacked current calls ?_
      rw [own.rest]
      exact Frame.activates_enter _ _ own.cursor_le
  | @returned caller stack here =>
      cases stack
      dsimp only at here
      subst here
      -- The caller still waits at the symbol; only now is it behind it.
      cases stacked with
      | call below _ _ own =>
          have covers := own.reads.covers_below (below.reads caller List.mem_cons_self) own.offset caller.label
          exact below.change fun _ _ _ under => under.accept covers
  | refused stack here =>
      cases stack
      cases here
      cases stacked with
      | call below _ _ _ => exact below.change fun _ _ _ under => under.nextAlternative

theorem Turns.length_le (h : m.Turns s t) (stacked : Stacked m.grammar tokens r start s.frames)
    (low : s.frames.length ≤ m.limits.depth) : t.frames.length ≤ m.limits.depth := by
  unfold State.frames at low ⊢
  rw [List.length_cons] at low ⊢
  cases h with
  | taken _ stack _ | failed stack _ =>
      rw [stack]
      exact low
  | called _ _ shallow stack _ =>
      rw [stack, List.length_cons, ← stacked.depth_eq]
      exact shallow
  | returned stack _ | refused stack _ =>
      rw [stack, List.length_cons] at low
      exact Nat.le_of_succ_le low

variable {fuel n : Nat} {log : σ}

theorem Loops.stacked (inside : start ≤ tokens.length)
    (h : m.Loops ⟨r, start, tokens.drop start, fuel, log⟩ n s) :
    Stacked m.grammar tokens r start s.frames ∧ s.frames.length ≤ m.limits.depth := by
  induction h with
  | enter entered =>
      obtain ⟨shallow, rfl⟩ := frame_of_enter entered
      exact ⟨.bottom (Frame.activates_enter r 0 inside), shallow⟩
  | step _ stepped ih =>
      obtain ⟨stacked, low⟩ := ih
      have turns := turns_step stepped
      exact ⟨turns.stacked stacked, turns.length_le stacked low⟩

/-- How the stack looks in a state of the loop when the recognizer was invoked at the place. -/
structure WellFormed (m : Machine σ) (tokens : List Token) (r : Recognizer) (start : Nat) (s : State σ) : Prop where
  length_pos : 0 < s.frames.length
  length_le : s.frames.length ≤ m.limits.depth
  bottom : ∃ f, s.frames.getLast? = some f ∧ f.Runs r ∧ f.offset = start
  cursor : ∀ f ∈ s.frames, f.offset ≤ f.cursor ∧ f.cursor ≤ tokens.length
  leaves : ∀ f ∈ s.frames, slice? tokens f.offset f.cursor = some (leavesAll f.nodes)
  called : ∀ above upper lower below, s.frames = above ++ upper :: lower :: below →
    ∃ symbol symbols callee, lower.symbols = symbol :: symbols ∧ m.grammar.Calls lower.rule symbol callee ∧
      upper.Runs callee ∧ upper.offset = lower.cursor
  current : ∀ f ∈ s.callers, f.symbols ≠ []

/-- The frame on top has a match: the tokens from its start to its cursor. At the bottom it ends the run. Else the
frame below takes it as a subtree, with the name of the reference that called what has matched. -/
structure HandsDown (m : Machine σ) (s : State σ) : Prop where
  finish : s.callers = [] → ∃ done, m.step s = .error done ∧
    done.outcome = .ok (some ⟨s.top.cursor - s.top.offset, s.top.nodes⟩)
  resume : ∀ caller callers, s.callers = caller :: callers →
    ∃ symbol symbols callee, caller.symbols = symbol :: symbols ∧
      m.grammar.Calls caller.rule symbol callee ∧ s.top.Runs callee ∧
      ∃ t, m.step s = .ok t ∧ t.callers = callers ∧
        t.top = caller.accept [.tree symbol.reference? (s.top.cursor - s.top.offset) s.top.nodes]
          (s.top.cursor - s.top.offset)

theorem wellFormed_of_stacked (stacked : Stacked m.grammar tokens r start s.frames)
    (low : s.frames.length ≤ m.limits.depth) : m.WellFormed tokens r start s where
  length_pos := Nat.succ_pos _
  length_le := low
  bottom := stacked.exists_bottom
  cursor f member := ⟨Nat.le_add_right _ _, (stacked.reads f member).cursor_le⟩
  leaves f member := (stacked.reads f member).slice?_eq
  called above _ _ _ split := stacked.called above split
  current := stacked.current_of_mem_tail

theorem step_of_matched (alternatives : s.top.alternatives ≠ []) (symbols : s.top.symbols = []) :
    m.step s = m.leave s (some ⟨s.top.width, s.top.nodes⟩) := by
  rw [step, if_neg (by simpa using alternatives), symbols]

theorem handsDown_of_stacked (stacked : Stacked m.grammar tokens r start s.frames)
    (alternatives : s.top.alternatives ≠ []) (symbols : s.top.symbols = []) : m.HandsDown s := by
  have moved : s.top.cursor - s.top.offset = s.top.width := Nat.add_sub_cancel_left _ _
  have step := step_of_matched (m := m) alternatives symbols
  rcases s with ⟨fuel, log, top, callers⟩
  constructor
  · rintro rfl
    refine ⟨_, step, ?_⟩
    rw [moved]
  · rintro caller callers rfl
    obtain ⟨symbol, symbols, callee, current, calls, runs, -⟩ := stacked.called [] rfl
    refine ⟨symbol, symbols, callee, current, calls, runs, _, step, rfl, ?_⟩
    rw [moved, ← Frame.label_eq current]

/-- In every iteration of an invocation, the stack is well formed. Nothing is taken that is not there, and a match
goes to the frame that called for it, under the name it was called by. -/
theorem Loops.stack_wellFormed (inside : start ≤ tokens.length)
    (h : m.Loops ⟨r, start, tokens.drop start, fuel, log⟩ n s) :
    m.WellFormed tokens r start s ∧ s.InRange tokens ∧
      (s.top.alternatives ≠ [] → s.top.symbols = [] → m.HandsDown s) := by
  obtain ⟨stacked, low⟩ := h.stacked inside
  exact ⟨wellFormed_of_stacked stacked low, State.inRange_of_reads stacked.reads, handsDown_of_stacked stacked⟩

end Machine

namespace Brackets

def nest : Recognizer := ⟨"nest", [[.literal "(", .subrule "nest", .literal ")"], []]⟩

/-- The second pair of brackets, from inside of it. -/
def outer : Frame := (Frame.enter nest 0 2 (tokens.drop 2)).accept [.token (opening 2)] 1

/-- There is nothing in it, so the second alternative matches. -/
def inner : Frame := (Frame.enter nest 1 3 (tokens.drop 3)).nextAlternative

theorem loops_inner :
    (machine .standard).Loops ⟨nest, 2, tokens.drop 2, 10, ()⟩ 3 ⟨5, (), inner, [outer]⟩ := by
  have first : (machine .standard).Loops ⟨nest, 2, tokens.drop 2, 10, ()⟩ 0
      ⟨9, (), .enter nest 0 2 (tokens.drop 2), []⟩ := .enter rfl
  have taken : (machine .standard).Loops ⟨nest, 2, tokens.drop 2, 10, ()⟩ 1 ⟨8, (), outer, []⟩ :=
    first.step (by with_unfolding_all rfl)
  have called : (machine .standard).Loops ⟨nest, 2, tokens.drop 2, 10, ()⟩ 2
      ⟨6, (), .enter nest 1 3 (tokens.drop 3), [outer]⟩ := taken.step (by with_unfolding_all rfl)
  exact called.step (by with_unfolding_all rfl)

theorem stack_wellFormed_inner :
    (machine .standard).WellFormed tokens nest 2 ⟨5, (), inner, [outer]⟩ ∧
      State.InRange tokens (⟨5, (), inner, [outer]⟩ : State Unit) ∧
      (machine .standard).HandsDown ⟨5, (), inner, [outer]⟩ := by
  obtain ⟨wellFormed, inRange, handsDown⟩ :=
    Machine.Loops.stack_wellFormed (show 2 ≤ tokens.length by decide) loops_inner
  exact ⟨wellFormed, inRange, handsDown nofun rfl⟩

end Brackets

end TokenGrammar
