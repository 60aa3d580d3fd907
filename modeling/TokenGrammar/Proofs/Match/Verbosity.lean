import TokenGrammar.Proofs.Match.Nesting

/-!
# Verbosity

Traces count open rules alike whatever they show, so all of them can be read off one transcript that keeps every
event at its depth. Main statement: a trace of lower verbosity is one of higher verbosity without the lines of
some kinds of events, and no other line is changed.
-/
namespace TokenGrammar

/-- Every event so far where a trace would print it, and the number of open rules. -/
structure Transcript where
  entries : List Entry
  depth : Nat

namespace Transcript

def empty : Transcript := ⟨[], 0⟩

/-- As a trace does, it counts no rule as left that is not open. -/
def note (t : Transcript) : Event → Transcript
  | .enter rule offset => ⟨t.entries ++ [⟨t.depth, .enter rule offset⟩], t.depth + 1⟩
  | .leave rule width => ⟨t.entries ++ [⟨t.depth - 1, .leave rule width⟩], t.depth - 1⟩
  | e => ⟨t.entries ++ [⟨t.depth, e⟩], t.depth⟩

def events (t : Transcript) : List Event := t.entries.map (·.event)

/-- The trace that shows of the transcript what its verbosity allows. -/
def trace (v : Verbosity) (p : Palette) (t : Transcript) : Trace :=
  ⟨((t.entries.filter (·.isShown v)).map (·.line p)).reverse, t.depth⟩

theorem events_note (t : Transcript) (e : Event) : (t.note e).events = t.events ++ [e] := by
  cases e with
  | enter | leave | alternative | backtrack | literalMatched | literalFailed | tokensMatched | tokensFailed
  | expression => exact List.map_append

theorem lines_trace (v : Verbosity) (p : Palette) (t : Transcript) :
    (t.trace v p).lines = (t.entries.filter (·.isShown v)).map (·.line p) :=
  List.reverse_reverse _

/-- What is printed at some depth is what the transcript keeps at that depth. -/
theorem print_trace (v : Verbosity) (p : Palette) (entries : List Entry) (depth : Nat) (e : Event) :
    (trace v p ⟨entries, depth⟩).print v p e = trace v p ⟨entries ++ [⟨depth, e⟩], depth⟩ := by
  unfold Trace.print trace
  by_cases shown : e.verbosity.level ≤ v.level
  · simp [Entry.isShown, Entry.line, shown]
  · simp [Entry.isShown, shown]

/-- Events move the depth of a trace and of its transcript alike, shown or not. -/
theorem note_trace (v : Verbosity) (p : Palette) (t : Transcript) (e : Event) :
    (t.trace v p).note v p e = (t.note e).trace v p := by
  cases e with
  | enter rule offset =>
      have printed := print_trace v p t.entries t.depth (.enter rule offset)
      exact congrArg (fun u : Trace => { u with depth := u.depth + 1 }) printed
  | leave rule width => exact print_trace v p t.entries (t.depth - 1) _
  | alternative | backtrack | literalMatched | literalFailed | tokensMatched | tokensFailed | expression =>
      exact print_trace v p t.entries t.depth _

end Transcript

/-- Keeps a transcript. -/
def Observer.transcribing : Observer Transcript := ⟨Transcript.note, fun _ => none⟩

variable {σ : Type}

theorem Observer.shows_trace (o : Observer σ) (v : Verbosity) (p : Palette) :
    (o.pair .transcribing).Shows (fun log => (log.1, log.2.trace v p)) (o.pair (.ofTrace v p)) where
  note log e := congrArg (o.note log.1 e, ·) (log.2.note_trace v p e)

theorem Observer.shows_events (o : Observer σ) :
    (o.pair .transcribing).Shows (fun log => (log.1, log.2.events)) (o.pair .recording) where
  note log e := congrArg (o.note log.1 e, ·) (log.2.events_note e).symm

theorem Entry.isShown_eq (v : Verbosity) (x : Entry) :
    x.isShown v = match v with
      | .symbols => true
      | .alternatives => !x.event.isTrial
      | .rules => !x.event.isTurn && !x.event.isTrial := by
  rcases x with ⟨depth, e⟩
  cases e with
  | enter | leave | alternative | backtrack | literalMatched | literalFailed | tokensMatched | tokensFailed
  | expression =>
      cases v with
      | rules | alternatives | symbols => rfl

/-- The lines of the traces of one run: a line for each event at the highest verbosity, these lines without those
of literals and classes that are tried, and what is left without those of alternatives that begin or fail. -/
structure Thinned (entries : List Entry) (lines : Verbosity → Palette → List String) : Prop where
  symbols (p : Palette) : lines .symbols p = entries.map (·.line p)
  alternatives (p : Palette) : lines .alternatives p = (entries.filter (!·.event.isTrial)).map (·.line p)
  rules (p : Palette) :
    lines .rules p = ((entries.filter (!·.event.isTrial)).filter (!·.event.isTurn)).map (·.line p)

theorem Transcript.thinned (t : Transcript) : Thinned t.entries fun v p => (t.trace v p).lines where
  symbols p := by
    rw [lines_trace, List.filter_eq_self.mpr fun x _ => x.isShown_eq .symbols]
  alternatives p := by
    rw [lines_trace, List.filter_congr fun x _ => x.isShown_eq .alternatives]
  rules p := by
    rw [lines_trace, List.filter_congr fun x _ => x.isShown_eq .rules, List.filter_filter]

/-- What a transcript tells of a run. -/
theorem Transcript.exists_thinned (t : Transcript) {events : List Event}
    {lines : Verbosity → Palette → List String} (told : events = t.events)
    (traced : ∀ v p, lines v p = (t.trace v p).lines) :
    ∃ entries, entries.map (·.event) = events ∧ Thinned entries lines := by
  refine ⟨t.entries, told.symm, ?_⟩
  rw [funext fun v => funext fun p => traced v p]
  exact t.thinned

namespace Machine

/-- Of each recognition and each parse, however it ends, there is a list of what happened and at what depth: every
event told, in order. The most verbose trace has a line for each entry. Without the lines of literals and classes
that are tried, it is the next one; and that without the lines of alternatives that begin or fail is the least
verbose one. The lines that stay are the same in all of them. -/
theorem verbosity_thins_traces (m : Machine σ) (tokens : List Token) (log : σ) :
    (∀ space name, ∃ entries,
      entries.map (·.event) = ((m.beside .recording).recognize space name tokens (log, [])).log.2 ∧
      Thinned entries fun v p =>
        ((m.beside (.ofTrace v p)).recognize space name tokens (log, .empty)).log.2.lines) ∧
    ∃ entries,
      entries.map (·.event) = ((m.beside .recording).parse tokens (log, [])).log.2 ∧
      Thinned entries fun v p => ((m.beside (.ofTrace v p)).parse tokens (log, .empty)).log.2.lines := by
  let keeper := m.beside .transcribing
  constructor
  · intro space name
    have told := recognize_seen (m := keeper) m.observer.shows_events space name tokens (log, .empty)
    have traced (v : Verbosity) (p : Palette) :=
      recognize_seen (m := keeper) (m.observer.shows_trace v p) space name tokens (log, .empty)
    exact (keeper.recognize space name tokens (log, .empty)).log.2.exists_thinned
      (congrArg (fun run => run.log.2) told) fun v p => congrArg (fun run => run.log.2.lines) (traced v p)
  · have told := parse_seen (m := keeper) m.observer.shows_events tokens (log, .empty)
    have traced (v : Verbosity) (p : Palette) :=
      parse_seen (m := keeper) (m.observer.shows_trace v p) tokens (log, .empty)
    exact (keeper.parse tokens (log, .empty)).log.2.exists_thinned
      (congrArg (fun run => run.log.2) told) fun v p => congrArg (fun run => run.log.2.lines) (traced v p)

end Machine

end TokenGrammar
