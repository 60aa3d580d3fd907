import TokenGrammar.Proofs.Match.Observers

/-!
# Laid out records

A trace lays out what it is told: each event stands as deep as there are rules open around it, and a rule's
first and last line stand outside of it. A trace would not notice if a rule was left that had not been entered;
laying out has no answer then. Main statements: where there is an answer, the lines of a trace are those that
its verbosity shows, each indented as deep as it is laid out; and every observer of a run is told what a recorder
writes down.
-/
namespace TokenGrammar

/-- An event and the number of rules that are open around its line. -/
structure Entry where
  depth : Nat
  event : Event
  deriving DecidableEq, Repr

namespace Entry

def line (p : Palette) (x : Entry) : String := indentation x.depth ++ x.event.describe p

def isShown (v : Verbosity) (x : Entry) : Bool := x.event.verbosity.level ≤ v.level

end Entry

/-- How far a line is indented. -/
def leadingSpaces (line : String) : Nat := (line.toList.takeWhile (· = ' ')).length

theorem leadingSpaces_indentation (depth : Nat) {text : String} (h : text.toList.head? ≠ some ' ') :
    leadingSpaces (indentation depth ++ text) = 2 * depth := by
  have unindented : text.toList.takeWhile (· = ' ') = [] := by
    cases split : text.toList with
    | nil => rfl
    | cons c rest =>
        rw [split, List.head?_cons, ne_eq, Option.some.injEq] at h
        exact List.takeWhile_cons_of_neg (by simpa using h)
  rw [leadingSpaces, indentation, String.toList_append, String.toList_ofList,
    List.takeWhile_append_of_pos (by simp), unindented, List.append_nil, List.length_replicate, Nat.mul_comm]

/-- What is said of an event begins with an arrow or a square, or else with a color, a mark or a word. -/
theorem Event.head?_describe_ne (e : Event) (styled : Bool) :
    (e.describe (.ofEnabled styled)).toList.head? ≠ some ' ' := by
  unfold describe
  cases e with
  | leave rule width =>
      cases width with
      | none => simp [toString]
      | some width => simp [toString]
  | enter | expression => simp [toString]
  | alternative | backtrack | literalMatched | literalFailed | tokensMatched | tokensFailed =>
      cases styled with
      | false => simp [toString, Palette.ofEnabled, Palette.plain]
      | true => simp [toString, Palette.ofEnabled, Palette.ansi]

/-- A line is indented by two spaces for each rule that is open around it. -/
theorem Entry.leadingSpaces_line (x : Entry) (styled : Bool) :
    leadingSpaces (x.line (.ofEnabled styled)) = 2 * x.depth :=
  leadingSpaces_indentation x.depth (x.event.head?_describe_ne styled)

/-- Where the event stands if so many rules are open, and how many are open behind it. -/
def Event.place? : Nat → Event → Option (Nat × Nat)
  | depth, .enter .. => some (depth, depth + 1)
  | 0, .leave .. => none
  | depth + 1, .leave .. => some (depth, depth)
  | depth, _ => some (depth, depth)

/-- Lays out events inside of so many open rules. -/
def layOut? : Nat → List Event → Option (List Entry)
  | _, [] => some []
  | depth, e :: events =>
    match e.place? depth with
    | none => none
    | some (stands, behind) => (layOut? behind events).map (⟨stands, e⟩ :: ·)

example : layOut? 0 [.enter "nest" 0, .alternative "nest" 0, .backtrack "nest" 0, .leave "nest" none] =
    some [⟨0, .enter "nest" 0⟩, ⟨1, .alternative "nest" 0⟩, ⟨1, .backtrack "nest" 0⟩,
      ⟨0, .leave "nest" none⟩] := rfl

theorem layOut?_cons_of_place {e : Event} {depth stands behind : Nat}
    (h : e.place? depth = some (stands, behind)) (events : List Event) :
    layOut? depth (e :: events) = (layOut? behind events).map (⟨stands, e⟩ :: ·) := by
  rw [layOut?, h]

namespace Trace

theorem lines_print (v : Verbosity) (p : Palette) (t : Trace) (e : Event) :
    (t.print v p e).lines = t.lines ++ (([⟨t.depth, e⟩] : List Entry).filter (·.isShown v)).map (·.line p) := by
  unfold print
  by_cases shown : e.verbosity.level ≤ v.level
  · simp [lines, Entry.isShown, Entry.line, shown]
  · simp [Entry.isShown, shown]

theorem depth_print (v : Verbosity) (p : Palette) (t : Trace) (e : Event) :
    (t.print v p e).depth = t.depth := by
  unfold print
  split
  · rfl
  · rfl

/-- A trace prints an event where it stands. -/
theorem note_of_place (v : Verbosity) (p : Palette) {t : Trace} {e : Event} {stands behind : Nat}
    (h : e.place? t.depth = some (stands, behind)) :
    (t.note v p e).lines =
        t.lines ++ (([⟨stands, e⟩] : List Entry).filter (·.isShown v)).map (·.line p) ∧
      (t.note v p e).depth = behind := by
  cases e with
  | enter rule offset =>
      cases h
      exact ⟨lines_print v p t _, congrArg (· + 1) (depth_print v p t _)⟩
  | leave rule width =>
      rcases t with ⟨reversed, _ | depth⟩
      · cases h
      · cases h
        exact ⟨lines_print v p _ _, depth_print v p _ _⟩
  | alternative | backtrack | literalMatched | literalFailed | tokensMatched | tokensFailed | expression =>
      rcases t with ⟨reversed, _ | depth⟩
      · cases h
        exact ⟨lines_print v p _ _, depth_print v p _ _⟩
      · cases h
        exact ⟨lines_print v p _ _, depth_print v p _ _⟩

/-- A trace prints what is laid out, as far as its verbosity shows it. -/
theorem lines_foldl_note (v : Verbosity) (p : Palette) {t : Trace} {events : List Event}
    {entries : List Entry} (h : layOut? t.depth events = some entries) :
    (events.foldl (note v p) t).lines = t.lines ++ (entries.filter (·.isShown v)).map (·.line p) := by
  induction events generalizing t entries with
  | nil =>
      cases h
      exact (List.append_nil _).symm
  | cons e events ih =>
      cases placed : e.place? t.depth with
      | none =>
          rw [layOut?, placed] at h
          cases h
      | some places =>
          obtain ⟨stands, behind⟩ := places
          rw [layOut?_cons_of_place placed] at h
          obtain ⟨later, laid, rfl⟩ := Option.map_eq_some_iff.mp h
          obtain ⟨printed, depth⟩ := note_of_place v p placed
          rw [← depth] at laid
          rw [List.foldl_cons, ih laid, printed, List.append_assoc, ← List.map_append, ← List.filter_append]
          rfl

end Trace

namespace Machine

variable {σ τ : Type} (m : Machine σ)

/-- Retelling a record to an observer is part of what a recorder knows. -/
theorem shows_retold (o : Observer τ) (start : τ) :
    (m.observer.pair .recording).Shows (fun log => (log.1, log.2.foldl o.note start))
      (m.observer.pair o) where
  note log e := by
    simp only [Observer.pair, Observer.recording, List.foldl_append, List.foldl_cons, List.foldl_nil]

/-- Whoever watches a recognition is told what is written down of it. -/
theorem recognize_retold (o : Observer τ) (space : Namespace) (name : String) (tokens : List Token) (log : σ)
    (start : τ) :
    ((m.beside o).recognize space name tokens (log, start)).log.2 =
      ((m.beside .recording).recognize space name tokens (log, [])).log.2.foldl o.note start := by
  have retold := recognize_seen (m := m.beside .recording) (m.shows_retold o start) space name tokens (log, [])
  exact congrArg (fun run => run.log.2) retold

/-- Whoever watches a parse is told what is written down of it. -/
theorem parse_retold (o : Observer τ) (tokens : List Token) (log : σ) (start : τ) :
    ((m.beside o).parse tokens (log, start)).log.2 =
      ((m.beside .recording).parse tokens (log, [])).log.2.foldl o.note start := by
  have retold := parse_seen (m := m.beside .recording) (m.shows_retold o start) tokens (log, [])
  exact congrArg (fun run => run.log.2) retold

end Machine

end TokenGrammar
