import Mathlib
import TokenGrammar.Diagnostic.Snippet
import TokenGrammar.Proofs.Grammar.Refusals
import TokenGrammar.Proofs.Recognizer.Warnings

/-!
# Ranges that can be drawn

A diagnostic of a grammar file is drawn into the source, with marks under its ranges. An empty range is widened
by one byte for it. Main statement: the ranges are of pieces of single lines, and they stay between characters
when they are widened, as an empty one is at the end of a line's content, and behind that is at most an ASCII
character.
-/
namespace TokenGrammar

theorem utf8ByteSize_ofList (text : List Char) : (String.ofList text).utf8ByteSize = byteLength text := by
  induction text with
  | nil => rfl
  | cons c text ih =>
      rw [String.ofList_cons, String.utf8ByteSize_append, String.utf8ByteSize_singleton, ih, byteLength]

theorem byteLength_toList (s : String) : byteLength s.toList = s.utf8ByteSize := by
  rw [← utf8ByteSize_ofList, String.ofList_toList]

/-- The span is where the piece stands in the text. -/
def Span.Cuts (s : Span) (piece whole : List Char) : Prop :=
  ∃ before behind, whole = before ++ piece ++ behind ∧ s = ⟨byteLength before, byteLength (before ++ piece)⟩

/-- The span is of a piece without line feeds. If this is empty, the character behind it takes one byte. -/
def Span.Drawable (s : Span) (whole : List Char) : Prop :=
  ∃ before piece behind, whole = before ++ piece ++ behind ∧
    s = ⟨byteLength before, byteLength (before ++ piece)⟩ ∧ '\n' ∉ piece ∧
    (piece = [] → ∀ c ∈ behind.head?, c.utf8Size = 1)

theorem Place.span_covering (before piece : List Char) :
    ((start.after before).covering piece).span = ⟨byteLength before, byteLength (before ++ piece)⟩ := by
  rw [byteLength_append]
  simp only [covering, after, start, Nat.zero_add]

namespace Diagnostic

/-- The range that the diagnostic points at, and the ranges related to it. -/
def spans (d : Diagnostic) : List Span := d.span :: d.related.map (·.span)

theorem map_span_highlights (size : Nat) (d : Diagnostic) :
    (d.highlights size).map (·.span) = d.spans.map (visibleSpan size) := by
  simp [highlights, spans]

theorem visibleSpan_of_lt {size : Nat} {s : Span} (some : s.start < s.stop) (inside : s.stop ≤ size) :
    visibleSpan size s = s := by
  have start : min s.start size = s.start := by omega
  have stop : min s.stop size = s.stop := Nat.min_eq_left inside
  rw [visibleSpan, start, stop]
  exact if_neg (Nat.ne_of_lt some)

theorem visibleSpan_empty {size n : Nat} (inside : n ≤ size) :
    visibleSpan size ⟨n, n⟩ = ⟨n, min (n + 1) size⟩ := by
  rw [visibleSpan, Nat.min_eq_left inside]
  exact if_pos rfl

end Diagnostic

namespace Span.Drawable

variable {s : Span} {whole : List Char}

theorem cuts (h : s.Drawable whole) :
    s.start ≤ s.stop ∧ s.stop ≤ byteLength whole ∧ ∃ piece, s.Cuts piece whole ∧ '\n' ∉ piece := by
  obtain ⟨before, piece, behind, rfl, rfl, clean, -⟩ := h
  refine ⟨?_, ?_, piece, ⟨before, behind, rfl, rfl⟩, clean⟩
  · rw [byteLength_append]
    exact Nat.le_add_right _ _
  · rw [byteLength_append _ behind]
    exact Nat.le_add_right _ _

theorem visible_empty {before behind : List Char} (ascii : ∀ c ∈ behind.head?, c.utf8Size = 1) :
    ∃ piece,
      (Diagnostic.visibleSpan (byteLength (before ++ behind)) ⟨byteLength before, byteLength before⟩).Cuts piece
        (before ++ behind) ∧
      (piece = [] → byteLength before = byteLength (before ++ behind)) := by
  have total := byteLength_append before behind
  rw [Diagnostic.visibleSpan_empty (by omega)]
  cases behind with
  | nil =>
      refine ⟨[], ⟨before, [], by simp only [List.append_nil], ?_⟩, fun _ => by rw [List.append_nil]⟩
      rw [List.append_nil, Nat.min_eq_right (Nat.le_succ _)]
  | cons c cs =>
      refine ⟨[c], ⟨before, cs, List.append_cons before c cs, ?_⟩, nofun⟩
      have own := byteLength_append before [c]
      rw [byteLength, ascii c rfl] at total own
      rw [Nat.min_eq_left (by omega), own]
      rfl

/-- What is marked is again a piece, and there is something to mark unless the text is at its end. -/
theorem visible (h : s.Drawable whole) :
    ∃ piece, (Diagnostic.visibleSpan (byteLength whole) s).Cuts piece whole ∧
      (piece = [] → s.start = byteLength whole) := by
  obtain ⟨-, inside, -⟩ := h.cuts
  obtain ⟨before, piece, behind, rfl, rfl, -, ascii⟩ := h
  by_cases none : piece = []
  · subst none
    rw [List.append_nil]
    exact visible_empty (ascii rfl)
  · have some : byteLength before < byteLength (before ++ piece) := by
      rw [byteLength_append]
      exact Nat.lt_add_of_pos_right (byteLength_pos none)
    rw [Diagnostic.visibleSpan_of_lt some inside]
    exact ⟨piece, ⟨before, behind, rfl, rfl⟩, fun empty => absurd empty none⟩

end Span.Drawable

theorem rel_of_mem_zip_tail {α : Type} {r : α → α → Prop} {l : List α} (h : l.Pairwise r) {a b : α}
    (member : (a, b) ∈ l.zip l.tail) : r a b := by
  induction h with
  | nil => cases member
  | @cons c l first _ ih =>
      cases l with
      | nil => cases member
      | cons d l =>
          rcases List.mem_cons.mp member with same | later
          · obtain ⟨rfl, rfl⟩ := Prod.mk.inj same
            exact first b List.mem_cons_self
          · exact ih later

/-- A warning about an empty group is about two brackets of which the second directly follows. -/
theorem Recognizer.Warned.exists_brackets {ts strays : List Notation.Token} {warnings : List Diagnostic}
    (h : Warned ts strays warnings) {w : Diagnostic} (member : w ∈ warnings) (kind : w.kind = .emptyGroup) :
    ∃ opening close, (opening, close) ∈ ts.zip ts.tail ∧ w = emptyGroupWarning opening close := by
  have found : w ∈ warnings.filter (·.kind = .emptyGroup) := List.mem_filter.mpr ⟨member, decide_eq_true kind⟩
  rw [h.groups] at found
  obtain ⟨⟨opening, close⟩, pair, rfl⟩ := List.mem_map.mp found
  exact ⟨opening, close, (List.mem_filter.mp pair).1, rfl⟩

/-- The text stands behind `before`, up to the end of a line's content. -/
structure EndsLine (whole before text : List Char) : Prop where
  exists_behind : ∃ behind, whole = before ++ text ++ behind ∧ ∀ c ∈ behind.head?, c.utf8Size = 1
  clean : '\n' ∉ text

namespace EndsLine

variable {whole before text : List Char}

theorem drop {front : List Char} (h : EndsLine whole before (front ++ text)) :
    EndsLine whole (before ++ front) text := by
  obtain ⟨⟨behind, same, ascii⟩, clean⟩ := h
  rw [List.mem_append, not_or] at clean
  exact ⟨⟨behind, by rw [same]; simp only [List.append_assoc], ascii⟩, clean.2⟩

/-- A piece can be drawn if it is not empty or goes on to the end. -/
theorem drawable {front piece back : List Char} (h : EndsLine whole before text)
    (same : text = front ++ piece ++ back) (last : piece = [] → back = []) :
    ((Place.start.after (before ++ front)).covering piece).span.Drawable whole := by
  obtain ⟨⟨behind, rfl, ascii⟩, clean⟩ := h
  subst same
  refine ⟨before ++ front, piece, back ++ behind, by simp only [List.append_assoc],
    Place.span_covering _ piece, ?_, fun none => ?_⟩
  · exact fun newline => clean (List.mem_append_left back (List.mem_append_right front newline))
  · rw [last none]
    exact ascii

theorem drawable_whole (h : EndsLine whole before text) :
    ((Place.start.after before).covering text).span.Drawable whole := by
  have same : text = [] ++ text ++ [] := (List.append_nil text).symm
  have drawn := h.drawable same fun _ => rfl
  rwa [List.append_nil] at drawn

theorem drawable_stop (h : EndsLine whole before text) :
    (((Place.start.after before).after text).covering []).span.Drawable whole := by
  have same : text = text ++ [] ++ [] := by simp only [List.append_nil]
  have drawn := h.drawable same fun _ => rfl
  rwa [Place.after_append] at drawn

/-- What reaches from the start of a token to the end of the same or a later one can be drawn. -/
theorem drawable_between {t u : Notation.Token} (h : EndsLine whole before text)
    (ht : t ∈ Notation.scan (Place.start.after before) text)
    (hu : u ∈ Notation.scan (Place.start.after before) text)
    (order : t.location.span.start < u.location.span.stop) :
    Span.Drawable ⟨t.location.span.start, u.location.span.stop⟩ whole := by
  obtain ⟨front, back, same, hl⟩ := Notation.locates_of_mem_scan ht
  obtain ⟨front', back', same', hl'⟩ := Notation.locates_of_mem_scan hu
  have start : t.location.span.start = byteLength (before ++ front) := by
    rw [hl, ← Place.after_append, Place.span_covering]
  have stop : u.location.span.stop = byteLength (before ++ (front' ++ u.text.toList)) := by
    rw [hl', ← Place.after_append, Place.span_covering, List.append_assoc]
  rw [start, stop, byteLength_append, byteLength_append] at order
  rw [List.append_assoc] at same
  obtain ⟨piece, some, reach⟩ := exists_between (same.symm.trans same') (Nat.lt_of_add_lt_add_left order)
  rw [reach] at same'
  have drawn := h.drawable same' fun none => absurd none some
  rwa [Place.span_covering, List.append_assoc, ← reach, ← start, ← stop] at drawn

theorem drawable_token {t : Notation.Token} (h : EndsLine whole before text)
    (ht : t ∈ Notation.scan (Place.start.after before) text) : t.location.span.Drawable whole :=
  h.drawable_between ht ht (Notation.start_lt_stop_of_mem_scan ht)

theorem drawable_error {e : CompileError} (h : EndsLine whole before text)
    (refused : (Recognizer.ofLine (Place.start.after before) text).result = .error e) :
    ∀ s ∈ e.diagnostic.spans, s.Drawable whole := by
  have spans : e.diagnostic.spans = e.locations.map (·.span) := by cases e <;> rfl
  rw [spans]
  rintro _ member
  obtain ⟨l, inside, rfl⟩ := List.mem_map.mp member
  rcases ((Recognizer.finds_ofTokens _ _).error e refused).of_mem_locations inside with rfl | ⟨t, found, rfl⟩
  · exact h.drawable_stop
  · exact h.drawable_token found

theorem drawable_warning {r : Recognizer} (h : EndsLine whole before text)
    (accepted : (Recognizer.ofLine (Place.start.after before) text).result = .ok r) :
    ∀ w ∈ (Recognizer.ofLine (Place.start.after before) text).warnings, ∀ s ∈ w.spans, s.Drawable whole := by
  intro w member
  have yields := Recognizer.lineYields_of_ofLine accepted
  rcases yields.warned.kinds w member with stray | empty
  · cases yields.warnsOf w member with
    | stray ht => exact List.forall_mem_singleton.mpr (h.drawable_token ht)
    | emptyGroup => cases stray
  · obtain ⟨opening, close, pair, rfl⟩ := yields.warned.exists_brackets member empty
    have ho := (List.of_mem_zip pair).1
    have hc := List.mem_of_mem_tail (List.of_mem_zip pair).2
    have order := rel_of_mem_zip_tail (Notation.covers_scan _ text).pairwise pair
    have first := Notation.start_lt_stop_of_mem_scan ho
    have second := Notation.start_lt_stop_of_mem_scan hc
    refine List.forall_mem_singleton.mpr (h.drawable_between ho hc ?_)
    exact (first.trans_le order.stop_le).trans second

end EndsLine

theorem endsLine_of_lines {front rest : List (List Char)} {line : List Char}
    (h : AreLines (front ++ line :: rest)) :
    EndsLine (front ++ line :: rest).flatten front.flatten (lineContent line) := by
  have whole : (front ++ line :: rest).flatten =
      front.flatten ++ lineContent line ++ (lineEnding line ++ rest.flatten) := by
    rw [List.flatten_append, List.flatten_cons, List.append_assoc, ← List.append_assoc (lineContent line),
      lineContent_append_lineEnding]
  have ascii : ∀ c ∈ lineEnding line, c.utf8Size = 1 := by
    intro c member
    rcases eq_of_mem_lineEnding member with rfl | rfl <;> rfl
  rw [AreLines.append_iff (List.cons_ne_nil _ _)] at h
  cases h.2 with
  | last _ clean =>
      refine ⟨⟨_, whole, fun c member => ascii c ?_⟩, newline_not_mem_lineContent clean⟩
      rw [List.flatten_nil, List.append_nil] at member
      exact List.mem_of_mem_head? member
  | cons ended _ =>
      refine ⟨⟨_, whole, fun c member => ascii c ?_⟩, ended.newline_not_mem_lineContent⟩
      rw [List.head?_append_of_ne_nil _ ended.lineEnding_ne_nil] at member
      exact List.mem_of_mem_head? member

namespace Statement

/-- What an accepted statement is warned of. -/
def warnings : Statement → List Diagnostic
  | .recognizer _ place text =>
    match (Recognizer.ofLine place text).result with
    | .error _ => []
    | .ok _ => (Recognizer.ofLine place text).warnings
  | _ => []

variable {whole before content : List Char} {s : Statement} {d : Diagnostic}

theorem drawable_of_refusal? (h : EndsLine whole before content)
    (fills : s.Fills (Place.start.after before) content) (refused : s.refusal? = some d) :
    ∀ span ∈ d.spans, span.Drawable whole := by
  cases fills with
  | nothing => cases refused
  | unknown some same =>
      cases refused
      have drawn := h.drawable same fun none => absurd none some
      rw [Place.after_append] at drawn
      exact List.forall_mem_singleton.mpr drawn
  | @lexRule front text skips same =>
      subst same
      have drawn := h.drop.drawable_whole
      rw [Place.after_append] at drawn
      simp only [refusal?] at refused
      split at refused
      · cases refused
        exact List.forall_mem_singleton.mpr drawn
      · split at refused
        · cases refused
          exact List.forall_mem_singleton.mpr drawn
        · cases refused
  | @recognizer front text space same =>
      subst same
      simp only [refusal?] at refused
      split at refused
      · next e failed =>
          cases refused
          rw [← Place.after_append] at failed
          exact h.drop.drawable_error failed
      · cases refused

theorem drawable_of_mem_warnings (h : EndsLine whole before content)
    (fills : s.Fills (Place.start.after before) content) (warned : d ∈ s.warnings) :
    ∀ span ∈ d.spans, span.Drawable whole := by
  cases fills with
  | nothing | unknown | lexRule => cases warned
  | @recognizer front text space same =>
      subst same
      rw [← Place.after_append] at warned
      simp only [warnings] at warned
      split at warned
      · cases warned
      · next accepted => exact h.drop.drawable_warning accepted d warned

end Statement

namespace Declarations

theorem warnings_statement (d : Declarations) (s : Statement) :
    (d.statement s).grammar.warnings = d.grammar.warnings ++ s.warnings := by
  cases s with
  | nothing | unknown => exact (List.append_nil _).symm
  | lexRule skips place text =>
      simp only [statement, lexRule, Statement.warnings, List.append_nil]
      split
      · rfl
      · split <;> rfl
  | recognizer space place text =>
      simp only [statement_recognizer, Grammar.define, Statement.warnings]
      cases (Recognizer.ofLine place text).result with
      | error e => exact (List.append_nil _).symm
      | ok r => exact Grammar.warnings_setTable ..

/-- A run of statements is warned of what they are warned of, in their order. -/
theorem warnings_foldl_statement (statements : List Statement) (d : Declarations) :
    (statements.foldl statement d).grammar.warnings =
      d.grammar.warnings ++ statements.flatMap Statement.warnings := by
  induction statements generalizing d with
  | nil => exact (List.append_nil _).symm
  | cons s statements ih =>
      rw [List.foldl_cons, ih, warnings_statement, List.append_assoc, List.flatMap_cons]

end Declarations

namespace GrammarFile

/-- The diagnostics of a file are those of its statements: refusals first, then warnings. -/
theorem diagnostics_parse (source : String) :
    (parse source).diagnostics = (statements source).filterMap Statement.refusal? ++
      (statements source).flatMap Statement.warnings := by
  rw [parse_eq]
  exact congrArg (_ ++ ·) (Declarations.warnings_foldl_statement (statements source) .empty)

theorem drawable_of_mem_diagnostics {source : String} {d : Diagnostic} (h : d ∈ (parse source).diagnostics) :
    ∀ span ∈ d.spans, span.Drawable source.toList := by
  have stands {s : Statement} (member : s ∈ statements source) : ∃ before content,
      EndsLine source.toList before content ∧ s.Fills (Place.start.after before) content := by
    obtain ⟨front, line, rest, lines, rfl⟩ := exists_line_of_mem_statementsOf member
    have ends := endsLine_of_lines (lines ▸ areLines_splitLines source.toList)
    rw [← lines, flatten_splitLines] at ends
    exact ⟨_, _, ends, Statement.fills_ofLine _ _⟩
  rw [diagnostics_parse] at h
  rcases List.mem_append.mp h with refused | warned
  · obtain ⟨s, member, refused⟩ := List.mem_filterMap.mp refused
    obtain ⟨before, content, ends, fills⟩ := stands member
    exact Statement.drawable_of_refusal? ends fills refused
  · obtain ⟨s, member, warned⟩ := List.mem_flatMap.mp warned
    obtain ⟨before, content, ends, fills⟩ := stands member
    exact Statement.drawable_of_mem_warnings ends fills warned

/-- Every range that a diagnostic of a file has is that of a piece of the source, without line feeds. What is
marked for it in the drawn diagnostic is again a piece of the source, and not empty unless the range starts at
the source's end. -/
theorem diagnostics_can_be_drawn {source : String} {d : Diagnostic} (h : d ∈ (parse source).diagnostics) :
    (∀ span ∈ d.spans, span.start ≤ span.stop ∧ span.stop ≤ source.utf8ByteSize ∧
      (∃ piece, span.Cuts piece source.toList ∧ '\n' ∉ piece) ∧
      ∃ piece, (Diagnostic.visibleSpan source.utf8ByteSize span).Cuts piece source.toList ∧
        (piece = [] → span.start = source.utf8ByteSize)) ∧
    (d.highlights source.utf8ByteSize).map (·.span) =
      d.spans.map (Diagnostic.visibleSpan source.utf8ByteSize) := by
  refine ⟨fun span member => ?_, d.map_span_highlights _⟩
  have drawn := drawable_of_mem_diagnostics h span member
  obtain ⟨ordered, inside, cut⟩ := drawn.cuts
  rw [← byteLength_toList]
  exact ⟨ordered, inside, cut, drawn.visible⟩

end GrammarFile

namespace Unfinished

/-- The first line breaks off in front of a carriage return. -/
def source : String := "rule a\r\nrule é = ( )\ntoken"

def error : Diagnostic := .report .expectedAssignment ⟨6, 6⟩ none [] []

theorem diagnostics_can_be_drawn_unfinished :
    error ∈ (GrammarFile.parse source).diagnostics ∧
      ∃ piece, (Diagnostic.visibleSpan source.utf8ByteSize ⟨6, 6⟩).Cuts piece source.toList ∧ piece ≠ [] := by
  have first : (GrammarFile.parse source).diagnostics.head? = some error := by cbv
  have member := List.mem_of_mem_head? first
  obtain ⟨-, -, -, piece, cuts, last⟩ :=
    (GrammarFile.diagnostics_can_be_drawn member).1 ⟨6, 6⟩ List.mem_cons_self
  refine ⟨member, piece, cuts, fun none => ?_⟩
  have size : source.utf8ByteSize = 27 := by decide +kernel
  exact absurd ((last none).trans size) (by decide)

end Unfinished

end TokenGrammar
