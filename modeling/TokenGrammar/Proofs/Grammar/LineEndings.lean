import Mathlib
import TokenGrammar.Proofs.Grammar.Carried
import TokenGrammar.Proofs.Grammar.Ranges
import TokenGrammar.Proofs.Recognizer.Relocation

/-!
# Line endings

A carriage return in front of the line feed of a line is no part of the line's content. Main statement: a
grammar file with such carriage returns says what it says without them, and only the byte offsets in it move,
each by the number of line feeds in front of it; lines and columns stay.
-/
namespace TokenGrammar

/-- The text with a carriage return in front of every line feed. -/
def withReturns (text : List Char) : List Char :=
  text.flatMap fun c => if c = '\n' then ['\r', '\n'] else [c]

/-- The number of line feeds in front of a byte offset. -/
def lineFeedsBefore : List Char → Nat → Nat
  | [], _ => 0
  | c :: cs, offset =>
    if offset = 0 then 0 else lineFeedsBefore cs (offset - c.utf8Size) + if c = '\n' then 1 else 0

/-- What becomes of the offsets of a text when it gets the carriage returns. -/
def Move.overReturns (text : List Char) : Move := ⟨fun offset => offset + lineFeedsBefore text offset, id⟩

theorem lineFeedsBefore_append (front back : List Char) :
    lineFeedsBefore (front ++ back) (byteLength front) = front.count '\n' := by
  induction front with
  | nil => cases back <;> rfl
  | cons c front ih =>
      have positive := c.utf8Size_pos
      rw [List.cons_append, lineFeedsBefore, byteLength, if_neg (by omega), Nat.add_sub_cancel_left, ih,
        List.count_cons]
      simp only [beq_iff_eq]

theorem withReturns_append (s t : List Char) : withReturns (s ++ t) = withReturns s ++ withReturns t :=
  List.flatMap_append

theorem withReturns_of_not_mem {text : List Char} (h : '\n' ∉ text) : withReturns text = text := by
  induction text with
  | nil => rfl
  | cons c text ih =>
      rw [List.mem_cons, not_or] at h
      rw [withReturns, List.flatMap_cons, if_neg (Ne.symm h.1), ← withReturns, ih h.2, List.singleton_append]

theorem withReturns_flatten (lines : List (List Char)) :
    withReturns lines.flatten = (lines.map withReturns).flatten := by
  induction lines with
  | nil => rfl
  | cons line lines ih => rw [List.flatten_cons, withReturns_append, ih, List.map_cons, List.flatten_cons]

theorem byteLength_withReturns (text : List Char) :
    byteLength (withReturns text) = byteLength text + text.count '\n' := by
  induction text with
  | nil => rfl
  | cons c text ih =>
      rw [withReturns, List.flatMap_cons, ← withReturns, byteLength_append, ih, byteLength]
      by_cases newline : c = '\n'
      · have returned : byteLength ['\r', '\n'] = 2 := rfl
        have fed : '\n'.utf8Size = 1 := rfl
        rw [newline, if_pos rfl, returned, fed, List.count_cons_self]
        omega
      · rw [if_neg newline, List.count_cons_of_ne newline, byteLength, byteLength]
        omega

theorem withReturns_newline {text : List Char} (h : '\n' ∉ text) :
    withReturns (text ++ ['\n']) = (text ++ ['\r']) ++ ['\n'] := by
  rw [withReturns_append, withReturns_of_not_mem h, List.append_assoc]
  rfl

theorem newline_not_mem_concat_return {text : List Char} (h : '\n' ∉ text) : '\n' ∉ text ++ ['\r'] := by
  rw [List.mem_append, not_or]
  exact ⟨h, by decide⟩

theorem Ended.withReturns {line : List Char} (h : Ended line) : Ended (withReturns line) := by
  obtain ⟨text, clean, rfl⟩ := h
  exact ⟨_, newline_not_mem_concat_return clean, withReturns_newline clean⟩

theorem Ended.lineContent_withReturns {line : List Char} (h : Ended line) :
    lineContent (TokenGrammar.withReturns line) = lineContent line := by
  obtain ⟨text, clean, rfl⟩ := h
  rw [withReturns_newline clean]
  simp [lineContent]

/-- The carriage return changes nothing of the position that the next line starts at. -/
theorem Ended.after_withReturns {line : List Char} (h : Ended line) (p : Position) :
    p.after (TokenGrammar.withReturns line) = p.after line := by
  obtain ⟨text, clean, rfl⟩ := h
  rw [withReturns_newline clean, Position.after_newline (newline_not_mem_concat_return clean),
    Position.after_newline clean]

theorem AreLines.withReturns {lines : List (List Char)} (h : AreLines lines) :
    AreLines (lines.map withReturns) := by
  induction h with
  | nil => exact .nil
  | last some clean =>
      rw [List.map_singleton, withReturns_of_not_mem clean]
      exact .last some clean
  | cons ended _ ih => exact .cons ended.withReturns ih

theorem splitLines_withReturns (text : List Char) :
    splitLines (withReturns text) = (splitLines text).map withReturns := by
  have lines := (areLines_splitLines text).withReturns.splitLines_flatten
  rwa [← withReturns_flatten, flatten_splitLines] at lines

theorem after_withReturns_flatten {lines : List (List Char)} (h : ∀ line ∈ lines, Ended line) (p : Position) :
    p.after (withReturns lines.flatten) = p.after lines.flatten := by
  induction lines generalizing p with
  | nil => rfl
  | cons line lines ih =>
      obtain ⟨own, others⟩ := List.forall_mem_cons.mp h
      rw [List.flatten_cons, withReturns_append, Position.after_append, Position.after_append,
        own.after_withReturns, ih others]

namespace Move

variable {whole : List Char}

theorem offset_overReturns {front back : List Char} (split : whole = front ++ back) :
    (overReturns whole).offset (byteLength front) = byteLength (withReturns front) := by
  rw [byteLength_withReturns, split]
  exact congrArg (byteLength front + ·) (lineFeedsBefore_append front back)

theorem place_overReturns {front : List (List Char)} {back : List Char} (h : ∀ line ∈ front, Ended line)
    (split : whole = front.flatten ++ back) :
    (Place.start.after front.flatten).move (overReturns whole) =
      Place.start.after (withReturns front.flatten) := by
  have offset := offset_overReturns split
  rw [← Nat.zero_add (byteLength front.flatten), ← Nat.zero_add (byteLength (withReturns _))] at offset
  rw [Place.after, Place.after, after_withReturns_flatten h]
  exact congrArg (Place.mk · _) offset

/-- Within a line nothing is put in. -/
theorem carries_overReturns {front text back : List Char} (clean : '\n' ∉ text)
    (split : whole = front ++ text ++ back) :
    (overReturns whole).Carries (Place.start.after front) text := by
  rintro more ⟨rest, rfl⟩
  rw [List.mem_append, not_or] at clean
  have split' : whole = (front ++ more) ++ (rest ++ back) := split.trans (by simp only [List.append_assoc])
  have here := offset_overReturns (split.trans (List.append_assoc ..))
  have behind := offset_overReturns split'
  rw [withReturns_append, withReturns_of_not_mem clean.1, byteLength_append, byteLength_append] at behind
  simp only [Place.move, Place.after, Place.start, Nat.zero_add, here, behind]
  rfl

theorem span_overReturns {s : Span} {piece : List Char} (h : s.Cuts piece whole) (clean : '\n' ∉ piece) :
    s.move (overReturns whole) = s.shift (lineFeedsBefore whole s.start) := by
  obtain ⟨before, behind, split, rfl⟩ := h
  have stop := lineFeedsBefore_append (before ++ piece) behind
  have start := lineFeedsBefore_append before (piece ++ behind)
  rw [← split, List.count_append, List.count_eq_zero.mpr clean, Nat.add_zero] at stop
  rw [← List.append_assoc, ← split] at start
  simp only [Span.move, overReturns, Span.shift, stop, start]

end Move

theorem lineContent_withReturns {front rest : List (List Char)} {line : List Char}
    (h : AreLines (front ++ line :: rest)) : lineContent (withReturns line) = lineContent line := by
  cases ((AreLines.append_iff (List.cons_ne_nil _ _)).mp h).2 with
  | last _ clean => rw [withReturns_of_not_mem clean]
  | cons ended _ => exact ended.lineContent_withReturns

theorem statementsOf_withReturns {front lines : List (List Char)} (h : AreLines (front ++ lines)) :
    statementsOf (Place.start.after (withReturns front.flatten)) (lines.map withReturns) =
      (statementsOf (Place.start.after front.flatten) lines).map
        (·.move (.overReturns (front ++ lines).flatten)) := by
  induction lines generalizing front with
  | nil => rfl
  | cons line lines ih =>
      have ended := ((AreLines.append_iff (List.cons_ne_nil _ _)).mp h).1
      have whole : (front ++ line :: lines).flatten = front.flatten ++ (line :: lines).flatten :=
        List.flatten_append
      have place := Move.place_overReturns ended whole
      have ends := endsLine_of_lines h
      obtain ⟨behind, split, -⟩ := ends.exists_behind
      rw [List.map_cons, statementsOf, statementsOf, List.map_cons, lineContent_withReturns h, ← place,
        Statement.ofLine_move (Move.carries_overReturns ends.clean split), place]
      cases lines with
      | nil => rfl
      | cons next lines =>
          -- The line has more behind it, so it ends with a line feed, and the next one starts a line.
          rw [List.append_cons] at h ⊢
          have further := ih h
          rw [List.flatten_append, List.flatten_singleton, withReturns_append, Place.after_append,
            Place.after_append] at further
          rw [further]

namespace GrammarFile

/-- The source with a carriage return in front of every line feed. -/
def withReturns (source : String) : String := String.ofList (TokenGrammar.withReturns source.toList)

theorem statements_withReturns (source : String) :
    statements (withReturns source) = (statements source).map (·.move (.overReturns source.toList)) := by
  have lines : AreLines ([] ++ splitLines source.toList) := areLines_splitLines source.toList
  have moved := statementsOf_withReturns lines
  rw [List.nil_append, flatten_splitLines, ← splitLines_withReturns] at moved
  rw [statements, withReturns, String.toList_ofList]
  exact moved

theorem carried_of_mem_statements {source : String} {s : Statement} (h : s ∈ statements source) :
    s.Carried (.overReturns source.toList) := by
  obtain ⟨front, line, rest, lines, rfl⟩ := exists_line_of_mem_statementsOf h
  have ends := endsLine_of_lines (lines ▸ areLines_splitLines source.toList)
  rw [← lines, flatten_splitLines] at ends
  obtain ⟨behind, split, -⟩ := ends.exists_behind
  exact (Statement.fills_ofLine _ _).carried (Move.carries_overReturns ends.clean split)

theorem declarations_withReturns (source : String) :
    declarations (withReturns source) = (declarations source).move (.overReturns source.toList) := by
  rw [declarations, statements_withReturns]
  exact Declarations.foldl_statement_move (fun s member => carried_of_mem_statements member) .empty

/-- The diagnostic with each of its ranges moved by the line feeds in front of it. -/
def overReturns (text : List Char) (d : Diagnostic) : Diagnostic :=
  { d with
    span := d.span.shift (lineFeedsBefore text d.span.start)
    related := d.related.map fun r => { r with span := r.span.shift (lineFeedsBefore text r.span.start) } }

theorem move_overReturns {source : String} {d : Diagnostic} (h : d ∈ (parse source).diagnostics) :
    d.move (.overReturns source.toList) = overReturns source.toList d := by
  have shifted (s : Span) (member : s ∈ d.spans) :
      s.move (.overReturns source.toList) = s.shift (lineFeedsBefore source.toList s.start) := by
    obtain ⟨-, -, piece, cuts, clean⟩ := (drawable_of_mem_diagnostics h s member).cuts
    exact Move.span_overReturns cuts clean
  have related : d.related.map (fun r => { r with span := r.span.move (.overReturns source.toList) }) =
      d.related.map fun r => { r with span := r.span.shift (lineFeedsBefore source.toList r.span.start) } := by
    refine List.map_congr_left fun r member => ?_
    rw [shifted r.span (List.mem_cons_of_mem _ (List.mem_map_of_mem member))]
  rw [Diagnostic.move, overReturns, shifted d.span List.mem_cons_self, related]

theorem parse_eq_declarations (source : String) :
    parse source = ⟨(declarations source).grammar, lexerOf (declarations source).rules,
      (declarations source).errors ++ (declarations source).grammar.warnings⟩ := by
  rw [parse_eq]
  congr 2
  exact (Declarations.errors_foldl_statement (statements source) .empty).symm

theorem diagnostics_withReturns (source : String) :
    (parse (withReturns source)).diagnostics = (parse source).diagnostics.map (overReturns source.toList) := by
  have moved : (parse (withReturns source)).diagnostics =
      (parse source).diagnostics.map (·.move (.overReturns source.toList)) := by
    rw [parse_eq_declarations, parse_eq_declarations source, declarations_withReturns, List.map_append]
    rfl
  rw [moved]
  exact List.map_congr_left fun d member => move_overReturns member

/-- Line endings do not matter. With a carriage return in front of every line feed, a source declares the same
recognizers in the same order, but for the offsets of stray symbols, and the same lexer, and has the same
diagnostics with their ranges moved by the line feeds in front. -/
theorem line_endings_do_not_matter (source : String) :
    (∀ n, (parse (withReturns source)).grammar.table n =
      ((parse source).grammar.table n).map (·.move (.overReturns source.toList))) ∧
    (parse (withReturns source)).lexer = (parse source).lexer ∧
    (parse (withReturns source)).diagnostics = (parse source).diagnostics.map (overReturns source.toList) ∧
    ∀ strict, (parse (withReturns source)).isValid strict = (parse source).isValid strict := by
  refine ⟨fun n => ?_, ?_, diagnostics_withReturns source, fun strict => ?_⟩
  · rw [parse_eq_declarations, parse_eq_declarations source, declarations_withReturns]
    exact Grammar.table_move _ _ n
  · rw [parse_eq_declarations, parse_eq_declarations source, declarations_withReturns]
    rfl
  · rw [isValid, isValid, diagnostics_withReturns, List.any_map, List.any_map]
    rfl

end GrammarFile

end TokenGrammar
