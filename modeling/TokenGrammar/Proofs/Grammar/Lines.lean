import Mathlib.Data.List.TakeWhile
import TokenGrammar.Proofs.Grammar.Printing
import TokenGrammar.Proofs.Text.Places

/-!
# Lines of a grammar file

The lines of a text are those lists of lines that have a line feed at the end of each, except perhaps the
last. A line's statement is read from its content alone, and it stands in the content. A line can be
blanked, which leaves all other lines and their places as they are.
-/
namespace TokenGrammar

/-- A line with its line feed. -/
def Ended (line : List Char) : Prop := ∃ text, '\n' ∉ text ∧ line = text ++ ['\n']

/-- Lines that a text can have: only the last may lack its line feed, and none is empty. -/
inductive AreLines : List (List Char) → Prop
  | nil : AreLines []
  | last {line : List Char} : line ≠ [] → '\n' ∉ line → AreLines [line]
  | cons {line : List Char} {rest : List (List Char)} : Ended line → AreLines rest → AreLines (line :: rest)

theorem flatten_splitLines (text : List Char) : (splitLines text).flatten = text := by
  induction text with
  | nil => rfl
  | cons c cs ih =>
      rw [splitLines]
      split
      · rw [List.flatten_cons, ih, List.singleton_append]
      · split
        · next none =>
            rw [none] at ih
            rw [← ih]
            rfl
        · next line rest some =>
            rw [some] at ih
            rw [← ih]
            rfl

theorem areLines_splitLines (text : List Char) : AreLines (splitLines text) := by
  induction text with
  | nil => exact .nil
  | cons c cs ih =>
      rw [splitLines]
      split
      · next newline => exact .cons ⟨[], List.not_mem_nil, by rw [newline, List.nil_append]⟩ ih
      · next other =>
          have inside {line : List Char} (h : '\n' ∉ line) : '\n' ∉ c :: line := by
            rw [List.mem_cons, not_or]
            exact ⟨Ne.symm other, h⟩
          split
          · exact .last (List.cons_ne_nil c []) (inside List.not_mem_nil)
          · next line rest some =>
              rw [some] at ih
              cases ih with
              | last _ h => exact .last (List.cons_ne_nil c line) (inside h)
              | cons ended more =>
                  obtain ⟨text, h, rfl⟩ := ended
                  exact .cons ⟨c :: text, inside h, rfl⟩ more

theorem splitLines_of_not_mem {line : List Char} (some : line ≠ []) (h : '\n' ∉ line) :
    splitLines line = [line] := by
  induction line with
  | nil => exact absurd rfl some
  | cons c line ih =>
      rw [List.mem_cons, not_or] at h
      rw [splitLines, if_neg (Ne.symm h.1)]
      cases line with
      | nil => rfl
      | cons d line => rw [ih (List.cons_ne_nil d line) h.2]

namespace AreLines

variable {lines front rest : List (List Char)} {line line' : List Char}

theorem splitLines_flatten (h : AreLines lines) : splitLines lines.flatten = lines := by
  induction h with
  | nil => rfl
  | last some h => rw [List.flatten_singleton, splitLines_of_not_mem some h]
  | cons ended _ ih =>
      obtain ⟨text, h, rfl⟩ := ended
      rw [List.flatten_cons, List.append_assoc, List.singleton_append, splitLines_append h, ih]

theorem append_iff (some : lines ≠ []) :
    AreLines (front ++ lines) ↔ (∀ line ∈ front, Ended line) ∧ AreLines lines := by
  induction front with
  | nil => simp
  | cons line front ih =>
      rw [List.forall_mem_cons, and_assoc, ← ih, List.cons_append]
      have more : front ++ lines ≠ [] := List.append_ne_nil_of_right_ne_nil front some
      constructor
      · intro h
        generalize front ++ lines = later at more h
        cases h with
        | last => exact absurd rfl more
        | cons ended h => exact ⟨ended, h⟩
      · exact fun h => .cons h.1 h.2

theorem ended (h : AreLines (front ++ line :: rest)) (more : rest ≠ []) : Ended line := by
  rw [List.append_cons] at h
  exact ((append_iff more).mp h).1 line (List.mem_append_right front List.mem_cons_self)

/-- A line is replaced by one that has a line feed if it has one. -/
theorem replace (h : AreLines (front ++ line :: rest)) (ended : Ended line → Ended line')
    (open_ : line ≠ [] → '\n' ∉ line → line' ≠ [] ∧ '\n' ∉ line') : AreLines (front ++ line' :: rest) := by
  rw [append_iff (List.cons_ne_nil _ _)] at h ⊢
  refine ⟨h.1, ?_⟩
  cases h.2 with
  | last some clean => exact .last (open_ some clean).1 (open_ some clean).2
  | cons e more => exact .cons (ended e) more

end AreLines

/-- The line feed and the carriage returns at the end of a line. -/
def lineEnding (line : List Char) : List Char :=
  (line.reverse.takeWhile fun c => c = '\n' || c = '\r').reverse

/-- As many spaces as the line's content has bytes. -/
def blankLine (line : List Char) : List Char :=
  List.replicate (byteLength (lineContent line)) ' ' ++ lineEnding line

theorem lineContent_append_lineEnding (line : List Char) : lineContent line ++ lineEnding line = line := by
  rw [lineContent, lineEnding, ← List.reverse_append, List.takeWhile_append_dropWhile, List.reverse_reverse]

theorem eq_of_mem_lineEnding {line : List Char} {c : Char} (h : c ∈ lineEnding line) : c = '\n' ∨ c = '\r' := by
  have ending := List.mem_takeWhile_imp (List.mem_reverse.mp h)
  simpa using ending

theorem newline_not_mem_lineContent {line : List Char} (h : '\n' ∉ line) : '\n' ∉ lineContent line := by
  intro member
  refine h ?_
  rw [← lineContent_append_lineEnding line]
  exact List.mem_append_left _ member

theorem Ended.newline_not_mem_lineContent {line : List Char} (h : Ended line) : '\n' ∉ lineContent line := by
  obtain ⟨text, clean, rfl⟩ := h
  have content : lineContent (text ++ ['\n']) = lineContent text := by simp [lineContent]
  rw [content]
  exact TokenGrammar.newline_not_mem_lineContent clean

theorem Ended.lineEnding_ne_nil {line : List Char} (h : Ended line) : lineEnding line ≠ [] := by
  obtain ⟨text, -, rfl⟩ := h
  simp [lineEnding]

theorem Ended.byteLength_lineContent {line : List Char} (h : Ended line) :
    byteLength (lineContent line) < byteLength line := by
  have whole := congrArg byteLength (lineContent_append_lineEnding line)
  have some := byteLength_pos h.lineEnding_ne_nil
  rw [byteLength_append] at whole
  omega

theorem byteLength_spaces (n : Nat) : byteLength (List.replicate n ' ') = n := by
  induction n with
  | zero => rfl
  | succ n ih =>
      rw [List.replicate_succ, byteLength, ih, Nat.add_comm]
      rfl

theorem byteLength_blankLine (line : List Char) : byteLength (blankLine line) = byteLength line := by
  rw [blankLine, byteLength_append, byteLength_spaces, ← byteLength_append, lineContent_append_lineEnding]

theorem blankLine_newline (text : List Char) : blankLine (text ++ ['\n']) = blankLine text ++ ['\n'] := by
  simp [blankLine, lineContent, lineEnding]

theorem newline_not_mem_blankLine {line : List Char} (h : '\n' ∉ line) : '\n' ∉ blankLine line := by
  rw [blankLine, List.mem_append, not_or]
  refine ⟨fun member => ?_, fun member => h ?_⟩
  · cases List.eq_of_mem_replicate member
  · rw [← lineContent_append_lineEnding line]
    exact List.mem_append_right _ member

theorem Ended.blankLine {line : List Char} (h : Ended line) : Ended (blankLine line) := by
  obtain ⟨text, clean, rfl⟩ := h
  exact ⟨_, newline_not_mem_blankLine clean, blankLine_newline text⟩

theorem Ended.after_blankLine {line : List Char} (h : Ended line) (place : Place) :
    place.after (TokenGrammar.blankLine line) = place.after line := by
  obtain ⟨text, clean, rfl⟩ := h
  rw [Place.after, Place.after, byteLength_blankLine, blankLine_newline, Position.after_newline clean,
    Position.after_newline (newline_not_mem_blankLine clean)]

theorem lineContent_blankLine (line : List Char) :
    lineContent (blankLine line) = List.replicate (byteLength (lineContent line)) ' ' := by
  have ending : ∀ c ∈ line.reverse.takeWhile (fun c => c = '\n' || c = '\r'), (c = '\n' || c = '\r') = true :=
    fun _ => List.mem_takeWhile_imp
  rw [lineContent, blankLine, lineEnding, List.reverse_append, List.reverse_reverse,
    List.dropWhile_append_of_pos ending, List.reverse_replicate]
  cases byteLength (lineContent line) with
  | zero => rfl
  | succ n =>
      rw [List.replicate_succ, List.dropWhile_cons_of_neg (by decide), ← List.replicate_succ,
        List.reverse_replicate]

theorem AreLines.blankLine {front rest : List (List Char)} {line : List Char}
    (h : AreLines (front ++ line :: rest)) : AreLines (front ++ blankLine line :: rest) := by
  refine h.replace .blankLine fun some clean => ⟨fun none => ?_, newline_not_mem_blankLine clean⟩
  have long := byteLength_pos some
  rw [← byteLength_blankLine, none] at long
  exact Nat.lt_irrefl _ long

theorem dropBlanks_spaces (n : Nat) : dropBlanks (List.replicate n ' ') = [] := by
  rw [dropBlanks, List.dropWhile_eq_nil_iff]
  intro c member
  rw [List.eq_of_mem_replicate member]
  decide

theorem splitWord_append_eq (text : List Char) :
    (splitWord text).1 ++ (splitWord text).2.1 ++ (splitWord text).2.2 = text := by
  simp only [splitWord, List.append_assoc, List.takeWhile_append_dropWhile]

theorem splitWord_ne_nil {content : List Char} (h : dropBlanks content ≠ []) :
    (splitWord (dropBlanks content)).1 ≠ [] := by
  obtain ⟨c, cs, same⟩ := List.exists_cons_of_ne_nil h
  have other : isBlank c = false := by
    have first := List.head?_dropWhile_not isBlank content
    rw [← dropBlanks, same] at first
    simpa using first
  rw [splitWord, same, List.takeWhile_cons_of_pos (by simp [other])]
  exact List.cons_ne_nil c _

namespace Statement

/-- The text that the statement speaks of stands in a larger text, and is located there. -/
inductive StandsIn (origin : Place) (whole : List Char) : Statement → Prop
  | nothing : StandsIn origin whole .nothing
  | lexRule {front text back : List Char} (skips : Bool) :
      whole = front ++ text ++ back → StandsIn origin whole (.lexRule skips (origin.after front) text)
  | recognizer {front text back : List Char} (space : Namespace) :
      whole = front ++ text ++ back → StandsIn origin whole (.recognizer space (origin.after front) text)
  | unknown {front keyword back : List Char} :
      whole = front ++ keyword ++ back → StandsIn origin whole (.unknown (origin.after front) keyword)

theorem StandsIn.widen {origin : Place} {before text : List Char} {s : Statement}
    (h : s.StandsIn (origin.after before) text) (behind : List Char) :
    s.StandsIn origin (before ++ text ++ behind) := by
  have whole {front piece back : List Char} (h : text = front ++ piece ++ back) :
      before ++ text ++ behind = (before ++ front) ++ piece ++ (back ++ behind) := by
    rw [h]
    simp only [List.append_assoc]
  cases h with
  | nothing => exact .nothing
  | lexRule skips h =>
      rw [← Place.after_append]
      exact .lexRule skips (whole h)
  | recognizer space h =>
      rw [← Place.after_append]
      exact .recognizer space (whole h)
  | unknown h =>
      rw [← Place.after_append]
      exact .unknown (whole h)

/-- What the statement speaks of in a line's content: a declaration's text goes on to the end, and a keyword
that is none is not empty. -/
inductive Fills (origin : Place) (content : List Char) : Statement → Prop
  | nothing : Fills origin content .nothing
  | lexRule {front text : List Char} (skips : Bool) :
      content = front ++ text → Fills origin content (.lexRule skips (origin.after front) text)
  | recognizer {front text : List Char} (space : Namespace) :
      content = front ++ text → Fills origin content (.recognizer space (origin.after front) text)
  | unknown {front keyword back : List Char} :
      keyword ≠ [] → content = front ++ keyword ++ back →
      Fills origin content (.unknown (origin.after front) keyword)

theorem Fills.standsIn {origin : Place} {content : List Char} {s : Statement} (h : s.Fills origin content) :
    s.StandsIn origin content := by
  cases h with
  | nothing => exact .nothing
  | lexRule skips same => exact .lexRule skips (same.trans (List.append_nil _).symm)
  | recognizer space same => exact .recognizer space (same.trans (List.append_nil _).symm)
  | unknown _ same => exact .unknown same

theorem fills_ofLine (place : Place) (content : List Char) : (ofLine place content).Fills place content := by
  have whole := List.takeWhile_append_dropWhile (p := isBlank) (l := content)
  have words := splitWord_append_eq (dropBlanks content)
  unfold ofLine
  dsimp only
  split
  · exact .nothing
  · next some =>
      rw [Bool.or_eq_true, not_or, List.isEmpty_iff] at some
      have some := splitWord_ne_nil some.1
      unfold ofText
      generalize splitWord (dropBlanks content) = parts at words some ⊢
      obtain ⟨keyword, blanks, rest⟩ := parts
      have behind : content = content.takeWhile isBlank ++ (keyword ++ blanks) ++ rest := by
        rw [List.append_assoc, words]
        exact whole.symm
      dsimp only
      split
      · rw [← Place.after_append]
        exact .lexRule false behind
      · rw [← Place.after_append]
        exact .lexRule true behind
      · split
        · rw [← Place.after_append]
          exact .recognizer _ behind
        · rw [← List.append_assoc, List.append_assoc _ blanks rest] at behind
          exact .unknown some behind

theorem standsIn_ofLine (place : Place) (content : List Char) :
    (ofLine place content).StandsIn place content := (fills_ofLine place content).standsIn

theorem ofLine_spaces (place : Place) (n : Nat) : ofLine place (List.replicate n ' ') = .nothing := by
  unfold ofLine
  rw [dropBlanks_spaces]
  rfl

end Statement

theorem statementsOf_append (place : Place) (front lines : List (List Char)) :
    statementsOf place (front ++ lines) =
      statementsOf place front ++ statementsOf (place.after front.flatten) lines := by
  induction front generalizing place with
  | nil => rfl
  | cons line front ih =>
      rw [List.cons_append, statementsOf, ih, statementsOf, List.flatten_cons, Place.after_append,
        List.cons_append]

theorem exists_line_of_mem_statementsOf {place : Place} {lines : List (List Char)} {s : Statement}
    (h : s ∈ statementsOf place lines) :
    ∃ front line rest, lines = front ++ line :: rest ∧
      s = .ofLine (place.after front.flatten) (lineContent line) := by
  induction lines generalizing place with
  | nil => cases h
  | cons line lines ih =>
      rcases List.mem_cons.mp h with rfl | later
      · exact ⟨[], line, lines, rfl, rfl⟩
      · obtain ⟨front, line', rest, rfl, rfl⟩ := ih later
        refine ⟨line :: front, line', rest, rfl, ?_⟩
        rw [List.flatten_cons, Place.after_append]

/-- Every statement stands where it says it does. -/
theorem standsIn_of_mem_statementsOf {place : Place} {lines : List (List Char)} {s : Statement}
    (h : s ∈ statementsOf place lines) : s.StandsIn place lines.flatten := by
  obtain ⟨front, line, rest, rfl, rfl⟩ := exists_line_of_mem_statementsOf h
  have stands := (Statement.standsIn_ofLine (place.after front.flatten) (lineContent line)).widen
    (lineEnding line ++ rest.flatten)
  rwa [List.append_assoc, ← List.append_assoc (lineContent line), lineContent_append_lineEnding,
    ← List.flatten_cons, ← List.flatten_append] at stands

/-- Blanking a line takes its statement away and leaves the others as they are. -/
theorem statementsOf_blankLine {front rest : List (List Char)} {line : List Char}
    (h : AreLines (front ++ line :: rest)) (place : Place) :
    statementsOf place (front ++ blankLine line :: rest) = statementsOf place front ++
      .nothing :: statementsOf ((place.after front.flatten).after line) rest := by
  rw [statementsOf_append, statementsOf, lineContent_blankLine, Statement.ofLine_spaces]
  rw [AreLines.append_iff (List.cons_ne_nil _ _)] at h
  cases h.2 with
  | last => rfl
  | cons ended _ => rw [ended.after_blankLine]

end TokenGrammar
