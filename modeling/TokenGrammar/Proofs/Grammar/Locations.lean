import Mathlib
import TokenGrammar.Proofs.Grammar.Refusals
import TokenGrammar.Proofs.Recognizer.Relocation
import TokenGrammar.Proofs.Text.LineIndex

/-!
# Locations in a grammar file

A line is compiled by itself, but the locations in what it gives are those of the whole text around it. Main
statement: tokens, stray symbols, errors and warnings of a grammar file point at what they are about, by bytes
and by lines and columns. Lines and columns are those that tables of line starts tell: of the file where a line
starts, and of the line by itself in what it gives.
-/
namespace TokenGrammar

variable {whole : List Char}

/-- What the diagnostic points at stands there in the text. -/
inductive Diagnostic.TrueIn (whole : List Char) : Diagnostic → Prop
  | unknownStatement {l : Location} {keyword : List Char} {detail : Option String} :
      l.Marks keyword whole → TrueIn whole (.report .unknownStatement l.span detail [] [])
  | invalidTokenPattern {l : Location} {text : List Char} {detail : Option String} :
      l.Marks text whole → TrueIn whole (.report .invalidTokenPattern l.span detail [] [])
  | error {e : CompileError} :
      (∀ l ∈ e.locations, ∃ piece, l.Marks piece whole) → TrueIn whole e.diagnostic
  | warning {w : Diagnostic} {line : List Notation.Token} :
      w.WarnsOf line → (∀ t ∈ line, t.location.Marks t.text.toList whole) → TrueIn whole w

/-- Stray symbols and warnings of the grammar point at what they are about. -/
structure Grammar.TrueIn (whole : List Char) (g : Grammar) : Prop where
  stray : ∀ n, ∀ r ∈ g.table n, ∀ t, Occurs (.stray t) r.alternatives → t.location.Marks t.text.toList whole
  warning : ∀ w ∈ g.warnings, w.TrueIn whole

section

variable (before text behind : List Char)

theorem marks_of_mem_scan {t : Notation.Token} (h : t ∈ Notation.scan (Place.start.after before) text) :
    t.location.Marks t.text.toList (before ++ text ++ behind) :=
  ((Notation.locates_of_mem_scan h).widen behind).marks

theorem marks_of_ofLine {e : CompileError} {l : Location}
    (h : (Recognizer.ofLine (Place.start.after before) text).result = .error e) (member : l ∈ e.locations) :
    ∃ piece, l.Marks piece (before ++ text ++ behind) := by
  obtain ⟨piece, located⟩ := Recognizer.locates_of_ofLine h member
  exact ⟨piece, (located.widen behind).marks⟩

end

/-- The position is looked up in the text by itself, and moved to where the text starts. -/
def Location.LookedUp (origin : Place) (text : List Char) (l : Location) : Prop :=
  ∃ p, (LineIndex.ofText text).position? (l.span.start - origin.offset) = some p ∧
    l.position = origin.position.shift p

theorem Place.Locates.lookedUp {origin : Place} {text piece : List Char} {l : Location}
    (h : origin.Locates text piece l) : l.LookedUp origin text := by
  obtain ⟨front, back, rfl, rfl⟩ := h
  refine ⟨Position.start.after front, ?_, (Position.shift_after origin.position front).symm⟩
  rw [covering, after, Nat.add_sub_cancel_left, List.append_assoc]
  exact LineIndex.position?_append front (piece ++ back)

/-- What is scanned or complained of in a line is located by what is looked up in the line. -/
theorem lookedUp_of_ofLine (origin : Place) (text : List Char) :
    (∀ t ∈ Notation.scan origin text, t.location.LookedUp origin text) ∧
    ((origin.after text).covering []).LookedUp origin text ∧
    ∀ e, (Recognizer.ofLine origin text).result = .error e → ∀ l ∈ e.locations, l.LookedUp origin text := by
  refine ⟨fun t member => (Notation.locates_of_mem_scan member).lookedUp, ?_, fun e refused l member => ?_⟩
  · have last : origin.Locates text [] ((origin.after text).covering []) :=
      ⟨text, [], by rw [List.append_nil, List.append_nil], rfl⟩
    exact last.lookedUp
  · obtain ⟨piece, located⟩ := Recognizer.locates_of_ofLine refused member
    exact located.lookedUp

theorem Grammar.TrueIn.define {g g' : Grammar} {n : Namespace} {origin : Place} {line : List Char}
    {r : Recognizer} (h : g.TrueIn whole)
    (located : ∀ t ∈ Notation.scan origin line, t.location.Marks t.text.toList whole)
    (declared : g.define n origin line = .ok (r, g')) : g'.TrueIn whole := by
  obtain ⟨own, yields, warnings⟩ := lineYields_of_define declared
  constructor
  · intro n' s member t ht
    rw [table_define declared] at member
    split at member
    · next same =>
        rcases Table.mem_insert member with rfl | older
        · exact located t (yields.stray_mem ht)
        · exact h.stray n s older t ht
    · exact h.stray n' s member t ht
  · rw [warnings]
    exact List.forall_mem_append.mpr ⟨h.warning, fun w member => .warning (yields.warnsOf w member) located⟩

/-- A statement that stands in the text adds true stray symbols and warnings alone. -/
theorem Grammar.TrueIn.statement {d : Declarations} (h : d.grammar.TrueIn whole) {s : Statement}
    (stands : s.StandsIn .start whole) : (d.statement s).grammar.TrueIn whole := by
  cases stands with
  | nothing => exact h
  | unknown => exact h
  | lexRule =>
      simp only [Declarations.statement, Declarations.lexRule]
      split
      · exact h
      · split <;> exact h
  | @recognizer front text back space same =>
      rw [Declarations.statement_recognizer]
      split
      · exact h
      · next declared =>
          subst same
          exact h.define (fun t => marks_of_mem_scan front text back) declared

theorem Grammar.TrueIn.foldl_statement {d : Declarations} (h : d.grammar.TrueIn whole)
    {statements : List Statement} (stand : ∀ s ∈ statements, s.StandsIn .start whole) :
    (statements.foldl Declarations.statement d).grammar.TrueIn whole := by
  induction statements generalizing d with
  | nil => exact h
  | cons s statements ih =>
      obtain ⟨first, others⟩ := List.forall_mem_cons.mp stand
      exact ih (h.statement first) others

theorem Statement.trueIn_of_refusal? {s : Statement} {error : Diagnostic} (stands : s.StandsIn .start whole)
    (h : s.refusal? = some error) : error.TrueIn whole := by
  cases stands with
  | nothing => cases h
  | unknown same =>
      cases h
      exact .unknownStatement (l := Place.covering _ _) (Place.Locates.marks ⟨_, _, same, rfl⟩)
  | lexRule skips same =>
      have marks := Place.Locates.marks ⟨_, _, same, rfl⟩
      simp only [refusal?] at h
      split at h
      · cases h
        exact .invalidTokenPattern marks
      · split at h
        · cases h
          exact .invalidTokenPattern marks
        · cases h
  | @recognizer front text back space same =>
      simp only [refusal?] at h
      split at h
      · next refused =>
          cases h
          subst same
          exact .error fun l => marks_of_ofLine front text back refused
      · cases h

namespace GrammarFile

theorem standsIn_of_mem_statements {source : String} {s : Statement} (h : s ∈ statements source) :
    s.StandsIn .start source.toList := by
  have stands := standsIn_of_mem_statementsOf h
  rwa [flatten_splitLines] at stands

theorem trueIn_declarations (source : String) : (declarations source).grammar.TrueIn source.toList := by
  have empty : Declarations.empty.grammar.TrueIn source.toList :=
    ⟨fun n => by cases n <;> exact nofun, nofun⟩
  exact empty.foldl_statement fun s => standsIn_of_mem_statements

theorem trueIn_of_mem_diagnostics {source : String} {d : Diagnostic} (h : d ∈ (parse source).diagnostics) :
    d.TrueIn source.toList := by
  rw [parse_eq] at h
  rcases List.mem_append.mp h with refused | warned
  · obtain ⟨s, member, refused⟩ := List.mem_filterMap.mp refused
    exact Statement.trueIn_of_refusal? (standsIn_of_mem_statements member) refused
  · exact (trueIn_declarations source).warning d warned

/-- A line that is compiled starts where the file has its text. -/
theorem exists_of_mem_statements {source : String} {space : Namespace} {place : Place} {text : List Char}
    (h : .recognizer space place text ∈ statements source) :
    ∃ before behind, source.toList = before ++ text ++ behind ∧ place = Place.start.after before := by
  have stands := standsIn_of_mem_statements h
  cases stands with
  | @recognizer front _ back _ same => exact ⟨front, back, same, rfl⟩

/-- A line that is compiled starts at the position that its offset is looked up to have in the file. -/
theorem position?_of_mem_statements {source : String} {space : Namespace} {place : Place} {text : List Char}
    (h : .recognizer space place text ∈ statements source) :
    (LineIndex.ofText source.toList).position? place.offset = some place.position := by
  obtain ⟨before, behind, whole, same⟩ := exists_of_mem_statements h
  rw [List.append_assoc] at whole
  exact LineIndex.position?_of_isIn ⟨before, text ++ behind, whole, same⟩

/-- Tokens of a line at its place in a larger text have their true locations there, and so has the line's end.
A line compiled there gives what it gives by itself, with all locations moved. So whatever a file says of its
lines, in its diagnostics and in the stray symbols of its grammar, points at what it is about. -/
theorem locations_are_of_the_file :
    (∀ before text behind : List Char,
      let whole := before ++ text ++ behind
      let origin := Place.inText whole (byteLength before)
      let stop := byteLength before + byteLength text
      (∀ t ∈ Notation.scan origin text, t.location.Marks t.text.toList whole) ∧
      (origin.after text).covering [] = ⟨⟨stop, stop⟩, Position.ofOffset whole stop⟩ ∧
      Notation.scan origin text = (Notation.scan .start text).map (·.relocate origin) ∧
      Recognizer.ofLine origin text =
        (Recognizer.ofLine .start text).relocate origin (Recognizer.relocate origin)) ∧
    ∀ source : String,
      (∀ space place text, .recognizer space place text ∈ statements source →
        (∃ before behind, source.toList = before ++ text ++ behind ∧
          place = Place.inText source.toList (byteLength before)) ∧
        ∀ e, (Recognizer.ofLine place text).result = .error e →
          e.PointsAt ((place.after text).covering []) (Notation.scan place text) ∧
          ∀ l ∈ e.locations, ∃ piece, l.Marks piece source.toList) ∧
      (parse source).grammar.TrueIn source.toList ∧
      ∀ d ∈ (parse source).diagnostics, d.TrueIn source.toList := by
  constructor
  · intro before text behind
    have origin : Place.inText (before ++ text ++ behind) (byteLength before) = Place.start.after before := by
      rw [List.append_assoc, Place.inText_append]
    have stop := Place.inText_append (before ++ text) behind
    rw [byteLength_append, Place.after_append] at stop
    dsimp only
    rw [origin]
    refine ⟨fun t => marks_of_mem_scan before text behind, ?_, Notation.scan_relocate _ text,
      Recognizer.ofLine_relocate _ text⟩
    rw [← stop]
    rfl
  · intro source
    refine ⟨fun space place text member => ?_, ?_, fun d => trueIn_of_mem_diagnostics⟩
    · obtain ⟨before, behind, whole, rfl⟩ := exists_of_mem_statements member
      refine ⟨⟨before, behind, whole, ?_⟩, fun e refused => ⟨?_, fun l inside => ?_⟩⟩
      · rw [whole, List.append_assoc, Place.inText_append]
      · exact (Recognizer.finds_ofTokens _ _).error e refused
      · rw [whole]
        exact marks_of_ofLine before text behind refused inside
    · have declared := trueIn_declarations source
      rw [parse_eq]
      exact declared

end GrammarFile

namespace Accents

def source : String := "// à\nrule a = .b )\n  define é = .b\n"

def bracket : Notation.Token := ⟨.groupClose, ")", ⟨⟨18, 19⟩, ⟨2, 13⟩⟩⟩

def rule : Recognizer := ⟨"a", [[.tokens "b" .one true, .stray bracket]]⟩

/-- Where the text of the definition starts. -/
def place : Place := ⟨29, ⟨3, 10⟩⟩

def text : List Char := "é = .b".toList

/-- Bytes and columns part behind the first accent of a line. -/
theorem locations_are_of_the_file_accents :
    bracket.location.Marks [')'] source.toList ∧
    place = Place.inText source.toList 29 ∧
    ∃ e, (Recognizer.ofLine place text).result = .error e ∧
      e.locations = [⟨⟨29, 31⟩, ⟨3, 10⟩⟩] ∧
      ∃ piece, Location.Marks ⟨⟨29, 31⟩, ⟨3, 10⟩⟩ piece source.toList := by
  obtain ⟨-, file⟩ := GrammarFile.locations_are_of_the_file
  obtain ⟨compiled, grammar, -⟩ := file source
  have table : (GrammarFile.parse source).grammar.table .rules = [rule] := by cbv
  have statements : GrammarFile.statements source =
      [.nothing, .recognizer .rules ⟨11, ⟨2, 6⟩⟩ "a = .b )".toList,
        .recognizer .definitions place text] := by cbv
  have refused : (Recognizer.ofLine place text).result =
      .error (.unexpectedCharacters "é" ⟨⟨29, 31⟩, ⟨3, 10⟩⟩) := by cbv
  obtain ⟨⟨before, behind, whole, here⟩, errors⟩ := compiled .definitions place text (by simp [statements])
  refine ⟨?_, ?_, _, refused, rfl, (errors _ refused).2 _ List.mem_cons_self⟩
  · exact grammar.stray .rules rule (by simp [table]) bracket (.of_mem List.mem_cons_self (by simp))
  · have offset := congrArg Place.offset here
    rw [here]
    exact congrArg (Place.inText source.toList) offset.symm

end Accents

end TokenGrammar
