import Mathlib
import TokenGrammar.Proofs.Grammar.File
import TokenGrammar.Proofs.Grammar.Lines
import TokenGrammar.Proofs.Notation.Scanned
import TokenGrammar.Proofs.Recognizer.Findings

/-!
# Refused lines

Whether a statement of a grammar file is refused is settled by its own text, and a refusal leaves one error
and nothing else. Main statement: a file with a refused line says what it says when this line is blanked,
and one error more. Building the declared patterns again cannot fail.
-/
namespace TokenGrammar

/-- The diagnostic points into the range. -/
def Diagnostic.LiesIn (d : Diagnostic) (range : Span) : Prop :=
  range.start ≤ d.span.start ∧ d.span.stop ≤ range.stop

instance (d : Diagnostic) (range : Span) : Decidable (d.LiesIn range) := inferInstanceAs (Decidable (_ ∧ _))

theorem Diagnostic.isError_eq_false {d : Diagnostic} (h : d.isWarning = true) : d.isError = false := by
  rw [isWarning, decide_eq_true_eq] at h
  rw [isError, h]
  rfl

namespace Statement

/-- Why a statement is refused, if it is: the keyword is none, a lexer rule is malformed or its pattern
cannot be built, or a line does not compile. -/
def refusal? : Statement → Option Diagnostic
  | .nothing => none
  | .unknown place keyword =>
    some (.report .unknownStatement (place.covering keyword).span (some s!"`{String.ofList keyword}`") [] [])
  | .lexRule _ place text =>
    match LexRule.parse text with
    | .error detail => some (.report .invalidTokenPattern (place.covering text).span (some detail) [] [])
    | .ok (name, pattern) =>
      match Pattern.build pattern with
      | .error cause =>
        some (.report .invalidTokenPattern (place.covering text).span (some s!"`{name}`: {cause.message}") [] [])
      | .ok _ => none
  | .recognizer _ place text =>
    match (Recognizer.ofLine place text).result with
    | .error e => some e.diagnostic
    | .ok _ => none

variable {s : Statement} {error : Diagnostic} {place : Place} {content : List Char}

theorem isError_of_refusal? (h : s.refusal? = some error) : error.isError = true := by
  unfold refusal? at h
  split at h
  · cases h
  · cases h
    rfl
  · split at h
    · cases h
      rfl
    · split at h <;> cases h
      rfl
  · split at h
    · next e _ =>
        cases h
        cases e <;> rfl
    · cases h

/-- The error of a refused line points at a piece of its content. -/
theorem locates_of_refusal? (h : (ofLine place content).refusal? = some error) :
    ∃ piece l, place.Locates content piece l ∧ error.span = l.span := by
  have stands := standsIn_ofLine place content
  generalize ofLine place content = s at h stands
  cases stands with
  | nothing => cases h
  | unknown whole =>
      cases h
      exact ⟨_, _, ⟨_, _, whole, rfl⟩, rfl⟩
  | @lexRule front text back skips whole =>
      refine ⟨text, _, ⟨front, back, whole, rfl⟩, ?_⟩
      simp only [refusal?] at h
      split at h
      · cases h
        rfl
      · split at h <;> cases h
        rfl
  | @recognizer front text back space whole =>
      simp only [refusal?] at h
      split at h
      · next e refused =>
          cases h
          obtain ⟨piece, located⟩ := Recognizer.locates_of_ofLine refused e.location_mem_locations
          rw [whole]
          exact ⟨piece, _, located.widen back, rfl⟩
      · cases h

theorem span_of_refusal? (h : (ofLine place content).refusal? = some error) :
    place.offset ≤ error.span.start ∧ error.span.start ≤ error.span.stop ∧
      error.span.stop ≤ place.offset + byteLength content := by
  obtain ⟨piece, l, located, same⟩ := locates_of_refusal? h
  rw [same]
  exact located.span

end Statement

namespace Declarations

variable {s : Statement} {error : Diagnostic}

theorem statement_of_refused (h : s.refusal? = some error) (d : Declarations) :
    d.statement s = d.refuse error := by
  cases s with
  | nothing => cases h
  | unknown place keyword =>
      cases h
      rfl
  | lexRule skips place text =>
      simp only [statement, lexRule]
      cases parsed : LexRule.parse text with
      | error detail =>
          simp only [Statement.refusal?, parsed] at h
          cases h
          rfl
      | ok rule =>
          cases built : Pattern.build rule.2 with
          | error cause =>
              simp only [Statement.refusal?, parsed, built] at h
              cases h
              simp only [built]
          | ok program =>
              simp only [Statement.refusal?, parsed, built] at h
              cases h
  | recognizer space place text =>
      simp only [statement_recognizer, Grammar.define]
      cases compiled : (Recognizer.ofLine place text).result with
      | error e =>
          simp only [Statement.refusal?, compiled] at h
          cases h
          rfl
      | ok r =>
          simp only [Statement.refusal?, compiled] at h
          cases h

/-- The errors so far have no part in an accepted statement. -/
theorem statement_of_accepted (h : s.refusal? = none) (d : Declarations) (errors : List Diagnostic) :
    { d with errors }.statement s = { d.statement s with errors } := by
  cases s with
  | nothing => rfl
  | unknown place keyword => cases h
  | lexRule skips place text =>
      simp only [statement, lexRule]
      cases parsed : LexRule.parse text with
      | error detail =>
          simp only [Statement.refusal?, parsed] at h
          cases h
      | ok rule =>
          cases built : Pattern.build rule.2 with
          | error cause =>
              simp only [Statement.refusal?, parsed, built] at h
              cases h
          | ok program => simp only [built]
  | recognizer space place text =>
      simp only [statement_recognizer, Grammar.define]
      cases compiled : (Recognizer.ofLine place text).result with
      | error e =>
          simp only [Statement.refusal?, compiled] at h
          cases h
      | ok r => rfl

/-- One statement: the errors so far are kept, its own comes behind them, and the rest is as without them. -/
theorem statement_with_errors (d : Declarations) (errors : List Diagnostic) (s : Statement) :
    { d with errors }.statement s = { d.statement s with errors := errors ++ s.refusal?.toList } := by
  cases h : s.refusal? with
  | none => rw [statement_of_accepted h, Option.toList_none, List.append_nil]
  | some error =>
      rw [statement_of_refused h, statement_of_refused h]
      rfl

/-- A run of statements: its errors are those of the statements in order, behind the errors so far. -/
theorem foldl_statement_with_errors (statements : List Statement) (d : Declarations)
    (errors : List Diagnostic) :
    statements.foldl statement { d with errors } =
      { statements.foldl statement d with errors := errors ++ statements.filterMap Statement.refusal? } := by
  induction statements generalizing d errors with
  | nil =>
      rw [List.filterMap_nil, List.append_nil]
      rfl
  | cons s statements ih =>
      rw [List.foldl_cons, statement_with_errors, ih, List.append_assoc, List.filterMap_cons, List.foldl_cons]
      cases s.refusal? <;> rfl

theorem errors_foldl_statement (statements : List Statement) (d : Declarations) :
    (statements.foldl statement d).errors = d.errors ++ statements.filterMap Statement.refusal? :=
  congrArg errors (foldl_statement_with_errors statements d d.errors)

/-- A refused statement among others adds its error to the run without it. -/
theorem foldl_statement_refused (h : s.refusal? = some error) (front rest : List Statement)
    (d : Declarations) :
    (front ++ s :: rest).foldl statement d =
      { (front ++ .nothing :: rest).foldl statement d with
        errors := d.errors ++
          (front.filterMap Statement.refusal? ++ error :: rest.filterMap Statement.refusal?) } := by
  have before := errors_foldl_statement front d
  rw [List.foldl_append, List.foldl_append, List.foldl_cons, List.foldl_cons, statement_of_refused h, refuse,
    foldl_statement_with_errors, before]
  simp only [statement, List.append_assoc, List.singleton_append]

/-- All patterns can be built. -/
def Buildable (rules : List (LexRule String)) : Prop :=
  ∀ rule ∈ rules, ∃ program, Pattern.build rule.pattern = .ok program

theorem Buildable.declare {rules : List (LexRule String)} {rule : LexRule String} (h : Buildable rules)
    (built : ∃ program, Pattern.build rule.pattern = .ok program) : Buildable (LexRule.declare rules rule) := by
  induction rules with
  | nil => exact List.forall_mem_singleton.mpr built
  | cons first rules ih =>
      obtain ⟨own, others⟩ := List.forall_mem_cons.mp h
      rw [LexRule.declare]
      split
      · exact List.forall_mem_cons.mpr ⟨built, others⟩
      · exact List.forall_mem_cons.mpr ⟨own, ih others⟩

theorem Buildable.exists_build {rules : List (LexRule String)} (h : Buildable rules) :
    ∃ lexer, Lexer.build rules = .ok lexer := by
  induction rules with
  | nil => exact ⟨[], rfl⟩
  | cons first rules ih =>
      obtain ⟨⟨program, built⟩, others⟩ := List.forall_mem_cons.mp h
      obtain ⟨lexer, rest⟩ := ih others
      exact ⟨⟨first.name, first.skips, program⟩ :: lexer, by rw [Lexer.build, built, rest]; rfl⟩

theorem Buildable.statement {d : Declarations} (h : Buildable d.rules) (s : Statement) :
    Buildable (d.statement s).rules := by
  cases s with
  | nothing => exact h
  | unknown place keyword => exact h
  | lexRule skips place text =>
      simp only [Declarations.statement, lexRule]
      split
      · exact h
      · split
        · exact h
        · next program built => exact h.declare ⟨program, built⟩
  | recognizer space place text =>
      rw [Declarations.statement_recognizer]
      split <;> exact h

theorem Buildable.foldl_statement {d : Declarations} (h : Buildable d.rules) (statements : List Statement) :
    Buildable (statements.foldl Declarations.statement d).rules := by
  induction statements generalizing d with
  | nil => exact h
  | cons s statements ih => exact ih (h.statement s)

end Declarations

namespace Grammar

theorem Defined.isWarning {g : Grammar} (h : g.Defined) : ∀ w ∈ g.warnings, w.isWarning = true := by
  induction h with
  | empty => exact nofun
  | @define g g' n origin line r _ declared ih =>
      obtain ⟨own, yields, whole⟩ := lineYields_of_define declared
      rw [whole]
      exact List.forall_mem_append.mpr ⟨ih, fun w member => (yields.warnsOf w member).isWarning⟩

end Grammar

namespace GrammarFile

/-- The statements of a file, one a line. -/
def statements (source : String) : List Statement := statementsOf .start (splitLines source.toList)

def declarations (source : String) : Declarations :=
  (statements source).foldl Declarations.statement .empty

/-- The errors about a range of the file. -/
def errorsIn (file : GrammarFile) (range : Span) : List Diagnostic :=
  file.diagnostics.filter fun d => d.isError ∧ d.LiesIn range

theorem exists_build (source : String) : ∃ lexer, Lexer.build (declarations source).rules = .ok lexer :=
  have none : Declarations.Buildable Declarations.empty.rules := nofun
  (none.foldl_statement (statements source)).exists_build

/-- The lexer of rules that can be built. -/
def lexerOf (rules : List (LexRule String)) : Option Lexer :=
  if rules.isEmpty then none else (Lexer.build rules).toOption

/-- A file is what its statements declare, and the errors of those that are refused. -/
theorem parse_eq (source : String) :
    parse source = ⟨(declarations source).grammar, lexerOf (declarations source).rules,
      (statements source).filterMap Statement.refusal? ++ (declarations source).grammar.warnings⟩ := by
  obtain ⟨lexer, built⟩ := exists_build source
  have errors : (declarations source).errors = (statements source).filterMap Statement.refusal? :=
    Declarations.errors_foldl_statement (statements source) .empty
  change ofDeclarations (declarations source) = _
  rw [ofDeclarations, lexerOf, built, errors]
  split <;> rfl

theorem isWarning_of_mem_warnings (source : String) :
    ∀ w ∈ (declarations source).grammar.warnings, w.isWarning = true := by
  have defined := defined_grammar source
  rw [parse_eq] at defined
  exact defined.isWarning

theorem isValid_iff (source : String) :
    (parse source).isValid false = true ↔ ∀ s ∈ statements source, s.refusal? = none := by
  rw [isValid, parse_eq]
  simp only [Bool.false_and, Bool.not_false, Bool.and_true, Bool.not_eq_true', List.any_eq_false,
    List.mem_append, List.mem_filterMap]
  constructor
  · intro clean s member
    cases h : s.refusal? with
    | none => rfl
    | some error => exact absurd (Statement.isError_of_refusal? h) (clean error (.inl ⟨s, member, h⟩))
  · rintro accepted d (⟨s, member, h⟩ | warned)
    · rw [accepted s member] at h
      cases h
    · rw [Diagnostic.isError_eq_false (isWarning_of_mem_warnings source d warned)]
      exact Bool.false_ne_true

variable {source : String} {front rest : List (List Char)} {line : List Char} {error : Diagnostic}
  {place : Place}

theorem not_liesIn_of_front (h : AreLines (front ++ line :: rest))
    (found : error ∈ (statementsOf place front).filterMap Statement.refusal?) (content : List Char) :
    ¬ error.LiesIn ((place.after front.flatten).covering content).span := by
  obtain ⟨s, member, refused⟩ := List.mem_filterMap.mp found
  obtain ⟨earlier, own, later, rfl, rfl⟩ := exists_line_of_mem_statementsOf member
  have ended := ((AreLines.append_iff (List.cons_ne_nil _ _)).mp h).1 own (by simp)
  have shorter := ended.byteLength_lineContent
  have inside := Statement.span_of_refusal? refused
  simp only [Diagnostic.LiesIn, Place.covering, Place.after, List.flatten_append, List.flatten_cons,
    byteLength_append] at inside ⊢
  omega

theorem not_liesIn_of_rest (h : AreLines (front ++ line :: rest))
    (found : error ∈ (statementsOf (place.after line) rest).filterMap Statement.refusal?) :
    ¬ error.LiesIn (place.covering (lineContent line)).span := by
  obtain ⟨s, member, refused⟩ := List.mem_filterMap.mp found
  obtain ⟨earlier, own, later, rfl, rfl⟩ := exists_line_of_mem_statementsOf member
  have shorter := (h.ended (by simp)).byteLength_lineContent
  have inside := Statement.span_of_refusal? refused
  simp only [Diagnostic.LiesIn, Place.covering, Place.after] at inside ⊢
  omega

/-- The file with one of its lines blanked. -/
def blankedAt (front : List (List Char)) (line : List Char) (rest : List (List Char)) : String :=
  String.ofList (front ++ blankLine line :: rest).flatten

theorem statements_blankedAt (h : AreLines (front ++ line :: rest)) :
    statements (blankedAt front line rest) = statementsOf .start front ++
      .nothing :: statementsOf ((Place.start.after front.flatten).after line) rest := by
  rw [statements, blankedAt, String.toList_ofList, h.blankLine.splitLines_flatten, statementsOf_blankLine h]

section

variable (lines : splitLines source.toList = front ++ line :: rest)
  (refused : (Statement.ofLine (Place.start.after front.flatten) (lineContent line)).refusal? = some error)
include lines

theorem areLines : AreLines (front ++ line :: rest) := lines ▸ areLines_splitLines source.toList

theorem statements_of_lines :
    statements source = statementsOf .start front ++
      .ofLine (Place.start.after front.flatten) (lineContent line) ::
        statementsOf ((Place.start.after front.flatten).after line) rest := by
  rw [statements, lines, statementsOf_append, statementsOf]

include refused

/-- What is declared is what the blanked file declares. -/
theorem declarations_blankedAt :
    declarations source = { declarations (blankedAt front line rest) with
      errors := (declarations source).errors } := by
  have run := Declarations.foldl_statement_refused refused (statementsOf .start front)
    (statementsOf ((Place.start.after front.flatten).after line) rest) .empty
  rw [← statements_of_lines lines, ← statements_blankedAt (areLines lines)] at run
  unfold declarations
  rw [run]

theorem diagnostics_of_refused :
    (parse source).diagnostics = (statementsOf .start front).filterMap Statement.refusal? ++ error ::
      ((statementsOf ((Place.start.after front.flatten).after line) rest).filterMap Statement.refusal? ++
        (declarations source).grammar.warnings) := by
  rw [parse_eq, statements_of_lines lines, List.filterMap_append, List.filterMap_cons_some refused,
    List.append_assoc, List.cons_append]

theorem parse_blankedAt :
    parse (blankedAt front line rest) = { parse source with
      diagnostics := (statementsOf .start front).filterMap Statement.refusal? ++
        ((statementsOf ((Place.start.after front.flatten).after line) rest).filterMap Statement.refusal? ++
          (declarations source).grammar.warnings) } := by
  have declared := declarations_blankedAt lines refused
  have grammar := congrArg Declarations.grammar declared
  have rules := congrArg Declarations.rules declared
  dsimp only at grammar rules
  rw [parse_eq, parse_eq source, statements_blankedAt (areLines lines), List.filterMap_append,
    List.filterMap_cons_none rfl, List.append_assoc, grammar, rules]

/-- No other line has an error in the range of this one. -/
theorem errorsIn_of_refused :
    (parse source).errorsIn ((Place.start.after front.flatten).covering (lineContent line)).span = [error] := by
  obtain ⟨low, -, high⟩ := Statement.span_of_refusal? refused
  have inside : error.LiesIn ((Place.start.after front.flatten).covering (lineContent line)).span := ⟨low, high⟩
  have isError := Statement.isError_of_refusal? refused
  rw [errorsIn, diagnostics_of_refused lines refused, List.filter_append,
    List.filter_cons_of_pos (by simp [isError, inside]), List.filter_append]
  rw [List.filter_eq_nil_iff.mpr, List.filter_eq_nil_iff.mpr, List.filter_eq_nil_iff.mpr]
  · rfl
  · intro w warned
    simp [Diagnostic.isError_eq_false (isWarning_of_mem_warnings source w warned)]
  · intro e found
    simp [not_liesIn_of_rest (areLines lines) found]
  · intro e found
    simp [not_liesIn_of_front (areLines lines) found]

end

/-- A refused line adds its error to the diagnostics, and the file is otherwise what it is with spaces in place
of the line's content. The error is the only one about the line. So a file is valid if no line is refused, and
the patterns of its rules, each built when its line was read, can be built again. -/
theorem refused_line_adds_error (source : String) :
    (∀ front line rest error, splitLines source.toList = front ++ line :: rest →
      (Statement.ofLine (Place.start.after front.flatten) (lineContent line)).refusal? = some error →
      (∃ before after, (parse source).diagnostics = before ++ error :: after ∧
        parse (blankedAt front line rest) = { parse source with diagnostics := before ++ after }) ∧
      (parse source).errorsIn ((Place.start.after front.flatten).covering (lineContent line)).span =
        [error]) ∧
    ((parse source).isValid false = true ↔ ∀ s ∈ statements source, s ≠ .nothing → s.refusal? = none) ∧
    ∃ lexer, Lexer.build (declarations source).rules = .ok lexer ∧
      (parse source).lexer = if (declarations source).rules.isEmpty then none else some lexer := by
  refine ⟨fun front line rest error lines refused => ⟨⟨_, _, diagnostics_of_refused lines refused,
    parse_blankedAt lines refused⟩, errorsIn_of_refused lines refused⟩, ?_, ?_⟩
  · rw [isValid_iff]
    refine ⟨fun h s member _ => h s member, fun h s member => ?_⟩
    by_cases nothing : s = .nothing
    · rw [nothing]
      rfl
    · exact h s member nothing
  · obtain ⟨lexer, built⟩ := exists_build source
    refine ⟨lexer, built, ?_⟩
    rw [parse_eq, lexerOf, built]
    rfl

end GrammarFile

namespace Misspelt

/-- The rule is declared again behind a line whose keyword is none. -/
def front : List (List Char) := ["token left /l/\n".toList, "rule pair = .left () .right\n".toList]

def line : List Char := "  rulé pair\r\n".toList

def rest : List (List Char) := ["rule pair = .left\n".toList, "skip".toList]

def error : Diagnostic :=
  .report .unknownStatement ⟨45, 50⟩ (some "`rulé`") [] []

def source : String := String.ofList (front ++ line :: rest).flatten

theorem refused_line_adds_error_misspelt :
    (GrammarFile.parse source).errorsIn ⟨43, 55⟩ = [error] ∧
    (∃ before after, (GrammarFile.parse source).diagnostics = before ++ error :: after ∧
      GrammarFile.parse (GrammarFile.blankedAt front line rest) =
        { GrammarFile.parse source with diagnostics := before ++ after } ∧
      before.length + after.length = 2) ∧
    (GrammarFile.parse source).isValid false = false ∧
    ∃ lexer, (GrammarFile.parse source).lexer = some lexer := by
  obtain ⟨refused, valid, lexer, -, built⟩ := GrammarFile.refused_line_adds_error source
  have lines : splitLines source.toList = front ++ line :: rest := by cbv
  have unknown : (Statement.ofLine (Place.start.after front.flatten) (lineContent line)).refusal? =
      some error := by cbv
  have range : ((Place.start.after front.flatten).covering (lineContent line)).span = ⟨43, 55⟩ := by cbv
  have declares : (GrammarFile.declarations source).rules.isEmpty = false := by cbv
  obtain ⟨⟨before, after, diagnostics, same⟩, alone⟩ := refused front line rest error lines unknown
  refine ⟨range ▸ alone, ⟨before, after, diagnostics, same, ?_⟩, ?_, lexer, ?_⟩
  · have count : (GrammarFile.parse source).diagnostics.length = 3 := by cbv
    rw [diagnostics, List.length_append, List.length_cons] at count
    omega
  · rw [← Bool.not_eq_true, valid]
    intro accepted
    have member : Statement.ofLine (Place.start.after front.flatten) (lineContent line) ∈
        GrammarFile.statements source := by
      rw [GrammarFile.statements_of_lines lines]
      exact List.mem_append_right _ List.mem_cons_self
    have none := accepted _ member (fun nothing => by rw [nothing] at unknown; cases unknown)
    cases unknown.symm.trans none
  · rw [built, declares]
    rfl

end Misspelt

end TokenGrammar
