import Mathlib
import TokenGrammar.Proofs.Grammar.Printing
import TokenGrammar.Proofs.Grammar.Stored

/-!
# Printing a grammar and loading it back

The recognizers of a grammar that was defined without warnings can be read back from what they are shown
as. So the printed grammar, read as a file, declares the same recognizers in the same order. Only a
recognizer with a literal that quoting writes by an unknown escape is lost, and its line is reported.
-/
namespace TokenGrammar

namespace Table

theorem insert_of_fresh {t : Table} {r : Recognizer} (h : r.name ∉ t.names) : t.insert r = t ++ [r] := by
  induction t with
  | nil => rfl
  | cons s rest ih =>
      rw [names, List.map_cons, List.mem_cons, not_or] at h
      rw [insert, if_neg (Ne.symm h.1), ih h.2]
      rfl

end Table

namespace Grammar

variable {g : Grammar} {n : Namespace} {r : Recognizer}

theorem Defined.wellFormed (h : g.Defined) (silent : g.warnings = []) (hr : r ∈ g.table n) :
    r.WellFormed := by
  obtain ⟨origin, line, own, hl, sub⟩ := h.lineYields hr
  rw [silent] at sub
  obtain rfl := List.eq_nil_of_subset_nil sub
  exact hl.wellFormed (fun _ => Notation.named_of_mem_scan) (fun _ => Recognizer.isTrivia_of_mem_scan)

/-- The grammar with one more recognizer. -/
def put (g : Grammar) (e : Namespace × Recognizer) : Grammar :=
  g.setTable e.1 ((g.table e.1).insert e.2)

theorem define_render (h : r.WellFormed) (plain : r.Plain) (g : Grammar) (n : Namespace) (origin : Place) :
    g.define n origin r.render.toList = .ok (r, g.put (n, r)) := by
  simp only [define, Recognizer.ofLine_render h plain, List.append_nil]
  rfl

theorem define_render_of_not_plain (h : r.WellFormed) (bad : ¬ r.Plain) (g : Grammar) (n : Namespace)
    (origin : Place) :
    ∃ t ∈ Notation.scan origin r.render.toList,
      g.define n origin r.render.toList = .error (.unexpectedCharacters t.text t.location) := by
  obtain ⟨t, member, refused⟩ := Recognizer.ofLine_render_of_not_plain h bad origin
  refine ⟨t, member, ?_⟩
  simp only [define, refused]
  rfl

/-- Entries under fresh and distinct names go to the end of their tables, in order. -/
theorem table_foldl_put (es : List (Namespace × Recognizer)) (n : Namespace)
    (fresh : ((g.table n).names ++ (es.filter (·.1 = n)).map (·.2.name)).Nodup) :
    (es.foldl put g).table n = g.table n ++ (es.filter (·.1 = n)).map (·.2) := by
  induction es generalizing g with
  | nil => exact (List.append_nil _).symm
  | cons e rest ih =>
      by_cases own : e.1 = n
      · subst own
        have kept : (e :: rest).filter (·.1 = e.1) = e :: rest.filter (·.1 = e.1) :=
          List.filter_cons_of_pos (by simp)
        rw [kept, List.map_cons] at fresh ⊢
        have apart : e.2.name ∉ (g.table e.1).names := fun member =>
          (List.nodup_append.mp fresh).2.2 _ member _ List.mem_cons_self rfl
        have table : (g.put e).table e.1 = g.table e.1 ++ [e.2] := by
          rw [put, table_setTable, if_pos rfl, Table.insert_of_fresh apart]
        rw [List.foldl_cons, ih, table, List.append_assoc]
        · rfl
        · rw [table, Table.names, List.map_append, List.append_assoc]
          exact fresh
      · have table : (g.put e).table n = g.table n := by rw [put, table_setTable, if_neg own]
        have skipped : (e :: rest).filter (·.1 = n) = rest.filter (·.1 = n) :=
          List.filter_cons_of_neg (by simpa using own)
        rw [skipped] at fresh ⊢
        rw [List.foldl_cons, ih (table ▸ fresh), table]

theorem warnings_foldl_put (es : List (Namespace × Recognizer)) (g : Grammar) :
    (es.foldl put g).warnings = g.warnings := by
  induction es generalizing g with
  | nil => rfl
  | cons e rest ih => rw [List.foldl_cons, ih, put, warnings_setTable]

theorem filter_entries (g : Grammar) (n : Namespace) :
    (g.entries.filter (·.1 = n)).map (·.2) = g.table n := by
  have own (t : Table) : t.filter (fun _ => true) = t := List.filter_eq_self.mpr fun _ _ => rfl
  have others (t : Table) : t.filter (fun _ => false) = [] := List.filter_eq_nil_iff.mpr fun _ _ => nofun
  cases n <;> simp [entries, Namespace.all, List.filter_map, Function.comp_def, own, others]

end Grammar

/-- The ranges of lines of which the first starts at a place. -/
def lineSpans (place : Place) : List (List Char) → List Span
  | [] => []
  | line :: rest => (place.covering line).span :: lineSpans (place.after line) rest

/-- An error about unexpected characters inside the range. -/
def Diagnostic.ReportsCharacters (d : Diagnostic) (range : Span) : Prop :=
  d.kind = .unexpectedCharacters ∧ range.start ≤ d.span.start ∧ d.span.stop ≤ range.stop

namespace Declarations

variable {n : Namespace} {r : Recognizer}

theorem statement_of_plain (h : r.WellFormed) (plain : r.Plain) (d : Declarations) (n : Namespace)
    (place : Place) :
    d.statement (.recognizer n place r.render.toList) = { d with grammar := d.grammar.put (n, r) } := by
  simp only [statement_recognizer, Grammar.define_render h plain]

theorem statement_of_not_plain (h : r.WellFormed) (bad : ¬ r.Plain) (d : Declarations) (n : Namespace)
    (place : Place) :
    ∃ report, d.statement (.recognizer n (place.after (n.keyword.toList ++ [' '])) r.render.toList) =
        d.refuse report ∧
      report.ReportsCharacters (place.covering (n.statement r ++ ['\n'])).span := by
  obtain ⟨t, member, refused⟩ := Grammar.define_render_of_not_plain h bad d.grammar n
    (place.after (n.keyword.toList ++ [' ']))
  refine ⟨(CompileError.unexpectedCharacters t.text t.location).diagnostic, ?_, rfl, ?_⟩
  · simp only [statement_recognizer, refused]
  · have inside := Notation.span_of_mem_scan member
    have whole : n.statement r ++ ['\n'] = n.keyword.toList ++ [' '] ++ (r.render.toList ++ ['\n']) := by
      simp [Namespace.statement]
    simp only [Place.after, Place.covering, whole, byteLength_append] at inside ⊢
    change _ ≤ t.location.span.start ∧ t.location.span.stop ≤ _
    omega

/-- Loading the lines of recognizers puts the plain ones into the grammar, and reports the others. -/
theorem foldl_statements (es : List (Namespace × Recognizer)) (h : ∀ e ∈ es, e.2.WellFormed)
    (place : Place) (d : Declarations) :
    ∃ reports,
      (statementsOf place (es.map fun e => e.1.statement e.2 ++ ['\n'])).foldl statement d =
        ⟨(es.filter (·.2.Plain)).foldl Grammar.put d.grammar, d.rules, d.errors ++ reports⟩ ∧
      List.Forall₂ (fun e report => Diagnostic.ReportsCharacters report e.2)
        (((es.map (·.2)).zip (lineSpans place (es.map fun e => e.1.statement e.2 ++ ['\n']))).filter
          (¬ ·.1.Plain)) reports := by
  induction es generalizing place d with
  | nil => exact ⟨[], by rw [List.append_nil]; rfl, .nil⟩
  | cons e rest ih =>
      obtain ⟨own, others⟩ := List.forall_mem_cons.mp h
      simp only [List.map_cons, statementsOf, List.foldl_cons, lineSpans, List.zip_cons_cons,
        e.1.ofLine_statement own]
      -- A plain recognizer changes the grammar alone, any other one the errors alone.
      by_cases plain : e.2.Plain
      · obtain ⟨reports, loaded, reported⟩ := ih others (place.after (e.1.statement e.2 ++ ['\n']))
          { d with grammar := d.grammar.put e }
        refine ⟨reports, ?_, ?_⟩
        · rw [statement_of_plain own plain, loaded, List.filter_cons_of_pos (by simpa using plain)]
          rfl
        · rwa [List.filter_cons_of_neg (by simpa using plain)]
      · obtain ⟨report, refused, reports⟩ := statement_of_not_plain own plain d e.1 place
        obtain ⟨more, loaded, reported⟩ := ih others (place.after (e.1.statement e.2 ++ ['\n']))
          (d.refuse report)
        refine ⟨report :: more, ?_, ?_⟩
        · rw [refused, loaded, List.filter_cons_of_neg (by simpa using plain)]
          simp only [refuse, List.append_assoc, List.singleton_append]
        · rw [List.filter_cons_of_pos (by simpa using plain)]
          exact .cons reports reported

end Declarations

namespace Grammar

variable {g : Grammar}

theorem ext_table {g g' : Grammar} (tables : ∀ n, g.table n = g'.table n)
    (warnings : g.warnings = g'.warnings) : g = g' := by
  cases g
  cases g'
  have ignorations := tables .ignorations
  have definitions := tables .definitions
  have rules := tables .rules
  simp only [table] at ignorations definitions rules
  cases ignorations
  cases definitions
  cases rules
  cases warnings
  rfl

theorem filter_plain_entries (g : Grammar) (n : Namespace) :
    ((g.entries.filter (·.2.Plain)).filter (·.1 = n)).map (·.2) = (g.table n).filter (·.Plain) := by
  rw [← filter_entries g n, List.filter_map, List.filter_filter, List.filter_filter]
  simp only [Function.comp_apply, Bool.and_comm]

theorem Defined.table_loaded (h : g.Defined) (n : Namespace) :
    ((g.entries.filter (·.2.Plain)).foldl put .empty).table n = (g.table n).filter (·.Plain) := by
  have start : Grammar.empty.table n = [] := by cases n <;> rfl
  rw [table_foldl_put, start, List.nil_append, filter_plain_entries]
  have names : ((g.entries.filter (·.2.Plain)).filter (·.1 = n)).map (·.2.name) =
      Table.names ((g.table n).filter (·.Plain)) := by
    rw [Table.names, ← filter_plain_entries, List.map_map]
    rfl
  rw [start, names]
  exact (h.nodup_names n).sublist (List.filter_sublist.map _)

/-- The lines of the printed grammar with a recognizer that cannot be read back. -/
def unreadableLines (g : Grammar) : List (Recognizer × Span) :=
  ((g.entries.map (·.2)).zip (lineSpans .start (splitLines g.render.toList))).filter (¬ ·.1.Plain)

theorem unreadableLines_eq_nil (h : ∀ n, ∀ r ∈ g.table n, r.Plain) : g.unreadableLines = [] := by
  refine List.filter_eq_nil_iff.mpr fun line member => ?_
  obtain ⟨e, he, same⟩ := List.mem_map.mp (List.of_mem_zip member).1
  have plain : line.1.Plain := same ▸ h e.1 e.2 (mem_entries.mp he)
  simpa using plain

theorem Defined.parse_render_eq (h : g.Defined) (silent : g.warnings = []) :
    ∃ reports, GrammarFile.parse g.render =
        ⟨(g.entries.filter (·.2.Plain)).foldl put .empty, none, reports⟩ ∧
      List.Forall₂ (fun line report => Diagnostic.ReportsCharacters report line.2) g.unreadableLines
        reports := by
  have wellFormed : ∀ e ∈ g.entries, e.2.WellFormed := fun e member =>
    h.wellFormed silent (mem_entries.mp member)
  obtain ⟨reports, loaded, reported⟩ :=
    Declarations.foldl_statements g.entries wellFormed .start .empty
  refine ⟨reports, ?_, ?_⟩
  · -- No line declares a lexer rule, and no plain recognizer is warned of.
    rw [GrammarFile.parse, splitLines_render wellFormed, loaded, GrammarFile.ofDeclarations]
    simp only [Declarations.empty, List.isEmpty_nil, if_true, List.nil_append, warnings_foldl_put]
    rw [show Grammar.empty.warnings = [] from rfl, List.append_nil]
  · rw [unreadableLines, splitLines_render wellFormed]
    exact reported

/-- A printed grammar is loaded as it was, but for the recognizers that are not plain. Each of these is
reported by one error about unexpected characters on its own line. -/
theorem Defined.parse_render (h : g.Defined) (silent : g.warnings = []) :
    ((∀ n, ∀ r ∈ g.table n, r.Plain) →
      GrammarFile.parse g.render = ⟨g, none, []⟩ ∧
        (GrammarFile.parse g.render).grammar.render = g.render) ∧
    (GrammarFile.parse g.render).lexer = none ∧
    (∀ n, (GrammarFile.parse g.render).grammar.table n = (g.table n).filter (·.Plain)) ∧
    List.Forall₂ (fun line report => Diagnostic.ReportsCharacters report line.2) g.unreadableLines
      (GrammarFile.parse g.render).diagnostics := by
  obtain ⟨reports, loaded, reported⟩ := h.parse_render_eq silent
  rw [loaded]
  refine ⟨fun plain => ?_, rfl, h.table_loaded, reported⟩
  have same : (g.entries.filter (·.2.Plain)).foldl put .empty = g := by
    refine ext_table (fun n => ?_) ?_
    · rw [h.table_loaded, List.filter_eq_self]
      exact fun r member => decide_eq_true (plain n r member)
    · rw [warnings_foldl_put, silent]
      rfl
  rw [unreadableLines_eq_nil plain] at reported
  cases reported
  rw [same]
  exact ⟨rfl, rfl⟩

end Grammar

namespace Rows

def row : Recognizer :=
  ⟨"row", [[.tokens "cell" .oneOrMore true, .group [[.definition "tab", .subrule "row"], []]]]⟩

def tab : Recognizer := ⟨"tab", [[.literal "\t"]]⟩

def rules : Grammar := ⟨[], [], [row], []⟩

def grammar : Grammar := ⟨[], [tab], [row], []⟩

theorem defined_rules : rules.Defined := by
  have declared : Grammar.empty.define .rules .start "row = .cell+ (#tab @row |);".toList =
      .ok (row, rules) := by cbv
  exact .define .empty declared

theorem defined_grammar : grammar.Defined := by
  have declared : rules.define .definitions .start "tab = \"\t\"".toList = .ok (tab, grammar) := by cbv
  exact defined_rules.define declared

/-- The tab is shown as a backslash and a letter, so its line is the one that is reported. -/
theorem parse_render_rows :
    GrammarFile.parse rules.render = ⟨rules, none, []⟩ ∧
    (GrammarFile.parse grammar.render).grammar.table .rules = [row] ∧
    (GrammarFile.parse grammar.render).grammar.table .definitions = [] ∧
    ∃ report, (GrammarFile.parse grammar.render).diagnostics = [report] ∧
      Diagnostic.ReportsCharacters report ⟨0, 19⟩ := by
  have plain : ∀ n, ∀ r ∈ rules.table n, r.Plain := by
    intro n
    cases n <;> decide
  obtain ⟨whole, -⟩ := Grammar.Defined.parse_render defined_rules rfl
  obtain ⟨-, -, tables, reported⟩ := Grammar.Defined.parse_render defined_grammar rfl
  have unreadable : grammar.unreadableLines = [(tab, ⟨0, 19⟩)] := by cbv
  rw [unreadable] at reported
  refine ⟨(whole plain).1, (tables .rules).trans ?_, (tables .definitions).trans ?_, ?_⟩
  · cbv
  · cbv
  · generalize (GrammarFile.parse grammar.render).diagnostics = diagnostics at reported ⊢
    cases reported with
    | cons first none =>
        cases none
        exact ⟨_, rfl, first⟩

end Rows

end TokenGrammar
