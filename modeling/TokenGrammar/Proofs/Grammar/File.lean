import TokenGrammar.GrammarFile
import TokenGrammar.Proofs.Grammar.Stored

/-!
# Grammars of files

The grammar of a file is built by declaring lines, and the file reports every warning of it. So a file
that is valid when warnings count stores no recognizer that was warned of.
-/
namespace TokenGrammar

theorem Declarations.defined_statement {d : Declarations} (h : d.grammar.Defined) (s : Statement) :
    (d.statement s).grammar.Defined := by
  cases s with
  | nothing => exact h
  | unknown place keyword => exact h
  | lexRule skips place text =>
      simp only [statement, lexRule]
      split
      · exact h
      · split <;> exact h
  | recognizer space place text =>
      rw [statement_recognizer]
      split
      · exact h
      · next hd => exact h.define hd

namespace GrammarFile

theorem grammar_ofDeclarations (d : Declarations) : (ofDeclarations d).grammar = d.grammar := by
  unfold ofDeclarations
  split
  · rfl
  · split <;> rfl

theorem warnings_subset_diagnostics (d : Declarations) :
    d.grammar.warnings ⊆ (ofDeclarations d).diagnostics := by
  unfold ofDeclarations
  split
  · exact List.subset_append_right ..
  · split <;> exact List.subset_append_right ..

theorem defined_grammar (source : String) : (parse source).grammar.Defined := by
  unfold parse
  rw [grammar_ofDeclarations]
  generalize statementsOf .start (splitLines source.toList) = statements
  suffices run : ∀ d : Declarations, d.grammar.Defined →
      (statements.foldl Declarations.statement d).grammar.Defined from run .empty .empty
  induction statements with
  | nil => exact fun _ h => h
  | cons s statements ih => exact fun d h => ih _ (Declarations.defined_statement h s)

/-- Every diagnostic is an error or a warning. -/
theorem isValid_strict_iff {file : GrammarFile} :
    file.isValid true = true ↔ file.diagnostics = [] := by
  unfold isValid
  constructor
  · intro h
    rw [List.eq_nil_iff_forall_not_mem]
    intro d member
    simp only [Bool.true_and, Bool.and_eq_true, Bool.not_eq_true', List.any_eq_false] at h
    have noError := h.1 d member
    have noWarning := h.2 d member
    cases hs : d.severity <;> simp [Diagnostic.isError, Diagnostic.isWarning, hs] at noError noWarning
  · intro h
    rw [h]
    rfl

theorem warnings_eq_nil {source : String} (h : (parse source).isValid true = true) :
    (parse source).grammar.warnings = [] := by
  have none := isValid_strict_iff.mp h
  unfold parse at none ⊢
  rw [grammar_ofDeclarations]
  exact List.eq_nil_of_subset_nil (none ▸ warnings_subset_diagnostics _)

/-- A strictly valid file stores no stray symbol. -/
theorem not_occurs_stray {source : String} (h : (parse source).isValid true = true)
    {n : Namespace} {r : Recognizer} (hr : r ∈ (parse source).grammar.table n) (t : Notation.Token) :
    ¬ Occurs (.stray t) r.alternatives := by
  intro ht
  have warned := (defined_grammar source).strayWarning_mem hr ht
  rw [warnings_eq_nil h] at warned
  cases warned

end GrammarFile

end TokenGrammar
