import TokenGrammar.Proofs.Grammar.Lines
import TokenGrammar.Proofs.Recognizer.Moves

/-!
# Statements at moved places

A place is carried along with a text if walking over the text is the same before and after the move. Main
statement: statements of which all places are carried along with their texts declare what they declared before,
and all locations are moved, in the recognizers, the warnings and the errors.
-/
namespace TokenGrammar

def Place.move (m : Move) (p : Place) : Place := ⟨m.offset p.offset, m.position p.position⟩

/-- Walking into the text from where its start is moved leads to where one is moved from inside of the text. -/
def Move.Carries (m : Move) (origin : Place) (text : List Char) : Prop :=
  ∀ front, front <+: text → (origin.after front).move m = (origin.move m).after front

variable {m : Move} {origin place : Place} {text : List Char}

namespace Move.Carries

variable {front back : List Char}

theorem left (h : m.Carries origin (front ++ back)) : m.Carries origin front :=
  fun _ inside => h _ (inside.trans (List.prefix_append front back))

theorem right (h : m.Carries origin (front ++ back)) : m.Carries (origin.after front) back := by
  intro more inside
  have whole := h (front ++ more) ((List.prefix_append_right_inj front).mpr inside)
  rw [← Place.after_append, whole, Place.after_append, h front (List.prefix_append front back)]

theorem after (h : m.Carries origin text) : (origin.after text).move m = (origin.move m).after text :=
  h text (List.prefix_refl text)

theorem covering (h : m.Carries origin text) :
    (origin.covering text).move m = (origin.move m).covering text := by
  have stop : m.offset (origin.offset + byteLength text) = m.offset origin.offset + byteLength text :=
    congrArg Place.offset h.after
  rw [Place.covering, Location.move, Span.move, stop]
  rfl

end Move.Carries

namespace Notation

theorem locate_move {ps : List Piece} (h : m.Carries origin (ps.flatMap (·.text))) :
    locate (origin.move m) ps = (locate origin ps).map (·.move m) := by
  induction ps generalizing origin with
  | nil => rfl
  | cons p ps ih =>
      rw [List.flatMap_cons] at h
      rw [locate, locate, List.map_cons, ← h.left.after, ih h.right, ← h.left.covering]
      rfl

theorem scan_move (h : m.Carries origin text) :
    scan (origin.move m) text = (scan origin text).map (·.move m) := by
  rw [← flatMap_text_pieces text, ← flatMap_text_joinUnexpected] at h
  rw [scan, scan, locate_move h, List.filter_map]
  rfl

end Notation

theorem Recognizer.ofLine_move (h : m.Carries origin text) :
    ofLine (origin.move m) text = (ofLine origin text).move m (Recognizer.move m) := by
  have nothing : m.Carries (origin.after text) [] := by
    rw [← List.append_nil text] at h
    exact h.right
  rw [ofLine, ofLine, ← ofTokens_move, Notation.scan_move h, ← h.after, ← nothing.covering]

namespace Statement

def move (m : Move) : Statement → Statement
  | .nothing => .nothing
  | .lexRule skips place text => .lexRule skips (place.move m) text
  | .recognizer space place text => .recognizer space (place.move m) text
  | .unknown place keyword => .unknown (place.move m) keyword

/-- The place of the statement's text is carried along with it. -/
def Carried (m : Move) : Statement → Prop
  | .nothing => True
  | .lexRule _ place text | .recognizer _ place text | .unknown place text => m.Carries place text

theorem ofText_move (h : m.Carries place text) : ofText (place.move m) text = (ofText place text).move m := by
  rw [← splitWord_append_eq text] at h
  unfold ofText
  dsimp only
  rw [← h.left.after]
  split
  · rfl
  · rfl
  · split <;> rfl

/-- What a line of a moved text asks for is moved with it. -/
theorem ofLine_move (h : m.Carries place text) : ofLine (place.move m) text = (ofLine place text).move m := by
  rw [← List.takeWhile_append_dropWhile (p := isBlank) (l := text)] at h
  unfold ofLine
  dsimp only
  split
  · rfl
  · rw [← h.left.after]
    exact ofText_move h.right

theorem Fills.carried {s : Statement} (h : s.Fills place text) (carries : m.Carries place text) :
    s.Carried m := by
  cases h with
  | nothing => trivial
  | lexRule _ whole | recognizer _ whole =>
      rw [whole] at carries
      exact carries.right
  | unknown _ whole =>
      rw [whole] at carries
      exact carries.left.right

end Statement

theorem Table.insert_move (m : Move) (t : Table) (r : Recognizer) :
    Table.insert (t.map (·.move m)) (r.move m) = (t.insert r).map (·.move m) := by
  induction t with
  | nil => rfl
  | cons s t ih =>
      have names : (s.move m).name = (r.move m).name ↔ s.name = r.name := Iff.rfl
      rw [List.map_cons, insert, insert, if_congr names rfl rfl, ih]
      split <;> rfl

theorem CompileError.diagnostic_move (m : Move) (e : CompileError) :
    (e.move m).diagnostic = e.diagnostic.move m := by
  cases e <;> rfl

namespace Grammar

def move (m : Move) (g : Grammar) : Grammar :=
  ⟨g.ignorations.map (·.move m), g.definitions.map (·.move m), g.rules.map (·.move m),
    g.warnings.map (·.move m)⟩

theorem table_move (m : Move) (g : Grammar) (n : Namespace) :
    (g.move m).table n = (g.table n).map (·.move m) := by
  cases n <;> rfl

theorem setTable_move (m : Move) (g : Grammar) (n : Namespace) (t : Table) :
    (g.move m).setTable n (t.map (·.move m)) = (g.setTable n t).move m := by
  cases n <;> rfl

theorem define_move (h : m.Carries place text) (g : Grammar) (n : Namespace) :
    (g.move m).define n (place.move m) text =
      match g.define n place text with
      | .error e => .error (e.move m)
      | .ok (r, g) => .ok (r.move m, g.move m) := by
  rw [define, define, Recognizer.ofLine_move h]
  generalize Recognizer.ofLine place text = compiled
  rcases compiled with ⟨warnings, e | r⟩
  · rfl
  · have warned : { g.move m with warnings := (g.move m).warnings ++ warnings.map (·.move m) } =
        move m { g with warnings := g.warnings ++ warnings } := by
      simp only [move, List.map_append]
    simp only [Compiled.move]
    rw [warned, table_move, Table.insert_move, setTable_move]

end Grammar

namespace Declarations

def move (m : Move) (d : Declarations) : Declarations :=
  ⟨d.grammar.move m, d.rules, d.errors.map (·.move m)⟩

theorem refuse_move (m : Move) (d : Declarations) (error : Diagnostic) :
    (d.move m).refuse (error.move m) = (d.refuse error).move m := by
  simp only [refuse, move, List.map_append, List.map_cons, List.map_nil]

theorem refuse_report_move (m : Move) (d : Declarations) (kind : Diagnostic.Kind) (l : Location)
    (detail : Option String) :
    (d.move m).refuse (.report kind (l.move m).span detail [] []) =
      (d.refuse (.report kind l.span detail [] [])).move m :=
  refuse_move m d (.report kind l.span detail [] [])

theorem lexRule_move (h : m.Carries place text) (d : Declarations) (skips : Bool) :
    (d.move m).lexRule skips ((place.move m).covering text).span text =
      (d.lexRule skips (place.covering text).span text).move m := by
  rw [← h.covering, lexRule, lexRule]
  split
  · exact refuse_report_move m d _ _ _
  · split
    · exact refuse_report_move m d _ _ _
    · rfl

theorem statement_move {s : Statement} (h : s.Carried m) (d : Declarations) :
    (d.move m).statement (s.move m) = (d.statement s).move m := by
  cases s with
  | nothing => rfl
  | lexRule skips place text => exact lexRule_move h d skips
  | recognizer space place text =>
      have defined := Grammar.define_move h d.grammar space
      rw [Statement.move, statement_recognizer, statement_recognizer,
        show (d.move m).grammar = d.grammar.move m from rfl, defined]
      cases d.grammar.define space place text with
      | error e =>
          dsimp only
          rw [CompileError.diagnostic_move]
          exact refuse_move m d _
      | ok accepted => rfl
  | unknown place keyword =>
      simp only [statement, Statement.move]
      rw [← h.covering]
      exact refuse_report_move m d _ _ _

/-- Moved statements declare what they declared, moved. -/
theorem foldl_statement_move {statements : List Statement} (h : ∀ s ∈ statements, s.Carried m)
    (d : Declarations) :
    (statements.map (·.move m)).foldl statement (d.move m) = (statements.foldl statement d).move m := by
  induction statements generalizing d with
  | nil => rfl
  | cons s statements ih =>
      obtain ⟨own, others⟩ := List.forall_mem_cons.mp h
      rw [List.map_cons, List.foldl_cons, List.foldl_cons, statement_move own, ih others]

end Declarations

end TokenGrammar
