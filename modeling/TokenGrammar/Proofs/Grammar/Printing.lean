import TokenGrammar.GrammarFile
import TokenGrammar.Proofs.Recognizer.Legibility
import TokenGrammar.Proofs.Text.Quoted

/-!
# Printed grammars as files

A grammar is printed one recognizer a line, behind the keyword of its namespace. Reading the printed
text as a file finds these lines again, and in each of them the statement that declares the recognizer.
-/
namespace TokenGrammar

theorem Quoted.newline_not_mem_escape (c : Char) : '\n' ∉ escape '"' c := by
  unfold escape
  repeat' split
  · decide
  · decide
  · decide
  · decide
  · next other _ => simp [Ne.symm other]
  · next other _ _ => simp [Ne.symm other]
  · have digits := not_mem_toDigits (fun n => Nat.digitChar_ne '\n' (by decide)) 16 c.toNat
    simp [digits]

theorem newline_not_mem_quoted (text : String) : '\n' ∉ (quoted text).toList := by
  rw [quoted, String.toList_ofList, Quoted.encode]
  simp [Quoted.newline_not_mem_escape]

theorem newline_not_mem_name {name : List Char} (h : Notation.IsName name) : '\n' ∉ name := by
  cases name with
  | nil => cases h
  | cons c cs =>
      intro member
      rcases List.mem_cons.mp member with rfl | later
      · exact absurd h.1 (by decide)
      · exact absurd (h.2 _ later) (by decide)

theorem newline_not_mem_suffix (quantifier : Quantifier) : '\n' ∉ quantifier.suffix.toList := by
  cases quantifier <;> decide

mutual

theorem Symbol.newline_not_mem_render (s : Symbol) (h : Legible [[s]]) : '\n' ∉ s.render.toList := by
  have spelled : s.WellSpelled := h.symbol List.mem_cons_self
  match s with
  | .literal text => exact newline_not_mem_quoted text
  | .tokens kind quantifier explicit =>
      have name := newline_not_mem_name spelled.1
      have suffix := newline_not_mem_suffix quantifier
      cases explicit <;> simp [Symbol.render, name, suffix]
  | .subrule name | .definition name =>
      simp [Symbol.render, newline_not_mem_name spelled]
  | .group alternatives =>
      have inner := newline_not_mem_renderAlternatives alternatives (h.of_group List.mem_cons_self)
      simp only [Symbol.render, String.toList_append, List.mem_append, not_or]
      exact ⟨⟨by decide, inner⟩, by decide⟩
  | .stray t => exact spelled.elim

theorem newline_not_mem_renderAlternatives (alternatives : List (List Symbol))
    (h : Legible alternatives) : '\n' ∉ (" | ".intercalate (renderAlternatives alternatives)).toList := by
  match alternatives with
  | [] => exact List.not_mem_nil
  | [symbols] =>
      rw [renderAlternatives, renderAlternatives, String.intercalate_singleton]
      exact newline_not_mem_renderSymbols symbols h
  | symbols :: next :: others =>
      have first := newline_not_mem_renderSymbols symbols h.head
      have later := newline_not_mem_renderAlternatives (next :: others) h.tail
      rw [toList_renderAlternatives]
      simp [-String.toList_intercalate, first, later]

theorem newline_not_mem_renderSymbols (symbols : List Symbol) (h : Legible [symbols]) :
    '\n' ∉ (" ".intercalate (renderSymbols symbols)).toList := by
  match symbols with
  | [] => exact List.not_mem_nil
  | [s] =>
      rw [renderSymbols, renderSymbols, String.intercalate_singleton]
      exact s.newline_not_mem_render h
  | s :: next :: others =>
      have first := s.newline_not_mem_render h.first
      have later := newline_not_mem_renderSymbols (next :: others) h.behind
      rw [toList_renderSymbols]
      simp [-String.toList_intercalate, first, later]

end

theorem Recognizer.newline_not_mem_render {r : Recognizer} (h : r.WellFormed) :
    '\n' ∉ r.render.toList := by
  have name := newline_not_mem_name h.name
  have body := newline_not_mem_renderAlternatives r.alternatives h.legible
  simp [-String.toList_intercalate, render, Recognizer.body, name, body]

theorem splitLines_append {line : List Char} (h : '\n' ∉ line) (rest : List Char) :
    splitLines (line ++ '\n' :: rest) = (line ++ ['\n']) :: splitLines rest := by
  induction line with
  | nil => rw [List.nil_append, splitLines, if_pos rfl, List.nil_append]
  | cons c line ih =>
      rw [List.mem_cons, not_or] at h
      rw [List.cons_append, splitLines, if_neg (Ne.symm h.1), ih h.2]
      rfl

theorem not_isBlank_of_isNameStart {c : Char} (h : Notation.isNameStart c = true) :
    isBlank c = false := by
  have range : 65 ≤ c.toNat ∧ c.toNat ≤ 122 := by
    simp only [Notation.isNameStart, Bool.or_eq_true, Bool.and_eq_true, decide_eq_true_eq] at h
    rcases h with (⟨low, high⟩ | ⟨low, high⟩) | rfl
    · exact ⟨low, Nat.le_trans high (by decide)⟩
    · exact ⟨Nat.le_trans (by decide) low, high⟩
    · decide
  simp only [isBlank, Bool.or_eq_false_iff, Bool.and_eq_false_imp, decide_eq_true_eq,
    decide_eq_false_iff_not]
  omega

theorem splitWord_append {word text : List Char} (hw : ∀ c ∈ word, isBlank c = false)
    (ht : ∀ c ∈ text.head?, isBlank c = false) : splitWord (word ++ ' ' :: text) = (word, [' '], text) := by
  have inside : ∀ c ∈ word, (!isBlank c) = true := fun c member => by rw [hw c member]; rfl
  have blank : isBlank ' ' = true := by decide
  have behind : text.takeWhile isBlank = [] ∧ text.dropWhile isBlank = text := by
    cases text with
    | nil => exact ⟨rfl, rfl⟩
    | cons c cs =>
        have shown : ¬ isBlank c = true := by simp [ht c rfl]
        exact ⟨List.takeWhile_cons_of_neg shown, List.dropWhile_cons_of_neg shown⟩
  simp [splitWord, List.takeWhile_append_of_pos inside, List.dropWhile_append_of_pos inside, blank,
    behind]

namespace Namespace

variable {r : Recognizer}

/-- The statement by which a grammar file declares the recognizer. -/
def statement (n : Namespace) (r : Recognizer) : List Char :=
  n.keyword.toList ++ ' ' :: r.render.toList

theorem newline_not_mem_statement (n : Namespace) (h : r.WellFormed) : '\n' ∉ n.statement r := by
  have keyword : '\n' ∉ n.keyword.toList := by cases n <;> decide
  simp [statement, keyword, r.newline_not_mem_render h]

theorem lineContent_statement (n : Namespace) (r : Recognizer) :
    lineContent (n.statement r ++ ['\n']) = n.statement r := by
  have closed : ∃ front, n.statement r = front ++ [';'] := by
    refine ⟨n.keyword.toList ++ ' ' :: (r.name ++ " = " ++ r.body).toList, ?_⟩
    simp only [statement, Recognizer.render, String.toList_append, List.append_assoc, List.cons_append]
    rfl
  obtain ⟨front, hf⟩ := closed
  rw [hf, lineContent]
  simp

/-- The line of a recognizer declares it, with the place behind the keyword as its own. -/
theorem ofLine_statement (n : Namespace) (h : r.WellFormed) (place : Place) :
    Statement.ofLine place (lineContent (n.statement r ++ ['\n'])) =
      .recognizer n (place.after (n.keyword.toList ++ [' '])) r.render.toList := by
  have letters : n.keyword.toList.all (!isBlank ·) = true := by cases n <;> decide
  have word : ∀ c ∈ n.keyword.toList, isBlank c = false := by simpa using letters
  have text : ∀ c ∈ r.render.toList.head?, isBlank c = false := by
    have name := h.name
    cases hn : r.name.toList with
    | nil =>
        rw [hn] at name
        cases name
    | cons c cs =>
        rw [hn] at name
        simp only [Recognizer.render, String.toList_append, hn, List.cons_append, List.head?_cons]
        rintro _ ⟨⟩
        exact not_isBlank_of_isNameStart name.1
  have split := splitWord_append word text
  have content : dropBlanks (n.statement r) = n.statement r := by cases n <;> rfl
  have front : (n.statement r).takeWhile isBlank = [] := by cases n <;> rfl
  rw [lineContent_statement, Statement.ofLine, content, front, Place.after_nil, if_neg]
  · rw [Statement.ofText, statement, split]
    cases n <;> rfl
  · cases n <;> exact Bool.false_ne_true

end Namespace

namespace Grammar

/-- The recognizers with their namespaces, in the order in which they are printed. -/
def entries (g : Grammar) : List (Namespace × Recognizer) :=
  Namespace.all.flatMap fun n => (g.table n).map (n, ·)

variable {g : Grammar}

theorem mem_entries {e : Namespace × Recognizer} : e ∈ g.entries ↔ e.2 ∈ g.table e.1 := by
  obtain ⟨n, r⟩ := e
  simp only [entries, List.mem_flatMap, List.mem_map, Prod.mk.injEq]
  constructor
  · rintro ⟨_, -, _, member, rfl, rfl⟩
    exact member
  · intro member
    exact ⟨n, by cases n <;> decide, r, member, rfl, rfl⟩

theorem toList_render (g : Grammar) :
    g.render.toList = g.entries.flatMap fun e => e.1.statement e.2 ++ ['\n'] := by
  simp [render, entries, Namespace.statement, List.flatMap_assoc, List.flatMap_map]

/-- Every printed recognizer is a line of its own. -/
theorem splitLines_render (h : ∀ e ∈ g.entries, e.2.WellFormed) :
    splitLines g.render.toList = g.entries.map fun e => e.1.statement e.2 ++ ['\n'] := by
  rw [toList_render]
  generalize g.entries = es at h
  induction es with
  | nil => rfl
  | cons e rest ih =>
      obtain ⟨own, others⟩ := List.forall_mem_cons.mp h
      rw [List.flatMap_cons, List.append_assoc, List.singleton_append,
        splitLines_append (e.1.newline_not_mem_statement own), ih others]
      rfl

end Grammar

end TokenGrammar
