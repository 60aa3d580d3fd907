import TokenGrammar.Proofs.Notation.Words
import TokenGrammar.Proofs.Recognizer.Depth

/-!
# How recognizers are spelled

Recognizers are shown in the notation in which they are declared. Here are the words of what is shown:
a symbol whose names are names reads as its own spelling, unless it holds a literal that quoting writes
with an escape that the notation does not know. Then no text around it can be read at all.
-/
namespace TokenGrammar

open Notation

mutual

/-- The texts of the literals of a symbol, at any depth. -/
def Symbol.literals : Symbol → List String
  | .literal text => [text]
  | .group alternatives => literalsOfAlternatives alternatives
  | .tokens .. | .subrule _ | .definition _ | .stray _ => []

def literalsOfAlternatives : List (List Symbol) → List String
  | [] => []
  | symbols :: rest => literalsOfSymbols symbols ++ literalsOfAlternatives rest

def literalsOfSymbols : List Symbol → List String
  | [] => []
  | symbol :: rest => symbol.literals ++ literalsOfSymbols rest

end

/-- Every one of the texts is quoted as the notation writes literals. -/
def AllPlain (texts : List String) : Prop := ∀ text ∈ texts, Quoted.Plain text.toList

instance (texts : List String) : Decidable (AllPlain texts) :=
  List.decidableBAll _ texts

theorem allPlain_nil : AllPlain [] := nofun

theorem allPlain_singleton {text : String} : AllPlain [text] ↔ Quoted.Plain text.toList :=
  List.forall_mem_singleton

theorem allPlain_append {texts others : List String} :
    AllPlain (texts ++ others) ↔ AllPlain texts ∧ AllPlain others :=
  List.forall_mem_append

namespace Recognizer

def literals (r : Recognizer) : List String := literalsOfAlternatives r.alternatives

/-- The literals of the recognizer hold only characters that quoting shows as they are, quotes and
backslashes. -/
def Plain (r : Recognizer) : Prop := AllPlain r.literals

instance (r : Recognizer) : Decidable r.Plain := inferInstanceAs (Decidable (AllPlain _))

end Recognizer

def Quantifier.spell : Quantifier → List Piece
  | one => []
  | optional => [⟨.optional, ['?']⟩]
  | zeroOrMore => [⟨.zeroOrMore, ['*']⟩]
  | oneOrMore => [⟨.oneOrMore, ['+']⟩]

/-- The word of a class reference, with a dot if it is explicit. -/
def classWord (kind : String) : Bool → Piece
  | true => ⟨.classRef, '.' :: kind.toList⟩
  | false => ⟨.name, kind.toList⟩

/-- The word between two alternatives. -/
def bar : Piece := ⟨.alternator, ['|']⟩

mutual

/-- The words that a symbol is written with. -/
def Symbol.spell : Symbol → List Piece
  | .literal text => [⟨.literal, Literal.encode text.toList⟩]
  | .tokens kind quantifier explicit => classWord kind explicit :: quantifier.spell
  | .subrule name => [⟨.subruleRef, '@' :: name.toList⟩]
  | .definition name => [⟨.definitionRef, '#' :: name.toList⟩]
  | .group alternatives =>
    ⟨.groupOpen, ['(']⟩ :: ([bar].intercalate (spellAlternatives alternatives) ++
      [⟨.groupClose, [')']⟩])
  | .stray t => [⟨t.kind, t.text.toList⟩]

def spellAlternatives : List (List Symbol) → List (List Piece)
  | [] => []
  | symbols :: rest => spellSymbols symbols :: spellAlternatives rest

def spellSymbols : List Symbol → List Piece
  | [] => []
  | symbol :: rest => symbol.spell ++ spellSymbols rest

end

/-- What can be written down: names are names, and a group is not the empty one. -/
def Symbol.WellSpelled : Symbol → Prop
  | .literal _ => True
  | .tokens kind _ explicit => IsName kind.toList ∧ (explicit = false → kind.toList ≠ ['o', 'r'])
  | .subrule name | .definition name => IsName name.toList
  | .group alternatives => alternatives ≠ [] ∧ alternatives ≠ [[]]
  | .stray _ => False

/-- Every symbol at any depth can be written down. -/
def Legible (alternatives : List Alternative) : Prop :=
  ∀ symbol, Occurs symbol alternatives → symbol.WellSpelled

namespace Legible

variable {alternatives inner : List Alternative} {symbols whole : Alternative}

theorem part (h : Legible alternatives) (hw : whole ∈ alternatives) (sub : symbols ⊆ whole) :
    Legible [symbols] :=
  fun symbol ho => h symbol (ho.of_part hw sub)

theorem head (h : Legible (symbols :: alternatives)) : Legible [symbols] :=
  h.part List.mem_cons_self (List.Subset.refl symbols)

theorem tail (h : Legible (symbols :: alternatives)) : Legible alternatives :=
  fun symbol ho => h symbol (ho.mono fun other member _ hs =>
    ⟨other, List.mem_cons_of_mem symbols member, hs⟩)

theorem of_group (h : Legible [symbols]) (hg : .group inner ∈ symbols) : Legible inner :=
  fun symbol ho => h symbol (ho.of_group List.mem_cons_self hg)

theorem first {s : Symbol} (h : Legible [s :: symbols]) : Legible [[s]] :=
  h.part List.mem_cons_self (List.cons_subset_cons s (List.nil_subset symbols))

theorem behind {s : Symbol} (h : Legible [s :: symbols]) : Legible [symbols] :=
  h.part List.mem_cons_self (List.subset_cons_self s symbols)

theorem symbol {s : Symbol} (h : Legible [symbols]) (hs : s ∈ symbols) : s.WellSpelled :=
  h s (.of_mem List.mem_cons_self hs)

end Legible

/-- Shown in front of a text, the characters are read as the words if the literals are plain, and as
nothing otherwise. -/
def Reads (shown : List Char) (texts : List String) (spelled : List Piece) : Prop :=
  ∀ rest, Ends rest →
    words (shown ++ rest) = if AllPlain texts then (words rest).map (spelled ++ ·) else none

namespace Reads

variable {shown others : List Char} {texts more : List String} {spelled later : List Piece}

theorem nil : Reads [] [] [] := fun _ _ => by simp [allPlain_nil]

theorem cons_space (h : Reads shown texts spelled) : Reads (' ' :: shown) texts spelled := by
  intro rest he
  rw [List.cons_append, words_space]
  exact h rest he

theorem cons_mark {c : Char} {kind : Kind} (hm : (c, kind) ∈ punctuation) (h : Reads shown texts spelled) :
    Reads (c :: shown) texts (⟨kind, [c]⟩ :: spelled) := by
  intro rest he
  rw [List.cons_append, words_punctuation hm, h rest he]
  split
  · rw [Option.map_map]
    rfl
  · rfl

/-- What follows has to start with a character that is not of a name. -/
theorem append {c : Char} (hc : isNameChar c = false) (h : Reads shown texts spelled)
    (ho : Reads (c :: others) more later) :
    Reads (shown ++ c :: others) (texts ++ more) (spelled ++ later) := by
  intro rest he
  rw [List.append_assoc, List.cons_append, h _ (ends_cons hc _), ← List.cons_append, ho rest he]
  by_cases plain : AllPlain texts <;> by_cases plain' : AllPlain more <;>
    simp [allPlain_append, plain, plain', Option.map_map, Function.comp_def, List.append_assoc]

theorem quoted (text : String) :
    Reads (quoted text).toList [text] [⟨.literal, Literal.encode text.toList⟩] := by
  intro rest _
  simp only [TokenGrammar.quoted, String.toList_ofList, words_quoted, allPlain_singleton,
    List.singleton_append]

theorem reference {sigil : Char} {kind : Kind} (hs : (sigil, kind) ∈ sigils) {name : List Char}
    (hn : IsName name) : Reads (sigil :: name) [] [⟨kind, sigil :: name⟩] := by
  have known : ∀ sigil ∈ sigils, sigil.1 ≠ 'o' ∧ sigil.2.isTrivia = false := by decide
  intro rest he
  refine words_token (.reference hs hn) (fun same => ?_) (known _ hs).2 he
  exact absurd (List.cons.inj same).1 (known _ hs).1

theorem name {name : List Char} (hn : IsName name) (ho : name ≠ ['o', 'r']) :
    Reads name [] [⟨.name, name⟩] :=
  fun _ he => words_token (.name hn) (fun same => absurd same ho) rfl he

theorem suffix (h : Reads shown [] spelled) (quantifier : Quantifier) :
    Reads (shown ++ quantifier.suffix.toList) [] (spelled ++ quantifier.spell) := by
  cases quantifier with
  | one =>
      rw [Quantifier.spell, List.append_nil]
      exact (List.append_nil shown).symm ▸ h
  | optional => exact h.append (by decide) (nil.cons_mark (by decide))
  | zeroOrMore => exact h.append (by decide) (nil.cons_mark (by decide))
  | oneOrMore => exact h.append (by decide) (nil.cons_mark (by decide))

end Reads

theorem toList_renderAlternatives (symbols next : List Symbol) (others : List (List Symbol)) :
    (" | ".intercalate (renderAlternatives (symbols :: next :: others))).toList =
      (" ".intercalate (renderSymbols symbols)).toList ++
        ' ' :: '|' :: ' ' :: (" | ".intercalate (renderAlternatives (next :: others))).toList := by
  simp [renderAlternatives]

theorem toList_renderSymbols (symbol next : Symbol) (others : List Symbol) :
    (" ".intercalate (renderSymbols (symbol :: next :: others))).toList =
      symbol.render.toList ++ ' ' :: (" ".intercalate (renderSymbols (next :: others))).toList := by
  simp [renderSymbols]

mutual

theorem Symbol.reads_render (s : Symbol) (h : Legible [[s]]) :
    Reads s.render.toList s.literals s.spell := by
  have spelled : s.WellSpelled := h.symbol List.mem_cons_self
  match s with
  | .literal text => exact .quoted text
  | .tokens kind quantifier true =>
      have dotted : Reads ('.' :: kind.toList) [] [⟨.classRef, '.' :: kind.toList⟩] :=
        .reference (by decide) spelled.1
      simp only [Symbol.render, if_true, String.toList_append]
      exact dotted.suffix quantifier
  | .tokens kind quantifier false =>
      have bare := Reads.name spelled.1 (spelled.2 rfl)
      simp only [Symbol.render, Bool.false_eq_true, if_false, String.toList_append]
      exact bare.suffix quantifier
  | .subrule name =>
      rw [Symbol.render, String.toList_append]
      exact .reference (by decide) spelled
  | .definition name =>
      rw [Symbol.render, String.toList_append]
      exact .reference (by decide) spelled
  | .group alternatives =>
      have inner := reads_renderAlternatives alternatives (h.of_group List.mem_cons_self)
      have closed : Reads [')'] [] [⟨.groupClose, [')']⟩] := Reads.nil.cons_mark (by decide)
      have whole := (inner.append (by decide) closed).cons_mark (show ('(', .groupOpen) ∈ punctuation by decide)
      rw [List.append_nil] at whole
      simp only [Symbol.render, String.toList_append, List.append_assoc]
      exact whole
  | .stray t => exact spelled.elim

theorem reads_renderAlternatives (alternatives : List (List Symbol)) (h : Legible alternatives) :
    Reads (" | ".intercalate (renderAlternatives alternatives)).toList
      (literalsOfAlternatives alternatives) ([bar].intercalate (spellAlternatives alternatives)) := by
  match alternatives with
  | [] => exact .nil
  | [symbols] =>
      simp only [renderAlternatives, String.intercalate_singleton, literalsOfAlternatives,
        List.append_nil, spellAlternatives, List.intercalate_singleton]
      exact reads_renderSymbols symbols h
  | symbols :: next :: others =>
      have first := reads_renderSymbols symbols h.head
      have later := (reads_renderAlternatives (next :: others) h.tail).cons_space
      have barred := later.cons_mark (show ('|', .alternator) ∈ punctuation by decide)
      rw [toList_renderAlternatives]
      exact first.append (by decide) barred.cons_space

theorem reads_renderSymbols (symbols : List Symbol) (h : Legible [symbols]) :
    Reads (" ".intercalate (renderSymbols symbols)).toList (literalsOfSymbols symbols)
      (spellSymbols symbols) := by
  match symbols with
  | [] => exact .nil
  | [s] =>
      simp only [renderSymbols, String.intercalate_singleton, literalsOfSymbols, List.append_nil,
        spellSymbols]
      exact s.reads_render h
  | s :: next :: others =>
      have first := s.reads_render h.first
      have later := reads_renderSymbols (next :: others) h.behind
      rw [toList_renderSymbols]
      exact first.append (by decide) later.cons_space

end

namespace Recognizer

/-- The words of a declaration. -/
def spell (r : Recognizer) : List Piece :=
  ⟨.name, r.name.toList⟩ :: ⟨.assignment, ['=']⟩ ::
    ([bar].intercalate (spellAlternatives r.alternatives) ++ [⟨.terminator, [';']⟩])

theorem words_render {r : Recognizer} (hn : IsName r.name.toList) (ho : r.name.toList ≠ ['o', 'r'])
    (h : Legible r.alternatives) :
    words r.render.toList = if r.Plain then some r.spell else none := by
  have closing : Reads [';'] [] [⟨.terminator, [';']⟩] := Reads.nil.cons_mark (by decide)
  have body := ((reads_renderAlternatives r.alternatives h).append (by decide) closing).cons_space
  have assigned := (body.cons_mark (show ('=', .assignment) ∈ punctuation by decide)).cons_space
  have whole := (Reads.name hn ho).append (by decide) assigned [] ends_nil
  simp only [words_nil, List.append_nil, List.nil_append, Option.map_some] at whole
  simp only [render, Recognizer.body, String.toList_append, List.append_assoc]
  exact whole

end Recognizer

end TokenGrammar
