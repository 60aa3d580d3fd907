import TokenGrammar.Proofs.Notation.Rules

/-!
# Words of a text

What a text says, apart from the blanks and comments in it: its pieces in order, or nothing at all if
some of its characters form no token. A token that is written in front of a text is the first word of
the whole, provided that the text does not go on with a character that the token could take.
-/
namespace TokenGrammar

namespace Quoted

/-- Characters that quoting leaves as they are, but for a backslash in front of quote and backslash. -/
def Plain (text : List Char) : Prop := ∀ c ∈ text, escape '"' c = [c] ∨ c = '"' ∨ c = '\\'

instance (text : List Char) : Decidable (Plain text) :=
  List.decidableBAll _ text

theorem escape_of_escaped {c : Char} (h : c = '"' ∨ c = '\\') : escape '"' c = ['\\', c] := by
  rcases h with rfl | rfl <;> decide

/-- Any other character is written by a backslash with a letter behind it. -/
theorem escape_of_not_plain {c : Char} (hp : escape '"' c ≠ [c]) (hc : ¬ (c = '"' ∨ c = '\\')) :
    ∃ d more, escape '"' c = '\\' :: d :: more ∧ ¬ (d = '"' ∨ d = '\\') := by
  by_cases control : c = '\x00' ∨ c = '\t' ∨ c = '\r' ∨ c = '\n'
  · rcases control with rfl | rfl | rfl | rfl
    · exact ⟨'0', [], rfl, by decide⟩
    · exact ⟨'t', [], rfl, by decide⟩
    · exact ⟨'r', [], rfl, by decide⟩
    · exact ⟨'n', [], rfl, by decide⟩
  · simp only [not_or] at control
    have shown : ¬ (c = '\\' ∨ c = '"') := fun h => hc h.symm
    simp only [escape, control, if_false, if_neg shown] at hp ⊢
    split at hp
    · exact absurd rfl hp
    · next hidden =>
        rw [if_neg hidden]
        exact ⟨'u', _, rfl, by decide⟩

theorem flatMap_escape_of_plain {text : List Char} (h : Plain text) :
    text.flatMap (escape '"') = Notation.Literal.escape text := by
  induction text with
  | nil => rfl
  | cons c text ih =>
      obtain ⟨first, rest⟩ := List.forall_mem_cons.mp h
      rw [List.flatMap_cons, ih rest, Notation.Literal.escape]
      by_cases hc : c = '"' ∨ c = '\\'
      · rw [if_pos hc, escape_of_escaped hc]
        rfl
      · rw [if_neg hc, first.resolve_right hc]
        rfl

end Quoted

namespace Notation

/-- The pieces that matter, if all of them are tokens. -/
def meaningful : List Piece → Option (List Piece)
  | [] => some []
  | p :: rest =>
    if p.kind = .unexpectedFragment then none
    else if p.kind.isTrivia then meaningful rest
    else (meaningful rest).map (p :: ·)

def words (text : List Char) : Option (List Piece) := meaningful (pieces text)

@[simp] theorem words_nil : words [] = some [] := by simp [words, pieces, meaningful]

theorem words_cons (c : Char) (cs : List Char) :
    words (c :: cs) =
      if (extent c cs).1 = .unexpectedFragment then none
      else if (extent c cs).1.isTrivia then words (cs.drop (extent c cs).2)
      else (words (cs.drop (extent c cs).2)).map
        (⟨(extent c cs).1, c :: cs.take (extent c cs).2⟩ :: ·) := by
  rw [words, pieces, meaningful]
  rfl

theorem words_of_extent {c : Char} {cs rest : List Char} {kind : Kind}
    (h : extent c (cs ++ rest) = (kind, cs.length)) (token : kind ≠ .unexpectedFragment)
    (kept : kind.isTrivia = false) :
    words (c :: (cs ++ rest)) = (words rest).map (⟨kind, c :: cs⟩ :: ·) := by
  rw [words_cons, h]
  simp only [token, if_false, kept, Bool.false_eq_true, List.drop_left, List.take_left]

theorem words_of_unexpected {c : Char} {cs : List Char}
    (h : (extent c cs).1 = .unexpectedFragment) : words (c :: cs) = none := by
  rw [words_cons, if_pos h]

theorem words_spacing {c : Char} (h : isSpacing c = true) (cs : List Char) :
    words (c :: cs) = words (cs.drop (spanLength isSpacing cs)) := by
  rw [words_cons, extent_spacing h]
  rfl

theorem words_drop_spacing (text : List Char) :
    words (text.drop (spanLength isSpacing text)) = words text := by
  cases text with
  | nil => rfl
  | cons c cs =>
      by_cases h : isSpacing c = true
      · rw [words_spacing h, spanLength, List.takeWhile_cons_of_pos h]
        rfl
      · rw [spanLength, List.takeWhile_cons_of_neg h]
        rfl

theorem words_space (rest : List Char) : words (' ' :: rest) = words rest := by
  rw [words_spacing (by decide), words_drop_spacing]

theorem words_punctuation {c : Char} {kind : Kind} (h : (c, kind) ∈ punctuation) (rest : List Char) :
    words (c :: rest) = (words rest).map (⟨kind, [c]⟩ :: ·) := by
  have kept : ∀ mark ∈ punctuation, mark.2.isTrivia = false := by decide
  have token := (Spells.punctuation h).kind_ne
  exact @words_of_extent c [] rest kind (extent_punctuation h rest) token (kept _ h)

theorem words_token {kind : Kind} {word rest : List Char} (h : Spells kind word)
    (alternator : word = ['o', 'r'] → kind = .alternator) (kept : kind.isTrivia = false) (he : Ends rest) :
    words (word ++ rest) = (words rest).map (⟨kind, word⟩ :: ·) := by
  cases word with
  | nil => exact absurd rfl h.ne_nil
  | cons c cs => exact words_of_extent (h.extent_append alternator kept he) h.kind_ne kept

theorem words_literal (text rest : List Char) :
    words (Literal.encode text ++ rest) = (words rest).map (⟨.literal, Literal.encode text⟩ :: ·) :=
  words_of_extent ((LiteralBody.escape text).extent_append rest) nofun rfl

theorem literalLength_of_not_plain {text : List Char} (h : ¬ Quoted.Plain text) (rest : List Char) :
    (literalLength (text.flatMap (Quoted.escape '"') ++ rest)).2 = false := by
  induction text with
  | nil => exact absurd (List.forall_mem_nil _) h
  | cons c text ih =>
      rw [List.flatMap_cons, List.append_assoc]
      by_cases hc : c = '"' ∨ c = '\\'
      · have later : ¬ Quoted.Plain text := fun plain => h (List.forall_mem_cons.mpr ⟨.inr hc, plain⟩)
        rw [Quoted.escape_of_escaped hc, List.cons_append, List.cons_append, List.nil_append,
          literalLength_escaped hc]
        exact ih later
      · by_cases hp : Quoted.escape '"' c = [c]
        · have later : ¬ Quoted.Plain text :=
            fun plain => h (List.forall_mem_cons.mpr ⟨.inl hp, plain⟩)
          rw [hp, List.singleton_append, literalLength_cons hc]
          exact ih later
        · -- Here the literal is given up, whatever the characters behind are.
          obtain ⟨d, more, he, hd⟩ := Quoted.escape_of_not_plain hp hc
          rw [he, List.cons_append, List.cons_append, literalLength, if_neg hd]

/-- A quoted text is a literal exactly if quoting only escapes what the notation can read. -/
theorem words_quoted (text rest : List Char) :
    words (Quoted.encode '"' text ++ rest) =
      if Quoted.Plain text then (words rest).map (⟨.literal, Literal.encode text⟩ :: ·) else none := by
  split
  · next plain =>
      rw [Quoted.encode, Quoted.flatMap_escape_of_plain plain]
      exact words_literal text rest
  · next bad =>
      rw [Quoted.encode, List.cons_append, List.append_assoc]
      refine words_of_unexpected ?_
      rw [extent_quote, literalLength_of_not_plain bad]
      rfl

end Notation

end TokenGrammar
