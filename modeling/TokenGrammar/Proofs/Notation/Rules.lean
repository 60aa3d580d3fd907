import TokenGrammar.Notation.Scan

/-!
# Rules of the notation

What a token of each kind, a blank or a comment is written as, whatever the text around it. A text is read by
the longest word that a rule allows where it starts. Main statement: the pieces that a text is cut into are
these words, and where a piece is unexpected no rule allows any word.
-/
namespace TokenGrammar.Notation

def IsName : List Char → Prop
  | [] => False
  | c :: cs => isNameStart c = true ∧ ∀ d ∈ cs, isNameChar d = true

/-- What stands between the quotes of a literal. -/
inductive LiteralBody : List Char → Prop
  | nil : LiteralBody []
  | plain {c : Char} {body : List Char} :
      ¬ (c = '"' ∨ c = '\\') → LiteralBody body → LiteralBody (c :: body)
  | escaped {c : Char} {body : List Char} :
      c = '"' ∨ c = '\\' → LiteralBody body → LiteralBody ('\\' :: c :: body)

/-- The tokens of one character. -/
def punctuation : List (Char × Kind) :=
  [('=', .assignment), (';', .terminator), ('(', .groupOpen), (')', .groupClose), ('|', .alternator),
    ('?', .optional), ('*', .zeroOrMore), ('+', .oneOrMore)]

/-- What stands in front of the name in a reference. -/
def sigils : List (Char × Kind) :=
  [('.', .classRef), ('@', .subruleRef), ('#', .definitionRef), ('~', .ignorationRef)]

/-- The word is one that a rule of the notation allows for the kind. -/
inductive Spells : Kind → List Char → Prop
  | punctuation {c : Char} {kind : Kind} : (c, kind) ∈ punctuation → Spells kind [c]
  | or : Spells .alternator ['o', 'r']
  | literal {body : List Char} : LiteralBody body → Spells .literal ('"' :: (body ++ ['"']))
  | reference {sigil : Char} {kind : Kind} {name : List Char} :
      (sigil, kind) ∈ sigils → IsName name → Spells kind (sigil :: name)
  | name {name : List Char} : IsName name → Spells .name name
  | whitespace {blanks : List Char} :
      blanks ≠ [] → (∀ c ∈ blanks, isSpacing c = true) → Spells .whitespace blanks
  | lineComment {comment : List Char} : '\n' ∉ comment → Spells .lineComment ('/' :: '/' :: comment)

/-- The word is what is read in front of the text `behind`: no rule allows a longer one there. Of the two kinds
that `or` could have, it is an alternator. -/
structure Longest (kind : Kind) (word behind : List Char) : Prop where
  spells : Spells kind word
  most {kind' : Kind} {word' : List Char} :
    Spells kind' word' → word' <+: word ++ behind → word'.length ≤ word.length
  or : word = ['o', 'r'] → kind = .alternator

/-- No rule allows a word where the text starts. -/
def Unmatched (text : List Char) : Prop := ∀ kind word, Spells kind word → ¬ word <+: text

theorem Spells.kind_ne {kind : Kind} {word : List Char} (h : Spells kind word) :
    kind ≠ .unexpectedFragment := by
  have marks : ∀ mark ∈ Notation.punctuation ++ sigils, mark.2 ≠ .unexpectedFragment := by decide
  cases h with
  | punctuation h => exact marks _ (List.mem_append_left sigils h)
  | reference h _ => exact marks _ (List.mem_append_right Notation.punctuation h)
  | or | literal | name | whitespace | lineComment => exact nofun

theorem Spells.ne_nil {kind : Kind} {word : List Char} (h : Spells kind word) : word ≠ [] := by
  cases h with
  | name h =>
      rintro rfl
      cases h
  | whitespace some _ => exact some
  | punctuation | or | literal | reference | lineComment => exact List.cons_ne_nil _ _

theorem take_spanLength (p : Char → Bool) (text : List Char) :
    text.take (spanLength p text) = text.takeWhile p :=
  (List.prefix_iff_eq_take.mp (List.takeWhile_prefix p)).symm

theorem length_le_spanLength {p : Char → Bool} {word : List Char} (h : ∀ c ∈ word, p c = true)
    (rest : List Char) : word.length ≤ spanLength p (word ++ rest) := by
  rw [spanLength, List.takeWhile_append_of_pos h, List.length_append]
  exact Nat.le_add_right _ _

theorem spanLength_append {p : Char → Bool} {word rest : List Char} (hw : ∀ c ∈ word, p c = true)
    (hr : ∀ c ∈ rest.head?, p c = false) : spanLength p (word ++ rest) = word.length := by
  have stops : rest.takeWhile p = [] := by
    cases rest with
    | nil => rfl
    | cons c cs => exact List.takeWhile_cons_of_neg (by simp [hr c rfl])
  rw [spanLength, List.takeWhile_append_of_pos hw, stops, List.append_nil]

theorem nameChar_r : ∀ c ∈ ['r'], isNameChar c = true := by
  rintro _ (_ | ⟨_, ⟨⟩⟩)
  decide

/-- A name that ends where the text starts does not go on into it. -/
def Ends (rest : List Char) : Prop := ∀ c ∈ rest.head?, isNameChar c = false

theorem ends_nil : Ends [] := nofun

theorem ends_cons {c : Char} (h : isNameChar c = false) (rest : List Char) : Ends (c :: rest) := by
  rintro _ ⟨⟩
  exact h

theorem literalLength_cons {c : Char} (h : ¬ (c = '"' ∨ c = '\\')) (cs : List Char) :
    literalLength (c :: cs) = ((literalLength cs).1 + 1, (literalLength cs).2) := by
  rw [not_or] at h
  rw [literalLength] <;> simp [h]

theorem literalLength_escaped {c : Char} (h : c = '"' ∨ c = '\\') (cs : List Char) :
    literalLength ('\\' :: c :: cs) = ((literalLength cs).1 + 2, (literalLength cs).2) := by
  rw [literalLength, if_pos h]

namespace LiteralBody

variable {body : List Char}

theorem literalLength_append (h : LiteralBody body) (rest : List Char) :
    literalLength (body ++ '"' :: rest) = (body.length + 1, true) := by
  induction h with
  | nil => rfl
  | plain hc _ ih =>
      rw [List.cons_append, literalLength_cons hc, ih]
      rfl
  | escaped hc _ ih =>
      rw [List.cons_append, List.cons_append, literalLength_escaped hc, ih]
      rfl

theorem exists_of_closed {cs : List Char} (h : (literalLength cs).2 = true) :
    ∃ body rest, LiteralBody body ∧ cs = body ++ '"' :: rest := by
  induction cs using literalLength.induct with
  | case1 => cases h
  | case2 cs => exact ⟨[], cs, .nil, rfl⟩
  | case3 => cases h
  | case4 c cs escaped n closed _ ih =>
      rw [literalLength_escaped escaped] at h
      obtain ⟨body, rest, hb, rfl⟩ := ih h
      exact ⟨'\\' :: c :: body, rest, .escaped escaped hb, rfl⟩
  | case5 c cs other =>
      rw [literalLength, if_neg other] at h
      cases h
  | case6 c cs quote last escape n closed _ ih =>
      have other : ¬ (c = '"' ∨ c = '\\') := by
        rintro (rfl | rfl)
        · exact quote rfl
        · cases cs with
          | nil => exact last rfl rfl
          | cons d ds => exact escape d ds rfl rfl
      rw [literalLength_cons other] at h
      obtain ⟨body, rest, hb, rfl⟩ := ih h
      exact ⟨c :: body, rest, .plain other hb, rfl⟩

theorem escape (text : List Char) : LiteralBody (Literal.escape text) := by
  induction text with
  | nil => exact .nil
  | cons c text ih =>
      rw [Literal.escape]
      split
      · next hc => exact .escaped hc ih
      · next hc => exact .plain hc ih

/-- Escapes are read and written in one way. -/
theorem escape_unescape (h : LiteralBody body) : Literal.escape (Literal.unescape body) = body := by
  induction h with
  | nil => rfl
  | @plain c body hc _ ih =>
      rw [Literal.unescape, Literal.escape, if_neg hc, ih]
      exact fun _ _ backslash => absurd (.inr backslash) hc
  | escaped hc _ ih => rw [Literal.unescape, Literal.escape, if_pos hc, ih]

end LiteralBody

theorem extent_nameStart {c : Char} (h : isNameStart c = true) (cs : List Char) :
    extent c cs =
      (if c = 'o' ∧ cs.take (spanLength isNameChar cs) = ['r'] then .alternator else .name,
        spanLength isNameChar cs) := by
  unfold extent
  rw [if_pos h]
  exact (apply_ite (·, spanLength isNameChar cs) _ _ _).symm

theorem extent_spacing {c : Char} (h : isSpacing c = true) (cs : List Char) :
    extent c cs = (.whitespace, spanLength isSpacing cs) := by
  have other : isNameStart c = false := by
    simp only [isSpacing, Bool.or_eq_true, decide_eq_true_eq] at h
    rcases h with (((rfl | rfl) | rfl) | rfl) | rfl <;> decide
  simp only [extent, other, Bool.false_eq_true, if_false, h, if_true]

theorem extent_punctuation {c : Char} {kind : Kind} (h : (c, kind) ∈ punctuation) (cs : List Char) :
    extent c cs = (kind, 0) := by
  simp only [punctuation, List.mem_cons, Prod.mk.injEq, List.not_mem_nil, or_false] at h
  rcases h with h | h | h | h | h | h | h | h <;> obtain ⟨rfl, rfl⟩ := h <;> rfl

theorem extent_sigil {c : Char} {kind : Kind} (h : (c, kind) ∈ sigils) (cs : List Char) :
    extent c cs = referenceLength kind cs := by
  simp only [sigils, List.mem_cons, Prod.mk.injEq, List.not_mem_nil, or_false] at h
  rcases h with h | h | h | h <;> obtain ⟨rfl, rfl⟩ := h <;> rfl

theorem extent_quote (cs : List Char) :
    extent '"' cs =
      (if (literalLength cs).2 then .literal else .unexpectedFragment, (literalLength cs).1) := rfl

theorem LiteralBody.extent_append {body : List Char} (h : LiteralBody body) (rest : List Char) :
    extent '"' (body ++ ['"'] ++ rest) = (.literal, (body ++ ['"']).length) := by
  rw [List.append_assoc, List.singleton_append, extent_quote, h.literalLength_append, List.length_append]
  rfl

theorem extent_slashes (cs : List Char) :
    extent '/' ('/' :: cs) = (.lineComment, spanLength (· ≠ '\n') cs + 1) := rfl

/-- No word is longer than the piece that is cut off. -/
theorem Spells.le_extent {kind : Kind} {c : Char} {cs : List Char} (h : Spells kind (c :: cs))
    (rest : List Char) :
    (extent c (cs ++ rest)).1 ≠ .unexpectedFragment ∧ cs.length ≤ (extent c (cs ++ rest)).2 := by
  have token := h.kind_ne
  cases h with
  | punctuation h =>
      rw [extent_punctuation h]
      exact ⟨token, Nat.zero_le _⟩
  | or =>
      have reach : ['r'].length ≤ spanLength isNameChar (['r'] ++ rest) := length_le_spanLength nameChar_r rest
      rw [extent_nameStart rfl]
      refine ⟨?_, reach⟩
      split <;> exact nofun
  | literal h =>
      rw [h.extent_append]
      exact ⟨nofun, Nat.le_refl _⟩
  | reference h hn =>
      cases cs with
      | nil => cases hn
      | cons d ds =>
          have reach := length_le_spanLength hn.2 rest
          rw [extent_sigil h, List.cons_append, referenceLength, if_pos hn.1]
          exact ⟨token, Nat.succ_le_succ reach⟩
  | name h =>
      rw [extent_nameStart h.1]
      refine ⟨?_, length_le_spanLength h.2 rest⟩
      split <;> exact nofun
  | whitespace _ h =>
      obtain ⟨first, others⟩ := List.forall_mem_cons.mp h
      rw [extent_spacing first]
      exact ⟨nofun, length_le_spanLength others rest⟩
  | @lineComment comment h =>
      have inside : ∀ c ∈ comment, decide (c ≠ '\n') = true := fun c member =>
        decide_eq_true fun newline => h (newline ▸ member)
      rw [List.cons_append, extent_slashes]
      exact ⟨nofun, Nat.succ_le_succ (length_le_spanLength inside rest)⟩

/-- A token that does not go on into what stands behind it is the piece that is cut off. -/
theorem Spells.extent_append {kind : Kind} {c : Char} {cs rest : List Char} (h : Spells kind (c :: cs))
    (alternator : c :: cs = ['o', 'r'] → kind = .alternator) (kept : kind.isTrivia = false)
    (ends : Ends rest) : extent c (cs ++ rest) = (kind, cs.length) := by
  cases h with
  | punctuation h => exact extent_punctuation h rest
  | or =>
      have reach : spanLength isNameChar (['r'] ++ rest) = 1 := spanLength_append nameChar_r ends
      rw [extent_nameStart rfl, reach]
      rfl
  | literal h => exact h.extent_append rest
  | reference h hn =>
      cases cs with
      | nil => cases hn
      | cons d ds =>
          rw [extent_sigil h, List.cons_append, referenceLength, if_pos hn.1, spanLength_append hn.2 ends]
          rfl
  | name h =>
      have other : ¬ (c = 'o' ∧ (cs ++ rest).take cs.length = ['r']) := by
        rw [List.take_left]
        rintro ⟨rfl, rfl⟩
        cases alternator rfl
      rw [extent_nameStart h.1, spanLength_append h.2 ends, if_neg other]
  | whitespace | lineComment => cases kept

theorem isName_cons_takeWhile {c : Char} (h : isNameStart c = true) (cs : List Char) :
    IsName (c :: cs.takeWhile isNameChar) :=
  ⟨h, List.all_eq_true.mp List.all_takeWhile⟩

theorem spells_referenceLength {sigil : Char} {kind : Kind} (hs : (sigil, kind) ∈ sigils) (cs : List Char) :
    (referenceLength kind cs).1 = .unexpectedFragment ∨
      Spells (referenceLength kind cs).1 (sigil :: cs.take (referenceLength kind cs).2) := by
  cases cs with
  | nil => exact .inl rfl
  | cons d ds =>
      rw [referenceLength]
      split
      · next start =>
          rw [List.take_succ_cons, take_spanLength]
          exact .inr (.reference hs (isName_cons_takeWhile start ds))
      · exact .inl rfl

theorem spells_literalLength (cs : List Char) :
    (extent '"' cs).1 = .unexpectedFragment ∨ Spells (extent '"' cs).1 ('"' :: cs.take (extent '"' cs).2) := by
  rw [extent_quote]
  split
  · next closed =>
      obtain ⟨body, rest, hb, rfl⟩ := LiteralBody.exists_of_closed closed
      have whole := hb.extent_append rest
      rw [extent_quote] at whole
      rw [List.append_cons, congrArg Prod.snd whole, List.take_left]
      exact .inr (.literal hb)
  · exact .inl rfl

/-- What is cut off is a word, unless it is unexpected. -/
theorem spells_extent (c : Char) (cs : List Char) :
    (extent c cs).1 = .unexpectedFragment ∨
      Spells (extent c cs).1 (c :: cs.take (extent c cs).2) := by
  by_cases start : isNameStart c = true
  · rw [extent_nameStart start, take_spanLength]
    split
    · next alternator =>
        obtain ⟨rfl, rest⟩ := alternator
        rw [rest]
        exact .inr .or
    · exact .inr (.name (isName_cons_takeWhile start cs))
  by_cases blank : isSpacing c = true
  · rw [extent_spacing blank, take_spanLength]
    refine .inr (.whitespace (List.cons_ne_nil c _) ?_)
    exact List.forall_mem_cons.mpr ⟨blank, List.all_eq_true.mp List.all_takeWhile⟩
  unfold extent
  rw [if_neg start, if_neg blank]
  split
  case h_9 | h_10 | h_11 | h_12 => exact spells_referenceLength (by decide) cs
  case h_13 => exact spells_literalLength cs
  case h_14 =>
    split
    · next rest =>
        rw [List.take_succ_cons, take_spanLength]
        have inside := List.all_eq_true.mp (List.all_takeWhile (p := fun c => decide (c ≠ '\n')) (l := rest))
        exact .inr (.lineComment fun newline => absurd (inside _ newline) (by decide))
    · exact .inl rfl
  case h_15 => exact .inl rfl
  all_goals exact .inr (.punctuation (by decide))

theorem longest_extent {c : Char} {cs : List Char} (h : (extent c cs).1 ≠ .unexpectedFragment) :
    Longest (extent c cs).1 (c :: cs.take (extent c cs).2) (cs.drop (extent c cs).2) where
  spells := (spells_extent c cs).resolve_left h
  most := by
    intro kind word hw sub
    rw [List.cons_append, List.take_append_drop] at sub
    obtain ⟨rest, whole⟩ := sub
    cases word with
    | nil => exact Nat.zero_le _
    | cons d ds =>
        rw [List.cons_append] at whole
        obtain ⟨rfl, rfl⟩ := List.cons.inj whole
        have reach := (hw.le_extent rest).2
        simp only [List.length_cons, List.length_take, List.length_append]
        omega
  or := by
    intro alternator
    obtain ⟨rfl, rest⟩ := List.cons.inj alternator
    rw [extent_nameStart rfl] at rest ⊢
    exact if_pos ⟨rfl, rest⟩

theorem unmatched_of_extent {c : Char} {cs : List Char} (h : (extent c cs).1 = .unexpectedFragment) :
    Unmatched (c :: cs) := by
  rintro kind word hw ⟨rest, whole⟩
  cases word with
  | nil => exact hw.ne_nil rfl
  | cons d ds =>
      rw [List.cons_append] at whole
      obtain ⟨rfl, rfl⟩ := List.cons.inj whole
      exact (hw.le_extent rest).1 h

end TokenGrammar.Notation
