import TokenGrammar.Proofs.Notation.Coverage

/-!
# Reading again what was written

A token that is written by itself is read again as that token, and so is one with a space behind it. Main
statements: every text can be written as a literal, and every literal that is read is the only one for its
text; the tokens of a text are read again when they are written with single spaces in between.
-/
namespace TokenGrammar.Notation

theorem scan_nil (origin : Place) : scan origin [] = [] := by
  simp [scan, pieces, joinUnexpected, locate]

theorem scan_of_extent {c : Char} {cs rest : List Char} {kind : Kind}
    (h : extent c (cs ++ rest) = (kind, cs.length)) (token : kind ≠ .unexpectedFragment)
    (kept : kind.isTrivia = false) (origin : Place) :
    scan origin (c :: (cs ++ rest)) =
      ⟨kind, String.ofList (c :: cs), origin.covering (c :: cs)⟩ :: scan (origin.after (c :: cs)) rest := by
  rw [scan, pieces, h]
  dsimp only
  rw [List.take_left, List.drop_left, joinUnexpected_cons token, locate,
    List.filter_cons_of_pos (by simp [kept]), scan]

/-- A literal is read in front of any text. -/
theorem scan_encode_append (origin : Place) (text rest : List Char) :
    scan origin (Literal.encode text ++ rest) =
      ⟨.literal, String.ofList (Literal.encode text), origin.covering (Literal.encode text)⟩ ::
        scan (origin.after (Literal.encode text)) rest :=
  scan_of_extent ((LiteralBody.escape text).extent_append rest) nofun rfl origin

theorem Spells.exists_literalBody {word : List Char} (h : Spells .literal word) :
    ∃ body, LiteralBody body ∧ word = '"' :: (body ++ ['"']) := by
  have marks : ∀ mark ∈ Notation.punctuation ++ sigils, mark.2 ≠ .literal := by decide
  cases h with
  | punctuation h => exact absurd rfl (marks _ (List.mem_append_left sigils h))
  | reference h _ => exact absurd rfl (marks _ (List.mem_append_right Notation.punctuation h))
  | literal h => exact ⟨_, h, rfl⟩

/-- What a literal stands for is written in one way. -/
theorem Spells.encode_decode {word : List Char} (h : Spells .literal word) :
    Literal.encode (Literal.decode word) = word := by
  obtain ⟨body, hb, rfl⟩ := h.exists_literalBody
  have inside : Literal.unquote ('"' :: (body ++ ['"'])) = body := by simp [Literal.unquote]
  rw [Literal.decode, inside, Literal.encode, hb.escape_unescape]

/-- Every text can be written as a literal, which is read as one token and stands for the text. A literal that
is read, in whatever text, is written like this for what it stands for. -/
theorem literals_are_encodings :
    (∀ (origin : Place) (text : String), ∃ t, scan origin (Literal.encode text.toList) = [t] ∧
      t.kind = .literal ∧ t.text = String.ofList (Literal.encode text.toList) ∧
      t.location = origin.covering (Literal.encode text.toList) ∧ t.literalValue = text) ∧
    ∀ (origin : Place) (text : List Char), ∀ t ∈ scan origin text, t.kind = .literal →
      t.text = String.ofList (Literal.encode t.literalValue.toList) := by
  constructor
  · intro origin text
    have read := scan_encode_append origin text.toList []
    rw [List.append_nil, scan_nil] at read
    refine ⟨⟨.literal, String.ofList (Literal.encode text.toList),
      origin.covering (Literal.encode text.toList)⟩, read, rfl, rfl, rfl, ?_⟩
    rw [Token.literalValue, String.toList_ofList, Literal.decode_encode, String.ofList_toList]
  · intro origin text t member literal
    obtain ⟨_, behind, -, -, stands⟩ := standsBefore_of_mem_scan member
    have spells := (stands.longest (by rw [literal]; exact nofun)).spells
    rw [literal] at spells
    rw [Token.literalValue, String.toList_ofList, spells.encode_decode, String.ofList_toList]

/-- A literal with an escaped quote, two slashes and an escaped backslash, in front of a comment. -/
def commented : List Char := "x = \"\\\"//\\\\\" // \"y\"".toList

theorem literals_are_encodings_commented :
    (∃ t, scan .start (Literal.encode "//\n\"\\".toList) = [t] ∧ t.literalValue = "//\n\"\\") ∧
      ⟨.literal, "\"\\\"//\\\\\"", ⟨⟨4, 12⟩, ⟨1, 5⟩⟩⟩ ∈ scan .start commented ∧
      "\"\\\"//\\\\\"" = String.ofList (Literal.encode "\"//\\".toList) := by
  have member : ⟨.literal, "\"\\\"//\\\\\"", ⟨⟨4, 12⟩, ⟨1, 5⟩⟩⟩ ∈ scan .start commented := by decide +kernel
  obtain ⟨t, read, -, -, -, value⟩ := literals_are_encodings.1 .start "//\n\"\\"
  exact ⟨⟨t, read, value⟩, member, literals_are_encodings.2 .start commented _ member rfl⟩

/-- The texts of the tokens, with one space between each and the next. -/
def respaced (ts : List Token) : List Char := [' '].intercalate (ts.map (·.text.toList))

/-- Words with single spaces in between are read again, and nothing else. -/
theorem words_intercalate {ps : List Piece}
    (h : ∀ p ∈ ps, Spells p.kind p.text ∧ (p.text = ['o', 'r'] → p.kind = .alternator) ∧
      p.kind.isTrivia = false) :
    words ([' '].intercalate (ps.map (·.text))) = some ps := by
  induction ps with
  | nil => exact words_nil
  | cons p ps ih =>
      obtain ⟨⟨spells, alternator, kept⟩, rest⟩ := List.forall_mem_cons.mp h
      cases ps with
      | nil =>
          have alone := words_token spells alternator kept ends_nil
          rw [List.append_nil, words_nil] at alone
          rw [List.map_singleton, List.intercalate_singleton, alone]
          rfl
      | cons q ps =>
          have spaced : Ends (' ' :: [' '].intercalate ((q :: ps).map (·.text))) := ends_cons (by decide) _
          rw [List.map_cons, List.map_cons, List.intercalate_cons_cons, ← List.map_cons (f := Piece.text),
            List.append_assoc, List.singleton_append, words_token spells alternator kept spaced, words_space,
            ih rest]
          rfl

/-- Neither spaces in place of blanks and comments nor spaces between tokens that touch change a token. -/
theorem map_piece_respaced {origin : Place} {text : List Char}
    (h : ∀ t ∈ scan origin text, t.kind ≠ .unexpectedFragment) (origin' : Place) :
    (scan origin' (respaced (scan origin text))).map Token.piece = (scan origin text).map Token.piece := by
  have texts : (scan origin text).map (·.text.toList) = ((scan origin text).map Token.piece).map (·.text) := by
    rw [List.map_map]
    rfl
  rw [respaced, texts]
  refine map_piece_of_words (words_intercalate ?_) origin'
  rintro _ member
  obtain ⟨t, ht, rfl⟩ := List.mem_map.mp member
  obtain ⟨_, behind, -, -, stands⟩ := standsBefore_of_mem_scan ht
  have longest := stands.longest (h t ht)
  exact ⟨longest.spells, longest.or, stands.kept⟩

end TokenGrammar.Notation
