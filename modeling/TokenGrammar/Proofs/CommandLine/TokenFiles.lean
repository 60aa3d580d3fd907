import TokenGrammar.Proofs.CommandLine.Tracing
import TokenGrammar.Proofs.Json.TokenFile
import TokenGrammar.Proofs.Lexer.Tiling

/-!
# Token files in place of texts

The tokens of a text can be written to a file and parsed from there. They are read back unchanged if their
numbers fit into the words of a token file, as those of any text below four gigabytes do, so parsing the
file leaves what parsing the text leaves.
-/
namespace TokenGrammar

theorem Position.after_le (p : Position) (text : List Char) :
    (p.after text).line ≤ p.line + byteLength text ∧ (p.after text).column ≤ p.column + byteLength text := by
  induction text generalizing p with
  | nil => exact ⟨Nat.le_refl _, Nat.le_refl _⟩
  | cons c text ih =>
      have size := c.utf8Size_pos
      have stepped : (p.next c).line ≤ p.line + 1 ∧ (p.next c).column ≤ p.column + 1 := by
        rw [next]
        split
        · exact ⟨Nat.le_refl _, Nat.le_add_left 1 _⟩
        · exact ⟨Nat.le_succ _, Nat.le_refl _⟩
      have behind := ih (p.next c)
      change ((p.next c).after text).line ≤ _ ∧ ((p.next c).after text).column ≤ _
      rw [byteLength]
      omega

/-- The place is no further on than a text of so many bytes can lead from the start. -/
structure Place.Bounded (p : Place) (bytes : Nat) : Prop where
  offset : p.offset ≤ bytes
  line : p.position.line ≤ bytes + 1
  column : p.position.column ≤ bytes + 1

theorem Place.Bounded.after {p : Place} {bytes : Nat} (h : p.Bounded bytes) (text : List Char) :
    (p.after text).Bounded (bytes + byteLength text) := by
  obtain ⟨offset, line, column⟩ := h
  obtain ⟨lines, columns⟩ := p.position.after_le text
  constructor
  · exact Nat.add_le_add_right offset _
  · change (p.position.after text).line ≤ _
    omega
  · change (p.position.after text).column ≤ _
    omega

theorem Place.Bounded.mono {p : Place} {bytes more : Nat} (h : p.Bounded bytes) (le : bytes ≤ more) :
    p.Bounded more := by
  have next : bytes + 1 ≤ more + 1 := Nat.succ_le_succ le
  exact ⟨Nat.le_trans h.offset le, Nat.le_trans h.line next, Nat.le_trans h.column next⟩

/-- A place in a text is no further on than the text is long. -/
theorem Place.IsIn.bounded {p : Place} {text : List Char} (h : p.IsIn text) : p.Bounded (byteLength text) := by
  obtain ⟨front, back, rfl, rfl⟩ := h
  have start : Place.Bounded .start 0 := ⟨Nat.le_refl 0, Nat.le_refl 1, Nat.le_refl 1⟩
  refine (start.after front).mono ?_
  rw [byteLength_append, Nat.zero_add]
  exact Nat.le_add_right _ _

theorem GrammarFile.fits_of_lex {file : GrammarFile} {text : String} {tokens : List Token}
    (h : file.lex text = .ok tokens) (short : byteLength text.toList + 1 < Nat.pow 2 32) :
    ∀ t ∈ tokens, TokenFile.Fits t := by
  rw [GrammarFile.lex] at h
  split at h
  · cases h
  · next lexer _ =>
      cases lexed : lexer.lex text with
      | error e =>
          rw [lexed] at h
          cases h
      | ok found =>
          rw [lexed] at h
          cases h
          intro t member
          have inside := (LexRule.isIn_of_lex Lexer.matchBytes? lexer text.toList).1 _ lexed t member
          obtain ⟨offset, line, column⟩ := inside.bounded
          have narrow : byteLength text.toList < Nat.pow 2 64 :=
            Nat.lt_trans (Nat.lt_of_succ_lt short) (by decide)
          exact ⟨Nat.lt_of_le_of_lt line short, Nat.lt_of_le_of_lt column short,
            Nat.lt_of_le_of_lt offset narrow⟩

namespace Command

/-- Programs of the same tokens are gone on with alike. -/
theorem withProgram_congr (c c' : Command) {inputs : Inputs} {source source' : Option ProgramSource}
    (grammar : c'.grammar = c.grammar) {text : String} (read : inputs c.grammar = .ok text)
    (same : c'.tokensOf inputs (GrammarFile.parse text) source' =
      c.tokensOf inputs (GrammarFile.parse text) source)
    (strict styled : Bool) (go : GrammarFile → List Token → Outcome) :
    c'.withProgram inputs source' strict styled go = c.withProgram inputs source strict styled go := by
  simp only [withProgram, withGrammar, grammar, Inputs.text_of_ok read, same]

/-- A program is made of the tokens that were written to its token file, in whatever layout. -/
theorem consists_of_written {c : Command} {inputs : Inputs} {path : String} {tokens : List Token}
    (layout : Json.Layout) (apart : ¬ c.Shares path) (fits : ∀ t ∈ tokens, TokenFile.Fits t)
    (stored : inputs path = .ok ((tokensJson tokens).renderIn layout ++ "\n")) (file : GrammarFile) :
    c.Consists inputs file (some (.tokenFile path)) tokens :=
  .stored ⟨apart, stored⟩ (TokenFile.parse_written layout tokens fits)

/-- The command that writes the tokens of a text as JSON. -/
def writingTokens (grammar : String) (color : ColorMode) (text : String) (compact : Bool) : Command :=
  ⟨grammar, color, .tokens ⟨some (.text text), true, compact⟩⟩

section Writing

variable {grammar text : String} {color : ColorMode} {compact onTerminal errorsOnTerminal : Bool}
  {inputs : Inputs}

theorem writingTokens_run :
    (writingTokens grammar color text compact).run inputs onTerminal errorsOnTerminal =
      (writingTokens grammar color text compact).withProgram inputs (some (.text text)) false
        (color.isOn (onTerminal && errorsOnTerminal)) fun _ tokens =>
          .printed ((tokensJson tokens).renderIn (.chosen compact onTerminal) ++ "\n") :=
  rfl

/-- What is written are the tokens of the text, in the layout that suits where they go. -/
theorem exists_written
    (h : ((writingTokens grammar color text compact).run inputs onTerminal errorsOnTerminal).code = 0) :
    ∃ source tokens, inputs grammar = .ok source ∧ (GrammarFile.parse source).lex text = .ok tokens ∧
      ((writingTokens grammar color text compact).run inputs onTerminal errorsOnTerminal).stdout =
        (tokensJson tokens).renderIn (.chosen compact onTerminal) ++ "\n" := by
  rw [writingTokens_run] at h ⊢
  obtain ⟨source, tokens, loads⟩ := loads_of_code_eq_zero h
  refine ⟨source, tokens, loads.grammar, loads.program.tokensOf_eq, ?_⟩
  rw [loads.withProgram_eq]
  exact String.empty_append

end Writing

/-- Tokens that fit into a token file are read back from it as they were written, spread over lines or not. So
where a grammar's lexer tells the tokens of a text apart, to parse the file of these tokens, wherever they were
written to, is to parse the text: the code and all that is printed are the same, with whatever other options. -/
theorem tokenFile_in_place_of_text :
    (∀ (layout : Json.Layout) (tokens : List Token), (∀ t ∈ tokens, TokenFile.Fits t) →
      TokenFile.parse ((tokensJson tokens).renderIn layout ++ "\n") = .ok tokens) ∧
    ∀ (grammar text path : String) (color color' : ColorMode) (compact compact' strict : Bool)
      (options : RunOptions) (before after : Inputs)
      (onTerminal errorsOnTerminal onTerminal' errorsOnTerminal' : Bool),
      let written := (writingTokens grammar color' text compact').run before onTerminal' errorsOnTerminal'
      written.code = 0 →
      (∀ source tokens, before grammar = .ok source → (GrammarFile.parse source).lex text = .ok tokens →
        ∀ t ∈ tokens, TokenFile.Fits t) →
      after grammar = before grammar → after path = .ok written.stdout → ¬ (path = "-" ∧ grammar = "-") →
      (parsing grammar color options (some (.tokenFile path)) compact strict).run after onTerminal
          errorsOnTerminal =
        (parsing grammar color options (some (.text text)) compact strict).run after onTerminal
          errorsOnTerminal := by
  refine ⟨TokenFile.parse_written, ?_⟩
  intro grammar text path color color' compact compact' strict options before after onTerminal
    errorsOnTerminal onTerminal' errorsOnTerminal' written done fits unchanged stored apart
  obtain ⟨source, tokens, read, lexed, stdout⟩ := exists_written done
  rw [stdout] at stored
  let byText := parsing grammar color options (some (.text text)) compact strict
  let byFile := parsing grammar color options (some (.tokenFile path)) compact strict
  have unread : after byText.grammar = .ok source := unchanged.trans read
  have made : byFile.Consists after (GrammarFile.parse source) (some (.tokenFile path)) tokens :=
    consists_of_written _ apart (fits source tokens read lexed) stored _
  have same : byFile.tokensOf after (GrammarFile.parse source) (some (.tokenFile path)) =
      byText.tokensOf after (GrammarFile.parse source) (some (.text text)) :=
    made.tokensOf_eq.trans lexed.symm
  rw [parsing_run, parsing_run]
  exact withProgram_congr byText byFile rfl unread same strict _
    (runParse ⟨some (.text text), compact, options, strict⟩ onTerminal)

end Command

namespace Brackets

open Command

/-- Writes the tokens of one pair of brackets. -/
def writingPair : Command := writingTokens "brackets" .never "()" false

set_option maxRecDepth 10000 in
theorem code_writingPair : (writingPair.run (files "[]") true false).code = 0 := by cbv

/-- A token with the largest numbers that fit, and with characters that are escaped. -/
def extreme : Token := ⟨"é\"", "\x01\\", ⟨4294967295, 4294967295⟩, 18446744073709551615⟩

/-- The token file holds the tokens of one pair as a terminal shows them, where there was an empty one. -/
theorem tokenFile_in_place_of_pair :
    TokenFile.parse ((tokensJson [extreme]).render ++ "\n") = .ok [extreme] ∧
    (writingPair.run (files "[]") true false).code = 0 ∧
    let after := files (writingPair.run (files "[]") true false).stdout
    (parsing "brackets" .never ⟨.standard, true⟩ (some (.tokenFile "tokens")) false false).run after true
      false = parsingPair.run after true false := by
  refine ⟨?_, code_writingPair, ?_⟩
  · refine tokenFile_in_place_of_text.1 .compact [extreme] ?_
    intro t member
    cases List.mem_singleton.mp member
    exact ⟨by decide, by decide, by decide⟩
  · intro after
    refine tokenFile_in_place_of_text.2 "brackets" "()" "tokens" .never .never false false false
      ⟨.standard, true⟩ (files "[]") after true false true false code_writingPair ?_ rfl rfl (by decide)
    intro source tokens _ lexed
    exact GrammarFile.fits_of_lex lexed (by decide)

end Brackets

end TokenGrammar
