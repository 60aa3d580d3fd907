import TokenGrammar.CommandLine.Run

/-!
# What commands load

Before a command does what it is for, its grammar has to be read and be valid, and its program to be made of
tokens: those that the grammar's lexer finds in a text, or those that a token file holds. Main statement: either
all of this is there, and the command goes on behind the report on the grammar; or something is missing, and the
command fails with code 1, prints nothing, and says what it is.
-/
namespace TokenGrammar

namespace Inputs

variable {inputs : Inputs} {path : String}

theorem text_of_ok {text : String} (h : inputs path = .ok text) : inputs.text path = .ok text := by
  rw [Inputs.text, h]
  rfl

theorem text_of_error {cause : AccessError} (h : inputs path = .error cause) :
    inputs.text path = .error (.unreadable path cause) := by
  rw [Inputs.text, h]
  rfl

end Inputs

namespace Command

/-- The path can be read for the program, and this is the text. -/
structure Reads (c : Command) (inputs : Inputs) (path text : String) : Prop where
  apart : ¬ c.Shares path
  read : inputs path = .ok text

/-- The program is this text, which is still to be lexed. -/
inductive Spells (c : Command) (inputs : Inputs) : ProgramSource → String → Prop
  | given (text : String) : Spells c inputs (.text text) text
  | read {path text : String} : c.Reads inputs path text → Spells c inputs (.file path) text

/-- The program is made of these tokens: the lexer finds them in its text, or its token file holds them. -/
inductive Consists (c : Command) (inputs : Inputs) (file : GrammarFile) :
    Option ProgramSource → List Token → Prop
  | lexed {source : ProgramSource} {text : String} {lexer : Lexer} {tokens : List Token} :
      c.Spells inputs source text → file.lexer = some lexer → lexer.lex text = .ok tokens →
      Consists c inputs file (some source) tokens
  | stored {path text : String} {tokens : List Token} :
      c.Reads inputs path text → TokenFile.parse text = .ok tokens →
      Consists c inputs file (some (.tokenFile path)) tokens

/-- The program is not made of tokens, and what is wrong. -/
inductive Lacks (c : Command) (inputs : Inputs) (file : GrammarFile) :
    Option ProgramSource → InputError → Prop
  | program : Lacks c inputs file none .missingProgram
  | input {source : ProgramSource} {path : String} :
      source.path? = some path → c.Shares path → Lacks c inputs file (some source) .stdinTwice
  | access {source : ProgramSource} {path : String} {cause : AccessError} :
      source.path? = some path → ¬ c.Shares path → inputs path = .error cause →
      Lacks c inputs file (some source) (.unreadable path cause)
  | lexer {source : ProgramSource} {text : String} :
      c.Spells inputs source text → file.lexer = none → Lacks c inputs file (some source) .noLexer
  | rule {source : ProgramSource} {text : String} {lexer : Lexer} {cause : LexError} :
      c.Spells inputs source text → file.lexer = some lexer → lexer.lex text = .error cause →
      Lacks c inputs file (some source) (.lex cause)
  | tokens {path text : String} {cause : Json.ReadError} :
      c.Reads inputs path text → TokenFile.parse text = .error cause →
      Lacks c inputs file (some (.tokenFile path)) (.tokenFile path cause)

section Program

variable {c : Command} {inputs : Inputs} {file : GrammarFile}

theorem Spells.tokensOf_eq {source : ProgramSource} {text : String} (h : c.Spells inputs source text) :
    c.tokensOf inputs file (some source) = file.lex text := by
  cases h with
  | given => rfl
  | read h =>
      rw [tokensOf, if_neg h.apart, Inputs.text_of_ok h.read]
      rfl

theorem Reads.tokensOf_eq {path text : String} (h : c.Reads inputs path text) :
    c.tokensOf inputs file (some (.tokenFile path)) =
      (TokenFile.parse text).mapError (.tokenFile path) := by
  rw [tokensOf, if_neg h.apart, Inputs.text_of_ok h.read]
  rfl

theorem Consists.tokensOf_eq {source : Option ProgramSource} {tokens : List Token}
    (h : c.Consists inputs file source tokens) : c.tokensOf inputs file source = .ok tokens := by
  cases h with
  | lexed spelled lexer found =>
      simp only [spelled.tokensOf_eq, GrammarFile.lex, lexer, found]
      rfl
  | stored read held =>
      rw [read.tokensOf_eq, held]
      rfl

theorem tokensOf_of_shares {source : ProgramSource} {path : String} (h : source.path? = some path)
    (shared : c.Shares path) : c.tokensOf inputs file (some source) = .error .stdinTwice := by
  cases source with
  | file | tokenFile =>
      cases h
      exact if_pos shared
  | text => cases h

theorem tokensOf_of_unreadable {source : ProgramSource} {path : String} {cause : AccessError}
    (h : source.path? = some path) (apart : ¬ c.Shares path) (unreadable : inputs path = .error cause) :
    c.tokensOf inputs file (some source) = .error (.unreadable path cause) := by
  cases source with
  | file | tokenFile =>
      cases h
      rw [tokensOf, if_neg apart, Inputs.text_of_error unreadable]
      rfl
  | text => cases h

theorem Lacks.tokensOf_eq {source : Option ProgramSource} {e : InputError}
    (h : c.Lacks inputs file source e) : c.tokensOf inputs file source = .error e := by
  cases h with
  | program => rfl
  | input path shared => exact tokensOf_of_shares path shared
  | access path apart unreadable => exact tokensOf_of_unreadable path apart unreadable
  | lexer spelled absent => simp only [spelled.tokensOf_eq, GrammarFile.lex, absent]
  | rule spelled lexer stuck =>
      simp only [spelled.tokensOf_eq, GrammarFile.lex, lexer, stuck]
      rfl
  | tokens read wrong =>
      rw [read.tokensOf_eq, wrong]
      rfl

theorem Spells.consists_or_lacks {source : ProgramSource} {text : String} (h : c.Spells inputs source text) :
    (∃ tokens, c.Consists inputs file (some source) tokens) ∨ ∃ e, c.Lacks inputs file (some source) e := by
  cases lexer : file.lexer with
  | none => exact .inr ⟨_, .lexer h lexer⟩
  | some found =>
      cases lexed : found.lex text with
      | ok tokens => exact .inl ⟨tokens, .lexed h lexer lexed⟩
      | error cause => exact .inr ⟨_, .rule h lexer lexed⟩

theorem Reads.consists_or_lacks {path text : String} (h : c.Reads inputs path text) :
    (∃ tokens, c.Consists inputs file (some (.tokenFile path)) tokens) ∨
      ∃ e, c.Lacks inputs file (some (.tokenFile path)) e := by
  cases held : TokenFile.parse text with
  | ok tokens => exact .inl ⟨tokens, .stored h held⟩
  | error cause => exact .inr ⟨_, .tokens h held⟩

/-- A path is read for the program unless something is wrong with it. -/
theorem reads_or_lacks (c : Command) (inputs : Inputs) (file : GrammarFile) (source : ProgramSource)
    {path : String} (h : source.path? = some path) :
    (∃ text, c.Reads inputs path text) ∨ ∃ e, c.Lacks inputs file (some source) e := by
  by_cases shared : c.Shares path
  · exact .inr ⟨_, .input h shared⟩
  · cases read : inputs path with
    | ok text => exact .inl ⟨text, shared, read⟩
    | error cause => exact .inr ⟨_, .access h shared read⟩

theorem consists_or_lacks (c : Command) (inputs : Inputs) (file : GrammarFile)
    (source : Option ProgramSource) :
    (∃ tokens, c.Consists inputs file source tokens) ∨ ∃ e, c.Lacks inputs file source e := by
  rcases source with _ | path | text | path
  · exact .inr ⟨_, .program⟩
  · obtain ⟨text, read⟩ | lacking := c.reads_or_lacks inputs file (.file path) rfl
    · exact (Spells.read read).consists_or_lacks
    · exact .inr lacking
  · exact (Spells.given text).consists_or_lacks
  · obtain ⟨text, read⟩ | lacking := c.reads_or_lacks inputs file (.tokenFile path) rfl
    · exact read.consists_or_lacks
    · exact .inr lacking

/-- The tokens of a program are those that it is made of. -/
theorem tokensOf_eq_ok {source : Option ProgramSource} {tokens : List Token} :
    c.tokensOf inputs file source = .ok tokens ↔ c.Consists inputs file source tokens := by
  refine ⟨fun h => ?_, Consists.tokensOf_eq⟩
  obtain ⟨found, made⟩ | ⟨e, lacking⟩ := c.consists_or_lacks inputs file source
  · cases h.symm.trans made.tokensOf_eq
    exact made
  · cases h.symm.trans lacking.tokensOf_eq

/-- A program without tokens is told by what it lacks. -/
theorem tokensOf_eq_error {source : Option ProgramSource} {e : InputError} :
    c.tokensOf inputs file source = .error e ↔ c.Lacks inputs file source e := by
  refine ⟨fun h => ?_, Lacks.tokensOf_eq⟩
  obtain ⟨found, made⟩ | ⟨e', lacking⟩ := c.consists_or_lacks inputs file source
  · cases h.symm.trans made.tokensOf_eq
  · cases h.symm.trans lacking.tokensOf_eq
    exact lacking

end Program

/-- The grammar can be read and is valid. -/
structure LoadsGrammar (c : Command) (inputs : Inputs) (strict : Bool) (text : String) : Prop where
  grammar : inputs c.grammar = .ok text
  valid : (GrammarFile.parse text).isValid strict = true

/-- The grammar cannot be read, or it is not valid, as its report shows. -/
inductive RefusesGrammar (c : Command) (inputs : Inputs) (strict styled : Bool) : String → Prop
  | unreadable {cause : AccessError} : inputs c.grammar = .error cause →
      RefusesGrammar c inputs strict styled s!"error: {(InputError.unreadable c.grammar cause).message}\n"
  | invalid {text : String} : inputs c.grammar = .ok text →
      (GrammarFile.parse text).isValid strict = false →
      RefusesGrammar c inputs strict styled ((GrammarFile.parse text).report text c.grammar styled)

/-- The grammar can be read and is valid, and the program is there and made of these tokens. -/
structure Loads (c : Command) (inputs : Inputs) (source : Option ProgramSource) (strict : Bool)
    (text : String) (tokens : List Token) : Prop extends LoadsGrammar c inputs strict text where
  program : c.Consists inputs (GrammarFile.parse text) source tokens

/-- Something cannot be loaded, and this is what is said about it: of the grammar, or, behind the report on the
grammar, of the program. -/
inductive Refuses (c : Command) (inputs : Inputs) (source : Option ProgramSource) (strict styled : Bool) :
    String → Prop
  | grammar {complaint : String} : c.RefusesGrammar inputs strict styled complaint →
      Refuses c inputs source strict styled complaint
  | program {text : String} {e : InputError} : c.LoadsGrammar inputs strict text →
      c.Lacks inputs (GrammarFile.parse text) source e →
      Refuses c inputs source strict styled
        ((GrammarFile.parse text).report text c.grammar styled ++ s!"error: {e.message}\n")

variable {c : Command} {inputs : Inputs} {source : Option ProgramSource} {strict styled : Bool}

/-- What is loaded is gone on with, behind the report on it. -/
theorem LoadsGrammar.withGrammar_eq {text : String} (h : c.LoadsGrammar inputs strict text) (styled : Bool)
    (go : GrammarFile → Outcome) :
    c.withGrammar inputs strict styled go =
      (go (GrammarFile.parse text)).behind "" ((GrammarFile.parse text).report text c.grammar styled) := by
  simp only [withGrammar, Inputs.text_of_ok h.grammar, h.valid, if_true]

/-- A command without its grammar fails, whatever it is for, and prints nothing but what is said about it. -/
theorem RefusesGrammar.withGrammar_eq {complaint : String}
    (h : c.RefusesGrammar inputs strict styled complaint) (go : GrammarFile → Outcome) :
    c.withGrammar inputs strict styled go = ⟨1, "", complaint⟩ := by
  cases h with
  | unreadable unread =>
      rw [withGrammar, Inputs.text_of_error unread]
      rfl
  | invalid read invalid => simp [withGrammar, Inputs.text_of_ok read, invalid]

theorem loadsGrammar_or_refuses (c : Command) (inputs : Inputs) (strict styled : Bool) :
    (∃ text, c.LoadsGrammar inputs strict text) ∨
      ∃ complaint, c.RefusesGrammar inputs strict styled complaint := by
  cases read : inputs c.grammar with
  | error cause => exact .inr ⟨_, .unreadable read⟩
  | ok text =>
      cases valid : (GrammarFile.parse text).isValid strict with
      | false => exact .inr ⟨_, .invalid read valid⟩
      | true => exact .inl ⟨text, read, valid⟩

theorem RefusesGrammar.not_loads {complaint : String} (h : c.RefusesGrammar inputs strict styled complaint)
    (text : String) : ¬ c.LoadsGrammar inputs strict text := by
  intro loads
  cases h with
  | unreadable unread => cases unread.symm.trans loads.grammar
  | invalid read invalid =>
      cases read.symm.trans loads.grammar
      cases invalid.symm.trans loads.valid

theorem Loads.unique {text text' : String} {tokens tokens' : List Token}
    (h : c.Loads inputs source strict text tokens) (h' : c.Loads inputs source strict text' tokens') :
    text' = text ∧ tokens' = tokens := by
  cases h.grammar.symm.trans h'.grammar
  cases h.program.tokensOf_eq.symm.trans h'.program.tokensOf_eq
  exact ⟨rfl, rfl⟩

/-- A program is gone on with behind the report on the grammar. -/
theorem Loads.withProgram_eq {text : String} {tokens : List Token}
    (h : c.Loads inputs source strict text tokens) (styled : Bool)
    (go : GrammarFile → List Token → Outcome) :
    c.withProgram inputs source strict styled go =
      (go (GrammarFile.parse text) tokens).behind ""
        ((GrammarFile.parse text).report text c.grammar styled) := by
  rw [withProgram, h.withGrammar_eq, h.program.tokensOf_eq]

/-- A command that cannot load something fails with code 1, whatever it is for, and prints nothing but what is
said about it. -/
theorem Refuses.withProgram_eq {complaint : String} (h : c.Refuses inputs source strict styled complaint)
    (go : GrammarFile → List Token → Outcome) :
    c.withProgram inputs source strict styled go = ⟨1, "", complaint⟩ := by
  cases h with
  | grammar refused => exact refused.withGrammar_eq _
  | program loaded lacking =>
      rw [withProgram, loaded.withGrammar_eq, lacking.tokensOf_eq]
      rfl

/-- A command loads what it needs, or it fails. -/
theorem loads_or_refuses (c : Command) (inputs : Inputs) (source : Option ProgramSource)
    (strict styled : Bool) :
    (∃ text tokens, c.Loads inputs source strict text tokens) ∨
      ∃ complaint, c.Refuses inputs source strict styled complaint := by
  obtain ⟨text, loaded⟩ | ⟨complaint, refused⟩ := c.loadsGrammar_or_refuses inputs strict styled
  · obtain ⟨tokens, made⟩ | ⟨e, lacking⟩ := c.consists_or_lacks inputs (GrammarFile.parse text) source
    · exact .inl ⟨text, tokens, loaded, made⟩
    · exact .inr ⟨_, .program loaded lacking⟩
  · exact .inr ⟨complaint, .grammar refused⟩

/-- It does not do both. -/
theorem Refuses.not_loads {complaint : String} (h : c.Refuses inputs source strict styled complaint)
    (text : String) (tokens : List Token) : ¬ c.Loads inputs source strict text tokens := by
  intro loads
  cases h with
  | grammar refused => exact refused.not_loads text loads.toLoadsGrammar
  | program loaded lacking =>
      cases loaded.grammar.symm.trans loads.grammar
      cases lacking.tokensOf_eq.symm.trans loads.program.tokensOf_eq

/-- What succeeds has loaded what it needs. -/
theorem loads_of_code_eq_zero {go : GrammarFile → List Token → Outcome}
    (h : (c.withProgram inputs source strict styled go).code = 0) :
    ∃ text tokens, c.Loads inputs source strict text tokens := by
  obtain loads | ⟨complaint, refused⟩ := c.loads_or_refuses inputs source strict styled
  · exact loads
  · rw [refused.withProgram_eq] at h
    cases h

end Command

end TokenGrammar
