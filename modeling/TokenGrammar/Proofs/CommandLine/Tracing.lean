import TokenGrammar.Proofs.CommandLine.Loading
import TokenGrammar.Proofs.Match.Moving
import TokenGrammar.Proofs.Match.Summary

/-!
# Tracing and parsing

To trace a program is to parse it under one observer more, and an observer never steers a run. So both
commands end alike: with the same code and the same complaints, and if they succeed, with the same tree,
which the one prints as an outline behind the trace and the other as JSON, spread over lines or not.
-/
namespace TokenGrammar

namespace Command

variable {c : Command} {inputs : Inputs} {source : Option ProgramSource} {strict : Bool}

/-- The command gets as far as parsing, which ends this way. -/
def Ends (c : Command) (inputs : Inputs) (source : Option ProgramSource) (strict : Bool)
    (options : RunOptions) (outcome : Except RuntimeError Program) : Prop :=
  ∃ text tokens, c.Loads inputs source strict text tokens ∧
    ((Machine.reporting (GrammarFile.parse text).grammar options.limits options.furthest).parse tokens
      none).outcome = outcome

theorem Loads.ends_iff {text : String} {tokens : List Token}
    (h : c.Loads inputs source strict text tokens) {options : RunOptions}
    {outcome : Except RuntimeError Program} :
    c.Ends inputs source strict options outcome ↔
      ((Machine.reporting (GrammarFile.parse text).grammar options.limits options.furthest).parse tokens
        none).outcome = outcome := by
  constructor
  · rintro ⟨text', tokens', h', ho⟩
    obtain ⟨rfl, rfl⟩ := h.unique h'
    exact ho
  · intro ho
    exact ⟨text, tokens, h, ho⟩

theorem Ends.unique {options : RunOptions} {outcome outcome' : Except RuntimeError Program}
    (h : c.Ends inputs source strict options outcome) (h' : c.Ends inputs source strict options outcome') :
    outcome' = outcome := by
  obtain ⟨text, tokens, loads, ho⟩ := h
  exact (loads.ends_iff.mp h').symm.trans ho

/-- Lines as they are printed. -/
def printLines (lines : List String) : String := String.join (lines.map (· ++ "\n"))

/-- What a trace ends with: the outline of the program behind a rule, if it is asked for. -/
def printResult (palette : Palette) (noResult : Bool) (program : Program) : String :=
  if noResult then "" else s!"{palette.dim}---{palette.reset}\n" ++ printLines program.outline

section Run

variable (file : GrammarFile) (tokens : List Token)

theorem runParse_of_error {options : ParseOptions} (onTerminal : Bool) {e : RuntimeError}
    (h : ((Machine.reporting file.grammar options.run.limits options.run.furthest).parse tokens
      none).outcome = .error e) : runParse options onTerminal file tokens = .ofRuntimeError e := by
  rw [Machine.reporting] at h
  simp only [runParse, h]

theorem runParse_of_ok {options : ParseOptions} (onTerminal : Bool) {program : Program}
    (h : ((Machine.reporting file.grammar options.run.limits options.run.furthest).parse tokens
      none).outcome = .ok program) :
    runParse options onTerminal file tokens =
      .printed (program.json.renderIn (.chosen options.compact onTerminal) ++ "\n") := by
  rw [Machine.reporting] at h
  simp only [runParse, h]

/-- The lines of the trace. -/
def traceLines (options : TraceOptions) (palette : Palette) : List String :=
  (((Machine.reporting file.grammar options.run.limits options.run.furthest).beside
    (.ofTrace options.verbosity palette)).parse tokens (none, .empty)).log.2.lines

theorem runTrace_of_error {options : TraceOptions} (palette : Palette) {e : RuntimeError}
    (h : ((Machine.reporting file.grammar options.run.limits options.run.furthest).parse tokens
      none).outcome = .error e) :
    runTrace options palette file tokens =
      (Outcome.ofRuntimeError e).behind (printLines (traceLines file tokens options palette)) "" := by
  rw [← Machine.outcome_parse_beside _ (.ofTrace options.verbosity palette) tokens (none, .empty),
    Machine.reporting, Machine.beside] at h
  simp only [runTrace, h]
  rfl

theorem runTrace_of_ok {options : TraceOptions} (palette : Palette) {program : Program}
    (h : ((Machine.reporting file.grammar options.run.limits options.run.furthest).parse tokens
      none).outcome = .ok program) :
    runTrace options palette file tokens =
      (Outcome.printed (printResult palette options.noResult program)).behind
        (printLines (traceLines file tokens options palette)) "" := by
  rw [← Machine.outcome_parse_beside _ (.ofTrace options.verbosity palette) tokens (none, .empty),
    Machine.reporting, Machine.beside] at h
  simp only [runTrace, h, printResult]
  cases options.noResult with
  | false => rfl
  | true => rfl

end Run

/-- How parsing and tracing can end, if `ends` tells how the parse does, and `tree` and `result` what they
print of a program: nothing is parsed, or the parse fails or succeeds, behind what is said about the grammar. -/
inductive EndTogether (ends : Except RuntimeError Program → Prop) (tree result : Program → String) :
    Outcome → Outcome → Prop
  | refused (complaint : String) : (∀ outcome, ¬ ends outcome) →
      EndTogether ends tree result ⟨1, "", complaint⟩ ⟨1, "", complaint⟩
  | failed {e : RuntimeError} (lines : List String) (report : String) : ends (.error e) →
      EndTogether ends tree result ((Outcome.ofRuntimeError e).behind "" report)
        (((Outcome.ofRuntimeError e).behind (printLines lines) "").behind "" report)
  | succeeded {program : Program} (lines : List String) (report : String) : ends (.ok program) →
      EndTogether ends tree result ((Outcome.printed (tree program)).behind "" report)
        (((Outcome.printed (result program)).behind (printLines lines) "").behind "" report)

namespace EndTogether

variable {ends : Except RuntimeError Program → Prop} {tree result : Program → String}
  {parsed traced : Outcome}

theorem complaints (h : EndTogether ends tree result parsed traced) :
    traced.code = parsed.code ∧ traced.stderr = parsed.stderr := by
  cases h with
  | refused complaint absent => exact ⟨rfl, rfl⟩
  | failed lines report ended => exact ⟨rfl, congrArg (report ++ ·) String.empty_append⟩
  | succeeded lines report ended => exact ⟨rfl, congrArg (report ++ ·) String.empty_append⟩

theorem code_eq_two_iff (h : EndTogether ends tree result parsed traced)
    (unique : ∀ outcome outcome', ends outcome → ends outcome' → outcome' = outcome) :
    parsed.code = 2 ↔ ∃ e, ends (.error e) ∧ e.isLimit = true := by
  cases h with
  | refused complaint absent =>
      refine ⟨nofun, ?_⟩
      rintro ⟨e, ended, -⟩
      exact absurd ended (absent _)
  | @failed e lines report ended =>
      change (if e.isLimit then 2 else 1) = 2 ↔ _
      constructor
      · intro code
        refine ⟨e, ended, ?_⟩
        by_contra unlimited
        rw [if_neg unlimited] at code
        cases code
      · rintro ⟨e', ended', limit⟩
        cases unique _ _ ended ended'
        rw [if_pos limit]
  | succeeded lines report ended =>
      refine ⟨nofun, ?_⟩
      rintro ⟨e, ended', -⟩
      cases unique _ _ ended ended'

theorem code_eq_zero_iff (h : EndTogether ends tree result parsed traced)
    (unique : ∀ outcome outcome', ends outcome → ends outcome' → outcome' = outcome) :
    parsed.code = 0 ↔ ∃ program, ends (.ok program) := by
  cases h with
  | refused complaint absent =>
      refine ⟨nofun, ?_⟩
      rintro ⟨program, ended⟩
      exact absurd ended (absent _)
  | @failed e lines report ended =>
      change (if e.isLimit then 2 else 1) = 0 ↔ _
      constructor
      · intro code
        split at code <;> cases code
      · rintro ⟨program, ended'⟩
        cases unique _ _ ended ended'
  | succeeded lines report ended => exact ⟨fun _ => ⟨_, ended⟩, fun _ => rfl⟩

theorem code_cases (h : EndTogether ends tree result parsed traced) :
    parsed.code = 0 ∨ parsed.code = 1 ∨ parsed.code = 2 := by
  cases h with
  | refused complaint absent => exact .inr (.inl rfl)
  | @failed e lines report ended =>
      change (if e.isLimit then 2 else 1) = 0 ∨ (if e.isLimit then 2 else 1) = 1 ∨
        (if e.isLimit then 2 else 1) = 2
      split
      · exact .inr (.inr rfl)
      · exact .inr (.inl rfl)
  | succeeded lines report ended => exact .inl rfl

/-- Parsing prints the tree and nothing else. -/
theorem stdout_cases (h : EndTogether ends tree result parsed traced) :
    (parsed.code ≠ 0 → parsed.stdout = "") ∧
    (parsed.code = 0 → ∃ program, ends (.ok program) ∧ parsed.stdout = tree program ∧
      ∃ lines, traced.stdout = printLines lines ++ result program) := by
  cases h with
  | refused complaint absent => exact ⟨fun _ => rfl, nofun⟩
  | @failed e lines report ended =>
      refine ⟨fun _ => String.empty_append, ?_⟩
      change (if e.isLimit then 2 else 1) = 0 → _
      intro code
      split at code <;> cases code
  | @succeeded program lines report ended =>
      refine ⟨fun code => absurd rfl code, fun _ => ⟨program, ended, String.empty_append, lines, ?_⟩⟩
      exact String.empty_append

end EndTogether

section Both

variable (grammar : String) (color : ColorMode) (options : RunOptions) (source : Option ProgramSource)

/-- The command that parses a program. -/
def parsing (compact strict : Bool) : Command :=
  ⟨grammar, color, .parse ⟨source, compact, options, strict⟩⟩

theorem parsing_run (inputs : Inputs) (onTerminal errorsOnTerminal compact strict : Bool) :
    (parsing grammar color options source compact strict).run inputs onTerminal errorsOnTerminal =
      (parsing grammar color options source compact strict).withProgram inputs source strict
        (color.isOn (onTerminal && errorsOnTerminal))
        (runParse ⟨source, compact, options, strict⟩ onTerminal) :=
  rfl

/-- The command that traces a program. -/
def tracing (verbosity : Verbosity) (noResult : Bool) : Command :=
  ⟨grammar, color, .trace ⟨source, verbosity, noResult, options⟩⟩

/-- What is printed of a parsed program. -/
def printTree (compact onTerminal : Bool) (program : Program) : String :=
  program.json.renderIn (.chosen compact onTerminal) ++ "\n"

theorem endTogether (inputs : Inputs) (onTerminal errorsOnTerminal compact : Bool) (verbosity : Verbosity)
    (noResult : Bool) :
    EndTogether ((parsing grammar color options source compact false).Ends inputs source false options)
      (printTree compact onTerminal)
      (printResult (Palette.ofEnabled (color.isOn (onTerminal && errorsOnTerminal))) noResult)
      ((parsing grammar color options source compact false).run inputs onTerminal errorsOnTerminal)
      ((tracing grammar color options source verbosity noResult).run inputs onTerminal
        errorsOnTerminal) := by
  let c := parsing grammar color options source compact false
  let styled := color.isOn (onTerminal && errorsOnTerminal)
  have traced : (tracing grammar color options source verbosity noResult).run inputs onTerminal
      errorsOnTerminal = c.withProgram inputs source false styled
        (runTrace ⟨source, verbosity, noResult, options⟩ (Palette.ofEnabled styled)) := rfl
  rw [parsing_run, traced]
  obtain ⟨text, tokens, loads⟩ | ⟨complaint, refused⟩ := c.loads_or_refuses inputs source false styled
  · rw [loads.withProgram_eq, loads.withProgram_eq]
    cases ho : ((Machine.reporting (GrammarFile.parse text).grammar options.limits
        options.furthest).parse tokens none).outcome with
    | error e =>
        rw [runParse_of_error _ _ _ ho, runTrace_of_error _ _ _ ho]
        exact .failed _ _ (loads.ends_iff.mpr ho)
    | ok program =>
        rw [runParse_of_ok _ _ _ ho, runTrace_of_ok _ _ _ ho]
        exact .succeeded _ _ (loads.ends_iff.mpr ho)
  · rw [refused.withProgram_eq, refused.withProgram_eq]
    refine .refused complaint fun outcome ends => ?_
    obtain ⟨text, tokens, loads, -⟩ := ends
    exact refused.not_loads text tokens loads

/-- Parsing and tracing a program end with the same code and the same complaints, wherever their output goes.
The code is 2 just if a limit ended the run, 0 just if all is read and the program is parsed, and 1 otherwise.
Unless the code is 0, parsing prints nothing; if it is, the tree that it prints as JSON, spread over lines at a
terminal unless it is to be compact, is the one whose outline stands behind the trace. -/
theorem tracing_agrees_with_parsing (inputs : Inputs) (onTerminal errorsOnTerminal compact : Bool)
    (verbosity : Verbosity) (noResult : Bool) :
    let c := parsing grammar color options source compact false
    let parsed := c.run inputs onTerminal errorsOnTerminal
    let traced := (tracing grammar color options source verbosity noResult).run inputs onTerminal
      errorsOnTerminal
    (traced.code = parsed.code ∧ traced.stderr = parsed.stderr) ∧
    (parsed.code = 2 ↔ ∃ e, c.Ends inputs source false options (.error e) ∧ e.isLimit = true) ∧
    (parsed.code = 0 ↔ ∃ program, c.Ends inputs source false options (.ok program)) ∧
    (parsed.code = 0 ∨ parsed.code = 1 ∨ parsed.code = 2) ∧
    (parsed.code ≠ 0 → parsed.stdout = "") ∧
    (parsed.code = 0 → ∃ program, c.Ends inputs source false options (.ok program) ∧
      parsed.stdout = program.json.renderIn (if onTerminal && !compact then .pretty else .compact) ++ "\n" ∧
      ∃ lines, traced.stdout = printLines lines ++
        printResult (Palette.ofEnabled (color.isOn (onTerminal && errorsOnTerminal))) noResult program) := by
  intro c parsed traced
  have together := endTogether grammar color options source inputs onTerminal errorsOnTerminal compact
    verbosity noResult
  have unique (outcome outcome' : Except RuntimeError Program)
      (h : c.Ends inputs source false options outcome)
      (h' : c.Ends inputs source false options outcome') : outcome' = outcome := h.unique h'
  exact ⟨together.complaints, together.code_eq_two_iff unique, together.code_eq_zero_iff unique,
    together.code_cases, together.stdout_cases⟩

end Both

end Command

namespace Brackets

open Command

/-- Brackets inside one another, with a lexer of their own. -/
def file : String := "token bracket /[()]/\nrule nest = \"(\" @nest \")\" | ;\n"

/-- The grammar file, and a token file beside it. -/
def files (tokens : String) : Inputs := fun path =>
  if path = "brackets" then .ok file
  else if path = "tokens" then .ok tokens
  else .error .notFound

/-- Parses one pair of brackets. -/
def parsingPair : Command := parsing "brackets" .never ⟨.standard, true⟩ (some (.text "()")) false false

def tracingPair : Command := tracing "brackets" .never ⟨.standard, true⟩ (some (.text "()")) .rules false

set_option maxRecDepth 10000 in
theorem code_parsingPair : (parsingPair.run (files "[]") true false).code = 0 := by cbv

/-- At a terminal, where only what is complained of is piped. -/
theorem tracing_agrees_with_parsing_pair :
    (tracingPair.run (files "[]") true false).code = 0 ∧
    (tracingPair.run (files "[]") true false).stderr = (parsingPair.run (files "[]") true false).stderr ∧
    ∃ program, (parsingPair.run (files "[]") true false).stdout = program.json.renderIn .pretty ++ "\n" ∧
      ∃ lines, (tracingPair.run (files "[]") true false).stdout = printLines lines ++
        printResult (Palette.ofEnabled false) false program := by
  obtain ⟨⟨code, complaints⟩, -, -, -, -, printed⟩ := tracing_agrees_with_parsing "brackets" .never
    ⟨.standard, true⟩ (some (.text "()")) (files "[]") true false false .rules false
  obtain ⟨program, -, json, outline⟩ := printed code_parsingPair
  exact ⟨code.trans code_parsingPair, complaints, program, json, outline⟩

end Brackets

end TokenGrammar
