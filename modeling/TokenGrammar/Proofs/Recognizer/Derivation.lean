import TokenGrammar.Recognizer.Compile

/-!
# What lines compile to

The symbols that come of a list of tokens, as a relation with one rule a form of symbol. Compilation
succeeds exactly with what is derived. Every alternative of a compiled body, however deep in groups it
stands, comes of consecutive tokens of the body that do not start with the rule itself.
-/
namespace TokenGrammar

namespace Compiled

variable {α β : Type}

theorem bind_eq (x : Compiled α) (f : α → Compiled β) :
    x >>= f = match x.result with
      | .error e => ⟨x.warnings, .error e⟩
      | .ok a => ⟨x.warnings ++ (f a).warnings, (f a).result⟩ := rfl

/-- Both parts of a compilation succeed or neither does, and their warnings follow each other. -/
theorem bind_eq_ok {x : Compiled α} {f : α → Compiled β} {warnings : List Diagnostic} {b : β} :
    x >>= f = ⟨warnings, .ok b⟩ ↔
      ∃ a before after, x = ⟨before, .ok a⟩ ∧ f a = ⟨after, .ok b⟩ ∧ warnings = before ++ after := by
  rcases x with ⟨before, e | a⟩
  · constructor
    · intro h
      cases h
    · rintro ⟨a, _, _, hx, -, -⟩
      cases hx
  · constructor
    · intro h
      rw [bind_eq] at h
      obtain ⟨rfl, hr⟩ := (Compiled.mk.injEq ..).mp h
      exact ⟨a, before, _, rfl, congrArg (Compiled.mk _) hr, rfl⟩
    · rintro ⟨_, _, after, hx, hf, rfl⟩
      cases hx
      simp only [bind_eq, hf]

theorem pure_eq (a : α) : (pure a : Compiled α) = ⟨[], .ok a⟩ := rfl

end Compiled

/-- Tokens that mean nothing inside an alternative; they make a stray symbol. -/
def Notation.Kind.isStray : Notation.Kind → Bool
  | groupClose | alternator | optional | zeroOrMore | oneOrMore | assignment | terminator => true
  | _ => false

namespace Recognizer

variable {header : Notation.Token}

/-- A token that makes a symbol by itself. -/
inductive Stands (t : Notation.Token) : Symbol → List Diagnostic → Prop
  | literal : t.kind = .literal → Stands t (.literal t.literalValue) []
  | subrule : t.kind = .subruleRef → Stands t (.subrule t.name) []
  | definition : t.kind = .definitionRef → Stands t (.definition t.name) []
  | stray : t.kind.isStray = true → Stands t (.stray t) [strayWarning t]

mutual

/-- The alternatives of a body, and the warnings about it. -/
inductive BodyYields (header : Notation.Token) :
    List Notation.Token → List Alternative → List Diagnostic → Prop
  | intro {body alternatives warnings} :
      (∀ a ∈ alternativesOf body, isLeftRecursive header.text a = false) →
      AlternativesYield header (alternativesOf body) alternatives warnings →
      BodyYields header body alternatives warnings

inductive AlternativesYield (header : Notation.Token) :
    List (List Notation.Token) → List Alternative → List Diagnostic → Prop
  | nil : AlternativesYield header [] [] []
  | cons {a rest symbols others warnings more} :
      SymbolsYield header a symbols warnings → AlternativesYield header rest others more →
      AlternativesYield header (a :: rest) (symbols :: others) (warnings ++ more)

inductive SymbolsYield (header : Notation.Token) :
    List Notation.Token → List Symbol → List Diagnostic → Prop
  | nil : SymbolsYield header [] [] []
  | single {t rest symbol symbols warnings more} :
      Stands t symbol warnings → SymbolsYield header rest symbols more →
      SymbolsYield header (t :: rest) (symbol :: symbols) (warnings ++ more)
  /-- A class reference takes the quantifier behind it. -/
  | tokens {t rest symbols warnings} :
      t.kind = .classRef ∨ t.kind = .name →
      SymbolsYield header (takeQuantifier rest).2 symbols warnings →
      SymbolsYield header (t :: rest)
        (.tokens t.name (takeQuantifier rest).1 (t.kind = .classRef) :: symbols) warnings
  | emptyGroup {opening close after symbols warnings} :
      opening.kind = .groupOpen → close.kind = .groupClose →
      SymbolsYield header after symbols warnings →
      SymbolsYield header (opening :: close :: after) symbols
        (emptyGroupWarning opening close :: warnings)
  | group {opening rest inner close after alternatives symbols warnings more} :
      opening.kind = .groupOpen → splitGroup 0 rest = some (inner, close, after) → inner ≠ [] →
      BodyYields header inner alternatives warnings → SymbolsYield header after symbols more →
      SymbolsYield header (opening :: rest) (.group alternatives :: symbols) (warnings ++ more)
  | trivia {t rest symbols warnings} :
      t.kind.isTrivia = true → SymbolsYield header rest symbols warnings →
      SymbolsYield header (t :: rest) symbols warnings

end

theorem splitGroup_nil_iff {tokens after : List Notation.Token} {close : Notation.Token} :
    splitGroup 0 tokens = some ([], close, after) ↔
      tokens = close :: after ∧ close.kind = .groupClose := by
  cases tokens with
  | nil => simp [splitGroup]
  | cons t rest =>
      rw [splitGroup]
      by_cases ht : t.kind = .groupClose
      · simp only [ht, and_self, if_true, Option.some.injEq, Prod.mk.injEq, true_and,
          List.cons.injEq]
        constructor
        · rintro ⟨rfl, rfl⟩
          exact ⟨⟨rfl, rfl⟩, ht⟩
        · rintro ⟨⟨rfl, rfl⟩, -⟩
          exact ⟨rfl, rfl⟩
      · simp only [ht, false_and, if_false, Option.map_eq_some_iff, Prod.mk.injEq, reduceCtorEq,
          and_false, exists_false, List.cons.injEq, false_iff, not_and]
        rintro ⟨rfl, rfl⟩
        exact ht

/-- The contents of a group that is not empty do not start with its end. -/
theorem head_of_splitGroup {tokens inner after : List Notation.Token} {close : Notation.Token}
    (hs : splitGroup 0 tokens = some (inner, close, after)) (hi : inner ≠ []) :
    ∀ t ∈ tokens.head?, t.kind ≠ .groupClose := by
  intro t first hc
  obtain ⟨rest, rfl⟩ := List.head?_eq_some_iff.mp first
  have empty : splitGroup 0 (t :: rest) = some ([], t, rest) := splitGroup_nil_iff.mpr ⟨rfl, hc⟩
  cases hs.symm.trans empty
  exact hi rfl

theorem find?_isLeftRecursive_eq_none {rule : String} {alternatives : List (List Notation.Token)}
    (h : ∀ first tail, alternatives.find? (isLeftRecursive rule) = some (first :: tail) → False) :
    alternatives.find? (isLeftRecursive rule) = none := by
  cases hf : alternatives.find? (isLeftRecursive rule) with
  | none => rfl
  | some a =>
      cases a with
      | nil => exact absurd (List.find?_some hf) Bool.false_ne_true
      | cons first tail => exact (h first tail hf).elim

theorem compileBody_eq {body : List Notation.Token}
    (h : ∀ a ∈ alternativesOf body, isLeftRecursive header.text a = false) :
    compileBody header body = compileAlternatives header (alternativesOf body) := by
  have none : (alternativesOf body).find? (isLeftRecursive header.text) = none := by
    rw [List.find?_eq_none]
    intro a member
    rw [h a member]
    exact Bool.false_ne_true
  rw [compileBody, none]

theorem compileSymbols_single {t : Notation.Token} {symbol : Symbol} {warnings : List Diagnostic}
    (h : Stands t symbol warnings) (rest : List Notation.Token) :
    compileSymbols header (t :: rest) =
      (Compiled.mk warnings (.ok ()) >>= fun _ => compileSymbols header rest >>= fun more =>
        pure (symbol :: more)) := by
  cases h with
  | literal hk | subrule hk | definition hk =>
      rw [compileSymbols, hk]
      rfl
  | stray hk =>
      rw [compileSymbols]
      cases ht : t.kind <;> rw [ht] at hk <;> first | rfl | cases hk

theorem compileSymbols_tokens {t : Notation.Token} (h : t.kind = .classRef ∨ t.kind = .name)
    (rest : List Notation.Token) :
    compileSymbols header (t :: rest) =
      (compileSymbols header (takeQuantifier rest).2 >>= fun more =>
        pure (.tokens t.name (takeQuantifier rest).1 (t.kind = .classRef) :: more)) := by
  rcases h with h | h <;> rw [compileSymbols, h]

theorem compileSymbols_emptyGroup {opening close : Notation.Token} (ho : opening.kind = .groupOpen)
    (hc : close.kind = .groupClose) (after : List Notation.Token) :
    compileSymbols header (opening :: close :: after) =
      (Compiled.mk [emptyGroupWarning opening close] (.ok ()) >>= fun _ =>
        compileSymbols header after) := by
  have empty : splitGroup 0 (close :: after) = some ([], close, after) :=
    splitGroup_nil_iff.mpr ⟨rfl, hc⟩
  rw [compileSymbols, ho]
  simp only
  split
  · next h => cases h.symm.trans empty
  · next h =>
      cases h.symm.trans empty
      rfl
  · next hn h => cases h.symm.trans empty; exact absurd rfl hn

theorem compileSymbols_group {opening close : Notation.Token}
    {rest inner after : List Notation.Token} (ho : opening.kind = .groupOpen)
    (hs : splitGroup 0 rest = some (inner, close, after)) (hi : inner ≠ []) :
    compileSymbols header (opening :: rest) =
      (compileBody header inner >>= fun alternatives => compileSymbols header after >>= fun more =>
        pure (.group alternatives :: more)) := by
  rw [compileSymbols, ho]
  simp only
  split
  · next h => cases h.symm.trans hs
  · next h => cases h.symm.trans hs; exact absurd rfl hi
  · next h =>
      cases h.symm.trans hs
      rfl

theorem compileSymbols_unclosed {opening : Notation.Token} {rest : List Notation.Token}
    (ho : opening.kind = .groupOpen) (hs : splitGroup 0 rest = none) :
    compileSymbols header (opening :: rest) =
      .fail (.unclosedGroup header.text opening.location) := by
  rw [compileSymbols, ho]
  simp only
  split
  · rfl
  · next h => cases h.symm.trans hs
  · next h => cases h.symm.trans hs

theorem compileSymbols_trivia {t : Notation.Token} (h : t.kind.isTrivia = true)
    (rest : List Notation.Token) :
    compileSymbols header (t :: rest) = compileSymbols header rest := by
  rw [compileSymbols]
  cases ht : t.kind <;> rw [ht] at h <;> first | rfl | cases h

theorem compileSymbols_refused {t : Notation.Token}
    (h : t.kind = .ignorationRef ∨ t.kind = .unexpectedFragment) (rest : List Notation.Token) :
    ∃ e, compileSymbols header (t :: rest) = .fail e := by
  rcases h with h | h
  · refine ⟨.illegalIgnorationReference t.name header.text t.location, ?_⟩
    rw [compileSymbols, h]
  · refine ⟨.unexpectedCharacters t.text t.location, ?_⟩
    rw [compileSymbols, h]

mutual

theorem BodyYields.compileBody_eq {body : List Notation.Token} {alternatives : List Alternative}
    {warnings : List Diagnostic} (h : BodyYields header body alternatives warnings) :
    compileBody header body = ⟨warnings, .ok alternatives⟩ := by
  match h with
  | .intro front ha =>
      rw [Recognizer.compileBody_eq front]
      exact ha.compileAlternatives_eq

theorem AlternativesYield.compileAlternatives_eq {parts : List (List Notation.Token)}
    {alternatives : List Alternative} {warnings : List Diagnostic}
    (h : AlternativesYield header parts alternatives warnings) :
    compileAlternatives header parts = ⟨warnings, .ok alternatives⟩ := by
  match h with
  | .nil => rw [compileAlternatives, Compiled.pure_eq]
  | .cons hs ho =>
      rw [compileAlternatives, hs.compileSymbols_eq, ho.compileAlternatives_eq]
      simp only [Compiled.bind_eq, Compiled.pure_eq, List.append_nil]

theorem SymbolsYield.compileSymbols_eq {tokens : List Notation.Token} {symbols : List Symbol}
    {warnings : List Diagnostic} (h : SymbolsYield header tokens symbols warnings) :
    compileSymbols header tokens = ⟨warnings, .ok symbols⟩ := by
  match h with
  | .nil => rw [compileSymbols, Compiled.pure_eq]
  | .single hs hr =>
      rw [compileSymbols_single hs, hr.compileSymbols_eq]
      simp only [Compiled.bind_eq, Compiled.pure_eq, List.append_nil]
  | .tokens hk hr =>
      rw [compileSymbols_tokens hk, hr.compileSymbols_eq]
      simp only [Compiled.bind_eq, Compiled.pure_eq, List.append_nil]
  | .emptyGroup ho hc hr =>
      rw [compileSymbols_emptyGroup ho hc, hr.compileSymbols_eq]
      simp only [Compiled.bind_eq, List.singleton_append]
  | .group ho hs hi hb hr =>
      rw [compileSymbols_group ho hs hi, hb.compileBody_eq, hr.compileSymbols_eq]
      simp only [Compiled.bind_eq, Compiled.pure_eq, List.append_nil]
  | .trivia ht hr => rw [compileSymbols_trivia ht, hr.compileSymbols_eq]

end

/-- What the tokens compile to is derived. -/
def SymbolsSound (header : Notation.Token) (tokens : List Notation.Token) : Prop :=
  ∀ symbols warnings, compileSymbols header tokens = ⟨warnings, .ok symbols⟩ →
    SymbolsYield header tokens symbols warnings

namespace SymbolsSound

variable {t opening close : Notation.Token} {rest inner after : List Notation.Token}

theorem single {symbol : Symbol} {own : List Diagnostic} (hs : Stands t symbol own)
    (hr : SymbolsSound header rest) : SymbolsSound header (t :: rest) := by
  intro symbols warnings h
  rw [compileSymbols_single hs] at h
  obtain ⟨_, _, _, ho, hn, rfl⟩ := Compiled.bind_eq_ok.mp h
  obtain ⟨more, _, _, hm, hp, rfl⟩ := Compiled.bind_eq_ok.mp hn
  cases ho
  cases hp
  rw [List.append_nil]
  exact .single hs (hr _ _ hm)

theorem tokens (hk : t.kind = .classRef ∨ t.kind = .name)
    (hr : SymbolsSound header (takeQuantifier rest).2) : SymbolsSound header (t :: rest) := by
  intro symbols warnings h
  rw [compileSymbols_tokens hk] at h
  obtain ⟨more, _, _, hm, hp, rfl⟩ := Compiled.bind_eq_ok.mp h
  cases hp
  rw [List.append_nil]
  exact .tokens hk (hr _ _ hm)

theorem emptyGroup (ho : opening.kind = .groupOpen) (hc : close.kind = .groupClose)
    (ha : SymbolsSound header after) : SymbolsSound header (opening :: close :: after) := by
  intro symbols warnings h
  rw [compileSymbols_emptyGroup ho hc] at h
  obtain ⟨_, _, _, hw, hm, rfl⟩ := Compiled.bind_eq_ok.mp h
  cases hw
  exact .emptyGroup ho hc (ha _ _ hm)

theorem group (ho : opening.kind = .groupOpen) (hs : splitGroup 0 rest = some (inner, close, after))
    (hi : inner ≠ [])
    (hb : ∀ alternatives warnings, compileBody header inner = ⟨warnings, .ok alternatives⟩ →
      BodyYields header inner alternatives warnings)
    (ha : SymbolsSound header after) : SymbolsSound header (opening :: rest) := by
  intro symbols warnings h
  rw [compileSymbols_group ho hs hi] at h
  obtain ⟨alternatives, _, _, hg, hn, rfl⟩ := Compiled.bind_eq_ok.mp h
  obtain ⟨more, _, _, hm, hp, rfl⟩ := Compiled.bind_eq_ok.mp hn
  cases hp
  rw [List.append_nil]
  exact .group ho hs hi (hb _ _ hg) (ha _ _ hm)

theorem unclosed (ho : opening.kind = .groupOpen) (hs : splitGroup 0 rest = none) :
    SymbolsSound header (opening :: rest) := by
  intro symbols warnings h
  rw [compileSymbols_unclosed ho hs] at h
  cases h

theorem refused (hk : t.kind = .ignorationRef ∨ t.kind = .unexpectedFragment) :
    SymbolsSound header (t :: rest) := by
  intro symbols warnings h
  obtain ⟨e, he⟩ : ∃ e, compileSymbols header (t :: rest) = .fail e := compileSymbols_refused hk rest
  cases he.symm.trans h

theorem trivia (ht : t.kind.isTrivia = true) (hr : SymbolsSound header rest) :
    SymbolsSound header (t :: rest) := by
  intro symbols warnings h
  rw [compileSymbols_trivia ht] at h
  exact .trivia ht (hr _ _ h)

end SymbolsSound

theorem yield_of_compile (header : Notation.Token) :
    (∀ body alternatives warnings, compileBody header body = ⟨warnings, .ok alternatives⟩ →
      BodyYields header body alternatives warnings) ∧
    (∀ parts alternatives warnings,
      compileAlternatives header parts = ⟨warnings, .ok alternatives⟩ →
        AlternativesYield header parts alternatives warnings) ∧
    ∀ tokens, SymbolsSound header tokens := by
  apply compileBody.mutual_induct header
  case case1 =>
    intro body first tail hf alternatives warnings h
    rw [compileBody, hf] at h
    cases h
  case case2 =>
    intro body hf ih alternatives warnings h
    have front : ∀ a ∈ alternativesOf body, isLeftRecursive header.text a = false := by
      intro a member
      rw [← Bool.not_eq_true]
      exact List.find?_eq_none.mp (find?_isLeftRecursive_eq_none hf) a member
    rw [compileBody_eq front] at h
    exact .intro front (ih _ _ h)
  case case3 =>
    intro alternatives warnings h
    rw [compileAlternatives] at h
    cases h
    exact .nil
  case case4 =>
    intro a rest iha ihr alternatives warnings h
    rw [compileAlternatives] at h
    obtain ⟨symbols, _, _, hs, hn, rfl⟩ := Compiled.bind_eq_ok.mp h
    obtain ⟨others, _, _, ho, hp, rfl⟩ := Compiled.bind_eq_ok.mp hn
    cases hp
    rw [List.append_nil]
    exact .cons (iha _ _ hs) (ihr _ _ ho)
  case case5 =>
    intro symbols warnings h
    rw [compileSymbols] at h
    cases h
    exact .nil
  case case6 => exact fun t rest hk ih => .single (.literal hk) ih
  case case7 => exact fun t rest hk ih => .tokens (.inl hk) ih
  case case8 => exact fun t rest hk ih => .tokens (.inr hk) ih
  case case9 => exact fun t rest hk ih => .single (.subrule hk) ih
  case case10 => exact fun t rest hk ih => .single (.definition hk) ih
  case case11 => exact fun t rest hk => .refused (.inl hk)
  case case12 => exact fun t rest hk hs => .unclosed hk hs
  case case13 =>
    intro opening rest ho close after hs ih
    obtain ⟨rfl, hc⟩ := splitGroup_nil_iff.mp hs
    exact .emptyGroup ho hc ih
  case case14 => exact fun _ _ ho _ _ _ hi hs ihb ihr => .group ho hs hi ihb ihr
  case case22 => exact fun t rest hk => .refused (.inr hk)
  case case23 | case24 => exact fun t rest hk ih => .trivia (by rw [hk]; rfl) ih
  -- What is left are the seven kinds that stray.
  all_goals exact fun t rest hk ih => .single (.stray (by rw [hk]; rfl)) ih

theorem compileBody_eq_iff {body : List Notation.Token} {alternatives : List Alternative}
    {warnings : List Diagnostic} :
    compileBody header body = ⟨warnings, .ok alternatives⟩ ↔
      BodyYields header body alternatives warnings :=
  ⟨(yield_of_compile header).1 body alternatives warnings, BodyYields.compileBody_eq⟩

/-- A line gives the rule that its first token names, with the alternatives of its body. -/
inductive LineYields : List Notation.Token → Recognizer → List Diagnostic → Prop
  | intro {header assignment : Notation.Token} {body alternatives warnings} :
      (∀ t ∈ header :: assignment :: body, t.kind ≠ .unexpectedFragment) →
      header.kind = .name → assignment.kind = .assignment →
      BodyYields header (dropTerminator body) alternatives warnings →
      LineYields (header :: assignment :: body) ⟨header.text, alternatives⟩ warnings

theorem splitHeader_eq_ok {stop : Location} {tokens body : List Notation.Token} :
    splitHeader stop tokens = .ok (header, body) ↔
      header.kind = .name ∧ ∃ assignment : Notation.Token,
        assignment.kind = .assignment ∧ tokens = header :: assignment :: body := by
  rcases tokens with _ | ⟨first, _ | ⟨second, rest⟩⟩
  · simp [splitHeader]
  · by_cases hn : first.kind = .name <;> simp [splitHeader, hn]
  · by_cases hn : first.kind = .name
    · by_cases ha : second.kind = .assignment
      · simp only [splitHeader, hn, ha, ne_eq, not_true_eq_false, if_false, Except.ok.injEq,
          Prod.mk.injEq, List.cons.injEq]
        constructor
        · rintro ⟨rfl, rfl⟩
          exact ⟨hn, second, ha, rfl, rfl, rfl⟩
        · rintro ⟨-, _, -, rfl, -, rfl⟩
          exact ⟨rfl, rfl⟩
      · simp only [splitHeader, hn, ha, ne_eq, not_true_eq_false, not_false_eq_true, if_false,
          if_true, reduceCtorEq, List.cons.injEq, false_iff, not_and, not_exists]
        rintro - _ ha' - rfl
        exact absurd ha' ha
    · simp only [splitHeader, hn, ne_eq, not_false_eq_true, if_true, reduceCtorEq, List.cons.injEq,
        false_iff, not_and, not_exists]
      rintro hn' _ - rfl
      exact absurd hn' hn

theorem ofTokens_eq_iff {stop : Location} {tokens : List Notation.Token} {r : Recognizer}
    {warnings : List Diagnostic} :
    ofTokens stop tokens = ⟨warnings, .ok r⟩ ↔ LineYields tokens r warnings := by
  unfold ofTokens
  constructor
  · intro h
    split at h
    · cases h
    · next hf =>
        split at h
        · cases h
        · next header body hh =>
            obtain ⟨hn, assignment, ha, rfl⟩ := splitHeader_eq_ok.mp hh
            obtain ⟨alternatives, _, _, hb, hp, rfl⟩ := Compiled.bind_eq_ok.mp h
            cases hp
            rw [List.append_nil]
            refine .intro ?_ hn ha (compileBody_eq_iff.mp hb)
            intro t member
            simpa using List.find?_eq_none.mp hf t member
  · rintro ⟨clean, hn, ha, hb⟩
    rw [List.find?_eq_none.mpr fun t member => by simpa using clean t member,
      splitHeader_eq_ok.mpr ⟨hn, _, ha, rfl⟩]
    simp only [compile, hb.compileBody_eq, Compiled.bind_eq, Compiled.pure_eq, List.append_nil]

end Recognizer

end TokenGrammar
