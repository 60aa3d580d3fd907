import TokenGrammar.Proofs.Recognizer.Groups

/-!
# Which lines compile

A line is legal if it is built as a rule, its groups are closed, it holds no reference to an ignored
class, and no alternative at any depth starts with the rule's own name. Main statement: if no bracket is
closed that was not opened, exactly the legal lines compile.
-/
namespace TokenGrammar

/-- The kind of the token that stands for a quantifier. -/
def Quantifier.signs : Quantifier → List Notation.Kind
  | one => []
  | optional => [.optional]
  | zeroOrMore => [.zeroOrMore]
  | oneOrMore => [.oneOrMore]

namespace Recognizer

/-- By such a token in front of an alternative a rule would invoke itself. -/
def NamesRule (rule : String) (t : Notation.Token) : Prop :=
  (t.kind = .literal ∧ t.literalValue = rule) ∨ ((t.kind = .subruleRef ∨ t.kind = .name) ∧ t.name = rule)

/-- No alternative of these tokens starts with the rule itself. -/
def NoneNames (rule : String) (ts : List Notation.Token) : Prop :=
  ∀ t, StartsAlternative ts t → ¬ NamesRule rule t

/-- What a rule's body has to satisfy. -/
structure LegalBody (rule : String) (body : List Notation.Token) : Prop where
  closed : AllClosed body
  references : ∀ t ∈ body, t.kind ≠ .ignorationRef
  fronts : ∀ part, part = body ∨ HasGroup body part → NoneNames rule part

/-- The tokens are a rule's name, an assignment and the body, with or without a `;` behind it. -/
def IsRule (header : Notation.Token) (body tokens : List Notation.Token) : Prop :=
  ∃ assignment rest, tokens = header :: assignment :: rest ∧ header.kind = .name ∧
    assignment.kind = .assignment ∧ body = dropTerminator rest

def LegalLine (tokens : List Notation.Token) : Prop :=
  (∀ t ∈ tokens, t.kind ≠ .unexpectedFragment) ∧
    ∃ header body, IsRule header body tokens ∧ LegalBody header.text body

variable {header t : Notation.Token} {ts body : List Notation.Token} {rule : String}

theorem isLeftRecursive_iff_namesRule (rule : String) (t : Notation.Token)
    (rest : List Notation.Token) : isLeftRecursive rule (t :: rest) = true ↔ NamesRule rule t := by
  rw [isLeftRecursive, NamesRule]
  split
  · next hk => simp [hk]
  · next hk => simp [hk]
  · next hk => simp [hk]
  · next hl hs hn =>
      refine iff_of_false Bool.false_ne_true ?_
      rintro (⟨hk, -⟩ | ⟨hk | hk, -⟩)
      · exact hl hk
      · exact hs hk
      · exact hn hk

/-- Where brackets match, the check of the split alternatives is the one of their first tokens. -/
theorem noneNames_iff (h : Nested true body) :
    NoneNames rule body ↔ ∀ a ∈ alternativesOf body, isLeftRecursive rule a = false := by
  constructor
  · intro none a member
    cases a with
    | nil => rfl
    | cons t rest =>
        have start : StartsAlternative body t := (startsAlternative_iff h).mpr ⟨rest, member⟩
        rw [← Bool.not_eq_true, isLeftRecursive_iff_namesRule]
        exact none t start
  · intro fronts t start
    obtain ⟨rest, member⟩ := (startsAlternative_iff h).mp start
    rw [← isLeftRecursive_iff_namesRule rule t rest, fronts _ member]
    exact Bool.false_ne_true

theorem noneNames_nil (rule : String) : NoneNames rule [] := by
  rintro t ⟨-, ⟨_, h⟩ | ⟨front, _, _, h, -⟩⟩
  · cases h
  · cases front <;> cases h

theorem legalBody_iff : LegalBody rule body ↔
    EveryGroup (NoneNames rule) body ∧ (∀ t ∈ body, t.kind ≠ .ignorationRef) ∧ NoneNames rule body := by
  constructor
  · intro h
    refine ⟨fun opening behind own ho => ?_, h.references, h.fronts body (.inl rfl)⟩
    obtain ⟨inner, hi⟩ := h.closed opening behind own ho
    exact ⟨inner, hi, h.fronts inner (.inr ⟨opening, behind, own, ho, hi⟩)⟩
  · rintro ⟨groups, references, front⟩
    refine ⟨groups.allClosed, references, ?_⟩
    rintro part (rfl | hg)
    · exact front
    · exact groups.of_hasGroup hg

/-- A quantifier takes the tokens that stand for it. -/
theorem takeQuantifier_eq (ts : List Notation.Token) :
    ∃ signs, ts = signs ++ (takeQuantifier ts).2 ∧
      signs.map Notation.Token.kind = (takeQuantifier ts).1.signs ∧
      ∀ t ∈ signs, t.kind.isQuantifier = true := by
  have single {t : Notation.Token} {kind : Notation.Kind} (ht : t.kind = kind)
      (hk : kind.isQuantifier = true) :
      [t].map Notation.Token.kind = [kind] ∧ ∀ u ∈ [t], u.kind.isQuantifier = true :=
    ⟨congrArg (fun kind => [kind]) ht, List.forall_mem_singleton.mpr (ht ▸ hk)⟩
  cases ts with
  | nil => exact ⟨[], rfl, rfl, nofun⟩
  | cons t rest =>
      rw [takeQuantifier]
      split
      · next ht => exact ⟨[t], rfl, single ht rfl⟩
      · next ht => exact ⟨[t], rfl, single ht rfl⟩
      · next ht => exact ⟨[t], rfl, single ht rfl⟩
      · exact ⟨[], rfl, rfl, nofun⟩

/-- Every group is closed and starts no alternative with the rule, and nothing ignored is referenced. -/
structure Settled (rule : String) (ts : List Notation.Token) : Prop where
  groups : EveryGroup (NoneNames rule) ts
  references : ∀ t ∈ ts, t.kind ≠ .ignorationRef

namespace Settled

variable {us inner after : List Notation.Token} {opening close : Notation.Token}

theorem nil : Settled rule [] := ⟨.nil, nofun⟩

theorem cons (h : Settled rule ts) (ho : t.kind ≠ .groupOpen) (hi : t.kind ≠ .ignorationRef) :
    Settled rule (t :: ts) :=
  ⟨h.groups.cons ho, List.forall_mem_cons.mpr ⟨hi, h.references⟩⟩

theorem append (h : Settled rule ts) (hu : Settled rule us) : Settled rule (ts ++ us) :=
  ⟨h.groups.append hu.groups, List.forall_mem_append.mpr ⟨h.references, hu.references⟩⟩

theorem group (h : Settled rule inner) (hn : Nested true inner) (none : NoneNames rule inner)
    (ho : opening.kind = .groupOpen) (hc : close.kind = .groupClose) (ha : Settled rule after) :
    Settled rule (opening :: (inner ++ close :: after)) := by
  refine ⟨h.groups.group hn none hc ha.groups opening, ?_⟩
  have opens : opening.kind ≠ .ignorationRef := ne_of_eq_of_ne ho (by decide)
  have closes : close.kind ≠ .ignorationRef := ne_of_eq_of_ne hc (by decide)
  exact List.forall_mem_cons.mpr ⟨opens, List.forall_mem_append.mpr
    ⟨h.references, List.forall_mem_cons.mpr ⟨closes, ha.references⟩⟩⟩

/-- A quantifier is no bracket and no reference. -/
theorem of_takeQuantifier (h : Settled rule (takeQuantifier ts).2) : Settled rule ts := by
  obtain ⟨signs, whole, -, plain⟩ := takeQuantifier_eq ts
  rw [whole]
  clear whole
  induction signs with
  | nil => exact h
  | cons t signs ih =>
      obtain ⟨own, others⟩ := List.forall_mem_cons.mp plain
      refine (ih others).cons ?_ ?_ <;>
        exact ne_of_apply_ne Notation.Kind.isQuantifier (ne_of_eq_of_ne own (by decide))

theorem of_joined {parts : List (List Notation.Token)} (h : Joined parts body)
    (hp : ∀ a ∈ parts, Settled rule a) : Settled rule body := by
  induction h with
  | last a => exact hp a List.mem_cons_self
  | @cons a bar _ _ hb _ ih =>
      obtain ⟨own, others⟩ := List.forall_mem_cons.mp hp
      refine own.append ((ih others).cons ?_ ?_) <;> exact ne_of_eq_of_ne hb (by decide)

end Settled

theorem Stands.kind_ne_ignorationRef {symbol : Symbol} {own : List Diagnostic} (h : Stands t symbol own) :
    t.kind ≠ .ignorationRef := by
  cases h with
  | literal hk | subrule hk | definition hk => exact ne_of_eq_of_ne hk (by decide)
  | stray hk => exact ne_of_apply_ne Notation.Kind.isStray (ne_of_eq_of_ne hk (by decide))

theorem BodyYields.noneNames {body : List Notation.Token} {alternatives : List Alternative}
    {warnings : List Diagnostic} (h : BodyYields header body alternatives warnings)
    (hn : Nested true body) : NoneNames header.text body := by
  obtain ⟨front, -⟩ := h
  exact (noneNames_iff hn).mpr front

mutual

theorem BodyYields.settled {body : List Notation.Token} {alternatives : List Alternative}
    {warnings : List Diagnostic} (h : BodyYields header body alternatives warnings) :
    Settled header.text body := by
  match h with
  | .intro _ ha => exact .of_joined (joined_alternativesOf body) ha.settled

theorem AlternativesYield.settled {parts : List (List Notation.Token)} {alternatives : List Alternative}
    {warnings : List Diagnostic} (h : AlternativesYield header parts alternatives warnings) :
    ∀ a ∈ parts, Settled header.text a := by
  match h with
  | .nil => exact nofun
  | .cons hs ho => exact List.forall_mem_cons.mpr ⟨hs.settled, ho.settled⟩

theorem SymbolsYield.settled {tokens : List Notation.Token} {symbols : List Symbol}
    {warnings : List Diagnostic} (h : SymbolsYield header tokens symbols warnings) :
    Settled header.text tokens := by
  match h with
  | .nil => exact .nil
  | .single hs hr => exact hr.settled.cons hs.kind_ne_groupOpen hs.kind_ne_ignorationRef
  | .tokens hk hr =>
      refine hr.settled.of_takeQuantifier.cons (ne_groupOpen_of_class hk) ?_
      rcases hk with hk | hk <;> exact ne_of_eq_of_ne hk (by decide)
  | .emptyGroup ho hc hr => exact Settled.nil.group .nil (noneNames_nil _) ho hc hr.settled
  | .group ho hs _ hb hr =>
      have nested := nested_of_splitGroup _ hs
      obtain rfl := splitGroup_eq hs
      exact hb.settled.group nested (hb.noneNames nested) ho (kind_of_splitGroup hs) hr.settled
  | .trivia ht hr =>
      refine hr.settled.cons ?_ ?_ <;>
        exact ne_of_apply_ne Notation.Kind.isTrivia (ne_of_eq_of_ne ht (by decide))

end

/-- Brackets match in what compiles, except for closing ones that nothing opened. -/
theorem BodyYields.nested {body : List Notation.Token} {alternatives : List Alternative}
    {warnings : List Diagnostic} (h : BodyYields header body alternatives warnings)
    (opened : AllOpened body) : Nested true body :=
  nested_of_allClosed body h.settled.groups.allClosed opened

theorem Nested.takeQuantifier (h : Nested false ts) : Nested false (takeQuantifier ts).2 := by
  cases h with
  | nil => exact .nil
  | plain ho hc ha hr =>
      rw [Recognizer.takeQuantifier]
      split
      · exact hr
      · exact hr
      · exact hr
      · exact .plain ho hc ha hr
  | group ho hc hn hr =>
      rw [Recognizer.takeQuantifier, ho]
      exact .group ho hc hn hr

/-- Nothing in the tokens keeps them from compiling, if their brackets match. -/
structure Lawful (rule : String) (ts : List Notation.Token) : Prop where
  references : ∀ t ∈ ts, t.kind ≠ .ignorationRef
  expected : ∀ t ∈ ts, t.kind ≠ .unexpectedFragment
  fronts : ∀ inner, HasGroup ts inner → NoneNames rule inner

theorem Lawful.mono (h : Lawful rule ts) {part : List Notation.Token} (own : part <:+: ts) :
    Lawful rule part where
  references t member := h.references t (own.subset member)
  expected t member := h.expected t (own.subset member)
  fronts inner hg := h.fronts inner (hg.mono own)

theorem exists_alternativesYield {parts : List (List Notation.Token)}
    (h : ∀ a ∈ parts, ∃ symbols warnings, SymbolsYield header a symbols warnings) :
    ∃ alternatives warnings, AlternativesYield header parts alternatives warnings := by
  induction parts with
  | nil => exact ⟨[], [], .nil⟩
  | cons a rest ih =>
      obtain ⟨⟨symbols, warnings, own⟩, others⟩ := List.forall_mem_cons.mp h
      obtain ⟨alternatives, more, later⟩ := ih others
      exact ⟨symbols :: alternatives, warnings ++ more, .cons own later⟩

theorem exists_bodyYields (hn : Nested true body) (none : NoneNames header.text body)
    (h : ∀ a ∈ alternativesOf body, ∃ symbols warnings, SymbolsYield header a symbols warnings) :
    ∃ alternatives warnings, BodyYields header body alternatives warnings := by
  obtain ⟨alternatives, warnings, parts⟩ := exists_alternativesYield h
  exact ⟨alternatives, warnings, .intro ((noneNames_iff hn).mp none) parts⟩

/-- A token that opens no group and may stand in a body is compiled with what follows. -/
theorem exists_symbolsYield_cons {rest : List Notation.Token} (hi : t.kind ≠ .ignorationRef)
    (hu : t.kind ≠ .unexpectedFragment) (ho : t.kind ≠ .groupOpen)
    (more : ∃ symbols warnings, SymbolsYield header rest symbols warnings)
    (taken : ∃ symbols warnings, SymbolsYield header (takeQuantifier rest).2 symbols warnings) :
    ∃ symbols warnings, SymbolsYield header (t :: rest) symbols warnings := by
  obtain ⟨symbols, warnings, hm⟩ := more
  cases hk : t.kind with
  | literal => exact ⟨_, _, .single (.literal hk) hm⟩
  | subruleRef => exact ⟨_, _, .single (.subrule hk) hm⟩
  | definitionRef => exact ⟨_, _, .single (.definition hk) hm⟩
  | classRef =>
      obtain ⟨_, _, ht⟩ := taken
      exact ⟨_, _, .tokens (.inl hk) ht⟩
  | name =>
      obtain ⟨_, _, ht⟩ := taken
      exact ⟨_, _, .tokens (.inr hk) ht⟩
  | whitespace | lineComment => exact ⟨_, _, .trivia (by rw [hk]; rfl) hm⟩
  | ignorationRef => exact absurd hk hi
  | unexpectedFragment => exact absurd hk hu
  | groupOpen => exact absurd hk ho
  | groupClose | alternator | optional | zeroOrMore | oneOrMore | assignment | terminator =>
      exact ⟨_, _, .single (.stray (by rw [hk]; rfl)) hm⟩

theorem exists_symbolsYield (tokens : List Notation.Token) (h : Nested false tokens)
    (lawful : Lawful header.text tokens) :
    ∃ symbols warnings, SymbolsYield header tokens symbols warnings := by
  match h with
  | .nil => exact ⟨[], [], .nil⟩
  | @Nested.plain _ t rest ho _ _ hr =>
      have behind := takeQuantifier_suffix rest
      have shorter := behind.length_le
      have more := exists_symbolsYield rest hr (lawful.mono (List.suffix_cons t rest).isInfix)
      have taken := exists_symbolsYield (takeQuantifier rest).2 hr.takeQuantifier
        (lawful.mono (behind.trans (List.suffix_cons t rest)).isInfix)
      exact exists_symbolsYield_cons (lawful.references t List.mem_cons_self)
        (lawful.expected t List.mem_cons_self) ho more taken
  | @Nested.group _ opening inner close after ho hc hi ha =>
      have within : inner <:+: opening :: (inner ++ close :: after) :=
        ⟨[opening], close :: after, by rw [List.singleton_append, List.cons_append]⟩
      have behind : after <:+: opening :: (inner ++ close :: after) :=
        (((List.suffix_cons close after).trans (List.suffix_append inner _)).trans
          (List.suffix_cons opening _)).isInfix
      obtain ⟨symbols, more, hr⟩ := exists_symbolsYield after ha (lawful.mono behind)
      by_cases empty : inner = []
      · subst empty
        exact ⟨_, _, .emptyGroup ho hc hr⟩
      · have none : NoneNames header.text inner := lawful.fronts inner
          ⟨opening, _, List.suffix_refl _, ho, close, after, rfl, hc, hi⟩
        obtain ⟨alternatives, warnings, hb⟩ := exists_bodyYields hi none fun a member =>
          have part := infix_of_mem_alternativesOf member
          have shorter := part.length_le
          exists_symbolsYield a (hi.nested_of_mem_alternativesOf member) (lawful.mono (part.trans within))
        exact ⟨_, _, .group ho (hi.splitGroup_eq_some hc after) empty hb hr⟩
termination_by tokens.length
decreasing_by all_goals simp only [List.length_cons, List.length_append]; omega

theorem exists_bodyYields_iff (opened : AllOpened body)
    (expected : ∀ t ∈ body, t.kind ≠ .unexpectedFragment) :
    (∃ alternatives warnings, BodyYields header body alternatives warnings) ↔
      LegalBody header.text body := by
  rw [legalBody_iff]
  constructor
  · rintro ⟨alternatives, warnings, h⟩
    exact ⟨h.settled.groups, h.settled.references, h.noneNames (h.nested opened)⟩
  · rintro ⟨groups, references, none⟩
    have nested := nested_of_allClosed body groups.allClosed opened
    have lawful : Lawful header.text body := ⟨references, expected, fun _ => groups.of_hasGroup⟩
    exact exists_bodyYields nested none fun a member => exists_symbolsYield a
      (nested.nested_of_mem_alternativesOf member) (lawful.mono (infix_of_mem_alternativesOf member))

theorem exists_lineYields_iff {tokens : List Notation.Token}
    (opened : ∀ header body, IsRule header body tokens → AllOpened body) :
    (∃ r warnings, LineYields tokens r warnings) ↔ LegalLine tokens := by
  constructor
  · rintro ⟨r, warnings, h⟩
    match h with
    | @LineYields.intro header assignment rest _ _ clean hn ha hb =>
        have rule : IsRule header (dropTerminator rest) (header :: assignment :: rest) :=
          ⟨assignment, rest, rfl, hn, ha, rfl⟩
        refine ⟨clean, header, dropTerminator rest, rule, ?_⟩
        refine (exists_bodyYields_iff (opened _ _ rule) fun t member => clean t ?_).mp ⟨_, _, hb⟩
        have own := (dropTerminator_isPrefix rest).subset member
        exact List.mem_cons_of_mem _ (List.mem_cons_of_mem _ own)
  · rintro ⟨clean, header, body, rule, legal⟩
    have allOpened := opened header body rule
    obtain ⟨assignment, rest, rfl, hn, ha, rfl⟩ := rule
    obtain ⟨alternatives, warnings, hb⟩ := (exists_bodyYields_iff allOpened fun t member => clean t
      (List.mem_cons_of_mem _ (List.mem_cons_of_mem _ ((dropTerminator_isPrefix rest).subset member)))).mpr
      legal
    exact ⟨_, _, .intro clean hn ha hb⟩

/-- If no bracket of a rule's body is closed that was not opened, exactly the legal lines compile; any
other line fails with an error. -/
theorem ofLine_accepts_iff (origin : Place) (line : List Char)
    (opened : ∀ header body, IsRule header body (Notation.scan origin line) → AllOpened body) :
    ((∃ r, (ofLine origin line).result = .ok r) ↔ LegalLine (Notation.scan origin line)) ∧
      ((∃ e, (ofLine origin line).result = .error e) ↔ ¬ LegalLine (Notation.scan origin line)) := by
  have accepted : (∃ r, (ofLine origin line).result = .ok r) ↔
      LegalLine (Notation.scan origin line) := by
    rw [← exists_lineYields_iff opened]
    constructor
    · rintro ⟨r, h⟩
      exact ⟨r, _, lineYields_of_ofLine h⟩
    · rintro ⟨r, warnings, h⟩
      exact ⟨r, congrArg Compiled.result (ofTokens_eq_iff.mpr h)⟩
  refine ⟨accepted, ?_⟩
  rw [← accepted]
  cases (ofLine origin line).result with
  | error e => simp
  | ok r => simp

/-- The line `A = (.n | @A);` -/
theorem not_legalLine_of_group_selfReference :
    ¬ LegalLine (Notation.scan .start "A = (.n | @A);".toList) := by
  have scanned : Notation.scan .start "A = (.n | @A);".toList =
      [⟨.name, "A", ⟨⟨0, 1⟩, ⟨1, 1⟩⟩⟩, ⟨.assignment, "=", ⟨⟨2, 3⟩, ⟨1, 3⟩⟩⟩,
        ⟨.groupOpen, "(", ⟨⟨4, 5⟩, ⟨1, 5⟩⟩⟩, ⟨.classRef, ".n", ⟨⟨5, 7⟩, ⟨1, 6⟩⟩⟩,
        ⟨.alternator, "|", ⟨⟨8, 9⟩, ⟨1, 9⟩⟩⟩, ⟨.subruleRef, "@A", ⟨⟨10, 12⟩, ⟨1, 11⟩⟩⟩,
        ⟨.groupClose, ")", ⟨⟨12, 13⟩, ⟨1, 13⟩⟩⟩, ⟨.terminator, ";", ⟨⟨13, 14⟩, ⟨1, 14⟩⟩⟩] := by
    decide +kernel
  refine (ofLine_accepts_iff .start "A = (.n | @A);".toList ?_).2.mp
    ⟨.leftRecursion "A" ⟨⟨10, 12⟩, ⟨1, 11⟩⟩ ⟨⟨0, 1⟩, ⟨1, 1⟩⟩, ?_⟩
  · rintro header body ⟨assignment, rest, tokens, -, -, rfl⟩
    cases scanned.symm.trans tokens
    decide
  · rw [ofLine, scanned]
    generalize (Place.after .start _).covering [] = stop
    cbv

end Recognizer

end TokenGrammar
