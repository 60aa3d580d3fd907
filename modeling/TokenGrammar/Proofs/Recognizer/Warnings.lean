import TokenGrammar.Proofs.Notation.Coverage
import TokenGrammar.Proofs.Recognizer.Accounting

/-!
# Warnings

A line that compiles is warned about where a token strays and where a group is empty, as the compiler comes to
it, at any depth of groups. Main statement: the warnings are in the order of the line, and there is one for
each stray symbol of the recognizer and one for each empty pair of brackets in the line, and no other.
-/
namespace TokenGrammar

/-- The warning points at the stray token, and has a hint just if this is a quantifier. -/
structure Diagnostic.IsOfStray (w : Diagnostic) (t : Notation.Token) : Prop where
  kind : w.kind = .straySymbol
  span : w.span = t.location.span
  hints : w.hints = if t.kind = .optional ∨ t.kind = .zeroOrMore ∨ t.kind = .oneOrMore then
    ["quantifiers only apply to class references"] else []

/-- The warning reaches from the start of the opening bracket to the end of the closing one. -/
structure Diagnostic.IsOfEmptyGroup (w : Diagnostic) (brackets : Notation.Token × Notation.Token) : Prop where
  kind : w.kind = .emptyGroup
  span : w.span = ⟨brackets.1.location.span.start, brackets.2.location.span.stop⟩

namespace Recognizer

/-- Each `(` with the `)` that directly follows it. -/
def emptyGroups (tokens : List Notation.Token) : List (Notation.Token × Notation.Token) :=
  (tokens.zip tokens.tail).filter fun pair => pair.1.kind = .groupOpen ∧ pair.2.kind = .groupClose

variable {header t opening close : Notation.Token} {ts us strays more : List Notation.Token}
  {warnings others : List Diagnostic}

theorem isOfStray_strayWarning (t : Notation.Token) : (strayWarning t).IsOfStray t where
  kind := rfl
  span := rfl
  hints := by cases hk : t.kind <;> simp [strayWarning, Diagnostic.report, Diagnostic.Kind.hint?,
    Notation.Kind.isQuantifier, hk]

theorem isOfEmptyGroup_emptyGroupWarning (opening close : Notation.Token) :
    (emptyGroupWarning opening close).IsOfEmptyGroup (opening, close) := ⟨rfl, rfl⟩

theorem emptyGroups_cons_cons (t u : Notation.Token) (ts : List Notation.Token) :
    emptyGroups (t :: u :: ts) =
      (if t.kind = .groupOpen ∧ u.kind = .groupClose then [(t, u)] else []) ++ emptyGroups (u :: ts) := by
  by_cases empty : t.kind = .groupOpen ∧ u.kind = .groupClose
  · simp [emptyGroups, empty]
  · simp [emptyGroups, empty]

/-- No empty group starts with a token that opens none, or that something else than a `)` follows. -/
theorem emptyGroups_cons (h : t.kind = .groupOpen → ∀ u ∈ ts.head?, u.kind ≠ .groupClose) :
    emptyGroups (t :: ts) = emptyGroups ts := by
  cases ts with
  | nil => rfl
  | cons u ts =>
      rw [emptyGroups_cons_cons, if_neg, List.nil_append]
      rintro ⟨ho, hc⟩
      exact h ho u rfl hc

theorem emptyGroups_append (h : ∀ t ∈ ts.getLast?, t.kind ≠ .groupOpen) (us : List Notation.Token) :
    emptyGroups (ts ++ us) = emptyGroups ts ++ emptyGroups us := by
  induction ts with
  | nil => rfl
  | cons t ts ih =>
      cases ts with
      | nil => exact emptyGroups_cons fun ho => absurd ho (h t rfl)
      | cons u ts =>
          have rest := ih h
          rw [List.cons_append] at rest
          rw [List.cons_append, List.cons_append, emptyGroups_cons_cons, emptyGroups_cons_cons, rest,
            List.append_assoc]

/-- The warnings are about these stray tokens and the empty groups among the tokens, and in their order. -/
structure Warned (ts strays : List Notation.Token) (warnings : List Diagnostic) : Prop where
  starts : (warnings.map (·.span.start)).Sublist (ts.map (·.location.span.start))
  strays : warnings.filter (·.kind = .straySymbol) = strays.map strayWarning
  groups : warnings.filter (·.kind = .emptyGroup) =
    (emptyGroups ts).map fun pair => emptyGroupWarning pair.1 pair.2
  kinds : ∀ w ∈ warnings, w.kind = .straySymbol ∨ w.kind = .emptyGroup

namespace Warned

theorem nil : Warned [] [] [] := ⟨.slnil, rfl, rfl, nofun⟩

/-- Nothing is told of a token that strays not and starts no empty group. -/
theorem cons (h : Warned ts strays warnings)
    (ht : t.kind = .groupOpen → ∀ u ∈ ts.head?, u.kind ≠ .groupClose) :
    Warned (t :: ts) strays warnings where
  starts := h.starts.cons _
  strays := h.strays
  groups := by rw [emptyGroups_cons ht, h.groups]
  kinds := h.kinds

theorem stray (h : Warned ts strays warnings) (ht : t.kind ≠ .groupOpen) :
    Warned (t :: ts) (t :: strays) (strayWarning t :: warnings) where
  starts := h.starts.cons_cons _
  strays := congrArg (strayWarning t :: ·) h.strays
  groups := by
    rw [emptyGroups_cons fun ho => absurd ho ht]
    exact h.groups
  kinds := List.forall_mem_cons.mpr ⟨.inl rfl, h.kinds⟩

theorem emptyGroup (h : Warned ts strays warnings) (ho : opening.kind = .groupOpen)
    (hc : close.kind = .groupClose) :
    Warned (opening :: close :: ts) strays (emptyGroupWarning opening close :: warnings) where
  starts := (h.starts.cons _).cons_cons _
  strays := h.strays
  groups := by
    have other : close.kind ≠ .groupOpen := ne_of_eq_of_ne hc (by decide)
    rw [emptyGroups_cons_cons, if_pos ⟨ho, hc⟩, emptyGroups_cons fun ho => absurd ho other]
    exact congrArg (emptyGroupWarning opening close :: ·) h.groups
  kinds := List.forall_mem_cons.mpr ⟨.inr rfl, h.kinds⟩

theorem append (h : Warned ts strays warnings) (h' : Warned us more others)
    (last : ∀ t ∈ ts.getLast?, t.kind ≠ .groupOpen) :
    Warned (ts ++ us) (strays ++ more) (warnings ++ others) where
  starts := by
    rw [List.map_append, List.map_append]
    exact h.starts.append h'.starts
  strays := by rw [List.filter_append, h.strays, h'.strays, List.map_append]
  groups := by rw [List.filter_append, h.groups, h'.groups, emptyGroups_append last, List.map_append]
  kinds := List.forall_mem_append.mpr ⟨h.kinds, h'.kinds⟩

/-- Tokens that open no group and do not stray are passed over. -/
theorem silent_append {silent : List Notation.Token} (plain : ∀ t ∈ silent, t.kind ≠ .groupOpen)
    (h : Warned ts strays warnings) : Warned (silent ++ ts) strays warnings := by
  induction silent with
  | nil => exact h
  | cons t silent ih =>
      obtain ⟨own, rest⟩ := List.forall_mem_cons.mp plain
      exact (ih rest).cons fun ho => absurd ho own

end Warned

theorem Stands.warned {symbol : Symbol} {own : List Diagnostic} (hs : Stands t symbol own)
    (h : Warned ts strays warnings) : Warned (t :: ts) (symbol.strays ++ strays) (own ++ warnings) := by
  have other := hs.kind_ne_groupOpen
  cases hs with
  | literal | subrule | definition => exact h.cons fun ho => absurd ho other
  | stray => exact h.stray other

mutual

theorem BodyYields.warned {body : List Notation.Token} {alternatives : List Alternative}
    {warnings : List Diagnostic} (h : BodyYields header body alternatives warnings) :
    Warned body (straysOfAlternatives alternatives) warnings := by
  match h with
  | .intro _ ha => exact ha.warned body (joined_alternativesOf body)

theorem AlternativesYield.warned {parts : List (List Notation.Token)} {alternatives : List Alternative}
    {warnings : List Diagnostic} (h : AlternativesYield header parts alternatives warnings) :
    ∀ body, Joined parts body → Warned body (straysOfAlternatives alternatives) warnings := by
  match h with
  | .nil => exact nofun
  | .cons hs ho =>
      intro body joined
      cases joined with
      | last a =>
          cases ho
          rw [straysOfAlternatives, straysOfAlternatives, List.append_nil, List.append_nil]
          exact hs.warned
      | cons hb joined =>
          have bar : _ ≠ Notation.Kind.groupOpen := ne_of_eq_of_ne hb (by decide)
          have rest := (ho.warned _ joined).cons fun ho => absurd ho bar
          exact hs.warned.append rest hs.settled.groups.allClosed.getLast?

theorem SymbolsYield.warned {tokens : List Notation.Token} {symbols : List Symbol}
    {warnings : List Diagnostic} (h : SymbolsYield header tokens symbols warnings) :
    Warned tokens (straysOfSymbols symbols) warnings := by
  match h with
  | .nil => exact .nil
  | .single hs hr => exact hs.warned hr.warned
  | @SymbolsYield.tokens _ t rest _ _ hk hr =>
      obtain ⟨signs, whole, -, plain⟩ := takeQuantifier_eq rest
      have silent : ∀ u ∈ signs, u.kind ≠ .groupOpen := fun u member =>
        ne_of_apply_ne Notation.Kind.isQuantifier (ne_of_eq_of_ne (plain u member) (by decide))
      have behind := hr.warned.silent_append silent
      rw [← whole] at behind
      exact behind.cons fun ho => absurd ho (ne_groupOpen_of_class hk)
  | .emptyGroup ho hc hr => exact hr.warned.emptyGroup ho hc
  | @SymbolsYield.group _ opening rest inner close after _ _ _ _ ho hs hi hb hr =>
      have hc : close.kind ≠ .groupOpen := ne_of_eq_of_ne (kind_of_splitGroup hs) (by decide)
      have first : ∀ u ∈ rest.head?, u.kind ≠ .groupClose := head_of_splitGroup hs hi
      obtain rfl := splitGroup_eq hs
      have behind := hr.warned.cons fun ho => absurd ho hc
      have contents := hb.warned.append behind hb.settled.groups.allClosed.getLast?
      exact contents.cons fun _ => first
  | .trivia ht hr =>
      have other : _ ≠ Notation.Kind.groupOpen :=
        ne_of_apply_ne Notation.Kind.isTrivia (ne_of_eq_of_ne ht (by decide))
      exact hr.warned.cons fun ho => absurd ho other

end

theorem dropTerminator_append_eq (body : List Notation.Token) :
    ∃ tail, body = dropTerminator body ++ tail ∧ ∀ t ∈ tail, t.kind = .terminator := by
  unfold dropTerminator
  cases hl : body.getLast? with
  | none => exact ⟨[], (List.append_nil body).symm, nofun⟩
  | some t =>
      by_cases ht : t.kind = .terminator
      · refine ⟨[t], ?_, List.forall_mem_singleton.mpr ht⟩
        obtain ⟨front, rfl⟩ := List.getLast?_eq_some_iff.mp hl
        simp [ht]
      · refine ⟨[], ?_, nofun⟩
        simp [ht]

theorem LineYields.warned {line : List Notation.Token} {r : Recognizer}
    (h : LineYields line r warnings) : Warned line (straysOfAlternatives r.alternatives) warnings := by
  match h with
  | @LineYields.intro header assignment body alternatives _ _ hn ha hb =>
      obtain ⟨tail, whole, ends⟩ := dropTerminator_append_eq body
      have silent : ∀ t ∈ tail, t.kind ≠ .groupOpen := fun t member =>
        ne_of_eq_of_ne (ends t member) (by decide)
      have behind := Warned.nil.silent_append silent
      have own := hb.warned.append behind hb.settled.groups.allClosed.getLast?
      rw [List.append_nil, List.append_nil, List.append_nil, ← whole] at own
      have header' : header.kind ≠ .groupOpen := ne_of_eq_of_ne hn (by decide)
      have assignment' : assignment.kind ≠ .groupOpen := ne_of_eq_of_ne ha (by decide)
      exact (own.cons fun ho => absurd ho assignment').cons fun ho => absurd ho header'

/-- The warnings about a line that compiles come in the order of the line. Those about strays are about the
stray symbols of the recognizer, one each and in their order at any depth, and those about empty groups are
about the pairs of an opening bracket and a closing one directly behind it; and there are no others. -/
theorem warnings_of_ofLine {origin : Place} {line : List Char} {r : Recognizer}
    (h : (ofLine origin line).result = .ok r) :
    ((ofLine origin line).warnings.map (·.span.start)).Pairwise (· < ·) ∧
    List.Forall₂ Diagnostic.IsOfStray
      ((ofLine origin line).warnings.filter (·.kind = .straySymbol))
      (straysOfAlternatives r.alternatives) ∧
    List.Forall₂ Diagnostic.IsOfEmptyGroup
      ((ofLine origin line).warnings.filter (·.kind = .emptyGroup))
      (emptyGroups (Notation.scan origin line)) ∧
    ∀ w ∈ (ofLine origin line).warnings, w.kind = .straySymbol ∨ w.kind = .emptyGroup := by
  have warned := (lineYields_of_ofLine h).warned
  refine ⟨?_, ?_, ?_, warned.kinds⟩
  · apply List.Pairwise.sublist warned.starts
    exact List.pairwise_map.mpr (Notation.pairwise_start_scan origin line)
  · rw [warned.strays, List.forall₂_map_left_iff, List.forall₂_same]
    exact fun t _ => isOfStray_strayWarning t
  · rw [warned.groups, List.forall₂_map_left_iff, List.forall₂_same]
    exact fun pair _ => isOfEmptyGroup_emptyGroupWarning pair.1 pair.2

/-- What the line `A = ()* (.x (() ?)) ) | .y;` compiles to. -/
def bracketed : Recognizer :=
  ⟨"A", [[.stray ⟨.zeroOrMore, "*", ⟨⟨6, 7⟩, ⟨1, 7⟩⟩⟩,
    .group [[.tokens "x" .one true, .group [[.stray ⟨.optional, "?", ⟨⟨16, 17⟩, ⟨1, 17⟩⟩⟩]]]],
    .stray ⟨.groupClose, ")", ⟨⟨20, 21⟩, ⟨1, 21⟩⟩⟩, .stray ⟨.alternator, "|", ⟨⟨22, 23⟩, ⟨1, 23⟩⟩⟩,
    .tokens "y" .one true]]⟩

theorem scan_bracketed : Notation.scan .start "A = ()* (.x (() ?)) ) | .y;".toList =
    [⟨.name, "A", ⟨⟨0, 1⟩, ⟨1, 1⟩⟩⟩, ⟨.assignment, "=", ⟨⟨2, 3⟩, ⟨1, 3⟩⟩⟩,
      ⟨.groupOpen, "(", ⟨⟨4, 5⟩, ⟨1, 5⟩⟩⟩, ⟨.groupClose, ")", ⟨⟨5, 6⟩, ⟨1, 6⟩⟩⟩,
      ⟨.zeroOrMore, "*", ⟨⟨6, 7⟩, ⟨1, 7⟩⟩⟩, ⟨.groupOpen, "(", ⟨⟨8, 9⟩, ⟨1, 9⟩⟩⟩,
      ⟨.classRef, ".x", ⟨⟨9, 11⟩, ⟨1, 10⟩⟩⟩, ⟨.groupOpen, "(", ⟨⟨12, 13⟩, ⟨1, 13⟩⟩⟩,
      ⟨.groupOpen, "(", ⟨⟨13, 14⟩, ⟨1, 14⟩⟩⟩, ⟨.groupClose, ")", ⟨⟨14, 15⟩, ⟨1, 15⟩⟩⟩,
      ⟨.optional, "?", ⟨⟨16, 17⟩, ⟨1, 17⟩⟩⟩, ⟨.groupClose, ")", ⟨⟨17, 18⟩, ⟨1, 18⟩⟩⟩,
      ⟨.groupClose, ")", ⟨⟨18, 19⟩, ⟨1, 19⟩⟩⟩, ⟨.groupClose, ")", ⟨⟨20, 21⟩, ⟨1, 21⟩⟩⟩,
      ⟨.alternator, "|", ⟨⟨22, 23⟩, ⟨1, 23⟩⟩⟩, ⟨.classRef, ".y", ⟨⟨24, 26⟩, ⟨1, 25⟩⟩⟩,
      ⟨.terminator, ";", ⟨⟨26, 27⟩, ⟨1, 27⟩⟩⟩] := by
  decide +kernel

theorem ofLine_bracketed :
    (ofLine .start "A = ()* (.x (() ?)) ) | .y;".toList).result = .ok bracketed := by
  rw [ofLine, scan_bracketed]
  generalize (Place.after .start _).covering [] = stop
  cbv

/-- Four tokens stray in it, one of them in a group in a group, and two groups are empty. -/
theorem warnings_of_bracketed :
    ((ofLine .start "A = ()* (.x (() ?)) ) | .y;".toList).warnings.map (·.span.start)).Pairwise (· < ·) ∧
    ((ofLine .start "A = ()* (.x (() ?)) ) | .y;".toList).warnings.filter
      (·.kind = .straySymbol)).length = 4 ∧
    ((ofLine .start "A = ()* (.x (() ?)) ) | .y;".toList).warnings.filter
      (·.kind = .emptyGroup)).length = 2 := by
  obtain ⟨ordered, strays, groups, -⟩ := warnings_of_ofLine ofLine_bracketed
  refine ⟨ordered, strays.length_eq.trans rfl, groups.length_eq.trans ?_⟩
  rw [scan_bracketed]
  rfl

end Recognizer

end TokenGrammar
