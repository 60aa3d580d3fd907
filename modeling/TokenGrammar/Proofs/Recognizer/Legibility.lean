import TokenGrammar.Proofs.Notation.Coverage
import TokenGrammar.Proofs.Recognizer.Reading

/-!
# What lines without warnings compile to

A line that gives no warning compiles to a recognizer that can be shown and read back. Each condition
comes of the tokens: names are scanned as names, stray tokens and empty groups are warned of, and no
alternative starts with its own rule.
-/
namespace TokenGrammar.Recognizer

variable {header : Notation.Token}

theorem isName_of_reference {t : Notation.Token} (h : t.piece.Named) (hk : t.kind.isReference = true) :
    Notation.IsName t.name.toList := by
  rw [Notation.Token.name, if_pos hk, String.toList_ofList]
  exact h.2 hk

theorem isName_of_name {t : Notation.Token} (h : t.piece.Named) (hk : t.kind = .name) :
    Notation.IsName t.name.toList ∧ t.name.toList ≠ ['o', 'r'] := by
  have bare : ¬ t.kind.isReference = true := by
    rw [hk]
    exact Bool.false_ne_true
  rw [Notation.Token.name, if_neg bare]
  exact h.1 hk

/-- Tokens that make no symbol are of empty groups, and those are warned of. -/
theorem SymbolsYield.eq_nil {tokens : List Notation.Token} (h : SymbolsYield header tokens [] [])
    (clean : ∀ t ∈ tokens, t.kind.isTrivia = false) : tokens = [] := by
  cases h with
  | nil => rfl
  | trivia ht _ => cases ht.symm.trans (clean _ List.mem_cons_self)

theorem eq_nil_of_alternativesOf {body : List Notation.Token} (h : alternativesOf body = [[]]) :
    body = [] := by
  obtain ⟨first, others⟩ := List.cons.inj h
  have length := splitAlternatives_length 0 body
  rw [first, others] at length
  exact List.length_eq_zero_iff.mp length.symm

theorem BodyYields.ne_nil {body : List Notation.Token} {alternatives : List Alternative}
    {warnings : List Diagnostic} (h : BodyYields header body alternatives warnings) :
    alternatives ≠ [] := by
  obtain ⟨-, parts⟩ := h
  rintro rfl
  cases hp : alternativesOf body with
  | nil => cases hp
  | cons first others =>
      rw [hp] at parts
      cases parts

/-- A body that is not empty has a symbol or a second alternative. -/
theorem BodyYields.ne_singleton_nil {body : List Notation.Token} {alternatives : List Alternative}
    (h : BodyYields header body alternatives []) (clean : ∀ t ∈ body, t.kind.isTrivia = false)
    (filled : body ≠ []) : alternatives ≠ [[]] := by
  obtain ⟨-, parts⟩ := h
  rintro rfl
  have within (a : List Notation.Token) (member : a ∈ alternativesOf body) :
      ∀ t ∈ a, t.kind.isTrivia = false :=
    fun t ht => clean t ((infix_of_mem_alternativesOf member).subset ht)
  generalize hp : alternativesOf body = ps at parts within
  generalize hw : ([] : List Diagnostic) = warnings at parts
  cases parts with
  | cons first others =>
      obtain ⟨rfl, rfl⟩ := List.append_eq_nil_iff.mp hw.symm
      cases others
      rw [first.eq_nil (within _ List.mem_cons_self)] at hp
      exact filled (eq_nil_of_alternativesOf hp)

theorem Stands.wellSpelled {t : Notation.Token} {symbol : Symbol} (h : Stands t symbol [])
    (named : t.piece.Named) : symbol.WellSpelled := by
  generalize hw : ([] : List Diagnostic) = warnings at h
  cases h with
  | literal hk => trivial
  | subrule hk | definition hk => exact isName_of_reference named (by rw [hk]; rfl)
  | stray hk => cases hw

theorem SymbolsYield.wellSpelled {tokens : List Notation.Token} {symbols : List Symbol}
    {warnings : List Diagnostic} (h : SymbolsYield header tokens symbols warnings)
    (none : warnings = []) (named : ∀ t ∈ tokens, t.piece.Named)
    (clean : ∀ t ∈ tokens, t.kind.isTrivia = false) : ∀ s ∈ symbols, s.WellSpelled := by
  match h with
  | .nil => exact nofun
  | .single hs hr =>
      obtain ⟨rfl, silent⟩ := List.append_eq_nil_iff.mp none
      refine List.forall_mem_cons.mpr ⟨hs.wellSpelled (named _ List.mem_cons_self), ?_⟩
      exact hr.wellSpelled silent (List.forall_mem_cons.mp named).2 (List.forall_mem_cons.mp clean).2
  | @SymbolsYield.tokens _ t rest _ _ hk hr =>
      have behind := (takeQuantifier_suffix rest).subset
      have later := hr.wellSpelled none
        (fun u member => named u (List.mem_cons_of_mem t (behind member)))
        (fun u member => clean u (List.mem_cons_of_mem t (behind member)))
      refine List.forall_mem_cons.mpr ⟨?_, later⟩
      have own : t.piece.Named := named t List.mem_cons_self
      rcases hk with hk | hk
      · refine ⟨isName_of_reference own (by rw [hk]; rfl), fun bare => ?_⟩
        exact absurd hk (of_decide_eq_false bare)
      · exact ⟨(isName_of_name own hk).1, fun _ => (isName_of_name own hk).2⟩
  | .emptyGroup .. => cases none
  | @SymbolsYield.group _ opening rest inner close after _ _ _ _ _ hs hi hb hr =>
      obtain ⟨rfl, silent⟩ := List.append_eq_nil_iff.mp none
      obtain rfl := splitGroup_eq hs
      have tidy := (List.forall_mem_append.mp (List.forall_mem_cons.mp clean).2)
      have names := (List.forall_mem_append.mp (List.forall_mem_cons.mp named).2)
      refine List.forall_mem_cons.mpr ⟨⟨hb.ne_nil, hb.ne_singleton_nil tidy.1 hi⟩, ?_⟩
      exact hr.wellSpelled silent (List.forall_mem_cons.mp names.2).2 (List.forall_mem_cons.mp tidy.2).2
  | .trivia _ hr =>
      exact hr.wellSpelled none (List.forall_mem_cons.mp named).2 (List.forall_mem_cons.mp clean).2

theorem LineYields.wellFormed {tokens : List Notation.Token} {r : Recognizer}
    (h : LineYields tokens r []) (named : ∀ t ∈ tokens, t.piece.Named)
    (clean : ∀ t ∈ tokens, t.kind.isTrivia = false) : r.WellFormed where
  name := by
    cases h with
    | intro _ hn _ _ => exact ((named _ List.mem_cons_self).1 hn).1
  other := by
    cases h with
    | intro _ hn _ _ => exact ((named _ List.mem_cons_self).1 hn).2
  filled := by
    cases h with
    | intro _ _ _ hb => exact hb.ne_nil
  legible := by
    rintro s ⟨symbols, ha, hs⟩
    obtain ⟨header, a, own, -, part, -, hy, sub⟩ := h.alternative ha
    exact hy.wellSpelled (List.eq_nil_of_subset_nil sub) (fun t member => named t (part.subset member))
      (fun t member => clean t (part.subset member)) s hs
  guarded := by
    intro symbols ha
    obtain ⟨header, a, own, -, part, front, hy, sub⟩ := h.alternative ha
    -- Without a warning there is no empty group, so the check of the first token is one of the symbol.
    obtain rfl := List.eq_nil_of_subset_nil sub
    rw [← hy.isLeftRecursive_iff (fun t member => clean t (part.subset member)), front]
    exact Bool.false_ne_true

end TokenGrammar.Recognizer
