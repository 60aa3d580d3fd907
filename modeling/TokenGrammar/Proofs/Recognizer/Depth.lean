import TokenGrammar.Proofs.Recognizer.Derivation

/-!
# Alternatives at any depth

Alternatives stand in a rule's body and in the groups of other alternatives. Each of them comes of
consecutive tokens of the line, was checked for left recursion, and left its warnings with the line's.
-/
namespace TokenGrammar

/-- An alternative of a body, or of a group that stands in one of its alternatives at any depth. -/
inductive HasAlternative : List Alternative → Alternative → Prop
  | here {alternatives symbols} : symbols ∈ alternatives → HasAlternative alternatives symbols
  | inside {alternatives outer inner symbols} :
      outer ∈ alternatives → .group inner ∈ outer → HasAlternative inner symbols →
      HasAlternative alternatives symbols

theorem HasAlternative.mono {alternatives others : List Alternative} {symbols : Alternative}
    (h : HasAlternative alternatives symbols) (sub : alternatives ⊆ others) :
    HasAlternative others symbols := by
  cases h with
  | here member => exact .here (sub member)
  | inside member hg ho => exact .inside (sub member) hg ho

/-- The symbol stands in one of these alternatives. -/
def Occurs (symbol : Symbol) (alternatives : List Alternative) : Prop :=
  ∃ symbols, HasAlternative alternatives symbols ∧ symbol ∈ symbols

namespace Occurs

variable {symbol : Symbol} {alternatives inner : List Alternative} {symbols : Alternative}

theorem of_mem (ha : symbols ∈ alternatives) (hs : symbol ∈ symbols) : Occurs symbol alternatives :=
  ⟨symbols, .here ha, hs⟩

/-- Every symbol of a group stands where the group does. -/
theorem of_group (h : Occurs symbol inner) (ha : symbols ∈ alternatives)
    (hg : .group inner ∈ symbols) : Occurs symbol alternatives := by
  obtain ⟨own, ho, hs⟩ := h
  exact ⟨own, .inside ha hg ho, hs⟩

/-- Alternatives that hold all symbols of others hold all symbols at any depth. -/
theorem mono {others : List Alternative} (h : Occurs symbol alternatives)
    (hm : ∀ symbols ∈ alternatives, ∀ s ∈ symbols, ∃ symbols' ∈ others, s ∈ symbols') :
    Occurs symbol others := by
  obtain ⟨symbols, ha, hs⟩ := h
  cases ha with
  | here ha =>
      obtain ⟨symbols', ha', hs'⟩ := hm symbols ha symbol hs
      exact .of_mem ha' hs'
  | inside ho hg hi =>
      obtain ⟨outer', ho', hg'⟩ := hm _ ho _ hg
      exact .of_group ⟨symbols, hi, hs⟩ ho' hg'

theorem of_part {others : List Alternative} {whole : Alternative} (h : Occurs symbol [symbols])
    (hw : whole ∈ others) (sub : symbols ⊆ whole) : Occurs symbol others := by
  refine h.mono fun part member s hs => ⟨whole, hw, sub ?_⟩
  rwa [List.mem_singleton.mp member] at hs

end Occurs

namespace Recognizer

variable {header : Notation.Token}

theorem splitAlternatives_isInfix (depth : Int) (body : List Notation.Token) :
    (splitAlternatives depth body).1 <+: body ∧
      ∀ a ∈ (splitAlternatives depth body).2, a <:+: body := by
  induction body generalizing depth with
  | nil => exact ⟨List.prefix_refl [], fun _ member => absurd member List.not_mem_nil⟩
  | cons t rest ih =>
      rw [splitAlternatives]
      split
      · obtain ⟨first, others⟩ := ih depth
        refine ⟨List.nil_prefix, ?_⟩
        intro a member
        rcases List.mem_cons.mp member with rfl | later
        · exact first.isInfix.trans (List.suffix_cons t rest).isInfix
        · exact (others a later).trans (List.suffix_cons t rest).isInfix
      · obtain ⟨first, others⟩ := ih (depth + nesting t.kind)
        refine ⟨(List.prefix_cons_inj t).mpr first, ?_⟩
        intro a member
        exact (others a member).trans (List.suffix_cons t rest).isInfix

theorem infix_of_mem_alternativesOf {a body : List Notation.Token} (h : a ∈ alternativesOf body) :
    a <:+: body := by
  obtain ⟨first, others⟩ := splitAlternatives_isInfix 0 body
  rcases List.mem_cons.mp h with rfl | later
  · exact first.isInfix
  · exact others a later

theorem takeQuantifier_suffix (tokens : List Notation.Token) :
    (takeQuantifier tokens).2 <:+ tokens := by
  cases tokens with
  | nil => exact List.suffix_refl []
  | cons t rest =>
      rw [takeQuantifier]
      split
      · exact List.suffix_cons t rest
      · exact List.suffix_cons t rest
      · exact List.suffix_cons t rest
      · exact List.suffix_refl _

theorem dropTerminator_isPrefix (body : List Notation.Token) : dropTerminator body <+: body := by
  unfold dropTerminator
  split
  · exact List.dropLast_prefix body
  · exact List.prefix_refl body

theorem AlternativesYield.mem {parts : List (List Notation.Token)} {alternatives : List Alternative}
    {warnings : List Diagnostic} (h : AlternativesYield header parts alternatives warnings)
    {symbols : List Symbol} (hs : symbols ∈ alternatives) :
    ∃ a own, a ∈ parts ∧ SymbolsYield header a symbols own ∧ own ⊆ warnings := by
  match h with
  | .nil => cases hs
  | .cons first others =>
      rcases List.mem_cons.mp hs with rfl | later
      · exact ⟨_, _, List.mem_cons_self, first, List.subset_append_left _ _⟩
      · obtain ⟨a, own, member, ha, sub⟩ := others.mem later
        exact ⟨a, own, List.mem_cons_of_mem _ member, ha, List.subset_append_of_subset_right _ sub⟩

theorem SymbolsYield.group_mem {tokens : List Notation.Token} {symbols : List Symbol}
    {warnings : List Diagnostic} (h : SymbolsYield header tokens symbols warnings) {inner : List Alternative}
    (hg : .group inner ∈ symbols) :
    ∃ body own, body ≠ [] ∧ body <:+: tokens ∧ BodyYields header body inner own ∧
      own ⊆ warnings := by
  match h with
  | .nil => cases hg
  | @SymbolsYield.single _ t rest symbol _ _ _ hs hr =>
      rcases List.mem_cons.mp hg with rfl | later
      · cases hs
      · obtain ⟨body, own, filled, part, hb, sub⟩ := hr.group_mem later
        exact ⟨body, own, filled, part.trans (List.suffix_cons t rest).isInfix, hb,
          List.subset_append_of_subset_right _ sub⟩
  | @SymbolsYield.tokens _ t rest _ _ _ hr =>
      rcases List.mem_cons.mp hg with h | later
      · cases h
      · obtain ⟨body, own, filled, part, hb, sub⟩ := hr.group_mem later
        have behind := (takeQuantifier_suffix rest).trans (List.suffix_cons t rest)
        exact ⟨body, own, filled, part.trans behind.isInfix, hb, sub⟩
  | @SymbolsYield.emptyGroup _ opening close after _ _ _ _ hr =>
      obtain ⟨body, own, filled, part, hb, sub⟩ := hr.group_mem hg
      have behind := (List.suffix_cons close after).trans (List.suffix_cons opening _)
      exact ⟨body, own, filled, part.trans behind.isInfix, hb, List.subset_cons_of_subset _ sub⟩
  | @SymbolsYield.group _ opening rest body close after _ _ own _ _ hs hi hb hr =>
      have whole := splitGroup_eq hs
      rcases List.mem_cons.mp hg with h | later
      · cases h
        refine ⟨body, own, hi, ?_, hb, List.subset_append_left _ _⟩
        exact ⟨[opening], close :: after, by rw [whole, List.singleton_append, List.cons_append]⟩
      · obtain ⟨body', own', filled, part, hb', sub⟩ := hr.group_mem later
        have behind : after <:+ opening :: rest := by
          refine ⟨opening :: (body ++ [close]), ?_⟩
          rw [whole, List.cons_append, List.append_assoc, List.singleton_append]
        exact ⟨body', own', filled, part.trans behind.isInfix, hb',
          List.subset_append_of_subset_right _ sub⟩
  | @SymbolsYield.trivia _ t rest _ _ _ hr =>
      obtain ⟨body, own, filled, part, hb, sub⟩ := hr.group_mem hg
      exact ⟨body, own, filled, part.trans (List.suffix_cons t rest).isInfix, hb, sub⟩

/-- Where an alternative comes from, at whatever depth it stands. -/
theorem BodyYields.alternative {body : List Notation.Token} {alternatives : List Alternative}
    {warnings : List Diagnostic} (h : BodyYields header body alternatives warnings) {symbols : Alternative}
    (ha : HasAlternative alternatives symbols) :
    ∃ a own, a <:+: body ∧ isLeftRecursive header.text a = false ∧
      SymbolsYield header a symbols own ∧ own ⊆ warnings := by
  induction ha generalizing body warnings with
  | here hs =>
      obtain ⟨front, hp⟩ := h
      obtain ⟨a, own, member, hy, sub⟩ := hp.mem hs
      exact ⟨a, own, infix_of_mem_alternativesOf member, front a member, hy, sub⟩
  | inside ho hg _ ih =>
      obtain ⟨front, hp⟩ := h
      obtain ⟨a, own, member, hy, sub⟩ := hp.mem ho
      obtain ⟨inner, own', -, part, hb, sub'⟩ := hy.group_mem hg
      obtain ⟨a', own'', part', front', hy', sub''⟩ := ih hb
      exact ⟨a', own'', (part'.trans part).trans (infix_of_mem_alternativesOf member), front', hy',
        List.Subset.trans (List.Subset.trans sub'' sub') sub⟩

theorem LineYields.alternative {tokens : List Notation.Token} {r : Recognizer}
    {warnings : List Diagnostic} (h : LineYields tokens r warnings) {symbols : Alternative}
    (ha : HasAlternative r.alternatives symbols) :
    ∃ header a own, header.text = r.name ∧ a <:+: tokens ∧ isLeftRecursive r.name a = false ∧
      SymbolsYield header a symbols own ∧ own ⊆ warnings := by
  match h with
  | @LineYields.intro header assignment body _ _ _ _ _ hb =>
      obtain ⟨a, own, part, front, hy, sub⟩ := hb.alternative ha
      have behind : dropTerminator body <:+: header :: assignment :: body :=
        (dropTerminator_isPrefix body).isInfix.trans
          ((List.suffix_cons assignment body).trans (List.suffix_cons header _)).isInfix
      exact ⟨header, a, own, rfl, part.trans behind, front, hy, sub⟩

theorem SymbolsYield.strayWarning_mem {tokens : List Notation.Token} {symbols : List Symbol}
    {warnings : List Diagnostic} (h : SymbolsYield header tokens symbols warnings)
    {t : Notation.Token} (ht : .stray t ∈ symbols) : strayWarning t ∈ warnings := by
  match h with
  | .nil => cases ht
  | .single hs hr =>
      rcases List.mem_cons.mp ht with rfl | later
      · cases hs
        exact List.mem_append_left _ List.mem_cons_self
      · exact List.mem_append_right _ (hr.strayWarning_mem later)
  | .tokens _ hr =>
      rcases List.mem_cons.mp ht with h | later
      · cases h
      · exact hr.strayWarning_mem later
  | .emptyGroup _ _ hr => exact List.mem_cons_of_mem _ (hr.strayWarning_mem ht)
  | .group _ _ _ _ hr =>
      rcases List.mem_cons.mp ht with h | later
      · cases h
      · exact List.mem_append_right _ (hr.strayWarning_mem later)
  | .trivia _ hr => exact hr.strayWarning_mem ht

/-- No stray symbol is built without a warning. -/
theorem LineYields.strayWarning_mem {tokens : List Notation.Token} {r : Recognizer}
    {warnings : List Diagnostic} (h : LineYields tokens r warnings) {t : Notation.Token}
    (ht : Occurs (.stray t) r.alternatives) : strayWarning t ∈ warnings := by
  obtain ⟨symbols, ha, hs⟩ := ht
  obtain ⟨header, a, own, -, -, -, hy, sub⟩ := h.alternative ha
  exact sub (hy.strayWarning_mem hs)

end Recognizer

end TokenGrammar
