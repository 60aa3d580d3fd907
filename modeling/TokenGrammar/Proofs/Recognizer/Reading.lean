import TokenGrammar.Proofs.Notation.Scanned
import TokenGrammar.Proofs.Recognizer.LeftRecursion
import TokenGrammar.Proofs.Recognizer.Spelling

/-!
# Reading spelled recognizers

Tokens with the words of a recognizer compile to this recognizer, without a warning. Inside the spelling
of a symbol brackets match and alternators stand in brackets only, so that splitting a body finds the
alternatives again, and splitting a group its contents.
-/
namespace TokenGrammar

open Notation (Piece)

/-- No alternative at any depth starts with the rule itself. -/
def Guarded (rule : String) (alternatives : List Alternative) : Prop :=
  ∀ symbols, HasAlternative alternatives symbols → ¬ StartsWithItself rule symbols

/-- What is read back just as it is shown. -/
structure Recognizer.WellFormed (r : Recognizer) : Prop where
  name : Notation.IsName r.name.toList
  /-- That word is an alternator. -/
  other : r.name.toList ≠ ['o', 'r']
  filled : r.alternatives ≠ []
  legible : Legible r.alternatives
  guarded : Guarded r.name r.alternatives

namespace Recognizer

/-- Brackets match in the tokens, and alternators stand in brackets unless they are free. -/
inductive Nested : Bool → List Notation.Token → Prop
  | nil {free} : Nested free []
  | plain {free t rest} : t.kind ≠ .groupOpen → t.kind ≠ .groupClose →
      (t.kind = .alternator → free = true) → Nested free rest → Nested free (t :: rest)
  | group {free opening inner close rest} : opening.kind = .groupOpen → close.kind = .groupClose →
      Nested true inner → Nested free rest → Nested free (opening :: (inner ++ close :: rest))

namespace Nested

variable {free : Bool} {ts us : List Notation.Token}

theorem append (h : Nested free ts) (hu : Nested free us) : Nested free (ts ++ us) := by
  induction h with
  | nil => exact hu
  | plain ho hc ha _ ih => exact .plain ho hc ha (ih hu)
  | group ho hc hi _ _ ih =>
      rw [List.cons_append, List.append_assoc, List.cons_append]
      exact .group ho hc hi (ih hu)

theorem toFree (h : Nested false ts) : Nested true ts := by
  generalize hf : false = strict at h
  induction h with
  | nil => exact .nil
  | plain ho hc _ _ ih => exact .plain ho hc (fun _ => rfl) (ih hf)
  | group ho hc hi _ _ ih => exact .group ho hc hi (ih hf)

/-- The alternatives of what follows go on where the tokens end. -/
theorem splitAlternatives_append (h : Nested free ts) {depth : Int} (hd : 0 ≤ depth)
    (hf : free = true → 0 < depth) (rest : List Notation.Token) :
    splitAlternatives depth (ts ++ rest) =
      (ts ++ (splitAlternatives depth rest).1, (splitAlternatives depth rest).2) := by
  induction h generalizing depth rest with
  | nil => rfl
  | @plain _ t tail ho hc ha _ ih =>
      -- An alternator is free inside of brackets only, and there the depth is not zero.
      have inside : ¬ (t.kind = .alternator ∧ depth = 0) := by
        rintro ⟨alternator, rfl⟩
        exact absurd (hf (ha alternator)) (by decide)
      have level : depth + nesting t.kind = depth := by
        cases hk : t.kind <;> simp_all [nesting]
      rw [List.cons_append, splitAlternatives, if_neg inside, level, ih hd hf]
      rfl
  | @group _ opening inner close tail ho hc _ _ ihi ih =>
      have deeper : depth + nesting opening.kind = depth + 1 := by rw [ho]; rfl
      have back : depth + 1 + nesting close.kind = depth := by
        rw [hc]
        exact Int.add_neg_cancel_right depth 1
      have opens : ¬ (opening.kind = .alternator ∧ depth = 0) := by simp [ho]
      have closes : ¬ (close.kind = .alternator ∧ depth + 1 = 0) := by simp [hc]
      rw [List.cons_append, splitAlternatives, if_neg opens, deeper, List.append_assoc,
        ihi (by omega) (fun _ => by omega), List.cons_append, splitAlternatives, if_neg closes, back,
        ih hd hf]
      simp only [List.cons_append, List.append_assoc]

/-- A group that is open goes on behind the tokens. -/
theorem splitGroup_append (h : Nested free ts) {depth : Int} (hd : 0 ≤ depth)
    (rest : List Notation.Token) :
    splitGroup depth (ts ++ rest) =
      (splitGroup depth rest).map fun (inner, after) => (ts ++ inner, after) := by
  induction h generalizing depth rest with
  | nil => exact (Option.map_id' ..).symm
  | @plain _ t tail ho hc _ _ ih =>
      have level : depth + nesting t.kind = depth := by
        cases hk : t.kind <;> simp_all [nesting]
      rw [List.cons_append, splitGroup, if_neg fun both => hc both.1, level, ih hd, Option.map_map]
      rfl
  | @group _ opening inner close tail ho hc _ _ ihi ih =>
      have deeper : depth + nesting opening.kind = depth + 1 := by rw [ho]; rfl
      have back : depth + 1 + nesting close.kind = depth := by
        rw [hc]
        exact Int.add_neg_cancel_right depth 1
      have opens : ¬ (opening.kind = .groupClose ∧ depth = 0) := by simp [ho]
      have closes : ¬ (close.kind = .groupClose ∧ depth + 1 = 0) := fun both => by omega
      rw [List.cons_append, splitGroup, if_neg opens, deeper, List.append_assoc,
        ihi (by omega), List.cons_append, splitGroup, if_neg closes, back, ih hd]
      simp only [Option.map_map]
      congr 1
      funext found
      simp only [Function.comp_apply, List.cons_append, List.append_assoc]

theorem splitGroup_eq_some {close : Notation.Token} (h : Nested free ts) (hc : close.kind = .groupClose)
    (after : List Notation.Token) : splitGroup 0 (ts ++ close :: after) = some (ts, close, after) := by
  rw [h.splitGroup_append (Int.le_refl 0), splitGroup, if_pos ⟨hc, rfl⟩]
  change some (ts ++ [], close, after) = _
  rw [List.append_nil]

end Nested

theorem Nested.single {free : Bool} {t : Notation.Token} (ho : t.kind ≠ .groupOpen)
    (hc : t.kind ≠ .groupClose) (ha : t.kind = .alternator → free = true) : Nested free [t] :=
  .plain ho hc ha .nil

theorem kind_of_piece {t : Notation.Token} {kind : Notation.Kind} {text : List Char}
    (h : t.piece = ⟨kind, text⟩) : t.kind = kind := congrArg Piece.kind h

/-- The first of several alternatives, the alternator behind it, and the others. -/
theorem parts_of_spelled {symbols next : List Symbol} {others : List (List Symbol)}
    {ts : List Notation.Token} (hs : ts.map Notation.Token.piece =
      [bar].intercalate (spellAlternatives (symbols :: next :: others))) :
    ∃ first between rest, ts = first ++ between :: rest ∧
      first.map Notation.Token.piece = spellSymbols symbols ∧ between.kind = .alternator ∧
      rest.map Notation.Token.piece = [bar].intercalate (spellAlternatives (next :: others)) := by
  rw [spellAlternatives, spellAlternatives, List.intercalate_cons_cons, ← spellAlternatives,
    List.append_assoc] at hs
  obtain ⟨first, _, rfl, hf, hr⟩ := List.map_eq_append_iff.mp hs
  obtain ⟨between, rest, rfl, hb, hl⟩ := List.map_eq_cons_iff.mp hr
  exact ⟨first, between, rest, rfl, hf, kind_of_piece hb, hl⟩

theorem nested_of_suffix {quantifier : Quantifier} {ts : List Notation.Token}
    (h : ts.map Notation.Token.piece = quantifier.spell) : Nested false ts := by
  cases quantifier with
  | one =>
      cases List.map_eq_nil_iff.mp h
      exact .nil
  | optional | zeroOrMore | oneOrMore =>
      obtain ⟨t, rfl, ht⟩ := List.map_eq_singleton_iff.mp h
      refine .single ?_ ?_ ?_ <;> rw [kind_of_piece ht] <;> exact nofun

mutual

theorem nested_of_spell (s : Symbol) (h : Legible [[s]]) {ts : List Notation.Token}
    (hs : ts.map Notation.Token.piece = s.spell) : Nested false ts := by
  have spelled : s.WellSpelled := h.symbol List.mem_cons_self
  match s with
  | .literal _ | .subrule _ | .definition _ =>
      obtain ⟨t, rfl, ht⟩ := List.map_eq_singleton_iff.mp hs
      refine .single ?_ ?_ ?_ <;> rw [kind_of_piece ht] <;> exact nofun
  | .tokens _ quantifier explicit =>
      obtain ⟨t, rest, rfl, ht, hr⟩ := List.map_eq_cons_iff.mp hs
      cases explicit <;>
        (refine .plain ?_ ?_ ?_ (nested_of_suffix hr) <;> rw [kind_of_piece ht] <;> exact nofun)
  | .group alternatives =>
      obtain ⟨opening, rest, rfl, ho, hr⟩ := List.map_eq_cons_iff.mp hs
      obtain ⟨inner, _, rfl, hi, hl⟩ := List.map_eq_append_iff.mp hr
      obtain ⟨close, rfl, hc⟩ := List.map_eq_singleton_iff.mp hl
      have within := nested_of_spellAlternatives alternatives (h.of_group List.mem_cons_self) hi
      exact .group (kind_of_piece ho) (kind_of_piece hc) within .nil
  | .stray _ => exact spelled.elim

theorem nested_of_spellAlternatives (alternatives : List (List Symbol)) (h : Legible alternatives)
    {ts : List Notation.Token}
    (hs : ts.map Notation.Token.piece = [bar].intercalate (spellAlternatives alternatives)) :
    Nested true ts := by
  match alternatives with
  | [] =>
      cases List.map_eq_nil_iff.mp hs
      exact .nil
  | [symbols] =>
      rw [spellAlternatives, spellAlternatives, List.intercalate_singleton] at hs
      exact (nested_of_spellSymbols symbols h hs).toFree
  | symbols :: next :: others =>
      obtain ⟨first, between, rest, rfl, hf, hb, hl⟩ := parts_of_spelled hs
      have before := nested_of_spellSymbols symbols h.head hf
      refine before.toFree.append (.plain ?_ ?_ (fun _ => rfl)
        (nested_of_spellAlternatives (next :: others) h.tail hl))
      · rw [hb]
        exact nofun
      · rw [hb]
        exact nofun

theorem nested_of_spellSymbols (symbols : List Symbol) (h : Legible [symbols])
    {ts : List Notation.Token} (hs : ts.map Notation.Token.piece = spellSymbols symbols) :
    Nested false ts := by
  match symbols with
  | [] =>
      cases List.map_eq_nil_iff.mp hs
      exact .nil
  | s :: rest =>
      obtain ⟨own, behind, rfl, ho, hb⟩ := List.map_eq_append_iff.mp hs
      exact (nested_of_spell s h.first ho).append (nested_of_spellSymbols rest h.behind hb)

end

theorem alternativesOf_spelled (alternatives : List (List Symbol)) (filled : alternatives ≠ [])
    (h : Legible alternatives) {ts : List Notation.Token}
    (hs : ts.map Notation.Token.piece = [bar].intercalate (spellAlternatives alternatives)) :
    (alternativesOf ts).map (·.map Notation.Token.piece) = spellAlternatives alternatives := by
  match alternatives with
  | [symbols] =>
      rw [spellAlternatives, spellAlternatives, List.intercalate_singleton] at hs
      have own := (nested_of_spellSymbols symbols h hs).splitAlternatives_append (Int.le_refl 0) nofun []
      rw [List.append_nil] at own
      rw [alternativesOf, own, splitAlternatives, List.append_nil, List.map_singleton, hs]
      rfl
  | symbols :: next :: others =>
      obtain ⟨first, between, rest, rfl, hf, hb, hl⟩ := parts_of_spelled hs
      have own := (nested_of_spellSymbols symbols h.head hf).splitAlternatives_append (Int.le_refl 0)
        nofun (between :: rest)
      have later := alternativesOf_spelled (next :: others) (List.cons_ne_nil next others) h.tail hl
      rw [alternativesOf] at later
      rw [alternativesOf, own, splitAlternatives, if_pos ⟨hb, rfl⟩, List.append_nil,
        List.map_cons, hf, later]
      rfl

theorem spell_head {s : Symbol} (h : s.WellSpelled) :
    ∃ p rest, s.spell = p :: rest ∧ p.kind.isQuantifier = false := by
  match s with
  | .literal _ | .subrule _ | .definition _ | .group _ => exact ⟨_, _, rfl, rfl⟩
  | .tokens _ _ explicit => exact ⟨_, _, rfl, by cases explicit <;> rfl⟩
  | .stray _ => exact h.elim

theorem takeQuantifier_of_not_quantifier {ts : List Notation.Token}
    (h : ∀ t ∈ ts.head?, t.kind.isQuantifier = false) : takeQuantifier ts = (.one, ts) := by
  cases ts with
  | nil => rfl
  | cons t rest =>
      have plain := h t rfl
      rw [takeQuantifier]
      cases hk : t.kind <;> rw [hk] at plain <;> first | rfl | cases plain

/-- The quantifier of a class reference is taken, and nothing of the symbols behind it. -/
theorem takeQuantifier_spelled {quantifier : Quantifier} {symbols : List Symbol}
    (h : Legible [symbols]) {ts : List Notation.Token}
    (hs : ts.map Notation.Token.piece = quantifier.spell ++ spellSymbols symbols) :
    ∃ behind, takeQuantifier ts = (quantifier, behind) ∧
      behind.map Notation.Token.piece = spellSymbols symbols := by
  cases quantifier with
  | one =>
      -- What follows is another symbol, and no symbol starts with a quantifier.
      refine ⟨ts, takeQuantifier_of_not_quantifier ?_, hs⟩
      rintro t front
      cases symbols with
      | nil =>
          cases List.map_eq_nil_iff.mp hs
          cases front
      | cons s rest =>
          obtain ⟨p, more, hp, other⟩ := spell_head (h.symbol List.mem_cons_self)
          rw [Quantifier.spell, List.nil_append, spellSymbols, hp] at hs
          obtain ⟨t, behind, rfl, ht, -⟩ := List.map_eq_cons_iff.mp hs
          cases front
          rw [← ht] at other
          exact other
  | optional | zeroOrMore | oneOrMore =>
      obtain ⟨t, behind, rfl, ht, hb⟩ := List.map_eq_cons_iff.mp hs
      refine ⟨behind, ?_, hb⟩
      rw [takeQuantifier, kind_of_piece ht]

theorem spell_ne_nil {alternatives : List Alternative} (filled : alternatives ≠ [])
    (other : alternatives ≠ [[]]) (h : Legible alternatives) :
    [bar].intercalate (spellAlternatives alternatives) ≠ [] := by
  match alternatives with
  | [symbols] =>
      cases symbols with
      | nil => exact absurd rfl other
      | cons s rest =>
          obtain ⟨p, more, hp, -⟩ := spell_head (h.symbol List.mem_cons_self)
          rw [spellAlternatives, spellAlternatives, List.intercalate_singleton, spellSymbols, hp]
          exact List.cons_ne_nil p _
  | symbols :: next :: others =>
      rw [spellAlternatives, spellAlternatives, List.intercalate_cons_cons]
      simp

theorem name_of_piece {t : Notation.Token} {kind : Notation.Kind} {sigil : Char} {name : String}
    (h : t.piece = ⟨kind, sigil :: name.toList⟩) (hk : kind.isReference = true) : t.name = name := by
  have text : t.text.toList = sigil :: name.toList := congrArg Piece.text h
  rw [Notation.Token.name, kind_of_piece h, if_pos hk, text, List.drop_one, List.tail_cons,
    String.ofList_toList]

theorem text_of_piece {t : Notation.Token} {kind : Notation.Kind} {text : String}
    (h : t.piece = ⟨kind, text.toList⟩) : t.text = text :=
  String.toList_injective (congrArg Piece.text h)

theorem literalValue_of_piece {t : Notation.Token} {text : String}
    (h : t.piece = ⟨.literal, Notation.Literal.encode text.toList⟩) : t.literalValue = text := by
  have written : t.text.toList = Notation.Literal.encode text.toList := congrArg Piece.text h
  rw [Notation.Token.literalValue, written, Notation.Literal.decode_encode, String.ofList_toList]

theorem name_of_bare_piece {t : Notation.Token} {name : String}
    (h : t.piece = ⟨.name, name.toList⟩) : t.name = name := by
  have bare : ¬ t.kind.isReference = true := by
    rw [kind_of_piece h]
    exact Bool.false_ne_true
  rw [Notation.Token.name, if_neg bare, text_of_piece h]

variable {header : Notation.Token}

theorem stands_literal {t : Notation.Token} {text : String}
    (h : t.piece = ⟨.literal, Notation.Literal.encode text.toList⟩) : Stands t (.literal text) [] :=
  literalValue_of_piece h ▸ .literal (kind_of_piece h)

theorem stands_subrule {t : Notation.Token} {name : String}
    (h : t.piece = ⟨.subruleRef, '@' :: name.toList⟩) : Stands t (.subrule name) [] :=
  name_of_piece h rfl ▸ .subrule (kind_of_piece h)

theorem stands_definition {t : Notation.Token} {name : String}
    (h : t.piece = ⟨.definitionRef, '#' :: name.toList⟩) : Stands t (.definition name) [] :=
  name_of_piece h rfl ▸ .definition (kind_of_piece h)

/-- A class reference of either form, with the quantifier that is taken. -/
theorem SymbolsYield.cons_class {t : Notation.Token} {tail after : List Notation.Token}
    {kind : String} {quantifier : Quantifier} {explicit : Bool} {symbols : List Symbol}
    {warnings : List Diagnostic} (h : SymbolsYield header after symbols warnings)
    (ht : t.piece = classWord kind explicit) (taken : takeQuantifier tail = (quantifier, after)) :
    SymbolsYield header (t :: tail) (.tokens kind quantifier explicit :: symbols) warnings := by
  have step : t.kind = .classRef ∨ t.kind = .name →
      SymbolsYield header (takeQuantifier tail).2 symbols warnings → SymbolsYield header (t :: tail)
        (.tokens t.name (takeQuantifier tail).1 (t.kind = .classRef) :: symbols) warnings := .tokens
  rw [taken] at step
  cases explicit with
  | true =>
      have dotted : t.kind = .classRef := kind_of_piece ht
      have named : t.name = kind := name_of_piece ht rfl
      rw [named, decide_eq_true dotted] at step
      exact step (.inl dotted) h
  | false =>
      have bare : t.kind = .name := kind_of_piece ht
      have other : t.kind ≠ .classRef := by
        rw [bare]
        exact nofun
      rw [name_of_bare_piece ht, decide_eq_false other] at step
      exact step (.inr bare) h

theorem clean_of_takeQuantifier {tail after : List Notation.Token} {quantifier : Quantifier}
    (taken : takeQuantifier tail = (quantifier, after))
    (clean : ∀ t ∈ tail, t.kind.isTrivia = false) : ∀ t ∈ after, t.kind.isTrivia = false := by
  have behind := takeQuantifier_suffix tail
  rw [taken] at behind
  exact fun t member => clean t (behind.subset member)

mutual

theorem alternativesYield_of_spelled (alternatives : List (List Symbol)) (h : Legible alternatives)
    (guarded : Guarded header.text alternatives) {parts : List (List Notation.Token)}
    (clean : ∀ a ∈ parts, ∀ t ∈ a, t.kind.isTrivia = false)
    (hs : parts.map (·.map Notation.Token.piece) = spellAlternatives alternatives) :
    AlternativesYield header parts alternatives [] ∧
      ∀ a ∈ parts, isLeftRecursive header.text a = false := by
  match alternatives with
  | [] =>
      cases List.map_eq_nil_iff.mp hs
      exact ⟨.nil, nofun⟩
  | symbols :: others =>
      obtain ⟨a, rest, rfl, ha, hr⟩ := List.map_eq_cons_iff.mp hs
      obtain ⟨own, behind⟩ := List.forall_mem_cons.mp clean
      have first : SymbolsYield header a symbols [] :=
        symbolsYield_of_spelled symbols h.head
          (fun inner hg _ ho => guarded _ (.inside List.mem_cons_self hg ho)) own ha
      have front : isLeftRecursive header.text a = false := by
        rw [← Bool.not_eq_true, first.isLeftRecursive_iff own]
        exact guarded symbols (.here List.mem_cons_self)
      obtain ⟨later, fronts⟩ := alternativesYield_of_spelled others h.tail
        (fun _ ho => guarded _ (ho.mono (List.subset_cons_self symbols others))) behind hr
      exact ⟨.cons first later, List.forall_mem_cons.mpr ⟨front, fronts⟩⟩

theorem symbolsYield_of_spelled (symbols : List Symbol) (h : Legible [symbols])
    (guarded : ∀ inner, .group inner ∈ symbols → Guarded header.text inner)
    {ts : List Notation.Token} (clean : ∀ t ∈ ts, t.kind.isTrivia = false)
    (hs : ts.map Notation.Token.piece = spellSymbols symbols) : SymbolsYield header ts symbols [] := by
  match symbols with
  | [] =>
      cases List.map_eq_nil_iff.mp hs
      exact .nil
  | s :: rest =>
      have spelled : s.WellSpelled := h.symbol List.mem_cons_self
      have further (inner : List Alternative) (hg : .group inner ∈ rest) : Guarded header.text inner :=
        guarded inner (List.mem_cons_of_mem s hg)
      match s with
      | .literal text =>
          obtain ⟨t, tail, rfl, ht, hl⟩ := List.map_eq_cons_iff.mp hs
          have more := symbolsYield_of_spelled rest h.behind further (List.forall_mem_cons.mp clean).2 hl
          exact .single (stands_literal ht) more
      | .subrule name =>
          obtain ⟨t, tail, rfl, ht, hl⟩ := List.map_eq_cons_iff.mp hs
          have more := symbolsYield_of_spelled rest h.behind further (List.forall_mem_cons.mp clean).2 hl
          exact .single (stands_subrule ht) more
      | .definition name =>
          obtain ⟨t, tail, rfl, ht, hl⟩ := List.map_eq_cons_iff.mp hs
          have more := symbolsYield_of_spelled rest h.behind further (List.forall_mem_cons.mp clean).2 hl
          exact .single (stands_definition ht) more
      | .tokens kind quantifier explicit =>
          obtain ⟨t, tail, rfl, ht, hl⟩ := List.map_eq_cons_iff.mp hs
          obtain ⟨after, taken, ha⟩ := takeQuantifier_spelled h.behind hl
          have tidy := clean_of_takeQuantifier taken (List.forall_mem_cons.mp clean).2
          exact (symbolsYield_of_spelled rest h.behind further tidy ha).cons_class ht taken
      | .group alternatives =>
          rw [spellSymbols, Symbol.spell, List.cons_append, List.append_assoc] at hs
          obtain ⟨opening, tail, rfl, ho, hl⟩ := List.map_eq_cons_iff.mp hs
          obtain ⟨inner, _, rfl, hi, hr⟩ := List.map_eq_append_iff.mp hl
          obtain ⟨close, after, rfl, hc, ha⟩ := List.map_eq_cons_iff.mp hr
          obtain ⟨-, tidy⟩ := List.forall_mem_cons.mp clean
          obtain ⟨tidyInner, tidyRest⟩ := List.forall_mem_append.mp tidy
          have within : Legible alternatives := h.of_group List.mem_cons_self
          -- The brackets tell where the group ends, and the bars outside of inner brackets its parts.
          have split := (nested_of_spellAlternatives alternatives within hi).splitGroup_eq_some
            (kind_of_piece hc) after
          have parts := alternativesOf_spelled alternatives spelled.1 within hi
          obtain ⟨yields, front⟩ := alternativesYield_of_spelled alternatives within
            (guarded alternatives List.mem_cons_self)
            (fun a part t member => tidyInner t ((infix_of_mem_alternativesOf part).subset member)) parts
          have filled : inner ≠ [] := by
            rintro rfl
            exact spell_ne_nil spelled.1 spelled.2 within hi.symm
          have more := symbolsYield_of_spelled rest h.behind further (List.forall_mem_cons.mp tidyRest).2 ha
          exact .group (kind_of_piece ho) split filled (.intro front yields) more
      | .stray _ => exact spelled.elim

end

theorem dropTerminator_append {body : List Notation.Token} {t : Notation.Token}
    (h : t.kind = .terminator) : dropTerminator (body ++ [t]) = body := by
  rw [dropTerminator, List.getLast?_concat, Option.any_some, decide_eq_true h, if_pos rfl,
    List.dropLast_concat]

variable {r : Recognizer}

theorem lineYields_of_spelled (h : r.WellFormed) {tokens : List Notation.Token}
    (clean : ∀ t ∈ tokens, t.kind.isTrivia = false)
    (expected : ∀ t ∈ tokens, t.kind ≠ .unexpectedFragment)
    (hs : tokens.map Notation.Token.piece = r.spell) : LineYields tokens r [] := by
  obtain ⟨header, _, rfl, hh, ha⟩ := List.map_eq_cons_iff.mp hs
  obtain ⟨assignment, _, rfl, ht, hr⟩ := List.map_eq_cons_iff.mp ha
  obtain ⟨body, _, rfl, hb, hl⟩ := List.map_eq_append_iff.mp hr
  obtain ⟨terminator, rfl, hc⟩ := List.map_eq_singleton_iff.mp hl
  have named : header.text = r.name := text_of_piece hh
  have tidy : ∀ t ∈ body, t.kind.isTrivia = false := fun t member => clean t
    (List.mem_cons_of_mem _ (List.mem_cons_of_mem _ (List.mem_append_left _ member)))
  have guarded : Guarded header.text r.alternatives := by
    rw [named]
    exact h.guarded
  have parts := alternativesOf_spelled r.alternatives h.filled h.legible hb
  obtain ⟨yields, front⟩ := alternativesYield_of_spelled r.alternatives h.legible guarded
    (fun a part t member => tidy t ((infix_of_mem_alternativesOf part).subset member)) parts
  have line := LineYields.intro expected (kind_of_piece hh) (kind_of_piece ht)
    (by rw [dropTerminator_append (kind_of_piece hc)]; exact .intro front yields)
  rwa [named] at line

/-- A recognizer with plain literals is compiled from what it is shown as. -/
theorem ofLine_render (h : r.WellFormed) (plain : r.Plain) (origin : Place) :
    ofLine origin r.render.toList = ⟨[], .ok r⟩ := by
  have read : Notation.words r.render.toList = some r.spell := by
    rw [words_render h.name h.other h.legible, if_pos plain]
  refine ofTokens_eq_iff.mpr (lineYields_of_spelled h (fun t => isTrivia_of_mem_scan)
    (fun t => Notation.token_of_words read) (Notation.map_piece_of_words read origin))

/-- With any other literal in it, what is shown has characters that the notation does not know. -/
theorem ofLine_render_of_not_plain (h : r.WellFormed) (bad : ¬ r.Plain) (origin : Place) :
    ∃ t ∈ Notation.scan origin r.render.toList,
      ofLine origin r.render.toList = .fail (.unexpectedCharacters t.text t.location) := by
  have unread : Notation.words r.render.toList = none := by
    rw [words_render h.name h.other h.legible, if_neg bad]
  obtain ⟨t, member, unexpected⟩ := Notation.exists_unexpected_of_words unread origin
  cases found : (Notation.scan origin r.render.toList).find? (·.kind = .unexpectedFragment) with
  | none => exact absurd (decide_eq_true unexpected) (List.find?_eq_none.mp found t member)
  | some first =>
      refine ⟨first, List.mem_of_find?_eq_some found, ?_⟩
      rw [ofLine, ofTokens, found]

end Recognizer

end TokenGrammar
