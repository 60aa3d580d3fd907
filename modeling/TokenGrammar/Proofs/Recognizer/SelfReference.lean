import TokenGrammar.Proofs.Recognizer.Refused

/-!
# Where left recursion is found

A body is refused as left-recursive for a reference to the rule that is the first token of its alternative,
in the body or in the contents of a group; what stands in front of the group does not matter. Behind any other
token a reference to the rule may be placed: the body compiles with it exactly if it compiles without it.
-/
namespace TokenGrammar

namespace Compiled

variable {α β : Type}

/-- There is a result, whatever is warned of. -/
def Succeeds (x : Compiled α) : Prop := ∃ a, x.result = .ok a

theorem succeeds_pure (a : α) : (pure a : Compiled α).Succeeds := ⟨a, rfl⟩

theorem not_succeeds_fail (e : CompileError) : ¬ (fail e : Compiled α).Succeeds := by
  rintro ⟨a, h⟩
  cases h

theorem succeeds_bind_iff {x : Compiled α} {f : α → Compiled β} :
    (x >>= f).Succeeds ↔ ∃ a, x.result = .ok a ∧ (f a).Succeeds := by
  unfold Succeeds
  rw [bind_eq]
  cases hx : x.result with
  | error e => simp
  | ok a => simp

/-- If the rest succeeds with any result, only the first part counts. -/
theorem succeeds_bind_of_forall {x : Compiled α} {f : α → Compiled β} {p : Prop}
    (h : ∀ a, (f a).Succeeds ↔ p) : (x >>= f).Succeeds ↔ x.Succeeds ∧ p := by
  rw [succeeds_bind_iff]
  constructor
  · rintro ⟨a, hx, hf⟩
    exact ⟨⟨a, hx⟩, (h a).mp hf⟩
  · rintro ⟨⟨a, hx⟩, hp⟩
    exact ⟨a, hx, (h a).mpr hp⟩

theorem succeeds_map_iff {x : Compiled α} {g : α → β} :
    (x >>= fun a => pure (g a)).Succeeds ↔ x.Succeeds := by
  rw [succeeds_bind_of_forall fun a => iff_true_intro (succeeds_pure (g a)), and_true]

end Compiled

namespace Recognizer

open Compiled (Succeeds succeeds_map_iff succeeds_bind_of_forall)

variable {header opening s t : Notation.Token} {body front between behind ts us : List Notation.Token}
  {e : CompileError}

/-- The first token of an alternative of a group is the first of its alternative in the body, too. -/
theorem Foremost.opened (h : Foremost front) (opened : AllOpened front) (ho : opening.kind = .groupOpen)
    (ts : List Notation.Token) : Foremost (ts ++ opening :: front) := by
  intro before u own
  rcases List.eq_nil_or_concat' front with rfl | ⟨first, v, rfl⟩
  · obtain ⟨-, same⟩ := List.append_inj' own rfl
    cases same
    exact .inl ho
  · rw [← List.cons_append, ← List.append_assoc] at own
    obtain ⟨rfl, same⟩ := List.append_inj' own rfl
    cases same
    rcases h first _ rfl with hu | ⟨hu, -⟩
    · exact .inl hu
    · exact .inr ⟨hu, separates_of_open ho (opened.initial (List.prefix_append first _)) ts⟩

mutual

theorem BodyRefused.foremost {body : List Notation.Token} {e : CompileError}
    (h : BodyRefused header body e) (he : e.kind = .leftRecursion) :
    ∃ front t behind, body = front ++ t :: behind ∧ Foremost front ∧ NamesRule header.text t ∧
      e = .leftRecursion header.text t.location header.location := by
  match h with
  | @BodyRefused.leftRecursion _ _ t rest member names =>
      obtain ⟨front, behind, whole, first, -⟩ := exists_cut member
      exact ⟨front, t, rest ++ behind, whole, first, names, rfl⟩
  | .alternative member refused =>
      obtain ⟨before, later, whole, -, -⟩ := exists_cut member
      obtain ⟨own, opening, front, t, behind, rfl, ho, opened, first, names, same⟩ := refused.foremost he
      refine ⟨before ++ own ++ opening :: front, t, behind ++ later, ?_,
        first.opened opened ho (before ++ own), names, same⟩
      simpa using whole

theorem SymbolsRefused.foremost {ts : List Notation.Token} {e : CompileError}
    (h : SymbolsRefused header ts e) (he : e.kind = .leftRecursion) :
    ∃ own opening front t behind, ts = own ++ opening :: (front ++ t :: behind) ∧
      opening.kind = .groupOpen ∧ AllOpened front ∧ Foremost front ∧ NamesRule header.text t ∧
      e = .leftRecursion header.text t.location header.location := by
  match h with
  | .ignoration _ _ => cases he
  | .unexpected _ _ => cases he
  | .unclosed _ _ _ => cases he
  | @SymbolsRefused.group _ _ opening _ inner close after _ part ho hs refused =>
      obtain ⟨own, rfl⟩ := part
      obtain ⟨front, t, behind, rfl, first, names, same⟩ := refused.foremost he
      have opened := (nested_of_splitGroup _ hs).allOpened.initial (List.prefix_append front (t :: behind))
      refine ⟨own, opening, front, t, behind ++ close :: after, ?_, ho, opened, first, names, same⟩
      rw [splitGroup_eq hs, List.append_assoc, List.cons_append]

end

theorem succeeds_single {symbol : Symbol} {warnings : List Diagnostic} (h : Stands t symbol warnings)
    (rest : List Notation.Token) :
    (compileSymbols header (t :: rest)).Succeeds ↔ (compileSymbols header rest).Succeeds := by
  rw [compileSymbols_single h, succeeds_bind_of_forall fun _ => succeeds_map_iff]
  exact and_iff_right ⟨(), rfl⟩

/-- A quantifier compiles, whether a class reference takes it or it strays. -/
theorem succeeds_takeQuantifier (rest : List Notation.Token) :
    (compileSymbols header (takeQuantifier rest).2).Succeeds ↔
      (compileSymbols header rest).Succeeds := by
  cases rest with
  | nil => rfl
  | cons u rest =>
      rw [takeQuantifier]
      split
      · next hk => exact (succeeds_single (.stray (by rw [hk]; rfl)) rest).symm
      · next hk => exact (succeeds_single (.stray (by rw [hk]; rfl)) rest).symm
      · next hk => exact (succeeds_single (.stray (by rw [hk]; rfl)) rest).symm
      · rfl

theorem succeeds_tokens (h : t.kind = .classRef ∨ t.kind = .name) (rest : List Notation.Token) :
    (compileSymbols header (t :: rest)).Succeeds ↔ (compileSymbols header rest).Succeeds := by
  rw [compileSymbols_tokens h, succeeds_map_iff, succeeds_takeQuantifier]

theorem not_succeeds_refused (h : t.kind = .ignorationRef ∨ t.kind = .unexpectedFragment)
    (rest : List Notation.Token) : ¬ (compileSymbols header (t :: rest)).Succeeds := by
  obtain ⟨e, he⟩ : ∃ e, compileSymbols header (t :: rest) = .fail e := compileSymbols_refused h rest
  rw [he]
  exact Compiled.not_succeeds_fail e

/-- A token that opens no group compiles by itself, or never. -/
theorem succeeds_cons (ho : t.kind ≠ .groupOpen) (rest : List Notation.Token) :
    (compileSymbols header (t :: rest)).Succeeds ↔
      (t.kind ≠ .ignorationRef ∧ t.kind ≠ .unexpectedFragment) ∧
        (compileSymbols header rest).Succeeds := by
  by_cases refused : t.kind = .ignorationRef ∨ t.kind = .unexpectedFragment
  · apply iff_of_false (not_succeeds_refused refused rest)
    rintro ⟨legal, -⟩
    exact not_or.mpr legal refused
  · rw [and_iff_right (not_or.mp refused)]
    obtain ⟨hi, hu⟩ := not_or.mp refused
    cases hk : t.kind with
    | literal => exact succeeds_single (.literal hk) rest
    | subruleRef => exact succeeds_single (.subrule hk) rest
    | definitionRef => exact succeeds_single (.definition hk) rest
    | classRef => exact succeeds_tokens (.inl hk) rest
    | name => exact succeeds_tokens (.inr hk) rest
    | whitespace | lineComment => rw [compileSymbols_trivia (by rw [hk]; rfl)]
    | ignorationRef => exact absurd hk hi
    | unexpectedFragment => exact absurd hk hu
    | groupOpen => exact absurd hk ho
    | groupClose | alternator | optional | zeroOrMore | oneOrMore | assignment | terminator =>
        exact succeeds_single (.stray (by rw [hk]; rfl)) rest

theorem succeeds_alternatives (parts : List (List Notation.Token)) :
    (compileAlternatives header parts).Succeeds ↔
      ∀ a ∈ parts, (compileSymbols header a).Succeeds := by
  induction parts with
  | nil =>
      rw [compileAlternatives]
      exact iff_of_true (Compiled.succeeds_pure []) (List.forall_mem_nil _)
  | cons a rest ih =>
      rw [compileAlternatives, succeeds_bind_of_forall fun _ => succeeds_map_iff, ih,
        List.forall_mem_cons]

theorem succeeds_body (body : List Notation.Token) :
    (compileBody header body).Succeeds ↔ ∀ a ∈ alternativesOf body,
      isLeftRecursive header.text a = false ∧ (compileSymbols header a).Succeeds := by
  by_cases fronts : ∀ a ∈ alternativesOf body, isLeftRecursive header.text a = false
  · rw [compileBody_eq fronts, succeeds_alternatives]
    constructor
    · exact fun h a member => ⟨fronts a member, h a member⟩
    · exact fun h a member => (h a member).2
  · apply iff_of_false
    · rintro ⟨alternatives, h⟩
      obtain ⟨front, -⟩ := compileBody_eq_iff.mp (congrArg (Compiled.mk _) h)
      exact fronts front
    · exact fun h => fronts fun a member => (h a member).1

theorem succeeds_body_nil : (compileBody header []).Succeeds := by
  rw [succeeds_body]
  intro a member
  cases List.mem_singleton.mp member
  refine ⟨rfl, ?_⟩
  rw [compileSymbols]
  exact Compiled.succeeds_pure []

theorem succeeds_group (ho : opening.kind = .groupOpen) (rest : List Notation.Token) :
    (compileSymbols header (opening :: rest)).Succeeds ↔ ∃ found ∈ splitGroup 0 rest,
      (compileBody header found.1).Succeeds ∧ (compileSymbols header found.2.2).Succeeds := by
  cases hs : splitGroup 0 rest with
  | none =>
      rw [compileSymbols_unclosed ho hs]
      apply iff_of_false (Compiled.not_succeeds_fail _)
      rintro ⟨_, ⟨⟩, -⟩
  | some found =>
      obtain ⟨inner, close, after⟩ := found
      simp only [Option.mem_some_iff, exists_eq_left']
      by_cases empty : inner = []
      · obtain ⟨rfl, hc⟩ := splitGroup_nil_iff.mp (empty ▸ hs)
        rw [compileSymbols_emptyGroup ho hc, empty, and_iff_right succeeds_body_nil,
          succeeds_bind_of_forall fun _ => Iff.rfl]
        exact and_iff_right ⟨(), rfl⟩
      · rw [compileSymbols_group ho hs empty, succeeds_bind_of_forall fun _ => succeeds_map_iff]

/-- The first tokens are the other ones and, once or more often, a further token behind one that neither opens
a group nor separates alternatives. -/
inductive Padded (t : Notation.Token) : List Notation.Token → List Notation.Token → Prop
  | nil : Padded t [] []
  | cons (u : Notation.Token) {ts us : List Notation.Token} : Padded t ts us → Padded t (u :: ts) (u :: us)
  | insert {u : Notation.Token} {ts us : List Notation.Token} : u.kind ≠ .groupOpen → u.kind ≠ .alternator →
      Padded t ts us → Padded t (u :: t :: ts) (u :: us)

namespace NamesRule

variable {rule : String}

theorem kind_cases (h : NamesRule rule t) : t.kind = .literal ∨ t.kind = .subruleRef ∨ t.kind = .name := by
  rcases h with ⟨hk, -⟩ | ⟨hk | hk, -⟩
  · exact .inl hk
  · exact .inr (.inl hk)
  · exact .inr (.inr hk)

theorem splitAlternatives (h : NamesRule rule t) (depth : Int) (rest : List Notation.Token) :
    splitAlternatives depth (t :: rest) =
      (t :: (splitAlternatives depth rest).1, (splitAlternatives depth rest).2) := by
  rcases h.kind_cases with hk | hk | hk <;> simp [Recognizer.splitAlternatives, nesting, hk]

theorem splitGroup (h : NamesRule rule t) (depth : Int) (rest : List Notation.Token) :
    splitGroup depth (t :: rest) =
      (splitGroup depth rest).map fun (inner, after) => (t :: inner, after) := by
  rcases h.kind_cases with hk | hk | hk <;> simp [Recognizer.splitGroup, nesting, hk]

theorem succeeds (h : NamesRule rule t) (rest : List Notation.Token) :
    (compileSymbols header (t :: rest)).Succeeds ↔ (compileSymbols header rest).Succeeds := by
  rcases h.kind_cases with hk | hk | hk
  · exact succeeds_single (.literal hk) rest
  · exact succeeds_single (.subrule hk) rest
  · exact succeeds_tokens (.inr hk) rest

end NamesRule

theorem forall_mem_congr_of_forall₂ {α β : Type} {r : α → β → Prop} {p : α → Prop} {q : β → Prop}
    {xs : List α} {ys : List β} (h : List.Forall₂ r xs ys) (hr : ∀ x, ∀ y ∈ ys, r x y → (p x ↔ q y)) :
    (∀ x ∈ xs, p x) ↔ ∀ y ∈ ys, q y := by
  induction h with
  | nil => exact iff_of_true nofun nofun
  | cons own _ ih =>
      rw [List.forall_mem_cons, List.forall_mem_cons, hr _ _ List.mem_cons_self own,
        ih fun x y member => hr x y (List.mem_cons_of_mem _ member)]

theorem exists_mem_congr_of_rel {α β : Type} {r : α → β → Prop} {p : α → Prop} {q : β → Prop}
    {x : Option α} {y : Option β} (h : Option.Rel r x y) (hr : ∀ a, ∀ b ∈ y, r a b → (p a ↔ q b)) :
    (∃ a ∈ x, p a) ↔ ∃ b ∈ y, q b := by
  cases h with
  | none => simp
  | some own => simpa using hr _ _ rfl own

theorem optionRel_map {α β γ δ : Type} {r : α → β → Prop} {r' : γ → δ → Prop} {f : α → γ} {g : β → δ}
    {x : Option α} {y : Option β} (h : Option.Rel r x y) (hr : ∀ a b, r a b → r' (f a) (g b)) :
    Option.Rel r' (x.map f) (y.map g) := by
  cases h with
  | none => exact .none
  | some own => exact .some (hr _ _ own)

/-- Two groups that were split off, and what stands behind them. -/
def SplitAlike (t : Notation.Token)
    (x y : List Notation.Token × Notation.Token × List Notation.Token) : Prop :=
  Padded t x.1 y.1 ∧ (Padded t x.2.2 y.2.2 ∨ ∃ later, x.2.2 = t :: later ∧ Padded t later y.2.2)

namespace Padded

theorem refl (t : Notation.Token) (ts : List Notation.Token) : Padded t ts ts := by
  induction ts with
  | nil => exact .nil
  | cons u ts ih => exact .cons u ih

theorem append (front : List Notation.Token) (h : Padded t ts us) : Padded t (front ++ ts) (front ++ us) := by
  induction front with
  | nil => exact h
  | cons u front ih => exact .cons u ih

/-- The first token stays. -/
theorem isLeftRecursive_eq (h : Padded t ts us) (rule : String) :
    isLeftRecursive rule ts = isLeftRecursive rule us := by
  cases h with
  | nil => rfl
  | cons => rfl
  | insert => rfl

variable {rule : String}

theorem splitAlternatives (names : NamesRule rule t) (h : Padded t ts us) (depth : Int) :
    Padded t (splitAlternatives depth ts).1 (splitAlternatives depth us).1 ∧
      List.Forall₂ (Padded t) (splitAlternatives depth ts).2 (splitAlternatives depth us).2 := by
  induction h generalizing depth with
  | nil => exact ⟨.nil, .nil⟩
  | cons u _ ih =>
      rw [Recognizer.splitAlternatives, Recognizer.splitAlternatives]
      split
      · obtain ⟨first, others⟩ := ih depth
        exact ⟨.nil, .cons first others⟩
      · obtain ⟨first, others⟩ := ih (depth + nesting u.kind)
        exact ⟨.cons u first, others⟩
  | @insert u ts us ho ha _ ih =>
      obtain ⟨first, others⟩ := ih (depth + nesting u.kind)
      rw [Recognizer.splitAlternatives, if_neg fun bar => ha bar.1, names.splitAlternatives,
        Recognizer.splitAlternatives, if_neg fun bar => ha bar.1]
      exact ⟨.insert ho ha first, others⟩

theorem alternativesOf (names : NamesRule rule t) (h : Padded t ts us) :
    List.Forall₂ (Padded t) (alternativesOf ts) (alternativesOf us) := by
  obtain ⟨first, others⟩ := h.splitAlternatives names 0
  exact .cons first others

/-- A group gets the token, or what stands behind it does, where the token may be the first one. -/
theorem splitGroup (names : NamesRule rule t) (h : Padded t ts us) (depth : Int) :
    Option.Rel (SplitAlike t) (splitGroup depth ts) (splitGroup depth us) := by
  induction h generalizing depth with
  | nil => exact .none
  | cons u behind ih =>
      rw [Recognizer.splitGroup, Recognizer.splitGroup]
      split
      · exact .some ⟨.nil, .inl behind⟩
      · exact optionRel_map (ih (depth + nesting u.kind)) fun _ _ parts => ⟨.cons u parts.1, parts.2⟩
  | @insert u ts us ho ha behind ih =>
      rw [Recognizer.splitGroup, Recognizer.splitGroup.eq_def depth (u :: us)]
      simp only
      split
      · exact .some ⟨.nil, .inr ⟨ts, rfl, behind⟩⟩
      · rw [names.splitGroup, Option.map_map]
        exact optionRel_map (ih (depth + nesting u.kind)) fun _ _ parts => ⟨.insert ho ha parts.1, parts.2⟩

theorem length_le (h : Padded t ts us) : us.length ≤ ts.length := by
  induction h with
  | nil => exact Nat.le_refl 0
  | cons _ _ ih => exact Nat.succ_le_succ ih
  | insert _ _ _ ih => exact Nat.succ_le_succ (Nat.le_succ_of_le ih)

theorem succeeds_body (names : NamesRule header.text t) (h : Padded t ts us)
    (parts : ∀ a b, b ∈ Recognizer.alternativesOf us → Padded t a b →
      ((compileSymbols header a).Succeeds ↔ (compileSymbols header b).Succeeds)) :
    (compileBody header ts).Succeeds ↔ (compileBody header us).Succeeds := by
  rw [Recognizer.succeeds_body, Recognizer.succeeds_body]
  apply forall_mem_congr_of_forall₂ (h.alternativesOf names)
  intro a b member padded
  rw [padded.isLeftRecursive_eq, parts a b member padded]

/-- With the further token compiles what compiles without it. -/
theorem succeeds (names : NamesRule header.text t) (us ts : List Notation.Token) (h : Padded t ts us) :
    (compileSymbols header ts).Succeeds ↔ (compileSymbols header us).Succeeds := by
  match us, ts, h with
  | _, _, .nil => rfl
  | _, _, @Padded.insert _ u ts us ho ha behind =>
      rw [succeeds_cons ho, succeeds_cons ho, names.succeeds, behind.succeeds names us ts]
  | _, _, @Padded.cons _ u ts us behind =>
      by_cases ho : u.kind = .groupOpen
      · rw [succeeds_group ho, succeeds_group ho]
        apply exists_mem_congr_of_rel (behind.splitGroup names 0)
        rintro ⟨inner, _, after⟩ ⟨inner', close, after'⟩ split ⟨within, later⟩
        have lengths : us.length = inner'.length + (after'.length + 1) := by
          rw [splitGroup_eq split, List.length_append, List.length_cons]
        have own : (compileBody header inner).Succeeds ↔ (compileBody header inner').Succeeds := by
          apply within.succeeds_body names
          intro a b member padded
          have shorter : b.length ≤ inner'.length := (infix_of_mem_alternativesOf member).length_le
          exact padded.succeeds names b a
        have rest : (compileSymbols header after).Succeeds ↔ (compileSymbols header after').Succeeds := by
          rcases later with later | ⟨tail, rfl, later⟩
          · exact later.succeeds names after' after
          · rw [names.succeeds, later.succeeds names after' tail]
        exact and_congr own rest
      · rw [succeeds_cons ho, succeeds_cons ho, behind.succeeds names us ts]
termination_by us.length
decreasing_by all_goals simp only [List.length_cons]; omega

/-- A token may be placed behind one that neither opens a group nor separates alternatives. -/
theorem place (h : ∀ u ∈ front.getLast?, u.kind ≠ .groupOpen ∧ u.kind ≠ .alternator) (filled : front ≠ [])
    (behind : List Notation.Token) : Padded t (front ++ t :: behind) (front ++ behind) := by
  obtain ⟨first, u, rfl⟩ := List.eq_nil_or_concat' front |>.resolve_left filled
  obtain ⟨ho, ha⟩ := h u List.getLast?_concat
  rw [List.append_assoc, List.append_assoc]
  exact append first (.insert ho ha (refl t behind))

end Padded

/-- Tokens whose brackets match, without an alternator outside of them, end with no alternator and no opening
bracket. -/
theorem Nested.getLast? {free : Bool} (h : Nested free ts) (hf : free = false) :
    ∀ u ∈ ts.getLast?, u.kind ≠ .groupOpen ∧ u.kind ≠ .alternator := by
  induction h with
  | nil => exact nofun
  | @plain _ u rest ho hc ha _ ih =>
      intro v last
      cases rest with
      | nil =>
          cases last
          exact ⟨ho, fun bar => Bool.false_ne_true (hf.symm.trans (ha bar))⟩
      | cons w rest => exact ih hf v last
  | @group _ opening inner close after ho hc _ _ _ ih =>
      intro v last
      rw [← List.cons_append, List.getLast?_append_of_ne_nil _ (List.cons_ne_nil close after)] at last
      cases after with
      | nil =>
          cases last
          constructor <;> exact ne_of_eq_of_ne hc (by decide)
      | cons w after => exact ih hf v last

/-- A line is refused as left-recursive at a token that refers to the rule and has no token of its own
alternative in front. And behind any token of its alternative but a bracket that opens a group, in a group or
not, such a reference keeps nothing from compiling. -/
theorem foremost_of_leftRecursion :
    (∀ (origin : Place) (line : List Char) (rule : String) (l declared : Location),
      (ofLine origin line).result = .error (.leftRecursion rule l declared) →
      ∃ header body front t behind, IsRule header body (Notation.scan origin line) ∧
        rule = header.text ∧ declared = header.location ∧ body = front ++ t :: behind ∧ l = t.location ∧
        NamesRule rule t ∧ Foremost front) ∧
    ∀ (header s t : Notation.Token) (front between behind : List Notation.Token),
      s.kind ≠ .alternator → s.kind ≠ .groupOpen → Nested false between → NamesRule header.text t →
      ((compile header (front ++ s :: (between ++ t :: behind))).Succeeds ↔
        (compile header (front ++ s :: (between ++ behind))).Succeeds) := by
  constructor
  · intro origin line rule l declared h
    obtain ⟨header, body, own, refused⟩ := bodyRefused_of_ofTokens h (by simp [CompileError.kind])
    obtain ⟨front, t, behind, whole, first, names, same⟩ := refused.foremost rfl
    cases same
    exact ⟨header, body, front, t, behind, own, rfl, rfl, whole, rfl, names, first⟩
  · intro header s t front between behind ha ho nested names
    have last : ∀ u ∈ (front ++ s :: between).getLast?, u.kind ≠ .groupOpen ∧ u.kind ≠ .alternator := by
      rw [List.getLast?_append_of_ne_nil _ (List.cons_ne_nil s between)]
      cases between with
      | nil =>
          rintro _ ⟨⟩
          exact ⟨ho, ha⟩
      | cons u between => exact nested.getLast? rfl
    have padded : Padded t (front ++ s :: (between ++ t :: behind)) (front ++ s :: (between ++ behind)) := by
      simpa using Padded.place last (by simp) behind
    rw [compile, compile, succeeds_map_iff, succeeds_map_iff]
    exact padded.succeeds_body names fun a b _ part => part.succeeds names b a

/-- The tokens of the line `A = "x" (@A);` -/
theorem scan_groupedTail : Notation.scan .start "A = \"x\" (@A);".toList =
    [⟨.name, "A", ⟨⟨0, 1⟩, ⟨1, 1⟩⟩⟩, ⟨.assignment, "=", ⟨⟨2, 3⟩, ⟨1, 3⟩⟩⟩,
      ⟨.literal, "\"x\"", ⟨⟨4, 7⟩, ⟨1, 5⟩⟩⟩, ⟨.groupOpen, "(", ⟨⟨8, 9⟩, ⟨1, 9⟩⟩⟩,
      ⟨.subruleRef, "@A", ⟨⟨9, 11⟩, ⟨1, 10⟩⟩⟩, ⟨.groupClose, ")", ⟨⟨11, 12⟩, ⟨1, 12⟩⟩⟩,
      ⟨.terminator, ";", ⟨⟨12, 13⟩, ⟨1, 13⟩⟩⟩] := by
  decide +kernel

theorem ofLine_groupedTail : (ofLine .start "A = \"x\" (@A);".toList).result =
    .error (.leftRecursion "A" ⟨⟨9, 11⟩, ⟨1, 10⟩⟩ ⟨⟨0, 1⟩, ⟨1, 1⟩⟩) := by
  rw [ofLine, scan_groupedTail]
  generalize (Place.after .start _).covering [] = stop
  cbv

/-- The line is refused at `@A` and not for the literal in front of the group; in the body `"x" ("y" @A)` the
reference is behind a token of its alternative. -/
theorem foremost_of_groupedTail :
    (∃ header body front t behind, IsRule header body (Notation.scan .start "A = \"x\" (@A);".toList) ∧
      "A" = header.text ∧ ⟨⟨0, 1⟩, ⟨1, 1⟩⟩ = header.location ∧ body = front ++ t :: behind ∧
      ⟨⟨9, 11⟩, ⟨1, 10⟩⟩ = t.location ∧ NamesRule "A" t ∧ Foremost front) ∧
    (compile ⟨.name, "A", ⟨⟨0, 1⟩, ⟨1, 1⟩⟩⟩
      [⟨.literal, "\"x\"", ⟨⟨4, 7⟩, ⟨1, 5⟩⟩⟩, ⟨.groupOpen, "(", ⟨⟨8, 9⟩, ⟨1, 9⟩⟩⟩,
        ⟨.literal, "\"y\"", ⟨⟨9, 12⟩, ⟨1, 10⟩⟩⟩, ⟨.subruleRef, "@A", ⟨⟨13, 15⟩, ⟨1, 14⟩⟩⟩,
        ⟨.groupClose, ")", ⟨⟨15, 16⟩, ⟨1, 16⟩⟩⟩]).Succeeds := by
  constructor
  · exact foremost_of_leftRecursion.1 _ _ _ _ _ ofLine_groupedTail
  · refine (foremost_of_leftRecursion.2 _ ⟨.literal, "\"y\"", ⟨⟨9, 12⟩, ⟨1, 10⟩⟩⟩
      ⟨.subruleRef, "@A", ⟨⟨13, 15⟩, ⟨1, 14⟩⟩⟩ [_, _] [] [_] (by decide) (by decide) .nil
      (.inr ⟨.inl rfl, by decide +kernel⟩)).mpr ?_
    exact ⟨⟨"A", [[.literal "x", .group [[.literal "y"]]]]⟩, by cbv⟩

/-- The token makes a symbol that takes at least one token. -/
def TakesToken (s : Notation.Token) (behind : List Notation.Token) : Prop :=
  s.kind = .literal ∨ (s.kind = .classRef ∨ s.kind = .name) ∧ (takeQuantifier behind).1.least = 1

/-- What follows these tokens is in the alternative of what is in front of them, or in a group that stands
further behind in that alternative. -/
def LeadsInto (between : List Notation.Token) : Prop :=
  Nested false between ∨ ∃ own opening inside, between = own ++ opening :: inside ∧ Nested false own ∧
    opening.kind = .groupOpen ∧ AllOpened inside

/-- A line may be refused as left-recursive at a token that is reached behind others only. -/
theorem takesToken_of_leftRecursion :
    ¬ ∀ (origin : Place) (line : List Char) (rule : String) (l declared : Location),
      (ofLine origin line).result = .error (.leftRecursion rule l declared) →
      ∀ header body front s between t behind, IsRule header body (Notation.scan origin line) →
        body = front ++ s :: (between ++ t :: behind) → t.location = l → LeadsInto between →
        ¬ TakesToken s (between ++ t :: behind) := by
  intro never
  refine never _ _ _ _ _ ofLine_groupedTail _ _ [] _ [_] _ [_] ⟨_, _, scan_groupedTail, rfl, rfl, rfl⟩
    rfl rfl (.inr ⟨[], _, [], rfl, .nil, rfl, ?_⟩) (.inl rfl)
  intro front own
  cases List.prefix_nil.mp own
  exact Nat.le_refl 0

end Recognizer

end TokenGrammar
