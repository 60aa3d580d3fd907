import Mathlib
import TokenGrammar.Proofs.Recognizer.Alternators

/-!
# Compilation accounts for every token

A recognizer is read back into what it took from the tokens it was compiled from. Main statement: this is
the body without its empty groups, token by token and in the same order, also where tokens stray or
brackets do not match; and no bracket that strays got into a group.
-/
namespace TokenGrammar

/-- What a token is compared by. A bracket of a group, an alternator and a quantifier leave no text. -/
structure Imprint where
  kind : Notation.Kind
  text : Option String
  deriving DecidableEq, Repr

/-- What a token has to say: the name in a reference, the text that a literal stands for, or its own
text. -/
def Notation.Token.content (t : Token) : String :=
  if t.kind = .literal then t.literalValue else t.name

/-- The imprint is the token's. -/
def Imprint.Of (i : Imprint) (t : Notation.Token) : Prop :=
  i.kind = t.kind ∧ ∀ text ∈ i.text, text = t.content

mutual

/-- What a symbol was compiled from. -/
def Symbol.imprints : Symbol → List Imprint
  | .literal text => [⟨.literal, some text⟩]
  | .tokens kind quantifier explicit =>
    ⟨if explicit then .classRef else .name, some kind⟩ :: quantifier.signs.map (⟨·, none⟩)
  | .subrule name => [⟨.subruleRef, some name⟩]
  | .definition name => [⟨.definitionRef, some name⟩]
  | .group alternatives =>
    ⟨.groupOpen, none⟩ :: ([⟨.alternator, none⟩].intercalate (imprintsOfAlternatives alternatives) ++
      [⟨.groupClose, none⟩])
  | .stray t => [⟨t.kind, some t.text⟩]

def imprintsOfAlternatives : List (List Symbol) → List (List Imprint)
  | [] => []
  | symbols :: rest => imprintsOfSymbols symbols :: imprintsOfAlternatives rest

def imprintsOfSymbols : List Symbol → List Imprint
  | [] => []
  | symbol :: rest => symbol.imprints ++ imprintsOfSymbols rest

end

namespace Notation.Token

variable {t : Token}

theorem content_of_literal (h : t.kind = .literal) : t.content = t.literalValue := if_pos h

theorem content_of_ne_literal (h : t.kind ≠ .literal) : t.content = t.name := if_neg h

theorem content_of_isStray (h : t.kind.isStray = true) : t.content = t.text := by
  have other : t.kind ≠ .literal ∧ t.kind.isReference = false := by
    cases hk : t.kind <;> rw [hk] at h <;> first | (cases h; done) | exact ⟨by decide, rfl⟩
  rw [content_of_ne_literal other.1, name, other.2]
  rfl

end Notation.Token

namespace Imprint.Of

variable {t : Notation.Token} {kind : Notation.Kind}

theorem of_kind (h : t.kind = kind) : Imprint.Of ⟨kind, none⟩ t := ⟨h.symm, nofun⟩

theorem of_content {text : String} (h : t.kind = kind) (same : t.content = text) :
    Imprint.Of ⟨kind, some text⟩ t := by
  refine ⟨h.symm, ?_⟩
  rintro _ ⟨⟩
  exact same.symm

end Imprint.Of

namespace Recognizer

/-- The recognizer, read back. -/
def imprints (r : Recognizer) : List Imprint :=
  [⟨.alternator, none⟩].intercalate (imprintsOfAlternatives r.alternatives)

/-- Without each `(` with a `)` directly behind it. -/
def withoutEmptyGroups : List Notation.Token → List Notation.Token
  | opening :: close :: rest =>
    if opening.kind = .groupOpen ∧ close.kind = .groupClose then withoutEmptyGroups rest
    else opening :: withoutEmptyGroups (close :: rest)
  | tokens => tokens

variable {header t opening close : Notation.Token} {ts us inner after : List Notation.Token}

theorem withoutEmptyGroups_cons (h : t.kind ≠ .groupOpen) (ts : List Notation.Token) :
    withoutEmptyGroups (t :: ts) = t :: withoutEmptyGroups ts := by
  cases ts with
  | nil => rfl
  | cons u ts => rw [withoutEmptyGroups, if_neg fun both => h both.1]

/-- Tokens are split anywhere but in an empty group. -/
theorem withoutEmptyGroups_append (h : ∀ t ∈ ts.getLast?, t.kind ≠ .groupOpen)
    (us : List Notation.Token) :
    withoutEmptyGroups (ts ++ us) = withoutEmptyGroups ts ++ withoutEmptyGroups us := by
  fun_induction withoutEmptyGroups ts with
  | case1 opening close rest both ih =>
      have last : ∀ t ∈ rest.getLast?, t.kind ≠ .groupOpen := by
        cases rest with
        | nil => exact nofun
        | cons t rest => exact h
      rw [List.cons_append, List.cons_append, withoutEmptyGroups, if_pos both, ih last]
  | case2 opening close rest other ih =>
      rw [List.cons_append, List.cons_append, withoutEmptyGroups, if_neg other, ← List.cons_append,
        ih h, List.cons_append]
  | case3 ts short =>
      match ts with
      | [] => rfl
      | [t] => exact withoutEmptyGroups_cons (h t rfl) us
      | opening :: close :: rest => exact (short opening close rest rfl).elim

/-- The bracket of a group with contents stays. -/
theorem withoutEmptyGroups_group (hs : splitGroup 0 ts = some (inner, close, after)) (hi : inner ≠ [])
    (opening : Notation.Token) :
    withoutEmptyGroups (opening :: ts) = opening :: withoutEmptyGroups ts := by
  cases ts with
  | nil => rfl
  | cons t rest =>
      rw [withoutEmptyGroups, if_neg]
      rintro ⟨-, ht⟩
      exact head_of_splitGroup hs hi t rfl ht

/-- No group is opened by the last of some tokens, if each is closed. -/
theorem AllClosed.getLast? (h : AllClosed ts) : ∀ t ∈ ts.getLast?, t.kind ≠ .groupOpen := by
  intro t last ho
  obtain ⟨front, rfl⟩ := List.getLast?_eq_some_iff.mp last
  obtain ⟨inner, close, after, none, -, -⟩ := h t [] (List.suffix_append front [t]) ho
  cases inner <;> cases none

theorem Stands.imprints {symbol : Symbol} {own : List Diagnostic} (h : Stands t symbol own) :
    List.Forall₂ Imprint.Of symbol.imprints [t] := by
  cases h with
  | literal hk => exact .cons (.of_content hk (Notation.Token.content_of_literal hk)) .nil
  | subrule hk | definition hk =>
      have other : t.kind ≠ .literal := ne_of_eq_of_ne hk (by decide)
      exact .cons (.of_content hk (Notation.Token.content_of_ne_literal other)) .nil
  | stray hk => exact .cons (.of_content rfl (Notation.Token.content_of_isStray hk)) .nil

/-- A class reference leaves itself and the quantifier that it takes. -/
theorem imprints_of_class (hk : t.kind = .classRef ∨ t.kind = .name) {quantifier : Quantifier}
    {signs : List Notation.Token} (kinds : signs.map Notation.Token.kind = quantifier.signs) :
    List.Forall₂ Imprint.Of (Symbol.tokens t.name quantifier (t.kind = .classRef)).imprints
      (t :: signs) := by
  have literal : t.kind ≠ .literal := by
    rcases hk with hk | hk <;> exact ne_of_eq_of_ne hk (by decide)
  refine .cons (.of_content ?_ (Notation.Token.content_of_ne_literal literal)) ?_
  · rcases hk with hk | hk <;> simp [hk]
  · rw [← kinds, List.map_map, List.forall₂_map_left_iff, List.forall₂_same]
    exact fun u _ => .of_kind rfl

/-- A quantifier opens no group. -/
theorem withoutEmptyGroups_signs {signs : List Notation.Token}
    (plain : ∀ t ∈ signs, t.kind.isQuantifier = true) (us : List Notation.Token) :
    withoutEmptyGroups (signs ++ us) = signs ++ withoutEmptyGroups us := by
  induction signs with
  | nil => rfl
  | cons t signs ih =>
      obtain ⟨own, others⟩ := List.forall_mem_cons.mp plain
      have other : t.kind ≠ .groupOpen :=
        ne_of_apply_ne Notation.Kind.isQuantifier (ne_of_eq_of_ne own (by decide))
      rw [List.cons_append, withoutEmptyGroups_cons other, ih others, List.cons_append]

/-- Between the alternatives of a body stand the alternators, and no empty group reaches over one. -/
theorem imprints_of_joined {parts : List (List Notation.Token)} {body : List Notation.Token}
    {alternatives : List Alternative} (joined : Joined parts body) (closed : ∀ a ∈ parts, AllClosed a)
    (h : List.Forall₂ (fun symbols a => List.Forall₂ Imprint.Of (imprintsOfSymbols symbols)
      (withoutEmptyGroups a)) alternatives parts) :
    List.Forall₂ Imprint.Of
      ([⟨.alternator, none⟩].intercalate (imprintsOfAlternatives alternatives))
      (withoutEmptyGroups body) := by
  induction joined generalizing alternatives with
  | last a =>
      cases h with
      | cons own none =>
          cases none
          rw [imprintsOfAlternatives, imprintsOfAlternatives, List.intercalate_singleton]
          exact own
  | @cons a bar parts body hb joined ih =>
      obtain ⟨closedFirst, closedLater⟩ := List.forall_mem_cons.mp closed
      cases h with
      | cons own later =>
          have more := ih closedLater later
          have other : bar.kind ≠ .groupOpen := ne_of_eq_of_ne hb (by decide)
          rw [withoutEmptyGroups_append closedFirst.getLast?, withoutEmptyGroups_cons other]
          cases later with
          | nil => cases joined
          | cons _ _ =>
              rw [imprintsOfAlternatives, imprintsOfAlternatives, List.intercalate_cons_cons,
                ← imprintsOfAlternatives, List.append_assoc]
              exact List.rel_append own (.cons (.of_kind hb) more)

mutual

theorem BodyYields.imprints {body : List Notation.Token} {alternatives : List Alternative}
    {warnings : List Diagnostic} (h : BodyYields header body alternatives warnings)
    (clean : ∀ t ∈ body, t.kind.isTrivia = false) :
    List.Forall₂ Imprint.Of
      ([⟨.alternator, none⟩].intercalate (imprintsOfAlternatives alternatives))
      (withoutEmptyGroups body) := by
  match h with
  | .intro _ ha =>
      refine imprints_of_joined (joined_alternativesOf body)
        (fun a member => (ha.settled a member).groups.allClosed) (ha.imprints ?_)
      exact fun a member t own => clean t ((infix_of_mem_alternativesOf member).subset own)

theorem AlternativesYield.imprints {parts : List (List Notation.Token)}
    {alternatives : List Alternative} {warnings : List Diagnostic}
    (h : AlternativesYield header parts alternatives warnings)
    (clean : ∀ a ∈ parts, ∀ t ∈ a, t.kind.isTrivia = false) :
    List.Forall₂ (fun symbols a => List.Forall₂ Imprint.Of (imprintsOfSymbols symbols)
      (withoutEmptyGroups a)) alternatives parts := by
  match h with
  | .nil => exact .nil
  | .cons hs ho =>
      obtain ⟨own, others⟩ := List.forall_mem_cons.mp clean
      exact .cons (hs.imprints own) (ho.imprints others)

theorem SymbolsYield.imprints {tokens : List Notation.Token} {symbols : List Symbol}
    {warnings : List Diagnostic} (h : SymbolsYield header tokens symbols warnings)
    (clean : ∀ t ∈ tokens, t.kind.isTrivia = false) :
    List.Forall₂ Imprint.Of (imprintsOfSymbols symbols) (withoutEmptyGroups tokens) := by
  match h with
  | .nil => exact .nil
  | .single hs hr =>
      rw [withoutEmptyGroups_cons hs.kind_ne_groupOpen]
      exact List.rel_append hs.imprints (hr.imprints (List.forall_mem_cons.mp clean).2)
  | @SymbolsYield.tokens _ t rest _ _ hk hr =>
      obtain ⟨signs, whole, kinds, plain⟩ := takeQuantifier_eq rest
      have behind := (takeQuantifier_suffix rest).subset
      have more := hr.imprints fun u member => clean u (List.mem_cons_of_mem t (behind member))
      have left : withoutEmptyGroups rest = signs ++ withoutEmptyGroups (takeQuantifier rest).2 := by
        rw [← withoutEmptyGroups_signs plain, ← whole]
      rw [withoutEmptyGroups_cons (ne_groupOpen_of_class hk), left]
      exact List.rel_append (imprints_of_class hk kinds) more
  | .emptyGroup ho hc hr =>
      rw [withoutEmptyGroups, if_pos ⟨ho, hc⟩]
      exact hr.imprints fun t member =>
        clean t (List.mem_cons_of_mem _ (List.mem_cons_of_mem _ member))
  | @SymbolsYield.group _ opening rest inner close after _ _ _ _ ho hs hi hb hr =>
      have hc := kind_of_splitGroup hs
      have other : close.kind ≠ .groupOpen := ne_of_eq_of_ne hc (by decide)
      rw [withoutEmptyGroups_group hs hi]
      obtain rfl := splitGroup_eq hs
      obtain ⟨own, behind⟩ := List.forall_mem_append.mp (List.forall_mem_cons.mp clean).2
      rw [withoutEmptyGroups_append hb.settled.groups.allClosed.getLast?, withoutEmptyGroups_cons other,
        imprintsOfSymbols, Symbol.imprints, List.cons_append, List.append_assoc]
      exact .cons (.of_kind ho) (List.rel_append (hb.imprints own)
        (.cons (.of_kind hc) (hr.imprints (List.forall_mem_cons.mp behind).2)))
  | .trivia ht _ => cases ht.symm.trans (clean _ List.mem_cons_self)

end

/-- In the contents of a group brackets match. -/
theorem SymbolsYield.nested_of_group_mem {tokens : List Notation.Token} {symbols : List Symbol}
    {warnings : List Diagnostic} (h : SymbolsYield header tokens symbols warnings)
    {alternatives : List Alternative} (hg : .group alternatives ∈ symbols) :
    ∃ body own, Nested true body ∧ BodyYields header body alternatives own := by
  match h with
  | .nil => cases hg
  | .single hs hr =>
      rcases List.mem_cons.mp hg with rfl | later
      · cases hs
      · exact hr.nested_of_group_mem later
  | .tokens _ hr =>
      rcases List.mem_cons.mp hg with own | later
      · cases own
      · exact hr.nested_of_group_mem later
  | .emptyGroup _ _ hr => exact hr.nested_of_group_mem hg
  | .group _ hs _ hb hr =>
      rcases List.mem_cons.mp hg with own | later
      · cases own
        exact ⟨_, _, nested_of_splitGroup _ hs, hb⟩
      · exact hr.nested_of_group_mem later
  | .trivia _ hr => exact hr.nested_of_group_mem hg

/-- Read back, the recognizer of a body is the body without its empty groups; and what strays in a group
is no bracket, so that the groups that are read back end where they do in the body. -/
theorem imprints_of_compile {body : List Notation.Token} {r : Recognizer}
    (clean : ∀ t ∈ body, t.kind.isTrivia = false) (h : (compile header body).result = .ok r) :
    List.Forall₂ Imprint.Of r.imprints (withoutEmptyGroups body) ∧
      ∀ inner t, Occurs (.group inner) r.alternatives → Occurs (.stray t) inner →
        t.kind ≠ .groupClose := by
  obtain ⟨alternatives, _, _, hb, hp, -⟩ := Compiled.bind_eq_ok.mp (congrArg (Compiled.mk _) h)
  cases hp
  have yields := compileBody_eq_iff.mp hb
  refine ⟨yields.imprints clean, ?_⟩
  rintro inner t ⟨symbols, ha, hg⟩ ht
  obtain ⟨a, _, -, -, hy, -⟩ := yields.alternative ha
  obtain ⟨contents, _, within, hi⟩ := hy.nested_of_group_mem hg
  exact hi.kind_ne_groupClose within ht

/-- The body `() .x? (@B | ))` -/
theorem imprints_of_unmatched_bracket :
    List.Forall₂ Imprint.Of
      (imprints ⟨"A", [[.tokens "x" .optional true, .group [[.subrule "B"], []],
        .stray ⟨.groupClose, ")", ⟨⟨14, 15⟩, ⟨1, 15⟩⟩⟩]]⟩)
      (withoutEmptyGroups (Notation.scan .start "() .x? (@B | ))".toList)) := by
  have scanned : Notation.scan .start "() .x? (@B | ))".toList =
      [⟨.groupOpen, "(", ⟨⟨0, 1⟩, ⟨1, 1⟩⟩⟩, ⟨.groupClose, ")", ⟨⟨1, 2⟩, ⟨1, 2⟩⟩⟩,
        ⟨.classRef, ".x", ⟨⟨3, 5⟩, ⟨1, 4⟩⟩⟩, ⟨.optional, "?", ⟨⟨5, 6⟩, ⟨1, 6⟩⟩⟩,
        ⟨.groupOpen, "(", ⟨⟨7, 8⟩, ⟨1, 8⟩⟩⟩, ⟨.subruleRef, "@B", ⟨⟨8, 10⟩, ⟨1, 9⟩⟩⟩,
        ⟨.alternator, "|", ⟨⟨11, 12⟩, ⟨1, 12⟩⟩⟩, ⟨.groupClose, ")", ⟨⟨13, 14⟩, ⟨1, 14⟩⟩⟩,
        ⟨.groupClose, ")", ⟨⟨14, 15⟩, ⟨1, 15⟩⟩⟩] := by
    decide +kernel
  have compiled : (compile ⟨.name, "A", ⟨⟨0, 1⟩, ⟨1, 1⟩⟩⟩
      (Notation.scan .start "() .x? (@B | ))".toList)).result = .ok ⟨"A",
        [[.tokens "x" .optional true, .group [[.subrule "B"], []],
          .stray ⟨.groupClose, ")", ⟨⟨14, 15⟩, ⟨1, 15⟩⟩⟩]]⟩ := by
    rw [scanned]
    cbv
  exact (imprints_of_compile (fun _ => isTrivia_of_mem_scan) compiled).1

end Recognizer

end TokenGrammar
