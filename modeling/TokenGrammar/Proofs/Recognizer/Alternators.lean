import TokenGrammar.Proofs.Match.LeftCalls
import TokenGrammar.Proofs.Recognizer.Acceptance

/-!
# Where alternators end up

An alternator separates alternatives of the group that it stands in, or of the body if it stands in none.
Behind an unmatched bracket the alternators of the body stray, as the bracket does. The compiler cuts at the
alternators at depth zero; in what compiles, these are the ones to separate, as no cut may leave a group open.
Main statement: so many alternatives has the recognizer, so many each of its groups, and just these alternators
and brackets stray.
-/
namespace TokenGrammar

mutual

/-- The stray tokens of a symbol, those in groups included. -/
def Symbol.strays : Symbol → List Notation.Token
  | .group alternatives => straysOfAlternatives alternatives
  | .stray t => [t]
  | _ => []

def straysOfAlternatives : List (List Symbol) → List Notation.Token
  | [] => []
  | symbols :: rest => straysOfSymbols symbols ++ straysOfAlternatives rest

def straysOfSymbols : List Symbol → List Notation.Token
  | [] => []
  | symbol :: rest => symbol.strays ++ straysOfSymbols rest

end

namespace Recognizer

/-- The tokens of which this holds together with all tokens in front of them. -/
def tokensWhere (p : List Notation.Token → Notation.Token → Prop) [∀ front t, Decidable (p front t)] :
    List Notation.Token → List Notation.Token
  | [] => []
  | t :: ts => (if p [] t then [t] else []) ++ tokensWhere (fun front => p (t :: front)) ts

/-- The alternator stands directly among the tokens, in no group of them. -/
def Direct (front : List Notation.Token) (t : Notation.Token) : Prop :=
  t.kind = .alternator ∧ openGroups 0 front = 0

/-- The alternator stands in no group, and behind no unmatched bracket. -/
def Divides (front : List Notation.Token) (t : Notation.Token) : Prop :=
  Direct front t ∧ AllOpened front

/-- The bracket is unmatched, or the alternator stands in no group but behind an unmatched bracket. -/
def Astray (front : List Notation.Token) (t : Notation.Token) : Prop :=
  openGroups 0 front = 0 ∧ (t.kind = .groupClose ∨ t.kind = .alternator ∧ ¬ AllOpened front)

/-- The token is an alternator or a closing bracket, and stands in no group. -/
def Loose (front : List Notation.Token) (t : Notation.Token) : Prop :=
  openGroups 0 front = 0 ∧ (t.kind = .groupClose ∨ t.kind = .alternator)

instance (front : List Notation.Token) (t : Notation.Token) : Decidable (Loose front t) :=
  inferInstanceAs (Decidable (_ ∧ _))

instance (front : List Notation.Token) (t : Notation.Token) : Decidable (Direct front t) :=
  inferInstanceAs (Decidable (_ ∧ _))

instance (front : List Notation.Token) (t : Notation.Token) : Decidable (Divides front t) :=
  inferInstanceAs (Decidable (_ ∧ _))

instance (front : List Notation.Token) (t : Notation.Token) : Decidable (Astray front t) :=
  inferInstanceAs (Decidable (_ ∧ _))

/-- The contents of the groups that are opened in the tokens and not empty, in order of their opening
brackets. -/
inductive GroupsOf : List Notation.Token → List (List Notation.Token) → Prop
  | nil : GroupsOf [] []
  | plain {t ts groups} : t.kind ≠ .groupOpen → GroupsOf ts groups → GroupsOf (t :: ts) groups
  | empty {opening ts groups} : opening.kind = .groupOpen → IsContents [] ts → GroupsOf ts groups →
      GroupsOf (opening :: ts) groups
  | filled {opening inner ts groups} : opening.kind = .groupOpen → inner ≠ [] → IsContents inner ts →
      GroupsOf ts groups → GroupsOf (opening :: ts) (inner :: groups)

variable {header t opening close : Notation.Token} {body ts us inner after : List Notation.Token}
  {parts : List (List Notation.Token)}

section

variable {p q : List Notation.Token → Notation.Token → Prop} [∀ front t, Decidable (p front t)]
  [∀ front t, Decidable (q front t)]

theorem tokensWhere_append (ts us : List Notation.Token) :
    tokensWhere p (ts ++ us) = tokensWhere p ts ++ tokensWhere (fun front => p (ts ++ front)) us := by
  induction ts generalizing p with
  | nil => rfl
  | cons t ts ih => simp only [List.cons_append, tokensWhere, ih, List.append_assoc]

theorem tokensWhere_congr (h : ∀ front t, front ++ [t] <+: ts → (p front t ↔ q front t)) :
    tokensWhere p ts = tokensWhere q ts := by
  induction ts generalizing p q with
  | nil => rfl
  | cons t ts ih =>
      rw [tokensWhere, tokensWhere]
      congr 1
      · exact if_congr (h [] t (List.prefix_append [t] ts)) rfl rfl
      · apply ih
        intro front u own
        exact h (t :: front) u ((List.prefix_cons_inj t).mpr own)

theorem tokensWhere_eq_nil (h : ∀ front t, front ++ [t] <+: ts → ¬ p front t) : tokensWhere p ts = [] := by
  induction ts generalizing p with
  | nil => rfl
  | cons t ts ih =>
      rw [tokensWhere, if_neg (h [] t (List.prefix_append [t] ts)), List.nil_append]
      apply ih
      intro front u own
      exact h (t :: front) u ((List.prefix_cons_inj t).mpr own)

/-- Where one part ends, its last token and what follows are looked at apart. -/
theorem tokensWhere_cut (first : List Notation.Token) (bar : Notation.Token) (rest : List Notation.Token)
    (shift : ∀ front t, p (first ++ bar :: front) t ↔ q front t) :
    tokensWhere p (first ++ bar :: rest) =
      tokensWhere p first ++ ((if p first bar then [bar] else []) ++ tokensWhere q rest) := by
  rw [tokensWhere_append, tokensWhere, List.append_nil]
  congr 2
  exact tokensWhere_congr fun front t _ => shift front t

end

/-- No cut leaves a group open, so as many brackets are opened as closed in front of it, each where it
belongs. -/
theorem nested_of_level (closed : AllClosed ts) (level : Level 0 ts) : Nested true ts := by
  have none := AllClosed.openGroups_eq ts closed
  apply nested_of_allClosed ts closed
  rw [allOpened_iff, none]
  unfold Level at level
  omega

theorem Uncut.not_allOpened {front : List Notation.Token} (h : Uncut 0 ts) (own : front ++ [t] <+: ts)
    (direct : Direct front t) : ¬ AllOpened front := by
  intro opened
  apply h front t own direct.1
  have whole := opened.openGroups_eq 0
  rw [direct.2] at whole
  unfold Level
  omega

section

variable {first front : List Notation.Token} {bar : Notation.Token}

theorem divides_of_level (closed : AllClosed first) (level : Level 0 first) (hb : bar.kind = .alternator) :
    Divides first bar := by
  have nested := nested_of_level closed level
  exact ⟨⟨hb, nested.openGroups_eq 0⟩, nested.allOpened⟩

theorem nested_append_bar (closed : AllClosed first) (level : Level 0 first)
    (hb : bar.kind = .alternator) : Nested true (first ++ [bar]) := by
  apply (nested_of_level closed level).append
  refine .single ?_ ?_ fun _ => rfl <;> exact ne_of_eq_of_ne hb (by decide)

/-- What follows a cut is looked at as if it were a body by itself. -/
theorem openGroups_behind_cut (closed : AllClosed first) (level : Level 0 first)
    (hb : bar.kind = .alternator) : openGroups 0 (first ++ bar :: front) = openGroups 0 front := by
  rw [List.append_cons, openGroups_append, (nested_append_bar closed level hb).openGroups_eq]

theorem allOpened_behind_cut (closed : AllClosed first) (level : Level 0 first)
    (hb : bar.kind = .alternator) : AllOpened (first ++ bar :: front) ↔ AllOpened front := by
  rw [List.append_cons, (nested_append_bar closed level hb).allOpened_append_iff]

end

theorem Uncut.tokensWhere_divides (h : Uncut 0 ts) : tokensWhere Divides ts = [] := by
  apply tokensWhere_eq_nil
  intro front t own divides
  exact h.not_allOpened own divides.1 divides.2

/-- In a part of a body all its alternators stray that are in no group. -/
theorem Uncut.tokensWhere_astray (h : Uncut 0 ts) : tokensWhere Astray ts = tokensWhere Loose ts := by
  apply tokensWhere_congr
  intro front t own
  constructor
  · rintro ⟨none, hc | ⟨hb, -⟩⟩
    · exact ⟨none, .inl hc⟩
    · exact ⟨none, .inr hb⟩
  · rintro ⟨none, hc | hb⟩
    · exact ⟨none, .inl hc⟩
    · exact ⟨none, .inr ⟨hb, h.not_allOpened own ⟨hb, none⟩⟩⟩

/-- A body has one part more than alternators that divide it. -/
theorem Cuts.length_eq {depth : Int} (h : Cuts depth parts body) (hd : depth = 0)
    (closed : ∀ a ∈ parts, AllClosed a) : parts.length = 1 + (tokensWhere Divides body).length := by
  induction h with
  | last uncut =>
      subst hd
      rw [uncut.tokensWhere_divides]
      rfl
  | @cons _ first bar parts body uncut hb level _ ih =>
      subst hd
      obtain ⟨own, others⟩ := List.forall_mem_cons.mp closed
      have shift (front : List Notation.Token) (t : Notation.Token) :
          Divides (first ++ bar :: front) t ↔ Divides front t := by
        unfold Divides Direct
        rw [openGroups_behind_cut own level hb, allOpened_behind_cut own level hb]
      rw [tokensWhere_cut first bar body shift, uncut.tokensWhere_divides,
        if_pos (divides_of_level own level hb), List.length_cons, ih rfl others]
      simp
      omega

/-- What is loose in a part strays in the body. -/
theorem Cuts.flatMap_loose {depth : Int} (h : Cuts depth parts body) (hd : depth = 0)
    (closed : ∀ a ∈ parts, AllClosed a) : parts.flatMap (tokensWhere Loose) = tokensWhere Astray body := by
  induction h with
  | last uncut =>
      subst hd
      rw [uncut.tokensWhere_astray, List.flatMap_singleton]
  | @cons _ first bar parts body uncut hb level _ ih =>
      subst hd
      obtain ⟨own, others⟩ := List.forall_mem_cons.mp closed
      have shift (front : List Notation.Token) (t : Notation.Token) :
          Astray (first ++ bar :: front) t ↔ Astray front t := by
        unfold Astray
        rw [openGroups_behind_cut own level hb, allOpened_behind_cut own level hb]
      have kept : ¬ Astray first bar := by
        rintro ⟨-, hc | ⟨-, unmatched⟩⟩
        · cases hb.symm.trans hc
        · exact unmatched (nested_of_level own level).allOpened
      rw [tokensWhere_cut first bar body shift, uncut.tokensWhere_astray, if_neg kept, List.flatMap_cons,
        ih rfl others, List.nil_append]

/-- Where brackets match, every alternator in no group divides. -/
theorem Nested.tokensWhere_divides (h : Nested true ts) : tokensWhere Divides ts = tokensWhere Direct ts := by
  apply tokensWhere_congr
  intro front t own
  have opened : AllOpened front :=
    h.allOpened.initial ((List.prefix_append front [t]).trans own)
  exact and_iff_left opened

/-- Where brackets match, nothing strays. -/
theorem Nested.tokensWhere_astray (h : Nested true ts) : tokensWhere Astray ts = [] := by
  apply tokensWhere_eq_nil
  rintro front t own ⟨none, hc | ⟨-, unmatched⟩⟩
  · have counts := h.allOpened _ own
    have opened := h.allOpened.initial ((List.prefix_append front [t]).trans own)
    have whole := opened.openGroups_eq 0
    simp [hc] at counts
    omega
  · exact unmatched (h.allOpened.initial ((List.prefix_append front [t]).trans own))

/-- The alternators and closing brackets among the tokens. -/
def marks (ts : List Notation.Token) : List Notation.Token :=
  ts.filter fun t => t.kind = .groupClose ∨ t.kind = .alternator

theorem marks_append (ts us : List Notation.Token) : marks (ts ++ us) = marks ts ++ marks us :=
  List.filter_append ..

/-- A token that opens no group leaves those behind it as loose as they are. -/
theorem loose_cons (ho : t.kind ≠ .groupOpen) (ts : List Notation.Token) :
    tokensWhere Loose (t :: ts) = marks [t] ++ tokensWhere Loose ts := by
  have same (front : List Notation.Token) : openGroups 0 (t :: front) = openGroups 0 front := by
    by_cases hc : t.kind = .groupClose
    · rw [openGroups_close hc]
    · rw [openGroups_plain ho hc]
  rw [tokensWhere]
  congr 1
  · simp [marks, Loose, openGroups, List.filter_cons]
  · apply tokensWhere_congr
    intro front u _
    unfold Loose
    rw [same]

/-- Nothing in a group is loose, and the bracket that ends it is not. -/
theorem loose_group (ho : opening.kind = .groupOpen) (hc : close.kind = .groupClose)
    (hn : Nested true inner) (after : List Notation.Token) :
    tokensWhere Loose (opening :: (inner ++ close :: after)) = tokensWhere Loose after := by
  have ended (front : List Notation.Token) :
      openGroups 0 (opening :: inner ++ close :: front) = openGroups 0 front := by
    rw [List.cons_append, openGroups_open ho, openGroups_append, hn.openGroups_eq, openGroups_close hc]
  have shift (front : List Notation.Token) (t : Notation.Token) :
      Loose (opening :: inner ++ close :: front) t ↔ Loose front t := by
    unfold Loose
    rw [ended]
  have bracket : ¬ Loose (opening :: inner) close := by
    rintro ⟨none, -⟩
    rw [openGroups_open ho, hn.openGroups_eq] at none
    cases none
  have within : tokensWhere Loose (opening :: inner) = [] := by
    apply tokensWhere_eq_nil
    rintro front t own ⟨none, mark⟩
    cases front with
    | nil =>
        obtain ⟨rfl, -⟩ := List.cons_prefix_cons.mp own
        rcases mark with mark | mark <;> cases ho.symm.trans mark
    | cons first front =>
        obtain ⟨rfl, later⟩ := List.cons_prefix_cons.mp own
        have opened := hn.allOpened.initial ((List.prefix_append front [t]).trans later)
        have some := opened.le_openGroups (0 + 1)
        rw [openGroups_open ho] at none
        omega
  rw [← List.cons_append, tokensWhere_cut (opening :: inner) close after shift, within, if_neg bracket]
  rfl

theorem loose_plain (ho : t.kind ≠ .groupOpen) (hc : t.kind ≠ .groupClose) (ha : t.kind ≠ .alternator)
    (ts : List Notation.Token) : tokensWhere Loose (t :: ts) = tokensWhere Loose ts := by
  rw [loose_cons ho]
  simp [marks, hc, ha]

theorem loose_signs {signs : List Notation.Token} (plain : ∀ t ∈ signs, t.kind.isQuantifier = true)
    (us : List Notation.Token) : tokensWhere Loose (signs ++ us) = tokensWhere Loose us := by
  induction signs with
  | nil => rfl
  | cons t signs ih =>
      obtain ⟨own, others⟩ := List.forall_mem_cons.mp plain
      rw [List.cons_append, ← ih others]
      apply loose_plain <;>
        exact ne_of_apply_ne Notation.Kind.isQuantifier (ne_of_eq_of_ne own (by decide))

theorem loose_tokens (hk : t.kind = .classRef ∨ t.kind = .name) (rest : List Notation.Token) :
    tokensWhere Loose (t :: rest) = tokensWhere Loose (takeQuantifier rest).2 := by
  obtain ⟨signs, whole, -, plain⟩ := takeQuantifier_eq rest
  calc
    tokensWhere Loose (t :: rest) = tokensWhere Loose rest := by
      apply loose_plain <;> rcases hk with hk | hk <;> exact ne_of_eq_of_ne hk (by decide)
    _ = tokensWhere Loose (signs ++ (takeQuantifier rest).2) := congrArg _ whole
    _ = tokensWhere Loose (takeQuantifier rest).2 := loose_signs plain _

theorem Stands.marks_strays {symbol : Symbol} {own : List Diagnostic} (h : Stands t symbol own) :
    marks symbol.strays = marks [t] := by
  cases h with
  | literal hk | subrule hk | definition hk => simp [marks, Symbol.strays, hk]
  | stray => rfl

mutual

theorem BodyYields.marks_strays {body : List Notation.Token} {alternatives : List Alternative}
    {warnings : List Diagnostic} (h : BodyYields header body alternatives warnings) :
    marks (straysOfAlternatives alternatives) = tokensWhere Astray body := by
  match h with
  | .intro _ ha =>
      rw [ha.marks_strays]
      exact (cuts_alternativesOf body).flatMap_loose rfl
        fun a member => (ha.settled a member).groups.allClosed

theorem AlternativesYield.marks_strays {parts : List (List Notation.Token)}
    {alternatives : List Alternative} {warnings : List Diagnostic}
    (h : AlternativesYield header parts alternatives warnings) :
    marks (straysOfAlternatives alternatives) = parts.flatMap (tokensWhere Loose) := by
  match h with
  | .nil => rfl
  | .cons hs ho =>
      rw [straysOfAlternatives, marks_append, hs.marks_strays, ho.marks_strays, List.flatMap_cons]

theorem SymbolsYield.marks_strays {tokens : List Notation.Token} {symbols : List Symbol}
    {warnings : List Diagnostic} (h : SymbolsYield header tokens symbols warnings) :
    marks (straysOfSymbols symbols) = tokensWhere Loose tokens := by
  match h with
  | .nil => rfl
  | .single hs hr =>
      rw [straysOfSymbols, marks_append, hs.marks_strays, hr.marks_strays,
        loose_cons hs.kind_ne_groupOpen]
  | .tokens hk hr =>
      rw [straysOfSymbols, marks_append, hr.marks_strays, loose_tokens hk]
      rfl
  | .emptyGroup ho hc hr => rw [hr.marks_strays, ← loose_group ho hc .nil, List.nil_append]
  | .group ho hs _ hb hr =>
      have nested := nested_of_splitGroup _ hs
      rw [straysOfSymbols, Symbol.strays, marks_append, hb.marks_strays, hr.marks_strays,
        nested.tokensWhere_astray, splitGroup_eq hs, loose_group ho (kind_of_splitGroup hs) nested]
      rfl
  | .trivia ht hr =>
      rw [hr.marks_strays]
      apply Eq.symm (loose_plain _ _ _ _) <;>
        exact ne_of_apply_ne Notation.Kind.isTrivia (ne_of_eq_of_ne ht (by decide))

end

theorem strays_subset_straysOfSymbols {symbol : Symbol} {symbols : List Symbol} (h : symbol ∈ symbols) :
    symbol.strays ⊆ straysOfSymbols symbols := by
  induction symbols with
  | nil => cases h
  | cons first symbols ih =>
      rw [straysOfSymbols]
      rcases List.mem_cons.mp h with rfl | later
      · exact List.subset_append_left _ _
      · exact List.subset_append_of_subset_right _ (ih later)

theorem straysOfSymbols_subset {symbols : Alternative} {alternatives : List Alternative}
    (h : symbols ∈ alternatives) : straysOfSymbols symbols ⊆ straysOfAlternatives alternatives := by
  induction alternatives with
  | nil => cases h
  | cons first alternatives ih =>
      rw [straysOfAlternatives]
      rcases List.mem_cons.mp h with rfl | later
      · exact List.subset_append_left _ _
      · exact List.subset_append_of_subset_right _ (ih later)

theorem mem_straysOfAlternatives {alternatives : List Alternative} (h : Occurs (.stray t) alternatives) :
    t ∈ straysOfAlternatives alternatives := by
  obtain ⟨symbols, ha, hs⟩ := h
  induction ha with
  | here member =>
      apply straysOfSymbols_subset member
      apply strays_subset_straysOfSymbols hs
      exact List.mem_singleton_self t
  | inside member hg _ ih =>
      apply straysOfSymbols_subset member
      apply strays_subset_straysOfSymbols hg
      exact ih hs

/-- Where brackets match, no alternator strays and no closing bracket. -/
theorem BodyYields.marks_eq_nil {body : List Notation.Token} {alternatives : List Alternative}
    {warnings : List Diagnostic} (h : BodyYields header body alternatives warnings)
    (nested : Nested true body) : marks (straysOfAlternatives alternatives) = [] := by
  rw [h.marks_strays, nested.tokensWhere_astray]

theorem BodyYields.kind_ne_groupClose {alternatives : List Alternative} {warnings : List Diagnostic}
    (h : BodyYields header body alternatives warnings) (nested : Nested true body)
    (ht : Occurs (.stray t) alternatives) : t.kind ≠ .groupClose := by
  intro hc
  have mark := List.filter_eq_nil_iff.mp (h.marks_eq_nil nested) t (mem_straysOfAlternatives ht)
  simp [hc] at mark

theorem BodyYields.kind_ne_alternator {alternatives : List Alternative} {warnings : List Diagnostic}
    (h : BodyYields header body alternatives warnings) (nested : Nested true body)
    (ht : Occurs (.stray t) alternatives) : t.kind ≠ .alternator := by
  intro ha
  have mark := List.filter_eq_nil_iff.mp (h.marks_eq_nil nested) t (mem_straysOfAlternatives ht)
  simp [ha] at mark

namespace GroupsOf

variable {groups more : List (List Notation.Token)}

theorem append (h : GroupsOf ts groups) (hu : GroupsOf us more) : GroupsOf (ts ++ us) (groups ++ more) := by
  induction h with
  | nil => exact hu
  | plain ho _ ih => exact .plain ho ih
  | empty ho hi _ ih => exact .empty ho (hi.append us) ih
  | filled ho filled hi _ ih => exact .filled ho filled (hi.append us) ih

theorem signs {signs : List Notation.Token} (plain : ∀ t ∈ signs, t.kind.isQuantifier = true)
    (h : GroupsOf ts groups) : GroupsOf (signs ++ ts) groups := by
  induction signs with
  | nil => exact h
  | cons t signs ih =>
      obtain ⟨own, others⟩ := List.forall_mem_cons.mp plain
      exact .plain (ne_of_apply_ne Notation.Kind.isQuantifier (ne_of_eq_of_ne own (by decide))) (ih others)

theorem of_joined {groups : List (List (List Notation.Token))} (joined : Joined parts body)
    (h : List.Forall₂ GroupsOf parts groups) : GroupsOf body groups.flatten := by
  induction joined generalizing groups with
  | last a =>
      cases h with
      | cons own none =>
          cases none
          rwa [List.flatten_singleton]
  | cons hb _ ih =>
      cases h with
      | cons own others =>
          have bar : _ ≠ Notation.Kind.groupOpen := ne_of_eq_of_ne hb (by decide)
          exact own.append (.plain bar (ih others))

end GroupsOf

/-- The group has one alternative more than alternators stand directly in its contents. -/
def Divided (group : Recognizer) (contents : List Notation.Token) : Prop :=
  group.alternatives.length = 1 + (tokensWhere Direct contents).length

theorem AlternativesYield.length_eq {parts : List (List Notation.Token)} {alternatives : List Alternative} {warnings : List Diagnostic}
    (h : AlternativesYield header parts alternatives warnings) : alternatives.length = parts.length := by
  match h with
  | .nil => rfl
  | .cons _ ho => rw [List.length_cons, List.length_cons, ho.length_eq]

theorem BodyYields.length_eq {alternatives : List Alternative} {warnings : List Diagnostic}
    (h : BodyYields header body alternatives warnings) :
    alternatives.length = 1 + (tokensWhere Divides body).length := by
  obtain ⟨-, ha⟩ := h
  rw [ha.length_eq]
  exact (cuts_alternativesOf body).length_eq rfl fun a member => (ha.settled a member).groups.allClosed

mutual

theorem BodyYields.groups {body : List Notation.Token} {alternatives : List Alternative}
    {warnings : List Diagnostic} (h : BodyYields header body alternatives warnings) (rule : String) :
    ∃ groups, GroupsOf body groups ∧
      List.Forall₂ Divided (groupsOfAlternatives rule alternatives) groups := by
  match h with
  | .intro _ ha =>
      obtain ⟨groups, parts, divided⟩ := ha.groups rule
      exact ⟨groups.flatten, .of_joined (joined_alternativesOf body) parts, divided⟩

theorem AlternativesYield.groups {parts : List (List Notation.Token)} {alternatives : List Alternative}
    {warnings : List Diagnostic} (h : AlternativesYield header parts alternatives warnings)
    (rule : String) : ∃ groups : List (List (List Notation.Token)), List.Forall₂ GroupsOf parts groups ∧
      List.Forall₂ Divided (groupsOfAlternatives rule alternatives) groups.flatten := by
  match h with
  | .nil => exact ⟨[], .nil, .nil⟩
  | .cons hs ho =>
      obtain ⟨own, first, divided⟩ := hs.groups rule
      obtain ⟨others, later, more⟩ := ho.groups rule
      exact ⟨own :: others, .cons first later, List.rel_append divided more⟩

theorem SymbolsYield.groups {tokens : List Notation.Token} {symbols : List Symbol}
    {warnings : List Diagnostic} (h : SymbolsYield header tokens symbols warnings) (rule : String) :
    ∃ groups, GroupsOf tokens groups ∧ List.Forall₂ Divided (groupsOfSymbols rule symbols) groups := by
  match h with
  | .nil => exact ⟨[], .nil, .nil⟩
  | .single hs hr =>
      obtain ⟨groups, own, divided⟩ := hr.groups rule
      refine ⟨groups, .plain hs.kind_ne_groupOpen own, ?_⟩
      cases hs <;> exact divided
  | @SymbolsYield.tokens _ t rest _ _ hk hr =>
      obtain ⟨groups, own, divided⟩ := hr.groups rule
      obtain ⟨signs, whole, -, plain⟩ := takeQuantifier_eq rest
      have behind : GroupsOf rest groups := whole ▸ own.signs plain
      exact ⟨groups, .plain (ne_groupOpen_of_class hk) behind, divided⟩
  | .emptyGroup ho hc hr =>
      obtain ⟨groups, own, divided⟩ := hr.groups rule
      have other : _ ≠ Notation.Kind.groupOpen := ne_of_eq_of_ne hc (by decide)
      exact ⟨groups, .empty ho ⟨_, _, rfl, hc, .nil⟩ (.plain other own), divided⟩
  | .group ho hs filled hb hr =>
      obtain ⟨inside, within, divided⟩ := hb.groups rule
      obtain ⟨groups, own, more⟩ := hr.groups rule
      have nested := nested_of_splitGroup _ hs
      have hc := kind_of_splitGroup hs
      have other : _ ≠ Notation.Kind.groupOpen := ne_of_eq_of_ne hc (by decide)
      obtain rfl := splitGroup_eq hs
      refine ⟨_ :: (inside ++ groups), .filled ho filled ⟨_, _, rfl, hc, nested⟩
        (within.append (.plain other own)), .cons ?_ (List.rel_append divided more)⟩
      rw [Divided, hb.length_eq, nested.tokensWhere_divides]
  | .trivia ht hr =>
      obtain ⟨groups, own, divided⟩ := hr.groups rule
      have other : _ ≠ Notation.Kind.groupOpen :=
        ne_of_apply_ne Notation.Kind.isTrivia (ne_of_eq_of_ne ht (by decide))
      exact ⟨groups, .plain other own, divided⟩

end

/-- A recognizer has one alternative more than alternators stand in no group and behind no unmatched bracket.
Its groups are those of the body, in the same order, and each has one alternative more than alternators stand
directly in it. Of all alternators and closing brackets stray, in their order, the unmatched brackets and the
alternators that stand in no group but behind one, and no other; so none if no bracket is unmatched. -/
theorem alternators_of_ofLine {origin : Place} {line : List Char} {r : Recognizer}
    (h : (ofLine origin line).result = .ok r) :
    ∃ header body, IsRule header body (Notation.scan origin line) ∧
      r.alternatives.length = 1 + (tokensWhere Divides body).length ∧
      (∃ groups, GroupsOf body groups ∧
        List.Forall₂ Divided (groupsOfAlternatives r.name r.alternatives) groups) ∧
      marks (straysOfAlternatives r.alternatives) = tokensWhere Astray body ∧
      (AllOpened body → ∀ t, Occurs (.stray t) r.alternatives →
        t.kind ≠ .alternator ∧ t.kind ≠ .groupClose) := by
  generalize hl : Notation.scan origin line = tokens
  have yields := lineYields_of_ofLine h
  rw [hl] at yields
  match yields with
  | @LineYields.intro header assignment rest alternatives warnings _ hn ha hb =>
      refine ⟨header, dropTerminator rest, ⟨assignment, rest, rfl, hn, ha, rfl⟩, hb.length_eq,
        hb.groups _, hb.marks_strays, ?_⟩
      intro opened t stray
      have nested := hb.nested opened
      exact ⟨hb.kind_ne_alternator nested stray, hb.kind_ne_groupClose nested stray⟩

/-- What the line `A = .x | (.y | .z) ) .w | .v;` compiles to. -/
def unmatched : Recognizer :=
  ⟨"A", [[.tokens "x" .one true],
    [.group [[.tokens "y" .one true], [.tokens "z" .one true]],
      .stray ⟨.groupClose, ")", ⟨⟨19, 20⟩, ⟨1, 20⟩⟩⟩, .tokens "w" .one true,
      .stray ⟨.alternator, "|", ⟨⟨24, 25⟩, ⟨1, 25⟩⟩⟩, .tokens "v" .one true]]⟩

theorem ofLine_unmatched :
    (ofLine .start "A = .x | (.y | .z) ) .w | .v;".toList).result = .ok unmatched := by
  have scanned : Notation.scan .start "A = .x | (.y | .z) ) .w | .v;".toList =
      [⟨.name, "A", ⟨⟨0, 1⟩, ⟨1, 1⟩⟩⟩, ⟨.assignment, "=", ⟨⟨2, 3⟩, ⟨1, 3⟩⟩⟩,
        ⟨.classRef, ".x", ⟨⟨4, 6⟩, ⟨1, 5⟩⟩⟩, ⟨.alternator, "|", ⟨⟨7, 8⟩, ⟨1, 8⟩⟩⟩,
        ⟨.groupOpen, "(", ⟨⟨9, 10⟩, ⟨1, 10⟩⟩⟩, ⟨.classRef, ".y", ⟨⟨10, 12⟩, ⟨1, 11⟩⟩⟩,
        ⟨.alternator, "|", ⟨⟨13, 14⟩, ⟨1, 14⟩⟩⟩, ⟨.classRef, ".z", ⟨⟨15, 17⟩, ⟨1, 16⟩⟩⟩,
        ⟨.groupClose, ")", ⟨⟨17, 18⟩, ⟨1, 18⟩⟩⟩, ⟨.groupClose, ")", ⟨⟨19, 20⟩, ⟨1, 20⟩⟩⟩,
        ⟨.classRef, ".w", ⟨⟨21, 23⟩, ⟨1, 22⟩⟩⟩, ⟨.alternator, "|", ⟨⟨24, 25⟩, ⟨1, 25⟩⟩⟩,
        ⟨.classRef, ".v", ⟨⟨26, 28⟩, ⟨1, 27⟩⟩⟩, ⟨.terminator, ";", ⟨⟨28, 29⟩, ⟨1, 29⟩⟩⟩] := by
    decide +kernel
  rw [ofLine, scanned]
  generalize (Place.after .start _).covering [] = stop
  cbv

theorem alternators_of_unmatched :
    ∃ header body, IsRule header body (Notation.scan .start "A = .x | (.y | .z) ) .w | .v;".toList) ∧
      unmatched.alternatives.length = 1 + (tokensWhere Divides body).length ∧
      (∃ groups, GroupsOf body groups ∧
        List.Forall₂ Divided (groupsOfAlternatives unmatched.name unmatched.alternatives) groups) ∧
      marks (straysOfAlternatives unmatched.alternatives) = tokensWhere Astray body ∧
      (AllOpened body → ∀ t, Occurs (.stray t) unmatched.alternatives →
        t.kind ≠ .alternator ∧ t.kind ≠ .groupClose) :=
  alternators_of_ofLine ofLine_unmatched

end Recognizer

end TokenGrammar
