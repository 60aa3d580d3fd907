import Mathlib
import TokenGrammar.Proofs.Recognizer.Reading

/-!
# Groups and alternatives of a body

Where groups end and where alternatives start, told by brackets that match. Cutting a body at the
alternators outside of its groups loses no token, and finds the same alternatives if brackets match.
-/
namespace TokenGrammar.Recognizer

/-- The contents of the group that is opened in front of the tokens. -/
def IsContents (inner behind : List Notation.Token) : Prop :=
  ∃ close after, behind = inner ++ close :: after ∧ close.kind = .groupClose ∧ Nested true inner

/-- The contents of a group that stands in the tokens, at any depth. -/
def HasGroup (ts inner : List Notation.Token) : Prop :=
  ∃ opening behind, opening :: behind <:+ ts ∧ opening.kind = .groupOpen ∧ IsContents inner behind

/-- Every group that is opened in the tokens is closed there, and its contents are as said. -/
def EveryGroup (P : List Notation.Token → Prop) (ts : List Notation.Token) : Prop :=
  ∀ opening behind, opening :: behind <:+ ts → opening.kind = .groupOpen →
    ∃ inner, IsContents inner behind ∧ P inner

/-- Every opening bracket has its closing bracket. -/
def AllClosed (ts : List Notation.Token) : Prop :=
  ∀ opening behind, opening :: behind <:+ ts → opening.kind = .groupOpen →
    ∃ inner, IsContents inner behind

/-- Every closing bracket has its opening bracket: no front of the tokens has more closing than opening
ones. -/
def AllOpened (ts : List Notation.Token) : Prop :=
  ∀ front, front <+: ts → front.countP (·.kind = .groupClose) ≤ front.countP (·.kind = .groupOpen)

instance (ts : List Notation.Token) : Decidable (AllOpened ts) :=
  decidable_of_iff (∀ front ∈ ts.inits,
      front.countP (·.kind = .groupClose) ≤ front.countP (·.kind = .groupOpen)) <| by
    simp only [List.mem_inits, AllOpened]

variable {P : List Notation.Token → Prop} {t opening close : Notation.Token}
  {ts us inner behind after : List Notation.Token}

namespace IsContents

/-- Brackets match in one way only. -/
theorem unique {other : List Notation.Token} (h : IsContents inner behind)
    (h' : IsContents other behind) : inner = other := by
  obtain ⟨close, after, rfl, hc, hn⟩ := h
  obtain ⟨close', after', same, hc', hn'⟩ := h'
  have split := hn.splitGroup_eq_some hc after
  rw [same, hn'.splitGroup_eq_some hc' after'] at split
  cases split
  rfl

theorem append (h : IsContents inner behind) (us : List Notation.Token) :
    IsContents inner (behind ++ us) := by
  obtain ⟨close, after, rfl, hc, hn⟩ := h
  exact ⟨close, after ++ us, by rw [List.append_assoc, List.cons_append], hc, hn⟩

end IsContents

theorem HasGroup.mono (h : HasGroup ts inner) (part : ts <:+: us) : HasGroup us inner := by
  obtain ⟨opening, behind, own, ho, hi⟩ := h
  obtain ⟨before, rest, rfl⟩ := part
  refine ⟨opening, behind ++ rest, ?_, ho, hi.append rest⟩
  obtain ⟨front, rfl⟩ := own
  exact ⟨before ++ front, by simp only [List.append_assoc, List.cons_append]⟩

namespace EveryGroup

theorem nil : EveryGroup P [] := by
  intro opening behind own
  cases List.suffix_nil.mp own

theorem cons_of_group (h : EveryGroup P ts) (hg : ∃ inner, IsContents inner ts ∧ P inner) (t) :
    EveryGroup P (t :: ts) := by
  intro opening behind own ho
  rcases List.suffix_cons_iff.mp own with same | later
  · cases same
    exact hg
  · exact h opening behind later ho

theorem cons (h : EveryGroup P ts) (ht : t.kind ≠ .groupOpen) : EveryGroup P (t :: ts) := by
  intro opening behind own ho
  rcases List.suffix_cons_iff.mp own with same | later
  · cases same
    exact absurd ho ht
  · exact h opening behind later ho

theorem append (h : EveryGroup P ts) (hu : EveryGroup P us) : EveryGroup P (ts ++ us) := by
  induction ts with
  | nil => exact hu
  | cons t ts ih =>
      have later := ih fun opening behind own => h opening behind (own.trans (List.suffix_cons t ts))
      by_cases ho : t.kind = .groupOpen
      · obtain ⟨inner, hi, hp⟩ := h t ts (List.suffix_refl _) ho
        exact later.cons_of_group ⟨inner, hi.append us, hp⟩ t
      · exact later.cons ho

theorem group (hi : EveryGroup P inner) (hn : Nested true inner) (hp : P inner)
    (hc : close.kind = .groupClose) (ha : EveryGroup P after) (opening : Notation.Token) :
    EveryGroup P (opening :: (inner ++ close :: after)) := by
  have other : close.kind ≠ .groupOpen := ne_of_eq_of_ne hc (by decide)
  exact (hi.append (ha.cons other)).cons_of_group ⟨inner, ⟨close, after, rfl, hc, hn⟩, hp⟩ opening

theorem allClosed (h : EveryGroup P ts) : AllClosed ts := by
  intro opening behind own ho
  obtain ⟨inner, hi, -⟩ := h opening behind own ho
  exact ⟨inner, hi⟩

theorem of_hasGroup (h : EveryGroup P ts) (hg : HasGroup ts inner) : P inner := by
  obtain ⟨opening, behind, own, ho, hi⟩ := hg
  obtain ⟨found, hf, hp⟩ := h opening behind own ho
  rwa [hf.unique hi] at hp

end EveryGroup

theorem Nested.count_eq {free : Bool} (h : Nested free ts) :
    ts.countP (·.kind = .groupClose) = ts.countP (·.kind = .groupOpen) := by
  induction h with
  | nil => rfl
  | plain ho hc _ _ ih => simp [ho, hc, ih]
  | group ho hc _ _ ihi ih =>
      simp only [List.countP_cons, List.countP_append, ho, hc, ihi, ih]
      simp
      omega

theorem AllOpened.initial (h : AllOpened ts) (own : us <+: ts) : AllOpened us :=
  fun front part => h front (part.trans own)

theorem AllOpened.tail (h : AllOpened (t :: ts)) (ho : t.kind ≠ .groupOpen) : AllOpened ts := by
  intro front own
  have counts := h (t :: front) ((List.prefix_cons_inj t).mpr own)
  simp only [List.countP_cons, ho, decide_false, Bool.false_eq_true, if_false] at counts
  omega

theorem AllOpened.behind_group (h : AllOpened (opening :: (inner ++ close :: after)))
    (ho : opening.kind = .groupOpen) (hc : close.kind = .groupClose) (hn : Nested true inner) :
    AllOpened after := by
  intro front own
  have whole : opening :: (inner ++ close :: front) <+: opening :: (inner ++ close :: after) :=
    (List.prefix_cons_inj _).mpr ((List.prefix_append_right_inj _).mpr ((List.prefix_cons_inj _).mpr own))
  have counts := h _ whole
  simp only [List.countP_cons, List.countP_append, ho, hc, hn.count_eq] at counts
  simp at counts
  omega

/-- Where each bracket has its counterpart, they match. -/
theorem nested_of_allClosed (ts : List Notation.Token) (closed : AllClosed ts) (opened : AllOpened ts) :
    Nested true ts := by
  match ts with
  | [] => exact .nil
  | t :: rest =>
      by_cases ho : t.kind = .groupOpen
      · obtain ⟨inner, close, after, whole, hc, hn⟩ := closed t rest (List.suffix_refl _) ho
        have shorter : after.length < rest.length := by
          rw [whole, List.length_append, List.length_cons]
          omega
        have own : after <:+ t :: rest := by
          rw [whole]
          exact ((List.suffix_cons close after).trans (List.suffix_append inner _)).trans
            (List.suffix_cons t _)
        have behind : Nested true after := nested_of_allClosed after
          (fun opening behind later => closed opening behind (later.trans own))
          (AllOpened.behind_group (whole ▸ opened) ho hc hn)
        rw [whole]
        exact .group ho hc hn behind
      · have hc : t.kind ≠ .groupClose := by
          intro hc
          have counts := opened [t] (List.prefix_append [t] rest)
          simp [hc] at counts
        exact .plain ho hc (fun _ => rfl) (nested_of_allClosed rest
          (fun opening behind later => closed opening behind (later.trans (List.suffix_cons t rest)))
          (opened.tail ho))
termination_by ts.length

theorem kind_of_splitGroup {depth : Int} (h : splitGroup depth ts = some (inner, close, after)) :
    close.kind = .groupClose := by
  induction ts generalizing depth inner with
  | nil => cases h
  | cons t rest ih =>
      rw [splitGroup] at h
      split at h
      · next closes =>
          cases h
          exact closes.1
      · obtain ⟨⟨i, c, a⟩, hs, he⟩ := Option.map_eq_some_iff.1 h
        cases he
        exact ih hs

theorem suffix_of_splitGroup (h : splitGroup 0 ts = some (inner, close, after)) : after <:+ ts := by
  rw [splitGroup_eq h]
  exact (List.suffix_cons close after).trans (List.suffix_append inner _)

/-- A group that ends behind another one first ends that one. -/
theorem splitGroup_succ {outer depth : Int} (hd : 0 ≤ depth) (ho : 0 ≤ outer)
    (h : splitGroup (outer + depth + 1) ts = some (inner, close, after)) :
    ∃ first middle behind later, splitGroup depth ts = some (first, middle, behind) ∧
      splitGroup outer behind = some (later, close, after) ∧ inner = first ++ middle :: later := by
  induction ts generalizing depth inner with
  | nil => cases h
  | cons t rest ih =>
      rw [splitGroup, if_neg (by omega)] at h
      obtain ⟨⟨later, _, _⟩, hs, he⟩ := Option.map_eq_some_iff.1 h
      cases he
      rw [splitGroup]
      by_cases closes : t.kind = .groupClose ∧ depth = 0
      · have level : outer + depth + 1 + nesting t.kind = outer := by
          rw [closes.1, closes.2, nesting]
          omega
        rw [level] at hs
        exact ⟨[], t, rest, later, if_pos closes, hs, rfl⟩
      · have deeper : 0 ≤ depth + nesting t.kind := by
          cases hk : t.kind <;> simp [nesting, hk] at closes ⊢ <;> omega
        have level : outer + depth + 1 + nesting t.kind = outer + (depth + nesting t.kind) + 1 := by omega
        rw [level] at hs
        obtain ⟨first, middle, behind, tail, hf, ht, rfl⟩ := ih deeper hs
        exact ⟨t :: first, middle, behind, tail, by rw [if_neg closes, hf]; rfl, ht, rfl⟩

/-- Brackets match in the contents of a group. -/
theorem nested_of_splitGroup (ts : List Notation.Token) {close : Notation.Token}
    {inner after : List Notation.Token} (h : splitGroup 0 ts = some (inner, close, after)) : Nested true inner := by
  match ts with
  | [] => cases h
  | t :: rest =>
      rw [splitGroup] at h
      split at h
      · cases h
        exact .nil
      · next closes =>
          obtain ⟨⟨tail, _, _⟩, hs, he⟩ := Option.map_eq_some_iff.1 h
          cases he
          by_cases ho : t.kind = .groupOpen
          · have deeper : (0 : Int) + nesting t.kind = 0 + 0 + 1 := by rw [ho]; rfl
            rw [deeper] at hs
            obtain ⟨first, middle, behind, later, hf, hl, rfl⟩ :=
              splitGroup_succ (Int.le_refl 0) (Int.le_refl 0) hs
            have shorter : behind.length < rest.length := by
              rw [splitGroup_eq hf, List.length_append, List.length_cons]
              omega
            exact .group ho (kind_of_splitGroup hf) (nested_of_splitGroup rest hf)
              (nested_of_splitGroup behind hl)
          · have hc : t.kind ≠ .groupClose := fun hc => closes ⟨hc, rfl⟩
            have level : (0 : Int) + nesting t.kind = 0 := by
              cases hk : t.kind <;> simp_all [nesting]
            rw [level] at hs
            exact .plain ho hc (fun _ => rfl) (nested_of_splitGroup rest hs)
termination_by ts.length
decreasing_by all_goals simp only [List.length_cons]; omega

theorem Nested.everyGroup {free : Bool} (h : Nested free ts) : EveryGroup (Nested true) ts := by
  induction h with
  | nil => exact .nil
  | plain ho _ _ _ ih => exact ih.cons ho
  | group _ hc hi _ ihi ih => exact ihi.group hi hi hc ih _

/-- Where brackets match, no group is unclosed. -/
theorem Nested.splitGroup_ne_none {free : Bool} {opening : Notation.Token} {rest : List Notation.Token}
    (h : Nested free ts) (own : opening :: rest <:+ ts) (ho : opening.kind = .groupOpen) :
    splitGroup 0 rest ≠ none := by
  obtain ⟨inner, ⟨close, after, rfl, hc, hn⟩, -⟩ := h.everyGroup opening rest own ho
  rw [hn.splitGroup_eq_some hc after]
  exact Option.some_ne_none _

/-- How many groups are open behind the tokens, of `outer` in front of them: a closing bracket ends the
innermost one, or nothing. -/
def openGroups (outer : Nat) : List Notation.Token → Nat
  | [] => outer
  | t :: ts =>
    match t.kind with
    | .groupOpen => openGroups (outer + 1) ts
    | .groupClose => openGroups (outer - 1) ts
    | _ => openGroups outer ts

theorem openGroups_open (ho : t.kind = .groupOpen) (outer : Nat) (ts : List Notation.Token) :
    openGroups outer (t :: ts) = openGroups (outer + 1) ts := by
  rw [openGroups, ho]

theorem openGroups_close (hc : t.kind = .groupClose) (outer : Nat) (ts : List Notation.Token) :
    openGroups outer (t :: ts) = openGroups (outer - 1) ts := by
  rw [openGroups, hc]

theorem openGroups_plain (ho : t.kind ≠ .groupOpen) (hc : t.kind ≠ .groupClose) (outer : Nat)
    (ts : List Notation.Token) : openGroups outer (t :: ts) = openGroups outer ts := by
  rw [openGroups]
  split
  · next opens => exact absurd opens ho
  · next closes => exact absurd closes hc
  · rfl

theorem openGroups_append (outer : Nat) (ts us : List Notation.Token) :
    openGroups outer (ts ++ us) = openGroups (openGroups outer ts) us := by
  induction ts generalizing outer with
  | nil => rfl
  | cons t ts ih =>
      rw [List.cons_append, openGroups, openGroups]
      split <;> exact ih _

/-- Closing brackets end at most as many groups as they are. -/
theorem le_openGroups (outer : Nat) (ts : List Notation.Token) :
    outer + ts.countP (·.kind = .groupOpen) ≤ openGroups outer ts + ts.countP (·.kind = .groupClose) := by
  induction ts generalizing outer with
  | nil => exact Nat.le_refl _
  | cons t ts ih =>
      by_cases ho : t.kind = .groupOpen
      · have later := ih (outer + 1)
        rw [openGroups_open ho]
        simp [ho]
        omega
      · by_cases hc : t.kind = .groupClose
        · have later := ih (outer - 1)
          rw [openGroups_close hc]
          simp [hc]
          omega
        · have later := ih outer
          rw [openGroups_plain ho hc]
          simpa [ho, hc] using later

/-- Where each closing bracket ends a group, none is lost. -/
theorem AllOpened.openGroups_eq (h : AllOpened ts) (outer : Nat) :
    openGroups outer ts + ts.countP (·.kind = .groupClose) =
      outer + ts.countP (·.kind = .groupOpen) := by
  induction ts using List.reverseRecOn with
  | nil => rfl
  | append_singleton ts t ih =>
      have counts := h _ (List.prefix_refl _)
      have front := ih (h.initial (List.prefix_append ts [t]))
      rw [openGroups_append]
      by_cases ho : t.kind = .groupOpen
      · simp [openGroups, ho]
        omega
      · by_cases hc : t.kind = .groupClose
        · simp [hc] at counts
          simp [openGroups, hc]
          omega
        · simp [openGroups, ho, hc]
          omega

/-- Every closing bracket ends a group exactly if none is lost. -/
theorem allOpened_iff : AllOpened ts ↔
    openGroups 0 ts + ts.countP (·.kind = .groupClose) = ts.countP (·.kind = .groupOpen) := by
  constructor
  · intro h
    rw [h.openGroups_eq, Nat.zero_add]
  · rintro whole front ⟨rest, rfl⟩
    rw [openGroups_append, List.countP_append, List.countP_append] at whole
    have first := le_openGroups 0 front
    have later := le_openGroups (openGroups 0 front) rest
    omega

theorem AllOpened.le_openGroups (h : AllOpened ts) (outer : Nat) : outer ≤ openGroups outer ts := by
  have counts := h ts (List.prefix_refl ts)
  have whole := h.openGroups_eq outer
  omega

theorem Nested.openGroups_eq {free : Bool} (h : Nested free ts) (outer : Nat) :
    openGroups outer ts = outer := by
  induction h generalizing outer with
  | nil => rfl
  | plain ho hc _ _ ih => rw [openGroups_plain ho hc, ih]
  | group ho hc _ _ ihi ih =>
      rw [openGroups_open ho, openGroups_append, ihi, openGroups_close hc, Nat.add_sub_cancel, ih]

theorem Nested.allOpened {free : Bool} (h : Nested free ts) : AllOpened ts := by
  rw [allOpened_iff, h.openGroups_eq, h.count_eq, Nat.zero_add]

/-- Tokens whose brackets match may stand in front. -/
theorem Nested.allOpened_append_iff {free : Bool} (h : Nested free ts) :
    AllOpened (ts ++ us) ↔ AllOpened us := by
  rw [allOpened_iff, allOpened_iff, openGroups_append, h.openGroups_eq, List.countP_append,
    List.countP_append, h.count_eq]
  omega

/-- Where every group is closed, none is open at the end. -/
theorem AllClosed.openGroups_eq (ts : List Notation.Token) (h : AllClosed ts) : openGroups 0 ts = 0 := by
  match ts with
  | [] => rfl
  | t :: rest =>
      by_cases ho : t.kind = .groupOpen
      · obtain ⟨inner, close, after, whole, hc, hn⟩ := h t rest (List.suffix_refl _) ho
        have own : after <:+ rest := by
          rw [whole]
          exact (List.suffix_cons close after).trans (List.suffix_append inner _)
        have shorter := own.length_le
        have behind : openGroups 0 after = 0 := AllClosed.openGroups_eq after fun opening behind later =>
          h opening behind (later.trans (own.trans (List.suffix_cons t rest)))
        rw [whole, openGroups_open ho, openGroups_append, hn.openGroups_eq, openGroups_close hc, behind]
      · have behind : openGroups 0 rest = 0 := AllClosed.openGroups_eq rest fun opening behind later =>
          h opening behind (later.trans (List.suffix_cons t rest))
        by_cases hc : t.kind = .groupClose
        · rw [openGroups_close hc, Nat.zero_sub, behind]
        · rw [openGroups_plain ho hc, behind]
termination_by ts.length
decreasing_by all_goals simp only [List.length_cons]; omega

/-- An alternator behind these tokens separates alternatives, of the innermost group that is open or of the
body: if no group is open, no bracket in front is unmatched. -/
def Separates (front : List Notation.Token) : Prop := openGroups 0 front = 0 → AllOpened front

/-- In a group every alternator separates. -/
theorem separates_of_open {front : List Notation.Token} (ho : opening.kind = .groupOpen)
    (opened : AllOpened front) (ts : List Notation.Token) : Separates (ts ++ opening :: front) := by
  intro none
  rw [openGroups_append, openGroups_open ho] at none
  have some := opened.le_openGroups (openGroups 0 ts + 1)
  omega

/-- Behind these tokens the depth is zero: as many brackets are opened as closed. -/
def Level (depth : Int) (ts : List Notation.Token) : Prop :=
  depth + ts.countP (·.kind = .groupOpen) = ts.countP (·.kind = .groupClose)

theorem level_cons_iff {depth : Int} : Level depth (t :: ts) ↔ Level (depth + nesting t.kind) ts := by
  unfold Level
  cases hk : t.kind <;> simp [nesting, hk] <;> omega

theorem Level.append_iff {depth : Int} (h : Level depth ts) : Level depth (ts ++ us) ↔ Level 0 us := by
  unfold Level at h ⊢
  rw [List.countP_append, List.countP_append]
  omega

/-- No alternator of the tokens is at depth zero. -/
def Uncut (depth : Int) (ts : List Notation.Token) : Prop :=
  ∀ front bar, front ++ [bar] <+: ts → bar.kind = .alternator → ¬ Level depth front

/-- The body is cut into the parts at its alternators at depth zero. -/
inductive Cuts : Int → List (List Notation.Token) → List Notation.Token → Prop
  | last {depth a} : Uncut depth a → Cuts depth [a] a
  | cons {depth a bar parts body} : Uncut depth a → bar.kind = .alternator → Level depth a →
      Cuts 0 parts body → Cuts depth (a :: parts) (a ++ bar :: body)

theorem uncut_nil (depth : Int) : Uncut depth [] := by
  intro front bar own
  cases front <;> cases List.prefix_nil.mp own

theorem Uncut.cons {depth : Int} (h : Uncut (depth + nesting t.kind) ts)
    (ht : ¬ (t.kind = .alternator ∧ depth = 0)) : Uncut depth (t :: ts) := by
  intro front bar own hb
  cases front with
  | nil =>
      obtain ⟨rfl, -⟩ := List.cons_prefix_cons.mp own
      intro level
      exact ht ⟨hb, by simpa [Level] using level⟩
  | cons u front =>
      obtain ⟨rfl, later⟩ := List.cons_prefix_cons.mp own
      exact fun level => h front bar later hb (level_cons_iff.mp level)

theorem cuts_splitAlternatives (depth : Int) (body : List Notation.Token) :
    Cuts depth ((splitAlternatives depth body).1 :: (splitAlternatives depth body).2) body := by
  induction body generalizing depth with
  | nil => exact .last (uncut_nil depth)
  | cons t rest ih =>
      rw [splitAlternatives]
      split
      · next cut =>
          obtain ⟨bar, rfl⟩ := cut
          exact .cons (a := []) (uncut_nil 0) bar (by rfl) (ih 0)
      · next cut =>
          have later := ih (depth + nesting t.kind)
          generalize splitAlternatives (depth + nesting t.kind) rest = found at later ⊢
          obtain ⟨first, others⟩ := found
          change Cuts depth ((t :: first) :: others) (t :: rest)
          cases later with
          | last none => exact .last (none.cons cut)
          | cons none hb level behind =>
              exact .cons (a := t :: first) (none.cons cut) hb (level_cons_iff.mpr level) behind

theorem cuts_alternativesOf (body : List Notation.Token) : Cuts 0 (alternativesOf body) body :=
  cuts_splitAlternatives 0 body

/-- Parts of a body, with an alternator between each two of them. -/
inductive Joined : List (List Notation.Token) → List Notation.Token → Prop
  | last (a : List Notation.Token) : Joined [a] a
  | cons {a bar parts body} : bar.kind = .alternator → Joined parts body →
      Joined (a :: parts) (a ++ bar :: body)

theorem Cuts.joined {depth : Int} {parts : List (List Notation.Token)} (h : Cuts depth parts ts) :
    Joined parts ts := by
  induction h with
  | last _ => exact .last _
  | cons _ hb _ _ ih => exact .cons hb ih

theorem joined_alternativesOf (body : List Notation.Token) : Joined (alternativesOf body) body :=
  (cuts_alternativesOf body).joined

/-- The token is the first one of an alternative: it stands in front, or behind an alternator that is in
no group. -/
def StartsAlternative (ts : List Notation.Token) (t : Notation.Token) : Prop :=
  t.kind ≠ .alternator ∧ ((∃ rest, ts = t :: rest) ∨
    ∃ front bar rest, ts = front ++ bar :: t :: rest ∧ bar.kind = .alternator ∧ Nested true front)

theorem splitAlternatives_group {rest : List Notation.Token} (ho : opening.kind = .groupOpen)
    (hc : close.kind = .groupClose) (hn : Nested true inner) :
    splitAlternatives 0 (opening :: (inner ++ close :: rest)) =
      (opening :: (inner ++ close :: (splitAlternatives 0 rest).1), (splitAlternatives 0 rest).2) := by
  have whole : Nested false (opening :: (inner ++ [close])) := .group ho hc hn .nil
  have split := whole.splitAlternatives_append (Int.le_refl 0) nofun rest
  simpa using split

theorem splitAlternatives_plain {rest : List Notation.Token} (ho : t.kind ≠ .groupOpen)
    (hc : t.kind ≠ .groupClose) (ha : t.kind ≠ .alternator) :
    splitAlternatives 0 (t :: rest) =
      (t :: (splitAlternatives 0 rest).1, (splitAlternatives 0 rest).2) :=
  (Nested.single ho hc fun bar => absurd bar ha : Nested false [t]).splitAlternatives_append
    (Int.le_refl 0) nofun rest

theorem splitAlternatives_bar {rest : List Notation.Token} (ha : t.kind = .alternator) :
    splitAlternatives 0 (t :: rest) =
      ([], (splitAlternatives 0 rest).1 :: (splitAlternatives 0 rest).2) := by
  rw [splitAlternatives, if_pos ⟨ha, rfl⟩]

/-- Where brackets match, they match in every alternative. -/
theorem Nested.nested_splitAlternatives (h : Nested true ts) :
    Nested false (splitAlternatives 0 ts).1 ∧ ∀ a ∈ (splitAlternatives 0 ts).2, Nested false a := by
  generalize hf : true = free at h
  induction h with
  | nil => exact ⟨.nil, nofun⟩
  | @plain _ t rest ho hc _ _ ih =>
      obtain ⟨first, others⟩ := ih hf
      by_cases ha : t.kind = .alternator
      · rw [splitAlternatives_bar ha]
        exact ⟨.nil, List.forall_mem_cons.mpr ⟨first, others⟩⟩
      · rw [splitAlternatives_plain ho hc ha]
        exact ⟨.plain ho hc (fun bar => absurd bar ha) first, others⟩
  | group ho hc hn _ _ ih =>
      obtain ⟨first, others⟩ := ih hf
      rw [splitAlternatives_group ho hc hn]
      exact ⟨.group ho hc hn first, others⟩

theorem Nested.nested_of_mem_alternativesOf (h : Nested true ts) {a : List Notation.Token}
    (ha : a ∈ alternativesOf ts) : Nested false a := by
  obtain ⟨first, others⟩ := h.nested_splitAlternatives
  rcases List.mem_cons.mp ha with rfl | later
  · exact first
  · exact others a later

/-- The alternatives behind the first one stay alternatives when tokens with matching brackets come in
front. -/
theorem Nested.mem_splitAlternatives_append (h : Nested true ts) {a : List Notation.Token}
    (ha : a ∈ (splitAlternatives 0 us).2) : a ∈ (splitAlternatives 0 (ts ++ us)).2 := by
  generalize hf : true = free at h
  induction h with
  | nil => exact ha
  | @plain _ t rest ho hc _ _ ih =>
      by_cases bar : t.kind = .alternator
      · rw [List.cons_append, splitAlternatives_bar bar]
        exact List.mem_cons_of_mem _ (ih hf)
      · rw [List.cons_append, splitAlternatives_plain ho hc bar]
        exact ih hf
  | group ho hc hn _ _ ih =>
      rw [List.cons_append, List.append_assoc, List.cons_append, splitAlternatives_group ho hc hn]
      exact ih hf

theorem cons_mem_alternativesOf (h : StartsAlternative ts t) :
    ∃ rest, t :: rest ∈ alternativesOf ts := by
  have first (rest : List Notation.Token) : ∃ tail, (splitAlternatives 0 (t :: rest)).1 = t :: tail := by
    rw [splitAlternatives, if_neg fun bar => h.1 bar.1]
    exact ⟨_, rfl⟩
  obtain ⟨-, ⟨rest, rfl⟩ | ⟨front, bar, rest, rfl, hb, hn⟩⟩ := h
  · obtain ⟨tail, ht⟩ := first rest
    exact ⟨tail, List.mem_cons.mpr (.inl ht.symm)⟩
  · obtain ⟨tail, ht⟩ := first rest
    refine ⟨tail, List.mem_cons_of_mem _ (hn.mem_splitAlternatives_append ?_)⟩
    rw [splitAlternatives_bar hb, ht]
    exact List.mem_cons_self

theorem Joined.startsAlternative {parts : List (List Notation.Token)} (h : Joined parts ts)
    (hn : ∀ a ∈ parts, Nested false a) {rest : List Notation.Token} (ht : t :: rest ∈ parts) :
    StartsAlternative ts t := by
  have other : t.kind ≠ .alternator := by
    have own := hn _ ht
    intro bar
    cases own with
    | plain _ _ ha _ => exact absurd (ha bar) Bool.false_ne_true
    | group ho _ _ _ => cases bar.symm.trans ho
  refine ⟨other, ?_⟩
  induction h with
  | last a =>
      rw [← List.mem_singleton.mp ht]
      exact .inl ⟨rest, rfl⟩
  | @cons a bar parts body hb _ ih =>
      obtain ⟨own, others⟩ := List.forall_mem_cons.mp hn
      rcases List.mem_cons.mp ht with rfl | later
      · exact .inl ⟨rest ++ bar :: body, rfl⟩
      · right
        rcases ih others later with ⟨tail, rfl⟩ | ⟨front, bar', tail, rfl, hb', hf⟩
        · exact ⟨a, bar, tail, rfl, hb, own.toFree⟩
        · have passed : Nested true (bar :: front) := by
            refine .plain ?_ ?_ (fun _ => rfl) hf <;> exact ne_of_eq_of_ne hb (by decide)
          refine ⟨a ++ bar :: front, bar', tail, ?_, hb', own.toFree.append passed⟩
          rw [List.append_assoc, List.cons_append]

theorem startsAlternative_iff (h : Nested true ts) :
    StartsAlternative ts t ↔ ∃ rest, t :: rest ∈ alternativesOf ts := by
  refine ⟨cons_mem_alternativesOf, ?_⟩
  rintro ⟨rest, member⟩
  exact (joined_alternativesOf ts).startsAlternative (fun _ => h.nested_of_mem_alternativesOf) member

end TokenGrammar.Recognizer
