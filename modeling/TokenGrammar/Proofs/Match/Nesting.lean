import TokenGrammar.Proofs.Match.Layout

/-!
# Well-nested records

A record tells of rules within rules. How far it has come is what is open: the rules whose alternatives are under
way, and possibly one whose next alternative is to be tried. Each line says how this changes, so what was open and
is not open any more has been left in between. Main statement: lines that come one after the other in this way are
well-nested as long as every open rule has an alternative under way, and the record is complete when nothing is
open.
-/
namespace TokenGrammar

/-- The rule entered at the depth is left again, and what comes in between comes deeper. -/
def Closes (depth : Nat) (rule : String) (behind : List Entry) : Prop :=
  ∃ inside width after, behind = inside ++ ⟨depth, .leave rule width⟩ :: after ∧
    ∀ x ∈ inside, depth < x.depth

/-- The rule left at the depth has been entered there, and what came in between came deeper. -/
def Opens (depth : Nat) (rule : String) (before : List Entry) : Prop :=
  ∃ outside offset inside, before = outside ++ ⟨depth, .enter rule offset⟩ :: inside ∧
    ∀ x ∈ inside, depth < x.depth

/-- An alternative begins or is given up. -/
def Event.isTurn : Event → Bool
  | alternative .. | backtrack .. => true
  | _ => false

/-- The alternative has begun at the depth, and neither it nor its rule has come to an end since. -/
def UnderWay (depth : Nat) (rule : String) (index : Nat) (before : List Entry) : Prop :=
  ∃ outside inside, before = outside ++ ⟨depth, .alternative rule index⟩ :: inside ∧
    ∀ x ∈ inside, depth ≤ x.depth ∧ (x.event.isTurn → depth < x.depth)

/-- Number of tokens in the expression that is told of. -/
def Event.covered : Event → Nat
  | expression _ _ width => width
  | _ => 0

/-- A literal or a class that is tried leaves open what is open. -/
theorem Event.inside_of_isTrial {e : Event} (h : e.isTrial) :
    (∀ depth, e.place? depth = some (depth, depth)) ∧ e.covered = 0 ∧ e.isTurn = false := by
  cases e with
  | literalMatched | literalFailed | tokensMatched | tokensFailed =>
      refine ⟨fun depth => ?_, rfl, rfl⟩
      cases depth with
      | zero => rfl
      | succ depth => rfl
  | enter | leave | alternative | backtrack | expression => cases h

/-- What stands in front of each line of a record and behind it. -/
structure WellNested (entries : List Entry) : Prop where
  laidOut : layOut? 0 (entries.map (·.event)) = some entries
  /-- What is entered is left, unless the record ends before. -/
  entered {before behind : List Entry} {depth offset : Nat} {rule : String} :
    entries = before ++ ⟨depth, .enter rule offset⟩ :: behind →
    Closes depth rule behind ∨ ∀ x ∈ behind, depth < x.depth
  left {before behind : List Entry} {depth : Nat} {rule : String} {width : Option Nat} :
    entries = before ++ ⟨depth, .leave rule width⟩ :: behind → Opens depth rule before
  /-- The first alternative comes where its rule is entered, and each other one where the one before failed. -/
  begun {before behind : List Entry} {depth index : Nat} {rule : String} :
    entries = before ++ ⟨depth, .alternative rule index⟩ :: behind →
    (∃ outside level offset, index = 0 ∧ depth = level + 1 ∧
        before = outside ++ [⟨level, .enter rule offset⟩]) ∨
      ∃ outside last, index = last + 1 ∧ before = outside ++ [⟨depth, .backtrack rule last⟩]
  failed {before behind : List Entry} {depth index : Nat} {rule : String} :
    entries = before ++ ⟨depth, .backtrack rule index⟩ :: behind → UnderWay depth rule index before
  /-- Where an alternative has failed, the next one begins, or else the rule does not match. -/
  followed {before behind : List Entry} {depth index : Nat} {rule : String} :
    entries = before ++ ⟨depth, .backtrack rule index⟩ :: behind →
    (∃ after, behind = ⟨depth, .alternative rule (index + 1)⟩ :: after) ∨
      ∃ level after, depth = level + 1 ∧ behind = ⟨level, .leave rule none⟩ :: after
  tried {before behind : List Entry} {depth : Nat} {e : Event} :
    entries = before ++ ⟨depth, e⟩ :: behind → e.isTrial → ∃ rule index, UnderWay depth rule index before
  /-- An expression starts where those in front of it stop. -/
  expressed {before behind : List Entry} {depth offset width : Nat} {rule : String} :
    entries = before ++ ⟨depth, .expression rule offset width⟩ :: behind →
    depth = 0 ∧ offset = (before.map (·.event.covered)).sum

/-- Everything that is entered is left. -/
def Complete (entries : List Entry) : Prop :=
  ∀ before depth rule offset behind, entries = before ++ ⟨depth, .enter rule offset⟩ :: behind →
    Closes depth rule behind

/-- An alternative of a rule. -/
structure Branch where
  rule : String
  index : Nat

/-- How far a record has come. The expressions so far cover some tokens, and the alternatives are under way, the
innermost first. -/
inductive Progress
  | running (covered : Nat) (branches : List Branch)
  /-- The innermost rule tries the next alternative or gives up, for those in front of it have failed. -/
  | choosing (covered : Nat) (rule : String) (next : Nat) (branches : List Branch)

namespace Progress

def branches : Progress → List Branch
  | running _ branches | choosing _ _ _ branches => branches

/-- The rules that are open, the innermost first. -/
def rules : Progress → List String
  | running _ branches => branches.map (·.rule)
  | choosing _ rule _ branches => rule :: branches.map (·.rule)

def covered : Progress → Nat
  | running covered _ | choosing covered _ _ _ => covered

def depth (p : Progress) : Nat := p.rules.length

/-- Every open rule has an alternative under way. -/
def IsRunning : Progress → Prop
  | running .. => True
  | choosing .. => False

/-- The line that comes next, and what it changes. -/
inductive Step : Progress → Entry → Progress → Prop
  | enter {covered offset : Nat} {rule : String} {branches : List Branch} :
      Step (running covered branches) ⟨branches.length, .enter rule offset⟩ (choosing covered rule 0 branches)
  | alternative {covered next : Nat} {rule : String} {branches : List Branch} :
      Step (choosing covered rule next branches) ⟨branches.length + 1, .alternative rule next⟩
        (running covered (⟨rule, next⟩ :: branches))
  | trial {covered : Nat} {b : Branch} {branches : List Branch} {e : Event} : e.isTrial →
      Step (running covered (b :: branches)) ⟨branches.length + 1, e⟩ (running covered (b :: branches))
  | backtrack {covered index : Nat} {rule : String} {branches : List Branch} :
      Step (running covered (⟨rule, index⟩ :: branches)) ⟨branches.length + 1, .backtrack rule index⟩
        (choosing covered rule (index + 1) branches)
  | matched {covered index width : Nat} {rule : String} {branches : List Branch} :
      Step (running covered (⟨rule, index⟩ :: branches)) ⟨branches.length, .leave rule (some width)⟩
        (running covered branches)
  | failed {covered next : Nat} {rule : String} {branches : List Branch} :
      Step (choosing covered rule next branches) ⟨branches.length, .leave rule none⟩ (running covered branches)
  | expression {covered width : Nat} {rule : String} :
      Step (running covered []) ⟨0, .expression rule covered width⟩ (running (covered + width) [])

/-- The lines that come one after the other. -/
inductive Steps : Progress → List Entry → Progress → Prop
  | nil {p : Progress} : Steps p [] p
  | cons {p q r : Progress} {x : Entry} {entries : List Entry} :
      p.Step x q → Steps q entries r → Steps p (x :: entries) r

variable {p q r : Progress} {x : Entry} {entries more : List Entry}

theorem Step.place (h : p.Step x q) : x.event.place? p.depth = some (x.depth, q.depth) := by
  cases h with
  | trial tried =>
      obtain ⟨place, -, -⟩ := Event.inside_of_isTrial tried
      simp [depth, rules, place]
  | enter | alternative | backtrack | matched | failed | expression => simp [depth, rules, Event.place?]

theorem Step.covered_eq (h : p.Step x q) : q.covered = p.covered + x.event.covered := by
  cases h with
  | trial tried =>
      obtain ⟨-, covered, -⟩ := Event.inside_of_isTrial tried
      rw [covered, Nat.add_zero]
  | enter | alternative | backtrack | matched | failed | expression => rfl

/-- A line enters a rule, leaves one, or stands inside of those that are open. -/
theorem Step.rules_cases (h : p.Step x q) :
    (∃ rule offset, x = ⟨p.rules.length, .enter rule offset⟩ ∧ q.rules = rule :: p.rules) ∨
    (∃ rule width, x = ⟨q.rules.length, .leave rule width⟩ ∧ p.rules = rule :: q.rules) ∨
    (x.depth = p.rules.length ∧ q.rules = p.rules) := by
  cases h with
  | @enter covered offset rule branches => exact .inl ⟨rule, offset, by simp [rules], rfl⟩
  | @matched covered index width rule branches => exact .inr (.inl ⟨rule, some width, by simp [rules], rfl⟩)
  | @failed covered next rule branches => exact .inr (.inl ⟨rule, none, by simp [rules], rfl⟩)
  | alternative | trial | backtrack | expression => exact .inr (.inr ⟨by simp [rules], rfl⟩)

/-- A line begins an alternative, ends one, or leaves them all under way. -/
theorem Step.branches_cases (h : p.Step x q) :
    (∃ b : Branch, x = ⟨q.branches.length, .alternative b.rule b.index⟩ ∧ q.branches = b :: p.branches) ∨
    (∃ b : Branch, p.branches = b :: q.branches ∧ q.branches.length ≤ x.depth ∧
      (x.event.isTurn → q.branches.length < x.depth)) ∨
    (q.branches = p.branches ∧ p.branches.length ≤ x.depth ∧ x.event.isTurn = false) := by
  cases h with
  | alternative => exact .inl ⟨_, rfl, rfl⟩
  | backtrack => exact .inr (.inl ⟨_, rfl, Nat.le_succ _, fun _ => Nat.lt_succ_self _⟩)
  | matched => exact .inr (.inl ⟨_, rfl, Nat.le_refl _, nofun⟩)
  | trial tried =>
      obtain ⟨-, -, turns⟩ := Event.inside_of_isTrial tried
      exact .inr (.inr ⟨rfl, Nat.le_refl _, turns⟩)
  | enter | failed | expression => exact .inr (.inr ⟨rfl, Nat.le_refl _, rfl⟩)

variable {above below : List String} {rule : String}

theorem Step.entered {depth offset : Nat} (h : p.Step ⟨depth, .enter rule offset⟩ q) :
    p.rules.length = depth ∧ q.rules = rule :: p.rules := by
  cases h with
  | enter => exact ⟨List.length_map _, rfl⟩
  | trial tried => cases tried

theorem Step.left {depth : Nat} {width : Option Nat} (h : p.Step ⟨depth, .leave rule width⟩ q) :
    q.rules.length = depth ∧ p.rules = rule :: q.rules := by
  cases h with
  | matched => exact ⟨List.length_map _, rfl⟩
  | failed => exact ⟨List.length_map _, rfl⟩
  | trial tried => cases tried

theorem length_lt_of_append_cons {α : Type} {front back all : List α} {a : α}
    (h : all = front ++ a :: back) : back.length < all.length := by
  rw [h, List.length_append, List.length_cons]
  omega

/-- What is open stays open behind every line but the one that leaves it, and that stands less deep. -/
theorem Step.rule_after (h : p.Step x q) (hp : p.rules = above ++ rule :: below) :
    (∃ width, x = ⟨below.length, .leave rule width⟩) ∨
      below.length < x.depth ∧ ∃ above, q.rules = above ++ rule :: below := by
  obtain ⟨other, offset, rfl, hq⟩ | ⟨other, width, rfl, hq⟩ | ⟨depth, hq⟩ := h.rules_cases
  · exact .inr ⟨length_lt_of_append_cons hp, other :: above, by rw [hq, hp, List.cons_append]⟩
  · rw [hq] at hp
    rcases List.cons_eq_append_iff.mp hp with ⟨-, own⟩ | ⟨above, -, held⟩
    · cases own
      exact .inl ⟨width, rfl⟩
    · exact .inr ⟨length_lt_of_append_cons held, above, held⟩
  · rw [depth]
    exact .inr ⟨length_lt_of_append_cons hp, above, hq.trans hp⟩

/-- What is open behind a line has been open before, unless the line enters it. -/
theorem Step.rule_before (h : p.Step x q) (hq : q.rules = above ++ rule :: below) :
    (∃ offset, x = ⟨below.length, .enter rule offset⟩) ∨
      below.length < x.depth ∧ ∃ above, p.rules = above ++ rule :: below := by
  obtain ⟨other, offset, rfl, hp⟩ | ⟨other, width, rfl, hp⟩ | ⟨depth, hp⟩ := h.rules_cases
  · rw [hp] at hq
    rcases List.cons_eq_append_iff.mp hq with ⟨-, own⟩ | ⟨above, -, held⟩
    · cases own
      exact .inl ⟨offset, rfl⟩
    · exact .inr ⟨length_lt_of_append_cons held, above, held⟩
  · exact .inr ⟨length_lt_of_append_cons hq, other :: above, by rw [hp, hq, List.cons_append]⟩
  · rw [hp] at hq
    rw [depth]
    exact .inr ⟨length_lt_of_append_cons hq, above, hq⟩

/-- An alternative that is under way behind a line was so before, unless it begins there. -/
theorem Step.branch_before {above below : List Branch} {b : Branch} (h : p.Step x q)
    (hq : q.branches = above ++ b :: below) :
    x = ⟨below.length + 1, .alternative b.rule b.index⟩ ∨
      (below.length < x.depth ∧ (x.event.isTurn → below.length + 1 < x.depth)) ∧
        ∃ above, p.branches = above ++ b :: below := by
  obtain ⟨other, rfl, hp⟩ | ⟨other, hp, le, lt⟩ | ⟨hp, le, turns⟩ := h.branches_cases
  · rw [hp] at hq ⊢
    rcases List.cons_eq_append_iff.mp hq with ⟨-, own⟩ | ⟨above, -, held⟩
    · cases own
      exact .inl rfl
    · have deep := length_lt_of_append_cons held
      exact .inr ⟨⟨Nat.lt_succ_of_lt deep, fun _ => Nat.succ_lt_succ deep⟩, above, held⟩
  · have deep := length_lt_of_append_cons hq
    refine .inr ⟨⟨Nat.lt_of_lt_of_le deep le, fun turns => ?_⟩, other :: above, ?_⟩
    · exact Nat.lt_of_le_of_lt deep (lt turns)
    · rw [hp, hq, List.cons_append]
  · rw [hp] at hq
    have deep := length_lt_of_append_cons hq
    refine .inr ⟨⟨Nat.lt_of_lt_of_le deep le, fun turns' => ?_⟩, above, hq⟩
    rw [turns] at turns'
    cases turns'

theorem Steps.append (h : p.Steps entries q) (h' : q.Steps more r) : p.Steps (entries ++ more) r := by
  induction h with
  | nil => exact h'
  | cons stepped _ ih => exact .cons stepped (ih h')

theorem Steps.split {before behind : List Entry} (h : p.Steps (before ++ behind) r) :
    ∃ q, p.Steps before q ∧ q.Steps behind r := by
  induction before generalizing p with
  | nil => exact ⟨p, .nil, h⟩
  | cons x before ih =>
      cases h with
      | cons stepped later =>
          obtain ⟨q, front, back⟩ := ih later
          exact ⟨q, .cons stepped front, back⟩

theorem Steps.step {before behind : List Entry} (h : p.Steps (before ++ x :: behind) r) :
    ∃ q q', p.Steps before q ∧ q.Step x q' ∧ q'.Steps behind r := by
  obtain ⟨q, front, later⟩ := h.split
  cases later with
  | cons stepped later => exact ⟨q, _, front, stepped, later⟩

/-- Lines that come one after the other stand where they are laid out. -/
theorem Steps.layOut?_eq (h : p.Steps entries q) : layOut? p.depth (entries.map (·.event)) = some entries := by
  induction h with
  | nil => rfl
  | cons stepped _ ih => rw [List.map_cons, layOut?_cons_of_place stepped.place, ih, Option.map_some]

theorem Steps.covered_eq (h : p.Steps entries q) :
    q.covered = p.covered + (entries.map (·.event.covered)).sum := by
  induction h with
  | nil => rfl
  | cons stepped _ ih => rw [ih, stepped.covered_eq, List.map_cons, List.sum_cons, Nat.add_assoc]

/-- What is open at first is left, or else it is open to the end. -/
theorem Steps.closes (h : p.Steps entries q) (above : List String) (hp : p.rules = above ++ rule :: below) :
    Closes below.length rule entries ∨
      (∀ x ∈ entries, below.length < x.depth) ∧ ∃ above, q.rules = above ++ rule :: below := by
  induction h generalizing above with
  | nil => exact .inr ⟨nofun, above, hp⟩
  | @cons p q r x entries stepped _ ih =>
      rcases stepped.rule_after hp with ⟨width, rfl⟩ | ⟨deeper, above, hq⟩
      · exact .inl ⟨[], width, entries, rfl, nofun⟩
      · rcases ih above hq with ⟨inside, width, after, rfl, within⟩ | ⟨within, held⟩
        · exact .inl ⟨x :: inside, width, after, rfl, List.forall_mem_cons.mpr ⟨deeper, within⟩⟩
        · exact .inr ⟨List.forall_mem_cons.mpr ⟨deeper, within⟩, held⟩

/-- What is open in the end has been entered, or else it has been open from the start. -/
theorem Steps.opens (h : p.Steps entries q) (above : List String) (hq : q.rules = above ++ rule :: below) :
    Opens below.length rule entries ∨
      (∀ x ∈ entries, below.length < x.depth) ∧ ∃ above, p.rules = above ++ rule :: below := by
  induction h with
  | nil => exact .inr ⟨nofun, above, hq⟩
  | @cons p q r x entries stepped _ ih =>
      rcases ih hq with ⟨outside, offset, inside, rfl, within⟩ | ⟨within, _, held⟩
      · exact .inl ⟨x :: outside, offset, inside, rfl, within⟩
      · rcases stepped.rule_before held with ⟨offset, rfl⟩ | ⟨deeper, earlier⟩
        · exact .inl ⟨[], offset, entries, rfl, within⟩
        · exact .inr ⟨List.forall_mem_cons.mpr ⟨deeper, within⟩, earlier⟩

/-- What is under way in the end has begun, or else it has been under way from the start. -/
theorem Steps.underWay {below : List Branch} {b : Branch} (h : p.Steps entries q) (above : List Branch)
    (hq : q.branches = above ++ b :: below) :
    UnderWay (below.length + 1) b.rule b.index entries ∨
      (∀ x ∈ entries, below.length < x.depth ∧ (x.event.isTurn → below.length + 1 < x.depth)) ∧
        ∃ above, p.branches = above ++ b :: below := by
  induction h with
  | nil => exact .inr ⟨nofun, above, hq⟩
  | @cons p q r x entries stepped _ ih =>
      rcases ih hq with ⟨outside, inside, rfl, within⟩ | ⟨within, _, held⟩
      · exact .inl ⟨x :: outside, inside, rfl, within⟩
      · rcases stepped.branch_before held with rfl | ⟨deeper, earlier⟩
        · exact .inl ⟨[], entries, rfl, within⟩
        · exact .inr ⟨List.forall_mem_cons.mpr ⟨deeper, within⟩, earlier⟩

/-- An alternative is to be tried where its rule was entered or the one before it failed. -/
theorem Steps.chosen {covered next : Nat} {branches : List Branch}
    (h : p.Steps entries (choosing covered rule next branches)) (hp : p.IsRunning) :
    (∃ outside offset, next = 0 ∧ entries = outside ++ [⟨branches.length, .enter rule offset⟩]) ∨
      ∃ outside last, next = last + 1 ∧
        entries = outside ++ [⟨branches.length + 1, .backtrack rule last⟩] := by
  rcases List.eq_nil_or_concat' entries with rfl | ⟨outside, x, rfl⟩
  · cases h
    exact hp.elim
  · obtain ⟨q, -, last⟩ := h.split
    cases last with
    | cons stepped done =>
        cases done
        cases stepped with
        | enter => exact .inl ⟨outside, _, rfl, rfl⟩
        | backtrack => exact .inr ⟨outside, _, rfl, rfl⟩

/-- Where an alternative is to be tried, it begins, or its rule is left. -/
theorem Steps.decided {covered next : Nat} {branches : List Branch}
    (h : Steps (choosing covered rule next branches) entries q) (hq : q.IsRunning) :
    (∃ after, entries = ⟨branches.length + 1, .alternative rule next⟩ :: after) ∨
      ∃ after, entries = ⟨branches.length, .leave rule none⟩ :: after := by
  cases h with
  | nil => exact hq.elim
  | cons stepped _ =>
      cases stepped with
      | alternative => exact .inl ⟨_, rfl⟩
      | failed => exact .inr ⟨_, rfl⟩

/-- Every rule that is open can be left. -/
theorem exists_completion (covered : Nat) (branches : List Branch) :
    ∃ rest, (running covered branches).Steps rest (running covered []) := by
  induction branches with
  | nil => exact ⟨[], .nil⟩
  | cons b branches ih =>
      obtain ⟨rest, left⟩ := ih
      exact ⟨⟨branches.length, .leave b.rule (some 0)⟩ :: rest, .cons .matched left⟩

def start : Progress := running 0 []

/-- From the start, what is open has been entered. -/
theorem Steps.opened (h : start.Steps entries q) (hq : q.rules = rule :: below) :
    Opens below.length rule entries := by
  rcases h.opens [] hq with opened | ⟨-, above, none⟩
  · exact opened
  · exact absurd none.symm (List.append_ne_nil_of_right_ne_nil above (List.cons_ne_nil rule below))

/-- From the start, what is under way has begun. -/
theorem Steps.begun {b : Branch} {below : List Branch} (h : start.Steps entries q) (hq : q.branches = b :: below) :
    UnderWay (below.length + 1) b.rule b.index entries := by
  rcases h.underWay [] hq with begun | ⟨-, above, none⟩
  · exact begun
  · exact absurd none.symm (List.append_ne_nil_of_right_ne_nil above (List.cons_ne_nil b below))

theorem Steps.wellNested (h : start.Steps entries q) (hq : q.IsRunning) : WellNested entries where
  laidOut := h.layOut?_eq
  entered := by
    rintro before behind depth offset rule rfl
    obtain ⟨p, p', -, stepped, later⟩ := h.step
    obtain ⟨rfl, held⟩ := stepped.entered
    exact (later.closes [] held).imp_right And.left
  left := by
    rintro before behind depth rule width rfl
    obtain ⟨p, p', front, stepped, -⟩ := h.step
    obtain ⟨rfl, held⟩ := stepped.left
    exact front.opened held
  begun := by
    rintro before behind depth index rule rfl
    obtain ⟨p, p', front, stepped, -⟩ := h.step
    cases stepped with
    | alternative =>
        rcases front.chosen trivial with ⟨outside, offset, first, rfl⟩ | later
        · exact .inl ⟨outside, _, offset, first, rfl, rfl⟩
        · exact .inr later
    | trial tried => cases tried
  failed := by
    rintro before behind depth index rule rfl
    obtain ⟨p, p', front, stepped, -⟩ := h.step
    cases stepped with
    | backtrack => exact front.begun rfl
    | trial tried => cases tried
  followed := by
    rintro before behind depth index rule rfl
    obtain ⟨p, p', -, stepped, later⟩ := h.step
    cases stepped with
    | backtrack =>
        rcases later.decided hq with next | ⟨after, rfl⟩
        · exact .inl next
        · exact .inr ⟨_, after, rfl, rfl⟩
    | trial tried => cases tried
  tried := by
    rintro before behind depth e rfl tried
    obtain ⟨p, p', front, stepped, -⟩ := h.step
    cases stepped with
    | trial => exact ⟨_, _, front.begun rfl⟩
    | enter | alternative | backtrack | matched | failed | expression => cases tried
  expressed := by
    rintro before behind depth offset width rule rfl
    obtain ⟨p, p', front, stepped, -⟩ := h.step
    cases stepped with
    | expression => exact ⟨rfl, front.covered_eq.trans (Nat.zero_add _)⟩
    | trial tried => cases tried

/-- Where nothing is open in the end, all that was entered has been left. -/
theorem Steps.complete {covered : Nat} (h : start.Steps entries (running covered [])) : Complete entries := by
  rintro before depth rule offset behind rfl
  obtain ⟨p, p', -, stepped, later⟩ := h.step
  obtain ⟨rfl, held⟩ := stepped.entered
  rcases later.closes [] held with closes | ⟨-, above, none⟩
  · exact closes
  · exact absurd none.symm (List.append_ne_nil_of_right_ne_nil above (List.cons_ne_nil rule p.rules))

end Progress

end TokenGrammar
