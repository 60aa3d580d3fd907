import Mathlib.Data.List.Count
import Mathlib.Logic.Relation
import TokenGrammar.Proofs.Match.Faults

/-!
# Left calls

A recognizer calls another one on the left if nothing that must consume a token stands before the call.
Every other call moves on in the program. So where left calls lead into no cycle, a run holds at most as
many recognizers at one place of the program as there are, and main statement: a recursion limit of that
many levels for each place, the end included, is never exceeded.
-/
namespace TokenGrammar

/-- The symbol takes a token wherever it matches. -/
def Symbol.Consumes : Symbol → Prop
  | .literal _ => True
  | .tokens _ quantifier _ => quantifier.least = 1
  | _ => False

mutual

/-- The groups in a symbol of the rule, at any depth. -/
def Symbol.groups (rule : String) : Symbol → List Recognizer
  | .group alternatives => ⟨rule, alternatives⟩ :: groupsOfAlternatives rule alternatives
  | _ => []

def groupsOfAlternatives (rule : String) : List (List Symbol) → List Recognizer
  | [] => []
  | symbols :: others => groupsOfSymbols rule symbols ++ groupsOfAlternatives rule others

def groupsOfSymbols (rule : String) : List Symbol → List Recognizer
  | [] => []
  | symbol :: symbols => symbol.groups rule ++ groupsOfSymbols rule symbols

end

/-- The recognizer and all groups in it. -/
def Recognizer.withGroups (r : Recognizer) : List Recognizer :=
  r :: groupsOfAlternatives r.name r.alternatives

namespace Grammar

/-- All recognizers that a run can enter: the entries of the namespaces, and the groups in them. -/
def recognizers (g : Grammar) : List Recognizer :=
  Namespace.all.flatMap fun n => (g.table n).flatMap (·.withGroups)

/-- What a symbol of the rule invokes. -/
inductive Calls (g : Grammar) (rule : String) : Symbol → Recognizer → Prop
  | subrule {name : String} {r : Recognizer} :
      g.lookup .rules name = some r → Calls g rule (.subrule name) r
  | definition {name : String} {r : Recognizer} :
      g.lookup .definitions name = some r → Calls g rule (.definition name) r
  | group (alternatives : List Alternative) : Calls g rule (.group alternatives) ⟨rule, alternatives⟩

/-- Some alternative of the first invokes the second before anything that must consume a token. -/
def LeftCalls (g : Grammar) (r s : Recognizer) : Prop :=
  ∃ front symbol behind, front ++ symbol :: behind ∈ r.alternatives ∧
    (∀ x ∈ front, ¬ x.Consumes) ∧ g.Calls r.name symbol s

/-- No recognizer reaches itself by left calls. Equal ones at several places may be taken as one, as they
call the same ones. -/
def LeftAcyclic (g : Grammar) : Prop :=
  ∀ r ∈ g.recognizers, ¬ Relation.TransGen g.LeftCalls r r

end Grammar

theorem countP_lt_countP {α : Type} {p q : α → Bool} {l : List α} (sub : ∀ x ∈ l, p x = true → q x = true)
    {a : α} (ha : a ∈ l) (hp : p a = false) (hq : q a = true) : l.countP p < l.countP q := by
  calc l.countP p = (l.filter q).countP p := by
        rw [List.countP_filter]
        refine List.countP_congr fun x hx => ?_
        rw [Bool.and_eq_true]
        exact ⟨fun h => ⟨h, sub x hx h⟩, fun h => h.1⟩
    _ < (l.filter q).length := List.countP_lt_length_iff.mpr ⟨a, List.mem_filter.mpr ⟨ha, hq⟩, hp⟩
    _ = l.countP q := List.countP_eq_length_filter.symm

theorem groups_subset_groupsOfSymbols {rule : String} {symbol : Symbol} {symbols : List Symbol}
    (h : symbol ∈ symbols) : symbol.groups rule ⊆ groupsOfSymbols rule symbols := by
  induction symbols with
  | nil => cases h
  | cons first symbols ih =>
      rw [groupsOfSymbols]
      rcases List.mem_cons.mp h with rfl | later
      · exact List.subset_append_left _ _
      · exact List.subset_append_of_subset_right _ (ih later)

theorem groupsOfSymbols_subset {rule : String} {symbols : Alternative} {alternatives : List Alternative}
    (h : symbols ∈ alternatives) : groupsOfSymbols rule symbols ⊆ groupsOfAlternatives rule alternatives := by
  induction alternatives with
  | nil => cases h
  | cons first others ih =>
      rw [groupsOfAlternatives]
      rcases List.mem_cons.mp h with rfl | later
      · exact List.subset_append_left _ _
      · exact List.subset_append_of_subset_right _ (ih later)

theorem mem_groupsOfAlternatives {rule : String} {symbols : Alternative} {alternatives inner : List Alternative}
    (ha : symbols ∈ alternatives) (hg : .group inner ∈ symbols) :
    ⟨rule, inner⟩ ∈ groupsOfAlternatives rule alternatives := by
  apply groupsOfSymbols_subset ha
  apply groups_subset_groupsOfSymbols hg
  rw [Symbol.groups]
  exact List.mem_cons_self

mutual

/-- With a group, all groups in it are among those of the symbol. -/
theorem Symbol.groups_closed {rule : String} {symbol : Symbol} {r : Recognizer}
    (h : r ∈ symbol.groups rule) :
    r.name = rule ∧ groupsOfAlternatives rule r.alternatives ⊆ symbol.groups rule := by
  match symbol with
  | .group alternatives =>
      rw [Symbol.groups] at h ⊢
      rcases List.mem_cons.mp h with rfl | deeper
      · exact ⟨rfl, List.subset_cons_self _ _⟩
      · obtain ⟨name, sub⟩ := groupsOfAlternatives_closed deeper
        exact ⟨name, List.subset_cons_of_subset _ sub⟩
  | .literal _ | .tokens .. | .subrule _ | .definition _ | .stray _ => cases h

theorem groupsOfAlternatives_closed {rule : String} {alternatives : List (List Symbol)} {r : Recognizer}
    (h : r ∈ groupsOfAlternatives rule alternatives) :
    r.name = rule ∧
      groupsOfAlternatives rule r.alternatives ⊆ groupsOfAlternatives rule alternatives := by
  match alternatives with
  | [] => cases h
  | symbols :: others =>
      rw [groupsOfAlternatives] at h
      rcases List.mem_append.mp h with first | later
      · obtain ⟨name, sub⟩ := groupsOfSymbols_closed first
        exact ⟨name, List.Subset.trans sub (groupsOfSymbols_subset List.mem_cons_self)⟩
      · obtain ⟨name, sub⟩ := groupsOfAlternatives_closed later
        refine ⟨name, ?_⟩
        rw [groupsOfAlternatives]
        exact List.subset_append_of_subset_right _ sub

theorem groupsOfSymbols_closed {rule : String} {symbols : List Symbol} {r : Recognizer}
    (h : r ∈ groupsOfSymbols rule symbols) :
    r.name = rule ∧ groupsOfAlternatives rule r.alternatives ⊆ groupsOfSymbols rule symbols := by
  match symbols with
  | [] => cases h
  | symbol :: symbols =>
      rw [groupsOfSymbols] at h
      rcases List.mem_append.mp h with first | later
      · obtain ⟨name, sub⟩ := Symbol.groups_closed first
        exact ⟨name, List.Subset.trans sub (groups_subset_groupsOfSymbols List.mem_cons_self)⟩
      · obtain ⟨name, sub⟩ := groupsOfSymbols_closed later
        refine ⟨name, ?_⟩
        rw [groupsOfSymbols]
        exact List.subset_append_of_subset_right _ sub

end

theorem Recognizer.group_mem_withGroups {q r : Recognizer} (h : r ∈ q.withGroups) {symbols : Alternative}
    {inner : List Alternative} (ha : symbols ∈ r.alternatives) (hg : .group inner ∈ symbols) :
    ⟨r.name, inner⟩ ∈ q.withGroups := by
  rcases List.mem_cons.mp h with rfl | deeper
  · exact List.mem_cons_of_mem _ (mem_groupsOfAlternatives ha hg)
  · obtain ⟨name, sub⟩ := groupsOfAlternatives_closed deeper
    rw [name]
    exact List.mem_cons_of_mem _ (sub (mem_groupsOfAlternatives ha hg))

namespace Grammar

variable {g : Grammar}

theorem mem_recognizers {r : Recognizer} :
    r ∈ g.recognizers ↔ ∃ n, ∃ q ∈ g.table n, r ∈ q.withGroups := by
  simp only [recognizers, List.mem_flatMap]
  constructor
  · rintro ⟨n, -, q, hq, hr⟩
    exact ⟨n, q, hq, hr⟩
  · rintro ⟨n, q, hq, hr⟩
    exact ⟨n, by cases n <;> decide, q, hq, hr⟩

theorem mem_recognizers_of_lookup {n : Namespace} {name : String} {r : Recognizer}
    (h : g.lookup n name = some r) : r ∈ g.recognizers :=
  mem_recognizers.mpr ⟨n, r, mem_table_of_lookup h, List.mem_cons_self⟩

/-- A run never leaves the recognizers of the grammar. -/
theorem Calls.mem_recognizers {r s : Recognizer} {symbols : Alternative} {symbol : Symbol}
    (h : g.Calls r.name symbol s) (hr : r ∈ g.recognizers) (ha : symbols ∈ r.alternatives)
    (hs : symbol ∈ symbols) : s ∈ g.recognizers := by
  cases h with
  | subrule hl => exact mem_recognizers_of_lookup hl
  | definition hl => exact mem_recognizers_of_lookup hl
  | group alternatives =>
      obtain ⟨n, q, hq, inside⟩ := Grammar.mem_recognizers.mp hr
      exact Grammar.mem_recognizers.mpr ⟨n, q, hq, Recognizer.group_mem_withGroups inside ha hs⟩

section Rank

open Classical

/-- How many of the recognizers are reached by left calls, the start included. -/
noncomputable def leftRank (g : Grammar) (r : Recognizer) : Nat :=
  g.recognizers.countP fun s => Relation.ReflTransGen g.LeftCalls r s

theorem leftRank_le (g : Grammar) (r : Recognizer) : g.leftRank r ≤ g.recognizers.length :=
  List.countP_le_length

theorem leftRank_pos {r : Recognizer} (h : r ∈ g.recognizers) : 0 < g.leftRank r := by
  rw [leftRank, List.countP_pos_iff]
  exact ⟨r, h, decide_eq_true .refl⟩

/-- A left call gives up at least the recognizer that makes it. -/
theorem LeftAcyclic.leftRank_lt (h : g.LeftAcyclic) {r s : Recognizer} (hr : r ∈ g.recognizers)
    (hs : g.LeftCalls r s) : g.leftRank s < g.leftRank r := by
  refine countP_lt_countP ?_ hr ?_ (decide_eq_true .refl)
  · intro x _ hx
    exact decide_eq_true (.head hs (of_decide_eq_true hx))
  · rw [decide_eq_false_iff_not]
    exact fun back => h r hr (.head' hs back)

end Rank

end Grammar

/-- The script does not break off at a depth limit. -/
def Script.Shallow {α : Type} (s : Script α) : Prop :=
  ∀ limit, s.outcome ≠ .error (.recursionLimitExceeded limit)

namespace Script.Shallow

variable {α β : Type}

theorem pure (v : α) : (Pure.pure v : Script α).Shallow := by
  intro limit h
  cases h

theorem bind {s : Script α} {f : α → Script β} (hs : s.Shallow)
    (hf : ∀ v, s.outcome = .ok v → (f v).Shallow) : (s >>= f).Shallow := by
  intro limit h
  rcases Script.outcome_bind_eq_error.mp h with own | ⟨v, hv, later⟩
  · exact hs limit own
  · exact hf v hv limit later

theorem spend_bind {f : Unit → Script β} (hf : (f ()).Shallow) :
    ((Effects.spend : Script Unit) >>= f).Shallow := hf

theorem note_bind (e : Event) {f : Unit → Script β} (hf : (f ()).Shallow) :
    ((Effects.note e : Script Unit) >>= f).Shallow := hf

end Script.Shallow

namespace Grammar

variable {g : Grammar}

/-- A symbol that takes a token wherever it matches has taken one. -/
theorem Contributes.width_pos {symbol : Symbol} {input : List Token} {part : Matched}
    (h : g.Contributes symbol input (some part)) (hs : symbol.Consumes) : 0 < part.width := by
  generalize he : some part = result at h
  cases h with
  | literal _ =>
      cases he
      exact Nat.zero_lt_one
  | tokens _ hl =>
      cases he
      exact Nat.lt_of_lt_of_le (hs ▸ Nat.zero_lt_one) hl
  | noLiteral _ | noTokens _ _ => cases he
  | subrule _ _ | definition _ _ | group _ => exact hs.elim

/-- The second recognizer may run under the first: further on in the program, or on its left. -/
def Under (g : Grammar) (r : Recognizer) (input : List Token) (s : Recognizer) (rest : List Token) : Prop :=
  s ∈ g.recognizers ∧ (rest.length < input.length ∨ rest.length = input.length ∧ g.LeftCalls r s)

section Call

variable {limit depth : Nat} {r : Recognizer} {input : List Token}
  (hc : ∀ s offset rest, g.Under r input s rest → (g.script limit depth s offset rest).Shallow)

include hc

theorem shallow_evaluateReference {space : Namespace} {name : String} {cursor : Nat} {rest : List Token}
    (hu : ∀ s, g.lookup space name = some s → g.Under r input s rest) :
    (g.evaluateReference (g.script limit depth) space name cursor rest).Shallow := by
  unfold evaluateReference
  cases hl : g.lookup space name with
  | none =>
      intro limit h
      cases h
  | some s => exact .bind (hc s cursor rest (hu s hl)) fun _ _ => .pure _

theorem shallow_evaluateSymbol {symbol : Symbol} {cursor : Nat} {rest : List Token}
    (hu : ∀ s, g.Calls r.name symbol s → g.Under r input s rest) :
    (g.evaluateSymbol (g.script limit depth) r.name cursor rest symbol).Shallow := by
  cases symbol with
  | literal text =>
      cases rest with
      | nil => exact .note_bind _ (.pure _)
      | cons token rest =>
          by_cases hl : token.lexeme = text
          · simp only [evaluateSymbol, if_pos hl]
            exact .note_bind _ (.pure _)
          · simp only [evaluateSymbol, if_neg hl]
            exact .note_bind _ (.pure _)
  | tokens kind quantifier explicit =>
      by_cases hl : (kindRun kind quantifier rest).length < quantifier.least
      · simp only [evaluateSymbol, if_pos hl]
        exact .note_bind _ (.pure _)
      · simp only [evaluateSymbol, if_neg hl]
        exact .note_bind _ (.pure _)
  | subrule name => exact shallow_evaluateReference hc fun s hl => hu s (.subrule hl)
  | definition name => exact shallow_evaluateReference hc fun s hl => hu s (.definition hl)
  | group alternatives => exact .bind (hc _ cursor rest (hu _ (.group alternatives))) fun _ _ => .pure _
  | stray token =>
      intro limit h
      cases h

/-- While the cursor stands where the recognizer was entered, no symbol so far had to consume a token. -/
theorem shallow_evaluateSymbols (hr : r ∈ g.recognizers) (front : List Symbol) {symbols : List Symbol}
    (split : front ++ symbols ∈ r.alternatives) {cursor : Nat} {rest : List Token}
    (behind : rest.length ≤ input.length)
    (still : rest.length = input.length → ∀ x ∈ front, ¬ x.Consumes) :
    (g.evaluateSymbols (g.script limit depth) r.name symbols cursor rest).Shallow := by
  induction symbols generalizing front cursor rest with
  | nil => exact .pure _
  | cons symbol symbols ih =>
      have under : ∀ s, g.Calls r.name symbol s → g.Under r input s rest := by
        intro s calls
        refine ⟨calls.mem_recognizers hr split (by simp), ?_⟩
        rcases Nat.lt_or_eq_of_le behind with further | same
        · exact .inl further
        · exact .inr ⟨same, front, symbol, symbols, split, still same, calls⟩
      rw [evaluateSymbols]
      refine .spend_bind (.bind (shallow_evaluateSymbol hc under) fun part hp => ?_)
      cases part with
      | none => exact .pure _
      | some part =>
          have contributes := contributes_of_evaluateSymbol (fun _ _ _ _ h => chooses_of_script h) hp
          have fits := (contributes.covers part rfl).width_le
          have left : (rest.drop part.width).length = rest.length - part.width := List.length_drop
          refine .bind (ih (front ++ [symbol]) (by simpa using split) (by omega) ?_)
            fun _ _ => .pure _
          intro same x member
          rcases List.mem_append.mp member with early | last
          · exact still (by omega) x early
          · rw [List.mem_singleton.mp last]
            intro consumes
            have := contributes.width_pos consumes
            omega

theorem shallow_evaluateAlternatives (hr : r ∈ g.recognizers) {alternatives : List Alternative}
    (sub : alternatives ⊆ r.alternatives) (offset index : Nat) :
    (g.evaluateAlternatives (g.script limit depth) r.name offset input index alternatives).Shallow := by
  induction alternatives generalizing index with
  | nil => exact .pure _
  | cons symbols others ih =>
      obtain ⟨first, later⟩ := List.cons_subset.mp sub
      have tried : (g.evaluateSymbols (g.script limit depth) r.name symbols offset input).Shallow :=
        shallow_evaluateSymbols hc hr [] first (Nat.le_refl _) fun _ _ member => by cases member
      rw [evaluateAlternatives]
      refine .note_bind _ (.bind tried fun result _ => ?_)
      cases result with
      | none => exact .note_bind _ (ih later (index + 1))
      | some matched => exact .pure _

end Call

/-- Levels that a recognizer may still open on its input. -/
noncomputable def levels (g : Grammar) (r : Recognizer) (input : List Token) : Nat :=
  g.leftRank r + g.recognizers.length * input.length

theorem LeftAcyclic.levels_lt (h : g.LeftAcyclic) {r s : Recognizer} {input rest : List Token}
    (hr : r ∈ g.recognizers) (hu : g.Under r input s rest) : g.levels s rest < g.levels r input := by
  unfold levels
  rcases hu.2 with further | ⟨same, left⟩
  · calc g.leftRank s + g.recognizers.length * rest.length
        ≤ g.recognizers.length + g.recognizers.length * rest.length :=
          Nat.add_le_add_right (g.leftRank_le s) _
      _ = g.recognizers.length * (rest.length + 1) := by rw [Nat.mul_succ, Nat.add_comm]
      _ ≤ g.recognizers.length * input.length := Nat.mul_le_mul_left _ further
      _ < g.leftRank r + g.recognizers.length * input.length :=
          Nat.lt_add_of_pos_left (leftRank_pos hr)
  · rw [same]
    exact Nat.add_lt_add_right (h.leftRank_lt hr left) _

variable {limit : Nat}

/-- With a level left for everything that may run under it, a recognizer never breaks off. -/
theorem LeftAcyclic.shallow_script (h : g.LeftAcyclic) {depth : Nat} {r : Recognizer} {offset : Nat}
    {input : List Token} (hr : r ∈ g.recognizers) (room : depth + g.levels r input ≤ limit) :
    (g.script limit depth r offset input).Shallow := by
  induction depth, r, offset, input using evaluate.induct limit with
  | case1 depth r offset input hd =>
      have := leftRank_pos hr
      unfold levels at room
      omega
  | case2 depth r offset input hd ih =>
      rw [script_eq, if_neg hd]
      refine .spend_bind (.note_bind _ (.bind ?_ fun result _ => .note_bind _ (.pure _)))
      refine shallow_evaluateAlternatives ?_ hr (List.Subset.refl _) offset 0
      intro s cursor rest under
      have := h.levels_lt hr under
      exact ih s cursor rest under.1 (by omega)

theorem levels_le (g : Grammar) (r : Recognizer) {input : List Token} {n : Nat} (h : input.length ≤ n) :
    g.levels r input ≤ g.recognizers.length * (n + 1) := by
  calc g.levels r input
      ≤ g.recognizers.length + g.recognizers.length * n :=
        Nat.add_le_add (g.leftRank_le r) (Nat.mul_le_mul_left _ h)
    _ = g.recognizers.length * (n + 1) := by rw [Nat.mul_succ, Nat.add_comm]

theorem LeftAcyclic.shallow_evaluateRules (h : g.LeftAcyclic) {offset : Nat} {input : List Token}
    (room : g.recognizers.length * (input.length + 1) ≤ limit) {rules : List Recognizer}
    (hr : rules ⊆ g.recognizers) : Script.Shallow (g.evaluateRules limit offset input rules) := by
  induction rules with
  | nil => exact .pure _
  | cons r others ih =>
      obtain ⟨first, later⟩ := List.cons_subset.mp hr
      have enough := Nat.le_trans (g.levels_le r (Nat.le_refl input.length)) room
      rw [evaluateRules_cons]
      refine .bind (h.shallow_script first (by omega)) fun result _ => ?_
      cases result with
      | none => exact ih later
      | some matched =>
          by_cases hw : matched.width = 0
          · simp only [if_pos hw]
            exact ih later
          · simp only [if_neg hw]
            exact .pure _

theorem LeftAcyclic.shallow_programScript (h : g.LeftAcyclic) (offset : Nat) {tokens : List Token}
    (room : g.recognizers.length * (tokens.length + 1) ≤ limit) :
    (g.programScript limit offset tokens).Shallow := by
  have known : g.rules.reverse ⊆ g.recognizers := by
    intro r member
    have stored : r ∈ g.table .rules := List.mem_reverse.mp member
    exact mem_recognizers.mpr ⟨.rules, r, stored, List.mem_cons_self⟩
  unfold programScript
  induction offset, tokens using evaluateProgram.induct with
  | case1 offset =>
      rw [evaluateProgram]
      exact .pure _
  | case2 offset token rest ih =>
      rw [evaluateProgram]
      refine .bind (h.shallow_evaluateRules room known) fun found _ => ?_
      cases found with
      | none => exact .pure _
      | some found =>
          have shorter : (rest.drop (found.2.width - 1)).length ≤ (token :: rest).length := by
            simp only [List.length_drop, List.length_cons]
            omega
          have fewer := Nat.mul_le_mul_left g.recognizers.length (Nat.succ_le_succ shorter)
          refine .note_bind _ (.bind (ih found.2 (Nat.le_trans fewer room)) fun _ _ => .pure _)

end Grammar

namespace Machine

variable {σ : Type}

/-- If left calls lead into no cycle, a limit of as many levels as there are recognizers, for each place of the
program, is never exceeded, however much fuel there is. -/
theorem depth_suffices {m : Machine σ} (h : m.grammar.LeftAcyclic) (tokens : List Token)
    (hd : m.grammar.recognizers.length * (tokens.length + 1) ≤ m.limits.depth) (log : σ) (limit : Nat) :
    (∀ space name, (m.recognize space name tokens log).outcome ≠
      .error (.recursionLimitExceeded limit)) ∧
    (m.parse tokens log).outcome ≠ .error (.recursionLimitExceeded limit) := by
  constructor
  · intro space name exceeded
    cases hr : m.grammar.lookup space name with
    | none =>
        rw [recognize, hr] at exceeded
        cases exceeded
    | some r =>
        have room := Nat.le_trans (m.grammar.levels_le r (Nat.le_refl tokens.length)) hd
        rw [recognize_of_lookup m hr, Script.outcome_play] at exceeded
        split at exceeded
        · exact h.shallow_script (Grammar.mem_recognizers_of_lookup hr) (by omega) limit exceeded
        · cases exceeded
  · intro exceeded
    by_cases hc : (m.grammar.programScript m.limits.depth 0 tokens).cost ≤ m.limits.fuel
    · rw [m.outcome_parse_of_cost_le log hc] at exceeded
      have shallow := h.shallow_programScript 0 hd
      rcases hs : (m.grammar.programScript m.limits.depth 0 tokens).outcome with
        e | ⟨expressions, _ | token⟩
      · rw [hs] at exceeded
        cases exceeded
        exact shallow limit hs
      · rw [hs] at exceeded
        cases exceeded
      · rw [hs] at exceeded
        cases exceeded
    · rw [m.outcome_parse_of_lt_cost log (Nat.lt_of_not_le hc)] at exceeded
      cases exceeded

end Machine

namespace Sums

/-- What may follow the first term of a sum. -/
def more : List Alternative := [[.literal "+", .subrule "sum"], []]

def sum : Recognizer := ⟨"sum", [[.subrule "term", .group more]]⟩

def term : Recognizer := ⟨"term", [[.tokens "number" .one true], [.literal "(", .subrule "sum", .literal ")"]]⟩

def grammar : Grammar := ⟨[], [], [term, sum], []⟩

def tokens : List Token :=
  [⟨"number", "1", ⟨1, 1⟩, 0⟩, ⟨"sign", "+", ⟨1, 2⟩, 1⟩, ⟨"number", "1", ⟨1, 3⟩, 2⟩]

theorem recognizers_grammar : grammar.recognizers = [term, sum, ⟨"sum", more⟩] := rfl

/-- Only the sum calls on its left: the term, and the group behind it, as a reference to the term does not
count as taking a token. -/
theorem leftCalls_sum {r s : Recognizer} (hr : r ∈ grammar.recognizers) (h : grammar.LeftCalls r s) :
    r = sum ∧ (s = term ∨ s = ⟨"sum", more⟩) := by
  obtain ⟨front, symbol, behind, member, still, calls⟩ := h
  have known : r = term ∨ r = sum ∨ r = ⟨"sum", more⟩ := by
    rw [recognizers_grammar] at hr
    simpa using hr
  rcases known with rfl | rfl | rfl
  · rcases front with _ | ⟨x, front⟩
    · simp only [term, List.nil_append, List.mem_cons, List.cons.injEq, List.not_mem_nil, or_false] at member
      rcases member with ⟨rfl, -⟩ | ⟨rfl, -⟩ <;> cases calls
    · simp only [term, List.cons_append, List.mem_cons, List.cons.injEq, List.append_eq_nil_iff,
        reduceCtorEq, and_false, List.not_mem_nil, or_false, false_or] at member
      obtain ⟨rfl, -⟩ := member
      exact (still _ List.mem_cons_self trivial).elim
  · refine ⟨rfl, ?_⟩
    rcases front with _ | ⟨x, _ | ⟨y, front⟩⟩
    · simp only [sum, List.nil_append, List.mem_cons, List.cons.injEq, List.not_mem_nil, or_false] at member
      obtain ⟨rfl, -⟩ := member
      cases calls with
      | subrule hl => exact .inl (Option.some.inj hl).symm
    · simp only [sum, List.cons_append, List.nil_append, List.mem_cons, List.cons.injEq, List.not_mem_nil,
        or_false] at member
      obtain ⟨-, rfl, -⟩ := member
      cases calls with
      | group => exact .inr rfl
    · simp [sum] at member
  · rcases front with _ | ⟨x, front⟩
    · simp only [more, List.nil_append, List.mem_cons, List.cons.injEq, reduceCtorEq, List.not_mem_nil,
        or_self, or_false] at member
      obtain ⟨rfl, -⟩ := member
      cases calls
    · simp only [more, List.cons_append, List.mem_cons, List.cons.injEq, reduceCtorEq, List.not_mem_nil,
        or_self, or_false] at member
      obtain ⟨rfl, -⟩ := member
      exact (still _ List.mem_cons_self trivial).elim

theorem leftAcyclic : grammar.LeftAcyclic := by
  intro r hr cycle
  obtain ⟨s, first, back⟩ := Relation.TransGen.head'_iff.mp cycle
  obtain ⟨rfl, called⟩ := leftCalls_sum hr first
  have other : s ≠ sum := by
    rcases called with rfl | rfl <;> simp [sum, term, more]
  rcases back.cases_head with same | ⟨t, second, -⟩
  · exact other same
  · refine other (leftCalls_sum ?_ second).1
    rw [recognizers_grammar]
    rcases called with rfl | rfl <;> simp

def machine (limits : Limits) : Machine Unit := ⟨grammar, limits, .silent⟩

/-- Three recognizers at four places of the program. Two levels would be too few. -/
theorem depth_suffices_sum :
    (∀ space name, ((machine ⟨1000000, 12⟩).recognize space name tokens ()).outcome ≠
      .error (.recursionLimitExceeded 12)) ∧
    ((machine ⟨1000000, 12⟩).parse tokens ()).outcome ≠ .error (.recursionLimitExceeded 12) ∧
    ((machine ⟨1000000, 2⟩).parse tokens ()).outcome = .error (.recursionLimitExceeded 2) := by
  obtain ⟨recognized, parsed⟩ := Machine.depth_suffices (m := machine ⟨1000000, 12⟩) leftAcyclic tokens
    (by decide) () 12
  exact ⟨recognized, parsed, by with_unfolding_all rfl⟩

end Sums

end TokenGrammar
