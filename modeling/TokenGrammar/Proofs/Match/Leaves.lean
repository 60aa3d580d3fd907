import TokenGrammar.Proofs.Match.Choice
import TokenGrammar.Proofs.Match.Program

/-!
# Leaves of matches

A match keeps the tokens that it consumed, every one of them once and in order, and the width of each
subtree counts those below it. So the tree of a program can be read back into the program.
-/
namespace TokenGrammar

/-- Every subtree's width is the number of tokens below it. -/
inductive Node.Counted : Node → Prop
  | token (t : Token) : Counted (.token t)
  | tree {label : Option String} {width : Nat} {children : List Node} :
      width = (leavesAll children).length → (∀ n ∈ children, Counted n) →
      Counted (.tree label width children)

namespace Matched

/-- The match takes the first tokens of the input, and its nodes are made of just these. -/
structure Covers (matched : Matched) (input : List Token) : Prop where
  width_le : matched.width ≤ input.length
  leaves : leavesAll matched.nodes = input.take matched.width
  counted : ∀ n ∈ matched.nodes, n.Counted

namespace Covers

variable {a b : Matched} {input : List Token}

theorem empty (input : List Token) : Matched.empty.Covers input :=
  ⟨Nat.zero_le _, rfl, fun _ member => absurd member List.not_mem_nil⟩

theorem run {run : List Token} (h : run <+: input) :
    (⟨run.length, run.map .token⟩ : Matched).Covers input := by
  refine ⟨h.length_le, ?_, ?_⟩
  · change leavesAll (run.map .token) = input.take run.length
    rw [leavesAll_map_token]
    exact List.prefix_iff_eq_take.mp h
  · intro n member
    obtain ⟨token, -, rfl⟩ := List.mem_map.mp member
    exact .token token

theorem append (ha : a.Covers input) (hb : b.Covers (input.drop a.width)) :
    (a ++ b).Covers input := by
  have hlen : (input.drop a.width).length = input.length - a.width := List.length_drop
  have hle := hb.width_le
  refine ⟨?_, ?_, ?_⟩
  · have hwidth := ha.width_le
    change a.width + b.width ≤ input.length
    omega
  · rw [nodes_append, leavesAll_append, ha.leaves, hb.leaves, width_append, List.take_add]
  · intro n member
    rcases List.mem_append.mp member with first | later
    · exact ha.counted n first
    · exact hb.counted n later

theorem below (ha : a.Covers input) (label : Option String) : (a.below label).Covers input := by
  have hlen : (leavesAll a.nodes).length = a.width := by
    rw [ha.leaves, List.length_take, Nat.min_eq_left ha.width_le]
  refine ⟨ha.width_le, ?_, ?_⟩
  · change leavesAll a.nodes ++ [] = input.take a.width
    rw [List.append_nil, ha.leaves]
  · intro n member
    rw [List.mem_singleton.mp member]
    exact .tree hlen.symm ha.counted

end Covers

end Matched

namespace Grammar

variable {g : Grammar} {limit offset : Nat}

mutual

theorem Chooses.covers {alternatives : List Alternative} {input : List Token}
    {result : Option Matched} (h : g.Chooses alternatives input result) :
    ∀ matched, result = some matched → matched.Covers input := by
  match h with
  | .exhausted _ =>
      intro matched he
      cases he
  | .first hs => exact hs.covers
  | .next hs ho => exact ho.covers

theorem Follows.covers {symbols : List Symbol} {input : List Token} {result : Option Matched}
    (h : g.Follows symbols input result) :
    ∀ matched, result = some matched → matched.Covers input := by
  match h with
  | .nil _ =>
      intro matched he
      cases he
      exact .empty input
  | .fails hc =>
      intro matched he
      cases he
  | .cons hc hs =>
      intro matched he
      obtain ⟨others, hr, rfl⟩ := Option.map_eq_some_iff.mp he
      exact (hc.covers _ rfl).append (hs.covers others hr)

theorem Contributes.covers {symbol : Symbol} {input : List Token} {result : Option Matched}
    (h : g.Contributes symbol input result) :
    ∀ matched, result = some matched → matched.Covers input := by
  match h with
  | @Contributes.literal _ _ token rest hl =>
      intro matched he
      cases he
      have front : [token] <+: token :: rest := List.prefix_append [token] rest
      exact .run front
  | .noLiteral hl =>
      intro matched he
      cases he
  | .tokens hr hq =>
      intro matched he
      cases he
      exact .run hr.front
  | .noTokens hr hq =>
      intro matched he
      cases he
  | .subrule hr hc | .definition hr hc | .group hc =>
      intro matched he
      obtain ⟨inner, hi, rfl⟩ := Option.map_eq_some_iff.mp he
      exact (hc.covers inner hi).below _

end
/-- What stands at the top level of a program. -/
structure IsExpression (g : Grammar) (s : Subtree) : Prop where
  width_pos : 0 < s.width
  label : ∃ r ∈ g.rules, s.label = some r.name
  counted : s.node.Counted

theorem expressions_of_programScript {tokens : List Token} {expressions : List Subtree}
    (h : (g.programScript limit offset tokens).outcome = .ok (expressions, none)) :
    (expressions.flatMap fun s => s.node.leaves) = tokens ∧ ∀ s ∈ expressions, g.IsExpression s := by
  induction expressions generalizing offset tokens with
  | nil => exact ⟨(eq_nil_of_programScript h).symm, fun _ member => absurd member List.not_mem_nil⟩
  | cons s others ih =>
      obtain ⟨⟨r, matched, member, rfl, positive, hr⟩, later, -⟩ := next_of_programScript h
      obtain ⟨leaves, isExpression⟩ := ih later
      have covers := (chooses_of_script hr).covers matched rfl
      constructor
      · change leavesAll matched.nodes ++ (others.flatMap fun s => s.node.leaves) = tokens
        rw [covers.leaves, leaves]
        exact List.take_append_drop matched.width tokens
      · intro s hs
        rcases List.mem_cons.mp hs with rfl | behind
        · refine ⟨positive, ⟨r, member, rfl⟩, ?_⟩
          exact (covers.below (some r.name)).counted _ (List.mem_singleton_self _)
        · exact isExpression s behind

end Grammar

theorem Program.width_eq_length {p : Program} (h : ∀ s ∈ p.expressions, s.node.Counted) :
    p.width = (p.expressions.flatMap fun s => s.node.leaves).length := by
  rcases p with ⟨expressions⟩
  unfold width
  induction expressions with
  | nil => rfl
  | cons s others ih =>
      have here : s.width = s.node.leaves.length := by
        cases h s List.mem_cons_self with
        | tree hw _ => exact hw
      rw [List.flatMap_cons, List.length_append, List.foldr_cons, here,
        ih fun t member => h t (List.mem_cons_of_mem s member)]

namespace Machine

variable {σ : Type}

/-- The leaves of a parsed program are its tokens, and those of a match its first ones; each subtree's
width counts the leaves below it. -/
theorem leaves_of_parse_and_recognize (m : Machine σ) (tokens : List Token) (log : σ) :
    (∀ p, (m.parse tokens log).outcome = .ok p →
      (p.expressions.flatMap fun s => s.node.leaves) = tokens ∧ p.width = tokens.length ∧
        ∀ s ∈ p.expressions, 0 < s.width ∧ (∃ r ∈ m.grammar.rules, s.label = some r.name) ∧
          s.node.Counted) ∧
    (∀ space name matched, (m.recognize space name tokens log).outcome = .ok (some matched) →
      matched.width ≤ tokens.length ∧ leavesAll matched.nodes = tokens.take matched.width ∧
        ∀ n ∈ matched.nodes, n.Counted) := by
  constructor
  · intro p h
    obtain ⟨leaves, expressions⟩ :=
      Grammar.expressions_of_programScript (programScript_of_parse h).2
    refine ⟨leaves, ?_, ?_⟩
    · rw [p.width_eq_length fun s member => (expressions s member).counted, leaves]
    · intro s member
      have e := expressions s member
      exact ⟨e.width_pos, e.label, e.counted⟩
  · intro space name matched h
    obtain ⟨r, -, decides⟩ := decides_of_recognize h
    have covers := decides.chooses.covers matched rfl
    exact ⟨covers.width_le, covers.leaves, covers.counted⟩

end Machine

namespace Brackets

theorem leaves_of_pairs :
    ∃ p, ((machine .standard).parse tokens ()).outcome = .ok p ∧
      (p.expressions.flatMap fun s => s.node.leaves) = tokens ∧ p.width = 4 ∧
      leavesAll (pair 0).nodes = [opening 0, closing 1] := by
  have parsed : ((machine .standard).parse tokens ()).outcome =
      .ok ⟨[(pair 0).expression "nest", (pair 2).expression "nest"]⟩ := by with_unfolding_all rfl
  have recognized : ((machine .standard).recognize .rules "nest" tokens ()).outcome =
      .ok (some (pair 0)) := by with_unfolding_all rfl
  obtain ⟨program, recognition⟩ :=
    Machine.leaves_of_parse_and_recognize (machine .standard) tokens ()
  obtain ⟨leaves, width, -⟩ := program _ parsed
  exact ⟨_, parsed, leaves, width, (recognition _ _ _ recognized).2.1⟩

end Brackets

end TokenGrammar
