import TokenGrammar.Proofs.Match.Evaluation

/-!
# Evaluations that run alike

Two evaluations of one grammar on the same tokens differ only in their effects, in the offset where
they stand, and in the depth limit. A relation that the effects respect therefore holds between them.
-/
namespace TokenGrammar

/-- The same event as many tokens further on. -/
def Event.shift (k : Nat) : Event → Event
  | enter rule offset => enter rule (offset + k)
  | literalFailed rule text offset found => literalFailed rule text (offset + k) found
  | tokensFailed rule kind count least offset found =>
    tokensFailed rule kind count least (offset + k) found
  | expression rule offset width => expression rule (offset + k) width
  | e => e

@[simp] theorem Event.shift_zero (e : Event) : e.shift 0 = e := by
  cases e <;> rfl

/-- A relation between evaluations that their effects respect. The second one stands `shift` tokens
further on than the first. Only a depth limit that cuts the first one off may tell them apart. -/
structure Congruence (M N : Type → Type) [Effects M] [Effects N] where
  Holds {α : Type} : M α → N α → Prop
  shift : Nat
  limit : Nat
  limit' : Nat
  limit_le : limit ≤ limit'
  pure {α : Type} (v : α) : Holds (pure v) (pure v)
  bind {α β : Type} {a : M α} {b : N α} {f : α → M β} {f' : α → N β} :
    Holds a b → (∀ v, Holds (f v) (f' v)) → Holds (a >>= f) (b >>= f')
  spend : Holds Effects.spend Effects.spend
  note (e : Event) : Holds (Effects.note e) (Effects.note (e.shift shift))
  fail {α : Type} (e : RuntimeError) : Holds (Effects.fail e : M α) (Effects.fail e)
  cut {α : Type} (b : N α) : limit < limit' →
    Holds (Effects.fail (.recursionLimitExceeded limit)) b

namespace Congruence

variable {M N : Type → Type} [Effects M] [Effects N] (c : Congruence M N) (g : Grammar)
  {call : Recognizer → Nat → List Token → M (Option Matched)}
  {call' : Recognizer → Nat → List Token → N (Option Matched)}

section Call

variable (hc : ∀ r offset input, c.Holds (call r offset input) (call' r (offset + c.shift) input))

include hc

theorem evaluateReference (space : Namespace) (name : String) (cursor : Nat) (rest : List Token) :
    c.Holds (g.evaluateReference call space name cursor rest)
      (g.evaluateReference call' space name (cursor + c.shift) rest) := by
  unfold Grammar.evaluateReference
  cases g.lookup space name with
  | none => exact c.fail _
  | some r => exact c.bind (hc r cursor rest) fun result => c.pure _

theorem evaluateSymbol (rule : String) (cursor : Nat) (rest : List Token) (symbol : Symbol) :
    c.Holds (g.evaluateSymbol call rule cursor rest symbol)
      (g.evaluateSymbol call' rule (cursor + c.shift) rest symbol) := by
  cases symbol with
  | literal text =>
      cases rest with
      | nil => exact c.bind (c.note _) fun _ => c.pure _
      | cons token rest =>
          by_cases hl : token.lexeme = text
          · simp only [Grammar.evaluateSymbol, if_pos hl]
            exact c.bind (c.note _) fun _ => c.pure _
          · simp only [Grammar.evaluateSymbol, if_neg hl]
            exact c.bind (c.note _) fun _ => c.pure _
  | tokens kind quantifier explicit =>
      by_cases hl : (kindRun kind quantifier rest).length < quantifier.least
      · simp only [Grammar.evaluateSymbol, if_pos hl, Nat.add_right_comm cursor c.shift]
        exact c.bind (c.note _) fun _ => c.pure _
      · simp only [Grammar.evaluateSymbol, if_neg hl]
        exact c.bind (c.note _) fun _ => c.pure _
  | subrule name => exact c.evaluateReference g hc .rules name cursor rest
  | definition name => exact c.evaluateReference g hc .definitions name cursor rest
  | group alternatives => exact c.bind (hc _ cursor rest) fun _ => c.pure _
  | stray token => exact c.fail _

theorem evaluateSymbols (rule : String) (symbols : List Symbol) (cursor : Nat) (rest : List Token) :
    c.Holds (g.evaluateSymbols call rule symbols cursor rest)
      (g.evaluateSymbols call' rule symbols (cursor + c.shift) rest) := by
  induction symbols generalizing cursor rest with
  | nil => exact c.pure _
  | cons symbol symbols ih =>
      simp only [Grammar.evaluateSymbols]
      refine c.bind c.spend fun _ => c.bind (c.evaluateSymbol g hc rule cursor rest symbol) ?_
      intro part
      cases part with
      | none => exact c.pure _
      | some part =>
          have others := ih (cursor + part.width) (rest.drop part.width)
          rw [Nat.add_right_comm cursor part.width] at others
          exact c.bind others fun _ => c.pure _

theorem evaluateAlternatives (rule : String) (offset : Nat) (input : List Token) (index : Nat)
    (alternatives : List Alternative) :
    c.Holds (g.evaluateAlternatives call rule offset input index alternatives)
      (g.evaluateAlternatives call' rule (offset + c.shift) input index alternatives) := by
  induction alternatives generalizing index with
  | nil => exact c.pure _
  | cons symbols others ih =>
      simp only [Grammar.evaluateAlternatives]
      refine c.bind (c.note _) fun _ => c.bind (c.evaluateSymbols g hc rule symbols offset input) ?_
      intro result
      cases result with
      | none => exact c.bind (c.note _) fun _ => ih (index + 1)
      | some matched => exact c.pure _

end Call

theorem evaluate (depth : Nat) (r : Recognizer) (offset : Nat) (input : List Token) :
    c.Holds (g.evaluate c.limit depth r offset input)
      (g.evaluate c.limit' depth r (offset + c.shift) input) := by
  induction depth, r, offset, input using Grammar.evaluate.induct c.limit with
  | case1 depth r offset input hd =>
      rw [Grammar.evaluate, if_pos hd]
      rcases Nat.lt_or_eq_of_le c.limit_le with hlt | heq
      · exact c.cut _ hlt
      · rw [Grammar.evaluate, if_pos (heq ▸ hd), ← heq]
        exact c.fail _
  | case2 depth r offset input hd ih =>
      have hd' : ¬ c.limit' ≤ depth := fun h => hd (Nat.le_trans c.limit_le h)
      rw [Grammar.evaluate, Grammar.evaluate, if_neg hd, if_neg hd']
      refine c.bind c.spend fun _ => c.bind (c.note _) fun _ => c.bind ?_ fun result => ?_
      · exact c.evaluateAlternatives g ih r.name offset input 0 r.alternatives
      · exact c.bind (c.note _) fun _ => c.pure _

theorem evaluateRules (offset : Nat) (input : List Token) (rules : List Recognizer) :
    c.Holds (g.evaluateRules c.limit offset input rules)
      (g.evaluateRules c.limit' (offset + c.shift) input rules) := by
  induction rules with
  | nil => exact c.pure _
  | cons r others ih =>
      simp only [Grammar.evaluateRules]
      refine c.bind (c.evaluate g 0 r offset input) fun result => ?_
      cases result with
      | none => exact ih
      | some matched =>
          by_cases hw : matched.width = 0
          · simp only [if_pos hw]
            exact ih
          · simp only [if_neg hw]
            exact c.pure _

theorem evaluateProgram (offset : Nat) (tokens : List Token) :
    c.Holds (g.evaluateProgram c.limit offset tokens)
      (g.evaluateProgram c.limit' (offset + c.shift) tokens) := by
  induction offset, tokens using Grammar.evaluateProgram.induct with
  | case1 offset =>
      rw [Grammar.evaluateProgram, Grammar.evaluateProgram]
      exact c.pure _
  | case2 offset token rest ih =>
      rw [Grammar.evaluateProgram, Grammar.evaluateProgram]
      refine c.bind (c.evaluateRules g offset (token :: rest) g.rules.reverse) fun found => ?_
      cases found with
      | none => exact c.pure _
      | some found =>
          have others := ih found.2
          rw [Nat.add_right_comm offset found.2.width] at others
          exact c.bind (c.note _) fun _ => c.bind others fun _ => c.pure _

end Congruence

end TokenGrammar
