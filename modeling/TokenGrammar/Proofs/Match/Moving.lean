import TokenGrammar.Proofs.Match.Furthest

/-!
# Moving tokens

Kinds and lexemes are all that a run reads of its tokens. So a run on tokens that were moved, with other
positions and offsets, goes as the run on the tokens themselves: what it returns or reports is the same, but
for the tokens in it, which were moved, too. Tokens without offsets are parsed like any others.
-/
namespace TokenGrammar

/-- The function changes at most where a token stands. -/
structure Token.Moves (f : Token → Token) : Prop where
  kind (t : Token) : (f t).kind = t.kind
  lexeme (t : Token) : (f t).lexeme = t.lexeme

mutual

/-- The tree of the same shape, labels and widths with other tokens as its leaves. -/
def Node.map (f : Token → Token) : Node → Node
  | .token t => .token (f t)
  | .tree label width children => .tree label width (mapAll f children)

def mapAll (f : Token → Token) : List Node → List Node
  | [] => []
  | node :: rest => node.map f :: mapAll f rest

end

def Matched.map (f : Token → Token) (matched : Matched) : Matched :=
  ⟨matched.width, mapAll f matched.nodes⟩

def Subtree.map (f : Token → Token) (s : Subtree) : Subtree := ⟨s.label, s.width, mapAll f s.children⟩

def Program.map (f : Token → Token) (p : Program) : Program := ⟨p.expressions.map (.map f)⟩

def Failure.map (f : Token → Token) (failure : Failure) : Failure :=
  { failure with found := failure.found.map f }

def RuntimeError.map (f : Token → Token) : RuntimeError → RuntimeError
  | unexpectedToken token furthest => unexpectedToken (f token) (furthest.map (.map f))
  | e => e

def Event.map (f : Token → Token) : Event → Event
  | literalMatched token => literalMatched (f token)
  | literalFailed rule text offset found => literalFailed rule text offset (found.map f)
  | tokensFailed rule kind count least offset found =>
    tokensFailed rule kind count least offset (found.map f)
  | e => e

theorem mapAll_append (f : Token → Token) (xs ys : List Node) :
    mapAll f (xs ++ ys) = mapAll f xs ++ mapAll f ys := by
  induction xs with
  | nil => rfl
  | cons x xs ih => rw [List.cons_append, mapAll, mapAll, ih, List.cons_append]

theorem mapAll_map_token (f : Token → Token) (ts : List Token) :
    mapAll f (ts.map .token) = (ts.map f).map .token := by
  induction ts with
  | nil => rfl
  | cons t ts ih => rw [List.map_cons, mapAll, Node.map, ih, List.map_cons, List.map_cons]

namespace Matched

theorem map_append (f : Token → Token) (a b : Matched) : (a ++ b).map f = a.map f ++ b.map f :=
  congrArg (Matched.mk _) (mapAll_append f a.nodes b.nodes)

theorem map_run (f : Token → Token) (width : Nat) (run : List Token) :
    (⟨width, run.map .token⟩ : Matched).map f = ⟨width, (run.map f).map .token⟩ :=
  congrArg (Matched.mk width) (mapAll_map_token f run)

end Matched

theorem kindRun_map {f : Token → Token} (hf : Token.Moves f) (kind : String) (quantifier : Quantifier)
    (input : List Token) :
    kindRun kind quantifier (input.map f) = (kindRun kind quantifier input).map f := by
  have same : (fun t : Token => decide (t.kind = kind)) ∘ f = fun t => decide (t.kind = kind) := by
    funext t
    rw [Function.comp_apply, hf.kind]
  unfold kindRun
  cases quantifier.most with
  | none => simp only [List.takeWhile_map, same]
  | some most => simp only [← List.map_take, List.takeWhile_map, same]

namespace Script

variable {α β γ δ : Type}

/-- The script of the same run on other tokens, where `value` does to a result what that does. -/
def map (f : Token → Token) (value : α → β) : Script α → Script β
  | .pure v => .pure (value v)
  | .fail e => .fail (e.map f)
  | .spend rest => .spend (rest.map f value)
  | .note e rest => .note (e.map f) (rest.map f value)

theorem outcome_map (f : Token → Token) (value : α → β) (s : Script α) :
    (s.map f value).outcome = (s.outcome.map value).mapError (.map f) := by
  induction s with
  | pure v => rfl
  | fail e => rfl
  | spend rest ih => exact ih
  | note e rest ih => exact ih

theorem cost_map (f : Token → Token) (value : α → β) (s : Script α) :
    (s.map f value).cost = s.cost := by
  induction s with
  | pure v => rfl
  | fail e => rfl
  | spend rest ih => exact congrArg (· + 1) ih
  | note e rest ih => exact ih

theorem events_map (f : Token → Token) (value : α → β) (s : Script α) :
    (s.map f value).events = s.events.map (.map f) := by
  induction s with
  | pure v => rfl
  | fail e => rfl
  | spend rest ih => exact ih
  | note e rest ih => exact congrArg (e.map f :: ·) ih

theorem outcome_play_map {σ : Type} (m : Machine σ) (f : Token → Token) (value : α → β) (s : Script α)
    (fuel : Nat) (log log' : σ) :
    ((s.map f value).play m fuel log').outcome =
      ((s.play m fuel log).outcome.map value).mapError (.map f) := by
  rw [outcome_play, outcome_play, cost_map, outcome_map]
  by_cases hc : s.cost ≤ fuel
  · rw [if_pos hc, if_pos hc]
  · rw [if_neg hc, if_neg hc]
    rfl

/-- On other tokens the first script is the second. -/
def MapsTo (f : Token → Token) (value : α → β) (s : Script α) (t : Script β) : Prop :=
  s.map f value = t

namespace MapsTo

variable {f : Token → Token}

theorem pure {value : α → β} (v : α) : (Pure.pure v : Script α).MapsTo f value (Pure.pure (value v)) :=
  rfl

theorem bind {value : α → γ} {value' : β → δ} {s : Script α} {t : Script γ} {k : α → Script β}
    {k' : γ → Script δ} (h : s.MapsTo f value t) (hk : ∀ v, (k v).MapsTo f value' (k' (value v))) :
    (s >>= k).MapsTo f value' (t >>= k') := by
  cases h
  induction s with
  | pure v => exact hk v
  | fail e => rfl
  | spend rest ih => exact congrArg Script.spend ih
  | note e rest ih => exact congrArg (Script.note _) ih

theorem spend : (Effects.spend : Script Unit).MapsTo f id Effects.spend := rfl

theorem note (e : Event) : (Effects.note e : Script Unit).MapsTo f id (Effects.note (e.map f)) := rfl

theorem fail {value : α → β} (e : RuntimeError) :
    (Effects.fail e : Script α).MapsTo f value (Effects.fail (e.map f)) := rfl

end MapsTo

end Script

namespace Grammar

open Script

variable {f : Token → Token} (hf : Token.Moves f) (g : Grammar)

section Call

variable {call : Recognizer → Nat → List Token → Script (Option Matched)}
  (hc : ∀ r offset input,
    (call r offset input).MapsTo f (Option.map (.map f)) (call r offset (input.map f)))

include hc

theorem evaluateReference_map (space : Namespace) (name : String) (cursor : Nat) (rest : List Token) :
    (g.evaluateReference call space name cursor rest).MapsTo f (Option.map (.map f))
      (g.evaluateReference call space name cursor (rest.map f)) := by
  unfold evaluateReference
  cases g.lookup space name with
  | none => exact .fail _
  | some r =>
      refine .bind (hc r cursor rest) fun result => ?_
      cases result with
      | none => exact .pure _
      | some matched => exact .pure _

include hf

theorem evaluateSymbol_map (rule : String) (cursor : Nat) (rest : List Token) (symbol : Symbol) :
    (g.evaluateSymbol call rule cursor rest symbol).MapsTo f (Option.map (.map f))
      (g.evaluateSymbol call rule cursor (rest.map f) symbol) := by
  cases symbol with
  | literal text =>
      cases rest with
      | nil => exact .bind (.note _) fun _ => .pure _
      | cons token rest =>
          have same : (f token).lexeme = token.lexeme := hf.lexeme token
          by_cases hl : token.lexeme = text
          · simp only [evaluateSymbol, List.map_cons, same, if_pos hl]
            exact .bind (.note _) fun _ => .pure _
          · simp only [evaluateSymbol, List.map_cons, same, if_neg hl]
            exact .bind (.note _) fun _ => .pure _
  | tokens kind quantifier explicit =>
      have run := kindRun_map hf kind quantifier rest
      have length : (kindRun kind quantifier (rest.map f)).length =
          (kindRun kind quantifier rest).length := by rw [run, List.length_map]
      by_cases hl : (kindRun kind quantifier rest).length < quantifier.least
      · simp only [evaluateSymbol, length, if_pos hl, ← List.map_drop, List.head?_map]
        exact .bind (.note _) fun _ => .pure _
      · simp only [evaluateSymbol, length, if_neg hl]
        refine .bind (.note _) fun _ => ?_
        rw [run, ← Matched.map_run]
        exact .pure _
  | subrule name => exact g.evaluateReference_map hc .rules name cursor rest
  | definition name => exact g.evaluateReference_map hc .definitions name cursor rest
  | group alternatives =>
      refine .bind (hc _ cursor rest) fun result => ?_
      cases result with
      | none => exact .pure _
      | some matched => exact .pure _
  | stray token => exact .fail _

theorem evaluateSymbols_map (rule : String) (symbols : List Symbol) (cursor : Nat) (rest : List Token) :
    (g.evaluateSymbols call rule symbols cursor rest).MapsTo f (Option.map (.map f))
      (g.evaluateSymbols call rule symbols cursor (rest.map f)) := by
  induction symbols generalizing cursor rest with
  | nil => exact .pure _
  | cons symbol symbols ih =>
      simp only [evaluateSymbols]
      refine .bind .spend fun _ => .bind (g.evaluateSymbol_map hf hc rule cursor rest symbol) ?_
      intro part
      cases part with
      | none => exact .pure _
      | some part =>
          have others := ih (cursor + part.width) (rest.drop part.width)
          rw [List.map_drop] at others
          refine .bind others fun result => ?_
          cases result with
          | none => exact .pure _
          | some others =>
              change MapsTo f _ _ (Pure.pure (some (part.map f ++ others.map f)))
              rw [← Matched.map_append]
              exact .pure _

theorem evaluateAlternatives_map (rule : String) (offset : Nat) (input : List Token) (index : Nat)
    (alternatives : List Alternative) :
    (g.evaluateAlternatives call rule offset input index alternatives).MapsTo f (Option.map (.map f))
      (g.evaluateAlternatives call rule offset (input.map f) index alternatives) := by
  induction alternatives generalizing index with
  | nil => exact .pure _
  | cons symbols others ih =>
      simp only [evaluateAlternatives]
      refine .bind (.note _) fun _ =>
        .bind (g.evaluateSymbols_map hf hc rule symbols offset input) fun result => ?_
      cases result with
      | none => exact .bind (.note _) fun _ => ih (index + 1)
      | some matched => exact .pure _

end Call

include hf

theorem script_map (limit depth : Nat) (r : Recognizer) (offset : Nat) (input : List Token) :
    (g.script limit depth r offset input).MapsTo f (Option.map (.map f))
      (g.script limit depth r offset (input.map f)) := by
  induction depth, r, offset, input using evaluate.induct limit with
  | case1 depth r offset input hd =>
      rw [script_eq, script_eq, if_pos hd, if_pos hd]
      exact .fail _
  | case2 depth r offset input hd ih =>
      rw [script_eq, script_eq, if_neg hd, if_neg hd]
      refine .bind .spend fun _ => .bind (.note _) fun _ => .bind
        (g.evaluateAlternatives_map hf ih r.name offset input 0 r.alternatives) fun result => ?_
      cases result with
      | none => exact .bind (.note _) fun _ => .pure _
      | some matched => exact .bind (.note _) fun _ => .pure _

theorem evaluateRules_map (limit offset : Nat) (input : List Token) (rules : List Recognizer) :
    MapsTo f (Option.map (Prod.map id (.map f))) (g.evaluateRules limit offset input rules)
      (g.evaluateRules limit offset (input.map f) rules) := by
  induction rules with
  | nil => exact .pure _
  | cons r others ih =>
      rw [evaluateRules_cons, evaluateRules_cons]
      refine .bind (g.script_map hf limit 0 r offset input) fun result => ?_
      cases result with
      | none => exact ih
      | some matched =>
          have same : (matched.map f).width = matched.width := rfl
          by_cases hw : matched.width = 0
          · simp only [Option.map_some, same, if_pos hw]
            exact ih
          · simp only [Option.map_some, same, if_neg hw]
            exact .pure _

theorem programScript_map (limit offset : Nat) (tokens : List Token) :
    (g.programScript limit offset tokens).MapsTo f (Prod.map (List.map (.map f)) (Option.map f))
      (g.programScript limit offset (tokens.map f)) := by
  unfold programScript
  induction offset, tokens using evaluateProgram.induct with
  | case1 offset =>
      rw [List.map_nil, evaluateProgram]
      exact .pure _
  | case2 offset token rest ih =>
      rw [List.map_cons, evaluateProgram, evaluateProgram]
      refine .bind (g.evaluateRules_map hf limit offset (token :: rest) g.rules.reverse) fun found => ?_
      cases found with
      | none => exact .pure _
      | some found =>
          have others := ih found.2
          rw [List.map_drop] at others
          exact .bind (.note _) fun _ => .bind others fun _ => .pure _

end Grammar

namespace Failure

theorem furthest_map (f : Token → Token) (known : Option Failure) (rule : String)
    (expected : Expectation) (offset : Nat) (found : Option Token) :
    furthest (known.map (.map f)) rule expected offset (found.map f) =
      (furthest known rule expected offset found).map f := by
  cases known with
  | none => rfl
  | some failure =>
      simp only [furthest, Option.map_some, apply_ite (Failure.map f)]
      rfl

theorem note_map (f : Token → Token) (known : Option Failure) (e : Event) :
    note (known.map (.map f)) (e.map f) = (note known e).map (.map f) := by
  cases e with
  | literalFailed rule text offset found =>
      exact congrArg some (furthest_map f known rule (.literal text) offset found)
  | tokensFailed rule kind count least offset found =>
      exact congrArg some (furthest_map f known rule (.kind kind) offset found)
  | enter | leave | alternative | backtrack | literalMatched | tokensMatched | expression => rfl

end Failure

namespace Observer

variable (f : Token → Token) (watched : Bool)

theorem note_onlyIf_map (log : Option Failure) (e : Event) :
    (ofFailures.onlyIf watched).note (log.map (.map f)) (e.map f) =
      ((ofFailures.onlyIf watched).note log e).map (.map f) := by
  cases watched with
  | false => rfl
  | true => exact Failure.note_map f log e

theorem furthest?_onlyIf_map (log : Option Failure) :
    (ofFailures.onlyIf watched).furthest? (log.map (.map f)) =
      ((ofFailures.onlyIf watched).furthest? log).map (.map f) := by
  cases watched with
  | false => rfl
  | true => rfl

theorem foldl_onlyIf_map (events : List Event) (log : Option Failure) :
    (events.map (.map f)).foldl (ofFailures.onlyIf watched).note (log.map (.map f)) =
      (events.foldl (ofFailures.onlyIf watched).note log).map (.map f) := by
  rw [List.foldl_map]
  exact List.foldl_hom (Option.map (Failure.map f)) (note_onlyIf_map f watched)

end Observer

namespace Machine

/-- A machine that knows the furthest failure if it watches. -/
def reporting (g : Grammar) (limits : Limits) (watched : Bool) : Machine (Option Failure) :=
  ⟨g, limits, Observer.ofFailures.onlyIf watched⟩

theorem conclude_map (f : Token → Token) (furthest : Option Failure)
    (result : Except RuntimeError (List Subtree × Option Token)) :
    conclude [] (furthest.map (.map f))
        ((result.map (Prod.map (List.map (.map f)) (Option.map f))).mapError (.map f)) =
      ((conclude [] furthest result).map (.map f)).mapError (.map f) := by
  rcases result with e | ⟨expressions, _ | token⟩
  · rfl
  · rfl
  · rfl

variable {f : Token → Token} (hf : Token.Moves f) (g : Grammar) (limits : Limits) (watched : Bool)
  (tokens : List Token)

include hf

theorem outcome_recognize_map (space : Namespace) (name : String) :
    ((reporting g limits watched).recognize space name (tokens.map f) none).outcome =
      (((reporting g limits watched).recognize space name tokens none).outcome.map
        (Option.map (.map f))).mapError (.map f) := by
  cases hr : g.lookup space name with
  | none =>
      rw [recognize, recognize]
      simp only [reporting, hr]
      rfl
  | some r =>
      have script : (g.script limits.depth 0 r 0 tokens).map f (Option.map (.map f)) =
          g.script limits.depth 0 r 0 (tokens.map f) := g.script_map hf limits.depth 0 r 0 tokens
      rw [recognize_of_lookup (reporting g limits watched) hr,
        recognize_of_lookup (reporting g limits watched) hr, ← Script.outcome_play_map _ _ _ _ _ none none]
      exact congrArg (fun s => (Script.play _ s limits.fuel none).outcome) script.symm

theorem outcome_parse_map :
    ((reporting g limits watched).parse (tokens.map f) none).outcome =
      (((reporting g limits watched).parse tokens none).outcome.map (.map f)).mapError (.map f) := by
  have script : (g.programScript limits.depth 0 tokens).map f (Prod.map (List.map (.map f)) (Option.map f)) =
      g.programScript limits.depth 0 (tokens.map f) := g.programScript_map hf limits.depth 0 tokens
  have cost : (g.programScript limits.depth 0 (tokens.map f)).cost =
      (g.programScript limits.depth 0 tokens).cost := by rw [← script, Script.cost_map]
  by_cases hc : (g.programScript limits.depth 0 tokens).cost ≤ limits.fuel
  · have hc' : (g.programScript limits.depth 0 (tokens.map f)).cost ≤ limits.fuel := cost ▸ hc
    have log : ((reporting g limits watched).parse (tokens.map f) none).log =
        ((reporting g limits watched).parse tokens none).log.map (.map f) := by
      rw [log_parse_of_cost_le (reporting g limits watched) none hc,
        log_parse_of_cost_le (reporting g limits watched) none hc']
      simp only [reporting, ← script, Script.events_map]
      exact Observer.foldl_onlyIf_map f watched _ none
    rw [outcome_parse_of_cost_le (reporting g limits watched) none hc,
      outcome_parse_of_cost_le (reporting g limits watched) none hc', log, ← conclude_map]
    simp only [reporting, Observer.furthest?_onlyIf_map, ← script, Script.outcome_map]
  · have short := Nat.lt_of_not_le hc
    have short' : limits.fuel < (g.programScript limits.depth 0 (tokens.map f)).cost := cost ▸ short
    rw [outcome_parse_of_lt_cost (reporting g limits watched) none short,
      outcome_parse_of_lt_cost (reporting g limits watched) none short']
    rfl

/-- What a run on moved tokens ends in is what the run on the tokens ends in, with each of its tokens moved:
the leaves of what was matched, the token of an error, and the one that the furthest failure found. -/
theorem outcomes_of_moved :
    (∀ space name,
      ((reporting g limits watched).recognize space name (tokens.map f) none).outcome =
        (((reporting g limits watched).recognize space name tokens none).outcome.map
          (Option.map (.map f))).mapError (.map f)) ∧
    ((reporting g limits watched).parse (tokens.map f) none).outcome =
      (((reporting g limits watched).parse tokens none).outcome.map (.map f)).mapError (.map f) :=
  ⟨outcome_recognize_map hf g limits watched tokens, outcome_parse_map hf g limits watched tokens⟩

end Machine

namespace Brackets

/-- A token whose offset was left out. -/
def unplaced (t : Token) : Token := { t with offset := 0 }

theorem moves_unplaced : Token.Moves unplaced := ⟨fun _ => rfl, fun _ => rfl⟩

/-- Pairs without offsets are the same pairs, and an opening bracket in front of another sort of token is
refused with the same report. -/
theorem outcomes_of_unplaced :
    ((Machine.reporting grammar .standard false).recognize .rules "nest" (tokens.map unplaced)
      none).outcome = .ok (some ((pair 0).map unplaced)) ∧
    ((Machine.reporting grammar .standard true).parse
      ([opening 0, ⟨"word", "x", ⟨1, 2⟩, 1⟩].map unplaced) none).outcome =
      .error (.unexpectedToken (opening 0) (some
        ⟨1, "nest", [.literal "(", .literal ")"], some ⟨"word", "x", ⟨1, 2⟩, 0⟩⟩)) := by
  have recognized : ((Machine.reporting grammar .standard false).recognize .rules "nest" tokens
      none).outcome = .ok (some (pair 0)) := by with_unfolding_all rfl
  have refused : ((Machine.reporting grammar .standard true).parse
      [opening 0, ⟨"word", "x", ⟨1, 2⟩, 1⟩] none).outcome =
      .error (.unexpectedToken (opening 0) (some
        ⟨1, "nest", [.literal "(", .literal ")"], some ⟨"word", "x", ⟨1, 2⟩, 1⟩⟩)) := by
    with_unfolding_all rfl
  obtain ⟨recognition, -⟩ :=
    Machine.outcomes_of_moved moves_unplaced grammar .standard false tokens
  obtain ⟨-, parsing⟩ := Machine.outcomes_of_moved moves_unplaced grammar .standard true
    [opening 0, ⟨"word", "x", ⟨1, 2⟩, 1⟩]
  constructor
  · rw [recognition, recognized]
    rfl
  · rw [parsing, refused]
    rfl

end Brackets

end TokenGrammar
