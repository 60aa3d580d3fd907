import TokenGrammar.Proofs.Match.Script

/-!
# Ordered choice, declaratively

What the alternatives of a recognizer match, said without a machine, a limit or an order of steps. A
machine answers only what these rules derive, and with limits large enough it answers all of it.
-/
namespace TokenGrammar

/-- The run that a class reference takes: the tokens of the kind at the front, as many as the
quantifier allows. -/
structure IsKindRun (kind : String) (quantifier : Quantifier) (input run : List Token) : Prop where
  front : run <+: input
  kind_eq : ∀ token ∈ run, token.kind = kind
  allowed : ∀ most, quantifier.most = some most → run.length ≤ most
  /-- Either no more are allowed, or the next token is of another kind, or there is none. -/
  maximal : quantifier.most = some run.length ∨
    ∀ token, input[run.length]? = some token → token.kind ≠ kind

namespace Grammar

mutual

/-- The first alternative that matches at the front of the tokens, or none. -/
inductive Chooses (g : Grammar) : List Alternative → List Token → Option Matched → Prop
  | exhausted (input : List Token) : Chooses g [] input none
  | first {symbols others input matched} :
      Follows g symbols input (some matched) → Chooses g (symbols :: others) input (some matched)
  | next {symbols others input result} :
      Follows g symbols input none → Chooses g others input result →
      Chooses g (symbols :: others) input result

/-- Symbols one after the other, each at the cursor where the one before stopped. -/
inductive Follows (g : Grammar) : List Symbol → List Token → Option Matched → Prop
  | nil (input : List Token) : Follows g [] input (some .empty)
  | fails {symbol symbols input} :
      Contributes g symbol input none → Follows g (symbol :: symbols) input none
  | cons {symbol symbols input part result} :
      Contributes g symbol input (some part) → Follows g symbols (input.drop part.width) result →
      Follows g (symbol :: symbols) input (result.map (part ++ ·))

/-- What a symbol contributes at the cursor, or none when it fails there. -/
inductive Contributes (g : Grammar) : Symbol → List Token → Option Matched → Prop
  | literal {text token rest} : token.lexeme = text →
      Contributes g (.literal text) (token :: rest) (some ⟨1, [.token token]⟩)
  | noLiteral {text input} : (∀ token, input.head? = some token → token.lexeme ≠ text) →
      Contributes g (.literal text) input none
  | tokens {kind quantifier explicit input run} :
      IsKindRun kind quantifier input run → quantifier.least ≤ run.length →
      Contributes g (.tokens kind quantifier explicit) input
        (some ⟨run.length, run.map .token⟩)
  | noTokens {kind quantifier explicit input run} :
      IsKindRun kind quantifier input run → run.length < quantifier.least →
      Contributes g (.tokens kind quantifier explicit) input none
  | subrule {name r input result} :
      g.lookup .rules name = some r → Chooses g r.alternatives input result →
      Contributes g (.subrule name) input (result.map (.below (some name)))
  | definition {name r input result} :
      g.lookup .definitions name = some r → Chooses g r.alternatives input result →
      Contributes g (.definition name) input (result.map (.below (some name)))
  | group {alternatives input result} :
      Chooses g alternatives input result →
      Contributes g (.group alternatives) input (result.map (.below none))

end

/-- Ordered choice by position: an alternative matches and every one before it fails, or all fail. -/
def Decides (g : Grammar) (alternatives : List Alternative) (input : List Token) :
    Option Matched → Prop
  | some matched => ∃ (i : Nat) (symbols : Alternative), alternatives[i]? = some symbols ∧
      g.Follows symbols input (some matched) ∧
        ∀ j < i, ∀ earlier, alternatives[j]? = some earlier → g.Follows earlier input none
  | none => ∀ symbols ∈ alternatives, g.Follows symbols input none

theorem Chooses.decides {g : Grammar} {alternatives : List Alternative} {input : List Token}
    {result : Option Matched} (h : g.Chooses alternatives input result) :
    g.Decides alternatives input result := by
  induction alternatives with
  | nil =>
      cases h with
      | exhausted => exact fun _ member => absurd member List.not_mem_nil
  | cons symbols others ih =>
      cases h with
      | first hs => exact ⟨0, symbols, rfl, hs, fun j hj => absurd hj (Nat.not_lt_zero j)⟩
      | next hs ho =>
          cases result with
          | none =>
              intro earlier member
              rcases List.mem_cons.mp member with rfl | later
              · exact hs
              · exact ih ho earlier later
          | some matched =>
              obtain ⟨i, chosen, hi, hm, hb⟩ := ih ho
              refine ⟨i + 1, chosen, hi, hm, ?_⟩
              intro j hj earlier he
              cases j with
              | zero =>
                  cases he
                  exact hs
              | succ j => exact hb j (Nat.lt_of_succ_lt_succ hj) earlier he

theorem Decides.chooses {g : Grammar} {alternatives : List Alternative} {input : List Token}
    {result : Option Matched} (h : g.Decides alternatives input result) :
    g.Chooses alternatives input result := by
  induction alternatives with
  | nil =>
      cases result with
      | none => exact .exhausted input
      | some matched =>
          obtain ⟨i, symbols, hi, -⟩ := h
          cases hi
  | cons symbols others ih =>
      cases result with
      | none =>
          have later : g.Decides others input none := fun earlier member =>
            h earlier (List.mem_cons_of_mem symbols member)
          exact .next (h symbols List.mem_cons_self) (ih later)
      | some matched =>
          obtain ⟨i, chosen, hi, hm, hb⟩ := h
          cases i with
          | zero =>
              cases hi
              exact .first hm
          | succ i =>
              have later : g.Decides others input (some matched) :=
                ⟨i, chosen, hi, hm, fun j hj => hb (j + 1) (Nat.succ_lt_succ hj)⟩
              exact .next (hb 0 (Nat.zero_lt_succ i) symbols rfl) (ih later)

end Grammar

theorem kind_ne_of_takeWhile {kind : String} {input : List Token} {token : Token}
    (h : input[(input.takeWhile (·.kind = kind)).length]? = some token) : token.kind ≠ kind := by
  induction input with
  | nil => cases h
  | cons t input ih =>
      by_cases ht : t.kind = kind
      · rw [List.takeWhile_cons_of_pos (by simpa using ht)] at h
        exact ih h
      · rw [List.takeWhile_cons_of_neg (by simpa using ht)] at h
        cases h
        exact ht

theorem isKindRun_kindRun (kind : String) (quantifier : Quantifier) (input : List Token) :
    IsKindRun kind quantifier input (kindRun kind quantifier input) := by
  unfold kindRun
  cases hm : quantifier.most with
  | none =>
      refine ⟨List.takeWhile_prefix _, ?_, ?_, ?_⟩
      · intro token member
        simpa using List.all_eq_true.mp List.all_takeWhile token member
      · intro most h
        cases hm.symm.trans h
      · exact .inr fun token h => kind_ne_of_takeWhile h
  | some most =>
      have inTake := List.takeWhile_prefix (l := input.take most) (fun t => decide (t.kind = kind))
      have short := Nat.le_trans inTake.length_le (List.length_take_le most input)
      refine ⟨inTake.trans (List.take_prefix most input), ?_, ?_, ?_⟩
      · intro token member
        simpa using List.all_eq_true.mp List.all_takeWhile token member
      · intro most' h
        cases hm.symm.trans h
        exact short
      · rcases Nat.lt_or_eq_of_le short with hlt | heq
        · right
          intro token h
          rw [← List.getElem?_take_of_lt hlt] at h
          exact kind_ne_of_takeWhile h
        · exact .inl (by rw [hm, heq])

theorem IsKindRun.length_le {kind : String} {quantifier : Quantifier} {input run run' : List Token}
    (h : IsKindRun kind quantifier input run) (h' : IsKindRun kind quantifier input run') :
    run'.length ≤ run.length := by
  refine Nat.le_of_not_lt fun hlt => ?_
  rcases h.maximal with full | stops
  · exact Nat.lt_irrefl _ (Nat.lt_of_lt_of_le hlt (h'.allowed _ full))
  · have next : input[run.length]? = some run'[run.length] := by
      rw [List.IsPrefix.getElem h'.front hlt]
      exact List.getElem?_eq_getElem _
    exact stops _ next (h'.kind_eq _ (List.getElem_mem hlt))

theorem IsKindRun.unique {kind : String} {quantifier : Quantifier} {input run run' : List Token}
    (h : IsKindRun kind quantifier input run) (h' : IsKindRun kind quantifier input run') :
    run = run' := by
  have front := List.prefix_of_prefix_length_le h.front h'.front (h'.length_le h)
  exact front.eq_of_length (Nat.le_antisymm (h'.length_le h) (h.length_le h'))

namespace Grammar

variable {g : Grammar}

section Call

variable {call : Recognizer → Nat → List Token → Script (Option Matched)}
  (hc : ∀ r offset input result, (call r offset input).outcome = .ok result →
    g.Chooses r.alternatives input result)

include hc

theorem chooses_of_reference {space : Namespace} {name : String} {cursor : Nat} {rest : List Token}
    {result : Option Matched}
    (h : (g.evaluateReference call space name cursor rest).outcome = .ok result) :
    ∃ r inner, g.lookup space name = some r ∧ g.Chooses r.alternatives rest inner ∧
      result = inner.map (.below (some name)) := by
  unfold evaluateReference at h
  cases hl : g.lookup space name with
  | none =>
      rw [hl] at h
      cases h
  | some r =>
      rw [hl] at h
      obtain ⟨inner, hi, he⟩ := Script.outcome_bind_eq_ok.mp h
      exact ⟨r, inner, rfl, hc r cursor rest inner hi, (Except.ok.inj he).symm⟩

theorem contributes_of_evaluateSymbol {rule : String} {cursor : Nat} {rest : List Token}
    {symbol : Symbol} {result : Option Matched}
    (h : (g.evaluateSymbol call rule cursor rest symbol).outcome = .ok result) :
    g.Contributes symbol rest result := by
  cases symbol with
  | literal text =>
      cases rest with
      | nil =>
          cases h
          exact .noLiteral fun token h => by cases h
      | cons token rest =>
          by_cases hl : token.lexeme = text
          · simp only [evaluateSymbol, if_pos hl] at h
            cases h
            exact .literal hl
          · simp only [evaluateSymbol, if_neg hl] at h
            cases h
            refine .noLiteral ?_
            intro other ho
            cases ho
            exact hl
  | tokens kind quantifier explicit =>
      have run := isKindRun_kindRun kind quantifier rest
      by_cases hl : (kindRun kind quantifier rest).length < quantifier.least
      · simp only [evaluateSymbol, if_pos hl] at h
        cases h
        exact .noTokens run hl
      · simp only [evaluateSymbol, if_neg hl] at h
        cases h
        exact .tokens run (Nat.le_of_not_lt hl)
  | subrule name =>
      obtain ⟨r, inner, hr, hi, rfl⟩ := chooses_of_reference hc h
      exact .subrule hr hi
  | definition name =>
      obtain ⟨r, inner, hr, hi, rfl⟩ := chooses_of_reference hc h
      exact .definition hr hi
  | group alternatives =>
      obtain ⟨inner, hi, he⟩ := Script.outcome_bind_eq_ok.mp h
      cases he
      exact .group (hc ⟨rule, alternatives⟩ cursor rest inner hi)
  | stray token => cases h

theorem follows_of_evaluateSymbols {rule : String} {symbols : List Symbol} {cursor : Nat}
    {rest : List Token} {result : Option Matched}
    (h : (g.evaluateSymbols call rule symbols cursor rest).outcome = .ok result) :
    g.Follows symbols rest result := by
  induction symbols generalizing cursor rest result with
  | nil =>
      cases h
      exact .nil rest
  | cons symbol symbols ih =>
      simp only [evaluateSymbols, Script.outcome_spend_bind] at h
      obtain ⟨part, hp, ho⟩ := Script.outcome_bind_eq_ok.mp h
      have contributes := contributes_of_evaluateSymbol hc hp
      cases part with
      | none =>
          cases ho
          exact .fails contributes
      | some part =>
          obtain ⟨others, hs, he⟩ := Script.outcome_bind_eq_ok.mp ho
          cases he
          exact .cons contributes (ih hs)

theorem chooses_of_evaluateAlternatives {rule : String} {offset index : Nat} {input : List Token}
    {alternatives : List Alternative} {result : Option Matched}
    (h : (g.evaluateAlternatives call rule offset input index alternatives).outcome = .ok result) :
    g.Chooses alternatives input result := by
  induction alternatives generalizing index with
  | nil =>
      cases h
      exact .exhausted input
  | cons symbols others ih =>
      simp only [evaluateAlternatives, Script.outcome_note_bind] at h
      obtain ⟨inner, hi, ho⟩ := Script.outcome_bind_eq_ok.mp h
      have follows := follows_of_evaluateSymbols hc hi
      cases inner with
      | none =>
          simp only [Script.outcome_note_bind] at ho
          exact .next follows (ih ho)
      | some matched =>
          cases ho
          exact .first follows

end Call

/-- A script that returns a result returns what ordered choice derives. -/
theorem chooses_of_script {limit depth : Nat} {r : Recognizer} {offset : Nat} {input : List Token}
    {result : Option Matched} (h : (g.script limit depth r offset input).outcome = .ok result) :
    g.Chooses r.alternatives input result := by
  induction depth, r, offset, input using evaluate.induct limit generalizing result with
  | case1 depth r offset input hd =>
      rw [script_eq, if_pos hd] at h
      cases h
  | case2 depth r offset input hd ih =>
      rw [script_eq, if_neg hd] at h
      simp only [Script.outcome_spend_bind, Script.outcome_note_bind] at h
      obtain ⟨inner, hi, he⟩ := Script.outcome_bind_eq_ok.mp h
      cases he
      exact chooses_of_evaluateAlternatives (fun r offset input _ h => ih r offset input h) hi

end Grammar

/-- Scripts of one evaluation at every depth limit and depth: with `levels` left all come to the same
value at the same cost, with fewer some may break off at the limit. -/
structure SettlesWithin {α : Type} (s : Nat → Nat → Script α) (v : α) (levels cost : Nat) : Prop where
  outcome {limit depth : Nat} : levels + depth ≤ limit → (s limit depth).outcome = .ok v
  cost {limit depth : Nat} : levels + depth ≤ limit → (s limit depth).cost = cost
  otherwise (limit depth : Nat) : (s limit depth).outcome = .ok v ∨
    (s limit depth).outcome = .error (.recursionLimitExceeded limit)

def Settles {α : Type} (s : Nat → Nat → Script α) (v : α) : Prop :=
  ∃ levels cost, SettlesWithin s v levels cost

namespace Settles

variable {α β : Type}

theorem const {s : Script α} {v : α} (h : s.outcome = .ok v) : Settles (fun _ _ => s) v :=
  ⟨0, s.cost, fun _ => h, fun _ => rfl, fun _ _ => .inl h⟩

theorem bind {s : Nat → Nat → Script α} {v : α} {f : α → Nat → Nat → Script β} {w : β}
    (hs : Settles s v) (hf : Settles (f v) w) :
    Settles (fun limit depth => s limit depth >>= fun u => f u limit depth) w := by
  obtain ⟨levels, cost, hs⟩ := hs
  obtain ⟨levels', cost', hf⟩ := hf
  refine ⟨max levels levels', cost + cost', ?_, ?_, ?_⟩
  · intro limit depth h
    rw [Script.outcome_bind_of_ok (hs.outcome (by omega))]
    exact hf.outcome (by omega)
  · intro limit depth h
    rw [Script.cost_bind_of_ok (hs.outcome (by omega)), hs.cost (by omega), hf.cost (by omega)]
  · intro limit depth
    rcases hs.otherwise limit depth with h | h
    · rw [Script.outcome_bind_of_ok h]
      exact hf.otherwise limit depth
    · exact .inr (Script.outcome_bind_of_error h _)

theorem spend_bind {s : Nat → Nat → Script α} {v : α} (hs : Settles s v) :
    Settles (fun limit depth => Effects.spend >>= fun _ => s limit depth) v :=
  bind (f := fun _ => s) (const (v := ()) rfl) hs

theorem note_bind (e : Event) {s : Nat → Nat → Script α} {v : α} (hs : Settles s v) :
    Settles (fun limit depth => Effects.note e >>= fun _ => s limit depth) v :=
  bind (f := fun _ => s) (const (v := ()) rfl) hs

/-- One invocation deeper, a level more is needed. -/
theorem guarded {s : Nat → Nat → Script α} {v : α} (hs : Settles s v) :
    Settles (fun limit depth =>
      if limit ≤ depth then Effects.fail (.recursionLimitExceeded limit)
      else s limit (depth + 1)) v := by
  obtain ⟨levels, cost, hs⟩ := hs
  refine ⟨levels + 1, cost, ?_, ?_, ?_⟩
  · intro limit depth h
    rw [if_neg (by omega)]
    exact hs.outcome (by omega)
  · intro limit depth h
    rw [if_neg (by omega)]
    exact hs.cost (by omega)
  · intro limit depth
    by_cases h : limit ≤ depth
    · rw [if_pos h]
      exact .inr rfl
    · rw [if_neg h]
      exact hs.otherwise limit (depth + 1)

end Settles

namespace Grammar

variable {g : Grammar}

theorem settles_script {r : Recognizer} {input : List Token} {result : Option Matched}
    (h : ∀ rule offset index, Settles (fun limit depth =>
      g.evaluateAlternatives (g.script limit depth) rule offset input index r.alternatives) result)
    (offset : Nat) : Settles (fun limit depth => g.script limit depth r offset input) result := by
  have body : Settles (fun limit depth => do
      Effects.spend
      Effects.note (.enter r.name offset)
      let result ← g.evaluateAlternatives (g.script limit depth) r.name offset input 0 r.alternatives
      Effects.note (.leave r.name (result.map (·.width)))
      pure result) result := by
    refine Settles.spend_bind (Settles.note_bind _ ?_)
    exact Settles.bind (h r.name offset 0) (Settles.const rfl)
  simp only [script_eq]
  exact body.guarded

theorem settles_reference {space : Namespace} {name : String} {r : Recognizer} {input : List Token}
    {result : Option Matched} (hr : g.lookup space name = some r)
    (h : ∀ rule offset index, Settles (fun limit depth =>
      g.evaluateAlternatives (g.script limit depth) rule offset input index r.alternatives) result)
    (cursor : Nat) : Settles (fun limit depth =>
      g.evaluateReference (g.script limit depth) space name cursor input)
      (result.map (.below (some name))) := by
  simp only [evaluateReference, hr]
  exact Settles.bind (settles_script h cursor) (Settles.const rfl)

mutual

/-- What ordered choice derives, every script comes to, unless the depth limit breaks it off. -/
theorem Chooses.settles {alternatives : List Alternative} {input : List Token}
    {result : Option Matched} (h : g.Chooses alternatives input result) (rule : String)
    (offset index : Nat) : Settles (fun limit depth =>
      g.evaluateAlternatives (g.script limit depth) rule offset input index alternatives) result := by
  match h with
  | .exhausted _ => exact .const rfl
  | .first hs =>
      simp only [evaluateAlternatives]
      refine Settles.note_bind _ (Settles.bind (hs.settles rule offset) ?_)
      exact .const rfl
  | .next hs ho =>
      simp only [evaluateAlternatives]
      refine Settles.note_bind _ (Settles.bind (hs.settles rule offset) ?_)
      exact Settles.note_bind _ (ho.settles rule offset (index + 1))

theorem Follows.settles {symbols : List Symbol} {input : List Token} {result : Option Matched}
    (h : g.Follows symbols input result) (rule : String) (cursor : Nat) :
    Settles (fun limit depth =>
      g.evaluateSymbols (g.script limit depth) rule symbols cursor input) result := by
  match h with
  | .nil _ => exact .const rfl
  | .fails hc =>
      simp only [evaluateSymbols]
      refine Settles.spend_bind (Settles.bind (hc.settles rule cursor) ?_)
      exact .const rfl
  | .cons hc hs =>
      simp only [evaluateSymbols]
      refine Settles.spend_bind (Settles.bind (hc.settles rule cursor) ?_)
      exact Settles.bind (hs.settles rule _) (.const rfl)

theorem Contributes.settles {symbol : Symbol} {input : List Token} {result : Option Matched}
    (h : g.Contributes symbol input result) (rule : String) (cursor : Nat) :
    Settles (fun limit depth =>
      g.evaluateSymbol (g.script limit depth) rule cursor input symbol) result := by
  match h with
  | .literal hl =>
      simp only [evaluateSymbol, if_pos hl]
      exact .const rfl
  | .noLiteral hl =>
      cases input with
      | nil => exact .const rfl
      | cons token rest =>
          simp only [evaluateSymbol, if_neg (hl token rfl)]
          exact .const rfl
  | .tokens hr hq =>
      rw [hr.unique (isKindRun_kindRun _ _ input)] at hq ⊢
      simp only [evaluateSymbol, if_neg (Nat.not_lt_of_le hq)]
      exact .const rfl
  | .noTokens hr hq =>
      rw [hr.unique (isKindRun_kindRun _ _ input)] at hq
      simp only [evaluateSymbol, if_pos hq]
      exact .const rfl
  | .subrule hr hc => exact settles_reference hr hc.settles cursor
  | .definition hr hc => exact settles_reference hr hc.settles cursor
  | .group hc =>
      have called := settles_script (r := ⟨rule, _⟩) hc.settles cursor
      exact Settles.bind called (.const rfl)

end

end Grammar

namespace Machine

variable {σ : Type}

theorem recognize_of_lookup (m : Machine σ) {space : Namespace} {name : String} {r : Recognizer}
    (hr : m.grammar.lookup space name = some r) (tokens : List Token) (log : σ) :
    m.recognize space name tokens log =
      (m.grammar.script m.limits.depth 0 r 0 tokens).play m m.limits.fuel log := by
  rw [recognize, hr]
  exact Script.invoke_eq_play m r 0 tokens m.limits.fuel log

theorem decides_of_recognize {m : Machine σ} {space : Namespace} {name : String}
    {tokens : List Token} {log : σ} {result : Option Matched}
    (h : (m.recognize space name tokens log).outcome = .ok result) :
    ∃ r, m.grammar.lookup space name = some r ∧ m.grammar.Decides r.alternatives tokens result := by
  cases hr : m.grammar.lookup space name with
  | none =>
      rw [recognize, hr] at h
      cases h
  | some r =>
      rw [recognize_of_lookup m hr, Script.outcome_play] at h
      split at h
      · exact ⟨r, rfl, (Grammar.chooses_of_script h).decides⟩
      · cases h

/-- Recognizing is ordered choice. Under any limits a machine answers only what is derived; what is
derived it answers under all limits that are large enough, and under all others it may only stop at a
limit. -/
theorem recognize_decides (g : Grammar) (observer : Observer σ) (space : Namespace) (name : String)
    (tokens : List Token) (log : σ) (result : Option Matched) :
    (∀ limits, ((⟨g, limits, observer⟩ : Machine σ).recognize space name tokens log).outcome =
        .ok result →
      ∃ r, g.lookup space name = some r ∧ g.Decides r.alternatives tokens result) ∧
    (∀ r, g.lookup space name = some r → g.Decides r.alternatives tokens result →
      (∃ least : Limits, ∀ limits : Limits, least.fuel ≤ limits.fuel → least.depth ≤ limits.depth →
        ((⟨g, limits, observer⟩ : Machine σ).recognize space name tokens log).outcome =
          .ok result) ∧
      ∀ limits, ((⟨g, limits, observer⟩ : Machine σ).recognize space name tokens log).outcome =
          .ok result ∨
        ∃ e, ((⟨g, limits, observer⟩ : Machine σ).recognize space name tokens log).outcome =
          .error e ∧ e.isLimit = true) := by
  constructor
  · intro limits h
    exact decides_of_recognize h
  · intro r hr hd
    obtain ⟨levels, cost, settled⟩ := Grammar.settles_script hd.chooses.settles 0
    constructor
    · refine ⟨⟨cost, levels⟩, ?_⟩
      intro limits hf hl
      have enough : (g.script limits.depth 0 r 0 tokens).cost ≤ limits.fuel := by
        rw [settled.cost hl]
        exact hf
      rw [recognize_of_lookup _ hr, Script.outcome_play, if_pos enough]
      exact settled.outcome hl
    · intro limits
      rw [recognize_of_lookup _ hr, Script.outcome_play]
      split
      · rcases settled.otherwise limits.depth 0 with h | h
        · exact .inl h
        · exact .inr ⟨_, h, rfl⟩
      · exact .inr ⟨_, rfl, rfl⟩

end Machine

namespace Brackets

/-- Brackets inside one another, or nothing. -/
def grammar : Grammar :=
  ⟨[], [], [⟨"nest", [[.literal "(", .subrule "nest", .literal ")"], []]⟩], []⟩

def machine (limits : Limits) : Machine Unit := ⟨grammar, limits, .silent⟩

def opening (n : Nat) : Token := ⟨"bracket", "(", ⟨1, n + 1⟩, n⟩

def closing (n : Nat) : Token := ⟨"bracket", ")", ⟨1, n + 1⟩, n⟩

/-- The text `()()`. -/
def tokens : List Token := [opening 0, closing 1, opening 2, closing 3]

/-- What matches the brackets from `n` on. -/
def pair (n : Nat) : Matched :=
  ⟨2, [.token (opening n), .tree (some "nest") 0 [], .token (closing (n + 1))]⟩

theorem recognize_decides_pair :
    (∃ r, grammar.lookup .rules "nest" = some r ∧
      grammar.Decides r.alternatives tokens (some (pair 0))) ∧
    ∀ limits, ((machine limits).recognize .rules "nest" tokens ()).outcome = .ok (some (pair 0)) ∨
      ∃ e, ((machine limits).recognize .rules "nest" tokens ()).outcome = .error e ∧
        e.isLimit = true := by
  have recognized : ((machine .standard).recognize .rules "nest" tokens ()).outcome =
      .ok (some (pair 0)) := by with_unfolding_all rfl
  have decides := Machine.recognize_decides grammar .silent .rules "nest" tokens () (some (pair 0))
  obtain ⟨r, hr, hd⟩ := decides.1 .standard recognized
  exact ⟨⟨r, hr, hd⟩, (decides.2 r hr hd).2⟩

end Brackets

end TokenGrammar
