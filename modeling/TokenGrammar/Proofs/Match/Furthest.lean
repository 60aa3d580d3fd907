import TokenGrammar.Proofs.Grammar.Stored
import TokenGrammar.Proofs.Match.Iteration
import TokenGrammar.Proofs.Match.Misses
import TokenGrammar.Proofs.Recognizer.Legibility

/-!
# Where a parse got furthest

The report on the furthest failure is about all attempts of a parse, also those behind which it went on.
Main statement: yet it never points in front of the token where the parse is stuck. An attempt that matches
nothing and misses nothing would do so anywhere, since only symbols that may be absent are in its way. So
if nothing is missed where the parse is stuck, nothing was missed before.
-/
namespace TokenGrammar

namespace Script

variable {s : Script (Option Matched)} {offset : Nat} {input : List Token}

/-- There is a match, and nothing is missed for it. -/
def Smooth (s : Script (Option Matched)) : Prop :=
  s.misses = [] ∧ ∃ matched, s.outcome = .ok (some matched)

/-- Besides, the match is of no token. -/
def Idle (s : Script (Option Matched)) : Prop :=
  s.misses = [] ∧ ∃ matched, s.outcome = .ok (some matched) ∧ matched.width = 0

theorem Smooth.below (h : s.Smooth) (label : Option String) :
    (s >>= fun result => Pure.pure (result.map (.below label))).Smooth := by
  obtain ⟨none, matched, hs⟩ := h
  exact ⟨(misses_bind_pure s _).trans none, _, outcome_bind_of_ok hs _⟩

theorem Idle.of_below {label : Option String}
    (h : (s >>= fun result => Pure.pure (result.map (.below label))).Idle) : s.Idle := by
  obtain ⟨none, matched, ho, hw⟩ := h
  obtain ⟨inner, hs, rfl⟩ := outcome_map_eq_some ho
  exact ⟨(misses_bind_pure s _).symm.trans none, inner, hs, hw⟩

/-- Of two parts, both match no token and miss nothing. -/
theorem Idle.parts {f : Matched → Script (Option Matched)}
    (h : (s >>= fun part => match part with
      | none => Pure.pure none
      | some part => f part >>= fun others => Pure.pure (others.map (part ++ ·))).Idle) :
    s.Idle ∧ ∃ part, (f part).Idle := by
  obtain ⟨none, matched, ho, hw⟩ := h
  obtain ⟨part, hs, hp⟩ := outcome_bind_eq_ok.mp ho
  cases part with
  | none => cases hp
  | some part =>
      obtain ⟨others, hf, rfl⟩ := outcome_map_eq_some hp
      simp only [misses_bind_of_ok hs, misses_bind_pure, List.append_eq_nil_iff] at none
      obtain ⟨first, later⟩ := Nat.add_eq_zero_iff.mp hw
      exact ⟨⟨none.1, part, hs, first⟩, part, none.2, others, hf, later⟩

theorem Smooth.next (h : s.Smooth) {f : Matched → Script (Option Matched)}
    (hf : ∀ part, (f part).Smooth) :
    (s >>= fun part => match part with
      | none => Pure.pure none
      | some part => f part >>= fun others => Pure.pure (others.map (part ++ ·))).Smooth := by
  obtain ⟨none, part, hs⟩ := h
  obtain ⟨none', others, hf⟩ := hf part
  refine ⟨?_, _, (outcome_bind_of_ok hs _).trans (outcome_bind_of_ok hf _)⟩
  simp only [misses_bind_of_ok hs, misses_bind_pure, none, none', List.append_nil]

/-- An alternative behind which others were tried has missed something. -/
theorem Idle.first {t : Script (Option Matched)} {e : Event} (tells : s.Tells offset input)
    (h : (s >>= fun result => match result with
      | some matched => Pure.pure (some matched)
      | none => (Effects.note e : Script Unit) >>= fun _ => t).Idle) : s.Idle := by
  obtain ⟨none, matched, ho, hw⟩ := h
  obtain ⟨result, hs, hr⟩ := outcome_bind_eq_ok.mp ho
  rw [misses_bind_of_ok hs] at none
  obtain ⟨own, -⟩ := List.append_eq_nil_iff.mp none
  cases result with
  | none => exact absurd own (tells.missed hs)
  | some found =>
      cases hr
      exact ⟨own, _, hs, hw⟩

theorem Smooth.orElse (h : s.Smooth) (e : Event) (t : Script (Option Matched)) :
    (s >>= fun result => match result with
      | some matched => Pure.pure (some matched)
      | none => (Effects.note e : Script Unit) >>= fun _ => t).Smooth := by
  obtain ⟨none, matched, hs⟩ := h
  refine ⟨?_, matched, outcome_bind_of_ok hs _⟩
  rw [misses_bind_of_ok hs, none]
  rfl

end Script

namespace Grammar

variable {g : Grammar} (stored : ∀ n, ∀ r ∈ g.table n, Filled r.alternatives)

include stored

section Call

variable {call : Recognizer → Nat → List Token → Script (Option Matched)}
  (hc : ∀ r offset input, Filled r.alternatives → (call r offset input).Tells offset input)
  (hi : ∀ r offset input, Filled r.alternatives → (call r offset input).Idle →
    ∀ offset' input', (call r offset' input').Smooth)

include hi

theorem smooth_evaluateReference {space : Namespace} {name : String} {cursor : Nat} {rest : List Token}
    (h : (g.evaluateReference call space name cursor rest).Idle) (cursor' : Nat) (rest' : List Token) :
    (g.evaluateReference call space name cursor' rest').Smooth := by
  unfold evaluateReference at h ⊢
  cases hl : g.lookup space name with
  | none =>
      rw [hl] at h
      obtain ⟨-, _, ho, -⟩ := h
      cases ho
  | some r =>
      rw [hl] at h
      have filled := stored space r (mem_table_of_lookup hl)
      exact (hi r cursor rest filled h.of_below cursor' rest').below _

theorem smooth_evaluateSymbol {rule : String} {cursor : Nat} {rest : List Token} {symbol : Symbol}
    (groups : ∀ inner, symbol = .group inner → Filled inner)
    (h : (g.evaluateSymbol call rule cursor rest symbol).Idle) (cursor' : Nat) (rest' : List Token) :
    (g.evaluateSymbol call rule cursor' rest' symbol).Smooth := by
  cases symbol with
  | literal text =>
      -- A literal that matches takes a token.
      obtain ⟨-, matched, ho, hw⟩ := h
      cases rest with
      | nil => cases ho
      | cons token rest =>
          by_cases hl : token.lexeme = text
          · simp only [evaluateSymbol, if_pos hl] at ho
            cases ho
            cases hw
          · simp only [evaluateSymbol, if_neg hl] at ho
            cases ho
  | tokens kind quantifier explicit =>
      -- No token was enough for the class, so it always is.
      obtain ⟨-, matched, ho, hw⟩ := h
      have least : quantifier.least = 0 := by
        by_cases hl : (kindRun kind quantifier rest).length < quantifier.least
        · simp only [evaluateSymbol, if_pos hl] at ho
          cases ho
        · simp only [evaluateSymbol, if_neg hl] at ho
          cases ho
          change (kindRun kind quantifier rest).length = 0 at hw
          omega
      have enough : ¬ (kindRun kind quantifier rest').length < quantifier.least := by
        rw [least]
        exact Nat.not_lt_zero _
      simp only [evaluateSymbol, if_neg enough]
      exact ⟨rfl, _, rfl⟩
  | subrule name => exact smooth_evaluateReference stored hi h cursor' rest'
  | definition name => exact smooth_evaluateReference stored hi h cursor' rest'
  | group alternatives =>
      exact (hi ⟨rule, alternatives⟩ cursor rest (groups _ rfl) h.of_below cursor' rest').below none
  | stray token =>
      obtain ⟨-, _, ho, -⟩ := h
      cases ho

theorem smooth_evaluateSymbols {rule : String} {symbols : List Symbol}
    (groups : ∀ inner, .group inner ∈ symbols → Filled inner) {cursor : Nat} {rest : List Token}
    (h : (g.evaluateSymbols call rule symbols cursor rest).Idle) (cursor' : Nat) (rest' : List Token) :
    (g.evaluateSymbols call rule symbols cursor' rest').Smooth := by
  induction symbols generalizing cursor rest cursor' rest' with
  | nil => exact ⟨rfl, _, rfl⟩
  | cons symbol symbols ih =>
      have parts : (g.evaluateSymbol call rule cursor rest symbol).Idle ∧ ∃ part : Matched,
          (g.evaluateSymbols call rule symbols (cursor + part.width) (rest.drop part.width)).Idle :=
        Script.Idle.parts h
      obtain ⟨first, part, later⟩ := parts
      have own := smooth_evaluateSymbol stored hi
        (fun inner same => groups inner (same ▸ List.mem_cons_self)) first cursor' rest'
      exact own.next fun part' => ih (fun inner member => groups inner (List.mem_cons_of_mem symbol member))
        later _ _

include hc

theorem smooth_evaluateAlternatives {rule : String} {offset index : Nat} {input : List Token}
    {alternatives : List Alternative}
    (groups : ∀ symbols ∈ alternatives, ∀ inner, .group inner ∈ symbols → Filled inner)
    (h : (g.evaluateAlternatives call rule offset input index alternatives).Idle) (offset' : Nat)
    (input' : List Token) :
    (g.evaluateAlternatives call rule offset' input' index alternatives).Smooth := by
  cases alternatives with
  | nil =>
      obtain ⟨-, _, ho, -⟩ := h
      cases ho
  | cons symbols others =>
      have own := groups symbols List.mem_cons_self
      have first : (g.evaluateSymbols call rule symbols offset input).Idle := by
        obtain ⟨none, matched⟩ := h
        rw [evaluateAlternatives, Script.misses_note rfl] at none
        exact Script.Idle.first (tells_evaluateSymbols stored hc rule own offset input) ⟨none, matched⟩
      have smooth := (smooth_evaluateSymbols stored hi own first offset' input').orElse
        (.backtrack rule index) (g.evaluateAlternatives call rule offset' input' (index + 1) others)
      rw [evaluateAlternatives]
      exact ⟨(Script.misses_note rfl _).trans smooth.1, smooth.2⟩

end Call

/-- An attempt that matches no token and misses nothing matches and misses nothing anywhere. -/
theorem smooth_script {limit depth : Nat} {r : Recognizer} {offset : Nat} {input : List Token}
    (filled : Filled r.alternatives) (h : (g.script limit depth r offset input).Idle) (offset' : Nat)
    (input' : List Token) : (g.script limit depth r offset' input').Smooth := by
  induction depth, r, offset, input using evaluate.induct limit generalizing offset' input' with
  | case1 depth r offset input hd =>
      rw [script_eq, if_pos hd] at h
      obtain ⟨-, _, ho, -⟩ := h
      cases ho
  | case2 depth r offset input hd ih =>
      obtain ⟨none, matched, ho, hw⟩ := h
      obtain ⟨same, outcome⟩ := g.script_within hd r offset input
      obtain ⟨same', outcome'⟩ := g.script_within hd r offset' input'
      have body : (g.evaluateAlternatives (g.script limit (depth + 1)) r.name offset input 0
          r.alternatives).Idle := ⟨same ▸ none, matched, outcome ▸ ho, hw⟩
      obtain ⟨none', matched', ho'⟩ := smooth_evaluateAlternatives stored
        (tells_script stored limit (depth + 1)) ih (fun _ member _ hg => filled.group member hg) body
        offset' input'
      exact ⟨same'.trans none', matched', outcome'.trans ho'⟩

theorem placed_evaluateRules {limit offset : Nat} {input : List Token} {rules : List Recognizer}
    (filled : ∀ r ∈ rules, Filled r.alternatives) :
    ∀ miss ∈ Script.misses (g.evaluateRules limit offset input rules), miss.Placed offset input := by
  induction rules with
  | nil => exact nofun
  | cons r others ih =>
      obtain ⟨own, filled⟩ := List.forall_mem_cons.mp filled
      have tells := tells_script stored limit 0 r offset input own
      rw [evaluateRules_cons]
      cases ho : (g.script limit 0 r offset input).outcome with
      | error e =>
          rw [Script.misses_bind_of_error ho]
          exact tells.placed
      | ok result =>
          rw [Script.misses_bind_of_ok ho]
          refine List.forall_mem_append.mpr ⟨tells.placed, ?_⟩
          cases result with
          | none => exact ih filled
          | some matched =>
              by_cases hw : matched.width = 0
              · simp only [if_pos hw]
                exact ih filled
              · simp only [if_neg hw]
                exact nofun

omit stored

/-- Where all attempts are smooth, nothing is missed. -/
theorem misses_evaluateRules {limit offset : Nat} {input : List Token} {rules : List Recognizer}
    (smooth : ∀ r ∈ rules, (g.script limit 0 r offset input).Smooth) :
    Script.misses (g.evaluateRules limit offset input rules) = [] := by
  induction rules with
  | nil => rfl
  | cons r others ih =>
      obtain ⟨⟨none, matched, ho⟩, smooth⟩ := List.forall_mem_cons.mp smooth
      rw [evaluateRules_cons, Script.misses_bind_of_ok ho, none, List.nil_append]
      by_cases hw : matched.width = 0
      · simp only [if_pos hw]
        exact ih smooth
      · simp only [if_neg hw]
        exact Script.misses_pure _

/-- If no rule advances, the first one matches no token, and the others do not advance. -/
theorem evaluateRules_cons_eq_none {limit offset : Nat} {input : List Token} {r : Recognizer}
    {others : List Recognizer}
    (h : Script.outcome (g.evaluateRules limit offset input (r :: others)) = .ok none) :
    (∃ result, (g.script limit 0 r offset input).outcome = .ok result ∧
      ∀ matched, result = some matched → matched.width = 0) ∧
    Script.outcome (g.evaluateRules limit offset input others) = .ok none ∧
    Script.misses (g.evaluateRules limit offset input (r :: others)) =
      (g.script limit 0 r offset input).misses ++
        Script.misses (g.evaluateRules limit offset input others) := by
  rw [evaluateRules_cons] at h ⊢
  obtain ⟨result, ho, hn⟩ := Script.outcome_bind_eq_ok.mp h
  rw [Script.misses_bind_of_ok ho]
  cases result with
  | none => exact ⟨⟨none, ho, nofun⟩, hn, rfl⟩
  | some matched =>
      by_cases hw : matched.width = 0
      · simp only [if_pos hw] at hn ⊢
        refine ⟨⟨some matched, ho, ?_⟩, hn, trivial⟩
        rintro _ ⟨⟩
        exact hw
      · simp only [if_neg hw] at hn
        cases hn

theorem attempted_of_evaluateRules {limit offset : Nat} {input : List Token} {rules : List Recognizer}
    (h : Script.outcome (g.evaluateRules limit offset input rules) = .ok none) {r : Recognizer}
    (hr : r ∈ rules) :
    (∃ result, (g.script limit 0 r offset input).outcome = .ok result ∧
      ∀ matched, result = some matched → matched.width = 0) ∧
    (g.script limit 0 r offset input).misses ⊆
      Script.misses (g.evaluateRules limit offset input rules) := by
  induction rules with
  | nil => cases hr
  | cons first others ih =>
      obtain ⟨own, rest, misses⟩ := evaluateRules_cons_eq_none h
      rw [misses]
      rcases List.mem_cons.mp hr with rfl | later
      · exact ⟨own, List.subset_append_left _ _⟩
      · obtain ⟨outcome, sub⟩ := ih rest later
        exact ⟨outcome, List.subset_append_of_subset_right _ sub⟩

/-- If no rule advances and nothing is missed, every rule is smooth anywhere. -/
theorem smooth_of_misses_eq_nil (stored : ∀ n, ∀ r ∈ g.table n, Filled r.alternatives)
    {limit offset : Nat} {input : List Token} {rules : List Recognizer}
    (filled : ∀ r ∈ rules, Filled r.alternatives)
    (h : Script.outcome (g.evaluateRules limit offset input rules) = .ok none)
    (none : Script.misses (g.evaluateRules limit offset input rules) = []) {r : Recognizer}
    (hr : r ∈ rules) (offset' : Nat) (input' : List Token) :
    (g.script limit 0 r offset' input').Smooth := by
  obtain ⟨⟨result, ho, hw⟩, sub⟩ := attempted_of_evaluateRules h hr
  have own : (g.script limit 0 r offset input).misses = [] := List.eq_nil_of_subset_nil (none ▸ sub)
  cases result with
  | none => exact absurd own ((tells_script stored limit 0 r offset input (filled r hr)).missed ho)
  | some matched =>
      exact smooth_script stored (filled r hr) ⟨own, matched, ho, hw matched rfl⟩ offset' input'

end Grammar

theorem Script.play_eq_ok {σ α : Type} {m : Machine σ} {s : Script α} {fuel : Nat} {log : σ} {v : α}
    (h : (s.play m fuel log).outcome = .ok v) :
    s.outcome = .ok v ∧ (s.play m fuel log).log = s.events.foldl m.observer.note log := by
  by_cases hc : s.cost ≤ fuel
  · rw [play_of_cost_le m s log hc] at h ⊢
    exact ⟨h, rfl⟩
  · rw [outcome_play_of_lt_cost m s log (Nat.lt_of_not_le hc)] at h
    cases h

namespace Observer

variable {σ τ : Type} {o : Observer σ}

/-- Whatever else is watched, the furthest failure is. -/
def TracksFailures (o : Observer σ) : Prop :=
  ∀ log e, o.furthest? (o.note log e) = Failure.note (o.furthest? log) e

theorem tracksFailures_ofFailures : ofFailures.TracksFailures := fun _ _ => rfl

theorem TracksFailures.pair (h : o.TracksFailures) (p : Observer τ) : (o.pair p).TracksFailures :=
  fun log e => h log.1 e

theorem TracksFailures.foldl (h : o.TracksFailures) (events : List Event) (log : σ) :
    o.furthest? (events.foldl o.note log) = events.foldl Failure.note (o.furthest? log) := by
  induction events generalizing log with
  | nil => rfl
  | cons e events ih => rw [List.foldl_cons, ih, h, List.foldl_cons]

end Observer

namespace Machine

variable {σ : Type}

/-- Tries the rules where the tokens from `p` on start. -/
def attempts (m : Machine σ) (tokens : List Token) (p fuel : Nat) (log : σ) :
    Run σ (Option (Recognizer × Matched)) :=
  m.firstAdvance p (tokens.drop p) fuel log m.grammar.rules.reverse

/-- While the tokens are parsed, an expression may start at the offset, with the fuel that is left and the
log so far. -/
inductive Arrives (m : Machine σ) (tokens : List Token) (log : σ) : Nat → Nat → σ → Prop
  | start : Arrives m tokens log 0 m.limits.fuel log
  | advance {p fuel : Nat} {log' : σ} {r : Recognizer} {matched : Matched} :
      Arrives m tokens log p fuel log' → p < tokens.length →
      (m.attempts tokens p fuel log').outcome = .ok (some (r, matched)) →
      Arrives m tokens log (p + matched.width) (m.attempts tokens p fuel log').fuel
        (m.observer.note (m.attempts tokens p fuel log').log (.expression r.name p matched.width))

/-- The parse arrives at the token, and no rule advances there. -/
def StuckAt (m : Machine σ) (tokens : List Token) (log : σ) (p : Nat) : Prop :=
  ∃ fuel log', m.Arrives tokens log p fuel log' ∧ p < tokens.length ∧
    (m.attempts tokens p fuel log').outcome = .ok none

variable {m : Machine σ} {tokens : List Token} {log : σ} {token : Token} {furthest : Option Failure}

theorem script_of_attempts {p fuel : Nat} {log' : σ} {result : Option (Recognizer × Matched)}
    (h : (m.attempts tokens p fuel log').outcome = .ok result) :
    Script.outcome (m.grammar.evaluateRules m.limits.depth p (tokens.drop p)
      m.grammar.rules.reverse) = .ok result ∧
    (m.attempts tokens p fuel log').log =
      (Script.events (m.grammar.evaluateRules m.limits.depth p (tokens.drop p)
        m.grammar.rules.reverse)).foldl m.observer.note log' := by
  rw [attempts, firstAdvance_eq_play] at h ⊢
  exact Script.play_eq_ok h

theorem parseFrom_of_lt {p : Nat} (hp : p < tokens.length) (found : List Subtree) (fuel : Nat)
    (log' : σ) :
    m.parseFrom p found fuel log' (tokens.drop p) =
      match (m.attempts tokens p fuel log').outcome with
      | .error e => ⟨.error e, (m.attempts tokens p fuel log').fuel, (m.attempts tokens p fuel log').log⟩
      | .ok none =>
        ⟨.error (.unexpectedToken tokens[p] (m.observer.furthest? (m.attempts tokens p fuel log').log)),
          (m.attempts tokens p fuel log').fuel, (m.attempts tokens p fuel log').log⟩
      | .ok (some (r, matched)) =>
        m.parseFrom (p + matched.width) (matched.expression r.name :: found)
          (m.attempts tokens p fuel log').fuel
          (m.observer.note (m.attempts tokens p fuel log').log (.expression r.name p matched.width))
          (tokens.drop (p + matched.width)) := by
  have here : tokens.drop p = tokens[p] :: tokens.drop (p + 1) := List.drop_eq_getElem_cons hp
  have same : m.firstAdvance p (tokens[p] :: tokens.drop (p + 1)) fuel log' m.grammar.rules.reverse =
      m.attempts tokens p fuel log' := by rw [attempts, here]
  rw [here, parseFrom]
  simp only [same]
  rcases ho : (m.attempts tokens p fuel log').outcome with e | _ | ⟨r, matched⟩
  · rfl
  · rfl
  · have positive := (Grammar.script_of_evaluateRules (script_of_attempts ho).1).2.1
    have behind : (tokens.drop (p + 1)).drop (matched.width - 1) = tokens.drop (p + matched.width) := by
      rw [List.drop_drop]
      congr 1
      omega
    simp only [behind]
    rfl

/-- Where a parse arrives, it goes on. -/
theorem Arrives.parse_eq {p fuel : Nat} {log' : σ} (h : m.Arrives tokens log p fuel log') :
    ∃ found, m.parse tokens log = m.parseFrom p found fuel log' (tokens.drop p) := by
  induction h with
  | start => exact ⟨[], rfl⟩
  | @advance p fuel log' r matched _ hp ho ih =>
      obtain ⟨found, same⟩ := ih
      exact ⟨matched.expression r.name :: found, by rw [same, parseFrom_of_lt hp, ho]⟩

/-- Where a parse is stuck, it ends with an error that says so. -/
theorem StuckAt.parse_eq {p : Nat} (h : m.StuckAt tokens log p) :
    ∃ fuel log', m.Arrives tokens log p fuel log' ∧
      (m.attempts tokens p fuel log').outcome = .ok none ∧ ∃ hp : p < tokens.length,
        (m.parse tokens log).outcome = .error (.unexpectedToken tokens[p]
          (m.observer.furthest? (m.attempts tokens p fuel log').log)) := by
  obtain ⟨fuel, log', arrives, hp, ho⟩ := h
  obtain ⟨found, same⟩ := arrives.parse_eq
  refine ⟨fuel, log', arrives, ho, hp, ?_⟩
  rw [same, parseFrom_of_lt hp, ho]

/-- No attempt fails for a token that is unexpected; only the parse does. -/
theorem outcome_firstAdvance_ne {offset fuel : Nat} {input : List Token} {log' : σ} :
    (m.firstAdvance offset input fuel log' m.grammar.rules.reverse).outcome ≠
      .error (.unexpectedToken token furthest) := by
  intro h
  rw [firstAdvance_eq_play, Script.outcome_play] at h
  split at h
  · rcases Grammar.cause_of_evaluateRules (fun r member => List.mem_reverse.mp member) h with
      limit | ⟨_, _, _, _, _, faulty⟩
    · cases limit
    · cases faulty
  · cases h

/-- A parse that ends with an unexpected token is stuck somewhere. -/
theorem exists_stuckAt {p fuel : Nat} {log' : σ} {found : List Subtree}
    (arrives : m.Arrives tokens log p fuel log')
    (h : (m.parseFrom p found fuel log' (tokens.drop p)).outcome =
      .error (.unexpectedToken token furthest)) : ∃ q, m.StuckAt tokens log q := by
  by_cases hp : p < tokens.length
  · rcases ho : (m.attempts tokens p fuel log').outcome with e | _ | ⟨r, matched⟩
    · rw [parseFrom_of_lt hp, ho] at h
      cases h
      exact absurd ho outcome_firstAdvance_ne
    · exact ⟨p, fuel, log', arrives, hp, ho⟩
    · have positive := (Grammar.script_of_evaluateRules (script_of_attempts ho).1).2.1
      rw [parseFrom_of_lt hp, ho] at h
      exact exists_stuckAt (arrives.advance hp ho) h
  · rw [List.drop_eq_nil_of_le (Nat.le_of_not_lt hp), parseFrom] at h
    cases h
termination_by tokens.length - p

/-- What is noted where a parse arrives: every miss so far was in the tokens, and there was none if all
rules are smooth anywhere. -/
def Noted (m : Machine σ) (tokens : List Token) (log log' : σ) : Prop :=
  ∃ events, log' = events.foldl m.observer.note log ∧
    (∀ miss ∈ Event.misses events, miss.Placed 0 tokens) ∧
    ((∀ r ∈ m.grammar.rules, ∀ offset input,
      (m.grammar.script m.limits.depth 0 r offset input).Smooth) → Event.misses events = [])

theorem Noted.note {log' : σ} (h : m.Noted tokens log log') {e : Event} (he : e.miss? = none) :
    m.Noted tokens log (m.observer.note log' e) := by
  obtain ⟨events, rfl, placed, smooth⟩ := h
  have same : Event.misses (events ++ [e]) = Event.misses events := by
    rw [Event.misses, List.filterMap_append, List.filterMap_cons_none he, List.filterMap_nil,
      List.append_nil]
    rfl
  exact ⟨events ++ [e], by rw [List.foldl_append]; rfl, same ▸ placed, fun always => same ▸ smooth always⟩

section Stored

variable (stored : ∀ n, ∀ r ∈ m.grammar.table n, Filled r.alternatives)

include stored

/-- What the attempts at one place miss is in the tokens, and not in front of the place. -/
theorem placed_of_attempts {p : Nat} (hp : p < tokens.length) :
    ∀ miss ∈ Script.misses (m.grammar.evaluateRules m.limits.depth p (tokens.drop p)
      m.grammar.rules.reverse), miss.Placed 0 tokens ∧ p ≤ miss.offset := by
  intro miss member
  have filled : ∀ r ∈ m.grammar.rules.reverse, Filled r.alternatives :=
    fun r hr => stored .rules r (List.mem_reverse.mp hr)
  have own : miss.Placed (0 + p) (tokens.drop p) := by
    rw [Nat.zero_add]
    exact Grammar.placed_evaluateRules stored filled miss member
  refine ⟨own.of_drop (Nat.le_of_lt hp), ?_⟩
  obtain ⟨k, here, -⟩ := own
  omega

/-- The attempts at one place keep what is known. -/
theorem Noted.attempts {p fuel : Nat} {log' : σ} (h : m.Noted tokens log log') (hp : p < tokens.length)
    {result : Option (Recognizer × Matched)}
    (ho : (m.attempts tokens p fuel log').outcome = .ok result) :
    m.Noted tokens log (m.attempts tokens p fuel log').log := by
  obtain ⟨events, rfl, placed, smooth⟩ := h
  obtain ⟨-, noted⟩ := script_of_attempts ho
  refine ⟨_, noted.trans List.foldl_append.symm, ?_, ?_⟩
  · rw [Event.misses, List.filterMap_append]
    exact List.forall_mem_append.mpr
      ⟨placed, fun miss member => (placed_of_attempts stored hp miss member).1⟩
  · intro always
    have own : Script.misses (m.grammar.evaluateRules m.limits.depth p (tokens.drop p)
        m.grammar.rules.reverse) = [] :=
      Grammar.misses_evaluateRules fun r hr => always r (List.mem_reverse.mp hr) _ _
    rw [Event.misses, List.filterMap_append]
    exact List.append_eq_nil_iff.mpr ⟨smooth always, own⟩

theorem Arrives.noted {p fuel : Nat} {log' : σ} (h : m.Arrives tokens log p fuel log') :
    m.Noted tokens log log' := by
  induction h with
  | start => exact ⟨[], rfl, nofun, fun _ => rfl⟩
  | advance _ hp ho ih => exact (ih.attempts stored hp ho).note rfl

/-- What is known of the misses where a parse is stuck: those of the last attempts are not in front of it,
and without any of these there is none. -/
theorem StuckAt.reports (tracks : m.observer.TracksFailures) (fresh : m.observer.furthest? log = none)
    (h : (m.parse tokens log).outcome = .error (.unexpectedToken token furthest)) {p : Nat}
    (stuck : m.StuckAt tokens log p) :
    tokens[p]? = some token ∧ ∃ before last, Failure.Reports furthest (before ++ last) ∧
      (∀ miss ∈ before ++ last, miss.Placed 0 tokens) ∧ (∀ miss ∈ last, p ≤ miss.offset) ∧
      (last = [] → before = []) ∧
      ∀ r ∈ m.grammar.rules,
        (m.grammar.script m.limits.depth 0 r p (tokens.drop p)).misses ⊆ last := by
  obtain ⟨fuel, log', arrives, ho, hp, parsed⟩ := stuck.parse_eq
  cases parsed.symm.trans h
  obtain ⟨events, rfl, placed, smooth⟩ := arrives.noted stored
  obtain ⟨outcome, noted⟩ := script_of_attempts ho
  have last := placed_of_attempts stored hp
  refine ⟨List.getElem?_eq_getElem hp, Event.misses events, _, ?_,
    List.forall_mem_append.mpr ⟨placed, fun miss member => (last miss member).1⟩,
    fun miss member => (last miss member).2, ?_, fun r hr =>
      (Grammar.attempted_of_evaluateRules outcome (List.mem_reverse.mpr hr)).2⟩
  · rw [noted, ← List.foldl_append, tracks.foldl, fresh]
    have sums := Failure.reports_foldl_note (events ++ Script.events (m.grammar.evaluateRules
      m.limits.depth p (tokens.drop p) m.grammar.rules.reverse))
    rwa [Event.misses, List.filterMap_append] at sums
  · intro none
    have filled : ∀ r ∈ m.grammar.rules.reverse, Filled r.alternatives :=
      fun r hr => stored .rules r (List.mem_reverse.mp hr)
    exact smooth fun r hr => Grammar.smooth_of_misses_eq_nil stored filled outcome none
      (List.mem_reverse.mpr hr)

end Stored

end Machine

theorem Recognizer.LineYields.filled {tokens : List Notation.Token} {r : Recognizer}
    {warnings : List Diagnostic} (h : LineYields tokens r warnings) : Filled r.alternatives := by
  constructor
  · cases h with
    | intro _ _ _ body => exact body.ne_nil
  · rintro inner ⟨symbols, ha, hg⟩
    obtain ⟨_, _, _, -, -, -, yields, -⟩ := h.alternative ha
    obtain ⟨_, _, -, -, body, -⟩ := yields.group_mem hg
    exact body.ne_nil

/-- Every recognizer of a defined grammar has alternatives, and so have all of its groups. -/
theorem Grammar.Defined.filled {g : Grammar} (h : g.Defined) {n : Namespace} {r : Recognizer}
    (hr : r ∈ g.table n) : Filled r.alternatives := by
  obtain ⟨_, _, _, line, -⟩ := h.lineYields hr
  exact line.filled

namespace Machine

variable {σ : Type}

/-- A parse that ends with an unexpected token is stuck at this token. A furthest failure is there or
behind it: it found the token at its offset, or none just if that is the end, and something was expected. If
some rule does not match where the parse is stuck, there is a furthest failure. -/
theorem furthest_of_parse {m : Machine σ} (hg : m.grammar.Defined) (tracks : m.observer.TracksFailures)
    {log : σ} (fresh : m.observer.furthest? log = none) {tokens : List Token} {token : Token}
    {furthest : Option Failure}
    (h : (m.parse tokens log).outcome = .error (.unexpectedToken token furthest)) :
    (∃ p, m.StuckAt tokens log p) ∧ ∀ p, m.StuckAt tokens log p →
      tokens[p]? = some token ∧
      (∀ f, furthest = some f → p ≤ f.offset ∧ f.offset ≤ tokens.length ∧
        f.found = tokens[f.offset]? ∧ (f.found = none ↔ f.offset = tokens.length) ∧
        f.expected ≠ []) ∧
      ((∃ r ∈ m.grammar.rules, ∃ fuel log',
          (m.invoke r p (tokens.drop p) fuel log').outcome = .ok none) → furthest ≠ none) := by
  have stored (n : Namespace) (r : Recognizer) (hr : r ∈ m.grammar.table n) : Filled r.alternatives :=
    hg.filled hr
  refine ⟨exists_stuckAt .start h, fun p stuck => ?_⟩
  obtain ⟨here, before, last, sums, placed, ahead, silent, tried⟩ := stuck.reports stored tracks fresh h
  refine ⟨here, ?_, ?_⟩
  · rintro f rfl
    have sums : f.Summarizes (before ++ last) := sums
    obtain ⟨miss, member, offset, found⟩ := sums.exists_mem
    have some : last ≠ [] := by
      intro none
      rw [none, silent none] at member
      cases member
    obtain ⟨missed, front⟩ := List.exists_mem_of_ne_nil last some
    obtain ⟨k, place, inside, seen⟩ := placed miss member
    rw [offset, Nat.zero_add] at place
    rw [found] at seen
    rw [place, seen, List.getElem?_eq_none_iff]
    refine ⟨?_, inside, rfl, ⟨fun behind => Nat.le_antisymm inside behind, Nat.le_of_eq ∘ Eq.symm⟩,
      sums.expected_ne_nil⟩
    rw [← place]
    exact Nat.le_trans (ahead missed front) (sums.offset_le missed (List.mem_append_right before front))
  · rintro ⟨r, hr, fuel, log', ho⟩ rfl
    have none : before ++ last = [] := sums
    rw [Script.invoke_eq_play] at ho
    have missed := (Grammar.tells_script stored m.limits.depth 0 r p (tokens.drop p)
      (stored .rules r hr)).missed (Script.play_eq_ok ho).1
    have sub := tried r hr
    rw [(List.append_eq_nil_iff.mp none).2] at sub
    exact missed (List.eq_nil_of_subset_nil sub)

end Machine

namespace Brackets

def watched : Machine (Option Failure × Unit) := ⟨grammar, .standard, Observer.ofFailures.pair .silent⟩

/-- Behind a single opening bracket, another one or a closing one is missed at the end. -/
theorem furthest_of_opening :
    ∃ p, watched.StuckAt [opening 0] (none, ()) p ∧ [opening 0][p]? = some (opening 0) ∧ p ≤ 1 ∧
      ((none : Option Token) = none ↔ 1 = [opening 0].length) := by
  have refused : (watched.parse [opening 0] (none, ())).outcome = .error (.unexpectedToken (opening 0)
      (some ⟨1, "nest", [.literal "(", .literal ")"], none⟩)) := by
    with_unfolding_all rfl
  obtain ⟨⟨p, stuck⟩, reported⟩ := Machine.furthest_of_parse (m := watched) defined
    (Observer.tracksFailures_ofFailures.pair .silent) rfl refused
  obtain ⟨here, furthest, -⟩ := reported p stuck
  obtain ⟨front, -, -, absent, -⟩ := furthest _ rfl
  exact ⟨p, stuck, here, front, absent⟩

end Brackets

end TokenGrammar
