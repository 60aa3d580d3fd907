import TokenGrammar.Proofs.Match.Furthest
import TokenGrammar.Proofs.Text.Quoted

/-!
# The furthest failure sums up a run

An observer beside another one writes down what happens, and so also whatever was expected and missed.
A failed expectation found the token at its offset, whatever rule was tried and wherever it started. Main
statement: if a parse ends with an unexpected token, the furthest failure is what one reads off the whole
record, and it describes no two expectations alike.
-/
namespace TokenGrammar

variable {σ τ α β : Type}

/-- Writes down everything that happens. -/
def Observer.recording : Observer (List Event) := ⟨fun events e => events ++ [e], fun _ => none⟩

theorem Observer.foldl_pair_fst (o : Observer σ) (p : Observer τ) (events : List Event) (log : σ × τ) :
    (events.foldl (o.pair p).note log).1 = events.foldl o.note log.1 :=
  (List.foldl_hom Prod.fst fun _ _ => rfl).symm

theorem Observer.foldl_pair_snd (o : Observer σ) (p : Observer τ) (events : List Event) (log : σ × τ) :
    (events.foldl (o.pair p).note log).2 = events.foldl p.note log.2 :=
  (List.foldl_hom Prod.snd fun _ _ => rfl).symm

theorem Observer.foldl_recording (events before : List Event) :
    events.foldl recording.note before = before ++ events := by
  induction events generalizing before with
  | nil => exact (List.append_nil before).symm
  | cons e events ih =>
      rw [List.foldl_cons, ih]
      exact List.append_assoc before [e] events

namespace Machine

/-- The machine under one observer more. -/
def beside (m : Machine σ) (p : Observer τ) : Machine (σ × τ) :=
  ⟨m.grammar, m.limits, m.observer.pair p⟩

/-- Who else watches makes no difference to how a parse ends. -/
theorem outcome_parse_beside (m : Machine σ) (p : Observer τ) (tokens : List Token) (log : σ × τ) :
    ((m.beside p).parse tokens log).outcome = (m.parse tokens log.1).outcome := by
  by_cases hc : (m.grammar.programScript m.limits.depth 0 tokens).cost ≤ m.limits.fuel
  · have furthest : (m.beside p).observer.furthest? ((m.beside p).parse tokens log).log =
        m.observer.furthest? (m.parse tokens log.1).log := by
      rw [log_parse_of_cost_le m log.1 hc, log_parse_of_cost_le (m.beside p) log hc,
        ← Observer.foldl_pair_fst m.observer p]
      rfl
    rw [outcome_parse_of_cost_le m log.1 hc, outcome_parse_of_cost_le (m.beside p) log hc, furthest]
    rfl
  · have short := Nat.lt_of_not_le hc
    rw [outcome_parse_of_lt_cost m log.1 short, outcome_parse_of_lt_cost (m.beside p) log short]
    rfl

end Machine

namespace Script

variable {tokens : List Token} {s : Script α}

/-- Every expectation that fails in the script found the token at its offset. -/
def Sees (s : Script α) (tokens : List Token) : Prop :=
  ∀ miss ∈ s.misses, miss.found = tokens[miss.offset]?

namespace Sees

theorem pure (v : α) : (Pure.pure v : Script α).Sees tokens := nofun

theorem fail (e : RuntimeError) : (Effects.fail e : Script α).Sees tokens := nofun

theorem bind (h : s.Sees tokens) {f : α → Script β} (hf : ∀ v, s.outcome = .ok v → (f v).Sees tokens) :
    (s >>= f).Sees tokens := by
  intro miss member
  cases ho : s.outcome with
  | error e =>
      rw [misses_bind_of_error ho] at member
      exact h miss member
  | ok v =>
      rw [misses_bind_of_ok ho] at member
      rcases List.mem_append.mp member with own | later
      · exact h miss own
      · exact hf v ho miss later

theorem spend_bind {f : Unit → Script β} (h : (f ()).Sees tokens) :
    ((Effects.spend : Script Unit) >>= f).Sees tokens := h

theorem note_bind {e : Event} (he : ∀ miss ∈ e.miss?, miss.found = tokens[miss.offset]?)
    {f : Unit → Script β} (h : (f ()).Sees tokens) :
    ((Effects.note e : Script Unit) >>= f).Sees tokens := by
  intro miss member
  rw [misses_note_bind] at member
  rcases List.mem_append.mp member with own | later
  · exact he miss (Option.mem_toList.mp own)
  · exact h miss later

/-- Only failed expectations are missed. -/
theorem silent_bind {e : Event} (he : e.miss? = none) {f : Unit → Script β} (h : (f ()).Sees tokens) :
    ((Effects.note e : Script Unit) >>= f).Sees tokens := by
  apply note_bind _ h
  rw [he]
  exact nofun

end Sees

end Script

namespace Grammar

open Script (Sees)

variable (g : Grammar) {tokens : List Token}

section Call

variable {call : Recognizer → Nat → List Token → Script (Option Matched)}
  (hc : ∀ r offset, (call r offset (tokens.drop offset)).Sees tokens)

include hc

theorem sees_evaluateReference (space : Namespace) (name : String) (cursor : Nat) :
    (g.evaluateReference call space name cursor (tokens.drop cursor)).Sees tokens := by
  unfold evaluateReference
  cases g.lookup space name with
  | none => exact .fail _
  | some r => exact (hc r cursor).bind fun result _ => .pure _

theorem sees_evaluateSymbol (rule : String) (cursor : Nat) (symbol : Symbol) :
    (g.evaluateSymbol call rule cursor (tokens.drop cursor) symbol).Sees tokens := by
  cases symbol with
  | literal text =>
      have here : (tokens.drop cursor).head? = tokens[cursor]? := List.head?_drop
      generalize tokens.drop cursor = rest at here
      cases rest with
      | nil =>
          apply Sees.note_bind _ (.pure none)
          rintro _ ⟨⟩
          exact here
      | cons token rest =>
          by_cases hl : token.lexeme = text
          · simp only [evaluateSymbol, if_pos hl]
            exact .silent_bind rfl (.pure _)
          · simp only [evaluateSymbol, if_neg hl]
            apply Sees.note_bind _ (.pure none)
            rintro _ ⟨⟩
            exact here
  | tokens kind quantifier explicit =>
      by_cases hl : (kindRun kind quantifier (tokens.drop cursor)).length < quantifier.least
      · simp only [evaluateSymbol, if_pos hl]
        apply Sees.note_bind _ (.pure none)
        rintro _ ⟨⟩
        rw [List.drop_drop, List.head?_drop]
      · simp only [evaluateSymbol, if_neg hl]
        exact .silent_bind rfl (.pure _)
  | subrule name => exact g.sees_evaluateReference hc .rules name cursor
  | definition name => exact g.sees_evaluateReference hc .definitions name cursor
  | group alternatives => exact (hc ⟨rule, alternatives⟩ cursor).bind fun result _ => .pure _
  | stray token => exact .fail _

theorem sees_evaluateSymbols (rule : String) (symbols : List Symbol) (cursor : Nat) :
    (g.evaluateSymbols call rule symbols cursor (tokens.drop cursor)).Sees tokens := by
  induction symbols generalizing cursor with
  | nil => exact .pure _
  | cons symbol symbols ih =>
      rw [evaluateSymbols]
      apply Sees.spend_bind
      apply (g.sees_evaluateSymbol hc rule cursor symbol).bind
      intro part _
      cases part with
      | none => exact .pure none
      | some part =>
          have behind := ih (cursor + part.width)
          rw [← List.drop_drop] at behind
          exact behind.bind fun others _ => .pure _

theorem sees_evaluateAlternatives (rule : String) (offset index : Nat) (alternatives : List Alternative) :
    (g.evaluateAlternatives call rule offset (tokens.drop offset) index alternatives).Sees tokens := by
  induction alternatives generalizing index with
  | nil => exact .pure none
  | cons symbols others ih =>
      rw [evaluateAlternatives]
      apply Sees.silent_bind rfl
      apply (g.sees_evaluateSymbols hc rule symbols offset).bind
      intro result _
      cases result with
      | some matched => exact .pure _
      | none => exact .silent_bind rfl (ih (index + 1))

end Call

theorem sees_script (limit depth : Nat) (r : Recognizer) (offset : Nat) :
    (g.script limit depth r offset (tokens.drop offset)).Sees tokens := by
  suffices anywhere : ∀ input, input = tokens.drop offset →
      (g.script limit depth r offset input).Sees tokens from anywhere _ rfl
  intro input here
  induction depth, r, offset, input using evaluate.induct limit with
  | case1 depth r offset input hd =>
      rw [script_eq, if_pos hd]
      exact .fail _
  | case2 depth r offset input hd ih =>
      subst here
      rw [Sees, (g.script_within hd r offset _).1]
      exact g.sees_evaluateAlternatives (fun r offset => ih r offset _ rfl) r.name offset 0 r.alternatives

theorem sees_evaluateRules (limit offset : Nat) (rules : List Recognizer) :
    Sees (g.evaluateRules limit offset (tokens.drop offset) rules) tokens := by
  induction rules with
  | nil => exact .pure none
  | cons r others ih =>
      rw [evaluateRules_cons]
      apply (g.sees_script limit 0 r offset).bind
      intro result _
      cases result with
      | none => exact ih
      | some matched =>
          by_cases hw : matched.width = 0
          · simp only [if_pos hw]
            exact ih
          · simp only [if_neg hw]
            exact .pure _

theorem sees_programScript (limit : Nat) (tokens : List Token) :
    (g.programScript limit 0 tokens).Sees tokens := by
  suffices anywhere : ∀ offset input, input = tokens.drop offset →
      (g.programScript limit offset input).Sees tokens from anywhere 0 tokens rfl
  intro offset input here
  unfold programScript
  induction offset, input using evaluateProgram.induct with
  | case1 offset =>
      rw [evaluateProgram]
      exact .pure _
  | case2 offset token rest ih =>
      have attempts : Sees (g.evaluateRules limit offset (tokens.drop offset) g.rules.reverse) tokens :=
        g.sees_evaluateRules limit offset g.rules.reverse
      rw [← here] at attempts
      rw [evaluateProgram]
      apply attempts.bind
      intro found ho
      rcases found with _ | ⟨r, matched⟩
      · exact .pure _
      · obtain ⟨-, positive, -⟩ := script_of_evaluateRules ho
        have behind : rest.drop (matched.width - 1) = tokens.drop (offset + matched.width) := by
          rw [← List.drop_drop, ← here, List.drop_cons positive]
        apply Sees.silent_bind rfl
        exact (ih matched behind).bind fun others _ => .pure _

end Grammar

namespace Machine

variable {m : Machine σ} {log : σ} {tokens : List Token} {token : Token} {furthest : Option Failure}

/-- A parse that ends with an unexpected token has come to its end, and its furthest failure is in the log. -/
theorem script_of_unexpectedToken
    (h : (m.parse tokens log).outcome = .error (.unexpectedToken token furthest)) :
    (m.parse tokens log).log =
        (m.grammar.programScript m.limits.depth 0 tokens).events.foldl m.observer.note log ∧
      furthest = m.observer.furthest? (m.parse tokens log).log := by
  by_cases hc : (m.grammar.programScript m.limits.depth 0 tokens).cost ≤ m.limits.fuel
  · refine ⟨m.log_parse_of_cost_le log hc, ?_⟩
    rw [m.outcome_parse_of_cost_le log hc] at h
    rcases hs : (m.grammar.programScript m.limits.depth 0 tokens).outcome with
      e | ⟨expressions, _ | stuck⟩
    · rw [hs] at h
      cases h
      rcases Grammar.cause_of_programScript hs with limit | ⟨_, _, _, _, _, faulty⟩
      · cases limit
      · cases faulty
    · rw [hs] at h
      cases h
    · rw [hs] at h
      cases h
      rfl
  · rw [m.outcome_parse_of_lt_cost log (Nat.lt_of_not_le hc)] at h
    cases h

/-- Whatever failed to be there while the tokens are parsed, in the order in which it happened. -/
def missed (m : Machine σ) (tokens : List Token) (log : σ) : List Miss :=
  Event.misses ((m.beside .recording).parse tokens (log, [])).log.2

/-- What is written down beside a parse is what the script does, and the furthest failure sums it up. -/
theorem reports_of_unexpectedToken (tracks : m.observer.TracksFailures)
    (fresh : m.observer.furthest? log = none)
    (h : (m.parse tokens log).outcome = .error (.unexpectedToken token furthest)) :
    m.missed tokens log = (m.grammar.programScript m.limits.depth 0 tokens).misses ∧
      Failure.Reports furthest (m.missed tokens log) := by
  rw [← outcome_parse_beside m .recording tokens (log, [])] at h
  obtain ⟨noted, known⟩ := script_of_unexpectedToken h
  have written : ((m.beside .recording).parse tokens (log, [])).log.2 =
      (m.grammar.programScript m.limits.depth 0 tokens).events := by
    rw [noted]
    exact (Observer.foldl_pair_snd m.observer .recording _ (log, [])).trans (Observer.foldl_recording _ [])
  have same : m.missed tokens log = (m.grammar.programScript m.limits.depth 0 tokens).misses :=
    congrArg Event.misses written
  have tracked := (tracks.pair .recording).foldl
    (m.grammar.programScript m.limits.depth 0 tokens).events (log, [])
  have start : (m.observer.pair .recording).furthest? (log, []) = none := fresh
  rw [start] at tracked
  have sums : furthest = (m.grammar.programScript m.limits.depth 0 tokens).events.foldl Failure.note none := by
    rw [known, noted]
    exact tracked
  rw [sums, same]
  exact ⟨rfl, Failure.reports_foldl_note _⟩

end Machine

theorem nodup_eraseDups (expectations : List Expectation) : expectations.eraseDups.Nodup := by
  induction expectations using List.reverseRecOn with
  | nil => exact List.nodup_nil
  | append_singleton front e ih =>
      rw [eraseDups_concat]
      split
      · exact ih
      · next new =>
          rw [List.nodup_append]
          refine ⟨ih, List.nodup_singleton e, ?_⟩
          rintro a old _ own rfl
          rw [List.mem_singleton.mp own, List.mem_eraseDups] at old
          exact new old

namespace Failure

variable {f : Failure} {misses : List Miss}

theorem Summarizes.max_eq (h : f.Summarizes misses) : (misses.map (·.offset)).max? = some f.offset := by
  obtain ⟨miss, member, here, -⟩ := h.exists_mem
  rw [List.max?_eq_some_iff]
  constructor
  · exact List.mem_map.mpr ⟨miss, member, here⟩
  · intro offset later
    obtain ⟨other, ho, rfl⟩ := List.mem_map.mp later
    exact h.offset_le other ho

/-- As they are described, no two of the expectations are alike, either. -/
theorem Summarizes.nodup_describe (h : f.Summarizes misses) : (f.expected.map (·.describe)).Nodup := by
  rw [h.expected]
  exact (nodup_eraseDups _).map Expectation.describe_injective

end Failure

/-- If a parse ends with an unexpected token, its furthest failure is there unless nothing was missed. It is at
the greatest offset where something was missed, with the rule that was tried when this happened first, and the
token there if there is one. Expected is, once each and in the order in which it failed first there, whatever
was missed there; and distinct expectations are described differently. -/
theorem Machine.furthest_sums_up_missed {m : Machine σ} (tracks : m.observer.TracksFailures) {log : σ}
    (fresh : m.observer.furthest? log = none) {tokens : List Token} {token : Token}
    {furthest : Option Failure}
    (h : (m.parse tokens log).outcome = .error (.unexpectedToken token furthest)) :
    (furthest = none ↔ m.missed tokens log = []) ∧
    (∀ f, furthest = some f →
      ((m.missed tokens log).map (·.offset)).max? = some f.offset ∧
      ((m.missed tokens log).find? (·.offset = f.offset)).map (·.rule) = some f.rule ∧
      f.found = tokens[f.offset]? ∧
      f.expected = Miss.expectedAt f.offset (m.missed tokens log) ∧
      (f.expected.map (·.describe)).Nodup) ∧
    Function.Injective Expectation.describe := by
  obtain ⟨same, sums⟩ := reports_of_unexpectedToken tracks fresh h
  refine ⟨?_, ?_, Expectation.describe_injective⟩
  · cases furthest with
    | none => exact iff_of_true rfl sums
    | some f =>
        have sums : f.Summarizes (m.missed tokens log) := sums
        apply iff_of_false nofun
        intro none
        obtain ⟨miss, member, -⟩ := sums.exists_mem
        rw [none] at member
        cases member
  · rintro f rfl
    have sums : f.Summarizes (m.missed tokens log) := sums
    obtain ⟨first, found, rule, -⟩ := sums.first
    obtain ⟨miss, member, here, token⟩ := sums.exists_mem
    rw [same] at member
    have seen := m.grammar.sees_programScript m.limits.depth tokens miss member
    rw [here, token] at seen
    refine ⟨sums.max_eq, ?_, seen, sums.expected, sums.nodup_describe⟩
    rw [found, Option.map_some, rule]

namespace Brackets

def tracking : Machine (Option Failure) := ⟨grammar, .standard, .ofFailures⟩

/-- Behind a single opening bracket, two expectations fail at the end. -/
theorem furthest_sums_up_opening :
    (some ⟨1, "nest", [.literal "(", .literal ")"], none⟩ = (none : Option Failure) ↔
      tracking.missed [opening 0] none = []) ∧
    ((tracking.missed [opening 0] none).map (·.offset)).max? = some 1 ∧
    ((tracking.missed [opening 0] none).find? (·.offset = 1)).map (·.rule) = some "nest" ∧
    none = [opening 0][1]? ∧
    [.literal "(", .literal ")"] = Miss.expectedAt 1 (tracking.missed [opening 0] none) ∧
    ([Expectation.literal "(", .literal ")"].map (·.describe)).Nodup := by
  have refused : (tracking.parse [opening 0] none).outcome = .error (.unexpectedToken (opening 0)
      (some ⟨1, "nest", [.literal "(", .literal ")"], none⟩)) := by
    with_unfolding_all rfl
  obtain ⟨none, summary, -⟩ := Machine.furthest_sums_up_missed (m := tracking)
    Observer.tracksFailures_ofFailures rfl refused
  exact ⟨none, summary _ rfl⟩

end Brackets

end TokenGrammar
