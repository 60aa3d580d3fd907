import TokenGrammar.Proofs.Match.Validity

/-!
# What a run can reach

A run looks a name up when it comes to it, in the namespace of its reference. So grammars that say the same
of every name that references lead to run alike. Whatever else they declare, under a name that nothing leads
to or under a known one in another namespace, is never looked at; ignorations never are.
-/
namespace TokenGrammar

namespace Grammar

/-- References lead from the alternatives to the name: one stands in them, at any depth, or in what another
such name stands for. -/
inductive Reaches (g : Grammar) : List Alternative → Namespace → String → Prop
  | subrule {alternatives : List Alternative} {name : String} :
      Occurs (.subrule name) alternatives → Reaches g alternatives .rules name
  | definition {alternatives : List Alternative} {name : String} :
      Occurs (.definition name) alternatives → Reaches g alternatives .definitions name
  | through {alternatives : List Alternative} {space space' : Namespace} {name name' : String}
      {r : Recognizer} : Reaches g alternatives space name → g.lookup space name = some r →
      Reaches g r.alternatives space' name' → Reaches g alternatives space' name'

/-- Every name that is reached stands for the same recognizer in both grammars, or for nothing in both. -/
def AgreesOn (g g' : Grammar) (alternatives : List Alternative) : Prop :=
  ∀ space name, g.Reaches alternatives space name → g.lookup space name = g'.lookup space name

variable {g g' : Grammar}

theorem Reaches.mono {alternatives others : List Alternative} {space : Namespace} {name : String}
    (h : g.Reaches alternatives space name)
    (hm : ∀ symbol, Occurs symbol alternatives → Occurs symbol others) :
    g.Reaches others space name := by
  induction h with
  | subrule ho => exact .subrule (hm _ ho)
  | definition ho => exact .definition (hm _ ho)
  | through _ hl later first => exact .through (first hm) hl later

/-- No reference leads to an ignoration. -/
theorem Reaches.ne_ignorations {alternatives : List Alternative} {space : Namespace} {name : String}
    (h : g.Reaches alternatives space name) : space ≠ .ignorations := by
  induction h with
  | subrule _ => exact nofun
  | definition _ => exact nofun
  | through _ _ _ _ later => exact later

namespace AgreesOn

variable {alternatives others : List Alternative}

theorem mono (h : g.AgreesOn g' others)
    (hm : ∀ symbol, Occurs symbol alternatives → Occurs symbol others) : g.AgreesOn g' alternatives :=
  fun space name reached => h space name (reached.mono hm)

/-- Grammars that agree on a recognizer agree on those that it leads to. -/
theorem reached (h : g.AgreesOn g' alternatives) {space : Namespace} {name : String} {r : Recognizer}
    (hr : g.Reaches alternatives space name) (hl : g.lookup space name = some r) :
    g.AgreesOn g' r.alternatives :=
  fun _ _ further => h _ _ (.through hr hl further)

end AgreesOn

variable {M : Type → Type} [Effects M]

section Call

variable {call call' : Recognizer → Nat → List Token → M (Option Matched)}
  (hc : ∀ r offset input, g.AgreesOn g' r.alternatives → call r offset input = call' r offset input)

include hc

theorem evaluateReference_eq {alternatives : List Alternative} {space : Namespace} {name : String}
    (h : g.AgreesOn g' alternatives) (hr : g.Reaches alternatives space name) (cursor : Nat)
    (rest : List Token) :
    g.evaluateReference call space name cursor rest =
      g'.evaluateReference call' space name cursor rest := by
  unfold evaluateReference
  rw [← h space name hr]
  cases hl : g.lookup space name with
  | none => rfl
  | some r => simp only [hc r cursor rest (h.reached hr hl)]

theorem evaluateSymbol_eq {symbol : Symbol} (h : g.AgreesOn g' [[symbol]]) (rule : String)
    (cursor : Nat) (rest : List Token) :
    g.evaluateSymbol call rule cursor rest symbol =
      g'.evaluateSymbol call' rule cursor rest symbol := by
  have own : Occurs symbol [[symbol]] := .of_mem List.mem_cons_self List.mem_cons_self
  cases symbol with
  | literal text => rfl
  | tokens kind quantifier explicit => rfl
  | subrule name => exact evaluateReference_eq hc h (.subrule own) cursor rest
  | definition name => exact evaluateReference_eq hc h (.definition own) cursor rest
  | group alternatives =>
      have inner : g.AgreesOn g' alternatives :=
        h.mono fun _ ho => ho.of_group List.mem_cons_self List.mem_cons_self
      simp only [evaluateSymbol, hc ⟨rule, alternatives⟩ cursor rest inner]
  | stray token => rfl

theorem evaluateSymbols_eq {symbols : List Symbol} (h : g.AgreesOn g' [symbols]) (rule : String)
    (cursor : Nat) (rest : List Token) :
    g.evaluateSymbols call rule symbols cursor rest =
      g'.evaluateSymbols call' rule symbols cursor rest := by
  induction symbols generalizing cursor rest with
  | nil => rfl
  | cons symbol symbols ih =>
      have first : g.AgreesOn g' [[symbol]] := h.mono fun _ ho =>
        ho.of_part List.mem_cons_self (List.cons_subset_cons symbol (List.nil_subset symbols))
      have others : g.AgreesOn g' [symbols] := h.mono fun _ ho =>
        ho.of_part List.mem_cons_self (List.subset_cons_self symbol symbols)
      simp only [evaluateSymbols, evaluateSymbol_eq hc first, ih others]

theorem evaluateAlternatives_eq {alternatives : List Alternative} (h : g.AgreesOn g' alternatives)
    (rule : String) (offset : Nat) (input : List Token) (index : Nat) :
    g.evaluateAlternatives call rule offset input index alternatives =
      g'.evaluateAlternatives call' rule offset input index alternatives := by
  induction alternatives generalizing index with
  | nil => rfl
  | cons symbols others ih =>
      have first : g.AgreesOn g' [symbols] := h.mono fun _ ho =>
        ho.of_part List.mem_cons_self (List.Subset.refl symbols)
      have later : g.AgreesOn g' others := h.mono fun _ ho =>
        ho.mono fun other member s hs => ⟨other, List.mem_cons_of_mem symbols member, hs⟩
      simp only [evaluateAlternatives, evaluateSymbols_eq hc first, ih later]

end Call

/-- What a recognizer evaluates to depends on the names that it can reach only. -/
theorem evaluate_eq (limit depth : Nat) (r : Recognizer) (offset : Nat) (input : List Token)
    (h : g.AgreesOn g' r.alternatives) :
    (g.evaluate limit depth r offset input : M (Option Matched)) =
      g'.evaluate limit depth r offset input := by
  induction depth, r, offset, input using evaluate.induct limit with
  | case1 depth r offset input hd => rw [evaluate, evaluate, if_pos hd, if_pos hd]
  | case2 depth r offset input hd ih =>
      rw [evaluate, evaluate, if_neg hd, if_neg hd]
      rw [evaluateAlternatives_eq ih h]

theorem evaluateRules_eq (limit offset : Nat) (input : List Token) {rules : List Recognizer}
    (h : ∀ r ∈ rules, g.AgreesOn g' r.alternatives) :
    (g.evaluateRules limit offset input rules : M (Option (Recognizer × Matched))) =
      g'.evaluateRules limit offset input rules := by
  induction rules with
  | nil => rfl
  | cons r others ih =>
      have later := ih fun s member => h s (List.mem_cons_of_mem r member)
      simp only [evaluateRules, evaluate_eq limit 0 r offset input (h r List.mem_cons_self), later]

theorem evaluateProgram_eq (limit offset : Nat) (tokens : List Token) (same : g.rules = g'.rules)
    (h : ∀ r ∈ g.rules, g.AgreesOn g' r.alternatives) :
    (g.evaluateProgram limit offset tokens : M (List Subtree × Option Token)) =
      g'.evaluateProgram limit offset tokens := by
  induction offset, tokens using evaluateProgram.induct with
  | case1 offset => rw [evaluateProgram, evaluateProgram]
  | case2 offset token rest ih =>
      have rules : ∀ r ∈ g.rules.reverse, g.AgreesOn g' r.alternatives :=
        fun r member => h r (List.mem_reverse.mp member)
      rw [evaluateProgram, evaluateProgram, evaluateRules_eq limit offset (token :: rest) rules, same]
      simp only [ih]

end Grammar

namespace Machine

variable {σ α : Type}

/-- The machine with another grammar. -/
def on (m : Machine σ) (g : Grammar) : Machine σ := { m with grammar := g }

/-- A script is played the same whatever grammar it comes of. -/
theorem play_on (m : Machine σ) (g : Grammar) (s : Script α) (fuel : Nat) (log : σ) :
    s.play (m.on g) fuel log = s.play m fuel log := by
  induction s generalizing fuel log with
  | pure v => rfl
  | fail e => rfl
  | spend rest ih =>
      cases fuel with
      | zero => rfl
      | succ fuel => exact ih fuel log
  | note e rest ih => exact ih fuel _

theorem recognize_on {m : Machine σ} {g : Grammar} {space : Namespace} {name : String}
    (same : m.grammar.lookup space name = g.lookup space name)
    (h : ∀ r, m.grammar.lookup space name = some r → m.grammar.AgreesOn g r.alternatives)
    (tokens : List Token) (log : σ) :
    (m.on g).recognize space name tokens log = m.recognize space name tokens log := by
  cases hr : m.grammar.lookup space name with
  | none =>
      have hr' : (m.on g).grammar.lookup space name = none := same.symm.trans hr
      rw [recognize, recognize, hr, hr']
      rfl
  | some r =>
      have hr' : (m.on g).grammar.lookup space name = some r := same.symm.trans hr
      have script : g.script m.limits.depth 0 r 0 tokens =
          m.grammar.script m.limits.depth 0 r 0 tokens :=
        (Grammar.evaluate_eq m.limits.depth 0 r 0 tokens (h r hr)).symm
      rw [recognize_of_lookup _ hr, recognize_of_lookup _ hr', play_on]
      exact congrArg (fun s => Script.play m s m.limits.fuel log) script

theorem parse_on {m : Machine σ} {g : Grammar} (same : m.grammar.rules = g.rules)
    (h : ∀ r ∈ m.grammar.rules, m.grammar.AgreesOn g r.alternatives) (tokens : List Token) (log : σ) :
    (m.on g).parse tokens log = m.parse tokens log := by
  have script : g.programScript m.limits.depth 0 tokens =
      m.grammar.programScript m.limits.depth 0 tokens :=
    (Grammar.evaluateProgram_eq m.limits.depth 0 tokens same h).symm
  rw [parse_eq_report, parse_eq_report, play_on]
  exact congrArg (fun s => m.report [] (Script.play m s m.limits.fuel log)) script

/-- With the same rules, it is enough to agree on the definitions that these lead to. -/
theorem agreesOn_of_definitions {g g' : Grammar} (same : g.rules = g'.rules)
    (h : ∀ r ∈ g.rules, ∀ name, g.Reaches r.alternatives .definitions name →
      g.lookup .definitions name = g'.lookup .definitions name) :
    ∀ r ∈ g.rules, g.AgreesOn g' r.alternatives := by
  intro r hr space name reached
  cases space with
  | ignorations => exact absurd rfl reached.ne_ignorations
  | definitions => exact h r hr name reached
  | rules => exact congrArg (fun rules => Table.find? rules name) same

/-- A run depends only on the recognizers that it can reach. Recognizing one comes to the same under
grammars that agree on it and on every name that it reaches, and so does parsing under grammars with the
same rules that agree on every definition that these reach. So neither ignorations nor definitions that are
not reached influence a parse. -/
theorem depends_on_reachable (m : Machine σ) (tokens : List Token) (log : σ) :
    (∀ (g : Grammar) (space : Namespace) (name : String),
      m.grammar.lookup space name = g.lookup space name →
      (∀ r, m.grammar.lookup space name = some r → m.grammar.AgreesOn g r.alternatives) →
      (m.on g).recognize space name tokens log = m.recognize space name tokens log) ∧
    (∀ g : Grammar, m.grammar.rules = g.rules →
      (∀ r ∈ m.grammar.rules, ∀ name, m.grammar.Reaches r.alternatives .definitions name →
        m.grammar.lookup .definitions name = g.lookup .definitions name) →
      (m.on g).parse tokens log = m.parse tokens log) ∧
    ∀ ignorations definitions : Table,
      (∀ r ∈ m.grammar.rules, ∀ name, m.grammar.Reaches r.alternatives .definitions name →
        m.grammar.lookup .definitions name = definitions.find? name) →
      (m.on { m.grammar with ignorations, definitions }).parse tokens log = m.parse tokens log := by
  refine ⟨?_, ?_, ?_⟩
  · intro g space name same h
    exact recognize_on same h tokens log
  · intro g same h
    exact parse_on same (agreesOn_of_definitions same h) tokens log
  · intro ignorations definitions h
    let g : Grammar := { m.grammar with ignorations, definitions }
    have agree : ∀ r ∈ m.grammar.rules, m.grammar.AgreesOn g r.alternatives :=
      agreesOn_of_definitions rfl h
    exact parse_on (g := g) rfl agree tokens log

end Machine

namespace Brackets

/-- The same rule among other recognizers, two of them under its name. -/
def crowded : Grammar :=
  ⟨[⟨"nest", [[.literal "["]]⟩], [⟨"nest", [[.literal "]"]]⟩, ⟨"pair", [[.subrule "gone"]]⟩],
    grammar.rules, []⟩

theorem space_of_reaches {alternatives : List Alternative} {space : Namespace} {name : String}
    (h : grammar.Reaches alternatives space name)
    (hd : ∀ name, ¬ Occurs (.definition name) alternatives) : space = .rules := by
  induction h with
  | subrule _ => rfl
  | definition ho => exact absurd ho (hd _)
  | through _ hl _ _ later =>
      have stored := Grammar.mem_table_of_lookup hl
      exact later fun name ho => (closed _ _ stored).2 name ho rfl

theorem depends_on_reachable_crowded :
    (((machine .standard).on crowded).recognize .rules "nest" tokens ()).outcome =
      .ok (some (pair 0)) ∧
    (((machine .standard).on crowded).parse tokens ()).outcome =
      .ok ⟨[(pair 0).expression "nest", (pair 2).expression "nest"]⟩ ∧
    ((machine .standard).on { grammar with definitions := crowded.definitions }).parse tokens () =
      (machine .standard).parse tokens () := by
  have parsed : ((machine .standard).parse tokens ()).outcome =
      .ok ⟨[(pair 0).expression "nest", (pair 2).expression "nest"]⟩ := by with_unfolding_all rfl
  have recognized : ((machine .standard).recognize .rules "nest" tokens ()).outcome =
      .ok (some (pair 0)) := by with_unfolding_all rfl
  have reached (r : Recognizer) (hr : r ∈ grammar.rules) {space : Namespace} {name : String}
      (h : grammar.Reaches r.alternatives space name) : space = .rules :=
    space_of_reaches h fun name ho => (closed .rules r hr).2 name ho rfl
  obtain ⟨recognition, parsing, definitions⟩ :=
    Machine.depends_on_reachable (machine .standard) tokens ()
  refine ⟨?_, ?_, ?_⟩
  · refine (congrArg Run.outcome (recognition crowded .rules "nest" rfl ?_)).trans recognized
    intro r hl space name h
    rw [reached r (Grammar.mem_table_of_lookup hl) h]
    rfl
  · refine (congrArg Run.outcome (parsing crowded rfl ?_)).trans parsed
    intro r hr name h
    cases reached r hr h
  · refine definitions [] crowded.definitions ?_
    intro r hr name h
    cases reached r hr h

end Brackets

end TokenGrammar
