import TokenGrammar.Proofs.Match.Bill
import TokenGrammar.Proofs.Match.Nesting

/-!
# Traces are well-nested

What a script notes continues a record, and it breaks off only while every open rule has an alternative under
way: fuel and depth are asked for before a rule is entered, and between the failure of an alternative and the next
one nothing is asked for. Main statement: all traces of a run print lines of one well-nested record; it is complete
if every invocation comes to its end, and otherwise it is the beginning of a complete one.
-/
namespace TokenGrammar

namespace Script

variable {α β : Type}

/-- From where a record has come to, the script notes only what may come, and it breaks off only while every open
rule has an alternative under way. What is said holds of its result and of where the record is then. -/
def Continues : Script α → Progress → (α → Progress → Prop) → Prop
  | .pure v, p, goal => goal v p
  | .fail _, p, _ => p.IsRunning
  | .spend rest, p, goal => p.IsRunning ∧ rest.Continues p goal
  | .note e rest, p, goal => ∃ depth q, p.Step ⟨depth, e⟩ q ∧ rest.Continues q goal

variable {s : Script α} {p : Progress}

theorem Continues.bind {f : α → Script β} {mid : α → Progress → Prop} {goal : β → Progress → Prop}
    (h : s.Continues p mid) (hf : ∀ v q, mid v q → (f v).Continues q goal) : (s >>= f).Continues p goal := by
  induction s generalizing p with
  | pure v => exact hf v p h
  | fail e => exact h
  | spend rest ih => exact ⟨h.1, ih h.2⟩
  | note e rest ih =>
      obtain ⟨depth, q, stepped, later⟩ := h
      exact ⟨depth, q, stepped, ih later⟩

/-- However much fuel there is, what a machine is told continues the record. -/
theorem Continues.play {σ : Type} {goal : α → Progress → Prop} (h : s.Continues p goal) (m : Machine σ)
    (fuel : Nat) (log : σ) :
    ∃ entries q, p.Steps entries q ∧
      (s.play m fuel log).log = (entries.map (·.event)).foldl m.observer.note log ∧
      match (s.play m fuel log).outcome with
      | .ok v => goal v q
      | .error _ => q.IsRunning := by
  induction s generalizing p fuel log with
  | pure v => exact ⟨[], p, .nil, rfl, h⟩
  | fail e => exact ⟨[], p, .nil, rfl, h⟩
  | spend rest ih =>
      cases fuel with
      | zero => exact ⟨[], p, .nil, rfl, h.1⟩
      | succ fuel => exact ih h.2 fuel log
  | note e rest ih =>
      obtain ⟨depth, q, stepped, later⟩ := h
      obtain ⟨entries, r, run, told, ends⟩ := ih later fuel (m.observer.note log e)
      exact ⟨⟨depth, e⟩ :: entries, r, .cons stepped run, told, ends⟩

end Script

namespace Grammar

variable (g : Grammar)

section Call

variable {call : Recognizer → Nat → List Token → Script (Option Matched)}
  (hc : ∀ r offset input covered branches, (call r offset input).Continues (.running covered branches)
    fun _ q => q = .running covered branches)

include hc

theorem continues_evaluateReference (space : Namespace) (name : String) (cursor : Nat) (rest : List Token)
    (covered : Nat) (branches : List Branch) :
    (g.evaluateReference call space name cursor rest).Continues (.running covered branches)
      fun _ q => q = .running covered branches := by
  unfold evaluateReference
  cases g.lookup space name with
  | none => exact trivial
  | some r => exact (hc r cursor rest covered branches).bind fun _ _ back => back

theorem continues_evaluateSymbol (rule : String) (cursor : Nat) (rest : List Token) (symbol : Symbol)
    (covered : Nat) (b : Branch) (branches : List Branch) :
    (g.evaluateSymbol call rule cursor rest symbol).Continues (.running covered (b :: branches))
      fun _ q => q = .running covered (b :: branches) := by
  cases symbol with
  | literal text =>
      cases rest with
      | nil => exact ⟨_, _, .trial rfl, rfl⟩
      | cons token rest =>
          rw [evaluateSymbol]
          split
          · exact ⟨_, _, .trial rfl, rfl⟩
          · exact ⟨_, _, .trial rfl, rfl⟩
  | tokens kind quantifier explicit =>
      simp only [evaluateSymbol]
      split
      · exact ⟨_, _, .trial rfl, rfl⟩
      · exact ⟨_, _, .trial rfl, rfl⟩
  | subrule name => exact g.continues_evaluateReference hc .rules name cursor rest covered (b :: branches)
  | definition name =>
      exact g.continues_evaluateReference hc .definitions name cursor rest covered (b :: branches)
  | group alternatives =>
      exact (hc ⟨rule, alternatives⟩ cursor rest covered (b :: branches)).bind fun _ _ back => back
  | stray token => exact trivial

theorem continues_evaluateSymbols (rule : String) (symbols : List Symbol) (cursor : Nat) (rest : List Token)
    (covered : Nat) (b : Branch) (branches : List Branch) :
    (g.evaluateSymbols call rule symbols cursor rest).Continues (.running covered (b :: branches))
      fun _ q => q = .running covered (b :: branches) := by
  induction symbols generalizing cursor rest with
  | nil => exact rfl
  | cons symbol symbols ih =>
      refine ⟨trivial, (g.continues_evaluateSymbol hc rule cursor rest symbol covered b branches).bind ?_⟩
      rintro result _ rfl
      cases result with
      | none => exact rfl
      | some part => exact (ih _ _).bind fun _ _ back => back

/-- When the alternatives have been tried, the rule can be left with what they came to. -/
theorem continues_evaluateAlternatives (rule : String) (offset : Nat) (input : List Token) (index : Nat)
    (alternatives : List Alternative) (covered : Nat) (branches : List Branch) :
    (g.evaluateAlternatives call rule offset input index alternatives).Continues
      (.choosing covered rule index branches) fun result q =>
        q.Step ⟨branches.length, .leave rule (result.map (·.width))⟩ (.running covered branches) := by
  induction alternatives generalizing index with
  | nil => exact .failed
  | cons symbols others ih =>
      refine ⟨_, _, .alternative, (g.continues_evaluateSymbols hc rule symbols offset input covered
        ⟨rule, index⟩ branches).bind ?_⟩
      rintro result _ rfl
      cases result with
      | some matched => exact .matched
      | none => exact ⟨_, _, .backtrack, ih (index + 1)⟩

end Call

theorem continues_script (limit depth : Nat) (r : Recognizer) (offset : Nat) (input : List Token)
    (covered : Nat) (branches : List Branch) :
    (g.script limit depth r offset input).Continues (.running covered branches)
      fun _ q => q = .running covered branches := by
  induction hn : limit - depth generalizing depth r offset input branches covered with
  | zero =>
      rw [script_eq, if_pos (by omega)]
      exact trivial
  | succ n ih =>
      rw [script_eq, if_neg (by omega)]
      refine ⟨trivial, _, _, .enter, (g.continues_evaluateAlternatives ?_ r.name offset input 0 r.alternatives
        covered branches).bind ?_⟩
      · intro r offset input covered branches
        exact ih (depth + 1) r offset input covered branches (by omega)
      · intro result q left
        exact ⟨_, _, left, rfl⟩

theorem continues_evaluateRules (limit offset : Nat) (input : List Token) (rules : List Recognizer)
    (covered : Nat) :
    Script.Continues (g.evaluateRules limit offset input rules) (.running covered [])
      fun _ q => q = .running covered [] := by
  induction rules with
  | nil => exact rfl
  | cons r others ih =>
      rw [evaluateRules_cons]
      apply (g.continues_script limit 0 r offset input covered []).bind
      rintro (_ | matched) _ rfl
      · exact ih
      · by_cases hw : matched.width = 0
        · simp only [if_pos hw]
          exact ih
        · simp only [if_neg hw]
          exact rfl

theorem continues_programScript (limit offset : Nat) (tokens : List Token) :
    (g.programScript limit offset tokens).Continues (.running offset [])
      fun _ q => ∃ covered, q = .running covered [] := by
  unfold programScript
  induction offset, tokens using evaluateProgram.induct with
  | case1 offset =>
      rw [evaluateProgram]
      exact ⟨offset, rfl⟩
  | case2 offset token rest ih =>
      rw [evaluateProgram]
      apply (g.continues_evaluateRules limit offset (token :: rest) g.rules.reverse offset).bind
      rintro (_ | ⟨r, matched⟩) _ rfl
      · exact ⟨offset, rfl⟩
      · exact ⟨_, _, .expression, (ih matched).bind fun _ _ back => back⟩

end Grammar

/-- The lines that traces print of a run, and the record of the run that is behind them. -/
structure Traced (events : List Event) (lines : Verbosity → Palette → List String) (completed : Prop)
    (entries : List Entry) : Prop where
  noted : entries.map (·.event) = events
  printed (v : Verbosity) (p : Palette) : lines v p = (entries.filter (·.isShown v)).map (·.line p)
  /-- So an arrow is indented as far as its counterpart, and what comes in between further. -/
  indented (styled : Bool) : ∀ x ∈ entries, leadingSpaces (x.line (.ofEnabled styled)) = 2 * x.depth
  wellNested : WellNested entries
  complete : completed → Complete entries
  completable : ∃ rest, WellNested (entries ++ rest) ∧ Complete (entries ++ rest)

variable {σ : Type}

theorem Traced.of_steps {entries : List Entry} {q : Progress} (h : Progress.start.Steps entries q)
    (hq : q.IsRunning) {completed : Prop} (hc : completed → ∃ covered, q = .running covered [])
    {lines : Verbosity → Palette → List String}
    (hl : ∀ v p, lines v p = ((entries.map (·.event)).foldl (Trace.note v p) .empty).lines) :
    Traced (entries.map (·.event)) lines completed entries where
  noted := rfl
  printed v p := (hl v p).trans (Trace.lines_foldl_note v p h.layOut?_eq)
  indented styled x _ := x.leadingSpaces_line styled
  wellNested := h.wellNested hq
  complete done := by
    obtain ⟨covered, rfl⟩ := hc done
    exact h.complete
  completable := by
    cases q with
    | choosing => exact hq.elim
    | running covered branches =>
        obtain ⟨rest, left⟩ := Progress.exists_completion covered branches
        exact ⟨rest, (h.append left).wellNested trivial, (h.append left).complete⟩

/-- What is written down of a script that continues an empty record and leaves what it enters. -/
theorem Script.Continues.exists_traced {α : Type} {s : Script α} {goal : α → Progress → Prop}
    (h : s.Continues .start goal) (closes : ∀ v q, goal v q → ∃ covered, q = .running covered [])
    (m : Machine σ) (fuel : Nat) (log : σ) {events : List Event} {completed : Prop}
    {lines : Verbosity → Palette → List String}
    (written : events = (s.play (m.beside .recording) fuel (log, [])).log.2)
    (retold : ∀ v p, lines v p = (events.foldl (Trace.note v p) .empty).lines)
    (ends : completed → ∃ v, (s.play (m.beside .recording) fuel (log, [])).outcome = .ok v) :
    ∃ entries, Traced events lines completed entries := by
  obtain ⟨entries, q, run, told, reached⟩ := h.play (m.beside .recording) fuel (log, [])
  have noted : events = entries.map (·.event) := by
    rw [written, told]
    exact (Observer.foldl_pair_snd m.observer .recording _ _).trans (Observer.foldl_recording _ [])
  subst noted
  cases ho : (s.play (m.beside .recording) fuel (log, [])).outcome with
  | error e =>
      rw [ho] at ends reached
      refine ⟨entries, .of_steps run reached (fun completed => ?_) retold⟩
      obtain ⟨v, ok⟩ := ends completed
      cases ok
  | ok v =>
      rw [ho] at reached
      obtain ⟨covered, rfl⟩ := closes v q reached
      exact ⟨entries, .of_steps run trivial (fun _ => ⟨covered, rfl⟩) retold⟩

namespace Machine

variable (m : Machine σ)

/-- Beside a recorder, all invocations come to their end if they do so without it. -/
theorem completed_beside (invocations : List (Invocation (σ × List Event)))
    (h : ∀ i ∈ invocations.map (·.seen Prod.fst), ∃ result, (m.perform i).outcome = .ok result) :
    ∀ i ∈ invocations, ∃ result, ((m.beside .recording).perform i).outcome = .ok result := by
  intro i member
  obtain ⟨result, ok⟩ := h _ (List.mem_map_of_mem member)
  have seen := invoke_seen (m := m.beside .recording) (m.observer.shows_fst .recording) i.recognizer i.offset
    i.input i.fuel i.log
  exact ⟨result, (congrArg Run.outcome seen).symm.trans ok⟩

/-- The traces of a recognition or a parse, however verbose, print lines of one well-nested record, indented by
their depth: what is entered is left again by the same rule at the same depth, and lines in between stand deeper;
alternatives are numbered in the order in which they are tried, each behind the failure of the one before; and
expressions stand outside of everything, one behind the other from the first token on. The record is complete if
every invocation comes to its end, and the beginning of a complete one otherwise. -/
theorem traces_are_well_nested (tokens : List Token) (log : σ) :
    (∀ space name, ∃ entries,
      Traced ((m.beside .recording).recognize space name tokens (log, [])).log.2
        (fun v p => ((m.beside (.ofTrace v p)).recognize space name tokens (log, .empty)).log.2.lines)
        (∀ i ∈ m.recognizeInvocations space name tokens log, ∃ result, (m.perform i).outcome = .ok result)
        entries) ∧
    ∃ entries, Traced ((m.beside .recording).parse tokens (log, [])).log.2
      (fun v p => ((m.beside (.ofTrace v p)).parse tokens (log, .empty)).log.2.lines)
      (∀ i ∈ m.parseInvocations tokens log, ∃ result, (m.perform i).outcome = .ok result) entries := by
  refine ⟨fun space name => ?_, ?_⟩
  · have retold (v : Verbosity) (p : Palette) :=
      congrArg Trace.lines (m.recognize_retold (.ofTrace v p) space name tokens log .empty)
    cases hr : m.grammar.lookup space name with
    | none =>
        have unknown := recognize_of_no_lookup (m := m.beside .recording) hr tokens (log, [])
        rw [unknown] at retold ⊢
        exact ⟨[], .of_steps .nil trivial (fun _ => ⟨0, rfl⟩) retold⟩
    | some r =>
        have played := recognize_of_lookup (m.beside .recording) hr tokens (log, [])
        apply (m.grammar.continues_script m.limits.depth 0 r 0 tokens 0 []).exists_traced
          (fun _ _ back => ⟨0, back⟩) m m.limits.fuel log (congrArg (fun run => run.log.2) played) retold
        intro completed
        unfold recognizeInvocations at completed
        rw [hr] at completed
        have invoked := m.completed_beside [⟨r, 0, tokens, m.limits.fuel, (log, [])⟩] completed
        obtain ⟨result, ok⟩ := List.forall_mem_singleton.mp invoked
        rw [perform, Script.invoke_eq_play] at ok
        exact ⟨result, ok⟩
  · have retold (v : Verbosity) (p : Palette) :=
      congrArg Trace.lines (m.parse_retold (.ofTrace v p) tokens log .empty)
    have played := (m.beside .recording).parse_eq_report tokens (log, [])
    apply (m.grammar.continues_programScript m.limits.depth 0 tokens).exists_traced (fun _ _ ended => ended) m
      m.limits.fuel log (congrArg (fun run => run.log.2) played) retold
    intro completed
    have seen := programInvocations_seen (m := m.beside .recording) (m.observer.shows_fst .recording) 0
      m.limits.fuel (log, []) tokens
    rw [parseInvocations] at completed
    exact ok_of_programInvocations (m.completed_beside _ (seen ▸ completed))

end Machine

end TokenGrammar
