import Mathlib
import TokenGrammar.Proofs.Grammar.Table
import TokenGrammar.Proofs.Match.Faults

/-!
# What a run misses

Literals and classes that were expected where another token stands, or none. The furthest failure sums up
all of them. An attempt misses something at or behind the place where it starts, and if it does not match,
it misses something; only a recognizer without alternatives fails for nothing.
-/
namespace TokenGrammar

/-- An expectation that failed while a rule was tried. -/
structure Miss where
  rule : String
  expected : Expectation
  offset : Nat
  found : Option Token

/-- What was missed when the event happened, if anything. -/
def Event.miss? : Event → Option Miss
  | .literalFailed rule text offset found => some ⟨rule, .literal text, offset, found⟩
  | .tokensFailed rule kind _ _ offset found => some ⟨rule, .kind kind, offset, found⟩
  | _ => none

def Event.misses (events : List Event) : List Miss := events.filterMap Event.miss?

/-- The place of a miss is in the input that starts at the offset, or right behind it. -/
def Miss.Placed (miss : Miss) (offset : Nat) (input : List Token) : Prop :=
  ∃ k, miss.offset = offset + k ∧ k ≤ input.length ∧ miss.found = input[k]?

/-- What was expected at the offset, each once and in the order of the misses. -/
def Miss.expectedAt (offset : Nat) (misses : List Miss) : List Expectation :=
  ((misses.filter (·.offset = offset)).map (·.expected)).eraseDups

theorem Miss.expectedAt_concat (offset : Nat) (misses : List Miss) (miss : Miss) :
    expectedAt offset (misses ++ [miss]) =
      if offset = miss.offset ∧ miss.expected ∉ expectedAt offset misses then
        expectedAt offset misses ++ [miss.expected]
      else expectedAt offset misses := by
  unfold expectedAt
  by_cases here : offset = miss.offset
  · have own : [miss].filter (·.offset = offset) = [miss] := by simp [here]
    rw [List.filter_append, own, List.map_append, List.map_singleton, eraseDups_concat]
    by_cases known : miss.expected ∈ (misses.filter (·.offset = offset)).map (·.expected)
    · rw [if_pos known, if_neg fun new => new.2 (List.mem_eraseDups.mpr known)]
    · rw [if_neg known, if_pos ⟨here, fun old => known (List.mem_eraseDups.mp old)⟩]
  · have behind : [miss].filter (·.offset = offset) = [] := by simp [Ne.symm here]
    rw [if_neg fun new => here new.1, List.filter_append, behind, List.append_nil]

namespace Failure

/-- The failure is at the greatest offset of the misses, with the rule and the token of the first miss
there, and with what was expected there. -/
structure Summarizes (f : Failure) (misses : List Miss) : Prop where
  offset_le : ∀ miss ∈ misses, miss.offset ≤ f.offset
  first : ∃ miss, misses.find? (·.offset = f.offset) = some miss ∧ miss.rule = f.rule ∧
    miss.found = f.found
  expected : f.expected = Miss.expectedAt f.offset misses

/-- What is known of the misses sums them up; nothing is known if there are none. -/
def Reports : Option Failure → List Miss → Prop
  | none, misses => misses = []
  | some f, misses => f.Summarizes misses

variable {f : Failure} {misses : List Miss} {miss : Miss}

/-- A miss that is ahead of all others is the only one there. -/
theorem summarizes_concat_of_ahead (h : ∀ other ∈ misses, other.offset < miss.offset) :
    Summarizes ⟨miss.offset, miss.rule, [miss.expected], miss.found⟩ (misses ++ [miss]) := by
  have behind (other : Miss) (ho : other ∈ misses) : ¬ other.offset = miss.offset :=
    Nat.ne_of_lt (h other ho)
  have nothing : Miss.expectedAt miss.offset misses = [] := by
    have none : misses.filter (·.offset = miss.offset) = [] :=
      List.filter_eq_nil_iff.mpr fun other ho => by simpa using behind other ho
    rw [Miss.expectedAt, none]
    rfl
  refine ⟨?_, ⟨miss, ?_, rfl, rfl⟩, ?_⟩
  · intro other ho
    rcases List.mem_append.mp ho with older | own
    · exact Nat.le_of_lt (h other older)
    · exact Nat.le_of_eq (congrArg Miss.offset (List.mem_singleton.mp own))
  · have none : misses.find? (·.offset = miss.offset) = none :=
      List.find?_eq_none.mpr fun other ho => by simpa using behind other ho
    rw [List.find?_append, none]
    simp
  · rw [Miss.expectedAt_concat, nothing, if_pos ⟨rfl, List.not_mem_nil⟩, List.nil_append]

/-- A miss that is not ahead may add what was expected. -/
theorem Summarizes.concat (h : f.Summarizes misses) (hm : miss.offset ≤ f.offset) :
    Summarizes { f with expected := Miss.expectedAt f.offset (misses ++ [miss]) }
      (misses ++ [miss]) := by
  obtain ⟨first, found, same⟩ := h.first
  refine ⟨?_, ⟨first, ?_, same⟩, rfl⟩
  · intro other ho
    rcases List.mem_append.mp ho with older | own
    · exact h.offset_le other older
    · rwa [List.mem_singleton.mp own]
  · rw [List.find?_append, found]
    rfl

theorem summarizes_furthest {known : Option Failure} (h : Reports known misses) (miss : Miss) :
    (furthest known miss.rule miss.expected miss.offset miss.found).Summarizes (misses ++ [miss]) := by
  cases known with
  | none =>
      cases h
      exact summarizes_concat_of_ahead nofun
  | some f =>
      have h : f.Summarizes misses := h
      rw [furthest]
      by_cases ahead : f.offset < miss.offset
      · rw [if_pos ahead]
        exact summarizes_concat_of_ahead fun other ho => Nat.lt_of_le_of_lt (h.offset_le other ho) ahead
      · rw [if_neg ahead]
        have more := h.concat (Nat.le_of_not_lt ahead)
        rw [Miss.expectedAt_concat, ← h.expected] at more
        split at more <;> rename_i new
        · rwa [if_pos ⟨new.1.symm, new.2⟩]
        · rwa [if_neg fun new' => new ⟨new'.1.symm, new'.2⟩]

theorem note_eq (known : Option Failure) (e : Event) :
    note known e = match e.miss? with
      | none => known
      | some miss => some (furthest known miss.rule miss.expected miss.offset miss.found) := by
  cases e <;> rfl

/-- The furthest failure of a run sums up what the run misses. -/
theorem reports_foldl_note (events : List Event) :
    Reports (events.foldl note none) (Event.misses events) := by
  induction events using List.reverseRecOn with
  | nil => rfl
  | append_singleton events e ih =>
      rw [List.foldl_append, List.foldl_cons, List.foldl_nil, note_eq, Event.misses,
        List.filterMap_append]
      cases hm : e.miss? with
      | none =>
          have none : [e].filterMap Event.miss? = [] := by simp [hm]
          rw [none, List.append_nil]
          exact ih
      | some miss =>
          have own : [e].filterMap Event.miss? = [miss] := by simp [hm]
          rw [own]
          exact summarizes_furthest ih miss

theorem Summarizes.exists_mem (h : f.Summarizes misses) :
    ∃ miss ∈ misses, miss.offset = f.offset ∧ miss.found = f.found := by
  obtain ⟨miss, found, -, token⟩ := h.first
  have here : miss.offset = f.offset := by simpa using List.find?_some found
  exact ⟨miss, List.mem_of_find?_eq_some found, here, token⟩

theorem Summarizes.expected_ne_nil (h : f.Summarizes misses) : f.expected ≠ [] := by
  obtain ⟨miss, member, here, -⟩ := h.exists_mem
  have own : miss.expected ∈ f.expected := by
    rw [h.expected, Miss.expectedAt, List.mem_eraseDups]
    exact List.mem_map_of_mem (List.mem_filter.mpr ⟨member, by simpa using here⟩)
  exact List.ne_nil_of_mem own

end Failure

namespace Script

variable {α β : Type}

theorem events_bind_of_ok {s : Script α} {v : α} (h : s.outcome = .ok v) (f : α → Script β) :
    (s >>= f).events = s.events ++ (f v).events := by
  induction s with
  | pure w =>
      cases h
      rfl
  | fail e => cases h
  | spend rest ih => exact ih h
  | note e rest ih => exact congrArg (e :: ·) (ih h)

theorem events_bind_of_error {s : Script α} {e : RuntimeError} (h : s.outcome = .error e)
    (f : α → Script β) : (s >>= f).events = s.events := by
  induction s with
  | pure w => cases h
  | fail e => rfl
  | spend rest ih => exact ih h
  | note e rest ih => exact congrArg (e :: ·) (ih h)

/-- What is missed when the script is played to its end. -/
def misses (s : Script α) : List Miss := Event.misses s.events

@[simp] theorem misses_pure (v : α) : (Pure.pure v : Script α).misses = [] := rfl

@[simp] theorem misses_spend_bind (f : Unit → Script β) :
    ((Effects.spend : Script Unit) >>= f).misses = (f ()).misses := rfl

theorem misses_note_bind (e : Event) (f : Unit → Script β) :
    ((Effects.note e : Script Unit) >>= f).misses = e.miss?.toList ++ (f ()).misses := by
  change Event.misses (e :: (f ()).events) = _
  unfold misses Event.misses
  cases hm : e.miss? with
  | none => exact List.filterMap_cons_none hm
  | some miss => exact List.filterMap_cons_some hm

theorem misses_bind_of_ok {s : Script α} {v : α} (h : s.outcome = .ok v) (f : α → Script β) :
    (s >>= f).misses = s.misses ++ (f v).misses := by
  rw [misses, events_bind_of_ok h, Event.misses, List.filterMap_append]
  rfl

theorem misses_bind_of_error {s : Script α} {e : RuntimeError} (h : s.outcome = .error e)
    (f : α → Script β) : (s >>= f).misses = s.misses := by
  rw [misses, events_bind_of_error h]
  rfl

theorem misses_bind_pure (s : Script α) (f : α → β) :
    (s >>= fun v => Pure.pure (f v)).misses = s.misses := by
  cases hs : s.outcome with
  | ok v => rw [misses_bind_of_ok hs, misses_pure, List.append_nil]
  | error e => exact misses_bind_of_error hs _

theorem misses_note {e : Event} (he : e.miss? = none) (s : Script α) :
    ((Effects.note e : Script Unit) >>= fun _ => s).misses = s.misses := by
  rw [misses_note_bind, he]
  rfl

theorem misses_leave {e : α → Event} (he : ∀ v, (e v).miss? = none) (s : Script α) :
    (s >>= fun v => (Effects.note (e v) : Script Unit) >>= fun _ => Pure.pure v).misses = s.misses := by
  cases hs : s.outcome with
  | ok v => rw [misses_bind_of_ok hs, misses_note (he v), misses_pure, List.append_nil]
  | error e => exact misses_bind_of_error hs _

theorem outcome_leave (e : α → Event) (s : Script α) :
    (s >>= fun v => (Effects.note (e v) : Script Unit) >>= fun _ => Pure.pure v).outcome =
      s.outcome := by
  cases hs : s.outcome with
  | ok v => exact outcome_bind_of_ok hs _
  | error e => exact outcome_bind_of_error hs _

/-- What the script misses and what it matches is in the input that starts at the offset. -/
structure Within (s : Script (Option Matched)) (offset : Nat) (input : List Token) : Prop where
  placed : ∀ miss ∈ s.misses, miss.Placed offset input
  width_le : ∀ matched, s.outcome = .ok (some matched) → matched.width ≤ input.length

/-- Moreover, if there is no match, something is missed. -/
structure Tells (s : Script (Option Matched)) (offset : Nat) (input : List Token) : Prop
    extends s.Within offset input where
  missed : s.outcome = .ok none → s.misses ≠ []

end Script

theorem Miss.Placed.of_drop {miss : Miss} {offset width : Nat} {input : List Token}
    (h : miss.Placed (offset + width) (input.drop width)) (hw : width ≤ input.length) :
    miss.Placed offset input := by
  obtain ⟨k, here, inside, found⟩ := h
  refine ⟨width + k, by omega, ?_, ?_⟩
  · rw [List.length_drop] at inside
    omega
  · rw [found, List.getElem?_drop]

namespace Script

variable {α : Type} {s t : Script (Option Matched)} {offset : Nat} {input : List Token}

theorem Within.pure {result : Option Matched}
    (h : ∀ matched, result = some matched → matched.width ≤ input.length) :
    (Pure.pure result : Script (Option Matched)).Within offset input where
  placed := nofun
  width_le matched ho := h matched (Except.ok.inj ho)

theorem outcome_map_eq_none {f : Matched → Matched}
    (h : (s >>= fun result => Pure.pure (result.map f)).outcome = .ok none) :
    s.outcome = .ok none := by
  obtain ⟨result, hs, he⟩ := outcome_bind_eq_ok.mp h
  rwa [Option.map_eq_none_iff.mp (Except.ok.inj he)] at hs

theorem outcome_map_eq_some {f : Matched → Matched} {matched : Matched}
    (h : (s >>= fun result => Pure.pure (result.map f)).outcome = .ok (some matched)) :
    ∃ inner, s.outcome = .ok (some inner) ∧ f inner = matched := by
  obtain ⟨result, hs, he⟩ := outcome_bind_eq_ok.mp h
  obtain ⟨inner, rfl, hf⟩ := Option.map_eq_some_iff.mp (Except.ok.inj he)
  exact ⟨inner, hs, hf⟩

/-- What stands behind a part of a match. -/
theorem Within.behind {part : Matched} (hw : part.width ≤ input.length)
    (h : s.Within (offset + part.width) (input.drop part.width)) :
    (s >>= fun others => Pure.pure (others.map (part ++ ·))).Within offset input where
  placed := by
    rw [misses_bind_pure]
    exact fun miss member => (h.placed miss member).of_drop hw
  width_le := by
    intro matched ho
    obtain ⟨others, hs, rfl⟩ := outcome_map_eq_some ho
    have inside := h.width_le others hs
    rw [List.length_drop] at inside
    change part.width + others.width ≤ input.length
    omega

namespace Tells

/-- A script tells if what it ends in does. -/
theorem bind {r : Script α} {f : α → Script (Option Matched)}
    (hr : ∀ miss ∈ r.misses, miss.Placed offset input)
    (hf : ∀ v, r.outcome = .ok v → (f v).Within offset input ∧
      ((f v).outcome = .ok none → r.misses ++ (f v).misses ≠ [])) :
    (r >>= f).Tells offset input := by
  cases ho : r.outcome with
  | error e =>
      refine ⟨⟨?_, ?_⟩, ?_⟩
      · rwa [misses_bind_of_error ho]
      · rw [outcome_bind_of_error ho]
        exact nofun
      · rw [outcome_bind_of_error ho]
        exact nofun
  | ok v =>
      obtain ⟨within, missed⟩ := hf v ho
      refine ⟨⟨?_, ?_⟩, ?_⟩
      · rw [misses_bind_of_ok ho]
        exact List.forall_mem_append.mpr ⟨hr, within.placed⟩
      · rw [outcome_bind_of_ok ho]
        exact within.width_le
      · rw [outcome_bind_of_ok ho, misses_bind_of_ok ho]
        exact missed

theorem fail (e : RuntimeError) : (Effects.fail e : Script (Option Matched)).Tells offset input where
  placed := nofun
  width_le := nofun
  missed := nofun

theorem of_match {e : Event} (he : e.miss? = none) {matched : Matched}
    (hw : matched.width ≤ input.length) :
    ((Effects.note e : Script Unit) >>= fun _ => Pure.pure (some matched)).Tells offset input where
  placed := by
    rw [misses_note_bind, he]
    exact nofun
  width_le := by
    rintro _ ⟨⟩
    exact hw
  missed := nofun

theorem of_miss {e : Event} {miss : Miss} (he : e.miss? = some miss) (hp : miss.Placed offset input) :
    ((Effects.note e : Script Unit) >>= fun _ => Pure.pure none).Tells offset input := by
  have only : ((Effects.note e : Script Unit) >>= fun _ =>
      (Pure.pure none : Script (Option Matched))).misses = [miss] := by
    rw [misses_note_bind, he]
    rfl
  refine ⟨⟨?_, nofun⟩, ?_⟩
  · rw [only]
    exact List.forall_mem_singleton.mpr hp
  · rw [only]
    exact fun _ => List.cons_ne_nil miss []

theorem below (h : s.Tells offset input) (label : Option String) :
    (s >>= fun result => Pure.pure (result.map (.below label))).Tells offset input := by
  refine .bind h.placed fun result ho => ⟨.pure ?_, ?_⟩
  · intro matched hm
    obtain ⟨inner, rfl, rfl⟩ := Option.map_eq_some_iff.mp hm
    exact h.width_le inner ho
  · intro hn
    cases Option.map_eq_none_iff.mp (Except.ok.inj hn)
    exact List.append_ne_nil_of_left_ne_nil (h.missed ho) _

/-- A symbol, and others where it stopped. -/
theorem next (h : s.Tells offset input) {f : Matched → Script (Option Matched)}
    (hf : ∀ part, s.outcome = .ok (some part) →
      (f part).Tells (offset + part.width) (input.drop part.width)) :
    (s >>= fun part => match part with
      | none => Pure.pure none
      | some part => f part >>= fun others => Pure.pure (others.map (part ++ ·))).Tells
        offset input := by
  refine .bind h.placed fun part ho => ?_
  cases part with
  | none => exact ⟨.pure nofun, fun _ => List.append_ne_nil_of_left_ne_nil (h.missed ho) _⟩
  | some part =>
      have others := hf part ho
      refine ⟨.behind (h.width_le part ho) others.toWithin, fun hn => ?_⟩
      refine List.append_ne_nil_of_right_ne_nil _ ?_
      simp only [misses_bind_pure]
      exact others.missed (outcome_map_eq_none hn)

/-- An alternative, and others if it fails. -/
theorem orElse (h : s.Tells offset input) (ht : t.Within offset input) {e : Event}
    (he : e.miss? = none) :
    (s >>= fun result => match result with
      | some matched => Pure.pure (some matched)
      | none => (Effects.note e : Script Unit) >>= fun _ => t).Tells offset input := by
  refine .bind h.placed fun result ho => ?_
  cases result with
  | some matched =>
      refine ⟨.pure ?_, nofun⟩
      rintro _ ⟨⟩
      exact h.width_le matched ho
  | none =>
      refine ⟨⟨?_, ht.width_le⟩, fun _ => List.append_ne_nil_of_left_ne_nil (h.missed ho) _⟩
      rw [misses_note_bind, he]
      exact ht.placed

theorem congr (h : s.Tells offset input) (hm : t.misses = s.misses) (ho : t.outcome = s.outcome) :
    t.Tells offset input := by
  refine ⟨⟨?_, ?_⟩, ?_⟩
  · rw [hm]
    exact h.placed
  · rw [ho]
    exact h.width_le
  · rw [hm, ho]
    exact h.missed

end Tells

end Script

/-- Neither these alternatives nor those of a group at any depth are none. -/
def Filled (alternatives : List Alternative) : Prop :=
  alternatives ≠ [] ∧ ∀ inner, Occurs (.group inner) alternatives → inner ≠ []

theorem Filled.group {alternatives inner : List Alternative} {symbols : Alternative}
    (h : Filled alternatives) (ha : symbols ∈ alternatives) (hg : .group inner ∈ symbols) :
    Filled inner :=
  ⟨h.2 inner (.of_mem ha hg), fun deeper ho => h.2 deeper (ho.of_group ha hg)⟩

namespace Grammar

variable {g : Grammar} (stored : ∀ n, ∀ r ∈ g.table n, Filled r.alternatives)

include stored

section Call

variable {call : Recognizer → Nat → List Token → Script (Option Matched)}
  (hc : ∀ r offset input, Filled r.alternatives → (call r offset input).Tells offset input)

include hc

theorem tells_evaluateReference (space : Namespace) (name : String) (cursor : Nat)
    (rest : List Token) : (g.evaluateReference call space name cursor rest).Tells cursor rest := by
  unfold evaluateReference
  cases hl : g.lookup space name with
  | none => exact .fail _
  | some r => exact (hc r cursor rest (stored space r (mem_table_of_lookup hl))).below _

theorem tells_evaluateSymbol (rule : String) (cursor : Nat) (rest : List Token) {symbol : Symbol}
    (groups : ∀ inner, symbol = .group inner → Filled inner) :
    (g.evaluateSymbol call rule cursor rest symbol).Tells cursor rest := by
  cases symbol with
  | literal text =>
      cases rest with
      | nil => exact .of_miss rfl ⟨0, rfl, Nat.le_refl 0, rfl⟩
      | cons token rest =>
          by_cases hl : token.lexeme = text
          · simp only [evaluateSymbol, if_pos hl]
            exact .of_match rfl (Nat.succ_le_succ (Nat.zero_le _))
          · simp only [evaluateSymbol, if_neg hl]
            exact .of_miss rfl ⟨0, rfl, Nat.zero_le _, rfl⟩
  | tokens kind quantifier explicit =>
      have inside := (isKindRun_kindRun kind quantifier rest).front.length_le
      by_cases hl : (kindRun kind quantifier rest).length < quantifier.least
      · simp only [evaluateSymbol, if_pos hl]
        exact .of_miss rfl ⟨_, rfl, inside, List.head?_drop⟩
      · simp only [evaluateSymbol, if_neg hl]
        exact .of_match rfl inside
  | subrule name => exact tells_evaluateReference stored hc .rules name cursor rest
  | definition name => exact tells_evaluateReference stored hc .definitions name cursor rest
  | group alternatives => exact (hc ⟨rule, alternatives⟩ cursor rest (groups _ rfl)).below none
  | stray token => exact .fail _

theorem tells_evaluateSymbols (rule : String) {symbols : List Symbol}
    (groups : ∀ inner, .group inner ∈ symbols → Filled inner) (cursor : Nat) (rest : List Token) :
    (g.evaluateSymbols call rule symbols cursor rest).Tells cursor rest := by
  induction symbols generalizing cursor rest with
  | nil =>
      refine ⟨.pure ?_, nofun⟩
      rintro _ ⟨⟩
      exact Nat.zero_le _
  | cons symbol symbols ih =>
      have first : (g.evaluateSymbol call rule cursor rest symbol).Tells cursor rest :=
        tells_evaluateSymbol stored hc rule cursor rest
          fun inner same => groups inner (same ▸ List.mem_cons_self)
      have all := first.next fun part _ =>
        ih (fun inner member => groups inner (List.mem_cons_of_mem symbol member)) _ _
      exact all.congr rfl rfl

theorem tells_evaluateAlternatives (rule : String) (offset : Nat) (input : List Token)
    {symbols : Alternative} {others : List Alternative}
    (groups : ∀ own ∈ symbols :: others, ∀ inner, .group inner ∈ own → Filled inner) (index : Nat) :
    (g.evaluateAlternatives call rule offset input index (symbols :: others)).Tells offset input := by
  induction others generalizing symbols index with
  | nil =>
      have first := tells_evaluateSymbols stored hc rule (groups symbols List.mem_cons_self) offset input
      have later : (g.evaluateAlternatives call rule offset input (index + 1) []).Within offset input :=
        .pure nofun
      exact (first.orElse later rfl).congr (Script.misses_note rfl _) rfl
  | cons other others ih =>
      have first := tells_evaluateSymbols stored hc rule (groups symbols List.mem_cons_self) offset input
      have later := ih (fun own member => groups own (List.mem_cons_of_mem symbols member)) (index + 1)
      exact (first.orElse later.toWithin rfl).congr (Script.misses_note rfl _) rfl

end Call

omit stored

/-- Within the depth limit, a recognizer misses and matches what its alternatives do. -/
theorem script_within {limit depth : Nat} (hd : ¬ limit ≤ depth) (r : Recognizer) (offset : Nat)
    (input : List Token) :
    (g.script limit depth r offset input).misses =
      (g.evaluateAlternatives (g.script limit (depth + 1)) r.name offset input 0
        r.alternatives).misses ∧
    (g.script limit depth r offset input).outcome =
      (g.evaluateAlternatives (g.script limit (depth + 1)) r.name offset input 0
        r.alternatives).outcome := by
  rw [script_eq, if_neg hd, Script.misses_spend_bind, Script.misses_note rfl,
    Script.misses_leave fun _ => rfl]
  exact ⟨rfl, Script.outcome_leave _ _⟩

include stored

/-- What an attempt misses is in its input or at the end of it, and it fails for what it misses. -/
theorem tells_script (limit depth : Nat) (r : Recognizer) (offset : Nat) (input : List Token)
    (filled : Filled r.alternatives) : (g.script limit depth r offset input).Tells offset input := by
  induction depth, r, offset, input using evaluate.induct limit with
  | case1 depth r offset input hd =>
      rw [script_eq, if_pos hd]
      exact .fail _
  | case2 depth r offset input hd ih =>
      obtain ⟨misses, outcome⟩ := g.script_within hd r offset input
      obtain ⟨symbols, others, some⟩ := List.exists_cons_of_ne_nil filled.1
      have body := tells_evaluateAlternatives stored ih r.name offset input
        (fun own member inner hg => filled.group (some ▸ member) hg) 0
      rw [← some] at body
      exact body.congr misses outcome

end Grammar

end TokenGrammar
