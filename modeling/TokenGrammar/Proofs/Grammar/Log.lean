import Mathlib
import TokenGrammar.Proofs.Grammar.Table

/-!
# Grammars as logs of their declarations

Lines are declared one after the other; some compile and some do not. Main statement: what the tables
hold in the end is told by the log of the lines that compiled. Every name stands where it was declared
first and leads to what it was declared as last, and a line that does not compile leaves no trace.
-/
namespace TokenGrammar

/-- What a line that compiles declares. -/
structure Declared where
  space : Namespace
  recognizer : Recognizer
  warnings : List Diagnostic

namespace Attempt

/-- What the line compiles to. The grammar has no say in it. -/
def compiled (a : Attempt) : Compiled Recognizer := Recognizer.ofLine a.origin a.line

def declared? (a : Attempt) : Option Declared :=
  match a.compiled.result with
  | .error _ => none
  | .ok r => some ⟨a.space, r, a.compiled.warnings⟩

/-- The log of the attempts that succeed. -/
def log (attempts : List Attempt) : List Declared := attempts.filterMap declared?

end Attempt

/-- The recognizers that a log declares in one namespace, with repeated names. -/
def declaredIn (n : Namespace) (log : List Declared) : List Recognizer :=
  (log.filter (·.space = n)).map (·.recognizer)

namespace Table

theorem find?_insert (t : Table) (r : Recognizer) (name : String) :
    (t.insert r).find? name = if r.name = name then some r else t.find? name := by
  induction t with
  | nil => by_cases hr : r.name = name <;> simp [insert, find?, hr]
  | cons s rest ih =>
      unfold find? at ih ⊢
      by_cases hs : s.name = r.name
      · rw [insert, if_pos hs]
        by_cases hr : r.name = name <;> simp [hs, hr]
      · rw [insert, if_neg hs]
        by_cases hn : s.name = name
        · have other : r.name ≠ name := fun same => hs (hn.trans same.symm)
          simp [hn, other]
        · rw [List.find?_cons_of_neg (by simpa using hn), List.find?_cons_of_neg (by simpa using hn), ih]

/-- The names of a table are those that were inserted, each where it came first. -/
theorem names_foldl_insert (rs : List Recognizer) :
    names (rs.foldl insert []) = (rs.map (·.name)).eraseDups := by
  induction rs using List.reverseRecOn with
  | nil => rfl
  | append_singleton rs r ih =>
      rw [List.foldl_append, List.foldl_cons, List.foldl_nil, names_insert, ih, List.map_append]
      simp only [List.mem_eraseDups]
      exact (eraseDups_concat _ r.name).symm

/-- A name leads to the last of the recognizers that were inserted under it. -/
theorem find?_foldl_insert (rs : List Recognizer) (name : String) :
    find? (rs.foldl insert []) name = rs.reverse.find? (·.name = name) := by
  induction rs using List.reverseRecOn with
  | nil => rfl
  | append_singleton rs r ih =>
      rw [List.foldl_append, List.foldl_cons, List.foldl_nil, find?_insert, ih, List.reverse_append,
        List.reverse_singleton, List.singleton_append]
      by_cases hr : r.name = name <;> simp [hr]

end Table

namespace Grammar

def ofAttempts (attempts : List Attempt) : Grammar :=
  attempts.foldl (fun g a => (g.attempt a).2) .empty

/-- The grammar with one more entry of the log. -/
def record (g : Grammar) (d : Declared) : Grammar :=
  { g with warnings := g.warnings ++ d.warnings }.setTable d.space
    ((g.table d.space).insert d.recognizer)

variable (g : Grammar)

theorem table_record (d : Declared) (n : Namespace) :
    (g.record d).table n = if d.space = n then (g.table n).insert d.recognizer else g.table n := by
  rw [record, table_setTable]
  split
  · next same => rw [same]
  · cases n <;> rfl

theorem warnings_record (d : Declared) : (g.record d).warnings = g.warnings ++ d.warnings := by
  unfold record
  cases d.space <;> rfl

/-- An attempt answers what its line compiles to. It is recorded if that is a recognizer, and otherwise
it changes nothing. -/
theorem attempt_eq (a : Attempt) :
    g.attempt a = (a.compiled.result, a.declared?.elim g g.record) := by
  simp only [attempt, define, Attempt.declared?, Attempt.compiled]
  cases (Recognizer.ofLine a.origin a.line).result with
  | error e => rfl
  | ok r => cases a.space <;> rfl

theorem ofAttempts_eq (attempts : List Attempt) :
    ofAttempts attempts = (Attempt.log attempts).foldl record .empty := by
  unfold ofAttempts Attempt.log
  generalize empty = g
  induction attempts generalizing g with
  | nil => rfl
  | cons a rest ih =>
      rw [List.foldl_cons, ih, attempt_eq, List.filterMap_cons]
      cases a.declared? <;> rfl

theorem table_foldl_record (log : List Declared) (n : Namespace) :
    (log.foldl record g).table n = (declaredIn n log).foldl Table.insert (g.table n) := by
  induction log generalizing g with
  | nil => rfl
  | cons d rest ih =>
      rw [List.foldl_cons, ih, table_record, declaredIn, declaredIn, List.filter_cons]
      by_cases own : d.space = n <;> simp [own]

theorem warnings_foldl_record (log : List Declared) :
    (log.foldl record g).warnings = g.warnings ++ log.flatMap (·.warnings) := by
  induction log generalizing g with
  | nil => exact (List.append_nil _).symm
  | cons d rest ih =>
      rw [List.foldl_cons, ih, warnings_record, List.append_assoc, List.flatMap_cons]

theorem table_ofAttempts (attempts : List Attempt) (n : Namespace) :
    (ofAttempts attempts).table n =
      (declaredIn n (Attempt.log attempts)).foldl Table.insert [] := by
  rw [ofAttempts_eq, table_foldl_record]
  cases n <;> rfl

theorem Defined.attempt {g : Grammar} (h : g.Defined) (a : Attempt) : (g.attempt a).2.Defined := by
  unfold Grammar.attempt
  split
  · exact h
  · next declared => exact h.define declared

theorem defined_ofAttempts (attempts : List Attempt) : (ofAttempts attempts).Defined := by
  unfold ofAttempts
  suffices run : ∀ g : Grammar, g.Defined →
      (attempts.foldl (fun g a => (g.attempt a).2) g).Defined from run .empty .empty
  induction attempts with
  | nil => exact fun _ h => h
  | cons a rest ih => exact fun g h => ih _ (h.attempt a)

/-- A grammar is the log of the attempts that succeeded: names in the order in which they were declared
first, each leading to what it was declared as last, and the warnings of all entries. A further attempt, in any
grammar, answers what its line compiles to and changes no other namespace; one that fails changes nothing,
whatever its line was warned of before. -/
theorem tables_of_attempts (attempts : List Attempt) :
    (∀ n, ((ofAttempts attempts).table n).names =
      ((declaredIn n (Attempt.log attempts)).map (·.name)).eraseDups) ∧
    (∀ n name, (ofAttempts attempts).lookup n name =
      (declaredIn n (Attempt.log attempts)).reverse.find? (·.name = name)) ∧
    (∀ n, ∀ r ∈ (ofAttempts attempts).table n, (ofAttempts attempts).lookup n r.name = some r) ∧
    (ofAttempts attempts).warnings = (Attempt.log attempts).flatMap (·.warnings) ∧
    ∀ (g : Grammar) (a : Attempt),
      (g.attempt a).1 = a.compiled.result ∧
      (∀ n, n ≠ a.space → (g.attempt a).2.table n = g.table n) ∧
      (∀ e, (g.attempt a).1 = .error e → (g.attempt a).2 = g) := by
  refine ⟨?_, ?_, fun n r => (defined_ofAttempts attempts).lookup_of_mem, ?_, ?_⟩
  · intro n
    rw [table_ofAttempts, Table.names_foldl_insert]
  · intro n name
    rw [lookup, table_ofAttempts, Table.find?_foldl_insert]
  · rw [ofAttempts_eq, warnings_foldl_record]
    rfl
  · intro g a
    rw [attempt_eq]
    refine ⟨rfl, ?_, ?_⟩
    · intro n other
      cases hd : a.declared? with
      | none => rfl
      | some d =>
          have space : d.space = a.space := by
            unfold Attempt.declared? at hd
            split at hd
            · cases hd
            · cases hd
              rfl
          change (g.record d).table n = g.table n
          rw [table_record, space, if_neg other.symm]
    · intro e failed
      have none : a.declared? = none := by
        change a.compiled.result = _ at failed
        rw [Attempt.declared?, failed]
      rw [none]
      rfl

end Grammar

namespace Rewrites

/-- The line is warned of its empty group before its reference is refused. -/
def refused : Attempt := ⟨.rules, .start, "word = () ~blank".toList⟩

/-- Two rules, of which the first is declared again in the end. -/
def attempts : List Attempt :=
  [⟨.rules, .start, "word = .letter+".toList⟩, ⟨.rules, .start, "pair = @word @word".toList⟩, refused,
    ⟨.rules, .start, "word = \"x\" ()".toList⟩]

theorem tables_of_rewrites :
    ((Grammar.ofAttempts attempts).table .rules).names = ["word", "pair"] ∧
    (Grammar.ofAttempts attempts).lookup .rules "word" = some ⟨"word", [[.literal "x"]]⟩ ∧
    (Grammar.ofAttempts attempts).warnings.length = 1 ∧
    refused.compiled.warnings.length = 1 ∧
    ((Grammar.ofAttempts attempts).attempt refused).2 = Grammar.ofAttempts attempts := by
  obtain ⟨names, lookup, -, warnings, further⟩ := Grammar.tables_of_attempts attempts
  obtain ⟨answer, -, kept⟩ := further (Grammar.ofAttempts attempts) refused
  have fails : refused.compiled.result =
      .error (.illegalIgnorationReference "blank" "word" ⟨⟨10, 16⟩, ⟨1, 11⟩⟩) := by cbv
  refine ⟨(names .rules).trans ?_, (lookup .rules "word").trans ?_, ?_, ?_, kept _ (answer.trans fails)⟩
  · cbv
  · cbv
  · rw [warnings]
    cbv
  · cbv

end Rewrites

end TokenGrammar
