import TokenGrammar.Proofs.Grammar.Table
import TokenGrammar.Proofs.Recognizer.LeftRecursion

/-!
# Where stored recognizers come from

Declaring a line stores what the line compiles to, and keeps its warnings. So every recognizer of a
defined grammar comes of a line whose warnings the grammar still has, whatever was declared since.
-/
namespace TokenGrammar

theorem Table.mem_insert {t : Table} {r s : Recognizer} (h : s ∈ t.insert r) : s = r ∨ s ∈ t := by
  induction t with
  | nil => exact .inl (List.mem_singleton.mp h)
  | cons first rest ih =>
      rw [insert] at h
      split at h
      · rcases List.mem_cons.mp h with rfl | later
        · exact .inl rfl
        · exact .inr (List.mem_cons_of_mem first later)
      · rcases List.mem_cons.mp h with rfl | later
        · exact .inr List.mem_cons_self
        · exact (ih later).imp_right (List.mem_cons_of_mem first)

namespace Grammar

variable {g g' : Grammar} {n : Namespace} {origin : Place} {line : List Char} {r : Recognizer}

theorem warnings_setTable (g : Grammar) (n : Namespace) (t : Table) :
    (g.setTable n t).warnings = g.warnings := by
  cases n <;> rfl

theorem lineYields_of_define (h : g.define n origin line = .ok (r, g')) :
    ∃ own, Recognizer.LineYields (Notation.scan origin line) r own ∧
      g'.warnings = g.warnings ++ own := by
  unfold define at h
  cases hc : (Recognizer.ofLine origin line).result with
  | error e =>
      simp only [hc] at h
      cases h
  | ok compiled =>
      simp only [hc] at h
      cases h
      exact ⟨_, Recognizer.lineYields_of_ofLine hc, warnings_setTable ..⟩

theorem Defined.lineYields (h : g.Defined) (hr : r ∈ g.table n) :
    ∃ origin line own, Recognizer.LineYields (Notation.scan origin line) r own ∧
      own ⊆ g.warnings := by
  induction h with
  | empty => cases n <;> cases hr
  | @define g g' space origin line fresh _ hd ih =>
      obtain ⟨own, hl, hw⟩ := lineYields_of_define hd
      -- Declaring never takes a warning back, so what an older recognizer left is still there.
      have older (member : r ∈ g.table n) : ∃ origin line own,
          Recognizer.LineYields (Notation.scan origin line) r own ∧ own ⊆ g'.warnings := by
        obtain ⟨origin, line, before, hl', sub⟩ := ih member
        rw [hw]
        exact ⟨origin, line, before, hl', List.subset_append_of_subset_left own sub⟩
      rw [table_define hd] at hr
      split at hr
      · next same =>
          rcases Table.mem_insert hr with rfl | member
          · rw [hw]
            exact ⟨origin, line, own, hl, List.subset_append_right g.warnings own⟩
          · exact older (same ▸ member)
      · exact older hr

theorem Defined.strayWarning_mem (h : g.Defined) (hr : r ∈ g.table n) {t : Notation.Token}
    (ht : Occurs (.stray t) r.alternatives) : Recognizer.strayWarning t ∈ g.warnings := by
  obtain ⟨_, _, _, hl, sub⟩ := h.lineYields hr
  exact sub (hl.strayWarning_mem ht)

end Grammar

end TokenGrammar
