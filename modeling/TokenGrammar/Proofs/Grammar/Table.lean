import TokenGrammar.Grammar

/-!
# Tables of defined grammars

Declaring a line keeps the names of every table distinct. So in a grammar that was built by declaring
lines, looking up the name of a recognizer finds this recognizer.
-/
namespace TokenGrammar

/-- A further element is left out if it is there already. -/
theorem eraseDups_concat {α : Type} [BEq α] [LawfulBEq α] (l : List α) (a : α) :
    (l ++ [a]).eraseDups = if a ∈ l then l.eraseDups else l.eraseDups ++ [a] := by
  rw [List.eraseDups_append]
  by_cases member : a ∈ l <;> simp [List.removeAll, member, List.eraseDups_cons]

namespace Table

variable {t : Table} {r : Recognizer}

def names (t : Table) : List String := t.map (·.name)

theorem names_insert (t : Table) (r : Recognizer) :
    (t.insert r).names = if r.name ∈ t.names then t.names else t.names ++ [r.name] := by
  induction t with
  | nil => rfl
  | cons s rest ih =>
      by_cases hs : s.name = r.name
      · have member : r.name ∈ names (s :: rest) := by
          rw [← hs]
          exact List.mem_cons_self
        rw [insert, if_pos hs, if_pos member]
        exact congrArg (· :: names rest) hs.symm
      · have behind : r.name ∈ names (s :: rest) ↔ r.name ∈ names rest :=
          ⟨fun h => (List.mem_cons.mp h).resolve_left fun same => hs same.symm, List.mem_cons_of_mem _⟩
        rw [insert, if_neg hs]
        change s.name :: names (insert rest r) = _
        rw [ih]
        by_cases member : r.name ∈ names rest
        · rw [if_pos member, if_pos (behind.mpr member)]
          rfl
        · rw [if_neg member, if_neg fun h => member (behind.mp h)]
          rfl

theorem nodup_names_insert (h : t.names.Nodup) (r : Recognizer) : (t.insert r).names.Nodup := by
  rw [names_insert]
  split
  · exact h
  · next fresh =>
      refine List.nodup_append.mpr ⟨h, List.nodup_cons.mpr ⟨List.not_mem_nil, List.nodup_nil⟩, ?_⟩
      intro name member other last same
      rw [List.mem_singleton.mp last] at same
      exact fresh (same ▸ member)

theorem find?_of_mem (h : t.names.Nodup) (hr : r ∈ t) : t.find? r.name = some r := by
  induction t with
  | nil => cases hr
  | cons s rest ih =>
      obtain ⟨apart, distinct⟩ := List.nodup_cons.mp h
      unfold find?
      rcases List.mem_cons.mp hr with rfl | later
      · exact List.find?_cons_of_pos (decide_eq_true rfl)
      · have member : r.name ∈ names rest := List.mem_map_of_mem later
        have other : s.name ≠ r.name := by
          intro same
          rw [← same] at member
          exact apart member
        rw [List.find?_cons_of_neg (by simpa using other)]
        exact ih distinct later

end Table

namespace Grammar

/-- Grammars that are built by declaring lines, one after the other. -/
inductive Defined : Grammar → Prop
  | empty : Defined .empty
  | define {g g' : Grammar} {n : Namespace} {origin : Place} {line : List Char} {r : Recognizer} :
      Defined g → g.define n origin line = .ok (r, g') → Defined g'

theorem table_setTable (g : Grammar) (n n' : Namespace) (t : Table) :
    (g.setTable n t).table n' = if n = n' then t else g.table n' := by
  cases n <;> cases n' <;> rfl

/-- Apart from its warnings, a declared line changes one table only. -/
theorem table_define {g g' : Grammar} {n : Namespace} {origin : Place} {line : List Char}
    {r : Recognizer} (h : g.define n origin line = .ok (r, g')) (n' : Namespace) :
    g'.table n' = if n = n' then (g.table n).insert r else g.table n' := by
  unfold define at h
  cases hc : (Recognizer.ofLine origin line).result with
  | error e =>
      simp only [hc] at h
      cases h
  | ok compiled =>
      simp only [hc] at h
      cases h
      rw [table_setTable]
      cases n <;> cases n' <;> rfl

theorem Defined.nodup_names {g : Grammar} (h : g.Defined) (n : Namespace) :
    (g.table n).names.Nodup := by
  induction h with
  | empty => cases n <;> exact List.nodup_nil
  | define hg hd ih =>
      rw [table_define hd]
      split
      · next same =>
          subst same
          exact Table.nodup_names_insert ih _
      · exact ih

/-- A name leads to the recognizer that bears it. -/
theorem Defined.lookup_of_mem {g : Grammar} (h : g.Defined) {n : Namespace} {r : Recognizer}
    (hr : r ∈ g.table n) : g.lookup n r.name = some r :=
  Table.find?_of_mem (h.nodup_names n) hr

end Grammar

end TokenGrammar
