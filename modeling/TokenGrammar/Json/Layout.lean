import TokenGrammar.Json.Cursor

/-!
# Layouts of JSON

Between the parts of a value there may be blanks. Without any, it takes the least space; for a reader at a
terminal, items and fields stand on lines of their own, indented by depth.
-/
namespace TokenGrammar.Json

/-- The blanks that a value is laid out with. -/
structure Layout where
  /-- In front of what stands at the depth: an item, a field, or a closing bracket. -/
  lineBreak : Nat → List Char
  /-- Behind a colon. -/
  gap : List Char
  isSpace_of_mem_lineBreak : ∀ depth, ∀ c ∈ lineBreak depth, Cursor.isSpace c = true
  isSpace_of_mem_gap : ∀ c ∈ gap, Cursor.isSpace c = true

namespace Layout

def compact : Layout := ⟨fun _ => [], [], nofun, nofun⟩

def pretty : Layout where
  lineBreak depth := '\n' :: List.replicate (2 * depth) ' '
  gap := [' ']
  isSpace_of_mem_lineBreak depth c h := by
    rcases List.mem_cons.mp h with rfl | blank
    · rfl
    · rw [List.eq_of_mem_replicate blank]
      rfl
  isSpace_of_mem_gap c h := by
    rw [List.mem_singleton.mp h]
    rfl

/-- Values are spread over lines at a terminal, unless they are to be compact. -/
def chosen (compact onTerminal : Bool) : Layout :=
  if onTerminal && !compact then .pretty else .compact

end Layout

end TokenGrammar.Json
