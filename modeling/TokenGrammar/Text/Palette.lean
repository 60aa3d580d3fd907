/-!
# Terminal colors

Names and kinds are blue, matches and lexemes green, failures red; offsets and widths are dim.
-/
namespace TokenGrammar

/-- The escape sequences that a report puts around its parts. -/
structure Palette where
  blue : String
  green : String
  red : String
  dim : String
  reset : String
  deriving DecidableEq, Repr

namespace Palette

def ansi : Palette where
  blue := "\x1b[34m"
  green := "\x1b[32m"
  red := "\x1b[31m"
  dim := "\x1b[2m"
  reset := "\x1b[0m"

def plain : Palette := ⟨"", "", "", "", ""⟩

def ofEnabled (enabled : Bool) : Palette := if enabled then ansi else plain

def isEnabled (p : Palette) : Bool := p.reset != ""

end Palette

end TokenGrammar
