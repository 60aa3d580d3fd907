import TokenGrammar.Text.Blank
import TokenGrammar.Text.CaseFold
import TokenGrammar.Text.Property
import TokenGrammar.Text.Script

/-!
# Sets of characters

What a pattern's classes denote. A set is kept as the expression that describes it, and membership is
decided by evaluating the expression.
-/
namespace TokenGrammar

inductive CharSet
  | none
  | range (first last : Char)
  | having (property : CharProperty)
  | inCategories (categories : List Category)
  /-- Filed under the script with this code. -/
  | inScript (code : String)
  /-- Used in the script with this code. -/
  | usedInScript (code : String)
  | union (a b : CharSet)
  | inter (a b : CharSet)
  | diff (a b : CharSet)
  | symmDiff (a b : CharSet)
  | compl (a : CharSet)
  /-- Closed under changes of case. -/
  | folded (a : CharSet)
  /-- Closed under changes of case among the ASCII letters. -/
  | asciiFolded (a : CharSet)

namespace CharSet

def asciiVariants (c : Char) : List Char := [c, c.toLower, c.toUpper]

def contains : CharSet → Char → Bool
  | none, _ => false
  | range first last, c => first ≤ c && c ≤ last
  | having property, c => property.holds c
  | inCategories categories, c => categories.contains (Category.of c)
  | inScript code, c => Script.of c = code
  | usedInScript code, c => (Script.allOf c).contains code
  | union a b, c => a.contains c || b.contains c
  | inter a b, c => a.contains c && b.contains c
  | diff a b, c => a.contains c && !b.contains c
  | symmDiff a b, c => a.contains c != b.contains c
  | compl a, c => !a.contains c
  | folded a, c => (CaseFold.variants c).any a.contains
  | asciiFolded a, c => (asciiVariants c).any a.contains

def single (c : Char) : CharSet := range c c

def any : CharSet := compl none

def ofRanges (ranges : List (Char × Char)) : CharSet :=
  ranges.foldr (fun (first, last) set => union (range first last) set) none

def digit : CharSet := inCategories [.nd]

def space : CharSet := having .whiteSpace

/-- Letters, marks, digits, connectors and joiners. -/
def word : CharSet :=
  union (having .alphabetic)
    (union (inCategories [.mn, .mc, .me, .nd, .pc]) (having .joinControl))

def asciiDigit : CharSet := range '0' '9'

def asciiSpace : CharSet := ofRanges [('\t', '\r'), (' ', ' ')]

def asciiWord : CharSet := ofRanges [('0', '9'), ('A', 'Z'), ('_', '_'), ('a', 'z')]

end CharSet

end TokenGrammar
