import TokenGrammar.Text.Palette
import TokenGrammar.Text.Position
import TokenGrammar.Text.Quoted

/-!
# Program tokens

The unit that recognizers consume: its kind is what class references match, its lexeme is what
literals match. Where it stands in the program never steers a match.
-/
namespace TokenGrammar

structure Token where
  kind : String
  lexeme : String
  position : Position
  offset : Nat
  deriving DecidableEq, Repr

namespace Token

def describe (t : Token) : String := t.kind ++ " " ++ quoted t.lexeme

/-- One token a line: its place, its kind and its lexeme. -/
def listing (p : Palette) (tokens : List Token) : String :=
  String.join (tokens.map fun t =>
    let place := s!"{t.position.line}:{t.position.column}"
    let padding := String.ofList (List.replicate (8 - place.length) ' ')
    s!"{p.dim}{place}{padding}{p.reset} {p.blue}{t.kind}{p.reset} {p.green}{quoted t.lexeme}{p.reset}\n")

end Token

end TokenGrammar
