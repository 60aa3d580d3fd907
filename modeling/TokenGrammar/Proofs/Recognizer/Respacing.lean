import TokenGrammar.Proofs.Notation.Rereading
import TokenGrammar.Proofs.Recognizer.Moves

/-!
# Lines with other spaces

Main statement: where the tokens of a line are written with single spaces in between, the line compiles to what
it compiled to before, but for locations.
-/
namespace TokenGrammar

open Notation (Token Piece scan respaced)

/-- What is left of a token without its location. -/
def Notation.Piece.away (p : Piece) : Token :=
  ⟨p.kind, String.ofList p.text, ⟨⟨0, 0⟩, .start⟩⟩

theorem Notation.Token.away_piece (t : Token) : t.piece.away = t.move .away := by
  rw [Piece.away, Token.piece, String.ofList_toList]
  rfl

theorem Notation.Token.map_away (ts : List Token) :
    ts.map (·.move .away) = (ts.map Token.piece).map Piece.away := by
  rw [List.map_map]
  exact List.map_congr_left fun t _ => t.away_piece.symm

namespace Recognizer

/-- Lines compile alike if their tokens differ by their locations alone. -/
theorem ofLine_move_away {origin origin' : Place} {text text' : List Char}
    (h : (scan origin' text').map Token.piece = (scan origin text).map Token.piece) :
    (ofLine origin' text').move .away (Recognizer.move .away) =
      (ofLine origin text).move .away (Recognizer.move .away) := by
  have same : (scan origin' text').map (·.move .away) = (scan origin text).map (·.move .away) := by
    rw [Token.map_away, Token.map_away, h]
  rw [ofLine, ofLine, ← ofTokens_move, ← ofTokens_move, same]
  rfl

/-- Where a text has no unexpected fragments, its tokens with single spaces in between are read as the same
kinds and texts. So as a line they give the same recognizer as the text, but for the locations of stray
symbols, or the same error, but for its locations; and the same warnings, but for their ranges. -/
theorem ofLine_respaced {origin : Place} {text : List Char}
    (h : ∀ t ∈ scan origin text, t.kind ≠ .unexpectedFragment) (origin' : Place) :
    (scan origin' (respaced (scan origin text))).map Token.piece = (scan origin text).map Token.piece ∧
      (ofLine origin' (respaced (scan origin text))).move .away (Recognizer.move .away) =
        (ofLine origin text).move .away (Recognizer.move .away) := by
  have read := Notation.map_piece_respaced h origin'
  exact ⟨read, ofLine_move_away read⟩

/-- Most tokens of this line touch, a stray one among them, and a comment stands between two. -/
def crowded : List Char := "a=(b\"//\"or// c\n.d-*)+;".toList

theorem ofLine_respaced_crowded :
    respaced (scan .start crowded) = "a = ( b \"//\" or .d- * ) + ;".toList ∧
      (ofLine .start "a = ( b \"//\" or .d- * ) + ;".toList).move .away (Recognizer.move .away) =
        (ofLine .start crowded).move .away (Recognizer.move .away) := by
  have spaced : respaced (scan .start crowded) = "a = ( b \"//\" or .d- * ) + ;".toList := by decide +kernel
  have unchanged := (ofLine_respaced (by decide +kernel : ∀ t ∈ scan .start crowded, _) .start).2
  rw [spaced] at unchanged
  exact ⟨spaced, unchanged⟩

end Recognizer

end TokenGrammar
