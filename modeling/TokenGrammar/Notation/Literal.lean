/-!
# Literals of the notation

A literal stands between double quotes, with a backslash before every quote and backslash inside.
Main statement: reading what was written gives the text back.
-/
namespace TokenGrammar.Notation.Literal

def escape : List Char → List Char
  | [] => []
  | c :: cs => if c = '"' ∨ c = '\\' then '\\' :: c :: escape cs else c :: escape cs

/-- Drops the backslash of each escape; one at the very end stands for itself. -/
def unescape : List Char → List Char
  | [] => []
  | '\\' :: c :: cs => c :: unescape cs
  | c :: cs => c :: unescape cs

def encode (text : List Char) : List Char := '"' :: (escape text ++ ['"'])

/-- The text between the quotes; a text that is not quoted on both sides is taken whole. -/
def unquote (written : List Char) : List Char :=
  match written with
  | '"' :: inner => if inner.getLast? = some '"' then inner.dropLast else written
  | _ => written

def decode (written : List Char) : List Char := unescape (unquote written)

theorem unescape_escape (text : List Char) : unescape (escape text) = text := by
  induction text with
  | nil => rfl
  | cons c cs ih =>
      by_cases h : c = '"' ∨ c = '\\'
      · simp only [escape, if_pos h, unescape, ih]
      · have hc : c ≠ '\\' := fun e => h (Or.inr e)
        rw [escape, if_neg h, unescape, ih]
        simp only [hc, false_implies, implies_true]

theorem unquote_encode (text : List Char) : unquote (encode text) = escape text := by
  simp [unquote, encode]

theorem decode_encode (text : List Char) : decode (encode text) = text := by
  rw [decode, unquote_encode, unescape_escape]

end TokenGrammar.Notation.Literal
