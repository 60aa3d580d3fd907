/-!
# Hexadecimal digits
-/
namespace TokenGrammar

def hexValue? (c : Char) : Option Nat :=
  if '0' ≤ c ∧ c ≤ '9' then some (c.toNat - '0'.toNat)
  else if 'a' ≤ c ∧ c ≤ 'f' then some (c.toNat - 'a'.toNat + 10)
  else if 'A' ≤ c ∧ c ≤ 'F' then some (c.toNat - 'A'.toNat + 10)
  else none

/-- The digit of the last place. -/
def hexDigit (n : Nat) : Char := Nat.digitChar (n % 16)

end TokenGrammar
