/-!
# Binary floating point

Nonnegative numbers of 53 bits, as the nearest one to a ratio of natural numbers, and the shortest
decimal that reads back as the same number.
-/
namespace TokenGrammar

/-- The number `mantissa * 2 ^ exponent`. -/
structure Binary64 where
  mantissa : Nat
  exponent : Int
  deriving DecidableEq, Repr

/-- A quotient rounded to the nearest whole number, a half to the even neighbour. -/
def roundHalfEven (num den : Nat) : Nat :=
  let q := num / den
  let r := num % den
  if 2 * r < den ∨ 2 * r = den ∧ q % 2 = 0 then q else q + 1

namespace Binary64

def zero : Binary64 := ⟨0, 0⟩

def isZero (x : Binary64) : Bool := x.mantissa = 0

def smallestExponent : Int := -1074

def largestExponent : Int := 971

/-- The mantissa of a power of two, unless the exponent is the smallest. -/
def smallestMantissa : Nat := Nat.pow 2 52

def largestMantissa : Nat := Nat.pow 2 53 - 1

/-- Numerator and denominator. -/
def ratio (x : Binary64) : Nat × Nat :=
  (x.mantissa * Nat.pow 2 x.exponent.toNat, Nat.pow 2 (-x.exponent).toNat)

/-- The nearest number; too large a ratio has none. -/
def ofRatio (num den : Nat) : Option Binary64 :=
  if num = 0 then some zero
  else
    let estimate : Int := Nat.log2 num - Nat.log2 den
    let isLess := num * Nat.pow 2 (-estimate).toNat < den * Nat.pow 2 estimate.toNat
    let magnitude := if isLess then estimate - 1 else estimate
    let exponent := max smallestExponent (magnitude - 52)
    let mantissa := roundHalfEven (num * Nat.pow 2 (-exponent).toNat)
      (den * Nat.pow 2 exponent.toNat)
    let rounded : Binary64 :=
      if mantissa = largestMantissa + 1 then ⟨smallestMantissa, exponent + 1⟩ else ⟨mantissa, exponent⟩
    if rounded.mantissa = 0 then some zero
    else if largestExponent < rounded.exponent then none
    else some rounded

def ofPowerOfTen (power : Nat) : Option Binary64 := ofRatio (Nat.pow 10 power) 1

def mul (x y : Binary64) : Option Binary64 :=
  ofRatio (x.ratio.1 * y.ratio.1) (x.ratio.2 * y.ratio.2)

def div (x y : Binary64) : Option Binary64 :=
  ofRatio (x.ratio.1 * y.ratio.2) (x.ratio.2 * y.ratio.1)

/-- Digits and power of ten of a decimal. -/
structure Decimal where
  digits : Nat
  power : Int

/--
A decimal with steps of `10 ^ power` inside the ratios that round to the number, the nearer of two.
The ratios reach half way to the neighbours; the ends belong to them if the mantissa is even.
-/
def decimalAt? (x : Binary64) (power : Int) : Option Decimal :=
  let atLowest := x.mantissa = smallestMantissa ∧ smallestExponent < x.exponent
  let scale := Nat.pow 2 (x.exponent - 2).toNat * Nat.pow 10 (-power).toNat
  let step := Nat.pow 2 (2 - x.exponent).toNat * Nat.pow 10 power.toNat
  let value := 4 * x.mantissa * scale
  let low := (4 * x.mantissa - if atLowest then 1 else 2) * scale
  let high := (4 * x.mantissa + 2) * scale
  let isInside (digits : Nat) : Bool :=
    let point := digits * step
    if x.mantissa % 2 = 0 then low ≤ point && point ≤ high else low < point && point < high
  let below := value / step
  match isInside below, isInside (below + 1) with
  | true, true => some ⟨roundHalfEven value step, power⟩
  | true, false => some ⟨below, power⟩
  | false, true => some ⟨below + 1, power⟩
  | false, false => none

/-- The coarsest of the powers from `power` downwards that has a decimal. -/
def shortestFrom (x : Binary64) (power : Int) : Nat → Decimal
  | 0 => ⟨0, 0⟩
  | n + 1 =>
    match x.decimalAt? power with
    | some d => if d.digits = 0 then x.shortestFrom (power - 1) n else d
    | none => x.shortestFrom (power - 1) n

def shortest (x : Binary64) : Decimal :=
  let magnitude : Int := Nat.log2 x.mantissa + x.exponent
  x.shortestFrom (magnitude * 30103 / 100000 + 1) 20

end Binary64

namespace Binary64.Decimal

/-- Without zeros at the end of the digits. -/
def normalize (digits : Nat) (power : Int) : Nat → Decimal
  | 0 => ⟨digits, power⟩
  | n + 1 => if digits % 10 = 0 then normalize (digits / 10) (power + 1) n else ⟨digits, power⟩

/--
Written with a point up to sixteen places before it and five zeros behind it, and with an exponent
beyond that.
-/
def render (d : Decimal) : String :=
  let digits := Nat.repr d.digits
  let length : Int := digits.length
  let magnitude := length + d.power
  let zeros (n : Int) : String := String.ofList (List.replicate n.toNat '0')
  let front (n : Int) : String := String.ofList (digits.toList.take n.toNat)
  let back (n : Int) : String := String.ofList (digits.toList.drop n.toNat)
  if 0 ≤ d.power ∧ magnitude ≤ 16 then digits ++ zeros d.power ++ ".0"
  else if 0 < magnitude ∧ magnitude ≤ 16 then front magnitude ++ "." ++ back magnitude
  else if -5 < magnitude ∧ magnitude ≤ 0 then "0." ++ zeros (-magnitude) ++ digits
  else
    let exponent := "e" ++ toString (magnitude - 1)
    if length = 1 then digits ++ exponent else front 1 ++ "." ++ back 1 ++ exponent

end Binary64.Decimal

def Binary64.render (x : Binary64) : String :=
  if x.isZero then "0.0"
  else
    let d := x.shortest
    (Decimal.normalize d.digits d.power 20).render

end TokenGrammar
