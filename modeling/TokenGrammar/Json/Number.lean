import TokenGrammar.Json.Cursor

/-!
# Numbers in JSON

A number without point and exponent that fits into 64 bits is kept exactly. Any other is a number of
binary floating point: its first digits as such a number, times or divided by a power of ten.
-/
namespace TokenGrammar.Json.Reader

def digits : Reader (List Nat) := do
  let text := (← get).rest.takeWhile Char.isDigit
  modify fun c => ⟨c.line, c.column + text.length, c.rest.drop text.length⟩
  return text.map fun c => c.toNat - '0'.toNat

inductive Number
  | natural (n : Nat)
  | negative (n : Nat)
  | float (negative : Bool) (magnitude : Binary64)
  deriving DecidableEq, Repr

/-- The largest number that is kept digit by digit. -/
def wordMax : Nat := Nat.pow 2 64 - 1

/-- Takes digits while they fit; also gives how many do not. -/
def extend (n : Nat) : List Nat → Nat × Nat
  | [] => (n, 0)
  | d :: ds => if n * 10 + d ≤ wordMax then extend (n * 10 + d) ds else (n, ds.length + 1)

/-- Divided by powers of ten that are numbers themselves. -/
def scaleDown (x : Binary64) (power : Nat) : Option Binary64 :=
  if power ≤ 308 then do x.div (← Binary64.ofPowerOfTen power)
  else if x.isZero then some x
  else do scaleDown (← x.div (← Binary64.ofPowerOfTen 308)) (power - 308)
termination_by power
decreasing_by omega

/-- `n * 10 ^ power`, unless it is too large. -/
def scale (n : Nat) (power : Int) : Option Binary64 := do
  let x ← Binary64.ofRatio n 1
  if power < 0 then scaleDown x (-power).toNat
  else if power ≤ 308 then x.mul (← Binary64.ofPowerOfTen power.toNat)
  else if x.isZero then some x
  else none

def floating (negative : Bool) (n : Nat) (power : Int) : Reader Number :=
  match scale n power with
  | none => fail .numberOutOfRange
  | some x => return .float negative x

/-- Exponents beyond this are not told apart. -/
def exponentMax : Nat := Nat.pow 2 31 - 1

/-- Takes the digits of an exponent while they fit; also gives how many digits were taken. -/
def extendExponent (n taken : Nat) : List Nat → Option Nat × Nat
  | [] => (some n, taken)
  | d :: ds =>
    if n * 10 + d ≤ exponentMax then extendExponent (n * 10 + d) (taken + 1) ds
    else (none, taken + 1)

/-- The rest of a number behind the letter of its exponent. -/
def exponent (negative : Bool) (n : Nat) (power : Int) : Reader Number := do
  let isNegative := (← next?) = some '-'
  match ← next? with
  | some '+' | some '-' => skip
  | _ => pure ()
  match ← next? with
  | none => fail (.endOfText .value)
  | some c =>
    if !c.isDigit then blame .invalidNumber
    else
      let start ← get
      match extendExponent 0 0 (← digits) with
      | (some e, _) => floating negative n (if isNegative then power - e else power + e)
      | (none, taken) =>
        if n ≠ 0 ∧ !isNegative then do
          set start
          failAfter taken .numberOutOfRange
        else return .float negative .zero

def isExponentSign (c : Option Char) : Bool := c = some 'e' || c = some 'E'

/-- The rest of a number behind its point. -/
def fraction (negative : Bool) (n : Nat) (power : Int) : Reader Number := do
  let ds ← digits
  if ds.isEmpty then
    match ← next? with
    | none => blame (.endOfText .value)
    | some _ => blame .invalidNumber
  else
    let (n, dropped) := extend n ds
    let power := power - (ds.length - dropped : Nat)
    if isExponentSign (← next?) then do
      skip
      exponent negative n power
    else floating negative n power

/-- A number behind its sign. -/
def number (negative : Bool) : Reader Number := do
  match ← next? with
  | none => fail (.endOfText .value)
  | some c =>
    if !c.isDigit then blame .invalidNumber
    else
      let start ← get
      let ds ← digits
      if c = '0' ∧ 1 < ds.length then do
        set start.skip
        blame .invalidNumber
      else
        let (n, dropped) := extend 0 ds
        let following ← next?
        if following = some '.' then do
          skip
          fraction negative n dropped
        else if isExponentSign following then do
          skip
          exponent negative n dropped
        else if 0 < dropped then floating negative n dropped
        else if !negative then return .natural n
        else if 1 ≤ n ∧ n ≤ Nat.pow 2 63 then return .negative n
        else floating true n 0

def Number.found : Number → Found
  | .natural n => .integer n
  | .negative n => .integer (-n)
  | .float isNegative magnitude => .float isNegative magnitude

/-- A number whose value does not matter. -/
def skipNumber : Reader Unit := do
  match ← next? with
  | none => blame .invalidNumber
  | some c =>
    if !c.isDigit then blame .invalidNumber
    else
      let start ← get
      let ds ← digits
      if c = '0' ∧ 1 < ds.length then do
        set start.skip
        blame .invalidNumber
      else do
        if (← next?) = some '.' then
          skip
          if (← digits).isEmpty then blame .invalidNumber
        if isExponentSign (← next?) then
          skip
          match ← next? with
          | some '+' | some '-' => skip
          | _ => pure ()
          if (← digits).isEmpty then blame .invalidNumber

end TokenGrammar.Json.Reader
