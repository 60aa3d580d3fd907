import TokenGrammar.Json.Number
import TokenGrammar.Json.Text

/-!
# Reading JSON values

Values are read as what is expected of them; one of another sort is a fault of shape, told behind the
value if that is a number, a word or a text. Loops are bounded by a number of rounds, for which the
number of characters is always enough.
-/
namespace TokenGrammar.Json.Reader

/-- Fails because of the value that comes next. -/
def refuse {α : Type} (rounds : Nat) (expected : String) : Reader α := do
  match ← next? with
  | some 'n' => do
    skip
    word ['u', 'l', 'l']
    fail (.wrongType .null expected)
  | some 't' => do
    skip
    word ['r', 'u', 'e']
    fail (.wrongType (.boolean true) expected)
  | some 'f' => do
    skip
    word ['a', 'l', 's', 'e']
    fail (.wrongType (.boolean false) expected)
  | some '-' => do
    skip
    let n ← number true
    fail (.wrongType n.found expected)
  | some '"' => do
    skip
    let s ← textBody true [] rounds
    fail (.wrongType (.text s) expected)
  | some '[' => fail (.wrongType .sequence expected)
  | some '\x7b' => fail (.wrongType .map expected)
  | some c =>
    if c.isDigit then do
      let n ← number false
      fail (.wrongType n.found expected)
    else blame .expectedValue
  | none => blame .expectedValue

def text (rounds : Nat) : Reader String := do
  match ← nextBehindSpaces? with
  | none => blame (.endOfText .value)
  | some '"' => do
    skip
    textBody true [] rounds
  | some _ => refuse rounds "a string"

/-- A whole number below `bound`; `expected` names its type. -/
def natural (rounds : Nat) (bound : Nat) (expected : String) : Reader Nat := do
  let accept (n : Number) : Reader Nat :=
    match n with
    | .natural n => if n < bound then return n else fail (.wrongValue n expected)
    | .negative n => fail (.wrongValue (-n) expected)
    | .float .. => fail (.wrongType n.found expected)
  match ← nextBehindSpaces? with
  | none => blame (.endOfText .value)
  | some c =>
    if c = '-' then do
      skip
      accept (← number true)
    else if c.isDigit then do accept (← number false)
    else refuse rounds expected

/-- A colon behind the name of a field. -/
def colon : Reader Unit := do
  match ← nextBehindSpaces? with
  | none => blame (.endOfText .object)
  | some c => if c = ':' then skip else blame .expectedColon

mutual

/-- A value that does not matter. -/
def skipValue : Nat → Reader Unit
  | 0 => blame (.endOfText .value)
  | rounds + 1 => do
    match ← nextBehindSpaces? with
    | none => blame (.endOfText .value)
    | some 'n' => do skip; word ['u', 'l', 'l']
    | some 't' => do skip; word ['r', 'u', 'e']
    | some 'f' => do skip; word ['a', 'l', 's', 'e']
    | some '-' => do skip; skipNumber
    | some '"' => do
      skip
      let _ ← textBody false [] rounds
    | some '[' => do
      skip
      match ← nextBehindSpaces? with
      | none => blame (.endOfText .list)
      | some ']' => skip
      | some _ => skipItems rounds
    | some '\x7b' => do
      skip
      match ← nextBehindSpaces? with
      | none => blame (.endOfText .object)
      | some '\x7d' => skip
      | some _ => skipFields rounds
    | some c => if c.isDigit then skipNumber else blame .expectedValue

def skipItems : Nat → Reader Unit
  | 0 => blame (.endOfText .list)
  | rounds + 1 => do
    skipValue rounds
    match ← nextBehindSpaces? with
    | none => blame (.endOfText .list)
    | some ',' => do skip; skipItems rounds
    | some ']' => skip
    | some _ => blame .expectedCommaOrBracket

def skipFields : Nat → Reader Unit
  | 0 => blame (.endOfText .object)
  | rounds + 1 => do
    match ← nextBehindSpaces? with
    | none => blame (.endOfText .object)
    | some '"' => do
      skip
      let _ ← textBody false [] rounds
      colon
      skipValue rounds
      match ← nextBehindSpaces? with
      | none => blame (.endOfText .object)
      | some ',' => do skip; skipFields rounds
      | some '\x7d' => skip
      | some _ => blame .expectedCommaOrBrace
    | some _ => blame .keyNotText

end

end TokenGrammar.Json.Reader
