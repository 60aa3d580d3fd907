import TokenGrammar.Json.Cursor
import TokenGrammar.Text.Hex

/-!
# Texts in JSON

Characters beyond those of one code unit are escaped as a pair of them; half a pair is a fault, unless
the text does not matter.
-/
namespace TokenGrammar.Json.Reader

def hexNumber? (digits : List Char) : Option Nat :=
  digits.foldlM (fun n c => (hexValue? c).map (n * 16 + ·)) 0

/-- Four hexadecimal digits. -/
def codeUnit : Reader Nat := do
  let text := (← get).rest.take 4
  if (String.ofList text).utf8ByteSize < 4 then failAfter 4 (.endOfText .text)
  else match hexNumber? text with
    | none => failAfter 4 .invalidEscape
    | some n => do
      skip; skip; skip; skip
      return n

/-- A character that must follow the first half of a pair of code units. -/
def pairSign (c : Char) : Reader Unit := do
  match ← next? with
  | none => fail (.endOfText .text)
  | some d => if d = c then skip else blame .unfinishedPair

/-- The character of one or two code units, behind a backslash and `u`. -/
def codePoint : Reader Char := do
  let high ← codeUnit
  if 0xDC00 ≤ high ∧ high ≤ 0xDFFF then fail .loneSurrogate
  else if high < 0xD800 ∨ 0xDBFF < high then return Char.ofNat high
  else
    pairSign '\\'
    pairSign 'u'
    let low ← codeUnit
    if low < 0xDC00 ∨ 0xDFFF < low then fail .loneSurrogate
    else return Char.ofNat ((high - 0xD800) * 0x400 + (low - 0xDC00) + 0x10000)

/-- What a letter behind a backslash stands for. -/
def escaped? : Char → Option Char
  | '"' => some '"'
  | '\\' => some '\\'
  | '/' => some '/'
  | 'b' => some '\x08'
  | 'f' => some '\x0c'
  | 'n' => some '\n'
  | 'r' => some '\r'
  | 't' => some '\t'
  | _ => none

/-- What follows a backslash. If the text does not matter, neither do pairs of code units. -/
def escape (matters : Bool) : Reader Char := do
  match ← next? with
  | none => fail (.endOfText .text)
  | some 'u' => do
    skip
    if matters then codePoint
    else
      let _ ← codeUnit
      return 'u'
  | some c =>
    match escaped? c with
    | none => blame .invalidEscape
    | some d => do
      skip
      return d

/-- The rest of a text behind its opening quote. -/
def textBody (matters : Bool) (reversed : List Char) : Nat → Reader String
  | 0 => fail (.endOfText .text)
  | rounds + 1 => do
    match ← next? with
    | none => fail (.endOfText .text)
    | some '"' => do
      skip
      return String.ofList reversed.reverse
    | some '\\' => do
      skip
      let c ← escape matters
      textBody matters (c :: reversed) rounds
    | some c =>
      if c.toNat < 0x20 then blame .controlCharacter
      else do
        skip
        textBody matters (c :: reversed) rounds

/-- The rest of a word. -/
def word : List Char → Reader Unit
  | [] => return ()
  | c :: cs => do
    match ← next? with
    | none => fail (.endOfText .value)
    | some d => if d = c then do skip; word cs else blame .expectedWord

end TokenGrammar.Json.Reader
