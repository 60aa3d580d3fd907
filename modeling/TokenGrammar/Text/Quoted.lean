import TokenGrammar.Text.Printable

/-!
# Quoted text

How messages and outlines show a text: between double quotes, or a character between single ones,
with the delimiter and the backslash escaped, the usual controls by a letter, and whatever else would
not show as itself by its hexadecimal code point.
-/
namespace TokenGrammar
namespace Quoted

def escape (delimiter c : Char) : List Char :=
  if c = '\x00' then ['\\', '0']
  else if c = '\t' then ['\\', 't']
  else if c = '\r' then ['\\', 'r']
  else if c = '\n' then ['\\', 'n']
  else if c = '\\' ∨ c = delimiter then ['\\', c]
  else if isPrintable c then [c]
  else '\\' :: 'u' :: '\x7b' :: (Nat.toDigits 16 c.toNat ++ ['\x7d'])

def encode (delimiter : Char) (text : List Char) : List Char :=
  delimiter :: (text.flatMap (escape delimiter) ++ [delimiter])

end Quoted

def quoted (text : String) : String := String.ofList (Quoted.encode '"' text.toList)

def quotedChar (c : Char) : String := String.ofList (Quoted.encode '\'' [c])

end TokenGrammar
