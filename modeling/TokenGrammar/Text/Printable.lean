import TokenGrammar.Text.Property

/-!
# Printable characters

What a quoted text shows as it is: neither blank (the space apart), nor a control, format, private
or unassigned code point, nor a character that attaches to the one before it.
-/
namespace TokenGrammar

def isPrintable (c : Char) : Bool :=
  c = ' ' ||
  match Category.of c with
  | .cc | .cf | .cs | .co | .cn | .zl | .zp | .zs => false
  | _ => !CharProperty.graphemeExtend.holds c

end TokenGrammar
