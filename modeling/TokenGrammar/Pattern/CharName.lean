import TokenGrammar.Pattern.CharSet

/-!
# Names of character sets

Properties, general categories and scripts go by several names, in any case and with or without
separators.
-/
namespace TokenGrammar.CharName

/-- Lower case without blanks, `_`, `-` and a leading `is`; what is not ASCII is left out. -/
def normalize (name : List Char) : List Char :=
  let isPrefixed := (name.take 2).map Char.toLower = ['i', 's']
  let kept := ((if isPrefixed then name.drop 2 else name).filter fun c =>
    c.toNat < 0x80 && c ≠ ' ' && c ≠ '_' && c ≠ '-').map Char.toLower
  if isPrefixed && kept = ['c'] then ['i', 's', 'c'] else kept

/-- General categories and their groups. -/
def categories : List (List String × List Category) := [
  (["l", "letter"], [.lu, .ll, .lt, .lm, .lo]),
  (["lc", "casedletter"], [.lu, .ll, .lt]),
  (["lu", "uppercaseletter"], [.lu]),
  (["ll", "lowercaseletter"], [.ll]),
  (["lt", "titlecaseletter"], [.lt]),
  (["lm", "modifierletter"], [.lm]),
  (["lo", "otherletter"], [.lo]),
  (["m", "mark", "combiningmark"], [.mn, .mc, .me]),
  (["mn", "nonspacingmark"], [.mn]),
  (["mc", "spacingmark"], [.mc]),
  (["me", "enclosingmark"], [.me]),
  (["n", "number"], [.nd, .nl, .no]),
  (["nd", "decimalnumber", "digit"], [.nd]),
  (["nl", "letternumber"], [.nl]),
  (["no", "othernumber"], [.no]),
  (["p", "punctuation", "punct"], [.pc, .pd, .ps, .pe, .pi, .pf, .po]),
  (["pc", "connectorpunctuation"], [.pc]),
  (["pd", "dashpunctuation"], [.pd]),
  (["ps", "openpunctuation"], [.ps]),
  (["pe", "closepunctuation"], [.pe]),
  (["pi", "initialpunctuation"], [.pi]),
  (["pf", "finalpunctuation"], [.pf]),
  (["po", "otherpunctuation"], [.po]),
  (["s", "symbol"], [.sm, .sc, .sk, .so]),
  (["sm", "mathsymbol"], [.sm]),
  (["sc", "currencysymbol"], [.sc]),
  (["sk", "modifiersymbol"], [.sk]),
  (["so", "othersymbol"], [.so]),
  (["z", "separator"], [.zs, .zl, .zp]),
  (["zs", "spaceseparator"], [.zs]),
  (["zl", "lineseparator"], [.zl]),
  (["zp", "paragraphseparator"], [.zp]),
  (["c", "other"], [.cc, .cf, .cs, .co, .cn]),
  (["cc", "control", "cntrl"], [.cc]),
  (["cf", "format"], [.cf]),
  (["co", "privateuse"], [.co]),
  (["cn", "unassigned"], [.cn])]

def category? (name : String) : Option CharSet :=
  if name = "any" then some .any
  else if name = "assigned" then some (.compl (.inCategories [.cn]))
  else if name = "ascii" then some (.range '\x00' '\x7f')
  else (categories.find? fun entry => entry.1.contains name).map fun entry => .inCategories entry.2

def script? (name : String) : Option String :=
  (Script.names.find? fun (code, names) =>
    (code :: names).any fun n => normalize n.toList = name.toList).map (·.1)

def property? (name : String) : Option CharSet :=
  (CharProperty.all.find? (·.names.contains name)).map .having

/-- The set that a single name stands for. -/
def set? (name : List Char) : Option CharSet :=
  let name := String.ofList (normalize name)
  property? name <|> category? name <|> (script? name).map .inScript

/-- The set of the characters for which the named property has the named value. -/
def setOfValue? (property value : List Char) : Option CharSet :=
  let property := String.ofList (normalize property)
  let value := String.ofList (normalize value)
  if ["gc", "category", "generalcategory"].contains property then category? value
  else if ["sc", "script"].contains property then (script? value).map .inScript
  else if ["scx", "scriptextensions"].contains property then (script? value).map .usedInScript
  else none

end TokenGrammar.CharName
