/-!
# Nouns with an article
-/
namespace TokenGrammar

/-- Only the ASCII vowels, in either case, take `an`. -/
def isVowel (c : Char) : Bool :=
  c = 'a' || c = 'e' || c = 'i' || c = 'o' || c = 'u' ||
  c = 'A' || c = 'E' || c = 'I' || c = 'O' || c = 'U'

def withArticle (noun : String) : String :=
  if noun.toList.head?.any isVowel then "an " ++ noun else "a " ++ noun

end TokenGrammar
