/-!
# Comparing names without regard to letter case

Names of colours, weights, styles and keywords are compared with the ASCII letters folded and every
other character as it stands, so that `É` and `é` differ.
-/

namespace MarkupValues.Text

/-- Whether two texts are equal once their ASCII letters are made small. -/
def sameIgnoringCase (s t : String) : Bool :=
  s.toList.map Char.toLower == t.toList.map Char.toLower

/-- The first of the spellings that a text equals without regard to ASCII case. -/
def findSpelling? (spellings : List String) (s : String) : Option String :=
  spellings.find? fun spelling => sameIgnoringCase spelling s

end MarkupValues.Text
