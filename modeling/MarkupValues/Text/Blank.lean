import MarkupValues.Text.CodePoints

/-!
# White space around a value

White space is the Unicode property White_Space: 25 characters in ten ranges. `trim` takes it off
both ends of a text and `trimEnd` off its end.
-/

namespace MarkupValues.Text

/-- The characters with the property White_Space. -/
def blanks : CodePoints where
  ranges := [(0x9, 0xD), (0x20, 0x20), (0x85, 0x85), (0xA0, 0xA0), (0x1680, 0x1680),
    (0x2000, 0x200A), (0x2028, 0x2029), (0x202F, 0x202F), (0x205F, 0x205F), (0x3000, 0x3000)]

/-- Whether a character is white space. -/
def isBlank (c : Char) : Bool :=
  blanks.contains c

/-- The characters without the white space that ends them. -/
def dropBlankEnd (cs : List Char) : List Char :=
  (cs.reverse.dropWhile isBlank).reverse

/-- The text without the white space that ends it. -/
def trimEnd (s : String) : String :=
  String.ofList (dropBlankEnd s.toList)

/-- The text without the white space around it. -/
def trim (s : String) : String :=
  String.ofList (dropBlankEnd (s.toList.dropWhile isBlank))

end MarkupValues.Text
