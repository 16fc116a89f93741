import MarkupValues.FontWeight
import MarkupValues.Target
import MarkupValues.Text.Blank
import MarkupValues.Text.Lowercase

/-!
# Values given by name

A name from a table stands for a static member of a companion type. White space around a name does
not count, nor does letter case.
-/

namespace MarkupValues.Reading

/-- The member of companion 0 that a text names; `find?` looks up the text without the white space
around it. -/
def memberNamed (kind : NameKind) (find? : String → Option String) (source : String)
    (target : Target) : Reading := do
  let owner ← target.requireCompanion source 0
  let value := Text.trim source
  match find? value with
  | some name => return .member owner name
  | none => target.refuse source (.unknownName kind value)

/-- The name or the code of a weight. -/
def fontWeight : String → Target → Reading :=
  memberNamed .fontWeight FontWeight.ofText?

/-- One of three styles. -/
def fontStyle : String → Target → Reading :=
  memberNamed .fontStyle (Text.findSpelling? ["Normal", "Oblique", "Italic"])

/-- The decorations of a text by their names in lower case; `none` stands for no decoration. -/
def textDecorationNames : List (String × Option String) :=
  [("underline", some "Underline"), ("strikethrough", some "Strikethrough"),
    ("overline", some "OverLine"), ("none", none)]

/-- One decoration, or none. The text is compared in lower case, by the rules for all letters. -/
def textDecorations (source : String) (target : Target) : Reading := do
  let owner ← target.requireCompanion source 0
  match textDecorationNames.lookup (Text.lowercase (Text.trim source)) with
  | some (some name) => return .member owner name
  | some none => return .null
  | none => target.refuse source (.unknownName .textDecoration (Text.trim source))

/-- The one kind of cache there is; companion 0 is its type. Any other text is refused without a
cause. -/
def cacheMode (source : String) (target : Target) : Reading :=
  if Text.sameIgnoringCase (Text.trim source) "BitmapCache" then do
    return .call (← target.requireCompanion source 0) []
  else target.reject source

end MarkupValues.Reading
