import MarkupValues.Expr.WellKnown
import MarkupValues.Target
import MarkupValues.Text.Blank

/-!
# Values that keep their text

These values take any text: as a string, as a member name, as a text for the run-time converter, or
not at all.
-/

namespace MarkupValues.Reading

/-- The default stretch, whatever the text. -/
def fontStretch (target : Target) : Reading :=
  .ok (.call target.destination [])

/-- A family by its name, without white space around it. -/
def fontFamily (source : String) (target : Target) : Reading :=
  .ok (.call target.destination [.string (Text.trim source)])

/-- A path of properties, as it is. -/
def propertyPath (source : String) (target : Target) : Reading :=
  .ok (.call target.destination [.string source])

/-- A geometry, left to the run-time converter. -/
def geometry (source : String) (target : Target) : Reading :=
  .ok (.fallback target.destination source)

/-- The cursor with a given name, which is not looked up; companion 0 is the type that holds the
cursors. -/
def cursor (source : String) (target : Target) : Reading := do
  return .member (← target.requireCompanion source 0) (Text.trim source)

/-- Whether an address is absolute: a colon and a slash stand together in it. -/
def isAbsolute : List Char → Bool
  | ':' :: '/' :: _ => true
  | _ :: rest => isAbsolute rest
  | [] => false

/-- The image at an address; companion 0 is the type of the image. -/
def imageSource (source : String) (target : Target) : Reading := do
  let image ← target.requireCompanion source 0
  let kind := if isAbsolute source.toList then "Absolute" else "Relative"
  return .call image [.call .uri [.string source, .member .uriKind kind]]

end MarkupValues.Reading
