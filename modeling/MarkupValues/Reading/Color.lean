import MarkupValues.Color.Names
import MarkupValues.Color.ScRgb
import MarkupValues.Target
import MarkupValues.Text.Blank

/-!
# Colours and brushes

A colour is written in one of the hexadecimal forms, as a linear colour or by name, with white space
around it. A brush is written as its colour.
-/

namespace MarkupValues.Reading

/-- Whether a text has the outline of a hexadecimal colour: a number sign first and one of its
lengths. -/
def isHexOutline (cs : List Char) : Bool :=
  cs.head? == some '#' && Argb.hexLengths.admits cs.length

/-- The call that builds a colour of bytes. -/
def ofArgb (type : TypeName) (color : Argb) : Expr :=
  .invoke type "FromArgb" ([color.a, color.r, color.g, color.b].map fun v => .literal (.byte v))

/-- The call that builds a linear colour. -/
def ofScRgb (type : TypeName) (color : ScRgb) : Expr :=
  .invoke type "FromScRgb" ([color.a, color.r, color.g, color.b].map fun v => .literal (.single v))

/-- A colour of the type to build. -/
def color (source : String) (target : Target) : Reading :=
  let value := Text.trim source
  if isHexOutline value.toList then
    (target.report source (Argb.ofHex value)).map (ofArgb target.destination)
  else if "sc#".toList.isPrefixOf value.toList then
    (target.report source (ScRgb.ofText value)).map (ofScRgb target.destination)
  else
    match Argb.ofName? value with
    | some color => .ok (ofArgb target.destination color)
    | none => target.refuse source (.unknownName .color value)

/-- A brush of one colour; companion 0 is the type of the colour. -/
def brush : String → Target → Reading :=
  wrapped color

end MarkupValues.Reading
