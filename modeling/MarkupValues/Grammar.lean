import MarkupValues.Reading.Color
import MarkupValues.Reading.Coordinates
import MarkupValues.Reading.GridLength
import MarkupValues.Reading.Keyword
import MarkupValues.Reading.Timing
import MarkupValues.Reading.Verbatim

/-!
# The grammars of attribute values

Each `Grammar` says how the values of a family of types are written, and `Grammar.convert` reads a
text for a target by it.
-/

namespace MarkupValues

/-- The ways in which attribute values are written. -/
inductive Grammar where
  | color
  | brush
  | point
  | size
  | rect
  | matrix
  | transform
  | pointCollection
  | doubleCollection
  | thickness
  | cornerRadius
  | gridLength
  | timeSpan
  | duration
  | keyTime
  | repeatBehavior
  | keySpline
  | fontWeight
  | fontStyle
  | fontStretch
  | fontFamily
  | textDecorations
  | imageSource
  | cursor
  | cacheMode
  | geometry
  | propertyPath
deriving DecidableEq

namespace Grammar

/-- The expression for a text, or its failure for the type to build. -/
def convert (grammar : Grammar) (source : String) (target : Target) : Except Failure Expr :=
  match grammar with
  | .color => Reading.color source target
  | .brush => Reading.brush source target
  | .point => Reading.point source target
  | .size => Reading.size source target
  | .rect => Reading.rect source target
  | .matrix => Reading.matrix source target
  | .transform => Reading.transform source target
  | .pointCollection => Reading.pointCollection source target
  | .doubleCollection => Reading.doubleCollection source target
  | .thickness => Reading.thickness source target
  | .cornerRadius => Reading.cornerRadius source target
  | .gridLength => Reading.gridLength source target
  | .timeSpan => Reading.timeSpan source target
  | .duration => Reading.duration source target
  | .keyTime => Reading.keyTime source target
  | .repeatBehavior => Reading.repeatBehavior source target
  | .keySpline => Reading.keySpline source target
  | .fontWeight => Reading.fontWeight source target
  | .fontStyle => Reading.fontStyle source target
  | .fontStretch => Reading.fontStretch target
  | .fontFamily => Reading.fontFamily source target
  | .textDecorations => Reading.textDecorations source target
  | .imageSource => Reading.imageSource source target
  | .cursor => Reading.cursor source target
  | .cacheMode => Reading.cacheMode source target
  | .geometry => Reading.geometry source target
  | .propertyPath => Reading.propertyPath source target

end Grammar

end MarkupValues
