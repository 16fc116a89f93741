import MarkupValues.Numeric.Tokens
import MarkupValues.Target

/-!
# Values made of numbers

Points, sizes, rectangles, matrices, margins and collections are lists of numbers. The numbers go
into the result as they are written; only how many there are is checked.
-/

namespace MarkupValues.Reading

/-- The tokens of a list of one of the admitted lengths. -/
def numbers (arity : Arity) (source : String) (target : Target) : Except Failure (List String) :=
  target.report source (Numeric.tokensOf arity source)

/-- The type to build, called with a list of numbers of one of the admitted lengths. -/
def coordinates (arity : Arity) (source : String) (target : Target) : Reading := do
  return .call target.destination ((← numbers arity source target).map .raw)

/-- Two numbers. -/
def point : String → Target → Reading :=
  coordinates (.exactly 2)

/-- Two numbers, width and height. -/
def size : String → Target → Reading :=
  coordinates (.exactly 2)

/-- Four numbers. -/
def rect : String → Target → Reading :=
  coordinates (.exactly 4)

/-- One radius for all corners, or four. -/
def cornerRadius : String → Target → Reading :=
  coordinates (.oneOf [1, 4])

/-- The lengths at the four sides: two lengths are the horizontal and the vertical one, and stand
for themselves twice over. -/
def sides : List String → List String
  | [horizontal, vertical] => [horizontal, vertical, horizontal, vertical]
  | lengths => lengths

/-- One length for all sides, one for each direction, or four. -/
def thickness (source : String) (target : Target) : Reading := do
  return .call target.destination ((sides (← numbers (.oneOf [1, 2, 4]) source target)).map .raw)

/-- Six numbers, or the one word `Identity` as it is spelled here. -/
def matrix (source : String) (target : Target) : Reading :=
  if source = "Identity" then .ok (.member target.destination "Identity")
  else coordinates (.exactly 6) source target

/-- A transform by one matrix; companion 0 is the type of the matrix. -/
def transform : String → Target → Reading :=
  wrapped matrix

/-- The call that builds a point. -/
def pointCall (type : TypeName) (x y : String) : Expr :=
  .call type [.raw x, .raw y]

/-- The points with consecutive pairs of coordinates. -/
def pointCalls (type : TypeName) : List String → List Expr
  | x :: y :: rest => pointCall type x y :: pointCalls type rest
  | _ => []

/-- An even number of coordinates; companion 0 is the type of the points, which no points do not
need. -/
def pointCollection (source : String) (target : Target) : Reading := do
  match ← numbers .even source target with
  | [] => return .collection target.destination []
  | tokens =>
    let type ← target.requireCompanion source 0
    return .collection target.destination (pointCalls type tokens)

/-- Any number of numbers. -/
def doubleCollection (source : String) (target : Target) : Reading :=
  .ok (.collection target.destination ((Numeric.tokens source).map .raw))

/-- Four coordinates of two control points, or no text at all; companion 0 is the type of the
points. -/
def keySpline (source : String) (target : Target) : Reading :=
  if source = "" then .ok (.call target.destination [])
  else do
    match ← numbers (.exactly 4) source target with
    | [x₁, y₁, x₂, y₂] =>
      let type ← target.requireCompanion source 0
      return .construct target.destination []
        [("ControlPoint1", pointCall type x₁ y₁), ("ControlPoint2", pointCall type x₂ y₂)] []
    | tokens => target.refuse source (.tokenCount (.exactly 4) tokens.length)

end MarkupValues.Reading
