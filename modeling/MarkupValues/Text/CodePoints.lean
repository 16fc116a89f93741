/-!
# Sets of characters given by ranges

A property of characters is held as the ascending ranges of code points that have it, and
`CodePoints.contains` looks a character up.
-/

namespace MarkupValues

/-- A set of code points, as ascending and disjoint inclusive ranges. -/
structure CodePoints where
  ranges : List (Nat × Nat)

namespace CodePoints

/-- Whether a code point lies in one of the ascending ranges, reading no further than the first
range that starts above it. -/
def inRanges (n : Nat) : List (Nat × Nat) → Bool
  | [] => false
  | (first, last) :: rest => if n < first then false else n ≤ last || inRanges n rest

/-- Whether the set holds the character. -/
def contains (set : CodePoints) (c : Char) : Bool :=
  inRanges c.toNat set.ranges

end CodePoints

end MarkupValues
