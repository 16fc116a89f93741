import MarkupValues.Numeric.Unsigned
import MarkupValues.Target
import MarkupValues.Text.Blank
import MarkupValues.Text.Lowercase

/-!
# Grid lengths

A grid length is the word `auto`, a share of the space that is left, written as a number and a star,
or a number of pixels. Every text is one of them: what follows the number is not looked at, and
without a number a share is one and a size in pixels zero.
-/

namespace MarkupValues.Reading

/-- The number that starts a text as it is written, or else a number of double precision. -/
def leadingOr (value digits : String) : Expr :=
  match Numeric.leadingDecimal? value with
  | some number => .raw number
  | none => .literal (.double digits)

/-- The amount of a grid length and the name of its unit. -/
def amountAndUnit (value : String) : Expr × String :=
  if value = "auto" then (.literal (.double "1"), "Auto")
  else if value.toList.getLast? = some '*' then (leadingOr value "1", "Star")
  else (leadingOr value "0", "Pixel")

/-- A grid length, in any letter case; companion 0 is the type of its unit. -/
def gridLength (source : String) (target : Target) : Reading := do
  let unitType ← target.requireCompanion source 0
  let (amount, unit) := amountAndUnit (Text.lowercase (Text.trim source))
  return .call target.destination [amount, .member unitType unit]

end MarkupValues.Reading
