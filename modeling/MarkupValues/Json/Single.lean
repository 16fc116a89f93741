import MarkupValues.Binary.Round
import MarkupValues.Json.Value

/-!
# Numbers read with single precision

A whole number that fits 64 bits is rounded to single precision at once. Any other number is first
read with double precision: its leading digits, as many as fit 64 bits, are rounded, then scaled by
a power of ten that is itself rounded, and the outcome is rounded again. So the result may differ in
its last place from the nearest value to the number written. A number beyond double precision is no
value; one beyond single precision is infinite.
-/

namespace MarkupValues

namespace BinaryFormat

variable (f : BinaryFormat)

/-- The ordinal nearest to a product of two magnitudes. -/
def product (a b : Nat) : Nat :=
  f.nearestOrdinal (f.units a * f.units b) (Nat.pow 2 (2 * f.places))

/-- The ordinal nearest to a quotient of two magnitudes. -/
def quotient (a b : Nat) : Nat :=
  f.nearestOrdinal (f.units a) (f.units b)

end BinaryFormat

namespace JsonNumber

/-- The greatest number of 64 bits. -/
def wordLimit : Nat := UInt64.size - 1

/-- The greatest power of ten below infinity in double precision. -/
def greatestPower : Nat := 308

/-- The ordinal of a power of ten in double precision. -/
def tenPower (n : Nat) : Nat :=
  BinaryFormat.double.nearestOrdinal (Nat.pow 10 n) 1

/-- A magnitude times a power of ten, in double precision; a power beyond the greatest one is
applied in steps. There is none if the outcome is infinite. -/
def scaled? (ordinal : Nat) (exponent : Int) : Option Nat :=
  if exponent.natAbs ≤ greatestPower then
    if exponent < 0 then some (BinaryFormat.double.quotient ordinal (tenPower exponent.natAbs))
    else
      let product := BinaryFormat.double.product ordinal (tenPower exponent.natAbs)
      if product < BinaryFormat.double.infinityOrdinal then some product else none
  else if ordinal = 0 then some 0
  else if 0 < exponent then none
  else
    scaled? (BinaryFormat.double.quotient ordinal (tenPower greatestPower))
      (exponent + greatestPower)
termination_by exponent.natAbs
decreasing_by
  simp only [greatestPower] at *
  omega

/-- The longest beginning of a number's digits that fits 64 bits, and how many digits follow it. -/
def leading (n : Nat) : Nat × Nat :=
  if n ≤ wordLimit then (n, 0)
  else
    let (kept, dropped) := leading (n / 10)
    (kept, dropped + 1)
termination_by n
decreasing_by
  simp only [wordLimit, UInt64.size] at *
  omega

/-- A number followed by as many digits as still fit 64 bits, and how many of them were taken. -/
def takeDigits (kept : Nat) : List (Fin 10) → Nat × Nat
  | [] => (kept, 0)
  | d :: ds =>
    if kept * 10 + d.val ≤ wordLimit then
      let (kept, taken) := takeDigits (kept * 10 + d.val) ds
      (kept, taken + 1)
    else (kept, 0)

/-- The magnitude of a number in double precision; there is none if it is infinite. -/
def double? (n : JsonNumber) : Option Nat :=
  let (whole, dropped) := leading n.whole
  let (significand, taken) := takeDigits whole n.fraction
  scaled? (BinaryFormat.double.nearestOrdinal significand 1)
    (dropped - taken + n.exponent.getD 0)

/-- Whether a number is written without point and power of ten and fits a signed or an unsigned word
of 64 bits. -/
def isWord (n : JsonNumber) : Bool :=
  match n.int? with
  | some i => Int64.minValue.toInt ≤ i ∧ i ≤ wordLimit
  | none => false

/-- A number with single precision, if it is not beyond double precision. -/
def single? (n : JsonNumber) : Option Binary32 :=
  if n.isWord then some (.ofRatio n.negative n.whole 1)
  else n.double?.map fun ordinal =>
    .ofRatio n.negative (BinaryFormat.double.units ordinal) (Nat.pow 2 BinaryFormat.double.places)

end JsonNumber

end MarkupValues
