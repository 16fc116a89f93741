import MarkupValues.Binary.Read

/-!
# The shortest text of a binary value

A finite value is written in positional decimal, with the fewest digits that read back as the same
value and, of those, the nearest to it. `magnitudeText` finds them by going through the decimal
grids from coarse to fine: on each grid it tries the two neighbours of the value, the closer one
first and the greater of two equally close ones. The finest grid holds the value itself.
-/

namespace MarkupValues

/-- A whole number times a power of ten in positional notation, without exponent. -/
def positional (digits : Nat) (exponent : Int) : List Char :=
  if digits = 0 then ['0']
  else if exponent < 0 then
    let scale := Nat.pow 10 exponent.natAbs
    let places := Nat.toDigits 10 (digits % scale)
    Nat.toDigits 10 (digits / scale) ++ '.' ::
      (List.replicate (exponent.natAbs - places.length) '0' ++ places)
  else Nat.toDigits 10 digits ++ List.replicate exponent.natAbs '0'

namespace BinaryFormat

variable (f : BinaryFormat)

/-- The multiples of a power of ten on both sides of a magnitude in units of the least value, as
counts of that power: the closer one first, and of two equally close ones the greater. -/
def neighbours (units : Nat) (exponent : Int) : List Nat :=
  let num := if exponent < 0 then units * Nat.pow 10 exponent.natAbs else units
  let scale := Nat.pow 2 f.places
  let den := if exponent < 0 then scale else scale * Nat.pow 10 exponent.natAbs
  if 2 * (num % den) < den then [num / den, num / den + 1] else [num / den + 1, num / den]

/-- The powers of ten whose grids may hold a text of a magnitude, from one above the magnitude down
to the one on which every magnitude of the format lies. -/
def grids (units : Nat) : List Int :=
  let top := decimalLength (units / Nat.pow 2 f.places)
  (List.range (top + f.places + 1)).map fun (i : Nat) => (top : Int) - i

/-- Whether a text reads back as the magnitude with the given ordinal. -/
def readsBack (ordinal : Fin f.infinityOrdinal) (cs : List Char) : Bool :=
  (Binary.unsigned? false cs : Option (Binary f)) = some (.finite false ordinal)

/-- The shortest positional text that reads back as a magnitude. -/
def magnitudeText (ordinal : Fin f.infinityOrdinal) : List Char :=
  let units := f.units ordinal
  let short := (f.grids units).findSome? fun exponent =>
    ((f.neighbours units exponent).map (positional · exponent)).find? (f.readsBack ordinal)
  short.getD (positional (units * Nat.pow 5 f.places) (-f.places))

end BinaryFormat

/-- A value as it is written: the shortest text that reads back, `inf`, or `NaN` without a sign. -/
def Binary.text {f : BinaryFormat} : Binary f → String
  | nan => "NaN"
  | infinite negative => if negative then "-inf" else "inf"
  | finite negative ordinal =>
    String.ofList ((if negative then ['-'] else []) ++ f.magnitudeText ordinal)

end MarkupValues
