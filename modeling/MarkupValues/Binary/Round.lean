import MarkupValues.Binary.Format

/-!
# Rounding to the nearest value

`Binary.ofRatio` is the value nearest to a quotient, of two equally near ones the even one, and
infinity where the exponent range ends. `Binary.ofDecimal` does the same for a whole number times a
power of ten, whatever the size of the exponent.
-/

namespace MarkupValues

/-- The quotient rounded to the nearest whole number, a half to the even one. -/
def roundHalfEven (num den : Nat) : Nat :=
  if 2 * (num % den) < den || (2 * (num % den) == den && num / den % 2 == 0) then num / den
  else num / den + 1

/-- The ordinal nearest to a quotient. The quotient in units of the least value tells the binade and
with it the spacing there; rounding up to the next binade gives the next ordinal. -/
def BinaryFormat.nearestOrdinal (f : BinaryFormat) (num den : Nat) : Nat :=
  let scaled := num * Nat.pow 2 f.places
  let binade := (scaled / den).log2 - f.fractionBits
  binade * f.binadeSize + roundHalfEven scaled (den * Nat.pow 2 binade)

/-- How many decimal digits a number has. -/
def decimalLength (n : Nat) : Nat :=
  (Nat.toDigits 10 n).length

namespace Binary

variable {f : BinaryFormat}

/-- Positive or negative zero. -/
def zero (negative : Bool) : Binary f :=
  if h : 0 < f.infinityOrdinal then finite negative ⟨0, h⟩ else infinite negative

/-- The value nearest to a quotient, with the given sign. -/
def ofRatio (negative : Bool) (num den : Nat) : Binary f :=
  if h : f.nearestOrdinal num den < f.infinityOrdinal then
    finite negative ⟨f.nearestOrdinal num den, h⟩
  else infinite negative

/-- The value nearest to a whole number times a power of ten, with the given sign. A number far
beyond either end of the format's range is told by its count of digits alone: one below ten to the
`-places - 1` is less than half the least value, and one from ten to the `2 ^ (exponentBits - 1)` is
beyond the greatest. -/
def ofDecimal (negative : Bool) (digits : Nat) (exponent : Int) : Binary f :=
  let magnitude := decimalLength digits + exponent
  if digits = 0 || magnitude < -(f.places : Int) then zero negative
  else if magnitude > (Nat.pow 2 (f.exponentBits - 1) : Nat) then infinite negative
  else if exponent < 0 then ofRatio negative digits (Nat.pow 10 exponent.natAbs)
  else ofRatio negative (digits * Nat.pow 10 exponent.natAbs) 1

end Binary

end MarkupValues
