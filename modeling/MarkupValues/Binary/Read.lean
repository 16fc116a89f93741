import MarkupValues.Binary.Round
import MarkupValues.Text.Digits

/-!
# Reading a binary value from text

The text is an optional sign and then `inf`, `infinity` or `nan` in any ASCII case, or a decimal
number: digits with at most one point among or around them, and an optional exponent. The value is
the nearest one to the number written.
-/

namespace MarkupValues

/-- A number written in decimal: a whole number times a power of ten. -/
structure Decimal where
  digits : Nat
  exponent : Int

namespace Decimal

/-- A whole number with an optional sign. -/
def signed? : List Char → Option Int
  | '-' :: cs => (Text.natural? cs).map fun n => -(n : Int)
  | '+' :: cs => (Text.natural? cs).map fun n => (n : Int)
  | cs => (Text.natural? cs).map fun n => (n : Int)

/-- The power of ten after a number: none, or the letter e and a whole number. -/
def exponent? : List Char → Option Int
  | [] => some 0
  | c :: cs => if c = 'e' || c = 'E' then signed? cs else none

/-- The fraction digits of a number after its whole part, and what follows them. -/
def fraction : List Char → List Char × List Char
  | '.' :: cs => (Text.leadingDigits cs, Text.afterDigits cs)
  | cs => ([], cs)

/-- A decimal number without a sign; it has a digit on one side of the point at least. -/
def ofChars? (cs : List Char) : Option Decimal :=
  let whole := Text.leadingDigits cs
  let (places, rest) := fraction (Text.afterDigits cs)
  if whole.isEmpty && places.isEmpty then none
  else (exponent? rest).map fun e => ⟨Text.digitsValue (whole ++ places), e - places.length⟩

end Decimal

namespace Binary

variable {f : BinaryFormat}

/-- The value of a text without a sign, with the given sign. -/
def unsigned? (negative : Bool) (cs : List Char) : Option (Binary f) :=
  let word := String.ofList (cs.map Char.toLower)
  if word = "inf" || word = "infinity" then some (infinite negative)
  else if word = "nan" then some nan
  else (Decimal.ofChars? cs).map fun d => ofDecimal negative d.digits d.exponent

/-- The value of a text, if it is a number. -/
def ofText? (s : String) : Option (Binary f) :=
  match s.toList with
  | '-' :: cs => unsigned? true cs
  | '+' :: cs => unsigned? false cs
  | cs => unsigned? false cs

end Binary

end MarkupValues
