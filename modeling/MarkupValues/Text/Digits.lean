/-!
# Runs of decimal digits

Numbers in attribute values are runs of ASCII digits; digits of other scripts are not numbers.
-/

namespace MarkupValues.Text

/-- Whether the characters are one or more ASCII digits and nothing else. -/
def isDigits (cs : List Char) : Bool :=
  !cs.isEmpty && cs.all Char.isDigit

/-- The number that a run of digits writes; leading zeros change nothing. -/
def digitsValue (cs : List Char) : Nat :=
  Nat.ofDigitChars 10 cs 0

/-- The number that the characters write, if they are one or more digits and nothing else. -/
def natural? (cs : List Char) : Option Nat :=
  if isDigits cs then some (digitsValue cs) else none

/-- The digits that start the characters. -/
def leadingDigits (cs : List Char) : List Char :=
  cs.takeWhile Char.isDigit

/-- What follows the digits that start the characters. -/
def afterDigits (cs : List Char) : List Char :=
  cs.dropWhile Char.isDigit

/-- Taking digits off loses nothing. -/
theorem leadingDigits_append_afterDigits (cs : List Char) :
    leadingDigits cs ++ afterDigits cs = cs :=
  List.takeWhile_append_dropWhile

end MarkupValues.Text
