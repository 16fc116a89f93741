/-!
# JSON values

A value is kept as it is written as far as a reader can tell texts apart: a number by its digits, an
object by its members in order with repeated names, and a string that escapes half a surrogate pair
as a string without a text.
-/

namespace MarkupValues

/-- A number as it is written: a whole part without leading zeros, the digits after the point and
the power of ten, where it has them. -/
structure JsonNumber where
  negative : Bool
  whole : Nat
  fraction : List (Fin 10)
  exponent : Option Int
deriving DecidableEq

/-- A JSON value. -/
inductive Json where
  | null
  | bool (value : Bool)
  | number (value : JsonNumber)
  /-- A string; it has no text if it escapes half a surrogate pair. -/
  | string (text : Option String)
  | array (items : List Json)
  /-- An object; a name may occur more than once, and like any string may have no text. -/
  | object (members : List (Option String × Json))

namespace Json

/-- A string value with a text. -/
def ofString (text : String) : Json :=
  string (some text)

/-- A whole number. -/
def ofInt (n : Int) : Json :=
  number ⟨n < 0, n.natAbs, [], none⟩

/-- The text of a string value. -/
def text? : Json → Option String
  | string text => text
  | _ => none

/-- The truth value that a value is. -/
def bool? : Json → Option Bool
  | bool value => some value
  | _ => none

/-- The items of an array. -/
def items? : Json → Option (List Json)
  | array items => some items
  | _ => none

end Json

/-- The whole number that a number is, if it is written as one. A minus sign before zero makes a
number of floating point. -/
def JsonNumber.int? (n : JsonNumber) : Option Int :=
  if n.fraction.isEmpty && n.exponent.isNone && !(n.negative && n.whole == 0) then
    some (if n.negative then -(n.whole : Int) else n.whole)
  else none

end MarkupValues
