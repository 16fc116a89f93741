import MarkupValues.Json.Value

/-!
# Writing JSON

`Json.write` gives the compact text of a value, without spaces. In strings the quote, the backslash
and the control characters are escaped, the five with a letter of their own by it; every other
character stands for itself.
-/

namespace MarkupValues

namespace Json

/-- A character as it stands in a string literal. -/
def escape (c : Char) : List Char :=
  if c = '"' ∨ c = '\\' then ['\\', c]
  else if c = '\x08' then ['\\', 'b']
  else if c = '\t' then ['\\', 't']
  else if c = '\n' then ['\\', 'n']
  else if c = '\x0c' then ['\\', 'f']
  else if c = '\r' then ['\\', 'r']
  else if c.toNat < 0x20 then
    ['\\', 'u', '0', '0', Nat.digitChar (c.toNat / 16), Nat.digitChar (c.toNat % 16)]
  else [c]

/-- A string literal; one without a text is written as half a surrogate pair. -/
def writeString (text : Option String) : List Char :=
  '"' :: (match text with
    | some s => s.toList.flatMap escape
    | none => "\\ud800".toList) ++ ['"']

/-- A whole number with a minus sign if it is negative. -/
def writeInt (negative : Bool) (n : Nat) : List Char :=
  (if negative then ['-'] else []) ++ Nat.toDigits 10 n

/-- A number with the parts that it has. -/
def writeNumber (n : JsonNumber) : List Char :=
  writeInt n.negative n.whole ++
    (if n.fraction.isEmpty then [] else '.' :: n.fraction.map fun d => Nat.digitChar d.val) ++
    (match n.exponent with
      | none => []
      | some e => 'e' :: writeInt (e < 0) e.natAbs)

mutual

/-- The compact text of a value, as characters. -/
def writeValue : Json → List Char
  | null => "null".toList
  | bool value => (if value then "true" else "false").toList
  | number value => writeNumber value
  | string text => writeString text
  | array items => '[' :: [','].intercalate (writeItems items) ++ [']']
  | object members => '{' :: [','].intercalate (writeMembers members) ++ ['}']

/-- The texts of the items of an array. -/
def writeItems : List Json → List (List Char)
  | [] => []
  | item :: items => writeValue item :: writeItems items

/-- The texts of the members of an object. -/
def writeMembers : List (Option String × Json) → List (List Char)
  | [] => []
  | (name, value) :: members =>
    (writeString name ++ ':' :: writeValue value) :: writeMembers members

end

/-- The compact text of a value. -/
def write (value : Json) : String :=
  String.ofList (writeValue value)

end Json

end MarkupValues
