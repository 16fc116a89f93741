import MarkupValues.Text.Digits

/-!
# Unsigned decimal numbers

A decimal number is digits, or digits and a point and digits, or a point and digits. `isDecimal`
recognises one, and `leadingDecimal?` reads one from the start of a text, where a point without
digits after it is left out.
-/

namespace MarkupValues.Numeric

/-- Whether the characters are an unsigned decimal number and nothing else. -/
def isDecimalChars (cs : List Char) : Bool :=
  match Text.afterDigits cs with
  | [] => !cs.isEmpty
  | '.' :: places => Text.isDigits places
  | _ => false

/-- Whether a text is an unsigned decimal number and nothing else. -/
def isDecimal (s : String) : Bool :=
  isDecimalChars s.toList

/-- The decimal number that starts the characters. A point that starts them and has no digit after
it reads as zero; anything else that is no digit is no number. -/
def leadingDecimalChars? (cs : List Char) : Option (List Char) :=
  let whole := Text.leadingDigits cs
  match Text.afterDigits cs with
  | '.' :: rest =>
    let places := Text.leadingDigits rest
    if places.isEmpty then some (if whole.isEmpty then ['0'] else whole)
    else some (whole ++ '.' :: places)
  | _ => if whole.isEmpty then none else some whole

/-- The decimal number that starts a text, if there is one. -/
def leadingDecimal? (s : String) : Option String :=
  (leadingDecimalChars? s.toList).map String.ofList

end MarkupValues.Numeric
