import MarkupValues.Text.Printable

/-!
# Quoted characters and strings

How a diagnostic shows a character or a string: between quotes, with a backslash before what would
end or break the line and a code in braces for what cannot be seen. Both kinds of quote share
`escape`; each escapes its own quote only.
-/

namespace MarkupValues.Text

/-- The code of a character in small hexadecimal digits, as `\u` and braces. -/
def codeEscape (c : Char) : List Char :=
  ['\\', 'u', '{'] ++ Nat.toDigits 16 c.toNat ++ ['}']

/-- A character as it stands between a pair of `quote`s. -/
def escape (quote : Char) (c : Char) : List Char :=
  if c = '\x00' then ['\\', '0']
  else if c = '\t' then ['\\', 't']
  else if c = '\r' then ['\\', 'r']
  else if c = '\n' then ['\\', 'n']
  else if c = '\\' || c = quote then ['\\', c]
  else if isExtendingMark c || !isPrintable c then codeEscape c
  else [c]

/-- A character between single quotes. -/
def quotedChar (c : Char) : String :=
  String.ofList ('\'' :: escape '\'' c ++ ['\''])

/-- A string between double quotes. -/
def quoted (s : String) : String :=
  String.ofList ('"' :: s.toList.flatMap (escape '"') ++ ['"'])

end MarkupValues.Text
