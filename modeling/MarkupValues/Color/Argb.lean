import MarkupValues.Failure
import MarkupValues.Text.Hex

/-!
# Colours of four bytes

A colour has a byte each for opacity, red, green and blue. `Argb.ofHex` reads the hexadecimal forms:
a number sign, and three or four digits that each count for two, or six or eight; without digits for
it the opacity is full.
-/

namespace MarkupValues

/-- A colour with a byte for each channel. -/
structure Argb where
  a : UInt8
  r : UInt8
  g : UInt8
  b : UInt8
deriving DecidableEq

namespace Argb

/-- The colour packed into a word, with the opacity in the highest byte. -/
def ofWord (word : UInt32) : Argb :=
  ⟨(word >>> 24).toUInt8, (word >>> 16).toUInt8, (word >>> 8).toUInt8, word.toUInt8⟩

/-- The value of a hexadecimal digit; any other character cannot stand in its place. -/
def hexDigit (c : Char) : Except Cause (Fin 16) :=
  match Text.hexDigit? c with
  | some d => .ok d
  | none => .error (.invalidToken c)

/-- The byte that two digits write. -/
def byte (high low : Char) : Except Cause UInt8 := do
  let high ← hexDigit high
  let low ← hexDigit low
  return UInt8.ofNat (16 * high.val + low.val)

/-- The byte that a digit writes when it counts for two. -/
def doubled (c : Char) : Except Cause UInt8 :=
  byte c c

/-- The lengths that a hexadecimal colour may have, its number sign included. -/
def hexLengths : Arity :=
  .oneOf [4, 5, 7, 9]

/-- The colour that hexadecimal digits write. -/
def ofHexDigits : List Char → Except Cause Argb
  | [r, g, b] => return ⟨255, ← doubled r, ← doubled g, ← doubled b⟩
  | [a, r, g, b] => return ⟨← doubled a, ← doubled r, ← doubled g, ← doubled b⟩
  | [r₁, r₀, g₁, g₀, b₁, b₀] => return ⟨255, ← byte r₁ r₀, ← byte g₁ g₀, ← byte b₁ b₀⟩
  | [a₁, a₀, r₁, r₀, g₁, g₀, b₁, b₀] =>
    return ⟨← byte a₁ a₀, ← byte r₁ r₀, ← byte g₁ g₀, ← byte b₁ b₀⟩
  | digits => .error (.tokenCount hexLengths (digits.length + 1))

/-- The colour that a text writes in a hexadecimal form. A text that does not start with a number
sign is refused for its first character, one of another length for its length, and else the first
character that is no digit is at fault. -/
def ofHex (s : String) : Except Cause Argb :=
  match s.toList with
  | [] => .error (.tokenCount hexLengths 0)
  | '#' :: digits => ofHexDigits digits
  | c :: _ => .error (.invalidToken c)

end Argb

end MarkupValues
