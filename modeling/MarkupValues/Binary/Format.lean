/-!
# Binary floating-point values

A `BinaryFormat` gives the widths of the exponent and fraction fields, and `Binary f` the values of
that format: not-a-number, the two infinities, and a sign with an ordinal. The ordinals count the
magnitudes upwards from zero, so the next greater value has the next ordinal. `units` says which
magnitude an ordinal stands for, in units of the least positive value.
-/

namespace MarkupValues

/-- The widths of the fields of a binary interchange format. -/
structure BinaryFormat where
  exponentBits : Nat
  fractionBits : Nat

namespace BinaryFormat

/-- The format of 32 bits. -/
def single : BinaryFormat := ⟨8, 23⟩

/-- The format of 64 bits. -/
def double : BinaryFormat := ⟨11, 52⟩

/-- The least positive value is two to the minus this. -/
def places (f : BinaryFormat) : Nat :=
  Nat.pow 2 (f.exponentBits - 1) + f.fractionBits - 2

/-- How many magnitudes have the same exponent. -/
def binadeSize (f : BinaryFormat) : Nat :=
  Nat.pow 2 f.fractionBits

/-- How many magnitudes are finite; the next ordinal would be infinity. -/
def infinityOrdinal (f : BinaryFormat) : Nat :=
  (Nat.pow 2 f.exponentBits - 1) * f.binadeSize

/-- The magnitude with the given ordinal, in units of the least positive value. The ordinals of the
first binade are magnitudes in these units already, and so are those of the next; from there on each
binade has twice the spacing of the one before. -/
def units (f : BinaryFormat) (ordinal : Nat) : Nat :=
  let binade := ordinal / f.binadeSize
  if binade = 0 then ordinal
  else (f.binadeSize + ordinal % f.binadeSize) * Nat.pow 2 (binade - 1)

end BinaryFormat

/-- A value of a binary floating-point format. -/
inductive Binary (f : BinaryFormat) where
  | nan
  | infinite (negative : Bool)
  | finite (negative : Bool) (ordinal : Fin f.infinityOrdinal)
deriving DecidableEq

/-- Values of 32 bits. -/
abbrev Binary32 := Binary BinaryFormat.single

/-- Whether a value is neither infinite nor not-a-number. -/
def Binary.isFinite {f : BinaryFormat} : Binary f → Bool
  | finite _ _ => true
  | _ => false

end MarkupValues
