import MarkupValues.Numeric.Tokens

/-!
# Linear colours

A linear colour has four channels of single precision. It is written as `sc#` and a list of three or
four numbers; without a number for it the opacity is one.
-/

namespace MarkupValues

/-- A colour with linear channels. -/
structure ScRgb where
  a : Binary32
  r : Binary32
  g : Binary32
  b : Binary32
deriving DecidableEq

namespace ScRgb

/-- The channel that a token writes: a finite number. -/
def channel (token : String) : Except Cause Binary32 :=
  match Binary.ofText? token with
  | some value => if value.isFinite then .ok value else .error (.invalidNumber token)
  | none => .error (.invalidNumber token)

/-- The colour with the given channels, of which there are three or four. -/
def ofChannels : List Binary32 → Except Cause ScRgb
  | [r, g, b] => .ok ⟨.ofRatio false 1 1, r, g, b⟩
  | [a, r, g, b] => .ok ⟨a, r, g, b⟩
  | channels => .error (.tokenCount (.oneOf [3, 4]) channels.length)

/-- The colour that a text writes. The first token that is no channel is at fault before the number
of tokens is. -/
def ofText (s : String) : Except Cause ScRgb :=
  match s.toList with
  | 's' :: 'c' :: '#' :: list => do
    ofChannels (← (Numeric.tokens (String.ofList list)).mapM channel)
  | _ => .error (.unsupported "scRGB colors must start with 'sc#'")

end ScRgb

end MarkupValues
