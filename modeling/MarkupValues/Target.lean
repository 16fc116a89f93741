import MarkupValues.Failure

/-!
# What a conversion is to build

A `Target` names the type to build and the companion types that the result may have to mention, such
as the colour type inside a brush. What goes wrong is reported where it is found, with a text and
the type to build (`Target.report`, `Target.refuse`, `Target.reject`).
-/

namespace MarkupValues

/-- The type that a conversion builds, and the types it may mention besides. -/
structure Target where
  destination : TypeName
  companions : List TypeName := []
deriving DecidableEq

/-- The outcome of reading a text: an expression, or a failure. -/
abbrev Reading := Except Failure Expr

namespace Target

/-- The companion type at a position. -/
def companion? (target : Target) (index : Nat) : Option TypeName :=
  target.companions[index]?

/-- The companion type at a position, which the conversion cannot do without. -/
def companion (target : Target) (index : Nat) : Except Cause TypeName :=
  match target.companion? index with
  | some name => .ok name
  | none => .error (.missingCompanion index)

/-- The failure of a text against this target. -/
def fail (target : Target) (source : String) (cause : Option Cause) : Failure :=
  ⟨source, target.destination, cause⟩

/-- An outcome with its cause of failure reported for a text and the type to build. -/
def report {α : Type} (target : Target) (source : String) (outcome : Except Cause α) :
    Except Failure α :=
  outcome.mapError fun cause => target.fail source (some cause)

/-- The companion type at a position, or the failure of a text without it. -/
def requireCompanion (target : Target) (source : String) (index : Nat) : Except Failure TypeName :=
  target.report source (target.companion index)

/-- The refusal of a text for a known cause. -/
def refuse (target : Target) (source : String) (cause : Cause) : Reading :=
  .error (target.fail source (some cause))

/-- The refusal of a text without further detail. -/
def reject (target : Target) (source : String) : Reading :=
  .error (target.fail source none)

/-- The same companions for another type. -/
def retarget (target : Target) (destination : TypeName) : Target :=
  { target with destination }

end Target

/-- A value with one of another type inside, given as that one; companion 0 is the type inside. A
text that is no value of that type fails for the type to build. -/
def Reading.wrapped (read : String → Target → Reading) (source : String) (target : Target) :
    Reading := do
  let type ← target.requireCompanion source 0
  let inner ← (read source ⟨type, []⟩).mapError (·.retarget target.destination)
  return .call target.destination [inner]

end MarkupValues
