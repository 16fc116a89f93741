import MarkupValues.Registry

/-!
# Errors of a whole run

Whatever can go wrong for a caller, under one type. Conversions speak for themselves; a name that is
taken is reported as an error of the registry.
-/

namespace MarkupValues

/-- Something that goes wrong for a caller. -/
inductive Error where
  | conversion (failure : Failure)
  | located (located : LocatedFailure)
  | registry (duplicate : DuplicateKey)
deriving DecidableEq

/-- The sentence for an error. -/
def Error.message : Error → String
  | conversion failure => failure.message
  | located failure => failure.message
  | registry duplicate => "registry error: " ++ duplicate.message

end MarkupValues
