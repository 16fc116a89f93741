import MarkupValues.Registry

/-!
# Sessions

A `Session` is a registry with options: with it the values of a document are converted to code, one
after another. A type without a converter is an error for `conversion`, and left to the run-time
converter by `conversionOrFallback`. Each comes with its events, and what is named `convert` is its
outcome alone.
-/

namespace MarkupValues

/-- A registry, and how code is written. -/
structure Session where
  options : Options := {}
  registry : Registry := .defaults

namespace Session

/-- Whether a type has a converter. -/
def isSupported (session : Session) (typeName : String) : Bool :=
  session.registry.contains typeName

/-- Converts a text as a value of a type to code. It is reported that this starts, what the
converter has to report, and that it fails if it does. -/
def conversion (session : Session) (typeName raw : String) (aux : List TypeName) :
    Logged (Except Failure String) := do
  Logged.report (.converting typeName session.options.language)
  let expr ← session.registry.conversion typeName raw aux
  let code := expr.map session.options.render
  Logged.reportFailure code
  return code

/-- Converts a text as a value of a type to code, and leaves it to the run-time converter if the
type has no converter. -/
def conversionOrFallback (session : Session) (typeName raw : String) (aux : List TypeName) :
    Logged (Except Failure String) :=
  if session.isSupported typeName then session.conversion typeName raw aux
  else do
    Logged.report (.fallback typeName)
    return .ok (session.options.render (.fallback ⟨typeName⟩ raw))

/-- Converts a text at a place in the markup, which a failure then says. -/
def conversionAt (session : Session) (typeName raw : String) (aux : List TypeName)
    (line column : Nat) : Logged (Except LocatedFailure String) :=
  (·.mapError fun failure => ⟨failure, line, column⟩) <$> session.conversion typeName raw aux

/-- The code for a text as a value of a type. -/
def convert (session : Session) (typeName raw : String) (aux : List TypeName) :
    Except Failure String :=
  (session.conversion typeName raw aux).result

/-- The events of `convert`. -/
def convertEvents (session : Session) (typeName raw : String) (aux : List TypeName) :
    List Event :=
  (session.conversion typeName raw aux).events

/-- The code for a text as a value of a type; a type without a converter leaves the text to the
run-time converter. -/
def convertOrFallback (session : Session) (typeName raw : String) (aux : List TypeName) :
    Except Failure String :=
  (session.conversionOrFallback typeName raw aux).result

/-- The events of `convertOrFallback`. -/
def convertOrFallbackEvents (session : Session) (typeName raw : String) (aux : List TypeName) :
    List Event :=
  (session.conversionOrFallback typeName raw aux).events

/-- The code for a text at a place in the markup; a failure says the place. -/
def convertAt (session : Session) (typeName raw : String) (aux : List TypeName)
    (line column : Nat) : Except LocatedFailure String :=
  (session.conversionAt typeName raw aux line column).result

section
variable {session : Session} {typeName raw : String} {aux : List TypeName}

theorem convert_eq_map : session.convert typeName raw aux =
    (session.registry.convertExpr typeName raw aux).map session.options.render := rfl

theorem convertAt_eq_mapError (line column : Nat) :
    session.convertAt typeName raw aux line column =
      (session.convert typeName raw aux).mapError fun failure => ⟨failure, line, column⟩ := rfl

/-- The events of a conversion are that it starts, those of the converter, and that it fails if it
does: they come with the outcome, whatever converter there is. -/
theorem convertEvents_eq : session.convertEvents typeName raw aux =
    .converting typeName session.options.language :: (session.registry.events typeName raw aux ++
      (Logged.reportFailure (session.convert typeName raw aux)).events) := by
  show _ :: (_ ++ (_ ++ [])) = _
  rw [List.append_nil]
  rfl

/-- A type that is supported is converted, with the same outcome and the same events. -/
theorem conversionOrFallback_of_supported (h : session.isSupported typeName = true) :
    session.conversionOrFallback typeName raw aux = session.conversion typeName raw aux :=
  if_pos h

/-- The text for any other type is left to the run-time converter, and this is all that is
reported. -/
theorem conversionOrFallback_of_unsupported (h : session.isSupported typeName = false) :
    session.conversionOrFallback typeName raw aux =
      ⟨.ok (session.options.render (.fallback ⟨typeName⟩ raw)), [.fallback typeName]⟩ :=
  if_neg (Bool.eq_false_iff.1 h)

/-- A type that is supported is converted, with the same outcome. -/
theorem convertOrFallback_of_supported (h : session.isSupported typeName = true) :
    session.convertOrFallback typeName raw aux = session.convert typeName raw aux :=
  congrArg Logged.result (conversionOrFallback_of_supported h)

/-- The text for any other type is left to the run-time converter. -/
theorem convertOrFallback_of_unsupported (h : session.isSupported typeName = false) :
    session.convertOrFallback typeName raw aux =
      .ok (session.options.render (.fallback ⟨typeName⟩ raw)) :=
  congrArg Logged.result (conversionOrFallback_of_unsupported h)

end

end Session

end MarkupValues
