import MarkupValues.Expr.WellKnown
import MarkupValues.Logged
import MarkupValues.Numeric.Unsigned
import MarkupValues.Target
import MarkupValues.Text.AsciiCase
import MarkupValues.Text.Lowercase
import MarkupValues.TimeSpan

/-!
# Durations, key times and repetitions

Wherever a time is wanted a span of time will do; each of these values has words of its own besides.
-/

namespace MarkupValues.Reading

/-- A span of time, in ticks. -/
def timeSpan (source : String) (target : Target) : Reading :=
  (target.report source (TimeSpan.ofText source)).map fun span =>
    .call .timeSpan [.literal (.long span.ticks)]

/-- A span of time, or a word in any ASCII case. -/
def duration (source : String) (target : Target) : Reading :=
  match Text.findSpelling? ["Automatic", "Forever"] (Text.trim source) with
  | some word => .ok (.member target.destination word)
  | none => timeSpan source target

/-- What a text without white space around it is as a key time. -/
inductive KeyTimeForm where
  | paced
  | percentage
  | uniform
  | span
deriving DecidableEq

/-- The form of a key time; its words have one spelling. -/
def KeyTimeForm.of (value : String) : KeyTimeForm :=
  if value = "Paced" then paced
  else if value.toList.getLast? = some '%' then percentage
  else if value = "Uniform" then uniform
  else span

/-- A span of time, or the word `Uniform`. Paced and percentage key times are recognised, and
refused with a warning. -/
def loggedKeyTime (source : String) (target : Target) : Logged Reading :=
  match KeyTimeForm.of (Text.trim source) with
  | .paced => do
    Logged.report (.pacedKeyTime (Text.trim source))
    return target.refuse source (.unsupported
      ("The '" ++ target.destination.text ++ ".Paced' property is not supported yet."))
  | .percentage => do
    Logged.report (.percentageKeyTime (Text.trim source))
    return target.refuse source (.unsupported
      ("Percentage values for '" ++ target.destination.text ++ "' are not supported yet."))
  | .uniform => return .ok (.member target.destination "Uniform")
  | .span =>
    return (timeSpan source target).map fun span => .invoke target.destination "FromTimeSpan" [span]

/-- The outcome of reading a key time. -/
def keyTime (source : String) (target : Target) : Reading :=
  (loggedKeyTime source target).result

/-- A count and an x, `Forever`, or a span of time, in any letter case. A failure is one of the
whole text, as it is. -/
def repeatBehavior (source : String) (target : Target) : Reading :=
  let value := Text.lowercase (Text.trim source)
  if value = "forever" then .ok (.member target.destination "Forever")
  else if value.toList.getLast? = some 'x' then
    let count := Text.trimEnd (String.ofList value.toList.dropLast)
    if Numeric.isDecimal count then .ok (.call target.destination [.raw count])
    else target.refuse source (.invalidNumber count)
  else (timeSpan value target).mapError (·.restate source)

end MarkupValues.Reading
