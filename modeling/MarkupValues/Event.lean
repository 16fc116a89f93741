import MarkupValues.Code.Language
import MarkupValues.Failure

/-!
# What a conversion reports as it goes

An `Event` is something that happens during a conversion and may be of interest to whoever watches:
it has a level, a message and named fields.
-/

namespace MarkupValues

/-- The levels of events, from the least to the most important. -/
inductive Level where
  | trace
  | debug
  | warn
deriving DecidableEq

/-- The name of a level. -/
def Level.name : Level → String
  | trace => "TRACE"
  | debug => "DEBUG"
  | warn => "WARN"

/-- Something that happens during a conversion. -/
inductive Event where
  /-- A conversion starts, for a type name as it was given. -/
  | converting (typeName : String) (language : Language)
  /-- A paced key time is refused. -/
  | pacedKeyTime (value : String)
  /-- A key time in percent is refused. -/
  | percentageKeyTime (value : String)
  /-- A conversion fails. -/
  | failed (failure : Failure)
  /-- A text is left to the run-time converter. -/
  | fallback (typeName : String)
deriving DecidableEq

namespace Event

/-- How much an event matters. -/
def level : Event → Level
  | converting .. | failed .. => .debug
  | pacedKeyTime .. | percentageKeyTime .. => .warn
  | fallback .. => .trace

/-- The sentence for an event. -/
def message : Event → String
  | converting .. => "converting core type"
  | pacedKeyTime .. => "paced key times are not supported"
  | percentageKeyTime .. => "percentage key times are not supported"
  | failed .. => "core type conversion failed"
  | fallback .. => "using invariant-string fallback"

/-- The fields of an event besides its message. -/
def fields : Event → List (String × String)
  | converting typeName language =>
    [("type_name", typeName), ("language", language.displayName)]
  | pacedKeyTime value | percentageKeyTime value => [("value", value)]
  | failed failure => [("failure", failure.message)]
  | fallback typeName => [("type_name", typeName)]

end Event

end MarkupValues
