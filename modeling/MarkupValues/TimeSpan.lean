import MarkupValues.Failure
import MarkupValues.Text.Blank
import MarkupValues.Text.Digits

/-!
# Spans of time

A span of time is a count of ticks, ten million to the second, in a signed word of 64 bits. It is
written as a number of days, or as hours and minutes with days before them and seconds after them,
where seconds may have a fraction; a minus sign may come first, and white space around all of it.
-/

namespace MarkupValues

/-- A span of time, in ticks. -/
structure TimeSpan where
  ticks : Int64
deriving DecidableEq

namespace TimeSpan

/-- Ten million ticks make a second. -/
def ticksPerSecond : Nat := 10000000

/-- Sixty seconds make a minute. -/
def ticksPerMinute : Nat := 60 * ticksPerSecond

/-- Sixty minutes make an hour. -/
def ticksPerHour : Nat := 60 * ticksPerMinute

/-- Twenty-four hours make a day. -/
def ticksPerDay : Nat := 24 * ticksPerHour

/-- The greatest count of ticks that a span may have, on either side of zero. -/
def maxMagnitude : Nat := 9223372036854775807

/-- A part of a clock reading: digits for a number below a limit. -/
def part? (limit : Nat) (digits : List Char) : Option Nat :=
  (Text.natural? digits).filter (· < limit)

/-- The ticks of at most seven digits after the point of the seconds. -/
def fraction? (digits : List Char) : Option Nat :=
  if digits.length ≤ 7 then (Text.natural? digits).map (· * Nat.pow 10 (7 - digits.length))
  else none

/-- The ticks of seconds and their fraction. -/
def seconds? (cs : List Char) : Option Nat :=
  match cs.splitOn '.' with
  | [whole] => (part? 60 whole).map (· * ticksPerSecond)
  | [whole, places] => do
    return (← part? 60 whole) * ticksPerSecond + (← fraction? places)
  | _ => none

/-- The ticks of hours, minutes and seconds, with colons between them; the seconds may be left
out. -/
def clock? (cs : List Char) : Option Nat :=
  match cs.splitOn ':' with
  | [hours, minutes] => do
    return (← part? 24 hours) * ticksPerHour + (← part? 60 minutes) * ticksPerMinute
  | [hours, minutes, seconds] => do
    return (← part? 24 hours) * ticksPerHour + (← part? 60 minutes) * ticksPerMinute +
      (← seconds? seconds)
  | _ => none

/-- The ticks of a span without a sign. -/
def magnitude? (cs : List Char) : Option Nat :=
  match Text.afterDigits cs with
  | [] => (Text.natural? cs).map (· * ticksPerDay)
  | '.' :: clock => do
    return (← Text.natural? (Text.leadingDigits cs)) * ticksPerDay + (← clock? clock)
  | _ => clock? cs

/-- The ticks of a span, which have to be in range. -/
def ticks? (cs : List Char) : Option Int :=
  match cs with
  | '-' :: body => (bounded? body).map fun n => -(n : Int)
  | body => (bounded? body).map fun n => (n : Int)
where
  /-- The ticks of a span without a sign, if they are in range. -/
  bounded? (body : List Char) : Option Nat :=
    (magnitude? body).filter (· ≤ maxMagnitude)

/-- The span that a text writes. A text that writes none is at fault as it is, with the white space
around it. -/
def ofText (s : String) : Except Cause TimeSpan :=
  match ticks? (Text.trim s).toList with
  | some n => .ok ⟨Int64.ofInt n⟩
  | none => .error (.invalidTimeSpan s)

/-- The span that a text writes, if it writes one. -/
def ofText? (s : String) : Option TimeSpan :=
  (ofText s).toOption

theorem ofText?_eq_map (s : String) :
    ofText? s = (ticks? (Text.trim s).toList).map fun n => ⟨Int64.ofInt n⟩ := by
  unfold ofText? ofText
  cases ticks? (Text.trim s).toList <;> rfl

/-- A text that writes a span is read as this span. -/
theorem ofText_eq_ok_iff {s : String} {span : TimeSpan} :
    ofText s = .ok span ↔ ofText? s = some span := by
  unfold ofText?
  cases ofText s <;> simp [Except.toOption]

/-- A text that writes no span is an invalid one as it is, and there is no other cause. -/
theorem ofText_eq_error_iff {s : String} {cause : Cause} :
    ofText s = .error cause ↔ cause = .invalidTimeSpan s ∧ ofText? s = none := by
  unfold ofText? ofText
  cases ticks? (Text.trim s).toList <;> simp [Except.toOption, eq_comm]

end TimeSpan

end MarkupValues
