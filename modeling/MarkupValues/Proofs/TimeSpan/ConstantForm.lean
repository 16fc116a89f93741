import MarkupValues.Proofs.Text.Caseless
import MarkupValues.Proofs.TimeSpan.Written

/-!
# Spans of time in constant form

The constant form of a span is its text in no particular language: days if there are any, hours,
minutes and seconds in two digits each, and seven digits after the point if the seconds are not
whole. Every number of ticks has one that stands for it (`Body.ticks_constant`), so a span in this
form is read as itself, but for the least one (`ofText?_constantText`): its ticks without the sign
are one too many for a word.
-/

namespace MarkupValues.TimeSpan

open Text (isDigits digitsValue)

/-- A number with zeros in front of it, up to a number of digits. A number with more digits has
none. -/
def padded (width n : Nat) : List Char :=
  List.replicate (width - (Nat.toDigits 10 n).length) '0' ++ Nat.toDigits 10 n

/-- The constant form of a number of ticks: days if there are any, hours, minutes and seconds in two
digits each, and seven digits after the point where they are not all zero. -/
def Body.constant (n : Nat) : Body :=
  .clock
    (if n / ticksPerDay = 0 then none else some (Nat.toDigits 10 (n / ticksPerDay)))
    (padded 2 (n / ticksPerHour % 24))
    (padded 2 (n / ticksPerMinute % 60))
    (some ⟨padded 2 (n / ticksPerSecond % 60),
      if n % ticksPerSecond = 0 then none else some (padded 7 (n % ticksPerSecond))⟩)

/-- The constant form of a span, with a minus sign before one that is less than zero. -/
def constantForm (span : TimeSpan) : Written :=
  ⟨span.ticks.toInt < 0, .constant span.ticks.toInt.natAbs⟩

/-- A span in constant form as a text, such as `-10675199.02:48:05.4775808` for the least one. -/
def constantText (span : TimeSpan) : String :=
  String.ofList span.constantForm.text

/-! ## Numbers -/

variable {width : Nat}

/-- The digits that a number is written in are digits, of which there is one at least. -/
theorem isDigits_toDigits (n : Nat) : isDigits (Nat.toDigits 10 n) = true :=
  Numeric.isDigits_iff.2 ⟨Nat.toDigits_ne_nil, Numeric.allDigits_toDigits n⟩

/-- The digits that a number is written in write this number. -/
theorem digitsValue_toDigits (n : Nat) : digitsValue (Nat.toDigits 10 n) = n :=
  Nat.ofDigitChars_ten_toDigits

/-- A number with zeros in front of it is written in digits. -/
theorem isDigits_padded (width n : Nat) : isDigits (padded width n) = true := by
  refine Numeric.isDigits_iff.2 ⟨?_, List.forall_mem_append.2 ⟨?_, Numeric.allDigits_toDigits n⟩⟩
  · exact List.append_ne_nil_of_right_ne_nil _ Nat.toDigits_ne_nil
  · intro c hc
    rw [List.eq_of_mem_replicate hc]
    rfl

/-- Zeros in front of a number change nothing about its value. -/
theorem digitsValue_padded (width n : Nat) : digitsValue (padded width n) = n := by
  rw [digitsValue, padded, Nat.ofDigitChars_append, Nat.ofDigitChars_replicate_zero, Nat.mul_zero]
  exact digitsValue_toDigits n

/-- A number with zeros in front of it has as many digits as are asked for, when it does not have
more of its own. -/
theorem length_padded {n : Nat} (hwidth : 0 < width) (hn : n < Nat.pow 10 width) :
    (padded width n).length = width := by
  have hlength : (Nat.toDigits 10 n).length ≤ width :=
    (Nat.length_toDigits_le_iff (by decide) hwidth).2 hn
  rw [padded, List.length_append, List.length_replicate]
  omega

/-! ## Numbers of ticks -/

variable (n : Nat)

/-- A unit that is `k` of a smaller one: what is left over is counted in the smaller one. -/
theorem carry (k unit : Nat) :
    n / (k * unit) * (k * unit) + n / unit % k * unit = n / unit * unit := by
  have hquotient : n / (k * unit) = n / unit / k := by
    rw [Nat.mul_comm, Nat.div_div_eq_div_mul]
  calc n / (k * unit) * (k * unit) + n / unit % k * unit
    _ = (n / unit / k * k) * unit + n / unit % k * unit := by rw [hquotient, Nat.mul_assoc]
    _ = (n / unit / k * k + n / unit % k) * unit := (Nat.add_mul _ _ _).symm
    _ = n / unit * unit := by rw [Nat.div_add_mod']

namespace Body

/-- Every part of a constant form is digits, whether the days and the digits after the point are
written or left out. -/
theorem all_isDigits_constant : (Body.constant n).parts.all isDigits = true := by
  refine List.all_eq_true.2 fun part hpart => ?_
  have hcases : part = Nat.toDigits 10 (n / ticksPerDay) ∨ ∃ width m, part = padded width m := by
    simp only [parts, constant, Seconds.parts, Option.elim_some, List.mem_append, List.mem_cons,
      Option.mem_toList] at hpart
    rcases hpart with hdays | rfl | rfl | rfl | hplaces
    · split at hdays
      · cases hdays
      · exact .inl (Option.mem_some.1 hdays).symm
    · exact .inr ⟨_, _, rfl⟩
    · exact .inr ⟨_, _, rfl⟩
    · exact .inr ⟨_, _, rfl⟩
    · split at hplaces
      · cases hplaces
      · exact .inr ⟨_, _, (Option.mem_some.1 hplaces).symm⟩
  rcases hcases with rfl | ⟨width, m, rfl⟩
  · exact isDigits_toDigits _
  · exact isDigits_padded width m

/-- Less than a second has seven digits after the point. -/
theorem length_places : (padded 7 (n % ticksPerSecond)).length = 7 := by
  have hsecond : ticksPerSecond = Nat.pow 10 7 := rfl
  exact length_padded (by decide) (hsecond ▸ Nat.mod_lt n (by decide))

/-- Every part of a constant form is below its limit, as it is a remainder. -/
theorem inRange_constant : (Body.constant n).inRange = true := by
  have hplaces : ∀ places ∈ (if n % ticksPerSecond = 0 then none
      else some (padded 7 (n % ticksPerSecond))), places.length ≤ 7 := by
    intro places hplaces
    split at hplaces
    · cases hplaces
    · rw [← Option.mem_some.1 hplaces, length_places]
  simp only [constant, inRange, Seconds.inRange, digitsValue_padded, Bool.and_eq_true,
    decide_eq_true_eq, Option.all_some, Option.all_eq_true]
  exact ⟨⟨Nat.mod_lt _ (by decide), Nat.mod_lt _ (by decide)⟩, Nat.mod_lt _ (by decide), hplaces⟩

/-- The constant form of a number of ticks stands for that number: what is left over of each unit is
counted in the next smaller one. -/
theorem ticks_constant : (Body.constant n).ticks = n := by
  have hdays : (if n / ticksPerDay = 0 then none else some (Nat.toDigits 10 (n / ticksPerDay))).elim
      0 (digitsValue · * ticksPerDay) = n / ticksPerDay * ticksPerDay := by
    split
    · next hzero => rw [hzero, Nat.zero_mul, Option.elim_none]
    · rw [Option.elim_some, digitsValue_toDigits]
  have hplaces : (if n % ticksPerSecond = 0 then none
      else some (padded 7 (n % ticksPerSecond))).elim 0 Seconds.placesTicks =
        n % ticksPerSecond := by
    split
    · next hzero => rw [hzero, Option.elim_none]
    · rw [Option.elim_some, Seconds.placesTicks, digitsValue_padded, length_places]
      exact Nat.mul_one _
  have hday : n / ticksPerDay * ticksPerDay + n / ticksPerHour % 24 * ticksPerHour =
      n / ticksPerHour * ticksPerHour := carry n 24 ticksPerHour
  have hhour : n / ticksPerHour * ticksPerHour + n / ticksPerMinute % 60 * ticksPerMinute =
      n / ticksPerMinute * ticksPerMinute := carry n 60 ticksPerMinute
  have hminute : n / ticksPerMinute * ticksPerMinute + n / ticksPerSecond % 60 * ticksPerSecond =
      n / ticksPerSecond * ticksPerSecond := carry n 60 ticksPerSecond
  have hsecond := Nat.div_add_mod' n ticksPerSecond
  rw [constant, ticks, Option.elim_some, Seconds.ticks, hdays, hplaces]
  simp only [digitsValue_padded]
  rw [← Nat.add_assoc, ← Nat.add_assoc, ← Nat.add_assoc, hday, hhour, hminute, hsecond]

end Body

/-! ## Spans -/

/-- The constant form of a span stands for its ticks, the least span included: the ticks of a form
have no bound. -/
theorem ticks_constantForm (span : TimeSpan) : span.constantForm.ticks = span.ticks.toInt := by
  rw [constantForm, Written.ticks, Body.ticks_constant]
  by_cases hneg : span.ticks.toInt < 0
  · rw [if_pos (decide_eq_true hneg)]
    omega
  · rw [if_neg (by simpa using hneg)]
    omega

/-- Only the least span has too many ticks without its sign; the parts of a constant form are always
in range. -/
theorem inRange_constantForm (span : TimeSpan) :
    span.constantForm.inRange = true ↔ span.ticks ≠ Int64.minValue := by
  have hmax : maxMagnitude = 9223372036854775807 := rfl
  have hmin : Int64.minValue.toInt = -9223372036854775808 := rfl
  have hleast := Int64.minValue_le_toInt span.ticks
  have hgreatest : span.ticks.toInt ≤ 9223372036854775807 := Int64.toInt_le span.ticks
  simp only [constantForm, Written.inRange, Body.inRange_constant, Body.ticks_constant,
    Bool.true_and, decide_eq_true_eq]
  rw [Ne, ← Int64.toInt_inj]
  omega

/-- A span in constant form is read as itself, and the least span is not read: the ticks are checked
to be a word before the sign is seen, and those of the least span are one too many without it. -/
theorem ofText?_constantText (span : TimeSpan) :
    ofText? span.constantText = if span.ticks = Int64.minValue then none else some span := by
  have hshape : span.constantForm.isShaped = true := Body.all_isDigits_constant _
  have htrim : Text.trim span.constantText = span.constantText := by
    refine Text.trim_of_forall fun c hc => ?_
    rw [constantText, String.toList_ofList] at hc
    exact isBlank_of_characters (Written.allCharacters_text hshape c hc)
  rw [ofText?_of_text hshape (by rw [htrim, constantText, String.toList_ofList]),
    ticks_constantForm, Int64.ofInt_toInt]
  by_cases hleast : span.ticks = Int64.minValue
  · rw [if_pos hleast, if_neg]
    rw [inRange_constantForm]
    exact not_not_intro hleast
  · rw [if_neg hleast, if_pos ((inRange_constantForm span).2 hleast)]

/-- The least span in constant form, which is not read. -/
theorem ofText?_constantText_least :
    constantText ⟨Int64.minValue⟩ = "-10675199.02:48:05.4775808" ∧
      ofText? "-10675199.02:48:05.4775808" = none := by
  decide

end MarkupValues.TimeSpan
