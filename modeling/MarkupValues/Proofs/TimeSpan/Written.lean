import Mathlib.Data.List.Basic
import MarkupValues.Proofs.Numeric.Decimal
import MarkupValues.Proofs.Text.Lowercase
import MarkupValues.TimeSpan

/-!
# How spans of time are written

`TimeSpan.Written` has a span part by part, each a run of digits, and says what the parts have to be
(`Body.inRange`) and how many ticks they stand for, in whole numbers without a bound. The text of a
span that is written so is read as these ticks, or not at all if a part or the number of ticks is
out of range (`Written.ticks?_text`), and no other text is read (`exists_written_of_ticks?`).
-/

namespace MarkupValues.TimeSpan

open Text (isDigits digitsValue)

/-- Seconds as they are written, and the digits after the point if there is one, as in `04` and
`04.50`. The digits are kept as characters, so that zeros in front of them and after them are not
lost. -/
structure Seconds where
  whole : List Char
  places : Option (List Char)

/-- A span without its sign as it is written: days alone as in `12`, or a clock reading as in
`02:03`, `02:03:04` and `1.02:03:04.50`. -/
inductive Body where
  /-- Days alone. -/
  | daysOnly (days : List Char)
  /-- Hours and minutes, after days and before seconds if there are any. -/
  | clock (days : Option (List Char)) (hours minutes : List Char) (seconds : Option Seconds)

/-- A span as it is written, after a minus sign or none. Nothing is asked of its parts here:
`isShaped` says that they are digits, and `inRange` that they are within their limits. -/
structure Written where
  negative : Bool
  body : Body

namespace Seconds

/-- Seconds as characters, with the point before the digits after it. -/
def text (s : Seconds) : List Char :=
  s.whole ++ s.places.elim [] ('.' :: ·)

/-- The runs of digits that seconds are made of, one or two of them. -/
def parts (s : Seconds) : List (List Char) :=
  s.whole :: s.places.toList

/-- Whether seconds are below sixty and have at most seven digits after the point. -/
def inRange (s : Seconds) : Bool :=
  digitsValue s.whole < 60 && s.places.all (·.length ≤ 7)

/-- The ticks of digits after the point: the first digit counts tenths of a second. -/
def placesTicks (places : List Char) : Nat :=
  digitsValue places * Nat.pow 10 (7 - places.length)

/-- The ticks of seconds: those of the whole seconds and those of the digits after the point. -/
def ticks (s : Seconds) : Nat :=
  digitsValue s.whole * ticksPerSecond + s.places.elim 0 placesTicks

end Seconds

namespace Body

/-- A span without its sign as characters: its runs of digits with points and colons between
them. -/
def text : Body → List Char
  | daysOnly days => days
  | clock days hours minutes seconds =>
    days.elim [] (· ++ ['.']) ++ (hours ++ ':' :: (minutes ++ seconds.elim [] (':' :: ·.text)))

/-- The runs of digits that a span is made of, from the left. -/
def parts : Body → List (List Char)
  | daysOnly days => [days]
  | clock days hours minutes seconds =>
    days.toList ++ hours :: minutes :: seconds.elim [] Seconds.parts

/-- Whether the parts of a clock reading are in range: hours below 24, and minutes and seconds below
60. Days have no limit of their own. -/
def inRange : Body → Bool
  | daysOnly _ => true
  | clock _ hours minutes seconds =>
    digitsValue hours < 24 && digitsValue minutes < 60 && seconds.all Seconds.inRange

/-- The ticks of a span without its sign. They may be more than a word holds, as natural numbers
have no bound. -/
def ticks : Body → Nat
  | daysOnly days => digitsValue days * ticksPerDay
  | clock days hours minutes seconds =>
    days.elim 0 (digitsValue · * ticksPerDay) +
      (digitsValue hours * ticksPerHour + digitsValue minutes * ticksPerMinute +
        seconds.elim 0 Seconds.ticks)

end Body

namespace Written

/-- A span as characters, with its minus sign if it has one. -/
def text (w : Written) : List Char :=
  if w.negative then '-' :: w.body.text else w.body.text

/-- Whether every part is one or more digits and nothing else. -/
def isShaped (w : Written) : Bool :=
  w.body.parts.all isDigits

/-- Whether the parts are in range, and the ticks without the sign too: what is read is checked
before the sign is put to it. -/
def inRange (w : Written) : Bool :=
  w.body.inRange && w.body.ticks ≤ maxMagnitude

/-- The ticks of a span, below zero when it has a minus sign. -/
def ticks (w : Written) : Int :=
  if w.negative then -w.body.ticks else w.body.ticks

end Written

/-! ## Parts -/

variable {digits cs : List Char} {n : Nat}

/-- No point is among digits, so that a text is cut at its points into runs of digits. -/
theorem point_not_mem (h : isDigits digits = true) : '.' ∉ digits := by
  intro hmem
  exact absurd ((Numeric.isDigits_iff.1 h).2 '.' hmem) (by decide)

/-- No colon is among digits, so that a text is cut at its colons into runs of digits. -/
theorem colon_not_mem (h : isDigits digits = true) : ':' ∉ digits := by
  intro hmem
  exact absurd ((Numeric.isDigits_iff.1 h).2 ':' hmem) (by decide)

/-- Digits are read as the number that they write. -/
theorem natural?_of_isDigits (h : isDigits digits = true) :
    Text.natural? digits = some (digitsValue digits) :=
  Numeric.natural?_eq_some_iff.2 ⟨h, rfl⟩

/-- What is read as a number is digits. -/
theorem isDigits_of_natural? (h : Text.natural? digits = some n) : isDigits digits = true :=
  (Numeric.natural?_eq_some_iff.1 h).1

/-- Digits are read as a part of a clock reading exactly when their number is below the limit. -/
theorem part?_of_isDigits (h : isDigits digits = true) (limit : Nat) :
    part? limit digits =
      if digitsValue digits < limit then some (digitsValue digits) else none := by
  rw [part?, natural?_of_isDigits h, Option.filter_some]
  simp only [decide_eq_true_eq]

/-- What is read as a part of a clock reading is digits. -/
theorem isDigits_of_part? {limit : Nat} (h : part? limit digits = some n) :
    isDigits digits = true :=
  isDigits_of_natural? (Option.filter_eq_some_iff.1 h).1

/-- Digits after the point are read as ticks exactly when there are seven at most. -/
theorem fraction?_of_isDigits (h : isDigits digits = true) :
    fraction? digits = if digits.length ≤ 7 then some (Seconds.placesTicks digits) else none := by
  rw [fraction?, natural?_of_isDigits h]
  rfl

/-- What is read as digits after the point is digits. -/
theorem isDigits_of_fraction? (h : fraction? digits = some n) : isDigits digits = true := by
  unfold fraction? at h
  split at h
  · obtain ⟨value, hvalue, -⟩ := Option.map_eq_some_iff.1 h
    exact isDigits_of_natural? hvalue
  · cases h

/-- A text is the pieces it is cut into, with the separator between them. -/
theorem eq_of_splitOn {c : Char} {pieces : List (List Char)} (h : cs.splitOn c = pieces) :
    cs = [c].intercalate pieces := by
  rw [← h, List.intercalate_splitOn]

/-! ## Seconds -/

/-- Seconds are read as their ticks if they are in range, which is asked of the whole seconds and of
the number of digits after the point. -/
theorem seconds?_text {s : Seconds} (h : s.parts.all isDigits = true) :
    seconds? s.text = if s.inRange then some s.ticks else none := by
  obtain ⟨whole, places⟩ := s
  cases places with
  | none =>
    have hwhole : isDigits whole = true := by simpa [Seconds.parts] using h
    have hcut : (whole ++ []).splitOn '.' = [whole] := by
      rw [List.append_nil, List.splitOn_eq_singleton (point_not_mem hwhole)]
    simp only [seconds?, Seconds.text, Option.elim_none, hcut, part?_of_isDigits hwhole]
    by_cases hlt : digitsValue whole < 60 <;> simp [hlt, Seconds.inRange, Seconds.ticks]
  | some places =>
    obtain ⟨hwhole, hplaces⟩ : isDigits whole = true ∧ isDigits places = true := by
      simpa [Seconds.parts] using h
    have hcut : (whole ++ '.' :: places).splitOn '.' = [whole, places] := by
      rw [List.splitOn_append_cons_self_of_not_mem (point_not_mem hwhole),
        List.splitOn_eq_singleton (point_not_mem hplaces)]
    simp only [seconds?, Seconds.text, Option.elim_some, hcut, part?_of_isDigits hwhole,
      fraction?_of_isDigits hplaces]
    by_cases hlt : digitsValue whole < 60 <;> by_cases hlength : places.length ≤ 7 <;>
      simp [hlt, hlength, Seconds.inRange, Seconds.ticks]

/-- What is read as seconds is written as seconds: there are one or two runs of digits between
points. -/
theorem exists_seconds_of_seconds? (h : seconds? cs = some n) :
    ∃ s : Seconds, s.parts.all isDigits = true ∧ cs = s.text := by
  unfold seconds? at h
  split at h
  · next whole hcut =>
    obtain ⟨value, hwhole, -⟩ := Option.map_eq_some_iff.1 h
    refine ⟨⟨whole, none⟩, ?_, ?_⟩
    · simpa [Seconds.parts] using isDigits_of_part? hwhole
    · simpa [Seconds.text] using eq_of_splitOn hcut
  · next whole places hcut =>
    obtain ⟨value, hwhole, h⟩ := Option.bind_eq_some_iff.1 h
    obtain ⟨ticks, hplaces, -⟩ := Option.bind_eq_some_iff.1 h
    refine ⟨⟨whole, some places⟩, ?_, ?_⟩
    · simp [Seconds.parts, isDigits_of_part? hwhole, isDigits_of_fraction? hplaces]
    · simpa [Seconds.text, List.intercalate] using eq_of_splitOn hcut
  · cases h

/-! ## Clock readings -/

/-- Neither digits nor points are the colon between the parts of a clock reading. -/
theorem colon_not_mem_text {s : Seconds} (h : s.parts.all isDigits = true) : ':' ∉ s.text := by
  obtain ⟨whole, places⟩ := s
  cases places with
  | none =>
    have hwhole : isDigits whole = true := by simpa [Seconds.parts] using h
    simpa [Seconds.text] using colon_not_mem hwhole
  | some places =>
    obtain ⟨hwhole, hplaces⟩ : isDigits whole = true ∧ isDigits places = true := by
      simpa [Seconds.parts] using h
    simp [Seconds.text, colon_not_mem hwhole, colon_not_mem hplaces]

/-- A clock reading is read as its ticks if its parts are in range. Cut at its colons it has its
hours, its minutes and its seconds if there are any, as none of them holds a colon. -/
theorem clock?_text {hours minutes : List Char} {seconds : Option Seconds}
    (h : (Body.clock none hours minutes seconds).parts.all isDigits = true) :
    clock? (Body.clock none hours minutes seconds).text =
      if (Body.clock none hours minutes seconds).inRange then
        some (Body.clock none hours minutes seconds).ticks
      else none := by
  cases seconds with
  | none =>
    obtain ⟨hhours, hminutes⟩ : isDigits hours = true ∧ isDigits minutes = true := by
      simpa [Body.parts] using h
    have hcut : (hours ++ ':' :: minutes).splitOn ':' = [hours, minutes] := by
      rw [List.splitOn_append_cons_self_of_not_mem (colon_not_mem hhours),
        List.splitOn_eq_singleton (colon_not_mem hminutes)]
    simp only [clock?, Body.text, Option.elim_none, List.nil_append, List.append_nil, hcut,
      part?_of_isDigits hhours, part?_of_isDigits hminutes]
    have hticks : (Body.clock none hours minutes none).ticks =
        digitsValue hours * ticksPerHour + digitsValue minutes * ticksPerMinute := by
      rw [Body.ticks, Option.elim_none, Option.elim_none, Nat.zero_add, Nat.add_zero]
    by_cases hh : digitsValue hours < 24 <;> by_cases hm : digitsValue minutes < 60 <;>
      simp [hh, hm, hticks, Body.inRange]
  | some seconds =>
    obtain ⟨hhours, hminutes, hseconds⟩ : isDigits hours = true ∧ isDigits minutes = true ∧
        seconds.parts.all isDigits = true := by
      simpa [Body.parts] using h
    have hcut : (hours ++ ':' :: (minutes ++ ':' :: seconds.text)).splitOn ':' =
        [hours, minutes, seconds.text] := by
      rw [List.splitOn_append_cons_self_of_not_mem (colon_not_mem hhours),
        List.splitOn_append_cons_self_of_not_mem (colon_not_mem hminutes),
        List.splitOn_eq_singleton (colon_not_mem_text hseconds)]
    simp only [clock?, Body.text, Option.elim_none, Option.elim_some, List.nil_append, hcut,
      part?_of_isDigits hhours, part?_of_isDigits hminutes, seconds?_text hseconds]
    have hticks : (Body.clock none hours minutes (some seconds)).ticks =
        digitsValue hours * ticksPerHour + digitsValue minutes * ticksPerMinute +
          seconds.ticks := by
      rw [Body.ticks, Option.elim_none, Option.elim_some, Nat.zero_add]
    by_cases hh : digitsValue hours < 24 <;> by_cases hm : digitsValue minutes < 60 <;>
      by_cases hs : seconds.inRange <;> simp [hh, hm, hs, hticks, Body.inRange]

/-- What is read as a clock reading is written as one: there are two or three pieces between colons,
and each of them is read. -/
theorem exists_clock_of_clock? (h : clock? cs = some n) :
    ∃ hours minutes seconds, (Body.clock none hours minutes seconds).parts.all isDigits = true ∧
      cs = (Body.clock none hours minutes seconds).text := by
  unfold clock? at h
  split at h
  · next hours minutes hcut =>
    simp only [Option.bind_eq_bind, Option.bind_eq_some_iff] at h
    obtain ⟨hourTicks, hhours, minuteTicks, hminutes, -⟩ := h
    refine ⟨hours, minutes, none, ?_, ?_⟩
    · simp [Body.parts, isDigits_of_part? hhours, isDigits_of_part? hminutes]
    · simpa [Body.text, List.intercalate] using eq_of_splitOn hcut
  · next hours minutes seconds hcut =>
    simp only [Option.bind_eq_bind, Option.bind_eq_some_iff] at h
    obtain ⟨hourTicks, hhours, minuteTicks, hminutes, secondTicks, hseconds, -⟩ := h
    obtain ⟨s, hs, rfl⟩ := exists_seconds_of_seconds? hseconds
    refine ⟨hours, minutes, some s, ?_, ?_⟩
    · simpa [Body.parts, isDigits_of_part? hhours, isDigits_of_part? hminutes] using hs
    · simpa [Body.text, List.intercalate] using eq_of_splitOn hcut
  · cases h

/-! ## Spans without a sign -/

/-- A clock reading starts with the digits of its hours, and goes on with a colon. -/
theorem afterDigits_clock {hours minutes : List Char} {seconds : Option Seconds}
    (h : isDigits hours = true) :
    Text.afterDigits (Body.clock none hours minutes seconds).text =
      ':' :: (minutes ++ seconds.elim [] (':' :: ·.text)) :=
  Text.dropWhile_append_of_stops (Numeric.isDigits_iff.1 h).2 (by simp)

/-- A span without its sign is read as its ticks if its parts are in range. Days alone, a clock
reading and a clock reading after days are told by what follows the first digits. -/
theorem magnitude?_text {body : Body} (h : body.parts.all isDigits = true) :
    magnitude? body.text = if body.inRange then some body.ticks else none := by
  cases body with
  | daysOnly days =>
    have hdays : isDigits days = true := by simpa [Body.parts] using h
    have hrest : Text.afterDigits days = [] :=
      Numeric.afterDigits_eq_nil.2 (Numeric.isDigits_iff.1 hdays).2
    rw [magnitude?, Body.text, hrest]
    simp only [natural?_of_isDigits hdays, Option.map_some]
    rfl
  | clock days hours minutes seconds =>
    cases days with
    | none =>
      have hhours : isDigits hours = true := by
        simp only [Body.parts, Option.toList_none, List.nil_append, List.all_cons,
          Bool.and_eq_true] at h
        exact h.1
      rw [magnitude?, afterDigits_clock hhours]
      exact clock?_text h
    | some days =>
      obtain ⟨hdays, hclock⟩ : isDigits days = true ∧
          (Body.clock none hours minutes seconds).parts.all isDigits = true := by
        simpa [Body.parts] using h
      have hall := (Numeric.isDigits_iff.1 hdays).2
      have htext : (Body.clock (some days) hours minutes seconds).text =
          days ++ '.' :: (Body.clock none hours minutes seconds).text := by
        simp [Body.text]
      have hticks : (Body.clock (some days) hours minutes seconds).ticks =
          digitsValue days * ticksPerDay + (Body.clock none hours minutes seconds).ticks := by
        rw [Body.ticks, Body.ticks, Option.elim_some, Option.elim_none, Nat.zero_add]
      have hrange : (Body.clock (some days) hours minutes seconds).inRange =
          (Body.clock none hours minutes seconds).inRange := rfl
      rw [magnitude?, htext, Numeric.afterDigits_point hall]
      simp only [Numeric.leadingDigits_point hall, natural?_of_isDigits hdays, clock?_text hclock]
      cases hr : (Body.clock none hours minutes seconds).inRange <;> simp [hr, hrange, hticks]

/-- What is read as a span without a sign is written as one. What follows the digits at its start
tells which of the forms it has. -/
theorem exists_body_of_magnitude? (h : magnitude? cs = some n) :
    ∃ body : Body, body.parts.all isDigits = true ∧ cs = body.text := by
  unfold magnitude? at h
  split at h
  · obtain ⟨days, hdays, -⟩ := Option.map_eq_some_iff.1 h
    exact ⟨.daysOnly cs, by simpa [Body.parts] using isDigits_of_natural? hdays, rfl⟩
  · next clock hrest =>
    simp only [Option.bind_eq_bind, Option.bind_eq_some_iff] at h
    obtain ⟨days, hdays, clockTicks, hclock, -⟩ := h
    obtain ⟨hours, minutes, seconds, hparts, rfl⟩ := exists_clock_of_clock? hclock
    refine ⟨.clock (some (Text.leadingDigits cs)) hours minutes seconds, ?_, ?_⟩
    · simpa [Body.parts, isDigits_of_natural? hdays] using hparts
    · have hcut := Text.leadingDigits_append_afterDigits cs
      rw [hrest] at hcut
      simpa [Body.text] using hcut.symm
  · obtain ⟨hours, minutes, seconds, hparts, rfl⟩ := exists_clock_of_clock? h
    exact ⟨.clock none hours minutes seconds, hparts, rfl⟩

/-! ## Signs -/

/-- A span without its sign starts with a digit, that of its days or of its hours. -/
theorem Body.exists_text_eq_cons {body : Body} (h : body.parts.all isDigits = true) :
    ∃ c rest, body.text = c :: rest ∧ c.isDigit = true := by
  have hfirst (rest : List Char) {digits : List Char} (h : isDigits digits = true) :
      ∃ c tail, digits ++ rest = c :: tail ∧ c.isDigit = true := by
    obtain ⟨hne, hall⟩ := Numeric.isDigits_iff.1 h
    obtain ⟨c, tail, rfl⟩ := List.exists_cons_of_ne_nil hne
    exact ⟨c, tail ++ rest, rfl, hall c (.head _)⟩
  have hparts := List.all_eq_true.1 h
  cases body with
  | daysOnly days =>
    obtain ⟨c, tail, htext, hc⟩ := hfirst [] (hparts days (by simp [parts]))
    exact ⟨c, tail, (List.append_nil days).symm.trans htext, hc⟩
  | clock days hours minutes seconds =>
    cases days with
    | none =>
      rw [text, Option.elim_none, List.nil_append]
      exact hfirst _ (hparts hours (by simp [parts]))
    | some days =>
      rw [text, Option.elim_some, List.append_assoc]
      exact hfirst _ (hparts days (by simp [parts]))

/-- A span without its sign does not start with one. -/
theorem Body.text_ne_minus {body : Body} (h : body.parts.all isDigits = true) (tail : List Char) :
    body.text ≠ '-' :: tail := by
  intro heq
  obtain ⟨c, rest, htext, hc⟩ := exists_text_eq_cons h
  rw [htext, List.cons.injEq] at heq
  rw [heq.1] at hc
  cases hc

/-- After a minus sign the ticks are those of the rest, less than zero. They are checked to be a
word before. -/
theorem ticks?_minus (body : List Char) :
    ticks? ('-' :: body) = (ticks?.bounded? body).map fun m : Nat => -(m : Int) := by
  rw [ticks?]
  cases ticks?.bounded? body <;> rfl

/-- Without a minus sign the ticks are those of the text, once they are checked to be a word. -/
theorem ticks?_of_ne_minus (h : ∀ tail, cs ≠ '-' :: tail) :
    ticks? cs = (ticks?.bounded? cs).map fun m : Nat => (m : Int) := by
  rw [ticks?.eq_2 _ h]
  cases ticks?.bounded? cs <;> rfl

/-- The text of a span is read as its ticks if these and its parts are in range. The minus sign is
told from the first digit. -/
theorem Written.ticks?_text {w : Written} (h : w.isShaped = true) :
    ticks? w.text = if w.inRange then some w.ticks else none := by
  obtain ⟨negative, body⟩ := w
  have hbounded : ticks?.bounded? body.text =
      if body.inRange && body.ticks ≤ maxMagnitude then some body.ticks else none := by
    rw [ticks?.bounded?, magnitude?_text h]
    by_cases hrange : body.inRange <;> by_cases hmax : body.ticks ≤ maxMagnitude <;>
      simp [hrange, hmax, Option.filter]
  cases negative with
  | true =>
    rw [text, if_pos rfl, ticks?_minus, hbounded, inRange]
    split <;> rfl
  | false =>
    rw [text, if_neg Bool.false_ne_true, ticks?_of_ne_minus (Body.text_ne_minus h), hbounded,
      inRange]
    split <;> rfl

/-- What is read as a span is written as one, after a minus sign or none. -/
theorem exists_written_of_ticks? {n : Int} (h : ticks? cs = some n) :
    ∃ w : Written, w.isShaped = true ∧ cs = w.text := by
  have hbody {cs : List Char} {m : Nat} (h : ticks?.bounded? cs = some m) :
      ∃ body : Body, body.parts.all isDigits = true ∧ cs = body.text :=
    exists_body_of_magnitude? (Option.filter_eq_some_iff.1 h).1
  by_cases hminus : ∃ tail, cs = '-' :: tail
  · obtain ⟨tail, rfl⟩ := hminus
    rw [ticks?_minus] at h
    obtain ⟨m, hm, -⟩ := Option.map_eq_some_iff.1 h
    obtain ⟨body, hparts, rfl⟩ := hbody hm
    exact ⟨⟨true, body⟩, hparts, rfl⟩
  · rw [ticks?_of_ne_minus (not_exists.1 hminus)] at h
    obtain ⟨m, hm, -⟩ := Option.map_eq_some_iff.1 h
    obtain ⟨body, hparts, rfl⟩ := hbody hm
    exact ⟨⟨false, body⟩, hparts, rfl⟩

/-! ## Characters -/

/-- The minus sign, the point, the digits and the colon, which all spans are written with. -/
def characters : CodePoints where
  ranges := [(0x2D, 0x2E), (0x30, 0x3A)]

/-- Whether every character is one that spans are written with. None of them has case, and none is
white space. -/
def AllCharacters (cs : List Char) : Prop :=
  ∀ c ∈ cs, characters.contains c = true

/-- Digits are characters of spans. -/
theorem allCharacters_of_isDigits (h : isDigits digits = true) : AllCharacters digits := by
  intro c hc
  have hrange : 0x30 ≤ c.toNat ∧ c.toNat ≤ 0x39 :=
    Char.isDigit_iff_toNat.1 ((Numeric.isDigits_iff.1 h).2 c hc)
  apply CodePoints.of_forall_range' hrange.1 hrange.2
  decide

/-- Seconds are written with characters of spans. -/
theorem Seconds.allCharacters_text {s : Seconds} (h : s.parts.all isDigits = true) :
    AllCharacters s.text := by
  obtain ⟨whole, places⟩ := s
  have hparts := List.all_eq_true.1 h
  have hwhole : AllCharacters whole := allCharacters_of_isDigits (hparts whole (.head _))
  refine List.forall_mem_append.2 ⟨hwhole, ?_⟩
  cases places with
  | none => exact nofun
  | some places =>
    have hplaces := allCharacters_of_isDigits (hparts places (.tail _ (.head _)))
    exact List.forall_mem_cons.2 ⟨rfl, hplaces⟩

/-- A span without its sign is written with characters of spans, part by part with the marks between
them. -/
theorem Body.allCharacters_text {body : Body} (h : body.parts.all isDigits = true) :
    AllCharacters body.text := by
  have hparts {part : List Char} (hpart : part ∈ body.parts) : AllCharacters part :=
    allCharacters_of_isDigits (List.all_eq_true.1 h part hpart)
  cases body with
  | daysOnly days => exact hparts (.head _)
  | clock days hours minutes seconds =>
    have hhours : AllCharacters hours := hparts (by simp [parts])
    have hminutes : AllCharacters minutes := hparts (by simp [parts])
    refine List.forall_mem_append.2 ⟨?_, List.forall_mem_append.2 ⟨hhours,
      List.forall_mem_cons.2 ⟨rfl, List.forall_mem_append.2 ⟨hminutes, ?_⟩⟩⟩⟩
    · cases days with
      | none => exact nofun
      | some days =>
        have hdays : AllCharacters days := hparts (by simp [parts])
        exact List.forall_mem_append.2 ⟨hdays, List.forall_mem_singleton.2 rfl⟩
    · cases seconds with
      | none => exact nofun
      | some seconds =>
        refine List.forall_mem_cons.2 ⟨rfl, Seconds.allCharacters_text ?_⟩
        refine List.all_eq_true.2 fun part hpart => List.all_eq_true.1 h part ?_
        simp [parts, hpart]

/-- A span is written with digits, points, colons and a minus sign. -/
theorem Written.allCharacters_text {w : Written} (h : w.isShaped = true) :
    AllCharacters w.text := by
  have hbody := Body.allCharacters_text h
  unfold text
  split
  · exact List.forall_mem_cons.2 ⟨rfl, hbody⟩
  · exact hbody

/-- None of these characters is white space, so that a span has none around it. -/
theorem isBlank_of_characters {c : Char} (h : characters.contains c = true) :
    Text.isBlank c = false := by
  apply CodePoints.of_forall_codes h
  decide

/-! ## Texts -/

/-- The ticks of a span in range are a word, which is not changed when it is taken for one. -/
theorem Written.toInt_ofInt_ticks {w : Written} (h : w.inRange = true) :
    (Int64.ofInt w.ticks).toInt = w.ticks := by
  have hmax : maxMagnitude = 9223372036854775807 := rfl
  have hle : w.body.ticks ≤ maxMagnitude := by
    unfold inRange at h
    simpa using (Bool.and_eq_true_iff.1 h).2
  have hrange : -(maxMagnitude : Int) ≤ w.ticks ∧ w.ticks ≤ maxMagnitude := by
    unfold ticks
    split <;> omega
  exact Int64.toInt_ofInt_of_le (by omega) (by omega)

/-- The text of a span in some white space is read as its ticks, if it is in range. -/
theorem ofText?_of_text {s : String} {w : Written} (h : w.isShaped = true)
    (htext : (Text.trim s).toList = w.text) :
    ofText? s = if w.inRange then some ⟨Int64.ofInt w.ticks⟩ else none := by
  rw [ofText?_eq_map, htext, w.ticks?_text h]
  split <;> rfl

/-- A text is read as a span exactly when it is one in some white space, written part by part, and
its parts and its ticks are in range; these are its ticks then. -/
theorem ofText?_eq_some_iff {s : String} {span : TimeSpan} :
    ofText? s = some span ↔ ∃ w : Written, w.isShaped = true ∧ w.inRange = true ∧
      (Text.trim s).toList = w.text ∧ span.ticks.toInt = w.ticks := by
  constructor
  · intro h
    obtain ⟨n, hn, -⟩ := Option.map_eq_some_iff.1 ((ofText?_eq_map s).symm.trans h)
    obtain ⟨w, hshape, htext⟩ := exists_written_of_ticks? hn
    rw [ofText?_of_text hshape htext] at h
    split at h
    · next hrange =>
      cases h
      exact ⟨w, hshape, hrange, htext, w.toInt_ofInt_ticks hrange⟩
    · cases h
  · rintro ⟨w, hshape, hrange, htext, hticks⟩
    rw [ofText?_of_text hshape htext, if_pos hrange, ← hticks, Int64.ofInt_toInt]

end MarkupValues.TimeSpan
