import MarkupValues.Proofs.Reading.Failures
import MarkupValues.Proofs.TimeSpan.Choice

/-!
# Spans of time in the arithmetic of words

`Written.onWords` computes the ticks of a span on signed words of 64 bits, one operation after
another. Where digits or days may be too many the operation is checked and the span refused; every
other operation is taken to be in range, and an overflow if it is not. `Written.onWords_eq` says
that no operation overflows and that the word is the exact number of ticks, so that
`ofText?_iff_written` gives the texts that are read, what they are read as, and why that is what
words compute (`parseOnWords_eq`).
-/

namespace MarkupValues.TimeSpan

open Text (isDigits digitsValue)

/-- How a computation on words ends without a word. Only one of the two ways is one that the reader
may take. -/
inductive Stop where
  /-- A check has failed: the text is no span. -/
  | refused
  /-- An operation without a check has left the range of words. -/
  | overflow
deriving DecidableEq

/-- The word that is a whole number, or else a way to end. Words have 64 bits and a sign. -/
def wordOr (stop : Stop) (n : Int) : Except Stop Int64 :=
  if Int64.minValue.toInt ≤ n ∧ n ≤ Int64.maxValue.toInt then .ok (Int64.ofInt n) else .error stop

/-- The result of an operation that is checked: outside the range of words the text is refused. -/
def checked (n : Int) : Except Stop Int64 :=
  wordOr .refused n

/-- The result of an operation that is not checked: outside the range of words it would wrap around,
which ends the computation here. -/
def unchecked (n : Int) : Except Stop Int64 :=
  wordOr .overflow n

/-- The word that digits write. Digits that write no word are refused. -/
def digitsOnWords (digits : List Char) : Except Stop Int64 :=
  checked (digitsValue digits)

/-- A part of a clock reading, which has to be below its limit to be read. -/
def partOnWords (limit : Nat) (digits : List Char) : Except Stop Int64 := do
  let n ← digitsOnWords digits
  if n.toInt < limit then return n else throw .refused

/-- The ticks of the digits after the point of the seconds, of which there may be seven: as many
zeros as are missing are put after them. -/
def placesOnWords (places : List Char) : Except Stop Int64 :=
  if places.length ≤ 7 then do
    let n ← digitsOnWords places
    let scale ← unchecked (Nat.pow 10 (7 - places.length))
    unchecked (n.toInt * scale.toInt)
  else throw .refused

/-- The ticks of a clock reading, summed up from the left. None of the operations is checked, as the
parts have been compared with their limits before. -/
def clockOnWords (hours minutes seconds placesTicks : Int64) : Except Stop Int64 := do
  let hourTicks ← unchecked (hours.toInt * ticksPerHour)
  let minuteTicks ← unchecked (minutes.toInt * ticksPerMinute)
  let upToMinutes ← unchecked (hourTicks.toInt + minuteTicks.toInt)
  let secondTicks ← unchecked (seconds.toInt * ticksPerSecond)
  let upToSeconds ← unchecked (upToMinutes.toInt + secondTicks.toInt)
  unchecked (upToSeconds.toInt + placesTicks.toInt)

/-- The ticks of a span without its sign, computed from the left as they would be on a machine. What
is not written counts as zero. -/
def Body.onWords : Body → Except Stop Int64
  | daysOnly days => do
    let days ← digitsOnWords days
    checked (days.toInt * ticksPerDay)
  | clock days hours minutes seconds => do
    let days ← digitsOnWords (days.getD ['0'])
    let hours ← partOnWords 24 hours
    let minutes ← partOnWords 60 minutes
    let whole ← partOnWords 60 (seconds.elim ['0'] Seconds.whole)
    let placesTicks ← (seconds.bind Seconds.places).elim (pure 0) placesOnWords
    let dayTicks ← checked (days.toInt * ticksPerDay)
    let clockTicks ← clockOnWords hours minutes whole placesTicks
    checked (dayTicks.toInt + clockTicks.toInt)

/-- The ticks of a span, where the sign is put before ticks that have been checked. -/
def Written.onWords (w : Written) : Except Stop Int64 := do
  let ticks ← w.body.onWords
  if w.negative then unchecked (-ticks.toInt) else return ticks

/-! ## One operation -/

/-- The word of a number of ticks, which has the same number when this is in range. -/
def word (n : Nat) : Int64 :=
  Int64.ofInt n

/-- The word of a number of ticks in range is that number. -/
theorem toInt_word {n : Nat} (h : n ≤ maxMagnitude) : (word n).toInt = n := by
  unfold maxMagnitude at h
  exact Int64.toInt_ofInt_of_le (by omega) (by omega)

/-- A number of ticks in range is a word, whether this is checked or not. -/
theorem wordOr_of_le {n : Nat} (h : n ≤ maxMagnitude) (stop : Stop) :
    wordOr stop n = .ok (word n) := by
  have hmax : Int64.maxValue.toInt = (maxMagnitude : Int) := rfl
  have hmin : Int64.minValue.toInt ≤ 0 := by decide
  exact if_pos ⟨by omega, by omega⟩

/-- A number of ticks is checked to be in range: there is no number of ticks below zero, so that the
one bound is enough. -/
theorem checked_eq (n : Nat) :
    checked n = if n ≤ maxMagnitude then .ok (word n) else .error .refused := by
  have hmax : Int64.maxValue.toInt = (maxMagnitude : Int) := rfl
  split
  · next h => exact wordOr_of_le h .refused
  · next h => exact if_neg (by omega)

variable {a b : Nat}

/-- A product in range of ticks in range does not wrap around. -/
theorem unchecked_mul (h : a ≤ maxMagnitude) (hab : a * b ≤ maxMagnitude) :
    unchecked ((word a).toInt * b) = .ok (word (a * b)) := by
  rw [toInt_word h, ← Int.natCast_mul]
  exact wordOr_of_le hab .overflow

/-- A sum in range does not wrap around. -/
theorem unchecked_add (hab : a + b ≤ maxMagnitude) :
    unchecked ((word a).toInt + (word b).toInt) = .ok (word (a + b)) := by
  rw [toInt_word (by omega), toInt_word (by omega), ← Int.natCast_add]
  exact wordOr_of_le hab .overflow

/-- A product of ticks in range is checked to be in range. -/
theorem checked_mul (h : a ≤ maxMagnitude) :
    checked ((word a).toInt * b) =
      if a * b ≤ maxMagnitude then .ok (word (a * b)) else .error .refused := by
  rw [toInt_word h, ← Int.natCast_mul, checked_eq]

/-- A sum of ticks in range is checked to be in range. -/
theorem checked_add (ha : a ≤ maxMagnitude) (hb : b ≤ maxMagnitude) :
    checked ((word a).toInt + (word b).toInt) =
      if a + b ≤ maxMagnitude then .ok (word (a + b)) else .error .refused := by
  rw [toInt_word ha, toInt_word hb, ← Int.natCast_add, checked_eq]

/-! ## Parts -/

/-- A part of a clock reading is read exactly when it is below its limit, however many digits it
has. -/
theorem partOnWords_eq {limit : Nat} (hlimit : limit ≤ maxMagnitude) (digits : List Char) :
    partOnWords limit digits =
      if digitsValue digits < limit then .ok (word (digitsValue digits)) else .error .refused := by
  rw [partOnWords, digitsOnWords, checked_eq]
  by_cases hmax : digitsValue digits ≤ maxMagnitude
  · rw [if_pos hmax]
    show (if (word (digitsValue digits)).toInt < limit then _ else _) = _
    rw [toInt_word hmax]
    simp only [Int.ofNat_lt]
    rfl
  · rw [if_neg hmax, if_neg (by omega)]
    rfl

/-- A number is below the power of ten for its digits, by induction on the digits, of which the
first one counts for the highest power. -/
theorem digitsValue_lt {digits : List Char} (h : Numeric.AllDigits digits) :
    digitsValue digits < Nat.pow 10 digits.length := by
  induction digits with
  | nil => decide
  | cons c digits ih =>
    obtain ⟨hc, hdigits⟩ := List.forall_mem_cons.1 h
    have hdigit : c.toNat - '0'.toNat ≤ 9 := by
      have hlast : c.toNat ≤ '9'.toNat := (Char.isDigit_iff_toNat.1 hc).2
      have hnine : '9'.toNat = '0'.toNat + 9 := rfl
      omega
    have hvalue : digitsValue (c :: digits) =
        Nat.pow 10 digits.length * (c.toNat - '0'.toNat) + digitsValue digits := by
      rw [digitsValue, Nat.ofDigitChars_cons, Nat.ofDigitChars_eq_ofDigitChars_zero, Nat.mul_zero,
        Nat.zero_add]
      rfl
    have hstep : Nat.pow 10 (c :: digits).length = Nat.pow 10 digits.length * 10 := rfl
    calc digitsValue (c :: digits)
      _ = Nat.pow 10 digits.length * (c.toNat - '0'.toNat) + digitsValue digits := hvalue
      _ < Nat.pow 10 digits.length * (c.toNat - '0'.toNat) + Nat.pow 10 digits.length :=
        Nat.add_lt_add_left (ih hdigits) _
      _ = Nat.pow 10 digits.length * (c.toNat - '0'.toNat + 1) := rfl
      _ ≤ Nat.pow 10 digits.length * 10 := Nat.mul_le_mul_left _ (by omega)
      _ = Nat.pow 10 (c :: digits).length := hstep.symm

/-- The digits after the point make less than a second, since there are seven at most. -/
theorem placesTicks_lt {places : List Char} (h : isDigits places = true)
    (hlength : places.length ≤ 7) : Seconds.placesTicks places < ticksPerSecond := by
  have hvalue := digitsValue_lt (Numeric.isDigits_iff.1 h).2
  have hscale : 0 < Nat.pow 10 (7 - places.length) := Nat.pow_pos (by decide)
  calc Seconds.placesTicks places
    _ < Nat.pow 10 places.length * Nat.pow 10 (7 - places.length) :=
      Nat.mul_lt_mul_of_pos_right hvalue hscale
    _ = Nat.pow 10 (places.length + (7 - places.length)) := (Nat.pow_add 10 _ _).symm
    _ = ticksPerSecond := by rw [Nat.add_sub_of_le hlength]; rfl

/-- The digits after the point are read exactly when there are seven at most, and no operation on
them leaves the range of words then. -/
theorem placesOnWords_eq {places : List Char} (h : isDigits places = true) :
    placesOnWords places =
      if places.length ≤ 7 then .ok (word (Seconds.placesTicks places)) else .error .refused := by
  unfold placesOnWords
  split
  · next hlength =>
    have hticks := placesTicks_lt h hlength
    have hscale : Nat.pow 10 (7 - places.length) ≤ Nat.pow 10 7 :=
      Nat.pow_le_pow_right (by decide) (Nat.sub_le 7 _)
    have hone : 1 ≤ Nat.pow 10 (7 - places.length) := Nat.pow_pos (by decide)
    have hvalue : digitsValue places ≤ Seconds.placesTicks places :=
      Nat.le_mul_of_pos_right _ hone
    have hsecond : ticksPerSecond ≤ maxMagnitude := by decide
    have hseven : Nat.pow 10 7 ≤ maxMagnitude := by decide
    rw [digitsOnWords, checked_eq, if_pos (by omega)]
    show (unchecked (Nat.pow 10 (7 - places.length) : Nat) >>= fun scale : Int64 =>
      unchecked ((word (digitsValue places)).toInt * scale.toInt)) = _
    rw [unchecked, wordOr_of_le (by omega)]
    show unchecked ((word (digitsValue places)).toInt *
      (word (Nat.pow 10 (7 - places.length))).toInt) = _
    rw [toInt_word (n := Nat.pow 10 _) (by omega)]
    exact unchecked_mul (by omega) (by unfold Seconds.placesTicks at hticks; omega)
  · rfl

/-! ## Spans -/

/-- The ticks of a clock reading are less than a day, and so are all sums on the way. -/
theorem clockOnWords_eq {hours minutes seconds placesTicks : Nat} (hh : hours < 24)
    (hm : minutes < 60) (hs : seconds < 60) (hp : placesTicks < ticksPerSecond) :
    clockOnWords (word hours) (word minutes) (word seconds) (word placesTicks) =
      .ok (word (hours * ticksPerHour + minutes * ticksPerMinute + seconds * ticksPerSecond +
        placesTicks)) := by
  have hsecond : ticksPerSecond = 10000000 := rfl
  have hminute : ticksPerMinute = 600000000 := rfl
  have hhour : ticksPerHour = 36000000000 := rfl
  have hmax : maxMagnitude = 9223372036854775807 := rfl
  rw [hsecond] at hp
  rw [clockOnWords, hhour, hminute, hsecond]
  rw [unchecked_mul (by omega) (by omega), Reading.bind_of_ok rfl,
    unchecked_mul (by omega) (by omega), Reading.bind_of_ok rfl,
    unchecked_add (by omega), Reading.bind_of_ok rfl,
    unchecked_mul (by omega) (by omega), Reading.bind_of_ok rfl,
    unchecked_add (by omega), Reading.bind_of_ok rfl, unchecked_add (by omega)]

/-- The days of a span are computed as they are, and refused where their ticks are out of range. -/
theorem onWords_daysOnly (days : List Char) : (Body.daysOnly days).onWords =
    if (Body.daysOnly days).ticks ≤ maxMagnitude then .ok (word (Body.daysOnly days).ticks)
    else .error .refused := by
  have hday : 1 ≤ ticksPerDay := by decide
  have hle : digitsValue days ≤ digitsValue days * ticksPerDay := Nat.le_mul_of_pos_right _ hday
  rw [Body.onWords, Body.ticks, digitsOnWords, checked_eq]
  by_cases hdays : digitsValue days ≤ maxMagnitude
  · rw [if_pos hdays, Reading.bind_of_ok rfl, checked_mul hdays]
  · rw [if_neg hdays, Reading.bind_of_error rfl, if_neg (by omega)]

/-- What a clock reading counts as, with zero for what is not written, in the grouping in which it
is computed. -/
theorem ticks_clock (days : Option (List Char)) (hours minutes : List Char)
    (seconds : Option Seconds) : (Body.clock days hours minutes seconds).ticks =
      digitsValue (days.getD ['0']) * ticksPerDay +
        (digitsValue hours * ticksPerHour + digitsValue minutes * ticksPerMinute +
          digitsValue (seconds.elim ['0'] Seconds.whole) * ticksPerSecond +
          (seconds.bind Seconds.places).elim 0 Seconds.placesTicks) := by
  have hzero (ticks : Nat) : 0 = digitsValue ['0'] * ticks := (Nat.zero_mul ticks).symm
  have hdays : days.elim 0 (digitsValue · * ticksPerDay) =
      digitsValue (days.getD ['0']) * ticksPerDay := by
    cases days with
    | none => exact hzero _
    | some => rfl
  have hseconds : seconds.elim 0 Seconds.ticks =
      digitsValue (seconds.elim ['0'] Seconds.whole) * ticksPerSecond +
        (seconds.bind Seconds.places).elim 0 Seconds.placesTicks := by
    cases seconds with
    | none => exact hzero _
    | some => rfl
  rw [Body.ticks, hdays, hseconds, Nat.add_assoc (_ + _)]

/-- Which clock readings have their parts in range, with zero for what is not written. -/
theorem inRange_clock (days : Option (List Char)) (hours minutes : List Char)
    (seconds : Option Seconds) : (Body.clock days hours minutes seconds).inRange = true ↔
      digitsValue hours < 24 ∧ digitsValue minutes < 60 ∧
        digitsValue (seconds.elim ['0'] Seconds.whole) < 60 ∧
        ∀ places ∈ seconds.bind Seconds.places, places.length ≤ 7 := by
  have hzero : digitsValue ['0'] < 60 := by decide
  cases seconds <;> simp [Body.inRange, Seconds.inRange, hzero, and_assoc, Option.all_eq_true]

/-- The digits after the point of a clock reading count as they are, or as zero. -/
theorem onWords_places {places : Option (List Char)}
    (h : ∀ digits ∈ places, isDigits digits = true) :
    places.elim (pure 0) placesOnWords =
      if ∀ digits ∈ places, digits.length ≤ 7 then .ok (word (places.elim 0 Seconds.placesTicks))
      else .error .refused := by
  cases places with
  | none => rfl
  | some digits =>
    rw [Option.elim_some, Option.elim_some, placesOnWords_eq (h digits rfl)]
    simp only [Option.mem_some_iff, forall_eq']

/-- A check that comes first is a condition on all that follows, so that a computation turns into
one condition and one result. -/
theorem ite_bind {α β : Type} {p : Prop} [Decidable p] (a : α) (stop : Stop)
    (f : α → Except Stop β) :
    ((if p then .ok a else .error stop) >>= f) = if p then f a else .error stop := by
  split <;> rfl

/-- Days and a clock reading are added up if the sum is in range. The product for the days is
checked first, and the sum after it. -/
theorem onWords_sum {d clockTicks : Nat} (hd : d ≤ maxMagnitude)
    (hclock : clockTicks ≤ maxMagnitude) :
    (do
      let dayTicks ← checked ((word d).toInt * ticksPerDay)
      checked (dayTicks.toInt + (word clockTicks).toInt)) =
      if d * ticksPerDay + clockTicks ≤ maxMagnitude then
        .ok (word (d * ticksPerDay + clockTicks))
      else .error .refused := by
  rw [checked_mul hd]
  by_cases hdays : d * ticksPerDay ≤ maxMagnitude
  · rw [if_pos hdays, Reading.bind_of_ok rfl, checked_add hdays hclock]
  · rw [if_neg hdays, Reading.bind_of_error rfl, if_neg (by omega)]

/-- A clock reading is computed as it is, part by part from the left, and refused where a part or
the sum is out of range. Which check fails first does not matter. -/
theorem onWords_clock {days : Option (List Char)} {hours minutes : List Char}
    {seconds : Option Seconds}
    (hplaces : ∀ digits ∈ seconds.bind Seconds.places, isDigits digits = true) :
    (Body.clock days hours minutes seconds).onWords =
      if (Body.clock days hours minutes seconds).inRange = true ∧
          (Body.clock days hours minutes seconds).ticks ≤ maxMagnitude then
        .ok (word (Body.clock days hours minutes seconds).ticks)
      else .error .refused := by
  have hsecond : ticksPerSecond = 10000000 := rfl
  have hminute : ticksPerMinute = 600000000 := rfl
  have hhour : ticksPerHour = 36000000000 := rfl
  have hmax : maxMagnitude = 9223372036854775807 := rfl
  have hday : 1 ≤ ticksPerDay := by decide
  have hp : (∀ digits ∈ seconds.bind Seconds.places, digits.length ≤ 7) →
      (seconds.bind Seconds.places).elim 0 Seconds.placesTicks < ticksPerSecond := by
    intro hlength
    cases hbind : seconds.bind Seconds.places with
    | none => decide
    | some digits => exact placesTicks_lt (hplaces digits hbind) (hlength digits hbind)
  rw [Body.onWords, ticks_clock, digitsOnWords, checked_eq, partOnWords_eq (by decide),
    partOnWords_eq (by decide), partOnWords_eq (by decide), onWords_places hplaces]
  simp only [inRange_clock, ite_bind, ← ite_and]
  generalize digitsValue (days.getD ['0']) = d, digitsValue hours = h, digitsValue minutes = m,
    digitsValue (seconds.elim ['0'] Seconds.whole) = s,
    (seconds.bind Seconds.places).elim 0 Seconds.placesTicks = p at hp ⊢
  have hdays : d ≤ d * ticksPerDay := Nat.le_mul_of_pos_right _ hday
  by_cases hchecks : d ≤ maxMagnitude ∧ h < 24 ∧ m < 60 ∧ s < 60 ∧
      ∀ digits ∈ seconds.bind Seconds.places, digits.length ≤ 7
  · obtain ⟨hd, hparts⟩ := hchecks
    have ⟨hh, hm, hs, hlength⟩ := hparts
    have hclock : h * ticksPerHour + m * ticksPerMinute + s * ticksPerSecond + p ≤
        maxMagnitude := by
      have hp := hp hlength
      rw [hsecond] at hp ⊢
      rw [hminute, hhour, hmax]
      omega
    rw [if_pos ⟨hd, hparts⟩, clockOnWords_eq hh hm hs (hp hlength)]
    simp only [and_iff_right hparts]
    exact onWords_sum hd hclock
  · rw [if_neg hchecks, if_neg]
    rintro ⟨hparts, hle⟩
    exact hchecks ⟨by omega, hparts⟩

/-- A span is computed as it is, and refused where it is out of range; no operation without a
check wraps around. The sign is put before ticks in range, so that this does not leave the words
either. -/
theorem Written.onWords_eq {w : Written} (h : w.isShaped = true) :
    w.onWords = if w.inRange then .ok (Int64.ofInt w.ticks) else .error .refused := by
  obtain ⟨negative, body⟩ := w
  have hbody : body.onWords =
      if body.inRange = true ∧ body.ticks ≤ maxMagnitude then .ok (word body.ticks)
      else .error .refused := by
    cases body with
    | daysOnly days =>
      rw [onWords_daysOnly]
      simp only [Body.inRange, true_and]
    | clock days hours minutes seconds =>
      refine onWords_clock fun digits hdigits => List.all_eq_true.1 h digits ?_
      obtain ⟨s, rfl, hs⟩ := Option.bind_eq_some_iff.1 hdigits
      simp [Body.parts, Seconds.parts, hs]
  have hrange : (Written.mk negative body).inRange = true ↔
      body.inRange = true ∧ body.ticks ≤ maxMagnitude := by
    simp [inRange]
  simp only [onWords, hbody, hrange, ite_bind]
  by_cases hle : body.inRange = true ∧ body.ticks ≤ maxMagnitude
  case neg => rw [if_neg hle, if_neg hle]
  rw [if_pos hle, if_pos hle, toInt_word hle.2]
  cases negative with
  | false => rfl
  | true =>
    have hmax : maxMagnitude = 9223372036854775807 := rfl
    have hmin : Int64.minValue.toInt = -9223372036854775808 := rfl
    have hpos : 0 ≤ Int64.maxValue.toInt := by decide
    show unchecked (-(body.ticks : Int)) = .ok (Int64.ofInt (-(body.ticks : Int)))
    rw [unchecked, wordOr, if_pos ⟨by omega, by omega⟩]

/-! ## Texts -/

/-- The ticks of a text: its parts as they are parsed, on words. A text that is not parsed is
refused. -/
def parseOnWords (s : String) : Except Stop Int64 :=
  match Written.parse? (Text.trim s).toList with
  | some w => w.onWords
  | none => .error .refused

/-- A text that is parsed and computed on words comes to the same as one that is cut into its parts
and computed without a bound. -/
theorem parseOnWords_eq (s : String) :
    parseOnWords s = ((ofText? s).map ticks).elim (.error .refused) .ok := by
  rw [parseOnWords, ofText?_eq_map, ticks?_eq_parse?]
  cases hparse : Written.parse? (Text.trim s).toList with
  | none => rfl
  | some w =>
    show w.onWords = _
    rw [w.onWords_eq (Written.parse?_eq_some_iff.1 hparse).1]
    cases hrange : w.inRange <;> simp [hrange]

/-- A text is read as a span exactly when it is one in some white space, written part by part, and
its parts and its ticks are in range; these are its ticks then. Any other text is an invalid span as
it stands, and there is no other cause to refuse it. On words the ticks of a span come out the same,
checks fail where it is not read, and no operation without a check leaves their range; so it is for
the parts that a parser by ordered choice finds in a text. -/
theorem ofText?_iff_written (s : String) :
    (∀ span, ofText? s = some span ↔ ∃ w : Written, w.isShaped = true ∧ w.inRange = true ∧
      (Text.trim s).toList = w.text ∧ span.ticks.toInt = w.ticks) ∧
    (∀ span, ofText s = .ok span ↔ ofText? s = some span) ∧
    (∀ cause, ofText s = .error cause ↔ cause = .invalidTimeSpan s ∧ ofText? s = none) ∧
    (ofText? s = none → ∀ target : Target,
      Reading.timeSpan s target = target.refuse s (.invalidTimeSpan s)) ∧
    (∀ w : Written, w.isShaped = true → (Text.trim s).toList = w.text →
      w.onWords ≠ .error .overflow ∧ w.onWords.toOption = (ofText? s).map ticks) ∧
    (∀ w : Written, Written.parse? (Text.trim s).toList = some w ↔
      w.isShaped = true ∧ (Text.trim s).toList = w.text) ∧
    parseOnWords s = ((ofText? s).map ticks).elim (.error .refused) .ok := by
  refine ⟨fun span => ofText?_eq_some_iff, fun span => ofText_eq_ok_iff,
    fun cause => ofText_eq_error_iff, fun hnone target => ?_, fun w hshape htext => ?_,
    fun w => Written.parse?_eq_some_iff, parseOnWords_eq s⟩
  · rw [Reading.timeSpan, ofText_eq_error_iff.2 ⟨rfl, hnone⟩]
    rfl
  · rw [ofText?_of_text hshape htext, w.onWords_eq hshape]
    split
    · exact ⟨nofun, rfl⟩
    · exact ⟨nofun, rfl⟩

/-- A day, a clock reading and half a second, with a sign and in white space. -/
theorem ofText?_iff_written_half_second :
    ofText? " -1.02:03:04.50\t" = some ⟨-937845000000⟩ := by
  refine ((ofText?_iff_written _).1 _).2
    ⟨⟨true, .clock (some ['1']) ['0', '2'] ['0', '3'] (some ⟨['0', '4'], some ['5', '0']⟩)⟩,
      ?_, ?_, ?_, ?_⟩
  · decide
  · decide
  · decide
  · decide

end MarkupValues.TimeSpan
