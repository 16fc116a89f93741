import MarkupValues.Proofs.Text.Runs
import MarkupValues.Proofs.TimeSpan.Written

/-!
# Spans of time by ordered choice

`Written.parse?` reads the parts of a span from the left: digits are taken as far as they go, what
may be left out is tried and given up again where the text does not go on with it, and days alone
are tried before a clock reading. Days and hours both start with digits, so that the choice between
them falls at the character after these, and so does the choice between seconds with a fraction and
without. The texts that are read in this way are those that are written part by part, each with its
own parts (`Written.parse?_eq_some_iff`); cutting a text at its colons and points comes to the same
(`ticks?_eq_parse?`).
-/

namespace MarkupValues.TimeSpan

open Text (isDigits leadingDigits afterDigits Stops)

/-! ## Parsers -/

/-- A parser gives what it reads and what is left of the text. Where it fails, another one may be
tried from the same place. -/
abbrev Parser := StateT (List Char) Option

namespace Parser

variable {α β : Type} {cs rest run : List Char} {c : Char}

/-- One or more digits, as far as they go. It fails where there is none. -/
def digits : Parser (List Char) := fun cs =>
  match leadingDigits cs with
  | [] => none
  | c :: run => some (c :: run, afterDigits cs)

/-- A given character, and nothing else. -/
def char (c : Char) : Parser Unit := fun cs =>
  match cs with
  | [] => none
  | d :: rest => if d = c then some ((), rest) else none

/-- A given character and digits after it, as the colon and the minutes of a clock reading. -/
def digitsAfter (c : Char) : Parser (List Char) := do
  char c
  digits

/-- Days and the point that tells them from hours. Where a colon comes instead, the digits are read
again as hours. -/
def days : Parser (List Char) := do
  let run ← digits
  char '.'
  return run

/-- A colon and seconds, with a fraction if there is one. A point without digits after it is left in
the text. -/
def seconds : Parser Seconds := do
  let whole ← digitsAfter ':'
  let places ← optional (digitsAfter '.')
  return ⟨whole, places⟩

/-- Hours and minutes, after days and before seconds if there are any. The days and the seconds may
be left out. -/
def clock : Parser Body := do
  let days ← optional days
  let hours ← digits
  let minutes ← digitsAfter ':'
  let seconds ← optional seconds
  return .clock days hours minutes seconds

/-- What a parser makes of a text if it reads all of it, and nothing if it leaves some. -/
def all? (parser : Parser α) (cs : List Char) : Option α :=
  match parser.run cs with
  | some (a, []) => some a
  | _ => none

/-! ## Steps -/

/-- One parser after another reads a text in two pieces: the second goes on where the first one
stops. -/
theorem run_bind_eq_some_iff {p : Parser α} {f : α → Parser β} {b : β} :
    (p >>= f).run cs = some (b, rest) ↔
      ∃ a mid, p.run cs = some (a, mid) ∧ (f a).run mid = some (b, rest) := by
  rw [StateT.run_bind, Option.bind_eq_bind, Option.bind_eq_some_iff, Prod.exists]

/-- What is returned has been read from nothing. -/
theorem run_pure_eq_some_iff {a b : α} :
    (pure a : Parser α).run cs = some (b, rest) ↔ a = b ∧ cs = rest := by
  rw [StateT.run_pure]
  rw [Option.pure_def, Option.some_inj, Prod.mk.injEq]

/-- What may be left out is left out only where it cannot be read. -/
theorem run_optional (p : Parser α) (cs : List Char) : (optional p).run cs =
    some (match p.run cs with | some (a, rest) => (some a, rest) | none => (none, cs)) := by
  show ((p.run cs >>= fun x => some (some x.1, x.2)) <|> some (none, cs)) = _
  cases p.run cs <;> rfl

/-- What may be left out is read, or left out where it cannot be read. -/
theorem run_optional_eq_some_iff {p : Parser α} {o : Option α} :
    (optional p).run cs = some (o, rest) ↔
      (∃ a, o = some a ∧ p.run cs = some (a, rest)) ∨ o = none ∧ cs = rest ∧ p.run cs = none := by
  rw [run_optional, Option.some_inj]
  cases p.run cs with
  | none => simp [eq_comm]
  | some x => simp [Prod.ext_iff, eq_comm]

/-- A parser reads all of a text when it leaves nothing of it. -/
theorem all?_eq_some_iff {p : Parser α} {a : α} : all? p cs = some a ↔ p.run cs = some (a, []) := by
  unfold all?
  split
  · next b hrun => rw [hrun, Option.some_inj, Option.some_inj, Prod.mk.injEq, and_iff_left rfl]
  · next hother => exact iff_of_false nofun (hother a)

/-! ## Digits -/

/-- Digits are read from where a run of them starts, and all of them are: what is left does not
start with a digit. -/
theorem digits_run_eq_some_iff : digits.run cs = some (run, rest) ↔
    isDigits run = true ∧ Stops Char.isDigit rest ∧ cs = run ++ rest := by
  have hrun : digits.run cs = if leadingDigits cs = [] then none
      else some (leadingDigits cs, afterDigits cs) := by
    show digits cs = _
    unfold digits
    split <;> simp [*]
  rw [hrun, Option.ite_none_left_eq_some, Option.some_inj, Prod.mk.injEq, Numeric.isDigits_iff]
  constructor
  · rintro ⟨hne, rfl, rfl⟩
    exact ⟨⟨hne, Numeric.allDigits_leadingDigits cs⟩, Text.stops_dropWhile _ _,
      (Text.leadingDigits_append_afterDigits cs).symm⟩
  · rintro ⟨⟨hne, hall⟩, hstops, rfl⟩
    have hleading : leadingDigits (run ++ rest) = run := Text.takeWhile_append_of_stops hall hstops
    exact ⟨hleading.symm ▸ hne, hleading, Text.dropWhile_append_of_stops hall hstops⟩

/-- A character is read where it stands, and what follows it is left. -/
theorem char_run_eq_some_iff {u : Unit} : (char c).run cs = some (u, rest) ↔ cs = c :: rest := by
  show char c cs = some (u, rest) ↔ _
  cases cs with
  | nil => exact iff_of_false nofun nofun
  | cons d cs =>
    rw [char, Option.ite_none_right_eq_some, Option.some_inj, Prod.mk.injEq, List.cons.injEq]
    exact and_congr_right fun _ => and_iff_right rfl

/-- A character and digits are read where they stand one after the other, and all of the digits
are. -/
theorem digitsAfter_run_eq_some_iff : (digitsAfter c).run cs = some (run, rest) ↔
    isDigits run = true ∧ Stops Char.isDigit rest ∧ cs = c :: (run ++ rest) := by
  unfold digitsAfter
  simp only [run_bind_eq_some_iff, char_run_eq_some_iff, digits_run_eq_some_iff]
  constructor
  · rintro ⟨-, mid, rfl, hrun, hstops, rfl⟩
    exact ⟨hrun, hstops, rfl⟩
  · rintro ⟨hrun, hstops, rfl⟩
    exact ⟨(), run ++ rest, rfl, hrun, hstops, rfl⟩

/-- Days are read where digits have a point after them. -/
theorem days_run_eq_some_iff : days.run cs = some (run, rest) ↔
    isDigits run = true ∧ cs = run ++ '.' :: rest := by
  unfold days
  simp only [run_bind_eq_some_iff, run_pure_eq_some_iff, char_run_eq_some_iff,
    digits_run_eq_some_iff]
  constructor
  · rintro ⟨_, mid, ⟨hrun, -, rfl⟩, -, _, rfl, rfl, rfl⟩
    exact ⟨hrun, rfl⟩
  · rintro ⟨hrun, rfl⟩
    have hstops : Stops Char.isDigit ('.' :: rest) := Text.stops_cons.2 rfl
    exact ⟨run, '.' :: rest, ⟨hrun, hstops, rfl⟩, (), rest, rfl, rfl, rfl⟩

/-! ## Clock readings -/

/-- What is read as seconds is written as seconds, after a colon. -/
theorem eq_of_seconds_run {s : Seconds} (h : seconds.run cs = some (s, rest)) :
    s.parts.all isDigits = true ∧ cs = ':' :: (s.text ++ rest) := by
  unfold seconds at h
  simp only [run_bind_eq_some_iff, run_pure_eq_some_iff, run_optional_eq_some_iff,
    digitsAfter_run_eq_some_iff] at h
  obtain ⟨whole, mid, ⟨hwhole, -, rfl⟩, places, _, hplaces, rfl, rfl⟩ := h
  rcases hplaces with ⟨places, rfl, hdigits, -, rfl⟩ | ⟨rfl, rfl, -⟩
  · simp [Seconds.parts, Seconds.text, hwhole, hdigits]
  · simp [Seconds.parts, Seconds.text, hwhole]

/-- Seconds are read to their end, the digits after the point included. -/
theorem seconds_run_text {s : Seconds} (h : s.parts.all isDigits = true) :
    seconds.run (':' :: s.text) = some (s, []) := by
  obtain ⟨whole, places⟩ := s
  unfold seconds
  simp only [run_bind_eq_some_iff, run_pure_eq_some_iff, run_optional_eq_some_iff,
    digitsAfter_run_eq_some_iff]
  cases places with
  | none =>
    have hwhole : isDigits whole = true := by simpa [Seconds.parts] using h
    exact ⟨whole, [], ⟨hwhole, Text.stops_nil, rfl⟩, none, [], .inr ⟨rfl, rfl, rfl⟩, rfl, rfl⟩
  | some places =>
    obtain ⟨hwhole, hplaces⟩ : isDigits whole = true ∧ isDigits places = true := by
      simpa [Seconds.parts] using h
    have hpoint : Stops Char.isDigit ('.' :: places) := Text.stops_cons.2 rfl
    have hend : '.' :: places = '.' :: (places ++ []) := by rw [List.append_nil]
    exact ⟨whole, '.' :: places, ⟨hwhole, hpoint, rfl⟩, some places, [],
      .inl ⟨places, rfl, hplaces, Text.stops_nil, hend⟩, rfl, rfl⟩

/-- What is read as seconds that may be left out is written so, and nothing is taken from the text
where they are left out. -/
theorem eq_of_optional_seconds_run {s : Option Seconds}
    (h : (optional seconds).run cs = some (s, rest)) :
    (s.elim [] Seconds.parts).all isDigits = true ∧ cs = s.elim [] (':' :: ·.text) ++ rest := by
  rcases run_optional_eq_some_iff.1 h with ⟨s, rfl, hs⟩ | ⟨rfl, rfl, -⟩
  · exact eq_of_seconds_run hs
  · exact ⟨rfl, rfl⟩

/-- What is read as days that may be left out is written so, and nothing is taken from the text
where they are left out. -/
theorem eq_of_optional_days_run {d : Option (List Char)}
    (h : (optional days).run cs = some (d, rest)) :
    d.toList.all isDigits = true ∧ cs = d.elim [] (· ++ ['.']) ++ rest := by
  rcases run_optional_eq_some_iff.1 h with ⟨d, rfl, hd⟩ | ⟨rfl, rfl, -⟩
  · obtain ⟨hdigits, rfl⟩ := days_run_eq_some_iff.1 hd
    simp [hdigits]
  · exact ⟨rfl, rfl⟩

/-- What is read as a clock reading is written as one, whatever is left after it. -/
theorem eq_of_clock_run {body : Body} (h : clock.run cs = some (body, rest)) :
    body.parts.all isDigits = true ∧ cs = body.text ++ rest := by
  unfold clock at h
  simp only [run_bind_eq_some_iff, run_pure_eq_some_iff, digits_run_eq_some_iff,
    digitsAfter_run_eq_some_iff] at h
  obtain ⟨d, _, hd, hours, _, ⟨hhours, -, rfl⟩, minutes, _, ⟨hminutes, -, rfl⟩, s, _, hs,
    rfl, rfl⟩ := h
  obtain ⟨hdays, rfl⟩ := eq_of_optional_days_run hd
  obtain ⟨hseconds, rfl⟩ := eq_of_optional_seconds_run hs
  constructor
  · simp only [Body.parts, List.all_append, List.all_cons, hdays, hhours, hminutes, hseconds,
      Bool.and_self]
  · simp [Body.text]

/-- Days are given up again where a colon follows the digits: these are the hours. -/
theorem days_run_hours {hours : List Char} (h : isDigits hours = true) (rest : List Char) :
    days.run (hours ++ ':' :: rest) = none := by
  refine Option.eq_none_iff_forall_ne_some.2 fun x hx => ?_
  obtain ⟨hdays, heq⟩ := days_run_eq_some_iff.1 hx
  have hends := Text.append_inj_of_stops (Numeric.isDigits_iff.1 h).2 (Text.stops_cons.2 rfl)
    (Numeric.isDigits_iff.1 hdays).2 (Text.stops_cons.2 rfl) heq
  cases hends.2

/-- A clock reading is read to its end: no part stops before its last digit, and days and seconds
are found where they are. -/
theorem clock_run_text {d : Option (List Char)} {hours minutes : List Char} {s : Option Seconds}
    (h : (Body.clock d hours minutes s).parts.all isDigits = true) :
    clock.run (Body.clock d hours minutes s).text = some (.clock d hours minutes s, []) := by
  obtain ⟨hdays, hhours, hminutes, hseconds⟩ : d.toList.all isDigits = true ∧
      isDigits hours = true ∧ isDigits minutes = true ∧
      (s.elim [] Seconds.parts).all isDigits = true := by
    simpa only [Body.parts, List.all_append, List.all_cons, Bool.and_eq_true] using h
  unfold clock
  simp only [run_bind_eq_some_iff, run_pure_eq_some_iff, digits_run_eq_some_iff,
    digitsAfter_run_eq_some_iff, run_optional_eq_some_iff]
  refine ⟨d, hours ++ ':' :: (minutes ++ s.elim [] (':' :: ·.text)), ?_, hours, _,
    ⟨hhours, Text.stops_cons.2 rfl, rfl⟩, minutes, _, ⟨hminutes, ?_, rfl⟩, s, [], ?_, rfl, rfl⟩
  · cases d with
    | none => exact .inr ⟨rfl, rfl, days_run_hours hhours _⟩
    | some d =>
      have hd : isDigits d = true := by simpa using hdays
      exact .inl ⟨d, rfl, days_run_eq_some_iff.2 ⟨hd, by simp [Body.text]⟩⟩
  · cases s with
    | none => exact Text.stops_nil
    | some s => exact Text.stops_cons.2 rfl
  · cases s with
    | none => exact .inr ⟨rfl, rfl, rfl⟩
    | some s => exact .inl ⟨s, rfl, seconds_run_text hseconds⟩

end Parser

/-! ## Spans -/

variable {cs : List Char}

/-- The parts of a span without its sign: days alone, or else a clock reading, from the start of the
text again. Either has to read all of it. -/
def Body.parse? (cs : List Char) : Option Body :=
  ((Parser.digits.all? cs).map .daysOnly).or (Parser.clock.all? cs)

/-- The parts of a span, after a minus sign or none. The sign is looked for once, at the start. -/
def Written.parse? : List Char → Option Written
  | '-' :: cs => (Body.parse? cs).map (⟨true, ·⟩)
  | cs => (Body.parse? cs).map (⟨false, ·⟩)

/-- A text is read as the parts that it is written with, and only a text that is written with parts
is read. Days alone are tried first and given up where anything follows them, so that the choice
loses no clock reading. -/
theorem Body.parse?_eq_some_iff {body : Body} :
    Body.parse? cs = some body ↔ body.parts.all isDigits = true ∧ cs = body.text := by
  have hdigits {run : List Char} : Parser.digits.all? cs = some run ↔
      isDigits run = true ∧ cs = run := by
    rw [Parser.all?_eq_some_iff, Parser.digits_run_eq_some_iff, List.append_nil,
      and_iff_right Text.stops_nil]
  constructor
  · intro h
    rcases Option.or_eq_some_iff.1 h with h | ⟨-, h⟩
    · obtain ⟨run, hrun, rfl⟩ := Option.map_eq_some_iff.1 h
      obtain ⟨hrun, rfl⟩ := hdigits.1 hrun
      exact ⟨by simpa [parts] using hrun, rfl⟩
    · simpa using Parser.eq_of_clock_run (Parser.all?_eq_some_iff.1 h)
  · rintro ⟨hparts, htext⟩
    refine Option.or_eq_some_iff.2 ?_
    cases body with
    | daysOnly run =>
      have hrun : isDigits run = true := by simpa [parts] using hparts
      exact .inl (Option.map_eq_some_iff.2 ⟨run, hdigits.2 ⟨hrun, htext⟩, rfl⟩)
    | clock d hours minutes s =>
      refine .inr ⟨?_, Parser.all?_eq_some_iff.2 (htext ▸ Parser.clock_run_text hparts)⟩
      -- A clock reading has a colon, and so it is no run of digits.
      refine Option.map_eq_none_iff.2 (Option.eq_none_iff_forall_ne_some.2 fun run hrun => ?_)
      obtain ⟨hrun, rfl⟩ := hdigits.1 hrun
      refine colon_not_mem hrun (htext ▸ ?_)
      simp [text]

/-- A text is read as the sign and the parts that it is written with. No parts start with a minus
sign, so that the sign is told from them. -/
theorem Written.parse?_eq_some_iff {w : Written} :
    Written.parse? cs = some w ↔ w.isShaped = true ∧ cs = w.text := by
  obtain ⟨negative, body⟩ := w
  by_cases hminus : ∃ tail, cs = '-' :: tail
  · obtain ⟨tail, rfl⟩ := hminus
    rw [parse?, Option.map_eq_some_iff]
    constructor
    · rintro ⟨body, hbody, heq⟩
      cases heq
      obtain ⟨hparts, rfl⟩ := Body.parse?_eq_some_iff.1 hbody
      exact ⟨hparts, rfl⟩
    · rintro ⟨hshape, htext⟩
      cases negative with
      | true => exact ⟨body, Body.parse?_eq_some_iff.2 ⟨hshape, (List.cons.inj htext).2⟩, rfl⟩
      | false => exact absurd htext.symm (Body.text_ne_minus hshape tail)
  · have hplain := not_exists.1 hminus
    rw [parse?.eq_2 _ hplain, Option.map_eq_some_iff]
    constructor
    · rintro ⟨body, hbody, heq⟩
      cases heq
      exact Body.parse?_eq_some_iff.1 hbody
    · rintro ⟨hshape, htext⟩
      cases negative with
      | true => exact absurd htext (hplain _)
      | false => exact ⟨body, Body.parse?_eq_some_iff.2 ⟨hshape, htext⟩, rfl⟩

/-- Cutting a text at its colons and points reads it as parsing does: parts that are in range as
their ticks, and nothing else. -/
theorem ticks?_eq_parse? (cs : List Char) :
    ticks? cs = (Written.parse? cs).bind fun w => if w.inRange then some w.ticks else none := by
  cases hparse : Written.parse? cs with
  | some w =>
    obtain ⟨hshape, rfl⟩ := Written.parse?_eq_some_iff.1 hparse
    exact w.ticks?_text hshape
  | none =>
    refine Option.eq_none_iff_forall_ne_some.2 fun n hn => ?_
    obtain ⟨w, hw⟩ := exists_written_of_ticks? hn
    rw [Written.parse?_eq_some_iff.2 hw] at hparse
    cases hparse

end MarkupValues.TimeSpan
