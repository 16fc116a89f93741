import MarkupValues.Json.Scan
import MarkupValues.Json.Writer
import MarkupValues.Proofs.Numeric.Decimal

/-!
# Numbers are read back

A number is written by its parts: the sign, the whole part without leading zeros, the digits after
the point and the power of ten, where it has them. `JsonToken.number?` reads part after part, and
each of them ends where the next one starts, or with what follows the number, unless that could go
on with the number (`JsonToken.next?_writeNumber`).
-/

namespace MarkupValues.JsonToken

open Text (Stops)
open Numeric (AllDigits allDigits_toDigits)

/-- Whether a character that follows a number could be a part of it: a digit, a point, or the mark
of a power of ten. -/
def continuesNumber (c : Char) : Bool :=
  c.isDigit || c = '.' || c = 'e' || c = 'E'

/-- The characters after which a number cannot go on, one by one. -/
theorem continuesNumber_eq_false_iff {c : Char} : continuesNumber c = false ↔
    c.isDigit = false ∧ c ≠ '.' ∧ c ≠ 'e' ∧ c ≠ 'E' := by
  simp [continuesNumber, and_assoc]

section
variable {rest : List Char}

/-- Where a number cannot go on, no digit follows. -/
theorem stops_isDigit (h : Stops continuesNumber rest) : Stops Char.isDigit rest :=
  fun c hc => (continuesNumber_eq_false_iff.1 (h c hc)).1

/-! ## Digits -/

/-- The digits at the start of a text are those that were put there, when no digit follows them. -/
theorem leadingDigits_append {digits : List Char} (hdigits : AllDigits digits)
    (h : Stops Char.isDigit rest) : Text.leadingDigits (digits ++ rest) = digits :=
  Text.takeWhile_append_of_stops hdigits h

/-- What is left after the digits at the start of a text is what follows those that were put
there. -/
theorem afterDigits_append {digits : List Char} (hdigits : AllDigits digits)
    (h : Stops Char.isDigit rest) : Text.afterDigits (digits ++ rest) = rest :=
  Text.dropWhile_append_of_stops hdigits h

/-- Whole numbers but zero are written without leading zeros, which JSON does not allow. -/
theorem head?_toDigits_ne_zero {n : Nat} (h : 0 < n) : (Nat.toDigits 10 n).head? ≠ some '0' := by
  induction n using Nat.strongRecOn with
  | ind n ih =>
    rcases Nat.lt_or_ge n 10 with hlt | hge
    · rw [Nat.toDigits_of_lt_base hlt, List.head?_singleton, Ne, Option.some_inj,
        Nat.digitChar_eq_zero]
      exact Nat.ne_of_gt h
    · have hfront := ih (n / 10) (Nat.div_lt_self h (by decide)) (Nat.div_pos hge (by decide))
      obtain ⟨d, ds, hd⟩ := List.exists_cons_of_ne_nil (@Nat.toDigits_ne_nil (n / 10) 10)
      rw [Nat.toDigits_of_base_le (by decide) hge]
      rw [hd] at hfront ⊢
      exact hfront

/-! ## The power of ten -/

/-- The digits of a power of ten are read as the number they write, with the sign that stood before
them. -/
theorem powerDigits?_toDigits (negative : Bool) (n : Nat) (h : Stops Char.isDigit rest) :
    powerDigits? negative (Nat.toDigits 10 n ++ rest) =
      some (some (if negative then -(n : Int) else n), rest) := by
  have hdigits := allDigits_toDigits n
  have hvalue : Text.digitsValue (Nat.toDigits 10 n) = n := Nat.ofDigitChars_ten_toDigits
  simp [powerDigits?, leadingDigits_append hdigits h, afterDigits_append hdigits h, hvalue,
    Nat.toDigits_ne_nil]

/-- A power of ten is read from its sign and its digits, as one below zero where there is a minus
sign. -/
theorem exponent?_writeInt (negative : Bool) (n : Nat) (h : Stops Char.isDigit rest) :
    exponent? ('e' :: (Json.writeInt negative n ++ rest)) =
      some (some (if negative then -(n : Int) else n), rest) := by
  have hpower := powerDigits?_toDigits negative n h
  cases negative with
  | true => exact hpower
  | false =>
    have hsign {c : Char} {cs : List Char} (hc : c.isDigit = false) :
        Json.writeInt false n ++ rest ≠ c :: cs := by
      obtain ⟨d, ds, hd⟩ := List.exists_cons_of_ne_nil (@Nat.toDigits_ne_nil n 10)
      have hdigit : d.isDigit = true := allDigits_toDigits n d (hd ▸ .head _)
      intro heq
      have hdc : d = c := (List.cons.inj ((congrArg (· ++ rest) hd).symm.trans heq)).1
      rw [← hdc, hdigit] at hc
      cases hc
    rw [exponent?.eq_3 _ _ (fun _ => hsign (by decide)) fun _ => hsign (by decide),
      if_pos (.inl rfl)]
    exact hpower

/-- The text of a power of ten: its mark, its sign and its digits, or nothing. -/
def powerText : Option Int → List Char
  | none => []
  | some e => 'e' :: Json.writeInt (e < 0) e.natAbs

/-- A power of ten is read back from its text, and so is its absence. -/
theorem exponent?_powerText (exponent : Option Int) (h : Stops continuesNumber rest) :
    exponent? (powerText exponent ++ rest) = some (exponent, rest) := by
  cases exponent with
  | none =>
    cases rest with
    | nil => rfl
    | cons c rest =>
      obtain ⟨-, -, hsmall, hcapital⟩ := continuesNumber_eq_false_iff.1 (Text.stops_cons.1 h)
      show exponent? (c :: rest) = _
      unfold exponent?
      exact if_neg (not_or.2 ⟨hsmall, hcapital⟩)
  | some e =>
    have hvalue : (if decide (e < 0) then -(e.natAbs : Int) else e.natAbs) = e := by
      simp only [decide_eq_true_eq]
      split <;> omega
    have hread := exponent?_writeInt (e < 0) e.natAbs (stops_isDigit h)
    rw [hvalue] at hread
    exact hread

/-! ## The fraction -/

/-- The text of the digits after the point, with the point before them, or nothing where there are
none. -/
def fractionText (digits : List (Fin 10)) : List Char :=
  if digits.isEmpty then [] else '.' :: digits.map fun d => Nat.digitChar d.val

/-- A digit is read as the number that it was written for. -/
theorem ofNat_digitChar : ∀ d : Fin 10,
    Fin.ofNat 10 ((Nat.digitChar d.val).toNat - '0'.toNat) = d := by
  decide

/-- The digits after the point are read back one by one, leading and trailing zeros included, so
that no two fractions have one text. -/
theorem fraction?_fractionText (digits : List (Fin 10)) (h : Stops Char.isDigit rest)
    (hpoint : Stops (· = '.') rest) :
    fraction? (fractionText digits ++ rest) = some (digits, rest) := by
  cases digits with
  | nil =>
    refine fraction?.eq_2 rest fun cs hcs => ?_
    rw [hcs, Text.stops_cons] at hpoint
    simp at hpoint
  | cons d digits =>
    have hdigits : AllDigits ((d :: digits).map fun d => Nat.digitChar d.val) := by
      intro c hc
      obtain ⟨e, -, rfl⟩ := List.mem_map.1 hc
      exact Nat.isDigit_digitChar.trans (decide_eq_true e.isLt)
    show fraction? ('.' :: ((d :: digits).map (fun d => Nat.digitChar d.val) ++ rest)) = _
    rw [fraction?, leadingDigits_append hdigits h, afterDigits_append hdigits h, List.map_map,
      if_neg (by simp)]
    exact congrArg (fun ds => some (ds, rest)) (List.map_id'' ofNat_digitChar (d :: digits))

/-! ## The number -/

/-- A number is written as its whole part, its fraction and its power of ten, one after the
other. -/
theorem writeNumber_eq (n : JsonNumber) : Json.writeNumber n =
    Json.writeInt n.negative n.whole ++ fractionText n.fraction ++ powerText n.exponent := by
  obtain ⟨negative, whole, fraction, exponent⟩ := n
  cases exponent <;> rfl

/-- No digit and no point follows the digits before a power of ten. -/
theorem stops_powerText (exponent : Option Int) (h : Stops continuesNumber rest) :
    Stops Char.isDigit (powerText exponent ++ rest) ∧
      Stops (· = '.') (powerText exponent ++ rest) := by
  cases exponent with
  | none =>
    refine ⟨stops_isDigit h, fun c hc => ?_⟩
    exact decide_eq_false (continuesNumber_eq_false_iff.1 (h c hc)).2.1
  | some e => exact ⟨Text.stops_cons.2 (by decide), Text.stops_cons.2 (by decide)⟩

/-- No digit follows the whole part of a number: a point does, the mark of a power, or what comes
after the number. -/
theorem stops_fractionText (digits : List (Fin 10)) (h : Stops Char.isDigit rest) :
    Stops Char.isDigit (fractionText digits ++ rest) := by
  cases digits with
  | nil => exact h
  | cons => exact Text.stops_cons.2 (by decide)

/-- A number is read back from its parts after the sign, when what follows could not go on with it:
each part stops where the next one starts. -/
theorem number?_append (n : JsonNumber) (h : Stops continuesNumber rest) :
    number? n.negative
      (Nat.toDigits 10 n.whole ++ (fractionText n.fraction ++ (powerText n.exponent ++ rest))) =
        some (n, rest) := by
  obtain ⟨hdigit, hpoint⟩ := stops_powerText n.exponent h
  have hwhole := allDigits_toDigits n.whole
  have hstops := stops_fractionText n.fraction hdigit
  have hvalue : Text.digitsValue (Nat.toDigits 10 n.whole) = n.whole :=
    Nat.ofDigitChars_ten_toDigits
  have hzeros : ¬ ((Nat.toDigits 10 n.whole).isEmpty = true ∨
      ((Nat.toDigits 10 n.whole).length ≠ 1 ∧ (Nat.toDigits 10 n.whole).head? = some '0')) := by
    rintro (hnil | ⟨hlength, hzero⟩)
    · exact Nat.toDigits_ne_nil (List.isEmpty_iff.1 hnil)
    · rcases Nat.eq_zero_or_pos n.whole with h0 | hpos
      · exact hlength (by rw [h0]; rfl)
      · exact head?_toDigits_ne_zero hpos hzero
  simp only [number?, leadingDigits_append hwhole hstops, afterDigits_append hwhole hstops]
  rw [if_neg hzeros, fraction?_fractionText n.fraction hdigit hpoint]
  simp only [Option.bind_eq_bind, Option.bind_some, exponent?_powerText n.exponent h, hvalue]
  rfl

/-- A token that starts with a digit is a number. -/
theorem next?_of_isDigit {c : Char} (h : c.isDigit = true) (cs : List Char) :
    next? c cs = (number? false (c :: cs)).map fun (n, rest) => (number n, rest) := by
  unfold next?
  split
  case h_12 => rfl
  all_goals exact absurd h (by decide)

/-- A digit is no white space. -/
theorem isSpace_of_isDigit {c : Char} (h : c.isDigit = true) : isSpace c = false := by
  refine Bool.eq_false_iff.2 fun hspace => ?_
  simp only [isSpace, Bool.or_eq_true, decide_eq_true_eq] at hspace
  rcases hspace with ((rfl | rfl) | rfl) | rfl <;> exact absurd h (by decide)

/-- A number is read back whatever follows it, if this could not go on with the number. It starts
with a sign or a digit, which tells it from the other tokens. -/
theorem next?_writeNumber (n : JsonNumber) (h : Stops continuesNumber rest) :
    ∃ c cs, Json.writeNumber n ++ rest = c :: cs ∧ isSpace c = false ∧
      next? c cs = some (.number n, rest) := by
  have hread := number?_append n h
  rw [writeNumber_eq, List.append_assoc, List.append_assoc, Json.writeInt]
  cases hnegative : n.negative with
  | true =>
    rw [hnegative] at hread
    refine ⟨'-', _, rfl, rfl, ?_⟩
    exact congrArg (Option.map fun (n, rest) => (number n, rest)) hread
  | false =>
    rw [hnegative] at hread
    obtain ⟨d, ds, hd⟩ := List.exists_cons_of_ne_nil (@Nat.toDigits_ne_nil n.whole 10)
    have hdigit : d.isDigit = true := allDigits_toDigits n.whole d (hd ▸ .head _)
    rw [hd] at hread ⊢
    refine ⟨d, _, rfl, isSpace_of_isDigit hdigit, ?_⟩
    exact (next?_of_isDigit hdigit _).trans
      (congrArg (Option.map fun (n, rest) => (number n, rest)) hread)

end

end MarkupValues.JsonToken
