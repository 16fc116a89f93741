import MarkupValues.Proofs.Binary.Rounding
import MarkupValues.Proofs.Numeric.Decimal

/-!
# What a text is read as

A decimal number is digits, one at least, with a point among them or around them or without one, and
maybe a power of ten after them (`Decimal.ofChars?_eq_some_iff`). A text with such a number, and
maybe a sign before it, is read as the value nearest to the number (`Binary.ofText?_of_isWritten`),
and what is read as a finite value is such a text (`Binary.ofText?_eq_finite_iff`).
-/

namespace MarkupValues

open Numeric (AllDigits)
open Text (Stops digitsValue isDigits natural?)

/-- Whether characters are a sign or nothing, and whether they are a minus sign. A plus sign says no
more than no sign at all. -/
inductive IsSign : List Char → Bool → Prop
  | none : IsSign [] false
  | plus : IsSign ['+'] false
  | minus : IsSign ['-'] true

namespace Decimal

variable {cs power digits whole places : List Char} {n : Int} {d : Decimal}

/-! ## Powers of ten -/

/-- Whether characters write a whole number: a sign or none, and one digit at least. The number may
be as large as the digits make it. -/
inductive IsWhole : List Char → Int → Prop
  | intro {sign digits : List Char} {negative : Bool} (hsign : IsSign sign negative)
    (hdigits : isDigits digits = true) :
    IsWhole (sign ++ digits) (if negative then -(digitsValue digits : Int) else digitsValue digits)

/-- Whether characters write a power of ten: the letter e in either case and a whole number, or
nothing, which is the power zero. -/
inductive IsPower : List Char → Int → Prop
  | none : IsPower [] 0
  | letter {e : Char} {cs : List Char} {n : Int} (he : e = 'e' ∨ e = 'E') (h : IsWhole cs n) :
    IsPower (e :: cs) n

/-- Digits alone are read as their value: the reader looks for a sign first, and no digit is one. -/
theorem signed?_of_isDigits (h : isDigits digits = true) :
    signed? digits = some (digitsValue digits : Int) := by
  unfold signed?
  split
  · cases h
  · cases h
  · rw [Numeric.natural?_eq_some_iff.2 ⟨h, rfl⟩]
    rfl

/-- The reader of whole numbers takes exactly the texts that write one, each as its value. Powers of
ten are read by it, a sign before their digits included. -/
theorem signed?_eq_some_iff : signed? cs = some n ↔ IsWhole cs n := by
  constructor
  · intro h
    unfold signed? at h
    split at h
    all_goals
      obtain ⟨_, hvalue, rfl⟩ := Option.map_eq_some_iff.1 h
      obtain ⟨value, hnatural, hcast⟩ := Option.bind_eq_some_iff.1 hvalue
      obtain ⟨hdigits, rfl⟩ := Numeric.natural?_eq_some_iff.1 hnatural
      cases hcast
    · exact .intro .minus hdigits
    · exact .intro .plus hdigits
    · exact .intro .none hdigits
  · rintro ⟨hsign, hdigits⟩
    have hvalue := Numeric.natural?_eq_some_iff.2 ⟨hdigits, rfl⟩
    cases hsign with
    | none => exact signed?_of_isDigits hdigits
    | plus | minus =>
      rw [List.singleton_append, signed?, hvalue]
      rfl

/-- The reader of powers of ten takes exactly the texts that write one. What follows the digits of a
number is either read to its end here or makes the whole text no number. -/
theorem exponent?_eq_some_iff : exponent? cs = some n ↔ IsPower cs n := by
  cases cs with
  | nil =>
    constructor
    · intro h
      cases h
      exact .none
    · rintro ⟨⟩
      rfl
  | cons c cs =>
    rw [exponent?, Option.ite_none_right_eq_some, signed?_eq_some_iff, Bool.or_eq_true,
      decide_eq_true_eq, decide_eq_true_eq]
    constructor
    · rintro ⟨he, h⟩
      exact .letter he h
    · rintro (_ | ⟨he, h⟩)
      exact ⟨he, h⟩

/-- No digit and no point starts a power of ten. So the digits before a power end where the reader
takes them to end. -/
theorem IsPower.stops (h : IsPower power n) :
    Stops Char.isDigit power ∧ Stops (· == '.') power := by
  cases h with
  | none => exact ⟨Text.stops_nil, Text.stops_nil⟩
  | letter he =>
    rw [Text.stops_cons, Text.stops_cons]
    rcases he with rfl | rfl
    · exact ⟨rfl, rfl⟩
    · exact ⟨rfl, rfl⟩

/-! ## Decimal numbers -/

/-- Whether characters write a decimal number without a sign: digits, or digits and a point before,
after or between them, and a power of ten. -/
inductive IsWritten : List Char → Decimal → Prop
  | whole {digits power : List Char} {n : Int} (hdigits : isDigits digits = true)
    (hpower : IsPower power n) : IsWritten (digits ++ power) ⟨digitsValue digits, n⟩
  | point {whole places power : List Char} {n : Int} (hwhole : AllDigits whole)
    (hplaces : AllDigits places) (hne : whole ++ places ≠ []) (hpower : IsPower power n) :
    IsWritten (whole ++ '.' :: (places ++ power))
      ⟨digitsValue (whole ++ places), n - places.length⟩

/-- Digits that no point follows are the whole number, provided that there is one at least and that
a power of ten comes after them. -/
theorem ofChars?_whole (hdigits : AllDigits digits) (hstops : Stops Char.isDigit power)
    (hpoint : Stops (· == '.') power) : ofChars? (digits ++ power) =
      if digits = [] then none
      else (exponent? power).map fun n => ⟨digitsValue digits, n⟩ := by
  have hlead : Text.leadingDigits (digits ++ power) = digits :=
    Text.takeWhile_append_of_stops hdigits hstops
  have hafter : Text.afterDigits (digits ++ power) = power :=
    Text.dropWhile_append_of_stops hdigits hstops
  have hfraction : fraction power = ([], power) := by
    unfold fraction
    split
    · cases Text.stops_cons.1 hpoint
    · rfl
  rw [ofChars?, hlead, hafter, hfraction]
  simp

/-- Digits on the two sides of a point are the number without the point, with one place less in its
power for each digit after the point. -/
theorem ofChars?_point (hwhole : AllDigits whole) (hplaces : AllDigits places)
    (hstops : Stops Char.isDigit power) : ofChars? (whole ++ '.' :: (places ++ power)) =
      if whole ++ places = [] then none
      else (exponent? power).map fun n => ⟨digitsValue (whole ++ places), n - places.length⟩ := by
  have hfraction : fraction ('.' :: (places ++ power)) = (places, power) := by
    show (Text.leadingDigits (places ++ power), Text.afterDigits (places ++ power)) = _
    rw [Text.leadingDigits, Text.takeWhile_append_of_stops hplaces hstops, Text.afterDigits,
      Text.dropWhile_append_of_stops hplaces hstops]
  rw [ofChars?, Numeric.leadingDigits_point hwhole, Numeric.afterDigits_point hwhole, hfraction]
  simp

/-- Every text starts with a run of digits, maybe an empty one, that goes on until something else
comes. The reader of decimal numbers cuts a text here, and again after a point. -/
theorem exists_digits_append (cs : List Char) : ∃ digits rest, cs = digits ++ rest ∧
    AllDigits digits ∧ Stops Char.isDigit rest :=
  ⟨_, _, (Text.leadingDigits_append_afterDigits cs).symm, Numeric.allDigits_leadingDigits cs,
    Text.stops_dropWhile _ cs⟩

/-- The reader of decimal numbers takes exactly the texts that write one, each as its digits and
their power of ten. The cases are whether a point follows the digits that come first. -/
theorem ofChars?_eq_some_iff : ofChars? cs = some d ↔ IsWritten cs d := by
  constructor
  · intro h
    obtain ⟨whole, rest, rfl, hwhole, hstops⟩ := exists_digits_append cs
    by_cases hpoint : Stops (· == '.') rest
    · rw [ofChars?_whole hwhole hstops hpoint, Option.ite_none_left_eq_some] at h
      obtain ⟨hne, h⟩ := h
      obtain ⟨n, hpower, rfl⟩ := Option.map_eq_some_iff.1 h
      exact .whole (Numeric.isDigits_iff.2 ⟨hne, hwhole⟩) (exponent?_eq_some_iff.1 hpower)
    · cases rest with
      | nil => exact absurd Text.stops_nil hpoint
      | cons c rest =>
        obtain rfl : c = '.' := by simpa [Text.stops_cons] using hpoint
        obtain ⟨places, power, rfl, hplaces, hstops⟩ := exists_digits_append rest
        rw [ofChars?_point hwhole hplaces hstops, Option.ite_none_left_eq_some] at h
        obtain ⟨hne, h⟩ := h
        obtain ⟨n, hpower, rfl⟩ := Option.map_eq_some_iff.1 h
        exact .point hwhole hplaces hne (exponent?_eq_some_iff.1 hpower)
  · rintro (⟨hdigits, hpower⟩ | ⟨hwhole, hplaces, hne, hpower⟩)
    · obtain ⟨hne, hall⟩ := Numeric.isDigits_iff.1 hdigits
      rw [ofChars?_whole hall hpower.stops.1 hpower.stops.2, if_neg hne,
        exponent?_eq_some_iff.2 hpower, Option.map_some]
    · rw [ofChars?_point hwhole hplaces hpower.stops.1, if_neg hne,
        exponent?_eq_some_iff.2 hpower, Option.map_some]

/-- A decimal number starts with a digit or a point. So it is neither empty nor one of the words for
infinity and not-a-number, which start with letters. -/
theorem IsWritten.exists_cons (h : IsWritten cs d) :
    ∃ c rest, cs = c :: rest ∧ (c.isDigit = true ∨ c = '.') := by
  cases h with
  | @whole digits power n hdigits hpower =>
    obtain ⟨hne, hall⟩ := Numeric.isDigits_iff.1 hdigits
    obtain ⟨c, rest, rfl⟩ := List.exists_cons_of_ne_nil hne
    exact ⟨c, _, rfl, .inl (hall c (.head _))⟩
  | @point whole places power n hwhole hplaces hne hpower =>
    cases whole with
    | nil => exact ⟨'.', _, rfl, .inr rfl⟩
    | cons c rest => exact ⟨c, _, rfl, .inl (hwhole c (.head _))⟩

end Decimal

namespace Binary

variable {f : BinaryFormat} {s : String} {cs : List Char} {negative : Bool} {value : Binary f}
  {d : Decimal}

/-! ## Values -/

/-- A decimal number is none of the words for values that are not finite, and is read as the value
of its digits and their power of ten. -/
theorem unsigned?_of_isWritten (h : Decimal.IsWritten cs d) (negative : Bool) :
    (unsigned? negative cs : Option (Binary f)) =
      some (ofDecimal negative d.digits d.exponent) := by
  have hword (word : String) (hletter : word.toList.head?.any Char.isAlpha = true) :
      String.ofList (cs.map Char.toLower) ≠ word := by
    rintro rfl
    obtain ⟨c, rest, rfl, hdigit | rfl⟩ := h.exists_cons
    · rw [String.toList_ofList, List.map_cons, List.head?_cons, Option.any_some,
        Char.isAlpha_toLower_eq_isAlpha, Numeric.isAlpha_eq_false_of_isDigit hdigit] at hletter
      cases hletter
    · rw [String.toList_ofList] at hletter
      cases hletter
  rw [unsigned?, Decimal.ofChars?_eq_some_iff.2 h]
  simp only [hword "inf" rfl, hword "infinity" rfl, hword "nan" rfl, decide_false, Bool.or_self,
    Bool.false_eq_true, if_false, Option.map_some]

/-- What is read as a finite value is a decimal number: the words stand for infinity and
not-a-number alone, so that every other text that is read goes through the reader of decimal
numbers. -/
theorem exists_isWritten_of_unsigned? (h : unsigned? negative cs = some value)
    (hfinite : value.isFinite = true) : ∃ d, Decimal.IsWritten cs d := by
  unfold unsigned? at h
  dsimp only at h
  split at h
  · cases h
    cases hfinite
  · split at h
    · cases h
      cases hfinite
    · obtain ⟨d, hd, -⟩ := Option.map_eq_some_iff.1 h
      exact ⟨d, Decimal.ofChars?_eq_some_iff.1 hd⟩

/-- Whether a text writes a number: a sign or none, and a decimal number. Nothing may stand before
it, after it or between the two, not even white space. -/
inductive IsWritten (s : String) : Bool → Decimal → Prop
  | intro {sign cs : List Char} {negative : Bool} {d : Decimal} (hs : s.toList = sign ++ cs)
    (hsign : IsSign sign negative) (hnumber : Decimal.IsWritten cs d) : IsWritten s negative d

/-- A sign before a decimal number is taken off and makes the value negative or not; a number
without one is read as it is, since it does not start with a sign. -/
theorem ofText?_of_isSign {sign : List Char} (hs : s.toList = sign ++ cs)
    (hsign : IsSign sign negative) (h : Decimal.IsWritten cs d) :
    (ofText? s : Option (Binary f)) = unsigned? negative cs := by
  obtain ⟨c, rest, rfl, hc⟩ := h.exists_cons
  cases hsign with
  | minus | plus =>
    unfold ofText?
    rw [hs]
    rfl
  | none =>
    unfold ofText?
    split
    · next hminus =>
      cases hs.symm.trans hminus
      exact absurd hc (by decide)
    · next hplus =>
      cases hs.symm.trans hplus
      exact absurd hc (by decide)
    · rw [hs]
      rfl

/-- What is read as a finite value, with a sign or without, is a text that writes a number. -/
theorem exists_isWritten_of_ofText? (h : ofText? s = some value) (hfinite : value.isFinite = true) :
    ∃ negative d, IsWritten s negative d := by
  unfold ofText? at h
  split at h
  · next cs hs =>
    obtain ⟨d, hd⟩ := exists_isWritten_of_unsigned? h hfinite
    have hs : s.toList = ['-'] ++ cs := hs
    exact ⟨true, d, .intro hs .minus hd⟩
  · next cs hs =>
    obtain ⟨d, hd⟩ := exists_isWritten_of_unsigned? h hfinite
    have hs : s.toList = ['+'] ++ cs := hs
    exact ⟨false, d, .intro hs .plus hd⟩
  · obtain ⟨d, hd⟩ := exists_isWritten_of_unsigned? h hfinite
    exact ⟨false, d, .intro rfl .none hd⟩

section
variable (hexponent : 1 < f.exponentBits)
include hexponent

/-- A text that writes a number is read as the value of the number: the quotient that it is, rounded
once. -/
theorem ofText?_of_isWritten (h : IsWritten s negative d) :
    ofText? s = some (ofRatio negative d.num d.den : Binary f) := by
  obtain ⟨hs, hsign, hnumber⟩ := h
  rw [ofText?_of_isSign hs hsign hnumber, unsigned?_of_isWritten hnumber,
    ofDecimal_eq_ofRatio hexponent]

/-- A text is read as a finite value exactly when it writes a number that the value is nearest to.
This says what the reader does without mention of how it rounds. -/
theorem ofText?_eq_finite_iff (hfraction : 0 < f.fractionBits) {ordinal : Fin f.infinityOrdinal} :
    ofText? s = some (finite negative ordinal) ↔
      ∃ d, IsWritten s negative d ∧ f.IsNearest d.num d.den ordinal := by
  constructor
  · intro h
    obtain ⟨negative', d, hd⟩ := exists_isWritten_of_ofText? h rfl
    rw [ofText?_of_isWritten hexponent hd, Option.some_inj] at h
    obtain ⟨rfl, hnearest⟩ := (ofRatio_eq_finite_iff d.den_pos hfraction).1 h
    exact ⟨d, hd, hnearest⟩
  · rintro ⟨d, hd, hnearest⟩
    rw [ofText?_of_isWritten hexponent hd, Option.some_inj]
    exact (ofRatio_eq_finite_iff d.den_pos hfraction).2 ⟨rfl, hnearest⟩

end

end Binary

end MarkupValues
