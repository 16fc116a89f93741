import Mathlib
import MarkupValues.Binary.Shortest
import MarkupValues.Proofs.Binary.Read
import MarkupValues.Proofs.Numeric.Decimal

/-!
# The text of a binary value

The text of a finite value is a decimal number without an exponent (`Binary.isSignedDecimal_text`).
That of its magnitude reads back as the magnitude (`BinaryFormat.readsBack_magnitudeText`): it is
either checked to do so, or the exact number, which rounds to itself. So finite values with one text
are one value (`Binary.text_injective`).
-/

namespace MarkupValues

/-! ## Positional notation -/

/-- With a negative power of ten the text has a point and as many places as the power. The places
are padded with zeros on the left, and write the remainder of the digits. -/
theorem positional_of_neg {digits : Nat} (hd : digits ≠ 0) {exponent : Int} (he : exponent < 0) :
    ∃ places, positional digits exponent =
        Nat.toDigits 10 (digits / 10 ^ exponent.natAbs) ++ '.' :: places ∧
      places.length = exponent.natAbs ∧ Numeric.AllDigits places ∧
      Nat.ofDigitChars 10 places 0 = digits % 10 ^ exponent.natAbs := by
  have hmod : digits % 10 ^ exponent.natAbs < 10 ^ exponent.natAbs :=
    Nat.mod_lt _ (Nat.pow_pos (by omega))
  have hlen := (Nat.length_toDigits_le_iff (b := 10) (by omega) (by omega)).2 hmod
  refine ⟨_, by rw [positional, if_neg hd, if_pos he]; rfl, ?_, ?_, ?_⟩
  · simp only [List.length_append, List.length_replicate]
    exact Nat.sub_add_cancel hlen
  · intro c hc
    rcases List.mem_append.1 hc with hc | hc
    · rw [(List.mem_replicate.1 hc).2]; rfl
    · exact Numeric.allDigits_toDigits _ c hc
  · rw [Nat.ofDigitChars_append, Nat.ofDigitChars_replicate_zero, Nat.mul_zero]
    exact Nat.ofDigitChars_ten_toDigits

/-- A number in positional notation is a decimal number, whatever its digits and its power of
ten. -/
theorem isDecimalChars_positional (digits : Nat) (exponent : Int) :
    Numeric.isDecimalChars (positional digits exponent) = true := by
  by_cases hd : digits = 0
  · rw [positional, if_pos hd]; rfl
  by_cases he : exponent < 0
  · obtain ⟨places, heq, hlen, hall, -⟩ := positional_of_neg hd he
    refine Numeric.isDecimalChars_iff.2
      (.inr ⟨_, places, heq, Numeric.allDigits_toDigits _, ?_, hall⟩)
    exact List.ne_nil_of_length_pos (by omega)
  · rw [positional, if_neg hd, if_neg he]
    refine Numeric.isDecimalChars_iff.2 (.inl ⟨by simp [Nat.toDigits_ne_nil], fun c hc => ?_⟩)
    rcases List.mem_append.1 hc with hc | hc
    · exact Numeric.allDigits_toDigits _ c hc
    · rw [(List.mem_replicate.1 hc).2]; rfl

/-- A number with places is written as its digits and their power of ten: leading zeros before the
point and after it change neither. -/
theorem Decimal.isWritten_positional {digits : Nat} (hd : digits ≠ 0) {exponent : Int}
    (he : exponent < 0) : Decimal.IsWritten (positional digits exponent) ⟨digits, exponent⟩ := by
  obtain ⟨places, heq, hlen, hall, hvalue⟩ := positional_of_neg hd he
  have hdigits : Text.digitsValue (Nat.toDigits 10 (digits / 10 ^ exponent.natAbs) ++ places) =
      digits := by
    rw [Text.digitsValue, Nat.ofDigitChars_append, Nat.ofDigitChars_ten_toDigits,
      Nat.ofDigitChars_eq_ofDigitChars_zero, hvalue, hlen]
    exact Nat.div_add_mod _ _
  have hexponent : (0 : Int) - places.length = exponent := by omega
  have hne : Nat.toDigits 10 (digits / 10 ^ exponent.natAbs) ++ places ≠ [] := by
    simp [Nat.toDigits_ne_nil]
  have hwritten := IsWritten.point (Numeric.allDigits_toDigits _) hall hne .none
  rwa [List.append_nil, hdigits, hexponent, ← heq] at hwritten

namespace BinaryFormat

/-- The text of a magnitude is one that was tried and reads back, or the exact one with all its
places when no shorter one does. -/
theorem magnitudeText_cases (f : BinaryFormat) (ordinal : Fin f.infinityOrdinal) :
    (f.readsBack ordinal (f.magnitudeText ordinal) = true ∧
      ∃ digits exponent, f.magnitudeText ordinal = positional digits exponent) ∨
      f.magnitudeText ordinal = positional (f.units ordinal * 5 ^ f.places) (-f.places) := by
  unfold magnitudeText
  cases hshort : (f.grids (f.units ordinal)).findSome? fun exponent =>
      ((f.neighbours (f.units ordinal) exponent).map (positional · exponent)).find?
        (f.readsBack ordinal) with
  | none => exact .inr (by simp only [hshort]; rfl)
  | some cs =>
    obtain ⟨exponent, -, hfind⟩ := List.exists_of_findSome?_eq_some hshort
    obtain ⟨digits, -, hdigits⟩ := List.mem_map.1 (List.mem_of_find?_eq_some hfind)
    simp only [hshort, Option.getD_some]
    exact .inl ⟨List.find?_some hfind, digits, exponent, hdigits.symm⟩

/-- The text of a magnitude is a decimal number, without a sign and without an exponent. -/
theorem isDecimalChars_magnitudeText (f : BinaryFormat) (ordinal : Fin f.infinityOrdinal) :
    Numeric.isDecimalChars (f.magnitudeText ordinal) = true := by
  rcases f.magnitudeText_cases ordinal with ⟨-, _, _, h⟩ | h <;> rw [h] <;>
    exact isDecimalChars_positional _ _

section
variable {f : BinaryFormat} (hf : 1 < f.exponentBits)
include hf

/-- The exact decimal digits of a magnitude round to the magnitude: they are the very quotient that
it is. -/
theorem ofDecimal_exact (ordinal : Fin f.infinityOrdinal) :
    (Binary.ofDecimal false (f.units ordinal * 5 ^ f.places) (-f.places) : Binary f) =
      .finite false ordinal := by
  have hpow : (-(f.places : Int)).toNat = 0 ∧ (-(-(f.places : Int))).toNat = f.places := by omega
  refine (Binary.ofDecimal_eq_ofRatio hf false ⟨_, _⟩).trans ?_
  refine Binary.ofRatio_of_eq (Decimal.den_pos _) false ?_
  rw [Decimal.num, Decimal.den, hpow.1, hpow.2, Nat.pow_zero, Nat.mul_one, Nat.mul_assoc,
    ← Nat.mul_pow]

variable (hp : 0 < f.places)
include hp

/-- The exact text of a magnitude, with all its places, reads back. So the search for a shorter text
never ends without one. -/
theorem readsBack_exact (ordinal : Fin f.infinityOrdinal) :
    f.readsBack ordinal (positional (f.units ordinal * 5 ^ f.places) (-f.places)) = true := by
  unfold readsBack
  by_cases h : f.units ordinal = 0
  · have hord : ordinal = ⟨0, Nat.zero_lt_of_lt ordinal.isLt⟩ :=
      Fin.ext (eq_zero_of_units_eq_zero h)
    have hwritten : Decimal.IsWritten ['0'] ⟨0, 0⟩ := Decimal.ofChars?_eq_some_iff.1 rfl
    rw [h, Nat.zero_mul, positional, if_pos rfl, Binary.unsigned?_of_isWritten hwritten, hord]
    simp [Binary.ofDecimal, Binary.zero, Nat.zero_lt_of_lt ordinal.isLt]
  · have hdigits : f.units ordinal * 5 ^ f.places ≠ 0 := Nat.mul_ne_zero h (by positivity)
    have hplaces : -(f.places : Int) < 0 := by omega
    rw [Binary.unsigned?_of_isWritten (Decimal.isWritten_positional hdigits hplaces)]
    simp only [ofDecimal_exact hf, decide_true]

/-- The text of a magnitude reads back as the magnitude, whether it is the exact one or a shorter
one. -/
theorem readsBack_magnitudeText (ordinal : Fin f.infinityOrdinal) :
    f.readsBack ordinal (f.magnitudeText ordinal) = true := by
  rcases f.magnitudeText_cases ordinal with ⟨h, -⟩ | h
  · exact h
  · rw [h]; exact readsBack_exact hf hp ordinal

/-- Magnitudes with one text are one magnitude, since each of them is what the text reads back
as. -/
theorem magnitudeText_injective {ordinal ordinal' : Fin f.infinityOrdinal}
    (h : f.magnitudeText ordinal = f.magnitudeText ordinal') : ordinal = ordinal' := by
  have hread := readsBack_magnitudeText hf hp ordinal
  have hread' := readsBack_magnitudeText hf hp ordinal'
  rw [h] at hread
  simp only [readsBack, decide_eq_true_eq] at hread hread'
  rw [hread] at hread'
  cases hread'
  rfl

end

end BinaryFormat

namespace Binary

variable {f : BinaryFormat}

/-- The text of a finite value is a minus sign or nothing before the text of its magnitude; zero may
have the sign as well. -/
theorem toList_text_finite (negative : Bool) (ordinal : Fin f.infinityOrdinal) :
    (text (finite negative ordinal)).toList =
      (if negative then ['-'] else []) ++ f.magnitudeText ordinal := by
  simp [text]

/-- The text of a finite value is a decimal number with an optional sign, without an exponent. In
code it is one token with the suffix of its type. -/
theorem isSignedDecimal_text {value : Binary f} (h : value.isFinite = true) :
    Numeric.isSignedDecimal value.text.toList = true := by
  cases value with
  | nan | infinite => cases h
  | finite negative ordinal =>
    rw [toList_text_finite]
    have hmag := f.isDecimalChars_magnitudeText ordinal
    cases negative with
    | true => exact hmag
    | false => exact Numeric.isSignedDecimal_of_isDecimalChars hmag

/-- Finite values with one text are one value: the sign is read off the first character and the
magnitude off the rest. -/
theorem text_injective (hf : 1 < f.exponentBits) (hp : 0 < f.places) {value value' : Binary f}
    (h : value.isFinite = true) (h' : value'.isFinite = true) (heq : value.text = value'.text) :
    value = value' := by
  have hsign : ∀ (ordinal : Fin f.infinityOrdinal) (cs : List Char),
      f.magnitudeText ordinal ≠ '-' :: cs := fun ordinal cs hcs =>
    absurd (Numeric.forall_mem_of_isDecimalChars (f.isDecimalChars_magnitudeText ordinal) '-'
      (hcs ▸ .head _)) (by decide)
  cases value with
  | nan | infinite => cases h
  | finite negative ordinal =>
  cases value' with
  | nan | infinite => cases h'
  | finite negative' ordinal' =>
    have htext := congrArg String.toList heq
    rw [toList_text_finite, toList_text_finite] at htext
    cases negative <;> cases negative'
    · rw [BinaryFormat.magnitudeText_injective hf hp htext]
    · exact absurd htext (hsign _ _)
    · exact absurd htext.symm (hsign _ _)
    · rw [BinaryFormat.magnitudeText_injective hf hp (List.cons.inj htext).2]

end Binary

end MarkupValues
