import MarkupValues.Proofs.Reading.Results

/-!
# Grid lengths

Every text is a grid length once the type of the unit is known (`gridLength_measured`). The unit is
told by the word and by the star, of which no text has both, and the amount by the longest decimal
number that starts the text (`IsAmount`). Lower case changes neither.
-/

namespace MarkupValues.Reading

open Numeric (IsLongestDecimal StartsWithoutDecimal isDecimal)
open Text (lowercase sameIgnoringCase trim)

variable {source value missing : String} {target : Target} {type : TypeName}

/-! ## Amounts -/

/-- Whether an expression is the amount that a text gives: the longest decimal number that starts
it, or without one zero for a point at the start, and else a number of double precision. -/
inductive IsAmount (value missing : String) : Expr → Prop
  | number {digits : String} (h : IsLongestDecimal value.toList digits.toList) :
    IsAmount value missing (.raw digits)
  | point (hnone : StartsWithoutDecimal value.toList) (hpoint : value.toList.head? = some '.') :
    IsAmount value missing (.raw "0")
  | missing (hnone : StartsWithoutDecimal value.toList) (hpoint : value.toList.head? ≠ some '.') :
    IsAmount value missing (.literal (.double missing))

/-- What the reader takes for an amount is the amount that the text gives. The cases are those of
the longest number that starts a text. -/
theorem leadingOr_isAmount (value missing : String) :
    IsAmount value missing (leadingOr value missing) := by
  rcases Numeric.leadingDecimalChars?_cases value.toList with
    ⟨digits, hlongest, hread⟩ | ⟨hnone, hread⟩
  · rw [leadingOr, Numeric.leadingDecimal?, hread]
    exact .number (by rwa [String.toList_ofList])
  · rw [leadingOr, Numeric.leadingDecimal?, hread]
    by_cases hpoint : value.toList.head? = some '.'
    · rw [if_pos hpoint]
      exact .point hnone hpoint
    · rw [if_neg hpoint]
      exact .missing hnone hpoint

/-- A text gives one amount, since it starts with one longest number at most. -/
theorem IsAmount.unique {amount amount' : Expr} (h : IsAmount value missing amount)
    (h' : IsAmount value missing amount') : amount = amount' := by
  cases h with
  | number hdigits =>
    cases h' with
    | number hdigits' => rw [String.toList_inj.1 (hdigits.unique hdigits')]
    | point hnone _ | missing hnone _ => exact absurd hnone hdigits.not_startsWithoutDecimal
  | point hnone hpoint =>
    cases h' with
    | number hdigits => exact absurd hnone hdigits.not_startsWithoutDecimal
    | point => rfl
    | missing _ hother => exact absurd hpoint hother
  | missing hnone hother =>
    cases h' with
    | number hdigits => exact absurd hnone hdigits.not_startsWithoutDecimal
    | point _ hpoint => exact absurd hpoint hother
    | missing => rfl

/-- A text starts with a point when its lower case does. -/
theorem head?_lowercase_eq_point_iff :
    (lowercase value).toList.head? = some '.' ↔ value.toList.head? = some '.' := by
  have hpoint (cs : List Char) : cs.head? = some '.' ↔ ['.'] <+: cs := by
    rw [List.head?_eq_some_iff, List.IsPrefix]
    simp [eq_comm]
  rw [hpoint, hpoint, Text.prefix_lowercase_iff (List.forall_mem_singleton.2 rfl)]

/-- A text gives the amount that its lower case gives, so that lower-casing may be left out of the
statements. -/
theorem IsAmount.of_lowercase {amount : Expr} (h : IsAmount (lowercase value) missing amount) :
    IsAmount value missing amount := by
  cases h with
  | number h => exact .number (Numeric.isLongestDecimal_lowercase_iff.1 h)
  | point hnone hpoint =>
    exact .point (Numeric.startsWithoutDecimal_lowercase_iff.1 hnone)
      (head?_lowercase_eq_point_iff.1 hpoint)
  | missing hnone hpoint =>
    exact .missing (Numeric.startsWithoutDecimal_lowercase_iff.1 hnone)
      (mt head?_lowercase_eq_point_iff.2 hpoint)

/-! ## Units -/

/-- A text becomes the word `auto` in lower case exactly when it is the word in some ASCII case: no
other letters become those of the word. -/
theorem lowercase_eq_auto_iff : lowercase value = "auto" ↔ sameIgnoringCase "auto" value = true :=
  Text.lowercase_eq_iff (by decide) (by decide) value

/-- A text ends with a star exactly when its lower case does. -/
theorem getLast?_lowercase_eq_star_iff :
    (lowercase value).toList.getLast? = some '*' ↔ value.toList.getLast? = some '*' := by
  have hstar (c : Char) : c.toLower = '*' ↔ c = '*' := by
    have h : (c.toLower == '*') = (c == '*') := Text.comp_toLower (f := (· == '*')) (by decide) c
    rw [← beq_iff_eq, h, beq_iff_eq]
  rw [lowercase, String.toList_ofList, Text.getLast?_lowercaseFrom_eq_iff (by decide)]
  simp [Option.map_eq_some_iff, hstar]

/-- The word does not end with a star, so that no text is both. -/
theorem not_auto_of_star (hstar : value.toList.getLast? = some '*') :
    ¬sameIgnoringCase "auto" value = true := by
  intro hauto
  rw [← getLast?_lowercase_eq_star_iff, lowercase_eq_auto_iff.2 hauto] at hstar
  cases hstar

/-- The word is one automatic unit. -/
theorem amountAndUnit_of_auto (hauto : sameIgnoringCase "auto" value = true) :
    amountAndUnit (lowercase value) = (.literal (.double "1"), "Auto") := by
  rw [amountAndUnit, if_pos (lowercase_eq_auto_iff.2 hauto)]

/-- A text that ends with a star is the number that it starts with, or one, in shares. -/
theorem amountAndUnit_of_star (hstar : value.toList.getLast? = some '*') :
    amountAndUnit (lowercase value) = (leadingOr (lowercase value) "1", "Star") := by
  rw [amountAndUnit, if_neg (mt lowercase_eq_auto_iff.1 (not_auto_of_star hstar)),
    if_pos (getLast?_lowercase_eq_star_iff.2 hstar)]

/-- Any other text is the number that it starts with, or zero, in pixels. What follows the number is
not looked at. -/
theorem amountAndUnit_of_neither (hauto : ¬sameIgnoringCase "auto" value = true)
    (hstar : value.toList.getLast? ≠ some '*') :
    amountAndUnit (lowercase value) = (leadingOr (lowercase value) "0", "Pixel") := by
  rw [amountAndUnit, if_neg (mt lowercase_eq_auto_iff.1 hauto),
    if_neg (mt getLast?_lowercase_eq_star_iff.1 hstar)]

/-! ## Amount and unit together -/

/-- Whether an amount and the name of a unit are what a text measures. The word `auto` is one
automatic unit, in any ASCII case. A text that ends with a star measures shares, one if it gives no
other amount, and any other text measures pixels. -/
inductive Measures (value : String) : Expr → String → Prop
  | auto (hauto : sameIgnoringCase "auto" value = true) :
    Measures value (.literal (.double "1")) "Auto"
  | star {amount : Expr} (hstar : value.toList.getLast? = some '*')
      (hamount : IsAmount value "1" amount) : Measures value amount "Star"
  | pixel {amount : Expr} (hauto : ¬sameIgnoringCase "auto" value = true)
      (hstar : value.toList.getLast? ≠ some '*') (hamount : IsAmount value "0" amount) :
    Measures value amount "Pixel"

section
variable {amount : Expr} {unit : String} (h : Measures value amount unit)
include h

/-- The unit is the automatic one for the word alone. -/
theorem Measures.unit_eq_auto_iff : unit = "Auto" ↔ sameIgnoringCase "auto" value = true := by
  cases h with
  | auto hauto => exact iff_of_true rfl hauto
  | star hstar _ => exact iff_of_false (by decide) (not_auto_of_star hstar)
  | pixel hauto _ _ => exact iff_of_false (by decide) hauto

/-- The unit is a share for what ends with a star alone. -/
theorem Measures.unit_eq_star_iff : unit = "Star" ↔ value.toList.getLast? = some '*' := by
  cases h with
  | auto hauto => exact iff_of_false (by decide) fun hstar => not_auto_of_star hstar hauto
  | star hstar _ => exact iff_of_true rfl hstar
  | pixel _ hstar _ => exact iff_of_false (by decide) hstar

/-- A text measures one amount of one unit: the three cases exclude each other, and in each of them
the amount is one. -/
theorem Measures.unique {amount' : Expr} {unit' : String} (h' : Measures value amount' unit') :
    amount = amount' ∧ unit = unit' := by
  cases h with
  | auto hauto =>
    cases h' with
    | auto => exact ⟨rfl, rfl⟩
    | star hstar _ => exact absurd hauto (not_auto_of_star hstar)
    | pixel hother _ _ => exact absurd hauto hother
  | star hstar hamount =>
    cases h' with
    | auto hauto => exact absurd hauto (not_auto_of_star hstar)
    | star _ hamount' => exact ⟨hamount.unique hamount', rfl⟩
    | pixel _ hother _ => exact absurd hstar hother
  | pixel hnot hnone hamount =>
    cases h' with
    | auto hauto => exact absurd hauto hnot
    | star hstar _ => exact absurd hstar hnone
    | pixel _ _ hamount' => exact ⟨hamount.unique hamount', rfl⟩

end

/-- What the reader takes for the amount and the unit is what the text measures. -/
theorem amountAndUnit_measures (value : String) : Measures value
    (amountAndUnit (lowercase value)).1 (amountAndUnit (lowercase value)).2 := by
  by_cases hstar : value.toList.getLast? = some '*'
  · rw [amountAndUnit_of_star hstar]
    exact .star hstar (leadingOr_isAmount _ _).of_lowercase
  · by_cases hauto : sameIgnoringCase "auto" value = true
    · rw [amountAndUnit_of_auto hauto]
      exact .auto hauto
    · rw [amountAndUnit_of_neither hauto hstar]
      exact .pixel hauto hstar (leadingOr_isAmount _ _).of_lowercase

/-- The amount of a grid length has the digits of a decimal number, whichever of the cases it comes
from. -/
theorem isDecimal_amountAndUnit (value : String) : ∃ literal digits,
    (amountAndUnit value).1 = .literal literal ∧ literal.numericText = some digits ∧
      isDecimal digits = true := by
  obtain ⟨⟨number, hnumber, hamount⟩ | ⟨digits, hdigits, hamount⟩, -⟩ := amountAndUnit_eq value
  · exact ⟨.raw number, number, hamount, rfl, hnumber⟩
  · have hdefaults : ∀ digits ∈ ["0", "1"], isDecimal digits = true := by decide
    exact ⟨.double digits, digits, hamount, rfl, hdefaults digits hdigits⟩

/-- A grid length is the call with what the text measures, and with nothing else. -/
theorem gridLength_eq_ok_iff {e : Expr} (htype : target.companion? 0 = some type) :
    gridLength source target = .ok e ↔ ∃ amount unit, Measures (trim source) amount unit ∧
      e = .call target.destination [amount, .member type unit] := by
  have hmeasures := amountAndUnit_measures (trim source)
  rw [gridLength_of_companion htype, Except.ok.injEq]
  constructor
  · rintro rfl
    exact ⟨_, _, hmeasures, rfl⟩
  · rintro ⟨amount, unit, hother, rfl⟩
    obtain ⟨hamount, hunit⟩ := hmeasures.unique hother
    rw [hamount, hunit]

/-- With the type of the unit every text is a grid length, the one that it measures. The unit is
`Auto` for the word alone and `Star` for what ends with a star alone, and the amount is always
written with the digits of a decimal number. -/
theorem gridLength_measured (source : String) {target : Target} {type : TypeName}
    (htype : target.companion? 0 = some type) :
    (∀ e, gridLength source target = .ok e ↔ ∃ amount unit, Measures (trim source) amount unit ∧
      e = .call target.destination [amount, .member type unit]) ∧
    ∃ amount unit,
      gridLength source target = .ok (.call target.destination [amount, .member type unit]) ∧
      Measures (trim source) amount unit ∧
      (unit = "Auto" ↔ sameIgnoringCase "auto" (trim source) = true) ∧
      (unit = "Star" ↔ (trim source).toList.getLast? = some '*') ∧
      ∃ literal digits, amount = .literal literal ∧ literal.numericText = some digits ∧
        isDecimal digits = true := by
  have hmeasures := amountAndUnit_measures (trim source)
  exact ⟨fun e => gridLength_eq_ok_iff htype, _, _, gridLength_of_companion htype, hmeasures,
    hmeasures.unit_eq_auto_iff, hmeasures.unit_eq_star_iff, isDecimal_amountAndUnit _⟩

/-- A point without a digit after it is left out, and a star counts at the end alone. -/
theorem gridLength_measured_pixels :
    Target.companion? ⟨⟨"GridLength"⟩, [⟨"GridUnitType"⟩]⟩ 0 = some ⟨"GridUnitType"⟩ ∧
      gridLength " 5.*PX " ⟨⟨"GridLength"⟩, [⟨"GridUnitType"⟩]⟩ =
        .ok (.call ⟨"GridLength"⟩ [.raw "5", .member ⟨"GridUnitType"⟩ "Pixel"]) := by
  have htype :
      Target.companion? ⟨⟨"GridLength"⟩, [⟨"GridUnitType"⟩]⟩ 0 = some ⟨"GridUnitType"⟩ := rfl
  have htrim : trim " 5.*PX " = "5.*PX" := by decide
  have hlongest : IsLongestDecimal "5.*PX".toList "5".toList :=
    Numeric.isLongestDecimal_whole (by decide) fun rest hrest => by
      cases hrest
      rfl
  obtain ⟨hread, -⟩ := gridLength_measured " 5.*PX " htype
  refine ⟨htype, (hread _).2 ⟨.raw "5", "Pixel", ?_, rfl⟩⟩
  rw [htrim]
  exact .pixel (by decide) (by decide) (.number hlongest)

end MarkupValues.Reading
