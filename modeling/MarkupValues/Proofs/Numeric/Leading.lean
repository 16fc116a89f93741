import MarkupValues.Proofs.Numeric.Decimal
import MarkupValues.Proofs.Text.Caseless

/-!
# The longest number that starts a text

A decimal number that starts a text is some of the digits that start it, or all of them with a point
and some of the digits after it (`prefix_cases_of_isDecimalChars`). So what is read from the start
of a text is the longest decimal number there, and where there is none it is zero for a point and
nothing for anything else (`leadingDecimalChars?_cases`). Lower case neither makes such a start nor
spoils one (`isLongestDecimal_lowercase_iff`).
-/

namespace MarkupValues.Numeric

open Text (afterDigits leadingDigits lowercase)

variable {cs digits : List Char} {s : String}

/-- Whether characters are the longest decimal number that starts a text: they are one that does,
and no other is longer. -/
structure IsLongestDecimal (cs digits : List Char) : Prop where
  starts : digits <+: cs
  isDecimal : isDecimalChars digits = true
  longest : ∀ other, other <+: cs → isDecimalChars other = true → other.length ≤ digits.length

/-- Whether no decimal number starts a text, the empty one included. -/
def StartsWithoutDecimal (cs : List Char) : Prop :=
  ∀ digits, digits <+: cs → isDecimalChars digits = false

/-- No two numbers are the longest one, since two starts of one text that are equally long are
equal. -/
theorem IsLongestDecimal.unique {digits' : List Char} (h : IsLongestDecimal cs digits)
    (h' : IsLongestDecimal cs digits') : digits = digits' := by
  have hle := h'.longest _ h.starts h.isDecimal
  have hge := h.longest _ h'.starts h'.isDecimal
  have hstart := List.prefix_of_prefix_length_le h.starts h'.starts hle
  exact hstart.eq_of_length (Nat.le_antisymm hle hge)

/-- A text that starts with a longest number starts with a number. -/
theorem IsLongestDecimal.not_startsWithoutDecimal (h : IsLongestDecimal cs digits) :
    ¬StartsWithoutDecimal cs :=
  fun hnone => Bool.eq_false_iff.1 (hnone digits h.starts) h.isDecimal

/-! ## Numbers that start a text -/

/-- Digits that start a text are a start of all the digits that do. -/
theorem prefix_leadingDigits (hstart : digits <+: cs) (h : AllDigits digits) :
    digits <+: leadingDigits cs := by
  obtain ⟨rest, rfl⟩ := hstart
  rw [leadingDigits, List.takeWhile_append_of_pos h]
  exact List.prefix_append _ _

/-- The digits that start a text are a start of it. -/
theorem leadingDigits_prefix (cs : List Char) : leadingDigits cs <+: cs :=
  ⟨afterDigits cs, Text.leadingDigits_append_afterDigits cs⟩

/-- A decimal number that starts a text is digits that start it, or all of them with a point and
digits after it. This bounds its length in each case below. -/
theorem prefix_cases_of_isDecimalChars (hstart : digits <+: cs)
    (h : isDecimalChars digits = true) :
    digits <+: leadingDigits cs ∨ ∃ rest places, afterDigits cs = '.' :: rest ∧ places ≠ [] ∧
      places <+: leadingDigits rest ∧ digits = leadingDigits cs ++ '.' :: places := by
  rcases isDecimalChars_iff.1 h with ⟨-, hall⟩ | ⟨whole, places, rfl, hwhole, hne, hall⟩
  · exact .inl (prefix_leadingDigits hstart hall)
  · obtain ⟨tail, rfl⟩ := hstart
    have hcs : whole ++ '.' :: places ++ tail = whole ++ '.' :: (places ++ tail) := by simp
    rw [hcs, leadingDigits_point hwhole, afterDigits_point hwhole]
    exact .inr ⟨_, places, rfl, hne, prefix_leadingDigits (List.prefix_append _ _) hall, rfl⟩

/-- The digits that start a text are the longest number when no point with a digit follows them. -/
theorem isLongestDecimal_whole (hne : leadingDigits cs ≠ [])
    (hpoint : ∀ rest, afterDigits cs = '.' :: rest → leadingDigits rest = []) :
    IsLongestDecimal cs (leadingDigits cs) where
  starts := leadingDigits_prefix cs
  isDecimal := isDecimalChars_iff.2 (.inl ⟨hne, allDigits_leadingDigits cs⟩)
  longest other hother hdecimal := by
    rcases prefix_cases_of_isDecimalChars hother hdecimal with
      hwhole | ⟨rest, places, hrest, hplaces, hstart, -⟩
    · exact hwhole.length_le
    · rw [hpoint rest hrest] at hstart
      exact absurd (List.prefix_nil.1 hstart) hplaces

/-- All digits on both sides of a point are the longest number when there is one after the point:
any other number that starts the text has no more digits on either side. -/
theorem isLongestDecimal_places {rest : List Char} (hrest : afterDigits cs = '.' :: rest)
    (hne : leadingDigits rest ≠ []) :
    IsLongestDecimal cs (leadingDigits cs ++ '.' :: leadingDigits rest) where
  starts := by
    refine ⟨afterDigits rest, ?_⟩
    rw [List.append_assoc, List.cons_append, Text.leadingDigits_append_afterDigits, ← hrest,
      Text.leadingDigits_append_afterDigits]
  isDecimal := isDecimalChars_iff.2
    (.inr ⟨_, _, rfl, allDigits_leadingDigits cs, hne, allDigits_leadingDigits rest⟩)
  longest other hother hdecimal := by
    rcases prefix_cases_of_isDecimalChars hother hdecimal with
      hwhole | ⟨rest', places, hrest', -, hstart, rfl⟩
    · exact hwhole.length_le.trans (by simp)
    · cases hrest.symm.trans hrest'
      simpa using hstart.length_le

/-- No number starts a text that starts with neither a digit nor a point and a digit, since every
number starts with one or the other. -/
theorem startsWithoutDecimal_of_leadingDigits (hwhole : leadingDigits cs = [])
    (hpoint : ∀ rest, afterDigits cs = '.' :: rest → leadingDigits rest = []) :
    StartsWithoutDecimal cs := by
  intro digits hstart
  refine Bool.eq_false_iff.2 fun hdecimal => ?_
  rcases prefix_cases_of_isDecimalChars hstart hdecimal with
    hnone | ⟨rest, places, hrest, hplaces, hstart, -⟩
  · rw [hwhole] at hnone
    rw [List.prefix_nil.1 hnone] at hdecimal
    cases hdecimal
  · rw [hpoint rest hrest] at hstart
    exact hplaces (List.prefix_nil.1 hstart)

/-! ## The number that is read -/

/-- What is read from the start of a text is the longest decimal number there. Where there is none
it is zero for a point, and nothing otherwise. -/
theorem leadingDecimalChars?_cases (cs : List Char) :
    (∃ digits, IsLongestDecimal cs digits ∧ leadingDecimalChars? cs = some digits) ∨
      StartsWithoutDecimal cs ∧
        leadingDecimalChars? cs = if cs.head? = some '.' then some ['0'] else none := by
  have hcs := Text.leadingDigits_append_afterDigits cs
  unfold leadingDecimalChars?
  simp only [List.isEmpty_iff]
  split
  · next rest hrest =>
    have hpoint (hplaces : leadingDigits rest = []) :
        ∀ rest', afterDigits cs = '.' :: rest' → leadingDigits rest' = [] := by
      intro rest' hrest'
      cases hrest.symm.trans hrest'
      exact hplaces
    by_cases hplaces : leadingDigits rest = []
    · by_cases hwhole : leadingDigits cs = []
      · have hhead : cs.head? = some '.' := by
          rw [← hcs, hwhole, hrest]
          rfl
        rw [if_pos hplaces, if_pos hwhole, if_pos hhead]
        exact .inr ⟨startsWithoutDecimal_of_leadingDigits hwhole (hpoint hplaces), rfl⟩
      · rw [if_pos hplaces, if_neg hwhole]
        exact .inl ⟨_, isLongestDecimal_whole hwhole (hpoint hplaces), rfl⟩
    · rw [if_neg hplaces]
      exact .inl ⟨_, isLongestDecimal_places hrest hplaces, rfl⟩
  · next hrest =>
    have hpoint : ∀ rest, afterDigits cs = '.' :: rest → leadingDigits rest = [] :=
      fun rest h => absurd h (hrest rest)
    by_cases hwhole : leadingDigits cs = []
    · have hhead : cs.head? ≠ some '.' := by
        rw [← hcs, hwhole, List.nil_append]
        intro h
        obtain ⟨rest, h⟩ := List.head?_eq_some_iff.1 h
        exact hrest rest h
      rw [if_pos hwhole, if_neg hhead]
      exact .inr ⟨startsWithoutDecimal_of_leadingDigits hwhole hpoint, rfl⟩
    · rw [if_neg hwhole]
      exact .inl ⟨_, isLongestDecimal_whole hwhole hpoint, rfl⟩

/-- What is read as a number from the start of a text is a decimal number, the zero for a point
included. -/
theorem isDecimalChars_of_leadingDecimalChars? (h : leadingDecimalChars? cs = some digits) :
    isDecimalChars digits = true := by
  rcases leadingDecimalChars?_cases cs with ⟨digits', hlongest, hread⟩ | ⟨-, hread⟩
  · cases hread.symm.trans h
    exact hlongest.isDecimal
  · rw [h] at hread
    split at hread
    · cases hread
      rfl
    · cases hread

/-! ## In lower case -/

/-- A decimal number has no letters, so it is its own lower case. -/
theorem allCaseless_of_isDecimalChars (h : isDecimalChars digits = true) :
    Text.AllCaseless digits := by
  intro c hc
  rcases forall_mem_of_isDecimalChars h c hc with hdigit | rfl
  · exact Text.caseless_of_isDigit hdigit
  · rfl

/-- The same decimal numbers start a text and its lower case, since lower-casing neither makes nor
removes a digit or a point. -/
theorem prefix_lowercase_iff (h : isDecimalChars digits = true) :
    digits <+: (lowercase s).toList ↔ digits <+: s.toList :=
  Text.prefix_lowercase_iff (allCaseless_of_isDecimalChars h)

/-- The longest number that starts a text is that of its lower case. -/
theorem isLongestDecimal_lowercase_iff :
    IsLongestDecimal (lowercase s).toList digits ↔ IsLongestDecimal s.toList digits := by
  constructor
  · rintro ⟨hstarts, hdecimal, hlongest⟩
    exact ⟨(prefix_lowercase_iff hdecimal).1 hstarts, hdecimal, fun other hother hdecimal' =>
      hlongest other ((prefix_lowercase_iff hdecimal').2 hother) hdecimal'⟩
  · rintro ⟨hstarts, hdecimal, hlongest⟩
    exact ⟨(prefix_lowercase_iff hdecimal).2 hstarts, hdecimal, fun other hother hdecimal' =>
      hlongest other ((prefix_lowercase_iff hdecimal').1 hother) hdecimal'⟩

/-- A text starts without a number exactly when its lower case does. -/
theorem startsWithoutDecimal_lowercase_iff :
    StartsWithoutDecimal (lowercase s).toList ↔ StartsWithoutDecimal s.toList := by
  refine forall_congr' fun digits => ?_
  cases h : isDecimalChars digits with
  | false => exact iff_of_true (fun _ => rfl) fun _ => rfl
  | true => rw [prefix_lowercase_iff h]

end MarkupValues.Numeric
