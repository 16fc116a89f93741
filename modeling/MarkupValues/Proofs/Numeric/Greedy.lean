import MarkupValues.Proofs.Numeric.Leading

/-!
# Reading a number without looking for the longest one

A number can be read by taking every digit and at most one point, and mending what has no digit
after the point (`mended?_greedyDigits`). It can be recognised by what is left of a text after
digits, with places if there are any, or else after places alone (`afterDecimal?`). Neither compares
numbers with each other, but the first number found in this order is the longest one
(`afterDecimal?_eq_some_iff`), and so what is read is the longest start of a text that is recognised
(`leadingDecimal?_longest`).
-/

namespace MarkupValues.Numeric

open Text (afterDigits leadingDigits)

variable {cs digits rest : List Char} {s : String}

/-! ## Taking digits and mending them -/

/-- The digits that start a text, and a point and the digits after it if a point follows them. -/
def greedyDigits (cs : List Char) : List Char :=
  match afterDigits cs with
  | '.' :: rest => leadingDigits cs ++ '.' :: leadingDigits rest
  | _ => leadingDigits cs

/-- Where a point follows the digits that start a text, it is taken with the digits after it. -/
theorem greedyDigits_of_point (h : afterDigits cs = '.' :: rest) :
    greedyDigits cs = leadingDigits cs ++ '.' :: leadingDigits rest := by
  simp only [greedyDigits, h]

/-- Where no point follows the digits that start a text, they are all that is taken. -/
theorem greedyDigits_of_no_point (h : ∀ rest, afterDigits cs ≠ '.' :: rest) :
    greedyDigits cs = leadingDigits cs := by
  unfold greedyDigits
  split
  · next rest hrest => exact absurd hrest (h rest)
  · rfl

/-- The number that digits with at most one point are mended to: a point that stands alone is zero,
and one at the end of others is dropped. -/
def mended? (cs : List Char) : Option (List Char) :=
  if cs = [] then none
  else if cs = ['.'] then some ['0']
  else some (if cs.getLast? = some '.' then cs.dropLast else cs)

/-- A point after digits is dropped, as it has no digit after it. -/
theorem mended?_append_point (hne : cs ≠ []) : mended? (cs ++ ['.']) = some cs := by
  simp [mended?, hne]

/-- What is a number already is left as it is, since it ends with a digit. -/
theorem mended?_of_isDecimalChars (h : isDecimalChars cs = true) : mended? cs = some cs := by
  obtain ⟨front, last, rfl, hlast⟩ := exists_append_of_isDecimalChars h
  have hpoint : last ≠ '.' := by
    rintro rfl
    cases hlast
  simp [mended?, List.append_eq_singleton_iff, hpoint]

/-- Digits that are taken as far as they go and then mended are what is read, for every text. The
cases are those of the reader: whether a point follows the digits, and whether digits follow it. -/
theorem mended?_greedyDigits (cs : List Char) :
    mended? (greedyDigits cs) = leadingDecimalChars? cs := by
  have hdigits := allDigits_leadingDigits cs
  unfold leadingDecimalChars?
  simp only [List.isEmpty_iff]
  split
  · next rest hrest =>
    rw [greedyDigits_of_point hrest]
    split
    · next hplaces =>
      rw [hplaces]
      split
      · next hwhole => rw [hwhole]; rfl
      · next hwhole => exact mended?_append_point hwhole
    · next hplaces =>
      refine mended?_of_isDecimalChars (isDecimalChars_iff.2 (.inr ?_))
      exact ⟨_, _, rfl, hdigits, hplaces, allDigits_leadingDigits rest⟩
  · next hpoint =>
    rw [greedyDigits_of_no_point hpoint]
    split
    · next hwhole => rw [hwhole]; rfl
    · next hwhole => exact mended?_of_isDecimalChars (isDecimalChars_iff.2 (.inl ⟨hwhole, hdigits⟩))

/-! ## Recognising a number by what is left after it -/

/-- What is left of a text after the digits that start it, if there are any. -/
def afterSomeDigits? (cs : List Char) : Option (List Char) :=
  if leadingDigits cs = [] then none else some (afterDigits cs)

/-- What is left of a text after a point that starts it and digits, if there are any after it. -/
def afterPlaces? : List Char → Option (List Char)
  | '.' :: cs => afterSomeDigits? cs
  | _ => none

/-- What is left of a text after a number that starts it. Digits are tried first, with places after
them if there are any, and then places alone. -/
def afterDecimal? (cs : List Char) : Option (List Char) :=
  match afterSomeDigits? cs with
  | some rest => some ((afterPlaces? rest).getD rest)
  | none => afterPlaces? cs

/-- What is left after digits is what follows all that start a text, when there is one at least. -/
theorem afterSomeDigits?_eq_some_iff :
    afterSomeDigits? cs = some rest ↔ leadingDigits cs ≠ [] ∧ afterDigits cs = rest := by
  simp [afterSomeDigits?]

/-- Digits are not found where none starts a text. -/
theorem afterSomeDigits?_eq_none_iff : afterSomeDigits? cs = none ↔ leadingDigits cs = [] := by
  simp [afterSomeDigits?]

/-- What is left after places is what follows a point and all digits after it, when there is one at
least. -/
theorem afterPlaces?_eq_some_iff : afterPlaces? cs = some rest ↔
    ∃ places, cs = '.' :: places ∧ leadingDigits places ≠ [] ∧ afterDigits places = rest := by
  unfold afterPlaces?
  split
  · simp [afterSomeDigits?_eq_some_iff]
  · next hpoint =>
    refine iff_of_false nofun ?_
    rintro ⟨places, rfl, -⟩
    exact hpoint places rfl

/-- Places are not found where a text starts with no point, or with one that has no digit after
it. -/
theorem afterPlaces?_eq_none_iff :
    afterPlaces? cs = none ↔ ∀ places, cs = '.' :: places → leadingDigits places = [] := by
  unfold afterPlaces?
  split
  · simp [afterSomeDigits?_eq_none_iff]
  · next hpoint => exact iff_of_true rfl fun places h => absurd h (hpoint places)

/-- Places after the digits that start a text are preferred to nothing after them. When there are no
digits, the places stand alone. -/
theorem afterDecimal?_eq_or (cs : List Char) :
    afterDecimal? cs = (afterPlaces? (afterDigits cs)).or (afterSomeDigits? cs) := by
  unfold afterDecimal?
  split
  · next rest hrest =>
    obtain ⟨-, rfl⟩ := afterSomeDigits?_eq_some_iff.1 hrest
    rw [hrest, Option.or_some]
  · next hnone =>
    have hcs := Text.leadingDigits_append_afterDigits cs
    rw [afterSomeDigits?_eq_none_iff.1 hnone, List.nil_append] at hcs
    rw [hnone, hcs, Option.or_none]

/-- The number that is found first is the longest one: digits are taken as far as they go, and
places before nothing. -/
theorem exists_isLongestDecimal_of_afterDecimal? (h : afterDecimal? cs = some rest) :
    ∃ digits, IsLongestDecimal cs digits ∧ digits ++ rest = cs := by
  have hcs := Text.leadingDigits_append_afterDigits cs
  rw [afterDecimal?_eq_or, Option.or_eq_some_iff] at h
  rcases h with hplaces | ⟨hnone, hwhole⟩
  · obtain ⟨places, hpoint, hne, rfl⟩ := afterPlaces?_eq_some_iff.1 hplaces
    refine ⟨_, isLongestDecimal_places hpoint hne, ?_⟩
    rw [List.append_assoc, List.cons_append, Text.leadingDigits_append_afterDigits, ← hpoint, hcs]
  · obtain ⟨hne, rfl⟩ := afterSomeDigits?_eq_some_iff.1 hwhole
    exact ⟨_, isLongestDecimal_whole hne (afterPlaces?_eq_none_iff.1 hnone), hcs⟩

/-- Where no number is found, none starts the text, however short. -/
theorem startsWithoutDecimal_of_afterDecimal? (h : afterDecimal? cs = none) :
    StartsWithoutDecimal cs := by
  rw [afterDecimal?_eq_or, Option.or_eq_none_iff] at h
  obtain ⟨hplaces, hwhole⟩ := h
  exact startsWithoutDecimal_of_leadingDigits (afterSomeDigits?_eq_none_iff.1 hwhole)
    (afterPlaces?_eq_none_iff.1 hplaces)

/-- What is left of a text after a number is what follows the longest one that starts it, although
the parser compares no two numbers: it tries what is longer first. -/
theorem afterDecimal?_eq_some_iff :
    afterDecimal? cs = some rest ↔ ∃ digits, IsLongestDecimal cs digits ∧ digits ++ rest = cs := by
  constructor
  · exact exists_isLongestDecimal_of_afterDecimal?
  · rintro ⟨digits, hlongest, hrest⟩
    cases hafter : afterDecimal? cs with
    | none =>
      exact absurd (startsWithoutDecimal_of_afterDecimal? hafter) hlongest.not_startsWithoutDecimal
    | some rest' =>
      obtain ⟨digits', hlongest', hrest'⟩ := exists_isLongestDecimal_of_afterDecimal? hafter
      obtain rfl := hlongest.unique hlongest'
      rw [List.append_cancel_left (hrest'.trans hrest.symm)]

/-- A number is the longest one that starts it. -/
theorem isLongestDecimal_self_iff : IsLongestDecimal cs cs ↔ isDecimalChars cs = true :=
  ⟨fun h => h.isDecimal, fun h => ⟨List.prefix_rfl, h, fun _ hother _ => hother.length_le⟩⟩

/-- A text is a number exactly when nothing is left after the number that starts it, which is how
numbers are recognised. -/
theorem isDecimal_iff_afterDecimal? : isDecimal s = true ↔ afterDecimal? s.toList = some [] := by
  have hself : isDecimal s = true ↔ IsLongestDecimal s.toList s.toList :=
    isLongestDecimal_self_iff.symm
  rw [hself, afterDecimal?_eq_some_iff]
  simp only [List.append_nil, exists_eq_right]

/-! ## The number that starts a text -/

/-- The longest number that starts a text is read as it is written. -/
theorem leadingDecimal?_of_isLongestDecimal {number : String}
    (h : IsLongestDecimal s.toList number.toList) : leadingDecimal? s = some number := by
  rcases leadingDecimalChars?_cases s.toList with ⟨digits, hlongest, hread⟩ | ⟨hnone, -⟩
  · rw [leadingDecimal?, hread, hlongest.unique h, Option.map_some, String.ofList_toList]
  · exact absurd hnone h.not_startsWithoutDecimal

/-- What starts with no number is read as zero if it starts with a point, and else not at all. -/
theorem leadingDecimal?_of_startsWithoutDecimal (h : StartsWithoutDecimal s.toList) :
    leadingDecimal? s = if s.toList.head? = some '.' then some "0" else none := by
  rcases leadingDecimalChars?_cases s.toList with ⟨digits, hlongest, -⟩ | ⟨-, hread⟩
  · exact absurd h hlongest.not_startsWithoutDecimal
  · rw [leadingDecimal?, hread, apply_ite (Option.map String.ofList)]
    rfl

/-- If some start of a text is a decimal number, the longest such start is read. If none is, a point
at the start is read as zero, and nothing else is read. So what is read is always a decimal number,
and each decimal number is read as itself. To take digits and mend them reads the same, and what is
left of a text after a number, if it starts with one, is left after the longest. -/
theorem leadingDecimal?_longest (s : String) :
    ((∃ start : String, start.toList <+: s.toList ∧ isDecimal start = true) →
      ∃ number, leadingDecimal? s = some number ∧ IsLongestDecimal s.toList number.toList) ∧
    ((∀ start : String, start.toList <+: s.toList → isDecimal start = false) →
      leadingDecimal? s = if s.toList.head? = some '.' then some "0" else none) ∧
    (∀ number, leadingDecimal? s = some number → isDecimal number = true) ∧
    (isDecimal s = true → leadingDecimal? s = some s) ∧
    leadingDecimal? s = (mended? (greedyDigits s.toList)).map String.ofList ∧
    (isDecimal s = true ↔ afterDecimal? s.toList = some []) ∧
    ∀ rest, afterDecimal? s.toList = some rest ↔
      ∃ digits, IsLongestDecimal s.toList digits ∧ digits ++ rest = s.toList := by
  refine ⟨?_, ?_, ?_, ?_, ?_, isDecimal_iff_afterDecimal?, fun rest => afterDecimal?_eq_some_iff⟩
  · rintro ⟨start, hstart, hdecimal⟩
    rcases leadingDecimalChars?_cases s.toList with ⟨digits, hlongest, -⟩ | ⟨hnone, -⟩
    · rw [← String.toList_ofList (l := digits)] at hlongest
      exact ⟨_, leadingDecimal?_of_isLongestDecimal hlongest, hlongest⟩
    · exact absurd hdecimal (Bool.eq_false_iff.1 (hnone _ hstart))
  · intro hnone
    refine leadingDecimal?_of_startsWithoutDecimal fun digits hdigits => ?_
    rw [← String.toList_ofList (l := digits)] at hdigits ⊢
    exact hnone _ hdigits
  · intro number hnumber
    obtain ⟨digits, hdigits, rfl⟩ := Option.map_eq_some_iff.1 hnumber
    rw [isDecimal, String.toList_ofList]
    exact isDecimalChars_of_leadingDecimalChars? hdigits
  · intro hdecimal
    exact leadingDecimal?_of_isLongestDecimal (isLongestDecimal_self_iff.2 hdecimal)
  · rw [mended?_greedyDigits]
    rfl

/-- A second point is not read, a point without a digit after it is zero, and zeros in front of a
number are read with it. -/
theorem leadingDecimal?_longest_points :
    "1.5".toList <+: "1.5.3*".toList ∧ isDecimal "1.5" = true ∧
      leadingDecimal? "1.5.3*" = some "1.5" ∧
      StartsWithoutDecimal ".*".toList ∧ leadingDecimal? ".*" = some "0" ∧
      isDecimal "007.250" = true ∧ leadingDecimal? "007.250" = some "007.250" := by
  have hstart : "1.5".toList <+: "1.5.3*".toList := ⟨".3*".toList, rfl⟩
  have hdecimal : isDecimal "1.5" = true := by decide
  have hpoint : StartsWithoutDecimal ".*".toList :=
    startsWithoutDecimal_of_leadingDigits rfl fun rest hrest => by
      cases hrest
      rfl
  have hzeros : isDecimal "007.250" = true := by decide
  obtain ⟨hlongest, -⟩ := leadingDecimal?_longest "1.5.3*"
  obtain ⟨-, hnone, -⟩ := leadingDecimal?_longest ".*"
  obtain ⟨-, -, -, hself, -⟩ := leadingDecimal?_longest "007.250"
  obtain ⟨number, hread, hnumber⟩ := hlongest ⟨"1.5", hstart, hdecimal⟩
  have hrest : afterDigits "1.5.3*".toList = '.' :: "5.3*".toList := by decide
  have hplaces : IsLongestDecimal "1.5.3*".toList "1.5".toList :=
    isLongestDecimal_places hrest (by decide)
  have heq : number = "1.5" := String.toList_inj.1 (hnumber.unique hplaces)
  exact ⟨hstart, hdecimal, heq ▸ hread, hpoint, hnone fun start => hpoint start.toList, hzeros,
    hself hzeros⟩

end MarkupValues.Numeric
