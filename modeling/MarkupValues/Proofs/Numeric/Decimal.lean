import Mathlib.Data.List.TakeWhile
import MarkupValues.Numeric.Unsigned
import MarkupValues.Proofs.Text.Runs

/-!
# The form of a decimal number

`isDecimalChars_iff` says what a decimal number looks like: digits, or digits with a point among
them or before them and at least one digit after the point. With an optional minus sign it is a
signed decimal number (`isSignedDecimal`), as the text of every whole number is
(`isSignedDecimal_repr`).
-/

namespace MarkupValues.Numeric

/-- Whether every character is a digit. An empty text qualifies, so that the digits around a point
need no case of their own. -/
def AllDigits (cs : List Char) : Prop :=
  ∀ c ∈ cs, c.isDigit = true

/-- A text of digits has one at least, and digits alone. -/
theorem isDigits_iff {cs : List Char} : Text.isDigits cs = true ↔ cs ≠ [] ∧ AllDigits cs := by
  simp [Text.isDigits, AllDigits]

/-- A text is read as a natural number exactly when it is digits, and the number is the one that
they write. -/
theorem natural?_eq_some_iff {cs : List Char} {n : Nat} :
    Text.natural? cs = some n ↔ Text.isDigits cs = true ∧ Text.digitsValue cs = n := by
  rw [Text.natural?, Option.ite_none_right_eq_some, Option.some_inj]

/-- No digit is a letter. -/
theorem isAlpha_eq_false_of_isDigit {c : Char} (h : c.isDigit = true) : c.isAlpha = false := by
  have hhigh : c.val ≤ '9'.val := of_decide_eq_true (Bool.and_eq_true_iff.1 h).2
  refine Bool.eq_false_iff.2 fun halpha => ?_
  rcases Bool.or_eq_true_iff.1 halpha with hupper | hlower
  · have hlow : 'A'.val ≤ c.val := (of_decide_eq_true hupper).1
    exact absurd (UInt32.le_trans hlow hhigh) (by decide)
  · have hlow : 'a'.val ≤ c.val := of_decide_eq_true (Bool.and_eq_true_iff.1 hlower).1
    exact absurd (UInt32.le_trans hlow hhigh) (by decide)

/-- The digits that start a text with a point after them are those before the point, of which there
may be none. -/
theorem leadingDigits_point {whole : List Char} (h : AllDigits whole) (places : List Char) :
    Text.leadingDigits (whole ++ '.' :: places) = whole :=
  Text.takeWhile_append_of_stops h (by simp)

/-- What follows the digits that start a text with a point after them is the point and the rest. -/
theorem afterDigits_point {whole : List Char} (h : AllDigits whole) (places : List Char) :
    Text.afterDigits (whole ++ '.' :: places) = '.' :: places :=
  Text.dropWhile_append_of_stops h (by simp)

/-- Nothing follows the digits of a text of digits. -/
theorem afterDigits_eq_nil {cs : List Char} : Text.afterDigits cs = [] ↔ AllDigits cs :=
  List.dropWhile_eq_nil_iff

/-- The digits that start a text are digits. -/
theorem allDigits_leadingDigits (cs : List Char) : AllDigits (Text.leadingDigits cs) :=
  fun c hc => List.all_eq_true.1 List.all_takeWhile c hc

/-- A decimal number is digits, or digits around a point with one digit after it at least. Before
the point there may be none. -/
theorem isDecimalChars_iff {cs : List Char} :
    isDecimalChars cs = true ↔ (cs ≠ [] ∧ AllDigits cs) ∨
      ∃ whole places, cs = whole ++ '.' :: places ∧ AllDigits whole ∧ places ≠ [] ∧
        AllDigits places := by
  constructor
  · intro h
    unfold isDecimalChars at h
    split at h
    · next hrest => exact .inl ⟨by simpa using h, afterDigits_eq_nil.1 hrest⟩
    · next places hrest =>
      obtain ⟨hne, hall⟩ := isDigits_iff.1 h
      refine .inr ⟨_, places, ?_, allDigits_leadingDigits cs, hne, hall⟩
      rw [← hrest, Text.leadingDigits_append_afterDigits]
    · cases h
  · rintro (⟨hne, hall⟩ | ⟨whole, places, rfl, hwhole, hne, hall⟩)
    · rw [isDecimalChars, afterDigits_eq_nil.2 hall]
      simpa using hne
    · rw [isDecimalChars, afterDigits_point hwhole]
      exact isDigits_iff.2 ⟨hne, hall⟩

/-- A decimal number is made of digits and points, so that it holds no white space, no letter and no
separator. -/
theorem forall_mem_of_isDecimalChars {cs : List Char} (h : isDecimalChars cs = true) :
    ∀ c ∈ cs, c.isDigit = true ∨ c = '.' := by
  rcases isDecimalChars_iff.1 h with ⟨-, hall⟩ | ⟨whole, places, rfl, hwhole, -, hplaces⟩
  · exact fun c hc => .inl (hall c hc)
  · simp only [List.mem_append, List.mem_cons]
    rintro c (hc | rfl | hc)
    exacts [.inl (hwhole c hc), .inr rfl, .inl (hplaces c hc)]

/-- A decimal number ends with a digit, with or without a point in it. -/
theorem exists_append_of_isDecimalChars {cs : List Char} (h : isDecimalChars cs = true) :
    ∃ front, ∃ last : Char, cs = front ++ [last] ∧ last.isDigit = true := by
  rcases isDecimalChars_iff.1 h with ⟨hne, hall⟩ | ⟨whole, places, rfl, -, hne, hall⟩
  · exact ⟨_, _, (List.dropLast_concat_getLast hne).symm, hall _ (List.getLast_mem hne)⟩
  · refine ⟨whole ++ '.' :: places.dropLast, places.getLast hne, ?_, hall _ (List.getLast_mem hne)⟩
    rw [List.append_assoc, List.cons_append, List.dropLast_concat_getLast hne]

/-! ## With a sign -/

/-- Whether the characters are a decimal number with an optional minus sign, which is how code
writes numbers that keep their text. -/
def isSignedDecimal : List Char → Bool
  | '-' :: cs => isDecimalChars cs
  | cs => isDecimalChars cs

/-- A decimal number is one without a sign. -/
theorem isSignedDecimal_of_isDecimalChars {cs : List Char} (h : isDecimalChars cs = true) :
    isSignedDecimal cs = true := by
  unfold isSignedDecimal
  split
  · exact absurd (forall_mem_of_isDecimalChars h '-' (.head _)) (by decide)
  · exact h

/-- A signed decimal number is a decimal number after a minus sign or after nothing. -/
theorem exists_of_isSignedDecimal {cs : List Char} (h : isSignedDecimal cs = true) :
    ∃ sign digits, cs = sign ++ digits ∧ (sign = [] ∨ sign = ['-']) ∧
      isDecimalChars digits = true := by
  unfold isSignedDecimal at h
  split at h
  · exact ⟨['-'], _, rfl, .inr rfl, h⟩
  · exact ⟨[], _, rfl, .inl rfl, h⟩

/-- A signed decimal number is made of digits, points and minus signs. -/
theorem forall_mem_of_isSignedDecimal {cs : List Char} (h : isSignedDecimal cs = true) :
    ∀ c ∈ cs, c.isDigit = true ∨ c = '.' ∨ c = '-' := by
  obtain ⟨sign, digits, rfl, hsign, hd⟩ := exists_of_isSignedDecimal h
  intro c hc
  rcases List.mem_append.1 hc with hc | hc
  · rcases hsign with rfl | rfl
    · cases hc
    · exact .inr (.inr (List.mem_singleton.1 hc))
  · exact (forall_mem_of_isDecimalChars hd c hc).imp_right .inl

/-- A signed decimal number ends with a digit. -/
theorem exists_append_of_isSignedDecimal {cs : List Char} (h : isSignedDecimal cs = true) :
    ∃ front last, cs = front ++ [last] ∧ last.isDigit = true := by
  obtain ⟨sign, digits, rfl, -, hd⟩ := exists_of_isSignedDecimal h
  obtain ⟨front, last, rfl, hlast⟩ := exists_append_of_isDecimalChars hd
  exact ⟨sign ++ front, last, (List.append_assoc ..).symm, hlast⟩

/-- The digits that a natural number is written in are digits. -/
theorem allDigits_toDigits (n : Nat) : AllDigits (Nat.toDigits 10 n) :=
  fun _ h => Nat.isDigit_of_mem_toDigits (by decide) (by decide) h

/-- A natural number is written as a decimal number. -/
theorem isDecimalChars_toDigits (n : Nat) : isDecimalChars (Nat.toDigits 10 n) = true :=
  isDecimalChars_iff.2 (.inl ⟨Nat.toDigits_ne_nil, allDigits_toDigits n⟩)

/-- The text of a whole number is a signed decimal number, as its sign is the only thing before its
digits. -/
theorem isSignedDecimal_repr (n : Int) : isSignedDecimal n.repr.toList = true := by
  rw [Int.repr_eq_if]
  split
  · rw [Nat.toList_repr]
    exact isSignedDecimal_of_isDecimalChars (isDecimalChars_toDigits _)
  · rw [String.toList_append, Nat.toList_repr]
    exact isDecimalChars_toDigits _

end MarkupValues.Numeric
