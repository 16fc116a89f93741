import Mathlib.Data.List.Nodup
import MarkupValues.Proofs.Reading.Keyword

/-!
# Font weights

A font weight is given by its name or by its code (`FontWeight.ofText?_eq_some_iff`). The codes are
words of 16 bits, but a text may write a number of any size: what is read on words, with every
operation checked, is what the number itself gives (`FontWeight.codeOnWords?_bind_byCode?`).
-/

namespace MarkupValues

namespace FontWeight

open Text (digitsValue foldCase isDigits natural? sameIgnoringCase)

variable {s name : String} {code : Nat} {row : String × Nat} {digits : List Char}

/-! ## Numbers that are written -/

/-- Whether a text writes a number: in digits, zeros before others among them, and with a plus sign
or without one. Neither a minus sign nor white space is part of it. -/
def WritesCode (s : String) (code : Nat) : Prop :=
  ∃ digits, (s.toList = digits ∨ s.toList = '+' :: digits) ∧ isDigits digits = true ∧
    digitsValue digits = code

/-- A text is read as a number exactly when it writes this number. A plus sign is taken off first,
and what is left has to be digits. -/
theorem code?_eq_some_iff : code? s = some code ↔ WritesCode s code := by
  unfold code? WritesCode
  split
  · next rest hs =>
    rw [hs, Numeric.natural?_eq_some_iff]
    constructor
    · exact fun h => ⟨rest, .inr rfl, h⟩
    · rintro ⟨digits, rfl | hdigits, h⟩
      · cases h.1
      · cases hdigits
        exact h
  · next hplus =>
    rw [Numeric.natural?_eq_some_iff]
    constructor
    · exact fun h => ⟨s.toList, .inl rfl, h⟩
    · rintro ⟨digits, rfl | hdigits, h⟩
      · exact h
      · exact absurd hdigits (hplus digits)

/-- A text writes one number at most. -/
theorem WritesCode.unique {code' : Nat} (h : WritesCode s code) (h' : WritesCode s code') :
    code = code' :=
  Option.some.inj ((code?_eq_some_iff.2 h).symm.trans (code?_eq_some_iff.2 h'))

/-! ## Numbers on words -/

/-- The word of 16 bits that a number is, if it is one. -/
def word? (n : Nat) : Option UInt16 :=
  if n < UInt16.size then some (.ofNat n) else none

/-- The word with one more digit after it, where the word times ten and the sum with the digit are
both checked. -/
def pushDigit? (word : UInt16) (c : Char) : Option UInt16 := do
  let tens ← word? (10 * word.toNat)
  word? (tens.toNat + (c.toNat - '0'.toNat))

/-- The word that digits write, from the left, if no check fails and there is a digit. -/
def digitsOnWords? (digits : List Char) : Option UInt16 :=
  if isDigits digits then digits.foldlM pushDigit? 0 else none

/-- What a text has after a plus sign, or all of it where it starts with none. One sign is taken
off, and a second one is no digit. -/
def withoutPlus (s : String) : List Char :=
  if s.toList.head? = some '+' then s.toList.tail else s.toList

/-- The word that a text writes, after a plus sign or without one. -/
def codeOnWords? (s : String) : Option UInt16 :=
  digitsOnWords? (withoutPlus s)

/-- A number below 65536 is a word. -/
theorem word?_of_lt {n : Nat} (h : n < UInt16.size) : word? n = some (.ofNat n) :=
  if_pos h

/-- A number from 65536 on is no word. -/
theorem word?_of_le {n : Nat} (h : UInt16.size ≤ n) : word? n = none :=
  if_neg (Nat.not_lt.2 h)

/-- The number of a word is that word. -/
theorem word?_toNat (word : UInt16) : word? word.toNat = some word := by
  rw [word?_of_lt word.toNat_lt, UInt16.ofNat_toNat]

/-- The two checks for a digit come to one for the number with the digit. -/
theorem pushDigit?_eq (word : UInt16) (c : Char) :
    pushDigit? word c = word? (10 * word.toNat + (c.toNat - '0'.toNat)) := by
  unfold pushDigit?
  rcases Nat.lt_or_ge (10 * word.toNat) UInt16.size with h | h
  · rw [word?_of_lt h, Option.bind_eq_bind, Option.bind_some, UInt16.toNat_ofNat_of_lt' h]
  · rw [word?_of_le h, word?_of_le (Nat.le_add_right_of_le h)]
    rfl

/-- Digits after a number make it no smaller, so that a number that is too great stays so. -/
theorem le_ofDigitChars (digits : List Char) (n : Nat) : n ≤ Nat.ofDigitChars 10 digits n := by
  rw [Nat.ofDigitChars_eq_ofDigitChars_zero]
  exact Nat.le_add_right_of_le (Nat.le_mul_of_pos_left n (Nat.pow_pos (by decide)))

/-- Digits after a word are read on words as the number that they write with it. So once a check has
failed no digit that follows mends it. -/
theorem foldlM_pushDigit? (digits : List Char) (word : UInt16) :
    digits.foldlM pushDigit? word = word? (Nat.ofDigitChars 10 digits word.toNat) := by
  induction digits generalizing word with
  | nil => exact (word?_toNat word).symm
  | cons c digits ih =>
    rw [List.foldlM_cons, pushDigit?_eq, Nat.ofDigitChars_cons]
    rcases Nat.lt_or_ge (10 * word.toNat + (c.toNat - '0'.toNat)) UInt16.size with h | h
    · rw [word?_of_lt h, Option.bind_eq_bind, Option.bind_some, ih, UInt16.toNat_ofNat_of_lt' h]
    · rw [word?_of_le h, word?_of_le (h.trans (le_ofDigitChars digits _))]
      rfl

/-- Digits are read on words as the number that they write, if this is a word. -/
theorem digitsOnWords?_eq (digits : List Char) :
    digitsOnWords? digits = (natural? digits).bind word? := by
  unfold digitsOnWords? natural?
  split
  · exact foldlM_pushDigit? digits 0
  · rfl

/-- The number that a text writes is that of the digits after the plus sign, if there is one. -/
theorem code?_eq (s : String) : code? s = natural? (withoutPlus s) := by
  unfold code? withoutPlus
  split
  · next digits hs => rw [hs, List.head?_cons, if_pos rfl, List.tail_cons]
  · next hplus =>
    have hhead : s.toList.head? ≠ some '+' := by
      rw [Ne, List.head?_eq_some_iff]
      exact not_exists.2 hplus
    rw [if_neg hhead]

/-- On words a text is read as the number that it writes, if this is a word. -/
theorem codeOnWords?_eq (s : String) : codeOnWords? s = (code? s).bind word? := by
  rw [codeOnWords?, digitsOnWords?_eq, code?_eq]

/-! ## The table -/

/-- No two names differ in ASCII case alone, and no two weights have one code. -/
theorem table_nodup : (table.map fun row => foldCase row.1).Nodup ∧ (table.map Prod.snd).Nodup := by
  decide

/-- Names have letters alone, and codes are words. So no name is a number, and reading on words
loses no code. -/
theorem table_bounds :
    ∀ row ∈ table, (foldCase row.1).toList.all Char.isAlpha = true ∧ row.2 < UInt16.size := by
  decide

/-- A name is found exactly when the table has it, in any ASCII case; it is given back as the table
spells it. -/
theorem byName?_eq_some_iff :
    byName? s = some name ↔ ∃ row ∈ table, sameIgnoringCase row.1 s = true ∧ row.1 = name := by
  simp only [byName?, find?, Option.map_eq_some_iff, and_assoc,
    Text.find?_sameIgnoringCase_eq_some_iff (fun row : String × Nat => row.1) table_nodup.1]

/-- The name of a code is found exactly when the table has the code. -/
theorem byCode?_eq_some_iff :
    byCode? code = some name ↔ ∃ row ∈ table, row.2 = code ∧ row.1 = name := by
  simp only [byCode?, Option.map_eq_some_iff, and_assoc,
    Text.find?_eq_some_iff_of_nodup Prod.snd table_nodup.2]

/-- The code of a name is found exactly when the table has the name, in any ASCII case. -/
theorem codeOf?_eq_some_iff :
    codeOf? s = some code ↔ ∃ row ∈ table, sameIgnoringCase row.1 s = true ∧ row.2 = code := by
  simp only [codeOf?, find?, Option.map_eq_some_iff, and_assoc,
    Text.find?_sameIgnoringCase_eq_some_iff (fun row : String × Nat => row.1) table_nodup.1]

/-- A code has the name that has the code: the table is read alike in both directions, as neither
names nor codes come twice in it. -/
theorem byCode?_eq_some_iff_codeOf? :
    byCode? code = some name ↔ byName? name = some name ∧ codeOf? name = some code := by
  rw [byCode?_eq_some_iff, byName?_eq_some_iff, codeOf?_eq_some_iff]
  constructor
  · rintro ⟨row, hrow, rfl, rfl⟩
    have hsame : sameIgnoringCase row.1 row.1 = true := Text.sameIgnoringCase_iff.2 rfl
    exact ⟨⟨row, hrow, hsame, rfl⟩, row, hrow, hsame, rfl⟩
  · rintro ⟨⟨row, hrow, hsame, rfl⟩, row', hrow', hsame', rfl⟩
    have hfold : foldCase row.1 = foldCase row'.1 :=
      (Text.sameIgnoringCase_iff.1 hsame').symm
    cases List.inj_on_of_nodup_map table_nodup.1 hrow hrow' hfold
    exact ⟨row, hrow, rfl, rfl⟩

/-- Only a word is a code, so that on words a text gives the weight that its number gives. -/
theorem codeOnWords?_bind_byCode? (s : String) :
    (codeOnWords? s).bind (fun word => byCode? word.toNat) = (code? s).bind byCode? := by
  rw [codeOnWords?_eq, Option.bind_assoc]
  refine congrArg (code? s).bind (funext fun code => ?_)
  rcases Nat.lt_or_ge code UInt16.size with h | h
  · rw [word?_of_lt h, Option.bind_some, UInt16.toNat_ofNat_of_lt' h]
  · rw [word?_of_le h, Option.bind_none]
    refine (Option.eq_none_iff_forall_ne_some.2 fun name hname => ?_).symm
    obtain ⟨row, hrow, rfl, -⟩ := byCode?_eq_some_iff.1 hname
    exact absurd (table_bounds row hrow).2 (Nat.not_lt.2 h)

/-! ## Spellings -/

/-- Whether a text spells a weight: by its name in any ASCII case, or by its code. Each weight is a
row of the table with the two. -/
def Spells (s : String) (row : String × Nat) : Prop :=
  sameIgnoringCase row.1 s = true ∨ WritesCode s row.2

/-- A name in any ASCII case is made of letters. -/
theorem isAlpha_of_name (hrow : row ∈ table) (h : sameIgnoringCase row.1 s = true) :
    ∀ c ∈ s.toList, c.isAlpha = true := by
  intro c hc
  have hletters := (table_bounds row hrow).1
  rw [Text.sameIgnoringCase_iff.1 h, foldCase, String.toList_ofList, List.all_map] at hletters
  have hlower : c.toLower.isAlpha = c.isAlpha := Text.comp_toLower (by decide) c
  rw [← hlower]
  exact List.all_eq_true.1 hletters c hc

/-- What writes a number is made of digits and plus signs. -/
theorem isDigit_of_writesCode (h : WritesCode s code) :
    ∀ c ∈ s.toList, c.isDigit = true ∨ c = '+' := by
  obtain ⟨digits, hs, hdigits, -⟩ := h
  have hall := (Numeric.isDigits_iff.1 hdigits).2
  intro c hc
  rcases hs with hs | hs
  · exact .inl (hall c (hs ▸ hc))
  · rcases List.mem_cons.1 (hs ▸ hc) with rfl | hc
    · exact .inr rfl
    · exact .inl (hall c hc)

/-- No text is a name and a number, since no letter is a digit or a sign. -/
theorem not_writesCode_of_name (hrow : row ∈ table) (h : sameIgnoringCase row.1 s = true) :
    ¬WritesCode s code := by
  rintro ⟨digits, hs, hdigits, -⟩
  obtain ⟨hne, hall⟩ := Numeric.isDigits_iff.1 hdigits
  obtain ⟨c, hc⟩ := List.exists_mem_of_ne_nil digits hne
  have hmem : c ∈ s.toList := by
    rcases hs with hs | hs
    · exact hs ▸ hc
    · exact hs ▸ .tail _ hc
  have hletter := isAlpha_of_name hrow h c hmem
  rw [Numeric.isAlpha_eq_false_of_isDigit (hall c hc)] at hletter
  cases hletter

/-- A text is read as a weight exactly when it spells one, by the name or by the code. Names are
tried first, which makes no difference since no text is both. -/
theorem ofText?_eq_some_iff :
    ofText? s = some name ↔ ∃ row ∈ table, Spells s row ∧ row.1 = name := by
  rw [ofText?, Option.or_eq_some_iff, byName?_eq_some_iff]
  simp only [Option.bind_eq_some_iff, code?_eq_some_iff, byCode?_eq_some_iff]
  constructor
  · rintro (⟨row, hrow, hsame, hname⟩ | ⟨-, code, hcode, row, hrow, rfl, hname⟩)
    · exact ⟨row, hrow, .inl hsame, hname⟩
    · exact ⟨row, hrow, .inr hcode, hname⟩
  · rintro ⟨row, hrow, hsame | hcode, hname⟩
    · exact .inl ⟨row, hrow, hsame, hname⟩
    · refine .inr ⟨Option.eq_none_iff_forall_ne_some.2 fun other hother => ?_,
        row.2, hcode, row, hrow, rfl, hname⟩
      obtain ⟨row', hrow', hsame, -⟩ := byName?_eq_some_iff.1 hother
      exact not_writesCode_of_name hrow' hsame hcode

/-- Weights with one name have one code, and weights with one code have one name. -/
theorem name_eq_iff {row' : String × Nat} (hrow : row ∈ table) (hrow' : row' ∈ table) :
    row.1 = row'.1 ↔ row.2 = row'.2 := by
  constructor
  · intro hname
    rw [List.inj_on_of_nodup_map table_nodup.1 hrow hrow' (congrArg foldCase hname)]
  · intro hcode
    rw [List.inj_on_of_nodup_map table_nodup.2 hrow hrow' hcode]

/-- What is written with a minus sign or a point is no weight. -/
theorem not_spells_of_mem (hrow : row ∈ table) (h : '-' ∈ s.toList ∨ '.' ∈ s.toList) :
    ¬Spells s row := by
  have hother {c : Char} (hc : c ∈ s.toList) (hspells : Spells s row) :
      c.isAlpha = true ∨ c.isDigit = true ∨ c = '+' := by
    rcases hspells with hsame | hcode
    · exact .inl (isAlpha_of_name hrow hsame c hc)
    · exact .inr (isDigit_of_writesCode hcode c hc)
  intro hspells
  rcases h with h | h
  · exact absurd (hother h hspells) (by decide)
  · exact absurd (hother h hspells) (by decide)

end FontWeight

namespace Reading

open FontWeight (Spells WritesCode)
open Text (sameIgnoringCase trim)

variable {source : String} {target : Target} {owner : TypeName} {kind : NameKind}
  {find? : String → Option String} {e : Expr}

/-- A text that names no member is refused without the white space around it. -/
theorem memberNamed_of_none (howner : target.companion? 0 = some owner)
    (h : find? (trim source) = none) :
    memberNamed kind find? source target =
      target.refuse source (.unknownName kind (trim source)) := by
  refine (bind_of_ok (requireCompanion_eq_ok.2 howner) _).trans ?_
  dsimp only
  rw [h]

/-- A weight is the member of companion 0 for a row of the table that the text spells, and no other
text is one. -/
theorem fontWeight_eq_ok_iff (howner : target.companion? 0 = some owner) :
    fontWeight source target = .ok e ↔
      ∃ row ∈ FontWeight.table, Spells (trim source) row ∧ e = .member owner row.1 := by
  simp only [fontWeight, memberNamed_eq_ok_iff howner, FontWeight.ofText?_eq_some_iff]
  constructor
  · rintro ⟨_, ⟨row, hrow, hspells, rfl⟩, rfl⟩
    exact ⟨row, hrow, hspells, rfl⟩
  · rintro ⟨row, hrow, hspells, rfl⟩
    exact ⟨_, ⟨row, hrow, hspells, rfl⟩, rfl⟩

/-- A text that spells no row of the table is refused as an unknown name. -/
theorem fontWeight_of_not_spells (howner : target.companion? 0 = some owner)
    (h : ∀ row ∈ FontWeight.table, ¬Spells (trim source) row) :
    fontWeight source target =
      target.refuse source (.unknownName .fontWeight (trim source)) := by
  refine memberNamed_of_none howner (Option.eq_none_iff_forall_ne_some.2 fun name hname => ?_)
  obtain ⟨row, hrow, hspells, -⟩ := FontWeight.ofText?_eq_some_iff.1 hname
  exact h row hrow hspells

/-- What spells two weights is read alike exactly when the weights have one code. -/
theorem fontWeight_eq_iff {other : String} {row row' : String × Nat}
    (howner : target.companion? 0 = some owner) (hrow : row ∈ FontWeight.table)
    (hrow' : row' ∈ FontWeight.table) (h : Spells (trim source) row)
    (h' : Spells (trim other) row') :
    fontWeight source target = fontWeight other target ↔ row.2 = row'.2 := by
  have hread : fontWeight source target = .ok (.member owner row.1) :=
    (fontWeight_eq_ok_iff howner).2 ⟨row, hrow, h, rfl⟩
  have hread' : fontWeight other target = .ok (.member owner row'.1) :=
    (fontWeight_eq_ok_iff howner).2 ⟨row', hrow', h', rfl⟩
  rw [hread, hread', ← FontWeight.name_eq_iff hrow hrow']
  simp

/-- A weight is given by its name, in any ASCII case, or by the number that is its code, and no text
does both. What spells one weight is read alike, whether by the name or by the code, and what spells
another weight is read otherwise. Anything else is refused by name, whatever number it writes. To
read the number on words of 16 bits gives the same weight, and the table is read alike from names to
codes and from codes to names. -/
theorem fontWeight_spelled (source : String) {target : Target} {owner : TypeName}
    (howner : target.companion? 0 = some owner) :
    (∀ e, fontWeight source target = .ok e ↔ ∃ row ∈ FontWeight.table,
      (sameIgnoringCase row.1 (trim source) = true ∨ WritesCode (trim source) row.2) ∧
        e = .member owner row.1) ∧
    (∀ row ∈ FontWeight.table, ∀ code, sameIgnoringCase row.1 (trim source) = true →
      ¬WritesCode (trim source) code) ∧
    (∀ other, ∀ row ∈ FontWeight.table, ∀ row' ∈ FontWeight.table,
      Spells (trim source) row → Spells (trim other) row' →
        (fontWeight source target = fontWeight other target ↔ row.2 = row'.2)) ∧
    ((∀ row ∈ FontWeight.table, ¬Spells (trim source) row) → fontWeight source target =
      target.refuse source (.unknownName .fontWeight (trim source))) ∧
    (∀ code, WritesCode (trim source) code → code ∉ FontWeight.table.map Prod.snd →
      fontWeight source target =
        target.refuse source (.unknownName .fontWeight (trim source))) ∧
    ('-' ∈ (trim source).toList ∨ '.' ∈ (trim source).toList → fontWeight source target =
      target.refuse source (.unknownName .fontWeight (trim source))) ∧
    FontWeight.ofText? (trim source) = (FontWeight.byName? (trim source)).or
      ((FontWeight.codeOnWords? (trim source)).bind fun word => FontWeight.byCode? word.toNat) ∧
    ∀ name code, FontWeight.byCode? code = some name ↔
      FontWeight.byName? name = some name ∧ FontWeight.codeOf? name = some code := by
  refine ⟨fun _ => fontWeight_eq_ok_iff howner,
    fun row hrow code => FontWeight.not_writesCode_of_name hrow,
    fun other row hrow row' hrow' => fontWeight_eq_iff howner hrow hrow',
    fontWeight_of_not_spells howner, fun code hcode hnone => ?_, fun hmem => ?_, ?_,
    fun name code => FontWeight.byCode?_eq_some_iff_codeOf?⟩
  · refine fontWeight_of_not_spells howner fun row hrow hspells => ?_
    rcases hspells with hsame | hcode'
    · exact FontWeight.not_writesCode_of_name hrow hsame hcode
    · cases hcode.unique hcode'
      exact hnone (List.mem_map_of_mem hrow)
  · exact fontWeight_of_not_spells howner fun row hrow => FontWeight.not_spells_of_mem hrow hmem
  · rw [FontWeight.codeOnWords?_bind_byCode?]
    rfl

/-- A code with zeros and a plus sign is read as the name is. A number that is a code only for its
last 16 bits is none. -/
theorem fontWeight_spelled_bold :
    Target.companion? ⟨⟨"FontWeight"⟩, [⟨"FontWeights"⟩]⟩ 0 = some ⟨"FontWeights"⟩ ∧
      fontWeight " +00700 " ⟨⟨"FontWeight"⟩, [⟨"FontWeights"⟩]⟩ =
        .ok (.member ⟨"FontWeights"⟩ "Bold") ∧
      fontWeight " +00700 " ⟨⟨"FontWeight"⟩, [⟨"FontWeights"⟩]⟩ =
        fontWeight "bOLD" ⟨⟨"FontWeight"⟩, [⟨"FontWeights"⟩]⟩ ∧
      fontWeight "66236" ⟨⟨"FontWeight"⟩, [⟨"FontWeights"⟩]⟩ =
        Target.refuse ⟨⟨"FontWeight"⟩, [⟨"FontWeights"⟩]⟩ "66236"
          (.unknownName .fontWeight "66236") := by
  have howner : Target.companion? ⟨⟨"FontWeight"⟩, [⟨"FontWeights"⟩]⟩ 0 = some ⟨"FontWeights"⟩ :=
    rfl
  have hbold : ("Bold", 700) ∈ FontWeight.table := by decide
  have hcode : WritesCode (trim " +00700 ") 700 :=
    ⟨"00700".toList, .inr (by decide), rfl, by decide⟩
  have hname : sameIgnoringCase "Bold" (trim "bOLD") = true := by decide
  have hlarge : WritesCode (trim "66236") 66236 :=
    ⟨"66236".toList, .inl (by decide), rfl, by decide⟩
  obtain ⟨hok, -, hsame, -⟩ := fontWeight_spelled " +00700 " howner
  obtain ⟨-, -, -, -, hrefused, -⟩ := fontWeight_spelled "66236" howner
  refine ⟨howner, (hok _).2 ⟨_, hbold, .inr hcode, rfl⟩,
    (hsame "bOLD" _ hbold _ hbold (.inr hcode) (.inl hname)).2 rfl, ?_⟩
  exact hrefused 66236 hlarge (by decide)

end Reading

end MarkupValues
