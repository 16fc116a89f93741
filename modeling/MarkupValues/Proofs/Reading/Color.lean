import Mathlib.Data.List.Chain
import Mathlib.Data.List.Nodup
import MarkupValues.Proofs.Color.Hex
import MarkupValues.Proofs.Text.Caseless

/-!
# The three forms of a colour

A colour is written in a hexadecimal form, as a linear colour or by name, and no text is in two of
these forms (`forms_disjoint`). A name stands for the digits of its word in the table: those spell
the colour that the word packs (`Argb.hexDigits_ofWord`). `color_forms` says what each form gives
and how it fails. A text of another length than the hexadecimal forms have is not looked at as one,
nor is a text without the prefix looked at as a linear colour, so that these two causes are never
given for a colour or a brush (`color_explainedBy`).
-/

namespace MarkupValues

namespace Argb

/-- The eight digits of a word, in small letters, each of them four bits of it. -/
def wordDigits (word : UInt32) : List Char :=
  [28, 24, 20, 16, 12, 8, 4, 0].map fun shift => Nat.digitChar ((word.toNat >>> shift) % 16)

/-- The byte that ends a word has the last two digits of the word. The other bytes end the word when
it is shifted. -/
theorem byteDigits_toUInt8 (word : UInt32) : byteDigits word.toUInt8 =
    [Nat.digitChar ((word.toNat >>> 4) % 16), Nat.digitChar (word.toNat % 16)] := by
  have hhigh : word.toUInt8.toNat / 16 = (word.toNat >>> 4) % 16 := by
    rw [UInt32.toNat_toUInt8, Nat.shiftRight_eq_div_pow]
    omega
  have hlow : word.toUInt8.toNat % 16 = word.toNat % 16 := by
    rw [UInt32.toNat_toUInt8]
    omega
  rw [byteDigits, hhigh, hlow]

/-- The colour that a word packs has the digits of the word, so that a name stands for the same
colour as the digits of its word. -/
theorem hexDigits_ofWord (word : UInt32) : (ofWord word).hexDigits = wordDigits word := by
  have hshift (k : UInt32) (hk : k.toNat < 32) :
      (word >>> k).toNat = word.toNat >>> k.toNat := by
    rw [UInt32.toNat_shiftRight, Nat.mod_eq_of_lt hk]
  simp only [hexDigits, ofWord, List.flatMap_cons, List.flatMap_nil, byteDigits_toUInt8,
    hshift 24 (by decide), hshift 16 (by decide), hshift 8 (by decide), ← Nat.shiftRight_add]
  rfl

end Argb

/-! ## The table of names -/

/-- The names of colours without regard to ASCII case, as characters. What is decided about the
table is decided of this list, which is computed once. -/
def foldedColorNames : List (List Char) :=
  colorNames.map fun entry => entry.1.toList.map Char.toLower

/-- The names are in alphabetical order, so that none comes twice, and have no number sign. -/
theorem foldedColorNames_sorted :
    foldedColorNames.IsChain (· < ·) ∧ ∀ name ∈ foldedColorNames, '#' ∉ name := by
  decide +kernel

/-- No two names of colours differ in ASCII case alone, which follows from the order that the table
has without regard to case. -/
theorem nodup_foldCase_colorNames :
    (colorNames.map fun entry => Text.foldCase entry.1).Nodup := by
  have hsorted := List.isChain_iff_pairwise.1 foldedColorNames_sorted.1
  have hnodup : foldedColorNames.Nodup := by
    refine hsorted.imp ?_
    rintro name _ hlt rfl
    exact List.lt_irrefl name hlt
  have hfold : colorNames.map (fun entry => Text.foldCase entry.1) =
      foldedColorNames.map String.ofList :=
    List.map_map.symm
  rw [hfold]
  exact List.Nodup.map (fun _ _ => String.ofList_inj.1) hnodup

/-- The colour with a name is the one that the table has for it, in any ASCII case. -/
theorem Argb.ofName?_eq_some_iff {name : String} {c : Argb} : Argb.ofName? name = some c ↔
    ∃ entry ∈ colorNames, Text.sameIgnoringCase entry.1 name = true ∧ Argb.ofWord entry.2 = c := by
  rw [Argb.ofName?, Option.map_eq_some_iff]
  simp only [Text.find?_sameIgnoringCase_eq_some_iff (fun entry : String × UInt32 => entry.1)
    nodup_foldCase_colorNames, and_assoc]

/-- A name in any ASCII case has no number sign, which sets it apart from both other forms. -/
theorem not_mem_of_name {entry : String × UInt32} {v : String} (hmem : entry ∈ colorNames)
    (hsame : Text.sameIgnoringCase entry.1 v = true) : '#' ∉ v.toList := by
  intro hsign
  refine foldedColorNames_sorted.2 _ (List.mem_map_of_mem hmem) ?_
  rw [beq_iff_eq.1 hsame]
  exact List.mem_map_of_mem hsign

namespace Reading

open Text (isHexDigit sameIgnoringCase trim)

/-! ## The forms -/

/-- Whether a text is a number sign and as many characters as a hexadecimal form has digits. The
characters need not be digits: where one of them is none, the colour is refused for it. -/
def IsHexForm (v : String) : Prop :=
  ∃ digits, v.toList = '#' :: digits ∧ digits.length ∈ [3, 4, 6, 8]

/-- Whether a text has the prefix of linear colours, spelled as it is. What follows the prefix may
be anything. -/
def IsLinearForm (v : String) : Prop :=
  "sc#".toList <+: v.toList

/-- Whether a text is the name of a colour, in any ASCII case. The table has no two names that
differ in case alone. -/
def IsNamedForm (v : String) : Prop :=
  ∃ entry ∈ colorNames, sameIgnoringCase entry.1 v = true

variable {source v : String} {target : Target}

/-- The outline that the reader looks for is that of the hexadecimal forms, whether or not the
characters are digits. -/
theorem isHexOutline_iff : isHexOutline v.toList = true ↔ IsHexForm v := by
  unfold isHexOutline IsHexForm
  cases v.toList with
  | nil => exact iff_of_false (by decide) fun ⟨_, hv, _⟩ => nomatch hv
  | cons c digits =>
    have hlengths : Argb.hexLengths.admits (digits.length + 1) = true ↔
        digits.length ∈ [3, 4, 6, 8] := by
      simp [Argb.hexLengths, Arity.admits]
    simp [hlengths]

/-- No text is in two of the forms: they differ in whether there is a number sign, and where it
stands. -/
theorem forms_disjoint (v : String) : ¬(IsHexForm v ∧ IsLinearForm v) ∧
    ¬(IsHexForm v ∧ IsNamedForm v) ∧ ¬(IsLinearForm v ∧ IsNamedForm v) := by
  refine ⟨?_, ?_, ?_⟩
  · rintro ⟨⟨digits, hv, -⟩, rest, hlinear⟩
    rw [hv] at hlinear
    exact absurd (List.cons.inj hlinear).1 (by decide)
  · rintro ⟨⟨digits, hv, -⟩, entry, hmem, hsame⟩
    exact not_mem_of_name hmem hsame (hv ▸ .head _)
  · rintro ⟨hlinear, entry, hmem, hsame⟩
    exact not_mem_of_name hmem hsame (hlinear.subset (by decide))

/-! ## What a form gives -/

/-- A text in a hexadecimal form is given by the bytes that its digits write, or fails as they
do. -/
theorem color_of_hex {digits : List Char} (hv : (trim source).toList = '#' :: digits)
    (hlength : digits.length ∈ [3, 4, 6, 8]) : color source target =
      (target.report source (Argb.ofHexDigits digits)).map (ofArgb target.destination) := by
  have houtline := isHexOutline_iff.2 ⟨digits, hv, hlength⟩
  unfold color
  dsimp only
  rw [if_pos houtline, Argb.ofHex_of_number_sign hv]

/-- A text with the prefix of linear colours is given by its channels, or fails as they do. -/
theorem color_of_linear (h : IsLinearForm (trim source)) : color source target =
    (target.report source (ScRgb.ofText (trim source))).map (ofScRgb target.destination) := by
  have houtline := mt isHexOutline_iff.1 fun hhex => (forms_disjoint _).1 ⟨hhex, h⟩
  unfold color
  dsimp only
  rw [if_neg houtline, if_pos (List.isPrefixOf_iff_prefix.2 h)]

/-- A name in any ASCII case is given by the bytes of the word that the table has for it. -/
theorem color_of_name {name : String} {word : UInt32} (hmem : (name, word) ∈ colorNames)
    (hsame : sameIgnoringCase name (trim source) = true) (target : Target) :
    color source target = .ok (ofArgb target.destination (Argb.ofWord word)) := by
  have hnamed : IsNamedForm (trim source) := ⟨_, hmem, hsame⟩
  have houtline := mt isHexOutline_iff.1 fun hhex => (forms_disjoint _).2.1 ⟨hhex, hnamed⟩
  have hprefix : ¬"sc#".toList.isPrefixOf (trim source).toList = true := fun hprefix =>
    (forms_disjoint _).2.2 ⟨List.isPrefixOf_iff_prefix.1 hprefix, hnamed⟩
  unfold color
  dsimp only
  rw [if_neg houtline, if_neg hprefix, Argb.ofName?_eq_some_iff.2 ⟨_, hmem, hsame, rfl⟩]

/-- A text in none of the forms is taken for a name that is not in the table, and the cause holds it
without the white space around it. -/
theorem color_of_none (hhex : ¬IsHexForm (trim source)) (hlinear : ¬IsLinearForm (trim source))
    (hnamed : ¬IsNamedForm (trim source)) :
    color source target = target.refuse source (.unknownName .color (trim source)) := by
  have hnone : Argb.ofName? (trim source) = none := by
    refine Option.eq_none_iff_forall_ne_some.2 fun c hc => hnamed ?_
    obtain ⟨entry, hmem, hsame, -⟩ := Argb.ofName?_eq_some_iff.1 hc
    exact ⟨entry, hmem, hsame⟩
  unfold color
  dsimp only
  rw [if_neg (mt isHexOutline_iff.1 hhex), if_neg (mt List.isPrefixOf_iff_prefix.1 hlinear), hnone]

/-! ## Causes that are never given -/

/-- Whether a cause is neither of those that the form of a text rules out: the length of a
hexadecimal colour, and the missing prefix of a linear one. Both are causes of the readers of one
form, which are not called for texts in another. -/
def IsPastForm : Cause → Prop
  | .tokenCount expected _ => expected ≠ Argb.hexLengths
  | .unsupported _ => False
  | _ => True

/-- What the channels of a linear colour have wrong is not ruled out by the form of the text. -/
theorem isPastForm_of_scRgb {cause : Cause} (h : ScRgb.MayName cause) : IsPastForm cause := by
  cases cause with
  | tokenCount expected n =>
    have hexpected : expected = .oneOf [3, 4] := h
    have hother : Arity.oneOf [3, 4] ≠ Argb.hexLengths := by decide
    exact hexpected ▸ hother
  | unsupported text => exact h
  | _ => trivial

/-- A colour fails for none of the causes that the form of its text rules out. Each form is read by
its own reader, and what is in none of them is an unknown name. -/
theorem color_explainedBy (source : String) (target : Target) :
    ExplainedBy IsPastForm source target (color source target) := by
  by_cases hhex : IsHexForm (trim source)
  · obtain ⟨digits, hv, hlength⟩ := hhex
    have hfails : FailsWith IsPastForm (Argb.ofHexDigits digits) := by
      intro cause hcause
      have hfirst := Argb.ofHexDigits_failsAtFirst hlength
      rw [Argb.FailsAtFirst, hcause] at hfirst
      split at hfirst
      · obtain ⟨_, hok⟩ := hfirst
        cases hok
      · cases hfirst
        trivial
    rw [color_of_hex hv hlength]
    exact (explained_report hfails).map _
  · by_cases hlinear : IsLinearForm (trim source)
    · have hfails := ofText_failsWith (List.isPrefixOf_iff_prefix.2 hlinear)
      rw [color_of_linear hlinear]
      exact (explained_report (hfails.mono fun _ => isPastForm_of_scRgb)).map _
    · by_cases hnamed : IsNamedForm (trim source)
      · obtain ⟨⟨name, word⟩, hmem, hsame⟩ := hnamed
        rw [color_of_name hmem hsame]
        exact explained_ok _
      · rw [color_of_none hhex hlinear hnamed]
        exact explained_refuse trivial

/-- A brush fails as the colour inside it does, or for the companion that is missing. -/
theorem brush_explainedBy (source : String) (target : Target) :
    ExplainedBy IsPastForm source target (brush source target) :=
  wrapped_explainedBy source target (fun _ => trivial) fun type =>
    color_explainedBy source ⟨type, []⟩

/-! ## The forms together -/

/-- A hexadecimal digit is no white space. -/
theorem isBlank_of_isHexDigit {x : Char} (h : isHexDigit x = true) : Text.isBlank x = false := by
  refine Bool.eq_false_iff.2 fun hblank => ?_
  revert h
  apply CodePoints.of_forall_codes hblank
  decide

/-- The digits of a word, in any letter case and after a number sign, are a colour in hexadecimal
form, the one that the word packs. -/
theorem color_of_wordDigits {word : UInt32} {digits : List Char}
    (h : digits.map Char.toLower = Argb.wordDigits word) (target : Target) :
    color (String.ofList ('#' :: digits)) target =
      .ok (ofArgb target.destination (Argb.ofWord word)) := by
  have hlength : digits.length = 8 := by
    rw [← List.length_map, h]
    rfl
  have hspells : Argb.Spells digits (Argb.ofWord word) := by
    rw [Argb.Spells, Argb.inFull_of_length (by simp [hlength]), Argb.hexDigits_ofWord, h]
  have hdigits := (Argb.exists_spells_iff.1 ⟨_, hspells⟩).2
  have htrim : trim (String.ofList ('#' :: digits)) = String.ofList ('#' :: digits) := by
    refine Text.trim_of_forall ?_
    rw [String.toList_ofList]
    refine List.forall_mem_cons.2 ⟨by decide, fun x hx => ?_⟩
    exact isBlank_of_isHexDigit (hdigits x hx)
  have hv : (trim (String.ofList ('#' :: digits))).toList = '#' :: digits := by
    rw [htrim, String.toList_ofList]
  rw [color_of_hex hv (by simp [hlength]), Argb.ofHexDigits_eq_ok_iff.2 hspells]
  rfl

/-- A colour is written in one of three forms, of which no text has two. In a hexadecimal form it is
given by its bytes, and the first character that is no digit is at fault; as a linear colour it is
given by its four channels, and at fault is what the channels have wrong; by a name it is what the
digits of the word in the table give. A text in no form is an unknown name. Neither a colour nor a
brush is refused for the length of a hexadecimal form or for the prefix of linear colours. -/
theorem color_forms (source : String) (target : Target) :
    (∀ digits, (trim source).toList = '#' :: digits → digits.length ∈ [3, 4, 6, 8] →
      ((∀ x ∈ digits, isHexDigit x = true) → ∃ c, Argb.Spells digits c ∧
        color source target = .ok (.invoke target.destination "FromArgb"
          [.literal (.byte c.a), .literal (.byte c.r), .literal (.byte c.g),
            .literal (.byte c.b)])) ∧
      ∀ front x back, digits = front ++ x :: back → (∀ y ∈ front, isHexDigit y = true) →
        isHexDigit x = false → color source target = target.refuse source (.invalidToken x)) ∧
    (IsLinearForm (trim source) →
      (∀ c, ScRgb.ofText (trim source) = .ok c →
        color source target = .ok (.invoke target.destination "FromScRgb"
          [.literal (.single c.a), .literal (.single c.r), .literal (.single c.g),
            .literal (.single c.b)])) ∧
      ∀ cause, ScRgb.ofText (trim source) = .error cause →
        color source target = target.refuse source cause) ∧
    (∀ name word, (name, word) ∈ colorNames → sameIgnoringCase name (trim source) = true →
      color source target = .ok (ofArgb target.destination (Argb.ofWord word)) ∧
      ∀ digits, digits.map Char.toLower = Argb.wordDigits word →
        color (String.ofList ('#' :: digits)) target = color source target) ∧
    (¬IsHexForm (trim source) → ¬IsLinearForm (trim source) → ¬IsNamedForm (trim source) →
      color source target = target.refuse source (.unknownName .color (trim source))) ∧
    (¬(IsHexForm (trim source) ∧ IsLinearForm (trim source)) ∧
      ¬(IsHexForm (trim source) ∧ IsNamedForm (trim source)) ∧
      ¬(IsLinearForm (trim source) ∧ IsNamedForm (trim source))) ∧
    ∀ read ∈ [color, brush], ∀ failure, read source target = .error failure →
      (∀ n, failure.cause ≠ some (.tokenCount Argb.hexLengths n)) ∧
      ∀ text, failure.cause ≠ some (.unsupported text) := by
  refine ⟨fun digits hv hlength => ⟨fun hdigits => ?_, ?_⟩, fun hlinear => ⟨?_, ?_⟩, ?_,
    color_of_none, forms_disjoint _, ?_⟩
  · obtain ⟨c, hspells⟩ := Argb.exists_spells_iff.2 ⟨hlength, hdigits⟩
    refine ⟨c, hspells, ?_⟩
    rw [color_of_hex hv hlength, Argb.ofHexDigits_eq_ok_iff.2 hspells]
    rfl
  · rintro front x back rfl hfront hx
    rw [color_of_hex hv hlength, Argb.ofHexDigits_of_leftmost hlength hfront hx]
    rfl
  · intro c hc
    rw [color_of_linear hlinear, hc]
    rfl
  · intro cause hcause
    rw [color_of_linear hlinear, hcause]
    rfl
  · intro name word hmem hsame
    have hread := color_of_name hmem hsame target
    exact ⟨hread, fun digits hdigits => (color_of_wordDigits hdigits target).trans hread.symm⟩
  · have hexplained : ∀ read ∈ [color, brush],
        ExplainedBy IsPastForm source target (read source target) := by
      simpa using ⟨color_explainedBy source target, brush_explainedBy source target⟩
    intro read hread failure hfailure
    obtain ⟨cause, hcause, rfl⟩ := hexplained read hread failure hfailure
    constructor
    · intro n hn
      cases Option.some.inj hn
      exact hcause rfl
    · intro text hn
      cases Option.some.inj hn
      exact hcause

/-- A name in capitals and its digits, and a hexadecimal form with two characters at fault. -/
theorem color_forms_aqua :
    color "#ff00FFFF" ⟨⟨"Color"⟩, []⟩ = color " AQUA " ⟨⟨"Color"⟩, []⟩ ∧
      color "#1g!" ⟨⟨"Color"⟩, []⟩ =
        Target.refuse ⟨⟨"Color"⟩, []⟩ "#1g!" (.invalidToken 'g') := by
  obtain ⟨-, -, hname, -⟩ := color_forms " AQUA " ⟨⟨"Color"⟩, []⟩
  obtain ⟨hhex, -⟩ := color_forms "#1g!" ⟨⟨"Color"⟩, []⟩
  constructor
  · exact (hname "Aqua" 0xFF00FFFF (.tail _ (.tail _ (.head _))) (by decide)).2
      ['f', 'f', '0', '0', 'F', 'F', 'F', 'F'] (by decide)
  · exact (hhex ['1', 'g', '!'] (by decide) (by decide)).2 ['1'] 'g' ['!'] rfl
      (List.forall_mem_singleton.2 rfl) rfl

end Reading

end MarkupValues
