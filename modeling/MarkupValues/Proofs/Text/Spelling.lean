import Mathlib.Data.List.DropRight
import MarkupValues.Proofs.Text.Lowercase
import MarkupValues.Proofs.Text.Runs
import MarkupValues.Text.AsciiCase

/-!
# Texts that differ in ASCII case or in what stands before them

Neither the lower case of a text nor the white space around it depends on the case of its ASCII
letters (`lowercase_foldCase`, `trim_foldCase`). The texts that an ASCII word is the lower case of
differ from it in ASCII case, and in Kelvin signs for its letters K (`lowercase_eq_ascii_iff`).
Where a word is put before a text, the small letters of the text stay as they are
(`lowercaseFrom_word_append`), unless a capital sigma comes first in it that has now become the end
of a word (`lowercaseFrom_true_eq_iff`).
-/

namespace MarkupValues.Text

/-! ## ASCII case -/

/-- A text with its ASCII letters made small, and all others as they are. -/
def foldCase (s : String) : String :=
  String.ofList (s.toList.map Char.toLower)

/-- Two texts are the same but for ASCII case exactly when they are equal with their ASCII letters
made small. -/
theorem sameIgnoringCase_iff {s t : String} :
    sameIgnoringCase s t = true ↔ foldCase s = foldCase t := by
  rw [sameIgnoringCase, beq_iff_eq, foldCase, foldCase, String.ofList_inj]

/-- The ASCII letters of two texts one after the other are made small in each of them. -/
theorem foldCase_append (s t : String) : foldCase (s ++ t) = foldCase s ++ foldCase t := by
  rw [foldCase, String.toList_append, List.map_append, String.ofList_append]
  rfl

/-- Where no two entries of a table have one key, the entry that is found is the one with the key.
The order of the table does not matter then. -/
theorem find?_eq_some_iff_of_nodup {α β : Type} [BEq β] [LawfulBEq β] (key : α → β)
    {entries : List α} (h : (entries.map key).Nodup) {k : β} {entry : α} :
    entries.find? (fun entry => key entry == k) = some entry ↔ entry ∈ entries ∧ key entry = k := by
  constructor
  · intro hfind
    have hkey := List.find?_some (p := fun entry => key entry == k) hfind
    exact ⟨List.mem_of_find?_eq_some hfind, beq_iff_eq.1 hkey⟩
  · rintro ⟨hmem, rfl⟩
    induction entries with
    | nil => cases hmem
    | cons first entries ih =>
      obtain ⟨hfirst, hrest⟩ := List.nodup_cons.1 h
      rcases List.mem_cons.1 hmem with rfl | hmem
      · rw [List.find?_cons, beq_self_eq_true]
      · have hother : (key first == key entry) = false := by
          refine beq_eq_false_iff_ne.2 fun hsame => hfirst ?_
          exact hsame ▸ List.mem_map_of_mem hmem
        rw [List.find?_cons, hother]
        exact ih hrest hmem

/-- Where no two names of a table differ in ASCII case alone, the entry that is found is the one
whose name the text is in some case. -/
theorem find?_sameIgnoringCase_eq_some_iff {α : Type} (name : α → String) {entries : List α}
    (h : (entries.map fun entry => foldCase (name entry)).Nodup) {s : String} {entry : α} :
    entries.find? (fun entry => sameIgnoringCase (name entry) s) = some entry ↔
      entry ∈ entries ∧ sameIgnoringCase (name entry) s = true := by
  have hkey (entry : α) :
      sameIgnoringCase (name entry) s = (foldCase (name entry) == foldCase s) := by
    rw [Bool.eq_iff_iff, sameIgnoringCase_iff, beq_iff_eq]
  simp only [hkey, beq_iff_eq]
  exact find?_eq_some_iff_of_nodup _ h

/-- Where no two spellings differ in ASCII case alone, the one that is found is the one that the
text is in some case. -/
theorem findSpelling?_eq_some_iff {spellings : List String} (h : (spellings.map foldCase).Nodup)
    {s spelling : String} : findSpelling? spellings s = some spelling ↔
      spelling ∈ spellings ∧ sameIgnoringCase spelling s = true :=
  find?_sameIgnoringCase_eq_some_iff (fun spelling => spelling) h

/-- A text with the letter K for each Kelvin sign, and otherwise as it is. -/
def withLatinK (s : String) : String :=
  String.ofList (s.toList.map kelvinAsK)

/-- A text without a Kelvin sign is left as it is. -/
theorem withLatinK_eq_self {s : String} (h : '\u212A' ∉ s.toList) : withLatinK s = s := by
  have hself : ∀ c ∈ s.toList, kelvinAsK c = id c := by
    intro c hc
    refine if_neg ?_
    rintro rfl
    exact h hc
  rw [withLatinK, List.map_congr_left hself, List.map_id, String.ofList_toList]

/-- To take Kelvin signs for K and then make ASCII letters small is done character by character. -/
theorem map_toLower_withLatinK (s : String) :
    (withLatinK s).toList.map Char.toLower = s.toList.map fun c => (kelvinAsK c).toLower := by
  rw [withLatinK, String.toList_ofList, List.map_map]
  rfl

section
variable {word small : String} (hsmall : foldCase word = small)
include hsmall

/-- A text becomes a word of ASCII without the letter K in lower case exactly when it is the word in
some case. -/
theorem lowercase_eq_iff (hletters : small.toList.all isAsciiButK = true) (s : String) :
    lowercase s = small ↔ sameIgnoringCase word s = true := by
  rw [lowercase, ← String.toList_inj, String.toList_ofList, lowercaseFrom_eq_iff hletters,
    sameIgnoringCase_iff, hsmall, foldCase, ← String.toList_inj, String.toList_ofList, eq_comm]

variable (hascii : small.toList.all isAscii = true)
include hascii

/-- A text becomes a word of ASCII in lower case exactly when it is the word in some case once each
Kelvin sign is a letter K. -/
theorem lowercase_eq_ascii_iff (s : String) :
    lowercase s = small ↔ sameIgnoringCase word (withLatinK s) = true := by
  rw [sameIgnoringCase_iff, hsmall, ← String.toList_inj, lowercase, String.toList_ofList,
    lowercaseFrom_eq_ascii_iff hascii, ← map_toLower_withLatinK, ← String.toList_inj, eq_comm,
    foldCase, String.toList_ofList]

/-- A word of ASCII in some case is a text of ASCII. -/
theorem isAscii_toLower_of_sameIgnoringCase {s : String} (h : sameIgnoringCase word s = true) :
    ∀ c ∈ s.toList, isAscii c.toLower = true := by
  intro c hc
  rw [sameIgnoringCase_iff, hsmall] at h
  rw [h, foldCase, String.toList_ofList] at hascii
  exact List.all_eq_true.1 hascii _ (List.mem_map_of_mem hc)

end

/-- What does not tell a capital of ASCII from its small letter does not depend on the case of ASCII
letters. The letters are gone through once here, for all the functions below. -/
theorem comp_toLower {α : Type} {f : Char → α}
    (h : ∀ n ∈ List.range' 0x41 26, f (Char.ofNat n).toLower = f (Char.ofNat n)) (c : Char) :
    f c.toLower = f c := by
  by_cases hcapital : 0x41 ≤ c.toNat ∧ c.toNat ≤ 0x5A
  · exact CodePoints.of_forall_range' (p := fun c => f c.toLower = f c) hcapital.1 hcapital.2 h
  · have hsame : c.toLower = c := dif_neg hcapital
    rw [hsame]

/-- White space does not depend on the case of ASCII letters. -/
theorem isBlank_toLower (c : Char) : isBlank c.toLower = isBlank c :=
  comp_toLower (by decide) c

/-- Whether a character has case does not depend on the case of ASCII letters. -/
theorem isCased_toLower (c : Char) : isCased c.toLower = isCased c :=
  comp_toLower (by decide) c

/-- Whether a character is ignored at the end of words does not depend on the case of ASCII
letters. -/
theorem isCaseIgnorable_toLower (c : Char) : isCaseIgnorable c.toLower = isCaseIgnorable c :=
  comp_toLower (by decide) c

/-- The small letters of a character do not depend on the case of ASCII letters. -/
theorem smallLetters_toLower (c : Char) : smallLetters c.toLower = smallLetters c :=
  comp_toLower (by decide) c

/-- The capital sigma is made of nothing else by the rule for ASCII. -/
theorem toLower_eq_sigma_iff (c : Char) : c.toLower = 'Σ' ↔ c = 'Σ' := by
  have h : (c.toLower == 'Σ') = (c == 'Σ') :=
    comp_toLower (f := (· == 'Σ')) (by decide) c
  rw [← beq_iff_eq, h, beq_iff_eq]

/-- Whether a letter comes next does not depend on the case of ASCII letters. -/
theorem startsCased_map_toLower (cs : List Char) :
    startsCased (cs.map Char.toLower) = startsCased cs := by
  unfold startsCased
  rw [List.dropWhile_map, show isCaseIgnorable ∘ Char.toLower = isCaseIgnorable from
    funext isCaseIgnorable_toLower]
  cases cs.dropWhile isCaseIgnorable with
  | nil => rfl
  | cons c rest => exact isCased_toLower c

/-- Lower case does not depend on the case of ASCII letters, whatever comes before the text. -/
theorem lowercaseFrom_map_toLower (afterCased : Bool) (cs : List Char) :
    lowercaseFrom afterCased (cs.map Char.toLower) = lowercaseFrom afterCased cs := by
  induction cs generalizing afterCased with
  | nil => rfl
  | cons c cs ih =>
    rw [List.map_cons, lowercaseFrom, lowercaseFrom, startsCased_map_toLower, smallLetters_toLower,
      isCaseIgnorable_toLower, isCased_toLower, ih]
    simp only [toLower_eq_sigma_iff]

/-- Lower case does not depend on the case of ASCII letters, for a text from its start. -/
theorem lowercase_foldCase (s : String) : lowercase (foldCase s) = lowercase s := by
  rw [lowercase, foldCase, String.toList_ofList, lowercaseFrom_map_toLower]
  rfl

/-! ## White space -/

/-- White space is dropped alike from a text and from the text in another case of ASCII letters. -/
theorem dropWhile_isBlank_map_toLower (cs : List Char) :
    (cs.map Char.toLower).dropWhile isBlank = (cs.dropWhile isBlank).map Char.toLower := by
  rw [List.dropWhile_map, show isBlank ∘ Char.toLower = isBlank from funext isBlank_toLower]

/-- A text in another case of ASCII letters has the same white space around it. -/
theorem trim_foldCase (s : String) : trim (foldCase s) = foldCase (trim s) := by
  rw [trim, foldCase, String.toList_ofList, dropWhile_isBlank_map_toLower, dropBlankEnd,
    ← List.map_reverse, dropWhile_isBlank_map_toLower, ← List.map_reverse, foldCase, trim,
    String.toList_ofList]
  rfl

/-- White space after a text is dropped from its end. -/
theorem dropBlankEnd_append_blanks {post : List Char} (hpost : ∀ c ∈ post, isBlank c = true)
    (cs : List Char) : dropBlankEnd (cs ++ post) = dropBlankEnd cs := by
  have hreverse : ∀ c ∈ post.reverse, isBlank c = true := fun c hc =>
    hpost c (List.mem_reverse.1 hc)
  rw [dropBlankEnd, List.reverse_append, List.dropWhile_append_of_pos hreverse]
  rfl

/-- More white space around a text does not matter, since all of it is taken off. -/
theorem trim_append_blanks {pre post : String} (hpre : ∀ c ∈ pre.toList, isBlank c = true)
    (hpost : ∀ c ∈ post.toList, isBlank c = true) (s : String) :
    trim (pre ++ s ++ post) = trim s := by
  rw [trim, String.toList_append, String.toList_append, List.append_assoc,
    List.dropWhile_append_of_pos hpre, List.dropWhile_append]
  split
  · next hempty =>
    have hblank : dropBlankEnd (post.toList.dropWhile isBlank) = [] := by
      rw [← List.append_nil post.toList, List.dropWhile_append_of_pos hpost]
      rfl
    rw [hblank, trim, List.isEmpty_iff.1 hempty]
    rfl
  · rw [dropBlankEnd_append_blanks hpost]
    rfl

/-- A text without white space around it has none at its end. -/
theorem dropBlankEnd_eq_self {s : String} (h : trim s = s) : dropBlankEnd s.toList = s.toList := by
  rw [← h, trim, String.toList_ofList]
  exact List.rdropWhile_idempotent isBlank _

/-- White space is taken off the end of a text alone when the word before it does not end with
any. -/
theorem dropBlankEnd_word_append {word : List Char} (hword : Stops isBlank word.reverse)
    (cs : List Char) : dropBlankEnd (word ++ cs) = word ++ dropBlankEnd cs := by
  rw [dropBlankEnd, dropBlankEnd, List.reverse_append, List.dropWhile_append]
  split
  · next hempty =>
    rw [dropWhile_of_stops hword, List.isEmpty_iff.1 hempty]
    simp
  · rw [List.reverse_append, List.reverse_reverse]

/-- A text without white space around it has none when a word is put before it either. -/
theorem trim_word_append {word s : String} (hne : word ≠ "") (hstart : Stops isBlank word.toList)
    (hend : Stops isBlank word.toList.reverse) (hs : trim s = s) :
    trim (word ++ s) = word ++ s := by
  have hstops : Stops isBlank (word.toList ++ s.toList) := by
    obtain ⟨c, rest, hword⟩ := List.exists_cons_of_ne_nil (mt String.toList_eq_nil_iff.1 hne)
    rw [hword] at hstart ⊢
    exact hstart
  rw [trim, String.toList_append, dropWhile_of_stops hstops, dropBlankEnd_word_append hend,
    dropBlankEnd_eq_self hs, String.ofList_append, String.ofList_toList, String.ofList_toList]

/-! ## What comes before a text -/

/-- Whether a text goes on with the end of a word that is a capital sigma alone, if the text comes
after a letter: the first character that is not ignorable is a capital sigma and the next one has no
case. -/
def startsWithFinalSigma (cs : List Char) : Bool :=
  match cs.dropWhile isCaseIgnorable with
  | [] => false
  | c :: rest => c == 'Σ' && !startsCased rest

/-- What comes before a text matters for its lower case exactly when it starts with a sigma that
ends a word there. -/
theorem lowercaseFrom_true_eq_iff (cs : List Char) :
    lowercaseFrom true cs = lowercaseFrom false cs ↔ startsWithFinalSigma cs = false := by
  induction cs with
  | nil => exact iff_of_true rfl rfl
  | cons c cs ih =>
    by_cases hignorable : isCaseIgnorable c = true
    · -- What is ignorable leaves the question to the characters after it.
      have hsigma : c ≠ 'Σ' := by
        rintro rfl
        exact absurd hignorable (by decide)
      have hstarts : startsWithFinalSigma (c :: cs) = startsWithFinalSigma cs := by
        rw [startsWithFinalSigma, List.dropWhile_cons_of_pos hignorable]
        rfl
      rw [lowercaseFrom, lowercaseFrom, if_neg hsigma, if_neg hsigma, if_pos hignorable,
        if_pos hignorable, List.append_cancel_left_eq, ih, hstarts]
    · have hstarts : startsWithFinalSigma (c :: cs) = (c == 'Σ' && !startsCased cs) := by
        rw [startsWithFinalSigma, List.dropWhile_cons_of_neg hignorable]
      rw [lowercaseFrom, lowercaseFrom, if_neg hignorable, if_neg hignorable, hstarts,
        List.append_cancel_right_eq]
      by_cases hsigma : c = 'Σ'
      · cases hcased : startsCased cs <;> simp [hsigma]
      · simp [hsigma]

/-- Whether the last character of a word that is not ignorable has case, if there is one. -/
def endsCased (afterCased : Bool) (word : List Char) : Bool :=
  word.foldl (fun cased c => if isCaseIgnorable c then cased else isCased c) afterCased

/-- A word without a capital sigma has the same small letters whatever comes after it, and tells
what comes after it whether it ends with a letter. -/
theorem lowercaseFrom_word_append {word : List Char} (hword : 'Σ' ∉ word) (afterCased : Bool)
    (cs : List Char) : lowercaseFrom afterCased (word ++ cs) =
      word.flatMap smallLetters ++ lowercaseFrom (endsCased afterCased word) cs := by
  induction word generalizing afterCased with
  | nil => rfl
  | cons c word ih =>
    obtain ⟨hc, hrest⟩ := not_or.1 (mt List.mem_cons.2 hword)
    rw [List.cons_append, lowercaseFrom, if_neg (Ne.symm hc), ih hrest, List.flatMap_cons,
      List.append_assoc]
    rfl

end MarkupValues.Text
