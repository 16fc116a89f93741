import MarkupValues.Text.Blank
import MarkupValues.Text.Lowercase

/-!
# Lower case of a text

White space has no case and ends the words around it, so that the lower case of a text with white
space around it is that of the text without, in the same white space
(`toList_lowercase_of_trim`). A small ASCII letter is the small form of itself and of its capital
only, but for `k` and `i`; so a text in lower case starts with a word of other letters when the text
does in some ASCII case (`isPrefixOf_lowercaseFrom`), and it is the same with the character at its
end (`getLast?_lowercaseFrom_eq_iff`). It is a word without the letter K when the text is
(`lowercaseFrom_eq_iff`), and one with it when the text is, with each Kelvin sign read as the letter
K (`lowercaseFrom_eq_ascii_iff`).
-/

namespace MarkupValues

/-! ## Sets of characters -/

/-- The code points of a set, one by one. The sets of the tables are small enough to go through
them. -/
def CodePoints.codes (set : CodePoints) : List Nat :=
  set.ranges.flatMap fun range => List.range' range.1 (range.2 + 1 - range.1)

/-- A code that is found in some ranges is in one of them. -/
theorem CodePoints.exists_range_of_inRanges {n : Nat} {ranges : List (Nat × Nat)}
    (h : inRanges n ranges = true) : ∃ range ∈ ranges, range.1 ≤ n ∧ n ≤ range.2 := by
  induction ranges with
  | nil => cases h
  | cons range ranges ih =>
    unfold inRanges at h
    split at h
    · cases h
    · next hfirst =>
      rcases Bool.or_eq_true_iff.1 h with h | h
      · exact ⟨range, .head _, Nat.le_of_not_lt hfirst, of_decide_eq_true h⟩
      · obtain ⟨range', hmem, hrange⟩ := ih h
        exact ⟨range', .tail _ hmem, hrange⟩

/-- A character with a code in a range has what the characters with these codes have, so that a fact
about a range can be checked code by code. -/
theorem CodePoints.of_forall_range' {c : Char} {first last : Nat} (hfirst : first ≤ c.toNat)
    (hlast : c.toNat ≤ last) {p : Char → Prop}
    (h : ∀ n ∈ List.range' first (last + 1 - first), p (Char.ofNat n)) : p c := by
  have hc := h c.toNat (List.mem_range'_1.2 ⟨hfirst, by omega⟩)
  rwa [Char.ofNat_toNat] at hc

/-- A character of a set has what the characters with the codes of the set have, so that a fact
about a set can be checked code by code. -/
theorem CodePoints.of_forall_codes {set : CodePoints} {c : Char} (hc : set.contains c = true)
    {p : Char → Prop} (h : ∀ n ∈ set.codes, p (Char.ofNat n)) : p c := by
  obtain ⟨range, hrange, hfirst, hlast⟩ := exists_range_of_inRanges hc
  exact of_forall_range' hfirst hlast fun n hn => h n (List.mem_flatMap.2 ⟨range, hrange, hn⟩)

namespace Text

/-! ## White space -/

/-- White space is its own small form, and a place where words end. -/
theorem lowercase_of_isBlank {c : Char} (h : isBlank c = true) :
    c ≠ 'Σ' ∧ smallLetters c = [c] ∧ isCaseIgnorable c = false ∧ isCased c = false := by
  apply CodePoints.of_forall_codes h
  decide +kernel

/-- White space after a text does not tell whether a letter comes next: it has no case, and it is
not ignored. -/
theorem startsCased_append {post : List Char} (hpost : ∀ c ∈ post, isBlank c = true)
    (cs : List Char) : startsCased (cs ++ post) = startsCased cs := by
  unfold startsCased
  rw [List.dropWhile_append]
  cases hdrop : cs.dropWhile isCaseIgnorable with
  | cons c rest => simp
  | nil =>
    cases post with
    | nil => simp
    | cons c rest =>
      obtain ⟨-, -, hignorable, hcased⟩ := lowercase_of_isBlank (hpost c (.head _))
      simp [hignorable, hcased]

/-- White space after a text stays there and changes no letter before it, by induction on the
text. -/
theorem lowercaseFrom_append {post : List Char} (hpost : ∀ c ∈ post, isBlank c = true)
    (afterCased : Bool) (cs : List Char) :
    lowercaseFrom afterCased (cs ++ post) = lowercaseFrom afterCased cs ++ post := by
  induction cs generalizing afterCased with
  | cons c cs ih =>
    simp only [List.cons_append, lowercaseFrom, startsCased_append hpost, ih, List.append_assoc]
  | nil =>
    rw [List.nil_append, lowercaseFrom, List.nil_append]
    induction post generalizing afterCased with
    | nil => rfl
    | cons c post ih =>
      obtain ⟨hblank, hblanks⟩ := List.forall_mem_cons.1 hpost
      obtain ⟨hsigma, hsmall, -, -⟩ := lowercase_of_isBlank hblank
      rw [lowercaseFrom, if_neg hsigma, hsmall]
      exact congrArg (c :: ·) (ih hblanks _)

/-- White space before a text stays there, and no letter comes before the text then, as at its
start. -/
theorem lowercaseFrom_blanks_append {pre : List Char} (hpre : ∀ c ∈ pre, isBlank c = true)
    (cs : List Char) : lowercaseFrom false (pre ++ cs) = pre ++ lowercaseFrom false cs := by
  induction pre with
  | nil => rfl
  | cons c pre ih =>
    obtain ⟨hblank, hblanks⟩ := List.forall_mem_cons.1 hpre
    obtain ⟨hsigma, hsmall, hignorable, hcased⟩ := lowercase_of_isBlank hblank
    rw [List.cons_append, lowercaseFrom, if_neg hsigma, hsmall, hignorable, hcased]
    exact congrArg (c :: ·) (ih hblanks)

/-- A text is what is left of it without the white space around it, with that white space on its two
sides. -/
theorem exists_eq_append_trim (s : String) : ∃ pre post : List Char,
    (∀ c ∈ pre, isBlank c = true) ∧ (∀ c ∈ post, isBlank c = true) ∧
      s.toList = pre ++ ((trim s).toList ++ post) := by
  have hblank (cs : List Char) : ∀ c ∈ cs.takeWhile isBlank, isBlank c = true :=
    List.all_eq_true.1 List.all_takeWhile
  refine ⟨s.toList.takeWhile isBlank,
    ((s.toList.dropWhile isBlank).reverse.takeWhile isBlank).reverse,
    hblank _, fun c hc => hblank _ c (List.mem_reverse.1 hc), ?_⟩
  rw [trim, String.toList_ofList, dropBlankEnd, ← List.reverse_append,
    List.takeWhile_append_dropWhile, List.reverse_reverse, List.takeWhile_append_dropWhile]

/-- The lower case of a text is that of what is left without the white space around it, in the same
white space. -/
theorem toList_lowercase_of_trim {s : String} {pre post : List Char}
    (hpre : ∀ c ∈ pre, isBlank c = true) (hpost : ∀ c ∈ post, isBlank c = true)
    (hs : s.toList = pre ++ ((trim s).toList ++ post)) :
    (lowercase s).toList = pre ++ ((lowercase (trim s)).toList ++ post) := by
  rw [lowercase, String.toList_ofList, hs, lowercaseFrom_blanks_append hpre,
    lowercaseFrom_append hpost, lowercase, String.toList_ofList]

/-! ## Words in some ASCII case -/

/-- The small form of a character is the character itself, or it is as far from the first image of a
run as the character is from the first capital. -/
theorem smallIn_eq (n : Nat) (runs : List CapitalRun) :
    smallIn n runs = n ∨
      ∃ run ∈ runs, run.first ≤ n ∧ n ≤ run.last ∧
        smallIn n runs = run.image + (n - run.first) := by
  induction runs with
  | nil => exact .inl rfl
  | cons run runs ih =>
    unfold smallIn
    split
    · exact .inl rfl
    · next hfirst =>
      split
      · next hrun =>
        have hlast := of_decide_eq_true (Bool.and_eq_true_iff.1 hrun).1
        exact .inr ⟨run, .head _, Nat.le_of_not_lt hfirst, hlast, rfl⟩
      · exact ih.imp_right fun ⟨run', hmem, hrun'⟩ => ⟨run', .tail _ hmem, hrun'⟩

/-- The Kelvin sign is the one character beyond ASCII with a small letter in ASCII. -/
theorem smallIn_capitalRuns {n : Nat} (h : 0x80 ≤ n) (hkelvin : n ≠ 0x212A) :
    0x80 ≤ smallIn n capitalRuns := by
  have hruns : ∀ run ∈ capitalRuns,
      0x80 ≤ run.image ∨ (run.first = 0x212A ∧ run.last = 0x212A) := by
    decide +kernel
  rcases smallIn_eq n capitalRuns with heq | ⟨run, hrun, hfirst, hlast, heq⟩
  · omega
  · rcases hruns run hrun with himage | ⟨hone, hone'⟩
    · omega
    · exact absurd (Nat.le_antisymm (hone' ▸ hlast) (hone ▸ hfirst)) hkelvin

/-- Whether a character is one of ASCII, and not the one for codes without a character. -/
def isAscii (x : Char) : Bool :=
  x.toNat < 0x80 && x != '\x00'

/-- Whether an ASCII character is no small form of the Kelvin sign. -/
def isAsciiButK (x : Char) : Bool :=
  isAscii x && x != 'k'

/-- Whether an ASCII character is a small form of other ASCII characters at most. -/
def isSmallInAscii (x : Char) : Bool :=
  isAsciiButK x && x != 'i'

/-- The letter K for the Kelvin sign, and any other character as it is. -/
def kelvinAsK (c : Char) : Char :=
  if c = '\u212A' then 'K' else c

/-- The character of a code has this code, or is the one for codes without a character. -/
theorem toNat_of_ofNat_eq {n : Nat} {x : Char} (h : Char.ofNat n = x) :
    x = '\x00' ∨ x.toNat = n := by
  by_cases hvalid : n.isValidChar
  · have hchar : Char.ofNat n = Char.ofNatAux n hvalid := dif_pos hvalid
    rw [← h, hchar]
    exact .inr rfl
  · have hnul : Char.ofNat n = '\x00' := dif_neg hvalid
    exact .inl (h.symm.trans hnul)

/-- The rule for ASCII leaves characters beyond ASCII as they are. -/
theorem toLower_of_not_ascii {c : Char} (h : ¬ c.toNat < 0x80) : c.toLower = c := by
  unfold Char.toLower
  refine dif_neg fun hcapital => h ?_
  have hlast : c.toNat ≤ 'Z'.toNat := hcapital.2
  exact Nat.lt_of_le_of_lt hlast (by decide)

/-- Which characters become a small letter of ASCII can be told by the rule for ASCII, with the
Kelvin sign for a K. Beyond ASCII this rests on the table of capitals, which is gone through
once. -/
theorem smallLetter_eq_ascii_iff {x : Char} (hx : isAscii x = true) (c : Char) :
    smallLetter c = x ↔ (kelvinAsK c).toLower = x := by
  obtain ⟨hascii, hnul⟩ := Bool.and_eq_true_iff.1 hx
  have hascii : x.toNat < 0x80 := of_decide_eq_true hascii
  by_cases hkelvin : c = '\u212A'
  · have hsmall : smallLetter '\u212A' = 'k' := by decide
    rw [kelvinAsK, if_pos hkelvin, hkelvin, hsmall]
    rfl
  · rw [kelvinAsK, if_neg hkelvin]
    unfold smallLetter
    split
    · exact Iff.rfl
    · next hc =>
      rw [toLower_of_not_ascii hc]
      refine iff_of_false (fun h => ?_) fun h => hc (h ▸ hascii)
      rcases toNat_of_ofNat_eq h with hx | hn
      · exact bne_iff_ne.1 hnul hx
      · have hcode : c.toNat ≠ 0x212A := fun h => hkelvin (Char.toNat_inj.1 h)
        have hsmall := smallIn_capitalRuns (Nat.le_of_not_lt hc) hcode
        omega

/-- An ASCII character that is no small form of the Kelvin sign is one of ASCII. -/
theorem isAscii_of_isAsciiButK {x : Char} (hx : isAsciiButK x = true) : isAscii x = true :=
  (Bool.and_eq_true_iff.1 hx).1

/-- The Kelvin sign does not count where no letter K is looked for: it is taken for one, and becomes
nothing else. -/
theorem toLower_kelvinAsK_eq_iff {x : Char} (hx : isAsciiButK x = true) (c : Char) :
    (kelvinAsK c).toLower = x ↔ c.toLower = x := by
  by_cases hkelvin : c = '\u212A'
  · subst hkelvin
    have hk : isAsciiButK (kelvinAsK '\u212A').toLower = false := by decide
    have hsign : isAsciiButK '\u212A'.toLower = false := by decide
    refine iff_of_false ?_ ?_
    · rintro rfl
      exact absurd hx (Bool.eq_false_iff.1 hk)
    · rintro rfl
      exact absurd hx (Bool.eq_false_iff.1 hsign)
  · rw [kelvinAsK, if_neg hkelvin]

/-- The Kelvin sign does not count for a word without the letter K, character by character. -/
theorem map_kelvinAsK_eq_iff {word : List Char} (hword : word.all isAsciiButK = true)
    (cs : List Char) :
    cs.map (fun c => (kelvinAsK c).toLower) = word ↔ cs.map Char.toLower = word := by
  induction cs generalizing word with
  | nil => rfl
  | cons c cs ih =>
    cases word with
    | nil => exact iff_of_false nofun nofun
    | cons x word =>
      obtain ⟨hx, hword⟩ := Bool.and_eq_true_iff.1 hword
      rw [List.map_cons, List.map_cons, List.cons.injEq, List.cons.injEq,
        toLower_kelvinAsK_eq_iff hx]
      exact and_congr_right fun _ => ih hword

/-- Which characters become a small letter of ASCII can be told by the rule for ASCII. -/
theorem smallLetter_eq_iff {x : Char} (hx : isAsciiButK x = true) (c : Char) :
    smallLetter c = x ↔ c.toLower = x :=
  (smallLetter_eq_ascii_iff (isAscii_of_isAsciiButK hx) c).trans (toLower_kelvinAsK_eq_iff hx c)

/-- What the first character of a text becomes is a small letter of ASCII exactly when it does by
the rule for ASCII, and then it becomes nothing else. -/
theorem lowercaseFrom_cons {x : Char} (hx : isSmallInAscii x = true) (afterCased : Bool) (c : Char)
    (cs : List Char) : ∃ y ys, lowercaseFrom afterCased (c :: cs) = y :: ys ∧
      (y = x ↔ c.toLower = x) ∧ (y = x → ∃ afterCased', ys = lowercaseFrom afterCased' cs) := by
  have hne {y : Char} (hy : isSmallInAscii y = false) : y ≠ x := by
    intro heq
    rw [heq, hx] at hy
    cases hy
  by_cases hsigma : c = 'Σ'
  · subst hsigma
    rw [lowercaseFrom, if_pos rfl]
    refine ⟨_, _, rfl, iff_of_false ?_ (hne (by decide)), fun _ => ⟨_, rfl⟩⟩
    split <;> exact hne (by decide)
  · by_cases hdotted : c = 'İ'
    · subst hdotted
      rw [lowercaseFrom, if_neg hsigma, smallLetters, if_pos rfl]
      have hi : 'i' ≠ x := hne (by decide)
      exact ⟨_, _, rfl, iff_of_false hi (hne (by decide)), fun h => absurd h hi⟩
    · rw [lowercaseFrom, if_neg hsigma, smallLetters, if_neg hdotted]
      exact ⟨_, _, rfl, smallLetter_eq_iff (Bool.and_eq_true_iff.1 hx).1 c, fun _ => ⟨_, rfl⟩⟩

/-- A text in lower case starts with a word that ASCII letters become exactly when the text starts
with the word in some ASCII case. -/
theorem isPrefixOf_lowercaseFrom {word : List Char} (hword : word.all isSmallInAscii = true)
    (afterCased : Bool) (cs : List Char) :
    word.isPrefixOf (lowercaseFrom afterCased cs) = word.isPrefixOf (cs.map Char.toLower) := by
  induction word generalizing afterCased cs with
  | nil => simp
  | cons x word ih =>
    obtain ⟨hx, hword⟩ := Bool.and_eq_true_iff.1 hword
    cases cs with
    | nil => rfl
    | cons c cs =>
      obtain ⟨y, ys, hlower, hiff, htail⟩ := lowercaseFrom_cons hx afterCased c cs
      rw [hlower, List.map_cons, List.isPrefixOf_cons_cons, List.isPrefixOf_cons_cons]
      by_cases hy : y = x
      · obtain ⟨afterCased', rfl⟩ := htail hy
        rw [hy, hiff.1 hy, ih hword]
      · have hc : c.toLower ≠ x := mt hiff.2 hy
        rw [beq_false_of_ne (Ne.symm hy), beq_false_of_ne (Ne.symm hc), Bool.false_and,
          Bool.false_and]

/-- A text in lower case ends with a character that ASCII letters become exactly when the text does
in some ASCII case. -/
theorem getLast?_lowercaseFrom_eq_iff {x : Char} (hx : isSmallInAscii x = true) (afterCased : Bool)
    (cs : List Char) : (lowercaseFrom afterCased cs).getLast? = some x ↔
      cs.getLast?.map Char.toLower = some x := by
  have hne {y : Char} (hy : isSmallInAscii y = false) : y ≠ x := by
    intro heq
    rw [heq, hx] at hy
    cases hy
  induction cs generalizing afterCased with
  | nil => exact iff_of_false nofun nofun
  | cons c cs ih =>
    cases cs with
    | nil =>
      rw [lowercaseFrom, lowercaseFrom, List.append_nil, List.getLast?_singleton, Option.map_some,
        Option.some_inj]
      by_cases hsigma : c = 'Σ'
      · subst hsigma
        rw [if_pos rfl, List.getLast?_singleton, Option.some_inj]
        refine iff_of_false ?_ (hne (by decide))
        split <;> exact hne (by decide)
      · rw [if_neg hsigma, smallLetters]
        by_cases hdotted : c = 'İ'
        · subst hdotted
          rw [if_pos rfl]
          exact iff_of_false (fun h => hne (by decide) (Option.some_inj.1 h)) (hne (by decide))
        · rw [if_neg hdotted, List.getLast?_singleton, Option.some_inj]
          exact smallLetter_eq_iff (Bool.and_eq_true_iff.1 hx).1 c
    | cons d cs =>
      obtain ⟨y, ys, hrest, -⟩ := lowercaseFrom_cons hx
        (if isCaseIgnorable c then afterCased else isCased c) d cs
      have ih := ih (if isCaseIgnorable c then afterCased else isCased c)
      rw [hrest, List.getLast?_cons] at ih
      rw [lowercaseFrom, hrest, List.getLast?_append, List.getLast?_cons, Option.some_or,
        List.getLast?_cons_cons]
      exact ih

/-- Two texts with characters beyond ASCII are both no word of ASCII. -/
theorem eq_ascii_iff_of_mem {word cs ds : List Char} (hword : word.all isAscii = true) {c d : Char}
    (hc : c ∈ cs) (hd : d ∈ ds) (hbeyond : isAscii c = false) (hbeyond' : isAscii d = false) :
    cs = word ↔ ds = word := by
  refine iff_of_false ?_ ?_
  · rintro rfl
    exact Bool.eq_false_iff.1 hbeyond (List.all_eq_true.1 hword c hc)
  · rintro rfl
    exact Bool.eq_false_iff.1 hbeyond' (List.all_eq_true.1 hword d hd)

/-- A text becomes a word of ASCII exactly when ASCII letters make it the word, with the Kelvin sign
for a K. The capital sigma and the dotted capital I are small letters in ways of their own, but
neither becomes ASCII alone. -/
theorem lowercaseFrom_eq_ascii_iff {word : List Char} (hword : word.all isAscii = true)
    (afterCased : Bool) (cs : List Char) : lowercaseFrom afterCased cs = word ↔
      cs.map (fun c => (kelvinAsK c).toLower) = word := by
  induction cs generalizing afterCased word with
  | nil => rfl
  | cons c cs ih =>
    rw [List.map_cons]
    by_cases hsigma : c = 'Σ'
    · subst hsigma
      have hsmall : ∃ d ∈ lowercaseFrom afterCased ('Σ' :: cs), isAscii d = false := by
        rw [lowercaseFrom, if_pos rfl]
        refine ⟨_, .head _, ?_⟩
        split <;> decide
      obtain ⟨d, hd, hbeyond⟩ := hsmall
      exact eq_ascii_iff_of_mem hword hd (.head _) hbeyond (by decide)
    · by_cases hdotted : c = 'İ'
      · -- The dot is left over when the letter is i.
        subst hdotted
        have hdot : '\u0307' ∈ lowercaseFrom afterCased ('İ' :: cs) := by
          rw [lowercaseFrom, if_neg hsigma, smallLetters, if_pos rfl]
          exact .tail _ (.head _)
        exact eq_ascii_iff_of_mem hword hdot (.head _) (by decide) (by decide)
      · rw [lowercaseFrom, if_neg hsigma, smallLetters, if_neg hdotted, List.singleton_append]
        cases word with
        | nil => exact iff_of_false nofun nofun
        | cons x word =>
          obtain ⟨hx, hword⟩ := Bool.and_eq_true_iff.1 hword
          rw [List.cons.injEq, List.cons.injEq, smallLetter_eq_ascii_iff hx, ih hword]

/-- A text becomes a word of ASCII without the letter K exactly when ASCII letters make it the
word. -/
theorem lowercaseFrom_eq_iff {word : List Char} (hword : word.all isAsciiButK = true)
    (afterCased : Bool) (cs : List Char) :
    lowercaseFrom afterCased cs = word ↔ cs.map Char.toLower = word := by
  have hascii : word.all isAscii = true :=
    List.all_eq_true.2 fun x hx => isAscii_of_isAsciiButK (List.all_eq_true.1 hword x hx)
  rw [lowercaseFrom_eq_ascii_iff hascii, map_kelvinAsK_eq_iff hword]

/-- A text is its own lower case when its characters are. -/
theorem lowercase_eq_self_of_chars {s : String} {cs : List Char} (hs : s = String.ofList cs)
    (hcs : lowercaseFrom false cs = cs) : lowercase s = s := by
  rw [hs, lowercase, String.toList_ofList, hcs]

end Text

end MarkupValues
