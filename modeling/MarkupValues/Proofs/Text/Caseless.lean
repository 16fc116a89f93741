import MarkupValues.Proofs.Text.Spelling

/-!
# Characters without case

White space, digits and the marks of numbers and clock readings are small forms of themselves and of
no other character (`eq_of_smallLetter`). So what a text has of them before anything else stays the
same in lower case (`lowercaseFrom_caseless_append`), and nothing else becomes such a start
(`exists_of_lowercaseFrom_append`, `prefix_lowercase_iff`).
-/

namespace MarkupValues.Text

/-- White space, digits, and the minus sign, the point and the colon: the characters of this
library's numbers and spans that have no case. -/
def caseless : CodePoints where
  ranges := [(0x9, 0xD), (0x20, 0x20), (0x2D, 0x2E), (0x30, 0x3A), (0x85, 0x85), (0xA0, 0xA0),
    (0x1680, 0x1680), (0x2000, 0x200A), (0x2028, 0x2029), (0x202F, 0x202F), (0x205F, 0x205F),
    (0x3000, 0x3000)]

/-- Whether every character is white space, a digit or one of these marks. -/
def AllCaseless (cs : List Char) : Prop :=
  ∀ c ∈ cs, caseless.contains c = true

section
variable {c : Char} {cs ds : List Char}

/-- Two texts one after the other have no case exactly when neither has. -/
theorem allCaseless_append : AllCaseless (cs ++ ds) ↔ AllCaseless cs ∧ AllCaseless ds :=
  List.forall_mem_append

/-- White space has no case. -/
theorem caseless_of_isBlank (h : isBlank c = true) : caseless.contains c = true := by
  apply CodePoints.of_forall_codes h
  decide

/-- Digits have no case. -/
theorem caseless_of_isDigit (h : c.isDigit = true) : caseless.contains c = true := by
  have hrange : 0x30 ≤ c.toNat ∧ c.toNat ≤ 0x39 := Char.isDigit_iff_toNat.1 h
  apply CodePoints.of_forall_range' hrange.1 hrange.2
  decide

/-! ## Small forms -/

/-- A character without case is its own small form, which is checked for each of them. -/
theorem smallLetters_of_caseless (h : caseless.contains c = true) :
    c ≠ 'Σ' ∧ smallLetters c = [c] := by
  have hcases : isBlank c = true ∨ 0x2D ≤ c.toNat ∧ c.toNat ≤ 0x3A := by
    apply CodePoints.of_forall_codes h
    decide
  rcases hcases with hblank | ⟨hfirst, hlast⟩
  · obtain ⟨hsigma, hsmall, -, -⟩ := lowercase_of_isBlank hblank
    exact ⟨hsigma, hsmall⟩
  · apply CodePoints.of_forall_range' hfirst hlast
    decide

/-- Neither the capitals of ASCII nor their small forms are without case, so that the rule for ASCII
leaves alone what has none. -/
theorem toLower_eq_self (h : caseless.contains c = true ∨ caseless.contains c.toLower = true) :
    c.toLower = c := by
  by_cases hcapital : 0x41 ≤ c.toNat ∧ c.toNat ≤ 0x5A
  · have hc : caseless.contains c = false ∧ caseless.contains c.toLower = false := by
      apply CodePoints.of_forall_range' hcapital.1 hcapital.2
      decide
    rcases h with h | h
    · rw [h] at hc
      cases hc.1
    · rw [h] at hc
      cases hc.2
  · exact dif_neg hcapital

/-- A character without case is the small form of no other character, so that nothing else is taken
for it in lower case. -/
theorem eq_of_smallLetter (h : caseless.contains (smallLetter c) = true) : smallLetter c = c := by
  unfold smallLetter at h ⊢
  split
  · next hascii =>
    rw [if_pos hascii] at h
    exact toLower_eq_self (.inr h)
  · next hascii =>
    rw [if_neg hascii] at h
    rcases smallIn_eq c.toNat capitalRuns with heq | ⟨run, hrun, hfirst, hlast, heq⟩
    · rw [heq, Char.ofNat_toNat]
    · exfalso
      -- No run of capitals has small letters among the characters without case.
      have hruns : ∀ run ∈ capitalRuns, ∀ range ∈ caseless.ranges,
          range.2 < run.image ∨ run.image + (run.last - run.first) < range.1 := by
        decide +kernel
      obtain ⟨range, hrange, hlow, hhigh⟩ := CodePoints.exists_range_of_inRanges h
      rcases toNat_of_ofNat_eq (rfl : Char.ofNat (smallIn c.toNat capitalRuns) = _) with
        hnul | hcode
      · rw [hnul] at h
        cases h
      · have hdisjoint := hruns run hrun range hrange
        omega

/-! ## Lower case of a text -/

/-- Characters without case stay as they are, whatever follows them. -/
theorem lowercaseFrom_caseless_append (h : AllCaseless ds) (afterCased : Bool) (cs : List Char) :
    lowercaseFrom afterCased (ds ++ cs) = ds ++ lowercaseFrom (endsCased afterCased ds) cs := by
  have hsigma : 'Σ' ∉ ds := fun hmem => (smallLetters_of_caseless (h _ hmem)).1 rfl
  have hsmall : ds.flatMap smallLetters = ds := by
    rw [List.flatMap_congr fun c hc => (smallLetters_of_caseless (h c hc)).2]
    exact List.flatMap_singleton' ds
  rw [lowercaseFrom_word_append hsigma, hsmall]

/-- A text of characters without case is its own lower case. -/
theorem lowercase_of_caseless {s : String} (h : AllCaseless s.toList) : lowercase s = s := by
  have hchars := lowercaseFrom_caseless_append h false []
  rw [List.append_nil, lowercaseFrom, List.append_nil] at hchars
  rw [lowercase, hchars, String.ofList_toList]

/-- No character is without a small form, so that only the empty text becomes the empty text. -/
theorem eq_nil_of_lowercaseFrom {afterCased : Bool} (h : lowercaseFrom afterCased cs = []) :
    cs = [] := by
  cases cs with
  | nil => rfl
  | cons c cs =>
    obtain ⟨y, ys, hcons, -⟩ := lowercaseFrom_cons (x := 'a') (by decide) afterCased c cs
    rw [hcons] at h
    cases h

/-- Characters without case that come first in lower case come first in the text, and what is left
of the text becomes what is left. -/
theorem exists_of_lowercaseFrom_append {afterCased : Bool} {rest : List Char} (h : AllCaseless ds)
    (heq : lowercaseFrom afterCased cs = ds ++ rest) :
    ∃ afterCased' cs', cs = ds ++ cs' ∧ lowercaseFrom afterCased' cs' = rest := by
  induction ds generalizing afterCased cs with
  | nil => exact ⟨afterCased, cs, rfl, heq⟩
  | cons y ds ih =>
    obtain ⟨hy, hds⟩ := List.forall_mem_cons.1 h
    cases cs with
    | nil => cases heq
    | cons c cs =>
      have hne {x : Char} (hx : caseless.contains x = false) : x ≠ y := by
        intro hxy
        rw [hxy, hy] at hx
        cases hx
      rw [lowercaseFrom] at heq
      split at heq
      · -- A sigma has a small form with case.
        refine absurd (List.cons.inj heq).1 (hne ?_)
        split <;> decide
      · unfold smallLetters at heq
        split at heq
        · exact absurd (List.cons.inj heq).1 (hne (by decide))
        · obtain ⟨hc, hrest⟩ := List.cons.inj heq
          have hself : smallLetter c = c := eq_of_smallLetter (hc ▸ hy)
          obtain ⟨afterCased', cs', hcs, hlower⟩ := ih hds hrest
          exact ⟨afterCased', cs', by rw [← hc, hself, hcs, List.cons_append], hlower⟩

/-- The same texts of characters without case start a text and its lower case. -/
theorem prefix_lowercase_iff {s : String} (h : AllCaseless ds) :
    ds <+: (lowercase s).toList ↔ ds <+: s.toList := by
  rw [lowercase, String.toList_ofList]
  constructor
  · rintro ⟨rest, hrest⟩
    obtain ⟨afterCased, cs, hs, -⟩ := exists_of_lowercaseFrom_append h hrest.symm
    exact ⟨cs, hs.symm⟩
  · rintro ⟨rest, hrest⟩
    rw [← hrest, lowercaseFrom_caseless_append h]
    exact List.prefix_append _ _

/-- A text is its own lower case when this is made of characters without case. -/
theorem lowercase_eq_self_of_caseless {s : String} (h : AllCaseless (lowercase s).toList) :
    lowercase s = s := by
  have hlower : lowercaseFrom false s.toList = (lowercase s).toList ++ [] := by
    rw [lowercase, String.toList_ofList, List.append_nil]
  obtain ⟨afterCased, rest, hs, hrest⟩ := exists_of_lowercaseFrom_append h hlower
  rw [eq_nil_of_lowercaseFrom hrest, List.append_nil] at hs
  rw [← String.toList_inj, hs]

/-- A word with letters is in no ASCII case a text without any, so that no span of time and no
number is a keyword. -/
theorem sameIgnoringCase_of_caseless {word s : String}
    (hword : word.toList.any (fun c => !caseless.contains c.toLower) = true)
    (h : AllCaseless s.toList) : sameIgnoringCase word s = false := by
  refine Bool.eq_false_iff.2 fun hsame => ?_
  have hself : s.toList.map Char.toLower = s.toList := by
    rw [List.map_congr_left fun c hc => toLower_eq_self (.inl (h c hc))]
    exact List.map_id _
  obtain ⟨c, hc, hcase⟩ := List.any_eq_true.1 hword
  have hmem : c.toLower ∈ s.toList := by
    rw [← hself, ← beq_iff_eq.1 hsame]
    exact List.mem_map_of_mem hc
  rw [h _ hmem] at hcase
  cases hcase

/-! ## White space around a text -/

/-- A text without white space has none around it. -/
theorem trim_of_forall {s : String} (h : ∀ c ∈ s.toList, isBlank c = false) : trim s = s := by
  have hstops {cs : List Char} (hcs : ∀ c ∈ cs, isBlank c = false) : Stops isBlank cs := by
    intro c hc
    exact hcs c (List.mem_of_mem_head? hc)
  have hend : Stops isBlank s.toList.reverse := hstops fun c hc => h c (List.mem_reverse.1 hc)
  rw [trim, dropWhile_of_stops (hstops h), dropBlankEnd, dropWhile_of_stops hend,
    List.reverse_reverse, String.ofList_toList]

/-- White space is taken off a text once: taking it off again changes nothing. -/
theorem trim_trim (s : String) : trim (trim s) = trim s := by
  obtain ⟨pre, post, hpre, hpost, hs⟩ := exists_eq_append_trim s
  have happend : s = String.ofList pre ++ trim s ++ String.ofList post := by
    rw [← String.toList_inj, hs]
    simp
  have hpre' : ∀ c ∈ (String.ofList pre).toList, isBlank c = true := by simpa using hpre
  have hpost' : ∀ c ∈ (String.ofList post).toList, isBlank c = true := by simpa using hpost
  have htrim := trim_append_blanks hpre' hpost' (trim s)
  rw [← happend] at htrim
  exact htrim.symm

end

end MarkupValues.Text
