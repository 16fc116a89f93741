import MarkupValues.Proofs.Reading.Results
import MarkupValues.Proofs.Text.Caseless
import MarkupValues.Proofs.TimeSpan.Written

/-!
# Spans of time among the words of durations, key times and repetitions

A span is written without letters, so it is none of the words that a duration, a key time or a
repetition may be besides, it is no count of repetitions, and lower case neither makes a span of a
text nor spoils one (`ofText?_lowercase_trim`). So each of the three values is a span exactly where
the text is one, and has its own words everywhere else (`spans_shared`).
-/

namespace MarkupValues

/-! ## Letters and spans -/

namespace TimeSpan

open Text (AllCaseless caseless)

variable {s : String} {span : TimeSpan}

/-- The characters that spans of time are written with have no case. -/
theorem caseless_of_characters {c : Char} (h : characters.contains c = true) :
    caseless.contains c = true := by
  apply CodePoints.of_forall_codes h
  decide

/-- A text that is read as a span has no letters. -/
theorem allCaseless_of_ofText? (h : ofText? s = some span) : AllCaseless s.toList := by
  obtain ⟨w, hshape, -, htext, -⟩ := ofText?_eq_some_iff.1 h
  obtain ⟨pre, post, hpre, hpost, hs⟩ := Text.exists_eq_append_trim s
  have htrim : AllCaseless (Text.trim s).toList := by
    intro c hc
    rw [htext] at hc
    exact caseless_of_characters (Written.allCharacters_text hshape c hc)
  rw [hs]
  refine Text.allCaseless_append.2 ⟨?_, Text.allCaseless_append.2 ⟨htrim, ?_⟩⟩
  · exact fun c hc => Text.caseless_of_isBlank (hpre c hc)
  · exact fun c hc => Text.caseless_of_isBlank (hpost c hc)

/-- White space around a span of time does not matter. -/
theorem ofText?_trim (s : String) : ofText? (Text.trim s) = ofText? s := by
  rw [ofText?_eq_map, ofText?_eq_map, Text.trim_trim]

/-- Neither white space nor capitals matter for a span: what it is written with has no case, and no
other letter becomes it. -/
theorem ofText?_lowercase_trim (s : String) :
    ofText? (Text.lowercase (Text.trim s)) = ofText? s := by
  rw [← ofText?_trim s]
  cases hlower : ofText? (Text.lowercase (Text.trim s)) with
  | some span =>
    rw [Text.lowercase_eq_self_of_caseless (allCaseless_of_ofText? hlower)] at hlower
    exact hlower.symm
  | none =>
    cases htrim : ofText? (Text.trim s) with
    | none => rfl
    | some span =>
      rw [Text.lowercase_of_caseless (allCaseless_of_ofText? htrim), htrim] at hlower
      cases hlower

end TimeSpan

namespace Reading

open Text (AllCaseless caseless isBlank lowercase sameIgnoringCase trim)

variable {source : String} {target : Target} {e : Expr}

/-- A text is read as a span of time exactly when it is one, and then as the call with its ticks. -/
theorem timeSpan_eq_ok_iff : timeSpan source target = .ok e ↔
    ∃ span, TimeSpan.ofText? source = some span ∧
      e = .call .timeSpan [.literal (.long span.ticks)] := by
  constructor
  · exact timeSpan_ok
  · rintro ⟨span, hspan, rfl⟩
    have hread := TimeSpan.ofText_eq_ok_iff.2 hspan
    exact map_eq_ok.2 ⟨span, mapError_eq_ok.2 hread, rfl⟩

/-- A text that is a span has no letters once the white space around it is taken off. -/
theorem allCaseless_of_timeSpan (h : timeSpan source target = .ok e) :
    AllCaseless (trim source).toList := by
  obtain ⟨span, hspan, -⟩ := timeSpan_ok h
  exact TimeSpan.allCaseless_of_ofText? ((TimeSpan.ofText?_trim source).trans hspan)

/-- What is no span is not read as one. -/
theorem not_timeSpan_of_none (h : TimeSpan.ofText? source = none) :
    ¬timeSpan source target = .ok e := by
  intro hok
  obtain ⟨span, hspan, -⟩ := timeSpan_ok hok
  rw [h] at hspan
  cases hspan

/-! ## Durations -/

/-- A duration is one of its words, in any ASCII case, or a span of time. The words are tried first,
which makes no difference since no span of time has letters. -/
theorem duration_eq_ok_iff : duration source target = .ok e ↔
    (∃ word ∈ ["Automatic", "Forever"], sameIgnoringCase word (trim source) = true ∧
      e = .member target.destination word) ∨ timeSpan source target = .ok e := by
  have hnodup : (["Automatic", "Forever"].map Text.foldCase).Nodup := by decide
  constructor
  · intro h
    unfold duration at h
    split at h
    · next word hword =>
      cases h
      obtain ⟨hmem, hsame⟩ := (Text.findSpelling?_eq_some_iff hnodup).1 hword
      exact .inl ⟨word, hmem, hsame, rfl⟩
    · exact .inr h
  · rintro (⟨word, hmem, hsame, rfl⟩ | h)
    · rw [duration, (Text.findSpelling?_eq_some_iff hnodup).2 ⟨hmem, hsame⟩]
    · have hnone : Text.findSpelling? ["Automatic", "Forever"] (trim source) = none := by
        refine List.find?_eq_none.2 fun word hword => ?_
        rw [Bool.not_eq_true]
        refine Text.sameIgnoringCase_of_caseless ?_ (allCaseless_of_timeSpan h)
        have hletters : ∀ word ∈ ["Automatic", "Forever"],
            word.toList.any (fun c => !caseless.contains c.toLower) = true := by
          decide
        exact hletters word hword
      rw [duration, hnone]
      exact h

/-! ## Key times -/

/-- A key time is uniform for one spelling of the word alone, and this word is neither the other one
nor a percentage. -/
theorem KeyTimeForm.of_eq_uniform_iff {value : String} :
    KeyTimeForm.of value = .uniform ↔ value = "Uniform" := by
  constructor
  · intro h
    unfold KeyTimeForm.of at h
    split at h
    · cases h
    · split at h
      · cases h
      · split at h
        · assumption
        · cases h
  · rintro rfl
    decide

/-- No word of key times and no percentage is without letters and other marks, so that a span of
time is taken for one. -/
theorem KeyTimeForm.of_caseless {value : String} (h : AllCaseless value.toList) :
    KeyTimeForm.of value = .span := by
  have hnot {c : Char} (hc : caseless.contains c = false) : c ∉ value.toList := by
    intro hmem
    rw [h c hmem] at hc
    cases hc
  have hpaced : value ≠ "Paced" := by
    rintro rfl
    exact hnot (c := 'P') (by decide) (by decide)
  have hpercentage : value.toList.getLast? ≠ some '%' := by
    intro hlast
    exact hnot (by decide) (List.mem_of_getLast? hlast)
  have huniform : value ≠ "Uniform" := by
    rintro rfl
    exact hnot (c := 'U') (by decide) (by decide)
  rw [KeyTimeForm.of, if_neg hpaced, if_neg hpercentage, if_neg huniform]

/-- A key time is its word, spelled as it is, or a span of time. What is paced or a percentage is no
value, and it is no span of time either. -/
theorem keyTime_eq_ok_iff : keyTime source target = .ok e ↔
    (trim source = "Uniform" ∧ e = .member target.destination "Uniform") ∨
      ∃ span, timeSpan source target = .ok span ∧
        e = .invoke target.destination "FromTimeSpan" [span] := by
  constructor
  · intro h
    unfold keyTime loggedKeyTime at h
    split at h
    · cases h
    · cases h
    · next hform =>
      cases h
      exact .inl ⟨KeyTimeForm.of_eq_uniform_iff.1 hform, rfl⟩
    · obtain ⟨span, hspan, rfl⟩ := map_eq_ok.1 h
      exact .inr ⟨span, hspan, rfl⟩
  · rintro (⟨huniform, rfl⟩ | ⟨span, hspan, rfl⟩)
    · rw [keyTime, loggedKeyTime, KeyTimeForm.of_eq_uniform_iff.2 huniform]
      rfl
    · rw [keyTime, loggedKeyTime, KeyTimeForm.of_caseless (allCaseless_of_timeSpan hspan)]
      exact map_eq_ok.2 ⟨span, hspan, rfl⟩

/-! ## Repetitions -/

/-- Whether a text is a decimal number, white space or none, and an x in either letter case. -/
def IsRepetition (count value : String) : Prop :=
  Numeric.isDecimal count = true ∧ ∃ blanks x, (∀ c ∈ blanks, isBlank c = true) ∧
    (x = 'x' ∨ x = 'X') ∧ value.toList = count.toList ++ blanks ++ [x]

/-- Two characters have the small form x by the rule for ASCII. -/
theorem toLower_eq_x_iff {c : Char} : c.toLower = 'x' ↔ c = 'x' ∨ c = 'X' := by
  constructor
  · intro h
    by_cases hcapital : 0x41 ≤ c.toNat ∧ c.toNat ≤ 0x5A
    · right
      revert h
      apply CodePoints.of_forall_range' hcapital.1 hcapital.2
      decide
    · have hsame : c.toLower = c := dif_neg hcapital
      exact .inl (hsame ▸ h)
  · rintro (rfl | rfl) <;> decide

/-- A text becomes the word `forever` in lower case exactly when it is the word in some ASCII
case. -/
theorem lowercase_eq_forever_iff {value : String} :
    lowercase value = "forever" ↔ sameIgnoringCase "Forever" value = true :=
  Text.lowercase_eq_iff (by decide) (by decide) value

/-- White space after a decimal number is what is taken off its end, and none of the number is. -/
theorem trimEnd_isDecimal {count : String} {blanks : List Char}
    (h : Numeric.isDecimal count = true) (hblanks : ∀ c ∈ blanks, isBlank c = true) :
    Text.trimEnd (String.ofList (count.toList ++ blanks)) = count := by
  obtain ⟨front, last, hcount, hlast⟩ := Numeric.exists_append_of_isDecimalChars h
  have hstops : Text.Stops isBlank count.toList.reverse := by
    rw [hcount, List.reverse_append, List.reverse_singleton, List.singleton_append, Text.stops_cons]
    have hdigits : Text.isDigits [last] = true := by simpa [Text.isDigits] using hlast
    exact TimeSpan.isBlank_of_characters (TimeSpan.allCharacters_of_isDigits hdigits last (.head _))
  rw [Text.trimEnd, String.toList_ofList, Text.dropBlankEnd_append_blanks hblanks,
    Text.dropBlankEnd, Text.dropWhile_of_stops hstops, List.reverse_reverse, String.ofList_toList]

/-- A count of repetitions in lower case is the same count, the same white space and a small x. -/
theorem toList_lowercase_of_isRepetition {count value : String} (h : IsRepetition count value) :
    ∃ blanks, (∀ c ∈ blanks, isBlank c = true) ∧
      (lowercase value).toList = count.toList ++ blanks ++ ['x'] := by
  obtain ⟨hcount, blanks, x, hblanks, hx, hvalue⟩ := h
  have hcaseless : AllCaseless (count.toList ++ blanks) :=
    Text.allCaseless_append.2 ⟨Numeric.allCaseless_of_isDecimalChars hcount,
      fun c hc => Text.caseless_of_isBlank (hblanks c hc)⟩
  have hlower : ∀ afterCased, Text.lowercaseFrom afterCased [x] = ['x'] := by
    intro afterCased
    rw [Text.lowercaseFrom_eq_iff (by decide), List.map_singleton, toLower_eq_x_iff.2 hx]
  refine ⟨blanks, hblanks, ?_⟩
  rw [lowercase, String.toList_ofList, hvalue, Text.lowercaseFrom_caseless_append hcaseless, hlower]

/-- What ends with an x in lower case, after a number and white space, is a count of repetitions:
the x is made of an x in either letter case, and the rest has no letters. -/
theorem isRepetition_of_lowercase {value : String} {front : List Char}
    (hlower : (lowercase value).toList = front ++ ['x'])
    (hcount : Numeric.isDecimal (Text.trimEnd (String.ofList front)) = true) :
    IsRepetition (Text.trimEnd (String.ofList front)) value := by
  obtain ⟨blanks, hblanks, hfront⟩ : ∃ blanks, (∀ c ∈ blanks, isBlank c = true) ∧
      front = (Text.trimEnd (String.ofList front)).toList ++ blanks := by
    refine ⟨(front.reverse.takeWhile isBlank).reverse, fun c hc => ?_, ?_⟩
    · exact List.all_eq_true.1 List.all_takeWhile c (List.mem_reverse.1 hc)
    · rw [Text.trimEnd, String.toList_ofList, String.toList_ofList, Text.dropBlankEnd,
        ← List.reverse_append, List.takeWhile_append_dropWhile, List.reverse_reverse]
  have hcaseless : AllCaseless front := by
    rw [hfront]
    exact Text.allCaseless_append.2 ⟨Numeric.allCaseless_of_isDecimalChars hcount,
      fun c hc => Text.caseless_of_isBlank (hblanks c hc)⟩
  rw [lowercase, String.toList_ofList] at hlower
  obtain ⟨afterCased, rest, hvalue, hrest⟩ := Text.exists_of_lowercaseFrom_append hcaseless hlower
  rw [Text.lowercaseFrom_eq_iff (by decide), List.map_eq_singleton_iff] at hrest
  obtain ⟨x, rfl, hx⟩ := hrest
  exact ⟨hcount, blanks, x, hblanks, toLower_eq_x_iff.1 hx, by rw [hvalue, ← hfront]⟩

/-- A repetition is its word, a count or a span of time. The three exclude each other, as the word
and the count have letters. -/
theorem repeatBehavior_eq_ok_iff : repeatBehavior source target = .ok e ↔
    (sameIgnoringCase "Forever" (trim source) = true ∧ e = .member target.destination "Forever") ∨
      (∃ count, IsRepetition count (trim source) ∧ e = .call target.destination [.raw count]) ∨
      timeSpan source target = .ok e := by
  have hspan : timeSpan (lowercase (trim source)) target = .ok e ↔
      timeSpan source target = .ok e := by
    rw [timeSpan_eq_ok_iff, timeSpan_eq_ok_iff, TimeSpan.ofText?_lowercase_trim]
  constructor
  · intro h
    unfold repeatBehavior at h
    dsimp only at h
    split at h
    · next hforever =>
      cases h
      exact .inl ⟨lowercase_eq_forever_iff.1 hforever, rfl⟩
    · split at h
      · next hlast =>
        obtain ⟨front, hfront⟩ := List.getLast?_eq_some_iff.1 hlast
        rw [hfront, List.dropLast_concat] at h
        split at h
        · next hcount =>
          cases h
          exact .inr (.inl ⟨_, isRepetition_of_lowercase hfront hcount, rfl⟩)
        · cases h
      · exact .inr (.inr (hspan.1 (mapError_eq_ok.1 h)))
  · rintro (⟨hforever, rfl⟩ | ⟨count, hcount, rfl⟩ | h)
    · unfold repeatBehavior
      dsimp only
      rw [if_pos (lowercase_eq_forever_iff.2 hforever)]
    · obtain ⟨blanks, hblanks, hlower⟩ := toList_lowercase_of_isRepetition hcount
      have hlast : (lowercase (trim source)).toList.getLast? = some 'x' := by
        rw [hlower, List.getLast?_concat]
      have hforever : lowercase (trim source) ≠ "forever" := by
        intro heq
        rw [heq] at hlast
        exact absurd hlast (by decide)
      unfold repeatBehavior
      dsimp only
      rw [if_neg hforever, if_pos hlast, hlower, List.dropLast_concat,
        trimEnd_isDecimal hcount.1 hblanks, if_pos hcount.1]
    · have hcaseless := allCaseless_of_timeSpan h
      have hforever : lowercase (trim source) ≠ "forever" := by
        rw [Ne, lowercase_eq_forever_iff, Bool.not_eq_true]
        exact Text.sameIgnoringCase_of_caseless (by decide) hcaseless
      have hlast : (lowercase (trim source)).toList.getLast? ≠ some 'x' := by
        rw [Text.lowercase_of_caseless hcaseless]
        intro hx
        have hcase := hcaseless 'x' (List.mem_of_getLast? hx)
        revert hcase
        decide
      unfold repeatBehavior
      dsimp only
      rw [if_neg hforever, if_neg hlast]
      exact mapError_eq_ok.2 (hspan.2 h)

/-! ## The three together -/

/-- A text that is a span is that span as a duration, as a repetition and, through `FromTimeSpan`,
as a key time. A text that is none is a duration exactly in the words `Automatic` and `Forever`, a
key time in the word `Uniform`, and a repetition in the word `Forever` or as a count. -/
theorem spans_shared (source : String) :
    (∀ span, TimeSpan.ofText? source = some span → ∀ target : Target,
      duration source target = .ok (.call .timeSpan [.literal (.long span.ticks)]) ∧
      repeatBehavior source target = .ok (.call .timeSpan [.literal (.long span.ticks)]) ∧
      keyTime source target = .ok (.invoke target.destination "FromTimeSpan"
        [.call .timeSpan [.literal (.long span.ticks)]])) ∧
    (TimeSpan.ofText? source = none → ∀ (target : Target) (e : Expr),
      (duration source target = .ok e ↔ ∃ word ∈ ["Automatic", "Forever"],
        sameIgnoringCase word (trim source) = true ∧ e = .member target.destination word) ∧
      (keyTime source target = .ok e ↔
        trim source = "Uniform" ∧ e = .member target.destination "Uniform") ∧
      (repeatBehavior source target = .ok e ↔
        (sameIgnoringCase "Forever" (trim source) = true ∧
          e = .member target.destination "Forever") ∨
        ∃ count, IsRepetition count (trim source) ∧
          e = .call target.destination [.raw count])) := by
  constructor
  · intro span hspan target
    have hok : timeSpan source target = .ok (.call .timeSpan [.literal (.long span.ticks)]) :=
      timeSpan_eq_ok_iff.2 ⟨span, hspan, rfl⟩
    exact ⟨duration_eq_ok_iff.2 (.inr hok), repeatBehavior_eq_ok_iff.2 (.inr (.inr hok)),
      keyTime_eq_ok_iff.2 (.inr ⟨_, hok, rfl⟩)⟩
  · intro hnone target e
    have hnot (e : Expr) : ¬timeSpan source target = .ok e := not_timeSpan_of_none hnone
    refine ⟨?_, ?_, ?_⟩
    · rw [duration_eq_ok_iff, or_iff_left (hnot e)]
    · rw [keyTime_eq_ok_iff, or_iff_left]
      rintro ⟨span, hok, -⟩
      exact hnot span hok
    · rw [repeatBehavior_eq_ok_iff, or_iff_left (hnot e)]

/-- A key time of two hours in white space, and two and a half repetitions. -/
theorem spans_shared_hours_and_count :
    keyTime " 02:00 " ⟨⟨"KeyTime"⟩, []⟩ =
        .ok (.invoke ⟨"KeyTime"⟩ "FromTimeSpan" [.call .timeSpan [.literal (.long 72000000000)]]) ∧
      repeatBehavior "2.5 X" ⟨⟨"RepeatBehavior"⟩, []⟩ =
        .ok (.call ⟨"RepeatBehavior"⟩ [.raw "2.5"]) := by
  constructor
  · exact ((spans_shared _).1 ⟨72000000000⟩ (by decide) _).2.2
  · refine (((spans_shared _).2 (by decide) _ _).2.2).2 (.inr ⟨"2.5", ⟨by decide, ?_⟩, rfl⟩)
    exact ⟨[' '], 'X', List.forall_mem_singleton.2 (by decide), .inr rfl, by decide⟩

end Reading

end MarkupValues
