import MarkupValues.Proofs.Reading.Failures
import MarkupValues.Proofs.Reading.Timing
import MarkupValues.Proofs.Text.Spelling

/-!
# Keywords

Keywords are compared in ASCII case, or else in lower case by the rules for all letters. A word in
which there is no letter K is the same texts either way, so that the two ways differ in one keyword
alone: a text decoration may be `Strikethrough` with a Kelvin sign in it (`keywords_recognised`).
-/

namespace MarkupValues.Reading

open Text (foldCase lowercase sameIgnoringCase trim withLatinK)

variable {source : String} {target : Target} {type : TypeName} {e : Expr}

/-- Whether a reading gives the values of a table, each for the texts that are its keyword in some
ASCII case, and nothing else: what is read is the value of a row whose keyword the text is. -/
def ReadsKeywords (table : List (String × Expr)) (text : String) (outcome : Reading) : Prop :=
  ∀ e, outcome = .ok e ↔ ∃ row ∈ table, sameIgnoringCase row.1 text = true ∧ e = row.2

/-! ## Words besides other forms -/

/-- A duration that is a member is one of the words, for a span of time is a call. -/
theorem duration_eq_member_iff {owner : TypeName} {name : String} :
    duration source target = .ok (.member owner name) ↔
      ∃ word ∈ ["Automatic", "Forever"], sameIgnoringCase word (trim source) = true ∧
        Expr.member owner name = .member target.destination word := by
  rw [duration_eq_ok_iff, or_iff_left]
  intro hspan
  obtain ⟨span, -, hcall⟩ := timeSpan_ok hspan
  cases hcall

/-- A repetition that is a member is the word `Forever`, for a count and a span of time are
calls. -/
theorem repeatBehavior_eq_member_iff {owner : TypeName} {name : String} :
    repeatBehavior source target = .ok (.member owner name) ↔
      sameIgnoringCase "Forever" (trim source) = true ∧
        Expr.member owner name = .member target.destination "Forever" := by
  rw [repeatBehavior_eq_ok_iff, or_iff_left]
  rintro (⟨count, -, hcall⟩ | hspan)
  · cases hcall
  · obtain ⟨span, -, hcall⟩ := timeSpan_ok hspan
    cases hcall

/-- No number has the unit of the word, and the word has no amount but one. -/
theorem amountAndUnit_auto_iff {value : String} {amount : Expr} :
    amountAndUnit value = (amount, "Auto") ↔
      value = "auto" ∧ amount = .literal (.double "1") := by
  have hunits : "Star" ≠ "Auto" ∧ "Pixel" ≠ "Auto" := by decide
  unfold amountAndUnit
  split
  · next hauto => simp [hauto, eq_comm]
  · next hauto =>
    split <;> simp [hauto]

/-- A grid length of the automatic unit is the word, in any ASCII case. -/
theorem gridLength_eq_auto_iff (htype : target.companion? 0 = some type) {amount : Expr} :
    gridLength source target = .ok (.call target.destination [amount, .member type "Auto"]) ↔
      sameIgnoringCase "Auto" (trim source) = true ∧ amount = .literal (.double "1") := by
  have hauto : lowercase (trim source) = "auto" ↔ sameIgnoringCase "Auto" (trim source) = true :=
    Text.lowercase_eq_iff (by decide) (by decide) (trim source)
  rw [gridLength_of_companion htype, ← hauto, ← amountAndUnit_auto_iff, Prod.ext_iff]
  simp [Expr.call]

/-! ## Words of tables -/

/-- A member that a text names is the one of companion 0 with the name that is found, for any table
to look the name up in. -/
theorem memberNamed_eq_ok_iff {kind : NameKind} {find? : String → Option String}
    (htype : target.companion? 0 = some type) :
    memberNamed kind find? source target = .ok e ↔
      ∃ name, find? (trim source) = some name ∧ e = .member type name := by
  constructor
  · intro h
    obtain ⟨owner, name, howner, hname, rfl⟩ := memberNamed_ok h
    cases htype.symm.trans howner
    exact ⟨name, hname, rfl⟩
  · rintro ⟨name, hname, rfl⟩
    refine bind_eq_ok.2 ⟨type, requireCompanion_eq_ok.2 htype, ?_⟩
    dsimp only
    rw [hname]
    rfl

/-- The members of a type by their names, each spelled as it is given. -/
def members (type : TypeName) (names : List String) : List (String × Expr) :=
  names.map fun name => (name, .member type name)

/-- Styles are the members of companion 0 for their names, and no other text is a style. -/
theorem fontStyle_readsKeywords (htype : target.companion? 0 = some type) :
    ReadsKeywords (members type ["Normal", "Oblique", "Italic"]) (trim source)
      (fontStyle source target) := by
  have hnodup : (["Normal", "Oblique", "Italic"].map foldCase).Nodup := by decide
  intro e
  rw [fontStyle, memberNamed_eq_ok_iff htype]
  constructor
  · rintro ⟨style, hstyle, rfl⟩
    obtain ⟨hmem, hsame⟩ := (Text.findSpelling?_eq_some_iff hnodup).1 hstyle
    exact ⟨_, List.mem_map_of_mem hmem, hsame, rfl⟩
  · rintro ⟨row, hrow, hsame, rfl⟩
    obtain ⟨style, hmem, rfl⟩ := List.mem_map.1 hrow
    exact ⟨style, (Text.findSpelling?_eq_some_iff hnodup).2 ⟨hmem, hsame⟩, rfl⟩

/-- The one kind of cache is built of companion 0 for its name, and no other text is a cache mode.
The name may be in any ASCII case. -/
theorem cacheMode_readsKeywords (htype : target.companion? 0 = some type) :
    ReadsKeywords [("BitmapCache", .call type [])] (trim source) (cacheMode source target) := by
  have hsame : sameIgnoringCase (trim source) "BitmapCache" =
      sameIgnoringCase "BitmapCache" (trim source) := Bool.beq_comm
  intro e
  rw [cacheMode, hsame, requireCompanion_eq_ok.2 htype]
  by_cases h : sameIgnoringCase "BitmapCache" (trim source) = true
  · rw [if_pos h]
    constructor
    · intro hok
      cases hok
      exact ⟨_, .head _, h, rfl⟩
    · rintro ⟨row, hrow, -, rfl⟩
      cases List.mem_singleton.1 hrow
      rfl
  · rw [if_neg h]
    refine iff_of_false nofun ?_
    rintro ⟨row, hrow, hsame, -⟩
    cases List.mem_singleton.1 hrow
    exact h hsame

/-! ## Decorations -/

/-- The text decorations by their names; the last is none, and stands for the null reference. -/
def decorations (type : TypeName) : List (String × Expr) :=
  members type ["Underline", "Strikethrough", "OverLine"] ++ [("None", .null)]

section
variable {α β : Type} [BEq α] [LawfulBEq α]

/-- With no key twice, what is found under a key is what a table has there. -/
theorem lookup_eq_some_iff_of_nodup {table : List (α × β)} (h : (table.map Prod.fst).Nodup)
    {key : α} {value : β} : table.lookup key = some value ↔ (key, value) ∈ table := by
  constructor
  · intro hlookup
    obtain ⟨front, back, rfl, -⟩ := List.lookup_eq_some_iff.1 hlookup
    exact List.mem_append_right front (.head back)
  · intro hmem
    obtain ⟨front, back, rfl⟩ := List.append_of_mem hmem
    refine List.lookup_eq_some_iff.2 ⟨front, back, rfl, fun row hrow => ?_⟩
    rw [List.map_append, List.nodup_append] at h
    exact bne_iff_ne.2 (Ne.symm (h.2.2 _ (List.mem_map_of_mem hrow) key (.head _)))

end

/-- The value of a name of the table of decorations: a member of the type, or the null reference for
the name that stands for none. -/
def decorationOf (type : TypeName) : Option String → Expr
  | some name => .member type name
  | none => .null

/-- The table that the reader looks into has the names of the decorations in lower case. -/
theorem map_textDecorationNames (type : TypeName) :
    textDecorationNames.map (fun row => (row.1, decorationOf type row.2)) =
      (decorations type).map fun row => (foldCase row.1, row.2) := by
  have hnames : foldCase "Underline" = "underline" ∧ foldCase "Strikethrough" = "strikethrough" ∧
      foldCase "OverLine" = "overline" ∧ foldCase "None" = "none" := by
    decide
  simp [textDecorationNames, decorations, members, decorationOf, hnames]

/-- A decoration is what the table has for the lower case of the text, without the white space
around it. -/
theorem textDecorations_eq_ok_iff_lookup (htype : target.companion? 0 = some type) :
    textDecorations source target = .ok e ↔
      ∃ name, textDecorationNames.lookup (lowercase (trim source)) = some name ∧
        decorationOf type name = e := by
  rw [textDecorations, requireCompanion_eq_ok.2 htype]
  generalize textDecorationNames.lookup (lowercase (trim source)) = found
  rcases found with _ | _ | name
  · exact iff_of_false nofun nofun
  · show Except.ok Expr.null = .ok e ↔ _
    simp [decorationOf]
  · show Except.ok (Expr.member type name) = .ok e ↔ _
    simp [decorationOf]

/-- A decoration is found by its name in lower case, by the rules for all letters. Which texts these
are, the lemmas below say by the rule for ASCII. -/
theorem textDecorations_eq_ok_iff (htype : target.companion? 0 = some type) :
    textDecorations source target = .ok e ↔
      ∃ row ∈ decorations type, lowercase (trim source) = foldCase row.1 ∧ e = row.2 := by
  have hnodup : (textDecorationNames.map Prod.fst).Nodup := by decide
  rw [textDecorations_eq_ok_iff_lookup htype]
  calc (∃ name, textDecorationNames.lookup (lowercase (trim source)) = some name ∧
        decorationOf type name = e)
    _ ↔ (lowercase (trim source), e) ∈
        textDecorationNames.map fun row => (row.1, decorationOf type row.2) := by
      simp [lookup_eq_some_iff_of_nodup hnodup, List.mem_map]
    _ ↔ (lowercase (trim source), e) ∈
        (decorations type).map fun row => (foldCase row.1, row.2) := by
      rw [map_textDecorationNames]
    _ ↔ ∃ row ∈ decorations type, lowercase (trim source) = foldCase row.1 ∧ e = row.2 := by
      simp only [List.mem_map, Prod.mk.injEq, eq_comm]

/-! ## Kelvin signs -/

/-- The names of decorations are words of ASCII, and only one has a letter K. -/
theorem decorationNames_letters : ∀ word ∈ ["Underline", "Strikethrough", "OverLine", "None"],
    (foldCase word).toList.all Text.isAscii = true ∧
      ((foldCase word).toList.all Text.isAsciiButK = true ∨ word = "Strikethrough") := by
  decide

/-- The names of the decorations are these four. -/
theorem mem_decorationNames {row : String × Expr} (h : row ∈ decorations type) :
    row.1 ∈ ["Underline", "Strikethrough", "OverLine", "None"] :=
  List.mem_map_of_mem (f := Prod.fst) h

/-- Whether a text is the one keyword with a letter K, with a Kelvin sign for the letter. The small
form of the sign is the small letter K, though the sign is none of ASCII. -/
def HasKelvinSign (text : String) : Prop :=
  '\u212A' ∈ text.toList ∧ sameIgnoringCase "Strikethrough" (withLatinK text) = true

/-- A name of a decoration is told by the letters of ASCII, but for the Kelvin sign: the sign
matters only in the one name that has a letter K. -/
theorem sameIgnoringCase_withLatinK {word text : String}
    (hword : word ∈ ["Underline", "Strikethrough", "OverLine", "None"])
    (hkelvin : ¬HasKelvinSign text) :
    sameIgnoringCase word (withLatinK text) = true ↔ sameIgnoringCase word text = true := by
  obtain ⟨hascii, hk | rfl⟩ := decorationNames_letters word hword
  · exact (Text.lowercase_eq_ascii_iff rfl hascii text).symm.trans
      (Text.lowercase_eq_iff rfl hk text)
  · by_cases hsign : '\u212A' ∈ text.toList
    · refine iff_of_false (fun h => hkelvin ⟨hsign, h⟩) fun h => ?_
      have hletter := Text.isAscii_toLower_of_sameIgnoringCase rfl hascii h _ hsign
      exact absurd hletter (by decide)
    · rw [Text.withLatinK_eq_self hsign]

/-- Once every Kelvin sign is taken for a letter K, text decorations are told as the other keywords
are. -/
theorem textDecorations_readsKeywords (htype : target.companion? 0 = some type) :
    ReadsKeywords (decorations type) (withLatinK (trim source))
      (textDecorations source target) := by
  intro e
  rw [textDecorations_eq_ok_iff htype]
  refine exists_congr fun row => and_congr_right fun hrow => and_congr_left fun _ => ?_
  obtain ⟨hascii, -⟩ := decorationNames_letters row.1 (mem_decorationNames hrow)
  exact Text.lowercase_eq_ascii_iff rfl hascii _

/-- The names of decorations are told as the other keywords are exactly when there is no Kelvin sign
in place of the letter K. -/
theorem textDecorations_readsKeywords_iff (htype : target.companion? 0 = some type) :
    ReadsKeywords (decorations type) (trim source) (textDecorations source target) ↔
      ¬HasKelvinSign (trim source) := by
  have hreads : ReadsKeywords (decorations type) (withLatinK (trim source))
      (textDecorations source target) := textDecorations_readsKeywords htype
  constructor
  · rintro hclaim ⟨hsign, hsame⟩
    have hok := (hreads (.member type "Strikethrough")).2 ⟨_, .tail _ (.head _), hsame, rfl⟩
    obtain ⟨row, hrow, hword, -⟩ := (hclaim _).1 hok
    obtain ⟨hascii, -⟩ := decorationNames_letters row.1 (mem_decorationNames hrow)
    have hletter := Text.isAscii_toLower_of_sameIgnoringCase rfl hascii hword _ hsign
    exact absurd hletter (by decide)
  · intro hkelvin e
    rw [hreads e]
    refine exists_congr fun row => and_congr_right fun hrow => and_congr_left fun _ => ?_
    exact sameIgnoringCase_withLatinK (mem_decorationNames hrow) hkelvin

/-! ## The keywords together -/

/-- Keywords are told in ASCII case, in durations, repetitions, grid lengths, styles and caches, and
each has one value. In text decorations they are so for the letter K in place of Kelvin signs, and
without it exactly when no Kelvin sign stands for the K of `Strikethrough`. -/
theorem keywords_recognised (source : String) {target : Target} {type : TypeName}
    (htype : target.companion? 0 = some type) :
    (∀ owner name, duration source target = .ok (.member owner name) ↔
      ∃ word ∈ ["Automatic", "Forever"], sameIgnoringCase word (trim source) = true ∧
        Expr.member owner name = .member target.destination word) ∧
    (∀ owner name, repeatBehavior source target = .ok (.member owner name) ↔
      sameIgnoringCase "Forever" (trim source) = true ∧
        Expr.member owner name = .member target.destination "Forever") ∧
    (∀ amount,
      gridLength source target = .ok (.call target.destination [amount, .member type "Auto"]) ↔
        sameIgnoringCase "Auto" (trim source) = true ∧ amount = .literal (.double "1")) ∧
    ReadsKeywords (members type ["Normal", "Oblique", "Italic"]) (trim source)
      (fontStyle source target) ∧
    ReadsKeywords [("BitmapCache", .call type [])] (trim source) (cacheMode source target) ∧
    ReadsKeywords (decorations type) (withLatinK (trim source)) (textDecorations source target) ∧
    (ReadsKeywords (decorations type) (trim source) (textDecorations source target) ↔
      ¬HasKelvinSign (trim source)) :=
  ⟨fun _ _ => duration_eq_member_iff, fun _ _ => repeatBehavior_eq_member_iff,
    fun _ => gridLength_eq_auto_iff htype, fontStyle_readsKeywords htype,
    cacheMode_readsKeywords htype, textDecorations_readsKeywords htype,
    textDecorations_readsKeywords_iff htype⟩

/-- A style in capitals with white space around it. -/
theorem keywords_recognised_italic :
    Target.companion? ⟨⟨"FontStyle"⟩, [⟨"FontStyles"⟩]⟩ 0 = some ⟨"FontStyles"⟩ ∧
      fontStyle " ITALIC " ⟨⟨"FontStyle"⟩, [⟨"FontStyles"⟩]⟩ =
        .ok (.member ⟨"FontStyles"⟩ "Italic") := by
  have htype : Target.companion? ⟨⟨"FontStyle"⟩, [⟨"FontStyles"⟩]⟩ 0 = some ⟨"FontStyles"⟩ := rfl
  obtain ⟨-, -, -, hstyle, -⟩ := keywords_recognised " ITALIC " htype
  refine ⟨htype, (hstyle _).2 ⟨_, .tail _ (.tail _ (.head _)), ?_, rfl⟩⟩
  decide

/-- With a Kelvin sign in it a text is read as a decoration and is no name of one. -/
theorem keywords_recognised_kelvin :
    textDecorations "Stri\u212Aethrough" ⟨⟨"TextDecorationCollection"⟩, [⟨"TextDecorations"⟩]⟩ =
        .ok (.member ⟨"TextDecorations"⟩ "Strikethrough") ∧
      ∀ word ∈ ["Underline", "Strikethrough", "OverLine", "None"],
        sameIgnoringCase word (trim "Stri\u212Aethrough") = false := by
  constructor
  · refine (textDecorations_readsKeywords rfl _).2 ⟨_, .tail _ (.head _), ?_, rfl⟩
    decide
  · decide

end MarkupValues.Reading
