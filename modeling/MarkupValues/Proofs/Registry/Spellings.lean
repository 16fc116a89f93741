import MarkupValues.Proofs.Registry.Failures
import MarkupValues.Proofs.Registry.Names
import MarkupValues.Proofs.Text.Spelling
import MarkupValues.Session

/-!
# Spellings of a name

A name may be spelled in any ASCII case, with the global qualifier of a language before it, and with
white space around it (`Registry.Spelling`). All spellings without a qualifier are looked up under
one key. The qualifier is put into lower case together with the name, and so a spelling with one is
looked up under the same key exactly when the name does not start with a capital sigma that would
end a word after a letter (`Registry.Reachable.lookup_spelling_iff`).
-/

namespace MarkupValues.Registry

/-! ## Spellings -/

/-- A spelling of a name: white space around it, a qualifier before it or none, and its ASCII
letters in any case. -/
structure Spelling (name : String) where
  before : String
  qualifier : String
  letters : String
  after : String
  /-- What stands around the name is white space. -/
  isBlank_before : ∀ c ∈ before.toList, Text.isBlank c = true
  isBlank_after : ∀ c ∈ after.toList, Text.isBlank c = true
  /-- There is no qualifier, or that of a language in some ASCII case. -/
  isQualifier : qualifier = "" ∨ ∃ language : Language,
    Text.sameIgnoringCase qualifier language.dialect.globalQualifier = true
  /-- The name is in some ASCII case. -/
  isName : Text.sameIgnoringCase letters name = true

namespace Spelling

variable {name : String}

/-- The text of a spelling, from the white space before it to that after it. -/
def text (spelling : Spelling name) : String :=
  spelling.before ++ (spelling.qualifier ++ spelling.letters) ++ spelling.after

end Spelling

/-! ## Keys of spellings -/

/-- The key of a name does not depend on the case of its ASCII letters. -/
theorem lookupKey_foldCase (s : String) : lookupKey (Text.foldCase s) = lookupKey s := by
  rw [lookupKey, Text.trim_foldCase, Text.lowercase_foldCase]
  rfl

/-- The key of a name does not depend on the white space around it. -/
theorem lookupKey_append_blanks {pre post : String} (hpre : ∀ c ∈ pre.toList, Text.isBlank c = true)
    (hpost : ∀ c ∈ post.toList, Text.isBlank c = true) (s : String) :
    lookupKey (pre ++ s ++ post) = lookupKey s := by
  rw [lookupKey, Text.trim_append_blanks hpre hpost]
  rfl

/-- The lower case of a qualifier is what a key loses. What is left has been made small as text that
comes after a letter, the last one of the qualifier. -/
theorem withoutQualifier_lowercaseFrom (language : Language) (cs : List Char) :
    withoutQualifier (Text.lowercaseFrom false (language.dialect.globalQualifier.toList ++ cs)) =
      Text.lowercaseFrom true cs := by
  cases language with
  | csharp =>
    have hsmall : "global::".toList.flatMap Text.smallLetters = "global::".toList := by
      decide +kernel
    have hends : Text.endsCased false "global::".toList = true := by decide +kernel
    show withoutQualifier (Text.lowercaseFrom false ("global::".toList ++ cs)) = _
    rw [Text.lowercaseFrom_word_append (by decide), hsmall, hends]
    rfl
  | visualBasic =>
    have hsmall : "Global.".toList.flatMap Text.smallLetters = "global.".toList := by
      decide +kernel
    have hends : Text.endsCased false "Global.".toList = true := by decide +kernel
    show withoutQualifier (Text.lowercaseFrom false ("Global.".toList ++ cs)) = _
    rw [Text.lowercaseFrom_word_append (by decide), hsmall, hends]
    rfl

/-- No qualifier starts or ends with white space, so that taking off white space leaves it whole. -/
theorem stops_globalQualifier (language : Language) :
    Text.Stops Text.isBlank language.dialect.globalQualifier.toList ∧
      Text.Stops Text.isBlank language.dialect.globalQualifier.toList.reverse := by
  cases language
  · exact ⟨Text.stops_cons.2 (by decide), Text.stops_cons.2 (by decide)⟩
  · exact ⟨Text.stops_cons.2 (by decide), Text.stops_cons.2 (by decide)⟩

/-- A name with a qualifier is looked up under the small letters that it has after a letter. -/
theorem lookupKey_qualifier_append (language : Language) {name : String}
    (htrim : Text.trim name = name) :
    lookupKey (language.dialect.globalQualifier ++ name) =
      String.ofList (Text.lowercaseFrom true name.toList) := by
  obtain ⟨hstart, hend⟩ := stops_globalQualifier language
  have hne : language.dialect.globalQualifier ≠ "" := by cases language <;> decide
  rw [lookupKey, Text.trim_word_append hne hstart hend htrim, Text.lowercase, String.toList_ofList,
    String.toList_append, withoutQualifier_lowercaseFrom]

/-- A qualifier before a name does not matter when the name does not start with a sigma that ends a
word after it. -/
theorem lookupKey_qualifier_append_eq (language : Language) {name : String}
    (htrim : Text.trim name = name) (hqualified : isQualified name = false)
    (hsigma : Text.startsWithFinalSigma name.toList = false) :
    lookupKey (language.dialect.globalQualifier ++ name) = lookupKey name := by
  rw [lookupKey_qualifier_append language htrim, (Text.lowercaseFrom_true_eq_iff _).2 hsigma,
    (lookupKey_eq_lowercase_iff name).2 ⟨htrim, hqualified⟩]
  rfl

/-- A spelling is looked up under the small letters of the name, which it has after a letter when
there is a qualifier. -/
theorem Spelling.lookupKey_text {name : String} (spelling : Spelling name)
    (htrim : Text.trim name = name) (hqualified : isQualified name = false) :
    lookupKey spelling.text =
      String.ofList (Text.lowercaseFrom (spelling.qualifier != "") name.toList) := by
  have hname := Text.sameIgnoringCase_iff.1 spelling.isName
  rw [text, lookupKey_append_blanks spelling.isBlank_before spelling.isBlank_after,
    ← lookupKey_foldCase, Text.foldCase_append, hname]
  rcases spelling.isQualifier with hnone | ⟨language, hlanguage⟩
  · rw [hnone, ← Text.foldCase_append, String.empty_append, lookupKey_foldCase,
      (lookupKey_eq_lowercase_iff name).2 ⟨htrim, hqualified⟩]
    rfl
  · have hsome : (spelling.qualifier != "") = true := by
      rw [bne_iff_ne]
      intro hnone
      rw [hnone] at hlanguage
      cases language <;> exact absurd hlanguage (by decide)
    rw [Text.sameIgnoringCase_iff.1 hlanguage, ← Text.foldCase_append, lookupKey_foldCase,
      lookupKey_qualifier_append language htrim, hsome]

/-- A spelling has the key of the name, unless it has a qualifier and the name starts with a sigma
that ends a word after it. -/
theorem Spelling.lookupKey_text_eq_iff {name : String} (spelling : Spelling name)
    (htrim : Text.trim name = name) (hqualified : isQualified name = false) :
    lookupKey spelling.text = lookupKey name ↔
      spelling.qualifier = "" ∨ Text.startsWithFinalSigma name.toList = false := by
  rw [spelling.lookupKey_text htrim hqualified,
    (lookupKey_eq_lowercase_iff name).2 ⟨htrim, hqualified⟩, Text.lowercase, String.ofList_inj,
    ← Text.lowercaseFrom_true_eq_iff]
  by_cases hnone : spelling.qualifier = ""
  · simp [hnone]
  · have hsome : (spelling.qualifier != "") = true := bne_iff_ne.2 hnone
    rw [hsome, or_iff_right hnone]

/-! ## Registries -/

/-- Two names that are the same name to a registry: they find the same entry, are supported alike in
every session, and convert every text alike when there is an entry. -/
structure SameName (registry : Registry) (name name' : String) : Prop where
  lookup?_eq : registry.lookup? name = registry.lookup? name'
  contains_eq : registry.contains name = registry.contains name'
  isSupported_eq : ∀ options : Options,
    Session.isSupported ⟨options, registry⟩ name = Session.isSupported ⟨options, registry⟩ name'
  convertExpr_eq : registry.contains name' = true → ∀ raw aux,
    registry.convertExpr name raw aux = registry.convertExpr name' raw aux

section
variable {registry : Registry} {name name' : String}

/-- Names with one key are the same name, for every registry and every session. -/
theorem sameName_of_lookupKey_eq (h : lookupKey name = lookupKey name') :
    registry.SameName name name' := by
  have hlookup : registry.lookup? name = registry.lookup? name' := congrArg registry.entries.find? h
  have hcontains : registry.contains name = registry.contains name' :=
    congrArg Option.isSome hlookup
  refine ⟨hlookup, hcontains, fun _ => hcontains, fun hregistered raw aux => ?_⟩
  obtain ⟨entry, hentry⟩ := Option.isSome_iff_exists.1 hregistered
  rw [convertExpr_of_lookup? hentry, convertExpr_of_lookup? (hlookup.trans hentry)]

/-- The registry with one registration finds it under the names that have its key, and nothing under
others. -/
theorem lookup?_empty_after (r : Registration) (typeName : String) :
    (empty.after r.entry).lookup? typeName =
      if lookupKey typeName = r.key then some r.entry else none := by
  rw [after_of_not_mem (List.not_mem_nil)]
  exact KeyedList.find?_insert ..

/-- A name that is registered alone is no other name than those with its key. -/
theorem lookupKey_eq_of_sameName {r : Registration} (hkey : lookupKey r.name = r.key)
    (h : (empty.after r.entry).SameName name r.name) : lookupKey name = lookupKey r.name := by
  have hlookup := h.lookup?_eq
  rw [lookup?_empty_after, lookup?_empty_after, if_pos hkey] at hlookup
  by_cases hname : lookupKey name = r.key
  · exact hname.trans hkey.symm
  · rw [if_neg hname] at hlookup
    cases hlookup

/-- A spelling of a name is the same name to every registry exactly when it has no qualifier or the
name does not start with a capital sigma that would end a word after a letter. -/
theorem Reachable.lookup_spelling_iff (spelling : Spelling name) (htrim : Text.trim name = name)
    (hqualified : isQualified name = false) :
    (∀ offered registry, Reachable offered registry → registry.SameName spelling.text name) ↔
      spelling.qualifier = "" ∨ Text.startsWithFinalSigma name.toList = false := by
  rw [← spelling.lookupKey_text_eq_iff htrim hqualified]
  constructor
  · intro h
    -- The registry that tells the names apart has an entry for the name and no other.
    obtain ⟨r, rfl⟩ : ∃ r : Registration, r.name = name :=
      ⟨⟨name, ⟨name⟩, [], Grammar.point.converter⟩, rfl⟩
    have hkey : lookupKey r.name = r.key :=
      (lookupKey_eq_lowercase_iff r.name).2 ⟨htrim, hqualified⟩
    exact lookupKey_eq_of_sameName hkey (h _ _ (Reachable.empty.register r))
  · intro hkey offered registry _
    exact sameName_of_lookupKey_eq hkey

/-- A name whose sigma comes after a letter in any case, in capitals with a qualifier before it and
white space around it. -/
theorem Reachable.lookup_spelling_sigma_after_letter :
    Text.trim "My.Σ" = "My.Σ" ∧ isQualified "My.Σ" = false ∧
      (Registry.defaults.after
        (Registration.entry ⟨"My.Σ", ⟨"My.Σ"⟩, [], Grammar.point.converter⟩)).SameName
        "\u2003GLOBAL.MY.Σ\n" "My.Σ" := by
  obtain ⟨spelling, htext⟩ : ∃ spelling : Spelling "My.Σ", spelling.text = "\u2003GLOBAL.MY.Σ\n" :=
    ⟨⟨"\u2003", "GLOBAL.", "MY.Σ", "\n", List.all_eq_true.1 (by decide),
      List.all_eq_true.1 (by decide), .inr ⟨.visualBasic, by decide⟩, by decide⟩, by decide⟩
  have htrim : Text.trim "My.Σ" = "My.Σ" := by decide +kernel
  have hqualified : isQualified "My.Σ" = false := by decide
  have hsigma : Text.startsWithFinalSigma "My.Σ".toList = false := by decide +kernel
  have hsame := (Reachable.lookup_spelling_iff spelling htrim hqualified).2 (.inr hsigma)
  rw [htext] at hsame
  exact ⟨htrim, hqualified, hsame _ _ (Reachable.defaults.register _)⟩

/-- A name that is a capital sigma alone is registered, and not found with a qualifier before it. -/
theorem Reachable.lookup_spelling_sigma :
    Text.trim "Σ" = "Σ" ∧ isQualified "Σ" = false ∧
      (∃ spelling : Spelling "Σ", spelling.text = "global::Σ") ∧
      ∃ registry, Reachable [⟨"Σ", ⟨"Σ"⟩, [], Grammar.point.converter⟩] registry ∧
        registry.contains "Σ" = true ∧ registry.contains "global::Σ" = false := by
  have hspelling : ∃ spelling : Spelling "Σ", spelling.text = "global::Σ" :=
    ⟨⟨"", "global::", "Σ", "", nofun, nofun, .inr ⟨.csharp, by decide⟩, by decide⟩, by decide⟩
  refine ⟨by decide +kernel, by decide, hspelling, _, Reachable.empty.register _, ?_, ?_⟩
  · rw [contains, lookup?_empty_after]
    decide +kernel
  · rw [contains, lookup?_empty_after]
    decide +kernel

end

end MarkupValues.Registry
