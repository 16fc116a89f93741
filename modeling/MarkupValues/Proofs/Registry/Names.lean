import Mathlib.Data.List.Basic
import MarkupValues.Proofs.Registry.Runs
import MarkupValues.Proofs.Text.Lowercase

/-!
# The names that converters are found under

A name is looked up under another key than it is registered under when there is white space around
it or a global qualifier before it (`Registry.lookupKey_eq_lowercase_iff`). What is registered under
such a name is not found under it (`Registry.Reachable.lookup_register_iff`).
-/

namespace MarkupValues.Registry

/-! ## Qualifiers -/

/-- Whether a key starts with the global qualifier of one of the languages, in small letters. -/
def startsWithQualifier (key : List Char) : Bool :=
  "global::".toList.isPrefixOf key || "global.".toList.isPrefixOf key

/-- Whether a name starts with a global qualifier in some ASCII case. -/
def isQualified (name : String) : Bool :=
  startsWithQualifier (name.toList.map Char.toLower)

section
variable {key : List Char}

/-- Nothing is left after a qualifier where the key does not start with it. -/
theorem isPrefixOf?_eq_none {qualifier : List Char} (h : qualifier.isPrefixOf key = false) :
    qualifier.isPrefixOf? key = none := by
  rw [← List.isSome_isPrefixOf?_eq_isPrefixOf] at h
  exact Option.isNone_iff_eq_none.1 (Option.isSome_eq_false_iff.1 h)

/-- What is left after a qualifier is shorter, as a qualifier is not empty. -/
theorem length_lt_of_isPrefixOf? {qualifier rest : List Char} (hne : qualifier ≠ [])
    (h : qualifier.isPrefixOf? key = some rest) : rest.length < key.length := by
  rw [← List.isPrefixOf?_eq_some_iff_append_eq.1 h, List.length_append]
  have := List.length_pos_of_ne_nil hne
  omega

/-- A key without a qualifier is left as it is. -/
theorem withoutQualifier_eq_self (h : startsWithQualifier key = false) :
    withoutQualifier key = key := by
  obtain ⟨hcolons, hdot⟩ := Bool.or_eq_false_iff.1 h
  rw [withoutQualifier, isPrefixOf?_eq_none hcolons, isPrefixOf?_eq_none hdot]
  rfl

/-- A key with a qualifier loses it, and is shorter then. So the key of a name with a qualifier is
not the name in lower case. -/
theorem length_withoutQualifier_lt (h : startsWithQualifier key = true) :
    (withoutQualifier key).length < key.length := by
  unfold withoutQualifier
  split
  · next rest hrest => exact length_lt_of_isPrefixOf? (by decide) hrest
  · next hnone =>
    have hcolons : "global::".toList.isPrefixOf key = false := by
      rw [← List.isSome_isPrefixOf?_eq_isPrefixOf, hnone]
      rfl
    rw [startsWithQualifier, hcolons, Bool.false_or, ← List.isSome_isPrefixOf?_eq_isPrefixOf] at h
    obtain ⟨rest, hrest⟩ := Option.isSome_iff_exists.1 h
    rw [hrest]
    exact length_lt_of_isPrefixOf? (by decide) hrest

/-- No key gets longer, whether it has a qualifier or not. -/
theorem length_withoutQualifier_le (key : List Char) :
    (withoutQualifier key).length ≤ key.length := by
  cases h : startsWithQualifier key with
  | false => exact Nat.le_of_eq (congrArg List.length (withoutQualifier_eq_self h))
  | true => exact Nat.le_of_lt (length_withoutQualifier_lt h)

/-- The lower case of a name starts with a qualifier when the name does in some ASCII case: no
letters beyond ASCII become those of the qualifiers. -/
theorem startsWithQualifier_lowercase (name : String) :
    startsWithQualifier (Text.lowercase name).toList = isQualified name := by
  have hcolons : "global::".toList.all Text.isSmallInAscii = true := by decide
  have hdot : "global.".toList.all Text.isSmallInAscii = true := by decide
  rw [Text.lowercase, String.toList_ofList, isQualified, startsWithQualifier, startsWithQualifier,
    Text.isPrefixOf_lowercaseFrom hcolons, Text.isPrefixOf_lowercaseFrom hdot]

end

/-! ## Keys of names -/

/-- A name is looked up under the key that it is registered under exactly when it has neither white
space around it nor a qualifier. -/
theorem lookupKey_eq_lowercase_iff (name : String) :
    lookupKey name = Text.lowercase name ↔ Text.trim name = name ∧ isQualified name = false := by
  constructor
  · intro h
    obtain ⟨pre, post, hpre, hpost, hname⟩ := Text.exists_eq_append_trim name
    have hlower := Text.toList_lowercase_of_trim hpre hpost hname
    have hkey : withoutQualifier (Text.lowercase (Text.trim name)).toList =
        (Text.lowercase name).toList := by
      rw [← h, lookupKey, String.toList_ofList]
    -- Both the white space and the qualifier make the key for looking up the shorter one.
    have hlength := congrArg List.length hkey
    have hle := length_withoutQualifier_le (Text.lowercase (Text.trim name)).toList
    rw [hlower, List.length_append, List.length_append] at hlength
    have hpre : pre = [] := List.eq_nil_of_length_eq_zero (by omega)
    have hpost : post = [] := List.eq_nil_of_length_eq_zero (by omega)
    rw [hpre, hpost, List.append_nil, List.nil_append] at hname
    have htrim : Text.trim name = name := String.toList_inj.1 hname.symm
    refine ⟨htrim, Bool.eq_false_iff.2 fun hqualified => ?_⟩
    rw [← startsWithQualifier_lowercase] at hqualified
    have hlt := length_withoutQualifier_lt hqualified
    rw [htrim] at hkey
    rw [hkey] at hlt
    exact Nat.lt_irrefl _ hlt
  · rintro ⟨htrim, hqualified⟩
    rw [lookupKey, htrim, withoutQualifier_eq_self, String.ofList_toList]
    rw [startsWithQualifier_lowercase]
    exact hqualified

section
variable {offered : List Registration} {registry registry' : Registry} {r : Registration}

/-- What is registered under a name is found under it, and converts what is to be converted to it,
exactly when the name has neither white space around it nor a qualifier before it. -/
theorem Reachable.lookup_register_iff (hreach : Reachable offered registry)
    (h : registry.register r.entry = .ok registry') :
    (registry'.lookup? r.name = some r.entry ∧ registry'.contains r.name = true ∧
      ∀ raw aux, registry'.convertExpr r.name raw aux =
        r.converter.convert raw (r.entry.target aux)) ↔
      Text.trim r.name = r.name ∧ isQualified r.name = false := by
  obtain ⟨hkey, rfl⟩ := register_eq_ok h
  rw [← lookupKey_eq_lowercase_iff]
  have hfind : lookup? ⟨registry.entries.insert r.entry.key r.entry⟩ r.name =
      if lookupKey r.name = Text.lowercase r.name then some r.entry
      else registry.lookup? r.name :=
    KeyedList.find?_insert ..
  constructor
  · rintro ⟨hlookup, -, -⟩
    by_cases hsame : lookupKey r.name = Text.lowercase r.name
    · exact hsame
    · -- An entry that was there before is stored under its own key, and that is not the new one.
      rw [hfind, if_neg hsame] at hlookup
      have hmem := KeyedList.mem_items_of_find? hlookup
      obtain ⟨hown, -⟩ := hreach.keepsFirst.stored _ hmem
      exact hown.symm
  · intro hsame
    rw [if_pos hsame] at hfind
    refine ⟨hfind, ?_, fun raw aux => ?_⟩
    · rw [contains, hfind]
      rfl
    · exact convertExpr_of_lookup? hfind

/-- A name in capitals, registered beside the core types. -/
theorem Reachable.lookup_register_capitals :
    ∃ registry', Registry.defaults.register
        (Registration.entry ⟨"MY.POINT", ⟨"My.Point"⟩, [], Grammar.point.converter⟩) =
          .ok registry' ∧
      registry'.lookup? "MY.POINT" =
        some (Registration.entry ⟨"MY.POINT", ⟨"My.Point"⟩, [], Grammar.point.converter⟩) := by
  have hkey : (Registration.entry ⟨"MY.POINT", ⟨"My.Point"⟩, [], Grammar.point.converter⟩).key ∉
      Registry.defaults.keys := by
    decide +kernel
  refine ⟨_, register_of_not_mem hkey, ?_⟩
  exact ((Reachable.defaults.lookup_register_iff (register_of_not_mem hkey)).2
    (by decide +kernel)).1

/-- A name with a qualifier is registered, and nothing is found under it. -/
theorem Reachable.lookup_register_qualified :
    Reachable [] .empty ∧ ∃ registry', Registry.empty.register
        (Registration.entry ⟨"global::My.Point", ⟨"My.Point"⟩, [], Grammar.point.converter⟩) =
          .ok registry' ∧
      registry'.lookup? "global::My.Point" = none := by
  refine ⟨.empty, _, rfl, ?_⟩
  decide +kernel

end

end MarkupValues.Registry
