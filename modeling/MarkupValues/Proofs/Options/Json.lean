import MarkupValues.Options.Json
import MarkupValues.Proofs.Json.Fields
import MarkupValues.Proofs.Json.RoundTrip

/-!
# Options kept in JSON

Options written to JSON and read back are the same options. In between, fields may be removed, the
others reordered and members of other names added: what is read back then has the defaults in place
of the removed fields (`Options.ofJsonText?_removing`).
-/

namespace MarkupValues

/-- The language is read back from the name that it is written as. -/
theorem Language.ofKey?_key (language : Language) : ofKey? language.key = some language := by
  cases language <;> rfl

namespace Options

open Json (HasOtherNames removing)

/-- The members of the record that options are written as, in the order in which they are
written. -/
def members (options : Options) : List (Option String × Json) :=
  [(some "language", .ofString options.language.key),
    (some "qualify_global_names", .bool options.qualifyGlobalNames),
    (some "fallback_converter", .ofString options.fallbackConverter.text)]

/-- The options with the default in place of each of the given fields, which is what options without
these fields are read as. -/
def resetting (removed : List String) (options : Options) : Options where
  language := if "language" ∈ removed then language {} else options.language
  qualifyGlobalNames :=
    if "qualify_global_names" ∈ removed then qualifyGlobalNames {} else options.qualifyGlobalNames
  fallbackConverter :=
    if "fallback_converter" ∈ removed then fallbackConverter {} else options.fallbackConverter

/-- A field with a readable value is read, unless it is missing. -/
theorem orDefault_ite {α : Type} {default a : α} {read : Json → Option α} {value : Json}
    (h : read value = some a) (missing : Prop) [Decidable missing] :
    orDefault default read (if missing then none else some value) =
      some (if missing then default else a) := by
  split
  · rfl
  · exact h

variable {removed : List String} {further members : List (Option String × Json)}

/-- The fields of the record without some of them: those that are left have one value each, and the
others have none. -/
theorem optionalFields?_removing (options : Options) (removed : List String) :
    Json.optionalFields? fieldNames (.object (removing removed options.members)) =
      some [if "language" ∈ removed then none else some (.ofString options.language.key),
        if "qualify_global_names" ∈ removed then none else some (.bool options.qualifyGlobalNames),
        if "fallback_converter" ∈ removed then none
          else some (.ofString options.fallbackConverter.text)] := by
  rw [Json.optionalFields?, if_pos (Json.all_isSome_removing rfl), fieldNames, List.mapM_cons,
    List.mapM_cons, List.mapM_cons, List.mapM_nil, Json.atMostOne_removing rfl,
    Json.atMostOne_removing rfl, Json.atMostOne_removing rfl]
  rfl

/-- An object of some of the fields gives these, and the defaults of the others, by the reader of
each field. -/
theorem ofJson?_removing (options : Options) (removed : List String) :
    ofJson? (.object (removing removed options.members)) = some (options.resetting removed) := by
  have hlanguage : orDefault .csharp (fun v => v.unitVariant?.bind Language.ofKey?)
      (if "language" ∈ removed then none else some (.ofString options.language.key)) =
        some (options.resetting removed).language :=
    orDefault_ite (Language.ofKey?_key options.language) _
  have hqualify : orDefault true Json.bool?
      (if "qualify_global_names" ∈ removed then none else some (.bool options.qualifyGlobalNames)) =
        some (options.resetting removed).qualifyGlobalNames :=
    orDefault_ite (rfl : (Json.bool options.qualifyGlobalNames).bool? = _) _
  have hconverter : orDefault .stringConverters (fun v => v.text?.map TypeName.mk)
      (if "fallback_converter" ∈ removed then none
        else some (.ofString options.fallbackConverter.text)) =
        some (options.resetting removed).fallbackConverter :=
    orDefault_ite (rfl : (Json.ofString options.fallbackConverter.text).text?.map TypeName.mk = _) _
  rw [ofJson?, optionalFields?_removing]
  simp only [hlanguage, hqualify, hconverter]
  rfl

/-- What is read from an object does not depend on the order of its members, nor on members of
names that are no fields. -/
theorem ofJson?_perm (hnames : HasOtherNames fieldNames further)
    {kept : List (Option String × Json)} (h : members.Perm (kept ++ further)) :
    ofJson? (.object members) = ofJson? (.object kept) := by
  rw [ofJson?, ofJson?, Json.optionalFields?_perm h, Json.optionalFields?_append hnames]

/-- Any text of an object with some of the fields gives these, and the defaults of the others. -/
theorem ofJsonText?_of_read? {options : Options} {text : String}
    (hnames : HasOtherNames fieldNames further)
    (hperm : members.Perm (removing removed options.members ++ further))
    (htext : Json.read? text = some (.object members)) :
    ofJsonText? text = some (options.resetting removed) := by
  rw [ofJsonText?, htext, Option.bind_some, ofJson?_perm hnames hperm, ofJson?_removing]

/-- Options written to JSON and read back are the same options. With some of their fields removed,
the others in any order and among members of any other names, they are read back with the defaults
in place of the removed fields, however the object is written. -/
theorem ofJsonText?_removing (options : Options) :
    ofJsonText? options.toJsonText = some options ∧
      ∀ (removed : List String) (further members : List (Option String × Json)),
        HasOtherNames fieldNames further →
        members.Perm (removing removed options.members ++ further) →
          ofJsonText? (Json.object members).write = some (options.resetting removed) ∧
            ∀ text, Json.read? text = some (.object members) →
              ofJsonText? text = some (options.resetting removed) := by
  constructor
  · have hwritten : Json.read? options.toJsonText = some (.object options.members) :=
      Json.read?_write _
    have hnone : HasOtherNames fieldNames [] := nofun
    have hall : options.members.Perm (removing [] options.members ++ []) := .refl _
    exact ofJsonText?_of_read? hnone hall hwritten
  · intro removed further members hnames hperm
    exact ⟨ofJsonText?_of_read? hnames hperm (Json.read?_write _),
      fun text htext => ofJsonText?_of_read? hnames hperm htext⟩

/-- Quotes, backslashes and control characters come back from between other members. -/
theorem ofJsonText?_removing_qualify :
    ofJsonText? ("\x7b\"fallback_converter\":\"\\\"A\\\\B\\u0001\\n\"," ++
        "\"comment\":[null,\x7b\"\\ud800\":\"\"\x7d],\"language\":\"visual-basic\"\x7d") =
      some ⟨.visualBasic, true, ⟨"\"A\\B\x01\n"⟩⟩ := by
  have hread := (ofJsonText?_removing ⟨.visualBasic, false, ⟨"\"A\\B\x01\n"⟩⟩).2
    ["qualify_global_names"] [(some "comment", .array [.null, .object [(none, .ofString "")]])]
    [(some "fallback_converter", .ofString "\"A\\B\x01\n"),
      (some "comment", .array [.null, .object [(none, .ofString "")]]),
      (some "language", .ofString "visual-basic")]
  refine (hread ?_ ?_).1
  · intro member hmember
    cases List.mem_singleton.1 hmember
    exact ⟨"comment", by decide, rfl⟩
  · exact List.perm_append_singleton _ [_, _]

end Options

end MarkupValues
