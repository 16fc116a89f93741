import MarkupValues.Json.Value

/-!
# Records and variants in JSON

A record is an object with a member for each field, in any order and among members of other names,
or an array of its fields in their order. A variant is an object with one member, named for the
variant. A variant that holds nothing is also the string of its name.
-/

namespace MarkupValues.Json

/-- The values of the members with the given name. -/
def named (name : String) (members : List (Option String × Json)) : List Json :=
  (members.filter fun member => member.1 == some name).map (·.2)

/-- The value of an optional field: no field may come twice. -/
def atMostOne : List Json → Option (Option Json)
  | [] => some none
  | [value] => some (some value)
  | _ => none

/-- The fields of a record that may be missing. An object gives them by name, and every name in it
has to be a text; an array gives the first ones in order. -/
def optionalFields? (names : List String) : Json → Option (List (Option Json))
  | object members =>
    if members.all fun member => member.1.isSome then
      names.mapM fun name => atMostOne (named name members)
    else none
  | array items =>
    if items.length ≤ names.length then
      some (items.map some ++ List.replicate (names.length - items.length) none)
    else none
  | _ => none

/-- The fields of a record, none of which may be missing. -/
def fields? (names : List String) (value : Json) : Option (List Json) :=
  (optionalFields? names value).bind fun fields => fields.mapM id

/-- A record as an object of its fields in their order. -/
def record (names : List String) (values : List Json) : Json :=
  object ((names.map some).zip values)

/-- A variant that holds a value. -/
def variant (name : String) (value : Json) : Json :=
  object [(some name, value)]

/-- The name of a variant that holds nothing. -/
def unitVariant? : Json → Option String
  | string text => text
  | object [(name, null)] => name
  | _ => none

end MarkupValues.Json
