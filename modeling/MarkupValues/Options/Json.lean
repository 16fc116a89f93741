import MarkupValues.Json.Fields
import MarkupValues.Json.Reader
import MarkupValues.Json.Writer
import MarkupValues.Options.Basic

/-!
# Options in JSON

Options are a record of three fields, any of which may be missing and then keeps its default. One
that is there has to have a value of its kind, and `null` is no value of any kind.
-/

namespace MarkupValues.Options

/-- The names of the fields, in order. -/
def fieldNames : List String :=
  ["language", "qualify_global_names", "fallback_converter"]

/-- A field's value, read if the field is there and else the default. -/
def orDefault {α : Type} (default : α) (read : Json → Option α) : Option Json → Option α
  | none => some default
  | some value => read value

/-- The options that a value of JSON stands for. -/
def ofJson? (value : Json) : Option Options :=
  match value.optionalFields? fieldNames with
  | some [language, qualify, converter] => do
    return {
      language := ← orDefault .csharp (fun v => v.unitVariant?.bind Language.ofKey?) language
      qualifyGlobalNames := ← orDefault true Json.bool? qualify
      fallbackConverter :=
        ← orDefault .stringConverters (fun v => v.text?.map TypeName.mk) converter }
  | _ => none

/-- The options that a text of JSON stands for. -/
def ofJsonText? (s : String) : Option Options :=
  (Json.read? s).bind ofJson?

/-- The options as a record with all its fields. -/
def toJson (options : Options) : Json :=
  .object [(some "language", .ofString options.language.key),
    (some "qualify_global_names", .bool options.qualifyGlobalNames),
    (some "fallback_converter", .ofString options.fallbackConverter.text)]

/-- The options as a text of JSON. -/
def toJsonText (options : Options) : String :=
  options.toJson.write

end MarkupValues.Options
