import MarkupValues.Session

/-!
# Descriptions for diagnostics

One-line descriptions of registered converters and of sessions, with names in double quotes.
-/

namespace MarkupValues

/-- A record by its name and the names and texts of its fields. -/
def describeRecord (name : String) (fields : List (String × String)) (ending : String) : String :=
  let shown := fields.map fun field => field.1 ++ ": " ++ field.2
  name ++ " \x7b " ++ ", ".intercalate shown ++ ending

/-- A type name in a description. -/
def TypeName.describe (name : TypeName) : String :=
  "TypeName(" ++ Text.quoted name.text ++ ")"

/-- A registered converter by what is known of it; what it does is left out. -/
def Entry.describe (entry : Entry) : String :=
  describeRecord "ConverterEntry"
    [("key", Text.quoted entry.key),
      ("destination", entry.destination.describe),
      ("companions", "[" ++ ", ".intercalate (entry.companions.map TypeName.describe) ++ "]")]
    ", .. \x7d"

/-- A language in a description. -/
def Language.describe : Language → String
  | csharp => "CSharp"
  | visualBasic => "VisualBasic"

/-- Options by all their fields. -/
def Options.describe (options : Options) : String :=
  describeRecord "SessionOptions"
    [("language", options.language.describe),
      ("qualify_global_names", toString options.qualifyGlobalNames),
      ("fallback_converter", Text.quoted options.fallbackConverter.text)]
    " \x7d"

/-- A session by its options and its number of converters. -/
def Session.describe (session : Session) : String :=
  describeRecord "ConverterSession"
    [("language", session.options.language.describe),
      ("converters", toString session.registry.entries.length),
      ("options", session.options.describe)]
    " \x7d"

end MarkupValues
