/-!
# Languages of the code

The languages that expressions can be written in, with the names that they have in messages and in
stored options.
-/

namespace MarkupValues

/-- A language that code is written in. -/
inductive Language where
  | csharp
  | visualBasic
deriving DecidableEq

namespace Language

/-- The name of a language in messages. -/
def displayName : Language → String
  | csharp => "C#"
  | visualBasic => "Visual Basic"

/-- The name of a language in stored options. -/
def key : Language → String
  | csharp => "csharp"
  | visualBasic => "visual-basic"

/-- The language that stored options mean by a name; each has a short name besides. -/
def ofKey? (name : String) : Option Language :=
  if name = "csharp" || name = "cs" then some csharp
  else if name = "visual-basic" || name = "vb" then some visualBasic
  else none

end Language

end MarkupValues
