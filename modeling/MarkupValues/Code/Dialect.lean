import MarkupValues.Code.Language
import MarkupValues.Expr

/-!
# Spellings of the languages

A `Dialect` holds the spellings in which the languages differ: how type names are qualified, what
surrounds and ends literals, and how a call is cast. Both languages write a quote in a string twice.
-/

namespace MarkupValues

/-- A pair of texts that something is written between. -/
structure Brackets where
  left : String
  right : String

/-- A text between brackets. -/
def Brackets.around (brackets : Brackets) (inner : String) : String :=
  brackets.left ++ inner ++ brackets.right

/-- The spellings of a language. -/
structure Dialect where
  /-- What starts a name that is looked up from the outermost namespace. -/
  globalQualifier : String
  /-- What starts a constructor call. -/
  new : String
  /-- What surrounds the properties set after a constructor call. -/
  initializers : Brackets
  /-- What starts the name of a property that is set. -/
  setter : String
  /-- What surrounds the items added after a constructor call. -/
  items : Brackets
  /-- What surrounds the digits of a byte. -/
  byte : Brackets
  /-- What ends a number of single precision. -/
  singleSuffix : String
  /-- What ends a number of double precision. -/
  doubleSuffix : String
  /-- What ends a whole number of 64 bits. -/
  longSuffix : String
  /-- What starts a string literal; a quote ends it. -/
  stringStart : String
  /-- The word for no value. -/
  null : String
  /-- An expression with its type asserted. -/
  cast : (type expression : String) → String
  /-- The object that stands for a type at run time. -/
  typeObject : Brackets

/-- The spellings of each language. -/
def Language.dialect : Language → Dialect
  | csharp =>
    { globalQualifier := "global::"
      new := "new "
      initializers := ⟨" \x7b ", " \x7d"⟩
      setter := ""
      items := ⟨" \x7b ", " \x7d"⟩
      byte := ⟨"(byte)", ""⟩
      singleSuffix := "F"
      doubleSuffix := "D"
      longSuffix := "L"
      stringStart := "@\""
      null := "null"
      cast := fun type expression => "(" ++ type ++ ")" ++ expression
      typeObject := ⟨"typeof(", ")"⟩ }
  | visualBasic =>
    { globalQualifier := "Global."
      new := "New "
      initializers := ⟨" With \x7b", "\x7d"⟩
      setter := "."
      items := ⟨" From \x7b", "\x7d"⟩
      byte := ⟨"CByte(", ")"⟩
      singleSuffix := "F"
      doubleSuffix := "R"
      longSuffix := "L"
      stringStart := "\""
      null := "Nothing"
      cast := fun type expression => "CType(" ++ expression ++ ", " ++ type ++ ")"
      typeObject := ⟨"GetType(", ")"⟩ }

namespace Dialect

/-- A type name with the global qualifier, which it may have already. -/
def qualified (dialect : Dialect) (name : TypeName) : TypeName :=
  if dialect.globalQualifier.toList.isPrefixOf name.text.toList then name
  else ⟨dialect.globalQualifier ++ name.text⟩

/-- The characters of a string with every quote written twice. -/
def doubleQuotes (cs : List Char) : List Char :=
  cs.flatMap fun c => if c = '"' then ['"', '"'] else [c]

/-- A string literal: between its quotes every other character stands for itself. -/
def stringLiteral (dialect : Dialect) (value : String) : String :=
  dialect.stringStart ++ String.ofList (doubleQuotes value.toList) ++ "\""

/-- A literal with the suffix or the cast of its type. -/
def literal (dialect : Dialect) : Literal → String
  | .raw digits => digits
  | .byte value => dialect.byte.around (toString value.toNat)
  | .single value => value.text ++ dialect.singleSuffix
  | .double digits => digits ++ dialect.doubleSuffix
  | .long value => toString value.toInt ++ dialect.longSuffix
  | .string value => dialect.stringLiteral value

end Dialect

end MarkupValues
