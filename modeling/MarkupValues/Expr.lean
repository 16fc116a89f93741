import MarkupValues.Binary.Shortest

/-!
# Expressions that build a value

What an attribute value comes to, in no particular language: a constructor call with initializers or
items, a static member, a static call, a literal, no value at all, or a call that leaves the text to
a converter at run time. `Expr` is the tree; `TypeName` and `Literal` are its leaves.
-/

namespace MarkupValues

/-- The name of a type, with the namespaces before it separated by dots. -/
structure TypeName where
  text : String
deriving DecidableEq

/-- What follows the last dot of a type name. -/
def TypeName.shortName (name : TypeName) : String :=
  String.ofList ((name.text.toList.splitOn '.').getLastD [])

/-- A literal. The typed ones are written with the suffix or the cast of their type. -/
inductive Literal where
  /-- A number that is written as it was read. -/
  | raw (digits : String)
  | byte (value : UInt8)
  | single (value : Binary32)
  /-- A number of double precision, with its digits as text. -/
  | double (digits : String)
  | long (value : Int64)
  | string (value : String)
deriving DecidableEq

/-- The digits of a literal without suffix or cast; a string has none. -/
def Literal.numericText : Literal → Option String
  | raw digits | double digits => some digits
  | byte value => some (toString value.toNat)
  | single value => some value.text
  | long value => some (toString value.toInt)
  | string _ => none

/-- An expression that builds a value. -/
inductive Expr where
  /-- A constructor call, with the properties it sets afterwards and the items it adds. -/
  | construct (type : TypeName) (args : List Expr) (initializers : List (String × Expr))
      (items : List Expr)
  /-- A static member of a type. -/
  | member (owner : TypeName) (name : String)
  /-- A call of a static method of a type. -/
  | invoke (owner : TypeName) (method : String) (args : List Expr)
  | literal (value : Literal)
  /-- No value. -/
  | null
  /-- The text left to the run-time converter of a type. -/
  | fallback (target : TypeName) (source : String)

namespace Expr

/-- A constructor call with arguments alone. -/
def call (type : TypeName) (args : List Expr) : Expr :=
  construct type args [] []

/-- A constructor call without arguments that adds items. -/
def collection (type : TypeName) (items : List Expr) : Expr :=
  construct type [] [] items

/-- A number that is written as it was read. -/
def raw (digits : String) : Expr :=
  literal (.raw digits)

/-- A string literal. -/
def string (value : String) : Expr :=
  literal (.string value)

/-- Whether an expression is a constructor call. -/
def isConstruct : Expr → Bool
  | construct .. => true
  | _ => false

/-- The literal that an expression is, if it is one. -/
def literal? : Expr → Option Literal
  | literal value => some value
  | _ => none

end Expr

end MarkupValues
