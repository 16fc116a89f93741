import MarkupValues.Expr
import MarkupValues.Text.Quoted

/-!
# Why a value cannot be converted

A `Cause` says what is wrong with the text or the request, and a `Failure` adds the whole text and
the type it was meant for. Every wording is in this module, in the functions named `message`.
-/

namespace MarkupValues

/-- The kinds of names that are looked up in a table. -/
inductive NameKind where
  | color
  | fontWeight
  | fontStyle
  | textDecoration
deriving DecidableEq

/-- The kind of a name in a message. -/
def NameKind.label : NameKind → String
  | color => "color"
  | fontWeight => "font weight"
  | fontStyle => "font style"
  | textDecoration => "text decoration"

/-- How many tokens a list of numbers may have. -/
inductive Arity where
  | oneOf (counts : List Nat)
  | even
deriving DecidableEq

namespace Arity

/-- Exactly so many tokens. -/
def exactly (count : Nat) : Arity :=
  oneOf [count]

/-- Whether a list may have so many tokens. -/
def admits : Arity → Nat → Bool
  | oneOf counts, n => counts.contains n
  | even, n => n % 2 == 0

/-- Alternatives in a sentence, the last two joined by `or` and the others by commas. -/
def alternatives : List String → String
  | [] => ""
  | [a] => a
  | [a, b] => a ++ " or " ++ b
  | a :: rest => a ++ ", " ++ alternatives rest

/-- The admitted counts in a message. -/
def text : Arity → String
  | oneOf counts => alternatives (counts.map fun n => toString n)
  | even => "an even number of"

end Arity

/-- What is wrong with a text, or with the request to convert it. -/
inductive Cause where
  /-- A character that cannot stand where it does. -/
  | invalidToken (token : Char)
  /-- A name that is not in its table. -/
  | unknownName (kind : NameKind) (name : String)
  /-- A list of numbers of the wrong length. -/
  | tokenCount (expected : Arity) (found : Nat)
  | invalidNumber (text : String)
  | invalidTimeSpan (text : String)
  /-- A form that is recognised and refused; the text says so. -/
  | unsupported (text : String)
  /-- A type name that the conversion needs and was not given. -/
  | missingCompanion (index : Nat)
  /-- A type that has no converter. -/
  | unsupportedType
deriving DecidableEq

/-- The sentence for a cause. -/
def Cause.message : Cause → String
  | invalidToken token => "Token is not valid: " ++ Text.quotedChar token
  | unknownName kind name => "Unknown " ++ kind.label ++ " name: " ++ name
  | tokenCount expected found =>
    "Expected " ++ expected.text ++ " numeric tokens, found " ++ toString found
  | invalidNumber text => "Invalid number: " ++ text
  | invalidTimeSpan text => "Invalid time span: " ++ text
  | unsupported text => text
  | missingCompanion index => "No companion type name at position " ++ toString index
  | unsupportedType => "Type is not a supported core type"

/-- A text that could not be converted to a type. -/
structure Failure where
  value : String
  typeName : TypeName
  cause : Option Cause
deriving DecidableEq

namespace Failure

/-- The sentence for a failure; the cause has a sentence of its own. -/
def message (failure : Failure) : String :=
  "Cannot convert '" ++ failure.value ++ "' to '" ++ failure.typeName.text ++ "'."

/-- The same failure, reported for another type. -/
def retarget (failure : Failure) (typeName : TypeName) : Failure :=
  { failure with typeName }

/-- The same failure, reported for another text. -/
def restate (failure : Failure) (value : String) : Failure :=
  { failure with value }

end Failure

/-- A failure and the place in the markup where the text stands. -/
structure LocatedFailure where
  failure : Failure
  line : Nat
  column : Nat
deriving DecidableEq

/-- The sentence for a failure, after its place. -/
def LocatedFailure.message (located : LocatedFailure) : String :=
  "line " ++ toString located.line ++ ", column " ++ toString located.column ++ ": " ++
    located.failure.message

end MarkupValues
