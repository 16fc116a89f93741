import MarkupValues.Expr
import MarkupValues.Json.Fields
import MarkupValues.Json.Reader
import MarkupValues.Json.Single
import MarkupValues.Json.Writer

/-!
# Expressions in JSON

An expression is a variant that holds a record, a literal or nothing. A literal is a variant that
holds its value. Where an expression is read, containers may be nested to a limit; what stands in
members that are no fields of a record is not looked at and does not count.
-/

namespace MarkupValues

/-- A literal that holds a value of JSON, by the name of its variant. -/
def Literal.ofVariant? (name : String) (value : Json) : Option Literal :=
  match name, value with
  | "Raw", .string (some digits) => some (.raw digits)
  | "Byte", .number n => n.int?.bind fun i =>
      if 0 ≤ i ∧ i < UInt8.size then some (.byte (UInt8.ofNat i.toNat)) else none
  | "Float", .number n => n.single?.map .single
  | "Double", .string (some digits) => some (.double digits)
  | "Long", .number n => n.int?.bind fun i =>
      if Int64.minValue.toInt ≤ i ∧ i ≤ Int64.maxValue.toInt then some (.long (Int64.ofInt i))
      else none
  | "Str", .string (some value) => some (.string value)
  | _, _ => none

namespace Expr

/-- How many containers may be open at once. -/
def nestingLimit : Nat := 127

/-- A list of property names and expressions in JSON, each an array of the two; `read` reads an
expression. -/
def initializers? (read : Json → Option Expr) (value : Json) : Option (List (String × Expr)) :=
  value.items?.bind fun items => items.mapM fun
    | .array [.string (some name), value] => (read value).map fun e => (name, e)
    | _ => none

/-- A list of expressions in JSON; `read` reads an expression. -/
def list? (read : Json → Option Expr) (value : Json) : Option (List Expr) :=
  value.items?.bind fun items => items.mapM read

/-- The expression that a value of JSON stands for, where so many containers may still be opened. -/
def ofJson? : Nat → Json → Option Expr
  | _, .string (some name) => if name = "Null" then some null else none
  | _ + 1, .object [(some "Null", .null)] => some null
  | _ + 2, .object [(some "Literal", .object [(some name, value)])] =>
    (Literal.ofVariant? name value).map literal
  | _ + 2, .object [(some "Member", value)] =>
    match value.fields? ["owner", "member"] with
    | some [.string (some owner), .string (some name)] => some (member ⟨owner⟩ name)
    | _ => none
  | _ + 2, .object [(some "Fallback", value)] =>
    match value.fields? ["target", "source"] with
    | some [.string (some target), .string (some source)] => some (fallback ⟨target⟩ source)
    | _ => none
  | depth + 3, .object [(some "Invoke", value)] =>
    match value.fields? ["owner", "method", "args"] with
    | some [.string (some owner), .string (some method), args] =>
      (list? (ofJson? depth) args).map (invoke ⟨owner⟩ method)
    | _ => none
  | depth + 3, .object [(some "New", value)] =>
    match value.fields? ["type_name", "args", "initializers", "items"] with
    | some [.string (some type), args, initializers, items] => do
      let inPair := fun value =>
        match depth with
        | 0 => none
        | inner + 1 => ofJson? inner value
      return construct ⟨type⟩ (← list? (ofJson? depth) args)
        (← initializers? inPair initializers) (← list? (ofJson? depth) items)
    | _ => none
  | _, _ => none

/-- The expression that a text of JSON stands for. -/
def ofJsonText? (s : String) : Option Expr :=
  (Json.read? s).bind (ofJson? nestingLimit)

end Expr

/-! ## Writing -/

section
-- How a number of single precision is written is left open.
variable (single : Binary32 → Json)

/-- A literal as a variant that holds its value. -/
def Literal.toJson : Literal → Json
  | raw digits => .variant "Raw" (.ofString digits)
  | byte value => .variant "Byte" (.ofInt value.toNat)
  | .single value => .variant "Float" (single value)
  | double digits => .variant "Double" (.ofString digits)
  | long value => .variant "Long" (.ofInt value.toInt)
  | string value => .variant "Str" (.ofString value)

namespace Expr

mutual

/-- An expression as a variant, with every field of its record. -/
def toJson : Expr → Json
  | construct type args initializers items =>
    .variant "New" (.record ["type_name", "args", "initializers", "items"]
      [.ofString type.text, .array (listToJson args), .array (initializersToJson initializers),
        .array (listToJson items)])
  | member owner name =>
    .variant "Member" (.record ["owner", "member"] [.ofString owner.text, .ofString name])
  | invoke owner method args =>
    .variant "Invoke" (.record ["owner", "method", "args"]
      [.ofString owner.text, .ofString method, .array (listToJson args)])
  | literal value => .variant "Literal" (value.toJson single)
  | null => .ofString "Null"
  | fallback target source =>
    .variant "Fallback" (.record ["target", "source"] [.ofString target.text, .ofString source])

/-- Expressions one by one. -/
def listToJson : List Expr → List Json
  | [] => []
  | e :: es => toJson e :: listToJson es

/-- Property names and expressions, each as an array of the two. -/
def initializersToJson : List (String × Expr) → List Json
  | [] => []
  | (name, e) :: rest => .array [.ofString name, toJson e] :: initializersToJson rest

end

/-- An expression as a text of JSON. -/
def toJsonText (e : Expr) : String :=
  (e.toJson single).write

end Expr

end

end MarkupValues
