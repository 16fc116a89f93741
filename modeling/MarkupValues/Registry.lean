import MarkupValues.Catalog
import MarkupValues.Code.Render
import MarkupValues.Converter
import MarkupValues.KeyedList

/-!
# The registry of converters

A `Registry` holds converters under the lower-cased names of types, in the order in which they were
registered. A name is looked up in lower case, without white space around it and without one global
qualifier of either language; it is registered in lower case and otherwise as it is. A name that is
taken is not registered again (`Registry.register`); the core types are put under their keys without
asking (`Registry.defaults`).
-/

namespace MarkupValues

/-- A converter with the type that it builds and the companion types, unless a caller gives
others. -/
structure Entry where
  key : String
  destination : TypeName
  companions : List TypeName
  converter : Converter

namespace Entry

/-- The entry that registers a converter under the name of a type. -/
def ofName (name : String) (destination : TypeName) (companions : List TypeName)
    (converter : Converter) : Entry :=
  ⟨Text.lowercase name, destination, companions, converter⟩

/-- What a conversion is to build when a caller gives auxiliary names: they replace the companions
position by position, and those beyond are added. -/
def target (entry : Entry) (aux : List TypeName) : Target :=
  ⟨entry.destination, aux ++ entry.companions.drop aux.length⟩

/-- Converts a text with the converter of the entry. -/
def conversion (entry : Entry) (raw : String) (aux : List TypeName) : Logged Reading :=
  entry.converter.conversion raw (entry.target aux)

/-- The expression for a text. -/
def convert (entry : Entry) (raw : String) (aux : List TypeName) : Except Failure Expr :=
  (entry.conversion raw aux).result

end Entry

/-- The converter of a core type. -/
def CoreType.entry (type : CoreType) : Entry :=
  .ofName type.key type.destination type.companions type.grammar.converter

/-- The entry of a core type converts as its grammar does. -/
theorem CoreType.convert_entry (type : CoreType) (raw : String) (aux : List TypeName) :
    type.entry.convert raw aux = type.grammar.convert raw (type.entry.target aux) :=
  type.grammar.convert_converter raw _

/-- A name that is taken already. -/
structure DuplicateKey where
  key : String
deriving DecidableEq

/-- The sentence for a name that is taken. -/
def DuplicateKey.message (duplicate : DuplicateKey) : String :=
  "a converter is already registered for '" ++ duplicate.key ++ "'"

/-- Converters by the names of types, in the order of their registration. -/
structure Registry where
  entries : KeyedList Entry

namespace Registry

/-- The registry without converters. -/
def empty : Registry := ⟨.empty⟩

/-- The registry with the converters of the core types. -/
def defaults : Registry :=
  ⟨.ofList (catalog.map fun type => (type.key, type.entry))⟩

/-- The names under which converters are registered. -/
def keys (registry : Registry) : List String :=
  registry.entries.keys

/-- Offers an entry to a registry, which takes it unless its key is taken. Whatever comes of it,
there is a registry afterwards. -/
def offer (entry : Entry) : ExceptT DuplicateKey (StateM Registry) Unit := do
  if (← get).keys.contains entry.key then
    throw ⟨entry.key⟩
  modify fun registry => ⟨registry.entries.insert entry.key entry⟩

/-- What an offer comes to: a refusal and the registry as it was, or the registry with the entry. -/
theorem run_offer (registry : Registry) (entry : Entry) :
    (offer entry).run.run registry =
      if registry.keys.contains entry.key then (.error ⟨entry.key⟩, registry)
      else (.ok (), ⟨registry.entries.insert entry.key entry⟩) := by
  show ((if registry.keys.contains entry.key then throw ⟨entry.key⟩
    else modify fun registry => ⟨registry.entries.insert entry.key entry⟩ :
      ExceptT DuplicateKey (StateM Registry) Unit).run.run registry) = _
  cases registry.keys.contains entry.key <;> rfl

/-- The registry that has taken an entry, unless it refuses it. -/
def register (registry : Registry) (entry : Entry) : Except DuplicateKey Registry :=
  match (offer entry).run.run registry with
  | (.ok (), registry') => .ok registry'
  | (.error duplicate, _) => .error duplicate

/-- The registry after it has been offered an entry, whether it has taken it or not. -/
def after (registry : Registry) (entry : Entry) : Registry :=
  ((offer entry).run.run registry).2

/-- What is left of a key after a global qualifier, if it starts with one. -/
def withoutQualifier (key : List Char) : List Char :=
  match "global::".toList.isPrefixOf? key with
  | some rest => rest
  | none => ("global.".toList.isPrefixOf? key).getD key

/-- The key that the name of a type is looked up under. -/
def lookupKey (typeName : String) : String :=
  String.ofList (withoutQualifier (Text.lowercase (Text.trim typeName)).toList)

/-- The entry for a type. -/
def lookup? (registry : Registry) (typeName : String) : Option Entry :=
  registry.entries.find? (lookupKey typeName)

/-- Whether there is an entry for a type. -/
def contains (registry : Registry) (typeName : String) : Bool :=
  (registry.lookup? typeName).isSome

/-- Converts a text as a value of a type with the converter that is registered for it. -/
def conversion (registry : Registry) (typeName raw : String) (aux : List TypeName) :
    Logged Reading :=
  match registry.lookup? typeName with
  | some entry => entry.conversion raw aux
  | none => return .error ⟨raw, ⟨typeName⟩, some .unsupportedType⟩

/-- The expression for a text as a value of a type. -/
def convertExpr (registry : Registry) (typeName raw : String) (aux : List TypeName) :
    Except Failure Expr :=
  (registry.conversion typeName raw aux).result

section
variable {registry : Registry} {typeName raw : String} {aux : List TypeName} {entry : Entry}

/-- The entry that is found for a name is what converts; its events are all there is to see. -/
theorem conversion_of_lookup? (h : registry.lookup? typeName = some entry) :
    registry.conversion typeName raw aux = entry.conversion raw aux := by
  rw [conversion, h]

/-- A name that no entry is found for is reported as it is given, with the text as it is, and
nothing is to be seen of it. -/
theorem conversion_of_lookup?_eq_none (h : registry.lookup? typeName = none) :
    registry.conversion typeName raw aux =
      pure (.error ⟨raw, ⟨typeName⟩, some .unsupportedType⟩) := by
  rw [conversion, h]

/-- The entry that is found for a name has the outcome. -/
theorem convertExpr_of_lookup? (h : registry.lookup? typeName = some entry) :
    registry.convertExpr typeName raw aux = entry.convert raw aux :=
  congrArg Logged.result (conversion_of_lookup? h)

/-- A name without an entry is not supported. -/
theorem convertExpr_of_lookup?_eq_none (h : registry.lookup? typeName = none) :
    registry.convertExpr typeName raw aux = .error ⟨raw, ⟨typeName⟩, some .unsupportedType⟩ :=
  congrArg Logged.result (conversion_of_lookup?_eq_none h)

/-- Nor is a name that the registry does not contain, which is the same. -/
theorem convertExpr_of_not_contains (h : registry.contains typeName = false) :
    registry.convertExpr typeName raw aux = .error ⟨raw, ⟨typeName⟩, some .unsupportedType⟩ :=
  convertExpr_of_lookup?_eq_none (Option.not_isSome_iff_eq_none.1 (Bool.eq_false_iff.1 h))

end

/-- The code for a text as a value of a type. -/
def convert (registry : Registry) (options : Options) (typeName raw : String)
    (aux : List TypeName) : Except Failure String :=
  (registry.convertExpr typeName raw aux).map options.render

/-- The events that the converter of a type reports for a text. -/
def events (registry : Registry) (typeName raw : String) (aux : List TypeName := []) : List Event :=
  (registry.conversion typeName raw aux).events

end Registry

end MarkupValues
