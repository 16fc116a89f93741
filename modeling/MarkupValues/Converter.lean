import MarkupValues.Grammar

/-!
# Converters

A `Converter` turns a text into an expression for a target, and may report events on the way. Each
grammar has one; a registry may hold others.
-/

namespace MarkupValues

/-- A conversion of texts for targets, with what it reports of each. -/
structure Converter where
  conversion : String → Target → Logged Reading

/-- The outcome of converting a text. -/
def Converter.convert (converter : Converter) (source : String) (target : Target) : Reading :=
  (converter.conversion source target).result

namespace Grammar

/-- Reads a text for a target by a grammar. Nothing but key times is reported on. -/
def conversion (grammar : Grammar) (source : String) (target : Target) : Logged Reading :=
  match grammar with
  | .keyTime => Reading.loggedKeyTime source target
  | _ => return grammar.convert source target

/-- The events of reading a text. -/
def events (grammar : Grammar) (source : String) (target : Target) : List Event :=
  (grammar.conversion source target).events

/-- The converter of a grammar. -/
def converter (grammar : Grammar) : Converter where
  conversion := grammar.conversion

/-- What a grammar comes to does not depend on whether anyone looks at what it reports. -/
theorem result_conversion (grammar : Grammar) (source : String) (target : Target) :
    (grammar.conversion source target).result = grammar.convert source target := by
  cases grammar <;> simp only [conversion, convert, Reading.keyTime, Logged.result_pure]

/-- The converter of a grammar reads texts as the grammar does. -/
@[simp] theorem convert_converter (grammar : Grammar) (source : String) (target : Target) :
    grammar.converter.convert source target = grammar.convert source target :=
  grammar.result_conversion source target

end Grammar

end MarkupValues
