import MarkupValues.Options.Basic

/-!
# Code for an expression

`Options.render` writes an expression in the chosen language. A constructor call that has both
initializers and items is written with its initializers alone, since neither language has a form for
both.
-/

namespace MarkupValues.Options

/-- A type name as it is written. -/
def typeName (options : Options) (name : TypeName) : String :=
  if options.qualifyGlobalNames then (options.dialect.qualified name).text else name.text

/-- Parts with commas between them. -/
def commaSeparated (parts : List String) : String :=
  ", ".intercalate parts

/-- What follows a constructor call: its initializers, or else its items, if there are any. -/
def block (options : Options) (initializers items : List String) : String :=
  if !initializers.isEmpty then options.dialect.initializers.around (commaSeparated initializers)
  else if !items.isEmpty then options.dialect.items.around (commaSeparated items)
  else ""

/-- The call that converts a text to a type at run time, and the cast of its result. -/
def fallbackCall (options : Options) (target : TypeName) (source : String) : String :=
  let type := options.typeName target
  options.dialect.cast type
    (options.typeName options.fallbackConverter ++ ".ConvertFromInvariantString(" ++
      options.dialect.typeObject.around type ++ ", " ++
      options.dialect.stringLiteral source ++ ")")

mutual

/-- The code for an expression. -/
def render (options : Options) : Expr → String
  | .construct type args initializers items =>
    options.dialect.new ++ options.typeName type ++ "(" ++
      commaSeparated (renderAll options args) ++ ")" ++
      options.block (renderInitializers options initializers) (renderAll options items)
  | .member owner name => options.typeName owner ++ "." ++ name
  | .invoke owner method args =>
    options.typeName owner ++ "." ++ method ++ "(" ++ commaSeparated (renderAll options args) ++ ")"
  | .literal value => options.dialect.literal value
  | .null => options.dialect.null
  | .fallback target source => options.fallbackCall target source

/-- The code for each of several expressions. -/
def renderAll (options : Options) : List Expr → List String
  | [] => []
  | e :: es => render options e :: renderAll options es

/-- The code for each of several properties that are set. -/
def renderInitializers (options : Options) : List (String × Expr) → List String
  | [] => []
  | (name, e) :: rest =>
    (options.dialect.setter ++ name ++ " = " ++ render options e) ::
      renderInitializers options rest

end

end MarkupValues.Options
