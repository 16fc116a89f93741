import MarkupValues.Code.Dialect
import MarkupValues.Expr.WellKnown

/-!
# How code is written

The choices that a caller has: the language, whether type names are qualified from the outermost
namespace, and the type that converts texts at run time.
-/

namespace MarkupValues

/-- How code is written. -/
structure Options where
  language : Language := .csharp
  /-- Whether type names start with the global qualifier of the language. -/
  qualifyGlobalNames : Bool := true
  /-- The type that converts texts at run time. -/
  fallbackConverter : TypeName := .stringConverters
deriving DecidableEq

/-- The spellings of the chosen language. -/
def Options.dialect (options : Options) : Dialect :=
  options.language.dialect

end MarkupValues
