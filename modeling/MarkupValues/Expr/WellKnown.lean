import MarkupValues.Expr

/-!
# Types that results mention whatever the target

The types of the framework itself, and the type whose static method converts a text at run time.
-/

namespace MarkupValues.TypeName

/-- The type of addresses. -/
def uri : TypeName := ⟨"System.Uri"⟩

/-- The type whose members say whether an address is absolute. -/
def uriKind : TypeName := ⟨"System.UriKind"⟩

/-- The type of spans of time. -/
def timeSpan : TypeName := ⟨"System.TimeSpan"⟩

/-- The type that converts texts at run time, if no other is chosen. -/
def stringConverters : TypeName := ⟨"DotNetForHtml5.Core.TypeFromStringConverters"⟩

end MarkupValues.TypeName
