import MarkupValues.Proofs.Code.Characters

/-!
# Verbatim strings

C# code writes every string verbatim. `CSharp.readString` reads the literal at the start of a text:
after the sign and the opening quote each character stands for itself, but for quotes, of which two
stand for one and one alone ends the string. It reads back every string, and no further than to the
end of its literal, also where the literal stands in the call that converts a text at run time
(`CSharp.readString_literal_and_fallback`).
-/

namespace MarkupValues.CSharp

/-- The string that the verbatim literal at the start of a text writes, and what follows the
literal. Nothing but two quotes in a row has a meaning of its own in it. -/
def readString : List Char → Option (List Char × List Char)
  | '@' :: '"' :: cs => Dialect.readQuoted (· == '"') (fun _ _ => '"') cs
  | _ => none

/-- The characters of the verbatim literal of a string, from the sign before its opening quote to
the closing one. -/
def literalChars (value : String) : List Char :=
  (Language.csharp.dialect.stringLiteral value).toList

/-- What stands before the literal in a call that converts a text to a type at run time: the cast,
the method of the run-time converter, and the type once more. -/
def fallbackStart (options : Options) (target : TypeName) : List Char :=
  '(' :: ((options.typeName target).toList ++ ')' ::
    ((options.typeName options.fallbackConverter).toList ++
      (".ConvertFromInvariantString(typeof(".toList ++
        ((options.typeName target).toList ++ [')', ',', ' ']))))

/-- A literal is read back as the string that it was written from, up to its end, before any text
that does not start with a quote. -/
theorem readString_append (value : String) {rest : List Char}
    (hrest : Text.Stops (· == '"') rest) :
    readString (literalChars value ++ rest) = some (value.toList, rest) := by
  have hchars : literalChars value ++ rest =
      '@' :: '"' :: (Dialect.doubleQuotes value.toList ++ '"' :: rest) := by
    rw [literalChars, Dialect.toList_stringLiteral, List.append_assoc, List.append_assoc]
    rfl
  rw [hchars]
  exact Dialect.readQuoted_doubleQuotes rfl rfl (fun _ _ hc => beq_iff_eq.1 hc) hrest

/-- The literal in a call that converts a text at run time stands right before the end of the call,
so that a parenthesis follows it and no quote. -/
theorem code_fallback_eq {options : Options} (hlanguage : options.language = .csharp)
    (target : TypeName) (value : String) :
    options.code (.fallback target value) =
      fallbackStart options target ++ (literalChars value ++ [')']) := by
  rw [Options.code_fallback_csharp hlanguage, Options.callCode, fallbackStart, literalChars,
    Dialect.toList_stringLiteral, Options.dialect, hlanguage]
  simp [Language.dialect]

/-- A string is read back from its literal, with what follows the literal left over, unless a quote
follows. In a call that converts a text to a type at run time the literal stands before the closing
parenthesis, and it is read back there whatever follows the call. -/
theorem readString_literal_and_fallback (value : String) :
    (∀ rest, Text.Stops (· == '"') rest →
      readString (literalChars value ++ rest) = some (value.toList, rest)) ∧
    ∀ options : Options, options.language = .csharp → ∀ (target : TypeName) (after : List Char),
      (options.render (.fallback target value)).toList ++ after =
          fallbackStart options target ++ (literalChars value ++ ')' :: after) ∧
        readString (literalChars value ++ ')' :: after) = some (value.toList, ')' :: after) := by
  constructor
  · intro rest hrest
    exact readString_append value hrest
  · intro options hlanguage target after
    refine ⟨?_, readString_append value (Text.stops_cons.2 rfl)⟩
    show options.code (.fallback target value) ++ after = _
    rw [code_fallback_eq hlanguage]
    simp

/-- A string with runs of quotes at its ends and inside, a backslash and a line break, before more
code and in a call. -/
theorem readString_literal_and_fallback_quotes :
    readString (literalChars "\"\"a\\\"\"\"\nb\"" ++ [';']) =
      some ("\"\"a\\\"\"\"\nb\"".toList, [';']) ∧
    (Options.render {} (.fallback ⟨"Geometry"⟩ "\"\"a\\\"\"\"\nb\"")).toList ++ [';'] =
        fallbackStart {} ⟨"Geometry"⟩ ++ (literalChars "\"\"a\\\"\"\"\nb\"" ++ [')', ';']) ∧
      readString (literalChars "\"\"a\\\"\"\"\nb\"" ++ [')', ';']) =
        some ("\"\"a\\\"\"\"\nb\"".toList, [')', ';']) := by
  obtain ⟨hliteral, hcall⟩ := readString_literal_and_fallback "\"\"a\\\"\"\"\nb\""
  exact ⟨hliteral [';'] (Text.stops_cons.2 rfl), hcall {} rfl ⟨"Geometry"⟩ [';']⟩

end MarkupValues.CSharp
