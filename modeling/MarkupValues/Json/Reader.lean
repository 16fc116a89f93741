import MarkupValues.Json.Scan

/-!
# Reading JSON

`Json.read?` goes through the tokens of a text once, with the containers that are still open on a
stack. `Progress` says what has been read so far and so what may come next; a token either moves it
on or is out of place. The nesting of a text is not limited here.
-/

namespace MarkupValues.Json

/-- A container whose end has not been read, with what it holds so far, the last first. -/
inductive OpenContainer where
  | array (items : List Json)
  /-- An object, and the name of the member whose value is being read. -/
  | object (members : List (Option String × Json)) (name : Option String)

/-- What has been read, by what may come next. -/
inductive Progress where
  /-- A value has to come. -/
  | value (stack : List OpenContainer)
  /-- An array has been opened: its first item comes, or its end. -/
  | itemOrEnd (stack : List OpenContainer)
  /-- An object has been opened: its first name comes, or its end. -/
  | nameOrEnd (stack : List OpenContainer)
  /-- A name has to come, after these members. -/
  | memberName (members : List (Option String × Json)) (stack : List OpenContainer)
  /-- A colon has to come, after this name. -/
  | colon (members : List (Option String × Json)) (name : Option String)
      (stack : List OpenContainer)
  /-- A value is complete: the innermost container goes on or ends. -/
  | complete (value : Json) (stack : List OpenContainer)

/-- A token where a value has to come. -/
def startValue (stack : List OpenContainer) : JsonToken → Option Progress
  | .null => some (.complete null stack)
  | .bool value => some (.complete (bool value) stack)
  | .number value => some (.complete (number value) stack)
  | .string text => some (.complete (string text) stack)
  | .openArray => some (.itemOrEnd stack)
  | .openObject => some (.nameOrEnd stack)
  | _ => none

/-- A token after a complete value. -/
def continueContainer (value : Json) : List OpenContainer → JsonToken → Option Progress
  | .array items :: stack, .comma => some (.value (.array (value :: items) :: stack))
  | .array items :: stack, .closeArray => some (.complete (array (value :: items).reverse) stack)
  | .object members name :: stack, .comma => some (.memberName ((name, value) :: members) stack)
  | .object members name :: stack, .closeObject =>
    some (.complete (object ((name, value) :: members).reverse) stack)
  | _, _ => none

namespace Progress

/-- One token further. -/
def step : Progress → JsonToken → Option Progress
  | value stack, token => startValue stack token
  | itemOrEnd stack, .closeArray => some (complete (array []) stack)
  | itemOrEnd stack, token => startValue (.array [] :: stack) token
  | nameOrEnd stack, .closeObject => some (complete (object []) stack)
  | nameOrEnd stack, .string text => some (colon [] text stack)
  | nameOrEnd _, _ => none
  | memberName members stack, .string text => some (colon members text stack)
  | memberName _ _, _ => none
  | colon members name stack, .colon => some (value (.object members name :: stack))
  | colon _ _ _, _ => none
  | complete v stack, token => continueContainer v stack token

/-- The value read, once no container is open. -/
def result? : Progress → Option Json
  | complete v [] => some v
  | _ => none

/-- The value read when the tokens have been gone through. -/
def run (progress : Progress) : List JsonToken → Option Json
  | [] => progress.result?
  | token :: tokens => (progress.step token).bind fun next => next.run tokens

end Progress

/-- The value that a text writes, if it writes one and nothing else. -/
def read? (s : String) : Option Json :=
  (JsonToken.scan s.toList).bind (Progress.value []).run

end MarkupValues.Json
