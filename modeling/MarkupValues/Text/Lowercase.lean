import MarkupValues.Text.CaseMap
import MarkupValues.Text.Cased

/-!
# Lower case of a whole text

`lowercase` follows Unicode's full mapping: each character becomes its small letters, and a capital
sigma becomes a final sigma where it ends a word. It ends a word when the nearest character before
it that is not ignorable has case and the nearest one after it has none.
-/

namespace MarkupValues.Text

/-- Whether the first character that is not ignorable has case. -/
def startsCased (cs : List Char) : Bool :=
  match cs.dropWhile isCaseIgnorable with
  | [] => false
  | c :: _ => isCased c

/-- Lower case of the characters that follow a place where `afterCased` tells whether the nearest
character that is not ignorable has case. -/
def lowercaseFrom (afterCased : Bool) : List Char → List Char
  | [] => []
  | c :: rest =>
    let small :=
      if c = 'Σ' then [if afterCased && !startsCased rest then 'ς' else 'σ'] else smallLetters c
    small ++ lowercaseFrom (if isCaseIgnorable c then afterCased else isCased c) rest

/-- The text in lower case. -/
def lowercase (s : String) : String :=
  String.ofList (lowercaseFrom false s.toList)

end MarkupValues.Text
