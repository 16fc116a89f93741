import MarkupValues.Text.AsciiCase
import MarkupValues.Text.Digits

/-!
# Font weights

A font weight has a name and a code; each code has one name.
-/

namespace MarkupValues.FontWeight

/-- The names of the weights and their codes, from thin to heavy. -/
def table : List (String × Nat) :=
  [("Thin", 100), ("ExtraLight", 200), ("Light", 300), ("SemiLight", 350), ("Normal", 400),
    ("Medium", 500), ("SemiBold", 600), ("Bold", 700), ("ExtraBold", 800), ("Black", 900),
    ("ExtraBlack", 950)]

/-- The row of the weight with a given name, in any ASCII case. -/
def find? (name : String) : Option (String × Nat) :=
  table.find? fun entry => Text.sameIgnoringCase entry.1 name

/-- The weight name that a text spells in any ASCII case. -/
def byName? (name : String) : Option String :=
  (find? name).map (·.1)

/-- The name of the weight with a given code. -/
def byCode? (code : Nat) : Option String :=
  (table.find? fun entry => entry.2 == code).map (·.1)

/-- The code of the weight with a given name, in any ASCII case. -/
def codeOf? (name : String) : Option Nat :=
  (find? name).map (·.2)

/-- The code that a text writes: digits, with a plus sign before them or none. -/
def code? (s : String) : Option Nat :=
  match s.toList with
  | '+' :: digits => Text.natural? digits
  | digits => Text.natural? digits

/-- The name of the weight that a text gives by name or by code. -/
def ofText? (s : String) : Option String :=
  (byName? s).or ((code? s).bind byCode?)

end MarkupValues.FontWeight
