import MarkupValues.Failure

/-!
# Lists of numbers

The numbers of a list are separated by commas and spaces, in any number and arrangement. A token is
a longest run of other characters, and is not looked into here.
-/

namespace MarkupValues.Numeric

/-- Whether a character separates numbers. -/
def isSeparator (c : Char) : Bool :=
  c = ',' || c = ' '

/-- The longest runs without separators, in order. -/
def runs (cs : List Char) : List (List Char) :=
  (cs.splitOnP isSeparator).filter (!·.isEmpty)

/-- The tokens of a list of numbers. -/
def tokens (s : String) : List String :=
  (runs s.toList).map String.ofList

/-- The tokens of a list whose length has to be among the admitted ones. -/
def tokensOf (arity : Arity) (s : String) : Except Cause (List String) :=
  if arity.admits (tokens s).length then .ok (tokens s)
  else .error (.tokenCount arity (tokens s).length)

end MarkupValues.Numeric
