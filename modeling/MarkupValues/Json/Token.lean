import MarkupValues.Json.Value
import MarkupValues.Text.Digits
import MarkupValues.Text.Hex

/-!
# JSON tokens

The tokens of JSON in its strict form: no control characters in strings, no leading zeros and no
words but three. `JsonToken.next?` reads the one token at the start of a text.
-/

namespace MarkupValues

/-- A token of JSON. -/
inductive JsonToken where
  | openArray
  | closeArray
  | openObject
  | closeObject
  | comma
  | colon
  | null
  | bool (value : Bool)
  | number (value : JsonNumber)
  | string (text : Option String)
deriving DecidableEq

namespace JsonToken

/-- One character of a string literal, or the half of a surrogate pair that an escape stands for. -/
inductive StringPart where
  | char (c : Char)
  | surrogate (code : Nat)

/-- What a four-digit escape stands for. -/
def StringPart.ofCode (code : Nat) : StringPart :=
  if 0xD800 ≤ code ∧ code < 0xE000 then surrogate code else char (Char.ofNat code)

/-- The text of a string literal, unless half a surrogate pair is without its other half. -/
def joinParts : List StringPart → Option (List Char)
  | [] => some []
  | .char c :: rest => (joinParts rest).map (c :: ·)
  | .surrogate high :: .surrogate low :: rest =>
    if high < 0xDC00 ∧ 0xDC00 ≤ low then
      (joinParts rest).map
        (Char.ofNat (0x10000 + (high - 0xD800) * 0x400 + (low - 0xDC00)) :: ·)
    else none
  | .surrogate _ :: _ => none

/-- The character that a letter stands for after a backslash. -/
def unescape? : Char → Option Char
  | '"' => some '"'
  | '\\' => some '\\'
  | '/' => some '/'
  | 'b' => some '\x08'
  | 'f' => some '\x0c'
  | 'n' => some '\n'
  | 'r' => some '\r'
  | 't' => some '\t'
  | _ => none

/-- The number that four hexadecimal digits write. -/
def code? (a b c d : Char) : Option Nat := do
  let a ← Text.hexDigit? a
  let b ← Text.hexDigit? b
  let c ← Text.hexDigit? c
  let d ← Text.hexDigit? d
  return ((a.val * 16 + b.val) * 16 + c.val) * 16 + d.val

/-- The rest of a string literal after its opening quote, and what follows it. -/
def stringParts : List Char → Option (List StringPart × List Char)
  | [] => none
  | '"' :: rest => some ([], rest)
  | '\\' :: 'u' :: a :: b :: c :: d :: rest =>
    match code? a b c d, stringParts rest with
    | some code, some (parts, rest) => some (.ofCode code :: parts, rest)
    | _, _ => none
  | '\\' :: c :: rest =>
    match unescape? c, stringParts rest with
    | some c, some (parts, rest) => some (.char c :: parts, rest)
    | _, _ => none
  | c :: rest =>
    if c.toNat < 0x20 ∨ c = '\\' then none
    else (stringParts rest).map fun (parts, rest) => (.char c :: parts, rest)

/-- The digits after a point, of which there is at least one, and what follows them; no digits if
there is no point. -/
def fraction? : List Char → Option (List (Fin 10) × List Char)
  | '.' :: cs =>
    let digits := Text.leadingDigits cs
    if digits.isEmpty then none
    else some (digits.map fun c => Fin.ofNat 10 (c.toNat - '0'.toNat), Text.afterDigits cs)
  | cs => some ([], cs)

/-- The digits of a power of ten, of which there is at least one, and what follows them. -/
def powerDigits? (negative : Bool) (cs : List Char) : Option (Option Int × List Char) :=
  let digits := Text.leadingDigits cs
  let value : Int := Text.digitsValue digits
  if digits.isEmpty then none
  else some (some (if negative then -value else value), Text.afterDigits cs)

/-- The power of ten of a number, if it has one, and what follows it. -/
def exponent? : List Char → Option (Option Int × List Char)
  | c :: cs =>
    if c = 'e' ∨ c = 'E' then
      match cs with
      | '-' :: cs => powerDigits? true cs
      | '+' :: cs => powerDigits? false cs
      | cs => powerDigits? false cs
    else some (none, c :: cs)
  | [] => some (none, [])

/-- A number after its sign, and what follows it. -/
def number? (negative : Bool) (cs : List Char) : Option (JsonNumber × List Char) :=
  let digits := Text.leadingDigits cs
  if digits.isEmpty ∨ (digits.length ≠ 1 ∧ digits.head? = some '0') then none
  else do
    let (fraction, rest) ← fraction? (Text.afterDigits cs)
    let (exponent, rest) ← exponent? rest
    return (⟨negative, Text.digitsValue digits, fraction, exponent⟩, rest)

/-- The token that starts with a given character, and what follows it. -/
def next? (c : Char) (rest : List Char) : Option (JsonToken × List Char) :=
  match c with
  | '[' => some (openArray, rest)
  | ']' => some (closeArray, rest)
  | '{' => some (openObject, rest)
  | '}' => some (closeObject, rest)
  | ',' => some (comma, rest)
  | ':' => some (colon, rest)
  | 'n' => ("ull".toList.isPrefixOf? rest).map fun rest => (null, rest)
  | 't' => ("rue".toList.isPrefixOf? rest).map fun rest => (bool true, rest)
  | 'f' => ("alse".toList.isPrefixOf? rest).map fun rest => (bool false, rest)
  | '"' => (stringParts rest).map fun (parts, rest) =>
      (string ((joinParts parts).map String.ofList), rest)
  | '-' => (number? true rest).map fun (n, rest) => (number n, rest)
  | c => (number? false (c :: rest)).map fun (n, rest) => (number n, rest)

end JsonToken

end MarkupValues
