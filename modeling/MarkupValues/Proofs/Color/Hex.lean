import MarkupValues.Color.Argb
import MarkupValues.Proofs.Reading.Failures
import MarkupValues.Proofs.Text.Lowercase

/-!
# The hexadecimal forms of a colour

A colour has eight hexadecimal digits, two for each of its bytes (`Argb.hexDigits`), and three, four
or six digits stand for eight (`Argb.inFull`). The digits after a number sign are read as the colour
that has them in some letter case (`ofHexDigits_eq_ok_iff`), and otherwise the first character that
is no digit is at fault (`ofHexDigits_failsAtFirst`). `ofHexOnBytes` reads a text in the arithmetic
of bytes, one operation after another; no operation leaves their range (`ofHexOnBytes_eq`).
`ofHex_forms` puts these together with the other causes of failure and their order.
-/

namespace MarkupValues

namespace Text

/-- Whether a character is a hexadecimal digit in either letter case: its small form is one of the
sixteen digits. -/
def isHexDigit (c : Char) : Bool :=
  "0123456789abcdef".toList.contains c.toLower

/-- A character has the value of the digit that is its small form. The characters in the ranges of
the digits are gone through, and no others have a value. -/
theorem hexDigit?_eq_some_iff {c : Char} {d : Fin 16} :
    hexDigit? c = some d ↔ c.toLower = Nat.digitChar d := by
  constructor
  · intro h
    have hranges : (0x30 ≤ c.toNat ∧ c.toNat ≤ 0x39) ∨ (0x61 ≤ c.toNat ∧ c.toNat ≤ 0x66) ∨
        (0x41 ≤ c.toNat ∧ c.toNat ≤ 0x46) := by
      unfold hexDigit? at h
      split at h
      · next hrange => exact .inl hrange
      · split at h
        · next hrange => exact .inr (.inl hrange)
        · split at h
          · next hrange => exact .inr (.inr hrange)
          · cases h
    revert h
    rcases hranges with h | h | h <;> apply CodePoints.of_forall_range' h.1 h.2 <;> revert d <;>
      decide
  · intro h
    by_cases hcapital : 0x41 ≤ c.toNat ∧ c.toNat ≤ 0x5A
    · revert h
      apply CodePoints.of_forall_range' hcapital.1 hcapital.2
      revert d
      decide
    · have hsame : c.toLower = c := dif_neg hcapital
      have hvalue : ∀ d : Fin 16, hexDigit? (Nat.digitChar d) = some d := by decide
      rw [← hsame, h, hvalue]

/-- The list of the digits and the table of their values admit the same characters. -/
theorem isHexDigit_eq (c : Char) : isHexDigit c = (hexDigit? c).isSome := by
  have halphabet : "0123456789abcdef".toList =
      (List.finRange 16).map fun d : Fin 16 => Nat.digitChar d := by
    decide
  rw [Bool.eq_iff_iff, Option.isSome_iff_exists, isHexDigit, List.contains_iff_mem, halphabet,
    List.mem_map]
  simp only [hexDigit?_eq_some_iff, List.mem_finRange, true_and]
  exact exists_congr fun _ => eq_comm

end Text

namespace Argb

open Text (isHexDigit)

variable {α β : Type} {c : Argb} {digits : List Char}

/-- The two digits of a byte, in small letters, the one for the sixteens first. -/
def byteDigits (v : UInt8) : List Char :=
  [Nat.digitChar (v.toNat / 16), Nat.digitChar (v.toNat % 16)]

/-- The eight digits of a colour, in small letters: its opacity, red, green and blue. -/
def hexDigits (c : Argb) : List Char :=
  [c.a, c.r, c.g, c.b].flatMap byteDigits

/-- The eight digits that three, four, six or eight digits stand for: those of the short forms count
for two, and the opacity is full where it has none. -/
def inFull : List Char → List Char
  | [r, g, b] => ['f', 'f', r, r, g, g, b, b]
  | [a, r, g, b] => [a, a, r, r, g, g, b, b]
  | [r₁, r₀, g₁, g₀, b₁, b₀] => ['f', 'f', r₁, r₀, g₁, g₀, b₁, b₀]
  | digits => digits

/-- Whether digits spell a colour, in any letter case: the eight digits that they stand for are
those of the colour. -/
def Spells (digits : List Char) (c : Argb) : Prop :=
  (inFull digits).map Char.toLower = c.hexDigits

/-! ## Bytes -/

/-- A character is read as a digit exactly when its small form is that digit. -/
theorem hexDigit_eq_ok_iff {x : Char} {d : Fin 16} :
    hexDigit x = .ok d ↔ x.toLower = Nat.digitChar d := by
  rw [← Text.hexDigit?_eq_some_iff, hexDigit]
  split
  · next h => rw [h, Except.ok.injEq, Option.some.injEq]
  · next h => rw [h]; exact ⟨nofun, nofun⟩

/-- Two digits are read as the byte that has them in some letter case: a byte has its digits by
division, and two digits make it by multiplication. -/
theorem byte_eq_ok_iff {high low : Char} {v : UInt8} :
    byte high low = .ok v ↔ [high, low].map Char.toLower = byteDigits v := by
  constructor
  · intro h
    obtain ⟨d, hd, h⟩ := Reading.bind_eq_ok.1 h
    obtain ⟨e, he, h⟩ := Reading.bind_eq_ok.1 h
    cases h
    have hvalue : (UInt8.ofNat (16 * d.val + e.val)).toNat = 16 * d.val + e.val :=
      UInt8.toNat_ofNat_of_lt' (by simp only [UInt8.size]; omega)
    rw [byteDigits, hvalue, show (16 * d.val + e.val) / 16 = d.val by omega,
      show (16 * d.val + e.val) % 16 = e.val by omega, ← hexDigit_eq_ok_iff.1 hd,
      ← hexDigit_eq_ok_iff.1 he]
    rfl
  · intro h
    have hv : v.toNat < 256 := v.toNat_lt
    obtain ⟨hhigh, hlow, -⟩ : high.toLower = Nat.digitChar (v.toNat / 16) ∧
        low.toLower = Nat.digitChar (v.toNat % 16) ∧ True := by
      simpa [byteDigits] using h
    have hd : hexDigit high = .ok ⟨v.toNat / 16, by omega⟩ := hexDigit_eq_ok_iff.2 hhigh
    have he : hexDigit low = .ok ⟨v.toNat % 16, by omega⟩ := hexDigit_eq_ok_iff.2 hlow
    have hvalue : UInt8.ofNat (16 * (v.toNat / 16) + v.toNat % 16) = v := by
      rw [Nat.div_add_mod, UInt8.ofNat_toNat]
    rw [byte, Reading.bind_of_ok hd, Reading.bind_of_ok he]
    exact congrArg Except.ok hvalue

/-! ## Digits -/

/-- Digits are read as the eight that they stand for, so that only the reading of eight digits is
looked into below. -/
theorem ofHexDigits_inFull (digits : List Char) :
    ofHexDigits (inFull digits) = ofHexDigits digits := by
  unfold inFull
  split <;> rfl

/-- What holds of three, four, six and eight digits holds of digits of an admitted number. The cases
are those that the reader tells apart. -/
theorem of_forms {p : List Char → Prop} (short : ∀ r g b, p [r, g, b])
    (shortWithOpacity : ∀ a r g b, p [a, r, g, b])
    (long : ∀ r₁ r₀ g₁ g₀ b₁ b₀, p [r₁, r₀, g₁, g₀, b₁, b₀])
    (longWithOpacity : ∀ a₁ a₀ r₁ r₀ g₁ g₀ b₁ b₀, p [a₁, a₀, r₁, r₀, g₁, g₀, b₁, b₀])
    (h : digits.length ∈ [3, 4, 6, 8]) : p digits := by
  match digits with
  | [_, _, _] => exact short ..
  | [_, _, _, _] => exact shortWithOpacity ..
  | [_, _, _, _, _, _] => exact long ..
  | [_, _, _, _, _, _, _, _] => exact longWithOpacity ..
  | [] | [_] | [_, _] | [_, _, _, _, _] | [_, _, _, _, _, _, _] => simp at h
  | _ :: _ :: _ :: _ :: _ :: _ :: _ :: _ :: _ :: rest =>
    simp only [List.length_cons, List.mem_cons, List.not_mem_nil, or_false] at h
    omega

/-- Any other number of digits is refused for the number, whatever the characters are. The number
sign counts among those that are reported. -/
theorem ofHexDigits_of_length (h : digits.length ∉ [3, 4, 6, 8]) :
    ofHexDigits digits = .error (.tokenCount hexLengths (digits.length + 1)) := by
  unfold ofHexDigits
  split <;> first | rfl | simp at h

/-- Digits of any number that is no short one stand for themselves, the eight of the longest form
included. -/
theorem inFull_of_length (h : digits.length ∉ [3, 4, 6]) : inFull digits = digits := by
  unfold inFull
  split <;> first | rfl | simp at h

/-- Eight digits are read two by two, and each two of them have to be the digits of a byte of the
colour. The shorter forms come to this by `ofHexDigits_inFull`. -/
theorem ofHexDigits_eight_eq_ok_iff {a₁ a₀ r₁ r₀ g₁ g₀ b₁ b₀ : Char} :
    ofHexDigits [a₁, a₀, r₁, r₀, g₁, g₀, b₁, b₀] = .ok c ↔
      [a₁, a₀, r₁, r₀, g₁, g₀, b₁, b₀].map Char.toLower = c.hexDigits := by
  have hpairs : [a₁, a₀, r₁, r₀, g₁, g₀, b₁, b₀].map Char.toLower = c.hexDigits ↔
      byte a₁ a₀ = .ok c.a ∧ byte r₁ r₀ = .ok c.r ∧ byte g₁ g₀ = .ok c.g ∧
        byte b₁ b₀ = .ok c.b := by
    simp [byte_eq_ok_iff, hexDigits, byteDigits, and_assoc]
  rw [hpairs]
  constructor
  · intro h
    obtain ⟨a, ha, h⟩ := Reading.bind_eq_ok.1 h
    obtain ⟨r, hr, h⟩ := Reading.bind_eq_ok.1 h
    obtain ⟨g, hg, h⟩ := Reading.bind_eq_ok.1 h
    obtain ⟨b, hb, h⟩ := Reading.bind_eq_ok.1 h
    cases h
    exact ⟨ha, hr, hg, hb⟩
  · rintro ⟨ha, hr, hg, hb⟩
    rw [ofHexDigits, Reading.bind_of_ok ha, Reading.bind_of_ok hr, Reading.bind_of_ok hg,
      Reading.bind_of_ok hb]
    rfl

/-- A colour is spelled by digits of an admitted number only, since no other digits stand for
eight. -/
theorem length_of_spells (h : Spells digits c) : digits.length ∈ [3, 4, 6, 8] := by
  by_contra hlength
  rw [Spells, inFull_of_length fun hshort => hlength (by simp at hshort ⊢; omega)] at h
  have height : digits.length = 8 := by
    rw [← List.length_map, h]
    rfl
  exact hlength (by simp [height])

/-- Digits are read as the colour that they spell. -/
theorem ofHexDigits_eq_ok_iff : ofHexDigits digits = .ok c ↔ Spells digits c := by
  by_cases hlength : digits.length ∈ [3, 4, 6, 8]
  · rw [← ofHexDigits_inFull, Spells]
    exact of_forms (p := fun digits => ofHexDigits (inFull digits) = .ok c ↔
        (inFull digits).map Char.toLower = c.hexDigits)
      (fun _ _ _ => ofHexDigits_eight_eq_ok_iff) (fun _ _ _ _ => ofHexDigits_eight_eq_ok_iff)
      (fun _ _ _ _ _ _ => ofHexDigits_eight_eq_ok_iff)
      (fun _ _ _ _ _ _ _ _ => ofHexDigits_eight_eq_ok_iff) hlength
  · rw [ofHexDigits_of_length hlength]
    exact iff_of_false nofun fun h => hlength (length_of_spells h)

/-! ## The first character at fault -/

/-- An outcome that is a success where all characters are hexadecimal digits, and else the failure
of the first one that is none. It is shown of each step of reading and kept when steps follow one
another. -/
def FailsAtFirst (cs : List Char) (outcome : Except Cause α) : Prop :=
  match cs.find? fun x => !isHexDigit x with
  | none => ∃ value, outcome = .ok value
  | some x => outcome = .error (.invalidToken x)

/-- A result that looks at no character does not fail. -/
theorem failsAtFirst_pure (value : α) : FailsAtFirst [] (pure value) :=
  ⟨value, rfl⟩

/-- One character is a digit, or the reader fails at it. -/
theorem hexDigit_failsAtFirst (x : Char) : FailsAtFirst [x] (hexDigit x) := by
  unfold FailsAtFirst hexDigit
  cases h : Text.hexDigit? x <;> simp [Text.isHexDigit_eq, h]

/-- A sequence fails at the first character that its steps fail at: the second step is not reached
where the first one fails. -/
theorem FailsAtFirst.bind {cs ds : List Char} {outcome : Except Cause α} {f : α → Except Cause β}
    (h : FailsAtFirst cs outcome) (hf : ∀ value, FailsAtFirst ds (f value)) :
    FailsAtFirst (cs ++ ds) (outcome >>= f) := by
  unfold FailsAtFirst at h ⊢
  rw [List.find?_append]
  cases hfind : cs.find? fun x => !isHexDigit x with
  | none =>
    rw [hfind] at h
    obtain ⟨value, hvalue⟩ := h
    rw [Reading.bind_of_ok hvalue, Option.none_or]
    exact hf value
  | some x =>
    rw [hfind] at h
    exact Reading.bind_of_error h f

/-- Two characters fail at the first of them that is no digit. -/
theorem byte_failsAtFirst (high low : Char) : FailsAtFirst [high, low] (byte high low) :=
  (hexDigit_failsAtFirst high).bind fun _ => (hexDigit_failsAtFirst low).bind fun _ =>
    failsAtFirst_pure _

/-- A digit that counts for two is looked at twice, but it is one character. -/
theorem doubled_failsAtFirst (x : Char) : FailsAtFirst [x] (doubled x) := by
  have h := byte_failsAtFirst x x
  unfold FailsAtFirst at h ⊢
  cases hx : isHexDigit x <;> simpa [doubled, hx] using h

/-- Digits of an admitted number are refused for the first one that is none, in the order in
which they are written. In each form the bytes are read from the left, and each byte from its
first digit. -/
theorem ofHexDigits_failsAtFirst (h : digits.length ∈ [3, 4, 6, 8]) :
    FailsAtFirst digits (ofHexDigits digits) := by
  refine of_forms (p := fun digits => FailsAtFirst digits (ofHexDigits digits)) ?_ ?_ ?_ ?_ h
  · intro r g b
    exact (doubled_failsAtFirst r).bind fun _ => (doubled_failsAtFirst g).bind fun _ =>
      (doubled_failsAtFirst b).bind fun _ => failsAtFirst_pure _
  · intro a r g b
    exact (doubled_failsAtFirst a).bind fun _ => (doubled_failsAtFirst r).bind fun _ =>
      (doubled_failsAtFirst g).bind fun _ => (doubled_failsAtFirst b).bind fun _ =>
        failsAtFirst_pure _
  · intro r₁ r₀ g₁ g₀ b₁ b₀
    exact (byte_failsAtFirst r₁ r₀).bind fun _ => (byte_failsAtFirst g₁ g₀).bind fun _ =>
      (byte_failsAtFirst b₁ b₀).bind fun _ => failsAtFirst_pure _
  · intro a₁ a₀ r₁ r₀ g₁ g₀ b₁ b₀
    exact (byte_failsAtFirst a₁ a₀).bind fun _ => (byte_failsAtFirst r₁ r₀).bind fun _ =>
      (byte_failsAtFirst g₁ g₀).bind fun _ => (byte_failsAtFirst b₁ b₀).bind fun _ =>
        failsAtFirst_pure _

/-! ## In the arithmetic of bytes -/

/-- How a computation on bytes ends without a result: an operation leaves the range of bytes, or the
text is refused. -/
inductive Stop where
  /-- The text is refused. -/
  | refused (cause : Cause)
  /-- An operation has left the range of bytes. -/
  | overflow
deriving DecidableEq

/-- The byte that is the result of an operation, when the result is one. An operation out of range
stops the computation. -/
def inRange (n : Int) : Except Stop UInt8 :=
  if 0 ≤ n ∧ n < 256 then .ok (UInt8.ofNat n.toNat) else .error .overflow

/-- The value of a digit, by its distance from the first one of its kind, ten more for letters. -/
def hexDigitOnBytes (x : Char) : Except Stop UInt8 :=
  if '0' ≤ x ∧ x ≤ '9' then inRange (x.toUInt8.toNat - '0'.toUInt8.toNat)
  else if 'a' ≤ x ∧ x ≤ 'f' then do
    let n ← inRange (x.toUInt8.toNat - 'a'.toUInt8.toNat)
    inRange (n.toNat + 10)
  else if 'A' ≤ x ∧ x ≤ 'F' then do
    let n ← inRange (x.toUInt8.toNat - 'A'.toUInt8.toNat)
    inRange (n.toNat + 10)
  else .error (.refused (.invalidToken x))

/-- The byte that two digits write, the first times sixteen and the second added to it. -/
def byteOnBytes (high low : Char) : Except Stop UInt8 := do
  let high ← hexDigitOnBytes high
  let sixteens ← inRange (high.toNat * 16)
  let low ← hexDigitOnBytes low
  inRange (sixteens.toNat + low.toNat)

/-- The byte that a digit writes when it counts for two, which is the digit times seventeen. -/
def doubledOnBytes (x : Char) : Except Stop UInt8 := do
  let n ← hexDigitOnBytes x
  inRange (n.toNat * 17)

/-- The colour that hexadecimal digits write, with every operation on bytes. -/
def ofHexDigitsOnBytes : List Char → Except Stop Argb
  | [r, g, b] => return ⟨255, ← doubledOnBytes r, ← doubledOnBytes g, ← doubledOnBytes b⟩
  | [a, r, g, b] =>
    return ⟨← doubledOnBytes a, ← doubledOnBytes r, ← doubledOnBytes g, ← doubledOnBytes b⟩
  | [r₁, r₀, g₁, g₀, b₁, b₀] =>
    return ⟨255, ← byteOnBytes r₁ r₀, ← byteOnBytes g₁ g₀, ← byteOnBytes b₁ b₀⟩
  | [a₁, a₀, r₁, r₀, g₁, g₀, b₁, b₀] =>
    return ⟨← byteOnBytes a₁ a₀, ← byteOnBytes r₁ r₀, ← byteOnBytes g₁ g₀, ← byteOnBytes b₁ b₀⟩
  | digits => .error (.refused (.tokenCount hexLengths (digits.length + 1)))

/-- The colour that a text writes in a hexadecimal form, with every operation on bytes. -/
def ofHexOnBytes (s : String) : Except Stop Argb :=
  match s.toList with
  | [] => .error (.refused (.tokenCount hexLengths 0))
  | '#' :: digits => ofHexDigitsOnBytes digits
  | x :: _ => .error (.refused (.invalidToken x))

/-- A number below 256 is the number of the byte made of it. -/
theorem toNat_ofNat {n : Nat} (h : n < 256) : (UInt8.ofNat n).toNat = n :=
  UInt8.toNat_ofNat_of_lt' h

/-- An operation with a result below 256 goes on with the byte of this result. -/
theorem inRange_of_lt {n : Nat} (h : n < 256) : inRange n = .ok (UInt8.ofNat n) :=
  if_pos ⟨by omega, by omega⟩

/-- A product below 256 of numbers in range is in range. -/
theorem inRange_mul {m n : Nat} (hm : m < 256) (h : m * n < 256) :
    inRange ((UInt8.ofNat m).toNat * n) = .ok (UInt8.ofNat (m * n)) := by
  rw [toNat_ofNat hm, ← Int.natCast_mul]
  exact inRange_of_lt h

/-- A sum below 256 is in range. -/
theorem inRange_add {m n : Nat} (h : m + n < 256) :
    inRange ((UInt8.ofNat m).toNat + (UInt8.ofNat n).toNat) = .ok (UInt8.ofNat (m + n)) := by
  rw [toNat_ofNat (by omega), toNat_ofNat (by omega), ← Int.natCast_add]
  exact inRange_of_lt h

/-- An outcome of steps has its error changed in each of them, so that the reader on bytes can be
compared with the reader on numbers step by step. -/
theorem mapError_bind {ε ε' : Type} (x : Except ε α) (f : α → Except ε β) (g : ε → ε') :
    (x >>= f).mapError g = x.mapError g >>= fun value => (f value).mapError g := by
  cases x <;> rfl

/-- The value of a digit is in range: the distances are below sixteen, and with the ten for letters
the sums are too. -/
theorem hexDigitOnBytes_eq (x : Char) :
    hexDigitOnBytes x = ((hexDigit x).map fun d => UInt8.ofNat d.val).mapError .refused := by
  by_cases hdigit : '0' ≤ x ∧ x ≤ '9'
  · have hrange : 0x30 ≤ x.toNat ∧ x.toNat ≤ 0x39 := hdigit
    apply CodePoints.of_forall_range' hrange.1 hrange.2
    decide
  · by_cases hsmall : 'a' ≤ x ∧ x ≤ 'f'
    · have hrange : 0x61 ≤ x.toNat ∧ x.toNat ≤ 0x66 := hsmall
      apply CodePoints.of_forall_range' hrange.1 hrange.2
      decide
    · by_cases hcapital : 'A' ≤ x ∧ x ≤ 'F'
      · have hrange : 0x41 ≤ x.toNat ∧ x.toNat ≤ 0x46 := hcapital
        apply CodePoints.of_forall_range' hrange.1 hrange.2
        decide
      · rw [hexDigitOnBytes, if_neg hdigit, if_neg hsmall, if_neg hcapital, hexDigit,
          Text.hexDigit?, if_neg hdigit, if_neg hsmall, if_neg hcapital]
        rfl

/-- A digit is read on bytes as it is read on numbers. -/
theorem hexDigitOnBytes_of_ok {x : Char} {d : Fin 16} (h : hexDigit x = .ok d) :
    hexDigitOnBytes x = .ok (UInt8.ofNat d.val) := by
  rw [hexDigitOnBytes_eq, h]
  rfl

/-- A character that is no digit is refused on bytes for the same cause. -/
theorem hexDigitOnBytes_of_error {x : Char} {cause : Cause} (h : hexDigit x = .error cause) :
    hexDigitOnBytes x = .error (.refused cause) := by
  rw [hexDigitOnBytes_eq, h]
  rfl

/-- Two digits make a byte without leaving the range: fifteen times sixteen and fifteen are 255. -/
theorem byteOnBytes_eq (high low : Char) :
    byteOnBytes high low = (byte high low).mapError .refused := by
  unfold byteOnBytes byte
  cases hhigh : hexDigit high with
  | error =>
    rw [Reading.bind_of_error (hexDigitOnBytes_of_error hhigh)]
    rfl
  | ok d =>
    have hsixteens : inRange ((UInt8.ofNat d.val).toNat * 16) = .ok (UInt8.ofNat (d.val * 16)) :=
      inRange_mul (m := d.val) (n := 16) (by omega) (by omega)
    rw [Reading.bind_of_ok (hexDigitOnBytes_of_ok hhigh), Reading.bind_of_ok hsixteens]
    cases hlow : hexDigit low with
    | error =>
      rw [Reading.bind_of_error (hexDigitOnBytes_of_error hlow)]
      rfl
    | ok e =>
      rw [Reading.bind_of_ok (hexDigitOnBytes_of_ok hlow), inRange_add (by omega), Nat.mul_comm]
      rfl

/-- A digit that counts for two makes a byte without leaving the range, since fifteen times
seventeen is 255. -/
theorem doubledOnBytes_eq (x : Char) : doubledOnBytes x = (doubled x).mapError .refused := by
  unfold doubledOnBytes doubled byte
  cases hx : hexDigit x with
  | error =>
    rw [Reading.bind_of_error (hexDigitOnBytes_of_error hx)]
    rfl
  | ok d =>
    have hproduct : inRange ((UInt8.ofNat d.val).toNat * 17) = .ok (UInt8.ofNat (d.val * 17)) :=
      inRange_mul (m := d.val) (n := 17) (by omega) (by omega)
    have hsum : d.val * 17 = 16 * d.val + d.val := by omega
    rw [Reading.bind_of_ok (hexDigitOnBytes_of_ok hx), hproduct, hsum]
    rfl

/-- Digits in any number are read on bytes as they are read on numbers, with the same failures. -/
theorem ofHexDigitsOnBytes_eq (digits : List Char) :
    ofHexDigitsOnBytes digits = (ofHexDigits digits).mapError .refused := by
  cases digits using ofHexDigits.fun_cases with
  | case1 | case2 | case3 | case4 =>
    simp only [ofHexDigitsOnBytes, ofHexDigits, mapError_bind, byteOnBytes_eq, doubledOnBytes_eq]
    rfl
  | case5 digits h₃ h₄ h₆ h₈ =>
    rw [ofHexDigitsOnBytes, ofHexDigits]
    · rfl
    all_goals assumption

/-! ## Texts -/

variable {s : String}

/-- A text that starts with a number sign is read as the digits after it. -/
theorem ofHex_of_number_sign (h : s.toList = '#' :: digits) : ofHex s = ofHexDigits digits := by
  unfold ofHex
  rw [h]
  rfl

/-- A text that does not start with a number sign is refused for its first character. -/
theorem ofHex_of_first {x : Char} {rest : List Char} (h : s.toList = x :: rest) (hx : x ≠ '#') :
    ofHex s = .error (.invalidToken x) := by
  unfold ofHex
  rw [h]
  split
  · next heq => cases heq
  · next heq => exact absurd (List.cons.inj heq).1 hx
  · next heq => rw [(List.cons.inj heq).1]

/-- No operation on bytes leaves their range, and the outcome is that of the numbers, for every
text. -/
theorem ofHexOnBytes_eq (s : String) : ofHexOnBytes s = (ofHex s).mapError .refused := by
  unfold ofHexOnBytes
  split
  · next h =>
    unfold ofHex
    rw [h]
    rfl
  · next h => rw [ofHex_of_number_sign h, ofHexDigitsOnBytes_eq]
  · next hx h =>
    rw [ofHex_of_first h hx]
    rfl

/-- A text is a colour exactly when it is a number sign and digits that spell the colour, by the
first character and the digits after it. -/
theorem ofHex_eq_ok_iff :
    ofHex s = .ok c ↔ ∃ digits, s.toList = '#' :: digits ∧ Spells digits c := by
  constructor
  · intro h
    cases hs : s.toList with
    | nil =>
      unfold ofHex at h
      rw [hs] at h
      cases h
    | cons x rest =>
      by_cases hx : x = '#'
      · rw [hx] at hs ⊢
        rw [ofHex_of_number_sign hs] at h
        exact ⟨rest, rfl, ofHexDigits_eq_ok_iff.1 h⟩
      · rw [ofHex_of_first hs hx] at h
        cases h
  · rintro ⟨digits, hs, hspells⟩
    rw [ofHex_of_number_sign hs]
    exact ofHexDigits_eq_ok_iff.2 hspells

/-- Some colour is spelled exactly by hexadecimal digits of an admitted number: digits of which each
has a value make bytes. -/
theorem exists_spells_iff : (∃ c, Spells digits c) ↔
    digits.length ∈ [3, 4, 6, 8] ∧ ∀ x ∈ digits, isHexDigit x = true := by
  have hfind : (∀ x ∈ digits, isHexDigit x = true) ↔
      digits.find? (fun x => !isHexDigit x) = none := by
    simp
  constructor
  · rintro ⟨c, h⟩
    have hlength := length_of_spells h
    have hfails := ofHexDigits_failsAtFirst hlength
    rw [ofHexDigits_eq_ok_iff.2 h, FailsAtFirst] at hfails
    refine ⟨hlength, hfind.2 ?_⟩
    split at hfails
    · assumption
    · cases hfails
  · rintro ⟨hlength, hdigits⟩
    have hfails := ofHexDigits_failsAtFirst hlength
    rw [FailsAtFirst, hfind.1 hdigits] at hfails
    obtain ⟨c, hc⟩ := hfails
    exact ⟨c, ofHexDigits_eq_ok_iff.1 hc⟩

/-- Digits of an admitted number are refused for the leftmost one that is none, when those before it
are digits. -/
theorem ofHexDigits_of_leftmost {front back : List Char} {x : Char}
    (hlength : (front ++ x :: back).length ∈ [3, 4, 6, 8])
    (hfront : ∀ y ∈ front, isHexDigit y = true) (hx : isHexDigit x = false) :
    ofHexDigits (front ++ x :: back) = .error (.invalidToken x) := by
  have hfails := ofHexDigits_failsAtFirst hlength
  have hfind : front.find? (fun x => !isHexDigit x) = none := by simpa using hfront
  rw [FailsAtFirst, List.find?_append, hfind, List.find?_cons_of_pos (by simp [hx])] at hfails
  exact hfails

/-- A text is read in a hexadecimal form exactly when it is a number sign and three, four, six or
eight hexadecimal digits. Such digits are read as the colour that they spell, which any other digits
spell that stand for the same eight in some letter case. Otherwise the cause is the number 0 if the
text is empty, its first character if that is no number sign, its length if that is another one, and
else the leftmost character that is no digit. On bytes no operation overflows. -/
theorem ofHex_forms (s : String) :
    ((∃ c, ofHex s = .ok c) ↔ ∃ digits, s.toList = '#' :: digits ∧
      digits.length ∈ [3, 4, 6, 8] ∧ ∀ x ∈ digits, isHexDigit x = true) ∧
    (∀ c, ofHex s = .ok c ↔ ∃ digits, s.toList = '#' :: digits ∧ Spells digits c) ∧
    (∀ digits digits' c, s.toList = '#' :: digits → ofHex s = .ok c →
      (inFull digits').map Char.toLower = (inFull digits).map Char.toLower →
      ofHex (String.ofList ('#' :: digits')) = .ok c) ∧
    (s = "" → ofHex s = .error (.tokenCount hexLengths 0)) ∧
    (∀ x rest, s.toList = x :: rest → x ≠ '#' → ofHex s = .error (.invalidToken x)) ∧
    (∀ digits, s.toList = '#' :: digits → digits.length ∉ [3, 4, 6, 8] →
      ofHex s = .error (.tokenCount hexLengths s.length)) ∧
    (∀ front x back, s.toList = '#' :: (front ++ x :: back) →
      (front ++ x :: back).length ∈ [3, 4, 6, 8] → (∀ y ∈ front, isHexDigit y = true) →
      isHexDigit x = false → ofHex s = .error (.invalidToken x)) ∧
    ofHexOnBytes s = (ofHex s).mapError .refused := by
  refine ⟨?_, fun c => ofHex_eq_ok_iff, ?_, ?_, fun x rest => ofHex_of_first, ?_, ?_,
    ofHexOnBytes_eq s⟩
  · constructor
    · rintro ⟨c, h⟩
      obtain ⟨digits, hs, hspells⟩ := ofHex_eq_ok_iff.1 h
      exact ⟨digits, hs, exists_spells_iff.1 ⟨c, hspells⟩⟩
    · rintro ⟨digits, hs, hdigits⟩
      obtain ⟨c, hspells⟩ := exists_spells_iff.2 hdigits
      exact ⟨c, ofHex_eq_ok_iff.2 ⟨digits, hs, hspells⟩⟩
  · intro digits digits' c hs h hsame
    rw [ofHex_of_number_sign hs] at h
    have hspells : Spells digits' c := hsame.trans (ofHexDigits_eq_ok_iff.1 h)
    exact ofHex_eq_ok_iff.2 ⟨digits', String.toList_ofList, hspells⟩
  · rintro rfl
    rfl
  · intro digits hs hlength
    rw [ofHex_of_number_sign hs, ofHexDigits_of_length hlength, ← String.length_toList, hs,
      List.length_cons]
  · intro front x back hs hlength hfront hx
    rw [ofHex_of_number_sign hs]
    exact ofHexDigits_of_leftmost hlength hfront hx

/-- Three digits and six that write the same colour, four characters of which two are no digits, and
six characters, which are too few whatever they are. -/
theorem ofHex_forms_short_and_long :
    ofHex "#aBc" = .ok ⟨255, 0xAA, 0xBB, 0xCC⟩ ∧ ofHex "#AAbbCC" = .ok ⟨255, 0xAA, 0xBB, 0xCC⟩ ∧
      ofHex "#1g2!" = .error (.invalidToken 'g') ∧
      ofHex "#!!!!!" = .error (.tokenCount hexLengths 6) := by
  obtain ⟨-, hok, hsame, -⟩ := ofHex_forms "#aBc"
  obtain ⟨-, -, -, -, -, -, hleftmost, -⟩ := ofHex_forms "#1g2!"
  obtain ⟨-, -, -, -, -, hlength, -⟩ := ofHex_forms "#!!!!!"
  have hshort : ofHex "#aBc" = .ok ⟨255, 0xAA, 0xBB, 0xCC⟩ :=
    (hok _).2 ⟨['a', 'B', 'c'], by decide, by unfold Spells; decide⟩
  refine ⟨hshort, ?_, ?_, ?_⟩
  · exact hsame ['a', 'B', 'c'] ['A', 'A', 'b', 'b', 'C', 'C'] _ (by decide) hshort (by decide)
  · exact hleftmost ['1'] 'g' ['2', '!'] (by decide) (by decide)
      (List.forall_mem_singleton.2 rfl) rfl
  · exact hlength ['!', '!', '!', '!', '!'] (by decide) (by decide)

/-- The lengths are named in the message of their cause. -/
example : (Cause.tokenCount hexLengths 6).message =
    "Expected 4, 5, 7 or 9 numeric tokens, found 6" := by
  decide +kernel

end Argb

end MarkupValues
