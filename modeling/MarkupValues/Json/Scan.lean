import MarkupValues.Json.Token

/-!
# Cutting a text into JSON tokens

`JsonToken.scan` reads token after token, with four kinds of space between them. Reading a token
takes at least one character (`length_of_next?`), so scanning ends with the text.
-/

namespace MarkupValues.JsonToken

/-- Whether a character may stand between tokens. -/
def isSpace (c : Char) : Bool :=
  c = ' ' || c = '\t' || c = '\n' || c = '\r'

/-- Taking digits off leaves no more than was there. -/
theorem length_afterDigits_le (cs : List Char) : (Text.afterDigits cs).length ≤ cs.length :=
  (List.dropWhile_sublist _).length_le

/-- Taking off at least one digit leaves less than was there. -/
theorem length_afterDigits_lt {cs : List Char} (h : (Text.leadingDigits cs).isEmpty = false) :
    (Text.afterDigits cs).length < cs.length := by
  have hl := congrArg List.length (Text.leadingDigits_append_afterDigits cs)
  have hp : 0 < (Text.leadingDigits cs).length := by
    cases hd : Text.leadingDigits cs <;> simp_all
  simp only [List.length_append] at hl
  omega

/-- A string literal takes its closing quote at least. -/
theorem length_of_stringParts {cs rest : List Char} {parts : List StringPart}
    (h : stringParts cs = some (parts, rest)) : rest.length < cs.length := by
  fun_induction stringParts cs generalizing parts rest with
  | case1 => cases h
  | case2 => cases h; simp
  | case3 a b c d tail code tailParts tailRest ht hc ih =>
    cases h
    have := ih ht
    simp only [List.length_cons]
    omega
  | case4 => cases h
  | case5 c tail _ c' tailParts tailRest ht hc ih =>
    cases h
    have := ih ht
    simp only [List.length_cons]
    omega
  | case6 => cases h
  | case7 => cases h
  | case8 c tail _ _ _ _ ih =>
    obtain ⟨⟨p, r⟩, hp, he⟩ := Option.map_eq_some_iff.1 h
    cases he
    have := ih hp
    simp only [List.length_cons]
    omega

/-- A fraction may be empty. -/
theorem length_of_fraction? {cs rest : List Char} {digits : List (Fin 10)}
    (h : fraction? cs = some (digits, rest)) : rest.length ≤ cs.length := by
  unfold fraction? at h
  split at h
  · simp only at h
    split at h
    · cases h
    · cases h
      have := length_afterDigits_le ‹List Char›
      simp only [List.length_cons]
      omega
  · cases h
    exact Nat.le_refl _

/-- What follows a power of ten is no longer than what it starts. -/
theorem length_of_powerDigits? {negative : Bool} {cs rest : List Char} {e : Option Int}
    (h : powerDigits? negative cs = some (e, rest)) : rest.length ≤ cs.length := by
  simp only [powerDigits?] at h
  split at h
  · cases h
  · cases h
    exact length_afterDigits_le cs

/-- A power of ten may be missing. -/
theorem length_of_exponent? {cs rest : List Char} {e : Option Int}
    (h : exponent? cs = some (e, rest)) : rest.length ≤ cs.length := by
  unfold exponent? at h
  split at h
  · split at h
    · split at h <;>
        · have := length_of_powerDigits? h
          simp only [List.length_cons] at *
          omega
    · cases h
      exact Nat.le_refl _
  · cases h
    exact Nat.le_refl _

/-- A number takes a digit at least. -/
theorem length_of_number? {negative : Bool} {cs rest : List Char} {n : JsonNumber}
    (h : number? negative cs = some (n, rest)) : rest.length < cs.length := by
  simp only [number?] at h
  split at h
  · cases h
  · rename_i hd
    simp only [Bool.not_eq_true, not_or] at hd
    simp only [Option.bind_eq_bind, Option.bind_eq_some_iff, Option.pure_def] at h
    obtain ⟨⟨_, r₁⟩, h₁, ⟨_, r₂⟩, h₂, h₃⟩ := h
    cases h₃
    have h₀ := length_afterDigits_lt hd.1
    have h₁ := length_of_fraction? h₁
    have h₂ := length_of_exponent? h₂
    exact Nat.lt_of_le_of_lt (Nat.le_trans h₂ h₁) h₀

/-- Taking off a given beginning leaves no more than was there. -/
theorem length_of_isPrefixOf? {ws cs rest : List Char} (h : ws.isPrefixOf? cs = some rest) :
    rest.length ≤ cs.length := by
  induction ws generalizing cs with
  | nil => cases h; exact Nat.le_refl _
  | cons w ws ih =>
    cases cs with
    | nil => cases h
    | cons c cs =>
      change (if w == c then ws.isPrefixOf? cs else none) = some rest at h
      split at h
      · have := ih h
        simp only [List.length_cons]
        omega
      · cases h

/-- Reading a token leaves less than was there. -/
theorem length_of_next? {c : Char} {cs rest : List Char} {token : JsonToken}
    (h : next? c cs = some (token, rest)) : rest.length < (c :: cs).length := by
  simp only [List.length_cons]
  unfold next? at h
  split at h
  case h_1 | h_2 | h_3 | h_4 | h_5 | h_6 => cases h; omega
  case h_7 | h_8 | h_9 =>
    obtain ⟨r, hr, he⟩ := Option.map_eq_some_iff.1 h
    cases he
    have := length_of_isPrefixOf? hr
    omega
  case h_10 =>
    obtain ⟨⟨_, r⟩, hr, he⟩ := Option.map_eq_some_iff.1 h
    cases he
    have := length_of_stringParts hr
    omega
  case h_11 | h_12 =>
    obtain ⟨⟨_, r⟩, hr, he⟩ := Option.map_eq_some_iff.1 h
    cases he
    have := length_of_number? hr
    simp only [List.length_cons] at *
    omega

/-- The tokens of a text. -/
def scan : List Char → Option (List JsonToken)
  | [] => some []
  | c :: cs =>
    if isSpace c then scan cs
    else
      match _h : next? c cs with
      | none => none
      | some (token, rest) => (scan rest).map (token :: ·)
termination_by cs => cs.length
decreasing_by
  · simp
  · exact length_of_next? ‹_›

end MarkupValues.JsonToken
