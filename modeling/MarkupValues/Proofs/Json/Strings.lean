import MarkupValues.Json.Scan
import MarkupValues.Json.Writer

/-!
# String literals are read back

The escapes that `Json.escape` writes are among those that `JsonToken.stringParts` reads, and every
character that is written as it is stands for itself. So the literal of a text is read as this text
whatever follows it, and the literal without a text as one without (`JsonToken.next?_writeString`).
-/

namespace MarkupValues.JsonToken

/-! ## One character -/

/-- The digits below sixteen are read as what they are written for; there are few enough to go
through them. -/
theorem hexDigit?_digitChar : ∀ d : Fin 16, Text.hexDigit? (Nat.digitChar d.val) = some d := by
  decide

/-- The code of a control character is read back from its four digits. -/
theorem code?_control {n : Nat} (h : n < 0x20) :
    code? '0' '0' (Nat.digitChar (n / 16)) (Nat.digitChar (n % 16)) = some n := by
  have hhigh := hexDigit?_digitChar ⟨n / 16, by omega⟩
  have hlow := hexDigit?_digitChar ⟨n % 16, by omega⟩
  have hzero : Text.hexDigit? '0' = some 0 := rfl
  have hvalue : n / 16 * 16 + n % 16 = n := by omega
  simp [code?, hzero, hhigh, hlow, hvalue]

/-- A character is read back from the letter that stands for it after a backslash. -/
theorem stringParts_letter {letter c : Char} (hletter : letter ≠ 'u')
    (h : unescape? letter = some c) (cs : List Char) :
    stringParts ('\\' :: letter :: cs) =
      (stringParts cs).map fun (parts, rest) => (.char c :: parts, rest) := by
  rw [stringParts.eq_4 _ _ fun _ _ _ _ _ hu _ => hletter hu, h]
  cases stringParts cs <;> rfl

/-- A character that is not escaped stands for itself: it is neither a quote nor a backslash nor a
control character. -/
theorem stringParts_plain {c : Char} (hquote : c ≠ '"') (hbackslash : c ≠ '\\')
    (hcontrol : ¬ c.toNat < 0x20) (cs : List Char) :
    stringParts (c :: cs) =
      (stringParts cs).map fun (parts, rest) => (.char c :: parts, rest) := by
  rw [stringParts.eq_5 _ _ hquote (fun _ _ _ _ _ h _ => hbackslash h) fun _ _ h _ => hbackslash h,
    if_neg (not_or.2 ⟨hcontrol, hbackslash⟩)]

/-- A character is read back from what is written for it: itself, a letter after a backslash, or
four digits. There is one case for each way of writing a character. -/
theorem stringParts_escape (c : Char) (cs : List Char) :
    stringParts (Json.escape c ++ cs) =
      (stringParts cs).map fun (parts, rest) => (.char c :: parts, rest) := by
  unfold Json.escape
  split
  · next h => rcases h with rfl | rfl <;> exact stringParts_letter (by decide) rfl cs
  · next hmark =>
    obtain ⟨hquote, hbackslash⟩ := not_or.1 hmark
    -- Five control characters have a letter of their own.
    iterate 5
      split
      · next h => subst h; exact stringParts_letter (by decide) rfl cs
    split
    · next hcontrol =>
      have hcode : StringPart.ofCode c.toNat = .char c := by
        rw [StringPart.ofCode, if_neg (by omega), Char.ofNat_toNat]
      simp only [List.cons_append, List.nil_append]
      rw [stringParts.eq_3, code?_control hcontrol]
      cases stringParts cs <;> simp [hcode]
    · next hcontrol => exact stringParts_plain hquote hbackslash hcontrol cs

/-! ## The literal -/

/-- A text is read back from its literal, up to the closing quote. -/
theorem stringParts_flatMap_escape (text rest : List Char) :
    stringParts (text.flatMap Json.escape ++ '"' :: rest) = some (text.map .char, rest) := by
  induction text with
  | nil => rfl
  | cons c text ih =>
    rw [List.flatMap_cons, List.append_assoc, stringParts_escape, ih]
    rfl

/-- Parts that are single characters, none of them half of a pair, make up the text of these
characters. -/
theorem joinParts_map_char (text : List Char) : joinParts (text.map .char) = some text := by
  induction text with
  | nil => rfl
  | cons c text ih =>
    rw [List.map_cons, joinParts, ih]
    rfl

/-- A string literal is read back as its text, or as one without, whatever follows it. -/
theorem next?_writeString (text : Option String) (rest : List Char) :
    ∃ cs, Json.writeString text ++ rest = '"' :: cs ∧ next? '"' cs = some (.string text, rest) := by
  refine ⟨_, rfl, ?_⟩
  cases text with
  | none => rfl
  | some s =>
    show (stringParts (s.toList.flatMap Json.escape ++ ['"'] ++ rest)).map _ = _
    rw [List.append_assoc, List.singleton_append, stringParts_flatMap_escape]
    simp only [Option.map_some, joinParts_map_char, String.ofList_toList]

end MarkupValues.JsonToken
