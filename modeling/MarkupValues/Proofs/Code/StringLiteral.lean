import MarkupValues.Code.Dialect
import MarkupValues.Proofs.Text.Runs

/-!
# String literals

Both languages write a string between quotes, with every U+0022 in it twice. `readQuoted` reads such
a text back, whatever characters a language takes for quotes: it gives the string exactly when the
string has no quote but U+0022 (`readQuoted_doubleQuotes_iff`). Where U+0022 is the only quote this
is every string, so a literal ends at one place only (`doubleQuotes_append_inj`). Visual Basic takes
the typographic quotes U+201C and U+201D for quotes too, which are not written twice
(`VisualBasic.readString_stringLiteral_iff`).
-/

namespace MarkupValues

namespace Dialect

@[simp] theorem doubleQuotes_quote (cs : List Char) :
    doubleQuotes ('"' :: cs) = '"' :: '"' :: doubleQuotes cs := by simp [doubleQuotes]

theorem doubleQuotes_of_ne {c : Char} (h : c ≠ '"') (cs : List Char) :
    doubleQuotes (c :: cs) = c :: doubleQuotes cs := by simp [doubleQuotes, h]

@[simp] theorem toList_stringLiteral (dialect : Dialect) (value : String) :
    (dialect.stringLiteral value).toList =
      dialect.stringStart.toList ++ (doubleQuotes value.toList ++ ['"']) := by
  simp [stringLiteral]

/-- The string that the characters after an opening quote write, and what follows the closing one,
where `isQuote` tells the quotes. A quote right before another one stands with it for one quote of
the string, which `pair` tells; a quote that stands alone ends the string. -/
def readQuoted (isQuote : Char → Bool) (pair : Char → Char → Char) :
    List Char → Option (List Char × List Char)
  | [] => none
  | [c] => if isQuote c then some ([], []) else none
  | c :: d :: rest =>
    if !isQuote c then (readQuoted isQuote pair (d :: rest)).map fun (v, r) => (c :: v, r)
    else if isQuote d then (readQuoted isQuote pair rest).map fun (v, r) => (pair c d :: v, r)
    else some ([], d :: rest)

section
variable {isQuote : Char → Bool} {pair : Char → Char → Char}

/-- A character that is no quote stands for itself. -/
theorem readQuoted_of_not_quote {c : Char} (h : isQuote c = false) (cs : List Char) :
    readQuoted isQuote pair (c :: cs) =
      (readQuoted isQuote pair cs).map fun (v, r) => (c :: v, r) := by
  cases cs <;> simp [readQuoted, h]

/-- Two quotes in a row stand for one character of the string, and reading goes on behind them. -/
theorem readQuoted_pair {c d : Char} (hc : isQuote c = true) (hd : isQuote d = true)
    (cs : List Char) :
    readQuoted isQuote pair (c :: d :: cs) =
      (readQuoted isQuote pair cs).map fun (v, r) => (pair c d :: v, r) := by
  simp [readQuoted, hc, hd]

/-- A quote before the end of the text or before a character that is no quote ends the string. -/
theorem readQuoted_close {c : Char} (hc : isQuote c = true) {rest : List Char}
    (h : Text.Stops isQuote rest) : readQuoted isQuote pair (c :: rest) = some ([], rest) := by
  cases rest with
  | nil => simp [readQuoted, hc]
  | cons d rest => simp [readQuoted, hc, Text.stops_cons.1 h]

/-- A string without other quotes than U+0022 is read back from its characters with their quotes
doubled, together with what follows it. -/
theorem readQuoted_doubleQuotes (hq : isQuote '"' = true) (hpair : pair '"' '"' = '"')
    {v rest : List Char} (hv : ∀ c ∈ v, isQuote c = true → c = '"') (hr : Text.Stops isQuote rest) :
    readQuoted isQuote pair (doubleQuotes v ++ '"' :: rest) = some (v, rest) := by
  induction v with
  | nil => exact readQuoted_close hq hr
  | cons c v ih =>
    obtain ⟨hc, hv'⟩ := List.forall_mem_cons.1 hv
    by_cases h : c = '"'
    · subst h
      rw [doubleQuotes_quote, List.cons_append, List.cons_append, readQuoted_pair hq hq,
        ih hv', hpair]
      rfl
    · have hne : isQuote c = false := Bool.eq_false_iff.2 fun hc' => h (hc hc')
      rw [doubleQuotes_of_ne h, List.cons_append, readQuoted_of_not_quote hne, ih hv']
      rfl

/-! ### How much of a string is read back

A quote is half of a pair and any other character stands for itself. So what is read has half as
many characters fewer as it is read from quotes, and a quote that was not doubled is missed. -/

/-- What is read stands before one closing quote, and two of its quotes stand for one character.
Counting the quotes this way shows below that a text with quotes that are not doubled cannot be read
back. -/
theorem exists_of_readQuoted {cs v rest : List Char}
    (h : readQuoted isQuote pair cs = some (v, rest)) :
    ∃ body q, cs = body ++ q :: rest ∧ 2 * body.length = 2 * v.length + body.countP isQuote := by
  fun_induction readQuoted isQuote pair cs generalizing v with
  | case1 => cases h
  | case2 c hc => cases h; exact ⟨[], c, rfl, rfl⟩
  | case3 c hc => cases h
  | case4 c d tail hc ih =>
    obtain ⟨⟨w, r⟩, hw, heq⟩ := Option.map_eq_some_iff.1 h
    cases heq
    obtain ⟨body, q, hbody, hlen⟩ := ih hw
    refine ⟨c :: body, q, by rw [hbody]; rfl, ?_⟩
    have hcount : (c :: body).countP isQuote = body.countP isQuote :=
      List.countP_cons_of_neg (by simpa using hc)
    rw [hcount, List.length_cons, List.length_cons]
    omega
  | case5 c d tail hc hd ih =>
    obtain ⟨⟨w, r⟩, hw, heq⟩ := Option.map_eq_some_iff.1 h
    cases heq
    obtain ⟨body, q, rfl, hlen⟩ := ih hw
    refine ⟨c :: d :: body, q, rfl, ?_⟩
    have hcount : (c :: d :: body).countP isQuote = body.countP isQuote + 1 + 1 := by
      rw [List.countP_cons_of_pos (by simpa using hc), List.countP_cons_of_pos hd]
    rw [hcount, List.length_cons, List.length_cons, List.length_cons]
    omega
  | case6 c d tail hc hd => cases h; exact ⟨[], c, rfl, rfl⟩

/-- The length of a value with its quotes U+0022 doubled. Quotes that are not doubled are the ones
that lack a half, and they make up the difference to what `exists_of_readQuoted` asks for. -/
theorem length_doubleQuotes_add_countP (hq : isQuote '"' = true) (v : List Char) :
    2 * (doubleQuotes v).length + v.countP (fun c => isQuote c && c != '"') =
      2 * v.length + (doubleQuotes v).countP isQuote := by
  induction v with
  | nil => rfl
  | cons c v ih =>
    by_cases h : c = '"'
    · subst h
      simp [hq]
      omega
    · rw [doubleQuotes_of_ne h]
      cases hc : isQuote c <;> simp [hc, h] <;> omega

/-- A string is read back from its characters with the quotes U+0022 doubled exactly when it has no
other quotes. Where it has, the numbers of characters before the closing quote do not agree. -/
theorem readQuoted_doubleQuotes_iff (hq : isQuote '"' = true) (hpair : pair '"' '"' = '"')
    {v rest : List Char} (hr : Text.Stops isQuote rest) :
    readQuoted isQuote pair (doubleQuotes v ++ '"' :: rest) = some (v, rest) ↔
      ∀ c ∈ v, isQuote c = true → c = '"' := by
  refine ⟨fun h => ?_, fun h => readQuoted_doubleQuotes hq hpair h hr⟩
  obtain ⟨body, q, hbody, hlen⟩ := exists_of_readQuoted h
  have hdouble : doubleQuotes v = body := (List.append_inj' hbody rfl).1
  have hcount : v.countP (fun c => isQuote c && c != '"') = 0 := by
    have := length_doubleQuotes_add_countP hq v
    rw [hdouble] at this
    omega
  simpa using hcount

end

/-- A string with its quotes written twice ends at the first quote that is not: two literals before
texts that do not start with a quote are equal only if their strings and these texts are. -/
theorem doubleQuotes_append_inj {v v' rest rest' : List Char} (hr : Text.Stops (· == '"') rest)
    (hr' : Text.Stops (· == '"') rest')
    (heq : doubleQuotes v ++ '"' :: rest = doubleQuotes v' ++ '"' :: rest') :
    v = v' ∧ rest = rest' := by
  have hread : ∀ {v rest}, Text.Stops (· == '"') rest →
      readQuoted (· == '"') (fun _ _ => '"') (doubleQuotes v ++ '"' :: rest) = some (v, rest) :=
    fun hr => readQuoted_doubleQuotes rfl rfl (fun _ _ hc => beq_iff_eq.1 hc) hr
  have h := hread (v := v) hr
  rw [heq, hread hr'] at h
  cases h
  exact ⟨rfl, rfl⟩

end Dialect

namespace VisualBasic

/-- The quotes beyond ASCII that start and end strings in Visual Basic: U+201C and U+201D. -/
def isTypographicQuote (c : Char) : Bool :=
  c = '\u201c' || c = '\u201d'

/-- The characters that start and end a string in Visual Basic: U+0022 and the two typographic
quotes. -/
def isQuote (c : Char) : Bool :=
  c = '"' || isTypographicQuote c

/-- The string that the Visual Basic literal at the start of a text writes, and what follows the
literal. Any of the quotes may open it and any may close it. -/
def readString (pair : Char → Char → Char) : List Char → Option (List Char × List Char)
  | [] => none
  | c :: cs => if isQuote c then Dialect.readQuoted isQuote pair cs else none

/-- A literal is read back as the string it was written from, and no further than to its end,
exactly when the string has no typographic quote. This does not depend on which quote a pair of
quotes stands for, if only a pair of U+0022 stands for U+0022. -/
theorem readString_stringLiteral_iff {pair : Char → Char → Char} (hpair : pair '"' '"' = '"')
    (value : String) {rest : List Char} (hr : Text.Stops isQuote rest) :
    readString pair ((Language.visualBasic.dialect.stringLiteral value).toList ++ rest) =
      some (value.toList, rest) ↔ ∀ c ∈ value.toList, isTypographicQuote c = false := by
  have hread : readString pair ((Language.visualBasic.dialect.stringLiteral value).toList ++ rest) =
      Dialect.readQuoted isQuote pair (Dialect.doubleQuotes value.toList ++ '"' :: rest) := by
    rw [Dialect.toList_stringLiteral, List.append_assoc, List.append_assoc]
    rfl
  rw [hread, Dialect.readQuoted_doubleQuotes_iff (by decide) hpair hr]
  refine forall₂_congr fun c _ => ?_
  by_cases h : c = '"'
  · subst h; decide
  · simp [isQuote, h]

/-- A literal with quotes at either end of its string and inside, before more code. -/
theorem readString_stringLiteral_quotes :
    readString (fun _ _ => '"')
        ((Language.visualBasic.dialect.stringLiteral "\"say \"\"hi\"").toList ++ [')']) =
      some ("\"say \"\"hi\"".toList, [')']) :=
  (readString_stringLiteral_iff rfl "\"say \"\"hi\"" (Text.stops_cons.2 rfl)).2
    (by simp [isTypographicQuote])

/-- The literal of a left typographic quote has no end. -/
theorem readString_stringLiteral_typographic :
    readString (fun _ _ => '"') (Language.visualBasic.dialect.stringLiteral "\u201c").toList =
      none := by
  decide

end VisualBasic

end MarkupValues
