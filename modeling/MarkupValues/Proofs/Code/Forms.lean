import MarkupValues.Proofs.Binary.Text
import MarkupValues.Proofs.Code.Characters

/-!
# The form of an expression

Which kind of expression a text of code starts with can be read off its first word and what stands
after it, in either language: `readForm?_code` says that reading the code for an expression, with
whatever may follow it (`Ends`), gives the form of the expression. The reader finds no expression
where a list of expressions closes (`readForm?_of_closes`) and none where a property is set
(`readForm?_settingCode`).
-/

namespace MarkupValues

/-- The kinds of literals, one for each way that a language has of writing a literal. -/
inductive Literal.Form where
  | raw
  | byte
  | single
  | double
  | long
  | string
deriving DecidableEq

/-- The kinds of expressions, with the literals told apart: the code of each kind has a start of its
own. -/
inductive Expr.Form where
  | construct
  | member
  | invoke
  | literal (form : Literal.Form)
  | null
  | fallback
deriving DecidableEq

/-- The form of a literal, which forgets the value it has. -/
def Literal.form : Literal → Literal.Form
  | raw _ => .raw
  | byte _ => .byte
  | single _ => .single
  | double _ => .double
  | long _ => .long
  | string _ => .string

/-- The form of an expression, which forgets its parts but tells the literals apart. Two expressions
with equal code are shown to have one form first, and then to have the same parts. -/
def Expr.form : Expr → Expr.Form
  | construct .. => .construct
  | member .. => .member
  | invoke .. => .invoke
  | literal value => .literal value.form
  | null => .null
  | fallback .. => .fallback

namespace Options

/-! ## What follows an expression -/

/-- Whether a text starts with what closes a list of expressions: a parenthesis or a brace, which
one language writes after a blank. -/
def Closes (cs : List Char) : Prop :=
  ∃ rest, cs = ')' :: rest ∨ cs = '}' :: rest ∨ cs = ' ' :: '}' :: rest

/-- Whether a text is one that an expression may be followed by: nothing, a comma, or what closes a
list of expressions. -/
def Ends (cs : List Char) : Prop :=
  cs = [] ∨ (∃ rest, cs = ',' :: rest) ∨ Closes cs

section
variable {rest : List Char}

/-- What closes a list may follow an expression, the last one of the list. -/
theorem Closes.ends (h : Closes rest) : Ends rest :=
  .inr (.inr h)

/-- A property that the texts that may follow an expression share holds of each of them. -/
theorem Ends.elim {p : List Char → Prop} (h : Ends rest) (nil : p [])
    (comma : ∀ rest, p (',' :: rest)) (paren : ∀ rest, p (')' :: rest))
    (brace : ∀ rest, p ('}' :: rest)) (space : ∀ rest, p (' ' :: '}' :: rest)) : p rest := by
  rcases h with rfl | ⟨rest, rfl⟩ | ⟨rest, rfl | rfl | rfl⟩
  exacts [nil, comma rest, paren rest, brace rest, space rest]

/-- No word goes on in what follows an expression, so that a name or a number ends where its own
text does. -/
theorem Ends.stops (h : Ends rest) : Text.Stops isWordChar rest := by
  apply h.elim <;> simp <;> decide

/-- What follows an expression does not start with a quote, so that a string ends at its closing
quote. -/
theorem Ends.stops_quote (h : Ends rest) : Text.Stops (· == '"') rest := by
  apply h.elim <;> simp

end

/-! ## Reading the form -/

/-- The form of a number, told by its last character: the suffix of a typed number, or a digit where
there is none. -/
def formOfNumber (word : List Char) : Literal.Form :=
  if word.getLast? = some 'F' then .single
  else if word.getLast? = some 'D' ∨ word.getLast? = some 'R' then .double
  else if word.getLast? = some 'L' then .long
  else .raw

/-- The form of an expression that starts with no word: a cast, of a byte if a digit follows it, or
a string. -/
def formOfSymbol? (rest : List Char) : Option Expr.Form :=
  if rest.head? = some '(' then
    if ((rest.dropWhile (· != ')')).tail.head?.any Char.isDigit) then some (.literal .byte)
    else some .fallback
  else if rest.head? = some '@' ∨ rest.head? = some '"' then some (.literal .string)
  else none

/-- The form of the expression that a text starts with, given the word at its start and what follows
it. A word that starts like a name is one of the words of a language, or belongs to a member or,
before a parenthesis, to a call; any other word is a number. -/
def formOf? (word rest : List Char) : Option Expr.Form :=
  if [' ', '='].isPrefixOf rest then none
  else if word = [] then formOfSymbol? rest
  else if word = "new".toList ∨ word = "New".toList then some .construct
  else if word = "null".toList ∨ word = "Nothing".toList then some .null
  else if word = "CByte".toList then some (.literal .byte)
  else if word = "CType".toList then some .fallback
  else if !word.head?.any isIdentifierStart then some (.literal (formOfNumber word))
  else if rest.head? = some '(' then some .invoke
  else some .member

/-- The form of the expression that a text starts with: the longest word at its start is taken off,
and `formOf?` looks at it and at what is left. -/
def readForm? (cs : List Char) : Option Expr.Form :=
  formOf? (cs.takeWhile isWordChar) (cs.dropWhile isWordChar)

section
variable {word rest : List Char}

/-- The word at the start of a text is the one it was put together from, when no word goes on in
what follows. -/
theorem readForm?_append (hword : IsWord word) (hrest : Text.Stops isWordChar rest) :
    readForm? (word ++ rest) = formOf? word rest := by
  rw [readForm?, Text.takeWhile_append_of_stops hword hrest,
    Text.dropWhile_append_of_stops hword hrest]

/-- The word at the start of a text ends at the first character that words do not have, whatever
comes after this. -/
theorem readForm?_append_cons (word : List Char) (c : Char) (hword : IsWord word)
    (hc : isWordChar c = false) (rest : List Char) :
    readForm? (word ++ c :: rest) = formOf? word (c :: rest) :=
  readForm?_append hword (Text.stops_cons.2 hc)

/-- No expression starts where a list of expressions closes. This keeps an empty list from being
read as one that has elements. -/
theorem readForm?_of_closes (h : Closes rest) : readForm? rest = none := by
  rw [← List.nil_append rest, readForm?_append (List.forall_mem_nil _) h.ends.stops]
  obtain ⟨rest, rfl | rfl | rfl⟩ := h <;> simp [formOf?, formOfSymbol?]

/-- No expression starts where a property is set: a word before an equals sign is the name of a
property. -/
theorem readForm?_setting (hword : IsWord word) :
    readForm? (word ++ ' ' :: '=' :: rest) = none := by
  rw [readForm?_append hword (by simp; decide)]
  rfl

/-- A word with a dot that starts like a name is a member of a type, and the method of a call when a
parenthesis follows it. The dot keeps it from being one of the words of a language. -/
theorem readForm?_name (hword : IsWord word) (hdot : '.' ∈ word)
    (hstart : word.head?.any isIdentifierStart = true) (hrest : Text.Stops isWordChar rest)
    (heq : [' ', '='].isPrefixOf rest = false) :
    readForm? (word ++ rest) = some (if rest.head? = some '(' then .invoke else .member) := by
  have hne : ∀ w : List Char, '.' ∉ w → word ≠ w := fun w hw h => hw (h ▸ hdot)
  rw [readForm?_append hword hrest, formOf?, if_neg (by simp [heq]), if_neg (hne _ (by decide)),
    if_neg (not_or.2 ⟨hne _ (by decide), hne _ (by decide)⟩),
    if_neg (not_or.2 ⟨hne _ (by decide), hne _ (by decide)⟩), if_neg (hne _ (by decide)),
    if_neg (hne _ (by decide)), if_neg (by simp [hstart])]
  split <;> rfl

/-- A word that does not start like a name is a number, and what may follow an expression does not
change which. -/
theorem readForm?_number (hword : IsWord word) (hne : word ≠ [])
    (hstart : word.head?.any isIdentifierStart = false) (hrest : Ends rest) :
    readForm? (word ++ rest) = some (.literal (formOfNumber word)) := by
  have hw : ∀ w : List Char, w.head?.any isIdentifierStart = true → word ≠ w := fun w hw h => by
    rw [h, hw] at hstart; cases hstart
  have heq : [' ', '='].isPrefixOf rest = false := by
    apply hrest.elim <;> intros <;> rfl
  rw [readForm?_append hword hrest.stops, formOf?, if_neg (by simp [heq]), if_neg hne,
    if_neg (not_or.2 ⟨hw _ (by decide), hw _ (by decide)⟩),
    if_neg (not_or.2 ⟨hw _ (by decide), hw _ (by decide)⟩), if_neg (hw _ (by decide)),
    if_neg (hw _ (by decide)), if_pos (by simp [hstart])]

end

/-! ## The form of the code for an expression -/

section
variable {options : Options} {e : Expr} {rest : List Char}

/-- A name of a type with a name after it is read as a member, or before a parenthesis as a call.
The two names and the dot between them are one word, which starts like a name. -/
theorem readForm?_typeName {owner : TypeName} {name : String}
    (howner : options.language.isTypeName owner = true)
    (hname : isIdentifier name.toList = true) (hrest : Text.Stops isWordChar rest)
    (heq : [' ', '='].isPrefixOf rest = false) :
    readForm? ((options.typeName owner).toList ++ '.' :: (name.toList ++ rest)) =
      some (if rest.head? = some '(' then .invoke else .member) := by
  obtain ⟨hword, c, cs, hc, hstart⟩ := typeName_word options
    (Bool.and_eq_true_iff.1 howner).1
  rw [← List.cons_append, ← List.append_assoc]
  refine readForm?_name (hword.append (.cons rfl (isWord_of_isIdentifier hname)))
    (List.mem_append_right _ (.head _)) ?_ hrest heq
  simp [hc, hstart]

/-- A decimal number without a suffix is read as one that has no type, since its last character is a
digit. -/
theorem readForm?_decimal {digits : List Char} (hdigits : Numeric.isSignedDecimal digits = true)
    (hrest : Ends rest) : readForm? (digits ++ rest) = some (.literal .raw) := by
  obtain ⟨c, cs, heq, hstart⟩ := exists_cons_of_isSignedDecimal hdigits
  obtain ⟨front, last, hlast, hdigit⟩ := Numeric.exists_append_of_isSignedDecimal hdigits
  have hne : ∀ d : Char, d.isDigit = false → last ≠ d := fun d hd h => by
    rw [h, hd] at hdigit; cases hdigit
  rw [readForm?_number (isWord_of_isSignedDecimal hdigits) (by simp [heq]) (by simp [heq, hstart])
    hrest, hlast]
  simp [formOfNumber, hne 'F' rfl, hne 'D' rfl, hne 'R' rfl, hne 'L' rfl]

/-- A decimal number with a suffix is read as what the suffix says, whatever digits it has. -/
theorem readForm?_suffixed {digits : List Char} (hdigits : Numeric.isSignedDecimal digits = true)
    (suffix : Char) (hsuffix : isWordChar suffix = true) (hrest : Ends rest) :
    readForm? (digits ++ suffix :: rest) = some (.literal (formOfNumber [suffix])) := by
  obtain ⟨c, cs, heq, hstart⟩ := exists_cons_of_isSignedDecimal hdigits
  have hword : IsWord (digits ++ [suffix]) :=
    (isWord_of_isSignedDecimal hdigits).append (List.forall_mem_singleton.2 hsuffix)
  rw [List.append_cons, readForm?_number hword (by simp) (by simp [heq, hstart]) hrest]
  simp [formOfNumber]

/-- What stands after a cast tells a byte, which goes on with a digit, from a fallback call, which
goes on with a name. -/
theorem readForm?_cast {type : List Char} (htype : IsWord type) (c : Char)
    (rest : List Char) : readForm? ('(' :: (type ++ ')' :: c :: rest)) =
      some (if c.isDigit then .literal .byte else .fallback) := by
  have hparen : ∀ d ∈ '(' :: type, (d != ')') = true :=
    List.forall_mem_cons.2 ⟨rfl, fun d hd => bne_iff_ne.2 fun h => by
      rw [h] at hd; cases htype _ hd⟩
  rw [← List.nil_append ('(' :: _), readForm?_append (List.forall_mem_nil _) (by simp; rfl)]
  have hdrop : ('(' :: (type ++ ')' :: c :: rest)).dropWhile (· != ')') = ')' :: c :: rest := by
    rw [← List.cons_append]
    exact Text.dropWhile_append_of_stops hparen (by simp)
  simp only [formOf?, formOfSymbol?, hdrop]
  cases hc : c.isDigit <;> simp [hc]

/-- The form of a literal can be read off its code, whatever follows it of what may follow an
expression. There is one case for each kind of literal, and one for each language where they write
it differently. -/
theorem readForm?_literal {value : Literal} (hvalue : value.isWellFormed = true)
    (hrest : Ends rest) :
    readForm? (options.code (.literal value) ++ rest) = some (.literal value.form) := by
  obtain ⟨language, qualify, converter⟩ := options
  cases value with
  | raw digits => exact readForm?_decimal hvalue hrest
  | byte value =>
    obtain ⟨d, ds, hd⟩ := List.exists_cons_of_ne_nil (@Nat.toDigits_ne_nil value.toNat 10)
    have hdigit : d.isDigit = true := Numeric.allDigits_toDigits value.toNat d (hd ▸ .head _)
    rw [code_byte, hd]
    cases language
    · have hcast := readForm?_cast (by decide : IsWord "byte".toList) d (ds ++ rest)
      simpa [dialect, Language.dialect, hdigit, Literal.form] using hcast
    · have hword :=
        readForm?_append_cons "CByte".toList '(' (by decide) rfl (d :: ds ++ ')' :: rest)
      simpa [dialect, Language.dialect, formOf?, Literal.form] using hword
  | single value =>
    have hform := readForm?_suffixed (Binary.isSignedDecimal_text hvalue) 'F' rfl hrest
    rw [code_single]
    cases language <;> simpa [dialect, Language.dialect, formOfNumber, Literal.form] using hform
  | double digits =>
    have hform (suffix hsuffix) := readForm?_suffixed hvalue suffix hsuffix hrest
    rw [code_double]
    cases language
    · simpa [dialect, Language.dialect, formOfNumber, Literal.form] using hform 'D' rfl
    · simpa [dialect, Language.dialect, formOfNumber, Literal.form] using hform 'R' rfl
  | long value =>
    have hform := readForm?_suffixed (Numeric.isSignedDecimal_repr value.toInt) 'L' rfl hrest
    rw [code_long]
    cases language <;> simpa [dialect, Language.dialect, formOfNumber, Literal.form] using hform
  | string value =>
    have hform (c hc) := readForm?_append_cons [] c (List.forall_mem_nil _) hc
    rw [code_string]
    cases language
    · simpa [dialect, Language.dialect, formOf?, formOfSymbol?, Literal.form] using hform '@' rfl _
    · simpa [dialect, Language.dialect, formOf?, formOfSymbol?, Literal.form] using hform '"' rfl _

/-- The form of an expression can be read off its code, whatever follows it of what may follow an
expression: no two forms start alike. -/
theorem readForm?_code (hconverter : options.fallbackConverter.isPath = true)
    (he : e.WellFormed options.language) (hrest : Ends rest) :
    readForm? (options.code e ++ rest) = some e.form := by
  have heq : [' ', '='].isPrefixOf rest = false := by
    apply hrest.elim <;> intros <;> rfl
  have hparen : rest.head? ≠ some '(' := by
    apply hrest.elim <;> simp
  cases e with
  | construct type args initializers items =>
    obtain ⟨htype, -⟩ := Expr.madeOf_construct.1 he
    obtain ⟨-, c, cs, hc, hstart⟩ := typeName_word options (Bool.and_eq_true_iff.1 htype).1
    have hne : '=' ≠ c := fun h => by rw [← h] at hstart; cases hstart
    obtain ⟨language, qualify, converter⟩ := options
    have hform (word hword rest) := readForm?_append_cons word ' ' hword rfl (c :: rest)
    rw [code_construct, hc]
    cases language
    · simpa [dialect, Language.dialect, formOf?, hne, Expr.form] using
        hform "new".toList (by decide) _
    · simpa [dialect, Language.dialect, formOf?, hne, Expr.form] using
        hform "New".toList (by decide) _
  | member owner name =>
    obtain ⟨howner, hname⟩ := Expr.madeOf_member.1 he
    rw [code_member, List.append_assoc, List.cons_append,
      readForm?_typeName howner hname hrest.stops heq, if_neg hparen]
    rfl
  | invoke owner method args =>
    obtain ⟨howner, hmethod, -⟩ := Expr.madeOf_invoke.1 he
    rw [code_invoke, List.append_assoc, List.cons_append, List.append_assoc, List.cons_append]
    exact readForm?_typeName howner hmethod (Text.stops_cons.2 rfl) rfl
  | literal value => exact readForm?_literal (Expr.madeOf_literal.1 he) hrest
  | null =>
    have hkeyword (word) (hword : IsWord word) := readForm?_append hword hrest.stops
    obtain ⟨language, qualify, converter⟩ := options
    rw [code_null]
    cases language
    · simpa [dialect, Language.dialect, formOf?, heq, Expr.form] using
        hkeyword "null".toList (by decide)
    · simpa [dialect, Language.dialect, formOf?, heq, Expr.form] using
        hkeyword "Nothing".toList (by decide)
  | fallback target source =>
    have htarget := (Bool.and_eq_true_iff.1 (Expr.madeOf_fallback.1 he)).1
    cases hl : options.language with
    | csharp =>
      obtain ⟨-, c, cs, hc, hstart⟩ := typeName_word options hconverter
      have hdigit : c.isDigit = false := by
        simpa using (Bool.and_eq_true_iff.1 hstart).2
      rw [code_fallback_csharp hl, callCode, hc, List.cons_append, List.append_assoc,
        List.cons_append, List.cons_append, List.cons_append,
        readForm?_cast (typeName_word options htarget).1, hdigit]
      rfl
    | visualBasic =>
      rw [code_fallback_visualBasic hl, List.append_assoc, List.cons_append,
        readForm?_append_cons "CType".toList '(' (by decide) rfl]
      simp [formOf?, Expr.form]

end

end Options

end MarkupValues
