import MarkupValues.Proofs.Binary.Text
import MarkupValues.Proofs.Code.Characters

/-!
# Strings and brackets in C# code

`CSharp.isClosed` scans a text from its start, skips verbatim strings and matches brackets. A text
that the scanner passes over (`Skips`) leaves it outside strings with the same brackets open, and so
does one such text after another. The code for a well-formed expression is such a text
(`skips_code`), whatever its strings hold.
-/

namespace MarkupValues.CSharp

/-! ## The scanner -/

/-- Where a scanner is: outside strings, after a sign that starts a verbatim string before a quote,
in a string, or after a quote in a string, which ends it unless another quote follows. -/
inductive Place where
  | code
  | afterSign
  | string
  | afterQuote
deriving DecidableEq

/-- A scanner: its place, and what has to close the brackets that are open, the innermost first. -/
structure Scanner where
  place : Place
  opened : List Char
deriving DecidableEq

namespace Scanner

/-- One character outside strings. A quote has to follow a sign, and a bracket that closes has to be
the one that is wanted; any other character is passed over. -/
def stepOutside (opened : List Char) (c : Char) : Option Scanner :=
  if c = '@' then some ⟨.afterSign, opened⟩
  else if c = '"' then none
  else if c = '(' then some ⟨.code, ')' :: opened⟩
  else if c = '{' then some ⟨.code, '}' :: opened⟩
  else if c = ')' ∨ c = '}' then
    if opened.head? = some c then some ⟨.code, opened.tail⟩ else none
  else some ⟨.code, opened⟩

/-- One character, wherever the scanner is. There is no next one after a quote without a sign and
after a bracket that is not the one wanted. -/
def step (scanner : Scanner) (c : Char) : Option Scanner :=
  match scanner.place with
  | .code => stepOutside scanner.opened c
  | .string => some ⟨if c = '"' then .afterQuote else .string, scanner.opened⟩
  | .afterSign | .afterQuote =>
    if c = '"' then some ⟨.string, scanner.opened⟩ else stepOutside scanner.opened c

/-- The scanner after a text, if it gets that far without a step that fails. -/
def run (scanner : Scanner) (cs : List Char) : Option Scanner :=
  cs.foldlM step scanner

/-- A text is scanned from its first character on. -/
theorem run_cons (scanner : Scanner) (c : Char) (cs : List Char) :
    scanner.run (c :: cs) = (scanner.step c).bind (run · cs) := rfl

/-- A text after another is scanned from where the first one leaves the scanner. -/
theorem run_append (scanner : Scanner) (cs cs' : List Char) :
    scanner.run (cs ++ cs') = (scanner.run cs).bind (run · cs') :=
  List.foldlM_append

end Scanner

/-- Whether every string of a text is closed before its end, and its parentheses and braces outside
strings are balanced. -/
def isClosed (code : String) : Bool :=
  match Scanner.run ⟨.code, []⟩ code.toList with
  | some ⟨.code, []⟩ | some ⟨.afterQuote, []⟩ => true
  | _ => false

/-! ## Texts that are passed over -/

/-- Whether a place is outside strings. The place after a quote counts, since a character other than
a quote shows that the quote ended its string. -/
def Place.IsOutside (place : Place) : Prop :=
  place = .code ∨ place = .afterQuote

/-- A text that a scanner outside strings passes over, so that it is outside strings again with the
same brackets open. It may start after a quote, so that texts that are passed over can follow one
another. -/
def Skips (cs : List Char) : Prop :=
  ∀ opened : List Char, ∀ place : Place, place.IsOutside →
    ∃ place' : Place, place'.IsOutside ∧ Scanner.run ⟨place, opened⟩ cs = some ⟨place', opened⟩

/-- The empty text is passed over. -/
theorem Skips.nil : Skips [] :=
  fun _ place h => ⟨place, h, rfl⟩

/-- Two texts that are passed over are passed over one after the other. -/
theorem Skips.append {cs cs' : List Char} (h : Skips cs) (h' : Skips cs') : Skips (cs ++ cs') := by
  intro opened place hplace
  obtain ⟨middle, hmiddle, hrun⟩ := h opened place hplace
  obtain ⟨last, hlast, hrun'⟩ := h' opened middle hmiddle
  refine ⟨last, hlast, ?_⟩
  rw [Scanner.run_append, hrun]
  exact hrun'

/-- Outside strings a character other than a quote is scanned in the same way everywhere. -/
theorem step_of_isOutside {place : Place} {c : Char} (h : place.IsOutside) (hc : c ≠ '"')
    (opened : List Char) :
    Scanner.step ⟨place, opened⟩ c = Scanner.stepOutside opened c := by
  rcases h with rfl | rfl
  · rfl
  · simp [Scanner.step, hc]

/-- Whether a character is neither a bracket nor one that strings start with, so that it says
nothing to the scanner. -/
def isPlain (c : Char) : Bool :=
  !(['@', '"', '(', ')', '{', '}'].contains c)

/-- Plain characters are passed over, by induction on the text. -/
theorem skips_of_all {cs : List Char} (h : cs.all isPlain = true) : Skips cs := by
  intro opened place hplace
  induction cs generalizing place with
  | nil => exact ⟨place, hplace, rfl⟩
  | cons c cs ih =>
    obtain ⟨hc, hcs⟩ := Bool.and_eq_true_iff.1 h
    simp only [isPlain, List.contains_eq_mem, List.mem_cons, List.not_mem_nil, or_false,
      Bool.not_eq_true', decide_eq_false_iff_not, not_or] at hc
    obtain ⟨hat, hquote, hparen, hparen', hbrace, hbrace'⟩ := hc
    obtain ⟨last, hlast, hrun⟩ := ih hcs .code (.inl rfl)
    refine ⟨last, hlast, ?_⟩
    rw [Scanner.run_cons, step_of_isOutside hplace hquote]
    simpa [Scanner.stepOutside, hat, hquote, hparen, hparen', hbrace, hbrace'] using hrun

/-- A text between brackets is passed over when the text alone is: the opening bracket adds one to
those that are open, which the text leaves as they are, and the closing one is then the one that is
wanted. -/
theorem Skips.bracket {l r : Char} (hbracket : (l = '(' ∧ r = ')') ∨ (l = '{' ∧ r = '}'))
    {cs : List Char} (h : Skips cs) : Skips (l :: (cs ++ [r])) := by
  intro opened place hplace
  obtain ⟨last, hlast, hrun⟩ := h (r :: opened) .code (.inl rfl)
  refine ⟨.code, .inl rfl, ?_⟩
  have hopen : Scanner.step ⟨place, opened⟩ l = some ⟨.code, r :: opened⟩ := by
    rcases hbracket with ⟨rfl, rfl⟩ | ⟨rfl, rfl⟩ <;>
      rw [step_of_isOutside hplace (by decide)] <;> rfl
  have hclose : Scanner.step ⟨last, r :: opened⟩ r = some ⟨.code, opened⟩ := by
    rcases hbracket with ⟨rfl, rfl⟩ | ⟨rfl, rfl⟩ <;> rw [step_of_isOutside hlast (by decide)] <;>
      simp [Scanner.stepOutside]
  rw [Scanner.run_cons, hopen, Option.bind_some, Scanner.run_append, hrun, Option.bind_some,
    Scanner.run_cons, hclose]
  rfl

/-- In a string, the characters of a value with its quotes doubled and a closing quote lead to the
end of the string, whatever the value is: each of its quotes is scanned together with its double. -/
theorem run_doubleQuotes (v opened : List Char) :
    Scanner.run ⟨.string, opened⟩ (Dialect.doubleQuotes v ++ ['"']) =
      some ⟨.afterQuote, opened⟩ := by
  induction v with
  | nil => rfl
  | cons c v ih =>
    by_cases hc : c = '"'
    · subst hc
      rw [Dialect.doubleQuotes_quote]
      exact ih
    · rw [Dialect.doubleQuotes_of_ne hc, List.cons_append, Scanner.run_cons]
      simpa [Scanner.step, hc] using ih

/-- A verbatim string is passed over, whatever it holds: brackets, signs and quotes inside say
nothing to the scanner. -/
theorem skips_string (v : List Char) : Skips ('@' :: '"' :: (Dialect.doubleQuotes v ++ ['"'])) := by
  intro opened place hplace
  refine ⟨.afterQuote, .inr rfl, ?_⟩
  rw [Scanner.run_cons, step_of_isOutside hplace (by decide)]
  exact run_doubleQuotes v opened

/-- Characters of words are plain. -/
theorem isPlain_of_isWordChar {c : Char} (h : isWordChar c = true) : isPlain c = true := by
  refine Bool.eq_true_of_not_eq_false fun hc => ?_
  simp only [isPlain, Bool.not_eq_false', List.contains_iff_mem] at hc
  have hwords : ['@', '"', '(', ')', '{', '}'].all (!isWordChar ·) = true := rfl
  have hword := List.all_eq_true.1 hwords c hc
  rw [h] at hword
  cases hword

/-- Words are passed over, so that names and numbers say nothing to the scanner. -/
theorem skips_of_isWord {cs : List Char} (h : IsWord cs) : Skips cs :=
  skips_of_all (List.all_eq_true.2 fun c hc => isPlain_of_isWordChar (h c hc))

/-- Texts that are passed over are passed over with commas between them, by induction on the list;
arguments, items and properties are written so. -/
theorem skips_commas {parts : List (List Char)} (h : ∀ part ∈ parts, Skips part) :
    Skips (Options.commas parts) := by
  have htail : ∀ parts : List (List Char), (∀ part ∈ parts, Skips part) →
      Skips (Options.commaTail parts) := by
    intro parts h
    induction parts with
    | nil => exact .nil
    | cons part parts ih =>
      obtain ⟨hpart, hparts⟩ := List.forall_mem_cons.1 h
      have hcomma : Skips [',', ' '] := skips_of_all rfl
      exact hcomma.append (hpart.append (ih hparts))
  cases parts with
  | nil => exact .nil
  | cons part parts =>
    obtain ⟨hpart, hparts⟩ := List.forall_mem_cons.1 h
    exact hpart.append (htail parts hparts)

/-- A text in parentheses and what follows it are passed over when either is. -/
theorem Skips.paren {cs cs' : List Char} (h : Skips cs) (h' : Skips cs') :
    Skips ('(' :: (cs ++ ')' :: cs')) := by
  have := (h.bracket (.inl ⟨rfl, rfl⟩)).append h'
  simpa using this

/-! ## Code is passed over -/

section
variable {options : Options}

/-- The dialect of options for C# is that of C#, which settles how their literals and blocks are
written. -/
theorem dialect_eq (hl : options.language = .csharp) :
    options.dialect = Language.csharp.dialect := by
  rw [Options.dialect, hl]

/-- A type name that is a path is passed over, its qualifier included. -/
theorem skips_typeName (options : Options) {name : TypeName} (h : name.isPath = true) :
    Skips (options.typeName name).toList :=
  skips_of_isWord (Options.typeName_word options h).1

/-- A literal is passed over: it is a word, a word after a cast, or a verbatim string. -/
theorem skips_literal (hl : options.language = .csharp) {value : Literal}
    (h : value.isWellFormed = true) : Skips (options.code (.literal value)) := by
  have hword (c : Char) (hc : isWordChar c = true) : Skips [c] :=
    skips_of_isWord (List.forall_mem_singleton.2 hc)
  cases value with
  | raw digits => exact skips_of_isWord (isWord_of_isSignedDecimal h)
  | byte value =>
    rw [Options.code_byte, dialect_eq hl]
    have hbyte : Skips "byte".toList := skips_of_isWord (by decide)
    have hdigits : Skips (Nat.toDigits 10 value.toNat) := skips_of_isWord fun c hc =>
      isWordChar_of_isDigit (Numeric.allDigits_toDigits _ c hc)
    simpa [Language.dialect] using hbyte.paren hdigits
  | single value =>
    rw [Options.code_single, dialect_eq hl]
    exact (skips_of_isWord (isWord_of_isSignedDecimal (Binary.isSignedDecimal_text h))).append
      (hword 'F' rfl)
  | double digits =>
    rw [Options.code_double, dialect_eq hl]
    exact (skips_of_isWord (isWord_of_isSignedDecimal h)).append (hword 'D' rfl)
  | long value =>
    rw [Options.code_long, dialect_eq hl]
    exact (skips_of_isWord (isWord_of_isSignedDecimal (Numeric.isSignedDecimal_repr _))).append
      (hword 'L' rfl)
  | string value =>
    rw [Options.code_string, dialect_eq hl]
    exact skips_string value.toList

/-- The call that leaves a text to a converter at run time is passed over, whatever the text is,
since the text stands in a verbatim string. -/
theorem skips_callCode (hl : options.language = .csharp)
    (hconverter : options.fallbackConverter.isPath = true) {target : TypeName}
    (htarget : target.isPath = true) (source : String) :
    Skips (options.callCode target source) := by
  have htypeof : Skips "typeof".toList := skips_of_isWord (by decide)
  have hmethod : Skips ".ConvertFromInvariantString".toList := skips_of_isWord (by decide)
  have hcomma : Skips [',', ' '] := skips_of_all rfl
  have hinner := htypeof.append
    ((skips_typeName options htarget).paren (hcomma.append (skips_string source.toList)))
  have := (skips_typeName options hconverter).append (hmethod.append (hinner.paren .nil))
  simpa [Options.callCode, dialect_eq hl, Language.dialect] using this

/-- What follows a constructor call is passed over when the properties that are set and the items
that are added are, since they stand between braces with commas between them. -/
theorem skips_blockCode (hl : options.language = .csharp) {initializers : List (String × Expr)}
    {items : List Expr} (hi : ∀ p ∈ initializers, Skips (options.settingCode p))
    (ht : ∀ e ∈ items, Skips (options.code e)) :
    Skips (options.blockCode initializers items) := by
  have hspace : Skips [' '] := skips_of_all rfl
  have hbrace {cs : List Char} (h : Skips cs) :
      Skips (" \x7b ".toList ++ (cs ++ " \x7d".toList)) := by
    have := hspace.append ((hspace.append (h.append hspace)).bracket (.inr ⟨rfl, rfl⟩))
    simpa using this
  unfold Options.blockCode
  rw [dialect_eq hl]
  split
  · exact hbrace (skips_commas (List.forall_mem_map.2 hi))
  · split
    · exact hbrace (skips_commas (List.forall_mem_map.2 ht))
    · exact .nil

/-- The code for a well-formed expression is passed over. The induction is over the tree: each form
puts texts that are passed over between brackets and commas. -/
theorem skips_code (hl : options.language = .csharp)
    (hconverter : options.fallbackConverter.isPath = true) {e : Expr} (he : e.WellFormed .csharp) :
    Skips (options.code e) := by
  have htype {name : TypeName} (h : Language.csharp.isTypeName name = true) :
      Skips (options.typeName name).toList :=
    skips_typeName options (Bool.and_eq_true_iff.1 h).1
  have hname {name : String} (h : isIdentifier name.toList = true) : Skips name.toList :=
    skips_of_isWord (isWord_of_isIdentifier h)
  have hdot : Skips ['.'] := skips_of_all rfl
  induction e using Expr.recNodes with
  | construct type args inits items ihargs ihinits ihitems =>
    obtain ⟨vtype, -, vargs, vinits, vitems⟩ := Expr.madeOf_construct.1 he
    have hnew : Skips "new ".toList := skips_of_all rfl
    have hequals : Skips " = ".toList := skips_of_all rfl
    have hargs := skips_commas (List.forall_mem_map.2 fun e he => ihargs e he (vargs e he))
    have hblock : Skips (options.blockCode inits items) := by
      refine skips_blockCode hl (fun p hp => ?_) fun e he => ihitems e he (vitems e he)
      have hset := (hname (vinits p hp).1).append (hequals.append (ihinits p hp (vinits p hp).2))
      simpa [Options.settingCode, dialect_eq hl, Language.dialect] using hset
    rw [Options.code_construct, dialect_eq hl]
    exact hnew.append ((htype vtype).append (hargs.paren hblock))
  | member owner name =>
    obtain ⟨vowner, vname⟩ := Expr.madeOf_member.1 he
    rw [Options.code_member]
    exact (htype vowner).append (hdot.append (hname vname))
  | invoke owner method args ihargs =>
    obtain ⟨vowner, vmethod, vargs⟩ := Expr.madeOf_invoke.1 he
    have hargs := skips_commas (List.forall_mem_map.2 fun e he => ihargs e he (vargs e he))
    rw [Options.code_invoke]
    exact (htype vowner).append (hdot.append ((hname vmethod).append (hargs.paren .nil)))
  | literal value => exact skips_literal hl (Expr.madeOf_literal.1 he)
  | null =>
    rw [Options.code_null, dialect_eq hl]
    exact skips_of_all rfl
  | fallback target source =>
    have vtarget := (Bool.and_eq_true_iff.1 (Expr.madeOf_fallback.1 he)).1
    rw [Options.code_fallback_csharp hl]
    exact (skips_typeName options vtarget).paren (skips_callCode hl hconverter vtarget source)

/-- The code for a well-formed expression is closed: no text in it gets out of its string. -/
theorem isClosed_render (hl : options.language = .csharp)
    (hconverter : options.fallbackConverter.isPath = true) {e : Expr} (he : e.WellFormed .csharp) :
    isClosed (options.render e) = true := by
  obtain ⟨place, hplace, hrun⟩ := skips_code hl hconverter he [] .code (.inl rfl)
  unfold Options.code at hrun
  unfold isClosed
  rw [hrun]
  rcases hplace with rfl | rfl <;> rfl

end

end MarkupValues.CSharp
