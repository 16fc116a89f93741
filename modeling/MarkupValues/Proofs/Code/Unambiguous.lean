import MarkupValues.Proofs.Code.Forms

/-!
# Code says which expression it is written for

Two well-formed expressions with the same code are one (`render_inj`). The induction is over the
expression and carries more (`decodable_code`): which expression it is, and where its code ends, are
told by any text that starts with its code. Reading the form (`readForm?_code`) leaves one lemma for
each kind of expression, and the lists in it are compared part by part, as each part is told by the
text that starts with it.
-/

namespace MarkupValues.Options

/-! ## Lists of parts -/

section
variable {α : Type} {write : α → List Char} {valid : α → Prop}

/-- A part that is told, with the end of what is written for it, by the text that starts with it: no
other part that is valid, followed by what may follow a part, gives the same text. -/
def Decodable (write : α → List Char) (valid : α → Prop) (x : α) : Prop :=
  ∀ ⦃y rest rest'⦄, valid y → Ends rest → Ends rest' →
    write x ++ rest = write y ++ rest' → x = y ∧ rest = rest'

/-- What follows a part of a list is what may follow an expression: the comma before the next part,
or what closes the list. -/
theorem ends_commaTail (parts : List (List Char)) {rest : List Char} (h : Closes rest) :
    Ends (commaTail parts ++ rest) := by
  cases parts with
  | nil => exact h.ends
  | cons part parts => exact .inr (.inl ⟨_, rfl⟩)

/-- A list of decodable parts after a first one is told by the text that starts with it, by
induction on the list: a comma goes on with another part, and what closes the list does not. -/
theorem commaTail_append_inj {xs ys : List α} {rest rest' : List Char}
    (hx : ∀ x ∈ xs, Decodable write valid x) (hy : ∀ y ∈ ys, valid y) (hr : Closes rest)
    (hr' : Closes rest')
    (heq : commaTail (xs.map write) ++ rest = commaTail (ys.map write) ++ rest') :
    xs = ys ∧ rest = rest' := by
  induction xs generalizing ys with
  | nil =>
    cases ys with
    | nil => exact ⟨rfl, heq⟩
    | cons y ys =>
      obtain ⟨cs, rfl | rfl | rfl⟩ := hr <;> cases heq
  | cons x xs ih =>
    cases ys with
    | nil => obtain ⟨cs, rfl | rfl | rfl⟩ := hr' <;> cases heq
    | cons y ys =>
      obtain ⟨hx, hxs⟩ := List.forall_mem_cons.1 hx
      obtain ⟨hy, hys⟩ := List.forall_mem_cons.1 hy
      have hparts : write x ++ (commaTail (xs.map write) ++ rest) =
          write y ++ (commaTail (ys.map write) ++ rest') := by
        simpa using heq
      obtain ⟨rfl, htail⟩ := hx hy (ends_commaTail _ hr) (ends_commaTail _ hr') hparts
      obtain ⟨rfl, hrest⟩ := ih hxs hys htail
      exact ⟨rfl, hrest⟩

/-- A list of decodable parts is told by the text that starts with it, when no part starts like what
closes a list. Then an empty list is told from one that has a first part, and the rest is
`commaTail_append_inj`. -/
theorem commas_append_inj {xs ys : List α} {rest rest' : List Char}
    (hne : ∀ x, valid x → ∀ rest, Ends rest → ¬ Closes (write x ++ rest))
    (hx : ∀ x ∈ xs, valid x ∧ Decodable write valid x) (hy : ∀ y ∈ ys, valid y) (hr : Closes rest)
    (hr' : Closes rest') (heq : commas (xs.map write) ++ rest = commas (ys.map write) ++ rest') :
    xs = ys ∧ rest = rest' := by
  cases xs with
  | nil =>
    cases ys with
    | nil => exact ⟨rfl, heq⟩
    | cons y ys =>
      refine absurd hr ?_
      rw [show rest = write y ++ (commaTail (ys.map write) ++ rest') by simpa [commas] using heq]
      exact hne y (hy y (.head _)) _ (ends_commaTail _ hr')
  | cons x xs =>
    cases ys with
    | nil =>
      refine absurd hr' ?_
      rw [show rest' = write x ++ (commaTail (xs.map write) ++ rest) by
        simpa [commas] using heq.symm]
      exact hne x (hx x (.head _)).1 _ (ends_commaTail _ hr)
    | cons y ys =>
      -- A comma before both lists makes them tails, each with its first part.
      exact commaTail_append_inj (fun x h => (hx x h).2) hy hr hr'
        (by simpa [commas] using heq)

end

variable {options : Options} {rest rest' : List Char}

/-! ## Arguments and blocks -/

/-- An expression that the language of the options has a form for, which is what the code is told
apart for. -/
abbrev Valid (options : Options) (e : Expr) : Prop :=
  e.WellFormed options.language

/-- A property that the language has a form for: its name is an identifier and its value is
valid. -/
def ValidSetting (options : Options) (setting : String × Expr) : Prop :=
  isIdentifier setting.1.toList = true ∧ options.Valid setting.2

/-- No expression starts like what closes a list, so that an empty list is told from one with
elements. -/
theorem not_closes_code (hconverter : options.fallbackConverter.isPath = true) {e : Expr}
    (he : options.Valid e) (hr : Ends rest) : ¬ Closes (options.code e ++ rest) := fun h => by
  have hform := readForm?_code hconverter he hr
  rw [readForm?_of_closes h] at hform
  cases hform

/-- The name of a property that is set is written as a word, with the dot that one language puts
before it. -/
theorem isWord_setter {name : String} (h : isIdentifier name.toList = true) :
    IsWord (options.dialect.setter.toList ++ name.toList) := by
  have hsetter : IsWord options.dialect.setter.toList := by
    rw [dialect]
    cases options.language <;> decide
  exact hsetter.append (isWord_of_isIdentifier h)

/-- No property that is set starts like what closes a list, so that a block without properties is
told from one with some. -/
theorem not_closes_settingCode {setting : String × Expr} (h : options.ValidSetting setting) :
    ¬ Closes (options.settingCode setting ++ rest) := by
  have hword : IsWord (options.dialect.setter.toList ++ setting.1.toList) := isWord_setter h.1
  obtain ⟨c, cs, hc, -⟩ := exists_cons_of_isIdentifier h.1
  obtain ⟨d, ds, hd⟩ := List.exists_cons_of_ne_nil
    (List.append_ne_nil_of_right_ne_nil options.dialect.setter.toList (hc ▸ List.cons_ne_nil c cs))
  rw [hd] at hword
  rw [settingCode, ← List.append_assoc, hd]
  rintro ⟨tail, htail | htail | htail⟩ <;> cases (List.cons.inj htail).1 <;>
    cases hword _ (.head _)

/-- No expression starts where a property is set, so that a block of properties is told from one of
items. -/
theorem readForm?_settingCode {setting : String × Expr} (h : options.ValidSetting setting) :
    readForm? (options.settingCode setting ++ rest) = none := by
  rw [settingCode, ← List.append_assoc, List.append_assoc]
  exact readForm?_setting (isWord_setter h.1)

/-- A property with a decodable value is decodable: its name ends at the blank before the equals
sign. -/
theorem decodable_settingCode {setting : String × Expr} (h : options.ValidSetting setting)
    (he : Decodable options.code options.Valid setting.2) :
    Decodable options.settingCode options.ValidSetting setting := by
  obtain ⟨name, e⟩ := setting
  rintro ⟨name', e'⟩ rest rest' h' hr hr' heq
  simp only [settingCode, List.append_assoc, List.append_cancel_left_eq, List.cons_append] at heq
  obtain ⟨hname, hvalue⟩ := Text.append_inj_of_stops (isWord_of_isIdentifier h.1)
    (Text.stops_cons.2 rfl) (isWord_of_isIdentifier h'.1) (Text.stops_cons.2 rfl) heq
  simp only [List.cons.injEq, true_and] at hvalue
  obtain ⟨rfl, hrest⟩ := he h'.2 hr hr' hvalue
  obtain rfl : name = name' := String.toList_inj.1 hname
  exact ⟨rfl, hrest⟩

/-- Arguments are told by the text between their parentheses, and what follows the closing one is
the same. -/
theorem args_append_inj (hconverter : options.fallbackConverter.isPath = true)
    {args args' : List Expr}
    (hargs : ∀ e ∈ args, options.Valid e ∧ Decodable options.code options.Valid e)
    (hargs' : ∀ e ∈ args', options.Valid e)
    (heq : commas (args.map options.code) ++ ')' :: rest =
      commas (args'.map options.code) ++ ')' :: rest') :
    args = args' ∧ rest = rest' := by
  have hclose (cs : List Char) : Closes (')' :: cs) := ⟨cs, .inl rfl⟩
  obtain ⟨hargs, hrest⟩ := commas_append_inj (fun e he _ hr => not_closes_code hconverter he hr)
    hargs hargs' (hclose _) (hclose _) heq
  exact ⟨hargs, (List.cons.inj hrest).2⟩

/-- What may follow an expression does not start like a block, so that a constructor call without a
block is told from one that has one. -/
theorem Ends.ne_left {cs : List Char} (h : Ends rest) :
    rest ≠ options.dialect.initializers.left.toList ++ cs ∧
      rest ≠ options.dialect.items.left.toList ++ cs := by
  rw [dialect]
  cases options.language <;> apply h.elim <;> simp [Language.dialect]

/-- What ends a block closes a list, in the sense that `commas_append_inj` asks for. -/
theorem closes_right (options : Options) (rest : List Char) :
    Closes (options.dialect.initializers.right.toList ++ rest) ∧
      Closes (options.dialect.items.right.toList ++ rest) := by
  rw [dialect]
  cases options.language
  · exact ⟨⟨rest, .inr (.inr rfl)⟩, rest, .inr (.inr rfl)⟩
  · exact ⟨⟨rest, .inr (.inl rfl)⟩, rest, .inr (.inl rfl)⟩

/-- A block is absent, or it is made of properties alone or of items alone, and its code starts and
ends as the language writes such a block. These are the cases in which two blocks are compared. -/
theorem blockCode_append (options : Options) {initializers : List (String × Expr)}
    {items : List Expr}
    (h : initializers = [] ∨ items = []) (rest : List Char) :
    (initializers = [] ∧ items = [] ∧ options.blockCode initializers items ++ rest = rest) ∨
    (initializers ≠ [] ∧ items = [] ∧ options.blockCode initializers items ++ rest =
      options.dialect.initializers.left.toList ++
        (commas (initializers.map options.settingCode) ++
          (options.dialect.initializers.right.toList ++ rest))) ∨
    (initializers = [] ∧ items ≠ [] ∧ options.blockCode initializers items ++ rest =
      options.dialect.items.left.toList ++
        (commas (items.map options.code) ++ (options.dialect.items.right.toList ++ rest))) := by
  by_cases hi : initializers = []
  · by_cases ht : items = []
    · exact .inl ⟨hi, ht, by simp [blockCode, hi, ht]⟩
    · exact .inr (.inr ⟨hi, ht, by simp [blockCode, hi, ht]⟩)
  · exact .inr (.inl ⟨hi, h.resolve_left hi, by simp [blockCode, hi]⟩)

/-- A block of properties is not one of items: in Visual Basic its first word tells, and otherwise
the equals sign after the name of its first property. -/
theorem initializers_ne_items (hconverter : options.fallbackConverter.isPath = true)
    {initializers : List (String × Expr)} {items : List Expr} (hi : initializers ≠ [])
    (ht : items ≠ []) (hinitializers : ∀ p ∈ initializers, options.ValidSetting p)
    (hitems : ∀ e ∈ items, options.Valid e) (hr : Closes rest) (cs : List Char) :
    options.dialect.initializers.left.toList ++
        (commas (initializers.map options.settingCode) ++ cs) ≠
      options.dialect.items.left.toList ++ (commas (items.map options.code) ++ rest) := by
  obtain ⟨p, ps, rfl⟩ := List.exists_cons_of_ne_nil hi
  obtain ⟨e, es, rfl⟩ := List.exists_cons_of_ne_nil ht
  have hne : commas ((p :: ps).map options.settingCode) ++ cs ≠
      commas ((e :: es).map options.code) ++ rest := fun h => by
    simp only [commas, List.map_cons, List.append_assoc] at h
    have hform := readForm?_code hconverter (hitems e (.head _))
      (ends_commaTail (es.map options.code) hr)
    rw [← h, readForm?_settingCode (hinitializers p (.head _))] at hform
    cases hform
  obtain ⟨language, qualify, converter⟩ := options
  cases language
  · exact fun heq => hne (List.append_cancel_left heq)
  · simp [dialect, Language.dialect]

/-- What stands in the block after a constructor call is told by the text that starts with it.
Blocks of different kinds start differently, and blocks of one kind are lists of decodable parts. -/
theorem blockCode_append_inj (hconverter : options.fallbackConverter.isPath = true)
    {inits inits' : List (String × Expr)} {items items' : List Expr}
    (hblock : inits = [] ∨ items = []) (hblock' : inits' = [] ∨ items' = [])
    (hinits : ∀ p ∈ inits, options.ValidSetting p ∧
      Decodable options.settingCode options.ValidSetting p)
    (hitems : ∀ e ∈ items, options.Valid e ∧ Decodable options.code options.Valid e)
    (hinits' : ∀ p ∈ inits', options.ValidSetting p) (hitems' : ∀ e ∈ items', options.Valid e)
    (hr : Ends rest) (hr' : Ends rest')
    (heq : options.blockCode inits items ++ rest = options.blockCode inits' items' ++ rest') :
    inits = inits' ∧ items = items' ∧ rest = rest' := by
  obtain ⟨hclose, hclose₂⟩ := closes_right options rest
  obtain ⟨hclose', hclose₂'⟩ := closes_right options rest'
  rcases blockCode_append options hblock rest with
      ⟨rfl, rfl, h⟩ | ⟨hi, rfl, h⟩ | ⟨rfl, ht, h⟩ <;>
    rcases blockCode_append options hblock' rest' with
      ⟨rfl, rfl, h'⟩ | ⟨hi', rfl, h'⟩ | ⟨rfl, ht', h'⟩ <;>
    rw [h, h'] at heq
  · exact ⟨rfl, rfl, heq⟩
  · exact absurd heq hr.ne_left.1
  · exact absurd heq hr.ne_left.2
  · exact absurd heq.symm hr'.ne_left.1
  · obtain ⟨rfl, hrest⟩ :=
      commas_append_inj (fun _ h _ _ => not_closes_settingCode h) hinits hinits'
      hclose hclose' (List.append_cancel_left heq)
    exact ⟨rfl, rfl, List.append_cancel_left hrest⟩
  · exact absurd heq (initializers_ne_items hconverter hi ht' (fun p hp => (hinits p hp).1) hitems'
      hclose₂' _)
  · exact absurd heq.symm hr'.ne_left.2
  · exact absurd heq.symm (initializers_ne_items hconverter hi' ht hinits'
      (fun e he => (hitems e he).1) hclose₂ _)
  · obtain ⟨rfl, hrest⟩ := commas_append_inj (fun _ he _ hr => not_closes_code hconverter he hr)
      hitems hitems' hclose₂ hclose₂' (List.append_cancel_left heq)
    exact ⟨rfl, rfl, List.append_cancel_left hrest⟩

/-! ## Names and literals -/

/-- A type name is told by what is written for it, when it does not start with the qualifier
itself. -/
theorem typeName_inj {name name' : TypeName} (h : options.language.isTypeName name = true)
    (h' : options.language.isTypeName name' = true)
    (heq : (options.typeName name).toList = (options.typeName name').toList) : name = name' := by
  rw [toList_typeName h, toList_typeName h'] at heq
  obtain ⟨text⟩ := name
  obtain ⟨text'⟩ := name'
  rw [TypeName.mk.injEq]
  exact String.toList_inj.1 (List.append_cancel_left heq)

/-- A type name is written as a word, whether or not it is qualified. -/
theorem isWord_typeName {name : TypeName} (h : options.language.isTypeName name = true) :
    IsWord (options.typeName name).toList :=
  (typeName_word options (Bool.and_eq_true_iff.1 h).1).1

/-- A type name is told by the text that starts with it, when no word goes on after it. -/
theorem typeName_append_inj {name name' : TypeName} (h : options.language.isTypeName name = true)
    (h' : options.language.isTypeName name' = true) (hr : Text.Stops isWordChar rest)
    (hr' : Text.Stops isWordChar rest')
    (heq : (options.typeName name).toList ++ rest = (options.typeName name').toList ++ rest') :
    name = name' ∧ rest = rest' := by
  obtain ⟨hname, hrest⟩ := Text.append_inj_of_stops (isWord_typeName h) hr (isWord_typeName h') hr'
    heq
  exact ⟨typeName_inj h h' hname, hrest⟩

/-- A name of a type and a name after it are told by the text that starts with them, when no word
goes on after them: the second name is what follows the last dot. -/
theorem memberName_append_inj {owner owner' : TypeName} {name name' : String}
    (ho : options.language.isTypeName owner = true) (hn : isIdentifier name.toList = true)
    (ho' : options.language.isTypeName owner' = true) (hn' : isIdentifier name'.toList = true)
    (hr : Text.Stops isWordChar rest) (hr' : Text.Stops isWordChar rest')
    (heq : (options.typeName owner).toList ++ '.' :: (name.toList ++ rest) =
      (options.typeName owner').toList ++ '.' :: (name'.toList ++ rest')) :
    owner = owner' ∧ name = name' ∧ rest = rest' := by
  have hword {owner : TypeName} {name : String} (ho : options.language.isTypeName owner = true)
      (hn : isIdentifier name.toList = true) :
      IsWord ((options.typeName owner).toList ++ '.' :: name.toList) :=
    (isWord_typeName ho).append (.cons rfl (isWord_of_isIdentifier hn))
  have hdot {name : String} (hn : isIdentifier name.toList = true) : '.' ∉ name.toList := fun h =>
    absurd (forall_mem_of_isIdentifier hn '.' h) (by decide)
  rw [← List.cons_append, ← List.cons_append, ← List.append_assoc, ← List.append_assoc] at heq
  obtain ⟨hnames, hrest⟩ := Text.append_inj_of_stops (hword ho hn) hr (hword ho' hn') hr' heq
  obtain ⟨howner, hname⟩ := Text.append_cons_inj_of_not_mem (hdot hn) (hdot hn') hnames
  exact ⟨typeName_inj ho ho' howner, String.toList_inj.1 hname, hrest⟩

/-- A number is told by the text that starts with it and its suffix, when no word goes on after
them. -/
theorem digits_append_inj {digits digits' suffix : List Char} (hsuffix : IsWord suffix)
    (h : Numeric.isSignedDecimal digits = true) (h' : Numeric.isSignedDecimal digits' = true)
    (hr : Text.Stops isWordChar rest) (hr' : Text.Stops isWordChar rest')
    (heq : digits ++ suffix ++ rest = digits' ++ suffix ++ rest') :
    digits = digits' ∧ rest = rest' := by
  obtain ⟨hdigits, hrest⟩ := Text.append_inj_of_stops
    ((isWord_of_isSignedDecimal h).append hsuffix) hr
    ((isWord_of_isSignedDecimal h').append hsuffix) hr' heq
  exact ⟨List.append_cancel_right hdigits, hrest⟩

/-- The suffixes of the typed numbers are words, so that a number and its suffix are one word. -/
theorem isWord_suffixes (language : Language) :
    IsWord language.dialect.singleSuffix.toList ∧ IsWord language.dialect.doubleSuffix.toList ∧
      IsWord language.dialect.longSuffix.toList := by
  cases language <;> decide

/-- No word goes on after the digits of a byte, where a parenthesis may have to be closed. -/
theorem stops_byte (options : Options) (hr : Ends rest) :
    Text.Stops isWordChar (options.dialect.byte.right.toList ++ rest) := by
  rw [dialect]
  cases options.language
  · exact hr.stops
  · exact Text.stops_cons.2 rfl

/-- A byte is told by its digits, which write it in base ten. -/
theorem byte_toDigits_inj {value value' : UInt8}
    (h : Nat.toDigits 10 value.toNat = Nat.toDigits 10 value'.toNat) : value = value' := by
  have hnat := congrArg (Nat.ofDigitChars 10 · 0) h
  simp only [Nat.ofDigitChars_ten_toDigits] at hnat
  exact UInt8.toNat_inj.1 hnat

/-- A literal is told by the text that starts with it and by its form. Each form is written in its
own way: digits and a suffix, a cast, or a string. -/
theorem literal_append_inj {value value' : Literal} (h : value.isWellFormed = true)
    (h' : value'.isWellFormed = true) (hr : Ends rest) (hr' : Ends rest')
    (hform : value.form = value'.form)
    (heq : options.code (.literal value) ++ rest = options.code (.literal value') ++ rest') :
    value = value' ∧ rest = rest' := by
  obtain ⟨hsingle, hdouble, hlong⟩ := isWord_suffixes options.language
  cases value with
  | raw digits =>
    cases value' with
    | raw digits' =>
      rw [code_raw, code_raw] at heq
      obtain ⟨hdigits, hrest⟩ := Text.append_inj_of_stops (isWord_of_isSignedDecimal h) hr.stops
        (isWord_of_isSignedDecimal h') hr'.stops heq
      exact ⟨by rw [String.toList_inj.1 hdigits], hrest⟩
    | _ => cases hform
  | byte value =>
    cases value' with
    | byte value' =>
      simp only [code_byte, List.append_assoc, List.append_cancel_left_eq] at heq
      have hdigits (value : UInt8) : IsWord (Nat.toDigits 10 value.toNat) := fun c hc =>
        isWordChar_of_isDigit (Numeric.allDigits_toDigits _ c hc)
      obtain ⟨hvalue, hrest⟩ := Text.append_inj_of_stops (hdigits value) (stops_byte options hr)
        (hdigits value') (stops_byte options hr') heq
      exact ⟨by rw [byte_toDigits_inj hvalue], List.append_cancel_left hrest⟩
    | _ => cases hform
  | single value =>
    cases value' with
    | single value' =>
      rw [code_single, code_single] at heq
      obtain ⟨htext, hrest⟩ := digits_append_inj hsingle (Binary.isSignedDecimal_text h)
        (Binary.isSignedDecimal_text h') hr.stops hr'.stops heq
      have hvalue := Binary.text_injective (by decide) (by decide) h h' (String.toList_inj.1 htext)
      exact ⟨by rw [hvalue], hrest⟩
    | _ => cases hform
  | double digits =>
    cases value' with
    | double digits' =>
      rw [code_double, code_double] at heq
      obtain ⟨hdigits, hrest⟩ := digits_append_inj hdouble h h' hr.stops hr'.stops heq
      exact ⟨by rw [String.toList_inj.1 hdigits], hrest⟩
    | _ => cases hform
  | long value =>
    cases value' with
    | long value' =>
      rw [code_long, code_long] at heq
      obtain ⟨hdigits, hrest⟩ := digits_append_inj hlong (Numeric.isSignedDecimal_repr _)
        (Numeric.isSignedDecimal_repr _) hr.stops hr'.stops heq
      have hvalue := Int.repr_injective (String.toList_inj.1 hdigits)
      exact ⟨by rw [Int64.toInt_inj.1 hvalue], hrest⟩
    | _ => cases hform
  | string value =>
    cases value' with
    | string value' =>
      simp only [code_string, List.append_assoc, List.append_cancel_left_eq,
        List.singleton_append] at heq
      obtain ⟨hvalue, hrest⟩ := Dialect.doubleQuotes_append_inj hr.stops_quote hr'.stops_quote heq
      exact ⟨by rw [String.toList_inj.1 hvalue], hrest⟩
    | _ => cases hform

/-- The type and the text of a fallback call are told by the text that starts with the call, and so
is what follows it. -/
theorem callCode_append_inj {target target' : TypeName} {source source' : String}
    (h : options.language.isTypeName target = true)
    (h' : options.language.isTypeName target' = true)
    (heq : options.callCode target source ++ rest = options.callCode target' source' ++ rest') :
    target = target' ∧ source = source' ∧ rest = rest' := by
  have hright (cs : List Char) :
      Text.Stops isWordChar (options.dialect.typeObject.right.toList ++ cs) := by
    rw [dialect]
    cases options.language <;> exact Text.stops_cons.2 rfl
  simp only [callCode, List.append_assoc, List.append_cancel_left_eq] at heq
  obtain ⟨rfl, htail⟩ := typeName_append_inj h h' (hright _) (hright _) heq
  simp only [List.append_cancel_left_eq, List.cons_append, List.cons.injEq, true_and,
    List.append_assoc] at htail
  obtain ⟨hsource, hrest⟩ := Dialect.doubleQuotes_append_inj (Text.stops_cons.2 rfl)
    (Text.stops_cons.2 rfl) htail
  exact ⟨rfl, String.toList_inj.1 hsource, by simpa using hrest⟩

/-! ## Expressions -/

/-- An expression is decodable if it is told from the others of its form, since its form can be read
off its code. -/
theorem decodable_of_form (hconverter : options.fallbackConverter.isPath = true) {e : Expr}
    (he : options.Valid e)
    (h : ∀ ⦃e' rest rest'⦄, options.Valid e' → e.form = e'.form → Ends rest → Ends rest' →
      options.code e ++ rest = options.code e' ++ rest' → e = e' ∧ rest = rest') :
    Decodable options.code options.Valid e := by
  intro e' rest rest' he' hr hr' heq
  refine h he' ?_ hr hr' heq
  have hform := readForm?_code hconverter he hr
  rw [heq, readForm?_code hconverter he' hr'] at hform
  exact (Option.some.inj hform).symm

/-- A constructor call with decodable parts is decodable: its type ends at the parenthesis, its
arguments are told one by one, and its block is of properties or of items. -/
theorem decodable_construct (hconverter : options.fallbackConverter.isPath = true) {type : TypeName}
    {args items : List Expr} {inits : List (String × Expr)}
    (he : options.Valid (.construct type args inits items))
    (hargs : ∀ e ∈ args, Decodable options.code options.Valid e)
    (hinits : ∀ p ∈ inits, Decodable options.code options.Valid p.2)
    (hitems : ∀ e ∈ items, Decodable options.code options.Valid e) :
    Decodable options.code options.Valid (.construct type args inits items) := by
  refine decodable_of_form hconverter he fun e' rest rest' he' hform hr hr' heq => ?_
  cases e' with
  | construct type' args' inits' items' =>
    obtain ⟨vtype, vblock, vargs, vinits, vitems⟩ := Expr.madeOf_construct.1 he
    obtain ⟨vtype', vblock', vargs', vinits', vitems'⟩ := Expr.madeOf_construct.1 he'
    simp only [code_construct, List.append_assoc, List.append_cancel_left_eq, List.cons_append]
      at heq
    obtain ⟨rfl, hcall⟩ := typeName_append_inj vtype vtype' (Text.stops_cons.2 rfl)
      (Text.stops_cons.2 rfl) heq
    obtain ⟨rfl, hblock⟩ := args_append_inj hconverter (fun e he => ⟨vargs e he, hargs e he⟩) vargs'
      (List.cons.inj hcall).2
    obtain ⟨rfl, rfl, hrest⟩ := blockCode_append_inj hconverter vblock vblock'
      (fun p hp => ⟨vinits p hp, decodable_settingCode (vinits p hp) (hinits p hp)⟩)
      (fun e he => ⟨vitems e he, hitems e he⟩) vinits' vitems' hr hr' hblock
    exact ⟨rfl, hrest⟩
  | _ => cases hform

/-- A member of a type is decodable: the word that it is written as ends where the expression does,
and its last dot stands between the two names. -/
theorem decodable_member (hconverter : options.fallbackConverter.isPath = true) {owner : TypeName}
    {name : String} (he : options.Valid (.member owner name)) :
    Decodable options.code options.Valid (.member owner name) := by
  refine decodable_of_form hconverter he fun e' rest rest' he' hform hr hr' heq => ?_
  cases e' with
  | member owner' name' =>
    obtain ⟨vowner, vname⟩ := Expr.madeOf_member.1 he
    obtain ⟨vowner', vname'⟩ := Expr.madeOf_member.1 he'
    simp only [code_member, List.append_assoc, List.cons_append] at heq
    obtain ⟨rfl, rfl, hrest⟩ :=
      memberName_append_inj vowner vname vowner' vname' hr.stops hr'.stops heq
    exact ⟨rfl, hrest⟩
  | _ => cases hform

/-- A call of a static method with decodable arguments is decodable. The names before the
parenthesis are told as those of a member, and the arguments by the text up to the closing one. -/
theorem decodable_invoke (hconverter : options.fallbackConverter.isPath = true) {owner : TypeName}
    {method : String} {args : List Expr} (he : options.Valid (.invoke owner method args))
    (hargs : ∀ e ∈ args, Decodable options.code options.Valid e) :
    Decodable options.code options.Valid (.invoke owner method args) := by
  refine decodable_of_form hconverter he fun e' rest rest' he' hform hr hr' heq => ?_
  cases e' with
  | invoke owner' method' args' =>
    obtain ⟨vowner, vmethod, vargs⟩ := Expr.madeOf_invoke.1 he
    obtain ⟨vowner', vmethod', vargs'⟩ := Expr.madeOf_invoke.1 he'
    simp only [code_invoke, List.append_assoc, List.cons_append] at heq
    obtain ⟨rfl, rfl, hcall⟩ := memberName_append_inj vowner vmethod vowner' vmethod'
      (Text.stops_cons.2 rfl) (Text.stops_cons.2 rfl) heq
    obtain ⟨rfl, hrest⟩ := args_append_inj hconverter (fun e he => ⟨vargs e he, hargs e he⟩) vargs'
      (List.cons.inj hcall).2
    exact ⟨rfl, by simpa using hrest⟩
  | _ => cases hform

/-- A literal is decodable, since it is told by its text among the literals of its form. -/
theorem decodable_literal (hconverter : options.fallbackConverter.isPath = true) {value : Literal}
    (he : options.Valid (.literal value)) :
    Decodable options.code options.Valid (.literal value) := by
  refine decodable_of_form hconverter he fun e' rest rest' he' hform hr hr' heq => ?_
  cases e' with
  | literal value' =>
    obtain ⟨rfl, hrest⟩ := literal_append_inj (Expr.madeOf_literal.1 he)
      (Expr.madeOf_literal.1 he') hr hr' (Expr.Form.literal.inj hform) heq
    exact ⟨rfl, hrest⟩
  | _ => cases hform

/-- The null reference is decodable: it has no parts. -/
theorem decodable_null (hconverter : options.fallbackConverter.isPath = true)
    (he : options.Valid .null) : Decodable options.code options.Valid .null := by
  refine decodable_of_form hconverter he fun e' rest rest' he' hform hr hr' heq => ?_
  cases e' with
  | null => exact ⟨rfl, List.append_cancel_left heq⟩
  | _ => cases hform

/-- A fallback call is decodable: its cast stands before the call in one language and around it in
the other. In both the call itself is told by `callCode_append_inj`. -/
theorem decodable_fallback (hconverter : options.fallbackConverter.isPath = true)
    {target : TypeName} {source : String} (he : options.Valid (.fallback target source)) :
    Decodable options.code options.Valid (.fallback target source) := by
  refine decodable_of_form hconverter he fun e' rest rest' he' hform hr hr' heq => ?_
  cases e' with
  | fallback target' source' =>
    have vtarget := Expr.madeOf_fallback.1 he
    have vtarget' := Expr.madeOf_fallback.1 he'
    cases hl : options.language with
    | csharp =>
      simp only [code_fallback_csharp hl, List.append_assoc, List.cons_append, List.cons.injEq,
        true_and] at heq
      obtain ⟨rfl, hcall⟩ := typeName_append_inj vtarget vtarget' (Text.stops_cons.2 rfl)
        (Text.stops_cons.2 rfl) heq
      obtain ⟨-, rfl, hrest⟩ := callCode_append_inj vtarget vtarget' (List.cons.inj hcall).2
      exact ⟨rfl, hrest⟩
    | visualBasic =>
      simp only [code_fallback_visualBasic hl, List.append_assoc, List.cons_append,
        List.append_cancel_left_eq, List.cons.injEq, true_and] at heq
      obtain ⟨rfl, rfl, hrest⟩ := callCode_append_inj vtarget vtarget' heq
      exact ⟨rfl, by simpa using hrest⟩
  | _ => cases hform

/-- A well-formed expression is told, with the end of its code, by the text that starts with it. The
induction is over the tree, with one lemma for each form above. -/
theorem decodable_code (hconverter : options.fallbackConverter.isPath = true) (e : Expr)
    (he : options.Valid e) : Decodable options.code options.Valid e := by
  induction e using Expr.recNodes with
  | construct type args inits items ihargs ihinits ihitems =>
    obtain ⟨-, -, hargs, hinits, hitems⟩ := Expr.madeOf_construct.1 he
    exact decodable_construct hconverter he (fun e h => ihargs e h (hargs e h))
      (fun p h => ihinits p h (hinits p h).2) fun e h => ihitems e h (hitems e h)
  | member owner name => exact decodable_member hconverter he
  | invoke owner method args ihargs =>
    obtain ⟨-, -, hargs⟩ := Expr.madeOf_invoke.1 he
    exact decodable_invoke hconverter he fun e h => ihargs e h (hargs e h)
  | literal value => exact decodable_literal hconverter he
  | null => exact decodable_null hconverter he
  | fallback target source => exact decodable_fallback hconverter he

/-- Code loses nothing: two well-formed expressions have the same code only if they are one. -/
theorem render_inj (hconverter : options.fallbackConverter.isPath = true) {e₁ e₂ : Expr}
    (h₁ : e₁.WellFormed options.language) (h₂ : e₂.WellFormed options.language) :
    options.render e₁ = options.render e₂ ↔ e₁ = e₂ := by
  refine ⟨fun h => ?_, fun h => by rw [h]⟩
  have heq : options.code e₁ ++ [] = options.code e₂ ++ [] := by rw [code, code, h]
  exact (decodable_code hconverter e₁ h₁ h₂ (.inl rfl) (.inl rfl) heq).1

/-- A string that holds the end of a string, a comma and the start of another is not written as two
arguments. -/
theorem render_inj_two_strings :
    TypeName.isPath .stringConverters = true ∧
    (Expr.invoke ⟨"Point"⟩ "Parse" [.string "1\", @\"2"]).WellFormed .csharp ∧
    (Expr.invoke ⟨"Point"⟩ "Parse" [.string "1", .string "2"]).WellFormed .csharp ∧
    (Options.render {} (.invoke ⟨"Point"⟩ "Parse" [.string "1\", @\"2"]) =
        Options.render {} (.invoke ⟨"Point"⟩ "Parse" [.string "1", .string "2"]) ↔
      Expr.invoke ⟨"Point"⟩ "Parse" [.string "1\", @\"2"] =
        .invoke ⟨"Point"⟩ "Parse" [.string "1", .string "2"]) := by
  have hconverter : TypeName.isPath .stringConverters = true := by decide
  have h₁ : (Expr.invoke ⟨"Point"⟩ "Parse" [.string "1\", @\"2"]).WellFormed .csharp := by decide
  have h₂ : (Expr.invoke ⟨"Point"⟩ "Parse" [.string "1", .string "2"]).WellFormed .csharp := by
    decide
  exact ⟨hconverter, h₁, h₂, @render_inj {} hconverter _ _ h₁ h₂⟩

end MarkupValues.Options
