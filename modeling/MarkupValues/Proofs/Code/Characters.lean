import MarkupValues.Code.Render
import MarkupValues.Proofs.Code.StringLiteral
import MarkupValues.Proofs.Code.WellFormed

/-!
# The characters of code

The code for an expression as a list of characters (`Options.code`), one equation for each kind of
expression. Type names, identifiers and numbers are written as words (`isWordChar`), runs of
characters that whatever stands around them in code has none of.
-/

namespace MarkupValues

/-! ## Words -/

/-- A character of a name or of a number. The colon is that of a global qualifier, and the sign that
of a negative number. -/
def isWordChar (c : Char) : Bool :=
  isIdentifierChar c || c = '.' || c = ':' || c = '-'

/-- Whether every character is one of a name or of a number. A type name, a member of a type and a
number with its suffix are written as one word each. -/
def IsWord (cs : List Char) : Prop :=
  ∀ c ∈ cs, isWordChar c = true

/-- Whether a concrete text is a word can be computed. -/
instance (cs : List Char) : Decidable (IsWord cs) :=
  decidable_of_iff (cs.all isWordChar = true) List.all_eq_true

/-- Words written one after the other are a word, as a global qualifier and the name behind it, or
the digits of a number and its suffix. -/
theorem IsWord.append {cs cs' : List Char} (h : IsWord cs) (h' : IsWord cs') : IsWord (cs ++ cs') :=
  List.forall_mem_append.2 ⟨h, h'⟩

/-- A word with one more character of a word before it, such as the dot between a type and its
member. -/
theorem IsWord.cons {c : Char} {cs : List Char} (h : isWordChar c = true) (h' : IsWord cs) :
    IsWord (c :: cs) :=
  List.forall_mem_cons.2 ⟨h, h'⟩

/-- Identifiers are made of characters of words. -/
theorem isWordChar_of_isIdentifierChar {c : Char} (h : isIdentifierChar c = true) :
    isWordChar c = true := by simp [isWordChar, h]

/-- Digits are characters of words, so that the digits of a byte and of a whole number are one. -/
theorem isWordChar_of_isDigit {c : Char} (h : c.isDigit = true) : isWordChar c = true := by
  simp [isWordChar, isIdentifierChar, Char.isAlphanum, h]

/-- An identifier is a word: the names of members, methods and properties are written as they
are. -/
theorem isWord_of_isIdentifier {cs : List Char} (h : isIdentifier cs = true) : IsWord cs :=
  fun c hc => isWordChar_of_isIdentifierChar (forall_mem_of_isIdentifier h c hc)

/-- A decimal number is a word, its sign and its point included. -/
theorem isWord_of_isSignedDecimal {cs : List Char} (h : Numeric.isSignedDecimal cs = true) :
    IsWord cs := by
  intro c hc
  rcases Numeric.forall_mem_of_isSignedDecimal h c hc with hd | rfl | rfl
  · exact isWordChar_of_isDigit hd
  · rfl
  · rfl

/-- A decimal number starts with a sign, a point or a digit, none of which an identifier starts
with. This is what tells a number from a name at the first character. -/
theorem exists_cons_of_isSignedDecimal {cs : List Char} (h : Numeric.isSignedDecimal cs = true) :
    ∃ c rest, cs = c :: rest ∧ isIdentifierStart c = false := by
  obtain ⟨front, last, heq, -⟩ := Numeric.exists_append_of_isSignedDecimal h
  obtain ⟨c, rest, rfl⟩ := List.exists_cons_of_ne_nil (l := cs) (by simp [heq])
  refine ⟨c, rest, rfl, ?_⟩
  rcases Numeric.forall_mem_of_isSignedDecimal h c (.head _) with hd | rfl | rfl
  · simp [isIdentifierStart, hd]
  · rfl
  · rfl

namespace Options

variable {options : Options}

/-! ## Type names -/

/-- What a type name without the global qualifier has before it in code: the qualifier of the
language, or nothing when names are not qualified. -/
def qualifier (options : Options) : List Char :=
  if options.qualifyGlobalNames then options.dialect.globalQualifier.toList else []

/-- The global qualifier of either language is a word that starts like a name, so that a qualified
name is read as a name too. -/
theorem globalQualifier_word (language : Language) :
    IsWord language.dialect.globalQualifier.toList ∧
      ∃ c rest, language.dialect.globalQualifier.toList = c :: rest ∧
        isIdentifierStart c = true := by
  cases language
  · exact ⟨by decide, 'g', "lobal::".toList, rfl, rfl⟩
  · exact ⟨by decide, 'G', "lobal.".toList, rfl, rfl⟩

/-- A type name that does not start with the global qualifier is written after it, when names are
qualified, and as it is otherwise. -/
theorem toList_typeName {name : TypeName} (h : options.language.isTypeName name = true) :
    (options.typeName name).toList = options.qualifier ++ name.text.toList := by
  have hprefix : options.dialect.globalQualifier.toList.isPrefixOf name.text.toList = false := by
    simpa [Language.isTypeName, dialect] using (Bool.and_eq_true_iff.1 h).2
  cases hq : options.qualifyGlobalNames <;>
    simp [typeName, qualifier, Dialect.qualified, hq, hprefix]

/-- A path is written as a word that starts like a name, whether it has the global qualifier
already, is given it, or goes without. -/
theorem typeName_word (options : Options) {name : TypeName} (h : name.isPath = true) :
    IsWord (options.typeName name).toList ∧
      ∃ c rest, (options.typeName name).toList = c :: rest ∧ isIdentifierStart c = true := by
  have hpath : IsWord name.text.toList := fun c hc => by
    rcases TypeName.forall_mem_of_isPath h c hc with hc | rfl
    · exact isWordChar_of_isIdentifierChar hc
    · rfl
  have hname := TypeName.exists_cons_of_isPath h
  unfold typeName Dialect.qualified
  split
  · split
    · exact ⟨hpath, hname⟩
    · obtain ⟨hword, c, rest, hc, hstart⟩ := globalQualifier_word options.language
      rw [String.toList_append]
      exact ⟨hword.append hpath, c, rest ++ name.text.toList, by rw [dialect, hc]; rfl, hstart⟩
  · exact ⟨hpath, hname⟩

/-! ## Code -/

/-- The characters of the code for an expression. The recursion over strings is turned into one over
characters once, by the equations below, and every later argument is about characters. -/
def code (options : Options) (e : Expr) : List Char :=
  (options.render e).toList

/-- The characters of a property that is set, from what the language writes before its name to the
end of its value. -/
def settingCode (options : Options) (setting : String × Expr) : List Char :=
  options.dialect.setter.toList ++
    (setting.1.toList ++ (' ' :: '=' :: ' ' :: options.code setting.2))

/-- Parts with commas between them, after a first one: each has a comma and a blank before it. -/
def commaTail (parts : List (List Char)) : List Char :=
  parts.flatMap fun part => ',' :: ' ' :: part

@[simp] theorem commaTail_nil : commaTail [] = [] := rfl

@[simp] theorem commaTail_cons (part : List Char) (parts : List (List Char)) :
    commaTail (part :: parts) = ',' :: ' ' :: (part ++ commaTail parts) := rfl

/-- Parts with commas between them, as arguments, properties and items are written. -/
def commas : List (List Char) → List Char
  | [] => []
  | part :: parts => part ++ commaTail parts

/-- The characters of `renderAll`, which is recursive along the tree, as a plain map over the
list. -/
theorem map_toList_renderAll (es : List Expr) :
    (options.renderAll es).map String.toList = es.map options.code := by
  induction es with
  | nil => rfl
  | cons e es ih => rw [renderAll, List.map_cons, List.map_cons, ih, code]

/-- The characters of `renderInitializers`, which is recursive along the tree, as a plain map over
the list. -/
theorem map_toList_renderInitializers (ps : List (String × Expr)) :
    (options.renderInitializers ps).map String.toList = ps.map options.settingCode := by
  induction ps with
  | nil => rfl
  | cons p ps ih =>
    rw [renderInitializers, List.map_cons, List.map_cons, ih]
    simp [settingCode, code]

/-- A list of expressions renders to no strings exactly when it is empty, so that a block is left
out on either side at once. -/
theorem isEmpty_renderAll (es : List Expr) : (options.renderAll es).isEmpty = es.isEmpty := by
  cases es <;> rfl

/-- A list of properties renders to no strings exactly when it is empty. -/
theorem isEmpty_renderInitializers (ps : List (String × Expr)) :
    (options.renderInitializers ps).isEmpty = ps.isEmpty := by
  cases ps <;> rfl

/-- Joining strings with commas is joining their characters with commas, so that arguments and items
can be taken apart as lists of texts. -/
theorem toList_commaSeparated (parts : List String) :
    (commaSeparated parts).toList = commas (parts.map String.toList) := by
  have htail : ∀ (part : String) (parts : List String),
      (", ".intercalate (part :: parts)).toList =
        part.toList ++ commaTail (parts.map String.toList) := by
    intro part parts
    induction parts generalizing part with
    | nil => simp
    | cons part' parts ih =>
      rw [String.intercalate_cons_cons, String.toList_append, String.toList_append, ih]
      simp
  cases parts with
  | nil => rfl
  | cons part parts => exact htail part parts

/-- The characters of what follows a constructor call: nothing, or the properties or the items
between the braces of the language. -/
def blockCode (options : Options) (initializers : List (String × Expr)) (items : List Expr) :
    List Char :=
  if !initializers.isEmpty then
    options.dialect.initializers.left.toList ++
      (commas (initializers.map options.settingCode) ++
        options.dialect.initializers.right.toList)
  else if !items.isEmpty then
    options.dialect.items.left.toList ++
      (commas (items.map options.code) ++ options.dialect.items.right.toList)
  else []

/-- The block of a rendered constructor call has the characters `blockCode` gives it. -/
theorem toList_block (initializers : List (String × Expr)) (items : List Expr) :
    (options.block (options.renderInitializers initializers) (options.renderAll items)).toList =
      options.blockCode initializers items := by
  rw [block, blockCode, isEmpty_renderInitializers, isEmpty_renderAll]
  split
  · simp [Brackets.around, toList_commaSeparated, map_toList_renderInitializers]
  · split
    · simp [Brackets.around, toList_commaSeparated, map_toList_renderAll]
    · rfl

theorem code_construct (type : TypeName) (args items : List Expr)
    (initializers : List (String × Expr)) :
    options.code (.construct type args initializers items) =
      options.dialect.new.toList ++ ((options.typeName type).toList ++
        '(' :: (commas (args.map options.code) ++
          ')' :: options.blockCode initializers items)) := by
  show (options.dialect.new ++ options.typeName type ++ "(" ++
    commaSeparated (options.renderAll args) ++ ")" ++
    options.block (options.renderInitializers initializers) (options.renderAll items)).toList = _
  simp [toList_commaSeparated, map_toList_renderAll, toList_block]

theorem code_member (owner : TypeName) (name : String) :
    options.code (.member owner name) =
      (options.typeName owner).toList ++ '.' :: name.toList := by
  show (options.typeName owner ++ "." ++ name).toList = _
  simp

theorem code_invoke (owner : TypeName) (method : String) (args : List Expr) :
    options.code (.invoke owner method args) =
      (options.typeName owner).toList ++ '.' :: (method.toList ++
        '(' :: (commas (args.map options.code) ++ [')'])) := by
  show (options.typeName owner ++ "." ++ method ++ "(" ++
    commaSeparated (options.renderAll args) ++ ")").toList = _
  simp [toList_commaSeparated, map_toList_renderAll]

/-! ### Literals -/

theorem code_literal (value : Literal) :
    options.code (.literal value) = (options.dialect.literal value).toList := rfl

theorem code_raw (digits : String) : options.code (.literal (.raw digits)) = digits.toList := rfl

theorem code_byte (value : UInt8) :
    options.code (.literal (.byte value)) =
      options.dialect.byte.left.toList ++
        (Nat.toDigits 10 value.toNat ++ options.dialect.byte.right.toList) := by
  simp [code_literal, Dialect.literal, Brackets.around, Nat.toString_eq_repr]

theorem code_single (value : Binary32) :
    options.code (.literal (.single value)) =
      value.text.toList ++ options.dialect.singleSuffix.toList := by
  simp [code_literal, Dialect.literal]

theorem code_double (digits : String) :
    options.code (.literal (.double digits)) =
      digits.toList ++ options.dialect.doubleSuffix.toList := by
  simp [code_literal, Dialect.literal]

theorem code_long (value : Int64) :
    options.code (.literal (.long value)) =
      value.toInt.repr.toList ++ options.dialect.longSuffix.toList := by
  simp [code_literal, Dialect.literal, Int.toString_eq_repr]

theorem code_string (value : String) :
    options.code (.literal (.string value)) =
      options.dialect.stringStart.toList ++ (Dialect.doubleQuotes value.toList ++ ['"']) :=
  Dialect.toList_stringLiteral ..

theorem code_null : options.code .null = options.dialect.null.toList := rfl

/-! ### Fallback calls -/

/-- The characters of the call that converts a text to a type at run time, without the cast of its
result, which stands before the call in one language and around it in the other. -/
def callCode (options : Options) (target : TypeName) (source : String) : List Char :=
  (options.typeName options.fallbackConverter).toList ++
    (".ConvertFromInvariantString(".toList ++ (options.dialect.typeObject.left.toList ++
      ((options.typeName target).toList ++ (options.dialect.typeObject.right.toList ++
        (',' :: ' ' :: (options.dialect.stringStart.toList ++
          (Dialect.doubleQuotes source.toList ++ ['"', ')'])))))))

theorem code_fallback_csharp (hl : options.language = .csharp) (target : TypeName)
    (source : String) :
    options.code (.fallback target source) =
      '(' :: ((options.typeName target).toList ++ ')' :: options.callCode target source) := by
  show (options.fallbackCall target source).toList = _
  simp only [fallbackCall, callCode, dialect, hl, Language.dialect, Brackets.around,
    String.toList_append, Dialect.toList_stringLiteral, List.append_assoc]
  rfl

theorem code_fallback_visualBasic (hl : options.language = .visualBasic) (target : TypeName)
    (source : String) :
    options.code (.fallback target source) =
      "CType".toList ++ '(' :: (options.callCode target source ++
        ',' :: ' ' :: ((options.typeName target).toList ++ [')'])) := by
  show (options.fallbackCall target source).toList = _
  simp only [fallbackCall, callCode, dialect, hl, Language.dialect, Brackets.around,
    String.toList_append, Dialect.toList_stringLiteral, List.append_assoc,
    List.cons_append]
  rfl

end Options

end MarkupValues
