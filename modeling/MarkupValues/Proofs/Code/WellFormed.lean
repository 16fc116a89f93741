import MarkupValues.Code.Dialect
import MarkupValues.Proofs.Expr.Nodes
import MarkupValues.Proofs.Numeric.Decimal
import MarkupValues.Proofs.Text.Runs

/-!
# Well-formed expressions

An expression is well formed for a language (`Expr.WellFormed`) when its type names are paths of
identifiers without the global qualifier of the language, its other names are identifiers, its
numbers are decimal and finite, and no constructor call sets properties and adds items at once.
-/

namespace MarkupValues

/-! ## Identifiers and paths -/

/-- A character of an identifier: a letter, a digit, an underscore or any character beyond ASCII,
which admits the letters of every script. -/
def isIdentifierChar (c : Char) : Bool :=
  c.isAlphanum || c = '_' || 128 ≤ c.toNat

/-- A character that an identifier may start with: any of its characters but a digit. -/
def isIdentifierStart (c : Char) : Bool :=
  isIdentifierChar c && !c.isDigit

/-- Whether the characters are one identifier. Words that a language keeps for itself are not told
apart here. -/
def isIdentifier : List Char → Bool
  | [] => false
  | c :: cs => isIdentifierStart c && cs.all isIdentifierChar

/-- Whether a type name is identifiers with dots between them, as the full names of types are. -/
def TypeName.isPath (name : TypeName) : Bool :=
  (name.text.toList.splitOn '.').all isIdentifier

/-- Every character of an identifier is one of those that identifiers are made of, the first one
included. -/
theorem forall_mem_of_isIdentifier {cs : List Char} (h : isIdentifier cs = true) :
    ∀ c ∈ cs, isIdentifierChar c = true := by
  cases cs with
  | nil => cases h
  | cons c cs =>
    simp only [isIdentifier, isIdentifierStart, Bool.and_eq_true, List.all_eq_true] at h
    exact List.forall_mem_cons.2 ⟨h.1.1, h.2⟩

/-- An identifier starts with a character that may start one. -/
theorem exists_cons_of_isIdentifier {cs : List Char} (h : isIdentifier cs = true) :
    ∃ c rest, cs = c :: rest ∧ isIdentifierStart c = true := by
  cases cs with
  | nil => cases h
  | cons c cs => exact ⟨c, cs, rfl, (Bool.and_eq_true_iff.1 h).1⟩

namespace TypeName

/-- Every character of a path is a dot or one of those that identifiers are made of. -/
theorem forall_mem_of_isPath {name : TypeName} (h : name.isPath = true) :
    ∀ c ∈ name.text.toList, isIdentifierChar c = true ∨ c = '.' :=
  Text.forall_mem_of_splitOn _ fun part hpart =>
    forall_mem_of_isIdentifier (List.all_eq_true.1 h part hpart)

/-- A path starts with a character that may start an identifier, which is that of its first
identifier. -/
theorem exists_cons_of_isPath {name : TypeName} (h : name.isPath = true) :
    ∃ c rest, name.text.toList = c :: rest ∧ isIdentifierStart c = true := by
  unfold isPath at h
  cases hcs : name.text.toList with
  | nil => rw [hcs, List.splitOn_nil] at h; cases h
  | cons c cs =>
    obtain ⟨part, parts, hp⟩ := List.exists_cons_of_ne_nil (List.splitOn_ne_nil '.' cs)
    rw [hcs, List.splitOn_cons_eq_if_modifyHead, hp] at h
    split at h
    · cases h
    · obtain ⟨d, rest, hd, hstart⟩ :=
        exists_cons_of_isIdentifier (List.all_eq_true.1 h (c :: part) (.head _))
      cases hd
      exact ⟨c, cs, rfl, hstart⟩

end TypeName

/-! ## Literals -/

/-- Whether a literal is written as one number or string: the digits of one that keeps its text are
a decimal number, and a number of single precision is finite. -/
def Literal.isWellFormed : Literal → Bool
  | raw digits | double digits => Numeric.isSignedDecimal digits.toList
  | single value => value.isFinite
  | byte _ | long _ | string _ => true

/-! ## Expressions -/

/-- Whether a type name is a path that the global qualifier of a language may be put before. -/
def Language.isTypeName (language : Language) (name : TypeName) : Bool :=
  name.isPath && !language.dialect.globalQualifier.toList.isPrefixOf name.text.toList

/-- A type name is judged by its characters. Those of a name that is spelled out are known as they
stand, so that it need not be decoded. -/
theorem Language.isTypeName_of_chars {language : Language} {name : TypeName} (cs : List Char)
    (h : name.text = String.ofList cs)
    (hcs : ((cs.splitOn '.').all isIdentifier &&
      !language.dialect.globalQualifier.toList.isPrefixOf cs) = true) :
    language.isTypeName name = true := by
  rw [isTypeName, TypeName.isPath, h, String.toList_ofList]
  exact hcs

/-- The expressions that a language has a form for: what stands for a name is a name, what stands
for a number is a number, and no constructor call both sets properties and adds items. -/
abbrev Expr.WellFormed (language : Language) (e : Expr) : Prop :=
  e.MadeOf (fun name => language.isTypeName name = true)
    (fun name => isIdentifier name.toList = true) (fun value => value.isWellFormed = true)

/-- Whether a concrete expression is well formed can be computed, node by node. -/
instance (language : Language) (e : Expr) : Decidable (e.WellFormed language) :=
  decidable_of_iff _ Expr.madeOf_iff.symm

end MarkupValues
