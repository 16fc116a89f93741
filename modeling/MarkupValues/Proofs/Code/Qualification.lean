import MarkupValues.Code.Render
import MarkupValues.Proofs.Expr.Renaming

/-!
# Qualified names in code

Code with global qualifiers is code without them for the expression whose type names have been
qualified beforehand, and the type that converts texts at run time with them
(`Options.render_qualified`): every place where a type name is written takes the qualifier, and no
other place does. A name that is qualified already stays as it is (`Dialect.qualified_qualified`).
-/

namespace MarkupValues

namespace Dialect

variable (dialect : Dialect)

/-- A name that starts with the qualifier is left as it is, so that no name gets the qualifier
twice. -/
theorem qualified_of_isPrefixOf {name : TypeName}
    (h : dialect.globalQualifier.toList.isPrefixOf name.text.toList = true) :
    dialect.qualified name = name :=
  if_pos h

/-- Any other name gets the qualifier before it, a name with the qualifier of another language
included. -/
theorem qualified_of_not_isPrefixOf {name : TypeName}
    (h : dialect.globalQualifier.toList.isPrefixOf name.text.toList = false) :
    dialect.qualified name = ⟨dialect.globalQualifier ++ name.text⟩ :=
  if_neg (Bool.eq_false_iff.1 h)

/-- A name that has been given the qualifier is left as it is, since it starts with it now. -/
theorem qualified_append (text : String) :
    dialect.qualified ⟨dialect.globalQualifier ++ text⟩ = ⟨dialect.globalQualifier ++ text⟩ := by
  refine dialect.qualified_of_isPrefixOf ?_
  rw [String.toList_append, List.isPrefixOf_iff_prefix]
  exact List.prefix_append _ _

/-- A name is qualified once: qualifying what has been qualified changes nothing. -/
theorem qualified_qualified (name : TypeName) :
    dialect.qualified (dialect.qualified name) = dialect.qualified name := by
  cases h : dialect.globalQualifier.toList.isPrefixOf name.text.toList with
  | true => rw [dialect.qualified_of_isPrefixOf h, dialect.qualified_of_isPrefixOf h]
  | false => rw [dialect.qualified_of_not_isPrefixOf h, dialect.qualified_append]

/-- A name is left as it is exactly when it starts with the qualifier; the qualifier is not empty,
so putting it before a name always changes this. -/
theorem qualified_eq_self_iff (name : TypeName) : dialect.qualified name = name ↔
    ∃ rest, name.text = dialect.globalQualifier ++ rest := by
  constructor
  · intro h
    cases hprefix : dialect.globalQualifier.toList.isPrefixOf name.text.toList with
    | true =>
      obtain ⟨rest, hrest⟩ := List.isPrefixOf_iff_prefix.1 hprefix
      refine ⟨String.ofList rest, String.toList_inj.1 ?_⟩
      rw [String.toList_append, String.toList_ofList, hrest]
    | false =>
      rw [dialect.qualified_of_not_isPrefixOf hprefix] at h
      exact ⟨name.text, (congrArg TypeName.text h).symm⟩
  · rintro ⟨rest, hrest⟩
    have hname : name = ⟨dialect.globalQualifier ++ rest⟩ := congrArg TypeName.mk hrest
    rw [hname, dialect.qualified_append]

/-- A name is left as it is or has the qualifier put before it. -/
theorem qualified_eq_or (name : TypeName) : dialect.qualified name = name ∨
    dialect.qualified name = ⟨dialect.globalQualifier ++ name.text⟩ := by
  cases h : dialect.globalQualifier.toList.isPrefixOf name.text.toList with
  | true => exact .inl (dialect.qualified_of_isPrefixOf h)
  | false => exact .inr (dialect.qualified_of_not_isPrefixOf h)

/-- A name with the qualifier of another language gets the qualifier besides, since neither
qualifier starts with the other. -/
theorem qualified_append_of_ne {language other : Language} (h : other ≠ language) (text : String) :
    language.dialect.qualified ⟨other.dialect.globalQualifier ++ text⟩ =
      ⟨language.dialect.globalQualifier ++ (other.dialect.globalQualifier ++ text)⟩ := by
  refine language.dialect.qualified_of_not_isPrefixOf ?_
  rw [String.toList_append]
  cases language <;> cases other <;> first | exact absurd rfl h | rfl

end Dialect

namespace Options

/-- The options for names that are qualified beforehand: they are written as they are, and so is the
type that converts texts at run time. -/
def prequalified (options : Options) : Options :=
  { options with
    qualifyGlobalNames := false
    fallbackConverter := options.dialect.qualified options.fallbackConverter }

/-- Under the options for names that are qualified beforehand a name is written as it stands. -/
@[simp] theorem typeName_prequalified (options : Options) (name : TypeName) :
    options.prequalified.typeName name = name.text := rfl

section
variable {options : Options}

/-- A name is written with the qualifier as the qualified name is written without. -/
theorem typeName_eq_prequalified (h : options.qualifyGlobalNames = true) (name : TypeName) :
    options.typeName name = options.prequalified.typeName (options.dialect.qualified name) := by
  rw [typeName, if_pos h, typeName_prequalified]

/-- A list of expressions is written alike before and after renaming when each of its elements
is. -/
theorem renderAll_rename {es : List Expr}
    (h : ∀ e ∈ es, options.render e =
      options.prequalified.render (e.rename options.dialect.qualified)) :
    options.renderAll es =
      options.prequalified.renderAll (Expr.renameAll options.dialect.qualified es) := by
  induction es with
  | nil => rfl
  | cons e es ih =>
    obtain ⟨he, hes⟩ := List.forall_mem_cons.1 h
    rw [renderAll, Expr.renameAll, renderAll, he, ih hes]

/-- Properties are written alike before and after renaming when their values are; their names are
not renamed. -/
theorem renderInitializers_rename {ps : List (String × Expr)}
    (h : ∀ p ∈ ps, options.render p.2 =
      options.prequalified.render (p.2.rename options.dialect.qualified)) :
    options.renderInitializers ps = options.prequalified.renderInitializers
      (Expr.renameInitializers options.dialect.qualified ps) := by
  induction ps with
  | nil => rfl
  | cons p ps ih =>
    obtain ⟨hp, hps⟩ := List.forall_mem_cons.1 h
    rw [renderInitializers, Expr.renameInitializers, renderInitializers, hp, ih hps]
    rfl

/-- The code for an expression with qualified names is that of the expression with its names
qualified beforehand. The induction is over the tree, with the lists of arguments, properties and
items as its inner steps. -/
theorem render_eq_render_rename (h : options.qualifyGlobalNames = true) (e : Expr) :
    options.render e = options.prequalified.render (e.rename options.dialect.qualified) := by
  have hname := typeName_eq_prequalified h
  induction e using Expr.recNodes with
  | construct type args initializers items ihargs ihinitializers ihitems =>
    rw [Expr.rename, render, render, hname, renderAll_rename ihargs,
      renderInitializers_rename ihinitializers, renderAll_rename ihitems]
    rfl
  | member owner name => rw [Expr.rename, render, render, hname]
  | invoke owner method args ih => rw [Expr.rename, render, render, hname, renderAll_rename ih]
  | literal | null => rfl
  | fallback target source =>
    -- The target is written twice, and the converter is the one of the options.
    rw [Expr.rename, render, render, fallbackCall, fallbackCall, hname, hname]
    rfl

end

/-- Code with qualified names is code as it is for the expression with its type names qualified,
once or more often, and the run-time converter too. Of the expression, qualification changes the
type names and neither the names of members, methods and properties nor the literals. A name is
qualified by the qualifier of the language before it, unless it starts with this already, and then
it is left as it is. -/
theorem render_qualified (language : Language) (converter : TypeName) (e : Expr) (times : Nat) :
    render ⟨language, true, converter⟩ e =
      render ⟨language, false, language.dialect.qualified converter⟩
        ((Expr.rename language.dialect.qualified)^[times + 1] e) ∧
    (e.rename language.dialect.qualified).typeNames = e.typeNames.map language.dialect.qualified ∧
    (e.rename language.dialect.qualified).names = e.names ∧
    (e.rename language.dialect.qualified).literals = e.literals ∧
    ∀ name, (language.dialect.qualified name = name ↔
        ∃ rest, name.text = language.dialect.globalQualifier ++ rest) ∧
      (language.dialect.qualified name = name ∨
        language.dialect.qualified name = ⟨language.dialect.globalQualifier ++ name.text⟩) := by
  refine ⟨?_, Expr.typeNames_rename _ e, Expr.names_rename _ e, Expr.literals_rename _ e,
    fun name => ⟨language.dialect.qualified_eq_self_iff name,
      language.dialect.qualified_eq_or name⟩⟩
  rw [Expr.iterate_rename language.dialect.qualified_qualified]
  have hqualify : qualifyGlobalNames ⟨language, true, converter⟩ = true := rfl
  exact render_eq_render_rename hqualify e

/-- A member of a type that is given without the qualifier, a name that is given with it, and a name
with the qualifier of the other language. -/
theorem render_qualified_widget :
    render ⟨.csharp, true, .stringConverters⟩ (.member ⟨"My.Widget"⟩ "Default") =
      "global::My.Widget.Default" ∧
    Language.csharp.dialect.qualified ⟨"global::My.Widget"⟩ = ⟨"global::My.Widget"⟩ ∧
    Language.csharp.dialect.qualified ⟨"Global.My.Widget"⟩ = ⟨"global::Global.My.Widget"⟩ := by
  obtain ⟨hcode, -, -, -, hname⟩ :=
    render_qualified .csharp .stringConverters (.member ⟨"My.Widget"⟩ "Default") 0
  have hother : Language.csharp.dialect.qualified ⟨"Global.My.Widget"⟩ ≠ ⟨"Global.My.Widget"⟩ := by
    decide
  refine ⟨hcode.trans (by decide), (hname _).1.2 ⟨"My.Widget", by decide⟩, ?_⟩
  exact (hname _).2.resolve_left hother

end Options

end MarkupValues
