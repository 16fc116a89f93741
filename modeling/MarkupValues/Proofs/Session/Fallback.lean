import MarkupValues.Proofs.Code.Qualification
import MarkupValues.Proofs.Registry.Spellings
import MarkupValues.Proofs.Session.Dispatch

/-!
# Names that are left to the run-time converter

The text for a type without a converter is left to the run-time converter, and its name is written
with the global qualifier of the session's language. A name that is given with this qualifier is
written in the same way, a name with the qualifier of the other language with both
(`Session.convertOrFallback_qualifier_iff`).
-/

namespace MarkupValues

/-- A fallback call tells how long the name of its type is as it is written: the name stands in it
twice, and all else has one length. -/
theorem Options.length_typeName_of_fallback {options : Options} {type type' : TypeName}
    {source : String}
    (h : options.render (.fallback type source) = options.render (.fallback type' source)) :
    (options.typeName type).length = (options.typeName type').length := by
  have hlength := congrArg String.length h
  obtain ⟨language, qualify, converter⟩ := options
  cases language <;>
    simp only [render, fallbackCall, dialect, Language.dialect, Brackets.around,
      String.length_append] at hlength <;>
    omega

namespace Session

variable {session : Session} {name raw : String} {aux : List TypeName}

/-- What is not supported is left to the run-time converter, under its qualified name. -/
theorem convertOrFallback_of_not_isSupported (hqualify : session.options.qualifyGlobalNames = true)
    (h : session.isSupported name = false) :
    session.convertOrFallback name raw aux = .ok (session.options.prequalified.render
      (.fallback (session.options.dialect.qualified ⟨name⟩) raw)) := by
  rw [convertOrFallback_of_unsupported h,
    Options.render_eq_render_rename hqualify (.fallback ⟨name⟩ raw)]
  rfl

/-- The code for a text of a type that is not supported names the type with the qualifier of the
session's language, if the name has been given without. It is the same code for the name with a
qualifier, when that is not supported either, exactly when this is the one of the session's
language. A name without white space around it that does not start with a sigma that ends a word is
not supported with a qualifier when it is not without. -/
theorem convertOrFallback_qualifier_iff (hqualify : session.options.qualifyGlobalNames = true)
    (hname : session.options.dialect.globalQualifier.toList.isPrefixOf name.toList = false)
    (hunsupported : session.isSupported name = false) (raw : String) (aux : List TypeName)
    (language : Language) :
    session.convertOrFallback name raw aux = .ok (session.options.prequalified.render
      (.fallback ⟨session.options.dialect.globalQualifier ++ name⟩ raw)) ∧
    (session.isSupported (language.dialect.globalQualifier ++ name) = false →
      (session.convertOrFallback (language.dialect.globalQualifier ++ name) raw aux =
        session.convertOrFallback name raw aux ↔ language = session.options.language)) ∧
    (Text.trim name = name → Registry.isQualified name = false →
      Text.startsWithFinalSigma name.toList = false →
        session.isSupported (language.dialect.globalQualifier ++ name) = false) := by
  have hcode : session.convertOrFallback name raw aux = .ok (session.options.prequalified.render
      (.fallback ⟨session.options.dialect.globalQualifier ++ name⟩ raw)) := by
    rw [convertOrFallback_of_not_isSupported hqualify hunsupported,
      Dialect.qualified_of_not_isPrefixOf _ hname]
  refine ⟨hcode, fun hqualified => ?_, fun htrim hqualified hsigma => ?_⟩
  · rw [hcode, convertOrFallback_of_not_isSupported hqualify hqualified]
    by_cases hown : language = session.options.language
    · subst hown
      have hstays := session.options.dialect.qualified_append name
      exact iff_of_true (congrArg (fun type => Except.ok (session.options.prequalified.render
        (.fallback type raw))) hstays) rfl
    · -- The name gets a second qualifier, so that it is longer than with one.
      refine iff_of_false (fun hsame => ?_) hown
      have htwice : session.options.dialect.qualified ⟨language.dialect.globalQualifier ++ name⟩ =
          ⟨session.options.dialect.globalQualifier ++
            (language.dialect.globalQualifier ++ name)⟩ :=
        Dialect.qualified_append_of_ne hown name
      have hpos : 0 < language.dialect.globalQualifier.length := by cases language <;> decide
      rw [htwice] at hsame
      have hlength := Options.length_typeName_of_fallback (Except.ok.inj hsame)
      simp only [Options.typeName_prequalified, String.length_append] at hlength
      omega
  · have hkey := Registry.lookupKey_qualifier_append_eq language htrim hqualified hsigma
    exact (Registry.sameName_of_lookupKey_eq hkey).contains_eq.trans hunsupported

/-- A name in a session for C#, with the qualifier of C# and without. -/
theorem convertOrFallback_qualifier_widget :
    isSupported {} "My.Widget" = false ∧ isSupported {} "global::My.Widget" = false ∧
      convertOrFallback {} "global::My.Widget" "x" [] =
        convertOrFallback {} "My.Widget" "x" [] := by
  have hqualify : (options {}).qualifyGlobalNames = true := rfl
  have hunsupported : isSupported {} "My.Widget" = false :=
    (Registry.contains_defaults _).trans (by decide +kernel)
  obtain ⟨-, hsame, hother⟩ := convertOrFallback_qualifier_iff hqualify (by decide) hunsupported
    "x" [] .csharp
  have hqualified := hother (by decide +kernel) (by decide) (by decide +kernel)
  exact ⟨hunsupported, hqualified, (hsame hqualified).2 rfl⟩

/-- A name in a session for C#, with the qualifier of Visual Basic and without. -/
theorem convertOrFallback_qualifier_twice :
    isSupported {} "My.Widget" = false ∧ isSupported {} "Global.My.Widget" = false ∧
      convertOrFallback {} "My.Widget" "x" [] =
        .ok ("(global::My.Widget)global::DotNetForHtml5.Core.TypeFromStringConverters" ++
          ".ConvertFromInvariantString(typeof(global::My.Widget), @\"x\")") ∧
      convertOrFallback {} "Global.My.Widget" "x" [] =
        .ok ("(global::Global.My.Widget)global::DotNetForHtml5.Core.TypeFromStringConverters" ++
          ".ConvertFromInvariantString(typeof(global::Global.My.Widget), @\"x\")") := by
  have hqualify : (options {}).qualifyGlobalNames = true := rfl
  have hplain : isSupported {} "My.Widget" = false :=
    (Registry.contains_defaults _).trans (by decide +kernel)
  have hother : isSupported {} "Global.My.Widget" = false :=
    (Registry.contains_defaults _).trans (by decide +kernel)
  rw [convertOrFallback_of_not_isSupported hqualify hplain,
    convertOrFallback_of_not_isSupported hqualify hother]
  refine ⟨hplain, hother, ?_, ?_⟩ <;> decide +kernel

end Session

end MarkupValues
