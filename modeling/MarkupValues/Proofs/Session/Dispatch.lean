import MarkupValues.Proofs.Registry.Failures
import MarkupValues.Session

/-!
# The ways of converting agree

A session converts a text in several ways, each with a look at the registry of its own:
`Session.isSupported` tells whether there is a converter, `Session.convert` converts,
`Session.convertOrFallback` leaves the text to the run-time converter where there is none, and
`Session.convertAt` adds a place to a failure. `Session.Dispatches` says how they agree, and that
the options of a session have no part in what it accepts. It holds of every registry of grammars,
since no grammar takes its own type for one that is not supported (`Session.dispatches`).
-/

namespace MarkupValues

open Reading (FailsWith)

/-- A failure for another reason than that the type has no converter, which is the reason that a
session tells from the others. -/
def Failure.IsOfSupported (failure : Failure) : Prop :=
  failure.cause ≠ some .unsupportedType

/-- A grammar does not take the type it is for for one without a converter, as this is none of the
causes that it may name. -/
theorem Grammar.failsWith_isOfSupported (grammar : Grammar) (source : String) (target : Target) :
    FailsWith Failure.IsOfSupported (grammar.convert source target) := by
  intro failure hfailure hcause
  exact mayName_of_convert hfailure hcause

namespace Registry

variable {registry : Registry} {typeName raw : String} {aux : List TypeName}

/-- What has an entry does not fail as a type without one, in a registry of grammars. -/
theorem IsLibrary.failsWith_isOfSupported (hlibrary : registry.IsLibrary)
    (h : registry.contains typeName = true) :
    FailsWith Failure.IsOfSupported (registry.convertExpr typeName raw aux) := by
  obtain ⟨entry, hlookup⟩ := Option.isSome_iff_exists.1 h
  obtain ⟨grammar, hgrammar⟩ := hlibrary.exists_grammar hlookup
  rw [convertExpr_of_lookup? hlookup, convert_of_converter hgrammar]
  exact grammar.failsWith_isOfSupported raw _

end Registry

namespace Session

/-- How the ways of converting a text in a session agree, for one text and one name of a type. -/
structure Dispatches (session : Session) (typeName raw : String) (aux : List TypeName) : Prop where
  /-- A conversion fails for want of a converter exactly when the type is not supported. -/
  unsupportedType_iff :
    (∃ failure, session.convert typeName raw aux = .error failure ∧
      failure.cause = some .unsupportedType) ↔ session.isSupported typeName = false
  /-- A type that is supported is converted, with the very same outcome. -/
  fallback_of_supported : session.isSupported typeName = true →
    session.convertOrFallback typeName raw aux = session.convert typeName raw aux
  /-- The text for any other type is left to the run-time converter, name and text as they are. -/
  fallback_of_unsupported : session.isSupported typeName = false →
    session.convertOrFallback typeName raw aux =
      .ok (session.options.render (.fallback ⟨typeName⟩ raw))
  /-- So nothing that may be left to the run-time converter fails for want of a converter. -/
  fallback_failsWith : FailsWith Failure.IsOfSupported (session.convertOrFallback typeName raw aux)
  /-- At a place the same texts are converted, to the same code. -/
  convertAt_eq_ok : ∀ line column code,
    session.convertAt typeName raw aux line column = .ok code ↔
      session.convert typeName raw aux = .ok code
  /-- A failure at a place is the failure without it, and the place. -/
  convertAt_eq_error : ∀ line column located,
    session.convertAt typeName raw aux line column = .error located ↔
      ∃ failure, session.convert typeName raw aux = .error failure ∧
        located = ⟨failure, line, column⟩
  /-- The code is that for the expression that the registry gives. -/
  convert_eq_ok : ∀ code, session.convert typeName raw aux = .ok code ↔
    ∃ e, session.registry.convertExpr typeName raw aux = .ok e ∧ session.options.render e = code
  /-- The failures are those of the registry. -/
  convert_eq_error : ∀ failure, session.convert typeName raw aux = .error failure ↔
    session.registry.convertExpr typeName raw aux = .error failure
  /-- A session with other options accepts the same texts. -/
  accepts_iff : ∀ options,
    (∃ code, convert ⟨options, session.registry⟩ typeName raw aux = .ok code) ↔
      ∃ code, session.convert typeName raw aux = .ok code
  /-- A session with other options fails in the same way. -/
  fails_iff : ∀ options failure,
    convert ⟨options, session.registry⟩ typeName raw aux = .error failure ↔
      session.convert typeName raw aux = .error failure

variable {session : Session} {typeName raw code : String} {aux : List TypeName} {failure : Failure}

/-- The code of a text is that of the expression that the registry has for it. -/
theorem convert_eq_ok_iff : session.convert typeName raw aux = .ok code ↔
    ∃ e, session.registry.convertExpr typeName raw aux = .ok e ∧
      session.options.render e = code := by
  rw [convert_eq_map]
  exact Reading.map_eq_ok

/-- A text fails in a session exactly as it does in its registry. -/
theorem convert_eq_error_iff : session.convert typeName raw aux = .error failure ↔
    session.registry.convertExpr typeName raw aux = .error failure := by
  rw [convert_eq_map]
  exact Reading.map_eq_error

/-- A text has code exactly when the registry has an expression for it, whatever the options. -/
theorem exists_convert_eq_ok_iff (options : Options) (registry : Registry) :
    (∃ code, convert ⟨options, registry⟩ typeName raw aux = .ok code) ↔
      ∃ e, registry.convertExpr typeName raw aux = .ok e := by
  constructor
  · rintro ⟨code, hcode⟩
    obtain ⟨e, he, -⟩ := convert_eq_ok_iff.1 hcode
    exact ⟨e, he⟩
  · rintro ⟨e, he⟩
    exact ⟨_, convert_eq_ok_iff.2 ⟨e, he, rfl⟩⟩

/-- What is supported does not fail as a type without a converter. -/
theorem failsWith_isOfSupported (hlibrary : session.registry.IsLibrary)
    (h : session.isSupported typeName = true) :
    FailsWith Failure.IsOfSupported (session.convert typeName raw aux) :=
  (hlibrary.failsWith_isOfSupported h).map session.options.render

/-- All the ways of converting agree in a session over a registry of grammars, for every name, text
and list of auxiliary names. -/
theorem dispatches (hlibrary : session.registry.IsLibrary) (typeName raw : String)
    (aux : List TypeName) : session.Dispatches typeName raw aux := by
  constructor
  case unsupportedType_iff =>
    constructor
    · rintro ⟨failure, hfailure, hcause⟩
      refine Bool.eq_false_iff.2 fun h => ?_
      exact failsWith_isOfSupported hlibrary h failure hfailure hcause
    · intro h
      have hfailure : session.registry.convertExpr typeName raw aux =
          .error ⟨raw, ⟨typeName⟩, some .unsupportedType⟩ :=
        Registry.convertExpr_of_not_contains h
      exact ⟨_, convert_eq_error_iff.2 hfailure, rfl⟩
  case fallback_of_supported => exact convertOrFallback_of_supported
  case fallback_of_unsupported => exact convertOrFallback_of_unsupported
  case fallback_failsWith =>
    cases h : session.isSupported typeName with
    | true =>
      rw [convertOrFallback_of_supported h]
      exact failsWith_isOfSupported hlibrary h
    | false =>
      rw [convertOrFallback_of_unsupported h]
      exact Reading.failsWith_ok _
  case convertAt_eq_ok =>
    intro line column code
    rw [convertAt_eq_mapError]
    exact Reading.mapError_eq_ok
  case convertAt_eq_error =>
    intro line column located
    rw [convertAt_eq_mapError]
    refine Reading.mapError_eq_error.trans (exists_congr fun failure => ?_)
    exact and_congr_right fun _ => eq_comm
  case convert_eq_ok => exact fun _ => convert_eq_ok_iff
  case convert_eq_error => exact fun _ => convert_eq_error_iff
  case accepts_iff =>
    intro options
    exact (exists_convert_eq_ok_iff options session.registry).trans
      (exists_convert_eq_ok_iff session.options session.registry).symm
  case fails_iff =>
    intro options failure
    have hother : convert ⟨options, session.registry⟩ typeName raw aux = .error failure ↔
        session.registry.convertExpr typeName raw aux = .error failure :=
      convert_eq_error_iff
    exact hother.trans convert_eq_error_iff.symm

/-- A type without a converter, in a session for Visual Basic over the core types. -/
theorem dispatches_widget :
    Registry.defaults.IsLibrary ∧
    (∃ failure, convert ⟨{ language := .visualBasic }, .defaults⟩ "My.Widget" "x" [] =
        .error failure ∧ failure.cause = some .unsupportedType) ∧
    convertOrFallback ⟨{ language := .visualBasic }, .defaults⟩ "My.Widget" "x" [] =
      .ok ("CType(Global.DotNetForHtml5.Core.TypeFromStringConverters.ConvertFromInvariantString(" ++
        "GetType(Global.My.Widget), \"x\"), Global.My.Widget)") := by
  have hlibrary := Registry.isLibrary_defaults
  have hunsupported : isSupported ⟨{ language := .visualBasic }, .defaults⟩ "My.Widget" = false :=
    (Registry.contains_defaults _).trans (by decide +kernel)
  have hdispatches : Dispatches ⟨{ language := .visualBasic }, .defaults⟩ "My.Widget" "x" [] :=
    dispatches hlibrary _ _ _
  refine ⟨hlibrary, hdispatches.unsupportedType_iff.2 hunsupported, ?_⟩
  rw [hdispatches.fallback_of_unsupported hunsupported]
  decide +kernel

end Session

end MarkupValues
