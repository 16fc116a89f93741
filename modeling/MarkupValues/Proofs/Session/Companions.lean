import MarkupValues.Proofs.Registry.Auxiliary
import MarkupValues.Session

/-!
# Companions of the core types

Auxiliary names replace the companions of an entry position by position, and so there is one at
every position where the entry has one (`Entry.companion?_target`). The grammars ask for companion 0
at most, and the core types whose grammar does have it. So no conversion to a core type fails for
want of a companion, whatever the auxiliary names (`Session.failures_have_companions`).
-/

namespace MarkupValues

open Reading (FailsWith)

/-- An entry of a core type has companion 0 for its grammar, whatever the auxiliary names: these
only take its place. -/
theorem CoreType.companion?_ne_none {type : CoreType} (htype : type ∈ catalog)
    (hmentions : type.grammar.mentionsCompanion = true) (aux : List TypeName) :
    (type.entry.target aux).companion? 0 ≠ none := by
  intro hnone
  rw [Entry.companion?_target, Option.or_eq_none_iff] at hnone
  have hlength : type.companions.length ≤ 0 := List.getElem?_eq_none_iff.1 hnone.2
  have hnil := List.eq_nil_of_length_eq_zero (Nat.le_zero.1 hlength)
  exact companions_ne_nil_of_mem_catalog type htype hmentions hnil

/-- A failure that is not for want of a companion, at any position. -/
def Failure.HasCompanions (failure : Failure) : Prop :=
  ∀ index, failure.cause ≠ some (.missingCompanion index)

/-- The entry of a core type does not fail for want of a companion, as it has the one that its
grammar may ask for. -/
theorem CoreType.failsWith_companions {type : CoreType} (htype : type ∈ catalog) (raw : String)
    (aux : List TypeName) : FailsWith Failure.HasCompanions (type.entry.convert raw aux) := by
  intro failure hfailure index hcause
  rw [type.convert_entry] at hfailure
  obtain ⟨hmentions, -, hnone⟩ := Grammar.mayName_of_convert hfailure hcause
  exact type.companion?_ne_none htype hmentions aux hnone

/-- No name fails for want of a companion in the default registry: a core type has the companions
it asks for, and any other name is not supported. -/
theorem Registry.failsWith_companions (typeName raw : String) (aux : List TypeName) :
    FailsWith Failure.HasCompanions (defaults.convertExpr typeName raw aux) := by
  cases hlookup : defaults.lookup? typeName with
  | some entry =>
    obtain ⟨type, htype, -, rfl⟩ := exists_of_lookup?_defaults hlookup
    rw [convertExpr_of_lookup? hlookup]
    exact type.failsWith_companions htype raw aux
  | none =>
    rw [convertExpr_of_lookup?_eq_none hlookup]
    exact Reading.failsWith_error fun index hcause => nomatch hcause

/-- Whatever is asked of the default registry, for whatever text and auxiliary names, and by
whichever way of a session, does not fail for want of a companion at any position. -/
theorem Session.failures_have_companions (options : Options) (typeName raw : String)
    (aux : List TypeName) (line column : Nat) :
    FailsWith Failure.HasCompanions (Registry.defaults.convertExpr typeName raw aux) ∧
    FailsWith Failure.HasCompanions (convert ⟨options, .defaults⟩ typeName raw aux) ∧
    FailsWith Failure.HasCompanions (convertOrFallback ⟨options, .defaults⟩ typeName raw aux) ∧
    FailsWith (fun located : LocatedFailure => located.failure.HasCompanions)
      (convertAt ⟨options, .defaults⟩ typeName raw aux line column) := by
  have hexpr := Registry.failsWith_companions typeName raw aux
  have hconvert : FailsWith Failure.HasCompanions
      (convert ⟨options, .defaults⟩ typeName raw aux) := by
    rw [convert_eq_map]
    exact hexpr.map options.render
  refine ⟨hexpr, hconvert, ?_, ?_⟩
  · cases hsupported : isSupported ⟨options, .defaults⟩ typeName with
    | true =>
      rw [convertOrFallback_of_supported hsupported]
      exact hconvert
    | false =>
      rw [convertOrFallback_of_unsupported hsupported]
      exact Reading.failsWith_ok _
  · intro located hlocated
    rw [convertAt_eq_mapError] at hlocated
    obtain ⟨failure, hfailure, rfl⟩ := Reading.mapError_eq_error.1 hlocated
    exact hconvert failure hfailure

end MarkupValues
