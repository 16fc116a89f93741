import MarkupValues.Proofs.Reading.Failures
import MarkupValues.Proofs.Registry.Runs

/-!
# How a registry reports failures

Whatever type a text is to be converted to, a failure is one of the text as it is. It is reported
for the type that the entry builds, with whatever auxiliary names, and for the name of the type when
there is no entry (`Registry.failures_attributed`).
-/

namespace MarkupValues.Registry

/-- Whether all converters of a registry are those of grammars. A converter of the caller's own may
report whatever it likes. -/
def IsLibrary (registry : Registry) : Prop :=
  ∀ item ∈ registry.entries.items, ∃ grammar : Grammar, item.2.converter = grammar.converter

/-- The converters of the core types are those of grammars. -/
theorem isLibrary_defaults : defaults.IsLibrary := by
  intro item hitem
  obtain ⟨-, r, hr, -, hentry⟩ := keepsFirst_defaults.stored item hitem
  obtain ⟨type, -, rfl⟩ := List.mem_map.1 hr
  exact ⟨type.grammar, by rw [hentry]; rfl⟩

/-- An entry with the converter of a grammar converts as the grammar does for the entry's target. -/
theorem convert_of_converter {entry : Entry} {grammar : Grammar}
    (h : entry.converter = grammar.converter) (raw : String) (aux : List TypeName) :
    entry.convert raw aux = grammar.convert raw (entry.target aux) := by
  rw [Entry.convert, Entry.conversion, h]
  exact grammar.convert_converter raw _

section
variable {registry : Registry} {typeName raw : String} {aux : List TypeName} {entry : Entry}
  {failure : Failure}

/-- An entry that is found in a registry of grammars has the converter of a grammar. -/
theorem IsLibrary.exists_grammar (hlibrary : registry.IsLibrary)
    (hlookup : registry.lookup? typeName = some entry) :
    ∃ grammar : Grammar, entry.converter = grammar.converter :=
  hlibrary _ (KeyedList.mem_items_of_find? hlookup)

/-- A failure of an entry of a grammar is one of the text as it is given and of the type that the
entry builds. -/
theorem IsLibrary.of_convertExpr (hlibrary : registry.IsLibrary)
    (hlookup : registry.lookup? typeName = some entry)
    (h : registry.convertExpr typeName raw aux = .error failure) :
    failure.value = raw ∧ failure.typeName = entry.destination := by
  obtain ⟨grammar, hgrammar⟩ := hlibrary.exists_grammar hlookup
  rw [convertExpr_of_lookup? hlookup, convert_of_converter hgrammar] at h
  obtain ⟨cause, rfl, -⟩ := Grammar.convert_eq_error h
  exact ⟨rfl, rfl⟩

end

/-- A failure of a grammar is one of the text as it is and of the type to build; it names a cause,
unless a text is refused that is no cache mode. So is a failure of a registry of grammars, where the
type to build is that of the entry, whatever auxiliary names there are; without an entry, the name
of the type is reported as one that is not supported. -/
theorem failures_attributed :
    (∀ (grammar : Grammar) (source : String) (target : Target) (failure : Failure),
      grammar.convert source target = .error failure →
        failure.value = source ∧ failure.typeName = target.destination ∧
        (failure.cause = none ↔ grammar = .cacheMode ∧
          Text.sameIgnoringCase (Text.trim source) "BitmapCache" = false)) ∧
    ∀ registry : Registry, registry.IsLibrary → ∀ (typeName raw : String) (aux : List TypeName),
      (∀ entry failure, registry.lookup? typeName = some entry →
        registry.convertExpr typeName raw aux = .error failure →
          failure.value = raw ∧ failure.typeName = entry.destination) ∧
      (registry.contains typeName = false → registry.convertExpr typeName raw aux =
        .error ⟨raw, ⟨typeName⟩, some .unsupportedType⟩) := by
  constructor
  · intro grammar source target failure h
    obtain ⟨cause, rfl, hcause⟩ := Grammar.convert_eq_error h
    exact ⟨rfl, rfl, hcause⟩
  · intro registry hlibrary typeName raw aux
    constructor
    · intro entry failure hlookup h
      exact hlibrary.of_convertExpr hlookup h
    · intro hcontains
      exact convertExpr_of_not_contains hcontains

/-- A text that is no matrix, for a transform whose matrix type is given by an auxiliary name, and a
type that is not known. -/
theorem failures_attributed_transform :
    (∃ entry failure, defaults.lookup? "Global.System.Windows.Media.Transform" = some entry ∧
      defaults.convertExpr "Global.System.Windows.Media.Transform" " 1 2 " [⟨"My.Matrix"⟩] =
        .error failure ∧
      failure.value = " 1 2 " ∧ failure.typeName = entry.destination) ∧
    defaults.contains "My.Brush" = false ∧
      defaults.convertExpr "My.Brush" "Red" [] =
        .error ⟨"Red", ⟨"My.Brush"⟩, some .unsupportedType⟩ := by
  have hcode : defaults.convert {} "Global.System.Windows.Media.Transform" " 1 2 "
      [⟨"My.Matrix"⟩] = .error ⟨" 1 2 ", ⟨"System.Windows.Media.MatrixTransform"⟩,
        some (.tokenCount (.exactly 6) 2)⟩ := by
    rw [convert, convertExpr, conversion, lookup?_defaults]
    decide +kernel
  have hfailure := Reading.map_eq_error.1 hcode
  have hcontains : defaults.contains "Global.System.Windows.Media.Transform" = true := by
    rw [contains, lookup?_defaults]
    decide +kernel
  obtain ⟨entry, hlookup⟩ := Option.isSome_iff_exists.1 hcontains
  have hmissing : defaults.contains "My.Brush" = false := by
    rw [contains, lookup?_defaults]
    decide +kernel
  obtain ⟨htransform, -⟩ := failures_attributed.2 defaults isLibrary_defaults
    "Global.System.Windows.Media.Transform" " 1 2 " [⟨"My.Matrix"⟩]
  obtain ⟨-, hbrush⟩ := failures_attributed.2 defaults isLibrary_defaults "My.Brush" "Red" []
  exact ⟨⟨entry, _, hlookup, hfailure, htransform entry _ hlookup hfailure⟩, hmissing,
    hbrush hmissing⟩

end MarkupValues.Registry
