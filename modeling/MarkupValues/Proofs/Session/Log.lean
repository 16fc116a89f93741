import MarkupValues.Proofs.Session.Dispatch

/-!
# What the log says of a conversion

`conversionLog` lists the lines that a log is to show for a conversion, by its outcome alone: that
it starts, a warning if a form is recognised and refused, and that it fails if it does. The events
of a session over the core types make this log (`Session.log_eq`), although the warning comes from a
converter and the other two from the session: a converter that warns of a text refuses it as a form
(`Grammar.events_cases`), and none refuses a form without a warning
(`Grammar.warnsOfForm_conversion`).
-/

namespace MarkupValues

/-! ## Lines -/

/-- An event as a log shows it: its level, its message and its fields with their values. -/
structure LogLine where
  level : Level
  message : String
  fields : List (String × String)
deriving DecidableEq

/-- The line that a log shows for an event, which is all that is told of it here. -/
def Event.line (event : Event) : LogLine :=
  ⟨event.level, event.message, event.fields⟩

/-- Whether a failure is the refusal of a form that is recognised and has no converter yet. -/
def Failure.refusesForm (failure : Failure) : Bool :=
  match failure.cause with
  | some (.unsupported _) => true
  | _ => false

/-- The warning that a log is to show for an outcome, with the text it is about, where the outcome
is the refusal of a form. There is none otherwise. -/
def warningLines {α : Type} (raw warning : String) : Except Failure α → List LogLine
  | .ok _ => []
  | .error failure =>
    if failure.refusesForm then [⟨.warn, warning, [("value", Text.trim raw)]⟩] else []

/-- The line about a failure that a log is to show for an outcome: the message of the failure, and
nothing for a success. -/
def failureLines {α : Type} : Except Failure α → List LogLine
  | .ok _ => []
  | .error failure => [⟨.debug, "core type conversion failed", [("failure", failure.message)]⟩]

/-- The log of a conversion with an outcome; `warning` is the message of the warning, where there is
one. This is the form that all logs are shown to have. -/
def conversionLog (typeName raw : String) (language : Language) (warning : String)
    (outcome : Except Failure String) : List LogLine :=
  [⟨.debug, "converting core type",
      [("type_name", typeName), ("language", language.displayName)]⟩] ++
    warningLines raw warning outcome ++ failureLines outcome

/-- The messages of warnings, one for each form that is recognised and refused. -/
def formWarnings : List String :=
  ["paced key times are not supported", "percentage key times are not supported"]

/-- A failure is such a refusal when its cause is that something is not supported. -/
theorem Failure.refusesForm_iff {failure : Failure} :
    failure.refusesForm = true ↔ ∃ text, failure.cause = some (.unsupported text) := by
  unfold refusesForm
  split
  · next text hcause => exact iff_of_true rfl ⟨text, hcause⟩
  · next hother => exact iff_of_false nofun fun ⟨text, hcause⟩ => hother text hcause

/-- The expression of a conversion does not matter for its warnings, and neither does the code made
of it. -/
theorem warningLines_map {α β : Type} (raw warning : String) (outcome : Except Failure α)
    (f : α → β) : warningLines raw warning (outcome.map f) = warningLines raw warning outcome := by
  cases outcome <;> rfl

/-! ## Converters -/

/-- Whether an outcome comes with a warning when it is the refusal of a form, and with nothing
otherwise. The outcome and what is reported along with it are one value, so this ties the two
together. -/
def Logged.WarnsOfForm {α : Type} (raw : String) (outcome : Logged (Except Failure α)) : Prop :=
  ∃ warning ∈ formWarnings,
    outcome.events.map Event.line = warningLines raw warning outcome.result

/-- A grammar reports nothing of a text, or one warning of it, and then it refuses its form. Only
key times have forms of this kind, paced ones and percentages. -/
theorem Grammar.events_cases (grammar : Grammar) (source : String) (target : Target) :
    grammar.events source target = [] ∨
      ∃ event, grammar.events source target = [event] ∧
        (∃ warning ∈ formWarnings, event.line = ⟨.warn, warning, [("value", Text.trim source)]⟩) ∧
        ∃ failure, grammar.convert source target = .error failure ∧
          failure.refusesForm = true := by
  rw [← grammar.result_conversion]
  unfold events
  cases grammar with
  | keyTime =>
    unfold conversion Reading.loggedKeyTime
    cases Reading.KeyTimeForm.of (Text.trim source) with
    | paced => exact .inr ⟨_, rfl, ⟨_, .head _, rfl⟩, _, rfl, rfl⟩
    | percentage => exact .inr ⟨_, rfl, ⟨_, .tail _ (.head _), rfl⟩, _, rfl, rfl⟩
    | uniform => exact .inl rfl
    | span => exact .inl rfl
  | _ => exact .inl rfl

/-- A grammar warns of a text exactly when it refuses its form, and what it warns of is the text
without the white space around it. -/
theorem Grammar.warnsOfForm_conversion (grammar : Grammar) (source : String) (target : Target) :
    (grammar.conversion source target).WarnsOfForm source := by
  unfold Logged.WarnsOfForm
  rw [result_conversion]
  rcases grammar.events_cases source target with
    hnone | ⟨event, hevent, ⟨warning, hwarning, hline⟩, failure, hfailure, hforms⟩
  · refine ⟨_, .head _, ?_⟩
    rw [← events, hnone]
    cases hconvert : grammar.convert source target with
    | ok => rfl
    | error failure =>
      have hforms : failure.refusesForm = false := by
        refine Bool.eq_false_iff.2 fun hrefuses => ?_
        obtain ⟨text, hcause⟩ := Failure.refusesForm_iff.1 hrefuses
        have hwarns : grammar.events source target ≠ [] := mayName_of_convert hconvert hcause
        exact hwarns hnone
      rw [warningLines, hforms]
      rfl
  · refine ⟨warning, hwarning, ?_⟩
    rw [← events, hevent, hfailure, warningLines, if_pos hforms, List.map_singleton, hline]

/-- So does the converter of a type in a registry of grammars; a type without a converter is not
warned of. -/
theorem Registry.IsLibrary.warnsOfForm_conversion {registry : Registry}
    (hlibrary : registry.IsLibrary) (typeName raw : String) (aux : List TypeName) :
    (registry.conversion typeName raw aux).WarnsOfForm raw := by
  cases hlookup : registry.lookup? typeName with
  | none =>
    rw [conversion_of_lookup?_eq_none hlookup]
    exact ⟨_, .head _, rfl⟩
  | some entry =>
    obtain ⟨grammar, hgrammar⟩ := hlibrary.exists_grammar hlookup
    rw [conversion_of_lookup? hlookup, Entry.conversion, hgrammar]
    exact grammar.warnsOfForm_conversion raw (entry.target aux)

/-! ## Sessions -/

namespace Session

/-- The events of a conversion make the log of its outcome: the start, the warnings of the
converter, and the failure if there is one. -/
theorem map_line_convertEvents {session : Session} (hlibrary : session.registry.IsLibrary)
    (typeName raw : String) (aux : List TypeName) :
    ∃ warning ∈ formWarnings, (session.convertEvents typeName raw aux).map Event.line =
      conversionLog typeName raw session.options.language warning
        (session.convert typeName raw aux) := by
  obtain ⟨warning, hwarning, hevents⟩ := hlibrary.warnsOfForm_conversion typeName raw aux
  refine ⟨warning, hwarning, ?_⟩
  have hwarns : (session.registry.events typeName raw aux).map Event.line =
      warningLines raw warning (session.convert typeName raw aux) := by
    rw [convert_eq_map, warningLines_map]
    exact hevents
  rw [convertEvents_eq, List.map_cons, List.map_append, hwarns, conversionLog]
  cases session.convert typeName raw aux <;> rfl

/-- In a session over the core types the log of a conversion tells its outcome: it shows the name of
the type as it is given, and the language; then a warning with the text, without white space around
it, exactly when the form of the text is recognised and refused; then the failure, exactly when
there is one. Where the text may be left to the run-time converter the log is the same for a type
that is supported, and one line for any other. -/
theorem log_eq (options : Options) (typeName raw : String) (aux : List TypeName) :
    (∃ warning ∈ formWarnings,
      (convertEvents ⟨options, .defaults⟩ typeName raw aux).map Event.line =
        conversionLog typeName raw options.language warning
          (convert ⟨options, .defaults⟩ typeName raw aux)) ∧
    (isSupported ⟨options, .defaults⟩ typeName = true →
      convertOrFallbackEvents ⟨options, .defaults⟩ typeName raw aux =
        convertEvents ⟨options, .defaults⟩ typeName raw aux) ∧
    (isSupported ⟨options, .defaults⟩ typeName = false →
      (convertOrFallbackEvents ⟨options, .defaults⟩ typeName raw aux).map Event.line =
        [⟨.trace, "using invariant-string fallback", [("type_name", typeName)]⟩]) := by
  refine ⟨map_line_convertEvents Registry.isLibrary_defaults typeName raw aux, ?_, ?_⟩
  · intro hsupported
    exact congrArg Logged.events (conversionOrFallback_of_supported hsupported)
  · intro hunsupported
    rw [convertOrFallbackEvents, conversionOrFallback_of_unsupported hunsupported]
    rfl

/-- A key time in percent, and a type without a converter. -/
theorem log_eq_percentage :
    isSupported {} "system.windows.media.animation.keytime" = true ∧
    (∃ warning, (convertOrFallbackEvents {} "system.windows.media.animation.keytime" " 50% " []).map
        Event.line =
      [⟨.debug, "converting core type",
          [("type_name", "system.windows.media.animation.keytime"), ("language", "C#")]⟩,
        ⟨.warn, warning, [("value", "50%")]⟩,
        ⟨.debug, "core type conversion failed",
          [("failure", "Cannot convert ' 50% ' to 'System.Windows.Media.Animation.KeyTime'.")]⟩]) ∧
    isSupported {} "My.Widget" = false ∧
    (convertOrFallbackEvents {} "My.Widget" "x" []).map Event.line =
      [⟨.trace, "using invariant-string fallback", [("type_name", "My.Widget")]⟩] := by
  have hkeyTime : isSupported {} "system.windows.media.animation.keytime" = true :=
    (Registry.contains_defaults _).trans (by decide +kernel)
  have hwidget : isSupported {} "My.Widget" = false :=
    (Registry.contains_defaults _).trans (by decide +kernel)
  have hconvert : convert {} "system.windows.media.animation.keytime" " 50% " [] =
      .error ⟨" 50% ", ⟨"System.Windows.Media.Animation.KeyTime"⟩, some (.unsupported
        "Percentage values for 'System.Windows.Media.Animation.KeyTime' are not supported yet.")⟩ := by
    rw [convert_eq_map, Registry.convertExpr, Registry.conversion, Registry.lookup?_defaults]
    decide +kernel
  obtain ⟨⟨warning, -, hlog⟩, hsame, -⟩ :=
    log_eq {} "system.windows.media.animation.keytime" " 50% " []
  obtain ⟨-, -, hfallback⟩ := log_eq {} "My.Widget" "x" []
  have htext : Text.trim " 50% " = "50%" := by decide +kernel
  refine ⟨hkeyTime, ⟨warning, ?_⟩, hwidget, hfallback hwidget⟩
  rw [hsame hkeyTime, hlog, hconvert, ← htext]
  rfl

end Session

end MarkupValues
