import MarkupValues.Converter
import MarkupValues.Proofs.Reading.Results

/-!
# How failures are reported

Each reading that fails names a cause and reports it for the whole text and the type to build
(`Explained`), also when a part of it has been read as another text or for another type: the
failure of the part is reported again. One lemma for each grammar says so, and of what kind the
cause is (`ExplainedBy`): it says what is wrong with the text, or that the companion is missing, or
that a key time is in a form that is not supported. The one exception is a text that is no cache
mode, which is refused without a cause (`Grammar.convert_eq_error`). `Grammar.mayName_of_convert`
says of all grammars which causes they name.
-/

namespace MarkupValues

/-! ## Kinds of causes -/

/-- Whether a cause says what is wrong with a text: that it is in none of the forms of its type. The
other causes are what the converter lacks, or what the caller has not given. -/
def Cause.IsOfText : Cause → Prop
  | invalidToken _ | unknownName .. | tokenCount .. | invalidNumber _ | invalidTimeSpan _ => True
  | unsupported _ | missingCompanion _ | unsupportedType => False

/-- The causes that a text with the prefix of linear colours may have: a token that is no channel,
or the number of channels. -/
def ScRgb.MayName : Cause → Prop
  | .invalidNumber _ => True
  | .tokenCount expected _ => expected = .oneOf [3, 4]
  | _ => False

/-- What the channels of a linear colour have wrong is wrong with the text. -/
theorem ScRgb.isOfText_of_mayName {cause : Cause} (h : ScRgb.MayName cause) : cause.IsOfText := by
  cases cause <;> first | exact trivial | exact h.elim

/-- Whether a cause says what is wrong with a text, or that companion 0 is missing and it is. -/
def Target.MayName (target : Target) (cause : Cause) : Prop :=
  cause.IsOfText ∨ cause = .missingCompanion 0 ∧ target.companion? 0 = none

/-- Whether the results of a grammar may mention companion 0, which is then asked for and may be
missing. -/
def Grammar.mentionsCompanion : Grammar → Bool
  | brush | transform | pointCollection | keySpline | gridLength | fontWeight | fontStyle
  | textDecorations | imageSource | cursor | cacheMode => true
  | color | point | size | rect | matrix | doubleCollection | thickness | cornerRadius | timeSpan
  | duration | keyTime | repeatBehavior | fontStretch | fontFamily | geometry
  | propertyPath => false

/-- The causes that a grammar may name for a text: what is wrong with the text, a companion that the
result would mention and that is missing, or a form that it warns of. -/
def Grammar.MayName (grammar : Grammar) (source : String) (target : Target) : Cause → Prop
  | .missingCompanion index =>
    grammar.mentionsCompanion = true ∧ index = 0 ∧ target.companion? 0 = none
  | .unsupported _ => grammar.events source target ≠ []
  | .unsupportedType => False
  | .invalidToken _ | .unknownName .. | .tokenCount .. | .invalidNumber _
  | .invalidTimeSpan _ => True

namespace Grammar

variable {grammar : Grammar} {source : String} {target : Target} {cause : Cause}

/-- What is wrong with the text may be the cause in every grammar. -/
theorem mayName_of_isOfText (h : cause.IsOfText) : grammar.MayName source target cause := by
  cases cause <;> first | exact trivial | exact h.elim

/-- A grammar that mentions a companion may name whatever is wrong with the text or with companion
0. -/
theorem mayName_of_target (hmentions : grammar.mentionsCompanion = true)
    (h : target.MayName cause) : grammar.MayName source target cause := by
  rcases h with h | ⟨rfl, hnone⟩
  · exact mayName_of_isOfText h
  · exact ⟨hmentions, rfl, hnone⟩

end Grammar

namespace Reading

/-! ## Outcomes -/

/-- An outcome that is no error, or else an error with a property. It goes through sequences of
steps and through lists that are read item by item. -/
def FailsWith {ε α : Type} (p : ε → Prop) (outcome : Except ε α) : Prop :=
  ∀ e, outcome = .error e → p e

/-- An outcome that is no failure, or else the failure of a text for the type to build with a cause.
This is what most readers are shown to be. -/
def Explained {α : Type} (source : String) (target : Target) (outcome : Except Failure α) : Prop :=
  ∀ failure, outcome = .error failure → ∃ cause, failure = target.fail source (some cause)

/-- An outcome that is explained, with a cause of some kind. The kind is carried along so that each
reader says which causes it may name. -/
def ExplainedBy {α : Type} (kind : Cause → Prop) (source : String) (target : Target)
    (outcome : Except Failure α) : Prop :=
  FailsWith (fun failure => ∃ cause, kind cause ∧ failure = target.fail source (some cause)) outcome

section
variable {ε ε' α β : Type} {p q : ε → Prop} {kind kind' : Cause → Prop} {source : String}
  {target : Target} {outcome : Except Failure α}

/-- An outcome with its error changed is an error when the outcome is. -/
theorem mapError_eq_error {x : Except ε α} {f : ε → ε'} {e' : ε'} :
    x.mapError f = .error e' ↔ ∃ e, x = .error e ∧ f e = e' := by
  cases x with
  | error e =>
    exact ⟨fun h => ⟨e, rfl, Except.error.inj h⟩, fun ⟨_, he, h⟩ => by cases he; rw [← h]; rfl⟩
  | ok => exact ⟨nofun, fun ⟨_, h, _⟩ => nomatch h⟩

/-- An outcome with its value changed is an error when the outcome is. -/
theorem map_eq_error {x : Except ε α} {f : α → β} {e : ε} : x.map f = .error e ↔ x = .error e := by
  cases x with
  | error =>
    exact ⟨fun h => congrArg _ (Except.error.inj h), fun h => congrArg _ (Except.error.inj h)⟩
  | ok => exact ⟨nofun, nofun⟩

/-- What follows a success goes on with its value. -/
theorem bind_of_ok {x : Except ε α} {a : α} (h : x = .ok a) (f : α → Except ε β) :
    x >>= f = f a := by
  rw [h]
  rfl

/-- What follows an error is not reached. -/
theorem bind_of_error {x : Except ε α} {e : ε} (h : x = .error e) (f : α → Except ε β) :
    x >>= f = .error e := by
  rw [h]
  rfl

/-- A success has no error to speak of. -/
theorem failsWith_ok (a : α) : FailsWith p (.ok a) := nofun

/-- An error with the property is one that has it. -/
theorem failsWith_error {e : ε} (h : p e) : FailsWith p (.error e : Except ε α) := by
  intro e' he'
  cases he'
  exact h

/-- An error with a property has any weaker one. -/
theorem FailsWith.mono {x : Except ε α} (h : FailsWith p x) (hpq : ∀ e, p e → q e) :
    FailsWith q x :=
  fun e he => hpq e (h e he)

/-- A sequence fails as its steps do, whichever of them fails. -/
theorem FailsWith.bind {x : Except ε α} {f : α → Except ε β} (h : FailsWith p x)
    (hf : ∀ a, FailsWith p (f a)) : FailsWith p (x >>= f) := by
  intro e he
  cases x with
  | error =>
    cases he
    exact h _ rfl
  | ok a => exact hf a e he

/-- What is done with a value does not change the error. -/
theorem FailsWith.map {x : Except ε α} (h : FailsWith p x) (f : α → β) :
    FailsWith p (x.map f) := by
  intro e he
  exact h e (map_eq_error.1 he)

/-- A list that is read item by item fails as an item does, by induction on the list. -/
theorem failsWith_mapM {f : α → Except ε β} {xs : List α} (h : ∀ x ∈ xs, FailsWith p (f x)) :
    FailsWith p (xs.mapM f) := by
  induction xs with
  | nil => exact failsWith_ok _
  | cons x xs ih =>
    obtain ⟨hx, hxs⟩ := List.forall_mem_cons.1 h
    rw [List.mapM_cons]
    exact hx.bind fun _ => (ih hxs).bind fun _ => failsWith_ok _

/-- An outcome that is explained by a cause of some kind is explained. -/
theorem ExplainedBy.explained (h : ExplainedBy kind source target outcome) :
    Explained source target outcome := by
  intro failure hfailure
  obtain ⟨cause, -, hcause⟩ := h failure hfailure
  exact ⟨cause, hcause⟩

/-- A cause of some kind is one of any wider kind. -/
theorem ExplainedBy.mono (h : ExplainedBy kind source target outcome)
    (hkind : ∀ cause, kind cause → kind' cause) : ExplainedBy kind' source target outcome :=
  FailsWith.mono h fun _ ⟨cause, hcause, hfailure⟩ => ⟨cause, hkind cause hcause, hfailure⟩

/-- A success needs no explanation. -/
theorem explained_ok (a : α) : ExplainedBy kind source target (.ok a) :=
  failsWith_ok a

/-- A refusal names its cause, the whole text and the type to build. -/
theorem explained_refuse {cause : Cause} (h : kind cause) :
    ExplainedBy kind source target (target.refuse source cause) :=
  failsWith_error ⟨cause, h, rfl⟩

/-- A reader that knows neither the text nor the type has both added to what it fails with. -/
theorem explained_report {outcome : Except Cause α} (h : FailsWith kind outcome) :
    ExplainedBy kind source target (target.report source outcome) := by
  intro failure hfailure
  obtain ⟨cause, hcause, rfl⟩ := mapError_eq_error.1 hfailure
  exact ⟨cause, h cause hcause, rfl⟩

/-- What failed for another type is reported again for the type to build. -/
theorem ExplainedBy.retarget {inner : Target} (h : ExplainedBy kind source inner outcome) :
    ExplainedBy kind source target (outcome.mapError (·.retarget target.destination)) := by
  intro failure hfailure
  obtain ⟨failure, herror, rfl⟩ := mapError_eq_error.1 hfailure
  obtain ⟨cause, hcause, rfl⟩ := h failure herror
  exact ⟨cause, hcause, rfl⟩

/-- What failed as another text is reported again for the whole text. -/
theorem ExplainedBy.restate {value : String} (h : ExplainedBy kind value target outcome) :
    ExplainedBy kind source target (outcome.mapError (·.restate source)) := by
  intro failure hfailure
  obtain ⟨failure, herror, rfl⟩ := mapError_eq_error.1 hfailure
  obtain ⟨cause, hcause, rfl⟩ := h failure herror
  exact ⟨cause, hcause, rfl⟩

end

variable (source : String) (target : Target)

/-- A companion that is missing is the cause, whatever other causes there may be. -/
theorem requireCompanion_explainedBy {kind : Cause → Prop}
    (h : target.companion? 0 = none → kind (.missingCompanion 0)) :
    ExplainedBy kind source target (target.requireCompanion source 0) := by
  refine explained_report fun cause hcause => ?_
  unfold Target.companion at hcause
  split at hcause
  · cases hcause
  · next hnone =>
    cases hcause
    exact h hnone

/-- A companion that is missing is one of the causes that a target may have. -/
theorem requireCompanion_explained :
    ExplainedBy target.MayName source target (target.requireCompanion source 0) :=
  requireCompanion_explainedBy source target fun hnone => .inr ⟨rfl, hnone⟩

/-- A value with another one inside is explained as that one, or by the companion. -/
theorem wrapped_explainedBy {kind : Cause → Prop} {read : String → Target → Reading}
    (hkind : target.companion? 0 = none → kind (.missingCompanion 0))
    (h : ∀ type, ExplainedBy kind source ⟨type, []⟩ (read source ⟨type, []⟩)) :
    ExplainedBy kind source target (wrapped read source target) :=
  (requireCompanion_explainedBy source target hkind).bind fun type =>
    (h type).retarget.bind fun _ => explained_ok _

/-- A value with another one inside is explained when that one is, by what is wrong with the text or
with companion 0. -/
theorem wrapped_explained {read : String → Target → Reading}
    (h : ∀ type, ExplainedBy Cause.IsOfText source ⟨type, []⟩ (read source ⟨type, []⟩)) :
    ExplainedBy target.MayName source target (wrapped read source target) :=
  wrapped_explainedBy source target (fun hnone => .inr ⟨rfl, hnone⟩) fun type =>
    (h type).mono fun _ => .inl

/-! ## Colours -/

/-- A character that is no digit is wrong in the text. -/
theorem hexDigit_failsWith (c : Char) : FailsWith Cause.IsOfText (Argb.hexDigit c) := by
  unfold Argb.hexDigit
  split
  · exact failsWith_ok _
  · exact failsWith_error trivial

/-- Two digits fail as one of them does. -/
theorem byte_failsWith (high low : Char) : FailsWith Cause.IsOfText (Argb.byte high low) :=
  (hexDigit_failsWith high).bind fun _ => (hexDigit_failsWith low).bind fun _ => failsWith_ok _

/-- Digits fail for their number or for a character. Both say what is wrong with the text. -/
theorem ofHexDigits_failsWith (digits : List Char) :
    FailsWith Cause.IsOfText (Argb.ofHexDigits digits) := by
  unfold Argb.ofHexDigits
  split
  · exact (byte_failsWith _ _).bind fun _ => (byte_failsWith _ _).bind fun _ =>
      (byte_failsWith _ _).bind fun _ => failsWith_ok _
  · exact (byte_failsWith _ _).bind fun _ => (byte_failsWith _ _).bind fun _ =>
      (byte_failsWith _ _).bind fun _ => (byte_failsWith _ _).bind fun _ => failsWith_ok _
  · exact (byte_failsWith _ _).bind fun _ => (byte_failsWith _ _).bind fun _ =>
      (byte_failsWith _ _).bind fun _ => failsWith_ok _
  · exact (byte_failsWith _ _).bind fun _ => (byte_failsWith _ _).bind fun _ =>
      (byte_failsWith _ _).bind fun _ => (byte_failsWith _ _).bind fun _ => failsWith_ok _
  · exact failsWith_error trivial

/-- A colour in hexadecimal form fails for what is wrong with its text. -/
theorem ofHex_failsWith (s : String) : FailsWith Cause.IsOfText (Argb.ofHex s) := by
  unfold Argb.ofHex
  split
  · exact failsWith_error trivial
  · exact ofHexDigits_failsWith _
  · exact failsWith_error trivial

/-- A token that is no channel is refused as a number. -/
theorem channel_failsWith (token : String) : FailsWith ScRgb.MayName (ScRgb.channel token) := by
  unfold ScRgb.channel
  split
  · split
    · exact failsWith_ok _
    · exact failsWith_error trivial
  · exact failsWith_error trivial

/-- Channels are refused for their number alone. -/
theorem ofChannels_failsWith (channels : List Binary32) :
    FailsWith ScRgb.MayName (ScRgb.ofChannels channels) := by
  unfold ScRgb.ofChannels
  split
  · exact failsWith_ok _
  · exact failsWith_ok _
  · exact failsWith_error rfl

/-- A linear colour is refused as unsupported only where it does not start with its prefix; after
the prefix it fails for a token or for the number of channels. -/
theorem ofText_failsWith {s : String} (h : "sc#".toList.isPrefixOf s.toList = true) :
    FailsWith ScRgb.MayName (ScRgb.ofText s) := by
  unfold ScRgb.ofText
  split
  · exact (failsWith_mapM fun token _ => channel_failsWith token).bind fun _ =>
      ofChannels_failsWith _
  · next hother =>
    obtain ⟨rest, hrest⟩ := List.isPrefixOf_iff_prefix.1 h
    exact absurd hrest.symm (hother rest)

/-- A colour is refused for what is wrong with its text. The reader of linear colours is asked only
for a text with its prefix, so that it does not refuse the text as unsupported. -/
theorem color_explained : ExplainedBy Cause.IsOfText source target (color source target) := by
  unfold color
  dsimp only
  split
  · exact (explained_report (ofHex_failsWith _)).map _
  · split
    · next hprefix =>
      have hfails := (ofText_failsWith hprefix).mono fun _ => ScRgb.isOfText_of_mayName
      exact (explained_report hfails).map _
    · split
      · exact explained_ok _
      · exact explained_refuse trivial

/-! ## Lists of numbers -/

/-- Tokens are refused for their number. -/
theorem numbers_explained (arity : Arity) :
    ExplainedBy Cause.IsOfText source target (numbers arity source target) := by
  refine explained_report ?_
  unfold Numeric.tokensOf
  split
  · exact failsWith_ok _
  · exact failsWith_error trivial

/-- Coordinates are refused for the number of tokens. -/
theorem coordinates_explained (arity : Arity) :
    ExplainedBy Cause.IsOfText source target (coordinates arity source target) :=
  (numbers_explained source target arity).bind fun _ => explained_ok _

/-- A thickness is refused for the number of tokens. -/
theorem thickness_explained :
    ExplainedBy Cause.IsOfText source target (thickness source target) :=
  (numbers_explained source target _).bind fun _ => explained_ok _

/-- A matrix is refused for the number of tokens. -/
theorem matrix_explained : ExplainedBy Cause.IsOfText source target (matrix source target) := by
  unfold matrix
  split
  · exact explained_ok _
  · exact coordinates_explained source target _

/-- Points are refused for an odd number of tokens, or for the type of points that is missing. -/
theorem pointCollection_explained :
    ExplainedBy target.MayName source target (pointCollection source target) := by
  refine ((numbers_explained source target .even).mono fun _ => .inl).bind fun tokens => ?_
  split
  · exact explained_ok _
  · exact (requireCompanion_explained source target).bind fun _ => explained_ok _

/-- A key spline is refused for the number of tokens, or for the type of points that is missing. -/
theorem keySpline_explained :
    ExplainedBy target.MayName source target (keySpline source target) := by
  unfold keySpline
  split
  · exact explained_ok _
  · refine ((numbers_explained source target _).mono fun _ => .inl).bind fun tokens => ?_
    split
    · exact (requireCompanion_explained source target).bind fun _ => explained_ok _
    · exact explained_refuse (.inl trivial)

/-- A grid length is never refused for its text, but it needs the type that holds its units. -/
theorem gridLength_explained :
    ExplainedBy target.MayName source target (gridLength source target) :=
  (requireCompanion_explained source target).bind fun _ => explained_ok _

/-! ## Times -/

/-- What is no span of time is at fault as a text, which the cause holds. -/
theorem timeSpan_explained : ExplainedBy Cause.IsOfText source target (timeSpan source target) := by
  have hfails : FailsWith Cause.IsOfText (TimeSpan.ofText source) := by
    intro cause hcause
    obtain ⟨rfl, -⟩ := TimeSpan.ofText_eq_error_iff.1 hcause
    exact trivial
  exact (explained_report hfails).map _

/-- A duration is refused as the span of time that it is not. -/
theorem duration_explained : ExplainedBy Cause.IsOfText source target (duration source target) := by
  unfold duration
  split
  · exact explained_ok _
  · exact timeSpan_explained source target

/-- A key time is refused as unsupported where it is warned of. -/
theorem keyTime_explained :
    ExplainedBy (Grammar.keyTime.MayName source target) source target (keyTime source target) := by
  have hwarns {value : String} (h : (loggedKeyTime source target).events ≠ []) :
      Grammar.keyTime.MayName source target (.unsupported value) := h
  unfold keyTime
  unfold loggedKeyTime at hwarns ⊢
  split
  · next hform => exact explained_refuse (hwarns (by simp [hform]))
  · next hform => exact explained_refuse (hwarns (by simp [hform]))
  · exact explained_ok _
  · exact ((timeSpan_explained source target).mono fun _ => Grammar.mayName_of_isOfText).map _

/-- A repeat behaviour is refused as the count that it is not when it ends with an x, and otherwise
as the span of time that it is not. -/
theorem repeatBehavior_explained :
    ExplainedBy Cause.IsOfText source target (repeatBehavior source target) := by
  unfold repeatBehavior
  dsimp only
  split
  · exact explained_ok _
  · split
    · split
      · exact explained_ok _
      · exact explained_refuse trivial
    · exact (timeSpan_explained _ target).restate

/-! ## Names and texts -/

/-- A name that is not found is refused as it is written, without the white space around it. -/
theorem memberNamed_explained (kind : NameKind) (find? : String → Option String) :
    ExplainedBy target.MayName source target (memberNamed kind find? source target) := by
  refine (requireCompanion_explained source target).bind fun owner => ?_
  dsimp only
  split
  · exact explained_ok _
  · exact explained_refuse (.inl trivial)

/-- A text decoration that is not found is refused as it is written. -/
theorem textDecorations_explained :
    ExplainedBy target.MayName source target (textDecorations source target) := by
  refine (requireCompanion_explained source target).bind fun owner => ?_
  split
  · exact explained_ok _
  · exact explained_ok _
  · exact explained_refuse (.inl trivial)

/-- A cursor is refused only for the type that holds the cursors. -/
theorem cursor_explained : ExplainedBy target.MayName source target (cursor source target) :=
  (requireCompanion_explained source target).bind fun _ => explained_ok _

/-- An image is refused only for its type. -/
theorem imageSource_explained :
    ExplainedBy target.MayName source target (imageSource source target) :=
  (requireCompanion_explained source target).bind fun _ => explained_ok _

variable {source target}

/-- A value with another one inside is that one in a call. -/
theorem wrapped_of_ok {read : String → Target → Reading} {type : TypeName} {e : Expr}
    (htype : target.companion? 0 = some type) (h : read source ⟨type, []⟩ = .ok e) :
    wrapped read source target = .ok (.call target.destination [e]) := by
  have hcompanion : target.requireCompanion source 0 = .ok type :=
    requireCompanion_eq_ok.2 htype
  exact (bind_of_ok hcompanion _).trans (bind_of_ok (mapError_eq_ok.2 h) _)

/-- A value with another one inside needs the type of that one, and the text is not looked at
without it. -/
theorem wrapped_of_none {read : String → Target → Reading} (hnone : target.companion? 0 = none) :
    wrapped read source target = target.refuse source (.missingCompanion 0) := by
  have hcompanion : target.requireCompanion source 0 =
      .error (target.fail source (some (.missingCompanion 0))) := by
    rw [Target.requireCompanion, Target.companion, hnone]
    rfl
  exact bind_of_error hcompanion _

/-- A text that is no value of the type inside fails for the same cause for the type to build. -/
theorem wrapped_of_error {read : String → Target → Reading} {type : TypeName} {cause : Option Cause}
    (htype : target.companion? 0 = some type)
    (h : read source ⟨type, []⟩ = .error (Target.fail ⟨type, []⟩ source cause)) :
    wrapped read source target = .error (target.fail source cause) := by
  have hcompanion : target.requireCompanion source 0 = .ok type :=
    requireCompanion_eq_ok.2 htype
  have hinner : (read source ⟨type, []⟩).mapError (·.retarget target.destination) =
      .error (target.fail source cause) :=
    mapError_eq_error.2 ⟨_, h, rfl⟩
  exact (bind_of_ok hcompanion _).trans (bind_of_error hinner _)

/-- A text that is a cache mode fails for the companion that is missing, and any other text without
a cause. -/
theorem cacheMode_eq_error {failure : Failure} (h : cacheMode source target = .error failure) :
    (Text.sameIgnoringCase (Text.trim source) "BitmapCache" = true ∧
      ∃ cause, target.MayName cause ∧ failure = target.fail source (some cause)) ∨
    (Text.sameIgnoringCase (Text.trim source) "BitmapCache" = false ∧
      failure = target.fail source none) := by
  unfold cacheMode at h
  split at h
  · next hsame =>
    have hexplained : ExplainedBy target.MayName source target
        (target.requireCompanion source 0 >>= fun cache => .ok (Expr.call cache [])) :=
      (requireCompanion_explained source target).bind fun _ => explained_ok _
    exact .inl ⟨hsame, hexplained failure h⟩
  · next hsame =>
    cases h
    exact .inr ⟨Bool.eq_false_iff.2 hsame, rfl⟩

end Reading

namespace Grammar

variable {grammar : Grammar} {source : String} {target : Target}

/-- Every grammar but that of cache modes names a cause for what it refuses, and it is one that the
grammar may name. There is one case for each grammar, from the lemmas above. -/
theorem convert_explained (h : grammar ≠ .cacheMode) :
    Reading.ExplainedBy (grammar.MayName source target) source target
      (grammar.convert source target) := by
  have htext {outcome : Reading}
      (h : Reading.ExplainedBy Cause.IsOfText source target outcome) :
      Reading.ExplainedBy (grammar.MayName source target) source target outcome :=
    h.mono fun _ => mayName_of_isOfText
  have hrequest {outcome : Reading} (hmentions : grammar.mentionsCompanion = true)
      (h : Reading.ExplainedBy target.MayName source target outcome) :
      Reading.ExplainedBy (grammar.MayName source target) source target outcome :=
    h.mono fun _ => mayName_of_target hmentions
  unfold convert
  cases grammar with
  | color => exact htext (Reading.color_explained source target)
  | brush =>
    refine hrequest rfl (Reading.wrapped_explained source target fun _ => ?_)
    exact Reading.color_explained source _
  | point | size | rect | cornerRadius =>
    exact htext (Reading.coordinates_explained source target _)
  | matrix => exact htext (Reading.matrix_explained source target)
  | transform =>
    refine hrequest rfl (Reading.wrapped_explained source target fun _ => ?_)
    exact Reading.matrix_explained source _
  | pointCollection => exact hrequest rfl (Reading.pointCollection_explained source target)
  | thickness => exact htext (Reading.thickness_explained source target)
  | gridLength => exact hrequest rfl (Reading.gridLength_explained source target)
  | timeSpan => exact htext (Reading.timeSpan_explained source target)
  | duration => exact htext (Reading.duration_explained source target)
  | keyTime => exact Reading.keyTime_explained source target
  | repeatBehavior => exact htext (Reading.repeatBehavior_explained source target)
  | keySpline => exact hrequest rfl (Reading.keySpline_explained source target)
  | fontWeight | fontStyle =>
    exact hrequest rfl (Reading.memberNamed_explained source target _ _)
  | textDecorations => exact hrequest rfl (Reading.textDecorations_explained source target)
  | imageSource => exact hrequest rfl (Reading.imageSource_explained source target)
  | cursor => exact hrequest rfl (Reading.cursor_explained source target)
  | cacheMode => exact absurd rfl h
  | doubleCollection | fontStretch | fontFamily | geometry | propertyPath =>
    exact Reading.explained_ok _

/-- A failure is one of the text as it is and of the type to build. It names a cause, unless a text
is refused that is no cache mode. -/
theorem convert_eq_error {failure : Failure} (h : grammar.convert source target = .error failure) :
    ∃ cause, failure = target.fail source cause ∧
      (cause = none ↔ grammar = .cacheMode ∧
        Text.sameIgnoringCase (Text.trim source) "BitmapCache" = false) := by
  by_cases hcache : grammar = .cacheMode
  · subst hcache
    rcases Reading.cacheMode_eq_error h with ⟨hsame, cause, -, rfl⟩ | ⟨hsame, rfl⟩
    · exact ⟨some cause, rfl, iff_of_false nofun (by rw [hsame]; exact nofun)⟩
    · exact ⟨none, rfl, iff_of_true rfl ⟨rfl, hsame⟩⟩
  · obtain ⟨cause, hfailure⟩ := (convert_explained hcache).explained failure h
    exact ⟨some cause, hfailure, iff_of_false nofun fun hnone => hcache hnone.1⟩

/-- The cause of a failure is one that the grammar may name, for cache modes as well, which may fail
without a cause. -/
theorem mayName_of_convert {failure : Failure} {cause : Cause}
    (h : grammar.convert source target = .error failure) (hcause : failure.cause = some cause) :
    grammar.MayName source target cause := by
  by_cases hcache : grammar = .cacheMode
  · subst hcache
    rcases Reading.cacheMode_eq_error h with ⟨-, cause', hmay, rfl⟩ | ⟨-, rfl⟩
    · cases hcause
      exact mayName_of_target rfl hmay
    · cases hcause
  · obtain ⟨cause', hmay, rfl⟩ := convert_explained hcache failure h
    cases hcause
    exact hmay

/-- A text that is no matrix is no transform for the same cause. -/
theorem convert_transform_of_matrix {type : TypeName} {failure : Failure}
    (htype : target.companion? 0 = some type)
    (h : matrix.convert source ⟨type, []⟩ = .error failure) :
    transform.convert source target = .error (target.fail source failure.cause) := by
  obtain ⟨cause, rfl, -⟩ := convert_eq_error h
  exact Reading.wrapped_of_error htype h

end Grammar

end MarkupValues
