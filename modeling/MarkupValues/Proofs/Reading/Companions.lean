import MarkupValues.Proofs.Reading.Failures

/-!
# What the readers take from a target

A reader takes two things from a target: the type to build, and companion 0 if its results mention
one. One lemma for each reader says that it gives the same outcome, success or failure, for targets
that agree in these (`Grammar.convert_congr`, and `Grammar.convert_congr_destination` for the
grammars that mention no companion).
-/

namespace MarkupValues

namespace Target

/-- Targets for the same type with the same companion 0; they may differ in all other companions. -/
structure SameFirst (target target' : Target) : Prop where
  destination_eq : target.destination = target'.destination
  companion?_eq : target.companion? 0 = target'.companion? 0

variable {target target' : Target}

/-- What is reported of a text names the type to build and no companion. -/
theorem report_congr {α : Type} (h : target.destination = target'.destination) (source : String)
    (outcome : Except Cause α) : target.report source outcome = target'.report source outcome := by
  simp only [report, fail, h]

/-- A refusal with a cause names the type to build and no companion. -/
theorem refuse_congr (h : target.destination = target'.destination) (source : String)
    (cause : Cause) : target.refuse source cause = target'.refuse source cause := by
  simp only [refuse, fail, h]

/-- A refusal without a cause names the type to build and no companion. -/
theorem reject_congr (h : target.destination = target'.destination) (source : String) :
    target.reject source = target'.reject source := by
  simp only [reject, fail, h]

/-- Companion 0 is the only one that a reader asks for, and it is missing for both targets or for
neither. -/
theorem SameFirst.requireCompanion_eq (h : target.SameFirst target') (source : String) :
    target.requireCompanion source 0 = target'.requireCompanion source 0 := by
  simp only [requireCompanion, companion, h.companion?_eq, report_congr h.destination_eq]

end Target

namespace Reading

variable {target target' : Target}

/-! ## Readers without companions -/

section
variable (h : target.destination = target'.destination) (source : String)
include h

/-- A colour is built from the type alone. -/
theorem color_congr : color source target = color source target' := by
  simp only [color, Target.report_congr h, Target.refuse_congr h, h]

/-- A number of tokens is reported for the type alone. -/
theorem numbers_congr (arity : Arity) :
    numbers arity source target = numbers arity source target' :=
  Target.report_congr h source _

/-- A call with the tokens of a text is built from the type alone. -/
theorem coordinates_congr (arity : Arity) :
    coordinates arity source target = coordinates arity source target' := by
  simp only [coordinates, numbers_congr h, h]

/-- A thickness is built from the type alone. -/
theorem thickness_congr : thickness source target = thickness source target' := by
  simp only [thickness, numbers_congr h, h]

/-- A matrix is built from the type alone. -/
theorem matrix_congr : matrix source target = matrix source target' := by
  simp only [matrix, coordinates_congr h, h]

/-- A span of time needs the type for its failures alone. -/
theorem timeSpan_congr : timeSpan source target = timeSpan source target' := by
  simp only [timeSpan, Target.report_congr h]

/-- A duration is built from the type alone. -/
theorem duration_congr : duration source target = duration source target' := by
  simp only [duration, timeSpan_congr h, h]

/-- A key time is built from the type alone, and the percentage that it warns of is refused for the
type alone. -/
theorem keyTime_congr : keyTime source target = keyTime source target' := by
  simp only [keyTime, loggedKeyTime, timeSpan_congr h, Target.refuse_congr h, h]

/-- A repeat behaviour is built from the type alone. -/
theorem repeatBehavior_congr : repeatBehavior source target = repeatBehavior source target' := by
  simp only [repeatBehavior, timeSpan_congr h, Target.refuse_congr h, h]

end

/-! ## Readers that ask for companion 0 -/

section
variable (h : target.SameFirst target') (source : String)
include h

/-- A value with another one inside takes companion 0 for the type inside, and the type around
it. -/
theorem wrapped_congr (read : String → Target → Reading) :
    wrapped read source target = wrapped read source target' := by
  simp only [wrapped, h.requireCompanion_eq, h.destination_eq]

/-- A collection of points takes companion 0 for the type of its points. -/
theorem pointCollection_congr : pointCollection source target = pointCollection source target' := by
  simp only [pointCollection, numbers_congr h.destination_eq, h.requireCompanion_eq,
    h.destination_eq]

/-- A key spline takes companion 0 for the type of its two points. -/
theorem keySpline_congr : keySpline source target = keySpline source target' := by
  simp only [keySpline, numbers_congr h.destination_eq, h.requireCompanion_eq,
    Target.refuse_congr h.destination_eq, h.destination_eq]

/-- A grid length takes companion 0 for the type that holds its units. -/
theorem gridLength_congr : gridLength source target = gridLength source target' := by
  simp only [gridLength, h.requireCompanion_eq, h.destination_eq]

/-- A member that a text names is one of companion 0. -/
theorem memberNamed_congr (kind : NameKind) (find? : String → Option String) :
    memberNamed kind find? source target = memberNamed kind find? source target' := by
  simp only [memberNamed, h.requireCompanion_eq, Target.refuse_congr h.destination_eq]

/-- A text decoration is a member of companion 0. -/
theorem textDecorations_congr : textDecorations source target = textDecorations source target' := by
  simp only [textDecorations, h.requireCompanion_eq, Target.refuse_congr h.destination_eq]

/-- A cache mode is built of companion 0, and any other text is refused for the type. -/
theorem cacheMode_congr : cacheMode source target = cacheMode source target' := by
  simp only [cacheMode, h.requireCompanion_eq, Target.reject_congr h.destination_eq]

/-- A cursor is a member of companion 0. -/
theorem cursor_congr : cursor source target = cursor source target' := by
  simp only [cursor, h.requireCompanion_eq]

/-- An image is built of companion 0. -/
theorem imageSource_congr : imageSource source target = imageSource source target' := by
  simp only [imageSource, h.requireCompanion_eq]

end

end Reading

namespace Grammar

variable {grammar : Grammar} {target target' : Target}

/-- A grammar that mentions no companion takes nothing but the type to build from a target, so that
any companions may be given. -/
theorem convert_congr_destination (hmentions : grammar.mentionsCompanion = false)
    (h : target.destination = target'.destination) (source : String) :
    grammar.convert source target = grammar.convert source target' := by
  unfold convert
  cases grammar with
  | color => exact Reading.color_congr h source
  | point | size | rect | cornerRadius => exact Reading.coordinates_congr h source _
  | matrix => exact Reading.matrix_congr h source
  | thickness => exact Reading.thickness_congr h source
  | timeSpan => exact Reading.timeSpan_congr h source
  | duration => exact Reading.duration_congr h source
  | keyTime => exact Reading.keyTime_congr h source
  | repeatBehavior => exact Reading.repeatBehavior_congr h source
  | doubleCollection | fontStretch | fontFamily | geometry | propertyPath =>
    simp only [Reading.doubleCollection, Reading.fontStretch, Reading.fontFamily, Reading.geometry,
      Reading.propertyPath, h]
  | brush | transform | pointCollection | keySpline | gridLength | fontWeight | fontStyle
  | textDecorations | imageSource | cursor | cacheMode => cases hmentions

/-- No grammar takes more from a target than the type to build and companion 0, so that other
companions may be anything. There is one case for each grammar, from the lemmas above. -/
theorem convert_congr (grammar : Grammar) (h : target.SameFirst target') (source : String) :
    grammar.convert source target = grammar.convert source target' := by
  cases hmentions : grammar.mentionsCompanion with
  | false => exact convert_congr_destination hmentions h.destination_eq source
  | true =>
    unfold convert
    cases grammar with
    | brush | transform => exact Reading.wrapped_congr h source _
    | pointCollection => exact Reading.pointCollection_congr h source
    | keySpline => exact Reading.keySpline_congr h source
    | gridLength => exact Reading.gridLength_congr h source
    | fontWeight | fontStyle => exact Reading.memberNamed_congr h source _ _
    | textDecorations => exact Reading.textDecorations_congr h source
    | imageSource => exact Reading.imageSource_congr h source
    | cursor => exact Reading.cursor_congr h source
    | cacheMode => exact Reading.cacheMode_congr h source
    | color | point | size | rect | matrix | doubleCollection | thickness | cornerRadius | timeSpan
    | duration | keyTime | repeatBehavior | fontStretch | fontFamily | geometry | propertyPath =>
      cases hmentions

end Grammar

end MarkupValues
