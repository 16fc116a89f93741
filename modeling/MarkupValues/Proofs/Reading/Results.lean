import MarkupValues.Grammar
import MarkupValues.Proofs.Numeric.Leading

/-!
# What the readers give

One lemma for each grammar says which expressions a reading of a text gives, with what the text has
been read as. Later proofs go by these lemmas and do not open the readers.
-/

namespace MarkupValues.Reading

/-! ## Outcomes -/

section
variable {ε ε' α β : Type}

/-- A sequence succeeds when its first step does and then the rest. -/
theorem bind_eq_ok {x : Except ε α} {f : α → Except ε β} {b : β} :
    (x >>= f) = .ok b ↔ ∃ a, x = .ok a ∧ f a = .ok b := by
  cases x with
  | error => exact ⟨nofun, fun ⟨_, h, _⟩ => nomatch h⟩
  | ok a => exact ⟨fun h => ⟨a, rfl, h⟩, fun ⟨_, ha, h⟩ => by cases ha; exact h⟩

/-- An outcome with its value changed is a success when the outcome is. -/
theorem map_eq_ok {x : Except ε α} {f : α → β} {b : β} :
    x.map f = .ok b ↔ ∃ a, x = .ok a ∧ f a = b := by
  cases x with
  | error => exact ⟨nofun, fun ⟨_, h, _⟩ => nomatch h⟩
  | ok a => exact ⟨fun h => ⟨a, rfl, Except.ok.inj h⟩, fun ⟨_, ha, h⟩ => by cases ha; rw [← h]; rfl⟩

/-- An outcome with its error changed is a success when the outcome is. -/
theorem mapError_eq_ok {x : Except ε α} {f : ε → ε'} {a : α} :
    x.mapError f = .ok a ↔ x = .ok a := by
  cases x with
  | error => exact ⟨nofun, nofun⟩
  | ok => exact ⟨fun h => congrArg _ (Except.ok.inj h), fun h => congrArg _ (Except.ok.inj h)⟩

end

variable {source : String} {target : Target} {e : Expr}

/-- A companion that is found is the one at the position, and one that is there is found. -/
theorem requireCompanion_eq_ok {index : Nat} {name : TypeName} :
    target.requireCompanion source index = .ok name ↔ target.companion? index = some name := by
  refine mapError_eq_ok.trans ?_
  unfold Target.companion
  split
  · next h => rw [h, Except.ok.injEq, Option.some.injEq]
  · next h => rw [h]; exact ⟨nofun, nofun⟩

/-- A value with another one inside is read as that one, for the type of companion 0, and put into a
call. -/
theorem wrapped_ok {read : String → Target → Reading} (h : wrapped read source target = .ok e) :
    ∃ type inner, target.companion? 0 = some type ∧ read source ⟨type, []⟩ = .ok inner ∧
      e = .call target.destination [inner] := by
  obtain ⟨type, htype, h⟩ := bind_eq_ok.1 h
  obtain ⟨inner, hinner, h⟩ := bind_eq_ok.1 h
  cases h
  exact ⟨type, inner, requireCompanion_eq_ok.1 htype, mapError_eq_ok.1 hinner, rfl⟩

/-! ## Colours -/

/-- Every value of a list that is read item by item is read from an item. -/
theorem exists_of_mem_mapM {ε α β : Type} {f : α → Except ε β} {xs : List α} {ys : List β}
    (h : xs.mapM f = .ok ys) : ∀ y ∈ ys, ∃ x ∈ xs, f x = .ok y := by
  induction xs generalizing ys with
  | nil => cases h; exact fun _ hy => nomatch hy
  | cons x xs ih =>
    rw [List.mapM_cons] at h
    obtain ⟨y, hy, h⟩ := bind_eq_ok.1 h
    obtain ⟨ys, hys, h⟩ := bind_eq_ok.1 h
    cases h
    refine List.forall_mem_cons.2 ⟨⟨x, .head _, hy⟩, fun z hz => ?_⟩
    obtain ⟨x', hx', hz⟩ := ih hys z hz
    exact ⟨x', .tail _ hx', hz⟩

/-- A token that is read as a channel is finite. -/
theorem isFinite_of_channel {token : String} {value : Binary32}
    (h : ScRgb.channel token = .ok value) : value.isFinite = true := by
  unfold ScRgb.channel at h
  split at h
  · split at h
    · next hfinite => cases h; exact hfinite
    · cases h
  · cases h

/-- The channels of a linear colour are finite, the opacity too when the text has no number for it,
since it is one then. -/
theorem isFinite_of_scRgb {s : String} {color : ScRgb} (h : ScRgb.ofText s = .ok color) :
    ∀ v ∈ [color.a, color.r, color.g, color.b], v.isFinite = true := by
  unfold ScRgb.ofText at h
  split at h
  · obtain ⟨channels, hchannels, h⟩ := bind_eq_ok.1 h
    have hfinite : ∀ v ∈ channels, v.isFinite = true := fun v hv => by
      obtain ⟨token, -, htoken⟩ := exists_of_mem_mapM hchannels v hv
      exact isFinite_of_channel htoken
    unfold ScRgb.ofChannels at h
    split at h
    · cases h
      have hone : (Binary.ofRatio false 1 1 : Binary32).isFinite = true := by decide
      exact List.forall_mem_cons.2 ⟨hone, hfinite⟩
    · cases h; exact hfinite
    · cases h
  · cases h

/-- A colour that is read is a call with four bytes or with four finite numbers. A name gives bytes,
as the hexadecimal forms do. -/
theorem color_ok (h : color source target = .ok e) :
    (∃ color, e = ofArgb target.destination color) ∨
      ∃ color, ScRgb.ofText (Text.trim source) = .ok color ∧
        e = ofScRgb target.destination color := by
  unfold color at h
  dsimp only at h
  split at h
  · obtain ⟨color, -, rfl⟩ := map_eq_ok.1 h
    exact .inl ⟨color, rfl⟩
  · split at h
    · obtain ⟨color, hcolor, rfl⟩ := map_eq_ok.1 h
      exact .inr ⟨color, mapError_eq_ok.1 hcolor, rfl⟩
    · split at h
      · next color _ => cases h; exact .inl ⟨color, rfl⟩
      · cases h

/-! ## Lists of numbers -/

/-- A list of numbers that is admitted is all the tokens of the text. -/
theorem numbers_ok {arity : Arity} {tokens : List String}
    (h : numbers arity source target = .ok tokens) :
    tokens = Numeric.tokens source ∧ arity.admits tokens.length = true := by
  have h := mapError_eq_ok.1 h
  unfold Numeric.tokensOf at h
  split at h
  · next hadmits => cases h; exact ⟨rfl, hadmits⟩
  · cases h

/-- Coordinates that are read are a call with all tokens of the text. -/
theorem coordinates_ok {arity : Arity} (h : coordinates arity source target = .ok e) :
    e = .call target.destination ((Numeric.tokens source).map .raw) := by
  obtain ⟨tokens, htokens, h⟩ := bind_eq_ok.1 h
  obtain ⟨rfl, -⟩ := numbers_ok htokens
  cases h
  rfl

/-- A thickness that is read is a call with the sides that the tokens stand for. -/
theorem thickness_ok (h : thickness source target = .ok e) :
    e = .call target.destination ((sides (Numeric.tokens source)).map .raw) := by
  obtain ⟨tokens, htokens, h⟩ := bind_eq_ok.1 h
  obtain ⟨rfl, -⟩ := numbers_ok htokens
  cases h
  rfl

/-- A matrix that is read is the one member, or a call with all tokens of the text. -/
theorem matrix_ok (h : matrix source target = .ok e) :
    e = .member target.destination "Identity" ∨
      e = .call target.destination ((Numeric.tokens source).map .raw) := by
  unfold matrix at h
  split at h
  · cases h; exact .inl rfl
  · exact .inr (coordinates_ok h)

/-- A collection of points that is read is empty, or has the points of the tokens for the type of
companion 0. -/
theorem pointCollection_ok (h : pointCollection source target = .ok e) :
    e = .collection target.destination [] ∨
      ∃ type, target.companion? 0 = some type ∧
        e = .collection target.destination (pointCalls type (Numeric.tokens source)) := by
  obtain ⟨tokens, htokens, h⟩ := bind_eq_ok.1 h
  obtain ⟨rfl, -⟩ := numbers_ok htokens
  split at h
  · cases h; exact .inl rfl
  · obtain ⟨type, htype, h⟩ := bind_eq_ok.1 h
    cases h
    exact .inr ⟨type, requireCompanion_eq_ok.1 htype, rfl⟩

/-- A key spline that is read is empty, or has the two points of four tokens for the type of
companion 0. -/
theorem keySpline_ok (h : keySpline source target = .ok e) :
    e = .call target.destination [] ∨
      ∃ type x₁ y₁ x₂ y₂, target.companion? 0 = some type ∧
        Numeric.tokens source = [x₁, y₁, x₂, y₂] ∧
        e = .construct target.destination []
          [("ControlPoint1", pointCall type x₁ y₁), ("ControlPoint2", pointCall type x₂ y₂)] [] := by
  unfold keySpline at h
  split at h
  · cases h; exact .inl rfl
  · obtain ⟨tokens, htokens, h⟩ := bind_eq_ok.1 h
    obtain ⟨htokens, -⟩ := numbers_ok htokens
    split at h
    · obtain ⟨type, htype, h⟩ := bind_eq_ok.1 h
      cases h
      exact .inr ⟨type, _, _, _, _, requireCompanion_eq_ok.1 htype, htokens.symm, rfl⟩
    · cases h

/-! ## Grid lengths -/

/-- With the type of its unit a grid length is read from every text. -/
theorem gridLength_of_companion {unitType : TypeName}
    (hunit : target.companion? 0 = some unitType) :
    gridLength source target = .ok (.call target.destination
      [(amountAndUnit (Text.lowercase (Text.trim source))).1,
        .member unitType (amountAndUnit (Text.lowercase (Text.trim source))).2]) := by
  rw [gridLength, requireCompanion_eq_ok.2 hunit]
  cases amountAndUnit (Text.lowercase (Text.trim source))
  rfl

/-- A grid length that is read has the amount and the unit of its text in lower case. -/
theorem gridLength_ok (h : gridLength source target = .ok e) :
    ∃ unitType, target.companion? 0 = some unitType ∧
      e = .call target.destination
        [(amountAndUnit (Text.lowercase (Text.trim source))).1,
          .member unitType (amountAndUnit (Text.lowercase (Text.trim source))).2] := by
  obtain ⟨unitType, hunit, h⟩ := bind_eq_ok.1 h
  dsimp only at h
  generalize amountAndUnit (Text.lowercase (Text.trim source)) = measure at h ⊢
  cases h
  exact ⟨unitType, requireCompanion_eq_ok.1 hunit, rfl⟩

/-- A number that is missing has digits of its own, as one of double precision. -/
theorem leadingOr_eq (value digits : String) :
    (∃ number, Numeric.isDecimalChars number.toList = true ∧ leadingOr value digits = .raw number) ∨
      leadingOr value digits = .literal (.double digits) := by
  unfold leadingOr
  split
  · next number hnumber =>
    obtain ⟨cs, hcs, rfl⟩ := Option.map_eq_some_iff.1 hnumber
    refine .inl ⟨_, ?_, rfl⟩
    rw [String.toList_ofList]
    exact Numeric.isDecimalChars_of_leadingDecimalChars? hcs
  · exact .inr rfl

/-- The amount of a grid length is a decimal number of the text, or else one or zero; its unit is
one of three. The text is looked at no further than that. -/
theorem amountAndUnit_eq (value : String) :
    ((∃ number, Numeric.isDecimalChars number.toList = true ∧
        (amountAndUnit value).1 = .raw number) ∨
      ∃ digits ∈ ["0", "1"], (amountAndUnit value).1 = .literal (.double digits)) ∧
    (amountAndUnit value).2 ∈ ["Auto", "Star", "Pixel"] := by
  have hleading (missing : String) (hmissing : missing ∈ ["0", "1"]) :
      (∃ number, Numeric.isDecimalChars number.toList = true ∧
          leadingOr value missing = .raw number) ∨
        ∃ digits ∈ ["0", "1"], leadingOr value missing = .literal (.double digits) :=
    (leadingOr_eq value missing).imp_right fun h => ⟨missing, hmissing, h⟩
  unfold amountAndUnit
  split
  · exact ⟨.inr ⟨"1", by simp, rfl⟩, by simp⟩
  · split <;> dsimp only
    · exact ⟨hleading "1" (by simp), by simp⟩
    · exact ⟨hleading "0" (by simp), by simp⟩

/-! ## Times -/

/-- A spelling that is found is one of those that are looked among. -/
theorem mem_of_findSpelling? {spellings : List String} {s spelling : String}
    (h : Text.findSpelling? spellings s = some spelling) : spelling ∈ spellings :=
  List.mem_of_find?_eq_some h

/-- A span of time that is read is a call with the ticks of the text. -/
theorem timeSpan_ok (h : timeSpan source target = .ok e) :
    ∃ span, TimeSpan.ofText? source = some span ∧
      e = .call .timeSpan [.literal (.long span.ticks)] := by
  obtain ⟨span, hspan, rfl⟩ := map_eq_ok.1 h
  exact ⟨span, TimeSpan.ofText_eq_ok_iff.1 (mapError_eq_ok.1 hspan), rfl⟩

/-- A duration that is read is one of its words, or a span of time. -/
theorem duration_ok (h : duration source target = .ok e) :
    (∃ word ∈ ["Automatic", "Forever"], e = .member target.destination word) ∨
      timeSpan source target = .ok e := by
  unfold duration at h
  split at h
  · next word hword => cases h; exact .inl ⟨word, mem_of_findSpelling? hword, rfl⟩
  · exact .inr h

/-- A key time that is read is the word `Uniform`, or a call with a span of time. -/
theorem keyTime_ok (h : keyTime source target = .ok e) :
    e = .member target.destination "Uniform" ∨
      ∃ span, timeSpan source target = .ok span ∧
        e = .invoke target.destination "FromTimeSpan" [span] := by
  unfold keyTime loggedKeyTime at h
  split at h
  · cases h
  · cases h
  · cases h; exact .inl rfl
  · obtain ⟨span, hspan, rfl⟩ := map_eq_ok.1 h
    exact .inr ⟨span, hspan, rfl⟩

/-- A repetition that is read is the word `Forever`, a call with a decimal number, or the span of
time of the text in lower case. -/
theorem repeatBehavior_ok (h : repeatBehavior source target = .ok e) :
    e = .member target.destination "Forever" ∨
      (∃ count, Numeric.isDecimal count = true ∧ e = .call target.destination [.raw count]) ∨
      timeSpan (Text.lowercase (Text.trim source)) target = .ok e := by
  unfold repeatBehavior at h
  dsimp only at h
  split at h
  · cases h; exact .inl rfl
  · split at h
    · split at h
      · next hcount => cases h; exact .inr (.inl ⟨_, hcount, rfl⟩)
      · cases h
    · exact .inr (.inr (mapError_eq_ok.1 h))

/-! ## Names -/

/-- A member that is read is the one of companion 0 with the name that is found. -/
theorem memberNamed_ok {kind : NameKind} {find? : String → Option String}
    (h : memberNamed kind find? source target = .ok e) :
    ∃ owner name, target.companion? 0 = some owner ∧ find? (Text.trim source) = some name ∧
      e = .member owner name := by
  obtain ⟨owner, howner, h⟩ := bind_eq_ok.1 h
  dsimp only at h
  split at h
  · next name hname => cases h; exact ⟨owner, name, requireCompanion_eq_ok.1 howner, hname, rfl⟩
  · cases h

/-- A weight that is found by its name or its code is one of the table. -/
theorem mem_table_of_ofText? {s name : String} (h : FontWeight.ofText? s = some name) :
    name ∈ FontWeight.table.map Prod.fst := by
  rcases Option.or_eq_some_iff.1 h with h | ⟨-, h⟩
  · obtain ⟨row, hrow, rfl⟩ := Option.map_eq_some_iff.1 h
    exact List.mem_map_of_mem (List.mem_of_find?_eq_some hrow)
  · obtain ⟨code, -, h⟩ := Option.bind_eq_some_iff.1 h
    obtain ⟨row, hrow, rfl⟩ := Option.map_eq_some_iff.1 h
    exact List.mem_map_of_mem (List.mem_of_find?_eq_some hrow)

/-- A decoration that is read is the null reference, or a member of companion 0 that the table
names. -/
theorem textDecorations_ok (h : textDecorations source target = .ok e) :
    e = .null ∨ ∃ owner name, target.companion? 0 = some owner ∧
      name ∈ textDecorationNames.filterMap Prod.snd ∧ e = .member owner name := by
  obtain ⟨owner, howner, h⟩ := bind_eq_ok.1 h
  split at h
  · next name hname =>
    cases h
    obtain ⟨front, back, htable, -⟩ := List.lookup_eq_some_iff.1 hname
    refine .inr ⟨owner, name, requireCompanion_eq_ok.1 howner, ?_, rfl⟩
    rw [htable]
    exact List.mem_filterMap.2 ⟨_, List.mem_append_right front (.head back), rfl⟩
  · cases h; exact .inl rfl
  · cases h

/-- A cache mode that is read is a call of companion 0 without arguments. -/
theorem cacheMode_ok (h : cacheMode source target = .ok e) :
    ∃ owner, target.companion? 0 = some owner ∧ e = .call owner [] := by
  unfold cacheMode at h
  split at h
  · obtain ⟨owner, howner, h⟩ := bind_eq_ok.1 h
    cases h
    exact ⟨owner, requireCompanion_eq_ok.1 howner, rfl⟩
  · cases h

/-! ## Texts -/

/-- A cursor that is read is the member of companion 0 with the text for its name. -/
theorem cursor_ok (h : cursor source target = .ok e) :
    ∃ owner, target.companion? 0 = some owner ∧ e = .member owner (Text.trim source) := by
  obtain ⟨owner, howner, h⟩ := bind_eq_ok.1 h
  cases h
  exact ⟨owner, requireCompanion_eq_ok.1 howner, rfl⟩

/-- An image that is read is a call of companion 0 with the address as it is written. -/
theorem imageSource_ok (h : imageSource source target = .ok e) :
    ∃ image, target.companion? 0 = some image ∧ ∃ kind ∈ ["Absolute", "Relative"],
      e = .call image [.call .uri [.string source, .member .uriKind kind]] := by
  obtain ⟨image, himage, h⟩ := bind_eq_ok.1 h
  cases h
  refine ⟨image, requireCompanion_eq_ok.1 himage, _, ?_, rfl⟩
  split <;> simp

end MarkupValues.Reading
