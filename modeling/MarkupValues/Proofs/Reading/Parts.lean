import MarkupValues.Proofs.Code.WellFormed
import MarkupValues.Proofs.Expr.Nodes
import MarkupValues.Proofs.Numeric.Tokens
import MarkupValues.Proofs.Reading.Results

/-!
# What results are made of

A result has a fixed vocabulary: its types are those of the target and of the framework, and its
other names are spelled in the grammars (`vocabulary`), except that a cursor is named by the text.
Its numbers are single tokens, finite and in range (`Literal.IsBounded`); where the text is not a
list of numbers, which go into the result unread, they are decimal numbers too (`Literal.IsSound`).
`Grammar.madeOf_of_convert` says so for each grammar, and `Grammar.convert_parts` for all of them.
-/

namespace MarkupValues

/-- What a result may have for a type: the type to build, its first companion, and the types of the
framework for spans of time and addresses. No type comes from the text. -/
def Target.Mentions (target : Target) (name : TypeName) : Prop :=
  name = target.destination ∨ target.companion? 0 = some name ∨
    name ∈ [TypeName.timeSpan, .uri, .uriKind]

/-- The names of members, methods and properties that the grammars spell. All of them are spelled in
the grammars and in their tables. -/
def vocabulary : List String :=
  FontWeight.table.map Prod.fst ++ ["Normal", "Oblique", "Italic"] ++
    Reading.textDecorationNames.filterMap Prod.snd ++
    ["FromArgb", "FromScRgb", "Identity", "ControlPoint1", "ControlPoint2", "Auto", "Star", "Pixel",
      "Automatic", "Forever", "Uniform", "FromTimeSpan", "Absolute", "Relative"]

/-- Whether a number is one token, finite and in range: a count of ticks has a magnitude that fits
its word. -/
def Literal.IsBounded : Literal → Prop
  | raw digits | double digits => Numeric.IsToken digits
  | single value => value.isFinite = true
  | long value => -(TimeSpan.maxMagnitude : Int) ≤ value.toInt ∧ value.toInt ≤ TimeSpan.maxMagnitude
  | byte _ | string _ => True

/-- Whether a number is bounded and written as one number. The tokens of a list of numbers are
bounded, but they need not be numbers. -/
def Literal.IsSound (value : Literal) : Prop :=
  value.IsBounded ∧ value.isWellFormed = true

/-- A decimal number is one token and is written as one number, as it stands or as one of double
precision. -/
theorem Literal.isSound_of_isDecimal {digits : String} (h : Numeric.isDecimal digits = true) :
    (raw digits).IsSound ∧ (double digits).IsSound := by
  have htoken : Numeric.IsToken digits := by
    obtain ⟨front, last, heq, -⟩ := Numeric.exists_append_of_isDecimalChars h
    refine ⟨fun hnil => ?_, fun c hc => ?_⟩
    · rw [hnil] at heq
      exact absurd heq.symm (List.append_ne_nil_of_right_ne_nil _ (List.cons_ne_nil _ _))
    · rcases Numeric.forall_mem_of_isDecimalChars h c hc with hd | rfl
      · refine Bool.eq_false_iff.2 fun hsep => ?_
        rcases Bool.or_eq_true_iff.1 hsep with h | h <;> rw [of_decide_eq_true h] at hd <;> cases hd
      · rfl
  have hsigned := Numeric.isSignedDecimal_of_isDecimalChars h
  exact ⟨⟨htoken, hsigned⟩, htoken, hsigned⟩

/-- The ticks of a span of time are in range, and a whole number is always written as one. -/
theorem TimeSpan.isSound_ticks {s : String} {span : TimeSpan} (h : TimeSpan.ofText? s = some span) :
    (Literal.long span.ticks).IsSound := by
  obtain ⟨n, hn, rfl⟩ := Option.map_eq_some_iff.1 ((TimeSpan.ofText?_eq_map s).symm.trans h)
  have hrange : -(maxMagnitude : Int) ≤ n ∧ n ≤ maxMagnitude := by
    have hbounded {body : List Char} {m : Nat} (h : ticks?.bounded? body = some m) :
        m ≤ maxMagnitude := by
      simpa using (Option.filter_eq_some_iff.1 h).2
    unfold ticks? at hn
    split at hn <;> obtain ⟨i, hi, rfl⟩ := Option.map_eq_some_iff.1 hn <;>
      obtain ⟨m, hm, him⟩ := Option.bind_eq_some_iff.1 hi <;> cases him <;>
      have := hbounded hm <;> omega
  unfold maxMagnitude at hrange
  refine ⟨?_, rfl⟩
  show -(maxMagnitude : Int) ≤ (Int64.ofInt n).toInt ∧ (Int64.ofInt n).toInt ≤ maxMagnitude
  rw [Int64.toInt_ofInt_of_le (by omega) (by omega)]
  exact hrange

namespace Expr

variable {type : TypeName → Prop} {name : String → Prop} {literal : Literal → Prop} {t : TypeName}

/-- A call with arguments alone is made of its type and of what its arguments are made of. -/
theorem madeOf_call {args : List Expr} :
    (call t args).MadeOf type name literal ↔ type t ∧ ∀ e ∈ args, e.MadeOf type name literal := by
  simp [call, madeOf_construct]

/-- A collection is made of its type and of what its items are made of. -/
theorem madeOf_collection {items : List Expr} :
    (collection t items).MadeOf type name literal ↔
      type t ∧ ∀ e ∈ items, e.MadeOf type name literal := by
  simp [collection, madeOf_construct]

end Expr

namespace Reading

variable {type : TypeName → Prop} {source : String} {target : Target} {e : Expr}

/-! ## Results that are read as numbers and names -/

/-- A colour is a call of one method with bytes or with finite numbers. -/
theorem color_madeOf (h : color source target = .ok e) (ht : type target.destination) :
    e.MadeOf type (· ∈ vocabulary) Literal.IsSound := by
  rcases color_ok h with ⟨color, rfl⟩ | ⟨color, hcolor, rfl⟩
  · refine Expr.madeOf_invoke.2 ⟨ht, by decide, List.forall_mem_map.2 fun v _ => ?_⟩
    exact Expr.madeOf_literal.2 ⟨trivial, rfl⟩
  · refine Expr.madeOf_invoke.2 ⟨ht, by decide, List.forall_mem_map.2 fun v hv => ?_⟩
    have hfinite := isFinite_of_scRgb hcolor v hv
    exact Expr.madeOf_literal.2 ⟨hfinite, hfinite⟩

/-- A span of time is a call with its ticks. -/
theorem timeSpan_madeOf (h : timeSpan source target = .ok e) (ht : type .timeSpan) :
    e.MadeOf type (· ∈ vocabulary) Literal.IsSound := by
  obtain ⟨span, hspan, rfl⟩ := timeSpan_ok h
  refine Expr.madeOf_call.2 ⟨ht, List.forall_mem_singleton.2 (Expr.madeOf_literal.2 ?_)⟩
  exact TimeSpan.isSound_ticks hspan

/-- A grid length is a call with a decimal number and a member of companion 0, whose name is one of
the three units. -/
theorem gridLength_madeOf (h : gridLength source target = .ok e) (ht : type target.destination)
    (hc : ∀ t, target.companion? 0 = some t → type t) :
    e.MadeOf type (· ∈ vocabulary) Literal.IsSound := by
  obtain ⟨unitType, hunit, rfl⟩ := gridLength_ok h
  obtain ⟨hamount, hname⟩ := amountAndUnit_eq (Text.lowercase (Text.trim source))
  have hunits : ∀ n ∈ ["Auto", "Star", "Pixel"], n ∈ vocabulary := by decide
  refine Expr.madeOf_call.2 ⟨ht, List.forall_mem_cons.2 ⟨?_, List.forall_mem_singleton.2 ?_⟩⟩
  · rcases hamount with ⟨number, hnumber, heq⟩ | ⟨digits, hdigits, heq⟩ <;> rw [heq]
    · exact Expr.madeOf_literal.2 (Literal.isSound_of_isDecimal hnumber).1
    · have hdecimal : ∀ digits ∈ ["0", "1"], Numeric.isDecimal digits = true := by decide
      exact Expr.madeOf_literal.2 (Literal.isSound_of_isDecimal (hdecimal digits hdigits)).2
  · exact Expr.madeOf_member.2 ⟨hc _ hunit, hunits _ hname⟩

/-- A duration is a word or a span of time. -/
theorem duration_madeOf (h : duration source target = .ok e) (ht : type target.destination)
    (hspan : type .timeSpan) : e.MadeOf type (· ∈ vocabulary) Literal.IsSound := by
  rcases duration_ok h with ⟨word, hword, rfl⟩ | h
  · have hwords : ∀ word ∈ ["Automatic", "Forever"], word ∈ vocabulary := by decide
    exact Expr.madeOf_member.2 ⟨ht, hwords word hword⟩
  · exact timeSpan_madeOf h hspan

/-- A key time is a word or a call with a span of time. -/
theorem keyTime_madeOf (h : keyTime source target = .ok e) (ht : type target.destination)
    (hspan : type .timeSpan) : e.MadeOf type (· ∈ vocabulary) Literal.IsSound := by
  rcases keyTime_ok h with rfl | ⟨span, hread, rfl⟩
  · exact Expr.madeOf_member.2 ⟨ht, by decide⟩
  · have hmade := timeSpan_madeOf hread hspan
    exact Expr.madeOf_invoke.2 ⟨ht, by decide, List.forall_mem_singleton.2 hmade⟩

/-- A repetition is a word, a call with a decimal number, or a span of time. -/
theorem repeatBehavior_madeOf (h : repeatBehavior source target = .ok e)
    (ht : type target.destination) (hspan : type .timeSpan) :
    e.MadeOf type (· ∈ vocabulary) Literal.IsSound := by
  rcases repeatBehavior_ok h with rfl | ⟨count, hcount, rfl⟩ | h
  · exact Expr.madeOf_member.2 ⟨ht, by decide⟩
  · refine Expr.madeOf_call.2 ⟨ht, List.forall_mem_singleton.2 (Expr.madeOf_literal.2 ?_)⟩
    exact (Literal.isSound_of_isDecimal hcount).1
  · exact timeSpan_madeOf h hspan

/-- A name that is found stands for a member of companion 0, so that the text itself does not get
into the result. -/
theorem memberNamed_madeOf {kind : NameKind} {find? : String → Option String}
    (h : memberNamed kind find? source target = .ok e)
    (hc : ∀ t, target.companion? 0 = some t → type t)
    (hfind : ∀ s n, find? s = some n → n ∈ vocabulary) :
    e.MadeOf type (· ∈ vocabulary) Literal.IsSound := by
  obtain ⟨owner, n, howner, hn, rfl⟩ := memberNamed_ok h
  exact Expr.madeOf_member.2 ⟨hc owner howner, hfind _ n hn⟩

/-- A weight is a member of companion 0 that the table names. -/
theorem fontWeight_madeOf (h : fontWeight source target = .ok e)
    (hc : ∀ t, target.companion? 0 = some t → type t) :
    e.MadeOf type (· ∈ vocabulary) Literal.IsSound := by
  have hnames : ∀ n ∈ FontWeight.table.map Prod.fst, n ∈ vocabulary := by decide
  unfold fontWeight at h
  exact memberNamed_madeOf h hc fun s n hn => hnames n (mem_table_of_ofText? hn)

/-- A style is one of three members of companion 0. -/
theorem fontStyle_madeOf (h : fontStyle source target = .ok e)
    (hc : ∀ t, target.companion? 0 = some t → type t) :
    e.MadeOf type (· ∈ vocabulary) Literal.IsSound := by
  have hnames : ∀ n ∈ ["Normal", "Oblique", "Italic"], n ∈ vocabulary := by decide
  unfold fontStyle at h
  exact memberNamed_madeOf h hc fun s n hn => hnames n (mem_of_findSpelling? hn)

/-- A decoration is one of three members of companion 0, or the null reference. -/
theorem textDecorations_madeOf (h : textDecorations source target = .ok e)
    (hc : ∀ t, target.companion? 0 = some t → type t) :
    e.MadeOf type (· ∈ vocabulary) Literal.IsSound := by
  rcases textDecorations_ok h with rfl | ⟨owner, n, howner, hn, rfl⟩
  · exact Expr.madeOf_null
  · have hnames : ∀ n ∈ textDecorationNames.filterMap Prod.snd, n ∈ vocabulary := by decide
    exact Expr.madeOf_member.2 ⟨hc owner howner, hnames n hn⟩

/-- A text becomes a string, which is sound whatever it holds. -/
theorem string_madeOf {name : String → Prop} (value : String) :
    (Expr.string value).MadeOf type name Literal.IsSound :=
  Expr.madeOf_literal.2 ⟨trivial, rfl⟩

/-- An image is a call with an address, whose text is a string. -/
theorem imageSource_madeOf (h : imageSource source target = .ok e)
    (hc : ∀ t, target.companion? 0 = some t → type t) (huri : type .uri) (hkind : type .uriKind) :
    e.MadeOf type (· ∈ vocabulary) Literal.IsSound := by
  obtain ⟨image, himage, kind, hk, rfl⟩ := imageSource_ok h
  have hkinds : ∀ kind ∈ ["Absolute", "Relative"], kind ∈ vocabulary := by decide
  refine Expr.madeOf_call.2 ⟨hc image himage, List.forall_mem_singleton.2 ?_⟩
  refine Expr.madeOf_call.2 ⟨huri, List.forall_mem_cons.2 ⟨string_madeOf source, ?_⟩⟩
  exact List.forall_mem_singleton.2 (Expr.madeOf_member.2 ⟨hkind, hkinds kind hk⟩)

/-! ## Lists of numbers -/

/-- Tokens go into a result as they are, and are bounded whatever they hold. -/
theorem raws_madeOf {name : String → Prop} {tokens : List String}
    (h : ∀ token ∈ tokens, Numeric.IsToken token) :
    ∀ e ∈ tokens.map Expr.raw, e.MadeOf type name Literal.IsBounded :=
  List.forall_mem_map.2 fun token htoken => Expr.madeOf_literal.2 (h token htoken)

/-- Coordinates are a call with the tokens of the text. -/
theorem coordinates_madeOf {arity : Arity} (h : coordinates arity source target = .ok e)
    (ht : type target.destination) : e.MadeOf type (· ∈ vocabulary) Literal.IsBounded := by
  rw [coordinates_ok h]
  exact Expr.madeOf_call.2 ⟨ht, raws_madeOf fun _ => Numeric.isToken_of_mem_tokens⟩

/-- The sides are some of the lengths, each as often as it is needed, and nothing else. -/
theorem mem_of_mem_sides {lengths : List String} {length : String} (h : length ∈ sides lengths) :
    length ∈ lengths := by
  unfold sides at h
  split at h
  · simp only [List.mem_cons, List.not_mem_nil, or_false] at h ⊢
    rcases h with h | h | h | h
    exacts [.inl h, .inr h, .inl h, .inr h]
  · exact h

/-- A thickness is a call with tokens of the text. -/
theorem thickness_madeOf (h : thickness source target = .ok e) (ht : type target.destination) :
    e.MadeOf type (· ∈ vocabulary) Literal.IsBounded := by
  rw [thickness_ok h]
  refine Expr.madeOf_call.2 ⟨ht, raws_madeOf fun token htoken => ?_⟩
  exact Numeric.isToken_of_mem_tokens (mem_of_mem_sides htoken)

/-- A matrix is one member, or a call with the tokens of the text. -/
theorem matrix_madeOf (h : matrix source target = .ok e) (ht : type target.destination) :
    e.MadeOf type (· ∈ vocabulary) Literal.IsBounded := by
  rcases matrix_ok h with rfl | rfl
  · exact Expr.madeOf_member.2 ⟨ht, by decide⟩
  · exact Expr.madeOf_call.2 ⟨ht, raws_madeOf fun _ => Numeric.isToken_of_mem_tokens⟩

/-- A point is a call with two tokens. -/
theorem pointCall_madeOf {name : String → Prop} {t : TypeName} {x y : String} (ht : type t)
    (hx : Numeric.IsToken x) (hy : Numeric.IsToken y) :
    (pointCall t x y).MadeOf type name Literal.IsBounded :=
  Expr.madeOf_call.2 ⟨ht, raws_madeOf (List.forall_mem_cons.2 ⟨hx, List.forall_mem_singleton.2 hy⟩)⟩

/-- The points of a list of tokens are made of these, by recursion two by two. A token that is left
over is in no point. -/
theorem pointCalls_madeOf {name : String → Prop} {t : TypeName} {tokens : List String} (ht : type t)
    (h : ∀ token ∈ tokens, Numeric.IsToken token) :
    ∀ e ∈ pointCalls t tokens, e.MadeOf type name Literal.IsBounded := by
  induction tokens using pointCalls.induct with
  | case1 x y rest ih =>
    obtain ⟨hx, hy, hrest⟩ : Numeric.IsToken x ∧ Numeric.IsToken y ∧
        ∀ token ∈ rest, Numeric.IsToken token := by
      simpa [List.forall_mem_cons] using h
    exact List.forall_mem_cons.2 ⟨pointCall_madeOf ht hx hy, ih hrest⟩
  | case2 tokens hne =>
    rw [pointCalls]
    · exact fun _ he => nomatch he
    · exact hne

/-- A collection of points has points for items and no properties. -/
theorem pointCollection_madeOf (h : pointCollection source target = .ok e)
    (ht : type target.destination) (hc : ∀ t, target.companion? 0 = some t → type t) :
    e.MadeOf type (· ∈ vocabulary) Literal.IsBounded := by
  rcases pointCollection_ok h with rfl | ⟨t, hpoint, rfl⟩
  · exact Expr.madeOf_collection.2 ⟨ht, List.forall_mem_nil _⟩
  · exact Expr.madeOf_collection.2
      ⟨ht, pointCalls_madeOf (hc t hpoint) fun _ => Numeric.isToken_of_mem_tokens⟩

/-- A key spline has two points for properties and no items, or nothing at all, so that it does not
have two blocks. -/
theorem keySpline_madeOf (h : keySpline source target = .ok e) (ht : type target.destination)
    (hc : ∀ t, target.companion? 0 = some t → type t) :
    e.MadeOf type (· ∈ vocabulary) Literal.IsBounded := by
  rcases keySpline_ok h with rfl | ⟨t, x₁, y₁, x₂, y₂, hpoint, htokens, rfl⟩
  · exact Expr.madeOf_call.2 ⟨ht, List.forall_mem_nil _⟩
  · have htoken : ∀ token ∈ [x₁, y₁, x₂, y₂], Numeric.IsToken token := fun token hmem =>
      Numeric.isToken_of_mem_tokens (htokens ▸ hmem)
    simp only [List.forall_mem_cons] at htoken
    obtain ⟨hx₁, hy₁, hx₂, hy₂, -⟩ := htoken
    have hname₁ : "ControlPoint1" ∈ vocabulary := by decide
    have hname₂ : "ControlPoint2" ∈ vocabulary := by decide
    refine Expr.madeOf_construct.2 ⟨ht, .inr rfl, List.forall_mem_nil _,
      List.forall_mem_cons.2 ⟨⟨hname₁, ?_⟩, List.forall_mem_singleton.2 ⟨hname₂, ?_⟩⟩,
      List.forall_mem_nil _⟩
    · exact pointCall_madeOf (hc t hpoint) hx₁ hy₁
    · exact pointCall_madeOf (hc t hpoint) hx₂ hy₂

end Reading

namespace Grammar

/-! ## All grammars -/

/-- Whether a grammar is one of lists of numbers, whose tokens are not looked into. -/
def listsNumbers : Grammar → Bool
  | point | size | rect | matrix | transform | pointCollection | doubleCollection | thickness
  | cornerRadius | keySpline => true
  | _ => false

/-- What a result may have for the name of a member, a method or a property: one of the vocabulary.
A cursor is a member that the text names. -/
def Spells (grammar : Grammar) (name : String) : Prop :=
  match grammar with
  | cursor => True
  | _ => name ∈ vocabulary

/-- What a result may have for a literal: a bounded one, and one that is written as a number where
the grammar looks into its tokens. -/
def Admits (grammar : Grammar) (value : Literal) : Prop :=
  if grammar.listsNumbers then value.IsBounded else value.IsSound

/-- What the result of a reading is made of: the types, names and literals that are admitted for the
grammar. There is one case for each grammar, from the lemmas above. -/
theorem madeOf_of_convert {grammar : Grammar} {source : String} {target : Target} {e : Expr}
    (h : grammar.convert source target = .ok e) :
    e.MadeOf target.Mentions grammar.Spells grammar.Admits := by
  have ht : target.Mentions target.destination := .inl rfl
  have hc (t) (h : target.companion? 0 = some t) : target.Mentions t := .inr (.inl h)
  have hspan : target.Mentions .timeSpan := .inr (.inr (by simp))
  have huri : target.Mentions .uri := .inr (.inr (by simp))
  have hkind : target.Mentions .uriKind := .inr (.inr (by simp))
  unfold convert at h
  cases grammar with
  | color => exact Reading.color_madeOf h ht
  | brush =>
    obtain ⟨t, color, hcolor, hread, rfl⟩ := Reading.wrapped_ok h
    have hmade := Reading.color_madeOf hread (hc t hcolor)
    exact Expr.madeOf_call.2 ⟨ht, List.forall_mem_singleton.2 hmade⟩
  | point | size | rect | cornerRadius => exact Reading.coordinates_madeOf h ht
  | matrix => exact Reading.matrix_madeOf h ht
  | transform =>
    obtain ⟨t, value, hmatrix, hread, rfl⟩ := Reading.wrapped_ok h
    have hmade := Reading.matrix_madeOf hread (hc t hmatrix)
    exact Expr.madeOf_call.2 ⟨ht, List.forall_mem_singleton.2 hmade⟩
  | pointCollection => exact Reading.pointCollection_madeOf h ht hc
  | doubleCollection =>
    cases h
    exact Expr.madeOf_collection.2
      ⟨ht, Reading.raws_madeOf fun _ => Numeric.isToken_of_mem_tokens⟩
  | thickness => exact Reading.thickness_madeOf h ht
  | gridLength => exact Reading.gridLength_madeOf h ht hc
  | timeSpan => exact Reading.timeSpan_madeOf h hspan
  | duration => exact Reading.duration_madeOf h ht hspan
  | keyTime => exact Reading.keyTime_madeOf h ht hspan
  | repeatBehavior => exact Reading.repeatBehavior_madeOf h ht hspan
  | keySpline => exact Reading.keySpline_madeOf h ht hc
  | fontWeight => exact Reading.fontWeight_madeOf h hc
  | fontStyle => exact Reading.fontStyle_madeOf h hc
  | fontStretch => cases h; exact Expr.madeOf_call.2 ⟨ht, List.forall_mem_nil _⟩
  | fontFamily | propertyPath =>
    cases h
    exact Expr.madeOf_call.2 ⟨ht, List.forall_mem_singleton.2 (Reading.string_madeOf _)⟩
  | textDecorations => exact Reading.textDecorations_madeOf h hc
  | imageSource => exact Reading.imageSource_madeOf h hc huri hkind
  | cursor =>
    obtain ⟨owner, howner, rfl⟩ := Reading.cursor_ok h
    exact Expr.madeOf_member.2 ⟨hc owner howner, trivial⟩
  | cacheMode =>
    obtain ⟨owner, howner, rfl⟩ := Reading.cacheMode_ok h
    exact Expr.madeOf_call.2 ⟨hc owner howner, List.forall_mem_nil _⟩
  | geometry => cases h; exact Expr.madeOf_fallback.2 ht

/-- A literal that a result may have is bounded, whatever the grammar. -/
theorem Admits.isBounded {grammar : Grammar} {value : Literal} (h : grammar.Admits value) :
    value.IsBounded := by
  unfold Admits at h
  split at h
  · exact h
  · exact h.1

/-- A result mentions no types but those of its target and of the framework, and no other names but
those that the grammars spell, unless the text names a cursor. Its numbers are finite, single tokens
and in range. No constructor call in it has two blocks, of which only one would be written. -/
theorem convert_parts {grammar : Grammar} {source : String} {target : Target} {e : Expr}
    (h : grammar.convert source target = .ok e) :
    (∀ name ∈ e.typeNames, name = target.destination ∨ target.companion? 0 = some name ∨
      name ∈ [TypeName.timeSpan, .uri, .uriKind]) ∧
    (grammar ≠ .cursor → ∀ name ∈ e.names, name ∈ vocabulary) ∧
    (∀ value, .single value ∈ e.literals → value.isFinite = true) ∧
    (∀ digits, .raw digits ∈ e.literals ∨ .double digits ∈ e.literals →
      digits ≠ "" ∧ ',' ∉ digits.toList ∧ ' ' ∉ digits.toList) ∧
    (∀ value, .long value ∈ e.literals →
      -9223372036854775807 ≤ value.toInt ∧ value.toInt ≤ 9223372036854775807) ∧
    ∀ node ∈ e.nodes, node.hasTwoBlocks = false := by
  have hmade := madeOf_of_convert h
  have hbounded (value) (hv : value ∈ e.literals) : value.IsBounded :=
    (hmade.literals value hv).isBounded
  refine ⟨hmade.typeNames, fun hcursor name hname => ?_, fun value hv => hbounded _ hv,
    fun digits hv => ?_, fun value hv => hbounded _ hv, hmade.blocks⟩
  · have hspells := hmade.names name hname
    cases grammar <;> first | exact hspells | exact absurd rfl hcursor
  · have htoken : Numeric.IsToken digits := by
      rcases hv with hv | hv
      · exact hbounded _ hv
      · exact hbounded _ hv
    refine ⟨htoken.1, fun hc => ?_, fun hc => ?_⟩
    · exact absurd (htoken.2 ',' hc) (by decide)
    · exact absurd (htoken.2 ' ' hc) (by decide)

/-- A key spline has two properties, and its text only goes into the numbers. -/
theorem convert_parts_key_spline :
    ∃ e, keySpline.convert "0 0.5,1 1" ⟨⟨"KeySpline"⟩, [⟨"Point"⟩]⟩ = .ok e ∧
      (∀ name ∈ e.names, name ∈ vocabulary) ∧
      (∀ digits, .raw digits ∈ e.literals ∨ .double digits ∈ e.literals →
        digits ≠ "" ∧ ',' ∉ digits.toList ∧ ' ' ∉ digits.toList) ∧
      ∀ node ∈ e.nodes, node.hasTwoBlocks = false := by
  have hread : keySpline.convert "0 0.5,1 1" ⟨⟨"KeySpline"⟩, [⟨"Point"⟩]⟩ =
      .ok (.construct ⟨"KeySpline"⟩ []
        [("ControlPoint1", .call ⟨"Point"⟩ [.raw "0", .raw "0.5"]),
          ("ControlPoint2", .call ⟨"Point"⟩ [.raw "1", .raw "1"])] []) := rfl
  obtain ⟨-, hnames, -, hdigits, -, hblocks⟩ := convert_parts hread
  exact ⟨_, hread, hnames (by decide), hdigits, hblocks⟩

end Grammar

end MarkupValues
