import Mathlib.Data.List.Forall2
import MarkupValues.Expr.Json
import MarkupValues.Json.Writer
import MarkupValues.Proofs.Expr.Nodes
import MarkupValues.Proofs.Json.Fields
import MarkupValues.Proofs.Json.Nesting
import MarkupValues.Proofs.Json.RoundTrip

/-!
# Expressions kept in JSON

`Expr.WrittenAs` relates an expression to the values of JSON that stand for it: each of its records,
at any depth, may have its fields in any order and among members of other names, or be the array of
its fields. All of these are read as the expression, if its own JSON is within the limit for nested
containers (`Expr.ofJsonText?_of_writtenAs`). The proof is by induction on the expression, with a
lemma for each kind of node that has others below it (`Expr.isReadBack`).
-/

namespace MarkupValues

open Json (IsRecord)

/-! ## Nesting of records and variants -/

namespace Json

/-- A variant is one container around its value. -/
theorem depth_variant_le {name : String} {v : Json} {d : Nat} :
    (variant name v).depth ≤ d ↔ ∃ k, d = k + 1 ∧ v.depth ≤ k := by
  simp [variant, depth_object_le]

/-- A record is one container around the values of its fields. -/
theorem depth_record_le {names : List String} {values : List Json} {d : Nat}
    (hlength : values.length = names.length) :
    (record names values).depth ≤ d ↔ ∃ k, d = k + 1 ∧ ∀ v ∈ values, v.depth ≤ k := by
  have hvalues : ((names.map some).zip values).map Prod.snd = values :=
    List.map_snd_zip (by rw [hlength, List.length_map])
  rw [record, depth_object_le]
  refine exists_congr fun k => and_congr_right fun _ => ?_
  rw [← List.forall_mem_map (f := Prod.snd) (P := fun v : Json => v.depth ≤ k), hvalues]

end Json

/-! ## Ways to write an expression -/

namespace Expr

section
variable (single : Binary32 → Json)

mutual

/-- A value of JSON that an expression may be written as. Every record in it has one of the forms of
a record: an object of its fields in any order, among others, or an array of their values. -/
inductive WrittenAs : Expr → Json → Prop
  | construct {type : TypeName} {args items : List Expr} {initializers : List (String × Expr)}
      {argValues initializerValues itemValues : List Json} {v : Json}
      (hargs : List.Forall₂ WrittenAs args argValues)
      (hinitializers : List.Forall₂ InitializerWrittenAs initializers initializerValues)
      (hitems : List.Forall₂ WrittenAs items itemValues)
      (hrecord : IsRecord ["type_name", "args", "initializers", "items"]
        [.ofString type.text, .array argValues, .array initializerValues, .array itemValues] v) :
    WrittenAs (construct type args initializers items) (.variant "New" v)
  | member {owner : TypeName} {name : String} {v : Json}
      (hrecord : IsRecord ["owner", "member"] [.ofString owner.text, .ofString name] v) :
    WrittenAs (member owner name) (.variant "Member" v)
  | invoke {owner : TypeName} {method : String} {args : List Expr} {argValues : List Json}
      {v : Json} (hargs : List.Forall₂ WrittenAs args argValues)
      (hrecord : IsRecord ["owner", "method", "args"]
        [.ofString owner.text, .ofString method, .array argValues] v) :
    WrittenAs (invoke owner method args) (.variant "Invoke" v)
  | literal (value : Literal) : WrittenAs (literal value) (.variant "Literal" (value.toJson single))
  | null : WrittenAs null (.ofString "Null")
  | fallback {target : TypeName} {source : String} {v : Json}
      (hrecord : IsRecord ["target", "source"] [.ofString target.text, .ofString source] v) :
    WrittenAs (fallback target source) (.variant "Fallback" v)

/-- A value of JSON that the name and the expression of a property may be written as. -/
inductive InitializerWrittenAs : String × Expr → Json → Prop
  | pair {name : String} {e : Expr} {v : Json} (h : WrittenAs e v) :
    InitializerWrittenAs (name, e) (.array [.ofString name, v])

end

/-- `listToJson` in the natural per-element form. -/
theorem listToJson_eq (es : List Expr) : listToJson single es = es.map (toJson single) := by
  induction es with
  | nil => rfl
  | cons e es ih => rw [listToJson, ih, List.map_cons]

/-- `initializersToJson` in the natural per-element form. -/
theorem initializersToJson_eq (ps : List (String × Expr)) : initializersToJson single ps =
    ps.map fun p => .array [.ofString p.1, p.2.toJson single] := by
  induction ps with
  | nil => rfl
  | cons p ps ih => rw [initializersToJson, ih, List.map_cons]

/-- What an expression is written as is one of the ways to write it, so that what is shown of all of
them holds of its own text. -/
theorem writtenAs_toJson (e : Expr) : e.WrittenAs single (e.toJson single) := by
  have hlist {es : List Expr} (h : ∀ e ∈ es, e.WrittenAs single (e.toJson single)) :
      List.Forall₂ (WrittenAs single) es (listToJson single es) := by
    rw [listToJson_eq, List.forall₂_map_right_iff, List.forall₂_same]
    exact h
  induction e using recNodes with
  | construct type args initializers items ihargs ihinitializers ihitems =>
    have hinitializers : List.Forall₂ (InitializerWrittenAs single) initializers
        (initializersToJson single initializers) := by
      rw [initializersToJson_eq, List.forall₂_map_right_iff, List.forall₂_same]
      exact fun p hp => .pair (ihinitializers p hp)
    exact .construct (hlist ihargs) hinitializers (hlist ihitems) (Json.isRecord_record _ _)
  | member owner name => exact .member (Json.isRecord_record _ _)
  | invoke owner method args ihargs => exact .invoke (hlist ihargs) (Json.isRecord_record _ _)
  | literal value => exact .literal value
  | null => exact .null
  | fallback target source => exact .fallback (Json.isRecord_record _ _)

end

/-! ## Lists -/

/-- Items that are read one by one are read as a list, in the same order. -/
theorem mapM_of_forall₂ {α β : Type} {f : β → Option α} {as : List α} {bs : List β}
    (h : List.Forall₂ (fun a b => f b = some a) as bs) : bs.mapM f = some as := by
  induction h with
  | nil => rfl
  | cons ha _ ih =>
    rw [List.mapM_cons, ha, ih]
    rfl

/-- Lists that are related item by item are related so by whatever the relation of their items
means for them. -/
theorem forall₂_of_forall_mem {α β : Type} {R S : α → β → Prop} {as : List α} {bs : List β}
    (h : ∀ a ∈ as, ∀ b, R a b → S a b) (hR : List.Forall₂ R as bs) : List.Forall₂ S as bs :=
  ((List.forall₂_and_left as bs).2 ⟨h, hR⟩).imp fun _ b hab => hab.1 b hab.2

variable {read : Json → Option Expr} {values : List Json}

/-- An array of expressions is read when each of its items is. -/
theorem list?_of_forall₂ {es : List Expr}
    (h : List.Forall₂ (fun e v => read v = some e) es values) :
    list? read (.array values) = some es :=
  mapM_of_forall₂ h

/-- An array of properties is read when each of them is an array of a name and an expression that is
read. -/
theorem initializers?_of_forall₂ {ps : List (String × Expr)}
    (h : List.Forall₂ (fun p v => ∃ w, v = .array [.ofString p.1, w] ∧ read w = some p.2) ps
      values) :
    initializers? read (.array values) = some ps := by
  refine mapM_of_forall₂ (h.imp ?_)
  rintro ⟨name, e⟩ v ⟨w, rfl, hread⟩
  show (read w).map (fun e => (name, e)) = some (name, e)
  rw [hread, Option.map_some]

end Expr

/-! ## Literals -/

/-- A whole number is written as a number of JSON that is read as itself, its sign included. -/
theorem Json.exists_ofInt_eq (n : Int) :
    ∃ number : JsonNumber, ofInt n = .number number ∧ number.int? = some n := by
  refine ⟨_, rfl, ?_⟩
  have hsign : (decide (n < 0) && n.natAbs == 0) = false := by
    rw [Bool.and_eq_false_iff, decide_eq_false_iff_not, beq_eq_false_iff_ne]
    omega
  have hvalue : (if decide (n < 0) = true then -(n.natAbs : Int) else n.natAbs) = n := by
    simp only [decide_eq_true_eq]
    split <;> omega
  rw [JsonNumber.int?, hsign, hvalue]
  rfl

/-- A literal that is no number of single precision is read back from its variant: texts as they
are, whole numbers within their bounds. -/
theorem Literal.exists_toJson_eq (single : Binary32 → Json) {value : Literal}
    (h : ∀ x, value ≠ .single x) :
    ∃ name v, value.toJson single = .variant name v ∧ ofVariant? name v = some value := by
  cases value with
  | raw digits => exact ⟨"Raw", _, rfl, rfl⟩
  | byte value =>
    obtain ⟨number, hnumber, hint⟩ := Json.exists_ofInt_eq value.toNat
    have hrange : (0 : Int) ≤ value.toNat ∧ (value.toNat : Int) < UInt8.size :=
      ⟨Int.natCast_nonneg _, Int.ofNat_lt.2 value.toNat_lt_size⟩
    refine ⟨"Byte", .number number, by rw [toJson, hnumber], ?_⟩
    rw [ofVariant?, hint, Option.bind_some, if_pos hrange, Int.toNat_natCast, UInt8.ofNat_toNat]
  | single x => exact absurd rfl (h x)
  | double digits => exact ⟨"Double", _, rfl, rfl⟩
  | long value =>
    obtain ⟨number, hnumber, hint⟩ := Json.exists_ofInt_eq value.toInt
    refine ⟨"Long", .number number, by rw [toJson, hnumber], ?_⟩
    rw [ofVariant?, hint, Option.bind_some, if_pos ⟨value.minValue_le_toInt, value.toInt_le⟩,
      Int64.ofInt_toInt]
  | string value => exact ⟨"Str", _, rfl, rfl⟩

/-! ## Expressions -/

namespace Expr

variable {single : Binary32 → Json} {v : Json} {d : Nat}

/-- An array of expressions is one container around the deepest of them. -/
theorem depth_listToJson_le {es : List Expr} : (Json.array (listToJson single es)).depth ≤ d ↔
    ∃ k, d = k + 1 ∧ ∀ e ∈ es, (e.toJson single).depth ≤ k := by
  rw [listToJson_eq, Json.depth_array_le]
  simp only [List.forall_mem_map]

/-- An array of properties is two containers around the deepest of their expressions: the array, and
the pair of the name and the expression. -/
theorem depth_initializersToJson_le {ps : List (String × Expr)} :
    (Json.array (initializersToJson single ps)).depth ≤ d ↔
      ∃ k, d = k + 1 ∧ ∀ p ∈ ps, ∃ j, k = j + 1 ∧ (p.2.toJson single).depth ≤ j := by
  have hpair (p : String × Expr) (k : Nat) :
      (Json.array [.ofString p.1, p.2.toJson single]).depth ≤ k ↔
        ∃ j, k = j + 1 ∧ (p.2.toJson single).depth ≤ j := by
    rw [Json.depth_array_le]
    simp [Json.ofString, Json.depth]
  rw [initializersToJson_eq, Json.depth_array_le]
  simp only [List.forall_mem_map, hpair]

/-- The parts of a constructor call are three containers deeper than the call: the variant, the
record and the array of the parts. Properties have one more between this array and an expression in
it. -/
theorem depth_construct {type : TypeName} {args items : List Expr}
    {initializers : List (String × Expr)}
    (h : ((construct type args initializers items).toJson single).depth ≤ d) :
    ∃ k, d = k + 3 ∧ (∀ e ∈ args, (e.toJson single).depth ≤ k) ∧
      (∀ p ∈ initializers, ∃ j, k = j + 1 ∧ (p.2.toJson single).depth ≤ j) ∧
      ∀ e ∈ items, (e.toJson single).depth ≤ k := by
  rw [toJson, Json.depth_variant_le] at h
  obtain ⟨_, rfl, hrecord⟩ := h
  obtain ⟨_, rfl, hfields⟩ := (Json.depth_record_le rfl).1 hrecord
  simp only [List.forall_mem_cons, depth_listToJson_le, depth_initializersToJson_le] at hfields
  obtain ⟨-, ⟨k, rfl, hargs⟩, ⟨_, hk, hinitializers⟩, ⟨_, hk', hitems⟩, -⟩ := hfields
  cases hk
  cases hk'
  exact ⟨k, rfl, hargs, hinitializers, hitems⟩

/-- The arguments of a call are three containers deeper than the call: the variant, the record and
the array of the arguments. -/
theorem depth_invoke {owner : TypeName} {method : String} {args : List Expr}
    (h : ((invoke owner method args).toJson single).depth ≤ d) :
    ∃ k, d = k + 3 ∧ ∀ e ∈ args, (e.toJson single).depth ≤ k := by
  rw [toJson, Json.depth_variant_le] at h
  obtain ⟨_, rfl, hrecord⟩ := h
  obtain ⟨_, rfl, hfields⟩ := (Json.depth_record_le rfl).1 hrecord
  simp only [List.forall_mem_cons, depth_listToJson_le] at hfields
  obtain ⟨-, -, ⟨k, rfl, hargs⟩, -⟩ := hfields
  exact ⟨k, rfl, hargs⟩

/-- A record in a variant is two containers, whatever its values are. -/
theorem depth_variant_record {name : String} {names : List String} {values : List Json}
    (hlength : values.length = names.length)
    (h : (Json.variant name (.record names values)).depth ≤ d) : ∃ k, d = k + 2 := by
  obtain ⟨_, rfl, hrecord⟩ := Json.depth_variant_le.1 h
  obtain ⟨k, rfl, -⟩ := (Json.depth_record_le hlength).1 hrecord
  exact ⟨k, rfl⟩

/-! ## Reading -/

/-- An expression without literals of single precision, which are written as rounded numbers of
JSON. -/
def HasNoSingles (e : Expr) : Prop :=
  ∀ value ∈ e.literals, ∀ x, value ≠ .single x

variable (single) in
/-- An expression that is read from whatever it is written as, where as many containers may be
opened as its own JSON has inside one another. The induction over the tree carries this form of the
statement. -/
def IsReadBack (e : Expr) : Prop :=
  e.HasNoSingles → ∀ ⦃d v⦄, (e.toJson single).depth ≤ d → e.WrittenAs single v →
    ofJson? d v = some e

variable {type owner : TypeName} {method : String} {args items es : List Expr}
  {initializers ps : List (String × Expr)} {k : Nat}

/-- A list of expressions that are read back is read back, when the limit leaves room for each of
them. -/
theorem list?_of_isReadBack (h : ∀ e ∈ es, e.IsReadBack single)
    (hsingles : ∀ e ∈ es, e.HasNoSingles) (hdepth : ∀ e ∈ es, (e.toJson single).depth ≤ k)
    (hwritten : List.Forall₂ (WrittenAs single) es values) :
    list? (ofJson? k) (.array values) = some es := by
  refine list?_of_forall₂ (forall₂_of_forall_mem ?_ hwritten)
  intro e he v hv
  exact h e he (hsingles e he) (hdepth e he) hv

/-- Properties whose expressions are read back are read back, with one container less to open for
the expressions than for the pairs. -/
theorem initializers?_of_isReadBack (h : ∀ p ∈ ps, p.2.IsReadBack single)
    (hsingles : ∀ p ∈ ps, p.2.HasNoSingles)
    (hdepth : ∀ p ∈ ps, ∃ j, k = j + 1 ∧ (p.2.toJson single).depth ≤ j)
    (hwritten : List.Forall₂ (InitializerWrittenAs single) ps values) {read : Json → Option Expr}
    (hread : ∀ j v, k = j + 1 → read v = ofJson? j v) :
    initializers? read (.array values) = some ps := by
  refine initializers?_of_forall₂ (forall₂_of_forall_mem ?_ hwritten)
  intro p hp _ hpair
  obtain ⟨j, hj, hle⟩ := hdepth p hp
  cases hpair with
  | pair hv =>
    refine ⟨_, rfl, ?_⟩
    rw [hread j _ hj]
    exact h _ hp (hsingles _ hp) hle hv

/-- A constructor call with parts that are read back is read back, from its four fields in whichever
form of a record. The limit that is left for the parts comes from `depth_construct`. -/
theorem isReadBack_construct (hargs : ∀ e ∈ args, e.IsReadBack single)
    (hinitializers : ∀ p ∈ initializers, p.2.IsReadBack single)
    (hitems : ∀ e ∈ items, e.IsReadBack single) :
    (construct type args initializers items).IsReadBack single := by
  intro hsingles d v hdepth hwritten
  obtain ⟨-, hargSingles, hinitializerSingles, hitemSingles⟩ :=
    forall_mem_collect_construct.1 hsingles
  obtain ⟨k, rfl, hargDepth, hinitializerDepth, hitemDepth⟩ := depth_construct hdepth
  cases hwritten with
  | construct hargsWritten hinitializersWritten hitemsWritten hrecord =>
    have hargsRead := list?_of_isReadBack hargs hargSingles hargDepth hargsWritten
    have hitemsRead := list?_of_isReadBack hitems hitemSingles hitemDepth hitemsWritten
    rw [Json.variant, ofJson?, hrecord.fields?_eq (by decide) rfl]
    simp only [Json.ofString, hargsRead, hitemsRead]
    rw [initializers?_of_isReadBack hinitializers hinitializerSingles hinitializerDepth
      hinitializersWritten (by rintro j v rfl; rfl)]
    rfl

/-- A call with arguments that are read back is read back. -/
theorem isReadBack_invoke (hargs : ∀ e ∈ args, e.IsReadBack single) :
    (invoke owner method args).IsReadBack single := by
  intro hsingles d v hdepth hwritten
  obtain ⟨-, hargSingles⟩ := forall_mem_collect_invoke.1 hsingles
  obtain ⟨k, rfl, hargDepth⟩ := depth_invoke hdepth
  cases hwritten with
  | invoke hargsWritten hrecord =>
    have hargsRead := list?_of_isReadBack hargs hargSingles hargDepth hargsWritten
    rw [Json.variant, ofJson?, hrecord.fields?_eq (by decide) rfl]
    simp only [Json.ofString, hargsRead]
    rfl

/-- Every expression is read back: each node by its record, the nodes below it by induction over the
tree. A node without nodes below it needs room for its own containers alone. -/
theorem isReadBack (e : Expr) : e.IsReadBack single := by
  induction e using recNodes with
  | construct type args initializers items ihargs ihinitializers ihitems =>
    exact isReadBack_construct ihargs ihinitializers ihitems
  | invoke owner method args ihargs => exact isReadBack_invoke ihargs
  | member owner name =>
    intro _ d v hdepth hwritten
    obtain ⟨k, rfl⟩ := depth_variant_record rfl hdepth
    cases hwritten with
    | member hrecord =>
      rw [Json.variant, ofJson?, hrecord.fields?_eq (by decide) rfl]
      rfl
  | fallback target source =>
    intro _ d v hdepth hwritten
    obtain ⟨k, rfl⟩ := depth_variant_record rfl hdepth
    cases hwritten with
    | fallback hrecord =>
      rw [Json.variant, ofJson?, hrecord.fields?_eq (by decide) rfl]
      rfl
  | literal value =>
    intro hsingles d v hdepth hwritten
    have hvalue : value ∈ (literal value).literals := by simp [literals]
    obtain ⟨name, w, hjson, hread⟩ := value.exists_toJson_eq single (hsingles value hvalue)
    rw [toJson, hjson, Json.depth_variant_le] at hdepth
    obtain ⟨_, rfl, hinner⟩ := hdepth
    obtain ⟨k, rfl, -⟩ := Json.depth_variant_le.1 hinner
    cases hwritten
    rw [hjson, Json.variant, Json.variant, ofJson?, hread, Option.map_some]
  | null =>
    intro _ d v _ hwritten
    cases hwritten
    rw [Json.ofString, ofJson?, if_pos rfl]

/-- An expression without numbers of single precision, whose JSON is within the limit for nested
containers, is read back from its text. It is also read from any other text in which its records
have their fields in another order, other members besides, or the form of arrays. -/
theorem ofJsonText?_of_writtenAs (single : Binary32 → Json) {e : Expr} (hsingles : e.HasNoSingles)
    (hdepth : (e.toJson single).depth ≤ nestingLimit) :
    ofJsonText? (e.toJsonText single) = some e ∧
      ∀ v, e.WrittenAs single v → ofJsonText? v.write = some e ∧
        ∀ text, Json.read? text = some v → ofJsonText? text = some e := by
  have hread {v : Json} (hv : e.WrittenAs single v) {text : String}
      (htext : Json.read? text = some v) : ofJsonText? text = some e := by
    rw [ofJsonText?, htext, Option.bind_some, e.isReadBack hsingles hdepth hv]
  refine ⟨hread (writtenAs_toJson single e) (Json.read?_write _), fun v hv => ⟨?_, ?_⟩⟩
  · exact hread hv (Json.read?_write v)
  · exact fun text htext => hread hv htext

/-- A constructor call as an array, with a record inside that has its fields in another order and a
member besides. -/
theorem ofJsonText?_of_writtenAs_array :
    ofJsonText? ("\x7b\"New\":[\"A\",[\x7b\"Literal\":\x7b\"Long\":-1\x7d\x7d]," ++
        "[[\"P\",\x7b\"Member\":\x7b\"member\":\"D\",\"note\":[null],\"owner\":\"C\"\x7d\x7d]]," ++
        "[\"Null\"]]\x7d") =
      some (.construct ⟨"A"⟩ [.literal (.long (-1))] [("P", .member ⟨"C"⟩ "D")] [.null]) := by
  have hmember : (member ⟨"C"⟩ "D").WrittenAs (fun _ => .null) (.variant "Member"
      (.object [(some "member", .ofString "D"), (some "note", .array [.null]),
        (some "owner", .ofString "C")])) := by
    have hnote : Json.HasOtherNames ["owner", "member"] [(some "note", .array [.null])] := by
      intro member hmember
      cases List.mem_singleton.1 hmember
      exact ⟨"note", by decide, rfl⟩
    exact .member (.object hnote (List.perm_append_singleton _ [_, _]))
  have hread := (ofJsonText?_of_writtenAs (fun _ => .null)
    (e := .construct ⟨"A"⟩ [.literal (.long (-1))] [("P", .member ⟨"C"⟩ "D")] [.null]) ?_ ?_).2 _
    (.construct (.cons (.literal _) .nil) (.cons (.pair hmember) .nil) (.cons .null .nil) .array)
  · exact hread.1
  · intro value hvalue x
    cases List.mem_singleton.1 hvalue
    exact nofun
  · decide

end Expr

end MarkupValues
