import Mathlib.Data.List.Basic
import MarkupValues.Json.Reader
import MarkupValues.Proofs.Json.Numbers
import MarkupValues.Proofs.Json.Strings

/-!
# What is written is read back

`Json.read?_write` reads every value back from its text. The proof is by induction on the value
(`Json.recValues`), wherever it stands: what awaits a value is complete with it after its text,
whatever containers are open and whatever follows, unless this could go on with a number
(`Json.read_writeValue`).
-/

namespace MarkupValues.Json

open JsonToken (continuesNumber)
open Text (Stops)

/-! ## Values and their lists -/

/-- Induction over a value: what holds of all items or members of a container holds of the
container. The generated recursor has a motive for each kind of list, this one speaks of the members
of the lists. -/
@[elab_as_elim]
theorem recValues {motive : Json → Prop} (null : motive null)
    (bool : ∀ value, motive (bool value)) (number : ∀ value, motive (number value))
    (string : ∀ text, motive (string text))
    (array : ∀ items, (∀ item ∈ items, motive item) → motive (array items))
    (object : ∀ members, (∀ member ∈ members, motive member.2) → motive (object members))
    (value : Json) : motive value := by
  refine Json.rec (motive_1 := motive) (motive_2 := fun items => ∀ item ∈ items, motive item)
    (motive_3 := fun members => ∀ member ∈ members, motive member.2)
    (motive_4 := fun member => motive member.2) null bool number string array object
    ?_ ?_ ?_ ?_ ?_ value
  · exact fun _ h => nomatch h
  · exact fun _ _ hd tl => List.forall_mem_cons.2 ⟨hd, tl⟩
  · exact fun _ h => nomatch h
  · exact fun _ _ hd tl => List.forall_mem_cons.2 ⟨hd, tl⟩
  · exact fun _ _ h => h

/-- `writeItems`, which is recursive along with `writeValue`, as a plain map over the list. -/
theorem writeItems_eq (items : List Json) : writeItems items = items.map writeValue := by
  induction items with
  | nil => rfl
  | cons item items ih => rw [writeItems, ih, List.map_cons]

/-- The text of a member of an object: its name as a string, a colon and its value. -/
def writeMember (member : Option String × Json) : List Char :=
  writeString member.1 ++ ':' :: writeValue member.2

/-- `writeMembers`, which is recursive along with `writeValue`, as a plain map over the list. -/
theorem writeMembers_eq (members : List (Option String × Json)) :
    writeMembers members = members.map writeMember := by
  induction members with
  | nil => rfl
  | cons member members ih =>
    rw [writeMembers, ih, List.map_cons]
    rfl

/-! ## Reading on -/

namespace Progress

/-- The value read when a text has been gone through, from any progress on. -/
def read (progress : Progress) (cs : List Char) : Option Json :=
  (JsonToken.scan cs).bind progress.run

variable {progress : Progress} {stack : List OpenContainer} {cs rest : List Char}

/-- Reading a text goes on after its first token with the progress that the token makes. -/
theorem read_cons {c : Char} {token : JsonToken} (hspace : JsonToken.isSpace c = false)
    (h : JsonToken.next? c cs = some (token, rest)) (progress : Progress) :
    progress.read (c :: cs) = (progress.step token).bind fun next => next.read rest := by
  have hscan : JsonToken.scan (c :: cs) = (JsonToken.scan rest).map (token :: ·) := by
    rw [JsonToken.scan, if_neg (Bool.eq_false_iff.1 hspace)]
    split
    · next hnone => rw [hnone] at h; cases h
    · next hsome => rw [hsome] at h; cases h; rfl
  unfold read
  rw [hscan]
  cases JsonToken.scan rest <;> cases hstep : progress.step token <;> simp [run, hstep]

/-- Progress that awaits a value inside the open containers: after something else, or as the first
item of an array. -/
inductive Awaits : Progress → List OpenContainer → Prop
  | value (stack : List OpenContainer) : Awaits (.value stack) stack
  | firstItem (stack : List OpenContainer) : Awaits (.itemOrEnd stack) (.array [] :: stack)

/-- Any token but the end of an array starts a value that is awaited. -/
theorem Awaits.step_eq (h : progress.Awaits stack) {token : JsonToken}
    (htoken : token ≠ .closeArray) : progress.step token = startValue stack token := by
  cases h with
  | value => rfl
  | firstItem => cases token <;> first | rfl | exact absurd rfl htoken

/-- Progress that awaits the name of a member of an object, after others or as the first one. -/
inductive AwaitsName : Progress → List (Option String × Json) → List OpenContainer → Prop
  | next (members : List (Option String × Json)) (stack : List OpenContainer) :
    AwaitsName (.memberName members stack) members stack
  | first (stack : List OpenContainer) : AwaitsName (.nameOrEnd stack) [] stack

/-- A string is the name of a member where one is awaited, and a colon is awaited next. -/
theorem AwaitsName.step_string {members : List (Option String × Json)}
    (h : progress.AwaitsName members stack) (text : Option String) :
    progress.step (.string text) = some (.colon members text stack) := by
  cases h <;> rfl

end Progress

open Progress (Awaits AwaitsName)

/-- A value that is complete after its text, wherever it is awaited and whatever follows, unless
this could go on with a number. -/
def IsReadBack (v : Json) : Prop :=
  ∀ ⦃progress : Progress⦄ ⦃stack : List OpenContainer⦄ ⦃rest : List Char⦄, progress.Awaits stack →
    Stops continuesNumber rest →
      progress.read (writeValue v ++ rest) = (Progress.complete v stack).read rest

section
variable {progress : Progress} {stack : List OpenContainer} {rest : List Char}

/-- A token that is a value is the whole text of this value. -/
theorem read_of_token {v : Json} {token : JsonToken} {c : Char} {cs : List Char}
    (h : progress.Awaits stack) (hspace : JsonToken.isSpace c = false)
    (hnext : JsonToken.next? c cs = some (token, rest)) (htoken : token ≠ .closeArray)
    (hstart : startValue stack token = some (.complete v stack)) :
    progress.read (c :: cs) = (Progress.complete v stack).read rest := by
  rw [Progress.read_cons hspace hnext, h.step_eq htoken, hstart, Option.bind_some]

/-- A value is followed by a mark of punctuation, which the innermost container takes. -/
theorem IsReadBack.read_mark {v : Json} (hv : v.IsReadBack) (h : progress.Awaits stack) {c : Char}
    {token : JsonToken} (hnumber : continuesNumber c = false) (hspace : JsonToken.isSpace c = false)
    (hnext : JsonToken.next? c rest = some (token, rest)) :
    progress.read (writeValue v ++ c :: rest) =
      (continueContainer v stack token).bind fun next => next.read rest := by
  rw [hv h (Text.stops_cons.2 hnumber), Progress.read_cons hspace hnext]
  rfl

/-! ## Containers -/

/-- The items of an array are read one after another, up to the end of the array. The items before
them are kept in reverse, and the induction is on the items that are left. -/
theorem read_items {item : Json} {items : List Json} (hread : ∀ v ∈ item :: items, v.IsReadBack)
    {before : List Json} (h : progress.Awaits (.array before :: stack)) :
    progress.read ([','].intercalate ((item :: items).map writeValue) ++ ']' :: rest) =
      (Progress.complete (array (before.reverse ++ item :: items)) stack).read rest := by
  induction items generalizing item before progress with
  | nil =>
    have hend := (hread item (.head _)).read_mark h rfl rfl
      (rfl : JsonToken.next? ']' rest = some (.closeArray, rest))
    rw [List.map_singleton, List.intercalate_singleton, hend, ← List.reverse_cons]
    rfl
  | cons next items ih =>
    obtain ⟨hitem, hitems⟩ := List.forall_mem_cons.1 hread
    have hnext := hitem.read_mark h rfl rfl (rfl : JsonToken.next? ',' ([','].intercalate
      ((next :: items).map writeValue) ++ ']' :: rest) = some (.comma, _))
    have hgoes := ih hitems (.value (.array (item :: before) :: stack))
    rw [List.reverse_cons, List.append_assoc, List.singleton_append] at hgoes
    rw [List.map_cons, List.map_cons, List.intercalate_cons_cons, List.append_assoc,
      List.append_assoc, List.singleton_append]
    exact hnext.trans hgoes

/-- The name of a member is read together with the colon after it. -/
theorem read_name {name : Option String} {members : List (Option String × Json)}
    (h : progress.AwaitsName members stack) (cs : List Char) :
    progress.read (writeString name ++ ':' :: cs) =
      (Progress.value (.object members name :: stack)).read cs := by
  obtain ⟨text, htext, hnext⟩ := JsonToken.next?_writeString name (':' :: cs)
  rw [htext, Progress.read_cons rfl hnext, h.step_string, Option.bind_some,
    Progress.read_cons rfl (rfl : JsonToken.next? ':' cs = some (.colon, cs))]
  rfl

/-- The members of an object are read one after another, up to the end of the object, each with its
name, the colon and its value. The induction is on the members that are left. -/
theorem read_members {member : Option String × Json} {members : List (Option String × Json)}
    (hread : ∀ m ∈ member :: members, m.2.IsReadBack) {before : List (Option String × Json)}
    (h : progress.AwaitsName before stack) :
    progress.read ([','].intercalate ((member :: members).map writeMember) ++ '}' :: rest) =
      (Progress.complete (object (before.reverse ++ member :: members)) stack).read rest := by
  have hawaits := Awaits.value (.object before member.1 :: stack)
  induction members generalizing member before progress with
  | nil =>
    have hend := (hread member (.head _)).read_mark hawaits rfl rfl
      (rfl : JsonToken.next? '}' rest = some (.closeObject, rest))
    rw [List.map_singleton, List.intercalate_singleton, writeMember, List.append_assoc,
      List.cons_append, read_name h, hend, ← List.reverse_cons]
    rfl
  | cons next members ih =>
    obtain ⟨hmember, hmembers⟩ := List.forall_mem_cons.1 hread
    have hnext := hmember.read_mark hawaits rfl rfl (rfl : JsonToken.next? ',' ([','].intercalate
      ((next :: members).map writeMember) ++ '}' :: rest) = some (.comma, _))
    have hgoes := ih hmembers (.next (member :: before) stack) (.value _)
    rw [List.reverse_cons, List.append_assoc, List.singleton_append] at hgoes
    rw [List.map_cons, List.map_cons, List.intercalate_cons_cons, List.append_assoc,
      List.append_assoc, List.singleton_append, writeMember, List.append_assoc, List.cons_append,
      read_name h]
    exact hnext.trans hgoes

/-! ## Values -/

/-- One of the three words of JSON, cut off from what follows it. -/
theorem isPrefixOf?_append (word rest : List Char) :
    word.isPrefixOf? (word ++ rest) = some rest :=
  List.isPrefixOf?_eq_some_iff_append_eq.2 rfl

/-- Every value is complete after its text, wherever it is awaited. The induction is over the value,
with a second one over the items or the members of each container. -/
theorem isReadBack (v : Json) : v.IsReadBack := by
  induction v using recValues with
  | null =>
    intro progress stack rest h _
    have hnext : JsonToken.next? 'n' ("ull".toList ++ rest) = some (.null, rest) :=
      congrArg (Option.map _) (isPrefixOf?_append "ull".toList rest)
    exact read_of_token h rfl hnext nofun rfl
  | bool value =>
    intro progress stack rest h _
    cases value with
    | true =>
      have hnext : JsonToken.next? 't' ("rue".toList ++ rest) = some (.bool true, rest) :=
        congrArg (Option.map _) (isPrefixOf?_append "rue".toList rest)
      exact read_of_token h rfl hnext nofun rfl
    | false =>
      have hnext : JsonToken.next? 'f' ("alse".toList ++ rest) = some (.bool false, rest) :=
        congrArg (Option.map _) (isPrefixOf?_append "alse".toList rest)
      exact read_of_token h rfl hnext nofun rfl
  | number value =>
    intro progress stack rest h hrest
    obtain ⟨c, cs, htext, hspace, hnext⟩ := JsonToken.next?_writeNumber value hrest
    rw [writeValue, htext]
    exact read_of_token h hspace hnext nofun rfl
  | string text =>
    intro progress stack rest h _
    obtain ⟨cs, htext, hnext⟩ := JsonToken.next?_writeString text rest
    rw [writeValue, htext]
    exact read_of_token h rfl hnext nofun rfl
  | array items ih =>
    intro progress stack rest h _
    have hopen : progress.step .openArray = some (.itemOrEnd stack) := h.step_eq nofun
    rw [writeValue, writeItems_eq, List.cons_append, List.cons_append, List.append_assoc,
      List.singleton_append, Progress.read_cons rfl
        (rfl : JsonToken.next? '[' _ = some (.openArray, _)), hopen, Option.bind_some]
    cases items with
    | nil =>
      rw [List.map_nil, List.intercalate_nil, List.nil_append,
        Progress.read_cons rfl (rfl : JsonToken.next? ']' rest = some (.closeArray, rest))]
      rfl
    | cons item items => exact read_items ih (.firstItem stack)
  | object members ih =>
    intro progress stack rest h _
    have hopen : progress.step .openObject = some (.nameOrEnd stack) := h.step_eq nofun
    rw [writeValue, writeMembers_eq, List.cons_append, List.cons_append, List.append_assoc,
      List.singleton_append, Progress.read_cons rfl
        (rfl : JsonToken.next? '{' _ = some (.openObject, _)), hopen, Option.bind_some]
    cases members with
    | nil =>
      rw [List.map_nil, List.intercalate_nil, List.nil_append,
        Progress.read_cons rfl (rfl : JsonToken.next? '}' rest = some (.closeObject, rest))]
      rfl
    | cons member members => exact read_members ih (.first stack)

end

/-- Every value is read back from its text, as what is read alone. -/
theorem read?_write (v : Json) : read? v.write = some v := by
  have hread := v.isReadBack (.value []) Text.stops_nil
  rw [List.append_nil] at hread
  have hend : (Progress.complete v []).read [] = some v := by
    rw [Progress.read, JsonToken.scan]
    rfl
  rw [read?, write, String.toList_ofList]
  exact hread.trans hend

end MarkupValues.Json
