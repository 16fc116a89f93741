import Mathlib.Data.List.Basic
import MarkupValues.Json.Fields

/-!
# The fields of a record

What a record is read from is the members of its object that have the name of a field. So neither
the order of the members matters (`Json.optionalFields?_perm`), nor do members of other names
(`Json.optionalFields?_append`); so a record has the values it is written with, in whichever of its
forms (`Json.IsRecord.fields?_eq`). A field that is removed is missing, while the others keep their
values (`Json.named_removing`).
-/

namespace MarkupValues.Json

variable {name : String} {names : List String} {members further : List (Option String × Json)}

/-- A list is mapped alike by functions that agree on its items. -/
theorem mapM_congr {α β : Type} {f g : α → Option β} {xs : List α} (h : ∀ x ∈ xs, f x = g x) :
    xs.mapM f = xs.mapM g := by
  induction xs with
  | nil => rfl
  | cons x xs ih =>
    obtain ⟨hx, hxs⟩ := List.forall_mem_cons.1 h
    rw [List.mapM_cons, List.mapM_cons, hx, ih hxs]

/-! ## Order -/

/-- The values of a name are those of the members in another order, in another order. -/
theorem named_perm {members' : List (Option String × Json)} (h : members.Perm members')
    (name : String) : (named name members).Perm (named name members') :=
  (h.filter _).map _

/-- Where at most one value is allowed there is no order: none and one stay, and more are refused in
any order. -/
theorem atMostOne_perm {values values' : List Json} (h : values.Perm values') :
    atMostOne values = atMostOne values' := by
  match values, h with
  | [], h => rw [List.nil_perm.1 h]
  | [value], h => rw [List.singleton_perm.1 h]
  | _ :: _ :: _, h =>
    match values', h.length_eq with
    | _ :: _ :: _, _ => rfl

/-- The order of the members of an object does not matter to the record it stands for, since each
field is found by its name. -/
theorem optionalFields?_perm {members' : List (Option String × Json)} (h : members.Perm members')
    (names : List String) :
    optionalFields? names (object members) = optionalFields? names (object members') := by
  have hnames : (members.all fun member => member.1.isSome) =
      members'.all fun member => member.1.isSome := h.all_eq
  have hvalues : ∀ name, atMostOne (named name members) = atMostOne (named name members') :=
    fun name => atMostOne_perm (named_perm h name)
  simp only [optionalFields?, hnames, hvalues]

/-! ## Other names -/

/-- Members of which each has a name, and this is not one of the given names. A member whose name is
no text would be refused. -/
def HasOtherNames (names : List String) (members : List (Option String × Json)) : Prop :=
  ∀ member ∈ members, ∃ name ∉ names, member.1 = some name

/-- Members of other names hold no value of a field. -/
theorem HasOtherNames.named_eq_nil (h : HasOtherNames names members) (hname : name ∈ names) :
    named name members = [] := by
  rw [named, List.map_eq_nil_iff, List.filter_eq_nil_iff]
  intro member hmember heq
  obtain ⟨other, hother, hmember⟩ := h member hmember
  rw [hmember, beq_iff_eq, Option.some.injEq] at heq
  exact hother (heq ▸ hname)

/-- Members of other names have names, which is what is asked of every member. -/
theorem HasOtherNames.all_isSome (h : HasOtherNames names members) :
    (members.all fun member => member.1.isSome) = true := by
  refine List.all_eq_true.2 fun member hmember => ?_
  obtain ⟨_, _, hname⟩ := h member hmember
  rw [hname, Option.isSome_some]

/-- Members of other names are passed over, whatever their values are: they hold no value of a
field, and they have names as is asked of every member. -/
theorem optionalFields?_append (h : HasOtherNames names further) :
    optionalFields? names (object (members ++ further)) =
      optionalFields? names (object members) := by
  have hvalues : ∀ name ∈ names,
      atMostOne (named name (members ++ further)) = atMostOne (named name members) := by
    intro name hname
    have happend : named name (members ++ further) = named name members ++ named name further := by
      rw [named, List.filter_append, List.map_append]
      rfl
    rw [happend, h.named_eq_nil hname, List.append_nil]
  rw [optionalFields?, optionalFields?, List.all_append, h.all_isSome, Bool.and_true,
    mapM_congr hvalues]

/-! ## Forms of a record -/

/-- What a record with a value for each field may be in JSON: an object of the fields in any order,
among members of other names, or the array of the values in the order of the fields. -/
inductive IsRecord (names : List String) (values : List Json) : Json → Prop
  | object {members further : List (Option String × Json)} (hnames : HasOtherNames names further)
      (hperm : members.Perm ((names.map some).zip values ++ further)) :
    IsRecord names values (object members)
  | array : IsRecord names values (array values)

/-- A record as it is written is in the form of an object. -/
theorem isRecord_record (names : List String) (values : List Json) :
    IsRecord names values (record names values) := by
  have hnone : HasOtherNames names [] := nofun
  exact .object hnone (.of_eq (List.append_nil _).symm)

/-- The values of a name start with that of the first member, if this has the name. -/
theorem named_cons (name' : Option String) (value : Json) :
    named name ((name', value) :: members) =
      if name' = some name then value :: named name members else named name members := by
  simp only [named, List.filter_cons, beq_iff_eq]
  split <;> rfl

/-- Each field of a record has its value, as no two fields have one name. The induction is on the
names, where the first value is found under the first name alone. -/
theorem mapM_named_zip {values : List Json} (hnodup : names.Nodup)
    (hlength : values.length = names.length) :
    (names.mapM fun name => atMostOne (named name ((names.map some).zip values))) =
      some (values.map some) := by
  induction names generalizing values with
  | nil =>
    rw [List.length_eq_zero_iff.1 hlength]
    rfl
  | cons name names ih =>
    obtain ⟨hname, hnodup⟩ := List.nodup_cons.1 hnodup
    obtain ⟨value, values, rfl⟩ := List.exists_cons_of_length_eq_add_one hlength
    have hother : HasOtherNames [name] ((names.map some).zip values) := by
      intro member hmember
      obtain ⟨other, hmem, hother⟩ := List.mem_map.1 (List.of_mem_zip hmember).1
      refine ⟨other, ?_, hother.symm⟩
      intro hsame
      exact hname (List.mem_singleton.1 hsame ▸ hmem)
    have htail : ∀ other ∈ names,
        atMostOne (named other ((some name, value) :: (names.map some).zip values)) =
          atMostOne (named other ((names.map some).zip values)) := by
      intro other hmem
      rw [named_cons, if_neg]
      intro hsame
      exact hname (Option.some.inj hsame ▸ hmem)
    rw [List.map_cons, List.zip_cons_cons, List.mapM_cons, named_cons, if_pos rfl,
      hother.named_eq_nil (.head _), mapM_congr htail, ih hnodup (Nat.succ.inj hlength)]
    rfl

/-- A record has the values of its fields, in either of its forms and whatever the order of its
members. For an object the order and the further members are done away with first. -/
theorem IsRecord.fields?_eq {values : List Json} {v : Json} (hnodup : names.Nodup)
    (hlength : values.length = names.length) (h : IsRecord names values v) :
    v.fields? names = some values := by
  have hoptional : v.optionalFields? names = some (values.map some) := by
    cases h with
    | object hnames hperm =>
      have hall : (((names.map some).zip values).all fun member => member.1.isSome) = true := by
        refine List.all_eq_true.2 fun member hmember => ?_
        obtain ⟨name, -, hname⟩ := List.mem_map.1 (List.of_mem_zip hmember).1
        rw [← hname, Option.isSome_some]
      rw [optionalFields?_perm hperm, optionalFields?_append hnames, optionalFields?, if_pos hall,
        mapM_named_zip hnodup hlength]
    | array =>
      rw [optionalFields?, if_pos (Nat.le_of_eq hlength), hlength, Nat.sub_self,
        List.replicate_zero, List.append_nil]
  have hpresent : (values.map some).mapM id = some values := by
    clear hlength h hoptional
    induction values with
    | nil => rfl
    | cons value values ih =>
      rw [List.map_cons, List.mapM_cons, ih]
      rfl
  rw [fields?, hoptional, Option.bind_some, hpresent]

/-! ## Removed fields -/

/-- The members that are left when those of the given names are removed. Members without a name
stay. -/
def removing (removed : List String) (members : List (Option String × Json)) :
    List (Option String × Json) :=
  members.filter fun member => member.1 ∉ removed.map some

/-- A removed name has no values, and the values of any other name stay, in the order in which they
were. -/
theorem named_removing (removed : List String) (name : String)
    (members : List (Option String × Json)) :
    named name (removing removed members) = if name ∈ removed then [] else named name members := by
  have hname : some name ∈ removed.map some ↔ name ∈ removed := by simp
  rw [named, removing, List.filter_filter]
  split
  · next h =>
    rw [List.map_eq_nil_iff, List.filter_eq_nil_iff]
    rintro member - hmember
    obtain ⟨heq, hkept⟩ := Bool.and_eq_true_iff.1 hmember
    rw [beq_iff_eq.1 heq, decide_eq_true_iff, hname] at hkept
    exact hkept h
  · next h =>
    refine congrArg (List.map _) (List.filter_congr fun member _ => ?_)
    by_cases heq : member.1 = some name
    · simp [heq, h]
    · simp [heq]

/-- A field that has one value is missing if it is removed, and else keeps its value. -/
theorem atMostOne_removing {value : Json} (h : named name members = [value])
    (removed : List String) :
    atMostOne (named name (removing removed members)) =
      some (if name ∈ removed then none else some value) := by
  rw [named_removing, h]
  split <;> rfl

/-- Removing members leaves no member without a name where there was none. -/
theorem all_isSome_removing {removed : List String}
    (h : (members.all fun member => member.1.isSome) = true) :
    ((removing removed members).all fun member => member.1.isSome) = true :=
  List.all_eq_true.2 fun member hmember => List.all_eq_true.1 h member (List.mem_filter.1 hmember).1

end MarkupValues.Json
