import MarkupValues.Proofs.Reading.Companions
import MarkupValues.Proofs.Registry.Failures

/-!
# Auxiliary names

The auxiliary names of a conversion take the places of the companions of an entry one by one
(`Entry.companion?_target`), and those beyond are added (`Entry.length_companions_target`); filling
them in one position after another comes to the same (`Entry.fill?_eq_companions_target`). A
grammar takes companion 0 at most, and so no auxiliary name but the first makes a difference to a
conversion to a core type, and none at all where the type has no companions
(`Registry.convertExpr_auxiliary`).
-/

namespace MarkupValues

/-! ## Targets of entries -/

namespace Entry

/-- The companion at a position is the auxiliary name there, or else that of the entry at the same
position. -/
theorem companion?_target (entry : Entry) (aux : List TypeName) (index : Nat) :
    (entry.target aux).companion? index = (aux[index]?).or entry.companions[index]? := by
  show (aux ++ entry.companions.drop aux.length)[index]? = _
  rcases Nat.lt_or_ge index aux.length with hlt | hge
  · rw [List.getElem?_append_left hlt, List.getElem?_eq_getElem hlt]
    rfl
  · rw [List.getElem?_append_right hge, List.getElem?_eq_none hge, List.getElem?_drop,
      Nat.add_sub_cancel' hge]
    rfl

/-- There are as many companions as auxiliary names, or as the entry has if these are more. -/
theorem length_companions_target (entry : Entry) (aux : List TypeName) :
    (entry.target aux).companions.length = max aux.length entry.companions.length := by
  show (aux ++ entry.companions.drop aux.length).length = _
  rw [List.length_append, List.length_drop]
  omega

/-- The companions of an entry, given as auxiliary names, change nothing about the target. -/
theorem target_companions (entry : Entry) : entry.target entry.companions = entry.target [] := by
  unfold target
  rw [List.drop_length, List.append_nil]
  rfl

/-- Companion 0 of a target is the first auxiliary name, or else that of the entry. -/
theorem companion?_target_zero (entry : Entry) (aux : List TypeName) :
    (entry.target aux).companion? 0 = aux.head?.or entry.companions.head? := by
  rw [companion?_target, List.head?_eq_getElem?, List.head?_eq_getElem?]

/-- Auxiliary names with the same first one make targets that agree in companion 0, which is the
only one that readers take. -/
theorem sameFirst_target (entry : Entry) {aux aux' : List TypeName} (h : aux.head? = aux'.head?) :
    (entry.target aux).SameFirst (entry.target aux') where
  destination_eq := rfl
  companion?_eq := by rw [companion?_target_zero, companion?_target_zero, h]

/-! ### One position after another -/

/-- What is found for a position: the auxiliary name, or else the companion of the entry. -/
def at? (entry : Entry) (aux : List TypeName) (index : Nat) : Option TypeName :=
  match aux[index]? with
  | some name => some name
  | none => entry.companions[index]?

/-- Companions put after those that are there already, as many as are asked for, from a position on.
There is nothing to put when a position is in neither list. -/
def fill? (entry : Entry) (aux : List TypeName) :
    (count index : Nat) → (filled : List TypeName) → Option (List TypeName)
  | 0, _, filled => some filled
  | count + 1, index, filled => do
    let name ← entry.at? aux index
    fill? entry aux count (index + 1) (filled ++ [name])

variable (entry : Entry) (aux : List TypeName)

/-- What is found for a position is the companion of the target. -/
theorem at?_eq (index : Nat) : entry.at? aux index = (entry.target aux).companion? index := by
  rw [companion?_target, at?]
  cases aux[index]? <;> rfl

/-- The companions from a position on are those of the target, as long as there are any: each of the
positions is in one of the lists. -/
theorem fill?_take (count : Nat) {index : Nat}
    (h : index + count ≤ (entry.target aux).companions.length) :
    entry.fill? aux count index ((entry.target aux).companions.take index) =
      some ((entry.target aux).companions.take (index + count)) := by
  induction count generalizing index with
  | zero => rfl
  | succ count ih =>
    have hindex : index < (entry.target aux).companions.length := by omega
    have hname : entry.at? aux index = some (entry.target aux).companions[index] :=
      (entry.at?_eq aux index).trans (List.getElem?_eq_getElem hindex)
    have hstep : entry.fill? aux (count + 1) index ((entry.target aux).companions.take index) =
        entry.fill? aux count (index + 1) ((entry.target aux).companions.take (index + 1)) := by
      rw [fill?, hname, List.take_succ_eq_append_getElem hindex]
      rfl
    rw [hstep, ih (by omega), Nat.add_right_comm, Nat.add_assoc]

/-- Going through the positions up to the end of the longer list, nothing is looked up beyond the
end of both, and the companions come out as those of the target. -/
theorem fill?_eq_companions_target :
    entry.fill? aux (max entry.companions.length aux.length) 0 [] =
      some (entry.target aux).companions := by
  have hlength := entry.length_companions_target aux
  have hfill := entry.fill?_take aux (max entry.companions.length aux.length) (Nat.le_of_eq <|
    (Nat.zero_add _).trans ((Nat.max_comm _ _).trans hlength.symm))
  rw [List.take_zero, List.take_of_length_le (by omega)] at hfill
  exact hfill

end Entry

/-! ## Core types -/

/-- The companion that a grammar asks for is one of those of its core types. -/
theorem companions_ne_nil_of_mem_catalog :
    ∀ type ∈ catalog, type.grammar.mentionsCompanion = true → type.companions ≠ [] := by
  decide

/-- A core type without companions is converted in the same way with all auxiliary names. -/
theorem CoreType.convert_congr_of_companions_eq_nil {type : CoreType} (htype : type ∈ catalog)
    (hnone : type.companions = []) (raw : String) (aux aux' : List TypeName) :
    type.entry.convert raw aux = type.entry.convert raw aux' := by
  have hmentions : type.grammar.mentionsCompanion = false :=
    Bool.eq_false_iff.2 fun h => companions_ne_nil_of_mem_catalog type htype h hnone
  have hdestination :
      (type.entry.target aux).destination = (type.entry.target aux').destination := rfl
  rw [type.convert_entry, type.convert_entry]
  exact Grammar.convert_congr_destination hmentions hdestination raw

namespace Registry

variable {registry : Registry} {typeName raw : String} {aux aux' : List TypeName}

/-- No auxiliary name but the first makes a difference in a registry of grammars, for names without
an entry as well. -/
theorem IsLibrary.convertExpr_congr (hlibrary : registry.IsLibrary) (h : aux.head? = aux'.head?) :
    registry.convertExpr typeName raw aux = registry.convertExpr typeName raw aux' := by
  cases hlookup : registry.lookup? typeName with
  | none => rw [convertExpr_of_lookup?_eq_none hlookup, convertExpr_of_lookup?_eq_none hlookup]
  | some entry =>
    obtain ⟨grammar, hgrammar⟩ := hlibrary.exists_grammar hlookup
    rw [convertExpr_of_lookup? hlookup, convertExpr_of_lookup? hlookup,
      convert_of_converter hgrammar, convert_of_converter hgrammar]
    exact grammar.convert_congr (entry.sameFirst_target h) raw

/-- Auxiliary names act by their places. A target has one companion for each auxiliary name and for
each companion of the entry, whichever are more: at a place where there is an auxiliary name it is
this one, and elsewhere that of the entry, and this is what going through the places one by one
comes to, without a place that is in neither list. In the default registry only the first auxiliary
name has a part in the outcome, success or failure; where the entry has no companions none has, and
the companions of the entry are as good as no auxiliary names. -/
theorem convertExpr_auxiliary (typeName raw : String) :
    (∀ aux aux' : List TypeName, aux.head? = aux'.head? →
      defaults.convertExpr typeName raw aux = defaults.convertExpr typeName raw aux') ∧
    (∀ entry, defaults.lookup? typeName = some entry →
      (entry.companions = [] → ∀ aux aux' : List TypeName,
        defaults.convertExpr typeName raw aux = defaults.convertExpr typeName raw aux') ∧
      defaults.convertExpr typeName raw entry.companions =
        defaults.convertExpr typeName raw []) ∧
    ∀ (entry : Entry) (aux : List TypeName),
      (entry.target aux).destination = entry.destination ∧
      (entry.target aux).companions.length = max aux.length entry.companions.length ∧
      entry.fill? aux (max entry.companions.length aux.length) 0 [] =
        some (entry.target aux).companions ∧
      ∀ (i : Nat) (hi : i < max aux.length entry.companions.length),
        (entry.target aux).companion? i =
          some (if h : i < aux.length then aux[i] else entry.companions[i]) := by
  refine ⟨fun aux aux' => isLibrary_defaults.convertExpr_congr, ?_, ?_⟩
  · intro entry hlookup
    obtain ⟨type, htype, -, rfl⟩ := exists_of_lookup?_defaults hlookup
    simp only [convertExpr_of_lookup? hlookup]
    constructor
    · intro hnone aux aux'
      exact type.convert_congr_of_companions_eq_nil htype hnone raw aux aux'
    · unfold Entry.convert Entry.conversion
      rw [Entry.target_companions]
  · intro entry aux
    refine ⟨rfl, entry.length_companions_target aux, entry.fill?_eq_companions_target aux,
      fun i hi => ?_⟩
    rw [Entry.companion?_target]
    split
    · next h => rw [List.getElem?_eq_getElem h, Option.some_or]
    · next h =>
      rw [List.getElem?_eq_none (Nat.le_of_not_lt h), Option.none_or]
      exact List.getElem?_eq_getElem _

/-- A brush with two auxiliary names, a point with one, and the companion that the second name for a
brush makes. -/
theorem convertExpr_auxiliary_brush :
    (∃ entry, defaults.lookup? "System.Windows.Media.Brush" = some entry ∧
      defaults.convertExpr "System.Windows.Media.Brush" "Red" [⟨"My.Color"⟩, ⟨"My.Point"⟩] =
        defaults.convertExpr "System.Windows.Media.Brush" "Red" [⟨"My.Color"⟩] ∧
      defaults.convertExpr "System.Windows.Media.Brush" "Red" entry.companions =
        defaults.convertExpr "System.Windows.Media.Brush" "Red" [] ∧
      (entry.target [⟨"My.Color"⟩, ⟨"My.Point"⟩]).companion? 1 = some ⟨"My.Point"⟩) ∧
    ∃ entry, defaults.lookup? "System.Windows.Point" = some entry ∧ entry.companions = [] ∧
      defaults.convertExpr "System.Windows.Point" "1" [⟨"My.Color"⟩] =
        defaults.convertExpr "System.Windows.Point" "1" [] := by
  obtain ⟨hfirst, hbrush, hplaces⟩ := convertExpr_auxiliary "System.Windows.Media.Brush" "Red"
  obtain ⟨-, hpoint, -⟩ := convertExpr_auxiliary "System.Windows.Point" "1"
  have hbrushEntry : (defaults.lookup? "System.Windows.Media.Brush").isSome = true := by
    rw [lookup?_defaults]
    decide +kernel
  have hpointEntry :
      (defaults.lookup? "System.Windows.Point").map Entry.companions = some [] := by
    rw [lookup?_defaults]
    decide +kernel
  obtain ⟨brush, hlookupBrush⟩ := Option.isSome_iff_exists.1 hbrushEntry
  obtain ⟨point, hlookupPoint, hnone⟩ := Option.map_eq_some_iff.1 hpointEntry
  refine ⟨⟨brush, hlookupBrush, hfirst _ _ rfl, (hbrush brush hlookupBrush).2, ?_⟩,
    point, hlookupPoint, hnone, (hpoint point hlookupPoint).1 hnone _ _⟩
  obtain ⟨-, -, -, hcompanion⟩ := hplaces brush [⟨"My.Color"⟩, ⟨"My.Point"⟩]
  exact hcompanion 1 (Nat.lt_of_lt_of_le (by decide) (Nat.le_max_left ..))

end Registry

end MarkupValues
