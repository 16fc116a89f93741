import Mathlib.Data.List.Find
import MarkupValues.Proofs.Text.Lowercase
import MarkupValues.Registry

/-!
# Registrations one after another

Names are offered to a registry together with converters, and it takes those whose key is free.
`Registry.Reachable` relates the registries that come about in this way, from none or from the core
types, to all that was offered to them. Each of them keeps the first registration of every key, in
the order in which the keys came (`Registry.Reachable.keepsFirst`): the core types too, although
they are put under their keys without asking whether these are free
(`Registry.keepsFirst_defaults`).
-/

namespace MarkupValues

/-- What a converter is registered with: the name of a type as it is given, what is built for it,
the companions it has by default, and the converter. -/
structure Registration where
  name : String
  destination : TypeName
  companions : List TypeName := []
  converter : Converter

namespace Registration

/-- The key of a registration is its name in lower case, with the white space around it and the
qualifier before it, if there are any. -/
def key (r : Registration) : String :=
  Text.lowercase r.name

/-- The entry that a registration makes, with its name in lower case for the key. -/
def entry (r : Registration) : Entry :=
  .ofName r.name r.destination r.companions r.converter

end Registration

/-- A core type as a registration, so that the default registry can be described like one that was
filled by registrations. -/
def CoreType.registration (type : CoreType) : Registration where
  name := type.key
  destination := type.destination
  companions := type.companions
  converter := type.grammar.converter

namespace Registry

section
variable {registry registry' : Registry} {entry : Entry}

/-! ## One registration -/

/-- An entry whose key is taken is refused, and the registry is left as it is: the key is looked up
before anything is stored. -/
theorem offer_of_mem (h : entry.key ∈ registry.keys) :
    (offer entry).run.run registry = (.error ⟨entry.key⟩, registry) :=
  (run_offer ..).trans (if_pos (List.contains_iff_mem.2 h))

/-- An entry whose key is free is stored under it, and the outcome is a success. -/
theorem offer_of_not_mem (h : entry.key ∉ registry.keys) :
    (offer entry).run.run registry =
      (.ok (), ⟨registry.entries.insert entry.key entry⟩) :=
  (run_offer ..).trans (if_neg (mt List.contains_iff_mem.1 h))

/-- A registration is refused when its key is taken, and the refusal names the key. -/
theorem register_of_mem (h : entry.key ∈ registry.keys) :
    registry.register entry = .error ⟨entry.key⟩ := by
  rw [register, offer_of_mem h]

/-- A registration under a free key is not refused, and gives the registry with the entry in it. -/
theorem register_of_not_mem (h : entry.key ∉ registry.keys) :
    registry.register entry = .ok ⟨registry.entries.insert entry.key entry⟩ := by
  rw [register, offer_of_not_mem h]

/-- A registration that is not refused puts its entry under a key that was free. -/
theorem register_eq_ok (h : registry.register entry = .ok registry') :
    entry.key ∉ registry.keys ∧ registry' = ⟨registry.entries.insert entry.key entry⟩ := by
  by_cases hkey : entry.key ∈ registry.keys
  · rw [register_of_mem hkey] at h
    cases h
  · rw [register_of_not_mem hkey] at h
    cases h
    exact ⟨hkey, rfl⟩

/-- A refusal leaves a registry as it is. -/
theorem after_of_mem (h : entry.key ∈ registry.keys) : registry.after entry = registry := by
  rw [after, offer_of_mem h]

/-- After a registration that is not refused the entry is stored under its key. -/
theorem after_of_not_mem (h : entry.key ∉ registry.keys) :
    registry.after entry = ⟨registry.entries.insert entry.key entry⟩ := by
  rw [after, offer_of_not_mem h]

end

/-! ## What a registry keeps -/

/-- A registry keeps the first of the registrations that were offered to it under each key, and
nothing else. This is the invariant of a run: it holds of the registries that runs start with, and
each registration preserves it. -/
structure KeepsFirst (registry : Registry) (offered : List Registration) : Prop where
  /-- No key is stored twice. -/
  nodup : registry.keys.Nodup
  /-- An entry is stored under its own key, the lower case of a name that it was offered with. -/
  stored : ∀ item ∈ registry.entries.items,
    item.2.key = item.1 ∧ ∃ r ∈ offered, item.1 = Text.lowercase r.name ∧ item.2 = r.entry
  /-- The keys are in the order in which they were first offered. -/
  keys_eq : registry.keys = (offered.map Registration.key).eraseDups
  /-- There are as many entries as keys. -/
  length_eq : registry.entries.length = registry.keys.length
  /-- The entry under a key is the one that was first offered under it. -/
  find?_eq : ∀ key, registry.entries.find? key =
    (offered.find? fun r => r.key == key).map Registration.entry

section
variable {registry : Registry} {offered : List Registration} {r : Registration}

/-- A key is taken exactly when a registration with it was offered. -/
theorem KeepsFirst.mem_keys_iff (h : registry.KeepsFirst offered) :
    r.key ∈ registry.keys ↔ ∃ q ∈ offered, q.key = r.key := by
  rw [h.keys_eq, List.mem_eraseDups, List.mem_map]

/-- A registry without entries keeps the first of no registrations. -/
theorem keepsFirst_empty : empty.KeepsFirst [] where
  nodup := .nil
  stored _ h := nomatch h
  keys_eq := rfl
  length_eq := rfl
  find?_eq _ := rfl

/-- A registration under a free key is kept after all the others: its key is new, so that nothing
else is found under it and nothing that was kept is lost. -/
theorem KeepsFirst.insert (h : registry.KeepsFirst offered) (hkey : r.key ∉ registry.keys) :
    KeepsFirst ⟨registry.entries.insert r.key r.entry⟩ (offered ++ [r]) := by
  have hkeys : (registry.entries.insert r.key r.entry).keys = registry.keys ++ [r.key] :=
    (KeyedList.keys_insert ..).trans (if_neg hkey)
  constructor
  case nodup =>
    rw [keys, hkeys, List.nodup_append]
    refine ⟨h.nodup, List.pairwise_singleton _ _, ?_⟩
    intro k hk k' hk' heq
    rw [List.mem_singleton.1 hk'] at heq
    exact hkey (heq ▸ hk)
  case stored =>
    intro item hitem
    rw [KeyedList.items_insert_of_not_mem hkey] at hitem
    rcases List.mem_append.1 hitem with hitem | hitem
    · obtain ⟨hown, q, hq, hstored⟩ := h.stored item hitem
      exact ⟨hown, q, List.mem_append_left _ hq, hstored⟩
    · rw [List.mem_singleton.1 hitem]
      exact ⟨rfl, r, List.mem_append_right _ (.head _), rfl, rfl⟩
  case keys_eq =>
    have hnew : [r.key].removeAll (offered.map Registration.key) = [r.key] := by
      rw [h.keys_eq, List.mem_eraseDups] at hkey
      rw [List.removeAll, List.filter_eq_self]
      intro k hk
      rw [List.mem_singleton.1 hk]
      simpa using hkey
    rw [keys, hkeys, h.keys_eq, List.map_append, List.eraseDups_append, List.map_singleton, hnew]
    rfl
  case length_eq => exact (KeyedList.length_keys _).symm
  case find?_eq =>
    intro key
    rw [KeyedList.find?_insert, List.find?_append, h.find?_eq]
    by_cases heq : key = r.key
    · have hnone : offered.find? (fun q => q.key == key) = none := by
        rw [List.find?_eq_none]
        intro q hq hqkey
        exact hkey (h.mem_keys_iff.2 ⟨q, hq, heq ▸ beq_iff_eq.1 hqkey⟩)
      rw [if_pos heq, hnone]
      simp [heq]
    · have hne : (r.key == key) = false := beq_false_of_ne (Ne.symm heq)
      rw [if_neg heq]
      simp [hne]

/-- A registration under a key that is taken changes nothing of what is kept, since another one with
this key was offered before. -/
theorem KeepsFirst.refused (h : registry.KeepsFirst offered) (hkey : r.key ∈ registry.keys) :
    registry.KeepsFirst (offered ++ [r]) := by
  constructor
  case nodup => exact h.nodup
  case stored =>
    intro item hitem
    obtain ⟨hown, q, hq, hstored⟩ := h.stored item hitem
    exact ⟨hown, q, List.mem_append_left _ hq, hstored⟩
  case keys_eq =>
    have hold : [r.key].removeAll (offered.map Registration.key) = [] := by
      rw [h.keys_eq, List.mem_eraseDups] at hkey
      simpa [List.removeAll] using hkey
    rw [h.keys_eq, List.map_append, List.eraseDups_append, List.map_singleton, hold]
    exact (List.append_nil _).symm
  case length_eq => exact h.length_eq
  case find?_eq =>
    intro key
    rw [h.find?_eq, List.find?_append]
    cases hfind : offered.find? fun q => q.key == key with
    | some q => rfl
    | none =>
      obtain ⟨q, hq, hqr⟩ := h.mem_keys_iff.1 hkey
      have hne : (q.key == key) = false := by
        simpa using List.find?_eq_none.1 hfind q hq
      rw [hqr] at hne
      simp [hne]

/-- The step of a run: a registration, taken or refused, leads from a registry that keeps the first
to another one that does. -/
theorem KeepsFirst.after (h : registry.KeepsFirst offered) (r : Registration) :
    (registry.after r.entry).KeepsFirst (offered ++ [r]) := by
  by_cases hkey : r.key ∈ registry.keys
  · rw [after_of_mem hkey]
    exact h.refused hkey
  · rw [after_of_not_mem hkey]
    exact h.insert hkey

end

/-! ## The core types -/

/-- No two core types have one key, so that none of them is lost in the default registry. -/
theorem nodup_keys_catalog : (catalog.map CoreType.key).Nodup := by
  decide +kernel

/-- The keys of the core types are in lower case, as if they came from registrations. -/
theorem lowercase_key_of_mem_catalog : ∀ type ∈ catalog, Text.lowercase type.key = type.key := by
  simp only [catalog, List.forall_mem_cons]
  repeat' apply And.intro
  all_goals first
    | exact List.forall_mem_nil _
    | refine Text.lowercase_eq_self_of_chars rfl ?_
  all_goals decide +kernel

/-- Core types with distinct keys in lower case are put under their keys as if they were registered.
The default registry is built without the check, and this shows that none is missing. -/
theorem KeepsFirst.foldl_insert {types : List CoreType} {registry : Registry}
    {offered : List Registration} (h : registry.KeepsFirst offered)
    (hlower : ∀ type ∈ types, Text.lowercase type.key = type.key)
    (hnodup : (registry.keys ++ types.map CoreType.key).Nodup) :
    KeepsFirst
      ⟨types.foldl (fun entries type => entries.insert type.key type.entry) registry.entries⟩
      (offered ++ types.map CoreType.registration) := by
  induction types generalizing registry offered with
  | nil => simpa using h
  | cons type types ih =>
    obtain ⟨htype, htypes⟩ := List.forall_mem_cons.1 hlower
    have hname : type.registration.key = type.key := htype
    have hkey : type.key ∉ registry.keys := by
      intro hmem
      exact (List.nodup_append.1 hnodup).2.2 _ hmem _ (.head _) rfl
    have hinsert := h.insert (hname.symm ▸ hkey)
    rw [hname] at hinsert
    have hfold := ih hinsert htypes ?_
    · rw [List.append_assoc] at hfold
      exact hfold
    · have hkeys : (registry.entries.insert type.key type.entry).keys =
          registry.keys ++ [type.key] :=
        (KeyedList.keys_insert ..).trans (if_neg hkey)
      have hall := hkeys ▸ List.append_assoc registry.keys [type.key] _ ▸ hnodup
      exact hall

/-- The default registry keeps the core types, in the order of the catalog, as if they had been
registered. -/
theorem keepsFirst_defaults : defaults.KeepsFirst (catalog.map CoreType.registration) := by
  have h := keepsFirst_empty.foldl_insert lowercase_key_of_mem_catalog nodup_keys_catalog
  unfold defaults KeyedList.ofList
  rw [List.foldl_map]
  exact h

/-- The entry of a name among the core types is that of the type with its key. -/
theorem lookup?_defaults (typeName : String) :
    defaults.lookup? typeName =
      (catalog.find? fun type => type.key == lookupKey typeName).map CoreType.entry := by
  have hkey (type : CoreType) (htype : type ∈ catalog) :
      (type.registration.key == lookupKey typeName) = (type.key == lookupKey typeName) :=
    congrArg (· == lookupKey typeName) (lowercase_key_of_mem_catalog type htype)
  rw [lookup?, keepsFirst_defaults.find?_eq, List.find?_map, Option.map_map]
  exact congrArg _ (List.find?_congr hkey)

/-- A name is in the default registry when it is that of a core type. -/
theorem contains_defaults (typeName : String) :
    defaults.contains typeName = catalog.any fun type => type.key == lookupKey typeName := by
  rw [contains, lookup?_defaults, Option.isSome_map, List.isSome_find?]

/-- The entry of a name in the default registry is that of a core type with the name for its key. -/
theorem exists_of_lookup?_defaults {typeName : String} {entry : Entry}
    (h : defaults.lookup? typeName = some entry) :
    ∃ type ∈ catalog, type.key = lookupKey typeName ∧ entry = type.entry := by
  rw [lookup?_defaults] at h
  obtain ⟨type, htype, rfl⟩ := Option.map_eq_some_iff.1 h
  have hmem := List.mem_of_find?_eq_some htype
  have hkey := List.find?_some htype
  exact ⟨type, hmem, beq_iff_eq.1 hkey, rfl⟩

/-! ## Runs -/

/-- The registries that registrations lead to, with all that was offered to them so far: first the
core types, where a registry starts with them. -/
inductive Reachable : List Registration → Registry → Prop
  | empty : Reachable [] .empty
  | defaults : Reachable (catalog.map CoreType.registration) .defaults
  | register {offered : List Registration} {registry : Registry} (h : Reachable offered registry)
      (r : Registration) : Reachable (offered ++ [r]) (registry.after r.entry)

section
variable {offered : List Registration} {registry : Registry}

/-- A registry keeps the first registration of each key, however it came about, by induction on the
run. -/
theorem Reachable.keepsFirst (h : Reachable offered registry) : registry.KeepsFirst offered := by
  induction h with
  | empty => exact keepsFirst_empty
  | defaults => exact keepsFirst_defaults
  | register _ r ih => exact ih.after r

/-- A registry that came about by registrations keeps the first of each key. The next one is refused
exactly when its key is taken, and the registry that comes with the refusal is the one that it was
offered to. Otherwise its entry comes after all the others, and under every other key the same is
found as before. -/
theorem Reachable.keepsFirst_and_register (h : Reachable offered registry) :
    registry.KeepsFirst offered ∧ ∀ r : Registration,
      (registry.register r.entry = .error ⟨Text.lowercase r.name⟩ ↔
        Text.lowercase r.name ∈ registry.keys) ∧
      (Text.lowercase r.name ∈ registry.keys →
        (offer r.entry).run.run registry = (.error ⟨Text.lowercase r.name⟩, registry) ∧
        registry.after r.entry = registry) ∧
      (Text.lowercase r.name ∉ registry.keys →
        (offer r.entry).run.run registry = (.ok (), registry.after r.entry) ∧
        registry.register r.entry = .ok (registry.after r.entry) ∧
        (registry.after r.entry).entries.items =
          registry.entries.items ++ [(Text.lowercase r.name, r.entry)] ∧
        ∀ key, (registry.after r.entry).entries.find? key =
          if key = Text.lowercase r.name then some r.entry else registry.entries.find? key) := by
  refine ⟨h.keepsFirst, fun r => ?_⟩
  by_cases hkey : r.entry.key ∈ registry.keys
  · have hrefused := register_of_mem hkey
    exact ⟨iff_of_true hrefused hkey, fun _ => ⟨offer_of_mem hkey, after_of_mem hkey⟩,
      fun hfree => absurd hkey hfree⟩
  · have htaken := register_of_not_mem hkey
    refine ⟨iff_of_false (by rw [htaken]; exact nofun) hkey, fun hmem => absurd hmem hkey,
      fun _ => ?_⟩
    rw [after_of_not_mem hkey]
    exact ⟨offer_of_not_mem hkey, htaken, KeyedList.items_insert_of_not_mem hkey,
      KeyedList.find?_insert _ _ _⟩

/-- A name and the same name in capitals, offered to a registry without converters. -/
theorem Reachable.keepsFirst_and_register_capitals :
    ∃ registry,
      Reachable [⟨"My.Point", ⟨"My.Point"⟩, [], Grammar.point.converter⟩] registry ∧
      registry.keys = ["my.point"] ∧
      registry.register
          (Registration.entry ⟨"MY.POINT", ⟨"My.Size"⟩, [], Grammar.size.converter⟩) =
        .error ⟨Text.lowercase "MY.POINT"⟩ := by
  have hreach := Reachable.empty.register ⟨"My.Point", ⟨"My.Point"⟩, [], Grammar.point.converter⟩
  obtain ⟨hkeeps, hregister⟩ := hreach.keepsFirst_and_register
  have hkeys := hkeeps.keys_eq.trans (by decide +kernel : _ = ["my.point"])
  have hmem : Text.lowercase "MY.POINT" ∈ ["my.point"] := by decide +kernel
  rw [← hkeys] at hmem
  obtain ⟨hrefused, -⟩ := hregister ⟨"MY.POINT", ⟨"My.Size"⟩, [], Grammar.size.converter⟩
  exact ⟨_, hreach, hkeys, hrefused.2 hmem⟩

end

end Registry

end MarkupValues
