/-!
# Values by key

A `KeyedList` holds values under keys and keeps the keys in the order in which they came. A value
that is put under a key takes the place of the one that is there, or else comes last: `keys_insert`
and `find?_insert` say this of the keys and of the values that are found.
-/

namespace MarkupValues

/-- Values under keys, in the order in which the keys came. -/
structure KeyedList (α : Type) where
  items : List (String × α)

namespace KeyedList

variable {α : Type}

/-- No values. -/
def empty : KeyedList α := ⟨[]⟩

/-- The keys, in their order. -/
def keys (list : KeyedList α) : List String :=
  list.items.map Prod.fst

/-- The number of values. -/
def length (list : KeyedList α) : Nat :=
  list.items.length

/-- Whether there is no value. -/
def isEmpty (list : KeyedList α) : Bool :=
  list.items.isEmpty

/-- The value under a key. -/
def find? (list : KeyedList α) (key : String) : Option α :=
  list.items.lookup key

/-- Items with a value under a key: in the place of the one that is there, or else at the end. -/
def put (key : String) (value : α) : List (String × α) → List (String × α)
  | [] => [(key, value)]
  | item :: items =>
    if item.1 = key then (key, value) :: items else item :: put key value items

/-- The list with a value under a key. -/
def insert (list : KeyedList α) (key : String) (value : α) : KeyedList α :=
  ⟨put key value list.items⟩

/-- Values put under their keys one after another. -/
def ofList (items : List (String × α)) : KeyedList α :=
  items.foldl (fun list item => list.insert item.1 item.2) empty

variable {list : KeyedList α} {key : String} {value : α}

theorem length_keys (list : KeyedList α) : list.keys.length = list.length :=
  List.length_map _

/-- A value that is found is stored under its key. -/
theorem mem_items_of_find? (h : list.find? key = some value) : (key, value) ∈ list.items := by
  obtain ⟨front, back, hitems, -⟩ := List.lookup_eq_some_iff.1 h
  rw [hitems]
  exact List.mem_append_right front (.head back)

/-- A new key comes last, with its value. -/
theorem items_insert_of_not_mem (h : key ∉ list.keys) :
    (list.insert key value).items = list.items ++ [(key, value)] := by
  obtain ⟨items⟩ := list
  induction items with
  | nil => rfl
  | cons item items ih =>
    have hitem : item.1 ≠ key := fun heq => h (heq ▸ .head _)
    have hitems := ih fun hmem => h (.tail _ hmem)
    simp only [insert, put] at hitems ⊢
    rw [if_neg hitem, hitems, List.cons_append]

/-- A new key comes last, and a key that is there keeps its place. -/
theorem keys_insert (list : KeyedList α) (key : String) (value : α) :
    (list.insert key value).keys = if key ∈ list.keys then list.keys else list.keys ++ [key] := by
  obtain ⟨items⟩ := list
  induction items with
  | nil => rfl
  | cons item items ih =>
    simp only [keys, insert, put] at ih ⊢
    by_cases hitem : item.1 = key
    · simp [hitem]
    · rw [if_neg hitem, List.map_cons, ih]
      by_cases hmem : key ∈ items.map Prod.fst <;> simp [hmem, Ne.symm hitem]

theorem lookup_cons_eq_ite (item : String × α) (items : List (String × α)) (key : String) :
    (item :: items).lookup key = if key = item.1 then some item.2 else items.lookup key := by
  by_cases h : key = item.1
  · rw [if_pos h, h]
    exact List.lookup_cons_self
  · rw [if_neg h, List.lookup_cons, beq_false_of_ne h]

/-- The value is found under its key, and under other keys what was found before. -/
theorem find?_insert (list : KeyedList α) (key : String) (value : α) (other : String) :
    (list.insert key value).find? other =
      if other = key then some value else list.find? other := by
  obtain ⟨items⟩ := list
  induction items with
  | nil => exact lookup_cons_eq_ite ..
  | cons item items ih =>
    simp only [find?, insert, put] at ih ⊢
    by_cases hitem : item.1 = key
    · rw [if_pos hitem, lookup_cons_eq_ite, lookup_cons_eq_ite, hitem]
      split <;> rfl
    · rw [if_neg hitem, lookup_cons_eq_ite, lookup_cons_eq_ite, ih]
      by_cases h : other = item.1
      · rw [if_pos h, if_pos h, if_neg (h ▸ hitem)]
      · rw [if_neg h, if_neg h]

end KeyedList

end MarkupValues
