import MarkupValues.Json.Value

/-!
# Containers inside one another

`Json.depth` counts how many containers of a value are open at once. A container within a limit has
its parts within the limit that is one less (`depth_array_le`, `depth_object_le`).
-/

namespace MarkupValues.Json

mutual

/-- How many containers of a value are open at once at most, the value itself included. Reading
counts the same against its limit. -/
def depth : Json → Nat
  | null | bool _ | number _ | string _ => 0
  | array items => depthOfItems items + 1
  | object members => depthOfMembers members + 1

/-- How many containers of the items of an array are open at once at most. -/
def depthOfItems : List Json → Nat
  | [] => 0
  | item :: items => max (depth item) (depthOfItems items)

/-- How many containers of the members of an object are open at once at most. -/
def depthOfMembers : List (Option String × Json) → Nat
  | [] => 0
  | (_, value) :: members => max (depth value) (depthOfMembers members)

end

/-- The items of an array are within a limit when each of them is. -/
theorem depthOfItems_le {items : List Json} {d : Nat} :
    depthOfItems items ≤ d ↔ ∀ item ∈ items, item.depth ≤ d := by
  induction items with
  | nil => simp [depthOfItems]
  | cons item items ih => rw [depthOfItems, Nat.max_le, ih, List.forall_mem_cons]

/-- The members of an object are within a limit when the value of each of them is. -/
theorem depthOfMembers_le {members : List (Option String × Json)} {d : Nat} :
    depthOfMembers members ≤ d ↔ ∀ member ∈ members, member.2.depth ≤ d := by
  induction members with
  | nil => simp [depthOfMembers]
  | cons member members ih => rw [depthOfMembers, Nat.max_le, ih, List.forall_mem_cons]

/-- An array is within a limit when its items are within one less. -/
theorem depth_array_le {items : List Json} {d : Nat} :
    (array items).depth ≤ d ↔ ∃ k, d = k + 1 ∧ ∀ item ∈ items, item.depth ≤ k := by
  rw [depth]
  cases d with
  | zero => simp
  | succ k => simp [depthOfItems_le]

/-- An object is within a limit when the values of its members are within one less. -/
theorem depth_object_le {members : List (Option String × Json)} {d : Nat} :
    (object members).depth ≤ d ↔ ∃ k, d = k + 1 ∧ ∀ member ∈ members, member.2.depth ≤ k := by
  rw [depth]
  cases d with
  | zero => simp
  | succ k => simp [depthOfMembers_le]

end MarkupValues.Json
