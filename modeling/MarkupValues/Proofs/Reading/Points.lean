import MarkupValues.Proofs.Reading.Coordinates

/-!
# Points two by two

A collection of points and a key spline take their coordinates two by two (`pointCalls`), and what
they make of two coordinates is what the two are read as on their own, with a comma between them
(`pointCalls_arePoints`). An even number of coordinates is taken apart in the same way whatever
comes after them (`pointCalls_append`), so that two texts one after the other have the points of
both (`points_of_pairs`).
-/

namespace MarkupValues.Reading

open Numeric (IsToken tokens)

variable {source other x y : String} {target : Target} {type : TypeName} {coords : List String}

/-! ## One point -/

/-- Whether an expression is the point that two coordinates are read as, from any text that has
these two for its tokens. -/
def IsPoint (type : TypeName) (x y : String) (e : Expr) : Prop :=
  ∀ companions, point (x ++ "," ++ y) ⟨type, companions⟩ = .ok e

/-- Two tokens in a call are the point that they are read as. -/
theorem pointCall_isPoint (hx : IsToken x) (hy : IsToken y) :
    IsPoint type x y (pointCall type x y) := by
  intro companions
  have htokens : tokens (x ++ "," ++ y) = [x, y] := by
    rw [Numeric.tokens_append_comma, Numeric.tokens_of_isToken hx, Numeric.tokens_of_isToken hy]
    rfl
  have hkeeps : KeepsTokens [2] (x ++ "," ++ y) ⟨type, companions⟩
      (point (x ++ "," ++ y) ⟨type, companions⟩) :=
    coordinates_keepsTokens
  rw [hkeeps.1 (by simp [htokens]), htokens]
  rfl

/-! ## Many points -/

/-- Whether the items of a list are the points of coordinates that are taken two by two: the item at
a place is the point of the two coordinates there. -/
def ArePoints (type : TypeName) (coords : List String) (items : List Expr) : Prop :=
  items.length = coords.length / 2 ∧
    ∀ k x y, coords[2 * k]? = some x → coords[2 * k + 1]? = some y →
      ∃ item, items[k]? = some item ∧ IsPoint type x y item

/-- Tokens in calls two by two are the points that they are read as, by the recursion that takes two
at a time. -/
theorem pointCalls_arePoints (h : ∀ coord ∈ coords, IsToken coord) :
    ArePoints type coords (pointCalls type coords) := by
  induction coords using pointCalls.induct with
  | case1 x y rest ih =>
    obtain ⟨hx, hy, hrest⟩ : IsToken x ∧ IsToken y ∧ ∀ coord ∈ rest, IsToken coord := by
      simpa using h
    obtain ⟨hlength, hpoints⟩ := ih hrest
    refine ⟨?_, fun k => ?_⟩
    · rw [pointCalls, List.length_cons, hlength, List.length_cons, List.length_cons]
      omega
    · cases k with
      | zero =>
        intro x' y' hx' hy'
        cases hx'
        cases hy'
        exact ⟨_, rfl, pointCall_isPoint hx hy⟩
      | succ k => exact hpoints k
  | case2 coords hshort =>
    match coords, hshort with
    | [], _ => exact ⟨rfl, fun _ _ _ => nofun⟩
    | [x], _ => exact ⟨by simp [pointCalls], fun _ _ _ _ hy => by simp at hy⟩
    | x :: y :: rest, hshort => exact absurd rfl (hshort x y rest)

/-- An even number of coordinates leaves none over to be taken with those after them, so that two
lists have their points one after the other. -/
theorem pointCalls_append (h : coords.length % 2 = 0) (coords' : List String) :
    pointCalls type (coords ++ coords') = pointCalls type coords ++ pointCalls type coords' := by
  induction coords using pointCalls.induct with
  | case1 x y rest ih =>
    rw [List.length_cons, List.length_cons, Nat.add_assoc, Nat.add_mod_right] at h
    rw [List.cons_append, List.cons_append, pointCalls, pointCalls, ih h, List.cons_append]
  | case2 coords hshort =>
    match coords, hshort with
    | [], _ => rfl
    | [x], _ => cases h
    | x :: y :: rest, hshort => exact absurd rfl (hshort x y rest)

/-! ## Collections -/

/-- An even number of tokens is a collection of the points that they are, two by two. -/
theorem pointCollection_of_even (htype : target.companion? 0 = some type)
    (heven : (tokens source).length % 2 = 0) : pointCollection source target =
      .ok (.collection target.destination (pointCalls type (tokens source))) := by
  have hadmits : Arity.even.admits (tokens source).length = true := beq_iff_eq.2 heven
  refine (bind_of_ok (numbers_of_admits hadmits) _).trans ?_
  split
  · next hnone => rw [hnone]; rfl
  · rw [requireCompanion_eq_ok.2 htype]; rfl

/-- An odd number of tokens is refused before the type of the points is asked for. -/
theorem pointCollection_of_odd (hodd : (tokens source).length % 2 = 1) :
    pointCollection source target =
      target.refuse source (.tokenCount .even (tokens source).length) := by
  have hadmits : ¬Arity.even.admits (tokens source).length = true := by simp [Arity.admits, hodd]
  exact bind_of_error (numbers_of_not_admits hadmits) _

/-- Two texts with points, one after the other, have the points of both. -/
theorem pointCollection_append (htype : target.companion? 0 = some type)
    (heven : (tokens source).length % 2 = 0) (heven' : (tokens other).length % 2 = 0) :
    pointCollection (source ++ " " ++ other) target = .ok (.collection target.destination
      (pointCalls type (tokens source) ++ pointCalls type (tokens other))) := by
  have htokens := Numeric.tokens_append_space source other
  have hlength : (tokens (source ++ " " ++ other)).length % 2 = 0 := by
    rw [htokens, List.length_append]
    omega
  rw [pointCollection_of_even htype hlength, htokens, pointCalls_append heven]

/-! ## Key splines -/

/-- Four tokens are the two points of a key spline, and a text with four tokens is not empty. -/
theorem keySpline_of_four {x₁ y₁ x₂ y₂ : String} (htype : target.companion? 0 = some type)
    (htokens : tokens source = [x₁, y₁, x₂, y₂]) : keySpline source target =
      .ok (.construct target.destination []
        [("ControlPoint1", pointCall type x₁ y₁), ("ControlPoint2", pointCall type x₂ y₂)] []) := by
  have hne : source ≠ "" := by
    rintro rfl
    have hnone : tokens "" = [] := rfl
    rw [hnone] at htokens
    cases htokens
  have hnumbers : numbers (.exactly 4) source target = .ok [x₁, y₁, x₂, y₂] := by
    rw [Arity.exactly, numbers_of_mem (by simp [htokens]), htokens]
  rw [keySpline, if_neg hne, bind_of_ok hnumbers]
  exact bind_of_ok (requireCompanion_eq_ok.2 htype) _

/-- Any other number of tokens in a text that is not empty is refused. A text of separators alone is
no empty one. -/
theorem keySpline_of_length (hne : source ≠ "") (hlength : (tokens source).length ≠ 4) :
    keySpline source target =
      target.refuse source (.tokenCount (.exactly 4) (tokens source).length) := by
  have hcount : (tokens source).length ∉ [4] := mt List.mem_singleton.1 hlength
  rw [keySpline, if_neg hne]
  exact bind_of_error (numbers_of_not_mem hcount) _

/-! ## The two together -/

/-- An even number of coordinates is a collection of the points that they are read as two by two,
and an odd one is refused for how many there are. A key spline is no text at all, or the two points
of four coordinates, and any other number of them is refused. A text with points after another one
has the points of the other one and then its own. -/
theorem points_of_pairs (source : String) {target : Target} {type : TypeName}
    (htype : target.companion? 0 = some type) :
    ((tokens source).length % 2 = 0 → ∃ items,
      pointCollection source target = .ok (.construct target.destination [] [] items) ∧
        ArePoints type (tokens source) items) ∧
    ((tokens source).length % 2 = 1 → pointCollection source target =
      target.refuse source (.tokenCount .even (tokens source).length)) ∧
    (source = "" → keySpline source target = .ok (.construct target.destination [] [] [])) ∧
    (∀ x₁ y₁ x₂ y₂, tokens source = [x₁, y₁, x₂, y₂] → ∃ first second,
      keySpline source target = .ok (.construct target.destination []
        [("ControlPoint1", first), ("ControlPoint2", second)] []) ∧
      IsPoint type x₁ y₁ first ∧ IsPoint type x₂ y₂ second) ∧
    (source ≠ "" → (tokens source).length ≠ 4 → keySpline source target =
      target.refuse source (.tokenCount (.exactly 4) (tokens source).length)) ∧
    ∀ other, (tokens source).length % 2 = 0 → (tokens other).length % 2 = 0 → ∃ items items',
      pointCollection source target = .ok (.construct target.destination [] [] items) ∧
      pointCollection other target = .ok (.construct target.destination [] [] items') ∧
      pointCollection (source ++ " " ++ other) target =
        .ok (.construct target.destination [] [] (items ++ items')) := by
  have htokens : ∀ token ∈ tokens source, IsToken token := fun _ =>
    Numeric.isToken_of_mem_tokens
  refine ⟨fun heven => ?_, pointCollection_of_odd, fun hnone => if_pos hnone,
    fun x₁ y₁ x₂ y₂ hfour => ?_, keySpline_of_length, fun other heven heven' => ?_⟩
  · exact ⟨_, pointCollection_of_even htype heven, pointCalls_arePoints htokens⟩
  · obtain ⟨hx₁, hy₁, hx₂, hy₂⟩ :
        IsToken x₁ ∧ IsToken y₁ ∧ IsToken x₂ ∧ IsToken y₂ := by
      simpa [hfour] using htokens
    exact ⟨_, _, keySpline_of_four htype hfour, pointCall_isPoint hx₁ hy₁,
      pointCall_isPoint hx₂ hy₂⟩
  · exact ⟨_, _, pointCollection_of_even htype heven, pointCollection_of_even htype heven',
      pointCollection_append htype heven heven'⟩

/-- Three coordinates are no points, and two texts of two and of four have three points together. -/
theorem points_of_pairs_triangle :
    Target.companion? ⟨⟨"PointCollection"⟩, [⟨"Point"⟩]⟩ 0 = some ⟨"Point"⟩ ∧
      pointCollection "1,,2 3" ⟨⟨"PointCollection"⟩, [⟨"Point"⟩]⟩ =
        Target.refuse ⟨⟨"PointCollection"⟩, [⟨"Point"⟩]⟩ "1,,2 3" (.tokenCount .even 3) ∧
      ∃ items items',
        pointCollection " 0,0" ⟨⟨"PointCollection"⟩, [⟨"Point"⟩]⟩ =
          .ok (.construct ⟨"PointCollection"⟩ [] [] items) ∧
        pointCollection "9 0,,9 9" ⟨⟨"PointCollection"⟩, [⟨"Point"⟩]⟩ =
          .ok (.construct ⟨"PointCollection"⟩ [] [] items') ∧
        pointCollection (" 0,0" ++ " " ++ "9 0,,9 9") ⟨⟨"PointCollection"⟩, [⟨"Point"⟩]⟩ =
          .ok (.construct ⟨"PointCollection"⟩ [] [] (items ++ items')) := by
  have htype : Target.companion? ⟨⟨"PointCollection"⟩, [⟨"Point"⟩]⟩ 0 = some ⟨"Point"⟩ := rfl
  obtain ⟨-, hodd, -⟩ := points_of_pairs "1,,2 3" htype
  obtain ⟨-, -, -, -, -, happend⟩ := points_of_pairs " 0,0" htype
  exact ⟨htype, hodd (by decide), happend "9 0,,9 9" (by decide) (by decide)⟩

end MarkupValues.Reading
