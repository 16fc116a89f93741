import Mathlib.Data.List.Basic
import MarkupValues.Proofs.Numeric.Tokens
import MarkupValues.Proofs.Reading.Failures

/-!
# Lists of numbers as values

A value made of numbers is its tokens, in order and as they are written (`KeepsTokens`), or else
there are too few or too many of them. So nothing of how the tokens are separated is left in a
result, and all readings together are told by the tokens (`numbers_kept`).
-/

namespace MarkupValues.Reading

open Numeric (IsListOf tokens)

variable {source other : String} {target : Target} {e : Expr} {counts : List Nat}

/-! ## Counting tokens -/

/-- Whether a reading calls the type to build with the tokens of a text, as they are written, when
there are as many as one of the counts, and otherwise refuses the text for how many there are. -/
def KeepsTokens (counts : List Nat) (source : String) (target : Target) (outcome : Reading) :
    Prop :=
  ((tokens source).length ∈ counts →
    outcome = .ok (.call target.destination ((tokens source).map .raw))) ∧
  ((tokens source).length ∉ counts →
    outcome = target.refuse source (.tokenCount (.oneOf counts) (tokens source).length))

/-- As many tokens as a reader admits are handed on as they are. -/
theorem numbers_of_admits {arity : Arity} (h : arity.admits (tokens source).length = true) :
    numbers arity source target = .ok (tokens source) := by
  rw [numbers, Numeric.tokensOf, if_pos h]
  rfl

/-- Any other number of tokens is refused with what the reader admits and how many there are. -/
theorem numbers_of_not_admits {arity : Arity} (h : ¬arity.admits (tokens source).length = true) :
    numbers arity source target =
      .error (target.fail source (some (.tokenCount arity (tokens source).length))) := by
  rw [numbers, Numeric.tokensOf, if_neg h]
  rfl

/-- As many tokens as one of the counts are handed on as they are. -/
theorem numbers_of_mem (h : (tokens source).length ∈ counts) :
    numbers (.oneOf counts) source target = .ok (tokens source) :=
  numbers_of_admits (List.contains_iff_mem.2 h)

/-- As many tokens as none of the counts are refused. -/
theorem numbers_of_not_mem (h : (tokens source).length ∉ counts) :
    numbers (.oneOf counts) source target =
      .error (target.fail source (some (.tokenCount (.oneOf counts) (tokens source).length))) :=
  numbers_of_not_admits (mt List.contains_iff_mem.1 h)

/-- A reader of coordinates keeps the tokens, for any counts. Points, sizes, rectangles and corner
radii are read by it. -/
theorem coordinates_keepsTokens :
    KeepsTokens counts source target (coordinates (.oneOf counts) source target) :=
  ⟨fun h => bind_of_ok (numbers_of_mem h) _, fun h => bind_of_error (numbers_of_not_mem h) _⟩

/-! ## Thicknesses -/

/-- Only two lengths stand for more than themselves. -/
theorem sides_of_length_ne {lengths : List String} (h : lengths.length ≠ 2) :
    sides lengths = lengths := by
  unfold sides
  split
  · exact absurd rfl h
  · rfl

/-- A thickness is a call with the four lengths, or with the tokens where there are not two. -/
theorem thickness_of_mem (h : (tokens source).length ∈ [1, 2, 4]) :
    thickness source target =
      .ok (.call target.destination ((sides (tokens source)).map .raw)) :=
  bind_of_ok (numbers_of_mem h) _

/-- A thickness of one length or four keeps the tokens, and so does what is refused. -/
theorem thickness_keepsTokens (h : (tokens source).length ≠ 2) :
    KeepsTokens [1, 2, 4] source target (thickness source target) := by
  refine ⟨fun hmem => ?_, fun hmem => bind_of_error (numbers_of_not_mem hmem) _⟩
  rw [thickness_of_mem hmem, sides_of_length_ne h]

/-- Two lengths are written twice over in the call. -/
theorem thickness_of_two {a b : String} (h : tokens source = [a, b]) :
    thickness source target =
      .ok (.call target.destination [.raw a, .raw b, .raw a, .raw b]) := by
  rw [thickness_of_mem (by simp [h]), h]
  rfl

/-- Two lengths written twice over with commas between them are four tokens. -/
theorem tokens_four_of_two {a b : String} (h : tokens source = [a, b]) :
    tokens (a ++ "," ++ b ++ "," ++ a ++ "," ++ b) = [a, b, a, b] := by
  have htokens : ∀ token ∈ [a, b], tokens token = [token] := fun token hmem =>
    Numeric.tokens_of_isToken (Numeric.isToken_of_mem_tokens (h ▸ hmem))
  have ha := htokens a (.head _)
  have hb := htokens b (.tail _ (.head _))
  simp only [Numeric.tokens_append_comma, ha, hb]
  rfl

/-- Two lengths and the four that they stand for are the same thickness, written in the same way. -/
theorem thickness_four_of_two {a b : String} (h : tokens source = [a, b]) :
    thickness (a ++ "," ++ b ++ "," ++ a ++ "," ++ b) target = thickness source target := by
  have hfour := tokens_four_of_two h
  rw [thickness_of_two h, thickness_of_mem (by simp [hfour]), hfour]
  rfl

/-! ## Matrices -/

/-- A matrix is read as six coordinates, unless the whole text is `Identity`. -/
theorem matrix_of_ne (h : source ≠ "Identity") :
    matrix source target = coordinates (.exactly 6) source target :=
  if_neg h

/-! ## Separators -/

/-- A reading that keeps tokens succeeds with the call of all of them, and only where there are as
many as one of the counts. -/
theorem KeepsTokens.eq_ok_iff {outcome : Reading} (h : KeepsTokens counts source target outcome) :
    outcome = .ok e ↔ (tokens source).length ∈ counts ∧
      e = .call target.destination ((tokens source).map .raw) := by
  obtain ⟨hkeeps, hrefuses⟩ := h
  by_cases hmem : (tokens source).length ∈ counts
  · rw [hkeeps hmem, Except.ok.injEq, eq_comm, and_iff_right hmem]
  · rw [hrefuses hmem]
    exact ⟨nofun, fun ⟨h, _⟩ => absurd h hmem⟩

/-- Two texts with the same tokens become the same value, however the tokens are separated. -/
theorem KeepsTokens.ok_congr {outcome outcome' : Reading} (heq : tokens other = tokens source)
    (h : KeepsTokens counts source target outcome)
    (h' : KeepsTokens counts other target outcome') : outcome = .ok e ↔ outcome' = .ok e := by
  rw [h.eq_ok_iff, h'.eq_ok_iff, heq]

/-- Two texts with the same tokens become the same thickness. -/
theorem thickness_ok_congr (heq : tokens other = tokens source) :
    thickness source target = .ok e ↔ thickness other target = .ok e := by
  by_cases h : (tokens source).length = 2
  · obtain ⟨a, b, htokens⟩ := List.length_eq_two.1 h
    rw [thickness_of_two htokens, thickness_of_two (heq.trans htokens)]
  · exact KeepsTokens.ok_congr heq (thickness_keepsTokens h) (thickness_keepsTokens (heq ▸ h))

/-- Two texts with the same tokens become the same matrix, unless one of them is the text
`Identity`. -/
theorem matrix_ok_congr (heq : tokens other = tokens source) (hsource : source ≠ "Identity")
    (hother : other ≠ "Identity") : matrix source target = .ok e ↔ matrix other target = .ok e := by
  rw [matrix_of_ne hsource, matrix_of_ne hother]
  exact KeepsTokens.ok_congr heq coordinates_keepsTokens coordinates_keepsTokens

/-- Two texts that become the same value become the same value around it. -/
theorem wrapped_ok_congr {read : String → Target → Reading}
    (h : ∀ type e, read source ⟨type, []⟩ = .ok e ↔ read other ⟨type, []⟩ = .ok e) :
    wrapped read source target = .ok e ↔ wrapped read other target = .ok e := by
  constructor
  · intro hread
    obtain ⟨type, inner, htype, hinner, rfl⟩ := wrapped_ok hread
    exact wrapped_of_ok htype ((h type inner).1 hinner)
  · intro hread
    obtain ⟨type, inner, htype, hinner, rfl⟩ := wrapped_ok hread
    exact wrapped_of_ok htype ((h type inner).2 hinner)

/-! ## The lists together -/

/-- The tokens of a text are those that it is made of. A point and a size are two of them, a
rectangle four, a corner radius one or four, a matrix six or the one text `Identity`, and a
collection as many as there are. A thickness is one or four, and two stand for the four that are the
two twice over. Every other number of tokens is refused. A transform is a matrix in a call, and what
is no matrix fails for the same cause. Texts with the same tokens are the same value. -/
theorem numbers_kept (source : String) :
    (∀ ts, IsListOf source.toList ts ↔ ts = tokens source) ∧
    (∀ target : Target,
      KeepsTokens [2] source target (point source target) ∧
      KeepsTokens [2] source target (size source target) ∧
      KeepsTokens [4] source target (rect source target) ∧
      KeepsTokens [1, 4] source target (cornerRadius source target) ∧
      doubleCollection source target =
        .ok (.collection target.destination ((tokens source).map .raw))) ∧
    (∀ target : Target,
      ((tokens source).length ≠ 2 →
        KeepsTokens [1, 2, 4] source target (thickness source target)) ∧
      ∀ a b, tokens source = [a, b] →
        thickness source target =
          .ok (.call target.destination [.raw a, .raw b, .raw a, .raw b]) ∧
        thickness (a ++ "," ++ b ++ "," ++ a ++ "," ++ b) target = thickness source target) ∧
    (∀ target : Target,
      (source = "Identity" →
        matrix source target = .ok (.member target.destination "Identity")) ∧
      (source ≠ "Identity" → KeepsTokens [6] source target (matrix source target))) ∧
    (∀ target : Target,
      (∀ type, target.companion? 0 = some type →
        (∀ e, matrix source ⟨type, []⟩ = .ok e →
          transform source target = .ok (.call target.destination [e])) ∧
        ∀ failure, matrix source ⟨type, []⟩ = .error failure →
          transform source target = .error (target.fail source failure.cause)) ∧
      (target.companion? 0 = none →
        transform source target = target.refuse source (.missingCompanion 0))) ∧
    ∀ other, tokens other = tokens source → ∀ (target : Target) (e : Expr),
      (∀ read ∈ [point, size, rect, cornerRadius, doubleCollection, thickness],
        (read source target = .ok e ↔ read other target = .ok e)) ∧
      (source ≠ "Identity" → other ≠ "Identity" → ∀ read ∈ [matrix, transform],
        (read source target = .ok e ↔ read other target = .ok e)) := by
  refine ⟨fun ts => Numeric.isListOf_iff, fun target => ?_, fun target => ?_, fun target => ?_,
    fun target => ?_, fun other heq target e => ?_⟩
  · exact ⟨coordinates_keepsTokens, coordinates_keepsTokens, coordinates_keepsTokens,
      coordinates_keepsTokens, rfl⟩
  · exact ⟨thickness_keepsTokens, fun a b h => ⟨thickness_of_two h, thickness_four_of_two h⟩⟩
  · refine ⟨fun h => if_pos h, fun h => ?_⟩
    rw [matrix_of_ne h]
    exact coordinates_keepsTokens
  · exact ⟨fun type htype => ⟨fun e => wrapped_of_ok htype,
      fun failure => Grammar.convert_transform_of_matrix htype⟩, wrapped_of_none⟩
  · have hcoordinates {counts : List Nat} : coordinates (.oneOf counts) source target = .ok e ↔
        coordinates (.oneOf counts) other target = .ok e :=
      KeepsTokens.ok_congr heq coordinates_keepsTokens coordinates_keepsTokens
    have hcollection : doubleCollection source target = .ok e ↔
        doubleCollection other target = .ok e := by
      rw [doubleCollection, doubleCollection, heq]
    constructor
    · simp only [List.mem_cons, List.not_mem_nil, or_false, forall_eq_or_imp, forall_eq]
      exact ⟨hcoordinates, hcoordinates, hcoordinates, hcoordinates, hcollection,
        thickness_ok_congr heq⟩
    · intro hsource hother
      simp only [List.mem_cons, List.not_mem_nil, or_false, forall_eq_or_imp, forall_eq]
      exact ⟨matrix_ok_congr heq hsource hother,
        wrapped_ok_congr fun type e => matrix_ok_congr heq hsource hother⟩

/-- Two numbers are a margin and a size, and too few for a rectangle. -/
theorem numbers_kept_margin :
    thickness " 4,,8 " ⟨⟨"Thickness"⟩, []⟩ =
        .ok (.call ⟨"Thickness"⟩ [.raw "4", .raw "8", .raw "4", .raw "8"]) ∧
      size " 4,,8 " ⟨⟨"Size"⟩, []⟩ = .ok (.call ⟨"Size"⟩ [.raw "4", .raw "8"]) ∧
      rect " 4,,8 " ⟨⟨"Rect"⟩, []⟩ =
        Target.refuse ⟨⟨"Rect"⟩, []⟩ " 4,,8 " (.tokenCount (.oneOf [4]) 2) := by
  obtain ⟨-, hlists, hthickness, -⟩ := numbers_kept " 4,,8 "
  have htokens : tokens " 4,,8 " = ["4", "8"] := by decide
  refine ⟨((hthickness _).2 "4" "8" htokens).1, (hlists _).2.1.1 ?_, (hlists _).2.2.1.2 ?_⟩
  · rw [htokens]
    decide
  · rw [htokens]
    decide

end MarkupValues.Reading
