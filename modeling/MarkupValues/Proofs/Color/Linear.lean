import MarkupValues.Proofs.Binary.Read
import MarkupValues.Proofs.Numeric.Tokens
import MarkupValues.Proofs.Reading.Failures

/-!
# Linear colours

A channel is a token that writes a number, and its value is the finite one that is nearest to the
number (`IsChannel`); a number that would be rounded to infinity is no channel
(`exists_isChannel_iff`). A text with the prefix of linear colours is read token by token, and its
first token that is no channel is at fault, however many tokens there are. Only a text whose tokens
are all channels is looked at for how many they are (`ReadsAs`, `ofText_exact`).
-/

namespace MarkupValues

namespace Reading

variable {ε α β : Type} {f : α → Except ε β} {xs : List α}

/-- A list whose items are read one by one is read as the list of their values. -/
theorem mapM_eq_ok {ys : List β} (h : List.Forall₂ (fun x y => f x = .ok y) xs ys) :
    xs.mapM f = .ok ys := by
  induction h with
  | nil => rfl
  | cons hx _ ih =>
    rw [List.mapM_cons, bind_of_ok hx, bind_of_ok ih]
    rfl

/-- A list that is read item by item fails as its first item that fails, whatever comes after
this. -/
theorem mapM_append_cons_of_error {front back : List α} {ys : List β} {x : α} {e : ε}
    (hfront : List.Forall₂ (fun x y => f x = .ok y) front ys) (hx : f x = .error e) :
    (front ++ x :: back).mapM f = .error e := by
  induction hfront with
  | nil => rw [List.nil_append, List.mapM_cons, bind_of_error hx]
  | cons hy _ ih => rw [List.cons_append, List.mapM_cons, bind_of_ok hy, bind_of_error ih]

end Reading

namespace ScRgb

open Numeric (IsListOf)

variable {token : String} {value : Binary32} {s : String} {list : List Char}

/-! ## Channels -/

/-- Whether a token writes a number, and this is the finite value that is nearest to it. How the
token is read plays no part in this. -/
inductive IsChannel (token : String) : Binary32 → Prop
  | intro {negative : Bool} {d : Decimal} {ordinal : Fin BinaryFormat.single.infinityOrdinal}
    (hwritten : Binary.IsWritten token negative d)
    (hnearest : BinaryFormat.single.IsNearest d.num d.den ordinal) :
    IsChannel token (.finite negative ordinal)

/-- A token is a channel exactly when it is read as a finite number, as reading gives the nearest
value. So what is said of channels below does not mention the reader. -/
theorem isChannel_iff :
    IsChannel token value ↔ Binary.ofText? token = some value ∧ value.isFinite = true := by
  have hexponent : 1 < BinaryFormat.single.exponentBits := by decide
  have hfraction : 0 < BinaryFormat.single.fractionBits := by decide
  constructor
  · rintro ⟨hwritten, hnearest⟩
    exact ⟨(Binary.ofText?_eq_finite_iff hexponent hfraction).2 ⟨_, hwritten, hnearest⟩, rfl⟩
  · rintro ⟨hread, hfinite⟩
    cases value with
    | nan | infinite => cases hfinite
    | finite negative ordinal =>
      obtain ⟨d, hwritten, hnearest⟩ :=
        (Binary.ofText?_eq_finite_iff hexponent hfraction).1 hread
      exact .intro hwritten hnearest

/-- A token is one channel at most, since the value nearest to a number is one. -/
theorem IsChannel.unique {value' : Binary32} (h : IsChannel token value)
    (h' : IsChannel token value') : value = value' :=
  Option.some.inj ((isChannel_iff.1 h).1.symm.trans (isChannel_iff.1 h').1)

/-- The opacity that a colour of three channels is given is that of the token `1`. -/
theorem isChannel_one : IsChannel "1" (.ofRatio false 1 1) :=
  isChannel_iff.2 (by decide)

/-- A number is a channel when it is below what is halfway from the greatest finite value to the
next power of two. From there on it would be rounded to infinity. -/
theorem exists_isChannel_iff {negative : Bool} {d : Decimal}
    (h : Binary.IsWritten token negative d) :
    (∃ value, IsChannel token value) ↔ d.num < (2 ^ 128 - 2 ^ 103) * d.den := by
  have hexponent : 1 < BinaryFormat.single.exponentBits := by decide
  have hfraction : 0 < BinaryFormat.single.fractionBits := by decide
  have hread := Binary.ofText?_of_isWritten hexponent h
  have hnearest := BinaryFormat.nearestOrdinal_isNearest d.den_pos hfraction d.num
  have hinfinity : BinaryFormat.single.infinityOrdinal = 2139095039 + 1 := rfl
  have hplaces : BinaryFormat.single.places = 149 := rfl
  have hhalfway : BinaryFormat.single.units 2139095039 +
      BinaryFormat.single.units (2139095039 + 1) = (2 ^ 128 - 2 ^ 103) * (2 * 2 ^ 149) := rfl
  calc (∃ value, IsChannel token value)
    _ ↔ BinaryFormat.single.nearestOrdinal d.num d.den < 2139095039 + 1 := by
      rw [← hinfinity, ← Binary.isFinite_ofRatio negative]
      simp only [isChannel_iff, hread, Option.some_inj, exists_eq_left']
    _ ↔ ¬2139095039 < BinaryFormat.single.nearestOrdinal d.num d.den :=
      Nat.lt_succ_iff.trans Nat.not_lt.symm
    _ ↔ d.num * (2 * 2 ^ 149) < (2 ^ 128 - 2 ^ 103) * d.den * (2 * 2 ^ 149) := by
      rw [hnearest.lt_iff d.den_pos rfl, hhalfway, hplaces, Nat.not_le, Nat.mul_left_comm 2,
        Nat.mul_right_comm]
    _ ↔ d.num < (2 ^ 128 - 2 ^ 103) * d.den := Nat.mul_lt_mul_right (by decide)

/-- A token that is no channel is no number, or it is read as one that is not finite, by its word or
because it is too great. -/
theorem forall_not_isChannel_iff : (∀ value, ¬IsChannel token value) ↔
    (Binary.ofText? token : Option Binary32) = none ∨
      Binary.ofText? token = some (.nan : Binary32) ∨
      ∃ negative, Binary.ofText? token = some (.infinite negative : Binary32) := by
  simp only [isChannel_iff]
  cases (Binary.ofText? token : Option Binary32) with
  | none => exact iff_of_true (fun _ h => nomatch h.1) (.inl rfl)
  | some value =>
    cases value with
    | nan => exact iff_of_true (by rintro _ ⟨⟨⟩, ⟨⟩⟩) (.inr (.inl rfl))
    | infinite negative => exact iff_of_true (by rintro _ ⟨⟨⟩, ⟨⟩⟩) (.inr (.inr ⟨negative, rfl⟩))
    | finite negative ordinal =>
      refine iff_of_false (fun h => h _ ⟨rfl, rfl⟩) ?_
      rintro (h | h | ⟨_, h⟩) <;> cases h

/-- A token is read as a channel exactly when it is that channel, so that the reader of channels is
not opened below. -/
theorem channel_eq_ok_iff : channel token = .ok value ↔ IsChannel token value := by
  rw [isChannel_iff]
  unfold channel
  cases Binary.ofText? token with
  | none => exact iff_of_false nofun nofun
  | some v =>
    dsimp only
    rw [Option.some_inj]
    split
    · next hfinite =>
      rw [Except.ok.injEq]
      exact ⟨fun h => ⟨h, h ▸ hfinite⟩, And.left⟩
    · next hfinite =>
      refine iff_of_false nofun ?_
      rintro ⟨rfl, h⟩
      exact hfinite h

/-- A token that is no channel is at fault itself, and the cause holds the token as it is
written. -/
theorem channel_of_not_isChannel (h : ∀ value, ¬IsChannel token value) :
    channel token = .error (.invalidNumber token) := by
  unfold channel
  cases htext : Binary.ofText? token with
  | none => rfl
  | some v =>
    have hfinite : ¬v.isFinite = true := fun hfinite => h v (isChannel_iff.2 ⟨htext, hfinite⟩)
    dsimp only
    rw [if_neg hfinite]

/-- A list of tokens is a list of channels, or it has a leftmost token that is none. This is the
case split of the statements about lists below. -/
theorem channels_or_leftmost (ts : List String) :
    (∃ channels, List.Forall₂ IsChannel ts channels) ∨
      ∃ front channels token back, ts = front ++ token :: back ∧
        List.Forall₂ IsChannel front channels ∧ ∀ value, ¬IsChannel token value := by
  induction ts with
  | nil => exact .inl ⟨[], .nil⟩
  | cons t ts ih =>
    by_cases ht : ∃ value, IsChannel t value
    · obtain ⟨value, ht⟩ := ht
      rcases ih with ⟨channels, h⟩ | ⟨front, channels, token, back, rfl, hfront, htoken⟩
      · exact .inl ⟨value :: channels, .cons ht h⟩
      · exact .inr ⟨t :: front, value :: channels, token, back, rfl, .cons ht hfront, htoken⟩
    · exact .inr ⟨[], [], t, ts, rfl, .nil, not_exists.1 ht⟩

/-! ## Lists of channels -/

/-- What a list of tokens comes to. Four channels are opacity, red, green and blue, and three are a
colour with opacity one. Channels in any other number are at fault for it, and a token that is no
channel is at fault before any token after it and before their number. -/
inductive ReadsAs : List String → Except Cause ScRgb → Prop
  | opaqueColor {ts : List String} {a r g b : Binary32}
    (h : List.Forall₂ IsChannel ("1" :: ts) [a, r, g, b]) : ReadsAs ts (.ok ⟨a, r, g, b⟩)
  | color {ts : List String} {a r g b : Binary32} (h : List.Forall₂ IsChannel ts [a, r, g, b]) :
    ReadsAs ts (.ok ⟨a, r, g, b⟩)
  | count {ts : List String} {channels : List Binary32} (h : List.Forall₂ IsChannel ts channels)
    (hcount : ts.length ∉ [3, 4]) : ReadsAs ts (.error (.tokenCount (.oneOf [3, 4]) ts.length))
  | token {front : List String} {channels : List Binary32} {token : String} {back : List String}
    (hfront : List.Forall₂ IsChannel front channels) (htoken : ∀ value, ¬IsChannel token value) :
    ReadsAs (front ++ token :: back) (.error (.invalidNumber token))

/-- Every list of tokens comes to something: to a colour, to a fault in its number of channels, or
to one in a token. -/
theorem exists_readsAs (ts : List String) : ∃ outcome, ReadsAs ts outcome := by
  rcases channels_or_leftmost ts with
    ⟨channels, h⟩ | ⟨front, channels, token, back, rfl, hfront, htoken⟩
  · by_cases hcount : ts.length ∈ [3, 4]
    · have hlength : channels.length ∈ [3, 4] := h.length_eq ▸ hcount
      match channels, hlength with
      | [r, g, b], _ => exact ⟨_, .opaqueColor (.cons isChannel_one h)⟩
      | [a, r, g, b], _ => exact ⟨_, .color h⟩
    · exact ⟨_, .count h hcount⟩
  · exact ⟨_, .token hfront htoken⟩

/-- Channels in any number but three and four are at fault for it. -/
theorem ofChannels_of_length {channels : List Binary32} (h : channels.length ∉ [3, 4]) :
    ofChannels channels = .error (.tokenCount (.oneOf [3, 4]) channels.length) := by
  unfold ofChannels
  split
  · simp at h
  · simp at h
  · rfl

/-- Tokens that are channels are read as those channels. -/
theorem mapM_channel {ts : List String} {channels : List Binary32}
    (h : List.Forall₂ IsChannel ts channels) : ts.mapM channel = .ok channels :=
  Reading.mapM_eq_ok (h.imp fun _ _ => channel_eq_ok_iff.2)

/-- What a list of tokens comes to is what it is read as, so that a list comes to one thing only.
There is one case for each way that a list can go. -/
theorem ReadsAs.eq {ts : List String} {outcome : Except Cause ScRgb} (h : ReadsAs ts outcome) :
    ts.mapM channel >>= ofChannels = outcome := by
  cases h with
  | @opaqueColor ts a r g b h =>
    obtain ⟨hone, h⟩ := List.forall₂_cons.1 h
    rw [hone.unique isChannel_one]
    exact Reading.bind_of_ok (mapM_channel h) _
  | color h => exact Reading.bind_of_ok (mapM_channel h) _
  | @count ts channels h hcount =>
    rw [h.length_eq] at hcount ⊢
    rw [Reading.bind_of_ok (mapM_channel h), ofChannels_of_length hcount]
  | token hfront htoken =>
    have hread := hfront.imp fun _ _ => channel_eq_ok_iff.2
    have hfault := channel_of_not_isChannel htoken
    exact Reading.bind_of_error (Reading.mapM_append_cons_of_error hread hfault) _

/-! ## Texts with the prefix -/

/-- A text with the prefix is read by the tokens after it, however they are separated. -/
theorem ofText_of_isListOf {ts : List String} (hs : s.toList = "sc#".toList ++ list)
    (hts : IsListOf list ts) : ofText s = ts.mapM channel >>= ofChannels := by
  rw [← String.toList_ofList (l := list)] at hts
  rw [Numeric.isListOf_iff.1 hts]
  unfold ofText
  rw [hs]
  rfl

/-- A text without the prefix is refused before any of its tokens is looked at. -/
theorem ofText_of_unmarked (h : ¬"sc#".toList <+: s.toList) :
    ofText s = .error (.unsupported "scRGB colors must start with 'sc#'") := by
  unfold ofText
  split
  · next list hs => exact absurd ⟨list, hs.symm⟩ h
  · rfl

/-- A text with the prefix is read as what its tokens come to, and as nothing else. -/
theorem ofText_eq_iff {ts : List String} {outcome : Except Cause ScRgb}
    (hs : s.toList = "sc#".toList ++ list) (hts : IsListOf list ts) :
    ofText s = outcome ↔ ReadsAs ts outcome := by
  rw [ofText_of_isListOf hs hts]
  constructor
  · rintro rfl
    obtain ⟨outcome, h⟩ := exists_readsAs ts
    rwa [h.eq]
  · exact ReadsAs.eq

/-! ## What a text comes to -/

/-- A text without the prefix is in no form of a linear colour, and one with it is what its tokens
come to. So the channels of a colour that is read are finite, and separators are of no account. A
token is no channel if it is no number, or one that is not finite or that would be rounded to
infinity. -/
theorem ofText_exact (s : String) :
    (¬"sc#".toList <+: s.toList →
      ofText s = .error (.unsupported "scRGB colors must start with 'sc#'")) ∧
    (∀ list, s.toList = "sc#".toList ++ list →
      ∃ ts, IsListOf list ts ∧ ∀ outcome, ofText s = outcome ↔ ReadsAs ts outcome) ∧
    (∀ color, ofText s = .ok color →
      ∀ value ∈ [color.a, color.r, color.g, color.b], value.isFinite = true) ∧
    (∀ s' list list' ts, s.toList = "sc#".toList ++ list → s'.toList = "sc#".toList ++ list' →
      IsListOf list ts → IsListOf list' ts → ofText s = ofText s') ∧
    (∀ token, (∀ value, ¬IsChannel token value) ↔
      (Binary.ofText? token : Option Binary32) = none ∨
        Binary.ofText? token = some (.nan : Binary32) ∨
        ∃ negative, Binary.ofText? token = some (.infinite negative : Binary32)) ∧
    ∀ token negative d, Binary.IsWritten token negative d →
      ((∃ value, IsChannel token value) ↔ d.num < (2 ^ 128 - 2 ^ 103) * d.den) := by
  refine ⟨ofText_of_unmarked, fun list hs => ?_, fun color => Reading.isFinite_of_scRgb,
    fun s' list list' ts hs hs' hts hts' => ?_, fun token => forall_not_isChannel_iff,
    fun token negative d => exists_isChannel_iff⟩
  · obtain ⟨ts, hts⟩ := Numeric.exists_isListOf list
    exact ⟨ts, hts, fun outcome => ofText_eq_iff hs hts⟩
  · rw [ofText_of_isListOf hs hts, ofText_of_isListOf hs' hts']

/-- Of five tokens the second is beyond every finite value and is at fault, and not their number nor
the word after it. -/
theorem ofText_exact_overflow :
    Binary.IsWritten "-1e39" true ⟨1, 39⟩ ∧
      ofText "sc# 1,-1e39 nan,0 0" = .error (.invalidNumber "-1e39") := by
  have hwritten : Binary.IsWritten "-1e39" true ⟨1, 39⟩ :=
    .intro rfl .minus (Decimal.ofChars?_eq_some_iff.1 rfl)
  obtain ⟨-, htext, -, -, -, hfinite⟩ := ofText_exact "sc# 1,-1e39 nan,0 0"
  have hnone := not_exists.1 (mt (hfinite "-1e39" true _ hwritten).1 (by decide))
  obtain ⟨ts, hts, hread⟩ := htext " 1,-1e39 nan,0 0".toList rfl
  have htokens : ts = ["1"] ++ "-1e39" :: ["nan", "0", "0"] := Numeric.isListOf_iff.1 hts
  have hfront : List.Forall₂ IsChannel ["1"] [.ofRatio false 1 1] := .cons isChannel_one .nil
  exact ⟨hwritten, (hread _).2 (htokens ▸ .token hfront hnone)⟩

end ScRgb

end MarkupValues
