import Mathlib
import MarkupValues.Binary.Read

/-!
# The value nearest to a number

Rounding divides by the spacing of the binade that the number is in (`exists_steps`). The magnitude
that it gives is nearest to the number, and of two equally near ones it is the even one
(`nearestOrdinal_isNearest`); so a number that is a value of the format is rounded to that value
(`Binary.ofRatio_of_eq`). It is above a magnitude with an odd ordinal, such as the greatest finite
one, exactly from halfway to the next on (`IsNearest.lt_iff`). A number with a power of ten is
rounded so whatever the power, for the numbers that are told by their count of digits alone are far
beyond either end (`Binary.ofDecimal_eq_ofRatio`).
-/

namespace MarkupValues

/-- A quotient is rounded by half a unit at most, and by just half a unit to an even number alone.
All that is proved of rounding comes from these two inequalities. -/
theorem roundHalfEven_spec {num den r : Nat} (hden : 0 < den) (hr : roundHalfEven num den = r) :
    (2 * num < 2 * (r * den) + den ∨ 2 * num = 2 * (r * den) + den ∧ r % 2 = 0) ∧
      (2 * (r * den) < 2 * num + den ∨ 2 * (r * den) = 2 * num + den ∧ r % 2 = 0) := by
  have hdiv : num / den * den + num % den = num := Nat.div_add_mod' num den
  have hmod := Nat.mod_lt num hden
  unfold roundHalfEven at hr
  simp only [Bool.or_eq_true, decide_eq_true_eq, Bool.and_eq_true, beq_iff_eq] at hr
  generalize num / den = q at hdiv hr
  split at hr
  · subst hr
    omega
  · subst hr
    rw [Nat.add_one_mul q den]
    omega

namespace BinaryFormat

variable {f : BinaryFormat}

/-- A binade has one magnitude at least, so that ordinals may be divided by its size. -/
theorem binadeSize_pos (f : BinaryFormat) : 0 < f.binadeSize := Nat.two_pow_pos _

/-! ## Magnitudes -/

/-- The magnitudes of the first binade are their ordinals: there the spacing is the least positive
value itself. -/
theorem units_of_div_eq_zero {n : Nat} (h : n / f.binadeSize = 0) : f.units n = n := by
  simp [units, h]

/-- The magnitudes of a later binade are multiples of its spacing, which is twice that of the binade
before. -/
theorem units_of_div_eq_succ {n b : Nat} (h : n / f.binadeSize = b + 1) :
    f.units n = (f.binadeSize + n % f.binadeSize) * 2 ^ b := by
  simp [units, h]

/-- The magnitudes of a binade and the first one after it are so many steps of the binade. That the
first one after it is counted in as well lets a number be rounded up out of its binade. -/
theorem units_add {b r : Nat} (hlow : b = 0 ∨ f.binadeSize ≤ r) (hhigh : r ≤ 2 * f.binadeSize) :
    f.units (b * f.binadeSize + r) = r * 2 ^ b := by
  have hpos := binadeSize_pos f
  have hsplit {k m n : Nat} (hm : m < f.binadeSize) (hn : n = k * f.binadeSize + m) :
      n / f.binadeSize = k ∧ n % f.binadeSize = m := by
    rw [hn, Nat.mul_comm]
    exact ⟨by rw [Nat.mul_add_div hpos, Nat.div_eq_of_lt hm, Nat.add_zero],
      by rw [Nat.mul_add_mod, Nat.mod_eq_of_lt hm]⟩
  rcases Nat.lt_or_ge r f.binadeSize with hr | hr
  · obtain rfl : b = 0 := by omega
    obtain ⟨hdiv, -⟩ := hsplit hr (n := 0 * f.binadeSize + r) rfl
    rw [units_of_div_eq_zero hdiv]
    omega
  · rcases Nat.lt_or_ge r (2 * f.binadeSize) with hr' | hr'
    · obtain ⟨hdiv, hmod⟩ := hsplit (k := b + 1) (m := r - f.binadeSize) (by omega)
        (n := b * f.binadeSize + r) (by rw [Nat.add_one_mul]; omega)
      rw [units_of_div_eq_succ hdiv, hmod, Nat.add_sub_cancel' hr]
    · obtain rfl : r = 2 * f.binadeSize := by omega
      obtain ⟨hdiv, hmod⟩ := hsplit (k := b + 2) hpos
        (n := b * f.binadeSize + 2 * f.binadeSize) (by rw [Nat.add_mul, Nat.add_zero])
      rw [units_of_div_eq_succ hdiv, hmod, Nat.pow_succ]
      ring

/-- The next greater magnitude is one step of the binade away. The last one of a binade is no
exception: its step leads to the first one of the next binade. -/
theorem units_succ (n : Nat) : f.units (n + 1) = f.units n + 2 ^ (n / f.binadeSize - 1) := by
  have hmod := Nat.mod_lt n (binadeSize_pos f)
  have hdiv := Nat.div_add_mod' n f.binadeSize
  generalize hr : n % f.binadeSize = r at hmod hdiv
  cases hb : n / f.binadeSize with
  | zero =>
    have hn : n = 0 * f.binadeSize + r := by rw [← hdiv, hb]
    rw [hn, Nat.add_assoc, units_add (.inl rfl) (by omega), units_add (.inl rfl) (by omega)]
    ring
  | succ b =>
    have hn : n = b * f.binadeSize + (f.binadeSize + r) := by
      rw [← hdiv, hb, Nat.add_one_mul, Nat.add_assoc]
    rw [hn, Nat.add_assoc, units_add (.inr (by omega)) (by omega),
      units_add (.inr (by omega)) (by omega), Nat.add_sub_cancel]
    ring

/-- Greater ordinals stand for greater magnitudes, so that magnitudes may be compared by their
ordinals. -/
theorem units_strictMono (f : BinaryFormat) : StrictMono f.units :=
  strictMono_nat_of_lt_succ fun n => by
    rw [units_succ]
    exact Nat.lt_add_of_pos_right (Nat.two_pow_pos _)

/-- What is below so many steps of a binade and one more is not above so many: there is no magnitude
between two steps. -/
theorem units_le_of_lt {b q m : Nat} (hlow : b = 0 ∨ f.binadeSize ≤ q)
    (hhigh : q ≤ 2 * f.binadeSize) (h : m < b * f.binadeSize + (q + 1)) :
    f.units m ≤ q * 2 ^ b := by
  rw [← units_add hlow hhigh]
  exact (units_strictMono f).monotone (Nat.le_of_lt_succ h)

/-- What is above so many steps of a binade is not below one more: the other side of the lemma
before. -/
theorem le_units_of_lt {b r m : Nat} (hlow : b = 0 ∨ f.binadeSize ≤ r)
    (hhigh : r < 2 * f.binadeSize) (h : b * f.binadeSize + r < m) :
    (r + 1) * 2 ^ b ≤ f.units m := by
  rw [← units_add (hlow.imp_right Nat.le_succ_of_le) hhigh]
  exact (units_strictMono f).monotone h

/-- Only the least ordinal stands for zero; every other magnitude is positive. -/
theorem eq_zero_of_units_eq_zero {n : Nat} (h : f.units n = 0) : n = 0 := by
  have hzero : f.units 0 = 0 := units_of_div_eq_zero (Nat.zero_div _)
  exact (units_strictMono f).injective (h.trans hzero.symm)

/-! ## The nearest magnitude -/

section
variable {num den : Nat} (hden : 0 < den)
include hden

/-- A number is rounded to so many steps of the binade that it is in: the ordinal that is computed
is that binade and these steps, and the number lies between the ends of the binade. -/
theorem exists_steps (f : BinaryFormat) (num : Nat) : ∃ b r,
    f.nearestOrdinal num den = b * f.binadeSize + r ∧
      roundHalfEven (num * 2 ^ f.places) (den * 2 ^ b) = r ∧
      (b = 0 ∨ f.binadeSize * (den * 2 ^ b) ≤ num * 2 ^ f.places) ∧
      num * 2 ^ f.places < 2 * f.binadeSize * (den * 2 ^ b) := by
  have hsize : f.binadeSize = 2 ^ f.fractionBits := rfl
  have hscaled : num * Nat.pow 2 f.places = num * 2 ^ f.places := rfl
  refine ⟨_, _, rfl, rfl, ?_, ?_⟩
  · rw [hscaled]
    generalize num * 2 ^ f.places = scaled
    rcases Nat.lt_or_ge f.fractionBits (scaled / den).log2 with hlog | hlog
    · right
      have hne : scaled / den ≠ 0 := by
        intro hzero
        rw [hzero, Nat.log2_zero] at hlog
        omega
      have hquotient := Nat.log2_self_le hne
      rw [← Nat.add_sub_cancel' (Nat.le_of_lt hlog), Nat.pow_add] at hquotient
      rw [hsize, Nat.mul_left_comm, Nat.mul_comm]
      exact (Nat.le_div_iff_mul_le hden).1 hquotient
    · exact .inl (by omega)
  · rw [hscaled]
    generalize num * 2 ^ f.places = scaled
    have hquotient : scaled / den < 2 ^ ((scaled / den).log2 + 1) := Nat.lt_log2_self
    have hbinade : 2 ^ ((scaled / den).log2 + 1) ≤
        2 * f.binadeSize * 2 ^ ((scaled / den).log2 - f.fractionBits) := by
      rw [hsize, ← Nat.pow_succ', ← Nat.pow_add]
      exact Nat.pow_le_pow_right Nat.two_pos (by omega)
    have hlt := (Nat.div_lt_iff_lt_mul hden).1 (hquotient.trans_le hbinade)
    rwa [Nat.mul_assoc, Nat.mul_comm _ den] at hlt

/-- The steps that a number is rounded to are those of its binade, or the first ones after it when
it is rounded up out of the binade. -/
theorem steps_le {b r : Nat} (hround : roundHalfEven (num * 2 ^ f.places) (den * 2 ^ b) = r)
    (hlow : b = 0 ∨ f.binadeSize * (den * 2 ^ b) ≤ num * 2 ^ f.places)
    (hhigh : num * 2 ^ f.places < 2 * f.binadeSize * (den * 2 ^ b)) :
    (b = 0 ∨ f.binadeSize ≤ r) ∧ r ≤ 2 * f.binadeSize := by
  have hstep : 0 < den * 2 ^ b := Nat.mul_pos hden (Nat.two_pow_pos b)
  obtain ⟨hup, hdown⟩ := roundHalfEven_spec hstep hround
  generalize num * 2 ^ f.places = scaled at *
  generalize den * 2 ^ b = step at *
  constructor
  · refine hlow.imp_right fun hlow => Nat.le_of_not_lt fun hr => ?_
    have hle : (r + 1) * step ≤ f.binadeSize * step := Nat.mul_le_mul_right step hr
    rw [Nat.add_one_mul] at hle
    omega
  · refine Nat.le_of_not_lt fun hr => ?_
    have hle : (2 * f.binadeSize + 1) * step ≤ r * step := Nat.mul_le_mul_right step hr
    rw [Nat.add_one_mul] at hle
    omega

end

/-- How far a magnitude is from a quotient. It is counted in units of the least value and multiplied
by the denominator, so that it is a whole number. -/
def distance (f : BinaryFormat) (num den n : Nat) : Nat :=
  Nat.dist (f.units n * den) (num * 2 ^ f.places)

/-- Whether no magnitude is nearer to a quotient than that of an ordinal, and no other one as near
unless the ordinal is even. This is rounding to nearest, and to even between two, without a word of
how it is done. -/
def IsNearest (f : BinaryFormat) (num den n : Nat) : Prop :=
  ∀ m, m ≠ n → f.distance num den n < f.distance num den m ∨
    f.distance num den n = f.distance num den m ∧ n % 2 = 0

section
variable {num den : Nat} (hden : 0 < den)
include hden

/-- Magnitudes are in the same order once they are multiplied by the denominator of a quotient,
where they are compared with the numerator. -/
theorem units_mul_lt {m n : Nat} (h : m < n) : f.units m * den < f.units n * den :=
  Nat.mul_lt_mul_of_pos_right (units_strictMono f h) hden

/-- No magnitude is nearer to a quotient than the one that it is rounded to, and another is as near
only for an even number of steps. For a magnitude on the other side of the quotient is a step away
from the one that is rounded to at least, and one on the same side is further from the quotient. -/
theorem exists_nearest_steps (f : BinaryFormat) (num : Nat) : ∃ b r,
    f.nearestOrdinal num den = b * f.binadeSize + r ∧ ∀ m, m ≠ b * f.binadeSize + r →
      f.distance num den (b * f.binadeSize + r) < f.distance num den m ∨
        f.distance num den (b * f.binadeSize + r) = f.distance num den m ∧ r % 2 = 0 := by
  obtain ⟨b, r, hn, hround, hlow, hhigh⟩ := exists_steps hden f num
  obtain ⟨hb, hr⟩ := steps_le hden hround hlow hhigh
  obtain ⟨hup, hdown⟩ := roundHalfEven_spec (Nat.mul_pos hden (Nat.two_pow_pos b)) hround
  have hself : f.units (b * f.binadeSize + r) * den = r * (den * 2 ^ b) := by
    rw [units_add hb hr, Nat.mul_right_comm, Nat.mul_assoc]
  refine ⟨b, r, hn, fun m hm => ?_⟩
  unfold distance Nat.dist
  rw [hself]
  rcases Nat.lt_or_gt_of_ne hm with hlt | hgt
  · have hless := units_mul_lt (f := f) hden hlt
    rcases Nat.lt_or_ge (num * 2 ^ f.places) (r * (den * 2 ^ b)) with hbelow | habove
    · obtain ⟨q, rfl⟩ : ∃ q, r = q + 1 := by
        refine Nat.exists_eq_add_one_of_ne_zero ?_
        rintro rfl
        omega
      have hq : b = 0 ∨ f.binadeSize ≤ q := hlow.imp_right fun hlow =>
        Nat.le_of_lt_succ (Nat.lt_of_mul_lt_mul_right (hlow.trans_lt hbelow))
      have hother : f.units m * den ≤ q * (den * 2 ^ b) := by
        rw [Nat.mul_left_comm, Nat.mul_comm]
        exact Nat.mul_le_mul_left den (units_le_of_lt hq (by omega) hlt)
      have hnext := Nat.add_one_mul q (den * 2 ^ b)
      omega
    · left
      omega
  · have hmore := units_mul_lt (f := f) hden hgt
    rcases Nat.lt_or_ge (r * (den * 2 ^ b)) (num * 2 ^ f.places) with habove | hbelow
    · have hr' : r < 2 * f.binadeSize := Nat.lt_of_mul_lt_mul_right (habove.trans hhigh)
      have hother : (r + 1) * (den * 2 ^ b) ≤ f.units m * den := by
        rw [Nat.mul_left_comm, Nat.mul_comm (f.units m)]
        exact Nat.mul_le_mul_left den (le_units_of_lt hb hr' hgt)
      rw [Nat.add_one_mul] at hother
      omega
    · left
      omega

/-- A quotient is rounded to the nearest magnitude, and to the even ordinal between two that are as
near. An even number of steps makes an even ordinal, since the size of a binade is even. -/
theorem nearestOrdinal_isNearest (hf : 0 < f.fractionBits) (num : Nat) :
    f.IsNearest num den (f.nearestOrdinal num den) := by
  obtain ⟨b, r, hn, hnearest⟩ := exists_nearest_steps hden f num
  have heven : (b * f.binadeSize + r) % 2 = r % 2 := by
    obtain ⟨half, hhalf⟩ : 2 ∣ f.binadeSize := dvd_pow_self 2 hf.ne'
    rw [hhalf, Nat.mul_left_comm, Nat.mul_add_mod]
  unfold IsNearest
  rwa [hn, heven]

/-- No magnitude at all is nearer to a quotient than the one that it is rounded to; this holds in a
format without fraction bits as well. -/
theorem distance_nearestOrdinal_le (f : BinaryFormat) (num m : Nat) :
    f.distance num den (f.nearestOrdinal num den) ≤ f.distance num den m := by
  obtain ⟨b, r, hn, hnearest⟩ := exists_nearest_steps hden f num
  rw [hn]
  by_cases hm : m = b * f.binadeSize + r
  · rw [hm]
  · exact (hnearest m hm).elim Nat.le_of_lt fun h => Nat.le_of_eq h.1

/-- The nearest ordinal to a magnitude is its own: nothing is rounded that need not be. -/
theorem nearestOrdinal_of_eq {n : Nat} (h : num * 2 ^ f.places = f.units n * den) :
    f.nearestOrdinal num den = n := by
  have hle := distance_nearestOrdinal_le hden f num n
  unfold distance at hle
  rw [h, Nat.dist_self, Nat.le_zero] at hle
  exact (units_strictMono f).injective (Nat.mul_right_cancel hden (Nat.eq_of_dist_eq_zero hle))

/-- What is not below a magnitude is not rounded to one below it, so rounding keeps the order of
numbers and magnitudes. -/
theorem le_nearestOrdinal {n : Nat} (h : f.units n * den ≤ num * 2 ^ f.places) :
    n ≤ f.nearestOrdinal num den := by
  refine Nat.le_of_not_lt fun hlt => ?_
  have hle := distance_nearestOrdinal_le hden f num n
  have hless := units_mul_lt (f := f) hden hlt
  unfold distance Nat.dist at hle
  omega

/-- What is below half the least positive value is rounded to zero, however small it is. -/
theorem nearestOrdinal_eq_zero (h : 2 * (num * 2 ^ f.places) < den) :
    f.nearestOrdinal num den = 0 := by
  refine Nat.eq_zero_of_not_pos fun hpos => ?_
  have hzero : f.units 0 = 0 := units_of_div_eq_zero (Nat.zero_div _)
  have hunits : 0 < f.units (f.nearestOrdinal num den) := hzero ▸ units_strictMono f hpos
  have hmul : den ≤ f.units (f.nearestOrdinal num den) * den := Nat.le_mul_of_pos_left den hunits
  have hle := distance_nearestOrdinal_le hden f num 0
  unfold distance Nat.dist at hle
  rw [hzero] at hle
  omega

/-- A quotient has one nearest magnitude. Two that were as near as each other would both be even,
and between two even ordinals there is an odd one that is nearer. -/
theorem IsNearest.unique {n n' : Nat} (h : f.IsNearest num den n) (h' : f.IsNearest num den n') :
    n = n' := by
  wlog hle : n ≤ n' generalizing n n'
  · exact (this h' h (Nat.le_of_not_le hle)).symm
  refine hle.eq_or_lt.resolve_right fun hlt => ?_
  have hless := units_mul_lt (f := f) hden (Nat.lt_add_one n)
  have hother := h n' hlt.ne'
  have hother' := h' n hlt.ne
  have hbetween := h (n + 1) (Nat.succ_ne_self n)
  have hnext : n + 1 < n' := by omega
  have hmore := units_mul_lt (f := f) hden hnext
  unfold distance Nat.dist at hother hother' hbetween
  omega

/-- The nearest magnitude is above one with an odd ordinal exactly from halfway to the next on:
halfway is rounded to the even one, and that is the next. -/
theorem IsNearest.lt_iff {n k : Nat} (h : f.IsNearest num den n) (hodd : k % 2 = 1) :
    k < n ↔ (f.units k + f.units (k + 1)) * den ≤ 2 * (num * 2 ^ f.places) := by
  have hstep := units_mul_lt (f := f) hden (Nat.lt_add_one k)
  rw [Nat.add_mul]
  constructor
  · intro hlt
    have hmore : f.units (k + 1) * den ≤ f.units n * den :=
      Nat.mul_le_mul_right den ((units_strictMono f).monotone hlt)
    have hnear := h k hlt.ne
    unfold distance Nat.dist at hnear
    omega
  · intro hhalf
    refine Nat.lt_of_not_le fun hle => ?_
    have hless := Nat.mul_le_mul_right den ((units_strictMono f).monotone hle)
    have hnear := h (k + 1) (by omega)
    have hbelow (hne : n ≠ k) : f.units n * den < f.units k * den :=
      units_mul_lt hden (hle.lt_of_ne hne)
    unfold distance Nat.dist at hnear
    omega

end

/-! ## Infinity -/

section
variable (hf : 1 < f.exponentBits)
include hf

/-- Infinity is the first ordinal of the binade that the exponent field ends at. What is rounded to
this magnitude or above is infinite. -/
theorem units_infinityOrdinal :
    f.units f.infinityOrdinal = 2 ^ (f.places + 2 ^ (f.exponentBits - 1)) := by
  have hexp : 2 ^ f.exponentBits = 2 * 2 ^ (f.exponentBits - 1) := by
    rw [← Nat.pow_succ', Nat.succ_eq_add_one, Nat.sub_add_cancel (Nat.le_of_lt hf)]
  have htwo : 2 ≤ 2 ^ (f.exponentBits - 1) := by
    simpa using Nat.pow_le_pow_right Nat.two_pos (show 1 ≤ f.exponentBits - 1 by omega)
  have hordinal : f.infinityOrdinal = (2 ^ f.exponentBits - 2) * f.binadeSize + f.binadeSize := by
    rw [← Nat.add_one_mul]
    show (2 ^ f.exponentBits - 1) * _ = _
    congr 1
    omega
  rw [hordinal, units_add (.inr le_rfl) (by omega)]
  show 2 ^ f.fractionBits * _ = 2 ^ (2 ^ (f.exponentBits - 1) + f.fractionBits - 2 + _)
  rw [← Nat.pow_add]
  congr 1
  omega

end

end BinaryFormat

/-! ## Counts of digits -/

/-- A number is below the power of ten with as many zeros as the number has digits. -/
theorem lt_pow_decimalLength (n : Nat) : n < 10 ^ decimalLength n :=
  (Nat.length_toDigits_le_iff (by decide) Nat.length_toDigits_pos).1 (Nat.le_refl _)

/-- A number is not below a power of ten with fewer zeros than the number has digits; zero has one
digit and is left out. -/
theorem pow_le_of_lt_decimalLength {n k : Nat} (hn : n ≠ 0) (h : k < decimalLength n) :
    10 ^ k ≤ n := by
  rcases Nat.eq_zero_or_pos k with rfl | hk
  · exact Nat.one_le_iff_ne_zero.2 hn
  · refine Nat.le_of_not_lt fun hlt => ?_
    exact Nat.not_lt.2 ((Nat.length_toDigits_le_iff (by decide) hk).2 hlt) h

namespace Decimal

/-- A number with a power of ten is a quotient. This is its numerator, to which a power above zero
contributes. -/
def num (d : Decimal) : Nat :=
  d.digits * 10 ^ d.exponent.toNat

/-- A number with a power of ten is a quotient. This is its denominator, a power of ten itself, and
one unless the power is negative. -/
def den (d : Decimal) : Nat :=
  10 ^ (-d.exponent).toNat

variable {d : Decimal}

/-- The denominator is a power of ten and so never zero. -/
theorem den_pos (d : Decimal) : 0 < d.den :=
  Nat.pow_pos (by decide)

/-- A number with as few digits before the point is below half of a power of two, so that it is
rounded to zero without its power of ten being computed. -/
theorem num_lt_of_length {places : Nat}
    (h : decimalLength d.digits + d.exponent < -(places : Int)) :
    2 * (d.num * 2 ^ places) < d.den := by
  have hexponent : d.exponent.toNat = 0 := by omega
  rw [num, den, hexponent, Nat.pow_zero, Nat.mul_one]
  calc 2 * (d.digits * 2 ^ places)
    _ < 2 * (10 ^ decimalLength d.digits * 2 ^ places) :=
      Nat.mul_lt_mul_of_pos_left
        (Nat.mul_lt_mul_of_pos_right (lt_pow_decimalLength _) (Nat.two_pow_pos _)) Nat.two_pos
    _ ≤ 10 * (10 ^ decimalLength d.digits * 10 ^ places) :=
      Nat.mul_le_mul (by decide) (Nat.mul_le_mul_left _ (Nat.pow_le_pow_left (by decide) _))
    _ = 10 ^ (decimalLength d.digits + places + 1) := by rw [← Nat.pow_add, Nat.pow_succ']
    _ ≤ 10 ^ (-d.exponent).toNat := Nat.pow_le_pow_right (by decide) (by omega)

/-- A number with as many digits before the point is not below a power of two, so that it is
infinite without its power of ten being computed. -/
theorem le_num_of_length {k : Nat} (hdigits : d.digits ≠ 0)
    (h : (k : Int) < decimalLength d.digits + d.exponent) : 2 ^ k * d.den ≤ d.num := by
  have hpos : 0 < decimalLength d.digits := Nat.length_toDigits_pos
  have hpow : 10 ^ (decimalLength d.digits - 1) ≤ d.digits :=
    pow_le_of_lt_decimalLength hdigits (by omega)
  calc 2 ^ k * d.den
    _ ≤ 10 ^ k * 10 ^ (-d.exponent).toNat :=
      Nat.mul_le_mul_right _ (Nat.pow_le_pow_left (by decide) _)
    _ = 10 ^ (k + (-d.exponent).toNat) := (Nat.pow_add _ _ _).symm
    _ ≤ 10 ^ (decimalLength d.digits - 1 + d.exponent.toNat) :=
      Nat.pow_le_pow_right (by decide) (by omega)
    _ = 10 ^ (decimalLength d.digits - 1) * 10 ^ d.exponent.toNat := Nat.pow_add _ _ _
    _ ≤ d.num := Nat.mul_le_mul_right _ hpow

end Decimal

namespace Binary

variable {f : BinaryFormat}

section
variable {num den : Nat}

/-- A quotient whose nearest ordinal is that of a finite magnitude has this magnitude for its
value. -/
theorem ofRatio_of_nearestOrdinal_eq (negative : Bool) {ordinal : Fin f.infinityOrdinal}
    (h : f.nearestOrdinal num den = ordinal) :
    ofRatio negative num den = .finite negative ordinal := by
  have hlt : f.nearestOrdinal num den < f.infinityOrdinal := h ▸ ordinal.isLt
  rw [ofRatio, dif_pos hlt]
  simp only [h]

/-- The value of a quotient is finite exactly when the magnitude that it is rounded to is below
infinity. -/
theorem isFinite_ofRatio (negative : Bool) :
    (ofRatio negative num den : Binary f).isFinite = true ↔
      f.nearestOrdinal num den < f.infinityOrdinal := by
  unfold ofRatio
  split
  · next h => exact iff_of_true rfl h
  · next h => exact iff_of_false Bool.false_ne_true h

variable (hden : 0 < den)
include hden

/-- The value nearest to a value of the format is that value, so a quotient that is one is not
rounded. -/
theorem ofRatio_of_eq (negative : Bool) {ordinal : Fin f.infinityOrdinal}
    (h : num * 2 ^ f.places = f.units ordinal * den) :
    ofRatio negative num den = .finite negative ordinal :=
  ofRatio_of_nearestOrdinal_eq negative (BinaryFormat.nearestOrdinal_of_eq hden h)

/-- The finite values of quotients are those that are nearest to them, with the sign that is given;
a format with a fraction bit has even and odd ordinals in turn. -/
theorem ofRatio_eq_finite_iff (hf : 0 < f.fractionBits) {negative negative' : Bool}
    {ordinal : Fin f.infinityOrdinal} :
    ofRatio negative num den = .finite negative' ordinal ↔
      negative = negative' ∧ f.IsNearest num den ordinal := by
  have hnearest := f.nearestOrdinal_isNearest hden hf num
  constructor
  · unfold ofRatio
    split
    · intro heq
      cases heq
      exact ⟨rfl, hnearest⟩
    · nofun
  · rintro ⟨rfl, h⟩
    exact ofRatio_of_nearestOrdinal_eq negative (hnearest.unique hden h)

end

/-- The value of a number with a power of ten is that of the quotient that the number is. The short
cuts for very long and very short numbers are taken only where the quotient is infinite or zero. -/
theorem ofDecimal_eq_ofRatio (hf : 1 < f.exponentBits) (negative : Bool) (d : Decimal) :
    (ofDecimal negative d.digits d.exponent : Binary f) = ofRatio negative d.num d.den := by
  have hpow : Nat.pow 2 (f.exponentBits - 1) = 2 ^ (f.exponentBits - 1) := rfl
  unfold ofDecimal
  simp only [hpow, Bool.or_eq_true, decide_eq_true_eq]
  split
  · next hsmall =>
    have hhalf : 2 * (d.num * 2 ^ f.places) < d.den := by
      rcases hsmall with hzero | hlength
      · rw [Decimal.num, hzero, Nat.zero_mul, Nat.zero_mul]
        exact d.den_pos
      · exact Decimal.num_lt_of_length hlength
    have hzero := BinaryFormat.nearestOrdinal_eq_zero d.den_pos hhalf
    unfold zero ofRatio
    simp only [hzero]
  · next hsmall =>
    split
    · next hlarge =>
      have hle : f.infinityOrdinal ≤ f.nearestOrdinal d.num d.den := by
        refine BinaryFormat.le_nearestOrdinal d.den_pos ?_
        rw [BinaryFormat.units_infinityOrdinal hf, Nat.pow_add, Nat.mul_assoc, Nat.mul_comm]
        exact Nat.mul_le_mul_right _ (Decimal.le_num_of_length (mt .inl hsmall) hlarge)
      rw [ofRatio, dif_neg (Nat.not_lt.2 hle)]
    · split
      · next hneg =>
        have hexponent : d.exponent.toNat = 0 ∧ (-d.exponent).toNat = d.exponent.natAbs := by omega
        rw [Decimal.num, Decimal.den, hexponent.1, hexponent.2, Nat.pow_zero, Nat.mul_one]
        rfl
      · next hneg =>
        have hexponent : d.exponent.toNat = d.exponent.natAbs ∧ (-d.exponent).toNat = 0 := by omega
        rw [Decimal.num, Decimal.den, hexponent.1, hexponent.2, Nat.pow_zero]
        rfl

end Binary

end MarkupValues
