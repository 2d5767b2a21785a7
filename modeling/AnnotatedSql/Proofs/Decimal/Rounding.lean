/-
This file says what it is to round a number to 53 significant bits, and shows that decimals are
rounded in this way before they are cut.
-/

import AnnotatedSql.Decimal
import Mathlib.Algebra.Order.Field.Power
import Mathlib.Data.Rat.Floor
import Mathlib.Tactic.Linarith

namespace AnnotatedSql.Decimal

/-! ### Rounded numbers -/

/-- The number needs at most so many bits between the first one and the last one that is set. -/
def HasBits (count : Nat) (number : ℚ) : Prop :=
  ∃ significand exponent : ℤ, |significand| < 2 ^ count ∧ number = significand * 2 ^ exponent

/-- No number of 53 bits is nearer to the given one than the rounded one. If another one is as near,
the last bit of the rounded one is zero. -/
structure RoundsTo (number rounded : ℚ) : Prop where
  bits : HasBits 53 rounded
  nearest : ∀ other, HasBits 53 other → |number - rounded| ≤ |number - other|
  even : ∀ other, HasBits 53 other → |number - other| = |number - rounded| →
    other = rounded ∨ HasBits 52 rounded

variable {number rounded other : ℚ} {power : ℤ}

theorem hasBits_zero (count : Nat) : HasBits count 0 := ⟨0, 0, by simp, by simp⟩

theorem HasBits.neg {count : Nat} (bits : HasBits count number) :
    HasBits count (-number) := by
  obtain ⟨significand, exponent, small, rfl⟩ := bits
  exact ⟨-significand, exponent, by rwa [abs_neg], by push_cast; ring⟩

/-- A power of two needs a single bit, so the significand may reach the bound. -/
theorem hasBits_of_le {count : Nat} {significand : ℤ} (exponent : ℤ) (least : 0 ≤ significand)
    (most : significand ≤ 2 ^ (count + 1)) : HasBits (count + 1) (significand * 2 ^ exponent) := by
  rcases lt_or_eq_of_le most with below | rfl
  · exact ⟨significand, exponent, by rwa [abs_of_nonneg least], rfl⟩
  · refine ⟨1, (count + 1 : Nat) + exponent, ?_, ?_⟩
    · rw [abs_one]
      exact one_lt_pow₀ one_lt_two (Nat.succ_ne_zero count)
    · rw [zpow_add₀ two_ne_zero, zpow_natCast]
      push_cast
      ring

theorem roundsTo_zero : RoundsTo 0 0 where
  bits := hasBits_zero 53
  nearest other _ := by simp
  even _ _ _ := .inr (hasBits_zero 52)

theorem RoundsTo.neg (rounds : RoundsTo number rounded) : RoundsTo (-number) (-rounded) := by
  have mirrored (other : ℚ) : |-number - other| = |number - -other| := by
    rw [← abs_neg]
    congr 1
    ring
  refine ⟨rounds.bits.neg, fun other bits => ?_, fun other bits same => ?_⟩
  · rw [mirrored, mirrored, neg_neg]
    exact rounds.nearest _ bits.neg
  · rw [mirrored, mirrored, neg_neg] at same
    rcases rounds.even _ bits.neg same with rfl | fewer
    · exact .inl (neg_neg other).symm
    · exact .inr fewer.neg

/-! ### Numbers of 53 bits around a number -/

/-- The number lies between `2 ^ 52` and `2 ^ 53` units of this power of two. -/
structure Scaled (number : ℚ) (power : ℤ) : Prop where
  least : 2 ^ 52 * 2 ^ power ≤ number
  below : number < 2 ^ 53 * 2 ^ power

theorem unit_pos (power : ℤ) : (0 : ℚ) < 2 ^ power := zpow_pos two_pos power

theorem zpow_units {least exponent : ℤ} (le : least ≤ exponent) :
    (2 : ℚ) ^ exponent = 2 ^ (exponent - least).toNat * 2 ^ least := by
  rw [← zpow_natCast, ← zpow_add₀ two_ne_zero]
  congr 1
  omega

/-- A number of 53 bits is a whole number of units, unless it is small. -/
theorem HasBits.whole_or_small (bits : HasBits 53 other) (power : ℤ) :
    (∃ whole : ℤ, other = whole * 2 ^ power) ∨ other < 2 ^ 52 * 2 ^ power := by
  obtain ⟨significand, exponent, small, rfl⟩ := bits
  rcases le_or_gt power exponent with more | less
  · refine .inl ⟨significand * 2 ^ (exponent - power).toNat, ?_⟩
    rw [zpow_units more]
    push_cast
    ring
  · right
    have most : (significand : ℚ) < 2 ^ 53 := by exact_mod_cast (abs_lt.mp small).2
    have step : (2 : ℚ) ^ exponent ≤ 2 ^ (power - 1) :=
      zpow_le_zpow_right₀ one_le_two (by omega)
    rw [zpow_sub_one₀ two_ne_zero] at step
    have positive := unit_pos exponent
    calc (significand : ℚ) * 2 ^ exponent < 2 ^ 53 * 2 ^ exponent :=
          mul_lt_mul_of_pos_right most positive
      _ ≤ 2 ^ 53 * (2 ^ power * 2⁻¹) := by gcongr
      _ = 2 ^ 52 * 2 ^ power := by ring

/-- A large whole number of units that does not need all of 53 bits is even. -/
theorem even_of_hasBits {units : ℤ} (bits : HasBits 52 (units * 2 ^ power))
    (large : 2 ^ 52 ≤ units) : Even units := by
  obtain ⟨significand, exponent, small, same⟩ := bits
  have cancel {left right : ℤ} {unit : ℤ} (same : (left : ℚ) * 2 ^ unit = right * 2 ^ unit) :
      left = right := by
    exact_mod_cast mul_right_cancel₀ (unit_pos unit).ne' same
  rcases le_or_gt exponent power with less | more
  · -- The significand would be at least as large as the number of units.
    rw [zpow_units less, ← mul_assoc] at same
    have equal : units * 2 ^ (power - exponent).toNat = significand :=
      cancel (by push_cast; exact same)
    have grows : units ≤ units * 2 ^ (power - exponent).toNat :=
      le_mul_of_one_le_right (by omega) (one_le_pow₀ one_le_two)
    have := (abs_lt.mp small).2
    omega
  · rw [zpow_units more.le, ← mul_assoc] at same
    have equal : units = significand * 2 ^ (exponent - power).toNat :=
      cancel (by push_cast; exact same)
    rw [equal]
    exact Even.mul_left (even_two.pow_of_ne_zero (by omega)) significand

/-- An integer within one half is nearest among the integers, and only its neighbours can be as
near. -/
theorem integer_nearest {amount : ℚ} {whole other : ℤ} (near : |amount - whole| ≤ 1 / 2)
    (apart : other ≠ whole) :
    |amount - whole| ≤ |amount - other| ∧
      (|amount - other| = |amount - whole| →
        |amount - whole| = 1 / 2 ∧ (other = whole + 1 ∨ other = whole - 1)) := by
  have far : (1 : ℚ) ≤ |(whole : ℚ) - other| := by
    exact_mod_cast Int.one_le_abs (sub_ne_zero.mpr apart.symm)
  have around : |(whole : ℚ) - other| ≤ |amount - whole| + |amount - other| := by
    rw [abs_sub_comm amount]
    exact abs_sub_le (whole : ℚ) amount other
  refine ⟨by linarith, fun same => ?_⟩
  have half : |amount - whole| = 1 / 2 := by linarith
  have close : |(whole : ℚ) - other| ≤ 1 := by linarith
  have close : |whole - other| ≤ 1 := by exact_mod_cast close
  rw [abs_le] at close
  exact ⟨half, by omega⟩

/-- The integer nearest to the number of units gives the rounded value; of two such integers it is
the even one. -/
structure Nearest (amount : ℚ) (whole : ℤ) : Prop where
  near : |amount - whole| ≤ 1 / 2
  even : |amount - whole| = 1 / 2 → Even whole

theorem distance_units (amount : ℚ) (whole power : ℤ) :
    |amount * 2 ^ power - whole * 2 ^ power| = |amount - whole| * 2 ^ power := by
  rw [← sub_mul, abs_mul, abs_of_pos (unit_pos power)]

variable {amount : ℚ} {whole : ℤ}

theorem Scaled.bounds (scaled : Scaled (amount * 2 ^ power) power)
    (near : |amount - whole| ≤ 1 / 2) : 2 ^ 52 ≤ whole ∧ whole ≤ 2 ^ 53 := by
  have least := le_of_mul_le_mul_right scaled.least (unit_pos power)
  have below := lt_of_mul_lt_mul_right scaled.below (unit_pos power).le
  obtain ⟨left, right⟩ := abs_le.mp near
  constructor
  · have : (2 : ℚ) ^ 52 - 1 < whole := by linarith
    have : (2 : ℤ) ^ 52 - 1 < whole := by exact_mod_cast this
    omega
  · have : (whole : ℚ) < 2 ^ 53 + 1 := by linarith
    have : whole < (2 : ℤ) ^ 53 + 1 := by exact_mod_cast this
    omega

section
variable (nearest : Nearest amount whole)
include nearest

theorem Nearest.le (other : ℤ) : |amount - whole| ≤ |amount - other| := by
  by_cases same : other = whole
  · rw [same]
  · exact (integer_nearest nearest.near same).1

variable (scaled : Scaled (amount * 2 ^ power) power)
include scaled

/-- What is no whole number of units lies further away. -/
theorem Nearest.lt_of_small (small : other < 2 ^ 52 * 2 ^ power) :
    |amount * 2 ^ power - whole * 2 ^ power| < |amount * 2 ^ power - other| := by
  have least := scaled.least
  have corner : |amount - whole| * 2 ^ power ≤ amount * 2 ^ power - 2 ^ 52 * 2 ^ power := by
    have near := mul_le_mul_of_nonneg_right (nearest.le (2 ^ 52)) (unit_pos power).le
    rw [← distance_units amount (2 ^ 52), Int.cast_pow, Int.cast_ofNat,
      abs_of_nonneg (sub_nonneg.mpr least)] at near
    exact near
  rw [distance_units, abs_of_pos (sub_pos.mpr (small.trans_le least))]
  linarith

theorem Nearest.roundsTo : RoundsTo (amount * 2 ^ power) (whole * 2 ^ power) := by
  obtain ⟨least, most⟩ := scaled.bounds nearest.near
  refine ⟨hasBits_of_le power (by omega) most, fun other bits => ?_, fun other bits same => ?_⟩
  · rcases bits.whole_or_small power with ⟨units, rfl⟩ | small
    · rw [distance_units, distance_units]
      exact mul_le_mul_of_nonneg_right (nearest.le units) (unit_pos power).le
    · exact (nearest.lt_of_small scaled small).le
  · rcases bits.whole_or_small power with ⟨units, rfl⟩ | small
    · by_cases apart : units = whole
      · exact .inl (by rw [apart])
      · right
        rw [distance_units, distance_units] at same
        have same := mul_right_cancel₀ (unit_pos power).ne' same
        obtain ⟨half, _⟩ := (integer_nearest nearest.near apart).2 same
        obtain ⟨twice, rfl⟩ := nearest.even half
        have bits : HasBits 52 (twice * 2 ^ (power + 1)) :=
          hasBits_of_le _ (by omega) (by omega)
        rw [zpow_add_one₀ two_ne_zero] at bits
        convert bits using 1
        push_cast
        ring
    · exact absurd same (nearest.lt_of_small scaled small).ne'

/-- There is no other rounded number. -/
theorem Nearest.unique (rounds : RoundsTo (amount * 2 ^ power) rounded) :
    rounded = whole * 2 ^ power := by
  have own := nearest.roundsTo scaled
  have same := le_antisymm (rounds.nearest _ own.bits) (own.nearest _ rounds.bits)
  rcases rounds.bits.whole_or_small power with ⟨units, rfl⟩ | small
  · by_contra different
    have apart : units ≠ whole := by
      rintro rfl
      exact different rfl
    have equal := same
    rw [distance_units, distance_units] at equal
    have equal := mul_right_cancel₀ (unit_pos power).ne' equal
    obtain ⟨half, beside⟩ := (integer_nearest nearest.near apart).2 equal
    obtain ⟨twice, rfl⟩ := nearest.even half
    -- The other one is odd, so that it needs all of its bits.
    rcases rounds.even _ own.bits same.symm with same | fewer
    · exact different same.symm
    · obtain ⟨large, _⟩ := scaled.bounds (equal.trans half).le
      obtain ⟨other, rfl⟩ := even_of_hasBits fewer large
      omega
  · exact absurd same (nearest.lt_of_small scaled small).ne'

end

/-! ### The rounding of decimals -/

section
variable {numerator denominator : ℕ}

theorem pow_mul_unit (count : ℕ) (power : ℤ) :
    (2 : ℚ) ^ count * 2 ^ power = 2 ^ (count + power) := by
  rw [zpow_add₀ two_ne_zero, zpow_natCast]

theorem zpow_of_nonneg (base : ℚ) {exponent : ℤ} (nonneg : 0 ≤ exponent) :
    base ^ exponent = base ^ exponent.toNat := by
  conv_lhs => rw [← Int.toNat_of_nonneg nonneg, zpow_natCast]

theorem zpow_of_neg (base : ℚ) {exponent : ℤ} (negative : exponent < 0) :
    base ^ exponent = (base ^ (-exponent).toNat)⁻¹ := by
  rw [← zpow_of_nonneg base (by omega), ← zpow_neg, neg_neg]

theorem nearest_below {whole : ℤ} {rest : ℚ} (least : 0 ≤ rest) (most : rest ≤ 1 / 2)
    (even : rest = 1 / 2 → Even whole) : Nearest (whole + rest) whole := by
  have distance : |(whole : ℚ) + rest - whole| = rest := by
    rw [add_sub_cancel_left, abs_of_nonneg least]
  constructor
  · rwa [distance]
  · rwa [distance]

theorem nearest_above {whole : ℤ} {rest : ℚ} (least : 1 / 2 ≤ rest) (most : rest ≤ 1)
    (even : rest = 1 / 2 → Even (whole + 1)) : Nearest (whole + rest) (whole + 1 : ℤ) := by
  have distance : |(whole : ℚ) + rest - (whole + 1 : ℤ)| = 1 - rest := by
    push_cast
    rw [add_sub_add_left_eq_sub, abs_sub_comm, abs_of_nonneg (by linarith)]
  constructor
  · rw [distance]
    linarith
  · rw [distance]
    exact fun half => even (by linarith)

theorem roundQuotient_nearest (numerator : ℕ) (positive : 0 < denominator) :
    Nearest (numerator / denominator) (roundQuotient numerator denominator) := by
  have divides : (0 : ℚ) < denominator := by exact_mod_cast positive
  have small := Nat.mod_lt numerator positive
  have parts : (numerator : ℚ) / denominator =
      (numerator / denominator : ℕ) + (numerator % denominator : ℕ) / denominator := by
    rw [div_eq_iff divides.ne', add_mul, div_mul_cancel₀ _ divides.ne']
    exact_mod_cast (Nat.div_add_mod' numerator denominator).symm
  have tie : ((numerator % denominator : ℕ) : ℚ) / denominator = 1 / 2 →
      2 * (numerator % denominator) = denominator := by
    rw [div_eq_div_iff divides.ne' two_ne_zero, one_mul, mul_comm]
    exact fun same => by exact_mod_cast same
  rw [parts, roundQuotient]
  split
  next down =>
    refine nearest_below (by positivity) ?_ fun half => ?_
    · rw [div_le_div_iff₀ divides two_pos, one_mul]
      exact_mod_cast (by omega : numerator % denominator * 2 ≤ denominator)
    · have := tie half
      exact_mod_cast Nat.even_iff.mpr (by omega)
  next up =>
    refine nearest_above ?_ ?_ fun half => ?_
    · rw [div_le_div_iff₀ two_pos divides, one_mul]
      exact_mod_cast (by omega : denominator ≤ numerator % denominator * 2)
    · rw [div_le_one divides]
      exact_mod_cast small.le
    · have := tie half
      exact_mod_cast Nat.even_iff.mpr (by omega)

/-- The guess is compared with the fraction without a division. -/
theorem scale_eq (numerator : ℕ) (positive : 0 < denominator) {guess : ℤ}
    (isGuess : guess = (numerator.log2 : ℤ) - denominator.log2) :
    scale numerator denominator =
      if (2 : ℚ) ^ guess ≤ numerator / denominator then guess - 52 else guess - 53 := by
  have divides : (0 : ℚ) < denominator := by exact_mod_cast positive
  simp only [scale, Nat.pow_eq, ← isGuess]
  refine if_congr ?_ rfl rfl
  rw [le_div_iff₀ divides]
  split
  next nonneg =>
    rw [zpow_of_nonneg 2 nonneg, mul_comm]
    norm_cast
  next negative =>
    rw [zpow_of_neg 2 (not_le.mp negative), inv_mul_le_iff₀ (by positivity), mul_comm]
    norm_cast

/-- The scale of a fraction leaves it between `2 ^ 52` and `2 ^ 53` units. -/
theorem scale_scaled (amount : 0 < numerator) (positive : 0 < denominator) :
    Scaled (numerator / denominator) (scale numerator denominator) := by
  have divides : (0 : ℚ) < denominator := by exact_mod_cast positive
  obtain ⟨guess, isGuess⟩ : ∃ guess : ℤ, guess = (numerator.log2 : ℤ) - denominator.log2 :=
    ⟨_, rfl⟩
  have numeratorBits : (2 : ℚ) ^ numerator.log2 ≤ numerator ∧
      (numerator : ℚ) < 2 ^ (numerator.log2 + 1) := by
    exact_mod_cast And.intro (Nat.log2_self_le amount.ne') Nat.lt_log2_self
  have denominatorBits : (2 : ℚ) ^ denominator.log2 ≤ denominator ∧
      (denominator : ℚ) < 2 ^ (denominator.log2 + 1) := by
    exact_mod_cast And.intro (Nat.log2_self_le positive.ne') Nat.lt_log2_self
  have above : (2 : ℚ) ^ (guess - 1) ≤ numerator / denominator := by
    rw [le_div_iff₀ divides]
    calc (2 : ℚ) ^ (guess - 1) * denominator ≤ 2 ^ (guess - 1) * 2 ^ (denominator.log2 + 1) := by
          gcongr
          exact denominatorBits.2.le
      _ = 2 ^ numerator.log2 := by
          rw [mul_comm, pow_mul_unit, ← zpow_natCast, isGuess]
          congr 1
          push_cast
          ring
      _ ≤ numerator := numeratorBits.1
  have below : (numerator : ℚ) / denominator < 2 ^ (guess + 1) := by
    rw [div_lt_iff₀ divides]
    calc (numerator : ℚ) < 2 ^ (numerator.log2 + 1) := numeratorBits.2
      _ = 2 ^ (guess + 1) * 2 ^ denominator.log2 := by
          rw [mul_comm, pow_mul_unit, ← zpow_natCast, isGuess]
          congr 1
          push_cast
          ring
      _ ≤ 2 ^ (guess + 1) * denominator := by
          gcongr
          exact denominatorBits.1
  rw [scale_eq numerator positive isGuess]
  by_cases reached : (2 : ℚ) ^ guess ≤ numerator / denominator
  · rw [if_pos reached]
    constructor
    · rw [pow_mul_unit, show ((52 : ℕ) : ℤ) + (guess - 52) = guess by omega]
      exact reached
    · rw [pow_mul_unit, show ((53 : ℕ) : ℤ) + (guess - 52) = guess + 1 by omega]
      exact below
  · rw [if_neg reached]
    constructor
    · rw [pow_mul_unit, show ((52 : ℕ) : ℤ) + (guess - 53) = guess - 1 by omega]
      exact above
    · rw [pow_mul_unit, show ((53 : ℕ) : ℤ) + (guess - 53) = guess by omega]
      exact not_le.mp reached

theorem roundsTo_zero_iff : RoundsTo 0 rounded ↔ rounded = 0 := by
  constructor
  · intro rounds
    have near := rounds.nearest 0 (hasBits_zero 53)
    rw [sub_zero, abs_zero, zero_sub, abs_neg] at near
    exact abs_nonpos_iff.mp near
  · rintro rfl
    exact roundsTo_zero

/-- The whole part is that of the nearest whole number of units. -/
theorem roundedWhole_units (some : 0 < numerator) (positive : 0 < denominator) :
    ∃ amount : ℚ, ∃ units : ℕ,
      amount * 2 ^ scale numerator denominator = numerator / denominator ∧ Nearest amount units ∧
        (roundedWhole numerator denominator : ℤ) =
          ⌊(units : ℚ) * 2 ^ scale numerator denominator⌋ := by
  rw [roundedWhole, if_neg some.ne']
  generalize scale numerator denominator = power
  simp only [Nat.pow_eq]
  split
  next nonneg =>
    have divides : 0 < denominator * 2 ^ power.toNat := by positivity
    refine ⟨_, _, ?_, roundQuotient_nearest numerator divides, ?_⟩
    · rw [zpow_of_nonneg 2 nonneg]
      push_cast
      field_simp
    · rw [zpow_of_nonneg 2 nonneg]
      exact_mod_cast (Int.floor_natCast _).symm
  next negative =>
    refine ⟨_, _, ?_, roundQuotient_nearest (numerator * 2 ^ (-power).toNat) positive, ?_⟩
    · rw [zpow_of_neg 2 (not_le.mp negative)]
      push_cast
      field_simp
    · rw [zpow_of_neg 2 (not_le.mp negative), ← div_eq_mul_inv]
      exact_mod_cast (Rat.floor_natCast_div_natCast _ _).symm

/-- The whole part is that of the only number to which the fraction is rounded. -/
theorem roundedWhole_spec (numerator : ℕ) (positive : 0 < denominator) :
    ∃ rounded : ℚ, 0 ≤ rounded ∧ (roundedWhole numerator denominator : ℤ) = ⌊rounded⌋ ∧
      ∀ other, RoundsTo (numerator / denominator) other ↔ other = rounded := by
  rcases Nat.eq_zero_or_pos numerator with rfl | some
  · refine ⟨0, le_refl 0, by simp [roundedWhole], fun other => ?_⟩
    rw [Nat.cast_zero, zero_div]
    exact roundsTo_zero_iff
  have scaled := scale_scaled some positive
  obtain ⟨amount, units, same, nearest, whole⟩ := roundedWhole_units some positive
  rw [← same] at scaled ⊢
  refine ⟨units * 2 ^ scale numerator denominator, by positivity, whole, fun other => ⟨?_, ?_⟩⟩
  · intro rounds
    exact_mod_cast nearest.unique scaled rounds
  · rintro rfl
    exact_mod_cast nearest.roundsTo scaled

end

/-! ### Values and what is cut off -/

/-- The number that the decimal stands for. -/
def value (decimal : Decimal) : ℚ :=
  let size := (decimal.digits : ℚ) * 10 ^ decimal.exponent
  if decimal.negative then -size else size

/-- What lies behind the point is cut off. -/
def truncate (number : ℚ) : ℤ := if 0 ≤ number then ⌊number⌋ else ⌈number⌉

theorem truncate_of_nonneg (nonneg : 0 ≤ number) : truncate number = ⌊number⌋ :=
  if_pos nonneg

theorem truncate_neg (number : ℚ) : truncate (-number) = -truncate number := by
  rcases lt_trichotomy number 0 with less | rfl | more
  · rw [truncate_of_nonneg (by linarith), truncate, if_neg (not_le.mpr less), Int.floor_neg]
  · simp [truncate]
  · rw [truncate_of_nonneg more.le, truncate, if_neg (by linarith), Int.ceil_neg]

theorem roundsTo_neg_iff : RoundsTo (-number) rounded ↔ RoundsTo number (-rounded) := by
  constructor
  · intro rounds
    have mirrored := rounds.neg
    rwa [neg_neg] at mirrored
  · intro rounds
    have mirrored := rounds.neg
    rwa [neg_neg] at mirrored

/-- The size of a decimal as a fraction, and how the decimal is cut. -/
theorem truncated_fraction (decimal : Decimal) :
    ∃ numerator denominator : ℕ, 0 < denominator ∧
      (decimal.digits : ℚ) * 10 ^ decimal.exponent = numerator / denominator ∧
        decimal.truncated =
          if decimal.negative then -(roundedWhole numerator denominator : ℤ)
          else roundedWhole numerator denominator := by
  rcases le_or_gt 0 decimal.exponent with nonneg | negative
  · refine ⟨_, 1, one_pos, ?_, by rw [truncated, if_pos nonneg]⟩
    rw [zpow_of_nonneg 10 nonneg, Nat.pow_eq]
    push_cast
    rw [div_one]
  · refine ⟨_, _, ?_, ?_, by rw [truncated, if_neg (not_le.mpr negative)]⟩
    · exact pow_pos (by decide) _
    · rw [zpow_of_neg 10 negative, ← div_eq_mul_inv, Nat.pow_eq]
      push_cast
      rfl

/-- A decimal is rounded to 53 bits, and then what lies behind the point is cut off. -/
theorem truncated_spec (decimal : Decimal) :
    ∃ rounded, decimal.truncated = truncate rounded ∧
      ∀ other, RoundsTo decimal.value other ↔ other = rounded := by
  obtain ⟨numerator, denominator, positive, size, cut⟩ := truncated_fraction decimal
  obtain ⟨rounded, nonneg, whole, only⟩ := roundedWhole_spec numerator positive
  rw [← size] at only
  rw [cut, whole, ← truncate_of_nonneg nonneg, value]
  split
  · refine ⟨-rounded, (truncate_neg rounded).symm, fun other => ?_⟩
    rw [roundsTo_neg_iff, only, neg_eq_iff_eq_neg]
  · exact ⟨rounded, rfl, only⟩

theorem exists_roundsTo (decimal : Decimal) : ∃ rounded, RoundsTo decimal.value rounded := by
  obtain ⟨rounded, _, only⟩ := truncated_spec decimal
  exact ⟨rounded, (only rounded).mpr rfl⟩

/-! ### Where rounding does not matter -/

/-- Rounding does not pass a number of 53 bits. -/
theorem RoundsTo.le_of_le {bound : ℚ} (rounds : RoundsTo number rounded) (bits : HasBits 53 bound)
    (above : number ≤ bound) : rounded ≤ bound := by
  by_contra beyond
  have near := rounds.nearest bound bits
  rw [abs_of_nonpos (by linarith), abs_of_nonpos (by linarith)] at near
  linarith

theorem RoundsTo.ge_of_ge {bound : ℚ} (rounds : RoundsTo number rounded) (bits : HasBits 53 bound)
    (below : bound ≤ number) : bound ≤ rounded :=
  neg_le_neg_iff.mp (rounds.neg.le_of_le bits.neg (neg_le_neg below))

/-- Rounding moves a number by at most one part in `2 ^ 53`. -/
theorem RoundsTo.error (rounds : RoundsTo number rounded) (positive : 0 < number) :
    |number - rounded| * 2 ^ 53 ≤ number := by
  have fraction : (number.num.toNat : ℚ) / number.den = number := by
    have whole : ((number.num.toNat : ℤ) : ℚ) = number.num := by
      rw [Int.toNat_of_nonneg (Rat.num_pos.mpr positive).le]
    rw [← Int.cast_natCast, whole]
    exact Rat.num_div_den number
  have some : 0 < number.num.toNat := by
    have := Rat.num_pos.mpr positive
    omega
  have scaled := scale_scaled some number.den_pos
  obtain ⟨amount, units, same, nearest, _⟩ := roundedWhole_units some number.den_pos
  rw [fraction] at same scaled
  generalize scale number.num.toNat number.den = power at same scaled
  subst same
  have near := mul_le_mul_of_nonneg_right nearest.near (unit_pos power).le
  rw [nearest.unique scaled rounds, distance_units]
  have least := scaled.least
  linarith

/-- Of a decimal whose digits need no more than 53 bits the whole part stays as it is. -/
theorem floor_rounded_eq {digits places : ℕ} (few : digits < 2 ^ 53)
    (rounds : RoundsTo (digits / 10 ^ places) rounded) :
    ⌊rounded⌋ = ⌊(digits : ℚ) / 10 ^ places⌋ := by
  rcases Nat.eq_zero_or_pos digits with rfl | some
  · rw [Nat.cast_zero, zero_div] at rounds ⊢
    rw [roundsTo_zero_iff.mp rounds]
  have parts : (0 : ℚ) < 10 ^ places := by positivity
  obtain ⟨whole, isWhole⟩ : ∃ whole : ℕ, whole = digits / 10 ^ places := ⟨_, rfl⟩
  have floor : ⌊(digits : ℚ) / 10 ^ places⌋ = whole := by
    rw [isWhole]
    exact_mod_cast Rat.floor_natCast_div_natCast digits (10 ^ places)
  obtain ⟨least, below⟩ := Int.floor_eq_iff.mp floor
  rw [floor, Int.floor_eq_iff]
  constructor
  · refine rounds.ge_of_ge ⟨whole, 0, ?_, by simp⟩ least
    have : whole ≤ digits := isWhole ▸ Nat.div_le_self _ _
    rw [Nat.abs_cast]
    exact_mod_cast this.trans_lt few
  · -- The next whole number is further away than rounding can move the decimal.
    by_contra passed
    have beyond := not_lt.mp passed
    have error := rounds.error (by positivity)
    have gap : digits / 10 ^ places + 1 / 10 ^ places ≤ (whole : ℚ) + 1 := by
      rw [← add_div, div_le_iff₀ parts]
      have : digits + 1 ≤ (whole + 1) * 10 ^ places := by
        rw [isWhole]
        exact Nat.lt_mul_of_div_lt (Nat.lt_succ_self _) (by positivity)
      exact_mod_cast this
    rw [abs_of_nonpos (by push_cast at beyond; linarith)] at error
    have large : 2 ^ 53 / 10 ^ places ≤ (digits : ℚ) / 10 ^ places := by
      push_cast at beyond
      have : 1 / 10 ^ places * (2 : ℚ) ^ 53 ≤ digits / 10 ^ places := by linarith
      rwa [one_div_mul_eq_div] at this
    have := (div_le_div_iff_of_pos_right parts).mp large
    exact absurd few (not_lt.mpr (by exact_mod_cast this))

theorem roundsTo_self (bits : HasBits 53 number) : RoundsTo number number where
  bits := bits
  nearest other _ := by
    rw [sub_self, abs_zero]
    exact abs_nonneg _
  even other _ same := by
    rw [sub_self, abs_zero, abs_eq_zero, sub_eq_zero] at same
    exact .inl same.symm

/-- A number of at most one half is rounded to one whose whole part is zero. -/
theorem truncate_of_small (rounds : RoundsTo number rounded) (small : |number| ≤ 1 / 2) :
    truncate rounded = 0 := by
  have half : HasBits 53 (1 / 2) := ⟨1, -1, by norm_num, by norm_num⟩
  obtain ⟨least, most⟩ := abs_le.mp small
  have above := rounds.le_of_le half most
  have below := rounds.ge_of_ge half.neg least
  rw [truncate]
  split
  · rw [Int.floor_eq_zero_iff]
    constructor <;> linarith
  · rw [Int.ceil_eq_zero_iff]
    constructor <;> linarith

/-- The whole part of what a large number is rounded to does not fit into 64 bits. -/
theorem not_fits_of_large (rounds : RoundsTo number rounded) (large : 2 ^ 64 ≤ |number|) :
    ¬ (-2 ^ 63 ≤ truncate rounded ∧ truncate rounded ≤ 2 ^ 63 - 1) := by
  have bound : HasBits 53 (2 ^ 64) := ⟨1, 64, by norm_num, by norm_num⟩
  rintro ⟨least, most⟩
  rcases le_abs'.mp large with negative | positive
  · have below := rounds.le_of_le bound.neg negative
    rw [truncate, if_neg (by linarith)] at least
    have : ⌈rounded⌉ ≤ -2 ^ 64 := Int.ceil_le.mpr (by exact_mod_cast below)
    omega
  · have above := rounds.ge_of_ge bound positive
    rw [truncate_of_nonneg (by linarith)] at most
    have : 2 ^ 64 ≤ ⌊rounded⌋ := Int.le_floor.mpr (by exact_mod_cast above)
    omega

/-- Digits below `2 ^ 53` without a power of ten behind them are cut exactly. -/
theorem truncate_rounded_eq {decimal : Decimal} (few : decimal.digits < 2 ^ 53)
    (noPower : decimal.exponent ≤ 0) (rounds : RoundsTo decimal.value rounded) :
    truncate rounded = truncate decimal.value := by
  obtain ⟨negative, digits, exponent⟩ := decimal
  obtain ⟨places, rfl⟩ := Int.exists_eq_neg_ofNat noPower
  have size : (digits : ℚ) * 10 ^ (-(places : ℤ)) = digits / 10 ^ places := by
    rw [zpow_neg, zpow_natCast, div_eq_mul_inv]
  have nonneg : (0 : ℚ) ≤ digits / 10 ^ places := by positivity
  have cut {number : ℚ} (rounds : RoundsTo (digits / 10 ^ places) number) :
      truncate number = truncate (digits / 10 ^ places) := by
    rw [truncate_of_nonneg (rounds.ge_of_ge (hasBits_zero 53) nonneg), truncate_of_nonneg nonneg]
    exact floor_rounded_eq few rounds
  cases negative with
  | false =>
      change RoundsTo (digits * 10 ^ (-(places : ℤ))) rounded at rounds
      change _ = truncate (digits * 10 ^ (-(places : ℤ)))
      rw [size] at rounds ⊢
      exact cut rounds
  | true =>
      change RoundsTo (-(digits * 10 ^ (-(places : ℤ)))) rounded at rounds
      change _ = truncate (-(digits * 10 ^ (-(places : ℤ))))
      rw [size] at rounds ⊢
      rw [truncate_neg, ← cut (roundsTo_neg_iff.mp rounds), truncate_neg, neg_neg]

/-! ### Large and small decimals -/

theorem abs_value (decimal : Decimal) :
    |decimal.value| = decimal.digits * 10 ^ decimal.exponent := by
  have nonneg : (0 : ℚ) ≤ decimal.digits * 10 ^ decimal.exponent := by positivity
  rw [value]
  split
  · rw [abs_neg, abs_of_nonneg nonneg]
  · exact abs_of_nonneg nonneg

/-- With a large exponent any decimal but zero is large. -/
theorem large_of_exponent {decimal : Decimal} (some : 0 < decimal.digits)
    (large : 20 ≤ decimal.exponent) : 2 ^ 64 ≤ |decimal.value| := by
  have one : (1 : ℚ) ≤ decimal.digits := by exact_mod_cast some
  rw [abs_value]
  calc (2 : ℚ) ^ 64 ≤ 1 * 10 ^ (20 : ℤ) := by norm_num
    _ ≤ decimal.digits * 10 ^ decimal.exponent :=
        mul_le_mul one (zpow_le_zpow_right₀ (by norm_num) large) (by positivity) (by positivity)

/-- A decimal without digits before the point is small. -/
theorem small_of_exponent {decimal : Decimal} {count : ℕ} (few : decimal.digits < 10 ^ count)
    (negative : decimal.exponent < -count) : |decimal.value| ≤ 1 / 2 := by
  have few : (decimal.digits : ℚ) ≤ 10 ^ count := by exact_mod_cast few.le
  rw [abs_value]
  calc (decimal.digits : ℚ) * 10 ^ decimal.exponent ≤ 10 ^ count * 10 ^ (-(count : ℤ) - 1) := by
        gcongr
        · norm_num
        · omega
    _ = 1 / 10 := by
        rw [← zpow_natCast, ← zpow_add₀ (by norm_num), show (count : ℤ) + (-count - 1) = -1 by ring]
        norm_num
    _ ≤ 1 / 2 := by norm_num

theorem small_of_zero {decimal : Decimal} (none : decimal.digits = 0) :
    |decimal.value| ≤ 1 / 2 := by
  rw [abs_value, none, Nat.cast_zero, zero_mul]
  norm_num

end AnnotatedSql.Decimal
