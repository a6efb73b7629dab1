/-
Odds as numbers. The odds of a release are the bits of a float with one sign bit, eleven bits
of exponent and 52 bits of fraction, and the number behind them is a fraction of integers. A
chance is decided on the bits alone; here it is compared with the number: the odds that stand
for a chance are those from zero to one, and the threshold of a draw is the whole part of the
number times 2^64.
-/

import Allotment.Churn.Sampling
import Mathlib.Algebra.Order.Floor.Semifield
import Mathlib.Data.Rat.Floor

namespace Allotment.Churn

namespace Odds

variable (odds : Odds)

/-- The size of the float in units of 2^-1075. A float below the normal ones has the exponent of
the smallest of those, and no leading one. -/
def units : Nat :=
  if odds.exponent = 0 then 2 * odds.fraction
  else (2 ^ 52 + odds.fraction) * 2 ^ odds.exponent

/-- The number that the float stands for. The largest exponent is that of infinity and of what is
no number. -/
def value? : Option ℚ :=
  if odds.exponent = 2047 then none
  else
    let size : ℚ := odds.units / 2 ^ 1075
    some (if odds.isNegative then -size else size)

theorem fraction_lt : odds.fraction < 2 ^ 52 :=
  Nat.mod_lt _ (by decide)

/-- Only the two zeros have no units. -/
theorem units_eq_zero_iff : odds.units = 0 ↔ odds.exponent = 0 ∧ odds.fraction = 0 := by
  unfold units
  split
  next small => simp [small]
  next normal =>
    simp [normal]

/-- A float without a sign is the exponent and then the fraction. -/
theorem bits_eq (positive : odds.isNegative = false) :
    odds.bits.toNat = 2 ^ 52 * odds.exponent + odds.fraction := by
  have below : odds.bits.toNat < 2 ^ 63 := Nat.lt_of_not_le (of_decide_eq_false positive)
  have field : odds.exponent = odds.bits.toNat / 2 ^ 52 := Nat.mod_eq_of_lt (by omega)
  rw [field]
  exact (Nat.div_add_mod _ _).symm

theorem eq_one_iff :
    odds = one ↔ odds.isNegative = false ∧ odds.exponent = 1023 ∧ odds.fraction = 0 := by
  constructor
  · rintro rfl
    decide
  · rintro ⟨positive, exponent, fraction⟩
    have bits := odds.bits_eq positive
    rw [exponent, fraction] at bits
    exact congrArg Odds.mk (UInt64.toNat_inj.mp bits)

/-- A float is below a power of two by its exponent. -/
theorem units_lt_iff (exponent : Nat) (positive : 0 < exponent) :
    odds.units < 2 ^ 52 * 2 ^ exponent ↔ odds.exponent < exponent := by
  have fraction := odds.fraction_lt
  constructor
  · intro below
    by_contra large
    have normal : odds.exponent ≠ 0 := by omega
    rw [units, if_neg normal] at below
    refine absurd below (Nat.not_lt.mpr (Nat.mul_le_mul (Nat.le_add_right _ _) ?_))
    exact Nat.pow_le_pow_right Nat.zero_lt_two (Nat.le_of_not_lt large)
  · intro below
    unfold units
    split
    next small =>
      calc 2 * odds.fraction
        _ < 2 ^ 52 * 2 := by omega
        _ ≤ 2 ^ 52 * 2 ^ exponent :=
          Nat.mul_le_mul_left _ (Nat.pow_le_pow_right Nat.zero_lt_two positive)
    next normal =>
      have doubled : 2 ^ odds.exponent * 2 ≤ 2 ^ exponent :=
        Nat.pow_le_pow_right Nat.zero_lt_two below
      calc (2 ^ 52 + odds.fraction) * 2 ^ odds.exponent
        _ < (2 ^ 52 * 2) * 2 ^ odds.exponent :=
          Nat.mul_lt_mul_of_pos_right (by omega) (Nat.two_pow_pos _)
        _ = 2 ^ 52 * (2 ^ odds.exponent * 2) := by rw [Nat.mul_assoc, Nat.mul_comm 2]
        _ ≤ _ := Nat.mul_le_mul_left _ doubled

/-- A float is a power of two by its exponent and its fraction. -/
theorem units_eq_iff (exponent : Nat) (positive : 0 < exponent) :
    odds.units = 2 ^ 52 * 2 ^ exponent ↔ odds.exponent = exponent ∧ odds.fraction = 0 := by
  constructor
  · intro whole
    have large : exponent ≤ odds.exponent :=
      Nat.le_of_not_lt fun below => Nat.ne_of_lt ((odds.units_lt_iff _ positive).mpr below) whole
    have normal : odds.exponent ≠ 0 := by omega
    rw [units, if_neg normal] at whole
    have larger : 2 ^ 52 * 2 ^ exponent ≤ 2 ^ 52 * 2 ^ odds.exponent :=
      Nat.mul_le_mul_left _ (Nat.pow_le_pow_right Nat.zero_lt_two large)
    rw [← whole] at larger
    have bare := Nat.le_of_mul_le_mul_right larger (Nat.two_pow_pos _)
    have none : odds.fraction = 0 := by omega
    rw [none, Nat.add_zero] at whole
    have same := Nat.eq_of_mul_eq_mul_left (Nat.two_pow_pos 52) whole
    exact ⟨Nat.pow_right_injective (Nat.le_refl 2) same, none⟩
  · rintro ⟨rfl, none⟩
    rw [units, if_neg (Nat.ne_of_gt positive), none, Nat.add_zero]

/-- A power of two as a number of units. -/
theorem two_pow_eq (exponent : Nat) :
    (2 : ℚ) ^ (52 + exponent) = ((2 ^ 52 * 2 ^ exponent : Nat) : ℚ) := by
  rw [Nat.cast_mul, Nat.cast_pow, Nat.cast_pow, Nat.cast_two, pow_add]

/-! ### The chance -/

variable (value : ℚ)

theorem value?_eq_some_iff : odds.value? = some value ↔ odds.exponent ≠ 2047 ∧
    value = if odds.isNegative then -(odds.units / 2 ^ 1075 : ℚ) else odds.units / 2 ^ 1075 := by
  unfold value?
  split
  next special => simp only [reduceCtorEq, special, ne_eq, not_true_eq_false, false_and]
  next finite => simp only [Option.some.injEq, finite, ne_eq, not_false_eq_true, true_and, eq_comm]

/-- A number that is not below zero is the units alone, be there a sign or not. -/
theorem value_eq (known : odds.value? = some value) (least : 0 ≤ value) :
    value = odds.units / 2 ^ 1075 ∧ (odds.isNegative → odds.units = 0) := by
  obtain ⟨_, equal⟩ := (odds.value?_eq_some_iff value).mp known
  cases negative : odds.isNegative with
  | false =>
    rw [negative, if_neg Bool.false_ne_true] at equal
    exact ⟨equal, nofun⟩
  | true =>
    rw [negative, if_pos rfl] at equal
    have scale : (0 : ℚ) < 2 ^ 1075 := pow_pos two_pos _
    have zero : (odds.units / 2 ^ 1075 : ℚ) = 0 :=
      le_antisymm (neg_nonneg.mp (equal ▸ least)) (div_nonneg (Nat.cast_nonneg _) scale.le)
    refine ⟨by rw [equal, zero, neg_zero], fun _ => ?_⟩
    have none := (div_eq_zero_iff.mp zero).resolve_right scale.ne'
    exact_mod_cast none

/-- The whole part of a division by a power of two is a shift. -/
theorem floor_div_two_pow (count exponent : Nat) :
    ⌊(count : ℚ) / 2 ^ exponent⌋₊ = count >>> exponent := by
  rw [← Nat.cast_two, ← Nat.cast_pow, Nat.floor_div_eq_div, Nat.shiftRight_eq_div_pow]

/-- The threshold is the whole part of the number times 2^64. -/
theorem threshold_eq (known : odds.value? = some value) (least : 0 ≤ value) :
    odds.threshold = ⌊value * 2 ^ 64⌋₊ := by
  obtain ⟨equal, _⟩ := odds.value_eq value known least
  have scale : (2 : ℚ) ^ 1075 = 2 ^ 1011 * 2 ^ 64 := pow_add 2 1011 64
  rw [equal, scale, ← div_div, div_mul_cancel₀ _ (by norm_num), floor_div_two_pow]
  by_cases small : odds.exponent = 0
  · have fraction := odds.fraction_lt
    have tiny : 2 * odds.fraction < 2 ^ 53 := by omega
    have larger := Nat.pow_le_pow_right Nat.zero_lt_two (by decide : 53 ≤ 1011)
    rw [threshold, if_pos small, units, if_pos small,
      Nat.shiftRight_eq_zero _ _ (Nat.lt_of_lt_of_le tiny larger)]
  · rw [threshold, if_neg small, units, if_neg small, Nat.shiftRight_eq_div_pow, Nat.shiftLeft_eq]

/-- The number is below one by the exponent. -/
theorem value_lt_one_iff (known : odds.value? = some value) (least : 0 ≤ value) :
    value < 1 ↔ odds.exponent < 1023 := by
  have scale : (0 : ℚ) < 2 ^ 1075 := pow_pos two_pos _
  rw [(odds.value_eq value known least).1, div_lt_one scale, two_pow_eq 1023, Nat.cast_lt]
  exact odds.units_lt_iff 1023 (by decide)

/-- The number is one for the float one alone. -/
theorem value_eq_one_iff (known : odds.value? = some value) (least : 0 ≤ value) :
    value = 1 ↔ odds = one := by
  obtain ⟨equal, zero⟩ := odds.value_eq value known least
  have scale : (0 : ℚ) < 2 ^ 1075 := pow_pos two_pos _
  rw [equal, div_eq_one_iff_eq scale.ne', two_pow_eq 1023, Nat.cast_inj,
    odds.units_eq_iff 1023 (by decide), eq_one_iff]
  refine (and_iff_right_of_imp fun same => Bool.eq_false_iff.mpr fun negative => ?_).symm
  have none := odds.units_eq_zero_iff.mp (zero negative)
  omega

/-- A number from zero to one is a chance: always yes at one, and below it a draw below the whole
part of the number times 2^64. -/
theorem chance?_of_value (known : odds.value? = some value) (least : 0 ≤ value)
    (most : value ≤ 1) :
    odds.chance? = some (if value = 1 then .always else .below ⌊value * 2 ^ 64⌋₊) := by
  rw [← odds.threshold_eq value known least]
  unfold chance?
  rcases lt_or_eq_of_le most with below | whole
  · have small := (odds.value_lt_one_iff value known least).mp below
    have different := mt (odds.value_eq_one_iff value known least).mpr below.ne
    rw [if_neg below.ne, if_neg different, if_pos small]
    split
    next negative =>
      have zero := odds.units_eq_zero_iff.mp ((odds.value_eq value known least).2 negative)
      rw [if_pos zero, threshold, if_pos zero.1]
    next positive => rfl
  · rw [if_pos whole, if_pos ((odds.value_eq_one_iff value known least).mp whole)]

/-- Odds that stand for a chance are a number from zero to one. -/
theorem exists_value_of_chance? (chance : Chance) (known : odds.chance? = some chance) :
    ∃ value, odds.value? = some value ∧ 0 ≤ value ∧ value ≤ 1 := by
  have scale : (0 : ℚ) < 2 ^ 1075 := pow_pos two_pos _
  -- The exponent is that of one at most, so the odds are a number, and it is only left to compare.
  have number (finite : odds.exponent < 2047) (zero : odds.isNegative → odds.units = 0) :
      ∃ value, odds.value? = some value ∧ 0 ≤ value := by
    refine ⟨_, (odds.value?_eq_some_iff _).mpr ⟨Nat.ne_of_lt finite, rfl⟩, ?_⟩
    split
    next negative => rw [zero negative, Nat.cast_zero, zero_div, neg_zero]
    next positive => exact div_nonneg (Nat.cast_nonneg _) scale.le
  unfold chance? at known
  split at known
  next whole =>
    obtain ⟨positive, exponent, _⟩ := odds.eq_one_iff.mp whole
    obtain ⟨value, found, least⟩ := number (by omega) (by simp [positive])
    exact ⟨value, found, least, ((odds.value_eq_one_iff value found least).mpr whole).le⟩
  next other =>
  split at known
  next negative =>
    split at known
    next zero =>
      obtain ⟨value, found, least⟩ := number (by omega) fun _ => odds.units_eq_zero_iff.mpr zero
      exact ⟨value, found, least, ((odds.value_lt_one_iff value found least).mpr (by omega)).le⟩
    next some => cases known
  next positive =>
    split at known
    next below =>
      obtain ⟨value, found, least⟩ := number (by omega) fun negative => absurd negative positive
      exact ⟨value, found, least, ((odds.value_lt_one_iff value found least).mpr below).le⟩
    next above => cases known

/-- The odds stand for a chance exactly if they are a number from zero to one. At one it is
always yes, and below it a draw below the whole part of the number times 2^64. -/
theorem chance?_eq_some_iff (chance : Chance) :
    odds.chance? = some chance ↔ ∃ value, odds.value? = some value ∧ 0 ≤ value ∧ value ≤ 1 ∧
      chance = if value = 1 then .always else .below ⌊value * 2 ^ 64⌋₊ := by
  constructor
  · intro known
    obtain ⟨value, found, least, most⟩ := odds.exists_value_of_chance? chance known
    rw [odds.chance?_of_value value found least most] at known
    exact ⟨value, found, least, most, (Option.some.inj known).symm⟩
  · rintro ⟨value, found, least, most, rfl⟩
    exact odds.chance?_of_value value found least most

end Odds

end Allotment.Churn
