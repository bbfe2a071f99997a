import Clearance.Decimal.Nearest
import Clearance.Decimal.Shortest
import Mathlib.Algebra.Order.Field.Power
import Mathlib.Data.Nat.Cast.Order.Field
import Mathlib.Data.Rat.Cast.Order
import Mathlib.Tactic.Linarith
import Mathlib.Tactic.Positivity

/-!
# Rounding to doubles

What it means to round a number to a double, apart from how it is done. The doubles from zero on are
the numbers behind the bits from 0 up to those of infinity, and infinity counts as the double that
would come after the last one. A number is rounded to the one nearest to it, and of two that are
equally near to the one whose bits are even. The numbers rise with their bits, so it is enough to
compare a number with the two doubles that it lies between.

Results:
1. `level_eq`, `level_lt`: the numbers behind bits, counted in the smallest double.
2. `RoundsTo.unique`: a number is rounded to one double at most.
3. `roundsTo_nearestBits`, `roundsTo_decimalBits`: fractions and decimals are rounded.
4. `rounds_iff`: the double nearest to a decimal is the one that it is rounded to.
-/

namespace Clearance.Decimal

/-! ## The doubles -/

/-- The number behind the bits of a double, which for infinity is `2 ^ 1024`. -/
def level (bits : Nat) : ℚ :=
  let double := Binary.ofBits (UInt64.ofNat bits)
  double.mantissa * 2 ^ double.exponent

/-- How often the smallest double goes into the number behind the bits of a double. -/
def units (bits : Nat) : Nat :=
  let shift := bits / 2 ^ 52 - 1
  (bits - shift * 2 ^ 52) * 2 ^ shift

theorem level_eq {bits : Nat} (finite : bits ≤ infinityBits) :
    level bits = units bits / 2 ^ places := by
  have word : (UInt64.ofNat bits).toNat = bits := by
    rw [UInt64.toNat_ofNat', Nat.mod_eq_of_lt]
    unfold infinityBits at finite
    omega
  have biased : bits / 2 ^ 52 % 2 ^ 11 = bits / 2 ^ 52 := by
    unfold infinityBits at finite
    omega
  have places (shift : Nat) : (2 : ℚ) ^ ((shift : Int) - 1074) = 2 ^ shift / 2 ^ places := by
    rw [← zpow_natCast, ← zpow_natCast, ← zpow_sub₀ two_ne_zero, places]
    rfl
  unfold level units Binary.ofBits
  simp only [word, Nat.pow_eq, biased]
  split
  · next subnormal =>
    have fraction : bits % 2 ^ 52 = bits := by omega
    have smallest := places 0
    rw [pow_zero, Nat.cast_zero, zero_sub] at smallest
    simp only [subnormal, fraction, smallest, Nat.zero_sub, Nat.zero_mul, Nat.sub_zero, pow_zero,
      mul_one, mul_one_div]
  · next normal =>
    obtain ⟨shift, top⟩ := Nat.exists_eq_succ_of_ne_zero normal
    have mantissa : bits - shift * 2 ^ 52 = 2 ^ 52 + bits % 2 ^ 52 := by omega
    have exponent : ((shift.succ : Nat) : Int) - 1075 = shift - 1074 := by omega
    rw [top, exponent, places, Nat.succ_sub_one, mantissa, Nat.cast_mul, Nat.cast_pow,
      Nat.cast_ofNat, mul_div_assoc]

/-- The bits that put one mantissa into each of the steps of `2 ^ shift`. The last of them is also
the first with steps of double the length. -/
theorem units_eq {shift mantissa : Nat} (fits : mantissa ≤ 2 ^ 53)
    (normal : shift = 0 ∨ 2 ^ 52 ≤ mantissa) :
    units (shift * 2 ^ 52 + mantissa) = mantissa * 2 ^ shift := by
  unfold units
  dsimp only
  obtain full | rfl := Nat.lt_or_eq_of_le fits
  · have same : (shift * 2 ^ 52 + mantissa) / 2 ^ 52 - 1 = shift := by omega
    rw [same, Nat.add_sub_cancel_left]
  · have next : (shift * 2 ^ 52 + 2 ^ 53) / 2 ^ 52 - 1 = shift + 1 := by omega
    have half : shift * 2 ^ 52 + 2 ^ 53 - (shift + 1) * 2 ^ 52 = 2 ^ 52 := by omega
    rw [next, half, Nat.pow_succ]
    omega

/-- Bits are those of a step and a mantissa. -/
theorem exists_parts (bits : Nat) : ∃ shift mantissa, bits = shift * 2 ^ 52 + mantissa ∧
    mantissa < 2 ^ 53 ∧ (shift = 0 ∨ 2 ^ 52 ≤ mantissa) := by
  refine ⟨bits / 2 ^ 52 - 1, bits - (bits / 2 ^ 52 - 1) * 2 ^ 52, ?_, ?_, ?_⟩ <;> omega

theorem units_strictMono : StrictMono units := by
  refine strictMono_nat_of_lt_succ fun bits => ?_
  obtain ⟨shift, mantissa, rfl, fits, normal⟩ := exists_parts bits
  rw [Nat.add_assoc, units_eq fits.le normal, units_eq fits (by omega)]
  exact Nat.mul_lt_mul_of_pos_right (Nat.lt_succ_self mantissa) (Nat.two_pow_pos shift)

theorem level_lt {bits other : Nat} (finite : other ≤ infinityBits) (less : bits < other) :
    level bits < level other := by
  rw [level_eq finite, level_eq (less.le.trans finite)]
  have counted : (units bits : ℚ) < units other := Nat.cast_lt.mpr (units_strictMono less)
  exact div_lt_div_of_pos_right counted (by positivity)

/-! ## Rounding -/

/-- A number is rounded to the double with some bits. -/
structure RoundsTo (number : ℚ) (bits : Nat) : Prop where
  finite : bits ≤ infinityBits
  /-- No other double lies nearer. -/
  nearest : ∀ other ≤ infinityBits, |number - level bits| ≤ |number - level other|
  /-- Of two that lie equally near it is the one with even bits. -/
  even : ∀ other ≤ infinityBits, |number - level other| = |number - level bits| →
    other = bits ∨ bits % 2 = 0

section Rounding

variable {number : ℚ} {bits other : Nat}

theorem farther_below (finite : bits ≤ infinityBits) (above : level bits ≤ number)
    (less : other < bits) : |number - level bits| < |number - level other| := by
  have rises := level_lt finite less
  rw [abs_of_nonneg (by linarith), abs_of_nonneg (by linarith)]
  linarith

theorem farther_above (finite : other ≤ infinityBits) (below : number ≤ level bits)
    (less : bits < other) : |number - level bits| < |number - level other| := by
  have rises := level_lt finite less
  rw [abs_of_nonpos (by linarith), abs_of_nonpos (by linarith)]
  linarith

theorem RoundsTo.le (rounded : RoundsTo number bits) (again : RoundsTo number other) :
    other ≤ bits := by
  by_contra less
  rw [Nat.not_le] at less
  have equal : |number - level other| = |number - level bits| :=
    le_antisymm (again.nearest bits rounded.finite) (rounded.nearest other again.finite)
  have evenBits := (rounded.even other again.finite equal).resolve_left less.ne'
  have evenOther := (again.even bits rounded.finite equal.symm).resolve_left less.ne
  -- The double after the lower one has odd bits, so it lies between the two.
  have between : bits + 1 < other := by omega
  have finite := between.le.trans again.finite
  obtain above | below := le_total (level (bits + 1)) number
  · exact (farther_below finite above (Nat.lt_succ_self bits)).not_ge (rounded.nearest _ finite)
  · exact (farther_above again.finite below between).not_ge (again.nearest _ finite)

/-- A number is rounded to one double at most. -/
theorem RoundsTo.unique (rounded : RoundsTo number bits) (again : RoundsTo number other) :
    bits = other :=
  Nat.le_antisymm (again.le rounded) (rounded.le again)

theorem roundsTo_of_closer (finite : bits ≤ infinityBits)
    (closer : ∀ other ≤ infinityBits, other ≠ bits →
      |number - level bits| < |number - level other| ∨
        |number - level bits| = |number - level other| ∧ bits % 2 = 0) :
    RoundsTo number bits where
  finite := finite
  nearest other finite := by
    by_cases same : other = bits
    · rw [same]
    · obtain less | ⟨equal, -⟩ := closer other finite same
      · exact less.le
      · exact equal.le
  even other finite equal := by
    by_cases same : other = bits
    · exact .inl same
    · obtain less | ⟨-, even⟩ := closer other finite same
      · exact absurd equal less.ne'
      · exact .inr even

/-- A number below the middle between two doubles is rounded down, and one in the middle is if the
lower double has even bits. -/
theorem roundsTo_below (finite : bits < infinityBits) (above : level bits ≤ number)
    (nearer : number - level bits < level (bits + 1) - number ∨
      number - level bits = level (bits + 1) - number ∧ bits % 2 = 0) :
    RoundsTo number bits := by
  have below : number ≤ level (bits + 1) := by
    obtain less | ⟨equal, -⟩ := nearer <;> linarith
  refine roundsTo_of_closer finite.le fun other small differs => ?_
  obtain less | greater := differs.lt_or_gt
  · exact .inl (farther_below finite.le above less)
  · have next : |number - level (bits + 1)| ≤ |number - level other| := by
      obtain more | rfl := Nat.lt_or_eq_of_le greater
      · exact (farther_above small below more).le
      · exact le_rfl
    rw [abs_of_nonpos (sub_nonpos.mpr below), neg_sub] at next
    rw [abs_of_nonneg (sub_nonneg.mpr above)]
    obtain less | ⟨equal, even⟩ := nearer
    · exact .inl (less.trans_le next)
    · rw [equal]
      exact next.lt_or_eq.imp_right fun same => ⟨same, even⟩

/-- A number above the middle between two doubles is rounded up, and one in the middle is if the
higher double has even bits. -/
theorem roundsTo_above (finite : bits < infinityBits) (below : number ≤ level (bits + 1))
    (nearer : level (bits + 1) - number < number - level bits ∨
      level (bits + 1) - number = number - level bits ∧ (bits + 1) % 2 = 0) :
    RoundsTo number (bits + 1) := by
  have above : level bits ≤ number := by
    obtain less | ⟨equal, -⟩ := nearer <;> linarith
  refine roundsTo_of_closer finite fun other small differs => ?_
  obtain less | greater := differs.lt_or_gt
  · have last : |number - level bits| ≤ |number - level other| := by
      obtain more | rfl := Nat.lt_or_eq_of_le (Nat.le_of_lt_succ less)
      · exact (farther_below finite.le above more).le
      · exact le_rfl
    rw [abs_of_nonneg (sub_nonneg.mpr above)] at last
    rw [abs_of_nonpos (sub_nonpos.mpr below), neg_sub]
    obtain less | ⟨equal, even⟩ := nearer
    · exact .inl (less.trans_le last)
    · rw [equal]
      exact last.lt_or_eq.imp_right fun same => ⟨same, even⟩
  · exact .inl (farther_above small below greater)

/-- From the double on that would come after the last one, numbers are infinite. -/
theorem roundsTo_infinity (above : level infinityBits ≤ number) :
    RoundsTo number infinityBits := by
  refine roundsTo_of_closer le_rfl fun other finite differs => ?_
  exact .inl (farther_below le_rfl above (lt_of_le_of_ne finite differs))

end Rounding

/-! ## Fractions and decimals -/

/-- Cutting a number to 53 places leaves all of them but for the smallest doubles. -/
theorem parts_of_log2 (count : Nat) : count / 2 ^ (count.log2 - 52) < 2 ^ 53 ∧
    (count.log2 - 52 = 0 ∨ 2 ^ 52 ≤ count / 2 ^ (count.log2 - 52)) := by
  constructor
  · rw [Nat.div_lt_iff_lt_mul (Nat.two_pow_pos _), ← Nat.pow_add]
    exact Nat.lt_log2_self.trans_le (Nat.pow_le_pow_right Nat.two_pos (by omega))
  · by_cases small : count.log2 ≤ 52
    · exact .inl (by omega)
    · have nonzero : count ≠ 0 := by
        rintro rfl
        exact small (by decide)
      rw [Nat.le_div_iff_mul_le (Nat.two_pow_pos _), ← Nat.pow_add]
      have whole : 52 + (count.log2 - 52) = count.log2 := by omega
      rw [whole]
      exact .inr (Nat.log2_self_le nonzero)

section Fractions

variable {numerator denominator : Nat}

theorem sub_level {bits : Nat} (positive : 0 < denominator) (finite : bits ≤ infinityBits) :
    (numerator / denominator : ℚ) - level bits =
      ((numerator * 2 ^ places : Nat) - (units bits * denominator : Nat)) /
        (denominator * 2 ^ places : Nat) := by
  have whole : (denominator : ℚ) ≠ 0 := Nat.cast_ne_zero.mpr positive.ne'
  rw [level_eq finite, div_sub_div _ _ whole (by positivity), Nat.mul_comm (units bits)]
  push_cast
  rfl

/-- A fraction between two doubles is rounded by what is left of it behind the lower one, compared
with the step to the higher one. -/
theorem roundsTo_of_rest {bits rest step : Nat} (positive : 0 < denominator)
    (finite : bits < infinityBits)
    (cut : numerator * 2 ^ places = units bits * denominator + rest) (small : rest < step)
    (steps : units (bits + 1) * denominator = units bits * denominator + step) :
    RoundsTo (numerator / denominator)
      (if 2 * rest < step ∨ 2 * rest = step ∧ bits % 2 = 0 then bits else bits + 1) := by
  have scale : (0 : ℚ) < (denominator * 2 ^ places : Nat) :=
    Nat.cast_pos.mpr (Nat.mul_pos positive (Nat.two_pow_pos places))
  have behind : (numerator / denominator : ℚ) - level bits =
      rest / (denominator * 2 ^ places : Nat) := by
    rw [sub_level positive finite.le, cut, Nat.cast_add, add_sub_cancel_left]
  have ahead : level (bits + 1) - (numerator / denominator : ℚ) =
      (step - rest : Nat) / (denominator * 2 ^ places : Nat) := by
    rw [← neg_sub, sub_level positive finite, cut, steps, ← neg_div, Nat.cast_add, Nat.cast_add,
      add_sub_add_left_eq_sub, neg_sub, Nat.cast_sub small.le]
  split
  · next down =>
    refine roundsTo_below finite (sub_nonneg.mp ?_) ?_
    · rw [behind]
      exact div_nonneg (Nat.cast_nonneg _) scale.le
    · rw [behind, ahead, div_lt_div_iff_of_pos_right scale, div_left_inj' scale.ne', Nat.cast_lt,
        Nat.cast_inj]
      omega
  · next up =>
    refine roundsTo_above finite (sub_nonneg.mp ?_) ?_
    · rw [ahead]
      exact div_nonneg (Nat.cast_nonneg _) scale.le
    · rw [behind, ahead, div_lt_div_iff_of_pos_right scale, div_left_inj' scale.ne', Nat.cast_lt,
        Nat.cast_inj]
      omega

theorem roundsTo_infinity_of_units (positive : 0 < denominator)
    (most : units infinityBits * denominator ≤ numerator * 2 ^ places) :
    RoundsTo (numerator / denominator) infinityBits := by
  refine roundsTo_infinity (sub_nonneg.mp ?_)
  rw [sub_level positive le_rfl]
  exact div_nonneg (sub_nonneg.mpr (Nat.cast_le.mpr most)) (Nat.cast_nonneg _)

/-- The same for a mantissa and a step of a power of two. -/
theorem roundsTo_of_step {shift below rest : Nat} (positive : 0 < denominator)
    (cut : numerator * 2 ^ places = below * 2 ^ shift * denominator + rest)
    (small : rest < denominator * 2 ^ shift) (fits : below < 2 ^ 53)
    (normal : shift = 0 ∨ 2 ^ 52 ≤ below) :
    RoundsTo (numerator / denominator) (min (shift * 2 ^ 52 +
      if 2 * rest < denominator * 2 ^ shift ∨
        2 * rest = denominator * 2 ^ shift ∧ below % 2 = 0 then below else below + 1)
      infinityBits) := by
  have lower := units_eq fits.le normal
  have higher : units (shift * 2 ^ 52 + below + 1) * denominator =
      units (shift * 2 ^ 52 + below) * denominator + denominator * 2 ^ shift := by
    rw [lower, Nat.add_assoc, units_eq fits (by omega), Nat.succ_mul, Nat.add_mul,
      Nat.mul_comm (2 ^ shift)]
  rw [← lower] at cut
  obtain finite | beyond := Nat.lt_or_ge (shift * 2 ^ 52 + below) infinityBits
  · have rounded := roundsTo_of_rest positive finite cut small higher
    have parity : (shift * 2 ^ 52 + below) % 2 = below % 2 := by omega
    rw [parity] at rounded
    split
    · next down =>
      rw [if_pos down] at rounded
      rwa [min_eq_left finite.le]
    · next up =>
      rw [if_neg up] at rounded
      rwa [← Nat.add_assoc, min_eq_left finite]
  · rw [min_eq_right (by split <;> omega)]
    refine roundsTo_infinity_of_units positive ?_
    rw [cut]
    exact Nat.le_add_right_of_le (Nat.mul_le_mul_right _ (units_strictMono.monotone beyond))

theorem roundsTo_nearestBits (positive : 0 < denominator) :
    RoundsTo (numerator / denominator) (nearestBits numerator denominator) := by
  obtain ⟨fits, normal⟩ := parts_of_log2 (numerator * 2 ^ places / denominator)
  rw [Nat.div_div_eq_div_mul] at fits normal
  simp only [nearestBits, Nat.pow_eq]
  refine roundsTo_of_step positive ?_ ?_ fits normal
  · rw [Nat.mul_assoc, Nat.mul_comm _ denominator]
    exact (Nat.div_add_mod' _ _).symm
  · exact Nat.mod_lt _ (Nat.mul_pos positive (Nat.two_pow_pos _))

end Fractions

theorem decimal_eq (digits : Nat) (exponent : Int) : (digits * 10 ^ exponent : ℚ) =
    (digits * 10 ^ exponent.toNat : Nat) / (10 ^ (-exponent).toNat : Nat) := by
  push_cast
  obtain nonneg | neg := Int.le_total 0 exponent
  · obtain ⟨size, rfl⟩ := Int.eq_ofNat_of_zero_le nonneg
    simp
  · obtain ⟨size, rfl⟩ := Int.exists_eq_neg_ofNat neg
    simp [div_eq_mul_inv]

theorem level_zero : level 0 = 0 := by
  rw [level_eq (Nat.zero_le _), units, Nat.zero_sub, Nat.zero_mul, Nat.cast_zero, zero_div]

theorem level_one : level 1 = 1 / 2 ^ places := by
  have single : units (0 * 2 ^ 52 + 1) = 1 * 2 ^ 0 := units_eq (by decide) (.inl rfl)
  rw [Nat.zero_mul, Nat.zero_add, Nat.one_mul, Nat.pow_zero] at single
  rw [level_eq (by decide), single, Nat.cast_one]

theorem roundsTo_zero {number : ℚ} (nonneg : 0 ≤ number) (tiny : number < level 1 / 2) :
    RoundsTo number 0 := by
  refine roundsTo_below (by decide) ?_ (.inl ?_)
  · rwa [level_zero]
  · rw [level_zero]
    linarith

theorem two_pow_le_ten_pow (size : Nat) : 2 ^ (3 * size) ≤ 10 ^ size := by
  rw [Nat.pow_mul]
  exact Nat.pow_le_pow_left (by decide) size

theorem decimal_tiny (digits : Nat) {exponent : Int} (small : digits.log2 + 400 < -exponent) :
    (digits * 10 ^ exponent : ℚ) < level 1 / 2 := by
  obtain ⟨size, rfl⟩ := Int.exists_eq_neg_ofNat (show exponent ≤ 0 by omega)
  have short : digits * 2 ^ (places + 1) < 10 ^ size :=
    calc digits * 2 ^ (places + 1)
      _ < 2 ^ (digits.log2 + 1) * 2 ^ (places + 1) :=
        Nat.mul_lt_mul_of_pos_right Nat.lt_log2_self (Nat.two_pow_pos _)
      _ = 2 ^ (digits.log2 + 1 + (places + 1)) := (Nat.pow_add ..).symm
      _ ≤ 2 ^ (3 * size) := Nat.pow_le_pow_right Nat.two_pos (by unfold places; omega)
      _ ≤ 10 ^ size := two_pow_le_ten_pow size
  rw [level_one, div_div, ← pow_succ, zpow_neg, zpow_natCast, ← div_eq_mul_inv,
    div_lt_div_iff₀ (by positivity) (by positivity), one_mul]
  exact_mod_cast short

theorem decimal_huge {digits : Nat} {exponent : Int} (nonzero : digits ≠ 0)
    (large : 400 < exponent) : level infinityBits ≤ (digits * 10 ^ exponent : ℚ) := by
  obtain ⟨size, rfl⟩ := Int.eq_ofNat_of_zero_le (show 0 ≤ exponent by omega)
  have top : infinityBits = (places + 972) * 2 ^ 52 + 2 ^ 52 := by
    rw [places]
    decide
  have long : 2 ^ 52 * 2 ^ (places + 972) ≤ digits * 10 ^ size * 2 ^ places := by
    rw [← Nat.pow_add]
    calc 2 ^ (52 + (places + 972))
      _ ≤ 2 ^ (3 * size + places) := Nat.pow_le_pow_right Nat.two_pos (by omega)
      _ = 2 ^ (3 * size) * 2 ^ places := Nat.pow_add ..
      _ ≤ digits * 10 ^ size * 2 ^ places := Nat.mul_le_mul_right _
        ((two_pow_le_ten_pow size).trans (Nat.le_mul_of_pos_left _ (Nat.pos_of_ne_zero nonzero)))
  have counted : (digits * 10 ^ (size : Int) * 2 ^ places : ℚ) =
      (digits * 10 ^ size * 2 ^ places : Nat) := by
    rw [zpow_natCast]
    push_cast
    rfl
  rw [level_eq le_rfl, top, units_eq (by decide) (.inr le_rfl), div_le_iff₀ (by positivity),
    counted]
  exact Nat.cast_le.mpr long

theorem roundsTo_decimalBits (digits : Nat) (exponent : Int) :
    RoundsTo (digits * 10 ^ exponent) (decimalBits digits exponent) := by
  unfold decimalBits
  split
  · next small =>
    refine roundsTo_zero (by positivity) ?_
    obtain rfl | small := small
    · rw [Nat.cast_zero, zero_mul, level_one]
      positivity
    · exact decimal_tiny digits small
  · next sized =>
    rw [not_or] at sized
    split
    · next large => exact roundsTo_infinity (decimal_huge sized.1 large)
    · rw [decimal_eq]
      exact roundsTo_nearestBits (Nat.pow_pos (by decide))

/-- A number is rounded to a double. -/
def Rounds (number : ℚ) (double : Float) : Prop :=
  ∃ bits, double = Float.ofBits (UInt64.ofNat bits) ∧ RoundsTo number bits

/-- The double nearest to a decimal is the one that it is rounded to. -/
theorem rounds_iff {digits : Nat} {exponent : Int} {double : Float} :
    Rounds (digits * 10 ^ exponent) double ↔ double = nearest digits exponent := by
  have rounded := roundsTo_decimalBits digits exponent
  constructor
  · rintro ⟨bits, rfl, again⟩
    rw [nearest, rounded.unique again]
  · rintro rfl
    exact ⟨_, rfl, rounded⟩

end Clearance.Decimal
