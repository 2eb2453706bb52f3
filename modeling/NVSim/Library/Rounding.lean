import Mathlib.Algebra.Order.Round
import Mathlib.Algebra.Order.Field.Basic
import Mathlib.Data.Int.Log
import Mathlib.Data.Rat.Floor
import Mathlib.Tactic.FieldSimp
import Mathlib.Tactic.Linarith
import Mathlib.Tactic.Positivity
import Mathlib.Tactic.NormNum
import Mathlib.Tactic.Ring
import NVSim.Library.Numerals

/-!
# Arithmetic with a relative error

A rounding sends each number to one that can be stored, within a unit relative to the number.
Every operation of a program rounds its exact result.  Overflow and underflow are left out:
the exponents of the numbers that can be stored have no bound.
-/

namespace NVSim.Library

/-- A function with a relative error of at most a unit. -/
structure Rounding (K : Type) [Field K] [LinearOrder K] where
  round : K → K
  unit : K
  unit_nonneg : 0 ≤ unit
  unit_le : unit ≤ 1 / 8
  error : ∀ x, |round x - x| ≤ unit * |x|

namespace Rounding

section Bounds

variable {K : Type} [Field K] [LinearOrder K] [IsStrictOrderedRing K] (R : Rounding K)

/-- Exact arithmetic. -/
def exact : Rounding K where
  round x := x
  unit := 0
  unit_nonneg := le_rfl
  unit_le := by norm_num
  error x := by simp

@[simp] theorem exact_round (x : K) : (exact : Rounding K).round x = x := rfl

@[simp] theorem exact_unit : (exact : Rounding K).unit = 0 := rfl

theorem le_round_add (x : K) : x - R.unit * |x| ≤ R.round x := by
  have hError := (abs_le.mp (R.error x)).1
  linarith

theorem round_le_add (x : K) : R.round x ≤ x + R.unit * |x| := by
  have hError := (abs_le.mp (R.error x)).2
  linarith

theorem mul_le_round {x : K} (hx : 0 ≤ x) : (1 - R.unit) * x ≤ R.round x := by
  have hLower := R.le_round_add x
  rw [abs_of_nonneg hx] at hLower
  linarith

theorem round_le_mul {x : K} (hx : 0 ≤ x) : R.round x ≤ (1 + R.unit) * x := by
  have hUpper := R.round_le_add x
  rw [abs_of_nonneg hx] at hUpper
  linarith

theorem round_nonneg {x : K} (hx : 0 ≤ x) : 0 ≤ R.round x := by
  have hUnit : 0 ≤ 1 - R.unit := by linarith [R.unit_le]
  exact (mul_nonneg hUnit hx).trans (R.mul_le_round hx)

theorem round_pos {x : K} (hx : 0 < x) : 0 < R.round x := by
  have hUnit : 0 < 1 - R.unit := by linarith [R.unit_le]
  exact (mul_pos hUnit hx).trans_le (R.mul_le_round hx.le)

theorem round_nonpos {x : K} (hx : x ≤ 0) : R.round x ≤ 0 := by
  have hUpper := R.round_le_add x
  rw [abs_of_nonpos hx] at hUpper
  have hUnit : 0 ≤ (1 - R.unit) * -x := mul_nonneg (by linarith [R.unit_le]) (by linarith)
  linarith

/-- A number is positive if what it is rounded to is. -/
theorem pos_of_round_pos {x : K} (h : 0 < R.round x) : 0 < x := by
  by_contra hx
  exact absurd h (not_lt.mpr (R.round_nonpos (not_lt.mp hx)))

/-- The half of a rounded sum, rounded, is the half of the sum within a little more than the
unit. -/
theorem round_half_error (x y : K) :
    |R.round (R.round (x + y) / 2) - (x + y) / 2| ≤ 17 / 16 * (R.unit * (|x| + |y|)) := by
  have hNonneg := R.unit_nonneg
  have hUnit := R.unit_le
  have hSum : |x + y| ≤ |x| + |y| := abs_add_le x y
  have hFirst : |R.round (x + y) - (x + y)| ≤ R.unit * (|x| + |y|) :=
    (R.error _).trans (mul_le_mul_of_nonneg_left hSum hNonneg)
  have hMiddle : |R.round (x + y)| ≤ 9 / 8 * (|x| + |y|) := by
    have hSplit := abs_add_le (R.round (x + y) - (x + y)) (x + y)
    have hShrink : R.unit * (|x| + |y|) ≤ 1 / 8 * (|x| + |y|) :=
      mul_le_mul_of_nonneg_right hUnit (by positivity)
    rw [sub_add_cancel] at hSplit
    linarith
  have hSecond : |R.round (R.round (x + y) / 2) - R.round (x + y) / 2| ≤
      R.unit * (9 / 8 * (|x| + |y|) / 2) := by
    refine (R.error _).trans (mul_le_mul_of_nonneg_left ?_ hNonneg)
    rw [abs_div, abs_two]
    linarith
  have hFirstBounds := abs_le.mp hFirst
  have hSecondBounds := abs_le.mp hSecond
  exact abs_le.mpr ⟨by linarith, by linarith⟩

/-- A rounded difference, divided by what is left of it when some more is taken off, and
rounded, is above one if what is taken off is more than two units of the difference. -/
theorem one_lt_round_div {voltage swing : K} (hSwing : swing < voltage)
    (hUnit : 2 * (R.unit * voltage) < (1 + R.unit) * swing) :
    1 < R.round (voltage / R.round (voltage - swing)) := by
  have hNonneg := R.unit_nonneg
  have hUnitLe := R.unit_le
  have hLeft : 0 < voltage - swing := by linarith
  have hRounded : 0 < R.round (voltage - swing) := R.round_pos hLeft
  have hBound : R.round (voltage - swing) < (1 - R.unit) * voltage := by
    have hUpper := R.round_le_mul hLeft.le
    linarith
  have hVoltage : 0 < voltage := by
    by_contra hNot
    have hSign : (1 - R.unit) * voltage ≤ 0 :=
      mul_nonpos_of_nonneg_of_nonpos (by linarith) (not_lt.mp hNot)
    linarith
  calc 1 < (1 - R.unit) * voltage / R.round (voltage - swing) := (one_lt_div hRounded).mpr hBound
    _ = (1 - R.unit) * (voltage / R.round (voltage - swing)) := mul_div_assoc _ _ _
    _ ≤ _ := R.mul_le_round (div_pos hVoltage hRounded).le

/-- The squares of two numbers stay in order when they are rounded, if the numbers are more
than a unit of their sum apart. -/
theorem round_sq_lt {x y : K} (hx : 0 ≤ x) (hUnit : R.unit * (y + x) < y - x) :
    R.round (x * x) < R.round (y * y) := by
  have hNonneg := R.unit_nonneg
  have hSum : 0 < y + x := by
    by_contra hNot
    have hUnitLe : R.unit * (y + x) ≥ y + x := by
      have hShrink := mul_nonneg (show 0 ≤ 1 - R.unit by linarith [R.unit_le])
        (show 0 ≤ -(y + x) by linarith [not_lt.mp hNot])
      linarith
    linarith
  have hy : 0 < y := by
    have hSign := mul_nonneg hNonneg hSum.le
    linarith
  have hSquares : R.unit * (y * y + x * x) ≤ R.unit * (y + x) * (y + x) := by
    have hProduct := mul_nonneg hNonneg (mul_nonneg hy.le hx)
    linarith
  have hApart := mul_lt_mul_of_pos_right hUnit hSum
  have hLower := R.mul_le_round (mul_self_nonneg y)
  have hUpper := R.round_le_mul (mul_self_nonneg x)
  linarith

end Bounds

/-! ## Rounding to 53 bits -/

/-- The nearest integer, the even one of two. -/
def nearestEven (x : ℚ) : ℤ :=
  let rest := x - ⌊x⌋
  if rest < 1 / 2 then ⌊x⌋
  else if 1 / 2 < rest then ⌊x⌋ + 1
  else if ⌊x⌋ % 2 = 0 then ⌊x⌋ else ⌊x⌋ + 1

theorem nearestEven_error (x : ℚ) : |(nearestEven x : ℚ) - x| ≤ 1 / 2 := by
  have hFloor := Int.floor_le x
  have hNext := Int.lt_floor_add_one x
  unfold nearestEven
  dsimp only
  split_ifs
  all_goals
    push_cast
    exact abs_le.mpr ⟨by linarith, by linarith⟩

/-- The distance of two neighbours of 53 bits at a number. -/
def spacing (x : ℚ) : ℚ := 2 ^ (Int.log 2 |x| - 52)

/-- The nearest number of 53 bits. -/
def roundDouble (x : ℚ) : ℚ := nearestEven (x / spacing x) * spacing x

theorem spacing_pos (x : ℚ) : 0 < spacing x := zpow_pos two_pos _

theorem spacing_le {x : ℚ} (hx : x ≠ 0) : spacing x / 2 ≤ 1 / 2 ^ 53 * |x| := by
  have hLog := Int.zpow_log_le_self (b := 2) Nat.one_lt_two (abs_pos.mpr hx)
  push_cast at hLog
  have hPower : spacing x / 2 = 1 / 2 ^ 53 * 2 ^ Int.log 2 |x| := by
    unfold spacing
    rw [zpow_sub₀ (two_ne_zero)]
    norm_num
    ring
  rw [hPower]
  exact mul_le_mul_of_nonneg_left hLog (by positivity)

theorem roundDouble_error (x : ℚ) : |roundDouble x - x| ≤ 1 / 2 ^ 53 * |x| := by
  by_cases hx : x = 0
  · subst hx
    simp [roundDouble, nearestEven]
  have hSpacing := spacing_pos x
  have hScaled : roundDouble x - x = (nearestEven (x / spacing x) - x / spacing x) * spacing x := by
    unfold roundDouble
    field_simp
  calc |roundDouble x - x| = |(nearestEven (x / spacing x) : ℚ) - x / spacing x| * spacing x := by
        rw [hScaled, abs_mul, abs_of_pos hSpacing]
    _ ≤ 1 / 2 * spacing x := mul_le_mul_of_nonneg_right (nearestEven_error _) hSpacing.le
    _ = spacing x / 2 := by ring
    _ ≤ 1 / 2 ^ 53 * |x| := spacing_le hx

/-- Rounding to the numbers of 53 bits, to even ones of two. -/
def double : Rounding ℚ where
  round := roundDouble
  unit := 1 / 2 ^ 53
  unit_nonneg := by positivity
  unit_le := by norm_num
  error := roundDouble_error

example : roundDouble (1 / 10) = 3602879701896397 / 2 ^ 55 := by decide +kernel

end Rounding

end NVSim.Library
