import Mathlib.Algebra.Order.Field.Basic
import Mathlib.Tactic.FieldSimp
import Mathlib.Tactic.Linarith
import Mathlib.Tactic.Positivity
import Mathlib.Tactic.Ring
import NVSim.Library.Numerals

/-!
# Trade-offs between two positive quantities

A cost that is a sum of non-negative multiples of `1 / y`, `1 / (x * y)`, `1 / x`, `x` and
`y`.  It is least exactly where it is stationary in both quantities: the parts that fall
with a quantity add up to the part that grows with it.  What carries the proof is the
inequality between the arithmetic and the geometric mean, here without roots, so that it
holds in any ordered field.
-/

namespace NVSim
namespace Library

variable {K : Type*} [Field K] [LinearOrder K] [IsStrictOrderedRing K]

/-! ## Means -/

theorem two_le_add_one_div {x : K} (hx : 0 < x) : 2 ≤ x + 1 / x := by
  have hsquare : 0 ≤ (x - 1) * (x - 1) / x := div_nonneg (mul_self_nonneg _) hx.le
  have heq : (x - 1) * (x - 1) / x = x + 1 / x - 2 := by
    field_simp
    ring
  linarith only [hsquare, heq]

/-- The mean of three numbers of product one, times `x * y`. -/
theorem three_mul_le {x y : K} (hx : 0 < x) (hy : 0 < y) :
    3 * (x * y) ≤ x * y * (x * y) + x + y := by
  obtain ⟨z, hz⟩ : ∃ z, z = x * y := ⟨_, rfl⟩
  have hzpos : 0 < z := hz ▸ mul_pos hx hy
  rw [← hz]
  by_contra hless
  -- otherwise the square of the sum lies below four times the product
  have hsum : x + y < z * (3 - z) := by linarith only [hless]
  have hthree : z < 3 := by
    by_contra hge
    nlinarith only [hsum, hx, hy, hzpos, hge]
  have hsquare : (x + y) * (x + y) < z * (3 - z) * (z * (3 - z)) :=
    mul_self_lt_mul_self (add_pos hx hy).le hsum
  have hmean : 4 * z ≤ (x + y) * (x + y) := by
    rw [hz]
    nlinarith only [mul_self_nonneg (x - y)]
  have hfour : 4 < z * ((3 - z) * (3 - z)) := by
    refine lt_of_mul_lt_mul_left ?_ hzpos.le
    linarith only [hsquare, hmean]
  have hcubic : 0 ≤ (z - 1) * (z - 1) * (4 - z) :=
    mul_nonneg (mul_self_nonneg _) (by linarith only [hthree])
  linarith only [hfour, hcubic]

theorem three_le_mul_add {x y : K} (hx : 0 < x) (hy : 0 < y) : 3 ≤ x * y + 1 / x + 1 / y := by
  have hxy := mul_pos hx hy
  have heq : x * y + 1 / x + 1 / y = (x * y * (x * y) + x + y) / (x * y) := by
    field_simp
    ring
  rw [heq, le_div_iff₀ hxy]
  exact three_mul_le hx hy

/-! ## One quantity -/

/-- If `a * x + b / x` is not less than at one for any `x` near one, then `a = b`. -/
theorem eq_of_le_near_one {a b : K} (lower : K) (ha : 0 < a) (hlower : lower < 1)
    (hleast : ∀ x, 0 < x → lower < x → a + b ≤ a * x + b / x) : a = b := by
  -- the difference has the sign of `(x - 1) * (a * x - b)`
  have hsign {x : K} (hx : 0 < x) (hxlower : lower < x) : 0 ≤ (x - 1) * (a * x - b) := by
    have heq : (x - 1) * (a * x - b) = (a * x + b / x - (a + b)) * x := by
      field_simp
      ring
    rw [heq]
    exact mul_nonneg (sub_nonneg.mpr (hleast x hx hxlower)) hx.le
  rcases lt_trichotomy a b with hless | heq | hless
  · -- just above one
    obtain ⟨x, hone, hxb⟩ := exists_between ((one_lt_div ha).mpr hless)
    have hneg : a * x - b < 0 := sub_neg.mpr (by rwa [mul_comm, ← lt_div_iff₀ ha])
    exact absurd (hsign (one_pos.trans hone) (hlower.trans hone))
      (mul_neg_of_pos_of_neg (sub_pos.mpr hone) hneg).not_ge
  · exact heq
  · -- just below one
    have hmax : max (max 0 lower) (b / a) < 1 :=
      max_lt (max_lt one_pos hlower) ((div_lt_one ha).mpr hless)
    obtain ⟨x, hx, hone⟩ := exists_between hmax
    obtain ⟨⟨hzero, hxlower⟩, hxb⟩ := (max_lt_iff.mp hx).imp max_lt_iff.mp id
    have hpos : 0 < a * x - b := sub_pos.mpr (by rwa [mul_comm, ← div_lt_iff₀ ha])
    exact absurd (hsign hzero hxlower) (mul_neg_of_neg_of_pos (sub_neg.mpr hone) hpos).not_ge

/-! ## Two quantities -/

/-- A cost that falls and grows with two quantities. -/
def tradeoff (p q s t u x y : K) : K := p / y + q / (x * y) + s / x + t * x + u * y

omit [IsStrictOrderedRing K] in
/-- The cost relative to that of a point. -/
theorem tradeoff_eq {p q s t u x₀ y₀ x y : K} (hx₀ : 0 < x₀) (hy₀ : 0 < y₀) (hx : 0 < x)
    (hy : 0 < y) :
    tradeoff p q s t u x y =
      p / y₀ * (y₀ / y) + q / (x₀ * y₀) * (x₀ / x * (y₀ / y)) + s / x₀ * (x₀ / x) +
        t * x₀ * (1 / (x₀ / x)) + u * y₀ * (1 / (y₀ / y)) := by
  unfold tradeoff
  field_simp

/-- A cost is least, among the points whose first quantity is below a limit, exactly where
it is stationary. -/
theorem tradeoff_le_iff {p q s t u x₀ y₀ limit : K} (hp : 0 < p) (hq : 0 ≤ q) (hs : 0 < s)
    (hx₀ : 0 < x₀) (hy₀ : 0 < y₀) (hlimit : x₀ < limit) :
    (∀ x y, 0 < x → 0 < y → x < limit → tradeoff p q s t u x₀ y₀ ≤ tradeoff p q s t u x y) ↔
      p / y₀ + q / (x₀ * y₀) = u * y₀ ∧ s / x₀ + q / (x₀ * y₀) = t * x₀ := by
  have hP : 0 < p / y₀ := div_pos hp hy₀
  have hQ : 0 ≤ q / (x₀ * y₀) := div_nonneg hq (mul_pos hx₀ hy₀).le
  have hS : 0 < s / x₀ := div_pos hs hx₀
  constructor
  · intro hleast
    constructor
    · -- vary the second quantity
      apply eq_of_le_near_one 0 (add_pos_of_pos_of_nonneg hP hQ) one_pos
      intro z hz _
      have hle := hleast x₀ (y₀ / z) hx₀ (div_pos hy₀ hz) hlimit
      rw [tradeoff_eq hx₀ hy₀ hx₀ hy₀, tradeoff_eq hx₀ hy₀ hx₀ (div_pos hy₀ hz),
        div_self hx₀.ne', div_self hy₀.ne', div_div_cancel₀ hy₀.ne'] at hle
      have heq : u * y₀ / z = u * y₀ * (1 / z) := by ring
      linarith only [hle, heq]
    · -- vary the first, where it stays below its limit
      refine eq_of_le_near_one (x₀ / limit) (add_pos_of_pos_of_nonneg hS hQ)
        ((div_lt_one (hx₀.trans hlimit)).mpr hlimit) ?_
      intro z hz hlower
      have hbelow : x₀ / z < limit := (div_lt_comm₀ (hx₀.trans hlimit) hz).mp hlower
      have hle := hleast (x₀ / z) y₀ (div_pos hx₀ hz) hy₀ hbelow
      rw [tradeoff_eq hx₀ hy₀ hx₀ hy₀, tradeoff_eq hx₀ hy₀ (div_pos hx₀ hz) hy₀,
        div_self hx₀.ne', div_self hy₀.ne', div_div_cancel₀ hx₀.ne'] at hle
      have heq : t * x₀ / z = t * x₀ * (1 / z) := by ring
      linarith only [hle, heq]
  · rintro ⟨hu, ht⟩ x y hx hy -
    have hX : 0 < x₀ / x := div_pos hx₀ hx
    have hY : 0 < y₀ / y := div_pos hy₀ hy
    rw [tradeoff_eq hx₀ hy₀ hx₀ hy₀, tradeoff_eq hx₀ hy₀ hx hy, div_self hx₀.ne',
      div_self hy₀.ne', ← hu, ← ht]
-- each of the parts that belong together is least at the stationary point
    have hmeanY := mul_le_mul_of_nonneg_left (two_le_add_one_div hY) hP.le
    have hmeanX := mul_le_mul_of_nonneg_left (two_le_add_one_div hX) hS.le
    have hmean := mul_le_mul_of_nonneg_left (three_le_mul_add hX hY) hQ
    linarith only [hmeanX, hmeanY, hmean]

end Library
end NVSim
