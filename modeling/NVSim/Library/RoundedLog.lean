import Mathlib.Analysis.SpecialFunctions.Log.Base
import Mathlib.Algebra.Order.Floor.Semifield
import Mathlib.Tactic.Linarith
import Mathlib.Tactic.NormNum
import Mathlib.Tactic.Positivity
import NVSim.Library.Numerals

/-!
# Integer logarithms with a tenth added before truncation

C code that wants an integer logarithm of a power of two often writes
`(int)(log2(x) + 0.1)`, so that a logarithm computed slightly too small does not
lose a whole unit.  On exact numbers this is a function of naturals: `log2 x +
1/10` is a tenth of `log2 (2 * x ^ 10)`.  `log2Rounded` and `log2RoundedRatio`
compute it that way; `log2RoundedRatio_eq_truncate` says that they are the real
expression truncated toward zero, as a C conversion to `int` does.

The second half collects the quotients of powers of two that such code divides.
-/

namespace NVSim
namespace Library

/-- `(int)(log2(n) + 0.1)` for `0 < n`. -/
def log2Rounded (n : ℕ) : ℕ := Nat.log 2 (2 * n ^ 10) / 10

/-- `(int)(log2((double)num / den) + 0.1)` for `0 < num` and `0 < den`.  For
`num = 0`, where the C conversion of `-inf` is undefined, the value is `0`. -/
def log2RoundedRatio (num den : ℕ) : ℤ :=
  if den ^ 10 ≤ 2 * num ^ 10 then
    ((Nat.log 2 (2 * num ^ 10 / den ^ 10) / 10 : ℕ) : ℤ)
  else
    -((Nat.log 2 (den ^ 10 / (2 * num ^ 10)) / 10 : ℕ) : ℤ)

/-- The C conversion of a real number to an integer: truncation toward zero. -/
noncomputable def truncate (x : ℝ) : ℤ := if 0 ≤ x then ⌊x⌋ else ⌈x⌉

theorem log2Rounded_two_pow (k : ℕ) : log2Rounded (2 ^ k) = k := by
  have hpow : 2 * (2 ^ k) ^ 10 = 2 ^ (10 * k + 1) := by
    rw [← pow_mul, pow_succ, mul_comm k 10, mul_comm]
  rw [log2Rounded, hpow, Nat.log_pow (by norm_num)]
  omega

@[simp] theorem log2Rounded_one : log2Rounded 1 = 0 := log2Rounded_two_pow 0

/-- On an exact multiple `d * 2 ^ n` the ratio is `2 ^ n`, and the logarithm is `n`. -/
theorem log2RoundedRatio_mul_two_pow {d : ℕ} (hd : 0 < d) (n : ℕ) :
    log2RoundedRatio (d * 2 ^ n) d = n := by
  have hd10 : 0 < d ^ 10 := by positivity
  have hsplit : 2 * (d * 2 ^ n) ^ 10 = 2 ^ (10 * n + 1) * d ^ 10 := by
    rw [mul_pow, ← pow_mul, mul_comm n 10, pow_succ]
    ring
  have hle : d ^ 10 ≤ 2 * (d * 2 ^ n) ^ 10 := by
    rw [hsplit]
    exact Nat.le_mul_of_pos_left _ (by positivity)
  rw [log2RoundedRatio, if_pos hle, hsplit, Nat.mul_div_cancel _ hd10, Nat.log_pow (by norm_num)]
  congr 1
  omega

/-- A common factor cancels in the ratio. -/
theorem log2RoundedRatio_mul_right {k : ℕ} (hk : 0 < k) (num den : ℕ) :
    log2RoundedRatio (num * k) (den * k) = log2RoundedRatio num den := by
  have hk10 : 0 < k ^ 10 := by positivity
  have hnum : 2 * (num * k) ^ 10 = 2 * num ^ 10 * k ^ 10 := by rw [mul_pow, mul_assoc]
  unfold log2RoundedRatio
  rw [hnum, mul_pow, Nat.mul_div_mul_right _ _ hk10, Nat.mul_div_mul_right _ _ hk10]
  simp only [Nat.mul_le_mul_right_iff hk10]

/-- A positive logarithm is no more than a tenth above the exact one. -/
theorem two_pow_log2RoundedRatio_mul_le {num den : ℕ} (h : 0 < log2RoundedRatio num den) :
    2 ^ (log2RoundedRatio num den).toNat * den ≤ 2 * num := by
  unfold log2RoundedRatio at h ⊢
  split
  · have hquotient : 2 * num ^ 10 / den ^ 10 ≠ 0 := by
      intro hzero
      rw [if_pos ‹_›, hzero] at h
      exact absurd h (by decide)
    rw [Int.toNat_natCast]
    refine (Nat.pow_le_pow_iff_left (n := 10) (by norm_num)).1 ?_
    calc (2 ^ (Nat.log 2 (2 * num ^ 10 / den ^ 10) / 10) * den) ^ 10
        = 2 ^ (Nat.log 2 (2 * num ^ 10 / den ^ 10) / 10 * 10) * den ^ 10 := by
          rw [mul_pow, pow_mul]
      _ ≤ 2 ^ Nat.log 2 (2 * num ^ 10 / den ^ 10) * den ^ 10 :=
          Nat.mul_le_mul_right _ (Nat.pow_le_pow_right (by norm_num) (Nat.div_mul_le_self _ _))
      _ ≤ 2 * num ^ 10 / den ^ 10 * den ^ 10 :=
          Nat.mul_le_mul_right _ (Nat.pow_log_le_self 2 hquotient)
      _ ≤ 2 * num ^ 10 := Nat.div_mul_le_self _ _
      _ ≤ (2 * num) ^ 10 := by
          rw [mul_pow]
          exact Nat.mul_le_mul_right _ (by norm_num)
  · rw [if_neg ‹_›] at h
    omega

/-- `⌊log₂ (num / den)⌋` for a ratio of at least one is a logarithm of naturals. -/
theorem floor_logb_div {num den : ℕ} (hden : 0 < den) (hle : den ≤ num) :
    ⌊Real.logb 2 ((num : ℝ) / den)⌋ = Nat.log 2 (num / den) := by
  have hden' : (0 : ℝ) < den := by exact_mod_cast hden
  have hone : (1 : ℝ) ≤ (num : ℝ) / den := by
    rw [le_div_iff₀ hden', one_mul]
    exact_mod_cast hle
  have hfloor := Real.floor_logb_natCast (b := 2) (r := (num : ℝ) / den) (by positivity)
  rw [Nat.cast_ofNat] at hfloor
  rw [hfloor, Int.log_of_one_le_right 2 hone, Nat.floor_div_eq_div]

/-- Adding a tenth to `log₂ (num / den)` gives a tenth of a logarithm again. -/
theorem logb_div_add_tenth {num den : ℕ} (hnum : 0 < num) (hden : 0 < den) :
    Real.logb 2 ((num : ℝ) / den) + 1 / 10 =
      Real.logb 2 (((2 * num ^ 10 : ℕ) : ℝ) / (den ^ 10 : ℕ)) / (10 : ℕ) := by
  have hnum' : (num : ℝ) ≠ 0 := by exact_mod_cast hnum.ne'
  have hden' : (den : ℝ) ≠ 0 := by exact_mod_cast hden.ne'
  push_cast
  rw [Real.logb_div hnum' hden', Real.logb_div (by positivity) (by positivity),
    Real.logb_mul (by norm_num) (by positivity), Real.logb_self_eq_one (by norm_num),
    ← Real.rpow_natCast (num : ℝ) 10, ← Real.rpow_natCast (den : ℝ) 10,
    Real.logb_rpow_eq_mul_logb_of_pos (by positivity),
    Real.logb_rpow_eq_mul_logb_of_pos (by positivity)]
  push_cast
  ring

/-- The computed integer is the real expression of the C source, truncated. -/
theorem log2RoundedRatio_eq_truncate {num den : ℕ} (hnum : 0 < num) (hden : 0 < den) :
    log2RoundedRatio num den = truncate (Real.logb 2 ((num : ℝ) / den) + 1 / 10) := by
  have hden10 : 0 < den ^ 10 := by positivity
  have hnum10 : 0 < 2 * num ^ 10 := by positivity
  rw [logb_div_add_tenth hnum hden, truncate]
  by_cases hle : den ^ 10 ≤ 2 * num ^ 10
  · have hnonneg : 0 ≤ Real.logb 2 (((2 * num ^ 10 : ℕ) : ℝ) / (den ^ 10 : ℕ)) := by
      apply Real.logb_nonneg (by norm_num)
      rw [le_div_iff₀ (by exact_mod_cast hden10), one_mul]
      exact_mod_cast hle
    rw [log2RoundedRatio, if_pos hle, if_pos (by positivity), Int.floor_div_natCast,
      floor_logb_div hden10 hle]
    norm_cast
  · have hlt : 2 * num ^ 10 < den ^ 10 := Nat.lt_of_not_ge hle
    -- below one the truncation is a ceiling, the floor of the inverted ratio
    have hinv : Real.logb 2 (((2 * num ^ 10 : ℕ) : ℝ) / (den ^ 10 : ℕ)) =
        -Real.logb 2 (((den ^ 10 : ℕ) : ℝ) / (2 * num ^ 10 : ℕ)) := by
      rw [← Real.logb_inv, inv_div]
    have hpos : 0 < Real.logb 2 (((den ^ 10 : ℕ) : ℝ) / (2 * num ^ 10 : ℕ)) := by
      apply Real.logb_pos (by norm_num)
      rw [lt_div_iff₀ (by exact_mod_cast hnum10), one_mul]
      exact_mod_cast hlt
    have hneg : ¬ 0 ≤ -Real.logb 2 (((den ^ 10 : ℕ) : ℝ) / (2 * num ^ 10 : ℕ)) / (10 : ℕ) := by
      rw [not_le, neg_div]
      have : 0 < Real.logb 2 (((den ^ 10 : ℕ) : ℝ) / (2 * num ^ 10 : ℕ)) / (10 : ℕ) := by
        positivity
      linarith
    rw [log2RoundedRatio, if_neg hle, hinv, if_neg hneg, neg_div, Int.ceil_neg,
      Int.floor_div_natCast, floor_logb_div hnum10 hlt.le]
    norm_cast

/-- A quotient of powers of two is a power of two or vanishes. -/
theorem two_pow_div_two_pow (a b : ℕ) :
    2 ^ a / 2 ^ b = if b ≤ a then 2 ^ (a - b) else 0 := by
  by_cases h : b ≤ a
  · rw [if_pos h, Nat.pow_div h (by norm_num)]
  · rw [if_neg h, Nat.div_eq_of_lt]
    exact Nat.pow_lt_pow_right (by norm_num) (by omega)

theorem two_pow_div_two_pow_of_le {a b : ℕ} (h : b ≤ a) : 2 ^ a / 2 ^ b = 2 ^ (a - b) := by
  rw [two_pow_div_two_pow, if_pos h]

theorem isPowerOfTwo_mul {m n : ℕ} (hm : m.isPowerOfTwo) (hn : n.isPowerOfTwo) :
    (m * n).isPowerOfTwo := by
  obtain ⟨a, rfl⟩ := hm
  obtain ⟨b, rfl⟩ := hn
  exact ⟨a + b, (pow_add 2 a b).symm⟩

/-- The largest power of two up to `2 ^ k` and `n` divides `n` exactly if all of
them do. -/
theorem two_pow_min_log_dvd_iff {k n : ℕ} (hn : 0 < n) :
    2 ^ min k (Nat.log 2 n) ∣ n ↔ ∀ i ≤ k, 2 ^ i ≤ n → 2 ^ i ∣ n := by
  constructor
  · intro hdvd i hik hin
    have hilog : i ≤ Nat.log 2 n := Nat.le_log_of_pow_le one_lt_two hin
    exact (pow_dvd_pow 2 (le_min hik hilog)).trans hdvd
  · intro hall
    apply hall _ (min_le_left _ _)
    calc 2 ^ min k (Nat.log 2 n)
        ≤ 2 ^ Nat.log 2 n := Nat.pow_le_pow_right (by norm_num) (min_le_right _ _)
      _ ≤ n := Nat.pow_log_le_self 2 hn.ne'

/-- A quotient of powers of two that does not vanish is a power of two. -/
theorem isPowerOfTwo_div {m n : ℕ} (hm : m.isPowerOfTwo) (hn : n.isPowerOfTwo)
    (hpos : 0 < m / n) : (m / n).isPowerOfTwo := by
  obtain ⟨a, rfl⟩ := hm
  obtain ⟨b, rfl⟩ := hn
  by_cases hle : b ≤ a
  · exact ⟨a - b, two_pow_div_two_pow_of_le hle⟩
  · rw [two_pow_div_two_pow, if_neg hle] at hpos
    cases hpos

/-- Such a quotient is exact. -/
theorem isPowerOfTwo_div_mul {m n : ℕ} (hm : m.isPowerOfTwo) (hn : n.isPowerOfTwo)
    (hpos : 0 < m / n) : m / n * n = m := by
  obtain ⟨a, rfl⟩ := hm
  obtain ⟨b, rfl⟩ := hn
  refine Nat.div_mul_cancel (pow_dvd_pow 2 ?_)
  by_contra hlt
  rw [two_pow_div_two_pow, if_neg hlt] at hpos
  cases hpos

end Library
end NVSim
