import Mathlib.LinearAlgebra.AffineSpace.Ordered
import Mathlib.Analysis.Normed.Group.AddTorsor
import Mathlib.Analysis.SpecialFunctions.Pow.Real
import Mathlib.Order.Interval.Set.UnorderedInterval

/-!
# Blends of two numbers

The arithmetic and the geometric blend of two numbers with a weight.  With weights from
zero to one a blend goes from the first number to the second one and does not turn back;
with a larger weight it leaves the interval between them, unless they are equal.
-/

namespace NVSim
namespace Library

open AffineMap

/-! ## On the way -/

section Way

variable {α β : Type*} [LinearOrder α] [LinearOrder β]

/-- Going from `a` to `b` one passes `x` first and then `y`. -/
def OnTheWay (a x y b : α) : Prop :=
  x ∈ Set.uIcc a y ∧ y ∈ Set.uIcc a b

variable {a x y b : α} {f : α → β}

theorem onTheWay_self : OnTheWay a a a a := ⟨Set.left_mem_uIcc, Set.left_mem_uIcc⟩

/-- The way from zero to one. -/
theorem onTheWay_unit_iff {K : Type*} [Field K] [LinearOrder K] [IsStrictOrderedRing K]
    {s t : K} (hs : 0 ≤ s) (hst : s ≤ t) : OnTheWay 0 s t 1 ↔ t ≤ 1 := by
  unfold OnTheWay
  rw [Set.uIcc_of_le (hs.trans hst), Set.uIcc_of_le zero_le_one]
  constructor
  · intro h
    exact h.2.2
  · intro h
    exact ⟨⟨hs, hst⟩, hs.trans hst, h⟩

theorem onTheWay_strictMono_iff (hf : StrictMono f) :
    OnTheWay (f a) (f x) (f y) (f b) ↔ OnTheWay a x y b := by
  simp only [OnTheWay, Set.mem_uIcc, hf.le_iff_le]

theorem onTheWay_strictAnti_iff (hf : StrictAnti f) :
    OnTheWay (f a) (f x) (f y) (f b) ↔ OnTheWay a x y b := by
  simp only [OnTheWay, Set.mem_uIcc, hf.le_iff_ge, and_comm, or_comm]

/-- A function that is antitone between the ends keeps the order of the way. -/
theorem OnTheWay.antitoneOn (h : OnTheWay a x y b) (hf : AntitoneOn f (Set.uIcc a b)) :
    OnTheWay (f a) (f x) (f y) (f b) := by
  have hsub : Set.uIcc a y ⊆ Set.uIcc a b := Set.uIcc_subset_uIcc Set.left_mem_uIcc h.2
  exact ⟨(hf.mono hsub).mapsTo_uIcc h.1, hf.mapsTo_uIcc h.2⟩

end Way

/-! ## Arithmetic blends -/

section Arithmetic

variable {K : Type*} [Field K] [LinearOrder K] [IsStrictOrderedRing K] {a b s t : K}

theorem strictMono_lineMap (hab : a < b) : StrictMono fun t : K => lineMap a b t :=
  fun _ _ hlt => (lineMap_lt_lineMap_iff_of_lt' hab).2 hlt

theorem strictAnti_lineMap (hab : b < a) : StrictAnti fun t : K => lineMap a b t := by
  intro s t hlt
  show lineMap a b t < lineMap a b s
  rw [← lineMap_apply_one_sub b a t, ← lineMap_apply_one_sub b a s]
  exact strictMono_lineMap hab (sub_lt_sub_left hlt 1)

/-- Arithmetic blends with growing weights go from the first number to the second one, as
long as the weight is at most one. -/
theorem onTheWay_lineMap_iff (hs : 0 ≤ s) (hst : s ≤ t) :
    OnTheWay a (lineMap a b s) (lineMap a b t) b ↔ t ≤ 1 ∨ a = b := by
  have hends : OnTheWay a (lineMap a b s) (lineMap a b t) b ↔
      OnTheWay (lineMap a b (0 : K)) (lineMap a b s) (lineMap a b t) (lineMap a b (1 : K)) := by
    rw [lineMap_apply_zero, lineMap_apply_one]
  rcases lt_trichotomy a b with hab | rfl | hab
  · rw [hends, onTheWay_strictMono_iff (strictMono_lineMap hab), onTheWay_unit_iff hs hst,
      or_iff_left hab.ne]
  · simp only [lineMap_same_apply, onTheWay_self, or_true]
  · rw [hends, onTheWay_strictAnti_iff (strictAnti_lineMap hab), onTheWay_unit_iff hs hst,
      or_iff_left hab.ne']

end Arithmetic

/-! ## Geometric blends -/

section Geometric

variable {a b s t : ℝ}

/-- The geometric blend is the arithmetic one of the logarithms. -/
theorem rpow_mul_rpow_eq_exp (ha : 0 < a) (hb : 0 < b) (t : ℝ) :
    a ^ (1 - t) * b ^ t = Real.exp (lineMap (Real.log a) (Real.log b) t) := by
  rw [Real.rpow_def_of_pos ha, Real.rpow_def_of_pos hb, ← Real.exp_add, lineMap_apply_ring,
    mul_comm (Real.log a), mul_comm (Real.log b)]

/-- Geometric blends go from the first number to the second one likewise. -/
theorem onTheWay_rpow_iff (ha : 0 < a) (hb : 0 < b) (hs : 0 ≤ s) (hst : s ≤ t) :
    OnTheWay a (a ^ (1 - s) * b ^ s) (a ^ (1 - t) * b ^ t) b ↔ t ≤ 1 ∨ a = b := by
  have hends := onTheWay_strictMono_iff Real.exp_strictMono (a := Real.log a)
    (x := lineMap (Real.log a) (Real.log b) s) (y := lineMap (Real.log a) (Real.log b) t)
    (b := Real.log b)
  rw [Real.exp_log ha, Real.exp_log hb, ← rpow_mul_rpow_eq_exp ha hb s,
    ← rpow_mul_rpow_eq_exp ha hb t] at hends
  have hlog : Real.log a = Real.log b ↔ a = b :=
    ⟨fun h => Real.log_injOn_pos ha hb h, fun h => congrArg Real.log h⟩
  rw [hends, onTheWay_lineMap_iff hs hst, hlog]

end Geometric

end Library
end NVSim
