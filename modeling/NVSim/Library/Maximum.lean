import Mathlib.Order.Bounds.Basic
import Mathlib.Order.MinMax

/-!
# Maxima that start at zero

A program that takes the maximum of some values in a variable that is zero at first
computes the maximum of the values and zero.  The lemmas say when that is the maximum of
the values, and when it still is if one value was replaced by another.
-/

namespace NVSim

namespace Library

variable {α : Type} [LinearOrder α]

/-- The maximum of zero and some values is one of the values if one of them is at least
zero. -/
theorem isGreatest_of_insert_zero [Zero α] {s : Set α} {M : α}
    (hM : IsGreatest (insert 0 s) M) : IsGreatest s M ↔ ∃ x ∈ s, 0 ≤ x := by
  constructor
  · intro h
    exact ⟨M, h.1, hM.2 (Set.mem_insert 0 s)⟩
  · intro ⟨x, hx, hNonneg⟩
    have hBound : x ≤ M := hM.2 (Set.mem_insert_of_mem 0 hx)
    refine ⟨?_, fun y hy => hM.2 (Set.mem_insert_of_mem 0 hy)⟩
    obtain hZero | hMem := hM.1
    · have hEq : x = M := le_antisymm hBound (hZero ▸ hNonneg)
      rw [← hEq]
      exact hx
    · exact hMem

/-- One value is replaced by another one in a maximum. -/
theorem max_eq_max_iff (M p q : α) : max M q = max M p ↔ q = p ∨ (p ≤ M ∧ q ≤ M) := by
  grind

/-- A maximum over some values and zero in which `q` stands in the place of `p`. -/
theorem isGreatest_max_iff [Zero α] {s : Set α} {M p q : α} (hM : IsGreatest (insert 0 s) M) :
    IsGreatest (insert p s) (max M q) ↔
      (∃ x ∈ insert p s, 0 ≤ x) ∧ (q = p ∨ ∃ x ∈ insert 0 s, p ≤ x ∧ q ≤ x) := by
  have hExact : IsGreatest (insert 0 (insert p s)) (max M p) := by
    rw [Set.insert_comm, max_comm]
    exact hM.insert p
  have hReplaced : IsGreatest (insert p s) (max M q) ↔
      (∃ x ∈ insert p s, 0 ≤ x) ∧ max M q = max M p := by
    constructor
    · intro h
      have hZero : 0 ≤ max M q := le_max_of_le_left (hM.2 (Set.mem_insert 0 s))
      have hInsert : IsGreatest (insert 0 (insert p s)) (max M q) := by
        have h' := h.insert 0
        rwa [max_eq_right hZero] at h'
      exact ⟨⟨_, h.1, hZero⟩, hInsert.unique hExact⟩
    · intro ⟨hNonneg, hEq⟩
      rw [hEq]
      exact (isGreatest_of_insert_zero hExact).mpr hNonneg
  have hBelow : (p ≤ M ∧ q ≤ M) ↔ ∃ x ∈ insert 0 s, p ≤ x ∧ q ≤ x := by
    constructor
    · intro h
      exact ⟨M, hM.1, h⟩
    · intro ⟨x, hx, hp, hq⟩
      exact ⟨hp.trans (hM.2 hx), hq.trans (hM.2 hx)⟩
  rw [hReplaced, max_eq_max_iff, hBelow]

end Library

end NVSim
