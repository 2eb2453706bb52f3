import Mathlib.Algebra.BigOperators.Intervals
import Mathlib.Data.Option.Basic

/-!
# Loops over indices that cannot fail

`for (i = 0; i < n; i++)` around a body in `Option`.  If the state before every iteration is
known and the body does not fail in it, the loop ends in the last state.  A loop that adds a
term in every iteration ends with the sum of the terms.
-/

namespace NVSim
namespace Library

variable {σ M : Type*}

/-- The rule for a loop whose states `t 0`, `t 1`, ... are known. -/
theorem foldlM_range_eq_some {body : σ → ℕ → Option σ} {t : ℕ → σ} {n : ℕ}
    (hbody : ∀ i < n, body (t i) i = some (t (i + 1))) :
    (List.range n).foldlM body (t 0) = some (t n) := by
  induction n with
  | zero => rfl
  | succ n ih =>
      have hleading := ih fun i hi => hbody i (Nat.lt_succ_of_lt hi)
      rw [List.range_succ, List.foldlM_append, hleading]
      simp [hbody n (Nat.lt_succ_self n)]

/-- A loop that lets terms act on its state, one after the other, lets their sum act on it. -/
theorem foldlM_range_eq_act [AddCommMonoid M] {body : σ → ℕ → Option σ} (act : σ → M → σ)
    (hzero : ∀ s, act s 0 = s) (hadd : ∀ s a b, act (act s a) b = act s (a + b))
    {term : ℕ → M} {n : ℕ} (hbody : ∀ i < n, ∀ s, body s i = some (act s (term i))) (s : σ) :
    (List.range n).foldlM body s = some (act s (∑ i ∈ Finset.range n, term i)) := by
  have hstates : ∀ i < n, body (act s (∑ j ∈ Finset.range i, term j)) i =
      some (act s (∑ j ∈ Finset.range (i + 1), term j)) := by
    intro i hi
    rw [hbody i hi, hadd, Finset.sum_range_succ]
  have hrun := foldlM_range_eq_some (t := fun i => act s (∑ j ∈ Finset.range i, term j)) hstates
  rwa [Finset.range_zero, Finset.sum_empty, hzero] at hrun

end Library
end NVSim
