import Mathlib.Tactic.Common

/-!
# Loops that are left by their condition

A `while` loop that has no other exit, as a recursion on fuel: `none` says that the fuel
did not suffice.  A loop is left by its condition if its states are known, one for each
iteration, and the condition fails in the last of them; then any fuel that suffices gives
the same result.
-/

namespace NVSim
namespace Library

variable {σ : Type*}

/-- `while (cond) body`, of at most `fuel` iterations. -/
def loop (cond : σ → Bool) (body : σ → Option σ) : ℕ → σ → Option σ
  | 0, s => if cond s then none else some s
  | fuel + 1, s => if cond s then (body s).bind (loop cond body fuel) else some s

variable {cond : σ → Bool} {body : σ → Option σ}

theorem loop_of_false {s : σ} (h : cond s = false) (fuel : ℕ) :
    loop cond body fuel s = some s := by
  cases fuel with
  | zero => simp [loop, h]
  | succ fuel => simp [loop, h]

theorem loop_succ_of_true {s s' : σ} (h : cond s = true) (hbody : body s = some s') (fuel : ℕ) :
    loop cond body (fuel + 1) s = loop cond body fuel s' := by
  simp [loop, h, hbody]

/-- The rule for a loop whose states are known: after the states `t 0`, `t 1`, ... it ends
in the first one in which the condition fails. -/
theorem loop_eq_some {t : ℕ → σ} {n : ℕ} (hcond : ∀ i < n, cond (t i) = true)
    (hbody : ∀ i < n, body (t i) = some (t (i + 1))) (hend : cond (t n) = false) {fuel : ℕ}
    (hfuel : n ≤ fuel) : loop cond body fuel (t 0) = some (t n) := by
  induction n generalizing t fuel with
  | zero => exact loop_of_false hend fuel
  | succ n ih =>
      obtain ⟨fuel, rfl⟩ : ∃ k, fuel = k + 1 := ⟨fuel - 1, by omega⟩
      rw [loop_succ_of_true (hcond 0 (Nat.succ_pos n)) (hbody 0 (Nat.succ_pos n))]
      exact ih (t := fun i => t (i + 1)) (fun i hi => hcond (i + 1) (by omega))
        (fun i hi => hbody (i + 1) (by omega)) hend (by omega)

/-- The rule of the variant: under an invariant that every iteration preserves, while it makes
the variant smaller, the loop ends with the invariant. -/
theorem loop_ends {I : σ → Prop} {variant : σ → ℕ}
    (hbody : ∀ s, I s → cond s = true → ∃ s', body s = some s' ∧ I s' ∧ variant s' < variant s)
    {s : σ} (hI : I s) {fuel : ℕ} (hfuel : variant s ≤ fuel) :
    ∃ s', loop cond body fuel s = some s' ∧ I s' ∧ cond s' = false := by
  induction fuel generalizing s with
  | zero =>
      cases hc : cond s with
      | false => exact ⟨s, loop_of_false hc 0, hI, hc⟩
      | true =>
          obtain ⟨s', -, -, hlt⟩ := hbody s hI hc
          omega
  | succ fuel ih =>
      cases hc : cond s with
      | false => exact ⟨s, loop_of_false hc _, hI, hc⟩
      | true =>
          obtain ⟨s', hs', hI', hlt⟩ := hbody s hI hc
          rw [loop_succ_of_true hc hs']
          exact ih hI' (by omega)

/-- The rule of the endless loop: under an invariant that keeps the condition true, no fuel
suffices. -/
theorem loop_eq_none {I : σ → Prop} (hcond : ∀ s, I s → cond s = true)
    (hbody : ∀ s s', I s → body s = some s' → I s') {s : σ} (hI : I s) (fuel : ℕ) :
    loop cond body fuel s = none := by
  induction fuel generalizing s with
  | zero => simp [loop, hcond s hI]
  | succ fuel ih =>
      simp only [loop, hcond s hI, if_true]
      cases hs' : body s with
      | none => rfl
      | some s' => exact ih (hbody s s' hI hs')

end Library
end NVSim
