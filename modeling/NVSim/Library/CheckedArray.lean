import Mathlib.Data.Int.Notation
import Mathlib.Logic.Function.Basic
import Mathlib.Tactic.Common
import NVSim.Library.While

/-!
# Arrays of a declared length

The arrays of a C++ class have a length that is fixed with the class, and nothing checks
the index of an access.  Here every access is checked: one out of range is an error, so a
program that ends normally used indices in range only.  The loops over the indices of such
arrays run a counter up or down.
-/

namespace NVSim
namespace Library

/-- An access to an array at an index it does not have. -/
inductive IndexError
  | outOfRange
deriving DecidableEq, Repr

/-- The contents of `α a[n]`. -/
abbrev CheckedArray (α : Type) (n : ℕ) := Fin n → α

namespace CheckedArray

variable {α : Type} {n : ℕ}

/-- The value of `a[i]`. -/
def read (a : CheckedArray α n) (i : ℤ) : Except IndexError α :=
  if h : 0 ≤ i ∧ i.toNat < n then .ok (a ⟨i.toNat, h.2⟩) else .error .outOfRange

/-- `a[i] = v`. -/
def write (a : CheckedArray α n) (i : ℤ) (v : α) : Except IndexError (CheckedArray α n) :=
  if h : 0 ≤ i ∧ i.toNat < n then .ok (Function.update a ⟨i.toNat, h.2⟩ v)
  else .error .outOfRange

variable {a : CheckedArray α n} {i : ℤ} {k : ℕ} {v : α}

theorem read_eq (hi : i = k) (hk : k < n) : a.read i = .ok (a ⟨k, hk⟩) := by
  subst hi
  exact dif_pos ⟨Int.natCast_nonneg k, hk⟩

theorem write_eq (hi : i = k) (hk : k < n) :
    a.write i v = .ok (Function.update a ⟨k, hk⟩ v) := by
  subst hi
  exact dif_pos ⟨Int.natCast_nonneg k, hk⟩

theorem write_of_le (hi : (n : ℤ) ≤ i) : a.write i v = .error .outOfRange :=
  dif_neg fun h => by omega

/-- A write leaves the other entries alone. -/
theorem update_of_ne {i j : ℕ} {hi : i < n} {hj : j < n} (h : j ≠ i) :
    Function.update a ⟨i, hi⟩ v ⟨j, hj⟩ = a ⟨j, hj⟩ :=
  Function.update_of_ne (fun heq => h (congrArg Fin.val heq)) v a

end CheckedArray

/-! ## Loops over indices -/

section Loops

variable {ε : Type} {σ : Type} (body : ℕ → σ → Except ε σ)

/-- `for (i = 0; i < n; i++)`. -/
def countUp : ℕ → σ → Except ε σ
  | 0, s => .ok s
  | n + 1, s => countUp n s >>= body n

/-- `for (i = n - 1; i >= 0; i--)`. -/
def countDown : ℕ → σ → Except ε σ
  | 0, s => .ok s
  | n + 1, s => body n s >>= countDown n

variable {body} {P : ℕ → σ → Prop} {E : ε → Prop} {n : ℕ} {s : σ}

/-- The rule of the loop that counts up: `P i` holds before the iteration of `i`. -/
theorem yields_countUp (hstart : P 0 s)
    (hstep : ∀ i < n, ∀ s, P i s → Yields (body i s) (P (i + 1)) E) :
    Yields (countUp body n s) (P n) E := by
  induction n with
  | zero => exact hstart
  | succ n ih =>
      have hfirst := ih fun i hi => hstep i (Nat.lt_succ_of_lt hi)
      exact hfirst.bind fun s hs => hstep n (Nat.lt_succ_self n) s hs

/-- The rule of the loop that counts down: `P i` holds after the iteration of `i`. -/
theorem yields_countDown (hstart : P n s)
    (hstep : ∀ i < n, ∀ s, P (i + 1) s → Yields (body i s) (P i) E) :
    Yields (countDown body n s) (P 0) E := by
  induction n generalizing s with
  | zero => exact hstart
  | succ n ih =>
      have hlast := hstep n (Nat.lt_succ_self n) s hstart
      exact hlast.bind fun s hs => ih hs fun i hi => hstep i (Nat.lt_succ_of_lt hi)

end Loops

end Library
end NVSim
