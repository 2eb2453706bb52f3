import Mathlib.Algebra.GroupWithZero.Defs
import Mathlib.Data.List.Basic

/-!
# Updates of which the last one counts

A coordinate of a state that every update either writes, without looking at the
state, or keeps.  What a sequence of such updates leaves in the coordinate does
not change when the sequence is run a second time.  The same holds for a number
that starts at zero and is written or multiplied.
-/

namespace NVSim.Library

variable {σ τ α : Type*}

/-- `f` writes the coordinate `π` or keeps it. -/
def WritesOrKeeps (π : σ → α) (f : σ → σ) : Prop :=
  (∃ a, ∀ s, π (f s) = a) ∨ ∀ s, π (f s) = π s

namespace WritesOrKeeps

variable {π : σ → α} {f g : σ → σ}

theorem comp (hf : WritesOrKeeps π f) (hg : WritesOrKeeps π g) :
    WritesOrKeeps π fun s => g (f s) := by
  rcases hg with ⟨a, hg⟩ | hg
  · exact .inl ⟨a, fun s => hg (f s)⟩
  · rcases hf with ⟨a, hf⟩ | hf
    · exact .inl ⟨a, fun s => (hg (f s)).trans (hf s)⟩
    · exact .inr fun s => (hg (f s)).trans (hf s)

/-- A value that is there or not is written or kept. -/
theorem getD (value : Option α) (hf : ∀ s, π (f s) = value.getD (π s)) : WritesOrKeeps π f := by
  cases value with
  | none => exact .inr hf
  | some a => exact .inl ⟨a, hf⟩

theorem foldl {step : σ → τ → σ} (hstep : ∀ t, WritesOrKeeps π (step · t)) (ts : List τ) :
    WritesOrKeeps π (ts.foldl step) := by
  induction ts with
  | nil => exact .inr fun s => rfl
  | cons t ts ih => exact (hstep t).comp ih

/-- A second run, after something that keeps the coordinate, changes nothing. -/
theorem again (hf : WritesOrKeeps π f) (hg : ∀ s, π (g s) = π s) (s : σ) :
    π (f (g (f s))) = π (f s) := by
  rcases hf with ⟨a, hf⟩ | hf
  · rw [hf, hf]
  · rw [hf, hg]

end WritesOrKeeps

section Scales

variable {M : Type*} [MonoidWithZero M]

/-- `f` writes the number `π` or multiplies it. -/
def WritesOrScales (π : σ → M) (f : σ → σ) : Prop :=
  (∃ a, ∀ s, π (f s) = a) ∨ ∃ k, ∀ s, π (f s) = π s * k

namespace WritesOrScales

variable {π : σ → M} {f g : σ → σ}

theorem comp (hf : WritesOrScales π f) (hg : WritesOrScales π g) :
    WritesOrScales π fun s => g (f s) := by
  rcases hg with ⟨a, hg⟩ | ⟨k, hg⟩
  · exact .inl ⟨a, fun s => hg (f s)⟩
  · rcases hf with ⟨a, hf⟩ | ⟨l, hf⟩
    · refine .inl ⟨a * k, fun s => ?_⟩
      rw [hg, hf]
    · refine .inr ⟨l * k, fun s => ?_⟩
      rw [hg, hf, mul_assoc]

theorem foldl {step : σ → τ → σ} (hstep : ∀ t, WritesOrScales π (step · t)) (ts : List τ) :
    WritesOrScales π (ts.foldl step) := by
  induction ts with
  | nil => exact .inr ⟨1, fun s => (mul_one (π s)).symm⟩
  | cons t ts ih => exact (hstep t).comp ih

/-- A number that was zero before the first run is not changed by a second one. -/
theorem again (hf : WritesOrScales π f) (hg : ∀ s, π (g s) = π s) {s : σ} (hs : π s = 0) :
    π (f (g (f s))) = π (f s) := by
  rcases hf with ⟨a, hf⟩ | ⟨k, hf⟩
  · rw [hf, hf]
  · rw [hf, hg, hf, hs, zero_mul, zero_mul]

end WritesOrScales

end Scales

end NVSim.Library
