import Mathlib.Data.Int.Notation
import Mathlib.Tactic.Common

/-!
# Programs that divide

A division of machine integers traps if the divisor is zero.  A program notes the divisors
of the divisions it makes, in order, and ends normally or with an error.  What it notes behind
a zero is not reached.
-/

namespace NVSim.Library

/-- How a program ends, and the divisors of the divisions on the way. -/
structure Dividing (ε α : Type) where
  divisors : List ℤ
  outcome : Except ε α

namespace Dividing

variable {ε α β : Type}

/-- A program that does not divide. -/
def check (outcome : Except ε α) : Dividing ε α := ⟨[], outcome⟩

/-- Divisions, one after the other. -/
def divide (divisors : List ℤ) : Dividing ε Unit := ⟨divisors, .ok ()⟩

instance : Monad (Dividing ε) where
  pure x := check (.ok x)
  bind x f :=
    match x.outcome with
    | .error e => ⟨x.divisors, .error e⟩
    | .ok v => ⟨x.divisors ++ (f v).divisors, (f v).outcome⟩

/-- Every divisor is positive. -/
def Positive (x : Dividing ε α) : Prop := ∀ d ∈ x.divisors, 0 < d

instance (x : Dividing ε α) : Decidable x.Positive :=
  inferInstanceAs (Decidable (∀ d ∈ x.divisors, 0 < d))

/-- The end of the program; `none` is a trap. -/
def run (x : Dividing ε α) : Option (Except ε α) :=
  if 0 ∈ x.divisors then none else some x.outcome

/-- With positive divisors nothing traps. -/
theorem Positive.run {x : Dividing ε α} (h : x.Positive) : x.run = some x.outcome :=
  if_neg fun hzero => absurd (h 0 hzero) (Int.lt_irrefl 0)

@[simp] theorem positive_check (outcome : Except ε α) : (check outcome).Positive := by
  intro d hd
  cases hd

@[simp] theorem positive_pure (x : α) : (pure x : Dividing ε α).Positive := positive_check _

@[simp] theorem positive_divide (divisors : List ℤ) :
    (divide divisors : Dividing ε Unit).Positive ↔ ∀ d ∈ divisors, 0 < d := Iff.rfl

@[simp] theorem outcome_divide (divisors : List ℤ) :
    (divide divisors : Dividing ε Unit).outcome = .ok () := rfl

@[simp] theorem outcome_check (outcome : Except ε α) : (check outcome).outcome = outcome := rfl

@[simp] theorem outcome_bind (x : Dividing ε α) (f : α → Dividing ε β) :
    (x >>= f).outcome = x.outcome >>= fun v => (f v).outcome := by
  obtain ⟨divisors, e | v⟩ := x
  · rfl
  · rfl

/-- The second program runs if the first one ends normally. -/
@[simp] theorem positive_bind (x : Dividing ε α) (f : α → Dividing ε β) :
    (x >>= f).Positive ↔ x.Positive ∧ ∀ v, x.outcome = .ok v → (f v).Positive := by
  obtain ⟨divisors, e | v⟩ := x
  · constructor
    · exact fun h => ⟨h, fun v hv => nomatch hv⟩
    · exact fun h => h.1
  · constructor
    · intro h
      refine ⟨fun d hd => h d (List.mem_append_left _ hd), ?_⟩
      rintro _ ⟨⟩ d hd
      exact h d (List.mem_append_right _ hd)
    · intro h d hd
      exact (List.mem_append.1 hd).elim (h.1 d) (h.2 v rfl d)

end Dividing

end NVSim.Library
