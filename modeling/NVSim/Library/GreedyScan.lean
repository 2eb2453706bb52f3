import Mathlib.Data.List.Basic

/-!
# Greedy scans

A scan that looks at the entries of a list in order and moves to each one that is accepted
relative to the entry it holds.  Acceptance need not be transitive, so what is known of the
last entry comes from a relation that acceptance implies and that is transitive.
-/

namespace NVSim
namespace Library

variable {α : Type*} (accepts : α → α → Prop) [DecidableRel accepts]

/-- Move to each entry that is accepted relative to the one held. -/
def greedyScan (held : α) (xs : List α) : α :=
  xs.foldl (fun held x => if accepts held x then x else held) held

theorem greedyScan_append (held : α) (xs ys : List α) :
    greedyScan accepts held (xs ++ ys) = greedyScan accepts (greedyScan accepts held xs) ys :=
  List.foldl_append

variable {accepts} {held x : α} {xs : List α}

theorem greedyScan_cons_of_accepts (h : accepts held x) :
    greedyScan accepts held (x :: xs) = greedyScan accepts x xs := by
  unfold greedyScan
  rw [List.foldl_cons, if_pos h]

theorem greedyScan_cons_of_not (h : ¬ accepts held x) :
    greedyScan accepts held (x :: xs) = greedyScan accepts held xs := by
  unfold greedyScan
  rw [List.foldl_cons, if_neg h]

/-- A scan that accepts nothing stays where it is. -/
theorem greedyScan_eq_self (h : ∀ x ∈ xs, ¬ accepts held x) :
    greedyScan accepts held xs = held := by
  induction xs with
  | nil => rfl
  | cons x xs ih =>
      rw [greedyScan_cons_of_not (h x List.mem_cons_self)]
      exact ih fun y hy => h y (List.mem_cons_of_mem x hy)

/-- The invariant rule: what holds of the first entry, and of an accepted entry if it holds
of the one it replaces, holds of the last. -/
theorem greedyScan_induction {P : α → Prop} (hheld : P held)
    (hstep : ∀ a, P a → ∀ x ∈ xs, accepts a x → P x) : P (greedyScan accepts held xs) := by
  induction xs generalizing held with
  | nil => exact hheld
  | cons x xs ih =>
      have hrest : ∀ a, P a → ∀ y ∈ xs, accepts a y → P y :=
        fun a ha y hy => hstep a ha y (List.mem_cons_of_mem x hy)
      by_cases h : accepts held x
      · rw [greedyScan_cons_of_accepts h]
        exact ih (hstep held hheld x List.mem_cons_self h) hrest
      · rw [greedyScan_cons_of_not h]
        exact ih hheld hrest

/-- Under a transitive relation that acceptance implies, the last entry is the first one or
related to it. -/
theorem greedyScan_eq_or_rel {P : α → Prop} {r : α → α → Prop} (hheld : P held)
    (htrans : ∀ {a b c}, r a b → r b c → r a c)
    (hstep : ∀ a, P a → ∀ x ∈ xs, accepts a x → P x ∧ r a x) :
    P (greedyScan accepts held xs) ∧
      (greedyScan accepts held xs = held ∨ r held (greedyScan accepts held xs)) := by
  refine greedyScan_induction (P := fun a => P a ∧ (a = held ∨ r held a)) ⟨hheld, .inl rfl⟩ ?_
  rintro a ⟨ha, hrel⟩ x hx haccepts
  obtain ⟨hPx, hax⟩ := hstep a ha x hx haccepts
  refine ⟨hPx, .inr ?_⟩
  rcases hrel with rfl | hrel
  · exact hax
  · exact htrans hrel hax

/-- A scan over entries apart from the one held comes back to it only if it never left. -/
theorem greedyScan_eq_self_iff {P : α → Prop} (hheld : ¬ P held) (hxs : ∀ x ∈ xs, P x) :
    greedyScan accepts held xs = held ↔ ∀ x ∈ xs, ¬ accepts held x := by
  refine ⟨fun h => ?_, greedyScan_eq_self⟩
  induction xs with
  | nil => exact fun x hx => absurd hx List.not_mem_nil
  | cons x xs ih =>
      have hrest : ∀ y ∈ xs, P y := fun y hy => hxs y (List.mem_cons_of_mem x hy)
      by_cases haccepts : accepts held x
      · -- all entries from here on have `P`
        rw [greedyScan_cons_of_accepts haccepts] at h
        have hlast : P (greedyScan accepts x xs) :=
          greedyScan_induction (hxs x List.mem_cons_self) fun _ _ y hy _ => hrest y hy
        rw [h] at hlast
        exact absurd hlast hheld
      · rw [greedyScan_cons_of_not haccepts] at h
        intro y hy
        rcases List.mem_cons.1 hy with rfl | hy
        · exact haccepts
        · exact ih hrest h y hy

end Library
end NVSim
