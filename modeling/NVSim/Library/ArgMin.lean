import Mathlib.Data.List.Induction
import Mathlib.Order.Lattice

/-!
# Scans that keep the best entry

A scan that replaces what it holds only by an admissible entry of strictly
smaller cost ends with the earliest admissible entry of minimal cost.
-/

namespace NVSim.Library

variable {α κ σ : Type*} [LinearOrder κ]

/-- `a` is the earliest of the admissible entries of minimal cost. -/
structure EarliestMin (admissible : α → Prop) (cost : α → κ) (xs : List α) (a : α) : Prop where
  isAdmissible : admissible a
  position : ∃ before after, xs = before ++ a :: after ∧
    (∀ b ∈ before, admissible b → cost a < cost b) ∧
    ∀ b ∈ after, admissible b → cost a ≤ cost b

namespace EarliestMin

variable {admissible : α → Prop} {cost : α → κ} {xs : List α} {a b : α}

theorem mem (h : EarliestMin admissible cost xs a) : a ∈ xs := by
  obtain ⟨before, after, rfl, -, -⟩ := h.position
  exact List.mem_append_right before List.mem_cons_self

theorem le (h : EarliestMin admissible cost xs a) (hb : b ∈ xs) (hadmissible : admissible b) :
    cost a ≤ cost b := by
  obtain ⟨before, after, rfl, hbefore, hafter⟩ := h.position
  rcases List.mem_append.1 hb with hb | hb
  · exact (hbefore b hb hadmissible).le
  · rcases List.mem_cons.1 hb with rfl | hb
    · exact le_rfl
    · exact hafter b hb hadmissible

/-- There is only one. -/
theorem eq (ha : EarliestMin admissible cost xs a) (hb : EarliestMin admissible cost xs b) :
    a = b := by
  have hle := ha.le hb.mem hb.isAdmissible
  have hge := hb.le ha.mem ha.isAdmissible
  obtain ⟨before, after, rfl, hbefore, -⟩ := ha.position
  obtain ⟨before', after', heq, hbefore', -⟩ := hb.position
  -- the one that stands first is not above the other
  rcases List.append_eq_append_iff.1 heq with ⟨l, rfl, hrest⟩ | ⟨l, rfl, hrest⟩
  · cases l with
    | nil => exact (List.cons.inj hrest).1
    | cons c l =>
        obtain rfl := (List.cons.inj hrest).1
        have hlt := hbefore' a (List.mem_append_right before List.mem_cons_self) ha.isAdmissible
        exact absurd hle (not_le.2 hlt)
  · cases l with
    | nil => exact (List.cons.inj hrest).1.symm
    | cons c l =>
        obtain rfl := (List.cons.inj hrest).1
        have hlt := hbefore b (List.mem_append_right before' List.mem_cons_self) hb.isAdmissible
        exact absurd hge (not_le.2 hlt)

/-- An entry that is not strictly better does not replace the earliest minimum. -/
theorem keep (h : EarliestMin admissible cost xs a)
    (hb : admissible b → cost a ≤ cost b) : EarliestMin admissible cost (xs ++ [b]) a := by
  obtain ⟨before, after, rfl, hbefore, hafter⟩ := h.position
  refine ⟨h.isAdmissible, before, after ++ [b], by simp, hbefore, fun c hc hadmissible => ?_⟩
  rcases List.mem_append.1 hc with hc | hc
  · exact hafter c hc hadmissible
  · rw [List.mem_singleton.1 hc] at hadmissible ⊢
    exact hb hadmissible

/-- An admissible entry below all admissible ones so far is the earliest minimum. -/
theorem replace (hb : admissible b) (hlt : ∀ c ∈ xs, admissible c → cost b < cost c) :
    EarliestMin admissible cost (xs ++ [b]) b := by
  refine ⟨hb, xs, [], rfl, hlt, fun c hc => ?_⟩
  cases hc

end EarliestMin

section Scan

variable {admissible : α → Prop} {cost : α → κ} {step : σ → α → σ} {start : σ}
  {hold : α → σ} {worst : κ}

/-- What a scan holds after the entries `xs`: the earliest minimum, or still what
it started with when no admissible entry is below the cost it started with. -/
theorem foldl_keepBest
    (hstart : ∀ a, admissible a ∧ cost a < worst ∧ step start a = hold a ∨
      (admissible a → worst ≤ cost a) ∧ step start a = start)
    (hstep : ∀ b a, admissible a ∧ cost a < cost b ∧ step (hold b) a = hold a ∨
      (admissible a → cost b ≤ cost a) ∧ step (hold b) a = hold b) (xs : List α) :
    (xs.foldl step start = start ∧ ∀ a ∈ xs, admissible a → worst ≤ cost a) ∨
      ∃ a, EarliestMin admissible cost xs a ∧ cost a < worst ∧
        xs.foldl step start = hold a := by
  induction xs using List.reverseRecOn with
  | nil => exact .inl ⟨rfl, fun a ha => absurd ha List.not_mem_nil⟩
  | append_singleton xs a ih =>
      rw [List.foldl_append, List.foldl_cons, List.foldl_nil]
      rcases ih with ⟨hfold, hxs⟩ | ⟨b, hmin, hworst, hfold⟩
      · rw [hfold]
        rcases hstart a with ⟨hadmissible, hlt, hhold⟩ | ⟨hnot, hkeep⟩
        · right
          refine ⟨a, .replace hadmissible fun c hc hc' => ?_, hlt, hhold⟩
          exact hlt.trans_le (hxs c hc hc')
        · refine .inl ⟨hkeep, fun c hc => ?_⟩
          rcases List.mem_append.1 hc with hc | hc
          · exact hxs c hc
          · rw [List.mem_singleton.1 hc]
            exact hnot
      · rw [hfold]
        right
        rcases hstep b a with ⟨hadmissible, hlt, hhold⟩ | ⟨hnot, hkeep⟩
        · refine ⟨a, .replace hadmissible fun c hc hc' => ?_, hlt.trans hworst, hhold⟩
          exact hlt.trans_le (hmin.le hc hc')
        · exact ⟨b, hmin.keep hnot, hworst, hkeep⟩

end Scan

end NVSim.Library
