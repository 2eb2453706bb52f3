import NVSim.Model.Search

/-!
# What `BIGFOR` enumerates

The loops of the search double their variables.  When all of them start at least at
one, the enumeration ends, and its candidates are those each of whose variables is
visited by its loop.
-/

namespace NVSim

/-! ## One loop -/

/-- The values of a loop that doubles its variable. -/
structure Range.Visits (r : Range) (n : ℕ) : Prop where
  one_le : 1 ≤ r.min
  le : (n : ℤ) ≤ r.max
  power : ∃ i, n = r.min.toNat * 2 ^ i

namespace Range.Visits

variable {r : Range} {n : ℕ}

theorem pos (h : r.Visits n) : 0 < n := by
  obtain ⟨i, rfl⟩ := h.power
  have hmin := h.one_le
  exact Nat.mul_pos (by omega) (Nat.two_pow_pos i)

/-- Starting at a power of two, a loop visits powers of two. -/
theorem isPowerOfTwo (h : r.Visits n) (hmin : r.min.toNat.isPowerOfTwo) : n.isPowerOfTwo := by
  obtain ⟨i, rfl⟩ := h.power
  exact Library.isPowerOfTwo_mul hmin ⟨i, rfl⟩

/-- A clipped loop stays below what it is clipped to. -/
theorem le_of_clip {m : ℕ} (h : (r.clip m).Visits n) : n ≤ m := by
  have hle : (n : ℤ) ≤ m := h.le.trans (min_le_left _ _)
  omega

theorem isPowerOfTwo_of_clip {m : ℕ} (h : (r.clip m).Visits n) (hm : m.isPowerOfTwo)
    (hmin : r.min.toNat.isPowerOfTwo) : n.isPowerOfTwo := by
  apply h.isPowerOfTwo
  rcases min_choice (m : ℤ) r.min with hclip | hclip
  · have : (r.clip m).min.toNat = m := by
      show (Min.min (m : ℤ) r.min).toNat = m
      rw [hclip, Int.toNat_natCast]
    rw [this]
    exact hm
  · have : (r.clip m).min.toNat = r.min.toNat := congrArg Int.toNat hclip
    rw [this]
    exact hmin

end Range.Visits

theorem mem_doublings {bound fuel start n : ℕ} :
    n ∈ doublings bound fuel start ↔ ∃ i, i < fuel ∧ n = start * 2 ^ i ∧ n ≤ bound := by
  induction fuel generalizing start with
  | zero =>
      apply iff_of_false List.not_mem_nil
      rintro ⟨i, hi, -⟩
      omega
  | succ fuel ih =>
      unfold doublings
      constructor
      · intro hn
        split at hn
        · rename_i hle
          rcases List.mem_cons.1 hn with rfl | hn
          · exact ⟨0, by omega, by rw [pow_zero, mul_one], hle⟩
          · obtain ⟨i, hi, rfl, hbound⟩ := ih.1 hn
            exact ⟨i + 1, by omega, by rw [pow_succ]; ring, hbound⟩
        · cases hn
      · rintro ⟨i, hi, rfl, hbound⟩
        have hle : start ≤ bound := (Nat.le_mul_of_pos_right start (Nat.two_pow_pos i)).trans hbound
        rw [if_pos hle]
        cases i with
        | zero =>
            rw [pow_zero, mul_one]
            exact List.mem_cons_self
        | succ i =>
            refine List.mem_cons_of_mem start (ih.2 ⟨i, by omega, ?_, hbound⟩)
            rw [pow_succ]
            ring

/-- The loop visits what it is said to visit. -/
theorem mem_doublings_iff_visits {r : Range} (hmin : 1 ≤ r.min) {n : ℕ} :
    n ∈ doublings r.max.toNat r.max.toNat r.min.toNat ↔ r.Visits n := by
  rw [mem_doublings]
  constructor
  · rintro ⟨i, hi, rfl, hle⟩
    exact ⟨hmin, by omega, i, rfl⟩
  · rintro ⟨-, hle, i, rfl⟩
    -- the number of doublings is below the bound, which is the fuel
    have hpow : 2 ^ i ≤ r.min.toNat * 2 ^ i := Nat.le_mul_of_pos_left _ (by omega)
    have hi : i < 2 ^ i := Nat.lt_two_pow_self
    exact ⟨i, by omega, rfl, by omega⟩

/-- The enumeration ends, and consists of the entries with `P`. -/
def Enumerates {α : Type} (xs : Option (List α)) (P : α → Prop) : Prop :=
  ∃ ys, xs = some ys ∧ ∀ y, y ∈ ys ↔ P y

theorem Enumerates.congr {α : Type} {xs : Option (List α)} {P Q : α → Prop}
    (h : Enumerates xs P) (hPQ : ∀ x, P x ↔ Q x) : Enumerates xs Q := by
  obtain ⟨ys, hys, hmem⟩ := h
  exact ⟨ys, hys, fun y => (hmem y).trans (hPQ y)⟩

theorem enumerates_mapM {α : Type} {body : ℕ → Option (List α)} {P : ℕ → α → Prop} {ns : List ℕ}
    (hbody : ∀ n ∈ ns, Enumerates (body n) (P n)) :
    Enumerates ((ns.mapM body).map List.flatten) fun x => ∃ n ∈ ns, P n x := by
  induction ns with
  | nil =>
      refine ⟨[], rfl, fun x => iff_of_false List.not_mem_nil ?_⟩
      rintro ⟨n, hn, -⟩
      cases hn
  | cons n ns ih =>
      obtain ⟨xs, hxs, hmem⟩ := hbody n List.mem_cons_self
      obtain ⟨ys, hys, hmem'⟩ := ih fun m hm => hbody m (List.mem_cons_of_mem n hm)
      obtain ⟨yss, hyss, rfl⟩ := Option.map_eq_some_iff.1 hys
      refine ⟨xs ++ yss.flatten, ?_, fun x => ?_⟩
      · rw [List.mapM_cons, hxs, hyss]
        rfl
      · rw [List.mem_append, hmem, hmem']
        exact (List.exists_mem_cons_iff (fun m => P m x) n ns).symm

/-- A loop that starts at least at one enumerates what its body enumerates for the
values it visits. -/
theorem enumerates_forDoubling {α : Type} {r : Range} {body : ℕ → Option (List α)}
    {P : ℕ → α → Prop} (hmin : 1 ≤ r.min)
    (hbody : ∀ n, r.Visits n → Enumerates (body n) (P n)) :
    Enumerates (forDoubling r body) fun x => ∃ n, r.Visits n ∧ P n x := by
  unfold forDoubling
  split
  · rename_i hempty
    refine ⟨[], rfl, fun x => iff_of_false List.not_mem_nil ?_⟩
    rintro ⟨n, hn, -⟩
    obtain ⟨i, rfl⟩ := hn.power
    have hle := hn.le
    have hpow : r.min.toNat ≤ r.min.toNat * 2 ^ i := Nat.le_mul_of_pos_right _ (Nat.two_pow_pos i)
    omega
  · rw [if_neg (by omega)]
    have hmapM := enumerates_mapM fun n hn => hbody n ((mem_doublings_iff_visits hmin).1 hn)
    apply hmapM.congr
    intro x
    simp only [mem_doublings_iff_visits hmin]

/-! ## The candidates -/

/-- All doubling loops start at least at one. -/
structure SearchSpace.Positive (space : SearchSpace) : Prop where
  numRowMat : 1 ≤ space.numRowMat.min
  numColumnMat : 1 ≤ space.numColumnMat.min
  numActiveMatPerRow : 1 ≤ space.numActiveMatPerRow.min
  numActiveMatPerColumn : 1 ≤ space.numActiveMatPerColumn.min
  numRowSubarray : 1 ≤ space.numRowSubarray.min
  numColumnSubarray : 1 ≤ space.numColumnSubarray.min
  numActiveSubarrayPerRow : 1 ≤ space.numActiveSubarrayPerRow.min
  numActiveSubarrayPerColumn : 1 ≤ space.numActiveSubarrayPerColumn.min
  muxSenseAmp : 1 ≤ space.muxSenseAmp.min
  muxOutputLev1 : 1 ≤ space.muxOutputLev1.min
  muxOutputLev2 : 1 ≤ space.muxOutputLev2.min
  numRowPerSet : 1 ≤ space.numRowPerSet.min

/-- The loop of every variable visits it. -/
structure Candidate.InSpace (space : SearchSpace) (associativity : ℤ) (c : Candidate) : Prop where
  numRowMat : space.numRowMat.Visits c.numRowMat
  numColumnMat : space.numColumnMat.Visits c.numColumnMat
  numActiveMatPerRow : (space.numActiveMatPerRow.clip c.numColumnMat).Visits c.numActiveMatPerRow
  numActiveMatPerColumn :
    (space.numActiveMatPerColumn.clip c.numRowMat).Visits c.numActiveMatPerColumn
  numRowSubarray : space.numRowSubarray.Visits c.numRowSubarray
  numColumnSubarray : space.numColumnSubarray.Visits c.numColumnSubarray
  numActiveSubarrayPerRow :
    (space.numActiveSubarrayPerRow.clip c.numColumnSubarray).Visits c.numActiveSubarrayPerRow
  numActiveSubarrayPerColumn :
    (space.numActiveSubarrayPerColumn.clip c.numRowSubarray).Visits c.numActiveSubarrayPerColumn
  muxSenseAmp : space.muxSenseAmp.Visits c.muxSenseAmp
  muxOutputLev1 : space.muxOutputLev1.Visits c.muxOutputLev1
  muxOutputLev2 : space.muxOutputLev2.Visits c.muxOutputLev2
  numRowPerSet :
    (⟨space.numRowPerSet.min, min space.numRowPerSet.max associativity⟩ : Range).Visits
      c.numRowPerSet
  areaOptimizationLevel : ∃ level ∈ space.areaOptimizationLevel.values,
    c.areaOptimizationLevel = .ofCode level.toNat

theorem Range.one_le_clip {r : Range} {n : ℕ} (hn : 0 < n) (hmin : 1 ≤ r.min) :
    1 ≤ (r.clip n).min :=
  le_min (by omega) hmin

theorem enumerates_bigFor {space : SearchSpace} (hpos : space.Positive) (associativity : ℤ) :
    Enumerates (bigFor space associativity) (Candidate.InSpace space associativity) := by
-- the loop around an active count bounds it
  unfold bigFor
  refine Enumerates.congr (enumerates_forDoubling hpos.numRowMat fun numRowMat hRowMat =>
    enumerates_forDoubling hpos.numColumnMat fun numColumnMat hColumnMat =>
    enumerates_forDoubling (Range.one_le_clip hColumnMat.pos hpos.numActiveMatPerRow) fun _ _ =>
    enumerates_forDoubling (Range.one_le_clip hRowMat.pos hpos.numActiveMatPerColumn) fun _ _ =>
    enumerates_forDoubling hpos.numRowSubarray fun numRowSubarray hRowSubarray =>
    enumerates_forDoubling hpos.numColumnSubarray fun numColumnSubarray hColumnSubarray =>
    enumerates_forDoubling
      (Range.one_le_clip hColumnSubarray.pos hpos.numActiveSubarrayPerRow) fun _ _ =>
    enumerates_forDoubling
      (Range.one_le_clip hRowSubarray.pos hpos.numActiveSubarrayPerColumn) fun _ _ =>
    enumerates_forDoubling hpos.muxSenseAmp fun _ _ =>
    enumerates_forDoubling hpos.muxOutputLev1 fun _ _ =>
    enumerates_forDoubling hpos.muxOutputLev2 fun _ _ =>
    enumerates_forDoubling hpos.numRowPerSet fun _ _ =>
    ⟨_, rfl, fun _ => List.mem_map⟩) fun c => ?_
  constructor
  · rintro ⟨_, h₁, _, h₂, _, h₃, _, h₄, _, h₅, _, h₆, _, h₇, _, h₈, _, h₉, _, h₁₀, _, h₁₁, _,
      h₁₂, level, hlevel, rfl⟩
    exact ⟨h₁, h₂, h₃, h₄, h₅, h₆, h₇, h₈, h₉, h₁₀, h₁₁, h₁₂, level, hlevel, rfl⟩
  · rintro ⟨h₁, h₂, h₃, h₄, h₅, h₆, h₇, h₈, h₉, h₁₀, h₁₁, h₁₂, level, hlevel, hc⟩
    refine ⟨_, h₁, _, h₂, _, h₃, _, h₄, _, h₅, _, h₆, _, h₇, _, h₈, _, h₉, _, h₁₀, _, h₁₁, _,
      h₁₂, level, hlevel, ?_⟩
    rw [← hc]

end NVSim
