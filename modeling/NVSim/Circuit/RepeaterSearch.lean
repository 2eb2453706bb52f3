import Mathlib.Algebra.Order.Floor.Ring
import Mathlib.Algebra.Order.Floor.Semiring
import Mathlib.Tactic.FieldSimp
import Mathlib.Tactic.Linarith
import Mathlib.Tactic.NormNum
import Mathlib.Tactic.Positivity
import Mathlib.Tactic.Ring
import NVSim.Library.GreedyScan
import NVSim.Model.Repeater

/-!
# The search for slower repeaters

`findPenalizedRepeater` is meant to scan a grid of spacings and sizes.  The loop over the
sizes counts the size of the wire down and nothing puts it back, so only the first spacing
is scanned.  What is scanned keeps the delay within the penalty and makes the product of
the energy and the leakage smaller with every pair that is accepted.
-/

namespace NVSim

open Library

variable {K : Type} [Field K] [LinearOrder K]

/-- The test of the inner loop: the delay of the pair is within the target, and its energy
and its leakage, relative to those of the pair accepted last, add up to less than two. -/
def RepeaterCosts.Accepts (costs : RepeaterCosts K) (targetDelay : K) (held pair : K × K) :
    Prop :=
  costs.unitDelay pair.1 pair.2 ≤ targetDelay ∧
    costs.unitDynamicEnergy pair.1 pair.2 / costs.unitDynamicEnergy held.1 held.2 +
      costs.unitLeakage pair.1 pair.2 / costs.unitLeakage held.1 held.2 < 2

instance (costs : RepeaterCosts K) (targetDelay : K) :
    DecidableRel (costs.Accepts targetDelay) :=
  fun _ _ => inferInstanceAs (Decidable (_ ∧ _))

/-! ## The grid -/

/-- The first `n` sizes at a spacing. -/
def sizeColumn (size : K) (n : ℕ) (spacing : K) : List (K × K) :=
  (List.range n).map fun (j : ℕ) => (spacing, size - stepSize * (j : K))

omit [LinearOrder K] in
theorem mem_sizeColumn {size spacing : K} {n : ℕ} {pair : K × K} :
    pair ∈ sizeColumn size n spacing ↔ ∃ j < n, pair = (spacing, size - stepSize * j) := by
  simp [sizeColumn, eq_comm]

section Grid

variable [FloorRing K]

/-- The number of sizes, from the size of the wire down to the minimum. -/
def numSizes (size : K) : ℕ := ⌊size⌋₊

/-- The number of spacings, from that of the wire up to four times as much. -/
def numSpacings (spacing : K) : ℕ := ⌊3 * spacing / stepSpacing⌋₊ + 1

/-- All pairs of a spacing and a size, in the order of the intended scan. -/
def repeaterGrid (spacing size : K) : List (K × K) :=
  (List.range (numSpacings spacing)).flatMap fun (i : ℕ) =>
    sizeColumn size (numSizes size) (spacing + stepSpacing * (i : K))

/-- The scan of the whole grid, from the pair of the wire. -/
def scanRepeaterGrid (costs : RepeaterCosts K) (penalty spacing size : K) : K × K :=
  greedyScan (costs.Accepts (costs.unitDelay spacing size * (1 + penalty))) (spacing, size)
    (repeaterGrid spacing size)

/-- The scan of the sizes at the spacing of the wire. -/
def scanFirstColumn (costs : RepeaterCosts K) (penalty spacing size : K) : K × K :=
  greedyScan (costs.Accepts (costs.unitDelay spacing size * (1 + penalty))) (spacing, size)
    (sizeColumn size (numSizes size) spacing)

variable [IsStrictOrderedRing K]

theorem stepSpacing_pos : (0 : K) < stepSpacing := by
  unfold stepSpacing
  norm_num

theorem lt_numSizes_iff {size : K} {j : ℕ} : j < numSizes size ↔ endSize ≤ size - stepSize * j := by
  unfold numSizes endSize stepSize
  rw [← Nat.succ_le_iff, Nat.le_floor_iff' (Nat.succ_ne_zero j), one_mul, Nat.cast_succ]
  constructor
  · intro h
    linarith
  · intro h
    linarith

theorem lt_numSpacings_iff {spacing : K} (hspacing : 0 < spacing) {i : ℕ} :
    i < numSpacings spacing ↔ spacing + stepSpacing * i ≤ 4 * spacing := by
  have hquotient : 0 ≤ 3 * spacing / (stepSpacing : K) :=
    div_nonneg (by linarith) stepSpacing_pos.le
  unfold numSpacings
  rw [Nat.lt_succ_iff, Nat.le_floor_iff hquotient, le_div_iff₀ stepSpacing_pos, mul_comm (i : K)]
  constructor
  · intro h
    linarith
  · intro h
    linarith

/-- The grid consists of every spacing up to four times that of the wire, and at each of
them every size down to the minimum. -/
theorem mem_repeaterGrid {spacing size : K} (hspacing : 0 < spacing) {pair : K × K} :
    pair ∈ repeaterGrid spacing size ↔ ∃ i j : ℕ,
      pair = (spacing + stepSpacing * i, size - stepSize * j) ∧
        spacing + stepSpacing * i ≤ 4 * spacing ∧ endSize ≤ size - stepSize * j := by
  simp only [repeaterGrid, List.mem_flatMap, List.mem_range, lt_numSpacings_iff hspacing,
    mem_sizeColumn, lt_numSizes_iff]
  constructor
  · rintro ⟨i, hi, j, hj, rfl⟩
    exact ⟨i, j, rfl, hi, hj⟩
  · rintro ⟨i, j, rfl, hi, hj⟩
    exact ⟨i, hi, j, hj, rfl⟩

end Grid

/-! ## What the loops visit -/

namespace RepeaterSearch

/-- The variables when a pair is held and the wire has some spacing and size. -/
def holding (costs : RepeaterCosts K) (held : K × K) (spacing size : K) : RepeaterSearch K where
  repeaterSpacing := spacing
  repeaterSize := size
  currentDynamicEnergy := costs.unitDynamicEnergy held.1 held.2
  currentLeakage := costs.unitLeakage held.1 held.2
  targetRepeaterSpacing := held.1
  targetRepeaterSize := held.2

variable (costs : RepeaterCosts K) (targetDelay : K)

/-- An iteration of the inner loop is a step of the greedy scan. -/
theorem tryRepeater_holding (held : K × K) (spacing size : K) :
    (holding costs held spacing size).tryRepeater costs targetDelay =
      holding costs (greedyScan (costs.Accepts targetDelay) held [(spacing, size)]) spacing
        size := by
  unfold tryRepeater
  by_cases haccepts : costs.Accepts targetDelay held (spacing, size)
  · rw [greedyScan_cons_of_accepts haccepts]
    exact if_pos haccepts
  · rw [greedyScan_cons_of_not haccepts]
    exact if_neg haccepts

variable [FloorRing K] [IsStrictOrderedRing K]

/-- The variables of the loop over the sizes before iteration `j`. -/
def atSize (held : K × K) (spacing size : K) (j : ℕ) : RepeaterSearch K :=
  holding costs (greedyScan (costs.Accepts targetDelay) held (sizeColumn size j spacing)) spacing
    (size - stepSize * (j : K))

omit [FloorRing K] [IsStrictOrderedRing K] in
theorem atSize_zero (held : K × K) (spacing size : K) :
    atSize costs targetDelay held spacing size 0 = holding costs held spacing size := by
  show holding costs held spacing (size - stepSize * (0 : ℕ)) = _
  rw [Nat.cast_zero, mul_zero, sub_zero]

omit [FloorRing K] [IsStrictOrderedRing K] in
theorem atSize_succ (held : K × K) (spacing size : K) (j : ℕ) :
    atSize costs targetDelay held spacing size (j + 1) =
      ((atSize costs targetDelay held spacing size j).tryRepeater costs targetDelay).shrink := by
  have hcolumn : sizeColumn size (j + 1) spacing =
      sizeColumn size j spacing ++ [(spacing, size - stepSize * j)] := by
    simp [sizeColumn, List.range_succ]
  unfold atSize
  rw [tryRepeater_holding, ← greedyScan_append, ← hcolumn]
  show holding costs _ _ _ = holding costs _ spacing (size - stepSize * j - stepSize)
  rw [Nat.cast_succ, mul_add, mul_one, ← sub_sub]

/-- The loop over the sizes scans them and leaves a size below the minimum. -/
theorem sizes_holding (held : K × K) (spacing size : K) {fuel : ℕ}
    (hfuel : numSizes size ≤ fuel) :
    (holding costs held spacing size).sizes costs targetDelay fuel =
      some (atSize costs targetDelay held spacing size (numSizes size)) := by
  rw [← atSize_zero costs targetDelay]
  refine loop_eq_some (fun j hj => ?_) (fun j _ => ?_) ?_ hfuel
  · exact decide_eq_true (lt_numSizes_iff.mp hj)
  · rw [atSize_succ]
  · exact decide_eq_false (lt_numSizes_iff.not.mp (lt_irrefl _))

/-- Below the minimum there is no size to scan. -/
theorem numSizes_eq_zero {size : K} (hsize : size < endSize) : numSizes size = 0 := by
  rw [numSizes, Nat.floor_eq_zero]
  exact hsize

theorem sub_numSizes_lt (size : K) : size - stepSize * numSizes size < endSize :=
  not_le.mp (lt_numSizes_iff.not.mp (lt_irrefl _))

/-- The variables of the loop over the spacings before iteration `i`, if the first one
leaves a pair.  The size is below the minimum from then on. -/
def atSpacing (held : K × K) (spacing size : K) : ℕ → RepeaterSearch K
  | 0 => start costs spacing size
  | i + 1 =>
      holding costs held (spacing + stepSpacing * ((i + 1 : ℕ) : K))
        (size - stepSize * (numSizes size : K))

omit [IsStrictOrderedRing K] in
theorem repeaterSpacing_atSpacing (held : K × K) (spacing size : K) (i : ℕ) :
    (atSpacing costs held spacing size i).repeaterSpacing = spacing + stepSpacing * i := by
  cases i with
  | zero =>
      show spacing = spacing + stepSpacing * (0 : ℕ)
      rw [Nat.cast_zero, mul_zero, add_zero]
  | succ i => rfl

/-- The first iteration scans the sizes, and the others do nothing. -/
theorem atSpacing_succ (spacing size : K) {fuel : ℕ} (hfuel : numSizes size ≤ fuel) (i : ℕ) :
    let held := greedyScan (costs.Accepts targetDelay) (spacing, size)
      (sizeColumn size (numSizes size) spacing)
    ((atSpacing costs held spacing size i).sizes costs targetDelay fuel).map widen =
      some (atSpacing costs held spacing size (i + 1)) := by
  intro held
  cases i with
  | zero =>
      show ((holding costs (spacing, size) spacing size).sizes costs targetDelay fuel).map widen =
        some (holding costs held (spacing + stepSpacing * ((0 + 1 : ℕ) : K)) _)
      rw [sizes_holding costs targetDelay _ _ _ hfuel, zero_add, Nat.cast_one, mul_one]
      rfl
  | succ i =>
      have hnone := numSizes_eq_zero (sub_numSizes_lt size)
      have hnext : spacing + stepSpacing * ((i + 1 + 1 : ℕ) : K) =
          spacing + stepSpacing * ((i + 1 : ℕ) : K) + stepSpacing := by
        rw [Nat.cast_succ (i + 1), mul_add, mul_one, add_assoc]
      show ((holding costs held _ _).sizes costs targetDelay fuel).map widen =
        some (holding costs held (spacing + stepSpacing * ((i + 1 + 1 : ℕ) : K)) _)
      rw [sizes_holding costs targetDelay _ _ _ (hnone ▸ Nat.zero_le fuel), hnone, atSize_zero,
        hnext]
      rfl

/-- The nested loops scan the sizes at the first spacing only. -/
theorem spacings_start {spacing size : K} (hspacing : 0 < spacing) {fuel : ℕ}
    (hsizes : numSizes size ≤ fuel) (hspacings : numSpacings spacing ≤ fuel) :
    ∃ s, (start costs spacing size).spacings costs targetDelay (4 * spacing) fuel = some s ∧
      (s.targetRepeaterSpacing, s.targetRepeaterSize) =
        greedyScan (costs.Accepts targetDelay) (spacing, size)
          (sizeColumn size (numSizes size) spacing) := by
  refine ⟨_, loop_eq_some (t := atSpacing costs _ spacing size) (fun i hi => ?_)
    (fun i _ => atSpacing_succ costs targetDelay spacing size hsizes i) ?_ hspacings, rfl⟩
  · rw [repeaterSpacing_atSpacing]
    exact decide_eq_true ((lt_numSpacings_iff hspacing).mp hi)
  · rw [repeaterSpacing_atSpacing]
    exact decide_eq_false ((lt_numSpacings_iff hspacing).not.mp (lt_irrefl _))

end RepeaterSearch

section Run

variable [FloorRing K] [IsStrictOrderedRing K] (costs : RepeaterCosts K) (penalty : K)

/-- The iterations after which every loop of the search is left. -/
def repeaterFuel (spacing size : K) : ℕ := max (numSizes size) (numSpacings spacing)

/-- The search ends, and has scanned the sizes at the first spacing. -/
theorem findPenalizedRepeater_eq {spacing size : K} (hspacing : 0 < spacing) {fuel : ℕ}
    (hfuel : repeaterFuel spacing size ≤ fuel) :
    findPenalizedRepeater costs penalty fuel spacing size =
      some (scanFirstColumn costs penalty spacing size) := by
  obtain ⟨s, hs, hpair⟩ := RepeaterSearch.spacings_start costs
    (costs.unitDelay spacing size * (1 + penalty)) hspacing
    ((le_max_left _ _).trans hfuel) ((le_max_right _ _).trans hfuel)
  unfold findPenalizedRepeater
  dsimp only
  rw [hs]
  exact congrArg some hpair

/-! ## The points that are not visited -/

/-- The pairs of the grid after those of the first spacing. -/
def laterColumns (spacing size : K) : List (K × K) :=
  (List.range ⌊3 * spacing / stepSpacing⌋₊).flatMap fun (i : ℕ) =>
    sizeColumn size (numSizes size) (spacing + stepSpacing * ((i + 1 : ℕ) : K))

omit [IsStrictOrderedRing K] in
theorem repeaterGrid_eq (spacing size : K) :
    repeaterGrid spacing size =
      sizeColumn size (numSizes size) spacing ++ laterColumns spacing size := by
  unfold repeaterGrid laterColumns numSpacings
  rw [List.range_succ_eq_map, List.flatMap_cons, List.flatMap_map, Nat.cast_zero, mul_zero,
    add_zero]

theorem mem_laterColumns {spacing size : K} (hspacing : 0 < spacing) {pair : K × K} :
    pair ∈ laterColumns spacing size ↔ ∃ i j : ℕ, 0 < i ∧
      pair = (spacing + stepSpacing * i, size - stepSize * j) ∧
        spacing + stepSpacing * i ≤ 4 * spacing ∧ endSize ≤ size - stepSize * j := by
  have hcount (i : ℕ) : i < ⌊3 * spacing / (stepSpacing : K)⌋₊ ↔
      spacing + stepSpacing * ((i + 1 : ℕ) : K) ≤ 4 * spacing := by
    rw [← lt_numSpacings_iff hspacing]
    exact Nat.succ_lt_succ_iff.symm
  simp only [laterColumns, List.mem_flatMap, List.mem_range, hcount, mem_sizeColumn,
    lt_numSizes_iff]
  constructor
  · rintro ⟨i, hi, j, hj, rfl⟩
    exact ⟨i + 1, j, Nat.succ_pos i, rfl, hi, hj⟩
  · rintro ⟨i, j, hpos, rfl, hi, hj⟩
    obtain ⟨k, rfl⟩ : ∃ k, i = k + 1 := ⟨i - 1, by omega⟩
    exact ⟨k, hi, j, hj, rfl⟩

omit [IsStrictOrderedRing K] in
/-- The scan of the sizes at the first spacing ends at that spacing. -/
theorem scanFirstColumn_fst (spacing size : K) :
    (scanFirstColumn costs penalty spacing size).1 = spacing := by
  refine greedyScan_induction (P := fun pair : K × K => pair.1 = spacing) rfl
    fun _ _ pair hmem _ => ?_
  obtain ⟨j, -, rfl⟩ := mem_sizeColumn.mp hmem
  rfl

/-- The whole grid is scanned with the same result if and only if no pair at a later
spacing is accepted after the pair at which the scan of the first one ends. -/
theorem scanFirstColumn_eq_iff {spacing size : K} (hspacing : 0 < spacing) :
    scanFirstColumn costs penalty spacing size = scanRepeaterGrid costs penalty spacing size ↔
      ∀ pair ∈ laterColumns spacing size,
        ¬ costs.Accepts (costs.unitDelay spacing size * (1 + penalty))
          (scanFirstColumn costs penalty spacing size) pair := by
  have hgrid : scanRepeaterGrid costs penalty spacing size =
      greedyScan (costs.Accepts (costs.unitDelay spacing size * (1 + penalty)))
        (scanFirstColumn costs penalty spacing size) (laterColumns spacing size) := by
    unfold scanRepeaterGrid scanFirstColumn
    rw [repeaterGrid_eq, greedyScan_append]
  rw [hgrid, eq_comm]
  refine greedyScan_eq_self_iff (P := fun pair : K × K => pair.1 ≠ spacing) ?_ fun pair hmem => ?_
  · exact not_not.mpr (scanFirstColumn_fst costs penalty spacing size)
  · obtain ⟨i, j, hi, rfl, -⟩ := (mem_laterColumns hspacing).mp hmem
    have hstep : (0 : K) < stepSpacing * i := mul_pos stepSpacing_pos (Nat.cast_pos.mpr hi)
    exact (lt_add_of_pos_right spacing hstep).ne'

/-- `Wire::findPenalizedRepeater` finds what the scan of its whole grid finds if and only
if, after the sizes at the first spacing, no pair at a later spacing is accepted. -/
theorem penalized_repeater_scans_grid_iff {spacing size : K} (hspacing : 0 < spacing) :
    ∃ pair, (∀ fuel, repeaterFuel spacing size ≤ fuel →
        findPenalizedRepeater costs penalty fuel spacing size = some pair) ∧
      (pair = scanRepeaterGrid costs penalty spacing size ↔
        ∀ i j : ℕ, 0 < i → spacing + stepSpacing * i ≤ 4 * spacing →
          endSize ≤ size - stepSize * j →
            ¬ costs.Accepts (costs.unitDelay spacing size * (1 + penalty))
              (scanFirstColumn costs penalty spacing size)
              (spacing + stepSpacing * i, size - stepSize * j)) := by
  refine ⟨scanFirstColumn costs penalty spacing size,
    fun fuel hfuel => findPenalizedRepeater_eq costs penalty hspacing hfuel, ?_⟩
  rw [scanFirstColumn_eq_iff costs penalty hspacing]
  constructor
  · intro hnone i j hi hlast hend
    exact hnone _ ((mem_laterColumns hspacing).mpr ⟨i, j, hi, rfl, hlast, hend⟩)
  · intro hnone pair hmem
    obtain ⟨i, j, hi, rfl, hlast, hend⟩ := (mem_laterColumns hspacing).mp hmem
    exact hnone i j hi hlast hend

/-! ## What is kept -/

/-- The measures are positive wherever the spacing and the size are. -/
structure RepeaterCosts.Positive (costs : RepeaterCosts K) : Prop where
  unitDelay : ∀ {spacing size : K}, 0 < spacing → 0 < size → 0 < costs.unitDelay spacing size
  unitDynamicEnergy : ∀ {spacing size : K}, 0 < spacing → 0 < size →
    0 < costs.unitDynamicEnergy spacing size
  unitLeakage : ∀ {spacing size : K}, 0 < spacing → 0 < size →
    0 < costs.unitLeakage spacing size

/-- The product of the energy and the leakage of a pair. -/
def RepeaterCosts.product (costs : RepeaterCosts K) (pair : K × K) : K :=
  costs.unitDynamicEnergy pair.1 pair.2 * costs.unitLeakage pair.1 pair.2

omit [FloorRing K] in
/-- Two ratios that add up to less than two have a product of less than one. -/
theorem mul_lt_one_of_add_lt_two {a b : K} (hsum : a + b < 2) (ha : 0 < a) (hb : 0 < b) :
    a * b < 1 := by
  have hsquare : (a + b) * (a + b) < 2 * 2 := mul_self_lt_mul_self (add_pos ha hb).le hsum
  nlinarith only [hsquare, sq_nonneg (a - b)]

omit [FloorRing K] in
/-- A pair that is accepted has a smaller product than the one it replaces: the sum that
is tested is not transitive, but this is. -/
theorem RepeaterCosts.Accepts.product_lt {costs : RepeaterCosts K} (hcosts : costs.Positive)
    {targetDelay : K} {held pair : K × K} (haccepts : costs.Accepts targetDelay held pair)
    (hheld : 0 < held.1 ∧ 0 < held.2) (hpair : 0 < pair.1 ∧ 0 < pair.2) :
    costs.product pair < costs.product held := by
  have henergy := hcosts.unitDynamicEnergy hheld.1 hheld.2
  have hleakage := hcosts.unitLeakage hheld.1 hheld.2
  have hratio := mul_lt_one_of_add_lt_two haccepts.2
    (div_pos (hcosts.unitDynamicEnergy hpair.1 hpair.2) henergy)
    (div_pos (hcosts.unitLeakage hpair.1 hpair.2) hleakage)
  rw [div_mul_div_comm, div_lt_one (mul_pos henergy hleakage)] at hratio
  exact hratio

/-- The invariant of the scan: the pair is positive and within the delay target. -/
theorem scanFirstColumn_kept {costs : RepeaterCosts K} (hcosts : costs.Positive) {penalty : K}
    (hpenalty : 0 ≤ penalty) {spacing size : K} (hspacing : 0 < spacing) (hsize : 0 < size) :
    let pair := scanFirstColumn costs penalty spacing size
    ((0 < pair.1 ∧ 0 < pair.2) ∧
        costs.unitDelay pair.1 pair.2 ≤ costs.unitDelay spacing size * (1 + penalty)) ∧
      (pair = (spacing, size) ∨ costs.product pair < costs.product (spacing, size)) := by
  refine greedyScan_eq_or_rel
    (P := fun pair : K × K => (0 < pair.1 ∧ 0 < pair.2) ∧
      costs.unitDelay pair.1 pair.2 ≤ costs.unitDelay spacing size * (1 + penalty))
    (r := fun a b => costs.product b < costs.product a)
    ⟨⟨hspacing, hsize⟩, ?_⟩ (fun hab hbc => hbc.trans hab) ?_
  · exact le_mul_of_one_le_right (hcosts.unitDelay hspacing hsize).le (by linarith)
  · rintro held ⟨hheld, -⟩ pair hmem haccepts
    obtain ⟨j, hj, rfl⟩ := mem_sizeColumn.mp hmem
    have hend : (endSize : K) ≤ size - stepSize * j := lt_numSizes_iff.mp hj
    have hpair : 0 < spacing ∧ 0 < size - stepSize * (j : K) :=
      ⟨hspacing, one_pos.trans_le hend⟩
    exact ⟨⟨hpair, haccepts.1⟩, haccepts.product_lt hcosts hheld hpair⟩

/-- `Wire::findPenalizedRepeater` ends with a delay within the penalty, and with a smaller
product of energy and leakage or at the pair it was started from. -/
theorem penalized_repeater_keeps_promise {costs : RepeaterCosts K} (hcosts : costs.Positive)
    {penalty : K} (hpenalty : 0 ≤ penalty) {spacing size : K} (hspacing : 0 < spacing)
    (hsize : 0 < size) :
    ∃ pair, (∀ fuel, repeaterFuel spacing size ≤ fuel →
        findPenalizedRepeater costs penalty fuel spacing size = some pair) ∧
      costs.unitDelay pair.1 pair.2 ≤ (1 + penalty) * costs.unitDelay spacing size ∧
      costs.product pair ≤ costs.product (spacing, size) ∧
      (pair ≠ (spacing, size) → costs.product pair < costs.product (spacing, size)) := by
  obtain ⟨⟨-, hdelay⟩, hproduct⟩ := scanFirstColumn_kept hcosts hpenalty hspacing hsize
  refine ⟨scanFirstColumn costs penalty spacing size,
    fun fuel hfuel => findPenalizedRepeater_eq costs penalty hspacing hfuel,
    (mul_comm _ _).subst hdelay, ?_, fun hne => hproduct.resolve_left hne⟩
  rcases hproduct with hstart | hless
  · rw [hstart]
  · exact hless.le

/-! ## The repeaters of a wire -/

omit [FloorRing K] in
theorem WireRepeaterType.penalty_nonneg {wireRepeaterType : WireRepeaterType} {penalty : K}
    (h : wireRepeaterType.penalty = some penalty) : 0 ≤ penalty := by
  cases wireRepeaterType <;> cases h <;> norm_num

/-- `Wire::Initialize` leaves a repeated wire within its penalty of the one that
`findOptimalRepeater` chose, which it is if the wire has no penalty. -/
theorem chooseRepeaters_kept {g : Globals K} {w : RepeatedWire K} (hcosts : (w.costs g).Positive)
    (hspacing : 0 < (w.findOptimalRepeater g).repeaterSpacing)
    (hsize : 0 < (w.findOptimalRepeater g).repeaterSize) (wireRepeaterType : WireRepeaterType) :
    ∃ w', (∀ fuel, repeaterFuel (w.findOptimalRepeater g).repeaterSpacing
          (w.findOptimalRepeater g).repeaterSize ≤ fuel →
        w.chooseRepeaters g wireRepeaterType fuel = some w') ∧
      w'.unitDelay g ≤
        (w.findOptimalRepeater g).unitDelay g * (1 + wireRepeaterType.penalty.getD 0) := by
  unfold RepeatedWire.chooseRepeaters
  cases hpenalty : (wireRepeaterType.penalty : Option K) with
  | none =>
      refine ⟨w.findOptimalRepeater g, fun _ _ => rfl, ?_⟩
      rw [Option.getD_none, add_zero, mul_one]
  | some penalty =>
      obtain ⟨⟨-, hdelay⟩, -⟩ := scanFirstColumn_kept hcosts
        (WireRepeaterType.penalty_nonneg hpenalty) hspacing hsize
      refine ⟨_, fun fuel hfuel => ?_, hdelay⟩
      dsimp only
      rw [findPenalizedRepeater_eq (w.costs g) penalty hspacing hfuel]
      rfl

end Run

/-! ## Examples -/

/-- A wire whose optimal repeaters would not be much faster, for examples. -/
def RepeatedWire.small : RepeatedWire ℚ where
  capWirePerUnit := 80000
  resWirePerUnit := 80000
  repeaterSize := 1
  repeaterSpacing := 50e-6

/-- Its measures with a technology of constant formulas. -/
def RepeaterCosts.small : RepeaterCosts ℚ := RepeatedWire.small.costs (.small .small)

theorem RepeaterCosts.small_positive : RepeaterCosts.small.Positive where
  unitDelay {spacing size} hspacing _ := by
    show 0 < 0.693 * ((1 + 1) * (1 + 1 + (1 + 1)) + (1 + 1) * (80000 * spacing) +
      80000 * spacing * (1 + 1) + 0.5 * (80000 * spacing) * (80000 * spacing)) / spacing
    positivity
  unitDynamicEnergy {spacing size} hspacing _ := by
    show 0 < (1 + 1 + (1 + 1) + 80000 * spacing) * 1 * 1 / spacing
    positivity
  unitLeakage {spacing size} hspacing _ := by
    show 0 < 1 * 1 / spacing
    positivity

/-- Measures that grow with the size of the repeaters, and a delay that shrinks with it, for
examples. -/
def RepeaterCosts.sized : RepeaterCosts ℚ where
  unitDelay := fun _ size => 1 + 1 / size
  unitDynamicEnergy := fun _ size => size
  unitLeakage := fun _ size => size

theorem RepeaterCosts.sized_positive : RepeaterCosts.sized.Positive where
  unitDelay {_ size} _ hsize := by
    show 0 < 1 + 1 / size
    positivity
  unitDynamicEnergy _ hsize := hsize
  unitLeakage _ hsize := hsize

/-- From the size 4 two steps down are within the penalty, and the third is not. -/
theorem penalized_repeater_keeps_small :
    ∃ pair, findPenalizedRepeater .sized 0.5 8 50e-6 4 = some pair ∧
      pair = ((50e-6, 2) : ℚ × ℚ) ∧
      RepeaterCosts.sized.unitDelay pair.1 pair.2 ≤
        (1 + 0.5) * RepeaterCosts.sized.unitDelay 50e-6 4 ∧
      RepeaterCosts.sized.product pair < RepeaterCosts.sized.product (50e-6, 4) := by
  obtain ⟨pair, hfound, hdelay, -, hchanged⟩ := penalized_repeater_keeps_promise
    RepeaterCosts.sized_positive (show (0 : ℚ) ≤ 0.5 by norm_num)
    (show (0 : ℚ) < 50e-6 by norm_num) (show (0 : ℚ) < 4 by norm_num)
  have hpair : findPenalizedRepeater .sized 0.5 8 50e-6 4 = some ((50e-6, 2) : ℚ × ℚ) := by
    decide +kernel
  have hfuel := hfound 8 (by decide +kernel)
  have heq : pair = (50e-6, 2) := Option.some.inj (hfuel.symm.trans hpair)
  exact ⟨pair, hfuel, heq, hdelay, hchanged (by rw [heq]; decide +kernel)⟩

theorem penalized_repeater_scans_grid_small :
    ∃ pair, (∀ fuel, repeaterFuel (50e-6 : ℚ) 1 ≤ fuel →
        findPenalizedRepeater .small 0.5 fuel 50e-6 1 = some pair) ∧
      (pair = scanRepeaterGrid .small 0.5 50e-6 1 ↔
        ∀ i j : ℕ, 0 < i → (50e-6 : ℚ) + stepSpacing * i ≤ 4 * 50e-6 →
          (endSize : ℚ) ≤ 1 - stepSize * j →
            ¬ RepeaterCosts.small.Accepts (RepeaterCosts.small.unitDelay 50e-6 1 * (1 + 0.5))
              (scanFirstColumn .small 0.5 50e-6 1)
              (50e-6 + stepSpacing * i, 1 - stepSize * j)) :=
  penalized_repeater_scans_grid_iff .small 0.5 (by norm_num)

/-- At 150um the wire is a third slower, within the penalty, and takes less energy and
leakage, but the only spacing that is scanned is 50um. -/
theorem penalized_repeater_stops_early :
    RepeaterCosts.small.Positive ∧
      scanRepeaterGrid .small 0.5 50e-6 1 = ((150e-6, 1) : ℚ × ℚ) ∧
      ∀ fuel, 2 ≤ fuel →
        findPenalizedRepeater .small 0.5 fuel 50e-6 1 = some ((50e-6, 1) : ℚ × ℚ) ∧
          findPenalizedRepeater .small 0.5 fuel 50e-6 1 ≠
            some (scanRepeaterGrid .small 0.5 50e-6 1) := by
  have hgrid : scanRepeaterGrid .small 0.5 50e-6 1 = ((150e-6, 1) : ℚ × ℚ) := by
    decide +kernel
  have hcolumn : scanFirstColumn .small 0.5 50e-6 1 = ((50e-6, 1) : ℚ × ℚ) := by
    decide +kernel
  have hbound : repeaterFuel (50e-6 : ℚ) 1 = 2 := by
    decide +kernel
  refine ⟨RepeaterCosts.small_positive, hgrid, fun fuel hfuel => ?_⟩
  rw [findPenalizedRepeater_eq .small 0.5 (by norm_num) (hbound.trans_le hfuel), hcolumn, hgrid]
  exact ⟨rfl, by decide +kernel⟩

end NVSim
