import Mathlib.Analysis.Convex.Basic
import Mathlib.Analysis.SpecialFunctions.Pow.Real
import NVSim.Library.Blend
import NVSim.Model.TechnologyTables

/-!
# Interpolated technologies

`InterpolateWith` derives the junction capacitances and the saturation voltages again but
leaves the overlap capacitance of the old node.  In `main` the weight of a process node runs
from zero to one within its bracket, except from 120 nm to 200 nm: there it is divided by 60
and not by 80, and above 180 nm every parameter leaves the interval of its two tables.
-/

namespace NVSim

open AffineMap Library

/-! ## The current arrays -/

section Currents

variable {K : Type} [Field K]

/-- Only multiples of ten are read. -/
theorem currentBetween_congr {current current' : ℕ → K}
    (h : ∀ i, i % 10 = 0 → current i = current' i) (i : ℕ) :
    currentBetween current i = currentBetween current' i := by
  simp only [currentBetween, h (i / 10 * 10) (Nat.mul_mod_left _ _),
    h (i / 10 * 10 + 10) (by omega)]

/-- The loop after `k` iterations. -/
theorem foldl_fillElement (current : ℕ → K) (k i : ℕ) :
    (List.range' 1 k).foldl fillElement current i =
      if 1 ≤ i ∧ i ≤ k ∧ i % 10 ≠ 0 then currentBetween current i else current i := by
  induction k generalizing i with
  | zero =>
      have hnot : ¬(1 ≤ i ∧ i ≤ 0 ∧ i % 10 ≠ 0) := by omega
      simp only [List.range'_zero, List.foldl_nil, if_neg hnot]
  | succ k ih =>
      rw [List.range'_concat, List.foldl_append, List.foldl_cons, List.foldl_nil, fillElement]
      by_cases hk : (1 + 1 * k) % 10 ≠ 0
      · rw [if_pos hk]
        by_cases hi : i = 1 + 1 * k
        · have hin : 1 ≤ i ∧ i ≤ k + 1 ∧ i % 10 ≠ 0 := by omega
          rw [if_pos hin, hi, Function.update_self]
          refine currentBetween_congr (fun j hj => ?_) _
          -- no iteration has written a multiple of ten
          have hout : ¬(1 ≤ j ∧ j ≤ k ∧ j % 10 ≠ 0) := by omega
          rw [ih, if_neg hout]
        · have hiff : (1 ≤ i ∧ i ≤ k ∧ i % 10 ≠ 0) ↔ (1 ≤ i ∧ i ≤ k + 1 ∧ i % 10 ≠ 0) := by
            omega
          rw [Function.update_of_ne hi, ih]
          simp only [hiff]
      · have hiff : (1 ≤ i ∧ i ≤ k ∧ i % 10 ≠ 0) ↔ (1 ≤ i ∧ i ≤ k + 1 ∧ i % 10 ≠ 0) := by omega
        rw [if_neg hk, ih]
        simp only [hiff]

/-- An element between two multiples of ten is interpolated, the other ones are kept. -/
theorem fillCurrents_apply (current : ℕ → K) {i : ℕ} (hi : i ≤ 100) :
    fillCurrents current i =
      if i % 10 ≠ 0 then currentBetween current i else current i := by
  have hiff : (1 ≤ i ∧ i ≤ 99 ∧ i % 10 ≠ 0) ↔ i % 10 ≠ 0 := by omega
  rw [fillCurrents, foldl_fillElement]
  simp only [hiff]

/-- A current array that was assigned and filled in. -/
def tableCurrent (entries : Fin 11 → K) (i : ℕ) : K :=
  if i % 10 ≠ 0 then
    lineMap (entries (Fin.ofNat 11 (i / 10))) (entries (Fin.ofNat 11 (i / 10 + 1)))
      ((i % 10 : ℕ) / 10 : K)
  else entries (Fin.ofNat 11 (i / 10))

theorem fillCurrents_assignCurrents (entries : Fin 11 → K) (current : ℕ → K) {i : ℕ}
    (hi : i ≤ 100) :
    fillCurrents (assignCurrents entries current) i = tableCurrent entries i := by
  rw [fillCurrents_apply _ hi, tableCurrent]
  split
  · have hlow : i / 10 * 10 % 10 = 0 ∧ i / 10 * 10 ≤ 100 := by omega
    have hhigh : (i / 10 * 10 + 10) % 10 = 0 ∧ i / 10 * 10 + 10 ≤ 100 := by omega
    have hdiv : i / 10 * 10 / 10 = i / 10 := by omega
    have hdiv' : (i / 10 * 10 + 10) / 10 = i / 10 + 1 := by omega
    simp only [currentBetween, assignCurrents, if_pos hlow, if_pos hhigh, hdiv, hdiv',
      lineMap_apply_ring']
    ring
  · have hmul : i % 10 = 0 ∧ i ≤ 100 := by omega
    rw [assignCurrents, if_pos hmul]

/-- The entries stand in the array. -/
theorem tableCurrent_mul_ten (entries : Fin 11 → K) (k : Fin 11) :
    tableCurrent entries (10 * k) = entries k := by
  have hmod : ¬(10 * (k : ℕ) % 10 ≠ 0) := by omega
  have hdiv : 10 * (k : ℕ) / 10 = k := by omega
  rw [tableCurrent, if_neg hmod, hdiv, Fin.ofNat_val_eq_self]

theorem tableCurrent_pos [LinearOrder K] [IsStrictOrderedRing K] {entries : Fin 11 → K}
    (h : ∀ k, 0 < entries k) (i : ℕ) : 0 < tableCurrent entries i := by
  rw [tableCurrent]
  split
  · have hr : ((i % 10 : ℕ) : K) / 10 ≤ 1 := by
      rw [div_le_one (by norm_num)]
      exact_mod_cast (Nat.mod_lt i (by decide)).le
    have hr0 : (0 : K) ≤ ((i % 10 : ℕ) : K) / 10 := by positivity
    exact (convex_Ioi (0 : K)).lineMap_mem (h _) (h _) ⟨hr0, hr⟩
  · exact h _

end Currents

/-! ## The derived parameters -/

namespace TechnologyObject

variable {K : Type} [Field K] {pow : K → K → K} {tables : TechnologyTables K}
  {tech memory : TechnologyObject K} {featureSizeInNano : ℤ} {deviceRoadmap : DeviceRoadmap}

@[simp] theorem featureSizeInNano_initializeTechnology :
    (memory.initializeTechnology tables pow featureSizeInNano deviceRoadmap).featureSizeInNano =
      featureSizeInNano := by
  unfold initializeTechnology
  cases TableNode.of featureSizeInNano <;> rfl

/-- The relations that `Initialize` establishes. -/
structure Derived (pow : K → K → K) (tech : TechnologyObject K) : Prop where
  capOverlap : tech.capOverlap = 0.2 * tech.capIdealGate
  capJunction : tech.capJunction = junctionCap pow 1e-3 0.5 tech.vdd
  capSidewall : tech.capSidewall = junctionCap pow 2.5e-10 0.33 tech.vdd
  capDrainToChannel : tech.capDrainToChannel = junctionCap pow 0.5e-10 0.33 tech.vdd
  vdsatNmos : tech.vdsatNmos = tech.phyGateLength * 1e5 / tech.effectiveElectronMobility
  vdsatPmos : tech.vdsatPmos = tech.phyGateLength * 1e5 / tech.effectiveHoleMobility

/-- Deriving establishes all of them but the one of the overlap capacitance. -/
theorem derived_derive_iff :
    (tech.derive pow).Derived pow ↔ tech.capOverlap = 0.2 * tech.capIdealGate :=
  ⟨fun h => h.capOverlap, fun h => ⟨h, rfl, rfl, rfl, rfl, rfl⟩⟩

theorem derived_initializeTechnology :
    (memory.initializeTechnology tables pow featureSizeInNano deviceRoadmap).Derived pow where
  capOverlap := mul_comm _ _
  capJunction := rfl
  capSidewall := rfl
  capDrainToChannel := rfl
  vdsatNmos := rfl
  vdsatPmos := rfl

/-- The overlap capacitance of the old node fits an interpolated technology only if the
gate capacitance has not changed. -/
theorem Derived.interpolateWith_iff [CharZero K] (h : tech.Derived pow)
    {rhs : TechnologyObject K} (hnode : tech.featureSizeInNano ≠ rhs.featureSizeInNano)
    (alpha : K) :
    (tech.interpolateWith pow rhs alpha).Derived pow ↔
      alpha = 0 ∨ rhs.capIdealGate = tech.capIdealGate := by
  have hfactor : (0.2 : K) ≠ 0 := by norm_num
  rw [interpolateWith, if_pos hnode, derived_derive_iff]
  show tech.capOverlap = 0.2 * ((1 - alpha) * tech.capIdealGate + alpha * rhs.capIdealGate) ↔ _
  rw [h.capOverlap, mul_right_inj' hfactor, ← sub_eq_zero (a := rhs.capIdealGate),
    ← mul_eq_zero, eq_comm, ← sub_eq_zero]
  ring_nf

/-- `Initialize` establishes the relations, over any memory.  A technology interpolated
from it with one of another node keeps them in exactly two cases: the weight is zero, or
both gate capacitances are the same. -/
theorem derived_interpolateWith_iff [CharZero K] (tables : TechnologyTables K)
    (pow : K → K → K) (memory rhs : TechnologyObject K) (featureSizeInNano : ℤ)
    (deviceRoadmap : DeviceRoadmap) (hnode : featureSizeInNano ≠ rhs.featureSizeInNano)
    (alpha : K) :
    let tech := memory.initializeTechnology tables pow featureSizeInNano deviceRoadmap
    tech.Derived pow ∧
      ((tech.interpolateWith pow rhs alpha).Derived pow ↔
        alpha = 0 ∨ rhs.capIdealGate = tech.capIdealGate) :=
  ⟨derived_initializeTechnology,
    derived_initializeTechnology.interpolateWith_iff
      (by rwa [featureSizeInNano_initializeTechnology]) alpha⟩

/-- At 100 nm the high performance technology does not keep the relations. -/
theorem not_derived_at_100_nm :
    ¬((zeroed.initializeTechnology technologyTables (· ^ ·) 100 .hp).interpolateWith
        (· ^ ·) (zeroed.initializeTechnology technologyTables (· ^ ·) 120 .hp)
        ((100 - 90) / 30 : ℝ)).Derived (· ^ ·) := by
  rw [derived_initializeTechnology.interpolateWith_iff (by simp)]
  norm_num [initializeTechnology, TableNode.of, technologyTables, table90, table120, assign,
    derive, fill]

theorem derived_interpolateWith_iff_at_100_nm :
    let tech : TechnologyObject ℝ := zeroed.initializeTechnology technologyTables (· ^ ·) 100 .hp
    let rhs := zeroed.initializeTechnology technologyTables (· ^ ·) 120 .hp
    tech.Derived (· ^ ·) ∧
      ((tech.interpolateWith (· ^ ·) rhs ((100 - 90) / 30)).Derived (· ^ ·) ↔
        ((100 - 90) / 30 : ℝ) = 0 ∨ rhs.capIdealGate = tech.capIdealGate) :=
  derived_interpolateWith_iff technologyTables (· ^ ·) zeroed _ 100 .hp (by simp) _

end TechnologyObject

/-! ## The blended parameters -/

/-- The parameters that `InterpolateWith` blends. -/
inductive BaseParameter
  | vdd | vth | phyGateLength | capIdealGate | capFringe | capJunction | capOx
  | effectiveElectronMobility | effectiveHoleMobility | pnSizeRatio
  | effectiveResistanceMultiplier
  | currentOnNmos (i : Fin 101) | currentOnPmos (i : Fin 101)
  | currentOffNmos (i : Fin 101) | currentOffPmos (i : Fin 101)

namespace BaseParameter

variable {K : Type} [Field K]

/-- The value of a parameter. -/
def of (tech : TechnologyObject K) : BaseParameter → K
  | vdd => tech.vdd
  | vth => tech.vth
  | phyGateLength => tech.phyGateLength
  | capIdealGate => tech.capIdealGate
  | capFringe => tech.capFringe
  | capJunction => tech.capJunction
  | capOx => tech.capOx
  | effectiveElectronMobility => tech.effectiveElectronMobility
  | effectiveHoleMobility => tech.effectiveHoleMobility
  | pnSizeRatio => tech.pnSizeRatio
  | effectiveResistanceMultiplier => tech.effectiveResistanceMultiplier
  | currentOnNmos i => tech.currentOnNmos i
  | currentOnPmos i => tech.currentOnPmos i
  | currentOffNmos i => tech.currentOffNmos i
  | currentOffPmos i => tech.currentOffPmos i

/-- The values that `InterpolateWith` leaves in the parameters: most are blended linearly,
the off currents geometrically, and the junction capacitance is the one of the blended
supply voltage. -/
def blend (pow : K → K → K) (lower upper : BaseParameter → K) (alpha : K) :
    BaseParameter → K
  | capJunction =>
      TechnologyObject.junctionCap pow 1e-3 0.5 (lineMap (lower vdd) (upper vdd) alpha)
  | currentOffNmos i =>
      pow (lower (currentOffNmos i)) (1 - alpha) * pow (upper (currentOffNmos i)) alpha
  | currentOffPmos i =>
      pow (lower (currentOffPmos i)) (1 - alpha) * pow (upper (currentOffPmos i)) alpha
  | p => lineMap (lower p) (upper p) alpha

theorem of_interpolateWith {pow : K → K → K} {tech rhs : TechnologyObject K}
    (hnode : tech.featureSizeInNano ≠ rhs.featureSizeInNano) (alpha : K) :
    of (tech.interpolateWith pow rhs alpha) = blend pow (of tech) (of rhs) alpha := by
  ext p
  rw [TechnologyObject.interpolateWith, if_pos hnode]
  cases p <;> simp only [of, blend, TechnologyObject.derive, lineMap_apply_ring]

/-- What a table makes of a parameter. -/
def ofTable (pow : K → K → K) (table : TechnologyTable K) : BaseParameter → K
  | vdd => table.vdd
  | vth => table.vth
  | phyGateLength => table.phyGateLength
  | capIdealGate => table.capIdealGate
  | capFringe => table.capFringe
  | capJunction => TechnologyObject.junctionCap pow 1e-3 0.5 table.vdd
  | capOx => table.capOx
  | effectiveElectronMobility => table.effectiveElectronMobility
  | effectiveHoleMobility => table.effectiveHoleMobility
  | pnSizeRatio => table.pnSizeRatio
  | effectiveResistanceMultiplier => table.effectiveResistanceMultiplier
  | currentOnNmos i => tableCurrent table.currentOnNmos i
  | currentOnPmos i => tableCurrent table.currentOnPmos i
  | currentOffNmos i => tableCurrent table.currentOffNmos i
  | currentOffPmos i => tableCurrent table.currentOffPmos i

theorem of_initializeTechnology {tables : TechnologyTables K} {pow : K → K → K}
    (memory : TechnologyObject K) {featureSizeInNano : ℤ} {node : TableNode}
    (hnode : TableNode.of featureSizeInNano = some node) (deviceRoadmap : DeviceRoadmap) :
    of (memory.initializeTechnology tables pow featureSizeInNano deviceRoadmap) =
      ofTable pow (tables node deviceRoadmap) := by
  ext p
  have hfill (entries : Fin 11 → K) (current : ℕ → K) (i : Fin 101) :
      fillCurrents (assignCurrents entries current) i = tableCurrent entries i :=
    fillCurrents_assignCurrents entries current (Nat.lt_succ_iff.1 i.isLt)
  rw [TechnologyObject.initializeTechnology, hnode]
  cases p <;>
    simp only [of, ofTable, TechnologyObject.derive, TechnologyObject.fill,
      TechnologyObject.assign, hfill]

theorem ofTable_ext {pow : K → K → K} {table other : TechnologyTable K}
    (h : ofTable pow table = ofTable pow other) :
    { table with capJunction := other.capJunction } = other := by
  have hcurrents {entries entries' : Fin 11 → K}
      (h : ∀ i : Fin 101, tableCurrent entries i = tableCurrent entries' i) :
      entries = entries' := by
    ext k
    have hk := h ⟨10 * k, by omega⟩
    rwa [tableCurrent_mul_ten, tableCurrent_mul_ten] at hk
  cases table
  cases other
  rw [TechnologyTable.mk.injEq]
  exact ⟨congrFun h vdd, congrFun h vth, congrFun h phyGateLength, congrFun h capIdealGate,
    congrFun h capFringe, rfl, congrFun h capOx, congrFun h effectiveElectronMobility,
    congrFun h effectiveHoleMobility, congrFun h pnSizeRatio,
    congrFun h effectiveResistanceMultiplier, hcurrents fun i => congrFun h (currentOnNmos i),
    hcurrents fun i => congrFun h (currentOnPmos i),
    hcurrents fun i => congrFun h (currentOffNmos i),
    hcurrents fun i => congrFun h (currentOffPmos i)⟩

end BaseParameter

/-- Both tables hold the same parameters.  The junction capacitances do not count: they are
derived again from the supply voltages. -/
def TechnologyTable.Agrees {K : Type} (table other : TechnologyTable K) : Prop :=
  { table with capJunction := other.capJunction } = other

/-- Tables that agree make the same of every parameter. -/
theorem BaseParameter.ofTable_eq_iff {K : Type} [Field K] {pow : K → K → K}
    {table other : TechnologyTable K} :
    ofTable pow table = ofTable pow other ↔ table.Agrees other := by
  constructor
  · exact ofTable_ext
  · intro h
    rw [← h]
    ext p
    cases p <;> rfl

/-! ## Blends of positive tables -/

/-- The positive entries that a blend depends on. -/
structure TechnologyTable.Positive (table : TechnologyTable ℝ) : Prop where
  vdd : 0 < table.vdd
  currentOffNmos : ∀ k, 0 < table.currentOffNmos k
  currentOffPmos : ∀ k, 0 < table.currentOffPmos k

/-- A junction capacitance falls with the supply voltage. -/
theorem antitoneOn_junctionCap {capacitance grading : ℝ} (hc : 0 ≤ capacitance)
    (hg : 0 ≤ grading) :
    AntitoneOn (TechnologyObject.junctionCap (· ^ ·) capacitance grading) (Set.Ioi 0) := by
  intro v hv w hw hvw
  have hpos : 0 < 1 + v / 0.9 := by
    have hv' : 0 < v := hv
    positivity
  have hle : 1 + v / 0.9 ≤ 1 + w / 0.9 := by gcongr
  exact div_le_div_of_nonneg_left hc (Real.rpow_pos_of_pos hpos _)
    (Real.rpow_le_rpow hpos.le hle hg)

namespace BaseParameter

variable {table upper : TechnologyTable ℝ} {s t : ℝ}

/-- With the weight zero the lower technology is kept. -/
theorem blend_zero (v : BaseParameter → ℝ) :
    blend (· ^ ·) (ofTable (· ^ ·) table) v 0 = ofTable (· ^ ·) table := by
  ext p
  cases p <;>
    simp only [blend, ofTable, lineMap_apply_zero, sub_zero, Real.rpow_one, Real.rpow_zero,
      mul_one]

/-- With growing weights every parameter goes from the lower table to the upper one, as
long as the weight is at most one or the tables agree. -/
theorem onTheWay_blend_iff (h : table.Positive) (h' : upper.Positive) (hs : 0 ≤ s)
    (hst : s ≤ t) :
    (∀ p, OnTheWay (ofTable (· ^ ·) table p)
        (blend (· ^ ·) (ofTable (· ^ ·) table) (ofTable (· ^ ·) upper) s p)
        (blend (· ^ ·) (ofTable (· ^ ·) table) (ofTable (· ^ ·) upper) t p)
        (ofTable (· ^ ·) upper p)) ↔
      t ≤ 1 ∨ table.Agrees upper := by
  -- the junction capacitance follows the supply voltage
  have hjunction (hv : OnTheWay table.vdd (lineMap table.vdd upper.vdd s)
      (lineMap table.vdd upper.vdd t) upper.vdd) :=
    hv.antitoneOn ((antitoneOn_junctionCap (by norm_num : (0 : ℝ) ≤ 1e-3)
      (by norm_num : (0 : ℝ) ≤ 0.5)).mono fun v hv => (lt_min h.vdd h'.vdd).trans_le hv.1)
  have hother (p : BaseParameter) (hp : p ≠ capJunction) :
      OnTheWay (ofTable (· ^ ·) table p)
          (blend (· ^ ·) (ofTable (· ^ ·) table) (ofTable (· ^ ·) upper) s p)
          (blend (· ^ ·) (ofTable (· ^ ·) table) (ofTable (· ^ ·) upper) t p)
          (ofTable (· ^ ·) upper p) ↔
        t ≤ 1 ∨ ofTable (· ^ ·) table p = ofTable (· ^ ·) upper p := by
    cases p with
    | capJunction => exact absurd rfl hp
    | currentOffNmos i =>
        exact onTheWay_rpow_iff (tableCurrent_pos h.currentOffNmos i)
          (tableCurrent_pos h'.currentOffNmos i) hs hst
    | currentOffPmos i =>
        exact onTheWay_rpow_iff (tableCurrent_pos h.currentOffPmos i)
          (tableCurrent_pos h'.currentOffPmos i) hs hst
    | _ => exact onTheWay_lineMap_iff hs hst
  have hagrees : ofTable (· ^ ·) table = ofTable (· ^ ·) upper ↔ table.Agrees upper :=
    ofTable_eq_iff
  rw [← hagrees]
  constructor
  · intro hway
    rcases le_or_gt t 1 with ht | ht
    · exact Or.inl ht
    · refine Or.inr (funext fun p => ?_)
      have hagree (p : BaseParameter) (hp : p ≠ capJunction) :
          ofTable (· ^ ·) table p = ofTable (· ^ ·) upper p :=
        ((hother p hp).1 (hway p)).resolve_left ht.not_ge
      rcases eq_or_ne p capJunction with rfl | hp
      · exact congrArg (TechnologyObject.junctionCap (· ^ ·) 1e-3 0.5) (hagree vdd nofun)
      · exact hagree p hp
  · intro hor p
    have hp (p : BaseParameter) : t ≤ 1 ∨ ofTable (· ^ ·) table p = ofTable (· ^ ·) upper p :=
      hor.imp_right fun heq => congrFun heq p
    rcases eq_or_ne p capJunction with rfl | hne
    · exact hjunction ((hother vdd nofun).2 (hp vdd))
    · exact (hother p hne).2 (hp p)

end BaseParameter

/-! ## Brackets -/

namespace TableNode

/-- The smallest node of a branch. -/
def nano : TableNode → ℤ
  | nm200 => 200
  | nm120 => 120
  | nm90 => 90
  | nm65 => 65
  | nm45 => 45
  | nm32 => 32
  | nm22 => 22

/-- The branch above. -/
def next : TableNode → TableNode
  | nm200 | nm120 => nm200
  | nm90 => nm120
  | nm65 => nm90
  | nm45 => nm65
  | nm32 => nm45
  | nm22 => nm32

/-- What `main` divides the distance from the smallest node by. -/
noncomputable def divisor : TableNode → ℝ
  | nm200 | nm120 => 60
  | nm90 => 30
  | nm65 => 25
  | nm45 => 20
  | nm32 => 13
  | nm22 => 10

theorem divisor_pos (node : TableNode) : 0 < node.divisor := by
  cases node <;> norm_num [divisor]

theorem of_nano (node : TableNode) : TableNode.of node.nano = some node := by
  cases node <;> decide

/-- A branch below 200 nm reaches up to the next one. -/
theorem of_eq_some {n : ℤ} {node : TableNode} (h : TableNode.of n = some node) (hn : n < 200) :
    node.nano ≤ n ∧ n < node.next.nano := by
  unfold TableNode.of at h
  split_ifs at h <;> cases h <;> simp only [nano, next] <;> omega

/-- The weight of a process node. -/
noncomputable def weight (node : TableNode) (processNode : ℤ) : ℝ :=
  (processNode - node.nano) / node.divisor

theorem weight_nonneg {n : ℤ} {node : TableNode} (h : node.nano ≤ n) : 0 ≤ node.weight n :=
  div_nonneg (sub_nonneg.2 (Int.cast_le.2 h)) node.divisor_pos.le

theorem weight_mono {m n : ℤ} (node : TableNode) (h : m ≤ n) : node.weight m ≤ node.weight n := by
  have hcast : (m : ℝ) ≤ n := Int.cast_le.2 h
  exact div_le_div_of_nonneg_right (sub_le_sub_right hcast _) node.divisor_pos.le

/-- The weight is too large above 180 nm, and nowhere else. -/
theorem weight_le_one_iff {n : ℤ} {node : TableNode} (h : TableNode.of n = some node)
    (hn : n < 200) : node.weight n ≤ 1 ↔ n ≤ 180 := by
  have hbounds := of_eq_some h hn
  rw [weight, div_le_one node.divisor_pos]
  cases node <;> simp only [nano, next, divisor] at hbounds ⊢
  case nm120 =>
    rw [sub_le_iff_le_add]
    norm_num
    exact_mod_cast Iff.rfl
  case nm200 => omega
  all_goals
    have hle : n ≤ 180 := by omega
    refine iff_of_true ?_ hle
    rw [sub_le_iff_le_add]
    norm_num
    exact_mod_cast (by omega)

/-- `main` interpolates with the branch above, unless the node is the smallest one of its
branch and already has a table of its own. -/
theorem techHighNode_eq {n : ℤ} {node : TableNode} (h : TableNode.of n = some node)
    (hn : n < 200) :
    techHighNode n = some (node.next.nano, node.weight n) ∨
      n = node.nano ∧ ∃ alpha : ℝ, techHighNode n = some (n, alpha) := by
  obtain ⟨hlow, hhigh⟩ := of_eq_some h hn
  have h200 : ¬n > 200 := by omega
  rcases hlow.eq_or_lt with rfl | hlow
  · -- only 22 nm and 32 nm are blended, with the weight zero
    cases node <;> norm_num [techHighNode, nano, next, weight]
  · left
    rw [techHighNode, if_neg h200]
    cases node <;> simp only [nano, next, weight, divisor] at hlow hhigh ⊢
    case nm200 => omega
    case nm120 => rw [if_pos (by omega)]; norm_num
    case nm90 => rw [if_neg (by omega), if_pos (by omega)]; norm_num
    case nm65 => rw [if_neg (by omega), if_neg (by omega), if_pos (by omega)]; norm_num
    case nm45 =>
      rw [if_neg (by omega), if_neg (by omega), if_neg (by omega), if_pos (by omega)]
      norm_num
    case nm32 =>
      rw [if_neg (by omega), if_neg (by omega), if_neg (by omega), if_neg (by omega),
        if_pos (by omega)]
      norm_num
    case nm22 =>
      rw [if_neg (by omega), if_neg (by omega), if_neg (by omega), if_neg (by omega),
        if_neg (by omega), if_pos (by omega)]
      norm_num

end TableNode

/-! ## The technology of a process node -/

section Main

variable {tables : TechnologyTables ℝ} {memory memoryHigh : TechnologyObject ℝ} {n : ℤ}
  {node : TableNode} {deviceRoadmap : DeviceRoadmap}

/-- The parameters of a process node are a blend of two tables. -/
theorem of_mainTechnology (h : TableNode.of n = some node) (hn : n < 200) :
    BaseParameter.of (mainTechnology tables (· ^ ·) memory memoryHigh n deviceRoadmap) =
      BaseParameter.blend (· ^ ·) (BaseParameter.ofTable (· ^ ·) (tables node deviceRoadmap))
        (BaseParameter.ofTable (· ^ ·) (tables node.next deviceRoadmap)) (node.weight n) := by
  rcases TableNode.techHighNode_eq h hn with hhigh | ⟨rfl, alpha, hhigh⟩
  · have hne : n ≠ node.next.nano := (TableNode.of_eq_some h hn).2.ne
    rw [mainTechnology, techHighOf, hhigh]
    rw [BaseParameter.of_interpolateWith (by simpa using hne),
      BaseParameter.of_initializeTechnology memory h,
      BaseParameter.of_initializeTechnology memoryHigh node.next.of_nano]
  · -- both objects are of the same node: nothing is blended
    have hzero : node.weight node.nano = 0 := by
      rw [TableNode.weight, sub_self, zero_div]
    rw [mainTechnology, techHighOf, hhigh, TechnologyObject.interpolateWith,
      if_neg (by simp), BaseParameter.of_initializeTechnology memory h, hzero,
      BaseParameter.blend_zero]

/-- The table that `main` blends with. -/
theorem of_techHighOf (h : TableNode.of n = some node) (hn : n < 200) :
    BaseParameter.of (techHighOf tables (· ^ ·) memoryHigh n deviceRoadmap).1 =
        BaseParameter.ofTable (· ^ ·) (tables node.next deviceRoadmap) ∨
      n = node.nano ∧
        BaseParameter.of (techHighOf tables (· ^ ·) memoryHigh n deviceRoadmap).1 =
          BaseParameter.ofTable (· ^ ·) (tables node deviceRoadmap) := by
  rcases TableNode.techHighNode_eq h hn with hhigh | ⟨hnano, alpha, hhigh⟩
  · rw [techHighOf, hhigh]
    exact Or.inl (BaseParameter.of_initializeTechnology memoryHigh node.next.of_nano _)
  · rw [techHighOf, hhigh]
    exact Or.inr ⟨hnano, BaseParameter.of_initializeTechnology memoryHigh h _⟩

/-- Within a bracket every blended parameter of the process node goes from the lower table
to the upper one, in exactly two cases: the node is at most 180 nm, or it is between two
tables with the same parameters. -/
theorem onTheWay_mainTechnology_iff (tables : TechnologyTables ℝ)
    (htables : ∀ node r, (tables node r).Positive) (memory memoryHigh : TechnologyObject ℝ)
    (deviceRoadmap : DeviceRoadmap) {m n : ℤ} (hm : 22 < m) (hmn : m ≤ n) (hn : n < 200)
    (hbracket : TableNode.of m = TableNode.of n) :
    let tech (processNode : ℤ) :=
      mainTechnology tables (· ^ ·) memory memoryHigh processNode deviceRoadmap
    let lower := memory.initializeTechnology tables (· ^ ·) n deviceRoadmap
    let upper := (techHighOf tables (· ^ ·) memoryHigh n deviceRoadmap).1
    (∀ p : BaseParameter,
        OnTheWay (p.of lower) (p.of (tech m)) (p.of (tech n)) (p.of upper)) ↔
      n ≤ 180 ∨ (tables .nm120 deviceRoadmap).Agrees (tables .nm200 deviceRoadmap) := by
  intro tech lower upper
  obtain ⟨node, hnode⟩ : ∃ node, TableNode.of n = some node := by
    unfold TableNode.of
    split_ifs <;> first | exact ⟨_, rfl⟩ | omega
  have hlow := (TableNode.of_eq_some (hbracket.trans hnode) (hmn.trans_lt hn)).1
  have hlower : BaseParameter.of lower =
      BaseParameter.ofTable (· ^ ·) (tables node deviceRoadmap) :=
    BaseParameter.of_initializeTechnology memory hnode deviceRoadmap
  have htech : BaseParameter.of (tech n) = _ := of_mainTechnology hnode hn
  have htech' : BaseParameter.of (tech m) = _ :=
    of_mainTechnology (hbracket.trans hnode) (hmn.trans_lt hn)
  rcases of_techHighOf hnode hn with hupper | ⟨rfl, hupper⟩
  · have hiff := BaseParameter.onTheWay_blend_iff (htables node deviceRoadmap)
      (htables node.next deviceRoadmap) (node.weight_nonneg hlow) (node.weight_mono hmn)
    rw [TableNode.weight_le_one_iff hnode hn] at hiff
    rw [hlower, htech, htech', hupper, hiff]
    -- above 180 nm the tables are those of 120 nm and 200 nm
    apply or_congr_right'
    intro hgt
    have h120 : TableNode.of n = some .nm120 := by
      rw [TableNode.of, if_neg (by omega), if_pos (by omega)]
    obtain rfl : node = .nm120 := Option.some.inj (hnode.symm.trans h120)
    exact Iff.rfl
  · obtain rfl : m = node.nano := le_antisymm hmn hlow
    have hzero : node.weight node.nano = 0 := by
      rw [TableNode.weight, sub_self, zero_div]
    have h180 : node.nano ≤ 180 := by
      rw [← TableNode.weight_le_one_iff hnode hn, hzero]
      exact zero_le_one
    rw [hlower, htech, hupper, hzero, BaseParameter.blend_zero]
    exact iff_of_true (fun p => onTheWay_self) (Or.inl h180)

end Main

theorem technologyTables_positive (node : TableNode) (deviceRoadmap : DeviceRoadmap) :
    (technologyTables node deviceRoadmap).Positive := by
  have hcons {n : ℕ} {a : ℝ} {v : Fin n → ℝ} :
      (∀ k, 0 < Matrix.vecCons a v k) ↔ 0 < a ∧ ∀ k, 0 < v k := by
    simp only [Fin.forall_fin_succ, Matrix.cons_val_zero, Matrix.cons_val_succ]
  cases node <;> cases deviceRoadmap <;> constructor <;>
    simp only [technologyTables, table200, table120, table90, table65, table45, table32, table22,
      hcons] <;>
    norm_num

/-- At 190 nm the supply voltage is higher than in both tables. -/
theorem vdd_at_190_nm :
    (mainTechnology technologyTables (· ^ ·) .zeroed .zeroed 190 .hp : TechnologyObject ℝ).vdd ∉
      Set.uIcc
        (TechnologyObject.zeroed.initializeTechnology technologyTables (· ^ ·) 190 .hp :
          TechnologyObject ℝ).vdd
        (techHighOf technologyTables (· ^ ·) .zeroed 190 .hp : TechnologyObject ℝ × ℝ).1.vdd := by
  have h120 : TableNode.of 190 = some .nm120 := by decide
  have h200 : TableNode.of 200 = some .nm200 := by decide
  norm_num [mainTechnology, techHighOf, techHighNode, TechnologyObject.interpolateWith,
    TechnologyObject.initializeTechnology, h120, h200, technologyTables, table120, table200,
    TechnologyObject.assign, TechnologyObject.derive, TechnologyObject.fill, Set.mem_uIcc]

theorem onTheWay_mainTechnology_130_190 :
    let tech (processNode : ℤ) : TechnologyObject ℝ :=
      mainTechnology technologyTables (· ^ ·) .zeroed .zeroed processNode .hp
    let lower := TechnologyObject.zeroed.initializeTechnology technologyTables (· ^ ·) 190 .hp
    let upper := (techHighOf technologyTables (· ^ ·) .zeroed 190 .hp).1
    (∀ p : BaseParameter,
        OnTheWay (p.of lower) (p.of (tech 130)) (p.of (tech 190)) (p.of upper)) ↔
      (190 : ℤ) ≤ 180 ∨
        (technologyTables .nm120 .hp : TechnologyTable ℝ).Agrees (technologyTables .nm200 .hp) :=
  onTheWay_mainTechnology_iff technologyTables technologyTables_positive .zeroed .zeroed .hp
    (m := 130) (n := 190) (by norm_num) (by norm_num) (by norm_num) (by decide)

end NVSim
