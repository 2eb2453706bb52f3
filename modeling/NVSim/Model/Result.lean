import Mathlib.Algebra.Order.Field.Basic
import NVSim.Model.Bank

/-!
# Results of the search

A `Result` is a design, that is a bank with its measures and the two wires it was
evaluated with, together with eight limits and the target it is the best for.
`compareAndUpdate` replaces the design by one within the limits that is strictly
better for the target.

The doubles of the source are elements of an ordered field; products and
comparisons are exact.
-/

namespace NVSim

/-- The measures of a `FunctionUnit` that `Bank::operator=` copies. -/
structure FunctionUnit (K : Type) where
  height : K
  width : K
  area : K
  readLatency : K
  writeLatency : K
  readDynamicEnergy : K
  writeDynamicEnergy : K
  resetLatency : K
  setLatency : K
  resetDynamicEnergy : K
  setDynamicEnergy : K
  cellReadEnergy : K
  cellSetEnergy : K
  cellResetEnergy : K
  leakage : K
deriving DecidableEq, Repr

/-- A bank after `CalculateArea` and `CalculateLatencyAndPower`. -/
structure EvaluatedBank (K : Type) extends Bank, FunctionUnit K
deriving DecidableEq, Repr

/-! ## Wires -/

/-- The choices of a wire the search varies.  `Wire::Initialize` exits on a
repeated wire of low swing, so there is no such wire. -/
structure WireKind where
  wireType : WireType
  wireRepeaterType : WireRepeaterType
  isLowSwing : Bool
  legal : wireRepeaterType = .repeatedNone ∨ isLowSwing = false
deriving DecidableEq, Repr

theorem WireKind.legal_of_unrepeated (isLowSwing : Bool) :
    WireRepeaterType.repeatedNone = .repeatedNone ∨ isLowSwing = false := .inl rfl

/-- The test of `Wire::Initialize`; `none` is its `exit(-1)`. -/
def WireKind.checked (wireType : WireType) (wireRepeaterType : WireRepeaterType)
    (isLowSwing : Bool) : Option WireKind :=
  if legal : wireRepeaterType = .repeatedNone ∨ isLowSwing = false then
    some { wireType, wireRepeaterType, isLowSwing, legal }
  else none

/-- A wire; what `Wire::Initialize` derives from its arguments is not kept. -/
structure Wire extends WireKind where
  featureSizeInNano : ℤ
  temperature : ℤ
deriving DecidableEq, Repr

/-- `Wire::Initialize`. -/
def initializeWire (featureSizeInNano : ℤ) (kind : WireKind) (temperature : ℤ) : Wire :=
  { kind with featureSizeInNano := featureSizeInNano, temperature := temperature }

/-- A wire object no `Initialize` was called on. -/
def Wire.fresh : Wire :=
  initializeWire 0 ⟨.localAggressive, .repeatedNone, false, WireKind.legal_of_unrepeated false⟩ 0

/-! ## Designs and limits -/

/-- What `compareAndUpdate` copies: a bank and the wires it was evaluated with. -/
structure Design (K : Type) where
  bank : EvaluatedBank K
  localWire : Wire
  globalWire : Wire
deriving DecidableEq, Repr

/-- The maximum allowable values of a result. -/
structure Limits (K : Type) where
  limitReadLatency : K
  limitWriteLatency : K
  limitReadDynamicEnergy : K
  limitWriteDynamicEnergy : K
  limitReadEdp : K
  limitWriteEdp : K
  limitArea : K
  limitLeakage : K
deriving DecidableEq, Repr

structure Result (K : Type) extends Design K, Limits K where
  optimizationTarget : OptimizationTarget
deriving DecidableEq, Repr

variable {K : Type} [Field K] [LinearOrder K]

/-- The value `1e41` that stands for the worst case. -/
def worstCase : K := 10 ^ 41

namespace FunctionUnit

/-- `FunctionUnit::FunctionUnit`. -/
def fresh : FunctionUnit K where
  height := 0
  width := 0
  area := 0
  readLatency := 0
  writeLatency := 0
  readDynamicEnergy := 0
  writeDynamicEnergy := 0
  resetLatency := 0
  setLatency := 0
  resetDynamicEnergy := 0
  setDynamicEnergy := 0
  cellReadEnergy := 0
  cellSetEnergy := 0
  cellResetEnergy := 0
  leakage := 0

/-- Set the measures a result is compared by to the worst case. -/
def reset (u : FunctionUnit K) : FunctionUnit K :=
  { u with
    readLatency := worstCase
    writeLatency := worstCase
    readDynamicEnergy := worstCase
    writeDynamicEnergy := worstCase
    leakage := worstCase
    height := worstCase
    width := worstCase
    area := worstCase }

/-- The measure a target is about. -/
def objective (u : FunctionUnit K) : OptimizationTarget → K
  | .readLatencyOptimized => u.readLatency
  | .writeLatencyOptimized => u.writeLatency
  | .readEnergyOptimized => u.readDynamicEnergy
  | .writeEnergyOptimized => u.writeDynamicEnergy
  | .readEdpOptimized => u.readLatency * u.readDynamicEnergy
  | .writeEdpOptimized => u.writeLatency * u.writeDynamicEnergy
  | .leakageOptimized => u.leakage
  | .areaOptimized => u.area
  | .fullExploration => 0

end FunctionUnit

/-- The eight comparisons with the limits. -/
def Limits.Allow (limits : Limits K) (u : FunctionUnit K) : Prop :=
  u.readLatency ≤ limits.limitReadLatency ∧ u.writeLatency ≤ limits.limitWriteLatency ∧
    u.readDynamicEnergy ≤ limits.limitReadDynamicEnergy ∧
    u.writeDynamicEnergy ≤ limits.limitWriteDynamicEnergy ∧
    u.readLatency * u.readDynamicEnergy ≤ limits.limitReadEdp ∧
    u.writeLatency * u.writeDynamicEnergy ≤ limits.limitWriteEdp ∧
    u.area ≤ limits.limitArea ∧ u.leakage ≤ limits.limitLeakage

instance (limits : Limits K) : DecidablePred limits.Allow := fun _ =>
  inferInstanceAs (Decidable (_ ∧ _))

/-- No constraints. -/
def Limits.unconstrained : Limits K where
  limitReadLatency := worstCase
  limitWriteLatency := worstCase
  limitReadDynamicEnergy := worstCase
  limitWriteDynamicEnergy := worstCase
  limitReadEdp := worstCase
  limitWriteEdp := worstCase
  limitArea := worstCase
  limitLeakage := worstCase

/-- A bank object no `Initialize` was called on. -/
def Bank.fresh : Bank where
  numRowMat := 0
  numColumnMat := 0
  capacity := 0
  blockSize := 0
  associativity := 0
  numRowPerSet := 0
  numActiveMatPerRow := 0
  numActiveMatPerColumn := 0
  muxSenseAmp := 0
  internalSenseAmp := false
  muxOutputLev1 := 0
  muxOutputLev2 := 0
  numRowSubarray := 0
  numColumnSubarray := 0
  numActiveSubarrayPerRow := 0
  numActiveSubarrayPerColumn := 0
  areaOptimizationLevel := .latencyFirst
  memoryType := .data
  initialized := false
  invalid := false
  mat := .fresh

namespace Result

/-- `Result::Result`, with the target `main` assigns to it. -/
def new (target : OptimizationTarget) : Result K where
  bank := { toBank := .fresh, toFunctionUnit := FunctionUnit.fresh.reset }
  localWire := .fresh
  globalWire := .fresh
  toLimits := .unconstrained
  optimizationTarget := target

/-- `Result::reset`. -/
def reset (r : Result K) : Result K :=
  { r with bank := { r.bank with toFunctionUnit := r.bank.toFunctionUnit.reset } }

/-- The macro `APPLY_LIMIT`. -/
def applyLimit (allowed : Limits K) (r : Result K) : Result K :=
  { r.reset with toLimits := allowed }

/-- Copy a design into the result. -/
def hold (r : Result K) (design : Design K) : Result K :=
  { r with toDesign := design }

/-- The comparison for the target of the result. -/
def toUpdate (r : Result K) (newResult : Design K) : Bool :=
  match r.optimizationTarget with
  | .readLatencyOptimized => newResult.bank.readLatency < r.bank.readLatency
  | .writeLatencyOptimized => newResult.bank.writeLatency < r.bank.writeLatency
  | .readEnergyOptimized => newResult.bank.readDynamicEnergy < r.bank.readDynamicEnergy
  | .writeEnergyOptimized => newResult.bank.writeDynamicEnergy < r.bank.writeDynamicEnergy
  | .readEdpOptimized =>
      newResult.bank.readLatency * newResult.bank.readDynamicEnergy <
        r.bank.readLatency * r.bank.readDynamicEnergy
  | .writeEdpOptimized =>
      newResult.bank.writeLatency * newResult.bank.writeDynamicEnergy <
        r.bank.writeLatency * r.bank.writeDynamicEnergy
  | .areaOptimized => newResult.bank.area < r.bank.area
  | .leakageOptimized => newResult.bank.leakage < r.bank.leakage
  | .fullExploration => false

/-- `Result::compareAndUpdate`. -/
def compareAndUpdate (r : Result K) (newResult : Design K) : Result K :=
  if r.toLimits.Allow newResult.bank.toFunctionUnit then
    if r.toUpdate newResult then r.hold newResult else r
  else r

/-- The objective of what a result holds. -/
def objective (r : Result K) : K := r.bank.objective r.optimizationTarget

theorem toUpdate_iff {r : Result K} {newResult : Design K} :
    r.toUpdate newResult = true ↔
      newResult.bank.objective r.optimizationTarget < r.objective := by
  unfold toUpdate objective FunctionUnit.objective
  cases r.optimizationTarget <;> simp

/-- The two outcomes of a comparison. -/
theorem compareAndUpdate_cases (r : Result K) (newResult : Design K) :
    r.toLimits.Allow newResult.bank.toFunctionUnit ∧
        newResult.bank.objective r.optimizationTarget < r.objective ∧
        r.compareAndUpdate newResult = r.hold newResult ∨
      (r.toLimits.Allow newResult.bank.toFunctionUnit →
          r.objective ≤ newResult.bank.objective r.optimizationTarget) ∧
        r.compareAndUpdate newResult = r := by
  unfold compareAndUpdate
  by_cases hallow : r.toLimits.Allow newResult.bank.toFunctionUnit
  · by_cases hupdate : r.toUpdate newResult = true
    · left
      rw [if_pos hallow, if_pos hupdate]
      exact ⟨hallow, toUpdate_iff.1 hupdate, rfl⟩
    · right
      rw [if_pos hallow, if_neg hupdate]
      exact ⟨fun _ => not_lt.1 (mt toUpdate_iff.2 hupdate), rfl⟩
  · right
    rw [if_neg hallow]
    exact ⟨fun h => absurd h hallow, rfl⟩

theorem compareAndUpdate_optimizationTarget (r : Result K) (newResult : Design K) :
    (r.compareAndUpdate newResult).optimizationTarget = r.optimizationTarget := by
  rcases compareAndUpdate_cases r newResult with ⟨-, -, h⟩ | ⟨-, h⟩
  · rw [h]
    rfl
  · rw [h]

/-- A comparison never makes the objective of a result worse. -/
theorem objective_compareAndUpdate_le (r : Result K) (newResult : Design K) :
    (r.compareAndUpdate newResult).objective ≤ r.objective := by
  rcases compareAndUpdate_cases r newResult with ⟨-, hlt, h⟩ | ⟨-, h⟩
  · rw [h]
    exact hlt.le
  · rw [h]

end Result

end NVSim
