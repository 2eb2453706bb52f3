import Mathlib.Algebra.Order.Field.Basic
import Mathlib.Algebra.Order.Ring.Rat
import NVSim.Model.Evaluation

/-!
# The global objects of the circuit models

`tech`, `cell`, `inputParameter` and the two wires are global objects which the circuit
classes read.  `Globals` holds what they read of them.

The formulas of `formula.cpp`, and what an output driver computes from the inverter
chain it sizes, are parameters: nothing that is modelled here depends on their bodies.
`NVSim.Model.Formula` and `NVSim.Model.InverterChain` give them.
The doubles are elements of an ordered field, as in the search.
-/

namespace NVSim

inductive TransistorType
  | nmos | pmos
deriving DecidableEq, Repr

inductive GateType
  | inv | nor | nand
deriving DecidableEq, Repr

/-! ## Constants -/

section Constants

variable {K : Type} [Field K]

/-- `MIN_NMOS_SIZE`. -/
def minNmosSize : K := 1.5

/-- `AREA_OPT_CONSTRAIN`. -/
def areaOptConstrain : K := 1

/-- `MAX_TRANSISTOR_HEIGHT`. -/
def maxTransistorHeight : K := 20

end Constants

/-- All fields of the memory cell that the circuit classes read. -/
structure Cell (K : Type) extends MemCell K where
  area : K
  widthInFeatureSize : K
  heightInFeatureSize : K
  resistanceOff : K
  capacitanceOn : K
  capacitanceOff : K
  readMode : Bool
  readVoltage : K
  readCurrent : K
  readPower : K
  minSenseVoltage : K
  stitching : ℤ
  gateOxThicknessFactor : K
  widthSOIDevice : K
  widthAccessCMOS : K
  leakageCurrentAccessDevice : K
  capDRAMCell : K
  widthSRAMCellNMOS : K
  widthSRAMCellPMOS : K
  resistanceOnAtHalfResetVoltage : K
  flashEraseVoltage : K
  flashPassVoltage : K
  flashProgramVoltage : K
  flashEraseTime : K
  flashProgramTime : K
  gateCouplingRatio : K

/-- The arguments of `OutputDriver::Initialize`, which it stores, and its flags. -/
structure OutputDriver (K : Type) where
  initialized : Bool
  invalid : Bool
  logicEffort : K
  inputCap : K
  outputCap : K
  outputRes : K
  inv : Bool
  areaOptimizationLevel : BufferDesignTarget
  minDriverCurrent : K
deriving DecidableEq, Repr

/-- What the functions of an output driver compute from its inverter chain. -/
structure DriverModels (K : Type) where
  /-- `capInput[0]` after `CalculateRC`. -/
  capInput : OutputDriver K → K
  /-- `capOutput[0]` after `CalculateRC`. -/
  capOutput : OutputDriver K → K
  /-- The height and the width. -/
  area : OutputDriver K → K × K
  /-- The latency and the output ramp, for an input ramp. -/
  latency : OutputDriver K → K → K × K
  /-- The leakage and the dynamic energy. -/
  power : OutputDriver K → K × K

/-- The functions of the C library that the circuit classes call. -/
structure Libm (K : Type) [Zero K] [LE K] where
  sqrt : K → K
  log : K → K
  sqrt_nonneg : ∀ x, 0 ≤ sqrt x

/-- The technology, and the formulas of `formula.cpp` for it. -/
structure Technology (K : Type) [Zero K] [LT K] where
  featureSize : K
  vdd : K
  vth : K
  pnSizeRatio : K
  buildInPotential : K
  capJunction : K
  currentOnNmos : ℤ → K
  currentOffNmos : ℤ → K
  gateCap : (width : K) → K
  fbramGateCap : (width thicknessFactor : K) → K
  fbramDrainCap : (width : K) → K
  drainCap : (width : K) → TransistorType → (heightTransistorRegion : K) → K
  onResistance : (width : K) → TransistorType → (temperature : ℤ) → K
  transconductance : (width : K) → TransistorType → K
  gateLeakage : GateType → (numInput : ℕ) → (widthNMOS widthPMOS : K) → (temperature : ℤ) → K
  /-- The height and the width. -/
  gateArea : GateType → (numInput : ℕ) →
    (widthNMOS widthPMOS heightTransistorRegion : K) → K × K
  /-- The input and the output capacitance. -/
  gateCapacitance : GateType → (numInput : ℕ) →
    (widthNMOS widthPMOS heightTransistorRegion : K) → K × K
  featureSize_pos : 0 < featureSize

/-- The global objects. -/
structure Globals (K : Type) [Zero K] [LinearOrder K] where
  inputParameter : Settings K
  tech : Technology K
  cell : Cell K
  localWire : Wire
  globalWire : Wire
  capWirePerUnit : Wire → K
  resWirePerUnit : Wire → K
  libm : Libm K
  /-- The delay and the output ramp, for a time constant, `beta` and an input ramp. -/
  horowitz : (tr beta rampInput : K) → K × K
  driver : DriverModels K

/-- An object of a circuit class: what its `Initialize` stores, and what its other
functions leave in it. -/
structure Component (Part K : Type) extends FunctionUnit K where
  part : Part
  rampOutput : K
deriving DecidableEq, Repr

namespace Component

variable {Part K : Type}

/-- An object after its `Initialize`; the constructor of `FunctionUnit` cleared its
measures. -/
def initialized [Field K] [LinearOrder K] (part : Part) : Component Part K where
  toFunctionUnit := .fresh
  part := part
  rampOutput := 0

/-- The object after a `CalculateLatency` with the given latency and output ramp. -/
def timed (latency : K × K) (c : Component Part K) : Component Part K :=
  { c with readLatency := latency.1, writeLatency := latency.1, rampOutput := latency.2 }

/-- The object after a `CalculatePower` with the given leakage and dynamic energies. -/
def powered (leakage readDynamicEnergy writeDynamicEnergy : K) (c : Component Part K) :
    Component Part K :=
  { c with
    leakage := leakage
    readDynamicEnergy := readDynamicEnergy
    writeDynamicEnergy := writeDynamicEnergy }

@[simp] theorem part_timed (latency : K × K) (c : Component Part K) :
    (c.timed latency).part = c.part := rfl

@[simp] theorem readLatency_timed (latency : K × K) (c : Component Part K) :
    (c.timed latency).readLatency = latency.1 := rfl

@[simp] theorem rampOutput_timed (latency : K × K) (c : Component Part K) :
    (c.timed latency).rampOutput = latency.2 := rfl

@[simp] theorem writeDynamicEnergy_powered (leakage readEnergy writeEnergy : K)
    (c : Component Part K) :
    (c.powered leakage readEnergy writeEnergy).writeDynamicEnergy = writeEnergy := rfl

end Component

/-! ## Output drivers -/

namespace Globals

variable {K : Type} [Field K] [LinearOrder K] (g : Globals K)

/-- `inputParameter->temperature - 300`, the index into the current tables. -/
def temperatureIndex : ℤ := g.inputParameter.temperature - 300

/-- `tech->currentOnNmos` at the temperature of the run. -/
def currentOnNmos : K := g.tech.currentOnNmos g.temperatureIndex

/-- `inputParameter->maxNmosSize * tech->featureSize`. -/
def maxNmosWidth : K := g.inputParameter.maxNmosSize * g.tech.featureSize

/-- `MIN_NMOS_SIZE * tech->featureSize`. -/
def minNmosWidth : K := minNmosSize * g.tech.featureSize

/-- The width of the driver that provides a current. -/
def driverWidth (minDriverCurrent : K) : K :=
  max g.minNmosWidth (minDriverCurrent / g.currentOnNmos)

end Globals

/-- `OutputDriver::Initialize`. -/
def initializeOutputDriver {K : Type} [Field K] [LinearOrder K] (g : Globals K)
    (logicEffort inputCap outputCap outputRes : K) (inv : Bool)
    (areaOptimizationLevel : BufferDesignTarget) (minDriverCurrent : K) : OutputDriver K :=
  let minNMOSDriverWidth := g.driverWidth minDriverCurrent
  let driver : OutputDriver K :=
    { initialized := false
      invalid := false
      logicEffort := logicEffort
      inputCap := inputCap
      outputCap := outputCap
      outputRes := outputRes
      inv := inv
      areaOptimizationLevel := areaOptimizationLevel
      minDriverCurrent := minDriverCurrent }
  if minNMOSDriverWidth > g.maxNmosWidth then { driver with invalid := true }
  else if areaOptimizationLevel = .areaFirst ∧
      max g.minNmosWidth minNMOSDriverWidth > areaOptConstrain * g.maxNmosWidth then
    { driver with invalid := true }
  else { driver with initialized := true }

/-! ## Examples -/

/-- A technology of unit feature size with constant formulas, for examples. -/
def Technology.small : Technology ℚ where
  featureSize := 1
  vdd := 1
  vth := 0
  pnSizeRatio := 1
  buildInPotential := 1
  capJunction := 0
  currentOnNmos := fun _ => 1
  currentOffNmos := fun _ => 1 / 1000
  gateCap := fun _ => 1
  fbramGateCap := fun _ _ => 1
  fbramDrainCap := fun _ => 1
  drainCap := fun _ _ _ => 1
  onResistance := fun _ _ _ => 1
  transconductance := fun _ _ => 1
  gateLeakage := fun _ _ _ _ _ => 1
  gateArea := fun _ _ _ _ _ => (1, 1)
  gateCapacitance := fun _ _ _ _ _ => (1, 1)
  featureSize_pos := rfl

theorem Technology.small_featureSize_pos : 0 < Technology.small.featureSize := rfl

/-- A resistive cell with a CMOS access transistor, for examples. -/
def Cell.small : Cell ℚ where
  memCellType := .mram
  accessType := .cmosAccess
  resistanceOn := 1
  resistanceOnAtResetVoltage := 1
  resistanceOnAtSetVoltage := 1
  voltageDropAccessDevice := 0
  resetMode := true
  resetVoltage := 1
  resetCurrent := 1
  resetPulse := 1
  resetEnergy := 1
  setMode := true
  setVoltage := 1
  setCurrent := 1
  setPulse := 1
  setEnergy := 2
  area := 1
  widthInFeatureSize := 4
  heightInFeatureSize := 1
  resistanceOff := 3
  capacitanceOn := 0
  capacitanceOff := 0
  readMode := true
  readVoltage := 0
  readCurrent := 1 / 4
  readPower := 0
  minSenseVoltage := 1 / 10
  stitching := 0
  gateOxThicknessFactor := 2
  widthSOIDevice := 0
  widthAccessCMOS := 1
  leakageCurrentAccessDevice := 0
  capDRAMCell := 0
  widthSRAMCellNMOS := 1
  widthSRAMCellPMOS := 1
  resistanceOnAtHalfResetVoltage := 1
  flashEraseVoltage := 0
  flashPassVoltage := 0
  flashProgramVoltage := 0
  flashEraseTime := 0
  flashProgramTime := 0
  gateCouplingRatio := 0

/-- Output drivers of unit load, delay and energy, for examples. -/
def DriverModels.small : DriverModels ℚ where
  capInput := fun _ => 1
  capOutput := fun _ => 1
  area := fun _ => (1, 1)
  latency := fun _ _ => (1, 1)
  power := fun _ => (1, 1)

/-- A plain wire, for examples. -/
def Wire.small : Wire where
  wireType := .localAggressive
  wireRepeaterType := .repeatedNone
  isLowSwing := false
  legal := WireKind.legal_of_unrepeated false
  featureSizeInNano := 90
  temperature := 300

theorem zero_le_max_zero (x : ℚ) : 0 ≤ max x 0 := le_max_right x 0

/-- The global objects of a small circuit around a cell, for examples.  The square root
is exact at zero and at one. -/
def Globals.small (cell : Cell ℚ) : Globals ℚ where
  inputParameter := Settings.new 16 8 .hp "" 300
  tech := .small
  cell := cell
  localWire := .small
  globalWire := .small
  capWirePerUnit := fun _ => 0
  resWirePerUnit := fun _ => 0
  libm :=
    { sqrt := fun x => max x 0
      log := fun x => x - 1
      sqrt_nonneg := zero_le_max_zero }
  horowitz := fun _ _ _ => (1, 1)
  driver := .small

end NVSim
