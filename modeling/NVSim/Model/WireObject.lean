import Mathlib.Algebra.Order.Floor.Semiring
import NVSim.Model.BankBus
import NVSim.Model.LowSwing
import NVSim.Model.Repeater

/-!
# Wire objects

`Wire::Initialize` and `Wire::CalculateLatencyAndPower`.  A wire takes its geometry from a
table of technology nodes, and from that its resistance and its capacitance per meter.  Above
200 nm there is no entry: the fields of the geometry stay what the object held.
-/

namespace NVSim

variable {K : Type} [Field K]

/-! ## Constants -/

/-- `COPPER_RESISTIVITY`, at 20 degrees Celsius. -/
def copperResistivity : K := 2.2e-8

/-- `COPPER_RESISTIVITY_TEMPERATURE_COEFFICIENT`. -/
def copperResistivityTemperatureCoefficient : K := 0.0039

/-- `PERMITTIVITY`. -/
def permittivity : K := 8.85e-12

/-! ## Formulas -/

/-- `CalculateWireResistance`. -/
def calculateWireResistance (resistivity wireWidth wireThickness barrierThickness
    dishingThickness alphaScatter : K) : K :=
  alphaScatter * resistivity / (wireThickness - barrierThickness - dishingThickness) /
    (wireWidth - 2 * barrierThickness)

/-- `CalculateWireCapacitance`. -/
def calculateWireCapacitance (permittivity wireWidth wireThickness wireSpacing ildThickness
    millerValue horizontalDielectric verticalDielectric fringeCap : K) : K :=
  let verticalCap := 2 * permittivity * verticalDielectric * wireWidth / ildThickness
  let sidewallCap := 2 * permittivity * millerValue * horizontalDielectric * wireThickness /
    wireSpacing
  verticalCap + sidewallCap + fringeCap

/-! ## The table -/

/-- The fields that the table assigns, and the resistivity at room temperature. -/
structure WireGeometry (K : Type) where
  featureSize : K
  barrierThickness : K
  horizontalDielectric : K
  wirePitch : K
  aspectRatio : K
  ildThickness : K
  resistivity : K
deriving DecidableEq, Repr

/-- The technology nodes of the table. -/
inductive WireNode
  | node22 | node32 | node45 | node65 | node90 | node120 | node200
deriving DecidableEq, Repr

/-- The chain of `else if (_featureSizeInNano <= ...)`. -/
def WireNode.ofNano (featureSizeInNano : ℤ) : Option WireNode :=
  if featureSizeInNano ≤ 22 then some .node22
  else if featureSizeInNano ≤ 32 then some .node32
  else if featureSizeInNano ≤ 45 then some .node45
  else if featureSizeInNano ≤ 65 then some .node65
  else if featureSizeInNano ≤ 90 then some .node90
  else if featureSizeInNano ≤ 120 then some .node120
  else if featureSizeInNano ≤ 200 then some .node200
  else none

namespace WireNode

/-- The feature size of a node. -/
def featureSize : WireNode → K
  | .node22 => 22e-9
  | .node32 => 32e-9
  | .node45 => 45e-9
  | .node65 => 65e-9
  | .node90 => 90e-9
  | .node120 => 120e-9
  | .node200 => 200e-9

/-- An entry of the table: the barrier, the dielectric, the pitch, the aspect ratio and the
thickness of the inter-layer dielectric, and the resistivity. -/
def entry (node : WireNode) (barrierThickness horizontalDielectric wirePitch aspectRatio
    ildThickness resistivity : K) : WireGeometry K where
  featureSize := node.featureSize
  barrierThickness := barrierThickness
  horizontalDielectric := horizontalDielectric
  wirePitch := wirePitch
  aspectRatio := aspectRatio
  ildThickness := ildThickness
  resistivity := resistivity

/-- The `switch (wireType)` of a node. -/
def geometry (node : WireNode) (wireType : WireType) : WireGeometry K :=
  let f : K := node.featureSize
  match node, wireType with
  | _, .dramWordline => node.entry 0 0 (2 * f) 0 0 copperResistivity
  | .node22, .localAggressive => node.entry 0 2.55 (2 * f) 1.9 (1.9 * f) 6.0e-8
  | .node22, .localConservative => node.entry 0.0021e-6 3 (2 * f) 1.9 (1.9 * f) 6.0e-8
  | .node22, .semiAggressive => node.entry 0 2.55 (4 * f) 1.9 (2 * 1.9 * f) 6.0e-8
  | .node22, .semiConservative => node.entry 0.0021e-6 3 (4 * f) 1.9 (2 * 1.9 * f) 6.0e-8
  | .node22, .globalAggressive => node.entry 0 2.55 (8 * f) 2.34 (0.42e-6 * 22 / 32) 3.0e-8
  | .node22, .globalConservative => node.entry 0.0063e-6 3 (8 * f) 2.34 (0.385e-6 * 22 / 32) 3.0e-8
  | .node32, .localAggressive => node.entry 0 2.82 (2 * f) 1.8 (1.8 * f) 5.0e-8
  | .node32, .localConservative => node.entry 0.0026e-6 3.16 (2 * f) 1.8 (1.8 * f) 5.0e-8
  | .node32, .semiAggressive => node.entry 0 2.82 (4 * f) 1.9 (2 * 1.9 * f) 5.0e-8
  | .node32, .semiConservative => node.entry 0.0026e-6 3.16 (4 * f) 1.9 (2 * 1.9 * f) 5.0e-8
  | .node32, .globalAggressive => node.entry 0 2.82 (8 * f) 2.34 0.42e-6 2.5e-8
  | .node32, .globalConservative => node.entry 0.0078e-6 3.16 (8 * f) 2.34 0.385e-6 2.5e-8
  | .node45, .localAggressive => node.entry 0 2.6 0.102e-6 1.8 0.0918e-6 4.08e-8
  | .node45, .localConservative => node.entry 0.0033e-6 2.9 0.102e-6 1.8 0.0918e-6 4.08e-8
  | .node45, .semiAggressive => node.entry 0 2.6 (4 * f) 1.8 (2 * 1.8 * f) 4.08e-8
  | .node45, .semiConservative => node.entry 0.0033e-6 2.9 (4 * f) 1.8 (2 * 1.8 * f) 4.08e-8
  | .node45, .globalAggressive => node.entry 0 2.6 (8 * f) 2.34 0.63e-6 2.06e-8
  | .node45, .globalConservative => node.entry 0.01e-6 2.9 (8 * f) 2.34 0.55e-6 2.06e-8
  | .node65, .localAggressive => node.entry 0 2.303 (2.5 * f) 2.7 0.405e-6 copperResistivity
  | .node65, .localConservative =>
      node.entry 0.006e-6 2.734 (2.5 * f) 2.0 0.405e-6 copperResistivity
  | .node65, .semiAggressive => node.entry 0 2.303 (4 * f) 2.7 0.405e-6 copperResistivity
  | .node65, .semiConservative => node.entry 0.006e-6 2.734 (4 * f) 2.0 0.405e-6 copperResistivity
  | .node65, .globalAggressive => node.entry 0 2.303 (8 * f) 2.8 0.81e-6 copperResistivity
  | .node65, .globalConservative => node.entry 0.006e-6 2.734 (8 * f) 2.2 0.77e-6 copperResistivity
  | .node90, .localAggressive => node.entry 0.01e-6 2.709 (2.5 * f) 2.4 0.48e-6 copperResistivity
  | .node90, .localConservative => node.entry 0.008e-6 3.038 (2.5 * f) 2.0 0.48e-6 copperResistivity
  | .node90, .semiAggressive => node.entry 0.01e-6 2.709 (4 * f) 2.4 0.48e-6 copperResistivity
  | .node90, .semiConservative => node.entry 0.008e-6 3.038 (4 * f) 2.0 0.48e-6 copperResistivity
  | .node90, .globalAggressive => node.entry 0.01e-6 2.709 (8 * f) 2.7 0.96e-6 copperResistivity
  | .node90, .globalConservative => node.entry 0.008e-6 3.038 (8 * f) 2.2 1.1e-6 copperResistivity
  | .node120, .localAggressive => node.entry 0.012e-6 3.3 240e-9 1.6 0.48e-6 copperResistivity
  | .node120, .localConservative => node.entry 0.01e-6 3.6 240e-9 1.4 0.48e-6 copperResistivity
  | .node120, .semiAggressive => node.entry 0.012e-6 3.3 320e-9 1.7 0.48e-6 copperResistivity
  | .node120, .semiConservative => node.entry 0.01e-6 3.6 320e-9 1.5 0.48e-6 copperResistivity
  | .node120, .globalAggressive => node.entry 0.012e-6 3.3 475e-9 2.1 0.96e-6 copperResistivity
  | .node120, .globalConservative => node.entry 0.01e-6 3.6 475e-9 1.9 1.1e-6 copperResistivity
  | .node200, .localAggressive => node.entry 0.016e-6 3.75 0.45e-6 2.4 1e-6 copperResistivity
  | .node200, .localConservative =>
      node.entry (0.016e-6 * 0.8) (3.75 * 3.038 / 2.709) 0.45e-6 1.2 1e-6 copperResistivity
  | .node200, .semiAggressive => node.entry 0.016e-6 3.75 0.575e-6 2.1 1e-6 copperResistivity
  | .node200, .semiConservative =>
      node.entry (0.016e-6 * 0.8) (3.75 * 3.038 / 2.709) 0.575e-6 (2.1 * 2.0 / 2.4) 1e-6
        copperResistivity
  | .node200, .globalAggressive => node.entry 0.016e-6 3.75 0.945e-6 2.1 2e-6 copperResistivity
  | .node200, .globalConservative =>
      node.entry (0.016e-6 * 0.8) (3.75 * 3.038 / 2.709) 0.945e-6 (2.1 * 2.2 / 2.7) 2.2e-6
        copperResistivity

end WireNode

namespace WireGeometry

variable (w : WireGeometry K)

/-- `wireWidth`. -/
def wireWidth : K := w.wirePitch / 2

/-- `wireThickness`. -/
def wireThickness : K := w.aspectRatio * w.wireWidth

/-- `wireSpacing`. -/
def wireSpacing : K := w.wirePitch - w.wireWidth

/-- `resWirePerUnit`, at a temperature. -/
def resistance (temperature : ℤ) : K :=
  calculateWireResistance
    (w.resistivity *
      (1 + copperResistivityTemperatureCoefficient * ((temperature - 293 : ℤ) : K)))
    w.wireWidth w.wireThickness w.barrierThickness 0 1

/-- `capWirePerUnit`. -/
def capacitance : K :=
  calculateWireCapacitance permittivity w.wireWidth w.wireThickness w.wireSpacing w.ildThickness
    1.5 w.horizontalDielectric 3.9 1.15e-10

/-- The geometry after the table was looked up; `w` is what the object held.  Where there is
no entry, the resistivity is still set. -/
def lookUp (featureSizeInNano : ℤ) (wireType : WireType) : WireGeometry K :=
  match WireNode.ofNano featureSizeInNano with
  | some node => node.geometry wireType
  | none =>
      { w with featureSize := featureSizeInNano * 1e-9, resistivity := copperResistivity }

end WireGeometry

/-! ## The object -/

/-- A wire with what `Wire::Initialize` derives from its arguments. -/
structure WireObject (K : Type) extends Wire, WireGeometry K, RepeatedWire K where
  repeaterHeight : K
  repeaterWidth : K
  repeatedWirePitch : K

/-- `repeaterHeight`, `repeaterWidth` and `repeatedWirePitch` of a repeated wire. -/
def WireObject.addRepeaterPitch [LinearOrder K] (g : Globals K) (w : WireObject K) :
    WireObject K :=
  let width := w.repeaterSize * minNmosSize * g.tech.featureSize
  let area := g.tech.gateArea .inv 1 width (width * g.tech.pnSizeRatio) worstCase
  -- the longer side lies along the wire
  let size := if area.2 < area.1 then (area.2, area.1) else area
  { w with
    repeaterHeight := size.1
    repeaterWidth := size.2
    repeatedWirePitch := w.wirePitch + size.2 }

/-- `Wire::Initialize` of an object that held `w`.  It is `none` if a loop that looks for
repeaters is not left after `fuel` iterations. -/
def initializeWireObject [LinearOrder K] (g : Globals K) (fuel : ℕ) (w : WireObject K)
    (featureSizeInNano : ℤ) (kind : WireKind) (temperature : ℤ) : Option (WireObject K) :=
  let geometry := w.toWireGeometry.lookUp featureSizeInNano kind.wireType
  let w : WireObject K := { w with
    toWire := initializeWire featureSizeInNano kind temperature
    toWireGeometry := geometry
    resWirePerUnit := geometry.resistance temperature
    capWirePerUnit := geometry.capacitance }
  if kind.wireRepeaterType = .repeatedNone then some w
  else
    (w.toRepeatedWire.chooseRepeaters g kind.wireRepeaterType fuel).map fun repeated =>
      { w with toRepeatedWire := repeated }.addRepeaterPitch g

namespace WireObject

variable [LinearOrder K] (g : Globals K) (w : WireObject K)

/-- The globals as the functions of a wire see them, which read the fields of the wire. -/
def globals : Globals K :=
  { g with
    resWirePerUnit := fun _ => w.resWirePerUnit
    capWirePerUnit := fun _ => w.capWirePerUnit }

/-- `Wire::CalculateLatencyAndPower`; `memory` is what the receiver of a low-swing wire held. -/
def calculateLatencyAndPower (memory wireLength : K) : WireMeasures K :=
  if w.isLowSwing then
    let link := LowSwing.calculateLatencyAndPower (w.globals g) w.toWire wireLength memory
    ⟨link.delay, link.dynamicEnergy, link.leakagePower⟩
  else if w.wireRepeaterType = .repeatedNone then
    { delay := 2.3 * w.resWirePerUnit * w.capWirePerUnit * wireLength * wireLength / 2
      dynamicEnergy := w.capWirePerUnit * wireLength * g.tech.vdd * g.tech.vdd
      leakagePower := 0 }
  else
    { delay := w.unitDelay g * wireLength
      dynamicEnergy := w.unitDynamicEnergy g * wireLength
      leakagePower := w.unitLeakage g * wireLength }

variable [FloorSemiring K]

/-- `numWireSharingWidth` and `effectivePitch` of `CalculateArea`: a wire without repeaters is
built on another metal layer.  A quotient of lengths is not negative. -/
def sharing : ℕ × K :=
  if w.wireRepeaterType = .repeatedNone then (1, 0)
  else (⌊w.repeaterSpacing / w.repeaterHeight⌋₊, w.repeatedWirePitch)

end WireObject

/-! ## Examples -/

/-- A wire without repeaters at 90 nm, for examples. -/
def WireObject.small : WireObject ℚ where
  toWire := .small
  toWireGeometry := WireNode.node90.geometry .localAggressive
  capWirePerUnit := (WireNode.node90.geometry .localAggressive).capacitance
  resWirePerUnit := (WireNode.node90.geometry .localAggressive).resistance 300
  repeaterSize := 0
  repeaterSpacing := 0
  repeaterHeight := 0
  repeaterWidth := 0
  repeatedWirePitch := 0

end NVSim
