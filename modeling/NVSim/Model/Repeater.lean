import NVSim.Library.Loop
import NVSim.Model.Circuit

/-!
# Repeated wires

The part of `Wire::Initialize` that chooses the size and the spacing of the repeaters, and
the unit measures of a repeated wire.  `findPenalizedRepeater` evaluates the measures with
the fields of the wire, which are also the variables of its loops.
-/

namespace NVSim

variable {K : Type} [Field K] [LinearOrder K]

/-- The fields of a wire that are read of a repeated one. -/
structure RepeatedWire (K : Type) where
  capWirePerUnit : K
  resWirePerUnit : K
  repeaterSize : K
  repeaterSpacing : K
deriving DecidableEq, Repr

namespace RepeatedWire

variable (g : Globals K) (w : RepeatedWire K)

/-! ## The scaled repeater -/

/-- `nmosSize` of a repeater. -/
def nmosSize (size : K) : K := minNmosSize * g.tech.featureSize * size

/-- `pmosSize` of a repeater. -/
def pmosSize (size : K) : K := nmosSize g size * g.tech.pnSizeRatio

/-- `inputCap` of a repeater. -/
def inputCap (size : K) : K := g.tech.gateCap (nmosSize g size) + g.tech.gateCap (pmosSize g size)

/-- `outputCap` of a repeater; the height of the transistor region is no limit. -/
def outputCap (size : K) : K :=
  g.tech.drainCap (nmosSize g size) .nmos 1 + g.tech.drainCap (pmosSize g size) .pmos 1

/-- `outputRes` of a repeater. -/
def outputRes (size : K) : K :=
  g.tech.onResistance (nmosSize g size) .nmos g.inputParameter.temperature +
    g.tech.onResistance (pmosSize g size) .pmos g.inputParameter.temperature

/-- `getRepeatedWireUnitDelay`. -/
def unitDelay : K :=
  let inputCap := inputCap g w.repeaterSize
  let outputCap := outputCap g w.repeaterSize
  let outputRes := outputRes g w.repeaterSize
  let wireCap := w.capWirePerUnit * w.repeaterSpacing
  let wireRes := w.resWirePerUnit * w.repeaterSpacing
  let tau := outputRes * (inputCap + outputCap) + outputRes * wireCap + wireRes * outputCap +
    0.5 * wireRes * wireCap
  0.693 * tau / w.repeaterSpacing

/-- `getRepeatedWireUnitDynamicEnergy`; there is no short circuit energy. -/
def unitDynamicEnergy : K :=
  let wireCap := w.capWirePerUnit * w.repeaterSpacing
  let switchingEnergy := (inputCap g w.repeaterSize + outputCap g w.repeaterSize + wireCap) *
    g.tech.vdd * g.tech.vdd
  switchingEnergy / w.repeaterSpacing

/-- `getRepeatedWireUnitLeakage`. -/
def unitLeakage : K :=
  let leakagePerRepeater := g.tech.gateLeakage .inv 1 (nmosSize g w.repeaterSize)
    (pmosSize g w.repeaterSize) g.inputParameter.temperature * g.tech.vdd
  leakagePerRepeater / w.repeaterSpacing

/-! ## The fastest repeaters -/

/-- `findOptimalRepeater`.  The minimum sized inverter is the repeater of size one. -/
def findOptimalRepeater : RepeatedWire K :=
  let inputCap := inputCap g 1
  let outputCap := outputCap g 1
  let outputRes := outputRes g 1
  { w with
    repeaterSize := g.libm.sqrt (outputRes * w.capWirePerUnit / inputCap / w.resWirePerUnit)
    repeaterSpacing := g.libm.sqrt
      (2 * outputRes * (outputCap + inputCap) / (w.resWirePerUnit * w.capWirePerUnit)) }

end RepeatedWire

/-! ## Slower repeaters of less power -/

/-- The unit measures as functions of the spacing and the size of the repeaters. -/
structure RepeaterCosts (K : Type) where
  unitDelay : (repeaterSpacing repeaterSize : K) → K
  unitDynamicEnergy : (repeaterSpacing repeaterSize : K) → K
  unitLeakage : (repeaterSpacing repeaterSize : K) → K

/-- The unit measures of a wire. -/
def RepeatedWire.costs (g : Globals K) (w : RepeatedWire K) : RepeaterCosts K :=
  let resized (repeaterSpacing repeaterSize : K) : RepeatedWire K :=
    { w with repeaterSpacing := repeaterSpacing, repeaterSize := repeaterSize }
  { unitDelay := fun spacing size => (resized spacing size).unitDelay g
    unitDynamicEnergy := fun spacing size => (resized spacing size).unitDynamicEnergy g
    unitLeakage := fun spacing size => (resized spacing size).unitLeakage g }

/-- The variables of `findPenalizedRepeater` that its loops change. -/
structure RepeaterSearch (K : Type) where
  repeaterSpacing : K
  repeaterSize : K
  currentDynamicEnergy : K
  currentLeakage : K
  targetRepeaterSpacing : K
  targetRepeaterSize : K
deriving DecidableEq, Repr

/-- `stepSpacing`: 100um. -/
def stepSpacing : K := 100e-6

/-- `stepSize`: the minimum buffer size. -/
def stepSize : K := 1

/-- `endSize`. -/
def endSize : K := 1

namespace RepeaterSearch

variable (costs : RepeaterCosts K)

/-- The variables before the loops. -/
def start (repeaterSpacing repeaterSize : K) : RepeaterSearch K where
  repeaterSpacing := repeaterSpacing
  repeaterSize := repeaterSize
  currentDynamicEnergy := costs.unitDynamicEnergy repeaterSpacing repeaterSize
  currentLeakage := costs.unitLeakage repeaterSpacing repeaterSize
  targetRepeaterSpacing := repeaterSpacing
  targetRepeaterSize := repeaterSize

variable (targetDelay : K)

/-- The body of the inner loop: accept the pair, or leave it. -/
def tryRepeater (s : RepeaterSearch K) : RepeaterSearch K :=
  let thisDelay := costs.unitDelay s.repeaterSpacing s.repeaterSize
  let thisDynamicEnergy := costs.unitDynamicEnergy s.repeaterSpacing s.repeaterSize
  let thisLeakage := costs.unitLeakage s.repeaterSpacing s.repeaterSize
  if thisDelay ≤ targetDelay ∧
      thisDynamicEnergy / s.currentDynamicEnergy + thisLeakage / s.currentLeakage < 2 then
    { s with
      currentDynamicEnergy := thisDynamicEnergy
      currentLeakage := thisLeakage
      targetRepeaterSpacing := s.repeaterSpacing
      targetRepeaterSize := s.repeaterSize }
  else s

/-- `repeaterSize -= stepSize`. -/
def shrink (s : RepeaterSearch K) : RepeaterSearch K :=
  { s with repeaterSize := s.repeaterSize - stepSize }

/-- `repeaterSpacing += stepSpacing`. -/
def widen (s : RepeaterSearch K) : RepeaterSearch K :=
  { s with repeaterSpacing := s.repeaterSpacing + stepSpacing }

/-- The loop over the sizes. -/
def sizes (fuel : ℕ) (s : RepeaterSearch K) : Option (RepeaterSearch K) :=
  Library.loop (fun s => s.repeaterSize ≥ endSize)
    (fun s => some (s.tryRepeater costs targetDelay).shrink) fuel s

/-- The loop over the spacings. -/
def spacings (endSpacing : K) (fuel : ℕ) (s : RepeaterSearch K) : Option (RepeaterSearch K) :=
  Library.loop (fun s => s.repeaterSpacing ≤ endSpacing)
    (fun s => (s.sizes costs targetDelay fuel).map widen) fuel s

end RepeaterSearch

/-- `findPenalizedRepeater`, started at a spacing and a size: the spacing and the size it
leaves, if every loop is left after at most `fuel` iterations. -/
def findPenalizedRepeater (costs : RepeaterCosts K) (penalty : K) (fuel : ℕ)
    (repeaterSpacing repeaterSize : K) : Option (K × K) :=
  let targetDelay := costs.unitDelay repeaterSpacing repeaterSize * (1 + penalty)
  ((RepeaterSearch.start costs repeaterSpacing repeaterSize).spacings costs targetDelay
      (4 * repeaterSpacing) fuel).map
    fun s => (s.targetRepeaterSpacing, s.targetRepeaterSize)

/-- The penalty of a repeated wire that is not fully latency optimized. -/
def WireRepeaterType.penalty : WireRepeaterType → Option K
  | .repeatedNone => none
  | .repeatedOpt => none
  | .repeated5 => some 0.05
  | .repeated10 => some 0.10
  | .repeated20 => some 0.20
  | .repeated30 => some 0.30
  | .repeated40 => some 0.40
  | .repeated50 => some 0.50

/-- The repeaters that `Wire::Initialize` chooses for a repeated wire. -/
def RepeatedWire.chooseRepeaters (g : Globals K) (wireRepeaterType : WireRepeaterType) (fuel : ℕ)
    (w : RepeatedWire K) : Option (RepeatedWire K) :=
  let optimal := w.findOptimalRepeater g
  match (wireRepeaterType.penalty : Option K) with
  | none => some optimal
  | some penalty =>
      (findPenalizedRepeater (w.costs g) penalty fuel optimal.repeaterSpacing
          optimal.repeaterSize).map
        fun pair => { optimal with repeaterSpacing := pair.1, repeaterSize := pair.2 }

end NVSim
