import Mathlib.Algebra.Field.Basic
import Mathlib.Algebra.Order.Ring.Unbundled.Rat
import NVSim.Model.Typedef

/-!
# Technologies

`Technology::Initialize` assigns the base parameters of a node from one of seven tables and
derives the other ones from them.  A node below the smallest table keeps what the memory
held.  `InterpolateWith` blends the base parameters of two technologies and derives again.

The tables are a parameter here, as is the power function of `math.h`.
-/

namespace NVSim

/-- The tables of `Technology::Initialize`, by the branch that assigns them. -/
inductive TableNode
  | nm200 | nm120 | nm90 | nm65 | nm45 | nm32 | nm22
deriving DecidableEq, Repr

/-- The branch of a node; there is none below 22 nm. -/
def TableNode.of (featureSizeInNano : ℤ) : Option TableNode :=
  if featureSizeInNano ≥ 200 then some .nm200
  else if featureSizeInNano ≥ 120 then some .nm120
  else if featureSizeInNano ≥ 90 then some .nm90
  else if featureSizeInNano ≥ 65 then some .nm65
  else if featureSizeInNano ≥ 45 then some .nm45
  else if featureSizeInNano ≥ 32 then some .nm32
  else if featureSizeInNano ≥ 22 then some .nm22
  else none

/-- What a branch of `Initialize` assigns; the currents are those of 300 K, 310 K and so on
up to 400 K. -/
structure TechnologyTable (K : Type) where
  vdd : K
  vth : K
  phyGateLength : K
  capIdealGate : K
  capFringe : K
  capJunction : K
  capOx : K
  effectiveElectronMobility : K
  effectiveHoleMobility : K
  pnSizeRatio : K
  effectiveResistanceMultiplier : K
  currentOnNmos : Fin 11 → K
  currentOnPmos : Fin 11 → K
  currentOffNmos : Fin 11 → K
  currentOffPmos : Fin 11 → K

/-- The tables of all nodes. -/
abbrev TechnologyTables (K : Type) := TableNode → DeviceRoadmap → TechnologyTable K

/-- A `Technology`.  The elements of the current arrays are those up to 100. -/
structure TechnologyObject (K : Type) where
  initialized : Bool
  featureSizeInNano : ℤ
  featureSize : K
  deviceRoadmap : DeviceRoadmap
  vdd : K
  vth : K
  vdsatNmos : K
  vdsatPmos : K
  phyGateLength : K
  capIdealGate : K
  capFringe : K
  capJunction : K
  capOverlap : K
  capSidewall : K
  capDrainToChannel : K
  capOx : K
  buildInPotential : K
  effectiveElectronMobility : K
  effectiveHoleMobility : K
  pnSizeRatio : K
  effectiveResistanceMultiplier : K
  currentOnNmos : ℕ → K
  currentOnPmos : ℕ → K
  currentOffNmos : ℕ → K
  currentOffPmos : ℕ → K
  capPolywire : K

variable {K : Type}

/-- The assignments to the elements 0, 10 and so on up to 100 of a current array. -/
def assignCurrents (entries : Fin 11 → K) (current : ℕ → K) : ℕ → K :=
  fun i => if i % 10 = 0 ∧ i ≤ 100 then entries (Fin.ofNat 11 (i / 10)) else current i

variable [Field K]

/-- The value that an element of a current array gets from the elements around it. -/
def currentBetween (current : ℕ → K) (i : ℕ) : K :=
  let a := current (i / 10 * 10)
  let b := current (i / 10 * 10 + 10)
  a + (b - a) * (i % 10 : ℕ) / 10

/-- The body of the loops that fill in a current array. -/
def fillElement (current : ℕ → K) (i : ℕ) : ℕ → K :=
  if i % 10 ≠ 0 then Function.update current i (currentBetween current i) else current

/-- The loop that fills in a current array. -/
def fillCurrents (current : ℕ → K) : ℕ → K := (List.range' 1 99).foldl fillElement current

namespace TechnologyObject

/-- A `Technology` that was constructed in a memory of zeros. -/
def zeroed : TechnologyObject K where
  initialized := false
  featureSizeInNano := 0
  featureSize := 0
  deviceRoadmap := .hp
  vdd := 0
  vth := 0
  vdsatNmos := 0
  vdsatPmos := 0
  phyGateLength := 0
  capIdealGate := 0
  capFringe := 0
  capJunction := 0
  capOverlap := 0
  capSidewall := 0
  capDrainToChannel := 0
  capOx := 0
  buildInPotential := 0
  effectiveElectronMobility := 0
  effectiveHoleMobility := 0
  pnSizeRatio := 0
  effectiveResistanceMultiplier := 0
  currentOnNmos := 0
  currentOnPmos := 0
  currentOffNmos := 0
  currentOffPmos := 0
  capPolywire := 0

/-- The assignments of a branch of `Initialize`. -/
def assign (tech : TechnologyObject K) (table : TechnologyTable K) : TechnologyObject K :=
  { tech with
    vdd := table.vdd
    vth := table.vth
    phyGateLength := table.phyGateLength
    capIdealGate := table.capIdealGate
    capFringe := table.capFringe
    capJunction := table.capJunction
    capOx := table.capOx
    effectiveElectronMobility := table.effectiveElectronMobility
    effectiveHoleMobility := table.effectiveHoleMobility
    pnSizeRatio := table.pnSizeRatio
    effectiveResistanceMultiplier := table.effectiveResistanceMultiplier
    currentOnNmos := assignCurrents table.currentOnNmos tech.currentOnNmos
    currentOnPmos := assignCurrents table.currentOnPmos tech.currentOnPmos
    currentOffNmos := assignCurrents table.currentOffNmos tech.currentOffNmos
    currentOffPmos := assignCurrents table.currentOffPmos tech.currentOffPmos }

/-- A capacitance of a junction under the supply voltage. -/
def junctionCap (pow : K → K → K) (capacitance grading vdd : K) : K :=
  capacitance / pow (1 + vdd / 0.9) grading

/-- The statements that both functions end with: the junction capacitances and the
saturation voltages. -/
def derive (pow : K → K → K) (tech : TechnologyObject K) : TechnologyObject K :=
  { tech with
    buildInPotential := 0.9
    capJunction := junctionCap pow 1e-3 0.5 tech.vdd
    capSidewall := junctionCap pow 2.5e-10 0.33 tech.vdd
    capDrainToChannel := junctionCap pow 0.5e-10 0.33 tech.vdd
    vdsatNmos := tech.phyGateLength * 1e5 / tech.effectiveElectronMobility
    vdsatPmos := tech.phyGateLength * 1e5 / tech.effectiveHoleMobility }

/-- The four loops at the end of `Initialize`. -/
def fill (tech : TechnologyObject K) : TechnologyObject K :=
  { tech with
    currentOnNmos := fillCurrents tech.currentOnNmos
    currentOnPmos := fillCurrents tech.currentOnPmos
    currentOffNmos := fillCurrents tech.currentOffNmos
    currentOffPmos := fillCurrents tech.currentOffPmos }

/-- `Technology::Initialize`. -/
def initializeTechnology (tables : TechnologyTables K) (pow : K → K → K) (tech : TechnologyObject K)
    (featureSizeInNano : ℤ) (deviceRoadmap : DeviceRoadmap) : TechnologyObject K :=
  let tech : TechnologyObject K := { tech with
    featureSizeInNano := featureSizeInNano
    featureSize := (featureSizeInNano : K) * 1e-9
    deviceRoadmap := deviceRoadmap }
  let tech := match TableNode.of featureSizeInNano with
    | some node => tech.assign (tables node deviceRoadmap)
    | none => tech
  let tech := { tech with capOverlap := tech.capIdealGate * 0.2 }
  let tech := { tech.derive pow with capPolywire := 0 }
  { tech.fill with initialized := true }

/-- `Technology::InterpolateWith`.  The overlap capacitance is neither blended nor derived
again. -/
def interpolateWith (pow : K → K → K) (tech rhs : TechnologyObject K) (alpha : K) :
    TechnologyObject K :=
  if tech.featureSizeInNano ≠ rhs.featureSizeInNano then
    derive pow { tech with
      vdd := (1 - alpha) * tech.vdd + alpha * rhs.vdd
      vth := (1 - alpha) * tech.vth + alpha * rhs.vth
      phyGateLength := (1 - alpha) * tech.phyGateLength + alpha * rhs.phyGateLength
      capIdealGate := (1 - alpha) * tech.capIdealGate + alpha * rhs.capIdealGate
      capFringe := (1 - alpha) * tech.capFringe + alpha * rhs.capFringe
      capJunction := (1 - alpha) * tech.capJunction + alpha * rhs.capJunction
      capOx := (1 - alpha) * tech.capOx + alpha * rhs.capOx
      effectiveElectronMobility :=
        (1 - alpha) * tech.effectiveElectronMobility + alpha * rhs.effectiveElectronMobility
      effectiveHoleMobility :=
        (1 - alpha) * tech.effectiveHoleMobility + alpha * rhs.effectiveHoleMobility
      pnSizeRatio := (1 - alpha) * tech.pnSizeRatio + alpha * rhs.pnSizeRatio
      effectiveResistanceMultiplier :=
        (1 - alpha) * tech.effectiveResistanceMultiplier +
          alpha * rhs.effectiveResistanceMultiplier
      currentOnNmos := fun i => (1 - alpha) * tech.currentOnNmos i + alpha * rhs.currentOnNmos i
      currentOnPmos := fun i => (1 - alpha) * tech.currentOnPmos i + alpha * rhs.currentOnPmos i
      currentOffNmos := fun i =>
        pow (tech.currentOffNmos i) (1 - alpha) * pow (rhs.currentOffNmos i) alpha
      currentOffPmos := fun i =>
        pow (tech.currentOffPmos i) (1 - alpha) * pow (rhs.currentOffPmos i) alpha }
  else tech

end TechnologyObject

/-- The node of `techHigh` in `main` and the weight `alpha`, for the process nodes that are
interpolated. -/
def techHighNode (processNode : ℤ) : Option (ℤ × K) :=
  if processNode > 200 then none
  else if processNode > 120 then some (200, (processNode - 120) / 60)
  else if processNode > 90 then some (120, (processNode - 90) / 30)
  else if processNode > 65 then some (90, (processNode - 65) / 25)
  else if processNode > 45 then some (65, (processNode - 45) / 20)
  else if processNode ≥ 32 then some (45, (processNode - 32) / 13)
  else if processNode ≥ 22 then some (32, (processNode - 22) / 10)
  else none

/-- `techHigh` and `alpha` in `main`.  Outside of the tables `techHigh` stays as it was
constructed. -/
def techHighOf (tables : TechnologyTables K) (pow : K → K → K) (memoryHigh : TechnologyObject K)
    (processNode : ℤ) (deviceRoadmap : DeviceRoadmap) : TechnologyObject K × K :=
  match techHighNode processNode with
  | some (node, alpha) => (memoryHigh.initializeTechnology tables pow node deviceRoadmap, alpha)
  | none => (memoryHigh, 0)

/-- The technology of `main`, over the memory of both objects. -/
def mainTechnology (tables : TechnologyTables K) (pow : K → K → K)
    (memory memoryHigh : TechnologyObject K) (processNode : ℤ) (deviceRoadmap : DeviceRoadmap) :
    TechnologyObject K :=
  let tech := memory.initializeTechnology tables pow processNode deviceRoadmap
  let techHigh := techHighOf tables pow memoryHigh processNode deviceRoadmap
  tech.interpolateWith pow techHigh.1 techHigh.2

end NVSim
