import Mathlib.Algebra.Order.Floor.Ring
import NVSim.Library.CheckedArray
import NVSim.Model.Circuit

/-!
# Inverter chains

`OutputDriver` with the chain of inverters that it sizes.  The widths and the capacitances
of the stages are in arrays of a fixed length; an access out of range ends a function.
`pow` is the function of the C library.
-/

namespace NVSim

open Library

/-- `MAX_INV_CHAIN_LEN`. -/
def maxInvChainLen : ℕ := 20

/-- `OPT_F`. -/
def optF {K : Type} [Field K] : K := 4

/-- All fields of an output driver. -/
structure InverterChain (K : Type) extends OutputDriver K, FunctionUnit K where
  numStage : ℤ
  widthNMOS : CheckedArray K maxInvChainLen
  widthPMOS : CheckedArray K maxInvChainLen
  capInput : CheckedArray K maxInvChainLen
  capOutput : CheckedArray K maxInvChainLen
  rampInput : K
  rampOutput : K

variable {K : Type} [Field K] [LinearOrder K]

/-! ## The number of stages -/

section Stages

variable [FloorRing K]

/-- The conversion of a number to `int`. -/
def truncateToInt (x : K) : ℤ := if 0 ≤ x then ⌊x⌋ else ⌈x⌉

/-- `(int)(log(F) / log(OPT_F) + 0.5)`. -/
def Globals.roundedLog (g : Globals K) (F : K) : ℤ :=
  truncateToInt (g.libm.log F / g.libm.log optF + 0.5)

/-- `(optimalNumStage % 2) ^ inv`. -/
def parityDiffers (optimalNumStage : ℤ) (inv : Bool) : Bool :=
  (optimalNumStage % 2 = 1) ^^ inv

/-- The check against the maximum length. -/
def limitStages (optimalNumStage : ℤ) : ℤ :=
  if optimalNumStage > maxInvChainLen then maxInvChainLen else optimalNumStage

/-- `optimalNumStage` of the latency first style: the length of the chain. -/
def Globals.latencyFirstStages (g : Globals K) (inv : Bool) (F : K) : ℤ :=
  let optimalNumStage := max 0 (g.roundedLog F - 1)
  limitStages
    (if parityDiffers optimalNumStage inv then optimalNumStage + 1 else optimalNumStage)

/-- `optimalNumStage` of the area trade-off style: the last index of the chain. -/
def Globals.tradeOffStages (g : Globals K) (inv : Bool) (F : K) : ℤ :=
  let optimalNumStage := max 0 (g.roundedLog F - 1)
  limitStages
    (if !parityDiffers optimalNumStage inv then optimalNumStage + 1 else optimalNumStage)

end Stages

namespace InverterChain

variable (g : Globals K) (pow : K → K → K) (chain : InverterChain K)

/-! ## Sizing -/

/-- The body of the loops over the stages before the last. -/
def sizeStage (f : K) (i : ℕ) (chain : InverterChain K) : Except IndexError (InverterChain K) := do
  let next ← chain.widthNMOS.read (i + 1)
  let width := if next / f < g.minNmosWidth then g.minNmosWidth else next / f
  let widthNMOS ← chain.widthNMOS.write i width
  let widthPMOS ← chain.widthPMOS.write i (width * g.tech.pnSizeRatio)
  .ok { chain with widthNMOS := widthNMOS, widthPMOS := widthPMOS }

/-- The last stage, and the stages before it for an effort of `f` per stage. -/
def sizeStages (last : ℤ) (width f : K) (chain : InverterChain K) :
    Except IndexError (InverterChain K) := do
  let widthPMOS ← chain.widthPMOS.write last (width * g.tech.pnSizeRatio)
  countDown (sizeStage g f) last.toNat { chain with widthPMOS := widthPMOS }

variable [FloorRing K]

/-- The total logic effort of the latency first style. -/
def latencyFirstEffort : K := max 1 (chain.logicEffort * chain.outputCap / chain.inputCap)

/-- The width of the last stage by its logic effort, and the effort per stage. -/
def effortWidth : K × K :=
  let F := chain.latencyFirstEffort
  let optimalNumStage := g.latencyFirstStages chain.inv F
  let f := pow F (1 / (optimalNumStage + 1))
  let inputCapLast := chain.outputCap / f
  (max g.minNmosWidth (inputCapLast / g.tech.gateCap 1 / (1 + g.tech.pnSizeRatio)), f)

/-- The same within the maximum size: the effort is computed anew if that is exceeded. -/
def limitedEffortWidth : K × K :=
  let optimalNumStage := g.latencyFirstStages chain.inv chain.latencyFirstEffort
  let sized := chain.effortWidth g pow
  if sized.1 > g.maxNmosWidth then
    let capLastStage := g.tech.gateCap ((1 + g.tech.pnSizeRatio) * g.maxNmosWidth)
    let F := chain.logicEffort * capLastStage / chain.inputCap
    (g.maxNmosWidth, pow F (1 / optimalNumStage))
  else sized

/-- The latency first style.  The style that it leaves is the area trade-off if the last
stage can not provide the minimum current. -/
def sizeLatencyFirst (minNMOSDriverWidth : K) :
    Except IndexError (InverterChain K × BufferDesignTarget) := do
  let optimalNumStage := g.latencyFirstStages chain.inv chain.latencyFirstEffort
  let sized := chain.limitedEffortWidth g pow
  let widthNMOS ← chain.widthNMOS.write (optimalNumStage - 1) sized.1
  let chain := { chain with numStage := optimalNumStage, widthNMOS := widthNMOS }
  if sized.1 < minNMOSDriverWidth then .ok (chain, .latencyAreaTradeOff)
  else do
    let chain ← chain.sizeStages g (optimalNumStage - 1) sized.1 sized.2
    .ok (chain, .latencyFirst)

/-- The total logic effort of the area trade-off style. -/
def tradeOffEffort (minNMOSDriverWidth : K) : K :=
  let newOutputCap := g.tech.gateCap minNMOSDriverWidth * (1 + g.tech.pnSizeRatio)
  max 1 (chain.logicEffort * newOutputCap / chain.inputCap)

/-- The area trade-off style. -/
def sizeTradeOff (minNMOSDriverWidth : K) : Except IndexError (InverterChain K) := do
  let F := chain.tradeOffEffort g minNMOSDriverWidth
  let optimalNumStage := g.tradeOffStages chain.inv F
  let widthNMOS ← chain.widthNMOS.write optimalNumStage minNMOSDriverWidth
  let chain := { chain with numStage := optimalNumStage + 1, widthNMOS := widthNMOS }
  let f := pow F (1 / (optimalNumStage + 1))
  chain.sizeStages g optimalNumStage minNMOSDriverWidth f

/-- The area first style: a single stage, and the end of `Initialize`. -/
def sizeAreaFirst (minNMOSDriverWidth : K) : Except IndexError (InverterChain K) := do
  let optimalNumStage := 1
  let width := max g.minNmosWidth minNMOSDriverWidth
  let widthNMOS ← chain.widthNMOS.write (optimalNumStage - 1) width
  let chain := { chain with numStage := 1, widthNMOS := widthNMOS }
  if width > areaOptConstrain * g.maxNmosWidth then .ok { chain with invalid := true }
  else do
    let widthPMOS ← chain.widthPMOS.write (optimalNumStage - 1) (width * g.tech.pnSizeRatio)
    .ok { chain with widthPMOS := widthPMOS, initialized := true }

/-- The object with the arguments of `Initialize` stored. -/
def storeArguments (logicEffort inputCap outputCap outputRes : K) (inv : Bool)
    (areaOptimizationLevel : BufferDesignTarget) (minDriverCurrent : K) : InverterChain K :=
  { chain with
    logicEffort := logicEffort
    inputCap := inputCap
    outputCap := outputCap
    outputRes := outputRes
    inv := inv
    areaOptimizationLevel := areaOptimizationLevel
    minDriverCurrent := minDriverCurrent }

/-- The first branch of `Initialize`: the latency first style, if it is asked for. -/
def tryLatencyFirst (minNMOSDriverWidth : K) :
    Except IndexError (InverterChain K × BufferDesignTarget) :=
  if chain.areaOptimizationLevel = .latencyFirst then
    chain.sizeLatencyFirst g pow minNMOSDriverWidth
  else .ok (chain, chain.areaOptimizationLevel)

/-- The other branches of `Initialize`, by the style that is left, and its end. -/
def finish (minNMOSDriverWidth : K) (sized : InverterChain K × BufferDesignTarget) :
    Except IndexError (InverterChain K) :=
  match sized.2 with
  | .latencyFirst => .ok { sized.1 with initialized := true }
  | .latencyAreaTradeOff => do
      let chain ← sized.1.sizeTradeOff g pow minNMOSDriverWidth
      .ok { chain with initialized := true }
  | .areaFirst => sized.1.sizeAreaFirst g minNMOSDriverWidth

/-- The width that the minimum current asks for. -/
def minNMOSDriverWidth : K := g.driverWidth chain.minDriverCurrent

/-- `Initialize` after the arguments are stored. -/
def sizeChain : Except IndexError (InverterChain K) :=
  if chain.minNMOSDriverWidth g > g.maxNmosWidth then .ok { chain with invalid := true }
  else
    chain.tryLatencyFirst g pow (chain.minNMOSDriverWidth g) >>=
      finish g pow (chain.minNMOSDriverWidth g)

/-- `OutputDriver::Initialize`, of an object in any state. -/
def initializeInverterChain (logicEffort inputCap outputCap outputRes : K) (inv : Bool)
    (areaOptimizationLevel : BufferDesignTarget) (minDriverCurrent : K) :
    Except IndexError (InverterChain K) :=
  (chain.storeArguments logicEffort inputCap outputCap outputRes inv areaOptimizationLevel
    minDriverCurrent).sizeChain g pow

/-! ## Evaluation -/

/-- The functions that evaluate a chain do nothing to one that is not initialized. -/
def calculateArea : Except IndexError (InverterChain K) :=
  if !chain.initialized then .ok chain
  else if chain.invalid then
    .ok { chain with height := worstCase, width := worstCase, area := worstCase }
  else do
    let size ← countUp (fun i (size : K × K) => do
      let widthNMOS ← chain.widthNMOS.read i
      let widthPMOS ← chain.widthPMOS.read i
      let gate := g.tech.gateArea .inv 1 widthNMOS widthPMOS (g.tech.featureSize * 40)
      .ok (max size.1 gate.1, size.2 + gate.2)) chain.numStage.toNat (0, 0)
    .ok { chain with height := size.1, width := size.2, area := size.1 * size.2 }

/-- The capacitances of a stage. -/
def calculateStageRC (i : ℕ) (chain : InverterChain K) :
    Except IndexError (InverterChain K) := do
  let widthNMOS ← chain.widthNMOS.read i
  let widthPMOS ← chain.widthPMOS.read i
  let cap := g.tech.gateCapacitance .inv 1 widthNMOS widthPMOS
    (g.tech.featureSize * maxTransistorHeight)
  let capInput ← chain.capInput.write i cap.1
  let capOutput ← chain.capOutput.write i cap.2
  .ok { chain with capInput := capInput, capOutput := capOutput }

/-- `CalculateRC`. -/
def calculateRC : Except IndexError (InverterChain K) :=
  if !chain.initialized then .ok chain
  else if chain.invalid then .ok chain
  else if chain.numStage = 0 then do
    let capInput ← chain.capInput.write 0 0
    .ok { chain with capInput := capInput }
  else countUp (calculateStageRC g) chain.numStage.toNat chain

/-- The latency and the output ramp of a stage, with what loads it and the part of its time
constant that does not depend on it. -/
def stageLatency (widthNMOS capLoad trLoad rampInput : K) : K × K :=
  let resPullDown := g.tech.onResistance widthNMOS .nmos g.inputParameter.temperature
  let tr := resPullDown * capLoad + trLoad
  let gm := g.tech.transconductance widthNMOS .nmos
  let beta := 1 / (resPullDown * gm)
  g.horowitz tr beta rampInput

/-- `CalculateLatency`. -/
def calculateLatency (rampInput : K) : Except IndexError (InverterChain K) :=
  if !chain.initialized then .ok chain
  else if chain.invalid then
    .ok { chain with readLatency := worstCase, writeLatency := worstCase }
  else do
    -- the latency so far, and the input ramp of the next stage
    let inner ← countUp (fun i (sum : K × K) => do
      let widthNMOS ← chain.widthNMOS.read i
      let capOutput ← chain.capOutput.read i
      let capInput ← chain.capInput.read (i + 1)
      let stage := stageLatency g widthNMOS (capOutput + capInput) 0 sum.2
      .ok (sum.1 + stage.1, stage.2)) (chain.numStage - 1).toNat (0, rampInput)
    let widthNMOS ← chain.widthNMOS.read (chain.numStage - 1)
    let capOutput ← chain.capOutput.read (chain.numStage - 1)
    let last := stageLatency g widthNMOS (capOutput + chain.outputCap)
      (chain.outputCap * chain.outputRes / 2) inner.2
    .ok { chain with
      readLatency := inner.1 + last.1
      writeLatency := inner.1 + last.1
      rampInput := rampInput
      rampOutput := last.2 }

/-- `CalculatePower`. -/
def calculatePower : Except IndexError (InverterChain K) :=
  if !chain.initialized then .ok chain
  else if chain.invalid then
    .ok { chain with
      readDynamicEnergy := worstCase
      writeDynamicEnergy := worstCase
      leakage := worstCase }
  else do
    let leakage ← countUp (fun i (leakage : K) => do
      let widthNMOS ← chain.widthNMOS.read i
      let widthPMOS ← chain.widthPMOS.read i
      .ok (leakage + g.tech.gateLeakage .inv 1 widthNMOS widthPMOS g.inputParameter.temperature *
        g.tech.vdd)) chain.numStage.toNat 0
    let inner ← countUp (fun i (energy : K) => do
      let capOutput ← chain.capOutput.read i
      let capInput ← chain.capInput.read (i + 1)
      .ok (energy + (capOutput + capInput) * g.tech.vdd * g.tech.vdd))
      (chain.numStage - 1).toNat 0
    let capOutput ← chain.capOutput.read (chain.numStage - 1)
    let energy := inner + (capOutput + chain.outputCap) * g.tech.vdd * g.tech.vdd
    .ok { chain with
      leakage := leakage
      readDynamicEnergy := energy
      writeDynamicEnergy := energy }

/-- The functions that evaluate a chain, in the order in which its owner calls them. -/
def evaluate (rampInput : K) : Except IndexError (InverterChain K) := do
  let chain ← chain.calculateArea g
  let chain ← chain.calculateRC g
  let chain ← chain.calculateLatency g rampInput
  chain.calculatePower g

/-! ## The drivers of the circuits -/

/-- An output driver after its constructor. -/
def cleared : InverterChain K where
  toOutputDriver :=
    { initialized := false
      invalid := false
      logicEffort := 0
      inputCap := 0
      outputCap := 0
      outputRes := 0
      inv := false
      areaOptimizationLevel := .latencyFirst
      minDriverCurrent := 0 }
  toFunctionUnit := .fresh
  numStage := 0
  widthNMOS := fun _ => 0
  widthPMOS := fun _ => 0
  capInput := fun _ => 0
  capOutput := fun _ => 0
  rampInput := 0
  rampOutput := 0

/-- The chain of a driver, for the arguments that it stored. -/
def ofDriver (d : OutputDriver K) : Except IndexError (InverterChain K) :=
  cleared.initializeInverterChain g pow d.logicEffort d.inputCap d.outputCap d.outputRes d.inv
    d.areaOptimizationLevel d.minDriverCurrent

end InverterChain

/-- The functions of the output drivers that their chains compute, zero where one of them
accesses an array out of range. -/
def DriverModels.ofChains [FloorRing K] (g : Globals K) (pow : K → K → K) : DriverModels K :=
  let loaded (d : OutputDriver K) := InverterChain.ofDriver g pow d >>= (·.calculateRC g)
  { capInput := fun d => (loaded d >>= (·.capInput.read 0)).toOption.getD 0
    capOutput := fun d => (loaded d >>= (·.capOutput.read 0)).toOption.getD 0
    area := fun d => ((InverterChain.ofDriver g pow d >>= (·.calculateArea g)).map
      fun chain => (chain.height, chain.width)).toOption.getD (0, 0)
    latency := fun d rampInput => ((loaded d >>= (·.calculateLatency g rampInput)).map
      fun chain => (chain.readLatency, chain.rampOutput)).toOption.getD (0, 0)
    power := fun d => ((loaded d >>= (·.calculatePower g)).map
      fun chain => (chain.leakage, chain.readDynamicEnergy)).toOption.getD (0, 0) }

end NVSim
