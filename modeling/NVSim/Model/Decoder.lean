import NVSim.Model.Circuit

/-!
# Decoders

`BasicDecoder` and `RowDecoder`: a row of NAND gates, each with an output driver.  The
capacitances that `CalculateRC` stores are functions of the stored parameters; a decoder
without gates has none.
-/

namespace NVSim

variable {K : Type} [Field K] [LinearOrder K]

namespace Globals

/-- The width of the NMOS transistor of a NAND gate. -/
def widthNandN (g : Globals K) (numNandInput : ℕ) : K :=
  if numNandInput = 2 then 2 * minNmosSize * g.tech.featureSize
  else 3 * minNmosSize * g.tech.featureSize

/-- The width of the PMOS transistor of a NAND gate or of an inverter. -/
def widthNandP (g : Globals K) : K := g.tech.pnSizeRatio * minNmosSize * g.tech.featureSize

/-- The logic effort of a NAND gate. -/
def logicEffortNand (g : Globals K) (numNandInput : ℕ) : K :=
  if numNandInput = 2 then (2 + g.tech.pnSizeRatio) / (1 + g.tech.pnSizeRatio)
  else (3 + g.tech.pnSizeRatio) / (1 + g.tech.pnSizeRatio)

/-- The output driver behind a NAND gate, or behind an inverter if there is no gate. -/
def gateDriver (g : Globals K) (numNandInput : ℕ) (widthNandN capLoad resLoad : K)
    (areaOptimizationLevel : BufferDesignTarget) (minDriverCurrent : K) : OutputDriver K :=
  initializeOutputDriver g (if numNandInput > 0 then g.logicEffortNand numNandInput else 1)
    (g.tech.gateCap widthNandN + g.tech.gateCap g.widthNandP) capLoad resLoad true
    areaOptimizationLevel minDriverCurrent

/-- The capacitances at the input and at the output of a NAND gate. -/
def nandCapacitance (g : Globals K) (numNandInput : ℕ) (widthNandN widthNandP : K) : K × K :=
  g.tech.gateCapacitance .nand numNandInput widthNandN widthNandP
    (g.tech.featureSize * maxTransistorHeight)

/-- The latency of a NAND gate and of the output driver behind it. -/
def nandLatency (g : Globals K) (numNandInput : ℕ) (widthNandN capNandOutput : K)
    (outputDriver : OutputDriver K) (rampInput : K) : K × K :=
  let resPullDown :=
    g.tech.onResistance widthNandN .nmos g.inputParameter.temperature * numNandInput
  let capLoad := capNandOutput + g.driver.capInput outputDriver
  let tr := resPullDown * capLoad
  let gm := g.tech.transconductance widthNandN .nmos
  let beta := 1 / (resPullDown * gm)
  let gate := g.horowitz tr beta rampInput
  let driver := g.driver.latency outputDriver gate.2
  (gate.1 + driver.1, driver.2)

end Globals

/-! ## Basic decoders -/

/-- A decoder of one, two or three address bits. -/
structure BasicDecoder (K : Type) where
  initialized : Bool
  outputDriver : OutputDriver K
  capLoad : K
  resLoad : K
  numNandInput : ℕ
  numNandGate : ℕ
  widthNandN : K
  widthNandP : K
deriving DecidableEq, Repr

/-- `BasicDecoder::Initialize`.  The output driver's `invalid` flag is not looked at. -/
def initializeBasicDecoder (g : Globals K) (numAddressBit : ℕ) (capLoad resLoad : K) :
    BasicDecoder K :=
  let numNandInput := if numAddressBit = 1 then 0 else numAddressBit
  let widthNandN :=
    if numNandInput = 0 then g.minNmosWidth else g.widthNandN numNandInput
  { initialized := true
    outputDriver := g.gateDriver numNandInput widthNandN capLoad resLoad .latencyFirst 0
    capLoad := capLoad
    resLoad := resLoad
    numNandInput := numNandInput
    numNandGate := if numNandInput = 0 then 0 else if numNandInput = 2 then 4 else 8
    widthNandN := widthNandN
    widthNandP := g.widthNandP }

namespace BasicDecoder

def capNandOutput (g : Globals K) (d : BasicDecoder K) : K :=
  (g.nandCapacitance d.numNandInput d.widthNandN d.widthNandP).2

/-- The height and the width that `CalculateArea` computes. -/
def area (g : Globals K) (d : BasicDecoder K) : K × K :=
  let driver := g.driver.area d.outputDriver
  if d.numNandInput = 0 then (2 * driver.1, driver.2)
  else
    let nand := g.tech.gateArea .nand d.numNandInput d.widthNandN d.widthNandP
      (g.tech.featureSize * 40)
    (max nand.1 driver.1 * d.numNandGate, nand.2 + driver.2)

/-- The latency and the output ramp that `CalculateLatency` computes. -/
def latency (g : Globals K) (d : BasicDecoder K) (rampInput : K) : K × K :=
  if d.numNandInput = 0 then g.driver.latency d.outputDriver rampInput
  else g.nandLatency d.numNandInput d.widthNandN (d.capNandOutput g) d.outputDriver rampInput

/-- The leakage and the dynamic energy that `CalculatePower` computes. -/
def power (g : Globals K) (d : BasicDecoder K) : K × K :=
  let driver := g.driver.power d.outputDriver
  if d.numNandInput = 0 then
    let capLoad := g.driver.capInput d.outputDriver + g.driver.capOutput d.outputDriver
    (2 * driver.1, capLoad * g.tech.vdd * g.tech.vdd + driver.2)
  else
    let capLoad := d.capNandOutput g + g.driver.capInput d.outputDriver
    ((g.tech.gateLeakage .nand d.numNandInput d.widthNandN d.widthNandP
        g.inputParameter.temperature * g.tech.vdd + driver.1) * d.numNandGate,
      capLoad * g.tech.vdd * g.tech.vdd + driver.2)

end BasicDecoder

/-! ## Row decoders -/

/-- A decoder with one output driver for each of its rows. -/
structure RowDecoder (K : Type) where
  initialized : Bool
  invalid : Bool
  outputDriver : OutputDriver K
  numRow : ℕ
  capLoad : K
  resLoad : K
  multipleRowPerSet : Bool
  numNandInput : ℕ
  areaOptimizationLevel : BufferDesignTarget
  minDriverCurrent : K
  widthNandN : K
  widthNandP : K
deriving DecidableEq, Repr

/-- `RowDecoder::Initialize`. -/
def initializeRowDecoder (g : Globals K) (numRow : ℕ) (capLoad resLoad : K)
    (multipleRowPerSet : Bool) (areaOptimizationLevel : BufferDesignTarget)
    (minDriverCurrent : K) : RowDecoder K :=
  let numNandInput :=
    -- the predecoder output is used directly
    if numRow ≤ 8 then if multipleRowPerSet then 2 else 0
    else if multipleRowPerSet then 3 else 2
  let widthNandN :=
    if numNandInput > 0 then g.widthNandN numNandInput else g.minNmosWidth
  let outputDriver := g.gateDriver numNandInput widthNandN capLoad resLoad areaOptimizationLevel
    minDriverCurrent
  { initialized := !outputDriver.invalid
    invalid := outputDriver.invalid
    outputDriver := outputDriver
    numRow := numRow
    capLoad := capLoad
    resLoad := resLoad
    multipleRowPerSet := multipleRowPerSet
    numNandInput := numNandInput
    areaOptimizationLevel := areaOptimizationLevel
    minDriverCurrent := minDriverCurrent
    widthNandN := widthNandN
    widthNandP := g.widthNandP }

namespace RowDecoder

def capNandInput (g : Globals K) (d : RowDecoder K) : K :=
  if d.numNandInput = 0 then 0
  else (g.nandCapacitance d.numNandInput d.widthNandN d.widthNandP).1

def capNandOutput (g : Globals K) (d : RowDecoder K) : K :=
  if d.numNandInput = 0 then 0
  else (g.nandCapacitance d.numNandInput d.widthNandN d.widthNandP).2

/-- The height and the width that `CalculateArea` computes. -/
def area (g : Globals K) (d : RowDecoder K) : K × K :=
  let driver := g.driver.area d.outputDriver
  if d.numNandInput = 0 then (driver.1 * d.numRow, driver.2)
  else
    let nand := g.tech.gateArea .nand d.numNandInput d.widthNandN d.widthNandP
      (g.tech.featureSize * 40)
    (max nand.1 driver.1 * d.numRow, nand.2 + driver.2)

/-- The latency and the output ramp that `CalculateLatency` computes. -/
def latency (g : Globals K) (d : RowDecoder K) (rampInput : K) : K × K :=
  if d.numNandInput = 0 then g.driver.latency d.outputDriver rampInput
  else g.nandLatency d.numNandInput d.widthNandN (d.capNandOutput g) d.outputDriver rampInput

/-- The leakage and the dynamic energy that `CalculatePower` computes. -/
def power (g : Globals K) (d : RowDecoder K) : K × K :=
  let driver := g.driver.power d.outputDriver
  if d.numNandInput = 0 then (driver.1 * d.numRow, driver.2)
  else
    let capLoad := d.capNandOutput g + g.driver.capInput d.outputDriver
    ((driver.1 + g.tech.gateLeakage .nand d.numNandInput d.widthNandN d.widthNandP
        g.inputParameter.temperature * g.tech.vdd) * d.numRow,
      capLoad * g.tech.vdd * g.tech.vdd + driver.2)

end RowDecoder

/-! ## Models of the decoders -/

/-- What the functions of the decoders compute: heights and widths, latencies and output
ramps for an input ramp, leakages and dynamic energies. -/
structure DecoderModels (K : Type) where
  basicArea : BasicDecoder K → K × K
  rowArea : RowDecoder K → K × K
  basicLatency : BasicDecoder K → K → K × K
  rowLatency : RowDecoder K → K → K × K
  basicPower : BasicDecoder K → K × K
  rowPower : RowDecoder K → K × K

/-- The models of `BasicDecoder.cpp` and `RowDecoder.cpp`. -/
def Globals.decoders (g : Globals K) : DecoderModels K where
  basicArea := BasicDecoder.area g
  rowArea := RowDecoder.area g
  basicLatency := BasicDecoder.latency g
  rowLatency := RowDecoder.latency g
  basicPower := BasicDecoder.power g
  rowPower := RowDecoder.power g

end NVSim
