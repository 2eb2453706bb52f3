import NVSim.Model.Periphery

/-!
# Low-swing wires

The branch of `Wire::CalculateLatencyAndPower` for a low-swing wire without repeaters: a NAND
gate and an inverter drive the transmitter, and a sense amplifier at the other end of the
wire receives.  The amplifier is an object whose measures are computed by functions of its
own; `CalculateRC` is the only one of them that the wire calls.
-/

namespace NVSim

variable {K : Type} [Field K] [LinearOrder K]

/-- `RES_ADJ`. -/
def resAdj : K := 8.6

/-- `VOL_SWING`. -/
def volSwing : K := 0.1

/-- `MAX_NMOS_SIZE`. -/
def maxNmosSizeConstant : K := 100

/-! ## The sense amplifier as an object -/

/-- A `SenseAmp` with its measures; `capLoad` is what `CalculateRC` leaves there. -/
structure SenseAmpObject (K : Type) extends FunctionUnit K where
  part : SenseAmp K
  capLoad : K

namespace SenseAmpObject

variable (g : Globals K) (s : SenseAmpObject K)

/-- An amplifier after its `Initialize`; the constructor of `FunctionUnit` cleared its
measures, and `capLoad` is what the memory held. -/
def initialized (part : SenseAmp K) (memory : K) : SenseAmpObject K where
  toFunctionUnit := .fresh
  part := part
  capLoad := memory

/-- `SenseAmp::CalculateRC`. -/
def calculateRC : SenseAmpObject K :=
  if s.part.invalid then { s with readLatency := 1e41, writeLatency := 1e41 }
  else { s with capLoad := s.part.capLoad g }

/-- `SenseAmp::CalculateLatency` of a voltage sense amplifier. -/
def calculateLatency : SenseAmpObject K :=
  let gm := g.tech.transconductance (widthSenseN * g.tech.featureSize) .nmos +
    g.tech.transconductance (widthSenseP * g.tech.featureSize) .pmos
  let tau := s.capLoad / gm
  { s with
    readLatency := tau * g.libm.log (g.tech.vdd / s.part.senseVoltage)
    writeLatency := 0 }

/-- `SenseAmp::CalculatePower` of a voltage sense amplifier. -/
def calculatePower : SenseAmpObject K :=
  if s.part.invalid then
    { s with readDynamicEnergy := 1e41, writeDynamicEnergy := 1e41, leakage := 1e41 }
  else
    let idleCurrent := g.tech.gateLeakage .inv 1 (widthSenseEn * g.tech.featureSize) 0
      g.inputParameter.temperature * g.tech.vdd
    { s with
      readDynamicEnergy := s.capLoad * g.tech.vdd * g.tech.vdd * s.part.numColumn
      writeDynamicEnergy := 0
      leakage := idleCurrent * g.tech.vdd * s.part.numColumn }

end SenseAmpObject

/-! ## The link -/

/-- `*delay`, `*dynamicEnergy` and `*leakagePower`. -/
structure LinkMeasures (K : Type) where
  delay : K
  dynamicEnergy : K
  leakagePower : K
deriving DecidableEq, Repr

namespace LowSwing

variable (g : Globals K) (wire : Wire) (wireLength : K)

/-- `widthNmos`. -/
def widthNmos : K := minNmosSize * g.tech.featureSize

/-- `widthPmos`. -/
def widthPmos : K := widthNmos g * g.tech.pnSizeRatio

/-- `rampInput` of the NAND gate, `delayFO4`, and `resPullDown` and `gm` of the smallest
NMOS. -/
def reference : K × K × K × K :=
  let (capInput, capOutput) := g.tech.gateCapacitance .inv 1 (widthNmos g) (widthPmos g)
    (g.tech.featureSize * maxTransistorHeight)
  let capLoad := capInput + capOutput
  let resPullUp := g.tech.onResistance (widthPmos g) .pmos g.inputParameter.temperature
  let gm := g.tech.transconductance (widthPmos g) .pmos
  let riseTime := (g.horowitz (resPullUp * capLoad) (1 / (resPullUp * gm)) 1e20).2
  let resPullDown := g.tech.onResistance (widthNmos g) .nmos g.inputParameter.temperature
  let gm := g.tech.transconductance (widthNmos g) .nmos
  let beta := 1 / (resPullDown * gm)
  let fallTime := (g.horowitz (resPullDown * capLoad) beta riseTime).2
  let delayFO4 := (g.horowitz (resPullDown * (capOutput + 4 * capInput)) beta 1e20).1
  (fallTime, delayFO4, resPullDown, gm)

/-- `widthNmosDriver`. -/
def widthNmosDriver : K :=
  let (_, delayFO4, resPullDown, _) := reference g
  let capWire := g.capWirePerUnit wire * wireLength
  let resWire := g.resWirePerUnit wire * wireLength
  let resDriver := -8 * delayFO4 / (g.libm.log 0.5 * capWire) / resAdj
  let width := min (resPullDown * widthNmos g / resDriver)
    (maxNmosSizeConstant * g.tech.featureSize)
  if resWire * capWire > 8 * delayFO4 then g.inputParameter.maxNmosSize * g.tech.featureSize
  else max width (minNmosSize * g.tech.featureSize)

/-- `capGateDriver`. -/
def capGateDriver : K :=
  (g.tech.gateCapacitance .inv 1 (widthNmosDriver g wire wireLength) 0
    (g.tech.featureSize * 40)).1

/-- `sizeInverter`: the inverter is sized by the logical effort. -/
def sizeInverter : K :=
  let capGateDriver := capGateDriver g wire wireLength
  let capInput := (g.tech.gateCapacitance .inv 1 (2 * widthNmos g) (2 * widthPmos g)
    (g.tech.featureSize * 40)).1
  let ratio := (2 + g.tech.pnSizeRatio) / (1 + g.tech.pnSizeRatio)
  let stageEffort := g.libm.sqrt (ratio * capGateDriver / capInput)
  let reqCin := ratio * capGateDriver / stageEffort
  let capInput := (g.tech.gateCapacitance .inv 1 (widthNmos g) (widthPmos g)
    (g.tech.featureSize * 40)).1
  max (reqCin / capInput) 1

/-- The NAND gate and the inverter: their measures, and the input ramp of the transmitter. -/
def gates : LinkMeasures K × K :=
  let (rampInput, _, resPullDown, gm) := reference g
  let size := sizeInverter g wire wireLength
  let vdd := g.tech.vdd
  -- the NAND gate
  let capNandOutput := (g.tech.gateCapacitance .nand 2 (2 * widthNmos g) (widthPmos g)
    (g.tech.featureSize * 40)).2
  let (capInput, capOutput) := g.tech.gateCapacitance .inv 1 (size * widthNmos g)
    (size * widthPmos g) (g.tech.featureSize * 40)
  let resPullDown := resPullDown * 2
  let capLoad := capNandOutput + capInput
  let (delayNand, ramp) := g.horowitz (resPullDown * capLoad) (1 / (resPullDown * gm)) rampInput
  let energyNand := capLoad * vdd * vdd
  -- the inverter; its transconductance is that of the smallest NMOS
  let resPullDown := g.tech.onResistance (size * widthNmos g) .nmos g.inputParameter.temperature
  let capLoad := capOutput + capGateDriver g wire wireLength
  let (delayInv, ramp) := g.horowitz (resPullDown * capLoad) (1 / (resPullDown * gm)) ramp
  let leakageInv := 2 * vdd * g.tech.gateLeakage .inv 1 (size * widthNmos g) (size * widthPmos g)
    g.inputParameter.temperature
  let leakageNand := 2 * vdd * g.tech.gateLeakage .nand 2 (2 * widthNmos g) (widthPmos g)
    g.inputParameter.temperature
  ({ delay := delayNand + delayInv
     dynamicEnergy := energyNand + capLoad * vdd * vdd
     leakagePower := (leakageInv + leakageNand) * 2 }, ramp)

/-- The receiver as the wire uses it: initialised, and with its capacitance. -/
def receiver (memory : K) : SenseAmpObject K :=
  (SenseAmpObject.initialized (initializeSenseAmp g 1 false g.cell.minSenseVoltage 1)
    memory).calculateRC g

/-- The transmitter and the wire: the measures before those of the amplifier are added. -/
def transmitter (memory : K) : LinkMeasures K :=
  let (gates, rampInput) := gates g wire wireLength
  let senseAmp := receiver g memory
  let width := widthNmosDriver g wire wireLength
  let capWire := g.capWirePerUnit wire * wireLength
  let resWire := g.resWirePerUnit wire * wireLength
  let drainCapDriver := g.tech.drainCap width .nmos (g.tech.featureSize * 40)
  let capLoad := capWire + drainCapDriver * 2 + senseAmp.capLoad
  let resPullDown := g.tech.onResistance width .nmos g.inputParameter.temperature
  let gm := g.tech.transconductance width .nmos
  let tr := resPullDown * resAdj * (capWire + drainCapDriver * 2) + capWire * resWire / 2 +
    (resPullDown + resWire) * senseAmp.capLoad
  { delay := gates.delay + (g.horowitz tr (1 / (resPullDown * gm)) rampInput).1
    -- 0.4 V is the over drive voltage
    dynamicEnergy := (gates.dynamicEnergy + capLoad * volSwing * 0.4) * 2
    leakagePower := gates.leakagePower +
      4 * g.tech.vdd * g.tech.gateLeakage .inv 1 width 0 g.inputParameter.temperature }

/-- What `CalculateLatencyAndPower` returns for the link. -/
def calculateLatencyAndPower (memory : K) : LinkMeasures K :=
  let transmitter := transmitter g wire wireLength memory
  let senseAmp := receiver g memory
  { delay := transmitter.delay + senseAmp.readLatency
    dynamicEnergy := transmitter.dynamicEnergy + senseAmp.readDynamicEnergy
    leakagePower := transmitter.leakagePower + senseAmp.leakage }

end LowSwing

end NVSim
