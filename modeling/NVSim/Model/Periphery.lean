import NVSim.Model.Circuit

/-!
# The column circuits of a subarray

`Precharger`, `Mux` and `SenseAmp`.  The records hold what `Initialize` stores; what it
and `CalculateRC` derive from that are functions of the records.
-/

namespace NVSim

section Constants

variable {K : Type} [Field K]

/-- `IR_DROP_TOLERANCE`. -/
def irDropTolerance : K := 0.2

/-- `W_SENSE_P`. -/
def widthSenseP : K := 7.5

/-- `W_SENSE_N`. -/
def widthSenseN : K := 3.75

/-- `W_SENSE_ISO`. -/
def widthSenseIso : K := 12.5

/-- `W_SENSE_EN`. -/
def widthSenseEn : K := 5

/-- `W_SENSE_MUX`. -/
def widthSenseMux : K := 9

/-- `IV_CONVERTER_AREA`. -/
def ivConverterArea : K := 50000

/-- `MIN_GAP_BET_SAME_TYPE_DIFFS`. -/
def minGapBetSameTypeDiffs : K := 1.5

/-- `MIN_GAP_BET_P_AND_N_DIFFS`. -/
def minGapBetPAndNDiffs : K := 2

end Constants

variable {K : Type} [Field K] [LinearOrder K]

/-! ## The precharger -/

/-- The arguments of `Precharger::Initialize`, and its output driver. -/
structure Precharger (K : Type) where
  initialized : Bool
  voltagePrecharge : K
  numColumn : ℕ
  capBitline : K
  resBitline : K
  outputDriver : OutputDriver K
deriving DecidableEq, Repr

namespace Globals

variable (g : Globals K)

/-- The height of the transistor regions of the column circuits. -/
def regionHeight : K := g.tech.featureSize * 40

/-- `widthInvPmos`. -/
def widthInvPmos : K := g.minNmosWidth * g.tech.pnSizeRatio

/-- `widthPMOSBitlinePrecharger`. -/
def widthPMOSBitlinePrecharger : K := 6 * g.tech.featureSize

/-- `capInputInv`. -/
def capInputInv : K := g.tech.gateCap g.minNmosWidth + g.tech.gateCap g.widthInvPmos

/-- `capLoadPerColumn` of the precharger. -/
def capLoadPerColumn : K :=
  g.capInputInv + g.cell.widthInFeatureSize * g.tech.featureSize * g.capWirePerUnit g.localWire

/-- `capLoadInv` of the precharger. -/
def capLoadInv : K :=
  g.tech.gateCap g.minNmosWidth + 2 * g.tech.gateCap g.widthPMOSBitlinePrecharger +
    g.tech.drainCap g.minNmosWidth .nmos g.regionHeight +
    g.tech.drainCap g.widthInvPmos .pmos g.regionHeight

/-- `capOutputBitlinePrecharger`. -/
def capOutputBitlinePrecharger : K :=
  g.tech.drainCap g.widthPMOSBitlinePrecharger .pmos g.regionHeight +
    g.tech.drainCap g.minNmosWidth .pmos g.regionHeight

end Globals

/-- `Precharger::Initialize`.  The output driver's `invalid` flag is not looked at. -/
def initializePrecharger (g : Globals K) (voltagePrecharge : K) (numColumn : ℕ)
    (capBitline resBitline : K) : Precharger K where
  initialized := true
  voltagePrecharge := voltagePrecharge
  numColumn := numColumn
  capBitline := capBitline
  resBitline := resBitline
  outputDriver := initializeOutputDriver g 1 g.capInputInv (numColumn * g.capLoadPerColumn) 0 true
    .latencyFirst 0

namespace Precharger

variable (g : Globals K) (p : Precharger K)

/-- The height and the width that `CalculateArea` computes. -/
def area : K × K :=
  let driver := g.driver.area p.outputDriver
  let bitlinePrecharger := g.tech.gateArea .inv 1 0 g.widthPMOSBitlinePrecharger g.regionHeight
  let bitlineEqual := g.tech.gateArea .inv 1 0 g.minNmosWidth g.regionHeight
  let inverter := g.tech.gateArea .inv 1 g.minNmosWidth g.widthInvPmos g.regionHeight
  (max (max bitlinePrecharger.1 bitlineEqual.1 + inverter.1) driver.1,
    max (max (2 * bitlinePrecharger.2 + bitlineEqual.2) inverter.2 * p.numColumn) driver.2)

/-- The latency and the output ramp that `CalculateLatency` computes. -/
def latency (rampInput : K) : K × K :=
  let driver := g.driver.latency p.outputDriver rampInput
  let resPullDown := g.tech.onResistance g.minNmosWidth .nmos g.inputParameter.temperature
  let enable := g.horowitz (resPullDown * g.capLoadInv)
    (1 / (resPullDown * g.tech.transconductance g.minNmosWidth .nmos)) driver.2
  let resPullUp :=
    g.tech.onResistance g.widthPMOSBitlinePrecharger .pmos g.inputParameter.temperature
  g.horowitz
    (resPullUp * (p.capBitline + g.capOutputBitlinePrecharger) + p.resBitline * p.capBitline / 2)
    (1 / (resPullUp * g.tech.transconductance g.widthPMOSBitlinePrecharger .pmos)) enable.2

/-- The leakage and the read energy that `CalculatePower` computes; the write energy is
zero. -/
def power : K × K :=
  let driver := g.driver.power p.outputDriver
  (driver.1 +
      p.numColumn * g.tech.vdd *
        g.tech.gateLeakage .inv 1 g.minNmosWidth g.widthInvPmos g.inputParameter.temperature +
      p.numColumn * p.voltagePrecharge *
        g.tech.gateLeakage .inv 1 0 g.widthPMOSBitlinePrecharger g.inputParameter.temperature,
    driver.2 + g.capLoadInv * g.tech.vdd * g.tech.vdd * p.numColumn)

end Precharger

/-! ## Multiplexers -/

/-- The arguments of `Mux::Initialize`. -/
structure Mux (K : Type) where
  initialized : Bool
  numInput : ℕ
  numMux : ℕ
  capLoad : K
  capInputNextStage : K
  minDriverCurrent : K
deriving DecidableEq, Repr

/-- `Mux::Initialize`. -/
def initializeMux (numInput numMux : ℕ) (capLoad capInputNextStage minDriverCurrent : K) :
    Mux K where
  initialized := true
  numInput := numInput
  numMux := numMux
  capLoad := capLoad
  capInputNextStage := capInputNextStage
  minDriverCurrent := minDriverCurrent

namespace Mux

variable (g : Globals K) (m : Mux K)

/-- There is something to select. -/
def active : Bool := m.numInput > 1 && m.numMux > 0

/-- `widthNMOSPassTransistor` of an active multiplexer. -/
def widthNMOSPassTransistor : K :=
  let minNMOSWidth := m.minDriverCurrent / g.currentOnNmos
  match g.cell.memCellType with
  | .mram | .pcram | .memristor =>
      -- small enough a resistance for voltage dividing
      let maxResNMOSPassTransistor := g.cell.resistanceOn * irDropTolerance
      let width := g.tech.onResistance g.tech.featureSize .nmos g.inputParameter.temperature *
        g.tech.featureSize / maxResNMOSPassTransistor
      max (max (min width g.maxNmosWidth) minNMOSWidth) (6 * minNmosSize * g.tech.featureSize)
  | _ => max (6 * minNmosSize * g.tech.featureSize) minNMOSWidth

/-- `capNMOSPassTransistor`; the constructor's zero if there is nothing to select. -/
def capNMOSPassTransistor : K :=
  if m.active then g.tech.drainCap (m.widthNMOSPassTransistor g) .nmos g.regionHeight else 0

/-- `resNMOSPassTransistor`; the constructor's zero if there is nothing to select. -/
def resNMOSPassTransistor : K :=
  if m.active then
    g.tech.onResistance (m.widthNMOSPassTransistor g) .nmos g.inputParameter.temperature
  else 0

/-- `capOutput` of an active multiplexer. -/
def capOutput : K := m.numInput * m.capNMOSPassTransistor g

/-- `capForPreviousPowerCalculation`. -/
def capForPreviousPowerCalculation : K := m.capNMOSPassTransistor g

/-- `capForPreviousDelayCalculation`. -/
def capForPreviousDelayCalculation : K :=
  if m.active then m.capOutput g + m.capNMOSPassTransistor g + m.capLoad else 0

/-- The height and the width that `CalculateArea` computes. -/
def area : K × K :=
  if m.active then
    let gate := g.tech.gateArea .inv 1 (m.widthNMOSPassTransistor g) 0 g.regionHeight
    (gate.1, m.numMux * m.numInput * gate.2)
  else (0, 0)

/-- The latency that `CalculateLatency` computes.  The ramps are not used. -/
def latency : K :=
  if m.active then 2.3 * (m.resNMOSPassTransistor g * (m.capOutput g + m.capLoad)) else 0

/-- The dynamic energy that `CalculatePower` computes; the leakage is zero. -/
def dynamicEnergy : K :=
  if m.active then
    (m.capOutput g + m.capInputNextStage) * g.tech.vdd * (g.tech.vdd - g.tech.vth) * m.numMux
  else 0

end Mux

/-! ## Sense amplifiers -/

/-- The arguments of `SenseAmp::Initialize`, and its flags. -/
structure SenseAmp (K : Type) where
  initialized : Bool
  invalid : Bool
  numColumn : ℕ
  currentSense : Bool
  senseVoltage : K
  pitchSenseAmp : K
deriving DecidableEq, Repr

/-- `SenseAmp::Initialize`. -/
def initializeSenseAmp (g : Globals K) (numColumn : ℕ) (currentSense : Bool)
    (senseVoltage pitchSenseAmp : K) : SenseAmp K where
  initialized := true
  -- too small, cannot do the layout
  invalid := pitchSenseAmp ≤ g.tech.featureSize * 2
  numColumn := numColumn
  currentSense := currentSense
  senseVoltage := senseVoltage
  pitchSenseAmp := pitchSenseAmp

/-- The entry of a table for 120, 90, 65, 45 and 32 nm and for smaller feature sizes. -/
def Globals.byFeatureSize (g : Globals K) (at120 at90 at65 at45 at32 below : K) : K :=
  if g.tech.featureSize ≥ 119e-9 then at120
  else if g.tech.featureSize ≥ 89e-9 then at90
  else if g.tech.featureSize ≥ 64e-9 then at65
  else if g.tech.featureSize ≥ 44e-9 then at45
  else if g.tech.featureSize ≥ 31e-9 then at32
  else below

namespace SenseAmp

variable (g : Globals K) (s : SenseAmp K)

/-- `capLoad`. -/
def capLoad : K :=
  g.tech.gateCap ((widthSenseP + widthSenseN) * g.tech.featureSize) +
    g.tech.drainCap (widthSenseN * g.tech.featureSize) .nmos s.pitchSenseAmp +
    g.tech.drainCap (widthSenseP * g.tech.featureSize) .pmos s.pitchSenseAmp +
    g.tech.drainCap (widthSenseIso * g.tech.featureSize) .pmos s.pitchSenseAmp +
    g.tech.drainCap (widthSenseMux * g.tech.featureSize) .nmos s.pitchSenseAmp

/-- The height and the width that `CalculateArea` computes if the layout is possible. -/
def area : K × K :=
  -- the width and the height of the gates are exchanged
  let senseP := g.tech.gateArea .inv 1 0 (widthSenseP * g.tech.featureSize) s.pitchSenseAmp
  let senseIso := g.tech.gateArea .inv 1 0 (widthSenseIso * g.tech.featureSize) s.pitchSenseAmp
  let senseN := g.tech.gateArea .inv 1 (widthSenseN * g.tech.featureSize) 0 s.pitchSenseAmp
  let senseEn := g.tech.gateArea .inv 1 (widthSenseEn * g.tech.featureSize) 0 s.pitchSenseAmp
  let width := max (max (max (max 0 senseP.1) senseIso.1) senseN.1) senseEn.1
  let height :=
    2 * senseP.2 + senseIso.2 + 2 * minGapBetSameTypeDiffs * g.tech.featureSize +
      2 * senseN.2 + senseEn.2 + 2 * minGapBetSameTypeDiffs * g.tech.featureSize +
      minGapBetPAndNDiffs * g.tech.featureSize
  let converterArea :=
    if s.currentSense then ivConverterArea * g.tech.featureSize * g.tech.featureSize else 0
  (height * width / s.pitchSenseAmp + converterArea / s.pitchSenseAmp,
    s.pitchSenseAmp * s.numColumn)

/-- The latency that `CalculateLatency` computes.  The ramps are not used. -/
def latency : K :=
  let gm := g.tech.transconductance (widthSenseN * g.tech.featureSize) .nmos +
    g.tech.transconductance (widthSenseP * g.tech.featureSize) .pmos
  let tau := s.capLoad g / gm
  (if s.currentSense then g.byFeatureSize 0.49e-9 0.53e-9 0.62e-9 0.80e-9 1.07e-9 1.45e-9 else 0) +
    tau * g.libm.log (g.tech.vdd / s.senseVoltage)

/-- The leakage and the read energy that `CalculatePower` computes if the layout is
possible; the write energy is zero. -/
def power : K × K :=
  let idleCurrent := g.tech.gateLeakage .inv 1 (widthSenseEn * g.tech.featureSize) 0
    g.inputParameter.temperature * g.tech.vdd
  (((if s.currentSense then g.byFeatureSize 1.40e-8 1.87e-8 2.57e-8 4.41e-9 12.54e-8 15e-8 else 0) +
      idleCurrent * g.tech.vdd) * s.numColumn,
    ((if s.currentSense then
        g.byFeatureSize 8.52e-14 8.72e-14 9.00e-14 10.26e-14 12.56e-14 15e-14 else 0) +
      s.capLoad g * g.tech.vdd * g.tech.vdd) * s.numColumn)

end SenseAmp

end NVSim
