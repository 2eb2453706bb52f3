import NVSim.Model.HtreeEvaluation

/-!
# The evaluation of a bank without H-tree

`CalculateArea` and `CalculateLatencyAndPower` of `BankWithoutHtree`.  Internally sensed mats
hang on a bus.  Externally sensed ones share global sense amplifiers at the foot of the bank:
a loop over the rows adds what the global bit lines take, for SRAM cells and for resistive
cells; the global circuits come after it.
-/

namespace NVSim

variable {K : Type} [Field K] [LinearOrder K]

/-! ## The global circuits -/

/-- The global circuits of an externally sensed bank; the comparators are those of a tag
array. -/
structure GlobalSensing (K : Type) where
  globalSenseAmp : SenseAmp K
  globalBitlineMux : Mux K
  globalComparator : Option (Comparator K)

/-- The end of `BankWithoutHtree::Initialize`, of a bank that is not invalid. -/
def Bank.globalSensing (g : Globals K) (b : Bank) (matWidth : K) : Option (GlobalSensing K) :=
  if b.internalSenseAmp then none
  else
    let globalSenseAmp := g.globalSenseAmp b.numSenseAmp b.numColumnMat matWidth
    some
      { globalSenseAmp := globalSenseAmp
        globalBitlineMux := initializeMux
          (b.numRowMat * b.numColumnMat / b.numActiveMatPerColumn / b.numActiveMatPerRow)
          b.numSenseAmp (globalSenseAmp.capLoad g) (globalSenseAmp.capLoad g) 0
        globalComparator :=
          if b.memoryType = .tag then some (initializeComparator g b.blockSize 0) else none }

namespace GlobalSensing

variable (g : Globals K) (s : GlobalSensing K) (c : SubArrayCircuit K)

/-- The loads of a global bit line of some length. -/
def line (lengthWire : K) : GlobalBitline K :=
  let resBitlineMux := s.globalBitlineMux.resNMOSPassTransistor g
  let capBitlineMux := s.globalBitlineMux.capNMOSPassTransistor g
  { resBitlineMux := resBitlineMux
    capBitlineMux := capBitlineMux
    resLocalBitline := c.resBitline + 3 * resBitlineMux
    capLocalBitline := c.capBitline + 6 * capBitlineMux
    resGlobalBitline := lengthWire * g.resWirePerUnit g.globalWire
    capGlobalBitline := lengthWire * g.capWirePerUnit g.globalWire
    capGlobalBitlineMux := s.globalBitlineMux.capForPreviousDelayCalculation g }

end GlobalSensing

namespace GlobalBitline

variable (g : Globals K) (l : GlobalBitline K) (c : SubArrayCircuit K)

/-- The time constant of a resistive cell that is written. -/
def tauWrite : K :=
  l.resBitlineMux * l.capGlobalBitline / 2 +
    (l.resBitlineMux + l.resGlobalBitline) * (l.capGlobalBitline + l.capLocalBitline) / 2 +
    (l.resBitlineMux + l.resGlobalBitline + l.resLocalBitline) * l.capLocalBitline / 2

/-- The time constant of a resistive cell whose current is sensed. -/
def tauCurrent : K :=
  let resLocalBitline := l.resLocalBitline + c.resMemCellOff
  l.resGlobalBitline * l.capGlobalBitline / 2 * (resLocalBitline + l.resGlobalBitline / 3) /
    (resLocalBitline + l.resGlobalBitline)

/-- What the longest global bit line adds to the read latency and to the write latency. -/
def latencies (s : GlobalSensing K) : K × K :=
  match g.cell.memCellType with
  | .sram =>
      let latency := l.latencySram g s.globalSenseAmp + s.globalBitlineMux.latency g
      (latency + s.globalSenseAmp.latency g, latency)
  | .mram | .pcram | .memristor | .fbram =>
      -- the delay of the local bit line is part of the global one
      (if g.cell.readMode then
          max (l.latencyOn g c s.globalSenseAmp + c.bitlineDelayOn)
            (l.latencyOff g c s.globalSenseAmp + c.bitlineDelayOff) - c.bitlineDelay
        else 0.63 * l.tauCurrent c,
        0.63 * l.tauWrite)
  | _ => (0, 0)

/-- What a row of global bit lines adds to the read energy and to the write energy. -/
def energies (b : Bank) : K × K :=
  let addressEnergy := l.capGlobalBitline * g.tech.vdd * g.tech.vdd * b.mat.numAddressBit
  match g.cell.memCellType with
  | .sram =>
      let vpre := g.cell.readVoltage
      (addressEnergy + l.capGlobalBitline * vpre * vpre * b.mat.numWay,
        addressEnergy + l.capGlobalBitline * vpre * vpre * b.mat.numDataBit)
  | .mram | .pcram | .memristor | .fbram =>
      let vWrite := max |g.cell.resetVoltage| |g.cell.setVoltage|
      let vPre := c.voltagePrecharge
      let vOn := c.voltageMemCellOn
      (addressEnergy +
          if g.cell.readMode then
            l.capGlobalBitline * (vPre * vPre - vOn * vOn) * b.mat.numDataBit
          else 0,
        addressEnergy + l.capGlobalBitline * vWrite * vWrite * b.mat.numDataBit)
  | _ => (0, 0)

end GlobalBitline

namespace GlobalSensing

variable (g : Globals K) (s : GlobalSensing K) (b : Bank) (c : SubArrayCircuit K) (matHeight : K)

/-- The body of the loop over the rows. -/
def sensingRow (v : BusVars K) (i : ℕ) : BusVars K :=
  let lengthWire := v.lengthWire - matHeight
  let l := s.line g c lengthWire
  let latency := if i = 0 then l.latencies g c s else (0, 0)
  let energy := if i < b.numActiveMatPerColumn then l.energies g c b else (0, 0)
  { v with
    lengthWire := lengthWire
    readLatency := v.readLatency + latency.1
    writeLatency := v.writeLatency + latency.2
    readDynamicEnergy := v.readDynamicEnergy + energy.1
    writeDynamicEnergy := v.writeDynamicEnergy + energy.2 }

/-- The variables after the first `n` rows. -/
def sensingRows (n : ℕ) : BusVars K :=
  (List.range n).foldl (s.sensingRow g b c matHeight) (b.busStart matHeight)

/-- What follows the loop: the global circuits once more. -/
def addGlobalCircuits (v : BusVars K) : BusVars K :=
  let mux := s.globalBitlineMux
  let senseAmp := s.globalSenseAmp
  let comparator (measure : Comparator K → K) : K := s.globalComparator.elim 0 measure
  { v with
    readLatency := v.readLatency + (mux.latency g + senseAmp.latency g) +
      comparator fun d => (d.latency g 1e40).1
    -- the write latency of a sense amplifier is zero
    writeLatency := v.writeLatency + mux.latency g
    readDynamicEnergy := v.readDynamicEnergy +
      (mux.dynamicEnergy g + (senseAmp.power g).2) * b.numActiveMatPerRow +
      comparator fun d => b.mat.numWay * (d.power g).2
    writeDynamicEnergy := v.writeDynamicEnergy + mux.dynamicEnergy g * b.numActiveMatPerRow
    leakage := v.leakage + (senseAmp.power g).1 * b.numColumnMat +
      comparator fun d => b.associativity * (d.power g).1 }

end GlobalSensing

/-! ## The bank -/

/-- A bank without H-tree and a mat that was accepted, and its global circuits. -/
structure NonHtreeObject (K : Type) extends FunctionUnit K where
  bank : Bank
  mat : MatObject K
  sensing : Option (GlobalSensing K)

/-- The end of `CalculateLatencyAndPower`: the mats are added to what `v` holds. -/
def BusVars.addMats (settings : Settings K) (b : Bank) (mat u : FunctionUnit K) (v : BusVars K) :
    FunctionUnit K :=
  let numActiveMat : K := b.numActiveMatPerRow * b.numActiveMatPerColumn
  let writeDynamicEnergy := v.writeDynamicEnergy / settings.writeSharing
  { u with
    readLatency := v.readLatency + mat.readLatency
    resetLatency := v.writeLatency + mat.resetLatency
    setLatency := v.writeLatency + mat.setLatency
    writeLatency := v.writeLatency + mat.writeLatency
    readDynamicEnergy := v.readDynamicEnergy + mat.readDynamicEnergy * numActiveMat
    cellReadEnergy := mat.cellReadEnergy * numActiveMat
    cellSetEnergy := mat.cellSetEnergy * numActiveMat
    cellResetEnergy := mat.cellResetEnergy * numActiveMat
    resetDynamicEnergy := writeDynamicEnergy + mat.resetDynamicEnergy * numActiveMat
    setDynamicEnergy := writeDynamicEnergy + mat.setDynamicEnergy * numActiveMat
    writeDynamicEnergy := writeDynamicEnergy + mat.writeDynamicEnergy * numActiveMat
    leakage := v.leakage + mat.leakage * b.numRowMat * b.numColumnMat }

namespace NonHtreeObject

variable (g : Globals K) (o : NonHtreeObject K)

/-- The height that the global circuits add to a bank of some width. -/
def sensingHeight (width : K) (s : GlobalSensing K) : K :=
  (s.globalSenseAmp.area g).1 + (s.globalBitlineMux.area g).1 +
    s.globalComparator.elim 0 fun d =>
      o.bank.associativity * ((d.size g).1 * (d.size g).2) / width

/-- The height and the width, before the aspect ratio is checked.  All address wires run along
the columns. -/
def size [FloorRing K] (sharing : ℕ × K) : K × K :=
  let numWire : ℤ := o.bank.numRowMat * o.bank.numColumnMat * o.bank.mat.numAddressBit
  let width := o.mat.width * o.bank.numColumnMat + (⌈(numWire : K) / sharing.1⌉ : K) * sharing.2
  (o.mat.height * o.bank.numRowMat + o.sensing.elim 0 (o.sensingHeight g width), width)

/-- `BankWithoutHtree::CalculateArea`, of a bank that is not invalid.  Its mat was sized when it
was initialised. -/
def calculateArea [FloorRing K] (sharing : ℕ × K) : NonHtreeObject K :=
  let size := o.size g sharing
  if o.bank.memoryType = .data && HtreeObject.aspectRatioIllegal size.1 size.2 then
    { o with
      bank := { o.bank with invalid := true }
      height := worstCase
      width := worstCase
      area := worstCase }
  else { o with height := size.1, width := size.2, area := size.1 * size.2 }

/-- The rows and what follows them, of a bank that is valid. -/
def wires (wire : K → WireMeasures K) : BusVars K :=
  match o.sensing with
  | none => o.bank.busRows wire o.mat.height o.bank.numRowMat
  | some s =>
      s.addGlobalCircuits g o.bank
        (s.sensingRows g o.bank o.mat.subarray o.mat.height o.bank.numRowMat)

/-- `BankWithoutHtree::CalculateLatencyAndPower`.  An invalid bank takes the worst case, and the
mats, which were not evaluated, add nothing to it. -/
def calculateLatencyAndPower (wire : K → WireMeasures K) : NonHtreeObject K :=
  if o.bank.invalid then
    { o with
      toFunctionUnit := BusVars.addMats g.inputParameter o.bank o.mat.toFunctionUnit
        o.toFunctionUnit
        { lengthWire := 0
          readLatency := worstCase
          writeLatency := worstCase
          readDynamicEnergy := worstCase
          writeDynamicEnergy := worstCase
          leakage := worstCase } }
  else
    let o := { o with mat := (o.mat.calculateLatency g worstCase).calculatePower g o.bank.mat }
    { o with
      toFunctionUnit := (o.wires g wire).addMats g.inputParameter o.bank o.mat.toFunctionUnit
        o.toFunctionUnit }

end NonHtreeObject

/-- `CalculateArea` and `CalculateLatencyAndPower` of a bank that `Initialize` left valid, with
the mat that it initialised and sized. -/
def evaluateNonHtree [FloorRing K] (g : Globals K) (globalWire : WireObject K) (received : K)
    (bank : Bank) (mat : MatObject K) : NonHtreeObject K :=
  let mat := mat.calculateArea g bank.mat
  let o : NonHtreeObject K :=
    { toFunctionUnit := .fresh
      bank := bank
      mat := mat
      sensing := bank.globalSensing g mat.width }
  (o.calculateArea g globalWire.sharing).calculateLatencyAndPower g
    (globalWire.calculateLatencyAndPower g received)

end NVSim
