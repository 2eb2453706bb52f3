import NVSim.Model.SubArrayEvaluation

/-!
# What is read of a subarray after `SubArray::Initialize`

The fields that `CalculateArea`, `CalculateLatency` and `CalculatePower` read before they
assign them.  Which of its electrical values these are depends on the cell and on how it is
read.
-/

namespace NVSim

variable {K : Type} [Field K] [LinearOrder K]

/-- Everything that is read of an accepted subarray. -/
structure SubArrayReads (K : Type) where
  toSubArray : SubArray
  toFunctionUnit : FunctionUnit K
  electrics : List K
  senseUndefined : Bool
  rowDecoder : RowDecoder K
  bitlineMuxDecoder : RowDecoder K
  bitlineMux : Mux K
  senseAmpMuxLev1Decoder : RowDecoder K
  senseAmpMuxLev1 : Mux K
  senseAmpMuxLev2Decoder : RowDecoder K
  senseAmpMuxLev2 : Mux K
  precharger : Precharger K
  /-- With external sensing only its measures are read. -/
  senseAmp : Option (SenseAmp K)

namespace Globals

variable (g : Globals K)

/-- The electrical values that are read. -/
def electricsRead (e : SubArrayElectrics K) : List K :=
  [e.lenWordline, e.lenBitline, e.capBitline, e.resBitline, e.capCellAccess] ++
    match g.cell.memCellType with
    | .sram => [e.resCellAccess, e.voltagePrecharge, e.senseVoltage]
    | .dram | .eDRAM => [e.resCellAccess, e.senseVoltage]
    | .mram | .pcram | .memristor | .fbram =>
        if g.cell.readMode then
          [e.voltagePrecharge, e.voltageMemCellOn, e.voltageMemCellOff, e.senseVoltage] ++
            if g.cell.readVoltage = 0 then [e.resMemCellOn, e.resMemCellOff]
            else [e.resEquivalentOn, e.resEquivalentOff]
        else [e.resMemCellOn, e.resMemCellOff]
    | .slcNAND => [e.voltagePrecharge, e.senseVoltage]
    | .mlcNAND => []

/-- What is read of a subarray. -/
def reads (c : SubArrayCircuit K) : SubArrayReads K where
  toSubArray := c.toSubArray
  toFunctionUnit := c.toFunctionUnit
  electrics := g.electricsRead c.toSubArrayElectrics
  senseUndefined := c.senseUndefined
  rowDecoder := c.rowDecoder.part
  bitlineMuxDecoder := c.bitlineMuxDecoder.part
  bitlineMux := c.bitlineMux.part
  senseAmpMuxLev1Decoder := c.senseAmpMuxLev1Decoder.part
  senseAmpMuxLev1 := c.senseAmpMuxLev1.part
  senseAmpMuxLev2Decoder := c.senseAmpMuxLev2Decoder.part
  senseAmpMuxLev2 := c.senseAmpMuxLev2.part
  precharger := c.precharger.part
  senseAmp := if c.internalSenseAmp then some c.senseAmp.part else none

/-- Two new subarrays, whatever their memory holds, end the initialisation in the same way:
with the same flags, and with the same values in the fields that are read. -/
def IgnoresMemory (a : SubArray) : Prop :=
  ∀ memory memory', (initializeSubArray g memory a).map g.reads =
    (initializeSubArray g memory' a).map g.reads

end Globals

end NVSim
