import NVSim.Model.BankWithHtree
import NVSim.Model.PredecodeBlock
import NVSim.Model.SubArrayEvaluation

/-!
# The circuits of a mat and of a bank

The subarray and the predecoder blocks of a mat, and the global bit lines of a bank
without an H-tree that is externally sensed.  They decide what the model of the
organisation takes from the circuits: which subarrays are rejected, and whether the global
sense amplifiers fit.
-/

namespace NVSim

variable {K : Type}

/-- The circuit of a mat. -/
structure MatCircuit (K : Type) where
  subarray : SubArrayCircuit K
  rowPredecoderBlock1 : PredecodeBlock K
  rowPredecoderBlock2 : PredecodeBlock K
  bitlineMuxPredecoderBlock1 : PredecodeBlock K
  bitlineMuxPredecoderBlock2 : PredecodeBlock K
  senseAmpMuxLev1PredecoderBlock1 : PredecodeBlock K
  senseAmpMuxLev1PredecoderBlock2 : PredecodeBlock K
  senseAmpMuxLev2PredecoderBlock1 : PredecodeBlock K
  senseAmpMuxLev2PredecoderBlock2 : PredecodeBlock K

/-- The eight predecoder blocks. -/
def MatCircuit.predecoderBlocks (c : MatCircuit K) : List (PredecodeBlock K) :=
  [c.rowPredecoderBlock1, c.rowPredecoderBlock2, c.bitlineMuxPredecoderBlock1,
    c.bitlineMuxPredecoderBlock2, c.senseAmpMuxLev1PredecoderBlock1,
    c.senseAmpMuxLev1PredecoderBlock2, c.senseAmpMuxLev2PredecoderBlock1,
    c.senseAmpMuxLev2PredecoderBlock2]

/-- The address bits of the eight predecoder blocks. -/
def Mat.predecoderBits (mat : Mat) : List ℕ :=
  [mat.rowPredecoderBlock1, mat.rowPredecoderBlock2, mat.bitlineMuxPredecoderBlock1,
    mat.bitlineMuxPredecoderBlock2, mat.senseAmpMuxLev1PredecoderBlock1,
    mat.senseAmpMuxLev1PredecoderBlock2, mat.senseAmpMuxLev2PredecoderBlock1,
    mat.senseAmpMuxLev2PredecoderBlock2]

variable [Field K] [LinearOrder K]

/-- The load of the row predecoders, which stand in the middle of the mat. -/
def capLoadRowPredecoder (g : Globals K) (mat : Mat) (c : SubArrayCircuit K) : K :=
  c.height * g.capWirePerUnit g.localWire * mat.numRowSubarray / 2 +
    c.width * g.capWirePerUnit g.localWire * mat.numColumnSubarray / 2

/-- The load of the predecoders of the multiplexers. -/
def capLoadMuxPredecoder (g : Globals K) (mat : Mat) (c : SubArrayCircuit K) : K :=
  max 0 (c.height * g.capWirePerUnit g.localWire * ((mat.numRowSubarray : K) - 2) / 2) +
    max 0 (c.width * g.capWirePerUnit g.localWire * ((mat.numColumnSubarray : K) - 2) / 2)

/-- The circuit of a mat that `Mat::Initialize` accepts.  It is `none` if the subarray is
rejected, or if a predecoder block exits. -/
def initializeMatCircuit (g : Globals K) (memory : SubArrayElectrics K) (unset : ℕ) (mat : Mat) :
    Option (MatCircuit K) := do
  let subarray ← (initializeSubArray g memory mat.subarray).toOption
  let subarray := subarray.calculateArea g
  let row (bits : ℕ) :=
    initializePredecodeBlock g unset bits (capLoadRowPredecoder g mat subarray) 0
  let mux (bits : ℕ) :=
    initializePredecodeBlock g unset bits (capLoadMuxPredecoder g mat subarray) 0
  let rowPredecoderBlock1 ← row mat.rowPredecoderBlock1
  let rowPredecoderBlock2 ← row mat.rowPredecoderBlock2
  let bitlineMuxPredecoderBlock1 ← mux mat.bitlineMuxPredecoderBlock1
  let bitlineMuxPredecoderBlock2 ← mux mat.bitlineMuxPredecoderBlock2
  let senseAmpMuxLev1PredecoderBlock1 ← mux mat.senseAmpMuxLev1PredecoderBlock1
  let senseAmpMuxLev1PredecoderBlock2 ← mux mat.senseAmpMuxLev1PredecoderBlock2
  let senseAmpMuxLev2PredecoderBlock1 ← mux mat.senseAmpMuxLev2PredecoderBlock1
  let senseAmpMuxLev2PredecoderBlock2 ← mux mat.senseAmpMuxLev2PredecoderBlock2
  return {
    subarray, rowPredecoderBlock1, rowPredecoderBlock2, bitlineMuxPredecoderBlock1,
    bitlineMuxPredecoderBlock2, senseAmpMuxLev1PredecoderBlock1, senseAmpMuxLev1PredecoderBlock2,
    senseAmpMuxLev2PredecoderBlock1, senseAmpMuxLev2PredecoderBlock2 }

/-- The height and the width of a mat without comparators, as an externally sensed one
is. -/
def MatCircuit.size (g : Globals K) (mat : Mat) (c : MatCircuit K) : K × K :=
  let areaAllPredecoderBlocks :=
    (c.predecoderBlocks.map fun b => (b.calculateArea g.decoders).area).sum
  let width := c.subarray.width * mat.numColumnSubarray
  let height := c.subarray.height * mat.numRowSubarray
  if width > height then (height, width + g.libm.sqrt areaAllPredecoderBlocks)
  else (height + g.libm.sqrt areaAllPredecoderBlocks, width)

namespace Globals

variable (g : Globals K)

/-- The global sense amplifiers of an externally sensed bank. -/
def globalSenseAmp (numSenseAmp numColumnMat : ℕ) (matWidth : K) : SenseAmp K :=
  initializeSenseAmp g numSenseAmp (!g.voltageSense) g.cell.minSenseVoltage
    (matWidth * numColumnMat / numSenseAmp)

/-- What the circuits decide for the organisation.  A mat whose initialisation exits is
taken as one whose sense amplifiers do not fit: there is no bank with it. -/
def electrical (memory : SubArrayElectrics K) (unset : ℕ) : Electrical where
  subArrayInvalid a := (initializeSubArray g memory a).toOption.isNone
  globalSenseAmpInvalid numSenseAmp numColumnMat mat :=
    (initializeMatCircuit g memory unset mat).elim true fun c =>
      (g.globalSenseAmp numSenseAmp numColumnMat (c.size g mat).2).invalid

end Globals

/-! ## Global bit lines -/

/-- The loads of a global bit line, from the mat next to the sense amplifiers on. -/
structure GlobalBitline (K : Type) where
  resBitlineMux : K
  capBitlineMux : K
  resLocalBitline : K
  capLocalBitline : K
  resGlobalBitline : K
  capGlobalBitline : K
  capGlobalBitlineMux : K

namespace GlobalBitline

/-- The argument of the logarithm for an SRAM cell. -/
def argumentSram (g : Globals K) (senseAmp : SenseAmp K) : LogArgument K :=
  ⟨g.cell.readVoltage, g.cell.readVoltage - senseAmp.senseVoltage⟩

variable (line : GlobalBitline K)

/-- The delay of the global bit line of an SRAM, without its multiplexer. -/
def latencySram (g : Globals K) (senseAmp : SenseAmp K) : K :=
  (line.resLocalBitline * line.capGlobalBitline / 2 +
      (line.resLocalBitline + line.resGlobalBitline) *
        (line.capGlobalBitline / 2 + line.capGlobalBitlineMux)) *
      g.libm.log (argumentSram g senseAmp).value +
    line.resLocalBitline * line.capGlobalBitline / 2

/-- The time constant of the global bit line behind a resistance. -/
def tau (resistance : K) : K :=
  resistance * line.capGlobalBitline +
    (resistance + line.resGlobalBitline) * line.capGlobalBitline / 2

/-- `latencyOn`: the delay of a resistive cell of low resistance. -/
def latencyOn (g : Globals K) (c : SubArrayCircuit K) (senseAmp : SenseAmp K) : K :=
  line.tau (line.resLocalBitline +
      (if g.cell.readVoltage = 0 then c.resMemCellOn else c.resEquivalentOn)) *
    g.libm.log (c.argumentOn senseAmp.senseVoltage).value

/-- `latencyOff`: the delay of a resistive cell of high resistance. -/
def latencyOff (g : Globals K) (c : SubArrayCircuit K) (senseAmp : SenseAmp K) : K :=
  line.tau
      (if g.cell.readVoltage = 0 then
        line.resLocalBitline + c.resMemCellOn + (g.cell.resistanceOff - g.cell.resistanceOn)
      else line.resLocalBitline + c.resEquivalentOn + (c.resEquivalentOff - c.resEquivalentOn)) *
    g.libm.log (c.argumentOff senseAmp.senseVoltage).value

end GlobalBitline

end NVSim
