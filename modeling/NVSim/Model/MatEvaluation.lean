import NVSim.Model.BankCircuit
import NVSim.Model.Comparator

/-!
# The evaluation of a mat

`CalculateArea`, `CalculateLatency` and `CalculatePower` of an accepted mat: its subarray, its
eight predecoder blocks and, in an internally sensed tag array, its comparator.  All subarrays
and all comparators are alike, so there is one object of each.
-/

namespace NVSim

variable {K : Type}

/-- A mat object after its `Initialize`. -/
structure MatObject (K : Type) extends MatCircuit K, FunctionUnit K where
  comparator : Option (Component (Comparator K) K)
  predecoderLatency : K

/-- The eight predecoder blocks after the same function was called on each. -/
def MatCircuit.mapPredecoderBlocks (f : PredecodeBlock K → PredecodeBlock K) (c : MatCircuit K) :
    MatCircuit K :=
  { c with
    rowPredecoderBlock1 := f c.rowPredecoderBlock1
    rowPredecoderBlock2 := f c.rowPredecoderBlock2
    bitlineMuxPredecoderBlock1 := f c.bitlineMuxPredecoderBlock1
    bitlineMuxPredecoderBlock2 := f c.bitlineMuxPredecoderBlock2
    senseAmpMuxLev1PredecoderBlock1 := f c.senseAmpMuxLev1PredecoderBlock1
    senseAmpMuxLev1PredecoderBlock2 := f c.senseAmpMuxLev1PredecoderBlock2
    senseAmpMuxLev2PredecoderBlock1 := f c.senseAmpMuxLev2PredecoderBlock1
    senseAmpMuxLev2PredecoderBlock2 := f c.senseAmpMuxLev2PredecoderBlock2 }

@[simp] theorem MatCircuit.subarray_map (f : PredecodeBlock K → PredecodeBlock K)
    (c : MatCircuit K) : (c.mapPredecoderBlocks f).subarray = c.subarray := rfl

variable [Field K] [LinearOrder K]

/-- The mat object that `Mat::Initialize` leaves when it accepts the mat. -/
def initializeMatObject (g : Globals K) (memory : SubArrayElectrics K) (unset : ℕ) (mat : Mat) :
    Option (MatObject K) :=
  (initializeMatCircuit g memory unset mat).map fun c =>
    { toMatCircuit := c
      toFunctionUnit := .fresh
      comparator := mat.comparator.map fun numTagBits =>
        .initialized (initializeComparator g numTagBits 0)
      predecoderLatency := 0 }

namespace MatObject

variable (g : Globals K) (mat : Mat)

/-! ## Area -/

/-- `Mat::CalculateArea`.  The area of the subarray is known since the initialisation. -/
def calculateArea (m : MatObject K) : MatObject K :=
  let blocks := m.toMatCircuit.mapPredecoderBlocks (·.calculateArea g.decoders)
  let size := m.toMatCircuit.size g mat
  let comparator := m.comparator.map (PredecodeBlock.sized (Comparator.size g))
  let height := size.1 + comparator.elim 0 fun d => mat.numWay * d.area / size.2
  { m with
    toMatCircuit := blocks
    comparator := comparator
    height := height
    width := size.2
    area := height * size.2 }

/-! ## Latency -/

/-- `predecoderLatency`, of blocks whose latencies are known. -/
def maxPredecoderLatency (c : MatCircuit K) : K :=
  max
    (max (max c.rowPredecoderBlock1.readLatency c.rowPredecoderBlock2.readLatency)
      (max c.bitlineMuxPredecoderBlock1.readLatency c.bitlineMuxPredecoderBlock2.readLatency))
    (max
      (max c.senseAmpMuxLev1PredecoderBlock1.readLatency
        c.senseAmpMuxLev1PredecoderBlock2.readLatency)
      (max c.senseAmpMuxLev2PredecoderBlock1.readLatency
        c.senseAmpMuxLev2PredecoderBlock2.readLatency))

/-- `Mat::CalculateLatency`.  The ramp of the faster row predecoder drives the subarray. -/
def calculateLatency (rampInput : K) (m : MatObject K) : MatObject K :=
  let blocks := m.toMatCircuit.mapPredecoderBlocks (·.calculateLatency g.decoders rampInput)
  let predecoderLatency := maxPredecoderLatency blocks
  let subarray := blocks.subarray.calculateLatency g
    (min blocks.rowPredecoderBlock1.rampOutput blocks.rowPredecoderBlock2.rampOutput)
  let comparator := m.comparator.map fun d => d.timed (d.part.latency g rampInput)
  { m with
    toMatCircuit := { blocks with subarray := subarray }
    comparator := comparator
    predecoderLatency := predecoderLatency
    readLatency := predecoderLatency + subarray.readLatency +
      comparator.elim 0 fun d => d.readLatency
    writeLatency := predecoderLatency + subarray.writeLatency
    resetLatency := predecoderLatency + subarray.resetLatency
    setLatency := predecoderLatency + subarray.setLatency }

/-! ## Power -/

/-- The comparator after its `CalculatePower`. -/
def poweredComparator (m : MatObject K) : Option (Component (Comparator K) K) :=
  m.comparator.map fun d => d.powered (d.part.power g).1 (d.part.power g).2 (d.part.power g).2

/-- `Mat::CalculatePower`. -/
def calculatePower (m : MatObject K) : MatObject K :=
  let blocks := m.toMatCircuit.mapPredecoderBlocks (·.calculatePower g.decoders)
  let subarray := blocks.subarray.calculatePower g
  let comparator := m.poweredComparator g
  let total (measure : FunctionUnit K → K) : K :=
    (blocks.predecoderBlocks.map fun b => measure b.toFunctionUnit).sum
  let comparators (measure : FunctionUnit K → K) : K :=
    comparator.elim 0 fun d => measure d.toFunctionUnit * mat.numWay
  let active : K := mat.numActiveSubarrayPerRow * mat.numActiveSubarrayPerColumn
  let writeDynamicEnergy := total FunctionUnit.writeDynamicEnergy
  { m with
    toMatCircuit := { blocks with subarray := subarray }
    comparator := comparator
    readDynamicEnergy := total FunctionUnit.readDynamicEnergy +
      subarray.readDynamicEnergy * active + comparators FunctionUnit.readDynamicEnergy
    cellReadEnergy := subarray.cellReadEnergy * active
    cellSetEnergy := subarray.cellSetEnergy * active
    cellResetEnergy := subarray.cellResetEnergy * active
    resetDynamicEnergy := writeDynamicEnergy + subarray.resetDynamicEnergy * active
    setDynamicEnergy := writeDynamicEnergy + subarray.setDynamicEnergy * active
    writeDynamicEnergy := writeDynamicEnergy + subarray.writeDynamicEnergy * active +
      comparators FunctionUnit.writeDynamicEnergy
    leakage := total FunctionUnit.leakage +
      subarray.leakage * (mat.numRowSubarray * mat.numColumnSubarray) +
      comparators FunctionUnit.leakage }

end MatObject

/-! ## Examples -/

/-- A predecoder block that has nothing to decode, for examples. -/
def PredecodeBlock.idle : PredecodeBlock ℚ where
  toFunctionUnit := .fresh
  initialized := true
  numAddressBit := 0
  capLoad := 0
  resLoad := 0
  units := .empty
  rampOutput := 0

/-- A mat of small subarrays without address bits, for examples. -/
def MatObject.small : MatObject ℚ where
  toFunctionUnit := .fresh
  subarray := (Globals.small .small).circuit .cleared .small ⟨0, 0⟩
  rowPredecoderBlock1 := .idle
  rowPredecoderBlock2 := .idle
  bitlineMuxPredecoderBlock1 := .idle
  bitlineMuxPredecoderBlock2 := .idle
  senseAmpMuxLev1PredecoderBlock1 := .idle
  senseAmpMuxLev1PredecoderBlock2 := .idle
  senseAmpMuxLev2PredecoderBlock1 := .idle
  senseAmpMuxLev2PredecoderBlock2 := .idle
  comparator := none
  predecoderLatency := 0

end NVSim
