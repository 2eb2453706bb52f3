import NVSim.Model.Evaluation

/-!
# The bus of an internally sensed bank without an H-tree

`BankWithoutHtree::CalculateLatencyAndPower`.  The mats of a column hang on a bus, and a
loop over the rows adds the latency, the energy and the leakage of its wires.  The wires of
the first row are the longest.  What the mats take and what a wire takes for a length are
parameters.
-/

namespace NVSim

/-- The three results of `Wire::CalculateLatencyAndPower`. -/
structure WireMeasures (K : Type) where
  delay : K
  dynamicEnergy : K
  leakagePower : K
deriving DecidableEq, Repr

/-- The variables of the loop over the rows. -/
structure BusVars (K : Type) where
  lengthWire : K
  readLatency : K
  writeLatency : K
  readDynamicEnergy : K
  writeDynamicEnergy : K
  leakage : K
deriving DecidableEq, Repr

namespace Bank

variable {K : Type} [Field K] (wire : K → WireMeasures K) (matHeight : K) (b : Bank)

/-- The bits that are routed to a mat: the address, the data and, in a tag array, the ways
that are compared. -/
def numBitRouteToMat : ℤ :=
  if b.memoryType = .tag then b.mat.numAddressBit + b.mat.numDataBit + b.mat.numWay
  else b.mat.numAddressBit + b.mat.numDataBit

/-- The variables before the first row. -/
def busStart : BusVars K where
  lengthWire := matHeight * ((b.numRowMat : K) + 1)
  readLatency := 0
  writeLatency := 0
  readDynamicEnergy := 0
  writeDynamicEnergy := 0
  leakage := 0

/-- The body of the loop over the rows.  The number of bits is zero in a row that is not
activated. -/
def busRow (s : BusVars K) (i : ℕ) : BusVars K :=
  let lengthWire := s.lengthWire - matHeight
  let measures := wire lengthWire
  let numBitRouteToMat : K := if i < b.numActiveMatPerColumn then b.numBitRouteToMat else 0
  let energy :=
    if i < b.numActiveMatPerColumn then
      measures.dynamicEnergy * numBitRouteToMat * b.numActiveMatPerRow
    else 0
  { lengthWire := lengthWire
    readLatency := if i = 0 then s.readLatency + measures.delay else s.readLatency
    writeLatency := if i = 0 then s.writeLatency + measures.delay else s.writeLatency
    readDynamicEnergy := s.readDynamicEnergy + energy
    writeDynamicEnergy := s.writeDynamicEnergy + energy
    leakage := s.leakage + measures.leakagePower * numBitRouteToMat * b.numColumnMat }

/-- The variables after the first `n` rows. -/
def busRows (n : ℕ) : BusVars K :=
  (List.range n).foldl (b.busRow wire matHeight) (b.busStart matHeight)

/-- `BankWithoutHtree::CalculateLatencyAndPower` of a bank that is internally sensed;
`u` holds the measures of `CalculateArea`. -/
def calculateBusLatencyAndPower [LinearOrder K] (settings : Settings K) (mat u : FunctionUnit K) :
    FunctionUnit K :=
  let s := b.busRows wire matHeight b.numRowMat
  let numActiveMat : K := b.numActiveMatPerRow * b.numActiveMatPerColumn
  let writeDynamicEnergy := s.writeDynamicEnergy / settings.writeSharing
  { u with
    readLatency := s.readLatency + mat.readLatency
    resetLatency := s.writeLatency + mat.resetLatency
    setLatency := s.writeLatency + mat.setLatency
    writeLatency := s.writeLatency + mat.writeLatency
    readDynamicEnergy := s.readDynamicEnergy + mat.readDynamicEnergy * numActiveMat
    cellReadEnergy := mat.cellReadEnergy * numActiveMat
    cellSetEnergy := mat.cellSetEnergy * numActiveMat
    cellResetEnergy := mat.cellResetEnergy * numActiveMat
    resetDynamicEnergy := writeDynamicEnergy + mat.resetDynamicEnergy * numActiveMat
    setDynamicEnergy := writeDynamicEnergy + mat.setDynamicEnergy * numActiveMat
    writeDynamicEnergy := writeDynamicEnergy + mat.writeDynamicEnergy * numActiveMat
    leakage := s.leakage + mat.leakage * b.numRowMat * b.numColumnMat }

@[simp] theorem busRows_zero : b.busRows wire matHeight 0 = b.busStart matHeight := rfl

@[simp] theorem busRows_succ (n : ℕ) :
    b.busRows wire matHeight (n + 1) = b.busRow wire matHeight (b.busRows wire matHeight n) n := by
  unfold busRows
  rw [List.range_succ, List.foldl_append, List.foldl_cons, List.foldl_nil]

end Bank

end NVSim
