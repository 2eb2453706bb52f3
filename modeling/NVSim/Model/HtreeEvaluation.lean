import NVSim.Model.MatEvaluation
import NVSim.Model.WireLengths
import NVSim.Model.WireObject

/-!
# The evaluation of a bank with H-tree

`CalculateArea` and `CalculateLatencyAndPower` of `BankWithHtree`.  Both go through the levels
of the tree and read the arrays that `Initialize` filled; `CalculateArea` also assigns the
lengths that `CalculateLatencyAndPower` reads.  A read of an entry that was not assigned, or an
access out of range, makes the result `none`.
-/

namespace NVSim

open Library

/-- The three arrays a level's bits to route are read from, added up. -/
def WireArrays.bits (a : WireArrays) (i : ℤ) : Option ℤ := do
  let address ← a.numAddressBitToRoute.read i
  let dataDistribute ← a.numDataDistributeBitToRoute.read i
  let dataBroadcast ← a.numDataBroadcastBitToRoute.read i
  some (address + dataDistribute + dataBroadcast)

/-- The bits to route as the computation of the lengths reads them, after the tiers were
added, which read every entry: none is missing then. -/
def WireArrays.bitsToRoute (a : WireArrays) (level : ℕ) : BitsToRoute level where
  numAddressBitToRoute := fun i => ((a.numAddressBitToRoute.read (i : ℕ)).getD 0).toNat
  numDataDistributeBitToRoute := fun i => (a.numDataDistributeBitToRoute.read (i : ℕ)).getD 0
  numDataBroadcastBitToRoute := fun i => (a.numDataBroadcastBitToRoute.read (i : ℕ)).getD 0

/-- `CONSTRAINT_ASPECT_RATIO_BANK`. -/
def constraintAspectRatioBank {K : Type} [Field K] : K := 10

/-- A bank with H-tree and a mat that was accepted, and the lengths of its wires. -/
structure HtreeObject (K : Type) extends FunctionUnit K where
  bank : BankWithHtree
  mat : MatObject K
  lengthHorizontalWire : TracedArray K
  lengthVerticalWire : TracedArray K

namespace HtreeObject

variable {K : Type} [Field K] [LinearOrder K] [FloorRing K]

/-! ## Area -/

/-- The loop that adds the tiers of the wires of one dimension to the side they lie across. -/
def addTiers (sharing : ℕ × K) (a : WireArrays) (level : ℕ) (side : K) : Option K :=
  (List.range level).foldlM (fun side (i : ℕ) => do
    let bits ← a.bits i
    let wire ← a.numWire.read i
    some (side + (⌈((bits * wire : ℤ) : K) / sharing.1⌉ : K) * sharing.2)) side

/-- What the lengths of the wires are computed from. -/
def htreeWires (sharing : ℕ × K) (o : HtreeObject K) : HtreeWires K where
  levelHorizontal := o.bank.levelHorizontal
  levelVertical := o.bank.levelVertical
  matHeight := o.mat.height
  matWidth := o.mat.width
  horizontalBits := o.bank.horizontal.bitsToRoute o.bank.levelHorizontal
  verticalBits := o.bank.vertical.bitsToRoute o.bank.levelVertical
  numWireSharingWidth := sharing.1
  effectivePitch := sharing.2

/-- The aspect ratio is illegal. -/
def aspectRatioIllegal (height width : K) : Bool :=
  height / width > constraintAspectRatioBank || width / height > constraintAspectRatioBank

/-- `BankWithHtree::CalculateArea`, of a bank that is not invalid. -/
def calculateArea (g : Globals K) (sharing : ℕ × K) (o : HtreeObject K) :
    Option (HtreeObject K) := do
  let o := { o with mat := o.mat.calculateArea g o.bank.mat }
  let height ← addTiers sharing o.bank.horizontal o.bank.levelHorizontal
    (o.mat.height * o.bank.numRowMat)
  let width ← addTiers sharing o.bank.vertical o.bank.levelVertical
    (o.mat.width * o.bank.numColumnMat)
  if o.bank.memoryType = .data && aspectRatioIllegal height width then
    some { o with
      bank := { o.bank with invalid := true }
      height := worstCase
      width := worstCase
      area := worstCase }
  else do
    let lengths ← (o.htreeWires sharing).calculateLengths
      (o.bank.levelHorizontal + o.bank.levelVertical)
    some { o with
      height := height
      width := width
      area := height * width
      lengthHorizontalWire := lengths.lengthHorizontalWire
      lengthVerticalWire := lengths.lengthVerticalWire }

/-! ## Latency and power -/

/-- The body of the two loops over the levels.  A read goes in and out, a write only in. -/
def addLevel (wire : K → WireMeasures K) (beta : K) (lengths : TracedArray K) (a : WireArrays)
    (u : FunctionUnit K) (i : ℕ) : Option (FunctionUnit K) := do
  let length ← lengths.read i
  let activeWire ← a.numActiveWire.read i
  let bits ← a.bits i
  let sumWire ← a.numSumWire.read i
  let measures := wire length
  let energy := measures.dynamicEnergy * activeWire * bits
  some { u with
    readLatency := u.readLatency + measures.delay * 2
    writeLatency := u.writeLatency + measures.delay
    resetLatency := u.resetLatency + measures.delay
    setLatency := u.setLatency + measures.delay
    readDynamicEnergy := u.readDynamicEnergy + energy
    writeDynamicEnergy := u.writeDynamicEnergy + energy / beta
    resetDynamicEnergy := u.resetDynamicEnergy + energy / beta
    setDynamicEnergy := u.setDynamicEnergy + energy / beta
    leakage := u.leakage + measures.leakagePower * sumWire * bits }

/-- The measures before the loops: those of the mats. -/
def fromMats (o : HtreeObject K) : FunctionUnit K :=
  let numActiveMat : K := o.bank.numActiveMatPerRow * o.bank.numActiveMatPerColumn
  { o.toFunctionUnit with
    readLatency := o.mat.readLatency
    writeLatency := o.mat.writeLatency
    readDynamicEnergy := o.mat.readDynamicEnergy * numActiveMat
    writeDynamicEnergy := o.mat.writeDynamicEnergy * numActiveMat
    leakage := o.mat.leakage * (o.bank.numRowMat * o.bank.numColumnMat)
    cellReadEnergy := o.mat.cellReadEnergy * numActiveMat
    cellSetEnergy := o.mat.cellSetEnergy * numActiveMat
    cellResetEnergy := o.mat.cellResetEnergy * numActiveMat
    resetLatency := o.mat.resetLatency
    setLatency := o.mat.setLatency
    resetDynamicEnergy := o.mat.resetDynamicEnergy * numActiveMat
    setDynamicEnergy := o.mat.setDynamicEnergy * numActiveMat }

/-- The two loops over the levels. -/
def addWires (wire : K → WireMeasures K) (beta : K) (o : HtreeObject K) (u : FunctionUnit K) :
    Option (FunctionUnit K) := do
  let u ← (List.range o.bank.levelHorizontal).foldlM
    (addLevel wire beta o.lengthHorizontalWire o.bank.horizontal) u
  (List.range o.bank.levelVertical).foldlM
    (addLevel wire beta o.lengthVerticalWire o.bank.vertical) u

/-- `BankWithHtree::CalculateLatencyAndPower`.  The address of an access arrives at the mats
with an infinite ramp. -/
def calculateLatencyAndPower (g : Globals K) (wire : K → WireMeasures K) (o : HtreeObject K) :
    Option (HtreeObject K) :=
  if o.bank.invalid then
    some { o with
      readLatency := worstCase
      writeLatency := worstCase
      readDynamicEnergy := worstCase
      writeDynamicEnergy := worstCase
      leakage := worstCase }
  else do
    let o := { o with mat := (o.mat.calculateLatency g worstCase).calculatePower g o.bank.mat }
    let u ← o.addWires wire g.inputParameter.writeSharing o.fromMats
    some { o with toFunctionUnit := u }

end HtreeObject

/-- `CalculateArea` and `CalculateLatencyAndPower` of a bank that `Initialize` left valid.
`memory` and `unset` are what the fields of the circuits held, `received` what the receiver of
a low-swing wire held. -/
def evaluateHtree {K : Type} [Field K] [LinearOrder K] [FloorRing K] (g : Globals K)
    (globalWire : WireObject K) (received : K) (bank : BankWithHtree) (mat : MatObject K) :
    Option (HtreeObject K) := do
  let o ← HtreeObject.calculateArea g globalWire.sharing
    { toFunctionUnit := .fresh
      bank := bank
      mat := mat
      lengthHorizontalWire := .allocate bank.levelHorizontal
      lengthVerticalWire := .allocate bank.levelVertical }
  o.calculateLatencyAndPower g (globalWire.calculateLatencyAndPower g received)

end NVSim
