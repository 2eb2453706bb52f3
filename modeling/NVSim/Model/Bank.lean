import NVSim.Model.Mat

/-!
# What the two bank organisations share

The stored parameters of `Bank`, the clamping of the active counts and the
redistribution of several cache ways per row over the three multiplexer levels,
which `BankWithHtree::Initialize` and `BankWithoutHtree::Initialize` contain
word for word.
-/

namespace NVSim

open Library

/-- The arguments of the `Initialize` functions of a bank.  They are stored in
the bank under the same names. -/
structure BankParams where
  numRowMat : ℕ
  numColumnMat : ℕ
  capacity : ℕ
  blockSize : ℕ
  associativity : ℕ
  numRowPerSet : ℕ
  numActiveMatPerRow : ℕ
  numActiveMatPerColumn : ℕ
  muxSenseAmp : ℕ
  internalSenseAmp : Bool
  muxOutputLev1 : ℕ
  muxOutputLev2 : ℕ
  numRowSubarray : ℕ
  numColumnSubarray : ℕ
  numActiveSubarrayPerRow : ℕ
  numActiveSubarrayPerColumn : ℕ
  areaOptimizationLevel : BufferDesignTarget
  memoryType : MemoryType
deriving DecidableEq, Repr

variable {ι : Type}

/-- A bank: its stored parameters, its flags and its mat. -/
structure Bank (ι : Type := ℕ) extends BankParams where
  initialized : Bool
  invalid : Bool
  mat : Mat ι
deriving DecidableEq, Repr

namespace BankParams

/-- More active mats or subarrays than there are is replaced, with a warning, by
all of them. -/
def clampActive (p : BankParams) : BankParams :=
  { p with
    numActiveMatPerRow :=
      if p.numActiveMatPerRow > p.numColumnMat then p.numColumnMat else p.numActiveMatPerRow
    numActiveMatPerColumn :=
      if p.numActiveMatPerColumn > p.numRowMat then p.numRowMat else p.numActiveMatPerColumn
    numActiveSubarrayPerRow :=
      if p.numActiveSubarrayPerRow > p.numColumnSubarray then p.numColumnSubarray
      else p.numActiveSubarrayPerRow
    numActiveSubarrayPerColumn :=
      if p.numActiveSubarrayPerColumn > p.numRowSubarray then p.numRowSubarray
      else p.numActiveSubarrayPerColumn }

/-- The number of bank address bits. -/
def numAddressBit (p : BankParams) : ℤ :=
  log2RoundedRatio p.capacity (p.blockSize * p.associativity)

/-- Multiple ways per row need extra mux levels: the mux degrees are multiplied
by powers of two whose product is `numWayPerRow`. -/
def expandMux (memCellType : MemCellType) (numWayPerRow : ℕ) (p : BankParams) : BankParams :=
  if numWayPerRow > 1 then
    let numWayPerRowInLog := log2Rounded numWayPerRow
    if memCellType.isDram then
      -- mux before sense amp has to be 1, only mux output1 and mux output2 can be used
      let extraMuxOutputLev2 := 2 ^ (numWayPerRowInLog / 2)
      let extraMuxOutputLev1 := numWayPerRow / extraMuxOutputLev2
      { p with
        muxOutputLev1 := p.muxOutputLev1 * extraMuxOutputLev1
        muxOutputLev2 := p.muxOutputLev2 * extraMuxOutputLev2 }
    else
      let extraMuxOutputLev2 := 2 ^ (numWayPerRowInLog / 3)
      let extraMuxOutputLev1 := extraMuxOutputLev2
      let extraMuxSenseAmp := numWayPerRow / extraMuxOutputLev1 / extraMuxOutputLev2
      { p with
        muxSenseAmp := p.muxSenseAmp * extraMuxSenseAmp
        muxOutputLev1 := p.muxOutputLev1 * extraMuxOutputLev1
        muxOutputLev2 := p.muxOutputLev2 * extraMuxOutputLev2 }
  else p

/-- `muxSenseAmp * muxOutputLev1 * muxOutputLev2`. -/
def muxDegree (p : BankParams) : ℕ := p.muxSenseAmp * p.muxOutputLev1 * p.muxOutputLev2

/-- Only a data array redistributes its ways over the multiplexers. -/
def expandDataMux (memCellType : MemCellType) (numWay : ℕ) (p : BankParams) : BankParams :=
  match p.memoryType with
  | .data => p.expandMux memCellType (numWay / p.numRowPerSet)
  | _ => p

/-- Put the mux degrees of the call back, for correct printing. -/
def restoreMux (args p : BankParams) : BankParams :=
  { p with
    muxSenseAmp := args.muxSenseAmp
    muxOutputLev1 := args.muxOutputLev1
    muxOutputLev2 := args.muxOutputLev2 }

/-- The arguments of the call of `Mat::Initialize`, from the stored parameters
and the three quantities the bank routed to the mat. -/
def toMatParams (p : BankParams) (numAddressBit : ℤ) (numDataBit : ι) (numWay : ℕ) :
    MatParams ι where
  numRowSubarray := p.numRowSubarray
  numColumnSubarray := p.numColumnSubarray
  numAddressBit := numAddressBit
  numDataBit := numDataBit
  numWay := numWay
  numRowPerSet := p.numRowPerSet
  split := false
  numActiveSubarrayPerRow := p.numActiveSubarrayPerRow
  numActiveSubarrayPerColumn := p.numActiveSubarrayPerColumn
  muxSenseAmp := p.muxSenseAmp
  internalSenseAmp := p.internalSenseAmp
  muxOutputLev1 := p.muxOutputLev1
  muxOutputLev2 := p.muxOutputLev2
  areaOptimizationLevel := p.areaOptimizationLevel
  memoryType := p.memoryType

/-- The stored parameters at the call of `Mat::Initialize`, and its arguments,
for the data bits and the ways routed to one mat, if their number is legal. -/
def matCall (memCellType : MemCellType) (p : BankParams) (numAddressBit : ℤ) :
    Option (ι × ℕ) → Option (BankParams × MatParams ι)
  | none => none
  | some (numDataBit, numWay) =>
      let q := p.expandDataMux memCellType numWay
      some (q, q.toMatParams numAddressBit numDataBit numWay)

theorem matCall_eq_some {memCellType : MemCellType} {p q : BankParams} {numAddressBit : ℤ}
    {bits : Option (ι × ℕ)} {matParams : MatParams ι}
    (h : p.matCall memCellType numAddressBit bits = some (q, matParams)) :
    ∃ numDataBit numWay, bits = some (numDataBit, numWay) ∧
      q = p.expandDataMux memCellType numWay ∧
      matParams = q.toMatParams numAddressBit numDataBit numWay := by
  cases bits with
  | none => cases h
  | some bits =>
      obtain ⟨numDataBit, numWay⟩ := bits
      simp only [matCall, Option.some.injEq, Prod.mk.injEq] at h
      obtain ⟨rfl, rfl⟩ := h
      exact ⟨numDataBit, numWay, rfl, rfl, rfl⟩

/-- Expanding the multiplexers changes nothing but their degrees. -/
theorem expandMux_eq (memCellType : MemCellType) (numWayPerRow : ℕ) (p : BankParams) :
    ∃ muxSenseAmp muxOutputLev1 muxOutputLev2, p.expandMux memCellType numWayPerRow =
      { p with muxSenseAmp := muxSenseAmp, muxOutputLev1 := muxOutputLev1,
               muxOutputLev2 := muxOutputLev2 } := by
  unfold expandMux
  split
  · dsimp only
    split
    · exact ⟨_, _, _, rfl⟩
    · exact ⟨_, _, _, rfl⟩
  · exact ⟨_, _, _, rfl⟩

theorem expandDataMux_eq (memCellType : MemCellType) (numWay : ℕ) (p : BankParams) :
    ∃ muxSenseAmp muxOutputLev1 muxOutputLev2, p.expandDataMux memCellType numWay =
      { p with muxSenseAmp := muxSenseAmp, muxOutputLev1 := muxOutputLev1,
               muxOutputLev2 := muxOutputLev2 } := by
  unfold expandDataMux
  split
  · exact expandMux_eq memCellType (numWay / p.numRowPerSet) p
  · exact ⟨_, _, _, rfl⟩

theorem restoreMux_expandDataMux (memCellType : MemCellType) (numWay : ℕ) (args p : BankParams) :
    args.restoreMux (p.expandDataMux memCellType numWay) = args.restoreMux p := by
  obtain ⟨_, _, _, h⟩ := expandDataMux_eq memCellType numWay p
  rw [h]
  rfl

end BankParams

/-- A small data array, for examples: 256 sets of four 512-bit blocks in eight mats. -/
def BankParams.small : BankParams where
  numRowMat := 2
  numColumnMat := 4
  capacity := 512 * 4 * 256
  blockSize := 512
  associativity := 4
  numRowPerSet := 1
  numActiveMatPerRow := 2
  numActiveMatPerColumn := 1
  muxSenseAmp := 1
  internalSenseAmp := true
  muxOutputLev1 := 1
  muxOutputLev2 := 1
  numRowSubarray := 2
  numColumnSubarray := 2
  numActiveSubarrayPerRow := 2
  numActiveSubarrayPerColumn := 1
  areaOptimizationLevel := .latencyFirst
  memoryType := .data

namespace Bank

/-- `invalid = true; initialized = true; return;` before the mat is initialised. -/
def rejected [OfNat ι 0] (p : BankParams) : Bank ι where
  toBankParams := p
  initialized := true
  invalid := true
  mat := .fresh

/-- The number of cells of all subarrays, which `VERIFY_DATA_CAPACITY` and
`VERIFY_TAG_CAPACITY` compare with the capacity. -/
def storedCapacity (b : Bank) : ℕ :=
  b.mat.subarray.numColumn * b.mat.subarray.numRow * b.numColumnMat * b.numRowMat *
    b.numColumnSubarray * b.numRowSubarray

/-- `invalid = true; return;` without setting `initialized`. -/
def unsupported [OfNat ι 0] (p : BankParams) : Bank ι where
  toBankParams := p
  initialized := false
  invalid := true
  mat := .fresh

end Bank

end NVSim
