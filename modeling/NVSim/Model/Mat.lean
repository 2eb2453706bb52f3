import NVSim.Library.RoundedLog
import NVSim.Model.Typedef

/-!
# The mat

`Mat::Initialize` turns the address and data bits that reach a mat into the row
and column counts of a subarray, and the address bits into the widths of the
predecoder blocks.  Integers are exact here.  The sizes are naturals; only the
number of address bits, which the bank decreases and compares with zero, can be
negative.  The structures are generic in the type of the data bits, the rows and the
columns, which `NVSim.Model.MatInts` counts with the `long long` of the source.

The electrical part of `SubArray::Initialize` is a parameter: `Electrical` says
for which subarrays it sets `invalid`.
-/

namespace NVSim

open Library

variable {ι : Type}

/-- The arguments of `SubArray::Initialize`; it stores all of them. -/
structure SubArray (ι : Type := ℕ) where
  numRow : ι
  numColumn : ι
  multipleRowPerSet : Bool
  split : Bool
  muxSenseAmp : ℕ
  internalSenseAmp : Bool
  muxOutputLev1 : ℕ
  muxOutputLev2 : ℕ
  areaOptimizationLevel : BufferDesignTarget
deriving DecidableEq, Repr

/-- The arguments of `Mat::Initialize`, which are also its stored properties. -/
structure MatParams (ι : Type := ℕ) where
  numRowSubarray : ℕ
  numColumnSubarray : ℕ
  numAddressBit : ℤ
  numDataBit : ι
  numWay : ℕ
  numRowPerSet : ℕ
  split : Bool
  numActiveSubarrayPerRow : ℕ
  numActiveSubarrayPerColumn : ℕ
  muxSenseAmp : ℕ
  internalSenseAmp : Bool
  muxOutputLev1 : ℕ
  muxOutputLev2 : ℕ
  areaOptimizationLevel : BufferDesignTarget
  memoryType : MemoryType
deriving DecidableEq, Repr

/-- The `return` with `invalid = true` that `Mat::Initialize` took. -/
inductive MatReject
  | addressBit | numRow | numColumn | subarray | rowPredecoder
deriving DecidableEq, Repr

/-- A mat.  Of a predecoder block only the number of address bits it is
initialised with is kept, and of the comparator its tag width. -/
structure Mat (ι : Type := ℕ) extends MatParams ι where
  initialized : Bool
  invalid : Bool
  reject : Option MatReject
  subarray : SubArray ι
  rowPredecoderBlock1 : ℕ
  rowPredecoderBlock2 : ℕ
  bitlineMuxPredecoderBlock1 : ℕ
  bitlineMuxPredecoderBlock2 : ℕ
  senseAmpMuxLev1PredecoderBlock1 : ℕ
  senseAmpMuxLev1PredecoderBlock2 : ℕ
  senseAmpMuxLev2PredecoderBlock1 : ℕ
  senseAmpMuxLev2PredecoderBlock2 : ℕ
  comparator : Option ι
deriving DecidableEq, Repr

/-- What the electrical models decide: whether `SubArray::Initialize` accepts a
subarray, and whether the global sense amplifiers of an externally sensed bank
fit (`numSenseAmp` of them along `numColumnMat` mats). -/
structure Electrical (ι : Type := ℕ) where
  subArrayInvalid : SubArray ι → Bool
  globalSenseAmpInvalid : (numSenseAmp numColumnMat : ℕ) → Mat ι → Bool

/-- Electrical models that accept everything, for examples. -/
def Electrical.permissive : Electrical ι where
  subArrayInvalid := fun _ => false
  globalSenseAmpInvalid := fun _ _ _ => false

/-- A subarray object no `Initialize` was called on. -/
def SubArray.fresh [OfNat ι 0] : SubArray ι where
  numRow := 0
  numColumn := 0
  multipleRowPerSet := false
  split := false
  muxSenseAmp := 0
  internalSenseAmp := false
  muxOutputLev1 := 0
  muxOutputLev2 := 0
  areaOptimizationLevel := .latencyFirst

namespace MatParams

/-- More active subarrays than there are subarrays is replaced, with a warning,
by all of them. -/
def clampActive (p : MatParams ι) : MatParams ι :=
  { p with
    numActiveSubarrayPerRow :=
      if p.numActiveSubarrayPerRow > p.numColumnSubarray then p.numColumnSubarray
      else p.numActiveSubarrayPerRow
    numActiveSubarrayPerColumn :=
      if p.numActiveSubarrayPerColumn > p.numRowSubarray then p.numRowSubarray
      else p.numActiveSubarrayPerColumn }

/-- `muxSenseAmp * muxOutputLev1 * muxOutputLev2`. -/
def muxDegree (p : MatParams ι) : ℕ := p.muxSenseAmp * p.muxOutputLev1 * p.muxOutputLev2

/-- The number of address bits that are used to power gate inactive subarrays. -/
def numAddressForGating (p : MatParams ι) : ℕ :=
  log2Rounded (p.numRowSubarray * p.numColumnSubarray / p.numActiveSubarrayPerColumn /
    p.numActiveSubarrayPerRow)

/-- The address bits left for the rows and the multiplexers of a subarray. -/
def effectiveAddressBit (p : MatParams ι) : ℤ := p.numAddressBit - p.numAddressForGating

/-- The number of rows in a subarray. -/
def numRow (p : MatParams ι) : ℕ :=
  (if p.memoryType = .data then 2 ^ p.effectiveAddressBit.toNat * p.numWay
    else 2 ^ p.effectiveAddressBit.toNat) / p.muxDegree

/-- The data bits one active subarray delivers, before the multiplexers. -/
def numColumnSelected (p : MatParams) : ℕ :=
  p.numDataBit / (p.numActiveSubarrayPerRow * p.numActiveSubarrayPerColumn)

/-- The number of columns in a subarray. -/
def numColumn (p : MatParams) : ℕ :=
  if p.memoryType = .tag then p.numColumnSelected * p.muxDegree * p.numWay
  else p.numColumnSelected * p.muxDegree

/-- The address bits on row decoding. -/
def numAddressRowPredecoder (p : MatParams ι) : ℤ :=
  p.effectiveAddressBit - log2Rounded p.muxDegree

/-- The call of `SubArray::Initialize` for the rows and columns of a subarray. -/
def subarrayOf (p : MatParams ι) (numRow numColumn : ι) : SubArray ι where
  numRow := numRow
  numColumn := numColumn
  multipleRowPerSet := decide (p.numRowPerSet > 1)
  split := true
  muxSenseAmp := p.muxSenseAmp
  internalSenseAmp := p.internalSenseAmp
  muxOutputLev1 := p.muxOutputLev1
  muxOutputLev2 := p.muxOutputLev2
  areaOptimizationLevel := p.areaOptimizationLevel

/-- The subarray `Mat::Initialize` initialises. -/
def subarray (p : MatParams) : SubArray := p.subarrayOf p.numRow p.numColumn

end MatParams

/-- A predecoder of more than three address bits is split into two blocks. -/
def predecoderBlocks (numAddress : ℕ) : ℕ × ℕ :=
  if numAddress > 3 then (numAddress - numAddress / 2, numAddress / 2) else (numAddress, 0)

namespace Mat

/-- A mat with the stored properties `p` on which nothing else was set yet. -/
def ofParams [OfNat ι 0] (p : MatParams ι) : Mat ι where
  toMatParams := p
  initialized := false
  invalid := false
  reject := none
  subarray := .fresh
  rowPredecoderBlock1 := 0
  rowPredecoderBlock2 := 0
  bitlineMuxPredecoderBlock1 := 0
  bitlineMuxPredecoderBlock2 := 0
  senseAmpMuxLev1PredecoderBlock1 := 0
  senseAmpMuxLev1PredecoderBlock2 := 0
  senseAmpMuxLev2PredecoderBlock1 := 0
  senseAmpMuxLev2PredecoderBlock2 := 0
  comparator := none

/-- A mat object no `Initialize` was called on. -/
def fresh [OfNat ι 0] : Mat ι :=
  ofParams {
    numRowSubarray := 0
    numColumnSubarray := 0
    numAddressBit := 0
    numDataBit := 0
    numWay := 0
    numRowPerSet := 0
    split := false
    numActiveSubarrayPerRow := 0
    numActiveSubarrayPerColumn := 0
    muxSenseAmp := 0
    internalSenseAmp := false
    muxOutputLev1 := 0
    muxOutputLev2 := 0
    areaOptimizationLevel := .latencyFirst
    memoryType := .data }

/-- `invalid = true; initialized = true; return;` -/
def rejected [OfNat ι 0] (p : MatParams ι) (why : MatReject) (subarray : SubArray ι) : Mat ι :=
  { ofParams p with initialized := true, invalid := true, reject := some why, subarray := subarray }

/-- The end of `Mat::Initialize`, where all predecoder blocks are initialised, for the subarray
and the address bits on row decoding. -/
def acceptedWith (p : MatParams ι) (subarray : SubArray ι) (numAddressRowPredecoder : ℕ) : Mat ι :=
  let row := predecoderBlocks numAddressRowPredecoder
  let bitlineMux := predecoderBlocks (log2Rounded p.muxSenseAmp)
  let senseAmpMuxLev1 := predecoderBlocks (log2Rounded p.muxOutputLev1)
  let senseAmpMuxLev2 := predecoderBlocks (log2Rounded p.muxOutputLev2)
  { toMatParams := p
    initialized := true
    invalid := false
    reject := none
    subarray := subarray
    rowPredecoderBlock1 := row.1
    rowPredecoderBlock2 := row.2
    bitlineMuxPredecoderBlock1 := bitlineMux.1
    bitlineMuxPredecoderBlock2 := bitlineMux.2
    senseAmpMuxLev1PredecoderBlock1 := senseAmpMuxLev1.1
    senseAmpMuxLev1PredecoderBlock2 := senseAmpMuxLev1.2
    senseAmpMuxLev2PredecoderBlock1 := senseAmpMuxLev2.1
    senseAmpMuxLev2PredecoderBlock2 := senseAmpMuxLev2.2
    comparator :=
      if p.memoryType = .tag ∧ p.internalSenseAmp then some p.numDataBit else none }

def accepted (p : MatParams) : Mat := acceptedWith p p.subarray p.numAddressRowPredecoder.toNat

end Mat

/-- `Mat::Initialize`. -/
def initializeMat (el : Electrical) (args : MatParams) : Mat :=
  let p := args.clampActive
  -- too aggressive partitioning
  if p.effectiveAddressBit ≤ 0 then .rejected p .addressBit .fresh
  else if p.numRow = 0 then .rejected p .numRow .fresh
  else if p.numColumnSelected = 0 then .rejected p .numColumn .fresh
  else if el.subArrayInvalid p.subarray then .rejected p .subarray p.subarray
  else if p.numAddressRowPredecoder < 0 then .rejected p .rowPredecoder p.subarray
  else .accepted p

/-- What `Mat::Initialize` checked of a mat it accepts. -/
structure MatParams.Legal (el : Electrical) (p : MatParams) : Prop where
  addressBit : 0 < p.effectiveAddressBit
  numRow : 0 < p.numRow
  numColumn : 0 < p.numColumnSelected
  subarray : el.subArrayInvalid p.subarray = false
  rowPredecoder : 0 ≤ p.numAddressRowPredecoder

theorem initializeMat_of_legal {el : Electrical} {args : MatParams}
    (h : args.clampActive.Legal el) : initializeMat el args = .accepted args.clampActive := by
  have hrow := h.numRow.ne'
  have hcolumn := h.numColumn.ne'
  have hpredecoder := h.rowPredecoder
  unfold initializeMat
  simp only [h.subarray, not_le.2 h.addressBit, hrow, hcolumn, not_lt.2 hpredecoder, if_false,
    Bool.false_eq_true]

/-- The mats `Mat::Initialize` accepts are the legal ones. -/
theorem initializeMat_invalid_iff {el : Electrical} {args : MatParams} :
    (initializeMat el args).invalid = false ↔ args.clampActive.Legal el := by
  constructor
  · intro hvalid
    unfold initializeMat at hvalid
    by_cases haddress : args.clampActive.effectiveAddressBit ≤ 0
    · simp [haddress, Mat.rejected] at hvalid
    by_cases hrow : args.clampActive.numRow = 0
    · simp [haddress, hrow, Mat.rejected] at hvalid
    by_cases hcolumn : args.clampActive.numColumnSelected = 0
    · simp [haddress, hrow, hcolumn, Mat.rejected] at hvalid
    by_cases hsubarray : el.subArrayInvalid args.clampActive.subarray = true
    · simp [haddress, hrow, hcolumn, hsubarray, Mat.rejected] at hvalid
    by_cases hpredecoder : args.clampActive.numAddressRowPredecoder < 0
    · simp [haddress, hrow, hcolumn, hsubarray, hpredecoder, Mat.rejected] at hvalid
    exact ⟨not_le.1 haddress, Nat.pos_of_ne_zero hrow, Nat.pos_of_ne_zero hcolumn,
      Bool.eq_false_iff.2 hsubarray, not_lt.1 hpredecoder⟩
  · intro hlegal
    rw [initializeMat_of_legal hlegal]
    rfl

end NVSim
