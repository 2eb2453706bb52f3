import NVSim.Library.LoopNest
import NVSim.Model.Search

/-!
# The loop variables of `BIGFOR` as machine integers

`bigFor` counts exactly.  Here the variables are of type `int`: a doubling, or an increment,
that is no `int` any more has no meaning in the source language, and what it delivers is the
parameter `overflow`.  Every loop of the nest gets the same fuel.
-/

namespace NVSim

open Library

/-- `x *= 2`. -/
def doubleInt (overflow : ℤ → ℤ) (x : ℤ) : ℤ :=
  if -2 ^ 31 ≤ x * 2 ∧ x * 2 < 2 ^ 31 then x * 2 else overflow x

/-- `x++`. -/
def incrementInt (overflow : ℤ → ℤ) (x : ℤ) : ℤ :=
  if x + 1 < 2 ^ 31 then x + 1 else overflow x

namespace Range

/-- Both bounds limited by `MIN(n, …)`. -/
def limit (n : ℤ) (r : Range) : Range := ⟨Min.min n r.min, Min.min n r.max⟩

/-- The values of `for (x = min; x <= max; x *= 2)`. -/
def doubled (overflow : ℤ → ℤ) (fuel : ℕ) (r : Range) : Option (List ℤ) :=
  walk (doubleInt overflow) r.max fuel r.min

/-- The values of `for (x = min; x <= max; x++)`. -/
def incremented (overflow : ℤ → ℤ) (fuel : ℕ) (r : Range) : Option (List ℤ) :=
  walk (incrementInt overflow) r.max fuel r.min

end Range

/-- The loop variables. -/
@[ext] structure IntCandidate where
  numRowMat : ℤ
  numColumnMat : ℤ
  numActiveMatPerRow : ℤ
  numActiveMatPerColumn : ℤ
  numRowSubarray : ℤ
  numColumnSubarray : ℤ
  numActiveSubarrayPerRow : ℤ
  numActiveSubarrayPerColumn : ℤ
  muxSenseAmp : ℤ
  muxOutputLev1 : ℤ
  muxOutputLev2 : ℤ
  numRowPerSet : ℤ
  areaOptimizationLevel : ℤ
deriving DecidableEq, Repr

/-- The macro `BIGFOR`, without the body that stands behind it. -/
def bigForInt (overflow : ℤ → ℤ) (fuel : ℕ) (space : SearchSpace) (associativity : ℤ) :
    Option (List IntCandidate) :=
  forLoop (space.numRowMat.doubled overflow fuel) fun numRowMat =>
  forLoop (space.numColumnMat.doubled overflow fuel) fun numColumnMat =>
  forLoop ((space.numActiveMatPerRow.limit numColumnMat).doubled overflow fuel)
    fun numActiveMatPerRow =>
  forLoop ((space.numActiveMatPerColumn.limit numRowMat).doubled overflow fuel)
    fun numActiveMatPerColumn =>
  forLoop (space.numRowSubarray.doubled overflow fuel) fun numRowSubarray =>
  forLoop (space.numColumnSubarray.doubled overflow fuel) fun numColumnSubarray =>
  forLoop ((space.numActiveSubarrayPerRow.limit numColumnSubarray).doubled overflow fuel)
    fun numActiveSubarrayPerRow =>
  forLoop ((space.numActiveSubarrayPerColumn.limit numRowSubarray).doubled overflow fuel)
    fun numActiveSubarrayPerColumn =>
  forLoop (space.muxSenseAmp.doubled overflow fuel) fun muxSenseAmp =>
  forLoop (space.muxOutputLev1.doubled overflow fuel) fun muxOutputLev1 =>
  forLoop (space.muxOutputLev2.doubled overflow fuel) fun muxOutputLev2 =>
  forLoop ((⟨space.numRowPerSet.min, min space.numRowPerSet.max associativity⟩ : Range).doubled
    overflow fuel) fun numRowPerSet =>
  forLoop (space.areaOptimizationLevel.incremented overflow fuel) fun areaOptimizationLevel =>
  some [{
    numRowMat := numRowMat
    numColumnMat, numActiveMatPerRow, numActiveMatPerColumn, numRowSubarray, numColumnSubarray,
    numActiveSubarrayPerRow, numActiveSubarrayPerColumn, muxSenseAmp, muxOutputLev1,
    muxOutputLev2, numRowPerSet, areaOptimizationLevel }]

namespace IntCandidate

/-- The counts that are given to the bank. -/
def toCandidate (c : IntCandidate) : Candidate where
  numRowMat := c.numRowMat.toNat
  numColumnMat := c.numColumnMat.toNat
  numActiveMatPerRow := c.numActiveMatPerRow.toNat
  numActiveMatPerColumn := c.numActiveMatPerColumn.toNat
  numRowSubarray := c.numRowSubarray.toNat
  numColumnSubarray := c.numColumnSubarray.toNat
  numActiveSubarrayPerRow := c.numActiveSubarrayPerRow.toNat
  numActiveSubarrayPerColumn := c.numActiveSubarrayPerColumn.toNat
  muxSenseAmp := c.muxSenseAmp.toNat
  muxOutputLev1 := c.muxOutputLev1.toNat
  muxOutputLev2 := c.muxOutputLev2.toNat
  numRowPerSet := c.numRowPerSet.toNat
  areaOptimizationLevel := .ofCode c.areaOptimizationLevel.toNat

/-- The lines that force the bank, the mat and the multiplexers of a candidate. -/
def forceLines (K : Type) (c : IntCandidate) : List (ConfigLine K) :=
  [.forceBank (some c.numRowMat) (some c.numColumnMat) (some c.numActiveMatPerColumn)
      (some c.numActiveMatPerRow),
    .forceMat (some c.numRowSubarray) (some c.numColumnSubarray)
      (some c.numActiveSubarrayPerColumn) (some c.numActiveSubarrayPerRow),
    .forceMuxSenseAmp (some c.muxSenseAmp),
    .forceMuxOutputLev1 (some c.muxOutputLev1),
    .forceMuxOutputLev2 (some c.muxOutputLev2)]

end IntCandidate

/-- The search spaces that `main` enumerates, each with the associativity: the reduced one for
the tags of a cache, and the one that is read for the data. -/
def enumeratedSpaces {K : Type} (file : List (ConfigLine K)) (memCellType : MemCellType)
    (ip : InputParameter K) : Except Halt (List (SearchSpace × ℤ)) := do
  let ip ← configure file memCellType ip
  if ip.designTarget = .cache then
    let again ← configure file memCellType ip.reduceSearchSize
    .ok [(ip.reduceSearchSize.toSearchSpace, ip.associativity),
      (again.dataSpace, again.associativity)]
  else .ok [(ip.dataSpace, ip.associativity)]

end NVSim
