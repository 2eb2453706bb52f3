import Mathlib.Algebra.Order.Floor.Ring
import NVSim.Library.CheckedArray
import NVSim.Library.Loop
import NVSim.Library.Numerals
import NVSim.Library.TracedArray

/-!
# The wire lengths of the H-tree

The end of `BankWithHtree::CalculateArea`: two counters run down from the innermost level of
either dimension, through three loops, and every wire is about twice as long as the next one
further inside.

The lengths are `TracedArray`s, the bits to route are arrays with one entry for each level; an
access out of range, or a read of a length that was not assigned, makes the result `none`.  A
division by a `numWireSharingWidth` of zero is the one of the field.
-/

namespace NVSim

open Library

/-- The bits that are routed on every level of one dimension. -/
structure BitsToRoute (level : ℕ) where
  numAddressBitToRoute : CheckedArray ℕ level
  numDataDistributeBitToRoute : CheckedArray ℕ level
  numDataBroadcastBitToRoute : CheckedArray ℕ level

/-- All bits that are routed on level `i`. -/
def BitsToRoute.total {level : ℕ} (b : BitsToRoute level) (i : ℤ) : Option ℕ := do
  let address ← (b.numAddressBitToRoute.read i).toOption
  let dataDistribute ← (b.numDataDistributeBitToRoute.read i).toOption
  let dataBroadcast ← (b.numDataBroadcastBitToRoute.read i).toOption
  some (address + dataDistribute + dataBroadcast)

/-- What the lengths are computed from. -/
structure HtreeWires (K : Type) where
  levelHorizontal : ℕ
  levelVertical : ℕ
  matHeight : K
  matWidth : K
  horizontalBits : BitsToRoute levelHorizontal
  verticalBits : BitsToRoute levelVertical
  numWireSharingWidth : ℕ
  effectivePitch : K

/-- The two counters and the lengths. -/
structure WireLengths (K : Type) where
  h : ℤ
  v : ℤ
  lengthHorizontalWire : TracedArray K
  lengthVerticalWire : TracedArray K

namespace HtreeWires

variable {K : Type} [Field K]

/-- The wire of level `i` where only one dimension is left: the innermost one is as long as
`mat`, and any other twice as long as the next. -/
def doubled (lengths : TracedArray K) (level : ℕ) (mat : K) (i : ℤ) : Option K :=
  if i = level - 1 then some mat else (lengths.read (i + 1)).map (· * 2)

variable [LinearOrder K] [FloorRing K] (w : HtreeWires K)

/-- What the wires of `bits` bits add to the length of the wire across them. -/
def detour (bits : ℕ) : K :=
  (⌈(bits : K) / w.numWireSharingWidth⌉ : K) * w.effectivePitch / 2

/-- One iteration of `while (v > h)`. -/
def verticalOnly (s : WireLengths K) : Option (WireLengths K) := do
  let length ← doubled s.lengthVerticalWire w.levelVertical (w.matHeight / 2) s.v
  let lengthVerticalWire ← s.lengthVerticalWire.write s.v length
  some { s with lengthVerticalWire, v := s.v - 1 }

/-- `for (int i = v; i < levelVertical; i++)`: the innermost horizontal wire crosses the
vertical wires from level `v` on. -/
def crossVertical (s : WireLengths K) (lengthHorizontalWire : TracedArray K) :
    Option (TracedArray K) :=
  (List.range' s.v.toNat (w.levelVertical - s.v.toNat)).foldlM (fun lengths (i : ℕ) => do
    let numVerticalBitToRoute ← w.verticalBits.total i
    lengths.accumulate s.h (· + w.detour numVerticalBitToRoute)) lengthHorizontalWire

/-- The vertical wire in an iteration of `while (v >= 0)`. -/
def verticalLength (s : WireLengths K) : Option K :=
  if s.v = w.levelVertical - 1 then some (w.matHeight / 2)
  else if s.h = w.levelHorizontal - 1 then
    (s.lengthVerticalWire.read (s.v + 1)).map (· * 2)
  else do
    let numHorizontalBitToRoute ← w.horizontalBits.total (s.h + 1)
    let inner ← s.lengthVerticalWire.read (s.v + 1)
    some (inner * 2 + w.detour numHorizontalBitToRoute)

/-- The horizontal wire in an iteration of `while (v >= 0)`. -/
def writeHorizontal (s : WireLengths K) : Option (TracedArray K) :=
  if s.h = w.levelHorizontal - 1 then do
    let lengths ← s.lengthHorizontalWire.write s.h w.matWidth
    w.crossVertical s lengths
  else do
    let numVerticalBitToRoute ← w.verticalBits.total s.v
    let inner ← s.lengthHorizontalWire.read (s.h + 1)
    s.lengthHorizontalWire.write s.h (inner * 2 + w.detour numVerticalBitToRoute)

/-- One iteration of `while (v >= 0)`. -/
def both (s : WireLengths K) : Option (WireLengths K) := do
  let length ← w.verticalLength s
  let lengthVerticalWire ← s.lengthVerticalWire.write s.v length
  let lengthHorizontalWire ← w.writeHorizontal s
  some { h := s.h - 1, v := s.v - 1, lengthHorizontalWire, lengthVerticalWire }

/-- One iteration of `while (h >= 0)`. -/
def horizontalOnly (s : WireLengths K) : Option (WireLengths K) := do
  let length ← doubled s.lengthHorizontalWire w.levelHorizontal w.matWidth s.h
  let lengthHorizontalWire ← s.lengthHorizontalWire.write s.h length
  some { s with lengthHorizontalWire, h := s.h - 1 }

/-- The arrays are as long as there are levels, and nothing is assigned. -/
def start : WireLengths K where
  h := w.levelHorizontal - 1
  v := w.levelVertical - 1
  lengthHorizontalWire := .allocate w.levelHorizontal
  lengthVerticalWire := .allocate w.levelVertical

/-- The three loops, each of at most `fuel` iterations. -/
def calculateLengths (fuel : ℕ) : Option (WireLengths K) := do
  let s ← loop (fun s => s.v > s.h) w.verticalOnly fuel w.start
  let s ← loop (fun s => s.v ≥ 0) w.both fuel s
  loop (fun s => s.h ≥ 0) w.horizontalOnly fuel s

end HtreeWires

end NVSim
