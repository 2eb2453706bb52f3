import Mathlib.Data.Nat.Notation
import NVSim.Library.Numerals

/-!
# Enumerations

The enumerations of `typedef.h` that the search and the bank organisation use.
Constructors keep the order, and hence the integer values, of the source.
-/

namespace NVSim

inductive MemCellType
  | sram | dram | eDRAM | mram | pcram | memristor | fbram | slcNAND | mlcNAND
deriving DecidableEq, Repr

inductive CellAccessType
  | cmosAccess | bjtAccess | diodeAccess | noneAccess
deriving DecidableEq, Repr

inductive DeviceRoadmap
  | hp | lstp | lop
deriving DecidableEq, Repr

inductive WireType
  | localAggressive | localConservative | semiAggressive | semiConservative
  | globalAggressive | globalConservative | dramWordline
deriving DecidableEq, Repr

inductive WireRepeaterType
  | repeatedNone | repeatedOpt | repeated5 | repeated10 | repeated20 | repeated30
  | repeated40 | repeated50
deriving DecidableEq, Repr

inductive BufferDesignTarget
  | latencyFirst | latencyAreaTradeOff | areaFirst
deriving DecidableEq, Repr

inductive MemoryType
  | data | tag | cam
deriving DecidableEq, Repr

inductive RoutingMode
  | hTree | nonHTree
deriving DecidableEq, Repr

inductive WriteScheme
  | setBeforeReset | resetBeforeSet | eraseBeforeSet | eraseBeforeReset
  | writeAndVerify | normalWrite
deriving DecidableEq, Repr

inductive DesignTarget
  | cache | ramChip | camChip
deriving DecidableEq, Repr

inductive OptimizationTarget
  | readLatencyOptimized | writeLatencyOptimized | readEnergyOptimized
  | writeEnergyOptimized | readEdpOptimized | writeEdpOptimized
  | leakageOptimized | areaOptimized | fullExploration
deriving DecidableEq, Repr

inductive CacheAccessMode
  | normalAccessMode | sequentialAccessMode | fastAccessMode
deriving DecidableEq, Repr

/-- The cell types whose bitline cannot be multiplexed before the sense
amplifier: `memCellType == DRAM || memCellType == eDRAM`. -/
def MemCellType.isDram : MemCellType → Bool
  | .dram | .eDRAM => true
  | _ => false

/-- The integer value of a `WireType`; the wire loops count with it. -/
def WireType.code : WireType → ℕ
  | .localAggressive => 0
  | .localConservative => 1
  | .semiAggressive => 2
  | .semiConservative => 3
  | .globalAggressive => 4
  | .globalConservative => 5
  | .dramWordline => 6

/-- The cast `(WireType)n`; the loops stay within the enumeration. -/
def WireType.ofCode : ℕ → WireType
  | 0 => .localAggressive
  | 1 => .localConservative
  | 2 => .semiAggressive
  | 3 => .semiConservative
  | 4 => .globalAggressive
  | 5 => .globalConservative
  | _ => .dramWordline

def WireRepeaterType.code : WireRepeaterType → ℕ
  | .repeatedNone => 0
  | .repeatedOpt => 1
  | .repeated5 => 2
  | .repeated10 => 3
  | .repeated20 => 4
  | .repeated30 => 5
  | .repeated40 => 6
  | .repeated50 => 7

/-- The cast `(WireRepeaterType)n`. -/
def WireRepeaterType.ofCode : ℕ → WireRepeaterType
  | 0 => .repeatedNone
  | 1 => .repeatedOpt
  | 2 => .repeated5
  | 3 => .repeated10
  | 4 => .repeated20
  | 5 => .repeated30
  | 6 => .repeated40
  | _ => .repeated50

/-- The cast `(BufferDesignTarget)n`. -/
def BufferDesignTarget.ofCode : ℕ → BufferDesignTarget
  | 0 => .latencyFirst
  | 1 => .latencyAreaTradeOff
  | _ => .areaFirst

/-- The entries `0` to `full_exploration - 1`, in the order of the result arrays. -/
def OptimizationTarget.searched : List OptimizationTarget :=
  [.readLatencyOptimized, .writeLatencyOptimized, .readEnergyOptimized,
    .writeEnergyOptimized, .readEdpOptimized, .writeEdpOptimized,
    .leakageOptimized, .areaOptimized]

theorem OptimizationTarget.mem_searched {t : OptimizationTarget} (ht : t ≠ .fullExploration) :
    t ∈ searched := by
  cases t <;> simp [searched] at ht ⊢

theorem OptimizationTarget.ne_of_mem_searched {t : OptimizationTarget} (ht : t ∈ searched) :
    t ≠ .fullExploration := by
  rintro rfl
  simp [searched] at ht

end NVSim
