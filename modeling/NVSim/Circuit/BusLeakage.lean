import Mathlib.Algebra.BigOperators.Intervals
import Mathlib.Algebra.BigOperators.Ring.Finset
import Mathlib.Tactic.Ring
import NVSim.Model.BankBus

/-!
# The leakage of the bus

A wire leaks whether or not its row is activated.  The loop over the rows counts the bits
of the bus only for the rows that are activated in an access, also where it adds up the
leakage.  In `BankWithHtree` the energy is that of the active wires and the leakage that of
all wires.
-/

namespace NVSim

namespace Bank

variable {K : Type} [Field K] (wire : K → WireMeasures K) (matHeight : K) (b : Bank)

/-- The length of the wires of a row. -/
def rowLength (i : ℕ) : K := matHeight * ((b.numRowMat : K) - i)

/-- The bits of the bus that a row is counted with. -/
def countedBit (i : ℕ) : K := if i < b.numActiveMatPerColumn then b.numBitRouteToMat else 0

/-! ## The loop over the rows -/

theorem lengthWire_busRows (n : ℕ) :
    (b.busRows wire matHeight n).lengthWire = matHeight * ((b.numRowMat : K) + 1 - n) := by
  induction n with
  | zero =>
      rw [busRows_zero, Nat.cast_zero, sub_zero]
      rfl
  | succ n ih =>
      rw [busRows_succ]
      show (b.busRows wire matHeight n).lengthWire - matHeight = _
      rw [ih]
      push_cast
      ring

/-- A row adds the leakage of its wires for the bits it is counted with. -/
theorem leakage_busRows_succ (n : ℕ) :
    (b.busRows wire matHeight (n + 1)).leakage =
      (b.busRows wire matHeight n).leakage +
        (wire (b.rowLength matHeight n)).leakagePower * b.countedBit n * b.numColumnMat := by
  have hlength : (b.busRows wire matHeight n).lengthWire - matHeight = b.rowLength matHeight n := by
    rw [lengthWire_busRows]
    unfold rowLength
    ring
  rw [busRows_succ]
  show (b.busRows wire matHeight n).leakage +
    (wire ((b.busRows wire matHeight n).lengthWire - matHeight)).leakagePower *
      b.countedBit n * b.numColumnMat = _
  rw [hlength]

theorem leakage_busRows (n : ℕ) :
    (b.busRows wire matHeight n).leakage =
      ∑ i ∈ Finset.range n,
        (wire (b.rowLength matHeight i)).leakagePower * b.countedBit i * b.numColumnMat := by
  induction n with
  | zero => rfl
  | succ n ih => rw [leakage_busRows_succ, ih, Finset.sum_range_succ]

/-! ## All rows -/

/-- The leakage of the wires of all rows. -/
def allRowsLeakage : K :=
  ∑ i ∈ Finset.range b.numRowMat,
    (wire (b.rowLength matHeight i)).leakagePower * b.numBitRouteToMat * b.numColumnMat

/-- The leakage per bit of the wires of the rows that are not activated. -/
def inactiveLeakage : K :=
  ∑ i ∈ Finset.Ico b.numActiveMatPerColumn b.numRowMat,
    (wire (b.rowLength matHeight i)).leakagePower

/-- In the activated rows the loop counts all bits. -/
theorem sum_countedBit_of_le {n : ℕ} (hn : n ≤ b.numActiveMatPerColumn) :
    ∑ i ∈ Finset.range n,
        (wire (b.rowLength matHeight i)).leakagePower * b.countedBit i * b.numColumnMat =
      ∑ i ∈ Finset.range n,
        (wire (b.rowLength matHeight i)).leakagePower * b.numBitRouteToMat * b.numColumnMat := by
  apply Finset.sum_congr rfl
  intro i hi
  have hi' : i < b.numActiveMatPerColumn := (Finset.mem_range.mp hi).trans_le hn
  rw [countedBit, if_pos hi']

/-- In the other rows it counts none. -/
theorem sum_countedBit_inactive :
    ∑ i ∈ Finset.Ico b.numActiveMatPerColumn b.numRowMat,
      (wire (b.rowLength matHeight i)).leakagePower * b.countedBit i * b.numColumnMat = 0 := by
  apply Finset.sum_eq_zero
  intro i hi
  rw [countedBit, if_neg (not_lt.mpr (Finset.mem_Ico.mp hi).1), mul_zero, zero_mul]

/-- The loop misses the leakage of the rows that are not activated. -/
theorem allRowsLeakage_eq :
    b.allRowsLeakage wire matHeight =
      (b.busRows wire matHeight b.numRowMat).leakage +
        b.inactiveLeakage wire matHeight * (b.numBitRouteToMat * b.numColumnMat) := by
  rw [leakage_busRows, inactiveLeakage, allRowsLeakage]
  rcases le_total b.numRowMat b.numActiveMatPerColumn with hall | hactive
  · rw [Finset.Ico_eq_empty_of_le hall, Finset.sum_empty, zero_mul, add_zero,
      sum_countedBit_of_le wire matHeight b hall]
  · rw [← Finset.sum_range_add_sum_Ico _ hactive,
      ← Finset.sum_range_add_sum_Ico
        (fun i => (wire (b.rowLength matHeight i)).leakagePower * b.countedBit i * b.numColumnMat)
        hactive,
      sum_countedBit_of_le wire matHeight b le_rfl, sum_countedBit_inactive, add_zero,
      add_right_inj, Finset.sum_mul]
    exact Finset.sum_congr rfl fun i _ => mul_assoc _ _ _

/-- The leakage of a bank is that of the wires of all rows and of all mats if and only if
all rows are activated in an access, or the wires of the others do not leak, or the bus has
no bits, or there is no column. -/
theorem bus_leakage_iff [LinearOrder K] [CharZero K] (settings : Settings K)
    (mat u : FunctionUnit K) :
    (b.calculateBusLatencyAndPower wire matHeight settings mat u).leakage =
        b.allRowsLeakage wire matHeight + mat.leakage * b.numRowMat * b.numColumnMat ↔
      b.numRowMat ≤ b.numActiveMatPerColumn ∨ b.inactiveLeakage wire matHeight = 0 ∨
        b.numBitRouteToMat = 0 ∨ b.numColumnMat = 0 := by
  show (b.busRows wire matHeight b.numRowMat).leakage + mat.leakage * b.numRowMat *
    b.numColumnMat = _ ↔ _
  rw [add_left_inj, allRowsLeakage_eq, left_eq_add, mul_eq_zero, mul_eq_zero, Int.cast_eq_zero,
    Nat.cast_eq_zero]
  constructor
  · exact Or.inr
  · rintro (hall | hnone)
    · refine .inl ?_
      rw [inactiveLeakage, Finset.Ico_eq_empty_of_le hall, Finset.sum_empty]
    · exact hnone

/-! ## Examples -/

/-- A wire that leaks by its length, for examples. -/
def leakingWire (length : ℚ) : WireMeasures ℚ := ⟨length, length, length⟩

/-- A bank of two rows that are both activated. -/
def bothRows : Bank :=
  initializeBankWithoutHtree .permissive .sram .repeatedNone
    { BankParams.small with numActiveMatPerColumn := 2 }

/-- The wires of both rows leak, and are counted. -/
theorem bus_leakage_bothRows :
    bothRows.invalid = false ∧ bothRows.internalSenseAmp = true ∧
      0 < bothRows.allRowsLeakage leakingWire 1 ∧
      (bothRows.calculateBusLatencyAndPower leakingWire 1 (.new 16 8 .hp "" 300) .fresh
          .fresh).leakage =
        bothRows.allRowsLeakage leakingWire 1 +
          (FunctionUnit.fresh : FunctionUnit ℚ).leakage * bothRows.numRowMat *
            bothRows.numColumnMat := by
  refine ⟨by decide +kernel, by decide +kernel, by decide +kernel, ?_⟩
  exact (bus_leakage_iff leakingWire 1 bothRows (.new 16 8 .hp "" 300) .fresh .fresh).mpr
    (.inl (by decide +kernel))

/-- An internally sensed bank of two rows of four mats, of which one row is activated. -/
def twoRows : Bank := initializeBankWithoutHtree .permissive .sram .repeatedNone .small

/-- The bank is not invalid, and the wires of its second row are left out. -/
theorem bus_leakage_missed :
    twoRows.invalid = false ∧ twoRows.internalSenseAmp = true ∧
      (twoRows.calculateBusLatencyAndPower leakingWire 1 (.new 16 8 .hp "" 300) .fresh
          .fresh).leakage ≠
        twoRows.allRowsLeakage leakingWire 1 +
          (FunctionUnit.fresh : FunctionUnit ℚ).leakage * twoRows.numRowMat *
            twoRows.numColumnMat := by
  decide +kernel

end Bank

end NVSim
