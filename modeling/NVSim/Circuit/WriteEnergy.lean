import Mathlib.Algebra.Order.Group.Unbundled.Abs
import Mathlib.Algebra.Order.Field.Rat
import NVSim.Model.Evaluation

/-!
# The write energies of a memory cell

`MemCell::CalculateWriteEnergy` contains the same decisions twice, for RESET and for
SET.  They are mirror images but for one test: whether a current-mode SET needs the
supply voltage is asked of the RESET voltage.
-/

namespace NVSim

namespace MemCell

/-- The cell with its SET and its RESET parameters exchanged. -/
def exchanged {K : Type} (cell : MemCell K) : MemCell K :=
  { cell with
    resistanceOnAtResetVoltage := cell.resistanceOnAtSetVoltage
    resistanceOnAtSetVoltage := cell.resistanceOnAtResetVoltage
    resetMode := cell.setMode
    resetVoltage := cell.setVoltage
    resetCurrent := cell.setCurrent
    resetPulse := cell.setPulse
    resetEnergy := cell.setEnergy
    setMode := cell.resetMode
    setVoltage := cell.resetVoltage
    setCurrent := cell.resetCurrent
    setPulse := cell.resetPulse
    setEnergy := cell.resetEnergy }

variable {K : Type} [Field K] [LinearOrder K]

/-- The voltage a current-mode operation is charged at, when its own voltage decides. -/
def chargedVoltage (vdd voltage : K) : K := if voltage = 0 then vdd else |voltage|

/-- Exchanging SET and RESET exchanges the write energies, and a current-mode SET is
charged at its own voltage. -/
structure WriteSymmetric (vdd : K) (cell : MemCell K) : Prop where
  resetEnergy :
    (cell.exchanged.calculateWriteEnergy vdd).resetEnergy =
      (cell.calculateWriteEnergy vdd).setEnergy
  setEnergy :
    (cell.exchanged.calculateWriteEnergy vdd).setEnergy =
      (cell.calculateWriteEnergy vdd).resetEnergy
  charged : cell.setMode = false →
    (cell.calculateWriteEnergy vdd).setEnergy =
      chargedVoltage vdd cell.setVoltage * |cell.setCurrent| * cell.setPulse

/-- The test of `testedVoltage` decides for an operation of the given voltage, current
and pulse as a test of its own voltage does. -/
def GuardAgrees (vdd voltage current pulse testedVoltage : K) : Prop :=
  (voltage = 0 ↔ testedVoltage = 0) ∨ |voltage| = vdd ∨ current = 0 ∨ pulse = 0

section Energies

variable {cell : MemCell K}

/-- The energy of a current-mode operation. -/
theorem writeEnergy_current (cell : MemCell K) (vdd resistance voltage current pulse tested : K) :
    cell.writeEnergy vdd false resistance voltage current pulse tested =
      (if tested = 0 then vdd else |voltage|) * |current| * pulse := by
  unfold writeEnergy
  by_cases htested : tested = 0
  · simp [htested]
  · simp [htested]

/-- The tested voltage matters to a current-mode operation only. -/
theorem writeEnergy_voltage (cell : MemCell K) (vdd resistance voltage current pulse t t' : K) :
    cell.writeEnergy vdd true resistance voltage current pulse t =
      cell.writeEnergy vdd true resistance voltage current pulse t' := by
  simp [writeEnergy]

theorem calculateWriteEnergy_resetEnergy (vdd : K) (hreset : cell.resetEnergy = 0) :
    (cell.calculateWriteEnergy vdd).resetEnergy =
      cell.writeEnergy vdd cell.resetMode cell.resistanceOnAtResetVoltage cell.resetVoltage
        cell.resetCurrent cell.resetPulse cell.resetVoltage := by
  simp [calculateWriteEnergy, hreset]

theorem calculateWriteEnergy_setEnergy (vdd : K) (hset : cell.setEnergy = 0) :
    (cell.calculateWriteEnergy vdd).setEnergy =
      cell.writeEnergy vdd cell.setMode cell.resistanceOnAtSetVoltage cell.setVoltage
        cell.setCurrent cell.setPulse cell.resetVoltage := by
  simp [calculateWriteEnergy, hset]

variable [IsStrictOrderedRing K]

/-- A current-mode operation costs the same after either test exactly if the tests
agree. -/
theorem charge_eq_iff {vdd voltage current pulse tested : K} :
    (if voltage = 0 then vdd else |voltage|) * |current| * pulse =
        (if tested = 0 then vdd else |voltage|) * |current| * pulse ↔
      GuardAgrees vdd voltage current pulse tested := by
  unfold GuardAgrees
  by_cases hvoltage : voltage = 0
  · by_cases htested : tested = 0
    · simp [hvoltage, htested]
    · simp [hvoltage, htested, or_assoc, eq_comm]
  · by_cases htested : tested = 0
    · simp [hvoltage, htested, or_assoc]
    · simp [hvoltage, htested]

/-- An operation costs the same whichever voltage is tested, its own or another,
exactly if it is a voltage-mode operation or the tests agree. -/
theorem writeEnergy_eq_iff (cell : MemCell K) {vdd : K} {mode : Bool} (resistance : K)
    {voltage current pulse tested : K} :
    cell.writeEnergy vdd mode resistance voltage current pulse voltage =
        cell.writeEnergy vdd mode resistance voltage current pulse tested ↔
      (mode = false → GuardAgrees vdd voltage current pulse tested) := by
  cases mode with
  | false =>
      rw [writeEnergy_current, writeEnergy_current, charge_eq_iff]
      simp
  | true =>
      simp [writeEnergy_voltage cell vdd resistance voltage current pulse voltage tested]

end Energies

variable [IsStrictOrderedRing K]

/-- The write energies are symmetric exactly if, for each current-mode operation, the
RESET and the SET voltage are both given or both zero, or the voltage of the operation
is that of the supply, or no charge flows. -/
theorem calculateWriteEnergy_symmetric_iff (vdd : K) (cell : MemCell K)
    (hreset : cell.resetEnergy = 0) (hset : cell.setEnergy = 0) :
    WriteSymmetric vdd cell ↔
      (cell.setMode = false →
        GuardAgrees vdd cell.setVoltage cell.setCurrent cell.setPulse cell.resetVoltage) ∧
      (cell.resetMode = false →
        GuardAgrees vdd cell.resetVoltage cell.resetCurrent cell.resetPulse cell.setVoltage) := by
  have hset' : (cell.exchanged.calculateWriteEnergy vdd).resetEnergy =
      cell.writeEnergy vdd cell.setMode cell.resistanceOnAtSetVoltage cell.setVoltage
        cell.setCurrent cell.setPulse cell.setVoltage :=
    calculateWriteEnergy_resetEnergy vdd hset
  have hreset' : (cell.exchanged.calculateWriteEnergy vdd).setEnergy =
      cell.writeEnergy vdd cell.resetMode cell.resistanceOnAtResetVoltage cell.resetVoltage
        cell.resetCurrent cell.resetPulse cell.setVoltage :=
    calculateWriteEnergy_setEnergy vdd hreset
  have hsetEnergy := calculateWriteEnergy_setEnergy vdd hset
  have hresetEnergy := calculateWriteEnergy_resetEnergy vdd hreset
  constructor
  · intro hsymmetric
    constructor
    · -- the exchanged cell tests the voltage of the operation, the cell the other one
      have heq := hsymmetric.resetEnergy
      rw [hset', hsetEnergy] at heq
      exact (writeEnergy_eq_iff cell _).1 heq
    · have heq := hsymmetric.setEnergy
      rw [hreset', hresetEnergy] at heq
      exact (writeEnergy_eq_iff cell _).1 heq.symm
  · rintro ⟨hsetGuard, hresetGuard⟩
    have hsetEq := (writeEnergy_eq_iff cell cell.resistanceOnAtSetVoltage).2 hsetGuard
    have hresetEq := (writeEnergy_eq_iff cell cell.resistanceOnAtResetVoltage).2 hresetGuard
    refine ⟨?_, ?_, fun hmode => ?_⟩
    · rw [hset', hsetEnergy, hsetEq]
    · rw [hreset', hresetEnergy, hresetEq]
    · rw [hsetEnergy, ← hsetEq, hmode, writeEnergy_current]
      rfl

/-- A memristor whose current-mode SET has no voltage of its own, for examples. -/
def currentSet : MemCell ℚ where
  memCellType := .memristor
  accessType := .cmosAccess
  resistanceOn := 1000
  resistanceOnAtResetVoltage := 1000
  resistanceOnAtSetVoltage := 1000
  voltageDropAccessDevice := 0
  resetMode := true
  resetVoltage := 2
  resetCurrent := 0
  resetPulse := 1
  resetEnergy := 0
  setMode := false
  setVoltage := 0
  setCurrent := 1
  setPulse := 1
  setEnergy := 0

/-- Exchanging nothing but equal parameters, the energies are symmetric. -/
theorem calculateWriteEnergy_symmetric_voltage :
    WriteSymmetric 1 ({ currentSet with setVoltage := 2 } : MemCell ℚ) := by
  refine (calculateWriteEnergy_symmetric_iff 1 _ rfl rfl).2 ⟨fun _ => .inl ?_, fun hmode => ?_⟩
  · constructor
    · intro h
      exact absurd h (by decide)
    · intro h
      exact absurd h (by decide)
  · exact absurd hmode (by decide)

/-- The SET of this cell is charged at its voltage zero instead of the supply voltage. -/
theorem calculateWriteEnergy_asymmetric_currentSet : ¬ WriteSymmetric 1 currentSet := by
  intro hsymmetric
  exact absurd hsymmetric.resetEnergy (by decide +kernel)

end MemCell

end NVSim
