import Mathlib.Tactic.Linarith
import Mathlib.Tactic.Positivity
import Mathlib.Algebra.Order.Field.Basic
import NVSim.Circuit.Validity

/-!
# The logarithms of the sensing delays

A delay of a bit line is a time constant times a logarithm.  Of the voltages of SRAM cells
nothing is checked, and their logarithms may have no value.
-/

namespace NVSim

variable {K : Type} [Field K] [LinearOrder K]

/-- The logarithm of the quotient is positive: the denominator is positive and the quotient
is greater than one. -/
def LogArgument.WellDefined (x : LogArgument K) : Prop := 0 < x.denominator ∧ 1 < x.value

/-- A voltage minus a swing under it. -/
theorem LogArgument.wellDefined_iff [IsStrictOrderedRing K] (voltage swing : K) :
    (LogArgument.mk voltage (voltage - swing)).WellDefined ↔ 0 < swing ∧ swing < voltage := by
  unfold LogArgument.WellDefined LogArgument.value
  constructor
  · intro ⟨hDenominator, hValue⟩
    rw [one_lt_div hDenominator] at hValue
    exact ⟨by linarith, by linarith⟩
  · intro ⟨hSwing, hLess⟩
    have hDenominator : 0 < voltage - swing := by linarith
    exact ⟨hDenominator, (one_lt_div hDenominator).mpr (by linarith)⟩

/-! ## The electrical values -/

section Electrics

variable (g : Globals K) (memory : SubArrayElectrics K) (a : SubArray)

theorem addCells_senseVoltage (c : SubArrayElectrics K) :
    (g.addCells a c).senseVoltage = c.senseVoltage := by
  unfold Globals.addCells
  cases g.cell.memCellType with
  | mram | pcram | memristor => cases g.cell.accessType <;> rfl
  | sram | dram | eDRAM | fbram | slcNAND | mlcNAND => rfl

theorem addReadVoltages_senseVoltage (c : SubArrayElectrics K) :
    (g.addReadVoltages c).senseVoltage = c.senseVoltage := by
  unfold Globals.addReadVoltages
  split <;> rfl

theorem electrics_senseVoltage :
    (g.electrics memory a).senseVoltage = g.senseVoltage memory := by
  have hCells : (g.addCells a (g.lines memory a)).senseVoltage = g.senseVoltage memory :=
    addCells_senseVoltage g a _
  unfold Globals.electrics
  split
  · exact (addReadVoltages_senseVoltage g _).trans hCells
  · exact hCells

/-- The electrical values of an accepted subarray. -/
theorem AcceptedSubArray.toSubArrayElectrics_eq {currents : SubArrayCurrents K}
    {c : SubArrayCircuit K} (h : AcceptedSubArray g memory a currents c) :
    c.toSubArrayElectrics = g.electrics memory a := by
  rw [h.circuit]
  rfl

end Electrics

/-! ## SRAM cells -/

theorem sram_argument {g : Globals K} {memory : SubArrayElectrics K} {a : SubArray}
    {c : SubArrayCircuit K} (hType : g.cell.memCellType = .sram)
    (hInit : initializeSubArray g memory a = .ok c) :
    c.voltagePrecharge = g.tech.vdd / 2 ∧ c.senseVoltage = g.cell.minSenseVoltage := by
  obtain ⟨currents, h⟩ := initializeSubArray_eq_ok.mp hInit
  have hElectrics := h.toSubArrayElectrics_eq
  have hReads : g.readsVoltage = false := by
    simp [Globals.readsVoltage, hType, MemCellType.isResistive]
  constructor
  · rw [hElectrics]
    simp [Globals.electrics, hReads, Globals.addCells, hType]
  · rw [hElectrics, electrics_senseVoltage]
    simp [Globals.senseVoltage, hType]

/-- In an SRAM bank that is not invalid the logarithms of the local bit line and, with
external sensing, of the global one are well defined if and only if the sense voltage is
positive, less than the supply voltage and, with external sensing, less than the read
voltage. -/
theorem sram_sensing_wellDefined_iff [IsStrictOrderedRing K] (g : Globals K)
    (memory : SubArrayElectrics K) (unset : ℕ) (routingMode : RoutingMode) (args : BankParams)
    (b : Bank)
    (hType : g.cell.memCellType = .sram)
    (h : initializeBank (g.electrical memory unset) g.cell.memCellType
      g.globalWire.wireRepeaterType routingMode args = some b)
    (hvalid : b.invalid = false) :
    ((∀ c, initializeSubArray g memory b.mat.subarray = .ok c → c.argumentSram.WellDefined) ∧
        (b.internalSenseAmp = false → ∀ matWidth, (GlobalBitline.argumentSram g
          (g.globalSenseAmp b.toBankParams.numSenseAmp b.numColumnMat matWidth)).WellDefined)) ↔
      0 < g.cell.minSenseVoltage ∧ g.cell.minSenseVoltage < g.tech.vdd ∧
        (b.internalSenseAmp = false → g.cell.minSenseVoltage < g.cell.readVoltage) := by
  obtain ⟨p, hBank⟩ := initializeBank_accepted h hvalid
  obtain ⟨c, hInit⟩ := hBank.exists_subArray
  have hLocal : (∀ c, initializeSubArray g memory b.mat.subarray = .ok c →
      c.argumentSram.WellDefined) ↔
        0 < g.cell.minSenseVoltage ∧ g.cell.minSenseVoltage < g.tech.vdd := by
    have hArgument : ∀ c, initializeSubArray g memory b.mat.subarray = .ok c →
        (c.argumentSram.WellDefined ↔
          0 < g.cell.minSenseVoltage ∧ g.cell.minSenseVoltage < g.tech.vdd) := by
      intro c hc
      obtain ⟨hPrecharge, hSense⟩ := sram_argument hType hc
      rw [SubArrayCircuit.argumentSram, LogArgument.wellDefined_iff, hPrecharge, hSense]
      constructor
      · intro ⟨hPositive, hLess⟩
        exact ⟨by linarith, by linarith⟩
      · intro ⟨hPositive, hLess⟩
        exact ⟨by linarith, by linarith⟩
    constructor
    · intro hAll
      exact (hArgument c hInit).mp (hAll c hInit)
    · intro hBounds d hd
      exact (hArgument d hd).mpr hBounds
  have hGlobal : ∀ matWidth, (GlobalBitline.argumentSram g
      (g.globalSenseAmp b.toBankParams.numSenseAmp b.numColumnMat matWidth)).WellDefined ↔
        0 < g.cell.minSenseVoltage ∧ g.cell.minSenseVoltage < g.cell.readVoltage :=
    fun _ => LogArgument.wellDefined_iff _ _
  rw [hLocal]
  simp only [hGlobal]
  constructor
  · intro ⟨⟨hPositive, hLess⟩, hExternal⟩
    exact ⟨hPositive, hLess, fun hScheme => (hExternal hScheme 0).2⟩
  · intro ⟨hPositive, hLess, hExternal⟩
    exact ⟨⟨hPositive, hLess⟩, fun hScheme _ => ⟨hPositive, hExternal hScheme⟩⟩

/-- An SRAM cell with the sense voltage and the read voltage of the constructor, for
examples. -/
def sramCell : Cell ℚ :=
  { Cell.small with
    memCellType := .sram
    readVoltage := 0
    readCurrent := 0
    minSenseVoltage := 8 / 100 }

/-- A bank that is externally sensed, for examples. -/
def externalBank : BankParams := { BankParams.small with internalSenseAmp := false }

/-- A bank of this cell that is externally sensed is not invalid. -/
theorem externalBank_accepted :
    ∃ b, initializeBank ((Globals.small sramCell).electrical .cleared 0) .sram .repeatedNone
        .nonHTree externalBank = some b ∧ b.invalid = false ∧ b.internalSenseAmp = false := by
  have hSome : (initializeBank ((Globals.small sramCell).electrical .cleared 0) .sram .repeatedNone
      .nonHTree externalBank).map (fun b => (b.invalid, b.internalSenseAmp)) =
        some (false, false) := by
    decide +kernel
  obtain ⟨b, hb, hFlags⟩ := Option.map_eq_some_iff.mp hSome
  exact ⟨b, hb, congrArg Prod.fst hFlags, congrArg Prod.snd hFlags⟩

theorem sram_sensing_external :
    ∃ b, initializeBank ((Globals.small sramCell).electrical .cleared 0) .sram .repeatedNone
        .nonHTree externalBank = some b ∧
      (((∀ c, initializeSubArray (.small sramCell) .cleared b.mat.subarray = .ok c →
            c.argumentSram.WellDefined) ∧
          (b.internalSenseAmp = false → ∀ matWidth, (GlobalBitline.argumentSram (.small sramCell)
            ((Globals.small sramCell).globalSenseAmp b.toBankParams.numSenseAmp b.numColumnMat
              matWidth)).WellDefined)) ↔
        0 < sramCell.minSenseVoltage ∧ sramCell.minSenseVoltage < 1 ∧
          (b.internalSenseAmp = false → sramCell.minSenseVoltage < sramCell.readVoltage)) := by
  obtain ⟨b, hb, hvalid, -⟩ := externalBank_accepted
  exact ⟨b, hb, sram_sensing_wellDefined_iff (.small sramCell) .cleared 0 .nonHTree externalBank b
    rfl hb hvalid⟩

/-- Its read voltage is zero, and the logarithm of the global bit line is taken of zero. -/
theorem sram_sensing_external_ill_defined :
    ∃ b, initializeBank ((Globals.small sramCell).electrical .cleared 0) .sram .repeatedNone
        .nonHTree externalBank = some b ∧ b.invalid = false ∧
      ¬ ((∀ c, initializeSubArray (.small sramCell) .cleared b.mat.subarray = .ok c →
            c.argumentSram.WellDefined) ∧
          (b.internalSenseAmp = false → ∀ matWidth, (GlobalBitline.argumentSram (.small sramCell)
            ((Globals.small sramCell).globalSenseAmp b.toBankParams.numSenseAmp b.numColumnMat
              matWidth)).WellDefined)) := by
  obtain ⟨b, hb, hvalid, hExternal⟩ := externalBank_accepted
  refine ⟨b, hb, hvalid, fun hWellDefined => ?_⟩
  have hGlobal : (0 : ℚ) < 0 - 8 / 100 := (hWellDefined.2 hExternal 0).1
  exact absurd hGlobal (by decide +kernel)

end NVSim
