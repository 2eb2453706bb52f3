import NVSim.Model.SensingRounding
import NVSim.Circuit.Sensing

/-!
# The logarithms of resistive cells

Of a resistive cell only the voltage on a cell of low resistance is checked.  The precharge
voltage is at most half way between the two voltages on the cells, so that the check would be
enough for both logarithms; half way is rounded, though, and the check can pass by the rounding
alone.  Apart from that the logarithms are well defined.
-/

namespace NVSim

open Library

variable {K : Type} [Field K] [LinearOrder K]

/-- The quotient that is computed has a positive denominator and is greater than one. -/
def LogArgument.RoundedWellDefined (R : Rounding K) (x : LogArgument K) : Prop :=
  0 < x.denominator ∧ 1 < x.roundedValue R

theorem roundedArgument_wellDefined [IsStrictOrderedRing K] (R : Rounding K)
    {voltage senseVoltage : K} (hSwing : senseVoltage < R.round voltage)
    (hUnit : 2 * (R.unit * R.round voltage) < (1 + R.unit) * senseVoltage) :
    (roundedArgument R voltage senseVoltage).RoundedWellDefined R :=
  ⟨R.round_pos (sub_pos.mpr hSwing), R.one_lt_round_div hSwing hUnit⟩

/-! ## The voltages of a checked cell -/

namespace CellVoltages

/-- The sum of the voltages on the cells, without their signs. -/
def scale (v : CellVoltages K) : K := |v.voltageMemCellOff| + |v.voltageMemCellOn|

/-- What is known of the voltages of a cell that passes the check, neither by the rounding
alone nor with a sense voltage that vanishes beside the voltages. -/
structure Sensed (R : Rounding K) (v : CellVoltages K) (senseVoltage : K) : Prop where
  midpoint : v.voltagePrecharge ≤ (v.voltageMemCellOff + v.voltageMemCellOn) / 2 +
    17 / 16 * (R.unit * v.scale)
  checked : senseVoltage + 4 * (R.unit * v.scale) <
    R.round (v.voltagePrecharge - v.voltageMemCellOn)
  visible : 2 * (R.unit * v.scale) < senseVoltage

namespace Sensed

variable [IsStrictOrderedRing K] {R : Rounding K} {v : CellVoltages K} {senseVoltage : K}

omit [IsStrictOrderedRing K] in
theorem scale_eq (v : CellVoltages K) :
    v.scale = |v.voltageMemCellOff| + |v.voltageMemCellOn| := rfl

theorem scale_nonneg (v : CellVoltages K) : 0 ≤ v.scale := by
  unfold scale
  positivity

theorem unit_scale_nonneg (R : Rounding K) (v : CellVoltages K) : 0 ≤ R.unit * v.scale :=
  mul_nonneg R.unit_nonneg (scale_nonneg v)

theorem unit_scale_le (R : Rounding K) (v : CellVoltages K) :
    R.unit * v.scale ≤ 1 / 8 * v.scale :=
  mul_le_mul_of_nonneg_right R.unit_le (scale_nonneg v)

/-- The voltage over a cell of low resistance, before it is rounded. -/
theorem on_pos (h : Sensed R v senseVoltage) : 0 < v.voltagePrecharge - v.voltageMemCellOn := by
  have hUnit := unit_scale_nonneg R v
  have hChecked := h.checked
  have hVisible := h.visible
  exact R.pos_of_round_pos (by linarith)

theorem round_on_le (h : Sensed R v senseVoltage) :
    R.round (v.voltagePrecharge - v.voltageMemCellOn) ≤
      (1 + R.unit) * (v.voltagePrecharge - v.voltageMemCellOn) :=
  R.round_le_mul h.on_pos.le

/-- It is at most half of the voltages on the cells, and a little. -/
theorem on_le (h : Sensed R v senseVoltage) :
    v.voltagePrecharge - v.voltageMemCellOn ≤ v.scale / 2 + 17 / 16 * (R.unit * v.scale) := by
  have hMidpoint := h.midpoint
  have hOff := le_abs_self v.voltageMemCellOff
  have hOn := neg_abs_le v.voltageMemCellOn
  have hScale := scale_eq v
  linarith

/-- The voltage over a cell of high resistance is the other half, but for the rounding. -/
theorem le_off (h : Sensed R v senseVoltage) :
    v.voltagePrecharge - v.voltageMemCellOn - 17 / 8 * (R.unit * v.scale) ≤
      v.voltageMemCellOff - v.voltagePrecharge := by
  have hMidpoint := h.midpoint
  linarith

theorem off_le (h : Sensed R v senseVoltage) :
    v.voltageMemCellOff - v.voltagePrecharge ≤ v.scale := by
  have hOnPos := h.on_pos
  have hOff := le_abs_self v.voltageMemCellOff
  have hOn := neg_abs_le v.voltageMemCellOn
  have hScale := scale_eq v
  linarith

/-- The rounding of the voltage over a cell of low resistance changes it by less than a unit
of the scale. -/
theorem unit_on_le (h : Sensed R v senseVoltage) :
    R.unit * (v.voltagePrecharge - v.voltageMemCellOn) ≤ 81 / 128 * (R.unit * v.scale) := by
  have hShrink := unit_scale_le R v
  have hOn : v.voltagePrecharge - v.voltageMemCellOn ≤ 81 / 128 * v.scale := by
    have hBound := h.on_le
    linarith
  have hScaled := mul_le_mul_of_nonneg_left hOn R.unit_nonneg
  linarith

theorem off_pos (h : Sensed R v senseVoltage) :
    0 < v.voltageMemCellOff - v.voltagePrecharge := by
  have hScale := unit_scale_nonneg R v
  have hChecked := h.checked
  have hVisible := h.visible
  have hRound := h.round_on_le
  have hUnit := h.unit_on_le
  have hOff := h.le_off
  linarith

/-- The check of a cell of low resistance is one of a cell of high resistance. -/
theorem lt_round_off (h : Sensed R v senseVoltage) :
    senseVoltage < R.round (v.voltageMemCellOff - v.voltagePrecharge) := by
  have hScale := unit_scale_nonneg R v
  have hUnit := R.unit_nonneg
  have hOne : 0 ≤ 1 - R.unit := by linarith [R.unit_le]
  have hRound := R.mul_le_round h.off_pos.le
  have hOff := mul_le_mul_of_nonneg_left h.le_off hOne
  have hSmall := mul_nonneg hUnit hScale
  have hUnitOn := h.unit_on_le
  have hRoundOn := h.round_on_le
  have hChecked := h.checked
  linarith

/-- A rounded voltage of at most the scale leaves the sense voltage visible. -/
theorem visible_of_le (h : Sensed R v senseVoltage) {voltage : K} (hPos : 0 ≤ voltage)
    (hScale : voltage ≤ v.scale) :
    2 * (R.unit * R.round voltage) < (1 + R.unit) * senseVoltage := by
  have hUnit := R.unit_nonneg
  have hRound : R.unit * R.round voltage ≤ R.unit * ((1 + R.unit) * v.scale) := by
    have hFactor := mul_le_mul_of_nonneg_left hScale (show 0 ≤ 1 + R.unit by linarith)
    exact mul_le_mul_of_nonneg_left ((R.round_le_mul hPos).trans hFactor) hUnit
  have hVisible := mul_lt_mul_of_pos_left h.visible (show 0 < 1 + R.unit by linarith)
  linarith

theorem argumentOn (h : Sensed R v senseVoltage) :
    (v.argumentOn R senseVoltage).RoundedWellDefined R := by
  have hScale := scale_nonneg v
  have hShrink := unit_scale_le R v
  refine roundedArgument_wellDefined R ?_ (h.visible_of_le h.on_pos.le ?_)
  · have hChecked := h.checked
    have hUnit := unit_scale_nonneg R v
    linarith
  · have hOn := h.on_le
    linarith

theorem argumentOff (h : Sensed R v senseVoltage) :
    (v.argumentOff R senseVoltage).RoundedWellDefined R :=
  roundedArgument_wellDefined R h.lt_round_off (h.visible_of_le h.off_pos.le h.off_le)

/-- The precharge voltage is further above that on a cell of low resistance than the squares
of the two are rounded. -/
theorem squaresDifference_pos (h : Sensed R v senseVoltage) (hLow : 0 ≤ v.voltageMemCellOn) :
    0 < v.squaresDifference R := by
  refine R.round_pos (sub_pos.mpr (R.round_sq_lt hLow ?_))
  have hUnit := R.unit_nonneg
  have hScale := unit_scale_nonneg R v
  have hOnPos := h.on_pos
  have hMidpoint := h.midpoint
  have hShrink := unit_scale_le R v
  have hScaleNonneg := scale_nonneg v
  -- both voltages are at most the scale and a little
  have hSum : v.voltagePrecharge + v.voltageMemCellOn ≤ 2 * v.scale := by
    have hOff := le_abs_self v.voltageMemCellOff
    have hOn := le_abs_self v.voltageMemCellOn
    have hScaleEq := scale_eq v
    linarith
  have hSumUnit := mul_le_mul_of_nonneg_left hSum hUnit
  have hUnitOn := h.unit_on_le
  have hRoundOn := h.round_on_le
  have hChecked := h.checked
  have hVisible := h.visible
  linarith

end Sensed

end CellVoltages

/-! ## The cells of a subarray -/

/-- A resistive cell that is read by voltage sensing, with a positive current or voltage put
in and positive resistances. -/
structure VoltageSensed (g : Globals K) : Prop where
  isResistive : g.cell.memCellType.isResistive = true
  readMode : g.cell.readMode = true
  resistanceOn : 0 < g.cell.resistanceOn
  resAccess : 0 ≤ g.resAccess
  readCurrent : g.cell.readVoltage = 0 → 0 < g.cell.readCurrent
  readVoltage : 0 ≤ g.cell.readVoltage
  minSenseVoltage : 0 < g.cell.minSenseVoltage

section Resistive

variable [IsStrictOrderedRing K] {R : Rounding K} {g : Globals K} {memory : SubArrayElectrics K}
  {v : CellVoltages K}

omit [IsStrictOrderedRing K] in
theorem VoltageSensed.readsVoltage (hCell : VoltageSensed g) : g.readsVoltage = true := by
  simp [Globals.readsVoltage, hCell.isResistive, hCell.readMode]

omit [IsStrictOrderedRing K] in
/-- The voltages of a cell that the check lets pass. -/
theorem checkedVoltages_eq_some :
    g.checkedVoltages R memory = some v ↔
      g.cell.minSenseVoltage < R.round (v.voltagePrecharge - v.voltageMemCellOn) ∧
        g.roundedVoltages R memory = v := by
  unfold Globals.checkedVoltages
  dsimp only
  split_ifs with hCheck
  · constructor
    · intro hNone
      cases hNone
    · rintro ⟨hAbove, rfl⟩
      exact absurd hCheck (not_le.mpr hAbove)
  · rw [Option.some.injEq]
    constructor
    · rintro rfl
      exact ⟨not_le.mp hCheck, rfl⟩
    · exact fun h => h.2

/-- The precharge voltage is at most half way between the voltages on the cells, as far as
half way is rounded. -/
theorem roundedVoltages_midpoint (h : g.roundedVoltages R memory = v) :
    v.voltagePrecharge ≤ (v.voltageMemCellOff + v.voltageMemCellOn) / 2 +
      17 / 16 * (R.unit * v.scale) := by
  subst h
  have hHalf := R.round_half_error (g.roundedVoltages R memory).voltageMemCellOff
    (g.roundedVoltages R memory).voltageMemCellOn
  have hUpper := (abs_le.mp hHalf).2
  have hMin : (g.roundedVoltages R memory).voltagePrecharge ≤
      R.round (R.round ((g.roundedVoltages R memory).voltageMemCellOff +
        (g.roundedVoltages R memory).voltageMemCellOn) / 2) :=
    min_le_right _ _
  unfold CellVoltages.scale
  linarith

/-- The resistance of a cell in its low state is that of the cell and of its access
device. -/
theorem roundedResMemCell_nonneg {resistance : K} (hPos : 0 < resistance)
    (hAccess : 0 ≤ g.resAccess)
    (hMemory : g.cell.accessType = .bjtAccess → 0 ≤ memory.resCellAccess) :
    0 ≤ g.roundedResMemCell R memory resistance := by
  have hDevice : 0 ≤ g.resCellAccess memory := by
    unfold Globals.resCellAccess
    split <;> simp_all
  unfold Globals.roundedResMemCell
  split
  · exact hPos.le
  · exact R.round_nonneg (add_nonneg hDevice hPos.le)

/-- The voltage on a cell is not negative. -/
theorem roundedVoltage_nonneg {resInSerial resMemCell : K} (hSerial : 0 ≤ resInSerial)
    (hRes : 0 ≤ resMemCell) (hCurrent : g.cell.readVoltage = 0 → 0 < g.cell.readCurrent)
    (hVoltage : 0 ≤ g.cell.readVoltage) : 0 ≤ g.roundedVoltage R resInSerial resMemCell := by
  unfold Globals.roundedVoltage
  split
  · rename_i hZero
    exact R.round_nonneg (mul_nonneg (hCurrent hZero).le hRes)
  · exact R.round_nonneg (div_nonneg (R.round_nonneg (mul_nonneg hVoltage hRes))
      (R.round_nonneg (add_nonneg hRes hSerial)))

theorem checkedVoltages_on_nonneg (hCell : VoltageSensed g)
    (hMemory : g.cell.accessType = .bjtAccess → 0 ≤ memory.resCellAccess)
    (h : g.roundedVoltages R memory = v) : 0 ≤ v.voltageMemCellOn := by
  subst h
  have hRes : 0 ≤ g.roundedResMemCell R memory g.cell.resistanceOn :=
    roundedResMemCell_nonneg hCell.resistanceOn hCell.resAccess hMemory
  exact roundedVoltage_nonneg (g.libm.sqrt_nonneg _) hRes hCell.readCurrent hCell.readVoltage

/-- A cell that the check lets pass by more than the rounding. -/
theorem checkedVoltages_sensed (h : g.checkedVoltages R memory = some v)
    (hTie : 4 * (R.unit * v.scale) <
      |R.round (v.voltagePrecharge - v.voltageMemCellOn) - g.cell.minSenseVoltage|)
    (hVisible : 2 * (R.unit * v.scale) < g.cell.minSenseVoltage) :
    v.Sensed R g.cell.minSenseVoltage := by
  obtain ⟨hCheck, hEq⟩ := checkedVoltages_eq_some.mp h
  rw [abs_of_pos (sub_pos.mpr hCheck)] at hTie
  exact ⟨roundedVoltages_midpoint hEq, by linarith, hVisible⟩

/-- In a subarray of resistive cells that is not rejected, the logarithms of the local and of
the global bit lines are well defined for both states of a cell, and the read energy of a bit
line is positive, unless the check is decided by the rounding of the voltages or the sense
voltage vanishes beside them.  The access resistance of a bipolar transistor is not assigned:
the last part takes what the memory held not to be negative. -/
theorem resistive_sensing_rounded (R : Rounding K) (g : Globals K)
    (memory : SubArrayElectrics K) (v : CellVoltages K) (hCell : VoltageSensed g)
    (hInit : g.checkedVoltages R memory = some v)
    (hTie : 4 * (R.unit * (|v.voltageMemCellOff| + |v.voltageMemCellOn|)) <
      |R.round (v.voltagePrecharge - v.voltageMemCellOn) - g.cell.minSenseVoltage|)
    (hVisible : 2 * (R.unit * (|v.voltageMemCellOff| + |v.voltageMemCellOn|)) <
      g.cell.minSenseVoltage) :
    (v.argumentOn R g.cell.minSenseVoltage).RoundedWellDefined R ∧
      (v.argumentOff R g.cell.minSenseVoltage).RoundedWellDefined R ∧
      (∀ numSenseAmp numColumnMat matWidth,
        let senseAmp := g.globalSenseAmp numSenseAmp numColumnMat matWidth
        (v.argumentOn R senseAmp.senseVoltage).RoundedWellDefined R ∧
          (v.argumentOff R senseAmp.senseVoltage).RoundedWellDefined R) ∧
      ((g.cell.accessType = .bjtAccess → 0 ≤ memory.resCellAccess) →
        0 < v.squaresDifference R) := by
  have hSensed := checkedVoltages_sensed hInit hTie hVisible
  refine ⟨hSensed.argumentOn, hSensed.argumentOff,
    fun _ _ _ => ⟨hSensed.argumentOn, hSensed.argumentOff⟩, ?_⟩
  intro hMemory
  have hLow := checkedVoltages_on_nonneg hCell hMemory (checkedVoltages_eq_some.mp hInit).2
  exact hSensed.squaresDifference_pos hLow

/-! ## Exact arithmetic -/

variable (memory) in
/-- The resistances of a cell, without rounding. -/
theorem addCells_resMemCell (hType : g.cell.memCellType.isResistive = true) (a : SubArray) :
    (g.addCells a (g.lines memory a)).resMemCellOff =
        g.roundedResMemCell .exact memory g.cell.resistanceOff ∧
      (g.addCells a (g.lines memory a)).resMemCellOn =
        g.roundedResMemCell .exact memory g.cell.resistanceOn := by
  unfold Globals.addCells Globals.roundedResMemCell Globals.resCellAccess
  cases hKind : g.cell.memCellType with
  | sram | dram | eDRAM | slcNAND | mlcNAND => simp [hKind, MemCellType.isResistive] at hType
  | fbram => exact ⟨rfl, rfl⟩
  | mram | pcram | memristor => cases g.cell.accessType <;> exact ⟨rfl, rfl⟩

/-- Without rounding the voltages are those of the circuit. -/
theorem electrics_cellVoltages (hCell : VoltageSensed g) (a : SubArray) :
    (g.electrics memory a).cellVoltages = g.roundedVoltages .exact memory := by
  obtain ⟨hOff, hOn⟩ := addCells_resMemCell memory hCell.isResistive a
  rw [Globals.electrics, if_pos hCell.readsVoltage]
  unfold Globals.addReadVoltages Globals.roundedVoltages Globals.roundedVoltage
  rw [hOff, hOn]
  split <;> rfl

/-- An accepted subarray passes the check. -/
theorem initializeSubArray_checkedVoltages {a : SubArray} {c : SubArrayCircuit K}
    (hCell : VoltageSensed g) (hInit : initializeSubArray g memory a = .ok c) :
    c.senseVoltage = g.cell.minSenseVoltage ∧
      g.checkedVoltages .exact memory = some c.cellVoltages := by
  obtain ⟨currents, h⟩ := initializeSubArray_eq_ok.mp hInit
  have hElectrics := h.toSubArrayElectrics_eq
  have hSense : c.senseVoltage = g.cell.minSenseVoltage := by
    rw [hElectrics, electrics_senseVoltage]
    have hType := hCell.isResistive
    unfold Globals.senseVoltage
    cases hKind : g.cell.memCellType <;> simp_all [MemCellType.isResistive]
  refine ⟨hSense, checkedVoltages_eq_some.mpr ⟨?_, ?_⟩⟩
  · exact hSense ▸ h.prechargeVoltage hCell.readsVoltage
  · rw [hElectrics]
    exact (electrics_cellVoltages hCell a).symm

/-- In exact arithmetic the check is enough: the logarithms of every subarray that is not
rejected are well defined. -/
theorem resistive_sensing_exact {a : SubArray} {c : SubArrayCircuit K} (hCell : VoltageSensed g)
    (hInit : initializeSubArray g memory a = .ok c) :
    (c.argumentOn c.senseVoltage).WellDefined ∧ (c.argumentOff c.senseVoltage).WellDefined := by
  obtain ⟨hSense, hChecked⟩ := initializeSubArray_checkedVoltages hCell hInit
  have hAbove := (checkedVoltages_eq_some.mp hChecked).1
  have hSensed : c.cellVoltages.Sensed .exact c.senseVoltage := by
    rw [hSense]
    refine checkedVoltages_sensed hChecked ?_ ?_
    · rw [Rounding.exact_unit, zero_mul, mul_zero]
      exact abs_pos.mpr (sub_pos.mpr hAbove).ne'
    · rw [Rounding.exact_unit, zero_mul, mul_zero]
      exact hCell.minSenseVoltage
  exact ⟨hSensed.argumentOn, hSensed.argumentOff⟩

end Resistive

/-! ## Numbers of 53 bits -/

/-- A memristor of 1 and 5 kOhm without an access device, read with 10 uA, for examples. -/
def kiloOhmCell (minSenseVoltage : ℚ) : Cell ℚ :=
  { Cell.small with
    memCellType := .memristor
    accessType := .noneAccess
    resistanceOn := 1000
    resistanceOff := 5000
    readCurrent := Rounding.roundDouble (10 / 10 ^ 6)
    minSenseVoltage := Rounding.roundDouble (minSenseVoltage / 10 ^ 3) }

/-- The voltages of this cell: 50 mV and 10 mV, and half way 30 mV and a little. -/
def kiloOhmVoltages : CellVoltages ℚ :=
  (Globals.small (kiloOhmCell 0)).roundedVoltages .double .cleared

theorem kiloOhmCell_voltageSensed {senseVoltage : ℚ}
    (hSense : 0 < Rounding.roundDouble (senseVoltage / 10 ^ 3)) :
    VoltageSensed (.small (kiloOhmCell senseVoltage)) where
  isResistive := rfl
  readMode := rfl
  resistanceOn := show (0 : ℚ) < 1000 by decide
  resAccess := show 0 ≤ (Globals.small (kiloOhmCell 0)).resAccess by decide +kernel
  readCurrent _ := show 0 < Rounding.roundDouble (10 / 10 ^ 6) by decide +kernel
  readVoltage := show (0 : ℚ) ≤ 0 from le_rfl
  minSenseVoltage := hSense

/-- With a sense voltage of 10 mV the check passes by more than the rounding. -/
theorem resistive_sensing_tenMillivolts :
    let senseVoltage := (kiloOhmCell 10).minSenseVoltage
    (Globals.small (kiloOhmCell 10)).checkedVoltages .double .cleared = some kiloOhmVoltages ∧
      (kiloOhmVoltages.argumentOn .double senseVoltage).RoundedWellDefined .double ∧
      (kiloOhmVoltages.argumentOff .double senseVoltage).RoundedWellDefined .double ∧
      0 < kiloOhmVoltages.squaresDifference .double := by
  intro senseVoltage
  have hInit : (Globals.small (kiloOhmCell 10)).checkedVoltages .double .cleared =
      some kiloOhmVoltages := by
    decide +kernel
  have hCell : VoltageSensed (.small (kiloOhmCell 10)) :=
    kiloOhmCell_voltageSensed (by decide +kernel)
  obtain ⟨hOn, hOff, -, hSquares⟩ := resistive_sensing_rounded .double (.small (kiloOhmCell 10))
    .cleared kiloOhmVoltages hCell hInit (by decide +kernel) (by decide +kernel)
  exact ⟨hInit, hOn, hOff, hSquares fun _ => le_rfl⟩

/-- A subarray with two columns for each sense amplifier, for examples. -/
def pairedSubArray : SubArray := { SubArray.small with muxSenseAmp := 2 }

/-- With a sense voltage of 20 mV the check passes by the rounding, as the other checks of a
subarray do, and for a cell of high resistance the logarithm is taken of a quotient by zero.
With one of 1e-15 mV the quotient for a cell of low resistance is one. -/
theorem resistive_sensing_tied :
    (VoltageSensed (.small (kiloOhmCell 20)) ∧
      (initializeSubArray (.small (kiloOhmCell 20)) .cleared pairedSubArray).toOption.isSome ∧
      (Globals.small (kiloOhmCell 20)).checkedVoltages .double .cleared = some kiloOhmVoltages ∧
      (kiloOhmVoltages.argumentOff .double (kiloOhmCell 20).minSenseVoltage).denominator = 0) ∧
    VoltageSensed (.small (kiloOhmCell (1 / 10 ^ 15))) ∧
      (Globals.small (kiloOhmCell (1 / 10 ^ 15))).checkedVoltages .double .cleared =
        some kiloOhmVoltages ∧
      (kiloOhmVoltages.argumentOn .double
        (kiloOhmCell (1 / 10 ^ 15)).minSenseVoltage).roundedValue .double = 1 := by
  refine ⟨⟨kiloOhmCell_voltageSensed (by decide +kernel), ?_⟩,
    kiloOhmCell_voltageSensed (by decide +kernel), ?_⟩
  · decide +kernel
  · decide +kernel

end NVSim
