import Mathlib.Tactic.Positivity
import NVSim.Model.SubArrayEvaluation

/-!
# The read energy of the cells

`SubArray::Initialize` distinguishes voltage sensing with a current put in from voltage
sensing with a voltage put in, by the read voltage alone.  `MemCell::CalculateReadPower`
also looks at the read current, and returns its error value for a cell that gives both.
`SubArray::CalculatePower` multiplies what it returns into the read energy.
-/

namespace NVSim

variable {K : Type} [Field K] [LinearOrder K]

/-- The read power is given, or it can be computed: a cell that is sensed by its voltage has
only a voltage or only a current put in, and a cell that is sensed by its current has a read
voltage that its access device leaves something of. -/
def Cell.ReadPowerKnown (cell : Cell K) : Prop :=
  cell.readPower = 0 →
    if cell.readMode then cell.readVoltage = 0 ∨ cell.readCurrent = 0
    else cell.voltageDropAccessDevice ≤ cell.readVoltage

/-- A resistive cell whose read parameters are not negative. -/
structure Cell.ReadSpecified (cell : Cell K) : Prop where
  isResistive : cell.memCellType.isResistive = true
  readVoltage : 0 ≤ cell.readVoltage
  readCurrent : 0 ≤ cell.readCurrent
  readPower : 0 ≤ cell.readPower
  voltageDrop : cell.readVoltage ≠ 0 → cell.voltageDropAccessDevice ≤ cell.readVoltage
  resistanceOn : 0 < cell.resistanceOn
  resistanceOff : 0 < cell.resistanceOff

namespace SubArrayCircuit

variable (g : Globals K) (c : SubArrayCircuit K)

/-! ## What the rest of `CalculatePower` does to the read energy of the cells -/

@[simp] theorem readLatency_poweredComponents :
    (c.poweredComponents g).senseAmp.readLatency = c.senseAmp.readLatency := by
  unfold poweredComponents
  dsimp only
  split
  · rfl
  · rfl

@[simp] theorem cellReadEnergy_addCellEnergy (reset set : K) :
    (c.addCellEnergy g reset set).cellReadEnergy = c.cellReadEnergy := by
  unfold addCellEnergy
  split
  · split
    · rfl
    · rfl
  · rfl
  · rfl

@[simp] theorem cellReadEnergy_divideByWays :
    (c.divideByWays g).cellReadEnergy = c.cellReadEnergy := by
  unfold divideByWays
  split
  · rfl
  · rfl

@[simp] theorem cellReadEnergy_addComponentPower :
    (c.addComponentPower g).cellReadEnergy = c.cellReadEnergy := rfl

/-- The read power of a resistive cell, given or computed. -/
def readPower : K := if g.cell.readPower = 0 then Cell.calculateReadPower g else g.cell.readPower

theorem cellReadEnergy_addCellPower (hresistive : g.cell.memCellType.isResistive = true) :
    (c.addCellPower g).cellReadEnergy =
      2 * readPower g * c.senseAmp.readLatency * (c.toSubArray.numSelectedColumn : ℕ) := by
  unfold addCellPower
  cases htype : g.cell.memCellType with
  | mram | pcram | memristor | fbram => exact cellReadEnergy_addCellEnergy g _ _ _
  | sram | dram | eDRAM | slcNAND | mlcNAND => simp [htype, MemCellType.isResistive] at hresistive

/-- The read energy of the cells of a resistive memory. -/
theorem cellReadEnergy_calculatePower (hresistive : g.cell.memCellType.isResistive = true) :
    (c.calculatePower g).cellReadEnergy =
      2 * readPower g * c.senseAmp.readLatency * (c.toSubArray.numSelectedColumn : ℕ) := by
  unfold calculatePower
  rw [cellReadEnergy_addComponentPower, cellReadEnergy_divideByWays,
    cellReadEnergy_addCellPower g _ hresistive, readLatency_poweredComponents]
  rfl

end SubArrayCircuit

/-! ## The sign of the read power -/

section Sign

variable [IsStrictOrderedRing K] {g : Globals K}

/-- The maximal current of a cell in a voltage divider has the sign of the voltage. -/
theorem dividerPower_nonneg (hcell : g.cell.ReadSpecified) (hvdd : 0 < g.tech.vdd)
    (hdrop : g.cell.voltageDropAccessDevice ≤ g.cell.readVoltage) :
    0 ≤ g.tech.vdd * ((g.cell.readVoltage - g.cell.voltageDropAccessDevice) /
      (g.cell.resistanceOn + g.libm.sqrt (g.cell.resistanceOn * g.cell.resistanceOff))) := by
  have hserial : 0 < g.cell.resistanceOn +
      g.libm.sqrt (g.cell.resistanceOn * g.cell.resistanceOff) :=
    add_pos_of_pos_of_nonneg hcell.resistanceOn (g.libm.sqrt_nonneg _)
  exact mul_nonneg hvdd.le (div_nonneg (sub_nonneg.mpr hdrop) hserial.le)

/-- `MemCell::CalculateReadPower` returns a power, and not its error value or a negative
number, if and only if the read power is known. -/
theorem calculateReadPower_nonneg_iff (hcell : g.cell.ReadSpecified) (hvdd : 0 < g.tech.vdd)
    (hpower : g.cell.readPower = 0) :
    0 ≤ Cell.calculateReadPower g ↔ g.cell.ReadPowerKnown := by
  have herror : ¬ (0 : K) ≤ -1 := by simp
  unfold Cell.calculateReadPower Cell.ReadPowerKnown
  simp only [hpower, if_true, forall_const]
  cases hmode : g.cell.readMode with
  | true =>
      simp only [if_true]
      by_cases hvoltage : g.cell.readVoltage = 0
      · -- a current is put in
        rw [if_pos hvoltage]
        exact iff_of_true (mul_nonneg hvdd.le hcell.readCurrent) (.inl hvoltage)
      rw [if_neg hvoltage]
      by_cases hcurrent : g.cell.readCurrent = 0
      · -- a voltage is put in
        rw [if_pos hcurrent]
        exact iff_of_true (dividerPower_nonneg hcell hvdd (hcell.voltageDrop hvoltage))
          (.inr hcurrent)
      · -- both are given
        rw [if_neg hcurrent]
        exact iff_of_false herror (not_or.mpr ⟨hvoltage, hcurrent⟩)
  | false =>
      simp only [Bool.false_eq_true, if_false]
      rw [mul_nonneg_iff_of_pos_left hvdd, le_div_iff₀ hcell.resistanceOn, zero_mul, sub_nonneg]

theorem readPower_nonneg_iff (hcell : g.cell.ReadSpecified) (hvdd : 0 < g.tech.vdd) :
    0 ≤ SubArrayCircuit.readPower g ↔ g.cell.ReadPowerKnown := by
  unfold SubArrayCircuit.readPower
  by_cases hpower : g.cell.readPower = 0
  · rw [if_pos hpower]
    exact calculateReadPower_nonneg_iff hcell hvdd hpower
  · rw [if_neg hpower]
    exact iff_of_true hcell.readPower fun hzero => absurd hzero hpower

/-- The read power is computed as a power if and only if it is known, and the read energy of
the cells is not negative if and only if it is known, or the sense amplifiers take no time,
or no column is selected. -/
theorem cell_read_energy_nonneg_iff (hcell : g.cell.ReadSpecified) (hvdd : 0 < g.tech.vdd)
    (c : SubArrayCircuit K) (hlatency : 0 ≤ c.senseAmp.readLatency) :
    ((g.cell.readPower = 0 → 0 ≤ Cell.calculateReadPower g) ↔ g.cell.ReadPowerKnown) ∧
      (0 ≤ (c.calculatePower g).cellReadEnergy ↔
        g.cell.ReadPowerKnown ∨ c.senseAmp.readLatency = 0 ∨
          c.toSubArray.numSelectedColumn = 0) := by
  constructor
  · by_cases hpower : g.cell.readPower = 0
    · rw [forall_prop_of_true hpower]
      exact calculateReadPower_nonneg_iff hcell hvdd hpower
    · exact iff_of_true (fun hzero => absurd hzero hpower) fun hzero => absurd hzero hpower
  rw [c.cellReadEnergy_calculatePower g hcell.isResistive, ← readPower_nonneg_iff hcell hvdd]
  rcases hlatency.eq_or_lt with hzero | hpositive
  · rw [← hzero]
    simp
  rcases Nat.eq_zero_or_pos c.toSubArray.numSelectedColumn with hcolumn | hcolumn
  · rw [hcolumn]
    simp
  have hcast : (0 : K) < c.toSubArray.numSelectedColumn := by exact_mod_cast hcolumn
  rw [mul_nonneg_iff_of_pos_right hcast, mul_nonneg_iff_of_pos_right hpositive,
    mul_nonneg_iff_of_pos_left two_pos]
  constructor
  · intro hpower
    exact .inl hpower
  · rintro (hpower | hnone | hnone)
    · exact hpower
    · exact absurd hnone hpositive.ne'
    · exact absurd hnone hcolumn.ne'

end Sign

/-! ## Examples -/

/-- A cell that is sensed by its voltage and gives both a read voltage and a read current,
for examples. -/
def Cell.overspecified : Cell ℚ :=
  { Cell.small with
    accessType := .noneAccess
    resistanceOn := 1
    resistanceOff := 4
    readVoltage := 1
    readCurrent := 1 }

/-- A square root that is exact at zero, one and four. -/
def Libm.exactAtFour : Libm ℚ where
  sqrt := fun x => if x = 4 then 2 else max x 0
  log := fun x => x - 1
  sqrt_nonneg := by
    intro x
    split
    · exact zero_le_two
    · exact le_max_right x 0

/-- The global objects of a small circuit around a cell with this square root. -/
def Globals.exactAtFour (cell : Cell ℚ) : Globals ℚ :=
  { Globals.small cell with libm := .exactAtFour }

theorem Cell.overspecified_readSpecified : Cell.overspecified.ReadSpecified where
  isResistive := rfl
  readVoltage := by decide
  readCurrent := by decide
  readPower := by decide
  voltageDrop := fun _ => by decide
  resistanceOn := by decide
  resistanceOff := by decide

/-- Its subarray is accepted, and its sense amplifiers take some time. -/
theorem overspecified_accepted :
    ∃ c, initializeSubArray (.exactAtFour .overspecified) .cleared .small = .ok c ∧
      0 < (c.calculateLatency (.exactAtFour .overspecified) 1).senseAmp.readLatency ∧
      ((c.calculateLatency (.exactAtFour .overspecified) 1).calculatePower
        (.exactAtFour .overspecified)).cellReadEnergy < 0 := by
  have hsome : (initializeSubArray (.exactAtFour .overspecified) .cleared .small).toOption.map
      (fun c =>
        let timed := c.calculateLatency (.exactAtFour .overspecified) 1
        (decide (0 < timed.senseAmp.readLatency),
          decide ((timed.calculatePower (.exactAtFour .overspecified)).cellReadEnergy < 0))) =
        some (true, true) := by
    decide +kernel
  obtain ⟨c, hc, hflags⟩ := Option.map_eq_some_iff.mp hsome
  exact ⟨c, Library.toOption_eq_some_iff.mp hc, of_decide_eq_true (congrArg Prod.fst hflags),
    of_decide_eq_true (congrArg Prod.snd hflags)⟩

theorem cell_read_energy_overspecified :
    ∃ c, initializeSubArray (.exactAtFour .overspecified) .cleared .small = .ok c ∧
      (((Cell.overspecified.readPower = 0 →
            0 ≤ Cell.calculateReadPower (.exactAtFour .overspecified)) ↔
          Cell.overspecified.ReadPowerKnown) ∧
        (0 ≤ ((c.calculateLatency (.exactAtFour .overspecified) 1).calculatePower
            (.exactAtFour .overspecified)).cellReadEnergy ↔
          Cell.overspecified.ReadPowerKnown ∨
            (c.calculateLatency (.exactAtFour .overspecified) 1).senseAmp.readLatency = 0 ∨
            (c.calculateLatency (.exactAtFour .overspecified) 1).toSubArray.numSelectedColumn =
              0)) := by
  obtain ⟨c, hc, hlatency, -⟩ := overspecified_accepted
  exact ⟨c, hc, cell_read_energy_nonneg_iff (g := .exactAtFour .overspecified)
    Cell.overspecified_readSpecified (by decide) _ hlatency.le⟩

/-- `SubArray::Initialize` accepts this cell, and its read energy is negative. -/
theorem cell_read_energy_negative :
    Cell.overspecified.ReadSpecified ∧
      ∃ c, initializeSubArray (.exactAtFour .overspecified) .cleared .small = .ok c ∧
        0 ≤ (c.calculateLatency (.exactAtFour .overspecified) 1).senseAmp.readLatency ∧
        ¬ 0 ≤ ((c.calculateLatency (.exactAtFour .overspecified) 1).calculatePower
          (.exactAtFour .overspecified)).cellReadEnergy := by
  obtain ⟨c, hc, hlatency, henergy⟩ := overspecified_accepted
  exact ⟨Cell.overspecified_readSpecified, c, hc, hlatency.le, not_le.mpr henergy⟩

end NVSim
