import Mathlib.Tactic.Linarith
import NVSim.Model.SubArrayEvaluation

/-!
# SET and RESET of a subarray

The cell with its SET and RESET parameters exchanged has the same subarray.  The latencies
of the two operations are exchanged with the parameters.  Their energies are not: the
RESET energy is accumulated from the SET energy, and the energy of a RESET of the cell is
not added to it.
-/

namespace NVSim

variable {K : Type}

/-- The cell with the modes, voltages, currents, pulses and energies of SET and RESET
exchanged. -/
def Cell.exchanged (cell : Cell K) : Cell K :=
  { cell with
    resetMode := cell.setMode
    resetVoltage := cell.setVoltage
    resetCurrent := cell.setCurrent
    resetPulse := cell.setPulse
    resetEnergy := cell.setEnergy
    setMode := cell.resetMode
    setVoltage := cell.resetVoltage
    setCurrent := cell.resetCurrent
    setPulse := cell.resetPulse
    setEnergy := cell.resetEnergy }

namespace Globals

variable [Field K] [LinearOrder K]

/-- The global objects with an exchanged cell. -/
def exchanged (g : Globals K) : Globals K := { g with cell := g.cell.exchanged }

/-- A resistive cell that a CMOS transistor accesses, with both write energies given. -/
structure WritesByTransistor (g : Globals K) : Prop where
  isResistive : g.cell.memCellType.isResistive
  accessType : g.cell.accessType = .cmosAccess
  noVerify : g.cell.memCellType = .pcram → g.inputParameter.writeScheme ≠ .writeAndVerify
  resetEnergy : g.cell.resetEnergy ≠ 0
  setEnergy : g.cell.setEnergy ≠ 0

variable {g : Globals K}

/-- The currents depend on the larger one of the two write currents. -/
theorem currents_exchanged (hCell : g.WritesByTransistor) (a : SubArray) :
    g.exchanged.currents a = g.currents a := by
  have hCurrent : g.exchanged.accessedBitlineCurrent a = g.accessedBitlineCurrent a := by
    show max g.cell.setCurrent g.cell.resetCurrent + _ = max g.cell.resetCurrent _ + _
    rw [max_comm]
    rfl
  have hAccess := hCell.accessType
  have hType := hCell.isResistive
  have hSame : g.exchanged.cell.memCellType = g.cell.memCellType := rfl
  have hSameAccess : g.exchanged.cell.accessType = g.cell.accessType := rfl
  unfold currents
  rw [hSame, hSameAccess, hAccess, hCurrent]
  rfl

/-! The models of the components and the electrical values do not depend on the write
parameters. -/

theorem lines_exchanged : g.exchanged.lines = g.lines := rfl

theorem addCells_exchanged : g.exchanged.addCells = g.addCells := rfl

theorem addReadVoltages_exchanged : g.exchanged.addReadVoltages = g.addReadVoltages := rfl

theorem electrics_exchanged : g.exchanged.electrics = g.electrics := by
  ext memory a
  unfold electrics
  rw [lines_exchanged, addCells_exchanged, addReadVoltages_exchanged]
  rfl

theorem initializePrecharger_exchanged :
    initializePrecharger g.exchanged = initializePrecharger g := rfl

theorem capForPreviousDelayCalculation_exchanged :
    Mux.capForPreviousDelayCalculation g.exchanged = Mux.capForPreviousDelayCalculation g := rfl

theorem muxDecoder_exchanged : g.exchanged.muxDecoder = g.muxDecoder := rfl

theorem circuit_exchanged : g.exchanged.circuit = g.circuit := by
  ext memory a currents
  unfold circuit
  rw [electrics_exchanged, muxDecoder_exchanged, initializePrecharger_exchanged,
    capForPreviousDelayCalculation_exchanged]
  rfl

/-- The exchanged cell has the same subarray. -/
theorem initializeSubArray_exchanged (hCell : g.WritesByTransistor)
    (memory : SubArrayElectrics K) (a : SubArray) :
    initializeSubArray g.exchanged memory a = initializeSubArray g memory a := by
  unfold initializeSubArray
  rw [currents_exchanged hCell, electrics_exchanged, circuit_exchanged]
  rfl

end Globals

namespace SubArrayCircuit

variable [Field K] [LinearOrder K] {g : Globals K} (c : SubArrayCircuit K)

/-! ## Latencies -/

/-- The subarray after the part of `CalculateLatency` that does not depend on the write
parameters. -/
def readTimed (g : Globals K) (rampInput : K) : SubArrayCircuit K :=
  let c := c.timedDecoders g rampInput
  { c with toSubArrayElectrics := c.bitline g c.rowDecoder.rampOutput }.addReadLatency g

theorem calculateLatency_eq (hCell : g.WritesByTransistor) (rampInput : K) :
    c.calculateLatency g rampInput = (c.readTimed g rampInput).addPulses g := by
  have hType := hCell.isResistive
  have hVerify := hCell.noVerify
  have hAccess := hCell.accessType
  unfold calculateLatency readTimed addWriteLatency
  cases hKind : g.cell.memCellType with
  | sram | dram | eDRAM | slcNAND | mlcNAND => simp [hKind, MemCellType.isResistive] at hType
  | pcram => simp [hVerify hKind]
  | mram | memristor => simp [hAccess]
  | fbram => rfl

theorem readTimed_exchanged (rampInput : K) :
    c.readTimed g.exchanged rampInput = c.readTimed g rampInput := by
  have hBitline : ∀ d : SubArrayCircuit K, d.bitline g.exchanged = d.bitline g := fun _ => rfl
  have hDecoders : c.timedDecoders g.exchanged = c.timedDecoders g := rfl
  have hRead : ∀ d : SubArrayCircuit K, d.addReadLatency g.exchanged = d.addReadLatency g :=
    fun _ => rfl
  unfold readTimed
  rw [hDecoders]
  simp only [hBitline, hRead]

/-! ## Energies -/

/-- The write energies given in the cell are not changed. -/
theorem calculateWriteEnergy_of_given (cell : MemCell K) (vdd : K) (hReset : cell.resetEnergy ≠ 0)
    (hSet : cell.setEnergy ≠ 0) : cell.calculateWriteEnergy vdd = cell := by
  simp [MemCell.calculateWriteEnergy, hReset, hSet]

/-- The energy that one operation of the cells adds to a subarray. -/
def cellEnergy (g : Globals K) (mode : Bool) (voltage energy : K) : K :=
  c.columnEnergy (c.energyPerBit g mode voltage energy) /
      (if g.cell.memCellType = .pcram then shaperEfficiencyConservative
        else shaperEfficiencyAggressive) /
    (if g.inputParameter.designTarget = .cache ∧
        g.inputParameter.cacheAccessMode ≠ .sequentialAccessMode then
      (g.inputParameter.associativity : K) else 1)

/-- The energy of a SET of the cells. -/
def cellSet (g : Globals K) : K :=
  c.cellEnergy g g.cell.setMode g.cell.setVoltage g.cell.setEnergy

/-- The energy of a RESET of the cells. -/
def cellReset (g : Globals K) : K :=
  c.cellEnergy g g.cell.resetMode g.cell.resetVoltage g.cell.resetEnergy

/-- The energy that the column circuits and their decoders take for a write. -/
def writeOverhead (g : Globals K) : K := (c.poweredComponents g).peripheralWriteEnergy

/-- Nothing was added to the SET and RESET energies yet. -/
structure Unwritten : Prop where
  setDynamicEnergy : c.setDynamicEnergy = 0
  resetDynamicEnergy : c.resetDynamicEnergy = 0
  rowSetDynamicEnergy : c.rowDecoder.setDynamicEnergy = 0
  rowResetDynamicEnergy : c.rowDecoder.resetDynamicEnergy = 0

/-- What the accumulation of the SET and RESET energies starts from. -/
structure WriteTotals (c : SubArrayCircuit K) (cellSetEnergy overhead : K) : Prop
    extends Unwritten c where
  cellSetEnergy : c.cellSetEnergy = cellSetEnergy
  peripheralWriteEnergy : c.peripheralWriteEnergy = overhead

variable {c}

/-- `addCellPower` stores the energies of the cells and leaves the components alone. -/
theorem addCellPower_totals (hCell : g.WritesByTransistor) {overhead : K} (h : c.Unwritten)
    (hOverhead : c.peripheralWriteEnergy = overhead) :
    WriteTotals (c.addCellPower g)
      (c.columnEnergy (c.energyPerBit g g.cell.setMode g.cell.setVoltage g.cell.setEnergy) /
        (if g.cell.memCellType = .pcram then shaperEfficiencyConservative
          else shaperEfficiencyAggressive)) overhead := by
  have hType := hCell.isResistive
  have hVerify := hCell.noVerify
  have hEnergy : g.cell.toMemCell.calculateWriteEnergy g.tech.vdd = g.cell.toMemCell :=
    calculateWriteEnergy_of_given _ _ hCell.resetEnergy hCell.setEnergy
  unfold addCellPower
  rw [hEnergy]
  cases hKind : g.cell.memCellType with
  | sram | dram | eDRAM | slcNAND | mlcNAND => simp [hKind, MemCellType.isResistive] at hType
  | pcram =>
      simp only [addCellEnergy, hKind, hVerify hKind, if_false, if_true]
      exact ⟨⟨h.1, h.2, h.3, h.4⟩, rfl, hOverhead⟩
  | mram | memristor | fbram =>
      simp only [addCellEnergy, hKind, reduceCtorEq, if_false]
      exact ⟨⟨h.1, h.2, h.3, h.4⟩, rfl, hOverhead⟩

/-- `divideByWays` divides the energies of the cells. -/
theorem divideByWays_totals {cellSetEnergy overhead : K}
    (h : WriteTotals c cellSetEnergy overhead) :
    WriteTotals (c.divideByWays g)
      (cellSetEnergy / (if g.inputParameter.designTarget = .cache ∧
          g.inputParameter.cacheAccessMode ≠ .sequentialAccessMode then
        (g.inputParameter.associativity : K) else 1)) overhead := by
  unfold divideByWays
  split
  · exact
      { setDynamicEnergy := by simp [h.setDynamicEnergy]
        resetDynamicEnergy := by simp [h.resetDynamicEnergy]
        rowSetDynamicEnergy := h.rowSetDynamicEnergy
        rowResetDynamicEnergy := h.rowResetDynamicEnergy
        cellSetEnergy := by simp [h.cellSetEnergy]
        peripheralWriteEnergy := h.peripheralWriteEnergy }
  · simpa using h

/-- `addComponentPower` adds the overhead to the energy of the cells, and the sum and the
overhead to the RESET energy. -/
theorem addComponentPower_energies {cellSetEnergy overhead : K}
    (h : WriteTotals c cellSetEnergy overhead) :
    (c.addComponentPower g).setDynamicEnergy = cellSetEnergy + overhead ∧
      (c.addComponentPower g).resetDynamicEnergy = cellSetEnergy + overhead + overhead := by
  unfold addComponentPower
  rw [h.setDynamicEnergy, h.resetDynamicEnergy, h.rowSetDynamicEnergy, h.rowResetDynamicEnergy,
    h.cellSetEnergy, h.peripheralWriteEnergy]
  simp

/-- The SET energy is that of the cells and the overhead; the RESET energy is the SET
energy and once more the overhead. -/
theorem calculatePower_energies (hCell : g.WritesByTransistor) (h : c.Unwritten) :
    (c.calculatePower g).setDynamicEnergy = c.cellSet g + c.writeOverhead g ∧
      (c.calculatePower g).resetDynamicEnergy =
        c.cellSet g + c.writeOverhead g + c.writeOverhead g := by
  have hPowered : (c.poweredComponents g).Unwritten := ⟨h.1, h.2, h.3, h.4⟩
  have hTotals := divideByWays_totals (g := g) (addCellPower_totals hCell hPowered rfl)
  have hSet := addComponentPower_energies (g := g) hTotals
  exact hSet

/-! ## Evaluations -/

theorem bitline_line (rowRamp : K) :
    (c.bitline g rowRamp).capCellAccess = c.capCellAccess ∧
      (c.bitline g rowRamp).capBitline = c.capBitline := by
  unfold bitline
  cases g.cell.memCellType with
  | mram | pcram | memristor | fbram => cases g.cell.readMode <;> exact ⟨rfl, rfl⟩
  | sram | dram | eDRAM | slcNAND | mlcNAND => exact ⟨rfl, rfl⟩

theorem readTimed_bitlineMux (rampInput : K) :
    (c.readTimed g rampInput).bitlineMux.part = c.bitlineMux.part := by
  unfold readTimed addReadLatency
  cases g.cell.memCellType.isDram <;> rfl

/-- `CalculateLatency` does not change what an operation of the cells takes. -/
theorem cellEnergy_calculateLatency (hCell : g.WritesByTransistor) (rampInput : K) (mode : Bool)
    (voltage energy : K) :
    (c.calculateLatency g rampInput).cellEnergy g mode voltage energy =
      c.cellEnergy g mode voltage energy := by
  have hLine : (c.readTimed g rampInput).capLine g = c.capLine g := by
    obtain ⟨hAccess, hBitline⟩ := bitline_line (g := g) (c := c.timedDecoders g rampInput)
      (c.timedDecoders g rampInput).rowDecoder.rampOutput
    unfold capLine
    rw [readTimed_bitlineMux]
    exact congrArg₂ (fun x y => x + y + _) hAccess hBitline
  have hPulses : (c.calculateLatency g rampInput).capLine g = c.capLine g := by
    rw [calculateLatency_eq c hCell, ← hLine]
    rfl
  unfold cellEnergy energyPerBit
  rw [hPulses, calculateLatency_eq c hCell]
  rfl

/-- `CalculateLatency` does not change the overhead of a write. -/
theorem writeOverhead_calculateLatency (hCell : g.WritesByTransistor) (rampInput : K) :
    (c.calculateLatency g rampInput).writeOverhead g = c.writeOverhead g := by
  have hType : g.cell.memCellType.isDram = false := by
    have hResistive := hCell.isResistive
    cases hKind : g.cell.memCellType <;> simp_all [MemCellType.isResistive, MemCellType.isDram]
  rw [calculateLatency_eq c hCell]
  unfold readTimed addReadLatency writeOverhead
  rw [hType]
  cases hSense : c.internalSenseAmp <;>
    simp [poweredComponents, addPulses, timedDecoders, timedMux, hSense, peripheralWriteEnergy,
      columnWriteEnergy]

theorem unwritten_calculateLatency (hCell : g.WritesByTransistor) (rampInput : K)
    (h : c.Unwritten) : (c.calculateLatency g rampInput).Unwritten := by
  rw [calculateLatency_eq c hCell]
  exact ⟨h.1, h.2, h.3, h.4⟩

/-- A subarray that was just initialised. -/
theorem initializeSubArray_unwritten {memory : SubArrayElectrics K} {a : SubArray}
    (hInit : initializeSubArray g memory a = .ok c) : c.Unwritten := by
  obtain ⟨currents, h⟩ := initializeSubArray_eq_ok.mp hInit
  rw [h.circuit]
  exact ⟨rfl, rfl, rfl, rfl⟩

/-- The measures of a subarray for the exchanged cell are those for the cell with SET and
RESET exchanged. -/
structure Exchanged (measures measures' : FunctionUnit K) : Prop where
  setLatency : measures'.setLatency = measures.resetLatency
  resetLatency : measures'.resetLatency = measures.setLatency
  setDynamicEnergy : measures'.setDynamicEnergy = measures.resetDynamicEnergy
  resetDynamicEnergy : measures'.resetDynamicEnergy = measures.setDynamicEnergy

/-- `CalculatePower` does not change the latencies of SET and RESET. -/
theorem calculatePower_latencies :
    (c.calculatePower g).setLatency = c.setLatency ∧
      (c.calculatePower g).resetLatency = c.resetLatency := by
  have hWays (d : SubArrayCircuit K) : (d.divideByWays g).setLatency = d.setLatency ∧
      (d.divideByWays g).resetLatency = d.resetLatency := by
    unfold divideByWays
    split <;> exact ⟨rfl, rfl⟩
  have hCells (d : SubArrayCircuit K) : (d.addCellPower g).setLatency = d.setLatency ∧
      (d.addCellPower g).resetLatency = d.resetLatency := by
    unfold addCellPower addCellEnergy
    cases g.cell.memCellType with
    | pcram =>
        dsimp only
        split <;> exact ⟨rfl, rfl⟩
    | sram | dram | eDRAM | mram | memristor | fbram | slcNAND | mlcNAND => exact ⟨rfl, rfl⟩
  have hPowered := hCells (c.poweredComponents g)
  have hDivided := hWays ((c.poweredComponents g).addCellPower g)
  exact ⟨hDivided.1.trans hPowered.1, hDivided.2.trans hPowered.2⟩

/-- The latencies of SET and RESET follow their pulses. -/
theorem evaluated_latencies (hCell : g.WritesByTransistor) (rampInput : K) :
    ((c.calculateLatency g rampInput).calculatePower g).setLatency =
        (c.readTimed g rampInput).writeStart + g.cell.setPulse ∧
      ((c.calculateLatency g rampInput).calculatePower g).resetLatency =
        (c.readTimed g rampInput).writeStart + g.cell.resetPulse := by
  obtain ⟨hSet, hReset⟩ := calculatePower_latencies (g := g) (c := c.calculateLatency g rampInput)
  rw [hSet, hReset, calculateLatency_eq c hCell]
  exact ⟨rfl, rfl⟩

/-- The energies of SET and RESET after both evaluations. -/
theorem evaluated_energies (hCell : g.WritesByTransistor) (h : c.Unwritten) (rampInput : K) :
    ((c.calculateLatency g rampInput).calculatePower g).setDynamicEnergy =
        c.cellSet g + c.writeOverhead g ∧
      ((c.calculateLatency g rampInput).calculatePower g).resetDynamicEnergy =
        c.cellSet g + c.writeOverhead g + c.writeOverhead g := by
  have hEnergies := calculatePower_energies hCell (unwritten_calculateLatency hCell rampInput h)
  rw [writeOverhead_calculateLatency hCell, cellSet, cellEnergy_calculateLatency hCell]
    at hEnergies
  exact hEnergies

/-- The exchange of SET and RESET exchanges their latencies, and it exchanges their energies
if and only if a write has no overhead and both operations of the cells take the same
energy. -/
theorem exchanged_iff [IsStrictOrderedRing K] (hCell : g.WritesByTransistor) (h : c.Unwritten)
    (rampInput : K) :
    Exchanged ((c.calculateLatency g rampInput).calculatePower g).toFunctionUnit
        ((c.calculateLatency g.exchanged rampInput).calculatePower g.exchanged).toFunctionUnit ↔
      c.writeOverhead g = 0 ∧ c.cellSet g = c.cellReset g := by
  have hCell' : g.exchanged.WritesByTransistor :=
    ⟨hCell.isResistive, hCell.accessType, hCell.noVerify, hCell.setEnergy, hCell.resetEnergy⟩
  obtain ⟨hSetLatency, hResetLatency⟩ := evaluated_latencies (c := c) hCell rampInput
  obtain ⟨hSetLatency', hResetLatency'⟩ := evaluated_latencies (c := c) hCell' rampInput
  rw [readTimed_exchanged] at hSetLatency' hResetLatency'
  obtain ⟨hSet, hReset⟩ := evaluated_energies hCell h rampInput
  obtain ⟨hSet', hReset'⟩ := evaluated_energies hCell' h rampInput
  have hOverhead : c.writeOverhead g.exchanged = c.writeOverhead g := rfl
  have hCellSet : c.cellSet g.exchanged = c.cellReset g := rfl
  rw [hOverhead, hCellSet] at hSet' hReset'
  constructor
  · intro hExchanged
-- both differences are the overhead and what the cell takes more
    have hFirst := hExchanged.setDynamicEnergy
    have hSecond := hExchanged.resetDynamicEnergy
    rw [hSet', hReset] at hFirst
    rw [hReset', hSet] at hSecond
    constructor
    · linarith
    · linarith
  · intro ⟨hNone, hEqual⟩
    exact
      { setLatency := hSetLatency'.trans hResetLatency.symm
        resetLatency := hResetLatency'.trans hSetLatency.symm
        setDynamicEnergy := by rw [hSet', hReset, hNone, hEqual]; simp
        resetDynamicEnergy := by rw [hReset', hSet, hNone, hEqual]; simp }

end SubArrayCircuit

/-- In every subarray of a cell with a CMOS access transistor the exchange of SET and RESET
exchanges the two latencies and the two energies if and only if the subarray is rejected, or
a write has no overhead and both operations of the cells take the same energy. -/
theorem evaluateSubArray_exchanged_iff [Field K] [LinearOrder K] [IsStrictOrderedRing K]
    (g : Globals K) (memory : SubArrayElectrics K) (a : SubArray) (rampInput : K)
    (hCell : g.WritesByTransistor) :
    (∀ measures ∈ evaluateSubArray g memory a rampInput,
        ∃ measures' ∈ evaluateSubArray g.exchanged memory a rampInput,
          SubArrayCircuit.Exchanged measures measures') ↔
      ∀ c, initializeSubArray g memory a = .ok c →
        c.writeOverhead g = 0 ∧ c.cellSet g = c.cellReset g := by
  unfold evaluateSubArray
  rw [Globals.initializeSubArray_exchanged hCell]
  cases hInit : initializeSubArray g memory a with
  | error halt =>
      cases halt with
      | exit => simp
      | invalid initialized =>
          cases initialized with
          | false => simpa using ⟨rfl, rfl, rfl, rfl⟩
          | true => simpa using ⟨rfl, rfl, rfl, rfl⟩
  | ok c =>
      have hUnwritten := SubArrayCircuit.initializeSubArray_unwritten hInit
      simpa using SubArrayCircuit.exchanged_iff hCell hUnwritten rampInput

/-- A cell whose SET takes twice the time of its RESET and the same energy, among circuits
without capacitances, for examples. -/
def Globals.weightless : Globals ℚ :=
  { Globals.small { Cell.small with setPulse := 2, setEnergy := 1 } with
    tech :=
      { Technology.small with
        gateCap := fun _ => 0
        drainCap := fun _ _ _ => 0
        gateCapacitance := fun _ _ _ _ _ => (0, 0)
        featureSize_pos := Technology.small_featureSize_pos }
    driver := { DriverModels.small with power := fun _ => (0, 0) } }

/-- For this cell the exchange of SET and RESET exchanges what a subarray reports. -/
theorem evaluateSubArray_exchanged_small :
    ∃ measures, evaluateSubArray .weightless .cleared .small 0 = some measures ∧
      measures.setLatency = measures.resetLatency + 1 ∧
      ∃ measures' ∈ evaluateSubArray Globals.weightless.exchanged .cleared .small 0,
        SubArrayCircuit.Exchanged measures measures' := by
  have hEnergies : ∀ c, initializeSubArray .weightless .cleared .small = .ok c →
      c.writeOverhead .weightless = 0 ∧ c.cellSet .weightless = c.cellReset .weightless := by
    have hSome : ((initializeSubArray .weightless .cleared .small).toOption.map fun c =>
        (c.writeOverhead .weightless, c.cellSet .weightless, c.cellReset .weightless)) =
          some (0, 2, 2) := by
      decide +kernel
    intro c hInit
    simp only [hInit, Except.toOption, Option.map_some, Option.some.injEq, Prod.mk.injEq] at hSome
    exact ⟨hSome.1, hSome.2.1.trans hSome.2.2.symm⟩
  have hExchanged := (evaluateSubArray_exchanged_iff .weightless .cleared .small 0
    ⟨rfl, rfl, nofun, by decide, by decide⟩).mpr hEnergies
  have hLatency : (evaluateSubArray .weightless .cleared .small 0).map
      (fun measures => measures.setLatency - measures.resetLatency) = some 1 := by
    decide +kernel
  obtain ⟨measures, hMeasures, hLonger⟩ := Option.map_eq_some_iff.mp hLatency
  exact ⟨measures, hMeasures, sub_eq_iff_eq_add'.mp hLonger, hExchanged measures hMeasures⟩

/-- A cell whose SET takes twice the energy of its RESET: the subarray reports 14 for a RESET,
and for the exchanged cell 9 for a SET. -/
theorem evaluateSubArray_not_exchanged :
    ¬ ∀ measures ∈ evaluateSubArray (.small .small) .cleared .small 0,
        ∃ measures' ∈ evaluateSubArray (Globals.small .small).exchanged .cleared .small 0,
          SubArrayCircuit.Exchanged measures measures' := by
  intro h
  have hReset : (evaluateSubArray (.small .small) .cleared .small 0).map
      FunctionUnit.resetDynamicEnergy = some 14 := by decide +kernel
  have hSet : (evaluateSubArray (Globals.small .small).exchanged .cleared .small 0).map
      FunctionUnit.setDynamicEnergy = some 9 := by decide +kernel
  obtain ⟨measures, hMeasures, hFourteen⟩ := Option.map_eq_some_iff.mp hReset
  obtain ⟨measures', hMeasures', hExchanged⟩ := h measures hMeasures
  rw [Option.mem_def.mp hMeasures', Option.map_some, hExchanged.setDynamicEnergy, hFourteen] at hSet
  exact absurd hSet (by decide)

end NVSim
