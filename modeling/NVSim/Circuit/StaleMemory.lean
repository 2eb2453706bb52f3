import NVSim.Model.Search
import NVSim.Model.SubArrayReads

/-!
# Which subarrays depend on stale memory

`SubArray::Initialize` reads two of its fields before it assigns them: the capacitance of the
bit line, from which the sense voltage of an embedded DRAM is computed, and the resistance and
the capacitance of the access device, if that is a bipolar transistor.
-/

namespace NVSim

variable {K : Type} [Field K] [LinearOrder K]

/-- The row decoder is valid. -/
def SubArrayCircuit.RowFits (c : SubArrayCircuit K) : Prop := !c.rowDecoder.part.invalid

instance (c : SubArrayCircuit K) : Decidable c.RowFits := inferInstanceAs (Decidable (_ = true))

/-- The multiplexer decoders and the internal sense amplifiers are valid. -/
def SubArrayCircuit.ColumnsFit (c : SubArrayCircuit K) : Prop :=
  (!c.bitlineMuxDecoder.part.invalid) ∧ (!c.senseAmpMuxLev1Decoder.part.invalid) ∧
    (!c.senseAmpMuxLev2Decoder.part.invalid) ∧ (!(c.internalSenseAmp && c.senseAmp.part.invalid))

namespace Globals

variable (g : Globals K)

/-- The checks before a field is read. -/
def preliminary (a : SubArray) : Except SubArrayHalt (SubArrayCurrents K) := do
  g.checkConfiguration a
  let currents ← g.currents a
  require (¬ g.driverWidth currents.maxBitlineCurrent > g.maxNmosWidth) (.invalid false)
  require (¬ (g.cell.memCellType.isDram ∧ ¬ a.internalSenseAmp)) .exit
  .ok currents

/-- The bit line of a DRAM leaves enough to sense. -/
def senseFits (memory : SubArrayElectrics K) : Prop :=
  ¬ (g.cell.memCellType.isDram ∧ g.senseLow memory)

/-- There is a reasonable precharge voltage. -/
def prechargeFits (memory : SubArrayElectrics K) (a : SubArray) : Prop :=
  ¬ (g.readsVoltage ∧ (g.electrics memory a).voltagePrecharge -
    (g.electrics memory a).voltageMemCellOn ≤ (g.electrics memory a).senseVoltage)

instance (memory : SubArrayElectrics K) : Decidable (g.senseFits memory) :=
  inferInstanceAs (Decidable (¬ _))

instance (memory : SubArrayElectrics K) (a : SubArray) : Decidable (g.prechargeFits memory a) :=
  inferInstanceAs (Decidable (¬ _))

/-- The rest of the initialisation. -/
def finish (memory : SubArrayElectrics K) (a : SubArray) (currents : SubArrayCurrents K) :
    Except SubArrayHalt (SubArrayCircuit K) := do
  require (g.senseFits memory) (.invalid true)
  require (g.prechargeFits memory a) (.invalid false)
  let c := g.circuit memory a currents
  require c.RowFits (.invalid false)
  require (!c.bitlineMuxDecoder.part.invalid) (.invalid true)
  require (!c.senseAmpMuxLev1Decoder.part.invalid) (.invalid true)
  require (!c.senseAmpMuxLev2Decoder.part.invalid) (.invalid true)
  require (!(c.internalSenseAmp && c.senseAmp.part.invalid)) (.invalid true)
  .ok c

variable {g} {memory memory' : SubArrayElectrics K} {a : SubArray} {currents : SubArrayCurrents K}

theorem initializeSubArray_eq_bind :
    initializeSubArray g memory a = g.preliminary a >>= g.finish memory a := by
  simp only [initializeSubArray, preliminary, bind_assoc]
  rfl

theorem require_of {p : Prop} [Decidable p] (h : p) (halt : SubArrayHalt) :
    require p halt = .ok () := if_pos h

theorem require_of_not {p : Prop} [Decidable p] (h : ¬ p) (halt : SubArrayHalt) :
    require p halt = .error halt := if_neg h

theorem finish_of_not_senseFits (h : ¬ g.senseFits memory) :
    g.finish memory a currents = .error (.invalid true) := by
  rw [finish, require_of_not h]
  rfl

theorem finish_of_not_prechargeFits (hsense : g.senseFits memory)
    (h : ¬ g.prechargeFits memory a) : g.finish memory a currents = .error (.invalid false) := by
  rw [finish, require_of hsense, require_of_not h]
  rfl

theorem finish_of_rowDecoder (hsense : g.senseFits memory) (hprecharge : g.prechargeFits memory a)
    (hrow : ¬ (g.circuit memory a currents).RowFits) :
    g.finish memory a currents = .error (.invalid false) := by
  rw [finish, require_of hsense, require_of hprecharge]
  dsimp only [bind, Except.bind]
  rw [require_of_not hrow]

theorem finish_of_not_columnsFit (hsense : g.senseFits memory)
    (hprecharge : g.prechargeFits memory a)
    (hrow : (g.circuit memory a currents).RowFits)
    (h : ¬ (g.circuit memory a currents).ColumnsFit) :
    g.finish memory a currents = .error (.invalid true) := by
  rw [finish, require_of hsense, require_of hprecharge]
  dsimp only [bind, Except.bind]
  rw [require_of hrow]
  unfold require
  split_ifs with h₁ h₂ h₃ h₄
  · exact absurd ⟨h₁, h₂, h₃, h₄⟩ h
  all_goals rfl

theorem finish_of_columnsFit (hsense : g.senseFits memory)
    (hprecharge : g.prechargeFits memory a)
    (hrow : (g.circuit memory a currents).RowFits)
    (h : (g.circuit memory a currents).ColumnsFit) :
    g.finish memory a currents = .ok (g.circuit memory a currents) := by
  obtain ⟨h₁, h₂, h₃, h₄⟩ := h
  rw [finish, require_of hsense, require_of hprecharge]
  dsimp only [bind, Except.bind]
  rw [require_of hrow, require_of h₁, require_of h₂, require_of h₃, require_of h₄]

/-! ## What does not depend on memory -/

/-- The lines of two subarrays are the same. -/
structure SameLines (e e' : SubArrayElectrics K) : Prop where
  numSenseAmp : e.numSenseAmp = e'.numSenseAmp
  lenWordline : e.lenWordline = e'.lenWordline
  lenBitline : e.lenBitline = e'.lenBitline
  capWordline : e.capWordline = e'.capWordline
  resWordline : e.resWordline = e'.resWordline
  capBitline : e.capBitline = e'.capBitline
  resBitline : e.resBitline = e'.resBitline

theorem sameLines_lines (memory memory' : SubArrayElectrics K) (a : SubArray) :
    SameLines (g.lines memory a) (g.lines memory' a) := ⟨rfl, rfl, rfl, rfl, rfl, rfl, rfl⟩

theorem SameLines.addCells {e e' : SubArrayElectrics K} (h : SameLines e e') (a : SubArray) :
    SameLines (g.addCells a e) (g.addCells a e') := by
  obtain ⟨h₁, h₂, h₃, h₄, h₅, h₆, h₇⟩ := h
  cases htype : g.cell.memCellType <;> cases haccess : g.cell.accessType <;>
    constructor <;>
      simp only [Globals.addCells, accessed, htype, haccess, h₁, h₂, h₃, h₄, h₅, h₆, h₇]

theorem SameLines.addReadVoltages {e e' : SubArrayElectrics K} (h : SameLines e e') :
    SameLines (g.addReadVoltages e) (g.addReadVoltages e') := by
  obtain ⟨h₁, h₂, h₃, h₄, h₅, h₆, h₇⟩ := h
  unfold Globals.addReadVoltages
  split
  · exact ⟨h₁, h₂, h₃, h₄, h₅, h₆, h₇⟩
  · exact ⟨h₁, h₂, h₃, h₄, h₅, h₆, h₇⟩

theorem sameLines_electrics (memory memory' : SubArrayElectrics K) (a : SubArray) :
    SameLines (g.electrics memory a) (g.electrics memory' a) := by
  have hcells := (sameLines_lines (g := g) memory memory' a).addCells (g := g) a
  unfold electrics
  split
  · exact hcells.addReadVoltages
  · exact hcells

/-! ## Components -/

theorem rowDecoder_circuit (memory memory' : SubArrayElectrics K) :
    (g.circuit memory a currents).rowDecoder = (g.circuit memory' a currents).rowDecoder := by
  have h := sameLines_electrics (g := g) memory memory' a
  simp only [circuit, h.capWordline, h.resWordline]

theorem rowFits_circuit (memory memory' : SubArrayElectrics K) :
    (g.circuit memory a currents).RowFits ↔ (g.circuit memory' a currents).RowFits := by
  rw [SubArrayCircuit.RowFits, SubArrayCircuit.RowFits, rowDecoder_circuit memory memory']

/-- The layout of the sense amplifiers depends on their pitch only. -/
theorem columnsFit_circuit (memory memory' : SubArrayElectrics K) :
    (g.circuit memory a currents).ColumnsFit ↔ (g.circuit memory' a currents).ColumnsFit := by
  have h := sameLines_electrics (g := g) memory memory' a
  have hsense : (g.circuit memory a currents).senseAmp.part.invalid =
      (g.circuit memory' a currents).senseAmp.part.invalid := by
    simp only [circuit, Component.initialized]
    split
    · simp only [initializeSenseAmp, h.lenWordline]
    · rfl
  unfold SubArrayCircuit.ColumnsFit
  rw [hsense]
  exact Iff.rfl

/-- Two accepted circuits are read alike if their electrical values are. -/
theorem reads_circuit (memory memory' : SubArrayElectrics K)
    (hread : g.electricsRead (g.electrics memory a) = g.electricsRead (g.electrics memory' a))
    (hundefined :
      (g.electrics memory a).senseUndefined = (g.electrics memory' a).senseUndefined)
    (hsense : a.internalSenseAmp →
      (g.electrics memory a).voltageSense = (g.electrics memory' a).voltageSense ∧
      (g.electrics memory a).senseVoltage = (g.electrics memory' a).senseVoltage) :
    g.reads (g.circuit memory a currents) = g.reads (g.circuit memory' a currents) := by
  have h := sameLines_electrics (g := g) memory memory' a
  cases hinternal : a.internalSenseAmp with
  | true =>
      obtain ⟨hvoltageSense, hsenseVoltage⟩ := hsense hinternal
      simp only [reads, circuit, hread, hundefined, Component.initialized, hinternal, if_true,
        h.numSenseAmp, h.lenWordline, h.capWordline, h.resWordline, h.capBitline, h.resBitline,
        hvoltageSense, hsenseVoltage]
      rfl
  | false =>
      simp only [reads, circuit, hread, hundefined, Component.initialized, hinternal,
        Bool.false_eq_true, if_false, h.capWordline, h.resWordline, h.capBitline, h.resBitline]
      rfl

/-! ## Electrical values -/

variable (g) in
/-- The access device is a bipolar transistor, which has no model. -/
def BipolarAccess : Prop :=
  (g.cell.memCellType = .mram ∨ g.cell.memCellType = .pcram ∨ g.cell.memCellType = .memristor) ∧
    g.cell.accessType = .bjtAccess

theorem senseVoltage_addCells (memory : SubArrayElectrics K) (a : SubArray) :
    (g.addCells a (g.lines memory a)).senseVoltage = g.senseVoltage memory := by
  cases htype : g.cell.memCellType <;> cases haccess : g.cell.accessType <;>
    simp only [addCells, accessed, htype, haccess] <;> rfl

theorem senseVoltage_electrics (memory : SubArrayElectrics K) (a : SubArray) :
    (g.electrics memory a).senseVoltage = g.senseVoltage memory := by
  rw [← senseVoltage_addCells memory a]
  unfold electrics addReadVoltages
  split_ifs <;> rfl

theorem senseUndefined_addCells (memory : SubArrayElectrics K) (a : SubArray) :
    (g.addCells a (g.lines memory a)).senseUndefined = g.senseUndefined memory := by
  cases htype : g.cell.memCellType <;> cases haccess : g.cell.accessType <;>
    simp only [addCells, accessed, htype, haccess] <;> rfl

theorem senseUndefined_electrics (memory : SubArrayElectrics K) (a : SubArray) :
    (g.electrics memory a).senseUndefined = g.senseUndefined memory := by
  rw [← senseUndefined_addCells memory a]
  unfold electrics addReadVoltages
  split_ifs <;> rfl

variable (g) in
/-- The sense voltage is derived in the same way. -/
structure SameSense (memory memory' : SubArrayElectrics K) : Prop where
  voltage : g.senseVoltage memory = g.senseVoltage memory'
  undefined : g.senseUndefined memory = g.senseUndefined memory'

theorem SameSense.senseFits_iff (h : g.SameSense memory memory') :
    g.senseFits memory ↔ g.senseFits memory' := by
  unfold senseFits senseLow
  rw [h.voltage, h.undefined]

/-- The values of the cells. -/
structure SameCells (e e' : SubArrayElectrics K) : Prop where
  capCellAccess : e.capCellAccess = e'.capCellAccess
  resMemCellOn : e.resMemCellOn = e'.resMemCellOn
  resMemCellOff : e.resMemCellOff = e'.resMemCellOff

/-- Resistive cells are assigned, if their access device has a model. -/
theorem sameCells_addCells (hresistive : g.cell.memCellType.isResistive)
    (haccess : ¬ g.BipolarAccess) (e e' : SubArrayElectrics K) (a : SubArray) :
    SameCells (g.addCells a e) (g.addCells a e') := by
  cases htype : g.cell.memCellType
  case mram | pcram | memristor =>
    all_goals
      cases hdevice : g.cell.accessType with
      | bjtAccess => exact absurd ⟨by simp [htype], hdevice⟩ haccess
      | _ =>
          simp only [addCells, htype, hdevice]
          exact ⟨rfl, rfl, rfl⟩
  case fbram =>
    simp only [addCells, htype]
    exact ⟨rfl, rfl, rfl⟩
  all_goals
    rw [htype] at hresistive
    cases hresistive

theorem electricsRead_of_resistive (hresistive : g.cell.memCellType.isResistive)
    (e : SubArrayElectrics K) : g.electricsRead e =
      [e.lenWordline, e.lenBitline, e.capBitline, e.resBitline, e.capCellAccess] ++
        if g.cell.readMode then
          [e.voltagePrecharge, e.voltageMemCellOn, e.voltageMemCellOff, e.senseVoltage] ++
            if g.cell.readVoltage = 0 then [e.resMemCellOn, e.resMemCellOff]
            else [e.resEquivalentOn, e.resEquivalentOff]
        else [e.resMemCellOn, e.resMemCellOff] := by
  unfold electricsRead
  cases htype : g.cell.memCellType
  case mram | pcram | memristor | fbram => all_goals rfl
  all_goals
    rw [htype] at hresistive
    cases hresistive

/-- The voltages on resistive cells follow from their resistances. -/
theorem SameCells.electricsRead_eq (hresistive : g.cell.memCellType.isResistive)
    {e e' : SubArrayElectrics K} (hcells : SameCells e e') (hlines : SameLines e e')
    (hsense : e.senseVoltage = e'.senseVoltage) :
    g.electricsRead (if g.readsVoltage then g.addReadVoltages e else e) =
      g.electricsRead (if g.readsVoltage then g.addReadVoltages e' else e') := by
  rw [electricsRead_of_resistive hresistive, electricsRead_of_resistive hresistive, readsVoltage,
    hresistive, Bool.true_and]
  cases hmode : g.cell.readMode with
  | false =>
      simp only [Bool.false_eq_true, if_false, hlines.lenWordline, hlines.lenBitline,
        hlines.capBitline, hlines.resBitline, hcells.capCellAccess, hcells.resMemCellOn,
        hcells.resMemCellOff]
  | true =>
      unfold addReadVoltages addCellVoltages
      split_ifs <;>
        simp only [hlines.lenWordline, hlines.lenBitline, hlines.capBitline, hlines.resBitline,
          hcells.capCellAccess, hcells.resMemCellOn, hcells.resMemCellOff, hsense]

/-- Every value that is read is assigned, if the access device has a model. -/
theorem electricsRead_electrics (hmlc : g.cell.memCellType ≠ .mlcNAND)
    (haccess : ¬ g.BipolarAccess)
    (hsense : g.senseVoltage memory = g.senseVoltage memory') (a : SubArray) :
    g.electricsRead (g.electrics memory a) = g.electricsRead (g.electrics memory' a) := by
  have hlines := (sameLines_lines (g := g) memory memory' a).addCells (g := g) a
  have hvoltage : (g.addCells a (g.lines memory a)).senseVoltage =
      (g.addCells a (g.lines memory' a)).senseVoltage := by
    rw [senseVoltage_addCells, senseVoltage_addCells, hsense]
  by_cases hresistive : g.cell.memCellType.isResistive = true
  · exact (sameCells_addCells hresistive haccess _ _ a).electricsRead_eq hresistive hlines hvoltage
  · have hplain (memory : SubArrayElectrics K) :
        g.electrics memory a = g.addCells a (g.lines memory a) := by
      rw [electrics, readsVoltage, Bool.eq_false_iff.2 hresistive]
      rfl
    simp only [electricsRead, hplain, hlines.lenWordline, hlines.lenBitline, hlines.capBitline,
      hlines.resBitline, hvoltage]
    cases htype : g.cell.memCellType
    case mram | pcram | memristor | fbram =>
      all_goals
        rw [htype] at hresistive
        exact absurd rfl hresistive
    case mlcNAND => exact absurd htype hmlc
    case slcNAND => simp only [addCells, htype]
    all_goals
      simp only [addCells, htype]
      rfl

/-! ## Without a bipolar transistor -/

theorem voltageSense_electrics (hinternal : a.internalSenseAmp) (memory : SubArrayElectrics K) :
    (g.electrics memory a).voltageSense = g.voltageSense := by
  have hcells : (g.addCells a (g.lines memory a)).voltageSense = g.voltageSense := by
    cases htype : g.cell.memCellType <;> cases haccess : g.cell.accessType <;>
      simp only [addCells, accessed, lines, htype, haccess, hinternal, if_true]
  rw [← hcells]
  unfold electrics addReadVoltages
  split_ifs <;> rfl

theorem electricsRead_of_readsVoltage (hvoltage : g.readsVoltage) (e : SubArrayElectrics K) :
    ∃ rest, g.electricsRead e =
      [e.lenWordline, e.lenBitline, e.capBitline, e.resBitline, e.capCellAccess,
        e.voltagePrecharge, e.voltageMemCellOn, e.voltageMemCellOff, e.senseVoltage] ++ rest := by
  obtain ⟨hresistive, hmode⟩ := Bool.and_eq_true_iff.1 hvoltage
  rw [electricsRead_of_resistive hresistive, if_pos hmode]
  exact ⟨_, rfl⟩

theorem prechargeFits_congr
    (hread : g.electricsRead (g.electrics memory a) = g.electricsRead (g.electrics memory' a)) :
    g.prechargeFits memory a ↔ g.prechargeFits memory' a := by
  unfold prechargeFits
  by_cases hvoltage : g.readsVoltage = true
  · obtain ⟨rest, hrest⟩ := electricsRead_of_readsVoltage hvoltage (g.electrics memory a)
    obtain ⟨rest', hrest'⟩ := electricsRead_of_readsVoltage hvoltage (g.electrics memory' a)
    rw [hrest, hrest'] at hread
    simp only [List.cons_append, List.cons.injEq] at hread
    rw [hread.2.2.2.2.2.1, hread.2.2.2.2.2.2.1, hread.2.2.2.2.2.2.2.2.1]
  · simp only [hvoltage, Bool.false_eq_true, false_and]

/-- If a sense voltage is derived in the same way, the end of the initialisation is the same. -/
theorem finish_congr (hmlc : g.cell.memCellType ≠ .mlcNAND) (haccess : ¬ g.BipolarAccess)
    (hsense : g.SameSense memory memory') :
    (g.finish memory a currents).map g.reads = (g.finish memory' a currents).map g.reads := by
  have hread := electricsRead_electrics hmlc haccess hsense.voltage a
  have hprecharge := prechargeFits_congr hread
  have hfits := hsense.senseFits_iff
-- the checks after the electrical values, each of which goes the same way in both memories
  by_cases hs : g.senseFits memory
  · by_cases hp : g.prechargeFits memory a
    · by_cases hrow : (g.circuit memory a currents).RowFits
      · have hrow' := (rowFits_circuit memory memory').1 hrow
        by_cases hcolumns : (g.circuit memory a currents).ColumnsFit
        · have hcolumns' := (columnsFit_circuit memory memory').1 hcolumns
          rw [finish_of_columnsFit hs hp hrow hcolumns,
            finish_of_columnsFit (hfits.1 hs) (hprecharge.1 hp) hrow' hcolumns']
          have hundefined : (g.electrics memory a).senseUndefined =
              (g.electrics memory' a).senseUndefined := by
            rw [senseUndefined_electrics, senseUndefined_electrics, hsense.undefined]
          refine congrArg Except.ok
            (reads_circuit memory memory' hread hundefined fun hinternal => ⟨?_, ?_⟩)
          · rw [voltageSense_electrics hinternal, voltageSense_electrics hinternal]
          · rw [senseVoltage_electrics, senseVoltage_electrics, hsense.voltage]
        · rw [finish_of_not_columnsFit hs hp hrow hcolumns,
            finish_of_not_columnsFit (hfits.1 hs) (hprecharge.1 hp) hrow'
              fun h => hcolumns ((columnsFit_circuit memory memory').2 h)]
      · rw [finish_of_rowDecoder hs hp hrow, finish_of_rowDecoder (hfits.1 hs) (hprecharge.1 hp)
          fun h => hrow ((rowFits_circuit memory memory').2 h)]
    · rw [finish_of_not_prechargeFits hs hp,
        finish_of_not_prechargeFits (hfits.1 hs) fun h => hp (hprecharge.2 h)]
  · rw [finish_of_not_senseFits hs, finish_of_not_senseFits fun h => hs (hfits.2 h)]

/-! ## Embedded DRAM -/

theorem ignoresMemory_iff_finish : g.IgnoresMemory a ↔
    ∀ currents, g.preliminary a = .ok currents →
      ∀ memory memory', (g.finish memory a currents).map g.reads =
        (g.finish memory' a currents).map g.reads := by
  unfold IgnoresMemory
  simp only [initializeSubArray_eq_bind]
  cases hpreliminary : g.preliminary a with
  | error halt => simp [bind, Except.bind]
  | ok currents => simp [bind, Except.bind]

theorem memCellType_ne_of_applyConstraint {F : Type} {ip ip' : InputParameter F}
    {memCellType : MemCellType}
    (h : ip.applyConstraint memCellType = some ip') :
    memCellType ≠ .dram ∧ memCellType ≠ .mlcNAND := by
  refine ⟨(InputParameter.applyConstraint_eq_some h).2.2.1, ?_⟩
  rintro rfl
  simp [InputParameter.applyConstraint] at h

theorem sameSense_of_ne (hdram : g.cell.memCellType ≠ .dram)
    (hcell : g.cell.memCellType ≠ .eDRAM) (memory memory' : SubArrayElectrics K) :
    g.SameSense memory memory' := by
  constructor <;> simp only [senseVoltage, senseUndefined] <;>
    cases htype : g.cell.memCellType
  case voltage.dram | undefined.dram => all_goals exact absurd htype hdram
  case voltage.eDRAM | undefined.eDRAM => all_goals exact absurd htype hcell
  all_goals rfl

end Globals

/-- A charged cell of an embedded DRAM, for examples. -/
def Cell.smallDram : Cell ℚ :=
  { Cell.small with memCellType := .eDRAM, capDRAMCell := 1 }

end NVSim
