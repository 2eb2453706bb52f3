import NVSim.Library.While
import NVSim.Model.Decoder
import NVSim.Model.Periphery

/-!
# The circuit of a subarray

`SubArray::Initialize` with its checks, and the evaluations of a subarray.  The object is
new: its constructor has cleared the flags and the measures, and `memory` is what the
other fields hold before they are assigned.

A subarray that is rejected is not kept: what its fields hold is not looked at.  The
counts are exact here.
-/

namespace NVSim

section Constants

variable {K : Type} [Field K]

/-- `BITLINE_LEAKAGE_TOLERANCE`. -/
def bitlineLeakageTolerance : ℕ := 1

/-- `STITCHING_OVERHEAD`. -/
def stitchingOverhead : K := 7.5

/-- `DRAM_REFRESH_PERIOD`. -/
def dramRefreshPeriod : K := 64e-3

/-- `SHAPER_EFFICIENCY_CONSERVATIVE`. -/
def shaperEfficiencyConservative : K := 0.2

/-- `SHAPER_EFFICIENCY_AGGRESSIVE`. -/
def shaperEfficiencyAggressive : K := 1

/-- `DELTA_V_TH`. -/
def deltaVTh : K := 5

/-- `TUNNEL_CURRENT_FLOW`. -/
def tunnelCurrentFlow : K := 10

end Constants

/-- How `SubArray::Initialize` ends without a usable subarray: it exits, or it sets
`invalid`, with or without `initialized`. -/
inductive SubArrayHalt
  | exit
  | invalid (initialized : Bool)
deriving DecidableEq, Repr

/-- A check of `SubArray::Initialize`. -/
def require (condition : Prop) [Decidable condition] (halt : SubArrayHalt) :
    Except SubArrayHalt Unit :=
  if condition then .ok () else .error halt

/-- The electrical values of a subarray. -/
structure SubArrayElectrics (K : Type) where
  voltageSense : Bool
  senseVoltage : K
  /-- The quotient for `senseVoltage` had no denominator: it is infinite or not a number. -/
  senseUndefined : Bool
  voltagePrecharge : K
  numSenseAmp : ℕ
  lenWordline : K
  lenBitline : K
  capWordline : K
  capBitline : K
  resWordline : K
  resBitline : K
  resCellAccess : K
  capCellAccess : K
  resMemCellOff : K
  resMemCellOn : K
  voltageMemCellOff : K
  voltageMemCellOn : K
  resInSerialForSenseAmp : K
  resEquivalentOn : K
  resEquivalentOff : K
  bitlineDelay : K
  chargeLatency : K
  columnDecoderLatency : K
  bitlineDelayOn : K
  bitlineDelayOff : K
deriving DecidableEq, Repr

/-- A subarray that `SubArray::Initialize` accepts. -/
structure SubArrayCircuit (K : Type) extends SubArray, SubArrayElectrics K, FunctionUnit K where
  rowDecoder : Component (RowDecoder K) K
  bitlineMuxDecoder : Component (RowDecoder K) K
  bitlineMux : Component (Mux K) K
  senseAmpMuxLev1Decoder : Component (RowDecoder K) K
  senseAmpMuxLev1 : Component (Mux K) K
  senseAmpMuxLev2Decoder : Component (RowDecoder K) K
  senseAmpMuxLev2 : Component (Mux K) K
  precharger : Component (Precharger K) K
  /-- With external sensing it is not initialised: only the measures of its constructor
  are read. -/
  senseAmp : Component (SenseAmp K) K

variable {K : Type} [Field K] [LinearOrder K]

/-- The currents the word lines and the bit lines have to carry. -/
structure SubArrayCurrents (K : Type) where
  maxWordlineCurrent : K
  maxBitlineCurrent : K

/-- The columns of a row that reach the output. -/
def SubArray.numSelectedColumn (a : SubArray) : ℕ :=
  a.numColumn / a.muxSenseAmp / a.muxOutputLev1 / a.muxOutputLev2

namespace Globals

variable (g : Globals K)

/-- `flashBlockSize / pageSize`. -/
def pageCount : ℕ := g.inputParameter.flashBlockSize / g.inputParameter.pageSize

/-- The checks of a configuration that need no electrical model. -/
def checkConfiguration (a : SubArray) : Except SubArrayHalt Unit := do
  -- each column holds part of data in all the ways
  require (¬ (g.inputParameter.designTarget = .cache ∧
    g.inputParameter.cacheAccessMode ≠ .sequentialAccessMode ∧
    (a.numColumn : ℤ) < g.inputParameter.associativity)) (.invalid true)
  -- the readout is destructive
  require (¬ (g.cell.memCellType.isDram ∧ a.muxSenseAmp > 1)) (.invalid true)
  require (¬ (g.cell.memCellType = .slcNAND ∧ a.numRow < g.pageCount)) (.invalid true)
  -- there is no way to put the sense amplifier
  require (¬ (g.cell.memCellType = .slcNAND ∧ a.internalSenseAmp ∧ a.muxSenseAmp < 2))
    (.invalid true)
  require (¬ ((g.cell.memCellType = .memristor ∨ g.cell.memCellType = .fbram) ∧
    a.internalSenseAmp ∧ a.muxSenseAmp < 2)) (.invalid true)

/-- The largest current on a bit line whose cells have a transistor. -/
def accessedBitlineCurrent (a : SubArray) : K :=
  max g.cell.resetCurrent g.cell.setCurrent +
    g.cell.leakageCurrentAccessDevice * ((a.numRow : K) - 1)

/-- The reset current, given or derived from the reset voltage. -/
def resetCurrent : K :=
  if g.cell.resetCurrent = 0 then
    (|g.cell.resetVoltage| - g.cell.voltageDropAccessDevice) / g.cell.resistanceOnAtResetVoltage
  else g.cell.resetCurrent

/-- The largest currents, and the checks of the array size. -/
def currents (a : SubArray) : Except SubArrayHalt (SubArrayCurrents K) :=
  match g.cell.memCellType with
  | .fbram => do
      -- bitline too long
      require (¬ g.cell.resistanceOff / g.cell.resistanceOn <
        (a.numRow / bitlineLeakageTolerance : ℕ)) (.invalid true)
      .ok { maxWordlineCurrent := 0, maxBitlineCurrent := g.accessedBitlineCurrent a }
  | .mram | .pcram | .memristor =>
      if g.cell.accessType = .cmosAccess then do
        require (¬ g.currentOnNmos / g.tech.currentOffNmos g.temperatureIndex <
          (a.numRow / bitlineLeakageTolerance : ℕ)) (.invalid true)
        .ok { maxWordlineCurrent := 0, maxBitlineCurrent := g.accessedBitlineCurrent a }
      else do
        -- write half select limits the array size
        let resetCurrent := g.resetCurrent
        let halfSelected := resetCurrent * g.cell.resistanceOnAtResetVoltage / 2 /
          g.cell.resistanceOnAtHalfResetVoltage
        let unselected :=
          if g.cell.accessType = .noneAccess then halfSelected
          else g.cell.leakageCurrentAccessDevice
        let maxWordlineCurrent := resetCurrent * a.numSelectedColumn +
          unselected * ((a.numColumn : K) - a.numSelectedColumn)
        require (¬ maxWordlineCurrent / g.currentOnNmos > g.maxNmosWidth) (.invalid false)
        .ok
          { maxWordlineCurrent := maxWordlineCurrent
            maxBitlineCurrent := resetCurrent + unselected * ((a.numRow : K) - 1) }
  | _ => .ok { maxWordlineCurrent := 0, maxBitlineCurrent := 0 }

/-- Whether internal sense amplifiers sense a voltage. -/
def voltageSense : Bool := if g.cell.memCellType.isResistive then g.cell.readMode else true

/-- `senseVoltage`.  For DRAM cells it is derived from the bitline capacitance, before that
is assigned. -/
def senseVoltage (memory : SubArrayElectrics K) : K :=
  match g.cell.memCellType with
  | .dram | .eDRAM =>
      g.tech.vdd / 2 * g.cell.capDRAMCell / (g.cell.capDRAMCell + memory.capBitline)
  | .slcNAND => max g.cell.minSenseVoltage (0.2 * g.tech.vdd)
  | _ => g.cell.minSenseVoltage

/-- The charge that a DRAM cell shares with the bitline. -/
def dramCharge : K := g.tech.vdd / 2 * g.cell.capDRAMCell

/-- The division for `senseVoltage` is by zero. -/
def senseUndefined (memory : SubArrayElectrics K) : Bool :=
  g.cell.memCellType.isDram && g.cell.capDRAMCell + memory.capBitline = 0

/-- `senseVoltage < cell->minSenseVoltage`.  Without a denominator the sense voltage of a cell
with a negative charge is below every number, and otherwise it is above or not a number. -/
def senseLow (memory : SubArrayElectrics K) : Prop :=
  if g.senseUndefined memory then g.dramCharge < 0
  else g.senseVoltage memory < g.cell.minSenseVoltage

instance (memory : SubArrayElectrics K) : Decidable (g.senseLow memory) := by
  unfold senseLow
  infer_instance

/-- The lines of a subarray: lengths, and capacitances and resistances of the wires. -/
def lines (memory : SubArrayElectrics K) (a : SubArray) : SubArrayElectrics K :=
  let stitches : ℤ := ((a.numColumn : ℤ) - 1).tdiv g.cell.stitching + 1
  let lenWordline := a.numColumn * g.cell.widthInFeatureSize * g.tech.featureSize +
    (if g.cell.stitching = 0 then 0 else stitches * stitchingOverhead * g.tech.featureSize)
  let lenBitline := a.numRow * g.cell.heightInFeatureSize * g.tech.featureSize +
    -- two select transistors for each block of pages
    (if g.cell.memCellType = .slcNAND then
      (a.numRow / g.pageCount : ℕ) * 5 * g.tech.featureSize else 0)
  { memory with
    voltageSense := if a.internalSenseAmp then g.voltageSense else memory.voltageSense
    senseVoltage := g.senseVoltage memory
    senseUndefined := g.senseUndefined memory
    numSenseAmp := a.numColumn / a.muxSenseAmp
    lenWordline := lenWordline
    lenBitline := lenBitline
    capWordline := lenWordline * g.capWirePerUnit g.localWire
    resWordline := lenWordline * g.resWirePerUnit g.localWire
    capBitline := lenBitline * g.capWirePerUnit g.localWire
    resBitline := lenBitline * g.resWirePerUnit g.localWire }

/-- The width of the access transistor of a cell. -/
def widthAccess : K := g.cell.widthAccessCMOS * g.tech.featureSize

/-- The on-resistance of the access transistor. -/
def resAccess : K := g.tech.onResistance g.widthAccess .nmos g.inputParameter.temperature

/-- The drain capacitance of the access transistor. -/
def capAccess : K :=
  g.tech.drainCap g.widthAccess .nmos (g.cell.widthInFeatureSize * g.tech.featureSize)

/-- A line of cells with access transistors. -/
def accessed (a : SubArray) (gates : K) (c : SubArrayElectrics K) : SubArrayElectrics K :=
  { c with
    resCellAccess := g.resAccess
    capCellAccess := g.capAccess
    capWordline := c.capWordline + gates * g.tech.gateCap g.widthAccess * a.numColumn
    -- the contact is shared
    capBitline := c.capBitline + g.capAccess * a.numRow / 2 }

/-- The resistances and capacitances of the transistors or of the cells.  What a branch of
the source does not assign stays what it was. -/
def addCells (a : SubArray) (c : SubArrayElectrics K) : SubArrayElectrics K :=
  match g.cell.memCellType with
  | .sram => { g.accessed a 2 c with voltagePrecharge := g.tech.vdd / 2 }
  | .dram | .eDRAM => { g.accessed a 1 c with voltagePrecharge := g.tech.vdd / 2 }
  | .fbram =>
      let width := g.cell.widthSOIDevice * g.tech.featureSize
      let capCellAccess := g.tech.fbramDrainCap width
      { c with
        resCellAccess := 0
        capCellAccess := capCellAccess
        capWordline := c.capWordline +
          g.tech.fbramGateCap width g.cell.gateOxThicknessFactor * a.numColumn
        capBitline := c.capBitline + capCellAccess * a.numRow / 2
        resMemCellOff := g.cell.resistanceOff
        resMemCellOn := g.cell.resistanceOn }
  | .mram | .pcram | .memristor =>
      let c :=
        match g.cell.accessType with
        | .cmosAccess => g.accessed a 1 c
        | .bjtAccess => c
        | .noneAccess | .diodeAccess =>
            let capCell := max g.cell.capacitanceOn g.cell.capacitanceOff
            { c with
              resCellAccess := 0
              capCellAccess := capCell
              capWordline := c.capWordline + capCell * a.numColumn
              capBitline := c.capBitline + capCell * a.numRow }
      { c with
        resMemCellOff := c.resCellAccess + g.cell.resistanceOff
        resMemCellOn := c.resCellAccess + g.cell.resistanceOn }
  | .slcNAND =>
      let stringLength := g.pageCount + 2
      let capCellAccess := g.tech.drainCap g.tech.featureSize .nmos
        (g.cell.widthInFeatureSize * g.tech.featureSize)
      { c with
        resCellAccess :=
          g.tech.onResistance g.tech.featureSize .nmos g.inputParameter.temperature * stringLength
        capCellAccess := capCellAccess
        capWordline := c.capWordline + g.tech.gateCap g.tech.featureSize * a.numColumn *
          g.cell.gateCouplingRatio / (g.cell.gateCouplingRatio + 1)
        capBitline := c.capBitline + capCellAccess * (a.numRow / g.pageCount : ℕ) / 2
        voltagePrecharge := g.tech.vdd * 0.6 }
  | .mlcNAND => c

/-- The voltages on the cells, and half way between them the precharge voltage. -/
def addCellVoltages (on off : K) (c : SubArrayElectrics K) : SubArrayElectrics K :=
  { c with
    voltageMemCellOff := off
    voltageMemCellOn := on
    voltagePrecharge := min g.tech.vdd ((off + on) / 2) }

/-- The voltages of voltage sensing, with a current or a voltage put in. -/
def addReadVoltages (c : SubArrayElectrics K) : SubArrayElectrics K :=
  if g.cell.readVoltage = 0 then
    g.addCellVoltages (g.cell.readCurrent * c.resMemCellOn)
      (g.cell.readCurrent * c.resMemCellOff) c
  else
    let resInSerial := g.libm.sqrt (c.resMemCellOn * c.resMemCellOff)
    g.addCellVoltages (g.cell.readVoltage * c.resMemCellOn / (c.resMemCellOn + resInSerial))
      (g.cell.readVoltage * c.resMemCellOff / (c.resMemCellOff + resInSerial))
      { c with
        resInSerialForSenseAmp := resInSerial
        resEquivalentOn := c.resMemCellOn * resInSerial / (c.resMemCellOn + resInSerial)
        resEquivalentOff := c.resMemCellOff * resInSerial / (c.resMemCellOff + resInSerial) }

/-- The cells of a subarray are read by voltage sensing with voltages of their own. -/
def readsVoltage : Bool := g.cell.memCellType.isResistive && g.cell.readMode

/-- The electrical values that `SubArray::Initialize` computes. -/
def electrics (memory : SubArrayElectrics K) (a : SubArray) : SubArrayElectrics K :=
  let c := g.addCells a (g.lines memory a)
  if g.readsVoltage then g.addReadVoltages c else c

/-! ## Components -/

/-- A row decoder of a subarray. -/
def arrayDecoder (a : SubArray) (numRow : ℕ) (capLoad resLoad : K) (multipleRowPerSet : Bool)
    (minDriverCurrent : K) : RowDecoder K :=
  initializeRowDecoder g numRow capLoad resLoad multipleRowPerSet a.areaOptimizationLevel
    minDriverCurrent

/-- The decoder of a multiplexer; its load is the gates of the multiplexers. -/
def muxDecoder (memory : SubArrayElectrics K) (a : SubArray) (maxBitlineCurrent : K)
    (numInput : ℕ) : RowDecoder K :=
  let lines := g.lines memory a
  g.arrayDecoder a numInput
    (g.tech.gateCap (g.driverWidth maxBitlineCurrent) * a.numColumn + lines.capWordline)
    lines.resWordline false 0

/-- The subarray whose components are initialised for some currents.  The sense amplifier
of an externally sensed subarray stays as it was constructed. -/
def circuit (memory : SubArrayElectrics K) (a : SubArray) (currents : SubArrayCurrents K) :
    SubArrayCircuit K :=
  let e := g.electrics memory a
  let muxLev2 := initializeMux a.muxOutputLev2 a.numSelectedColumn 0 0 currents.maxBitlineCurrent
  let muxLev1 := initializeMux a.muxOutputLev1 (a.numColumn / a.muxSenseAmp / a.muxOutputLev1)
    (muxLev2.capForPreviousDelayCalculation g) (muxLev2.capForPreviousPowerCalculation g)
    currents.maxBitlineCurrent
  let senseAmp := initializeSenseAmp g e.numSenseAmp (!e.voltageSense) e.senseVoltage
    (e.lenWordline / a.numColumn * a.muxSenseAmp)
  let bitlineMux (capLoad capInputNextStage : K) :=
    initializeMux a.muxSenseAmp (a.numColumn / a.muxSenseAmp) capLoad capInputNextStage
      currents.maxBitlineCurrent
  { toSubArray := a
    toSubArrayElectrics := e
    toFunctionUnit := .fresh
    rowDecoder := .initialized (g.arrayDecoder a a.numRow e.capWordline e.resWordline
      a.multipleRowPerSet currents.maxWordlineCurrent)
    bitlineMuxDecoder :=
      .initialized (g.muxDecoder memory a currents.maxBitlineCurrent a.muxSenseAmp)
    bitlineMux := .initialized
      (if a.internalSenseAmp then bitlineMux (senseAmp.capLoad g) (senseAmp.capLoad g)
        else bitlineMux (muxLev1.capForPreviousDelayCalculation g)
          (muxLev1.capForPreviousPowerCalculation g))
    senseAmpMuxLev1Decoder :=
      .initialized (g.muxDecoder memory a currents.maxBitlineCurrent a.muxOutputLev1)
    senseAmpMuxLev1 := .initialized muxLev1
    senseAmpMuxLev2Decoder :=
      .initialized (g.muxDecoder memory a currents.maxBitlineCurrent a.muxOutputLev2)
    senseAmpMuxLev2 := .initialized muxLev2
    precharger := .initialized
      (initializePrecharger g g.tech.vdd a.numColumn e.capBitline e.resBitline)
    senseAmp := .initialized
      (if a.internalSenseAmp then senseAmp
        else { senseAmp with initialized := false, invalid := false }) }

end Globals

/-- `SubArray::Initialize`. -/
def initializeSubArray (g : Globals K) (memory : SubArrayElectrics K) (a : SubArray) :
    Except SubArrayHalt (SubArrayCircuit K) := do
  g.checkConfiguration a
  let currents ← g.currents a
  require (¬ g.driverWidth currents.maxBitlineCurrent > g.maxNmosWidth) (.invalid false)
  require (¬ (g.cell.memCellType.isDram ∧ ¬ a.internalSenseAmp)) .exit
  -- the bitline of a DRAM is too long
  require (¬ (g.cell.memCellType.isDram ∧ g.senseLow memory)) (.invalid true)
  let e := g.electrics memory a
  -- no reasonable precharge voltage exists
  require (¬ (g.readsVoltage ∧ e.voltagePrecharge - e.voltageMemCellOn ≤ e.senseVoltage))
    (.invalid false)
  let c := g.circuit memory a currents
  require (!c.rowDecoder.part.invalid) (.invalid false)
  require (!c.bitlineMuxDecoder.part.invalid) (.invalid true)
  require (!c.senseAmpMuxLev1Decoder.part.invalid) (.invalid true)
  require (!c.senseAmpMuxLev2Decoder.part.invalid) (.invalid true)
  require (!(a.internalSenseAmp && c.senseAmp.part.invalid)) (.invalid true)
  .ok c

/-! ## What is known of an accepted subarray -/

theorem require_eq_ok {condition : Prop} [Decidable condition] {halt : SubArrayHalt} {u : Unit} :
    require condition halt = .ok u ↔ condition := by
  unfold require
  by_cases h : condition <;> simp [h]

/-- What `SubArray::Initialize` checked of a subarray it accepts. -/
structure AcceptedSubArray (g : Globals K) (memory : SubArrayElectrics K) (a : SubArray)
    (currents : SubArrayCurrents K) (c : SubArrayCircuit K) : Prop where
  configuration : g.checkConfiguration a = .ok ()
  currents_eq : g.currents a = .ok currents
  bitlineMuxWidth : g.driverWidth currents.maxBitlineCurrent ≤ g.maxNmosWidth
  internalDram : g.cell.memCellType.isDram → a.internalSenseAmp
  dramSenseVoltage : g.cell.memCellType.isDram → ¬ g.senseLow memory
  prechargeVoltage : g.readsVoltage →
    c.senseVoltage < c.voltagePrecharge - c.voltageMemCellOn
  circuit : c = g.circuit memory a currents
  rowDecoder : c.rowDecoder.part.invalid = false
  bitlineMuxDecoder : c.bitlineMuxDecoder.part.invalid = false
  senseAmpMuxLev1Decoder : c.senseAmpMuxLev1Decoder.part.invalid = false
  senseAmpMuxLev2Decoder : c.senseAmpMuxLev2Decoder.part.invalid = false
  senseAmp : a.internalSenseAmp → c.senseAmp.part.invalid = false

/-- The subarrays `SubArray::Initialize` accepts are those that pass its checks. -/
theorem initializeSubArray_eq_ok {g : Globals K} {memory : SubArrayElectrics K} {a : SubArray}
    {c : SubArrayCircuit K} :
    initializeSubArray g memory a = .ok c ↔
      ∃ currents, AcceptedSubArray g memory a currents c := by
  unfold initializeSubArray
  simp only [Library.bind_eq_ok, require_eq_ok, exists_const]
-- the checks in the order of the source
  constructor
  · rintro ⟨u, hConfiguration, currents, hCurrents, hWidth, hDram, hSense, hRead, hRow, hMux, hLev1,
      hLev2, hSenseAmp, hCircuit⟩
    cases hCircuit
    refine ⟨currents, ?_⟩
    exact
      { configuration := hConfiguration
        currents_eq := hCurrents
        bitlineMuxWidth := not_lt.mp hWidth
        internalDram := fun h => by_contra fun hExternal => hDram ⟨h, hExternal⟩
        dramSenseVoltage := fun h hLow => hSense ⟨h, hLow⟩
        prechargeVoltage := fun h => not_le.mp fun hLow => hRead ⟨h, hLow⟩
        circuit := rfl
        rowDecoder := by simpa using hRow
        bitlineMuxDecoder := by simpa using hMux
        senseAmpMuxLev1Decoder := by simpa using hLev1
        senseAmpMuxLev2Decoder := by simpa using hLev2
        senseAmp := by
          intro hInternal
          simpa [hInternal] using hSenseAmp }
  · rintro ⟨currents, h⟩
    cases h.circuit
    refine ⟨(), h.configuration, currents, h.currents_eq, not_lt.mpr h.bitlineMuxWidth, ?_, ?_, ?_,
      ?_, ?_, ?_, ?_, ?_, rfl⟩
    · exact fun hExternal => hExternal.2 (h.internalDram hExternal.1)
    · exact fun hLow => h.dramSenseVoltage hLow.1 hLow.2
    · exact fun hLow => not_le.mpr (h.prechargeVoltage hLow.1) hLow.2
    · simpa using h.rowDecoder
    · simpa using h.bitlineMuxDecoder
    · simpa using h.senseAmpMuxLev1Decoder
    · simpa using h.senseAmpMuxLev2Decoder
    · cases hInternal : a.internalSenseAmp with
      | false => rfl
      | true => simpa [hInternal] using h.senseAmp hInternal

/-! ## Examples -/

/-- Two rows of two columns with internal sense amplifiers, for examples. -/
def SubArray.small : SubArray where
  numRow := 2
  numColumn := 2
  multipleRowPerSet := false
  split := true
  muxSenseAmp := 1
  internalSenseAmp := true
  muxOutputLev1 := 1
  muxOutputLev2 := 1
  areaOptimizationLevel := .latencyFirst

/-- Cleared memory. -/
def SubArrayElectrics.cleared : SubArrayElectrics K where
  voltageSense := false
  senseVoltage := 0
  senseUndefined := false
  voltagePrecharge := 0
  numSenseAmp := 0
  lenWordline := 0
  lenBitline := 0
  capWordline := 0
  capBitline := 0
  resWordline := 0
  resBitline := 0
  resCellAccess := 0
  capCellAccess := 0
  resMemCellOff := 0
  resMemCellOn := 0
  voltageMemCellOff := 0
  voltageMemCellOn := 0
  resInSerialForSenseAmp := 0
  resEquivalentOn := 0
  resEquivalentOff := 0
  bitlineDelay := 0
  chargeLatency := 0
  columnDecoderLatency := 0
  bitlineDelayOn := 0
  bitlineDelayOff := 0

end NVSim
