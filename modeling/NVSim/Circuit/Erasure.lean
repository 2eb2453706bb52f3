import NVSim.Circuit.StaleMemory
import NVSim.Model.CircuitModels

/-!
# The evaluations read what was assigned

What the evaluations do not read of a subarray can be erased before an evaluation as well as
after it.  A subarray whose initialisation ignores memory is the same for all contents of memory
once it is erased, so the measures of its mat and of its bank are the same, too.
-/

namespace NVSim

variable {K : Type} [Field K] [LinearOrder K]

/-! ## What is read -/

namespace Globals

variable (g : Globals K)

/-- The resistance of the access device is read. -/
def readsAccess : Bool :=
  match g.cell.memCellType with
  | .sram | .dram | .eDRAM => true
  | _ => false

/-- The precharge voltage is read. -/
def readsPrecharge : Bool :=
  match g.cell.memCellType with
  | .sram | .slcNAND => true
  | .dram | .eDRAM | .mlcNAND => false
  | .mram | .pcram | .memristor | .fbram => g.cell.readMode

/-- The sense voltage is read. -/
def readsSense : Bool :=
  match g.cell.memCellType with
  | .sram | .slcNAND | .dram | .eDRAM => true
  | .mlcNAND => false
  | .mram | .pcram | .memristor | .fbram => g.cell.readMode

/-- The equivalent resistances of a voltage divider are read. -/
def readsEquivalent : Bool := g.readsVoltage && g.cell.readVoltage ≠ 0

/-- The resistances of the cells are read. -/
def readsMemCell : Bool := g.cell.memCellType.isResistive && !g.readsEquivalent

/-- The electrical values that are read; the others are erased. -/
def eraseElectrics (e : SubArrayElectrics K) : SubArrayElectrics K where
  voltageSense := false
  senseVoltage := if g.readsSense then e.senseVoltage else 0
  senseUndefined := e.senseUndefined
  voltagePrecharge := if g.readsPrecharge then e.voltagePrecharge else 0
  numSenseAmp := 0
  lenWordline := e.lenWordline
  lenBitline := e.lenBitline
  capWordline := 0
  capBitline := e.capBitline
  resWordline := 0
  resBitline := e.resBitline
  resCellAccess := if g.readsAccess then e.resCellAccess else 0
  capCellAccess := e.capCellAccess
  resMemCellOff := if g.readsMemCell then e.resMemCellOff else 0
  resMemCellOn := if g.readsMemCell then e.resMemCellOn else 0
  voltageMemCellOff := if g.readsVoltage then e.voltageMemCellOff else 0
  voltageMemCellOn := if g.readsVoltage then e.voltageMemCellOn else 0
  resInSerialForSenseAmp := 0
  resEquivalentOn := if g.readsEquivalent then e.resEquivalentOn else 0
  resEquivalentOff := if g.readsEquivalent then e.resEquivalentOff else 0
  bitlineDelay := 0
  chargeLatency := 0
  columnDecoderLatency := 0
  bitlineDelayOn := 0
  bitlineDelayOff := 0

/-- What is read once the decoders are evaluated. -/
def eraseDecoded (e : SubArrayElectrics K) : SubArrayElectrics K :=
  { g.eraseElectrics e with
    chargeLatency := e.chargeLatency
    columnDecoderLatency := e.columnDecoderLatency }

/-- What is read after `CalculateLatency`. -/
def eraseTimed (e : SubArrayElectrics K) : SubArrayElectrics K :=
  { g.eraseDecoded e with
    bitlineDelay := if g.cell.memCellType = .mlcNAND then 0 else e.bitlineDelay
    bitlineDelayOn := if g.readsVoltage then e.bitlineDelayOn else 0
    bitlineDelayOff := if g.readsVoltage then e.bitlineDelayOff else 0 }

theorem eraseTimed_of_mlcNAND (h : g.cell.memCellType = .mlcNAND) (e : SubArrayElectrics K) :
    g.eraseTimed e = g.eraseDecoded e := by
  simp only [eraseTimed, readsVoltage, h, MemCellType.isResistive, Bool.false_and,
    Bool.false_eq_true, if_true, if_false]
  rfl

/-- What is read of resistive cells depends on how they are read. -/
theorem reads_of_resistive (h : g.cell.memCellType.isResistive) :
    g.readsAccess = false ∧ g.readsPrecharge = g.cell.readMode ∧
      g.readsSense = g.cell.readMode ∧ g.readsVoltage = g.cell.readMode := by
  unfold readsAccess readsPrecharge readsSense readsVoltage
  rw [h, Bool.true_and]
  cases htype : g.cell.memCellType
  case mram | pcram | memristor | fbram => all_goals exact ⟨rfl, rfl, rfl, rfl⟩
  all_goals
    rw [htype] at h
    cases h

variable {g}

/-- The values that are left are those of the list of what is read. -/
theorem eraseElectrics_congr {e e' : SubArrayElectrics K}
    (h : g.electricsRead e = g.electricsRead e')
    (hundefined : e.senseUndefined = e'.senseUndefined) :
    g.eraseElectrics e = g.eraseElectrics e' := by
  by_cases hresistive : g.cell.memCellType.isResistive = true
  · obtain ⟨haccess, hprecharge, hsense, hvoltage⟩ := g.reads_of_resistive hresistive
    rw [electricsRead_of_resistive hresistive, electricsRead_of_resistive hresistive] at h
    unfold eraseElectrics readsMemCell readsEquivalent
    rw [hprecharge, hsense, hvoltage, hresistive, haccess]
    cases hmode : g.cell.readMode with
    | false =>
        simp [hmode] at h
        simp [h, hundefined]
    | true =>
        by_cases hzero : g.cell.readVoltage = 0
        · simp [hmode, hzero] at h
          simp [hzero, h, hundefined]
        · simp [hmode, hzero] at h
          simp [hzero, h, hundefined]
  · have hvoltage : g.readsVoltage = false := by
      rw [readsVoltage, Bool.eq_false_iff.2 hresistive, Bool.false_and]
    unfold electricsRead at h
    unfold eraseElectrics readsMemCell readsEquivalent readsSense readsPrecharge readsAccess
    rw [hvoltage, Bool.eq_false_iff.2 hresistive]
    cases htype : g.cell.memCellType with
    | mram | pcram | memristor | fbram => exact absurd (by rw [htype]; rfl) hresistive
    | sram | dram | eDRAM | slcNAND | mlcNAND =>
        rw [htype] at h
        simp at h
        simp [h, hundefined]

end Globals

/-! ## Subarrays -/

namespace SubArrayCircuit

variable (g : Globals K) (c : SubArrayCircuit K)

/-- A subarray with other electrical values; of an external sense amplifier only the measures
are kept. -/
def erase (electrics : SubArrayElectrics K → SubArrayElectrics K) : SubArrayCircuit K :=
  { c with
    toSubArrayElectrics := electrics c.toSubArrayElectrics
    senseAmp :=
      if c.internalSenseAmp then c.senseAmp
      else { c.senseAmp with part := initializeSenseAmp g 0 false 0 0 } }

theorem measures_senseAmp_erase (electrics : SubArrayElectrics K → SubArrayElectrics K) :
    (c.erase g electrics).senseAmp.toFunctionUnit = c.senseAmp.toFunctionUnit := by
  unfold erase
  dsimp only
  split
  · rfl
  · rfl

theorem size_erase : (c.erase g g.eraseElectrics).size g = c.size g := by
  unfold size erase
  cases c.internalSenseAmp with
  | true => rfl
  | false =>
      simp only [Bool.false_eq_true, if_false, false_and]
      rfl

theorem calculateArea_erase :
    (c.erase g g.eraseElectrics).calculateArea g =
      (c.calculateArea g).erase g g.eraseElectrics := by
  unfold calculateArea
  rw [size_erase]
  rfl

/-! ### Latency -/

theorem timedDecoders_erase (rampInput : K) :
    (c.erase g g.eraseElectrics).timedDecoders g rampInput =
      (c.timedDecoders g rampInput).erase g g.eraseDecoded := rfl

theorem bitline_erase (rowRamp : K) (h : g.cell.memCellType ≠ .mlcNAND) :
    (c.erase g g.eraseDecoded).bitline g rowRamp = g.eraseTimed (c.bitline g rowRamp) := by
  by_cases hresistive : g.cell.memCellType.isResistive = true
  · obtain ⟨-, hprecharge, hsense, hvoltage⟩ := g.reads_of_resistive hresistive
    cases htype : g.cell.memCellType
    case mram | pcram | memristor | fbram =>
      all_goals
        unfold bitline
        rw [htype]
        dsimp only
        split_ifs with hmode hzero
        all_goals
          simp [Globals.eraseTimed, Globals.eraseDecoded, Globals.eraseElectrics, erase, lineTau,
            argumentOn, argumentOff, Globals.readsMemCell, Globals.readsEquivalent,
            MemCellType.isResistive, *]
    all_goals
      rw [htype] at hresistive
      cases hresistive
  · have hvoltage : g.readsVoltage = false := by
      rw [Globals.readsVoltage, Bool.eq_false_iff.2 hresistive, Bool.false_and]
    cases htype : g.cell.memCellType
    case mlcNAND => exact absurd htype h
    case sram | slcNAND | dram | eDRAM =>
      all_goals
        unfold bitline
        rw [htype]
        simp [Globals.eraseTimed, Globals.eraseDecoded, Globals.eraseElectrics, erase, lineTau,
          argumentSram, Globals.readsAccess, Globals.readsPrecharge, Globals.readsSense, htype,
          hvoltage]
        try rfl
    all_goals exact absurd (by rw [htype]; rfl) hresistive

theorem addReadLatency_erase (h : g.cell.memCellType ≠ .mlcNAND) :
    (c.erase g g.eraseTimed).addReadLatency g = (c.addReadLatency g).erase g g.eraseTimed := by
  unfold addReadLatency erase Globals.eraseTimed
  cases c.internalSenseAmp with
  | true =>
      simp only [if_true, if_neg h]
      rfl
  | false =>
      simp only [Bool.false_eq_true, if_false, if_neg h]
      rfl

theorem addWriteLatency_erase :
    (c.erase g g.eraseTimed).addWriteLatency g = (c.addWriteLatency g).erase g g.eraseTimed := by
  unfold addWriteLatency
  cases g.cell.memCellType with
  | sram | dram | eDRAM | fbram | slcNAND | mlcNAND => rfl
  | pcram =>
      dsimp only
      split
      · rfl
      · rfl
  | mram | memristor =>
      cases g.cell.accessType with
      | cmosAccess | bjtAccess | diodeAccess | noneAccess => rfl

theorem calculateLatency_erase (rampInput : K) :
    (c.erase g g.eraseElectrics).calculateLatency g rampInput =
      (c.calculateLatency g rampInput).erase g g.eraseTimed := by
  unfold calculateLatency
  rw [timedDecoders_erase]
  generalize c.timedDecoders g rampInput = c
  by_cases h : g.cell.memCellType = .mlcNAND
  · dsimp only
    rw [if_pos h, if_pos h]
    unfold erase
    rw [g.eraseTimed_of_mlcNAND h]
  · dsimp only
    rw [if_neg h, if_neg h, bitline_erase g _ _ h]
    have hread := addReadLatency_erase g
      { c with toSubArrayElectrics := c.bitline g c.rowDecoder.rampOutput } h
    exact (congrArg (addWriteLatency g) hread).trans (addWriteLatency_erase g _)

/-! ### Power -/

theorem poweredComponents_erase :
    (c.erase g g.eraseTimed).poweredComponents g =
      (c.poweredComponents g).erase g g.eraseTimed := by
  unfold poweredComponents erase
  cases c.internalSenseAmp with
  | true => simp only [if_true]
  | false => simp only [Bool.false_eq_true, if_false]

theorem resistiveReadEnergy_erase (h : g.cell.memCellType.isResistive) :
    (c.erase g g.eraseTimed).resistiveReadEnergy g = c.resistiveReadEnergy g := by
  obtain ⟨-, hprecharge, -, hvoltage⟩ := g.reads_of_resistive h
  unfold resistiveReadEnergy
  cases hmode : g.cell.readMode with
  | true =>
      simp [erase, Globals.eraseTimed, Globals.eraseDecoded, Globals.eraseElectrics, capLine,
        hprecharge, hvoltage, hmode]
  | false =>
      simp [erase, Globals.eraseTimed, Globals.eraseDecoded, Globals.eraseElectrics,
        Globals.readsMemCell, Globals.readsEquivalent, hvoltage, hmode, h]

theorem addCellEnergy_erase (reset set : K) :
    (c.erase g g.eraseTimed).addCellEnergy g reset set =
      (c.addCellEnergy g reset set).erase g g.eraseTimed := by
  unfold addCellEnergy
  cases g.cell.memCellType with
  | pcram =>
      dsimp only
      split
      · rfl
      · rfl
  | _ => rfl

theorem addCellPower_erase :
    (c.erase g g.eraseTimed).addCellPower g = (c.addCellPower g).erase g g.eraseTimed := by
  have hprecharge (h : g.readsPrecharge = true) :
      (c.erase g g.eraseTimed).voltagePrecharge = c.voltagePrecharge := if_pos h
  have hsense (h : g.readsSense = true) :
      (c.erase g g.eraseTimed).senseVoltage = c.senseVoltage := if_pos h
  have hresistive := resistiveReadEnergy_erase g c
  unfold Globals.readsPrecharge at hprecharge
  unfold Globals.readsSense at hsense
-- of the voltages a type of cell reads only those that are kept
  cases htype : g.cell.memCellType with
  | sram =>
      unfold addCellPower
      rw [htype] at hprecharge ⊢
      dsimp only
      rw [hprecharge rfl]
      rfl
  | dram | eDRAM =>
      unfold addCellPower
      rw [htype] at hsense ⊢
      dsimp only
      rw [hsense rfl]
      rfl
  | slcNAND =>
      unfold addCellPower addFlashPower
      rw [htype] at hprecharge ⊢
      dsimp only
      rw [hprecharge rfl]
      rfl
  | mlcNAND =>
      unfold addCellPower
      rw [htype]
  | mram | memristor | pcram | fbram =>
      unfold addCellPower
      rw [htype] at hresistive ⊢
      dsimp only
      rw [hresistive rfl, measures_senseAmp_erase]
      generalize
        (if g.cell.readPower = 0 then Cell.calculateReadPower g else g.cell.readPower) = power
      have henergy := addCellEnergy_erase g
        { c with
          readDynamicEnergy := c.resistiveReadEnergy g
          cellReadEnergy :=
            2 * power * c.senseAmp.readLatency * (c.toSubArray.numSelectedColumn : ℕ) }
      exact congrArg (fun d : SubArrayCircuit K => { d with leakage := 0 }) (henergy _ _)

theorem divideByWays_erase :
    (c.erase g g.eraseTimed).divideByWays g = (c.divideByWays g).erase g g.eraseTimed := by
  unfold divideByWays
  split
  · rfl
  · rfl

theorem addComponentPower_erase :
    (c.erase g g.eraseTimed).addComponentPower g =
      (c.addComponentPower g).erase g g.eraseTimed := by
  unfold addComponentPower peripheralWriteEnergy columnWriteEnergy
  rw [measures_senseAmp_erase]
  rfl

theorem calculatePower_erase :
    (c.erase g g.eraseTimed).calculatePower g = (c.calculatePower g).erase g g.eraseTimed := by
  unfold calculatePower
  rw [poweredComponents_erase, addCellPower_erase, divideByWays_erase, addComponentPower_erase]

end SubArrayCircuit

/-! ## Initialisation -/

/-- A new subarray of which this is read, with some electrical values. -/
def SubArrayReads.toCircuit (g : Globals K) (r : SubArrayReads K) (e : SubArrayElectrics K) :
    SubArrayCircuit K where
  toSubArray := r.toSubArray
  toSubArrayElectrics := e
  toFunctionUnit := r.toFunctionUnit
  rowDecoder := .initialized r.rowDecoder
  bitlineMuxDecoder := .initialized r.bitlineMuxDecoder
  bitlineMux := .initialized r.bitlineMux
  senseAmpMuxLev1Decoder := .initialized r.senseAmpMuxLev1Decoder
  senseAmpMuxLev1 := .initialized r.senseAmpMuxLev1
  senseAmpMuxLev2Decoder := .initialized r.senseAmpMuxLev2Decoder
  senseAmpMuxLev2 := .initialized r.senseAmpMuxLev2
  precharger := .initialized r.precharger
  senseAmp := .initialized (r.senseAmp.getD (initializeSenseAmp g 0 false 0 0))

section Initialisation

variable {g : Globals K} {a : SubArray} {mat : Mat}

theorem erase_circuit (memory : SubArrayElectrics K) (a : SubArray)
    (currents : SubArrayCurrents K) :
    (g.circuit memory a currents).erase g g.eraseElectrics =
      (g.reads (g.circuit memory a currents)).toCircuit g
        (g.eraseElectrics (g.electrics memory a)) := by
  unfold SubArrayCircuit.erase SubArrayReads.toCircuit Globals.reads Globals.circuit
  cases a.internalSenseAmp with
  | true =>
      simp only [if_true, Option.getD_some]
      rfl
  | false =>
      simp only [Bool.false_eq_true, if_false, Option.getD_none]
      rfl

/-- The accepted subarrays are the same once they are erased. -/
theorem erase_initializeSubArray (hsame : g.IgnoresMemory a)
    (memory memory' : SubArrayElectrics K) :
    (initializeSubArray g memory a).toOption.map (fun c => c.erase g g.eraseElectrics) =
      (initializeSubArray g memory' a).toOption.map (fun c => c.erase g g.eraseElectrics) := by
  have h := hsame memory memory'
  cases hc : initializeSubArray g memory a with
  | error halt =>
      cases hc' : initializeSubArray g memory' a with
      | error halt' => rfl
      | ok c' =>
          rw [hc, hc'] at h
          cases h
  | ok c =>
      cases hc' : initializeSubArray g memory' a with
      | error halt' =>
          rw [hc, hc'] at h
          cases h
      | ok c' =>
          rw [hc, hc'] at h
          have hreads : g.reads c = g.reads c' := Except.ok.inj h
          have he := Globals.eraseElectrics_congr (congrArg SubArrayReads.electrics hreads)
            (congrArg SubArrayReads.senseUndefined hreads)
-- accepted subarrays of the same currents differ in their electrical fields only
          obtain ⟨currents, haccepted⟩ := initializeSubArray_eq_ok.1 hc
          obtain ⟨currents', haccepted'⟩ := initializeSubArray_eq_ok.1 hc'
          obtain rfl := haccepted.circuit
          obtain rfl := haccepted'.circuit
          refine congrArg some ?_
          dsimp only
          rw [erase_circuit, erase_circuit, hreads]
          exact congrArg _ he

end Initialisation

/-! ## Mats -/

/-- The circuit of a mat with an erased subarray. -/
def MatCircuit.erase (g : Globals K) (electrics : SubArrayElectrics K → SubArrayElectrics K)
    (c : MatCircuit K) : MatCircuit K :=
  { c with subarray := c.subarray.erase g electrics }

section Mat

variable {g : Globals K} {mat : Mat}

theorem erase_initializeMatCircuit (hsame : g.IgnoresMemory mat.subarray)
    (memory memory' : SubArrayElectrics K) (unset : ℕ) :
    (initializeMatCircuit g memory unset mat).map (MatCircuit.erase g g.eraseElectrics) =
      (initializeMatCircuit g memory' unset mat).map (MatCircuit.erase g g.eraseElectrics) := by
  have h := erase_initializeSubArray hsame memory memory'
  unfold initializeMatCircuit
  cases hc : (initializeSubArray g memory mat.subarray).toOption with
  | none =>
      rw [hc] at h
      rw [Option.map_eq_none_iff.1 h.symm]
  | some c =>
      rw [hc] at h
      obtain ⟨c', hc', herase⟩ := Option.map_eq_some_iff.1 h.symm
      rw [hc']
      have hsized : (c'.calculateArea g).erase g g.eraseElectrics =
          (c.calculateArea g).erase g g.eraseElectrics := by
        rw [← SubArrayCircuit.calculateArea_erase, ← SubArrayCircuit.calculateArea_erase, herase]
      -- the loads of the predecoders are lengths along the sides
      have hrow : capLoadRowPredecoder g mat (c'.calculateArea g) =
          capLoadRowPredecoder g mat (c.calculateArea g) := by
        show capLoadRowPredecoder g mat ((c'.calculateArea g).erase g g.eraseElectrics) = _
        rw [hsized]
        rfl
      have hmux : capLoadMuxPredecoder g mat (c'.calculateArea g) =
          capLoadMuxPredecoder g mat (c.calculateArea g) := by
        show capLoadMuxPredecoder g mat ((c'.calculateArea g).erase g g.eraseElectrics) = _
        rw [hsized]
        rfl
      simp only [Option.bind_eq_bind, Option.bind_some, Option.pure_def, Option.map_bind,
        Function.comp_def, Option.map_some, MatCircuit.erase, hrow, hmux, hsized]

/-- What the circuits decide for the organisation does not depend on memory. -/
theorem electrical_eq (hsame : ∀ a, g.IgnoresMemory a) (memory memory' : SubArrayElectrics K)
    (unset : ℕ) : g.electrical memory unset = g.electrical memory' unset := by
  have hsize (numSenseAmp numColumnMat : ℕ) (mat : Mat) (c : Option (MatCircuit K)) :
      (c.elim true fun c => (g.globalSenseAmp numSenseAmp numColumnMat (c.size g mat).2).invalid) =
        (c.map (MatCircuit.erase g g.eraseElectrics)).elim true fun c =>
          (g.globalSenseAmp numSenseAmp numColumnMat (c.size g mat).2).invalid := by
    cases c with
    | none => rfl
    | some c => rfl
  unfold Globals.electrical
  refine congrArg₂ Electrical.mk (funext fun a => ?_)
    (funext fun n => funext fun k => funext fun mat => ?_)
  · have h := congrArg Option.isNone (erase_initializeSubArray (hsame a) memory memory')
    rwa [Option.isNone_map, Option.isNone_map] at h
  · rw [hsize n k mat (initializeMatCircuit g memory unset mat),
      erase_initializeMatCircuit (hsame mat.subarray) memory memory', ← hsize]

end Mat

namespace MatObject

variable (g : Globals K) (mat : Mat) (m : MatObject K)

/-- A mat with an erased subarray. -/
def erase (electrics : SubArrayElectrics K → SubArrayElectrics K) : MatObject K :=
  { m with toMatCircuit := m.toMatCircuit.erase g electrics }

theorem calculateArea_erase :
    (m.erase g g.eraseElectrics).calculateArea g mat =
      (m.calculateArea g mat).erase g g.eraseElectrics := rfl

theorem calculateLatency_erase (rampInput : K) :
    (m.erase g g.eraseElectrics).calculateLatency g rampInput =
      (m.calculateLatency g rampInput).erase g g.eraseTimed := by
  have hsubarray (ramp : K) :
      ((m.erase g g.eraseElectrics).toMatCircuit.mapPredecoderBlocks
        (·.calculateLatency g.decoders rampInput)).subarray.calculateLatency g ramp =
        (m.subarray.calculateLatency g ramp).erase g g.eraseTimed :=
    SubArrayCircuit.calculateLatency_erase g m.subarray ramp
  unfold calculateLatency
  dsimp only
  rw [hsubarray]
  rfl

theorem calculatePower_erase :
    (m.erase g g.eraseTimed).calculatePower g mat =
      (m.calculatePower g mat).erase g g.eraseTimed := by
  have hsubarray :
      ((m.erase g g.eraseTimed).toMatCircuit.mapPredecoderBlocks
        (·.calculatePower g.decoders)).subarray.calculatePower g =
        (m.subarray.calculatePower g).erase g g.eraseTimed :=
    SubArrayCircuit.calculatePower_erase g m.subarray
  unfold calculatePower
  dsimp only
  rw [hsubarray]
  rfl

/-- The two evaluations of a bank. -/
theorem evaluate_erase (rampInput : K) :
    ((m.erase g g.eraseElectrics).calculateLatency g rampInput).calculatePower g mat =
      ((m.calculateLatency g rampInput).calculatePower g mat).erase g g.eraseTimed := by
  rw [calculateLatency_erase, calculatePower_erase]

end MatObject

theorem erase_initializeMatObject {g : Globals K} {mat : Mat}
    (hsame : g.IgnoresMemory mat.subarray) (memory memory' : SubArrayElectrics K) (unset : ℕ) :
    (initializeMatObject g memory unset mat).map (MatObject.erase g · g.eraseElectrics) =
      (initializeMatObject g memory' unset mat).map (MatObject.erase g · g.eraseElectrics) := by
  let object (c : MatCircuit K) : MatObject K :=
    { toMatCircuit := c
      toFunctionUnit := .fresh
      comparator := mat.comparator.map fun numTagBits =>
        .initialized (initializeComparator g numTagBits 0)
      predecoderLatency := 0 }
  have hobject (memory : SubArrayElectrics K) :
      (initializeMatObject g memory unset mat).map (MatObject.erase g · g.eraseElectrics) =
        ((initializeMatCircuit g memory unset mat).map
          (MatCircuit.erase g g.eraseElectrics)).map object := by
    unfold initializeMatObject
    rw [Option.map_map, Option.map_map]
    rfl
  rw [hobject, hobject, erase_initializeMatCircuit hsame memory memory']

/-! ## Banks -/

section Bank

variable (g : Globals K)

namespace HtreeObject

variable (o : HtreeObject K)

/-- A bank with an erased subarray. -/
def erase (electrics : SubArrayElectrics K → SubArrayElectrics K) : HtreeObject K :=
  { o with mat := o.mat.erase g electrics }

/-- What the circuits around a bank see of it. -/
def leaves : BankWithHtree × FunctionUnit K := (o.bank, o.toFunctionUnit)

theorem calculateArea_erase [FloorRing K] (sharing : ℕ × K) :
    (o.erase g g.eraseElectrics).calculateArea g sharing =
      (o.calculateArea g sharing).map (erase g · g.eraseElectrics) := by
  unfold calculateArea
  simp only [Option.bind_eq_bind, Option.map_bind, Function.comp_def]
  refine Option.bind_congr fun height _ => Option.bind_congr fun width _ => ?_
  rw [apply_ite (Option.map (erase g · g.eraseElectrics)), Option.map_bind]
  rfl

theorem calculateLatencyAndPower_erase (wire : K → WireMeasures K) :
    ((o.erase g g.eraseElectrics).calculateLatencyAndPower g wire).map leaves =
      (o.calculateLatencyAndPower g wire).map leaves := by
  unfold calculateLatencyAndPower erase
  dsimp only
  split
  · rfl
  · rw [MatObject.evaluate_erase]
    simp only [Option.bind_eq_bind, Option.map_bind]
    rfl

end HtreeObject

theorem evaluateHtree_erase [FloorRing K] (globalWire : WireObject K) (received : K)
    (bank : BankWithHtree) (mat : MatObject K) :
    (evaluateHtree g globalWire received bank (mat.erase g g.eraseElectrics)).map
        HtreeObject.leaves =
      (evaluateHtree g globalWire received bank mat).map HtreeObject.leaves := by
  have harea := HtreeObject.calculateArea_erase g
    { toFunctionUnit := .fresh
      bank := bank
      mat := mat
      lengthHorizontalWire := .allocate bank.levelHorizontal
      lengthVerticalWire := .allocate bank.levelVertical } globalWire.sharing
  unfold HtreeObject.erase at harea
  unfold evaluateHtree
  rw [harea]
  simp only [Option.bind_eq_bind, Option.map_bind, Option.bind_map, Function.comp_def]
  exact Option.bind_congr fun o _ => HtreeObject.calculateLatencyAndPower_erase g o _

/-! ### Global bit lines -/

namespace GlobalBitline

variable (l : GlobalBitline K) (c : SubArrayCircuit K)

theorem latencies_erase (s : GlobalSensing K) :
    l.latencies g (c.erase g g.eraseTimed) s = l.latencies g c s := by
  by_cases h : g.cell.memCellType.isResistive = true
  · obtain ⟨-, hprecharge, -, hvoltage⟩ := g.reads_of_resistive h
    have hmlc : g.cell.memCellType ≠ .mlcNAND := by
      intro htype
      rw [htype] at h
      cases h
    unfold latencies
    cases hmode : g.cell.readMode with
    | false =>
        simp [tauCurrent, SubArrayCircuit.erase, Globals.eraseTimed, Globals.eraseDecoded,
          Globals.eraseElectrics, Globals.readsMemCell, Globals.readsEquivalent, hvoltage, hmode, h]
    | true =>
        by_cases hzero : g.cell.readVoltage = 0
        all_goals
          simp [latencyOn, latencyOff, SubArrayCircuit.argumentOn, SubArrayCircuit.argumentOff,
            SubArrayCircuit.erase, Globals.eraseTimed, Globals.eraseDecoded,
            Globals.eraseElectrics, Globals.readsMemCell, Globals.readsEquivalent, hprecharge,
            hvoltage, hmlc, hmode, hzero, h]
  · unfold latencies
    cases htype : g.cell.memCellType with
    | mram | pcram | memristor | fbram => exact absurd (by rw [htype]; rfl) h
    | _ => rfl

theorem energies_erase (b : Bank) :
    l.energies g (c.erase g g.eraseTimed) b = l.energies g c b := by
  by_cases h : g.cell.memCellType.isResistive = true
  · obtain ⟨-, hprecharge, -, hvoltage⟩ := g.reads_of_resistive h
    unfold energies
    cases hmode : g.cell.readMode with
    | false => rfl
    | true =>
        simp [SubArrayCircuit.erase, Globals.eraseTimed, Globals.eraseDecoded,
          Globals.eraseElectrics, hprecharge, hvoltage, hmode]
  · unfold energies
    cases htype : g.cell.memCellType with
    | mram | pcram | memristor | fbram => exact absurd (by rw [htype]; rfl) h
    | _ => rfl

end GlobalBitline

theorem sensingRows_erase (s : GlobalSensing K) (b : Bank) (c : SubArrayCircuit K)
    (matHeight : K) (n : ℕ) :
    s.sensingRows g b (c.erase g g.eraseTimed) matHeight n = s.sensingRows g b c matHeight n := by
  have hrow : s.sensingRow g b (c.erase g g.eraseTimed) matHeight =
      s.sensingRow g b c matHeight := by
    funext v i
    have hline (lengthWire : K) :
        s.line g (c.erase g g.eraseTimed) lengthWire = s.line g c lengthWire := rfl
    unfold GlobalSensing.sensingRow
    dsimp only
    rw [hline, GlobalBitline.latencies_erase, GlobalBitline.energies_erase]
  unfold GlobalSensing.sensingRows
  rw [hrow]

namespace NonHtreeObject

variable (o : NonHtreeObject K)

/-- A bank with an erased subarray. -/
def erase (electrics : SubArrayElectrics K → SubArrayElectrics K) : NonHtreeObject K :=
  { o with mat := o.mat.erase g electrics }

/-- What the circuits around a bank see of it. -/
def leaves : Bank × FunctionUnit K := (o.bank, o.toFunctionUnit)

theorem calculateArea_erase [FloorRing K] (sharing : ℕ × K) :
    (o.erase g g.eraseElectrics).calculateArea g sharing =
      (o.calculateArea g sharing).erase g g.eraseElectrics := by
  unfold calculateArea
  rw [apply_ite (erase g · g.eraseElectrics)]
  rfl

theorem wires_erase (wire : K → WireMeasures K) :
    (o.erase g g.eraseTimed).wires g wire = o.wires g wire := by
  unfold wires erase
  dsimp only
  split
  · rfl
  · next s _ =>
    exact congrArg (s.addGlobalCircuits g o.bank)
      (sensingRows_erase g s o.bank o.mat.subarray o.mat.height o.bank.numRowMat)

theorem calculateLatencyAndPower_erase (wire : K → WireMeasures K) :
    ((o.erase g g.eraseElectrics).calculateLatencyAndPower g wire).leaves =
      (o.calculateLatencyAndPower g wire).leaves := by
  unfold calculateLatencyAndPower erase
  dsimp only
  split
  · rfl
  · rw [MatObject.evaluate_erase]
    generalize (o.mat.calculateLatency g worstCase).calculatePower g o.bank.mat = mat
    exact congrArg (fun v => (o.bank, BusVars.addMats g.inputParameter o.bank mat.toFunctionUnit
      o.toFunctionUnit v)) (wires_erase g { o with mat := mat } wire)

end NonHtreeObject

theorem evaluateNonHtree_erase [FloorRing K] (globalWire : WireObject K) (received : K)
    (bank : Bank) (mat : MatObject K) :
    (evaluateNonHtree g globalWire received bank (mat.erase g g.eraseElectrics)).leaves =
      (evaluateNonHtree g globalWire received bank mat).leaves := by
  have harea := NonHtreeObject.calculateArea_erase g
    { toFunctionUnit := .fresh
      bank := bank
      mat := mat.calculateArea g bank.mat
      sensing := bank.globalSensing g (mat.calculateArea g bank.mat).width } globalWire.sharing
  unfold NonHtreeObject.erase at harea
  unfold evaluateNonHtree
  dsimp only
  rw [MatObject.calculateArea_erase]
  exact (congrArg (fun o => (NonHtreeObject.calculateLatencyAndPower g o _).leaves) harea).trans
    (NonHtreeObject.calculateLatencyAndPower_erase g _ _)

end Bank

end NVSim
