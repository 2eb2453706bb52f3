import Mathlib.Tactic.Positivity
import NVSim.Organisation.Agreement
import NVSim.Model.BankCircuit

/-!
# No accepted bank contains a rejected component

`SubArray::Initialize` compares the width of the bitline multiplexers with the largest
transistor.  From that comparison all drivers without a current of their own are valid:
those of the precharger and of the predecoders, whose flags nobody looks at.
-/

namespace NVSim

variable {K : Type} [Field K] [LinearOrder K]

/-! ## Valid components -/

/-- An output driver is initialised and not invalid. -/
def OutputDriver.Valid (d : OutputDriver K) : Prop := d.initialized = true ∧ d.invalid = false

/-- A basic decoder is initialised, and so is its driver. -/
def BasicDecoder.Valid (d : BasicDecoder K) : Prop :=
  d.initialized = true ∧ d.outputDriver.Valid

/-- A row decoder is initialised and not invalid, and so is its driver. -/
def RowDecoder.Valid (d : RowDecoder K) : Prop :=
  d.initialized = true ∧ d.invalid = false ∧ d.outputDriver.Valid

/-- A sense amplifier is initialised and not invalid. -/
def SenseAmp.Valid (s : SenseAmp K) : Prop := s.initialized = true ∧ s.invalid = false

/-- All decoders that exist are valid. -/
structure PredecodeUnits.Valid (u : PredecodeUnits (RowDecoder K) (BasicDecoder K)) : Prop where
  rowDecoderStage1A : ∀ d ∈ u.rowDecoderStage1A, d.Valid
  rowDecoderStage1B : ∀ d ∈ u.rowDecoderStage1B, d.Valid
  rowDecoderStage1C : ∀ d ∈ u.rowDecoderStage1C, d.Valid
  rowDecoderStage2 : ∀ d ∈ u.rowDecoderStage2, d.Valid
  basicDecoderA1 : ∀ d ∈ u.basicDecoderA1, d.Valid
  basicDecoderA2 : ∀ d ∈ u.basicDecoderA2, d.Valid
  basicDecoderB : ∀ d ∈ u.basicDecoderB, d.Valid
  basicDecoderC : ∀ d ∈ u.basicDecoderC, d.Valid

/-- A predecoder block is initialised, and its decoders are valid. -/
def PredecodeBlock.Valid (b : PredecodeBlock K) : Prop :=
  b.initialized = true ∧ b.layout.Valid

/-- The components of a subarray are valid; with internal sensing also its sense
amplifiers. -/
structure SubArrayCircuit.Valid (c : SubArrayCircuit K) : Prop where
  rowDecoder : c.rowDecoder.part.Valid
  bitlineMuxDecoder : c.bitlineMuxDecoder.part.Valid
  senseAmpMuxLev1Decoder : c.senseAmpMuxLev1Decoder.part.Valid
  senseAmpMuxLev2Decoder : c.senseAmpMuxLev2Decoder.part.Valid
  precharger : c.precharger.part.initialized = true ∧ c.precharger.part.outputDriver.Valid
  senseAmp : c.internalSenseAmp = true → c.senseAmp.part.Valid

/-- The components of a mat are valid. -/
structure MatCircuit.Valid (c : MatCircuit K) : Prop where
  subarray : c.subarray.Valid
  predecoderBlocks : ∀ b ∈ c.predecoderBlocks, b.Valid

/-! ## Drivers -/

/-- A driver is initialised unless it is rejected. -/
theorem initializeOutputDriver_valid {g : Globals K} {logicEffort inputCap outputCap outputRes : K}
    {inv : Bool} {level : BufferDesignTarget} {current : K}
    (h : (initializeOutputDriver g logicEffort inputCap outputCap outputRes inv level
      current).invalid = false) :
    (initializeOutputDriver g logicEffort inputCap outputCap outputRes inv level
      current).Valid := by
  refine ⟨?_, h⟩
  unfold initializeOutputDriver at h ⊢
  dsimp only at h ⊢
  split_ifs at h ⊢
  rfl

theorem initializeRowDecoder_valid {g : Globals K} {numRow : ℕ} {capLoad resLoad : K}
    {multipleRowPerSet : Bool} {level : BufferDesignTarget} {current : K}
    (h : (initializeRowDecoder g numRow capLoad resLoad multipleRowPerSet level
      current).invalid = false) :
    (initializeRowDecoder g numRow capLoad resLoad multipleRowPerSet level current).Valid := by
  have hDriver := initializeOutputDriver_valid h
  exact ⟨by simpa [initializeRowDecoder] using h, h, hDriver⟩

/-- The comparison in `SubArray::Initialize` bounds the smallest transistor. -/
theorem minNmosWidth_le {g : Globals K} {memory : SubArrayElectrics K} {a : SubArray}
    {currents : SubArrayCurrents K} {c : SubArrayCircuit K}
    (h : AcceptedSubArray g memory a currents c) : g.minNmosWidth ≤ g.maxNmosWidth :=
  (le_max_left _ _).trans h.bitlineMuxWidth

section NoCurrent

variable [IsStrictOrderedRing K] {g : Globals K}

/-- A driver without a current of its own is valid if the smallest transistor is not wider
than the largest one. -/
theorem initializeOutputDriver_of_noCurrent (hWidth : g.minNmosWidth ≤ g.maxNmosWidth)
    (logicEffort inputCap outputCap outputRes : K) (inv : Bool) (level : BufferDesignTarget) :
    (initializeOutputDriver g logicEffort inputCap outputCap outputRes inv level 0).Valid := by
  have hPositive : 0 ≤ g.minNmosWidth := by
    have hFeature := g.tech.featureSize_pos
    unfold Globals.minNmosWidth minNmosSize
    positivity
  have hDriver : g.driverWidth 0 = g.minNmosWidth := by
    simp [Globals.driverWidth, hPositive]
  apply initializeOutputDriver_valid
  unfold initializeOutputDriver
  simp [hDriver, not_lt.mpr hWidth, areaOptConstrain]

theorem initializeBasicDecoder_valid (hWidth : g.minNmosWidth ≤ g.maxNmosWidth)
    (numAddressBit : ℕ) (capLoad resLoad : K) :
    (initializeBasicDecoder g numAddressBit capLoad resLoad).Valid :=
  ⟨rfl, initializeOutputDriver_of_noCurrent hWidth _ _ _ _ _ _⟩

theorem stageDecoder_valid (hWidth : g.minNmosWidth ≤ g.maxNmosWidth) (numRow : ℕ)
    (capLoad resLoad : K) (multipleRowPerSet : Bool) :
    (stageDecoder g numRow capLoad resLoad multipleRowPerSet).Valid :=
  initializeRowDecoder_valid (initializeOutputDriver_of_noCurrent hWidth _ _ _ _ _ _).2

theorem initializePrecharger_valid (hWidth : g.minNmosWidth ≤ g.maxNmosWidth)
    (voltagePrecharge : K) (numColumn : ℕ) (capBitline resBitline : K) :
    (initializePrecharger g voltagePrecharge numColumn capBitline resBitline).outputDriver.Valid :=
  initializeOutputDriver_of_noCurrent hWidth _ _ _ _ _ _

/-! ## Predecoder blocks -/

theorem initializeStages_valid (hWidth : g.minNmosWidth ≤ g.maxNmosWidth)
    (unset numAddressBit : ℕ) (capLoad resLoad : K) :
    (initializeStages g unset numAddressBit capLoad resLoad).Valid := by
  have hStage := stageDecoder_valid hWidth
  unfold initializeStages
  dsimp only
  split_ifs <;> constructor <;> simp [PredecodeUnits.empty, hStage]

theorem addBasicDecoders_valid (hWidth : g.minNmosWidth ≤ g.maxNmosWidth) (numAddressBit : ℕ)
    (capLoad resLoad : K) {u : PredecodeUnits (RowDecoder K) (BasicDecoder K)} (h : u.Valid) :
    (addBasicDecoders g numAddressBit capLoad resLoad u).Valid := by
  have hBasic := initializeBasicDecoder_valid hWidth
  have hB : ∀ numNandInput (stage : Option (RowDecoder K)),
      ∀ d ∈ stage.map (stageBasicDecoder g numNandInput), d.Valid := by
    intro numNandInput stage d hd
    obtain ⟨_, -, rfl⟩ := Option.map_eq_some_iff.mp hd
    exact hBasic _ _ _
  unfold addBasicDecoders
  dsimp only
  split
  · exact ⟨h.1, h.2, h.3, h.4, by simp [hBasic], by simp, hB _ _, hB _ _⟩
  · split_ifs <;>
      exact ⟨h.1, h.2, h.3, h.4, by simp [hBasic], by simp [hBasic], hB _ _, hB _ _⟩

theorem initializePredecodeBlock_valid (hWidth : g.minNmosWidth ≤ g.maxNmosWidth)
    {unset numAddressBit : ℕ} {capLoad resLoad : K} {b : PredecodeBlock K}
    (hInit : initializePredecodeBlock g unset numAddressBit capLoad resLoad = some b) :
    b.Valid := by
  obtain ⟨-, hInitialized, -, hLayout⟩ := PredecodeBlock.initializePredecodeBlock_layout hInit
  refine ⟨hInitialized, ?_⟩
  rw [hLayout]
  unfold predecodeUnits
  split
  · constructor <;> simp [PredecodeUnits.empty]
  · exact addBasicDecoders_valid hWidth _ _ _ (initializeStages_valid hWidth _ _ _ _)

/-! ## Subarrays and mats -/

theorem initializeSubArray_valid {memory : SubArrayElectrics K} {a : SubArray}
    {c : SubArrayCircuit K} (hInit : initializeSubArray g memory a = .ok c) :
    c.Valid ∧ c.toSubArray = a ∧ g.minNmosWidth ≤ g.maxNmosWidth := by
  obtain ⟨currents, h⟩ := initializeSubArray_eq_ok.mp hInit
  have hWidth := minNmosWidth_le h
  obtain rfl := h.circuit
  refine ⟨?_, rfl, hWidth⟩
  exact
    { rowDecoder := initializeRowDecoder_valid h.rowDecoder
      bitlineMuxDecoder := initializeRowDecoder_valid h.bitlineMuxDecoder
      senseAmpMuxLev1Decoder := initializeRowDecoder_valid h.senseAmpMuxLev1Decoder
      senseAmpMuxLev2Decoder := initializeRowDecoder_valid h.senseAmpMuxLev2Decoder
      precharger := ⟨rfl, initializePrecharger_valid hWidth _ _ _ _⟩
      senseAmp := by
        intro hInternal
        have hSense : a.internalSenseAmp = true := hInternal
        refine ⟨?_, h.senseAmp hSense⟩
        simp [Globals.circuit, hSense, Component.initialized, initializeSenseAmp] }

theorem initializeMatCircuit_valid {memory : SubArrayElectrics K} {unset : ℕ} {mat : Mat}
    {c : MatCircuit K} (hInit : initializeMatCircuit g memory unset mat = some c) :
    c.Valid ∧ c.subarray.toSubArray = mat.subarray := by
  unfold initializeMatCircuit at hInit
  simp only [Option.bind_eq_bind, Option.bind_eq_some_iff, Option.pure_def, Option.some.injEq]
    at hInit
  obtain ⟨subarray, hSubarray, b1, h1, b2, h2, b3, h3, b4, h4, b5, h5, b6, h6, b7, h7, b8, h8,
    rfl⟩ := hInit
  obtain ⟨hValid, hArguments, hWidth⟩ :=
    initializeSubArray_valid (Library.toOption_eq_some_iff.mp hSubarray)
  refine ⟨⟨⟨hValid.1, hValid.2, hValid.3, hValid.4, hValid.5, hValid.6⟩, ?_⟩, hArguments⟩
  intro b hb
  simp only [MatCircuit.predecoderBlocks, List.mem_cons, List.not_mem_nil, or_false] at hb
  obtain rfl | rfl | rfl | rfl | rfl | rfl | rfl | rfl := hb
  · exact initializePredecodeBlock_valid hWidth h1
  · exact initializePredecodeBlock_valid hWidth h2
  · exact initializePredecodeBlock_valid hWidth h3
  · exact initializePredecodeBlock_valid hWidth h4
  · exact initializePredecodeBlock_valid hWidth h5
  · exact initializePredecodeBlock_valid hWidth h6
  · exact initializePredecodeBlock_valid hWidth h7
  · exact initializePredecodeBlock_valid hWidth h8

end NoCurrent

/-- The circuit of a mat exists if its subarray is accepted and no predecoder block exits. -/
theorem initializeMatCircuit_isSome {g : Globals K} {memory : SubArrayElectrics K} {unset : ℕ}
    {mat : Mat} {c : SubArrayCircuit K} (hOk : initializeSubArray g memory mat.subarray = .ok c)
    (hBits : ∀ bits ∈ mat.predecoderBits, bits ≤ 27) :
    (initializeMatCircuit g memory unset mat).isSome := by
  have hBlock (load : K) : ∀ bits ∈ mat.predecoderBits,
      ∃ b, initializePredecodeBlock g unset bits load 0 = some b := by
    intro bits hMem
    simp [initializePredecodeBlock, hBits bits hMem]
  let row := hBlock (capLoadRowPredecoder g mat (c.calculateArea g))
  let mux := hBlock (capLoadMuxPredecoder g mat (c.calculateArea g))
  obtain ⟨b1, h1⟩ := row mat.rowPredecoderBlock1 (by simp [Mat.predecoderBits])
  obtain ⟨b2, h2⟩ := row mat.rowPredecoderBlock2 (by simp [Mat.predecoderBits])
  obtain ⟨b3, h3⟩ := mux mat.bitlineMuxPredecoderBlock1 (by simp [Mat.predecoderBits])
  obtain ⟨b4, h4⟩ := mux mat.bitlineMuxPredecoderBlock2 (by simp [Mat.predecoderBits])
  obtain ⟨b5, h5⟩ := mux mat.senseAmpMuxLev1PredecoderBlock1 (by simp [Mat.predecoderBits])
  obtain ⟨b6, h6⟩ := mux mat.senseAmpMuxLev1PredecoderBlock2 (by simp [Mat.predecoderBits])
  obtain ⟨b7, h7⟩ := mux mat.senseAmpMuxLev2PredecoderBlock1 (by simp [Mat.predecoderBits])
  obtain ⟨b8, h8⟩ := mux mat.senseAmpMuxLev2PredecoderBlock2 (by simp [Mat.predecoderBits])
  simp [initializeMatCircuit, Library.toOption_eq_some_iff.mpr hOk, h1, h2, h3, h4, h5, h6, h7, h8]

/-! ## Banks -/

section Banks

variable {el : Electrical} {memCellType : MemCellType} {globalWireRepeaterType : WireRepeaterType}

/-- The mat and the stored parameters have the sensing scheme of the call. -/
theorem matCall_internalSenseAmp (args : BankParams) {p q : BankParams} {numAddressBit : ℤ}
    {bits : Option (ℕ × ℕ)} {matParams : MatParams}
    (h : p.matCall memCellType numAddressBit bits = some (q, matParams)) :
    matParams.internalSenseAmp = p.internalSenseAmp ∧
      (args.restoreMux q).internalSenseAmp = p.internalSenseAmp := by
  obtain ⟨numDataBit, numWay, -, rfl, rfl⟩ := BankParams.matCall_eq_some h
  obtain ⟨_, _, _, hExpand⟩ := BankParams.expandDataMux_eq memCellType numWay p
  rw [hExpand]
  exact ⟨rfl, rfl⟩

/-- The stored number of global sense amplifiers is that of the call. -/
theorem matCall_numSenseAmp (args : BankParams) {p q : BankParams} {numAddressBit : ℤ}
    {bits : Option (ℕ × ℕ)} {matParams : MatParams}
    (h : p.matCall memCellType numAddressBit bits = some (q, matParams)) :
    (args.restoreMux q).numSenseAmp = p.numSenseAmp ∧
      (args.restoreMux q).numColumnMat = p.numColumnMat := by
  obtain ⟨numDataBit, numWay, -, rfl, rfl⟩ := BankParams.matCall_eq_some h
  obtain ⟨_, _, _, hExpand⟩ := BankParams.expandDataMux_eq memCellType numWay p
  rw [hExpand]
  exact ⟨rfl, rfl⟩

/-- What is known of the mat of a bank that is not invalid: it is accepted, it is sensed as
the bank is, and the global sense amplifiers of an externally sensed bank fit. -/
structure Bank.Accepted (el : Electrical) (b : Bank) (p : MatParams) : Prop where
  legal : p.Legal el
  mat : b.mat = .accepted p
  internalSenseAmp : p.internalSenseAmp = b.internalSenseAmp
  globalSenseAmp : b.internalSenseAmp = false →
    el.globalSenseAmpInvalid b.toBankParams.numSenseAmp b.numColumnMat b.mat = false

theorem initializeBankWithoutHtree_accepted {args : BankParams} {b : Bank}
    (h : initializeBankWithoutHtree el memCellType globalWireRepeaterType args = b)
    (hvalid : b.invalid = false) : ∃ p, b.Accepted el p := by
  unfold initializeBankWithoutHtree at h
  cases hExternal : args.externalSensing memCellType globalWireRepeaterType with
  | some bank =>
      simp only [hExternal] at h
      subst h
      rw [(BankParams.externalSensing_eq_some hExternal).1] at hvalid
      cases hvalid
  | none =>
      simp only [hExternal] at h
      cases hMat : args.clampActive.matParamsWithoutHtree memCellType with
      | none =>
          simp only [hMat] at h
          subst h
          cases hvalid
      | some r =>
          obtain ⟨q, matParams⟩ := r
          simp only [hMat] at h
          split_ifs at h with hInvalid hFits
          · subst h
            cases hvalid
          · subst h
            cases hvalid
          · subst h
            have hLegal := initializeMat_invalid_iff.mp (Bool.eq_false_iff.mpr hInvalid)
            have hSense := matCall_internalSenseAmp args hMat
            have hCount := matCall_numSenseAmp args hMat
            refine ⟨matParams.clampActive, hLegal, initializeMat_of_legal hLegal,
              hSense.1.trans hSense.2.symm, ?_⟩
            intro hGlobal
            have hArgs : args.clampActive.internalSenseAmp = false := hSense.2.symm.trans hGlobal
            rw [hArgs] at hFits
            dsimp only
            rw [hCount.1, hCount.2]
            simpa using hFits

theorem initializeBankWithHtree_accepted {args : BankParams} {b : BankWithHtree}
    (h : initializeBankWithHtree el memCellType args = some b) (hvalid : b.invalid = false) :
    ∃ p, b.toBank.Accepted el p := by
  obtain ⟨s, q, matParams, -, hMat, hLegal, rfl⟩ := initializeBankWithHtree_valid h hvalid
  have hSense := matCall_internalSenseAmp args hMat
  refine ⟨matParams.clampActive, hLegal, initializeMat_of_legal hLegal,
    hSense.1.trans hSense.2.symm, ?_⟩
  intro hGlobal
  -- the H-tree organisation rejects external sensing
  have hArgs : args.internalSenseAmp = false := hSense.2.symm.trans hGlobal
  rw [initializeBankWithHtree, if_pos hArgs] at h
  have hFlag := congrArg (fun b => b.toBank.invalid) (Option.some.inj h)
  cases hFlag

theorem initializeBank_accepted {routingMode : RoutingMode} {args : BankParams} {b : Bank}
    (h : initializeBank el memCellType globalWireRepeaterType routingMode args = some b)
    (hvalid : b.invalid = false) : ∃ p, b.Accepted el p := by
  cases routingMode with
  | hTree =>
      obtain ⟨b', hb', rfl⟩ := Option.map_eq_some_iff.mp h
      exact initializeBankWithHtree_accepted hb' hvalid
  | nonHTree => exact initializeBankWithoutHtree_accepted (Option.some.inj h) hvalid

/-- The subarray of a bank that is not invalid is accepted. -/
theorem Bank.Accepted.exists_subArray {g : Globals K} {memory : SubArrayElectrics K} {unset : ℕ}
    {b : Bank} {p : MatParams} (h : b.Accepted (g.electrical memory unset) p) :
    ∃ c, initializeSubArray g memory b.mat.subarray = .ok c := by
  have hAccepted : (initializeSubArray g memory p.subarray).toOption.isNone = false :=
    h.legal.subarray
  obtain ⟨c, hc⟩ := Option.isSome_iff_exists.mp (Option.isNone_eq_false_iff.mp hAccepted)
  rw [h.mat]
  exact ⟨c, Library.toOption_eq_some_iff.mp hc⟩

end Banks

/-- In a bank that is not invalid every component is initialised and valid: those of the
subarray and of the predecoder blocks, and the sense amplifiers in use.  The circuit exists
unless a predecoder block has more than 27 address bits, where `Initialize` exits. -/
theorem accepted_bank_components_valid [IsStrictOrderedRing K] (g : Globals K)
    (memory : SubArrayElectrics K) (unset : ℕ) (routingMode : RoutingMode) (args : BankParams)
    (b : Bank)
    (h : initializeBank (g.electrical memory unset) g.cell.memCellType
      g.globalWire.wireRepeaterType routingMode args = some b)
    (hvalid : b.invalid = false) :
    (∀ c, initializeMatCircuit g memory unset b.mat = some c →
      c.Valid ∧ (b.internalSenseAmp = true → c.subarray.senseAmp.part.Valid) ∧
        (b.internalSenseAmp = false →
          (g.globalSenseAmp b.toBankParams.numSenseAmp b.numColumnMat (c.size g b.mat).2).Valid)) ∧
      ((∀ bits ∈ b.mat.predecoderBits, bits ≤ 27) →
        (initializeMatCircuit g memory unset b.mat).isSome) := by
  obtain ⟨p, hBank⟩ := initializeBank_accepted h hvalid
  constructor
  · intro c hCircuit
    obtain ⟨hValid, hArguments⟩ := initializeMatCircuit_valid hCircuit
    refine ⟨hValid, ?_, ?_⟩
    · intro hInternal
      apply hValid.subarray.senseAmp
      rw [hArguments, hBank.mat]
      exact hBank.internalSenseAmp.trans hInternal
    · intro hExternal
      have hFits := hBank.globalSenseAmp hExternal
      refine ⟨rfl, ?_⟩
      simpa [Globals.electrical, hCircuit] using hFits
  · intro hBits
    obtain ⟨c, hOk⟩ := hBank.exists_subArray
    exact initializeMatCircuit_isSome hOk hBits

/-- A small resistive bank with an H-tree. -/
theorem accepted_bank_components_valid_small :
    ∃ b, initializeBank ((Globals.small .small).electrical .cleared 0) .mram .repeatedNone .hTree
        .small = some b ∧
      (∀ c, initializeMatCircuit (.small .small) .cleared 0 b.mat = some c →
        c.Valid ∧ (b.internalSenseAmp = true → c.subarray.senseAmp.part.Valid) ∧
          (b.internalSenseAmp = false →
            ((Globals.small .small).globalSenseAmp b.toBankParams.numSenseAmp b.numColumnMat
              (c.size (.small .small) b.mat).2).Valid)) ∧
        ((∀ bits ∈ b.mat.predecoderBits, bits ≤ 27) →
          (initializeMatCircuit (.small .small) .cleared 0 b.mat).isSome) := by
  have hSome : ((initializeBank ((Globals.small .small).electrical .cleared 0) .mram .repeatedNone
      .hTree .small).map (·.invalid)) = some false := by decide +kernel
  obtain ⟨b, hb, hvalid⟩ := Option.map_eq_some_iff.mp hSome
  exact ⟨b, hb, accepted_bank_components_valid (.small .small) .cleared 0 .hTree .small b hb hvalid⟩

end NVSim
