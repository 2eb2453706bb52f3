import NVSim.Circuit.Validity
import NVSim.Circuit.WireTable
import NVSim.Htree.Evaluation
import NVSim.Model.CircuitModels
import NVSim.Model.Formula
import NVSim.Circuit.InverterChain
import NVSim.Search.Refinement

/-!
# The models of a run are its circuits

The search was described over models that only see a bank after its `Initialize`.  Over the
circuits of a run, the bank that the models evaluate is the bank that the macro `CALCULATE`
leaves: with its record, its flags and all its measures.
-/

namespace NVSim

open Library

variable {K : Type} [Field K] [LinearOrder K]

/-! ## Records of banks -/

/-- Initialising a valid bank with H-tree from its record gives the same bank, with the same
arrays. -/
theorem initializeBankWithHtree_record {el : Electrical} {memCellType : MemCellType}
    {args : BankParams} {b : BankWithHtree}
    (h : initializeBankWithHtree el memCellType args = some b) (hvalid : b.invalid = false) :
    initializeBankWithHtree el memCellType b.toBankParams = some b := by
  have hparams : b.toBankParams = args.clampActive := (initializeBankWithHtree_holds h hvalid).1
  have hinternal : args.internalSenseAmp = true := by
    by_contra hexternal
    have hexternal' := eq_false_of_ne_true hexternal
    rw [initializeBankWithHtree, if_pos hexternal'] at h
    have hflag := congrArg (fun b => b.toBank.invalid) (Option.some.inj h)
    simp only [hvalid, BankWithHtree.rejected, Bank.unsupported] at hflag
    cases hflag
  have hclamped : args.clampActive.internalSenseAmp = true := hinternal
  rw [← h, hparams]
  unfold initializeBankWithHtree
  simp only [hinternal, hclamped, BankParams.clampActive_clampActive]
  rfl

/-! ## Illegal aspect ratios -/

section Illegal

variable [FloorRing K] {g : Globals K} {globalWire : WireObject K} {received : K}

/-- What the evaluation of a bank with H-tree does to its record and its flags. -/
theorem evaluateHtree_bank {b : BankWithHtree} {mat : MatObject K} {o : HtreeObject K}
    (h : evaluateHtree g globalWire received b mat = some o) (hvalid : b.invalid = false) :
    o.bank = b ∨ b.memoryType = .data ∧ o.bank = { b with invalid := true } ∧
      o.toFunctionUnit = FunctionUnit.fresh.reset := by
  unfold evaluateHtree HtreeObject.calculateArea at h
  simp only [Option.bind_eq_bind, Option.bind_eq_some_iff] at h
  obtain ⟨o', ⟨height, -, width, -, harea⟩, hpower⟩ := h
  split at harea
  · next hillegal =>
      simp only [Bool.and_eq_true, decide_eq_true_eq] at hillegal
      obtain rfl := Option.some.inj harea
      obtain rfl := Option.some.inj hpower
      exact .inr ⟨hillegal.1, rfl, rfl⟩
  · simp only [Option.bind_eq_some_iff] at harea
    obtain ⟨lengths, -, hsome⟩ := harea
    obtain rfl := Option.some.inj hsome
    unfold HtreeObject.calculateLatencyAndPower at hpower
    simp only [hvalid, Bool.false_eq_true, if_false, Option.bind_eq_bind,
      Option.bind_eq_some_iff] at hpower
    obtain ⟨u, -, hsome'⟩ := hpower
    obtain rfl := Option.some.inj hsome'
    exact .inl rfl

omit [FloorRing K] in
theorem measures_initializeMatObject {memory : SubArrayElectrics K} {unset : ℕ} {mat : Mat}
    {m : MatObject K} (h : initializeMatObject g memory unset mat = some m) :
    m.toFunctionUnit = .fresh := by
  obtain ⟨circuit, -, rfl⟩ := Option.map_eq_some_iff.1 h
  rfl

omit [LinearOrder K] [FloorRing K] in
/-- The mats add nothing to the worst case of a bank whose mat was not evaluated. -/
theorem addMats_worstCase {settings : Settings K} (hmode : settings.routingMode = .nonHTree)
    (b : Bank) {mat : FunctionUnit K} (u : FunctionUnit K)
    (hmat : mat = { FunctionUnit.fresh with
      height := mat.height, width := mat.width, area := mat.area })
    (hu : u = { FunctionUnit.fresh with
      height := worstCase, width := worstCase, area := worstCase }) :
    BusVars.addMats settings b mat u
        { lengthWire := 0
          readLatency := worstCase
          writeLatency := worstCase
          readDynamicEnergy := worstCase
          writeDynamicEnergy := worstCase
          leakage := worstCase } = .invalid settings := by
  rw [hmat, hu]
  unfold BusVars.addMats FunctionUnit.invalid
  simp [hmode, FunctionUnit.fresh, FunctionUnit.reset]

variable (g globalWire received) in
/-- What the evaluation of a bank without H-tree does to its record and its flags. -/
theorem evaluateNonHtree_bank {b : Bank} {mat : MatObject K}
    (hmat : mat.toFunctionUnit = .fresh) (hvalid : b.invalid = false)
    (hmode : g.inputParameter.routingMode = .nonHTree) :
    (evaluateNonHtree g globalWire received b mat).bank = b ∨
      b.memoryType = .data ∧
        (evaluateNonHtree g globalWire received b mat).bank = { b with invalid := true } ∧
        (evaluateNonHtree g globalWire received b mat).toFunctionUnit =
          .invalid g.inputParameter := by
  unfold evaluateNonHtree NonHtreeObject.calculateArea
  dsimp only
  split
  · next hillegal =>
      simp only [Bool.and_eq_true, decide_eq_true_eq] at hillegal
      refine .inr ⟨hillegal.1, rfl, ?_⟩
      apply addMats_worstCase hmode
      · unfold MatObject.calculateArea
        rw [hmat]
      · rfl
  · unfold NonHtreeObject.calculateLatencyAndPower
    left
    rw [if_neg (by simp [hvalid])]

end Illegal

/-! ## The macro `CALCULATE` -/

namespace Circuits

variable (c : Circuits K)

/-- What an evaluation does to a valid bank: nothing, or it marks a data array invalid. -/
def Leaves (b : Bank) (e : EvaluatedBank K) : Prop :=
  e.toBank = b ∨ b.memoryType = .data ∧
    e = { toBank := { b with invalid := true }
          toFunctionUnit := .invalid c.globals.inputParameter }

variable [FloorRing K] {c} {localWire globalWire : Wire} {args : BankParams}
  {e : EvaluatedBank K}

theorem leaves_evaluateWithHtree {b : BankWithHtree} (hvalid : b.invalid = false)
    (hmode : c.globals.inputParameter.routingMode = .hTree)
    (h : c.evaluateWithHtree localWire globalWire b = some e) : c.Leaves b.toBank e := by
  unfold evaluateWithHtree at h
  simp only [Option.bind_eq_bind, Option.bind_eq_some_iff, Option.some.injEq] at h
  obtain ⟨mat, -, o, ho, rfl⟩ := h
  obtain hbank | ⟨hdata, hbank, hmeasures⟩ := evaluateHtree_bank ho hvalid
  · left
    rw [hbank]
  · right
    rw [hbank, hmeasures]
    refine ⟨hdata, ?_⟩
    unfold FunctionUnit.invalid
    rw [hmode]

theorem leaves_evaluateWithoutHtree {b : Bank} (hvalid : b.invalid = false)
    (hmode : c.globals.inputParameter.routingMode = .nonHTree)
    (h : c.evaluateWithoutHtree localWire globalWire b = some e) : c.Leaves b e := by
  obtain ⟨mat, hmat, hsome⟩ := Option.bind_eq_some_iff.1 h
  have hcases := evaluateNonHtree_bank (c.wired localWire globalWire)
    (c.wireObject globalWire) c.received (measures_initializeMatObject hmat) hvalid hmode
  dsimp only at hsome
  generalize evaluateNonHtree (c.wired localWire globalWire) (c.wireObject globalWire) c.received
    b mat = o at hcases hsome
  obtain rfl := Option.some.inj hsome
  obtain hbank | ⟨hdata, hbank, hmeasures⟩ := hcases
  · exact .inl hbank
  · right
    rw [hbank, hmeasures]
    exact ⟨hdata, rfl⟩

/-- The macro in terms of the bank that is initialised and of its record. -/
theorem calculate_eq_some (h : c.calculate localWire globalWire args = some e) :
    ∃ b, initializeBank (c.electrical localWire globalWire) c.globals.cell.memCellType
        globalWire.wireRepeaterType c.globals.inputParameter.routingMode args = some b ∧
      c.finish b (c.evaluateRecord localWire globalWire b) = some e ∧
      (b.invalid = false → c.evaluateRecord localWire globalWire b = some e → c.Leaves b e) := by
  unfold calculate at h
  unfold initializeBank
  cases hmode : c.globals.inputParameter.routingMode with
  | hTree =>
      simp only [hmode] at h
      obtain ⟨b, hb, hfinish⟩ := Option.bind_eq_some_iff.1 h
      refine ⟨b.toBank, Option.map_eq_some_iff.2 ⟨b, hb, rfl⟩, ?_⟩
-- the models initialise the bank again, from the record that it leaves
      have hrecord (hvalid : b.invalid = false) :
          c.evaluateRecord localWire globalWire b.toBank =
            c.evaluateWithHtree localWire globalWire b := by
        unfold evaluateRecord
        simp only [hmode]
        rw [initializeBankWithHtree_record hb hvalid]
        rfl
      constructor
      · unfold finish at hfinish ⊢
        split_ifs with hinitialized hinvalid
        · rwa [if_pos hinitialized] at hfinish
        · rwa [if_neg hinitialized, if_pos hinvalid] at hfinish
        · rw [if_neg hinitialized, if_neg hinvalid] at hfinish
          rw [hrecord (eq_false_of_ne_true hinvalid), hfinish]
      · intro hvalid he
        rw [hrecord hvalid] at he
        exact leaves_evaluateWithHtree hvalid hmode he
  | nonHTree =>
      simp only [hmode] at h
      refine ⟨_, rfl, ?_⟩
      unfold evaluateRecord
      simp only [hmode]
      refine ⟨h, ?_⟩
      intro hvalid he
      exact leaves_evaluateWithoutHtree hvalid hmode he

/-- The models evaluate a bank to what `CALCULATE` leaves of it: whatever the arguments and the
wires, as long as the macro ends at all. -/
theorem evaluate_models {cell : MemCell K}
    (hcell : cell.memoised c.globals.tech.vdd = c.globals.cell.toMemCell)
    (h : c.calculate localWire globalWire args = some e) :
    evaluate c.models c.globals.inputParameter cell localWire globalWire args = e := by
  obtain ⟨b, hinit, hfinish, hleaves⟩ := calculate_eq_some h
  have hbank : initializedBank (c.models.electrical localWire globalWire) cell.memCellType
      globalWire.wireRepeaterType c.globals.inputParameter.routingMode args = b := by
    have htype := congrArg MemCell.memCellType hcell
    rw [MemCell.memCellType_memoised] at htype
    rw [initializeBank_eq_initializedBank, ← htype] at hinit
    exact Option.some.inj hinit
  have hmodels : cell.memoised c.models.vdd = c.globals.cell.toMemCell := hcell
  unfold evaluate NVSim.calculate
  rw [MemCell.memCellType_memoised, hbank, MemCell.memoised_memoised, hmodels]
  dsimp only
  unfold finish at hfinish
  split_ifs at hfinish with hinitialized hinvalid
  · obtain rfl := Option.some.inj hfinish
    have hcheck : checkAspectRatio c.models localWire globalWire b = b := by
      unfold checkAspectRatio
      simp [hinitialized]
    rw [hcheck, if_pos hinitialized]
  · obtain rfl := Option.some.inj hfinish
    have hcheck : checkAspectRatio c.models localWire globalWire b = b := by
      unfold checkAspectRatio
      simp [hinvalid]
    rw [hcheck, if_neg hinitialized, if_pos hinvalid]
  · have hvalid := eq_false_of_ne_true hinvalid
    have hillegal : c.models.aspectRatioIllegal localWire globalWire b = e.invalid := by
      unfold models
      dsimp only
      rw [hfinish]
      rfl
    have hmeasures : c.models.measures c.globals.cell.toMemCell localWire globalWire b =
        e.toFunctionUnit := by
      -- the cell that is put in is the one that is there
      show (c.evaluateRecord localWire globalWire b).elim _ _ = _
      rw [hfinish]
      rfl
    obtain hkept | ⟨hdata, hmarked⟩ := hleaves hvalid hfinish
    · have hcheck : checkAspectRatio c.models localWire globalWire b = b := by
        have hkeeps : e.invalid = false := by
          rw [hkept]
          exact hvalid
        unfold checkAspectRatio
        simp [hillegal, hkeeps]
      rw [hcheck, if_neg hinitialized, if_neg hinvalid, hmeasures, ← hkept]
    · have hcheck : checkAspectRatio c.models localWire globalWire b =
          { b with invalid := true } := by
        have hmarks : e.invalid = true := by
          rw [hmarked]
        have hready := eq_true_of_ne_false hinitialized
        unfold checkAspectRatio
        simp [hillegal, hmarks, hready, hvalid, hdata]
      rw [hcheck, if_neg hinitialized, if_pos rfl, hmarked]

end Circuits

/-! ## The pitch of the wires -/

/-- No length that goes into the pitch of a repeated wire is negative: the sides of the
inverters, and what the object of a wire held. -/
structure Circuits.Pitched (c : Circuits K) : Prop where
  inverter : ∀ width, 0 ≤ (c.globals.tech.gateArea .inv 1 width
      (width * c.globals.tech.pnSizeRatio) worstCase).1 ∧
    0 ≤ (c.globals.tech.gateArea .inv 1 width (width * c.globals.tech.pnSizeRatio) worstCase).2
  wirePitch : 0 ≤ c.wire.wirePitch
  repeatedWirePitch : 0 ≤ c.wire.repeatedWirePitch

/-- The circuits with the formulas of a process. -/
def Circuits.withFormulas [FloorRing K] (c : Circuits K) (p : Process K)
    (featureSize_pos : 0 < p.featureSize) : Circuits K :=
  { c with globals := c.globals.withFormulas p featureSize_pos }

/-- With the formulas of a process whose inverters fit no side of one is negative. -/
theorem Circuits.pitched_withFormulas [FloorRing K] [IsStrictOrderedRing K] (c : Circuits K)
    {p : Process K} (hroomy : p.Roomy worstCase) (hpitch : 0 ≤ c.wire.wirePitch)
    (hrepeated : 0 ≤ c.wire.repeatedWirePitch) :
    (c.withFormulas p hroomy.featureSize).Pitched where
  inverter := technology_inverter_nonneg hroomy
  wirePitch := hpitch
  repeatedWirePitch := hrepeated

/-- The circuits with the chains of the output drivers. -/
def Circuits.withChains [FloorRing K] (c : Circuits K) (pow : K → K → K) : Circuits K :=
  { c with globals := { c.globals with driver := .ofChains c.globals pow } }

theorem Circuits.Pitched.withChains [FloorRing K] {c : Circuits K} (h : c.Pitched)
    (pow : K → K → K) : (c.withChains pow).Pitched where
  inverter := h.inverter
  wirePitch := h.wirePitch
  repeatedWirePitch := h.repeatedWirePitch

theorem Circuits.Pitched.lookUp [IsStrictOrderedRing K] {c : Circuits K} (h : c.Pitched)
    (featureSizeInNano : ℤ) (wireType : WireType) :
    0 ≤ (c.wire.toWireGeometry.lookUp featureSizeInNano wireType).wirePitch := by
  unfold WireGeometry.lookUp
  split
  · next node _ => exact (node.wirePitch_pos wireType).le
  · exact h.wirePitch

theorem Circuits.Pitched.sharing [IsStrictOrderedRing K] [FloorRing K] {c : Circuits K}
    (h : c.Pitched) (wire : Wire) : 0 ≤ (c.wireObject wire).sharing.2 := by
  have hrepeated : 0 ≤ (c.wireObject wire).repeatedWirePitch := by
    unfold Circuits.wireObject initializeWireObject
    dsimp only
    split
    · exact h.repeatedWirePitch
    cases hchoose : RepeatedWire.chooseRepeaters c.globals wire.wireRepeaterType c.fuel _ with
    | none => exact h.repeatedWirePitch
    | some repeated =>
        have hpitch := h.lookUp wire.featureSizeInNano wire.wireType
        obtain ⟨hheight, hwidth⟩ :=
          h.inverter (repeated.repeaterSize * minNmosSize * c.globals.tech.featureSize)
        simp only [Option.map_some, Option.getD_some, WireObject.addRepeaterPitch]
        split
        · exact add_nonneg hpitch hheight
        · exact add_nonneg hpitch hwidth
  unfold WireObject.sharing
  split
  · exact le_rfl
  · exact hrepeated

/-! ## Where the macro ends -/

/-- A mat whose circuit exists has no predecoder that exits. -/
theorem predecoderBits_le {g : Globals K} {memory : SubArrayElectrics K} {unset : ℕ} {mat : Mat}
    {m : MatCircuit K} (h : initializeMatCircuit g memory unset mat = some m) :
    ∀ bits ∈ mat.predecoderBits, bits ≤ 27 := by
  have hblock {bits : ℕ} {load : K} {b : PredecodeBlock K}
      (hb : initializePredecodeBlock g unset bits load 0 = some b) : bits ≤ 27 := by
    by_contra hlarge
    unfold initializePredecodeBlock at hb
    rw [if_pos (not_le.1 hlarge)] at hb
    cases hb
  unfold initializeMatCircuit at h
  simp only [Option.bind_eq_bind, Option.bind_eq_some_iff, Option.pure_def, Option.some.injEq] at h
  obtain ⟨c, -, b1, h1, b2, h2, b3, h3, b4, h4, b5, h5, b6, h6, b7, h7, b8, h8, rfl⟩ := h
  intro bits hbits
  simp only [Mat.predecoderBits, List.mem_cons, List.not_mem_nil, or_false] at hbits
  obtain rfl | rfl | rfl | rfl | rfl | rfl | rfl | rfl := hbits
  · exact hblock h1
  · exact hblock h2
  · exact hblock h3
  · exact hblock h4
  · exact hblock h5
  · exact hblock h6
  · exact hblock h7
  · exact hblock h8

namespace Circuits

variable {c : Circuits K} {localWire globalWire : Wire} {args : BankParams} {b : Bank}

/-- The mat object of a valid bank. -/
theorem exists_matObject
    (h : initializeBank (c.electrical localWire globalWire) c.globals.cell.memCellType
      globalWire.wireRepeaterType c.globals.inputParameter.routingMode args = some b)
    (hvalid : b.invalid = false) (hbits : ∀ bits ∈ b.mat.predecoderBits, bits ≤ 27) :
    ∃ mat, c.matObject localWire globalWire b.mat = some mat := by
  obtain ⟨p, haccepted⟩ := initializeBank_accepted h hvalid
  obtain ⟨subarray, hsubarray⟩ := haccepted.exists_subArray
  have hsome : (initializeMatCircuit (c.wired localWire globalWire) c.memory c.unset
      b.mat).isSome := initializeMatCircuit_isSome hsubarray hbits
  obtain ⟨m, hm⟩ := Option.isSome_iff_exists.1 hsome
  exact ⟨_, Option.map_eq_some_iff.2 ⟨m, hm, rfl⟩⟩

variable [FloorRing K] [IsStrictOrderedRing K] {e : EvaluatedBank K}

/-- The macro ends unless a predecoder of a valid bank exits. -/
theorem calculate_isSome (hpitch : 0 ≤ (c.wireObject globalWire).sharing.2)
    (h : initializeBank (c.electrical localWire globalWire) c.globals.cell.memCellType
      globalWire.wireRepeaterType c.globals.inputParameter.routingMode args = some b)
    (hbits : b.invalid = false → ∀ bits ∈ b.mat.predecoderBits, bits ≤ 27) :
    ∃ e, c.calculate localWire globalWire args = some e := by
  have hmat (hvalid : b.invalid = false) :
      ∃ mat, c.matObject localWire globalWire b.mat = some mat :=
    exists_matObject h hvalid (hbits hvalid)
-- only a valid bank is evaluated
  have hfinish {evaluated : Option (EvaluatedBank K)}
      (hevaluated : b.invalid = false → ∃ e, evaluated = some e) :
      ∃ e, c.finish b evaluated = some e := by
    unfold finish
    split_ifs with hinitialized hinvalid
    · exact ⟨_, rfl⟩
    · exact ⟨_, rfl⟩
    · exact hevaluated (eq_false_of_ne_true hinvalid)
  unfold initializeBank at h
  unfold calculate
  cases hmode : c.globals.inputParameter.routingMode with
  | hTree =>
      simp only [hmode] at h ⊢
      obtain ⟨b', hb', rfl⟩ := Option.map_eq_some_iff.1 h
      rw [hb']
      apply hfinish
      intro hvalid
      obtain ⟨mat, hsome⟩ := hmat hvalid
      obtain ⟨o, ho, -⟩ := evaluateHtree_spec hb' hvalid (c.wired localWire globalWire) hpitch
        c.received mat
      unfold evaluateWithHtree
      rw [hsome, Option.bind_eq_bind, Option.bind_some, ho]
      exact ⟨_, rfl⟩
  | nonHTree =>
      simp only [hmode] at h ⊢
      obtain rfl := Option.some.inj h
      apply hfinish
      intro hvalid
      obtain ⟨mat, hsome⟩ := hmat hvalid
      unfold evaluateWithoutHtree
      rw [hsome]
      exact ⟨_, rfl⟩

omit [IsStrictOrderedRing K] in
/-- Where the macro ends, no predecoder of a valid bank exited. -/
theorem predecoderBits_of_calculate (h : c.calculate localWire globalWire args = some e)
    (hinit : initializeBank (c.electrical localWire globalWire) c.globals.cell.memCellType
      globalWire.wireRepeaterType c.globals.inputParameter.routingMode args = some b)
    (hvalid : b.invalid = false) : ∀ bits ∈ b.mat.predecoderBits, bits ≤ 27 := by
  have hmat {mat : MatObject K} (hsome : c.matObject localWire globalWire b.mat = some mat) :
      ∀ bits ∈ b.mat.predecoderBits, bits ≤ 27 := by
    obtain ⟨m, hm, -⟩ := Option.map_eq_some_iff.1 hsome
    exact predecoderBits_le hm
  have hinitialized : b.initialized = true := by
    rw [initializeBank_eq_initializedBank] at hinit
    obtain rfl := Option.some.inj hinit
    obtain ⟨mat, hrecord⟩ := initializedBank_valid hvalid
    rw [hrecord]
  have hfinish {evaluated : Option (EvaluatedBank K)} (hf : c.finish b evaluated = some e) :
      evaluated = some e := by
    unfold finish at hf
    rwa [if_neg (by simp [hinitialized]), if_neg (by simp [hvalid])] at hf
  unfold initializeBank at hinit
  unfold calculate at h
  cases hmode : c.globals.inputParameter.routingMode with
  | hTree =>
      simp only [hmode] at h hinit
      obtain ⟨b', hb', rfl⟩ := Option.map_eq_some_iff.1 hinit
      rw [hb'] at h
      obtain ⟨mat, hsome, -⟩ := Option.bind_eq_some_iff.1 (hfinish h)
      exact hmat hsome
  | nonHTree =>
      simp only [hmode] at h hinit
      obtain rfl := Option.some.inj hinit
      obtain ⟨mat, hsome, -⟩ := Option.bind_eq_some_iff.1 (hfinish h)
      exact hmat hsome

/-- The macro `CALCULATE` over the circuits leaves the bank that the models evaluate, in both
organisations, for all arguments with positive counts and all wires, whatever the memory held.
It ends unless a predecoder of a valid bank has more than 27 address bits, where `Initialize`
exits. -/
theorem calculate_eq_evaluate_iff (c : Circuits K) {cell : MemCell K}
    (hcell : cell.memoised c.globals.tech.vdd = c.globals.cell.toMemCell) (hpitched : c.Pitched)
    (localWire globalWire : Wire) (args : BankParams) :
    c.calculate localWire globalWire args =
        some (evaluate c.models c.globals.inputParameter cell localWire globalWire args) ↔
      ∀ b, initializeBank (c.electrical localWire globalWire) c.globals.cell.memCellType
          globalWire.wireRepeaterType c.globals.inputParameter.routingMode args = some b →
        b.invalid = false → ∀ bits ∈ b.mat.predecoderBits, bits ≤ 27 := by
  constructor
  · intro h b hinit hvalid
    exact predecoderBits_of_calculate h hinit hvalid
  · intro hbits
    have hinit := initializeBank_eq_initializedBank (c.electrical localWire globalWire)
      c.globals.cell.memCellType globalWire.wireRepeaterType c.globals.inputParameter.routingMode
      args
    obtain ⟨e, he⟩ := calculate_isSome (hpitched.sharing globalWire) hinit (hbits _ hinit)
    rw [he, evaluate_models hcell he]

end Circuits

/-- The circuits of a small RAM of SRAM cells, for examples. -/
def Circuits.small : Circuits ℚ where
  globals :=
    { Globals.small { Cell.small with memCellType := .sram } with
      inputParameter := InputParameter.small.toSettings }
  memory := .cleared
  unset := 0
  received := 0
  fuel := 0
  wire := .small

theorem Circuits.pitched_small : Circuits.small.Pitched where
  inverter _ := ⟨zero_le_one, zero_le_one⟩
  wirePitch := (WireNode.node90.wirePitch_pos .localAggressive).le
  repeatedWirePitch := le_rfl

/-- A tag array of a single mat with 16 tags of 8 bits, for examples. -/
def BankParams.tagMat : BankParams :=
  { BankParams.small with
    numRowMat := 1
    numColumnMat := 1
    capacity := 16 * 8
    blockSize := 8
    associativity := 1
    numActiveMatPerRow := 1
    numRowSubarray := 1
    numColumnSubarray := 1
    numActiveSubarrayPerRow := 1
    memoryType := .tag }

theorem Process.small_roomy : Process.small.Roomy worstCase := by
  constructor <;> norm_num [Process.small, minGapBetPAndNDiffs, worstCase]

/-- The small circuits with the formulas of a process and the chains of the drivers. -/
def Circuits.processed : Circuits ℚ :=
  (Circuits.small.withFormulas .small (by decide)).withChains rootFour

theorem Circuits.pitched_processed : Circuits.processed.Pitched :=
  (Circuits.small.pitched_withFormulas Process.small_roomy Circuits.pitched_small.wirePitch
    le_rfl).withChains rootFour

/-- Its bank stays valid, and the models evaluate it as the macro does. -/
theorem Circuits.calculate_eq_evaluate_iff_tagMat :
    ∃ e, Circuits.processed.calculate .small .small .tagMat = some e ∧
      e = evaluate Circuits.processed.models Circuits.processed.globals.inputParameter
        Circuits.processed.globals.cell.toMemCell .small .small .tagMat ∧
      e.invalid = false ∧ 0 < e.area ∧ 0 < e.readLatency := by
  have hbank : ((initializeBank (Circuits.processed.electrical .small .small) .sram .repeatedNone
      .hTree .tagMat).map fun b => b.mat.predecoderBits.all (· ≤ 27)) = some true := by
    decide +kernel
  have hbits : ∀ b, initializeBank (Circuits.processed.electrical .small .small) .sram
      .repeatedNone .hTree .tagMat = some b →
        b.invalid = false → ∀ bits ∈ b.mat.predecoderBits, bits ≤ 27 := by
    intro b hinit _
    rw [hinit, Option.map_some, Option.some.injEq] at hbank
    simpa using hbank
  have hcell : Circuits.processed.globals.cell.toMemCell.memoised
      Circuits.processed.globals.tech.vdd = Circuits.processed.globals.cell.toMemCell := rfl
  have hcalculate := (Circuits.calculate_eq_evaluate_iff .processed hcell
    Circuits.pitched_processed .small .small .tagMat).mpr hbits
  have hflags : (Circuits.processed.calculate .small .small .tagMat).map
      (fun e => decide (e.invalid = false ∧ 0 < e.area ∧ 0 < e.readLatency)) = some true := by
    decide +kernel
  rw [hcalculate, Option.map_some, Option.some.injEq] at hflags
  exact ⟨_, hcalculate, rfl, of_decide_eq_true hflags⟩

end NVSim
