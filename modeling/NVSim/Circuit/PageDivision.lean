import NVSim.Model.PageDivision
import NVSim.Search.MatCalls

/-!
# Which candidates divide by zero

The rows of a subarray are compared with the page count before anything else asks for the page
size, and the page count is used as a divisor wherever it is not above the number of rows.  So
a flash page size of zero is only excluded for a RAM, whose words are the pages, and a block
smaller than a page only by chance.
-/

namespace NVSim

open Library

variable {K : Type} [Field K] [LinearOrder K]

/-! ## Subarrays -/

namespace Globals

variable (g : Globals K)

/-- The subarray of a cache is too narrow for the ways. -/
def TooFewColumns (a : SubArray Int64) : Prop :=
  g.inputParameter.designTarget = .cache ∧
    g.inputParameter.cacheAccessMode ≠ .sequentialAccessMode ∧
    a.numColumn.toInt < g.inputParameter.associativity

/-- A block has a page, or the subarray is rejected before its lines are computed: it has too
few rows for the pages, no place for the sense amplifiers, or no bit line multiplexers that
are narrow enough. -/
def PagesDivide (a : SubArray Int64) : Prop :=
  a.numRow.toInt < g.pageCount ∨ (a.internalSenseAmp ∧ a.muxSenseAmp < 2) ∨
    g.maxNmosWidth < g.driverWidth 0 ∨ 0 < g.intPageCount

variable {g} {el : Electrical Int64} {a : SubArray Int64}

theorem divideConfiguration_eq_ok {u : Unit} :
    (g.divideConfiguration a).outcome = .ok u ↔ ¬ g.TooFewColumns a ∧
      ¬ a.numRow.toInt < g.pageCount ∧ ¬ (a.internalSenseAmp ∧ a.muxSenseAmp < 2) := by
  simp only [divideConfiguration, Dividing.outcome_bind, Dividing.outcome_check,
    Dividing.outcome_divide, bind_eq_ok, require_eq_ok, exists_const]
  exact and_congr_right fun _ => (true_and _).to_iff

theorem positive_divideConfiguration :
    (g.divideConfiguration a).Positive ↔ g.TooFewColumns a ∨ 0 < g.inputParameter.pageSize := by
  simp only [divideConfiguration, Dividing.positive_bind, Dividing.positive_check,
    Dividing.outcome_check, require_eq_ok, Dividing.positive_divide, forall_const, implies_true,
    and_true, true_and, List.forall_mem_singleton, Nat.cast_pos]
  exact or_iff_not_imp_left.symm

theorem positive_divideSubArray :
    (divideSubArray g el a).Positive ↔
      g.TooFewColumns a ∨ (0 < g.inputParameter.pageSize ∧ g.PagesDivide a) := by
  simp only [divideSubArray, Dividing.positive_bind, Dividing.positive_check,
    Dividing.outcome_check, Dividing.outcome_divide, require_eq_ok, Dividing.positive_divide,
    positive_divideConfiguration, divideConfiguration_eq_ok, forall_const, and_true, true_and,
    List.forall_mem_cons, List.not_mem_nil, IsEmpty.forall_iff, Nat.cast_pos, and_self]
  unfold PagesDivide
  by_cases hcolumns : g.TooFewColumns a
  · simp only [hcolumns, true_or, not_true_eq_false, false_and, false_imp_iff, and_self]
  · by_cases hpage : 0 < g.inputParameter.pageSize
    · simp only [hcolumns, hpage, not_false_eq_true, true_and, and_imp, gt_iff_lt,
        or_iff_not_imp_left, imp_self, forall_const]
    · simp only [hcolumns, hpage, or_self, false_and]

/-- An accepted subarray has divided by all numbers that are divided by later. -/
theorem positive_of_accepted (hpositive : (divideSubArray g el a).Positive) {u : Unit}
    (haccepted : (divideSubArray g el a).outcome = .ok u) :
    0 < g.inputParameter.pageSize ∧ 0 < g.intPageCount := by
  simp only [divideSubArray, Dividing.outcome_bind, Dividing.outcome_check, bind_eq_ok,
    require_eq_ok, divideConfiguration_eq_ok, exists_const] at haccepted
  obtain ⟨⟨hcolumns, hrows, hplace⟩, hwidth, -⟩ := haccepted
  obtain htoo | ⟨hpage, hrows' | hplace' | hwidth' | hcount⟩ := positive_divideSubArray.1 hpositive
  · exact absurd htoo hcolumns
  · exact absurd hrows' hrows
  · exact absurd hplace' hplace
  · exact absurd hwidth' hwidth
  · exact ⟨hpage, hcount⟩

/-- No current decides about the multiplexers of flash cells. -/
theorem currents_eq_of_slcNAND (hcell : g.cell.memCellType = .slcNAND) (a : SubArray) :
    g.currents a = .ok { maxWordlineCurrent := 0, maxBitlineCurrent := 0 } := by
  rw [currents, hcell]

/-- Apart from its divisions the program is `SubArray::Initialize`, for the counts of a `long
long` that are not negative. -/
theorem outcome_divideSubArray (hcell : g.cell.memCellType = .slcNAND)
    {memory : SubArrayElectrics K} {unset : ℕ} {a : SubArray} (hrow : a.numRow < 2 ^ 63)
    (hcolumn : a.numColumn < 2 ^ 63)
    (hel : el.exact.subArrayInvalid a = (g.electrical memory unset).subArrayInvalid a) :
    (divideSubArray g el (a.map Int64.ofNat)).outcome = .ok () ↔
      ∃ c, initializeSubArray g memory a = .ok c := by
  have haccepts : el.subArrayInvalid (a.map Int64.ofNat) = false ↔
      ∃ c, initializeSubArray g memory a = .ok c := by
    rw [show el.subArrayInvalid (a.map Int64.ofNat) = _ from hel]
    unfold electrical
    cases hinit : initializeSubArray g memory a with
    | error halt => simp [hinit, Except.toOption]
    | ok c => simp [hinit, Except.toOption]
  rw [← haccepts]
  simp only [divideSubArray, Dividing.outcome_bind, Dividing.outcome_check,
    Dividing.outcome_divide, bind_eq_ok, require_eq_ok, divideConfiguration_eq_ok, exists_const,
    Bool.not_eq_true', true_and]
  refine ⟨fun h => h.2.2, fun haccepted => ⟨?_, ?_, haccepted⟩⟩
  · obtain ⟨c, hc⟩ := haccepts.1 haccepted
    obtain ⟨currents, h⟩ := initializeSubArray_eq_ok.1 hc
    have hconfiguration := h.configuration
    simp only [checkConfiguration, bind_eq_ok, require_eq_ok, exists_const] at hconfiguration
    obtain ⟨hcolumns, -, hrows, hplace, -⟩ := hconfiguration
    have hrowValue : (a.map Int64.ofNat).numRow.toInt = a.numRow := Int64.toInt_ofNat_of_lt hrow
    have hcolumnValue : (a.map Int64.ofNat).numColumn.toInt = a.numColumn :=
      Int64.toInt_ofNat_of_lt hcolumn
    unfold TooFewColumns
    rw [hrowValue, hcolumnValue]
    exact ⟨hcolumns, fun hfew => hrows ⟨hcell, Int.ofNat_lt.1 hfew⟩,
      fun hnone => hplace ⟨hcell, hnone⟩⟩
  · obtain ⟨c, hc⟩ := haccepts.1 haccepted
    obtain ⟨currents, h⟩ := initializeSubArray_eq_ok.1 hc
    have hwidth := h.bitlineMuxWidth
    have hcurrents := h.currents_eq
    rw [currents_eq_of_slcNAND hcell] at hcurrents
    cases hcurrents
    exact not_lt.2 hwidth

end Globals

/-! ## Candidates -/

/-- The subarray that the mat of a candidate initialises, whatever the circuits are. -/
def BankParams.subarrayCall (undefined : Undefined) (memCellType : MemCellType)
    (globalWireRepeaterType : WireRepeaterType) (routingMode : RoutingMode) (a : BankParams) :
    Option (SubArray Int64) :=
  (initializeBankInt undefined .permissive memCellType globalWireRepeaterType routingMode a).bind
    (·.mat.calledSubarray)

theorem calledSubarray_initializeMatInt (undefined : Undefined) (el el' : Electrical Int64)
    (p : MatParams Int64) :
    (initializeMatInt undefined el p).map (·.calledSubarray) =
      (initializeMatInt undefined el' p).map (·.calledSubarray) := by
  have hcalled (el : Electrical Int64) :
      (initializeMatInt undefined el p).map (·.calledSubarray) =
        if p.clampActive.effectiveAddressBit ≤ 0 then some none
        else (p.clampActive.storedNumRow undefined.shift).bind fun numRow =>
          if numRow = 0 then some none
          else p.clampActive.storedColumnSelected.map fun numColumnSelected =>
            if numColumnSelected = 0 then none
            else some (p.clampActive.subarrayOf numRow
              (p.clampActive.storedNumColumn numColumnSelected)) := by
    unfold initializeMatInt
    dsimp only
    split
    · rfl
    · cases p.clampActive.storedNumRow undefined.shift with
      | none => rfl
      | some numRow =>
          dsimp only [bind, Option.bind]
          split
          · rfl
          · cases p.clampActive.storedColumnSelected with
            | none => rfl
            | some numColumnSelected =>
                dsimp only [Option.map]
                split_ifs <;> rfl
  rw [hcalled, hcalled]

/-- The circuits decide about a bank after the call. -/
theorem calledSubarray_initializeBankInt (undefined : Undefined) (el el' : Electrical Int64)
    (memCellType : MemCellType) (globalWireRepeaterType : WireRepeaterType)
    (routingMode : RoutingMode) (a : BankParams) :
    (initializeBankInt undefined el memCellType globalWireRepeaterType routingMode a).bind
        (·.mat.calledSubarray) =
      (initializeBankInt undefined el' memCellType globalWireRepeaterType routingMode a).bind
        (·.mat.calledSubarray) := by
  have hbind (el : Electrical Int64) (matParams : MatParams Int64)
      (f : Mat Int64 → Option (Bank Int64))
      (hf : ∀ mat, (f mat).bind (·.mat.calledSubarray) = mat.calledSubarray) :
      ((initializeMatInt undefined el matParams).bind f).bind (·.mat.calledSubarray) =
        ((initializeMatInt undefined el matParams).map (·.calledSubarray)).bind id := by
    cases initializeMatInt undefined el matParams with
    | none => rfl
    | some mat => exact hf mat
  cases routingMode with
  | nonHTree =>
      unfold initializeBankInt initializeBankWithoutHtreeInt
      dsimp only
      cases a.externalSensing memCellType globalWireRepeaterType with
      | some b => rfl
      | none =>
          dsimp only
          cases a.clampActive.storedParamsWithoutHtree memCellType with
          | none => rfl
          | some call =>
              obtain ⟨q, matParams⟩ := call
              refine (hbind el matParams _ fun mat => ?_).trans (Eq.trans ?_
                (hbind el' matParams _ fun mat => ?_).symm)
              · split_ifs <;> rfl
              · rw [calledSubarray_initializeMatInt]
              · split_ifs <;> rfl
  | hTree =>
      unfold initializeBankInt initializeBankWithHtreeInt
      by_cases hsense : a.internalSenseAmp = false
      · rw [if_pos hsense, if_pos hsense]
      · rw [if_neg hsense, if_neg hsense]
        dsimp only
        cases a.clampActive.routeInt with
        | error e => cases e <;> rfl
        | ok s =>
            dsimp only
            cases a.clampActive.storedParamsWithHtree memCellType s with
            | none => rfl
            | some call =>
                obtain ⟨q, matParams⟩ := call
                dsimp only [bind]
                rw [Option.map_bind, Option.map_bind]
                refine (hbind el matParams _ fun mat => ?_).trans (Eq.trans ?_
                  (hbind el' matParams _ fun mat => ?_).symm)
                · dsimp only [Function.comp]
                  split_ifs <;> rfl
                · rw [calledSubarray_initializeMatInt undefined el el']
                · dsimp only [Function.comp]
                  split_ifs <;> rfl

theorem calledSubarray_bank (g : Globals K) (undefined : Undefined) (el : Electrical Int64)
    (a : BankParams) : (g.bank undefined el a).bind (·.mat.calledSubarray) =
      a.subarrayCall undefined g.cell.memCellType g.globalWire.wireRepeaterType
        g.inputParameter.routingMode :=
  calledSubarray_initializeBankInt _ _ _ _ _ _ _

namespace Globals

variable {g : Globals K} {undefined : Undefined} {el : Electrical Int64} {a : BankParams}

/-- Only the initialisation decides. -/
theorem positive_divideBank :
    (g.divideBank undefined el a).Positive ↔
      ∀ subarray, a.subarrayCall undefined g.cell.memCellType g.globalWire.wireRepeaterType
        g.inputParameter.routingMode = some subarray →
          (divideSubArray g el subarray).Positive := by
  rw [← calledSubarray_bank g undefined el]
  unfold divideBank
  cases g.bank undefined el a with
  | none =>
      constructor
      · rintro - subarray ⟨⟩
      · exact fun _ => Dividing.positive_pure _
  | some bank =>
      dsimp only [Option.bind]
      cases bank.mat.calledSubarray with
      | none =>
          constructor
          · rintro - subarray ⟨⟩
          · exact fun _ => Dividing.positive_pure _
      | some subarray =>
          dsimp only
          rw [Dividing.positive_bind]
          constructor
          · rintro ⟨hpositive, -⟩ _ ⟨⟩
            exact hpositive
          · intro h
            have hpositive := h subarray rfl
            refine ⟨hpositive, fun _ haccepted => ?_⟩
-- what `Initialize` divided by is what the evaluations divide by
            obtain ⟨hpage, hcount⟩ := positive_of_accepted hpositive haccepted
            split
            · exact Dividing.positive_pure _
            · simp [divideLatency, dividePower, hpage, hcount]

end Globals

/-! ## Configurations -/

/-- `main` calls `CALCULATE` with these arguments. -/
inductive InputParameter.Calculates (ip : InputParameter K) (memCellType : MemCellType)
    (a : BankParams) : Prop
  | data {args : List BankParams} (hargs : ip.dataCandidates memCellType = .ok args) (ha : a ∈ args)
  | tag (hcache : ip.designTarget = .cache) {args : List BankParams}
      (hargs : ip.tagCandidates = .ok args) (ha : a ∈ args)

omit [Field K] [LinearOrder K] in
/-- The words of a flash RAM are its pages, so without a page size every partitioning is too
aggressive. -/
theorem InputParameter.Calculates.pageSize_pos {ip : InputParameter K} {a : BankParams}
    (ha : ip.Calculates .slcNAND a) (hram : ip.designTarget = .ramChip) : 0 < ip.pageSize := by
  cases ha with
  | tag hcache =>
      rw [hram] at hcache
      cases hcache
  | data hargs ha =>
      obtain ⟨candidates, -, heq⟩ := bind_eq_ok.1 hargs
      obtain rfl := Except.ok.inj heq
      obtain ⟨c, -, hargs⟩ := List.mem_filterMap.1 ha
      have hblock : (dataArray ip.toSettings .slcNAND).blockSize = ip.pageSize := by
        simp [dataArray, hram]
      unfold Candidate.dataArgs at hargs
      split_ifs at hargs with hpartition
      rw [hblock] at hpartition
      exact Nat.pos_of_ne_zero fun hzero => hpartition (by rw [hzero, Nat.zero_div])

omit [Field K] [LinearOrder K] in
theorem designTarget_of_configure {file : List (ConfigLine K)} {memCellType : MemCellType}
    {start ip : InputParameter K} (h : configure file memCellType start = .ok ip) :
    ip.designTarget = .cache ∨ ip.designTarget = .ramChip := by
  obtain ⟨-, hcam, -, -, hip⟩ := InputParameter.applyConstraint_eq_some (orHalt_eq_ok.1 h)
  have hcam : ip.designTarget ≠ .camChip := by
    obtain ⟨-, rfl⟩ | ⟨-, rfl⟩ := hip
    · exact hcam
    · exact hcam
  cases htarget : ip.designTarget with
  | cache => exact .inl rfl
  | ramChip => exact .inr rfl
  | camChip => exact absurd htarget hcam

/-- A candidate divides by positive numbers only, if its subarray is not initialised or is
rejected for the ways, or there are pages (which a RAM has) and the subarray is rejected
before its lines or a block has a page. -/
theorem positive_divideBank_iff {file : List (ConfigLine K)} {start ip : InputParameter K}
    (hconfigure : configure file .slcNAND start = .ok ip) {a : BankParams}
    (ha : ip.Calculates .slcNAND a) {g : Globals K} (hcell : g.cell.memCellType = .slcNAND)
    (hinput : g.inputParameter = ip.toSettings) (undefined : Undefined)
    (el : Electrical Int64) :
    (g.divideBank undefined el a).Positive ↔
      ∀ subarray, a.subarrayCall undefined .slcNAND g.globalWire.wireRepeaterType
        ip.routingMode = some subarray → g.TooFewColumns subarray ∨
          ((ip.designTarget = .cache → 0 < ip.pageSize) ∧ g.PagesDivide subarray) := by
  have hpage : 0 < ip.pageSize ↔ (ip.designTarget = .cache → 0 < ip.pageSize) := by
    refine ⟨fun h _ => h, fun h => ?_⟩
    obtain hcache | hram := designTarget_of_configure hconfigure
    · exact h hcache
    · exact ha.pageSize_pos hram
  rw [Globals.positive_divideBank, hcell, hinput]
  apply forall₂_congr
  intro subarray _
  rw [Globals.positive_divideSubArray, hinput]
  exact or_congr_right (and_congr_left fun _ => hpage)

/-- A block of at least one page, and of fewer than `2 ^ 31`, is enough. -/
theorem run_divideBank_of_block {g : Globals K} (hpage : 0 < g.inputParameter.pageSize)
    (hblock : g.inputParameter.pageSize ≤ g.inputParameter.flashBlockSize)
    (hcount : g.pageCount < 2 ^ 31) (undefined : Undefined) (el : Electrical Int64)
    (a : BankParams) :
    (g.divideBank undefined el a).run = some (g.divideBank undefined el a).outcome := by
  have hpos : 0 < g.pageCount := Nat.div_pos hblock hpage
  have hint : g.intPageCount = g.pageCount := by
    unfold Globals.intPageCount
    rw [Int.bmod_eq_of_le] <;> omega
  apply Dividing.Positive.run
  apply Globals.positive_divideBank.2
  intro subarray _
  refine Globals.positive_divideSubArray.2 (.inr ⟨hpage, .inr (.inr (.inr ?_))⟩)
  rw [hint]
  exact Int.natCast_pos.2 hpos

/-! ## Examples -/

/-- A flash cell, for examples. -/
def Cell.smallFlash : Cell ℚ := { Cell.small with memCellType := .slcNAND }

/-- A RAM with a page size of one byte, one organisation and the given lines, for examples. -/
def smallFlashRam (lines : List (ConfigLine ℚ)) : List (ConfigLine ℚ) :=
  [.designTarget "RAM", .wordWidth (some 8), .flashPageSize (some 1),
    .forceBank (some 1) (some 1) (some 1) (some 1), .forceMat (some 1) (some 1) (some 1) (some 1),
    .forceMuxSenseAmp (some 2), .forceMuxOutputLev1 (some 1), .forceMuxOutputLev2 (some 1),
    .bufferDesignOptimization "latency"] ++ lines

/-- What is read of it. -/
def InputParameter.smallFlashRam (lines : List (ConfigLine ℚ)) : InputParameter ℚ :=
  (InputParameter.small : InputParameter ℚ).restoreSearchSize.readInputParameterFromFile
    (NVSim.smallFlashRam lines)

/-- Its only candidate. -/
def BankParams.smallFlashRam (capacity : ℕ) : BankParams where
  numRowMat := 1
  numColumnMat := 1
  capacity := capacity
  blockSize := 8
  associativity := 1
  numRowPerSet := 1
  numActiveMatPerRow := 1
  numActiveMatPerColumn := 1
  muxSenseAmp := 2
  internalSenseAmp := true
  muxOutputLev1 := 1
  muxOutputLev2 := 1
  numRowSubarray := 1
  numColumnSubarray := 1
  numActiveSubarrayPerRow := 1
  numActiveSubarrayPerColumn := 1
  areaOptimizationLevel := .latencyFirst
  memoryType := .data

/-- The globals of its search. -/
def Globals.smallFlashRam (lines : List (ConfigLine ℚ)) : Globals ℚ :=
  { Globals.small .smallFlash with
    inputParameter := (InputParameter.smallFlashRam lines).toSettings }

/-- Two kilobytes in blocks of one kilobyte. -/
def wholeBlocks : List (ConfigLine ℚ) := [.capacityB 2048, .flashBlockSize (some 1)]

/-- A subarray of 1024 rows holds the 1024 pages of a block. -/
theorem positive_divideBank_iff_wholeBlocks :
    (BankParams.smallFlashRam 16384).subarrayCall ⟨0, 0⟩ .slcNAND
        (Globals.smallFlashRam wholeBlocks).globalWire.wireRepeaterType
        (InputParameter.smallFlashRam wholeBlocks).routingMode =
      some
        { numRow := 1024, numColumn := 16, multipleRowPerSet := false, split := true,
          muxSenseAmp := 2, internalSenseAmp := true, muxOutputLev1 := 1, muxOutputLev2 := 1,
          areaOptimizationLevel := .latencyFirst } ∧
    ((Globals.smallFlashRam wholeBlocks).divideBank ⟨0, 0⟩ .permissive
      (.smallFlashRam 16384)).Positive := by
  have hargs : (InputParameter.smallFlashRam wholeBlocks).dataCandidates .slcNAND =
      .ok [.smallFlashRam 16384] := by decide
  have hconfigure : configure (smallFlashRam wholeBlocks) .slcNAND .small =
      .ok (.smallFlashRam wholeBlocks) := rfl
  refine ⟨by decide +kernel, (positive_divideBank_iff hconfigure
    (.data hargs List.mem_cons_self) rfl rfl ⟨0, 0⟩ .permissive).2 fun subarray hsubarray =>
      .inr ⟨fun _ => by decide, ?_⟩⟩
  exact .inr (.inr (.inr (by decide +kernel)))

/-- Without a block size the page count of the only candidate is zero, and its initialisation
traps. -/
theorem run_divideBank_pageOnly :
    configure (smallFlashRam [.capacityB 16]) .slcNAND (InputParameter.small : InputParameter ℚ) =
        .ok (.smallFlashRam [.capacityB 16]) ∧
      (InputParameter.smallFlashRam [.capacityB 16]).Calculates .slcNAND (.smallFlashRam 128) ∧
      ¬ ((Globals.smallFlashRam [.capacityB 16]).divideBank ⟨0, 0⟩ .permissive
        (.smallFlashRam 128)).Positive ∧
      ((Globals.smallFlashRam [.capacityB 16]).divideBank ⟨0, 0⟩ .permissive
        (.smallFlashRam 128)).run.isNone = true := by
  have hargs : (InputParameter.smallFlashRam [.capacityB 16]).dataCandidates .slcNAND =
      .ok [.smallFlashRam 128] := by decide
  exact ⟨rfl, .data hargs List.mem_cons_self, by decide +kernel, by decide +kernel⟩

end NVSim
