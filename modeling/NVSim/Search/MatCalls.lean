import NVSim.Model.MatInts
import NVSim.Organisation.RowPredecoder
import NVSim.Search.DataCapacity
import NVSim.Search.TagCapacity

/-!
# The integers of the calls of `Mat::Initialize`

Which mux degrees and how many address bits reach a mat is decided by the configuration.
In the default space the candidate with one mat of one subarray gets all address bits of
the bank, with each mux degree up to 256, which the ways of a normal-access cache are
multiplied into.  So both the product of the mux degrees and the shift by the address
bits leave the range of an `int` for some configurations, and the conditions on the
configuration under which they do not are exact.
-/

namespace NVSim

open Library

variable {K : Type} [Field K] [LinearOrder K]

/-! ## Calls -/

/-- The banks a phase initialises: its candidates with the basic wires, up to one that
exits with a capacity violation, and after all candidates, with any wires, those that the
refinement initialises again from the record of a valid bank. -/
inductive BankCall (models : Models K) (settings : Settings K) (memoryType : MemoryType)
    (cell : MemCell K) (localWire globalWire : Wire) (args : List BankParams) :
    Wire → Wire → BankParams → Prop
  | candidate {tried rest : List BankParams} {a : BankParams} (h : args = tried ++ a :: rest)
      (hverified : CapacityVerified models settings cell localWire globalWire tried) :
      BankCall models settings memoryType cell localWire globalWire args localWire globalWire a
  | retry {l g : Wire} {a : BankParams} (l' g' : Wire)
      (hverified : CapacityVerified models settings cell localWire globalWire args)
      (h : BankCall models settings memoryType cell localWire globalWire args l g a)
      (hvalid : (evaluate models settings cell l g a).invalid = false) :
      BankCall models settings memoryType cell localWire globalWire args l' g'
        (RefineState.retryArgs settings memoryType (evaluate models settings cell l g a).toBank)

/-- The rows are exact whatever a shift by too many bits delivers. -/
def MatParams.AlwaysRowsExact (p : MatParams) : Prop :=
  ∀ undefinedShift, p.RowsExact undefinedShift

/-- All mats of these banks that go past the check of their address bits. -/
def MatCalls (P : MatParams → Prop) (models : Models K) (settings : Settings K)
    (memoryType : MemoryType) (cell : MemCell K) (localWire globalWire : Wire)
    (args : List BankParams) : Prop :=
  ∀ l g a, BankCall models settings memoryType cell localWire globalWire args l g a →
    let mat := (initializedBank (models.electrical l g) cell.memCellType g.wireRepeaterType
      settings.routingMode a).mat
    0 < mat.effectiveAddressBit → P mat.toMatParams

/-- A candidate as a phase tries it. -/
structure BankParams.Tried (settings : Settings K) (memoryType : MemoryType)
    (a : BankParams) : Prop where
  powerOfTwo : a.PowerOfTwo
  internalSenseAmp : a.internalSenseAmp = settings.internalSensing
  memoryType : a.memoryType = memoryType
  partition : 0 < a.blockSize / a.numPartition

theorem toMatParams_initializeMat (el : Electrical) (args : MatParams) :
    (initializeMat el args).toMatParams = args.clampActive := by
  unfold initializeMat
  dsimp only
  split
  · rfl
  · split
    · rfl
    · split
      · rfl
      · split
        · rfl
        · split
          · rfl
          · rfl

namespace BankParams.PowerOfTwo

variable {a q : BankParams} {el : Electrical} {memCellType : MemCellType}
  {globalWireRepeaterType : WireRepeaterType} {routingMode : RoutingMode}
  {matParams : MatParams}

/-- A mat past the check was called with the arguments of the closed form. -/
theorem exists_matCall (ha : a.PowerOfTwo)
    (haddress : 0 < (initializedBank el memCellType globalWireRepeaterType routingMode
      a).mat.effectiveAddressBit) :
    a.Sensed memCellType globalWireRepeaterType routingMode ∧
      ∃ q, a.matParamsWithoutHtree memCellType =
        some (q, (initializedBank el memCellType globalWireRepeaterType routingMode
          a).mat.toMatParams) := by
  have hmat := initializeBank_mat ha.associativity ha.numRowMat ha.numColumnMat
    ha.numActiveMatPerRow ha.numActiveMatPerColumn
    (initializeBank_eq_initializedBank el memCellType globalWireRepeaterType routingMode a)
  rw [ha.clampActive_eq] at hmat
  obtain ⟨hsensed, q, matParams, hcall, hinit⟩ | ⟨hfresh, -⟩ := hmat
  · refine ⟨hsensed, q, ?_⟩
    rw [hinit, toMatParams_initializeMat, (ha.matCalled hcall).clampActive_eq]
    exact hcall
  · -- the address bits of a mat that was not called
    rw [hfresh] at haddress
    exact absurd haddress (by decide)

/-- A call of the closed form with address and data bits is made. -/
theorem toMatParams_mat (el : Electrical) (ha : a.PowerOfTwo)
    (hsensed : a.Sensed memCellType globalWireRepeaterType routingMode)
    (hcall : a.matParamsWithoutHtree memCellType = some (q, matParams))
    (haddress : 0 < matParams.effectiveAddressBit) (hcolumn : 0 < matParams.numColumnSelected) :
    (initializedBank el memCellType globalWireRepeaterType routingMode a).mat.toMatParams =
      matParams := by
  have hclamp := (ha.matCalled hcall).clampActive_eq
  have hmat := initializeBank_mat ha.associativity ha.numRowMat ha.numColumnMat
    ha.numActiveMatPerRow ha.numActiveMatPerColumn
    (initializeBank_eq_initializedBank el memCellType globalWireRepeaterType routingMode a)
  rw [ha.clampActive_eq] at hmat
  obtain ⟨-, q', matParams', hcall', hinit⟩ | ⟨-, hstarved⟩ := hmat
  · rw [hcall] at hcall'
    obtain ⟨rfl, rfl⟩ := Prod.mk.inj (Option.some.inj hcall')
    rw [hinit, toMatParams_initializeMat, hclamp]
  · have hbad := hstarved q matParams hsensed hcall
    rw [hclamp] at hbad
    omega

/-- The address bits of a subarray are at most those of the bank. -/
theorem effectiveAddressBit_le (ha : a.PowerOfTwo)
    (hcall : a.matParamsWithoutHtree memCellType = some (q, matParams)) :
    matParams.effectiveAddressBit ≤ a.numAddressBit := by
  unfold MatParams.effectiveAddressBit
  rw [(ha.matCalled hcall).addressBit, BankParams.numAddressBitRouteToMat]
  omega

end BankParams.PowerOfTwo

/-! ## Phases -/

section Phase

variable {models : Models K} {settings : Settings K} {memoryType : MemoryType}
  {cell : MemCell K} {localWire globalWire : Wire} {args : List BankParams}

omit [Field K] [LinearOrder K] in
/-- The partition of a tried candidate leaves data bits to its subarrays. -/
theorem BankParams.Tried.numColumnSelected_pos {a q : BankParams} {memCellType : MemCellType}
    {matParams : MatParams} (ha : a.Tried settings memoryType)
    (hcall : a.matParamsWithoutHtree memCellType = some (q, matParams)) :
    0 < matParams.numColumnSelected := by
  obtain ⟨numDataBit, numWay, hrouted, rfl, rfl⟩ := BankParams.matCall_eq_some hcall
  obtain ⟨_, _, _, hexpand⟩ := BankParams.expandDataMux_eq memCellType numWay a
  have hpartition := ha.partition
  have hbits := (ha.powerOfTwo.routedWithoutHtree hrouted).2
  rw [hexpand]
  show 0 < numDataBit / a.numActiveSubarray
  -- what is left for all active subarrays of a block is left for those of a mat
  have hblock : a.blockSize / a.numPartition ≤ a.blockSize / a.numActiveSubarray := by
    unfold BankParams.numPartition
    rw [mul_comm, ← Nat.div_div_eq_div_mul]
    exact Nat.div_le_self _ _
  cases htype : a.memoryType with
  | data =>
      simp only [htype] at hbits
      rw [hbits.2.2, Nat.div_div_eq_div_mul]
      exact hpartition
  | tag =>
      simp only [htype] at hbits
      rw [hbits.2.2]
      exact hpartition.trans_le hblock
  | cam =>
      simp only [htype] at hbits
      rw [hbits.2]
      exact hpartition.trans_le hblock

/-- The bank of a record is the bank of the candidate again. -/
theorem BankParams.Tried.retryArgs {a : BankParams} {l g : Wire}
    (ha : a.Tried settings memoryType)
    (hvalid : (evaluate models settings cell l g a).invalid = false) :
    RefineState.retryArgs settings memoryType (evaluate models settings cell l g a).toBank = a := by
  have hrecord := toBankParams_evaluate hvalid
  rw [ha.powerOfTwo.clampActive_eq] at hrecord
  unfold RefineState.retryArgs
  rw [hrecord, ← ha.internalSenseAmp, ← ha.memoryType]

/-- Every bank of the refinement is one of the candidates, and its sensing scheme was
supported with the basic wires. -/
theorem BankCall.mem (hargs : ∀ a ∈ args, a.Tried settings memoryType) {l g : Wire}
    {a : BankParams}
    (h : BankCall models settings memoryType cell localWire globalWire args l g a) :
    a ∈ args ∧ (g = globalWire ∨
      a.Sensed cell.memCellType globalWire.wireRepeaterType settings.routingMode) := by
  induction h with
  | candidate h => exact ⟨by rw [h]; exact List.mem_append_right _ List.mem_cons_self, .inl rfl⟩
  | retry l' g' _ h hvalid ih =>
      obtain ⟨hmem, hsensed⟩ := ih
      rw [(hargs _ hmem).retryArgs hvalid]
      refine ⟨hmem, .inr ?_⟩
      rcases hsensed with rfl | hsensed
      · rw [toBank_evaluate_of_valid hvalid] at hvalid
        exact sensed_of_valid hvalid
      · exact hsensed

/-- The calls of a phase are among those of the closed form for its candidates. -/
theorem matCalls_of_candidates {P : MatParams → Prop}
    (hargs : ∀ a ∈ args, a.Tried settings memoryType)
    (hall : ∀ a ∈ args,
      a.Sensed cell.memCellType globalWire.wireRepeaterType settings.routingMode →
        ∀ q matParams, a.matParamsWithoutHtree cell.memCellType = some (q, matParams) →
          0 < matParams.effectiveAddressBit → P matParams) :
    MatCalls P models settings memoryType cell localWire globalWire args := by
  intro l g a h
  dsimp only
  intro haddress
  obtain ⟨hmem, hwire⟩ := h.mem hargs
  obtain ⟨hsensed, q, hcall⟩ := (hargs a hmem).powerOfTwo.exists_matCall haddress
  refine hall a hmem ?_ q _ hcall haddress
  rcases hwire with rfl | hbasic
  · exact hsensed
  · exact hbasic

/-- In a phase that does not exit, every candidate is called. -/
theorem MatCalls.candidate {P : MatParams → Prop} {a q : BankParams} {matParams : MatParams}
    (hcalls : MatCalls P models settings memoryType cell localWire globalWire args)
    (hverified : CapacityVerified models settings cell localWire globalWire args) (ha : a ∈ args)
    (htried : a.Tried settings memoryType)
    (hsensed : a.Sensed cell.memCellType globalWire.wireRepeaterType settings.routingMode)
    (hcall : a.matParamsWithoutHtree cell.memCellType = some (q, matParams))
    (haddress : 0 < matParams.effectiveAddressBit) : P matParams := by
  have hmat := htried.powerOfTwo.toMatParams_mat (models.electrical localWire globalWire)
    hsensed hcall haddress (htried.numColumnSelected_pos hcall)
  obtain ⟨tried, rest, hsplit⟩ := List.append_of_mem ha
  have hbefore : CapacityVerified models settings cell localWire globalWire tried := by
    intro b hb
    apply hverified b
    rw [hsplit]
    exact List.mem_append_left _ hb
  have hP := hcalls localWire globalWire a (.candidate hsplit hbefore)
  dsimp only at hP
  rw [hmat] at hP
  exact hP haddress

/-- Circuit models that reject every subarray. -/
def Models.rejecting : Models K where
  vdd := 1
  electrical := fun _ _ =>
    { subArrayInvalid := fun _ => true
      globalSenseAmpInvalid := fun _ _ _ => true }
  aspectRatioIllegal := fun _ _ _ => true
  measures := fun _ _ _ _ => .fresh

/-- Where no bank is valid, no phase exits. -/
theorem capacityVerified_rejecting (hargs : ∀ a ∈ args, a.Tried settings memoryType) :
    CapacityVerified .rejecting settings cell localWire globalWire args := by
  intro a ha
  cases hinvalid : (evaluate .rejecting settings cell localWire globalWire a).invalid with
  | true => exact .inl rfl
  | false =>
      rw [toBank_evaluate_of_valid hinvalid] at hinvalid
      have hp := (hargs a ha).powerOfTwo
      obtain ⟨q, matParams, -, hlegal, -⟩ := initializeBank_valid hp.associativity hp.numRowMat
        hp.numColumnMat hp.numActiveMatPerRow hp.numActiveMatPerColumn
        (initializeBank_eq_initializedBank _ _ _ _ a) hinvalid
      cases hlegal.subarray

/-- With the circuit models free, a condition on the global wire decides if it is enough for
all of them and what those that exit nowhere need. -/
theorem forall_matCalls_iff {P : MatParams → Prop} {Q : Wire → Prop}
    (hargs : ∀ a ∈ args, a.Tried settings memoryType)
    (henough : ∀ {models : Models K} {localWire globalWire : Wire}, Q globalWire →
      MatCalls P models settings memoryType cell localWire globalWire args)
    (hneeded : ∀ {models : Models K} {localWire globalWire : Wire},
      CapacityVerified models settings cell localWire globalWire args →
        MatCalls P models settings memoryType cell localWire globalWire args → Q globalWire)
    (wires : Except Halt (Wire × Wire)) :
    (∀ (models : Models K) (localWire globalWire : Wire), wires = .ok (localWire, globalWire) →
        MatCalls P models settings memoryType cell localWire globalWire args) ↔
      ∀ localWire globalWire, wires = .ok (localWire, globalWire) → Q globalWire := by
  constructor
  · intro hcalls localWire globalWire hwires
    exact hneeded (capacityVerified_rejecting hargs) (hcalls .rejecting localWire globalWire hwires)
  · intro hQ models localWire globalWire hwires
    exact henough (hQ localWire globalWire hwires)

end Phase

/-! ## The candidate with all address bits -/

/-- One mat of one subarray, and `2 ^ i` for each mux degree. -/
def Candidate.single (i : ℕ) (areaOptimizationLevel : BufferDesignTarget) : Candidate where
  numRowMat := 1
  numColumnMat := 1
  numActiveMatPerRow := 1
  numActiveMatPerColumn := 1
  numRowSubarray := 1
  numColumnSubarray := 1
  numActiveSubarrayPerRow := 1
  numActiveSubarrayPerColumn := 1
  muxSenseAmp := 2 ^ i
  muxOutputLev1 := 2 ^ i
  muxOutputLev2 := 2 ^ i
  numRowPerSet := 1
  areaOptimizationLevel := areaOptimizationLevel

theorem Candidate.exists_single_inSpace {space : SearchSpace} {associativity : ℤ}
    (hspace : space.IsDefault) (hassoc : 1 ≤ associativity) {i : ℕ} (hi : i ≤ 8) :
    ∃ level, (single i level).InSpace space associativity := by
  obtain ⟨level, h⟩ := Candidate.exists_allActive_inSpace hspace hassoc 0
  have hmux : (⟨1, 256⟩ : Range).Visits (2 ^ i) := Range.visits_two_pow (j := 8) rfl rfl hi
  exact ⟨level, { h with
    muxSenseAmp := hspace.muxSenseAmp ▸ hmux
    muxOutputLev1 := hspace.muxOutputLev1 ▸ hmux
    muxOutputLev2 := hspace.muxOutputLev2 ▸ hmux }⟩

theorem Candidate.single_inSpace_reduced {associativity : ℤ} (hassoc : 1 ≤ associativity) :
    (single 0 .latencyFirst).InSpace .reduced associativity where
  numRowMat := ⟨by decide, by decide, 0, rfl⟩
  numColumnMat := ⟨by decide, by decide, 0, rfl⟩
  numActiveMatPerRow := ⟨by decide, by decide, 0, rfl⟩
  numActiveMatPerColumn := ⟨by decide, by decide, 0, rfl⟩
  numRowSubarray := ⟨by decide, by decide, 0, rfl⟩
  numColumnSubarray := ⟨by decide, by decide, 0, rfl⟩
  numActiveSubarrayPerRow := ⟨by decide, by decide, 0, rfl⟩
  numActiveSubarrayPerColumn := ⟨by decide, by decide, 0, rfl⟩
  muxSenseAmp := ⟨by decide, by decide, 0, rfl⟩
  muxOutputLev1 := ⟨by decide, by decide, 0, rfl⟩
  muxOutputLev2 := ⟨by decide, by decide, 0, rfl⟩
  numRowPerSet := ⟨le_rfl, le_min le_rfl hassoc, 0, rfl⟩
  areaOptimizationLevel := ⟨0, by decide, rfl⟩

/-- Such a candidate is called with all address bits of its bank. -/
theorem Candidate.single_call (memCellType : MemCellType) {spec : ArraySpec}
    {internalSensing : Bool} {memoryType : MemoryType} {i : ℕ} {level : BufferDesignTarget}
    (hassoc : spec.associativity.isPowerOfTwo) (htype : memoryType ≠ .cam)
    (hp : ((single i level).toBankParams spec internalSensing memoryType).PowerOfTwo) :
    ∃ q matParams, ((single i level).toBankParams spec internalSensing
        memoryType).matParamsWithoutHtree memCellType = some (q, matParams) ∧
      matParams.effectiveAddressBit = spec.numAddressBit ∧
      matParams.muxDegree = 2 ^ (3 * i) * if memoryType = .data then spec.associativity else 1 := by
  obtain ⟨a, ha⟩ : ∃ a, a = (single i level).toBankParams spec internalSensing memoryType :=
    ⟨_, rfl⟩
  have hways := Nat.pos_of_isPowerOfTwo hassoc
  obtain ⟨numDataBit, hrouted⟩ : ∃ numDataBit,
      a.routedWithoutHtree = some (numDataBit, spec.associativity) := by
    rw [ha]
    unfold BankParams.routedWithoutHtree
    cases memoryType with
    | data => exact ⟨_, if_neg (by simpa [toBankParams, single] using hways.ne')⟩
    | tag =>
        refine ⟨spec.blockSize, ?_⟩
        simpa [toBankParams, single] using hways.ne'
    | cam => exact absurd rfl htype
  obtain ⟨q, matParams, hcall⟩ :
      ∃ q matParams, a.matParamsWithoutHtree memCellType = some (q, matParams) := by
    unfold BankParams.matParamsWithoutHtree
    rw [hrouted]
    exact ⟨_, _, rfl⟩
  rw [← ha] at hp ⊢
  have hcalled := hp.matCalled hcall
  refine ⟨q, matParams, hcall, ?_, ?_⟩
  · unfold MatParams.effectiveAddressBit
    rw [hcalled.addressBit, hcalled.gating, BankParams.numAddressBitRouteToMat,
      BankParams.numAddressForGating, ha]
    simp [toBankParams, single, BankParams.numAddressBit, ArraySpec.numAddressBit]
  · rw [hcalled.muxDegree_eq, ha]
    have hdegree : 2 ^ i * 2 ^ i * 2 ^ i = 2 ^ (3 * i) := by ring
    cases memoryType with
    | data => simp [toBankParams, single, BankParams.muxDegree, BankParams.numWayPerRow, hdegree]
    | tag => simp [toBankParams, single, BankParams.muxDegree, BankParams.numWayPerRow, hdegree]
    | cam => exact absurd rfl htype

/-! ## The candidates of both phases -/

/-- The arguments of all tag candidates, in the order of the search. -/
def InputParameter.tagCandidates (ip : InputParameter K) : Except Halt (List BankParams) := do
  let candidates ← orHalt .endless (bigFor ip.reduceSearchSize.toSearchSpace ip.associativity)
  .ok (candidates.filterMap (Candidate.tagArgs ip.toSettings))

/-- The tag phase searches these candidates. -/
theorem tagPhase_eq (models : Models K) (ip : InputParameter K) (cell : MemCell K) :
    tagPhase models ip cell = (do
      let (localWire, globalWire) ← ip.reduceSearchSize.initialBasicWire
      let args ← ip.tagCandidates
      let s ← searchPass models ip.toSettings localWire globalWire (fun _ => true) args
        { toBestResults := .fresh, cell := cell }
      .ok (refineWires models ip.reduceSearchSize .tag localWire globalWire s)) := by
  unfold tagPhase InputParameter.tagCandidates
  dsimp only
  apply bind_congr
  intro wires
  rw [bind_assoc]
  rfl

section Configured

variable {ip₀ ip : InputParameter K} {memCellType : MemCellType} {args : List BankParams}

/-- A data candidate of the default space. -/
structure BankParams.DataTried (settings : Settings K) (spec : ArraySpec) (a : BankParams) :
    Prop where
  tried : a.Tried settings .data
  blockSize : a.blockSize = spec.blockSize
  numAddressBit : a.numAddressBit = spec.numAddressBit
  associativity : a.associativity = spec.associativity
  muxDegree : a.muxDegree ≤ 256 * 256 * 256
  numRowPerSet : ∀ bits, a.routedWithoutHtree = some bits → a.numRowPerSet = 1

omit [Field K] [LinearOrder K] in
/-- The data candidates of a default space.  Those of them that distribute their ways
legally have one row for a set. -/
theorem dataCandidates_tried (hconstraint : ip₀.applyConstraint memCellType = some ip)
    (hspace : ip.toSearchSpace.IsDefault) (hargs : ip.dataCandidates memCellType = .ok args) :
    ∀ a ∈ args, a.DataTried ip.toSettings (dataArray ip.toSettings memCellType) := by
  intro a ha
  have hdefault := InputParameter.dataSpace_isDefault hspace
  obtain ⟨hassoc, hone, -⟩ := dataArray_cases hconstraint
  obtain ⟨args', hargs', hmem⟩ :=
    InputParameter.enumerates_dataCandidates hdefault.powersOfTwo.positive memCellType
  rw [hargs] at hargs'
  obtain rfl := Except.ok.inj hargs'
  obtain ⟨c, hc, hguard, rfl⟩ := (hmem a).1 ha
  have hp := hc.powerOfTwo hdefault.powersOfTwo (dataArray ip.toSettings memCellType) hassoc
    ip.internalSensing .data
  have hmux₀ : c.muxSenseAmp ≤ 256 := by
    have hle := hc.muxSenseAmp.le
    rw [hdefault.muxSenseAmp] at hle
    exact Int.ofNat_le.1 hle
  have hmux₁ : c.muxOutputLev1 ≤ 256 := by
    have hle := hc.muxOutputLev1.le
    rw [hdefault.muxOutputLev1] at hle
    exact Int.ofNat_le.1 hle
  have hmux₂ : c.muxOutputLev2 ≤ 256 := by
    have hle := hc.muxOutputLev2.le
    rw [hdefault.muxOutputLev2] at hle
    exact Int.ofNat_le.1 hle
  refine ⟨⟨hp, rfl, rfl, ?_⟩, rfl, rfl, rfl, ?_, fun bits hbits => ?_⟩
  · unfold BankParams.numPartition
    rw [c.numActive_toBankParams]
    exact Nat.pos_of_ne_zero hguard
  · exact Nat.mul_le_mul (Nat.mul_le_mul hmux₀ hmux₁) hmux₂
  · refine le_antisymm ?_ hc.numRowPerSet.pos
-- there is one way, or the access mode asks for one row
    rcases hone with hone | hmode
    · have hle := ((hp.routedWithoutHtree hbits).2).1
      exact hle.trans_eq hone
    · have hbound := hc.numRowPerSet.le.trans (min_le_left _ _)
      unfold InputParameter.dataSpace at hbound
      rw [if_pos hmode] at hbound
      exact Int.ofNat_le.1 hbound

omit [Field K] [LinearOrder K] in
/-- The candidate with all address bits is tried, if the array has a block. -/
theorem exists_single_mem (hconstraint : ip₀.applyConstraint memCellType = some ip)
    (hspace : ip.toSearchSpace.IsDefault) (hargs : ip.dataCandidates memCellType = .ok args)
    (hblock : 0 < (dataArray ip.toSettings memCellType).blockSize) {i : ℕ} (hi : i ≤ 8) :
    ∃ level, (Candidate.single i level).toBankParams (dataArray ip.toSettings memCellType)
      ip.internalSensing .data ∈ args := by
  have hdefault := InputParameter.dataSpace_isDefault hspace
  obtain ⟨hpow, -⟩ := InputParameter.applyConstraint_eq_some hconstraint
  obtain ⟨args', hargs', hmem⟩ :=
    InputParameter.enumerates_dataCandidates hdefault.powersOfTwo.positive memCellType
  rw [hargs] at hargs'
  obtain rfl := Except.ok.inj hargs'
  obtain ⟨level, hc⟩ := Candidate.exists_single_inSpace hdefault
    (one_le_of_isPowerOfTwo_toNat hpow) hi
  refine ⟨level, (hmem _).2 ⟨_, hc, ?_, rfl⟩⟩
  show (dataArray ip.toSettings memCellType).blockSize / 1 ≠ 0
  rw [Nat.div_one]
  exact hblock.ne'

omit [Field K] [LinearOrder K] in
/-- The tag candidates, whose mux degrees are at most 64 each. -/
theorem tagCandidates_tried (hconstraint : ip₀.applyConstraint memCellType = some ip) :
    ∃ args, ip.tagCandidates = .ok args ∧
      (∀ a ∈ args, a.Tried ip.toSettings .tag ∧
        a.numAddressBit =
          log2RoundedRatio (ip.capacity * 8 / ip.wordWidth) ip.associativity.toNat ∧
        a.muxDegree ≤ 64 * 64 * 64) ∧
      ∃ spec : ArraySpec, spec.associativity = ip.associativity.toNat ∧
        spec.numAddressBit =
          log2RoundedRatio (ip.capacity * 8 / ip.wordWidth) ip.associativity.toNat ∧
        (Candidate.single 0 .latencyFirst).toBankParams spec ip.internalSensing .tag ∈ args := by
  obtain ⟨hassoc, -⟩ := InputParameter.applyConstraint_eq_some hconstraint
  obtain ⟨cs, hcs, hmem⟩ :=
    enumerates_bigFor SearchSpace.powersOfTwo_reduced.positive ip.associativity
  have hcandidates : ip.tagCandidates = .ok (cs.filterMap (Candidate.tagArgs ip.toSettings)) := by
    have hspace : bigFor ip.reduceSearchSize.toSearchSpace ip.associativity = some cs := hcs
    unfold InputParameter.tagCandidates
    rw [hspace]
    rfl
-- rounding the block up does not change the address bits
  have hbits {blockSize : ℕ} (hblock : 0 < blockSize) :
      log2RoundedRatio (ip.capacity * 8 / ip.wordWidth * blockSize)
          (blockSize * ip.associativity.toNat) =
        log2RoundedRatio (ip.capacity * 8 / ip.wordWidth) ip.associativity.toNat := by
    rw [mul_comm blockSize]
    exact log2RoundedRatio_mul_right hblock _ _
  refine ⟨_, hcandidates, fun a ha => ?_, ?_⟩
  · obtain ⟨c, hc, hargs⟩ := List.mem_filterMap.1 ha
    have hspace := (hmem c).1 hc
    obtain ⟨blockSize, hblock, hdvd, rfl⟩ := Candidate.tagArgs_eq_some hargs
    refine ⟨⟨hspace.powerOfTwo SearchSpace.powersOfTwo_reduced _ hassoc _ _, rfl, rfl, ?_⟩,
      hbits hblock, ?_⟩
    · unfold BankParams.numPartition
      rw [c.numActive_toBankParams]
      exact Nat.div_pos (Nat.le_of_dvd hblock hdvd) (Nat.pos_of_dvd_of_pos hdvd hblock)
    · exact Nat.mul_le_mul (Nat.mul_le_mul (Int.ofNat_le.1 hspace.muxSenseAmp.le)
        (Int.ofNat_le.1 hspace.muxOutputLev1.le)) (Int.ofNat_le.1 hspace.muxOutputLev2.le)
  · have hc := (hmem _).2
      (Candidate.single_inSpace_reduced (one_le_of_isPowerOfTwo_toNat hassoc))
    obtain ⟨a, ha⟩ : ∃ a, (Candidate.single 0 .latencyFirst).tagArgs ip.toSettings = some a := by
      unfold Candidate.tagArgs
      dsimp only
      rw [if_neg]
      · exact ⟨_, rfl⟩
      · show _ / 1 ≠ 0
        rw [Nat.div_one]
        exact Nat.succ_ne_zero _
    obtain ⟨blockSize, hblock, -, rfl⟩ := Candidate.tagArgs_eq_some ha
    exact ⟨⟨_, blockSize, _⟩, rfl, hbits hblock, List.mem_filterMap.2 ⟨_, hc, ha⟩⟩

end Configured

/-! ## One call -/

omit [Field K] [LinearOrder K] in
theorem BankParams.Tried.sensed_iff {ip : InputParameter K} {memoryType : MemoryType}
    {memCellType : MemCellType} {a : BankParams} (ha : a.Tried ip.toSettings memoryType)
    (globalWire : Wire) :
    a.Sensed memCellType globalWire.wireRepeaterType ip.routingMode ↔
      ip.Senses memCellType globalWire := by
  unfold BankParams.Sensed InputParameter.Senses
  rw [ha.internalSenseAmp]

/-- What an array passes to its mats in one of the two spaces: at most its own address
bits, and the mux degree of a candidate times the ways that are distributed over the
multiplexers. -/
structure MatParams.Sized (p : MatParams) (memoryType : MemoryType) (numAddressBit : ℤ)
    (numWay degree : ℕ) : Prop where
  memoryType : p.memoryType = memoryType
  addressBit : p.effectiveAddressBit ≤ numAddressBit
  numWay_pos : 0 < numWay
  muxDegree_pos : 0 < p.muxDegree
  muxDegree_le : p.muxDegree ≤ degree * numWay
  dvd_muxDegree : numWay ∣ p.muxDegree
  exactWayRows : p.exactWayRows = 2 ^ p.effectiveAddressBit.toNat * numWay
  numWay : p.memoryType = .data → p.numWay = numWay

namespace MatParams.Sized

variable {p : MatParams} {memoryType : MemoryType} {numAddressBit : ℤ} {numWay degree : ℕ}

theorem muxExact_iff (h : p.Sized memoryType numAddressBit numWay degree) :
    p.MuxExact ↔ p.muxDegree < 2 ^ 31 :=
  MatParams.muxExact_iff h.muxDegree_pos

/-- The ways are divided out, so the rows are no more than the addresses. -/
theorem numRow_lt (h : p.Sized memoryType numAddressBit numWay degree)
    (haddress : p.effectiveAddressBit ≤ 30) : p.numRow < 2 ^ 31 := by
  obtain ⟨d, hd⟩ := h.dvd_muxDegree
  have hpow : 2 ^ p.effectiveAddressBit.toNat ≤ 2 ^ 30 :=
    Nat.pow_le_pow_right (by norm_num) (by omega)
  have hrow : p.numRow ≤ 2 ^ p.effectiveAddressBit.toNat := by
    rw [MatParams.numRow_eq, h.exactWayRows, hd, mul_comm numWay d,
      Nat.mul_div_mul_right _ _ h.numWay_pos]
    exact Nat.div_le_self _ _
  omega

/-- The rows are exact as long as the mux divisor is, and with 128 ways also if the
wrapped divisor leaves no row anyway. -/
theorem rowsExact (h : p.Sized memoryType numAddressBit numWay degree)
    (haddress : p.effectiveAddressBit ≤ 30)
    (hways : degree * numWay < 2 ^ 31 ∨
      degree * numWay = 2 ^ 31 ∧ numWay = 128 ∧ p.effectiveAddressBit ≤ 23)
    (undefinedShift : Int32) : p.RowsExact undefinedShift := by
  have hle := h.muxDegree_le
  have hway : p.memoryType = .data → p.numWay < 2 ^ 31 := by
    intro hdata
    rw [h.numWay hdata]
    rcases hways with hlt | ⟨-, hlarge, -⟩
    · have hdegree : 0 < degree := by
        rcases Nat.eq_zero_or_pos degree with hzero | hpos
        · have hmux := h.muxDegree_pos
          rw [hzero, zero_mul] at hle
          omega
        · exact hpos
      exact (Nat.le_mul_of_pos_left numWay hdegree).trans_lt hlt
    · omega
  by_cases hlt : p.muxDegree < 2 ^ 31
  · exact .of_muxExact undefinedShift haddress hway h.muxDegree_pos hlt (h.numRow_lt haddress)
  · obtain hsmall | ⟨hdegree, hlarge, hbits⟩ := hways
    · omega
    · have hpow : 2 ^ p.effectiveAddressBit.toNat ≤ 2 ^ 23 :=
        Nat.pow_le_pow_right (by norm_num) (by omega)
      rw [MatParams.rowsExact_iff_of_muxDegree undefinedShift haddress hway (by omega),
        h.exactWayRows, hlarge]
      omega

end MatParams.Sized

section Call

variable {settings : Settings K} {memCellType : MemCellType} {a q : BankParams}
  {matParams : MatParams}

omit [Field K] [LinearOrder K] in
/-- The mat of a data array with one row for a set: all ways are distributed over the
multiplexers. -/
theorem BankParams.Tried.sized_data {degree : ℕ} (ha : a.Tried settings .data)
    (hset : a.numRowPerSet = 1) (hdegree : a.muxDegree ≤ degree)
    (hcall : a.matParamsWithoutHtree memCellType = some (q, matParams)) :
    matParams.Sized .data a.numAddressBit a.associativity degree := by
  have hcalled := ha.powerOfTwo.matCalled hcall
  obtain ⟨htype, hway, -⟩ := hcalled.data ha.memoryType
  have hmux : matParams.muxDegree = a.muxDegree * a.associativity := by
    rw [hcalled.muxDegree_eq]
    simp only [BankParams.numWayPerRow, ha.memoryType, hset, Nat.div_one]
  refine ⟨htype, ha.powerOfTwo.effectiveAddressBit_le hcall,
    Nat.pos_of_isPowerOfTwo ha.powerOfTwo.associativity,
    Nat.pos_of_isPowerOfTwo hcalled.isPowerOfTwo_muxDegree, ?_, ?_, ?_, fun _ => hway⟩
  · rw [hmux]
    exact Nat.mul_le_mul_right _ hdegree
  · exact ⟨a.muxDegree, hmux.trans (mul_comm _ _)⟩
  · unfold MatParams.exactWayRows
    rw [if_pos htype, hway]

omit [Field K] [LinearOrder K] in
/-- The mat of a tag array: only the multiplexers of the candidate divide the rows. -/
theorem BankParams.Tried.sized_tag {degree : ℕ} (ha : a.Tried settings .tag)
    (hdegree : a.muxDegree ≤ degree)
    (hcall : a.matParamsWithoutHtree memCellType = some (q, matParams)) :
    matParams.Sized .tag a.numAddressBit 1 degree := by
  have hcalled := ha.powerOfTwo.matCalled hcall
  have htype : matParams.memoryType = .tag := hcalled.memoryType_eq.trans ha.memoryType
  have hmux : matParams.muxDegree = a.muxDegree := by
    rw [hcalled.muxDegree_eq]
    simp only [BankParams.numWayPerRow, ha.memoryType, mul_one]
  refine ⟨htype, ha.powerOfTwo.effectiveAddressBit_le hcall, Nat.one_pos,
    Nat.pos_of_isPowerOfTwo hcalled.isPowerOfTwo_muxDegree, ?_, one_dvd _, ?_, fun hdata => ?_⟩
  · rw [hmux, mul_one]
    exact hdegree
  · unfold MatParams.exactWayRows
    rw [htype, mul_one]
    rfl
  · rw [htype] at hdata
    cases hdata

end Call

/-! ## The data phase -/

/-- The data array gets to `Mat::Initialize` with address bits: its sensing scheme is
supported, it has a block, and its bank has address bits. -/
structure ArraySpec.Called (spec : ArraySpec) (ip : InputParameter K) (memCellType : MemCellType)
    (globalWire : Wire) : Prop where
  senses : ip.Senses memCellType globalWire
  blockSize : 0 < spec.blockSize
  numAddressBit : 0 < spec.numAddressBit

/-- The array has at most 30 address bits, and ways that leave the divisor of its rows
exact: up to 64, or 128 with at most 23 address bits. -/
structure ArraySpec.RowsFit (spec : ArraySpec) : Prop where
  numAddressBit : spec.numAddressBit ≤ 30
  associativity :
    spec.associativity ≤ 64 ∨ spec.associativity = 128 ∧ spec.numAddressBit ≤ 23

section DataPhase

variable {models : Models K} {ip₀ ip : InputParameter K} {cell : MemCell K}
  {localWire globalWire : Wire} {args : List BankParams} {P : MatParams → Prop}

/-- The calls of a data phase, if its array gets to them. -/
theorem matCalls_data (hconstraint : ip₀.applyConstraint cell.memCellType = some ip)
    (hspace : ip.toSearchSpace.IsDefault)
    (hargs : ip.dataCandidates cell.memCellType = .ok args)
    (h : (dataArray ip.toSettings cell.memCellType).Called ip cell.memCellType globalWire →
      ∀ p : MatParams, p.Sized .data (dataArray ip.toSettings cell.memCellType).numAddressBit
        (dataArray ip.toSettings cell.memCellType).associativity (256 * 256 * 256) → P p) :
    MatCalls P models ip.toSettings .data cell localWire globalWire args := by
  have htried := dataCandidates_tried hconstraint hspace hargs
  refine matCalls_of_candidates (fun a ha => (htried a ha).tried) ?_
  intro a ha hsensed q matParams hcall haddress
  have hcandidate := htried a ha
  obtain ⟨numDataBit, numWay, hrouted, -⟩ := BankParams.matCall_eq_some hcall
  have hsized := hcandidate.tried.sized_data (hcandidate.numRowPerSet _ hrouted)
    hcandidate.muxDegree hcall
  rw [hcandidate.numAddressBit, hcandidate.associativity] at hsized
  refine h ⟨(hcandidate.tried.sensed_iff globalWire).1 hsensed, ?_,
    haddress.trans_le hsized.addressBit⟩ matParams hsized
  rw [← hcandidate.blockSize]
  exact Nat.pos_of_ne_zero fun hzero =>
    hcandidate.tried.partition.ne' (by rw [hzero, Nat.zero_div])

/-- What holds of all calls of a data phase that does not exit holds of those with all
address bits and equal mux degrees. -/
theorem MatCalls.single (h : MatCalls P models ip.toSettings .data cell localWire globalWire args)
    (hverified : CapacityVerified models ip.toSettings cell localWire globalWire args)
    (hconstraint : ip₀.applyConstraint cell.memCellType = some ip)
    (hspace : ip.toSearchSpace.IsDefault)
    (hargs : ip.dataCandidates cell.memCellType = .ok args)
    (hcalled : (dataArray ip.toSettings cell.memCellType).Called ip cell.memCellType globalWire)
    {i : ℕ} (hi : i ≤ 8) :
    ∃ p, P p ∧ p.effectiveAddressBit = (dataArray ip.toSettings cell.memCellType).numAddressBit ∧
      p.muxDegree = 2 ^ (3 * i) * (dataArray ip.toSettings cell.memCellType).associativity ∧
      p.Sized .data (dataArray ip.toSettings cell.memCellType).numAddressBit
        (dataArray ip.toSettings cell.memCellType).associativity (256 * 256 * 256) := by
  have htried := dataCandidates_tried hconstraint hspace hargs
  obtain ⟨level, hmem⟩ := exists_single_mem hconstraint hspace hargs hcalled.blockSize hi
  have hsingle := htried _ hmem
  obtain ⟨hassoc, -⟩ := dataArray_cases hconstraint
  obtain ⟨q, matParams, hcall, haddress, hmux⟩ :=
    Candidate.single_call cell.memCellType hassoc (by decide) hsingle.tried.powerOfTwo
  refine ⟨matParams, ?_, haddress, hmux,
    hsingle.tried.sized_data rfl hsingle.muxDegree hcall⟩
  refine h.candidate hverified hmem hsingle.tried
    ((hsingle.tried.sensed_iff globalWire).2 hcalled.senses) hcall ?_
  rw [haddress]
  exact hcalled.numAddressBit

/-- Up to 64 ways the product of the mux degrees stays in the range of an `int`. -/
theorem matCalls_muxExact (hconstraint : ip₀.applyConstraint cell.memCellType = some ip)
    (hspace : ip.toSearchSpace.IsDefault)
    (hargs : ip.dataCandidates cell.memCellType = .ok args)
    (hways : (dataArray ip.toSettings cell.memCellType).Called ip cell.memCellType globalWire →
      (dataArray ip.toSettings cell.memCellType).associativity ≤ 64) :
    MatCalls MatParams.MuxExact models ip.toSettings .data cell localWire globalWire args := by
  refine matCalls_data hconstraint hspace hargs fun hcalled p hsized => ?_
  have hle := hsized.muxDegree_le
  have hsmall := hways hcalled
  rw [hsized.muxExact_iff]
  omega

/-- The candidate with the largest mux degrees has room for 64 ways. -/
theorem MatCalls.associativity_le
    (h : MatCalls MatParams.MuxExact models ip.toSettings .data cell localWire globalWire args)
    (hverified : CapacityVerified models ip.toSettings cell localWire globalWire args)
    (hconstraint : ip₀.applyConstraint cell.memCellType = some ip)
    (hspace : ip.toSearchSpace.IsDefault)
    (hargs : ip.dataCandidates cell.memCellType = .ok args)
    (hcalled : (dataArray ip.toSettings cell.memCellType).Called ip cell.memCellType globalWire) :
    (dataArray ip.toSettings cell.memCellType).associativity ≤ 64 := by
  obtain ⟨p, hexact, -, hmux, hsized⟩ :=
    h.single hverified hconstraint hspace hargs hcalled (i := 8) le_rfl
  rw [hsized.muxExact_iff, hmux] at hexact
  obtain ⟨w, hw⟩ := (dataArray_cases hconstraint).1
  rw [hw] at hexact ⊢
  rw [← pow_add] at hexact
  -- 24 bits of multiplexers leave seven to the ways
  have hbits := (Nat.pow_lt_pow_iff_right (by norm_num)).1 hexact
  exact (Nat.pow_le_pow_right (by norm_num) (by omega)).trans_eq (by norm_num : 2 ^ 6 = 64)

/-- With few address bits and ways the rows are counted exactly. -/
theorem matCalls_rowsExact (hconstraint : ip₀.applyConstraint cell.memCellType = some ip)
    (hspace : ip.toSearchSpace.IsDefault)
    (hargs : ip.dataCandidates cell.memCellType = .ok args)
    (hways : (dataArray ip.toSettings cell.memCellType).Called ip cell.memCellType globalWire →
      (dataArray ip.toSettings cell.memCellType).RowsFit) :
    MatCalls MatParams.AlwaysRowsExact models ip.toSettings .data
      cell localWire globalWire args := by
  refine matCalls_data hconstraint hspace hargs fun hcalled p hsized => ?_
  obtain ⟨hbits, hassoc⟩ := hways hcalled
  apply hsized.rowsExact (hsized.addressBit.trans hbits)
  rcases hassoc with hsmall | ⟨hlarge, hfew⟩
  · exact .inl (by omega)
  · exact .inr ⟨by omega, hlarge, hsized.addressBit.trans hfew⟩

/-- The candidates with the smallest and with the largest mux degrees bound the address
bits and the ways. -/
theorem MatCalls.rowsFit
    (h : MatCalls MatParams.AlwaysRowsExact models ip.toSettings
      .data cell localWire globalWire args)
    (hverified : CapacityVerified models ip.toSettings cell localWire globalWire args)
    (hconstraint : ip₀.applyConstraint cell.memCellType = some ip)
    (hspace : ip.toSearchSpace.IsDefault)
    (hargs : ip.dataCandidates cell.memCellType = .ok args)
    (hcalled : (dataArray ip.toSettings cell.memCellType).Called ip cell.memCellType globalWire) :
    (dataArray ip.toSettings cell.memCellType).RowsFit := by
  obtain ⟨p₀, hexact₀, haddress₀, -⟩ :=
    h.single hverified hconstraint hspace hargs hcalled (i := 0) (Nat.zero_le _)
  obtain ⟨p, hexact, haddress, hmux, hsized⟩ :=
    h.single hverified hconstraint hspace hargs hcalled (i := 8) le_rfl
  have hbits := MatParams.addressBit_le_of_rowsExact (hexact₀ 0)
  rw [haddress₀] at hbits
  refine ⟨hbits, ?_⟩
  rw [← haddress] at hbits ⊢
  obtain ⟨w, hw⟩ := (dataArray_cases hconstraint).1
  rw [hw] at hmux hsized ⊢
  rw [← pow_add] at hmux
  rcases lt_trichotomy w 7 with hlt | rfl | hgt
  · exact .inl ((Nat.pow_le_pow_right (by norm_num) (by omega)).trans_eq
      (by norm_num : 2 ^ 6 = 64))
  · -- the product is the most negative number
    have hrows := (MatParams.rowsExact_iff_of_muxDegree 0 hbits
      (fun hdata => by rw [hsized.numWay hdata]; norm_num) hmux).1 (hexact 0)
    rw [hsized.exactWayRows, ← pow_add] at hrows
    have hpow := (Nat.pow_lt_pow_iff_right (by norm_num)).1 hrows
    exact .inr ⟨rfl, by omega⟩
  · -- the product is zero
    have hzero : p.muxProduct = 0 := by
      apply MatParams.muxProduct_eq_zero_iff.2
      rw [hmux]
      exact pow_dvd_pow 2 (by omega)
    exact absurd hzero (MatParams.muxProduct_ne_zero_of_rowsExact (hexact 0))

end DataPhase

/-! ## The tag phase -/

/-- The address bits of a tag array. -/
def Settings.numTagAddressBit (settings : Settings K) : ℤ :=
  log2RoundedRatio (settings.capacity * 8 / settings.wordWidth) settings.associativity.toNat

section TagPhase

variable {models : Models K} {ip₀ ip : InputParameter K} {cell : MemCell K}
  {localWire globalWire : Wire} {tags : List BankParams} {P : MatParams → Prop}

/-- The calls of a tag phase, if its sensing scheme is supported. -/
theorem matCalls_tag (hconstraint : ip₀.applyConstraint cell.memCellType = some ip)
    (htags : ip.tagCandidates = .ok tags)
    (h : ip.Senses cell.memCellType globalWire →
      ∀ p : MatParams, p.Sized .tag ip.numTagAddressBit 1 (64 * 64 * 64) → P p) :
    MatCalls P models ip.toSettings .tag cell localWire globalWire tags := by
  obtain ⟨tags', htags', htried, -⟩ := tagCandidates_tried hconstraint
  rw [htags] at htags'
  obtain rfl := Except.ok.inj htags'
  refine matCalls_of_candidates (fun a ha => (htried a ha).1) ?_
  intro a ha hsensed q matParams hcall haddress
  obtain ⟨hcandidate, hbits, hmux⟩ := htried a ha
  have hsized := hcandidate.sized_tag hmux hcall
  rw [hbits] at hsized
  exact h ((hcandidate.sensed_iff globalWire).1 hsensed) matParams hsized

/-- A tag phase that does not exit calls a mat with all address bits, if its sensing scheme
is supported. -/
theorem MatCalls.single_tag
    (h : MatCalls P models ip.toSettings .tag cell localWire globalWire tags)
    (hverified : CapacityVerified models ip.toSettings cell localWire globalWire tags)
    (hconstraint : ip₀.applyConstraint cell.memCellType = some ip)
    (htags : ip.tagCandidates = .ok tags) (hsenses : ip.Senses cell.memCellType globalWire)
    (haddress : 0 < ip.numTagAddressBit) :
    ∃ p, P p ∧ p.effectiveAddressBit = ip.numTagAddressBit := by
  obtain ⟨hassoc, -⟩ := InputParameter.applyConstraint_eq_some hconstraint
  obtain ⟨tags', htags', htried, spec, hways, hbits, hmem⟩ := tagCandidates_tried hconstraint
  rw [htags] at htags'
  obtain rfl := Except.ok.inj htags'
  obtain ⟨hsingle, -⟩ := htried _ hmem
  rw [← hways] at hassoc
  obtain ⟨q, matParams, hcall, heffective, -⟩ :=
    Candidate.single_call cell.memCellType hassoc (by decide) hsingle.powerOfTwo
  rw [hbits] at heffective
  refine ⟨matParams, ?_, heffective⟩
  apply h.candidate hverified hmem hsingle ((hsingle.sensed_iff globalWire).2 hsenses) hcall
  rw [heffective]
  exact haddress

/-- The rows of a tag phase that does not exit are counted exactly if and only if its
sensing scheme is unsupported or it has at most 30 address bits. -/
theorem matCalls_tag_rowsExact (hconstraint : ip₀.applyConstraint cell.memCellType = some ip)
    (htags : ip.tagCandidates = .ok tags)
    (hbits : ip.Senses cell.memCellType globalWire → ip.numTagAddressBit ≤ 30) :
    MatCalls MatParams.AlwaysRowsExact models ip.toSettings .tag
      cell localWire globalWire tags := by
  refine matCalls_tag hconstraint htags fun hsenses p hsized => ?_
  exact hsized.rowsExact (hsized.addressBit.trans (hbits hsenses)) (.inl (by norm_num))

theorem MatCalls.numTagAddressBit_le
    (h : MatCalls MatParams.AlwaysRowsExact models ip.toSettings
      .tag cell localWire globalWire tags)
    (hverified : CapacityVerified models ip.toSettings cell localWire globalWire tags)
    (hconstraint : ip₀.applyConstraint cell.memCellType = some ip)
    (htags : ip.tagCandidates = .ok tags) (hsenses : ip.Senses cell.memCellType globalWire) :
    ip.numTagAddressBit ≤ 30 := by
  by_contra hmany
  obtain ⟨p, hexact, haddress⟩ := h.single_tag hverified hconstraint htags hsenses (by omega)
  have hbits := MatParams.addressBit_le_of_rowsExact (hexact 0)
  rw [haddress] at hbits
  exact hmany hbits

end TagPhase

/-! ## Results -/

/-- For a configuration with the default space: the mux divisor is exact in all calls of
`Mat::Initialize` in the data phase, whatever the circuit models, if and only if the data
array does not get to them or has at most 64 ways.  With given circuit models the same
holds if no candidate exits with a capacity violation.  In the calls of the tag phase the
divisor is always exact. -/
theorem mux_divisor_exact_iff (ip₀ ip : InputParameter K) (cell : MemCell K)
    (hconstraint : ip₀.applyConstraint cell.memCellType = some ip)
    (hspace : ip.toSearchSpace.IsDefault) :
    ∃ args tags spec, ip.dataCandidates cell.memCellType = .ok args ∧
      ip.tagCandidates = .ok tags ∧ spec = dataArray ip.toSettings cell.memCellType ∧
      ((∀ (models : Models K) (localWire globalWire : Wire),
          ip.initialBasicWire = .ok (localWire, globalWire) →
            MatCalls MatParams.MuxExact models ip.toSettings .data cell localWire globalWire
              args) ↔
        ∀ localWire globalWire, ip.initialBasicWire = .ok (localWire, globalWire) →
          spec.Called ip cell.memCellType globalWire → spec.associativity ≤ 64) ∧
      (∀ (models : Models K) (localWire globalWire : Wire),
        CapacityVerified models ip.toSettings cell localWire globalWire args →
          (MatCalls MatParams.MuxExact models ip.toSettings .data cell localWire globalWire
              args ↔
            (spec.Called ip cell.memCellType globalWire → spec.associativity ≤ 64))) ∧
      ∀ (models : Models K) (localWire globalWire : Wire),
        MatCalls MatParams.MuxExact models ip.toSettings .tag cell localWire globalWire tags := by
  obtain ⟨args, hargs, -⟩ := InputParameter.enumerates_dataCandidates
    (InputParameter.dataSpace_isDefault hspace).powersOfTwo.positive cell.memCellType
  obtain ⟨tags, htags, -⟩ := tagCandidates_tried hconstraint
  have htried := dataCandidates_tried hconstraint hspace hargs
  have hneeded {models : Models K} {localWire globalWire : Wire}
      (hverified : CapacityVerified models ip.toSettings cell localWire globalWire args)
      (h : MatCalls MatParams.MuxExact models ip.toSettings .data cell localWire globalWire args)
      (hcalled : (dataArray ip.toSettings cell.memCellType).Called ip cell.memCellType globalWire) :
      (dataArray ip.toSettings cell.memCellType).associativity ≤ 64 :=
    h.associativity_le hverified hconstraint hspace hargs hcalled
  have henough {models : Models K} {localWire globalWire : Wire}
      (hways : (dataArray ip.toSettings cell.memCellType).Called ip cell.memCellType globalWire →
        (dataArray ip.toSettings cell.memCellType).associativity ≤ 64) :
      MatCalls MatParams.MuxExact models ip.toSettings .data cell localWire globalWire args :=
    matCalls_muxExact hconstraint hspace hargs hways
  refine ⟨args, tags, _, hargs, htags, rfl,
    forall_matCalls_iff (fun a ha => (htried a ha).tried) henough hneeded _,
    fun models localWire globalWire hverified => ⟨hneeded hverified, henough⟩,
    fun models localWire globalWire => ?_⟩
  refine matCalls_tag hconstraint htags fun _ p hsized => ?_
  have hle := hsized.muxDegree_le
  rw [hsized.muxExact_iff]
  omega

/-- A cache with the default search space, for examples. -/
def InputParameter.cache (capacity wordWidth : ℕ) (associativity : ℤ) : InputParameter K where
  toSettings :=
    { (Settings.new capacity wordWidth .hp "" 300 : Settings K) with
      associativity := associativity }
  toSearchSpace := .restored associativity

/-- The mux divisor is exact in a cache of 16 KB with 64 ways. -/
theorem mux_divisor_exact_cache :
    (InputParameter.cache (16 * 1024) 512 64 : InputParameter ℚ).applyConstraint .sram =
        some (.cache (16 * 1024) 512 64) ∧
      ∃ args, (InputParameter.cache (16 * 1024) 512 64 : InputParameter ℚ).dataCandidates .sram =
          .ok args ∧
        ∀ (models : Models ℚ) (localWire globalWire : Wire),
          (InputParameter.cache (16 * 1024) 512 64 : InputParameter ℚ).initialBasicWire =
            .ok (localWire, globalWire) →
          MatCalls MatParams.MuxExact models (InputParameter.cache (16 * 1024) 512 64).toSettings
            .data (.sram : MemCell ℚ) localWire globalWire args := by
  obtain ⟨args, -, spec, hargs, -, hspec, hexact, -⟩ := mux_divisor_exact_iff
    (.cache (16 * 1024) 512 64 : InputParameter ℚ) (.cache (16 * 1024) 512 64) .sram rfl
    (SearchSpace.isDefault_restored (by decide))
  refine ⟨rfl, args, hargs, hexact.2 fun _ _ _ _ => ?_⟩
  rw [hspec]
  decide

omit [LinearOrder K] in
/-- The data array of a cache with supported sensing is called, as soon as it has two
sets. -/
theorem called_cache {capacity wordWidth : ℕ} {associativity : ℤ} {globalWire : Wire}
    (hblock : 0 < wordWidth)
    (haddress : 0 < (⟨capacity * 8, wordWidth, associativity.toNat⟩ : ArraySpec).numAddressBit) :
    (dataArray (InputParameter.cache capacity wordWidth associativity : InputParameter K).toSettings
      .sram).Called (InputParameter.cache capacity wordWidth associativity : InputParameter K) .sram
        globalWire :=
  ⟨.inl rfl, hblock, haddress⟩

/-- Circuit models that accept everything keep an exact array of SRAM cells. -/
theorem capacityVerified_sram {ip : InputParameter ℚ} {args : List BankParams}
    {localWire globalWire : Wire} (hconstraint : ip.applyConstraint .sram = some ip)
    (hspace : ip.toSearchSpace.IsDefault) (hargs : ip.dataCandidates .sram = .ok args)
    (hexact : (dataArray ip.toSettings .sram).Exact) :
    CapacityVerified (.permissive fun _ _ => .fresh) ip.toSettings (.sram : MemCell ℚ) localWire
      globalWire args :=
  capacityVerified_of_exact _ hconstraint hspace hargs fun _ _ => hexact

/-- In a cache of 32 KB with 128 ways a mux divisor is negative, in one of 64 KB with 256
ways a mux divisor is zero. -/
theorem mux_divisor_overflows_cache :
    (∃ args localWire globalWire,
        (InputParameter.cache (32 * 1024) 512 128 : InputParameter ℚ).applyConstraint .sram =
          some (.cache (32 * 1024) 512 128) ∧
        (InputParameter.cache (32 * 1024) 512 128 : InputParameter ℚ).initialBasicWire =
          .ok (localWire, globalWire) ∧
        (InputParameter.cache (32 * 1024) 512 128 : InputParameter ℚ).dataCandidates .sram =
          .ok args ∧
        ¬ MatCalls (fun p => 0 ≤ p.muxProduct.toInt) (.permissive fun _ _ => .fresh)
          (InputParameter.cache (32 * 1024) 512 128).toSettings .data (.sram : MemCell ℚ)
          localWire globalWire args) ∧
      ∃ args localWire globalWire,
        (InputParameter.cache (64 * 1024) 512 256 : InputParameter ℚ).applyConstraint .sram =
          some (.cache (64 * 1024) 512 256) ∧
        (InputParameter.cache (64 * 1024) 512 256 : InputParameter ℚ).initialBasicWire =
          .ok (localWire, globalWire) ∧
        (InputParameter.cache (64 * 1024) 512 256 : InputParameter ℚ).dataCandidates .sram =
          .ok args ∧
        ¬ MatCalls (fun p => p.muxProduct ≠ 0) (.permissive fun _ _ => .fresh)
          (InputParameter.cache (64 * 1024) 512 256).toSettings .data (.sram : MemCell ℚ)
          localWire globalWire args := by
  constructor
  · have hspace : (InputParameter.cache (32 * 1024) 512 128 :
        InputParameter ℚ).toSearchSpace.IsDefault := SearchSpace.isDefault_restored (by decide)
    obtain ⟨args, hargs, -⟩ := InputParameter.enumerates_dataCandidates
      (InputParameter.dataSpace_isDefault hspace).powersOfTwo.positive .sram
    refine ⟨args, _, _, rfl, rfl, hargs, fun hcalls => ?_⟩
    have hconstraint : (InputParameter.cache (32 * 1024) 512 128 :
        InputParameter ℚ).applyConstraint .sram = some (.cache (32 * 1024) 512 128) := rfl
    have hexact : (dataArray (InputParameter.cache (32 * 1024) 512 128 :
        InputParameter ℚ).toSettings .sram).Exact := ⟨by decide +kernel, by decide +kernel⟩
    obtain ⟨p, hnonneg, -, hmux, -⟩ := hcalls.single
      (capacityVerified_sram hconstraint hspace hargs hexact) hconstraint hspace hargs
      (called_cache (by decide) (by decide +kernel)) (i := 8) le_rfl
    rw [MatParams.toInt_muxProduct_of_eq (hmux.trans (by decide +kernel))] at hnonneg
    exact absurd hnonneg (by decide)
  · have hspace : (InputParameter.cache (64 * 1024) 512 256 :
        InputParameter ℚ).toSearchSpace.IsDefault := SearchSpace.isDefault_restored (by decide)
    obtain ⟨args, hargs, -⟩ := InputParameter.enumerates_dataCandidates
      (InputParameter.dataSpace_isDefault hspace).powersOfTwo.positive .sram
    refine ⟨args, _, _, rfl, rfl, hargs, fun hcalls => ?_⟩
    have hconstraint : (InputParameter.cache (64 * 1024) 512 256 :
        InputParameter ℚ).applyConstraint .sram = some (.cache (64 * 1024) 512 256) := rfl
    have hexact : (dataArray (InputParameter.cache (64 * 1024) 512 256 :
        InputParameter ℚ).toSettings .sram).Exact := ⟨by decide +kernel, by decide +kernel⟩
    obtain ⟨p, hne, -, hmux, -⟩ := hcalls.single
      (capacityVerified_sram hconstraint hspace hargs hexact) hconstraint hspace hargs
      (called_cache (by decide) (by decide +kernel)) (i := 8) le_rfl
    exact hne (MatParams.muxProduct_eq_zero_iff.2 ⟨1, hmux.trans (by decide +kernel)⟩)

/-- The mat of a bank is untouched, or its `Initialize` was called by the closed form or where
the routing arrived. -/
theorem mat_initializedBank_cases (el : Electrical) (memCellType : MemCellType)
    (globalWireRepeaterType : WireRepeaterType) (routingMode : RoutingMode) (a : BankParams) :
    (initializedBank el memCellType globalWireRepeaterType routingMode a).mat = .fresh ∨
      ∃ q matParams,
        (a.clampActive.matParamsWithoutHtree memCellType = some (q, matParams) ∨
          ∃ s, RoutingVars.Arrived a.clampActive a.clampActive.treeLoad s ∧
            a.clampActive.matParamsWithHtree memCellType s = some (q, matParams)) ∧
        (initializedBank el memCellType globalWireRepeaterType routingMode a).mat =
          initializeMat el matParams := by
  have hinit := initializeBank_eq_initializedBank el memCellType globalWireRepeaterType
    routingMode a
  generalize initializedBank el memCellType globalWireRepeaterType routingMode a = b at *
  cases routingMode with
  | nonHTree =>
      obtain ⟨-, -, hfresh⟩ | ⟨-, ⟨-, rfl⟩ | ⟨q, matParams, hmat, ⟨-, rfl⟩ | ⟨-, rfl⟩⟩⟩ :=
        initializeBankWithoutHtree_cases el memCellType globalWireRepeaterType a
          (Option.some.inj hinit)
      · exact .inl hfresh
      · exact .inl rfl
      · exact .inr ⟨q, matParams, .inl hmat, rfl⟩
      · exact .inr ⟨q, matParams, .inl hmat, rfl⟩
  | hTree =>
      obtain ⟨b', hb', rfl⟩ := Option.map_eq_some_iff.1 hinit
      obtain ⟨b'', hb'', hcases⟩ := initializeBankWithHtree_cases el memCellType a
      rw [hb'] at hb''
      obtain rfl := Option.some.inj hb''
      obtain ⟨-, rfl⟩ | ⟨-, ⟨-, rfl⟩ | ⟨s, hs, ⟨-, rfl⟩ | ⟨q, matParams, hmat, rfl⟩⟩⟩ := hcases
      · exact .inl rfl
      · exact .inl rfl
      · exact .inl rfl
      · refine .inr ⟨q, matParams, .inr ⟨s, hs, hmat⟩, ?_⟩
        unfold BankWithHtree.arrived
        split <;> rfl

/-- The mat of a data array holds at most the ways of its bank. -/
theorem numWay_mat_le (el : Electrical) (memCellType : MemCellType)
    (globalWireRepeaterType : WireRepeaterType) (routingMode : RoutingMode) (a : BankParams)
    (hdata : (initializedBank el memCellType globalWireRepeaterType routingMode
      a).mat.memoryType = .data) :
    (initializedBank el memCellType globalWireRepeaterType routingMode a).mat.numWay ≤
      max 1 a.associativity := by
  obtain hfresh | ⟨q, matParams, hcall, hmat⟩ :=
    mat_initializedBank_cases el memCellType globalWireRepeaterType routingMode a
  · rw [hfresh]
    exact Nat.zero_le _
-- the closed form passes the ways on, the tree the power of two it routed
  · obtain ⟨numAddressBit, bits, hbits, hway⟩ : ∃ numAddressBit bits,
        a.clampActive.matCall memCellType numAddressBit bits = some (q, matParams) ∧
          (a.clampActive.memoryType = .data → ∀ numDataBit numWay,
            bits = some (numDataBit, numWay) → numWay ≤ max 1 a.associativity) := by
      obtain hflat | ⟨s, hs, htree⟩ := hcall
      · refine ⟨_, _, hflat, fun htype numDataBit numWay hrouted => ?_⟩
        unfold BankParams.routedWithoutHtree at hrouted
        simp only [htype] at hrouted
        split at hrouted
        · cases hrouted
        · obtain ⟨-, rfl⟩ := Prod.mk.inj (Option.some.inj hrouted)
          exact le_max_right _ _
      · refine ⟨_, _, htree, fun htype numDataBit numWay hrouted => ?_⟩
        unfold BankParams.routedWithHtree at hrouted
        simp only [htype] at hrouted
        split at hrouted
        · cases hrouted
        · obtain ⟨-, rfl⟩ := Prod.mk.inj (Option.some.inj hrouted)
          have hbroadcast : s.numDataBroadcastBitToRoute = a.clampActive.numDataBroadcastBit :=
            hs.carries.broadcastBit
          rw [hbroadcast]
          simp only [BankParams.numDataBroadcastBit, htype]
          rcases Nat.eq_zero_or_pos a.associativity with hzero | hpos
          · show 2 ^ Nat.log 2 a.associativity ≤ _
            rw [hzero]
            exact le_max_left _ _
          · exact (Nat.pow_log_le_self 2 hpos.ne').trans (le_max_right _ _)
    obtain ⟨numDataBit, numWay, hsome, rfl, rfl⟩ := BankParams.matCall_eq_some hbits
    obtain ⟨_, _, _, hexpand⟩ := BankParams.expandDataMux_eq memCellType numWay a.clampActive
    rw [hmat, toMatParams_initializeMat] at hdata ⊢
    refine hway ?_ _ _ hsome
    rw [hexpand] at hdata
    exact hdata

/-- Every bank of a phase has the ways of a candidate. -/
theorem BankCall.exists_candidate {models : Models K} {settings : Settings K}
    {memoryType : MemoryType} {cell : MemCell K} {localWire globalWire l g : Wire}
    {args : List BankParams} {a : BankParams}
    (h : BankCall models settings memoryType cell localWire globalWire args l g a) :
    ∃ c ∈ args, a.associativity = c.associativity := by
  induction h with
  | candidate h => exact ⟨_, by rw [h]; exact List.mem_append_right _ List.mem_cons_self, rfl⟩
  | retry l' g' _ _ hvalid ih =>
      obtain ⟨c, hc, hways⟩ := ih
      refine ⟨c, hc, ?_⟩
      unfold RefineState.retryArgs
      rw [toBankParams_evaluate hvalid]
      exact hways

/-- The candidates of a phase, in any search space. -/
inductive InputParameter.Phase (ip : InputParameter K) (memCellType : MemCellType) :
    MemoryType → List BankParams → Prop
  | data {args : List BankParams} (hargs : ip.dataCandidates memCellType = .ok args) :
      Phase ip memCellType .data args
  | tag {args : List BankParams} (hargs : ip.tagCandidates = .ok args) :
      Phase ip memCellType .tag args

omit [Field K] [LinearOrder K] in
theorem dataArray_associativity_le (settings : Settings K) (memCellType : MemCellType) :
    (dataArray settings memCellType).associativity ≤ max 1 settings.associativity.toNat := by
  unfold dataArray
  dsimp only
  split
  · split
    · exact le_max_left _ _
    · exact le_max_left _ _
    · exact le_max_right _ _
  · split
    · exact le_max_left _ _
    · exact le_max_right _ _
  · exact le_max_right _ _

omit [Field K] [LinearOrder K] in
/-- No candidate has more ways than the configuration. -/
theorem InputParameter.Phase.associativity_le {ip : InputParameter K} {memCellType : MemCellType}
    {memoryType : MemoryType} {args : List BankParams} (h : ip.Phase memCellType memoryType args)
    {a : BankParams} (ha : a ∈ args) : a.associativity ≤ max 1 ip.associativity.toNat := by
  cases h with
  | data hargs =>
      obtain ⟨cs, -, heq⟩ := bind_eq_ok.1 hargs
      obtain rfl := Except.ok.inj heq
      obtain ⟨c, -, hc⟩ := List.mem_filterMap.1 ha
      unfold Candidate.dataArgs at hc
      split at hc
      · cases hc
      · obtain rfl := Option.some.inj hc
        exact dataArray_associativity_le ip.toSettings memCellType
  | tag hargs =>
      obtain ⟨cs, -, heq⟩ := bind_eq_ok.1 hargs
      obtain rfl := Except.ok.inj heq
      obtain ⟨c, -, hc⟩ := List.mem_filterMap.1 ha
      obtain ⟨blockSize, -, -, rfl⟩ := Candidate.tagArgs_eq_some hc
      exact le_max_right _ _

/-- In every configuration, whatever the search space, a call of `Mat::Initialize` that goes
past its address-bit check counts the rows exactly if and only if its arguments fit.  For the
default space, and a block that the `int`s of the routing hold, the condition is one on the
configuration: all calls of the data phase count exactly, whatever the circuit models, if and
only if the data array does not get to them or its rows fit; and those of the tag phase if
and only if the tag array does not get to them or has at most 30 address bits.  With given
circuit models the same holds if no candidate exits with a capacity violation. -/
theorem rows_exact_iff (ip₀ ip : InputParameter K) (cell : MemCell K)
    (hconstraint : ip₀.applyConstraint cell.memCellType = some ip)
    (hassoc : ip.associativity < 2 ^ 31) :
    (∀ (models : Models K) (localWire globalWire : Wire) (memoryType : MemoryType)
        (args : List BankParams), ip.Phase cell.memCellType memoryType args →
      ∀ l g a, BankCall models ip.toSettings memoryType cell localWire globalWire args l g a →
        let mat := (initializedBank (models.electrical l g) cell.memCellType g.wireRepeaterType
          ip.routingMode a).mat
        0 < mat.effectiveAddressBit → (mat.AlwaysRowsExact ↔ mat.RowsFit)) ∧
      (ip.toSearchSpace.IsDefault →
        (dataArray ip.toSettings cell.memCellType).blockSize < 2 ^ 31 →
        ∃ args tags spec, ip.dataCandidates cell.memCellType = .ok args ∧
          ip.tagCandidates = .ok tags ∧ spec = dataArray ip.toSettings cell.memCellType ∧
          ((∀ (models : Models K) (localWire globalWire : Wire),
              ip.initialBasicWire = .ok (localWire, globalWire) →
                MatCalls MatParams.AlwaysRowsExact models ip.toSettings
                  .data cell localWire globalWire args) ↔
            ∀ localWire globalWire, ip.initialBasicWire = .ok (localWire, globalWire) →
              spec.Called ip cell.memCellType globalWire → spec.RowsFit) ∧
          (∀ (models : Models K) (localWire globalWire : Wire),
            CapacityVerified models ip.toSettings cell localWire globalWire args →
              (MatCalls MatParams.AlwaysRowsExact models ip.toSettings
                  .data cell localWire globalWire args ↔
                (spec.Called ip cell.memCellType globalWire → spec.RowsFit))) ∧
          ((∀ (models : Models K) (localWire globalWire : Wire),
              ip.reduceSearchSize.initialBasicWire = .ok (localWire, globalWire) →
                MatCalls MatParams.AlwaysRowsExact models ip.toSettings
                  .tag cell localWire globalWire tags) ↔
            ∀ localWire globalWire,
              ip.reduceSearchSize.initialBasicWire = .ok (localWire, globalWire) →
                ip.Senses cell.memCellType globalWire → ip.numTagAddressBit ≤ 30) ∧
          ∀ (models : Models K) (localWire globalWire : Wire),
            CapacityVerified models ip.toSettings cell localWire globalWire tags →
              (MatCalls MatParams.AlwaysRowsExact models ip.toSettings
                  .tag cell localWire globalWire tags ↔
                (ip.Senses cell.memCellType globalWire → ip.numTagAddressBit ≤ 30))) := by
  constructor
  · intro models localWire globalWire memoryType args hphase l g a hbank
    dsimp only
    intro haddress
    have hway : (initializedBank (models.electrical l g) cell.memCellType g.wireRepeaterType
        ip.routingMode a).mat.memoryType = .data →
          (initializedBank (models.electrical l g) cell.memCellType g.wireRepeaterType
            ip.routingMode a).mat.numWay < 2 ^ 31 := by
      intro hdata
      have hle := numWay_mat_le (models.electrical l g) cell.memCellType g.wireRepeaterType
        ip.routingMode a hdata
      obtain ⟨c, hc, hways⟩ := hbank.exists_candidate
      have hbound := hphase.associativity_le hc
      omega
    exact ⟨fun hexact => (MatParams.rowsExact_iff 0 hway).1 (hexact 0),
      fun hfit undefinedShift => (MatParams.rowsExact_iff undefinedShift hway).2 hfit⟩
  · intro hspace _
    obtain ⟨args, hargs, -⟩ := InputParameter.enumerates_dataCandidates
      (InputParameter.dataSpace_isDefault hspace).powersOfTwo.positive cell.memCellType
    have htried := dataCandidates_tried hconstraint hspace hargs
    obtain ⟨tags, htags, htagged, -⟩ := tagCandidates_tried hconstraint
    have hdata {models : Models K} {localWire globalWire : Wire}
        (hverified : CapacityVerified models ip.toSettings cell localWire globalWire args) :
        MatCalls MatParams.AlwaysRowsExact models ip.toSettings
            .data cell localWire globalWire args →
          (dataArray ip.toSettings cell.memCellType).Called ip cell.memCellType globalWire →
            (dataArray ip.toSettings cell.memCellType).RowsFit :=
      fun h hcalled => h.rowsFit hverified hconstraint hspace hargs hcalled
    have htag {models : Models K} {localWire globalWire : Wire}
        (hverified : CapacityVerified models ip.toSettings cell localWire globalWire tags) :
        MatCalls MatParams.AlwaysRowsExact models ip.toSettings
            .tag cell localWire globalWire tags →
          ip.Senses cell.memCellType globalWire → ip.numTagAddressBit ≤ 30 :=
      fun h hsenses => h.numTagAddressBit_le hverified hconstraint htags hsenses
    refine ⟨args, tags, _, hargs, htags, rfl, ?_, fun models localWire globalWire hverified => ?_,
      ?_, fun models localWire globalWire hverified => ?_⟩
    · exact forall_matCalls_iff (fun a ha => (htried a ha).tried)
        (fun hfit => matCalls_rowsExact hconstraint hspace hargs hfit) hdata _
    · exact ⟨hdata hverified, matCalls_rowsExact hconstraint hspace hargs⟩
    · exact forall_matCalls_iff (fun a ha => (htagged a ha).1)
        (fun hbits => matCalls_tag_rowsExact hconstraint htags hbits) htag _
    · exact ⟨htag hverified, matCalls_tag_rowsExact hconstraint htags⟩

/-- The rows are exact in a RAM of 8 KB. -/
theorem rows_exact_ram :
    (InputParameter.ram (8 * 1024) 64 : InputParameter ℚ).applyConstraint .sram =
        some (.ram (8 * 1024) 64) ∧
      ∃ args, (InputParameter.ram (8 * 1024) 64 : InputParameter ℚ).dataCandidates .sram =
          .ok args ∧
        ∀ (models : Models ℚ) (localWire globalWire : Wire),
          (InputParameter.ram (8 * 1024) 64 : InputParameter ℚ).initialBasicWire =
            .ok (localWire, globalWire) →
          MatCalls MatParams.AlwaysRowsExact models
            (InputParameter.ram (8 * 1024) 64).toSettings .data (.sram : MemCell ℚ) localWire
            globalWire args := by
  obtain ⟨args, -, spec, hargs, -, hspec, hexact, -⟩ := (rows_exact_iff
    (.ram (8 * 1024) 64 : InputParameter ℚ) (.ram (8 * 1024) 64) .sram rfl (by decide)).2
    (SearchSpace.isDefault_restored le_rfl) (by decide)
  refine ⟨rfl, args, hargs, hexact.2 fun _ _ _ _ => ?_⟩
  rw [hspec]
  exact ⟨by decide +kernel, .inl (by decide)⟩

/-- In a RAM of 16 GB with words of 64 bits the shift of a call is negative. -/
theorem rows_overflow_ram :
    ∃ args localWire globalWire,
      (InputParameter.ram (16 * 2 ^ 30) 64 : InputParameter ℚ).applyConstraint .sram =
        some (.ram (16 * 2 ^ 30) 64) ∧
      (InputParameter.ram (16 * 2 ^ 30) 64 : InputParameter ℚ).initialBasicWire =
        .ok (localWire, globalWire) ∧
      (InputParameter.ram (16 * 2 ^ 30) 64 : InputParameter ℚ).dataCandidates .sram = .ok args ∧
      ¬ MatCalls (fun p => 0 ≤ (p.addressRows 0).toInt) (.permissive fun _ _ => .fresh)
        (InputParameter.ram (16 * 2 ^ 30) 64).toSettings .data (.sram : MemCell ℚ)
        localWire globalWire args ∧
      ¬ MatCalls (fun p => p.RowsExact 0) (.permissive fun _ _ => .fresh)
        (InputParameter.ram (16 * 2 ^ 30) 64).toSettings .data (.sram : MemCell ℚ)
        localWire globalWire args := by
  have hspace : (InputParameter.ram (16 * 2 ^ 30) 64 :
      InputParameter ℚ).toSearchSpace.IsDefault := SearchSpace.isDefault_restored le_rfl
  obtain ⟨args, hargs, -⟩ := InputParameter.enumerates_dataCandidates
    (InputParameter.dataSpace_isDefault hspace).powersOfTwo.positive .sram
  have haddress : (dataArray (InputParameter.ram (16 * 2 ^ 30) 64 : InputParameter ℚ).toSettings
      .sram).numAddressBit = 31 := by decide +kernel
  have hcalled (globalWire : Wire) : (dataArray
      (InputParameter.ram (16 * 2 ^ 30) 64 : InputParameter ℚ).toSettings .sram).Called
        (InputParameter.ram (16 * 2 ^ 30) 64 : InputParameter ℚ) .sram globalWire :=
    ⟨.inl rfl, by decide, by rw [haddress]; decide⟩
  have hconstraint : (InputParameter.ram (16 * 2 ^ 30) 64 : InputParameter ℚ).applyConstraint
      .sram = some (.ram (16 * 2 ^ 30) 64) := rfl
  have hexact : (dataArray (InputParameter.ram (16 * 2 ^ 30) 64 : InputParameter ℚ).toSettings
      .sram).Exact := ⟨by decide +kernel, by decide +kernel⟩
  refine ⟨args, _, _, rfl, rfl, hargs, fun hcalls => ?_, fun hcalls => ?_⟩
  · obtain ⟨p, hnonneg, hbits, -⟩ := hcalls.single
      (capacityVerified_sram hconstraint hspace hargs hexact) hconstraint hspace hargs (hcalled _)
      (i := 0) (Nat.zero_le _)
    have hbits' : p.effectiveAddressBit = 31 := hbits.trans haddress
    rw [MatParams.addressRows, hbits'] at hnonneg
    exact absurd hnonneg (by decide)
  · obtain ⟨p, hrows, hbits, -⟩ := hcalls.single
      (capacityVerified_sram hconstraint hspace hargs hexact) hconstraint hspace hargs (hcalled _)
      (i := 0) (Nat.zero_le _)
    have hbits' : p.effectiveAddressBit = 31 := hbits.trans haddress
    have hle := MatParams.addressBit_le_of_rowsExact hrows
    omega

end NVSim
