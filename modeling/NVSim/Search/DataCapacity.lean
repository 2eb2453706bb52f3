import NVSim.Search.Constraints
import NVSim.Search.DataCandidates

/-!
# The capacity check of the data search

The tag search rounds its block up to a multiple of the number of subarrays it is
partitioned over.  The data search only leaves out partitions for which the
quotient is zero, so for a block that is not a multiple of the partition
`VERIFY_DATA_CAPACITY` finds fewer cells than the capacity and exits.
-/

namespace NVSim

open Library

variable {K : Type} [Field K] [LinearOrder K]

/-! ## The run -/

/-- The candidates of a data phase keep to the identity that `VERIFY_DATA_CAPACITY`
checks. -/
def CapacityVerified (models : Models K) (settings : Settings K) (cell : MemCell K)
    (localWire globalWire : Wire) (args : List BankParams) : Prop :=
  ∀ a ∈ args, (evaluate models settings cell localWire globalWire a).invalid = true ∨
    (evaluate models settings cell localWire globalWire a).storedCapacity = a.capacity

omit [Field K] [LinearOrder K] in
theorem InputParameter.halt_of_initialBasicWire {ip : InputParameter K} {halt : Halt}
    (h : ip.initialBasicWire = .error halt) : halt = .wire := by
  have hwire (kind : Option WireKind) {halt : Halt}
      (h : orHalt .wire kind = .error halt) : halt = .wire := by
    cases kind with
    | none => exact (Except.error.inj h).symm
    | some kind => cases h
  unfold initialBasicWire at h
  dsimp only [bind, Except.bind] at h
  split at h
  · rename_i hlocal
    obtain rfl := Except.error.inj h
    exact hwire _ hlocal
  · split at h
    · rename_i hglobal
      obtain rfl := Except.error.inj h
      exact hwire _ hglobal
    · cases h

/-- A data phase exits with a capacity violation if and only if a candidate that is
evaluated with the basic wires is valid and violates the capacity. -/
theorem dataPhase_capacityViolation_iff {models : Models K} {ip : InputParameter K}
    {cell : MemCell K} {localWire globalWire : Wire} {args : List BankParams}
    (hwires : ip.initialBasicWire = .ok (localWire, globalWire))
    (hargs : ip.dataCandidates cell.memCellType = .ok args) :
    dataPhase models ip cell ≠ .error .capacityViolation ↔
      CapacityVerified models ip.toSettings cell localWire globalWire args := by
  have hkept (a : BankParams) :
      keptBy (fun _ => true)
          (evaluatedDesign models ip.toSettings cell localWire globalWire a) = true ↔
        (evaluate models ip.toSettings cell localWire globalWire a).invalid = false := by
    unfold keptBy evaluatedDesign
    simp only [Bool.and_true, Bool.not_eq_true']
  rcases searchPass_cases models ip.toSettings localWire globalWire (fun _ => true) cell args
    { toBestResults := .fresh, cell := cell } rfl with
    ⟨a, ha, hvalid, hviolation, herror⟩ | ⟨hverified, cell', -, hok⟩
  · have hsearch : dataSearch models ip cell = .error .capacityViolation := by
      unfold dataSearch
      rw [hwires, hargs]
      dsimp only [bind, Except.bind]
      rw [herror]
    refine iff_of_false ?_ fun h => ?_
    · unfold dataPhase
      rw [hsearch]
      exact not_not.2 rfl
    · rcases h a ha with hinvalid | hcapacity
      · rw [(hkept a).1 hvalid] at hinvalid
        cases hinvalid
      · exact hviolation hcapacity
  · -- the pass with design constraints does not exit where the first one did not
    refine iff_of_true ?_ fun a ha => ?_
    · obtain ⟨s, hsearch⟩ : ∃ s, dataSearch models ip cell = .ok (s, args) := by
        unfold dataSearch
        rw [hwires, hargs]
        dsimp only [bind, Except.bind]
        rw [hok]
        exact ⟨_, rfl⟩
      obtain ⟨-, -, s', -, hpass, -⟩ := constrainedPass_ok hsearch
      unfold dataPhase
      rw [hsearch]
      dsimp only [bind, Except.bind]
      split
      · rw [hpass]
        intro h
        cases h
      · intro h
        cases h
    · cases hinvalid : (evaluate models ip.toSettings cell localWire globalWire a).invalid with
      | true => exact .inl rfl
      | false => exact .inr (hverified a ha ((hkept a).2 hinvalid))

/-- Without basic wires there is no search that could exit. -/
theorem dataPhase_verified_iff (models : Models K) {ip : InputParameter K} {cell : MemCell K}
    {args : List BankParams} (hargs : ip.dataCandidates cell.memCellType = .ok args) :
    dataPhase models ip cell ≠ .error .capacityViolation ↔
      ∀ localWire globalWire, ip.initialBasicWire = .ok (localWire, globalWire) →
        CapacityVerified models ip.toSettings cell localWire globalWire args := by
  cases hwires : ip.initialBasicWire with
  | error halt =>
      refine iff_of_true ?_ fun localWire globalWire h => ?_
      · unfold dataPhase dataSearch
        rw [hwires, InputParameter.halt_of_initialBasicWire hwires]
        intro h
        cases h
      · cases h
  | ok wires =>
      obtain ⟨localWire, globalWire⟩ := wires
      rw [dataPhase_capacityViolation_iff hwires hargs]
      constructor
      · rintro hverified localWire' globalWire' h
        obtain ⟨rfl, rfl⟩ := Prod.mk.inj (Except.ok.inj h)
        exact hverified
      · intro hverified
        exact hverified localWire globalWire rfl

/-! ## One candidate -/

/-- The number of subarrays a block is partitioned over. -/
def BankParams.numPartition (p : BankParams) : ℕ := p.numActiveMat * p.numActiveSubarray

/-- The ways and the columns of the mat of a data array. -/
theorem BankParams.MatCalled.data {a : BankParams} {matParams : MatParams}
    (hcalled : a.MatCalled matParams) (hdata : a.memoryType = .data) :
    matParams.memoryType = .data ∧ matParams.numWay = a.associativity ∧
      matParams.numColumnSelected = a.blockSize / a.numPartition := by
  have htype : matParams.memoryType = .data := hcalled.memoryType_eq.trans hdata
  have hways := hcalled.ways
  have hcolumns := hcalled.columns
  refine ⟨htype, ?_, ?_⟩
  · simpa only [MatParams.numWayInRows, BankParams.numWayInRows, htype, hdata, if_true] using hways
  · simpa only [MatParams.numWayInColumns, BankParams.columnsPerAddress, BankParams.numPartition,
      htype, hdata, reduceCtorEq, if_false, mul_one] using hcolumns

/-- The cells of a valid data array: the partition truncates the block. -/
theorem storedCapacity_evaluate {models : Models K} {settings : Settings K} {cell : MemCell K}
    {localWire globalWire : Wire} {a : BankParams} (ha : a.PowerOfTwo)
    (hdata : a.memoryType = .data)
    (hvalid : (evaluate models settings cell localWire globalWire a).invalid = false) :
    (evaluate models settings cell localWire globalWire a).storedCapacity =
      2 ^ a.numAddressBit.toNat * (a.associativity * (a.blockSize / a.numPartition)) *
        a.numPartition := by
  have htoBank := toBank_evaluate_of_valid hvalid
  rw [htoBank] at hvalid ⊢
  obtain ⟨-, hstored, -⟩ := storedCapacity_eq ha
    (initializeBank_eq_initializedBank _ _ _ _ _) hvalid
  unfold BankParams.numWayInRows BankParams.columnsPerAddress at hstored
  simp only [hdata, if_true] at hstored
  exact hstored

/-- A candidate that spreads its ways over no rows of their own can be valid only if
it has address bits, at least as many as tell its ways apart. -/
theorem addressBit_of_valid {el : Electrical} {memCellType : MemCellType}
    {globalWireRepeaterType : WireRepeaterType} {routingMode : RoutingMode} {a : BankParams}
    (ha : a.PowerOfTwo) (hdata : a.memoryType = .data)
    (hvalid : (initializedBank el memCellType globalWireRepeaterType routingMode a).invalid =
      false) :
    a.numRowPerSet ≤ a.associativity ∧ 0 < a.numAddressBit ∧
      a.associativity / a.numRowPerSet ≤ 2 ^ a.numAddressBit.toNat := by
  obtain ⟨q, matParams, hmat, hlegal, -⟩ := initializeBank_valid ha.associativity ha.numRowMat
    ha.numColumnMat ha.numActiveMatPerRow ha.numActiveMatPerColumn
    (initializeBank_eq_initializedBank _ _ _ _ _) hvalid
  rw [ha.clampActive_eq] at hmat
  have hcalled := ha.matCalled hmat
  rw [hcalled.clampActive_eq] at hlegal
  obtain ⟨numDataBit, numWay, hrouted, -⟩ := BankParams.matCall_eq_some hmat
  have hset : a.numRowPerSet ≤ a.associativity := by
    have hbits := (ha.routedWithoutHtree hrouted).2
    simp only [hdata] at hbits
    exact hbits.1
  have haddress : matParams.effectiveAddressBit ≤ a.numAddressBit := by
    unfold MatParams.effectiveAddressBit
    rw [hcalled.addressBit, BankParams.numAddressBitRouteToMat]
    omega
  refine ⟨hset, hlegal.addressBit.trans_le haddress, ?_⟩
  have hway : a.numWayPerRow = a.associativity / a.numRowPerSet := by
    simp only [BankParams.numWayPerRow, hdata]
  have hmux := hcalled.muxDegree_eq
  rw [hway] at hmux
  obtain ⟨d, hd⟩ := hcalled.isPowerOfTwo_muxDegree
  -- the ways that share a row are a factor of the mux degree, which the predecoders address
  have hle : a.associativity / a.numRowPerSet ≤ 2 ^ d := by
    rw [← hd, hmux]
    exact Nat.le_mul_of_pos_left _ (Nat.pos_of_isPowerOfTwo ha.isPowerOfTwo_muxDegree)
  have hbits : (d : ℤ) ≤ matParams.effectiveAddressBit := by
    have hpredecoder := hlegal.rowPredecoder
    unfold MatParams.numAddressRowPredecoder at hpredecoder
    rw [hd, log2Rounded_two_pow] at hpredecoder
    omega
  exact hle.trans (Nat.pow_le_pow_right (by norm_num) (by omega))

/-- A candidate with all its subarrays active, without multiplexers. -/
structure BankParams.AllActive (p : BankParams) : Prop where
  numActiveMatPerRow : p.numActiveMatPerRow = p.numColumnMat
  numActiveMatPerColumn : p.numActiveMatPerColumn = p.numRowMat
  numActiveSubarrayPerRow : p.numActiveSubarrayPerRow = p.numColumnSubarray
  numActiveSubarrayPerColumn : p.numActiveSubarrayPerColumn = p.numRowSubarray
  muxDegree : p.muxDegree = 1
  numRowPerSet : p.numRowPerSet = 1

theorem Candidate.isAllActive_allActive (i : ℕ) (level : BufferDesignTarget) (spec : ArraySpec)
    (internalSensing : Bool) (memoryType : MemoryType) :
    ((allActive i level).toBankParams spec internalSensing memoryType).AllActive :=
  ⟨rfl, rfl, rfl, rfl, rfl, rfl⟩

/-- Nothing is gated when everything is active. -/
theorem log2Rounded_gating_eq_zero {m n : ℕ} : log2Rounded (m * n / m / n) = 0 := by
  rw [Nat.div_div_eq_div_mul]
  rcases Nat.eq_zero_or_pos (m * n) with h | h
  · rw [h]
    rfl
  · rw [Nat.div_self h, log2Rounded_one]

/-- Such a candidate calls `Mat::Initialize` legally, if it has address bits enough and
its partition leaves something of the block. -/
theorem BankParams.AllActive.legal {a : BankParams} (hactive : a.AllActive) (ha : a.PowerOfTwo)
    (hdata : a.memoryType = .data) (haddress : 0 < a.numAddressBit)
    (hassoc : a.associativity ≤ 2 ^ a.numAddressBit.toNat)
    (hblock : 0 < a.blockSize / a.numPartition) (memCellType : MemCellType) :
    ∃ q matParams, a.matParamsWithoutHtree memCellType = some (q, matParams) ∧
      matParams.clampActive.Legal .permissive := by
  have hassocPos := Nat.pos_of_isPowerOfTwo ha.associativity
  have hrouted : a.routedWithoutHtree =
      some (a.blockSize / a.numActiveMatPerColumn / a.numActiveMatPerRow, a.associativity) := by
    unfold BankParams.routedWithoutHtree
    simp only [hdata]
    rw [if_neg]
    rw [hactive.numRowPerSet]
    omega
  obtain ⟨q, matParams, hmat⟩ :
      ∃ q matParams, a.matParamsWithoutHtree memCellType = some (q, matParams) := by
    unfold BankParams.matParamsWithoutHtree
    rw [hrouted]
    exact ⟨_, _, rfl⟩
  have hcalled := ha.matCalled hmat
  obtain ⟨htype, hway, hcolumn⟩ := hcalled.data hdata
  have hmux : matParams.muxDegree = a.associativity := by
    rw [hcalled.muxDegree_eq, hactive.muxDegree, one_mul]
    simp only [BankParams.numWayPerRow, hdata, hactive.numRowPerSet, Nat.div_one]
  -- no address bit is used for power gating
  have heffective : matParams.effectiveAddressBit = a.numAddressBit := by
    unfold MatParams.effectiveAddressBit
    rw [hcalled.addressBit, hcalled.gating, BankParams.numAddressBitRouteToMat,
      BankParams.numAddressForGating, hactive.numActiveMatPerColumn,
      hactive.numActiveMatPerRow, hactive.numActiveSubarrayPerColumn,
      hactive.numActiveSubarrayPerRow, log2Rounded_gating_eq_zero, log2Rounded_gating_eq_zero]
    omega
  refine ⟨q, matParams, hmat, ?_⟩
  rw [hcalled.clampActive_eq]
  refine ⟨?_, ?_, ?_, rfl, ?_⟩
  · rw [heffective]
    exact haddress
  · unfold MatParams.numRow
    rw [if_pos htype, hway, hmux, Nat.mul_div_cancel _ hassocPos]
    exact Nat.two_pow_pos _
  · rw [hcolumn]
    exact hblock
  · unfold MatParams.numAddressRowPredecoder
    rw [heffective, hmux]
    obtain ⟨w, hw⟩ := ha.associativity
    rw [hw] at hassoc ⊢
    rw [log2Rounded_two_pow]
    have hbits := (Nat.pow_le_pow_iff_right (by norm_num)).1 hassoc
    omega

/-- Permissive circuit models accept every bank with a legal mat. -/
theorem valid_of_legal {memCellType : MemCellType} {globalWireRepeaterType : WireRepeaterType}
    {routingMode : RoutingMode} {a q : BankParams} {matParams : MatParams} (ha : a.PowerOfTwo)
    (hsensed : a.Sensed memCellType globalWireRepeaterType routingMode)
    (hmat : a.matParamsWithoutHtree memCellType = some (q, matParams))
    (hlegal : matParams.clampActive.Legal .permissive) :
    (initializedBank .permissive memCellType globalWireRepeaterType routingMode a).invalid =
      false := by
  have hvalid := initializeMat_invalid_iff.2 hlegal
  have hsenseAmp (n m : ℕ) (mat : Mat) :
      Electrical.permissive.globalSenseAmpInvalid n m mat = false := rfl
  have hflat (hsensed : a.Sensed memCellType globalWireRepeaterType .nonHTree) :
      (initializeBankWithoutHtree .permissive memCellType globalWireRepeaterType a).invalid =
        false := by
    rw [← BankParams.externalSensing_eq_none_iff] at hsensed
    unfold initializeBankWithoutHtree
    simp only [hsensed, ha.clampActive_eq, hmat, hvalid, hsenseAmp, Bool.and_false,
      Bool.false_eq_true, if_false]
  cases routingMode with
  | nonHTree => exact hflat hsensed
  | hTree =>
-- a tree is sensed internally, and then the closed form is as valid as the tree
      have hinternal : a.internalSenseAmp = true := by
        rcases hsensed with hinternal | ⟨h, -⟩
        · exact hinternal
        · cases h
      obtain ⟨b, hb, hagree⟩ := initializeBank_agree .permissive memCellType globalWireRepeaterType
        a hinternal ha.associativity ha.numRowMat ha.numColumnMat ha.numActiveMatPerRow
        ha.numActiveMatPerColumn
      have hinit := initializeBank_eq_initializedBank .permissive memCellType
        globalWireRepeaterType .hTree a
      unfold initializeBank at hinit
      rw [hb] at hinit
      rw [← Option.some.inj hinit]
      rcases hagree with ⟨-, hinvalid⟩ | ⟨hvalid, -⟩
      · rw [hflat (.inl hinternal)] at hinvalid
        cases hinvalid
      · exact hvalid

/-! ## Exact arrays -/

/-- The number of address bits of the bank. -/
def ArraySpec.numAddressBit (spec : ArraySpec) : ℤ :=
  log2RoundedRatio spec.capacity (spec.blockSize * spec.associativity)

/-- Every partition of the block keeps the whole capacity. -/
structure ArraySpec.Exact (spec : ArraySpec) : Prop where
  capacity :
    2 ^ spec.numAddressBit.toNat * (spec.associativity * spec.blockSize) = spec.capacity
  partition : 2 ^ min 20 (Nat.log 2 spec.blockSize) ∣ spec.blockSize

/-- The array has a block, and address bits enough to tell its ways apart. -/
structure ArraySpec.Designable (spec : ArraySpec) : Prop where
  blockSize : 0 < spec.blockSize
  addressBit : 0 < spec.numAddressBit
  associativity : spec.associativity ≤ 2 ^ spec.numAddressBit.toNat

/-- The two conditions on the capacity, for the partitions one by one. -/
theorem ArraySpec.exact_iff {spec : ArraySpec} (hassoc : 0 < spec.associativity)
    (hblock : 0 < spec.blockSize) :
    spec.Exact ↔ ∀ i ≤ 20, 2 ^ i ≤ spec.blockSize →
      2 ^ spec.numAddressBit.toNat * (spec.associativity * (spec.blockSize / 2 ^ i)) * 2 ^ i =
        spec.capacity := by
  have hcells (i : ℕ) :
      2 ^ spec.numAddressBit.toNat * (spec.associativity * (spec.blockSize / 2 ^ i)) * 2 ^ i =
        2 ^ spec.numAddressBit.toNat * (spec.associativity * (spec.blockSize / 2 ^ i * 2 ^ i)) := by
    ring
  constructor
  · rintro ⟨hcapacity, hpartition⟩ i hi hle
    have hdvd := (two_pow_min_log_dvd_iff hblock).1 hpartition i hi hle
    rw [hcells, Nat.div_mul_cancel hdvd, hcapacity]
  · intro hall
    have hcapacity := hall 0 (Nat.zero_le _) hblock
    rw [hcells, pow_zero, Nat.div_one, mul_one] at hcapacity
    refine ⟨hcapacity, (two_pow_min_log_dvd_iff hblock).2 fun i hi hle => ?_⟩
    have hi' := hall i hi hle
    rw [hcells, ← hcapacity] at hi'
    -- the quotient times the partition is the whole block
    have hkept := Nat.eq_of_mul_eq_mul_left hassoc
      (Nat.eq_of_mul_eq_mul_left (Nat.two_pow_pos _) hi')
    exact Nat.dvd_of_mod_eq_zero (by have := Nat.div_add_mod' spec.blockSize (2 ^ i); omega)

/-- A capacity that is a number of sets of whole blocks is counted by the address bits. -/
theorem ArraySpec.capacity_of_mul_two_pow {spec : ArraySpec} (hblock : 0 < spec.blockSize)
    (hassoc : 0 < spec.associativity) {m : ℕ}
    (hcapacity : spec.capacity = spec.blockSize * spec.associativity * 2 ^ m) :
    2 ^ spec.numAddressBit.toNat * (spec.associativity * spec.blockSize) = spec.capacity := by
  unfold numAddressBit
  rw [hcapacity, log2RoundedRatio_mul_two_pow (Nat.mul_pos hblock hassoc), Int.toNat_natCast]
  ring

/-! ## The check -/

/-- The sensing scheme of the configuration is supported with the global wire. -/
def InputParameter.Senses (ip : InputParameter K) (memCellType : MemCellType)
    (globalWire : Wire) : Prop :=
  ip.internalSensing = true ∨
    ip.routingMode = .nonHTree ∧ memCellType.isDram = false ∧
      globalWire.wireRepeaterType = .repeatedNone

section Check

variable {ip₀ ip : InputParameter K} {cell : MemCell K} {localWire globalWire : Wire}
  {args : List BankParams}

/-- The candidates of the default space: those that are valid for some circuit models
belong to a designable array, and keep its capacity if it is exact. -/
theorem capacityVerified_of_exact (models : Models K)
    (hconstraint : ip₀.applyConstraint cell.memCellType = some ip)
    (hspace : ip.toSearchSpace.IsDefault)
    (hargs : ip.dataCandidates cell.memCellType = .ok args)
    (hexact : ip.Senses cell.memCellType globalWire →
      (dataArray ip.toSettings cell.memCellType).Designable →
        (dataArray ip.toSettings cell.memCellType).Exact) :
    CapacityVerified models ip.toSettings cell localWire globalWire args := by
  intro a ha
  cases hinvalid : (evaluate models ip.toSettings cell localWire globalWire a).invalid with
  | true => exact .inl rfl
  | false =>
      right
      have hdefault := InputParameter.dataSpace_isDefault hspace
      obtain ⟨hassoc, -, -⟩ := dataArray_cases hconstraint
      obtain ⟨args', hargs', hmem⟩ :=
        InputParameter.enumerates_dataCandidates hdefault.powersOfTwo.positive cell.memCellType
      rw [hargs] at hargs'
      obtain rfl := Except.ok.inj hargs'
      obtain ⟨c, hc, hguard, rfl⟩ := (hmem a).1 ha
      have hp := hc.powerOfTwo hdefault.powersOfTwo (dataArray ip.toSettings cell.memCellType)
        hassoc ip.internalSensing .data
      have hvalid := hinvalid
      rw [toBank_evaluate_of_valid hinvalid] at hvalid
-- with several rows per set it would have been rejected in every access mode
      have hone : c.numRowPerSet = 1 := by
        have hle := numRowPerSet_le_one_of_valid hconstraint rfl rfl (fun hmode => ?_) hvalid
        · have hpos := hc.numRowPerSet.pos
          exact le_antisymm hle hpos
        · have hbound := hc.numRowPerSet.le.trans (min_le_left _ _)
          unfold InputParameter.dataSpace at hbound
          rw [if_pos hmode] at hbound
          exact Int.ofNat_le.1 hbound
      obtain ⟨-, haddress, hways⟩ := addressBit_of_valid hp rfl hvalid
      have hdesignable : (dataArray ip.toSettings cell.memCellType).Designable := by
        refine ⟨?_, haddress, ?_⟩
        · exact Nat.pos_of_ne_zero fun hzero => hguard (by rw [hzero, Nat.zero_div])
        · rw [Candidate.toBankParams, hone, Nat.div_one] at hways
          exact hways
      obtain ⟨i, hi, hactive⟩ := hc.exists_numActive hdefault
      have hblock : 2 ^ i ≤ (dataArray ip.toSettings cell.memCellType).blockSize := by
        rw [← hactive]
        exact Nat.le_of_not_lt fun hlt => hguard (Nat.div_eq_of_lt hlt)
      rw [storedCapacity_evaluate hp rfl hinvalid, BankParams.numPartition,
        c.numActive_toBankParams, hactive]
      exact (ArraySpec.exact_iff (Nat.pos_of_isPowerOfTwo hassoc) hdesignable.blockSize).1
        (hexact (sensed_of_valid hvalid) hdesignable) i hi hblock

omit [LinearOrder K] in
theorem checkAspectRatio_permissive (measures : (localWire globalWire : Wire) → FunctionUnit K)
    (bank : Bank) :
    checkAspectRatio (.permissive measures) localWire globalWire bank = bank := by
  unfold checkAspectRatio Models.permissive
  rw [Bool.and_false]
  rfl

omit [Field K] [LinearOrder K] in
/-- Every partition that leaves something of the block is tried with all subarrays
active. -/
theorem exists_allActive_mem {memCellType : MemCellType}
    (hconstraint : ip₀.applyConstraint memCellType = some ip)
    (hspace : ip.toSearchSpace.IsDefault) (hargs : ip.dataCandidates memCellType = .ok args)
    {i : ℕ} (hi : i ≤ 20) (hle : 2 ^ i ≤ (dataArray ip.toSettings memCellType).blockSize) :
    ∃ c : Candidate, c.numActive = 2 ^ i ∧ ∃ a ∈ args,
      a = c.toBankParams (dataArray ip.toSettings memCellType) ip.internalSensing .data ∧
        a.PowerOfTwo ∧ a.AllActive := by
  have hdefault := InputParameter.dataSpace_isDefault hspace
  obtain ⟨hassoc, -, -⟩ := dataArray_cases hconstraint
  obtain ⟨hpow, -⟩ := InputParameter.applyConstraint_eq_some hconstraint
  obtain ⟨args', hargs', hmem⟩ :=
    InputParameter.enumerates_dataCandidates hdefault.powersOfTwo.positive memCellType
  rw [hargs] at hargs'
  obtain rfl := Except.ok.inj hargs'
  obtain ⟨level, hc⟩ := Candidate.exists_allActive_inSpace hdefault
    (one_le_of_isPowerOfTwo_toNat hpow) i
  have hactive := Candidate.numActive_allActive hi level
  refine ⟨.allActive i level, hactive, _, (hmem _).2 ⟨_, hc, ?_, rfl⟩, rfl, ?_, ?_⟩
  · rw [hactive]
    exact (Nat.div_pos hle (Nat.two_pow_pos i)).ne'
  · exact hc.powerOfTwo hdefault.powersOfTwo _ hassoc _ _
  · exact Candidate.isAllActive_allActive i level _ _ _

/-- With permissive circuit models all these candidates are valid, so a designable array
whose candidates keep the capacity is exact. -/
theorem exact_of_capacityVerified {measures : (localWire globalWire : Wire) → FunctionUnit K}
    (hconstraint : ip₀.applyConstraint cell.memCellType = some ip)
    (hspace : ip.toSearchSpace.IsDefault)
    (hargs : ip.dataCandidates cell.memCellType = .ok args)
    (hsenses : ip.Senses cell.memCellType globalWire)
    (hdesignable : (dataArray ip.toSettings cell.memCellType).Designable)
    (hverified : CapacityVerified (.permissive measures) ip.toSettings cell localWire globalWire
      args) :
    (dataArray ip.toSettings cell.memCellType).Exact := by
  obtain ⟨hassoc, -, -⟩ := dataArray_cases hconstraint
  rw [ArraySpec.exact_iff (Nat.pos_of_isPowerOfTwo hassoc) hdesignable.blockSize]
  intro i hi hle
  obtain ⟨c, hactive, a, hmem, rfl, hp, hall⟩ :=
    exists_allActive_mem hconstraint hspace hargs hi hle
  have hpartition := c.numActive_toBankParams (dataArray ip.toSettings cell.memCellType)
    ip.internalSensing .data
  rw [hactive] at hpartition
  have hblock : 0 < (dataArray ip.toSettings cell.memCellType).blockSize / 2 ^ i :=
    Nat.div_pos hle (Nat.two_pow_pos i)
  rw [← hpartition] at hblock ⊢
  obtain ⟨q, matParams, hmat, hlegal⟩ := hall.legal hp rfl hdesignable.addressBit
    hdesignable.associativity hblock cell.memCellType
-- the candidate is valid, so it must have passed the check
  have hbank := valid_of_legal hp hsenses hmat hlegal
  have hvalid : (evaluate (.permissive measures) ip.toSettings cell localWire globalWire
      (c.toBankParams (dataArray ip.toSettings cell.memCellType) ip.internalSensing
        .data)).invalid = false := by
    rw [toBank_evaluate, checkAspectRatio_permissive]
    exact hbank
  rcases hverified _ hmem with hinvalid | hstored
  · rw [hvalid] at hinvalid
    cases hinvalid
  · rw [storedCapacity_evaluate hp rfl hvalid] at hstored
    exact hstored

/-- For a configuration with the default space: with exact counts no circuit models make the
data phase exit in `VERIFY_DATA_CAPACITY` if and only if a designable array is exact. -/
theorem dataPhase_keeps_capacity_iff (hconstraint : ip₀.applyConstraint cell.memCellType = some ip)
    (hspace : ip.toSearchSpace.IsDefault) :
    (∀ models : Models K, dataPhase models ip cell ≠ .error .capacityViolation) ↔
      ∀ localWire globalWire, ip.initialBasicWire = .ok (localWire, globalWire) →
        ip.Senses cell.memCellType globalWire →
          (dataArray ip.toSettings cell.memCellType).Designable →
            (dataArray ip.toSettings cell.memCellType).Exact := by
  obtain ⟨args, hargs, -⟩ := InputParameter.enumerates_dataCandidates
    (InputParameter.dataSpace_isDefault hspace).powersOfTwo.positive cell.memCellType
  rw [forall_congr' fun models : Models K => dataPhase_verified_iff models hargs]
  constructor
  · intro hverified localWire globalWire hwires hsenses hdesignable
    exact exact_of_capacityVerified hconstraint hspace hargs hsenses hdesignable
      (hverified (.permissive fun _ _ => .fresh) localWire globalWire hwires)
  · intro hexact models localWire globalWire hwires
    exact capacityVerified_of_exact models hconstraint hspace hargs
      (hexact localWire globalWire hwires)

end Check

/-- A RAM with the default search space, for examples. -/
def InputParameter.ram (capacity wordWidth : ℕ) : InputParameter K where
  toSettings :=
    { (Settings.new capacity wordWidth .hp "" 300 : Settings K) with designTarget := .ramChip }
  toSearchSpace := .restored 1

end NVSim
