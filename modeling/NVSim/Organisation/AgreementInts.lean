import NVSim.Htree.RoutingInts
import NVSim.Organisation.Capacity

/-!
# The two organisations with machine integers

`BankWithHtree` stores the block in an `int` and halves it, `BankWithoutHtree` divides it and
stores the quotient.  As long as the block fits an `int` both call `Mat::Initialize` with the
same integers, and it does the same for both, whatever overflows in it.  Where the tree stops
early, the mat has to be rejected by the other organisation without a division by zero, so the
product of the mux degrees must not wrap around.
-/

namespace NVSim

open Library

/-- The integers of a bank with their products fit an `int`. -/
structure BankParams.IntsFit (p : BankParams) : Prop where
  blockSize : p.blockSize < 2 ^ 31
  associativity : p.associativity < 2 ^ 31
  mats : p.numRowMat * p.numColumnMat < 2 ^ 31
  subarrays : p.numRowSubarray * p.numColumnSubarray < 2 ^ 31
  muxDegree : p.muxDegree * p.numWayPerRow < 2 ^ 31

namespace BankParams

theorem intBits {p : BankParams} (hblock : p.blockSize < 2 ^ 31)
    (hways : p.associativity < 2 ^ 31) : p.IntBits := by
  have hlog : Nat.log 2 p.associativity < 2 ^ 31 :=
    (Nat.log_le_self 2 p.associativity).trans_lt hways
  constructor
  · unfold numDataDistributeBit
    split
    · exact hblock
    · exact hways
    · norm_num
  · unfold numDataBroadcastBit
    split
    · exact hlog
    · exact hblock
    · exact hblock

/-! ## What reaches a mat -/

theorem toInt64_ofNat {n : ℕ} (h : n < 2 ^ 31) : (Int32.ofNat n).toInt64 = Int64.ofNat n :=
  int32_toInt64_ofNat h

/-- The arrived routing passes on the `int`s of the exact data bits and ways. -/
theorem storedRoutedWithHtree_toInts {p : BankParams} {s : RoutingVars} (hs : s.IntBits) :
    p.storedRoutedWithHtree s.toInts =
      (p.routedWithHtree s).map (Prod.map Int64.ofNat id) := by
  have hdistribute : (Int32.ofNat s.numDataDistributeBitToRoute).toInt64 = _ :=
    toInt64_ofNat hs.distribute
  have hbroadcast : (Int32.ofNat s.numDataBroadcastBitToRoute).toInt64 = _ :=
    toInt64_ofNat hs.broadcast
  have hclamp {n : ℕ} (h : n < 2 ^ 31) : (Int32.ofNat n).toNatClampNeg = n := by
    rw [Int32.toNatClampNeg, Int32.toInt_ofNat_of_lt h, Int.toNat_natCast]
  unfold storedRoutedWithHtree routedWithHtree
  cases p.memoryType with
  | data =>
      simp only [RoutingVars.toInts, RoutingVars.map, hclamp hs.broadcast, hdistribute]
      split <;> rfl
  | tag =>
      have hzero := int32_ofNat_eq_zero_iff (hs.distribute.trans (by norm_num))
      simp only [RoutingVars.toInts, RoutingVars.map, hclamp hs.distribute, hbroadcast, hzero]
      split
      · rfl
      · split <;> rfl
  | cam =>
      simp only [RoutingVars.toInts, RoutingVars.map, hbroadcast]
      rfl

/-- The closed form stores a quotient that fits an `int`. -/
theorem storedRoutedWithoutHtree_eq {p : BankParams} (hblock : p.blockSize < 2 ^ 31) :
    p.storedRoutedWithoutHtree = p.routedWithoutHtree.map (Prod.map Int64.ofNat id) := by
  unfold storedRoutedWithoutHtree
  cases hrouted : p.routedWithoutHtree with
  | none => rfl
  | some bits =>
      obtain ⟨numDataBit, numWay⟩ := bits
      have hle : numDataBit ≤ p.blockSize := by
        unfold routedWithoutHtree at hrouted
        split at hrouted
        · split at hrouted
          · cases hrouted
          · obtain ⟨rfl, -⟩ := Prod.mk.inj (Option.some.inj hrouted)
            exact (Nat.div_le_self _ _).trans (Nat.div_le_self _ _)
        · split at hrouted
          · cases hrouted
          · dsimp only at hrouted
            split at hrouted
            · cases hrouted
            · obtain ⟨rfl, -⟩ := Prod.mk.inj (Option.some.inj hrouted)
              exact le_rfl
        · obtain ⟨rfl, -⟩ := Prod.mk.inj (Option.some.inj hrouted)
          exact le_rfl
      exact congrArg (fun bits => some (bits, numWay)) (toInt64_ofNat (hle.trans_lt hblock))

/-- A call of `Mat::Initialize` with the data bits in another type. -/
theorem matCall_map {ι κ : Type} (f : ι → κ) (memCellType : MemCellType) (p : BankParams)
    (numAddressBit : ℤ) (bits : Option (ι × ℕ)) :
    p.matCall memCellType numAddressBit (bits.map (Prod.map f id)) =
      (p.matCall memCellType numAddressBit bits).map (Prod.map id (MatParams.map f)) := by
  cases bits with
  | none => rfl
  | some bits => rfl

theorem storedParamsWithHtree_toInts {p : BankParams} {s : RoutingVars} (hs : s.IntBits)
    (memCellType : MemCellType) :
    p.storedParamsWithHtree memCellType s.toInts =
      (p.matParamsWithHtree memCellType s).map (Prod.map id (MatParams.map Int64.ofNat)) := by
  unfold storedParamsWithHtree matParamsWithHtree
  rw [storedRoutedWithHtree_toInts hs]
  exact matCall_map _ _ _ _ _

theorem storedParamsWithoutHtree_eq {p : BankParams} (hblock : p.blockSize < 2 ^ 31)
    (memCellType : MemCellType) :
    p.storedParamsWithoutHtree memCellType =
      (p.matParamsWithoutHtree memCellType).map (Prod.map id (MatParams.map Int64.ofNat)) := by
  unfold storedParamsWithoutHtree matParamsWithoutHtree
  rw [storedRoutedWithoutHtree_eq hblock]
  exact matCall_map _ _ _ _ _

/-- The ways of a row multiply the mux degree of the mat. -/
theorem muxDegree_of_matCall {p q : BankParams} {memCellType : MemCellType}
    {matParams : MatParams} (hassoc : p.associativity.isPowerOfTwo)
    (hset : p.numRowPerSet.isPowerOfTwo)
    (h : p.matParamsWithoutHtree memCellType = some (q, matParams)) :
    matParams.muxDegree = p.muxDegree * p.numWayPerRow := by
  obtain ⟨numDataBit, numWay, hbits, rfl, rfl⟩ := matCall_eq_some h
  show (p.expandDataMux memCellType numWay).muxDegree = _
  unfold expandDataMux numWayPerRow
  unfold routedWithoutHtree at hbits
  cases htype : p.memoryType with
  | data =>
      simp only [htype] at hbits
      split at hbits
      · cases hbits
      · rename_i hle
        obtain ⟨-, rfl⟩ := Prod.mk.inj (Option.some.inj hbits)
        obtain ⟨w, hw⟩ := isPowerOfTwo_div hassoc hset
          (Nat.div_pos (not_lt.1 hle) (Nat.pos_of_isPowerOfTwo hset))
        simp only [hw, muxDegree_expandMux]
  | tag => exact (mul_one _).symm
  | cam => exact (mul_one _).symm

end BankParams

/-! ## `Mat::Initialize` without a division by zero -/

section Mat

variable {undefined : Undefined} {el : Electrical Int64} {args : MatParams Int64}

/-- Neither divisor of a call wraps around to zero. -/
structure MatParams.DivisorsFit {ι : Type} (p : MatParams ι) : Prop where
  muxDegree_pos : 0 < p.muxDegree
  muxDegree_lt : p.muxDegree < 2 ^ 31
  active_pos : 0 < p.numActiveSubarrayPerRow * p.numActiveSubarrayPerColumn
  active_lt : p.numActiveSubarrayPerRow * p.numActiveSubarrayPerColumn < 2 ^ 31

/-- Such a call returns.  Without address bits or without data bits it rejects the mat. -/
theorem MatParams.DivisorsFit.initializeMatInt (h : args.clampActive.DivisorsFit) :
    ∃ mat, initializeMatInt undefined el args = some mat ∧
      (args.clampActive.effectiveAddressBit ≤ 0 ∨ args.numDataBit = 0 → mat.invalid = true) := by
  have hmux : args.clampActive.muxProduct ≠ 0 := by
    rw [Ne, muxProduct_eq_zero_iff]
    intro hdvd
    have hle := Nat.le_of_dvd h.muxDegree_pos hdvd
    have hlt := h.muxDegree_lt
    omega
  have hactive : Int32.ofNat args.clampActive.numActiveSubarrayPerRow *
      Int32.ofNat args.clampActive.numActiveSubarrayPerColumn ≠ 0 := by
    rw [← Int32.ofNat_mul, Ne, int32_ofNat_eq_zero_iff (h.active_lt.trans (by norm_num))]
    exact h.active_pos.ne'
  obtain ⟨mat, hmat, hpassed⟩ :=
    exists_initializeMatInt undefined el args (if_neg hmux) (if_neg hactive)
  refine ⟨mat, hmat, fun hstarved => ?_⟩
  cases hinvalid : mat.invalid with
  | true => rfl
  | false =>
      have hmatPassed := hpassed hinvalid
      rcases hstarved with hnone | hnone
      · exact absurd hnone (not_le.2 hmatPassed.addressBit)
      · apply absurd _ hmatPassed.columns_ne
        show args.numDataBit / _ = 0
        rw [hnone]
        exact Int64.zero_div

end Mat

/-! ## Banks -/

namespace BankParams

variable {args q : BankParams} {memCellType : MemCellType} {matParams : MatParams}

theorem clamp_pos_le {active total : ℕ} (hactive : 0 < active) (htotal : 0 < total) :
    0 < (if active > total then total else active) ∧
      (if active > total then total else active) ≤ total := by
  split <;> omega

theorem IntsFit.clampActive (h : args.IntsFit) : args.clampActive.IntsFit :=
  ⟨h.blockSize, h.associativity, h.mats, h.subarrays, h.muxDegree⟩

/-- The call of a bank whose integers fit has divisors that fit. -/
theorem IntsFit.divisorsFit (h : args.IntsFit) (hassoc : args.associativity.isPowerOfTwo)
    (hset : args.numRowPerSet.isPowerOfTwo) (hmux : 0 < args.muxDegree)
    (hrow : 0 < args.numRowSubarray) (hcolumn : 0 < args.numColumnSubarray)
    (hactiveRow : 0 < args.numActiveSubarrayPerRow)
    (hactiveColumn : 0 < args.numActiveSubarrayPerColumn)
    (hmat : args.clampActive.matParamsWithoutHtree memCellType = some (q, matParams)) :
    matParams.clampActive.DivisorsFit := by
  have hdegree : matParams.muxDegree = args.muxDegree * args.numWayPerRow :=
    muxDegree_of_matCall (p := args.clampActive) hassoc hset hmat
  have hways : 0 < args.numWayPerRow := by
    obtain ⟨numDataBit, numWay, hbits, -⟩ := matCall_eq_some hmat
    unfold numWayPerRow
    unfold routedWithoutHtree at hbits
    cases htype : args.memoryType with
    | data =>
        have hclamped : args.clampActive.memoryType = .data := htype
        simp only [hclamped] at hbits
        split at hbits
        · cases hbits
        · rename_i hle
          exact Nat.div_pos (not_lt.1 hle) (Nat.pos_of_isPowerOfTwo hset)
    | tag => exact one_pos
    | cam => exact one_pos
  obtain ⟨numDataBit, numWay, -, rfl, rfl⟩ := matCall_eq_some hmat
  obtain ⟨m₀, m₁, m₂, hexpand⟩ := expandDataMux_eq memCellType numWay args.clampActive
  rw [hexpand] at hdegree ⊢
  have hperRow := clamp_pos_le (clamp_pos_le hactiveRow hcolumn).1 hcolumn
  have hperColumn := clamp_pos_le (clamp_pos_le hactiveColumn hrow).1 hrow
  have hactive := Nat.mul_le_mul hperRow.2 hperColumn.2
  rw [mul_comm args.numColumnSubarray] at hactive
  refine ⟨?_, ?_, Nat.mul_pos hperRow.1 hperColumn.1, hactive.trans_lt h.subarrays⟩
  · exact hdegree.symm ▸ Nat.mul_pos hmux hways
  · exact hdegree.symm ▸ h.muxDegree

end BankParams

section Exact

variable {undefined : Undefined} {el : Electrical Int64} {memCellType : MemCellType}
  {globalWireRepeaterType : WireRepeaterType} {args : BankParams}

/-- Where the integers of its mat fit, a bank without H-tree is the exact one. -/
theorem initializeBankWithoutHtreeInt_eq (hblock : args.blockSize < 2 ^ 31)
    (hmat : ∀ q matParams,
      args.clampActive.matParamsWithoutHtree memCellType = some (q, matParams) →
        0 < matParams.clampActive.effectiveAddressBit → matParams.clampActive.IntsFit) :
    initializeBankWithoutHtreeInt undefined el memCellType globalWireRepeaterType args =
      some ((initializeBankWithoutHtree el.exact memCellType globalWireRepeaterType args).map
        Int64.ofNat) := by
  have hflat := BankParams.storedParamsWithoutHtree_eq (p := args.clampActive) hblock memCellType
  unfold initializeBankWithoutHtreeInt initializeBankWithoutHtree
  cases args.externalSensing memCellType globalWireRepeaterType with
  | some bank => rfl
  | none =>
      dsimp only
      rw [hflat]
      cases hsome : args.clampActive.matParamsWithoutHtree memCellType with
      | none => rfl
      | some call =>
          obtain ⟨q, matParams⟩ := call
          have hinit := initializeMatInt_map undefined el (hmat q matParams hsome)
          simp only [Option.map, Prod.map, id, hinit, bind, Option.bind]
          have hinvalid : ((initializeMat el.exact matParams).map Int64.ofNat).invalid =
              (initializeMat el.exact matParams).invalid := rfl
          rw [hinvalid]
          split
          · rfl
          · have hsenseAmp (n m : ℕ) :
                el.exact.globalSenseAmpInvalid n m (initializeMat el.exact matParams) =
                  el.globalSenseAmpInvalid n m
                    ((initializeMat el.exact matParams).map Int64.ofNat) := rfl
            rw [hsenseAmp]
            split
            · rfl
            · rfl

/-- A bank of other integers. -/
def BankWithHtree.map {ι κ ι' κ' : Type} (f : ι → ι') (g : κ → κ') (b : BankWithHtree ι κ) :
    BankWithHtree ι' κ' where
  toBank := b.toBank.map f
  horizontal := b.horizontal.map g
  vertical := b.vertical.map g
  routed := b.routed

theorem BankWithHtree.rejected_map {ι κ ι' κ' : Type} {f : ι → ι'} (g : κ → κ') {b : Bank ι}
    {b' : Bank ι'} (h : b' = b.map f) :
    BankWithHtree.rejected b' = (BankWithHtree.rejected b : BankWithHtree ι κ).map f g := by
  unfold BankWithHtree.map BankWithHtree.rejected
  rw [WireArrays.map_allocate, WireArrays.map_allocate, h]
  rfl

/-- Where the integers of the routing and of its mat fit, a bank with H-tree is the exact one. -/
theorem initializeBankWithHtreeInt_eq (hbits : args.clampActive.IntBits)
    (hmat : ∀ s q matParams, args.clampActive.route = .ok s →
      args.clampActive.matParamsWithHtree memCellType s = some (q, matParams) →
        0 < matParams.clampActive.effectiveAddressBit → matParams.clampActive.IntsFit) :
    initializeBankWithHtreeInt undefined el memCellType args =
      (initializeBankWithHtree el.exact memCellType args).map
        (BankWithHtree.map Int64.ofNat Int32.ofNat) := by
  obtain ⟨hrouteInt, hmaps⟩ := BankParams.maps_route hbits
  unfold initializeBankWithHtreeInt initializeBankWithHtree
  split
  · exact congrArg some (BankWithHtree.rejected_map _ rfl)
  · dsimp only
    rw [hrouteInt]
    cases hr : args.clampActive.route with
    | error e =>
        cases e with
        | invalid => exact congrArg some (BankWithHtree.rejected_map _ rfl)
        | arrayAccess => rfl
    | ok s =>
        have htree := BankParams.storedParamsWithHtree_toInts (p := args.clampActive) (hmaps s hr)
          memCellType
        simp only [Except.map, htree]
        cases hsome : args.clampActive.matParamsWithHtree memCellType s with
        | none => exact congrArg some (BankWithHtree.rejected_map _ rfl)
        | some call =>
            obtain ⟨q, matParams⟩ := call
            have hinit := initializeMatInt_map undefined el (hmat s q matParams hr hsome)
            simp only [Option.map, Prod.map, id, hinit, bind, Option.bind]
            have hinvalid : ((initializeMat el.exact matParams).map Int64.ofNat).invalid =
                (initializeMat el.exact matParams).invalid := rfl
            rw [hinvalid]
            split
            · exact congrArg some (BankWithHtree.rejected_map _ rfl)
            · rfl

/-- Where nothing overflows, the bank is the exact one in either organisation. -/
theorem initializeBankInt_eq (routingMode : RoutingMode) (hblock : args.blockSize < 2 ^ 31)
    (hways : args.associativity < 2 ^ 31) (hassoc : args.associativity.isPowerOfTwo)
    (hrow : args.numRowMat.isPowerOfTwo) (hcolumn : args.numColumnMat.isPowerOfTwo)
    (hactiveRow : args.numActiveMatPerRow.isPowerOfTwo)
    (hactiveColumn : args.numActiveMatPerColumn.isPowerOfTwo)
    (hmat : ∀ q matParams,
      args.clampActive.matParamsWithoutHtree memCellType = some (q, matParams) →
        0 < matParams.clampActive.effectiveAddressBit → matParams.clampActive.IntsFit) :
    initializeBankInt undefined el memCellType globalWireRepeaterType routingMode args =
      (initializeBank el.exact memCellType globalWireRepeaterType routingMode args).map
        (Bank.map Int64.ofNat) := by
  cases routingMode with
  | nonHTree => exact initializeBankWithoutHtreeInt_eq hblock hmat
  | hTree =>
      obtain ⟨r, c, x, y, hgrid⟩ :=
        BankParams.exists_matGrid hrow hcolumn hactiveRow hactiveColumn
      have hroute := args.clampActive.yields_route args.numActiveMatPerRow_clampActive_le_one
      have hbits : args.clampActive.IntBits :=
        BankParams.intBits (p := args.clampActive) hblock hways
      have htree : initializeBankWithHtreeInt undefined el memCellType args = _ :=
        initializeBankWithHtreeInt_eq hbits fun s q matParams hs hsome => by
          rw [hs, yields_ok] at hroute
          rw [hgrid.matParamsWithHtree_eq hassoc hroute] at hsome
          exact hmat q matParams hsome
      unfold initializeBankInt initializeBank
      dsimp only
      rw [htree, Option.map_map, Option.map_map]
      rfl

/-- The bank of a mat, rejected or with the mux degrees of its arguments. -/
def BankParams.bankOf (args q : BankParams) (rejected : Bool) (mat : Mat Int64) : Bank Int64 :=
  if rejected then { toBankParams := q, initialized := true, invalid := true, mat := mat }
  else { toBankParams := args.restoreMux q, initialized := true, invalid := false, mat := mat }

/-- How a bank goes on after `Mat::Initialize` returned. -/
structure BankParams.Finishes (args : BankParams) (el : Electrical Int64) (mat : Mat Int64)
    (b : Bank Int64) : Prop where
  invalid : mat.invalid = true → b.invalid = true
  valid : mat.invalid = false → (∀ n m, el.globalSenseAmpInvalid n m mat = false) →
    b.invalid = false
  params : b.invalid = false → b.toBankParams = args ∧ b.mat = mat

/-- Only a valid mat makes a valid bank. -/
theorem BankParams.Finishes.mat_valid {mat : Mat Int64} {b : Bank Int64}
    (h : args.Finishes el mat b) (hvalid : b.invalid = false) : mat.invalid = false := by
  cases hmat : mat.invalid with
  | true =>
      rw [h.invalid hmat] at hvalid
      cases hvalid
  | false => rfl

theorem BankParams.finishes_bankOf {q : BankParams} {rejected : Bool} {mat : Mat Int64}
    (hinvalid : mat.invalid = true → rejected = true)
    (hvalid : mat.invalid = false → (∀ n m, el.globalSenseAmpInvalid n m mat = false) →
      rejected = false) (hrestore : args.restoreMux q = args) :
    args.Finishes el mat (args.bankOf q rejected mat) := by
  refine ⟨fun h => ?_, fun h hsense => ?_, fun h => ?_⟩
  · rw [hinvalid h]
    rfl
  · rw [hvalid h hsense]
    rfl
  · cases rejected with
    | true => cases h
    | false => exact ⟨hrestore, rfl⟩

theorem BankParams.restoreMux_of_call {q : BankParams} {matParams : MatParams}
    (hcall : args.matParamsWithoutHtree memCellType = some (q, matParams)) :
    args.restoreMux q = args := by
  obtain ⟨numDataBit, numWay, -, rfl, -⟩ := BankParams.matCall_eq_some hcall
  exact BankParams.restoreMux_expandDataMux _ _ _ _

/-- How a bank is initialised: it is rejected without a call of `Mat::Initialize`, and then a mat
would get no address bits or no data bits, or it calls it with the arguments of the closed form
and returns if this returns. -/
def BankParams.Calls (args : BankParams) (undefined : Undefined) (el : Electrical Int64)
    (memCellType : MemCellType) (sensed : Prop) (ends : Option (Bank Int64)) : Prop :=
  (∃ b, ends = some b ∧ b.invalid = true ∧
    ∀ q matParams, sensed → args.matParamsWithoutHtree memCellType = some (q, matParams) →
      matParams.effectiveAddressBit ≤ 0 ∨ matParams.numDataBit = 0) ∨
  sensed ∧ ∃ q matParams, args.matParamsWithoutHtree memCellType = some (q, matParams) ∧
    ∃ finish : Mat Int64 → Bank Int64,
      ends = (initializeMatInt undefined el (matParams.map Int64.ofNat)).map finish ∧
      ∀ mat, args.Finishes el mat (finish mat)

variable (undefined el memCellType globalWireRepeaterType) in
theorem initializeBankInt_nonHTree_cases (hp : args.PowerOfTwo)
    (hblock : args.blockSize < 2 ^ 31) :
    args.Calls undefined el memCellType
      (args.Sensed memCellType globalWireRepeaterType .nonHTree)
      (initializeBankInt undefined el memCellType globalWireRepeaterType .nonHTree args) := by
  have hflat := BankParams.storedParamsWithoutHtree_eq hblock memCellType
  unfold initializeBankInt initializeBankWithoutHtreeInt
  dsimp only
  cases hexternal : args.externalSensing memCellType globalWireRepeaterType with
  | some bank =>
      -- the scheme is rejected, so the bank is not sensed
      refine .inl ⟨_, rfl, (BankParams.externalSensing_eq_some hexternal).1, ?_⟩
      intro _ _ hsensed
      rw [BankParams.externalSensing_eq_none_iff.2 hsensed] at hexternal
      cases hexternal
  | none =>
      dsimp only
      rw [hp.clampActive_eq, hflat]
      cases hcall : args.matParamsWithoutHtree memCellType with
      | none => exact .inl ⟨_, rfl, rfl, fun _ _ _ h => by rw [hcall] at h; cases h⟩
      | some call =>
          obtain ⟨q, matParams⟩ := call
          refine .inr ⟨BankParams.externalSensing_eq_none_iff.1 hexternal, q, matParams, hcall,
            fun mat => args.bankOf q (mat.invalid || !args.internalSenseAmp &&
              el.globalSenseAmpInvalid args.numSenseAmp args.numColumnMat mat) mat, ?_,
            fun mat => BankParams.finishes_bankOf (fun h => ?_) (fun h hsense => ?_)
              (args.restoreMux_of_call hcall)⟩
          · simp only [Option.map, Prod.map, id, bind, Option.bind]
            cases initializeMatInt undefined el (matParams.map Int64.ofNat) with
            | none => rfl
            | some mat =>
                dsimp only
                cases mat.invalid with
                | true => rfl
                | false => exact (apply_ite some _ _ _).symm
          · rw [h, Bool.true_or]
          · rw [h, hsense, Bool.and_false, Bool.or_false]

variable (undefined el memCellType globalWireRepeaterType) in
theorem initializeBankInt_hTree_cases (hp : args.PowerOfTwo)
    (hblock : args.blockSize < 2 ^ 31) (hways : args.associativity < 2 ^ 31) :
    args.Calls undefined el memCellType
      (args.Sensed memCellType globalWireRepeaterType .hTree)
      (initializeBankInt undefined el memCellType globalWireRepeaterType .hTree args) := by
  obtain ⟨r, c, x, y, hgrid⟩ := BankParams.exists_matGrid hp.numRowMat hp.numColumnMat
    hp.numActiveMatPerRow hp.numActiveMatPerColumn
  rw [hp.clampActive_eq] at hgrid
  have hroute := args.clampActive.yields_route args.numActiveMatPerRow_clampActive_le_one
  rw [hp.clampActive_eq] at hroute
  obtain ⟨hrouteInt, hmaps⟩ := BankParams.maps_route (BankParams.intBits hblock hways)
  have hinternal (hsensed : args.Sensed memCellType globalWireRepeaterType .hTree) :
      args.internalSenseAmp = true := by
    rcases hsensed with hinternal | ⟨h, -⟩
    · exact hinternal
    · cases h
  unfold initializeBankInt initializeBankWithHtreeInt
  dsimp only
  split
  · rename_i hsense
    -- an external sensing scheme, which the tree does not have
    refine .inl ⟨_, rfl, rfl, fun _ _ hsensed => ?_⟩
    rw [hinternal hsensed] at hsense
    cases hsense
  · rename_i hsense
    rw [hp.clampActive_eq, hrouteInt]
    cases hr : args.route with
    | error e =>
        -- the walk is blocked where the closed form starves the mat
        rw [hr, yields_error] at hroute
        obtain ⟨rfl, hblocked⟩ := hroute
        refine .inl ⟨_, rfl, rfl, fun q matParams _ hcall => ?_⟩
        have hstarved := hgrid.dataBit_of_stopsBlocked ⟨rfl, hblocked⟩ hcall
        rw [(hp.matCalled hcall).clampActive_eq] at hstarved
        exact hstarved
    | ok s =>
        rw [hr, yields_ok] at hroute
        have htree :=
          BankParams.storedParamsWithHtree_toInts (p := args) (hmaps s hr) memCellType
        rw [hgrid.matParamsWithHtree_eq hp.associativity hroute] at htree
        simp only [Except.map, htree]
        cases hcall : args.matParamsWithoutHtree memCellType with
        | none => exact .inl ⟨_, rfl, rfl, fun _ _ _ h => by rw [hcall] at h; cases h⟩
        | some call =>
            obtain ⟨q, matParams⟩ := call
            refine .inr ⟨.inl (Bool.eq_true_of_not_eq_false hsense), q, matParams, hcall,
              fun mat => args.bankOf q mat.invalid mat, ?_,
              fun mat => BankParams.finishes_bankOf id (fun h _ => h)
                (args.restoreMux_of_call hcall)⟩
            -- the tree delivers to the mat what the closed form does
            simp only [Option.map, Prod.map, id, bind, Option.bind]
            cases initializeMatInt undefined el (matParams.map Int64.ofNat) with
            | none => rfl
            | some mat =>
                dsimp only
                cases mat.invalid with
                | true => rfl
                | false => rfl

variable (undefined el memCellType globalWireRepeaterType) in
/-- A bank whose counts are powers of two and whose bits fit an `int` is initialised in this way
by either organisation. -/
theorem initializeBankInt_cases (routingMode : RoutingMode) (hp : args.PowerOfTwo)
    (hblock : args.blockSize < 2 ^ 31) (hways : args.associativity < 2 ^ 31) :
    args.Calls undefined el memCellType
      (args.Sensed memCellType globalWireRepeaterType routingMode)
      (initializeBankInt undefined el memCellType globalWireRepeaterType routingMode args) := by
  cases routingMode with
  | nonHTree =>
      exact initializeBankInt_nonHTree_cases undefined el memCellType globalWireRepeaterType hp
        hblock
  | hTree =>
      exact initializeBankInt_hTree_cases undefined el memCellType globalWireRepeaterType hp
        hblock hways

end Exact

/-! ## Agreement -/

/-- A bank that is sensed internally and whose integers fit an `int` is invalid in both
organisations, or valid in both with the same parameters and the same mat: the same address and
data bits, ways and mux degrees, hence the same rows and columns of a subarray. -/
theorem organisations_agree (undefined : Undefined) (el : Electrical Int64)
    (memCellType : MemCellType) (globalWireRepeaterType : WireRepeaterType) (args : BankParams)
    (hsense : args.internalSenseAmp = true) (hfit : args.IntsFit)
    (hassoc : args.associativity.isPowerOfTwo) (hset : args.numRowPerSet.isPowerOfTwo)
    (hrow : args.numRowMat.isPowerOfTwo) (hcolumn : args.numColumnMat.isPowerOfTwo)
    (hactiveRow : args.numActiveMatPerRow.isPowerOfTwo)
    (hactiveColumn : args.numActiveMatPerColumn.isPowerOfTwo)
    (hrowSubarray : args.numRowSubarray.isPowerOfTwo)
    (hcolumnSubarray : args.numColumnSubarray.isPowerOfTwo)
    (hactiveRowSubarray : args.numActiveSubarrayPerRow.isPowerOfTwo)
    (hactiveColumnSubarray : args.numActiveSubarrayPerColumn.isPowerOfTwo)
    (hmux : 0 < args.muxDegree) :
    ∃ b b', initializeBankWithHtreeInt undefined el memCellType args = some b ∧
      initializeBankWithoutHtreeInt undefined el memCellType globalWireRepeaterType args =
        some b' ∧
      (b.invalid = true ∧ b'.invalid = true ∨ b.invalid = false ∧ b.toBank = b') := by
  obtain ⟨r, c, x, y, hgrid⟩ :=
    BankParams.exists_matGrid hrow hcolumn hactiveRow hactiveColumn
  have hexternal : args.externalSensing memCellType globalWireRepeaterType = none := by
    rw [BankParams.externalSensing_eq_none_iff]
    exact .inl hsense
  have hinternal : args.clampActive.internalSenseAmp = true := hsense
  have hbits : args.clampActive.IntBits :=
    BankParams.intBits (p := args.clampActive) hfit.blockSize hfit.associativity
  have hroute := args.clampActive.yields_route args.numActiveMatPerRow_clampActive_le_one
  obtain ⟨hrouteInt, hmaps⟩ := BankParams.maps_route hbits
  -- the mat of the closed form, wherever it is called
  have hmat {q : BankParams} {matParams : MatParams}
      (hsome : args.clampActive.matParamsWithoutHtree memCellType = some (q, matParams)) :
      ∃ mat, initializeMatInt undefined el (matParams.map Int64.ofNat) = some mat ∧
        ((matParams.map Int64.ofNat).clampActive.effectiveAddressBit ≤ 0 ∨
          (matParams.map Int64.ofNat).numDataBit = 0 → mat.invalid = true) := by
    have hdivisors := hfit.divisorsFit hassoc hset hmux (Nat.pos_of_isPowerOfTwo hrowSubarray)
      (Nat.pos_of_isPowerOfTwo hcolumnSubarray) (Nat.pos_of_isPowerOfTwo hactiveRowSubarray)
      (Nat.pos_of_isPowerOfTwo hactiveColumnSubarray) hsome
    exact MatParams.DivisorsFit.initializeMatInt
      ⟨hdivisors.muxDegree_pos, hdivisors.muxDegree_lt, hdivisors.active_pos,
        hdivisors.active_lt⟩
  have hflat : args.clampActive.storedParamsWithoutHtree memCellType = _ :=
    BankParams.storedParamsWithoutHtree_eq hfit.clampActive.blockSize memCellType
  unfold initializeBankWithHtreeInt initializeBankWithoutHtreeInt
  rw [if_neg (by rw [hsense]; exact Bool.noConfusion), hexternal]
  dsimp only
  rw [hrouteInt, hflat]
  cases hr : args.clampActive.route with
  | error e =>
      -- the walk is blocked: the closed form calls `Mat::Initialize`, which rejects
      rw [hr, yields_error] at hroute
      obtain ⟨rfl, hblocked⟩ := hroute
      cases hsome : args.clampActive.matParamsWithoutHtree memCellType with
      | none => exact ⟨_, _, rfl, rfl, .inl ⟨rfl, rfl⟩⟩
      | some call =>
          obtain ⟨q, matParams⟩ := call
          obtain ⟨mat, hinit, hinvalid⟩ := hmat hsome
          have hstarved := hgrid.dataBit_of_stopsBlocked ⟨rfl, hblocked⟩ hsome
          have hrejected : mat.invalid = true := by
            refine hinvalid (hstarved.imp_right fun hzero => ?_)
            show Int64.ofNat matParams.numDataBit = 0
            rw [hzero]
            rfl
          simp only [Except.map, Option.map, Prod.map, id, hinit, bind, Option.bind, hrejected,
            if_true]
          exact ⟨_, _, rfl, rfl, .inl ⟨rfl, rfl⟩⟩
  | ok s =>
      rw [hr, yields_ok] at hroute
      have htree := BankParams.storedParamsWithHtree_toInts (p := args.clampActive) (hmaps s hr)
        memCellType
      rw [hgrid.matParamsWithHtree_eq hassoc hroute] at htree
      simp only [Except.map, htree]
      cases hsome : args.clampActive.matParamsWithoutHtree memCellType with
      | none => exact ⟨_, _, rfl, rfl, .inl ⟨rfl, rfl⟩⟩
      | some call =>
          obtain ⟨q, matParams⟩ := call
          obtain ⟨mat, hinit, -⟩ := hmat hsome
          simp only [Option.map, Prod.map, id, hinit, bind, Option.bind, hinternal, Bool.not_true,
            Bool.false_and, Bool.false_eq_true, if_false]
          cases hinvalid : mat.invalid with
          | true => exact ⟨_, _, rfl, rfl, .inl ⟨rfl, rfl⟩⟩
          | false => exact ⟨_, _, rfl, rfl, .inr ⟨rfl, rfl⟩⟩

/-- The small bank is valid, in both organisations the same. -/
theorem organisations_agree_small :
    ∃ b b', initializeBankWithHtreeInt ⟨0, 0⟩ .permissive .sram .small = some b ∧
      initializeBankWithoutHtreeInt ⟨0, 0⟩ .permissive .sram .repeatedNone .small = some b' ∧
      b.invalid = false ∧ b.toBank = b' := by
  have hvalid : (initializeBankWithHtreeInt ⟨0, 0⟩ .permissive .sram .small).map (·.invalid) =
      some false := by
    decide +kernel
  obtain ⟨b, b', hb, hb', hagree⟩ := organisations_agree ⟨0, 0⟩ .permissive .sram .repeatedNone
    .small rfl ⟨by decide, by decide, by decide, by decide, by decide⟩ ⟨2, rfl⟩ ⟨0, rfl⟩ ⟨1, rfl⟩
    ⟨2, rfl⟩ ⟨1, rfl⟩ ⟨0, rfl⟩ ⟨1, rfl⟩ ⟨1, rfl⟩ ⟨1, rfl⟩ ⟨0, rfl⟩ (by decide)
  refine ⟨b, b', hb, hb', ?_⟩
  rw [hb] at hvalid
  obtain ⟨hinvalid, -⟩ | hvalid' := hagree
  · rw [Option.map_some, hinvalid] at hvalid
    cases hvalid
  · exact hvalid'

/-- A data array of four mats, all active, with a block that an `int` stores as zero. -/
def BankParams.wideBlock : BankParams :=
  { small with
    numRowMat := 1
    capacity := 2 ^ 42
    blockSize := 2 ^ 32
    associativity := 1
    numActiveMatPerRow := 4
    numRowSubarray := 1
    numColumnSubarray := 1
    numActiveSubarrayPerRow := 1 }

/-- A data array of four mats, all active, with blocks of one bit and mux degrees whose product
an `int` stores as zero. -/
def BankParams.wideMux : BankParams :=
  { wideBlock with
    capacity := 2 ^ 40
    blockSize := 1
    muxSenseAmp := 2 ^ 16
    muxOutputLev1 := 2 ^ 16 }

/-- With a block of `2 ^ 32` bits the tree has nothing to route, and the closed form calls
`Mat::Initialize` with `2 ^ 30` data bits.  With a mux product of `2 ^ 32` the tree stops early,
and the closed form divides by zero. -/
theorem organisations_disagree :
    (∃ b b', initializeBankWithHtreeInt ⟨0, 0⟩ .permissive .sram .wideBlock = some b ∧
      b.invalid = true ∧
      initializeBankWithoutHtreeInt ⟨0, 0⟩ .permissive .sram .repeatedNone .wideBlock = some b' ∧
      b'.invalid = false ∧ b'.mat.numDataBit = 2 ^ 30) ∧
    (∃ b, initializeBankWithHtreeInt ⟨0, 0⟩ .permissive .sram .wideMux = some b ∧
      b.invalid = true) ∧
    initializeBankWithoutHtreeInt ⟨0, 0⟩ .permissive .sram .repeatedNone .wideMux = none := by
  have htree : (initializeBankWithHtreeInt ⟨0, 0⟩ .permissive .sram .wideBlock).map (·.invalid) =
      some true := by
    decide +kernel
  have hflat : (initializeBankWithoutHtreeInt ⟨0, 0⟩ .permissive .sram .repeatedNone
      .wideBlock).map (fun b => (b.invalid, b.mat.numDataBit)) = some (false, 2 ^ 30) := by
    decide +kernel
  have hblocked : (initializeBankWithHtreeInt ⟨0, 0⟩ .permissive .sram .wideMux).map (·.invalid) =
      some true := by
    decide +kernel
  obtain ⟨b, hb, hinvalid⟩ := Option.map_eq_some_iff.1 htree
  obtain ⟨b', hb', hbits⟩ := Option.map_eq_some_iff.1 hflat
  obtain ⟨hvalid, hdata⟩ := Prod.mk.inj hbits
  exact ⟨⟨b, b', hb, hinvalid, hb', hvalid, hdata⟩, Option.map_eq_some_iff.1 hblocked,
    by decide +kernel⟩

end NVSim
