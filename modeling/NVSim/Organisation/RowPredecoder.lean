import NVSim.Organisation.AgreementInts

/-!
# Row predecoders

`Mat::Initialize` computes the rows of a subarray from the address bits, the ways
and the mux degree, and the width of the row predecoders from the address bits
and the mux degree alone.  When several ways share a row, the bank has multiplied
the mux degree by their number.  In the rows this cancels against the ways; in
the width nothing compensates for it, and the predecoders are too narrow by the
logarithm of the ways per row.
-/

namespace NVSim

open Library

theorem predecoderBlocks_add (numAddress : ℕ) :
    (predecoderBlocks numAddress).1 + (predecoderBlocks numAddress).2 = numAddress := by
  unfold predecoderBlocks
  split
  · simp only
    omega
  · rfl

/-- What `Mat::Initialize` checks before it computes the predecoders. -/
structure MatParams.Fits (el : Electrical) (p : MatParams) : Prop where
  addressBit : 0 < p.effectiveAddressBit
  numRow : 0 < p.numRow
  numColumn : 0 < p.numColumnSelected
  subarray : el.subArrayInvalid p.subarray = false

/-- The row predecoders address exactly the rows of the subarray: every row of an
accepted mat is one of `numRowPerSet` rows selected by the predecoded bits, and
no mat with a row is rejected for the width of its row predecoders. -/
structure Mat.PredecodersAddressRows (m : Mat) (numRowPerSet : ℕ) : Prop where
  numRow : m.initialized = true → m.invalid = false →
    m.subarray.numRow = numRowPerSet * 2 ^ (m.rowPredecoderBlock1 + m.rowPredecoderBlock2)
  not_rejected : m.reject = some .rowPredecoder → m.subarray.numRow = 0

theorem predecodersAddressRows_fresh (numRowPerSet : ℕ) :
    Mat.fresh.PredecodersAddressRows numRowPerSet where
  numRow := fun hinitialized => by cases hinitialized
  not_rejected := fun hreject => by cases hreject

/-- Before the predecoders are reached, nothing can go wrong with them. -/
theorem predecodersAddressRows_of_not_fits {el : Electrical} {args : MatParams}
    (h : ¬ args.clampActive.Fits el) (numRowPerSet : ℕ) :
    (initializeMat el args).PredecodersAddressRows numRowPerSet := by
  have hrejected : ∃ why subarray, why ≠ .rowPredecoder ∧
      initializeMat el args = .rejected args.clampActive why subarray := by
    unfold initializeMat
    by_cases haddress : args.clampActive.effectiveAddressBit ≤ 0
    · exact ⟨.addressBit, .fresh, by simp, if_pos haddress⟩
    by_cases hrow : args.clampActive.numRow = 0
    · exact ⟨.numRow, .fresh, by simp, by simp [haddress, hrow]⟩
    by_cases hcolumn : args.clampActive.numColumnSelected = 0
    · exact ⟨.numColumn, .fresh, by simp, by simp [haddress, hrow, hcolumn]⟩
    by_cases hsubarray : el.subArrayInvalid args.clampActive.subarray = true
    · exact ⟨.subarray, args.clampActive.subarray, by simp,
        by simp [haddress, hrow, hcolumn, hsubarray]⟩
    exact absurd ⟨not_le.1 haddress, Nat.pos_of_ne_zero hrow, Nat.pos_of_ne_zero hcolumn,
      Bool.eq_false_iff.2 hsubarray⟩ h
  obtain ⟨why, subarray, hwhy, hmat⟩ := hrejected
  rw [hmat]
  constructor
  · intro _ hvalid
    cases hvalid
  · intro hreject
    exact absurd (Option.some.inj hreject) hwhy

/-- A mat that gets to the predecoders meets the property exactly when the rows
are what the predecoded bits can address. -/
theorem predecodersAddressRows_iff {el : Electrical} {args : MatParams}
    (h : args.clampActive.Fits el) (numRowPerSet : ℕ) :
    (initializeMat el args).PredecodersAddressRows numRowPerSet ↔
      0 ≤ args.clampActive.numAddressRowPredecoder ∧
        args.clampActive.numRow =
          numRowPerSet * 2 ^ args.clampActive.numAddressRowPredecoder.toNat := by
  by_cases hnarrow : args.clampActive.numAddressRowPredecoder < 0
  · have hmat : initializeMat el args =
        .rejected args.clampActive .rowPredecoder args.clampActive.subarray := by
      unfold initializeMat
      simp [not_le.2 h.addressBit, h.numRow.ne', h.numColumn.ne', h.subarray, hnarrow]
    rw [hmat]
    constructor
    · intro hproperty
      have hzero : args.clampActive.numRow = 0 := hproperty.not_rejected rfl
      exact absurd hzero h.numRow.ne'
    · rintro ⟨hnonneg, -⟩
      omega
  · have hlegal : args.clampActive.Legal el :=
      ⟨h.addressBit, h.numRow, h.numColumn, h.subarray, not_lt.1 hnarrow⟩
    have hwidth := predecoderBlocks_add args.clampActive.numAddressRowPredecoder.toNat
    rw [initializeMat_of_legal hlegal]
    constructor
    · intro hproperty
      refine ⟨not_lt.1 hnarrow, ?_⟩
      rw [← hwidth]
      exact hproperty.numRow rfl rfl
    · rintro ⟨-, hrow⟩
      rw [← hwidth] at hrow
      exact ⟨fun _ _ => hrow, fun hreject => by cases hreject⟩

namespace BankParams

/-- The address bits that reach a subarray: the bank's, without those for power
gating its mats and their subarrays. -/
def addressBitSubarray (p : BankParams) : ℤ :=
  p.numAddressBit -
    log2Rounded (p.numRowMat * p.numColumnMat / p.numActiveMatPerColumn / p.numActiveMatPerRow) -
    log2Rounded (p.numRowSubarray * p.numColumnSubarray / p.numActiveSubarrayPerColumn /
      p.numActiveSubarrayPerRow)

/-- The subarray of a data array whose rows hold `associativity / numRowPerSet` ways. -/
def dataSubarray (memCellType : MemCellType) (p : BankParams) : SubArray :=
  let q := p.expandMux memCellType (p.associativity / p.numRowPerSet)
  { numRow := 2 ^ p.addressBitSubarray.toNat * p.numRowPerSet / p.muxDegree
    numColumn := p.blockSize / (p.numActiveMat * p.numActiveSubarray) *
      (p.muxDegree * (p.associativity / p.numRowPerSet))
    multipleRowPerSet := decide (p.numRowPerSet > 1)
    split := true
    muxSenseAmp := q.muxSenseAmp
    internalSenseAmp := p.internalSenseAmp
    muxOutputLev1 := q.muxOutputLev1
    muxOutputLev2 := q.muxOutputLev2
    areaOptimizationLevel := p.areaOptimizationLevel }

/-- The mat of a data array gets to the predecoders: the sensing scheme is
supported, the ways can be distributed, address bits, a row and a column for each
active subarray are left, and the electrical models accept the subarray. -/
structure DataMatFits (el : Electrical) (memCellType : MemCellType)
    (globalWireRepeaterType : WireRepeaterType) (routingMode : RoutingMode) (p : BankParams) :
    Prop where
  sensed : p.Sensed memCellType globalWireRepeaterType routingMode
  numRowPerSet_le : p.numRowPerSet ≤ p.associativity
  addressBit : 0 < p.addressBitSubarray
  row : p.muxDegree ≤ 2 ^ p.addressBitSubarray.toNat * p.numRowPerSet
  column : p.numActiveMat * p.numActiveSubarray ≤ p.blockSize
  subarray : el.subArrayInvalid (p.dataSubarray memCellType) = false

/-- The width of the row predecoders does not fit the rows: several ways share a
row, or the multiplexers alone take more bits than there are. -/
def WidthMisfits (p : BankParams) : Prop :=
  p.numRowPerSet < p.associativity ∨ 2 ^ p.addressBitSubarray.toNat < p.muxDegree

/-- The call of `Mat::Initialize` of a data array with power-of-two counts. -/
theorem PowerOfTwo.dataCall {p q : BankParams} (hp : p.PowerOfTwo) {memCellType : MemCellType}
    {matParams : MatParams} (htype : p.memoryType = .data)
    (h : p.matParamsWithoutHtree memCellType = some (q, matParams)) :
    p.numRowPerSet ≤ p.associativity ∧
      matParams.effectiveAddressBit = p.addressBitSubarray ∧
      matParams.numRow = 2 ^ p.addressBitSubarray.toNat * p.numRowPerSet / p.muxDegree ∧
      matParams.numColumnSelected = p.blockSize / (p.numActiveMat * p.numActiveSubarray) ∧
      matParams.subarray = p.dataSubarray memCellType := by
  have hcalled := hp.matCalled h
  obtain ⟨numDataBit, numWay, hbits, hq, hmat⟩ := matCall_eq_some h
  obtain ⟨-, hrouted⟩ := hp.routedWithoutHtree hbits
  simp only [htype] at hrouted
  obtain ⟨hle, rfl, -⟩ := hrouted
  have hmatType : matParams.memoryType = .data := hcalled.memoryType_eq.trans htype
  have hperRow : 0 < p.associativity / p.numRowPerSet :=
    Nat.div_pos hle (Nat.pos_of_isPowerOfTwo hp.numRowPerSet)
  have hways := isPowerOfTwo_div_mul hp.associativity hp.numRowPerSet hperRow
  have hmux : matParams.muxDegree = p.muxDegree * (p.associativity / p.numRowPerSet) := by
    rw [hcalled.muxDegree_eq, numWayPerRow, htype]
  have haddress : matParams.effectiveAddressBit = p.addressBitSubarray := by
    rw [MatParams.effectiveAddressBit, hcalled.addressBit, hcalled.gating]
    rfl
  have hway : matParams.numWay = p.associativity := by
    rw [hmat]
    rfl
-- in the rows the ways cancel against their share of the mux degree
  have hrow : matParams.numRow = 2 ^ p.addressBitSubarray.toNat * p.numRowPerSet / p.muxDegree := by
    rw [MatParams.numRow, if_pos hmatType, haddress, hmux, hway]
    calc 2 ^ p.addressBitSubarray.toNat * p.associativity /
          (p.muxDegree * (p.associativity / p.numRowPerSet))
        = 2 ^ p.addressBitSubarray.toNat * p.numRowPerSet * (p.associativity / p.numRowPerSet) /
            (p.muxDegree * (p.associativity / p.numRowPerSet)) := by
          rw [mul_assoc, mul_comm p.numRowPerSet, hways]
      _ = 2 ^ p.addressBitSubarray.toNat * p.numRowPerSet / p.muxDegree :=
          Nat.mul_div_mul_right _ _ hperRow
  have hselected : matParams.numColumnSelected =
      p.blockSize / (p.numActiveMat * p.numActiveSubarray) := by
    have := hcalled.columns
    rw [MatParams.numWayInColumns, hmatType, if_neg (by simp), mul_one] at this
    rw [this, columnsPerAddress, htype]
  have hcolumn : matParams.numColumn = p.blockSize / (p.numActiveMat * p.numActiveSubarray) *
      (p.muxDegree * (p.associativity / p.numRowPerSet)) := by
    rw [MatParams.numColumn, hmatType, if_neg (by simp), hselected, hmux]
  refine ⟨hle, haddress, hrow, hselected, ?_⟩
  obtain ⟨m₀, m₁, m₂, hexpand⟩ := expandMux_eq memCellType (p.associativity / p.numRowPerSet) p
  have hqmux : q = p.expandMux memCellType (p.associativity / p.numRowPerSet) := by
    rw [hq, expandDataMux, htype]
  rw [MatParams.subarray, dataSubarray, hrow, hcolumn, hmat, hqmux, hexpand]
  rfl

/-- In a data array, the rows are what the predecoded bits can address exactly when
no ways share a row and the multiplexers leave address bits to the rows. -/
theorem PowerOfTwo.predecodersAddressRows_data {el : Electrical} {p q : BankParams}
    (hp : p.PowerOfTwo) {memCellType : MemCellType} {matParams : MatParams}
    (htype : p.memoryType = .data)
    (h : p.matParamsWithoutHtree memCellType = some (q, matParams)) (hfits : matParams.Fits el) :
    0 ≤ matParams.numAddressRowPredecoder ∧
        matParams.numRow = p.numRowPerSet * 2 ^ matParams.numAddressRowPredecoder.toNat ↔
      ¬ p.WidthMisfits := by
  have hcalled := hp.matCalled h
  obtain ⟨hle, haddress, hrow, -, -⟩ := hp.dataCall htype h
  have hpos := hfits.numRow
  obtain ⟨k, hk⟩ := hp.numRowPerSet
  obtain ⟨w, hw⟩ := hp.associativity
  obtain ⟨m, hm⟩ := hp.isPowerOfTwo_muxDegree
  have hkw : k ≤ w := by
    rw [hk, hw] at hle
    exact (Nat.pow_le_pow_iff_right (by norm_num)).1 hle
  have hwidth : matParams.numAddressRowPredecoder = p.addressBitSubarray - (m + (w - k) : ℕ) := by
    rw [MatParams.numAddressRowPredecoder, haddress, hcalled.muxDegree_eq, numWayPerRow, htype, hm,
      hk, hw]
    simp only
    rw [two_pow_div_two_pow_of_le hkw, ← pow_add, log2Rounded_two_pow]
  rw [hrow, hk, hm, ← pow_add, two_pow_div_two_pow] at hpos
  have hmle : m ≤ p.addressBitSubarray.toNat + k := by
    by_contra hlt
    rw [if_neg hlt] at hpos
    cases hpos
  have hmisfits : p.WidthMisfits ↔ k < w ∨ p.addressBitSubarray.toNat < m := by
    rw [WidthMisfits, hk, hw, hm, Nat.pow_lt_pow_iff_right one_lt_two,
      Nat.pow_lt_pow_iff_right one_lt_two]
-- rows and predecoder outputs are powers of two, so the exponents are compared
  rw [hrow, hwidth, hk, hm, ← pow_add, two_pow_div_two_pow_of_le hmle, ← pow_add,
    Nat.pow_right_inj one_lt_two, hmisfits]
  have haddress := hfits.addressBit
  omega

/-- A tag array holds its ways in the columns: its rows are all predecoded. -/
theorem PowerOfTwo.predecodersAddressRows_tag {el : Electrical} {p q : BankParams}
    (hp : p.PowerOfTwo) {memCellType : MemCellType} {matParams : MatParams}
    (htype : p.memoryType = .tag)
    (h : p.matParamsWithoutHtree memCellType = some (q, matParams)) (hfits : matParams.Fits el) :
    0 ≤ matParams.numAddressRowPredecoder ∧
      matParams.numRow = p.numRowPerSet * 2 ^ matParams.numAddressRowPredecoder.toNat := by
  have hcalled := hp.matCalled h
  obtain ⟨numDataBit, numWay, hbits, -, -⟩ := matCall_eq_some h
  obtain ⟨-, hrouted⟩ := hp.routedWithoutHtree hbits
  simp only [htype] at hrouted
  have hmatType : matParams.memoryType = .tag := hcalled.memoryType_eq.trans htype
  have hpos := hfits.numRow
  have haddress := hfits.addressBit
  obtain ⟨m, hm⟩ := hcalled.isPowerOfTwo_muxDegree
  have hwidth : matParams.numAddressRowPredecoder = matParams.effectiveAddressBit - m := by
    rw [MatParams.numAddressRowPredecoder, hm, log2Rounded_two_pow]
  have hrow : matParams.numRow = 2 ^ matParams.effectiveAddressBit.toNat / 2 ^ m := by
    rw [MatParams.numRow, hmatType, if_neg (by simp), hm]
  rw [hrow, two_pow_div_two_pow] at hpos
  have hmle : m ≤ matParams.effectiveAddressBit.toNat := by
    by_contra hlt
    rw [if_neg hlt] at hpos
    cases hpos
  rw [hrow, hwidth, hrouted.1, one_mul, two_pow_div_two_pow_of_le hmle,
    Nat.pow_right_inj one_lt_two]
  omega

/-- In terms of the parameters: when the mat of a data array gets to the predecoders. -/
theorem PowerOfTwo.fits_iff {el : Electrical} {p q : BankParams} (hp : p.PowerOfTwo)
    {memCellType : MemCellType} {globalWireRepeaterType : WireRepeaterType}
    {routingMode : RoutingMode} {matParams : MatParams} (htype : p.memoryType = .data)
    (hsensed : p.Sensed memCellType globalWireRepeaterType routingMode)
    (h : p.matParamsWithoutHtree memCellType = some (q, matParams)) :
    matParams.Fits el ↔ p.DataMatFits el memCellType globalWireRepeaterType routingMode := by
  obtain ⟨hle, haddress, hrow, hselected, hsubarray⟩ := hp.dataCall htype h
  have hmux := Nat.pos_of_isPowerOfTwo hp.isPowerOfTwo_muxDegree
  have hactive : 0 < p.numActiveMat * p.numActiveSubarray :=
    Nat.mul_pos
      (Nat.pos_of_isPowerOfTwo (isPowerOfTwo_mul hp.numActiveMatPerRow hp.numActiveMatPerColumn))
      (Nat.pos_of_isPowerOfTwo
        (isPowerOfTwo_mul hp.numActiveSubarrayPerRow hp.numActiveSubarrayPerColumn))
  constructor
  · rintro ⟨haddressBit, hnumRow, hnumColumn, haccepted⟩
    rw [haddress] at haddressBit
    rw [hrow, Nat.div_pos_iff] at hnumRow
    rw [hselected, Nat.div_pos_iff] at hnumColumn
    rw [hsubarray] at haccepted
    exact ⟨hsensed, hle, haddressBit, hnumRow.2, hnumColumn.2, haccepted⟩
  · rintro ⟨-, -, haddressBit, hnumRow, hnumColumn, haccepted⟩
    refine ⟨?_, ?_, ?_, ?_⟩
    · rwa [haddress]
    · rw [hrow]
      exact Nat.div_pos hnumRow hmux
    · rw [hselected]
      exact Nat.div_pos hnumColumn hactive
    · rwa [hsubarray]

end BankParams

/-- With exact integers the row predecoders address exactly the rows of the subarray, in a bank
of either organisation with power-of-two counts, unless the mat of a data array gets
to the predecoders and their width does not fit its rows. -/
theorem predecodersAddressRows_initializeBank_iff (el : Electrical) (memCellType : MemCellType)
    (globalWireRepeaterType : WireRepeaterType) (routingMode : RoutingMode) (args : BankParams)
    (b : Bank) (hp : args.PowerOfTwo)
    (htype : args.memoryType = .data ∨ args.memoryType = .tag)
    (h : initializeBank el memCellType globalWireRepeaterType routingMode args = some b) :
    b.mat.PredecodersAddressRows args.numRowPerSet ↔
      ¬ (args.memoryType = .data ∧
        args.DataMatFits el memCellType globalWireRepeaterType routingMode ∧
          args.WidthMisfits) := by
  have hmat := initializeBank_mat hp.associativity hp.numRowMat hp.numColumnMat
    hp.numActiveMatPerRow hp.numActiveMatPerColumn h
  rw [hp.clampActive_eq] at hmat
  rcases hmat with ⟨hsensed, q, matParams, hcall, hinit⟩ | ⟨hfresh, hstarved⟩
  · have hclamp := (hp.matCalled hcall).clampActive_eq
    rw [hinit]
    by_cases hfits : matParams.Fits el
    · rw [predecodersAddressRows_iff (by rwa [hclamp]), hclamp]
      rcases htype with hdata | htag
      · rw [hp.predecodersAddressRows_data hdata hcall hfits]
        have hdataFits := (hp.fits_iff hdata hsensed hcall).1 hfits
        tauto
      · have hrows := hp.predecodersAddressRows_tag htag hcall hfits
        simp [hrows, htag]
    · apply iff_of_true (predecodersAddressRows_of_not_fits (by rwa [hclamp]) _)
      rintro ⟨hdata, hdataFits, -⟩
      exact hfits ((hp.fits_iff hdata hsensed hcall).2 hdataFits)
  · rw [hfresh]
    apply iff_of_true (predecodersAddressRows_fresh _)
    rintro ⟨hdata, hdataFits, -⟩
    -- the closed form would have called `Mat::Initialize`, with enough bits
    have hrouted : ∃ bits, args.routedWithoutHtree = some bits := by
      unfold BankParams.routedWithoutHtree
      simp only [hdata, gt_iff_lt, hdataFits.numRowPerSet_le.not_gt, if_false]
      exact ⟨_, rfl⟩
    obtain ⟨⟨numDataBit, numWay⟩, hbits⟩ := hrouted
    obtain ⟨q, matParams, hcall⟩ : ∃ q matParams,
        args.matParamsWithoutHtree memCellType = some (q, matParams) := by
      unfold BankParams.matParamsWithoutHtree
      rw [hbits]
      exact ⟨_, _, rfl⟩
    have hfits := (hp.fits_iff hdata hdataFits.sensed hcall).2 hdataFits
    have hbad := hstarved q matParams hdataFits.sensed hcall
    rw [(hp.matCalled hcall).clampActive_eq] at hbad
    have haddress := hfits.addressBit
    have hcolumn := hfits.numColumn
    omega

/-! ## Machine integers -/

/-- The property of the predecoders, for the number of rows a mat stores. -/
structure Mat.PredecodersAddressStoredRows (m : Mat Int64) (numRowPerSet : ℕ) : Prop where
  numRow : m.initialized = true → m.invalid = false →
    m.subarray.numRow.toInt = numRowPerSet * 2 ^ (m.rowPredecoderBlock1 + m.rowPredecoderBlock2)
  not_rejected : m.reject = some .rowPredecoder → m.subarray.numRow.toInt < 1

/-- A number of rows that fits is stored as it is. -/
theorem predecodersAddressStoredRows_map {m : Mat} (hrow : m.subarray.numRow < 2 ^ 63)
    (numRowPerSet : ℕ) :
    (m.map Int64.ofNat).PredecodersAddressStoredRows numRowPerSet ↔
      m.PredecodersAddressRows numRowPerSet := by
  have hstored : (m.map Int64.ofNat).subarray.numRow.toInt = m.subarray.numRow :=
    Int64.toInt_ofNat_of_lt hrow
  constructor
  · intro h
    refine ⟨fun hinitialized hvalid => ?_, fun hreject => ?_⟩
    · have hrows := h.numRow hinitialized hvalid
      rw [hstored] at hrows
      exact_mod_cast hrows
    · have hnone := h.not_rejected hreject
      rw [hstored] at hnone
      omega
  · intro h
    refine ⟨fun hinitialized hvalid => ?_, fun hreject => ?_⟩
    · rw [hstored, h.numRow hinitialized hvalid]
      push_cast
      rfl
    · rw [hstored, h.not_rejected hreject]
      norm_num

/-- What a mat stores as its rows is none, or what its parameters say. -/
theorem numRow_initializeMat (el : Electrical) (args : MatParams) :
    (initializeMat el args).subarray.numRow = 0 ∨
      0 < args.clampActive.effectiveAddressBit ∧
        (initializeMat el args).subarray.numRow = args.clampActive.numRow := by
  unfold initializeMat
  dsimp only
  split
  · exact .inl rfl
  · rename_i haddress
    split
    · exact .inl rfl
    · split
      · exact .inl rfl
      · split
        · exact .inr ⟨not_le.1 haddress, rfl⟩
        · split
          · exact .inr ⟨not_le.1 haddress, rfl⟩
          · exact .inr ⟨not_le.1 haddress, rfl⟩

/-- No integer overflows on the way to the rows of a subarray: the block and the products of
counts fit an `int`, and if address bits are left, so do the rows before the ways and the product
of the mux degrees. -/
structure BankParams.RowsFit (p : BankParams) : Prop where
  blockSize : p.blockSize < 2 ^ 31
  associativity : p.associativity < 2 ^ 31
  mats : p.numRowMat * p.numColumnMat < 2 ^ 31
  subarrays : p.numRowSubarray * p.numColumnSubarray < 2 ^ 31
  addressBit : p.addressBitSubarray ≤ 30
  muxDegree : 0 < p.addressBitSubarray → p.muxDegree * p.numWayPerRow < 2 ^ 31

/-- The integers of the call of `Mat::Initialize` fit then, too. -/
theorem BankParams.RowsFit.intsFit {p q : BankParams} (h : p.RowsFit) (hp : p.PowerOfTwo)
    {memCellType : MemCellType} {matParams : MatParams}
    (hcall : p.matParamsWithoutHtree memCellType = some (q, matParams))
    (hpos : 0 < matParams.effectiveAddressBit) : matParams.IntsFit := by
  have hcalled := hp.matCalled hcall
  have haddress : matParams.effectiveAddressBit = p.addressBitSubarray := by
    rw [MatParams.effectiveAddressBit, hcalled.addressBit, hcalled.gating]
    rfl
  have hmux := h.muxDegree (haddress ▸ hpos)
  rw [← hcalled.muxDegree_eq] at hmux
  obtain ⟨numDataBit, numWay, hbits, hq, hmat⟩ := matCall_eq_some hcall
  have hrouted := (hp.routedWithoutHtree hbits).2
  have hle : numWay ≤ max 1 p.associativity ∧ numDataBit ≤ p.blockSize := by
    cases htype : p.memoryType with
    | data =>
        simp only [htype] at hrouted
        obtain ⟨-, rfl, rfl⟩ := hrouted
        exact ⟨le_max_right _ _, Nat.div_le_self _ _⟩
    | tag =>
        simp only [htype] at hrouted
        obtain ⟨-, rfl, rfl⟩ := hrouted
        exact ⟨(Nat.div_le_self _ _).trans (le_max_right _ _), le_rfl⟩
    | cam =>
        simp only [htype] at hrouted
        obtain ⟨rfl, rfl⟩ := hrouted
        exact ⟨le_max_left _ _, le_rfl⟩
  have hways := h.associativity
  have hblock := h.blockSize
  have hactive := (Nat.mul_le_mul hp.numActiveSubarrayPerRow_le
    hp.numActiveSubarrayPerColumn_le).trans_lt (mul_comm p.numRowSubarray _ ▸ h.subarrays)
  have hactivePos := Nat.pos_of_isPowerOfTwo
    (isPowerOfTwo_mul hp.numActiveSubarrayPerRow hp.numActiveSubarrayPerColumn)
  -- the call has the active subarrays of the bank
  obtain ⟨m₀, m₁, m₂, hexpand⟩ := expandDataMux_eq memCellType numWay p
  have hcounts : matParams.numActiveSubarrayPerRow * matParams.numActiveSubarrayPerColumn =
      p.numActiveSubarrayPerRow * p.numActiveSubarrayPerColumn := by
    rw [hmat, hq, hexpand]
    rfl
  refine ⟨haddress ▸ h.addressBit, Nat.pos_of_isPowerOfTwo hcalled.isPowerOfTwo_muxDegree, hmux,
    ?_, ?_, ?_, ?_⟩
  · rw [hmat]
    show numWay < 2 ^ 31
    omega
  · rw [hmat]
    show numDataBit < 2 ^ 63
    omega
  · rw [hcounts]
    exact hactivePos
  · rw [hcounts]
    exact hactive

/-- The row predecoders address exactly the rows of the subarray, in a bank of either
organisation with power-of-two counts in which no integer overflows, unless the mat of a data
array gets to the predecoders and their width does not fit its rows. -/
theorem row_predecoders_address_rows_iff (undefined : Undefined) (el : Electrical Int64)
    (memCellType : MemCellType) (globalWireRepeaterType : WireRepeaterType)
    (routingMode : RoutingMode) (args : BankParams) (hp : args.PowerOfTwo)
    (htype : args.memoryType = .data ∨ args.memoryType = .tag) (hfit : args.RowsFit) :
    ∃ b, initializeBankInt undefined el memCellType globalWireRepeaterType routingMode args =
        some b ∧
      (b.mat.PredecodersAddressStoredRows args.numRowPerSet ↔
        ¬ (args.memoryType = .data ∧
          args.DataMatFits el.exact memCellType globalWireRepeaterType routingMode ∧
            args.WidthMisfits)) := by
  have hclamp := hp.clampActive_eq
  have hmat (q matParams) (hcall : args.matParamsWithoutHtree memCellType = some (q, matParams))
      (hpos : 0 < matParams.clampActive.effectiveAddressBit) : matParams.clampActive.IntsFit := by
    rw [(hp.matCalled hcall).clampActive_eq] at hpos ⊢
    exact hfit.intsFit hp hcall hpos
  have hbank : initializeBankInt undefined el memCellType globalWireRepeaterType routingMode args =
      _ :=
    initializeBankInt_eq routingMode hfit.blockSize hfit.associativity hp.associativity
      hp.numRowMat hp.numColumnMat hp.numActiveMatPerRow hp.numActiveMatPerColumn (by rwa [hclamp])
  obtain ⟨b, hb⟩ := Option.isSome_iff_exists.1
    (initializeBank_isSome el.exact memCellType globalWireRepeaterType routingMode args)
  rw [hbank, hb]
  refine ⟨_, rfl, ?_⟩
  rw [← predecodersAddressRows_initializeBank_iff el.exact memCellType globalWireRepeaterType
    routingMode args b hp htype hb]
  refine predecodersAddressStoredRows_map ?_ _
  -- the stored number of rows fits a `long long`
  obtain ⟨-, q, matParams, hcall, hinit⟩ | ⟨hfresh, -⟩ := initializeBank_mat hp.associativity
    hp.numRowMat hp.numColumnMat hp.numActiveMatPerRow hp.numActiveMatPerColumn hb
  · rw [hclamp] at hcall
    rw [hinit]
    obtain hnone | ⟨hpos, hrow⟩ := numRow_initializeMat el.exact matParams
    · rw [hnone]
      norm_num
    · rw [hrow]
      exact ((hmat q matParams hcall hpos).storedNumRow undefined.shift).2
  · rw [hfresh]
    exact Nat.two_pow_pos 63

/-- In a small tag array the predecoders address all rows. -/
theorem row_predecoders_address_rows_small :
    ∃ b, initializeBankInt ⟨0, 0⟩ .permissive .sram .repeatedNone .hTree .smallTag = some b ∧
      b.mat.PredecodersAddressStoredRows 1 := by
  obtain ⟨b, hb, hiff⟩ := row_predecoders_address_rows_iff ⟨0, 0⟩ .permissive .sram .repeatedNone
    .hTree .smallTag BankParams.powerOfTwo_smallTag (.inr rfl)
    ⟨by decide, by decide, by decide, by decide, by decide +kernel, fun _ => by decide⟩
  refine ⟨b, hb, hiff.2 ?_⟩
  rintro ⟨hdata, -⟩
  cases hdata

/-- In a small data array with four ways in a row, the subarray has 32 rows and
the predecoders only three bits. -/
theorem row_predecoders_narrow_small :
    ∃ b, initializeBankInt ⟨0, 0⟩ .permissive .sram .repeatedNone .hTree .small = some b ∧
      b.invalid = false ∧ b.mat.subarray.numRow = 32 ∧
      b.mat.rowPredecoderBlock1 + b.mat.rowPredecoderBlock2 = 3 ∧
      ¬ b.mat.PredecodersAddressStoredRows BankParams.small.numRowPerSet := by
  refine ⟨_, rfl, rfl, rfl, rfl, fun hproperty => ?_⟩
  have := hproperty.numRow rfl rfl
  revert this
  decide

end NVSim
