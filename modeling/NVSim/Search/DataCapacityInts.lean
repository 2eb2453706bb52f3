import NVSim.Organisation.AgreementInts
import NVSim.Search.MatCalls

/-!
# The capacity check with machine integers

The mux product divides the rows and multiplies the columns, so the cells of a valid mat are
counted right even where the product is the most negative `int`.  They are not where the shift
of the address bits leaves the range of an `int`, and with 256 ways the product is zero and the
division traps.  What remains is the truncation by the partition.
-/

namespace NVSim

open Library

/-! ## The cells of a mat -/

namespace MatParams

variable {p : MatParams} {undefined : Undefined} {el : Electrical Int64}

theorem exactWayRows_isPowerOfTwo (hway : p.numWay.isPowerOfTwo) :
    p.exactWayRows.isPowerOfTwo := by
  unfold exactWayRows
  split
  · exact isPowerOfTwo_mul ⟨_, rfl⟩ hway
  · exact ⟨_, rfl⟩

/-- A mux product of at most 31 bits leaves no row, or divides the rows exactly. -/
theorem storedNumRow_mul_muxProduct (undefinedShift : Int32)
    (haddress : p.effectiveAddressBit ≤ 30) (hway : p.numWay.isPowerOfTwo)
    (hwayLt : p.numWay < 2 ^ 31) (hmux : p.muxDegree.isPowerOfTwo)
    (hmuxLe : p.muxDegree ≤ 2 ^ 31) :
    ∃ numRow, p.storedNumRow undefinedShift = some numRow ∧
      (numRow ≠ 0 → p.muxDegree ≤ p.exactWayRows ∧
        p.muxProduct.toInt64 * numRow = Int64.ofNat p.exactWayRows) := by
  have hpos := Nat.pos_of_isPowerOfTwo hmux
  have hne : p.muxProduct ≠ 0 := by
    rw [Ne, muxProduct_eq_zero_iff]
    intro hdvd
    have hle := Nat.le_of_dvd hpos hdvd
    omega
  obtain ⟨numRow, hstored, hvalue⟩ :=
    storedNumRow_eq undefinedShift haddress (fun _ => hwayLt) hne
  have hproduct : p.muxProduct.toInt = p.muxDegree ∨ p.muxProduct.toInt = -p.muxDegree := by
    rcases hmuxLe.lt_or_eq with hlt | heq
    · exact .inl (toInt_muxProduct hlt)
    · rw [toInt_muxProduct_of_eq heq, heq]
      exact .inr (by norm_num)
  refine ⟨numRow, hstored, fun hrow => ?_⟩
  -- the quotient of the exact numbers, which the sign of the product changes only in sign
  have habs : (p.exactWayRows : ℤ).tdiv p.muxDegree = (p.exactWayRows / p.muxDegree : ℕ) :=
    (Int.ofNat_tdiv _ _).symm
  have hquotient : 0 < p.exactWayRows / p.muxDegree := by
    rw [Nat.pos_iff_ne_zero]
    intro hzero
    apply hrow
    rw [hzero] at habs
    rw [← Int64.toInt_inj, hvalue]
    rcases hproduct with hproduct | hproduct
    · rw [hproduct, habs]
      rfl
    · rw [hproduct, Int.tdiv_neg, habs]
      rfl
  have hexact : p.exactWayRows / p.muxDegree * p.muxDegree = p.exactWayRows :=
    isPowerOfTwo_div_mul (exactWayRows_isPowerOfTwo hway) hmux hquotient
  have hcells : p.muxProduct.toInt * numRow.toInt = p.exactWayRows := by
    rw [hvalue]
    rcases hproduct with hproduct | hproduct
    · rw [hproduct, habs, ← Nat.cast_mul, mul_comm, hexact]
    · rw [hproduct, Int.tdiv_neg, habs, neg_mul_neg, ← Nat.cast_mul, mul_comm, hexact]
  have hlt := exactWayRows_lt haddress fun _ => hwayLt
  refine ⟨?_, Int64.toInt_inj.1 ?_⟩
  · exact (Nat.le_mul_of_pos_left _ hquotient).trans_eq hexact
  · rw [Int64.toInt_mul, Int32.toInt_toInt64, hcells,
      Int64.toInt_ofNat_of_lt (hlt.trans (by norm_num))]
    exact Int.bmod_eq_of_le_mul_two (by omega) (by omega)

variable (undefined el) in
/-- A mat of a data array returns, and if it is valid it has as many cells as the exact
numbers say, and address bits enough for its multiplexers. -/
theorem cells_initializeMatInt (hclamp : p.clampActive = p) (hdata : p.memoryType = .data)
    (haddress : p.effectiveAddressBit ≤ 30) (hway : p.numWay.isPowerOfTwo)
    (hwayLt : p.numWay < 2 ^ 31) (hmux : p.muxDegree.isPowerOfTwo)
    (hmuxLe : p.muxDegree ≤ 2 ^ 31) (hbits : p.numDataBit < 2 ^ 63)
    (hactive : 0 < p.numActiveSubarrayPerRow * p.numActiveSubarrayPerColumn)
    (hactiveLt : p.numActiveSubarrayPerRow * p.numActiveSubarrayPerColumn < 2 ^ 31) :
    ∃ mat, initializeMatInt undefined el (p.map Int64.ofNat) = some mat ∧
      (mat.invalid = false → 0 < p.effectiveAddressBit ∧
        (p.muxDegree ≤ 2 ^ p.effectiveAddressBit.toNat ∨ 2 ^ 31 ≤ p.exactWayRows) ∧
        mat.subarray.numColumn * mat.subarray.numRow =
          Int64.ofNat (p.numColumnSelected * p.exactWayRows)) := by
  have hclampInt : (p.map Int64.ofNat).clampActive = p.map Int64.ofNat := by
    rw [clampActive_map, hclamp]
  obtain ⟨numRow, hstored, hrow⟩ :=
    storedNumRow_mul_muxProduct undefined.shift haddress hway hwayLt hmux
      hmuxLe
  have hstoredInt : (p.map Int64.ofNat).storedNumRow undefined.shift = some numRow := hstored
  have hcolumn : (p.map Int64.ofNat).storedNumColumn (Int64.ofNat p.numColumnSelected) =
      Int64.ofNat p.numColumnSelected * p.muxProduct.toInt64 :=
    if_neg (by rw [show (p.map Int64.ofNat).memoryType = .data from hdata]; decide)
  obtain ⟨mat, hmat, hpassed⟩ := exists_initializeMatInt undefined el (p.map Int64.ofNat)
    (hclampInt ▸ hstoredInt) (hclampInt ▸ storedColumnSelected_map hbits hactive hactiveLt)
  rw [hclampInt] at hpassed
  refine ⟨mat, hmat, fun hvalid => ?_⟩
  have h := hpassed hvalid
  obtain ⟨hdegree, hcells⟩ := hrow h.rows_ne
  refine ⟨h.addressBit, ?_, ?_⟩
  · rcases hmuxLe.lt_or_eq with hlt | heq
    · -- the row predecoders have no negative number of bits
      left
      have hproduct : (p.map Int64.ofNat).muxProduct.toInt = p.muxDegree :=
        toInt_muxProduct hlt
      have hdegreePos := Nat.pos_of_isPowerOfTwo hmux
      have hpredecoder := h.addressRowPredecoder
      unfold storedAddressRowPredecoder at hpredecoder
      rw [hproduct, if_pos (by omega), Int.toNat_natCast, effectiveAddressBit_map]
        at hpredecoder
      obtain ⟨d, hd⟩ := hmux
      rw [hd, log2Rounded_two_pow] at hpredecoder
      rw [hd]
      exact Nat.pow_le_pow_right (by norm_num) (by omega)
    · exact .inr (heq ▸ hdegree)
  · rw [h.subarray]
    show (p.map Int64.ofNat).storedNumColumn _ * numRow = _
    rw [hcolumn, Int64.mul_assoc, hcells, Int64.ofNat_mul]

/-- A shift out of the range of an `int` may be the most negative one; then a mat whose mux
degree is its number of ways has a negative number of cells. -/
theorem initializeMatInt_negative {w : ℕ} (hclamp : p.clampActive = p)
    (hdata : p.memoryType = .data) (haddress : 31 ≤ p.effectiveAddressBit)
    (hway : p.numWay = 2 ^ w) (hmux : p.muxDegree = 2 ^ w) (hw : w ≤ 7)
    (hbits : p.numDataBit < 2 ^ 63)
    (hactive : 0 < p.numActiveSubarrayPerRow * p.numActiveSubarrayPerColumn)
    (hactiveLt : p.numActiveSubarrayPerRow * p.numActiveSubarrayPerColumn < 2 ^ 31)
    (hcolumn : 0 < p.numColumnSelected) :
    ∃ mat, initializeMatInt ⟨Int32.minValue, 0⟩ .permissive (p.map Int64.ofNat) = some mat ∧
      mat.invalid = false ∧ mat.subarray.numColumn * mat.subarray.numRow =
        Int64.ofNat (p.numColumnSelected * 2 ^ w) * Int32.minValue.toInt64 := by
  have hproduct : p.muxProduct = Int32.ofNat (2 ^ w) := by rw [muxProduct_eq, hmux]
  -- the shift by 31 bits, and any other that the language leaves undefined
  have hshift : p.addressRows Int32.minValue = Int32.minValue := by
    unfold addressRows
    split
    · have hbit : p.effectiveAddressBit.toNat = 31 := by omega
      rw [hbit]
      decide
    · rfl
  have hdivided : ∀ w : Fin 8, Int32.ofNat (2 ^ (w : ℕ)) ≠ 0 ∧
      Int32.minValue.toInt64 * (Int32.ofNat (2 ^ (w : ℕ))).toInt64 /
        (Int32.ofNat (2 ^ (w : ℕ))).toInt64 = Int32.minValue.toInt64 ∧
      (Int32.ofNat (2 ^ (w : ℕ))).toInt64 = Int64.ofNat (2 ^ (w : ℕ)) := by
    decide
  obtain ⟨hne, hquotient, hwide⟩ := hdivided ⟨w, by omega⟩
  have hrows : (p.map Int64.ofNat).storedNumRow Int32.minValue =
      some Int32.minValue.toInt64 := by
    show p.storedNumRow Int32.minValue = _
    unfold storedNumRow wayRows
    rw [hproduct, if_neg hne, if_pos hdata, hshift, hway, hquotient]
  have hcolumns : (p.map Int64.ofNat).storedNumColumn (Int64.ofNat p.numColumnSelected) =
      Int64.ofNat (p.numColumnSelected * 2 ^ w) := by
    unfold storedNumColumn
    rw [if_neg (by rw [show (p.map Int64.ofNat).memoryType = .data from hdata]; decide),
      Int64.ofNat_mul, ← hwide, ← hproduct]
    rfl
  have hselected : Int64.ofNat p.numColumnSelected ≠ 0 :=
    (int64_ofNat_eq_zero_iff ((Nat.div_le_self _ _).trans_lt hbits)).not.2 hcolumn.ne'
  have hpredecoder : ¬ (p.map Int64.ofNat).storedAddressRowPredecoder
      ⟨Int32.minValue, 0⟩ < 0 := by
    have hvalue : (p.map Int64.ofNat).muxProduct.toInt = (2 ^ w : ℕ) := by
      show p.muxProduct.toInt = _
      rw [hproduct, Int32.toInt_ofNat_of_lt
        ((Nat.pow_le_pow_right (by norm_num) hw).trans_lt (by norm_num))]
    unfold storedAddressRowPredecoder
    rw [hvalue]
    split
    · rw [Int.toNat_natCast, log2Rounded_two_pow, effectiveAddressBit_map]
      omega
    · exact lt_irrefl _
  have hpositive : ¬ p.effectiveAddressBit ≤ 0 := by omega
  have hnegative : Int32.minValue.toInt64 ≠ 0 := by decide
  unfold initializeMatInt
  dsimp only
  rw [clampActive_map, hclamp, effectiveAddressBit_map, if_neg hpositive, hrows,
    storedColumnSelected_map hbits hactive hactiveLt]
  dsimp only [bind, Option.bind]
  rw [if_neg hnegative, if_neg hselected, hcolumns]
  refine ⟨_, if_neg (by exact Bool.noConfusion) |>.trans (if_neg hpredecoder), rfl, rfl⟩

end MatParams

/-! ## The cells of a bank -/

section Bank

variable {args : BankParams}

/-- The cells of a valid bank, counted with its machine integers. -/
theorem storedCapacityInt_eq {p : MatParams} {b : Bank Int64} (hp : args.PowerOfTwo)
    (hdata : args.memoryType = .data) (hcalled : args.MatCalled p)
    (haddress : 0 < p.effectiveAddressBit) (hparams : b.toBankParams = args)
    (hcells : b.mat.subarray.numColumn * b.mat.subarray.numRow =
      Int64.ofNat (p.numColumnSelected * p.exactWayRows)) :
    b.storedCapacityInt = Int64.ofNat (2 ^ args.numAddressBit.toNat *
      (args.associativity * (args.blockSize / args.numPartition)) * args.numPartition) := by
  obtain ⟨htype, hway, hcolumn⟩ := hcalled.data hdata
  have hbits := hp.two_pow_effectiveAddressBit hcalled haddress
  unfold Bank.storedCapacityInt
  rw [hcells, hparams, ← Int64.ofNat_mul, ← Int64.ofNat_mul, ← Int64.ofNat_mul,
    ← Int64.ofNat_mul]
  refine congrArg Int64.ofNat ?_
  unfold MatParams.exactWayRows
  rw [if_pos htype, hway, hcolumn]
  calc args.blockSize / args.numPartition *
        (2 ^ p.effectiveAddressBit.toNat * args.associativity) * args.numColumnMat *
        args.numRowMat * args.numColumnSubarray * args.numRowSubarray
      = 2 ^ p.effectiveAddressBit.toNat *
          (args.numColumnMat * args.numRowMat * (args.numColumnSubarray * args.numRowSubarray)) *
            (args.associativity * (args.blockSize / args.numPartition)) := by ring
    _ = 2 ^ args.numAddressBit.toNat *
          (args.associativity * (args.blockSize / args.numPartition)) * args.numPartition := by
        rw [hbits, BankParams.numPartition]
        ring

end Bank

/-! ## The candidates -/

variable {K : Type}

/-- With its machine integers no candidate traps, and the valid ones keep to the identity that
`VERIFY_DATA_CAPACITY` checks. -/
def StoredCapacityVerified (undefined : Undefined) (el : Electrical Int64)
    (memCellType : MemCellType) (settings : Settings K) (globalWire : Wire)
    (args : List BankParams) : Prop :=
  ∀ a ∈ args, ∃ b, initializeBankInt undefined el memCellType globalWire.wireRepeaterType
      settings.routingMode a = some b ∧
    (b.invalid = true ∨ b.storedCapacityInt = Int64.ofNat a.capacity)

theorem StoredCapacityVerified.of_mem {undefined : Undefined} {el : Electrical Int64}
    {memCellType : MemCellType} {settings : Settings K} {globalWire : Wire}
    {args : List BankParams} {a : BankParams} {b : Bank Int64}
    (h : StoredCapacityVerified undefined el memCellType settings globalWire args) (ha : a ∈ args)
    (hb : initializeBankInt undefined el memCellType globalWire.wireRepeaterType
      settings.routingMode a = some b) (hvalid : b.invalid = false) :
    b.storedCapacityInt = Int64.ofNat a.capacity := by
  obtain ⟨b', hb', hverified⟩ := h a ha
  rw [hb] at hb'
  obtain rfl := Option.some.inj hb'
  rcases hverified with hinvalid | hverified
  · rw [hvalid] at hinvalid
    cases hinvalid
  · exact hverified

section Candidate

variable {settings : Settings K} {spec : ArraySpec} {a q : BankParams} {matParams : MatParams}
  {undefined : Undefined} {el : Electrical Int64} {memCellType : MemCellType}
  {globalWireRepeaterType : WireRepeaterType} {routingMode : RoutingMode}

namespace BankParams.DataTried

theorem sized (h : a.DataTried settings spec)
    (hcall : a.matParamsWithoutHtree memCellType = some (q, matParams)) :
    matParams.Sized .data spec.numAddressBit spec.associativity (256 * 256 * 256) := by
  obtain ⟨numDataBit, numWay, hrouted, -⟩ := BankParams.matCall_eq_some hcall
  have hsized := h.tried.sized_data (h.numRowPerSet _ hrouted) h.muxDegree hcall
  rw [h.numAddressBit, h.associativity] at hsized
  exact hsized

/-- The operands of the division of the data bits fit an `int`. -/
theorem operands (h : a.DataTried settings spec) (hblock : spec.blockSize < 2 ^ 31)
    (hcall : a.matParamsWithoutHtree memCellType = some (q, matParams)) :
    matParams.numDataBit < 2 ^ 31 ∧
      0 < matParams.numActiveSubarrayPerRow * matParams.numActiveSubarrayPerColumn ∧
      matParams.numActiveSubarrayPerRow * matParams.numActiveSubarrayPerColumn < 2 ^ 31 := by
  have hp := h.tried.powerOfTwo
  obtain ⟨numDataBit, numWay, hrouted, rfl, rfl⟩ := BankParams.matCall_eq_some hcall
  obtain ⟨_, _, _, hexpand⟩ := BankParams.expandDataMux_eq memCellType numWay a
  have hbits := (hp.routedWithoutHtree hrouted).2
  rw [h.tried.memoryType] at hbits
  have hactivePos : 0 < a.numActiveSubarray := Nat.pos_of_isPowerOfTwo
    (isPowerOfTwo_mul hp.numActiveSubarrayPerRow hp.numActiveSubarrayPerColumn)
  have hpartition : a.numPartition ≤ a.blockSize :=
    Nat.le_of_not_lt fun hlt => h.tried.partition.ne' (Nat.div_eq_of_lt hlt)
  have hactiveLe : a.numActiveSubarray ≤ a.numPartition :=
    Nat.le_mul_of_pos_left _ (Nat.pos_of_isPowerOfTwo
      (isPowerOfTwo_mul hp.numActiveMatPerRow hp.numActiveMatPerColumn))
  rw [h.blockSize] at hpartition hbits
  rw [hexpand]
  refine ⟨?_, hactivePos, (hactiveLe.trans hpartition).trans_lt hblock⟩
  show numDataBit < 2 ^ 31
  rw [hbits.2.2]
  exact (Nat.div_le_self _ _).trans_lt hblock

variable (undefined el) in
/-- A call with at most 128 ways and 30 address bits returns, and counts the cells of its mat. -/
theorem cells (h : a.DataTried settings spec) (hblock : spec.blockSize < 2 ^ 31)
    (hways : spec.associativity ≤ 128) (hbits : spec.numAddressBit ≤ 30)
    (hcall : a.matParamsWithoutHtree memCellType = some (q, matParams)) :
    ∃ mat, initializeMatInt undefined el (matParams.map Int64.ofNat) = some mat ∧
      (mat.invalid = false → 0 < matParams.effectiveAddressBit ∧
        spec.associativity ≤ 2 ^ spec.numAddressBit.toNat ∧
        mat.subarray.numColumn * mat.subarray.numRow =
          Int64.ofNat (matParams.numColumnSelected * matParams.exactWayRows)) := by
  have hcalled := h.tried.powerOfTwo.matCalled hcall
  obtain ⟨htype, hway, -⟩ := hcalled.data h.tried.memoryType
  obtain ⟨hdataBit, hactivePos, hactiveLt⟩ := h.operands hblock hcall
  have hsized := h.sized hcall
  obtain ⟨mat, hmat, hvalid⟩ := MatParams.cells_initializeMatInt undefined el
    hcalled.clampActive_eq htype (hsized.addressBit.trans hbits)
    hcalled.isPowerOfTwo_numWay (by rw [hway, h.associativity]; omega)
    hcalled.isPowerOfTwo_muxDegree (hsized.muxDegree_le.trans (Nat.mul_le_mul_left _ hways))
    (hdataBit.trans (by norm_num)) hactivePos hactiveLt
  refine ⟨mat, hmat, fun h => ?_⟩
  obtain ⟨hpos, hmux, hcells⟩ := hvalid h
  refine ⟨hpos, ?_, hcells⟩
  have hpow : 2 ^ matParams.effectiveAddressBit.toNat ≤ 2 ^ spec.numAddressBit.toNat :=
    Nat.pow_le_pow_right (by norm_num) (by have := hsized.addressBit; omega)
  rcases hmux with hmux | hrows
  · exact (Nat.le_of_dvd hsized.muxDegree_pos hsized.dvd_muxDegree).trans (hmux.trans hpow)
  · -- rows for the largest product take more addresses than there are ways
    rw [hsized.exactWayRows] at hrows
    have hmany := Nat.mul_le_mul_left (2 ^ matParams.effectiveAddressBit.toNat) hways
    omega

variable (undefined el) in
/-- A candidate that leaves address bits to its mat calls it. -/
theorem calls (h : a.DataTried settings spec) (hblock : spec.blockSize < 2 ^ 31)
    (hways : spec.associativity < 2 ^ 31)
    (hsensed : a.Sensed memCellType globalWireRepeaterType routingMode)
    (hcall : a.matParamsWithoutHtree memCellType = some (q, matParams))
    (haddress : 0 < matParams.effectiveAddressBit) :
    ∃ finish : Mat Int64 → Bank Int64,
      initializeBankInt undefined el memCellType globalWireRepeaterType routingMode a =
        (initializeMatInt undefined el (matParams.map Int64.ofNat)).map finish ∧
      ∀ mat, a.Finishes el mat (finish mat) := by
  rw [← h.blockSize] at hblock
  rw [← h.associativity] at hways
  obtain ⟨b, -, -, hstarved⟩ | ⟨-, q', matParams', hcall', finish, hinit, hfinish⟩ :=
    initializeBankInt_cases undefined el memCellType globalWireRepeaterType routingMode
      h.tried.powerOfTwo hblock hways
  · have hcolumn := h.tried.numColumnSelected_pos hcall
    rcases hstarved q matParams hsensed hcall with hnone | hnone
    · omega
    · rw [MatParams.numColumnSelected, hnone, Nat.zero_div] at hcolumn
      cases hcolumn
  · rw [hcall] at hcall'
    obtain ⟨rfl, rfl⟩ := Prod.mk.inj (Option.some.inj hcall')
    exact ⟨finish, hinit, hfinish⟩

variable (undefined el memCellType globalWireRepeaterType routingMode) in
/-- Where the array does not get to `Mat::Initialize` with address bits, its candidates are
rejected. -/
theorem rejects (h : a.DataTried settings spec) (hblock : spec.blockSize < 2 ^ 31)
    (hways : spec.associativity < 2 ^ 31)
    (hnone : a.Sensed memCellType globalWireRepeaterType routingMode → spec.numAddressBit ≤ 0) :
    ∃ b, initializeBankInt undefined el memCellType globalWireRepeaterType routingMode a =
      some b ∧ b.invalid = true := by
  rw [← h.blockSize] at hblock
  rw [← h.associativity] at hways
  obtain ⟨b, hb, hinvalid, -⟩ | ⟨hsensed, q, matParams, hcall, finish, hinit, hfinish⟩ :=
    initializeBankInt_cases undefined el memCellType globalWireRepeaterType routingMode
      h.tried.powerOfTwo hblock hways
  · exact ⟨b, hb, hinvalid⟩
  · have hle := h.tried.powerOfTwo.effectiveAddressBit_le hcall
    have hclamp := (h.tried.powerOfTwo.matCalled hcall).clampActive_eq
    rw [h.numAddressBit] at hle
    have hmat : initializeMatInt undefined el (matParams.map Int64.ofNat) =
        some (.rejected (matParams.map Int64.ofNat) .addressBit .fresh) := by
      rw [initializeMatInt_of_addressBit, MatParams.clampActive_map, hclamp]
      rw [MatParams.clampActive_map, hclamp]
      exact hle.trans (hnone hsensed)
    rw [hinit, hmat]
    exact ⟨_, rfl, (hfinish _).invalid rfl⟩

end BankParams.DataTried

end Candidate

section Check

variable {ip₀ ip : InputParameter K} {cell : MemCell K} {globalWire : Wire}
  {args : List BankParams}

/-- The cells of an array that no partition truncates are at most twice its capacity. -/
theorem ArraySpec.cells_le {spec : ArraySpec} (h : 0 < spec.numAddressBit) :
    2 ^ spec.numAddressBit.toNat * (spec.blockSize * spec.associativity) ≤ 2 * spec.capacity :=
  two_pow_log2RoundedRatio_mul_le h

/-- The products that the machine integers have to hold: at most 128 ways, and if they can be
told apart, at most 30 address bits and a block that every partition divides. -/
structure ArraySpec.Counted (spec : ArraySpec) : Prop where
  associativity : spec.associativity ≤ 128
  addressBit : spec.associativity ≤ 2 ^ spec.numAddressBit.toNat → spec.numAddressBit ≤ 30
  exact : spec.associativity ≤ 2 ^ spec.numAddressBit.toNat → spec.Exact

theorem ArraySpec.Counted.numAddressBit_le {spec : ArraySpec} (h : spec.Counted) :
    spec.numAddressBit ≤ 30 := by
  by_contra hmany
  have hpow : 2 ^ 31 ≤ 2 ^ spec.numAddressBit.toNat :=
    Nat.pow_le_pow_right (by norm_num) (by omega)
  exact hmany (h.addressBit (by have := h.associativity; omega))

/-- The capacity and the partition of a data candidate. -/
theorem dataCandidates_partition (hspace : ip.toSearchSpace.IsDefault)
    (hargs : ip.dataCandidates cell.memCellType = .ok args) :
    ∀ a ∈ args, a.capacity = (dataArray ip.toSettings cell.memCellType).capacity ∧
      ∃ i ≤ 20, a.numPartition = 2 ^ i := by
  intro a ha
  have hdefault := InputParameter.dataSpace_isDefault hspace
  obtain ⟨args', hargs', hmem⟩ :=
    InputParameter.enumerates_dataCandidates hdefault.powersOfTwo.positive cell.memCellType
  rw [hargs] at hargs'
  obtain rfl := Except.ok.inj hargs'
  obtain ⟨c, hc, -, rfl⟩ := (hmem a).1 ha
  obtain ⟨i, hi, hactive⟩ := hc.exists_numActive hdefault
  exact ⟨rfl, i, hi, (c.numActive_toBankParams _ _ _).trans hactive⟩

/-- A data array that is counted right, or that no mat is called for, is verified. -/
theorem storedCapacityVerified_of_counted (undefined : Undefined) (el : Electrical Int64)
    (hconstraint : ip₀.applyConstraint cell.memCellType = some ip)
    (hspace : ip.toSearchSpace.IsDefault)
    (hargs : ip.dataCandidates cell.memCellType = .ok args)
    (hblock : (dataArray ip.toSettings cell.memCellType).blockSize < 2 ^ 31)
    (hways : (dataArray ip.toSettings cell.memCellType).associativity < 2 ^ 31)
    (hcounted : (dataArray ip.toSettings cell.memCellType).Called ip cell.memCellType globalWire →
      (dataArray ip.toSettings cell.memCellType).Counted) :
    StoredCapacityVerified undefined el cell.memCellType ip.toSettings globalWire args := by
  intro a ha
  have htried := dataCandidates_tried hconstraint hspace hargs a ha
  obtain ⟨hcapacity, i, hi, hpartition⟩ := dataCandidates_partition hspace hargs a ha
  obtain ⟨hassoc, -⟩ := dataArray_cases hconstraint
  generalize dataArray ip.toSettings cell.memCellType = spec at *
  have hsenses : a.Sensed cell.memCellType globalWire.wireRepeaterType ip.routingMode ↔
      ip.Senses cell.memCellType globalWire :=
    htried.tried.sensed_iff globalWire
  have hle : 2 ^ i ≤ spec.blockSize := by
    rw [← htried.blockSize, ← hpartition]
    exact Nat.le_of_not_lt fun hlt => htried.tried.partition.ne' (Nat.div_eq_of_lt hlt)
  by_cases hcalled : spec.Called ip cell.memCellType globalWire
  · have hspec := hcounted hcalled
    obtain ⟨b, hb, hinvalid, -⟩ | ⟨hsensed, q, matParams, hcall, finish, hinit, hfinish⟩ :=
      initializeBankInt_cases undefined el cell.memCellType globalWire.wireRepeaterType
        ip.routingMode
        htried.tried.powerOfTwo (htried.blockSize ▸ hblock) (htried.associativity ▸ hways)
    · exact ⟨b, hb, .inl hinvalid⟩
    · obtain ⟨mat, hmat, hvalid⟩ := htried.cells undefined el hblock
        hspec.associativity hspec.numAddressBit_le hcall
      rw [hinit, hmat]
      refine ⟨_, rfl, ?_⟩
      cases hbank : (finish mat).invalid with
      | true => exact .inl rfl
      | false =>
          right
          obtain ⟨hparams, hsame⟩ := (hfinish mat).params hbank
          obtain ⟨haddress, hdesignable, hcells⟩ := hvalid ((hfinish mat).mat_valid hbank)
          rw [← hsame] at hcells
          rw [storedCapacityInt_eq htried.tried.powerOfTwo htried.tried.memoryType
            (htried.tried.powerOfTwo.matCalled hcall) haddress hparams hcells, hcapacity,
            htried.numAddressBit, htried.associativity, htried.blockSize, hpartition]
          exact congrArg Int64.ofNat ((ArraySpec.exact_iff (Nat.pos_of_isPowerOfTwo hassoc)
            hcalled.blockSize).1 (hspec.exact hdesignable) i hi hle)
  · obtain ⟨b, hb, hinvalid⟩ := htried.rejects undefined el cell.memCellType
      globalWire.wireRepeaterType ip.routingMode hblock hways fun hsensed => not_lt.1 fun hpos =>
        hcalled ⟨hsenses.1 hsensed, (Nat.two_pow_pos i).trans_le hle, hpos⟩
    exact ⟨b, hb, .inl hinvalid⟩

/-- Two counts of which at most twice the larger fits are distinguished by a `long long`. -/
theorem int64_ofNat_inj {m n : ℕ} (hm : m < 2 ^ 63) (hn : n < 2 ^ 63)
    (h : Int64.ofNat m = Int64.ofNat n) : m = n := by
  have hvalue := congrArg Int64.toInt h
  rw [Int64.toInt_ofNat_of_lt hm, Int64.toInt_ofNat_of_lt hn] at hvalue
  exact Int.ofNat_inj.1 hvalue

/-- A negative number of cells is no capacity: the two differ by less than the range of a
`long long`. -/
theorem int64_ofNat_mul_minValue_ne {m n : ℕ} (hm : 0 < m) (hn : n < 2 ^ 62)
    (hle : m * 2 ^ 31 ≤ 2 * n) :
    Int64.ofNat m * Int32.minValue.toInt64 ≠ Int64.ofNat n := by
  intro hproduct
  have hnegative : Int32.minValue.toInt64 = -Int64.ofNat (2 ^ 31) := by decide
  have hsum : Int64.ofNat (n + m * 2 ^ 31) = 0 := by
    rw [Int64.ofNat_add, Int64.ofNat_mul m, ← hproduct, hnegative, Int64.mul_neg]
    exact Int64.add_left_neg _
  have hbits := congrArg Int64.toInt hsum
  rw [Int64.toInt_ofNat', show Int64.size = 2 ^ 64 from rfl] at hbits
  have hdvd := Int.dvd_iff_bmod_eq_zero.2 hbits
  have hrange := Int.le_of_dvd (by omega) hdvd
  omega

/-- From 256 ways on the product of the largest mux degrees is zero. -/
theorem StoredCapacityVerified.associativity_le
    (h : StoredCapacityVerified ⟨0, 0⟩ .permissive cell.memCellType ip.toSettings globalWire args)
    (hconstraint : ip₀.applyConstraint cell.memCellType = some ip)
    (hspace : ip.toSearchSpace.IsDefault)
    (hargs : ip.dataCandidates cell.memCellType = .ok args)
    (hblock : (dataArray ip.toSettings cell.memCellType).blockSize < 2 ^ 31)
    (hways : (dataArray ip.toSettings cell.memCellType).associativity < 2 ^ 31)
    (hcalled : (dataArray ip.toSettings cell.memCellType).Called ip cell.memCellType globalWire) :
    (dataArray ip.toSettings cell.memCellType).associativity ≤ 128 := by
  by_contra hmany
  obtain ⟨level, hmem⟩ := exists_single_mem hconstraint hspace hargs hcalled.blockSize
    (i := 8) le_rfl
  have htried := dataCandidates_tried hconstraint hspace hargs _ hmem
  obtain ⟨hassoc, -⟩ := dataArray_cases hconstraint
  obtain ⟨q, matParams, hcall, haddress, hmux⟩ :=
    Candidate.single_call cell.memCellType hassoc (by decide) htried.tried.powerOfTwo
  rw [if_pos rfl] at hmux
  obtain ⟨finish, hinit, -⟩ := htried.calls ⟨0, 0⟩ .permissive hblock hways
    ((htried.tried.sensed_iff globalWire).2 hcalled.senses) hcall
    (by rw [haddress]; exact hcalled.numAddressBit)
  have hzero : matParams.muxProduct = 0 := by
    obtain ⟨w, hw⟩ := hassoc
    rw [hw] at hmux hmany
    have hbits : ¬ 2 ^ w ≤ 2 ^ 7 := hmany
    rw [Nat.pow_le_pow_iff_right (by norm_num)] at hbits
    rw [MatParams.muxProduct_eq_zero_iff, hmux, ← pow_add]
    exact pow_dvd_pow 2 (by omega)
  have hclamp := (htried.tried.powerOfTwo.matCalled hcall).clampActive_eq
  have htrap : initializeMatInt ⟨0, 0⟩ .permissive (matParams.map Int64.ofNat) = none := by
    have hrows : (matParams.map Int64.ofNat).storedNumRow 0 = none := if_pos hzero
    have hpos := hcalled.numAddressBit
    unfold initializeMatInt
    dsimp only
    rw [MatParams.clampActive_map, hclamp, MatParams.effectiveAddressBit_map,
      if_neg (by omega), hrows]
    rfl
  obtain ⟨b, hb, -⟩ := h _ hmem
  rw [hinit, htrap] at hb
  cases hb

/-- The shift by 31 bits or more may be negative, and so are the cells it counts. -/
theorem StoredCapacityVerified.numAddressBit_le
    (h : StoredCapacityVerified ⟨Int32.minValue, 0⟩ .permissive cell.memCellType ip.toSettings
      globalWire args)
    (hconstraint : ip₀.applyConstraint cell.memCellType = some ip)
    (hspace : ip.toSearchSpace.IsDefault)
    (hargs : ip.dataCandidates cell.memCellType = .ok args)
    (hblock : (dataArray ip.toSettings cell.memCellType).blockSize < 2 ^ 31)
    (hways : (dataArray ip.toSettings cell.memCellType).associativity ≤ 128)
    (hcapacity : (dataArray ip.toSettings cell.memCellType).capacity < 2 ^ 62)
    (hcalled : (dataArray ip.toSettings cell.memCellType).Called ip cell.memCellType globalWire) :
    (dataArray ip.toSettings cell.memCellType).numAddressBit ≤ 30 := by
  by_contra hmany
  obtain ⟨level, hmem⟩ := exists_single_mem hconstraint hspace hargs hcalled.blockSize
    (i := 0) (Nat.zero_le _)
  have htried := dataCandidates_tried hconstraint hspace hargs _ hmem
  obtain ⟨hassoc, -⟩ := dataArray_cases hconstraint
  obtain ⟨q, p, hcall, haddress, hmux⟩ :=
    Candidate.single_call cell.memCellType hassoc (by decide) htried.tried.powerOfTwo
  rw [if_pos rfl, mul_zero, pow_zero, one_mul] at hmux
  obtain ⟨finish, hinit, hfinish⟩ := htried.calls ⟨Int32.minValue, 0⟩ .permissive hblock (by omega)
    ((htried.tried.sensed_iff globalWire).2 hcalled.senses) hcall
    (by rw [haddress]; exact hcalled.numAddressBit)
  obtain ⟨htype, hway, hcolumn⟩ :=
    (htried.tried.powerOfTwo.matCalled hcall).data htried.tried.memoryType
  obtain ⟨hbits, hactive, hactiveLt⟩ := htried.operands hblock hcall
  have hpartition : (dataArray ip.toSettings cell.memCellType).blockSize / (1 * 1 * (1 * 1)) =
      (dataArray ip.toSettings cell.memCellType).blockSize := Nat.div_one _
  have hselected : p.numColumnSelected =
      (dataArray ip.toSettings cell.memCellType).blockSize := hcolumn.trans hpartition
  have hbound := ArraySpec.cells_le hcalled.numAddressBit
  have hpositive := hcalled.blockSize
  generalize dataArray ip.toSettings cell.memCellType = spec at *
  obtain ⟨w, hw⟩ := hassoc
  have hwle : w ≤ 7 := by
    rw [hw] at hways
    exact (Nat.pow_le_pow_iff_right (by norm_num)).1 (hways.trans_eq (by norm_num : 128 = 2 ^ 7))
  obtain ⟨mat, hmat, hvalid, hcells⟩ := p.initializeMatInt_negative
    (htried.tried.powerOfTwo.matCalled hcall).clampActive_eq htype (by rw [haddress]; omega)
    (hway.trans hw) (hmux.trans hw) hwle (hbits.trans (by norm_num)) hactive hactiveLt
    (by rw [hselected]; exact hpositive)
  have hbank := (hfinish mat).valid hvalid fun _ _ => rfl
  obtain ⟨hparams, hsame⟩ := (hfinish mat).params hbank
  rw [hmat] at hinit
  have hstored := h.of_mem hmem hinit hbank
  unfold Bank.storedCapacityInt at hstored
  rw [hsame, hcells, hparams, hselected] at hstored
  have hproduct : Int64.ofNat (spec.blockSize * 2 ^ w) * Int32.minValue.toInt64 =
      Int64.ofNat spec.capacity := by
    simpa [Candidate.toBankParams, Candidate.single] using hstored
  have hpow : 2 ^ 31 ≤ 2 ^ spec.numAddressBit.toNat :=
    Nat.pow_le_pow_right (by norm_num) (by omega)
  refine int64_ofNat_mul_minValue_ne (by positivity) hcapacity ?_ hproduct
  rw [← hw, mul_comm]
  exact (Nat.mul_le_mul_right _ hpow).trans hbound

/-- With the candidates whose subarrays are all active every partition keeps the capacity. -/
theorem StoredCapacityVerified.exact
    (h : StoredCapacityVerified ⟨0, 0⟩ .permissive cell.memCellType ip.toSettings globalWire args)
    (hconstraint : ip₀.applyConstraint cell.memCellType = some ip)
    (hspace : ip.toSearchSpace.IsDefault)
    (hargs : ip.dataCandidates cell.memCellType = .ok args)
    (hblock : (dataArray ip.toSettings cell.memCellType).blockSize < 2 ^ 31)
    (hways : (dataArray ip.toSettings cell.memCellType).associativity ≤ 128)
    (hbits : (dataArray ip.toSettings cell.memCellType).numAddressBit ≤ 30)
    (hcapacity : (dataArray ip.toSettings cell.memCellType).capacity < 2 ^ 62)
    (hcalled : (dataArray ip.toSettings cell.memCellType).Called ip cell.memCellType globalWire)
    (hassocLe : (dataArray ip.toSettings cell.memCellType).associativity ≤
      2 ^ (dataArray ip.toSettings cell.memCellType).numAddressBit.toNat) :
    (dataArray ip.toSettings cell.memCellType).Exact := by
  obtain ⟨hassoc, -⟩ := dataArray_cases hconstraint
  rw [ArraySpec.exact_iff (Nat.pos_of_isPowerOfTwo hassoc) hcalled.blockSize]
  intro i hi hle
  obtain ⟨c, hactive, a, hmem, ha, hp, hall⟩ :=
    exists_allActive_mem hconstraint hspace hargs hi hle
  have htried := dataCandidates_tried hconstraint hspace hargs a hmem
  obtain ⟨hsame, -⟩ := dataCandidates_partition hspace hargs a hmem
  have hpartition : a.numPartition = 2 ^ i := by
    rw [ha]
    exact (c.numActive_toBankParams _ _ _).trans hactive
  have hbound := ArraySpec.cells_le hcalled.numAddressBit
  have hpositive := hcalled.numAddressBit
  obtain ⟨q, matParams, hcall, hlegal⟩ := hall.legal hp htried.tried.memoryType
    (by rw [htried.numAddressBit]; exact hpositive)
    (by rw [htried.numAddressBit, htried.associativity]; exact hassocLe)
    htried.tried.partition cell.memCellType
  have hsensed : a.Sensed cell.memCellType globalWire.wireRepeaterType ip.routingMode :=
    (htried.tried.sensed_iff globalWire).2 hcalled.senses
  generalize dataArray ip.toSettings cell.memCellType = spec at *
  have hcalledMat := hp.matCalled hcall
  obtain ⟨htype, hway, -⟩ := hcalledMat.data htried.tried.memoryType
  rw [hcalledMat.clampActive_eq] at hlegal
  obtain ⟨finish, hinit, hfinish⟩ := htried.calls ⟨0, 0⟩ .permissive hblock
    (by omega) hsensed hcall hlegal.addressBit
  obtain ⟨mat, hmat, hvalid⟩ := htried.cells ⟨0, 0⟩ .permissive hblock
    hways hbits hcall
  obtain ⟨hdataBit, hactivePos, hactiveLt⟩ := htried.operands hblock hcall
  have hmux : matParams.muxDegree = spec.associativity := by
    rw [hcalledMat.muxDegree_eq, hall.muxDegree, one_mul, ← htried.associativity]
    simp only [BankParams.numWayPerRow, htried.tried.memoryType, hall.numRowPerSet, Nat.div_one]
  -- the mat is legal, and its integers fit
  have hfit : matParams.IntsFit :=
    ⟨(htried.sized hcall).addressBit.trans hbits, (htried.sized hcall).muxDegree_pos,
      by rw [hmux]; omega, by rw [hway, htried.associativity]; omega,
      hdataBit.trans (by norm_num), hactivePos, hactiveLt⟩
  have hclampFit : 0 < matParams.clampActive.effectiveAddressBit →
      matParams.clampActive.IntsFit := by
    rw [hcalledMat.clampActive_eq]
    exact fun _ => hfit
  have hmap := initializeMatInt_map ⟨0, 0⟩ .permissive hclampFit
  rw [hmat] at hmap
  have hmatValid : mat.invalid = false := by
    rw [Option.some.inj hmap]
    exact initializeMat_invalid_iff.2 (by rw [hcalledMat.clampActive_eq]; exact hlegal)
  have hbank := (hfinish mat).valid hmatValid fun _ _ => rfl
  obtain ⟨hparams, hmatEq⟩ := (hfinish mat).params hbank
  obtain ⟨-, -, hcells⟩ := hvalid hmatValid
  rw [← hmatEq] at hcells
  have hstored := storedCapacityInt_eq hp htried.tried.memoryType hcalledMat hlegal.addressBit
    hparams hcells
  rw [htried.numAddressBit, htried.associativity, htried.blockSize, hpartition] at hstored
  rw [hmat] at hinit
  have hverified := h.of_mem hmem hinit hbank
  rw [hstored, hsame] at hverified
  refine int64_ofNat_inj ?_ (by omega) hverified
  have hle : 2 ^ spec.numAddressBit.toNat * (spec.associativity * (spec.blockSize / 2 ^ i)) *
      2 ^ i ≤ 2 ^ spec.numAddressBit.toNat * (spec.blockSize * spec.associativity) := by
    rw [mul_assoc, mul_assoc, mul_comm spec.blockSize]
    exact Nat.mul_le_mul_left _ (Nat.mul_le_mul_left _ (Nat.div_mul_le_self _ _))
  omega

end Check

/-- For a configuration with the default space, whose blocks an `int` holds and whose capacity
has at most 62 bits: all candidates of the data search keep to the identity of
`VERIFY_DATA_CAPACITY`, for any circuit models and whatever the undefined operations deliver, if
and only if an array that gets to `Mat::Initialize` with address bits is counted right.  When the
capacity is a number of whole sets, the first condition for being exact holds for all arrays but
those whose block is a flash page. -/
theorem data_capacity_verified_iff {K : Type} (ip₀ ip : InputParameter K) (cell : MemCell K)
    (hconstraint : ip₀.applyConstraint cell.memCellType = some ip)
    (hspace : ip.toSearchSpace.IsDefault) (hassoc : ip.associativity < 2 ^ 31)
    (hblock : (dataArray ip.toSettings cell.memCellType).blockSize < 2 ^ 31)
    (hcapacity : (dataArray ip.toSettings cell.memCellType).capacity < 2 ^ 62) :
    ∃ args spec, ip.dataCandidates cell.memCellType = .ok args ∧
      spec = dataArray ip.toSettings cell.memCellType ∧
      ((∀ (undefined : Undefined) (el : Electrical Int64) (localWire globalWire : Wire),
          ip.initialBasicWire = .ok (localWire, globalWire) →
            StoredCapacityVerified undefined el cell.memCellType ip.toSettings globalWire args) ↔
        ∀ localWire globalWire, ip.initialBasicWire = .ok (localWire, globalWire) →
          spec.Called ip cell.memCellType globalWire → spec.Counted) ∧
      (¬ (ip.designTarget = .ramChip ∧ cell.memCellType = .slcNAND) → 0 < ip.wordWidth →
        ∀ n, ip.capacity * 8 = ip.wordWidth * ip.associativity.toNat * 2 ^ n →
          2 ^ spec.numAddressBit.toNat * (spec.associativity * spec.blockSize) =
            spec.capacity) := by
  obtain ⟨args, hargs, -⟩ := InputParameter.enumerates_dataCandidates
    (InputParameter.dataSpace_isDefault hspace).powersOfTwo.positive cell.memCellType
  obtain ⟨hpow, hone, hsets⟩ := dataArray_cases hconstraint
  have hways : (dataArray ip.toSettings cell.memCellType).associativity < 2 ^ 31 :=
    (dataArray_associativity_le _ _).trans_lt (by omega)
  refine ⟨args, _, hargs, rfl, ⟨fun hverified localWire globalWire hwires hcalled => ?_,
    fun hcounted undefined el localWire globalWire hwires => ?_⟩,
    fun hpage hword n hcapacity => ?_⟩
  · have hpermissive := hverified ⟨0, 0⟩ .permissive localWire globalWire hwires
    have hmany := hpermissive.associativity_le hconstraint hspace hargs hblock hways hcalled
    have hbits := (hverified ⟨Int32.minValue, 0⟩ .permissive localWire globalWire
      hwires).numAddressBit_le hconstraint hspace hargs hblock hmany hcapacity hcalled
    exact ⟨hmany, fun _ => hbits, fun hle =>
      hpermissive.exact hconstraint hspace hargs hblock hmany hbits hcapacity hcalled hle⟩
  · exact storedCapacityVerified_of_counted undefined el hconstraint hspace hargs hblock hways
      (hcounted localWire globalWire hwires)
  · obtain ⟨hblock, m, hm⟩ := hsets hpage hword n hcapacity
    exact ArraySpec.capacity_of_mul_two_pow hblock (Nat.pos_of_isPowerOfTwo hpow) hm

/-- No candidate of the search for 8 KB of 64-bit words violates the capacity. -/
theorem data_capacity_verified_ram :
    (InputParameter.ram (8 * 1024) 64 : InputParameter ℚ).applyConstraint .sram =
        some (.ram (8 * 1024) 64) ∧
      ∃ args localWire globalWire,
        (InputParameter.ram (8 * 1024) 64 : InputParameter ℚ).dataCandidates .sram = .ok args ∧
        (InputParameter.ram (8 * 1024) 64 : InputParameter ℚ).initialBasicWire =
          .ok (localWire, globalWire) ∧
        ∀ undefined el, StoredCapacityVerified undefined el .sram
          (InputParameter.ram (8 * 1024) 64 : InputParameter ℚ).toSettings globalWire args := by
  obtain ⟨args, spec, hargs, hspec, hverified, hcapacity⟩ := data_capacity_verified_iff
    (.ram (8 * 1024) 64 : InputParameter ℚ) (.ram (8 * 1024) 64) .sram rfl
    (SearchSpace.isDefault_restored le_rfl) (by decide) (by decide) (by decide)
  refine ⟨rfl, args, _, _, hargs, rfl, fun undefined el => hverified.2 (fun _ _ _ _ => ?_)
    undefined el _ _ rfl⟩
  refine ⟨?_, fun _ => ?_, fun _ => ⟨hcapacity ?_ (by decide) 10 (by decide), ?_⟩⟩
  · rw [hspec]
    decide
  · rw [hspec]
    decide +kernel
  · rintro ⟨-, hnand⟩
    cases hnand
  · rw [hspec]
    decide +kernel

/-- In the search for 9 KB of 72-bit words a valid candidate violates the capacity, and the data
phase exits. -/
theorem data_capacity_violated_ram :
    ∃ (ip : InputParameter ℚ) (localWire globalWire : Wire) (args : List BankParams),
      ip = .ram (9 * 1024) 72 ∧ ip.applyConstraint .sram = some ip ∧
      ip.toSearchSpace.IsDefault ∧ ip.capacity * 8 = 72 * 1 * 2 ^ 10 ∧
      ip.initialBasicWire = .ok (localWire, globalWire) ∧ ip.dataCandidates .sram = .ok args ∧
      ¬ StoredCapacityVerified ⟨0, 0⟩ .permissive .sram ip.toSettings globalWire args ∧
      ∃ models : Models ℚ, dataPhase models ip .sram = .error .capacityViolation := by
  obtain ⟨ip, hip⟩ : ∃ ip : InputParameter ℚ, ip = .ram (9 * 1024) 72 := ⟨_, rfl⟩
  obtain ⟨cell, hcell⟩ : ∃ cell : MemCell ℚ, cell = .sram := ⟨_, rfl⟩
  have htype : cell.memCellType = .sram := by rw [hcell]; rfl
  have hconstraint : ip.applyConstraint cell.memCellType = some ip := by
    rw [hip, hcell]
    rfl
  have hspace : ip.toSearchSpace.IsDefault := by
    rw [hip]
    exact SearchSpace.isDefault_restored le_rfl
  obtain ⟨args, hargs, -⟩ := InputParameter.enumerates_dataCandidates
    (InputParameter.dataSpace_isDefault hspace).powersOfTwo.positive cell.memCellType
  obtain ⟨localWire, globalWire, hwires⟩ : ∃ localWire globalWire,
      ip.initialBasicWire = .ok (localWire, globalWire) := by
    rw [hip]
    exact ⟨_, _, rfl⟩
  have hsenses (globalWire : Wire) : ip.Senses cell.memCellType globalWire := by
    rw [hip]
    exact .inl rfl
  have hmisses : ¬ (dataArray ip.toSettings cell.memCellType).Exact := by
    rw [hip, hcell]
    exact fun hexact => absurd hexact.partition (by decide +kernel)
  have hdesignable : (dataArray ip.toSettings cell.memCellType).Designable := by
    rw [hip, hcell]
    exact ⟨by decide, by decide +kernel, by decide +kernel⟩
  have hviolated : ¬ StoredCapacityVerified ⟨0, 0⟩ .permissive cell.memCellType ip.toSettings
      globalWire args := by
    intro hverified
    have hsmall : (dataArray ip.toSettings cell.memCellType).blockSize < 2 ^ 31 ∧
        (dataArray ip.toSettings cell.memCellType).associativity ≤ 128 ∧
        (dataArray ip.toSettings cell.memCellType).numAddressBit ≤ 30 ∧
        (dataArray ip.toSettings cell.memCellType).capacity < 2 ^ 62 := by
      rw [hip, hcell]
      decide +kernel
    obtain ⟨hblock, hways, hbits, hcapacity⟩ := hsmall
    exact hmisses (hverified.exact hconstraint hspace hargs hblock hways hbits hcapacity
      ⟨hsenses globalWire, hdesignable.blockSize, hdesignable.addressBit⟩
      hdesignable.associativity)
  have hexits : ∃ models : Models ℚ, dataPhase models ip cell = .error .capacityViolation := by
    by_contra hnever
    exact hmisses ((dataPhase_keeps_capacity_iff hconstraint hspace).1
      (fun models h => hnever ⟨models, h⟩) localWire globalWire hwires (hsenses globalWire)
      hdesignable)
  rw [htype] at hconstraint hargs hviolated
  rw [hcell] at hexits
  exact ⟨ip, localWire, globalWire, args, hip, hconstraint, hspace, by rw [hip]; decide, hwires,
    hargs, hviolated, hexits⟩

end NVSim
