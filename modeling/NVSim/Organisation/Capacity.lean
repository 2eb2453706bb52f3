import NVSim.Organisation.Agreement

/-!
# Capacity and access width

The rows and columns of a subarray come out of truncating divisions, by the mux
degree for the rows and by the counts of active mats and subarrays for the
columns.  For parameters that are powers of two the first division is exact and
cancels against the mux degree in the columns, whatever number of ways was
redistributed over the multiplexers.  So the cells of a valid bank are a product
of its parameters (`storedCapacity_eq`), and they are the whole capacity exactly
when the second division is exact, too.
-/

namespace NVSim

open Library

/-- All counts of a bank are powers of two, and no active count exceeds its total. -/
structure BankParams.PowerOfTwo (p : BankParams) : Prop where
  numRowMat : p.numRowMat.isPowerOfTwo
  numColumnMat : p.numColumnMat.isPowerOfTwo
  associativity : p.associativity.isPowerOfTwo
  numRowPerSet : p.numRowPerSet.isPowerOfTwo
  numActiveMatPerRow : p.numActiveMatPerRow.isPowerOfTwo
  numActiveMatPerColumn : p.numActiveMatPerColumn.isPowerOfTwo
  muxSenseAmp : p.muxSenseAmp.isPowerOfTwo
  muxOutputLev1 : p.muxOutputLev1.isPowerOfTwo
  muxOutputLev2 : p.muxOutputLev2.isPowerOfTwo
  numRowSubarray : p.numRowSubarray.isPowerOfTwo
  numColumnSubarray : p.numColumnSubarray.isPowerOfTwo
  numActiveSubarrayPerRow : p.numActiveSubarrayPerRow.isPowerOfTwo
  numActiveSubarrayPerColumn : p.numActiveSubarrayPerColumn.isPowerOfTwo
  numActiveMatPerRow_le : p.numActiveMatPerRow ≤ p.numColumnMat
  numActiveMatPerColumn_le : p.numActiveMatPerColumn ≤ p.numRowMat
  numActiveSubarrayPerRow_le : p.numActiveSubarrayPerRow ≤ p.numColumnSubarray
  numActiveSubarrayPerColumn_le : p.numActiveSubarrayPerColumn ≤ p.numRowSubarray

namespace BankParams

/-- The active mats of a bank. -/
def numActiveMat (p : BankParams) : ℕ := p.numActiveMatPerRow * p.numActiveMatPerColumn

/-- The active subarrays of a mat. -/
def numActiveSubarray (p : BankParams) : ℕ :=
  p.numActiveSubarrayPerRow * p.numActiveSubarrayPerColumn

/-- The ways that share a row of a data array. -/
def numWayPerRow (p : BankParams) : ℕ :=
  match p.memoryType with
  | .data => p.associativity / p.numRowPerSet
  | _ => 1

theorem PowerOfTwo.clampActive_eq {p : BankParams} (hp : p.PowerOfTwo) : p.clampActive = p := by
  simp only [clampActive, hp.numActiveMatPerRow_le.not_gt, hp.numActiveMatPerColumn_le.not_gt,
    hp.numActiveSubarrayPerRow_le.not_gt, hp.numActiveSubarrayPerColumn_le.not_gt, if_false]

theorem PowerOfTwo.isPowerOfTwo_muxDegree {p : BankParams} (hp : p.PowerOfTwo) :
    p.muxDegree.isPowerOfTwo :=
  isPowerOfTwo_mul (isPowerOfTwo_mul hp.muxSenseAmp hp.muxOutputLev1) hp.muxOutputLev2

/-- The extra mux levels of several ways per row multiply the mux degree by their
number, for DRAM-like and for other cells. -/
theorem muxDegree_expandMux (memCellType : MemCellType) (p : BankParams) (w : ℕ) :
    (p.expandMux memCellType (2 ^ w)).muxDegree = p.muxDegree * 2 ^ w := by
  unfold expandMux
  by_cases hone : 2 ^ w > 1
  · rw [if_pos hone, log2Rounded_two_pow]
    by_cases hdram : memCellType.isDram = true
    · simp only [hdram, if_true, muxDegree]
-- the sense amplifiers of a DRAM are not shared by ways
      have hsplit : 2 ^ w / 2 ^ (w / 2) * 2 ^ (w / 2) = 2 ^ w :=
        Nat.div_mul_cancel (pow_dvd_pow 2 (by omega))
      calc p.muxSenseAmp * (p.muxOutputLev1 * (2 ^ w / 2 ^ (w / 2))) *
            (p.muxOutputLev2 * 2 ^ (w / 2))
          = p.muxSenseAmp * p.muxOutputLev1 * p.muxOutputLev2 *
              (2 ^ w / 2 ^ (w / 2) * 2 ^ (w / 2)) := by ring
        _ = p.muxSenseAmp * p.muxOutputLev1 * p.muxOutputLev2 * 2 ^ w := by rw [hsplit]
    · simp only [hdram, Bool.false_eq_true, if_false, muxDegree]
      have hsplit : 2 ^ w / 2 ^ (w / 3) / 2 ^ (w / 3) * (2 ^ (w / 3) * 2 ^ (w / 3)) = 2 ^ w := by
        rw [Nat.div_div_eq_div_mul, ← pow_add]
        exact Nat.div_mul_cancel (pow_dvd_pow 2 (by omega))
      calc p.muxSenseAmp * (2 ^ w / 2 ^ (w / 3) / 2 ^ (w / 3)) *
            (p.muxOutputLev1 * 2 ^ (w / 3)) * (p.muxOutputLev2 * 2 ^ (w / 3))
          = p.muxSenseAmp * p.muxOutputLev1 * p.muxOutputLev2 *
              (2 ^ w / 2 ^ (w / 3) / 2 ^ (w / 3) * (2 ^ (w / 3) * 2 ^ (w / 3))) := by ring
        _ = p.muxSenseAmp * p.muxOutputLev1 * p.muxOutputLev2 * 2 ^ w := by rw [hsplit]
  · have hw : 2 ^ w = 1 := by
      have := Nat.one_le_two_pow (n := w)
      omega
    rw [if_neg hone, hw, mul_one]

end BankParams

/-! ## The rows and columns of one subarray -/

namespace MatParams

/-- The ways that the rows of a subarray hold for one address. -/
def numWayInRows (p : MatParams) : ℕ := if p.memoryType = .data then p.numWay else 1

/-- The ways that the columns of a subarray hold for one address. -/
def numWayInColumns (p : MatParams) : ℕ := if p.memoryType = .tag then p.numWay else 1

/-- Distributing the rows to column decoding is an exact division. -/
theorem numRow_mul_muxDegree {p : MatParams} (hmux : p.muxDegree.isPowerOfTwo)
    (hway : p.numWay.isPowerOfTwo) (hrow : 0 < p.numRow) :
    p.numRow * p.muxDegree = 2 ^ p.effectiveAddressBit.toNat * p.numWayInRows := by
  have haddress : (2 ^ p.effectiveAddressBit.toNat).isPowerOfTwo := ⟨_, rfl⟩
  unfold numRow numWayInRows at *
  by_cases hdata : p.memoryType = .data
  · rw [if_pos hdata] at hrow ⊢
    rw [if_pos hdata]
    exact isPowerOfTwo_div_mul (isPowerOfTwo_mul haddress hway) hmux hrow
  · rw [if_neg hdata] at hrow ⊢
    rw [if_neg hdata, mul_one]
    exact isPowerOfTwo_div_mul haddress hmux hrow

theorem numColumn_eq (p : MatParams) :
    p.numColumn = p.numColumnSelected * p.muxDegree * p.numWayInColumns := by
  unfold numColumn numWayInColumns
  by_cases htag : p.memoryType = .tag
  · rw [if_pos htag, if_pos htag]
  · rw [if_neg htag, if_neg htag, mul_one]

/-- The mux degree cancels in rows times columns of a subarray. -/
theorem numColumn_mul_numRow {p : MatParams} (hmux : p.muxDegree.isPowerOfTwo)
    (hway : p.numWay.isPowerOfTwo) (hrow : 0 < p.numRow) :
    p.numColumn * p.numRow =
      2 ^ p.effectiveAddressBit.toNat *
        (p.numWayInRows * (p.numColumnSelected * p.numWayInColumns)) := by
  calc p.numColumn * p.numRow
      = p.numRow * p.muxDegree * (p.numWayInColumns * p.numColumnSelected) := by
        rw [numColumn_eq]
        ring
    _ = 2 ^ p.effectiveAddressBit.toNat * p.numWayInRows *
          (p.numWayInColumns * p.numColumnSelected) := by
        rw [numRow_mul_muxDegree hmux hway hrow]
    _ = 2 ^ p.effectiveAddressBit.toNat *
          (p.numWayInRows * (p.numColumnSelected * p.numWayInColumns)) := by ring

end MatParams

/-! ## The call of `Mat::Initialize` -/

namespace BankParams

/-- The ways a data array holds in the rows of its subarrays. -/
def numWayInRows (p : BankParams) : ℕ := if p.memoryType = .data then p.associativity else 1

/-- The columns that one address selects in an active subarray. -/
def columnsPerAddress (p : BankParams) : ℕ :=
  match p.memoryType with
  | .data => p.blockSize / (p.numActiveMat * p.numActiveSubarray)
  | .tag => p.blockSize / p.numActiveSubarray * (p.associativity / p.numActiveMat)
  | .cam => p.blockSize / p.numActiveSubarray

/-- What a bank with power-of-two counts passes to its mat. -/
structure MatCalled (p : BankParams) (matParams : MatParams) : Prop where
  clampActive_eq : matParams.clampActive = matParams
  memoryType_eq : matParams.memoryType = p.memoryType
  muxDegree_eq : matParams.muxDegree = p.muxDegree * p.numWayPerRow
  isPowerOfTwo_muxDegree : matParams.muxDegree.isPowerOfTwo
  isPowerOfTwo_numWay : matParams.numWay.isPowerOfTwo
  ways : matParams.numWayInRows = p.numWayInRows
  columns : matParams.numColumnSelected * matParams.numWayInColumns = p.columnsPerAddress
  addressBit : matParams.numAddressBit = p.numAddressBitRouteToMat
  gating : matParams.numAddressForGating =
    log2Rounded (p.numRowSubarray * p.numColumnSubarray / p.numActiveSubarrayPerColumn /
      p.numActiveSubarrayPerRow)

theorem PowerOfTwo.isPowerOfTwo_numWayPerRow {p : BankParams} (hp : p.PowerOfTwo)
    (hle : p.memoryType = .data → p.numRowPerSet ≤ p.associativity) :
    p.numWayPerRow.isPowerOfTwo := by
  unfold numWayPerRow
  cases htype : p.memoryType with
  | data =>
      apply isPowerOfTwo_div hp.associativity hp.numRowPerSet
      exact Nat.div_pos (hle htype) (Nat.pos_of_isPowerOfTwo hp.numRowPerSet)
  | tag => exact Nat.isPowerOfTwo_one
  | cam => exact Nat.isPowerOfTwo_one

/-- The data bits and the ways of a mat with power-of-two counts. -/
theorem PowerOfTwo.routedWithoutHtree {p : BankParams} (hp : p.PowerOfTwo) {numDataBit numWay : ℕ}
    (h : p.routedWithoutHtree = some (numDataBit, numWay)) :
    numWay.isPowerOfTwo ∧
      match p.memoryType with
      | .data => p.numRowPerSet ≤ p.associativity ∧ numWay = p.associativity ∧
          numDataBit = p.blockSize / p.numActiveMat
      | .tag => p.numRowPerSet = 1 ∧ numWay = p.associativity / p.numActiveMat ∧
          numDataBit = p.blockSize
      | .cam => numWay = 1 ∧ numDataBit = p.blockSize := by
  have hactive := isPowerOfTwo_mul hp.numActiveMatPerRow hp.numActiveMatPerColumn
  unfold BankParams.routedWithoutHtree at h
  cases htype : p.memoryType with
  | data =>
      simp only [htype] at h ⊢
      split at h
      · cases h
      · rename_i hle
        simp only [Option.some.injEq, Prod.mk.injEq] at h
        obtain ⟨rfl, rfl⟩ := h
        refine ⟨hp.associativity, not_lt.1 hle, rfl, ?_⟩
        rw [Nat.div_div_eq_div_mul, numActiveMat, mul_comm]
  | tag =>
      simp only [htype, Nat.div_div_eq_div_mul] at h ⊢
      rw [mul_comm p.numActiveMatPerColumn] at h
      split at h
      · cases h
      · rename_i hset
        split at h
        · cases h
        · rename_i hway
          simp only [Option.some.injEq, Prod.mk.injEq] at h
          obtain ⟨rfl, rfl⟩ := h
          have hone := Nat.pos_of_isPowerOfTwo hp.numRowPerSet
          exact ⟨isPowerOfTwo_div hp.associativity hactive (by omega), by omega, rfl, rfl⟩
  | cam =>
      simp only [htype, Option.some.injEq, Prod.mk.injEq] at h ⊢
      obtain ⟨rfl, rfl⟩ := h
      exact ⟨Nat.isPowerOfTwo_one, rfl, rfl⟩

theorem PowerOfTwo.matCalled {p q : BankParams} (hp : p.PowerOfTwo) {memCellType : MemCellType}
    {matParams : MatParams}
    (h : p.matParamsWithoutHtree memCellType = some (q, matParams)) :
    p.MatCalled matParams := by
  obtain ⟨numDataBit, numWay, hbits, rfl, rfl⟩ := matCall_eq_some h
  obtain ⟨hway, hrouted⟩ := hp.routedWithoutHtree hbits
-- the ways of a row are a power of two, so the multiplexers take all of them
  have hmux : (p.expandDataMux memCellType numWay).muxDegree = p.muxDegree * p.numWayPerRow := by
    unfold expandDataMux numWayPerRow
    cases htype : p.memoryType with
    | data =>
        simp only [htype] at hrouted
        obtain ⟨hle, rfl, -⟩ := hrouted
        have hperRow := hp.isPowerOfTwo_numWayPerRow (fun _ => hle)
        simp only [numWayPerRow, htype] at hperRow
        obtain ⟨w, hw⟩ := hperRow
        simp only [hw, muxDegree_expandMux]
    | tag => simp only [mul_one]
    | cam => simp only [mul_one]
  have hperRow : p.numWayPerRow.isPowerOfTwo := by
    refine hp.isPowerOfTwo_numWayPerRow (fun htype => ?_)
    simp only [htype] at hrouted
    exact hrouted.1
  have hpow := isPowerOfTwo_mul hp.isPowerOfTwo_muxDegree hperRow
  rw [← hmux] at hpow
  obtain ⟨m₀, m₁, m₂, hq⟩ := expandDataMux_eq memCellType numWay p
  rw [hq] at hmux hpow ⊢
  refine ⟨?_, rfl, hmux, hpow, hway, ?_, ?_, rfl, rfl⟩
  · simp only [toMatParams, MatParams.clampActive, hp.numActiveSubarrayPerRow_le.not_gt,
      hp.numActiveSubarrayPerColumn_le.not_gt, if_false]
  · unfold MatParams.numWayInRows numWayInRows
    cases htype : p.memoryType with
    | data =>
        simp only [htype] at hrouted
        simp [toMatParams, hrouted.2.1]
    | tag => simp [toMatParams]
    | cam => simp [toMatParams]
  · unfold MatParams.numColumnSelected MatParams.numWayInColumns columnsPerAddress
    cases htype : p.memoryType with
    | data =>
        simp only [htype] at hrouted
        simp [toMatParams, hrouted.2.2, Nat.div_div_eq_div_mul, numActiveSubarray]
    | tag =>
        simp only [htype] at hrouted
        simp [toMatParams, hrouted.2.1, hrouted.2.2, numActiveSubarray]
    | cam =>
        simp only [htype] at hrouted
        simp [toMatParams, hrouted.2, numActiveSubarray]

/-- The bits for power gating tell the active parts among all parts. -/
theorem two_pow_gating {row column activeRow activeColumn : ℕ} (hrow : row.isPowerOfTwo)
    (hcolumn : column.isPowerOfTwo) (hactiveRow : activeRow.isPowerOfTwo)
    (hactiveColumn : activeColumn.isPowerOfTwo) (hrowle : activeRow ≤ row)
    (hcolumnle : activeColumn ≤ column) :
    2 ^ log2Rounded (row * column / activeRow / activeColumn) * (activeColumn * activeRow) =
      column * row := by
  obtain ⟨r, rfl⟩ := hrow
  obtain ⟨c, rfl⟩ := hcolumn
  obtain ⟨y, rfl⟩ := hactiveRow
  obtain ⟨x, rfl⟩ := hactiveColumn
  have hy := (Nat.pow_le_pow_iff_right (by norm_num)).1 hrowle
  have hx := (Nat.pow_le_pow_iff_right (by norm_num)).1 hcolumnle
  rw [← pow_add, two_pow_div_two_pow_of_le (by omega), two_pow_div_two_pow_of_le (by omega),
    log2Rounded_two_pow, ← pow_add, ← pow_add, ← pow_add]
  congr 1
  omega

/-- All address bits together: those of a subarray and those for power gating. -/
theorem PowerOfTwo.two_pow_effectiveAddressBit {p : BankParams} (hp : p.PowerOfTwo)
    {matParams : MatParams} (hcalled : p.MatCalled matParams)
    (haddress : 0 < matParams.effectiveAddressBit) :
    2 ^ matParams.effectiveAddressBit.toNat *
        (p.numColumnMat * p.numRowMat * (p.numColumnSubarray * p.numRowSubarray)) =
      2 ^ p.numAddressBit.toNat * (p.numActiveMat * p.numActiveSubarray) := by
  have hmat := two_pow_gating hp.numRowMat hp.numColumnMat hp.numActiveMatPerColumn
    hp.numActiveMatPerRow hp.numActiveMatPerColumn_le hp.numActiveMatPerRow_le
  have hsubarray := two_pow_gating hp.numRowSubarray hp.numColumnSubarray
    hp.numActiveSubarrayPerColumn hp.numActiveSubarrayPerRow hp.numActiveSubarrayPerColumn_le
    hp.numActiveSubarrayPerRow_le
  have hbits : p.numAddressBit.toNat = matParams.effectiveAddressBit.toNat +
      p.numAddressForGating + matParams.numAddressForGating := by
    unfold MatParams.effectiveAddressBit at haddress ⊢
    rw [hcalled.addressBit, numAddressBitRouteToMat] at haddress ⊢
    omega
  rw [hbits, hcalled.gating, ← hmat, ← hsubarray, numAddressForGating, pow_add, pow_add,
    numActiveMat, numActiveSubarray]
  ring

end BankParams

/-! ## Banks -/

/-- The columns an address selects in one subarray: the mux degree passed to the
subarray divides them, and the selected ones are the closed form. -/
def Bank.muxDegreeSubarray (b : Bank) : ℕ :=
  b.mat.subarray.muxSenseAmp * b.mat.subarray.muxOutputLev1 * b.mat.subarray.muxOutputLev2

/-- The cells and the selected columns of a valid bank, from its parameters. -/
theorem storedCapacity_eq {el : Electrical} {memCellType : MemCellType}
    {globalWireRepeaterType : WireRepeaterType} {routingMode : RoutingMode} {args : BankParams}
    {b : Bank} (hp : args.PowerOfTwo)
    (h : initializeBank el memCellType globalWireRepeaterType routingMode args = some b)
    (hvalid : b.invalid = false) :
    b.toBankParams = args ∧
      b.storedCapacity = 2 ^ args.numAddressBit.toNat *
        (args.numWayInRows * args.columnsPerAddress) *
          (args.numActiveMat * args.numActiveSubarray) ∧
      b.mat.subarray.numColumn = args.columnsPerAddress * b.muxDegreeSubarray ∧
      0 < b.muxDegreeSubarray ∧ 0 < args.columnsPerAddress := by
  obtain ⟨q, matParams, hmat, hlegal, rfl⟩ := initializeBank_valid hp.associativity hp.numRowMat
    hp.numColumnMat hp.numActiveMatPerRow hp.numActiveMatPerColumn h hvalid
  rw [hp.clampActive_eq] at hmat
  have hcalled := hp.matCalled hmat
  rw [initializeMat_of_legal hlegal]
  rw [hcalled.clampActive_eq] at hlegal ⊢
  obtain ⟨numDataBit, numWay, -, rfl, -⟩ := BankParams.matCall_eq_some hmat
  rw [BankParams.restoreMux_expandDataMux]
-- the mux degree divides the rows and multiplies the columns
  have hcells := MatParams.numColumn_mul_numRow hcalled.isPowerOfTwo_muxDegree
    hcalled.isPowerOfTwo_numWay hlegal.numRow
  rw [hcalled.ways, hcalled.columns] at hcells
  refine ⟨rfl, ?_, ?_, Nat.pos_of_isPowerOfTwo hcalled.isPowerOfTwo_muxDegree, ?_⟩
  · calc matParams.numColumn * matParams.numRow * args.numColumnMat * args.numRowMat *
          args.numColumnSubarray * args.numRowSubarray
        = matParams.numColumn * matParams.numRow *
            (args.numColumnMat * args.numRowMat *
              (args.numColumnSubarray * args.numRowSubarray)) := by
          ring
      _ = 2 ^ matParams.effectiveAddressBit.toNat *
            (args.numColumnMat * args.numRowMat *
              (args.numColumnSubarray * args.numRowSubarray)) *
                (args.numWayInRows * args.columnsPerAddress) := by
          rw [hcells]
          ring
      _ = 2 ^ args.numAddressBit.toNat * (args.numWayInRows * args.columnsPerAddress) *
            (args.numActiveMat * args.numActiveSubarray) := by
          rw [hp.two_pow_effectiveAddressBit hcalled hlegal.addressBit]
          ring
  · show matParams.numColumn = args.columnsPerAddress * matParams.muxDegree
    rw [MatParams.numColumn_eq, ← hcalled.columns]
    ring
  · have hway : 0 < matParams.numWayInColumns := by
      unfold MatParams.numWayInColumns
      split
      · exact Nat.pos_of_isPowerOfTwo hcalled.isPowerOfTwo_numWay
      · exact Nat.one_pos
    rw [← hcalled.columns]
    exact Nat.mul_pos hlegal.numColumn hway

namespace BankParams

/-- A small tag array, for examples: four 32-bit tags in a set. -/
def smallTag : BankParams :=
  { small with capacity := 32 * 4 * 256, blockSize := 32, memoryType := .tag }

theorem powerOfTwo_small : small.PowerOfTwo :=
  ⟨⟨1, rfl⟩, ⟨2, rfl⟩, ⟨2, rfl⟩, ⟨0, rfl⟩, ⟨1, rfl⟩, ⟨0, rfl⟩, ⟨0, rfl⟩, ⟨0, rfl⟩, ⟨0, rfl⟩,
    ⟨1, rfl⟩, ⟨1, rfl⟩, ⟨1, rfl⟩, ⟨0, rfl⟩, by decide, by decide, by decide, by decide⟩

theorem powerOfTwo_smallTag : smallTag.PowerOfTwo :=
  ⟨⟨1, rfl⟩, ⟨2, rfl⟩, ⟨2, rfl⟩, ⟨0, rfl⟩, ⟨1, rfl⟩, ⟨0, rfl⟩, ⟨0, rfl⟩, ⟨0, rfl⟩, ⟨0, rfl⟩,
    ⟨1, rfl⟩, ⟨1, rfl⟩, ⟨1, rfl⟩, ⟨0, rfl⟩, by decide, by decide, by decide, by decide⟩

/-- The columns all active subarrays select for one address: a block of a data
array, and one tag of every way of a tag array. -/
def accessWidth (p : BankParams) : ℕ :=
  match p.memoryType with
  | .tag => p.blockSize * p.associativity
  | _ => p.blockSize

/-- When the active counts divide the block, all its bits are selected. -/
theorem PowerOfTwo.columnsPerAddress_mul {p : BankParams} (hp : p.PowerOfTwo)
    (hdvd : p.numActiveMat * p.numActiveSubarray ∣ p.blockSize)
    (htype : p.memoryType = .data ∨ p.memoryType = .tag) (hpos : 0 < p.columnsPerAddress) :
    p.columnsPerAddress * p.numActiveSubarray * p.numActiveMat = p.accessWidth := by
  unfold columnsPerAddress accessWidth at *
  rcases htype with htype | htype
  · simp only [htype]
    rw [mul_assoc, mul_comm p.numActiveSubarray]
    exact Nat.div_mul_cancel hdvd
  · simp only [htype] at hpos ⊢
    have hway := isPowerOfTwo_div_mul hp.associativity
      (isPowerOfTwo_mul hp.numActiveMatPerRow hp.numActiveMatPerColumn)
      (Nat.pos_of_mul_pos_left hpos)
    have hblock := Nat.div_mul_cancel ((dvd_mul_left p.numActiveSubarray p.numActiveMat).trans hdvd)
    calc p.blockSize / p.numActiveSubarray * (p.associativity / p.numActiveMat) *
          p.numActiveSubarray * p.numActiveMat
        = p.blockSize / p.numActiveSubarray * p.numActiveSubarray *
            (p.associativity / p.numActiveMat * p.numActiveMat) := by ring
      _ = p.blockSize * p.associativity := by
          rw [hblock]
          exact congrArg (p.blockSize * ·) hway

end BankParams

/-- Capacity and access width of a valid bank of either organisation, for any
cell type and any electrical models: the cells of all subarrays are the capacity,
and the active subarrays together select one block of a data array, or the tags
of a whole set of a tag array. -/
theorem capacity_and_access_width (el : Electrical) (memCellType : MemCellType)
    (globalWireRepeaterType : WireRepeaterType) (routingMode : RoutingMode) (args : BankParams)
    (b : Bank) (n : ℕ) (hp : args.PowerOfTwo)
    (hdvd : args.numActiveMatPerRow * args.numActiveMatPerColumn *
      (args.numActiveSubarrayPerRow * args.numActiveSubarrayPerColumn) ∣ args.blockSize)
    (hcapacity : args.capacity = args.blockSize * args.associativity * 2 ^ n)
    (htype : args.memoryType = .data ∨ args.memoryType = .tag)
    (h : initializeBank el memCellType globalWireRepeaterType routingMode args = some b)
    (hvalid : b.invalid = false) :
    b.mat.subarray.numRow * b.mat.subarray.numColumn * args.numRowMat * args.numColumnMat *
        args.numRowSubarray * args.numColumnSubarray = args.capacity ∧
      b.muxDegreeSubarray ∣ b.mat.subarray.numColumn ∧
      b.mat.subarray.numColumn / b.muxDegreeSubarray *
          (args.numActiveSubarrayPerRow * args.numActiveSubarrayPerColumn) *
          (args.numActiveMatPerRow * args.numActiveMatPerColumn) = args.accessWidth := by
  obtain ⟨hparams, hstored, hcolumn, hmux, hpos⟩ := storedCapacity_eq hp h hvalid
  have hwidth := hp.columnsPerAddress_mul hdvd htype hpos
  refine ⟨?_, ⟨args.columnsPerAddress, hcolumn.trans (mul_comm _ _)⟩, ?_⟩
  · have hblock : 0 < args.blockSize := by
      have : 0 < args.accessWidth := by
        rw [← hwidth]
        exact Nat.mul_pos (Nat.mul_pos hpos (Nat.pos_of_isPowerOfTwo (isPowerOfTwo_mul
          hp.numActiveSubarrayPerRow hp.numActiveSubarrayPerColumn)))
          (Nat.pos_of_isPowerOfTwo (isPowerOfTwo_mul hp.numActiveMatPerRow
            hp.numActiveMatPerColumn))
      unfold BankParams.accessWidth at this
      rcases htype with htype | htype
      · simpa only [htype] using this
      · simp only [htype] at this
        exact Nat.pos_of_mul_pos_right this
-- the number of sets is a power of two, whose logarithm is exact
    have haddress : args.numAddressBit.toNat = n := by
      rw [BankParams.numAddressBit, hcapacity, log2RoundedRatio_mul_two_pow]
      · rfl
      · exact Nat.mul_pos hblock (Nat.pos_of_isPowerOfTwo hp.associativity)
    have hways : args.numWayInRows * args.accessWidth = args.blockSize * args.associativity := by
      unfold BankParams.numWayInRows BankParams.accessWidth
      rcases htype with htype | htype
      · simp only [htype, if_true]
        ring
      · simp only [htype, reduceCtorEq, if_false, one_mul]
    calc b.mat.subarray.numRow * b.mat.subarray.numColumn * args.numRowMat * args.numColumnMat *
          args.numRowSubarray * args.numColumnSubarray
        = b.storedCapacity := by
          rw [Bank.storedCapacity, hparams]
          ring
      _ = args.numWayInRows * (args.columnsPerAddress * args.numActiveSubarray *
            args.numActiveMat) * 2 ^ n := by
          rw [hstored, haddress]
          ring
      _ = args.capacity := by rw [hwidth, hways, hcapacity]
  · rw [hcolumn, Nat.mul_div_cancel _ hmux]
    exact hwidth

theorem capacity_and_access_width_small :
    ∃ b, initializeBank .permissive .sram .repeatedNone .hTree .small = some b ∧
      b.mat.subarray.numRow * b.mat.subarray.numColumn * 2 * 4 * 2 * 2 = 512 * 4 * 256 ∧
      b.muxDegreeSubarray ∣ b.mat.subarray.numColumn ∧
      b.mat.subarray.numColumn / b.muxDegreeSubarray * (2 * 1) * (2 * 1) = 512 :=
  ⟨_, rfl, capacity_and_access_width .permissive .sram .repeatedNone .hTree .small _ 8
    BankParams.powerOfTwo_small (by decide) rfl (.inl rfl) rfl rfl⟩

/-- A tag array of four ways selects four tags of 32 bits, not one. -/
theorem access_width_smallTag :
    BankParams.smallTag.PowerOfTwo ∧ 2 * 1 * (2 * 1) ∣ BankParams.smallTag.blockSize ∧
      BankParams.smallTag.capacity =
        BankParams.smallTag.blockSize * BankParams.smallTag.associativity * 2 ^ 8 ∧
      ∃ b, initializeBank .permissive .sram .repeatedNone .hTree .smallTag = some b ∧
        b.invalid = false ∧
        b.mat.subarray.numColumn / b.muxDegreeSubarray * (2 * 1) * (2 * 1) = 128 ∧
        BankParams.smallTag.blockSize = 32 :=
  ⟨BankParams.powerOfTwo_smallTag, by decide, rfl, _, rfl, rfl, rfl, rfl⟩

end NVSim
