import NVSim.Library.RoundedLog
import NVSim.Model.Mat

/-!
# The machine integers of `Mat::Initialize`

`initializeMat` counts exactly.  Here the rows and the columns are counted with the types of
the source: the shift and the product of the mux degrees are of type `int`, the rows, the
columns and the data bits are of type `long long`, and `RowDecoder::Initialize` takes the
rows as an `int` again.  An overflow of the product wraps around.  The counts of subarrays,
whose products are `int`s as well, are multiplied exactly.

Where no integer overflows, `initializeMatInt` is `initializeMat` (`initializeMatInt_map`).
-/

namespace NVSim

open Library

variable {ι : Type}

namespace MatParams

/-- `muxSenseAmp * muxOutputLev1 * muxOutputLev2` as an `int`. -/
def muxProduct (p : MatParams ι) : Int32 :=
  Int32.ofNat p.muxSenseAmp * Int32.ofNat p.muxOutputLev1 * Int32.ofNat p.muxOutputLev2

/-- `1 << _numAddressBit`, for a positive number of address bits.  A shift by the width of
an `int` or more is undefined; its result is a parameter. -/
def addressRows (undefinedShift : Int32) (p : MatParams ι) : Int32 :=
  if p.effectiveAddressBit < 32 then 1 <<< Int32.ofNat p.effectiveAddressBit.toNat
  else undefinedShift

/-- The rows before the column decoding, as a `long long`. -/
def wayRows (undefinedShift : Int32) (p : MatParams ι) : Int64 :=
  if p.memoryType = .data then
    (p.addressRows undefinedShift).toInt64 * (Int32.ofNat p.numWay).toInt64
  else (p.addressRows undefinedShift).toInt64

/-- `numRow` after `numRow /= (muxSenseAmp * muxOutputLev1 * muxOutputLev2)`; `none` is a
division by zero. -/
def storedNumRow (undefinedShift : Int32) (p : MatParams ι) : Option Int64 :=
  if p.muxProduct = 0 then none
  else some (p.wayRows undefinedShift / p.muxProduct.toInt64)

/-- The mux divisor is the product of the degrees, neither zero nor negative. -/
structure MuxExact (p : MatParams ι) : Prop where
  product : p.muxProduct.toInt = p.muxDegree
  pos : 0 < p.muxProduct.toInt

/-- The number of rows survives the shift of an `int`, the distribution to column decoding
and the call of `RowDecoder::Initialize`. -/
structure RowsExact (undefinedShift : Int32) (p : MatParams ι) : Prop where
  shift : (p.addressRows undefinedShift).toInt = 2 ^ p.effectiveAddressBit.toNat
  rows : ∃ numRow, p.storedNumRow undefinedShift = some numRow ∧ numRow.toInt = p.numRow ∧
    numRow.toInt32.toInt = numRow.toInt

/-! ## The mux divisor -/

theorem muxProduct_eq (p : MatParams ι) : p.muxProduct = Int32.ofNat p.muxDegree := by
  unfold muxProduct muxDegree
  rw [Int32.ofNat_mul, Int32.ofNat_mul]

theorem toInt_muxProduct {p : MatParams ι} (h : p.muxDegree < 2 ^ 31) :
    p.muxProduct.toInt = p.muxDegree := by
  rw [muxProduct_eq, Int32.toInt_ofNat_of_lt h]

theorem muxExact_iff {p : MatParams ι} (hpos : 0 < p.muxDegree) :
    p.MuxExact ↔ p.muxDegree < 2 ^ 31 := by
  constructor
  · intro h
    have hlt := Int32.toInt_lt p.muxProduct
    rw [h.product] at hlt
    exact_mod_cast hlt
  · intro h
    have hproduct := toInt_muxProduct h
    refine ⟨hproduct, ?_⟩
    rw [hproduct]
    exact_mod_cast hpos

/-- The product of 31 bits is the most negative `int`. -/
theorem toInt_muxProduct_of_eq {p : MatParams ι} (h : p.muxDegree = 2 ^ 31) :
    p.muxProduct.toInt = -2 ^ 31 := by
  rw [muxProduct_eq, h]
  decide

theorem toInt_muxProduct_bmod (p : MatParams ι) :
    p.muxProduct.toInt = Int.bmod p.muxDegree (2 ^ 32) := by
  rw [muxProduct_eq, Int32.toInt_ofNat']
  rfl

/-- The product wraps to zero if it is a multiple of the range of an `int`. -/
theorem muxProduct_eq_zero_iff {p : MatParams ι} : p.muxProduct = 0 ↔ 2 ^ 32 ∣ p.muxDegree := by
  rw [← Int32.toInt_inj, toInt_muxProduct_bmod]
  show Int.bmod p.muxDegree (2 ^ 32) = 0 ↔ _
  rw [← Int.dvd_iff_bmod_eq_zero]
  exact Int.natCast_dvd_natCast

theorem bmod_muxDegree_ne_zero {p : MatParams ι} (h : p.muxProduct ≠ 0) :
    Int.bmod p.muxDegree (2 ^ 32) ≠ 0 := by
  rw [← toInt_muxProduct_bmod]
  exact fun hzero => h (Int32.toInt_inj.1 hzero)

theorem natAbs_bmod_le (n : ℤ) : (Int.bmod n (2 ^ 32)).natAbs ≤ 2 ^ 31 := by
  have hlow : -2 ^ 31 ≤ Int.bmod n (2 ^ 32) := Int.le_bmod (by norm_num)
  have hhigh : Int.bmod n (2 ^ 32) < 2 ^ 31 := Int.bmod_lt (by norm_num)
  omega

/-- A divisor out of the range of an `int` gives the exact quotient after the wrap-around only
if nothing is left for it. -/
theorem tdiv_bmod_eq_iff {rows degree : ℕ} (hdegree : 2 ^ 31 ≤ degree)
    (hne : Int.bmod degree (2 ^ 32) ≠ 0) :
    (rows : ℤ).tdiv (Int.bmod degree (2 ^ 32)) = (rows / degree : ℕ) ↔
      rows < (Int.bmod degree (2 ^ 32)).natAbs := by
  have hlow : -2 ^ 31 ≤ Int.bmod degree (2 ^ 32) := Int.le_bmod (by norm_num)
  have hhigh : Int.bmod degree (2 ^ 32) < 2 ^ 31 := Int.bmod_lt (by norm_num)
  have hwrap := Int.bmod_add_bdiv (degree : ℤ) (2 ^ 32)
  generalize Int.bmod degree (2 ^ 32) = d at *
  rcases lt_or_ge rows d.natAbs with hlt | hge
  · have hnone : (rows : ℤ).tdiv d = 0 := by
      rw [← Int.natAbs_eq_zero, Int.natAbs_tdiv]
      exact Nat.div_eq_of_lt hlt
    refine iff_of_true ?_ hlt
    rw [hnone, Nat.div_eq_of_lt (by omega)]
    rfl
  · refine iff_of_false ?_ (not_lt.2 hge)
    rcases lt_or_gt_of_ne hne with hneg | hpos
    · -- a negative divisor, and a row to divide
      obtain ⟨m, rfl⟩ : ∃ m : ℕ, d = -m := ⟨d.natAbs, by omega⟩
      have hquotient : 0 < rows / m := Nat.div_pos (by omega) (by omega)
      rw [Int.tdiv_neg, ← Int.ofNat_tdiv]
      intro heq
      have hnonneg := Int.natCast_nonneg (rows / degree)
      have hcast : (0 : ℤ) < (rows / m : ℕ) := Int.natCast_pos.2 hquotient
      rw [← heq] at hnonneg
      exact absurd (Int.neg_nonneg.1 hnonneg) (not_le.2 hcast)
    · -- a positive divisor is less than half of the exact one
      obtain ⟨m, rfl⟩ : ∃ m : ℕ, d = m := ⟨d.natAbs, by omega⟩
      intro heq
      rw [← Int.ofNat_tdiv] at heq
      have hquotient : rows / m = rows / degree := Int.ofNat_inj.1 heq
      have hpositive : 0 < rows / m := Nat.div_pos (by omega) (by omega)
      have hhalf : m * 2 ≤ degree := by omega
      have hle : rows / degree ≤ rows / m / 2 := by
        rw [Nat.div_div_eq_div_mul]
        exact Nat.div_le_div_left hhalf (by omega)
      omega

/-! ## The shift -/

theorem toInt_shiftLeft_one {e : ℕ} (h : e ≤ 30) :
    ((1 : Int32) <<< Int32.ofNat e).toInt = 2 ^ e := by
  have hall : ∀ e : Fin 31, ((1 : Int32) <<< Int32.ofNat e).toInt = 2 ^ (e : ℕ) := by decide
  exact hall ⟨e, by omega⟩

theorem toInt_addressRows {p : MatParams ι} (undefinedShift : Int32)
    (h : p.effectiveAddressBit ≤ 30) :
    (p.addressRows undefinedShift).toInt = 2 ^ p.effectiveAddressBit.toNat := by
  unfold addressRows
  rw [if_pos (by omega)]
  exact toInt_shiftLeft_one (by omega)

/-- No `int` is a power of two with more bits. -/
theorem toInt_addressRows_ne {p : MatParams ι} (undefinedShift : Int32)
    (h : 30 < p.effectiveAddressBit) :
    (p.addressRows undefinedShift).toInt ≠ 2 ^ p.effectiveAddressBit.toNat := by
  intro heq
  have hlt := Int32.toInt_lt (p.addressRows undefinedShift)
  rw [heq] at hlt
  have hpow : (2 : ℤ) ^ 31 ≤ 2 ^ p.effectiveAddressBit.toNat :=
    pow_le_pow_right₀ (by norm_num) (by omega)
  omega

/-! ## The rows -/

/-- The exact number of rows before the column decoding. -/
def exactWayRows (p : MatParams ι) : ℕ :=
  if p.memoryType = .data then 2 ^ p.effectiveAddressBit.toNat * p.numWay
  else 2 ^ p.effectiveAddressBit.toNat

theorem numRow_eq (p : MatParams ι) : p.numRow = p.exactWayRows / p.muxDegree := rfl

theorem exactWayRows_lt {p : MatParams ι} (h : p.effectiveAddressBit ≤ 30)
    (hway : p.memoryType = .data → p.numWay < 2 ^ 31) : p.exactWayRows < 2 ^ 61 := by
  have hpow : 2 ^ p.effectiveAddressBit.toNat ≤ 2 ^ 30 :=
    Nat.pow_le_pow_right (by norm_num) (by omega)
  unfold exactWayRows
  split
  · rename_i hdata
    calc 2 ^ p.effectiveAddressBit.toNat * p.numWay
        ≤ 2 ^ 30 * p.numWay := Nat.mul_le_mul_right _ hpow
      _ < 2 ^ 30 * 2 ^ 31 := Nat.mul_lt_mul_of_pos_left (hway hdata) (by norm_num)
      _ = 2 ^ 61 := by norm_num
  · exact lt_of_le_of_lt hpow (by norm_num)

/-- The multiplication by the ways has room in a `long long`. -/
theorem toInt_wayRows {p : MatParams ι} (undefinedShift : Int32) (h : p.effectiveAddressBit ≤ 30)
    (hway : p.memoryType = .data → p.numWay < 2 ^ 31) :
    (p.wayRows undefinedShift).toInt = p.exactWayRows := by
  have hlt := exactWayRows_lt h hway
  unfold wayRows exactWayRows at *
  split at hlt
  · rename_i hdata
    rw [if_pos hdata, if_pos hdata, Int64.toInt_mul, Int32.toInt_toInt64, Int32.toInt_toInt64,
      toInt_addressRows undefinedShift h, Int32.toInt_ofNat_of_lt (hway hdata), Nat.cast_mul,
      Nat.cast_pow, Nat.cast_ofNat]
    apply Int.bmod_eq_of_le_mul_two
    · have hnonneg : (0 : ℤ) ≤ 2 ^ p.effectiveAddressBit.toNat * p.numWay :=
        mul_nonneg (pow_nonneg (by norm_num) _) (Int.natCast_nonneg _)
      omega
    · have hcast : (2 : ℤ) ^ p.effectiveAddressBit.toNat * p.numWay < 2 ^ 61 := by
        exact_mod_cast hlt
      omega
  · rename_i hdata
    rw [if_neg hdata, if_neg hdata, Int32.toInt_toInt64, toInt_addressRows undefinedShift h,
      Nat.cast_pow, Nat.cast_ofNat]

/-- What is stored as `numRow`, with the mux divisor as it is. -/
theorem storedNumRow_eq {p : MatParams ι} (undefinedShift : Int32)
    (h : p.effectiveAddressBit ≤ 30) (hway : p.memoryType = .data → p.numWay < 2 ^ 31)
    (hmux : p.muxProduct ≠ 0) :
    ∃ numRow, p.storedNumRow undefinedShift = some numRow ∧
      numRow.toInt = (p.exactWayRows : ℤ).tdiv p.muxProduct.toInt := by
  have hrows := toInt_wayRows undefinedShift h hway
  refine ⟨_, if_neg hmux, ?_⟩
  rw [Int64.toInt_div_of_ne_left, hrows, Int32.toInt_toInt64]
  -- the number of rows is not negative
  intro hmin
  rw [hmin] at hrows
  have hneg : Int64.minValue.toInt < 0 := by decide
  omega

theorem addressBit_le_of_rowsExact {p : MatParams ι} {undefinedShift : Int32}
    (h : p.RowsExact undefinedShift) : p.effectiveAddressBit ≤ 30 := by
  by_contra hmany
  exact toInt_addressRows_ne undefinedShift (not_le.1 hmany) h.shift

theorem muxProduct_ne_zero_of_rowsExact {p : MatParams ι} {undefinedShift : Int32}
    (h : p.RowsExact undefinedShift) : p.muxProduct ≠ 0 := by
  intro hzero
  obtain ⟨numRow, hstored, -⟩ := h.rows
  rw [storedNumRow, if_pos hzero] at hstored
  cases hstored

/-! ## The calls that count exactly -/

/-- What the arguments of a call have to be for an exact number of rows: at most 30 address
bits, a mux degree that is no multiple of `2 ^ 32`, and a number of rows in the range of an
`int`.  A mux degree out of this range wraps around, and must be too large for a row with
either value. -/
structure RowsFit (p : MatParams ι) : Prop where
  addressBit : p.effectiveAddressBit ≤ 30
  divisor : ¬ 2 ^ 32 ∣ p.muxDegree
  rows : p.muxDegree < 2 ^ 31 → p.numRow < 2 ^ 31
  wrapped : 2 ^ 31 ≤ p.muxDegree → p.exactWayRows < (Int.bmod p.muxDegree (2 ^ 32)).natAbs

/-- The rows of a call are exact if and only if its arguments fit. -/
theorem rowsExact_iff {p : MatParams ι} (undefinedShift : Int32)
    (hway : p.memoryType = .data → p.numWay < 2 ^ 31) :
    p.RowsExact undefinedShift ↔ p.RowsFit := by
  constructor
  · intro hexact
    have haddress := addressBit_le_of_rowsExact hexact
    have hne := muxProduct_ne_zero_of_rowsExact hexact
    obtain ⟨numRow, hstored, hvalue, hint⟩ := hexact.rows
    obtain ⟨numRow', hstored', hdivided⟩ := storedNumRow_eq undefinedShift haddress hway hne
    rw [hstored] at hstored'
    obtain rfl := Option.some.inj hstored'
    refine ⟨haddress, muxProduct_eq_zero_iff.not.1 hne, fun _ => ?_, fun hdegree => ?_⟩
    · have hlt := Int32.toInt_lt numRow.toInt32
      rw [hint, hvalue] at hlt
      exact_mod_cast hlt
    · rw [toInt_muxProduct_bmod] at hdivided
      rw [← tdiv_bmod_eq_iff hdegree (bmod_muxDegree_ne_zero hne), ← hdivided, hvalue, numRow_eq]
  · intro hfit
    have hne := muxProduct_eq_zero_iff.not.2 hfit.divisor
    obtain ⟨numRow, hstored, hdivided⟩ := storedNumRow_eq undefinedShift hfit.addressBit hway hne
-- a divisor that wrapped leaves no row, and neither does the exact one
    have hbound : p.numRow < 2 ^ 31 := by
      rcases lt_or_ge p.muxDegree (2 ^ 31) with hlt | hge
      · exact hfit.rows hlt
      · have hnone := hfit.wrapped hge
        have hle : (Int.bmod p.muxDegree (2 ^ 32)).natAbs ≤ 2 ^ 31 := natAbs_bmod_le _
        rw [numRow_eq, Nat.div_eq_of_lt (by omega)]
        norm_num
    have hvalue : numRow.toInt = p.numRow := by
      rw [hdivided]
      rcases lt_or_ge p.muxDegree (2 ^ 31) with hlt | hge
      · rw [toInt_muxProduct hlt, numRow_eq]
        exact (Int.ofNat_tdiv _ _).symm
      · rw [toInt_muxProduct_bmod, numRow_eq]
        exact (tdiv_bmod_eq_iff hge (bmod_muxDegree_ne_zero hne)).2 (hfit.wrapped hge)
    refine ⟨toInt_addressRows undefinedShift hfit.addressBit, numRow, hstored, hvalue, ?_⟩
    rw [Int64.toInt_toInt32, hvalue]
    exact Int.bmod_eq_of_le_mul_two (by omega) (by omega)

/-- Below 31 bits, an exact mux divisor gives the exact number of rows. -/
theorem RowsExact.of_muxExact {p : MatParams ι} (undefinedShift : Int32)
    (h : p.effectiveAddressBit ≤ 30) (hway : p.memoryType = .data → p.numWay < 2 ^ 31)
    (hpos : 0 < p.muxDegree) (hmux : p.muxDegree < 2 ^ 31) (hrow : p.numRow < 2 ^ 31) :
    p.RowsExact undefinedShift := by
  refine (rowsExact_iff undefinedShift hway).2
    ⟨h, fun hdvd => ?_, fun _ => hrow, fun hge => absurd hmux (not_lt.2 hge)⟩
  have hle := Nat.le_of_dvd hpos hdvd
  omega

/-- With the most negative `int` as mux divisor the number of rows is exact if and only if
it is zero. -/
theorem rowsExact_iff_of_muxDegree {p : MatParams ι} (undefinedShift : Int32)
    (h : p.effectiveAddressBit ≤ 30) (hway : p.memoryType = .data → p.numWay < 2 ^ 31)
    (hmux : p.muxDegree = 2 ^ 31) :
    p.RowsExact undefinedShift ↔ p.exactWayRows < 2 ^ 31 := by
  have hwrapped : (Int.bmod p.muxDegree (2 ^ 32)).natAbs = 2 ^ 31 := by
    rw [hmux]
    decide
  rw [rowsExact_iff undefinedShift hway]
  constructor
  · intro hfit
    rw [← hwrapped]
    exact hfit.wrapped hmux.ge
  · intro hrows
    refine ⟨h, ?_, fun hlt => absurd hlt (not_lt.2 hmux.ge), fun _ => ?_⟩
    · rw [hmux]
      decide
    · rw [hwrapped]
      exact hrows

end MatParams

/-! ## `Mat::Initialize` -/

/-- What operations deliver whose result the language leaves undefined: a shift of an `int` by
32 bits or more, and the address bits on row decoding if the logarithm is that of a number
which is not positive. -/
structure Undefined where
  shift : Int32
  numAddressRowPredecoder : ℤ
deriving DecidableEq, Repr

namespace MatParams

/-- `numDataBit / (numActiveSubarrayPerRow * numActiveSubarrayPerColumn)`; `none` is a division
by zero. -/
def storedColumnSelected (p : MatParams Int64) : Option Int64 :=
  let active := Int32.ofNat p.numActiveSubarrayPerRow * Int32.ofNat p.numActiveSubarrayPerColumn
  if active = 0 then none else some (p.numDataBit / active.toInt64)

/-- `numColumn`, from the data bits of an active subarray. -/
def storedNumColumn (p : MatParams ι) (numColumnSelected : Int64) : Int64 :=
  if p.memoryType = .tag then
    numColumnSelected * p.muxProduct.toInt64 * (Int32.ofNat p.numWay).toInt64
  else numColumnSelected * p.muxProduct.toInt64

/-- The address bits on row decoding, with the logarithm of the `int` product. -/
def storedAddressRowPredecoder (undefined : Undefined) (p : MatParams ι) : ℤ :=
  if 0 < p.muxProduct.toInt then p.effectiveAddressBit - log2Rounded p.muxProduct.toInt.toNat
  else undefined.numAddressRowPredecoder

end MatParams

/-- `Mat::Initialize` with its machine integers; `none` is a division by zero. -/
def initializeMatInt (undefined : Undefined) (el : Electrical Int64) (args : MatParams Int64) :
    Option (Mat Int64) :=
  let p := args.clampActive
  -- too aggressive partitioning
  if p.effectiveAddressBit ≤ 0 then some (.rejected p .addressBit .fresh)
  else do
    let numRow ← p.storedNumRow undefined.shift
    if numRow = 0 then some (.rejected p .numRow .fresh)
    else
      let numColumnSelected ← p.storedColumnSelected
      if numColumnSelected = 0 then some (.rejected p .numColumn .fresh)
      else
        let subarray := p.subarrayOf numRow (p.storedNumColumn numColumnSelected)
        if el.subArrayInvalid subarray then some (.rejected p .subarray subarray)
        else if p.storedAddressRowPredecoder undefined < 0 then
          some (.rejected p .rowPredecoder subarray)
        else some (.acceptedWith p subarray (p.storedAddressRowPredecoder undefined).toNat)

/-- What a valid mat with these quotients has passed. -/
structure MatParams.PassedInt (p : MatParams Int64) (undefined : Undefined) (mat : Mat Int64)
    (numRow numColumnSelected : Int64) : Prop where
  addressBit : 0 < p.effectiveAddressBit
  rows_ne : numRow ≠ 0
  columns_ne : numColumnSelected ≠ 0
  addressRowPredecoder : 0 ≤ p.storedAddressRowPredecoder undefined
  subarray : mat.subarray = p.subarrayOf numRow (p.storedNumColumn numColumnSelected)

section Cases

variable {undefined : Undefined} {el : Electrical Int64} {args : MatParams Int64}

variable (undefined el args) in
/-- A mat whose divisors are not zero is initialised, and has passed all tests if it is valid. -/
theorem exists_initializeMatInt {numRow numColumnSelected : Int64}
    (hrows : args.clampActive.storedNumRow undefined.shift = some numRow)
    (hcolumns : args.clampActive.storedColumnSelected = some numColumnSelected) :
    ∃ mat, initializeMatInt undefined el args = some mat ∧
      (mat.invalid = false →
        args.clampActive.PassedInt undefined mat numRow numColumnSelected) := by
  unfold initializeMatInt
  dsimp only
  generalize args.clampActive = p at *
  rw [hrows, hcolumns]
  dsimp only [bind, Option.bind]
  split
  · exact ⟨_, rfl, fun h => by cases h⟩
  · rename_i haddress
    split
    · exact ⟨_, rfl, fun h => by cases h⟩
    · rename_i hrow
      split
      · exact ⟨_, rfl, fun h => by cases h⟩
      · rename_i hcolumn
        split
        · exact ⟨_, rfl, fun h => by cases h⟩
        · split
          · exact ⟨_, rfl, fun h => by cases h⟩
          · rename_i hpredecoder
            exact ⟨_, rfl, fun _ => ⟨not_le.1 haddress, hrow, hcolumn, not_lt.1 hpredecoder,
              rfl⟩⟩

theorem addressBit_of_initializeMatInt {mat : Mat Int64}
    (h : initializeMatInt undefined el args = some mat) (hvalid : mat.invalid = false) :
    0 < args.clampActive.effectiveAddressBit := by
  by_contra hnone
  unfold initializeMatInt at h
  dsimp only at h
  rw [if_pos (not_lt.1 hnone)] at h
  obtain rfl := Option.some.inj h
  cases hvalid

/-- Without address bits nothing is divided. -/
theorem initializeMatInt_of_addressBit (h : args.clampActive.effectiveAddressBit ≤ 0) :
    initializeMatInt undefined el args =
      some (.rejected args.clampActive .addressBit .fresh) := by
  unfold initializeMatInt
  dsimp only
  rw [if_pos h]

end Cases

/-! ## Where nothing overflows -/

section Map

variable {κ : Type}

def SubArray.map (f : ι → κ) (a : SubArray ι) : SubArray κ where
  numRow := f a.numRow
  numColumn := f a.numColumn
  multipleRowPerSet := a.multipleRowPerSet
  split := a.split
  muxSenseAmp := a.muxSenseAmp
  internalSenseAmp := a.internalSenseAmp
  muxOutputLev1 := a.muxOutputLev1
  muxOutputLev2 := a.muxOutputLev2
  areaOptimizationLevel := a.areaOptimizationLevel

def MatParams.map (f : ι → κ) (p : MatParams ι) : MatParams κ where
  numRowSubarray := p.numRowSubarray
  numColumnSubarray := p.numColumnSubarray
  numAddressBit := p.numAddressBit
  numDataBit := f p.numDataBit
  numWay := p.numWay
  numRowPerSet := p.numRowPerSet
  split := p.split
  numActiveSubarrayPerRow := p.numActiveSubarrayPerRow
  numActiveSubarrayPerColumn := p.numActiveSubarrayPerColumn
  muxSenseAmp := p.muxSenseAmp
  internalSenseAmp := p.internalSenseAmp
  muxOutputLev1 := p.muxOutputLev1
  muxOutputLev2 := p.muxOutputLev2
  areaOptimizationLevel := p.areaOptimizationLevel
  memoryType := p.memoryType

def Mat.map (f : ι → κ) (m : Mat ι) : Mat κ where
  toMatParams := m.toMatParams.map f
  initialized := m.initialized
  invalid := m.invalid
  reject := m.reject
  subarray := m.subarray.map f
  rowPredecoderBlock1 := m.rowPredecoderBlock1
  rowPredecoderBlock2 := m.rowPredecoderBlock2
  bitlineMuxPredecoderBlock1 := m.bitlineMuxPredecoderBlock1
  bitlineMuxPredecoderBlock2 := m.bitlineMuxPredecoderBlock2
  senseAmpMuxLev1PredecoderBlock1 := m.senseAmpMuxLev1PredecoderBlock1
  senseAmpMuxLev1PredecoderBlock2 := m.senseAmpMuxLev1PredecoderBlock2
  senseAmpMuxLev2PredecoderBlock1 := m.senseAmpMuxLev2PredecoderBlock1
  senseAmpMuxLev2PredecoderBlock2 := m.senseAmpMuxLev2PredecoderBlock2
  comparator := m.comparator.map f

@[simp] theorem MatParams.effectiveAddressBit_map (f : ι → κ) (p : MatParams ι) :
    (p.map f).effectiveAddressBit = p.effectiveAddressBit := rfl

@[simp] theorem MatParams.clampActive_map (f : ι → κ) (p : MatParams ι) :
    (p.map f).clampActive = p.clampActive.map f := rfl

theorem Mat.map_acceptedWith (f : ι → κ) (p : MatParams ι) (subarray : SubArray ι) (n : ℕ) :
    (Mat.acceptedWith p subarray n).map f =
      Mat.acceptedWith (p.map f) (subarray.map f) n := by
  unfold Mat.acceptedWith Mat.map
  dsimp only
  rw [apply_ite (Option.map f)]
  rfl

end Map

/-- What the models of machine integers say about exact ones. -/
def Electrical.exact (el : Electrical Int64) : Electrical where
  subArrayInvalid := fun a => el.subArrayInvalid (a.map Int64.ofNat)
  globalSenseAmpInvalid := fun n m mat => el.globalSenseAmpInvalid n m (mat.map Int64.ofNat)

/-- The integers of a call, once it has address bits. -/
structure MatParams.IntsFit (p : MatParams) : Prop where
  addressBit : p.effectiveAddressBit ≤ 30
  muxDegree_pos : 0 < p.muxDegree
  muxDegree_lt : p.muxDegree < 2 ^ 31
  numWay : p.numWay < 2 ^ 31
  numDataBit : p.numDataBit < 2 ^ 63
  active_pos : 0 < p.numActiveSubarrayPerRow * p.numActiveSubarrayPerColumn
  active_lt : p.numActiveSubarrayPerRow * p.numActiveSubarrayPerColumn < 2 ^ 31

theorem int64_ofNat_eq_zero_iff {n : ℕ} (h : n < 2 ^ 63) : Int64.ofNat n = 0 ↔ n = 0 := by
  rw [← Int64.toInt_inj, Int64.toInt_ofNat_of_lt h]
  exact Int.natCast_eq_zero

theorem int32_toInt64_ofNat {n : ℕ} (h : n < 2 ^ 31) :
    (Int32.ofNat n).toInt64 = Int64.ofNat n :=
  Int32.toInt64_ofNat' (by
    show (n : ℤ) ≤ 2 ^ 31 - 1
    omega)

namespace MatParams

/-- The active subarrays, as an `int`, divide the data bits exactly. -/
theorem storedColumnSelected_map {p : MatParams} (hbits : p.numDataBit < 2 ^ 63)
    (hpos : 0 < p.numActiveSubarrayPerRow * p.numActiveSubarrayPerColumn)
    (hlt : p.numActiveSubarrayPerRow * p.numActiveSubarrayPerColumn < 2 ^ 31) :
    (p.map Int64.ofNat).storedColumnSelected = some (Int64.ofNat p.numColumnSelected) := by
  have hactive : Int32.ofNat p.numActiveSubarrayPerRow *
      Int32.ofNat p.numActiveSubarrayPerColumn =
        Int32.ofNat (p.numActiveSubarrayPerRow * p.numActiveSubarrayPerColumn) :=
    (Int32.ofNat_mul _ _).symm
  have hne : Int32.ofNat (p.numActiveSubarrayPerRow * p.numActiveSubarrayPerColumn) ≠ 0 := by
    rw [Ne, ← Int32.toInt_inj, Int32.toInt_ofNat_of_lt hlt]
    exact fun hzero => hpos.ne' (Int.natCast_eq_zero.1 hzero)
  unfold MatParams.storedColumnSelected
  show (if Int32.ofNat p.numActiveSubarrayPerRow * Int32.ofNat p.numActiveSubarrayPerColumn = 0
    then none else some (Int64.ofNat p.numDataBit / (Int32.ofNat p.numActiveSubarrayPerRow *
      Int32.ofNat p.numActiveSubarrayPerColumn).toInt64)) = _
  rw [hactive, if_neg hne, int32_toInt64_ofNat hlt,
    ← Int64.ofNat_div hbits (hlt.trans (by norm_num))]
  rfl

end MatParams

namespace MatParams.IntsFit

variable {p : MatParams}

theorem storedNumRow (h : p.IntsFit) (undefinedShift : Int32) :
    (p.map Int64.ofNat).storedNumRow undefinedShift = some (Int64.ofNat p.numRow) ∧
      p.numRow < 2 ^ 63 := by
  have hne : p.muxProduct ≠ 0 := by
    rw [Ne, muxProduct_eq_zero_iff]
    intro hdvd
    have hle := Nat.le_of_dvd h.muxDegree_pos hdvd
    have hlt := h.muxDegree_lt
    omega
  obtain ⟨numRow, hstored, hvalue⟩ :=
    storedNumRow_eq undefinedShift h.addressBit (fun _ => h.numWay) hne
  have hbound : p.numRow < 2 ^ 63 :=
    (Nat.div_le_self _ _).trans_lt ((exactWayRows_lt h.addressBit fun _ => h.numWay).trans
      (by norm_num))
  refine ⟨hstored.trans (congrArg some (Int64.toInt_inj.1 ?_)), hbound⟩
  rw [hvalue, toInt_muxProduct h.muxDegree_lt, Int64.toInt_ofNat_of_lt hbound, numRow_eq]
  exact (Int.ofNat_tdiv _ _).symm

theorem storedColumnSelected (h : p.IntsFit) :
    (p.map Int64.ofNat).storedColumnSelected = some (Int64.ofNat p.numColumnSelected) ∧
      p.numColumnSelected < 2 ^ 63 :=
  ⟨storedColumnSelected_map h.numDataBit h.active_pos h.active_lt,
    (Nat.div_le_self _ _).trans_lt h.numDataBit⟩

theorem storedNumColumn (h : p.IntsFit) :
    (p.map Int64.ofNat).storedNumColumn (Int64.ofNat p.numColumnSelected) =
      Int64.ofNat p.numColumn := by
  have hmux : (p.map Int64.ofNat).muxProduct.toInt64 = Int64.ofNat p.muxDegree := by
    rw [muxProduct_eq]
    exact int32_toInt64_ofNat h.muxDegree_lt
  have hway : (Int32.ofNat p.numWay).toInt64 = Int64.ofNat p.numWay :=
    int32_toInt64_ofNat h.numWay
  unfold MatParams.storedNumColumn MatParams.numColumn
  rw [hmux]
  show (if p.memoryType = .tag then Int64.ofNat p.numColumnSelected * Int64.ofNat p.muxDegree *
    (Int32.ofNat p.numWay).toInt64 else _) = _
  rw [hway]
  split
  · rw [Int64.ofNat_mul, Int64.ofNat_mul]
  · rw [Int64.ofNat_mul]

theorem storedAddressRowPredecoder (h : p.IntsFit) (undefined : Undefined) :
    (p.map Int64.ofNat).storedAddressRowPredecoder undefined = p.numAddressRowPredecoder := by
  have hproduct : (p.map Int64.ofNat).muxProduct.toInt = p.muxDegree :=
    toInt_muxProduct h.muxDegree_lt
  have hpos := h.muxDegree_pos
  unfold MatParams.storedAddressRowPredecoder
  rw [hproduct, if_pos (by omega)]
  rfl

end MatParams.IntsFit

/-- Where no integer overflows, the machine integers are the exact ones. -/
theorem initializeMatInt_map (undefined : Undefined) (el : Electrical Int64) {args : MatParams}
    (hfit : 0 < args.clampActive.effectiveAddressBit → args.clampActive.IntsFit) :
    initializeMatInt undefined el (args.map Int64.ofNat) =
      some ((initializeMat el.exact args).map Int64.ofNat) := by
  unfold initializeMatInt initializeMat
  dsimp only
  rw [MatParams.clampActive_map]
  generalize args.clampActive = p at *
  rw [MatParams.effectiveAddressBit_map]
  by_cases haddress : p.effectiveAddressBit ≤ 0
  · rw [if_pos haddress, if_pos haddress]
    rfl
  have h := hfit (not_le.1 haddress)
  obtain ⟨hrows, hrowsLt⟩ := h.storedNumRow undefined.shift
  obtain ⟨hcolumns, hcolumnsLt⟩ := h.storedColumnSelected
  rw [if_neg haddress, if_neg haddress, hrows]
  dsimp only [bind, Option.bind]
  by_cases hrow : p.numRow = 0
  · rw [if_pos hrow, if_pos ((int64_ofNat_eq_zero_iff hrowsLt).2 hrow)]
    rfl
  rw [if_neg hrow, if_neg ((int64_ofNat_eq_zero_iff hrowsLt).not.2 hrow), hcolumns]
  dsimp only
  by_cases hcolumn : p.numColumnSelected = 0
  · rw [if_pos hcolumn, if_pos ((int64_ofNat_eq_zero_iff hcolumnsLt).2 hcolumn)]
    rfl
  rw [if_neg hcolumn, if_neg ((int64_ofNat_eq_zero_iff hcolumnsLt).not.2 hcolumn),
    h.storedNumColumn, h.storedAddressRowPredecoder undefined]
  have hsubarray : (p.map Int64.ofNat).subarrayOf (Int64.ofNat p.numRow)
      (Int64.ofNat p.numColumn) = p.subarray.map Int64.ofNat := rfl
  rw [hsubarray]
  have hinvalid : el.exact.subArrayInvalid p.subarray =
      el.subArrayInvalid (p.subarray.map Int64.ofNat) := rfl
  rw [hinvalid]
  split
  · rfl
  · split
    · rfl
    · rw [Mat.accepted, Mat.map_acceptedWith]

end NVSim
