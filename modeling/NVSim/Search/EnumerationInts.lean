import Mathlib.Algebra.Order.Ring.Int
import Mathlib.Algebra.Order.Ring.Rat
import Mathlib.Tactic.Linarith
import NVSim.Model.EnumerationInts

/-!
# What `BIGFOR` enumerates with machine integers

A loop that starts at one or above and is bounded below `2 ^ 30` leaves its bound before a
doubling overflows.  If all loops do so, each candidate whose variables are visited by their
loops is enumerated exactly once.  The active counts of a candidate do not exceed its totals,
so the bank and the mat take them as they are, and a candidate whose values are forced leaves
the candidates with these values.
-/

namespace NVSim

open Library

/-! ## One loop -/

namespace Range

/-- The values of a loop that doubles its variable from a start above zero. -/
structure Doubles (r : Range) (n : ℤ) : Prop where
  one_le : 1 ≤ r.min
  le : n ≤ r.max
  power : ∃ i : ℕ, n = r.min * 2 ^ i

/-- The loop leaves its bound before a doubling overflows. -/
structure Bounded (r : Range) : Prop where
  one_le : 1 ≤ r.min
  lt : r.max < 2 ^ 30

variable {r : Range} {n : ℤ}

theorem Doubles.min_le (h : r.Doubles n) : r.min ≤ n := by
  obtain ⟨i, rfl⟩ := h.power
  have hmin := h.one_le
  have hpow : (1 : ℤ) ≤ 2 ^ i := one_le_pow₀ one_le_two
  nlinarith

theorem Doubles.one_le_value (h : r.Doubles n) : 1 ≤ n := h.one_le.trans h.min_le

/-- The next value of a loop. -/
theorem doubles_iff (h : 1 ≤ r.min) (hle : r.min ≤ r.max) :
    r.Doubles n ↔ n = r.min ∨ (⟨r.min * 2, r.max⟩ : Range).Doubles n := by
  constructor
  · rintro ⟨-, hn, i, rfl⟩
    cases i with
    | zero => exact .inl (by rw [pow_zero, mul_one])
    | succ i => exact .inr ⟨by show 1 ≤ r.min * 2; omega, hn, i, by rw [pow_succ']; ring⟩
  · rintro (rfl | ⟨-, hn, i, hi⟩)
    · exact ⟨h, hle, 0, by rw [pow_zero, mul_one]⟩
    · exact ⟨h, hn, i + 1, by rw [hi, pow_succ']; ring⟩

theorem doubleInt_eq {overflow : ℤ → ℤ} {x : ℤ} (hx : 1 ≤ x) (hlt : x < 2 ^ 30) :
    doubleInt overflow x = x * 2 := by
  refine if_pos ⟨?_, ?_⟩
  · omega
  · omega

theorem enumeratesOnce_doubled (h : r.Bounded) (overflow : ℤ → ℤ) {fuel : ℕ}
    (hfuel : 30 ≤ fuel) : EnumeratesOnce (r.doubled overflow fuel) r.Doubles := by
  have hmax := h.lt
  refine enumeratesOnce_walk (V := fun y n => (⟨y, r.max⟩ : Range).Doubles n)
    (I := fun fuel y => 1 ≤ y ∧ r.max < y * 2 ^ fuel) (fun y n hn => ⟨hn.min_le, hn.le⟩)
    (fun y hy => ?_) (fun fuel y hy hle => ?_) ⟨h.one_le, ?_⟩
  · simpa using hy.2
  · have hdouble : doubleInt overflow y = y * 2 := doubleInt_eq hy.1 (by omega)
    rw [hdouble]
    refine ⟨by omega, ⟨by omega, ?_⟩, fun n => doubles_iff hy.1 hle⟩
    have hlt := hy.2
    rw [pow_succ'] at hlt
    linarith
  · have hpow : (2 : ℤ) ^ 30 ≤ 2 ^ fuel := pow_le_pow_right₀ one_le_two hfuel
    have hone := h.one_le
    nlinarith

theorem enumeratesOnce_incremented (hmax : r.max < 2 ^ 30) (overflow : ℤ → ℤ) {fuel : ℕ}
    (hfuel : r.max < r.min + fuel) :
    EnumeratesOnce (r.incremented overflow fuel) fun n => r.min ≤ n ∧ n ≤ r.max := by
  refine enumeratesOnce_walk (V := fun y n => y ≤ n ∧ n ≤ r.max)
    (I := fun fuel y => r.max < y + fuel) (fun y n hn => hn) (fun y hy => ?_)
    (fun fuel y hy hle => ?_) hfuel
  · simpa using hy
  · have hincrement : incrementInt overflow y = y + 1 := if_pos (by omega)
    rw [hincrement]
    push_cast at hy
    exact ⟨by omega, by omega, fun n => by omega⟩

/-- A loop clipped by a total that is bounded itself. -/
theorem Bounded.limit {m : ℤ} (hmin : 1 ≤ r.min) (hm : 1 ≤ m) (hlt : m < 2 ^ 30) :
    (r.limit m).Bounded :=
  ⟨le_min hm hmin, (min_le_left _ _).trans_lt hlt⟩

end Range

/-! ## The candidates -/

/-- All loops of the nest leave their bounds before an overflow. -/
structure SearchSpace.Bounded (space : SearchSpace) (associativity : ℤ) : Prop where
  numRowMat : space.numRowMat.Bounded
  numColumnMat : space.numColumnMat.Bounded
  numActiveMatPerRow : 1 ≤ space.numActiveMatPerRow.min
  numActiveMatPerColumn : 1 ≤ space.numActiveMatPerColumn.min
  numRowSubarray : space.numRowSubarray.Bounded
  numColumnSubarray : space.numColumnSubarray.Bounded
  numActiveSubarrayPerRow : 1 ≤ space.numActiveSubarrayPerRow.min
  numActiveSubarrayPerColumn : 1 ≤ space.numActiveSubarrayPerColumn.min
  muxSenseAmp : space.muxSenseAmp.Bounded
  muxOutputLev1 : space.muxOutputLev1.Bounded
  muxOutputLev2 : space.muxOutputLev2.Bounded
  numRowPerSet :
    (⟨space.numRowPerSet.min, min space.numRowPerSet.max associativity⟩ : Range).Bounded

/-- Every count is its start times a power of two within its bound; the active counts start and
end at most at their totals, the rows of a set at the associativity. -/
structure IntCandidate.InSpace (space : SearchSpace) (associativity : ℤ) (c : IntCandidate) :
    Prop where
  numRowMat : space.numRowMat.Doubles c.numRowMat
  numColumnMat : space.numColumnMat.Doubles c.numColumnMat
  numActiveMatPerRow : (space.numActiveMatPerRow.limit c.numColumnMat).Doubles c.numActiveMatPerRow
  numActiveMatPerColumn :
    (space.numActiveMatPerColumn.limit c.numRowMat).Doubles c.numActiveMatPerColumn
  numRowSubarray : space.numRowSubarray.Doubles c.numRowSubarray
  numColumnSubarray : space.numColumnSubarray.Doubles c.numColumnSubarray
  numActiveSubarrayPerRow :
    (space.numActiveSubarrayPerRow.limit c.numColumnSubarray).Doubles c.numActiveSubarrayPerRow
  numActiveSubarrayPerColumn :
    (space.numActiveSubarrayPerColumn.limit c.numRowSubarray).Doubles
      c.numActiveSubarrayPerColumn
  muxSenseAmp : space.muxSenseAmp.Doubles c.muxSenseAmp
  muxOutputLev1 : space.muxOutputLev1.Doubles c.muxOutputLev1
  muxOutputLev2 : space.muxOutputLev2.Doubles c.muxOutputLev2
  numRowPerSet :
    (⟨space.numRowPerSet.min, min space.numRowPerSet.max associativity⟩ : Range).Doubles
      c.numRowPerSet
  areaOptimizationLevel : space.areaOptimizationLevel.min ≤ c.areaOptimizationLevel ∧
    c.areaOptimizationLevel ≤ space.areaOptimizationLevel.max

/-- The fuel with which every loop of the nest ends. -/
def SearchSpace.enoughFuel (space : SearchSpace) : ℕ :=
  max 30 (space.areaOptimizationLevel.max - space.areaOptimizationLevel.min + 1).toNat

theorem enumeratesOnce_bigForInt {space : SearchSpace} {associativity : ℤ}
    (h : space.Bounded associativity) (harea : space.areaOptimizationLevel.max < 2 ^ 30)
    (overflow : ℤ → ℤ) {fuel : ℕ} (hfuel : space.enoughFuel ≤ fuel) :
    EnumeratesOnce (bigForInt overflow fuel space associativity)
      (IntCandidate.InSpace space associativity) := by
  have hdoubled : 30 ≤ fuel := (le_max_left _ _).trans hfuel
  have hincremented :
      space.areaOptimizationLevel.max < space.areaOptimizationLevel.min + fuel := by
    have hle := (le_max_right _ _).trans hfuel
    omega
  have hbounded {r : Range} (hr : r.Bounded) :
      EnumeratesOnce (r.doubled overflow fuel) r.Doubles :=
    Range.enumeratesOnce_doubled hr overflow hdoubled
  have hlimited {r total : Range} {m : ℤ} (hr : 1 ≤ r.min) (htotal : total.Bounded)
      (hm : total.Doubles m) :
      EnumeratesOnce ((r.limit m).doubled overflow fuel) (r.limit m).Doubles :=
    hbounded (.limit hr (htotal.one_le.trans hm.min_le) (hm.le.trans_lt htotal.lt))
-- an active count is bounded by the variable of a loop around its own, so the rules are nested
-- like the loops
  unfold bigForInt
  refine EnumeratesOnce.congr
    (enumeratesOnce_forLoop (fun _ => True) IntCandidate.numRowMat
      (hbounded h.numRowMat) fun _ hRowMat =>
    enumeratesOnce_forLoop _ IntCandidate.numColumnMat
      (hbounded h.numColumnMat) fun _ hColumnMat =>
    enumeratesOnce_forLoop _ IntCandidate.numActiveMatPerRow
      (hlimited h.numActiveMatPerRow h.numColumnMat hColumnMat) fun _ _ =>
    enumeratesOnce_forLoop _ IntCandidate.numActiveMatPerColumn
      (hlimited h.numActiveMatPerColumn h.numRowMat hRowMat) fun _ _ =>
    enumeratesOnce_forLoop _ IntCandidate.numRowSubarray
      (hbounded h.numRowSubarray) fun _ hRowSubarray =>
    enumeratesOnce_forLoop _ IntCandidate.numColumnSubarray
      (hbounded h.numColumnSubarray) fun _ hColumnSubarray =>
    enumeratesOnce_forLoop _ IntCandidate.numActiveSubarrayPerRow
      (hlimited h.numActiveSubarrayPerRow h.numColumnSubarray hColumnSubarray) fun _ _ =>
    enumeratesOnce_forLoop _ IntCandidate.numActiveSubarrayPerColumn
      (hlimited h.numActiveSubarrayPerColumn h.numRowSubarray hRowSubarray) fun _ _ =>
    enumeratesOnce_forLoop _ IntCandidate.muxSenseAmp (hbounded h.muxSenseAmp) fun _ _ =>
    enumeratesOnce_forLoop _ IntCandidate.muxOutputLev1 (hbounded h.muxOutputLev1) fun _ _ =>
    enumeratesOnce_forLoop _ IntCandidate.muxOutputLev2 (hbounded h.muxOutputLev2) fun _ _ =>
    enumeratesOnce_forLoop _ IntCandidate.numRowPerSet (hbounded h.numRowPerSet) fun _ _ =>
    enumeratesOnce_forLoop (R := fun _ _ => True) _ IntCandidate.areaOptimizationLevel
      (Range.enumeratesOnce_incremented harea overflow hincremented) fun _ _ =>
    (EnumeratesOnce.singleton _).congr fun c => ?_) fun c => ?_
  · rw [IntCandidate.ext_iff]
    simp only [true_and, and_true, and_assoc]
  · constructor
    · rintro ⟨-, h₁, h₂, h₃, h₄, h₅, h₆, h₇, h₈, h₉, h₁₀, h₁₁, h₁₂, h₁₃, -⟩
      exact ⟨h₁, h₂, h₃, h₄, h₅, h₆, h₇, h₈, h₉, h₁₀, h₁₁, h₁₂, h₁₃⟩
    · rintro ⟨h₁, h₂, h₃, h₄, h₅, h₆, h₇, h₈, h₉, h₁₀, h₁₁, h₁₂, h₁₃⟩
      exact ⟨trivial, h₁, h₂, h₃, h₄, h₅, h₆, h₇, h₈, h₉, h₁₀, h₁₁, h₁₂, h₁₃, trivial⟩

/-! ## Powers of two -/

/-- A loop that starts at a power of two and is bounded below `2 ^ 30`. -/
structure Range.Standard (r : Range) : Prop where
  power : ∃ k : ℕ, r.min = 2 ^ k
  lt : r.max < 2 ^ 30

namespace Range

variable {r : Range} {m n : ℤ}

theorem Standard.one_le (h : r.Standard) : 1 ≤ r.min := by
  obtain ⟨k, hk⟩ := h.power
  rw [hk]
  exact one_le_pow₀ one_le_two

theorem Standard.bounded (h : r.Standard) : r.Bounded := ⟨h.one_le, h.lt⟩

theorem Doubles.exists_eq_pow (h : r.Doubles n) (hmin : ∃ k : ℕ, r.min = 2 ^ k) :
    ∃ k : ℕ, n = 2 ^ k := by
  obtain ⟨k, hk⟩ := hmin
  obtain ⟨i, rfl⟩ := h.power
  exact ⟨k + i, by rw [hk, pow_add]⟩

/-- Both the total and the minimum of a clipped loop are powers of two. -/
theorem Standard.limit_power (h : r.Standard) (hm : ∃ k : ℕ, m = 2 ^ k) :
    ∃ k : ℕ, (r.limit m).min = 2 ^ k := by
  rcases min_choice m r.min with hmin | hmin
  · exact hm.imp fun k hk => hmin.trans hk
  · exact h.power.imp fun k hk => hmin.trans hk

/-- A forced loop takes one value. -/
theorem doubles_only_iff {v : ℤ} (hv : 1 ≤ v) : (Range.only v).Doubles n ↔ n = v := by
  constructor
  · intro h
    exact le_antisymm h.le h.min_le
  · rintro rfl
    exact ⟨hv, le_rfl, 0, by rw [pow_zero, mul_one]; rfl⟩

/-- A forced loop is not clipped by a total it does not exceed. -/
theorem limit_only {v : ℤ} (hv : v ≤ m) : (Range.only v).limit m = .only v := by
  simp only [Range.limit, Range.only, min_eq_right hv]

end Range

/-- All counts start at powers of two, and no range reaches `2 ^ 30`. -/
structure SearchSpace.Standard (space : SearchSpace) : Prop where
  numRowMat : space.numRowMat.Standard
  numColumnMat : space.numColumnMat.Standard
  numActiveMatPerRow : space.numActiveMatPerRow.Standard
  numActiveMatPerColumn : space.numActiveMatPerColumn.Standard
  numRowSubarray : space.numRowSubarray.Standard
  numColumnSubarray : space.numColumnSubarray.Standard
  numActiveSubarrayPerRow : space.numActiveSubarrayPerRow.Standard
  numActiveSubarrayPerColumn : space.numActiveSubarrayPerColumn.Standard
  muxSenseAmp : space.muxSenseAmp.Standard
  muxOutputLev1 : space.muxOutputLev1.Standard
  muxOutputLev2 : space.muxOutputLev2.Standard
  numRowPerSet : space.numRowPerSet.Standard
  areaOptimizationLevel : space.areaOptimizationLevel.max < 2 ^ 30

theorem SearchSpace.Standard.bounded {space : SearchSpace} (h : space.Standard)
    (associativity : ℤ) : space.Bounded associativity where
  numRowMat := h.numRowMat.bounded
  numColumnMat := h.numColumnMat.bounded
  numActiveMatPerRow := h.numActiveMatPerRow.one_le
  numActiveMatPerColumn := h.numActiveMatPerColumn.one_le
  numRowSubarray := h.numRowSubarray.bounded
  numColumnSubarray := h.numColumnSubarray.bounded
  numActiveSubarrayPerRow := h.numActiveSubarrayPerRow.one_le
  numActiveSubarrayPerColumn := h.numActiveSubarrayPerColumn.one_le
  muxSenseAmp := h.muxSenseAmp.bounded
  muxOutputLev1 := h.muxOutputLev1.bounded
  muxOutputLev2 := h.muxOutputLev2.bounded
  numRowPerSet := ⟨h.numRowPerSet.one_le, (min_le_left _ _).trans_lt h.numRowPerSet.lt⟩

/-- An active count is a power of two and at most its total. -/
structure ActiveLegal (active total : ℤ) : Prop where
  power : ∃ k : ℕ, active = 2 ^ k
  le : active ≤ total

theorem Range.Doubles.activeLegal {r total : Range} {m n : ℤ} (h : (r.limit m).Doubles n)
    (hr : r.Standard) (hm : total.Doubles m) (htotal : total.Standard) : ActiveLegal n m where
  power := h.exists_eq_pow (hr.limit_power (hm.exists_eq_pow htotal.power))
  le := h.le.trans (min_le_left _ _)

namespace IntCandidate

variable {c c' : IntCandidate} {space : SearchSpace} {associativity : ℤ}

/-- The active counts of a candidate. -/
structure Active (c : IntCandidate) : Prop where
  matPerRow : ActiveLegal c.numActiveMatPerRow c.numColumnMat
  matPerColumn : ActiveLegal c.numActiveMatPerColumn c.numRowMat
  subarrayPerRow : ActiveLegal c.numActiveSubarrayPerRow c.numColumnSubarray
  subarrayPerColumn : ActiveLegal c.numActiveSubarrayPerColumn c.numRowSubarray

theorem InSpace.active (hc : c.InSpace space associativity) (h : space.Standard) : c.Active where
  matPerRow := hc.numActiveMatPerRow.activeLegal h.numActiveMatPerRow hc.numColumnMat
    h.numColumnMat
  matPerColumn := hc.numActiveMatPerColumn.activeLegal h.numActiveMatPerColumn hc.numRowMat
    h.numRowMat
  subarrayPerRow := hc.numActiveSubarrayPerRow.activeLegal h.numActiveSubarrayPerRow
    hc.numColumnSubarray h.numColumnSubarray
  subarrayPerColumn := hc.numActiveSubarrayPerColumn.activeLegal h.numActiveSubarrayPerColumn
    hc.numRowSubarray h.numRowSubarray

/-! ## Clamping -/

/-- Neither the bank nor its mat replaces an active count. -/
structure Unclamped (c : IntCandidate) : Prop where
  bank : ∀ spec internalSensing memoryType,
    let args := c.toCandidate.toBankParams spec internalSensing memoryType
    args.clampActive = args
  mat : ∀ spec internalSensing memoryType memCellType numAddressBit (bits : Option (ℕ × ℕ)) q
    matParams,
    let args := c.toCandidate.toBankParams spec internalSensing memoryType
    args.clampActive.matCall memCellType numAddressBit bits = some (q, matParams) →
      matParams.clampActive = matParams

theorem Active.unclamped (h : c.Active) : c.Unclamped := by
  have hmatPerRow := not_lt.2 (Int.toNat_le_toNat h.matPerRow.le)
  have hmatPerColumn := not_lt.2 (Int.toNat_le_toNat h.matPerColumn.le)
  have hsubarrayPerRow := not_lt.2 (Int.toNat_le_toNat h.subarrayPerRow.le)
  have hsubarrayPerColumn := not_lt.2 (Int.toNat_le_toNat h.subarrayPerColumn.le)
  have hbank (spec : ArraySpec) (internalSensing : Bool) (memoryType : MemoryType) :
      (c.toCandidate.toBankParams spec internalSensing memoryType).clampActive =
        c.toCandidate.toBankParams spec internalSensing memoryType := by
    simp only [BankParams.clampActive, Candidate.toBankParams, toCandidate, gt_iff_lt,
      if_neg hmatPerRow, if_neg hmatPerColumn, if_neg hsubarrayPerRow, if_neg hsubarrayPerColumn]
  refine ⟨hbank, fun spec internalSensing memoryType memCellType numAddressBit bits q matParams
    hcall => ?_⟩
  rw [hbank] at hcall
  obtain ⟨numDataBit, numWay, -, rfl, rfl⟩ := BankParams.matCall_eq_some hcall
  obtain ⟨_, _, _, hexpand⟩ := BankParams.expandDataMux_eq memCellType numWay
    (c.toCandidate.toBankParams spec internalSensing memoryType)
  rw [hexpand]
  simp only [MatParams.clampActive, BankParams.toMatParams, Candidate.toBankParams, toCandidate,
    gt_iff_lt, if_neg hsubarrayPerRow, if_neg hsubarrayPerColumn]

/-! ## Forcing -/

/-- The candidates differ at most in the rows of a set and the area level. -/
def SameForced (c c' : IntCandidate) : Prop :=
  c' = { c with
    numRowPerSet := c'.numRowPerSet
    areaOptimizationLevel := c'.areaOptimizationLevel }

/-- The search space in which a candidate is forced. -/
def forcedSpace (space : SearchSpace) (c : IntCandidate) : SearchSpace :=
  { space with
    numRowMat := .only c.numRowMat
    numColumnMat := .only c.numColumnMat
    numActiveMatPerRow := .only c.numActiveMatPerRow
    numActiveMatPerColumn := .only c.numActiveMatPerColumn
    numRowSubarray := .only c.numRowSubarray
    numColumnSubarray := .only c.numColumnSubarray
    numActiveSubarrayPerRow := .only c.numActiveSubarrayPerRow
    numActiveSubarrayPerColumn := .only c.numActiveSubarrayPerColumn
    muxSenseAmp := .only c.muxSenseAmp
    muxOutputLev1 := .only c.muxOutputLev1
    muxOutputLev2 := .only c.muxOutputLev2 }

theorem toSearchSpace_forceLines {K : Type} (ip : InputParameter K) (c : IntCandidate) :
    (InputParameter.readInputParameterFromFile (forceLines K c) ip).toSearchSpace =
      forcedSpace ip.toSearchSpace c := rfl

theorem InSpace.bounded_forcedSpace (hc : c.InSpace space associativity)
    (h : space.Bounded associativity) : (forcedSpace space c).Bounded associativity := by
  have honly {r : Range} {n : ℤ} (hn : r.Doubles n) (hr : r.Bounded) :
      (Range.only n).Bounded := ⟨hn.one_le_value, hn.le.trans_lt hr.lt⟩
  exact
    { numRowMat := honly hc.numRowMat h.numRowMat
      numColumnMat := honly hc.numColumnMat h.numColumnMat
      numActiveMatPerRow := hc.numActiveMatPerRow.one_le_value
      numActiveMatPerColumn := hc.numActiveMatPerColumn.one_le_value
      numRowSubarray := honly hc.numRowSubarray h.numRowSubarray
      numColumnSubarray := honly hc.numColumnSubarray h.numColumnSubarray
      numActiveSubarrayPerRow := hc.numActiveSubarrayPerRow.one_le_value
      numActiveSubarrayPerColumn := hc.numActiveSubarrayPerColumn.one_le_value
      muxSenseAmp := honly hc.muxSenseAmp h.muxSenseAmp
      muxOutputLev1 := honly hc.muxOutputLev1 h.muxOutputLev1
      muxOutputLev2 := honly hc.muxOutputLev2 h.muxOutputLev2
      numRowPerSet := h.numRowPerSet }

/-- Of the forced loops, those of the active counts are not clipped by their totals. -/
theorem InSpace.forcedSpace_iff (hc : c.InSpace space associativity) :
    c'.InSpace (forcedSpace space c) associativity ↔
      c'.InSpace space associativity ∧ c.SameForced c' := by
-- a range with one value keeps it when it is cut at the total around it
  have hlimit {r : Range} {m n n' : ℤ} (hn : (r.limit m).Doubles n) :
      ((Range.only n).limit m).Doubles n' ↔ n' = n := by
    rw [Range.limit_only (hn.le.trans (min_le_left _ _)),
      Range.doubles_only_iff hn.one_le_value]
  constructor
  · rintro ⟨h₁, h₂, h₃, h₄, h₅, h₆, h₇, h₈, h₉, h₁₀, h₁₁, h₁₂, h₁₃⟩
    simp only [forcedSpace, Range.doubles_only_iff hc.numRowMat.one_le_value] at h₁
    simp only [forcedSpace, Range.doubles_only_iff hc.numColumnMat.one_le_value] at h₂
    simp only [forcedSpace, h₂, hlimit hc.numActiveMatPerRow] at h₃
    simp only [forcedSpace, h₁, hlimit hc.numActiveMatPerColumn] at h₄
    simp only [forcedSpace, Range.doubles_only_iff hc.numRowSubarray.one_le_value] at h₅
    simp only [forcedSpace, Range.doubles_only_iff hc.numColumnSubarray.one_le_value] at h₆
    simp only [forcedSpace, h₆, hlimit hc.numActiveSubarrayPerRow] at h₇
    simp only [forcedSpace, h₅, hlimit hc.numActiveSubarrayPerColumn] at h₈
    simp only [forcedSpace, Range.doubles_only_iff hc.muxSenseAmp.one_le_value] at h₉
    simp only [forcedSpace, Range.doubles_only_iff hc.muxOutputLev1.one_le_value] at h₁₀
    simp only [forcedSpace, Range.doubles_only_iff hc.muxOutputLev2.one_le_value] at h₁₁
    have hsame : c.SameForced c' := IntCandidate.ext h₁ h₂ h₃ h₄ h₅ h₆ h₇ h₈ h₉ h₁₀ h₁₁ rfl rfl
    refine ⟨?_, hsame⟩
    rw [hsame]
    exact { hc with numRowPerSet := h₁₂, areaOptimizationLevel := h₁₃ }
  · rintro ⟨hspace, hsame⟩
    have h₁₂ := hspace.numRowPerSet
    have h₁₃ := hspace.areaOptimizationLevel
    rw [hsame]
    exact
      { numRowMat := (Range.doubles_only_iff hc.numRowMat.one_le_value).2 rfl
        numColumnMat := (Range.doubles_only_iff hc.numColumnMat.one_le_value).2 rfl
        numActiveMatPerRow := (hlimit hc.numActiveMatPerRow).2 rfl
        numActiveMatPerColumn := (hlimit hc.numActiveMatPerColumn).2 rfl
        numRowSubarray := (Range.doubles_only_iff hc.numRowSubarray.one_le_value).2 rfl
        numColumnSubarray := (Range.doubles_only_iff hc.numColumnSubarray.one_le_value).2 rfl
        numActiveSubarrayPerRow := (hlimit hc.numActiveSubarrayPerRow).2 rfl
        numActiveSubarrayPerColumn := (hlimit hc.numActiveSubarrayPerColumn).2 rfl
        muxSenseAmp := (Range.doubles_only_iff hc.muxSenseAmp.one_le_value).2 rfl
        muxOutputLev1 := (Range.doubles_only_iff hc.muxOutputLev1.one_le_value).2 rfl
        muxOutputLev2 := (Range.doubles_only_iff hc.muxOutputLev2.one_le_value).2 rfl
        numRowPerSet := h₁₂
        areaOptimizationLevel := h₁₃ }

end IntCandidate

/-! ## The enumeration -/

/-- The enumeration ends with the candidates `cs`, which are exactly those of the search space,
each once; their active counts are legal and taken as they are; and forcing the bank, the mat
and the multiplexers of one of them leaves those that share these values. -/
structure InputParameter.EnumeratesExactly {K : Type} (ip : InputParameter K)
    (overflow : ℤ → ℤ) (fuel : ℕ) (cs : List IntCandidate) : Prop where
  ends : bigForInt overflow fuel ip.toSearchSpace ip.associativity = some cs
  nodup : cs.Nodup
  mem_iff : ∀ c, c ∈ cs ↔ c.InSpace ip.toSearchSpace ip.associativity
  active : ∀ c ∈ cs, c.Active
  unclamped : ∀ c ∈ cs, c.Unclamped
  forced : ∀ c ∈ cs,
    let forced := readInputParameterFromFile (c.forceLines K) ip
    EnumeratesOnce (bigForInt overflow fuel forced.toSearchSpace forced.associativity)
      fun c' => c' ∈ cs ∧ c.SameForced c'

theorem exists_enumeratesExactly {K : Type} (ip : InputParameter K) (h : ip.Standard)
    (overflow : ℤ → ℤ) {fuel : ℕ} (hfuel : ip.enoughFuel ≤ fuel) :
    ∃ cs, ip.EnumeratesExactly overflow fuel cs := by
  have hbounded := h.bounded ip.associativity
  obtain ⟨cs, hcs, hnodup, hmem⟩ :=
    enumeratesOnce_bigForInt hbounded h.areaOptimizationLevel overflow hfuel
  refine ⟨cs, hcs, hnodup, hmem, fun c hc => ((hmem c).1 hc).active h,
    fun c hc => (((hmem c).1 hc).active h).unclamped, fun c hc => ?_⟩
  have hspace := (hmem c).1 hc
  dsimp only
  rw [c.toSearchSpace_forceLines]
  refine (enumeratesOnce_bigForInt (hspace.bounded_forcedSpace hbounded)
    h.areaOptimizationLevel overflow hfuel).congr fun c' => ?_
  rw [hmem]
  exact hspace.forcedSpace_iff

/-- In the default space of a cache with eight ways; one of the candidates has a part of its
mats and of its subarrays active, and a way in each row. -/
theorem exists_enumeratesExactly_restored :
    ∃ cs, ({ toSettings :=
               { (Settings.new (32 * 1024) 512 .hp "" 300 : Settings ℚ) with associativity := 8 },
             toSearchSpace := .restored 8 } : InputParameter ℚ).EnumeratesExactly
          (fun x => x) 30 cs ∧
      (⟨4, 8, 2, 4, 2, 2, 1, 2, 4, 1, 256, 8, 1⟩ : IntCandidate) ∈ cs := by
  have hone {n : ℤ} (hn : n < 2 ^ 30) : (⟨1, n⟩ : Range).Standard := ⟨⟨0, rfl⟩, hn⟩
  obtain ⟨cs, hcs⟩ := exists_enumeratesExactly
    ({ toSettings :=
         { (Settings.new (32 * 1024) 512 .hp "" 300 : Settings ℚ) with associativity := 8 },
       toSearchSpace := .restored 8 } : InputParameter ℚ)
    ⟨hone (by decide), hone (by decide), hone (by decide), hone (by decide), hone (by decide),
      hone (by decide), hone (by decide), hone (by decide), hone (by decide), hone (by decide),
      hone (by decide), hone (by decide), by decide⟩ (fun x => x)
    (by decide : (SearchSpace.restored 8).enoughFuel ≤ 30)
  have hvisited {min max n : ℤ} (hmin : 1 ≤ min) (hle : n ≤ max) (i : ℕ) (h : n = min * 2 ^ i) :
      (⟨min, max⟩ : Range).Doubles n := ⟨hmin, hle, i, h⟩
  refine ⟨cs, hcs, (hcs.mem_iff _).2 ?_⟩
  exact ⟨hvisited le_rfl (by decide) 2 rfl, hvisited le_rfl (by decide) 3 rfl,
    hvisited (by decide) (by decide) 1 rfl, hvisited (by decide) (by decide) 2 rfl,
    hvisited le_rfl (by decide) 1 rfl, hvisited le_rfl (by decide) 1 rfl,
    hvisited (by decide) (by decide) 0 rfl, hvisited (by decide) (by decide) 1 rfl,
    hvisited le_rfl (by decide) 2 rfl, hvisited le_rfl (by decide) 0 rfl,
    hvisited le_rfl (by decide) 8 rfl, hvisited le_rfl (by decide) 3 rfl, by decide⟩

end NVSim
