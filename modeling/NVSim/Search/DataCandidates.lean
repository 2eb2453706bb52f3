import NVSim.Organisation.Agreement
import NVSim.Organisation.Capacity
import NVSim.Search.Enumeration

/-!
# The candidates of the data search

What the loops of the data search deliver for a configuration that passes
`applyConstraint`: banks whose counts are powers of two if the loops start at powers
of two, none of which is valid with several rows per set, and for the default bounds
all partitions into at most `512 * 512 * 2 * 2` active subarrays.
-/

namespace NVSim

open Library

/-! ## Banks of the candidates -/

/-- All doubling loops start at powers of two. -/
structure SearchSpace.PowersOfTwo (space : SearchSpace) : Prop where
  numRowMat : space.numRowMat.min.toNat.isPowerOfTwo
  numColumnMat : space.numColumnMat.min.toNat.isPowerOfTwo
  numActiveMatPerRow : space.numActiveMatPerRow.min.toNat.isPowerOfTwo
  numActiveMatPerColumn : space.numActiveMatPerColumn.min.toNat.isPowerOfTwo
  numRowSubarray : space.numRowSubarray.min.toNat.isPowerOfTwo
  numColumnSubarray : space.numColumnSubarray.min.toNat.isPowerOfTwo
  numActiveSubarrayPerRow : space.numActiveSubarrayPerRow.min.toNat.isPowerOfTwo
  numActiveSubarrayPerColumn : space.numActiveSubarrayPerColumn.min.toNat.isPowerOfTwo
  muxSenseAmp : space.muxSenseAmp.min.toNat.isPowerOfTwo
  muxOutputLev1 : space.muxOutputLev1.min.toNat.isPowerOfTwo
  muxOutputLev2 : space.muxOutputLev2.min.toNat.isPowerOfTwo
  numRowPerSet : space.numRowPerSet.min.toNat.isPowerOfTwo

theorem one_le_of_isPowerOfTwo_toNat {z : ℤ} (h : z.toNat.isPowerOfTwo) : 1 ≤ z := by
  have hpos := Nat.pos_of_isPowerOfTwo h
  omega

theorem SearchSpace.PowersOfTwo.positive {space : SearchSpace} (h : space.PowersOfTwo) :
    space.Positive where
  numRowMat := one_le_of_isPowerOfTwo_toNat h.numRowMat
  numColumnMat := one_le_of_isPowerOfTwo_toNat h.numColumnMat
  numActiveMatPerRow := one_le_of_isPowerOfTwo_toNat h.numActiveMatPerRow
  numActiveMatPerColumn := one_le_of_isPowerOfTwo_toNat h.numActiveMatPerColumn
  numRowSubarray := one_le_of_isPowerOfTwo_toNat h.numRowSubarray
  numColumnSubarray := one_le_of_isPowerOfTwo_toNat h.numColumnSubarray
  numActiveSubarrayPerRow := one_le_of_isPowerOfTwo_toNat h.numActiveSubarrayPerRow
  numActiveSubarrayPerColumn := one_le_of_isPowerOfTwo_toNat h.numActiveSubarrayPerColumn
  muxSenseAmp := one_le_of_isPowerOfTwo_toNat h.muxSenseAmp
  muxOutputLev1 := one_le_of_isPowerOfTwo_toNat h.muxOutputLev1
  muxOutputLev2 := one_le_of_isPowerOfTwo_toNat h.muxOutputLev2
  numRowPerSet := one_le_of_isPowerOfTwo_toNat h.numRowPerSet

/-- The candidates of such a space give banks whose counts are powers of two. -/
theorem Candidate.InSpace.powerOfTwo {space : SearchSpace} {associativity : ℤ} {c : Candidate}
    (h : c.InSpace space associativity) (hspace : space.PowersOfTwo) (spec : ArraySpec)
    (hassoc : spec.associativity.isPowerOfTwo) (internalSensing : Bool)
    (memoryType : MemoryType) :
    (c.toBankParams spec internalSensing memoryType).PowerOfTwo := by
  have hrowMat := h.numRowMat.isPowerOfTwo hspace.numRowMat
  have hcolumnMat := h.numColumnMat.isPowerOfTwo hspace.numColumnMat
  have hrowSubarray := h.numRowSubarray.isPowerOfTwo hspace.numRowSubarray
  have hcolumnSubarray := h.numColumnSubarray.isPowerOfTwo hspace.numColumnSubarray
  exact
    { numRowMat := hrowMat
      numColumnMat := hcolumnMat
      associativity := hassoc
      numRowPerSet := h.numRowPerSet.isPowerOfTwo hspace.numRowPerSet
      numActiveMatPerRow :=
        h.numActiveMatPerRow.isPowerOfTwo_of_clip hcolumnMat hspace.numActiveMatPerRow
      numActiveMatPerColumn :=
        h.numActiveMatPerColumn.isPowerOfTwo_of_clip hrowMat hspace.numActiveMatPerColumn
      muxSenseAmp := h.muxSenseAmp.isPowerOfTwo hspace.muxSenseAmp
      muxOutputLev1 := h.muxOutputLev1.isPowerOfTwo hspace.muxOutputLev1
      muxOutputLev2 := h.muxOutputLev2.isPowerOfTwo hspace.muxOutputLev2
      numRowSubarray := hrowSubarray
      numColumnSubarray := hcolumnSubarray
      numActiveSubarrayPerRow :=
        h.numActiveSubarrayPerRow.isPowerOfTwo_of_clip hcolumnSubarray
          hspace.numActiveSubarrayPerRow
      numActiveSubarrayPerColumn :=
        h.numActiveSubarrayPerColumn.isPowerOfTwo_of_clip hrowSubarray
          hspace.numActiveSubarrayPerColumn
      numActiveMatPerRow_le := h.numActiveMatPerRow.le_of_clip
      numActiveMatPerColumn_le := h.numActiveMatPerColumn.le_of_clip
      numActiveSubarrayPerRow_le := h.numActiveSubarrayPerRow.le_of_clip
      numActiveSubarrayPerColumn_le := h.numActiveSubarrayPerColumn.le_of_clip }

theorem Candidate.numActive_toBankParams (c : Candidate) (spec : ArraySpec)
    (internalSensing : Bool) (memoryType : MemoryType) :
    (c.toBankParams spec internalSensing memoryType).numActiveMat *
      (c.toBankParams spec internalSensing memoryType).numActiveSubarray = c.numActive := by
  unfold BankParams.numActiveMat BankParams.numActiveSubarray Candidate.numActive
  exact (mul_assoc _ _ _).symm

namespace InputParameter

variable {K : Type}

/-- The candidates that the guard of the data search lets through. -/
theorem enumerates_dataCandidates {ip : InputParameter K}
    (hspace : ip.dataSpace.Positive) (memCellType : MemCellType) :
    ∃ args, ip.dataCandidates memCellType = .ok args ∧ ∀ a, a ∈ args ↔
      ∃ c : Candidate, c.InSpace ip.dataSpace ip.associativity ∧
        (dataArray ip.toSettings memCellType).blockSize / c.numActive ≠ 0 ∧
        a = c.toBankParams (dataArray ip.toSettings memCellType) ip.internalSensing .data := by
  obtain ⟨cs, hcs, hmem⟩ := enumerates_bigFor hspace ip.associativity
  refine ⟨cs.filterMap
    (Candidate.dataArgs (dataArray ip.toSettings memCellType) ip.internalSensing), ?_, fun a => ?_⟩
  · unfold dataCandidates
    rw [hcs]
    rfl
  · rw [List.mem_filterMap]
    constructor
    · rintro ⟨c, hc, hargs⟩
      unfold Candidate.dataArgs at hargs
      split at hargs
      · cases hargs
      · rename_i hguard
        exact ⟨c, (hmem c).1 hc, hguard, (Option.some.inj hargs).symm⟩
    · rintro ⟨c, hc, hguard, rfl⟩
      exact ⟨c, (hmem c).2 hc, if_neg hguard⟩

end InputParameter

/-! ## Configurations -/

section Configured

variable {K : Type} {memCellType : MemCellType} {ip₀ ip : InputParameter K}

/-- The data array of a configuration that passes `applyConstraint`. -/
theorem dataArray_cases (hconstraint : ip₀.applyConstraint memCellType = some ip) :
    (dataArray ip.toSettings memCellType).associativity.isPowerOfTwo ∧
      ((dataArray ip.toSettings memCellType).associativity = 1 ∨
        ip.designTarget = .cache ∧ ip.cacheAccessMode = .normalAccessMode) ∧
      (¬ (ip.designTarget = .ramChip ∧ memCellType = .slcNAND) → 0 < ip.wordWidth →
        ∀ n, ip.capacity * 8 = ip.wordWidth * ip.associativity.toNat * 2 ^ n →
          0 < (dataArray ip.toSettings memCellType).blockSize ∧
            ∃ m, (dataArray ip.toSettings memCellType).capacity =
              (dataArray ip.toSettings memCellType).blockSize *
                (dataArray ip.toSettings memCellType).associativity * 2 ^ m) := by
  obtain ⟨hpow, hcam, hdram, -, htarget⟩ := InputParameter.applyConstraint_eq_some hconstraint
  have hassoc := Nat.pos_of_isPowerOfTwo hpow
  unfold dataArray
  rcases htarget with ⟨hcache, rfl⟩ | ⟨hcache, rfl⟩
-- a cache keeps its ways, another array has one
  · simp only [hcache]
    cases hmode : ip.cacheAccessMode with
    | normalAccessMode =>
        exact ⟨hpow, .inr ⟨trivial, rfl⟩, fun _ hword n hcapacity => ⟨hword, n, hcapacity⟩⟩
    | sequentialAccessMode =>
        refine ⟨⟨0, rfl⟩, .inl rfl, fun _ hword n hcapacity => ⟨hword, ?_⟩⟩
        obtain ⟨a, ha⟩ := hpow
        refine ⟨a + n, ?_⟩
        dsimp only
        rw [hcapacity, ha, pow_add]
        ring
    | fastAccessMode =>
        refine ⟨⟨0, rfl⟩, .inl rfl, fun _ hword n hcapacity => ⟨Nat.mul_pos hword hassoc, n, ?_⟩⟩
        dsimp only
        rw [hcapacity, mul_one]
  · cases hram : ip₀.designTarget with
    | cache => exact absurd hram hcache
    | camChip => exact absurd hram hcam
    | ramChip =>
        simp only [hdram, or_false]
        split
        · rename_i hnand
          exact ⟨⟨0, rfl⟩, .inl rfl, fun h => absurd ⟨trivial, hnand⟩ h⟩
        · exact ⟨⟨0, rfl⟩, .inl rfl, fun _ hword n hcapacity => ⟨hword, n, hcapacity⟩⟩

/-- No valid candidate of a configuration spreads a set over several rows, if the
search of a cache with normal access does not try it. -/
theorem numRowPerSet_le_one_of_valid {el : Electrical}
    {globalWireRepeaterType : WireRepeaterType} {a : BankParams}
    (hconstraint : ip₀.applyConstraint memCellType = some ip)
    (hways : a.associativity = (dataArray ip.toSettings memCellType).associativity)
    (hdata : a.memoryType = .data)
    (hnormal : ip.designTarget = .cache ∧ ip.cacheAccessMode = .normalAccessMode →
      a.numRowPerSet ≤ 1)
    (hvalid : (initializedBank el memCellType globalWireRepeaterType ip.routingMode a).invalid =
      false) :
    a.numRowPerSet ≤ 1 := by
  obtain ⟨hassoc, hone | hmode, -⟩ := dataArray_cases hconstraint
  · -- the whole set is a single way of the array
    have hle := numRowPerSet_le_of_valid (by rw [hways, hone]; exact Nat.one_pos) hdata
      (initializeBank_eq_initializedBank _ _ _ _ _) hvalid
    rw [hways, hone] at hle
    exact hle
  · exact hnormal hmode

end Configured

/-! ## The default space -/

/-- The bounds that `RESTORE_SEARCH_SIZE` sets for the organisation. -/
structure SearchSpace.IsDefault (space : SearchSpace) : Prop where
  numRowMat : space.numRowMat = ⟨1, 512⟩
  numColumnMat : space.numColumnMat = ⟨1, 512⟩
  numActiveMatPerRow : space.numActiveMatPerRow = ⟨1, 512⟩
  numActiveMatPerColumn : space.numActiveMatPerColumn = ⟨1, 512⟩
  numRowSubarray : space.numRowSubarray = ⟨1, 2⟩
  numColumnSubarray : space.numColumnSubarray = ⟨1, 2⟩
  numActiveSubarrayPerRow : space.numActiveSubarrayPerRow = ⟨1, 2⟩
  numActiveSubarrayPerColumn : space.numActiveSubarrayPerColumn = ⟨1, 2⟩
  muxSenseAmp : space.muxSenseAmp = ⟨1, 256⟩
  muxOutputLev1 : space.muxOutputLev1 = ⟨1, 256⟩
  muxOutputLev2 : space.muxOutputLev2 = ⟨1, 256⟩
  numRowPerSet : space.numRowPerSet.min = 1 ∧ 1 ≤ space.numRowPerSet.max
  areaOptimizationLevel : space.areaOptimizationLevel.min ≤ space.areaOptimizationLevel.max

namespace SearchSpace

theorem isDefault_restored {associativity : ℤ} (h : 1 ≤ associativity) :
    (restored associativity).IsDefault :=
  ⟨rfl, rfl, rfl, rfl, rfl, rfl, rfl, rfl, rfl, rfl, rfl, ⟨rfl, h⟩, zero_le_two⟩

theorem IsDefault.powersOfTwo {space : SearchSpace} (h : space.IsDefault) :
    space.PowersOfTwo := by
  have hone : (1 : ℕ).isPowerOfTwo := ⟨0, rfl⟩
  constructor
  · rw [h.numRowMat]
    exact hone
  · rw [h.numColumnMat]
    exact hone
  · rw [h.numActiveMatPerRow]
    exact hone
  · rw [h.numActiveMatPerColumn]
    exact hone
  · rw [h.numRowSubarray]
    exact hone
  · rw [h.numColumnSubarray]
    exact hone
  · rw [h.numActiveSubarrayPerRow]
    exact hone
  · rw [h.numActiveSubarrayPerColumn]
    exact hone
  · rw [h.muxSenseAmp]
    exact hone
  · rw [h.muxOutputLev1]
    exact hone
  · rw [h.muxOutputLev2]
    exact hone
  · rw [h.numRowPerSet.1]
    exact hone

end SearchSpace

theorem InputParameter.dataSpace_isDefault {K : Type} {ip : InputParameter K}
    (h : ip.toSearchSpace.IsDefault) : ip.dataSpace.IsDefault := by
  unfold dataSpace
  split
  · exact { h with numRowPerSet := ⟨rfl, le_rfl⟩ }
  · exact h

/-- A block is partitioned over at most `512 * 512 * 2 * 2` subarrays. -/
theorem Candidate.InSpace.exists_numActive {space : SearchSpace} {associativity : ℤ}
    {c : Candidate} (h : c.InSpace space associativity) (hspace : space.IsDefault) :
    ∃ i ≤ 20, c.numActive = 2 ^ i := by
  have hcolumnMat : c.numColumnMat ≤ 512 := by
    have hle := h.numColumnMat.le
    rw [hspace.numColumnMat] at hle
    exact Int.ofNat_le.1 hle
  have hrowMat : c.numRowMat ≤ 512 := by
    have hle := h.numRowMat.le
    rw [hspace.numRowMat] at hle
    exact Int.ofNat_le.1 hle
  have hcolumnSubarray : c.numColumnSubarray ≤ 2 := by
    have hle := h.numColumnSubarray.le
    rw [hspace.numColumnSubarray] at hle
    exact Int.ofNat_le.1 hle
  have hrowSubarray : c.numRowSubarray ≤ 2 := by
    have hle := h.numRowSubarray.le
    rw [hspace.numRowSubarray] at hle
    exact Int.ofNat_le.1 hle
  have hp := h.powerOfTwo hspace.powersOfTwo ⟨1, 1, 1⟩ ⟨0, rfl⟩ true .data
  obtain ⟨i, hi⟩ : c.numActive.isPowerOfTwo :=
    isPowerOfTwo_mul (isPowerOfTwo_mul (isPowerOfTwo_mul hp.numActiveMatPerRow
      hp.numActiveMatPerColumn) hp.numActiveSubarrayPerRow) hp.numActiveSubarrayPerColumn
  refine ⟨i, ?_, hi⟩
-- the active counts do not exceed the totals
  have hle : c.numActive ≤ 512 * 512 * 2 * 2 :=
    Nat.mul_le_mul (Nat.mul_le_mul (Nat.mul_le_mul
      (hp.numActiveMatPerRow_le.trans hcolumnMat) (hp.numActiveMatPerColumn_le.trans hrowMat))
      (hp.numActiveSubarrayPerRow_le.trans hcolumnSubarray))
      (hp.numActiveSubarrayPerColumn_le.trans hrowSubarray)
  have hbound : 2 ^ i ≤ 2 ^ 20 := by
    rw [← hi]
    exact hle
  exact (Nat.pow_le_pow_iff_right (by norm_num)).1 hbound

/-- The candidate whose subarrays are all active, `2 ^ i` of them. -/
def Candidate.allActive (i : ℕ) (areaOptimizationLevel : BufferDesignTarget) : Candidate where
  numRowMat := 2 ^ min (i - 9) 9
  numColumnMat := 2 ^ min i 9
  numActiveMatPerRow := 2 ^ min i 9
  numActiveMatPerColumn := 2 ^ min (i - 9) 9
  numRowSubarray := 2 ^ min (i - 19) 1
  numColumnSubarray := 2 ^ min (i - 18) 1
  numActiveSubarrayPerRow := 2 ^ min (i - 18) 1
  numActiveSubarrayPerColumn := 2 ^ min (i - 19) 1
  muxSenseAmp := 1
  muxOutputLev1 := 1
  muxOutputLev2 := 1
  numRowPerSet := 1
  areaOptimizationLevel := areaOptimizationLevel

theorem Candidate.numActive_allActive {i : ℕ} (hi : i ≤ 20) (level : BufferDesignTarget) :
    (allActive i level).numActive = 2 ^ i := by
  unfold numActive allActive
  rw [← pow_add, ← pow_add, ← pow_add]
  congr 1
  omega

theorem Range.visits_two_pow {r : Range} {i j : ℕ} (hmin : r.min = 1) (hmax : r.max = 2 ^ j)
    (hle : i ≤ j) : r.Visits (2 ^ i) := by
  refine ⟨hmin.ge, ?_, i, ?_⟩
  · rw [hmax]
    exact_mod_cast Nat.pow_le_pow_right (by norm_num) hle
  · rw [hmin]
    exact (one_mul _).symm

/-- A loop that is limited by a total visits this total. -/
theorem Range.visits_clip_two_pow {r : Range} {i j : ℕ} (hmin : r.min = 1)
    (hmax : r.max = 2 ^ j) (hle : i ≤ j) : (r.clip (2 ^ i)).Visits (2 ^ i) := by
  have hpos := Nat.two_pow_pos i
  refine Range.visits_two_pow (j := i) ?_ ?_ le_rfl
  · unfold clip
    rw [hmin]
    exact min_eq_right (by omega)
  · unfold clip
    rw [hmax]
    have hpow : (2 ^ i : ℤ) ≤ 2 ^ j := by
      exact_mod_cast Nat.pow_le_pow_right (by norm_num) hle
    rw [Nat.cast_pow, Nat.cast_ofNat]
    exact min_eq_left hpow

theorem Candidate.exists_allActive_inSpace {space : SearchSpace} {associativity : ℤ}
    (hspace : space.IsDefault) (hassoc : 1 ≤ associativity) (i : ℕ) :
    ∃ level, (allActive i level).InSpace space associativity := by
  refine ⟨.ofCode space.areaOptimizationLevel.min.toNat, ?_⟩
  have hmux : (⟨1, 256⟩ : Range).Visits 1 :=
    Range.visits_two_pow (i := 0) (j := 8) rfl rfl (by omega)
  exact
    { numRowMat := hspace.numRowMat ▸ Range.visits_two_pow (j := 9) rfl rfl (min_le_right _ _)
      numColumnMat :=
        hspace.numColumnMat ▸ Range.visits_two_pow (j := 9) rfl rfl (min_le_right _ _)
      numActiveMatPerRow :=
        hspace.numActiveMatPerRow ▸ Range.visits_clip_two_pow (j := 9) rfl rfl (min_le_right _ _)
      numActiveMatPerColumn :=
        hspace.numActiveMatPerColumn ▸
          Range.visits_clip_two_pow (j := 9) rfl rfl (min_le_right _ _)
      numRowSubarray :=
        hspace.numRowSubarray ▸ Range.visits_two_pow (j := 1) rfl rfl (min_le_right _ _)
      numColumnSubarray :=
        hspace.numColumnSubarray ▸ Range.visits_two_pow (j := 1) rfl rfl (min_le_right _ _)
      numActiveSubarrayPerRow :=
        hspace.numActiveSubarrayPerRow ▸
          Range.visits_clip_two_pow (j := 1) rfl rfl (min_le_right _ _)
      numActiveSubarrayPerColumn :=
        hspace.numActiveSubarrayPerColumn ▸
          Range.visits_clip_two_pow (j := 1) rfl rfl (min_le_right _ _)
      muxSenseAmp := hspace.muxSenseAmp ▸ hmux
      muxOutputLev1 := hspace.muxOutputLev1 ▸ hmux
      muxOutputLev2 := hspace.muxOutputLev2 ▸ hmux
      numRowPerSet := by
        refine ⟨hspace.numRowPerSet.1.ge, le_min hspace.numRowPerSet.2 hassoc, 0, ?_⟩
        show 1 = space.numRowPerSet.min.toNat * 2 ^ 0
        rw [hspace.numRowPerSet.1]
        rfl
      areaOptimizationLevel := by
        refine ⟨space.areaOptimizationLevel.min, ?_, rfl⟩
        have hlevel := hspace.areaOptimizationLevel
        unfold Range.values
        refine List.mem_map.2 ⟨0, List.mem_range.2 ?_, ?_⟩
        · omega
        · rw [Nat.cast_zero, add_zero] }

end NVSim
