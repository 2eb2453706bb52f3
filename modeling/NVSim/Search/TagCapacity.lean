import NVSim.Search.Constraints
import NVSim.Search.DataCandidates

/-!
# The capacity check of the tag search

The block of a tag array is rounded up to a multiple of the number of subarrays it is
partitioned over.  So the tag search of a cache whose capacity is a number of whole
sets does not exit at `VERIFY_TAG_CAPACITY`, whatever the circuit models accept.
-/

namespace NVSim

open Library

variable {K : Type} [Field K] [LinearOrder K]

theorem SearchSpace.powersOfTwo_reduced : SearchSpace.reduced.PowersOfTwo :=
  ⟨⟨0, rfl⟩, ⟨0, rfl⟩, ⟨0, rfl⟩, ⟨0, rfl⟩, ⟨0, rfl⟩, ⟨0, rfl⟩, ⟨0, rfl⟩, ⟨0, rfl⟩, ⟨0, rfl⟩,
    ⟨0, rfl⟩, ⟨0, rfl⟩, ⟨0, rfl⟩⟩

omit [Field K] [LinearOrder K] in
/-- The block of a tag candidate is a positive multiple of its partition. -/
theorem Candidate.tagArgs_eq_some {settings : Settings K} {c : Candidate} {a : BankParams}
    (h : c.tagArgs settings = some a) :
    ∃ blockSize, 0 < blockSize ∧ c.numActive ∣ blockSize ∧
      a = c.toBankParams
        { capacity := settings.capacity * 8 / settings.wordWidth * blockSize
          blockSize := blockSize
          associativity := settings.associativity.toNat } settings.internalSensing .tag := by
  unfold tagArgs at h
  dsimp only at h
  split at h
  · cases h
  · rename_i hguard
    obtain rfl := Option.some.inj h
    obtain ⟨hactive, hle⟩ := Nat.div_pos_iff.1 (Nat.pos_of_ne_zero hguard)
    split
    · -- rounded up
      exact ⟨_, Nat.mul_pos (Nat.succ_pos _) hactive, dvd_mul_left _ _, rfl⟩
    · rename_i hdvd
      exact ⟨settings.tagWidth, hactive.trans_le hle, Nat.dvd_of_mod_eq_zero (not_not.1 hdvd), rfl⟩

/-- The cells of a valid tag array are its capacity. -/
theorem storedCapacity_tag {models : Models K} {settings : Settings K} {cell : MemCell K}
    {localWire globalWire : Wire} {a : BankParams} {n : ℕ} (ha : a.PowerOfTwo)
    (htag : a.memoryType = .tag) (hdvd : a.numActiveMat * a.numActiveSubarray ∣ a.blockSize)
    (hblock : 0 < a.blockSize) (hcapacity : a.capacity = a.blockSize * a.associativity * 2 ^ n)
    (hvalid : (evaluate models settings cell localWire globalWire a).invalid = false) :
    (evaluate models settings cell localWire globalWire a).storedCapacity = a.capacity := by
  have htoBank := toBank_evaluate_of_valid hvalid
  rw [htoBank] at hvalid ⊢
  obtain ⟨-, hstored, -, -, hcolumns⟩ := storedCapacity_eq ha
    (initializeBank_eq_initializedBank _ _ _ _ _) hvalid
  have hwidth := ha.columnsPerAddress_mul hdvd (.inr htag) hcolumns
  have haddress : a.numAddressBit.toNat = n := by
    rw [BankParams.numAddressBit, hcapacity, log2RoundedRatio_mul_two_pow]
    · exact Int.toNat_natCast n
    · exact Nat.mul_pos hblock (Nat.pos_of_isPowerOfTwo ha.associativity)
  have hways : a.numWayInRows = 1 := by
    unfold BankParams.numWayInRows
    rw [htag]
    rfl
  have haccess : a.accessWidth = a.blockSize * a.associativity := by
    unfold BankParams.accessWidth
    simp only [htag]
  calc (initializedBank _ _ _ _ a).storedCapacity
      = 2 ^ n * (a.columnsPerAddress * a.numActiveSubarray * a.numActiveMat) := by
        rw [hstored, haddress, hways]
        ring
    _ = a.capacity := by
        rw [hwidth, haccess, hcapacity]
        ring

/-- The tag search of a cache with whole sets comes to its end. -/
theorem tagPhase_ok (models : Models K) (ip : InputParameter K) (cell : MemCell K) (n : ℕ)
    (hassoc : ip.associativity.toNat.isPowerOfTwo) (hword : 0 < ip.wordWidth)
    (hcapacity : ip.capacity * 8 = ip.wordWidth * ip.associativity.toNat * 2 ^ n) :
    ∃ tags, tagPhase models ip cell = .ok tags := by
  obtain ⟨cs, hcs, hmem⟩ :=
    enumerates_bigFor SearchSpace.powersOfTwo_reduced.positive ip.associativity
  obtain ⟨localWire, globalWire, hwires⟩ :
      ∃ localWire globalWire, ip.reduceSearchSize.initialBasicWire = .ok (localWire, globalWire) :=
    ⟨_, _, rfl⟩
  unfold tagPhase
  dsimp only
  rw [hwires]
  have hspace : bigFor ip.reduceSearchSize.toSearchSpace ip.reduceSearchSize.associativity =
      some cs := hcs
  have hsettings : ip.reduceSearchSize.toSettings = ip.toSettings := rfl
  rw [hspace, hsettings]
  dsimp only [orHalt, bind, Except.bind]
  rcases searchPass_cases models ip.toSettings localWire globalWire (fun _ => true) cell
    (cs.filterMap (Candidate.tagArgs ip.toSettings))
    { toBestResults := .fresh, cell := cell } rfl with
    ⟨a, ha, hkept, hviolation, -⟩ | ⟨-, cell', -, hok⟩
  · exfalso
    apply hviolation
-- the block was rounded up to a multiple of the partition, so this cannot be
    obtain ⟨c, hc, hargs⟩ := List.mem_filterMap.1 ha
    obtain ⟨blockSize, hblock, hdvd, rfl⟩ := Candidate.tagArgs_eq_some hargs
    have hp := ((hmem c).1 hc).powerOfTwo SearchSpace.powersOfTwo_reduced
      { capacity := ip.capacity * 8 / ip.wordWidth * blockSize, blockSize := blockSize,
        associativity := ip.associativity.toNat } hassoc ip.internalSensing .tag
    refine storedCapacity_tag (n := n) hp rfl ?_ hblock ?_ ?_
    · rw [c.numActive_toBankParams]
      exact hdvd
    · show ip.capacity * 8 / ip.wordWidth * blockSize =
        blockSize * ip.associativity.toNat * 2 ^ n
      rw [hcapacity, mul_assoc, Nat.mul_div_cancel_left _ hword]
      ring
    · unfold keptBy at hkept
      rw [Bool.and_eq_true, Bool.not_eq_true'] at hkept
      exact hkept.1
  · rw [hok]
    exact ⟨_, rfl⟩

end NVSim
