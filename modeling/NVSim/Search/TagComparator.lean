import NVSim.Model.Comparator
import NVSim.Search.MatCalls

/-!
# The comparator of a tag array

The tag search rounds the width of a tag, with its valid and dirty bits, up to a multiple
of the number of active subarrays, which is a power of two and may be one or two.  The
comparator takes a quarter of the block for each of its four parts and supposes that there
is no remainder.
-/

namespace NVSim

open Library

variable {K : Type} [Field K] [LinearOrder K]

/-- The four quarter comparators have a gate for every bit of the block. -/
def Comparator.Covers (c : Comparator K) (blockSize : ℕ) : Prop := 4 * c.numTagBits = blockSize

theorem initializeComparator_covers_iff (g : Globals K) (blockSize : ℕ) (capLoad : K) :
    (initializeComparator g blockSize capLoad).Covers blockSize ↔ 4 ∣ blockSize :=
  Nat.mul_div_eq_iff_dvd

/-! ## The block of a tag candidate -/

/-- The least multiple of `n` that is at least `w`. -/
def roundUp (w n : ℕ) : ℕ := if w % n ≠ 0 then (w / n + 1) * n else w

theorem dvd_roundUp (w n : ℕ) : n ∣ roundUp w n := by
  unfold roundUp
  split
  · exact dvd_mul_left n _
  · rename_i hdvd
    exact Nat.dvd_of_mod_eq_zero (not_not.1 hdvd)

/-- Rounding up to a multiple of a power of two gives a multiple of four if the power of
two or the width is one, or if one bit is missing in the width and is added. -/
theorem four_dvd_roundUp_iff (w : ℕ) {n : ℕ} (hn : n.isPowerOfTwo) :
    4 ∣ roundUp w n ↔ 4 ∣ n ∨ 4 ∣ w ∨ n = 2 ∧ w % 4 = 3 := by
  obtain ⟨k, rfl⟩ := hn
  match k with
  | 0 =>
      have hone : roundUp w (2 ^ 0) = w := by
        unfold roundUp
        rw [if_neg]
        omega
      rw [hone]
      omega
  | 1 =>
      unfold roundUp
      split
      · omega
      · omega
  | k + 2 =>
      have hfour : 4 ∣ 2 ^ (k + 2) := ⟨2 ^ k, by rw [pow_add, mul_comm]; rfl⟩
      exact iff_of_true (hfour.trans (dvd_roundUp w _)) (.inl hfour)

/-- A tag candidate: its counts are powers of two, and its block is the tag width rounded
up. -/
structure BankParams.TagCandidate (settings : Settings K) (a : BankParams) : Prop where
  powerOfTwo : a.PowerOfTwo
  memoryType : a.memoryType = .tag
  blockSize : a.blockSize = roundUp settings.tagWidth a.numPartition

omit [Field K] [LinearOrder K] in
theorem Candidate.blockSize_tagArgs {settings : Settings K} {c : Candidate} {a : BankParams}
    (h : c.tagArgs settings = some a) : a.blockSize = roundUp settings.tagWidth a.numPartition := by
  unfold tagArgs at h
  dsimp only at h
  split at h
  · cases h
  · obtain rfl := Option.some.inj h
    unfold BankParams.numPartition
    rw [c.numActive_toBankParams]
    rfl

omit [Field K] [LinearOrder K] in
/-- The tag candidates are those of the reduced search space that have a block. -/
theorem mem_tagCandidates_iff (ip : InputParameter K) :
    ∃ tags, ip.tagCandidates = .ok tags ∧ ∀ a, a ∈ tags ↔
      ∃ c : Candidate, c.InSpace .reduced ip.associativity ∧ c.tagArgs ip.toSettings = some a := by
  obtain ⟨cs, hcs, hmem⟩ :=
    enumerates_bigFor SearchSpace.powersOfTwo_reduced.positive ip.associativity
  have hspace : bigFor ip.reduceSearchSize.toSearchSpace ip.associativity = some cs := hcs
  refine ⟨cs.filterMap (Candidate.tagArgs ip.toSettings), ?_, fun a => ?_⟩
  · unfold InputParameter.tagCandidates
    rw [hspace]
    rfl
  · rw [List.mem_filterMap]
    exact exists_congr fun c => and_congr_left fun _ => hmem c

omit [Field K] [LinearOrder K] in
theorem tagCandidate_of_mem {ip : InputParameter K} {tags : List BankParams}
    (hassoc : ip.associativity.toNat.isPowerOfTwo) (htags : ip.tagCandidates = .ok tags)
    {a : BankParams} (ha : a ∈ tags) : a.TagCandidate ip.toSettings := by
  obtain ⟨tags', htags', hmem⟩ := mem_tagCandidates_iff ip
  rw [htags] at htags'
  obtain rfl := Except.ok.inj htags'
  obtain ⟨c, hc, hargs⟩ := (hmem a).1 ha
  have hblock := Candidate.blockSize_tagArgs hargs
  obtain ⟨blockSize, -, -, rfl⟩ := Candidate.tagArgs_eq_some hargs
  exact ⟨hc.powerOfTwo SearchSpace.powersOfTwo_reduced _ hassoc _ _, rfl, hblock⟩

/-! ## The comparator of its bank -/

/-- The comparator of a valid tag bank is initialised with the whole block, in the mat or
behind the global sense amplifiers. -/
theorem comparatorTagBits_of_valid {el : Electrical} {memCellType : MemCellType}
    {globalWireRepeaterType : WireRepeaterType} {routingMode : RoutingMode} {a : BankParams}
    {b : Bank} (ha : a.PowerOfTwo) (htag : a.memoryType = .tag)
    (h : initializeBank el memCellType globalWireRepeaterType routingMode a = some b)
    (hvalid : b.invalid = false) : b.comparatorTagBits = some a.blockSize := by
  obtain ⟨q, matParams, hmat, hlegal, rfl⟩ := initializeBank_valid ha.associativity ha.numRowMat
    ha.numColumnMat ha.numActiveMatPerRow ha.numActiveMatPerColumn h hvalid
  have htag' : a.clampActive.memoryType = .tag := htag
  obtain ⟨numDataBit, numWay, hrouted, rfl, rfl⟩ := BankParams.matCall_eq_some hmat
  have hbits : numDataBit = a.blockSize := by
    rw [ha.clampActive_eq] at hrouted
    have hcall := (ha.routedWithoutHtree hrouted).2
    rw [htag] at hcall
    exact hcall.2.2
  have hexpand : a.clampActive.expandDataMux memCellType numWay = a.clampActive := by
    unfold BankParams.expandDataMux
    rw [htag']
  rw [hexpand] at hlegal ⊢
  rw [initializeMat_of_legal hlegal]
  unfold Bank.comparatorTagBits
  show (if a.internalSenseAmp = true then
      if a.memoryType = .tag ∧ a.internalSenseAmp = true then some numDataBit else none
    else if a.memoryType = .tag ∧ false = false then some a.blockSize else none) =
      some a.blockSize
  cases hscheme : a.internalSenseAmp with
  | true => simp [htag, hbits]
  | false => simp [htag]

/-- The comparator of a tag candidate covers the whole block, for a tag width that has a value,
if and only if the block is partitioned over a multiple of four subarrays, or the tag width is a
multiple of four, or it lacks one bit that two active subarrays add. -/
theorem tag_comparator_covers_iff {ip : InputParameter K} {tags : List BankParams}
    (hassoc : ip.associativity.toNat.isPowerOfTwo) (htags : ip.tagCandidates = .ok tags)
    {a : BankParams} (ha : a ∈ tags) (el : Electrical) (memCellType : MemCellType)
    (globalWireRepeaterType : WireRepeaterType) {b : Bank}
    (h : initializeBank el memCellType globalWireRepeaterType ip.routingMode a = some b)
    (hvalid : b.invalid = false) (g : Globals K) (capLoad : K) :
    (ip.toSettings.TagWidthDefined ∧ ∃ numTagBits, b.comparatorTagBits = some numTagBits ∧
        (initializeComparator g numTagBits capLoad).Covers a.blockSize) ↔
      ip.toSettings.TagWidthDefined ∧
        (4 ∣ a.numPartition ∨ 4 ∣ ip.toSettings.tagWidth ∨
          a.numPartition = 2 ∧ ip.toSettings.tagWidth % 4 = 3) := by
  refine and_congr_right fun _ => ?_
  have hcandidate := tagCandidate_of_mem hassoc htags ha
  have hp := hcandidate.powerOfTwo
  have hpartition : a.numPartition.isPowerOfTwo :=
    isPowerOfTwo_mul (isPowerOfTwo_mul hp.numActiveMatPerRow hp.numActiveMatPerColumn)
      (isPowerOfTwo_mul hp.numActiveSubarrayPerRow hp.numActiveSubarrayPerColumn)
  rw [comparatorTagBits_of_valid hp hcandidate.memoryType h hvalid,
    ← four_dvd_roundUp_iff _ hpartition, ← hcandidate.blockSize,
    ← initializeComparator_covers_iff g a.blockSize capLoad]
  constructor
  · rintro ⟨numTagBits, hbits, hcovers⟩
    obtain rfl := Option.some.inj hbits
    exact hcovers
  · intro hcovers
    exact ⟨a.blockSize, rfl, hcovers⟩

/-! ## Examples -/

/-- The tag array of a cache of 8 KB with words of 512 bits and 8 ways in one subarray, for
examples. -/
def wholeTag : BankParams :=
  (Candidate.single 0 .latencyFirst).toBankParams
    { capacity := 128 * 40, blockSize := 40, associativity := 8 } true .tag

/-- All of its 40 bits are compared. -/
theorem tag_comparator_covers_cache :
    ∃ b, initializeBank .permissive .sram .repeatedNone .hTree wholeTag = some b ∧
      ∃ numTagBits, b.comparatorTagBits = some numTagBits ∧
        (initializeComparator (.small .small) numTagBits 0).Covers wholeTag.blockSize := by
  obtain ⟨ip, hip⟩ : ∃ ip : InputParameter ℚ, ip = InputParameter.cache (8 * 1024) 512 8 :=
    ⟨_, rfl⟩
  obtain ⟨tags, htags, hmem⟩ := mem_tagCandidates_iff ip
  have ha : wholeTag ∈ tags := by
    refine (hmem _).2 ⟨_, Candidate.single_inSpace_reduced (by rw [hip]; decide), ?_⟩
    rw [hip]
    decide +kernel
  have hvalid : (initializeBank .permissive .sram .repeatedNone .hTree wholeTag).map
      (fun b => b.invalid) = some false := by decide +kernel
  obtain ⟨b, hb, hvalid⟩ := Option.map_eq_some_iff.1 hvalid
  have hdefined : ip.toSettings.TagWidthDefined := by
    rw [hip]
    exact ⟨by decide, by decide, by decide⟩
  have hwidth : 4 ∣ ip.toSettings.tagWidth := by
    rw [hip]
    decide
  refine ⟨b, hb, ((tag_comparator_covers_iff (by rw [hip]; exact ⟨3, rfl⟩) htags ha .permissive
    .sram .repeatedNone ?_ hvalid (.small .small) 0).2 ⟨hdefined, .inr (.inl hwidth)⟩).2⟩
  rw [hip]
  exact hb

/-- The tag array of a cache of 16 KB with words of 512 bits and 8 ways in one subarray, for
examples. -/
def tagOfCache : BankParams :=
  (Candidate.single 0 .latencyFirst).toBankParams
    { capacity := 256 * 39, blockSize := 39, associativity := 8 } true .tag

/-- It is a candidate, and its bank is not invalid. -/
theorem tagOfCache_tried :
    (∃ tags, (InputParameter.cache (16 * 1024) 512 8 : InputParameter ℚ).tagCandidates = .ok tags ∧
      tagOfCache ∈ tags) ∧
    ∃ b, initializeBank .permissive .sram .repeatedNone .hTree tagOfCache = some b ∧
      b.invalid = false ∧ b.comparatorTagBits = some 39 := by
  constructor
  · obtain ⟨tags, htags, hmem⟩ :=
      mem_tagCandidates_iff (InputParameter.cache (16 * 1024) 512 8 : InputParameter ℚ)
    refine ⟨tags, htags, (hmem _).2 ⟨_, Candidate.single_inSpace_reduced (by decide), ?_⟩⟩
    decide +kernel
  · have hflags : (initializeBank .permissive .sram .repeatedNone .hTree tagOfCache).map
        (fun b => (b.invalid, b.comparatorTagBits)) = some (false, some 39) := by
      decide +kernel
    obtain ⟨b, hb, hflags⟩ := Option.map_eq_some_iff.1 hflags
    exact ⟨b, hb, congrArg Prod.fst hflags, congrArg Prod.snd hflags⟩

/-- Three of its 39 bits are not compared. -/
theorem tag_comparator_leaves_bits :
    (∃ tags, (InputParameter.cache (16 * 1024) 512 8 : InputParameter ℚ).tagCandidates = .ok tags ∧
      tagOfCache ∈ tags) ∧
    ∃ b, initializeBank .permissive .sram .repeatedNone .hTree tagOfCache = some b ∧
      b.invalid = false ∧
      ¬ ∃ numTagBits, b.comparatorTagBits = some numTagBits ∧
        (initializeComparator (.small .small) numTagBits 0).Covers tagOfCache.blockSize := by
  obtain ⟨htried, b, hb, hvalid, hbits⟩ := tagOfCache_tried
  refine ⟨htried, b, hb, hvalid, ?_⟩
  rintro ⟨numTagBits, hsome, hcovers⟩
  rw [hbits] at hsome
  obtain rfl := Option.some.inj hsome
  exact absurd ((initializeComparator_covers_iff _ _ _).1 hcovers) (by decide)

end NVSim
