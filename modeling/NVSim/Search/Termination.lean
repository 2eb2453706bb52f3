import NVSim.Search.EnumerationInts
import NVSim.Search.Exploration

/-!
# When the enumeration ends

The reader takes any number for a forced count.  All ranges it leaves are entered, so every
loop is reached, with the start values of the loops around it, and the nest ends only if each
loop ends for these.  A loop that starts below one, or that can only leave its bound by an
overflow, does not end for every result of the overflow.

The nest is that of the loops alone.  Its body assigns no loop variable; where it does more than
leave a candidate out, it may end the program, which is no matter of the loops.
-/

namespace NVSim

open Library

/-! ## One loop -/

namespace Range

variable {r : Range}

/-- The loop ends, whatever an overflow delivers. -/
def Ends (r : Range) : Prop := ∀ overflow, ∃ fuel, (r.doubled overflow fuel).isSome

/-- An overflow that stays below the bound. -/
def stuck (r : Range) : ℤ := Min.min (-2 ^ 31) r.max

theorem stuck_le (r : Range) : r.stuck ≤ r.max := min_le_right _ _

theorem doubleInt_stuck (r : Range) : doubleInt (fun _ => r.stuck) r.stuck = r.stuck := by
  have hlow : r.stuck ≤ -2 ^ 31 := min_le_left _ _
  exact if_neg fun h => by omega

/-- A set of values within the bound that is closed under doubling is never left. -/
theorem not_ends {I : ℤ → Prop} (hstart : I r.min) (hbound : ∀ x, I x → x ≤ r.max)
    (hnext : ∀ x, I x → I (doubleInt (fun _ => r.stuck) x)) : ¬ r.Ends := by
  intro hends
  obtain ⟨fuel, hsome⟩ := hends fun _ => r.stuck
  have hnone : r.doubled (fun _ => r.stuck) fuel = none :=
    walk_eq_none hbound hnext hstart fuel
  rw [hnone] at hsome
  cases hsome

theorem Ends.one_le (h : r.Ends) (hentered : r.min ≤ r.max) : 1 ≤ r.min := by
  by_contra hmin
  refine not_ends (I := fun x => x ≤ 0 ∧ x ≤ r.max) ⟨by omega, hentered⟩ (fun x hx => hx.2)
    (fun x hx => ?_) h
  unfold doubleInt
  split
  · exact ⟨by omega, by omega⟩
  · exact ⟨(min_le_left _ _).trans (by decide), r.stuck_le⟩

/-- A single value is passed by one doubling. -/
theorem Ends.only_lt {n : ℤ} (h : (Range.only n).Ends) : n < 2 ^ 30 := by
  by_contra hn
  refine not_ends (I := fun x => x = n ∨ x = (Range.only n).stuck) (.inl rfl) ?_ ?_ h
  · rintro x (rfl | rfl)
    · exact le_rfl
    · exact stuck_le _
  · rintro x (rfl | rfl)
    · exact .inr (if_neg fun hfits => by omega)
    · exact .inr (doubleInt_stuck _)

/-- From one on, the doublings reach all powers of two that are an `int`. -/
theorem Ends.lt_of_one {n : ℤ} (h : (⟨1, n⟩ : Range).Ends) : n < 2 ^ 30 := by
  by_contra hn
  refine not_ends (I := fun x => (∃ k : ℕ, k ≤ 30 ∧ x = 2 ^ k) ∨ x = (⟨1, n⟩ : Range).stuck)
    (.inl ⟨0, by omega, rfl⟩) ?_ ?_ h
  · rintro x (⟨k, hk, rfl⟩ | rfl)
    · have hpow : (2 : ℤ) ^ k ≤ 2 ^ 30 := pow_le_pow_right₀ one_le_two hk
      exact hpow.trans (not_lt.1 hn)
    · exact stuck_le _
  · rintro x (⟨k, hk, rfl⟩ | rfl)
    · rcases Nat.lt_or_ge k 30 with hlt | hge
      · have hpow : (2 : ℤ) ^ k < 2 ^ 30 := pow_lt_pow_right₀ one_lt_two hlt
        have hone : (1 : ℤ) ≤ 2 ^ k := one_le_pow₀ one_le_two
        exact .inl ⟨k + 1, hlt, by rw [doubleInt_eq hone hpow, pow_succ]⟩
      · obtain rfl : k = 30 := by omega
        exact .inr (if_neg (by decide))
    · exact .inr (doubleInt_stuck _)

/-! ## The ranges of a file -/

/-- A default range of counts, or a forced one. -/
def Read (r : Range) : Prop := (r.min = 1 ∧ 1 ≤ r.max ∧ r.max ≤ 512) ∨ r.min = r.max

theorem read_default {max : ℤ} (hone : 1 ≤ max) (hmax : max ≤ 512) : (⟨1, max⟩ : Range).Read :=
  .inl ⟨rfl, hone, hmax⟩

theorem read_only (n : ℤ) : (Range.only n).Read := .inr rfl

theorem Read.le (h : r.Read) : r.min ≤ r.max := by
  rcases h with ⟨hmin, hmax, -⟩ | heq
  · omega
  · exact heq.le

theorem Read.bounded (h : r.Read) (hends : r.Ends) : r.Bounded := by
  refine ⟨hends.one_le h.le, ?_⟩
  obtain ⟨n, max⟩ := r
  rcases h with ⟨-, -, hmax⟩ | heq
  · exact hmax.trans_lt (by decide)
  · obtain rfl : n = max := heq
    exact Ends.only_lt hends

/-- A clipped loop is entered if the loop itself is. -/
theorem limit_le (m : ℤ) (h : r.min ≤ r.max) : (r.limit m).min ≤ (r.limit m).max :=
  min_le_min le_rfl h

theorem Read.one_le_of_limit {m : ℤ} (h : r.Read) (hends : (r.limit m).Ends) : 1 ≤ r.min :=
  (hends.one_le (limit_le m h.le)).trans (min_le_right _ _)

end Range

/-- The ranges that a file can leave. -/
structure SearchSpace.Read (space : SearchSpace) : Prop where
  numRowMat : space.numRowMat.Read
  numColumnMat : space.numColumnMat.Read
  numActiveMatPerRow : space.numActiveMatPerRow.Read
  numActiveMatPerColumn : space.numActiveMatPerColumn.Read
  numRowSubarray : space.numRowSubarray.Read
  numColumnSubarray : space.numColumnSubarray.Read
  numActiveSubarrayPerRow : space.numActiveSubarrayPerRow.Read
  numActiveSubarrayPerColumn : space.numActiveSubarrayPerColumn.Read
  muxSenseAmp : space.muxSenseAmp.Read
  muxOutputLev1 : space.muxOutputLev1.Read
  muxOutputLev2 : space.muxOutputLev2.Read
  numRowPerSet : space.numRowPerSet.min = 1
  areaOptimizationLevel : space.areaOptimizationLevel.max ≤ 2

/-! ## The nest -/

namespace SearchSpace

variable {space : SearchSpace} {associativity : ℤ}

/-- The nest ends, whatever an overflow delivers. -/
def Ends (space : SearchSpace) (associativity : ℤ) : Prop :=
  ∀ overflow, ∃ fuel, (bigForInt overflow fuel space associativity).isSome

/-- A property of every doubling loop, for the first values of the loops around it. -/
structure EveryLoop (P : Range → Prop) (space : SearchSpace) (associativity : ℤ) : Prop where
  numRowMat : P space.numRowMat
  numColumnMat : P space.numColumnMat
  numActiveMatPerRow : P (space.numActiveMatPerRow.limit space.numColumnMat.min)
  numActiveMatPerColumn : P (space.numActiveMatPerColumn.limit space.numRowMat.min)
  numRowSubarray : P space.numRowSubarray
  numColumnSubarray : P space.numColumnSubarray
  numActiveSubarrayPerRow :
    P (space.numActiveSubarrayPerRow.limit space.numColumnSubarray.min)
  numActiveSubarrayPerColumn :
    P (space.numActiveSubarrayPerColumn.limit space.numRowSubarray.min)
  muxSenseAmp : P space.muxSenseAmp
  muxOutputLev1 : P space.muxOutputLev1
  muxOutputLev2 : P space.muxOutputLev2
  numRowPerSet : P ⟨space.numRowPerSet.min, min space.numRowPerSet.max associativity⟩

/-- All loops are reached, so all of them end. -/
theorem Read.everyLoop (h : space.Read) {overflow : ℤ → ℤ} {fuel : ℕ}
    (hnest : (bigForInt overflow fuel space associativity).isSome) :
    space.EveryLoop (fun r => (r.doubled overflow fuel).isSome) associativity := by
  unfold bigForInt at hnest
  have h₁ := isSome_body_of_walk hnest h.numRowMat.le
  have h₂ := isSome_body_of_walk h₁ h.numColumnMat.le
  have h₃ := isSome_body_of_walk h₂ (Range.limit_le _ h.numActiveMatPerRow.le)
  have h₄ := isSome_body_of_walk h₃ (Range.limit_le _ h.numActiveMatPerColumn.le)
  have h₅ := isSome_body_of_walk h₄ h.numRowSubarray.le
  have h₆ := isSome_body_of_walk h₅ h.numColumnSubarray.le
  have h₇ := isSome_body_of_walk h₆ (Range.limit_le _ h.numActiveSubarrayPerRow.le)
  have h₈ := isSome_body_of_walk h₇ (Range.limit_le _ h.numActiveSubarrayPerColumn.le)
  have h₉ := isSome_body_of_walk h₈ h.muxSenseAmp.le
  have h₁₀ := isSome_body_of_walk h₉ h.muxOutputLev1.le
  have h₁₁ := isSome_body_of_walk h₁₀ h.muxOutputLev2.le
  exact ⟨isSome_values hnest, isSome_values h₁, isSome_values h₂, isSome_values h₃,
    isSome_values h₄, isSome_values h₅, isSome_values h₆, isSome_values h₇, isSome_values h₈,
    isSome_values h₉, isSome_values h₁₀, isSome_values h₁₁⟩

theorem Ends.everyLoop (hends : space.Ends associativity) (h : space.Read) :
    space.EveryLoop Range.Ends associativity where
  numRowMat overflow := (hends overflow).imp fun _ hsome => (h.everyLoop hsome).numRowMat
  numColumnMat overflow := (hends overflow).imp fun _ hsome => (h.everyLoop hsome).numColumnMat
  numActiveMatPerRow overflow :=
    (hends overflow).imp fun _ hsome => (h.everyLoop hsome).numActiveMatPerRow
  numActiveMatPerColumn overflow :=
    (hends overflow).imp fun _ hsome => (h.everyLoop hsome).numActiveMatPerColumn
  numRowSubarray overflow :=
    (hends overflow).imp fun _ hsome => (h.everyLoop hsome).numRowSubarray
  numColumnSubarray overflow :=
    (hends overflow).imp fun _ hsome => (h.everyLoop hsome).numColumnSubarray
  numActiveSubarrayPerRow overflow :=
    (hends overflow).imp fun _ hsome => (h.everyLoop hsome).numActiveSubarrayPerRow
  numActiveSubarrayPerColumn overflow :=
    (hends overflow).imp fun _ hsome => (h.everyLoop hsome).numActiveSubarrayPerColumn
  muxSenseAmp overflow := (hends overflow).imp fun _ hsome => (h.everyLoop hsome).muxSenseAmp
  muxOutputLev1 overflow :=
    (hends overflow).imp fun _ hsome => (h.everyLoop hsome).muxOutputLev1
  muxOutputLev2 overflow :=
    (hends overflow).imp fun _ hsome => (h.everyLoop hsome).muxOutputLev2
  numRowPerSet overflow := (hends overflow).imp fun _ hsome => (h.everyLoop hsome).numRowPerSet

/-- The nest over the ranges of a file ends exactly if all loops leave their bounds before an
overflow. -/
theorem Read.ends_iff (h : space.Read) (associativity : ℤ) :
    space.Ends associativity ↔ space.Bounded associativity := by
  constructor
  · intro hends
    have hloops := hends.everyLoop h
    exact
      { numRowMat := h.numRowMat.bounded hloops.numRowMat
        numColumnMat := h.numColumnMat.bounded hloops.numColumnMat
        numActiveMatPerRow := h.numActiveMatPerRow.one_le_of_limit hloops.numActiveMatPerRow
        numActiveMatPerColumn :=
          h.numActiveMatPerColumn.one_le_of_limit hloops.numActiveMatPerColumn
        numRowSubarray := h.numRowSubarray.bounded hloops.numRowSubarray
        numColumnSubarray := h.numColumnSubarray.bounded hloops.numColumnSubarray
        numActiveSubarrayPerRow :=
          h.numActiveSubarrayPerRow.one_le_of_limit hloops.numActiveSubarrayPerRow
        numActiveSubarrayPerColumn :=
          h.numActiveSubarrayPerColumn.one_le_of_limit hloops.numActiveSubarrayPerColumn
        muxSenseAmp := h.muxSenseAmp.bounded hloops.muxSenseAmp
        muxOutputLev1 := h.muxOutputLev1.bounded hloops.muxOutputLev1
        muxOutputLev2 := h.muxOutputLev2.bounded hloops.muxOutputLev2
        numRowPerSet := by
          have hlast := hloops.numRowPerSet
          rw [h.numRowPerSet] at hlast ⊢
          exact ⟨le_rfl, hlast.lt_of_one⟩ }
  · intro hbounded overflow
    have harea : space.areaOptimizationLevel.max < 2 ^ 30 :=
      h.areaOptimizationLevel.trans_lt (by decide)
    exact ⟨space.enoughFuel, (enumeratesOnce_bigForInt hbounded harea overflow le_rfl).isSome⟩

end SearchSpace

/-! ## The file -/

theorem SearchSpace.read_restored (associativity : ℤ) :
    (SearchSpace.restored associativity).Read := by
  refine ⟨?_, ?_, ?_, ?_, ?_, ?_, ?_, ?_, ?_, ?_, ?_, rfl, le_rfl⟩
  all_goals exact Range.read_default (by decide) (by decide)

theorem SearchSpace.read_reduced : SearchSpace.reduced.Read := by
  refine ⟨?_, ?_, ?_, ?_, ?_, ?_, ?_, ?_, ?_, ?_, ?_, rfl, le_rfl⟩
  all_goals exact Range.read_default (by decide) (by decide)

namespace InputParameter

variable {K : Type} {ip ip₀ : InputParameter K}

theorem read_readLine (h : ip.toSearchSpace.Read) (line : ConfigLine K) :
    (ip.readLine line).toSearchSpace.Read := by
  cases line with
  | designTarget tmp =>
      refine { h with numRowPerSet := ?_ }
      show (if tmp = "cache" then ip.numRowPerSet else .only 1).min = 1
      split
      · exact h.numRowPerSet
      · rfl
  | forceBank rowMat columnMat activeMatPerColumn activeMatPerRow =>
      exact
        { h with
          numRowMat := Range.read_only _
          numColumnMat := Range.read_only _
          numActiveMatPerColumn := Range.read_only _
          numActiveMatPerRow := Range.read_only _ }
  | forceMat rowSubarray columnSubarray activeSubarrayPerColumn activeSubarrayPerRow =>
      exact
        { h with
          numRowSubarray := Range.read_only _
          numColumnSubarray := Range.read_only _
          numActiveSubarrayPerColumn := Range.read_only _
          numActiveSubarrayPerRow := Range.read_only _ }
  | forceMuxSenseAmp value => exact { h with muxSenseAmp := Range.read_only _ }
  | forceMuxOutputLev1 value => exact { h with muxOutputLev1 := Range.read_only _ }
  | forceMuxOutputLev2 value => exact { h with muxOutputLev2 := Range.read_only _ }
  | useCactiAssumption tmp =>
      unfold readLine
      dsimp only
      split
      · exact
          { h with
            numActiveMatPerRow := Range.read_only _
            numActiveMatPerColumn := Range.read_only _
            numRowSubarray := Range.read_only _
            numColumnSubarray := Range.read_only _
            numActiveSubarrayPerRow := Range.read_only _
            numActiveSubarrayPerColumn := Range.read_only _ }
      · exact h
  | bufferDesignOptimization tmp =>
      refine { h with areaOptimizationLevel := ?_ }
      show BufferDesignTarget.ofWord tmp ≤ 2
      unfold BufferDesignTarget.ofWord
      split_ifs <;> decide
-- the other lines force no range
  | _ => exact { h with numRowPerSet := h.numRowPerSet }

theorem read_readInputParameterFromFile (file : List (ConfigLine K))
    (h : ip.toSearchSpace.Read) : (ip.readInputParameterFromFile file).toSearchSpace.Read := by
  induction file generalizing ip with
  | nil => exact h
  | cons line file ih => exact ih (read_readLine h line)

/-- An accepted configuration has the ranges of its file. -/
theorem read_configure {file : List (ConfigLine K)} {memCellType : MemCellType}
    (h : configure file memCellType ip₀ = .ok ip) : ip.toSearchSpace.Read := by
  have hrestored : ip₀.restoreSearchSize.toSearchSpace.Read :=
    SearchSpace.read_restored ip₀.associativity
  have hfile := read_readInputParameterFromFile file hrestored
  obtain ⟨-, -, -, -, ⟨-, rfl⟩ | ⟨-, rfl⟩⟩ := applyConstraint_eq_some (orHalt_eq_ok.1 h)
  · exact hfile
  · exact hfile

theorem read_dataSpace (h : ip.toSearchSpace.Read) : ip.dataSpace.Read := by
  unfold dataSpace
  split
  · exact { h with numRowPerSet := rfl }
  · exact h

end InputParameter

variable {K : Type}

theorem read_enumeratedSpaces {file : List (ConfigLine K)} {memCellType : MemCellType}
    {ip : InputParameter K} {spaces : List (SearchSpace × ℤ)}
    (h : enumeratedSpaces file memCellType ip = .ok spaces) :
    ∀ space ∈ spaces, space.1.Read := by
  unfold enumeratedSpaces at h
  obtain ⟨read, hread, h⟩ := bind_eq_ok.1 h
  split at h
  · obtain ⟨again, hagain, h⟩ := bind_eq_ok.1 h
    obtain rfl := Except.ok.inj h
    intro space hspace
    rcases List.mem_pair.1 hspace with rfl | rfl
    · exact SearchSpace.read_reduced
    · exact InputParameter.read_dataSpace (InputParameter.read_configure hagain)
  · obtain rfl := Except.ok.inj h
    intro space hspace
    obtain rfl := List.mem_singleton.1 hspace
    exact InputParameter.read_dataSpace (InputParameter.read_configure hread)

/-- The enumerations of an accepted configuration end, whatever an overflow delivers, if and
only if no loop starts below one or reaches `2 ^ 30`. -/
theorem enumerations_end_iff {file : List (ConfigLine K)} {memCellType : MemCellType}
    {ip : InputParameter K} {spaces : List (SearchSpace × ℤ)}
    (h : enumeratedSpaces file memCellType ip = .ok spaces) :
    (∀ space ∈ spaces, space.1.Ends space.2) ↔ ∀ space ∈ spaces, space.1.Bounded space.2 := by
  have hread := read_enumeratedSpaces h
  exact forall₂_congr fun space hspace => (hread space hspace).ends_iff space.2

/-- The enumeration of a RAM of which only the target is given ends. -/
theorem enumerations_end_ram :
    ∃ spaces, enumeratedSpaces [.designTarget "RAM"] .sram
        ({ toSettings := .new 0 0 .hp "" 300, toSearchSpace := .reduced } : InputParameter ℚ) =
          .ok spaces ∧ ∀ space ∈ spaces, space.1.Ends space.2 := by
  obtain ⟨space, hspace, hbounded⟩ : ∃ space, enumeratedSpaces [.designTarget "RAM"] .sram
      ({ toSettings := .new 0 0 .hp "" 300, toSearchSpace := .reduced } : InputParameter ℚ) =
        .ok [space] ∧ space.1.Bounded space.2 := by
    refine ⟨_, rfl, ?_⟩
    constructor <;> first | exact ⟨by decide, by decide⟩ | decide
  refine ⟨[space], hspace, (enumerations_end_iff hspace).2 fun space' hmem => ?_⟩
  obtain rfl := List.mem_singleton.1 hmem
  exact hbounded

/-- A loop from zero to zero is endless. -/
theorem Range.doubled_zero (overflow : ℤ → ℤ) (fuel : ℕ) :
    (Range.only 0).doubled overflow fuel = none :=
  walk_eq_none (I := fun x => x = 0) (fun _ hx => hx.le) (fun x hx => by rw [hx]; rfl) rfl fuel

/-- The loop variables for the mats and subarrays are between the bounds of their loops. -/
structure IntCandidate.Within (space : SearchSpace) (c : IntCandidate) : Prop where
  numRowMat : c.numRowMat ∈ Set.Icc space.numRowMat.min space.numRowMat.max
  numColumnMat : c.numColumnMat ∈ Set.Icc space.numColumnMat.min space.numColumnMat.max
  numActiveMatPerRow : c.numActiveMatPerRow ∈
    Set.Icc (space.numActiveMatPerRow.limit c.numColumnMat).min
      (space.numActiveMatPerRow.limit c.numColumnMat).max
  numActiveMatPerColumn : c.numActiveMatPerColumn ∈
    Set.Icc (space.numActiveMatPerColumn.limit c.numRowMat).min
      (space.numActiveMatPerColumn.limit c.numRowMat).max
  numRowSubarray : c.numRowSubarray ∈ Set.Icc space.numRowSubarray.min space.numRowSubarray.max
  numColumnSubarray : c.numColumnSubarray ∈
    Set.Icc space.numColumnSubarray.min space.numColumnSubarray.max
  numActiveSubarrayPerRow : c.numActiveSubarrayPerRow ∈
    Set.Icc (space.numActiveSubarrayPerRow.limit c.numColumnSubarray).min
      (space.numActiveSubarrayPerRow.limit c.numColumnSubarray).max
  numActiveSubarrayPerColumn : c.numActiveSubarrayPerColumn ∈
    Set.Icc (space.numActiveSubarrayPerColumn.limit c.numRowSubarray).min
      (space.numActiveSubarrayPerColumn.limit c.numRowSubarray).max

theorem Range.limit_only_self (n : ℤ) : (Range.only n).limit n = .only n := by
  rw [Range.limit, Range.only, min_self]

theorem Range.mem_only {n x : ℤ} (h : x ∈ Set.Icc (Range.only n).min (Range.only n).max) :
    x = n := le_antisymm h.2 h.1

/-- A RAM of words of eight bits, of which 64 active subarrays are forced. -/
def skippedRam : List (ConfigLine ℚ) :=
  [.designTarget "RAM", .wordWidth (some 8), .forceBank (some 4) (some 4) (some 4) (some 4),
    .forceMat (some 2) (some 2) (some 2) (some 2), .forceMuxSenseAmp (some 0)]

/-- With a multiplexer degree of zero the loop over it never ends.  Each time its body is left
at once, because the partitioning is too aggressive for the words. -/
theorem endless_of_muxSenseAmp_zero :
    ∃ ip space, configure skippedRam .sram
        { toSettings := .new 0 0 .hp "" 300, toSearchSpace := .reduced } = .ok ip ∧
      enumeratedSpaces skippedRam .sram
        { toSettings := .new 0 0 .hp "" 300, toSearchSpace := .reduced } = .ok [space] ∧
      (∀ overflow fuel, bigForInt overflow fuel space.1 space.2 = none) ∧
      ∀ c : IntCandidate, c.Within space.1 →
        c.toCandidate.dataArgs (dataArray ip.toSettings .sram) ip.internalSensing = none := by
  obtain ⟨ip, space, hconfigure, hspace, hmux, hblock, hrow, hcolumn, hactiveRow, hactiveColumn,
      hsubRow, hsubColumn, hactiveSubRow, hactiveSubColumn⟩ :
      ∃ ip space, configure skippedRam .sram
          { toSettings := .new 0 0 .hp "" 300, toSearchSpace := .reduced } = .ok ip ∧
        enumeratedSpaces skippedRam .sram
          { toSettings := .new 0 0 .hp "" 300, toSearchSpace := .reduced } = .ok [space] ∧
        space.1.muxSenseAmp = .only 0 ∧ (dataArray ip.toSettings .sram).blockSize = 8 ∧
        space.1.numRowMat = .only 4 ∧ space.1.numColumnMat = .only 4 ∧
        space.1.numActiveMatPerRow = .only 4 ∧ space.1.numActiveMatPerColumn = .only 4 ∧
        space.1.numRowSubarray = .only 2 ∧ space.1.numColumnSubarray = .only 2 ∧
        space.1.numActiveSubarrayPerRow = .only 2 ∧
        space.1.numActiveSubarrayPerColumn = .only 2 :=
    ⟨_, _, rfl, rfl, rfl, rfl, rfl, rfl, rfl, rfl, rfl, rfl, rfl, rfl⟩
  refine ⟨ip, space, hconfigure, hspace, fun overflow fuel => ?_, fun c hc => ?_⟩
  · have hread := read_enumeratedSpaces hspace space (List.mem_singleton_self space)
    by_contra hnest
    have hloop := (hread.everyLoop (Option.isSome_iff_ne_none.2 hnest)).muxSenseAmp
    rw [hmux, Range.doubled_zero] at hloop
    cases hloop
  · -- 4 * 4 active mats with 2 * 2 active subarrays each
    obtain ⟨hc₁, hc₂, hc₃, hc₄, hc₅, hc₆, hc₇, hc₈⟩ := hc
    rw [hrow] at hc₁
    rw [hcolumn] at hc₂
    rw [hsubRow] at hc₅
    rw [hsubColumn] at hc₆
    rw [Range.mem_only hc₂, hactiveRow, Range.limit_only_self] at hc₃
    rw [Range.mem_only hc₁, hactiveColumn, Range.limit_only_self] at hc₄
    rw [Range.mem_only hc₆, hactiveSubRow, Range.limit_only_self] at hc₇
    rw [Range.mem_only hc₅, hactiveSubColumn, Range.limit_only_self] at hc₈
    have hactive : c.toCandidate.numActive = 64 := by
      unfold Candidate.numActive IntCandidate.toCandidate
      rw [Range.mem_only hc₃, Range.mem_only hc₄, Range.mem_only hc₇, Range.mem_only hc₈]
      rfl
    rw [Candidate.dataArgs, hblock, hactive]
    rfl

end NVSim
