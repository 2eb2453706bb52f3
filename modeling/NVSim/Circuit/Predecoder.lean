import Mathlib.Tactic.IntervalCases
import NVSim.Library.Maximum
import NVSim.Model.PredecodeBlock

/-!
# The evaluations of a predecoder block

The latency of a block is compared with its longest path, and its leakage with the
leakages of the components it lays out.  Both are stated over the layout of the block:
what its sub-objects held before an evaluation does not count.

`CalculateLatency` adds the latency of decoder `A1` on the path of decoder `A2`.
`CalculatePower` adds one copy of each basic decoder, and for stage 2 what the object
holds, since it does not call its `CalculatePower`.
-/

namespace NVSim

open Library

variable {K : Type}

/-! ## Paths -/

/-- A path through a block: a basic decoder, and the row decoders behind it. -/
structure PredecodePath (K : Type) where
  basic : BasicDecoder K
  stages : List (RowDecoder K)

/-- The delay of a chain of row decoders, each driven by the ramp of the one before it. -/
def rowDelay [Field K] (m : DecoderModels K) : K → List (RowDecoder K) → K
  | _, [] => 0
  | ramp, d :: stages => (m.rowLatency d ramp).1 + rowDelay m (m.rowLatency d ramp).2 stages

/-- The delay of a path whose basic decoder is charged with `delay`. -/
def PredecodePath.chargedDelay [Field K] (m : DecoderModels K) (rampInput delay : K)
    (p : PredecodePath K) : K :=
  delay + rowDelay m (m.basicLatency p.basic rampInput).2 p.stages

/-- The delay of a path: that of its own basic decoder and of the stages behind it. -/
def PredecodePath.delay [Field K] (m : DecoderModels K) (rampInput : K) (p : PredecodePath K) :
    K :=
  p.chargedDelay m rampInput (m.basicLatency p.basic rampInput).1

/-- The row decoders behind a basic decoder. -/
def stagesBehind {Row : Type} (stage1 stage2 : Option Row) : List Row :=
  stage1.elim [] fun d => d :: stage2.toList

namespace PredecodeUnits

variable (u : PredecodeUnits (RowDecoder K) (BasicDecoder K))

def pathA1 : Option (PredecodePath K) :=
  u.basicDecoderA1.map fun d => ⟨d, stagesBehind u.rowDecoderStage1A u.rowDecoderStage2⟩

def pathA2 : Option (PredecodePath K) :=
  u.basicDecoderA2.map fun d => ⟨d, stagesBehind u.rowDecoderStage1A u.rowDecoderStage2⟩

def pathB : Option (PredecodePath K) :=
  u.basicDecoderB.map fun d => ⟨d, stagesBehind u.rowDecoderStage1B u.rowDecoderStage2⟩

def pathC : Option (PredecodePath K) :=
  u.basicDecoderC.map fun d => ⟨d, stagesBehind u.rowDecoderStage1C u.rowDecoderStage2⟩

/-- The paths other than `A2`. -/
def otherPaths : List (PredecodePath K) :=
  u.pathA1.toList ++ u.pathB.toList ++ u.pathC.toList

/-- The paths that exist. -/
def paths : List (PredecodePath K) := u.pathA2.toList ++ u.otherPaths

/-- The delay that `CalculateLatency` charges path `A2` with: the latency of decoder `A1`
in place of its own. -/
def chargedA2 [Field K] (m : DecoderModels K) (rampInput : K) (p : PredecodePath K) : K :=
  p.chargedDelay m rampInput (u.basicDecoderA1.elim 0 fun d => (m.basicLatency d rampInput).1)

end PredecodeUnits

namespace PredecodeBlock

/-! ## The latency that is computed -/

section Latency

variable [Field K] (m : DecoderModels K)

theorem throughStages_delay (delay ramp : K)
    (stage1 stage2 : Option (Component (RowDecoder K) K)) :
    (throughStages m delay ramp stage1 stage2).delay =
      delay + rowDelay m ramp (stagesBehind (stage1.map Component.part)
        (stage2.map Component.part)) := by
  cases stage1 with
  | none => simp [throughStages, stagesBehind, rowDelay]
  | some d =>
      cases stage2 with
      | none => simp [throughStages, stagesBehind, rowDelay]
      | some e => simp [throughStages, stagesBehind, rowDelay, add_assoc]

/-- Passing a row decoder does not change what its `Initialize` stored. -/
theorem throughStages_parts (delay ramp : K)
    (stage1 stage2 : Option (Component (RowDecoder K) K)) :
    (throughStages m delay ramp stage1 stage2).stage1.map Component.part =
        stage1.map Component.part ∧
      (throughStages m delay ramp stage1 stage2).stage2.map Component.part =
        stage2.map Component.part := by
  cases stage1 <;> cases stage2 <;> simp [throughStages]

theorem alongPath_parts (basic : Option (Component (BasicDecoder K) K)) (delay : K)
    (stage1 stage2 : Option (Component (RowDecoder K) K)) :
    (alongPath m basic delay stage1 stage2).stage1.map Component.part =
        stage1.map Component.part ∧
      (alongPath m basic delay stage1 stage2).stage2.map Component.part =
        stage2.map Component.part := by
  cases basic with
  | none => simp [alongPath]
  | some d => exact throughStages_parts m _ _ _ _

/-- The delay along a path: its stages, behind what is charged for its basic decoder. -/
theorem alongPath_delay (rampInput delay : K) (basic : Option (Component (BasicDecoder K) K))
    (stage1 stage2 : Option (Component (RowDecoder K) K)) :
    (alongPath m (basic.map fun d => d.timed (m.basicLatency d.part rampInput)) delay
        stage1 stage2).delay =
      ((basic.map Component.part).map fun d => PredecodePath.mk d
        (stagesBehind (stage1.map Component.part) (stage2.map Component.part))).elim 0
        (PredecodePath.chargedDelay m rampInput delay) := by
  cases basic with
  | none => rfl
  | some d => simp [alongPath, throughStages_delay, PredecodePath.chargedDelay]

/-- The latency a basic decoder holds after its `CalculateLatency`. -/
theorem latencyOf_timed (rampInput : K) (basic : Option (Component (BasicDecoder K) K)) :
    latencyOf (basic.map fun d => d.timed (m.basicLatency d.part rampInput)) =
      (basic.map Component.part).elim 0 fun d => (m.basicLatency d rampInput).1 := by
  cases basic <;> rfl

/-- A path charged with the latency of its own basic decoder has its own delay. -/
theorem alongPath_own_delay (rampInput : K) (basic : Option (Component (BasicDecoder K) K))
    (stage1 stage2 : Option (Component (RowDecoder K) K)) :
    (alongPath m (basic.map fun d => d.timed (m.basicLatency d.part rampInput))
        (latencyOf (basic.map fun d => d.timed (m.basicLatency d.part rampInput)))
        stage1 stage2).delay =
      ((basic.map Component.part).map fun d => PredecodePath.mk d
        (stagesBehind (stage1.map Component.part) (stage2.map Component.part))).elim 0
        (PredecodePath.delay m rampInput) := by
  rw [alongPath_delay]
  cases basic <;> rfl

variable [LinearOrder K]

/-- The computed latency is the largest of zero and the charged delays. -/
theorem calculateLatency_readLatency (rampInput : K) (b : PredecodeBlock K)
    (hPositive : 0 < b.numAddressBit) :
    (b.calculateLatency m rampInput).readLatency =
      max (max (max (max 0 (b.layout.pathA1.elim 0 (PredecodePath.delay m rampInput)))
            (b.layout.pathA2.elim 0 (b.layout.chargedA2 m rampInput)))
          (b.layout.pathB.elim 0 (PredecodePath.delay m rampInput)))
        (b.layout.pathC.elim 0 (PredecodePath.delay m rampInput)) := by
  have hNonzero : b.numAddressBit ≠ 0 := hPositive.ne'
  simp only [calculateLatency, if_neg hNonzero, PredecodeUnits.map, Option.map_id, id_eq,
    alongPath_own_delay]
  simp only [alongPath_delay, latencyOf_timed, alongPath_parts]
  rfl

end Latency

/-! ## The longest path -/

section LongestPath

variable [Field K] [LinearOrder K] (m : DecoderModels K)

/-- The delays of some paths. -/
def delays (rampInput : K) (paths : List (PredecodePath K)) : Set K :=
  {d | ∃ p ∈ paths, p.delay m rampInput = d}

/-- One more path. -/
theorem isGreatest_delays_append (rampInput : K) (paths : List (PredecodePath K))
    (path : Option (PredecodePath K)) {M : K}
    (h : IsGreatest (insert 0 (delays m rampInput paths)) M) :
    IsGreatest (insert 0 (delays m rampInput (paths ++ path.toList)))
      (max M (path.elim 0 (PredecodePath.delay m rampInput))) := by
  cases path with
  | none =>
      have hZero : 0 ≤ M := h.2 (Set.mem_insert 0 _)
      simpa [max_eq_left hZero] using h
  | some p =>
      have hSplit : insert 0 (delays m rampInput (paths ++ (some p).toList)) =
          insert (p.delay m rampInput) (insert 0 (delays m rampInput paths)) := by
        ext x
        simp [delays]
        grind
      rw [hSplit, max_comm]
      exact h.insert _

/-- The maximum of zero and the delays of the paths other than `A2`. -/
theorem isGreatest_otherPaths (rampInput : K)
    (u : PredecodeUnits (RowDecoder K) (BasicDecoder K)) :
    IsGreatest (insert 0 (delays m rampInput u.otherPaths))
      (max (max (max 0 (u.pathA1.elim 0 (PredecodePath.delay m rampInput)))
          (u.pathB.elim 0 (PredecodePath.delay m rampInput)))
        (u.pathC.elim 0 (PredecodePath.delay m rampInput))) := by
  have hNone : IsGreatest (insert 0 (delays m rampInput [])) 0 := by
    simp [delays]
  exact isGreatest_delays_append m rampInput _ _
    (isGreatest_delays_append m rampInput _ _ (isGreatest_delays_append m rampInput [] _ hNone))

/-- The latency is the longest path if some path has a delay of at least zero, and the
latency that is charged for decoder `A2` is its own or does not matter. -/
theorem calculateLatency_isGreatest_iff (g : Globals K) (unset numAddressBit : ℕ)
    (capLoad resLoad rampInput : K) (b : PredecodeBlock K) (hPositive : 0 < numAddressBit)
    (hInit : initializePredecodeBlock g unset numAddressBit capLoad resLoad = some b) :
    IsGreatest (delays m rampInput b.layout.paths)
        (b.calculateLatency m rampInput).readLatency ↔
      (∃ p ∈ b.layout.paths, 0 ≤ p.delay m rampInput) ∧
        ∀ p ∈ b.layout.pathA2,
          b.layout.chargedA2 m rampInput p = p.delay m rampInput ∨
            ∃ d, (d = 0 ∨ ∃ q ∈ b.layout.otherPaths, q.delay m rampInput = d) ∧
              p.delay m rampInput ≤ d ∧ b.layout.chargedA2 m rampInput p ≤ d := by
  have hBits : 0 < b.numAddressBit := by
    rwa [(initializePredecodeBlock_layout hInit).2.2.1]
  have hOther := isGreatest_otherPaths m rampInput b.layout
  rw [calculateLatency_readLatency m rampInput b hBits]
  cases hA2 : b.layout.pathA2 with
  | none =>
      have hPaths : b.layout.paths = b.layout.otherPaths := by
        simp [PredecodeUnits.paths, hA2]
      have hMax : ∀ x : K, max (max 0 x) 0 = max 0 x := fun x => max_eq_left (le_max_left 0 x)
      simp only [Option.elim_none, hMax, hPaths]
      rw [isGreatest_of_insert_zero hOther]
      simp [delays]
  | some p =>
      have hPaths : delays m rampInput b.layout.paths =
          insert (p.delay m rampInput) (delays m rampInput b.layout.otherPaths) := by
        ext d
        simp [PredecodeUnits.paths, hA2, delays, eq_comm]
      have hOrder : ∀ w x y z : K, max (max (max w x) y) z = max (max (max w y) z) x := by
        intro w x y z
        rw [max_right_comm w x y, max_right_comm _ x z]
      simp only [Option.elim_some]
      rw [hOrder, hPaths, isGreatest_max_iff hOther]
      simp [PredecodeUnits.paths, hA2, delays, eq_comm]

end LongestPath

/-- Decoder models in which a decoder takes longer the more inputs its gates have, for
examples. -/
def inputsLatency : DecoderModels ℚ where
  basicArea := fun _ => (1, 1)
  rowArea := fun _ => (1, 1)
  basicLatency := fun d _ => (d.numNandInput, 0)
  rowLatency := fun _ _ => (1, 0)
  basicPower := fun _ => (1, 1)
  rowPower := fun _ => (1, 1)

/-- Decoder models in which a decoder is the faster the more inputs its gates have, for
examples. -/
def reversedLatency : DecoderModels ℚ :=
  { inputsLatency with basicLatency := fun d _ => (5 - d.numNandInput, 0) }

/-- Five address bits go to a 2-4 decoder and a 3-8 decoder.  Where the first one is the
slower, its path is the longest, and what path `A2` is charged with does not matter. -/
theorem calculateLatency_fiveBits :
    ∃ b, initializePredecodeBlock (.small .small) 0 5 1 1 = some b ∧
      b.layout.pathA2.isSome ∧
      IsGreatest (delays reversedLatency 0 b.layout.paths)
        (b.calculateLatency reversedLatency 0).readLatency := by
  refine ⟨_, rfl, rfl, (calculateLatency_isGreatest_iff reversedLatency (.small .small) 0 5 1 1 0
    _ (by decide) rfl).mpr ⟨⟨_, List.mem_cons_self, by decide +kernel⟩, fun p hp => .inr ?_⟩⟩
  cases Option.some.inj (Option.mem_def.mp hp)
  exact ⟨_, .inr ⟨_, List.mem_cons_self, rfl⟩, by decide +kernel, by decide +kernel⟩

/-- Five address bits go to a 2-4 decoder and a 3-8 decoder, and the latency of the
first one is charged for both. -/
theorem calculateLatency_fiveBits_short :
    ∃ b, initializePredecodeBlock (.small .small) 0 5 1 1 = some b ∧
      (b.calculateLatency inputsLatency 0).readLatency = 3 ∧
      ¬ IsGreatest (delays inputsLatency 0 b.layout.paths)
          (b.calculateLatency inputsLatency 0).readLatency := by
  refine ⟨_, rfl, by decide +kernel, ?_⟩
  intro hGreatest
  have hBound := hGreatest.2 ⟨_, List.mem_cons_self, rfl⟩
  exact absurd hBound (by decide +kernel)

end PredecodeBlock

/-! ## Lists of components -/

namespace PredecodeUnits

section Map

variable {Row Basic Row' Basic' : Type} (row : Row → Row') (basic : Basic → Basic')
  (u : PredecodeUnits Row Basic)

theorem basicDecoders_map :
    (u.map row basic).basicDecoders = u.basicDecoders.map fun d => (d.1, basic d.2) := by
  unfold basicDecoders map
  cases u.basicDecoderA1 with
  | none => rfl
  | some a1 =>
      cases u.basicDecoderA2 <;> cases u.basicDecoderB <;> cases u.basicDecoderC <;> simp

theorem stage1Decoders_map : (u.map row basic).stage1Decoders = u.stage1Decoders.map row := by
  unfold stage1Decoders map
  cases u.rowDecoderStage1A with
  | none => rfl
  | some a => cases u.rowDecoderStage1B <;> cases u.rowDecoderStage1C <;> simp

theorem stage2Decoder_map : (u.map row basic).stage2Decoder = u.stage2Decoder.map row := by
  unfold stage2Decoder map
  cases u.rowDecoderStage1A <;> rfl

end Map

variable [Field K] [LinearOrder K]

/-- Stage 2 exists from ten address bits on. -/
theorem isSome_stage2Decoder (g : Globals K) (unset numAddressBit : ℕ) (capLoad resLoad : K)
    (hBound : numAddressBit ≤ 27) :
    (predecodeUnits g unset numAddressBit capLoad resLoad).stage2Decoder.isSome =
      decide (9 < numAddressBit) := by
  interval_cases numAddressBit <;> rfl

/-- The address bits for which there is a path `A2`. -/
theorem isSome_pathA2 (g : Globals K) (unset numAddressBit : ℕ) (capLoad resLoad : K)
    (hBound : numAddressBit ≤ 18) :
    (predecodeUnits g unset numAddressBit capLoad resLoad).pathA2.isSome =
      decide (numAddressBit ∈ [5, 7, 8, 11, 13, 14, 16, 17]) := by
  interval_cases numAddressBit <;> rfl

end PredecodeUnits

/-! ## Leakage -/

namespace PredecodeUnits

variable [Field K] (m : DecoderModels K) (u : PredecodeUnits (RowDecoder K) (BasicDecoder K))

/-- The leakage of all components that are laid out: of each basic decoder as many copies
as `CalculateArea` counts, and of each row decoder one. -/
def leakage : K :=
  (u.basicDecoders.map fun d => (d.1 : K) * (m.basicPower d.2).1).sum +
    (u.stage1Decoders.map fun d => (m.rowPower d).1).sum +
    u.stage2Decoder.elim 0 fun d => (m.rowPower d).1

/-- The leakage of the copies of basic decoders beyond the first one of each. -/
def extraLeakage : K :=
  (u.basicDecoders.map fun d => ((d.1 : K) - 1) * (m.basicPower d.2).1).sum

/-- The leakages of the components, one of each but stage 2. -/
def singleLeakage : K :=
  (u.basicDecoders.map fun d => (m.basicPower d.2).1).sum +
    (u.stage1Decoders.map fun d => (m.rowPower d).1).sum

theorem leakage_eq :
    u.leakage m =
      u.singleLeakage m + u.extraLeakage m + u.stage2Decoder.elim 0 fun d => (m.rowPower d).1 := by
  have hCopies : (u.basicDecoders.map fun d => (d.1 : K) * (m.basicPower d.2).1).sum =
      (u.basicDecoders.map fun d => (m.basicPower d.2).1).sum + u.extraLeakage m := by
    rw [extraLeakage, ← List.sum_map_add]
    congr 1
    exact List.map_congr_left fun d _ => by ring
  rw [leakage, singleLeakage, hCopies]
  ring

end PredecodeUnits

namespace PredecodeBlock

/-- A block with the same components, whatever its objects hold. -/
def SameLayout (b b' : PredecodeBlock K) : Prop :=
  b'.numAddressBit = b.numAddressBit ∧ b'.layout = b.layout

/-- The block with another leakage in the object of stage 2. -/
def withStage2Leakage (x : K) (b : PredecodeBlock K) : PredecodeBlock K :=
  { b with units := { b.units with
      rowDecoderStage2 := b.units.rowDecoderStage2.map fun d => { d with leakage := x } } }

theorem sameLayout_withStage2Leakage (x : K) (b : PredecodeBlock K) :
    SameLayout b (b.withStage2Leakage x) := by
  constructor
  · rfl
  · cases hStage2 : b.units.rowDecoderStage2 <;>
      simp [layout, withStage2Leakage, PredecodeUnits.map, hStage2]

variable [Field K] (m : DecoderModels K)

/-- The computed leakage: one of each component, and for stage 2 what its object holds. -/
theorem calculatePower_leakage (b : PredecodeBlock K) (hPositive : 0 < b.numAddressBit) :
    (b.calculatePower m).leakage =
      b.layout.singleLeakage m + b.units.stage2Decoder.elim 0 fun d => d.leakage := by
  have hNonzero : b.numAddressBit ≠ 0 := hPositive.ne'
  let u := b.units.map (powered m.rowPower) (powered m.basicPower)
  have hBasic : (u.basicDecoders.map fun d => d.2.leakage).sum =
      (b.layout.basicDecoders.map fun d => (m.basicPower d.2).1).sum := by
    simp only [u, layout, PredecodeUnits.basicDecoders_map, List.map_map]
    rfl
  have hStage1 : (u.stage1Decoders.map fun d => d.leakage).sum =
      (b.layout.stage1Decoders.map fun d => (m.rowPower d).1).sum := by
    simp only [u, layout, PredecodeUnits.stage1Decoders_map, List.map_map]
    rfl
  have hStage2 : ({ u with rowDecoderStage2 := b.units.rowDecoderStage2 } :
      PredecodeUnits _ _).stage2Decoder = b.units.stage2Decoder := by
    cases hA : b.units.rowDecoderStage1A <;>
      simp [u, PredecodeUnits.stage2Decoder, PredecodeUnits.map, hA]
  rw [calculatePower, if_neg hNonzero, PredecodeUnits.singleLeakage, ← hBasic, ← hStage1,
    ← hStage2]
  rfl

/-- After `CalculatePower` the leakage is that of all components that are laid out,
whatever the objects held before. -/
def LeakageAccounted (b : PredecodeBlock K) : Prop :=
  ∀ b', SameLayout b b' → (b'.calculatePower m).leakage = b.layout.leakage m

/-- With a stage 2 the leakage depends on what its object held. -/
theorem stage2_none_of_leakageAccounted {b : PredecodeBlock K} (hPositive : 0 < b.numAddressBit)
    (h : LeakageAccounted m b) : b.layout.stage2Decoder = none := by
  cases hA : b.units.rowDecoderStage1A with
  | none => simp [layout, PredecodeUnits.stage2Decoder, PredecodeUnits.map, hA]
  | some a =>
      cases hStage2 : b.units.rowDecoderStage2 with
      | none => simp [layout, PredecodeUnits.stage2Decoder, PredecodeUnits.map, hStage2]
      | some d =>
          have hHeld (x : K) : b.layout.singleLeakage m + x = b.layout.leakage m := by
            have hSame := sameLayout_withStage2Leakage x b
            have hPower := calculatePower_leakage m (b.withStage2Leakage x) hPositive
            rw [hSame.2] at hPower
            rw [← h _ hSame, hPower]
            simp [withStage2Leakage, PredecodeUnits.stage2Decoder, hA, hStage2]
          have hEq : (0 : K) = 1 := add_left_cancel ((hHeld 0).trans (hHeld 1).symm)
          exact absurd hEq zero_ne_one

/-- Without a stage 2 the leakage is one of each component. -/
theorem leakage_of_stage2_none {b : PredecodeBlock K} (hPositive : 0 < b.numAddressBit)
    (hNone : b.layout.stage2Decoder = none) :
    (b.calculatePower m).leakage = b.layout.singleLeakage m := by
  rw [layout, PredecodeUnits.stage2Decoder_map, Option.map_eq_none_iff] at hNone
  rw [calculatePower_leakage m b hPositive, hNone]
  simp

/-- The leakage accounts for every component that is laid out if and only if there is no
stage 2 and the further copies of the basic decoders do not leak in sum. -/
theorem calculatePower_accounts_iff [LinearOrder K] (g : Globals K) (unset numAddressBit : ℕ)
    (capLoad resLoad : K) (b : PredecodeBlock K) (hPositive : 0 < numAddressBit)
    (hInit : initializePredecodeBlock g unset numAddressBit capLoad resLoad = some b) :
    LeakageAccounted m b ↔ numAddressBit ≤ 9 ∧ b.layout.extraLeakage m = 0 := by
  obtain ⟨hLimit, -, hBits, hLayout⟩ := initializePredecodeBlock_layout hInit
  have hBlock : 0 < b.numAddressBit := hBits ▸ hPositive
  have hStage2 : b.layout.stage2Decoder = none ↔ numAddressBit ≤ 9 := by
    rw [← Option.not_isSome_iff_eq_none, hLayout,
      PredecodeUnits.isSome_stage2Decoder g unset numAddressBit capLoad resLoad hLimit]
    simp
  constructor
  · intro h
    have hNone := stage2_none_of_leakageAccounted m hBlock h
    have hComputed := leakage_of_stage2_none m hBlock hNone
    have hEq := h b ⟨rfl, rfl⟩
    rw [hComputed, PredecodeUnits.leakage_eq, hNone] at hEq
    exact ⟨hStage2.mp hNone, by simpa using hEq⟩
  · intro ⟨hNine, hExtra⟩ b' hSame
    have hNone := hStage2.mpr hNine
    rw [leakage_of_stage2_none m (hSame.1 ▸ hBlock) (hSame.2 ▸ hNone), hSame.2,
      PredecodeUnits.leakage_eq, hExtra, hNone]
    simp

theorem calculatePower_fiveBits :
    ∃ b, initializePredecodeBlock (.small .small) 0 5 1 1 = some b ∧
      (LeakageAccounted inputsLatency b ↔ 5 ≤ 9 ∧ b.layout.extraLeakage inputsLatency = 0) :=
  ⟨_, rfl, calculatePower_accounts_iff inputsLatency (.small .small) 0 5 1 1 _ (by decide) rfl⟩

/-- Four address bits go to two copies of a 2-4 decoder and to a row decoder.  Three
components leak, and two of them are added up. -/
theorem calculatePower_fourBits_short :
    ∃ b, initializePredecodeBlock (.small .small) 0 4 1 1 = some b ∧
      (b.calculatePower inputsLatency).leakage = 2 ∧ b.layout.leakage inputsLatency = 3 ∧
      ¬ LeakageAccounted inputsLatency b := by
  refine ⟨_, rfl, by decide +kernel, by decide +kernel, ?_⟩
  intro hAccounted
  exact absurd (hAccounted _ ⟨rfl, rfl⟩) (by decide +kernel)

/-- If every basic decoder leaks, the block has a single copy of each for these address
bits only. -/
theorem extraLeakage_eq_zero_iff [LinearOrder K] [IsStrictOrderedRing K] (g : Globals K)
    (unset numAddressBit : ℕ) (capLoad resLoad : K) (hPositive : 0 < numAddressBit)
    (hNine : numAddressBit ≤ 9) (hLeak : ∀ d, 0 < (m.basicPower d).1) :
    (predecodeUnits g unset numAddressBit capLoad resLoad).extraLeakage m = 0 ↔
      numAddressBit ∈ [1, 2, 3, 5] := by
  have hNonzero (d : BasicDecoder K) : (m.basicPower d).1 ≠ 0 := (hLeak d).ne'
  have hTwo : (2 : K) - 1 = 1 := by norm_num
  have hThree : (3 : K) - 1 = 2 := by norm_num
  interval_cases numAddressBit <;>
    simp [PredecodeUnits.extraLeakage, PredecodeUnits.basicDecoders, predecodeUnits,
      addBasicDecoders, initializeStages, decoderCounts, DecoderCounts.numBasicDecoder,
      PredecodeUnits.empty, hNonzero, hTwo, hThree]

end PredecodeBlock

end NVSim
