import Mathlib.Algebra.Order.Ring.Int
import NVSim.Model.InverterChain

/-!
# The chains that output drivers size

The styles of `OutputDriver::Initialize` count the stages with opposite parities, and limit
the count after its parity is fixed.  Whatever the style, the last stage is sized first and
every stage before it is smaller by the effort per stage, down to the minimum.
-/

namespace NVSim

open Library

variable {K : Type} [Field K] [LinearOrder K]

/-! ## The number of stages -/

section Stages

variable [FloorRing K] (g : Globals K) (F : K)

theorem limitStages_eq (n : ℤ) : limitStages n = min n 20 := by
  unfold limitStages maxInvChainLen
  split
  · omega
  · omega

/-- Of an inverting chain, the latency first style counts an odd number of stages, unless
the limit applies. -/
theorem latencyFirstStages_inv :
    g.latencyFirstStages true F =
      if 20 < g.roundedLog F then 20
      else max 0 (g.roundedLog F - 1) + 1 - max 0 (g.roundedLog F - 1) % 2 := by
  unfold Globals.latencyFirstStages parityDiffers
  rw [limitStages_eq]
  simp only [Bool.xor_true, Bool.not_eq_true', decide_eq_false_iff_not]
  split_ifs <;> omega

theorem tradeOffStages_inv :
    g.tradeOffStages true F =
      if 19 < g.roundedLog F then 20
      else max 0 (g.roundedLog F - 1) + max 0 (g.roundedLog F - 1) % 2 := by
  unfold Globals.tradeOffStages parityDiffers
  rw [limitStages_eq]
  simp only [Bool.xor_true, Bool.not_not, decide_eq_true_eq]
  split_ifs <;> omega

theorem latencyFirstStages_mem :
    1 ≤ g.latencyFirstStages true F ∧ g.latencyFirstStages true F ≤ 20 := by
  rw [latencyFirstStages_inv]
  split
  · omega
  · omega

theorem latencyFirstStages_odd_iff :
    g.latencyFirstStages true F % 2 = 1 ↔ g.roundedLog F ≤ 20 := by
  rw [latencyFirstStages_inv]
  split
  · omega
  · omega

/-- The area trade-off style counts to the last index, which is even. -/
theorem tradeOffStages_of_le (h : g.roundedLog F ≤ 19) :
    0 ≤ g.tradeOffStages true F ∧ g.tradeOffStages true F ≤ 18 ∧
      g.tradeOffStages true F % 2 = 0 := by
  rw [tradeOffStages_inv, if_neg (by omega)]
  omega

theorem tradeOffStages_of_lt (h : 19 < g.roundedLog F) : g.tradeOffStages true F = 20 := by
  rw [tradeOffStages_inv, if_pos h]

end Stages

/-- An index in range. -/
theorem exists_index {i : ℤ} (hzero : 0 ≤ i) (hlt : i < 20) :
    ∃ k : ℕ, i = k ∧ k < maxInvChainLen := by
  refine ⟨i.toNat, (Int.toNat_of_nonneg hzero).symm, ?_⟩
  unfold maxInvChainLen
  omega

namespace InverterChain

/-! ## Sizing -/

section Sizing

variable (g : Globals K)

/-- The stages from `first` to `last` have been sized from a width of the last one. -/
structure SizedFrom (f width : K) (last first : ℕ) (chain : InverterChain K) : Prop where
  last_eq : ∀ h : last < maxInvChainLen, chain.widthNMOS ⟨last, h⟩ = width
  step : ∀ (i : ℕ) (h : i + 1 < maxInvChainLen), first ≤ i → i < last →
    chain.widthNMOS ⟨i, Nat.lt_of_succ_lt h⟩ =
      max g.minNmosWidth (chain.widthNMOS ⟨i + 1, h⟩ / f)
  pmos : ∀ (i : ℕ) (h : i < maxInvChainLen), first ≤ i → i ≤ last →
    chain.widthPMOS ⟨i, h⟩ = chain.widthNMOS ⟨i, h⟩ * g.tech.pnSizeRatio

/-- All but the widths is as it was. -/
structure SameStages (chain chain' : InverterChain K) : Prop where
  driver : chain'.toOutputDriver = chain.toOutputDriver
  numStage : chain'.numStage = chain.numStage

variable {g} {f width : K} {last : ℕ} {chain : InverterChain K}

/-- A stage before the last is sized by the stage after it. -/
theorem yields_sizeStage {start : InverterChain K} {i : ℕ} (hlast : last < maxInvChainLen)
    (hi : i < last) (hsame : SameStages start chain)
    (hsized : SizedFrom g f width last (i + 1) chain) :
    Yields (sizeStage g f i chain)
      (fun chain' => SameStages start chain' ∧ SizedFrom g f width last i chain')
      fun _ => False := by
  have hnext : i + 1 < maxInvChainLen := by omega
-- the source cuts a width at the minimum with a comparison
  have hmax (next : K) : (if next / f < g.minNmosWidth then g.minNmosWidth else next / f) =
      max g.minNmosWidth (next / f) := by
    split
    next h => exact (max_eq_left h.le).symm
    next h => exact (max_eq_right (not_lt.mp h)).symm
  unfold sizeStage
  rw [yields_bind_of_eq (CheckedArray.read_eq (Nat.cast_succ i).symm hnext)]
  dsimp only
  rw [hmax, yields_bind_of_eq (CheckedArray.write_eq rfl (Nat.lt_of_succ_lt hnext)),
    yields_bind_of_eq (CheckedArray.write_eq rfl (Nat.lt_of_succ_lt hnext))]
  refine ⟨⟨hsame.driver, hsame.numStage⟩, fun h => ?_, fun k hk hik hkl => ?_,
    fun k hk hik hkl => ?_⟩
  · exact (CheckedArray.update_of_ne hi.ne').trans (hsized.last_eq h)
  · dsimp only
    rw [CheckedArray.update_of_ne (by omega : k + 1 ≠ i)]
    rcases hik.eq_or_lt with rfl | hlt
    · exact Function.update_self _ _ _
    · exact (CheckedArray.update_of_ne hlt.ne').trans (hsized.step k hk hlt hkl)
  · dsimp only
    rcases hik.eq_or_lt with rfl | hlt
    · rw [Function.update_self, Function.update_self]
    · rw [CheckedArray.update_of_ne hlt.ne', CheckedArray.update_of_ne hlt.ne']
      exact hsized.pmos k hk hlt hkl

/-- The last stage has its width, and the loop sizes the stages before it. -/
theorem yields_sizeStages (hlast : last < maxInvChainLen)
    (hwidth : chain.widthNMOS ⟨last, hlast⟩ = width) :
    Yields (sizeStages g last width f chain)
      (fun chain' => SameStages chain chain' ∧ SizedFrom g f width last 0 chain')
      fun _ => False := by
  unfold sizeStages
  rw [yields_bind_of_eq (CheckedArray.write_eq rfl hlast), Int.toNat_natCast]
  refine yields_countDown
    (P := fun i chain' => SameStages chain chain' ∧ SizedFrom g f width last i chain')
    ⟨⟨rfl, rfl⟩, fun _ => hwidth, fun k hk hik hkl => ?_, fun k hk hik hkl => ?_⟩
    fun i hi chain' h => yields_sizeStage hlast hi h.1 h.2
  · omega
  · obtain rfl : k = last := le_antisymm hkl hik
    show Function.update chain.widthPMOS ⟨k, hlast⟩ _ ⟨k, hlast⟩ = _
    rw [Function.update_self, hwidth]

/-! ## The styles -/

/-- All stages of the chain have been sized from a width of the last one. -/
structure Sized (g : Globals K) (f width : K) (last : ℕ) (chain : InverterChain K) : Prop where
  last_lt : last < maxInvChainLen
  numStage : chain.numStage = last + 1
  sizedFrom : SizedFrom g f width last 0 chain

variable (g) [FloorRing K] (pow : K → K → K) (minNMOSDriverWidth : K)

/-- The latency first style sizes the chain, or leaves that to the area trade-off style. -/
theorem yields_sizeLatencyFirst (hinv : chain.inv = true) :
    Yields (chain.sizeLatencyFirst g pow minNMOSDriverWidth)
      (fun sized => sized.1.toOutputDriver = chain.toOutputDriver ∧
        if (chain.limitedEffortWidth g pow).1 < minNMOSDriverWidth then
          sized.2 = .latencyAreaTradeOff
        else sized.2 = .latencyFirst ∧
          ∃ last : ℕ, (last : ℤ) + 1 = g.latencyFirstStages true chain.latencyFirstEffort ∧
            Sized g (chain.limitedEffortWidth g pow).2 (chain.limitedEffortWidth g pow).1 last
              sized.1)
      fun _ => False := by
  obtain ⟨hone, hlimit⟩ := latencyFirstStages_mem g chain.latencyFirstEffort
  obtain ⟨last, hlast, hlt⟩ :=
    exists_index (sub_nonneg.mpr hone) (Int.sub_one_lt_of_le hlimit)
  unfold sizeLatencyFirst
  dsimp only
  rw [hinv, hlast, yields_bind_of_eq (CheckedArray.write_eq rfl hlt)]
  split
  next => exact ⟨rfl, rfl⟩
  next =>
    apply (yields_sizeStages hlt (Function.update_self _ _ _)).bind
    rintro chain' ⟨hsame, hsized⟩
    refine ⟨hsame.driver, rfl, last, by omega, hlt, hsame.numStage.trans ?_, hsized⟩
    show g.latencyFirstStages true chain.latencyFirstEffort = last + 1
    omega

/-- The area trade-off style sizes the chain if the limit does not apply to it. -/
theorem yields_sizeTradeOff (hinv : chain.inv = true)
    (hfits : g.roundedLog (chain.tradeOffEffort g minNMOSDriverWidth) ≤ 19) :
    Yields (chain.sizeTradeOff g pow minNMOSDriverWidth)
      (fun chain' => chain'.toOutputDriver = chain.toOutputDriver ∧
        ∃ last : ℕ, (last : ℤ) = g.tradeOffStages true (chain.tradeOffEffort g minNMOSDriverWidth) ∧
          Sized g (pow (chain.tradeOffEffort g minNMOSDriverWidth) (1 / (last + 1)))
            minNMOSDriverWidth last chain')
      fun _ => False := by
  obtain ⟨hzero, hlimit, -⟩ := tradeOffStages_of_le g _ hfits
  obtain ⟨last, hlast, hlt⟩ := exists_index hzero (hlimit.trans_lt (by decide))
  unfold sizeTradeOff
  dsimp only
  rw [hinv, hlast, yields_bind_of_eq (CheckedArray.write_eq rfl hlt)]
  refine (yields_sizeStages hlt (Function.update_self _ _ _)).mono ?_ fun _ h => h
  rintro chain' ⟨hsame, hsized⟩
  refine ⟨hsame.driver, last, rfl, hlt, hsame.numStage, ?_⟩
  rw [Int.cast_natCast] at hsized
  exact hsized

/-- Otherwise it writes behind the end of the array. -/
theorem sizeTradeOff_of_lt (hinv : chain.inv = true)
    (hlong : 19 < g.roundedLog (chain.tradeOffEffort g minNMOSDriverWidth)) :
    chain.sizeTradeOff g pow minNMOSDriverWidth = .error .outOfRange := by
  unfold sizeTradeOff
  dsimp only
  rw [hinv, tradeOffStages_of_lt g _ hlong, CheckedArray.write_of_le (by decide)]
  rfl

omit [FloorRing K] in
/-- The area first style has a single stage, and may exceed its own limit. -/
theorem yields_sizeAreaFirst :
    Yields (chain.sizeAreaFirst g minNMOSDriverWidth)
      (fun chain' =>
        if max g.minNmosWidth minNMOSDriverWidth > areaOptConstrain * g.maxNmosWidth then
          chain'.toOutputDriver = { chain.toOutputDriver with invalid := true }
        else chain'.toOutputDriver = { chain.toOutputDriver with initialized := true } ∧
          Sized g 1 (max g.minNmosWidth minNMOSDriverWidth) 0 chain')
      fun _ => False := by
  have hlt : 0 < maxInvChainLen := by decide
  unfold sizeAreaFirst
  dsimp only
  rw [yields_bind_of_eq (CheckedArray.write_eq (sub_self (1 : ℤ)) hlt)]
  split
  next => exact rfl
  next =>
    rw [yields_bind_of_eq (CheckedArray.write_eq (sub_self (1 : ℤ)) hlt)]
    refine ⟨rfl, hlt, rfl, fun h => ?_, fun i _ _ hi => ?_, fun i h _ hi => ?_⟩
    · show Function.update chain.widthNMOS ⟨0, hlt⟩ _ ⟨0, hlt⟩ = _
      exact Function.update_self _ _ _
    · omega
    · have hzero : i = 0 := by omega
      subst hzero
      dsimp only
      rw [Function.update_self, Function.update_self]

end Sizing

/-! ## Evaluation -/

section Evaluation

variable (g : Globals K) {last : ℕ} {chain : InverterChain K}

/-- A loop that only reads stages of the chain uses indices in range. -/
theorem yields_readLoop {σ : Type} {body : ℕ → σ → Except IndexError σ} {n : ℕ} (s : σ)
    (hbody : ∀ i < n, ∀ s, ∃ s', body i s = .ok s') :
    Yields (countUp body n s) (fun _ => True) fun _ => False := by
  refine yields_countUp (P := fun _ _ => True) trivial fun i hi s _ => ?_
  obtain ⟨s', hs'⟩ := hbody i hi s
  rw [hs']
  exact trivial

variable (hlast : last < maxInvChainLen) (hstages : chain.numStage = last + 1)

include hlast hstages

theorem yields_calculateArea :
    Yields (chain.calculateArea g) (fun chain' => chain'.numStage = last + 1) fun _ => False := by
  unfold calculateArea
  split_ifs
  · exact hstages
  · exact hstages
  · refine (yields_readLoop _ fun i hi s => ?_).bind fun _ _ => hstages
    have hi' : i < maxInvChainLen := by omega
    rw [CheckedArray.read_eq rfl hi', CheckedArray.read_eq rfl hi']
    exact ⟨_, rfl⟩

theorem yields_calculateRC :
    Yields (chain.calculateRC g) (fun chain' => chain'.numStage = last + 1) fun _ => False := by
  unfold calculateRC
  split_ifs with _ _ hzero
  · exact hstages
  · exact hstages
  · omega
  · refine yields_countUp (P := fun _ (c : InverterChain K) => c.numStage = last + 1) hstages
      fun i hi chain' h => ?_
    have hi' : i < maxInvChainLen := by omega
    unfold calculateStageRC
    rw [CheckedArray.read_eq rfl hi', CheckedArray.read_eq rfl hi']
    dsimp only [bind, Except.bind]
    rw [CheckedArray.write_eq rfl hi', CheckedArray.write_eq rfl hi']
    exact h

theorem yields_calculateLatency (rampInput : K) :
    Yields (chain.calculateLatency g rampInput) (fun chain' => chain'.numStage = last + 1)
      fun _ => False := by
  have hlastIndex : chain.numStage - 1 = last := by omega
  unfold calculateLatency
  split_ifs
  · exact hstages
  · exact hstages
  · refine (yields_readLoop _ fun i hi s => ?_).bind fun _ _ => ?_
    · have hi' : i + 1 < maxInvChainLen := by omega
      rw [CheckedArray.read_eq rfl (Nat.lt_of_succ_lt hi'),
        CheckedArray.read_eq rfl (Nat.lt_of_succ_lt hi'),
        CheckedArray.read_eq (Nat.cast_succ i).symm hi']
      exact ⟨_, rfl⟩
    · rw [CheckedArray.read_eq hlastIndex hlast, CheckedArray.read_eq hlastIndex hlast]
      exact hstages

theorem yields_calculatePower :
    Yields (chain.calculatePower g) (fun chain' => chain'.numStage = last + 1) fun _ => False := by
  have hlastIndex : chain.numStage - 1 = last := by omega
  unfold calculatePower
  split_ifs
  · exact hstages
  · exact hstages
  · refine (yields_readLoop _ fun i hi s => ?_).bind fun _ _ =>
      (yields_readLoop _ fun i hi s => ?_).bind fun _ _ => ?_
    · have hi' : i < maxInvChainLen := by omega
      rw [CheckedArray.read_eq rfl hi', CheckedArray.read_eq rfl hi']
      exact ⟨_, rfl⟩
    · have hi' : i + 1 < maxInvChainLen := by omega
      rw [CheckedArray.read_eq rfl (Nat.lt_of_succ_lt hi'),
        CheckedArray.read_eq (Nat.cast_succ i).symm hi']
      exact ⟨_, rfl⟩
    · rw [CheckedArray.read_eq hlastIndex hlast]
      exact hstages

/-- Every index that the evaluation of a chain uses is in range if the number of its stages
is. -/
theorem yields_evaluate (rampInput : K) :
    Yields (chain.evaluate g rampInput) (fun _ => True) fun _ => False := by
  apply (yields_calculateArea g hlast hstages).bind
  intro _ harea
  apply (yields_calculateRC g hlast harea).bind
  intro _ hrc
  apply (yields_calculateLatency g hlast hrc rampInput).bind
  intro _ hlatency
  exact (yields_calculatePower g hlast hlatency).mono (fun _ _ => trivial) fun _ h => h

end Evaluation

/-! ## Initialization -/

section Initialize

variable [FloorRing K] (g : Globals K) (pow : K → K → K) (chain : InverterChain K)

/-- The chain is left as the latency first style sizes it. -/
def UsesLatencyFirst : Prop :=
  chain.areaOptimizationLevel = .latencyFirst ∧
    ¬ (chain.limitedEffortWidth g pow).1 < chain.minNMOSDriverWidth g

/-- The area trade-off style is asked for, or the latency first style falls back to it. -/
def UsesTradeOff : Prop :=
  chain.areaOptimizationLevel = .latencyAreaTradeOff ∨
    (chain.areaOptimizationLevel = .latencyFirst ∧
      (chain.limitedEffortWidth g pow).1 < chain.minNMOSDriverWidth g)

/-- The effort per stage, the width of the last stage and its index, by the style that
sizes the chain in the end. -/
inductive Styled : (f width : K) → (last : ℕ) → Prop
  | latencyFirst (last : ℕ) : chain.UsesLatencyFirst g pow →
      (last : ℤ) + 1 = g.latencyFirstStages true chain.latencyFirstEffort →
      Styled (chain.limitedEffortWidth g pow).2 (chain.limitedEffortWidth g pow).1 last
  | tradeOff (last : ℕ) : chain.UsesTradeOff g pow →
      (last : ℤ) =
        g.tradeOffStages true (chain.tradeOffEffort g (chain.minNMOSDriverWidth g)) →
      Styled (pow (chain.tradeOffEffort g (chain.minNMOSDriverWidth g)) (1 / (last + 1)))
        (chain.minNMOSDriverWidth g) last
  | areaFirst : chain.areaOptimizationLevel = .areaFirst →
      max g.minNmosWidth (chain.minNMOSDriverWidth g) ≤ areaOptConstrain * g.maxNmosWidth →
      Styled 1 (max g.minNmosWidth (chain.minNMOSDriverWidth g)) 0

/-- The result of an `Initialize` that does not end invalid: all arguments as they were
stored, and a chain that one of the styles has sized. -/
def Initialized (chain' : InverterChain K) : Prop :=
  chain'.toOutputDriver = { chain.toOutputDriver with initialized := true } ∧
    ∃ f width last, Styled g pow chain f width last ∧ Sized g f width last chain'

/-- The area first style gives up a chain that exceeds its own limit. -/
def GivenUp (chain' : InverterChain K) : Prop :=
  chain.areaOptimizationLevel = .areaFirst ∧
    areaOptConstrain * g.maxNmosWidth < max g.minNmosWidth (chain.minNMOSDriverWidth g) ∧
    chain'.toOutputDriver = { chain.toOutputDriver with invalid := true }

variable {g pow chain}

theorem UsesLatencyFirst.not_usesTradeOff (h : chain.UsesLatencyFirst g pow) :
    ¬ chain.UsesTradeOff g pow := by
  rintro (hlevel | ⟨-, hfalls⟩)
  · exact absurd (h.1.symm.trans hlevel) (by decide)
  · exact h.2 hfalls

theorem UsesTradeOff.ne_areaFirst (h : chain.UsesTradeOff g pow) :
    chain.areaOptimizationLevel ≠ .areaFirst := by
  intro hlevel
  rcases h with h | ⟨h, -⟩
  · exact absurd (h.symm.trans hlevel) (by decide)
  · exact absurd (h.symm.trans hlevel) (by decide)

omit [FloorRing K] in
theorem Sized.of_initialized {f width : K} {last : ℕ} {chain' : InverterChain K}
    (h : Sized g f width last chain') :
    Sized g f width last { chain' with initialized := true } :=
  ⟨h.last_lt, h.numStage, h.sizedFrom.last_eq, h.sizedFrom.step, h.sizedFrom.pmos⟩

theorem sizeChain_of_lt (hwide : g.maxNmosWidth < chain.minNMOSDriverWidth g) :
    chain.sizeChain g pow = .ok { chain with invalid := true } :=
  if_pos hwide

theorem sizeChain_of_not_lt (hwide : ¬ g.maxNmosWidth < chain.minNMOSDriverWidth g) :
    chain.sizeChain g pow =
      chain.tryLatencyFirst g pow (chain.minNMOSDriverWidth g) >>=
        finish g pow (chain.minNMOSDriverWidth g) :=
  if_neg hwide

omit [FloorRing K] in
theorem tradeOffEffort_congr {start : InverterChain K}
    (hdriver : start.toOutputDriver = chain.toOutputDriver) (width : K) :
    start.tradeOffEffort g width = chain.tradeOffEffort g width := by
  unfold tradeOffEffort
  rw [hdriver]

/-- The branches after the latency first style, of a chain that it was not asked for or
fell back from. -/
theorem yields_finish {start : InverterChain K} {level : BufferDesignTarget}
    (hdriver : start.toOutputDriver = chain.toOutputDriver) (hinv : chain.inv = true)
    (hlevel : level = .latencyAreaTradeOff ∧ chain.UsesTradeOff g pow ∨
      level = .areaFirst ∧ chain.areaOptimizationLevel = .areaFirst)
    (hfits : chain.UsesTradeOff g pow →
      g.roundedLog (chain.tradeOffEffort g (chain.minNMOSDriverWidth g)) ≤ 19) :
    Yields (finish g pow (chain.minNMOSDriverWidth g) (start, level))
      (fun chain' => Initialized g pow chain chain' ∨ GivenUp g chain chain')
      fun _ => False := by
  have heffort := tradeOffEffort_congr (g := g) hdriver (chain.minNMOSDriverWidth g)
  have hinvStart : start.inv = true := by
    rw [hdriver, hinv]
  rcases hlevel with ⟨rfl, huses⟩ | ⟨rfl, huses⟩
  · apply (yields_sizeTradeOff g pow _ hinvStart (heffort ▸ hfits huses)).bind
    rintro chain' ⟨hsame, last, hlast, hsized⟩
    rw [heffort] at hlast hsized
    exact .inl ⟨by rw [hsame, hdriver], _, _, last, .tradeOff last huses hlast,
      hsized.of_initialized⟩
  · refine (yields_sizeAreaFirst g _).mono (fun chain' h => ?_) fun _ h => h
    split_ifs at h with hexceeds
    · exact .inr ⟨huses, hexceeds, by rw [h, hdriver]⟩
    · exact .inl ⟨by rw [h.1, hdriver], _, _, 0, .areaFirst huses (not_lt.mp hexceeds), h.2⟩

/-- What `Initialize` does, in all styles, unless the area trade-off style exceeds the
array. -/
theorem yields_sizeChain (hinv : chain.inv = true)
    (hwide : ¬ g.maxNmosWidth < chain.minNMOSDriverWidth g)
    (hfits : chain.UsesTradeOff g pow →
      g.roundedLog (chain.tradeOffEffort g (chain.minNMOSDriverWidth g)) ≤ 19) :
    Yields (chain.sizeChain g pow)
      (fun chain' => Initialized g pow chain chain' ∨ GivenUp g chain chain')
      fun _ => False := by
  rw [sizeChain_of_not_lt hwide]
  unfold tryLatencyFirst
  split_ifs with hlevel
  · apply (yields_sizeLatencyFirst g pow _ hinv).bind
    rintro ⟨start, level⟩ ⟨hdriver, hstyle⟩
    split_ifs at hstyle with hfalls
    · exact yields_finish hdriver hinv (.inl ⟨hstyle, .inr ⟨hlevel, hfalls⟩⟩) hfits
    · obtain ⟨rfl, last, hlast, hsized⟩ := hstyle
      exact .inl ⟨by rw [← hdriver], _, _, last, .latencyFirst last ⟨hlevel, hfalls⟩ hlast,
        hsized.of_initialized⟩
  · refine yields_finish rfl hinv ?_ hfits
    cases hstyle : chain.areaOptimizationLevel with
    | latencyFirst => exact absurd hstyle hlevel
    | latencyAreaTradeOff => exact .inl ⟨rfl, .inl hstyle⟩
    | areaFirst => exact .inr ⟨rfl, rfl⟩

/-- The area trade-off style writes behind the end of its array if it exceeds it. -/
theorem sizeChain_of_exceeds (hinv : chain.inv = true)
    (hwide : ¬ g.maxNmosWidth < chain.minNMOSDriverWidth g) (huses : chain.UsesTradeOff g pow)
    (hlong : 19 < g.roundedLog (chain.tradeOffEffort g (chain.minNMOSDriverWidth g))) :
    chain.sizeChain g pow = .error .outOfRange := by
  have hfinish {start : InverterChain K} (hdriver : start.toOutputDriver = chain.toOutputDriver) :
      finish g pow (chain.minNMOSDriverWidth g) (start, .latencyAreaTradeOff) =
        .error .outOfRange := by
    have hlongStart :
        19 < g.roundedLog (start.tradeOffEffort g (chain.minNMOSDriverWidth g)) := by
      rwa [tradeOffEffort_congr hdriver]
    have herror := sizeTradeOff_of_lt g pow _ (by rw [hdriver, hinv]) hlongStart
    unfold finish
    dsimp only
    rw [herror]
    rfl
  rw [sizeChain_of_not_lt hwide]
  unfold tryLatencyFirst
  rcases huses with hlevel | ⟨hlevel, hfalls⟩
  · rw [hlevel, if_neg (by decide)]
    exact hfinish rfl
  · obtain ⟨⟨start, level⟩, hstart, hdriver, hstyle⟩ :=
      (yields_sizeLatencyFirst g pow (chain.minNMOSDriverWidth g) hinv).exists_ok
    rw [if_pos hfalls] at hstyle
    subst hstyle
    rw [if_pos hlevel, hstart]
    exact hfinish hdriver

/-- An `Initialize` that uses indices in range only. -/
theorem initialized_or_givenUp (hinv : chain.inv = true)
    (hwide : ¬ g.maxNmosWidth < chain.minNMOSDriverWidth g) {chain' : InverterChain K}
    (hresult : chain.sizeChain g pow = .ok chain') :
    Initialized g pow chain chain' ∨ GivenUp g chain chain' := by
  have hfits (huses : chain.UsesTradeOff g pow) :
      g.roundedLog (chain.tradeOffEffort g (chain.minNMOSDriverWidth g)) ≤ 19 := by
    by_contra hlong
    rw [sizeChain_of_exceeds hinv hwide huses (not_le.mp hlong)] at hresult
    cases hresult
  have hyields := yields_sizeChain hinv hwide hfits
  rwa [hresult, yields_ok] at hyields

/-- An object that is valid after `Initialize` holds a chain that one of the styles has
sized. -/
theorem initialized_of_valid (hinv : chain.inv = true) {chain' : InverterChain K}
    (hresult : chain.sizeChain g pow = .ok chain') (hvalid : chain'.invalid = false) :
    chain.minNMOSDriverWidth g ≤ g.maxNmosWidth ∧ Initialized g pow chain chain' := by
  have hwide : ¬ g.maxNmosWidth < chain.minNMOSDriverWidth g := by
    intro hwide
    rw [sizeChain_of_lt hwide] at hresult
    cases hresult
    cases hvalid
  refine ⟨not_lt.mp hwide, (initialized_or_givenUp hinv hwide hresult).resolve_right ?_⟩
  rintro ⟨-, -, hdriver⟩
  rw [hdriver] at hvalid
  cases hvalid

/-- The circuit model's driver, which has no chain, is what is left of one that has. -/
theorem toOutputDriver_initializeInverterChain (hfresh : chain.initialized = false)
    (hvalid : chain.invalid = false) {logicEffort inputCap outputCap outputRes : K}
    {level : BufferDesignTarget} {minDriverCurrent : K} {chain' : InverterChain K}
    (hresult : chain.initializeInverterChain g pow logicEffort inputCap outputCap outputRes true
      level minDriverCurrent = .ok chain') :
    chain'.toOutputDriver = initializeOutputDriver g logicEffort inputCap outputCap outputRes true
      level minDriverCurrent := by
  unfold initializeInverterChain at hresult
  unfold initializeOutputDriver
  dsimp only
  split_ifs with hwide hexceeds
  · rw [sizeChain_of_lt hwide] at hresult
    cases hresult
    simp [storeArguments, hfresh]
  · rcases initialized_or_givenUp rfl hwide hresult with
      ⟨-, f, width, last, hstyled, -⟩ | ⟨-, -, hdriver⟩
    · -- the other styles are not the area first style
      cases hstyled with
      | latencyFirst _ huses _ => exact absurd (huses.1.symm.trans hexceeds.1) (by decide)
      | tradeOff _ huses _ => exact absurd hexceeds.1 huses.ne_areaFirst
      | areaFirst _ hle => exact absurd hexceeds.2 (not_lt.mpr hle)
    · rw [hdriver]
      simp [storeArguments, hfresh]
  · rcases initialized_or_givenUp rfl hwide hresult with ⟨hdriver, -⟩ | ⟨hlevel, hlarge, -⟩
    · rw [hdriver]
      simp [storeArguments, hvalid]
    · exact absurd ⟨hlevel, hlarge⟩ hexceeds

/-- The chain of a driver that a circuit initialised has the driver's arguments and flags. -/
theorem toOutputDriver_ofDriver (logicEffort inputCap outputCap outputRes : K)
    (level : BufferDesignTarget) (minDriverCurrent : K) {chain' : InverterChain K}
    (hresult : ofDriver g pow (initializeOutputDriver g logicEffort inputCap outputCap outputRes
      true level minDriverCurrent) = .ok chain') :
    chain'.toOutputDriver = initializeOutputDriver g logicEffort inputCap outputCap outputRes true
      level minDriverCurrent := by
  have harguments : ofDriver g pow (initializeOutputDriver g logicEffort inputCap outputCap
      outputRes true level minDriverCurrent) =
        cleared.initializeInverterChain g pow logicEffort inputCap outputCap outputRes true level
          minDriverCurrent := by
    unfold ofDriver initializeOutputDriver
    dsimp only
    split_ifs <;> rfl
  exact toOutputDriver_initializeInverterChain rfl rfl (harguments ▸ hresult)

/-- What a valid driver of an inverting chain must satisfy: an odd number of stages that fit
into the arrays, and no index out of range in any evaluation. -/
structure LegalStages (g : Globals K) (chain : InverterChain K) : Prop where
  odd : chain.numStage % 2 = 1
  pos : 1 ≤ chain.numStage
  le_length : chain.numStage ≤ maxInvChainLen
  evaluates : ∀ rampInput, ∃ chain', chain.evaluate g rampInput = .ok chain'

/-- `Initialize` uses no index out of range, and leaves a legal number of stages or an
invalid object. -/
def StageCountLegal (g : Globals K) (result : Except IndexError (InverterChain K)) : Prop :=
  Yields result (fun chain => chain.invalid = false → LegalStages g chain) fun _ => False

variable (g pow chain)

/-- The limits that the rounded logarithm of the load ratio must keep, by the style that
sizes the chain. -/
structure StagesFit : Prop where
  latencyFirst : chain.UsesLatencyFirst g pow → g.roundedLog chain.latencyFirstEffort ≤ 20
  tradeOff : chain.UsesTradeOff g pow →
    g.roundedLog (chain.tradeOffEffort g (chain.minNMOSDriverWidth g)) ≤ 19

variable {g pow chain}

theorem legalStages_of_initialized (hfits : chain.StagesFit g pow) {chain' : InverterChain K}
    (hinit : Initialized g pow chain chain') : LegalStages g chain' := by
  obtain ⟨-, f, width, last, hstyled, hsized⟩ := hinit
  have hnumStage := hsized.numStage
  have hlast := hsized.last_lt
  have hodd : ((last : ℤ) + 1) % 2 = 1 := by
    cases hstyled with
    | latencyFirst _ huses hcount =>
        rw [hcount, latencyFirstStages_odd_iff]
        exact hfits.latencyFirst huses
    | tradeOff _ huses hcount =>
        have heven := (tradeOffStages_of_le g _ (hfits.tradeOff huses)).2.2
        omega
    | areaFirst => rfl
  refine ⟨hnumStage ▸ hodd, by omega, by omega, fun rampInput => ?_⟩
  obtain ⟨chain'', hchain'', -⟩ := (yields_evaluate g hlast hnumStage rampInput).exists_ok
  exact ⟨chain'', hchain''⟩

/-- `Initialize` leaves a legal number of stages if and only if the driver is too wide to
have a chain or its load ratio fits. -/
theorem stageCountLegal_sizeChain_iff (hinv : chain.inv = true) (hvalid : chain.invalid = false) :
    StageCountLegal g (chain.sizeChain g pow) ↔
      g.maxNmosWidth < chain.minNMOSDriverWidth g ∨ chain.StagesFit g pow := by
  constructor
  · intro hlegal
    by_cases hwide : g.maxNmosWidth < chain.minNMOSDriverWidth g
    · exact .inl hwide
-- a longer chain would leave the arrays, which is no legal end
    have htradeOff (huses : chain.UsesTradeOff g pow) :
        g.roundedLog (chain.tradeOffEffort g (chain.minNMOSDriverWidth g)) ≤ 19 := by
      by_contra hlong
      rw [StageCountLegal, sizeChain_of_exceeds hinv hwide huses (not_le.mp hlong)] at hlegal
      exact hlegal
    refine .inr ⟨fun huses => ?_, htradeOff⟩
    obtain ⟨chain', hresult, hstyle⟩ := (yields_sizeChain hinv hwide htradeOff).exists_ok
    rw [StageCountLegal, hresult, yields_ok] at hlegal
    rcases hstyle with ⟨hdriver, f, width, last, hstyled, hsized⟩ | ⟨hlevel, -⟩
    · have hodd := (hlegal (by rw [hdriver]; exact hvalid)).odd
      rw [hsized.numStage] at hodd
      cases hstyled with
      | latencyFirst _ _ hcount => rwa [hcount, latencyFirstStages_odd_iff] at hodd
      | tradeOff _ hother _ => exact absurd hother huses.not_usesTradeOff
      | areaFirst hlevel _ => exact absurd (huses.1.symm.trans hlevel) (by decide)
    · exact absurd (huses.1.symm.trans hlevel) (by decide)
  · intro hfits
    by_cases hwide : g.maxNmosWidth < chain.minNMOSDriverWidth g
    · rw [StageCountLegal, sizeChain_of_lt hwide, yields_ok]
      intro hinvalid
      cases hinvalid
    · have hfits := hfits.resolve_left hwide
      refine (yields_sizeChain hinv hwide hfits.tradeOff).mono (fun chain' hstyle => ?_)
        fun _ h => h
      intro hvalid'
      refine legalStages_of_initialized hfits (hstyle.resolve_right ?_)
      rintro ⟨-, -, hdriver⟩
      rw [hdriver] at hvalid'
      cases hvalid'

/-- `OutputDriver::Initialize` of an inverting chain leaves a legal number of stages in
those cases and no others, whatever its arguments. -/
theorem stage_count_legal_iff (hvalid : chain.invalid = false)
    (logicEffort inputCap outputCap outputRes : K) (areaOptimizationLevel : BufferDesignTarget)
    (minDriverCurrent : K) :
    StageCountLegal g (chain.initializeInverterChain g pow logicEffort inputCap outputCap outputRes
        true areaOptimizationLevel minDriverCurrent) ↔
      g.maxNmosWidth < g.driverWidth minDriverCurrent ∨
        (chain.storeArguments logicEffort inputCap outputCap outputRes true areaOptimizationLevel
          minDriverCurrent).StagesFit g pow :=
  stageCountLegal_sizeChain_iff rfl hvalid

end Initialize

end InverterChain

/-! ## Examples -/

/-- A logarithm to the base of four, exact at its powers, for examples. -/
def Libm.logFour : Libm ℚ where
  sqrt := fun x => max x 0
  log := fun x => Nat.log 4 ⌊x⌋₊
  sqrt_nonneg := zero_le_max_zero

/-- The power function where it takes a root of a power of four that is four, for
examples. -/
def rootFour (x y : ℚ) : ℚ := if x = 4 ^ ⌊1 / y⌋₊ then 4 else 1

/-- The global objects of a small circuit with a linear gate capacitance and a maximum size,
for examples. -/
def Globals.linear (maxNmosSize : ℚ) : Globals ℚ :=
  { Globals.small .small with
    inputParameter := { Settings.new 16 8 .hp "" 300 with maxNmosSize := maxNmosSize }
    tech := { Technology.small with gateCap := fun width => width }
    libm := .logFour }

/-- A driver of a minimum inverter with a load of some ratio to it, and no minimum current. -/
def InverterChain.loaded (ratio : ℚ) (level : BufferDesignTarget) (minDriverCurrent : ℚ) :
    Except Library.IndexError (InverterChain ℚ) :=
  InverterChain.cleared.initializeInverterChain (.linear (1.5 * 4 ^ 20)) rootFour 1 3 (3 * ratio) 0
    true level minDriverCurrent

namespace InverterChain

/-- At a load ratio of `4 ^ 5` the latency first style leaves five stages. -/
theorem stage_count_legal_loaded :
    (loaded (4 ^ 5) .latencyFirst 0).toOption.map
        (fun chain => (chain.invalid, chain.numStage)) = some (false, 5) ∧
      StageCountLegal (.linear (1.5 * 4 ^ 20)) (loaded (4 ^ 5) .latencyFirst 0) :=
  ⟨by decide +kernel, (stage_count_legal_iff rfl _ _ _ _ _ _).mpr
    (.inr ⟨fun _ => by decide +kernel, fun _ => by decide +kernel⟩)⟩

/-- At a load ratio of `4 ^ 21` the latency first style leaves an even number of stages; at
one of `4 ^ 20` the area trade-off style writes behind the end of its arrays. -/
theorem stage_count_exceeds :
    (∃ chain, loaded (4 ^ 21) .latencyFirst 0 = .ok chain ∧ chain.invalid = false ∧
        chain.numStage = 20) ∧
      ¬ StageCountLegal (.linear (1.5 * 4 ^ 20)) (loaded (4 ^ 21) .latencyFirst 0) ∧
      loaded 1 .latencyAreaTradeOff (1.5 * 4 ^ 20) = .error .outOfRange ∧
      ¬ StageCountLegal (.linear (1.5 * 4 ^ 20))
        (loaded 1 .latencyAreaTradeOff (1.5 * 4 ^ 20)) := by
  have hresult : (loaded (4 ^ 21) .latencyFirst 0).toOption.map
      (fun chain => (chain.invalid, chain.numStage)) = some (false, 20) := by
    decide +kernel
  obtain ⟨chain, hchain, hflags⟩ := Option.map_eq_some_iff.mp hresult
  have hok := toOption_eq_some_iff.mp hchain
  have hvalid : chain.invalid = false := congrArg Prod.fst hflags
  have hcount : chain.numStage = 20 := congrArg Prod.snd hflags
  have herror : loaded 1 .latencyAreaTradeOff (1.5 * 4 ^ 20) = .error .outOfRange :=
    sizeChain_of_exceeds rfl (by decide +kernel) (.inl rfl) (by decide +kernel)
  refine ⟨⟨chain, hok, hvalid, hcount⟩, fun hlegal => ?_, herror, fun hlegal => ?_⟩
  · rw [StageCountLegal, hok, yields_ok] at hlegal
    have hodd := (hlegal hvalid).odd
    rw [hcount] at hodd
    exact absurd hodd (by decide)
  · rw [StageCountLegal, herror, yields_error] at hlegal
    exact hlegal

end InverterChain

end NVSim
