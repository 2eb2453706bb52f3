import Mathlib.Tactic.Linarith
import Mathlib.Tactic.NormNum
import Mathlib.Tactic.Positivity
import Mathlib.Tactic.Ring
import NVSim.Circuit.InverterChain
import NVSim.Model.Decoder
import NVSim.Model.Periphery

/-!
# The sizes of inverter chains

The widths of a chain fall from the last stage to the first if the effort per stage is at
least one.  Where the last stage is cut to the maximum size the effort is computed anew,
without that bound; the input capacitances of the drivers of decoders and prechargers
provide it.
-/

namespace NVSim

variable {K : Type} [Field K] [LinearOrder K]

namespace InverterChain

/-! ## Legal sizes -/

section Sizes

variable [IsStrictOrderedRing K] (g : Globals K)

/-- What the widths of a valid driver must satisfy. -/
structure LegalSizing (chain : InverterChain K) : Prop where
  pos : 1 ≤ chain.numStage
  le_length : chain.numStage ≤ maxInvChainLen
  min_le : ∀ (i : ℕ) (h : i < maxInvChainLen), i < chain.numStage →
    g.minNmosWidth ≤ chain.widthNMOS ⟨i, h⟩
  le_max : ∀ (i : ℕ) (h : i < maxInvChainLen), i < chain.numStage →
    chain.widthNMOS ⟨i, h⟩ ≤ g.maxNmosWidth
  monotone : ∀ (i j : ℕ) (h : j < maxInvChainLen) (hij : i ≤ j), j < chain.numStage →
    chain.widthNMOS ⟨i, hij.trans_lt h⟩ ≤ chain.widthNMOS ⟨j, h⟩
  pmos : ∀ (i : ℕ) (h : i < maxInvChainLen), i < chain.numStage →
    chain.widthPMOS ⟨i, h⟩ = g.tech.pnSizeRatio * chain.widthNMOS ⟨i, h⟩
  last : ∀ (i : ℕ) (h : i < maxInvChainLen), chain.numStage = i + 1 →
    chain.minDriverCurrent / g.currentOnNmos ≤ chain.widthNMOS ⟨i, h⟩

variable {g} {f width : K} {last : ℕ} {chain : InverterChain K}

theorem minNmosWidth_pos : 0 < g.minNmosWidth :=
  mul_pos (by unfold minNmosSize; norm_num) g.tech.featureSize_pos

section Sized

variable (hsized : Sized g f width last chain) (hf : 1 ≤ f) (hmin : g.minNmosWidth ≤ width)

include hsized hmin

omit [IsStrictOrderedRing K] in
theorem Sized.min_le {i : ℕ} (h : i < maxInvChainLen) (hi : i ≤ last) :
    g.minNmosWidth ≤ chain.widthNMOS ⟨i, h⟩ := by
  rcases hi.eq_or_lt with rfl | hlt
  · rw [hsized.sizedFrom.last_eq h]
    exact hmin
  · have hnext : i + 1 < maxInvChainLen := Nat.lt_of_le_of_lt hlt hsized.last_lt
    rw [hsized.sizedFrom.step i hnext (Nat.zero_le i) hlt]
    exact le_max_left _ _

include hf

/-- An effort of at least one per stage makes no stage larger than the next. -/
theorem Sized.le_next {i : ℕ} (h : i + 1 < maxInvChainLen) (hi : i < last) :
    chain.widthNMOS ⟨i, Nat.lt_of_succ_lt h⟩ ≤ chain.widthNMOS ⟨i + 1, h⟩ := by
  have hnext := hsized.min_le hmin h hi
  rw [hsized.sizedFrom.step i h (Nat.zero_le i) hi]
  exact max_le hnext (div_le_self (minNmosWidth_pos.le.trans hnext) hf)

theorem Sized.monotone {i j : ℕ} (h : j < maxInvChainLen) (hij : i ≤ j) (hj : j ≤ last) :
    chain.widthNMOS ⟨i, hij.trans_lt h⟩ ≤ chain.widthNMOS ⟨j, h⟩ := by
  induction j, hij using Nat.le_induction with
  | base => exact le_rfl
  | succ j hij ih =>
      exact (ih (Nat.lt_of_succ_lt h) (Nat.le_of_succ_le hj)).trans
        (hsized.le_next hf hmin h hj)

/-- A chain is legal if its effort per stage is at least one and its last stage is. -/
theorem Sized.legalSizing (hmax : width ≤ g.maxNmosWidth)
    (hcurrent : chain.minDriverCurrent / g.currentOnNmos ≤ width) : LegalSizing g chain := by
  have hnumStage := hsized.numStage
  have hlast := hsized.last_lt
  refine ⟨by omega, by omega, fun i h hi => ?_, fun i h hi => ?_, fun i j h hij hj => ?_,
    fun i h hi => ?_, fun i h hi => ?_⟩
  · exact hsized.min_le hmin h (by omega)
  · apply (hsized.monotone hf hmin hlast (by omega : i ≤ last) le_rfl).trans
    rw [hsized.sizedFrom.last_eq hlast]
    exact hmax
  · exact hsized.monotone hf hmin h hij (by omega)
  · rw [hsized.sizedFrom.pmos i h (Nat.zero_le i) (by omega), mul_comm]
  · obtain rfl : i = last := by omega
    rw [hsized.sizedFrom.last_eq h]
    exact hcurrent

end Sized

end Sizes

/-! ## The effort per stage -/

section Effort

variable [FloorRing K] [IsStrictOrderedRing K] {g : Globals K} {pow : K → K → K}
  {chain : InverterChain K}

/-- The load of the largest stage is no smaller, by its logic effort, than the input. -/
def Driven (g : Globals K) (d : OutputDriver K) : Prop :=
  1 ≤ d.logicEffort * g.tech.gateCap ((1 + g.tech.pnSizeRatio) * g.maxNmosWidth) / d.inputCap

variable (hmax : g.minNmosWidth ≤ g.maxNmosWidth)

omit [IsStrictOrderedRing K] in
theorem limitedEffortWidth_le : (chain.limitedEffortWidth g pow).1 ≤ g.maxNmosWidth := by
  unfold limitedEffortWidth
  dsimp only
  split
  next => exact le_rfl
  next h => exact not_lt.mp h

include hmax in
omit [IsStrictOrderedRing K] in
theorem le_limitedEffortWidth : g.minNmosWidth ≤ (chain.limitedEffortWidth g pow).1 := by
  unfold limitedEffortWidth
  dsimp only
  split
  next => exact hmax
  next => exact le_max_left _ _

/-- The root of an effort of at least one is at least one. -/
theorem one_le_root (hpow : ∀ x y, 1 ≤ x → 0 ≤ y → 1 ≤ pow x y) {x : K} (hx : 1 ≤ x) {n : ℤ}
    (hn : 0 ≤ n) : 1 ≤ pow x (1 / n) :=
  hpow x _ hx (div_nonneg zero_le_one (Int.cast_nonneg hn))

theorem one_le_limitedEffort (hpow : ∀ x y, 1 ≤ x → 0 ≤ y → 1 ≤ pow x y)
    (hinv : chain.inv = true) (hdriven : Driven g chain.toOutputDriver) :
    1 ≤ (chain.limitedEffortWidth g pow).2 := by
  have hcount := (latencyFirstStages_mem g chain.latencyFirstEffort).1
  unfold limitedEffortWidth
  dsimp only
  rw [hinv]
  split
  next => exact one_le_root hpow hdriven (by omega)
  next =>
    unfold effortWidth
    dsimp only
    rw [hinv]
    have hroot := one_le_root (n := g.latencyFirstStages true chain.latencyFirstEffort + 1) hpow
      (le_max_left 1 (chain.logicEffort * chain.outputCap / chain.inputCap)) (by omega)
    rwa [Int.cast_add, Int.cast_one] at hroot

/-- Whatever the style, the effort per stage is at least one and the last stage is legal. -/
theorem Styled.legal (hpow : ∀ x y, 1 ≤ x → 0 ≤ y → 1 ≤ pow x y) (hinv : chain.inv = true)
    (hdriven : Driven g chain.toOutputDriver)
    (hwide : chain.minNMOSDriverWidth g ≤ g.maxNmosWidth) {f width : K} {last : ℕ}
    (hstyled : Styled g pow chain f width last) :
    1 ≤ f ∧ g.minNmosWidth ≤ width ∧ width ≤ g.maxNmosWidth ∧
      chain.minDriverCurrent / g.currentOnNmos ≤ width := by
  have hmin : g.minNmosWidth ≤ chain.minNMOSDriverWidth g := le_max_left _ _
  have hcurrent : chain.minDriverCurrent / g.currentOnNmos ≤ chain.minNMOSDriverWidth g :=
    le_max_right _ _
  cases hstyled with
  | latencyFirst _ huses _ =>
      exact ⟨one_le_limitedEffort hpow hinv hdriven, le_limitedEffortWidth (hmin.trans hwide),
        limitedEffortWidth_le, hcurrent.trans (not_lt.mp huses.2)⟩
  | tradeOff _ _ _ =>
      have hroot := one_le_root (n := (last : ℤ) + 1) hpow
        (le_max_left (1 : K) (chain.logicEffort *
          (g.tech.gateCap (chain.minNMOSDriverWidth g) * (1 + g.tech.pnSizeRatio)) /
            chain.inputCap)) (by omega)
      rw [Int.cast_add, Int.cast_one, Int.cast_natCast] at hroot
      exact ⟨hroot, hmin, hwide, hcurrent⟩
  | areaFirst _ _ =>
      rw [max_eq_right hmin]
      exact ⟨le_rfl, hmin, hwide, hcurrent⟩

end Effort

end InverterChain

/-! ## The drivers of decoders and prechargers -/

section Callers

variable (g : Globals K)

/-- An output driver as a decoder or a precharger initializes it. -/
inductive DrivenBy : OutputDriver K → Prop
  | rowDecoder (numRow : ℕ) (capLoad resLoad : K) (multipleRowPerSet : Bool)
      (areaOptimizationLevel : BufferDesignTarget) (minDriverCurrent : K) :
      DrivenBy (initializeRowDecoder g numRow capLoad resLoad multipleRowPerSet
        areaOptimizationLevel minDriverCurrent).outputDriver
  | basicDecoder (numAddressBit : ℕ) (capLoad resLoad : K) :
      DrivenBy (initializeBasicDecoder g numAddressBit capLoad resLoad).outputDriver
  | precharger (voltagePrecharge : K) (numColumn : ℕ) (capBitline resBitline : K) :
      DrivenBy
        (initializePrecharger g voltagePrecharge numColumn capBitline resBitline).outputDriver

variable {g}

/-- The arguments are stored as they are. -/
theorem initializeOutputDriver_arguments (logicEffort inputCap outputCap outputRes : K)
    (inv : Bool) (level : BufferDesignTarget) (minDriverCurrent : K) :
    let d := initializeOutputDriver g logicEffort inputCap outputCap outputRes inv level
      minDriverCurrent
    d.logicEffort = logicEffort ∧ d.inputCap = inputCap ∧ d.inv = inv := by
  unfold initializeOutputDriver
  dsimp only
  split_ifs
  · exact ⟨rfl, rfl, rfl⟩
  · exact ⟨rfl, rfl, rfl⟩
  · exact ⟨rfl, rfl, rfl⟩

/-- The callers ask for inverting chains. -/
theorem DrivenBy.inv_eq {d : OutputDriver K} (hd : DrivenBy g d) : d.inv = true := by
  cases hd with
  | rowDecoder => exact (initializeOutputDriver_arguments _ _ _ _ _ _ _).2.2
  | basicDecoder => exact (initializeOutputDriver_arguments _ _ _ _ _ _ _).2.2
  | precharger => exact (initializeOutputDriver_arguments _ _ _ _ _ _ _).2.2

variable [IsStrictOrderedRing K] {c : K} (hc : 0 < c)
  (hlinear : ∀ width, g.tech.gateCap width = c * width) (hratio : 0 < g.tech.pnSizeRatio)

include hc hlinear hratio

/-- A gate whose input capacitance is its logic effort times that of a minimum inverter. -/
theorem driven_of_effort {d : OutputDriver K} {effort : K} (heffort : 0 < effort)
    (hmax : g.minNmosWidth ≤ g.maxNmosWidth)
    (hlogic : d.logicEffort = effort / (1 + g.tech.pnSizeRatio))
    (hinput : d.inputCap = c * (effort * g.minNmosWidth)) : InverterChain.Driven g d := by
  have hsum : 0 < 1 + g.tech.pnSizeRatio := add_pos one_pos hratio
  have hmin : 0 < g.minNmosWidth := InverterChain.minNmosWidth_pos
  have heq : d.logicEffort * g.tech.gateCap ((1 + g.tech.pnSizeRatio) * g.maxNmosWidth) =
      c * (effort * g.maxNmosWidth) := by
    rw [hlogic, hlinear]
    field_simp
  unfold InverterChain.Driven
  rw [heq, hinput, one_le_div (mul_pos hc (mul_pos heffort hmin))]
  exact mul_le_mul_of_nonneg_left (mul_le_mul_of_nonneg_left hmax heffort.le) hc.le

/-- The output driver of a gate, or of an inverter if there is no gate. -/
theorem driven_gateDriver (hmax : g.minNmosWidth ≤ g.maxNmosWidth) {numNandInput : ℕ} {width : K}
    (hwidth : width = if numNandInput > 0 then g.widthNandN numNandInput else g.minNmosWidth)
    (capLoad resLoad : K) (level : BufferDesignTarget) (minDriverCurrent : K) :
    InverterChain.Driven g
      (g.gateDriver numNandInput width capLoad resLoad level minDriverCurrent) := by
  have hsum : 0 < 1 + g.tech.pnSizeRatio := add_pos one_pos hratio
  obtain ⟨hlogic, hinput, -⟩ := initializeOutputDriver_arguments (g := g)
    (if numNandInput > 0 then g.logicEffortNand numNandInput else 1)
    (g.tech.gateCap width + g.tech.gateCap g.widthNandP) capLoad resLoad true level
    minDriverCurrent
  -- the gates differ in the number of transistors in series
  have hseries (series : K) (hseries : 0 < series)
      (heffort : (if numNandInput > 0 then g.logicEffortNand numNandInput else 1) =
        (series + g.tech.pnSizeRatio) / (1 + g.tech.pnSizeRatio))
      (hwidthSeries : width = series * g.minNmosWidth) :
      InverterChain.Driven g
        (g.gateDriver numNandInput width capLoad resLoad level minDriverCurrent) := by
    refine driven_of_effort hc hlinear hratio (add_pos hseries hratio) hmax (hlogic.trans heffort)
      (hinput.trans ?_)
    rw [hlinear, hlinear, hwidthSeries]
    unfold Globals.widthNandP Globals.minNmosWidth
    ring
  rcases Nat.eq_zero_or_pos numNandInput with rfl | hpos
  · apply hseries 1 one_pos
    · rw [if_neg (lt_irrefl 0), div_self hsum.ne']
    · rw [hwidth, if_neg (lt_irrefl 0), one_mul]
  · rw [if_pos hpos] at hwidth
    unfold Globals.widthNandN at hwidth
    unfold Globals.logicEffortNand at hseries
    by_cases htwo : numNandInput = 2
    · apply hseries 2 two_pos
      · rw [if_pos hpos, if_pos htwo]
      · rw [hwidth, if_pos htwo, mul_assoc]
        rfl
    · apply hseries 3 three_pos
      · rw [if_pos hpos, if_neg htwo]
      · rw [hwidth, if_neg htwo, mul_assoc]
        rfl

/-- The gates of the callers provide an effort of at least one where a chain is cut to the
maximum size. -/
theorem DrivenBy.driven (hmax : g.minNmosWidth ≤ g.maxNmosWidth) {d : OutputDriver K}
    (hd : DrivenBy g d) : InverterChain.Driven g d := by
  cases hd with
  | rowDecoder => exact driven_gateDriver hc hlinear hratio hmax rfl _ _ _ _
  | basicDecoder numAddressBit =>
      have hwidth (n : ℕ) : (if n = 0 then g.minNmosWidth else g.widthNandN n) =
          if n > 0 then g.widthNandN n else g.minNmosWidth := by
        rcases Nat.eq_zero_or_pos n with rfl | hpos
        · rfl
        · rw [if_neg hpos.ne', if_pos hpos]
      exact driven_gateDriver hc hlinear hratio hmax (hwidth _) _ _ _ _
  | precharger voltagePrecharge numColumn =>
      obtain ⟨hlogic, hinput, -⟩ := initializeOutputDriver_arguments (g := g) 1 g.capInputInv
        (numColumn * g.capLoadPerColumn) 0 true .latencyFirst 0
      have hsum : 0 < 1 + g.tech.pnSizeRatio := add_pos one_pos hratio
      refine driven_of_effort hc hlinear hratio hsum hmax (hlogic.trans ?_) (hinput.trans ?_)
      · exact (div_self hsum.ne').symm
      · unfold Globals.capInputInv Globals.widthInvPmos
        rw [hlinear, hlinear]
        ring

/-- `OutputDriver::Initialize`, as decoders and prechargers call it, leaves legal sizes or
an invalid object, in every style. -/
theorem inverter_chain_sizing_legal [FloorRing K] {pow : K → K → K}
    (hpow : ∀ x y, 1 ≤ x → 0 ≤ y → 1 ≤ pow x y) {d : OutputDriver K} (hd : DrivenBy g d)
    {chain chain' : InverterChain K}
    (hresult : chain.initializeInverterChain g pow d.logicEffort d.inputCap d.outputCap d.outputRes
      d.inv d.areaOptimizationLevel d.minDriverCurrent = .ok chain')
    (hvalid : chain'.invalid = false) : InverterChain.LegalSizing g chain' := by
  obtain ⟨hwide, hdriver, f, width, last, hstyled, hsized⟩ :=
    InverterChain.initialized_of_valid hd.inv_eq hresult hvalid
  have hmax : g.minNmosWidth ≤ g.maxNmosWidth := (le_max_left _ _).trans hwide
  obtain ⟨hf, hmin, hle, hcurrent⟩ :=
    hstyled.legal hpow hd.inv_eq (hd.driven hc hlinear hratio hmax) hwide
  apply hsized.legalSizing hf hmin hle
  rw [hdriver]
  exact hcurrent

end Callers

/-! ## Examples -/

/-- A driver of a row decoder whose chain has three stages, each four times as wide as the
one before it, for examples. -/
def OutputDriver.ofThreeStages : OutputDriver ℚ :=
  (initializeRowDecoder (.linear 100) 16 768 0 false .latencyFirst 0).outputDriver

theorem rootFour_one_le (x y : ℚ) : 1 ≤ x → 0 ≤ y → 1 ≤ rootFour x y := by
  intro _ _
  unfold rootFour
  split
  · norm_num
  · exact le_rfl

theorem inverter_chain_sizing_threeStages :
    ∃ chain, InverterChain.cleared.initializeInverterChain (.linear 100) rootFour
        OutputDriver.ofThreeStages.logicEffort OutputDriver.ofThreeStages.inputCap
        OutputDriver.ofThreeStages.outputCap OutputDriver.ofThreeStages.outputRes
        OutputDriver.ofThreeStages.inv OutputDriver.ofThreeStages.areaOptimizationLevel
        OutputDriver.ofThreeStages.minDriverCurrent = .ok chain ∧
      chain.numStage = 3 ∧ InverterChain.LegalSizing (.linear 100) chain := by
  have hresult : (InverterChain.cleared.initializeInverterChain (.linear 100) rootFour
      OutputDriver.ofThreeStages.logicEffort OutputDriver.ofThreeStages.inputCap
      OutputDriver.ofThreeStages.outputCap OutputDriver.ofThreeStages.outputRes
      OutputDriver.ofThreeStages.inv OutputDriver.ofThreeStages.areaOptimizationLevel
      OutputDriver.ofThreeStages.minDriverCurrent).toOption.map
        (fun chain => (chain.invalid, chain.numStage)) = some (false, 3) := by
    decide +kernel
  obtain ⟨chain, hchain, hflags⟩ := Option.map_eq_some_iff.mp hresult
  have hok := Library.toOption_eq_some_iff.mp hchain
  exact ⟨chain, hok, congrArg Prod.snd hflags,
    inverter_chain_sizing_legal one_pos (fun width => (one_mul width).symm) one_pos rootFour_one_le
      (.rowDecoder 16 768 0 false .latencyFirst 0) hok (congrArg Prod.fst hflags)⟩

end NVSim
