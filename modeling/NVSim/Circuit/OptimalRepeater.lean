import Mathlib.Tactic.FieldSimp
import Mathlib.Tactic.Linarith
import Mathlib.Tactic.LinearCombination
import Mathlib.Tactic.NormNum
import Mathlib.Tactic.Positivity
import Mathlib.Tactic.Ring
import NVSim.Library.Tradeoff
import NVSim.Model.Formula
import NVSim.Model.Repeater

/-!
# The fastest repeaters

The unit delay of a repeated wire is a trade-off between the size and the spacing of its
repeaters.  `findOptimalRepeater` divides by the input capacitance where the delay charges
the wire with the output capacitance, and it takes all capacitances to grow with the size.
-/

namespace NVSim

open Library

variable {K : Type} [Field K]

/-! ## The capacitances of an inverter -/

namespace Process

variable (p : Process K)

/-- The width of both transistors of an inverter of size one. -/
def inverterWidth : K := minNmosSize * p.featureSize * (1 + p.pnSizeRatio)

/-- How the input capacitance of an inverter grows with its size. -/
def inputCapPerSize : K := p.gateCapPerWidth * p.inverterWidth

/-- The part of the input capacitance that every size has. -/
def fixedInputCap : K := 2 * (p.phyGateLength * p.capPolywire)

/-- How the output capacitance of an inverter grows with its size. -/
def outputCapPerSize : K :=
  (p.drainWidth * p.capJunction + p.capSidewall + p.capDrainToChannel) * p.inverterWidth

/-- The part of the output capacitance that every size has. -/
def fixedOutputCap : K := 4 * (p.drainWidth * p.capSidewall)

/-- The part of the capacitance of an inverter that every size has. -/
def fixedCap : K := p.fixedInputCap + p.fixedOutputCap

variable [LinearOrder K]

/-- A process of positive lengths, widths, currents and resistances. -/
structure Physical (temperature : ℤ) : Prop where
  featureSize : 0 < p.featureSize
  pnSizeRatio : 0 < p.pnSizeRatio
  gateCapPerWidth : 0 < p.gateCapPerWidth
  phyGateLength : 0 ≤ p.phyGateLength
  capPolywire : 0 ≤ p.capPolywire
  capJunction : 0 ≤ p.capJunction
  capSidewall : 0 ≤ p.capSidewall
  capDrainToChannel : 0 ≤ p.capDrainToChannel
  effectiveResistanceMultiplier : 0 < p.effectiveResistanceMultiplier
  vdd : 0 < p.vdd
  currentOnNmos : 0 < p.currentOnNmos (temperature - 300)
  currentOnPmos : 0 < p.currentOnPmos (temperature - 300)

section Physical

variable [IsStrictOrderedRing K] {p} {temperature : ℤ} (hp : p.Physical temperature)

include hp

theorem Physical.inverterWidth_pos : 0 < p.inverterWidth :=
  mul_pos (mul_pos (by unfold minNmosSize; norm_num) hp.featureSize)
    (add_pos one_pos hp.pnSizeRatio)

theorem Physical.drainWidth_pos : 0 < p.drainWidth :=
  mul_pos hp.featureSize (by unfold contactSize minGapBetContactPoly; norm_num)

theorem Physical.fixedInputCap_nonneg : 0 ≤ p.fixedInputCap :=
  mul_nonneg zero_le_two (mul_nonneg hp.phyGateLength hp.capPolywire)

theorem Physical.fixedOutputCap_nonneg : 0 ≤ p.fixedOutputCap :=
  mul_nonneg (by norm_num) (mul_nonneg hp.drainWidth_pos.le hp.capSidewall)

theorem Physical.outputCapPerSize_nonneg : 0 ≤ p.outputCapPerSize :=
  mul_nonneg
    (add_nonneg (add_nonneg (mul_nonneg hp.drainWidth_pos.le hp.capJunction) hp.capSidewall)
      hp.capDrainToChannel)
    hp.inverterWidth_pos.le

theorem Physical.fixedCap_nonneg : 0 ≤ p.fixedCap :=
  add_nonneg hp.fixedInputCap_nonneg hp.fixedOutputCap_nonneg

theorem Physical.capPerSize_pos : 0 < p.inputCapPerSize + p.outputCapPerSize :=
  add_pos_of_pos_of_nonneg (mul_pos hp.gateCapPerWidth hp.inverterWidth_pos)
    hp.outputCapPerSize_nonneg

end Physical

variable [FloorRing K]

/-- The drain of a transistor that is not folded. -/
theorem calculateDrainCap_of_lt {width height : K} (hwidth : 0 < width) (hheight : width < height)
    (type : TransistorType) :
    p.calculateDrainCap width type height =
      .ok ((p.drainWidth * p.capJunction + p.capSidewall + p.capDrainToChannel) * width +
        2 * (p.drainWidth * p.capSidewall)) := by
  have hregion : p.drainRegion width height = .ok ⟨1, 0, width⟩ := by
    unfold drainRegion
    rw [if_pos hwidth, if_pos hheight]
  have hodd : ¬ (1 : ℤ) % 2 = 0 := by decide
  rw [calculateDrainCap_eq p hwidth, hregion]
  apply congrArg Except.ok
  unfold drainCapOf
  dsimp only
  rw [if_neg hodd]
  push_cast
  ring

end Process

namespace RepeatedWire

variable [LinearOrder K] [FloorRing K] [IsStrictOrderedRing K] {g : Globals K} {p : Process K}

/-- Neither transistor of a repeater of some size is folded. -/
def Unfolded (g : Globals K) (size : K) : Prop := nmosSize g size < 1 ∧ pmosSize g size < 1

instance (size : K) : Decidable (Unfolded g size) := inferInstanceAs (Decidable (_ ∧ _))

omit [FloorRing K] in
/-- The sizes that are not folded are those below a limit. -/
theorem exists_unfolded_limit (hF : 0 < g.tech.featureSize) (hratio : 0 < g.tech.pnSizeRatio) :
    ∃ limit, ∀ size, Unfolded g size ↔ size < limit := by
  have hunit : 0 < minNmosSize * g.tech.featureSize :=
    mul_pos (by unfold minNmosSize; norm_num) hF
  refine ⟨min (1 / (minNmosSize * g.tech.featureSize))
    (1 / (minNmosSize * g.tech.featureSize * g.tech.pnSizeRatio)), fun size => ?_⟩
  rw [lt_min_iff, lt_div_iff₀ hunit, lt_div_iff₀ (mul_pos hunit hratio)]
  unfold Unfolded pmosSize nmosSize
  rw [mul_comm size, mul_comm size, mul_right_comm (minNmosSize * g.tech.featureSize) size]

section Inverter

variable (hfollows : g.tech.Follows p) (hp : p.Physical g.inputParameter.temperature)

include hfollows

omit [IsStrictOrderedRing K] in
theorem inputCap_eq (size : K) :
    inputCap g size = p.inputCapPerSize * size + p.fixedInputCap := by
  unfold inputCap pmosSize nmosSize
  rw [hfollows.gateCap, hfollows.gateCap, hfollows.featureSize, hfollows.pnSizeRatio]
  unfold Process.calculateGateCap Process.inputCapPerSize Process.inverterWidth
    Process.fixedInputCap
  ring

omit [IsStrictOrderedRing K] in
theorem outputRes_eq (size : K) : outputRes g size = outputRes g 1 / size := by
  have hscale (current width : K) :
      p.effectiveResistanceMultiplier * p.vdd / (current * (width * size)) =
        p.effectiveResistanceMultiplier * p.vdd / (current * (width * 1)) / size := by
    rw [mul_one, div_div, mul_assoc]
  unfold outputRes pmosSize nmosSize
  rw [hfollows.onResistance, hfollows.onResistance, hfollows.onResistance, hfollows.onResistance]
  unfold Process.calculateOnResistance
  dsimp only
  rw [mul_right_comm _ size, mul_right_comm _ (1 : K), hscale, hscale, add_div]

include hp

theorem nmosSize_pos {size : K} (hsize : 0 < size) : 0 < nmosSize g size := by
  unfold nmosSize
  rw [hfollows.featureSize]
  exact mul_pos (mul_pos (by unfold minNmosSize; norm_num) hp.featureSize) hsize

theorem pmosSize_pos {size : K} (hsize : 0 < size) : 0 < pmosSize g size := by
  unfold pmosSize
  rw [hfollows.pnSizeRatio]
  exact mul_pos (nmosSize_pos hfollows hp hsize) hp.pnSizeRatio

theorem outputCap_eq {size : K} (hsize : 0 < size) (hunfolded : Unfolded g size) :
    outputCap g size = p.outputCapPerSize * size + p.fixedOutputCap := by
  have hnmos := nmosSize_pos hfollows hp hsize
  have hpmos := pmosSize_pos hfollows hp hsize
  unfold outputCap
  rw [hfollows.drainCap _ _ _ _ (p.calculateDrainCap_of_lt hnmos hunfolded.1 _),
    hfollows.drainCap _ _ _ _ (p.calculateDrainCap_of_lt hpmos hunfolded.2 _)]
  unfold pmosSize nmosSize
  rw [hfollows.featureSize, hfollows.pnSizeRatio]
  unfold Process.outputCapPerSize Process.inverterWidth Process.fixedOutputCap
  ring

theorem outputRes_pos : 0 < outputRes g 1 := by
  have hnmos := nmosSize_pos hfollows hp one_pos
  have hpmos := pmosSize_pos hfollows hp one_pos
  have hdrive := mul_pos hp.effectiveResistanceMultiplier hp.vdd
  unfold outputRes
  rw [hfollows.onResistance, hfollows.onResistance]
  exact add_pos (div_pos hdrive (mul_pos hp.currentOnNmos hnmos))
    (div_pos hdrive (mul_pos hp.currentOnPmos hpmos))

theorem inputCap_pos : 0 < inputCap g 1 := by
  rw [inputCap_eq hfollows, mul_one]
  exact add_pos_of_pos_of_nonneg
    (mul_pos hp.gateCapPerWidth (hp.inverterWidth_pos)) hp.fixedInputCap_nonneg

/-! ## The delay as a trade-off -/

/-- The wire with repeaters of another size at another spacing. -/
def resized (w : RepeatedWire K) (size spacing : K) : RepeatedWire K :=
  { w with repeaterSize := size, repeaterSpacing := spacing }

variable {w : RepeatedWire K}

/-- The unit delay is a trade-off, up to a constant factor and a part that depends on
neither the size nor the spacing. -/
theorem unitDelay_resized {size spacing : K} (hsize : 0 < size) (hspacing : 0 < spacing)
    (hunfolded : Unfolded g size) :
    (w.resized size spacing).unitDelay g = 0.693 *
      (tradeoff (outputRes g 1 * (p.inputCapPerSize + p.outputCapPerSize))
        (outputRes g 1 * p.fixedCap) (outputRes g 1 * w.capWirePerUnit)
        (w.resWirePerUnit * p.outputCapPerSize) (0.5 * w.resWirePerUnit * w.capWirePerUnit)
        size spacing + w.resWirePerUnit * p.fixedOutputCap) := by
  unfold unitDelay resized
  dsimp only
  rw [inputCap_eq hfollows, outputCap_eq hfollows hp hsize hunfolded, outputRes_eq hfollows]
  unfold tradeoff Process.fixedCap
  field_simp
  ring

/-- Repeaters are the fastest exactly where the delay is stationary. -/
theorem fastest_iff_stationary (hcap : 0 < w.capWirePerUnit) {size spacing : K}
    (hsize : 0 < size) (hspacing : 0 < spacing) (hunfolded : Unfolded g size) :
    (∀ size' spacing', 0 < size' → 0 < spacing' → Unfolded g size' →
        (w.resized size spacing).unitDelay g ≤ (w.resized size' spacing').unitDelay g) ↔
      outputRes g 1 * (p.inputCapPerSize + p.outputCapPerSize) / spacing +
            outputRes g 1 * p.fixedCap / (size * spacing) =
          0.5 * w.resWirePerUnit * w.capWirePerUnit * spacing ∧
        outputRes g 1 * w.capWirePerUnit / size +
            outputRes g 1 * p.fixedCap / (size * spacing) =
          w.resWirePerUnit * p.outputCapPerSize * size := by
  obtain ⟨limit, hlimit⟩ := exists_unfolded_limit (g := g) (hfollows.featureSize ▸ hp.featureSize)
    (hfollows.pnSizeRatio ▸ hp.pnSizeRatio)
  have hR := outputRes_pos hfollows hp
  have hfactor : (0 : K) < 0.693 := by norm_num
  rw [← tradeoff_le_iff (mul_pos hR hp.capPerSize_pos) (mul_nonneg hR.le hp.fixedCap_nonneg)
    (mul_pos hR hcap) hsize hspacing ((hlimit size).mp hunfolded)]
  refine forall₂_congr fun size' spacing' => forall₂_congr fun hsize' hspacing' => ?_
  rw [← hlimit size']
  apply forall_congr'
  intro hunfolded'
  rw [unitDelay_resized hfollows hp hsize hspacing hunfolded,
    unitDelay_resized hfollows hp hsize' hspacing' hunfolded', mul_le_mul_iff_right₀ hfactor,
    add_le_add_iff_right]

end Inverter

/-! ## The chosen repeaters -/

/-- The number whose root is taken for the size. -/
def sizeRadicand (g : Globals K) (w : RepeatedWire K) : K :=
  outputRes g 1 * w.capWirePerUnit / inputCap g 1 / w.resWirePerUnit

/-- The number whose root is taken for the spacing. -/
def spacingRadicand (g : Globals K) (w : RepeatedWire K) : K :=
  2 * outputRes g 1 * (outputCap g 1 + inputCap g 1) / (w.resWirePerUnit * w.capWirePerUnit)

omit [FloorRing K] [IsStrictOrderedRing K] in
/-- The root of a positive number is positive. -/
theorem root_pos {x : K} (hx : 0 < x) (hroot : g.libm.sqrt x * g.libm.sqrt x = x) :
    0 < g.libm.sqrt x := by
  apply lt_of_le_of_ne (g.libm.sqrt_nonneg x)
  intro hzero
  rw [← hzero, mul_zero] at hroot
  exact hx.ne hroot

/-- The cases in which the chosen repeaters are the fastest.  Either no capacitance is
fixed and the output of a minimum inverter is as large as its input, or the chosen size is
one and the two errors cancel in the spacing. -/
def OptimumMatches (g : Globals K) (p : Process K) (w : RepeatedWire K) : Prop :=
  (p.fixedCap = 0 ∧ p.outputCapPerSize = inputCap g 1) ∨
    (outputRes g 1 * w.capWirePerUnit = w.resWirePerUnit * inputCap g 1 ∧
      inputCap g 1 ≤ p.outputCapPerSize ∧
      2 * (inputCap g 1 + outputCap g 1) * (p.outputCapPerSize - inputCap g 1) ^ 2 =
        inputCap g 1 * p.fixedCap ^ 2)

section Stationary

variable {R c r A B C a size spacing : K}

omit [FloorRing K] in
/-- The spacing is stationary if the size is one or no capacitance is fixed. -/
theorem spacing_stationary_iff (hR : R ≠ 0) (hsize : size ≠ 0)
    (hspacing : spacing ≠ 0) (hroot : r * c * (spacing * spacing) = 2 * R * (A + B)) :
    R * A / spacing + R * B / (size * spacing) = 0.5 * r * c * spacing ↔ B = B * size := by
  have hhalf : (0.5 : K) = 1 / 2 := by norm_num
  have hleft : R * A / spacing + R * B / (size * spacing) =
      R * (A * size + B) / (size * spacing) := by
    field_simp
  have hright : 0.5 * r * c * spacing = R * ((A + B) * size) / (size * spacing) := by
    rw [hhalf, eq_div_iff (mul_ne_zero hsize hspacing)]
    field_simp
    linear_combination hroot
  rw [hleft, hright, div_left_inj' (mul_ne_zero hsize hspacing), mul_right_inj' hR, add_mul,
    add_right_inj]

omit [LinearOrder K] [FloorRing K] [IsStrictOrderedRing K] in
/-- The size is stationary if what the wire is charged with exceeds the input capacitance
by what is fixed. -/
theorem size_stationary_iff (hR : R ≠ 0) (hC : C ≠ 0) (hsize : size ≠ 0)
    (hspacing : spacing ≠ 0) (hroot : r * C * (size * size) = R * c) :
    R * c / size + R * B / (size * spacing) = r * a * size ↔ C * B = (a - C) * (c * spacing) := by
  have hleft : R * c / size + R * B / (size * spacing) =
      R * (C * c * spacing + C * B) / (C * (size * spacing)) := by
    field_simp
  have hright : r * a * size = R * (a * c * spacing) / (C * (size * spacing)) := by
    rw [eq_div_iff (mul_ne_zero hC (mul_ne_zero hsize hspacing))]
    linear_combination a * spacing * hroot
  rw [hleft, hright, div_left_inj' (mul_ne_zero hC (mul_ne_zero hsize hspacing)),
    mul_right_inj' hR]
  constructor
  · intro h
    linear_combination h
  · intro h
    linear_combination h

omit [FloorRing K] in
/-- The delay is stationary at the chosen repeaters in those cases and no others.  Here
`C` is the input capacitance that the size is computed from, `A` and `B` are the part of
the capacitance that grows with the size and the fixed one, and `a` is the growing part of
the output capacitance. -/
theorem stationary_iff (hR : 0 < R) (hc : 0 < c) (hr : 0 < r) (hB : 0 ≤ B) (hC : 0 < C)
    (hsize : 0 < size) (hspacing : 0 < spacing)
    (hsizeRoot : r * C * (size * size) = R * c)
    (hspacingRoot : r * c * (spacing * spacing) = 2 * R * (A + B)) :
    (R * A / spacing + R * B / (size * spacing) = 0.5 * r * c * spacing ∧
        R * c / size + R * B / (size * spacing) = r * a * size) ↔
      (B = 0 ∧ a = C) ∨
        (R * c = r * C ∧ C ≤ a ∧ 2 * (A + B) * (a - C) ^ 2 = C * B ^ 2) := by
  have hload : 0 < c * spacing := mul_pos hc hspacing
  -- at a size of one, the square of the load of the wire does not depend on it
  have hsquare (hone : R * c = r * C) : (c * spacing) ^ 2 = 2 * (A + B) * C := by
    apply mul_left_cancel₀ hr.ne'
    linear_combination c * hspacingRoot + 2 * (A + B) * hone
  rw [spacing_stationary_iff hR.ne' hsize.ne' hspacing.ne' hspacingRoot,
    size_stationary_iff hR.ne' hC.ne' hsize.ne' hspacing.ne' hsizeRoot]
  constructor
  · rintro ⟨hfirst, hsecond⟩
    rcases eq_or_ne B 0 with hzero | hne
    · rw [hzero, mul_zero, eq_comm, mul_eq_zero_iff_right hload.ne', sub_eq_zero] at hsecond
      exact .inl ⟨hzero, hsecond⟩
    · have hone : size = 1 := (mul_eq_left₀ hne).mp hfirst.symm
      have hRc : R * c = r * C := by
        rw [← hsizeRoot, hone, mul_one, mul_one]
      have hexcess : 0 ≤ a - C :=
        nonneg_of_mul_nonneg_left (hsecond ▸ mul_nonneg hC.le hB) hload
      refine .inr ⟨hRc, sub_nonneg.mp hexcess, mul_left_cancel₀ hC.ne' ?_⟩
      linear_combination (C * B + (a - C) * (c * spacing)) * (-hsecond) -
        (a - C) ^ 2 * hsquare hRc
  · rintro (⟨hzero, heq⟩ | ⟨hRc, hle, heq⟩)
    · rw [hzero, heq]
      exact ⟨(zero_mul _).symm, by rw [mul_zero, sub_self, zero_mul]⟩
    · have hone : size = 1 := by
        rw [hRc, mul_eq_left₀ (mul_pos hr hC).ne', mul_self_eq_one_iff] at hsizeRoot
        exact hsizeRoot.resolve_right (by linarith only [hsize])
      refine ⟨by rw [hone, mul_one], ?_⟩
      refine (pow_left_inj₀ (mul_nonneg hC.le hB)
        (mul_nonneg (sub_nonneg.mpr hle) hload.le) two_ne_zero).mp ?_
      linear_combination -C * heq - (a - C) ^ 2 * hsquare hRc

end Stationary

variable {w : RepeatedWire K}

/-- `Wire::findOptimalRepeater` minimises the unit delay, among all repeaters that are not
folded, in those cases and no others. -/
theorem optimal_repeater_minimises_iff (hfollows : g.tech.Follows p)
    (hp : p.Physical g.inputParameter.temperature) (hcap : 0 < w.capWirePerUnit)
    (hres : 0 < w.resWirePerUnit) (hone : Unfolded g 1)
    (hchosen : Unfolded g (w.findOptimalRepeater g).repeaterSize)
    (hsizeRoot : g.libm.sqrt (w.sizeRadicand g) * g.libm.sqrt (w.sizeRadicand g) =
      w.sizeRadicand g)
    (hspacingRoot : g.libm.sqrt (w.spacingRadicand g) * g.libm.sqrt (w.spacingRadicand g) =
      w.spacingRadicand g) :
    (∀ size spacing, 0 < size → 0 < spacing → Unfolded g size →
        (w.findOptimalRepeater g).unitDelay g ≤ (w.resized size spacing).unitDelay g) ↔
      OptimumMatches g p w := by
  have hR := outputRes_pos hfollows hp
  have hC := inputCap_pos hfollows hp
  have hload : outputCap g 1 + inputCap g 1 =
      p.inputCapPerSize + p.outputCapPerSize + p.fixedCap := by
    rw [inputCap_eq hfollows, outputCap_eq hfollows hp one_pos hone]
    unfold Process.fixedCap
    ring
  have hloadPos : 0 < p.inputCapPerSize + p.outputCapPerSize + p.fixedCap :=
    add_pos_of_pos_of_nonneg hp.capPerSize_pos hp.fixedCap_nonneg
  have hsizeRadicand : 0 < w.sizeRadicand g := div_pos (div_pos (mul_pos hR hcap) hC) hres
  have hspacingRadicand : 0 < w.spacingRadicand g := by
    unfold spacingRadicand
    rw [hload]
    exact div_pos (mul_pos (mul_pos two_pos hR) hloadPos) (mul_pos hres hcap)
  have hsize := root_pos hsizeRadicand hsizeRoot
  have hspacing := root_pos hspacingRadicand hspacingRoot
  have hchoice : w.findOptimalRepeater g =
      w.resized (g.libm.sqrt (w.sizeRadicand g)) (g.libm.sqrt (w.spacingRadicand g)) := rfl
-- the delay is least where it is stationary; the squares of the chosen pair are the radicands
  rw [hchoice, fastest_iff_stationary hfollows hp hcap hsize hspacing hchosen,
    stationary_iff hR hcap hres hp.fixedCap_nonneg hC hsize hspacing ?_ ?_]
  · unfold OptimumMatches
    rw [add_comm (inputCap g 1), hload]
  · rw [hsizeRoot]
    unfold sizeRadicand
    field_simp
  · rw [hspacingRoot, ← hload]
    unfold spacingRadicand
    field_simp

end RepeatedWire

/-! ## Examples -/

/-- A process in which the output of an inverter is larger than its input, for examples. -/
def Process.largeDrain : Process ℚ :=
  { Process.small with featureSize := 1 / 10, capSidewall := 0, capDrainToChannel := 13 / 4 }

/-- A square root that is exact at zero, one and nine hundred. -/
def Libm.exactAtNineHundred : Libm ℚ where
  sqrt := fun x => if x = 900 then 30 else max x 0
  log := fun x => x - 1
  sqrt_nonneg := by
    intro x
    split
    · norm_num
    · exact le_max_right x 0

/-- The global objects of this process with this square root. -/
def Globals.largeDrain : Globals ℚ :=
  { Globals.small .small with
    tech := Process.largeDrain.technology (by norm_num [Process.largeDrain])
    libm := .exactAtNineHundred }

/-- A wire for which the chosen repeaters have size one and spacing thirty. -/
def RepeatedWire.largeDrain : RepeatedWire ℚ where
  capWirePerUnit := 9 / 200
  resWirePerUnit := 1
  repeaterSize := 0
  repeaterSpacing := 0

theorem Process.largeDrain_physical (temperature : ℤ) :
    Process.largeDrain.Physical temperature where
  featureSize := by norm_num [largeDrain]
  pnSizeRatio := by norm_num [largeDrain, small]
  gateCapPerWidth := by norm_num [largeDrain, small, gateCapPerWidth]
  phyGateLength := by norm_num [largeDrain, small]
  capPolywire := by norm_num [largeDrain, small]
  capJunction := by norm_num [largeDrain, small]
  capSidewall := by norm_num [largeDrain]
  capDrainToChannel := by norm_num [largeDrain]
  effectiveResistanceMultiplier := by norm_num [largeDrain, small]
  vdd := by norm_num [largeDrain, small]
  currentOnNmos := by norm_num [largeDrain, small]
  currentOnPmos := by norm_num [largeDrain, small]

theorem optimal_repeater_minimises_largeDrain :
    (∀ size spacing, 0 < size → 0 < spacing → RepeatedWire.Unfolded .largeDrain size →
        (RepeatedWire.largeDrain.findOptimalRepeater .largeDrain).unitDelay .largeDrain ≤
          (RepeatedWire.largeDrain.resized size spacing).unitDelay .largeDrain) ↔
      RepeatedWire.OptimumMatches .largeDrain .largeDrain .largeDrain :=
  RepeatedWire.optimal_repeater_minimises_iff (Process.technology_follows _ _)
    (Process.largeDrain_physical _) (by norm_num [RepeatedWire.largeDrain])
    (by norm_num [RepeatedWire.largeDrain]) (by decide +kernel) (by decide +kernel)
    (by decide +kernel) (by decide +kernel)

/-- The chosen repeaters have size one; repeaters of half the size are faster. -/
theorem optimal_repeater_slower :
    Globals.largeDrain.tech.Follows Process.largeDrain ∧
      (Process.largeDrain.Physical Globals.largeDrain.inputParameter.temperature) ∧
      RepeatedWire.largeDrain.findOptimalRepeater .largeDrain =
        RepeatedWire.largeDrain.resized 1 30 ∧
      RepeatedWire.Unfolded .largeDrain (1 : ℚ) ∧
      RepeatedWire.Unfolded .largeDrain (1 / 2 : ℚ) ∧
      ¬ (RepeatedWire.largeDrain.findOptimalRepeater .largeDrain).unitDelay .largeDrain ≤
        (RepeatedWire.largeDrain.resized (1 / 2) 30).unitDelay .largeDrain :=
  ⟨Process.technology_follows _ _, Process.largeDrain_physical _, by decide +kernel,
    by decide +kernel, by decide +kernel, by decide +kernel⟩

end NVSim
