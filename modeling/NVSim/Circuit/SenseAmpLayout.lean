import Mathlib.Tactic.Linarith
import Mathlib.Tactic.NormNum
import Mathlib.Tactic.Positivity
import NVSim.Model.Formula

/-!
# The layout of a sense amplifier

The transistors of a sense amplifier stand in a region as high as its pitch.
`SenseAmp::Initialize` rejects a pitch of at most two feature sizes; a transistor that is
folded loses three feature sizes of its region.
-/

namespace NVSim

variable {K : Type} [Field K] [LinearOrder K] [FloorRing K]

namespace SenseAmp

variable (p : Process K) (s : SenseAmp K)

/-- `SenseAmp::CalculateRC` of a sense amplifier that is not invalid. -/
def calculateRC : Except FormulaHalt K := do
  let senseN ← p.calculateDrainCap (widthSenseN * p.featureSize) .nmos s.pitchSenseAmp
  let senseP ← p.calculateDrainCap (widthSenseP * p.featureSize) .pmos s.pitchSenseAmp
  let senseIso ← p.calculateDrainCap (widthSenseIso * p.featureSize) .pmos s.pitchSenseAmp
  let senseMux ← p.calculateDrainCap (widthSenseMux * p.featureSize) .nmos s.pitchSenseAmp
  .ok (p.calculateGateCap ((widthSenseP + widthSenseN) * p.featureSize) + senseN + senseP +
    senseIso + senseMux)

/-- `SenseAmp::CalculateArea` of a sense amplifier that is not invalid: the height and the
width. -/
def calculateArea : Except FormulaHalt (K × K) := do
  -- the width and the height of the gates are exchanged
  let senseP ← p.calculateGateArea .inv 1 0 (widthSenseP * p.featureSize) s.pitchSenseAmp
  let senseIso ← p.calculateGateArea .inv 1 0 (widthSenseIso * p.featureSize) s.pitchSenseAmp
  let senseN ← p.calculateGateArea .inv 1 (widthSenseN * p.featureSize) 0 s.pitchSenseAmp
  let senseEn ← p.calculateGateArea .inv 1 (widthSenseEn * p.featureSize) 0 s.pitchSenseAmp
  let width := max (max (max (max 0 senseP.1) senseIso.1) senseN.1) senseEn.1
  let height :=
    2 * senseP.2 + senseIso.2 + 2 * minGapBetSameTypeDiffs * p.featureSize +
      2 * senseN.2 + senseEn.2 + 2 * minGapBetSameTypeDiffs * p.featureSize +
      minGapBetPAndNDiffs * p.featureSize
  let converterArea :=
    if s.currentSense then ivConverterArea * p.featureSize * p.featureSize else 0
  .ok (height * width / s.pitchSenseAmp + converterArea / s.pitchSenseAmp,
    s.pitchSenseAmp * s.numColumn)

/-! ## The formulas and the circuit models -/

section Follows

variable {g : Globals K} {p s}

/-- Where the formulas have a result, it is the load of the circuit model. -/
theorem capLoad_of_follows (h : g.tech.Follows p) {cap : K} (hcap : s.calculateRC p = .ok cap) :
    s.capLoad g = cap := by
  unfold calculateRC at hcap
  simp only [Library.bind_eq_ok, Except.ok.injEq] at hcap
  obtain ⟨senseN, hN, senseP, hP, senseIso, hIso, senseMux, hMux, rfl⟩ := hcap
  unfold capLoad
  rw [h.featureSize, h.gateCap, h.drainCap _ _ _ _ hN, h.drainCap _ _ _ _ hP,
    h.drainCap _ _ _ _ hIso, h.drainCap _ _ _ _ hMux]

/-- Where the formulas have a result, it is the size of the circuit model. -/
theorem area_of_follows (h : g.tech.Follows p) {area : K × K}
    (harea : s.calculateArea p = .ok area) : s.area g = area := by
  unfold calculateArea at harea
  simp only [Library.bind_eq_ok, Except.ok.injEq] at harea
  obtain ⟨senseP, hP, senseIso, hIso, senseN, hN, senseEn, hEn, rfl⟩ := harea
  unfold SenseAmp.area
  rw [h.featureSize, h.gateArea _ _ _ _ _ _ hP, h.gateArea _ _ _ _ _ _ hIso,
    h.gateArea _ _ _ _ _ _ hN, h.gateArea _ _ _ _ _ _ hEn]

end Follows

/-! ## Folding -/

/-- The widths of the transistors, in feature sizes. -/
def transistorWidths : List K :=
  [widthSenseN, widthSenseEn, widthSenseP, widthSenseMux, widthSenseIso]

/-- Both evaluations of a sense amplifier complete, and every transistor that is folded has
a positive number of fingers. -/
structure LayoutFeasible : Prop where
  rc : ∃ cap, s.calculateRC p = .ok cap
  area : ∃ area, s.calculateArea p = .ok area
  fingers : ∀ width ∈ (transistorWidths : List K), ¬ width * p.featureSize < s.pitchSenseAmp →
    ∃ n, p.numFolded (width * p.featureSize) s.pitchSenseAmp = .ok n ∧ 0 < n

section Fingers

variable [IsStrictOrderedRing K] {p}

/-- A transistor is folded into a positive number of fingers if and only if its region is
higher than the overhead, by enough for an `int`. -/
theorem numFolded_pos_iff {width maxWidth : K} (hwidth : 0 < width) :
    (∃ n, p.numFolded width maxWidth = .ok n ∧ 0 < n) ↔
      width ≤ intMax * (maxWidth - 3 * p.featureSize) := by
  unfold Process.numFolded convertToInt
  constructor
  · rintro ⟨n, hn, hpos⟩
    split_ifs at hn with hzero hrange
    obtain rfl := Except.ok.inj hn
    have hquotient : 0 < width / (maxWidth - 3 * p.featureSize) := Int.ceil_pos.mp hpos
-- the width is positive, so the finger count has the sign of the region
    have hregion : 0 < maxWidth - 3 * p.featureSize := by
      rcases div_pos_iff.mp hquotient with ⟨-, hregion⟩ | ⟨hnegative, -⟩
      · exact hregion
      · exact absurd hwidth hnegative.not_gt
    exact (div_le_iff₀ hregion).mp (Int.ceil_le.mp hrange.2)
  · intro hfits
    have hmax : (0 : K) ≤ intMax := Int.cast_nonneg (by decide)
    have hregion : 0 < maxWidth - 3 * p.featureSize := by
      by_contra hnot
      have hnonpos := mul_nonpos_of_nonneg_of_nonpos hmax (not_lt.mp hnot)
      linarith
    have hpos : 0 < ⌈width / (maxWidth - 3 * p.featureSize)⌉ :=
      Int.ceil_pos.mpr (div_pos hwidth hregion)
    have hle : ⌈width / (maxWidth - 3 * p.featureSize)⌉ ≤ intMax :=
      Int.ceil_le.mpr ((div_le_iff₀ hregion).mpr hfits)
    have hlow : -intMax - 1 ≤ ⌈width / (maxWidth - 3 * p.featureSize)⌉ :=
      (show -intMax - 1 ≤ 0 by decide).trans hpos.le
    exact ⟨_, by rw [if_neg hregion.ne', if_pos ⟨hlow, hle⟩], hpos⟩

/-- A region that is high enough for folding is high enough for the layout. -/
theorem drainRegion_of_fits {width maxWidth : K} (hwidth : 0 < width)
    (hfits : width ≤ intMax * (maxWidth - 3 * p.featureSize)) :
    ∃ d, p.drainRegion width maxWidth = .ok d := by
  unfold Process.drainRegion
  rw [if_pos hwidth]
  by_cases hroom : width < maxWidth
  · exact ⟨_, if_pos hroom⟩
  obtain ⟨n, hn, -⟩ := (numFolded_pos_iff hwidth).mpr hfits
  have hregion : ¬ maxWidth < 3 * p.featureSize := by
    intro hlow
    have hmax : (0 : K) ≤ intMax := Int.cast_nonneg (by decide)
    have hnonpos := mul_nonpos_of_nonneg_of_nonpos hmax (sub_nonpos.mpr hlow.le)
    linarith
  rw [if_neg hroom, if_neg hregion, hn]
  exact ⟨_, rfl⟩

theorem areaRegion_of_fits {width maxWidth : K} (hwidth : 0 < width)
    (hfits : width ≤ intMax * (maxWidth - 3 * p.featureSize)) :
    ∃ r, p.areaRegion width maxWidth = .ok r := by
  unfold Process.areaRegion
  rw [if_pos hwidth]
  by_cases hroom : width < maxWidth
  · exact ⟨_, if_pos hroom⟩
  obtain ⟨n, hn, -⟩ := (numFolded_pos_iff hwidth).mpr hfits
  rw [if_neg hroom, hn]
  exact ⟨_, rfl⟩

end Fingers

/-! ## The pitch -/

section Pitch

variable [IsStrictOrderedRing K] {p s}

/-- The pitch leaves enough of the region for the fingers of the widest transistor. -/
def PitchFits (p : Process K) (s : SenseAmp K) : Prop :=
  widthSenseIso * p.featureSize ≤ intMax * (s.pitchSenseAmp - 3 * p.featureSize)

omit [FloorRing K] in
/-- The widths of the transistors are positive, and the isolation transistors are the
widest. -/
theorem mem_transistorWidths {width : K} (h : width ∈ (transistorWidths : List K)) :
    0 < width ∧ width ≤ widthSenseIso := by
  simp only [transistorWidths, List.mem_cons, List.not_mem_nil, or_false] at h
  unfold widthSenseN widthSenseEn widthSenseP widthSenseMux widthSenseIso at *
  rcases h with rfl | rfl | rfl | rfl | rfl <;> constructor <;> norm_num

omit [FloorRing K] in
/-- In a pitch that fits, each transistor does. -/
theorem PitchFits.transistor (h : PitchFits p s) (hF : 0 < p.featureSize) {width : K}
    (hwidth : width ∈ (transistorWidths : List K)) :
    0 < width * p.featureSize ∧
      width * p.featureSize ≤ intMax * (s.pitchSenseAmp - 3 * p.featureSize) := by
  obtain ⟨hpos, hle⟩ := mem_transistorWidths hwidth
  exact ⟨mul_pos hpos hF, (mul_le_mul_of_nonneg_right hle hF.le).trans h⟩

theorem PitchFits.drainCap (h : PitchFits p s) (hF : 0 < p.featureSize) (width : K)
    (hwidth : width ∈ (transistorWidths : List K)) (type : TransistorType) :
    ∃ cap, p.calculateDrainCap (width * p.featureSize) type s.pitchSenseAmp = .ok cap := by
  obtain ⟨hpos, hfits⟩ := h.transistor hF hwidth
  obtain ⟨d, hd⟩ := drainRegion_of_fits hpos hfits
  rw [calculateDrainCap_eq p hpos, hd]
  exact ⟨_, rfl⟩

theorem PitchFits.gateArea (h : PitchFits p s) (hF : 0 < p.featureSize) (width : K)
    (hwidth : width ∈ (transistorWidths : List K)) :
    (∃ area, p.calculateGateArea .inv 1 (width * p.featureSize) 0 s.pitchSenseAmp = .ok area) ∧
      ∃ area, p.calculateGateArea .inv 1 0 (width * p.featureSize) s.pitchSenseAmp = .ok area := by
  obtain ⟨hpos, hfits⟩ := h.transistor hF hwidth
  obtain ⟨r, hr⟩ := areaRegion_of_fits hpos hfits
  exact ⟨calculateGateArea_of_nmos p hr, calculateGateArea_of_pmos p hpos hr⟩

/-- If the widest transistor has its fingers, the pitch fits. -/
theorem pitchFits_of_fingers (hF : 0 < p.featureSize)
    (h : ¬ widthSenseIso * p.featureSize < s.pitchSenseAmp →
      ∃ n, p.numFolded (widthSenseIso * p.featureSize) s.pitchSenseAmp = .ok n ∧ 0 < n) :
    PitchFits p s := by
  have hpos : 0 < widthSenseIso * p.featureSize :=
    mul_pos (mem_transistorWidths (by simp [transistorWidths])).1 hF
  by_cases hroom : widthSenseIso * p.featureSize < s.pitchSenseAmp
  · -- the transistor is not folded, and the region is higher than it
    have hrest : 9 * p.featureSize ≤ s.pitchSenseAmp - 3 * p.featureSize := by
      unfold widthSenseIso at hroom
      linarith
    have hmax : (2 : K) ≤ intMax := by
      have : (2 : ℤ) ≤ intMax := by decide
      exact_mod_cast this
    have hmul := mul_le_mul hmax hrest (by positivity) (by linarith)
    unfold PitchFits widthSenseIso
    linarith
  · exact (numFolded_pos_iff hpos).mp (h hroom)

/-- The layout of a sense amplifier is feasible if and only if its pitch exceeds the folding
overhead, by enough for the number of fingers to be an `int`. -/
theorem layoutFeasible_iff (hF : 0 < p.featureSize) : LayoutFeasible p s ↔ PitchFits p s := by
  constructor
  · intro h
    exact pitchFits_of_fingers hF (h.fingers widthSenseIso (by simp [transistorWidths]))
  · intro h
    refine ⟨?_, ?_, fun width hwidth _ => ?_⟩
    · obtain ⟨senseN, hN⟩ :=
        h.drainCap hF widthSenseN (by simp [transistorWidths]) .nmos
      obtain ⟨senseP, hP⟩ :=
        h.drainCap hF widthSenseP (by simp [transistorWidths]) .pmos
      obtain ⟨senseIso, hIso⟩ :=
        h.drainCap hF widthSenseIso (by simp [transistorWidths]) .pmos
      obtain ⟨senseMux, hMux⟩ :=
        h.drainCap hF widthSenseMux (by simp [transistorWidths]) .nmos
      unfold calculateRC
      rw [hN, hP, hIso, hMux]
      exact ⟨_, rfl⟩
    · obtain ⟨-, senseP, hP⟩ := h.gateArea hF widthSenseP (by simp [transistorWidths])
      obtain ⟨-, senseIso, hIso⟩ :=
        h.gateArea hF widthSenseIso (by simp [transistorWidths])
      obtain ⟨⟨senseN, hN⟩, -⟩ := h.gateArea hF widthSenseN (by simp [transistorWidths])
      obtain ⟨⟨senseEn, hEn⟩, -⟩ :=
        h.gateArea hF widthSenseEn (by simp [transistorWidths])
      unfold calculateArea
      rw [hP, hIso, hN, hEn]
      exact ⟨_, rfl⟩
    · obtain ⟨hpos, hfits⟩ := h.transistor hF hwidth
      exact (numFolded_pos_iff hpos).mpr hfits

/-- For any feature size and any pitch: what `SenseAmp::Initialize` accepts has a feasible
layout if and only if it rejects the pitch, or the pitch exceeds the folding overhead, by
enough for the number of fingers to be an `int`. -/
theorem accepted_pitch_feasible_iff (g : Globals K) (p : Process K)
    (hp : p.featureSize = g.tech.featureSize) (numColumn : ℕ) (currentSense : Bool)
    (senseVoltage pitchSenseAmp : K) :
    ((initializeSenseAmp g numColumn currentSense senseVoltage pitchSenseAmp).invalid = false →
        LayoutFeasible p
          (initializeSenseAmp g numColumn currentSense senseVoltage pitchSenseAmp)) ↔
      pitchSenseAmp ≤ p.featureSize * 2 ∨
        widthSenseIso * p.featureSize ≤ intMax * (pitchSenseAmp - 3 * p.featureSize) := by
  have hF : 0 < p.featureSize := hp ▸ g.tech.featureSize_pos
  have hvalid : (initializeSenseAmp g numColumn currentSense senseVoltage
      pitchSenseAmp).invalid = false ↔ ¬ pitchSenseAmp ≤ p.featureSize * 2 := by
    rw [hp]
    exact decide_eq_false_iff_not
  rw [hvalid, layoutFeasible_iff hF, or_iff_not_imp_left]
  rfl

end Pitch

theorem accepted_pitch_feasible_small :
    ((initializeSenseAmp (.small .small) 1 false 1 4).invalid = false →
        LayoutFeasible .small (initializeSenseAmp (.small .small) 1 false 1 4)) ↔
      4 ≤ Process.small.featureSize * 2 ∨
        widthSenseIso * Process.small.featureSize ≤ intMax * (4 - 3 * Process.small.featureSize) :=
  accepted_pitch_feasible_iff (.small .small) .small rfl 1 false 1 4

/-- A pitch between two and three feature sizes is accepted, and the program exits. -/
theorem accepted_pitch_exits :
    (initializeSenseAmp (.small .small) 1 false 1 (5 / 2)).invalid = false ∧
      (initializeSenseAmp (.small .small) 1 false 1 (5 / 2)).calculateRC .small =
        .error .exit ∧
      ¬ LayoutFeasible .small (initializeSenseAmp (.small .small) 1 false 1 (5 / 2)) := by
  have hexit : (initializeSenseAmp (.small .small) 1 false 1 (5 / 2)).calculateRC .small =
      .error .exit := by
    decide +kernel
  refine ⟨by decide +kernel, hexit, fun h => ?_⟩
  obtain ⟨cap, hcap⟩ := h.rc
  rw [hexit] at hcap
  cases hcap

end SenseAmp

end NVSim
