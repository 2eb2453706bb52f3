import Mathlib.Algebra.Order.Floor.Ring
import Mathlib.Tactic.FieldSimp
import NVSim.Model.Periphery

/-!
# The formulas

`formula.cpp`: the capacitances, the resistance and the size of a transistor or of a gate.
The transistors of a gate are folded when they are wider than the region they are put in.
`CalculateGateCapacitance` exits when such a region is too small; `CalculateGateArea`, which
is otherwise the same, does not look.
-/

namespace NVSim

section Constants

variable {K : Type} [Field K]

/-- `MIN_GAP_BET_POLY`. -/
def minGapBetPoly : K := 1.5

/-- `MIN_GAP_BET_CONTACT_POLY`. -/
def minGapBetContactPoly : K := 0.75

/-- `CONTACT_SIZE`. -/
def contactSize : K := 1

/-- `MIN_WIDTH_POWER_RAIL`. -/
def minWidthPowerRail : K := 2

/-- `AVG_RATIO_LEAK_2INPUT_NAND`, or `AVG_RATIO_LEAK_3INPUT_NAND`. -/
def avgRatioLeakNand (numInput : ℕ) : K := if numInput = 2 then 0.48 else 0.31

/-- `AVG_RATIO_LEAK_2INPUT_NOR`, or `AVG_RATIO_LEAK_3INPUT_NOR`. -/
def avgRatioLeakNor (numInput : ℕ) : K := if numInput = 2 then 0.95 else 0.62

end Constants

/-- The fields of a technology that the formulas read. -/
structure Process (K : Type) where
  featureSize : K
  vdd : K
  pnSizeRatio : K
  phyGateLength : K
  capIdealGate : K
  capOverlap : K
  capFringe : K
  capPolywire : K
  capJunction : K
  capSidewall : K
  capDrainToChannel : K
  effectiveResistanceMultiplier : K
  vth : K
  buildInPotential : K
  capOx : K
  vdsatNmos : K
  vdsatPmos : K
  effectiveElectronMobility : K
  effectiveHoleMobility : K
  currentOnNmos : ℤ → K
  currentOnPmos : ℤ → K
  currentOffNmos : ℤ → K
  currentOffPmos : ℤ → K

/-- How a formula ends without a result: it exits, or it converts a number to `int` that
has no such value. -/
inductive FormulaHalt
  | exit | undefined
deriving DecidableEq, Repr

/-- `INT_MAX`. -/
def intMax : ℤ := 2 ^ 31 - 1

/-- The conversion of a number that is an integer to `int`. -/
def convertToInt (n : ℤ) : Except FormulaHalt ℤ :=
  if -intMax - 1 ≤ n ∧ n ≤ intMax then .ok n else .error .undefined

namespace Process

variable {K : Type} [Field K] (p : Process K)

/-- The capacitance of a gate per meter of its width. -/
def gateCapPerWidth : K := p.capIdealGate + p.capOverlap + 3 * p.capFringe

/-- `CalculateGateCap`. -/
def calculateGateCap (width : K) : K := p.gateCapPerWidth * width + p.phyGateLength * p.capPolywire

/-- `CalculateFBRAMGateCap`. -/
def calculateFBRAMGateCap (width thicknessFactor : K) : K :=
  (p.capIdealGate / thicknessFactor + p.capOverlap + 3 * p.capFringe) * width +
    p.phyGateLength * p.capPolywire

/-- `CalculateFBRAMDrainCap`. -/
def calculateFBRAMDrainCap (width : K) : K := (3 * p.capSidewall + p.capDrainToChannel) * width

/-- The width of the drain of a transistor that is not folded. -/
def drainWidth : K := p.featureSize * (contactSize + minGapBetContactPoly * 2)

/-- `CalculateOnResistance`, of a temperature in range. -/
def calculateOnResistance (width : K) (type : TransistorType) (temperature : ℤ) : K :=
  match type with
  | .nmos =>
      p.effectiveResistanceMultiplier * p.vdd / (p.currentOnNmos (temperature - 300) * width)
  | .pmos =>
      p.effectiveResistanceMultiplier * p.vdd / (p.currentOnPmos (temperature - 300) * width)

variable [LinearOrder K]

/-- `CalculateGateLeakage` of an inverter, of a temperature in range. -/
def calculateInvLeakage (widthNMOS widthPMOS : K) (temperature : ℤ) : K :=
  max (widthNMOS * p.currentOffNmos (temperature - 300))
    (widthPMOS * p.currentOffPmos (temperature - 300))

/-- `CalculateGateLeakage`, of a temperature in range. -/
def calculateGateLeakage (gateType : GateType) (numInput : ℕ) (widthNMOS widthPMOS : K)
    (temperature : ℤ) : K :=
  match gateType with
  | .inv => p.calculateInvLeakage widthNMOS widthPMOS temperature
  | .nor =>
      avgRatioLeakNor numInput * (widthNMOS * p.currentOffNmos (temperature - 300) * numInput)
  | .nand =>
      avgRatioLeakNand numInput * (widthPMOS * p.currentOffPmos (temperature - 300) * numInput)

/-- `CalculateTransconductance`. -/
def calculateTransconductance (width : K) (type : TransistorType) : K :=
  match type with
  | .nmos => p.effectiveElectronMobility * p.capOx / 2 * width / p.phyGateLength *
      min p.vdsatNmos (p.vdd - p.vth)
  | .pmos => p.effectiveHoleMobility * p.capOx / 2 * width / p.phyGateLength *
      min p.vdsatPmos (p.vdd - p.vth)

/-- `maxWidthPMOS` and `maxWidthNMOS`: how a region is divided. -/
def maxWidths (widthNMOS widthPMOS heightTransistorRegion : K) : K × K :=
  let ratio := widthPMOS / (widthPMOS + widthNMOS)
  if ratio = 0 then (0, heightTransistorRegion)
  else if ratio = 1 then (heightTransistorRegion, 0)
  else
    let maxWidthPMOS := ratio * (heightTransistorRegion - minGapBetPAndNDiffs * p.featureSize)
    (maxWidthPMOS, maxWidthPMOS / ratio * (1 - ratio))

variable [FloorRing K]

/-- `numFoldedPMOS` and `numFoldedNMOS`; `3F` for folding overhead.  The quotient of a
positive width by zero is infinite. -/
def numFolded (width maxWidth : K) : Except FormulaHalt ℤ :=
  if maxWidth - 3 * p.featureSize = 0 then .error .undefined
  else convertToInt ⌈width / (maxWidth - 3 * p.featureSize)⌉

/-! ## Area -/

/-- `unitWidthRegion` and `heightRegion` of a transistor. -/
def areaRegion (width maxWidth : K) : Except FormulaHalt (K × K) :=
  if width > 0 then
    if width < maxWidth then .ok (p.featureSize, width)
    else do
      let n ← p.numFolded width maxWidth
      .ok (n * p.featureSize + (n - 1) * p.featureSize * minGapBetPoly, maxWidth)
  else .ok (0, 0)

/-- The width of transistors in series. -/
def seriesWidth (numInput : ℕ) (unitWidthRegion : K) : K :=
  2 * p.featureSize * (contactSize + minGapBetContactPoly * 2) + unitWidthRegion * numInput +
    ((numInput : K) - 1) * p.featureSize * minGapBetPoly

/-- The width of parallel transistors. -/
def parallelWidth (numInput : ℕ) (unitWidthRegion : K) : K :=
  2 * p.featureSize * (contactSize + minGapBetContactPoly * 2) + unitWidthRegion * numInput +
    ((numInput : K) - 1) * p.featureSize * (contactSize + minGapBetContactPoly * 2)

/-- `widthRegionP` and `widthRegionN`. -/
def regionWidths (gateType : GateType) (numInput : ℕ) (unitWidthRegionP unitWidthRegionN : K) :
    K × K :=
  match gateType with
  | .inv =>
      (2 * p.featureSize * (contactSize + minGapBetContactPoly * 2) + unitWidthRegionP,
        2 * p.featureSize * (contactSize + minGapBetContactPoly * 2) + unitWidthRegionN)
  | .nor => (p.seriesWidth numInput unitWidthRegionP, p.parallelWidth numInput unitWidthRegionN)
  | .nand => (p.parallelWidth numInput unitWidthRegionP, p.seriesWidth numInput unitWidthRegionN)

/-- `CalculateGateArea`: the height and the width. -/
def calculateGateArea (gateType : GateType) (numInput : ℕ)
    (widthNMOS widthPMOS heightTransistorRegion : K) : Except FormulaHalt (K × K) := do
  let maxWidths := p.maxWidths widthNMOS widthPMOS heightTransistorRegion
  let regionP ← p.areaRegion widthPMOS maxWidths.1
  let regionN ← p.areaRegion widthNMOS maxWidths.2
  let widths := p.regionWidths gateType numInput regionP.1 regionN.1
  .ok
    (if widthPMOS > 0 ∧ widthNMOS > 0 then
        regionN.2 + regionP.2 + p.featureSize * minGapBetPAndNDiffs +
          2 * p.featureSize * minWidthPowerRail
      else regionN.2 + regionP.2,
      max widths.2 widths.1)

/-! ## Capacitance -/

/-- The drain of a transistor. -/
structure Drain (K : Type) where
  numFolded : ℤ
  unitWidthDrain : K
  heightDrain : K

/-- The folding of a transistor for its drain. -/
def drainRegion (width maxWidth : K) : Except FormulaHalt (Drain K) :=
  if width > 0 then
    if width < maxWidth then .ok ⟨1, 0, width⟩
    else if maxWidth < 3 * p.featureSize then .error .exit
    else do
      let n ← p.numFolded width maxWidth
      .ok ⟨n, (n - 1) * p.featureSize * minGapBetPoly, maxWidth⟩
  else .ok ⟨1, 0, 0⟩

/-- The width of the drain of transistors in series, in the worst case. -/
def seriesDrain (numInput : ℕ) (unitWidthDrain : K) : K :=
  p.drainWidth + unitWidthDrain * numInput + ((numInput : K) - 1) * p.featureSize * minGapBetPoly

/-- The width of the drains of parallel transistors. -/
def parallelDrain (numInput : ℕ) (unitWidthDrain : K) : K :=
  (p.drainWidth + unitWidthDrain) * numInput

/-- `widthDrainP` and `widthDrainN`, of transistors that are there. -/
def drainWidths (gateType : GateType) (numInput : ℕ) (unitWidthDrainP unitWidthDrainN : K) :
    K × K :=
  match gateType with
  | .inv => (p.drainWidth + unitWidthDrainP, p.drainWidth + unitWidthDrainN)
  | .nor => (p.seriesDrain numInput unitWidthDrainP, p.parallelDrain numInput unitWidthDrainN)
  | .nand => (p.parallelDrain numInput unitWidthDrainP, p.seriesDrain numInput unitWidthDrainN)

/-- The junction, sidewall and drain to channel capacitances of a drain. -/
def drainCapOf (widthDrain : K) (d : Drain K) : K :=
  widthDrain * d.heightDrain * p.capJunction +
    (if d.numFolded % 2 = 0 then 2 * widthDrain * p.capSidewall
      else (2 * widthDrain + d.heightDrain) * p.capSidewall) +
    d.numFolded * d.heightDrain * p.capDrainToChannel

/-- `CalculateGateCapacitance`: the input and the output capacitance. -/
def calculateGateCapacitance (gateType : GateType) (numInput : ℕ)
    (widthNMOS widthPMOS heightTransistorRegion : K) : Except FormulaHalt (K × K) := do
  let maxWidths := p.maxWidths widthNMOS widthPMOS heightTransistorRegion
  let drainP ← p.drainRegion widthPMOS maxWidths.1
  let drainN ← p.drainRegion widthNMOS maxWidths.2
  let widths := p.drainWidths gateType numInput drainP.unitWidthDrain drainN.unitWidthDrain
  let widthDrainP := if widthPMOS > 0 then widths.1 else 0
  let widthDrainN := if widthNMOS > 0 then widths.2 else 0
  .ok (p.calculateGateCap widthNMOS + p.calculateGateCap widthPMOS,
    p.drainCapOf widthDrainN drainN + p.drainCapOf widthDrainP drainP)

/-- `CalculateDrainCap`. -/
def calculateDrainCap (width : K) (type : TransistorType) (heightTransistorRegion : K) :
    Except FormulaHalt K := do
  let cap ←
    match type with
    | .nmos => p.calculateGateCapacitance .inv 1 width 0 heightTransistorRegion
    | .pmos => p.calculateGateCapacitance .inv 1 0 width heightTransistorRegion
  .ok cap.2

end Process

/-- `horowitz`: the delay and the output ramp; the normalised switching voltage is a half. -/
def horowitz {K : Type} [Field K] [LinearOrder K] (libm : Libm K) (tr beta rampInput : K) :
    K × K :=
  let alpha := 1 / rampInput / tr
  let vs := 0.5
  let result := tr * libm.sqrt (libm.log vs * libm.log vs + 2 * alpha * beta * (1 - vs))
  (result, (1 - vs) / result)

/-! ## The technology of a process -/

/-- A technology whose formulas are those of `formula.cpp` wherever they have a result. -/
structure Technology.Follows {K : Type} [Field K] [LinearOrder K] [FloorRing K]
    (tech : Technology K) (p : Process K) : Prop where
  featureSize : tech.featureSize = p.featureSize
  vdd : tech.vdd = p.vdd
  pnSizeRatio : tech.pnSizeRatio = p.pnSizeRatio
  gateCap : ∀ width, tech.gateCap width = p.calculateGateCap width
  drainCap : ∀ width type height cap,
    p.calculateDrainCap width type height = .ok cap → tech.drainCap width type height = cap
  onResistance : ∀ width type temperature,
    tech.onResistance width type temperature = p.calculateOnResistance width type temperature
  gateArea : ∀ gateType numInput widthNMOS widthPMOS height area,
    p.calculateGateArea gateType numInput widthNMOS widthPMOS height = .ok area →
      tech.gateArea gateType numInput widthNMOS widthPMOS height = area
  gateCapacitance : ∀ gateType numInput widthNMOS widthPMOS height cap,
    p.calculateGateCapacitance gateType numInput widthNMOS widthPMOS height = .ok cap →
      tech.gateCapacitance gateType numInput widthNMOS widthPMOS height = cap

section Technology

variable {K : Type} [Field K] [LinearOrder K] [FloorRing K]

/-- The technology with the formulas of a process, which are zero where they have no result. -/
def Process.technology (p : Process K) (featureSize_pos : 0 < p.featureSize) : Technology K where
  featureSize := p.featureSize
  vdd := p.vdd
  vth := p.vth
  pnSizeRatio := p.pnSizeRatio
  buildInPotential := p.buildInPotential
  capJunction := p.capJunction
  currentOnNmos := p.currentOnNmos
  currentOffNmos := p.currentOffNmos
  gateCap := p.calculateGateCap
  fbramGateCap := p.calculateFBRAMGateCap
  fbramDrainCap := p.calculateFBRAMDrainCap
  drainCap := fun width type height => (p.calculateDrainCap width type height).toOption.getD 0
  onResistance := p.calculateOnResistance
  transconductance := p.calculateTransconductance
  gateLeakage := p.calculateGateLeakage
  gateArea := fun gateType numInput widthNMOS widthPMOS height =>
    (p.calculateGateArea gateType numInput widthNMOS widthPMOS height).toOption.getD (0, 0)
  gateCapacitance := fun gateType numInput widthNMOS widthPMOS height =>
    (p.calculateGateCapacitance gateType numInput widthNMOS widthPMOS height).toOption.getD (0, 0)
  featureSize_pos := featureSize_pos

theorem Process.technology_follows (p : Process K) (hF : 0 < p.featureSize) :
    (p.technology hF).Follows p where
  featureSize := rfl
  vdd := rfl
  pnSizeRatio := rfl
  gateCap _ := rfl
  drainCap _ _ _ _ hcap := congrArg (fun result => result.toOption.getD 0) hcap
  onResistance _ _ _ := rfl
  gateArea _ _ _ _ _ _ harea := congrArg (fun result => result.toOption.getD (0, 0)) harea
  gateCapacitance _ _ _ _ _ _ hcap := congrArg (fun result => result.toOption.getD (0, 0)) hcap

/-- The global objects with the formulas of a process. -/
def Globals.withFormulas (g : Globals K) (p : Process K) (featureSize_pos : 0 < p.featureSize) :
    Globals K :=
  { g with
    tech := p.technology featureSize_pos
    horowitz := NVSim.horowitz g.libm }

end Technology

/-! ## One transistor -/

section Transistor

variable {K : Type} [Field K] [LinearOrder K] (p : Process K)

@[simp] theorem maxWidths_nmos (width height : K) : p.maxWidths width 0 height = (0, height) := by
  unfold Process.maxWidths
  rw [zero_div]
  exact if_pos rfl

theorem maxWidths_pmos {width : K} (hwidth : width ≠ 0) (height : K) :
    p.maxWidths 0 width height = (height, 0) := by
  unfold Process.maxWidths
  rw [add_zero, div_self hwidth]
  dsimp only
  rw [if_neg one_ne_zero, if_pos rfl]

variable [FloorRing K]

/-- A transistor that is not there has no drain. -/
theorem drainRegion_zero (maxWidth : K) : p.drainRegion 0 maxWidth = .ok ⟨1, 0, 0⟩ :=
  if_neg (lt_irrefl _)

theorem areaRegion_zero (maxWidth : K) : p.areaRegion 0 maxWidth = .ok (0, 0) :=
  if_neg (lt_irrefl _)

omit [LinearOrder K] [FloorRing K] in
theorem drainCapOf_zero : p.drainCapOf 0 ⟨1, 0, 0⟩ = 0 := by
  simp [Process.drainCapOf]

/-- The drain of a single transistor has its whole region for itself. -/
theorem calculateDrainCap_eq {width : K} (hwidth : 0 < width) (type : TransistorType)
    (height : K) :
    p.calculateDrainCap width type height =
      (p.drainRegion width height).map fun d =>
        p.drainCapOf (p.drainWidth + d.unitWidthDrain) d := by
  unfold Process.calculateDrainCap Process.calculateGateCapacitance
  cases type with
  | nmos =>
      dsimp only
      rw [maxWidths_nmos, drainRegion_zero]
      cases p.drainRegion width height with
      | error e => rfl
      | ok d =>
          simp [bind, Except.bind, Except.map, hwidth, Process.drainWidths, drainCapOf_zero]
  | pmos =>
      dsimp only
      rw [maxWidths_pmos p hwidth.ne', drainRegion_zero]
      cases p.drainRegion width height with
      | error e => rfl
      | ok d =>
          simp [bind, Except.bind, Except.map, hwidth, Process.drainWidths, drainCapOf_zero]

/-- The area of a single transistor is computed if its region is. -/
theorem calculateGateArea_of_nmos {width : K} {height : K} {region : K × K}
    (hregion : p.areaRegion width height = .ok region) :
    ∃ area, p.calculateGateArea .inv 1 width 0 height = .ok area := by
  unfold Process.calculateGateArea
  rw [maxWidths_nmos]
  dsimp only
  rw [areaRegion_zero, hregion]
  exact ⟨_, rfl⟩

theorem calculateGateArea_of_pmos {width : K} (hwidth : 0 < width) {height : K} {region : K × K}
    (hregion : p.areaRegion width height = .ok region) :
    ∃ area, p.calculateGateArea .inv 1 0 width height = .ok area := by
  unfold Process.calculateGateArea
  rw [maxWidths_pmos p hwidth.ne']
  dsimp only
  rw [areaRegion_zero, hregion]
  exact ⟨_, rfl⟩

end Transistor

/-! ## The sides of an inverter -/

/-- A region of some height has room for the folded transistors of an inverter. -/
structure Process.Roomy {K : Type} [Field K] [LinearOrder K] (p : Process K) (height : K) :
    Prop where
  featureSize : 0 < p.featureSize
  pnSizeRatio : 0 < p.pnSizeRatio
  nmos : 3 * p.featureSize * (1 + p.pnSizeRatio) <
    height - minGapBetPAndNDiffs * p.featureSize
  pmos : 3 * p.featureSize * (1 + p.pnSizeRatio) <
    p.pnSizeRatio * (height - minGapBetPAndNDiffs * p.featureSize)

section Inverter

variable {K : Type} [Field K] [LinearOrder K] [FloorRing K] [IsStrictOrderedRing K]
  {p : Process K}

theorem areaRegion_nonneg (hF : 0 < p.featureSize) {width maxWidth : K} {region : K × K}
    (hroom : 0 < width → 3 * p.featureSize < maxWidth)
    (h : p.areaRegion width maxWidth = .ok region) : 0 ≤ region.1 ∧ 0 ≤ region.2 := by
  unfold Process.areaRegion at h
  split_ifs at h with hwidth hfits
  · cases h
    exact ⟨hF.le, hwidth.le⟩
  · -- a folded transistor has at least one strip
    have hleft : 0 < maxWidth - 3 * p.featureSize := sub_pos.mpr (hroom hwidth)
    have hmax : 0 ≤ maxWidth := by linarith
    unfold Process.numFolded convertToInt at h
    rw [if_neg hleft.ne'] at h
    split_ifs at h
    · cases h
      have hstrips : (1 : K) ≤ ⌈width / (maxWidth - 3 * p.featureSize)⌉ := by
        exact_mod_cast Int.ceil_pos.mpr (div_pos hwidth hleft)
      refine ⟨add_nonneg (mul_nonneg (by linarith) hF.le) ?_, hmax⟩
      exact mul_nonneg (mul_nonneg (by linarith) hF.le) (by unfold minGapBetPoly; norm_num)
    · cases h
  · cases h
    exact ⟨le_rfl, le_rfl⟩

omit [FloorRing K] in
/-- The two parts of a region are in the ratio of the transistors. -/
theorem maxWidths_inverter {width : K} (hwidth : 0 < width) (height : K)
    (hratio : 0 < p.pnSizeRatio) :
    p.maxWidths width (width * p.pnSizeRatio) height =
      (p.pnSizeRatio / (1 + p.pnSizeRatio) * (height - minGapBetPAndNDiffs * p.featureSize),
        1 / (1 + p.pnSizeRatio) * (height - minGapBetPAndNDiffs * p.featureSize)) := by
  have hsum : 0 < 1 + p.pnSizeRatio := by linarith
  have hshare : width * p.pnSizeRatio / (width * p.pnSizeRatio + width) =
      p.pnSizeRatio / (1 + p.pnSizeRatio) := by
    rw [show width * p.pnSizeRatio + width = width * (1 + p.pnSizeRatio) by ring,
      mul_div_mul_left _ _ hwidth.ne']
  have hpos : 0 < p.pnSizeRatio / (1 + p.pnSizeRatio) := div_pos hratio hsum
  have hless : p.pnSizeRatio / (1 + p.pnSizeRatio) < 1 := (div_lt_one hsum).mpr (by linarith)
  unfold Process.maxWidths
  simp only [hshare]
  rw [if_neg hpos.ne', if_neg hless.ne]
  refine Prod.ext rfl ?_
  dsimp only
  field_simp
  ring

omit [FloorRing K] in
/-- The strips of both transistors of an inverter fit into their parts. -/
theorem maxWidths_room {height : K} (h : p.Roomy height) {width : K} (hwidth : 0 < width) :
    3 * p.featureSize < (p.maxWidths width (width * p.pnSizeRatio) height).1 ∧
      3 * p.featureSize < (p.maxWidths width (width * p.pnSizeRatio) height).2 := by
  have hsum : 0 < 1 + p.pnSizeRatio := by linarith [h.pnSizeRatio]
  rw [maxWidths_inverter hwidth height h.pnSizeRatio]
  constructor
  · rw [div_mul_eq_mul_div, lt_div_iff₀ hsum]
    exact h.pmos
  · rw [one_div_mul_eq_div, lt_div_iff₀ hsum]
    exact h.nmos

/-- No side of an inverter is negative. -/
theorem inverterArea_nonneg {height : K} (h : p.Roomy height) {width : K} {area : K × K}
    (harea : p.calculateGateArea .inv 1 width (width * p.pnSizeRatio) height = .ok area) :
    0 ≤ area.1 ∧ 0 ≤ area.2 := by
  have hF := h.featureSize
  unfold Process.calculateGateArea at harea
  simp only [Library.bind_eq_ok] at harea
  obtain ⟨regionP, hP, regionN, hN, harea⟩ := harea
  have hsidesP : 0 ≤ regionP.1 ∧ 0 ≤ regionP.2 :=
    areaRegion_nonneg hF
      (fun hwidth => (maxWidths_room h ((mul_pos_iff_of_pos_right h.pnSizeRatio).mp hwidth)).1) hP
  have hsidesN : 0 ≤ regionN.1 ∧ 0 ≤ regionN.2 :=
    areaRegion_nonneg hF (fun hwidth => (maxWidths_room h hwidth).2) hN
  cases harea
  refine ⟨?_, ?_⟩
  · have hheight : 0 ≤ regionN.2 + regionP.2 := add_nonneg hsidesN.2 hsidesP.2
    split
    · unfold minGapBetPAndNDiffs minWidthPowerRail
      linarith
    · exact hheight
  · refine le_max_of_le_left ?_
    unfold Process.regionWidths contactSize minGapBetContactPoly
    have hcontacts : 0 ≤ 2 * p.featureSize * (1 + 0.75 * 2 : K) := by positivity
    exact add_nonneg hcontacts hsidesN.1

/-- Nor is one of the inverters of its technology. -/
theorem technology_inverter_nonneg {height : K} (h : p.Roomy height) (width : K) :
    0 ≤ ((p.technology h.featureSize).gateArea .inv 1 width (width * p.pnSizeRatio) height).1 ∧
      0 ≤ ((p.technology h.featureSize).gateArea .inv 1 width (width * p.pnSizeRatio)
        height).2 := by
  unfold Process.technology
  dsimp only
  cases harea : p.calculateGateArea .inv 1 width (width * p.pnSizeRatio) height with
  | error halt => exact ⟨le_rfl, le_rfl⟩
  | ok area => exact inverterArea_nonneg h harea

end Inverter

/-! ## Examples -/

/-- A process of unit feature size, for examples. -/
def Process.small : Process ℚ where
  featureSize := 1
  vdd := 1
  pnSizeRatio := 2
  phyGateLength := 1
  capIdealGate := 1
  capOverlap := 0
  capFringe := 0
  capPolywire := 0
  capJunction := 1
  capSidewall := 1
  capDrainToChannel := 1
  effectiveResistanceMultiplier := 1
  vth := 0
  buildInPotential := 1
  capOx := 1
  vdsatNmos := 1
  vdsatPmos := 1
  effectiveElectronMobility := 1
  effectiveHoleMobility := 1
  currentOnNmos := fun _ => 1
  currentOnPmos := fun _ => 1
  currentOffNmos := fun _ => 1 / 1000
  currentOffPmos := fun _ => 1 / 1000

end NVSim
