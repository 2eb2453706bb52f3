import Mathlib.Tactic.Linarith
import Mathlib.Tactic.Positivity
import Mathlib.Tactic.Ring
import NVSim.Model.SubArrayEvaluation

/-!
# Folding along the sides of a subarray

A row decoder that is higher than the array, and a precharger that is wider, are folded
into strips along its sides (`magic folding`).  The strip of the row decoder has the area
of the row decoder divided by the side of the array.  The area of the precharger is divided
by its own width, which is its height again: its part beyond the side of the array is lost
unless other components leave as much space.
-/

namespace NVSim

variable {K : Type} [Field K] [LinearOrder K]

namespace SubArrayCircuit

variable (g : Globals K) (c : SubArrayCircuit K)

/-! ## The strips along the sides -/

/-- The width of the strip of the row decoder alone, as it is or folded. -/
def rowDecoderStrip : K :=
  let rowDecoder := c.rowDecoder.part.area g
  if rowDecoder.1 > c.lenBitline then rowDecoder.1 * rowDecoder.2 / c.lenBitline
  else rowDecoder.2

/-- `addWidth`: the strip of the row decoder also holds the decoders of the multiplexers. -/
def addWidth : K :=
  max (max (max (c.rowDecoderStrip g) (c.bitlineMuxDecoder.part.area g).2)
    (c.senseAmpMuxLev1Decoder.part.area g).2) (c.senseAmpMuxLev2Decoder.part.area g).2

/-- The width of the decoders beside the array.  A row decoder that is higher than the array
is as many times wider as it is higher. -/
def decoderWidth : K :=
  max (max (max ((c.rowDecoder.part.area g).2 *
    (max (c.rowDecoder.part.area g).1 c.lenBitline / c.lenBitline))
    (c.bitlineMuxDecoder.part.area g).2) (c.senseAmpMuxLev1Decoder.part.area g).2)
    (c.senseAmpMuxLev2Decoder.part.area g).2

/-- The part of `addHeight` of the precharger. -/
def prechargerStrip : K :=
  let precharger := c.precharger.part.area g
  if precharger.2 > c.lenWordline then precharger.1 * precharger.2 / precharger.2
  else precharger.1

/-- The part of `addHeight` of the multiplexers and the sense amplifiers. -/
def columnStrip : K :=
  let senseAmp := c.senseAmp.part.area g
  (c.bitlineMux.part.area g).1 +
    (if c.internalSenseAmp ∧ ¬ senseAmp.2 > c.lenWordline * 1.001 then senseAmp.1 else 0) +
    (c.senseAmpMuxLev1.part.area g).1 + (c.senseAmpMuxLev2.part.area g).1

/-- The area of the row decoder. -/
def rowDecoderArea : K := (c.rowDecoder.part.area g).1 * (c.rowDecoder.part.area g).2

/-- The area of the precharger. -/
def prechargerArea : K := (c.precharger.part.area g).1 * (c.precharger.part.area g).2

/-- The area of a subarray is that of a rectangle of the array and its strips. -/
theorem area_calculateArea :
    (c.calculateArea g).area =
      (c.lenWordline + c.addWidth g) *
        (c.lenBitline + (c.prechargerStrip g + c.columnStrip g)) := by
  show (c.lenWordline + c.addWidth g) *
    (c.lenBitline + (c.prechargerStrip g + _ + _ + _ + _)) = _
  unfold columnStrip
  ring

/-- No side of a component is negative, and the array has some extent. -/
structure Extended : Prop where
  lenWordline : 0 < c.lenWordline
  lenBitline : 0 < c.lenBitline
  rowDecoder : 0 ≤ (c.rowDecoder.part.area g).1 ∧ 0 ≤ (c.rowDecoder.part.area g).2
  precharger : 0 ≤ (c.precharger.part.area g).1 ∧ 0 ≤ (c.precharger.part.area g).2
  bitlineMux : 0 ≤ (c.bitlineMux.part.area g).1
  senseAmp : 0 ≤ (c.senseAmp.part.area g).1
  senseAmpMuxLev1 : 0 ≤ (c.senseAmpMuxLev1.part.area g).1
  senseAmpMuxLev2 : 0 ≤ (c.senseAmpMuxLev2.part.area g).1

variable {g c} in
theorem extended_iff :
    c.Extended g ↔ 0 < c.lenWordline ∧ 0 < c.lenBitline ∧
      (0 ≤ (c.rowDecoder.part.area g).1 ∧ 0 ≤ (c.rowDecoder.part.area g).2) ∧
      (0 ≤ (c.precharger.part.area g).1 ∧ 0 ≤ (c.precharger.part.area g).2) ∧
      0 ≤ (c.bitlineMux.part.area g).1 ∧ 0 ≤ (c.senseAmp.part.area g).1 ∧
      0 ≤ (c.senseAmpMuxLev1.part.area g).1 ∧ 0 ≤ (c.senseAmpMuxLev2.part.area g).1 := by
  constructor
  · intro h
    exact ⟨h.lenWordline, h.lenBitline, h.rowDecoder, h.precharger, h.bitlineMux, h.senseAmp,
      h.senseAmpMuxLev1, h.senseAmpMuxLev2⟩
  · rintro ⟨hword, hbit, hrow, hprecharger, hmux, hsense, hlev1, hlev2⟩
    exact ⟨hword, hbit, hrow, hprecharger, hmux, hsense, hlev1, hlev2⟩

instance : Decidable (c.Extended g) := decidable_of_iff _ extended_iff.symm

section Strips

variable {g c}

theorem rowDecoderStrip_le_addWidth : c.rowDecoderStrip g ≤ c.addWidth g :=
  ((le_max_left _ _).trans (le_max_left _ _)).trans (le_max_left _ _)

/-- Folded or not, the strip of the precharger is as high as the precharger. -/
theorem prechargerStrip_eq (h : c.Extended g) :
    c.prechargerStrip g = (c.precharger.part.area g).1 := by
  unfold prechargerStrip
  dsimp only
  split
  · rename_i hwide
    exact mul_div_cancel_right₀ _ (h.lenWordline.trans hwide).ne'
  · rfl

variable [IsStrictOrderedRing K]

/-- The strip of the row decoder has room for it, folded or not. -/
theorem rowDecoderArea_le (h : c.Extended g) :
    c.rowDecoderArea g ≤ c.addWidth g * c.lenBitline := by
  have hstrip : c.rowDecoderArea g ≤ c.rowDecoderStrip g * c.lenBitline := by
    unfold rowDecoderArea rowDecoderStrip
    dsimp only
    split
    · rw [div_mul_cancel₀ _ h.lenBitline.ne']
    · rename_i hfits
      rw [mul_comm]
      exact mul_le_mul_of_nonneg_left (not_lt.mp hfits) h.rowDecoder.2
  exact hstrip.trans (mul_le_mul_of_nonneg_right rowDecoderStrip_le_addWidth h.lenBitline.le)

/-- A row decoder that is higher than the array is made as much wider. -/
theorem addWidth_eq (h : c.Extended g) : c.addWidth g = c.decoderWidth g := by
  have hstrip : c.rowDecoderStrip g = (c.rowDecoder.part.area g).2 *
      (max (c.rowDecoder.part.area g).1 c.lenBitline / c.lenBitline) := by
    unfold rowDecoderStrip
    dsimp only
    split
    · rename_i hhigh
      rw [max_eq_left (le_of_lt hhigh)]
      ring
    · rename_i hfits
      rw [max_eq_right (not_lt.mp hfits), div_self h.lenBitline.ne', mul_one]
  unfold addWidth decoderWidth
  rw [hstrip]

theorem addWidth_nonneg (h : c.Extended g) : 0 ≤ c.addWidth g := by
  have hstrip : 0 ≤ c.rowDecoderStrip g := by
    unfold rowDecoderStrip
    dsimp only
    split
    · exact div_nonneg (mul_nonneg h.rowDecoder.1 h.rowDecoder.2) h.lenBitline.le
    · exact h.rowDecoder.2
  exact hstrip.trans rowDecoderStrip_le_addWidth

theorem columnStrip_nonneg (h : c.Extended g) : 0 ≤ c.columnStrip g := by
  have hsense : 0 ≤ if c.internalSenseAmp ∧
      ¬ (c.senseAmp.part.area g).2 > c.lenWordline * 1.001 then (c.senseAmp.part.area g).1
      else 0 := by
    split
    · exact h.senseAmp
    · exact le_rfl
  exact add_nonneg (add_nonneg (add_nonneg h.bitlineMux hsense) h.senseAmpMuxLev1)
    h.senseAmpMuxLev2

/-! ## The area -/

/-- The part of the precharger beyond the side of the array fits into what is free: the
area of the decoders beside the precharger, the rows of the multiplexers and the sense
amplifiers, and what the row decoder leaves beside the array. -/
def ExcessFits (g : Globals K) (c : SubArrayCircuit K) : Prop :=
  (c.precharger.part.area g).1 * ((c.precharger.part.area g).2 - c.lenWordline) ≤
    c.decoderWidth g * (c.precharger.part.area g).1 +
      (c.lenWordline + c.decoderWidth g) * c.columnStrip g +
      (c.decoderWidth g * c.lenBitline -
        (c.rowDecoder.part.area g).1 * (c.rowDecoder.part.area g).2)

instance : Decidable (ExcessFits g c) := by
  unfold ExcessFits
  infer_instance

/-- A precharger that is not wider than the array has no such part. -/
theorem excessFits_of_narrow (h : c.Extended g)
    (hnarrow : (c.precharger.part.area g).2 ≤ c.lenWordline) : ExcessFits g c := by
  have hexcess : (c.precharger.part.area g).1 *
      ((c.precharger.part.area g).2 - c.lenWordline) ≤ 0 :=
    mul_nonpos_of_nonneg_of_nonpos h.precharger.1 (sub_nonpos.mpr hnarrow)
  have hbeside : 0 ≤ c.addWidth g * (c.precharger.part.area g).1 :=
    mul_nonneg (addWidth_nonneg h) h.precharger.1
  have hcolumn : 0 ≤ (c.lenWordline + c.addWidth g) * c.columnStrip g :=
    mul_nonneg (add_nonneg h.lenWordline.le (addWidth_nonneg h)) (columnStrip_nonneg h)
  have hrow := rowDecoderArea_le h
  unfold ExcessFits
  unfold rowDecoderArea at hrow
  rw [← addWidth_eq h]
  linarith

/-- A subarray is at least as large as its cells, its row decoder and its precharger
together if and only if the precharger is not wider than the array or its part beyond the
side of the array fits into what is free. -/
theorem folding_conserves_area_iff (h : c.Extended g) :
    c.lenWordline * c.lenBitline + c.rowDecoderArea g + c.prechargerArea g ≤
        (c.calculateArea g).area ↔
      (c.lenWordline < (c.precharger.part.area g).2 → ExcessFits g c) := by
  have hfits : c.lenWordline * c.lenBitline + c.rowDecoderArea g + c.prechargerArea g ≤
      (c.calculateArea g).area ↔ ExcessFits g c := by
    rw [area_calculateArea, prechargerStrip_eq h]
    unfold prechargerArea rowDecoderArea ExcessFits
    rw [← addWidth_eq h]
    constructor
    · intro harea
      linarith
    · intro hexcess
      linarith
  rw [hfits]
  constructor
  · exact fun hexcess _ => hexcess
  · intro hwide
    rcases le_or_gt (c.precharger.part.area g).2 c.lenWordline with hnarrow | hbeyond
    · exact excessFits_of_narrow h hnarrow
    · exact hwide hbeyond

end Strips

/-! ## Examples -/

/-- Cells of some width, for examples. -/
def cellsOfWidth (widthInFeatureSize : ℚ) : Cell ℚ :=
  { Cell.small with widthInFeatureSize := widthInFeatureSize }

/-- Two rows of two columns that share an external sense amplifier, for examples. -/
def sharedSensing : SubArray := { SubArray.small with internalSenseAmp := false, muxSenseAmp := 2 }

/-- The precharger is wider than the array of cells of twice the feature size; there is room
for it above the row of the multiplexers. -/
theorem folding_conserves_area_shared :
    ∃ c, initializeSubArray (.small (cellsOfWidth 2)) .cleared sharedSensing = .ok c ∧
      c.lenWordline < (c.precharger.part.area (.small (cellsOfWidth 2))).2 ∧
      c.lenWordline * c.lenBitline + c.rowDecoderArea (.small (cellsOfWidth 2)) +
          c.prechargerArea (.small (cellsOfWidth 2)) ≤
        (c.calculateArea (.small (cellsOfWidth 2))).area := by
  have hsome : (initializeSubArray (.small (cellsOfWidth 2)) .cleared sharedSensing).toOption.map
      (fun c => decide (c.Extended (.small (cellsOfWidth 2)) ∧
        c.lenWordline < (c.precharger.part.area (.small (cellsOfWidth 2))).2 ∧
        ExcessFits (.small (cellsOfWidth 2)) c)) = some true := by
    decide +kernel
  obtain ⟨c, hc, hflags⟩ := Option.map_eq_some_iff.mp hsome
  obtain ⟨hextended, hwide, hexcess⟩ := of_decide_eq_true hflags
  exact ⟨c, Library.toOption_eq_some_iff.mp hc, hwide,
    (folding_conserves_area_iff hextended).mpr fun _ => hexcess⟩

/-- With cells of the feature size the precharger is wider than the array, and the subarray
has less area than its cells, its row decoder and its precharger. -/
theorem folding_loses_area :
    ∃ c, initializeSubArray (.small (cellsOfWidth 1)) .cleared
        { SubArray.small with internalSenseAmp := false } = .ok c ∧
      c.Extended (.small (cellsOfWidth 1)) ∧
      ¬ c.lenWordline * c.lenBitline + c.rowDecoderArea (.small (cellsOfWidth 1)) +
          c.prechargerArea (.small (cellsOfWidth 1)) ≤
        (c.calculateArea (.small (cellsOfWidth 1))).area := by
  have hsome : (initializeSubArray (.small (cellsOfWidth 1)) .cleared
      { SubArray.small with internalSenseAmp := false }).toOption.map (fun c =>
        decide (c.Extended (.small (cellsOfWidth 1)) ∧
          ¬ c.lenWordline * c.lenBitline + c.rowDecoderArea (.small (cellsOfWidth 1)) +
              c.prechargerArea (.small (cellsOfWidth 1)) ≤
            (c.calculateArea (.small (cellsOfWidth 1))).area)) = some true := by
    decide +kernel
  obtain ⟨c, hc, hflags⟩ := Option.map_eq_some_iff.mp hsome
  obtain ⟨hextended, harea⟩ := of_decide_eq_true hflags
  exact ⟨c, Library.toOption_eq_some_iff.mp hc, hextended, harea⟩

end SubArrayCircuit

end NVSim
