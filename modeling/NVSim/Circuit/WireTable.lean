import Mathlib.Tactic.NormNum
import Mathlib.Tactic.Positivity
import Mathlib.Tactic.Linarith
import NVSim.Model.WireObject

/-!
# The wires of the table

Every wire of the table has a positive resistance and a positive capacitance, from 37 K on, and
in every technology the six wire types are ordered by the product of the two: the aggressive
projection of a tier is faster than the conservative one, and a tier is faster than the ones
below it.  The word lines of a DRAM have no entry of their own and are left out.
-/

namespace NVSim

variable {K : Type} [Field K] [LinearOrder K] [IsStrictOrderedRing K]

/-- The wire types from the fastest on; the word lines of a DRAM come last. -/
def WireType.rank : WireType → ℕ
  | .globalAggressive => 0
  | .globalConservative => 1
  | .semiAggressive => 2
  | .semiConservative => 3
  | .localAggressive => 4
  | .localConservative => 5
  | .dramWordline => 6

/-! ## The time constants -/

namespace WireGeometry

/-- The product of the resistance and the capacitance per meter at room temperature. -/
def timeConstant (w : WireGeometry K) : K :=
  w.resistivity / (w.wireThickness - w.barrierThickness) /
    (w.wireWidth - 2 * w.barrierThickness) * w.capacitance

/-- What the temperature changes. -/
def heating (temperature : ℤ) : K :=
  1 + copperResistivityTemperatureCoefficient * ((temperature - 293 : ℤ) : K)

omit [LinearOrder K] [IsStrictOrderedRing K] in
theorem resistance_mul_capacitance (w : WireGeometry K) (temperature : ℤ) :
    w.resistance temperature * w.capacitance = heating temperature * w.timeConstant := by
  unfold resistance timeConstant calculateWireResistance heating
  rw [sub_zero, one_mul]
  ring

/-- Copper is a superconductor below 37 K, according to the coefficient. -/
theorem heating_pos {temperature : ℤ} (htemperature : 37 ≤ temperature) :
    (0 : K) < heating temperature := by
  have hdegrees : (-256 : K) ≤ ((temperature - 293 : ℤ) : K) := by
    have hint : (-256 : ℤ) ≤ temperature - 293 := by omega
    exact_mod_cast hint
  unfold heating copperResistivityTemperatureCoefficient
  linarith

end WireGeometry

namespace WireNode

variable (node : WireNode)

/-- The wires of the table are wider and thicker than their barriers. -/
theorem barrier_lt {wireType : WireType} (hType : wireType ≠ .dramWordline) :
    2 * (node.geometry wireType : WireGeometry K).barrierThickness <
        (node.geometry wireType).wireWidth ∧
      (node.geometry wireType : WireGeometry K).barrierThickness <
        (node.geometry wireType).wireThickness := by
  cases wireType with
  | dramWordline => exact absurd rfl hType
  | _ =>
      cases node <;>
        norm_num [geometry, entry, featureSize, WireGeometry.wireThickness, WireGeometry.wireWidth]

theorem capacitance_pos {wireType : WireType} (hType : wireType ≠ .dramWordline) :
    (0 : K) < (node.geometry wireType).capacitance := by
  cases wireType with
  | dramWordline => exact absurd rfl hType
  | _ =>
      cases node <;>
        norm_num [geometry, entry, featureSize, WireGeometry.capacitance,
          WireGeometry.wireThickness, WireGeometry.wireWidth, WireGeometry.wireSpacing,
          calculateWireCapacitance, permittivity]

theorem wirePitch_pos (wireType : WireType) :
    (0 : K) < (node.geometry wireType).wirePitch := by
  cases wireType <;> cases node <;> norm_num [geometry, entry, featureSize]

theorem resistivity_pos (wireType : WireType) :
    (0 : K) < (node.geometry wireType).resistivity := by
  cases wireType <;> cases node <;> norm_num [geometry, entry, copperResistivity]

theorem resistance_pos {wireType : WireType} (hType : wireType ≠ .dramWordline)
    {temperature : ℤ} (htemperature : 37 ≤ temperature) :
    (0 : K) < (node.geometry wireType).resistance temperature := by
  obtain ⟨hwidth, hthickness⟩ := node.barrier_lt (K := K) hType
  have hheating : (0 : K) < WireGeometry.heating temperature :=
    WireGeometry.heating_pos htemperature
  have hresistivity : (0 : K) < (node.geometry wireType).resistivity :=
    node.resistivity_pos wireType
  unfold WireGeometry.resistance calculateWireResistance
  rw [sub_zero, one_mul]
  apply div_pos
  · apply div_pos
    · exact mul_pos hresistivity hheating
    · exact sub_pos.2 hthickness
  · exact sub_pos.2 hwidth

/-- The time constants of neighbouring wire types. -/
theorem timeConstant_chain :
    (node.geometry .globalAggressive : WireGeometry K).timeConstant <
        (node.geometry .globalConservative).timeConstant ∧
      (node.geometry .globalConservative : WireGeometry K).timeConstant <
        (node.geometry .semiAggressive).timeConstant ∧
      (node.geometry .semiAggressive : WireGeometry K).timeConstant <
        (node.geometry .semiConservative).timeConstant ∧
      (node.geometry .semiConservative : WireGeometry K).timeConstant <
        (node.geometry .localAggressive).timeConstant ∧
      (node.geometry .localAggressive : WireGeometry K).timeConstant <
        (node.geometry .localConservative).timeConstant := by
  cases node <;>
    norm_num [geometry, entry, featureSize, WireGeometry.timeConstant, WireGeometry.capacitance,
      WireGeometry.wireThickness, WireGeometry.wireWidth, WireGeometry.wireSpacing,
      calculateWireCapacitance, permittivity, copperResistivity]

theorem timeConstant_lt {wireType wireType' : WireType} (hType : wireType' ≠ .dramWordline)
    (hrank : wireType.rank < wireType'.rank) :
    (node.geometry wireType : WireGeometry K).timeConstant <
      (node.geometry wireType').timeConstant := by
  obtain ⟨hglobal, hglobalSemi, hsemi, hsemiLocal, hlocal⟩ := node.timeConstant_chain (K := K)
  cases wireType' with
  | dramWordline => exact absurd rfl hType
  | _ =>
      cases wireType <;>
        first
          | exact absurd hrank (by decide)
          | linarith

end WireNode

theorem WireNode.ofNano_isSome {featureSizeInNano : ℤ} (hnode : featureSizeInNano ≤ 200) :
    ∃ node, WireNode.ofNano featureSizeInNano = some node := by
  unfold WireNode.ofNano
  split_ifs
  all_goals exact ⟨_, rfl⟩

/-! ## Initialised wires -/

section Initialised

variable {g : Globals K} {fuel : ℕ} {old w : WireObject K} {featureSizeInNano temperature : ℤ}
  {kind : WireKind} {node : WireNode}

/-- What an `Initialize` leaves, whatever repeaters it chooses. -/
structure WireObject.OfNode (w : WireObject K) (node : WireNode) (kind : WireKind)
    (temperature : ℤ) : Prop where
  kind_eq : w.toWireKind = kind
  resWirePerUnit : w.resWirePerUnit = (node.geometry kind.wireType).resistance temperature
  capWirePerUnit : w.capWirePerUnit = (node.geometry kind.wireType).capacitance

omit [IsStrictOrderedRing K] in
theorem initializeWireObject_ofNode
    (hw : initializeWireObject g fuel old featureSizeInNano kind temperature = some w)
    (hnode : WireNode.ofNano featureSizeInNano = some node) : w.OfNode node kind temperature := by
  unfold initializeWireObject at hw
  simp only [WireGeometry.lookUp, hnode] at hw
  split at hw
  · cases hw
    exact ⟨rfl, rfl, rfl⟩
  · obtain ⟨repeated, hrepeated, rfl⟩ := Option.map_eq_some_iff.1 hw
    unfold RepeatedWire.chooseRepeaters at hrepeated
    split at hrepeated
    · cases hrepeated
      exact ⟨rfl, rfl, rfl⟩
    · obtain ⟨pair, -, rfl⟩ := Option.map_eq_some_iff.1 hrepeated
      exact ⟨rfl, rfl, rfl⟩

namespace WireObject

theorem OfNode.pos (h : w.OfNode node kind temperature)
    (hType : kind.wireType ≠ .dramWordline) (htemperature : 37 ≤ temperature) :
    0 < w.resWirePerUnit ∧ 0 < w.capWirePerUnit := by
  rw [h.resWirePerUnit, h.capWirePerUnit]
  exact ⟨node.resistance_pos hType htemperature, node.capacitance_pos hType⟩

omit [IsStrictOrderedRing K] in
/-- The delay of a wire without repeaters. -/
theorem OfNode.delay (h : w.OfNode node kind temperature)
    (hrepeater : kind.wireRepeaterType = .repeatedNone) (hswing : kind.isLowSwing = false)
    (memory wireLength : K) :
    (w.calculateLatencyAndPower g memory wireLength).delay =
      2.3 / 2 * WireGeometry.heating temperature *
        (node.geometry kind.wireType).timeConstant * (wireLength * wireLength) := by
  have hlow : w.isLowSwing = false := by rw [h.kind_eq]; exact hswing
  have hnone : w.wireRepeaterType = .repeatedNone := by rw [h.kind_eq]; exact hrepeater
  unfold calculateLatencyAndPower
  rw [if_neg (by simp [hlow]), if_pos hnone, h.resWirePerUnit, h.capWirePerUnit]
  dsimp only
  have hproduct := WireGeometry.resistance_mul_capacitance
    (node.geometry kind.wireType : WireGeometry K) temperature
  calc _ = 2.3 / 2 * ((node.geometry kind.wireType).resistance temperature *
          (node.geometry kind.wireType).capacitance) * (wireLength * wireLength) := by ring
    _ = _ := by rw [hproduct]; ring

end WireObject

/-- In every technology of the table and at every temperature from 37 K on, the wires without
repeaters are ordered by their type, whatever the objects held before: over the same distance
the one of lower rank is faster. -/
theorem unrepeated_delay_lt {old' w' : WireObject K} {kind' : WireKind}
    (hnode : featureSizeInNano ≤ 200) (htemperature : 37 ≤ temperature)
    (hw : initializeWireObject g fuel old featureSizeInNano kind temperature = some w)
    (hw' : initializeWireObject g fuel old' featureSizeInNano kind' temperature = some w')
    (hrepeater : kind.wireRepeaterType = .repeatedNone)
    (hrepeater' : kind'.wireRepeaterType = .repeatedNone)
    (hswing : kind.isLowSwing = false) (hswing' : kind'.isLowSwing = false)
    (hType : kind'.wireType ≠ .dramWordline)
    (hrank : kind.wireType.rank < kind'.wireType.rank)
    (memory memory' : K) {wireLength : K} (hlength : wireLength ≠ 0) :
    (w.calculateLatencyAndPower g memory wireLength).delay <
      (w'.calculateLatencyAndPower g memory' wireLength).delay := by
  obtain ⟨node, hsome⟩ := WireNode.ofNano_isSome hnode
  have hslow := initializeWireObject_ofNode hw' hsome
  have hfast := initializeWireObject_ofNode hw hsome
  rw [hfast.delay hrepeater hswing, hslow.delay hrepeater' hswing']
  have hheating : (0 : K) < WireGeometry.heating temperature :=
    WireGeometry.heating_pos htemperature
  have hconstant := node.timeConstant_lt (K := K) hType hrank
  have hsquare : 0 < wireLength * wireLength := mul_self_pos.2 hlength
  apply mul_lt_mul_of_pos_right _ hsquare
  apply mul_lt_mul_of_pos_left hconstant
  positivity

end Initialised

/-- The kind of a wire without repeaters and with full swing, for examples. -/
def WireKind.plain (wireType : WireType) : WireKind where
  wireType := wireType
  wireRepeaterType := .repeatedNone
  isLowSwing := false
  legal := .inl rfl

theorem unrepeated_delay_lt_small :
    ∃ w w', initializeWireObject (Globals.small .small) 0 .small 90
        (.plain .globalAggressive) 300 = some w ∧
      initializeWireObject (Globals.small .small) 0 .small 90
        (.plain .localConservative) 300 = some w' ∧
      (w.calculateLatencyAndPower (Globals.small .small) 0 1).delay <
        (w'.calculateLatencyAndPower (Globals.small .small) 0 1).delay := by
  obtain ⟨w, hw⟩ : ∃ w, initializeWireObject (Globals.small .small) 0 .small 90
    (.plain .globalAggressive) 300 = some w := ⟨_, rfl⟩
  obtain ⟨w', hw'⟩ : ∃ w', initializeWireObject (Globals.small .small) 0 .small 90
    (.plain .localConservative) 300 = some w' := ⟨_, rfl⟩
  exact ⟨w, w', hw, hw', unrepeated_delay_lt (by decide) (by decide) hw hw' rfl rfl rfl rfl
    (by decide) (by decide) 0 0 one_ne_zero⟩

end NVSim
