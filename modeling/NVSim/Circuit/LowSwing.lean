import NVSim.Model.LowSwing

/-!
# The receiver of a low-swing wire

The wire adds the measures of the receiving amplifier before the amplifier has computed them:
they are still the zeros of the constructor.
-/

namespace NVSim

variable {K : Type} [Field K] [LinearOrder K]

namespace LowSwing

variable (g : Globals K) (wire : Wire) (wireLength memory : K)

/-- The receiver after `CalculateRC`, `CalculateLatency` and `CalculatePower`. -/
def evaluatedReceiver : SenseAmpObject K :=
  ((receiver g memory).calculateLatency g).calculatePower g

/-- The link exceeds the transmitter and the wire by the measures of its receiver, and these
are positive. -/
structure ReceiverIncluded : Prop where
  delay : (calculateLatencyAndPower g wire wireLength memory).delay =
    (transmitter g wire wireLength memory).delay + (evaluatedReceiver g memory).readLatency
  dynamicEnergy : (calculateLatencyAndPower g wire wireLength memory).dynamicEnergy =
    (transmitter g wire wireLength memory).dynamicEnergy +
      (evaluatedReceiver g memory).readDynamicEnergy
  leakagePower : (calculateLatencyAndPower g wire wireLength memory).leakagePower =
    (transmitter g wire wireLength memory).leakagePower + (evaluatedReceiver g memory).leakage
  readLatency_pos : 0 < (evaluatedReceiver g memory).readLatency
  readDynamicEnergy_pos : 0 < (evaluatedReceiver g memory).readDynamicEnergy
  leakage_pos : 0 < (evaluatedReceiver g memory).leakage

/-- `CalculateRC` does not compute the energies. -/
theorem receiver_eq_zero :
    (receiver g memory).readDynamicEnergy = 0 ∧ (receiver g memory).leakage = 0 := by
  unfold receiver SenseAmpObject.calculateRC
  split <;> exact ⟨rfl, rfl⟩

/-- If the layout of the receiver is possible, `CalculateRC` computes its capacitance only. -/
theorem receiver_eq (h : g.tech.featureSize * 2 < 1) :
    let senseAmp := initializeSenseAmp g 1 false g.cell.minSenseVoltage 1
    receiver g memory =
      { SenseAmpObject.initialized senseAmp memory with capLoad := senseAmp.capLoad g } := by
  have hvalid : ¬decide ((1 : K) ≤ g.tech.featureSize * 2) = true := by simpa using h
  exact if_neg hvalid

/-- Then the link is the transmitter and the wire. -/
theorem calculateLatencyAndPower_eq_transmitter (h : g.tech.featureSize * 2 < 1) :
    calculateLatencyAndPower g wire wireLength memory =
      transmitter g wire wireLength memory := by
  have hlatency : (receiver g memory).readLatency = 0 := by
    rw [receiver_eq g memory h]
    rfl
  have hzero := receiver_eq_zero g memory
  simp only [calculateLatencyAndPower, hlatency, hzero.1, hzero.2, add_zero]

/-- The measures of the receiver itself, if its layout is possible. -/
theorem evaluatedReceiver_eq (h : g.tech.featureSize * 2 < 1) :
    let senseAmp := initializeSenseAmp g 1 false g.cell.minSenseVoltage 1
    (evaluatedReceiver g memory).readLatency = senseAmp.latency g ∧
      ((evaluatedReceiver g memory).leakage, (evaluatedReceiver g memory).readDynamicEnergy) =
        senseAmp.power g := by
  rw [evaluatedReceiver, receiver_eq g memory h]
  simp [SenseAmpObject.calculateLatency, SenseAmpObject.calculatePower,
    SenseAmpObject.initialized, SenseAmp.latency, SenseAmp.power, initializeSenseAmp, h.not_ge]

/-- The receiver is never included: the leakage and the energy that are added are zero. -/
theorem not_receiverIncluded : ¬ReceiverIncluded g wire wireLength memory := by
  intro h
  have hleakage := h.leakagePower
  rw [calculateLatencyAndPower, (receiver_eq_zero g memory).2, add_zero] at hleakage
  have hpos := h.leakage_pos
  rw [left_eq_add.1 hleakage] at hpos
  exact lt_irrefl 0 hpos

end LowSwing

/-- A small circuit in which a receiver can be laid out. -/
def Globals.fine : Globals ℚ :=
  { Globals.small Cell.small with
    tech := { Technology.small with featureSize := 1 / 10, featureSize_pos := by norm_num } }

/-- The receiver of a wire of unit length takes time and energy, which the wire leaves out. -/
theorem LowSwing.receiver_omitted :
    LowSwing.calculateLatencyAndPower .fine .small 1 0 = LowSwing.transmitter .fine .small 1 0 ∧
      0 < (LowSwing.evaluatedReceiver .fine 0).readLatency ∧
      ¬LowSwing.ReceiverIncluded .fine .small 1 0 := by
  have hfine : Globals.fine.tech.featureSize * 2 < 1 := by norm_num [Globals.fine]
  have hlink := LowSwing.calculateLatencyAndPower_eq_transmitter .fine .small 1 0 hfine
  have hpos : 0 < (LowSwing.evaluatedReceiver .fine 0).readLatency := by
    rw [(LowSwing.evaluatedReceiver_eq .fine 0 hfine).1]
    norm_num [SenseAmp.latency, SenseAmp.capLoad, initializeSenseAmp, Globals.fine,
      Globals.small, Technology.small, Cell.small]
  refine ⟨hlink, hpos, fun h => ?_⟩
  have hdelay := h.delay
  rw [hlink] at hdelay
  exact hpos.ne' (left_eq_add.1 hdelay)

end NVSim
