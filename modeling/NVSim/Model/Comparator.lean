import NVSim.Model.BankWithHtree
import NVSim.Model.Circuit

/-!
# The tag comparator

`Comparator`: four quarter comparators, each with a chain of four inverters before the
NAND gates of its tag bits.  A mat that is internally sensed has one, and a bank that is
externally sensed has one behind its global sense amplifiers.
-/

namespace NVSim

variable {K : Type} [Field K] [LinearOrder K]

/-- What `Comparator::Initialize` stores. -/
structure Comparator (K : Type) where
  initialized : Bool
  /-- The tag bits of a quarter comparator. -/
  numTagBits : ℕ
  capLoad : K
  widthNMOSInv : List K
  widthPMOSInv : List K
  widthNMOSComp : K
  widthPMOSComp : K
deriving DecidableEq, Repr

/-- `Comparator::Initialize`. -/
def initializeComparator (g : Globals K) (numTagBits : ℕ) (capLoad : K) : Comparator K where
  initialized := true
  -- there are 4 quarter comparators
  numTagBits := numTagBits / 4
  capLoad := capLoad
  widthNMOSInv := [7.5, 15, 30, 50].map (· * g.tech.featureSize)
  widthPMOSInv := [12.5, 25, 50, 100].map (· * g.tech.featureSize)
  widthNMOSComp := 12.5 * g.tech.featureSize
  widthPMOSComp := 37.5 * g.tech.featureSize

/-- An inverter of the chain after `CalculateRC`. -/
structure ComparatorStage (K : Type) where
  widthNMOS : K
  widthPMOS : K
  capInput : K
  capOutput : K

namespace Comparator

variable (g : Globals K) (c : Comparator K)

/-- The inverters of the chain. -/
def stages : List (ComparatorStage K) :=
  List.zipWith
    (fun widthNMOS widthPMOS =>
      let cap := g.tech.gateCapacitance .inv 1 widthNMOS widthPMOS
        (g.tech.featureSize * maxTransistorHeight)
      { widthNMOS := widthNMOS, widthPMOS := widthPMOS, capInput := cap.1, capOutput := cap.2 })
    c.widthNMOSInv c.widthPMOSInv

/-- The capacitance of a NAND gate at its output. -/
def capComp : K := (g.tech.gateCapacitance .nand 2 c.widthNMOSComp 0 (g.tech.featureSize * 40)).2

/-- `capBottom`, behind the last inverter. -/
def capBottom (last : ComparatorStage K) : K := last.capOutput + c.numTagBits * c.capComp g

/-- `capTop`. -/
def capTop : K :=
  c.numTagBits * c.capComp g +
    g.tech.drainCap c.widthPMOSComp .pmos (g.tech.featureSize * maxTransistorHeight) + c.capLoad

/-- The height and the width that `CalculateArea` computes. -/
def size : K × K :=
  let inverters := (c.stages g).map fun s =>
    g.tech.gateArea .inv 1 s.widthNMOS s.widthPMOS (g.tech.featureSize * 40)
  let nand := g.tech.gateArea .nand 2 c.widthNMOSComp 0 (g.tech.featureSize * 40)
  let totalHeight := inverters.foldl (fun h i => max h i.1) 0 + nand.1
  let totalWidth := max (inverters.map Prod.snd).sum (c.numTagBits * nand.2)
  (totalHeight, totalWidth * 4)

/-- The latency and the output ramp of the chain and of the NAND gates behind it. -/
def chainLatency : List (ComparatorStage K) → K → K × K
  | [], rampInput => (0, rampInput)
  | [last], rampInput =>
      let temperature := g.inputParameter.temperature
      let resBottom := g.tech.onResistance last.widthNMOS .nmos temperature
      let resTop := 2 * g.tech.onResistance c.widthNMOSComp .nmos temperature
      g.horowitz (resBottom * c.capBottom g last + (resBottom + resTop) * c.capTop g) 0 rampInput
  | s :: next :: rest, rampInput =>
      let resPullDown := g.tech.onResistance s.widthNMOS .nmos g.inputParameter.temperature
      let tr := resPullDown * (s.capOutput + next.capInput)
      let beta := 1 / (resPullDown * g.tech.transconductance s.widthNMOS .nmos)
      let stage := g.horowitz tr beta rampInput
      let remaining := chainLatency (next :: rest) stage.2
      (stage.1 + remaining.1, remaining.2)

/-- The latency and the output ramp that `CalculateLatency` computes. -/
def latency (rampInput : K) : K × K := c.chainLatency g (c.stages g) rampInput

/-- The capacitance that the chain and the NAND gates switch. -/
def switchedCap : List (ComparatorStage K) → K
  | [] => 0
  | [last] => c.capBottom g last + c.capTop g
  | s :: next :: rest => s.capOutput + next.capInput + switchedCap (next :: rest)

/-- The leakage and the dynamic energy that `CalculatePower` computes. -/
def power : K × K :=
  let temperature := g.inputParameter.temperature
  let inverters := ((c.stages g).map fun s =>
    g.tech.gateLeakage .inv 1 s.widthNMOS s.widthPMOS temperature * g.tech.vdd).sum
  let nands := c.numTagBits * g.tech.gateLeakage .nand 2 c.widthNMOSComp 0 temperature * g.tech.vdd
  ((inverters + nands) * 4, c.switchedCap g (c.stages g) * g.tech.vdd * g.tech.vdd * 4)

end Comparator

/-- The tag bits a comparator of a bank is initialised with: that of the mat, or the global
one of a bank that is externally sensed. -/
def Bank.comparatorTagBits (b : Bank) : Option ℕ :=
  if b.internalSenseAmp then b.mat.comparator
  else if b.memoryType = .tag ∧ b.invalid = false then some b.blockSize
  else none

end NVSim
