import NVSim.Library.Rounding
import NVSim.Model.SubArrayEvaluation

/-!
# The voltages of a resistive cell, rounded

The statements of `SubArray::Initialize` that derive the voltages of voltage sensing and check
them, and the expressions of the delays and of the read energy that use them, once more: here
every operation rounds its result.  Whether the check passes can depend on it.
-/

namespace NVSim

open Library

variable {K : Type} [Field K] [LinearOrder K]

/-- The voltages that the read of a resistive cell compares. -/
structure CellVoltages (K : Type) where
  voltageMemCellOff : K
  voltageMemCellOn : K
  voltagePrecharge : K
deriving DecidableEq, Repr

/-- The voltages of a subarray. -/
def SubArrayElectrics.cellVoltages (e : SubArrayElectrics K) : CellVoltages K where
  voltageMemCellOff := e.voltageMemCellOff
  voltageMemCellOn := e.voltageMemCellOn
  voltagePrecharge := e.voltagePrecharge

namespace Globals

variable (R : Rounding K) (g : Globals K) (memory : SubArrayElectrics K)

/-- `resCellAccess` of a resistive cell.  For a bipolar transistor it is not assigned. -/
def resCellAccess : K :=
  match g.cell.memCellType, g.cell.accessType with
  | .fbram, _ => 0
  | _, .cmosAccess => g.resAccess
  | _, .bjtAccess => memory.resCellAccess
  | _, .noneAccess | _, .diodeAccess => 0

/-- `resMemCellOff` or `resMemCellOn`, for `resistanceOff` or `resistanceOn`. -/
def roundedResMemCell (resistance : K) : K :=
  if g.cell.memCellType = .fbram then resistance
  else R.round (g.resCellAccess memory + resistance)

/-- `voltageMemCellOff` or `voltageMemCellOn`, for the resistance of the cell. -/
def roundedVoltage (resInSerial resMemCell : K) : K :=
  if g.cell.readVoltage = 0 then R.round (g.cell.readCurrent * resMemCell)
  else R.round (R.round (g.cell.readVoltage * resMemCell) / R.round (resMemCell + resInSerial))

/-- The voltages that `SubArray::Initialize` computes for voltage sensing. -/
def roundedVoltages : CellVoltages K :=
  let resMemCellOff := g.roundedResMemCell R memory g.cell.resistanceOff
  let resMemCellOn := g.roundedResMemCell R memory g.cell.resistanceOn
  let resInSerial := g.libm.sqrt (R.round (resMemCellOn * resMemCellOff))
  let off := g.roundedVoltage R resInSerial resMemCellOff
  let on := g.roundedVoltage R resInSerial resMemCellOn
  { voltageMemCellOff := off
    voltageMemCellOn := on
    voltagePrecharge := min g.tech.vdd (R.round (R.round (off + on) / 2)) }

/-- The voltages of a subarray, unless `SubArray::Initialize` finds no reasonable precharge
voltage and marks it invalid. -/
def checkedVoltages : Option (CellVoltages K) :=
  let v := g.roundedVoltages R memory
  if R.round (v.voltagePrecharge - v.voltageMemCellOn) ≤ g.cell.minSenseVoltage then none
  else some v

end Globals

/-- The argument of a logarithm for a voltage and the swing that is sensed of it. -/
def roundedArgument (R : Rounding K) (voltage senseVoltage : K) : LogArgument K :=
  ⟨R.round voltage, R.round (R.round voltage - senseVoltage)⟩

/-- What the logarithm is taken of. -/
def LogArgument.roundedValue (R : Rounding K) (x : LogArgument K) : K := R.round x.value

namespace CellVoltages

variable (R : Rounding K) (v : CellVoltages K)

/-- The argument for a cell of low resistance, in `SubArray::CalculateLatency` and in
`BankWithoutHtree::CalculateLatencyAndPower`. -/
def argumentOn (senseVoltage : K) : LogArgument K :=
  roundedArgument R (v.voltagePrecharge - v.voltageMemCellOn) senseVoltage

/-- The argument for a cell of high resistance. -/
def argumentOff (senseVoltage : K) : LogArgument K :=
  roundedArgument R (v.voltageMemCellOff - v.voltagePrecharge) senseVoltage

/-- The difference of the squares in the read energy of a bit line. -/
def squaresDifference : K :=
  R.round (R.round (v.voltagePrecharge * v.voltagePrecharge) -
    R.round (v.voltageMemCellOn * v.voltageMemCellOn))

end CellVoltages

end NVSim
