import Mathlib.Algebra.Field.Basic
import Mathlib.Algebra.Group.Nat.Defs
import Mathlib.Algebra.Order.Ring.Unbundled.Rat
import NVSim.Model.Scanf
import NVSim.Model.Typedef

/-!
# The cell file

`MemCell::ReadCellFromFile` compares a line with one option after the other and runs the
handler of the first one that the line begins with.  A handler reads a word, the process
node or a number; some numbers are read only if the cell has a certain type when their line
comes.
-/

namespace NVSim

/-- The `bool` properties of a cell that are read from a word. -/
inductive CellFlag
  | readMode | resetMode | setMode | readFloating
deriving DecidableEq

/-- The properties that are read from a word. -/
inductive CellWord
  | memCellType | accessType | flag (f : CellFlag)
deriving DecidableEq

/-- The `double` properties of a cell. -/
inductive CellNumber
  | area | aspectRatio | widthInFeatureSize | heightInFeatureSize
  | resistanceOn | resistanceOff | capacitanceOn | capacitanceOff
  | readVoltage | readCurrent | minSenseVoltage | wordlineBoostRatio | readPower
  | resetVoltage | resetCurrent | resetPulse | resetEnergy
  | setVoltage | setCurrent | setPulse | setEnergy
  | gateOxThicknessFactor | widthSOIDevice | widthAccessCMOS | voltageDropAccessDevice
  | leakageCurrentAccessDevice | capDRAMCell | widthSRAMCellNMOS | widthSRAMCellPMOS
  | resistanceOnAtSetVoltage | resistanceOffAtSetVoltage
  | resistanceOnAtResetVoltage | resistanceOffAtResetVoltage
  | resistanceOnAtReadVoltage | resistanceOffAtReadVoltage
  | resistanceOnAtHalfReadVoltage | resistanceOffAtHalfReadVoltage
  | resistanceOnAtHalfResetVoltage
  | flashEraseVoltage | flashPassVoltage | flashProgramVoltage | flashEraseTime
  | flashProgramTime | gateCouplingRatio
deriving DecidableEq

/-- A `MemCell`. -/
@[ext]
structure CellObject (K : Type) where
  memCellType : MemCellType
  accessType : CellAccessType
  flag : CellFlag → Bool
  processNode : ℤ
  stitching : ℤ
  number : CellNumber → K

/-- `MemCell::MemCell`, over the memory that it is constructed in. -/
def CellObject.new {K : Type} [Field K] (memory : CellNumber → K) : CellObject K where
  memCellType := .pcram
  accessType := .cmosAccess
  flag
    | .readMode | .resetMode | .setMode => true
    | .readFloating => false
  processNode := 0
  stitching := 0
  number
    | .wordlineBoostRatio => 1
    | .minSenseVoltage => 0.08
    | .gateOxThicknessFactor => 2
    | .widthSRAMCellNMOS => 2.08
    | .widthSRAMCellPMOS => 1.23
    -- properties that the constructor does not assign
    | .widthInFeatureSize => memory .widthInFeatureSize
    | .heightInFeatureSize => memory .heightInFeatureSize
    | .capacitanceOn => memory .capacitanceOn
    | .capacitanceOff => memory .capacitanceOff
    | .resistanceOnAtHalfResetVoltage => memory .resistanceOnAtHalfResetVoltage
    | .flashEraseVoltage => memory .flashEraseVoltage
    | .flashPassVoltage => memory .flashPassVoltage
    | .flashProgramVoltage => memory .flashProgramVoltage
    | .flashEraseTime => memory .flashEraseTime
    | .flashProgramTime => memory .flashProgramTime
    | .gateCouplingRatio => memory .gateCouplingRatio
    | _ => 0

/-! ## Options -/

/-- The cells whose option is read; with any other cell a warning is printed. -/
inductive CellGuard
  | always | cmosAccess | dram | sram | flash
deriving DecidableEq

/-- What the handler of an option does. -/
inductive CellAction
  | word (w : CellWord)
  | processNode
  /-- Reads a number, which is then divided; 1 stands for no division. -/
  | number (field : CellNumber) (divisor : ℕ) (guard : CellGuard)
  /-- Reads a number and assigns the property to another one. -/
  | copied (field copy : CellNumber)
  | aspectRatio
deriving DecidableEq

/-- An option: what a line begins with, the format up to its conversion, and the handler. -/
structure CellOption where
  key : String
  format : String
  action : CellAction
deriving DecidableEq

/-- The options in the order in which they are compared.  Two of them are compared twice. -/
def cellOptions : List CellOption := [
  ⟨"-MemCellType", "-MemCellType: ", .word .memCellType⟩,
  ⟨"-ProcessNode", "-ProcessNode: ", .processNode⟩,
  ⟨"-CellArea", "-CellArea (F^2): ", .number .area 1 .always⟩,
  ⟨"-CellAspectRatio", "-CellAspectRatio: ", .aspectRatio⟩,
  ⟨"-ResistanceOnAtSetVoltage", "-ResistanceOnAtSetVoltage (ohm): ",
    .number .resistanceOnAtSetVoltage 1 .always⟩,
  ⟨"-ResistanceOffAtSetVoltage", "-ResistanceOffAtSetVoltage (ohm): ",
    .number .resistanceOffAtSetVoltage 1 .always⟩,
  ⟨"-ResistanceOnAtResetVoltage", "-ResistanceOnAtResetVoltage (ohm): ",
    .number .resistanceOnAtResetVoltage 1 .always⟩,
  ⟨"-ResistanceOffAtResetVoltage", "-ResistanceOffAtResetVoltage (ohm): ",
    .number .resistanceOffAtResetVoltage 1 .always⟩,
  ⟨"-ResistanceOnAtReadVoltage", "-ResistanceOnAtReadVoltage (ohm): ",
    .copied .resistanceOnAtReadVoltage .resistanceOn⟩,
  ⟨"-ResistanceOffAtReadVoltage", "-ResistanceOffAtReadVoltage (ohm): ",
    .copied .resistanceOffAtReadVoltage .resistanceOff⟩,
  ⟨"-ResistanceOnAtHalfReadVoltage", "-ResistanceOnAtHalfReadVoltage (ohm): ",
    .number .resistanceOnAtHalfReadVoltage 1 .always⟩,
  ⟨"-ResistanceOffAtHalfReadVoltage", "-ResistanceOffAtHalfReadVoltage (ohm): ",
    .number .resistanceOffAtHalfReadVoltage 1 .always⟩,
  ⟨"-ResistanceOnAtHalfResetVoltage", "-ResistanceOnAtHalfResetVoltage (ohm): ",
    .number .resistanceOnAtHalfResetVoltage 1 .always⟩,
  ⟨"-ResistanceOn", "-ResistanceOn (ohm): ", .number .resistanceOn 1 .always⟩,
  ⟨"-ResistanceOff", "-ResistanceOff (ohm): ", .number .resistanceOff 1 .always⟩,
  ⟨"-CapacitanceOn", "-CapacitanceOn (F): ", .number .capacitanceOn 1 .always⟩,
  ⟨"-CapacitanceOff", "-CapacitanceOff (F): ", .number .capacitanceOff 1 .always⟩,
  ⟨"-GateOxThicknessFactor", "-GateOxThicknessFactor: ",
    .number .gateOxThicknessFactor 1 .always⟩,
  ⟨"-SOIDeviceWidth (F)", "-SOIDeviceWidth (F): ", .number .widthSOIDevice 1 .always⟩,
  ⟨"-ReadMode", "-ReadMode: ", .word (.flag .readMode)⟩,
  ⟨"-ReadVoltage", "-ReadVoltage (V): ", .number .readVoltage 1 .always⟩,
  ⟨"-ReadCurrent", "-ReadCurrent (uA): ", .number .readCurrent (10 ^ 6) .always⟩,
  ⟨"-ReadPower", "-ReadPower (uW): ", .number .readPower (10 ^ 6) .always⟩,
  ⟨"-WordlineBoostRatio", "-WordlineBoostRatio: ", .number .wordlineBoostRatio 1 .always⟩,
  ⟨"-MinSenseVoltage", "-MinSenseVoltage (mV): ", .number .minSenseVoltage (10 ^ 3) .always⟩,
  ⟨"-ResetMode", "-ResetMode: ", .word (.flag .resetMode)⟩,
  ⟨"-ResetVoltage", "-ResetVoltage (V): ", .number .resetVoltage 1 .always⟩,
  ⟨"-ResetCurrent", "-ResetCurrent (uA): ", .number .resetCurrent (10 ^ 6) .always⟩,
  ⟨"-ResetVoltage", "-ResetVoltage (V): ", .number .resetVoltage 1 .always⟩,
  ⟨"-ResetPulse", "-ResetPulse (ns): ", .number .resetPulse (10 ^ 9) .always⟩,
  ⟨"-ResetEnergy", "-ResetEnergy (pJ): ", .number .resetEnergy (10 ^ 12) .always⟩,
  ⟨"-SetMode", "-SetMode: ", .word (.flag .setMode)⟩,
  ⟨"-SetVoltage", "-SetVoltage (V): ", .number .setVoltage 1 .always⟩,
  ⟨"-SetCurrent", "-SetCurrent (uA): ", .number .setCurrent (10 ^ 6) .always⟩,
  ⟨"-SetVoltage", "-SetVoltage (V): ", .number .setVoltage 1 .always⟩,
  ⟨"-SetPulse", "-SetPulse (ns): ", .number .setPulse (10 ^ 9) .always⟩,
  ⟨"-SetEnergy", "-SetEnergy (pJ): ", .number .setEnergy (10 ^ 12) .always⟩,
  ⟨"-AccessType", "-AccessType: ", .word .accessType⟩,
  ⟨"-AccessCMOSWidth", "-AccessCMOSWidth (F): ", .number .widthAccessCMOS 1 .cmosAccess⟩,
  ⟨"-VoltageDropAccessDevice", "-VoltageDropAccessDevice (V): ",
    .number .voltageDropAccessDevice 1 .always⟩,
  ⟨"-LeakageCurrentAccessDevice", "-LeakageCurrentAccessDevice (uA): ",
    .number .leakageCurrentAccessDevice (10 ^ 6) .always⟩,
  ⟨"-DRAMCellCapacitance", "-DRAMCellCapacitance (F): ", .number .capDRAMCell 1 .dram⟩,
  ⟨"-SRAMCellNMOSWidth", "-SRAMCellNMOSWidth (F): ", .number .widthSRAMCellNMOS 1 .sram⟩,
  ⟨"-SRAMCellPMOSWidth", "-SRAMCellPMOSWidth (F): ", .number .widthSRAMCellPMOS 1 .sram⟩,
  ⟨"-ReadFloating", "-ReadFloating: ", .word (.flag .readFloating)⟩,
  ⟨"-FlashEraseVoltage (V)", "-FlashEraseVoltage (V): ", .number .flashEraseVoltage 1 .flash⟩,
  ⟨"-FlashProgramVoltage (V)", "-FlashProgramVoltage (V): ",
    .number .flashProgramVoltage 1 .flash⟩,
  ⟨"-FlashPassVoltage (V)", "-FlashPassVoltage (V): ", .number .flashPassVoltage 1 .flash⟩,
  ⟨"-FlashEraseTime", "-FlashEraseTime (ms): ", .number .flashEraseTime (10 ^ 3) .flash⟩,
  ⟨"-FlashProgramTime", "-FlashProgramTime (us): ", .number .flashProgramTime (10 ^ 6) .flash⟩,
  ⟨"-GateCouplingRatio", "-GateCouplingRatio: ", .number .gateCouplingRatio 1 .flash⟩]

/-- The option whose handler a line is given to. -/
def cellOption (line : List Char) : Option CellOption :=
  cellOptions.find? fun o => o.key.toList.isPrefixOf line

/-! ## Handlers -/

/-- The property `memCellType` of a word. -/
def MemCellType.ofWord (tmp : List Char) : MemCellType :=
  if tmp = "SRAM".toList then .sram
  else if tmp = "DRAM".toList then .dram
  else if tmp = "eDRAM".toList then .eDRAM
  else if tmp = "MRAM".toList then .mram
  else if tmp = "PCRAM".toList then .pcram
  else if tmp = "FBRAM".toList then .fbram
  else if tmp = "memristor".toList then .memristor
  else if tmp = "SLCNAND".toList then .slcNAND
  else .mlcNAND

/-- The property `accessType` of a word. -/
def CellAccessType.ofWord (tmp : List Char) : CellAccessType :=
  if tmp = "CMOS".toList then .cmosAccess
  else if tmp = "BJT".toList then .bjtAccess
  else if tmp = "diode".toList then .diodeAccess
  else .noneAccess

/-- The word that makes a `bool` property true. -/
def CellFlag.trueWord : CellFlag → String
  | readMode | resetMode | setMode => "voltage"
  | readFloating => "true"

namespace CellObject

variable {K : Type}

/-- Stores the property of a word. -/
def storeWord (cell : CellObject K) (tmp : List Char) : CellWord → CellObject K
  | .memCellType => { cell with memCellType := .ofWord tmp }
  | .accessType => { cell with accessType := .ofWord tmp }
  | .flag f =>
      { cell with flag := Function.update cell.flag f (decide (tmp = f.trueWord.toList)) }

def setNumber (cell : CellObject K) (field : CellNumber) (value : K) : CellObject K :=
  { cell with number := Function.update cell.number field value }

end CellObject

/-- The test of the handlers that may ignore their option. -/
def CellGuard.passes {K : Type} (cell : CellObject K) : CellGuard → Bool
  | always => true
  | cmosAccess => cell.accessType = .cmosAccess
  | dram => cell.memCellType = .dram || cell.memCellType = .eDRAM
  | sram => cell.memCellType = .sram
  | flash => cell.memCellType = .slcNAND || cell.memCellType = .mlcNAND

/-- The conversions `%lf` and `%d`. -/
structure Conversions (K : Type) where
  double : List Char → Option K
  int : List Char → Option ℤ

section Read

variable {K : Type} [Field K] (scan : Conversions K)

/-- The number that `sscanf` reads from the line of an option. -/
def Conversions.number (o : CellOption) (line : List Char) : Option K :=
  (matchFormat o.format.toList line).bind scan.double

/-- The handler of an option; `tmp` is what `sscanf` leaves there. -/
def CellOption.handle (sqrt : K → K) (o : CellOption) (line tmp : List Char)
    (cell : CellObject K) : CellObject K :=
  match o.action with
  | .word w => cell.storeWord tmp w
  | .processNode =>
      let value := (matchFormat o.format.toList line).bind scan.int
      { cell with processNode := value.getD cell.processNode }
  | .number field divisor guard =>
      if guard.passes cell then
        cell.setNumber field ((scan.number o line).getD (cell.number field) / divisor)
      else cell
  | .copied field copy =>
      let value := (scan.number o line).getD (cell.number field)
      (cell.setNumber field value).setNumber copy value
  | .aspectRatio =>
      let aspectRatio := (scan.number o line).getD (cell.number .aspectRatio)
      let area := cell.number .area
      ((cell.setNumber .aspectRatio aspectRatio).setNumber .heightInFeatureSize
        (sqrt (area * aspectRatio))).setNumber .widthInFeatureSize (sqrt (area / aspectRatio))

/-- The array `tmp` after a line; an option without a word leaves it as it is. -/
def tmpAfter (line tmp : List Char) : List Char :=
  match cellOption line with
  | some { key := _, format := format, action := .word _ } => (scanWord format line).getD tmp
  | _ => tmp

/-- The cell after a line that leaves `tmp`. -/
def CellObject.readLine (sqrt : K → K) (tmp : List Char) (cell : CellObject K)
    (line : List Char) : CellObject K :=
  match cellOption line with
  | some o => o.handle scan sqrt line tmp cell
  | none => cell

/-- The cell that is read and the array `tmp`. -/
structure CellReader (K : Type) where
  tmp : List Char
  cell : CellObject K

/-- The body of the loop of `ReadCellFromFile`. -/
def readCellLine (sqrt : K → K) (s : CellReader K) (line : List Char) : CellReader K :=
  let tmp := tmpAfter line s.tmp
  { tmp := tmp, cell := s.cell.readLine scan sqrt tmp line }

/-- `ReadCellFromFile` on a fresh cell, by the lines that the loop reads. -/
def readCellFromFile (sqrt : K → K) (memory : CellNumber → K) (tmp : List Char)
    (lines : List (List Char)) : CellObject K :=
  (lines.foldl (readCellLine scan sqrt) { tmp := tmp, cell := .new memory }).cell

end Read

end NVSim
