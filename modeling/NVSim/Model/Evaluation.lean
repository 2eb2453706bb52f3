import Mathlib.Algebra.Order.Group.Abs
import NVSim.Htree.Routing
import NVSim.Model.InputParameter
import NVSim.Model.Result

/-!
# The evaluation of a bank

`Initialize`, `CalculateArea` and `CalculateLatencyAndPower` of a bank, as the
macro `CALCULATE` calls them.  The circuit models are a parameter, `Models`: they
decide which subarrays and which aspect ratios are legal and give the measures of
a valid bank, depending on the two wires.  What the banks do without them is
modelled: the measures of a bank that is invalid or not initialised, and the
write energies that are stored in the memory cell when they are first needed.
-/

namespace NVSim

/-- The cell types whose write energy `SubArray::CalculatePower` takes from the cell. -/
def MemCellType.isResistive : MemCellType → Bool
  | .mram | .pcram | .memristor | .fbram => true
  | _ => false

/-- The fields of the memory cell that `CalculateWriteEnergy` reads or writes. -/
structure MemCell (K : Type) where
  memCellType : MemCellType
  accessType : CellAccessType
  resistanceOn : K
  resistanceOnAtResetVoltage : K
  resistanceOnAtSetVoltage : K
  voltageDropAccessDevice : K
  resetMode : Bool
  resetVoltage : K
  resetCurrent : K
  resetPulse : K
  resetEnergy : K
  setMode : Bool
  setVoltage : K
  setCurrent : K
  setPulse : K
  setEnergy : K

/-- The circuit models of a configuration. -/
structure Models (K : Type) where
  vdd : K
  electrical : (localWire globalWire : Wire) → Electrical
  aspectRatioIllegal : (localWire globalWire : Wire) → Bank → Bool
  measures : MemCell K → (localWire globalWire : Wire) → Bank → FunctionUnit K

variable {K : Type} [Field K] [LinearOrder K]

namespace MemCell

/-- The energy of one RESET or SET operation.  `testedVoltage` is the voltage that
tells whether a current-mode operation needs the supply voltage. -/
def writeEnergy (cell : MemCell K) (vdd : K) (mode : Bool)
    (resistanceOnAtVoltage voltage current pulse testedVoltage : K) : K :=
  if mode then
    match cell.memCellType with
    | .memristor =>
        if cell.accessType = .noneAccess then
          |voltage| * (|voltage| - cell.voltageDropAccessDevice) / resistanceOnAtVoltage * pulse
        else |voltage| * (|voltage| - cell.voltageDropAccessDevice) / cell.resistanceOn * pulse
    | .fbram => |voltage| * |current| * pulse
    | _ => |voltage| * (|voltage| - cell.voltageDropAccessDevice) / cell.resistanceOn * pulse
  else if testedVoltage = 0 then vdd * |current| * pulse
  else |voltage| * |current| * pulse

/-- `MemCell::CalculateWriteEnergy`: an energy that is already known is kept. -/
def calculateWriteEnergy (vdd : K) (cell : MemCell K) : MemCell K :=
  { cell with
    resetEnergy :=
      if cell.resetEnergy = 0 then
        cell.writeEnergy vdd cell.resetMode cell.resistanceOnAtResetVoltage cell.resetVoltage
          cell.resetCurrent cell.resetPulse cell.resetVoltage
      else cell.resetEnergy
    setEnergy :=
      -- the voltage tested here is the one of RESET, too
      if cell.setEnergy = 0 then
        cell.writeEnergy vdd cell.setMode cell.resistanceOnAtSetVoltage cell.setVoltage
          cell.setCurrent cell.setPulse cell.resetVoltage
      else cell.setEnergy }

/-- The cell after the write energies were needed. -/
def memoised (vdd : K) (cell : MemCell K) : MemCell K :=
  if cell.memCellType.isResistive then cell.calculateWriteEnergy vdd else cell

/-- Energies are stored once. -/
theorem calculateWriteEnergy_idem (vdd : K) (cell : MemCell K) :
    (cell.calculateWriteEnergy vdd).calculateWriteEnergy vdd = cell.calculateWriteEnergy vdd := by
  have hkeep (energy stored : K) :
      (if (if stored = 0 then energy else stored) = 0 then energy
        else if stored = 0 then energy else stored) = if stored = 0 then energy else stored := by
    by_cases hstored : stored = 0
    · simp only [hstored, if_true]
      exact ite_eq_left_iff.2 fun _ => rfl
    · simp only [hstored, if_false]
  unfold calculateWriteEnergy
  simp only [mk.injEq, true_and]
  exact ⟨hkeep _ _, hkeep _ _⟩

@[simp] theorem memCellType_memoised (vdd : K) (cell : MemCell K) :
    (cell.memoised vdd).memCellType = cell.memCellType := by
  unfold memoised
  split
  · rfl
  · rfl

theorem memCellType_eq_of_memoised {vdd : K} {cell cell' : MemCell K}
    (h : cell.memoised vdd = cell'.memoised vdd) : cell.memCellType = cell'.memCellType := by
  have htype := congrArg memCellType h
  rw [memCellType_memoised, memCellType_memoised] at htype
  exact htype

@[simp] theorem memoised_memoised (vdd : K) (cell : MemCell K) :
    (cell.memoised vdd).memoised vdd = cell.memoised vdd := by
  by_cases h : cell.memCellType.isResistive = true
  · have hcell : cell.memoised vdd = cell.calculateWriteEnergy vdd := if_pos h
    have hagain : (cell.calculateWriteEnergy vdd).memoised vdd =
        (cell.calculateWriteEnergy vdd).calculateWriteEnergy vdd := if_pos h
    rw [hcell, hagain, calculateWriteEnergy_idem]
  · have hcell : cell.memoised vdd = cell := if_neg h
    rw [hcell, hcell]

end MemCell

/-! ## Banks -/

/-- The bank `Initialize` leaves; no array access is illegal, so there is one. -/
def initializedBank (el : Electrical) (memCellType : MemCellType)
    (globalWireRepeaterType : WireRepeaterType) (routingMode : RoutingMode)
    (args : BankParams) : Bank :=
  (initializeBank el memCellType globalWireRepeaterType routingMode args).get
    (initializeBank_isSome el memCellType globalWireRepeaterType routingMode args)

theorem initializeBank_eq_initializedBank (el : Electrical) (memCellType : MemCellType)
    (globalWireRepeaterType : WireRepeaterType) (routingMode : RoutingMode) (args : BankParams) :
    initializeBank el memCellType globalWireRepeaterType routingMode args =
      some (initializedBank el memCellType globalWireRepeaterType routingMode args) :=
  (Option.some_get _).symm

/-- Only the wires of one way are activated by the write of a fast mode cache. -/
def Settings.writeSharing (settings : Settings K) : K :=
  if settings.designTarget = .cache ∧ settings.cacheAccessMode = .fastAccessMode then
    settings.associativity
  else 1

/-- The measures of an invalid bank.  The organisation without H-tree goes on
computing with them. -/
def FunctionUnit.invalid (settings : Settings K) : FunctionUnit K :=
  let u : FunctionUnit K := FunctionUnit.fresh.reset
  match settings.routingMode with
  | .hTree => u
  | .nonHTree =>
      let writeDynamicEnergy := u.writeDynamicEnergy / settings.writeSharing
      { u with
        writeDynamicEnergy := writeDynamicEnergy
        resetLatency := u.writeLatency
        setLatency := u.writeLatency
        resetDynamicEnergy := writeDynamicEnergy
        setDynamicEnergy := writeDynamicEnergy }

section Calculate

variable (models : Models K) (settings : Settings K)

/-- The aspect ratio constraint at the end of `CalculateArea`. -/
def checkAspectRatio (localWire globalWire : Wire) (bank : Bank) : Bank :=
  if bank.initialized && !bank.invalid && bank.memoryType = .data &&
      models.aspectRatioIllegal localWire globalWire bank then
    { bank with invalid := true }
  else bank

/-- The macro `CALCULATE`: the evaluated bank, and the memory cell afterwards. -/
def calculate (cell : MemCell K) (localWire globalWire : Wire) (args : BankParams) :
    EvaluatedBank K × MemCell K :=
  let bank := checkAspectRatio models localWire globalWire
    (initializedBank (models.electrical localWire globalWire) cell.memCellType
      globalWire.wireRepeaterType settings.routingMode args)
  if bank.initialized = false then ({ bank with toFunctionUnit := .fresh }, cell)
  else if bank.invalid then ({ bank with toFunctionUnit := .invalid settings }, cell)
  else
    let cell := cell.memoised models.vdd
    ({ bank with toFunctionUnit := models.measures cell localWire globalWire bank }, cell)

/-- The evaluation as a function of the bank's arguments and the wires. -/
def evaluate (cell : MemCell K) (localWire globalWire : Wire) (args : BankParams) :
    EvaluatedBank K :=
  (calculate models settings (cell.memoised models.vdd) localWire globalWire args).1

variable {models settings}

/-- The energies stored in the cell do not change what is calculated. -/
theorem calculate_eq_evaluate (cell : MemCell K) (localWire globalWire : Wire)
    (args : BankParams) :
    (calculate models settings cell localWire globalWire args).1 =
      evaluate models settings cell localWire globalWire args := by
  unfold evaluate calculate
  simp only [MemCell.memCellType_memoised, MemCell.memoised_memoised]
  split
  · rfl
  · split
    · rfl
    · rfl

theorem memoised_calculate (cell : MemCell K) (localWire globalWire : Wire)
    (args : BankParams) :
    (calculate models settings cell localWire globalWire args).2.memoised models.vdd =
      cell.memoised models.vdd := by
  unfold calculate
  dsimp only
  split
  · rfl
  · split
    · rfl
    · exact cell.memoised_memoised models.vdd

theorem evaluate_memoised (cell : MemCell K) (localWire globalWire : Wire) (args : BankParams) :
    evaluate models settings (cell.memoised models.vdd) localWire globalWire args =
      evaluate models settings cell localWire globalWire args := by
  unfold evaluate
  rw [MemCell.memoised_memoised]

end Calculate

end NVSim
