import NVSim.Library.Dividing
import NVSim.Model.BankCircuit
import NVSim.Model.BankInts

/-!
# The divisions by the page size and by the page count

`SubArray::Initialize`, `CalculateLatency` and `CalculatePower` divide integers by the page
size, and by the number of pages of a block, if the cells are an SLC NAND flash.  Here these
divisions are made where the source makes them, for a subarray whose rows and columns are the
`long long`s of the source.  A bank initialises its subarray if the checks of `Bank::Initialize`
and `Mat::Initialize` before the call are passed.
-/

namespace NVSim

open Library

variable {K : Type} [Field K] [LinearOrder K]

namespace Globals

variable (g : Globals K)

/-- `int pageCount = flashBlockSize / pageSize`; the quotient is a `long`. -/
def intPageCount : ℤ := Int.bmod g.pageCount (2 ^ 32)

/-- The checks of `checkConfiguration`, for flash cells. -/
def divideConfiguration (a : SubArray Int64) : Dividing SubArrayHalt Unit := do
  .check (require (¬ (g.inputParameter.designTarget = .cache ∧
    g.inputParameter.cacheAccessMode ≠ .sequentialAccessMode ∧
    a.numColumn.toInt < g.inputParameter.associativity)) (.invalid true))
  -- `numRow < flashBlockSize / pageSize`
  .divide [g.inputParameter.pageSize]
  .check (require (¬ a.numRow.toInt < g.pageCount) (.invalid true))
  .check (require (¬ (a.internalSenseAmp ∧ a.muxSenseAmp < 2)) (.invalid true))

/-- The divisions of `SubArray::CalculateLatency`. -/
def divideLatency : Dividing SubArrayHalt Unit := .divide [g.inputParameter.pageSize]

/-- The divisions of `SubArray::CalculatePower`: the page count, and for a read, for
programming and for erasing `numRow / pageCount`. -/
def dividePower : Dividing SubArrayHalt Unit :=
  .divide [g.inputParameter.pageSize, g.intPageCount, g.intPageCount, g.intPageCount]

end Globals

/-- `SubArray::Initialize` with its divisions, for flash cells.  They have no current that
decides about the multiplexers.  The checks behind the divisions are those of the circuit
models. -/
def divideSubArray (g : Globals K) (el : Electrical Int64) (a : SubArray Int64) :
    Dividing SubArrayHalt Unit := do
  g.divideConfiguration a
  .check (require (¬ g.driverWidth 0 > g.maxNmosWidth) (.invalid false))
  -- the length of the bit line, and later its capacitance
  .divide [g.inputParameter.pageSize, g.intPageCount]
  .divide [g.inputParameter.pageSize, g.intPageCount]
  .check (require (!el.subArrayInvalid a) (.invalid true))

/-! ## Subarrays of a bank -/

/-- The subarray `SubArray::Initialize` was called on. -/
def Mat.calledSubarray {ι : Type} (mat : Mat ι) : Option (SubArray ι) :=
  match mat.reject with
  | none => if mat.initialized then some mat.subarray else none
  | some .subarray | some .rowPredecoder => some mat.subarray
  | some .addressBit | some .numRow | some .numColumn => none

namespace Globals

variable (g : Globals K)

/-- The bank of a candidate; `none` is a trap before its subarray is initialised. -/
def bank (undefined : Undefined) (el : Electrical Int64) (a : BankParams) :
    Option (Bank Int64) :=
  initializeBankInt undefined el g.cell.memCellType g.globalWire.wireRepeaterType
    g.inputParameter.routingMode a

/-- The divisions made for a candidate by `CALCULATE`.  `CalculateLatencyAndPower` evaluates
the subarray of a valid bank. -/
def divideBank (undefined : Undefined) (el : Electrical Int64) (a : BankParams) :
    Dividing SubArrayHalt Unit :=
  match g.bank undefined el a with
  | none => pure ()
  | some bank =>
      match bank.mat.calledSubarray with
      | none => pure ()
      | some subarray => do
          divideSubArray g el subarray
          if bank.invalid then pure ()
          else
            g.divideLatency
            g.dividePower

end Globals

end NVSim
