import NVSim.Model.BankWithHtree
import NVSim.Model.MatInts

/-!
# The machine integers of the banks

`BankWithHtree` stores the data bits of a block, which is a `long`, in an `int` and halves it
on the way to a mat; `BankWithoutHtree` divides the `long` by the active mats and stores the
quotient in an `int`.  The wire counts of the tree are `int`s as well.  Here the two
organisations are initialised with these types, and `Mat::Initialize` with its own.  The counts
of mats, whose product is an `int`, are multiplied exactly.
-/

namespace NVSim

open Library

variable {ι κ : Type}

namespace BankParams

/-- `numDataDistributeBit`, an `int`. -/
def storedDataDistributeBit (p : BankParams) : Int32 := Int32.ofNat p.numDataDistributeBit

/-- `numDataBroadcastBit`, an `int`. -/
def storedDataBroadcastBit (p : BankParams) : Int32 := Int32.ofNat p.numDataBroadcastBit

/-- The routing with the `int`s of the source. -/
def routeInt (p : BankParams) : Except RouteHalt (RoutingVars Int32) :=
  p.routeWith p.storedDataDistributeBit p.storedDataBroadcastBit

/-- `routedWithHtree` for the data bits as `int`s, which are passed on as a `long`. -/
def storedRoutedWithHtree (p : BankParams) (s : RoutingVars Int32) : Option (Int64 × ℕ) :=
  match p.memoryType with
  | .data =>
      let numWay := 2 ^ s.numDataBroadcastBitToRoute.toNatClampNeg
      if p.numRowPerSet > numWay then none
      else some (s.numDataDistributeBitToRoute.toInt64, numWay)
  | .tag =>
      if p.numRowPerSet > 1 then none
      else if s.numDataDistributeBitToRoute = 0 then none
      else some (s.numDataBroadcastBitToRoute.toInt64, s.numDataDistributeBitToRoute.toNatClampNeg)
  | .cam => some (s.numDataBroadcastBitToRoute.toInt64, 1)

/-- `routedWithoutHtree` with `numDataBitRouteToMat` as an `int`. -/
def storedRoutedWithoutHtree (p : BankParams) : Option (Int64 × ℕ) :=
  p.routedWithoutHtree.map fun bits => ((Int32.ofNat bits.1).toInt64, bits.2)

def storedParamsWithHtree (memCellType : MemCellType) (p : BankParams) (s : RoutingVars Int32) :
    Option (BankParams × MatParams Int64) :=
  p.matCall memCellType s.numAddressBitToRoute (p.storedRoutedWithHtree s)

def storedParamsWithoutHtree (memCellType : MemCellType) (p : BankParams) :
    Option (BankParams × MatParams Int64) :=
  p.matCall memCellType p.numAddressBitRouteToMat p.storedRoutedWithoutHtree

end BankParams

/-- A bank of other integers. -/
def Bank.map (f : ι → κ) (b : Bank ι) : Bank κ where
  toBankParams := b.toBankParams
  initialized := b.initialized
  invalid := b.invalid
  mat := b.mat.map f

/-- `BankWithHtree::Initialize` with its machine integers; `none` is an illegal array access or
a division by zero. -/
def initializeBankWithHtreeInt (undefined : Undefined) (el : Electrical Int64)
    (memCellType : MemCellType) (args : BankParams) : Option (BankWithHtree Int64 Int32) :=
  if args.internalSenseAmp = false then some (.rejected (.unsupported args))
  else
    let p := args.clampActive
    match p.routeInt with
    | .error .arrayAccess => none
    | .error .invalid => some (.rejected (.rejected p))
    | .ok s =>
        match p.storedParamsWithHtree memCellType s with
        | none => some (.rejected (.rejected p))
        | some (q, matParams) => do
            let mat ← initializeMatInt undefined el matParams
            if mat.invalid then
              some (.rejected
                { toBankParams := q, initialized := true, invalid := true, mat := mat })
            else
              some { toBankParams := args.restoreMux q
                     initialized := true
                     invalid := false
                     mat := mat
                     horizontal := s.horizontal
                     vertical := s.vertical
                     routed := s.routed }

/-- `BankWithoutHtree::Initialize` with its machine integers; `none` is a division by zero. -/
def initializeBankWithoutHtreeInt (undefined : Undefined) (el : Electrical Int64)
    (memCellType : MemCellType) (globalWireRepeaterType : WireRepeaterType) (args : BankParams) :
    Option (Bank Int64) :=
  match args.externalSensing memCellType globalWireRepeaterType with
  | some bank => some (bank.map Int64.ofNat)
  | none =>
      let p := args.clampActive
      match p.storedParamsWithoutHtree memCellType with
      | none => some (.rejected p)
      | some (q, matParams) => do
          let mat ← initializeMatInt undefined el matParams
          if mat.invalid then
            some { toBankParams := q, initialized := true, invalid := true, mat := mat }
          else if !p.internalSenseAmp &&
              el.globalSenseAmpInvalid p.numSenseAmp p.numColumnMat mat then
            some { toBankParams := q, initialized := true, invalid := true, mat := mat }
          else
            some { toBankParams := args.restoreMux q, initialized := true, invalid := false,
                   mat := mat }

/-- The bank of the organisation the routing mode asks for. -/
def initializeBankInt (undefined : Undefined) (el : Electrical Int64) (memCellType : MemCellType)
    (globalWireRepeaterType : WireRepeaterType) (routingMode : RoutingMode) (args : BankParams) :
    Option (Bank Int64) :=
  match routingMode with
  | .hTree =>
      (initializeBankWithHtreeInt undefined el memCellType args).map BankWithHtree.toBank
  | .nonHTree =>
      initializeBankWithoutHtreeInt undefined el memCellType globalWireRepeaterType args

namespace Bank

/-- The product that `VERIFY_DATA_CAPACITY` compares with the capacity, as a `long long`. -/
def storedCapacityInt (b : Bank Int64) : Int64 :=
  b.mat.subarray.numColumn * b.mat.subarray.numRow * Int64.ofNat b.numColumnMat *
    Int64.ofNat b.numRowMat * Int64.ofNat b.numColumnSubarray * Int64.ofNat b.numRowSubarray

end Bank

end NVSim
