import NVSim.Model.Bank

/-!
# `BankWithoutHtree::Initialize`

The organisation without an H-tree computes what reaches a mat in closed form.
-/

namespace NVSim

open Library

namespace BankParams

/-- The number of address bits that are used to power gate inactive mats. -/
def numAddressForGating (p : BankParams) : ℕ :=
  log2Rounded (p.numRowMat * p.numColumnMat / p.numActiveMatPerColumn / p.numActiveMatPerRow)

/-- `numAddressBitRouteToMat`: only the effective address bits are used further. -/
def numAddressBitRouteToMat (p : BankParams) : ℤ := p.numAddressBit - p.numAddressForGating

/-- The data bits and the ways of one mat; `none` when the number of ways assigned
to a mat is not legal. -/
def routedWithoutHtree (p : BankParams) : Option (ℕ × ℕ) :=
  match p.memoryType with
  | .data =>
      -- there are not enough ways to distribute into multiple rows
      if p.numRowPerSet > p.associativity then none
      else some (p.blockSize / p.numActiveMatPerColumn / p.numActiveMatPerRow, p.associativity)
  | .tag =>
      if p.numRowPerSet > 1 then none
      else
        let numWay := p.associativity / p.numActiveMatPerColumn / p.numActiveMatPerRow
        if numWay < 1 then none else some (p.blockSize, numWay)
  | .cam => some (p.blockSize, 1)

/-- The stored parameters at the call of `Mat::Initialize` and its arguments. -/
def matParamsWithoutHtree (memCellType : MemCellType) (p : BankParams) :
    Option (BankParams × MatParams) :=
  p.matCall memCellType p.numAddressBitRouteToMat p.routedWithoutHtree

end BankParams

/-- The number of global sense amplifiers of an externally sensed bank. -/
def BankParams.numSenseAmp (p : BankParams) : ℕ :=
  if p.memoryType = .data then p.blockSize else p.blockSize * p.associativity

/-- What the parameters say about external sensing before anything is routed:
the rejected bank, if it is rejected. -/
def BankParams.externalSensing (memCellType : MemCellType)
    (globalWireRepeaterType : WireRepeaterType) (args : BankParams) : Option Bank :=
  if args.internalSenseAmp then none
  -- DRAM does not support external sense amplification
  else if memCellType.isDram then some (.unsupported args)
  else if globalWireRepeaterType ≠ .repeatedNone then some (.rejected args)
  else none

/-- The bank `BankWithoutHtree::Initialize` leaves. -/
def initializeBankWithoutHtree (el : Electrical) (memCellType : MemCellType)
    (globalWireRepeaterType : WireRepeaterType) (args : BankParams) : Bank :=
  match args.externalSensing memCellType globalWireRepeaterType with
  | some bank => bank
  | none =>
      let p := args.clampActive
      match p.matParamsWithoutHtree memCellType with
      | none => .rejected p
      | some (q, matParams) =>
          let mat := initializeMat el matParams
          -- check if mat is under a legal configuration
          if mat.invalid then
            { toBankParams := q, initialized := true, invalid := true, mat := mat }
          else if !p.internalSenseAmp &&
              el.globalSenseAmpInvalid p.numSenseAmp p.numColumnMat mat then
            { toBankParams := q, initialized := true, invalid := true, mat := mat }
          else
            { toBankParams := args.restoreMux q, initialized := true, invalid := false, mat := mat }

end NVSim
