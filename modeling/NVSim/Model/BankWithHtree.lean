import NVSim.Library.TracedArray
import NVSim.Library.While
import NVSim.Model.BankWithoutHtree

/-!
# `BankWithHtree::Initialize`

The organisation with an H-tree walks from the root of the tree to a mat.  At
every level it either halves the data bits, as long as there are active mats to
split, or consumes an address bit, and it records what it routes in parallel
arrays, one set for the horizontal and one for the vertical levels.  The routing is generic
in the type of the data bits and of the wire counts: it is run here with exact naturals, and
by `NVSim.Model.BankInts` with the `int` of the source.

The arrays are `TracedArray`s: an access out of range, or a read of an entry
nothing was written to, makes the whole result `none`.  The list `routed`, which
is no variable of the source, records the order in which levels are written.
-/

namespace NVSim

open Library

inductive Direction
  | horizontal | vertical
deriving DecidableEq, Repr

variable {ι : Type}

/-- What is recorded about one level of the tree. -/
structure WireLevel (ι : Type := ℕ) where
  addressBit : ℤ
  dataDistributeBit : ι
  dataBroadcastBit : ι
  wire : ι
  sumWire : ι
  activeWire : ι
deriving DecidableEq, Repr

/-- The arrays of one direction (`numHorizontalAddressBitToRoute` and so on);
the wire lengths are left to the area computation. -/
structure WireArrays (ι : Type := ℕ) where
  numAddressBitToRoute : TracedArray ℤ
  numDataDistributeBitToRoute : TracedArray ι
  numDataBroadcastBitToRoute : TracedArray ι
  numWire : TracedArray ι
  numSumWire : TracedArray ι
  numActiveWire : TracedArray ι
deriving DecidableEq, Repr

namespace WireArrays

/-- The `new int[level]` of all arrays; without levels nothing is allocated. -/
def allocate (level : ℕ) : WireArrays ι where
  numAddressBitToRoute := .allocate level
  numDataDistributeBitToRoute := .allocate level
  numDataBroadcastBitToRoute := .allocate level
  numWire := .allocate level
  numSumWire := .allocate level
  numActiveWire := .allocate level

/-- Write one level to all arrays. -/
def record (a : WireArrays ι) (i : ℤ) (l : WireLevel ι) : Option (WireArrays ι) := do
  let numActiveWire ← a.numActiveWire.write i l.activeWire
  let numAddressBitToRoute ← a.numAddressBitToRoute.write i l.addressBit
  let numDataDistributeBitToRoute ← a.numDataDistributeBitToRoute.write i l.dataDistributeBit
  let numDataBroadcastBitToRoute ← a.numDataBroadcastBitToRoute.write i l.dataBroadcastBit
  let numWire ← a.numWire.write i l.wire
  let numSumWire ← a.numSumWire.write i l.sumWire
  some { numAddressBitToRoute, numDataDistributeBitToRoute, numDataBroadcastBitToRoute,
         numWire, numSumWire, numActiveWire }

end WireArrays

/-- Why the routing stops early. -/
inductive RouteHalt
  | invalid | arrayAccess
deriving DecidableEq, Repr

/-- An array access that has to succeed. -/
def access {α : Type} : Option α → Except RouteHalt α
  | some a => .ok a
  | none => .error .arrayAccess

/-- The local variables of the routing part of `Initialize`. -/
structure RoutingVars (ι : Type := ℕ) where
  h : ℕ
  v : ℕ
  rowToActive : ℕ
  columnToActive : ℕ
  numAddressBitToRoute : ℤ
  numDataDistributeBitToRoute : ι
  numDataBroadcastBitToRoute : ι
  hTemp : ι
  vTemp : ι
  horizontal : WireArrays ι
  vertical : WireArrays ι
  routed : List (Direction × ℕ)
deriving DecidableEq, Repr

namespace RoutingVars

variable [Add ι] [Mul ι] [Div ι] [OfNat ι 0] [OfNat ι 1] [OfNat ι 2] [DecidableEq ι]

/-- The condition on which every step returns with `invalid = true`. -/
def nothingToRoute (s : RoutingVars ι) : Bool :=
  s.numDataDistributeBitToRoute + s.numDataBroadcastBitToRoute = 0 || s.numAddressBitToRoute = 0

/-- Split the columns of active mats if there is possibility to reduce the data
bits, and consume an address bit otherwise; the second component is the factor
for the active wires. -/
def splitColumn (s : RoutingVars ι) : RoutingVars ι × ι :=
  if s.columnToActive > 1 then
    ({ s with
        numDataDistributeBitToRoute := s.numDataDistributeBitToRoute / 2
        columnToActive := s.columnToActive / 2 }, 2)
  else
    ({ s with numAddressBitToRoute := s.numAddressBitToRoute - 1 }, 1)

/-- The same for the rows of active mats. -/
def splitRow (s : RoutingVars ι) : RoutingVars ι × ι :=
  if s.rowToActive > 1 then
    ({ s with
        numDataDistributeBitToRoute := s.numDataDistributeBitToRoute / 2
        rowToActive := s.rowToActive / 2 }, 2)
  else
    ({ s with numAddressBitToRoute := s.numAddressBitToRoute - 1 }, 1)

/-- The level with the given wire counts and the bits routed at this point. -/
def level (s : RoutingVars ι) (wire sumWire activeWire : ι) : WireLevel ι where
  addressBit := s.numAddressBitToRoute
  dataDistributeBit := s.numDataDistributeBitToRoute
  dataBroadcastBit := s.numDataBroadcastBitToRoute
  wire := wire
  sumWire := sumWire
  activeWire := activeWire

/-- Write the horizontal level `levelHorizontal - h`. -/
def recordHorizontal (s : RoutingVars ι) (levelHorizontal : ℕ) (wire sumWire activeWire : ι) :
    Except RouteHalt (RoutingVars ι) := do
  let i : ℤ := levelHorizontal - s.h
  let horizontal ← access (s.horizontal.record i (s.level wire sumWire activeWire))
  .ok { s with
    horizontal := horizontal
    routed := s.routed ++ [(.horizontal, levelHorizontal - s.h)] }

/-- Write the vertical level `levelVertical - v`. -/
def recordVertical (s : RoutingVars ι) (levelVertical : ℕ) (wire sumWire activeWire : ι) :
    Except RouteHalt (RoutingVars ι) := do
  let i : ℤ := levelVertical - s.v
  let vertical ← access (s.vertical.record i (s.level wire sumWire activeWire))
  .ok { s with
    vertical := vertical
    routed := s.routed ++ [(.vertical, levelVertical - s.v)] }

/-- The active and the total wire groups of the horizontal level at `i`. -/
def readHorizontal (s : RoutingVars ι) (i : ℤ) : Except RouteHalt (ι × ι) := do
  let active ← access (s.horizontal.numActiveWire.read i)
  let sum ← access (s.horizontal.numSumWire.read i)
  .ok (active, sum)

/-- The active and the total wire groups of the vertical level at `i`. -/
def readVertical (s : RoutingVars ι) (i : ℤ) : Except RouteHalt (ι × ι) := do
  let active ← access (s.vertical.numActiveWire.read i)
  let sum ← access (s.vertical.numSumWire.read i)
  .ok (active, sum)

/-- The level above in the loop that reduces V to H; above the first vertical
level there is one wire group. -/
def readAboveVertical (s : RoutingVars ι) (levelVertical : ℕ) : Except RouteHalt (ι × ι) :=
  if s.v = levelVertical then .ok (1, 1)
  else s.readVertical ((levelVertical : ℤ) - s.v - 1)

/-- The level above the horizontal one in the loop that reduces both: a vertical
level, once there is one. -/
def readAboveHorizontal (s : RoutingVars ι) (levelHorizontal levelVertical : ℕ) :
    Except RouteHalt (ι × ι) :=
  if s.v = levelVertical then s.readHorizontal ((levelHorizontal : ℤ) - s.h - 1)
  else s.readVertical ((levelVertical : ℤ) - s.v - 1)

/-- Always route H as the first step. -/
def routeFirst (levelHorizontal : ℕ) (s : RoutingVars ι) : Except RouteHalt (RoutingVars ι) :=
  if s.h > 0 then do
    if s.nothingToRoute then .error .invalid
    else
      let s ← s.recordHorizontal levelHorizontal 1 1 1
      .ok { s with h := s.h - 1 }
  else .ok s

/-- One iteration of `while (h > v)`: H is larger than V, reduce H to V. -/
def reduceHToV (levelHorizontal : ℕ) (s : RoutingVars ι) : Except RouteHalt (RoutingVars ι) :=
  if s.nothingToRoute then .error .invalid
  else do
    let (s, factor) := s.splitColumn
    let (active, sum) ← s.readHorizontal ((levelHorizontal : ℤ) - s.h - 1)
    let s ← s.recordHorizontal levelHorizontal 1 (2 * sum) (factor * active)
    .ok { s with h := s.h - 1, vTemp := s.vTemp * 2 }

/-- One iteration of `while (v > h)`: V is larger than H, reduce V to H. -/
def reduceVToH (levelVertical : ℕ) (s : RoutingVars ι) : Except RouteHalt (RoutingVars ι) :=
  if s.nothingToRoute then .error .invalid
  else do
    let (s, factor) := s.splitRow
    let (active, sum) ← s.readAboveVertical levelVertical
    let s ← s.recordVertical levelVertical 1 (2 * sum) (factor * active)
    .ok { s with v := s.v - 1, hTemp := s.hTemp * 2 }

/-- The horizontal half of one iteration of `while (h > 0)`. -/
def reduceBothHorizontal (levelHorizontal levelVertical : ℕ) (s : RoutingVars ι) :
    Except RouteHalt (RoutingVars ι) :=
  if s.nothingToRoute then .error .invalid
  else do
    let (s, factor) := s.splitColumn
    let (active, sum) ← s.readAboveHorizontal levelHorizontal levelVertical
    s.recordHorizontal levelHorizontal s.hTemp (2 * sum) (factor * active)

/-- The vertical half of one iteration of `while (h > 0)`. -/
def reduceBothVertical (levelHorizontal levelVertical : ℕ) (s : RoutingVars ι) :
    Except RouteHalt (RoutingVars ι) :=
  if s.nothingToRoute then .error .invalid
  else do
    let (s, factor) := s.splitRow
    let (active, sum) ← s.readHorizontal ((levelHorizontal : ℤ) - s.h)
    let s ← s.recordVertical levelVertical (if levelHorizontal = 2 then s.vTemp else 2 * s.vTemp)
      (2 * sum) (factor * active)
    .ok { s with h := s.h - 1, v := s.v - 1, hTemp := s.hTemp * 2, vTemp := s.vTemp * 2 }

/-- One iteration of `while (h > 0)`: reduce H and V to zero. -/
def reduceBoth (levelHorizontal levelVertical : ℕ) (s : RoutingVars ι) :
    Except RouteHalt (RoutingVars ι) := do
  let s ← s.reduceBothHorizontal levelHorizontal levelVertical
  s.reduceBothVertical levelHorizontal levelVertical

/-- The last step, from the innermost level to the columns of mats, has no wire. -/
def lastColumnStep (levelHorizontal : ℕ) (s : RoutingVars ι) : Except RouteHalt (RoutingVars ι) :=
  if s.nothingToRoute then .error .invalid
  else if s.columnToActive > 1 then
    .ok { s with
      numDataDistributeBitToRoute := s.numDataDistributeBitToRoute / 2
      columnToActive := s.columnToActive / 2 }
  else if levelHorizontal > 0 then
    .ok { s with numAddressBitToRoute := s.numAddressBitToRoute - 1 }
  else .ok s

end RoutingVars

namespace BankParams

/-- `numDataDistributeBit`: the data bits distributed along with the address. -/
def numDataDistributeBit (p : BankParams) : ℕ :=
  match p.memoryType with
  | .data => p.blockSize
  | .tag => p.associativity
  | .cam => 0

/-- `numDataBroadcastBit`: the data bits broadcast at every node. -/
def numDataBroadcastBit (p : BankParams) : ℕ :=
  match p.memoryType with
  | .data => Nat.log 2 p.associativity
  | .tag => p.blockSize
  | .cam => p.blockSize

def levelHorizontal (p : BankParams) : ℕ := log2Rounded p.numColumnMat

def levelVertical (p : BankParams) : ℕ := log2Rounded p.numRowMat

section Routing

variable [Add ι] [Mul ι] [Div ι] [OfNat ι 0] [OfNat ι 1] [OfNat ι 2] [DecidableEq ι]

/-- The variables before the first step for the data bits of a bank, and the allocated arrays. -/
def startRoutingWith (p : BankParams) (numDataDistributeBit numDataBroadcastBit : ι) :
    RoutingVars ι where
  h := p.levelHorizontal
  v := p.levelVertical
  rowToActive := p.numActiveMatPerColumn
  columnToActive := p.numActiveMatPerRow
  numAddressBitToRoute := p.numAddressBit
  numDataDistributeBitToRoute := numDataDistributeBit
  numDataBroadcastBitToRoute := numDataBroadcastBit
  hTemp := 1
  vTemp := 1
  horizontal := .allocate p.levelHorizontal
  vertical := .allocate p.levelVertical
  routed := []

/-- The routing of `BankWithHtree::Initialize`: the first step, the three loops
and the last step.  Each loop is given as many iterations as its variable allows. -/
def routeWith (p : BankParams) (numDataDistributeBit numDataBroadcastBit : ι) :
    Except RouteHalt (RoutingVars ι) := do
  let s ← (p.startRoutingWith numDataDistributeBit numDataBroadcastBit).routeFirst p.levelHorizontal
  let s ← whileM (fun s => s.h > s.v) (RoutingVars.reduceHToV p.levelHorizontal) s.h s
  let s ← whileM (fun s => s.v > s.h) (RoutingVars.reduceVToH p.levelVertical) s.v s
  let s ← whileM (fun s => s.h > 0)
    (RoutingVars.reduceBoth p.levelHorizontal p.levelVertical) s.h s
  s.lastColumnStep p.levelHorizontal

end Routing

def startRouting (p : BankParams) : RoutingVars :=
  p.startRoutingWith p.numDataDistributeBit p.numDataBroadcastBit

/-- The routing with exact integers. -/
def route (p : BankParams) : Except RouteHalt RoutingVars :=
  p.routeWith p.numDataDistributeBit p.numDataBroadcastBit

/-- The data bits and the ways of one mat; `none` when the number of ways assigned
to this mat is not legal. -/
def routedWithHtree (p : BankParams) (s : RoutingVars) : Option (ℕ × ℕ) :=
  match p.memoryType with
  | .data =>
      -- there are not enough ways to distribute into multiple rows
      if p.numRowPerSet > 2 ^ s.numDataBroadcastBitToRoute then none
      else some (s.numDataDistributeBitToRoute, 2 ^ s.numDataBroadcastBitToRoute)
  | .tag =>
      if p.numRowPerSet > 1 then none
      else if s.numDataDistributeBitToRoute = 0 then none
      else some (s.numDataBroadcastBitToRoute, s.numDataDistributeBitToRoute)
  | .cam => some (s.numDataBroadcastBitToRoute, 1)

/-- The stored parameters at the call of `Mat::Initialize` and its arguments. -/
def matParamsWithHtree (memCellType : MemCellType) (p : BankParams) (s : RoutingVars) :
    Option (BankParams × MatParams) :=
  p.matCall memCellType s.numAddressBitToRoute (p.routedWithHtree s)

end BankParams

/-- A bank with H-tree. -/
structure BankWithHtree (ι κ : Type := ℕ) extends Bank ι where
  horizontal : WireArrays κ
  vertical : WireArrays κ
  routed : List (Direction × ℕ)
deriving DecidableEq, Repr

/-- A bank that is rejected before its arrays are complete; they are not read. -/
def BankWithHtree.rejected {κ : Type} (bank : Bank ι) : BankWithHtree ι κ where
  toBank := bank
  horizontal := .allocate bank.levelHorizontal
  vertical := .allocate bank.levelVertical
  routed := []

/-- The bank `BankWithHtree::Initialize` leaves, or `none` after an illegal array
access. -/
def initializeBankWithHtree (el : Electrical) (memCellType : MemCellType) (args : BankParams) :
    Option BankWithHtree :=
  -- the H-tree organization does not support external sense amplification
  if args.internalSenseAmp = false then some (.rejected (.unsupported args))
  else
    let p := args.clampActive
    match p.route with
    | .error .arrayAccess => none
    | .error .invalid => some (.rejected (.rejected p))
    | .ok s =>
        match p.matParamsWithHtree memCellType s with
        | none => some (.rejected (.rejected p))
        | some (q, matParams) =>
            let mat := initializeMat el matParams
            -- check if mat is under a legal configuration
            if mat.invalid then
              some (.rejected
                { toBankParams := q, initialized := true, invalid := true, mat := mat })
            else
              some { toBankParams := args.restoreMux q
                     initialized := true
                     invalid := false
                     mat := mat
                     horizontal := s.horizontal
                     vertical := s.vertical
                     routed := s.routed }

/-- The bank of the organisation the routing mode asks for, `none` after an
illegal array access. -/
def initializeBank (el : Electrical) (memCellType : MemCellType)
    (globalWireRepeaterType : WireRepeaterType) (routingMode : RoutingMode) (args : BankParams) :
    Option Bank :=
  match routingMode with
  | .hTree => (initializeBankWithHtree el memCellType args).map BankWithHtree.toBank
  | .nonHTree => some (initializeBankWithoutHtree el memCellType globalWireRepeaterType args)

end NVSim
