import NVSim.Model.BankEvaluation

/-!
# The macro `CALCULATE` over the circuits

The circuits a run works with, and the models of a configuration that they amount to.
`calculate` is the macro itself: it initialises a bank, its mat and its circuits, and evaluates
them.  The models see a bank only after its `Initialize`, so they initialise it from its record
again.
-/

namespace NVSim

variable {K : Type} [Field K] [LinearOrder K]

/-- The global objects of a run, and what is not determined by the program: what the memory of
a new object held, and after how many iterations a search for repeaters is given up. -/
structure Circuits (K : Type) [Zero K] [LinearOrder K] where
  globals : Globals K
  memory : SubArrayElectrics K
  unset : ℕ
  received : K
  fuel : ℕ
  wire : WireObject K

namespace Circuits

variable (c : Circuits K)

/-- The circuits with what the memory cell knows. -/
def withCell (cell : MemCell K) : Circuits K :=
  { c with globals := { c.globals with cell := { c.globals.cell with toMemCell := cell } } }

/-- The object of a wire. -/
def wireObject (wire : Wire) : WireObject K :=
  (initializeWireObject c.globals c.fuel c.wire wire.featureSizeInNano wire.toWireKind
    wire.temperature).getD c.wire

/-- The global objects with two wires. -/
def wired (localWire globalWire : Wire) : Globals K :=
  { c.globals with
    localWire := localWire
    globalWire := globalWire
    capWirePerUnit := fun wire => (c.wireObject wire).capWirePerUnit
    resWirePerUnit := fun wire => (c.wireObject wire).resWirePerUnit }

/-- What the circuits decide for the organisation. -/
def electrical (localWire globalWire : Wire) : Electrical :=
  (c.wired localWire globalWire).electrical c.memory c.unset

/-- The mat object of a bank. -/
def matObject (localWire globalWire : Wire) (mat : Mat) : Option (MatObject K) :=
  initializeMatObject (c.wired localWire globalWire) c.memory c.unset mat

variable [FloorRing K]

/-- `CalculateArea` and `CalculateLatencyAndPower` of a valid bank with H-tree. -/
def evaluateWithHtree (localWire globalWire : Wire) (b : BankWithHtree) :
    Option (EvaluatedBank K) := do
  let mat ← c.matObject localWire globalWire b.mat
  let o ← evaluateHtree (c.wired localWire globalWire) (c.wireObject globalWire) c.received b mat
  some { toBank := o.bank.toBank, toFunctionUnit := o.toFunctionUnit }

/-- `CalculateArea` and `CalculateLatencyAndPower` of a valid bank without H-tree. -/
def evaluateWithoutHtree (localWire globalWire : Wire) (b : Bank) : Option (EvaluatedBank K) := do
  let mat ← c.matObject localWire globalWire b.mat
  let o := evaluateNonHtree (c.wired localWire globalWire) (c.wireObject globalWire) c.received b
    mat
  some { toBank := o.bank, toFunctionUnit := o.toFunctionUnit }

/-- A bank that is not initialised, or invalid; a valid one is evaluated. -/
def finish (b : Bank) (evaluated : Option (EvaluatedBank K)) : Option (EvaluatedBank K) :=
  if b.initialized = false then some { b with toFunctionUnit := .fresh }
  else if b.invalid then some { b with toFunctionUnit := .invalid c.globals.inputParameter }
  else evaluated

/-- The macro `CALCULATE`; `none` is an exit or an illegal array access. -/
def calculate (localWire globalWire : Wire) (args : BankParams) : Option (EvaluatedBank K) :=
  let el := c.electrical localWire globalWire
  let memCellType := c.globals.cell.memCellType
  match c.globals.inputParameter.routingMode with
  | .hTree => do
      let b ← initializeBankWithHtree el memCellType args
      c.finish b.toBank (c.evaluateWithHtree localWire globalWire b)
  | .nonHTree =>
      let b := initializeBankWithoutHtree el memCellType globalWire.wireRepeaterType args
      c.finish b (c.evaluateWithoutHtree localWire globalWire b)

/-- The evaluation of a bank that is known by its record. -/
def evaluateRecord (localWire globalWire : Wire) (b : Bank) : Option (EvaluatedBank K) :=
  match c.globals.inputParameter.routingMode with
  | .hTree => do
      let b ← initializeBankWithHtree (c.electrical localWire globalWire)
        c.globals.cell.memCellType b.toBankParams
      c.evaluateWithHtree localWire globalWire b
  | .nonHTree => c.evaluateWithoutHtree localWire globalWire b

/-- The models of a configuration that the circuits amount to. -/
def models : Models K where
  vdd := c.globals.tech.vdd
  electrical := c.electrical
  aspectRatioIllegal := fun localWire globalWire b =>
    (c.evaluateRecord localWire globalWire b).any fun e => e.invalid
  measures := fun cell localWire globalWire b =>
    ((c.withCell cell).evaluateRecord localWire globalWire b).elim .fresh fun e => e.toFunctionUnit

end Circuits

end NVSim
