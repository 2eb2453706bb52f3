import NVSim.Model.Search

/-!
# The file of a full exploration

A full exploration without pruning writes rows to a file.  The macro `OUTPUT_TO_FILE`
stands in the loop over the candidates, for every solution it counts, and at the end of
every iteration of the two refinement loops, for the last design that was tried with the
refined wire.

A row is kept as the designs it is printed from.  A bank that no `Initialize` was called
on, or that is rejected for its sensing scheme, has not stored a memory type; `unset`
gives the one that is read from its memory.
-/

namespace NVSim

/-- A row of the file: the printed design, and in a cache that of the tag array. -/
structure CsvRow (K : Type) where
  data : Design K
  tag : Option (Design K)

variable {K : Type} [Field K] [LinearOrder K]

namespace Design

/-- `Initialize` has stored its arguments in the bank. -/
def stored (memCellType : MemCellType) (routingMode : RoutingMode) (d : Design K) : Bool :=
  d.bank.initialized &&
    (d.bank.internalSenseAmp ||
      routingMode = .nonHTree && !memCellType.isDram &&
        d.globalWire.wireRepeaterType = .repeatedNone)

/-- The memory type read from the bank. -/
def memoryType (memCellType : MemCellType) (routingMode : RoutingMode)
    (unset : Design K → MemoryType) (d : Design K) : MemoryType :=
  if d.stored memCellType routingMode then d.bank.memoryType else unset d

end Design

section Output

variable (settings : Settings K) (memCellType : MemCellType) (unset : Design K → MemoryType)
  (tags : Results K)

/-- `Result::printAsCacheToCsvFile`: no row for what is not a valid cache configuration. -/
def printAsCacheToCsvFile (tempResult tagResult : Design K) : Option (CsvRow K) :=
  if tempResult.memoryType memCellType settings.routingMode unset ≠ .data ∨
      tagResult.memoryType memCellType settings.routingMode unset ≠ .tag then none
  else some { data := tempResult, tag := some tagResult }

/-- The macro `OUTPUT_TO_FILE`. -/
def outputToFile (tempResult : Design K) : List (CsvRow K) :=
  if settings.designTarget = .cache then
    OptimizationTarget.searched.filterMap fun target =>
      printAsCacheToCsvFile settings memCellType unset tempResult (tags target).toDesign
  else [{ data := tempResult, tag := none }]

/-- What the data search of an exploration changes. -/
structure ExploreState (K : Type) extends SearchState K where
  rows : List (CsvRow K)

/-- The body of the loop over the candidates. -/
def exploreCandidate (models : Models K) (localWire globalWire : Wire) (s : ExploreState K)
    (args : BankParams) : Except Halt (ExploreState K) :=
  let (bank, cell) := calculate models settings s.cell localWire globalWire args
  if !bank.invalid then
    if bank.storedCapacity ≠ args.capacity then .error .capacityViolation
    else
      let tempResult := { bank, localWire, globalWire }
      .ok { toBestResults := s.toBestResults.update tempResult
            cell := cell
            rows := s.rows ++ outputToFile settings memCellType unset tags tempResult }
  else .ok { s with cell := cell }

/-- An iteration of a refinement loop, with the statements `steps` before the output. -/
def exploreWire (models : Models K) (s : RefineState K × List (CsvRow K))
    (steps : List RefineStep) : RefineState K × List (CsvRow K) :=
  let refined := s.1.run models settings .data steps
  (refined, s.2 ++ outputToFile settings memCellType unset tags refined.tempResult)

end Output

namespace InputParameter

/-- The statements of both refinement loops, by their iterations. -/
def refineLoops (ip : InputParameter K) : List (List RefineStep) :=
  (ip.localKinds.map fun kind =>
    .localWire kind :: OptimizationTarget.searched.map .refineLocal) ++
  (ip.globalKinds.map fun kind =>
    .globalWire kind :: OptimizationTarget.searched.map .refineGlobal)

/-- A row of a cache is printed with each of the eight tag results. -/
def solutionMultiplier (ip : InputParameter K) : ℕ :=
  if ip.designTarget = .cache then 8 else 1

end InputParameter

section Explore

variable (models : Models K) (ip : InputParameter K) (cell : MemCell K)
  (unset : Design K → MemoryType) (tags : Results K)

/-- Both refinement loops with their output. -/
def exploreWires (localWire globalWire : Wire) (s : ExploreState K) : ExploreState K :=
  if s.numSolution > 0 then
    let refined := ip.refineLoops.foldl
      (exploreWire ip.toSettings cell.memCellType unset tags models)
      ({ cell := s.cell
         localWire := localWire
         globalWire := globalWire
         tempResult := (Result.new .readLatencyOptimized).toDesign
         results := s.results }, s.rows)
    { s with cell := refined.1.cell, results := refined.1.results, rows := refined.2 }
  else s

/-- The data search of an exploration over the candidates `args`. -/
def explore (localWire globalWire : Wire) (args : List BankParams) :
    Except Halt (ExploreState K) := do
  let s ← args.foldlM
    (exploreCandidate ip.toSettings cell.memCellType unset tags models localWire globalWire)
    { toBestResults := .fresh, cell := cell, rows := [] }
  .ok (exploreWires models ip cell unset tags localWire globalWire s)

/-- The data phase of a full exploration without pruning. -/
def explorationPhase : Except Halt (ExploreState K) := do
  let (localWire, globalWire) ← ip.initialBasicWire
  let args ← ip.dataCandidates cell.memCellType
  explore models ip cell unset tags localWire globalWire args

end Explore

end NVSim
