import NVSim.Model.Evaluation

/-!
# The search

The loops of `main` and the macros of `macros.h`: the enumeration `BIGFOR`, the
evaluation of its candidates, the refinement of the wires, the pass with design
constraints, and the tag and the data phase built from them.

A run can halt before its end: with an `exit(-1)`, or in a loop that doubles a
number below one.  Printing is not modelled.
-/

namespace NVSim

/-- Why a run does not come to its end. -/
inductive Halt
  /-- `applyConstraint` exits. -/
  | constraint
  /-- `Wire::Initialize` exits on a repeated wire of low swing. -/
  | wire
  /-- A loop starts below one: it does not end, or it divides by zero. -/
  | endless
  /-- `VERIFY_DATA_CAPACITY` or `VERIFY_TAG_CAPACITY` exits. -/
  | capacityViolation
deriving DecidableEq, Repr

/-- A value that has to be there. -/
def orHalt {α : Type} (halt : Halt) : Option α → Except Halt α
  | some a => .ok a
  | none => .error halt

theorem orHalt_eq_ok {α : Type} {halt : Halt} {value : Option α} {a : α} :
    orHalt halt value = .ok a ↔ value = some a := by
  cases value with
  | some b => simp [orHalt]
  | none => simp [orHalt]

/-! ## Loops -/

namespace Range

/-- The values of `for (x = min; x <= max; x++)`. -/
def values (r : Range) : List ℤ :=
  (List.range (r.max - r.min + 1).toNat).map fun i : ℕ => r.min + i

/-- Both bounds limited by `MIN(n, …)`. -/
def clip (n : ℕ) (r : Range) : Range := ⟨Min.min (n : ℤ) r.min, Min.min (n : ℤ) r.max⟩

end Range

/-- The values of `for (; x <= bound; x *= 2)`, at most `fuel` of them. -/
def doublings (bound : ℕ) : (fuel x : ℕ) → List ℕ
  | 0, _ => []
  | fuel + 1, x => if x ≤ bound then x :: doublings bound fuel (2 * x) else []

/-- The loop `for (x = min; x <= max; x *= 2)` around a body that enumerates
candidates; `none` if it does not end. -/
def forDoubling {α : Type} (r : Range) (body : ℕ → Option (List α)) : Option (List α) :=
  if r.max < r.min then some []
  else if r.min < 1 then none
  else ((doublings r.max.toNat r.max.toNat r.min.toNat).mapM body).map List.flatten

/-- The loop variables of `BIGFOR`. -/
structure Candidate where
  numRowMat : ℕ
  numColumnMat : ℕ
  numActiveMatPerRow : ℕ
  numActiveMatPerColumn : ℕ
  numRowSubarray : ℕ
  numColumnSubarray : ℕ
  numActiveSubarrayPerRow : ℕ
  numActiveSubarrayPerColumn : ℕ
  muxSenseAmp : ℕ
  muxOutputLev1 : ℕ
  muxOutputLev2 : ℕ
  numRowPerSet : ℕ
  areaOptimizationLevel : BufferDesignTarget
deriving DecidableEq, Repr

/-- The candidates the macro `BIGFOR` enumerates, in its order. -/
def bigFor (space : SearchSpace) (associativity : ℤ) : Option (List Candidate) :=
  forDoubling space.numRowMat fun numRowMat =>
  forDoubling space.numColumnMat fun numColumnMat =>
  forDoubling (space.numActiveMatPerRow.clip numColumnMat) fun numActiveMatPerRow =>
  forDoubling (space.numActiveMatPerColumn.clip numRowMat) fun numActiveMatPerColumn =>
  forDoubling space.numRowSubarray fun numRowSubarray =>
  forDoubling space.numColumnSubarray fun numColumnSubarray =>
  forDoubling (space.numActiveSubarrayPerRow.clip numColumnSubarray) fun numActiveSubarrayPerRow =>
  forDoubling (space.numActiveSubarrayPerColumn.clip numRowSubarray)
    fun numActiveSubarrayPerColumn =>
  forDoubling space.muxSenseAmp fun muxSenseAmp =>
  forDoubling space.muxOutputLev1 fun muxOutputLev1 =>
  forDoubling space.muxOutputLev2 fun muxOutputLev2 =>
  forDoubling ⟨space.numRowPerSet.min, min space.numRowPerSet.max associativity⟩
    fun numRowPerSet =>
  some (space.areaOptimizationLevel.values.map fun areaOptimizationLevel =>
    { numRowMat, numColumnMat, numActiveMatPerRow, numActiveMatPerColumn, numRowSubarray,
      numColumnSubarray, numActiveSubarrayPerRow, numActiveSubarrayPerColumn, muxSenseAmp,
      muxOutputLev1, muxOutputLev2, numRowPerSet,
      areaOptimizationLevel := .ofCode areaOptimizationLevel.toNat })

/-! ## Wires -/

/-- The kinds of `REFINE_LOCAL_WIRE_FORLOOP` and `REFINE_GLOBAL_WIRE_FORLOOP`, whose
condition leaves out the wires that `Wire::Initialize` does not accept. -/
def refinedKinds (wireType wireRepeaterType isLowSwing : Range) : List WireKind :=
  wireType.values.flatMap fun wireType =>
  wireRepeaterType.values.flatMap fun wireRepeaterType =>
  isLowSwing.values.filterMap fun isLowSwing =>
  WireKind.checked (.ofCode wireType.toNat) (.ofCode wireRepeaterType.toNat) (isLowSwing ≠ 0)

/-- The kind of wire the macro `INITIAL_BASIC_WIRE` chooses. -/
def basicKind (basicWireType : WireType) (wireType wireRepeaterType isLowSwing : Range) :
    Option WireKind :=
  WireKind.checked
    (if wireType.min = wireType.max then .ofCode wireType.min.toNat else basicWireType)
    (if wireRepeaterType.min = wireRepeaterType.max then .ofCode wireRepeaterType.min.toNat
      else .repeatedNone)
    (if isLowSwing.min = isLowSwing.max then isLowSwing.min ≠ 0 else false)

namespace InputParameter

variable {K : Type}

def localKinds (ip : InputParameter K) : List WireKind :=
  refinedKinds ip.localWireType ip.localWireRepeaterType ip.isLocalWireLowSwing

def globalKinds (ip : InputParameter K) : List WireKind :=
  refinedKinds ip.globalWireType ip.globalWireRepeaterType ip.isGlobalWireLowSwing

/-- The macro `INITIAL_BASIC_WIRE`: the local and the global wire. -/
def initialBasicWire (ip : InputParameter K) : Except Halt (Wire × Wire) := do
  let localKind ← orHalt .wire <| basicKind .localAggressive ip.localWireType
    ip.localWireRepeaterType ip.isLocalWireLowSwing
  let globalKind ← orHalt .wire <| basicKind .globalAggressive ip.globalWireType
    ip.globalWireRepeaterType ip.isGlobalWireLowSwing
  .ok (initializeWire ip.processNode localKind ip.temperature,
    initializeWire ip.processNode globalKind ip.temperature)

end InputParameter

/-! ## One pass over the candidates -/

/-- The array to be designed. -/
structure ArraySpec where
  capacity : ℕ
  blockSize : ℕ
  associativity : ℕ
deriving DecidableEq, Repr

namespace Candidate

/-- The number of active subarrays, over which a block is partitioned. -/
def numActive (c : Candidate) : ℕ :=
  c.numActiveMatPerRow * c.numActiveMatPerColumn * c.numActiveSubarrayPerRow *
    c.numActiveSubarrayPerColumn

/-- The arguments of the call of `Initialize`. -/
def toBankParams (c : Candidate) (spec : ArraySpec) (internalSensing : Bool)
    (memoryType : MemoryType) : BankParams where
  numRowMat := c.numRowMat
  numColumnMat := c.numColumnMat
  capacity := spec.capacity
  blockSize := spec.blockSize
  associativity := spec.associativity
  numRowPerSet := c.numRowPerSet
  numActiveMatPerRow := c.numActiveMatPerRow
  numActiveMatPerColumn := c.numActiveMatPerColumn
  muxSenseAmp := c.muxSenseAmp
  internalSenseAmp := internalSensing
  muxOutputLev1 := c.muxOutputLev1
  muxOutputLev2 := c.muxOutputLev2
  numRowSubarray := c.numRowSubarray
  numColumnSubarray := c.numColumnSubarray
  numActiveSubarrayPerRow := c.numActiveSubarrayPerRow
  numActiveSubarrayPerColumn := c.numActiveSubarrayPerColumn
  areaOptimizationLevel := c.areaOptimizationLevel
  memoryType := memoryType

/-- The arguments for a data array; too aggressive partitioning is left out. -/
def dataArgs (spec : ArraySpec) (internalSensing : Bool) (c : Candidate) : Option BankParams :=
  if spec.blockSize / c.numActive = 0 then none
  else some (c.toBankParams spec internalSensing .data)

end Candidate

/-- The results of the eight targets; the entry of `fullExploration` is not used. -/
abbrev Results (K : Type) := OptimizationTarget → Result K

/-- The best results so far, and the number of solutions they were chosen from. -/
structure BestResults (K : Type) where
  numSolution : ℕ
  results : Results K

/-- What a pass over the candidates changes. -/
structure SearchState (K : Type) extends BestResults K where
  cell : MemCell K

variable {K : Type} [Field K] [LinearOrder K]

/-- `numSolution++` and the macros `UPDATE_BEST_DATA` and `UPDATE_BEST_TAG`. -/
def BestResults.update (best : BestResults K) (tempResult : Design K) : BestResults K where
  numSolution := best.numSolution + 1
  results := fun target => (best.results target).compareAndUpdate tempResult

section Pass

variable (models : Models K) (settings : Settings K) (localWire globalWire : Wire)

/-- The body of a search loop: evaluate a candidate and, if it is valid and
`allowed`, verify its capacity and compare it with the best results. -/
def tryCandidate (allowed : FunctionUnit K → Bool) (s : SearchState K) (args : BankParams) :
    Except Halt (SearchState K) :=
  let (bank, cell) := calculate models settings s.cell localWire globalWire args
  if !bank.invalid && allowed bank.toFunctionUnit then
    if bank.storedCapacity ≠ args.capacity then .error .capacityViolation
    else
      .ok { toBestResults := s.toBestResults.update { bank, localWire, globalWire }
            cell := cell }
  else .ok { s with cell := cell }

/-- A search loop over the arguments of all candidates. -/
def searchPass (allowed : FunctionUnit K → Bool) (args : List BankParams)
    (s : SearchState K) : Except Halt (SearchState K) :=
  args.foldlM (tryCandidate models settings localWire globalWire allowed) s

end Pass

/-! ## Refinement of the wires -/

/-- The variables of the refinement loops. -/
structure RefineState (K : Type) where
  cell : MemCell K
  localWire : Wire
  globalWire : Wire
  tempResult : Design K
  results : Results K

/-- A statement of the refinement loops: initialise the refined wire, or load the
other wire from the result of a target and try that result with both. -/
inductive RefineStep
  | localWire (kind : WireKind)
  | globalWire (kind : WireKind)
  | refineLocal (target : OptimizationTarget)
  | refineGlobal (target : OptimizationTarget)
deriving DecidableEq, Repr

/-- The statements of both loops, in their order. -/
def InputParameter.refineSteps (ip : InputParameter K) : List RefineStep :=
  (ip.localKinds.flatMap fun kind =>
    .localWire kind :: OptimizationTarget.searched.map .refineLocal) ++
  (ip.globalKinds.flatMap fun kind =>
    .globalWire kind :: OptimizationTarget.searched.map .refineGlobal)

namespace RefineState

variable (models : Models K) (settings : Settings K) (memoryType : MemoryType)

/-- The macro `LOAD_LOCAL_WIRE`. -/
def loadLocalWire (target : OptimizationTarget) (s : RefineState K) : RefineState K :=
  { s with
    localWire := initializeWire settings.processNode (s.results target).localWire.toWireKind
      settings.temperature }

/-- The macro `LOAD_GLOBAL_WIRE`. -/
def loadGlobalWire (target : OptimizationTarget) (s : RefineState K) : RefineState K :=
  { s with
    globalWire := initializeWire settings.processNode (s.results target).globalWire.toWireKind
      settings.temperature }

/-- The arguments with which `TRY_AND_UPDATE` initialises the bank of a result again. -/
def retryArgs (bank : Bank) : BankParams :=
  { bank.toBankParams with
    internalSenseAmp := settings.internalSensing
    memoryType := memoryType }

/-- The macro `TRY_AND_UPDATE`. -/
def tryAndUpdate (target : OptimizationTarget) (s : RefineState K) : RefineState K :=
  let oldResult := s.results target
  let (trialBank, cell) := calculate models settings s.cell s.localWire s.globalWire
    (retryArgs settings memoryType oldResult.bank.toBank)
  let tempResult := { bank := trialBank, localWire := s.localWire, globalWire := s.globalWire }
  { s with
    cell := cell
    tempResult := tempResult
    results := Function.update s.results target (oldResult.compareAndUpdate tempResult) }

def step (s : RefineState K) : RefineStep → RefineState K
  | .localWire kind =>
      { s with localWire := initializeWire settings.processNode kind settings.temperature }
  | .globalWire kind =>
      { s with globalWire := initializeWire settings.processNode kind settings.temperature }
  | .refineLocal target =>
      (s.loadGlobalWire settings target).tryAndUpdate models settings memoryType target
  | .refineGlobal target =>
      (s.loadLocalWire settings target).tryAndUpdate models settings memoryType target

def run (steps : List RefineStep) (s : RefineState K) : RefineState K :=
  steps.foldl (step models settings memoryType) s

end RefineState

/-- Both refinement loops, which are entered if there is a solution. -/
def refineWires (models : Models K) (ip : InputParameter K) (memoryType : MemoryType)
    (localWire globalWire : Wire) (s : SearchState K) : SearchState K :=
  if s.numSolution > 0 then
    let refined := RefineState.run models ip.toSettings memoryType ip.refineSteps
      { cell := s.cell
        localWire := localWire
        globalWire := globalWire
        tempResult := (Result.new .readLatencyOptimized).toDesign
        results := s.results }
    { s with cell := refined.cell, results := refined.results }
  else s

/-! ## Design constraints -/

/-- The allowed values: each measure may exceed the best one by its constraint. -/
def allowedLimits (settings : Settings K) (results : Results K) : Limits K :=
  let allowed (target : OptimizationTarget) : K :=
    (results target).bank.objective target * (settings.constraint target + 1)
  { limitReadLatency := allowed .readLatencyOptimized
    limitWriteLatency := allowed .writeLatencyOptimized
    limitReadDynamicEnergy := allowed .readEnergyOptimized
    limitWriteDynamicEnergy := allowed .writeEnergyOptimized
    limitReadEdp := allowed .readEdpOptimized
    limitWriteEdp := allowed .writeEdpOptimized
    limitArea := allowed .areaOptimized
    limitLeakage := allowed .leakageOptimized }

/-- The best results after `APPLY_LIMIT`. -/
def BestResults.limited (allowed : Limits K) (results : Results K) : BestResults K where
  numSolution := 0
  results := fun target => (results target).applyLimit allowed

/-- The pass with design constraints: new limits, basic wires, and all candidates
that are within the allowed values once more. -/
def constrainedPass (models : Models K) (ip : InputParameter K) (args : List BankParams)
    (s : SearchState K) : Except Halt (SearchState K) := do
  let allowed := allowedLimits ip.toSettings s.results
  let (localWire, globalWire) ← ip.initialBasicWire
  searchPass models ip.toSettings localWire globalWire (fun u => allowed.Allow u) args
    { toBestResults := .limited allowed s.results, cell := s.cell }

/-! ## The phases -/

/-- No solution yet. -/
def BestResults.fresh : BestResults K where
  numSolution := 0
  results := fun target => .new target

/-- The data array, adjusted to the access mode and to flash and DRAM chips. -/
def dataArray (settings : Settings K) (memCellType : MemCellType) : ArraySpec :=
  let spec : ArraySpec :=
    { capacity := settings.capacity * 8
      blockSize := settings.wordWidth
      associativity := settings.associativity.toNat }
  match settings.designTarget with
  | .cache =>
      match settings.cacheAccessMode with
      -- already knows which way to access
      | .sequentialAccessMode => { spec with associativity := 1 }
      -- load the entire set as a single word
      | .fastAccessMode =>
          { spec with blockSize := spec.blockSize * spec.associativity, associativity := 1 }
      | .normalAccessMode => spec
  | .ramChip =>
      if memCellType = .slcNAND ∨ memCellType = .dram then
        { spec with blockSize := settings.pageSize, associativity := 1 }
      else spec
  | .camChip => spec

/-- Normal access does not allow one set to be distributed into multiple rows. -/
def InputParameter.dataSpace (ip : InputParameter K) : SearchSpace :=
  if ip.designTarget = .cache ∧ ip.cacheAccessMode = .normalAccessMode then
    { ip.toSearchSpace with numRowPerSet := .only 1 }
  else ip.toSearchSpace

/-- The arguments of all data candidates, in the order of the search. -/
def InputParameter.dataCandidates (ip : InputParameter K) (memCellType : MemCellType) :
    Except Halt (List BankParams) := do
  let candidates ← orHalt .endless (bigFor ip.dataSpace ip.associativity)
  .ok (candidates.filterMap
    (Candidate.dataArgs (dataArray ip.toSettings memCellType) ip.internalSensing))

/-- The search of the data array without design constraints, and its candidates. -/
def dataSearch (models : Models K) (ip : InputParameter K) (cell : MemCell K) :
    Except Halt (SearchState K × List BankParams) := do
  let (localWire, globalWire) ← ip.initialBasicWire
  let args ← ip.dataCandidates cell.memCellType
  let s ← searchPass models ip.toSettings localWire globalWire (fun _ => true) args
    { toBestResults := .fresh, cell := cell }
  .ok (refineWires models ip .data localWire globalWire s, args)

/-- The data phase. -/
def dataPhase (models : Models K) (ip : InputParameter K) (cell : MemCell K) :
    Except Halt (SearchState K) := do
  let (s, args) ← dataSearch models ip cell
  if ip.optimizationTarget ≠ .fullExploration ∧ ip.isConstraintApplied then
    constrainedPass models ip args s
  else .ok s

/-- `TOTAL_ADDRESS_BIT`. -/
def totalAddressBit : ℕ := 48

namespace Settings

/-- `numDataSet`, which is an `int`. -/
def numDataSet (settings : Settings K) : ℤ :=
  Int.bmod (settings.capacity * 8 / settings.wordWidth / settings.associativity.toNat : ℕ) (2 ^ 32)

def numIndexBit (settings : Settings K) : ℕ := Library.log2Rounded settings.numDataSet.toNat

def numOffsetBit (settings : Settings K) : ℕ := Library.log2Rounded (settings.wordWidth / 8)

/-- The width of a tag with its dirty and valid bits.  It has a value in the source if its
logarithms have one (`TagWidthDefined`). -/
def tagWidth (settings : Settings K) : ℕ :=
  totalAddressBit - settings.numIndexBit - settings.numOffsetBit + 2

/-- There are a set and a byte to count, and an address has room for the index and the offset. -/
structure TagWidthDefined (settings : Settings K) : Prop where
  numDataSet : 0 < settings.numDataSet
  byte : 8 ≤ settings.wordWidth
  room : settings.numIndexBit + settings.numOffsetBit ≤ totalAddressBit

end Settings

namespace Candidate

/-- The arguments for a tag array, whose block is rounded up to a multiple of the
number of active subarrays. -/
def tagArgs (settings : Settings K) (c : Candidate) : Option BankParams :=
  let blockSize := settings.tagWidth
  if blockSize / c.numActive = 0 then none
  else
    let blockSize :=
      if blockSize % c.numActive ≠ 0 then (blockSize / c.numActive + 1) * c.numActive
      else blockSize
    let spec : ArraySpec :=
      { capacity := settings.capacity * 8 / settings.wordWidth * blockSize
        blockSize := blockSize
        associativity := settings.associativity.toNat }
    some (c.toBankParams spec settings.internalSensing .tag)

end Candidate

/-- The tag phase, on the reduced search space. -/
def tagPhase (models : Models K) (ip : InputParameter K) (cell : MemCell K) :
    Except Halt (SearchState K) := do
  let ip := ip.reduceSearchSize
  let (localWire, globalWire) ← ip.initialBasicWire
  let candidates ← orHalt .endless (bigFor ip.toSearchSpace ip.associativity)
  let s ← searchPass models ip.toSettings localWire globalWire (fun _ => true)
    (candidates.filterMap (Candidate.tagArgs ip.toSettings))
    { toBestResults := .fresh, cell := cell }
  .ok (refineWires models ip .tag localWire globalWire s)

/-- Reset the search space, read the file, and apply the constraints. -/
def configure (file : List (ConfigLine K)) (memCellType : MemCellType) (ip : InputParameter K) :
    Except Halt (InputParameter K) :=
  orHalt .constraint
    ((ip.restoreSearchSize.readInputParameterFromFile file).applyConstraint memCellType)

/-- `main`: the tag phase of a cache, and the data phase.  Without a solution for
the tags there is no data phase. -/
def search (models : Settings K → Models K) (file : List (ConfigLine K))
    (ip : InputParameter K) (cell : MemCell K) : Except Halt (Option (SearchState K)) := do
  let ip ← configure file cell.memCellType ip
  if ip.designTarget = .cache then
    let tags ← tagPhase (models ip.toSettings) ip cell
    if tags.numSolution = 0 then .ok none
    else
      let ip ← configure file cell.memCellType ip.reduceSearchSize
      let data ← dataPhase (models ip.toSettings) ip tags.cell
      .ok (some data)
  else
    let data ← dataPhase (models ip.toSettings) ip cell
    .ok (some data)

/-! ## Examples -/

/-- Circuit models that accept everything, for examples. -/
def Models.permissive (measures : (localWire globalWire : Wire) → FunctionUnit K) : Models K where
  vdd := 1
  electrical := fun _ _ => .permissive
  aspectRatioIllegal := fun _ _ _ => false
  measures := fun _ localWire globalWire _ => measures localWire globalWire

/-- An SRAM cell, for examples. -/
def MemCell.sram : MemCell K where
  memCellType := .sram
  accessType := .cmosAccess
  resistanceOn := 0
  resistanceOnAtResetVoltage := 0
  resistanceOnAtSetVoltage := 0
  voltageDropAccessDevice := 0
  resetMode := true
  resetVoltage := 0
  resetCurrent := 0
  resetPulse := 0
  resetEnergy := 0
  setMode := true
  setVoltage := 0
  setCurrent := 0
  setPulse := 0
  setEnergy := 0

/-- A RAM with 16 words of 8 bits, for examples: one organisation, a local wire that
is given, and two global wires. -/
def InputParameter.small : InputParameter K where
  toSettings :=
    { (Settings.new 16 8 .hp "" 300 : Settings K) with
      designTarget := .ramChip
      constraint := fun _ => 0
      isConstraintApplied := true }
  numRowMat := .only 1
  numColumnMat := .only 1
  numActiveMatPerRow := .only 1
  numActiveMatPerColumn := .only 1
  numRowSubarray := .only 1
  numColumnSubarray := .only 1
  numActiveSubarrayPerRow := .only 1
  numActiveSubarrayPerColumn := .only 1
  muxSenseAmp := .only 1
  muxOutputLev1 := .only 1
  muxOutputLev2 := .only 1
  numRowPerSet := .only 1
  areaOptimizationLevel := .only 0
  localWireType := .only WireType.localAggressive.code
  globalWireType := ⟨WireType.globalAggressive.code, WireType.globalConservative.code⟩
  localWireRepeaterType := .only WireRepeaterType.repeatedNone.code
  globalWireRepeaterType := .only WireRepeaterType.repeatedNone.code
  isLocalWireLowSwing := .only 0
  isGlobalWireLowSwing := .only 0

end NVSim
