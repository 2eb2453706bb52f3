import Mathlib.Algebra.Field.Defs
import Mathlib.Logic.Function.Basic
import NVSim.Model.Typedef

/-!
# The configuration

`InputParameter`: the settings of a run and the bounds of its search space, the
macros that reset these bounds, the reader of the configuration file and
`applyConstraint`.

A line of the file is modelled by the handler its first word selects and by what
the handler's `sscanf` delivers: the word in the buffer `tmp` (which is the one an
earlier line left there if this line has none), or a number, if there is one.
The numbers of bits and bytes are naturals.
-/

namespace NVSim

/-- The fields `min…` and `max…` of one dimension of the search space. -/
structure Range where
  min : ℤ
  max : ℤ
deriving DecidableEq, Repr

/-- A range of a single value. -/
def Range.only (n : ℤ) : Range := ⟨n, n⟩

/-- The bounds of the search. -/
structure SearchSpace where
  numRowMat : Range
  numColumnMat : Range
  numActiveMatPerRow : Range
  numActiveMatPerColumn : Range
  numRowSubarray : Range
  numColumnSubarray : Range
  numActiveSubarrayPerRow : Range
  numActiveSubarrayPerColumn : Range
  muxSenseAmp : Range
  muxOutputLev1 : Range
  muxOutputLev2 : Range
  numRowPerSet : Range
  areaOptimizationLevel : Range
  localWireType : Range
  globalWireType : Range
  localWireRepeaterType : Range
  globalWireRepeaterType : Range
  isLocalWireLowSwing : Range
  isGlobalWireLowSwing : Range
deriving DecidableEq, Repr

/-- The remaining fields.  `constraint` holds `readLatencyConstraint` and the
seven like it, by the target they limit. -/
@[ext] structure Settings (K : Type) where
  designTarget : DesignTarget
  optimizationTarget : OptimizationTarget
  processNode : ℤ
  capacity : ℕ
  wordWidth : ℕ
  deviceRoadmap : DeviceRoadmap
  fileMemCell : String
  temperature : ℤ
  maxDriverCurrent : K
  writeScheme : WriteScheme
  constraint : OptimizationTarget → K
  isConstraintApplied : Bool
  isPruningEnabled : Bool
  useCactiAssumption : Bool
  associativity : ℤ
  cacheAccessMode : CacheAccessMode
  pageSize : ℕ
  flashBlockSize : ℕ
  routingMode : RoutingMode
  internalSensing : Bool
  maxNmosSize : K
  outputFilePrefix : String

structure InputParameter (K : Type) extends Settings K, SearchSpace

namespace SearchSpace

/-- The bounds of the macro `RESTORE_SEARCH_SIZE`. -/
def restored (associativity : ℤ) : SearchSpace where
  numRowMat := ⟨1, 512⟩
  numColumnMat := ⟨1, 512⟩
  numActiveMatPerRow := ⟨1, 512⟩
  numActiveMatPerColumn := ⟨1, 512⟩
  numRowSubarray := ⟨1, 2⟩
  numColumnSubarray := ⟨1, 2⟩
  numActiveSubarrayPerRow := ⟨1, 2⟩
  numActiveSubarrayPerColumn := ⟨1, 2⟩
  muxSenseAmp := ⟨1, 256⟩
  muxOutputLev1 := ⟨1, 256⟩
  muxOutputLev2 := ⟨1, 256⟩
  numRowPerSet := ⟨1, associativity⟩
  areaOptimizationLevel := ⟨0, 2⟩
  localWireType := ⟨WireType.localAggressive.code, WireType.semiConservative.code⟩
  globalWireType := ⟨WireType.semiAggressive.code, WireType.globalConservative.code⟩
  localWireRepeaterType :=
    ⟨WireRepeaterType.repeatedNone.code, WireRepeaterType.repeated50.code⟩
  globalWireRepeaterType :=
    ⟨WireRepeaterType.repeatedNone.code, WireRepeaterType.repeated50.code⟩
  isLocalWireLowSwing := ⟨0, 1⟩
  isGlobalWireLowSwing := ⟨0, 1⟩

/-- The bounds of the macro `REDUCE_SEARCH_SIZE`. -/
def reduced : SearchSpace where
  numRowMat := ⟨1, 64⟩
  numColumnMat := ⟨1, 64⟩
  numActiveMatPerRow := ⟨1, 64⟩
  numActiveMatPerColumn := ⟨1, 64⟩
  numRowSubarray := ⟨1, 2⟩
  numColumnSubarray := ⟨1, 2⟩
  numActiveSubarrayPerRow := ⟨1, 2⟩
  numActiveSubarrayPerColumn := ⟨1, 2⟩
  muxSenseAmp := ⟨1, 64⟩
  muxOutputLev1 := ⟨1, 64⟩
  muxOutputLev2 := ⟨1, 64⟩
  numRowPerSet := ⟨1, 1⟩
  areaOptimizationLevel := ⟨0, 2⟩
  localWireType := ⟨WireType.localAggressive.code, WireType.localConservative.code⟩
  globalWireType := ⟨WireType.globalAggressive.code, WireType.globalConservative.code⟩
  localWireRepeaterType :=
    ⟨WireRepeaterType.repeatedNone.code, WireRepeaterType.repeatedOpt.code⟩
  globalWireRepeaterType :=
    ⟨WireRepeaterType.repeatedNone.code, WireRepeaterType.repeatedOpt.code⟩
  isLocalWireLowSwing := ⟨0, 1⟩
  isGlobalWireLowSwing := ⟨0, 1⟩

/-- What `-UseCactiAssumption: Yes` forces. -/
def cactiAssumption (s : SearchSpace) : SearchSpace :=
  { s with
    numActiveMatPerRow := .only s.numColumnMat.max
    numActiveMatPerColumn := .only 1
    numRowSubarray := .only 2
    numColumnSubarray := .only 2
    numActiveSubarrayPerRow := .only 2
    numActiveSubarrayPerColumn := .only 2 }

end SearchSpace

/-- `InputParameter::InputParameter`.  The arguments are the fields it does not
initialise; the bounds it sets are overwritten at once by `RESTORE_SEARCH_SIZE`. -/
def Settings.new {K : Type} [Field K] (capacity wordWidth : ℕ) (deviceRoadmap : DeviceRoadmap)
    (fileMemCell : String) (temperature : ℤ) : Settings K where
  designTarget := .cache
  optimizationTarget := .readLatencyOptimized
  processNode := 90
  capacity := capacity
  wordWidth := wordWidth
  deviceRoadmap := deviceRoadmap
  fileMemCell := fileMemCell
  temperature := temperature
  maxDriverCurrent := 0
  writeScheme := .normalWrite
  constraint := fun _ => 10 ^ 41
  isConstraintApplied := false
  isPruningEnabled := false
  useCactiAssumption := false
  associativity := 1
  cacheAccessMode := .normalAccessMode
  pageSize := 0
  flashBlockSize := 0
  routingMode := .hTree
  internalSensing := true
  maxNmosSize := 100
  outputFilePrefix := "output"

namespace InputParameter

variable {K : Type}

/-- The macro `RESTORE_SEARCH_SIZE`. -/
def restoreSearchSize (ip : InputParameter K) : InputParameter K :=
  { ip with toSearchSpace := .restored ip.associativity }

/-- The macro `REDUCE_SEARCH_SIZE`. -/
def reduceSearchSize (ip : InputParameter K) : InputParameter K :=
  { ip with toSearchSpace := .reduced }

end InputParameter

/-! ## The configuration file -/

/-- A line of the file, by its handler. -/
inductive ConfigLine (K : Type)
  | designTarget (tmp : String)
  | optimizationTarget (tmp : String)
  | outputFilePrefix (tmp : String)
  | processNode (value : Option ℤ)
  | capacityB (cap : ℕ)
  | capacityKB (cap : ℕ)
  | capacityMB (cap : ℕ)
  | wordWidth (value : Option ℕ)
  | associativity (value : Option ℤ)
  | temperature (value : Option ℤ)
  | maxDriverCurrent (value : Option K)
  | deviceRoadmap (tmp : String)
  | writeScheme (tmp : String)
  | cacheAccessMode (tmp : String)
  | localWireType (tmp : String)
  | localWireRepeaterType (tmp : String)
  | localWireUseLowSwing (tmp : String)
  | globalWireType (tmp : String)
  | globalWireRepeaterType (tmp : String)
  | globalWireUseLowSwing (tmp : String)
  | routing (tmp : String)
  | internalSensing (tmp : String)
  | memoryCellInputFile (tmp : String)
  | maxNmosSize (value : Option K)
  | forceBank (rowMat columnMat activeMatPerColumn activeMatPerRow : Option ℤ)
  | forceMat (rowSubarray columnSubarray activeSubarrayPerColumn activeSubarrayPerRow : Option ℤ)
  | forceMuxSenseAmp (value : Option ℤ)
  | forceMuxOutputLev1 (value : Option ℤ)
  | forceMuxOutputLev2 (value : Option ℤ)
  | useCactiAssumption (tmp : String)
  | enablePruning (tmp : String)
  | bufferDesignOptimization (tmp : String)
  | flashPageSize (value : Option ℕ)
  | flashBlockSize (value : Option ℕ)
  | applyConstraint (target : OptimizationTarget) (value : Option K)
  | other

def DesignTarget.ofWord (tmp : String) : DesignTarget :=
  if tmp = "cache" then .cache else if tmp = "RAM" then .ramChip else .camChip

def OptimizationTarget.ofWord (tmp : String) : OptimizationTarget :=
  if tmp = "ReadLatency" then .readLatencyOptimized
  else if tmp = "WriteLatency" then .writeLatencyOptimized
  else if tmp = "ReadDynamicEnergy" then .readEnergyOptimized
  else if tmp = "WriteDynamicEnergy" then .writeEnergyOptimized
  else if tmp = "ReadEDP" then .readEdpOptimized
  else if tmp = "WriteEDP" then .writeEdpOptimized
  else if tmp = "LeakagePower" then .leakageOptimized
  else if tmp = "Area" then .areaOptimized
  else .fullExploration

def DeviceRoadmap.ofWord (tmp : String) : DeviceRoadmap :=
  if tmp = "HP" then .hp else if tmp = "LSTP" then .lstp else .lop

def WriteScheme.ofWord (tmp : String) : WriteScheme :=
  if tmp = "SetBeforeReset" then .setBeforeReset
  else if tmp = "ResetBeforeSet" then .resetBeforeSet
  else if tmp = "EraseBeforeSet" then .eraseBeforeSet
  else if tmp = "EraseBeforeReset" then .eraseBeforeReset
  else if tmp = "WriteAndVerify" then .writeAndVerify
  else .normalWrite

def CacheAccessMode.ofWord (tmp : String) : CacheAccessMode :=
  if tmp = "Sequential" then .sequentialAccessMode
  else if tmp = "Fast" then .fastAccessMode
  else .normalAccessMode

def WireType.ofWord (tmp : String) : WireType :=
  if tmp = "LocalAggressive" then .localAggressive
  else if tmp = "LocalConservative" then .localConservative
  else if tmp = "SemiAggressive" then .semiAggressive
  else if tmp = "SemiConservative" then .semiConservative
  else if tmp = "GlobalAggressive" then .globalAggressive
  else if tmp = "GlobalConservative" then .globalConservative
  else .dramWordline

def WireRepeaterType.ofWord (tmp : String) : WireRepeaterType :=
  if tmp = "RepeatedOpt" then .repeatedOpt
  else if tmp = "Repeated5%Penalty" then .repeated5
  else if tmp = "Repeated10%Penalty" then .repeated10
  else if tmp = "Repeated20%Penalty" then .repeated20
  else if tmp = "Repeated30%Penalty" then .repeated30
  else if tmp = "Repeated40%Penalty" then .repeated40
  else if tmp = "Repeated50%Penalty" then .repeated50
  else .repeatedNone

/-- The level `-BufferDesignOptimization` asks for. -/
def BufferDesignTarget.ofWord (tmp : String) : ℤ :=
  if tmp = "latency" then 0 else if tmp = "area" then 2 else 1

namespace InputParameter

variable {K : Type}

/-- The body of the loop of `ReadInputParameterFromFile`. -/
def readLine (ip : InputParameter K) : ConfigLine K → InputParameter K
  | .designTarget tmp =>
      { ip with
        designTarget := .ofWord tmp
        numRowPerSet := if tmp = "cache" then ip.numRowPerSet else .only 1 }
  | .optimizationTarget tmp => { ip with optimizationTarget := .ofWord tmp }
  | .outputFilePrefix tmp => { ip with outputFilePrefix := tmp }
  | .processNode value => { ip with processNode := value.getD ip.processNode }
  | .capacityB cap => { ip with capacity := cap }
  | .capacityKB cap => { ip with capacity := cap * 1024 }
  | .capacityMB cap => { ip with capacity := cap * 1024 * 1024 }
  | .wordWidth value => { ip with wordWidth := value.getD ip.wordWidth }
  | .associativity value => { ip with associativity := value.getD ip.associativity }
  | .temperature value => { ip with temperature := value.getD ip.temperature }
  | .maxDriverCurrent value => { ip with maxDriverCurrent := value.getD ip.maxDriverCurrent }
  | .deviceRoadmap tmp => { ip with deviceRoadmap := .ofWord tmp }
  | .writeScheme tmp => { ip with writeScheme := .ofWord tmp }
  | .cacheAccessMode tmp => { ip with cacheAccessMode := .ofWord tmp }
  | .localWireType tmp => { ip with localWireType := .only (WireType.ofWord tmp).code }
  | .localWireRepeaterType tmp =>
      { ip with localWireRepeaterType := .only (WireRepeaterType.ofWord tmp).code }
  | .localWireUseLowSwing tmp =>
      { ip with isLocalWireLowSwing := .only (if tmp = "Yes" then 1 else 0) }
  | .globalWireType tmp => { ip with globalWireType := .only (WireType.ofWord tmp).code }
  | .globalWireRepeaterType tmp =>
      { ip with globalWireRepeaterType := .only (WireRepeaterType.ofWord tmp).code }
  | .globalWireUseLowSwing tmp =>
      { ip with isGlobalWireLowSwing := .only (if tmp = "Yes" then 1 else 0) }
  | .routing tmp => { ip with routingMode := if tmp = "H-tree" then .hTree else .nonHTree }
  | .internalSensing tmp => { ip with internalSensing := decide (tmp = "true") }
  | .memoryCellInputFile tmp => { ip with fileMemCell := tmp }
  | .maxNmosSize value => { ip with maxNmosSize := value.getD ip.maxNmosSize }
  | .forceBank rowMat columnMat activeMatPerColumn activeMatPerRow =>
      { ip with
        numRowMat := .only (rowMat.getD ip.numRowMat.min)
        numColumnMat := .only (columnMat.getD ip.numColumnMat.min)
        numActiveMatPerColumn := .only (activeMatPerColumn.getD ip.numActiveMatPerColumn.min)
        numActiveMatPerRow := .only (activeMatPerRow.getD ip.numActiveMatPerRow.min) }
  | .forceMat rowSubarray columnSubarray activeSubarrayPerColumn activeSubarrayPerRow =>
      { ip with
        numRowSubarray := .only (rowSubarray.getD ip.numRowSubarray.min)
        numColumnSubarray := .only (columnSubarray.getD ip.numColumnSubarray.min)
        numActiveSubarrayPerColumn :=
          .only (activeSubarrayPerColumn.getD ip.numActiveSubarrayPerColumn.min)
        numActiveSubarrayPerRow :=
          .only (activeSubarrayPerRow.getD ip.numActiveSubarrayPerRow.min) }
  | .forceMuxSenseAmp value =>
      { ip with muxSenseAmp := .only (value.getD ip.muxSenseAmp.min) }
  | .forceMuxOutputLev1 value =>
      { ip with muxOutputLev1 := .only (value.getD ip.muxOutputLev1.min) }
  | .forceMuxOutputLev2 value =>
      { ip with muxOutputLev2 := .only (value.getD ip.muxOutputLev2.min) }
  | .useCactiAssumption tmp =>
      { ip with
        useCactiAssumption := decide (tmp = "Yes")
        toSearchSpace :=
          if tmp = "Yes" then ip.toSearchSpace.cactiAssumption else ip.toSearchSpace }
  | .enablePruning tmp => { ip with isPruningEnabled := decide (tmp = "Yes") }
  | .bufferDesignOptimization tmp =>
      { ip with areaOptimizationLevel := .only (BufferDesignTarget.ofWord tmp) }
  -- Byte to bit, also when the line has no number
  | .flashPageSize value => { ip with pageSize := value.getD ip.pageSize * 8 }
  -- KB to bit, also when the line has no number
  | .flashBlockSize value =>
      { ip with flashBlockSize := value.getD ip.flashBlockSize * (8 * 1024) }
  | .applyConstraint target value =>
      { ip with
        constraint := Function.update ip.constraint target (value.getD (ip.constraint target))
        isConstraintApplied := true }
  | .other => ip

/-- `ReadInputParameterFromFile`. -/
def readInputParameterFromFile (file : List (ConfigLine K)) (ip : InputParameter K) :
    InputParameter K :=
  file.foldl readLine ip

end InputParameter

/-- `isPow2`. -/
def isPow2 (n : ℤ) : Bool :=
  if n < 1 then false else n.toNat &&& (n.toNat - 1) = 0

theorem isPowerOfTwo_of_isPow2 {n : ℤ} (h : isPow2 n = true) : n.toNat.isPowerOfTwo := by
  unfold isPow2 at h
  split at h
  · cases h
  · rename_i hn
    exact (Nat.and_sub_one_eq_zero_iff_isPowerOfTwo (by omega)).1 (of_decide_eq_true h)

/-- `applyConstraint`; `none` is an `exit(-1)`. -/
def InputParameter.applyConstraint {K : Type} (memCellType : MemCellType)
    (ip : InputParameter K) : Option (InputParameter K) :=
  -- functions that are not yet implemented
  if ip.designTarget = .camChip then none
  else if memCellType = .dram then none
  else if memCellType = .mlcNAND then none
  else
    -- the associativity setting is ignored for non-cache designs
    let ip :=
      if ip.designTarget ≠ .cache ∧ ip.associativity > 1 then { ip with associativity := 1 }
      else ip
    if isPow2 ip.associativity = false then none
    -- the H-tree does not support the external sensing scheme
    else if ip.routingMode = .hTree ∧ ip.internalSensing = false then none
    else some ip

/-- What `applyConstraint` has checked, and what it sets. -/
theorem InputParameter.applyConstraint_eq_some {K : Type} {memCellType : MemCellType}
    {ip ip' : InputParameter K} (h : ip.applyConstraint memCellType = some ip') :
    ip'.associativity.toNat.isPowerOfTwo ∧ ip.designTarget ≠ .camChip ∧ memCellType ≠ .dram ∧
      (ip'.routingMode = .hTree → ip'.internalSensing = true) ∧
      (ip.designTarget = .cache ∧ ip' = ip ∨
        ip.designTarget ≠ .cache ∧ ip' = { ip with associativity := 1 }) := by
  unfold applyConstraint at h
  generalize hignored : (if ip.designTarget ≠ .cache ∧ ip.associativity > 1 then
    { ip with associativity := 1 } else ip) = ignored at h
  split at h
  · cases h
  · rename_i hcam
    split at h
    · cases h
    · rename_i hdram
      split at h
      · cases h
      · dsimp only at h
        split at h
        · cases h
        · rename_i hpow
          split at h
          · cases h
          · rename_i hrouting
            obtain rfl := Option.some.inj h
            have hpow' := eq_true_of_ne_false hpow
            refine ⟨isPowerOfTwo_of_isPow2 hpow', hcam, hdram, fun hmode => ?_, ?_⟩
            · by_contra hexternal
              exact hrouting ⟨hmode, Bool.eq_false_iff.2 hexternal⟩
            · split at hignored
              · rename_i hnocache
                exact .inr ⟨hnocache.1, hignored.symm⟩
              · rename_i hkept
                subst hignored
                by_cases hcache : ip.designTarget = .cache
                · exact .inl ⟨hcache, rfl⟩
                · -- a power of two that is not above one
                  have hpos := Nat.pos_of_isPowerOfTwo (isPowerOfTwo_of_isPow2 hpow')
                  have hone : ip.associativity = 1 := by
                    by_contra hne
                    exact hkept ⟨hcache, by omega⟩
                  refine .inr ⟨hcache, ?_⟩
                  rw [← hone]

end NVSim
