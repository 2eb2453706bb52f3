import NVSim.Library.Text
import NVSim.Model.InputParameter
import NVSim.Model.Scanf

/-!
# The text of the configuration file

`InputParameter::ReadInputParameterFromFile` compares a line with one option after the other.
The handler of the first one that the line begins with scans the line by its format, and assigns
what was delivered (`InputParameter.readLine`).
-/

namespace NVSim

/-- What the format of an option converts, and the line that it delivers. -/
inductive ConfigConversion (K : Type)
  /-- `%s` into `tmp`, which keeps an earlier word if there is none. -/
  | word (line : String → ConfigLine K)
  | int (line : Option ℤ → ConfigLine K)
  | long (line : Option ℕ → ConfigLine K)
  /-- `%ld` into `cap`, which is not initialised. -/
  | capacity (line : ℕ → ConfigLine K)
  | double (line : Option K → ConfigLine K)
  /-- `%dx%d, %dx%d`. -/
  | counts (line : Option ℤ → Option ℤ → Option ℤ → Option ℤ → ConfigLine K)

/-- An option: what a line begins with, the format up to its conversion, and its handler. -/
structure ConfigOption (K : Type) where
  key : String
  format : String
  conversion : ConfigConversion K

section Read

variable {K : Type}

/-- The options in the order in which they are compared. -/
def configOptions : List (ConfigOption K) := [
  ⟨"-DesignTarget", "-DesignTarget: ", .word .designTarget⟩,
  ⟨"-OptimizationTarget", "-OptimizationTarget: ", .word .optimizationTarget⟩,
  ⟨"-OutputFilePrefix", "-OutputFilePrefix: ", .word .outputFilePrefix⟩,
  ⟨"-ProcessNode", "-ProcessNode: ", .int .processNode⟩,
  ⟨"-Capacity (B)", "-Capacity (B): ", .capacity .capacityB⟩,
  ⟨"-Capacity (KB)", "-Capacity (KB): ", .capacity .capacityKB⟩,
  ⟨"-Capacity (MB)", "-Capacity (MB): ", .capacity .capacityMB⟩,
  ⟨"-WordWidth", "-WordWidth (bit): ", .long .wordWidth⟩,
  ⟨"-Associativity", "-Associativity (for cache only): ", .int .associativity⟩,
  ⟨"-Temperature", "-Temperature (K): ", .int .temperature⟩,
  ⟨"-MaxDriverCurrent", "-MaxDriverCurrent (uA): ", .double .maxDriverCurrent⟩,
  ⟨"-DeviceRoadmap", "-DeviceRoadmap: ", .word .deviceRoadmap⟩,
  ⟨"-WriteScheme", "-WriteScheme: ", .word .writeScheme⟩,
  ⟨"-CacheAccessMode", "-CacheAccessMode: ", .word .cacheAccessMode⟩,
  ⟨"-LocalWireType", "-LocalWireType: ", .word .localWireType⟩,
  ⟨"-LocalWireRepeaterType", "-LocalWireRepeaterType: ", .word .localWireRepeaterType⟩,
  ⟨"-LocalWireUseLowSwing", "-LocalWireUseLowSwing: ", .word .localWireUseLowSwing⟩,
  ⟨"-GlobalWireType", "-GlobalWireType: ", .word .globalWireType⟩,
  ⟨"-GlobalWireRepeaterType", "-GlobalWireRepeaterType: ", .word .globalWireRepeaterType⟩,
  ⟨"-GlobalWireUseLowSwing", "-GlobalWireUseLowSwing: ", .word .globalWireUseLowSwing⟩,
  ⟨"-Routing", "-Routing: ", .word .routing⟩,
  ⟨"-InternalSensing", "-InternalSensing: ", .word .internalSensing⟩,
  ⟨"-MemoryCellInputFile", "-MemoryCellInputFile: ", .word .memoryCellInputFile⟩,
  ⟨"-MaxNmosSize", "-MaxNmosSize (F): ", .double .maxNmosSize⟩,
  ⟨"-ForceBank", "-ForceBank (Total AxB, Active CxD): ", .counts .forceBank⟩,
  ⟨"-ForceMat", "-ForceMat (Total AxB, Active CxD): ", .counts .forceMat⟩,
  ⟨"-ForceMuxSenseAmp", "-ForceMuxSenseAmp: ", .int .forceMuxSenseAmp⟩,
  ⟨"-ForceMuxOutputLev1", "-ForceMuxOutputLev1: ", .int .forceMuxOutputLev1⟩,
  ⟨"-ForceMuxOutputLev2", "-ForceMuxOutputLev2: ", .int .forceMuxOutputLev2⟩,
  ⟨"-UseCactiAssumption", "-UseCactiAssumption: ", .word .useCactiAssumption⟩,
  ⟨"-EnablePruning", "-EnablePruning: ", .word .enablePruning⟩,
  -- this handler has no `continue`, but a line that reaches it begins with no later option
  ⟨"-BufferDesignOptimization", "-BufferDesignOptimization: ", .word .bufferDesignOptimization⟩,
  ⟨"-FlashPageSize", "-FlashPageSize (Byte): ", .long .flashPageSize⟩,
  ⟨"-FlashBlockSize", "-FlashBlockSize (KB): ", .long .flashBlockSize⟩,
  ⟨"-ApplyReadLatencyConstraint", "-ApplyReadLatencyConstraint: ",
    .double (.applyConstraint .readLatencyOptimized)⟩,
  ⟨"-ApplyWriteLatencyConstraint", "-ApplyWriteLatencyConstraint: ",
    .double (.applyConstraint .writeLatencyOptimized)⟩,
  ⟨"-ApplyReadDynamicEnergyConstraint", "-ApplyReadDynamicEnergyConstraint: ",
    .double (.applyConstraint .readEnergyOptimized)⟩,
  ⟨"-ApplyWriteDynamicEnergyConstraint", "-ApplyWriteDynamicEnergyConstraint: ",
    .double (.applyConstraint .writeEnergyOptimized)⟩,
  ⟨"-ApplyLeakageConstraint", "-ApplyLeakageConstraint: ",
    .double (.applyConstraint .leakageOptimized)⟩,
  ⟨"-ApplyAreaConstraint", "-ApplyAreaConstraint: ",
    .double (.applyConstraint .areaOptimized)⟩,
  ⟨"-ApplyReadEdpConstraint", "-ApplyReadEdpConstraint: ",
    .double (.applyConstraint .readEdpOptimized)⟩,
  ⟨"-ApplyWriteEdpConstraint", "-ApplyWriteEdpConstraint: ",
    .double (.applyConstraint .writeEdpOptimized)⟩]

/-- The option whose handler a line is given to. -/
def configOption (line : List Char) : Option (ConfigOption K) :=
  configOptions.find? fun o => o.key.toList.isPrefixOf line

/-- The conversions of the C library that the model leaves open: `%lf`, and what `%d` and `%ld`
store of a number that is out of the range of an `int` or of a `long`. -/
structure ConfigScanf (K : Type) where
  double : List Char → Option K
  intOverflow : ℤ → ℤ
  longOverflow : ℤ → ℤ

/-- The conversion `%d`, and what is left of the line. -/
def scanInt (lib : ConfigScanf K) (rest : List Char) : Option (ℤ × List Char) :=
  (Library.readInt (rest.dropWhile isSpace)).map fun r =>
    (if -2 ^ 31 ≤ r.1 ∧ r.1 < 2 ^ 31 then r.1 else lib.intOverflow r.1, r.2)

/-- The conversion `%ld`. -/
def scanLong (lib : ConfigScanf K) (rest : List Char) : Option ℤ :=
  (Library.readInt (rest.dropWhile isSpace)).map fun r =>
    if -2 ^ 63 ≤ r.1 ∧ r.1 < 2 ^ 63 then r.1 else lib.longOverflow r.1

/-- The next `%d` of a format with several of them, after the text in front of it. -/
def scanNext (lib : ConfigScanf K) (format : String) (rest : Option (List Char)) :
    Option ℤ × Option (List Char) :=
  let scanned := (rest.bind (matchFormat format.toList)).bind (scanInt lib)
  (scanned.map Prod.fst, scanned.map Prod.snd)

/-- The conversions `%dx%d, %dx%d`. -/
def scanCounts (lib : ConfigScanf K) (rest : Option (List Char)) :
    Option ℤ × Option ℤ × Option ℤ × Option ℤ :=
  let a := scanNext lib "" rest
  let b := scanNext lib "x" a.2
  let c := scanNext lib ", " b.2
  let d := scanNext lib "x" c.2
  (a.1, b.1, c.1, d.1)

/-- A number of bits or bytes.  `none` is a negative one, which is outside the model. -/
def scanSize (lib : ConfigScanf K) (rest : Option (List Char)) : Option (Option ℕ) :=
  let scanned := rest.bind (scanLong lib)
  if ∃ n ∈ scanned, n < 0 then none else some (scanned.map Int.toNat)

/-- The array `tmp` after a line. -/
def configTmp (o : ConfigOption K) (line tmp : List Char) : List Char :=
  match o.conversion with
  | .word _ => (scanWord o.format line).getD tmp
  | _ => tmp

/-- What the handler of an option delivers, when `tmp` is what `sscanf` leaves there and `cap`
the number that is in the memory of this variable. -/
def ConfigOption.deliver (lib : ConfigScanf K) (cap : ℕ) (o : ConfigOption K)
    (line tmp : List Char) : Option (ConfigLine K) :=
  let rest := matchFormat o.format.toList line
  match o.conversion with
  | .word f => some (f (String.ofList tmp))
  | .int f => some (f ((rest.bind (scanInt lib)).map Prod.fst))
  | .long f => (scanSize lib rest).map f
  | .capacity f => (scanSize lib rest).map fun scanned => f (scanned.getD cap)
  | .double f => some (f (rest.bind lib.double))
  | .counts f =>
      let counts := scanCounts lib rest
      some (f counts.1 counts.2.1 counts.2.2.1 counts.2.2.2)

/-- The parameters that are read and the array `tmp`. -/
structure ConfigReader (K : Type) where
  tmp : List Char
  ip : InputParameter K

/-- The parameters after a line. -/
def ConfigReader.readLine (lib : ConfigScanf K) (cap : ℕ) (r : ConfigReader K)
    (line : List Char) : Option (ConfigReader K) :=
  match configOption line with
  | none => some r
  | some o =>
      let tmp := configTmp o line r.tmp
      (o.deliver lib cap line tmp).map fun delivered =>
        { tmp := tmp, ip := r.ip.readLine delivered }

/-- The body of the loop of `ReadInputParameterFromFile`, as long as the lines are inside the
model. -/
def readConfigLine (lib : ConfigScanf K) (cap : ℕ) (s : Option (ConfigReader K))
    (line : List Char) : Option (ConfigReader K) :=
  s.bind fun r => r.readLine lib cap line

end Read

end NVSim
