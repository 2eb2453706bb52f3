import NVSim.Model.CircuitModels
import NVSim.Model.Exploration

/-!
# A whole run

`main` for one target: it configures the run, searches the tag array of a cache, configures the
run again and searches the data array.  At its end it prints the best design, or that there is
none.  The file of a full exploration has a model of its own.
-/

namespace NVSim

variable {K : Type} [Field K] [LinearOrder K]

/-- The circuits with the settings of another configuration. -/
def Circuits.withSettings (c : Circuits K) (settings : Settings K) : Circuits K :=
  { c with globals := { c.globals with inputParameter := settings } }

/-- What `main` prints at its end. -/
inductive Report (K : Type)
  /-- `No valid solutions for tags.` -/
  | noTags
  /-- `No valid solutions.` -/
  | noSolutions
  /-- `This is not a valid cache configuration.` -/
  | noCache
  | memory (data : Design K)
  | cache (data tag : Design K)

/-- The last branch of `main`: `Result::print` or `Result::printAsCache`. -/
def report (settings : Settings K) (memCellType : MemCellType) (unset : Design K → MemoryType)
    (tags : Results K) (best : BestResults K) : Report K :=
  let data := (best.results settings.optimizationTarget).toDesign
  let tag := (tags settings.optimizationTarget).toDesign
  if best.numSolution = 0 then .noSolutions
  else if settings.designTarget = .cache then
    if data.memoryType memCellType settings.routingMode unset ≠ .data ∨
        tag.memoryType memCellType settings.routingMode unset ≠ .tag then .noCache
    else .cache data tag
  else .memory data

/-- `main`; `unset` is the memory type of a bank that has not stored one. -/
def runMain (models : Settings K → Models K) (unset : Design K → MemoryType)
    (file : List (ConfigLine K)) (ip : InputParameter K) (cell : MemCell K) :
    Except Halt (Report K) := do
  let ip ← configure file cell.memCellType ip
  if ip.designTarget = .cache then
    let tags ← tagPhase (models ip.toSettings) ip cell
    if tags.numSolution = 0 then .ok .noTags
    else
      let ip ← configure file cell.memCellType ip.reduceSearchSize
      let data ← dataPhase (models ip.toSettings) ip tags.cell
      .ok (report ip.toSettings cell.memCellType unset tags.results data.toBestResults)
  else
    let data ← dataPhase (models ip.toSettings) ip cell
    .ok (report ip.toSettings cell.memCellType unset BestResults.fresh.results data.toBestResults)

end NVSim
