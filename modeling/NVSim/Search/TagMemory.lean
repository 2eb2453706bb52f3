import NVSim.Search.StaleMemory
import NVSim.Search.TagTrace

/-!
# What the tag search leaves in memory

The banks of the tag search are freed before the data search constructs its own, and what they
held is where the new objects are.  Cells that are assigned before they are read do not tell, so
the tag search leaves no trace on the data search.  An embedded DRAM does.
-/

namespace NVSim

open Library

variable {K : Type} [Field K] [LinearOrder K] [FloorRing K]

/-- The tag search leaves no trace on the data search of a cache, whatever the memory of new
objects holds in the tag search and in the data search after it.  The configuration is read
again; the data phases with and without a tag search give the same best results of the same
number of solutions, or halt for the same reason; and no valid candidate of either has more than
one row per set. -/
def Circuits.TagSearchLeavesNoTrace (c : Circuits K) (file : List (ConfigLine K))
    (start : InputParameter K) : Prop :=
  ∀ ip, configure file c.globals.cell.memCellType start = .ok ip → ip.designTarget = .cache →
    ∀ memory received memory' received' tags,
      tagPhase ((c.withMemory memory received).withSettings ip.toSettings).models ip
        c.globals.cell.toMemCell = .ok tags →
      ∃ ip', configure file c.globals.cell.memCellType ip.reduceSearchSize = .ok ip' ∧
        (dataPhase ((c.withMemory memory' received').withSettings ip'.toSettings).models ip'
            tags.cell).map SearchState.toBestResults =
          (dataPhase (c.withSettings ip.toSettings).models ip c.globals.cell.toMemCell).map
            SearchState.toBestResults ∧
        ∀ args, ip'.dataCandidates c.globals.cell.memCellType = .ok args ∨
            ip.dataCandidates c.globals.cell.memCellType = .ok args →
          ∀ a ∈ args, ∀ (models : Models K) (localWire globalWire : Wire),
            (evaluate models ip'.toSettings c.globals.cell.toMemCell localWire globalWire
              a).invalid = false → ¬ a.numRowPerSet > 1

/-- The tag search leaves no trace on the data search, unless the cells are an embedded DRAM or
are accessed through bipolar transistors. -/
theorem tag_search_leaves_no_trace (c : Circuits K) (file : List (ConfigLine K))
    (capacity wordWidth : ℕ) (deviceRoadmap : DeviceRoadmap) (fileMemCell : String)
    (temperature : ℤ) (space : SearchSpace) (heDRAM : c.globals.cell.memCellType ≠ .eDRAM)
    (haccess : ¬ c.globals.BipolarAccess) (hfeature : c.globals.tech.featureSize * 2 < 1) :
    c.TagSearchLeavesNoTrace file
      { toSettings := .new capacity wordWidth deviceRoadmap fileMemCell temperature
        toSearchSpace := space } := by
  intro ip hconfigure hcache memory received memory' received' tags htags
  have hassigned := assigned_of_configure hconfigure heDRAM haccess
  have hagree (memory : SubArrayElectrics K) (received : K) (settings : Settings K) :
      ((c.withMemory memory received).withSettings settings).models.AgreeOn MemCell.Assigned
        (c.withSettings settings).models :=
    models_withMemory_agree (c.withSettings settings) memory received hassigned hfeature
  have hkept := (tagPhase_agree (hagree memory received ip.toSettings) ip hassigned).kept tags htags
  rw [(tagPhase_agree (hagree memory received ip.toSettings) ip hassigned).eq] at htags
  obtain ⟨ip', hagain, hsame, hrows⟩ := dataPhase_after_tagPhase
    (fun settings => (c.withSettings settings).models) file capacity wordWidth deviceRoadmap
    fileMemCell temperature space c.globals.cell.toMemCell ip tags hconfigure hcache htags
  refine ⟨ip', hagain, ?_, hrows⟩
  rw [(dataPhase_agree (hagree memory' received' ip'.toSettings) ip' hkept).eq]
  exact hsame

/-- A file for a small cache of one organisation, for examples. -/
def smallCache : List (ConfigLine ℚ) :=
  [.designTarget "cache", .optimizationTarget "Area", .processNode (some 90), .capacityB 16,
    .wordWidth (some 8), .associativity (some 1), .temperature (some 300),
    .cacheAccessMode "Normal", .routing "H-tree", .internalSensing "true",
    .forceBank (some 1) (some 1) (some 1) (some 1), .forceMat (some 1) (some 1) (some 1) (some 1),
    .forceMuxSenseAmp (some 1), .forceMuxOutputLev1 (some 1), .forceMuxOutputLev2 (some 1),
    .bufferDesignOptimization "latency", .localWireType "LocalAggressive",
    .localWireRepeaterType "RepeatedNone", .localWireUseLowSwing "No",
    .globalWireType "GlobalAggressive", .globalWireRepeaterType "RepeatedNone",
    .globalWireUseLowSwing "No"]

/-- The parameters before the first reading, for examples. -/
def InputParameter.unread : InputParameter ℚ where
  toSettings := .new 0 0 .hp "" 300
  toSearchSpace := .reduced

/-- Memory in which the capacitance of a long bit line was stored. -/
def SubArrayElectrics.longBitline : SubArrayElectrics ℚ := { cleared with capBitline := 9 }

/-- The small cache is configured, and its tag search comes to its end. -/
theorem exists_configure_smallCache (memCellType : MemCellType)
    (htype : memCellType = .sram ∨ memCellType = .eDRAM) :
    ∃ ip, configure smallCache memCellType .unread = .ok ip ∧ ip.designTarget = .cache ∧
      ∀ models cell, ∃ tags, tagPhase models ip cell = .ok tags := by
  obtain ⟨ip, hip⟩ : ∃ ip : InputParameter ℚ,
      ip = (InputParameter.restoreSearchSize .unread).readInputParameterFromFile smallCache :=
    ⟨_, rfl⟩
  have hconfigure : configure smallCache memCellType .unread = .ok ip := by
    rw [hip]
    obtain rfl | rfl := htype
    · rfl
    · rfl
  refine ⟨ip, hconfigure, by rw [hip]; rfl, fun models cell => ?_⟩
  exact tagPhase_ok models ip cell 4 (by rw [hip]; exact ⟨0, rfl⟩) (by rw [hip]; decide)
    (by rw [hip]; decide)

theorem tag_search_leaves_no_trace_small :
    ∃ ip tags ip', configure smallCache .sram .unread = .ok ip ∧
      tagPhase ((Circuits.fine.withMemory .longBitline 1).withSettings ip.toSettings).models ip
        Circuits.fine.globals.cell.toMemCell = .ok tags ∧
      configure smallCache .sram ip.reduceSearchSize = .ok ip' ∧
      (dataPhase ((Circuits.fine.withMemory .longBitline 1).withSettings ip'.toSettings).models ip'
          tags.cell).map SearchState.toBestResults =
        (dataPhase (Circuits.fine.withSettings ip.toSettings).models ip
          Circuits.fine.globals.cell.toMemCell).map SearchState.toBestResults := by
  obtain ⟨ip, hconfigure, hcache, htagPhase⟩ :=
    exists_configure_smallCache .sram (.inl rfl)
  obtain ⟨tags, htags⟩ := htagPhase
    ((Circuits.fine.withMemory .longBitline 1).withSettings ip.toSettings).models
    Circuits.fine.globals.cell.toMemCell
  obtain ⟨ip', hagain, hsame, -⟩ := tag_search_leaves_no_trace .fine smallCache 0 0 .hp "" 300
    .reduced (by decide) (fun haccess => by cases haccess.2)
    (by norm_num [Circuits.fine, Globals.fine]) ip hconfigure hcache .longBitline 1 .longBitline 1
    tags htags
  exact ⟨ip, tags, ip', hconfigure, htags, hagain, hsame⟩

/-- Circuits of embedded DRAM cells in cleared memory, for examples. -/
def Circuits.smallDram : Circuits ℚ :=
  { Circuits.fine with globals := { Circuits.fine.globals with cell := Cell.smallDram } }

/-- How many solutions the data search of the small cache has in some memory. -/
def solutionsInMemory (memory : SubArrayElectrics ℚ) : Except Halt ℕ := do
  let ip ← configure smallCache .eDRAM .unread
  let s ← dataPhase ((Circuits.smallDram.withMemory memory 0).withSettings ip.toSettings).models ip
    Circuits.smallDram.globals.cell.toMemCell
  .ok s.numSolution

/-- The data search of a cache of embedded DRAM cells finds its one design in cleared memory, and
none where the tag search has left the capacitance of a long bit line. -/
theorem tag_search_leaves_trace_smallDram :
    ¬ Circuits.smallDram.TagSearchLeavesNoTrace smallCache .unread := by
  intro hnone
  have hcleared : (solutionsInMemory .cleared).toOption = some 1 := by decide +kernel
  have hlong : (solutionsInMemory .longBitline).toOption = some 0 := by decide +kernel
  obtain ⟨ip, hconfigure, hcache, htagPhase⟩ :=
    exists_configure_smallCache .eDRAM (.inr rfl)
  obtain ⟨tags, htags⟩ := htagPhase
    ((Circuits.smallDram.withMemory .longBitline 0).withSettings ip.toSettings).models
    Circuits.smallDram.globals.cell.toMemCell
  obtain ⟨ip', hagain, htrace, -⟩ :=
    hnone ip hconfigure hcache .longBitline 0 .longBitline 0 tags htags
  -- in the same memory the tag search leaves no trace
  obtain ⟨ip'', hagain', hsame, -⟩ := dataPhase_after_tagPhase
    (fun settings => ((Circuits.smallDram.withMemory .longBitline 0).withSettings settings).models)
    smallCache 0 0 .hp "" 300 .reduced Circuits.smallDram.globals.cell.toMemCell ip tags hconfigure
    hcache htags
  rw [hagain] at hagain'
  obtain rfl := Except.ok.inj hagain'
  have hdirect := htrace.symm.trans hsame
  have hsolutions := congrArg (Except.map BestResults.numSolution) hdirect
  have hcount (memory : SubArrayElectrics ℚ) : solutionsInMemory memory =
      ((dataPhase ((Circuits.smallDram.withMemory memory 0).withSettings ip.toSettings).models ip
        Circuits.smallDram.globals.cell.toMemCell).map SearchState.toBestResults).map
          BestResults.numSolution := by
    unfold solutionsInMemory
    rw [hconfigure]
    dsimp only [bind, Except.bind]
    generalize dataPhase _ ip _ = r
    cases r <;> rfl
  have hequal : solutionsInMemory .cleared = solutionsInMemory .longBitline := by
    rw [hcount, hcount]
    exact hsolutions
  rw [hequal, hlong] at hcleared
  cases hcleared

end NVSim
