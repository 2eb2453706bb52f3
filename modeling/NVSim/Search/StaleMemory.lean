import NVSim.Circuit.Erasure
import NVSim.Circuit.LowSwing
import NVSim.Library.TwoRuns
import NVSim.Model.Main
import NVSim.Search.CircuitModels
import NVSim.Search.Exploration

/-!
# A run does not depend on stale memory

Unless the cells are an embedded DRAM or have bipolar access transistors, what memory holds
where new objects are constructed decides neither what the macro `CALCULATE` leaves nor what
`main` prints.  The field that a block of predecoders with more than 18 address bits shifts
without having set it stays what it is.
-/

namespace NVSim

open Library

variable {K : Type} [Field K] [LinearOrder K]

/-! ## The circuits -/

/-- The kinds of cells for which `SubArray::Initialize` assigns what is read. -/
structure MemCell.Assigned (cell : MemCell K) : Prop where
  dram : cell.memCellType ≠ .dram
  eDRAM : cell.memCellType ≠ .eDRAM
  mlcNAND : cell.memCellType ≠ .mlcNAND
  access : ¬ ((cell.memCellType = .mram ∨ cell.memCellType = .pcram ∨
    cell.memCellType = .memristor) ∧ cell.accessType = .bjtAccess)

theorem MemCell.Assigned.ignoresMemory {g : Globals K} (h : g.cell.toMemCell.Assigned)
    (a : SubArray) : g.IgnoresMemory a :=
  Globals.ignoresMemory_iff_finish.2 fun _ _ memory memory' =>
    Globals.finish_congr h.mlcNAND h.access
      (Globals.sameSense_of_ne h.dram h.eDRAM memory memory')

theorem MemCell.Assigned.memoised {cell : MemCell K} (h : cell.Assigned) (vdd : K) :
    (cell.memoised vdd).Assigned := by
  unfold MemCell.memoised
  split
  · exact ⟨h.dram, h.eDRAM, h.mlcNAND, h.access⟩
  · exact h

/-- The receiver of a low-swing wire is not read before it is assigned. -/
theorem WireObject.calculateLatencyAndPower_received {g : Globals K}
    (hfeature : g.tech.featureSize * 2 < 1) (w : WireObject K) (received received' : K) :
    w.calculateLatencyAndPower g received = w.calculateLatencyAndPower g received' := by
  funext wireLength
  have hlink (g : Globals K) (hfeature : g.tech.featureSize * 2 < 1) (wire : Wire) :
      LowSwing.calculateLatencyAndPower g wire wireLength received =
        LowSwing.calculateLatencyAndPower g wire wireLength received' := by
    rw [LowSwing.calculateLatencyAndPower_eq_transmitter g wire wireLength received hfeature,
      LowSwing.calculateLatencyAndPower_eq_transmitter g wire wireLength received' hfeature]
    have hload :
        (LowSwing.receiver g received).capLoad = (LowSwing.receiver g received').capLoad := by
      rw [LowSwing.receiver_eq g received hfeature, LowSwing.receiver_eq g received' hfeature]
    unfold LowSwing.transmitter
    dsimp only
    rw [hload]
  unfold WireObject.calculateLatencyAndPower
  rw [hlink (w.globals g) hfeature]

namespace Circuits

variable (c : Circuits K) (memory : SubArrayElectrics K) (received : K)

/-- The circuits in other memory. -/
def withMemory : Circuits K := { c with memory := memory, received := received }

variable {c}

theorem electrical_withMemory (hcell : c.globals.cell.toMemCell.Assigned) :
    (c.withMemory memory received).electrical = c.electrical := by
  funext localWire globalWire
  exact electrical_eq (g := c.wired localWire globalWire)
    (fun a => hcell.ignoresMemory (g := c.wired localWire globalWire) a) memory c.memory c.unset

variable [FloorRing K]

/-- An evaluation reads a mat through what is left of it. -/
theorem evaluateWithHtree_withMemory (hcell : c.globals.cell.toMemCell.Assigned)
    (hfeature : c.globals.tech.featureSize * 2 < 1) (localWire globalWire : Wire)
    (b : BankWithHtree) :
    (c.withMemory memory received).evaluateWithHtree localWire globalWire b =
      c.evaluateWithHtree localWire globalWire b := by
  let g := c.wired localWire globalWire
  have hview (c' : Circuits K) (hg : c'.wired localWire globalWire = g) :
      c'.evaluateWithHtree localWire globalWire b =
        ((c'.matObject localWire globalWire b.mat).map (MatObject.erase g · g.eraseElectrics)).bind
          fun mat => ((evaluateHtree g (c'.wireObject globalWire) c'.received b mat).map
            HtreeObject.leaves).map fun e => { toBank := e.1.toBank, toFunctionUnit := e.2 } := by
    unfold evaluateWithHtree
    rw [hg, Option.bind_map]
    refine Option.bind_congr fun mat _ => ?_
    rw [Function.comp_apply, evaluateHtree_erase, Option.map_map, Option.map_eq_bind]
    rfl
  have hmat := erase_initializeMatObject (hcell.ignoresMemory (g := g) b.mat.subarray)
    memory c.memory c.unset
  have hwire := WireObject.calculateLatencyAndPower_received (g := g) hfeature
    (c.wireObject globalWire) received c.received
  rw [hview c rfl, hview (c.withMemory memory received) rfl]
  refine (congrArg (Option.bind · _) hmat).trans (Option.bind_congr fun mat _ => ?_)
  refine congrArg (Option.map _) (congrArg (Option.map _) ?_)
  unfold evaluateHtree
  refine Option.bind_congr fun o _ => ?_
  rw [← hwire]
  rfl

theorem evaluateWithoutHtree_withMemory (hcell : c.globals.cell.toMemCell.Assigned)
    (hfeature : c.globals.tech.featureSize * 2 < 1) (localWire globalWire : Wire) (b : Bank) :
    (c.withMemory memory received).evaluateWithoutHtree localWire globalWire b =
      c.evaluateWithoutHtree localWire globalWire b := by
  let g := c.wired localWire globalWire
  have hview (c' : Circuits K) (hg : c'.wired localWire globalWire = g) :
      c'.evaluateWithoutHtree localWire globalWire b =
        ((c'.matObject localWire globalWire b.mat).map (MatObject.erase g · g.eraseElectrics)).map
          fun mat =>
            let e := (evaluateNonHtree g (c'.wireObject globalWire) c'.received b mat).leaves
            { toBank := e.1, toFunctionUnit := e.2 } := by
    unfold evaluateWithoutHtree
    rw [hg, Option.map_map, Option.map_eq_bind]
    refine Option.bind_congr fun mat _ => congrArg some ?_
    rw [Function.comp_apply, evaluateNonHtree_erase]
    rfl
  have hmat := erase_initializeMatObject (hcell.ignoresMemory (g := g) b.mat.subarray)
    memory c.memory c.unset
  have hwire := WireObject.calculateLatencyAndPower_received (g := g) hfeature
    (c.wireObject globalWire) received c.received
  have hbank (mat : MatObject K) : evaluateNonHtree g (c.wireObject globalWire) received b mat =
      evaluateNonHtree g (c.wireObject globalWire) c.received b mat := by
    unfold evaluateNonHtree
    rw [hwire]
  rw [hview c rfl, hview (c.withMemory memory received) rfl]
  refine (congrArg (Option.map _) hmat).trans (congrArg (Option.map · _) (funext fun mat => ?_))
  exact congrArg (fun o : NonHtreeObject K =>
    ({ toBank := o.leaves.1, toFunctionUnit := o.leaves.2 } : EvaluatedBank K)) (hbank mat)

theorem evaluateRecord_withMemory (hcell : c.globals.cell.toMemCell.Assigned)
    (hfeature : c.globals.tech.featureSize * 2 < 1) :
    (c.withMemory memory received).evaluateRecord = c.evaluateRecord := by
  funext localWire globalWire b
  unfold evaluateRecord
  rw [electrical_withMemory memory received hcell]
  simp only [evaluateWithHtree_withMemory memory received hcell hfeature,
    evaluateWithoutHtree_withMemory memory received hcell hfeature]
  rfl

/-- The macro `CALCULATE` leaves the same bank, whatever memory it finds. -/
theorem calculate_withMemory (hcell : c.globals.cell.toMemCell.Assigned)
    (hfeature : c.globals.tech.featureSize * 2 < 1) :
    (c.withMemory memory received).calculate = c.calculate := by
  funext localWire globalWire args
  unfold calculate
  dsimp only
  rw [electrical_withMemory memory received hcell]
  simp only [evaluateWithHtree_withMemory memory received hcell hfeature,
    evaluateWithoutHtree_withMemory memory received hcell hfeature]
  rfl

theorem measures_withMemory {cell : MemCell K} (hcell : cell.Assigned)
    (hfeature : c.globals.tech.featureSize * 2 < 1) :
    (c.withMemory memory received).models.measures cell = c.models.measures cell := by
  have hcomm : (c.withMemory memory received).withCell cell =
      (c.withCell cell).withMemory memory received := rfl
  have hrecord : ((c.withCell cell).withMemory memory received).evaluateRecord =
      (c.withCell cell).evaluateRecord :=
    evaluateRecord_withMemory memory received hcell hfeature
  unfold models
  dsimp only
  rw [hcomm, hrecord]

end Circuits

/-! ## Runs with models that agree -/

/-- Two models that evaluate cells with a property in the same way. -/
structure Models.AgreeOn (p : MemCell K → Prop) (models models' : Models K) : Prop where
  memoised : ∀ cell, p cell → p (cell.memoised models.vdd)
  calculate : ∀ settings cell localWire globalWire args, p cell →
    calculate models settings cell localWire globalWire args =
      calculate models' settings cell localWire globalWire args

section Agree

variable {p : MemCell K → Prop} {models models' : Models K} {settings : Settings K}
  {localWire globalWire : Wire} {memoryType : MemoryType}

variable (settings localWire globalWire) in
/-- An evaluation keeps the property of the cell. -/
theorem Models.AgreeOn.kept (h : models.AgreeOn p models') {cell : MemCell K} (hcell : p cell)
    (args : BankParams) :
    p (NVSim.calculate models settings cell localWire globalWire args).2 := by
  unfold NVSim.calculate
  dsimp only
  split
  · exact hcell
  · split
    · exact hcell
    · exact h.memoised cell hcell

theorem tryCandidate_agree (h : models.AgreeOn p models') (allowed : FunctionUnit K → Bool)
    (s : SearchState K) (args : BankParams) (hs : p s.cell) :
    SameOn (fun s => p s.cell) (tryCandidate models settings localWire globalWire allowed s args)
      (tryCandidate models' settings localWire globalWire allowed s args) := by
  have hkept := h.kept settings localWire globalWire hs args
  unfold tryCandidate
  rw [← h.calculate settings s.cell localWire globalWire args hs]
  generalize calculate models settings s.cell localWire globalWire args = e at hkept
  dsimp only
  split
  · split
    · exact .error _ _
    · exact .ok hkept
  · exact .ok hkept

theorem searchPass_agree (h : models.AgreeOn p models') (allowed : FunctionUnit K → Bool)
    (args : List BankParams) {s : SearchState K} (hs : p s.cell) :
    SameOn (fun s => p s.cell) (searchPass models settings localWire globalWire allowed args s)
      (searchPass models' settings localWire globalWire allowed args s) :=
  SameOn.foldlM (fun s a hs => tryCandidate_agree h allowed s a hs) args hs

theorem RefineState.tryAndUpdate_agree (h : models.AgreeOn p models') {s : RefineState K}
    (hs : p s.cell) (target : OptimizationTarget) :
    s.tryAndUpdate models settings memoryType target =
        s.tryAndUpdate models' settings memoryType target ∧
      p (s.tryAndUpdate models settings memoryType target).cell := by
  unfold RefineState.tryAndUpdate
  dsimp only
  rw [← h.calculate settings s.cell s.localWire s.globalWire _ hs]
  exact ⟨rfl, h.kept settings s.localWire s.globalWire hs _⟩

theorem RefineState.step_agree (h : models.AgreeOn p models') (s : RefineState K) (st : RefineStep)
    (hs : p s.cell) :
    s.step models settings memoryType st = s.step models' settings memoryType st ∧
      p (s.step models settings memoryType st).cell := by
  cases st with
  | localWire kind => exact ⟨rfl, hs⟩
  | globalWire kind => exact ⟨rfl, hs⟩
  | refineLocal target =>
      have hload : p (s.loadGlobalWire settings target).cell := hs
      exact RefineState.tryAndUpdate_agree h hload target
  | refineGlobal target =>
      have hload : p (s.loadLocalWire settings target).cell := hs
      exact RefineState.tryAndUpdate_agree h hload target

variable (memoryType) in
theorem refineWires_agree (h : models.AgreeOn p models') (ip : InputParameter K)
    {s : SearchState K} (hs : p s.cell) :
    refineWires models ip memoryType localWire globalWire s =
        refineWires models' ip memoryType localWire globalWire s ∧
      p (refineWires models ip memoryType localWire globalWire s).cell := by
  unfold refineWires
  split
  · obtain ⟨heq, hkept⟩ := foldl_same (p := fun s : RefineState K => p s.cell)
      (fun s st hs => RefineState.step_agree h s st hs) ip.refineSteps
      (s := { cell := s.cell, localWire := localWire, globalWire := globalWire,
              tempResult := (Result.new .readLatencyOptimized).toDesign, results := s.results }) hs
    unfold RefineState.run
    dsimp only
    rw [← heq]
    exact ⟨rfl, hkept⟩
  · exact ⟨rfl, hs⟩

theorem dataSearch_agree (h : models.AgreeOn p models') (ip : InputParameter K)
    {cell : MemCell K} (hcell : p cell) :
    SameOn (fun s => p s.1.cell) (dataSearch models ip cell) (dataSearch models' ip cell) := by
  unfold dataSearch
  refine (SameOn.refl _).bind fun wires _ => (SameOn.refl _).bind fun args _ =>
    (searchPass_agree h _ args hcell).bind fun s hs => ?_
  obtain ⟨heq, hkept⟩ := refineWires_agree .data h ip hs
  rw [← heq]
  exact .ok hkept

theorem dataPhase_agree (h : models.AgreeOn p models') (ip : InputParameter K)
    {cell : MemCell K} (hcell : p cell) :
    SameOn (fun s => p s.cell) (dataPhase models ip cell) (dataPhase models' ip cell) := by
  unfold dataPhase
  refine (dataSearch_agree h ip hcell).bind fun r hr => ?_
  dsimp only
  split
  · unfold constrainedPass
    exact (SameOn.refl _).bind fun wires _ => searchPass_agree h _ r.2 hr
  · exact .ok hr

theorem tagPhase_agree (h : models.AgreeOn p models') (ip : InputParameter K)
    {cell : MemCell K} (hcell : p cell) :
    SameOn (fun s => p s.cell) (tagPhase models ip cell) (tagPhase models' ip cell) := by
  unfold tagPhase
  refine (SameOn.refl _).bind fun wires _ => (SameOn.refl _).bind fun candidates _ =>
    (searchPass_agree h _ _ hcell).bind fun s hs => ?_
  obtain ⟨heq, hkept⟩ := refineWires_agree .tag h ip.reduceSearchSize hs
  rw [← heq]
  exact .ok hkept

end Agree

/-- The whole run. -/
theorem runMain_agree {p : MemCell K → Prop} {models models' : Settings K → Models K}
    (unset : Design K → MemoryType) (file : List (ConfigLine K)) (ip : InputParameter K)
    {cell : MemCell K} (h : ∀ settings, (models settings).AgreeOn p (models' settings))
    (hcell : p cell) :
    runMain models unset file ip cell = runMain models' unset file ip cell := by
  have hrun : SameOn (fun _ => True) (runMain models unset file ip cell)
      (runMain models' unset file ip cell) := by
    unfold runMain
    refine (SameOn.refl _).bind fun ip _ => ?_
    split
    · refine (tagPhase_agree (h ip.toSettings) ip hcell).bind fun tags htags => ?_
      split
      · exact .refl _
      · refine (SameOn.refl _).bind fun ip _ => ?_
        exact (dataPhase_agree (h ip.toSettings) ip htags).bind fun data _ => .refl _
    · exact (dataPhase_agree (h ip.toSettings) ip hcell).bind fun data _ => .refl _
  exact hrun.eq

theorem runMain_of_halt {models : Settings K → Models K} {unset : Design K → MemoryType}
    {file : List (ConfigLine K)} {ip : InputParameter K} {cell : MemCell K} {halt : Halt}
    (h : configure file cell.memCellType ip = .error halt) :
    runMain models unset file ip cell = .error halt := by
  unfold runMain
  rw [h]
  rfl

/-- The models of the circuits in other memory. -/
theorem models_withMemory_agree [FloorRing K] (c : Circuits K) (memory : SubArrayElectrics K)
    (received : K) (hcell : c.globals.cell.toMemCell.Assigned)
    (hfeature : c.globals.tech.featureSize * 2 < 1) :
    (c.withMemory memory received).models.AgreeOn MemCell.Assigned c.models where
  memoised cell h := h.memoised _
  calculate settings cell localWire globalWire args h := by
    have helectrical : (c.withMemory memory received).models.electrical = c.models.electrical :=
      Circuits.electrical_withMemory memory received hcell
    have hrecord := Circuits.evaluateRecord_withMemory memory received hcell hfeature
    have hillegal : (c.withMemory memory received).models.aspectRatioIllegal =
        c.models.aspectRatioIllegal := by
      unfold Circuits.models
      dsimp only
      rw [hrecord]
    have hmeasures :=
      Circuits.measures_withMemory memory received (h.memoised c.models.vdd) hfeature
    have hvdd : (c.withMemory memory received).models.vdd = c.models.vdd := rfl
    unfold calculate checkAspectRatio
    rw [helectrical, hillegal, hvdd]
    dsimp only
    rw [hmeasures]

/-- The other two types of cells do not pass the constraints. -/
theorem assigned_of_configure {g : Globals K} {file : List (ConfigLine K)}
    {ip ip' : InputParameter K} (h : configure file g.cell.memCellType ip = .ok ip')
    (heDRAM : g.cell.memCellType ≠ .eDRAM) (haccess : ¬ g.BipolarAccess) :
    g.cell.toMemCell.Assigned := by
  obtain ⟨hdram, hmlc⟩ := Globals.memCellType_ne_of_applyConstraint (orHalt_eq_ok.1 h)
  exact ⟨hdram, heDRAM, hmlc, haccess⟩

/-- A whole run does not depend on what memory held where subarrays and receivers are
constructed, unless the cells are an embedded DRAM or are accessed through bipolar
transistors. -/
theorem main_ignores_memory [FloorRing K] (c : Circuits K) (memory : SubArrayElectrics K)
    (received : K) (unset : Design K → MemoryType) (file : List (ConfigLine K))
    (ip : InputParameter K) (hcell : c.globals.cell.memCellType ≠ .eDRAM)
    (haccess : ¬ c.globals.BipolarAccess) (hfeature : c.globals.tech.featureSize * 2 < 1) :
    runMain (fun settings => ((c.withMemory memory received).withSettings settings).models) unset
        file ip c.globals.cell.toMemCell =
      runMain (fun settings => (c.withSettings settings).models) unset file ip
        c.globals.cell.toMemCell := by
  cases hconfigure : configure file c.globals.cell.memCellType ip with
  | error halt => rw [runMain_of_halt hconfigure, runMain_of_halt hconfigure]
  | ok ip' =>
      have hassigned : c.globals.cell.toMemCell.Assigned :=
        assigned_of_configure hconfigure hcell haccess
      have hagree (settings : Settings K) :
          ((c.withMemory memory received).withSettings settings).models.AgreeOn
            MemCell.Assigned (c.withSettings settings).models := by
        have hcomm : (c.withMemory memory received).withSettings settings =
            (c.withSettings settings).withMemory memory received := rfl
        rw [hcomm]
        exact models_withMemory_agree (c.withSettings settings) memory received hassigned hfeature
      exact runMain_agree unset file ip hagree hassigned

/-- The circuits of the small RAM, with features that are small against a unit of length. -/
def Circuits.fine : Circuits ℚ :=
  { Circuits.small with
    globals := { Circuits.small.globals with tech := Globals.fine.tech } }

/-- With cleared memory, and with what is left in the fields of a bit line. -/
theorem main_ignores_memory_small :
    runMain (fun settings => ((Circuits.fine.withMemory
        { SubArrayElectrics.cleared with capBitline := 9 } 1).withSettings settings).models)
        (fun _ => .data) smallExploration
        { toSettings := .new 0 0 .hp "" 300, toSearchSpace := .reduced }
        Circuits.fine.globals.cell.toMemCell =
      runMain (fun settings => (Circuits.fine.withSettings settings).models) (fun _ => .data)
        smallExploration { toSettings := .new 0 0 .hp "" 300, toSearchSpace := .reduced }
        Circuits.fine.globals.cell.toMemCell :=
  main_ignores_memory .fine { SubArrayElectrics.cleared with capBitline := 9 } 1 (fun _ => .data)
    smallExploration { toSettings := .new 0 0 .hp "" 300, toSearchSpace := .reduced } (by decide)
    (fun haccess => by cases haccess.2) (by norm_num [Circuits.fine, Globals.fine])

end NVSim
