import NVSim.Model.Exploration
import NVSim.Search.Constraints
import NVSim.Search.DataCandidates
import NVSim.Search.TagCapacity

/-!
# The rows of a full exploration

The loop over the candidates writes a row, or one for each tag result in a cache, when it
counts a solution.  The refinement loops write such rows without counting a solution, and
for designs that may be invalid with the refined wire.  So the file agrees with the
reported number of solutions exactly when no wire is refined, and in a cache when every
tag result holds a tag array.
-/

namespace NVSim

open Library

variable {K : Type} [Field K] [LinearOrder K]

/-! ## Memory types -/

/-- The call of a mat keeps the memory type. -/
theorem BankParams.memoryType_matCall {p q : BankParams} {memCellType : MemCellType}
    {numAddressBit : ℤ} {bits : Option (ℕ × ℕ)} {matParams : MatParams}
    (h : p.matCall memCellType numAddressBit bits = some (q, matParams)) :
    q.memoryType = p.memoryType := by
  obtain ⟨-, numWay, -, rfl, -⟩ := BankParams.matCall_eq_some h
  obtain ⟨_, _, _, hexpand⟩ := BankParams.expandDataMux_eq memCellType numWay p
  rw [hexpand]

theorem BankParams.memoryType_externalSensing {p : BankParams} {memCellType : MemCellType}
    {globalWireRepeaterType : WireRepeaterType} {bank : Bank}
    (h : p.externalSensing memCellType globalWireRepeaterType = some bank) :
    bank.memoryType = p.memoryType := by
  unfold BankParams.externalSensing at h
  split at h
  · cases h
  · split at h
    · rw [← Option.some.inj h]
      rfl
    · split at h
      · rw [← Option.some.inj h]
        rfl
      · cases h

theorem memoryType_initializeBankWithoutHtree (el : Electrical) (memCellType : MemCellType)
    (globalWireRepeaterType : WireRepeaterType) (args : BankParams) :
    (initializeBankWithoutHtree el memCellType globalWireRepeaterType args).memoryType =
      args.memoryType := by
  unfold initializeBankWithoutHtree
  split
  · rename_i bank hexternal
    exact BankParams.memoryType_externalSensing hexternal
  · dsimp only
    split
    · rfl
    · rename_i q matParams hmat
      have hq := BankParams.memoryType_matCall hmat
      split
      · exact hq
      · split
        · exact hq
        · exact hq

/-- Neither organisation changes the memory type. -/
theorem memoryType_initializedBank (el : Electrical) (memCellType : MemCellType)
    (globalWireRepeaterType : WireRepeaterType) (routingMode : RoutingMode) (args : BankParams) :
    (initializedBank el memCellType globalWireRepeaterType routingMode args).memoryType =
      args.memoryType := by
  have hinit := initializeBank_eq_initializedBank el memCellType globalWireRepeaterType
    routingMode args
  generalize initializedBank el memCellType globalWireRepeaterType routingMode args = b at *
  cases routingMode with
  | nonHTree =>
      rw [← Option.some.inj hinit]
      exact memoryType_initializeBankWithoutHtree _ _ _ _
  | hTree =>
      obtain ⟨b', hb', rfl⟩ := Option.map_eq_some_iff.1 hinit
      obtain ⟨b'', hb'', hcases⟩ := initializeBankWithHtree_cases el memCellType args
      rw [hb'] at hb''
      obtain rfl := Option.some.inj hb''
      obtain ⟨-, rfl⟩ | ⟨-, ⟨-, rfl⟩ | ⟨s, -, ⟨-, rfl⟩ | ⟨q, matParams, hmat, rfl⟩⟩⟩ := hcases
      · rfl
      · rfl
      · rfl
      · have hq := BankParams.memoryType_matCall hmat
        unfold BankWithHtree.arrived
        split
        · exact hq
        · exact hq

theorem memoryType_calculate (models : Models K) (settings : Settings K) (cell : MemCell K)
    (localWire globalWire : Wire) (args : BankParams) :
    (calculate models settings cell localWire globalWire args).1.memoryType = args.memoryType := by
  have hcheck (bank : Bank) :
      (checkAspectRatio models localWire globalWire bank).memoryType = bank.memoryType := by
    unfold checkAspectRatio
    split
    · rfl
    · rfl
  unfold calculate
  dsimp only
  split
  · exact (hcheck _).trans (memoryType_initializedBank _ _ _ _ _)
  · split
    · exact (hcheck _).trans (memoryType_initializedBank _ _ _ _ _)
    · exact (hcheck _).trans (memoryType_initializedBank _ _ _ _ _)

namespace Design

variable {memCellType : MemCellType} {routingMode : RoutingMode} {d : Design K}

omit [Field K] [LinearOrder K] in
theorem memoryType_of_stored (h : d.stored memCellType routingMode = true)
    (unset : Design K → MemoryType) :
    d.memoryType memCellType routingMode unset = d.bank.memoryType :=
  if_pos h

omit [Field K] [LinearOrder K] in
/-- Memory that holds the type that would have been stored does not show. -/
theorem memoryType_const (memCellType : MemCellType) (routingMode : RoutingMode)
    (d : Design K) :
    d.memoryType memCellType routingMode (fun _ => d.bank.memoryType) = d.bank.memoryType := by
  unfold memoryType
  split
  · rfl
  · rfl

end Design

/-- A valid candidate of the search has stored its arguments. -/
theorem stored_evaluatedDesign {models : Models K} {settings : Settings K} {cell : MemCell K}
    {localWire globalWire : Wire} {a : BankParams}
    (hvalid : (evaluate models settings cell localWire globalWire a).invalid = false) :
    (evaluatedDesign models settings cell localWire globalWire a).stored cell.memCellType
      settings.routingMode = true := by
  have hbank := toBank_evaluate_of_valid hvalid
  have hinit := hvalid
  rw [hbank] at hinit
  have hsensed := sensed_of_valid hinit
  obtain ⟨mat, hmat⟩ := initializedBank_valid hinit
  rw [hmat] at hbank
  unfold Design.stored evaluatedDesign
  dsimp only
  rw [hbank]
  show (true && (a.internalSenseAmp || _)) = true
  rcases hsensed with hinternal | ⟨hmode, hdram, hrepeater⟩
  · rw [hinternal]
    rfl
  · rw [hmode, hdram, hrepeater]
    simp

/-! ## Tag results -/

/-- A bank that is initialised has the memory type of its phase. -/
def Design.HasType (memoryType : MemoryType) (d : Design K) : Prop :=
  d.bank.initialized = true → d.bank.memoryType = memoryType

section HasType

variable {models : Models K} {settings : Settings K} {memoryType : MemoryType}

theorem Result.hasType_compareAndUpdate {r : Result K} {x : Design K}
    (hr : r.toDesign.HasType memoryType) (hx : x.HasType memoryType) :
    (r.compareAndUpdate x).toDesign.HasType memoryType := by
  rcases r.compareAndUpdate_cases x with ⟨-, -, h⟩ | ⟨-, h⟩
  · rw [h]
    exact hx
  · rw [h]
    exact hr

theorem Result.hasType_foldl {r : Result K} {xs : List (Design K)}
    (hr : r.toDesign.HasType memoryType) (hxs : ∀ x ∈ xs, x.HasType memoryType) :
    (xs.foldl Result.compareAndUpdate r).toDesign.HasType memoryType := by
  induction xs generalizing r with
  | nil => exact hr
  | cons x xs ih =>
      apply ih (hasType_compareAndUpdate hr (hxs x List.mem_cons_self))
      intro y hy
      exact hxs y (List.mem_cons_of_mem x hy)

/-- What a step of the refinement tries has the memory type of the phase. -/
theorem RefineState.memoryType_tempResult (s : RefineState K) (target : OptimizationTarget) :
    (s.tryAndUpdate models settings memoryType target).tempResult.bank.memoryType = memoryType :=
  memoryType_calculate models settings s.cell s.localWire s.globalWire _

theorem RefineState.hasType_run (steps : List RefineStep) {s : RefineState K}
    (h : ∀ target, (s.results target).toDesign.HasType memoryType) (target : OptimizationTarget) :
    ((s.run models settings memoryType steps).results target).toDesign.HasType memoryType := by
  have htry (s : RefineState K) (h : ∀ target, (s.results target).toDesign.HasType memoryType)
      (tried target : OptimizationTarget) :
      ((s.tryAndUpdate models settings memoryType tried).results target).toDesign.HasType
        memoryType := by
    rw [results_tryAndUpdate]
    by_cases heq : target = tried
    · subst heq
      rw [Function.update_self]
      exact Result.hasType_compareAndUpdate (h target) fun _ => s.memoryType_tempResult target
    · rw [Function.update_of_ne heq]
      exact h target
  induction steps generalizing s with
  | nil => exact h target
  | cons st steps ih =>
      apply ih
      intro target
      cases st with
      | localWire kind => exact h target
      | globalWire kind => exact h target
      | refineLocal tried => exact htry (s.loadGlobalWire settings tried) h tried target
      | refineGlobal tried => exact htry (s.loadLocalWire settings tried) h tried target

theorem hasType_searchPass {localWire globalWire : Wire} {allowed : FunctionUnit K → Bool}
    {cell : MemCell K} {args : List BankParams} {s : SearchState K}
    (hargs : ∀ a ∈ args, a.memoryType = memoryType)
    (h : searchPass models settings localWire globalWire allowed args
      { toBestResults := .fresh, cell := cell } = .ok s) (target : OptimizationTarget) :
    (s.results target).toDesign.HasType memoryType := by
  rcases searchPass_cases models settings localWire globalWire allowed cell args
    { toBestResults := .fresh, cell := cell } rfl with
    ⟨a, -, -, -, herror⟩ | ⟨-, cell', -, hok⟩
  · rw [herror] at h
    cases h
  · rw [hok] at h
    obtain rfl := Except.ok.inj h
    rw [BestResults.results_foldl_update]
    apply Result.hasType_foldl (fun hfresh => by cases hfresh)
    intro x hx _
    obtain ⟨a, ha, rfl⟩ := List.mem_map.1 (List.mem_filter.1 hx).1
    exact (memoryType_calculate _ _ _ _ _ a).trans (hargs a ha)

theorem hasType_refineWires (ip : InputParameter K) (localWire globalWire : Wire)
    {s : SearchState K} (h : ∀ target, (s.results target).toDesign.HasType memoryType)
    (target : OptimizationTarget) :
    ((refineWires models ip memoryType localWire globalWire s).results target).toDesign.HasType
      memoryType := by
  unfold refineWires
  split
  · exact RefineState.hasType_run ip.refineSteps h target
  · exact h target

/-- The results of a tag phase are tag arrays, as far as they are initialised. -/
theorem hasType_tagPhase {ip : InputParameter K} {cell : MemCell K} {s : SearchState K}
    (h : tagPhase models ip cell = .ok s) (target : OptimizationTarget) :
    (s.results target).toDesign.HasType .tag := by
  unfold tagPhase at h
  obtain ⟨wires, -, h⟩ := bind_eq_ok.1 h
  obtain ⟨cs, -, h⟩ := bind_eq_ok.1 h
  obtain ⟨s₁, hpass, h⟩ := bind_eq_ok.1 h
  rw [← Except.ok.inj h]
  refine hasType_refineWires _ _ _ (fun target => ?_) target
  refine hasType_searchPass (fun a ha => ?_) hpass target
  obtain ⟨c, -, hargs⟩ := List.mem_filterMap.1 ha
  obtain ⟨blockSize, -, -, rfl⟩ := Candidate.tagArgs_eq_some hargs
  rfl

end HasType

/-! ## The rows of one output -/

section Output

variable (settings : Settings K) (memCellType : MemCellType) (unset : Design K → MemoryType)
  (tags : Results K)

/-- The number of rows that a design of a data array is printed in. -/
def rowsPerDesign : ℕ :=
  if settings.designTarget = .cache then
    OptimizationTarget.searched.countP fun target =>
      (tags target).toDesign.memoryType memCellType settings.routingMode unset = .tag
  else 1

/-- The designs that are printed: in a cache, data arrays only. -/
def printed (d : Design K) : Bool :=
  settings.designTarget ≠ .cache ∨ d.memoryType memCellType settings.routingMode unset = .data

variable {settings memCellType unset tags}

omit [Field K] [LinearOrder K] in
theorem length_outputToFile (d : Design K) :
    (outputToFile settings memCellType unset tags d).length =
      if printed settings memCellType unset d then
        rowsPerDesign settings memCellType unset tags else 0 := by
  unfold outputToFile printed rowsPerDesign printAsCacheToCsvFile
  by_cases hcache : settings.designTarget = .cache
  · rw [if_pos hcache, if_pos hcache, List.length_filterMap_eq_countP]
    by_cases hdata : d.memoryType memCellType settings.routingMode unset = .data
    · rw [if_pos (by simp [hdata])]
      apply List.countP_congr
      intro target _
      by_cases htag :
          (tags target).toDesign.memoryType memCellType settings.routingMode unset = .tag
      · simp [hdata, htag]
      · simp [htag]
    · simp [hcache, hdata]
  · simp [hcache]

omit [Field K] [LinearOrder K] in
theorem data_outputToFile {d : Design K} {row : CsvRow K}
    (h : row ∈ outputToFile settings memCellType unset tags d) : row.data = d := by
  unfold outputToFile at h
  split at h
  · obtain ⟨target, -, hrow⟩ := List.mem_filterMap.1 h
    unfold printAsCacheToCsvFile at hrow
    split at hrow
    · cases hrow
    · rw [← Option.some.inj hrow]
  · rw [List.mem_singleton.1 h]

omit [Field K] [LinearOrder K] in
theorem length_flatMap_outputToFile (ds : List (Design K)) :
    (ds.flatMap (outputToFile settings memCellType unset tags)).length =
      ds.countP (printed settings memCellType unset) *
        rowsPerDesign settings memCellType unset tags := by
  induction ds with
  | nil => simp
  | cons d ds ih =>
      rw [List.flatMap_cons, List.length_append, ih, length_outputToFile, List.countP_cons,
        Nat.add_mul]
      split
      · omega
      · omega

end Output

/-! ## The run -/

section Run

variable {models : Models K} {ip : InputParameter K} {cell : MemCell K}
  {unset : Design K → MemoryType} {tags : Results K} {localWire globalWire : Wire}

/-- The solutions among the candidates. -/
def solutions (models : Models K) (settings : Settings K) (cell : MemCell K)
    (localWire globalWire : Wire) (args : List BankParams) : List (Design K) :=
  (args.map (evaluatedDesign models settings cell localWire globalWire)).filter
    (keptBy fun _ => true)

/-- Without its output, the body of the loop is that of the search. -/
theorem map_toSearchState_exploreCandidate (models : Models K) (settings : Settings K)
    (memCellType : MemCellType) (unset : Design K → MemoryType) (tags : Results K)
    (localWire globalWire : Wire) (s : ExploreState K) (a : BankParams) :
    (exploreCandidate settings memCellType unset tags models localWire globalWire s a).map
        ExploreState.toSearchState =
      tryCandidate models settings localWire globalWire (fun _ => true) s.toSearchState a := by
  unfold exploreCandidate tryCandidate
  dsimp only
  rw [Bool.and_true]
  split
  · split
    · rfl
    · rfl
  · rfl

/-- Without its output, the loop is that of the search. -/
theorem map_toSearchState_foldlM (models : Models K) (settings : Settings K)
    (memCellType : MemCellType) (unset : Design K → MemoryType) (tags : Results K)
    (localWire globalWire : Wire) (args : List BankParams) (s : ExploreState K) :
    (args.foldlM (exploreCandidate settings memCellType unset tags models localWire globalWire)
        s).map ExploreState.toSearchState =
      searchPass models settings localWire globalWire (fun _ => true) args s.toSearchState := by
  unfold searchPass
  induction args generalizing s with
  | nil => rfl
  | cons a args ih =>
      rw [List.foldlM_cons, List.foldlM_cons,
        ← map_toSearchState_exploreCandidate models settings memCellType unset tags localWire
          globalWire s a]
      cases exploreCandidate settings memCellType unset tags models localWire globalWire s a with
      | error halt => rfl
      | ok s' => exact ih s'

/-- The body of the loop does what it does without output, and prints a solution. -/
theorem exploreCandidate_eq (settings : Settings K) (memCellType : MemCellType)
    (unset : Design K → MemoryType) (tags : Results K) (s : ExploreState K) (a : BankParams)
    {s₁ : SearchState K}
    (h : tryCandidate models settings localWire globalWire (fun _ => true) s.toSearchState a =
      .ok s₁) (hcell : s.cell.memoised models.vdd = cell.memoised models.vdd) :
    exploreCandidate settings memCellType unset tags models localWire globalWire s a =
      .ok { toSearchState := s₁
            rows := s.rows ++ (solutions models settings cell localWire globalWire [a]).flatMap
              (outputToFile settings memCellType unset tags) } := by
  have hbank : (calculate models settings s.cell localWire globalWire a).1 =
      evaluate models settings cell localWire globalWire a := by
    rw [calculate_eq_evaluate, ← evaluate_memoised, hcell, evaluate_memoised]
  unfold tryCandidate at h
  unfold exploreCandidate
  dsimp only at h ⊢
  rw [hbank] at h ⊢
  rw [Bool.and_true] at h
  split at h
  · rename_i hvalid
    split at h
    · cases h
    · rename_i hcapacity
      have hkept : solutions models settings cell localWire globalWire [a] =
          [evaluatedDesign models settings cell localWire globalWire a] :=
        List.filter_cons_of_pos (by rw [keptBy, Bool.and_true]; exact hvalid)
      rw [if_pos hvalid, if_neg hcapacity, hkept, List.flatMap_singleton, ← Except.ok.inj h]
      rfl
  · rename_i hvalid
    have hnone : solutions models settings cell localWire globalWire [a] = [] :=
      List.filter_cons_of_neg (by rw [keptBy, Bool.and_true]; exact hvalid)
    rw [if_neg hvalid, hnone, List.flatMap_nil, List.append_nil, ← Except.ok.inj h]

/-- The loop over the candidates counts its solutions and prints them. -/
theorem foldlM_exploreCandidate (settings : Settings K) (memCellType : MemCellType)
    (unset : Design K → MemoryType) (tags : Results K) (args : List BankParams)
    {s : ExploreState K} {s₁ : SearchState K}
    (h : searchPass models settings localWire globalWire (fun _ => true) args s.toSearchState =
      .ok s₁) (hcell : s.cell.memoised models.vdd = cell.memoised models.vdd) :
    args.foldlM
        (exploreCandidate settings memCellType unset tags models localWire globalWire) s =
      .ok { toSearchState := s₁
            rows := s.rows ++ (solutions models settings cell localWire globalWire args).flatMap
              (outputToFile settings memCellType unset tags) } := by
  induction args generalizing s with
  | nil =>
      rw [← Except.ok.inj h]
      exact congrArg Except.ok (by rw [solutions, List.map_nil, List.filter_nil, List.flatMap_nil,
        List.append_nil])
  | cons a args ih =>
      have hstep : searchPass models settings localWire globalWire (fun _ => true) (a :: args)
            s.toSearchState =
          tryCandidate models settings localWire globalWire (fun _ => true) s.toSearchState a >>=
            searchPass models settings localWire globalWire (fun _ => true) args :=
        List.foldlM_cons
      rw [hstep] at h
      obtain ⟨s', hfirst, h⟩ := bind_eq_ok.1 h
      have hcell' : s'.cell.memoised models.vdd = cell.memoised models.vdd := by
        rcases tryCandidate_cases (fun _ => true) cell s.toSearchState hcell a with
          ⟨-, -, herror⟩ | ⟨cell', hmemoised, ⟨-, -, hok⟩ | ⟨-, hok⟩⟩
        · rw [herror] at hfirst
          cases hfirst
        · rw [hok] at hfirst
          rw [← Except.ok.inj hfirst]
          exact hmemoised
        · rw [hok] at hfirst
          rw [← Except.ok.inj hfirst]
          exact hmemoised
      have hsplit : solutions models settings cell localWire globalWire (a :: args) =
          solutions models settings cell localWire globalWire [a] ++
            solutions models settings cell localWire globalWire args := by
        unfold solutions
        rw [← List.filter_append, ← List.map_append]
        rfl
      rw [List.foldlM_cons, exploreCandidate_eq settings memCellType unset tags s a hfirst hcell]
      refine (ih (s := { toSearchState := s', rows := _ }) h hcell').trans (congrArg Except.ok ?_)
      rw [hsplit, List.flatMap_append, List.append_assoc]

/-- The designs tried last in the iterations of the refinement loops. -/
def lastTried (models : Models K) (settings : Settings K) :
    List (List RefineStep) → RefineState K → List (Design K)
  | [], _ => []
  | steps :: loops, s =>
      let refined := s.run models settings .data steps
      refined.tempResult :: lastTried models settings loops refined

omit [LinearOrder K] [Field K] in
theorem InputParameter.flatten_refineLoops (ip : InputParameter K) :
    ip.refineLoops.flatten = ip.refineSteps := by
  unfold refineLoops refineSteps
  rw [List.flatten_append, List.flatMap_def, List.flatMap_def]

theorem length_lastTried (models : Models K) (settings : Settings K)
    (loops : List (List RefineStep)) (s : RefineState K) :
    (lastTried models settings loops s).length = loops.length := by
  induction loops generalizing s with
  | nil => rfl
  | cons steps loops ih => exact congrArg Nat.succ (ih _)

/-- The refinement loops do what they do without output, and print what they tried last. -/
theorem foldl_exploreWire (settings : Settings K) (memCellType : MemCellType)
    (loops : List (List RefineStep)) (s : RefineState K) (rows : List (CsvRow K)) :
    loops.foldl (exploreWire settings memCellType unset tags models) (s, rows) =
      (s.run models settings .data loops.flatten,
        rows ++ (lastTried models settings loops s).flatMap
          (outputToFile settings memCellType unset tags)) := by
  induction loops generalizing s rows with
  | nil => exact congrArg (Prod.mk s) (List.append_nil rows).symm
  | cons steps loops ih =>
      rw [List.foldl_cons]
      apply (ih _ _).trans
      rw [List.flatten_cons, lastTried, List.flatMap_cons, List.append_assoc]
      unfold RefineState.run
      rw [List.foldl_append]

/-- The refinement of the data phase tries data arrays. -/
theorem memoryType_lastTried (models : Models K) (settings : Settings K)
    (loops : List (List RefineStep)) {s : RefineState K}
    (hs : s.tempResult.bank.memoryType = .data) :
    ∀ d ∈ lastTried models settings loops s, d.bank.memoryType = .data := by
  have hrun (steps : List RefineStep) {s : RefineState K}
      (hs : s.tempResult.bank.memoryType = .data) :
      (s.run models settings .data steps).tempResult.bank.memoryType = .data := by
    induction steps generalizing s with
    | nil => exact hs
    | cons st steps ih =>
        apply ih
        cases st with
        | localWire kind => exact hs
        | globalWire kind => exact hs
        | refineLocal target => exact RefineState.memoryType_tempResult _ target
        | refineGlobal target => exact RefineState.memoryType_tempResult _ target
  induction loops generalizing s with
  | nil => exact fun d hd => absurd hd List.not_mem_nil
  | cons steps loops ih =>
      intro d hd
      rcases List.mem_cons.1 hd with rfl | hd
      · exact hrun steps hs
      · exact ih (hrun steps hs) d hd

/-- Where the refinement loops start. -/
def refineStart (localWire globalWire : Wire) (s : SearchState K) : RefineState K where
  cell := s.cell
  localWire := localWire
  globalWire := globalWire
  tempResult := (Result.new .readLatencyOptimized).toDesign
  results := s.results

/-- An exploration does what the search does without output.  Its rows are those of the
solutions, and those of the designs that the refinement loops tried last. -/
theorem explore_eq {args : List BankParams} {s₀ : SearchState K}
    (hrun : searchPass models ip.toSettings localWire globalWire (fun _ => true) args
      { toBestResults := .fresh, cell := cell } = .ok s₀) (hfound : 0 < s₀.numSolution) :
    explore models ip cell unset tags localWire globalWire args =
      .ok { toSearchState := refineWires models ip .data localWire globalWire s₀
            rows :=
              (solutions models ip.toSettings cell localWire globalWire args).flatMap
                (outputToFile ip.toSettings cell.memCellType unset tags) ++
              (lastTried models ip.toSettings ip.refineLoops
                (refineStart localWire globalWire s₀)).flatMap
                (outputToFile ip.toSettings cell.memCellType unset tags) } := by
  have hpass := foldlM_exploreCandidate ip.toSettings cell.memCellType unset tags args
    (s := { toBestResults := .fresh, cell := cell, rows := [] }) hrun rfl
  unfold explore
  rw [hpass]
  dsimp only [bind, Except.bind]
  unfold exploreWires refineWires
  rw [if_pos hfound, if_pos hfound, foldl_exploreWire, ip.flatten_refineLoops]
  rfl

theorem numSolution_refineWires (s : SearchState K) :
    (refineWires models ip .data localWire globalWire s).numSolution = s.numSolution := by
  unfold refineWires
  split
  · rfl
  · rfl

/-- An exploration that ends is a search that ends with the same number of solutions. -/
theorem searchPass_of_explore {args : List BankParams} {s : ExploreState K}
    (h : explore models ip cell unset tags localWire globalWire args = .ok s) :
    ∃ s₀, searchPass models ip.toSettings localWire globalWire (fun _ => true) args
      { toBestResults := .fresh, cell := cell } = .ok s₀ ∧ s₀.numSolution = s.numSolution := by
  have hpass := map_toSearchState_foldlM models ip.toSettings cell.memCellType unset tags
    localWire globalWire args { toBestResults := .fresh, cell := cell, rows := [] }
  unfold explore at h
  obtain ⟨s', hloop, h⟩ := bind_eq_ok.1 h
  rw [hloop] at hpass
  refine ⟨s'.toSearchState, hpass.symm, ?_⟩
  rw [← Except.ok.inj h]
  unfold exploreWires
  split
  · rfl
  · rfl

theorem numSolution_eq_length {settings : Settings K} {args : List BankParams}
    {s₀ : SearchState K}
    (hrun : searchPass models settings localWire globalWire (fun _ => true) args
      { toBestResults := .fresh, cell := cell } = .ok s₀) :
    s₀.numSolution = (solutions models settings cell localWire globalWire args).length := by
  rcases searchPass_cases models settings localWire globalWire (fun _ => true) cell args
    { toBestResults := .fresh, cell := cell } rfl with
    ⟨a, -, -, -, herror⟩ | ⟨-, cell', -, hok⟩
  · rw [herror] at hrun
    cases hrun
  · rw [hok] at hrun
    rw [← Except.ok.inj hrun]
    exact (BestResults.numSolution_foldl_update _ _).trans (Nat.zero_add _)

/-- A solution is a valid bank that is printed. -/
theorem solutions_printed {settings : Settings K} {args : List BankParams}
    (hdata : ∀ a ∈ args, a.memoryType = .data) (unset : Design K → MemoryType) :
    ∀ d ∈ solutions models settings cell localWire globalWire args,
      d.bank.invalid = false ∧ printed settings cell.memCellType unset d = true := by
  intro d hd
  obtain ⟨hmem, hkept⟩ := List.mem_filter.1 hd
  obtain ⟨a, ha, rfl⟩ := List.mem_map.1 hmem
  rw [keptBy, Bool.and_true, Bool.not_eq_true'] at hkept
  refine ⟨hkept, decide_eq_true (.inr ?_)⟩
  rw [Design.memoryType_of_stored (stored_evaluatedDesign hkept)]
  exact (memoryType_calculate _ _ _ _ _ a).trans (hdata a ha)

end Run

/-! ## Rows and solutions -/

/-- The rows are printed from valid banks, and there are as many as are reported. -/
structure ExploreState.Counted (ip : InputParameter K) (s : ExploreState K) : Prop where
  valid : ∀ row ∈ s.rows, row.data.bank.invalid = false
  count : s.rows.length = s.numSolution * ip.solutionMultiplier

section Counted

variable {models : Models K} {ip : InputParameter K} {cell : MemCell K}
  {unset : Design K → MemoryType} {tags : Results K} {localWire globalWire : Wire}
  {args : List BankParams} {s₀ : SearchState K}

/-- The number of rows, from the designs that were tried last. -/
theorem length_rows (hdata : ∀ a ∈ args, a.memoryType = .data) (loops : List (Design K)) :
    ((solutions models ip.toSettings cell localWire globalWire args).flatMap
        (outputToFile ip.toSettings cell.memCellType unset tags) ++
      loops.flatMap (outputToFile ip.toSettings cell.memCellType unset tags)).length =
      ((solutions models ip.toSettings cell localWire globalWire args).length +
        loops.countP (printed ip.toSettings cell.memCellType unset)) *
          rowsPerDesign ip.toSettings cell.memCellType unset tags := by
  have hprinted :
      (solutions models ip.toSettings cell localWire globalWire args).countP
          (printed ip.toSettings cell.memCellType unset) =
        (solutions models ip.toSettings cell localWire globalWire args).length :=
    List.countP_eq_length.2 fun d hd => (solutions_printed hdata unset d hd).2
  rw [List.length_append, length_flatMap_outputToFile, length_flatMap_outputToFile, hprinted,
    Nat.add_mul]

omit [Field K] [LinearOrder K] in
theorem stored_initialized {memCellType : MemCellType} {routingMode : RoutingMode}
    {d : Design K} (h : d.stored memCellType routingMode = true) : d.bank.initialized = true :=
  (Bool.and_eq_true_iff.1 h).1

omit [Field K] [LinearOrder K] in
theorem rowsPerDesign_cache (hcache : ip.designTarget = .cache) (unset : Design K → MemoryType) :
    rowsPerDesign ip.toSettings cell.memCellType unset tags =
      OptimizationTarget.searched.countP fun target =>
        (tags target).toDesign.memoryType cell.memCellType ip.routingMode unset = .tag :=
  if_pos hcache

omit [Field K] [LinearOrder K] in
/-- Every tag result that holds a tag array is printed, and so is memory that looks like
one. -/
theorem rowsPerDesign_eq_multiplier
    (htags : ip.designTarget = .cache → ∀ target, (tags target).toDesign.HasType .tag)
    (hunset : ip.designTarget = .cache → ∀ target ∈ OptimizationTarget.searched,
      (tags target).toDesign.stored cell.memCellType ip.routingMode = true ∨
        unset (tags target).toDesign = .tag) :
    rowsPerDesign ip.toSettings cell.memCellType unset tags = ip.solutionMultiplier := by
  by_cases hcache : ip.designTarget = .cache
  · have hmultiplier : ip.solutionMultiplier = OptimizationTarget.searched.length := if_pos hcache
    rw [rowsPerDesign_cache hcache, hmultiplier]
    refine List.countP_eq_length.2 fun target htarget => decide_eq_true ?_
    unfold Design.memoryType
    split
    · rename_i hstored
      exact htags hcache target (stored_initialized hstored)
    · rename_i hnot
      exact (hunset hcache target htarget).resolve_left hnot
  · exact (if_neg hcache).trans (if_neg hcache).symm

omit [Field K] [LinearOrder K] in
/-- If all tag results are printed although memory never looks like a tag array, they hold
one. -/
theorem stored_of_rowsPerDesign (hcache : ip.designTarget = .cache)
    (h : rowsPerDesign ip.toSettings cell.memCellType (fun _ => .cam) tags =
      ip.solutionMultiplier) :
    ∀ target ∈ OptimizationTarget.searched,
      (tags target).toDesign.stored cell.memCellType ip.routingMode = true := by
  have hmultiplier : ip.solutionMultiplier = OptimizationTarget.searched.length := if_pos hcache
  rw [rowsPerDesign_cache hcache, hmultiplier] at h
  intro target htarget
  have htag := List.countP_eq_length.1 h target htarget
  by_contra hnot
  have hcam : (tags target).toDesign.memoryType cell.memCellType ip.routingMode
      (fun _ => .cam) = .cam := if_neg hnot
  rw [hcam] at htag
  cases of_decide_eq_true htag

omit [Field K] [LinearOrder K] in
/-- Data arrays are printed, if memory looks like one. -/
theorem countP_printed_data {ds : List (Design K)} (h : ∀ d ∈ ds, d.bank.memoryType = .data) :
    ds.countP (printed ip.toSettings cell.memCellType fun _ => .data) = ds.length := by
  refine List.countP_eq_length.2 fun d hd => decide_eq_true (.inr ?_)
  have hconst := d.memoryType_const cell.memCellType ip.routingMode
  rw [h d hd] at hconst
  exact hconst

omit [Field K] [LinearOrder K] in
/-- Memory that does not look like a data array is not printed, whatever else it looks
like. -/
theorem countP_printed_of_ne {ds : List (Design K)} {m m' : MemoryType} (hm : m ≠ .data)
    (h : ds.countP (printed ip.toSettings cell.memCellType fun _ => m') = 0) :
    ds.countP (printed ip.toSettings cell.memCellType fun _ => m) = 0 := by
  apply List.countP_eq_zero.2
  intro d hd hprinted
  refine List.countP_eq_zero.1 h d hd (decide_eq_true ?_)
  rcases of_decide_eq_true hprinted with hcache | hprinted
  · exact .inl hcache
  · right
    unfold Design.memoryType at hprinted ⊢
    split at hprinted
    · rename_i hstored
      rw [if_pos hstored]
      exact hprinted
    · exact absurd hprinted hm

/-- The number of rows agrees with the count if the file does. -/
theorem count_rows (hdata : ∀ a ∈ args, a.memoryType = .data)
    (hrun : searchPass models ip.toSettings localWire globalWire (fun _ => true) args
      { toBestResults := .fresh, cell := cell } = .ok s₀) (hfound : 0 < s₀.numSolution)
    (hcounted : ∃ s, explore models ip cell unset tags localWire globalWire args = .ok s ∧
      s.Counted ip) :
    (s₀.numSolution + (lastTried models ip.toSettings ip.refineLoops
        (refineStart localWire globalWire s₀)).countP
          (printed ip.toSettings cell.memCellType unset)) *
        rowsPerDesign ip.toSettings cell.memCellType unset tags =
      s₀.numSolution * ip.solutionMultiplier := by
  obtain ⟨s, hs, hs'⟩ := hcounted
  rw [explore_eq hrun hfound] at hs
  have hrows := hs'.count
  rw [← Except.ok.inj hs] at hrows
  dsimp only at hrows
  rw [length_rows hdata, numSolution_refineWires, ← numSolution_eq_length hrun] at hrows
  exact hrows

/-- If the file agrees with the count whatever memory holds, no wire is refined, and in a
cache all tag results hold tag arrays. -/
theorem refineLoops_eq_nil (hdata : ∀ a ∈ args, a.memoryType = .data)
    (htags : ip.designTarget = .cache → ∀ target, (tags target).toDesign.HasType .tag)
    (hrun : searchPass models ip.toSettings localWire globalWire (fun _ => true) args
      { toBestResults := .fresh, cell := cell } = .ok s₀) (hfound : 0 < s₀.numSolution)
    (hcounted : ∀ unset, ∃ s, explore models ip cell unset tags localWire globalWire args =
      .ok s ∧ s.Counted ip) :
    ip.refineLoops = [] ∧ (ip.designTarget = .cache → ∀ target ∈ OptimizationTarget.searched,
      (tags target).toDesign.stored cell.memCellType ip.routingMode = true) := by
  have htype := memoryType_lastTried models ip.toSettings ip.refineLoops
    (s := refineStart localWire globalWire s₀) rfl
  have hlength := length_lastTried models ip.toSettings ip.refineLoops
    (refineStart localWire globalWire s₀)
  have hcount (unset : Design K → MemoryType) := count_rows hdata hrun hfound (hcounted unset)
  have hmultiplier : 0 < ip.solutionMultiplier := by
    unfold InputParameter.solutionMultiplier
    split
    · norm_num
    · norm_num
  generalize lastTried models ip.toSettings ip.refineLoops
    (refineStart localWire globalWire s₀) = tried at *
  have hstored : ip.designTarget = .cache → ∀ target ∈ OptimizationTarget.searched,
      (tags target).toDesign.stored cell.memCellType ip.routingMode = true := by
    intro hcache
    -- memory that looks like tag arrays: all tag results are printed, so no design is
    have htag := hcount fun _ => .tag
    rw [rowsPerDesign_eq_multiplier htags fun _ _ _ => .inr rfl] at htag
    have hnone := Nat.eq_of_mul_eq_mul_right hmultiplier htag
    -- memory that looks like neither: the same designs are printed, so all tag results are
    have hcam := hcount fun _ => .cam
    rw [countP_printed_of_ne (by decide) (Nat.add_eq_left.1 hnone), Nat.add_zero] at hcam
    exact stored_of_rowsPerDesign hcache (Nat.eq_of_mul_eq_mul_left hfound hcam)
  refine ⟨?_, hstored⟩
  -- memory that looks like data arrays: every design is printed
  have hrows := hcount fun _ => .data
  rw [countP_printed_data htype,
    rowsPerDesign_eq_multiplier htags fun hcache target htarget =>
      .inl (hstored hcache target htarget)] at hrows
  have hnone := Nat.add_eq_left.1 (Nat.eq_of_mul_eq_mul_right hmultiplier hrows)
  exact List.length_eq_zero_iff.1 (hlength.symm.trans hnone)

/-- Without refinement the rows are those of the solutions. -/
theorem counted_of_refineLoops_eq_nil (hdata : ∀ a ∈ args, a.memoryType = .data)
    (htags : ip.designTarget = .cache → ∀ target, (tags target).toDesign.HasType .tag)
    (hrun : searchPass models ip.toSettings localWire globalWire (fun _ => true) args
      { toBestResults := .fresh, cell := cell } = .ok s₀) (hfound : 0 < s₀.numSolution)
    (hloops : ip.refineLoops = [])
    (hstored : ip.designTarget = .cache → ∀ target ∈ OptimizationTarget.searched,
      (tags target).toDesign.stored cell.memCellType ip.routingMode = true) :
    ∃ s, explore models ip cell unset tags localWire globalWire args = .ok s ∧ s.Counted ip := by
  have htried : lastTried models ip.toSettings ip.refineLoops
      (refineStart localWire globalWire s₀) = [] := by
    rw [hloops]
    rfl
  refine ⟨_, explore_eq hrun hfound, ?_, ?_⟩
  · intro row hrow
    rw [htried, List.flatMap_nil, List.append_nil] at hrow
    obtain ⟨d, hd, hprinted⟩ := List.mem_flatMap.1 hrow
    rw [data_outputToFile hprinted]
    exact (solutions_printed hdata unset d hd).1
  · rw [length_rows hdata, htried, List.countP_nil, Nat.add_zero, numSolution_refineWires,
      ← numSolution_eq_length hrun,
      rowsPerDesign_eq_multiplier htags fun hcache target htarget =>
        .inl (hstored hcache target htarget)]

omit [Field K] [LinearOrder K] in
theorem InputParameter.refineLoops_eq_nil_iff (ip : InputParameter K) :
    ip.refineLoops = [] ↔ ip.localKinds = [] ∧ ip.globalKinds = [] := by
  unfold refineLoops
  rw [List.append_eq_nil_iff, List.map_eq_nil_iff, List.map_eq_nil_iff]

end Counted

/-! ## Configurations refine wires -/

/-- The bounds of a kind of wire after a file was read: the default ones, from no repeaters
and full swing on, or a single value. -/
structure WireRanges (wireType wireRepeaterType isLowSwing : Range) : Prop where
  wireType : wireType.min ≤ wireType.max
  wireRepeaterType : wireRepeaterType.min = wireRepeaterType.max ∨
    wireRepeaterType = ⟨WireRepeaterType.repeatedNone.code, WireRepeaterType.repeated50.code⟩
  isLowSwing : isLowSwing.min = isLowSwing.max ∨ isLowSwing = ⟨0, 1⟩

theorem Range.min_mem_values {r : Range} (h : r.min ≤ r.max) : r.min ∈ r.values := by
  unfold values
  refine List.mem_map.2 ⟨0, List.mem_range.2 (by omega), ?_⟩
  rw [Nat.cast_zero, add_zero]

/-- If the basic wire can be initialised, there is a refined one. -/
theorem WireRanges.refinedKinds_ne_nil {wireType wireRepeaterType isLowSwing : Range}
    (h : WireRanges wireType wireRepeaterType isLowSwing) {basicWireType : WireType}
    {kind : WireKind}
    (hbasic : basicKind basicWireType wireType wireRepeaterType isLowSwing = some kind) :
    refinedKinds wireType wireRepeaterType isLowSwing ≠ [] := by
  have hrepeater : wireRepeaterType.min ≤ wireRepeaterType.max := by
    rcases h.wireRepeaterType with heq | rfl
    · exact heq.le
    · decide
  have hswing : isLowSwing.min ≤ isLowSwing.max := by
    rcases h.isLowSwing with heq | rfl
    · exact heq.le
    · decide
  have hlegal : WireRepeaterType.ofCode wireRepeaterType.min.toNat = .repeatedNone ∨
      decide (isLowSwing.min ≠ 0) = false := by
    rcases h.wireRepeaterType with hone | rfl
    · rcases h.isLowSwing with hone' | rfl
      · -- the basic wire is the only one
        unfold basicKind WireKind.checked at hbasic
        rw [if_pos hone, if_pos hone'] at hbasic
        split at hbasic
        · rename_i hlegal
          exact hlegal
        · cases hbasic
      · exact .inr rfl
    · exact .inl rfl
  refine List.ne_nil_of_mem (a := ⟨.ofCode wireType.min.toNat,
    .ofCode wireRepeaterType.min.toNat, decide (isLowSwing.min ≠ 0), hlegal⟩) ?_
  unfold refinedKinds
  refine List.mem_flatMap.2 ⟨_, Range.min_mem_values h.wireType, ?_⟩
  refine List.mem_flatMap.2 ⟨_, Range.min_mem_values hrepeater, ?_⟩
  exact List.mem_filterMap.2 ⟨_, Range.min_mem_values hswing, dif_pos hlegal⟩

/-- The bounds of both kinds of wires are those of a file that was read. -/
structure SearchSpace.WiresRead (space : SearchSpace) : Prop where
  localWire :
    WireRanges space.localWireType space.localWireRepeaterType space.isLocalWireLowSwing
  globalWire :
    WireRanges space.globalWireType space.globalWireRepeaterType space.isGlobalWireLowSwing

theorem SearchSpace.wiresRead_restored (associativity : ℤ) :
    (SearchSpace.restored associativity).WiresRead := by
  refine ⟨⟨?_, .inr rfl, .inr rfl⟩, ⟨?_, .inr rfl, .inr rfl⟩⟩
  · show (WireType.localAggressive.code : ℤ) ≤ WireType.semiConservative.code
    decide
  · show (WireType.semiAggressive.code : ℤ) ≤ WireType.globalConservative.code
    decide

namespace InputParameter

variable {ip ip₀ : InputParameter K}

omit [Field K] [LinearOrder K] in
theorem wiresRead_readLine (h : ip.toSearchSpace.WiresRead) (line : ConfigLine K) :
    (ip.readLine line).toSearchSpace.WiresRead := by
  obtain ⟨hlocal, hglobal⟩ := h
  cases line with
  | localWireType tmp => exact ⟨{ hlocal with wireType := le_rfl }, hglobal⟩
  | localWireRepeaterType tmp => exact ⟨{ hlocal with wireRepeaterType := .inl rfl }, hglobal⟩
  | localWireUseLowSwing tmp => exact ⟨{ hlocal with isLowSwing := .inl rfl }, hglobal⟩
  | globalWireType tmp => exact ⟨hlocal, { hglobal with wireType := le_rfl }⟩
  | globalWireRepeaterType tmp => exact ⟨hlocal, { hglobal with wireRepeaterType := .inl rfl }⟩
  | globalWireUseLowSwing tmp => exact ⟨hlocal, { hglobal with isLowSwing := .inl rfl }⟩
  | useCactiAssumption tmp =>
      unfold readLine
      dsimp only
      split
      · exact ⟨hlocal, hglobal⟩
      · exact ⟨hlocal, hglobal⟩
  | _ => exact ⟨hlocal, hglobal⟩

omit [Field K] [LinearOrder K] in
theorem wiresRead_readInputParameterFromFile (file : List (ConfigLine K))
    (h : ip.toSearchSpace.WiresRead) :
    (ip.readInputParameterFromFile file).toSearchSpace.WiresRead := by
  induction file generalizing ip with
  | nil => exact h
  | cons line file ih => exact ih (wiresRead_readLine h line)

omit [Field K] [LinearOrder K] in
/-- A configuration whose basic wires can be initialised refines both wires. -/
theorem refineLoops_ne_nil {file : List (ConfigLine K)} {memCellType : MemCellType}
    {localWire globalWire : Wire} (hconfigure : configure file memCellType ip₀ = .ok ip)
    (hwires : ip.initialBasicWire = .ok (localWire, globalWire)) :
    ip.localKinds ≠ [] ∧ ip.globalKinds ≠ [] := by
  have hread : ip.toSearchSpace.WiresRead := by
    have hdefault : (ip₀.restoreSearchSize).toSearchSpace.WiresRead :=
      SearchSpace.wiresRead_restored ip₀.associativity
    have hfile := wiresRead_readInputParameterFromFile file hdefault
    obtain ⟨-, -, -, -, ⟨-, rfl⟩ | ⟨-, rfl⟩⟩ :=
      applyConstraint_eq_some (orHalt_eq_ok.1 hconfigure)
    · exact hfile
    · exact hfile
  obtain ⟨localKind, hlocal, hglobal⟩ := bind_eq_ok.1 hwires
  obtain ⟨globalKind, hglobal, -⟩ := bind_eq_ok.1 hglobal
  exact ⟨hread.localWire.refinedKinds_ne_nil (orHalt_eq_ok.1 hlocal),
    hread.globalWire.refinedKinds_ne_nil (orHalt_eq_ok.1 hglobal)⟩

end InputParameter

/-! ## When the file is right -/

/-- In an exploration with a solution, the rows are those of the solutions, whatever memory
holds, if and only if no wire is refined, and in a cache every tag result holds a tag array.
After a configuration is read from a file, a wire is refined. -/
theorem exploration_counted_iff (models : Models K) (ip : InputParameter K) (cell : MemCell K)
    (tags : Results K) (localWire globalWire : Wire) (args : List BankParams)
    (hdata : ∀ a ∈ args, a.memoryType = .data)
    (htags : ip.designTarget = .cache → ∃ tagModels tagIp tagCell s,
      tagPhase tagModels tagIp tagCell = .ok s ∧ s.results = tags)
    (unset₀ : Design K → MemoryType) (s₀ : ExploreState K)
    (hrun : explore models ip cell unset₀ tags localWire globalWire args = .ok s₀)
    (hfound : 0 < s₀.numSolution) :
    ((∀ unset, ∃ s, explore models ip cell unset tags localWire globalWire args = .ok s ∧
        s.Counted ip) ↔
      ip.localKinds = [] ∧ ip.globalKinds = [] ∧
        (ip.designTarget = .cache → ∀ target ∈ OptimizationTarget.searched,
          (tags target).toDesign.stored cell.memCellType ip.routingMode = true)) ∧
    ∀ file ip₀, configure file cell.memCellType ip₀ = .ok ip →
      ip.initialBasicWire = .ok (localWire, globalWire) →
      ¬ ∀ unset, ∃ s, explore models ip cell unset tags localWire globalWire args = .ok s ∧
        s.Counted ip := by
  obtain ⟨s₁, hpass, hcount⟩ := searchPass_of_explore hrun
  have hsolution : 0 < s₁.numSolution := by rw [hcount]; exact hfound
  have htype : ip.designTarget = .cache → ∀ target, (tags target).toDesign.HasType .tag := by
    intro hcache target
    obtain ⟨tagModels, tagIp, tagCell, s, hphase, rfl⟩ := htags hcache
    exact hasType_tagPhase hphase target
  have hnone (hcounted : ∀ unset, ∃ s, explore models ip cell unset tags localWire globalWire
      args = .ok s ∧ s.Counted ip) := refineLoops_eq_nil hdata htype hpass hsolution hcounted
  refine ⟨⟨fun hcounted => ?_, ?_⟩, fun file ip₀ hconfigure hwires hcounted => ?_⟩
  · obtain ⟨hloops, hstored⟩ := hnone hcounted
    obtain ⟨hlocal, hglobal⟩ := ip.refineLoops_eq_nil_iff.1 hloops
    exact ⟨hlocal, hglobal, hstored⟩
  · rintro ⟨hlocal, hglobal, hstored⟩ unset
    have hloops := ip.refineLoops_eq_nil_iff.2 ⟨hlocal, hglobal⟩
    exact counted_of_refineLoops_eq_nil hdata htype hpass hsolution hloops hstored
  · obtain ⟨hlocal, -⟩ := ip.refineLoops_eq_nil_iff.1 (hnone hcounted).1
    exact (InputParameter.refineLoops_ne_nil hconfigure hwires).1 hlocal

/-- The small RAM of one organisation as a file: a given local wire, and global wires from
semi-global aggressive to global conservative. -/
def smallExploration : List (ConfigLine ℚ) :=
  [.designTarget "RAM", .optimizationTarget "Full", .processNode (some 90), .capacityB 16,
    .wordWidth (some 8), .associativity (some 1), .temperature (some 300), .routing "H-tree",
    .internalSensing "true", .forceBank (some 1) (some 1) (some 1) (some 1),
    .forceMat (some 1) (some 1) (some 1) (some 1), .forceMuxSenseAmp (some 1),
    .forceMuxOutputLev1 (some 1), .forceMuxOutputLev2 (some 1),
    .bufferDesignOptimization "latency", .localWireType "LocalAggressive",
    .localWireRepeaterType "RepeatedNone", .localWireUseLowSwing "No",
    .globalWireRepeaterType "RepeatedNone", .globalWireUseLowSwing "No"]

/-- Circuit models for which a conservative global wire makes the bank too narrow, for
examples. -/
def Models.narrowConservative : Models ℚ :=
  { Models.permissive (fun _ _ => Design.unit.bank.toFunctionUnit) with
    aspectRatioIllegal := fun _ globalWire _ => globalWire.wireType = .globalConservative }

/-- The inputs of the exploration of a RAM with an SRAM cell, and its outcome. -/
def explored (ip : InputParameter ℚ) :
    Except Halt ((Wire × Wire) × List BankParams × ExploreState ℚ) := do
  let wires ← ip.initialBasicWire
  let args ← ip.dataCandidates .sram
  let s ← explore .narrowConservative ip .sram (fun _ => .data) (fun target => .new target)
    wires.1 wires.2 args
  .ok (wires, args, s)

/-- The number of solutions, which rows are printed from invalid banks, and whether all
candidates are data arrays. -/
def exploredSummary (run : (Wire × Wire) × List BankParams × ExploreState ℚ) :
    ℕ × List Bool × Bool :=
  (run.2.2.numSolution, run.2.2.rows.map fun row => row.data.bank.invalid,
    run.2.1.all fun a => a.memoryType = .data)

theorem exists_explored {ip : InputParameter ℚ} {n : ℕ} {flags : List Bool}
    (h : (explored ip).toOption.map exploredSummary = some (n, flags, true)) :
    ∃ wires args s, ip.initialBasicWire = .ok wires ∧ ip.dataCandidates .sram = .ok args ∧
      explore .narrowConservative ip .sram (fun _ => .data) (fun target => .new target)
        wires.1 wires.2 args = .ok s ∧
      s.numSolution = n ∧ s.rows.map (fun row => row.data.bank.invalid) = flags ∧
      ∀ a ∈ args, a.memoryType = .data := by
  obtain ⟨run, hok, hsummary⟩ := Option.map_eq_some_iff.1 h
  rw [toOption_eq_some_iff] at hok
  unfold explored at hok
  obtain ⟨wires, hwires, hok⟩ := bind_eq_ok.1 hok
  obtain ⟨args, hargs, hok⟩ := bind_eq_ok.1 hok
  obtain ⟨s, hrun, hok⟩ := bind_eq_ok.1 hok
  obtain rfl := Except.ok.inj hok
  unfold exploredSummary at hsummary
  simp only [Prod.mk.injEq, List.all_eq_true, decide_eq_true_eq] at hsummary
  obtain ⟨hcount, hrows, hdata⟩ := hsummary
  exact ⟨wires, args, s, hwires, hargs, hrun, hcount, hrows, hdata⟩

/-- A search space without wires to refine. -/
def InputParameter.unrefined : InputParameter ℚ :=
  { InputParameter.small with localWireType := ⟨1, 0⟩, globalWireType := ⟨1, 0⟩ }

theorem exploration_counted_unrefined :
    ∃ (wires : Wire × Wire) (args : List BankParams) (s : ExploreState ℚ),
      explore .narrowConservative .unrefined .sram (fun _ => .data) (fun target => .new target)
        wires.1 wires.2 args = .ok s ∧ 0 < s.numSolution ∧
      ∀ unset, ∃ s, explore .narrowConservative .unrefined .sram unset
        (fun target => .new target) wires.1 wires.2 args = .ok s ∧ s.Counted .unrefined := by
  have hsummary : (explored .unrefined).toOption.map exploredSummary =
      some (1, [false], true) := by decide +kernel
  obtain ⟨wires, args, s, -, -, hrun, hcount, -, hdata⟩ := exists_explored hsummary
  have hfound : 0 < s.numSolution := by omega
  have hram : InputParameter.unrefined.designTarget ≠ .cache := by decide
  obtain ⟨hiff, -⟩ := exploration_counted_iff .narrowConservative .unrefined .sram
    (fun target => .new target) wires.1 wires.2 args hdata (fun hcache => absurd hcache hram)
    (fun _ => .data) s hrun hfound
  exact ⟨wires, args, s, hrun, hfound,
    hiff.2 ⟨by decide, by decide, fun hcache => absurd hcache hram⟩⟩

/-- A row of the small RAM is printed from an invalid bank, and there are more rows than
are reported. -/
theorem exploration_miscounts :
    ∃ ip s,
      configure smallExploration .sram
        { toSettings := .new 0 0 .hp "" 300, toSearchSpace := .reduced } = .ok ip ∧
      ip.optimizationTarget = .fullExploration ∧ ip.isPruningEnabled = false ∧
      explorationPhase .narrowConservative ip .sram (fun _ => .data)
        (fun target => .new target) = .ok s ∧ 0 < s.numSolution ∧
      (∃ row ∈ s.rows, row.data.bank.invalid = true) ∧
      s.rows.length ≠ s.numSolution * ip.solutionMultiplier := by
  have hread : (configure smallExploration .sram
      { toSettings := .new 0 0 .hp "" 300, toSearchSpace := .reduced }).toOption.map
        (fun ip => ((ip.designTarget, ip.optimizationTarget, ip.isPruningEnabled),
          (explored ip).toOption.map exploredSummary)) =
      some ((.ramChip, .fullExploration, false),
        some (1, [false, false, false, false, false, true], true)) := by decide +kernel
  obtain ⟨ip, hconfigure, hip⟩ := Option.map_eq_some_iff.1 hread
  simp only [Prod.mk.injEq] at hip
  obtain ⟨⟨htarget, hfull, hpruning⟩, hsummary⟩ := hip
  obtain ⟨wires, args, s, hwires, hargs, hrun, hcount, hrows, -⟩ := exists_explored hsummary
  refine ⟨ip, s, toOption_eq_some_iff.1 hconfigure, hfull, hpruning, ?_, ?_, ?_, ?_⟩
  · exact bind_eq_ok.2 ⟨wires, hwires, bind_eq_ok.2 ⟨args, hargs, hrun⟩⟩
  · omega
  · have hlast : true ∈ s.rows.map fun row => row.data.bank.invalid := by
      rw [hrows]
      decide
    obtain ⟨row, hrow, hinvalid⟩ := List.mem_map.1 hlast
    exact ⟨row, hrow, hinvalid⟩
  · have hlength := congrArg List.length hrows
    rw [List.length_map] at hlength
    have hmultiplier : ip.solutionMultiplier = 1 := if_neg (by rw [htarget]; decide)
    rw [hlength, hcount, hmultiplier]
    decide

end NVSim
