import NVSim.Search.Refinement

/-!
# The pass with design constraints

The allowed values are computed from the refined results, but the pass that applies
them evaluates the organisations with the basic wires only and does not refine.  So
it finds a best result again that is within the allowed values exactly if some
organisation reaches it with the basic wires.
-/

namespace NVSim

open Library

variable {K : Type} [Field K] [LinearOrder K]

section Preserved

variable {models : Models K} {settings : Settings K} {memoryType : MemoryType}

namespace RefineState

theorem memoised_run (steps : List RefineStep) (s : RefineState K) :
    (s.run models settings memoryType steps).cell.memoised models.vdd =
      s.cell.memoised models.vdd := by
  induction steps generalizing s with
  | nil => rfl
  | cons st steps ih =>
      apply (ih _).trans
      cases st with
      | localWire kind => rfl
      | globalWire kind => rfl
      | refineLocal target => exact memoised_calculate _ _ _ _
      | refineGlobal target => exact memoised_calculate _ _ _ _

theorem results_tryAndUpdate (s : RefineState K) (target : OptimizationTarget) :
    (s.tryAndUpdate models settings memoryType target).results =
      Function.update s.results target ((s.results target).compareAndUpdate
        (s.tryAndUpdate models settings memoryType target).tempResult) := rfl

theorem optimizationTarget_tryAndUpdate (s : RefineState K) (target other : OptimizationTarget) :
    ((s.tryAndUpdate models settings memoryType target).results other).optimizationTarget =
      (s.results other).optimizationTarget := by
  rw [results_tryAndUpdate]
  by_cases heq : other = target
  · subst heq
    rw [Function.update_self, Result.compareAndUpdate_optimizationTarget]
  · rw [Function.update_of_ne heq]

theorem optimizationTarget_run (steps : List RefineStep) (s : RefineState K)
    (other : OptimizationTarget) :
    ((s.run models settings memoryType steps).results other).optimizationTarget =
      (s.results other).optimizationTarget := by
  induction steps generalizing s with
  | nil => rfl
  | cons st steps ih =>
      apply (ih _).trans
      cases st with
      | localWire kind => rfl
      | globalWire kind => rfl
      | refineLocal target => exact optimizationTarget_tryAndUpdate _ target other
      | refineGlobal target => exact optimizationTarget_tryAndUpdate _ target other

end RefineState

/-- The refinement stores in the cell at most what every evaluation stores. -/
theorem memoised_refineWires (ip : InputParameter K) (localWire globalWire : Wire)
    (s : SearchState K) :
    (refineWires models ip memoryType localWire globalWire s).cell.memoised models.vdd =
      s.cell.memoised models.vdd := by
  unfold refineWires
  split
  · exact RefineState.memoised_run _ _
  · rfl

theorem optimizationTarget_refineWires (ip : InputParameter K) (localWire globalWire : Wire)
    (s : SearchState K) (other : OptimizationTarget) :
    ((refineWires models ip memoryType localWire globalWire s).results other).optimizationTarget =
      (s.results other).optimizationTarget := by
  unfold refineWires
  split
  · exact RefineState.optimizationTarget_run _ _ other
  · rfl

theorem optimizationTarget_foldl_compareAndUpdate (candidates : List (Design K)) (r : Result K) :
    (candidates.foldl Result.compareAndUpdate r).optimizationTarget = r.optimizationTarget := by
  induction candidates generalizing r with
  | nil => rfl
  | cons x candidates ih => exact (ih _).trans (r.compareAndUpdate_optimizationTarget x)

end Preserved

section DataSearch

variable {models : Models K} {ip : InputParameter K} {cell : MemCell K} {s : SearchState K}
  {args : List BankParams}

/-- What a search that ended has checked, and what it leaves to the next pass. -/
theorem dataSearch_ok (h : dataSearch models ip cell = .ok (s, args)) :
    ∃ localWire globalWire, ip.initialBasicWire = .ok (localWire, globalWire) ∧
      s.cell.memoised models.vdd = cell.memoised models.vdd ∧
      (∀ target, (s.results target).optimizationTarget = target) ∧
      ∀ a ∈ args, (evaluate models ip.toSettings cell localWire globalWire a).invalid = false →
        (evaluate models ip.toSettings cell localWire globalWire a).storedCapacity =
          a.capacity := by
  unfold dataSearch at h
  obtain ⟨⟨localWire, globalWire⟩, hwires, h⟩ := bind_eq_ok.1 h
  obtain ⟨args', hargs, h⟩ := bind_eq_ok.1 h
  obtain ⟨s', hpass, h⟩ := bind_eq_ok.1 h
  obtain ⟨rfl, rfl⟩ := Prod.mk.inj (Except.ok.inj h)
  rcases searchPass_cases models ip.toSettings localWire globalWire (fun _ => true) cell args'
    { toBestResults := .fresh, cell := cell } rfl with
    ⟨a, -, -, -, herror⟩ | ⟨hverified, cell', hcell', hok⟩
  · rw [herror] at hpass
    cases hpass
  · rw [hok] at hpass
    obtain rfl := Except.ok.inj hpass
    refine ⟨localWire, globalWire, hwires, ?_, fun target => ?_, fun a ha hvalid => ?_⟩
    · rw [memoised_refineWires]
      exact hcell'
    · rw [optimizationTarget_refineWires, BestResults.results_foldl_update,
        optimizationTarget_foldl_compareAndUpdate]
      rfl
    · apply hverified a ha
      unfold keptBy evaluatedDesign
      rw [hvalid]
      rfl

/-- The pass with design constraints ends, and is a pass over the organisations
evaluated with the basic wires. -/
theorem constrainedPass_ok (h : dataSearch models ip cell = .ok (s, args)) :
    ∃ localWire globalWire s', ip.initialBasicWire = .ok (localWire, globalWire) ∧
      constrainedPass models ip args s = .ok s' ∧
      s'.toBestResults = (Pass.constrained (allowedLimits ip.toSettings s.results) s.results).run
        (args.map (evaluatedDesign models ip.toSettings cell localWire globalWire)) := by
  obtain ⟨localWire, globalWire, hwires, hcell, -, hverified⟩ := dataSearch_ok h
  unfold constrainedPass
  rw [hwires]
  dsimp only [bind, Except.bind]
  rcases searchPass_cases models ip.toSettings localWire globalWire
    (fun u => (allowedLimits ip.toSettings s.results).Allow u) cell args
    { toBestResults := .limited (allowedLimits ip.toSettings s.results) s.results, cell := s.cell }
    hcell with ⟨a, ha, hkept, hviolation, -⟩ | ⟨-, cell', -, hok⟩
  · -- the same banks were verified by the first pass
    unfold keptBy at hkept
    rw [Bool.and_eq_true, Bool.not_eq_true'] at hkept
    exact absurd (hverified a ha hkept.1) hviolation
  · exact ⟨localWire, globalWire, _, rfl, hok, rfl⟩

end DataSearch

/-- The pass with design constraints reaches an objective if and only if some
organisation of the search, evaluated with the basic wires, is within the allowed
values and reaches it. -/
theorem constrained_pass_reaches_iff [IsStrictOrderedRing K] {models : Models K}
    {ip : InputParameter K} {cell : MemCell K} {s : SearchState K} {args : List BankParams}
    (hsearch : dataSearch models ip cell = .ok (s, args)) (target : OptimizationTarget)
    {bound : K} (hbound : bound < worstObjective target) :
    ∃ localWire globalWire s', ip.initialBasicWire = .ok (localWire, globalWire) ∧
      constrainedPass models ip args s = .ok s' ∧
      (0 < s'.numSolution ∧ (s'.results target).objective ≤ bound ↔
        ∃ a ∈ args, ∃ b, evaluate models ip.toSettings cell localWire globalWire a = b ∧
          b.invalid = false ∧
          (allowedLimits ip.toSettings s.results).Allow b.toFunctionUnit ∧
          b.objective target ≤ bound) := by
  obtain ⟨localWire, globalWire, s', hwires, hpass, hrun⟩ := constrainedPass_ok hsearch
  obtain ⟨-, -, -, -, htarget, -⟩ := dataSearch_ok hsearch
  have htargeted : (Pass.constrained (allowedLimits ip.toSettings s.results) s.results).Targeted :=
    htarget
  refine ⟨localWire, globalWire, s', hwires, hpass, ?_⟩
  rw [hrun, Pass.numSolution_run_constrained]
  have hresults := Pass.results_run htargeted
    (args.map (evaluatedDesign models ip.toSettings cell localWire globalWire)) target
  constructor
  · rintro ⟨-, hle⟩
    rcases hresults with ⟨hkeep, -⟩ | ⟨x, hmin, -, hx⟩
    · -- nothing was found: the objective is still the worst case
      rw [hkeep, Pass.objective_start htargeted] at hle
      exact absurd hbound (not_lt.2 hle)
    · obtain ⟨a, ha, rfl⟩ := List.mem_map.1 hmin.mem
      rw [hx, Pass.objective_hold htargeted] at hle
      exact ⟨a, ha, _, rfl, hmin.isAdmissible.1, hmin.isAdmissible.2, hle⟩
  · rintro ⟨a, ha, b, rfl, hvalid, hallow, hle⟩
    have hmem : evaluatedDesign models ip.toSettings cell localWire globalWire a ∈
        args.map (evaluatedDesign models ip.toSettings cell localWire globalWire) :=
      List.mem_map_of_mem ha
    refine ⟨⟨_, hmem, hvalid, hallow⟩, ?_⟩
    rcases hresults with ⟨-, hworst⟩ | ⟨x, hmin, -, hx⟩
    · exact absurd (hworst _ hmem ⟨hvalid, hallow⟩) (not_le.2 (hle.trans_lt hbound))
    · rw [hx, Pass.objective_hold htargeted]
      exact (hmin.le hmem ⟨hvalid, hallow⟩).trans hle

/-- The pass with design constraints does not lose a best result that is within the
allowed values if and only if some organisation of the search, evaluated with the
basic wires, is within the allowed values and not worse. -/
theorem constrained_pass_keeps_optimum_iff [IsStrictOrderedRing K] (models : Models K)
    (ip : InputParameter K) (cell : MemCell K) (s : SearchState K) (args : List BankParams)
    (hsearch : dataSearch models ip cell = .ok (s, args)) (target : OptimizationTarget)
    (hfound : (s.results target).objective < worstObjective target) :
    ∃ localWire globalWire s', ip.initialBasicWire = .ok (localWire, globalWire) ∧
      constrainedPass models ip args s = .ok s' ∧
      (((allowedLimits ip.toSettings s.results).Allow (s.results target).bank.toFunctionUnit →
          0 < s'.numSolution ∧ (s'.results target).objective ≤ (s.results target).objective) ↔
        ((allowedLimits ip.toSettings s.results).Allow (s.results target).bank.toFunctionUnit →
          ∃ a ∈ args, ∃ b, evaluate models ip.toSettings cell localWire globalWire a = b ∧
            b.invalid = false ∧
            (allowedLimits ip.toSettings s.results).Allow b.toFunctionUnit ∧
            b.objective target ≤ (s.results target).objective)) := by
  obtain ⟨localWire, globalWire, s', hwires, hpass, hiff⟩ :=
    constrained_pass_reaches_iff hsearch target hfound
  exact ⟨localWire, globalWire, s', hwires, hpass, imp_congr_right fun _ => hiff⟩

/-- Circuit models for which a conservative global wire reads faster, for examples. -/
def Models.fasterConservative : Models ℚ :=
  .permissive fun _ globalWire =>
    { Design.unit.bank.toFunctionUnit with
      readLatency := if globalWire.wireType = .globalConservative then 1 else 2 }

/-- What the two passes find in the small RAM: the best read latency of the first,
whether it is within the allowed values, and the number of solutions of the second. -/
def smallPasses : Except Halt (ℚ × Bool × ℕ) := do
  let (s, args) ← dataSearch .fasterConservative .small .sram
  let s' ← constrainedPass .fasterConservative .small args s
  .ok ((s.results .readLatencyOptimized).objective,
    (allowedLimits InputParameter.small.toSettings s.results).Allow
      (s.results .readLatencyOptimized).bank.toFunctionUnit,
    s'.numSolution)

theorem smallPasses_eq : smallPasses.toOption = some (1, true, 0) := by decide +kernel

/-- In the small RAM the refined read latency is the allowed one, and the pass with
design constraints finds nothing. -/
theorem exists_smallPasses :
    ∃ s args s', dataSearch .fasterConservative .small .sram = .ok (s, args) ∧
      (s.results .readLatencyOptimized).objective = 1 ∧
      (allowedLimits InputParameter.small.toSettings s.results).Allow
        (s.results .readLatencyOptimized).bank.toFunctionUnit ∧
      constrainedPass .fasterConservative .small args s = .ok s' ∧ s'.numSolution = 0 := by
  have h := toOption_eq_some_iff.1 smallPasses_eq
  unfold smallPasses at h
  obtain ⟨⟨s, args⟩, hsearch, h⟩ := bind_eq_ok.1 h
  obtain ⟨s', hpass, h⟩ := bind_eq_ok.1 h
  simp only [Except.ok.injEq, Prod.mk.injEq, decide_eq_true_eq] at h
  obtain ⟨hone, hfeasible, hnone⟩ := h
  exact ⟨s, args, s', hsearch, hone, hfeasible, hpass, hnone⟩

theorem constrained_pass_keeps_optimum_small :
    ∃ s args s', dataSearch .fasterConservative .small .sram = .ok (s, args) ∧
      constrainedPass .fasterConservative .small args s = .ok s' ∧
      ¬ ∃ a ∈ args, ∃ b, evaluate .fasterConservative InputParameter.small.toSettings .sram
            (initializeWire 90 ⟨.localAggressive, .repeatedNone, false, .inl rfl⟩ 300)
            (initializeWire 90 ⟨.globalAggressive, .repeatedNone, false, .inl rfl⟩ 300) a = b ∧
          b.invalid = false ∧
          (allowedLimits InputParameter.small.toSettings s.results).Allow b.toFunctionUnit ∧
          b.objective .readLatencyOptimized ≤ (s.results .readLatencyOptimized).objective := by
  obtain ⟨s, args, s', hsearch, hone, hfeasible, hpass, hnone⟩ := exists_smallPasses
  have hfound : (s.results .readLatencyOptimized).objective <
      worstObjective .readLatencyOptimized := by
    rw [hone]
    decide +kernel
  obtain ⟨localWire, globalWire, s'', hwires, hpass', hiff⟩ :=
    constrained_pass_keeps_optimum_iff .fasterConservative .small .sram s args hsearch
      .readLatencyOptimized hfound
  rw [hpass] at hpass'
  obtain rfl := Except.ok.inj hpass'
  obtain ⟨rfl, rfl⟩ := Prod.mk.inj (Except.ok.inj hwires)
  refine ⟨s, args, s', hsearch, hpass, fun hreached => ?_⟩
  have hpos := (hiff.2 (fun _ => hreached) hfeasible).1
  omega

/-- The small RAM again: its best read latency is within all allowed values, and the
pass with design constraints ends without a solution. -/
theorem constrained_pass_loses_optimum :
    ∃ s args s', dataSearch .fasterConservative .small .sram = .ok (s, args) ∧
      (s.results .readLatencyOptimized).objective < worstObjective .readLatencyOptimized ∧
      (allowedLimits InputParameter.small.toSettings s.results).Allow
        (s.results .readLatencyOptimized).bank.toFunctionUnit ∧
      constrainedPass .fasterConservative .small args s = .ok s' ∧ ¬ 0 < s'.numSolution := by
  obtain ⟨s, args, s', hsearch, hone, hfeasible, hpass, hnone⟩ := exists_smallPasses
  refine ⟨s, args, s', hsearch, ?_, hfeasible, hpass, ?_⟩
  · rw [hone]
    decide +kernel
  · rw [hnone]
    exact lt_irrefl 0

end NVSim
