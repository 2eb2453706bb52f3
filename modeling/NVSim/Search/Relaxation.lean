import NVSim.Search.Main

/-!
# Relaxing the design constraints

The allowed values of the constrained pass are computed from the refined results of the search,
which do not depend on the constraints.  So with larger constraints, and without any, a design
is still found, and it is no worse.
-/

namespace NVSim

open Library

variable {K : Type} [Field K] [LinearOrder K]

/-- The configuration with these design constraints, as the `-Apply…Constraint` lines set
them. -/
def InputParameter.withConstraints (ip : InputParameter K) (constraint : OptimizationTarget → K) :
    InputParameter K :=
  { ip with constraint := constraint, isConstraintApplied := true }

/-- The configuration without design constraints. -/
def InputParameter.withoutConstraints (ip : InputParameter K) : InputParameter K :=
  { ip with isConstraintApplied := false }

/-- The objectives of valid banks are not negative. -/
def Models.NonnegObjectives (models : Models K) (settings : Settings K) (cell : MemCell K) : Prop :=
  ∀ localWire globalWire a,
    (evaluate models settings cell localWire globalWire a).invalid = false →
      ∀ target, 0 ≤ (evaluate models settings cell localWire globalWire a).objective target

variable {models : Models K} {ip : InputParameter K} {cell : MemCell K}
  {constraint constraint' : OptimizationTarget → K} {s₀ : SearchState K} {args : List BankParams}

/-- The search and its candidates do not depend on the constraints. -/
theorem dataSearch_withConstraints :
    dataSearch models (ip.withConstraints constraint) cell = dataSearch models ip cell := rfl

theorem dataPhase_withConstraints (hsearch : dataSearch models ip cell = .ok (s₀, args))
    (hfull : ip.optimizationTarget ≠ .fullExploration) :
    dataPhase models (ip.withConstraints constraint) cell =
      constrainedPass models (ip.withConstraints constraint) args s₀ := by
  unfold dataPhase
  rw [dataSearch_withConstraints, hsearch]
  exact if_pos ⟨hfull, rfl⟩

theorem dataPhase_withoutConstraints (hsearch : dataSearch models ip cell = .ok (s₀, args)) :
    dataPhase models ip.withoutConstraints cell = .ok s₀ := by
  have hsame : dataSearch models ip.withoutConstraints cell = dataSearch models ip cell := rfl
  unfold dataPhase
  rw [hsame, hsearch]
  exact if_neg fun h => Bool.false_ne_true h.2

variable [IsStrictOrderedRing K]

/-- The refined results of the search have no negative objective. -/
theorem objective_dataSearch_nonneg (hnonneg : models.NonnegObjectives ip.toSettings cell)
    (hsearch : dataSearch models ip cell = .ok (s₀, args)) (target : OptimizationTarget) :
    0 ≤ (s₀.results target).bank.objective target := by
  rcases sound_dataSearch hsearch target with hempty | hverified
  · rw [hempty.bank, (FunctionUnit.isWorst_reset _).objective_eq]
    by_cases htarget : target = .fullExploration
    · rw [htarget]
      exact le_rfl
    · exact worstCase_pos.le.trans (worstCase_le_worstObjective htarget)
  · have hchecked := hverified.checked
    have hvalid := hchecked.valid
    rw [← hchecked.evaluated] at hvalid
    have hobjective := hnonneg _ _ _ hvalid target
    rw [hchecked.evaluated] at hobjective
    exact hobjective

/-- Larger constraints allow more, if the best objectives are not negative. -/
theorem allow_of_le {results : Results K}
    (hle : ∀ target, constraint target ≤ constraint' target)
    (hnonneg : ∀ target, 0 ≤ (results target).bank.objective target) {u : FunctionUnit K}
    (h : (allowedLimits (ip.withConstraints constraint).toSettings results).Allow u) :
    (allowedLimits (ip.withConstraints constraint').toSettings results).Allow u := by
  have hlimit (target : OptimizationTarget) :
      (results target).bank.objective target * (constraint target + 1) ≤
        (results target).bank.objective target * (constraint' target + 1) :=
    mul_le_mul_of_nonneg_left (by linarith [hle target]) (hnonneg target)
  obtain ⟨h₁, h₂, h₃, h₄, h₅, h₆, h₇, h₈⟩ := h
  exact ⟨h₁.trans (hlimit .readLatencyOptimized), h₂.trans (hlimit .writeLatencyOptimized),
    h₃.trans (hlimit .readEnergyOptimized), h₄.trans (hlimit .writeEnergyOptimized),
    h₅.trans (hlimit .readEdpOptimized), h₆.trans (hlimit .writeEdpOptimized),
    h₇.trans (hlimit .areaOptimized), h₈.trans (hlimit .leakageOptimized)⟩

/-- If a run with design constraints finds a design, so does one with larger constraints, and one
without any, and for every target each of them is no worse than the one before. -/
theorem relaxed_constraints_no_worse (hfull : ip.optimizationTarget ≠ .fullExploration)
    (hle : ∀ target, constraint target ≤ constraint' target)
    (hnonneg : models.NonnegObjectives ip.toSettings cell)
    (hproper : ∀ args, ip.dataCandidates cell.memCellType = .ok args →
      ProperCandidates models ip cell args)
    {s : SearchState K} (h : dataPhase models (ip.withConstraints constraint) cell = .ok s)
    (hfound : 0 < s.numSolution) :
    ∃ s' s'', dataPhase models (ip.withConstraints constraint') cell = .ok s' ∧
      dataPhase models ip.withoutConstraints cell = .ok s'' ∧
      0 < s'.numSolution ∧ 0 < s''.numSolution ∧
      ∀ target, target ≠ .fullExploration →
        (s'.results target).objective ≤ (s.results target).objective ∧
          (s''.results target).objective ≤ (s'.results target).objective := by
  have hconstrained := h
  unfold dataPhase at h
  obtain ⟨⟨s₀, args⟩, hsearch, -⟩ := bind_eq_ok.1 h
  have hproper := hproper args (dataCandidates_of_dataSearch hsearch)
  have hproper' (k : OptimizationTarget → K) :
      ProperCandidates models (ip.withConstraints k) cell args := hproper
  have hsearch' (k : OptimizationTarget → K) :
      dataSearch models (ip.withConstraints k) cell = .ok (s₀, args) := hsearch
  have hallow {u : FunctionUnit K}
      (h : (allowedLimits (ip.withConstraints constraint).toSettings s₀.results).Allow u) :
      (allowedLimits (ip.withConstraints constraint').toSettings s₀.results).Allow u :=
    allow_of_le hle (objective_dataSearch_nonneg hnonneg hsearch) h
  have hpass := (dataPhase_withConstraints hsearch hfull).symm.trans hconstrained
  obtain ⟨localWire, globalWire, s', hwires, hpass', -⟩ :=
    constrainedPass_ok (hsearch' constraint')
  -- the candidate that the first run has found is found with the larger constraints
  obtain ⟨a, ha, hvalid, hallowed⟩ :=
    (numSolution_constrainedPass (hsearch' constraint) hwires hpass).1 hfound
  have hfound' : 0 < s'.numSolution :=
    (numSolution_constrainedPass (hsearch' constraint') hwires hpass').2
      ⟨a, ha, hvalid, hallow hallowed⟩
  have hbest (target : OptimizationTarget) (htarget : target ≠ .fullExploration) :=
    dataSearch_best hsearch hwires hproper htarget
  refine ⟨s', s₀, (dataPhase_withConstraints hsearch hfull).trans hpass',
    dataPhase_withoutConstraints hsearch, hfound', ?_, fun target htarget => ?_⟩
  · rcases hbest .areaOptimized nofun with ⟨-, hinvalid⟩ | ⟨hpos, -⟩
    · rw [hinvalid a ha] at hvalid
      cases hvalid
    · exact Nat.pos_of_ne_zero hpos
  · obtain ⟨htarget₁, a₁, ha₁, hvalid₁, hallowed₁, hdesign₁, -⟩ :=
      constrainedPass_attained (hsearch' constraint) hwires hpass (hproper' _) hfound htarget
    obtain ⟨htarget₂, a₂, ha₂, hvalid₂, -, hdesign₂, hle₂⟩ :=
      constrainedPass_attained (hsearch' constraint') hwires hpass' (hproper' _) hfound' htarget
    have hobjective {s : SearchState K} {b : BankParams}
        (hrecorded : (s.results target).optimizationTarget = target)
        (hdesign : (s.results target).toDesign =
          evaluatedDesign models ip.toSettings cell localWire globalWire b) :
        (s.results target).objective =
          (evaluate models ip.toSettings cell localWire globalWire b).objective target := by
      unfold Result.objective
      rw [hrecorded]
      exact congrArg (fun d => d.bank.objective target) hdesign
    rw [hobjective htarget₁ hdesign₁, hobjective htarget₂ hdesign₂]
    refine ⟨hle₂ a₁ ha₁ hvalid₁ (hallow hallowed₁), ?_⟩
    rcases hbest target htarget with ⟨-, hinvalid⟩ | ⟨-, -, -, hleast⟩
    · rw [hinvalid a ha] at hvalid
      cases hvalid
    · exact hleast a₂ ha₂ hvalid₂

/-- Every valid bank of these models is proper. -/
theorem proper_fasterConservative {settings : Settings ℚ} {cell : MemCell ℚ}
    {localWire globalWire : Wire} {a : BankParams}
    (hvalid : (evaluate .fasterConservative settings cell localWire globalWire a).invalid = false) :
    (evaluate .fasterConservative settings cell localWire globalWire
      a).toFunctionUnit.IsProper := by
  unfold evaluate calculate at hvalid ⊢
  dsimp only at hvalid ⊢
  split at hvalid
  · next hinitialized =>
    have hfresh : (FunctionUnit.fresh : FunctionUnit ℚ).IsProper := by decide +kernel
    rw [if_pos hinitialized]
    exact hfresh
  · next hinitialized =>
    split at hvalid
    · next hinvalid =>
      rw [hinvalid] at hvalid
      cases hvalid
    · next hinvalid =>
      rw [if_neg hinitialized, if_neg hinvalid]
      dsimp only [Models.fasterConservative, Models.permissive]
      split
      · decide +kernel
      · decide +kernel

theorem nonneg_fasterConservative (settings : Settings ℚ) (cell : MemCell ℚ) :
    Models.fasterConservative.NonnegObjectives settings cell := by
  intro localWire globalWire a hvalid target
  have hproper := proper_fasterConservative hvalid
  cases target with
  | readLatencyOptimized => exact hproper.readLatency.1
  | writeLatencyOptimized => exact hproper.writeLatency.1
  | readEnergyOptimized => exact hproper.readDynamicEnergy.1
  | writeEnergyOptimized => exact hproper.writeDynamicEnergy.1
  | readEdpOptimized => exact mul_nonneg hproper.readLatency.1 hproper.readDynamicEnergy.1
  | writeEdpOptimized => exact mul_nonneg hproper.writeLatency.1 hproper.writeDynamicEnergy.1
  | leakageOptimized => exact hproper.leakage.1
  | areaOptimized => exact hproper.area.1
  | fullExploration => exact le_rfl

/-- The refined read latency 1 is within twice the allowed value only with the constraint 1. -/
theorem relaxed_constraints_no_worse_small :
    ∃ s s' s'' : SearchState ℚ,
      dataPhase .fasterConservative (InputParameter.small.withConstraints fun _ => 1) .sram =
        .ok s ∧
      dataPhase .fasterConservative (InputParameter.small.withConstraints fun _ => 2) .sram =
        .ok s' ∧
      dataPhase .fasterConservative InputParameter.small.withoutConstraints .sram = .ok s'' ∧
      ∀ target, target ≠ .fullExploration →
        (s'.results target).objective ≤ (s.results target).objective ∧
          (s''.results target).objective ≤ (s'.results target).objective := by
  have hsome : (dataPhase .fasterConservative
      (InputParameter.small.withConstraints fun _ => 1) .sram).toOption.map
        (fun s : SearchState ℚ => decide (0 < s.numSolution)) = some true := by decide +kernel
  obtain ⟨s, hok, hfound⟩ := Option.map_eq_some_iff.1 hsome
  have hphase := toOption_eq_some_iff.1 hok
  have hone_le_two (_ : OptimizationTarget) : (1 : ℚ) ≤ 2 := one_le_two
  obtain ⟨s', s'', h', h'', -, -, hle⟩ := relaxed_constraints_no_worse (by decide) hone_le_two
    (nonneg_fasterConservative _ _) (fun _ _ _ _ _ _ _ hvalid => proper_fasterConservative hvalid)
    hphase (of_decide_eq_true hfound)
  exact ⟨s, s', s'', hphase, h', h'', hle⟩

end NVSim
