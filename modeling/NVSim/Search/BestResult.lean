import Mathlib.Algebra.Order.Field.Rat
import Mathlib.Tactic.NormNum
import NVSim.Library.ArgMin
import NVSim.Model.Search

/-!
# What the best results hold

A pass over the candidates keeps, for each target, the earliest candidate of
minimal objective among the valid ones within the limits.  The worst case of an
empty result loses every comparison, also as a product of two measures.
-/

namespace NVSim

open Library

variable {K : Type} [Field K]

/-! ## Measures -/

/-- All measures a result is compared by are the worst case. -/
structure FunctionUnit.IsWorst (u : FunctionUnit K) : Prop where
  readLatency : u.readLatency = worstCase
  writeLatency : u.writeLatency = worstCase
  readDynamicEnergy : u.readDynamicEnergy = worstCase
  writeDynamicEnergy : u.writeDynamicEnergy = worstCase
  area : u.area = worstCase
  leakage : u.leakage = worstCase

/-- The objective of a result nothing was stored in. -/
def worstObjective (target : OptimizationTarget) : K :=
  (FunctionUnit.fresh.reset : FunctionUnit K).objective target

theorem FunctionUnit.isWorst_reset (u : FunctionUnit K) : u.reset.IsWorst :=
  ⟨rfl, rfl, rfl, rfl, rfl, rfl⟩

theorem FunctionUnit.IsWorst.objective_eq {u : FunctionUnit K} (h : u.IsWorst)
    (target : OptimizationTarget) : u.objective target = worstObjective target := by
  cases target <;> simp only [worstObjective, FunctionUnit.objective, h.readLatency,
    h.writeLatency, h.readDynamicEnergy, h.writeDynamicEnergy, h.area, h.leakage] <;> rfl

variable [LinearOrder K]

/-- Measures, and products of latency and energy, below the worst case. -/
structure FunctionUnit.IsProper (u : FunctionUnit K) : Prop where
  readLatency : 0 ≤ u.readLatency ∧ u.readLatency < worstCase
  writeLatency : 0 ≤ u.writeLatency ∧ u.writeLatency < worstCase
  readDynamicEnergy : 0 ≤ u.readDynamicEnergy ∧ u.readDynamicEnergy < worstCase
  writeDynamicEnergy : 0 ≤ u.writeDynamicEnergy ∧ u.writeDynamicEnergy < worstCase
  area : 0 ≤ u.area ∧ u.area < worstCase
  leakage : 0 ≤ u.leakage ∧ u.leakage < worstCase
  readEdp : u.readLatency * u.readDynamicEnergy < worstCase
  writeEdp : u.writeLatency * u.writeDynamicEnergy < worstCase

section Ordered

variable [IsStrictOrderedRing K]

theorem one_le_worstCase : (1 : K) ≤ worstCase := by
  apply one_le_pow₀
  norm_num

theorem worstCase_pos : (0 : K) < worstCase := zero_lt_one.trans_le one_le_worstCase

theorem worstCase_le_worstObjective {target : OptimizationTarget}
    (htarget : target ≠ .fullExploration) : (worstCase : K) ≤ worstObjective target := by
  have hproduct : (worstCase : K) ≤ worstCase * worstCase :=
    le_mul_of_one_le_left worstCase_pos.le one_le_worstCase
  cases target with
  | readEdpOptimized => exact hproduct
  | writeEdpOptimized => exact hproduct
  | fullExploration => exact absurd rfl htarget
  | _ => exact le_rfl

/-- Every objective of proper measures is below that of an empty result. -/
theorem FunctionUnit.IsProper.objective_lt {u : FunctionUnit K} (h : u.IsProper)
    {target : OptimizationTarget} (htarget : target ≠ .fullExploration) :
    u.objective target < worstObjective target := by
  refine lt_of_lt_of_le ?_ (worstCase_le_worstObjective htarget)
  cases target with
  | readLatencyOptimized => exact h.readLatency.2
  | writeLatencyOptimized => exact h.writeLatency.2
  | readEnergyOptimized => exact h.readDynamicEnergy.2
  | writeEnergyOptimized => exact h.writeDynamicEnergy.2
  | readEdpOptimized => exact h.readEdp
  | writeEdpOptimized => exact h.writeEdp
  | leakageOptimized => exact h.leakage.2
  | areaOptimized => exact h.area.2
  | fullExploration => exact absurd rfl htarget

end Ordered

/-! ## Passes -/

/-- A pass of `main` over the candidates: the first one, with fresh results, or the
one with design constraints. -/
inductive Pass (K : Type)
  | unconstrained
  | constrained (allowed : Limits K) (old : Results K)

namespace Pass

/-- The results before the first candidate. -/
def start : Pass K → BestResults K
  | .unconstrained => .fresh
  | .constrained allowed old => .limited allowed old

/-- The limits of the results. -/
def limits : Pass K → Limits K
  | .unconstrained => .unconstrained
  | .constrained allowed _ => allowed

/-- The condition of `main` for a candidate that is not invalid. -/
def allowed : Pass K → FunctionUnit K → Bool
  | .unconstrained => fun _ => true
  | .constrained allowed _ => fun u => allowed.Allow u

/-- The results carry their targets, as `main` assigns them. -/
def Targeted (pass : Pass K) : Prop :=
  ∀ target, (pass.start.results target).optimizationTarget = target

/-- The candidates a pass compares with its results. -/
def keeps (pass : Pass K) (x : Design K) : Bool :=
  !x.bank.invalid && pass.allowed x.bank.toFunctionUnit

/-- The best results after all candidates. -/
def run (pass : Pass K) (candidates : List (Design K)) : BestResults K :=
  (candidates.filter pass.keeps).foldl BestResults.update pass.start

/-- The candidates that can be a result: valid, and within all limits. -/
def Admissible (pass : Pass K) (x : Design K) : Prop :=
  x.bank.invalid = false ∧ pass.limits.Allow x.bank.toFunctionUnit

theorem Admissible.keeps {pass : Pass K} {x : Design K} (h : pass.Admissible x) :
    pass.keeps x = true := by
  unfold Pass.keeps
  rw [h.1]
  cases pass with
  | unconstrained => rfl
  | constrained allowed old => exact decide_eq_true h.2

theorem admissible_of_keeps {pass : Pass K} {x : Design K} (h : pass.keeps x = true)
    (hallow : pass.limits.Allow x.bank.toFunctionUnit) : pass.Admissible x := by
  unfold Pass.keeps at h
  rw [Bool.and_eq_true, Bool.not_eq_true'] at h
  exact ⟨h.1, hallow⟩

omit [LinearOrder K] in
theorem toLimits_start (pass : Pass K) (target : OptimizationTarget) :
    (pass.start.results target).toLimits = pass.limits := by
  cases pass with
  | unconstrained => rfl
  | constrained allowed old => rfl

omit [LinearOrder K] in
/-- Before the first candidate every objective is the worst case. -/
theorem objective_start {pass : Pass K} (htargeted : pass.Targeted)
    (target : OptimizationTarget) :
    (pass.start.results target).objective = worstObjective target := by
  unfold Result.objective
  rw [htargeted target]
  refine FunctionUnit.IsWorst.objective_eq ?_ target
  cases pass with
  | unconstrained => exact FunctionUnit.isWorst_reset _
  | constrained allowed old => exact FunctionUnit.isWorst_reset _

omit [LinearOrder K] in
theorem objective_hold {pass : Pass K} (htargeted : pass.Targeted) (target : OptimizationTarget)
    (x : Design K) :
    ((pass.start.results target).hold x).objective = x.bank.objective target :=
  congrArg x.bank.objective (htargeted target)

end Pass

/-- Updating all results is updating each of them. -/
theorem BestResults.results_foldl_update (candidates : List (Design K)) (best : BestResults K)
    (target : OptimizationTarget) :
    (candidates.foldl BestResults.update best).results target =
      candidates.foldl Result.compareAndUpdate (best.results target) := by
  induction candidates generalizing best with
  | nil => rfl
  | cons x candidates ih => exact ih (best.update x)

theorem BestResults.numSolution_foldl_update (candidates : List (Design K))
    (best : BestResults K) :
    (candidates.foldl BestResults.update best).numSolution =
      best.numSolution + candidates.length := by
  induction candidates generalizing best with
  | nil => rfl
  | cons x candidates ih =>
      rw [List.foldl_cons, ih, List.length_cons]
      simp only [BestResults.update]
      omega

namespace Pass

/-- One candidate of a pass, for the result of one target, which has the limits of
the pass. -/
theorem compare_cases (pass : Pass K) {r : Result K} {target : OptimizationTarget}
    (htarget : r.optimizationTarget = target) (hlimits : r.toLimits = pass.limits)
    (x : Design K) :
    pass.Admissible x ∧ x.bank.objective target < r.objective ∧
        (if pass.keeps x then r.compareAndUpdate x else r) = r.hold x ∨
      (pass.Admissible x → r.objective ≤ x.bank.objective target) ∧
        (if pass.keeps x then r.compareAndUpdate x else r) = r := by
  by_cases hkeeps : pass.keeps x = true
  · rw [if_pos hkeeps]
    rcases r.compareAndUpdate_cases x with ⟨hallow, hlt, h⟩ | ⟨hle, h⟩
    · rw [hlimits] at hallow
      rw [htarget] at hlt
      exact .inl ⟨admissible_of_keeps hkeeps hallow, hlt, h⟩
    · rw [hlimits, htarget] at hle
      exact .inr ⟨fun hadmissible => hle hadmissible.2, h⟩
  · rw [if_neg hkeeps]
    exact .inr ⟨fun hadmissible => absurd hadmissible.keeps hkeeps, rfl⟩

/-- What the result of a target holds after a pass: the earliest of the best
admissible candidates, or what it held before when none of them is better. -/
theorem results_run {pass : Pass K} (htargeted : pass.Targeted) (candidates : List (Design K))
    (target : OptimizationTarget) :
    ((pass.run candidates).results target = pass.start.results target ∧
        ∀ x ∈ candidates, pass.Admissible x →
          worstObjective target ≤ x.bank.objective target) ∨
      ∃ x, EarliestMin pass.Admissible (fun x => x.bank.objective target) candidates x ∧
        x.bank.objective target < worstObjective target ∧
        (pass.run candidates).results target = (pass.start.results target).hold x := by
  unfold run
  rw [BestResults.results_foldl_update, List.foldl_filter]
  apply foldl_keepBest
  · intro x
    rw [← objective_start htargeted]
    exact pass.compare_cases (htargeted target) (pass.toLimits_start target) x
  · intro y x
    rw [← objective_hold htargeted target y]
    exact pass.compare_cases (r := (pass.start.results target).hold y) (htargeted target)
      (pass.toLimits_start target) x

theorem objective_run_le {pass : Pass K} (htargeted : pass.Targeted)
    (candidates : List (Design K)) (target : OptimizationTarget) :
    ((pass.run candidates).results target).objective ≤ worstObjective target := by
  rcases results_run htargeted candidates target with ⟨hstart, -⟩ | ⟨x, -, hlt, hx⟩
  · rw [hstart, objective_start htargeted]
  · rw [hx, objective_hold htargeted]
    exact hlt.le

/-- A constrained pass has a solution when a candidate is within all limits. -/
theorem numSolution_run_constrained (allowed : Limits K) (old : Results K)
    (candidates : List (Design K)) :
    0 < ((constrained allowed old).run candidates).numSolution ↔
      ∃ x ∈ candidates, (constrained allowed old).Admissible x := by
  unfold run
  rw [BestResults.numSolution_foldl_update]
  have hzero : ((constrained allowed old).start).numSolution = 0 := rfl
  rw [hzero, Nat.zero_add, List.length_pos_iff_exists_mem]
  constructor
  · rintro ⟨x, hx⟩
    obtain ⟨hmem, hkeeps⟩ := List.mem_filter.1 hx
    refine ⟨x, hmem, admissible_of_keeps hkeeps ?_⟩
    unfold keeps at hkeeps
    rw [Bool.and_eq_true] at hkeeps
    exact of_decide_eq_true hkeeps.2
  · rintro ⟨x, hmem, hadmissible⟩
    exact ⟨x, List.mem_filter.2 ⟨hmem, hadmissible.keeps⟩⟩

end Pass

/-! ## The search loop -/

section SearchPass

variable {models : Models K} {settings : Settings K} {localWire globalWire : Wire}

/-- The design a candidate's arguments are evaluated to. -/
def evaluatedDesign (models : Models K) (settings : Settings K) (cell : MemCell K)
    (localWire globalWire : Wire) (args : BankParams) : Design K where
  bank := evaluate models settings cell localWire globalWire args
  localWire := localWire
  globalWire := globalWire

/-- The candidates a search loop with the condition `allowed` compares. -/
def keptBy (allowed : FunctionUnit K → Bool) (x : Design K) : Bool :=
  !x.bank.invalid && allowed x.bank.toFunctionUnit

/-- The three outcomes for one candidate. -/
theorem tryCandidate_cases (allowed : FunctionUnit K → Bool) (cell : MemCell K)
    (s : SearchState K) (hcell : s.cell.memoised models.vdd = cell.memoised models.vdd)
    (args : BankParams) :
    keptBy allowed (evaluatedDesign models settings cell localWire globalWire args) = true ∧
        (evaluate models settings cell localWire globalWire args).storedCapacity ≠
          args.capacity ∧
        tryCandidate models settings localWire globalWire allowed s args =
          .error .capacityViolation ∨
      ∃ cell', cell'.memoised models.vdd = cell.memoised models.vdd ∧
        (keptBy allowed (evaluatedDesign models settings cell localWire globalWire args) = true ∧
            (evaluate models settings cell localWire globalWire args).storedCapacity =
              args.capacity ∧
            tryCandidate models settings localWire globalWire allowed s args =
              .ok { toBestResults := s.toBestResults.update
                      (evaluatedDesign models settings cell localWire globalWire args)
                    cell := cell' } ∨
          ¬ keptBy allowed (evaluatedDesign models settings cell localWire globalWire args) ∧
            tryCandidate models settings localWire globalWire allowed s args =
              .ok { s with cell := cell' }) := by
-- the energies stored in the cell are those every evaluation would store
  have hbank : (calculate models settings s.cell localWire globalWire args).1 =
      evaluate models settings cell localWire globalWire args := by
    rw [calculate_eq_evaluate, ← evaluate_memoised, hcell, evaluate_memoised]
  have hcell' : (calculate models settings s.cell localWire globalWire args).2.memoised
      models.vdd = cell.memoised models.vdd := by
    rw [memoised_calculate, hcell]
  unfold tryCandidate
  dsimp only
  rw [hbank]
  show _ ∨ ∃ cell', _ ∧ (keptBy allowed _ = true ∧ _ ∨ _)
  by_cases hkept : keptBy allowed
      (evaluatedDesign models settings cell localWire globalWire args) = true
  · rw [keptBy, evaluatedDesign] at hkept
    rw [if_pos hkept]
    by_cases hcapacity :
        (evaluate models settings cell localWire globalWire args).storedCapacity = args.capacity
    · rw [if_neg (not_not.2 hcapacity)]
      exact .inr ⟨_, hcell', .inl ⟨hkept, hcapacity, rfl⟩⟩
    · rw [if_pos hcapacity]
      exact .inl ⟨hkept, hcapacity, rfl⟩
  · refine .inr ⟨_, hcell', .inr ⟨hkept, ?_⟩⟩
    rw [keptBy, evaluatedDesign] at hkept
    rw [if_neg hkept]

/-- A search loop exits at a candidate it compares whose cells are not the capacity.
Otherwise it updates the best results with the candidates it compares, whatever
energies the cell stores at the beginning. -/
theorem searchPass_cases (models : Models K) (settings : Settings K)
    (localWire globalWire : Wire) (allowed : FunctionUnit K → Bool) (cell : MemCell K)
    (args : List BankParams) (s : SearchState K)
    (hcell : s.cell.memoised models.vdd = cell.memoised models.vdd) :
    (∃ a ∈ args, keptBy allowed (evaluatedDesign models settings cell localWire globalWire a) ∧
        (evaluate models settings cell localWire globalWire a).storedCapacity ≠ a.capacity ∧
        searchPass models settings localWire globalWire allowed args s =
          .error .capacityViolation) ∨
      (∀ a ∈ args, keptBy allowed (evaluatedDesign models settings cell localWire globalWire a) →
        (evaluate models settings cell localWire globalWire a).storedCapacity = a.capacity) ∧
      ∃ cell', cell'.memoised models.vdd = cell.memoised models.vdd ∧
        searchPass models settings localWire globalWire allowed args s =
          .ok { toBestResults :=
                  ((args.map (evaluatedDesign models settings cell localWire globalWire)).filter
                    (keptBy allowed)).foldl BestResults.update s.toBestResults
                cell := cell' } := by
  -- the cell changes from candidate to candidate, but not what it memoises
  induction args generalizing s with
  | nil => exact .inr ⟨fun a ha => absurd ha List.not_mem_nil, s.cell, hcell, rfl⟩
  | cons a args ih =>
      have hstep : searchPass models settings localWire globalWire allowed (a :: args) s =
          tryCandidate models settings localWire globalWire allowed s a >>=
            searchPass models settings localWire globalWire allowed args :=
        List.foldlM_cons
      rw [hstep, List.map_cons]
      rcases tryCandidate_cases allowed cell s hcell a with ⟨hkept, hviolation, herror⟩ |
          ⟨cell', hcell', ⟨hkept, hcapacity, hok⟩ | ⟨hkept, hok⟩⟩
      · rw [herror]
        exact .inl ⟨a, List.mem_cons_self, hkept, hviolation, rfl⟩
      · rw [hok, List.filter_cons_of_pos hkept]
        rcases ih { toBestResults := s.toBestResults.update _, cell := cell' } hcell' with
          ⟨b, hb, hb', hviolation, herror⟩ | ⟨hverified, hrun⟩
        · exact .inl ⟨b, List.mem_cons_of_mem a hb, hb', hviolation, herror⟩
        · refine .inr ⟨fun b hb hb' => ?_, hrun⟩
          rcases List.mem_cons.1 hb with rfl | hb
          · exact hcapacity
          · exact hverified b hb hb'
      · rw [hok, List.filter_cons_of_neg hkept]
        rcases ih { s with cell := cell' } hcell' with
          ⟨b, hb, hb', hviolation, herror⟩ | ⟨hverified, hrun⟩
        · exact .inl ⟨b, List.mem_cons_of_mem a hb, hb', hviolation, herror⟩
        · refine .inr ⟨fun b hb hb' => ?_, hrun⟩
          rcases List.mem_cons.1 hb with rfl | hb
          · exact absurd hb' hkept
          · exact hverified b hb hb'

end SearchPass

/-! ## The best results -/

/-- After a pass over any sequence of evaluated candidates, each of the eight results
holds the earliest of the best candidates within its limits, bank and wires
together, and an invalid trial does not replace it; a pass with design constraints
has solutions exactly if a candidate is within the allowed values, and then every
result holds such a candidate. -/
theorem best_results_argmin [IsStrictOrderedRing K] (pass : Pass K) (htargeted : pass.Targeted)
    (candidates : List (Design K))
    (hevaluated : ∀ x ∈ candidates,
      x.bank.invalid = true ∧ x.bank.toFunctionUnit.IsWorst ∨
        x.bank.invalid = false ∧ x.bank.toFunctionUnit.IsProper) :
    (∀ target, target ≠ .fullExploration →
      (∃ x, EarliestMin pass.Admissible (fun x => x.bank.objective target) candidates x ∧
          (pass.run candidates).results target = (pass.start.results target).hold x) ∨
        (∀ x ∈ candidates, ¬ pass.Admissible x) ∧
          (pass.run candidates).results target = pass.start.results target) ∧
      (∀ allowed old, pass = .constrained allowed old →
        (0 < (pass.run candidates).numSolution ↔ ∃ x ∈ candidates, pass.Admissible x) ∧
          (0 < (pass.run candidates).numSolution → ∀ target, target ≠ .fullExploration →
            ∃ x ∈ candidates, pass.Admissible x ∧
              (pass.run candidates).results target = (pass.start.results target).hold x)) ∧
      ∀ target, target ≠ .fullExploration → ∀ trial : Design K, trial.bank.invalid = true →
        trial.bank.toFunctionUnit.IsWorst →
          ((pass.run candidates).results target).compareAndUpdate trial =
            (pass.run candidates).results target := by
-- the measures of a candidate are proper, so it beats the result that was started with
  have hresults : ∀ target, target ≠ .fullExploration →
      (∃ x, EarliestMin pass.Admissible (fun x => x.bank.objective target) candidates x ∧
          (pass.run candidates).results target = (pass.start.results target).hold x) ∨
        (∀ x ∈ candidates, ¬ pass.Admissible x) ∧
          (pass.run candidates).results target = pass.start.results target := by
    intro target htarget
    rcases Pass.results_run htargeted candidates target with
      ⟨hstart, hworst⟩ | ⟨x, hmin, -, hx⟩
    · refine .inr ⟨fun x hx hadmissible => ?_, hstart⟩
      rcases hevaluated x hx with ⟨hinvalid, -⟩ | ⟨-, hproper⟩
      · rw [hadmissible.1] at hinvalid
        cases hinvalid
      · exact absurd (hworst x hx hadmissible) (not_le.2 (hproper.objective_lt htarget))
    · exact .inl ⟨x, hmin, hx⟩
  refine ⟨hresults, ?_, ?_⟩
  · rintro allowed old rfl
    have hsolution := Pass.numSolution_run_constrained allowed old candidates
    refine ⟨hsolution, fun hpos target htarget => ?_⟩
    obtain ⟨y, hy, hadmissible⟩ := hsolution.1 hpos
    rcases hresults target htarget with ⟨x, hmin, hx⟩ | ⟨hnone, -⟩
    · exact ⟨x, hmin.mem, hmin.isAdmissible, hx⟩
    · exact absurd hadmissible (hnone y hy)
  · -- an objective of the worst case is not below that of any result
    intro target htarget trial _ hworst
    have hle := Pass.objective_run_le htargeted candidates target
    have htarget' : ((pass.run candidates).results target).optimizationTarget = target := by
      rcases hresults target htarget with ⟨x, -, hx⟩ | ⟨-, hx⟩
      · rw [hx]
        exact htargeted target
      · rw [hx]
        exact htargeted target
    rcases Result.compareAndUpdate_cases ((pass.run candidates).results target) trial with
      ⟨-, hlt, -⟩ | ⟨-, hkeep⟩
    · rw [htarget', hworst.objective_eq] at hlt
      exact absurd hle (not_le.2 hlt)
    · exact hkeep

/-- A valid design all of whose measures are one, for examples. -/
def Design.unit : Design K where
  bank :=
    { toBank := .fresh
      height := 1
      width := 1
      area := 1
      readLatency := 1
      writeLatency := 1
      readDynamicEnergy := 1
      writeDynamicEnergy := 1
      resetLatency := 1
      setLatency := 1
      resetDynamicEnergy := 1
      setDynamicEnergy := 1
      cellReadEnergy := 1
      cellSetEnergy := 1
      cellResetEnergy := 1
      leakage := 1 }
  localWire := .fresh
  globalWire := .fresh

namespace Design

/-- The same with another read latency and another area. -/
def sized (readLatency area : K) : Design K :=
  { (unit : Design K) with
    bank := { (unit : Design K).bank with readLatency := readLatency, area := area } }

/-- An invalid design, with the worst of all measures. -/
def worst : Design K :=
  { (unit : Design K) with
    bank :=
      { toBank := { Bank.fresh with invalid := true }
        toFunctionUnit := (unit : Design K).bank.toFunctionUnit.reset } }

/-- Two fast designs with the same read latency behind a small slow one, and an invalid one. -/
def mixed : List (Design ℚ) := [.sized 3 1, .worst, .sized 2 4, .sized 2 2]

end Design

/-- No constraint but one on the area. -/
def Limits.ofArea (area : ℚ) : Limits ℚ := { Limits.unconstrained with limitArea := area }

theorem isProper_sized {readLatency area : ℚ} (hlatency : 0 ≤ readLatency ∧ readLatency ≤ 4)
    (harea : 0 ≤ area ∧ area ≤ 4) :
    (Design.sized readLatency area).bank.toFunctionUnit.IsProper := by
  have hfour : (4 : ℚ) < worstCase := by norm_num [worstCase]
  have hone : (0 : ℚ) ≤ 1 ∧ (1 : ℚ) < worstCase := ⟨zero_le_one, by norm_num [worstCase]⟩
  have hlatency' : 0 ≤ readLatency ∧ readLatency < worstCase :=
    ⟨hlatency.1, hlatency.2.trans_lt hfour⟩
  have hedp : readLatency * 1 < worstCase := by
    rw [mul_one]
    exact hlatency'.2
  exact ⟨hlatency', hone, hone, hone, ⟨harea.1, harea.2.trans_lt hfour⟩, hone, hedp,
    (mul_one (1 : ℚ)).trans_lt hone.2⟩

theorem evaluated_mixed : ∀ x ∈ Design.mixed,
    x.bank.invalid = true ∧ x.bank.toFunctionUnit.IsWorst ∨
      x.bank.invalid = false ∧ x.bank.toFunctionUnit.IsProper := by
  intro x hx
  simp only [Design.mixed, List.mem_cons, List.not_mem_nil, or_false] at hx
  rcases hx with rfl | rfl | rfl | rfl
  · exact .inr ⟨rfl, isProper_sized (by norm_num) (by norm_num)⟩
  · exact .inl ⟨rfl, FunctionUnit.isWorst_reset _⟩
  · exact .inr ⟨rfl, isProper_sized (by norm_num) (by norm_num)⟩
  · exact .inr ⟨rfl, isProper_sized (by norm_num) (by norm_num)⟩

theorem allow_ofArea_iff {readLatency area limit : ℚ} (hlatency : readLatency ≤ 4) :
    (Limits.ofArea limit).Allow (Design.sized readLatency area).bank.toFunctionUnit ↔
      area ≤ limit := by
  have hone : (1 : ℚ) ≤ worstCase := one_le_worstCase
  have hslow : readLatency ≤ worstCase := hlatency.trans (by norm_num [worstCase])
  have hproduct (x : ℚ) : x * 1 ≤ worstCase ↔ x ≤ worstCase := by rw [mul_one]
  constructor
  · exact fun h => h.2.2.2.2.2.2.1
  · exact fun h => ⟨hslow, hone, hone, hone, (hproduct _).2 hslow, (hproduct _).2 hone, h, hone⟩

/-- Of two designs with the same read latency the first one is held; within limits it is the
one whose area is allowed. -/
theorem best_results_argmin_mixed :
    ((Pass.unconstrained : Pass ℚ).run Design.mixed).results .readLatencyOptimized =
        (Result.new .readLatencyOptimized).hold (.sized 2 4) ∧
      0 < ((Pass.constrained (.ofArea 3) fun target => .new target).run
        Design.mixed).numSolution ∧
      ((Pass.constrained (.ofArea 3) fun target => .new target).run
          Design.mixed).results .readLatencyOptimized =
        ((Result.new .readLatencyOptimized).applyLimit (.ofArea 3)).hold (.sized 2 2) := by
  have hfirst : EarliestMin (Pass.unconstrained : Pass ℚ).Admissible
      (fun x => x.bank.objective .readLatencyOptimized) Design.mixed (.sized 2 4) := by
    refine ⟨⟨rfl, (allow_ofArea_iff (by norm_num)).2 (by norm_num [worstCase])⟩,
      [.sized 3 1, .worst], [.sized 2 2], rfl, ?_, ?_⟩
    · intro x hx hadmissible
      simp only [List.mem_cons, List.not_mem_nil, or_false] at hx
      rcases hx with rfl | rfl
      · exact (by norm_num : (2 : ℚ) < 3)
      · cases hadmissible.1
    · intro x hx _
      rw [List.mem_singleton.1 hx]
      exact le_refl (2 : ℚ)
  have hallowed : EarliestMin (Pass.constrained (.ofArea 3) fun target => .new target).Admissible
      (fun x : Design ℚ => x.bank.objective .readLatencyOptimized) Design.mixed (.sized 2 2) := by
    refine ⟨⟨rfl, (allow_ofArea_iff (by norm_num)).2 (by norm_num)⟩,
      [.sized 3 1, .worst, .sized 2 4], [], rfl, ?_, by simp⟩
    intro x hx hadmissible
    simp only [List.mem_cons, List.not_mem_nil, or_false] at hx
    rcases hx with rfl | rfl | rfl
    · exact (by norm_num : (2 : ℚ) < 3)
    · cases hadmissible.1
    · exact absurd ((allow_ofArea_iff (by norm_num)).1 hadmissible.2) (by norm_num)
  refine ⟨?_, ?_, ?_⟩
  · rcases (best_results_argmin (.unconstrained : Pass ℚ) (fun _ => rfl) _ evaluated_mixed).1
      .readLatencyOptimized (by decide) with ⟨x, hx, hresult⟩ | ⟨hnone, -⟩
    · rw [hresult, hx.eq hfirst]
      rfl
    · exact absurd hfirst.isAdmissible (hnone _ hfirst.mem)
  · have hsolution := (best_results_argmin (.constrained (.ofArea 3) fun target => .new target)
      (fun _ => rfl) _ evaluated_mixed).2.1 _ _ rfl
    exact hsolution.1.2 ⟨_, hallowed.mem, hallowed.isAdmissible⟩
  · rcases (best_results_argmin (.constrained (.ofArea 3) fun target => .new target)
      (fun _ => rfl) _ evaluated_mixed).1 .readLatencyOptimized (by decide) with
      ⟨x, hx, hresult⟩ | ⟨hnone, -⟩
    · rw [hresult, hx.eq hallowed]
      rfl
    · exact absurd hallowed.isAdmissible (hnone _ hallowed.mem)

end NVSim
