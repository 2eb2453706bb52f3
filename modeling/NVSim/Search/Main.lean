import NVSim.Model.Main
import NVSim.Search.Designs
import NVSim.Search.Exploration
import NVSim.Search.MatCalls
import NVSim.Search.TagTrace

/-!
# What a run prints

The design that `main` prints is confirmed by the circuits, and no candidate that the search
compared with it is better, as long as the measures of the candidates are below the worst case.
So the run of a cache never ends with the complaint that there is no valid cache configuration.
-/

namespace NVSim

open Library

variable {K : Type} [Field K] [LinearOrder K]

/-- The candidates that are valid with the basic wires of `ip` have measures below the worst
case. -/
def ProperCandidates (models : Models K) (ip : InputParameter K) (cell : MemCell K)
    (args : List BankParams) : Prop :=
  ∀ localWire globalWire, ip.initialBasicWire = .ok (localWire, globalWire) → ∀ a ∈ args,
    (evaluate models ip.toSettings cell localWire globalWire a).invalid = false →
      (evaluate models ip.toSettings cell localWire globalWire a).toFunctionUnit.IsProper

section Pass

variable [IsStrictOrderedRing K] {models : Models K} {settings : Settings K}
  {memoryType : MemoryType} {cell : MemCell K}

omit [IsStrictOrderedRing K] in
theorem FunctionUnit.IsProper.allow {u : FunctionUnit K} (h : u.IsProper) :
    (Limits.unconstrained : Limits K).Allow u :=
  ⟨h.readLatency.2.le, h.writeLatency.2.le, h.readDynamicEnergy.2.le, h.writeDynamicEnergy.2.le,
    h.readEdp.le, h.writeEdp.le, h.area.2.le, h.leakage.2.le⟩

variable (models settings memoryType) in
omit [IsStrictOrderedRing K] in
/-- The refinement makes no objective worse. -/
theorem RefineState.objective_run_le (steps : List RefineStep) (s : RefineState K)
    (target : OptimizationTarget) :
    ((s.run models settings memoryType steps).results target).objective ≤
      (s.results target).objective := by
  have htry (s : RefineState K) (tried : OptimizationTarget) :
      ((s.tryAndUpdate models settings memoryType tried).results target).objective ≤
        (s.results target).objective := by
    rw [results_tryAndUpdate]
    by_cases heq : target = tried
    · subst heq
      rw [Function.update_self]
      exact Result.objective_compareAndUpdate_le _ _
    · rw [Function.update_of_ne heq]
  induction steps generalizing s with
  | nil => exact le_rfl
  | cons st steps ih =>
      refine (ih _).trans ?_
      cases st with
      | localWire kind => exact le_rfl
      | globalWire kind => exact le_rfl
      | refineLocal tried => exact htry (s.loadGlobalWire settings tried) tried
      | refineGlobal tried => exact htry (s.loadLocalWire settings tried) tried

variable (models memoryType) in
omit [IsStrictOrderedRing K] in
theorem objective_refineWires_le (ip : InputParameter K) (localWire globalWire : Wire)
    (s : SearchState K) (target : OptimizationTarget) :
    ((refineWires models ip memoryType localWire globalWire s).results target).objective ≤
      (s.results target).objective := by
  unfold refineWires
  split
  · exact RefineState.objective_run_le models ip.toSettings memoryType _ _ target
  · exact le_rfl

omit [LinearOrder K] [IsStrictOrderedRing K] in
theorem Result.Empty.objective_eq {r : Result K} (h : r.Empty) :
    r.objective = worstObjective r.optimizationTarget := by
  unfold Result.objective worstObjective
  rw [h.bank]

section Candidates

variable {ip : InputParameter K} {localWire globalWire : Wire} {args : List BankParams}
  {s : SearchState K} {target : OptimizationTarget}

/-- A pass with a solution holds a result below the worst case for every target, which no valid
candidate beats. -/
theorem objective_searchPass (hwires : ip.initialBasicWire = .ok (localWire, globalWire))
    (hproper : ProperCandidates models ip cell args)
    (h : searchPass models ip.toSettings localWire globalWire (fun _ => true) args
      { toBestResults := .fresh, cell := cell } = .ok s) (hpos : s.numSolution ≠ 0)
    (htarget : target ≠ .fullExploration) :
    (s.results target).optimizationTarget = target ∧
      (s.results target).objective < worstObjective target ∧
      ∀ a ∈ args, (evaluate models ip.toSettings cell localWire globalWire a).invalid = false →
        (s.results target).objective ≤
          (evaluate models ip.toSettings cell localWire globalWire a).objective target := by
  have hsolution := (numSolution_searchPass h).1 (Nat.pos_of_ne_zero hpos)
  rcases searchPass_cases models ip.toSettings localWire globalWire (fun _ => true) cell args
    { toBestResults := .fresh, cell := cell } rfl with
    ⟨a, -, -, -, herror⟩ | ⟨-, cell', -, hok⟩
  · rw [herror] at h
    cases h
  rw [hok] at h
  obtain rfl := Except.ok.inj h
  have htargeted : (Pass.unconstrained : Pass K).Targeted := fun _ => rfl
  have hadmissible {a : BankParams} (ha : a ∈ args)
      (hvalid : (evaluate models ip.toSettings cell localWire globalWire a).invalid = false) :
      (Pass.unconstrained : Pass K).Admissible
        (evaluatedDesign models ip.toSettings cell localWire globalWire a) :=
    ⟨hvalid, (hproper localWire globalWire hwires a ha hvalid).allow⟩
  have hresults := Pass.results_run htargeted
    (args.map (evaluatedDesign models ip.toSettings cell localWire globalWire)) target
  show ((Pass.unconstrained.run _).results target).optimizationTarget = target ∧
    ((Pass.unconstrained.run _).results target).objective < _ ∧
      ∀ a ∈ args, _ → ((Pass.unconstrained.run _).results target).objective ≤ _
  rcases hresults with ⟨-, hworst⟩ | ⟨x, hmin, hlt, hx⟩
  · -- one of the candidates was a solution
    obtain ⟨a, ha, hvalid⟩ := hsolution
    have hbetter := (hproper localWire globalWire hwires a ha hvalid).objective_lt htarget
    exact absurd (hworst _ (List.mem_map_of_mem ha) (hadmissible ha hvalid)) (not_le.2 hbetter)
  · rw [hx, Pass.objective_hold htargeted]
    refine ⟨rfl, hlt, fun a ha hvalid => ?_⟩
    exact hmin.le (List.mem_map_of_mem ha) (hadmissible ha hvalid)

variable (ip) in
/-- A pass with a solution and the refinement after it leave a verified design for every target,
which no valid candidate beats. -/
theorem refined_pass_best (hwires : ip.initialBasicWire = .ok (localWire, globalWire))
    (hargs : ∀ a ∈ args, a.internalSenseAmp = ip.internalSensing ∧ a.memoryType = memoryType)
    (hproper : ProperCandidates models ip cell args)
    (h : searchPass models ip.toSettings localWire globalWire (fun _ => true) args
      { toBestResults := .fresh, cell := cell } = .ok s) (hpos : s.numSolution ≠ 0)
    (htarget : target ≠ .fullExploration) :
    ((refineWires models ip memoryType localWire globalWire s).results target).Verified models
        ip.toSettings memoryType cell ∧
      ∀ a ∈ args, (evaluate models ip.toSettings cell localWire globalWire a).invalid = false →
        ((refineWires models ip memoryType localWire globalWire s).results target).objective ≤
          (evaluate models ip.toSettings cell localWire globalWire a).objective target := by
  obtain ⟨htargeted, hlt, hle⟩ := objective_searchPass hwires hproper h hpos htarget
  have hrefined := objective_refineWires_le models memoryType ip localWire globalWire s target
  refine ⟨?_, fun a ha hvalid => hrefined.trans (hle a ha hvalid)⟩
  rcases sound_refined_searchPass ip hwires hargs h target with hempty | hverified
  · -- an empty result has the worst objective
    have hworst := hempty.objective_eq
    rw [optimizationTarget_refineWires, htargeted] at hworst
    exact absurd hworst (hrefined.trans_lt hlt).ne
  · exact hverified

end Candidates

/-! ## The phases -/

variable {ip : InputParameter K} {s : SearchState K} {target : OptimizationTarget}

/-- The design of a target after the tag phase: it is verified, and no candidate is better. -/
structure BestTag (models : Models K) (ip : InputParameter K) (cell : MemCell K)
    (target : OptimizationTarget) (d : Design K) : Prop where
  checked : d.Checked models ip.toSettings .tag cell
  best : ∃ localWire globalWire args,
    ip.reduceSearchSize.initialBasicWire = .ok (localWire, globalWire) ∧
    ip.tagCandidates = .ok args ∧
    ∀ a ∈ args, (evaluate models ip.toSettings cell localWire globalWire a).invalid = false →
      d.bank.objective target ≤
        (evaluate models ip.toSettings cell localWire globalWire a).objective target

/-- No tag candidate is valid. -/
def NoTag (models : Models K) (ip : InputParameter K) (cell : MemCell K) : Prop :=
  ∃ localWire globalWire args,
    ip.reduceSearchSize.initialBasicWire = .ok (localWire, globalWire) ∧
    ip.tagCandidates = .ok args ∧
    ∀ a ∈ args, (evaluate models ip.toSettings cell localWire globalWire a).invalid = true

omit [IsStrictOrderedRing K] in
theorem numSolution_refined {localWire globalWire : Wire} {s : SearchState K} :
    (refineWires models ip memoryType localWire globalWire s).numSolution = s.numSolution := by
  unfold refineWires
  split
  · rfl
  · rfl

/-- What the tag phase leaves. -/
theorem tagPhase_best (h : tagPhase models ip cell = .ok s)
    (hproper : ∀ args, ip.tagCandidates = .ok args →
      ProperCandidates models ip.reduceSearchSize cell args)
    (htarget : target ≠ .fullExploration) :
    s.numSolution = 0 ∧ NoTag models ip cell ∨
      s.numSolution ≠ 0 ∧ BestTag models ip cell target (s.results target).toDesign := by
  rw [tagPhase_eq] at h
  obtain ⟨⟨localWire, globalWire⟩, hwires, h⟩ := bind_eq_ok.1 h
  obtain ⟨args, hargs, h⟩ := bind_eq_ok.1 h
  obtain ⟨s', hpass, h⟩ := bind_eq_ok.1 h
  obtain rfl := Except.ok.inj h
  rw [numSolution_refined]
  by_cases hpos : s'.numSolution = 0
  · refine .inl ⟨hpos, localWire, globalWire, args, hwires, hargs, fun a ha => ?_⟩
    by_contra hvalid
    have hsome := (numSolution_searchPass hpass).2 ⟨a, ha, eq_false_of_ne_true hvalid⟩
    omega
  · obtain ⟨hverified, hle⟩ := refined_pass_best ip.reduceSearchSize hwires
      (tagCandidates_args hargs) (hproper args hargs) hpass hpos htarget
    have htargeted := (objective_searchPass hwires (hproper args hargs) hpass hpos htarget).1
    refine .inr ⟨hpos, hverified.checked, localWire, globalWire, args, hwires, hargs, ?_⟩
    intro a ha hvalid
    have hobjective := hle a ha hvalid
    unfold Result.objective at hobjective
    rwa [optimizationTarget_refineWires, htargeted] at hobjective

/-- The values that the last pass of the data phase allows, after the search `s`. -/
def LastAllows (ip : InputParameter K) (s : SearchState K) (u : FunctionUnit K) : Prop :=
  ip.isConstraintApplied = true → (allowedLimits ip.toSettings s.results).Allow u

/-- The design of a target after the data phase: it is verified, the last pass allows it, and no
candidate that this pass allows is better. -/
structure BestData (models : Models K) (ip : InputParameter K) (cell : MemCell K)
    (target : OptimizationTarget) (d : Design K) : Prop where
  checked : d.Checked models ip.toSettings .data cell
  best : ∃ s args localWire globalWire, dataSearch models ip cell = .ok (s, args) ∧
    ip.initialBasicWire = .ok (localWire, globalWire) ∧ LastAllows ip s d.bank.toFunctionUnit ∧
    ∀ a ∈ args, (evaluate models ip.toSettings cell localWire globalWire a).invalid = false →
      LastAllows ip s
        (evaluate models ip.toSettings cell localWire globalWire a).toFunctionUnit →
      d.bank.objective target ≤
        (evaluate models ip.toSettings cell localWire globalWire a).objective target

/-- The last pass of the data phase allows no valid candidate. -/
def NoData (models : Models K) (ip : InputParameter K) (cell : MemCell K) : Prop :=
  ∃ s args localWire globalWire, dataSearch models ip cell = .ok (s, args) ∧
    ip.initialBasicWire = .ok (localWire, globalWire) ∧
    ∀ a ∈ args, (evaluate models ip.toSettings cell localWire globalWire a).invalid = false →
      ¬ LastAllows ip s
        (evaluate models ip.toSettings cell localWire globalWire a).toFunctionUnit

omit [IsStrictOrderedRing K] in
/-- The pass with design constraints finds a solution exactly if some candidate is valid and
allowed. -/
theorem numSolution_constrainedPass {s₀ : SearchState K} {args : List BankParams}
    {localWire globalWire : Wire} (hsearch : dataSearch models ip cell = .ok (s₀, args))
    (hwires : ip.initialBasicWire = .ok (localWire, globalWire))
    (h : constrainedPass models ip args s₀ = .ok s) :
    0 < s.numSolution ↔ ∃ a ∈ args,
      (evaluate models ip.toSettings cell localWire globalWire a).invalid = false ∧
        (allowedLimits ip.toSettings s₀.results).Allow
          (evaluate models ip.toSettings cell localWire globalWire a).toFunctionUnit := by
  obtain ⟨localWire', globalWire', s', hwires', hpass, hrun⟩ := constrainedPass_ok hsearch
  rw [h] at hpass
  obtain rfl := Except.ok.inj hpass
  rw [hwires] at hwires'
  obtain ⟨rfl, rfl⟩ := Prod.mk.inj (Except.ok.inj hwires')
  rw [hrun, Pass.numSolution_run_constrained]
  constructor
  · rintro ⟨x, hx, hvalid, hallowed⟩
    obtain ⟨a, ha, rfl⟩ := List.mem_map.1 hx
    exact ⟨a, ha, hvalid, hallowed⟩
  · rintro ⟨a, ha, hvalid, hallowed⟩
    exact ⟨_, List.mem_map_of_mem ha, hvalid, hallowed⟩

/-- If it finds a solution, its result is the evaluation of a candidate that it allows, and no
such candidate is better. -/
theorem constrainedPass_attained {s₀ : SearchState K} {args : List BankParams}
    {localWire globalWire : Wire} (hsearch : dataSearch models ip cell = .ok (s₀, args))
    (hwires : ip.initialBasicWire = .ok (localWire, globalWire))
    (h : constrainedPass models ip args s₀ = .ok s) (hproper : ProperCandidates models ip cell args)
    (hpos : 0 < s.numSolution) (htarget : target ≠ .fullExploration) :
    (s.results target).optimizationTarget = target ∧
      ∃ a ∈ args, (evaluate models ip.toSettings cell localWire globalWire a).invalid = false ∧
        (allowedLimits ip.toSettings s₀.results).Allow
          (evaluate models ip.toSettings cell localWire globalWire a).toFunctionUnit ∧
        (s.results target).toDesign =
          evaluatedDesign models ip.toSettings cell localWire globalWire a ∧
        ∀ b ∈ args, (evaluate models ip.toSettings cell localWire globalWire b).invalid = false →
          (allowedLimits ip.toSettings s₀.results).Allow
              (evaluate models ip.toSettings cell localWire globalWire b).toFunctionUnit →
            (evaluate models ip.toSettings cell localWire globalWire a).objective target ≤
              (evaluate models ip.toSettings cell localWire globalWire b).objective target := by
  obtain ⟨a₀, ha₀, hvalid₀, hallowed₀⟩ := (numSolution_constrainedPass hsearch hwires h).1 hpos
  obtain ⟨localWire', globalWire', s', hwires', hpass, hrun⟩ := constrainedPass_ok hsearch
  rw [h] at hpass
  obtain rfl := Except.ok.inj hpass
  rw [hwires] at hwires'
  obtain ⟨rfl, rfl⟩ := Prod.mk.inj (Except.ok.inj hwires')
  obtain ⟨-, -, -, -, htargets, -⟩ := dataSearch_ok hsearch
  have htargeted :
      (Pass.constrained (allowedLimits ip.toSettings s₀.results) s₀.results).Targeted := htargets
  rw [hrun]
  rcases Pass.results_run htargeted
    (args.map (evaluatedDesign models ip.toSettings cell localWire globalWire)) target with
    ⟨-, hworst⟩ | ⟨x, hmin, -, hx⟩
  · -- an admissible candidate is below the worst case
    have hbetter := (hproper localWire globalWire hwires a₀ ha₀ hvalid₀).objective_lt htarget
    exact absurd (hworst _ (List.mem_map_of_mem ha₀) ⟨hvalid₀, hallowed₀⟩) (not_le.2 hbetter)
  · obtain ⟨a, ha, rfl⟩ := List.mem_map.1 hmin.mem
    obtain ⟨hvalid, hallowed⟩ := hmin.isAdmissible
    rw [hx]
    exact ⟨htargets target, a, ha, hvalid, hallowed, rfl, fun b hb hvalid' hallowed' =>
      hmin.le (List.mem_map_of_mem hb) ⟨hvalid', hallowed'⟩⟩

/-- What the pass with design constraints leaves. -/
theorem constrainedPass_best {s₀ : SearchState K} {args : List BankParams}
    (hsearch : dataSearch models ip cell = .ok (s₀, args))
    (h : constrainedPass models ip args s₀ = .ok s) (hargs : ∀ a ∈ args, a.memoryType = .data)
    (hproper : ProperCandidates models ip cell args) (happlied : ip.isConstraintApplied = true)
    (htarget : target ≠ .fullExploration) :
    s.numSolution = 0 ∧ NoData models ip cell ∨
      s.numSolution ≠ 0 ∧ BestData models ip cell target (s.results target).toDesign := by
  obtain ⟨localWire, globalWire, hwires, -, -, hstored⟩ := dataSearch_ok hsearch
  by_cases hpos : s.numSolution = 0
  · refine .inl ⟨hpos, s₀, args, localWire, globalWire, hsearch, hwires, ?_⟩
    intro a ha hvalid hallowed
    have hsome := (numSolution_constrainedPass hsearch hwires h).2
      ⟨a, ha, hvalid, hallowed happlied⟩
    omega
  · obtain ⟨-, a, ha, hvalid, hallowed, hdesign, hle⟩ := constrainedPass_attained hsearch hwires h
      hproper (Nat.pos_of_ne_zero hpos) htarget
    rw [hdesign]
    exact .inr ⟨hpos, checked_evaluatedDesign (hargs a ha) hvalid (hstored a ha hvalid), s₀, args,
      localWire, globalWire, hsearch, hwires, fun _ => hallowed, fun b hb hvalid' hallowed' =>
        hle b hb hvalid' (hallowed' happlied)⟩

omit [IsStrictOrderedRing K] in
theorem dataCandidates_of_dataSearch {args : List BankParams}
    (hsearch : dataSearch models ip cell = .ok (s, args)) :
    ip.dataCandidates cell.memCellType = .ok args := by
  unfold dataSearch at hsearch
  obtain ⟨_, -, hsearch⟩ := bind_eq_ok.1 hsearch
  obtain ⟨args', hargs, hsearch⟩ := bind_eq_ok.1 hsearch
  obtain ⟨_, -, hsearch⟩ := bind_eq_ok.1 hsearch
  obtain ⟨-, rfl⟩ := Prod.mk.inj (Except.ok.inj hsearch)
  exact hargs

/-- What the search without design constraints leaves. -/
theorem dataSearch_best {args : List BankParams} {localWire globalWire : Wire}
    (hsearch : dataSearch models ip cell = .ok (s, args))
    (hwires : ip.initialBasicWire = .ok (localWire, globalWire))
    (hproper : ProperCandidates models ip cell args) (htarget : target ≠ .fullExploration) :
    s.numSolution = 0 ∧
        (∀ a ∈ args, (evaluate models ip.toSettings cell localWire globalWire a).invalid = true) ∨
      s.numSolution ≠ 0 ∧ (s.results target).optimizationTarget = target ∧
        (s.results target).Verified models ip.toSettings .data cell ∧
        ∀ a ∈ args, (evaluate models ip.toSettings cell localWire globalWire a).invalid = false →
          (s.results target).objective ≤
            (evaluate models ip.toSettings cell localWire globalWire a).objective target := by
  unfold dataSearch at hsearch
  obtain ⟨wires, hwires', hsearch⟩ := bind_eq_ok.1 hsearch
  rw [hwires] at hwires'
  obtain rfl := Except.ok.inj hwires'
  obtain ⟨args', hargs, hsearch⟩ := bind_eq_ok.1 hsearch
  obtain ⟨s₁, hpass, hsearch⟩ := bind_eq_ok.1 hsearch
  obtain ⟨rfl, rfl⟩ := Prod.mk.inj (Except.ok.inj hsearch)
  rw [numSolution_refined]
  by_cases hpos : s₁.numSolution = 0
  · refine .inl ⟨hpos, fun a ha => ?_⟩
    by_contra hvalid
    have hsome := (numSolution_searchPass hpass).2 ⟨a, ha, eq_false_of_ne_true hvalid⟩
    omega
  · obtain ⟨hverified, hle⟩ :=
      refined_pass_best ip hwires (dataCandidates_args hargs) hproper hpass hpos htarget
    have htargeted := (objective_searchPass hwires hproper hpass hpos htarget).1
    refine .inr ⟨hpos, ?_, hverified, hle⟩
    rw [optimizationTarget_refineWires, htargeted]

/-- What the data phase leaves. -/
theorem dataPhase_best (h : dataPhase models ip cell = .ok s)
    (hfull : ip.optimizationTarget ≠ .fullExploration)
    (hproper : ∀ args, ip.dataCandidates cell.memCellType = .ok args →
      ProperCandidates models ip cell args)
    (htarget : target ≠ .fullExploration) :
    s.numSolution = 0 ∧ NoData models ip cell ∨
      s.numSolution ≠ 0 ∧ BestData models ip cell target (s.results target).toDesign := by
  unfold dataPhase at h
  obtain ⟨⟨s₀, args⟩, hsearch, h⟩ := bind_eq_ok.1 h
  have hargs := dataCandidates_of_dataSearch hsearch
  dsimp only at h
  split at h
  · next hconstraint =>
      exact constrainedPass_best hsearch h (fun a ha => (dataCandidates_args hargs a ha).2)
        (hproper args hargs) hconstraint.2 htarget
-- without constraints the refined results are the last ones
  · next hunconstrained =>
      have hnone : ¬ ip.isConstraintApplied = true := fun happlied =>
        hunconstrained ⟨hfull, happlied⟩
      obtain rfl := Except.ok.inj h
      obtain ⟨localWire, globalWire, hwires, -⟩ := dataSearch_ok hsearch
      rcases dataSearch_best hsearch hwires (hproper args hargs) htarget with
        ⟨hzero, hinvalid⟩ | ⟨hpos, htargeted, hverified, hle⟩
      · refine .inl ⟨hzero, _, _, localWire, globalWire, hsearch, hwires, fun a ha hvalid => ?_⟩
        rw [hinvalid a ha] at hvalid
        cases hvalid
      · refine .inr ⟨hpos, hverified.checked, _, _, localWire, globalWire, hsearch, hwires,
          fun happlied => absurd happlied hnone, fun a ha hvalid _ => ?_⟩
        have hobjective := hle a ha hvalid
        unfold Result.objective at hobjective
        rwa [htargeted] at hobjective

omit [IsStrictOrderedRing K] in
/-- A design that was verified has stored its memory type. -/
theorem Design.Checked.memoryType_eq {settings : Settings K} {d : Design K}
    (h : d.Checked models settings memoryType cell) (unset : Design K → MemoryType) :
    d.memoryType cell.memCellType settings.routingMode unset = memoryType := by
  have hvalid := h.valid
  rw [← h.evaluated] at hvalid
  have hstored := stored_evaluatedDesign hvalid
  unfold evaluatedDesign at hstored
  rw [h.evaluated] at hstored
  unfold Design.memoryType
  rw [if_pos hstored]
  exact h.hasType

end Pass

/-! ## The report -/

/-- What a report of a run says about the search: a design that is printed is the best one and
is confirmed by the circuits, and where none is printed there is none. -/
def Report.Backed [FloorRing K] (c : Circuits K) (ip : InputParameter K) (cell : MemCell K) :
    Report K → Prop
  | .noTags => ip.designTarget = .cache ∧ NoTag c.models ip cell
  | .noSolutions => NoData c.models ip cell
  | .noCache => False
  | .memory data =>
      ip.designTarget ≠ .cache ∧ c.Confirms .data data ∧
        BestData c.models ip cell ip.optimizationTarget data
  | .cache data tag =>
      ip.designTarget = .cache ∧ c.Confirms .data data ∧ c.Confirms .tag tag ∧
        BestData c.models ip cell ip.optimizationTarget data ∧
        BestTag c.models ip cell ip.optimizationTarget tag

section Run

variable [FloorRing K] [IsStrictOrderedRing K] {c : Circuits K} {ip : InputParameter K}
  {cell : MemCell K} {unset : Design K → MemoryType} {tags : Results K} {s : SearchState K}

/-- The report after the data phase of a RAM. -/
theorem backed_memory (hsettings : c.globals.inputParameter = ip.toSettings)
    (hcell : cell.memoised c.globals.tech.vdd = c.globals.cell.toMemCell) (hpitched : c.Pitched)
    (hassigned : c.globals.cell.toMemCell.Assigned)
    (hfeature : c.globals.tech.featureSize * 2 < 1) (hram : ip.designTarget ≠ .cache)
    (h : s.numSolution = 0 ∧ NoData c.models ip cell ∨ s.numSolution ≠ 0 ∧
      BestData c.models ip cell ip.optimizationTarget
        (s.results ip.optimizationTarget).toDesign) :
    (report ip.toSettings cell.memCellType unset tags s.toBestResults).Backed c ip cell := by
  unfold report
  dsimp only
  rcases h with ⟨hzero, hnone⟩ | ⟨hpos, hbest⟩
  · rw [if_pos hzero]
    exact hnone
  · rw [if_neg hpos, if_neg hram]
    have hconfirms :=
      Circuits.confirms_of_checked hcell hpitched hassigned hfeature hsettings hbest.checked
    exact ⟨hram, hconfirms, hbest⟩

/-- The report after the data phase of a cache whose tag phase has found a solution. -/
theorem backed_cache (hsettings : c.globals.inputParameter = ip.toSettings)
    (hcell : cell.memoised c.globals.tech.vdd = c.globals.cell.toMemCell) (hpitched : c.Pitched)
    (hassigned : c.globals.cell.toMemCell.Assigned)
    (hfeature : c.globals.tech.featureSize * 2 < 1) (hcache : ip.designTarget = .cache)
    (htag : BestTag c.models ip cell ip.optimizationTarget
      (tags ip.optimizationTarget).toDesign)
    (h : s.numSolution = 0 ∧ NoData c.models ip cell ∨ s.numSolution ≠ 0 ∧
      BestData c.models ip cell ip.optimizationTarget
        (s.results ip.optimizationTarget).toDesign) :
    (report ip.toSettings cell.memCellType unset tags s.toBestResults).Backed c ip cell := by
  unfold report
  dsimp only
  rcases h with ⟨hzero, hnone⟩ | ⟨hpos, hbest⟩
  · rw [if_pos hzero]
    exact hnone
  · rw [if_neg hpos, if_pos hcache, hbest.checked.memoryType_eq unset,
      htag.checked.memoryType_eq unset, if_neg (by simp)]
    have hdata :=
      Circuits.confirms_of_checked hcell hpitched hassigned hfeature hsettings hbest.checked
    have htags :=
      Circuits.confirms_of_checked hcell hpitched hassigned hfeature hsettings htag.checked
    exact ⟨hcache, hdata, htags, hbest, htag⟩

/-- Whatever a run for one target prints is backed by its search, unless the cells are an embedded
DRAM or are accessed through bipolar transistors.  A design that it prints is confirmed by the
circuits, is within the allowed values of the design constraints, and no
candidate of the last pass is better; in a cache this holds of both arrays, and the data array
is the one that is found without the tag search.  The run never complains about the cache
configuration, and it prints no design only if there is no valid candidate to choose. -/
theorem main_prints_best (c : Circuits K) (unset : Design K → MemoryType)
    (file : List (ConfigLine K)) (capacity wordWidth : ℕ) (deviceRoadmap : DeviceRoadmap)
    (fileMemCell : String) (temperature : ℤ) (space : SearchSpace)
    (hcell : cell.memoised c.globals.tech.vdd = c.globals.cell.toMemCell) (hpitched : c.Pitched)
    (heDRAM : c.globals.cell.memCellType ≠ .eDRAM) (haccess : ¬ c.globals.BipolarAccess)
    (hfeature : c.globals.tech.featureSize * 2 < 1)
    (hconfigure : configure file cell.memCellType
      { toSettings := .new capacity wordWidth deviceRoadmap fileMemCell temperature
        toSearchSpace := space } = .ok ip)
    (hfull : ip.optimizationTarget ≠ .fullExploration)
    (hdata : ∀ args, ip.dataCandidates cell.memCellType = .ok args →
      ProperCandidates (c.withSettings ip.toSettings).models ip cell args)
    (htag : ip.designTarget = .cache → ∀ args, ip.tagCandidates = .ok args →
      ProperCandidates (c.withSettings ip.toSettings).models ip.reduceSearchSize cell args)
    {r : Report K}
    (h : runMain (fun settings => (c.withSettings settings).models) unset file
      { toSettings := .new capacity wordWidth deviceRoadmap fileMemCell temperature
        toSearchSpace := space } cell = .ok r) :
    r.Backed (c.withSettings ip.toSettings) ip cell := by
  have hpitched' : (c.withSettings ip.toSettings).Pitched := ⟨hpitched.1, hpitched.2, hpitched.3⟩
  have hcellType : cell.memCellType = c.globals.cell.memCellType := by
    rw [← hcell, MemCell.memCellType_memoised]
  have hassigned : c.globals.cell.toMemCell.Assigned := by
    rw [hcellType] at hconfigure
    exact assigned_of_configure hconfigure heDRAM haccess
  unfold runMain at h
  rw [hconfigure] at h
  dsimp only [bind, Except.bind] at h
  split at h
  · next hcache =>
    obtain ⟨-, hconstraint⟩ := configure_cache hconfigure hcache
    obtain ⟨hrows, n, hn, hagain⟩ := configure_again rfl rfl rfl hconfigure hcache
    split at h
    · cases h
    next tags htags =>
    rcases tagPhase_best htags (htag hcache) hfull with ⟨hzero, hnone⟩ | ⟨hpos, hbest⟩
    · rw [if_pos hzero] at h
      obtain rfl := Except.ok.inj h
      exact ⟨hcache, hnone⟩
    rw [if_neg hpos, hagain] at h
    have hsame := dataPhase_same hconstraint hrows hn (memoised_tagPhase htags) rfl
    -- the second configuration has the same settings
    dsimp only at h
    split at h
    · cases h
    next s' hphase =>
    rw [hphase] at hsame
    obtain ⟨halt, hleft, -⟩ | ⟨s, t, hleft, hright, hst⟩ := hsame.cases
    · cases hleft
    obtain rfl := Except.ok.inj hleft
    obtain rfl := Except.ok.inj h
    rw [hst.best]
    exact backed_cache rfl hcell hpitched' hassigned hfeature hcache hbest
      (dataPhase_best hright hfull hdata hfull)
  · next hram =>
    split at h
    · cases h
    next s hphase =>
    obtain rfl := Except.ok.inj h
    exact backed_memory rfl hcell hpitched' hassigned hfeature hram
      (dataPhase_best hphase hfull hdata hfull)

end Run

/-- The small RAM of the exploration as a file that asks for the smallest area. -/
def smallRun : List (ConfigLine ℚ) :=
  smallExploration ++ [.optimizationTarget "Area"]

instance (u : FunctionUnit ℚ) : Decidable u.IsProper :=
  decidable_of_iff
    ((0 ≤ u.readLatency ∧ u.readLatency < worstCase) ∧
      (0 ≤ u.writeLatency ∧ u.writeLatency < worstCase) ∧
      (0 ≤ u.readDynamicEnergy ∧ u.readDynamicEnergy < worstCase) ∧
      (0 ≤ u.writeDynamicEnergy ∧ u.writeDynamicEnergy < worstCase) ∧
      (0 ≤ u.area ∧ u.area < worstCase) ∧ (0 ≤ u.leakage ∧ u.leakage < worstCase) ∧
      u.readLatency * u.readDynamicEnergy < worstCase ∧
      u.writeLatency * u.writeDynamicEnergy < worstCase)
    ⟨fun ⟨h₁, h₂, h₃, h₄, h₅, h₆, h₇, h₈⟩ => ⟨h₁, h₂, h₃, h₄, h₅, h₆, h₇, h₈⟩,
      fun ⟨h₁, h₂, h₃, h₄, h₅, h₆, h₇, h₈⟩ => ⟨h₁, h₂, h₃, h₄, h₅, h₆, h₇, h₈⟩⟩

/-- The inputs of the search of the small RAM, and what is printed. -/
def smallPrinted (ip : InputParameter ℚ) :
    Except Halt ((Wire × Wire) × List BankParams × Report ℚ) := do
  let wires ← ip.initialBasicWire
  let args ← ip.dataCandidates .sram
  let r ← runMain (fun settings => (Circuits.fine.withSettings settings).models)
    (fun _ => .data) smallRun
    { toSettings := .new 0 0 .hp "" 300, toSearchSpace := .reduced }
    Circuits.fine.globals.cell.toMemCell
  .ok (wires, args, r)

/-- Whether all candidates of the search are proper, and whether a memory is printed. -/
def printedSummary (ip : InputParameter ℚ)
    (run : (Wire × Wire) × List BankParams × Report ℚ) : Bool × Bool :=
  (run.2.1.all fun a =>
    (evaluate (Circuits.fine.withSettings ip.toSettings).models ip.toSettings
      Circuits.fine.globals.cell.toMemCell run.1.1 run.1.2 a).toFunctionUnit.IsProper,
    match run.2.2 with
    | .memory _ => true
    | _ => false)

theorem main_prints_best_small :
    ∃ ip data, ip.optimizationTarget = .areaOptimized ∧
      runMain (fun settings => (Circuits.fine.withSettings settings).models) (fun _ => .data)
        smallRun { toSettings := .new 0 0 .hp "" 300, toSearchSpace := .reduced }
        Circuits.fine.globals.cell.toMemCell = .ok (.memory data) ∧
      (Report.memory data).Backed (Circuits.fine.withSettings ip.toSettings) ip
        Circuits.fine.globals.cell.toMemCell := by
  have hread : (configure smallRun .sram
      { toSettings := .new 0 0 .hp "" 300, toSearchSpace := .reduced }).toOption.map
        (fun ip => ((ip.designTarget, ip.optimizationTarget),
          (smallPrinted ip).toOption.map (printedSummary ip))) =
      some ((.ramChip, .areaOptimized), some (true, true)) := by decide +kernel
  obtain ⟨ip, hconfigure, hip⟩ := Option.map_eq_some_iff.1 hread
  simp only [Prod.mk.injEq] at hip
  obtain ⟨⟨hram, harea⟩, hsummary⟩ := hip
  obtain ⟨⟨⟨localWire, globalWire⟩, args, r⟩, hok, hsummary⟩ := Option.map_eq_some_iff.1 hsummary
  obtain ⟨wires, hwires, hok⟩ := bind_eq_ok.1 (toOption_eq_some_iff.1 hok)
  obtain ⟨args', hargs, hok⟩ := bind_eq_ok.1 hok
  obtain ⟨r', hrun, hok⟩ := bind_eq_ok.1 hok
  obtain ⟨rfl, hrest⟩ := Prod.mk.inj (Except.ok.inj hok)
  obtain ⟨rfl, rfl⟩ := Prod.mk.inj hrest
  obtain ⟨hproper, hmemory⟩ := Prod.mk.inj hsummary
  have hdata (args : List BankParams) (h : ip.dataCandidates .sram = .ok args) :
      ProperCandidates (Circuits.fine.withSettings ip.toSettings).models ip
        Circuits.fine.globals.cell.toMemCell args := by
    intro localWire' globalWire' hwires' a ha _
    rw [hwires] at hwires'
    obtain ⟨rfl, rfl⟩ := Prod.mk.inj (Except.ok.inj hwires')
    rw [hargs] at h
    obtain rfl := Except.ok.inj h
    exact of_decide_eq_true (List.all_eq_true.1 hproper a ha)
  cases r' with
  | memory data =>
    refine ⟨ip, data, harea, hrun, ?_⟩
    exact main_prints_best .fine (fun _ => .data) smallRun 0 0 .hp "" 300 .reduced rfl
      Circuits.pitched_fine (by decide) (fun haccess => by cases haccess.2)
      Circuits.featureSize_fine (toOption_eq_some_iff.1 hconfigure) (by rw [harea]; decide) hdata
      (fun hcache => absurd hcache (by rw [hram]; decide)) hrun
  | noTags => cases hmemory
  | noSolutions => cases hmemory
  | noCache => cases hmemory
  | cache _ _ => cases hmemory

end NVSim
