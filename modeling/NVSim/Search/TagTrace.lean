import NVSim.Search.DataCandidates
import NVSim.Search.Constraints
import NVSim.Search.Reread
import NVSim.Search.TagCapacity

/-!
# The tag search leaves no trace

What the tag search leaves behind are write energies stored in the memory cell, which
every evaluation stores anyway, and a search space that allows several rows per set.
The candidates with several rows per set are invalid in all access modes, so the data
phase finds the same results as without a tag search.
-/

namespace NVSim

open Library

/-! ## The wider search space -/

theorem mapM_map {α β : Type} (g : α → β) (body : ℕ → Option α) (ns : List ℕ) :
    ns.mapM (fun n => (body n).map g) = (ns.mapM body).map (List.map g) := by
  induction ns with
  | nil => rfl
  | cons n ns ih =>
      rw [List.mapM_cons, List.mapM_cons, ih]
      cases body n with
      | none => rfl
      | some x =>
          cases ns.mapM body with
          | none => rfl
          | some xs => rfl

/-- Filtering what a loop enumerates is filtering what its body enumerates. -/
theorem map_filter_forDoubling {α : Type} (p : α → Bool) (r : Range)
    (body : ℕ → Option (List α)) :
    (forDoubling r body).map (List.filter p) =
      forDoubling r fun n => (body n).map (List.filter p) := by
  unfold forDoubling
  split
  · rfl
  · split
    · rfl
    · rw [mapM_map, Option.map_map, Option.map_map]
      refine congrArg (fun f => Option.map f _) (funext fun xss => ?_)
      exact List.filter_flatten

theorem map_flatten_mapM_nil {α : Type} {body : ℕ → Option (List α)} (ns : List ℕ)
    (h : ∀ n ∈ ns, body n = some []) : (ns.mapM body).map List.flatten = some [] := by
  induction ns with
  | nil => rfl
  | cons n ns ih =>
      obtain ⟨xss, hxss, hflatten⟩ :=
        Option.map_eq_some_iff.1 (ih fun m hm => h m (List.mem_cons_of_mem n hm))
      rw [List.mapM_cons, h n List.mem_cons_self, hxss]
      exact congrArg some hflatten

/-- A loop from one whose body enumerates nothing for other values. -/
theorem forDoubling_one {α : Type} {body : ℕ → Option (List α)} {m : ℤ} {xs : List α}
    (hm : 1 ≤ m) (hone : body 1 = some xs) (hrest : ∀ n : ℕ, 1 < n → n ≤ m → body n = some []) :
    forDoubling ⟨1, m⟩ body = some xs := by
  obtain ⟨k, hk⟩ : ∃ k, m.toNat = k + 1 := ⟨m.toNat - 1, by omega⟩
  have hstep : doublings (k + 1) (k + 1) 1 = 1 :: doublings (k + 1) k 2 :=
    if_pos (Nat.le_add_left 1 k)
  have hnil := map_flatten_mapM_nil (doublings (k + 1) k 2) fun n hn => by
    obtain ⟨i, -, rfl, hle⟩ := mem_doublings.1 hn
    have hpos := Nat.two_pow_pos i
    exact hrest _ (by omega) (by omega)
  obtain ⟨xss, hxss, hflatten⟩ := Option.map_eq_some_iff.1 hnil
  unfold forDoubling
  rw [if_neg (not_lt.2 hm), if_neg (lt_irrefl 1)]
  show (List.mapM body (doublings m.toNat m.toNat 1)).map List.flatten = some xs
  rw [hk, hstep, List.mapM_cons, hone, hxss]
  show some (xs ++ xss.flatten) = some xs
  rw [hflatten, List.append_nil]

/-- The candidates with one row per set. -/
theorem filter_bigFor (space : SearchSpace) {n associativity : ℤ} (hn : 1 ≤ n)
    (hassoc : 1 ≤ associativity) :
    (bigFor { space with numRowPerSet := ⟨1, n⟩ } associativity).map
        (List.filter fun c => c.numRowPerSet ≤ 1) =
      bigFor { space with numRowPerSet := .only 1 } associativity := by
  unfold bigFor
  simp only [map_filter_forDoubling]
  repeat refine congrArg (forDoubling _) (funext fun _ => ?_)
  -- the innermost two loops, for the values of all others
  refine (forDoubling_one (le_min hn hassoc) ?_ fun m hm _ => ?_).trans
    (forDoubling_one (le_min le_rfl hassoc) rfl fun m hm hle => ?_).symm
  · refine congrArg some (List.filter_eq_self.2 fun c hc => ?_)
    obtain ⟨level, -, rfl⟩ := List.mem_map.1 hc
    exact decide_eq_true le_rfl
  · refine congrArg some (List.filter_eq_nil_iff.2 fun c hc => ?_)
    obtain ⟨level, -, rfl⟩ := List.mem_map.1 hc
    rw [decide_eq_true_iff]
    exact not_le.2 hm
  · have hone := hle.trans (min_le_left _ _)
    exact absurd (Int.ofNat_le.1 hone) (not_le.2 hm)

namespace InputParameter

variable {K : Type}

/-- The search space of the data phase after the tag search. -/
theorem dataSpace_widened {ip : InputParameter K} (hrows : ip.numRowPerSet = .only 1) {n : ℤ}
    (hn : 1 ≤ n) :
    ∃ m : ℤ, 1 ≤ m ∧
      ({ ip with numRowPerSet := ⟨1, n⟩ } : InputParameter K).dataSpace =
        { ip.dataSpace with numRowPerSet := ⟨1, m⟩ } ∧
      ip.dataSpace = { ip.dataSpace with numRowPerSet := .only 1 } ∧
      (ip.designTarget = .cache ∧ ip.cacheAccessMode = .normalAccessMode → m = 1) := by
  unfold dataSpace
  by_cases hmode : ip.designTarget = .cache ∧ ip.cacheAccessMode = .normalAccessMode
  · refine ⟨1, le_rfl, ?_, ?_, fun _ => rfl⟩
    · rw [if_pos hmode, if_pos hmode]
      rfl
    · rw [if_pos hmode]
  · refine ⟨n, hn, ?_, ?_, fun h => absurd h hmode⟩
    · rw [if_neg hmode, if_neg hmode]
    · rw [if_neg hmode, ← hrows]

/-- The candidates without a tag search are those with one row per set. -/
theorem dataCandidates_widened {ip : InputParameter K} (hrows : ip.numRowPerSet = .only 1)
    (hassoc : 1 ≤ ip.associativity) {n : ℤ} (hn : 1 ≤ n) (memCellType : MemCellType) :
    ip.dataCandidates memCellType =
      (({ ip with numRowPerSet := ⟨1, n⟩ } : InputParameter K).dataCandidates memCellType).map
        (List.filter fun a => a.numRowPerSet ≤ 1) := by
  obtain ⟨m, hm, hwide, hone, -⟩ := dataSpace_widened hrows hn
  -- both spaces are the same but for the loop over the rows of a set
  have hfilter := filter_bigFor ip.dataSpace hm hassoc
  rw [← hone, ← hwide] at hfilter
  unfold dataCandidates
  rw [← hfilter]
  cases bigFor ({ ip with numRowPerSet := ⟨1, n⟩ } : InputParameter K).dataSpace
      ip.associativity with
  | none => rfl
  | some cs =>
      apply congrArg Except.ok
      dsimp only [toSettings]
      rw [List.filterMap_filter, List.filter_filterMap]
      refine congrArg (List.filterMap · cs) (funext fun c => ?_)
      unfold Candidate.dataArgs
      by_cases hguard :
          (dataArray ip.toSettings memCellType).blockSize / c.numActive = 0
      · simp only [hguard, if_true, ite_self, Option.filter_none]
      · simp only [hguard, if_false, Option.filter_some, Candidate.toBankParams]

end InputParameter

namespace InputParameter

variable {K : Type}

/-- All candidates of the data search are data arrays with the given number of ways. -/
theorem associativity_of_mem {ip : InputParameter K} {memCellType : MemCellType}
    {args : List BankParams} (hargs : ip.dataCandidates memCellType = .ok args) {a : BankParams}
    (ha : a ∈ args) :
    a.associativity = (dataArray ip.toSettings memCellType).associativity ∧
      a.memoryType = .data := by
  unfold dataCandidates at hargs
  cases hspace : bigFor ip.dataSpace ip.associativity with
  | none =>
      rw [hspace] at hargs
      cases hargs
  | some cs =>
      rw [hspace] at hargs
      obtain rfl := Except.ok.inj hargs
      obtain ⟨c, -, hc⟩ := List.mem_filterMap.1 ha
      unfold Candidate.dataArgs at hc
      split at hc
      · cases hc
      · obtain rfl := Option.some.inj hc
        exact ⟨rfl, rfl⟩

end InputParameter

/-! ## Two runs -/

variable {K : Type} [Field K] [LinearOrder K]

/-- No candidate of the data phase with several rows per set is valid, in no access
mode and for no routing. -/
theorem numRowPerSet_le_one {models : Models K} {cell : MemCell K} {localWire globalWire : Wire}
    {ip : InputParameter K} (hconstraint : ip.applyConstraint cell.memCellType = some ip)
    (hrows : ip.numRowPerSet = .only 1) {n : ℤ} (hn : 1 ≤ n) {args : List BankParams}
    (hargs : ({ ip with numRowPerSet := ⟨1, n⟩ } : InputParameter K).dataCandidates
      cell.memCellType = .ok args) {a : BankParams} (ha : a ∈ args)
    (hvalid : (evaluate models ip.toSettings cell localWire globalWire a).invalid = false) :
    a.numRowPerSet ≤ 1 := by
  obtain ⟨hways, hdata⟩ := InputParameter.associativity_of_mem hargs ha
  rw [toBank_evaluate_of_valid hvalid] at hvalid
  refine numRowPerSet_le_one_of_valid hconstraint hways hdata (fun hnormal => ?_) hvalid
  -- with normal access both searches have the same candidates
  obtain ⟨hpow, -⟩ := InputParameter.applyConstraint_eq_some hconstraint
  have hpos := Nat.pos_of_isPowerOfTwo hpow
  obtain ⟨m, -, hwide, hone, hm⟩ := InputParameter.dataSpace_widened hrows hn
  rw [hm hnormal] at hwide
  have hsame : ip.dataCandidates cell.memCellType = .ok args := by
    rw [← hargs]
    unfold InputParameter.dataCandidates
    rw [hwide, hone]
    rfl
  have hfilter := InputParameter.dataCandidates_widened hrows (by omega) hn cell.memCellType
  rw [hsame, hargs] at hfilter
  rw [Except.ok.inj hfilter] at ha
  exact of_decide_eq_true (List.mem_filter.1 ha).2

/-- The same results, with a cell that may have stored its write energies already. -/
structure SearchState.Same (models : Models K) (cell : MemCell K) (s t : SearchState K) :
    Prop where
  best : s.toBestResults = t.toBestResults
  left : s.cell.memoised models.vdd = cell.memoised models.vdd
  right : t.cell.memoised models.vdd = cell.memoised models.vdd

/-- The same halt, or the same results. -/
def SameOutcome (models : Models K) (cell : MemCell K) :
    Except Halt (SearchState K) → Except Halt (SearchState K) → Prop
  | .ok s, .ok t => s.Same models cell t
  | .error e, .error e' => e = e'
  | _, _ => False

namespace SameOutcome

variable {models : Models K} {cell : MemCell K} {r r' : Except Halt (SearchState K)}

theorem cases (h : SameOutcome models cell r r') :
    (∃ halt, r = .error halt ∧ r' = .error halt) ∨
      ∃ s t, r = .ok s ∧ r' = .ok t ∧ s.Same models cell t := by
  cases r with
  | error halt =>
      cases r' with
      | error halt' => exact .inl ⟨halt, rfl, congrArg Except.error h.symm⟩
      | ok t => exact absurd h not_false
  | ok s =>
      cases r' with
      | error halt' => exact absurd h not_false
      | ok t => exact .inr ⟨s, t, rfl, rfl, h⟩

theorem map_eq (h : SameOutcome models cell r r') :
    r.map SearchState.toBestResults = r'.map SearchState.toBestResults := by
  obtain ⟨halt, rfl, rfl⟩ | ⟨s, t, rfl, rfl, hsame⟩ := h.cases
  · rfl
  · exact congrArg Except.ok hsame.best

end SameOutcome

section Same

variable {models : Models K} {cell : MemCell K} {localWire globalWire : Wire}

theorem searchPass_same {settings : Settings K} (allowed : FunctionUnit K → Bool)
    {args : List BankParams} {p : BankParams → Bool}
    (hp : ∀ a ∈ args,
      (evaluate models settings cell localWire globalWire a).invalid = false → p a = true)
    {s t : SearchState K} (hst : s.Same models cell t) :
    SameOutcome models cell (searchPass models settings localWire globalWire allowed args s)
      (searchPass models settings localWire globalWire allowed (args.filter p) t) := by
  have hkept : ∀ a ∈ args,
      keptBy allowed (evaluatedDesign models settings cell localWire globalWire a) = true →
        p a = true := by
    intro a ha h
    unfold keptBy at h
    rw [Bool.and_eq_true, Bool.not_eq_true'] at h
    exact hp a ha h.1
  have hdesigns :
      ((args.filter p).map (evaluatedDesign models settings cell localWire globalWire)).filter
          (keptBy allowed) =
        (args.map (evaluatedDesign models settings cell localWire globalWire)).filter
          (keptBy allowed) := by
    rw [List.filter_map, List.filter_map, List.filter_filter]
    refine congrArg (List.map _) (List.filter_congr fun a ha => ?_)
    rw [Function.comp_apply]
    cases hkeep : keptBy allowed (evaluatedDesign models settings cell localWire globalWire a) with
    | false => rfl
    | true => rw [hkept a ha hkeep, Bool.and_self]
  -- the candidates that are left out are not compared, so neither search exits at one
  rcases searchPass_cases models settings localWire globalWire allowed cell args s hst.left with
    ⟨a, ha, hkeep, hviolation, herror⟩ | ⟨hverified, cell₁, hcell₁, hok⟩
  · rcases searchPass_cases models settings localWire globalWire allowed cell (args.filter p) t
        hst.right with
      ⟨-, -, -, -, herror'⟩ | ⟨hverified', -⟩
    · rw [herror, herror']
      rfl
    · exact absurd (hverified' a (List.mem_filter.2 ⟨ha, hkept a ha hkeep⟩) hkeep) hviolation
  · rcases searchPass_cases models settings localWire globalWire allowed cell (args.filter p) t
        hst.right with
      ⟨a, ha, hkeep, hviolation, -⟩ | ⟨-, cell₂, hcell₂, hok'⟩
    · exact absurd (hverified a (List.mem_filter.1 ha).1 hkeep) hviolation
    · rw [hok, hok', hdesigns]
      refine ⟨?_, hcell₁, hcell₂⟩
      rw [hst.best]

/-- The refinement loops see the energies of the cell only through evaluations. -/
structure RefineState.Same (models : Models K) (s t : RefineState K) : Prop where
  cell : s.cell.memoised models.vdd = t.cell.memoised models.vdd
  localWire : s.localWire = t.localWire
  globalWire : s.globalWire = t.globalWire
  results : s.results = t.results

namespace RefineState

variable (settings : Settings K) (memoryType : MemoryType) {s t : RefineState K}

theorem Same.tryAndUpdate (h : s.Same models t) (target : OptimizationTarget) :
    (s.tryAndUpdate models settings memoryType target).Same models
      (t.tryAndUpdate models settings memoryType target) := by
  have hbank (args : BankParams) :
      (calculate models settings s.cell s.localWire s.globalWire args).1 =
        (calculate models settings t.cell t.localWire t.globalWire args).1 := by
    rw [calculate_eq_evaluate, calculate_eq_evaluate, ← evaluate_memoised, h.cell,
      evaluate_memoised, h.localWire, h.globalWire]
  refine ⟨?_, h.localWire, h.globalWire, ?_⟩
  · unfold RefineState.tryAndUpdate
    dsimp only
    rw [memoised_calculate, memoised_calculate]
    exact h.cell
  · unfold RefineState.tryAndUpdate
    dsimp only
    rw [hbank, h.results, h.localWire, h.globalWire]

theorem Same.step (h : s.Same models t) (st : RefineStep) :
    (s.step models settings memoryType st).Same models
      (t.step models settings memoryType st) := by
  cases st with
  | localWire kind => exact ⟨h.cell, rfl, h.globalWire, h.results⟩
  | globalWire kind => exact ⟨h.cell, h.localWire, rfl, h.results⟩
  | refineLocal target =>
      have hload : (s.loadGlobalWire settings target).Same models
          (t.loadGlobalWire settings target) := by
        refine ⟨h.cell, h.localWire, ?_, h.results⟩
        unfold loadGlobalWire
        rw [h.results]
      exact hload.tryAndUpdate settings memoryType target
  | refineGlobal target =>
      have hload : (s.loadLocalWire settings target).Same models
          (t.loadLocalWire settings target) := by
        refine ⟨h.cell, ?_, h.globalWire, h.results⟩
        unfold loadLocalWire
        rw [h.results]
      exact hload.tryAndUpdate settings memoryType target

theorem Same.run (h : s.Same models t) (steps : List RefineStep) :
    (s.run models settings memoryType steps).Same models
      (t.run models settings memoryType steps) := by
  induction steps generalizing s t with
  | nil => exact h
  | cons st steps ih =>
      have hstep : (s.step models settings memoryType st).Same models
          (t.step models settings memoryType st) := h.step settings memoryType st
      exact ih hstep

end RefineState

theorem refineWires_same {ip : InputParameter K} {memoryType : MemoryType} {s t : SearchState K}
    (h : s.Same models cell t) :
    (refineWires models ip memoryType localWire globalWire s).Same models cell
      (refineWires models ip memoryType localWire globalWire t) := by
  refine ⟨?_, ?_, ?_⟩
  · obtain ⟨best, cell₁⟩ := s
    obtain ⟨best', cell₂⟩ := t
    obtain ⟨hbest, hleft, hright⟩ := h
    dsimp only at hbest hleft hright
    subst hbest
    unfold refineWires
    split
    · have hstart : RefineState.Same models
          { cell := cell₁, localWire := localWire, globalWire := globalWire,
            tempResult := (Result.new .readLatencyOptimized).toDesign, results := best.results }
          { cell := cell₂, localWire := localWire, globalWire := globalWire,
            tempResult := (Result.new .readLatencyOptimized).toDesign, results := best.results } :=
        ⟨hleft.trans hright.symm, rfl, rfl, rfl⟩
      have hrun := hstart.run ip.toSettings memoryType ip.refineSteps
      dsimp only
      rw [hrun.results]
    · rfl
  · rw [memoised_refineWires]
    exact h.left
  · rw [memoised_refineWires]
    exact h.right

/-- The search of the data array after the tag search has more candidates, and ends in
the same way. -/
theorem dataSearch_same {ip : InputParameter K} {s t : MemCell K}
    (hconstraint : ip.applyConstraint cell.memCellType = some ip)
    (hrows : ip.numRowPerSet = .only 1) {n : ℤ} (hn : 1 ≤ n)
    (hs : s.memoised models.vdd = cell.memoised models.vdd)
    (ht : t.memoised models.vdd = cell.memoised models.vdd) :
    (∃ halt, dataSearch models { ip with numRowPerSet := ⟨1, n⟩ } s = .error halt ∧
        dataSearch models ip t = .error halt) ∨
      ∃ s' t' args, dataSearch models { ip with numRowPerSet := ⟨1, n⟩ } s = .ok (s', args) ∧
        dataSearch models ip t = .ok (t', args.filter fun a => a.numRowPerSet ≤ 1) ∧
        s'.Same models cell t' ∧
        ({ ip with numRowPerSet := ⟨1, n⟩ } : InputParameter K).dataCandidates cell.memCellType =
          .ok args := by
  obtain ⟨ip', hip'⟩ : ∃ ip' : InputParameter K, ip' = { ip with numRowPerSet := ⟨1, n⟩ } :=
    ⟨_, rfl⟩
  have hwires : ip'.initialBasicWire = ip.initialBasicWire := by
    rw [hip']
    rfl
  have hsettings : ip'.toSettings = ip.toSettings := by rw [hip']
  have hrefine (localWire globalWire : Wire) :
      refineWires models ip' .data localWire globalWire =
        refineWires models ip .data localWire globalWire := by
    rw [hip']
    rfl
  obtain ⟨hpow, -⟩ := InputParameter.applyConstraint_eq_some hconstraint
  have hpos := Nat.pos_of_isPowerOfTwo hpow
  have hfilter := InputParameter.dataCandidates_widened hrows (by omega) hn cell.memCellType
  have hone {args : List BankParams} (hargs : ip'.dataCandidates cell.memCellType = .ok args)
      {localWire globalWire : Wire} {a : BankParams} (ha : a ∈ args)
      (hvalid : (evaluate models ip.toSettings cell localWire globalWire a).invalid = false) :
      decide (a.numRowPerSet ≤ 1) = true := by
    rw [hip'] at hargs
    exact decide_eq_true (numRowPerSet_le_one hconstraint hrows hn hargs ha hvalid)
  rw [← hip'] at hfilter ⊢
  unfold dataSearch
  rw [hwires, hsettings, MemCell.memCellType_eq_of_memoised hs,
    MemCell.memCellType_eq_of_memoised ht, hfilter]
  cases ip.initialBasicWire with
  | error halt => exact .inl ⟨halt, rfl, rfl⟩
  | ok wires =>
      obtain ⟨localWire, globalWire⟩ := wires
      cases hargs : ip'.dataCandidates cell.memCellType with
      | error halt => exact .inl ⟨halt, rfl, rfl⟩
      | ok args =>
-- the candidates with several rows per set are invalid, so leaving them out changes nothing
          have hpass : SameOutcome models cell
              (searchPass models ip.toSettings localWire globalWire (fun _ => true) args
                { toBestResults := .fresh, cell := s })
              (searchPass models ip.toSettings localWire globalWire (fun _ => true)
                (args.filter fun a => a.numRowPerSet ≤ 1)
                { toBestResults := .fresh, cell := t }) :=
            searchPass_same _ (fun a ha hvalid => hone hargs ha hvalid) ⟨rfl, hs, ht⟩
          dsimp only [bind, Except.bind, Except.map]
          rw [hrefine]
          obtain ⟨halt, hleft, hright⟩ | ⟨s', t', hleft, hright, hsame⟩ := hpass.cases
          · rw [hleft, hright]
            exact .inl ⟨halt, rfl, rfl⟩
          · rw [hleft, hright]
            exact .inr ⟨_, _, args, rfl, rfl, refineWires_same hsame, rfl⟩

/-- The pass with design constraints, too. -/
theorem constrainedPass_same {ip : InputParameter K} {args : List BankParams}
    {p : BankParams → Bool}
    (hp : ∀ localWire globalWire, ∀ a ∈ args,
      (evaluate models ip.toSettings cell localWire globalWire a).invalid = false → p a = true)
    {s t : SearchState K} (h : s.Same models cell t) :
    SameOutcome models cell (constrainedPass models ip args s)
      (constrainedPass models ip (args.filter p) t) := by
  have hresults : s.results = t.results := congrArg BestResults.results h.best
  unfold constrainedPass
  rw [hresults]
  cases ip.initialBasicWire with
  | error halt => rfl
  | ok wires =>
      obtain ⟨localWire, globalWire⟩ := wires
      exact searchPass_same _ (hp localWire globalWire) ⟨rfl, h.left, h.right⟩

/-- The data phase after the tag search, and without it. -/
theorem dataPhase_same {ip : InputParameter K} {s t : MemCell K}
    (hconstraint : ip.applyConstraint cell.memCellType = some ip)
    (hrows : ip.numRowPerSet = .only 1) {n : ℤ} (hn : 1 ≤ n)
    (hs : s.memoised models.vdd = cell.memoised models.vdd)
    (ht : t.memoised models.vdd = cell.memoised models.vdd) :
    SameOutcome models cell (dataPhase models { ip with numRowPerSet := ⟨1, n⟩ } s)
      (dataPhase models ip t) := by
  have hpass (args : List BankParams) (s' : SearchState K) :
      constrainedPass models { ip with numRowPerSet := ⟨1, n⟩ } args s' =
        constrainedPass models ip args s' := rfl
  unfold dataPhase
  obtain ⟨halt, hsearch, hsearch'⟩ | ⟨s', t', args, hsearch, hsearch', hsame, hargs⟩ :=
    dataSearch_same hconstraint hrows hn hs ht
  · rw [hsearch, hsearch']
    rfl
  · rw [hsearch, hsearch']
    dsimp only [bind, Except.bind]
    split
    · rw [hpass]
      refine constrainedPass_same (fun localWire globalWire a ha hvalid => ?_) hsame
      exact decide_eq_true (numRowPerSet_le_one hconstraint hrows hn hargs ha hvalid)
    · exact hsame

end Same

/-! ## The tag search -/

theorem memoised_searchPass {models : Models K} {settings : Settings K}
    {localWire globalWire : Wire} {allowed : FunctionUnit K → Bool} {args : List BankParams}
    {s s' : SearchState K}
    (h : searchPass models settings localWire globalWire allowed args s = .ok s') :
    s'.cell.memoised models.vdd = s.cell.memoised models.vdd := by
  rcases searchPass_cases models settings localWire globalWire allowed s.cell args s rfl with
    ⟨-, -, -, -, herror⟩ | ⟨-, cell', hcell', hok⟩
  · rw [herror] at h
    cases h
  · rw [hok] at h
    obtain rfl := Except.ok.inj h
    exact hcell'

/-- All the tag search leaves in the cell are its write energies. -/
theorem memoised_tagPhase {models : Models K} {ip : InputParameter K} {cell : MemCell K}
    {tags : SearchState K} (h : tagPhase models ip cell = .ok tags) :
    tags.cell.memoised models.vdd = cell.memoised models.vdd := by
  unfold tagPhase at h
  dsimp only [bind, Except.bind] at h
  split at h
  · cases h
  · split at h
    · cases h
    · rename_i cs _
      split at h
      · cases h
      · rename_i s hpass
        obtain rfl := Except.ok.inj h
        rw [memoised_refineWires]
        exact memoised_searchPass hpass

/-- The data search after the tag search, with models that do not depend on it.  The file is
read twice, and the second reading leaves the search space of the first, but for a bound on the
rows of a set; the data phases of both give the same best results of the same number of
solutions, or halt for the same reason; and no valid candidate of either has more than
one row per set. -/
theorem dataPhase_after_tagPhase (models : Settings K → Models K) (file : List (ConfigLine K))
    (capacity wordWidth : ℕ) (deviceRoadmap : DeviceRoadmap) (fileMemCell : String)
    (temperature : ℤ) (space : SearchSpace) (cell : MemCell K) (ip : InputParameter K)
    (tags : SearchState K)
    (hconfigure : configure file cell.memCellType
      { toSettings := .new capacity wordWidth deviceRoadmap fileMemCell temperature
        toSearchSpace := space } = .ok ip)
    (hcache : ip.designTarget = .cache)
    (htags : tagPhase (models ip.toSettings) ip cell = .ok tags) :
    ∃ ip', configure file cell.memCellType ip.reduceSearchSize = .ok ip' ∧
      (dataPhase (models ip'.toSettings) ip' tags.cell).map SearchState.toBestResults =
        (dataPhase (models ip.toSettings) ip cell).map SearchState.toBestResults ∧
      ∀ args, ip'.dataCandidates cell.memCellType = .ok args ∨
          ip.dataCandidates cell.memCellType = .ok args →
        ∀ a ∈ args, ∀ (anyModels : Models K) (localWire globalWire : Wire),
          (evaluate anyModels ip'.toSettings cell localWire globalWire a).invalid = false →
            ¬ a.numRowPerSet > 1 := by
  obtain ⟨-, hconstraint⟩ := configure_cache hconfigure hcache
  obtain ⟨hrows, n, hn, hagain⟩ := configure_again rfl rfl rfl hconfigure hcache
  refine ⟨{ ip with numRowPerSet := ⟨1, n⟩ }, hagain, ?_, ?_⟩
  · have hsame := dataPhase_same hconstraint hrows hn (memoised_tagPhase htags) rfl
    show (dataPhase (models ip.toSettings) { ip with numRowPerSet := ⟨1, n⟩ } tags.cell).map _ = _
    generalize dataPhase (models ip.toSettings) { ip with numRowPerSet := ⟨1, n⟩ } tags.cell = r
      at hsame ⊢
    generalize dataPhase (models ip.toSettings) ip cell = r' at hsame ⊢
    exact hsame.map_eq
  · rintro args (hargs | hargs) a ha anyModels localWire globalWire hvalid
    · exact not_lt.2 (numRowPerSet_le_one hconstraint hrows hn hargs ha hvalid)
    · have hone : ({ ip with numRowPerSet := ⟨1, 1⟩ } : InputParameter K) = ip := by
        rw [← Range.only, ← hrows]
      rw [← hone] at hargs
      exact not_lt.2 (numRowPerSet_le_one hconstraint hrows le_rfl hargs ha hvalid)

end NVSim
