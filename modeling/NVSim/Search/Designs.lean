import NVSim.Search.CircuitModels
import NVSim.Search.Constraints
import NVSim.Search.MatCalls
import NVSim.Search.StaleMemory

/-!
# The designs that a phase keeps

From the first candidate to the last refinement of the wires, a result is empty or it holds a
design that was verified: a valid bank that stores its capacity, evaluated with the wires it is
kept with.  Over the circuits of a run, that is a bank the macro `CALCULATE` leaves.
-/

namespace NVSim

open Library

variable {K : Type} [Field K] [LinearOrder K]

/-! ## Valid banks of the same arguments -/

theorem initializeMat_eq_of_valid {el el' : Electrical} {args : MatParams}
    (h : (initializeMat el args).invalid = false) (h' : (initializeMat el' args).invalid = false) :
    initializeMat el args = initializeMat el' args := by
  rw [initializeMat_of_legal (initializeMat_invalid_iff.1 h),
    initializeMat_of_legal (initializeMat_invalid_iff.1 h')]

/-- What the circuits and the wires decide is whether a bank is valid, not which bank it is. -/
theorem initializedBank_eq_of_valid {el el' : Electrical} {memCellType : MemCellType}
    {globalWireRepeaterType globalWireRepeaterType' : WireRepeaterType} {routingMode : RoutingMode}
    {args : BankParams}
    (h : (initializedBank el memCellType globalWireRepeaterType routingMode args).invalid = false)
    (h' : (initializedBank el' memCellType globalWireRepeaterType' routingMode args).invalid =
      false) :
    initializedBank el memCellType globalWireRepeaterType routingMode args =
      initializedBank el' memCellType globalWireRepeaterType' routingMode args := by
  have hinit := initializeBank_eq_initializedBank el memCellType globalWireRepeaterType
    routingMode args
  have hinit' := initializeBank_eq_initializedBank el' memCellType globalWireRepeaterType'
    routingMode args
  generalize initializedBank el memCellType globalWireRepeaterType routingMode args = b at *
  generalize initializedBank el' memCellType globalWireRepeaterType' routingMode args = b' at *
  cases routingMode with
  | nonHTree =>
      have hcases := initializeBankWithoutHtree_cases el memCellType globalWireRepeaterType args
        (Option.some.inj hinit)
      have hcases' := initializeBankWithoutHtree_cases el' memCellType globalWireRepeaterType'
        args (Option.some.inj hinit')
-- of the ends of `Initialize` only the accepting one is valid
      obtain ⟨-, hinvalid, -⟩ | ⟨-, ⟨-, rfl⟩ | ⟨q, matParams, hmat, ⟨-, rfl⟩ | ⟨hm, rfl⟩⟩⟩ := hcases
      · rw [h] at hinvalid
        cases hinvalid
      · cases h
      · cases h
      obtain ⟨-, hinvalid, -⟩ | ⟨-, ⟨-, rfl⟩ | ⟨q', matParams', hmat', ⟨-, rfl⟩ | ⟨hm', rfl⟩⟩⟩ :=
        hcases'
      · rw [h'] at hinvalid
        cases hinvalid
      · cases h'
      · cases h'
      rw [hmat] at hmat'
      obtain ⟨rfl, rfl⟩ := Prod.mk.inj (Option.some.inj hmat')
      rw [initializeMat_eq_of_valid hm hm']
  | hTree =>
      obtain ⟨b₁, hb₁, rfl⟩ := Option.map_eq_some_iff.1 hinit
      obtain ⟨b₂, hb₂, rfl⟩ := Option.map_eq_some_iff.1 hinit'
-- the routing does not ask the circuits, so both get to the mat in the same way
      unfold initializeBankWithHtree at hb₁ hb₂
      split at hb₁
      · obtain rfl := Option.some.inj hb₁
        cases h
      next hinternal =>
      rw [if_neg hinternal] at hb₂
      cases hroute : args.clampActive.route with
      | error halt =>
          cases halt with
          | arrayAccess =>
              simp only [hroute] at hb₁
              cases hb₁
          | invalid =>
              simp only [hroute] at hb₁
              obtain rfl := Option.some.inj hb₁
              cases h
      | ok t =>
          simp only [hroute] at hb₁ hb₂
          cases hmat : args.clampActive.matParamsWithHtree memCellType t with
          | none =>
              simp only [hmat] at hb₁
              obtain rfl := Option.some.inj hb₁
              cases h
          | some called =>
              simp only [hmat] at hb₁ hb₂
              split at hb₁
              · obtain rfl := Option.some.inj hb₁
                cases h
              next hlegal =>
              split at hb₂
              · obtain rfl := Option.some.inj hb₂
                cases h'
              next hlegal' =>
              obtain rfl := Option.some.inj hb₁
              obtain rfl := Option.some.inj hb₂
              rw [initializeMat_eq_of_valid (eq_false_of_ne_true hlegal)
                (eq_false_of_ne_true hlegal')]

/-- A bank without address bits is not valid. -/
theorem numAddressBit_pos {el : Electrical} {memCellType : MemCellType}
    {globalWireRepeaterType : WireRepeaterType} {routingMode : RoutingMode} {args : BankParams}
    (h : (initializedBank el memCellType globalWireRepeaterType routingMode args).invalid = false) :
    0 < args.numAddressBit := by
  have hinit := initializeBank_eq_initializedBank el memCellType globalWireRepeaterType
    routingMode args
  generalize initializedBank el memCellType globalWireRepeaterType routingMode args = b at *
  cases routingMode with
  | nonHTree =>
      obtain ⟨-, hinvalid, -⟩ | ⟨-, ⟨-, rfl⟩ | ⟨q, matParams, hmat, ⟨-, rfl⟩ | ⟨hlegal, rfl⟩⟩⟩ :=
        initializeBankWithoutHtree_cases el memCellType globalWireRepeaterType args
          (Option.some.inj hinit)
      · rw [h] at hinvalid
        cases hinvalid
      · cases h
      · cases h
      obtain ⟨numDataBit, numWay, -, rfl, rfl⟩ := BankParams.matCall_eq_some hmat
      have hrouted : 0 < args.clampActive.numAddressBitRouteToMat :=
        (initializeMat_invalid_iff.1 hlegal).addressBit.trans_le
          (MatParams.effectiveAddressBit_le _)
      exact hrouted.trans_le (Int.sub_le_self _ (Int.natCast_nonneg _))
  | hTree =>
      obtain ⟨b', hb', rfl⟩ := Option.map_eq_some_iff.1 hinit
      obtain ⟨-, -, -, haddress⟩ := initializeBankWithHtree_holds hb' h
      exact haddress.trans_le (Int.sub_le_self _ (Int.natCast_nonneg _))

/-! ## What a result holds -/

section Holds

variable {models : Models K} {settings : Settings K} {memoryType : MemoryType} {cell : MemCell K}

/-- A result that no design was copied to. -/
structure Result.Empty (r : Result K) : Prop where
  limits : r.toLimits = .unconstrained
  bank : r.bank = { toBank := .fresh, toFunctionUnit := FunctionUnit.fresh.reset }

variable (models settings memoryType cell) in
/-- A consistent result that passed `VERIFY_DATA_CAPACITY` or `VERIFY_TAG_CAPACITY`. -/
structure Result.Verified (r : Result K) : Prop
    extends r.Consistent models settings memoryType cell where
  stored : r.bank.storedCapacity = r.bank.capacity

variable (models settings memoryType cell) in
/-- What holds of the result of a target from the first candidate on. -/
def Result.Sound (r : Result K) : Prop :=
  r.Empty ∨ r.Verified models settings memoryType cell

variable (models settings memoryType cell) in
/-- A design that was verified: it is the evaluation of its own record. -/
structure Design.Checked (d : Design K) : Prop where
  valid : d.bank.invalid = false
  hasType : d.bank.memoryType = memoryType
  stored : d.bank.storedCapacity = d.bank.capacity
  evaluated : evaluate models settings cell d.localWire d.globalWire d.bank.toBankParams = d.bank

theorem Result.Verified.checked {r : Result K} (h : r.Verified models settings memoryType cell) :
    r.toDesign.Checked models settings memoryType cell :=
  ⟨h.valid, h.memoryType, h.stored, h.evaluated⟩

/-- A candidate that is valid and was verified. -/
theorem checked_evaluatedDesign {localWire globalWire : Wire} {a : BankParams}
    (htype : a.memoryType = memoryType)
    (hvalid : (evaluate models settings cell localWire globalWire a).invalid = false)
    (hstored : (evaluate models settings cell localWire globalWire a).storedCapacity =
      a.capacity) :
    (evaluatedDesign models settings cell localWire globalWire a).Checked models settings
      memoryType cell := by
  have hrecord := toBankParams_evaluate hvalid
  refine ⟨hvalid, ?_, ?_, ?_⟩
  · exact (congrArg BankParams.memoryType hrecord).trans htype
  · exact hstored.trans (congrArg BankParams.capacity hrecord).symm
  · show evaluate models settings cell localWire globalWire
      (evaluate models settings cell localWire globalWire a).toBankParams = _
    rw [hrecord, evaluate_clampActive hvalid]
    rfl

/-- The bank that `Initialize` leaves for a consistent result. -/
theorem Result.Consistent.toBank_eq {r : Result K}
    (h : r.Consistent models settings memoryType cell) :
    r.bank.toBank = initializedBank (models.electrical r.localWire r.globalWire)
      cell.memCellType r.globalWire.wireRepeaterType settings.routingMode r.bank.toBankParams := by
  have hrecord := h.initializeBank_record
  rw [initializeBank_eq_initializedBank] at hrecord
  exact (Option.some.inj hrecord).symm

/-- Other wires do not change the bank of a result, only what it is measured to. -/
theorem Result.Consistent.toBank_trial {r : Result K}
    (h : r.Consistent models settings memoryType cell) {localWire globalWire : Wire}
    (hvalid : (r.trial models settings cell localWire globalWire).bank.invalid = false) :
    (r.trial models settings cell localWire globalWire).bank.toBank = r.bank.toBank := by
  have htrial := toBank_evaluate_of_valid hvalid
  have hbank := h.toBank_eq
  have hinvalid := h.valid
  rw [hbank] at hinvalid
  have hvalid' := hvalid
  rw [show (r.trial models settings cell localWire globalWire).bank.toBank = _ from htrial]
    at hvalid'
  calc (r.trial models settings cell localWire globalWire).bank.toBank
      = initializedBank (models.electrical localWire globalWire) cell.memCellType
          globalWire.wireRepeaterType settings.routingMode r.bank.toBankParams := htrial
    _ = initializedBank (models.electrical r.localWire r.globalWire) cell.memCellType
          r.globalWire.wireRepeaterType settings.routingMode r.bank.toBankParams :=
        initializedBank_eq_of_valid hvalid' hinvalid
    _ = r.bank.toBank := hbank.symm

theorem Result.Verified.compareAndUpdate [IsStrictOrderedRing K] {r : Result K}
    (h : r.Verified models settings memoryType cell) {localWire globalWire : Wire}
    (hlocal : localWire.Initialized settings) (hglobal : globalWire.Initialized settings) :
    (r.compareAndUpdate (r.trial models settings cell localWire globalWire)).Verified models
      settings memoryType cell := by
  refine ⟨(h.toConsistent.compareAndUpdate hlocal hglobal).1, ?_⟩
  rcases r.compareAndUpdate_cases (r.trial models settings cell localWire globalWire) with
    ⟨hallow, -, hhold⟩ | ⟨-, hkeep⟩
  · have hsame := h.toBank_trial (h.trial_valid hallow)
    rw [hhold]
    show (r.trial models settings cell localWire globalWire).bank.toBank.storedCapacity =
      (r.trial models settings cell localWire globalWire).bank.toBank.capacity
    rw [hsame]
    exact h.stored
  · rw [hkeep]
    exact h.stored

/-- The trial of an empty result is rejected: its record has no address bits. -/
theorem not_allow_trial_fresh [IsStrictOrderedRing K] (localWire globalWire : Wire)
    (hsupported : (RefineState.retryArgs settings memoryType .fresh).Supported cell.memCellType
      settings.routingMode) :
    ¬ (Limits.unconstrained : Limits K).Allow
      (evaluate models settings cell localWire globalWire
        (RefineState.retryArgs settings memoryType .fresh)).toFunctionUnit := by
  have hinvalid : (evaluate models settings cell localWire globalWire
      (RefineState.retryArgs settings memoryType .fresh)).invalid = true := by
    by_contra hvalid
    have hvalid' := eq_false_of_ne_true hvalid
    have hbank := toBank_evaluate_of_valid hvalid'
    rw [hbank] at hvalid'
    have hnone : ¬ 0 < log2RoundedRatio 0 (0 * 0) := by decide
    exact hnone (numAddressBit_pos hvalid')
  rw [toFunctionUnit_evaluate_of_invalid hsupported hinvalid]
  exact not_allow_invalid settings

/-! ## The refinement -/

variable (models settings memoryType cell) in
/-- The invariant of the refinement loops for results of which some may be empty. -/
structure RefineState.SoundInv (s : RefineState K) : Prop where
  memoised : s.cell.memoised models.vdd = cell.memoised models.vdd
  localWire : s.localWire.Initialized settings
  globalWire : s.globalWire.Initialized settings
  sound : ∀ target, (s.results target).Sound models settings memoryType cell

namespace RefineState.SoundInv

variable {s : RefineState K}

variable (models settings memoryType cell) in
/-- Whatever its record, a bank of the sensing scheme of the run gets initialised. -/
def Supports : Prop :=
  ∀ p : BankParams, p.internalSenseAmp = settings.internalSensing →
    p.Supported cell.memCellType settings.routingMode

theorem tryAndUpdate [IsStrictOrderedRing K] (h : s.SoundInv models settings memoryType cell)
    (hsupports : Supports settings cell) (target : OptimizationTarget) :
    (s.tryAndUpdate models settings memoryType target).SoundInv models settings memoryType
      cell := by
  refine ⟨?_, h.localWire, h.globalWire, ?_⟩
  · exact (memoised_calculate _ _ _ _).trans h.memoised
  intro other
  have hresults : (s.tryAndUpdate models settings memoryType target).results =
      Function.update s.results target ((s.results target).compareAndUpdate
        (evaluatedDesign models settings cell s.localWire s.globalWire
          (retryArgs settings memoryType (s.results target).bank.toBank))) := by
    unfold RefineState.tryAndUpdate evaluatedDesign
    dsimp only
    rw [calculate_eq_evaluate, ← evaluate_memoised, h.memoised, evaluate_memoised]
  rw [hresults]
  by_cases heq : other = target
  · subst heq
    rw [Function.update_self]
    rcases h.sound other with hempty | hverified
    · left
      rcases (s.results other).compareAndUpdate_cases (evaluatedDesign models settings cell
        s.localWire s.globalWire (retryArgs settings memoryType (s.results other).bank.toBank)) with
        ⟨hallow, -, -⟩ | ⟨-, hkeep⟩
      · rw [hempty.limits, hempty.bank] at hallow
        exact absurd hallow (not_allow_trial_fresh _ _ (hsupports _ rfl))
      · rw [hkeep]
        exact hempty
    · right
      rw [hverified.toConsistent.retryArgs]
      exact hverified.compareAndUpdate h.localWire h.globalWire
  · rw [Function.update_of_ne heq]
    exact h.sound other

theorem step [IsStrictOrderedRing K] (h : s.SoundInv models settings memoryType cell)
    (hsupports : Supports settings cell) (st : RefineStep) :
    (s.step models settings memoryType st).SoundInv models settings memoryType cell := by
  cases st with
  | localWire kind => exact ⟨h.memoised, rfl, h.globalWire, h.sound⟩
  | globalWire kind => exact ⟨h.memoised, h.localWire, rfl, h.sound⟩
  | refineLocal target =>
      have hloaded : (s.loadGlobalWire settings target).SoundInv models settings memoryType cell :=
        ⟨h.memoised, h.localWire, rfl, h.sound⟩
      exact hloaded.tryAndUpdate hsupports target
  | refineGlobal target =>
      have hloaded : (s.loadLocalWire settings target).SoundInv models settings memoryType cell :=
        ⟨h.memoised, rfl, h.globalWire, h.sound⟩
      exact hloaded.tryAndUpdate hsupports target

theorem run [IsStrictOrderedRing K] (h : s.SoundInv models settings memoryType cell)
    (hsupports : Supports settings cell) (steps : List RefineStep) :
    (s.run models settings memoryType steps).SoundInv models settings memoryType cell := by
  induction steps generalizing s with
  | nil => exact h
  | cons st steps ih => exact ih (h.step hsupports st)

end RefineState.SoundInv

/-! ## The candidates -/

section Pass

variable {localWire globalWire : Wire}

/-- A comparison with a verified candidate. -/
theorem Result.Sound.compareAndUpdate {r : Result K}
    (h : r.Sound models settings memoryType cell) (hlocal : localWire.Initialized settings)
    (hglobal : globalWire.Initialized settings) {a : BankParams}
    (hsense : a.internalSenseAmp = settings.internalSensing) (htype : a.memoryType = memoryType)
    (hvalid : (evaluate models settings cell localWire globalWire a).invalid = false)
    (hstored : (evaluate models settings cell localWire globalWire a).storedCapacity =
      a.capacity) :
    (r.compareAndUpdate (evaluatedDesign models settings cell localWire globalWire a)).Sound models
      settings memoryType cell := by
  have hlimits : r.toLimits = .unconstrained := by
    rcases h with hempty | hverified
    · exact hempty.limits
    · exact hverified.limits
  rcases r.compareAndUpdate_cases (evaluatedDesign models settings cell localWire globalWire a) with
    ⟨-, -, hhold⟩ | ⟨-, hkeep⟩
  · have hfound : (r.hold (evaluatedDesign models settings cell localWire globalWire a)).Found
        models settings memoryType cell :=
      ⟨hlimits, hlocal, hglobal, hvalid, a, hsense, htype, rfl⟩
    rw [hhold]
    exact .inr ⟨hfound.consistent, (checked_evaluatedDesign htype hvalid hstored).stored⟩
  · rw [hkeep]
    exact h

/-- The results of a pass over candidates of the sensing scheme and the type of the run. -/
theorem sound_searchPass (hlocal : localWire.Initialized settings)
    (hglobal : globalWire.Initialized settings) {args : List BankParams}
    (hargs : ∀ a ∈ args, a.internalSenseAmp = settings.internalSensing ∧
      a.memoryType = memoryType) {s : SearchState K}
    (h : searchPass models settings localWire globalWire (fun _ => true) args
      { toBestResults := .fresh, cell := cell } = .ok s) (target : OptimizationTarget) :
    (s.results target).Sound models settings memoryType cell := by
  rcases searchPass_cases models settings localWire globalWire (fun _ => true) cell args
    { toBestResults := .fresh, cell := cell } rfl with
    ⟨a, -, -, -, herror⟩ | ⟨hverified, cell', -, hok⟩
  · rw [herror] at h
    cases h
  · rw [hok] at h
    obtain rfl := Except.ok.inj h
    dsimp only
    rw [BestResults.results_foldl_update]
    refine List.foldlRecOn (motive := Result.Sound models settings memoryType cell) _ _
      (.inl ⟨rfl, rfl⟩) ?_
    intro r hr x hx
    obtain ⟨hmem, hkept⟩ := List.mem_filter.1 hx
    obtain ⟨a, ha, rfl⟩ := List.mem_map.1 hmem
    have hvalid : (evaluate models settings cell localWire globalWire a).invalid = false := by
      simpa [keptBy, evaluatedDesign] using hkept
    exact hr.compareAndUpdate hlocal hglobal (hargs a ha).1 (hargs a ha).2 hvalid
      (hverified a ha hkept)

/-- The solutions that a pass counts are the valid candidates. -/
theorem numSolution_searchPass {args : List BankParams} {s : SearchState K}
    (h : searchPass models settings localWire globalWire (fun _ => true) args
      { toBestResults := .fresh, cell := cell } = .ok s) :
    0 < s.numSolution ↔
      ∃ a ∈ args, (evaluate models settings cell localWire globalWire a).invalid = false := by
  rcases searchPass_cases models settings localWire globalWire (fun _ => true) cell args
    { toBestResults := .fresh, cell := cell } rfl with
    ⟨a, -, -, -, herror⟩ | ⟨-, cell', -, hok⟩
  · rw [herror] at h
    cases h
  · rw [hok] at h
    obtain rfl := Except.ok.inj h
    dsimp only
    rw [BestResults.numSolution_foldl_update]
    have hzero : (BestResults.fresh : BestResults K).numSolution = 0 := rfl
    rw [hzero, Nat.zero_add, List.length_pos_iff_exists_mem]
    simp [keptBy, evaluatedDesign]

/-- A pass with a solution has found a supported sensing scheme. -/
theorem supports_of_searchPass {args : List BankParams}
    (hargs : ∀ a ∈ args, a.internalSenseAmp = settings.internalSensing) {s : SearchState K}
    (h : searchPass models settings localWire globalWire (fun _ => true) args
      { toBestResults := .fresh, cell := cell } = .ok s) (hpos : s.numSolution > 0) :
    RefineState.SoundInv.Supports settings cell := by
  obtain ⟨a, ha, hvalid⟩ := (numSolution_searchPass h).1 hpos
  intro p hp
  have hsupported := supported_of_valid hvalid
  unfold BankParams.Supported at hsupported ⊢
  rw [hargs a ha] at hsupported
  rwa [hp]

end Pass

/-! ## The phases -/

section Phases

variable {ip : InputParameter K} {s : SearchState K}

omit [Field K] [LinearOrder K] in
theorem initialized_initialBasicWire {localWire globalWire : Wire}
    (h : ip.initialBasicWire = .ok (localWire, globalWire)) :
    localWire.Initialized ip.toSettings ∧ globalWire.Initialized ip.toSettings := by
  unfold InputParameter.initialBasicWire at h
  obtain ⟨localKind, -, h⟩ := bind_eq_ok.1 h
  obtain ⟨globalKind, -, h⟩ := bind_eq_ok.1 h
  obtain ⟨rfl, rfl⟩ := Prod.mk.inj (Except.ok.inj h)
  exact ⟨rfl, rfl⟩

theorem sound_refineWires [IsStrictOrderedRing K] {localWire globalWire : Wire}
    (hlocal : localWire.Initialized ip.toSettings)
    (hglobal : globalWire.Initialized ip.toSettings)
    (hcell : s.cell.memoised models.vdd = cell.memoised models.vdd)
    (hsupports : s.numSolution > 0 → RefineState.SoundInv.Supports ip.toSettings cell)
    (h : ∀ target, (s.results target).Sound models ip.toSettings memoryType cell)
    (target : OptimizationTarget) :
    ((refineWires models ip memoryType localWire globalWire s).results target).Sound models
      ip.toSettings memoryType cell := by
  unfold refineWires
  split
  · next hpos =>
      have hstart : RefineState.SoundInv models ip.toSettings memoryType cell
          { cell := s.cell
            localWire := localWire
            globalWire := globalWire
            tempResult := (Result.new .readLatencyOptimized).toDesign
            results := s.results } :=
        ⟨hcell, hlocal, hglobal, h⟩
      exact (hstart.run (hsupports hpos) ip.refineSteps).sound target
  · exact h target

variable (ip) in
/-- A pass over candidates with the basic wires, and the refinement of its results. -/
theorem sound_refined_searchPass [IsStrictOrderedRing K] {localWire globalWire : Wire}
    (hwires : ip.initialBasicWire = .ok (localWire, globalWire)) {args : List BankParams}
    (hargs : ∀ a ∈ args, a.internalSenseAmp = ip.internalSensing ∧ a.memoryType = memoryType)
    (h : searchPass models ip.toSettings localWire globalWire (fun _ => true) args
      { toBestResults := .fresh, cell := cell } = .ok s) (target : OptimizationTarget) :
    ((refineWires models ip memoryType localWire globalWire s).results target).Sound models
      ip.toSettings memoryType cell := by
  obtain ⟨hlocal, hglobal⟩ := initialized_initialBasicWire hwires
  apply sound_refineWires hlocal hglobal
  · rcases searchPass_cases models ip.toSettings localWire globalWire (fun _ => true) cell args
      { toBestResults := .fresh, cell := cell } rfl with
      ⟨a, -, -, -, herror⟩ | ⟨-, cell', hcell', hok⟩
    · rw [herror] at h
      cases h
    · rw [hok] at h
      obtain rfl := Except.ok.inj h
      exact hcell'
  · exact supports_of_searchPass (fun a ha => (hargs a ha).1) h
  · exact sound_searchPass hlocal hglobal hargs h

omit [Field K] [LinearOrder K] in
/-- The data candidates have the sensing scheme of the run. -/
theorem dataCandidates_args {memCellType : MemCellType} {args : List BankParams}
    (h : ip.dataCandidates memCellType = .ok args) :
    ∀ a ∈ args, a.internalSenseAmp = ip.internalSensing ∧ a.memoryType = .data := by
  unfold InputParameter.dataCandidates at h
  obtain ⟨candidates, -, h⟩ := bind_eq_ok.1 h
  obtain rfl := Except.ok.inj h
  intro a ha
  obtain ⟨candidate, -, hcandidate⟩ := List.mem_filterMap.1 ha
  unfold Candidate.dataArgs at hcandidate
  split at hcandidate
  · cases hcandidate
  · obtain rfl := Option.some.inj hcandidate
    exact ⟨rfl, rfl⟩

omit [Field K] [LinearOrder K] in
/-- The tag candidates have the sensing scheme of the run. -/
theorem tagCandidates_args {args : List BankParams} (h : ip.tagCandidates = .ok args) :
    ∀ a ∈ args, a.internalSenseAmp = ip.internalSensing ∧ a.memoryType = .tag := by
  unfold InputParameter.tagCandidates at h
  obtain ⟨candidates, -, h⟩ := bind_eq_ok.1 h
  obtain rfl := Except.ok.inj h
  intro a ha
  obtain ⟨candidate, -, hcandidate⟩ := List.mem_filterMap.1 ha
  obtain ⟨blockSize, -, -, rfl⟩ := Candidate.tagArgs_eq_some hcandidate
  exact ⟨rfl, rfl⟩

theorem sound_dataSearch [IsStrictOrderedRing K] {args : List BankParams}
    (h : dataSearch models ip cell = .ok (s, args)) (target : OptimizationTarget) :
    (s.results target).Sound models ip.toSettings .data cell := by
  unfold dataSearch at h
  obtain ⟨⟨localWire, globalWire⟩, hwires, h⟩ := bind_eq_ok.1 h
  obtain ⟨args', hargs, h⟩ := bind_eq_ok.1 h
  obtain ⟨s', hpass, h⟩ := bind_eq_ok.1 h
  obtain ⟨rfl, rfl⟩ := Prod.mk.inj (Except.ok.inj h)
  exact sound_refined_searchPass ip hwires (dataCandidates_args hargs) hpass target

theorem sound_tagPhase [IsStrictOrderedRing K] (h : tagPhase models ip cell = .ok s)
    (target : OptimizationTarget) :
    (s.results target).Sound models ip.toSettings .tag cell := by
  rw [tagPhase_eq] at h
  obtain ⟨⟨localWire, globalWire⟩, hwires, h⟩ := bind_eq_ok.1 h
  obtain ⟨args, hargs, h⟩ := bind_eq_ok.1 h
  obtain ⟨s', hpass, h⟩ := bind_eq_ok.1 h
  obtain rfl := Except.ok.inj h
  -- the search space is smaller, the settings are the same
  exact sound_refined_searchPass ip.reduceSearchSize hwires (tagCandidates_args hargs) hpass target

end Phases

end Holds

/-! ## The circuits of a design -/

/-- What the evaluation leaves valid of a data array has a legal aspect ratio. -/
theorem evaluateNonHtree_legal [FloorRing K] {g : Globals K} {globalWire : WireObject K}
    {received : K} {b : Bank} {mat : MatObject K} (hdata : b.memoryType = .data)
    (hvalid : (evaluateNonHtree g globalWire received b mat).bank.invalid = false) :
    HtreeObject.aspectRatioIllegal (evaluateNonHtree g globalWire received b mat).height
      (evaluateNonHtree g globalWire received b mat).width = false := by
  unfold evaluateNonHtree NonHtreeObject.calculateArea at hvalid ⊢
  dsimp only at hvalid ⊢
  split at hvalid
  · unfold NonHtreeObject.calculateLatencyAndPower at hvalid
    rw [if_pos rfl] at hvalid
    cases hvalid
  · next hlegal =>
    rw [if_neg hlegal]
    simp only [hdata, decide_true, Bool.true_and, Bool.not_eq_true] at hlegal
    unfold NonHtreeObject.calculateLatencyAndPower
    split
    · exact hlegal
    · exact hlegal

namespace Circuits

variable [FloorRing K] [IsStrictOrderedRing K] {c : Circuits K} {localWire globalWire : Wire}
  {args : BankParams} {e : EvaluatedBank K}

/-- The aspect ratio of a data array that the macro leaves valid. -/
theorem legal_of_calculate (hpitch : 0 ≤ (c.wireObject globalWire).sharing.2)
    (h : c.calculate localWire globalWire args = some e) (hinitialized : e.initialized = true)
    (hvalid : e.invalid = false) (hdata : e.memoryType = .data) :
    HtreeObject.aspectRatioIllegal e.height e.width = false := by
  have hfinish {b : Bank} {evaluated : Option (EvaluatedBank K)}
      (hf : c.finish b evaluated = some e) : b.invalid = false ∧ evaluated = some e := by
    unfold finish at hf
    split_ifs at hf with hfresh hinvalid
    · obtain rfl := Option.some.inj hf
      rw [hfresh] at hinitialized
      cases hinitialized
    · obtain rfl := Option.some.inj hf
      rw [hinvalid] at hvalid
      cases hvalid
    · exact ⟨eq_false_of_ne_true hinvalid, hf⟩
  unfold calculate at h
-- both organisations end with the test of the aspect ratio
  cases hmode : c.globals.inputParameter.routingMode with
  | hTree =>
      simp only [hmode] at h
      obtain ⟨b, hb, hf⟩ := Option.bind_eq_some_iff.1 h
      obtain ⟨hbank, hevaluated⟩ := hfinish hf
      unfold evaluateWithHtree at hevaluated
      simp only [Option.bind_eq_bind, Option.bind_eq_some_iff, Option.some.injEq] at hevaluated
      obtain ⟨mat, -, o, ho, rfl⟩ := hevaluated
      obtain ⟨length, heval⟩ := evaluateHtree_evaluated hb hbank hpitch ho hvalid
      apply heval.legal
      rw [← heval.bank_eq]
      exact hdata
  | nonHTree =>
      simp only [hmode] at h
      obtain ⟨hbank, hevaluated⟩ := hfinish h
      obtain ⟨mat, hmat, hsome⟩ := Option.bind_eq_some_iff.1 hevaluated
      obtain rfl := Option.some.inj hsome
      have htype := evaluateNonHtree_bank (c.wired localWire globalWire) (c.wireObject globalWire)
        c.received (measures_initializeMatObject hmat) hbank hmode
      apply evaluateNonHtree_legal _ hvalid
      rcases htype with hkept | ⟨htype, -⟩
      · rw [← hkept]
        exact hdata
      · exact htype

variable (c) in
/-- A design that the circuits confirm: a valid bank that stores its whole capacity, which the
macro `CALCULATE` leaves of its record and its wires, with all its measures and whatever memory
its objects find, unless a predecoder exits; a data array has a legal aspect ratio. -/
structure Confirms (memoryType : MemoryType) (d : Design K) : Prop where
  initialized : d.bank.initialized = true
  valid : d.bank.invalid = false
  hasType : d.bank.memoryType = memoryType
  stored : d.bank.storedCapacity = d.bank.capacity
  calculated : ∀ memory received,
    (c.withMemory memory received).calculate d.localWire d.globalWire d.bank.toBankParams =
        some d.bank ↔
      ∀ bits ∈ d.bank.mat.predecoderBits, bits ≤ 27
  legal : (∀ bits ∈ d.bank.mat.predecoderBits, bits ≤ 27) → memoryType = .data →
    HtreeObject.aspectRatioIllegal d.bank.height d.bank.width = false

/-- The circuits confirm what was verified over their models. -/
theorem confirms_of_checked {cell : MemCell K}
    (hcell : cell.memoised c.globals.tech.vdd = c.globals.cell.toMemCell) (hpitched : c.Pitched)
    (hassigned : c.globals.cell.toMemCell.Assigned)
    (hfeature : c.globals.tech.featureSize * 2 < 1) {settings : Settings K}
    (hsettings : c.globals.inputParameter = settings)
    {memoryType : MemoryType} {d : Design K} (h : d.Checked c.models settings memoryType cell) :
    c.Confirms memoryType d := by
  subst hsettings
  have hvalid := h.valid
  have hrecord := h.evaluated
  have hcellType : c.globals.cell.memCellType = cell.memCellType := by
    have hcellType := congrArg MemCell.memCellType hcell
    rw [MemCell.memCellType_memoised] at hcellType
    exact hcellType.symm
-- the design is what `Initialize` makes of its own record
  have hbank : d.bank.toBank = initializedBank (c.electrical d.localWire d.globalWire)
      c.globals.cell.memCellType d.globalWire.wireRepeaterType
      c.globals.inputParameter.routingMode d.bank.toBankParams := by
    have hevaluated := hvalid
    rw [← hrecord] at hevaluated
    have htoBank := toBank_evaluate_of_valid hevaluated
    rw [hrecord] at htoBank
    rw [hcellType]
    exact htoBank
  have hinit := initializeBank_eq_initializedBank (c.electrical d.localWire d.globalWire)
    c.globals.cell.memCellType d.globalWire.wireRepeaterType c.globals.inputParameter.routingMode
    d.bank.toBankParams
  rw [← hbank] at hinit
  have hinitialized : d.bank.initialized = true := by
    have hinvalid := hvalid
    rw [hbank] at hinvalid ⊢
    obtain ⟨mat, hmat⟩ := initializedBank_valid hinvalid
    rw [hmat]
-- only the predecoders can still end the program
  have hcalculated : c.calculate d.localWire d.globalWire d.bank.toBankParams = some d.bank ↔
      ∀ bits ∈ d.bank.mat.predecoderBits, bits ≤ 27 := by
    refine ⟨fun hcalculate => predecoderBits_of_calculate hcalculate hinit hvalid,
      fun hbits => ?_⟩
    obtain ⟨e, he⟩ := calculate_isSome (hpitched.sharing d.globalWire) hinit fun _ => hbits
    rw [evaluate_models hcell he] at hrecord
    rw [he, hrecord]
  refine ⟨hinitialized, hvalid, h.hasType, h.stored, fun memory received => ?_,
    fun hbits hdata => ?_⟩
  · rw [calculate_withMemory memory received hassigned hfeature]
    exact hcalculated
  · exact legal_of_calculate (hpitched.sharing d.globalWire) (hcalculated.2 hbits) hinitialized
      hvalid (h.hasType.trans hdata)

/-- Over the circuits of a run whose cells assign what is read, a result of the data search or of
the tag phase, for whatever target, is empty or it holds a design that the circuits confirm. -/
theorem kept_designs_confirmed (c : Circuits K) (ip : InputParameter K) {cell : MemCell K}
    (hsettings : c.globals.inputParameter = ip.toSettings)
    (hcell : cell.memoised c.globals.tech.vdd = c.globals.cell.toMemCell)
    (hpitched : c.Pitched) (hassigned : c.globals.cell.toMemCell.Assigned)
    (hfeature : c.globals.tech.featureSize * 2 < 1) {memoryType : MemoryType} {s : SearchState K}
    (h : (∃ args, dataSearch c.models ip cell = .ok (s, args)) ∧ memoryType = .data ∨
      tagPhase c.models ip cell = .ok s ∧ memoryType = .tag)
    (target : OptimizationTarget) :
    (s.results target).Empty ∨ c.Confirms memoryType (s.results target).toDesign := by
  have hsound : (s.results target).Sound c.models ip.toSettings memoryType cell := by
    rcases h with ⟨⟨args, hdata⟩, rfl⟩ | ⟨htag, rfl⟩
    · exact sound_dataSearch hdata target
    · exact sound_tagPhase htag target
  rcases hsound with hempty | hverified
  · exact .inl hempty
  · exact .inr (confirms_of_checked hcell hpitched hassigned hfeature hsettings
      hverified.checked)

end Circuits

/-- Whether the data search over the fine circuits finds a design, for examples. -/
def smallDesign : Except Halt Bool := do
  let (s, _) ← dataSearch Circuits.fine.models InputParameter.small
    Circuits.fine.globals.cell.toMemCell
  .ok (s.results .areaOptimized).bank.initialized

theorem smallDesign_eq : smallDesign.toOption = some true := by decide +kernel

theorem Circuits.pitched_fine : Circuits.fine.Pitched where
  inverter := Circuits.pitched_small.inverter
  wirePitch := Circuits.pitched_small.wirePitch
  repeatedWirePitch := le_rfl

theorem Circuits.assigned_fine : Circuits.fine.globals.cell.toMemCell.Assigned where
  dram := by decide
  eDRAM := by decide
  mlcNAND := by decide
  access haccess := by cases haccess.2

theorem Circuits.featureSize_fine : Circuits.fine.globals.tech.featureSize * 2 < 1 := by
  norm_num [Circuits.fine, Globals.fine]

theorem Circuits.kept_designs_confirmed_small :
    ∃ s args, dataSearch Circuits.fine.models InputParameter.small
        Circuits.fine.globals.cell.toMemCell = .ok (s, args) ∧
      Circuits.fine.Confirms .data (s.results .areaOptimized).toDesign := by
  have hdesign := toOption_eq_some_iff.1 smallDesign_eq
  unfold smallDesign at hdesign
  obtain ⟨⟨s, args⟩, hsearch, hinitialized⟩ := bind_eq_ok.1 hdesign
  refine ⟨s, args, hsearch, ?_⟩
  obtain hempty | hconfirms := Circuits.kept_designs_confirmed .fine .small rfl rfl
    Circuits.pitched_fine Circuits.assigned_fine Circuits.featureSize_fine
    (.inl ⟨⟨args, hsearch⟩, rfl⟩) .areaOptimized
  · have hfresh := Except.ok.inj hinitialized
    rw [hempty.bank] at hfresh
    cases hfresh
  · exact hconfirms

end NVSim
