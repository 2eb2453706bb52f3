import NVSim.Organisation.Agreement
import NVSim.Search.BestResult

/-!
# The refinement of the wires

The refinement loops initialise the bank of a result again from its own record.
The record of a valid bank is a fixed point of `Initialize`: its active counts are
clamped already, and its mux degrees are those of the call.  So each result stays
the evaluation of its own organisation with its own wires while its wires improve.
-/

namespace NVSim

open Library

/-! ## `Initialize` on the record of a bank -/

namespace BankParams

theorem clampActive_clampActive (p : BankParams) : p.clampActive.clampActive = p.clampActive := by
  have hclamp (active total : ℕ) :
      (if (if active > total then total else active) > total then total
        else if active > total then total else active) =
        if active > total then total else active := by
    by_cases h : active > total
    · simp only [h, if_true, gt_iff_lt, lt_self_iff_false, if_false]
    · simp only [h, if_false]
  unfold clampActive
  simp only [hclamp]

/-- The schemes on which `Initialize` does not return without setting `initialized`. -/
def Supported (memCellType : MemCellType) (routingMode : RoutingMode) (p : BankParams) : Prop :=
  p.internalSenseAmp = true ∨ routingMode = .nonHTree ∧ memCellType.isDram = false

theorem externalSensing_initialized_iff {memCellType : MemCellType}
    {globalWireRepeaterType : WireRepeaterType} {args : BankParams} {bank : Bank}
    (h : args.externalSensing memCellType globalWireRepeaterType = some bank) :
    bank.initialized = true ↔ args.Supported memCellType .nonHTree := by
  unfold externalSensing at h
  unfold Supported
  split at h
  · cases h
  · rename_i hexternal
    split at h
    · rename_i hdram
      obtain rfl := Option.some.inj h
      simp [hexternal, hdram, Bank.unsupported]
    · rename_i hdram
      split at h
      · obtain rfl := Option.some.inj h
        simp [hdram, Bank.rejected]
      · cases h

end BankParams

theorem initialized_initializeBankWithoutHtree {el : Electrical} {memCellType : MemCellType}
    {globalWireRepeaterType : WireRepeaterType} {args : BankParams}
    (h : args.externalSensing memCellType globalWireRepeaterType = none) :
    (initializeBankWithoutHtree el memCellType globalWireRepeaterType args).initialized = true := by
  unfold initializeBankWithoutHtree
  simp only [h]
  split
  · rfl
  · split
    · rfl
    · split
      · rfl
      · rfl

section Initialize

variable {el : Electrical} {memCellType : MemCellType} {globalWireRepeaterType : WireRepeaterType}
  {routingMode : RoutingMode} {args : BankParams}

/-- The record of a valid bank holds the arguments, with clamped active counts. -/
theorem initializedBank_valid
    (hvalid : (initializedBank el memCellType globalWireRepeaterType routingMode args).invalid =
      false) :
    ∃ mat, initializedBank el memCellType globalWireRepeaterType routingMode args =
      { toBankParams := args.clampActive, initialized := true, invalid := false, mat := mat } := by
  have hinit := initializeBank_eq_initializedBank el memCellType globalWireRepeaterType
    routingMode args
  generalize initializedBank el memCellType globalWireRepeaterType routingMode args = b at *
  have hrecord {q : BankParams} {numAddressBit : ℤ} {bits : Option (ℕ × ℕ)}
      {matParams : MatParams}
      (hmat : args.clampActive.matCall memCellType numAddressBit bits = some (q, matParams)) :
      args.restoreMux q = args.clampActive := by
    -- the mux degrees of the call are put back, whatever ways were added to them
    obtain ⟨-, numWay, -, rfl, -⟩ := BankParams.matCall_eq_some hmat
    exact BankParams.restoreMux_expandDataMux memCellType numWay args args.clampActive
  cases routingMode with
  | nonHTree =>
      obtain ⟨-, hinvalid, -⟩ | ⟨-, ⟨-, rfl⟩ | ⟨q, matParams, hmat, ⟨-, rfl⟩ | ⟨-, rfl⟩⟩⟩ :=
        initializeBankWithoutHtree_cases el memCellType globalWireRepeaterType args
          (Option.some.inj hinit)
      · rw [hvalid] at hinvalid
        cases hinvalid
      · cases hvalid
      · cases hvalid
      · rw [hrecord hmat]
        exact ⟨_, rfl⟩
  | hTree =>
      obtain ⟨b', hb', rfl⟩ := Option.map_eq_some_iff.1 hinit
      obtain ⟨s, q, matParams, -, hmat, -, rfl⟩ := initializeBankWithHtree_valid hb' hvalid
      rw [hrecord hmat]
      exact ⟨_, rfl⟩

/-- Whether a bank gets initialised depends neither on the wires nor on the
organisation. -/
theorem initialized_initializedBank_iff :
    (initializedBank el memCellType globalWireRepeaterType routingMode args).initialized = true ↔
      args.Supported memCellType routingMode := by
  have hinit := initializeBank_eq_initializedBank el memCellType globalWireRepeaterType
    routingMode args
  generalize initializedBank el memCellType globalWireRepeaterType routingMode args = b at *
-- only a sensing scheme that is not supported leaves before the flag is set
  cases routingMode with
  | nonHTree =>
      rw [← Option.some.inj hinit]
      cases hexternal : args.externalSensing memCellType globalWireRepeaterType with
      | none =>
          rw [initialized_initializeBankWithoutHtree hexternal]
          have hsensed := BankParams.externalSensing_eq_none_iff.1 hexternal
          apply iff_of_true rfl
          rcases hsensed with hinternal | ⟨-, hdram, -⟩
          · exact .inl hinternal
          · exact .inr ⟨rfl, hdram⟩
      | some bank =>
          rw [← BankParams.externalSensing_initialized_iff hexternal]
          unfold initializeBankWithoutHtree
          simp only [hexternal]
  | hTree =>
      obtain ⟨b', hb', rfl⟩ := Option.map_eq_some_iff.1 hinit
      obtain ⟨b'', hb'', hcases⟩ := initializeBankWithHtree_cases el memCellType args
      rw [hb'] at hb''
      obtain rfl := Option.some.inj hb''
      unfold BankParams.Supported
      obtain ⟨hexternal, rfl⟩ |
          ⟨hinternal, ⟨-, rfl⟩ | ⟨s, -, ⟨-, rfl⟩ | ⟨q, matParams, -, rfl⟩⟩⟩ := hcases
      · simp [hexternal, BankWithHtree.rejected, Bank.unsupported]
      · exact iff_of_true rfl (.inl hinternal)
      · exact iff_of_true rfl (.inl hinternal)
      · refine iff_of_true ?_ (.inl hinternal)
        unfold BankWithHtree.arrived
        split
        · rfl
        · rfl

/-- A valid bank has a sensing scheme that its organisation supports. -/
theorem sensed_of_valid
    (hvalid : (initializedBank el memCellType globalWireRepeaterType routingMode args).invalid =
      false) :
    args.Sensed memCellType globalWireRepeaterType routingMode := by
  cases routingMode with
  | nonHTree =>
      have hinit := initializeBank_eq_initializedBank el memCellType globalWireRepeaterType
        .nonHTree args
      obtain ⟨-, hinvalid, -⟩ | ⟨hsensed, -⟩ :=
        initializeBankWithoutHtree_cases el memCellType globalWireRepeaterType args
          (Option.some.inj hinit)
      · rw [hvalid] at hinvalid
        cases hinvalid
      · exact hsensed
  | hTree =>
      obtain ⟨mat, hmat⟩ := initializedBank_valid hvalid
      have hsupported := initialized_initializedBank_iff.1 (congrArg Bank.initialized hmat)
      rcases hsupported with hinternal | ⟨h, -⟩
      · exact .inl hinternal
      · cases h

/-- Initialising a valid bank from its record gives the same bank. -/
theorem initializedBank_clampActive
    (hvalid : (initializedBank el memCellType globalWireRepeaterType routingMode args).invalid =
      false) :
    initializedBank el memCellType globalWireRepeaterType routingMode args.clampActive =
      initializedBank el memCellType globalWireRepeaterType routingMode args := by
  have hsensed := sensed_of_valid hvalid
  apply Option.some.inj
  rw [← initializeBank_eq_initializedBank, ← initializeBank_eq_initializedBank]
  cases routingMode with
  | nonHTree =>
      have hclamped : args.clampActive.Sensed memCellType globalWireRepeaterType .nonHTree :=
        hsensed
      rw [← BankParams.externalSensing_eq_none_iff] at hsensed hclamped
      unfold initializeBank initializeBankWithoutHtree
      simp only [hsensed, hclamped, BankParams.clampActive_clampActive]
      rfl
  | hTree =>
      have hinternal : args.internalSenseAmp = true := by
        rcases hsensed with hinternal | ⟨h, -⟩
        · exact hinternal
        · cases h
      have hclamped : args.clampActive.internalSenseAmp = true := hinternal
      unfold initializeBank initializeBankWithHtree
      simp only [hinternal, hclamped, BankParams.clampActive_clampActive]
      rfl

end Initialize

/-! ## The evaluation of a record -/

variable {K : Type} [Field K] [LinearOrder K]

section Evaluate

variable {models : Models K} {settings : Settings K} {cell : MemCell K}
  {localWire globalWire : Wire} {args : BankParams}

variable (models settings cell localWire globalWire args) in
theorem toBank_evaluate :
    (evaluate models settings cell localWire globalWire args).toBank =
      checkAspectRatio models localWire globalWire
        (initializedBank (models.electrical localWire globalWire) cell.memCellType
          globalWire.wireRepeaterType settings.routingMode args) := by
  unfold evaluate calculate
  rw [MemCell.memCellType_memoised]
  dsimp only
  split
  · rfl
  · split
    · rfl
    · rfl

omit [Field K] [LinearOrder K] in
theorem initialized_checkAspectRatio (models : Models K) (localWire globalWire : Wire)
    (bank : Bank) :
    (checkAspectRatio models localWire globalWire bank).initialized = bank.initialized := by
  unfold checkAspectRatio
  split
  · rfl
  · rfl

omit [Field K] [LinearOrder K] in
theorem checkAspectRatio_valid {bank : Bank}
    (hvalid : (checkAspectRatio models localWire globalWire bank).invalid = false) :
    checkAspectRatio models localWire globalWire bank = bank := by
  unfold checkAspectRatio at hvalid ⊢
  split at hvalid
  · cases hvalid
  · rename_i h
    exact if_neg h

/-- A valid evaluated bank is what `Initialize` left. -/
theorem toBank_evaluate_of_valid
    (hvalid : (evaluate models settings cell localWire globalWire args).invalid = false) :
    (evaluate models settings cell localWire globalWire args).toBank =
      initializedBank (models.electrical localWire globalWire) cell.memCellType
        globalWire.wireRepeaterType settings.routingMode args := by
  have htoBank := toBank_evaluate models settings cell localWire globalWire args
  rw [htoBank] at hvalid ⊢
  exact checkAspectRatio_valid hvalid

theorem supported_of_valid
    (hvalid : (evaluate models settings cell localWire globalWire args).invalid = false) :
    args.Supported cell.memCellType settings.routingMode := by
  have htoBank := toBank_evaluate_of_valid hvalid
  rw [htoBank] at hvalid
  obtain ⟨mat, hmat⟩ := initializedBank_valid hvalid
  exact initialized_initializedBank_iff.1 (congrArg Bank.initialized hmat)

/-- The record of a valid evaluated bank. -/
theorem toBankParams_evaluate
    (hvalid : (evaluate models settings cell localWire globalWire args).invalid = false) :
    (evaluate models settings cell localWire globalWire args).toBankParams = args.clampActive := by
  have htoBank := toBank_evaluate_of_valid hvalid
  rw [htoBank] at hvalid ⊢
  obtain ⟨mat, hmat⟩ := initializedBank_valid hvalid
  rw [hmat]

/-- The record of a valid bank is evaluated to the same bank. -/
theorem evaluate_clampActive
    (hvalid : (evaluate models settings cell localWire globalWire args).invalid = false) :
    evaluate models settings cell localWire globalWire args.clampActive =
      evaluate models settings cell localWire globalWire args := by
  have htoBank := toBank_evaluate_of_valid hvalid
  rw [htoBank] at hvalid
  unfold evaluate calculate
  rw [MemCell.memCellType_memoised, initializedBank_clampActive hvalid]

/-- An invalid bank that was initialised has the measures of an invalid one. -/
theorem toFunctionUnit_evaluate_of_invalid
    (hsupported : args.Supported cell.memCellType settings.routingMode)
    (hinvalid : (evaluate models settings cell localWire globalWire args).invalid = true) :
    (evaluate models settings cell localWire globalWire args).toFunctionUnit =
      .invalid settings := by
  have htoBank := toBank_evaluate models settings cell localWire globalWire args
  rw [htoBank] at hinvalid
  have hinitialized := initialized_checkAspectRatio models localWire globalWire
    (initializedBank (models.electrical localWire globalWire)
      cell.memCellType globalWire.wireRepeaterType settings.routingMode args)
  rw [initialized_initializedBank_iff.2 hsupported] at hinitialized
  unfold evaluate calculate
  rw [MemCell.memCellType_memoised]
  dsimp only
  rw [if_neg (ne_of_eq_of_ne hinitialized Bool.noConfusion), if_pos hinvalid]

end Evaluate

/-- The product of two worst cases exceeds the limit of a fresh result. -/
theorem not_allow_invalid [IsStrictOrderedRing K] (settings : Settings K) :
    ¬ (Limits.unconstrained : Limits K).Allow (.invalid settings) := by
  intro hallow
  have hlt : (worstCase : K) < worstCase * worstCase := by
    apply lt_mul_of_one_lt_left worstCase_pos
    apply one_lt_pow₀
    · norm_num
    · norm_num
  have hedp := hallow.2.2.2.2.1
  have hmeasures : (FunctionUnit.invalid settings : FunctionUnit K).readLatency *
      (FunctionUnit.invalid settings : FunctionUnit K).readDynamicEnergy =
        worstCase * worstCase := by
    unfold FunctionUnit.invalid
    cases settings.routingMode with
    | hTree => rfl
    | nonHTree => rfl
  rw [hmeasures] at hedp
  exact absurd hedp (not_le.2 hlt)

/-! ## Results that are refined -/

section Refine

variable (models : Models K) (settings : Settings K) (memoryType : MemoryType) (cell : MemCell K)

/-- A wire as the program initialises it. -/
def Wire.Initialized (wire : Wire) : Prop :=
  wire = initializeWire settings.processNode wire.toWireKind settings.temperature

/-- A result of a search loop: a valid bank, evaluated with its wires from some
arguments, that no design constraint was applied to yet. -/
structure Result.Found (r : Result K) : Prop where
  limits : r.toLimits = .unconstrained
  localWire : r.localWire.Initialized settings
  globalWire : r.globalWire.Initialized settings
  valid : r.bank.invalid = false
  evaluated : ∃ args : BankParams, args.internalSenseAmp = settings.internalSensing ∧
    args.memoryType = memoryType ∧
    r.bank = evaluate models settings cell r.localWire r.globalWire args

/-- What holds of a result throughout the refinement: it is the evaluation of its
own record with its own wires. -/
structure Result.Consistent (r : Result K) : Prop where
  limits : r.toLimits = .unconstrained
  localWire : r.localWire.Initialized settings
  globalWire : r.globalWire.Initialized settings
  valid : r.bank.invalid = false
  internalSenseAmp : r.bank.internalSenseAmp = settings.internalSensing
  memoryType : r.bank.memoryType = memoryType
  clamped : r.bank.clampActive = r.bank.toBankParams
  evaluated : evaluate models settings cell r.localWire r.globalWire r.bank.toBankParams = r.bank

variable {models settings memoryType cell}

theorem Result.Found.consistent {r : Result K} (h : r.Found models settings memoryType cell) :
    r.Consistent models settings memoryType cell := by
  obtain ⟨args, hsense, htype, hbank⟩ := h.evaluated
  have hvalid := h.valid
  rw [hbank] at hvalid
  have hrecord : r.bank.toBankParams = args.clampActive := by
    rw [hbank]
    exact toBankParams_evaluate hvalid
  refine ⟨h.limits, h.localWire, h.globalWire, h.valid, ?_, ?_, ?_, ?_⟩
  · rw [hrecord]
    exact hsense
  · rw [hrecord]
    exact htype
  · rw [hrecord]
    exact args.clampActive_clampActive
  · rw [hrecord, evaluate_clampActive hvalid, ← hbank]

/-- The record evaluated with other wires. -/
def Result.trial (models : Models K) (settings : Settings K) (cell : MemCell K) (r : Result K)
    (localWire globalWire : Wire) : Design K :=
  evaluatedDesign models settings cell localWire globalWire r.bank.toBankParams

namespace Result.Consistent

variable {r : Result K}

/-- `TRY_AND_UPDATE` initialises the trial bank with the record. -/
theorem retryArgs (h : r.Consistent models settings memoryType cell) :
    RefineState.retryArgs settings memoryType r.bank.toBank = r.bank.toBankParams := by
  unfold RefineState.retryArgs
  rw [← h.internalSenseAmp, ← h.memoryType]

/-- `Initialize` rebuilds the bank from its record. -/
theorem initializeBank_record (h : r.Consistent models settings memoryType cell) :
    initializeBank (models.electrical r.localWire r.globalWire) cell.memCellType
        r.globalWire.wireRepeaterType settings.routingMode r.bank.toBankParams =
      some r.bank.toBank := by
  have hvalid := h.valid
  rw [← h.evaluated] at hvalid
  rw [initializeBank_eq_initializedBank, ← toBank_evaluate_of_valid hvalid, h.evaluated]

/-- A trial within the limits is valid: an invalid one exceeds them, and one that is
not initialised does not occur for the record of a valid bank. -/
theorem trial_valid [IsStrictOrderedRing K] (h : r.Consistent models settings memoryType cell)
    {localWire globalWire : Wire}
    (hallow : r.toLimits.Allow
      (r.trial models settings cell localWire globalWire).bank.toFunctionUnit) :
    (r.trial models settings cell localWire globalWire).bank.invalid = false := by
  have hvalid := h.valid
  rw [← h.evaluated] at hvalid
  have hsupported := supported_of_valid hvalid
  by_contra hinvalid
  rw [Bool.not_eq_false] at hinvalid
  -- the worst case in every measure, and its square in the products
  have hmeasures := toFunctionUnit_evaluate_of_invalid hsupported hinvalid
  rw [h.limits] at hallow
  apply not_allow_invalid settings
  rw [← hmeasures]
  exact hallow

/-- Comparing with a trial keeps a result consistent, and its organisation. -/
theorem compareAndUpdate [IsStrictOrderedRing K]
    (h : r.Consistent models settings memoryType cell) {localWire globalWire : Wire}
    (hlocal : localWire.Initialized settings) (hglobal : globalWire.Initialized settings) :
    (r.compareAndUpdate (r.trial models settings cell localWire globalWire)).Consistent models
        settings memoryType cell ∧
      (r.compareAndUpdate (r.trial models settings cell localWire globalWire)).bank.toBankParams =
        r.bank.toBankParams := by
  rcases r.compareAndUpdate_cases (r.trial models settings cell localWire globalWire) with
    ⟨hallow, -, hhold⟩ | ⟨-, hkeep⟩
  · -- the trial replaces the result; its record is the old one
    have hvalid := h.trial_valid hallow
    have hrecord : (r.trial models settings cell localWire globalWire).bank.toBankParams =
        r.bank.toBankParams :=
      (toBankParams_evaluate hvalid).trans h.clamped
    rw [hhold]
    refine ⟨⟨h.limits, hlocal, hglobal, hvalid, ?_, ?_, ?_, ?_⟩, hrecord⟩
    · exact (congrArg BankParams.internalSenseAmp hrecord).trans h.internalSenseAmp
    · exact (congrArg BankParams.memoryType hrecord).trans h.memoryType
    · exact (congrArg BankParams.clampActive hrecord).trans (h.clamped.trans hrecord.symm)
    · show evaluate models settings cell localWire globalWire
        (r.trial models settings cell localWire globalWire).bank.toBankParams = _
      rw [hrecord]
      rfl
  · rw [hkeep]
    exact ⟨h, rfl⟩

end Result.Consistent

/-! ## Steps and runs -/

/-- The steps about the wires and about one of the eight targets. -/
def RefineStep.Searched : RefineStep → Prop
  | .localWire _ => True
  | .globalWire _ => True
  | .refineLocal target => target ≠ .fullExploration
  | .refineGlobal target => target ≠ .fullExploration

namespace RefineState

variable (models settings memoryType cell) in
/-- The invariant of the refinement loops. -/
structure Inv (s : RefineState K) : Prop where
  memoised : s.cell.memoised models.vdd = cell.memoised models.vdd
  localWire : s.localWire.Initialized settings
  globalWire : s.globalWire.Initialized settings
  optimizationTarget : ∀ target, target ≠ .fullExploration →
    (s.results target).optimizationTarget = target
  consistent : ∀ target, target ≠ .fullExploration →
    (s.results target).Consistent models settings memoryType cell

/-- What the refinement of the global wire leaves of a result, apart from making its
objective better. -/
structure Keeps (r r' : Result K) : Prop where
  localWire : r'.localWire = r.localWire
  record : r'.bank.toBankParams = r.bank.toBankParams
  objective : r'.objective ≤ r.objective

theorem Keeps.refl (r : Result K) : Keeps r r := ⟨rfl, rfl, le_rfl⟩

theorem Keeps.trans {r r' r'' : Result K} (h : Keeps r r') (h' : Keeps r' r'') : Keeps r r'' :=
  ⟨h'.localWire.trans h.localWire, h'.record.trans h.record, h'.objective.trans h.objective⟩

variable {s : RefineState K}

/-- A try compares the result of its target with its record's trial. -/
theorem Inv.results_tryAndUpdate (h : s.Inv models settings memoryType cell)
    {target : OptimizationTarget} (htarget : target ≠ .fullExploration) :
    (s.tryAndUpdate models settings memoryType target).results =
      Function.update s.results target ((s.results target).compareAndUpdate
        ((s.results target).trial models settings cell s.localWire s.globalWire)) := by
  unfold tryAndUpdate
  dsimp only
  rw [calculate_eq_evaluate, ← evaluate_memoised, h.memoised, evaluate_memoised,
    (h.consistent target htarget).retryArgs]
  rfl

theorem Inv.tryAndUpdate [IsStrictOrderedRing K] (h : s.Inv models settings memoryType cell)
    {target : OptimizationTarget} (htarget : target ≠ .fullExploration) :
    (s.tryAndUpdate models settings memoryType target).Inv models settings memoryType cell := by
  have hresults := h.results_tryAndUpdate htarget
  refine ⟨?_, h.localWire, h.globalWire, ?_, ?_⟩
  · unfold RefineState.tryAndUpdate
    rw [memoised_calculate, h.memoised]
  · intro other hother
    rw [hresults]
    by_cases heq : other = target
    · subst heq
      rw [Function.update_self, Result.compareAndUpdate_optimizationTarget]
      exact h.optimizationTarget other hother
    · rw [Function.update_of_ne heq]
      exact h.optimizationTarget other hother
  · intro other hother
    rw [hresults]
    by_cases heq : other = target
    · subst heq
      rw [Function.update_self]
      exact ((h.consistent other hother).compareAndUpdate h.localWire h.globalWire).1
    · rw [Function.update_of_ne heq]
      exact h.consistent other hother

theorem Inv.localWire_loadLocalWire (h : s.Inv models settings memoryType cell)
    {target : OptimizationTarget} (htarget : target ≠ .fullExploration) :
    (s.loadLocalWire settings target).localWire = (s.results target).localWire :=
  (h.consistent target htarget).localWire.symm

theorem Inv.loadGlobalWire (h : s.Inv models settings memoryType cell)
    (target : OptimizationTarget) :
    (s.loadGlobalWire settings target).Inv models settings memoryType cell :=
  ⟨h.memoised, h.localWire, rfl, h.optimizationTarget, h.consistent⟩

theorem Inv.loadLocalWire (h : s.Inv models settings memoryType cell)
    (target : OptimizationTarget) :
    (s.loadLocalWire settings target).Inv models settings memoryType cell :=
  ⟨h.memoised, rfl, h.globalWire, h.optimizationTarget, h.consistent⟩

/-- One step keeps the invariant. -/
theorem Inv.step [IsStrictOrderedRing K] (h : s.Inv models settings memoryType cell)
    (st : RefineStep) (hst : st.Searched) :
    (s.step models settings memoryType st).Inv models settings memoryType cell := by
  cases st with
  | localWire kind =>
      exact ⟨h.memoised, rfl, h.globalWire, h.optimizationTarget, h.consistent⟩
  | globalWire kind =>
      exact ⟨h.memoised, h.localWire, rfl, h.optimizationTarget, h.consistent⟩
  | refineLocal target => exact (h.loadGlobalWire target).tryAndUpdate hst
  | refineGlobal target => exact (h.loadLocalWire target).tryAndUpdate hst

theorem Inv.run [IsStrictOrderedRing K] (h : s.Inv models settings memoryType cell)
    {steps : List RefineStep} (hsteps : ∀ st ∈ steps, st.Searched) :
    (s.run models settings memoryType steps).Inv models settings memoryType cell := by
  induction steps generalizing s with
  | nil => exact h
  | cons st steps ih =>
      apply ih (h.step st (hsteps st List.mem_cons_self))
      intro st' hst'
      exact hsteps st' (List.mem_cons_of_mem st hst')

/-- A try does not make an objective worse. -/
theorem Inv.objective_tryAndUpdate_le (h : s.Inv models settings memoryType cell)
    {target : OptimizationTarget} (htarget : target ≠ .fullExploration)
    (other : OptimizationTarget) :
    ((s.tryAndUpdate models settings memoryType target).results other).objective ≤
      (s.results other).objective := by
  rw [h.results_tryAndUpdate htarget]
  by_cases heq : other = target
  · subst heq
    rw [Function.update_self]
    exact Result.objective_compareAndUpdate_le _ _
  · rw [Function.update_of_ne heq]

theorem Inv.objective_step_le (h : s.Inv models settings memoryType cell) {st : RefineStep}
    (hst : st.Searched) (other : OptimizationTarget) :
    ((s.step models settings memoryType st).results other).objective ≤
      (s.results other).objective := by
  cases st with
  | localWire kind => exact le_rfl
  | globalWire kind => exact le_rfl
  | refineLocal target => exact (h.loadGlobalWire target).objective_tryAndUpdate_le hst other
  | refineGlobal target => exact (h.loadLocalWire target).objective_tryAndUpdate_le hst other

/-! ## The global wires -/

variable (models settings cell) in
/-- No admissible trial of the record with a global wire of this kind is better. -/
def GlobalOptimal (kind : WireKind) (target : OptimizationTarget) (r : Result K) : Prop :=
  let trial := evaluate models settings cell r.localWire
    (initializeWire settings.processNode kind settings.temperature) r.bank.toBankParams
  trial.invalid = false → Limits.unconstrained.Allow trial.toFunctionUnit →
    r.objective ≤ trial.objective target

theorem GlobalOptimal.of_keeps {kind : WireKind} {target : OptimizationTarget} {r r' : Result K}
    (h : GlobalOptimal models settings cell kind target r) (hkeeps : Keeps r r') :
    GlobalOptimal models settings cell kind target r' := by
  unfold GlobalOptimal at h ⊢
  rw [hkeeps.localWire, hkeeps.record]
  intro trial hvalid hallow
  exact hkeeps.objective.trans (h hvalid hallow)

/-- Trying a global wire for one target: the other results are untouched, the local
wire and the organisation stay, and the wire is not better any more. -/
theorem Inv.refineGlobal [IsStrictOrderedRing K] (h : s.Inv models settings memoryType cell)
    {target : OptimizationTarget} (htarget : target ≠ .fullExploration) {kind : WireKind}
    (hwire : s.globalWire = initializeWire settings.processNode kind settings.temperature) :
    (∀ other, Keeps (s.results other)
        ((s.step models settings memoryType (.refineGlobal target)).results other)) ∧
      GlobalOptimal models settings cell kind target
        ((s.step models settings memoryType (.refineGlobal target)).results target) := by
  have hconsistent := h.consistent target htarget
  have hresults := (h.loadLocalWire target).results_tryAndUpdate htarget
  rw [h.localWire_loadLocalWire htarget] at hresults
  have hstep : (s.step models settings memoryType (.refineGlobal target)).results =
      Function.update s.results target ((s.results target).compareAndUpdate
        ((s.results target).trial models settings cell (s.results target).localWire
          s.globalWire)) := hresults
  have hcases := (s.results target).compareAndUpdate_cases
    ((s.results target).trial models settings cell (s.results target).localWire s.globalWire)
  have hkeeps : Keeps (s.results target) ((s.results target).compareAndUpdate
      ((s.results target).trial models settings cell (s.results target).localWire
        s.globalWire)) := by
    refine ⟨?_, ?_, Result.objective_compareAndUpdate_le _ _⟩
    · rcases hcases with ⟨-, -, hhold⟩ | ⟨-, hkeep⟩
      · rw [hhold]
        rfl
      · rw [hkeep]
    · exact (hconsistent.compareAndUpdate hconsistent.localWire h.globalWire).2
  rw [hstep]
  constructor
  · intro other
    by_cases heq : other = target
    · subst heq
      rw [Function.update_self]
      exact hkeeps
    · rw [Function.update_of_ne heq]
      exact Keeps.refl _
  · rw [Function.update_self]
    unfold GlobalOptimal
    rw [hkeeps.localWire, hkeeps.record, ← hwire]
-- the only trial with this wire was compared: it is held, or it was not better
    intro trial _ hallow
    rcases hcases with ⟨-, -, hhold⟩ | ⟨hle, hkeep⟩
    · have hobjective : ((s.results target).hold
          ((s.results target).trial models settings cell (s.results target).localWire
            s.globalWire)).optimizationTarget = target :=
        h.optimizationTarget target htarget
      rw [hhold, Result.objective, hobjective]
      exact le_rfl
    · rw [hkeep]
      rw [h.optimizationTarget target htarget, hconsistent.limits] at hle
      exact hle hallow

/-- One global wire, tried for a list of targets. -/
theorem Inv.run_refineGlobal [IsStrictOrderedRing K]
    (h : s.Inv models settings memoryType cell) {targets : List OptimizationTarget}
    (htargets : ∀ target ∈ targets, target ≠ .fullExploration) {kind : WireKind}
    (hwire : s.globalWire = initializeWire settings.processNode kind settings.temperature) :
    (∀ other, Keeps (s.results other)
        ((s.run models settings memoryType (targets.map .refineGlobal)).results other)) ∧
      ∀ target ∈ targets, GlobalOptimal models settings cell kind target
        ((s.run models settings memoryType (targets.map .refineGlobal)).results target) := by
  induction targets generalizing s with
  | nil => exact ⟨fun other => Keeps.refl _, fun target htarget => absurd htarget List.not_mem_nil⟩
  | cons target targets ih =>
      have htarget := htargets target List.mem_cons_self
      -- the global wire is still the refined one, since only the local wire was loaded
      obtain ⟨hkeeps, hoptimal⟩ := h.refineGlobal htarget hwire
      have hinv := h.step (.refineGlobal target) htarget
      obtain ⟨hkeeps', hoptimal'⟩ := ih hinv
        (fun other hother => htargets other (List.mem_cons_of_mem target hother)) hwire
      refine ⟨fun other => (hkeeps other).trans (hkeeps' other), fun other hother => ?_⟩
      rcases List.mem_cons.1 hother with rfl | hother
      · exact hoptimal.of_keeps (hkeeps' _)
      · exact hoptimal' other hother

/-- The second refinement loop: at its end no global wire it tried is better. -/
theorem Inv.run_globalKinds [IsStrictOrderedRing K]
    (h : s.Inv models settings memoryType cell) (kinds : List WireKind) :
    (∀ other, Keeps (s.results other) ((s.run models settings memoryType
        (kinds.flatMap fun kind =>
          .globalWire kind :: OptimizationTarget.searched.map .refineGlobal)).results other)) ∧
      ∀ kind ∈ kinds, ∀ target, target ≠ .fullExploration →
        GlobalOptimal models settings cell kind target ((s.run models settings memoryType
          (kinds.flatMap fun kind =>
            .globalWire kind :: OptimizationTarget.searched.map .refineGlobal)).results
              target) := by
  induction kinds generalizing s with
  | nil => exact ⟨fun other => Keeps.refl _, fun kind hkind => absurd hkind List.not_mem_nil⟩
  | cons kind kinds ih =>
      have hwire := h.step (.globalWire kind) trivial
      obtain ⟨hkeeps, hoptimal⟩ := hwire.run_refineGlobal
        (fun target => OptimizationTarget.ne_of_mem_searched) rfl
      have hsearched : ∀ st ∈ OptimizationTarget.searched.map RefineStep.refineGlobal,
          st.Searched := by
        intro st hst
        obtain ⟨target, htarget, rfl⟩ := List.mem_map.1 hst
        exact OptimizationTarget.ne_of_mem_searched htarget
      obtain ⟨hkeeps', hoptimal'⟩ := ih (hwire.run hsearched)
      rw [List.flatMap_cons, List.cons_append, RefineState.run, List.foldl_cons, List.foldl_append]
      refine ⟨fun other => (hkeeps other).trans (hkeeps' other), fun other hother => ?_⟩
      intro target htarget
      rcases List.mem_cons.1 hother with rfl | hother
      · exact (hoptimal target (OptimizationTarget.mem_searched htarget)).of_keeps
          (hkeeps' target)
      · exact hoptimal' other hother target htarget

end RefineState

omit [Field K] [LinearOrder K] in
theorem InputParameter.searched_refineSteps (ip : InputParameter K) :
    ∀ st ∈ ip.refineSteps, st.Searched := by
  intro st hst
  unfold InputParameter.refineSteps at hst
  rcases List.mem_append.1 hst with hst | hst
  · obtain ⟨kind, -, hst⟩ := List.mem_flatMap.1 hst
    rcases List.mem_cons.1 hst with rfl | hst
    · trivial
    · obtain ⟨target, htarget, rfl⟩ := List.mem_map.1 hst
      exact OptimizationTarget.ne_of_mem_searched htarget
  · obtain ⟨kind, -, hst⟩ := List.mem_flatMap.1 hst
    rcases List.mem_cons.1 hst with rfl | hst
    · trivial
    · obtain ⟨target, htarget, rfl⟩ := List.mem_map.1 hst
      exact OptimizationTarget.ne_of_mem_searched htarget

end Refine

/-- The refinement of the wires, for any search range of the wires and any eight
results of a search.  After every prefix of the two loops each result is valid, is
the evaluation of its own record with its own wires, and its record initialises the
same bank again; no statement makes an objective worse; and at the end no global
wire of the range is better for a result with its organisation and its local wire. -/
theorem wire_refinement [IsStrictOrderedRing K] (models : Models K) (ip : InputParameter K)
    (memoryType : MemoryType) (start : RefineState K)
    (hlocal : start.localWire.Initialized ip.toSettings)
    (hglobal : start.globalWire.Initialized ip.toSettings)
    (htargets : ∀ target, target ≠ .fullExploration →
      (start.results target).optimizationTarget = target)
    (hfound : ∀ target, target ≠ .fullExploration →
      (start.results target).Found models ip.toSettings memoryType start.cell) :
    (∀ done rest, ip.refineSteps = done ++ rest → ∀ target, target ≠ .fullExploration →
      ∀ r, (start.run models ip.toSettings memoryType done).results target = r →
        r.bank.invalid = false ∧
          evaluate models ip.toSettings start.cell r.localWire r.globalWire r.bank.toBankParams =
            r.bank ∧
          initializeBank (models.electrical r.localWire r.globalWire) start.cell.memCellType
              r.globalWire.wireRepeaterType ip.routingMode r.bank.toBankParams =
            some r.bank.toBank) ∧
      (∀ done st rest, ip.refineSteps = done ++ st :: rest →
        ∀ target, target ≠ .fullExploration →
          ((start.run models ip.toSettings memoryType (done ++ [st])).results target).objective ≤
            ((start.run models ip.toSettings memoryType done).results target).objective) ∧
      ∀ kind ∈ ip.globalKinds, ∀ target, target ≠ .fullExploration →
        ∀ r, (start.run models ip.toSettings memoryType ip.refineSteps).results target = r →
          ∀ trial, evaluate models ip.toSettings start.cell r.localWire
              (initializeWire ip.processNode kind ip.temperature) r.bank.toBankParams = trial →
            trial.invalid = false → Limits.unconstrained.Allow trial.toFunctionUnit →
              r.objective ≤ trial.objective target := by
  have hstart : start.Inv models ip.toSettings memoryType start.cell :=
    ⟨rfl, hlocal, hglobal, htargets, fun target htarget => (hfound target htarget).consistent⟩
  have hsearched := ip.searched_refineSteps
  have hdone {done rest : List RefineStep} (hsteps : ip.refineSteps = done ++ rest) :
      (start.run models ip.toSettings memoryType done).Inv models ip.toSettings memoryType
        start.cell := by
    refine hstart.run fun st hst => hsearched st ?_
    rw [hsteps]
    exact List.mem_append_left rest hst
  refine ⟨?_, ?_, ?_⟩
  · rintro done rest hsteps target htarget r rfl
    have hconsistent := (hdone hsteps).consistent target htarget
    exact ⟨hconsistent.valid, hconsistent.evaluated, hconsistent.initializeBank_record⟩
  · intro done st rest hsteps target _
    rw [RefineState.run, RefineState.run, List.foldl_append]
    refine (hdone hsteps).objective_step_le (hsearched st ?_) target
    rw [hsteps]
    exact List.mem_append_right done List.mem_cons_self
  · rintro kind hkind target htarget r rfl trial rfl
    have hlocalPart := hdone rfl
    have hoptimal := (hlocalPart.run_globalKinds ip.globalKinds).2 kind hkind target htarget
    rw [InputParameter.refineSteps, RefineState.run, List.foldl_append]
    exact hoptimal

/-- Circuits whose area depends on the global wire, for examples. -/
def wiredModels : Models ℚ :=
  .permissive fun _ globalWire =>
    { Design.unit.bank.toFunctionUnit with
      area := if globalWire.wireType = .globalConservative then 1 else 2 }

/-- Eight results that hold the evaluation of a small bank, for examples. -/
def RefineState.small : RefineState ℚ where
  cell := .sram
  localWire := initializeWire 90 Wire.fresh.toWireKind 300
  globalWire := initializeWire 90 Wire.fresh.toWireKind 300
  tempResult := .unit
  results := fun target => (Result.new target).hold
    (evaluatedDesign wiredModels InputParameter.small.toSettings .sram
      (initializeWire 90 Wire.fresh.toWireKind 300)
      (initializeWire 90 Wire.fresh.toWireKind 300) .small)

/-- The second global wire of the range halves the area. -/
theorem wire_refinement_small :
    (RefineState.small.results .areaOptimized).bank.area = 2 ∧
      ∃ refined, RefineState.small.run wiredModels InputParameter.small.toSettings .data
          (InputParameter.small : InputParameter ℚ).refineSteps = refined ∧
        (refined.results .areaOptimized).bank.invalid = false ∧
        (refined.results .areaOptimized).globalWire.wireType = .globalConservative ∧
        (refined.results .areaOptimized).objective ≤ 1 := by
  have hrefined := wire_refinement wiredModels .small .data .small rfl rfl (fun _ _ => rfl)
    fun _ _ => ⟨rfl, rfl, rfl, rfl, .small, rfl, rfl, rfl⟩
  have hprefix : (InputParameter.small : InputParameter ℚ).refineSteps =
      InputParameter.small.refineSteps ++ [] := (List.append_nil _).symm
  have hkind : (WireKind.mk .globalConservative .repeatedNone false (.inl rfl)) ∈
      (InputParameter.small : InputParameter ℚ).globalKinds := by
    decide
  have hvalid := (hrefined.1 _ _ hprefix .areaOptimized (by decide) _ rfl).1
  have hbest := hrefined.2.2 _ hkind .areaOptimized (by decide) _ rfl _ rfl
    (by decide +kernel) (by decide +kernel)
  refine ⟨by decide +kernel, _, rfl, hvalid, by decide +kernel, hbest.trans ?_⟩
  decide +kernel

end NVSim
