import NVSim.Library.LastWrite
import NVSim.Model.Search

/-!
# Reading the file a second time

After the tag search the search space is restored and the file is read again.  Each
field of the settings is written or kept by every line, or multiplied, starting from
zero.  So the settings are the ones of the first reading.  The search space can differ
in the bound of `numRowPerSet`, which the macro takes from the associativity.
-/

namespace NVSim

open Library

variable {K : Type}

/-! ## Settings -/

/-- The fields that all lines write or keep as a whole. -/
inductive Settings.IsPlain : {α : Type} → (Settings K → α) → Prop
  | designTarget : IsPlain Settings.designTarget
  | optimizationTarget : IsPlain Settings.optimizationTarget
  | processNode : IsPlain Settings.processNode
  | capacity : IsPlain Settings.capacity
  | wordWidth : IsPlain Settings.wordWidth
  | deviceRoadmap : IsPlain Settings.deviceRoadmap
  | fileMemCell : IsPlain Settings.fileMemCell
  | temperature : IsPlain Settings.temperature
  | maxDriverCurrent : IsPlain Settings.maxDriverCurrent
  | writeScheme : IsPlain Settings.writeScheme
  | isConstraintApplied : IsPlain Settings.isConstraintApplied
  | isPruningEnabled : IsPlain Settings.isPruningEnabled
  | useCactiAssumption : IsPlain Settings.useCactiAssumption
  | associativity : IsPlain Settings.associativity
  | cacheAccessMode : IsPlain Settings.cacheAccessMode
  | routingMode : IsPlain Settings.routingMode
  | internalSensing : IsPlain Settings.internalSensing
  | maxNmosSize : IsPlain Settings.maxNmosSize
  | outputFilePrefix : IsPlain Settings.outputFilePrefix

namespace InputParameter

theorem writesOrKeeps_readLine {α : Type} {field : Settings K → α}
    (hfield : Settings.IsPlain field) (line : ConfigLine K) :
    WritesOrKeeps (fun ip : InputParameter K => field ip.toSettings) (readLine · line) := by
  -- most lines are about other fields; a number may be missing in its line
  cases hfield <;> cases line <;> first
    | exact .inr fun _ => rfl
    | exact .inl ⟨_, fun _ => rfl⟩
    | exact .getD _ fun _ => rfl

theorem writesOrKeeps_constraint (target : OptimizationTarget) (line : ConfigLine K) :
    WritesOrKeeps (fun ip : InputParameter K => ip.constraint target) (readLine · line) := by
  cases line with
  | applyConstraint other value =>
      by_cases htarget : target = other
      · subst htarget
        exact .getD value fun ip => Function.update_self _ _ _
      · exact .inr fun ip => Function.update_of_ne htarget _ _
  | _ => exact .inr fun _ => rfl

theorem writesOrScales_pageSize (line : ConfigLine K) :
    WritesOrScales (fun ip : InputParameter K => ip.pageSize) (readLine · line) := by
  cases line with
  | flashPageSize value =>
      cases value with
      | none => exact .inr ⟨8, fun _ => rfl⟩
      | some n => exact .inl ⟨n * 8, fun _ => rfl⟩
  | _ => exact .inr ⟨1, fun ip => (mul_one ip.pageSize).symm⟩

theorem writesOrScales_flashBlockSize (line : ConfigLine K) :
    WritesOrScales (fun ip : InputParameter K => ip.flashBlockSize) (readLine · line) := by
  cases line with
  | flashBlockSize value =>
      cases value with
      | none => exact .inr ⟨8 * 1024, fun _ => rfl⟩
      | some n => exact .inl ⟨n * (8 * 1024), fun _ => rfl⟩
  | _ => exact .inr ⟨1, fun ip => (mul_one ip.flashBlockSize).symm⟩

/-- A second reading does not change the settings, whatever happened to the search
space in between. -/
theorem toSettings_readAgain (file : List (ConfigLine K))
    (between : InputParameter K → InputParameter K)
    (hbetween : ∀ ip, (between ip).toSettings = ip.toSettings) (ip : InputParameter K)
    (hpage : ip.pageSize = 0) (hblock : ip.flashBlockSize = 0) :
    (readInputParameterFromFile file (between (readInputParameterFromFile file ip))).toSettings =
      (readInputParameterFromFile file ip).toSettings := by
  have hplain {α : Type} {field : Settings K → α} (hfield : Settings.IsPlain field) :
      field (readInputParameterFromFile file
          (between (readInputParameterFromFile file ip))).toSettings =
        field (readInputParameterFromFile file ip).toSettings :=
    (WritesOrKeeps.foldl (writesOrKeeps_readLine hfield) file).again
      (fun ip => congrArg field (hbetween ip)) ip
-- the sizes of the flash are multiplied, so they have to start from zero; the rest is written
  apply Settings.ext
  · exact hplain .designTarget
  · exact hplain .optimizationTarget
  · exact hplain .processNode
  · exact hplain .capacity
  · exact hplain .wordWidth
  · exact hplain .deviceRoadmap
  · exact hplain .fileMemCell
  · exact hplain .temperature
  · exact hplain .maxDriverCurrent
  · exact hplain .writeScheme
  · ext target
    exact (WritesOrKeeps.foldl (writesOrKeeps_constraint target) file).again
      (fun ip => congrArg (fun settings => settings.constraint target) (hbetween ip)) ip
  · exact hplain .isConstraintApplied
  · exact hplain .isPruningEnabled
  · exact hplain .useCactiAssumption
  · exact hplain .associativity
  · exact hplain .cacheAccessMode
  · exact (WritesOrScales.foldl writesOrScales_pageSize file).again
      (fun ip => congrArg Settings.pageSize (hbetween ip)) hpage
  · exact (WritesOrScales.foldl writesOrScales_flashBlockSize file).again
      (fun ip => congrArg Settings.flashBlockSize (hbetween ip)) hblock
  · exact hplain .routingMode
  · exact hplain .internalSensing
  · exact hplain .maxNmosSize
  · exact hplain .outputFilePrefix

/-! ## The search space -/

end InputParameter

/-- The second space is the first one, in which a set has one row, but for the bound
on the rows of a set. -/
structure SearchSpace.Widens (s t : SearchSpace) : Prop where
  one : s.numRowPerSet = .only 1
  eq : ∃ n : ℤ, 1 ≤ n ∧ t = { s with numRowPerSet := ⟨1, n⟩ }

namespace InputParameter

/-- Reading a line is the same for both spaces. -/
theorem widens_readLine {ip ip' : InputParameter K}
    (h : ip.toSearchSpace.Widens ip'.toSearchSpace) (line : ConfigLine K) :
    (ip.readLine line).toSearchSpace.Widens (ip'.readLine line).toSearchSpace := by
  obtain ⟨settings, space⟩ := ip
  obtain ⟨settings', space'⟩ := ip'
  obtain ⟨hone, n, hn, heq⟩ := h
  dsimp only at hone heq
  subst heq
  cases line with
  | designTarget tmp =>
      by_cases htmp : tmp = "cache"
      · refine ⟨?_, n, hn, ?_⟩
        · simp only [readLine, htmp, if_true, hone]
        · simp only [readLine, htmp, if_true]
      · refine ⟨?_, 1, le_rfl, ?_⟩
        · simp only [readLine, htmp, if_false]
        · simp only [readLine, htmp, if_false, Range.only]
  | useCactiAssumption tmp =>
      by_cases htmp : tmp = "Yes"
      · refine ⟨?_, n, hn, ?_⟩
        · simp only [readLine, htmp, if_true, SearchSpace.cactiAssumption, hone]
        · simp only [readLine, htmp, if_true, SearchSpace.cactiAssumption]
      · refine ⟨?_, n, hn, ?_⟩
        · simp only [readLine, htmp, if_false, hone]
        · simp only [readLine, htmp, if_false]
-- the other lines look neither at nor after the rows per set
  | _ => exact ⟨hone, n, hn, rfl⟩

theorem widens_read (file : List (ConfigLine K)) {ip ip' : InputParameter K}
    (h : ip.toSearchSpace.Widens ip'.toSearchSpace) :
    (readInputParameterFromFile file ip).toSearchSpace.Widens
      (readInputParameterFromFile file ip').toSearchSpace := by
  unfold readInputParameterFromFile
  induction file generalizing ip ip' with
  | nil => exact h
  | cons line file ih => exact ih (widens_readLine h line)

/-- `applyConstraint` does not look at the search space. -/
theorem applyConstraint_withSpace {memCellType : MemCellType} {ip : InputParameter K}
    (hcache : ip.designTarget = .cache) (h : ip.applyConstraint memCellType = some ip)
    (space : SearchSpace) :
    ({ ip with toSearchSpace := space } : InputParameter K).applyConstraint memCellType =
      some { ip with toSearchSpace := space } := by
  unfold applyConstraint at h ⊢
  simp only [hcache, ne_eq, not_true_eq_false, false_and, if_false, reduceCtorEq] at h ⊢
  split_ifs at h ⊢
  rfl

end InputParameter

/-- The configuration of a cache is what the file says. -/
theorem configure_cache {file : List (ConfigLine K)} {memCellType : MemCellType}
    {start ip : InputParameter K} (h : configure file memCellType start = .ok ip)
    (hcache : ip.designTarget = .cache) :
    InputParameter.readInputParameterFromFile file start.restoreSearchSize = ip ∧
      ip.applyConstraint memCellType = some ip := by
  unfold configure at h
  cases hconstraint : (start.restoreSearchSize.readInputParameterFromFile file).applyConstraint
    memCellType with
  | none =>
      rw [hconstraint] at h
      cases h
  | some ip' =>
      rw [hconstraint] at h
      obtain rfl := Except.ok.inj h
      obtain ⟨-, -, -, -, ⟨-, heq⟩ | ⟨hnocache, heq⟩⟩ :=
        InputParameter.applyConstraint_eq_some hconstraint
      · rw [← heq] at hconstraint
        exact ⟨heq.symm, hconstraint⟩
      · rw [heq] at hcache
        exact absurd hcache hnocache

/-- A cache that was configured is configured in the same way after the tag search,
but for the bound on the rows of a set. -/
theorem configure_again {file : List (ConfigLine K)} {memCellType : MemCellType}
    {start ip : InputParameter K} (hassoc : start.associativity = 1) (hpage : start.pageSize = 0)
    (hblock : start.flashBlockSize = 0) (h : configure file memCellType start = .ok ip)
    (hcache : ip.designTarget = .cache) :
    ip.numRowPerSet = .only 1 ∧ ∃ n : ℤ, 1 ≤ n ∧
      configure file memCellType ip.reduceSearchSize =
        .ok { ip with numRowPerSet := ⟨1, n⟩ } := by
  obtain ⟨hread, hconstraint⟩ := configure_cache h hcache
  obtain ⟨hpow, -⟩ := InputParameter.applyConstraint_eq_some hconstraint
  have hone : 1 ≤ ip.associativity := by
    have hpos := Nat.pos_of_isPowerOfTwo hpow
    omega
  -- the first space was restored with the associativity one
  have hspaces : start.restoreSearchSize.toSearchSpace.Widens
      ip.reduceSearchSize.restoreSearchSize.toSearchSpace := by
    refine ⟨?_, ip.associativity, hone, rfl⟩
    show (⟨1, start.associativity⟩ : Range) = .only 1
    rw [hassoc]
    rfl
  have hwidens := InputParameter.widens_read file hspaces
  have hsettings := InputParameter.toSettings_readAgain file
    (fun ip => ip.reduceSearchSize.restoreSearchSize) (fun _ => rfl) start.restoreSearchSize
    hpage hblock
  rw [hread] at hwidens hsettings
  obtain ⟨hrows, n, hn, hspace⟩ := hwidens
  refine ⟨hrows, n, hn, ?_⟩
  have hagain : InputParameter.readInputParameterFromFile file
      ip.reduceSearchSize.restoreSearchSize = { ip with numRowPerSet := ⟨1, n⟩ } := by
    generalize InputParameter.readInputParameterFromFile file
      ip.reduceSearchSize.restoreSearchSize = again at *
    obtain ⟨settings, space⟩ := again
    dsimp only at hsettings hspace
    rw [hsettings, hspace]
  unfold configure
  rw [hagain, InputParameter.applyConstraint_withSpace hcache hconstraint]
  rfl

end NVSim
