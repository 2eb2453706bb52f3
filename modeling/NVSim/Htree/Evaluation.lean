import NVSim.Htree.WireLengths
import NVSim.Htree.Wires
import NVSim.Library.IndexLoop
import NVSim.Model.HtreeEvaluation
import NVSim.Organisation.Capacity

/-!
# The wires of an H-tree in the measures of a bank

Both functions of the evaluation go through all levels of a valid bank, and every entry they
read is one that `Initialize` wrote, or a length that was assigned before.  So the evaluation
is defined, and it adds to the measures of the mats the sum of what the levels take: a level
contributes its delay, the energy of its active wires and the leakage of all of them.
-/

namespace NVSim

open Library

variable {K : Type}

/-! ## Measures of wires add up -/

section Totals

variable [Field K]

instance : Zero (WireMeasures K) := ⟨⟨0, 0, 0⟩⟩

instance : Add (WireMeasures K) :=
  ⟨fun a b => ⟨a.delay + b.delay, a.dynamicEnergy + b.dynamicEnergy,
    a.leakagePower + b.leakagePower⟩⟩

namespace WireMeasures

omit [Field K] in
@[ext] theorem ext {a b : WireMeasures K} (hdelay : a.delay = b.delay)
    (henergy : a.dynamicEnergy = b.dynamicEnergy) (hleakage : a.leakagePower = b.leakagePower) :
    a = b := by
  cases a
  cases b
  simp_all

@[simp] theorem delay_add (a b : WireMeasures K) : (a + b).delay = a.delay + b.delay := rfl

@[simp] theorem dynamicEnergy_add (a b : WireMeasures K) :
    (a + b).dynamicEnergy = a.dynamicEnergy + b.dynamicEnergy := rfl

@[simp] theorem leakagePower_add (a b : WireMeasures K) :
    (a + b).leakagePower = a.leakagePower + b.leakagePower := rfl

@[simp] theorem delay_zero : (0 : WireMeasures K).delay = 0 := rfl

@[simp] theorem dynamicEnergy_zero : (0 : WireMeasures K).dynamicEnergy = 0 := rfl

@[simp] theorem leakagePower_zero : (0 : WireMeasures K).leakagePower = 0 := rfl

instance : AddCommMonoid (WireMeasures K) where
  add_assoc a b c := by ext <;> simp [add_assoc]
  zero_add a := by ext <;> simp
  add_zero a := by ext <;> simp
  add_comm a b := by ext <;> simp [add_comm]
  nsmul := nsmulRec

variable (s : Finset ℕ) (f : ℕ → WireMeasures K)

@[simp] theorem delay_sum : (∑ i ∈ s, f i).delay = ∑ i ∈ s, (f i).delay :=
  map_sum (AddMonoidHom.mk' (M := WireMeasures K) delay delay_add) f s

@[simp] theorem dynamicEnergy_sum :
    (∑ i ∈ s, f i).dynamicEnergy = ∑ i ∈ s, (f i).dynamicEnergy :=
  map_sum (AddMonoidHom.mk' (M := WireMeasures K) dynamicEnergy dynamicEnergy_add) f s

@[simp] theorem leakagePower_sum : (∑ i ∈ s, f i).leakagePower = ∑ i ∈ s, (f i).leakagePower :=
  map_sum (AddMonoidHom.mk' (M := WireMeasures K) leakagePower leakagePower_add) f s

end WireMeasures

/-- The measures after wires were added: a read goes through them twice, and the energy of a
write is divided by `beta`. -/
def FunctionUnit.addWires (beta : K) (u : FunctionUnit K) (w : WireMeasures K) : FunctionUnit K :=
  { u with
    readLatency := u.readLatency + w.delay * 2
    writeLatency := u.writeLatency + w.delay
    resetLatency := u.resetLatency + w.delay
    setLatency := u.setLatency + w.delay
    readDynamicEnergy := u.readDynamicEnergy + w.dynamicEnergy
    writeDynamicEnergy := u.writeDynamicEnergy + w.dynamicEnergy / beta
    resetDynamicEnergy := u.resetDynamicEnergy + w.dynamicEnergy / beta
    setDynamicEnergy := u.setDynamicEnergy + w.dynamicEnergy / beta
    leakage := u.leakage + w.leakagePower }

theorem FunctionUnit.addWires_zero (beta : K) (u : FunctionUnit K) : u.addWires beta 0 = u := by
  simp [addWires]

theorem FunctionUnit.addWires_addWires (beta : K) (u : FunctionUnit K) (a b : WireMeasures K) :
    (u.addWires beta a).addWires beta b = u.addWires beta (a + b) := by
  simp [addWires, add_mul, add_div, add_assoc]

end Totals

/-! ## The levels of the arrays -/

/-- All bits that are routed on a level. -/
def WireLevel.bits (l : WireLevel) : ℤ := l.addressBit + l.dataDistributeBit + l.dataBroadcastBit

/-- What a level takes: the energy of the active wire groups, and the leakage of all. -/
def WireLevel.measures [Field K] (l : WireLevel) (wire : WireMeasures K) : WireMeasures K where
  delay := wire.delay
  dynamicEnergy := wire.dynamicEnergy * l.activeWire * l.bits
  leakagePower := wire.leakagePower * l.sumWire * l.bits

theorem WireArrays.HoldsUpTo.bits {a : WireArrays} {n k : ℕ} {f : ℕ → WireLevel}
    (h : a.HoldsUpTo n k f) {i : ℕ} (hi : i < k) : a.bits i = some (f i).bits := by
  unfold WireArrays.bits
  simp only [h.addressBit.read rfl hi, h.dataDistributeBit.read rfl hi,
    h.dataBroadcastBit.read rfl hi, Option.bind_eq_bind, Option.bind_some]
  rfl

namespace HtreeObject

variable [Field K] {a : WireArrays} {n : ℕ} {f : ℕ → WireLevel}

/-- An iteration of a loop over the levels. -/
theorem addLevel_eq (h : a.HoldsUpTo n n f) {lengths : TracedArray K} {length : K} {i : ℕ}
    (hi : i < n) (hlength : lengths.read i = some length) (wire : K → WireMeasures K) (beta : K)
    (u : FunctionUnit K) :
    addLevel wire beta lengths a u i = some (u.addWires beta ((f i).measures (wire length))) := by
  unfold addLevel
  simp only [hlength, h.activeWire.read rfl hi, h.bits hi, h.sumWire.read rfl hi,
    Option.bind_eq_bind, Option.bind_some]
  rfl

/-- A loop over the levels adds what they take. -/
theorem addLevels_eq (h : a.HoldsUpTo n n f) {lengths : TracedArray K} {length : ℕ → K}
    (hlength : ∀ i < n, lengths.read i = some (length i)) (wire : K → WireMeasures K) (beta : K)
    (u : FunctionUnit K) :
    (List.range n).foldlM (addLevel wire beta lengths a) u =
      some (u.addWires beta
        (∑ i ∈ Finset.range n, (f i).measures (wire (length i)))) := by
  apply foldlM_range_eq_act (FunctionUnit.addWires beta)
  · exact FunctionUnit.addWires_zero beta
  · exact FunctionUnit.addWires_addWires beta
  · intro i hi u
    exact addLevel_eq h hi (hlength i hi) wire beta u

variable [LinearOrder K] [FloorRing K]

/-- The space that the tiers of a level take across them. -/
def tiersOf (sharing : ℕ × K) (l : WireLevel) : K :=
  (⌈((l.bits * l.wire : ℤ) : K) / sharing.1⌉ : K) * sharing.2

/-- The loop over the tiers of the levels. -/
theorem addTiers_eq (h : a.HoldsUpTo n n f) (sharing : ℕ × K) (side : K) :
    addTiers sharing a n side = some (side + ∑ i ∈ Finset.range n, tiersOf sharing (f i)) := by
  unfold addTiers
  apply foldlM_range_eq_act fun side x => side + x
  · exact add_zero
  · intro s x y
    exact add_assoc s x y
  · intro i hi side
    simp only [h.bits hi, h.wire.read rfl hi, Option.bind_eq_bind, Option.bind_some]
    rfl

/-! ## The lengths -/

/-- The lengths of the wires of all levels are assigned, and every wire spans its mats. -/
structure Wired (w : HtreeWires K) (o : HtreeObject K) (length : Direction × ℕ → K) : Prop where
  readHorizontal : ∀ i < o.bank.levelHorizontal,
    o.lengthHorizontalWire.read i = some (length (.horizontal, i))
  readVertical : ∀ j < o.bank.levelVertical,
    o.lengthVerticalWire.read j = some (length (.vertical, j))
  spansHorizontal : ∀ i < o.bank.levelHorizontal,
    w.Spans w.matWidth o.bank.levelHorizontal i (length (.horizontal, i))
  spansVertical : ∀ j < o.bank.levelVertical,
    w.Spans (w.matHeight / 2) o.bank.levelVertical j (length (.vertical, j))

/-- What all levels of the tree take. -/
def wireTotal (wire : K → WireMeasures K) (levels : Direction × ℕ → WireLevel)
    (length : Direction × ℕ → K) (b : Bank) : WireMeasures K :=
  ∑ i ∈ Finset.range b.levelHorizontal,
      (levels (.horizontal, i)).measures (wire (length (.horizontal, i))) +
    ∑ j ∈ Finset.range b.levelVertical,
      (levels (.vertical, j)).measures (wire (length (.vertical, j)))

omit [FloorRing K] in
theorem addWires_eq {w : HtreeWires K} {o : HtreeObject K} {levels : Direction × ℕ → WireLevel}
    {length : Direction × ℕ → K} (hlevels : o.bank.Holds levels)
    (hwired : o.Wired w length) (wire : K → WireMeasures K) (beta : K) (u : FunctionUnit K) :
    o.addWires wire beta u =
      some (u.addWires beta (wireTotal wire levels length o.bank.toBank)) := by
  unfold addWires
  rw [addLevels_eq hlevels.horizontal hwired.readHorizontal, Option.bind_eq_bind,
    Option.bind_some, addLevels_eq hlevels.vertical hwired.readVertical,
    FunctionUnit.addWires_addWires]
  rfl

/-- The size of a bank whose levels are known, before its aspect ratio is checked. -/
def sizeOf (sharing : ℕ × K) (levels : Direction × ℕ → WireLevel) (o : HtreeObject K) : K × K :=
  (o.mat.height * o.bank.numRowMat +
      ∑ i ∈ Finset.range o.bank.levelHorizontal, tiersOf sharing (levels (.horizontal, i)),
    o.mat.width * o.bank.numColumnMat +
      ∑ j ∈ Finset.range o.bank.levelVertical, tiersOf sharing (levels (.vertical, j)))

/-- The object after its mat was sized. -/
def sizeMat (g : Globals K) (o : HtreeObject K) : HtreeObject K :=
  { o with mat := o.mat.calculateArea g o.bank.mat }

end HtreeObject

/-- After the three loops every length is there. -/
theorem HtreeWires.exists_lengths [Field K] [LinearOrder K] [IsStrictOrderedRing K] [FloorRing K]
    (w : HtreeWires K) (hpitch : 0 ≤ w.effectivePitch) :
    ∃ s, w.calculateLengths (w.levelHorizontal + w.levelVertical) = some s ∧
      ∃ length : Direction × ℕ → K,
        (∀ i < w.levelHorizontal,
          s.lengthHorizontalWire.read i = some (length (.horizontal, i)) ∧
            w.Spans w.matWidth w.levelHorizontal i (length (.horizontal, i))) ∧
        ∀ j < w.levelVertical,
          s.lengthVerticalWire.read j = some (length (.vertical, j)) ∧
            w.Spans (w.matHeight / 2) w.levelVertical j (length (.vertical, j)) := by
  have hfuelV := Nat.le_add_left w.levelVertical w.levelHorizontal
  have hfuelH := Nat.le_add_right w.levelHorizontal w.levelVertical
  obtain ⟨s₁, hrun₁, hs₁, hvh₁⟩ := verticalOnly_loop w.assigned_start hfuelV
  obtain ⟨s₂, hrun₂, hs₂, hv₂⟩ := both_loop hpitch hs₁ hvh₁ hfuelV
  obtain ⟨s₃, hrun₃, hs₃, hv₃, hh₃⟩ := horizontalOnly_loop hs₂ hv₂ hfuelH
  have : Inhabited K := ⟨0⟩
  have hhorizontal := hs₃.horizontal
  have hvertical := hs₃.vertical
  rw [hh₃] at hhorizontal
  rw [hv₃] at hvertical
  obtain ⟨lengthH, hH⟩ := hhorizontal.exists_reads
  obtain ⟨lengthV, hV⟩ := hvertical.exists_reads
  let length (p : Direction × ℕ) : K := if p.1 = .horizontal then lengthH p.2 else lengthV p.2
  refine ⟨s₃, ?_, length, hH, hV⟩
  simp only [calculateLengths, hrun₁, hrun₂, hrun₃, Option.bind_eq_bind, Option.bind_some]

namespace HtreeObject

variable [Field K] [LinearOrder K] [FloorRing K] [IsStrictOrderedRing K]

/-- What `CalculateArea` leaves of a bank whose aspect ratio is legal. -/
structure Sized (g : Globals K) (sharing : ℕ × K) (levels : Direction × ℕ → WireLevel)
    (o o' : HtreeObject K) : Prop where
  bank_eq : o'.bank = o.bank
  mat_eq : o'.mat = o.mat.calculateArea g o.bank.mat
  height_eq : o'.height = ((o.sizeMat g).sizeOf sharing levels).1
  width_eq : o'.width = ((o.sizeMat g).sizeOf sharing levels).2
  area_eq : o'.area = o'.height * o'.width
  legal : o.bank.memoryType = .data → aspectRatioIllegal o'.height o'.width = false
  wired : ∃ length, o'.Wired ((o.sizeMat g).htreeWires sharing) length

/-- `CalculateArea` of a bank whose arrays are filled: no access fails, and either the aspect
ratio of a data array is illegal or all lengths are assigned. -/
theorem calculateArea_spec (g : Globals K) {sharing : ℕ × K} {o : HtreeObject K}
    {levels : Direction × ℕ → WireLevel} (hlevels : o.bank.Holds levels)
    (hpitch : 0 ≤ sharing.2) :
    ∃ o', calculateArea g sharing o = some o' ∧
      (o.bank.memoryType = .data ∧ o'.bank.invalid = true ∨ Sized g sharing levels o o') := by
  obtain ⟨s, hlengths, length, hH, hV⟩ :=
    ((o.sizeMat g).htreeWires sharing).exists_lengths hpitch
  have hheight := addTiers_eq hlevels.horizontal sharing
    ((o.sizeMat g).mat.height * o.bank.numRowMat)
  have hwidth := addTiers_eq hlevels.vertical sharing
    ((o.sizeMat g).mat.width * o.bank.numColumnMat)
  unfold calculateArea
  simp only [sizeMat, htreeWires, Option.bind_eq_bind] at hheight hwidth hlengths ⊢
  rw [hheight, Option.bind_some, hwidth, Option.bind_some]
  split
  · next hillegal =>
      simp only [Bool.and_eq_true, decide_eq_true_eq] at hillegal
      exact ⟨_, rfl, .inl ⟨hillegal.1, rfl⟩⟩
  · next hlegal =>
    rw [hlengths, Option.bind_some]
    refine ⟨_, rfl, .inr ⟨rfl, rfl, rfl, rfl, rfl, ?_, length, ?_⟩⟩
    · intro hdata
      simpa [hdata] using hlegal
    exact ⟨fun i hi => (hH i hi).1, fun j hj => (hV j hj).1, fun i hi => (hH i hi).2,
      fun j hj => (hV j hj).2⟩

/-- What both functions leave of a bank whose aspect ratio is legal: the measures are those of
the mats and what the levels of the tree take. -/
structure Evaluated (g : Globals K) (globalWire : WireObject K) (received : K)
    (levels : Direction × ℕ → WireLevel) (b : BankWithHtree) (mat : MatObject K)
    (length : Direction × ℕ → K) (o : HtreeObject K) : Prop where
  bank_eq : o.bank = b
  mat_eq : o.mat = ((mat.calculateArea g b.mat).calculateLatency g worstCase).calculatePower g b.mat
  height_eq : o.height = (o.sizeOf globalWire.sharing levels).1
  width_eq : o.width = (o.sizeOf globalWire.sharing levels).2
  area_eq : o.area = o.height * o.width
  legal : b.memoryType = .data → aspectRatioIllegal o.height o.width = false
  wired : o.Wired (o.htreeWires globalWire.sharing) length
  measures : o.toFunctionUnit = o.fromMats.addWires g.inputParameter.writeSharing
    (wireTotal (globalWire.calculateLatencyAndPower g received) levels length b.toBank)

omit [IsStrictOrderedRing K] in
/-- `CalculateLatencyAndPower` of a bank whose lengths are assigned. -/
theorem Sized.calculateLatencyAndPower {g : Globals K} {globalWire : WireObject K}
    {levels : Direction × ℕ → WireLevel} {o o' : HtreeObject K}
    (h : Sized g globalWire.sharing levels o o') (hlevels : o.bank.Holds levels)
    (hvalid : o.bank.invalid = false) (received : K) :
    ∃ length o'', o'.calculateLatencyAndPower g
        (globalWire.calculateLatencyAndPower g received) = some o'' ∧
      Evaluated g globalWire received levels o.bank o.mat length o'' := by
  obtain ⟨length, hwired⟩ := h.wired
  have hbank := h.bank_eq
  have hmat := h.mat_eq
  have hheight := h.height_eq
  have hwidth := h.width_eq
  have harea := h.area_eq
  have hlegal := h.legal
  clear h
  obtain ⟨u', bank', mat', lengthH', lengthV'⟩ := o'
  simp only at hbank hmat hheight hwidth harea hlegal
  subst hbank hmat
  have hadd := addWires_eq (o := ⟨u', o.bank, ((o.mat.calculateArea g o.bank.mat).calculateLatency g
    worstCase).calculatePower g o.bank.mat, lengthH', lengthV'⟩) hlevels
    ⟨hwired.readHorizontal, hwired.readVertical, hwired.spansHorizontal, hwired.spansVertical⟩
    (globalWire.calculateLatencyAndPower g received) g.inputParameter.writeSharing
  unfold HtreeObject.calculateLatencyAndPower
  simp only [hvalid, Bool.false_eq_true, if_false, Option.bind_eq_bind]
  rw [hadd, Option.bind_some]
  refine ⟨length, _, rfl, rfl, rfl, hheight, hwidth, harea, hlegal, ?_, rfl⟩
  exact ⟨hwired.readHorizontal, hwired.readVertical, hwired.spansHorizontal,
    hwired.spansVertical⟩

end HtreeObject

section Evaluation

variable [Field K] [LinearOrder K] [IsStrictOrderedRing K] [FloorRing K] {el : Electrical}
  {memCellType : MemCellType} {args : BankParams} {b : BankWithHtree}

/-- The evaluation of a bank that `Initialize` left valid. -/
theorem evaluateHtree_spec (h : initializeBankWithHtree el memCellType args = some b)
    (hvalid : b.invalid = false) (g : Globals K) {globalWire : WireObject K}
    (hpitch : 0 ≤ globalWire.sharing.2) (received : K) (mat : MatObject K) :
    ∃ o, evaluateHtree g globalWire received b mat = some o ∧
      (b.memoryType = .data ∧ o.bank.invalid = true ∨ ∃ length,
        o.Evaluated g globalWire received args.clampActive.levelOf b mat length) := by
  have hlevels := (initializeBankWithHtree_holds h hvalid).2.1
  obtain ⟨o', harea, ⟨hdata, hinvalid⟩ | hsized⟩ := HtreeObject.calculateArea_spec g (o :=
    { toFunctionUnit := .fresh
      bank := b
      mat := mat
      lengthHorizontalWire := .allocate b.levelHorizontal
      lengthVerticalWire := .allocate b.levelVertical }) hlevels hpitch
  · unfold evaluateHtree
    rw [harea]
    exact ⟨_, if_pos hinvalid, .inl ⟨hdata, hinvalid⟩⟩
  · obtain ⟨length, o, hpower, heval⟩ :=
      hsized.calculateLatencyAndPower hlevels hvalid received
    unfold evaluateHtree
    rw [harea]
    exact ⟨o, hpower, .inr ⟨length, heval⟩⟩

/-- What is known of an evaluation that left the bank valid. -/
theorem evaluateHtree_evaluated (h : initializeBankWithHtree el memCellType args = some b)
    (hvalid : b.invalid = false) {g : Globals K} {globalWire : WireObject K}
    (hpitch : 0 ≤ globalWire.sharing.2) {received : K} {mat : MatObject K} {o : HtreeObject K}
    (ho : evaluateHtree g globalWire received b mat = some o) (hlegal : o.bank.invalid = false) :
    ∃ length, o.Evaluated g globalWire received args.clampActive.levelOf b mat length := by
  obtain ⟨o', ho', hcases⟩ := evaluateHtree_spec h hvalid g hpitch received mat
  rw [ho] at ho'
  obtain rfl := Option.some.inj ho'
  obtain ⟨-, hinvalid⟩ | heval := hcases
  · rw [hinvalid] at hlegal
    cases hlegal
  · exact heval

/-- `Initialize`, `CalculateArea` and `CalculateLatencyAndPower` never access an array of a bank
with H-tree out of its range, and never read an entry or a length before it is assigned, for
positive counts whatever the other parameters.  Unless the bank is rejected, a read goes twice
through the wires a write goes through once, and of a cache whose ways are accessed together a
write activates the wires of one way. -/
theorem htree_evaluation_defined (el : Electrical) (memCellType : MemCellType) (args : BankParams)
    (g : Globals K) (globalWire : WireObject K) (hpitch : 0 ≤ globalWire.sharing.2)
    (received : K) (mat : MatObject K) :
    ∃ b, initializeBankWithHtree el memCellType args = some b ∧
      (b.invalid = false → ∃ o, evaluateHtree g globalWire received b mat = some o ∧
        (o.bank.invalid = false →
          o.readLatency - o.mat.readLatency = 2 * (o.writeLatency - o.mat.writeLatency) ∧
          o.resetLatency - o.mat.resetLatency = o.writeLatency - o.mat.writeLatency ∧
          o.setLatency - o.mat.setLatency = o.writeLatency - o.mat.writeLatency ∧
          o.writeDynamicEnergy - o.fromMats.writeDynamicEnergy =
            (o.readDynamicEnergy - o.fromMats.readDynamicEnergy) /
              g.inputParameter.writeSharing)) := by
  obtain ⟨b, hb, -⟩ := initializeBankWithHtree_cases el memCellType args
  refine ⟨b, hb, fun hvalid => ?_⟩
  obtain ⟨o, ho, hcases⟩ := evaluateHtree_spec hb hvalid g hpitch received mat
  refine ⟨o, ho, fun hlegal => ?_⟩
  obtain ⟨-, hinvalid⟩ | ⟨length, heval⟩ := hcases
  · rw [hinvalid] at hlegal
    cases hlegal
  · have hmeasures := heval.measures
    have hread := congrArg FunctionUnit.readLatency hmeasures
    have hwrite := congrArg FunctionUnit.writeLatency hmeasures
    have hreset := congrArg FunctionUnit.resetLatency hmeasures
    have hset := congrArg FunctionUnit.setLatency hmeasures
    have hreadEnergy := congrArg FunctionUnit.readDynamicEnergy hmeasures
    have hwriteEnergy := congrArg FunctionUnit.writeDynamicEnergy hmeasures
    simp only [FunctionUnit.addWires, HtreeObject.fromMats] at *
    rw [hread, hwrite, hreset, hset, hreadEnergy, hwriteEnergy]
    refine ⟨?_, ?_, ?_, ?_⟩
    · ring
    · ring
    · ring
    · ring

/-- A tag array of two rows of four mats stays valid, and its wires take time and energy. -/
theorem htree_evaluation_defined_smallTag :
    ∃ b mat o, initializeBankWithHtree .permissive .mram .smallTag = some b ∧
      b.invalid = false ∧ initializeMatObject (.small .small) .cleared 0 b.mat = some mat ∧
      evaluateHtree (Globals.small .small) .small 0 b mat = some o ∧ o.bank.invalid = false ∧
      0 < o.writeLatency - o.mat.writeLatency ∧
      0 < o.readDynamicEnergy - o.fromMats.readDynamicEnergy ∧
      o.readLatency - o.mat.readLatency = 2 * (o.writeLatency - o.mat.writeLatency) ∧
      o.resetLatency - o.mat.resetLatency = o.writeLatency - o.mat.writeLatency ∧
      o.setLatency - o.mat.setLatency = o.writeLatency - o.mat.writeLatency ∧
      o.writeDynamicEnergy - o.fromMats.writeDynamicEnergy =
        (o.readDynamicEnergy - o.fromMats.readDynamicEnergy) /
          (Globals.small .small).inputParameter.writeSharing := by
  have hflags : ((initializeBankWithHtree .permissive .mram .smallTag).map fun b =>
      (b.invalid, (initializeMatObject (.small .small) .cleared 0 b.mat).map fun mat =>
        (evaluateHtree (Globals.small .small) WireObject.small 0 b mat).map fun o =>
          decide (o.bank.invalid = false ∧ 0 < o.writeLatency - o.mat.writeLatency ∧
            0 < o.readDynamicEnergy - o.fromMats.readDynamicEnergy))) =
        some (false, some (some true)) := by
    decide +kernel
  obtain ⟨b, hb, hflags⟩ := Option.map_eq_some_iff.mp hflags
  obtain ⟨hvalid, hflags⟩ := Prod.mk.inj hflags
  obtain ⟨mat, hmat, hflags⟩ := Option.map_eq_some_iff.mp hflags
  obtain ⟨o, ho, hflags⟩ := Option.map_eq_some_iff.mp hflags
  obtain ⟨hlegal, hlatency, henergy⟩ := of_decide_eq_true hflags
  obtain ⟨b', hb', hdefined⟩ := htree_evaluation_defined .permissive .mram .smallTag
    (Globals.small .small) .small le_rfl 0 mat
  obtain rfl := Option.some.inj (hb.symm.trans hb')
  obtain ⟨o', ho', hmeasures⟩ := hdefined hvalid
  obtain rfl := Option.some.inj (ho.symm.trans ho')
  exact ⟨b, mat, o, hb, hvalid, hmat, ho, hlegal, hlatency, henergy, hmeasures hlegal⟩

end Evaluation

end NVSim
