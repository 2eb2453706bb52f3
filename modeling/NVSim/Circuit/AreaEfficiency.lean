import NVSim.Circuit.Folding
import NVSim.Circuit.Validity
import NVSim.Htree.PlainWires
import NVSim.Model.Report

/-!
# Area efficiencies

A subarray contains its cells, a mat its subarrays and a bank its mats.  So of a bank that stores
its capacity the reported efficiencies are nested: that of the bank is at most that of its mat,
which is at most that of its subarray, and no efficiency is more than 100 percent.
-/

namespace NVSim

open Library

variable {K : Type} [Field K] [LinearOrder K] [IsStrictOrderedRing K]

/-! ## The subarray and its cells -/

section Lines

variable (g : Globals K) (memory : SubArrayElectrics K) (a : SubArray)

omit [IsStrictOrderedRing K] in
/-- The cells do not change the lengths of the lines. -/
theorem addCells_lengths (c : SubArrayElectrics K) :
    (g.addCells a c).lenWordline = c.lenWordline ∧ (g.addCells a c).lenBitline = c.lenBitline := by
  unfold Globals.addCells
  cases g.cell.memCellType with
  | mram | pcram | memristor => cases g.cell.accessType <;> exact ⟨rfl, rfl⟩
  | sram | dram | eDRAM | fbram | slcNAND | mlcNAND => exact ⟨rfl, rfl⟩

omit [IsStrictOrderedRing K] in
theorem electrics_lengths :
    (g.electrics memory a).lenWordline = (g.lines memory a).lenWordline ∧
      (g.electrics memory a).lenBitline = (g.lines memory a).lenBitline := by
  have hcells := addCells_lengths g a (g.lines memory a)
  unfold Globals.electrics
  split
  · unfold Globals.addReadVoltages
    split
    · exact hcells
    · exact hcells
  · exact hcells

/-- A word line is as long as its cells are wide; stitches make it longer. -/
theorem lenWordline_ge (hstitching : 0 ≤ g.cell.stitching) (hcolumn : 0 < a.numColumn) :
    (a.numColumn : K) * g.cell.widthInFeatureSize * g.tech.featureSize ≤
      (g.lines memory a).lenWordline := by
  unfold Globals.lines
  apply le_add_of_nonneg_right
  split
  · exact le_rfl
  · have hquotient : 0 ≤ ((a.numColumn : ℤ) - 1).tdiv g.cell.stitching :=
      Int.tdiv_nonneg (by omega) hstitching
    have hstitches : (0 : K) ≤ ((((a.numColumn : ℤ) - 1).tdiv g.cell.stitching + 1 : ℤ) : K) := by
      exact_mod_cast hquotient.trans (Int.le_add_one le_rfl)
    have hoverhead : (0 : K) ≤ stitchingOverhead := by
      unfold stitchingOverhead
      norm_num
    exact mul_nonneg (mul_nonneg hstitches hoverhead) g.tech.featureSize_pos.le

/-- A bit line is as long as its cells are high; select transistors make it longer. -/
theorem lenBitline_ge :
    (a.numRow : K) * g.cell.heightInFeatureSize * g.tech.featureSize ≤
      (g.lines memory a).lenBitline := by
  unfold Globals.lines
  apply le_add_of_nonneg_right
  split
  · have hF := g.tech.featureSize_pos.le
    positivity
  · exact le_rfl

end Lines

namespace SubArrayCircuit

variable {g : Globals K} {c : SubArrayCircuit K}

omit [IsStrictOrderedRing K] in
theorem prechargerStrip_nonneg (h : c.Extended g) : 0 ≤ c.prechargerStrip g := by
  rw [prechargerStrip_eq h]
  exact h.precharger.1

/-- The strips lie around the array. -/
theorem array_le_area (h : c.Extended g) :
    c.lenWordline * c.lenBitline ≤ (c.calculateArea g).area := by
  rw [area_calculateArea]
  have hwidth := le_add_of_nonneg_right (a := c.lenWordline) (addWidth_nonneg h)
  have hheight : c.lenBitline ≤ c.lenBitline + (c.prechargerStrip g + c.columnStrip g) :=
    le_add_of_nonneg_right (add_nonneg (prechargerStrip_nonneg h) (columnStrip_nonneg h))
  exact mul_le_mul hwidth hheight h.lenBitline.le (h.lenWordline.le.trans hwidth)

theorem sides_nonneg (h : c.Extended g) :
    0 ≤ (c.calculateArea g).height ∧ 0 ≤ (c.calculateArea g).width := by
  have hadd := add_nonneg (prechargerStrip_nonneg h) (columnStrip_nonneg h)
  have hheight : (c.calculateArea g).height =
      c.lenBitline + (c.prechargerStrip g + c.columnStrip g) := by
    show c.lenBitline + (c.prechargerStrip g + _ + _ + _ + _) = _
    unfold columnStrip
    ring
  constructor
  · rw [hheight]
    exact add_nonneg h.lenBitline.le hadd
  · exact add_nonneg h.lenWordline.le (addWidth_nonneg h)

omit [IsStrictOrderedRing K] in
/-- The latency of a subarray does not change its area. -/
theorem area_calculateLatency (rampInput : K) :
    (c.calculateLatency g rampInput).area = c.area := by
  have hwrite (c : SubArrayCircuit K) : (c.addWriteLatency g).area = c.area := by
    unfold addWriteLatency
    cases g.cell.memCellType with
    | pcram => dsimp only; split <;> rfl
    | mram | memristor => cases g.cell.accessType <;> rfl
    | sram | dram | eDRAM | fbram | slcNAND | mlcNAND => rfl
  unfold calculateLatency
  dsimp only
  split
  · rfl
  · rw [hwrite]
    rfl

omit [IsStrictOrderedRing K] in
/-- The power of a subarray does not change its area. -/
theorem area_calculatePower : (c.calculatePower g).area = c.area := by
  have henergy (c : SubArrayCircuit K) (reset set : K) :
      (c.addCellEnergy g reset set).area = c.area := by
    unfold addCellEnergy
    cases g.cell.memCellType with
    | pcram => dsimp only; split <;> rfl
    | _ => rfl
  have hcell (c : SubArrayCircuit K) : (c.addCellPower g).area = c.area := by
    unfold addCellPower
    cases g.cell.memCellType with
    | mram | pcram | memristor | fbram => exact henergy _ _ _
    | sram | dram | eDRAM | slcNAND | mlcNAND => rfl
  have hways (c : SubArrayCircuit K) : (c.divideByWays g).area = c.area := by
    unfold divideByWays
    split
    · rfl
    · rfl
  unfold calculatePower
  show (((c.poweredComponents g).addCellPower g).divideByWays g).area = c.area
  rw [hways, hcell]
  rfl

end SubArrayCircuit

section Cells

variable {g : Globals K} {memory : SubArrayElectrics K} {a : SubArray} {c : SubArrayCircuit K}

/-- The cells of a subarray have room in its array. -/
theorem cells_le_array (h : initializeSubArray g memory a = .ok c) (hcolumn : 0 < a.numColumn)
    (hstitching : 0 ≤ g.cell.stitching) (hwidth : 0 ≤ g.cell.widthInFeatureSize)
    (hheight : 0 ≤ g.cell.heightInFeatureSize)
    (harea : g.cell.area ≤ g.cell.widthInFeatureSize * g.cell.heightInFeatureSize) :
    a.numColumn * a.numRow * (g.cell.area * g.tech.featureSize * g.tech.featureSize) ≤
      c.lenWordline * c.lenBitline := by
  obtain ⟨currents, haccepted⟩ := initializeSubArray_eq_ok.1 h
  have hF := g.tech.featureSize_pos.le
  have hlengths := electrics_lengths g memory a
  have hwordline := lenWordline_ge g memory a hstitching hcolumn
  have hbitline := lenBitline_ge g memory a
  rw [← hlengths.1] at hwordline
  rw [← hlengths.2] at hbitline
  rw [haccepted.circuit]
  have hcells : 0 ≤ (a.numColumn : K) * a.numRow * (g.tech.featureSize * g.tech.featureSize) := by
    positivity
  calc _ = (a.numColumn : K) * a.numRow * (g.tech.featureSize * g.tech.featureSize) *
        g.cell.area := by ring
    _ ≤ (a.numColumn : K) * a.numRow * (g.tech.featureSize * g.tech.featureSize) *
        (g.cell.widthInFeatureSize * g.cell.heightInFeatureSize) :=
      mul_le_mul_of_nonneg_left harea hcells
    _ = (a.numColumn * g.cell.widthInFeatureSize * g.tech.featureSize) *
        (a.numRow * g.cell.heightInFeatureSize * g.tech.featureSize) := by ring
    _ ≤ (g.electrics memory a).lenWordline * (g.electrics memory a).lenBitline := by
      apply mul_le_mul hwordline hbitline
      · positivity
      · exact le_trans (by positivity) hwordline

end Cells

/-! ## The mat and its subarrays -/

namespace MatObject

variable {g : Globals K} {memory : SubArrayElectrics K} {unset : ℕ} {mat : Mat} {m : MatObject K}

omit [IsStrictOrderedRing K] in
/-- The subarray of a mat that was initialised. -/
theorem exists_subarray (h : initializeMatObject g memory unset mat = some m) :
    ∃ c, initializeSubArray g memory mat.subarray = .ok c ∧ m.subarray = c.calculateArea g := by
  obtain ⟨circuit, hcircuit, rfl⟩ := Option.map_eq_some_iff.1 h
  unfold initializeMatCircuit at hcircuit
  simp only [Option.bind_eq_bind, Option.bind_eq_some_iff, Option.pure_def, Option.some.injEq]
    at hcircuit
  obtain ⟨c, hc, b1, -, b2, -, b3, -, b4, -, b5, -, b6, -, b7, -, b8, -, rfl⟩ := hcircuit
  exact ⟨c, toOption_eq_some_iff.mp hc, rfl⟩

/-- No side of a comparator is negative. -/
def ComparatorExtended (g : Globals K) (m : MatObject K) : Prop :=
  ∀ d ∈ m.comparator, 0 ≤ (d.part.size g).1 ∧ 0 ≤ (d.part.size g).2

instance : Decidable (m.ComparatorExtended g) :=
  inferInstanceAs (Decidable
    (∀ d ∈ m.comparator, 0 ≤ (d.part.size g).1 ∧ 0 ≤ (d.part.size g).2))

/-- The predecoders only lengthen the sides of a mat. -/
theorem size_ge (g : Globals K) (mat : Mat) (c : MatCircuit K) :
    c.subarray.height * mat.numRowSubarray ≤ (c.size g mat).1 ∧
      c.subarray.width * mat.numColumnSubarray ≤ (c.size g mat).2 := by
  have hsqrt (x : K) : 0 ≤ g.libm.sqrt x := g.libm.sqrt_nonneg x
  unfold MatCircuit.size
  dsimp only
  split
  · exact ⟨le_rfl, le_add_of_nonneg_right (hsqrt _)⟩
  · exact ⟨le_add_of_nonneg_right (hsqrt _), le_rfl⟩

/-- The comparators lie below the subarrays. -/
theorem comparators_nonneg (hcomparator : m.ComparatorExtended g) {side : K} (hside : 0 ≤ side) :
    0 ≤ (m.comparator.map (PredecodeBlock.sized (Comparator.size g))).elim 0
      fun d => mat.numWay * d.area / side := by
  cases hd : m.comparator with
  | none => exact le_rfl
  | some d =>
      obtain ⟨hheight, hwidth⟩ := hcomparator d hd
      exact div_nonneg (mul_nonneg (Nat.cast_nonneg _) (mul_nonneg hheight hwidth)) hside

variable (mat) in
/-- A mat has room for its subarrays along either side. -/
theorem sides_ge (hwidth : 0 ≤ m.subarray.width) (hcomparator : m.ComparatorExtended g) :
    m.subarray.height * mat.numRowSubarray ≤ (m.calculateArea g mat).height ∧
      m.subarray.width * mat.numColumnSubarray ≤ (m.calculateArea g mat).width := by
  obtain ⟨hrows, hcolumns⟩ := size_ge g mat m.toMatCircuit
  refine ⟨hrows.trans (le_add_of_nonneg_right ?_), hcolumns⟩
  apply comparators_nonneg hcomparator
  exact (mul_nonneg hwidth (Nat.cast_nonneg _)).trans hcolumns

variable (mat) in
/-- The area of a mat has room for its subarrays. -/
theorem area_ge {c : SubArrayCircuit K} (hsubarray : m.subarray = c.calculateArea g)
    (hextended : c.Extended g) (hcomparator : m.ComparatorExtended g) :
    (mat.numRowSubarray * mat.numColumnSubarray : K) * m.subarray.area ≤
      (m.calculateArea g mat).area := by
  obtain ⟨hheight, hwidth⟩ := SubArrayCircuit.sides_nonneg hextended
  rw [← hsubarray] at hheight hwidth
  obtain ⟨hrows, hcolumns⟩ := sides_ge mat hwidth hcomparator
  have harea : m.subarray.area = m.subarray.height * m.subarray.width := by
    rw [hsubarray]
    exact mul_comm _ _
  have hside := mul_nonneg hheight (Nat.cast_nonneg (α := K) mat.numRowSubarray)
  calc _ = m.subarray.height * mat.numRowSubarray *
        (m.subarray.width * mat.numColumnSubarray) := by rw [harea]; ring
    _ ≤ (m.calculateArea g mat).height * (m.calculateArea g mat).width :=
      mul_le_mul hrows hcolumns (mul_nonneg hwidth (Nat.cast_nonneg _)) (hside.trans hrows)

variable (g mat) in
omit [IsStrictOrderedRing K] in
/-- What the mat of an evaluated bank went through leaves its area and that of its subarray. -/
theorem area_evaluated (m : MatObject K) (rampInput : K) :
    ((m.calculateArea g mat).calculateLatency g rampInput |>.calculatePower g mat).area =
        (m.calculateArea g mat).area ∧
      ((m.calculateArea g mat).calculateLatency g rampInput |>.calculatePower g mat).subarray.area =
        m.subarray.area := by
  refine ⟨rfl, ?_⟩
  show ((m.subarray.calculateLatency g _).calculatePower g).area = m.subarray.area
  rw [SubArrayCircuit.area_calculatePower, SubArrayCircuit.area_calculateLatency]

end MatObject

/-! ## Nested areas -/

/-- What fills a part of an area fills at most the same part of what the area contains. -/
theorem percentage_le {cells n inner outer : K} (hcells : 0 ≤ cells) (hn : 0 < n)
    (hinner : 0 < inner) (h : n * inner ≤ outer) :
    cells / outer * 100 ≤ cells / n / inner * 100 := by
  have hquotient : cells / outer ≤ cells / (n * inner) :=
    div_le_div_of_nonneg_left hcells (mul_pos hn hinner) h
  rw [div_div]
  have hhundred : (0 : K) ≤ 100 := by norm_num
  exact mul_le_mul_of_nonneg_right hquotient hhundred

theorem percentage_le_hundred {cells area : K} (harea : 0 < area) (h : cells ≤ area) :
    cells / area * 100 ≤ 100 := by
  have hquotient : cells / area ≤ 1 := (div_le_one harea).2 h
  have hhundred : (0 : K) ≤ 100 := by norm_num
  calc cells / area * 100 ≤ 1 * 100 := mul_le_mul_of_nonneg_right hquotient hhundred
    _ = 100 := one_mul _

/-! ## The bank and its mats -/

namespace HtreeObject

variable [FloorRing K]

theorem tiersOf_nonneg {sharing : ℕ × K} (hpitch : 0 ≤ sharing.2) {l : WireLevel}
    (haddress : 0 ≤ l.addressBit) : 0 ≤ tiersOf sharing l := by
  have hwires : 0 ≤ l.bits * l.wire := by
    unfold WireLevel.bits
    positivity
  have hquotient : (0 : K) ≤ ((l.bits * l.wire : ℤ) : K) / sharing.1 :=
    div_nonneg (by exact_mod_cast hwires) (Nat.cast_nonneg _)
  have htiers : (0 : K) ≤ (⌈((l.bits * l.wire : ℤ) : K) / sharing.1⌉ : K) := by
    exact_mod_cast Int.ceil_nonneg hquotient
  exact mul_nonneg htiers hpitch

/-- A bank has room for its mats along either side. -/
theorem sizeOf_ge (o : HtreeObject K) (levels : Direction × ℕ → WireLevel) {sharing : ℕ × K}
    (hpitch : 0 ≤ sharing.2)
    (hhorizontal : ∀ i < o.bank.levelHorizontal, 0 ≤ (levels (.horizontal, i)).addressBit)
    (hvertical : ∀ j < o.bank.levelVertical, 0 ≤ (levels (.vertical, j)).addressBit) :
    o.mat.height * o.bank.numRowMat ≤ (o.sizeOf sharing levels).1 ∧
      o.mat.width * o.bank.numColumnMat ≤ (o.sizeOf sharing levels).2 := by
  constructor
  · apply le_add_of_nonneg_right
    apply Finset.sum_nonneg
    intro i hi
    exact tiersOf_nonneg hpitch (hhorizontal i (Finset.mem_range.1 hi))
  · apply le_add_of_nonneg_right
    apply Finset.sum_nonneg
    intro j hj
    exact tiersOf_nonneg hpitch (hvertical j (Finset.mem_range.1 hj))

/-- The area of an evaluated bank has room for its mats. -/
theorem Evaluated.area_ge {g : Globals K} {globalWire : WireObject K} {received : K}
    {levels : Direction × ℕ → WireLevel} {b : BankWithHtree} {mat : MatObject K}
    {length : Direction × ℕ → K} {o : HtreeObject K}
    (h : o.Evaluated g globalWire received levels b mat length)
    (hpitch : 0 ≤ globalWire.sharing.2)
    (haddress : ∀ x, (∃ i < b.levelHorizontal, x = (.horizontal, i)) ∨
      (∃ j < b.levelVertical, x = (.vertical, j)) → 0 ≤ (levels x).addressBit)
    (hheight : 0 ≤ (mat.calculateArea g b.mat).height)
    (hwidth : 0 ≤ (mat.calculateArea g b.mat).width) :
    (b.numRowMat * b.numColumnMat : K) * (mat.calculateArea g b.mat).area ≤ o.area := by
  have hbank := h.bank_eq
  have hsize : o.mat.height = (mat.calculateArea g b.mat).height ∧
      o.mat.width = (mat.calculateArea g b.mat).width := by
    rw [h.mat_eq]
    exact ⟨rfl, rfl⟩
  obtain ⟨hrows, hcolumns⟩ := sizeOf_ge o levels hpitch
    (fun i hi => haddress _ (.inl ⟨i, by rwa [← hbank], rfl⟩))
    (fun j hj => haddress _ (.inr ⟨j, by rwa [← hbank], rfl⟩))
  rw [← h.height_eq, hsize.1, hbank] at hrows
  rw [← h.width_eq, hsize.2, hbank] at hcolumns
  have hside := mul_nonneg hheight (Nat.cast_nonneg (α := K) b.numRowMat)
  rw [h.area_eq]
  calc _ = (mat.calculateArea g b.mat).height * b.numRowMat *
        ((mat.calculateArea g b.mat).width * b.numColumnMat) := by
        show _ * ((mat.calculateArea g b.mat).height * (mat.calculateArea g b.mat).width) = _
        ring
    _ ≤ o.height * o.width :=
      mul_le_mul hrows hcolumns (mul_nonneg hwidth (Nat.cast_nonneg _)) (hside.trans hrows)

end HtreeObject

/-- On every level of a valid bank there are address bits left. -/
theorem addressBit_levelOf_nonneg {el : Electrical} {memCellType : MemCellType}
    {args : BankParams} {b : BankWithHtree}
    (h : initializeBankWithHtree el memCellType args = some b) (hvalid : b.invalid = false)
    {x : Direction × ℕ}
    (hx : (∃ i < b.levelHorizontal, x = (.horizontal, i)) ∨
      (∃ j < b.levelVertical, x = (.vertical, j))) :
    0 ≤ (args.clampActive.levelOf x).addressBit := by
  obtain ⟨hparams, -, -, haddress⟩ := initializeBankWithHtree_holds h hvalid
  rw [hparams] at hx
  obtain ⟨rows, columns, wire, hrows, hcolumns, -, hlevel⟩ :=
    RoutingVars.depth_le (p := args.clampActive) args.clampActive.treeLoad hx
  rw [BankParams.levelOf, hlevel]
  exact haddress.le.trans (TreeLoad.addressBitAt_antitone _ hrows hcolumns)

/-- A valid bank says the same of the subarrays of a mat as its mat does. -/
theorem numSubarray_mat {el : Electrical} {memCellType : MemCellType} {args : BankParams}
    {b : BankWithHtree} (h : initializeBankWithHtree el memCellType args = some b)
    (hvalid : b.invalid = false) :
    b.mat.numRowSubarray = b.numRowSubarray ∧ b.mat.numColumnSubarray = b.numColumnSubarray := by
  obtain ⟨s, q, matParams, -, hmat, hlegal, rfl⟩ := initializeBankWithHtree_valid h hvalid
  obtain ⟨numDataBit, numWay, -, -, rfl⟩ := BankParams.matCall_eq_some hmat
  dsimp only
  rw [initializeMat_of_legal hlegal]
  exact ⟨rfl, rfl⟩

omit [LinearOrder K] [IsStrictOrderedRing K] in
theorem Bank.storedCapacity_eq (b : Bank) :
    (b.storedCapacity : K) = b.mat.subarray.numColumn * b.mat.subarray.numRow *
      (b.numRowMat * b.numColumnMat) * (b.numRowSubarray * b.numColumnSubarray) := by
  unfold storedCapacity
  push_cast
  ring

/-- A bank that stores something has mats of subarrays. -/
theorem Bank.counts_pos {b : Bank} (h : 0 < b.storedCapacity) :
    0 < b.mat.subarray.numColumn ∧ (0 : K) < b.numRowMat * b.numColumnMat ∧
      (0 : K) < b.numRowSubarray * b.numColumnSubarray := by
  unfold storedCapacity at h
  have hfactors := h.ne'
  simp only [ne_eq, mul_eq_zero, not_or] at hfactors
  obtain ⟨⟨⟨⟨⟨hcolumn, hrow⟩, hcolumnMat⟩, hrowMat⟩, hcolumnSubarray⟩, hrowSubarray⟩ := hfactors
  refine ⟨Nat.pos_of_ne_zero hcolumn, ?_, ?_⟩
  · exact_mod_cast Nat.pos_of_ne_zero (mul_ne_zero hrowMat hcolumnMat)
  · exact_mod_cast Nat.pos_of_ne_zero (mul_ne_zero hrowSubarray hcolumnSubarray)

/-- The share of a subarray of the area of the cells of a bank is the area of its own cells. -/
theorem Bank.cellsArea_share {g : Globals K} {b : Bank} (hcapacity : b.storedCapacity = b.capacity)
    (hmats : (0 : K) < b.numRowMat * b.numColumnMat)
    (hsubarrays : (0 : K) < b.numRowSubarray * b.numColumnSubarray) :
    g.cellsArea b / b.numRowMat / b.numColumnMat / b.numRowSubarray / b.numColumnSubarray =
      b.mat.subarray.numColumn * b.mat.subarray.numRow *
        (g.cell.area * g.tech.featureSize * g.tech.featureSize) := by
  unfold Globals.cellsArea
  rw [← hcapacity, b.storedCapacity_eq, div_div _ (b.numRowMat : K),
    div_div _ (b.numRowSubarray : K), div_div, div_eq_iff (mul_pos hmats hsubarrays).ne']
  ring

section Efficiency

variable [FloorRing K] {el : Electrical} {memCellType : MemCellType} {args : BankParams}
  {b : BankWithHtree} {g : Globals K} {memory : SubArrayElectrics K} {unset : ℕ}
  {globalWire : WireObject K} {received : K} {mat : MatObject K} {o : HtreeObject K}

/-- The area efficiencies that are reported of a bank that stores its capacity are nested: that
of the bank is at most that of a mat, which is at most that of a subarray, and none is more than
100 percent. -/
theorem htree_efficiency_nested (h : initializeBankWithHtree el memCellType args = some b)
    (hvalid : b.invalid = false) (hcapacity : b.storedCapacity = b.capacity)
    (hmat : initializeMatObject g memory unset b.mat = some mat)
    (hpitch : 0 ≤ globalWire.sharing.2)
    (ho : evaluateHtree g globalWire received b mat = some o) (hlegal : o.bank.invalid = false)
    (hcell : 0 ≤ g.cell.area) (hwidth : 0 ≤ g.cell.widthInFeatureSize)
    (hheight : 0 ≤ g.cell.heightInFeatureSize)
    (harea : g.cell.area ≤ g.cell.widthInFeatureSize * g.cell.heightInFeatureSize)
    (hstitching : 0 ≤ g.cell.stitching)
    (hextended : ∀ c, initializeSubArray g memory b.mat.subarray = .ok c → c.Extended g)
    (hcomparator : mat.ComparatorExtended g) :
    o.areaEfficiency g ≤ o.matEfficiency g ∧ o.matEfficiency g ≤ o.subarrayEfficiency g ∧
      o.subarrayEfficiency g ≤ 100 := by
  obtain ⟨length, heval⟩ := evaluateHtree_evaluated h hvalid hpitch ho hlegal
  obtain ⟨c, hc, hsubarray⟩ := MatObject.exists_subarray hmat
  obtain ⟨hsubRow, hsubColumn⟩ := numSubarray_mat h hvalid
  obtain ⟨hmatArea, hsubArea⟩ := MatObject.area_evaluated g b.mat mat worstCase
  have hfits := hextended c hc
  have hsides := SubArrayCircuit.sides_nonneg hfits
  obtain ⟨hrows, hcolumns⟩ := MatObject.sides_ge b.mat (by rw [hsubarray]; exact hsides.2)
    hcomparator
  rw [hsubarray] at hrows hcolumns
  -- a level contains the next one as often as there are parts of it
  have hbankGe := heval.area_ge hpitch (fun x hx => addressBit_levelOf_nonneg h hvalid hx)
    ((mul_nonneg hsides.1 (Nat.cast_nonneg _)).trans hrows)
    ((mul_nonneg hsides.2 (Nat.cast_nonneg _)).trans hcolumns)
  have hmatGe := MatObject.area_ge b.mat hsubarray hfits hcomparator
  have harrayGe := SubArrayCircuit.array_le_area hfits
  have harray := mul_pos hfits.lenWordline hfits.lenBitline
  rw [← heval.mat_eq] at hmatArea hsubArea
  rw [← hmatArea] at hbankGe hmatGe
  rw [← hsubArea, hsubRow, hsubColumn] at hmatGe
  rw [← hsubarray, ← hsubArea] at harrayGe
  have hbank := heval.bank_eq
  subst hbank
  unfold HtreeObject.areaEfficiency HtreeObject.matEfficiency HtreeObject.subarrayEfficiency
  by_cases hempty : o.bank.capacity = 0
  · have hnone : g.cellsArea o.bank.toBank = 0 := by
      unfold Globals.cellsArea
      rw [hempty, Nat.cast_zero, mul_zero]
    rw [hnone]
    norm_num
  have htotal : 0 ≤ g.cellsArea o.bank.toBank := by
    have hF := g.tech.featureSize_pos.le
    unfold Globals.cellsArea
    positivity
  have hstored : 0 < o.bank.storedCapacity := by
    rw [hcapacity]
    exact Nat.pos_of_ne_zero hempty
  obtain ⟨hcolumn, hmats, hsubarrays⟩ := Bank.counts_pos hstored (K := K)
  have hsubPos := harray.trans_le harrayGe
  have hmatPos := (mul_pos hsubarrays hsubPos).trans_le hmatGe
  refine ⟨?_, ?_, ?_⟩
  · rw [div_div _ (o.bank.numRowMat : K)]
    exact percentage_le htotal hmats hmatPos hbankGe
  · rw [div_div _ (o.bank.numRowSubarray : K)]
    have hpart := div_nonneg (div_nonneg htotal (Nat.cast_nonneg o.bank.numRowMat))
      (Nat.cast_nonneg o.bank.numColumnMat)
    exact percentage_le hpart hsubarrays hsubPos hmatGe
  · rw [Bank.cellsArea_share hcapacity hmats hsubarrays]
    exact percentage_le_hundred hsubPos ((cells_le_array hc hcolumn hstitching hwidth hheight
      harea).trans harrayGe)

/-- A small tag array of cells as large as their sides say, with its mat. -/
theorem exists_mat_smallTag :
    ∃ b mat, initializeBankWithHtree .permissive .mram .smallTag = some b ∧
      b.invalid = false ∧ b.memoryType = .tag ∧ b.storedCapacity = b.capacity ∧
      initializeMatObject (.small .small) .cleared 0 b.mat = some mat ∧
      (∀ c, initializeSubArray (.small .small) .cleared b.mat.subarray = .ok c →
        c.Extended (.small .small)) ∧ mat.ComparatorExtended (.small .small) := by
  obtain ⟨b, hb, hvalid, htag, hcapacity, hmat, hsubarray⟩ :
      ∃ b, initializeBankWithHtree .permissive .mram .smallTag = some b ∧
        b.invalid = false ∧ b.memoryType = .tag ∧ b.storedCapacity = b.capacity ∧
        (initializeMatObject (.small .small) .cleared 0 b.mat).any
          (fun m => decide (m.ComparatorExtended (.small .small))) = true ∧
        (initializeSubArray (.small .small) .cleared b.mat.subarray).toOption.all
          (fun c => decide (c.Extended (.small .small))) = true :=
    ⟨_, rfl, rfl, rfl, by decide, by decide +kernel, by decide +kernel⟩
  obtain ⟨mat, hsome, hcomparator⟩ := (Option.any_eq_true _ _).1 hmat
  refine ⟨b, mat, hb, hvalid, htag, hcapacity, hsome, ?_, of_decide_eq_true hcomparator⟩
  intro c hc
  have hall := (Option.all_eq_true _ _).1 hsubarray c (toOption_eq_some_iff.2 hc)
  exact of_decide_eq_true hall

theorem htree_efficiency_nested_smallTag :
    ∃ b mat o, initializeBankWithHtree .permissive .mram .smallTag = some b ∧
      initializeMatObject (.small .small) .cleared 0 b.mat = some mat ∧
      evaluateHtree (Globals.small .small) .small 0 b mat = some o ∧
      o.areaEfficiency (.small .small) ≤ o.matEfficiency (.small .small) ∧
      o.matEfficiency (.small .small) ≤ o.subarrayEfficiency (.small .small) ∧
      o.subarrayEfficiency (.small .small) ≤ 100 := by
  obtain ⟨b, mat, hb, hvalid, htag, hcapacity, hmat, hextended, hcomparator⟩ :=
    exists_mat_smallTag
  obtain ⟨o, ho, hlegal⟩ := evaluateHtree_legal hb hvalid WireObject.plain_small
    (by rw [htag]; decide) (Globals.small .small) 0 mat
  exact ⟨b, mat, o, hb, hmat, ho, htree_efficiency_nested hb hvalid hcapacity hmat
    WireObject.plain_small.pitch ho hlegal (by decide) (by decide) (by decide)
    (by decide +kernel) (by decide) hextended hcomparator⟩

end Efficiency

end NVSim
