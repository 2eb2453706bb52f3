import Mathlib.Algebra.Field.GeomSum
import Mathlib.Tactic.FieldSimp
import NVSim.Htree.Evaluation
import NVSim.Organisation.Capacity

/-!
# H-trees of plain wires

A wire without repeaters lies on a layer of its own, so nothing lies between the mats and the
wires of a tree have exactly the lengths of the mats they span.  The sums over the levels then
have closed forms in the sizes of the bank and of a mat.
-/

namespace NVSim

open Library

variable {K : Type} [Field K] [LinearOrder K] [IsStrictOrderedRing K]

/-! ## Sums of lengths that double -/

omit [LinearOrder K] [IsStrictOrderedRing K] in
theorem sum_reflected_pow (x mat : K) (n : ℕ) :
    ∑ i ∈ Finset.range n, mat * x ^ (n - 1 - i) = mat * ∑ i ∈ Finset.range n, x ^ i := by
  rw [Finset.sum_range_reflect (fun i => mat * x ^ i) n, Finset.mul_sum]

theorem sum_doubled (mat : K) (n : ℕ) :
    ∑ i ∈ Finset.range n, mat * 2 ^ (n - 1 - i) = mat * 2 ^ n - mat := by
  have hne : (2 : K) ≠ 1 := by norm_num
  rw [sum_reflected_pow, geom_sum_eq hne]
  ring

theorem sum_square_doubled (mat : K) (n : ℕ) :
    ∑ i ∈ Finset.range n, (mat * 2 ^ (n - 1 - i)) * (mat * 2 ^ (n - 1 - i)) =
      ((mat * 2 ^ n) ^ 2 - mat ^ 2) / 3 := by
  have hne : (4 : K) ≠ 1 := by norm_num
  have hsquare (i : ℕ) :
      (mat * 2 ^ i) * (mat * 2 ^ i) = mat ^ 2 * 4 ^ i := by
    rw [show (4 : K) = 2 * 2 by norm_num, mul_pow]
    ring
  simp only [hsquare]
  rw [sum_reflected_pow, geom_sum_eq hne, mul_pow, ← pow_mul, mul_comm n 2, pow_mul]
  norm_num
  ring

/-! ## Plain wires -/

/-- A wire without repeaters and with full swing. -/
structure WireObject.Plain (w : WireObject K) : Prop where
  unrepeated : w.wireRepeaterType = .repeatedNone
  fullSwing : w.isLowSwing = false

omit [IsStrictOrderedRing K] in
theorem WireObject.Plain.sharing [FloorRing K] {w : WireObject K} (h : w.Plain) :
    w.sharing = (1, 0) := if_pos h.unrepeated

omit [IsStrictOrderedRing K] in
theorem WireObject.Plain.measures {w : WireObject K} (h : w.Plain) (g : Globals K)
    (received wireLength : K) :
    w.calculateLatencyAndPower g received wireLength =
      { delay := 2.3 * w.resWirePerUnit * w.capWirePerUnit * wireLength * wireLength / 2
        dynamicEnergy := w.capWirePerUnit * wireLength * g.tech.vdd * g.tech.vdd
        leakagePower := 0 } := by
  unfold WireObject.calculateLatencyAndPower
  rw [if_neg (by simp [h.fullSwing]), if_pos h.unrepeated]

namespace HtreeObject

variable [FloorRing K] {g : Globals K} {globalWire : WireObject K} {received : K}
  {levels : Direction × ℕ → WireLevel} {b : BankWithHtree} {mat : MatObject K}
  {length : Direction × ℕ → K} {o : HtreeObject K}

omit [IsStrictOrderedRing K] in
/-- No side of a bank grows with its wires. -/
theorem Evaluated.plain_size (h : o.Evaluated g globalWire received levels b mat length)
    (hplain : globalWire.Plain) :
    o.height = o.mat.height * b.numRowMat ∧ o.width = o.mat.width * b.numColumnMat := by
  have hheight := h.height_eq
  have hwidth := h.width_eq
  have hbank := h.bank_eq
  subst hbank
  rw [hplain.sharing] at hheight hwidth
  rw [hheight, hwidth]
  simp [sizeOf, tiersOf]

omit [IsStrictOrderedRing K] in
theorem Evaluated.plain_lengths (h : o.Evaluated g globalWire received levels b mat length)
    (hplain : globalWire.Plain) :
    (∀ i < b.levelHorizontal,
        length (.horizontal, i) = o.mat.width * 2 ^ (b.levelHorizontal - 1 - i)) ∧
      ∀ j < b.levelVertical,
        length (.vertical, j) = o.mat.height / 2 * 2 ^ (b.levelVertical - 1 - j) := by
  have hbank := h.bank_eq
  subst hbank
  have hpitch : (o.htreeWires globalWire.sharing).effectivePitch = 0 := by
    rw [hplain.sharing]
    rfl
  constructor
  · intro i hi
    exact (h.wired.spansHorizontal i hi).2 hpitch
  · intro j hj
    exact (h.wired.spansVertical j hj).2 hpitch

omit [IsStrictOrderedRing K] in
/-- A sum over the levels of something that depends on the length only. -/
theorem Evaluated.plain_sum (h : o.Evaluated g globalWire received levels b mat length)
    (hplain : globalWire.Plain) (f : K → K) :
    ∑ i ∈ Finset.range b.levelHorizontal, f (length (.horizontal, i)) +
        ∑ j ∈ Finset.range b.levelVertical, f (length (.vertical, j)) =
      ∑ i ∈ Finset.range b.levelHorizontal, f (o.mat.width * 2 ^ (b.levelHorizontal - 1 - i)) +
        ∑ j ∈ Finset.range b.levelVertical,
          f (o.mat.height / 2 * 2 ^ (b.levelVertical - 1 - j)) := by
  obtain ⟨hH, hV⟩ := h.plain_lengths hplain
  congr 1
  · apply Finset.sum_congr rfl
    intro i hi
    rw [hH i (Finset.mem_range.1 hi)]
  · apply Finset.sum_congr rfl
    intro j hj
    rw [hV j (Finset.mem_range.1 hj)]

/-! ## Latencies -/

/-- The delay of all levels, in the sizes of the bank and of a mat. -/
theorem Evaluated.plain_delay (h : o.Evaluated g globalWire received levels b mat length)
    (hplain : globalWire.Plain) (hcolumns : 2 ^ b.levelHorizontal = b.numColumnMat)
    (hrows : 2 ^ b.levelVertical = b.numRowMat) :
    (wireTotal (globalWire.calculateLatencyAndPower g received) levels length b.toBank).delay =
      2.3 / 2 * globalWire.resWirePerUnit * globalWire.capWirePerUnit *
        ((o.width ^ 2 - o.mat.width ^ 2) / 3 + (o.height ^ 2 - o.mat.height ^ 2) / 12) := by
  obtain ⟨hheight, hwidth⟩ := h.plain_size hplain
  have hsum := h.plain_sum hplain fun x => x * x
  rw [sum_square_doubled, sum_square_doubled] at hsum
  have hcast : ((b.numColumnMat : K) = 2 ^ b.levelHorizontal) ∧
      ((b.numRowMat : K) = 2 ^ b.levelVertical) := by
    rw [← hcolumns, ← hrows]
    push_cast
    exact ⟨rfl, rfl⟩
  have hdelay (x : K) : (globalWire.calculateLatencyAndPower g received x).delay =
      2.3 / 2 * globalWire.resWirePerUnit * globalWire.capWirePerUnit * (x * x) := by
    rw [hplain.measures]
    ring
  unfold wireTotal
  simp only [WireMeasures.delay_add, WireMeasures.delay_sum, WireLevel.measures, hdelay]
  rw [← Finset.mul_sum, ← Finset.mul_sum, ← mul_add, hsum, hheight, hwidth, hcast.1, hcast.2]
  ring

/-! ## Energies -/

/-- What the active wires of a level carry besides the data that are distributed: the address
and the data that are broadcast. -/
def selectBits (l : WireLevel) : ℤ := l.activeWire * (l.addressBit + l.dataBroadcastBit)

/-- The bits of a level are the data, which no level adds to or takes from, and the rest. -/
theorem activeWire_mul_bits {l : WireLevel} {data : ℕ}
    (hdata : l.activeWire * l.dataDistributeBit = data) :
    (l.activeWire * l.bits : ℤ) = data + selectBits l := by
  rw [← hdata, WireLevel.bits, selectBits]
  push_cast
  ring

/-- The energy of all levels, if every level carries the same number of distributed data
bits. -/
theorem Evaluated.plain_energy (h : o.Evaluated g globalWire received levels b mat length)
    (hplain : globalWire.Plain) (hcolumns : 2 ^ b.levelHorizontal = b.numColumnMat)
    (hrows : 2 ^ b.levelVertical = b.numRowMat) {data : ℕ}
    (hdata : ∀ x, (levels x).activeWire * (levels x).dataDistributeBit = data) :
    (wireTotal (globalWire.calculateLatencyAndPower g received) levels length
        b.toBank).dynamicEnergy =
      globalWire.capWirePerUnit * g.tech.vdd ^ 2 *
        (data * (o.width - o.mat.width + (o.height - o.mat.height) / 2) +
          (∑ i ∈ Finset.range b.levelHorizontal,
              length (.horizontal, i) * selectBits (levels (.horizontal, i)) +
            ∑ j ∈ Finset.range b.levelVertical,
              length (.vertical, j) * selectBits (levels (.vertical, j)))) := by
  obtain ⟨hheight, hwidth⟩ := h.plain_size hplain
  have hsum := h.plain_sum hplain id
  simp only [id] at hsum
  rw [sum_doubled, sum_doubled] at hsum
-- every level carries the same distributed bits and its own address and broadcast bits
  have henergy (x : Direction × ℕ) :
      ((levels x).measures (globalWire.calculateLatencyAndPower g received
        (length x))).dynamicEnergy =
        globalWire.capWirePerUnit * g.tech.vdd ^ 2 *
          (data * length x + length x * selectBits (levels x)) := by
    have hbits := activeWire_mul_bits (hdata x)
    have hcast : ((levels x).activeWire * (levels x).bits : K) =
        data + selectBits (levels x) := by exact_mod_cast hbits
    rw [WireLevel.measures, hplain.measures]
    calc _ = globalWire.capWirePerUnit * g.tech.vdd ^ 2 * length x *
          ((levels x).activeWire * (levels x).bits : K) := by ring
      _ = _ := by rw [hcast]; ring
  have hcast : ((b.numColumnMat : K) = 2 ^ b.levelHorizontal) ∧
      ((b.numRowMat : K) = 2 ^ b.levelVertical) := by
    rw [← hcolumns, ← hrows]
    push_cast
    exact ⟨rfl, rfl⟩
  unfold wireTotal
  simp only [WireMeasures.dynamicEnergy_add, WireMeasures.dynamicEnergy_sum, henergy]
  rw [← Finset.mul_sum, ← Finset.mul_sum, ← mul_add, Finset.sum_add_distrib,
    Finset.sum_add_distrib, ← Finset.mul_sum, ← Finset.mul_sum, hheight, hwidth, hcast.1, hcast.2]
  linear_combination globalWire.capWirePerUnit * g.tech.vdd ^ 2 * data * hsum

omit [IsStrictOrderedRing K] [FloorRing K] in
/-- Wires without repeaters do not leak. -/
theorem plain_leakage (hplain : globalWire.Plain) (g : Globals K) (received : K)
    (levels : Direction × ℕ → WireLevel) (length : Direction × ℕ → K) (b : Bank) :
    (wireTotal (globalWire.calculateLatencyAndPower g received) levels length b).leakagePower =
      0 := by
  unfold wireTotal
  simp [WireLevel.measures, hplain.measures]

end HtreeObject

/-- The wire of the examples. -/
theorem WireObject.plain_small : WireObject.small.Plain := ⟨rfl, rfl⟩

/-! ## Banks -/

/-- On every level the active wire groups carry the data of one access. -/
theorem BankParams.activeWire_mul_distributeBit {p : BankParams}
    (hrow : p.numActiveMatPerRow.isPowerOfTwo) (hcolumn : p.numActiveMatPerColumn.isPowerOfTwo)
    (hdvd : p.numActiveMatPerRow * p.numActiveMatPerColumn ∣ p.numDataDistributeBit)
    (x : Direction × ℕ) :
    (p.levelOf x).activeWire * (p.levelOf x).dataDistributeBit = p.numDataDistributeBit := by
  have hsplit : 2 ^ (TreeLoad.halvings p.treeLoad.columnToActive +
      TreeLoad.halvings p.treeLoad.rowToActive) ∣ p.treeLoad.distributeBit := by
    simpa only [BankParams.treeLoad, BankParams.treeLoadWith,
      BankParams.two_pow_halvings_add hrow hcolumn] using hdvd
  obtain ⟨direction, i⟩ := x
  cases direction with
  | horizontal => exact p.treeLoad.activeWireAt_mul_distributeBitAt hsplit
  | vertical => exact p.treeLoad.activeWireAt_mul_distributeBitAt hsplit

section Banks

variable [FloorRing K] {el : Electrical} {memCellType : MemCellType} {args : BankParams}
  {b : BankWithHtree} {g : Globals K} {globalWire : WireObject K} {received : K}
  {mat : MatObject K} {o : HtreeObject K}

omit [IsStrictOrderedRing K] in
theorem WireObject.Plain.pitch (hplain : globalWire.Plain) : 0 ≤ globalWire.sharing.2 := by
  rw [hplain.sharing]

omit [Field K] [LinearOrder K] [IsStrictOrderedRing K] [FloorRing K] in
/-- The levels of a valid bank reach from the root to the mats. -/
theorem two_pow_levels (h : initializeBankWithHtree el memCellType args = some b)
    (hvalid : b.invalid = false) (hnumRowMat : args.numRowMat.isPowerOfTwo)
    (hnumColumnMat : args.numColumnMat.isPowerOfTwo) :
    2 ^ b.levelHorizontal = b.numColumnMat ∧ 2 ^ b.levelVertical = b.numRowMat := by
  have hparams := (initializeBankWithHtree_holds h hvalid).1
  obtain ⟨rows, hrows⟩ := hnumRowMat
  obtain ⟨columns, hcolumns⟩ := hnumColumnMat
  rw [hparams]
  simp only [BankParams.levelHorizontal, BankParams.levelVertical, BankParams.restoreMux,
    BankParams.clampActive, hrows, hcolumns, log2Rounded_two_pow]
  exact ⟨trivial, trivial⟩

/-- The wires of an H-tree without repeaters add to an access of a mat a time that depends on
the sizes and the numbers of the mats only, a read twice as much as a write, and they neither
lengthen the sides of the bank nor leak. -/
theorem htree_plain_latency (h : initializeBankWithHtree el memCellType args = some b)
    (hvalid : b.invalid = false) (hnumRowMat : args.numRowMat.isPowerOfTwo)
    (hnumColumnMat : args.numColumnMat.isPowerOfTwo) (hplain : globalWire.Plain)
    (ho : evaluateHtree g globalWire received b mat = some o) (hlegal : o.bank.invalid = false) :
    o.writeLatency = o.mat.writeLatency +
        2.3 / 2 * globalWire.resWirePerUnit * globalWire.capWirePerUnit *
          (o.mat.width ^ 2 * (b.numColumnMat ^ 2 - 1) / 3 +
            o.mat.height ^ 2 * (b.numRowMat ^ 2 - 1) / 12) ∧
      o.readLatency = o.mat.readLatency +
        2.3 * globalWire.resWirePerUnit * globalWire.capWirePerUnit *
          (o.mat.width ^ 2 * (b.numColumnMat ^ 2 - 1) / 3 +
            o.mat.height ^ 2 * (b.numRowMat ^ 2 - 1) / 12) ∧
      o.leakage = o.mat.leakage * (b.numRowMat * b.numColumnMat) ∧
      o.width = o.mat.width * b.numColumnMat ∧ o.height = o.mat.height * b.numRowMat := by
  obtain ⟨length, heval⟩ := evaluateHtree_evaluated h hvalid hplain.pitch ho hlegal
  obtain ⟨hcolumns, hrows⟩ := two_pow_levels h hvalid hnumRowMat hnumColumnMat
  obtain ⟨hheight, hwidth⟩ := heval.plain_size hplain
  have hdelay := heval.plain_delay hplain hcolumns hrows
  have hwrite := congrArg FunctionUnit.writeLatency heval.measures
  have hread := congrArg FunctionUnit.readLatency heval.measures
  have hleakage := congrArg FunctionUnit.leakage heval.measures
  rw [FunctionUnit.addWires, HtreeObject.fromMats, hdelay] at hwrite hread
  rw [FunctionUnit.addWires, HtreeObject.fromMats, HtreeObject.plain_leakage hplain,
    heval.bank_eq] at hleakage
  refine ⟨?_, ?_, ?_, hwidth, hheight⟩
  · rw [hwrite, hwidth, hheight]
    ring
  · rw [hread, hwidth, hheight]
    ring
  · rw [hleakage]
    ring

/-- A tag array is never rejected for its aspect ratio. -/
theorem evaluateHtree_legal (h : initializeBankWithHtree el memCellType args = some b)
    (hvalid : b.invalid = false) (hplain : globalWire.Plain) (htype : b.memoryType ≠ .data)
    (g : Globals K) (received : K) (mat : MatObject K) :
    ∃ o, evaluateHtree g globalWire received b mat = some o ∧ o.bank.invalid = false := by
  obtain ⟨o, ho, ⟨hdata, -⟩ | ⟨length, heval⟩⟩ :=
    evaluateHtree_spec h hvalid g hplain.pitch received mat
  · exact absurd hdata htype
  · refine ⟨o, ho, ?_⟩
    rw [heval.bank_eq]
    exact hvalid

theorem exists_htree_smallTag : ∃ b, initializeBankWithHtree .permissive .sram .smallTag = some b ∧
    b.invalid = false ∧ b.memoryType = .tag :=
  ⟨_, rfl, rfl, rfl⟩

theorem htree_plain_latency_smallTag :
    ∃ b, initializeBankWithHtree .permissive .sram .smallTag = some b ∧
      ∃ o, evaluateHtree (Globals.small .small) .small 0 b .small = some o ∧
        o.writeLatency = o.mat.writeLatency +
            2.3 / 2 * WireObject.small.resWirePerUnit * WireObject.small.capWirePerUnit *
              (o.mat.width ^ 2 * (b.numColumnMat ^ 2 - 1) / 3 +
                o.mat.height ^ 2 * (b.numRowMat ^ 2 - 1) / 12) ∧
          o.readLatency = o.mat.readLatency +
            2.3 * WireObject.small.resWirePerUnit * WireObject.small.capWirePerUnit *
              (o.mat.width ^ 2 * (b.numColumnMat ^ 2 - 1) / 3 +
                o.mat.height ^ 2 * (b.numRowMat ^ 2 - 1) / 12) ∧
          o.leakage = o.mat.leakage * (b.numRowMat * b.numColumnMat) ∧
          o.width = o.mat.width * b.numColumnMat ∧ o.height = o.mat.height * b.numRowMat := by
  obtain ⟨b, hb, hvalid, htag⟩ := exists_htree_smallTag
  obtain ⟨o, ho, hlegal⟩ := evaluateHtree_legal hb hvalid WireObject.plain_small
    (by rw [htag]; decide) (Globals.small .small) 0 .small
  exact ⟨b, hb, o, ho, htree_plain_latency hb hvalid ⟨1, rfl⟩ ⟨2, rfl⟩ WireObject.plain_small ho
    hlegal⟩

/-- The wires of an H-tree without repeaters carry the data of one access over one path, from
the root to a mat, whatever number of mats they are distributed to; the rest of the energy of an
access is that of the address and of the data that are broadcast. -/
theorem htree_plain_energy (h : initializeBankWithHtree el memCellType args = some b)
    (hvalid : b.invalid = false) (hnumRowMat : args.numRowMat.isPowerOfTwo)
    (hnumColumnMat : args.numColumnMat.isPowerOfTwo)
    (hactiveRow : args.numActiveMatPerRow.isPowerOfTwo)
    (hactiveColumn : args.numActiveMatPerColumn.isPowerOfTwo)
    (hdvd : args.clampActive.numActiveMatPerRow * args.clampActive.numActiveMatPerColumn ∣
      args.numDataDistributeBit) (hplain : globalWire.Plain)
    (ho : evaluateHtree g globalWire received b mat = some o) (hlegal : o.bank.invalid = false) :
    ∃ (levels : Direction × ℕ → WireLevel) (length : Direction × ℕ → K),
      b.Holds levels ∧ o.Wired (o.htreeWires globalWire.sharing) length ∧
        o.readDynamicEnergy = o.fromMats.readDynamicEnergy +
          globalWire.capWirePerUnit * g.tech.vdd ^ 2 *
            (args.numDataDistributeBit * (o.width - o.mat.width + (o.height - o.mat.height) / 2) +
              (∑ i ∈ Finset.range b.levelHorizontal,
                  length (.horizontal, i) * HtreeObject.selectBits (levels (.horizontal, i)) +
                ∑ j ∈ Finset.range b.levelVertical,
                  length (.vertical, j) * HtreeObject.selectBits (levels (.vertical, j)))) := by
  obtain ⟨length, heval⟩ := evaluateHtree_evaluated h hvalid hplain.pitch ho hlegal
  obtain ⟨hcolumns, hrows⟩ := two_pow_levels h hvalid hnumRowMat hnumColumnMat
  have hrow : args.clampActive.numActiveMatPerRow.isPowerOfTwo :=
    BankParams.isPowerOfTwo_min hactiveRow hnumColumnMat
  have hcolumn : args.clampActive.numActiveMatPerColumn.isPowerOfTwo :=
    BankParams.isPowerOfTwo_min hactiveColumn hnumRowMat
  have henergy := heval.plain_energy hplain hcolumns hrows
    (BankParams.activeWire_mul_distributeBit hrow hcolumn hdvd)
  have hread := congrArg FunctionUnit.readDynamicEnergy heval.measures
  rw [FunctionUnit.addWires, henergy] at hread
  exact ⟨_, length, (initializeBankWithHtree_holds h hvalid).2.1, heval.wired, hread⟩

theorem htree_plain_energy_smallTag :
    ∃ b, initializeBankWithHtree .permissive .sram .smallTag = some b ∧
      ∃ o, evaluateHtree (Globals.small .small) .small 0 b .small = some o ∧
        ∃ (levels : Direction × ℕ → WireLevel) (length : Direction × ℕ → ℚ),
          b.Holds levels ∧ o.Wired (o.htreeWires WireObject.small.sharing) length ∧
            o.readDynamicEnergy = o.fromMats.readDynamicEnergy +
              WireObject.small.capWirePerUnit * (Globals.small .small).tech.vdd ^ 2 *
                (BankParams.smallTag.numDataDistributeBit *
                    (o.width - o.mat.width + (o.height - o.mat.height) / 2) +
                  (∑ i ∈ Finset.range b.levelHorizontal,
                      length (.horizontal, i) * HtreeObject.selectBits (levels (.horizontal, i)) +
                    ∑ j ∈ Finset.range b.levelVertical,
                      length (.vertical, j) * HtreeObject.selectBits (levels (.vertical, j)))) := by
  obtain ⟨b, hb, hvalid, htag⟩ := exists_htree_smallTag
  obtain ⟨o, ho, hlegal⟩ := evaluateHtree_legal hb hvalid WireObject.plain_small
    (by rw [htag]; decide) (Globals.small .small) 0 .small
  exact ⟨b, hb, o, ho, htree_plain_energy hb hvalid ⟨1, rfl⟩ ⟨2, rfl⟩ ⟨1, rfl⟩ ⟨0, rfl⟩
    (by decide) WireObject.plain_small ho hlegal⟩

end Banks

end NVSim
