import Mathlib.Data.Nat.Factorization.Basic
import NVSim.Htree.Routing
import NVSim.Model.BankInts

/-!
# The wires of an H-tree bank

What the arrays of a bank with H-tree hold when `Initialize` does not mark it
invalid: every level is written once, conserves the data and the address bits,
and has twice as many wire groups as the level routed before it.  The tier
counts of `CalculateArea` divide the wire groups evenly, with one exception.

The counts are `int`s.  The innermost level of a tree over `2 ^ 32` mats or more has more
groups than an `int` can count, so this is a condition of the laws.
-/

namespace NVSim

open Library

variable {ι κ : Type}

/-- The arrays of a bank hold `levels`, each entry written exactly once, and
`routed` lists all of them in the order in which they were routed. -/
structure BankWithHtree.Holds (b : BankWithHtree ι κ) (levels : Direction × ℕ → WireLevel κ) :
    Prop where
  horizontal : b.horizontal.HoldsUpTo b.levelHorizontal b.levelHorizontal
    fun i => levels (.horizontal, i)
  vertical : b.vertical.HoldsUpTo b.levelVertical b.levelVertical fun j => levels (.vertical, j)
  nodup : b.routed.Nodup
  mem_routed : ∀ x, x ∈ b.routed ↔
    (∃ i < b.levelHorizontal, x = (.horizontal, i)) ∨ (∃ j < b.levelVertical, x = (.vertical, j))

namespace BankParams

theorem isPowerOfTwo_min {m n : ℕ} (hm : m.isPowerOfTwo) (hn : n.isPowerOfTwo) :
    (if m > n then n else m).isPowerOfTwo := by
  split
  · exact hn
  · exact hm

/-- The halvings of two powers of two are the splits of their product. -/
theorem two_pow_halvings_add {m n : ℕ} (hm : m.isPowerOfTwo) (hn : n.isPowerOfTwo) :
    2 ^ (TreeLoad.halvings m + TreeLoad.halvings n) = m * n := by
  obtain ⟨x, rfl⟩ := hm
  obtain ⟨y, rfl⟩ := hn
  rw [TreeLoad.halvings, TreeLoad.halvings, Nat.log_pow (by norm_num), Nat.log_pow (by norm_num),
    pow_add]

end BankParams

theorem MatParams.effectiveAddressBit_le (p : MatParams ι) :
    p.effectiveAddressBit ≤ p.numAddressBit := by
  unfold effectiveAddressBit
  omega

section Arrived

namespace RoutingVars

variable [Add ι] [Mul ι] [Div ι] [OfNat ι 0] [OfNat ι 1] [OfNat ι 2]

omit [Add ι] [OfNat ι 0] in
/-- The node of any level lies above the mats, so it has address bits left when a
mat has. -/
theorem depth_le {p : BankParams} (t : TreeLoad ι) {x : Direction × ℕ}
    (hx : (∃ i < p.levelHorizontal, x = (.horizontal, i)) ∨
      (∃ j < p.levelVertical, x = (.vertical, j))) :
    ∃ a b wire, a ≤ p.levelHorizontal ∧ b ≤ p.levelVertical ∧ a + b = p.depthOf x ∧
      p.levelIn t x = t.levelAt a b wire := by
  obtain ⟨i, hi, rfl⟩ | ⟨j, hj, rfl⟩ := hx
  · refine ⟨i, p.rowsAbove i, _, hi.le, ?_, rfl, rfl⟩
    unfold BankParams.rowsAbove
    split <;> omega
  · refine ⟨p.columnsAbove j, j + 1, _, ?_, hj, rfl, rfl⟩
    unfold BankParams.columnsAbove
    omega

/-- A bank whose arrays are those of an arrived routing holds the closed form of the tree,
in the order of the depths. -/
theorem Arrived.holds {p : BankParams} {t : TreeLoad ι} {s : RoutingVars ι} (hs : s.Arrived p t)
    {b : BankWithHtree κ ι} (hhorizontal : b.horizontal = s.horizontal)
    (hvertical : b.vertical = s.vertical) (hrouted : b.routed = s.routed)
    (hlevelHorizontal : b.levelHorizontal = p.levelHorizontal)
    (hlevelVertical : b.levelVertical = p.levelVertical) :
    b.Holds (p.levelIn t) ∧ b.routed.IsChain (fun x y => p.depthOf y = p.depthOf x + 1) := by
  have hnodup : (s.routed.map p.depthOf).Nodup := by
    rw [hs.logged.depths]
    exact List.nodup_range'
  have hchain : (s.routed.map p.depthOf).IsChain (fun d d' => d' = d + 1) := by
    rw [hs.logged.depths]
    exact List.isChain_range' _ _ 1
  refine ⟨⟨?_, ?_, ?_, ?_⟩, ?_⟩
  · rw [hhorizontal, hlevelHorizontal]
    exact hs.logged.horizontal
  · rw [hvertical, hlevelVertical]
    exact hs.logged.vertical
  · rw [hrouted]
    exact hnodup.of_map
  · rw [hrouted, hlevelHorizontal, hlevelVertical]
    exact hs.logged.mem_routed
  · rw [hrouted]
    exact (List.isChain_map _).1 hchain

end RoutingVars

end Arrived

/-- A valid bank holds the closed form of the tree, and its mat has address bits. -/
theorem initializeBankWithHtree_holds {el : Electrical} {memCellType : MemCellType}
    {args : BankParams} {b : BankWithHtree}
    (h : initializeBankWithHtree el memCellType args = some b) (hvalid : b.invalid = false) :
    b.toBankParams = args.restoreMux args.clampActive ∧
      b.Holds args.clampActive.levelOf ∧
      b.routed.IsChain (fun x y => args.clampActive.depthOf y = args.clampActive.depthOf x + 1) ∧
      0 < args.clampActive.treeLoad.addressBitAt args.clampActive.levelHorizontal
        args.clampActive.levelVertical := by
  obtain ⟨s, q, matParams, hs, hmat, hlegal, hb⟩ := initializeBankWithHtree_valid h hvalid
  obtain ⟨numDataBit, numWay, -, rfl, rfl⟩ := BankParams.matCall_eq_some hmat
  have hparams : b.toBankParams = args.restoreMux args.clampActive := by
    rw [hb]
    exact BankParams.restoreMux_expandDataMux memCellType numWay args args.clampActive
  obtain ⟨hholds, hchain⟩ := hs.holds (b := b) (by rw [hb]) (by rw [hb]) (by rw [hb])
    (congrArg BankParams.levelHorizontal hparams) (congrArg BankParams.levelVertical hparams)
  refine ⟨hparams, hholds, hchain, ?_⟩
  rw [← hs.carries.addressBit]
  exact hlegal.addressBit.trans_le (MatParams.effectiveAddressBit_le _)

/-! ## Machine integers -/

/-- Up to 30 doublings are exact in an `int`. -/
theorem toInt_doubled {n : ℕ} (h : n ≤ 30) : (doubled n : Int32).toInt = 2 ^ n := by
  induction n with
  | zero => rfl
  | succ n ih =>
      have hpos : (0 : ℤ) < 2 ^ n := by positivity
      have hle : (2 : ℤ) ^ n ≤ 2 ^ 29 := pow_le_pow_right₀ (by norm_num) (by omega)
      have htwo : (2 : Int32).toInt = 2 := rfl
      rw [doubled_succ, Int32.toInt_mul, ih (by omega), htwo, pow_succ' (2 : ℤ) n]
      generalize (2 : ℤ) ^ n = groups at *
      apply Int.bmod_eq_of_le_mul_two
      · omega
      · omega

/-- A multiple of a power of two is halved without remainder. -/
theorem mul_toInt_halved {n : ℕ} {x : Int32} (h : (2 : ℤ) ^ n ∣ x.toInt) :
    2 ^ n * (halved n x).toInt = x.toInt := by
  induction n with
  | zero => rw [halved_zero, pow_zero, one_mul]
  | succ n ih =>
      have hmul := ih (Dvd.dvd.trans (pow_dvd_pow 2 n.le_succ) h)
      have htwo : (2 : Int32).toInt = 2 := rfl
      have heven : (2 : ℤ) ∣ (halved n x).toInt := by
        rw [← hmul, pow_succ] at h
        exact Int.dvd_of_mul_dvd_mul_left (by positivity) h
      rw [halved_succ, Int32.toInt_div_of_ne_right _ _ (by decide), htwo, pow_succ, mul_assoc,
        Int.mul_tdiv_cancel' heven, hmul]

namespace BankParams

/-- What a bank sends into its tree, as `int`s. -/
def treeLoadInt (p : BankParams) : TreeLoad Int32 :=
  p.treeLoadWith p.storedDataDistributeBit p.storedDataBroadcastBit

end BankParams

/-- What a recorded level conserves: the active wire groups together carry all
distributed data bits, and the address bits already consumed select the active
groups among all. -/
structure WireLevel.Conserves (l : WireLevel Int32) (p : BankParams) : Prop where
  active_le_sum : l.activeWire ≤ l.sumWire
  distribute : l.activeWire.toInt * l.dataDistributeBit.toInt = p.storedDataDistributeBit.toInt
  address : l.sumWire.toInt * 2 ^ l.addressBit.toNat =
    l.activeWire.toInt * 2 ^ p.numAddressBit.toNat
  address_nonneg : 0 ≤ l.addressBit ∧ l.addressBit ≤ p.numAddressBit
  broadcast : l.dataBroadcastBit = p.storedDataBroadcastBit

/-- A level of at most 30 branchings conserves what enters the tree. -/
theorem BankParams.conserves_levelAt {p : BankParams} {a b : ℕ} (hdepth : a + b ≤ 30)
    (wire : Int32) (hrow : p.numActiveMatPerRow.isPowerOfTwo)
    (hcolumn : p.numActiveMatPerColumn.isPowerOfTwo)
    (hdvd : ((p.numActiveMatPerRow * p.numActiveMatPerColumn : ℕ) : ℤ) ∣
      p.storedDataDistributeBit.toInt)
    (haddress : 0 ≤ p.treeLoadInt.addressBitAt a b) :
    (p.treeLoadInt.levelAt a b wire).Conserves p := by
  have hsplits := p.treeLoadInt.splits_le a b
  have hactive : (p.treeLoadInt.activeWireAt a b).toInt = 2 ^ p.treeLoadInt.splits a b :=
    toInt_doubled (by omega)
  have hsum : (TreeLoad.sumWireAt a b : Int32).toInt = 2 ^ (a + b) := toInt_doubled hdepth
  have hconsumed := haddress
  unfold TreeLoad.addressBitAt at hconsumed
  refine ⟨?_, ?_, ?_, ⟨haddress, ?_⟩, rfl⟩
  · rw [Int32.le_iff_toInt_le]
    show (p.treeLoadInt.activeWireAt a b).toInt ≤ (TreeLoad.sumWireAt a b : Int32).toInt
    rw [hactive, hsum]
    exact pow_le_pow_right₀ (by norm_num) hsplits
  · show (p.treeLoadInt.activeWireAt a b).toInt * (p.treeLoadInt.distributeBitAt a b).toInt = _
    rw [hactive]
    refine mul_toInt_halved (Dvd.dvd.trans ?_ hdvd)
-- no more halvings than the active mats allow, and these divide the bits
    rw [← two_pow_halvings_add hrow hcolumn, Nat.cast_pow]
    refine pow_dvd_pow _ ?_
    unfold TreeLoad.splits
    exact add_le_add (min_le_right _ _) (min_le_right _ _)
  · show (TreeLoad.sumWireAt a b : Int32).toInt * 2 ^ (p.treeLoadInt.addressBitAt a b).toNat =
      (p.treeLoadInt.activeWireAt a b).toInt * 2 ^ p.treeLoadInt.addressBit.toNat
    rw [hactive, hsum, ← pow_add, ← pow_add]
    congr 1
    unfold TreeLoad.addressBitAt
    omega
  · show p.treeLoadInt.addressBitAt a b ≤ p.treeLoadInt.addressBit
    unfold TreeLoad.addressBitAt
    omega

/-- `restoreMux` keeps the parameters of the routing, which `clampActive` has chosen. -/
theorem WireLevel.Conserves.restoreMux {l : WireLevel Int32} {p : BankParams}
    (h : l.Conserves p) (args : BankParams) : l.Conserves (args.restoreMux p) :=
  ⟨h.active_le_sum, h.distribute, h.address, h.address_nonneg, h.broadcast⟩

/-- A valid bank has arrived at a valid mat. -/
theorem initializeBankWithHtreeInt_valid {undefined : Undefined} {el : Electrical Int64}
    {memCellType : MemCellType} {args : BankParams} {b : BankWithHtree Int64 Int32}
    (h : initializeBankWithHtreeInt undefined el memCellType args = some b)
    (hvalid : b.invalid = false) :
    ∃ s q matParams mat, RoutingVars.Arrived args.clampActive args.clampActive.treeLoadInt s ∧
      args.clampActive.storedParamsWithHtree memCellType s = some (q, matParams) ∧
      initializeMatInt undefined el matParams = some mat ∧ mat.invalid = false ∧
      b = { toBankParams := args.restoreMux q
            initialized := true
            invalid := false
            mat := mat
            horizontal := s.horizontal
            vertical := s.vertical
            routed := s.routed } := by
  have hroute : Yields args.clampActive.routeInt _ _ :=
    args.clampActive.yields_routeWith args.clampActive.storedDataDistributeBit
      args.clampActive.storedDataBroadcastBit args.numActiveMatPerRow_clampActive_le_one
  unfold initializeBankWithHtreeInt at h
  split at h
  · obtain rfl := Option.some.inj h
    cases hvalid
  · dsimp only at h
    split at h
    · cases h
    · obtain rfl := Option.some.inj h
      cases hvalid
    · rename_i s hs
      rw [hs, yields_ok] at hroute
      split at h
      · obtain rfl := Option.some.inj h
        cases hvalid
      · rename_i q matParams hmat
        obtain ⟨mat, hinit, h⟩ := Option.bind_eq_some_iff.1 h
        split at h
        · obtain rfl := Option.some.inj h
          cases hvalid
        · rename_i hmatValid
          exact ⟨s, q, matParams, mat, hroute, hmat, hinit, Bool.eq_false_iff.2 hmatValid,
            (Option.some.inj h).symm⟩

/-- A valid bank holds the closed form of the tree in `int`s, and its mat has address bits. -/
theorem initializeBankWithHtreeInt_holds {undefined : Undefined} {el : Electrical Int64}
    {memCellType : MemCellType} {args : BankParams} {b : BankWithHtree Int64 Int32}
    (h : initializeBankWithHtreeInt undefined el memCellType args = some b)
    (hvalid : b.invalid = false) :
    b.toBankParams = args.restoreMux args.clampActive ∧
      b.Holds (args.clampActive.levelIn args.clampActive.treeLoadInt) ∧
      b.routed.IsChain (fun x y => args.clampActive.depthOf y = args.clampActive.depthOf x + 1) ∧
      0 < args.clampActive.treeLoadInt.addressBitAt args.clampActive.levelHorizontal
        args.clampActive.levelVertical := by
  obtain ⟨s, q, matParams, mat, hs, hmat, hinit, hmatValid, hb⟩ :=
    initializeBankWithHtreeInt_valid h hvalid
  have haddress := addressBit_of_initializeMatInt hinit hmatValid
  obtain ⟨numDataBit, numWay, -, rfl, rfl⟩ := BankParams.matCall_eq_some hmat
  have hparams : b.toBankParams = args.restoreMux args.clampActive := by
    rw [hb]
    exact BankParams.restoreMux_expandDataMux memCellType numWay args args.clampActive
  obtain ⟨hholds, hchain⟩ := hs.holds (b := b) (by rw [hb]) (by rw [hb]) (by rw [hb])
    (congrArg BankParams.levelHorizontal hparams) (congrArg BankParams.levelVertical hparams)
  refine ⟨hparams, hholds, hchain, ?_⟩
  rw [← hs.carries.addressBit]
  exact haddress.trans_le (MatParams.effectiveAddressBit_le _)

/-- The innermost level of a tree over fewer than `2 ^ 32` mats lies below at most 30 branchings,
since the number of rows of mats is an `int`. -/
theorem BankParams.depthOf_le {p : BankParams} (hnumRowMat : p.numRowMat.isPowerOfTwo)
    (hnumColumnMat : p.numColumnMat.isPowerOfTwo) (hrow : p.numRowMat < 2 ^ 31)
    (hmats : p.numRowMat * p.numColumnMat < 2 ^ 32) {x : Direction × ℕ}
    (hx : (∃ i < p.levelHorizontal, x = (.horizontal, i)) ∨
      (∃ j < p.levelVertical, x = (.vertical, j))) : p.depthOf x ≤ 30 := by
  obtain ⟨v, hv⟩ := hnumRowMat
  obtain ⟨h, hh⟩ := hnumColumnMat
  rw [hv, hh, ← pow_add, Nat.pow_lt_pow_iff_right one_lt_two] at hmats
  rw [hv, Nat.pow_lt_pow_iff_right one_lt_two] at hrow
  have hlevelVertical : p.levelVertical = v := by
    rw [levelVertical, hv, log2Rounded_two_pow]
  have hlevelHorizontal : p.levelHorizontal = h := by
    rw [levelHorizontal, hh, log2Rounded_two_pow]
  rw [hlevelVertical, hlevelHorizontal] at hx
  obtain ⟨i, hi, rfl⟩ | ⟨j, hj, rfl⟩ := hx
  · simp only [depthOf, rowsAbove, hlevelVertical, hlevelHorizontal]
    split <;> omega
  · simp only [depthOf, columnsAbove, hlevelVertical, hlevelHorizontal]
    omega

/-- H-tree wire conservation: the routing makes no illegal array access, and if `Initialize`
does not mark the bank invalid, it has written every entry of the arrays once, every level
conserves the bits, and the wire groups double along the walk. -/
theorem htree_wires_conserved (undefined : Undefined) (el : Electrical Int64)
    (memCellType : MemCellType) (args : BankParams)
    (hnumRowMat : args.numRowMat.isPowerOfTwo) (hnumColumnMat : args.numColumnMat.isPowerOfTwo)
    (hrow : args.numRowMat < 2 ^ 31) (hmats : args.numRowMat * args.numColumnMat < 2 ^ 32)
    (hactiveRow : args.numActiveMatPerRow.isPowerOfTwo)
    (hactiveColumn : args.numActiveMatPerColumn.isPowerOfTwo)
    (hdvd : ((args.clampActive.numActiveMatPerRow * args.clampActive.numActiveMatPerColumn : ℕ) :
      ℤ) ∣ args.storedDataDistributeBit.toInt) :
    args.clampActive.routeInt ≠ .error .arrayAccess ∧
      ∀ b, initializeBankWithHtreeInt undefined el memCellType args = some b →
        b.invalid = false →
          ∃ levels, b.Holds levels ∧ (∀ x ∈ b.routed, (levels x).Conserves b.toBankParams) ∧
            b.routed.IsChain fun x y =>
              (levels y).sumWire.toInt = 2 * (levels x).sumWire.toInt := by
  constructor
  · intro herror
    have hroute : Yields args.clampActive.routeInt _ _ :=
      args.clampActive.yields_routeWith args.clampActive.storedDataDistributeBit
        args.clampActive.storedDataBroadcastBit args.numActiveMatPerRow_clampActive_le_one
    rw [herror] at hroute
    cases hroute.1
  intro b hb hvalid
  obtain ⟨hparams, hholds, hchain, haddress⟩ := initializeBankWithHtreeInt_holds hb hvalid
  have hmem (x) (hx : x ∈ b.routed) : (∃ i < args.clampActive.levelHorizontal,
      x = (.horizontal, i)) ∨ (∃ j < args.clampActive.levelVertical, x = (.vertical, j)) := by
    have hrouted := (hholds.mem_routed x).1 hx
    rw [hparams] at hrouted
    exact hrouted
-- up to 30 branchings the wires of a level are counted without an overflow
  have hdepth (x) (hx : x ∈ b.routed) : args.clampActive.depthOf x ≤ 30 :=
    BankParams.depthOf_le hnumRowMat hnumColumnMat hrow hmats (hmem x hx)
  refine ⟨args.clampActive.levelIn args.clampActive.treeLoadInt, hholds, fun x hx => ?_, ?_⟩
  · obtain ⟨a, c, wire, ha, hc, hsum, hlevel⟩ :=
      RoutingVars.depth_le args.clampActive.treeLoadInt (hmem x hx)
    have hnonneg := haddress.trans_le (args.clampActive.treeLoadInt.addressBitAt_antitone ha hc)
    rw [hlevel, hparams]
    refine (BankParams.conserves_levelAt ?_ wire
      (BankParams.isPowerOfTwo_min hactiveRow hnumColumnMat)
      (BankParams.isPowerOfTwo_min hactiveColumn hnumRowMat) hdvd hnonneg.le).restoreMux args
    rw [hsum]
    exact hdepth x hx
  · rw [List.isChain_iff_getElem] at hchain ⊢
    intro i hi
    have hnext := hchain i hi
    rw [BankParams.sumWire_levelIn, BankParams.sumWire_levelIn,
      toInt_doubled (hdepth _ (List.getElem_mem _)), toInt_doubled (hdepth _ (List.getElem_mem _)),
      hnext, pow_succ']

theorem htree_wires_conserved_small :
    ∃ b, initializeBankWithHtreeInt ⟨0, 0⟩ .permissive .sram .small = some b ∧
      b.invalid = false ∧
      ∃ levels, b.Holds levels ∧ (∀ x ∈ b.routed, (levels x).Conserves b.toBankParams) ∧
        b.routed.IsChain fun x y => (levels y).sumWire.toInt = 2 * (levels x).sumWire.toInt := by
  obtain ⟨b, hb, hvalid⟩ : ∃ b, initializeBankWithHtreeInt ⟨0, 0⟩ .permissive .sram .small =
      some b ∧ b.invalid = false := ⟨_, rfl, rfl⟩
  refine ⟨b, hb, hvalid, ?_⟩
  exact (htree_wires_conserved ⟨0, 0⟩ .permissive .sram .small ⟨1, rfl⟩ ⟨2, rfl⟩ (by decide)
    (by decide) ⟨1, rfl⟩ ⟨0, rfl⟩ (by decide)).2 b hb hvalid

/-- A data array of `2 ^ 34` bytes in `2 ^ 16` times `2 ^ 16` mats, of which one is active. -/
def BankParams.manyMats : BankParams :=
  { small with
    numRowMat := 2 ^ 16
    numColumnMat := 2 ^ 16
    capacity := 8 * 2 ^ 34
    blockSize := 8
    associativity := 1
    numActiveMatPerRow := 1
    numRowSubarray := 1
    numColumnSubarray := 1
    numActiveSubarrayPerRow := 1 }

/-- The innermost level of such a tree has `2 ^ 31` wire groups, which an `int` stores as a
negative number, less than the one active group and not twice the groups of the level above. -/
theorem htree_wires_wrapped :
    ∃ b, initializeBankWithHtreeInt ⟨0, 0⟩ .permissive .sram .manyMats = some b ∧
      b.invalid = false ∧
      ∃ active sum above, b.vertical.numActiveWire.read 15 = some active ∧
        b.vertical.numSumWire.read 15 = some sum ∧ b.horizontal.numSumWire.read 15 = some above ∧
        ¬ active ≤ sum ∧ sum.toInt ≠ 2 * above.toInt := by
  have hbank : (initializeBankWithHtreeInt ⟨0, 0⟩ .permissive .sram .manyMats).map (fun b =>
      (b.invalid, b.vertical.numActiveWire.read 15, b.vertical.numSumWire.read 15,
        b.horizontal.numSumWire.read 15)) =
      some (false, some 1, some (-2 ^ 31), some (2 ^ 30)) := by
    decide +kernel
  obtain ⟨b, hb, hreads⟩ := Option.map_eq_some_iff.1 hbank
  simp only [Prod.mk.injEq] at hreads
  obtain ⟨hvalid, hactive, hsum, habove⟩ := hreads
  exact ⟨b, hb, hvalid, _, _, _, hactive, hsum, habove, by decide, by decide⟩

/-! ## Tiers -/

namespace BankWithHtree

/-- Each of the tiers of the horizontal level `i` holds `perTier` wire groups. -/
def HorizontalTiers (b : BankWithHtree Int64 Int32) (i perTier : ℕ) : Prop :=
  ∃ wire sum, b.horizontal.numWire.read i = some wire ∧ b.horizontal.numSumWire.read i = some sum ∧
    sum.toInt = wire.toInt * perTier

/-- Each of the tiers of the vertical level `j` holds `perTier` wire groups. -/
def VerticalTiers (b : BankWithHtree Int64 Int32) (j perTier : ℕ) : Prop :=
  ∃ wire sum, b.vertical.numWire.read j = some wire ∧ b.vertical.numSumWire.read j = some sum ∧
    sum.toInt = wire.toInt * perTier

end BankWithHtree

/-- How many doublings the tiers of the vertical level `j` have less than its wire groups. -/
theorem BankParams.verticalWireAt_eq (p : BankParams) {j : ℕ} (hj : j < p.levelVertical) :
    ∃ n, (p.verticalWireAt j : Int32) = doubled n ∧
      n + (if p.levelHorizontal = 2 ∧ j + 1 = p.levelVertical then j + 2 else j + 1) =
        p.columnsAbove j + (j + 1) := by
  unfold verticalWireAt columnsAbove
  by_cases hspecial : p.levelHorizontal = 2
  · rw [if_pos hspecial]
    refine ⟨_, rfl, ?_⟩
    split <;> omega
  · rw [if_neg hspecial, if_neg (by omega)]
    exact ⟨_, rfl, rfl⟩

/-- The tiers that `CalculateArea` lays out hold the same number of the wire
groups counted for leakage: `2 ^ i` at the horizontal level `i` and `2 ^ (j + 1)`
at the vertical level `j`.  Only with exactly two horizontal levels, where the
source halves the tiers of the innermost vertical level, that level has twice as
many groups in a tier. -/
theorem htree_tiers (undefined : Undefined) (el : Electrical Int64) (memCellType : MemCellType)
    (args : BankParams) (hnumRowMat : args.numRowMat.isPowerOfTwo)
    (hnumColumnMat : args.numColumnMat.isPowerOfTwo) (hrow : args.numRowMat < 2 ^ 31)
    (hmats : args.numRowMat * args.numColumnMat < 2 ^ 32) (b : BankWithHtree Int64 Int32)
    (h : initializeBankWithHtreeInt undefined el memCellType args = some b)
    (hvalid : b.invalid = false) :
    (∀ i < b.levelHorizontal, b.HorizontalTiers i (2 ^ i)) ∧
      ∀ j < b.levelVertical, b.VerticalTiers j
        (2 ^ (if b.levelHorizontal = 2 ∧ j + 1 = b.levelVertical then j + 2 else j + 1)) := by
  obtain ⟨hparams, hholds, -, -⟩ := initializeBankWithHtreeInt_holds h hvalid
  have hlevels : b.levelHorizontal = args.clampActive.levelHorizontal ∧
      b.levelVertical = args.clampActive.levelVertical := by
    rw [hparams]
    exact ⟨rfl, rfl⟩
  have hdepth {x : Direction × ℕ} (hx : (∃ i < args.clampActive.levelHorizontal,
      x = (.horizontal, i)) ∨ (∃ j < args.clampActive.levelVertical, x = (.vertical, j))) :
      args.clampActive.depthOf x ≤ 30 :=
    BankParams.depthOf_le hnumRowMat hnumColumnMat hrow hmats hx
  constructor
  · intro i hi
    refine ⟨_, _, hholds.horizontal.wire.read rfl hi, hholds.horizontal.sumWire.read rfl hi, ?_⟩
    have hle : i + args.clampActive.rowsAbove i ≤ 30 := hdepth (.inl ⟨i, hlevels.1 ▸ hi, rfl⟩)
    show (doubled (i + args.clampActive.rowsAbove i) : Int32).toInt =
      (doubled (args.clampActive.rowsAbove i) : Int32).toInt * (2 ^ i : ℕ)
    rw [toInt_doubled hle, toInt_doubled (by omega), pow_add, mul_comm, Nat.cast_pow,
      Nat.cast_ofNat]
  · intro j hj
    refine ⟨_, _, hholds.vertical.wire.read rfl hj, hholds.vertical.sumWire.read rfl hj, ?_⟩
    rw [hlevels.2] at hj
    rw [hlevels.1, hlevels.2]
    have hle : args.clampActive.columnsAbove j + (j + 1) ≤ 30 := hdepth (.inr ⟨j, hj, rfl⟩)
-- with two horizontal levels the innermost vertical one has half the wires in a tier
    obtain ⟨n, hwire, hn⟩ := args.clampActive.verticalWireAt_eq hj
    show (doubled (args.clampActive.columnsAbove j + (j + 1)) : Int32).toInt =
      (args.clampActive.verticalWireAt j : Int32).toInt * _
    rw [← hn] at hle
    rw [hwire, ← hn, toInt_doubled hle, toInt_doubled (by omega), pow_add, Nat.cast_pow,
      Nat.cast_ofNat]

theorem htree_tiers_small :
    ∃ b, initializeBankWithHtreeInt ⟨0, 0⟩ .permissive .sram .small = some b ∧
      b.invalid = false ∧
      (∀ i < b.levelHorizontal, b.HorizontalTiers i (2 ^ i)) ∧
      ∀ j < b.levelVertical, b.VerticalTiers j
        (2 ^ (if b.levelHorizontal = 2 ∧ j + 1 = b.levelVertical then j + 2 else j + 1)) :=
  ⟨_, rfl, rfl, htree_tiers ⟨0, 0⟩ .permissive .sram .small ⟨1, rfl⟩ ⟨2, rfl⟩ (by decide)
    (by decide) _ rfl rfl⟩

/-- With four columns of mats the innermost vertical level has one tier for its four wire
groups, not two.  With `2 ^ 32` mats its groups wrap around. -/
theorem htree_tiers_violated :
    (∃ b, initializeBankWithHtreeInt ⟨0, 0⟩ .permissive .sram .small = some b ∧
      b.invalid = false ∧ 0 < b.levelVertical ∧ ¬ b.VerticalTiers 0 (2 ^ (0 + 1))) ∧
    ∃ b, initializeBankWithHtreeInt ⟨0, 0⟩ .permissive .sram .manyMats = some b ∧
      b.invalid = false ∧ 15 < b.levelVertical ∧ ¬ b.VerticalTiers 15 (2 ^ (15 + 1)) := by
  have hsmall : (initializeBankWithHtreeInt ⟨0, 0⟩ .permissive .sram .small).map (fun b =>
      (b.invalid, b.levelVertical, b.vertical.numWire.read 0, b.vertical.numSumWire.read 0)) =
      some (false, 1, some 1, some 4) := by
    decide +kernel
  have hmany : (initializeBankWithHtreeInt ⟨0, 0⟩ .permissive .sram .manyMats).map (fun b =>
      (b.invalid, b.levelVertical, b.vertical.numWire.read 15, b.vertical.numSumWire.read 15)) =
      some (false, 16, some (2 ^ 15), some (-2 ^ 31)) := by
    decide +kernel
  obtain ⟨b, hb, hreads⟩ := Option.map_eq_some_iff.1 hsmall
  obtain ⟨b', hb', hreads'⟩ := Option.map_eq_some_iff.1 hmany
  simp only [Prod.mk.injEq] at hreads hreads'
  obtain ⟨hvalid, hlevels, hwire, hsum⟩ := hreads
  obtain ⟨hvalid', hlevels', hwire', hsum'⟩ := hreads'
  refine ⟨⟨b, hb, hvalid, by omega, ?_⟩, b', hb', hvalid', by omega, ?_⟩
  · rintro ⟨wire, sum, hreadWire, hreadSum, heq⟩
    obtain rfl := Option.some.inj (hwire.symm.trans hreadWire)
    obtain rfl := Option.some.inj (hsum.symm.trans hreadSum)
    revert heq
    decide
  · rintro ⟨wire, sum, hreadWire, hreadSum, heq⟩
    obtain rfl := Option.some.inj (hwire'.symm.trans hreadWire)
    obtain rfl := Option.some.inj (hsum'.symm.trans hreadSum)
    revert heq
    decide

end NVSim
