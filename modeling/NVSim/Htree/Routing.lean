import NVSim.Htree.Tree

/-!
# The routing loops follow the tree

`BankParams.route` walks down the tree in an order that depends on which of the
two level counts is larger: first the surplus levels of the longer direction,
then the two directions in turn.  This module shows that every walk visits the
nodes of `NVSim.Htree.Tree`.  After `m` horizontal and `n` vertical levels
(`Routed p s m n`) the variables carry what the closed form says about the node
below `m - 1` horizontal and `n` vertical branchings, and the first `m` and `n`
entries of the arrays were each written exactly once, with the closed form of
their level.

The main result is `yields_routeWith`.  It holds for all parameters and all data bits: no array
access ever fails, and the walk stops early only at a node that is blocked.  The type of the
data bits and the wire counts only has to have a commutative product with one.
-/

namespace NVSim

open Library

-- all steps are for the same operations, whichever of them a lemma needs
set_option linter.unusedSectionVars false

variable {ι : Type}

/-! ## The six arrays of one direction -/

/-- The first `k` of the `n` levels were written exactly once, as `f` describes
them, and the others never. -/
structure WireArrays.HoldsUpTo (a : WireArrays ι) (n k : ℕ) (f : ℕ → WireLevel ι) : Prop where
  addressBit : a.numAddressBitToRoute.HoldsUpTo n k fun i => (f i).addressBit
  dataDistributeBit : a.numDataDistributeBitToRoute.HoldsUpTo n k fun i => (f i).dataDistributeBit
  dataBroadcastBit : a.numDataBroadcastBitToRoute.HoldsUpTo n k fun i => (f i).dataBroadcastBit
  wire : a.numWire.HoldsUpTo n k fun i => (f i).wire
  sumWire : a.numSumWire.HoldsUpTo n k fun i => (f i).sumWire
  activeWire : a.numActiveWire.HoldsUpTo n k fun i => (f i).activeWire

namespace WireArrays

theorem holdsUpTo_allocate (n : ℕ) (f : ℕ → WireLevel ι) : (allocate n).HoldsUpTo n 0 f where
  addressBit := TracedArray.holdsUpTo_allocate n _
  dataDistributeBit := TracedArray.holdsUpTo_allocate n _
  dataBroadcastBit := TracedArray.holdsUpTo_allocate n _
  wire := TracedArray.holdsUpTo_allocate n _
  sumWire := TracedArray.holdsUpTo_allocate n _
  activeWire := TracedArray.holdsUpTo_allocate n _

/-- Recording the first unwritten level succeeds and extends the written prefix. -/
theorem HoldsUpTo.record {a : WireArrays ι} {n k : ℕ} {f : ℕ → WireLevel ι}
    (h : a.HoldsUpTo n k f) {j : ℤ} (hj : j = k) (hk : k < n) {l : WireLevel ι} (hl : l = f k) :
    ∃ a', a.record j l = some a' ∧ a'.HoldsUpTo n (k + 1) f := by
  subst hl
  obtain ⟨a₁, hw₁, h₁⟩ := h.activeWire.write hj hk rfl
  obtain ⟨a₂, hw₂, h₂⟩ := h.addressBit.write hj hk rfl
  obtain ⟨a₃, hw₃, h₃⟩ := h.dataDistributeBit.write hj hk rfl
  obtain ⟨a₄, hw₄, h₄⟩ := h.dataBroadcastBit.write hj hk rfl
  obtain ⟨a₅, hw₅, h₅⟩ := h.wire.write hj hk rfl
  obtain ⟨a₆, hw₆, h₆⟩ := h.sumWire.write hj hk rfl
  refine ⟨⟨a₂, a₃, a₄, a₅, a₆, a₁⟩, ?_, ⟨h₂, h₃, h₄, h₅, h₆, h₁⟩⟩
  simp [WireArrays.record, hw₁, hw₂, hw₃, hw₄, hw₅, hw₆]

end WireArrays

/-! ## The node of a level -/

namespace BankParams

variable (p : BankParams)

/-- The vertical branchings above the horizontal level `i`. -/
def rowsAbove (i : ℕ) : ℕ := if i = 0 then 0 else i + p.levelVertical - p.levelHorizontal

/-- The horizontal branchings above the vertical level `j`. -/
def columnsAbove (j : ℕ) : ℕ := j + p.levelHorizontal - p.levelVertical

/-- How many branchings lie above a level. -/
def depthOf : Direction × ℕ → ℕ
  | (.horizontal, i) => i + p.rowsAbove i
  | (.vertical, j) => p.columnsAbove j + (j + 1)

/-- The depth of the first level that is routed: the root is a horizontal level,
and without horizontal levels the walk starts below it. -/
def firstDepth : ℕ := if p.levelHorizontal = 0 then 1 else 0

theorem depthOf_horizontal (hlevels : 0 < p.levelHorizontal) (i : ℕ) :
    p.depthOf (.horizontal, i) = p.firstDepth + (i + p.rowsAbove i) := by
  rw [depthOf, firstDepth, if_neg hlevels.ne', Nat.zero_add]

section Levels

variable [Add ι] [Mul ι] [Div ι] [OfNat ι 0] [OfNat ι 1] [OfNat ι 2] (t : TreeLoad ι)

/-- The horizontal level `i` in closed form. -/
def horizontalLevelIn (i : ℕ) : WireLevel ι :=
  t.levelAt i (p.rowsAbove i) (doubled (p.rowsAbove i))

/-- The number of tiers of the vertical level `j`. -/
def verticalWireAt (j : ℕ) : ι :=
  if p.levelHorizontal = 2 then doubled (p.columnsAbove j - 1) else doubled (p.columnsAbove j)

/-- The vertical level `j` in closed form. -/
def verticalLevelIn (j : ℕ) : WireLevel ι :=
  t.levelAt (p.columnsAbove j) (j + 1) (p.verticalWireAt j)

/-- The level in closed form, in either direction. -/
def levelIn : Direction × ℕ → WireLevel ι
  | (.horizontal, i) => p.horizontalLevelIn t i
  | (.vertical, j) => p.verticalLevelIn t j

theorem sumWire_levelIn (x : Direction × ℕ) : (p.levelIn t x).sumWire = doubled (p.depthOf x) := by
  obtain ⟨d, i⟩ := x
  cases d with
  | horizontal => rfl
  | vertical => rfl

end Levels

/-- The levels of the routing with exact integers. -/
def levelOf : Direction × ℕ → WireLevel := p.levelIn p.treeLoad

end BankParams

/-! ## What holds during the walk -/

namespace RoutingVars

section Invariants

variable [Add ι] [Mul ι] [Div ι] [OfNat ι 0] [OfNat ι 1] [OfNat ι 2]

/-- The scalar variables carry the closed form of the node `(a, b)`. -/
structure Carries (t : TreeLoad ι) (s : RoutingVars ι) (a b : ℕ) : Prop where
  rowToActive : s.rowToActive = t.rowToActiveAt b
  columnToActive : s.columnToActive = t.columnToActiveAt a
  addressBit : s.numAddressBitToRoute = t.addressBitAt a b
  distributeBit : s.numDataDistributeBitToRoute = t.distributeBitAt a b
  broadcastBit : s.numDataBroadcastBitToRoute = t.broadcastBit

/-- The arrays and the order of the walk after `m` horizontal and `n` vertical
levels. -/
structure Logged (p : BankParams) (t : TreeLoad ι) (s : RoutingVars ι) (m n : ℕ) : Prop where
  horizontal : s.horizontal.HoldsUpTo p.levelHorizontal m (p.horizontalLevelIn t)
  vertical : s.vertical.HoldsUpTo p.levelVertical n (p.verticalLevelIn t)
  depths : s.routed.map p.depthOf = List.range' p.firstDepth (m + n)
  mem_routed : ∀ x, x ∈ s.routed ↔
    (∃ i < m, x = (.horizontal, i)) ∨ (∃ j < n, x = (.vertical, j))

/-- The loop counters and the tier counters after `m` and `n` levels. -/
structure Counts (p : BankParams) (s : RoutingVars ι) (m n : ℕ) : Prop where
  h : s.h + m = p.levelHorizontal
  v : s.v + n = p.levelVertical
  hTemp : s.hTemp = doubled n
  vTemp : s.vTemp = doubled (m - 1)

/-- `m` horizontal and `n` vertical levels have been routed. -/
structure Routed (p : BankParams) (t : TreeLoad ι) (s : RoutingVars ι) (m n : ℕ) : Prop where
  carries : s.Carries t (m - 1) n
  logged : s.Logged p t m n
  counts : s.Counts p m n

/-- Only the arrays and the order may differ. -/
structure SameVars (s s' : RoutingVars ι) : Prop where
  h : s'.h = s.h
  v : s'.v = s.v
  rowToActive : s'.rowToActive = s.rowToActive
  columnToActive : s'.columnToActive = s.columnToActive
  addressBit : s'.numAddressBitToRoute = s.numAddressBitToRoute
  distributeBit : s'.numDataDistributeBitToRoute = s.numDataDistributeBitToRoute
  broadcastBit : s'.numDataBroadcastBitToRoute = s.numDataBroadcastBitToRoute
  hTemp : s'.hTemp = s.hTemp
  vTemp : s'.vTemp = s.vTemp

/-- The early exit: some node above the mats is blocked. -/
def StopsBlocked (p : BankParams) (t : TreeLoad ι) (e : RouteHalt) : Prop :=
  e = .invalid ∧
    ∃ a b, a ≤ p.levelHorizontal ∧ b ≤ p.levelVertical ∧ t.Blocked a b

end Invariants

variable [Add ι] [Mul ι] [Div ι] [OfNat ι 0] [OfNat ι 1] [OfNat ι 2] [DecidableEq ι]
  [Std.Commutative (α := ι) (· * ·)] [Std.LawfulLeftIdentity (α := ι) (· * ·) 1]

section Carries

variable {t : TreeLoad ι} {s : RoutingVars ι} {a b : ℕ}

theorem Carries.nothingToRoute_iff (hs : s.Carries t a b) :
    s.nothingToRoute = true ↔ t.Blocked a b := by
  simp only [nothingToRoute, TreeLoad.Blocked, hs.addressBit, hs.distributeBit, hs.broadcastBit,
    Bool.or_eq_true, decide_eq_true_eq]

/-- One column step moves the variables to the next node, and its factor turns
the active wires of the old node into those of the new one. -/
theorem Carries.splitColumn (hs : s.Carries t a b) :
    s.splitColumn.1.Carries t (a + 1) b ∧
      s.splitColumn.2 * t.activeWireAt a b = t.activeWireAt (a + 1) b := by
  by_cases hc : 1 < t.columnToActiveAt a
  · have hsplits := TreeLoad.splits_succ_column (b := b) hc
    have hbranch : s.columnToActive > 1 := by rw [hs.columnToActive]; exact hc
    rw [RoutingVars.splitColumn, if_pos hbranch]
    refine ⟨⟨hs.rowToActive, ?_, ?_, ?_, hs.broadcastBit⟩, ?_⟩
    · simp only [hs.columnToActive, TreeLoad.columnToActiveAt_succ hc]
    · have := t.splits_le a b
      simp only [hs.addressBit, TreeLoad.addressBitAt, hsplits]
      omega
    · simp only [hs.distributeBit, TreeLoad.distributeBitAt, hsplits, halved_succ]
    · rw [TreeLoad.activeWireAt, TreeLoad.activeWireAt, hsplits, doubled_succ]
  · have hsplits := TreeLoad.splits_succ_column_of_not (b := b) hc
    have hbranch : ¬ s.columnToActive > 1 := by rw [hs.columnToActive]; exact hc
    rw [RoutingVars.splitColumn, if_neg hbranch]
    refine ⟨⟨hs.rowToActive, ?_, ?_, ?_, hs.broadcastBit⟩, ?_⟩
    · simp only [hs.columnToActive, TreeLoad.columnToActiveAt_succ_of_not hc]
    · have := t.splits_le a b
      simp only [hs.addressBit, TreeLoad.addressBitAt, hsplits]
      omega
    · simp only [hs.distributeBit, TreeLoad.distributeBitAt, hsplits]
    · rw [TreeLoad.activeWireAt, TreeLoad.activeWireAt, hsplits]
      exact Std.LawfulLeftIdentity.left_id _

/-- The same for a row step. -/
theorem Carries.splitRow (hs : s.Carries t a b) :
    s.splitRow.1.Carries t a (b + 1) ∧
      s.splitRow.2 * t.activeWireAt a b = t.activeWireAt a (b + 1) := by
  by_cases hc : 1 < t.rowToActiveAt b
  · have hsplits := TreeLoad.splits_succ_row (a := a) hc
    have hbranch : s.rowToActive > 1 := by rw [hs.rowToActive]; exact hc
    rw [RoutingVars.splitRow, if_pos hbranch]
    refine ⟨⟨?_, hs.columnToActive, ?_, ?_, hs.broadcastBit⟩, ?_⟩
    · simp only [hs.rowToActive, TreeLoad.rowToActiveAt_succ hc]
    · have := t.splits_le a b
      simp only [hs.addressBit, TreeLoad.addressBitAt, hsplits]
      omega
    · simp only [hs.distributeBit, TreeLoad.distributeBitAt, hsplits, halved_succ]
    · rw [TreeLoad.activeWireAt, TreeLoad.activeWireAt, hsplits, doubled_succ]
  · have hsplits := TreeLoad.splits_succ_row_of_not (a := a) hc
    have hbranch : ¬ s.rowToActive > 1 := by rw [hs.rowToActive]; exact hc
    rw [RoutingVars.splitRow, if_neg hbranch]
    refine ⟨⟨?_, hs.columnToActive, ?_, ?_, hs.broadcastBit⟩, ?_⟩
    · simp only [hs.rowToActive, TreeLoad.rowToActiveAt_succ_of_not hc]
    · have := t.splits_le a b
      simp only [hs.addressBit, TreeLoad.addressBitAt, hsplits]
      omega
    · simp only [hs.distributeBit, TreeLoad.distributeBitAt, hsplits]
    · rw [TreeLoad.activeWireAt, TreeLoad.activeWireAt, hsplits]
      exact Std.LawfulLeftIdentity.left_id _

/-- A node that carries the closed form records the closed form of its level. -/
theorem Carries.level_eq (hs : s.Carries t a b) {wire sumWire activeWire : ι}
    (hsum : sumWire = TreeLoad.sumWireAt a b) (hactive : activeWire = t.activeWireAt a b) :
    s.level wire sumWire activeWire = t.levelAt a b wire := by
  simp [RoutingVars.level, TreeLoad.levelAt, hs.addressBit, hs.distributeBit, hs.broadcastBit,
    hsum, hactive]

theorem Carries.of_sameVars (hs : s.Carries t a b) {s' : RoutingVars ι} (h : SameVars s s') :
    s'.Carries t a b where
  rowToActive := h.rowToActive.trans hs.rowToActive
  columnToActive := h.columnToActive.trans hs.columnToActive
  addressBit := h.addressBit.trans hs.addressBit
  distributeBit := h.distributeBit.trans hs.distributeBit
  broadcastBit := h.broadcastBit.trans hs.broadcastBit

/-- The end of a step only moves the counters. -/
theorem Carries.move (hs : s.Carries t a b) (h v : ℕ) (hTemp vTemp : ι) :
    { s with h := h, v := v, hTemp := hTemp, vTemp := vTemp }.Carries t a b :=
  ⟨hs.rowToActive, hs.columnToActive, hs.addressBit, hs.distributeBit, hs.broadcastBit⟩

end Carries

section Steps

variable {p : BankParams} {t : TreeLoad ι} {s : RoutingVars ι} {m n : ℕ}

theorem Counts.of_sameVars (hs : s.Counts p m n) {s' : RoutingVars ι} (h : SameVars s s') :
    s'.Counts p m n where
  h := by rw [h.h, hs.h]
  v := by rw [h.v, hs.v]
  hTemp := h.hTemp.trans hs.hTemp
  vTemp := h.vTemp.trans hs.vTemp

/-- With the same number of levels left in both directions, the next horizontal
level is below the `n` vertical ones. -/
theorem Counts.rowsAbove_eq (hs : s.Counts p m n) (hm : 0 < m) (heq : s.h = s.v) :
    p.rowsAbove m = n := by
  have hh := hs.h
  have hv := hs.v
  rw [BankParams.rowsAbove, if_neg hm.ne']
  omega

/-- Then the next vertical level is below `m` horizontal ones. -/
theorem Counts.columnsAbove_eq (hs : s.Counts p m n) (heq : s.h = s.v) :
    p.columnsAbove n = m := by
  have hh := hs.h
  have hv := hs.v
  unfold BankParams.columnsAbove
  omega

theorem Logged.move (hs : s.Logged p t m n) (h v : ℕ) (hTemp vTemp : ι) :
    { s with h := h, v := v, hTemp := hTemp, vTemp := vTemp }.Logged p t m n :=
  ⟨hs.horizontal, hs.vertical, hs.depths, hs.mem_routed⟩

/-! ## Splitting moves to the next node and leaves the rest alone -/

theorem splitColumn_spec {a b m' n' : ℕ} (hcarries : s.Carries t a b)
    (hlogged : s.Logged p t m n) (hcounts : s.Counts p m' n') :
    ∃ s₁ factor, s.splitColumn = (s₁, factor) ∧ s₁.Carries t (a + 1) b ∧
      factor * t.activeWireAt a b = t.activeWireAt (a + 1) b ∧
      s₁.Logged p t m n ∧ s₁.Counts p m' n' := by
  obtain ⟨hcarries₁, hfactor⟩ := hcarries.splitColumn
  refine ⟨s.splitColumn.1, s.splitColumn.2, rfl, hcarries₁, hfactor, ?_⟩
  unfold RoutingVars.splitColumn
  split
  · exact ⟨⟨hlogged.horizontal, hlogged.vertical, hlogged.depths, hlogged.mem_routed⟩,
      ⟨hcounts.h, hcounts.v, hcounts.hTemp, hcounts.vTemp⟩⟩
  · exact ⟨⟨hlogged.horizontal, hlogged.vertical, hlogged.depths, hlogged.mem_routed⟩,
      ⟨hcounts.h, hcounts.v, hcounts.hTemp, hcounts.vTemp⟩⟩

theorem splitRow_spec {a b m' n' : ℕ} (hcarries : s.Carries t a b)
    (hlogged : s.Logged p t m n) (hcounts : s.Counts p m' n') :
    ∃ s₁ factor, s.splitRow = (s₁, factor) ∧ s₁.Carries t a (b + 1) ∧
      factor * t.activeWireAt a b = t.activeWireAt a (b + 1) ∧
      s₁.Logged p t m n ∧ s₁.Counts p m' n' := by
  obtain ⟨hcarries₁, hfactor⟩ := hcarries.splitRow
  refine ⟨s.splitRow.1, s.splitRow.2, rfl, hcarries₁, hfactor, ?_⟩
  unfold RoutingVars.splitRow
  split
  · exact ⟨⟨hlogged.horizontal, hlogged.vertical, hlogged.depths, hlogged.mem_routed⟩,
      ⟨hcounts.h, hcounts.v, hcounts.hTemp, hcounts.vTemp⟩⟩
  · exact ⟨⟨hlogged.horizontal, hlogged.vertical, hlogged.depths, hlogged.mem_routed⟩,
      ⟨hcounts.h, hcounts.v, hcounts.hTemp, hcounts.vTemp⟩⟩

/-! ## Reading and recording a level -/

theorem Logged.readHorizontal (hs : s.Logged p t m n) {j : ℤ} {i : ℕ} (hj : j = i) (hi : i < m) :
    s.readHorizontal j =
      .ok (((p.horizontalLevelIn t) i).activeWire, ((p.horizontalLevelIn t) i).sumWire) := by
  have hactive := hs.horizontal.activeWire.read hj hi
  have hsum := hs.horizontal.sumWire.read hj hi
  simp only [RoutingVars.readHorizontal, hactive, hsum, access]
  rfl

theorem Logged.readVertical (hs : s.Logged p t m n) {j : ℤ} {i : ℕ} (hj : j = i) (hi : i < n) :
    s.readVertical j =
      .ok (((p.verticalLevelIn t) i).activeWire, ((p.verticalLevelIn t) i).sumWire) := by
  have hactive := hs.vertical.activeWire.read hj hi
  have hsum := hs.vertical.sumWire.read hj hi
  simp only [RoutingVars.readVertical, hactive, hsum, access]
  rfl

/-- Recording the next horizontal level touches its arrays and the order only. -/
theorem Logged.recordHorizontal (hs : s.Logged p t m n) (hcounts : s.h + m = p.levelHorizontal)
    (hpos : 0 < s.h) {wire sumWire activeWire : ι}
    (hlevel : s.level wire sumWire activeWire = (p.horizontalLevelIn t) m)
    (hdepth : p.depthOf (.horizontal, m) = p.firstDepth + (m + n)) :
    ∃ s', s.recordHorizontal p.levelHorizontal wire sumWire activeWire = .ok s' ∧
      s'.Logged p t (m + 1) n ∧ SameVars s s' := by
  have hindex : (p.levelHorizontal : ℤ) - s.h = m := by omega
  have hindex' : p.levelHorizontal - s.h = m := by omega
  obtain ⟨horizontal, hrecord, hholds⟩ := hs.horizontal.record hindex (by omega) hlevel
  refine ⟨{ s with horizontal := horizontal, routed := s.routed ++ [(.horizontal, m)] }, ?_,
    ⟨hholds, hs.vertical, ?_, ?_⟩, ⟨rfl, rfl, rfl, rfl, rfl, rfl, rfl, rfl, rfl⟩⟩
  · simp only [RoutingVars.recordHorizontal, hrecord, access, hindex']
    rfl
  · rw [List.map_append, hs.depths, Nat.add_right_comm, List.range'_1_concat]
    simp [hdepth]
  · intro x
    simp only [List.mem_append, List.mem_singleton, hs.mem_routed, Nat.lt_succ_iff_lt_or_eq,
      or_and_right, exists_or, exists_eq_left]
    exact or_right_comm

/-- The same for the next vertical level. -/
theorem Logged.recordVertical (hs : s.Logged p t m n) (hcounts : s.v + n = p.levelVertical)
    (hpos : 0 < s.v) {wire sumWire activeWire : ι}
    (hlevel : s.level wire sumWire activeWire = (p.verticalLevelIn t) n)
    (hdepth : p.depthOf (.vertical, n) = p.firstDepth + (m + n)) :
    ∃ s', s.recordVertical p.levelVertical wire sumWire activeWire = .ok s' ∧
      s'.Logged p t m (n + 1) ∧ SameVars s s' := by
  have hindex : (p.levelVertical : ℤ) - s.v = n := by omega
  have hindex' : p.levelVertical - s.v = n := by omega
  obtain ⟨vertical, hrecord, hholds⟩ := hs.vertical.record hindex (by omega) hlevel
  refine ⟨{ s with vertical := vertical, routed := s.routed ++ [(.vertical, n)] }, ?_,
    ⟨hs.horizontal, hholds, ?_, ?_⟩, ⟨rfl, rfl, rfl, rfl, rfl, rfl, rfl, rfl, rfl⟩⟩
  · simp only [RoutingVars.recordVertical, hrecord, access, hindex']
    rfl
  · rw [List.map_append, hs.depths, ← Nat.add_assoc, List.range'_1_concat]
    simp [hdepth]
  · intro x
    simp only [List.mem_append, List.mem_singleton, hs.mem_routed, Nat.lt_succ_iff_lt_or_eq,
      or_and_right, exists_or, exists_eq_left]
    exact or_assoc

/-- Without horizontal branchings the level above is the last vertical one, or the root. -/
theorem Counts.readAboveVertical {m' : ℕ} (hcounts : s.Counts p m' n) (hlogged : s.Logged p t m n)
    (hcolumns : ∀ j ≤ n, p.columnsAbove j = 0) :
    s.readAboveVertical p.levelVertical =
      .ok (t.activeWireAt 0 n, TreeLoad.sumWireAt 0 n) := by
  have hv := hcounts.v
  unfold RoutingVars.readAboveVertical
  by_cases hfirst : s.v = p.levelVertical
  · have hn : n = 0 := by omega
    subst hn
    rw [if_pos hfirst]
    simp [TreeLoad.activeWireAt, TreeLoad.splits, TreeLoad.sumWireAt]
  · obtain ⟨j, rfl⟩ : ∃ j, n = j + 1 := ⟨n - 1, by omega⟩
    rw [if_neg hfirst, hlogged.readVertical (i := j) (by omega) (by omega),
      BankParams.verticalLevelIn, hcolumns j (by omega)]
    rfl

/-- With as many levels left in both directions the level above is the last vertical one, or a
horizontal one before the first of these. -/
theorem Counts.readAboveHorizontal {a : ℕ} (hcounts : s.Counts p (a + 1) n)
    (hlogged : s.Logged p t (a + 1) n) (heq : s.h = s.v) :
    s.readAboveHorizontal p.levelHorizontal p.levelVertical =
      .ok (t.activeWireAt a n, TreeLoad.sumWireAt a n) := by
  have hh := hcounts.h
  have hv := hcounts.v
  unfold RoutingVars.readAboveHorizontal
  by_cases hfirst : s.v = p.levelVertical
  · have hrows : p.rowsAbove a = n := by
      unfold BankParams.rowsAbove
      split <;> omega
    rw [if_pos hfirst, hlogged.readHorizontal (i := a) (by omega) (by omega),
      BankParams.horizontalLevelIn, hrows]
    rfl
  · obtain ⟨j, rfl⟩ : ∃ j, n = j + 1 := ⟨n - 1, by omega⟩
    have hcolumns : p.columnsAbove j = a := by
      unfold BankParams.columnsAbove
      omega
    rw [if_neg hfirst, hlogged.readVertical (i := j) (by omega) (by omega),
      BankParams.verticalLevelIn, hcolumns]
    rfl

/-! ## The steps of the walk -/

theorem Routed.stopsBlocked (hs : s.Routed p t m n) (hblocked : s.nothingToRoute = true) :
    StopsBlocked p t .invalid := by
  have hm := hs.counts.h
  have hn := hs.counts.v
  exact ⟨rfl, m - 1, n, by omega, by omega, hs.carries.nothingToRoute_iff.1 hblocked⟩

theorem routed_startRoutingWith (d b : ι) :
    (p.startRoutingWith d b).Routed p (p.treeLoadWith d b) 0 0 where
  carries := {
    rowToActive := by
      simp [BankParams.startRoutingWith, TreeLoad.rowToActiveAt,
        BankParams.treeLoadWith]
    columnToActive := by
      simp [BankParams.startRoutingWith, TreeLoad.columnToActiveAt,
        BankParams.treeLoadWith]
    addressBit := by
      simp [BankParams.startRoutingWith, TreeLoad.addressBitAt,
        TreeLoad.splits, BankParams.treeLoadWith]
    distributeBit := by
      simp [BankParams.startRoutingWith, TreeLoad.distributeBitAt,
        TreeLoad.splits, BankParams.treeLoadWith]
    broadcastBit := rfl }
  logged := {
    horizontal := WireArrays.holdsUpTo_allocate _ _
    vertical := WireArrays.holdsUpTo_allocate _ _
    depths := by simp [BankParams.startRoutingWith]
    mem_routed := by simp [BankParams.startRoutingWith] }
  counts := ⟨rfl, rfl, rfl, rfl⟩

/-- The first step routes the root, when there is a horizontal level at all. -/
theorem yields_routeFirst (hstart : s.Routed p t 0 0) :
    Yields (s.routeFirst p.levelHorizontal)
      (fun s => s.Routed p t (min 1 p.levelHorizontal) 0) (StopsBlocked p t) := by
  have hh : s.h = p.levelHorizontal := hstart.counts.h
  unfold RoutingVars.routeFirst
  by_cases hpos : s.h > 0
  · have hlevels : 0 < p.levelHorizontal := hh ▸ hpos
    rw [if_pos hpos, min_eq_left hlevels]
    by_cases hblocked : s.nothingToRoute = true
    · rw [if_pos hblocked]
      exact hstart.stopsBlocked hblocked
    · rw [if_neg hblocked]
      have hlevel : s.level 1 1 1 = (p.horizontalLevelIn t) 0 := by
        apply hstart.carries.level_eq
        · rfl
        · simp [TreeLoad.activeWireAt, TreeLoad.splits]
      have hdepth : p.depthOf (.horizontal, 0) = p.firstDepth + (0 + 0) :=
        p.depthOf_horizontal hlevels 0
      obtain ⟨s₁, hrecord, hlogged, hsame⟩ :=
        hstart.logged.recordHorizontal hstart.counts.h hpos hlevel hdepth
      have hcounts := hstart.counts.of_sameVars hsame
      rw [hrecord]
      refine ⟨(hstart.carries.of_sameVars hsame).move _ _ _ _, hlogged.move _ _ _ _,
        ⟨?_, hcounts.v, hcounts.hTemp, hcounts.vTemp⟩⟩
      have := hcounts.h
      simp only
      omega
  · have hlevels : p.levelHorizontal = 0 := by omega
    rw [if_neg hpos, hlevels]
    exact hstart

/-- A horizontal surplus level: the walk goes from the node `(m - 1, 0)` to `(m, 0)`. -/
theorem Routed.reduceHToV (hs : s.Routed p t m 0) (hm : 0 < m) (hgt : s.h > s.v) :
    Yields (s.reduceHToV p.levelHorizontal)
      (fun s' => s'.Routed p t (m + 1) 0 ∧ s'.h + 1 = s.h ∧ s'.v = s.v) (StopsBlocked p t) := by
  have hh := hs.counts.h
  have hv := hs.counts.v
  obtain ⟨a, rfl⟩ : ∃ a, m = a + 1 := ⟨m - 1, by omega⟩
  unfold RoutingVars.reduceHToV
  by_cases hblocked : s.nothingToRoute = true
  · rw [if_pos hblocked]
    exact hs.stopsBlocked hblocked
  · rw [if_neg hblocked]
    obtain ⟨s₁, factor, hsplit, hcarries, hfactor, hlogged, hcounts⟩ :=
      splitColumn_spec hs.carries hs.logged hs.counts
    rw [Nat.add_sub_cancel] at hcarries hfactor
    have hh₁ := hcounts.h
    have hv₁ := hcounts.v
    -- the surplus levels are nodes without vertical branchings
    have hrows : ∀ i ≤ a + 1, p.rowsAbove i = 0 := by
      intro i hi
      unfold BankParams.rowsAbove
      split
      · rfl
      · omega
    have hread := hlogged.readHorizontal (j := (p.levelHorizontal : ℤ) - s₁.h - 1) (i := a)
      (by omega) (by omega)
    have hlevel : s₁.level 1 (2 * ((p.horizontalLevelIn t) a).sumWire)
        (factor * ((p.horizontalLevelIn t) a).activeWire) = (p.horizontalLevelIn t) (a + 1) := by
      rw [BankParams.horizontalLevelIn, BankParams.horizontalLevelIn, hrows a (by omega),
        hrows (a + 1) le_rfl]
      exact hcarries.level_eq (TreeLoad.sumWireAt_succ_column a 0).symm hfactor
    have hdepth : p.depthOf (.horizontal, a + 1) = p.firstDepth + (a + 1 + 0) := by
      rw [p.depthOf_horizontal (by omega), hrows (a + 1) le_rfl]
    obtain ⟨s₂, hrecord, hlogged₂, hsame⟩ :=
      hlogged.recordHorizontal hh₁ (by omega) hlevel hdepth
    simp only [hsplit]
    rw [yields_bind_of_eq hread, yields_bind_of_eq hrecord]
    have hcounts₂ := hcounts.of_sameVars hsame
    have hh₂ := hcounts₂.h
    have hv₂ := hcounts₂.v
    refine ⟨⟨(hcarries.of_sameVars hsame).move _ _ _ _, hlogged₂.move _ _ _ _,
      ⟨?_, hv₂, hcounts₂.hTemp, ?_⟩⟩, ?_, ?_⟩
    · simp only
      omega
    · simp only [hcounts₂.vTemp, Nat.add_sub_cancel, doubled_succ]
      exact Std.Commutative.comm _ _
    · simp only
      omega
    · simp only
      omega

/-- A vertical surplus level: the walk goes from the node `(0, n)` to `(0, n + 1)`. -/
theorem Routed.reduceVToH (hs : s.Routed p t m n) (hm : m = min 1 p.levelHorizontal)
    (hgt : s.v > s.h) :
    Yields (s.reduceVToH p.levelVertical)
      (fun s' => s'.Routed p t m (n + 1) ∧ s'.v + 1 = s.v ∧ s'.h = s.h) (StopsBlocked p t) := by
  have hh := hs.counts.h
  have hv := hs.counts.v
  unfold RoutingVars.reduceVToH
  by_cases hblocked : s.nothingToRoute = true
  · rw [if_pos hblocked]
    exact hs.stopsBlocked hblocked
  · rw [if_neg hblocked]
    have hcarries₀ : s.Carries t 0 n := by
      rw [show 0 = m - 1 by omega]
      exact hs.carries
    obtain ⟨s₁, factor, hsplit, hcarries, hfactor, hlogged, hcounts⟩ :=
      splitRow_spec hcarries₀ hs.logged hs.counts
    have hh₁ := hcounts.h
    have hv₁ := hcounts.v
    -- the surplus levels are nodes without horizontal branchings, in one tier
    have hcolumns : ∀ j ≤ n, p.columnsAbove j = 0 := by
      intro j hj
      unfold BankParams.columnsAbove
      omega
    have hwire : (p.verticalWireAt n : ι) = 1 := by
      simp [BankParams.verticalWireAt, hcolumns n le_rfl]
    have hread := hcounts.readAboveVertical hlogged hcolumns
    have hlevel : s₁.level 1 (2 * TreeLoad.sumWireAt 0 n)
        (factor * t.activeWireAt 0 n) = (p.verticalLevelIn t) n := by
      rw [BankParams.verticalLevelIn, hcolumns n le_rfl, hwire]
      exact hcarries.level_eq (TreeLoad.sumWireAt_succ_row 0 n).symm hfactor
    have hdepth : p.depthOf (.vertical, n) = p.firstDepth + (m + n) := by
      rw [BankParams.depthOf, hcolumns n le_rfl, BankParams.firstDepth]
      split <;> omega
    obtain ⟨s₂, hrecord, hlogged₂, hsame⟩ :=
      hlogged.recordVertical hv₁ (by omega) hlevel hdepth
    simp only [hsplit]
    rw [yields_bind_of_eq hread, yields_bind_of_eq hrecord]
    have hcounts₂ := hcounts.of_sameVars hsame
    have hh₂ := hcounts₂.h
    have hv₂ := hcounts₂.v
    have hcarries₂ : s₂.Carries t (m - 1) (n + 1) := by
      rw [show m - 1 = 0 by omega]
      exact hcarries.of_sameVars hsame
    refine ⟨⟨hcarries₂.move _ _ _ _, hlogged₂.move _ _ _ _,
      ⟨hh₂, ?_, ?_, hcounts₂.vTemp⟩⟩, ?_, ?_⟩
    · simp only
      omega
    · simp only [hcounts₂.hTemp, doubled_succ]
      exact Std.Commutative.comm _ _
    · simp only
      omega
    · simp only
      omega

/-- The horizontal half of a common level: from the node `(m - 1, n)` to `(m, n)`. -/
theorem Routed.reduceBothHorizontal (hs : s.Routed p t m n) (hm : 0 < m) (heq : s.h = s.v)
    (hpos : 0 < s.h) :
    Yields (s.reduceBothHorizontal p.levelHorizontal p.levelVertical)
      (fun s' => s'.Carries t m n ∧ s'.Logged p t (m + 1) n ∧ s'.Counts p m n ∧
        s'.h = s.h ∧ s'.v = s.v) (StopsBlocked p t) := by
  have hh := hs.counts.h
  have hv := hs.counts.v
  obtain ⟨a, rfl⟩ : ∃ a, m = a + 1 := ⟨m - 1, by omega⟩
  unfold RoutingVars.reduceBothHorizontal
  by_cases hblocked : s.nothingToRoute = true
  · rw [if_pos hblocked]
    exact hs.stopsBlocked hblocked
  · rw [if_neg hblocked]
    obtain ⟨s₁, factor, hsplit, hcarries, hfactor, hlogged, hcounts⟩ :=
      splitColumn_spec hs.carries hs.logged hs.counts
    rw [Nat.add_sub_cancel] at hcarries hfactor
    have hh₁ := hcounts.h
    have hv₁ := hcounts.v
    have hread := hcounts.readAboveHorizontal hlogged (by omega)
    have hrows : p.rowsAbove (a + 1) = n := hs.counts.rowsAbove_eq hm heq
    have hlevel : s₁.level s₁.hTemp (2 * TreeLoad.sumWireAt a n)
        (factor * t.activeWireAt a n) = (p.horizontalLevelIn t) (a + 1) := by
      rw [BankParams.horizontalLevelIn, hrows, hcounts.hTemp]
      exact hcarries.level_eq (TreeLoad.sumWireAt_succ_column a n).symm hfactor
    have hdepth : p.depthOf (.horizontal, a + 1) = p.firstDepth + (a + 1 + n) := by
      rw [p.depthOf_horizontal (by omega), hrows]
    obtain ⟨s₂, hrecord, hlogged₂, hsame⟩ :=
      hlogged.recordHorizontal hh₁ (by omega) hlevel hdepth
    simp only [hsplit]
    rw [yields_bind_of_eq hread]
    simp only [hrecord]
    have hcounts₂ := hcounts.of_sameVars hsame
    have hh₂ := hcounts₂.h
    have hv₂ := hcounts₂.v
    exact ⟨hcarries.of_sameVars hsame, hlogged₂, hcounts₂, by omega, by omega⟩

/-- The vertical half of a common level: from the node `(m, n)` to `(m, n + 1)`. -/
theorem reduceBothVertical_spec (hcarries₀ : s.Carries t m n)
    (hlogged₀ : s.Logged p t (m + 1) n) (hcounts₀ : s.Counts p m n) (hm : 0 < m)
    (heq : s.h = s.v) (hpos : 0 < s.h) :
    Yields (s.reduceBothVertical p.levelHorizontal p.levelVertical)
      (fun s' => s'.Routed p t (m + 1) (n + 1) ∧ s'.h + 1 = s.h ∧ s'.v + 1 = s.v)
      (StopsBlocked p t) := by
  have hh := hcounts₀.h
  have hv := hcounts₀.v
  unfold RoutingVars.reduceBothVertical
  by_cases hblocked : s.nothingToRoute = true
  · rw [if_pos hblocked]
    exact ⟨rfl, m, n, by omega, by omega, hcarries₀.nothingToRoute_iff.1 hblocked⟩
  · rw [if_neg hblocked]
    obtain ⟨s₁, factor, hsplit, hcarries, hfactor, hlogged, hcounts⟩ :=
      splitRow_spec hcarries₀ hlogged₀ hcounts₀
    have hh₁ := hcounts.h
    have hv₁ := hcounts.v
    have hrows : p.rowsAbove m = n := hcounts₀.rowsAbove_eq hm heq
    have hcolumns : p.columnsAbove n = m := hcounts₀.columnsAbove_eq heq
    have hread := hlogged.readHorizontal (j := (p.levelHorizontal : ℤ) - s₁.h) (i := m)
      (by omega) (by omega)
    have hwire : (if p.levelHorizontal = 2 then s₁.vTemp else 2 * s₁.vTemp) =
        p.verticalWireAt n := by
      rw [BankParams.verticalWireAt, hcolumns, hcounts.vTemp, ← doubled_succ,
        Nat.sub_add_cancel hm]
-- what is recorded is the closed form of the level
    have hlevel : s₁.level (if p.levelHorizontal = 2 then s₁.vTemp else 2 * s₁.vTemp)
        (2 * ((p.horizontalLevelIn t) m).sumWire)
        (factor * ((p.horizontalLevelIn t) m).activeWire) =
          (p.verticalLevelIn t) n := by
      rw [hwire, BankParams.verticalLevelIn, BankParams.horizontalLevelIn, hcolumns, hrows]
      exact hcarries.level_eq (TreeLoad.sumWireAt_succ_row m n).symm hfactor
    have hdepth : p.depthOf (.vertical, n) = p.firstDepth + (m + 1 + n) := by
      rw [BankParams.depthOf, hcolumns, BankParams.firstDepth, if_neg (by omega)]
      omega
    obtain ⟨s₂, hrecord, hlogged₂, hsame⟩ :=
      hlogged.recordVertical hv₁ (by omega) hlevel hdepth
    simp only [hsplit]
    rw [yields_bind_of_eq hread, yields_bind_of_eq hrecord]
    have hcounts₂ := hcounts.of_sameVars hsame
    have hh₂ := hcounts₂.h
    have hv₂ := hcounts₂.v
    refine ⟨⟨(hcarries.of_sameVars hsame).move _ _ _ _, hlogged₂.move _ _ _ _,
      ⟨?_, ?_, ?_, ?_⟩⟩, ?_, ?_⟩
    · simp only
      omega
    · simp only
      omega
    · simp only [hcounts₂.hTemp, doubled_succ]
      exact Std.Commutative.comm _ _
    · simp only [hcounts₂.vTemp]
      have hcomm : (doubled (m - 1) : ι) * 2 = 2 * doubled (m - 1) := Std.Commutative.comm _ _
      rw [hcomm, ← doubled_succ, Nat.sub_add_cancel hm, Nat.add_sub_cancel]
    · simp only
      omega
    · simp only
      omega

/-! ## The loops -/

/-- After `while (h > v)` no horizontal surplus is left. -/
theorem Routed.yields_whileHToV (hs : s.Routed p t (min 1 p.levelHorizontal) 0) :
    Yields (whileM (fun s => s.h > s.v) (RoutingVars.reduceHToV p.levelHorizontal) s.h s)
      (fun s => ∃ m n, s.Routed p t m n ∧ min 1 p.levelHorizontal ≤ m ∧ s.h ≤ s.v ∧
        (m = min 1 p.levelHorizontal ∨ s.h = s.v)) (StopsBlocked p t) := by
  let I : RoutingVars ι → Prop := fun s => ∃ m, s.Routed p t m 0 ∧ min 1 p.levelHorizontal ≤ m ∧
    (m = min 1 p.levelHorizontal ∨ s.v ≤ s.h)
  have hI : I s := ⟨_, hs, le_rfl, .inl rfl⟩
  refine (yields_whileM (I := I) (μ := fun s => s.h) ?_ ?_ le_rfl hI).mono ?_ (fun _ h => h)
  · intro s' _ hcond
    have hgt : s'.h > s'.v := by simpa using hcond
    omega
  · rintro s' ⟨m, hs', hm, -⟩ hcond
    have hgt : s'.h > s'.v := by simpa using hcond
    have hh := hs'.counts.h
    refine (hs'.reduceHToV (by omega) hgt).mono ?_ (fun _ h => h)
    rintro s'' ⟨hs'', hh'', hv''⟩
    exact ⟨⟨m + 1, hs'', by omega, .inr (by omega)⟩, by omega⟩
  · rintro s' ⟨⟨m, hs', hm, hsurplus⟩, hexit⟩
    have hle : s'.h ≤ s'.v := by simpa using hexit
    exact ⟨m, 0, hs', hm, hle, hsurplus.imp_right hle.antisymm⟩

/-- After `while (v > h)` both directions have the same number of levels left. -/
theorem Routed.yields_whileVToH (hs : s.Routed p t m n) (hm : min 1 p.levelHorizontal ≤ m)
    (hle : s.h ≤ s.v) (hsurplus : m = min 1 p.levelHorizontal ∨ s.h = s.v) :
    Yields (whileM (fun s => s.v > s.h) (RoutingVars.reduceVToH p.levelVertical) s.v s)
      (fun s => ∃ m n, s.Routed p t m n ∧ min 1 p.levelHorizontal ≤ m ∧ s.h = s.v)
      (StopsBlocked p t) := by
  let I : RoutingVars ι → Prop := fun s => ∃ m n, s.Routed p t m n ∧ min 1 p.levelHorizontal ≤ m ∧
    s.h ≤ s.v ∧ (m = min 1 p.levelHorizontal ∨ s.h = s.v)
  have hI : I s := ⟨m, n, hs, hm, hle, hsurplus⟩
  refine (yields_whileM (I := I) (μ := fun s => s.v) ?_ ?_ le_rfl hI).mono ?_ (fun _ h => h)
  · intro s' _ hcond
    have hgt : s'.v > s'.h := by simpa using hcond
    omega
  · rintro s' ⟨m, n, hs', hm, -, hsurplus⟩ hcond
    have hgt : s'.v > s'.h := by simpa using hcond
    have hfirst : m = min 1 p.levelHorizontal := hsurplus.resolve_right (by omega)
    refine (hs'.reduceVToH hfirst hgt).mono ?_ (fun _ h => h)
    rintro s'' ⟨hs'', hv'', hh''⟩
    exact ⟨⟨m, n + 1, hs'', hm, by omega, .inl hfirst⟩, by omega⟩
  · rintro s' ⟨⟨m, n, hs', hm, hle, -⟩, hexit⟩
    have hge : s'.v ≤ s'.h := by simpa using hexit
    exact ⟨m, n, hs', hm, hle.antisymm hge⟩

/-- One iteration of `while (h > 0)` routes one level in both directions. -/
theorem Routed.reduceBoth (hs : s.Routed p t m n) (hm : 0 < m) (heq : s.h = s.v)
    (hpos : 0 < s.h) :
    Yields (s.reduceBoth p.levelHorizontal p.levelVertical)
      (fun s' => s'.Routed p t (m + 1) (n + 1) ∧ s'.h + 1 = s.h ∧ s'.v + 1 = s.v)
      (StopsBlocked p t) := by
  apply (hs.reduceBothHorizontal hm heq hpos).bind
  rintro s₁ ⟨hcarries, hlogged, hcounts, hh, hv⟩
  rw [← hh, ← hv]
  exact reduceBothVertical_spec hcarries hlogged hcounts hm (by omega) (by omega)

/-- After `while (h > 0)` every level has been routed. -/
theorem Routed.yields_whileBoth (hs : s.Routed p t m n) (hm : min 1 p.levelHorizontal ≤ m)
    (heq : s.h = s.v) :
    Yields (whileM (fun s => s.h > 0)
        (RoutingVars.reduceBoth p.levelHorizontal p.levelVertical) s.h s)
      (fun s => s.Routed p t p.levelHorizontal p.levelVertical) (StopsBlocked p t) := by
  let I : RoutingVars ι → Prop := fun s => ∃ m n, s.Routed p t m n ∧ min 1 p.levelHorizontal ≤ m ∧
    s.h = s.v
  have hI : I s := ⟨m, n, hs, hm, heq⟩
  refine (yields_whileM (I := I) (μ := fun s => s.h) ?_ ?_ le_rfl hI).mono ?_ (fun _ h => h)
  · intro s' _ hcond
    simpa using hcond
  · rintro s' ⟨m, n, hs', hm, heq⟩ hcond
    have hpos : 0 < s'.h := by simpa using hcond
    have hh := hs'.counts.h
    refine (hs'.reduceBoth (by omega) heq hpos).mono ?_ (fun _ h => h)
    rintro s'' ⟨hs'', hh'', hv''⟩
    exact ⟨⟨m + 1, n + 1, hs'', by omega, by omega⟩, by omega⟩
  · rintro s' ⟨⟨m, n, hs', -, heq⟩, hexit⟩
    have hdone : s'.h = 0 := by simpa using hexit
    have hh := hs'.counts.h
    have hv := hs'.counts.v
    rwa [← show m = p.levelHorizontal by omega, ← show n = p.levelVertical by omega]

/-- The walk is over: all levels are recorded, the last node was not blocked, and
the variables carry what reaches one mat. -/
structure Arrived (p : BankParams) (t : TreeLoad ι) (s : RoutingVars ι) : Prop where
  carries : s.Carries t p.levelHorizontal p.levelVertical
  logged : s.Logged p t p.levelHorizontal p.levelVertical
  not_blocked : ¬ t.Blocked (p.levelHorizontal - 1) p.levelVertical

/-- The last step.  Without horizontal levels it does nothing, unless several
columns were active. -/
theorem Routed.lastColumnStep (hs : s.Routed p t p.levelHorizontal p.levelVertical)
    (hlast : p.levelHorizontal = 0 → t.columnToActive ≤ 1) :
    Yields (s.lastColumnStep p.levelHorizontal) (Arrived p t) (StopsBlocked p t) := by
  unfold RoutingVars.lastColumnStep
  by_cases hblocked : s.nothingToRoute = true
  · rw [if_pos hblocked]
    exact hs.stopsBlocked hblocked
  · rw [if_neg hblocked]
    have hnode := mt hs.carries.nothingToRoute_iff.2 hblocked
    by_cases hlevels : p.levelHorizontal = 0
    · have hcolumn : ¬ s.columnToActive > 1 := by
-- without horizontal levels there is one column, which nothing splits
        have := hlast hlevels
        rw [hs.carries.columnToActive, hlevels]
        simp only [TreeLoad.columnToActiveAt, Nat.zero_sub, Nat.zero_min, pow_zero, Nat.div_one]
        omega
      have hcarries := hs.carries
      rw [if_neg hcolumn, if_neg (by omega)]
      rw [show p.levelHorizontal - 1 = p.levelHorizontal by omega] at hcarries
      exact ⟨hcarries, hs.logged, hnode⟩
    · have hsplit := hs.carries.splitColumn.1
      rw [Nat.sub_add_cancel (by omega : 1 ≤ p.levelHorizontal)] at hsplit
      unfold RoutingVars.splitColumn at hsplit
      by_cases hcolumn : s.columnToActive > 1
      · rw [if_pos hcolumn] at hsplit ⊢
        exact ⟨hsplit, ⟨hs.logged.horizontal, hs.logged.vertical, hs.logged.depths,
          hs.logged.mem_routed⟩, hnode⟩
      · rw [if_neg hcolumn] at hsplit
        rw [if_neg hcolumn, if_pos (by omega)]
        exact ⟨hsplit, ⟨hs.logged.horizontal, hs.logged.vertical, hs.logged.depths,
          hs.logged.mem_routed⟩, hnode⟩

end Steps

end RoutingVars

namespace BankParams

/-- The routing of a bank either arrives at a mat with the closed form of the
tree, or stops at a blocked node; an illegal array access is impossible. -/
theorem yields_routeWith [Add ι] [Mul ι] [Div ι] [OfNat ι 0] [OfNat ι 1] [OfNat ι 2]
    [DecidableEq ι] [Std.Commutative (α := ι) (· * ·)]
    [Std.LawfulLeftIdentity (α := ι) (· * ·) 1] (p : BankParams) (d b : ι)
    (hlast : p.levelHorizontal = 0 → p.numActiveMatPerRow ≤ 1) :
    Yields (p.routeWith d b) (RoutingVars.Arrived p (p.treeLoadWith d b))
      (RoutingVars.StopsBlocked p (p.treeLoadWith d b)) := by
  apply (RoutingVars.yields_routeFirst (RoutingVars.routed_startRoutingWith d b)).bind
  intro s₁ hs₁
  apply hs₁.yields_whileHToV.bind
  rintro s₂ ⟨m₂, n₂, hs₂, hm₂, hle₂, hsurplus₂⟩
  apply (hs₂.yields_whileVToH hm₂ hle₂ hsurplus₂).bind
  rintro s₃ ⟨m₃, n₃, hs₃, hm₃, heq₃⟩
  apply (hs₃.yields_whileBoth hm₃ heq₃).bind
  intro s₄ hs₄
  exact hs₄.lastColumnStep hlast

theorem yields_route (p : BankParams)
    (hlast : p.levelHorizontal = 0 → p.numActiveMatPerRow ≤ 1) :
    Yields p.route (RoutingVars.Arrived p p.treeLoad) (RoutingVars.StopsBlocked p p.treeLoad) :=
  p.yields_routeWith _ _ hlast

theorem levelHorizontal_eq_zero {p : BankParams} (h : p.levelHorizontal = 0) :
    p.numColumnMat ≤ 1 := by
  by_contra hgt
  have hle : 2 ^ 10 ≤ 2 * p.numColumnMat ^ 10 := by
    have := Nat.pow_le_pow_left (by omega : 2 ≤ p.numColumnMat) 10
    omega
  have hlog := Nat.log_mono_right (b := 2) hle
  rw [Nat.log_pow (by norm_num)] at hlog
  unfold levelHorizontal log2Rounded at h
  omega

/-- After clamping, a bank with one column of mats has at most one active column. -/
theorem numActiveMatPerRow_clampActive_le_one (args : BankParams)
    (h : args.clampActive.levelHorizontal = 0) : args.clampActive.numActiveMatPerRow ≤ 1 := by
  have hone : args.numColumnMat ≤ 1 := levelHorizontal_eq_zero h
  unfold clampActive
  simp only
  split <;> omega

end BankParams

/-! ## The outcomes of `Initialize` -/

/-- The end of `Initialize`, once the routing has arrived at a mat. -/
def BankWithHtree.arrived (el : Electrical) (args : BankParams) (s : RoutingVars)
    (q : BankParams) (matParams : MatParams) : BankWithHtree :=
  if (initializeMat el matParams).invalid then
    .rejected { toBankParams := q, initialized := true, invalid := true,
                mat := initializeMat el matParams }
  else
    { toBankParams := args.restoreMux q
      initialized := true
      invalid := false
      mat := initializeMat el matParams
      horizontal := s.horizontal
      vertical := s.vertical
      routed := s.routed }

/-- Every call of `Initialize` returns, in one of four ways. -/
theorem initializeBankWithHtree_cases (el : Electrical) (memCellType : MemCellType)
    (args : BankParams) :
    ∃ b, initializeBankWithHtree el memCellType args = some b ∧
      (args.internalSenseAmp = false ∧ b = .rejected (.unsupported args) ∨
        args.internalSenseAmp = true ∧
          (RoutingVars.StopsBlocked args.clampActive args.clampActive.treeLoad .invalid ∧
              b = .rejected (.rejected args.clampActive) ∨
            ∃ s, RoutingVars.Arrived args.clampActive args.clampActive.treeLoad s ∧
              (args.clampActive.matParamsWithHtree memCellType s = none ∧
                  b = .rejected (.rejected args.clampActive) ∨
                ∃ q matParams,
                  args.clampActive.matParamsWithHtree memCellType s = some (q, matParams) ∧
                    b = .arrived el args s q matParams))) := by
  unfold initializeBankWithHtree
  by_cases hsense : args.internalSenseAmp = false
  · rw [if_pos hsense]
    exact ⟨_, rfl, .inl ⟨hsense, rfl⟩⟩
  · rw [if_neg hsense]
    have hroute := args.clampActive.yields_route args.numActiveMatPerRow_clampActive_le_one
    have hsense' : args.internalSenseAmp = true := by simpa using hsense
    cases hr : args.clampActive.route with
    | error e =>
        rw [hr, yields_error] at hroute
        obtain ⟨rfl, hblocked⟩ := hroute
        exact ⟨.rejected (.rejected args.clampActive), by simp only [hr],
          .inr ⟨hsense', .inl ⟨⟨rfl, hblocked⟩, rfl⟩⟩⟩
    | ok s =>
        rw [hr, yields_ok] at hroute
        cases hmat : args.clampActive.matParamsWithHtree memCellType s with
        | none =>
            exact ⟨.rejected (.rejected args.clampActive), by simp only [hr, hmat],
              .inr ⟨hsense', .inr ⟨s, hroute, .inl ⟨hmat, rfl⟩⟩⟩⟩
        | some r =>
            obtain ⟨q, matParams⟩ := r
            refine ⟨.arrived el args s q matParams, ?_,
              .inr ⟨hsense', .inr ⟨s, hroute, .inr ⟨q, matParams, hmat, rfl⟩⟩⟩⟩
            simp only [hr, hmat, BankWithHtree.arrived]
            split <;> rfl

theorem initializeBank_isSome (el : Electrical) (memCellType : MemCellType)
    (globalWireRepeaterType : WireRepeaterType) (routingMode : RoutingMode) (args : BankParams) :
    (initializeBank el memCellType globalWireRepeaterType routingMode args).isSome := by
  cases routingMode with
  | nonHTree => rfl
  | hTree =>
      obtain ⟨b, hb, -⟩ := initializeBankWithHtree_cases el memCellType args
      unfold initializeBank
      rw [hb]
      rfl

/-- A valid bank has arrived at a legal mat. -/
theorem initializeBankWithHtree_valid {el : Electrical} {memCellType : MemCellType}
    {args : BankParams} {b : BankWithHtree}
    (h : initializeBankWithHtree el memCellType args = some b) (hvalid : b.invalid = false) :
    ∃ s q matParams, RoutingVars.Arrived args.clampActive args.clampActive.treeLoad s ∧
      args.clampActive.matParamsWithHtree memCellType s = some (q, matParams) ∧
      matParams.clampActive.Legal el ∧
      b = { toBankParams := args.restoreMux q
            initialized := true
            invalid := false
            mat := initializeMat el matParams
            horizontal := s.horizontal
            vertical := s.vertical
            routed := s.routed } := by
  obtain ⟨b', hb', hcases⟩ := initializeBankWithHtree_cases el memCellType args
  rw [h] at hb'
  obtain rfl := Option.some.inj hb'
  obtain ⟨-, rfl⟩ | ⟨-, ⟨-, rfl⟩ | ⟨s, hs, ⟨-, rfl⟩ | ⟨q, matParams, hmat, rfl⟩⟩⟩ := hcases
  · cases hvalid
  · cases hvalid
  · cases hvalid
  · unfold BankWithHtree.arrived at hvalid ⊢
    by_cases hinvalid : (initializeMat el matParams).invalid = true
    · rw [if_pos hinvalid] at hvalid
      cases hvalid
    · rw [if_neg hinvalid]
      exact ⟨s, q, matParams, hs, hmat,
        initializeMat_invalid_iff.1 (Bool.eq_false_iff.2 hinvalid), rfl⟩

end NVSim
