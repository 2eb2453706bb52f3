import NVSim.Model.BankWithHtree

/-!
# The H-tree in closed form

A node of the tree lies below `a` horizontal and `b` vertical branchings.  Every
branching either splits the data bits over two subtrees that are both active,
which happens as often as the active counts can be halved, or selects one of the
two subtrees with an address bit.  So what a node carries is a function of `a`
and `b` alone, whatever the order of the branchings:

* `splits a b` of them split data, the other `a + b - splits a b` select;
* the wire groups are doubled `a + b` times, the active ones `splits a b` times.

The data bits and the wire groups are of the type of the routing, in which they are halved
and doubled; for naturals these are divisions by and powers of two.  The loops of
`BankWithHtree::Initialize` are compared with this description in `NVSim.Htree.Routing`.
-/

namespace NVSim

open Library

variable {ι : Type}

/-! ## Doubling and halving -/

section Doubling

variable [Mul ι] [OfNat ι 1] [OfNat ι 2]

/-- One, doubled `n` times. -/
def doubled (n : ℕ) : ι := (2 * ·)^[n] 1

@[simp] theorem doubled_zero : (doubled 0 : ι) = 1 := rfl

theorem doubled_succ (n : ℕ) : (doubled (n + 1) : ι) = 2 * doubled n :=
  Function.iterate_succ_apply' _ _ _

end Doubling

section Halving

variable [Div ι] [OfNat ι 2]

/-- `x`, halved `n` times. -/
def halved (n : ℕ) (x : ι) : ι := (· / 2)^[n] x

@[simp] theorem halved_zero (x : ι) : halved 0 x = x := rfl

theorem halved_succ (n : ℕ) (x : ι) : halved (n + 1) x = halved n x / 2 :=
  Function.iterate_succ_apply' _ _ _

end Halving

/-- Naturals are doubled to powers of two. -/
@[simp] theorem doubled_nat (n : ℕ) : doubled n = 2 ^ n := by
  induction n with
  | zero => rfl
  | succ n ih => rw [doubled_succ, ih, pow_succ']

@[simp] theorem halved_nat (n x : ℕ) : halved n x = x / 2 ^ n := by
  induction n with
  | zero => rw [halved_zero, pow_zero, Nat.div_one]
  | succ n ih => rw [halved_succ, ih, pow_succ, Nat.div_div_eq_div_mul]

/-- What enters the root of the tree. -/
structure TreeLoad (ι : Type := ℕ) where
  addressBit : ℤ
  distributeBit : ι
  broadcastBit : ι
  columnToActive : ℕ
  rowToActive : ℕ

namespace TreeLoad

section Nodes

variable (t : TreeLoad ι)

/-- How often a count of active mats can be halved before it is one. -/
def halvings (active : ℕ) : ℕ := Nat.log 2 active

/-- The branchings above the node that split the data bits. -/
def splits (a b : ℕ) : ℕ := min a (halvings t.columnToActive) + min b (halvings t.rowToActive)

def addressBitAt (a b : ℕ) : ℤ := t.addressBit - (a + b - t.splits a b : ℕ)

def columnToActiveAt (a : ℕ) : ℕ := t.columnToActive / 2 ^ min a (halvings t.columnToActive)

def rowToActiveAt (b : ℕ) : ℕ := t.rowToActive / 2 ^ min b (halvings t.rowToActive)

theorem splits_le (a b : ℕ) : t.splits a b ≤ a + b := by
  unfold splits
  omega

theorem splits_mono {a a' b b' : ℕ} (ha : a ≤ a') (hb : b ≤ b') :
    t.splits a b ≤ t.splits a' b' := by
  unfold splits
  omega

theorem addressBitAt_antitone {a a' b b' : ℕ} (ha : a ≤ a') (hb : b ≤ b') :
    t.addressBitAt a' b' ≤ t.addressBitAt a b := by
  unfold addressBitAt splits
  omega

/-- Halving stops exactly when the count has become one. -/
theorem one_lt_div_iff (active a : ℕ) :
    1 < active / 2 ^ min a (halvings active) ↔ a < halvings active := by
  constructor
  · intro h
    by_contra hle
    rw [min_eq_right (by omega)] at h
    have hlt : active < 2 ^ halvings active * 2 := by
      rw [← pow_succ]
      exact Nat.lt_pow_succ_log_self (by norm_num) active
    have hquot : active / 2 ^ halvings active < 2 := Nat.div_lt_of_lt_mul hlt
    omega
  · intro h
    rw [min_eq_left h.le]
    have hactive : active ≠ 0 := by
      rintro rfl
      simp [halvings] at h
    have hpow : 2 ^ (a + 1) ≤ active :=
      (Nat.pow_le_pow_right (by norm_num) h).trans (Nat.pow_log_le_self 2 hactive)
    rw [pow_succ, mul_comm] at hpow
    exact (Nat.le_div_iff_mul_le (by positivity)).2 hpow

theorem one_lt_columnToActiveAt (a : ℕ) :
    1 < t.columnToActiveAt a ↔ a < halvings t.columnToActive :=
  one_lt_div_iff t.columnToActive a

theorem one_lt_rowToActiveAt (b : ℕ) : 1 < t.rowToActiveAt b ↔ b < halvings t.rowToActive :=
  one_lt_div_iff t.rowToActive b

/-! ## One branching -/

section Branching

variable {t} {a b : ℕ}

theorem splits_succ_column (h : 1 < t.columnToActiveAt a) :
    t.splits (a + 1) b = t.splits a b + 1 := by
  have := (t.one_lt_columnToActiveAt a).1 h
  unfold splits
  omega

theorem splits_succ_column_of_not (h : ¬ 1 < t.columnToActiveAt a) :
    t.splits (a + 1) b = t.splits a b := by
  rw [one_lt_columnToActiveAt] at h
  unfold splits
  omega

theorem splits_succ_row (h : 1 < t.rowToActiveAt b) :
    t.splits a (b + 1) = t.splits a b + 1 := by
  have := (t.one_lt_rowToActiveAt b).1 h
  unfold splits
  omega

theorem splits_succ_row_of_not (h : ¬ 1 < t.rowToActiveAt b) :
    t.splits a (b + 1) = t.splits a b := by
  rw [one_lt_rowToActiveAt] at h
  unfold splits
  omega

theorem columnToActiveAt_succ (h : 1 < t.columnToActiveAt a) :
    t.columnToActiveAt (a + 1) = t.columnToActiveAt a / 2 := by
  have hlt := (t.one_lt_columnToActiveAt a).1 h
  unfold columnToActiveAt
  rw [min_eq_left hlt, min_eq_left hlt.le, pow_succ, Nat.div_div_eq_div_mul]

theorem columnToActiveAt_succ_of_not (h : ¬ 1 < t.columnToActiveAt a) :
    t.columnToActiveAt (a + 1) = t.columnToActiveAt a := by
  rw [one_lt_columnToActiveAt] at h
  unfold columnToActiveAt
  rw [min_eq_right (by omega), min_eq_right (by omega)]

theorem rowToActiveAt_succ (h : 1 < t.rowToActiveAt b) :
    t.rowToActiveAt (b + 1) = t.rowToActiveAt b / 2 := by
  have hlt := (t.one_lt_rowToActiveAt b).1 h
  unfold rowToActiveAt
  rw [min_eq_left hlt, min_eq_left hlt.le, pow_succ, Nat.div_div_eq_div_mul]

theorem rowToActiveAt_succ_of_not (h : ¬ 1 < t.rowToActiveAt b) :
    t.rowToActiveAt (b + 1) = t.rowToActiveAt b := by
  rw [one_lt_rowToActiveAt] at h
  unfold rowToActiveAt
  rw [min_eq_right (by omega), min_eq_right (by omega)]

end Branching

end Nodes

/-! ## What a node carries -/

section Wires

variable [Mul ι] [OfNat ι 1] [OfNat ι 2]

def activeWireAt (t : TreeLoad ι) (a b : ℕ) : ι := doubled (t.splits a b)

/-- All wire groups of a level, active or not. -/
def sumWireAt (a b : ℕ) : ι := doubled (a + b)

theorem sumWireAt_succ_column (a b : ℕ) : (sumWireAt (a + 1) b : ι) = 2 * sumWireAt a b := by
  rw [sumWireAt, sumWireAt, Nat.add_right_comm, doubled_succ]

theorem sumWireAt_succ_row (a b : ℕ) : (sumWireAt a (b + 1) : ι) = 2 * sumWireAt a b := by
  rw [sumWireAt, sumWireAt, ← Nat.add_assoc, doubled_succ]

end Wires

section Carried

variable [Add ι] [Mul ι] [Div ι] [OfNat ι 0] [OfNat ι 1] [OfNat ι 2] (t : TreeLoad ι)

def distributeBitAt (a b : ℕ) : ι := halved (t.splits a b) t.distributeBit

/-- No data bit or no address bit is left: the node cannot be routed further. -/
def Blocked (a b : ℕ) : Prop :=
  t.distributeBitAt a b + t.broadcastBit = 0 ∨ t.addressBitAt a b = 0

/-- The level recorded for a node, with a given number of tiers. -/
def levelAt (a b : ℕ) (wire : ι) : WireLevel ι where
  addressBit := t.addressBitAt a b
  dataDistributeBit := t.distributeBitAt a b
  dataBroadcastBit := t.broadcastBit
  wire := wire
  sumWire := sumWireAt a b
  activeWire := t.activeWireAt a b

end Carried

/-! ## The two conservation laws of a level -/

variable (t : TreeLoad)

/-- The active wire groups together carry all distributed data bits, when these
can be split evenly. -/
theorem activeWireAt_mul_distributeBitAt {a b : ℕ}
    (h : 2 ^ (halvings t.columnToActive + halvings t.rowToActive) ∣ t.distributeBit) :
    t.activeWireAt a b * t.distributeBitAt a b = t.distributeBit := by
  rw [activeWireAt, distributeBitAt, doubled_nat, halved_nat]
  refine Nat.mul_div_cancel' ((pow_dvd_pow 2 ?_).trans h)
  unfold splits
  omega

theorem distributeBitAt_antitone {a a' b b' : ℕ} (ha : a ≤ a') (hb : b ≤ b') :
    t.distributeBitAt a' b' ≤ t.distributeBitAt a b := by
  rw [distributeBitAt, distributeBitAt, halved_nat, halved_nat]
  exact Nat.div_le_div_left (Nat.pow_le_pow_right (by norm_num) (t.splits_mono ha hb))
    (by positivity)

end TreeLoad

/-- What a bank sends into its tree, for its data bits in the type of the routing. -/
def BankParams.treeLoadWith (p : BankParams) (numDataDistributeBit numDataBroadcastBit : ι) :
    TreeLoad ι where
  addressBit := p.numAddressBit
  distributeBit := numDataDistributeBit
  broadcastBit := numDataBroadcastBit
  columnToActive := p.numActiveMatPerRow
  rowToActive := p.numActiveMatPerColumn

def BankParams.treeLoad (p : BankParams) : TreeLoad :=
  p.treeLoadWith p.numDataDistributeBit p.numDataBroadcastBit

end NVSim
