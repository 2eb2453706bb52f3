import Mathlib.Data.Rat.Floor
import Mathlib.Algebra.Order.Floor.Semiring
import Mathlib.Tactic.Positivity
import Mathlib.Tactic.Ring
import NVSim.Model.WireLengths

/-!
# The lengths of the H-tree wires

Both arrays are filled from their ends, so one invariant serves all three loops: the entries
above the counters are assigned.  The first loop brings the counters together, the second one
runs until there is no vertical level left, and the third one finishes the horizontal ones.

A wire is at least as long as the mats it spans, and the detours around the wires across it
vanish with the pitch.
-/

namespace NVSim

open Library

variable {K : Type} [Field K] [LinearOrder K] [IsStrictOrderedRing K] [FloorRing K]

/-- On every level there are bits to route. -/
theorem BitsToRoute.exists_total {level : ℕ} (b : BitsToRoute level) {i : ℤ} (hi : 0 ≤ i)
    (hlevel : i < level) : ∃ bits, b.total i = some bits := by
  have hnat : i = i.toNat := (Int.toNat_of_nonneg hi).symm
  have hlt : i.toNat < level := by omega
  simp only [BitsToRoute.total, CheckedArray.read_eq hnat hlt]
  exact ⟨_, rfl⟩

namespace HtreeWires

variable (w : HtreeWires K)

/-- A wire on level `i` is as long as the mats it spans, except for detours, and there are
none without a pitch. -/
def Spans (mat : K) (level i : ℕ) (length : K) : Prop :=
  mat * 2 ^ (level - 1 - i) ≤ length ∧
    (w.effectivePitch = 0 → length = mat * 2 ^ (level - 1 - i))

variable {w} {mat : K} {level i : ℕ} {length : K}

omit [IsStrictOrderedRing K] [FloorRing K] in
theorem spans_innermost (hi : i + 1 = level) : w.Spans mat level i mat := by
  have hzero : level - 1 - i = 0 := by omega
  simp [Spans, hzero]

theorem Spans.outer (h : w.Spans mat level (i + 1) length) (hi : i + 1 < level) :
    w.Spans mat level i (length * 2) := by
  have hpow : mat * 2 ^ (level - 1 - i) = mat * 2 ^ (level - 1 - (i + 1)) * 2 := by
    rw [show level - 1 - i = level - 1 - (i + 1) + 1 by omega, pow_succ, mul_assoc]
  rw [Spans, hpow]
  refine ⟨mul_le_mul_of_nonneg_right h.1 zero_le_two, fun hpitch => ?_⟩
  rw [h.2 hpitch]

theorem detour_nonneg (hpitch : 0 ≤ w.effectivePitch) (bits : ℕ) : 0 ≤ w.detour bits := by
  have hceil : (0 : K) ≤ (⌈(bits : K) / w.numWireSharingWidth⌉ : K) := by
    have hquotient : (0 : K) ≤ (bits : K) / w.numWireSharingWidth := by positivity
    exact_mod_cast Int.ceil_nonneg hquotient
  exact div_nonneg (mul_nonneg hceil hpitch) zero_le_two

theorem Spans.add_detour (h : w.Spans mat level i length) (hpitch : 0 ≤ w.effectivePitch)
    (bits : ℕ) : w.Spans mat level i (length + w.detour bits) := by
  refine ⟨h.1.trans (le_add_of_nonneg_right (detour_nonneg hpitch bits)), fun hzero => ?_⟩
  rw [h.2 hzero, detour, hzero, mul_zero, zero_div, add_zero]

/-! ## The invariant of the loops -/

variable (w) in
/-- The wires above the counters are assigned. -/
structure Assigned (s : WireLengths K) : Prop where
  neg_one_le_h : -1 ≤ s.h
  h_lt : s.h < w.levelHorizontal
  neg_one_le_v : -1 ≤ s.v
  v_lt : s.v < w.levelVertical
  horizontal : s.lengthHorizontalWire.AssignedFrom w.levelHorizontal (s.h + 1).toNat
    (w.Spans w.matWidth w.levelHorizontal)
  vertical : s.lengthVerticalWire.AssignedFrom w.levelVertical (s.v + 1).toNat
    (w.Spans (w.matHeight / 2) w.levelVertical)

variable {s : WireLengths K}

omit [IsStrictOrderedRing K] [FloorRing K] in
variable (w) in
theorem assigned_start : w.Assigned w.start where
  neg_one_le_h := by simp only [start]; omega
  h_lt := by simp only [start]; omega
  neg_one_le_v := by simp only [start]; omega
  v_lt := by simp only [start]; omega
  horizontal := by simpa [start] using TracedArray.assignedFrom_allocate w.levelHorizontal _
  vertical := by simpa [start] using TracedArray.assignedFrom_allocate w.levelVertical _

/-- The wire inside the one of a counter is assigned. -/
theorem exists_read_next {a : TracedArray K} {k : ℤ}
    (ha : a.AssignedFrom level (k + 1).toNat (w.Spans mat level)) (hk : 0 ≤ k)
    (hlt : k < level) (hne : k ≠ level - 1) :
    ∃ x, a.read (k + 1) = some x ∧ w.Spans mat level k.toNat (x * 2) := by
  obtain ⟨x, hread, hspans⟩ := ha.read (j := k + 1) (by omega) (by omega)
  have hnext : (k + 1).toNat = k.toNat + 1 := by omega
  rw [hnext] at hspans
  exact ⟨x, hread, hspans.outer (by omega)⟩

theorem exists_doubled {a : TracedArray K} {k : ℤ}
    (ha : a.AssignedFrom level (k + 1).toNat (w.Spans mat level)) (hk : 0 ≤ k)
    (hlt : k < level) :
    ∃ x, doubled a level mat k = some x ∧ w.Spans mat level k.toNat x := by
  by_cases hinner : k = level - 1
  · exact ⟨mat, if_pos hinner, spans_innermost (by omega)⟩
  · obtain ⟨x, hread, hspans⟩ := exists_read_next ha hk hlt hinner
    exact ⟨x * 2, by rw [doubled, if_neg hinner, hread]; rfl, hspans⟩

omit [IsStrictOrderedRing K] [FloorRing K] in
/-- The entry of a counter is the next to be assigned. -/
theorem exists_write {a : TracedArray K} {k : ℤ}
    (ha : a.AssignedFrom level (k + 1).toNat (w.Spans mat level)) (hk : 0 ≤ k)
    (hlt : k < level) {x : K} (hx : w.Spans mat level k.toNat x) :
    ∃ a', a.write k x = some a' ∧
      a'.AssignedFrom level (k - 1 + 1).toNat (w.Spans mat level) := by
  rw [show (k + 1).toNat = k.toNat + 1 by omega] at ha
  rw [sub_add_cancel]
  exact ha.write (Int.toNat_of_nonneg hk).symm (by omega) hx

theorem verticalOnly_spec (hs : w.Assigned s) (hv : s.h < s.v) :
    ∃ s', w.verticalOnly s = some s' ∧ w.Assigned s' ∧ s'.v = s.v - 1 := by
  have hneg := hs.neg_one_le_h
  have hlt := hs.v_lt
  obtain ⟨x, hlength, hspans⟩ := exists_doubled hs.vertical (by omega) hs.v_lt
  obtain ⟨a, hwrite, ha⟩ := exists_write hs.vertical (by omega) hs.v_lt hspans
  refine ⟨{ s with lengthVerticalWire := a, v := s.v - 1 }, ?_, ?_, rfl⟩
  · simp only [verticalOnly, hlength, Option.bind_eq_bind, Option.bind_some, hwrite]
  · exact ⟨hs.neg_one_le_h, hs.h_lt, by show -1 ≤ s.v - 1; omega,
      by show s.v - 1 < w.levelVertical; omega, hs.horizontal, ha⟩

theorem horizontalOnly_spec (hs : w.Assigned s) (hh : 0 ≤ s.h) :
    ∃ s', w.horizontalOnly s = some s' ∧ w.Assigned s' ∧ s'.h = s.h - 1 ∧ s'.v = s.v := by
  have hlt := hs.h_lt
  obtain ⟨x, hlength, hspans⟩ := exists_doubled hs.horizontal hh hs.h_lt
  obtain ⟨a, hwrite, ha⟩ := exists_write hs.horizontal hh hs.h_lt hspans
  refine ⟨{ s with lengthHorizontalWire := a, h := s.h - 1 }, ?_, ?_, rfl, rfl⟩
  · simp only [horizontalOnly, hlength, Option.bind_eq_bind, Option.bind_some, hwrite]
  · exact ⟨by show -1 ≤ s.h - 1; omega, by show s.h - 1 < w.levelHorizontal; omega,
      hs.neg_one_le_v, hs.v_lt, ha, hs.vertical⟩

/-! ## The loop over both dimensions -/

theorem exists_verticalLength (hs : w.Assigned s) (hpitch : 0 ≤ w.effectivePitch)
    (hv : 0 ≤ s.v) (hvh : s.v ≤ s.h) :
    ∃ x, w.verticalLength s = some x ∧
      w.Spans (w.matHeight / 2) w.levelVertical s.v.toNat x := by
  have hlt := hs.h_lt
  unfold verticalLength
  by_cases hinner : s.v = w.levelVertical - 1
  · exact ⟨_, if_pos hinner, spans_innermost (by omega)⟩
  obtain ⟨x, hread, hspans⟩ := exists_read_next hs.vertical hv hs.v_lt hinner
  rw [if_neg hinner, hread]
  by_cases hh : s.h = w.levelHorizontal - 1
  · exact ⟨x * 2, if_pos hh, hspans⟩
  · obtain ⟨bits, hbits⟩ := w.horizontalBits.exists_total (i := s.h + 1) (by omega) (by omega)
    rw [if_neg hh, hbits]
    exact ⟨x * 2 + w.detour bits, rfl, hspans.add_detour hpitch bits⟩

/-- The detours around the vertical wires only lengthen the entry they are added to. -/
theorem exists_crossVertical (hs : w.Assigned s) (hpitch : 0 ≤ w.effectivePitch)
    {k : ℕ} (hk : (k : ℤ) ≤ s.h) {a : TracedArray K}
    (ha : a.AssignedFrom w.levelHorizontal k (w.Spans w.matWidth w.levelHorizontal)) :
    ∃ a', w.crossVertical s a = some a' ∧
      a'.AssignedFrom w.levelHorizontal k (w.Spans w.matWidth w.levelHorizontal) := by
  unfold crossVertical
  have hlevels : ∀ i ∈ List.range' s.v.toNat (w.levelVertical - s.v.toNat),
      i < w.levelVertical := by
    intro i hi
    have := List.mem_range'_1.mp hi
    omega
  generalize List.range' s.v.toNat (w.levelVertical - s.v.toNat) = levels at hlevels ⊢
  induction levels generalizing a with
  | nil => exact ⟨a, rfl, ha⟩
  | cons i levels ih =>
      have hi : i < w.levelVertical := hlevels i List.mem_cons_self
      obtain ⟨bits, hbits⟩ := w.verticalBits.exists_total (i := i) (by omega) (by omega)
      obtain ⟨a', hadd, ha'⟩ := ha.accumulate (g := (· + w.detour bits)) hk hs.h_lt
        fun x hx => hx.add_detour hpitch bits
      obtain ⟨a'', hrest, ha''⟩ := ih ha' fun j hj => hlevels j (List.mem_cons_of_mem i hj)
      refine ⟨a'', ?_, ha''⟩
      simp only [List.foldlM_cons, hbits, Option.bind_eq_bind, Option.bind_some, hadd]
      exact hrest

theorem exists_writeHorizontal (hs : w.Assigned s) (hpitch : 0 ≤ w.effectivePitch)
    (hv : 0 ≤ s.v) (hh : 0 ≤ s.h) :
    ∃ a, w.writeHorizontal s = some a ∧
      a.AssignedFrom w.levelHorizontal (s.h - 1 + 1).toNat
        (w.Spans w.matWidth w.levelHorizontal) := by
  have hlt := hs.h_lt
  unfold writeHorizontal
  by_cases hinner : s.h = w.levelHorizontal - 1
  · obtain ⟨a, hwrite, ha⟩ := exists_write (x := w.matWidth) hs.horizontal hh hs.h_lt
      (spans_innermost (by omega))
    obtain ⟨a', hcross, ha'⟩ := exists_crossVertical hs hpitch (by omega) ha
    refine ⟨a', ?_, ha'⟩
    rw [if_pos hinner, hwrite]
    exact hcross
  · obtain ⟨bits, hbits⟩ := w.verticalBits.exists_total hv hs.v_lt
    obtain ⟨x, hread, hspans⟩ := exists_read_next hs.horizontal hh hs.h_lt hinner
    obtain ⟨a, hwrite, ha⟩ := exists_write hs.horizontal hh hs.h_lt
      (hspans.add_detour hpitch bits)
    refine ⟨a, ?_, ha⟩
    rw [if_neg hinner, hbits, hread]
    exact hwrite

theorem both_spec (hs : w.Assigned s) (hpitch : 0 ≤ w.effectivePitch) (hv : 0 ≤ s.v)
    (hvh : s.v ≤ s.h) :
    ∃ s', w.both s = some s' ∧ w.Assigned s' ∧ s'.h = s.h - 1 ∧ s'.v = s.v - 1 := by
  have hhlt := hs.h_lt
  have hvlt := hs.v_lt
  obtain ⟨x, hlength, hspans⟩ := exists_verticalLength hs hpitch hv hvh
  obtain ⟨a, hvertical, ha⟩ := exists_write hs.vertical hv hs.v_lt hspans
  obtain ⟨b, hhorizontal, hb⟩ := exists_writeHorizontal hs hpitch hv (by omega)
  refine ⟨⟨s.h - 1, s.v - 1, b, a⟩, ?_, ?_, rfl, rfl⟩
  · simp only [both, hlength, hvertical, hhorizontal, Option.bind_eq_bind, Option.bind_some]
  · exact ⟨by show -1 ≤ s.h - 1; omega, by show s.h - 1 < w.levelHorizontal; omega,
      by show -1 ≤ s.v - 1; omega, by show s.v - 1 < w.levelVertical; omega, hb, ha⟩

/-! ## The three loops -/

theorem verticalOnly_loop (hs : w.Assigned s) {fuel : ℕ} (hfuel : w.levelVertical ≤ fuel) :
    ∃ s', loop (fun s => s.v > s.h) w.verticalOnly fuel s = some s' ∧ w.Assigned s' ∧
      s'.v ≤ s'.h := by
  have hstep (s : WireLengths K) (hs : w.Assigned s) (hcond : decide (s.v > s.h) = true) :
      ∃ s', w.verticalOnly s = some s' ∧ w.Assigned s' ∧ (s'.v + 1).toNat < (s.v + 1).toNat := by
    have hlt : s.h < s.v := of_decide_eq_true hcond
    obtain ⟨s', hbody, hs', hv⟩ := verticalOnly_spec hs hlt
    have hneg := hs.neg_one_le_h
    exact ⟨s', hbody, hs', by omega⟩
  have hvariant : (s.v + 1).toNat ≤ fuel := by
    have hlt := hs.v_lt
    omega
  obtain ⟨s', hrun, hs', hend⟩ := loop_ends hstep hs hvariant
  exact ⟨s', hrun, hs', not_lt.mp (of_decide_eq_false hend)⟩

theorem both_loop (hpitch : 0 ≤ w.effectivePitch) (hs : w.Assigned s) (hvh : s.v ≤ s.h)
    {fuel : ℕ} (hfuel : w.levelVertical ≤ fuel) :
    ∃ s', loop (fun s => s.v ≥ 0) w.both fuel s = some s' ∧ w.Assigned s' ∧ s'.v = -1 := by
  have hstep (s : WireLengths K) (hs : w.Assigned s ∧ s.v ≤ s.h)
      (hcond : decide (s.v ≥ 0) = true) : ∃ s', w.both s = some s' ∧
        (w.Assigned s' ∧ s'.v ≤ s'.h) ∧ (s'.v + 1).toNat < (s.v + 1).toNat := by
    have hv : 0 ≤ s.v := of_decide_eq_true hcond
    obtain ⟨s', hbody, hs', hh', hv'⟩ := both_spec hs.1 hpitch hv hs.2
    exact ⟨s', hbody, ⟨hs', by omega⟩, by omega⟩
  have hvariant : (s.v + 1).toNat ≤ fuel := by
    have hlt := hs.v_lt
    omega
  obtain ⟨s', hrun, ⟨hs', -⟩, hend⟩ :=
    loop_ends (I := fun s => w.Assigned s ∧ s.v ≤ s.h) hstep ⟨hs, hvh⟩ hvariant
  have hneg : ¬ s'.v ≥ 0 := of_decide_eq_false hend
  have hge := hs'.neg_one_le_v
  exact ⟨s', hrun, hs', by omega⟩

theorem horizontalOnly_loop (hs : w.Assigned s) (hv : s.v = -1) {fuel : ℕ}
    (hfuel : w.levelHorizontal ≤ fuel) :
    ∃ s', loop (fun s => s.h ≥ 0) w.horizontalOnly fuel s = some s' ∧ w.Assigned s' ∧
      s'.v = -1 ∧ s'.h = -1 := by
  have hstep (s : WireLengths K) (hs : w.Assigned s ∧ s.v = -1)
      (hcond : decide (s.h ≥ 0) = true) : ∃ s', w.horizontalOnly s = some s' ∧
        (w.Assigned s' ∧ s'.v = -1) ∧ (s'.h + 1).toNat < (s.h + 1).toNat := by
    have hh : 0 ≤ s.h := of_decide_eq_true hcond
    obtain ⟨s', hbody, hs', hh', hv'⟩ := horizontalOnly_spec hs.1 hh
    exact ⟨s', hbody, ⟨hs', hv'.trans hs.2⟩, by omega⟩
  have hvariant : (s.h + 1).toNat ≤ fuel := by
    have hlt := hs.h_lt
    omega
  obtain ⟨s', hrun, ⟨hs', hv'⟩, hend⟩ :=
    loop_ends (I := fun s => w.Assigned s ∧ s.v = -1) hstep ⟨hs, hv⟩ hvariant
  have hneg : ¬ s'.h ≥ 0 := of_decide_eq_false hend
  have hge := hs'.neg_one_le_h
  exact ⟨s', hrun, hs', hv', by omega⟩

/-- The loops are left by their conditions and no access fails; every wire is assigned exactly
once and spans its mats. -/
theorem calculateLengths_spec (w : HtreeWires K) (hpitch : 0 ≤ w.effectivePitch) {fuel : ℕ}
    (hfuel : w.levelHorizontal + w.levelVertical ≤ fuel) :
    ∃ s, w.calculateLengths fuel = some s ∧
      s.lengthHorizontalWire.AssignedFrom w.levelHorizontal 0
        (w.Spans w.matWidth w.levelHorizontal) ∧
      s.lengthVerticalWire.AssignedFrom w.levelVertical 0
        (w.Spans (w.matHeight / 2) w.levelVertical) := by
  have hfuelV : w.levelVertical ≤ fuel := by omega
  have hfuelH : w.levelHorizontal ≤ fuel := by omega
  obtain ⟨s₁, hrun₁, hs₁, hvh₁⟩ := verticalOnly_loop w.assigned_start hfuelV
  obtain ⟨s₂, hrun₂, hs₂, hv₂⟩ := both_loop hpitch hs₁ hvh₁ hfuelV
  obtain ⟨s₃, hrun₃, hs₃, hv₃, hh₃⟩ := horizontalOnly_loop hs₂ hv₂ hfuelH
  have hhorizontal := hs₃.horizontal
  have hvertical := hs₃.vertical
  rw [hh₃] at hhorizontal
  rw [hv₃] at hvertical
  refine ⟨s₃, ?_, hhorizontal, hvertical⟩
  simp only [calculateLengths, hrun₁, hrun₂, hrun₃, Option.bind_eq_bind, Option.bind_some]

/-- Two horizontal levels and one vertical level, with a bit to distribute on each. -/
def smallTree : HtreeWires ℚ where
  levelHorizontal := 2
  levelVertical := 1
  matHeight := 4
  matWidth := 3
  horizontalBits := ⟨fun _ => 0, fun _ => 1, fun _ => 0⟩
  verticalBits := ⟨fun _ => 0, fun _ => 1, fun _ => 0⟩
  numWireSharingWidth := 1
  effectivePitch := 2

theorem calculateLengths_spec_smallTree :
    (0 : ℚ) ≤ 2 ∧ ∃ s, smallTree.calculateLengths 3 = some s ∧
      s.lengthHorizontalWire.AssignedFrom 2 0 (smallTree.Spans 3 2) ∧
      s.lengthVerticalWire.AssignedFrom 1 0 (smallTree.Spans (4 / 2) 1) :=
  ⟨zero_le_two, calculateLengths_spec smallTree zero_le_two le_rfl⟩

end HtreeWires

end NVSim
