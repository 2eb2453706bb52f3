import NVSim.Htree.Wires
import NVSim.Model.BankInts

/-!
# The routing with machine integers

As long as the data bits of a bank fit an `int`, the routing with `int`s records, level by level,
the wrapped counts of the exact routing, stops where it stops, and delivers the same data bits
to the mat.  So `Initialize` with machine integers is the exact one wherever its mat is.
-/

namespace NVSim

open Library

variable {ι κ : Type}

/-! ## Representations -/

namespace WireLevel

def map (f : ι → κ) (l : WireLevel ι) : WireLevel κ where
  addressBit := l.addressBit
  dataDistributeBit := f l.dataDistributeBit
  dataBroadcastBit := f l.dataBroadcastBit
  wire := f l.wire
  sumWire := f l.sumWire
  activeWire := f l.activeWire

end WireLevel

namespace WireArrays

def map (f : ι → κ) (a : WireArrays ι) : WireArrays κ where
  numAddressBitToRoute := a.numAddressBitToRoute
  numDataDistributeBitToRoute := a.numDataDistributeBitToRoute.map f
  numDataBroadcastBitToRoute := a.numDataBroadcastBitToRoute.map f
  numWire := a.numWire.map f
  numSumWire := a.numSumWire.map f
  numActiveWire := a.numActiveWire.map f

theorem map_allocate (f : ι → κ) (n : ℕ) : (allocate n : WireArrays ι).map f = allocate n := by
  simp [map, allocate]

theorem record_map (f : ι → κ) (a : WireArrays ι) (i : ℤ) (l : WireLevel ι) :
    (a.map f).record i (l.map f) = (a.record i l).map (map f) := by
  unfold record map WireLevel.map
  simp only [TracedArray.write_map]
  cases a.numActiveWire.write i l.activeWire <;> simp
  cases a.numAddressBitToRoute.write i l.addressBit <;> simp
  cases a.numDataDistributeBitToRoute.write i l.dataDistributeBit <;> simp
  cases a.numDataBroadcastBitToRoute.write i l.dataBroadcastBit <;> simp
  cases a.numWire.write i l.wire <;> simp
  cases a.numSumWire.write i l.sumWire <;> simp

end WireArrays

namespace RoutingVars

def map (f : ι → κ) (s : RoutingVars ι) : RoutingVars κ where
  h := s.h
  v := s.v
  rowToActive := s.rowToActive
  columnToActive := s.columnToActive
  numAddressBitToRoute := s.numAddressBitToRoute
  numDataDistributeBitToRoute := f s.numDataDistributeBitToRoute
  numDataBroadcastBitToRoute := f s.numDataBroadcastBitToRoute
  hTemp := f s.hTemp
  vTemp := f s.vTemp
  horizontal := s.horizontal.map f
  vertical := s.vertical.map f
  routed := s.routed

/-- The variables as `int`s. -/
abbrev toInts (s : RoutingVars) : RoutingVars Int32 := s.map Int32.ofNat

/-- The data bits fit an `int`. -/
structure IntBits (s : RoutingVars) : Prop where
  distribute : s.numDataDistributeBitToRoute < 2 ^ 31
  broadcast : s.numDataBroadcastBitToRoute < 2 ^ 31

end RoutingVars

/-! ## Steps -/

theorem int32_ofNat_eq_zero_iff {n : ℕ} (h : n < 2 ^ 32) : Int32.ofNat n = 0 ↔ n = 0 := by
  have hvalue : (Int32.ofNat n).toInt = Int.bmod n (2 ^ 32) := Int32.toInt_ofNat'
  have hzero : (0 : Int32).toInt = 0 := rfl
  rw [← Int32.toInt_inj, hvalue, hzero, ← Int.dvd_iff_bmod_eq_zero]
  omega

theorem int32_ofNat_half {n : ℕ} (h : n < 2 ^ 31) : Int32.ofNat (n / 2) = Int32.ofNat n / 2 :=
  Int32.ofNat_div h (by norm_num)

theorem maps_access {α β : Type} {f : α → β} {r : Option α} {r' : Option β} (h : r' = r.map f) :
    Maps f (fun _ => True) (access r) (access r') := by
  subst h
  cases r with
  | none => exact maps_error _
  | some a => exact maps_ok rfl trivial

namespace RoutingVars

variable {s : RoutingVars}

theorem nothingToRoute_toInts (h : s.IntBits) : s.toInts.nothingToRoute = s.nothingToRoute := by
  have hdistribute := h.distribute
  have hbroadcast := h.broadcast
  have hbits : (Int32.ofNat s.numDataDistributeBitToRoute +
      Int32.ofNat s.numDataBroadcastBitToRoute = 0) ↔
        s.numDataDistributeBitToRoute + s.numDataBroadcastBitToRoute = 0 := by
    rw [← Int32.ofNat_add]
    exact int32_ofNat_eq_zero_iff (by omega)
  unfold nothingToRoute
  exact congrArg (· || decide (s.numAddressBitToRoute = 0)) (decide_eq_decide.2 hbits)

theorem splitColumn_toInts (h : s.IntBits) :
    s.toInts.splitColumn = (s.splitColumn.1.toInts, Int32.ofNat s.splitColumn.2) ∧
      s.splitColumn.1.IntBits := by
  unfold splitColumn
  show (if s.columnToActive > 1 then _ else _) = _ ∧ _
  split
  · refine ⟨?_, (Nat.div_le_self _ _).trans_lt h.distribute, h.broadcast⟩
    simp only [map, int32_ofNat_half h.distribute]
    rfl
  · exact ⟨rfl, h.distribute, h.broadcast⟩

theorem splitRow_toInts (h : s.IntBits) :
    s.toInts.splitRow = (s.splitRow.1.toInts, Int32.ofNat s.splitRow.2) ∧
      s.splitRow.1.IntBits := by
  unfold splitRow
  show (if s.rowToActive > 1 then _ else _) = _ ∧ _
  split
  · refine ⟨?_, (Nat.div_le_self _ _).trans_lt h.distribute, h.broadcast⟩
    simp only [map, int32_ofNat_half h.distribute]
    rfl
  · exact ⟨rfl, h.distribute, h.broadcast⟩

section Record

variable {wire sumWire activeWire : ℕ} {wire' sumWire' activeWire' : Int32}

theorem maps_recordHorizontal (h : s.IntBits) (levelHorizontal : ℕ)
    (hwire : wire' = Int32.ofNat wire) (hsum : sumWire' = Int32.ofNat sumWire)
    (hactive : activeWire' = Int32.ofNat activeWire) :
    Maps toInts IntBits (s.recordHorizontal levelHorizontal wire sumWire activeWire)
      (s.toInts.recordHorizontal levelHorizontal wire' sumWire' activeWire') := by
  subst hwire hsum hactive
  exact (maps_access (WireArrays.record_map Int32.ofNat s.horizontal _
    (s.level wire sumWire activeWire))).bind
      fun _ _ => maps_ok rfl ⟨h.distribute, h.broadcast⟩

theorem maps_recordVertical (h : s.IntBits) (levelVertical : ℕ)
    (hwire : wire' = Int32.ofNat wire) (hsum : sumWire' = Int32.ofNat sumWire)
    (hactive : activeWire' = Int32.ofNat activeWire) :
    Maps toInts IntBits (s.recordVertical levelVertical wire sumWire activeWire)
      (s.toInts.recordVertical levelVertical wire' sumWire' activeWire') := by
  subst hwire hsum hactive
  exact (maps_access (WireArrays.record_map Int32.ofNat s.vertical _
    (s.level wire sumWire activeWire))).bind
      fun _ _ => maps_ok rfl ⟨h.distribute, h.broadcast⟩

end Record

/-- Two wire counts as `int`s. -/
abbrev wiresToInts : ℕ × ℕ → Int32 × Int32 := Prod.map Int32.ofNat Int32.ofNat

theorem maps_readHorizontal (s : RoutingVars) (i : ℤ) :
    Maps wiresToInts (fun _ => True) (s.readHorizontal i) (s.toInts.readHorizontal i) :=
  (maps_access (TracedArray.read_map _ _ _)).bind fun _ _ =>
    (maps_access (TracedArray.read_map _ _ _)).bind fun _ _ => maps_ok rfl trivial

theorem maps_readVertical (s : RoutingVars) (i : ℤ) :
    Maps wiresToInts (fun _ => True) (s.readVertical i) (s.toInts.readVertical i) :=
  (maps_access (TracedArray.read_map _ _ _)).bind fun _ _ =>
    (maps_access (TracedArray.read_map _ _ _)).bind fun _ _ => maps_ok rfl trivial

theorem maps_readAboveVertical (s : RoutingVars) (levelVertical : ℕ) :
    Maps wiresToInts (fun _ => True) (s.readAboveVertical levelVertical)
      (s.toInts.readAboveVertical levelVertical) := by
  unfold readAboveVertical
  show Maps _ _ _ (if s.v = levelVertical then _ else _)
  split
  · exact maps_ok rfl trivial
  · exact maps_readVertical s _

theorem maps_readAboveHorizontal (s : RoutingVars) (levelHorizontal levelVertical : ℕ) :
    Maps wiresToInts (fun _ => True) (s.readAboveHorizontal levelHorizontal levelVertical)
      (s.toInts.readAboveHorizontal levelHorizontal levelVertical) := by
  unfold readAboveHorizontal
  show Maps _ _ _ (if s.v = levelVertical then _ else _)
  split
  · exact maps_readHorizontal s _
  · exact maps_readVertical s _

theorem maps_routeFirst (h : s.IntBits) (levelHorizontal : ℕ) :
    Maps toInts IntBits (routeFirst levelHorizontal s) (routeFirst levelHorizontal s.toInts) := by
  unfold routeFirst
  show Maps _ _ _ (if s.h > 0 then _ else _)
  rw [nothingToRoute_toInts h]
  split
  · split
    · exact maps_error _
    · exact (maps_recordHorizontal h levelHorizontal rfl rfl rfl).bind
        fun _ hs => maps_ok rfl ⟨hs.distribute, hs.broadcast⟩
  · exact maps_ok rfl h

theorem maps_reduceHToV (h : s.IntBits) (levelHorizontal : ℕ) :
    Maps toInts IntBits (reduceHToV levelHorizontal s) (reduceHToV levelHorizontal s.toInts) := by
  unfold reduceHToV
  rw [nothingToRoute_toInts h]
  split
  · exact maps_error _
  · obtain ⟨hsplit, hbits⟩ := splitColumn_toInts h
    rw [hsplit]
    generalize s.splitColumn = split at *
    obtain ⟨s₁, factor⟩ := split
    refine (maps_readHorizontal s₁ _).bind fun counts _ => ?_
    obtain ⟨active, sum⟩ := counts
    refine (maps_recordHorizontal hbits levelHorizontal rfl (Int32.ofNat_mul 2 sum).symm
      (Int32.ofNat_mul factor active).symm).bind fun s₂ hs => ?_
    exact maps_ok (by simp only [map, Int32.ofNat_mul]; rfl) ⟨hs.distribute, hs.broadcast⟩

theorem maps_reduceVToH (h : s.IntBits) (levelVertical : ℕ) :
    Maps toInts IntBits (reduceVToH levelVertical s) (reduceVToH levelVertical s.toInts) := by
  unfold reduceVToH
  rw [nothingToRoute_toInts h]
  split
  · exact maps_error _
  · obtain ⟨hsplit, hbits⟩ := splitRow_toInts h
    rw [hsplit]
    generalize s.splitRow = split at *
    obtain ⟨s₁, factor⟩ := split
    refine (maps_readAboveVertical s₁ _).bind fun counts _ => ?_
    obtain ⟨active, sum⟩ := counts
    refine (maps_recordVertical hbits levelVertical rfl (Int32.ofNat_mul 2 sum).symm
      (Int32.ofNat_mul factor active).symm).bind fun s₂ hs => ?_
    exact maps_ok (by simp only [map, Int32.ofNat_mul]; rfl) ⟨hs.distribute, hs.broadcast⟩

theorem maps_reduceBothHorizontal (h : s.IntBits) (levelHorizontal levelVertical : ℕ) :
    Maps toInts IntBits (reduceBothHorizontal levelHorizontal levelVertical s)
      (reduceBothHorizontal levelHorizontal levelVertical s.toInts) := by
  unfold reduceBothHorizontal
  rw [nothingToRoute_toInts h]
  split
  · exact maps_error _
  · obtain ⟨hsplit, hbits⟩ := splitColumn_toInts h
    rw [hsplit]
    generalize s.splitColumn = split at *
    obtain ⟨s₁, factor⟩ := split
    refine (maps_readAboveHorizontal s₁ _ _).bind fun counts _ => ?_
    obtain ⟨active, sum⟩ := counts
    exact maps_recordHorizontal hbits levelHorizontal rfl (Int32.ofNat_mul 2 sum).symm
      (Int32.ofNat_mul factor active).symm

theorem maps_reduceBothVertical (h : s.IntBits) (levelHorizontal levelVertical : ℕ) :
    Maps toInts IntBits (reduceBothVertical levelHorizontal levelVertical s)
      (reduceBothVertical levelHorizontal levelVertical s.toInts) := by
  unfold reduceBothVertical
  rw [nothingToRoute_toInts h]
  split
  · exact maps_error _
  · obtain ⟨hsplit, hbits⟩ := splitRow_toInts h
    rw [hsplit]
    generalize s.splitRow = split at *
    obtain ⟨s₁, factor⟩ := split
    refine (maps_readHorizontal s₁ _).bind fun counts _ => ?_
    obtain ⟨active, sum⟩ := counts
    have hwire : (if levelHorizontal = 2 then s₁.toInts.vTemp else 2 * s₁.toInts.vTemp) =
        Int32.ofNat (if levelHorizontal = 2 then s₁.vTemp else 2 * s₁.vTemp) := by
      split
      · rfl
      · exact (Int32.ofNat_mul 2 s₁.vTemp).symm
    refine (maps_recordVertical hbits levelVertical hwire (Int32.ofNat_mul 2 sum).symm
      (Int32.ofNat_mul factor active).symm).bind fun s₂ hs => ?_
    exact maps_ok (by simp only [map, Int32.ofNat_mul]; rfl) ⟨hs.distribute, hs.broadcast⟩

theorem maps_lastColumnStep (h : s.IntBits) (levelHorizontal : ℕ) :
    Maps toInts IntBits (lastColumnStep levelHorizontal s)
      (lastColumnStep levelHorizontal s.toInts) := by
  unfold lastColumnStep
  rw [nothingToRoute_toInts h]
  split
  · exact maps_error _
  · show Maps _ _ _ (if s.columnToActive > 1 then _ else _)
    split
    · refine maps_ok ?_ ⟨(Nat.div_le_self _ _).trans_lt h.distribute, h.broadcast⟩
      simp only [map, int32_ofNat_half h.distribute]
    · split
      · exact maps_ok rfl ⟨h.distribute, h.broadcast⟩
      · exact maps_ok rfl h

end RoutingVars

/-! ## The whole routing -/

/-- The data bits of a bank fit an `int`. -/
structure BankParams.IntBits (p : BankParams) : Prop where
  distribute : p.numDataDistributeBit < 2 ^ 31
  broadcast : p.numDataBroadcastBit < 2 ^ 31

namespace BankParams

variable {p : BankParams}

/-- The routing with `int`s records the wrapped counts of the exact one. -/
theorem maps_route (h : p.IntBits) :
    Maps RoutingVars.toInts RoutingVars.IntBits p.route p.routeInt := by
  have hstart : p.startRoutingWith p.storedDataDistributeBit p.storedDataBroadcastBit =
      p.startRouting.toInts := by
    unfold startRouting startRoutingWith RoutingVars.toInts RoutingVars.map
    simp only [WireArrays.map_allocate]
    rfl
  unfold route routeInt routeWith
  rw [hstart]
  refine (RoutingVars.maps_routeFirst ⟨h.distribute, h.broadcast⟩ _).bind fun s₁ hs₁ => ?_
  refine (maps_whileM (fun _ => rfl) (fun s hs _ => RoutingVars.maps_reduceHToV hs _) _
    hs₁).bind fun s₂ hs₂ => ?_
  refine (maps_whileM (fun _ => rfl) (fun s hs _ => RoutingVars.maps_reduceVToH hs _) _
    hs₂).bind fun s₃ hs₃ => ?_
  refine (maps_whileM (fun _ => rfl) (fun s hs _ => ?_) _ hs₃).bind
    fun s₄ hs₄ => RoutingVars.maps_lastColumnStep hs₄ _
  exact (RoutingVars.maps_reduceBothHorizontal hs _ _).bind
    fun s' hs' => RoutingVars.maps_reduceBothVertical hs' _ _

end BankParams

end NVSim
