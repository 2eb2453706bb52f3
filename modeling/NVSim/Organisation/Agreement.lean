import NVSim.Htree.Wires

/-!
# The two organisations agree on the mat

`BankWithoutHtree::Initialize` computes what reaches a mat in closed form.  For
counts of mats that are powers of two this is what the tree delivers below all
its branchings, so a bank that is sensed internally is initialised the same way
by both organisations.  The early exits of the routing loops are matched by the
checks of `Mat::Initialize`: a blocked node leaves the mat without address bits
or without data bits.
-/

namespace NVSim

open Library

/-- The mats of a bank and the active ones among them as powers of two. -/
structure BankParams.MatGrid (p : BankParams) (row column activeRow activeColumn : ℕ) :
    Prop where
  numRowMat : p.numRowMat = 2 ^ row
  numColumnMat : p.numColumnMat = 2 ^ column
  numActiveMatPerColumn : p.numActiveMatPerColumn = 2 ^ activeRow
  numActiveMatPerRow : p.numActiveMatPerRow = 2 ^ activeColumn
  activeRow_le : activeRow ≤ row
  activeColumn_le : activeColumn ≤ column

/-- Clamping keeps powers of two and makes them fit. -/
theorem exists_clamp_two_pow {active total : ℕ} (hactive : active.isPowerOfTwo)
    (htotal : total.isPowerOfTwo) :
    ∃ x n, total = 2 ^ n ∧ (if active > total then total else active) = 2 ^ x ∧ x ≤ n := by
  obtain ⟨x, rfl⟩ := hactive
  obtain ⟨n, rfl⟩ := htotal
  by_cases h : 2 ^ x > 2 ^ n
  · exact ⟨n, n, rfl, if_pos h, le_rfl⟩
  · refine ⟨x, n, rfl, if_neg h, ?_⟩
    exact (Nat.pow_le_pow_iff_right (by norm_num)).1 (not_lt.1 h)

theorem BankParams.exists_matGrid {args : BankParams} (hrow : args.numRowMat.isPowerOfTwo)
    (hcolumn : args.numColumnMat.isPowerOfTwo)
    (hactiveRow : args.numActiveMatPerRow.isPowerOfTwo)
    (hactiveColumn : args.numActiveMatPerColumn.isPowerOfTwo) :
    ∃ r c x y, args.clampActive.MatGrid r c y x := by
  obtain ⟨x, c, hc, hx, hxc⟩ := exists_clamp_two_pow hactiveRow hcolumn
  obtain ⟨y, r, hr, hy, hyr⟩ := exists_clamp_two_pow hactiveColumn hrow
  exact ⟨r, c, x, y, hr, hc, hy, hx, hyr, hxc⟩

namespace BankParams.MatGrid

variable {p : BankParams} {r c x y : ℕ}

theorem levelVertical (h : p.MatGrid r c y x) : p.levelVertical = r := by
  rw [BankParams.levelVertical, h.numRowMat, log2Rounded_two_pow]

theorem levelHorizontal (h : p.MatGrid r c y x) : p.levelHorizontal = c := by
  rw [BankParams.levelHorizontal, h.numColumnMat, log2Rounded_two_pow]

theorem splits (h : p.MatGrid r c y x) : p.treeLoad.splits c r = x + y := by
  have hactiveRow := h.activeRow_le
  have hactiveColumn := h.activeColumn_le
  simp only [TreeLoad.splits, TreeLoad.halvings, BankParams.treeLoad, BankParams.treeLoadWith,
    h.numActiveMatPerRow, h.numActiveMatPerColumn, Nat.log_pow one_lt_two]
  omega

theorem numAddressForGating (h : p.MatGrid r c y x) :
    p.numAddressForGating = r + c - y - x := by
  have hactiveRow := h.activeRow_le
  have hactiveColumn := h.activeColumn_le
  rw [BankParams.numAddressForGating, h.numRowMat, h.numColumnMat, h.numActiveMatPerColumn,
    h.numActiveMatPerRow, ← pow_add, two_pow_div_two_pow_of_le (by omega),
    two_pow_div_two_pow_of_le (by omega), log2Rounded_two_pow]

/-- The address bits below all branchings are those of the closed form. -/
theorem addressBitAt (h : p.MatGrid r c y x) :
    p.treeLoad.addressBitAt p.levelHorizontal p.levelVertical = p.numAddressBitRouteToMat := by
  have hactiveRow := h.activeRow_le
  have hactiveColumn := h.activeColumn_le
  rw [BankParams.numAddressBitRouteToMat, h.numAddressForGating, h.levelHorizontal,
    h.levelVertical, TreeLoad.addressBitAt, h.splits]
  simp only [BankParams.treeLoad, BankParams.treeLoadWith]
  omega

/-- The distributed data bits are divided by the number of active mats. -/
theorem distributeBitAt (h : p.MatGrid r c y x) :
    p.treeLoad.distributeBitAt p.levelHorizontal p.levelVertical =
      p.numDataDistributeBit / p.numActiveMatPerColumn / p.numActiveMatPerRow := by
  rw [TreeLoad.distributeBitAt, halved_nat, h.levelHorizontal, h.levelVertical, h.splits,
    h.numActiveMatPerColumn, h.numActiveMatPerRow, Nat.div_div_eq_div_mul, ← pow_add,
    Nat.add_comm y x]
  rfl

/-- Where the routing arrives, it calls `Mat::Initialize` as the closed form does. -/
theorem matParamsWithHtree_eq (h : p.MatGrid r c y x) (hassoc : p.associativity.isPowerOfTwo)
    {s : RoutingVars} (hs : RoutingVars.Arrived p p.treeLoad s) (memCellType : MemCellType) :
    p.matParamsWithHtree memCellType s = p.matParamsWithoutHtree memCellType := by
  have haddress := hs.carries.addressBit.trans h.addressBitAt
  have hdistribute := hs.carries.distributeBit.trans h.distributeBitAt
  have hbroadcast : s.numDataBroadcastBitToRoute = p.numDataBroadcastBit :=
    hs.carries.broadcastBit
  have hrouted : p.routedWithHtree s = p.routedWithoutHtree := by
    unfold BankParams.routedWithHtree BankParams.routedWithoutHtree
    rw [hdistribute, hbroadcast]
    unfold BankParams.numDataDistributeBit BankParams.numDataBroadcastBit
    cases p.memoryType with
    | data =>
        obtain ⟨w, hw⟩ := hassoc
        simp only [hw, Nat.log_pow one_lt_two]
    | tag => simp only [Nat.lt_one_iff]
    | cam => rfl
  unfold BankParams.matParamsWithHtree BankParams.matParamsWithoutHtree
  rw [hrouted, haddress]

/-- A blocked node leaves a mat without address bits or without data bits. -/
theorem dataBit_of_stopsBlocked (h : p.MatGrid r c y x) {e : RouteHalt}
    (hstops : RoutingVars.StopsBlocked p p.treeLoad e) {memCellType : MemCellType} {q : BankParams}
    {matParams : MatParams}
    (hmat : p.matParamsWithoutHtree memCellType = some (q, matParams)) :
    matParams.clampActive.effectiveAddressBit ≤ 0 ∨ matParams.numDataBit = 0 := by
  obtain ⟨-, a, b, ha, hb, hblocked⟩ := hstops
  have haddress := p.treeLoad.addressBitAt_antitone ha hb
  have hdistribute := p.treeLoad.distributeBitAt_antitone ha hb
  rw [h.addressBitAt] at haddress
  rw [h.distributeBitAt] at hdistribute
  obtain ⟨numDataBit, numWay, hrouted, rfl, rfl⟩ := BankParams.matCall_eq_some hmat
  rcases hblocked with hdata | hzero
  · -- a data array runs out of distributed bits; the others broadcast an empty block
    obtain ⟨hleft, hbroadcast⟩ := Nat.add_eq_zero_iff.1 hdata
    have hzeroBits : numDataBit = 0 := by
      unfold BankParams.routedWithoutHtree at hrouted
      rw [hleft] at hdistribute
      simp only [BankParams.treeLoad, BankParams.treeLoadWith, BankParams.numDataDistributeBit,
        BankParams.numDataBroadcastBit] at hdistribute hbroadcast
      cases htype : p.memoryType with
      | data =>
          simp only [htype] at hrouted hdistribute
          split at hrouted
          · cases hrouted
          · simp only [Option.some.injEq, Prod.mk.injEq] at hrouted
            omega
      | tag =>
          simp only [htype] at hrouted hbroadcast
          split at hrouted
          · cases hrouted
          · split at hrouted
            · cases hrouted
            · simp only [Option.some.injEq, Prod.mk.injEq] at hrouted
              omega
      | cam =>
          simp only [htype, Option.some.injEq, Prod.mk.injEq] at hrouted hbroadcast
          omega
    exact .inr hzeroBits
  · left
    apply (MatParams.effectiveAddressBit_le _).trans
    simp only [MatParams.clampActive, BankParams.toMatParams]
    omega

/-- So it leaves no column to a subarray that has a row. -/
theorem starved_of_stopsBlocked (h : p.MatGrid r c y x) {e : RouteHalt}
    (hstops : RoutingVars.StopsBlocked p p.treeLoad e) {memCellType : MemCellType} {q : BankParams}
    {matParams : MatParams}
    (hmat : p.matParamsWithoutHtree memCellType = some (q, matParams)) :
    matParams.clampActive.effectiveAddressBit ≤ 0 ∨
      matParams.clampActive.numColumnSelected = 0 := by
  refine (h.dataBit_of_stopsBlocked hstops hmat).imp_right fun hzero => ?_
  simp only [MatParams.numColumnSelected, MatParams.clampActive, hzero, Nat.zero_div]

end BankParams.MatGrid

/-! ## Banks -/

/-- The sensing schemes an organisation supports. -/
def BankParams.Sensed (memCellType : MemCellType) (globalWireRepeaterType : WireRepeaterType)
    (routingMode : RoutingMode) (p : BankParams) : Prop :=
  p.internalSenseAmp = true ∨
    routingMode = .nonHTree ∧ memCellType.isDram = false ∧ globalWireRepeaterType = .repeatedNone

theorem BankParams.externalSensing_eq_none_iff {memCellType : MemCellType}
    {globalWireRepeaterType : WireRepeaterType} {p : BankParams} :
    p.externalSensing memCellType globalWireRepeaterType = none ↔
      p.Sensed memCellType globalWireRepeaterType .nonHTree := by
  unfold BankParams.externalSensing BankParams.Sensed
  cases p.internalSenseAmp with
  | true => simp
  | false => cases memCellType.isDram <;> simp

theorem BankParams.externalSensing_eq_some {memCellType : MemCellType}
    {globalWireRepeaterType : WireRepeaterType} {p : BankParams} {bank : Bank}
    (h : p.externalSensing memCellType globalWireRepeaterType = some bank) :
    bank.invalid = true ∧ bank.mat = .fresh := by
  unfold BankParams.externalSensing at h
  split at h
  · cases h
  · split at h
    · obtain rfl := Option.some.inj h
      exact ⟨rfl, rfl⟩
    · split at h
      · obtain rfl := Option.some.inj h
        exact ⟨rfl, rfl⟩
      · cases h

/-- The outcomes of the closed-form organisation. -/
theorem initializeBankWithoutHtree_cases (el : Electrical) (memCellType : MemCellType)
    (globalWireRepeaterType : WireRepeaterType) (args : BankParams) {b : Bank}
    (h : initializeBankWithoutHtree el memCellType globalWireRepeaterType args = b) :
    ¬ args.Sensed memCellType globalWireRepeaterType .nonHTree ∧ b.invalid = true ∧
        b.mat = .fresh ∨
      args.Sensed memCellType globalWireRepeaterType .nonHTree ∧
        (args.clampActive.matParamsWithoutHtree memCellType = none ∧
            b = .rejected args.clampActive ∨
          ∃ q matParams, args.clampActive.matParamsWithoutHtree memCellType = some (q, matParams) ∧
            (((initializeMat el matParams).invalid = true ∨ args.internalSenseAmp = false) ∧
                b = { toBankParams := q, initialized := true, invalid := true,
                      mat := initializeMat el matParams } ∨
              (initializeMat el matParams).invalid = false ∧
                b = { toBankParams := args.restoreMux q, initialized := true, invalid := false,
                      mat := initializeMat el matParams })) := by
  unfold initializeBankWithoutHtree at h
  cases hexternal : args.externalSensing memCellType globalWireRepeaterType with
  | some bank =>
      simp only [hexternal] at h
      subst h
      left
      refine ⟨fun hsensed => ?_, BankParams.externalSensing_eq_some hexternal⟩
      rw [BankParams.externalSensing_eq_none_iff.2 hsensed] at hexternal
      cases hexternal
  | none =>
      simp only [hexternal] at h
      refine .inr ⟨BankParams.externalSensing_eq_none_iff.1 hexternal, ?_⟩
      cases hmat : args.clampActive.matParamsWithoutHtree memCellType with
      | none =>
          simp only [hmat] at h
          exact .inl ⟨rfl, h.symm⟩
      | some r =>
          obtain ⟨q, matParams⟩ := r
          simp only [hmat] at h
          refine .inr ⟨q, matParams, rfl, ?_⟩
          by_cases hinvalid : (initializeMat el matParams).invalid = true
          · rw [if_pos hinvalid] at h
            exact .inl ⟨.inl hinvalid, h.symm⟩
          · rw [if_neg hinvalid] at h
            split at h
            · rename_i hamp
              have hexternal : args.internalSenseAmp = false := by
                rw [Bool.and_eq_true, Bool.not_eq_true'] at hamp
                exact hamp.1
              exact .inl ⟨.inr hexternal, h.symm⟩
            · exact .inr ⟨Bool.eq_false_iff.2 hinvalid, h.symm⟩

section PowerOfTwo

variable {el : Electrical} {memCellType : MemCellType}
  {globalWireRepeaterType : WireRepeaterType} {routingMode : RoutingMode} {args : BankParams}
  {b : Bank}

/-- A valid bank of either organisation has a legal mat, called with the
arguments of the closed form. -/
theorem initializeBank_valid (hassoc : args.associativity.isPowerOfTwo)
    (hrow : args.numRowMat.isPowerOfTwo) (hcolumn : args.numColumnMat.isPowerOfTwo)
    (hactiveRow : args.numActiveMatPerRow.isPowerOfTwo)
    (hactiveColumn : args.numActiveMatPerColumn.isPowerOfTwo)
    (h : initializeBank el memCellType globalWireRepeaterType routingMode args = some b)
    (hvalid : b.invalid = false) :
    ∃ q matParams, args.clampActive.matParamsWithoutHtree memCellType = some (q, matParams) ∧
      matParams.clampActive.Legal el ∧
      b = { toBankParams := args.restoreMux q, initialized := true, invalid := false,
            mat := initializeMat el matParams } := by
  cases routingMode with
  | nonHTree =>
      obtain ⟨-, hinvalid, -⟩ | ⟨-, ⟨-, rfl⟩ | ⟨q, matParams, hmat, ⟨-, rfl⟩ | ⟨hlegal, rfl⟩⟩⟩ :=
        initializeBankWithoutHtree_cases el memCellType globalWireRepeaterType args
          (Option.some.inj h)
      · rw [hvalid] at hinvalid
        cases hinvalid
      · cases hvalid
      · cases hvalid
      · exact ⟨q, matParams, hmat, initializeMat_invalid_iff.1 hlegal, rfl⟩
  | hTree =>
      obtain ⟨b', hb', rfl⟩ := Option.map_eq_some_iff.1 h
      obtain ⟨s, q, matParams, hs, hmat, hlegal, rfl⟩ := initializeBankWithHtree_valid hb' hvalid
      obtain ⟨r, c, x, y, hgrid⟩ :=
        BankParams.exists_matGrid hrow hcolumn hactiveRow hactiveColumn
      rw [hgrid.matParamsWithHtree_eq hassoc hs] at hmat
      exact ⟨q, matParams, hmat, hlegal, rfl⟩

/-- The mat of any bank: `Mat::Initialize` was called with the arguments of the
closed form, or it was not called, because the bank was rejected before; then the
closed form would have starved the mat, too. -/
theorem initializeBank_mat (hassoc : args.associativity.isPowerOfTwo)
    (hrow : args.numRowMat.isPowerOfTwo) (hcolumn : args.numColumnMat.isPowerOfTwo)
    (hactiveRow : args.numActiveMatPerRow.isPowerOfTwo)
    (hactiveColumn : args.numActiveMatPerColumn.isPowerOfTwo)
    (h : initializeBank el memCellType globalWireRepeaterType routingMode args = some b) :
    (args.Sensed memCellType globalWireRepeaterType routingMode ∧
      ∃ q matParams, args.clampActive.matParamsWithoutHtree memCellType = some (q, matParams) ∧
        b.mat = initializeMat el matParams) ∨
    (b.mat = .fresh ∧ ∀ q matParams,
      args.Sensed memCellType globalWireRepeaterType routingMode →
      args.clampActive.matParamsWithoutHtree memCellType = some (q, matParams) →
        matParams.clampActive.effectiveAddressBit ≤ 0 ∨
          matParams.clampActive.numColumnSelected = 0) := by
  cases routingMode with
  | nonHTree =>
      obtain ⟨hsensed, -, hfresh⟩ |
          ⟨hsensed, ⟨hnone, rfl⟩ | ⟨q, matParams, hmat, ⟨-, rfl⟩ | ⟨-, rfl⟩⟩⟩ :=
        initializeBankWithoutHtree_cases el memCellType globalWireRepeaterType args
          (Option.some.inj h)
      · exact .inr ⟨hfresh, fun q matParams hsensed' => absurd hsensed' hsensed⟩
      · refine .inr ⟨rfl, fun q matParams _ hsome => ?_⟩
        rw [hnone] at hsome
        cases hsome
      · exact .inl ⟨hsensed, q, matParams, hmat, rfl⟩
      · exact .inl ⟨hsensed, q, matParams, hmat, rfl⟩
  | hTree =>
      obtain ⟨b', hb', rfl⟩ := Option.map_eq_some_iff.1 h
      obtain ⟨r, c, x, y, hgrid⟩ :=
        BankParams.exists_matGrid hrow hcolumn hactiveRow hactiveColumn
      obtain ⟨b'', hb'', hcases⟩ := initializeBankWithHtree_cases el memCellType args
      rw [hb'] at hb''
      obtain rfl := Option.some.inj hb''
      obtain ⟨hexternal, rfl⟩ | ⟨hinternal, ⟨hstops, rfl⟩ | ⟨s, hs, hmat⟩⟩ := hcases
      · refine .inr ⟨rfl, fun q matParams hsensed => ?_⟩
        simp [BankParams.Sensed, hexternal] at hsensed
-- a blocked walk: the closed form leaves the mat without address or without data bits
      · exact .inr ⟨rfl, fun q matParams _ hsome => hgrid.starved_of_stopsBlocked hstops hsome⟩
      · rw [hgrid.matParamsWithHtree_eq hassoc hs] at hmat
        obtain ⟨hnone, rfl⟩ | ⟨q, matParams, hsome, rfl⟩ := hmat
        · refine .inr ⟨rfl, fun q matParams _ hsome => ?_⟩
          rw [hnone] at hsome
          cases hsome
        · refine .inl ⟨.inl hinternal, q, matParams, hsome, ?_⟩
          unfold BankWithHtree.arrived
          split
          · rfl
          · rfl

end PowerOfTwo

/-- A valid data array does not spread a set over more rows than it has ways. -/
theorem numRowPerSet_le_of_valid {el : Electrical} {memCellType : MemCellType}
    {globalWireRepeaterType : WireRepeaterType} {routingMode : RoutingMode} {args : BankParams}
    {b : Bank} (hassoc : 0 < args.associativity) (hdata : args.memoryType = .data)
    (h : initializeBank el memCellType globalWireRepeaterType routingMode args = some b)
    (hvalid : b.invalid = false) :
    args.numRowPerSet ≤ args.associativity := by
  have hclamped : args.clampActive.memoryType = .data := hdata
  cases routingMode with
  | nonHTree =>
      obtain ⟨-, hinvalid, -⟩ | ⟨-, ⟨-, rfl⟩ | ⟨q, matParams, hmat, -⟩⟩ :=
        initializeBankWithoutHtree_cases el memCellType globalWireRepeaterType args
          (Option.some.inj h)
      · rw [hvalid] at hinvalid
        cases hinvalid
      · cases hvalid
      · obtain ⟨numDataBit, numWay, hrouted, -⟩ := BankParams.matCall_eq_some hmat
        unfold BankParams.routedWithoutHtree at hrouted
        simp only [hclamped] at hrouted
        split at hrouted
        · cases hrouted
        · rename_i hle
          exact not_lt.1 hle
  | hTree =>
      obtain ⟨b', hb', rfl⟩ := Option.map_eq_some_iff.1 h
      obtain ⟨s, q, matParams, hs, hmat, -⟩ := initializeBankWithHtree_valid hb' hvalid
      obtain ⟨numDataBit, numWay, hrouted, -⟩ := BankParams.matCall_eq_some hmat
      have hbroadcast : s.numDataBroadcastBitToRoute = args.clampActive.numDataBroadcastBit :=
        hs.carries.broadcastBit
      unfold BankParams.routedWithHtree at hrouted
      rw [hbroadcast] at hrouted
      simp only [BankParams.numDataBroadcastBit, hclamped] at hrouted
      split at hrouted
      · cases hrouted
      · rename_i hle
        exact (not_lt.1 hle).trans (Nat.pow_log_le_self 2 hassoc.ne')

/-- With exact integers, a bank that is sensed internally is invalid in both organisations, or
valid in both with the same parameters and the same mat. -/
theorem initializeBank_agree (el : Electrical) (memCellType : MemCellType)
    (globalWireRepeaterType : WireRepeaterType) (args : BankParams)
    (hsense : args.internalSenseAmp = true)
    (hassoc : args.associativity.isPowerOfTwo)
    (hrow : args.numRowMat.isPowerOfTwo) (hcolumn : args.numColumnMat.isPowerOfTwo)
    (hactiveRow : args.numActiveMatPerRow.isPowerOfTwo)
    (hactiveColumn : args.numActiveMatPerColumn.isPowerOfTwo) :
    ∃ b, initializeBankWithHtree el memCellType args = some b ∧
      (b.invalid = true ∧
          (initializeBankWithoutHtree el memCellType globalWireRepeaterType args).invalid = true ∨
        b.invalid = false ∧
          b.toBank = initializeBankWithoutHtree el memCellType globalWireRepeaterType args) := by
  obtain ⟨r, c, x, y, hgrid⟩ :=
    BankParams.exists_matGrid hrow hcolumn hactiveRow hactiveColumn
  obtain ⟨b, hb, hcases⟩ := initializeBankWithHtree_cases el memCellType args
  obtain ⟨b', hb'⟩ :
      ∃ b', initializeBankWithoutHtree el memCellType globalWireRepeaterType args = b' := ⟨_, rfl⟩
  refine ⟨b, hb, ?_⟩
  rw [hb']
  obtain ⟨hsensed, -, -⟩ | ⟨-, hclosed⟩ :=
    initializeBankWithoutHtree_cases el memCellType globalWireRepeaterType args hb'
  · exact absurd (.inl hsense) hsensed
  obtain ⟨hexternal, -⟩ | ⟨-, ⟨hstops, rfl⟩ | ⟨s, hs, hmat⟩⟩ := hcases
  · rw [hsense] at hexternal
    cases hexternal
  · -- the walk is blocked: the closed form calls `Mat::Initialize`, which rejects
    refine .inl ⟨rfl, ?_⟩
    obtain ⟨-, rfl⟩ | ⟨q, matParams, hsome, ⟨-, rfl⟩ | ⟨hvalid, -⟩⟩ := hclosed
    · rfl
    · rfl
    · have hlegal := initializeMat_invalid_iff.1 hvalid
      have haddress := hlegal.addressBit
      have hcolumn := hlegal.numColumn
      have hstarved := hgrid.starved_of_stopsBlocked hstops hsome
      omega
  · rw [hgrid.matParamsWithHtree_eq hassoc hs] at hmat
    obtain ⟨hnone, rfl⟩ | ⟨q, matParams, hsome, rfl⟩ := hmat
    · obtain ⟨-, rfl⟩ | ⟨q, matParams, hsome, -⟩ := hclosed
      · exact .inl ⟨rfl, rfl⟩
      · rw [hnone] at hsome
        cases hsome
    · obtain ⟨hnone, -⟩ | ⟨q', matParams', hsome', hmat⟩ := hclosed
      · rw [hnone] at hsome
        cases hsome
      · rw [hsome] at hsome'
        obtain ⟨rfl, rfl⟩ := Prod.mk.inj (Option.some.inj hsome')
        unfold BankWithHtree.arrived
        obtain ⟨hinvalid | hexternal, rfl⟩ | ⟨hvalid, rfl⟩ := hmat
        · rw [if_pos hinvalid]
          exact .inl ⟨rfl, rfl⟩
        · rw [hsense] at hexternal
          cases hexternal
        · rw [if_neg (by rw [hvalid]; exact Bool.false_ne_true)]
          exact .inr ⟨rfl, rfl⟩

end NVSim
