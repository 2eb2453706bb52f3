import NVSim.Model.SubArrayCircuit

/-!
# The evaluations of a subarray

`CalculateArea`, `CalculateLatency` and `CalculatePower` of an accepted subarray.
-/

namespace NVSim

variable {K : Type} [Field K] [LinearOrder K]

/-- `MemCell::CalculateReadPower`. -/
def Cell.calculateReadPower (g : Globals K) : K :=
  if g.cell.readPower = 0 then
    if g.cell.readMode then
      if g.cell.readVoltage = 0 then g.tech.vdd * g.cell.readCurrent
      else if g.cell.readCurrent = 0 then
        let resInSerial := g.libm.sqrt (g.cell.resistanceOn * g.cell.resistanceOff)
        g.tech.vdd * ((g.cell.readVoltage - g.cell.voltageDropAccessDevice) /
          (g.cell.resistanceOn + resInSerial))
      else -1
    else
      g.tech.vdd * ((g.cell.readVoltage - g.cell.voltageDropAccessDevice) / g.cell.resistanceOn)
  else -1

/-- The argument of a logarithm in a delay, as a quotient. -/
structure LogArgument (K : Type) where
  numerator : K
  denominator : K
deriving DecidableEq, Repr

def LogArgument.value (x : LogArgument K) : K := x.numerator / x.denominator

namespace SubArrayCircuit

variable (g : Globals K) (c : SubArrayCircuit K)

/-! ## Area -/

/-- The height and the width that `CalculateArea` computes. -/
def size : K × K :=
  let rowDecoder := c.rowDecoder.part.area g
  let precharger := c.precharger.part.area g
  let senseAmp := c.senseAmp.part.area g
  let rowWidth :=
    -- assume magic folding
    if rowDecoder.1 > c.lenBitline then rowDecoder.1 * rowDecoder.2 / c.lenBitline
    else rowDecoder.2
  let prechargerHeight :=
    if precharger.2 > c.lenWordline then precharger.1 * precharger.2 / precharger.2
    else precharger.1
  let senseAmpHeight :=
    if c.internalSenseAmp ∧ ¬ senseAmp.2 > c.lenWordline * 1.001 then senseAmp.1 else 0
  let addHeight := prechargerHeight + (c.bitlineMux.part.area g).1 + senseAmpHeight +
    (c.senseAmpMuxLev1.part.area g).1 + (c.senseAmpMuxLev2.part.area g).1
  let addWidth := max (max (max rowWidth (c.bitlineMuxDecoder.part.area g).2)
    (c.senseAmpMuxLev1Decoder.part.area g).2) (c.senseAmpMuxLev2Decoder.part.area g).2
  (c.lenBitline + addHeight, c.lenWordline + addWidth)

/-- `SubArray::CalculateArea`. -/
def calculateArea : SubArrayCircuit K :=
  let size := c.size g
  { c with height := size.1, width := size.2, area := size.2 * size.1 }

/-! ## Latency -/

/-- The time constant of a bit line that is charged or discharged through a resistance. -/
def lineTau (resistance : K) : K :=
  let capMux := c.bitlineMux.part.capForPreviousDelayCalculation g
  resistance * (c.capCellAccess + c.capBitline + capMux) +
    c.resBitline * (capMux + c.capBitline / 2)

/-- The argument for an SRAM cell: one signal raises and the other drops. -/
def argumentSram : LogArgument K :=
  ⟨c.voltagePrecharge, c.voltagePrecharge - c.senseVoltage / 2⟩

/-- The argument for a resistive cell of low resistance. -/
def argumentOn (senseVoltage : K) : LogArgument K :=
  ⟨c.voltagePrecharge - c.voltageMemCellOn, c.voltagePrecharge - c.voltageMemCellOn - senseVoltage⟩

/-- The argument for a resistive cell of high resistance. -/
def argumentOff (senseVoltage : K) : LogArgument K :=
  ⟨c.voltageMemCellOff - c.voltagePrecharge,
    c.voltageMemCellOff - c.voltagePrecharge - senseVoltage⟩

/-- The bitline delays, for the ramp at the end of the row decoder. -/
def bitline (rowRamp : K) : SubArrayElectrics K :=
  match g.cell.memCellType with
  | .sram =>
      let resPullDown := g.tech.onResistance (g.cell.widthSRAMCellNMOS * g.tech.featureSize) .nmos
        g.inputParameter.temperature
      let tau := c.lineTau g (c.resCellAccess + resPullDown) * g.libm.log c.argumentSram.value
      let beta := 1 / (resPullDown * g.tech.transconductance g.widthAccess .nmos)
      { c.toSubArrayElectrics with bitlineDelay := (g.horowitz tau beta rowRamp).1 }
  | .dram | .eDRAM =>
      let capMux := c.bitlineMux.part.capForPreviousDelayCalculation g
      let capCell := c.capCellAccess + g.cell.capDRAMCell
      let cap := capCell * (c.capBitline + capMux) / (capCell + c.capBitline + capMux)
      let tau := 2.3 * (c.resBitline + c.resCellAccess) * cap
      { c.toSubArrayElectrics with bitlineDelay := (g.horowitz tau 0 rowRamp).1 }
  | .mram | .pcram | .memristor | .fbram =>
      if g.cell.readMode then
        let resOn := if g.cell.readVoltage = 0 then c.resMemCellOn else c.resEquivalentOn
        let resOff := if g.cell.readVoltage = 0 then c.resMemCellOff else c.resEquivalentOff
        let bitlineDelayOn := c.lineTau g resOn * g.libm.log (c.argumentOn c.senseVoltage).value
        let bitlineDelayOff := c.lineTau g resOff * g.libm.log (c.argumentOff c.senseVoltage).value
        { c.toSubArrayElectrics with
          bitlineDelayOn := bitlineDelayOn
          bitlineDelayOff := bitlineDelayOff
          bitlineDelay := max bitlineDelayOn bitlineDelayOff }
      else
        let tau := c.resBitline * c.capBitline / 2 * (c.resMemCellOff + c.resBitline / 3) /
          (c.resMemCellOff + c.resBitline)
        { c.toSubArrayElectrics with bitlineDelay := (g.horowitz tau 0 rowRamp).1 }
  | .slcNAND =>
      let resPullDown :=
        g.tech.onResistance g.tech.featureSize .nmos g.inputParameter.temperature *
          (g.pageCount + 2 : ℕ)
      let tau := c.lineTau g resPullDown *
        g.libm.log (c.voltagePrecharge / (c.voltagePrecharge - c.senseVoltage))
      let beta := 1 / (resPullDown * g.tech.transconductance g.tech.featureSize .nmos)
      { c.toSubArrayElectrics with
        bitlineDelay := max (g.horowitz tau beta rowRamp).1 (tau * 20) }
  | .mlcNAND => c.toSubArrayElectrics

/-- `MAX(rowDecoder.writeLatency, columnDecoderLatency + chargeLatency)`. -/
def writeStart : K := max c.rowDecoder.writeLatency (c.columnDecoderLatency + c.chargeLatency)

/-- The latencies of a SET and of a RESET, which take place after both addresses are
decoded. -/
def addPulses : SubArrayCircuit K :=
  { c with
    resetLatency := c.writeStart + g.cell.resetPulse
    setLatency := c.writeStart + g.cell.setPulse
    writeLatency := c.writeStart + max g.cell.resetPulse g.cell.setPulse }

/-- The write latencies. -/
def addWriteLatency : SubArrayCircuit K :=
  match g.cell.memCellType with
  | .sram | .dram | .eDRAM => { c with writeLatency := c.readLatency }
  | .pcram => if g.inputParameter.writeScheme = .writeAndVerify then c else c.addPulses g
  | .fbram => c.addPulses g
  | .mram | .memristor =>
      match g.cell.accessType with
      | .diodeAccess | .noneAccess =>
          let start :=
            match g.inputParameter.writeScheme with
            | .eraseBeforeReset | .eraseBeforeSet => max c.rowDecoder.writeLatency c.chargeLatency
            | _ => c.writeStart
          { c with
            writeLatency := start + c.chargeLatency + (g.cell.resetPulse + g.cell.setPulse) }
      | .cmosAccess | .bjtAccess => c.addPulses g
  | .slcNAND =>
      let start := max c.rowDecoder.readLatency (c.columnDecoderLatency + c.chargeLatency)
      { c with
        resetLatency := start + g.cell.flashEraseTime
        setLatency := start + g.cell.flashProgramTime
        writeLatency := start + g.cell.flashProgramTime }
  | .mlcNAND => c

/-- The decoders and the precharger after their `CalculateLatency`, and the latencies that
do not depend on the cell. -/
def timedDecoders (rampInput : K) : SubArrayCircuit K :=
  let bitlineMuxDecoder := c.bitlineMuxDecoder.timed (c.bitlineMuxDecoder.part.latency g rampInput)
  let senseAmpMuxLev1Decoder :=
    c.senseAmpMuxLev1Decoder.timed (c.senseAmpMuxLev1Decoder.part.latency g rampInput)
  let senseAmpMuxLev2Decoder :=
    c.senseAmpMuxLev2Decoder.timed (c.senseAmpMuxLev2Decoder.part.latency g rampInput)
  let capPassTransistor := c.bitlineMux.part.capNMOSPassTransistor g +
    c.senseAmpMuxLev1.part.capNMOSPassTransistor g + c.senseAmpMuxLev2.part.capNMOSPassTransistor g
  let resPassTransistor := c.bitlineMux.part.resNMOSPassTransistor g +
    c.senseAmpMuxLev1.part.resNMOSPassTransistor g + c.senseAmpMuxLev2.part.resNMOSPassTransistor g
  let tauChargeLatency := resPassTransistor * (capPassTransistor + c.capBitline) +
    c.resBitline * c.capBitline / 2
  { c with
    precharger := c.precharger.timed (c.precharger.part.latency g rampInput)
    rowDecoder := c.rowDecoder.timed (c.rowDecoder.part.latency g rampInput)
    bitlineMuxDecoder := bitlineMuxDecoder
    senseAmpMuxLev1Decoder := senseAmpMuxLev1Decoder
    senseAmpMuxLev2Decoder := senseAmpMuxLev2Decoder
    columnDecoderLatency := max (max bitlineMuxDecoder.readLatency
      senseAmpMuxLev1Decoder.readLatency) senseAmpMuxLev2Decoder.readLatency
    chargeLatency := (g.horowitz tauChargeLatency 0 (10 ^ 20)).1 }

/-- A multiplexer after its `CalculateLatency`, which leaves the output ramp. -/
def timedMux (m : Component (Mux K) K) : Component (Mux K) K :=
  m.timed (m.part.latency g, m.rampOutput)

/-- The column circuits after their `CalculateLatency`, and the read latency.  Without
bitline multiplexers (`DRAM`) that one is not evaluated. -/
def addReadLatency : SubArrayCircuit K :=
  let decoderLatency := max c.rowDecoder.readLatency c.columnDecoderLatency
  let bitlineMux := if g.cell.memCellType.isDram then c.bitlineMux else timedMux g c.bitlineMux
  let senseAmp :=
    if c.internalSenseAmp then c.senseAmp.timed (c.senseAmp.part.latency g, c.senseAmp.rampOutput)
    else c.senseAmp
  let senseAmpMuxLev1 := timedMux g c.senseAmpMuxLev1
  let senseAmpMuxLev2 := timedMux g c.senseAmpMuxLev2
  { c with
    bitlineMux := bitlineMux
    senseAmp := senseAmp
    senseAmpMuxLev1 := senseAmpMuxLev1
    senseAmpMuxLev2 := senseAmpMuxLev2
    readLatency := decoderLatency + c.bitlineDelay +
      (if g.cell.memCellType.isDram then 0 else bitlineMux.readLatency) + senseAmp.readLatency +
      senseAmpMuxLev1.readLatency + senseAmpMuxLev2.readLatency }

/-- `SubArray::CalculateLatency`. -/
def calculateLatency (rampInput : K) : SubArrayCircuit K :=
  let c := c.timedDecoders g rampInput
  if g.cell.memCellType = .mlcNAND then c
  else
    let c := { c with toSubArrayElectrics := c.bitline g c.rowDecoder.rampOutput }
    (c.addReadLatency g).addWriteLatency g

/-! ## Power -/

/-- The components after their `CalculatePower`. -/
def poweredComponents : SubArrayCircuit K :=
  let decoder (d : Component (RowDecoder K) K) : Component (RowDecoder K) K :=
    d.powered (d.part.power g).1 (d.part.power g).2 (d.part.power g).2
  let mux (m : Component (Mux K) K) : Component (Mux K) K :=
    m.powered 0 (m.part.dynamicEnergy g) (m.part.dynamicEnergy g)
  { c with
    precharger := c.precharger.powered (c.precharger.part.power g).1 (c.precharger.part.power g).2 0
    rowDecoder := decoder c.rowDecoder
    bitlineMuxDecoder := decoder c.bitlineMuxDecoder
    senseAmpMuxLev1Decoder := decoder c.senseAmpMuxLev1Decoder
    senseAmpMuxLev2Decoder := decoder c.senseAmpMuxLev2Decoder
    bitlineMux := mux c.bitlineMux
    senseAmp :=
      if c.internalSenseAmp then
        c.senseAmp.powered (c.senseAmp.part.power g).1 (c.senseAmp.part.power g).2 0
      else c.senseAmp
    senseAmpMuxLev1 := mux c.senseAmpMuxLev1
    senseAmpMuxLev2 := mux c.senseAmpMuxLev2 }

/-- The capacitance of a bit line with a cell and its multiplexer. -/
def capLine : K :=
  c.capCellAccess + c.capBitline + c.bitlineMux.part.capForPreviousPowerCalculation g

/-- The energy per bit of a SET or a RESET, which charges the bit line. -/
def energyPerBit (mode : Bool) (voltage energy : K) : K :=
  energy + c.capLine g *
    (if mode then voltage * voltage else g.tech.vdd * g.tech.vdd)

/-- The energy of the selected columns. -/
def columnEnergy (energyPerBit : K) : K :=
  energyPerBit * c.numColumn / c.muxSenseAmp / c.muxOutputLev1 / c.muxOutputLev2

/-- The write energies of resistive cells, from the two energies of the selected columns. -/
def addCellEnergy (reset set : K) : SubArrayCircuit K :=
  match g.cell.memCellType with
  | .pcram =>
      if g.inputParameter.writeScheme = .writeAndVerify then c
      else
        let reset := reset / shaperEfficiencyConservative
        let set := set / shaperEfficiencyConservative
        { c with
          cellResetEnergy := reset
          cellSetEnergy := set
          writeDynamicEnergy := max reset set }
  | .fbram =>
      let reset := reset / shaperEfficiencyAggressive
      let set := set / shaperEfficiencyAggressive
      { c with cellResetEnergy := reset, cellSetEnergy := set, writeDynamicEnergy := max reset set }
  | _ =>
      let erases := g.inputParameter.writeScheme = .eraseBeforeReset ∨
        g.inputParameter.writeScheme = .eraseBeforeSet
      let both := (g.cell.accessType = .diodeAccess ∨ g.cell.accessType = .noneAccess) ∧ erases
      { c with
        cellResetEnergy := reset / shaperEfficiencyAggressive
        cellSetEnergy := set / shaperEfficiencyAggressive
        writeDynamicEnergy :=
          (if both then reset + set else max reset set) / shaperEfficiencyAggressive }

/-- The read energy of the bit lines of resistive cells. -/
def resistiveReadEnergy : K :=
  if g.cell.readMode then
    c.capLine g * (c.voltagePrecharge * c.voltagePrecharge -
      c.voltageMemCellOn * c.voltageMemCellOn) * c.numColumn
  else
    let resMux := c.bitlineMux.part.resNMOSPassTransistor g
    let resPath := resMux + c.resBitline + c.resMemCellOn
    let vpreMin := g.cell.readVoltage * resMux / resPath
    let vpreMax := g.cell.readVoltage * (resMux + c.resBitline) / resPath
    (c.capCellAccess * vpreMax * vpreMax +
      c.bitlineMux.part.capForPreviousPowerCalculation g * vpreMin * vpreMin +
      c.capBitline * (vpreMax * vpreMax + vpreMin * vpreMin + vpreMax * vpreMin) / 3) * c.numColumn

/-- The energies and the leakage of the cells of flash memory. -/
def addFlashPower : SubArrayCircuit K :=
  let vdd := g.tech.vdd
  let unselected : K := ((c.numRow / g.pageCount * (g.pageCount + 2) : ℕ) : K)
  let wordline := c.rowDecoder.readDynamicEnergy
  let pass := wordline / vdd / vdd * g.cell.flashPassVoltage * g.cell.flashPassVoltage *
    (unselected - 1)
  let setWordline := wordline + pass +
    wordline / vdd / vdd * g.cell.flashProgramVoltage * g.cell.flashProgramVoltage
  let resetWordline := wordline / vdd / vdd * (g.cell.flashEraseVoltage * 0.8) *
    (g.cell.flashEraseVoltage * 0.8) * (unselected - g.pageCount)
  let cellArea := g.cell.area * g.tech.featureSize * g.tech.featureSize
  let set := c.capLine g * g.cell.flashProgramVoltage * g.cell.flashProgramVoltage * c.numColumn +
    deltaVTh * tunnelCurrentFlow * cellArea * g.cell.flashProgramTime * c.numColumn
  let eraseVoltage := g.cell.flashEraseVoltage - g.tech.buildInPotential
  let reset := c.capLine g * eraseVoltage * eraseVoltage * ((c.numColumn : K) + 1) +
    g.tech.capJunction * cellArea * g.inputParameter.flashBlockSize *
      g.cell.flashEraseVoltage * g.cell.flashEraseVoltage
  { c with
    readDynamicEnergy := c.capLine g * c.voltagePrecharge * c.voltagePrecharge * c.numColumn
    setDynamicEnergy := set
    resetDynamicEnergy := reset
    writeDynamicEnergy := (set + reset / g.pageCount) / 2
    leakage := 0
    rowDecoder := { c.rowDecoder with
      readDynamicEnergy := pass
      setDynamicEnergy := setWordline
      resetDynamicEnergy := resetWordline
      -- the average energy per page
      writeDynamicEnergy := (setWordline + resetWordline / g.pageCount) / 2 } }

/-- The energies and the leakage of the cells. -/
def addCellPower : SubArrayCircuit K :=
  match g.cell.memCellType with
  | .sram =>
      let bitlineEnergy := c.capLine g * c.voltagePrecharge * c.voltagePrecharge
      let leakage :=
        g.tech.gateLeakage .inv 1 (g.cell.widthSRAMCellNMOS * g.tech.featureSize)
            (g.cell.widthSRAMCellPMOS * g.tech.featureSize) g.inputParameter.temperature *
          g.tech.vdd * 2 +
        g.tech.gateLeakage .inv 1 g.widthAccess 0 g.inputParameter.temperature * g.tech.vdd
      { c with
        readDynamicEnergy := bitlineEnergy * c.numColumn
        writeDynamicEnergy := c.columnEnergy bitlineEnergy
        leakage := leakage * (c.numRow * c.numColumn : ℕ) }
  | .dram | .eDRAM =>
      let read := c.capLine g * c.senseVoltage * g.tech.vdd * c.numColumn
      let writeVoltage := g.cell.resetVoltage
      { c with
        readDynamicEnergy := read
        writeDynamicEnergy :=
          (c.capBitline + c.bitlineMux.part.capForPreviousPowerCalculation g) * writeVoltage *
            writeVoltage * c.numColumn
        leakage := read / dramRefreshPeriod * c.numRow }
  | .mram | .pcram | .memristor | .fbram =>
      let readPower :=
        if g.cell.readPower = 0 then Cell.calculateReadPower g else g.cell.readPower
      -- `cell->CalculateWriteEnergy()`
      let cell := g.cell.toMemCell.calculateWriteEnergy g.tech.vdd
      let c := { c with
        readDynamicEnergy := c.resistiveReadEnergy g
        -- twice because of the reference cell
        cellReadEnergy :=
          2 * readPower * c.senseAmp.readLatency * (c.toSubArray.numSelectedColumn : ℕ) }
      let c := c.addCellEnergy g
        (c.columnEnergy (c.energyPerBit g cell.resetMode cell.resetVoltage cell.resetEnergy))
        (c.columnEnergy (c.energyPerBit g cell.setMode cell.setVoltage cell.setEnergy))
      { c with leakage := 0 }
  | .slcNAND => c.addFlashPower g
  | .mlcNAND => c

/-- In a cache whose ways are accessed together, the write energies are those of one way. -/
def divideByWays : SubArrayCircuit K :=
  if g.inputParameter.designTarget = .cache ∧
      g.inputParameter.cacheAccessMode ≠ .sequentialAccessMode then
    let ways : K := g.inputParameter.associativity
    { c with
      cellResetEnergy := c.cellResetEnergy / ways
      cellSetEnergy := c.cellSetEnergy / ways
      writeDynamicEnergy := c.writeDynamicEnergy / ways
      resetDynamicEnergy := c.resetDynamicEnergy / ways
      setDynamicEnergy := c.setDynamicEnergy / ways }
  else c

/-- The write energy of the multiplexers and the sense amplifiers. -/
def columnWriteEnergy : K :=
  c.bitlineMux.writeDynamicEnergy + c.senseAmp.writeDynamicEnergy +
    c.senseAmpMuxLev1.writeDynamicEnergy + c.senseAmpMuxLev2.writeDynamicEnergy

/-- The write energy of the column circuits and their decoders. -/
def peripheralWriteEnergy : K :=
  c.bitlineMuxDecoder.writeDynamicEnergy + c.senseAmpMuxLev1Decoder.writeDynamicEnergy +
    c.senseAmpMuxLev2Decoder.writeDynamicEnergy + c.columnWriteEnergy

/-- The energies and leakages of the components are added. -/
def addComponentPower : SubArrayCircuit K :=
  let set := c.setDynamicEnergy + (c.cellSetEnergy + c.rowDecoder.setDynamicEnergy +
    c.peripheralWriteEnergy)
  let accessEnergy :=
    if g.cell.accessType = .diodeAccess ∨ g.cell.accessType = .noneAccess then c.columnWriteEnergy
    else 0
  { c with
    readDynamicEnergy := c.readDynamicEnergy + (c.cellReadEnergy + c.rowDecoder.readDynamicEnergy +
      c.bitlineMuxDecoder.readDynamicEnergy + c.senseAmpMuxLev1Decoder.readDynamicEnergy +
      c.senseAmpMuxLev2Decoder.readDynamicEnergy + c.precharger.readDynamicEnergy +
      c.bitlineMux.readDynamicEnergy + c.senseAmp.readDynamicEnergy +
      c.senseAmpMuxLev1.readDynamicEnergy + c.senseAmpMuxLev2.readDynamicEnergy)
    writeDynamicEnergy := c.writeDynamicEnergy +
      (c.rowDecoder.writeDynamicEnergy + c.peripheralWriteEnergy) + accessEnergy
    setDynamicEnergy := set
    -- `resetDynamicEnergy += setDynamicEnergy + ...`, after the SET energy was added up
    resetDynamicEnergy := c.resetDynamicEnergy + (set + c.rowDecoder.resetDynamicEnergy +
      c.peripheralWriteEnergy)
    leakage := c.leakage + (c.rowDecoder.leakage + c.bitlineMuxDecoder.leakage +
      c.senseAmpMuxLev1Decoder.leakage + c.senseAmpMuxLev2Decoder.leakage + c.precharger.leakage +
      c.bitlineMux.leakage + c.senseAmp.leakage + c.senseAmpMuxLev1.leakage +
      c.senseAmpMuxLev2.leakage) }

/-- `SubArray::CalculatePower`. -/
def calculatePower : SubArrayCircuit K :=
  (((c.poweredComponents g).addCellPower g).divideByWays g).addComponentPower g

end SubArrayCircuit

/-- The measures of a new subarray object after `Initialize`, `CalculateLatency` and
`CalculatePower`; `none` is the `exit(-1)` of `Initialize`. -/
def evaluateSubArray (g : Globals K) (memory : SubArrayElectrics K) (a : SubArray)
    (rampInput : K) : Option (FunctionUnit K) :=
  match initializeSubArray g memory a with
  | .error .exit => none
  | .error (.invalid false) => some .fresh
  | .error (.invalid true) =>
      some { (FunctionUnit.fresh : FunctionUnit K) with
        readLatency := worstCase
        writeLatency := worstCase
        readDynamicEnergy := worstCase
        writeDynamicEnergy := worstCase
        leakage := worstCase }
  | .ok c => some ((c.calculateLatency g rampInput).calculatePower g).toFunctionUnit

end NVSim
