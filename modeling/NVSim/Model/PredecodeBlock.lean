import NVSim.Model.Decoder

/-!
# Predecoder blocks

A `PredecodeBlock` splits its address bits over 1-2, 2-4 and 3-8 decoders.  Up to three
of their outputs meet in a row decoder of stage 1 (`A`, `B` or `C`), and the outputs of
stage 1 meet in the row decoder of stage 2.  The sub-objects are pointers, `none` being
the null pointer.

What the sub-objects compute is a parameter, `DecoderModels`; the evaluations of the block
run in the order of the source, on the objects themselves.
-/

namespace NVSim

variable {K : Type}

/-- The decoders of stage 0 of a block. -/
structure DecoderCounts where
  numDecoder12 : ℕ
  numDecoder24 : ℕ
  numDecoder38 : ℕ
deriving DecidableEq, Repr

def DecoderCounts.numBasicDecoder (d : DecoderCounts) : ℕ :=
  d.numDecoder12 + d.numDecoder24 + d.numDecoder38

/-- The split of the address bits of a block over its decoders. -/
def decoderCounts (numAddressBit : ℕ) : DecoderCounts :=
  if numAddressBit = 1 then { numDecoder12 := 1, numDecoder24 := 0, numDecoder38 := 0 }
  else
    let numDecoder24 :=
      if numAddressBit % 3 = 2 then 1 else if numAddressBit % 3 = 1 then 2 else 0
    { numDecoder12 := 0
      numDecoder24 := numDecoder24
      numDecoder38 := (numAddressBit - 2 * numDecoder24) / 3 }

/-- The sub-objects of a block and how many of each it has: of a basic decoder several
copies are laid out, and one object stands for all of them. -/
structure PredecodeUnits (Row Basic : Type) where
  numNandInputStage1A : ℕ
  numNandInputStage1B : ℕ
  numNandInputStage1C : ℕ
  numBasicDecoderA1 : ℕ
  numBasicDecoderA2 : ℕ
  rowDecoderStage1A : Option Row
  rowDecoderStage1B : Option Row
  rowDecoderStage1C : Option Row
  rowDecoderStage2 : Option Row
  basicDecoderA1 : Option Basic
  basicDecoderA2 : Option Basic
  basicDecoderB : Option Basic
  basicDecoderC : Option Basic

namespace PredecodeUnits

variable {Row Basic Row' Basic' : Type}

/-- Only null pointers.  The source leaves the counts unset, and does not read them. -/
def empty : PredecodeUnits Row Basic where
  numNandInputStage1A := 0
  numNandInputStage1B := 0
  numNandInputStage1C := 0
  numBasicDecoderA1 := 0
  numBasicDecoderA2 := 0
  rowDecoderStage1A := none
  rowDecoderStage1B := none
  rowDecoderStage1C := none
  rowDecoderStage2 := none
  basicDecoderA1 := none
  basicDecoderA2 := none
  basicDecoderB := none
  basicDecoderC := none

/-- Apply a function to every row decoder and one to every basic decoder. -/
def map (row : Row → Row') (basic : Basic → Basic') (u : PredecodeUnits Row Basic) :
    PredecodeUnits Row' Basic' where
  numNandInputStage1A := u.numNandInputStage1A
  numNandInputStage1B := u.numNandInputStage1B
  numNandInputStage1C := u.numNandInputStage1C
  numBasicDecoderA1 := u.numBasicDecoderA1
  numBasicDecoderA2 := u.numBasicDecoderA2
  rowDecoderStage1A := u.rowDecoderStage1A.map row
  rowDecoderStage1B := u.rowDecoderStage1B.map row
  rowDecoderStage1C := u.rowDecoderStage1C.map row
  rowDecoderStage2 := u.rowDecoderStage2.map row
  basicDecoderA1 := u.basicDecoderA1.map basic
  basicDecoderA2 := u.basicDecoderA2.map basic
  basicDecoderB := u.basicDecoderB.map basic
  basicDecoderC := u.basicDecoderC.map basic

/-- The basic decoders with their numbers of copies, in the order in which the area and
the power are added up. -/
def basicDecoders (u : PredecodeUnits Row Basic) : List (ℕ × Basic) :=
  match u.basicDecoderA1 with
  | none => []
  | some a1 =>
      (u.numBasicDecoderA1, a1) :: (u.basicDecoderA2.toList.map (u.numBasicDecoderA2, ·) ++
        match u.basicDecoderB with
        | none => []
        | some b =>
            (u.numNandInputStage1B, b) :: u.basicDecoderC.toList.map (u.numNandInputStage1C, ·))

/-- The row decoders of stage 1, in the order in which they are added up. -/
def stage1Decoders (u : PredecodeUnits Row Basic) : List Row :=
  match u.rowDecoderStage1A with
  | none => []
  | some a =>
      a :: match u.rowDecoderStage1B with
        | none => []
        | some b => b :: u.rowDecoderStage1C.toList

/-- The row decoder of stage 2, which is looked at only behind a stage 1. -/
def stage2Decoder (u : PredecodeUnits Row Basic) : Option Row :=
  u.rowDecoderStage1A.bind fun _ => u.rowDecoderStage2

end PredecodeUnits

/-! ## Initialisation -/

section Initialisation

variable [Field K] [LinearOrder K] (g : Globals K)

/-- A row decoder of a block. -/
def stageDecoder (numRow : ℕ) (capLoad resLoad : K) (multipleRowPerSet : Bool) : RowDecoder K :=
  initializeRowDecoder g numRow capLoad resLoad multipleRowPerSet .latencyFirst 0

/-- The row decoders of a block.  With more than six basic decoders the source shifts
`numAddressBitStage1A` without having set it: `unset` is what it holds. -/
def initializeStages (unset numAddressBit : ℕ) (capLoad resLoad : K) :
    PredecodeUnits (RowDecoder K) (BasicDecoder K) :=
  let d := decoderCounts numAddressBit
  let numOutputAddressBit := 2 ^ numAddressBit
  if d.numBasicDecoder ≤ 1 then .empty
  else if d.numBasicDecoder ≤ 3 then
    { PredecodeUnits.empty with
      numNandInputStage1A := d.numBasicDecoder
      rowDecoderStage1A := some
        (stageDecoder g numOutputAddressBit capLoad resLoad (d.numBasicDecoder = 3)) }
  else if d.numBasicDecoder ≤ 6 then
    let stage2 := stageDecoder g numOutputAddressBit capLoad resLoad false
    let numNandInputStage1B := d.numBasicDecoder / 2
    let numNandInputStage1A := d.numBasicDecoder - numNandInputStage1B
    let numAddressBitStage1A : ℕ := 2 ^ (3 * numNandInputStage1A - d.numDecoder24)
    let numAddressBitStage1B : ℕ := 2 ^ (3 * numNandInputStage1B)
    { PredecodeUnits.empty with
      numNandInputStage1A := numNandInputStage1A
      numNandInputStage1B := numNandInputStage1B
      rowDecoderStage1A := some (stageDecoder g numAddressBitStage1A
        (numAddressBitStage1B * stage2.capNandInput g) 0 (numNandInputStage1A = 3))
      rowDecoderStage1B := some (stageDecoder g numAddressBitStage1B
        (numAddressBitStage1A * stage2.capNandInput g) 0 (numNandInputStage1B = 3))
      rowDecoderStage2 := some stage2 }
  else
    let stage2 := stageDecoder g numOutputAddressBit capLoad resLoad true
    let numNandInputStage1B : ℕ := if d.numBasicDecoder = 7 then 2 else 3
    let numNandInputStage1C : ℕ := if d.numBasicDecoder = 9 then 3 else 2
    let numAddressBitStage1A : ℕ := unset * 2 ^ (3 * 3 - d.numDecoder24)
    let numAddressBitStage1B : ℕ := if d.numBasicDecoder = 7 then 64 else 512
    let numAddressBitStage1C : ℕ := if d.numBasicDecoder = 9 then 512 else 64
    { (PredecodeUnits.empty : PredecodeUnits (RowDecoder K) (BasicDecoder K)) with
      numNandInputStage1A := 3
      numNandInputStage1B := numNandInputStage1B
      numNandInputStage1C := numNandInputStage1C
      rowDecoderStage1A := some (stageDecoder g numAddressBitStage1A
        ((numAddressBitStage1B * numAddressBitStage1C : ℕ) * stage2.capNandInput g) 0 true)
      rowDecoderStage1B := some (stageDecoder g numAddressBitStage1B
        ((numAddressBitStage1A * numAddressBitStage1C : ℕ) * stage2.capNandInput g) 0
        (numNandInputStage1B = 3))
      rowDecoderStage1C := some (stageDecoder g numAddressBitStage1C
        ((numAddressBitStage1A * numAddressBitStage1B : ℕ) * stage2.capNandInput g) 0
        (numNandInputStage1C = 3))
      rowDecoderStage2 := some stage2 }

/-- The 3-8 decoder in front of a row decoder `B` or `C` of stage 1. -/
def stageBasicDecoder (numNandInput : ℕ) (stage : RowDecoder K) : BasicDecoder K :=
  initializeBasicDecoder g 3 ((if numNandInput = 2 then 8 else 64) * stage.capNandInput g) 0

/-- The basic decoders in front of the row decoders. -/
def addBasicDecoders (numAddressBit : ℕ) (capLoad resLoad : K)
    (u : PredecodeUnits (RowDecoder K) (BasicDecoder K)) :
    PredecodeUnits (RowDecoder K) (BasicDecoder K) :=
  let d := decoderCounts numAddressBit
  let u := { u with
    basicDecoderB := u.rowDecoderStage1B.map (stageBasicDecoder g u.numNandInputStage1B)
    basicDecoderC := u.rowDecoderStage1C.map (stageBasicDecoder g u.numNandInputStage1C) }
  match u.rowDecoderStage1A with
  | none =>
      { u with
        numBasicDecoderA1 := 1
        numBasicDecoderA2 := 0
        basicDecoderA1 := some (initializeBasicDecoder g
          (if d.numDecoder12 = 1 then 1 else if d.numDecoder24 = 1 then 2 else 3) capLoad resLoad)
        basicDecoderA2 := none }
  | some stage =>
      let basicDecoder (bits numCapNand : ℕ) :=
        initializeBasicDecoder g bits (numCapNand * stage.capNandInput g) 0
      if d.numDecoder24 = 0 then
        { u with
          numBasicDecoderA1 := u.numNandInputStage1A
          numBasicDecoderA2 := 0
          basicDecoderA1 := some (basicDecoder 3 (2 ^ (3 * (u.numNandInputStage1A - 1))))
          basicDecoderA2 := none }
      else if d.numDecoder24 = 1 then
        let numBasicDecoderA2 := u.numNandInputStage1A - 1
        { u with
          numBasicDecoderA1 := 1
          numBasicDecoderA2 := numBasicDecoderA2
          basicDecoderA1 := some (basicDecoder 2 (2 ^ (3 * numBasicDecoderA2)))
          basicDecoderA2 := some (basicDecoder 3 (2 ^ (2 + 3 * (numBasicDecoderA2 - 1)))) }
      else if u.numNandInputStage1A = 2 then
        { u with
          numBasicDecoderA1 := 2
          numBasicDecoderA2 := 0
          basicDecoderA1 := some (basicDecoder 2 4)
          basicDecoderA2 := none }
      else
        { u with
          numBasicDecoderA1 := 2
          numBasicDecoderA2 := 1
          basicDecoderA1 := some (basicDecoder 2 32)
          basicDecoderA2 := some (basicDecoder 3 16) }

/-- The sub-objects `PredecodeBlock::Initialize` creates. -/
def predecodeUnits (unset numAddressBit : ℕ) (capLoad resLoad : K) :
    PredecodeUnits (RowDecoder K) (BasicDecoder K) :=
  if numAddressBit = 0 then .empty
  else addBasicDecoders g numAddressBit capLoad resLoad
    (initializeStages g unset numAddressBit capLoad resLoad)

end Initialisation

/-- A predecoder block. -/
structure PredecodeBlock (K : Type) extends FunctionUnit K where
  initialized : Bool
  numAddressBit : ℕ
  capLoad : K
  resLoad : K
  units : PredecodeUnits (Component (RowDecoder K) K) (Component (BasicDecoder K) K)
  rampOutput : K

/-- `PredecodeBlock::Initialize`; `none` is its `exit(-1)`. -/
def initializePredecodeBlock [Field K] [LinearOrder K] (g : Globals K) (unset numAddressBit : ℕ)
    (capLoad resLoad : K) : Option (PredecodeBlock K) :=
  if numAddressBit > 27 then none
  else some
    { toFunctionUnit := .fresh
      initialized := true
      numAddressBit := numAddressBit
      capLoad := capLoad
      resLoad := resLoad
      units := (predecodeUnits g unset numAddressBit capLoad resLoad).map .initialized .initialized
      rampOutput := 0 }

namespace PredecodeBlock

/-- The sub-objects of a block as their `Initialize` left them, without what the
evaluations stored in them. -/
def layout (b : PredecodeBlock K) : PredecodeUnits (RowDecoder K) (BasicDecoder K) :=
  b.units.map Component.part Component.part

/-- What is known of a block after `Initialize`. -/
theorem initializePredecodeBlock_layout [Field K] [LinearOrder K] {g : Globals K}
    {unset numAddressBit : ℕ} {capLoad resLoad : K} {b : PredecodeBlock K}
    (hInit : initializePredecodeBlock g unset numAddressBit capLoad resLoad = some b) :
    numAddressBit ≤ 27 ∧ b.initialized = true ∧ b.numAddressBit = numAddressBit ∧
      b.layout = predecodeUnits g unset numAddressBit capLoad resLoad := by
  unfold initializePredecodeBlock at hInit
  split at hInit
  · cases hInit
  · cases hInit
    refine ⟨by omega, rfl, rfl, ?_⟩
    simp only [layout, PredecodeUnits.map, Option.map_map]
    simp [Function.comp_def, Component.initialized]

/-! ## Area -/

variable [Field K] [LinearOrder K] (m : DecoderModels K)

/-- An object after its `CalculateArea`. -/
def sized {Part : Type} (model : Part → K × K) (c : Component Part K) : Component Part K :=
  { c with
    height := (model c.part).1
    width := (model c.part).2
    area := (model c.part).1 * (model c.part).2 }

/-- `PredecodeBlock::CalculateArea`. -/
def calculateArea (b : PredecodeBlock K) : PredecodeBlock K :=
  if b.numAddressBit = 0 then { b with height := 0, width := 0, area := 0 }
  else
    let u := b.units.map (sized m.rowArea) (sized m.basicArea)
    let basicWidth := u.basicDecoders.foldl (fun w d => max w d.2.width) 0
    let basicHeight := (u.basicDecoders.map fun d => (d.1 : K) * d.2.height).sum
    let stage1Width := u.stage1Decoders.foldl (fun w d => max w d.width) 0
    let stage1Height := (u.stage1Decoders.map fun d => d.height).sum
    let stages := u.stage2Decoder.elim (stage1Height, stage1Width) fun d =>
      (max stage1Height d.height, stage1Width + d.width)
    let width := basicWidth + stages.2
    let height := max basicHeight stages.1
    { b with units := u, height := height, width := width, area := width * height }

/-! ## Latency -/

/-- A path through the block: its delay, the ramp at its end, and the row decoders it
passed, which keep the latencies they computed last. -/
structure PathRun (K : Type) where
  delay : K
  rampOutput : K
  stage1 : Option (Component (RowDecoder K) K)
  stage2 : Option (Component (RowDecoder K) K)

/-- The stages behind a basic decoder, each driven by the ramp of the one before it.
`delay` is what the path has added up so far. -/
def throughStages (delay ramp : K) :
    (stage1 stage2 : Option (Component (RowDecoder K) K)) → PathRun K
  | none, stage2 => ⟨delay, ramp, none, stage2⟩
  | some d, none =>
      let d := d.timed (m.rowLatency d.part ramp)
      ⟨delay + d.readLatency, d.rampOutput, some d, none⟩
  | some d, some e =>
      let d := d.timed (m.rowLatency d.part ramp)
      let e := e.timed (m.rowLatency e.part d.rampOutput)
      ⟨delay + d.readLatency + e.readLatency, e.rampOutput, some d, some e⟩

/-- The path behind a basic decoder; without one there is no path, and its delay is zero.
`delay` is the latency that the source adds up for the basic decoder. -/
def alongPath (basic : Option (Component (BasicDecoder K) K)) (delay : K)
    (stage1 stage2 : Option (Component (RowDecoder K) K)) : PathRun K :=
  match basic with
  | none => ⟨0, 0, stage1, stage2⟩
  | some d => throughStages m delay d.rampOutput stage1 stage2

/-- The latency an object holds. -/
def latencyOf (c : Option (Component (BasicDecoder K) K)) : K := c.elim 0 fun c => c.readLatency

/-- `PredecodeBlock::CalculateLatency`. -/
def calculateLatency (rampInput : K) (b : PredecodeBlock K) : PredecodeBlock K :=
  if b.numAddressBit = 0 then
    { b with readLatency := 0, writeLatency := 0, rampOutput := rampInput }
  else
    let u := b.units.map id fun d => d.timed (m.basicLatency d.part rampInput)
    let pathA1 := alongPath m u.basicDecoderA1 (latencyOf u.basicDecoderA1)
      u.rowDecoderStage1A u.rowDecoderStage2
    -- `delayA2 += basicDecoderA1->readLatency`
    let pathA2 := alongPath m u.basicDecoderA2 (latencyOf u.basicDecoderA1)
      pathA1.stage1 pathA1.stage2
    let pathB := alongPath m u.basicDecoderB (latencyOf u.basicDecoderB)
      u.rowDecoderStage1B pathA2.stage2
    let pathC := alongPath m u.basicDecoderC (latencyOf u.basicDecoderC)
      u.rowDecoderStage1C pathB.stage2
    let readLatency := max (max (max (max 0 pathA1.delay) pathA2.delay) pathB.delay) pathC.delay
    { b with
      units := { u with
        rowDecoderStage1A := pathA2.stage1
        rowDecoderStage1B := pathB.stage1
        rowDecoderStage1C := pathC.stage1
        rowDecoderStage2 := pathC.stage2 }
      readLatency := readLatency
      writeLatency := readLatency
      rampOutput := max (max (max (max 0 pathA1.rampOutput) pathA2.rampOutput) pathB.rampOutput)
        pathC.rampOutput }

/-! ## Power -/

/-- An object after its `CalculatePower`. -/
def powered {Part : Type} (model : Part → K × K) (c : Component Part K) : Component Part K :=
  c.powered (model c.part).1 (model c.part).2 (model c.part).2

/-- `PredecodeBlock::CalculatePower`. -/
def calculatePower (b : PredecodeBlock K) : PredecodeBlock K :=
  if b.numAddressBit = 0 then
    { b with leakage := 0, readDynamicEnergy := 0, writeDynamicEnergy := 0 }
  else
    let u := { b.units.map (powered m.rowPower) (powered m.basicPower) with
      -- the power of stage 2 is added without its `CalculatePower`
      rowDecoderStage2 := b.units.rowDecoderStage2 }
    let total (measure : FunctionUnit K → K) : K :=
      (u.basicDecoders.map fun d => measure d.2.toFunctionUnit).sum +
        (u.stage1Decoders.map fun d => measure d.toFunctionUnit).sum +
        u.stage2Decoder.elim 0 fun d => measure d.toFunctionUnit
    { b with
      units := u
      leakage := total FunctionUnit.leakage
      readDynamicEnergy := total FunctionUnit.readDynamicEnergy
      writeDynamicEnergy := total FunctionUnit.readDynamicEnergy }

end PredecodeBlock

end NVSim
