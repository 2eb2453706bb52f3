import Mathlib.Analysis.Real.Sqrt
import NVSim.Input.Reading
import NVSim.Library.Footprint
import NVSim.Model.CellFile

/-!
# The order of the lines of a cell file

Every option has properties of its own, but some handlers look at others: the area, the type
of the cell, its access device, and the word that a line before left in `tmp`.  So what a
file means depends on the order of its lines, unless those handlers happen to have no effect.
-/

namespace NVSim

open Library

/-! ## What the handlers write -/

/-- The properties of a cell. -/
inductive CellTarget
  | word (w : CellWord) | processNode | stitching | number (n : CellNumber)
deriving DecidableEq

/-- The values of a property. -/
def CellTarget.Value (K : Type) : CellTarget → Type
  | word .memCellType => MemCellType
  | word .accessType => CellAccessType
  | word (.flag _) => Bool
  | processNode => ℤ
  | stitching => ℤ
  | number _ => K

/-- The properties that a handler may write. -/
def CellAction.writes : CellAction → List CellTarget
  | word w => [.word w]
  | processNode => [.processNode]
  | number field _ _ => [.number field]
  | copied field copy => [.number field, .number copy]
  | aspectRatio =>
      [.number .aspectRatio, .number .heightInFeatureSize, .number .widthInFeatureSize]

/-- The properties that a line may write. -/
def lineWrites (line : List Char) : Set CellTarget :=
  { t | ∃ o, cellOption line = some o ∧ t ∈ o.action.writes }

theorem mem_cellOptions {line : List Char} {o : CellOption} (h : cellOption line = some o) :
    o ∈ cellOptions :=
  List.mem_of_find?_eq_some h

/-- Only `resistanceOn` and `resistanceOff` are written under two keys. -/
theorem eq_of_mem_writes {o o' : CellOption} (ho : o ∈ cellOptions) (ho' : o' ∈ cellOptions)
    {t : CellTarget} (h : t ∈ o.action.writes) (h' : t ∈ o'.action.writes) :
    o = o' ∨ t = .number .resistanceOn ∨ t = .number .resistanceOff := by
  have hfind : ∀ o ∈ cellOptions, ∀ t ∈ o.action.writes,
      cellOptions.find? (fun p => t ∈ p.action.writes) = some o ∨
        t = .number .resistanceOn ∨ t = .number .resistanceOff := by
    decide
  rcases hfind o ho t h with heq | hres
  · rcases hfind o' ho' t h' with heq' | hres
    · exact Or.inl (Option.some.inj (heq.symm.trans heq'))
    · exact Or.inr hres
  · exact Or.inr hres

namespace CellObject

variable {K : Type}

/-- The value of a property. -/
def get : (t : CellTarget) → CellObject K → t.Value K
  | .word .memCellType, cell => cell.memCellType
  | .word .accessType, cell => cell.accessType
  | .word (.flag f), cell => cell.flag f
  | .processNode, cell => cell.processNode
  | .stitching, cell => cell.stitching
  | .number n, cell => cell.number n

/-- A cell is given by its properties. -/
theorem ext_get {cell cell' : CellObject K} (h : ∀ t, cell.get t = cell'.get t) :
    cell = cell' := by
  ext1
  · exact h (.word .memCellType)
  · exact h (.word .accessType)
  · exact funext fun f => h (.word (.flag f))
  · exact h .processNode
  · exact h .stitching
  · exact funext fun n => h (.number n)

theorem get_setNumber_of_ne (cell : CellObject K) {field : CellNumber} (value : K)
    {t : CellTarget} (h : t ≠ .number field) : (cell.setNumber field value).get t = cell.get t := by
  match t with
  | .word .memCellType | .word .accessType | .word (.flag _) | .processNode | .stitching => rfl
  | .number n => exact Function.update_of_ne (fun hn => h (congrArg _ hn)) _ _

@[simp] theorem number_setNumber (cell : CellObject K) (field : CellNumber) (value : K) :
    (cell.setNumber field value).number field = value :=
  Function.update_self ..

theorem get_storeWord_of_ne (cell : CellObject K) (tmp : List Char) {w : CellWord}
    {t : CellTarget} (h : t ≠ .word w) : (cell.storeWord tmp w).get t = cell.get t := by
  match w, t with
  | .memCellType, .word .memCellType | .accessType, .word .accessType => exact absurd rfl h
  | .flag f, .word (.flag g) =>
      have hg : g ≠ f := fun hg => h (by rw [hg])
      exact Function.update_of_ne hg _ _
  | .memCellType, .word .accessType | .memCellType, .word (.flag _)
  | .accessType, .word .memCellType | .accessType, .word (.flag _)
  | .flag _, .word .memCellType | .flag _, .word .accessType => rfl
  | .memCellType, .processNode | .accessType, .processNode | .flag _, .processNode => rfl
  | .memCellType, .stitching | .accessType, .stitching | .flag _, .stitching => rfl
  | .memCellType, .number _ | .accessType, .number _ | .flag _, .number _ => rfl

/-- What is stored does not depend on the cell. -/
theorem get_storeWord_self (cell cell' : CellObject K) (tmp : List Char) (w : CellWord) :
    (cell.storeWord tmp w).get (.word w) = (cell'.storeWord tmp w).get (.word w) := by
  match w with
  | .memCellType | .accessType => rfl
  | .flag f =>
      show Function.update _ _ _ f = Function.update _ _ _ f
      rw [Function.update_self, Function.update_self]

variable [Field K] (scan : Conversions K) (sqrt : K → K)

/-- A handler keeps the properties that it does not write. -/
theorem get_handle_of_notMem {o : CellOption} (line tmp : List Char) (cell : CellObject K)
    {t : CellTarget} (h : t ∉ o.action.writes) :
    (o.handle scan sqrt line tmp cell).get t = cell.get t := by
  obtain ⟨key, format, action⟩ := o
  cases action with
  | word w => exact get_storeWord_of_ne _ _ (List.ne_of_not_mem_cons h)
  | processNode =>
      have ht : t ≠ .processNode := List.ne_of_not_mem_cons h
      match t with
      | .word .memCellType | .word .accessType | .word (.flag _) | .stitching | .number _ => rfl
  | number field divisor guard =>
      simp only [CellOption.handle]
      split
      · exact get_setNumber_of_ne _ _ (List.ne_of_not_mem_cons h)
      · rfl
  | copied field copy =>
      simp only [CellAction.writes, List.mem_cons, List.not_mem_nil, or_false, not_or] at h
      simp only [CellOption.handle]
      rw [get_setNumber_of_ne _ _ h.2, get_setNumber_of_ne _ _ h.1]
  | aspectRatio =>
      simp only [CellAction.writes, List.mem_cons, List.not_mem_nil, or_false, not_or] at h
      simp only [CellOption.handle]
      rw [get_setNumber_of_ne _ _ h.2.2, get_setNumber_of_ne _ _ h.2.1,
        get_setNumber_of_ne _ _ h.1]

/-- A line keeps the properties that it does not write. -/
theorem get_readLine_of_notMem (tmp : List Char) (cell : CellObject K) {line : List Char}
    {t : CellTarget} (h : t ∉ lineWrites line) :
    (cell.readLine scan sqrt tmp line).get t = cell.get t := by
  rw [readLine]
  cases ho : cellOption line with
  | none => rfl
  | some o => exact get_handle_of_notMem scan sqrt line tmp cell fun ht => h ⟨o, ho, ht⟩

end CellObject

/-! ## Files in which every option comes once -/

/-- Every option comes at most once, and so do `resistanceOn` and `resistanceOff`, which two
options can set. -/
structure WellKeyed (lines : List (List Char)) : Prop where
  keys : (lines.filterMap fun line => (cellOption line).map (·.key)).Nodup
  resistances : ∀ n ∈ [CellNumber.resistanceOn, .resistanceOff], ∀ line ∈ lines,
    ∀ line' ∈ lines, ∀ o ∈ cellOption line, ∀ o' ∈ cellOption line',
    .number n ∈ o.action.writes → .number n ∈ o'.action.writes → o.key = o'.key

/-- Its lines write different properties. -/
theorem WellKeyed.disjoint {lines : List (List Char)} (h : WellKeyed lines) :
    lines.Pairwise fun line line' => Disjoint (lineWrites line) (lineWrites line') := by
  have hkeys := List.pairwise_filterMap.1 h.keys
  refine hkeys.imp_of_mem fun {line line'} hline hline' hne => ?_
  apply Set.disjoint_left.2
  rintro t ⟨o, ho, ht⟩ ⟨o', ho', ht'⟩
  have hkey : o.key = o'.key := by
    rcases eq_of_mem_writes (mem_cellOptions ho) (mem_cellOptions ho') ht ht' with
      rfl | rfl | rfl
    · rfl
    · exact h.resistances _ List.mem_cons_self line hline line' hline' o ho o' ho' ht ht'
    · exact h.resistances _ (List.mem_cons_of_mem _ List.mem_cons_self) line hline line' hline'
        o ho o' ho' ht ht'
  exact hne o.key (by rw [ho]; rfl) o'.key (by rw [ho']; rfl) hkey

/-- What one line writes, no other line does. -/
theorem WellKeyed.notMem {lines : List (List Char)} (h : WellKeyed lines) {x y : List Char}
    (hx : x ∈ lines) (hy : y ∈ lines) (hne : x ≠ y) {t : CellTarget} (ht : t ∈ lineWrites x) :
    t ∉ lineWrites y :=
  have : Std.Symm fun x y => Disjoint (lineWrites x) (lineWrites y) := ⟨fun _ _ h => h.symm⟩
  Set.disjoint_left.1 (h.disjoint.forall hx hy hne) ht

/-! ## Lines with a word -/

/-- The property of a line with a word option, and its word if it has one. -/
def wordLine (line : List Char) : Option (CellWord × Option (List Char)) :=
  match cellOption line with
  | some { key := _, format := format, action := .word w } => some (w, scanWord format line)
  | _ => none

theorem tmpAfter_eq (line tmp : List Char) :
    tmpAfter line tmp = ((wordLine line).bind (·.2)).getD tmp := by
  unfold tmpAfter wordLine
  cases cellOption line with
  | none => rfl
  | some o =>
      obtain ⟨key, format, action⟩ := o
      cases action <;> rfl

theorem wordLine_eq_some_iff {line : List Char} {w : CellWord} {word : Option (List Char)} :
    wordLine line = some (w, word) ↔
      ∃ o, cellOption line = some o ∧ o.action = .word w ∧ scanWord o.format line = word := by
  unfold wordLine
  constructor
  · intro h
    split at h
    · rename_i key format w' ho
      cases h
      exact ⟨_, ho, rfl, rfl⟩
    · cases h
  · rintro ⟨⟨key, format, action⟩, ho, rfl, rfl⟩
    rw [ho]

/-- A line with a word writes one property, and what it stores there is its word. -/
theorem lineWrites_of_wordLine {line : List Char} {w : CellWord} {word : Option (List Char)}
    (h : wordLine line = some (w, word)) : lineWrites line = {.word w} := by
  obtain ⟨o, ho, haction, -⟩ := wordLine_eq_some_iff.1 h
  ext t
  simp only [lineWrites, ho, Option.some.injEq, exists_eq_left', haction, CellAction.writes,
    List.mem_singleton, Set.mem_ofPred_eq, Set.mem_singleton_iff]

theorem CellObject.readLine_of_wordLine {K : Type} [Field K] {scan : Conversions K}
    {sqrt : K → K} {line : List Char} {w : CellWord} {word : Option (List Char)}
    (h : wordLine line = some (w, word)) (tmp : List Char) (cell : CellObject K) :
    cell.readLine scan sqrt tmp line = cell.storeWord tmp w := by
  obtain ⟨o, ho, haction, -⟩ := wordLine_eq_some_iff.1 h
  rw [readLine, ho]
  show o.handle scan sqrt line tmp cell = _
  rw [CellOption.handle, haction]

theorem readCellLine_of_wordLine {K : Type} [Field K] {scan : Conversions K} {sqrt : K → K}
    {line : List Char} {w : CellWord} {word : Option (List Char)}
    (h : wordLine line = some (w, word)) (s : CellReader K) :
    readCellLine scan sqrt s line =
      { tmp := word.getD s.tmp, cell := s.cell.storeWord (word.getD s.tmp) w } := by
  rw [readCellLine, CellObject.readLine_of_wordLine h, tmpAfter_eq, h]
  rfl

/-- A word can always be changed so that it means something else. -/
theorem exists_storeWord_ne {K : Type} (cell : CellObject K) (word : List Char) (w : CellWord) :
    ∃ tmp, (cell.storeWord tmp w).get (.word w) ≠ (cell.storeWord word w).get (.word w) := by
  match w with
  | .memCellType =>
      by_cases h : MemCellType.ofWord word = .sram
      · have hne : MemCellType.ofWord "DRAM".toList ≠ MemCellType.ofWord word := by
          rw [h]
          decide
        exact ⟨"DRAM".toList, hne⟩
      · exact ⟨"SRAM".toList, Ne.symm h⟩
  | .accessType =>
      by_cases h : CellAccessType.ofWord word = .cmosAccess
      · have hne : CellAccessType.ofWord "BJT".toList ≠ CellAccessType.ofWord word := by
          rw [h]
          decide
        exact ⟨"BJT".toList, hne⟩
      · exact ⟨"CMOS".toList, Ne.symm h⟩
  | .flag f =>
      have hget (tmp : List Char) :
          (cell.storeWord tmp (.flag f)).get (.word (.flag f)) =
            decide (tmp = f.trueWord.toList) := Function.update_self ..
      by_cases h : word = f.trueWord.toList
      · refine ⟨[], ?_⟩
        rw [hget, hget, decide_eq_true h, decide_eq_false (by cases f <;> decide)]
        exact Bool.false_ne_true
      · refine ⟨f.trueWord.toList, ?_⟩
        rw [hget, hget, decide_eq_true rfl, decide_eq_false h]
        exact Bool.false_ne_true.symm

/-! ## Handlers that look at other properties -/

/-- A line of the file may change what the guard tests. -/
def CellGuard.Varies (guard : CellGuard) (lines : List (List Char)) : Prop :=
  ∃ line ∈ lines, ∃ w word, wordLine line = some (w, word) ∧ ∃ tmp,
    guard.passes ((CellObject.new (K := ℚ) 0).storeWord (word.getD tmp) w) ≠
      guard.passes (CellObject.new (K := ℚ) 0)

/-- A guard looks at the type of the cell or at its access device. -/
theorem CellGuard.passes_congr {K K' : Type} {cell : CellObject K} {cell' : CellObject K'}
    (htype : cell.memCellType = cell'.memCellType) (haccess : cell.accessType = cell'.accessType)
    (guard : CellGuard) : guard.passes cell = guard.passes cell' := by
  cases guard <;> simp only [passes, htype, haccess]

/-- Storing a word fixes the outcome of a guard, or it leaves it as it is. -/
theorem CellGuard.passes_storeWord {K K' : Type} (guard : CellGuard) (cell : CellObject K)
    (cell' : CellObject K') (tmp : List Char) (w : CellWord)
    (h : guard.passes cell = guard.passes cell') :
    guard.passes (cell.storeWord tmp w) = guard.passes (cell'.storeWord tmp w) := by
  cases guard <;> match w with | .memCellType | .accessType | .flag _ => first | rfl | exact h

/-- The lines of a cell file whose order does not matter. -/
structure OrderFree {K : Type} [Field K] (scan : Conversions K) (lines : List (List Char)) :
    Prop where
  /-- The aspect ratio is given, and it is not zero. -/
  aspectRatio : ∃ line ∈ lines, ∃ o, cellOption line = some o ∧ o.action = .aspectRatio ∧
    ∃ value, scan.number o line = some value ∧ value ≠ 0
  /-- The area is not given, or it is zero. -/
  area : ∀ line ∈ lines, ∀ o divisor guard, cellOption line = some o →
    o.action = .number .area divisor guard → ∀ value, scan.number o line = some value → value = 0
  /-- Where a line may change what a guard tests, the guarded option has no effect. -/
  guards : ∀ line ∈ lines, ∀ o field divisor guard, cellOption line = some o →
    o.action = .number field divisor guard → guard.Varies lines → ∀ memory,
    (scan.number o line).getD ((CellObject.new memory).number field) / divisor =
      (CellObject.new memory).number field
  /-- The lines with a word option all have a word, or none of them has. -/
  words : (∀ line ∈ lines, ∀ w word, wordLine line = some (w, word) → word.isSome) ∨
    ∀ line ∈ lines, ∀ w word, wordLine line = some (w, word) → word = none

section OrderFree

variable {K : Type} [Field K] {scan : Conversions K} {sqrt : K → K} {lines : List (List Char)}

/-- The handlers of the other options do not read `tmp`. -/
theorem readLine_congr_tmp {line : List Char} (h : wordLine line = none) (tmp tmp' : List Char)
    (cell : CellObject K) :
    cell.readLine scan sqrt tmp line = cell.readLine scan sqrt tmp' line := by
  unfold CellObject.readLine
  cases ho : cellOption line with
  | none => rfl
  | some o =>
      obtain ⟨key, format, action⟩ := o
      cases action with
      | word w =>
          rw [wordLine_eq_some_iff.2 ⟨_, ho, rfl, rfl⟩] at h
          cases h
      | _ => rfl

/-- If all lines have words, or none has, a line reads the same `tmp` wherever it stands. -/
theorem foldl_readCellLine {tmp t : List Char}
    (h : (∀ line ∈ lines, ∀ w word, wordLine line = some (w, word) → word.isSome) ∨
      t = tmp ∧ ∀ line ∈ lines, ∀ w word, wordLine line = some (w, word) → word = none)
    (cell : CellObject K) :
    (lines.foldl (readCellLine scan sqrt) { tmp := t, cell := cell }).cell =
      lines.foldl (fun cell line => cell.readLine scan sqrt (tmpAfter line tmp) line) cell := by
  induction lines generalizing t cell with
  | nil => rfl
  | cons line lines ih =>
      have hread : cell.readLine scan sqrt (tmpAfter line t) line =
          cell.readLine scan sqrt (tmpAfter line tmp) line := by
        rcases hword : wordLine line with _ | ⟨w, word⟩
        · exact readLine_congr_tmp hword _ _ _
        · rcases h with h | ⟨rfl, -⟩
          · obtain ⟨text, rfl⟩ :=
              Option.isSome_iff_exists.1 (h line List.mem_cons_self w word hword)
            rw [tmpAfter_eq, tmpAfter_eq, hword]
            rfl
          · rfl
      rw [List.foldl_cons, List.foldl_cons, readCellLine, hread]
      refine ih ?_ _
      rcases h with h | ⟨rfl, h⟩
      · exact Or.inl fun line' hline' => h line' (List.mem_cons_of_mem line hline')
      · refine Or.inr ⟨?_, fun line' hline' => h line' (List.mem_cons_of_mem line hline')⟩
        rw [tmpAfter_eq]
        rcases hword : wordLine line with _ | ⟨w, word⟩
        · rfl
        · rw [h line List.mem_cons_self w word hword]
          rfl

/-- What holds of the cell while such a file is read. -/
structure ReadInvariant (memory : CellNumber → K) (lines : List (List Char))
    (cell : CellObject K) : Prop where
  area : cell.number .area = 0
  guards : ∀ guard : CellGuard, ¬guard.Varies lines →
    guard.passes cell = guard.passes (CellObject.new memory)
  fields : ∀ o ∈ cellOptions, ∀ field divisor guard, o.action = .number field divisor guard →
    guard.Varies lines → cell.number field = (CellObject.new memory).number field

theorem readInvariant_new (memory : CellNumber → K) (lines : List (List Char)) :
    ReadInvariant memory lines (CellObject.new memory) where
  area := rfl
  guards _ _ := rfl
  fields _ _ _ _ _ _ _ := rfl

theorem number_handle {o : CellOption} {field : CellNumber} {divisor : ℕ} {guard : CellGuard}
    (h : o.action = .number field divisor guard) (line tmp : List Char) (cell : CellObject K) :
    (o.handle scan sqrt line tmp cell).number field =
      if guard.passes cell then (scan.number o line).getD (cell.number field) / divisor
      else cell.number field := by
  rw [CellOption.handle, h]
  show (if guard.passes cell then _ else cell : CellObject K).number field = _
  split
  · exact CellObject.number_setNumber ..
  · rfl

theorem number_handle_copied {o : CellOption} {field copy n : CellNumber}
    (h : o.action = .copied field copy) (hn : n = field ∨ n = copy) (line tmp : List Char)
    (cell : CellObject K) :
    (o.handle scan sqrt line tmp cell).number n =
      (scan.number o line).getD (cell.number field) := by
  simp only [CellOption.handle, h]
  by_cases heq : n = copy
  · rw [heq, CellObject.number_setNumber]
  · obtain rfl := hn.resolve_right heq
    exact (Function.update_of_ne heq _ _).trans (CellObject.number_setNumber ..)

/-- The handler of the aspect ratio derives the height and the width from the area that has
been read so far. -/
theorem number_handle_aspectRatio (scan : Conversions K) (sqrt : K → K) {o : CellOption}
    (h : o.action = .aspectRatio) (line tmp : List Char) (cell : CellObject K) :
    let cell' := o.handle scan sqrt line tmp cell
    let aspectRatio := (scan.number o line).getD (cell.number .aspectRatio)
    cell'.number .aspectRatio = aspectRatio ∧
      cell'.number .heightInFeatureSize = sqrt (cell.number .area * aspectRatio) ∧
      cell'.number .widthInFeatureSize = sqrt (cell.number .area / aspectRatio) := by
  simp only [CellOption.handle, h, CellObject.setNumber]
  refine ⟨?_, ?_, Function.update_self ..⟩
  · rw [Function.update_of_ne (by decide), Function.update_of_ne (by decide),
      Function.update_self]
  · rw [Function.update_of_ne (by decide), Function.update_self]

/-- The option that sets the area. -/
theorem action_of_area {o : CellOption} (ho : o ∈ cellOptions)
    (h : .number .area ∈ o.action.writes) : o.action = .number .area 1 .always := by
  have hall : ∀ o ∈ cellOptions, .number .area ∈ o.action.writes →
      o.action = .number .area 1 .always := by decide
  exact hall o ho h

/-- The option that sets the aspect ratio. -/
theorem action_of_aspectRatio {o : CellOption} (ho : o ∈ cellOptions)
    (h : .number .aspectRatio ∈ o.action.writes) : o.action = .aspectRatio := by
  have hall : ∀ o ∈ cellOptions, .number .aspectRatio ∈ o.action.writes →
      o.action = .aspectRatio := by decide
  exact hall o ho h

/-- A guarded option is the only one that writes its property. -/
theorem eq_of_guarded {o o' : CellOption} (ho : o ∈ cellOptions) (ho' : o' ∈ cellOptions)
    {field : CellNumber} {divisor : ℕ} {guard : CellGuard}
    (haction : o.action = .number field divisor guard) (hguard : guard ≠ .always)
    (h : .number field ∈ o'.action.writes) : o' = o := by
  have hall : (cellOptions.all fun o => match o.action with
      | .number field _ guard =>
          guard = .always || cellOptions.all fun o' => o' = o || .number field ∉ o'.action.writes
      | _ => true) = true := by
    decide
  have ho := List.all_eq_true.1 hall o ho
  rw [haction] at ho
  simp only [hguard, decide_false, Bool.false_or] at ho
  have ho' := List.all_eq_true.1 ho o' ho'
  simpa [h] using ho'

theorem CellGuard.Varies.ne_always {guard : CellGuard} (h : guard.Varies lines) :
    guard ≠ .always := by
  rintro rfl
  obtain ⟨_, _, _, _, _, _, hne⟩ := h
  exact hne rfl

/-- Only a line with a word option writes a property of a word. -/
theorem word_notMem_lineWrites {line : List Char} (h : wordLine line = none) (w : CellWord) :
    .word w ∉ lineWrites line := by
  rintro ⟨⟨key, format, action⟩, ho, hw⟩
  cases action with
  | word w' =>
      rw [wordLine_eq_some_iff.2 ⟨_, ho, rfl, rfl⟩] at h
      cases h
  | _ => simp [CellAction.writes] at hw

/-- What a guard tests does not change, if no line of the file may change it. -/
theorem CellGuard.passes_new_storeWord {guard : CellGuard} (h : ¬guard.Varies lines)
    {line : List Char} (hline : line ∈ lines) {w : CellWord} {word : Option (List Char)}
    (hword : wordLine line = some (w, word)) (memory : CellNumber → K) (tmp : List Char) :
    guard.passes ((CellObject.new memory).storeWord (word.getD tmp) w) =
      guard.passes (CellObject.new memory) := by
  have hnew : guard.passes (CellObject.new memory) = guard.passes (CellObject.new (K := ℚ) 0) :=
    guard.passes_congr rfl rfl
  rw [guard.passes_storeWord _ _ _ w hnew, hnew]
  by_contra hne
  exact h ⟨line, hline, w, word, hword, tmp, hne⟩

/-- A line of such a file keeps the invariant. -/
theorem OrderFree.readInvariant (h : OrderFree scan lines) {line : List Char}
    (hline : line ∈ lines) (memory : CellNumber → K) (tmp : List Char) {cell : CellObject K}
    (hcell : ReadInvariant memory lines cell) :
    ReadInvariant memory lines (cell.readLine scan sqrt (tmpAfter line tmp) line) := by
  have hframe {t : CellTarget} (ht : t ∉ lineWrites line) :=
    CellObject.get_readLine_of_notMem scan sqrt (tmpAfter line tmp) cell ht
  refine ⟨?_, fun guard hguard => ?_, fun o ho field divisor guard haction hguard => ?_⟩
  · by_cases hmem : .number .area ∈ lineWrites line
    · obtain ⟨o, ho, hwrites⟩ := hmem
      have haction := action_of_area (mem_cellOptions ho) hwrites
      rw [CellObject.readLine, ho]
      show (o.handle scan sqrt line _ cell).number .area = 0
      rw [number_handle haction]
      cases hvalue : scan.number o line with
      | none => simp [CellGuard.passes, hcell.area]
      | some value => simp [CellGuard.passes, h.area line hline o 1 .always ho haction value hvalue]
    · exact (hframe hmem).trans hcell.area
  · rcases hword : wordLine line with _ | ⟨w, word⟩
    · rw [← hcell.guards guard hguard]
      exact guard.passes_congr (hframe (word_notMem_lineWrites hword .memCellType))
        (hframe (word_notMem_lineWrites hword .accessType))
    · rw [CellObject.readLine_of_wordLine hword, tmpAfter_eq, hword]
      rw [guard.passes_storeWord _ _ _ w (hcell.guards guard hguard)]
      exact guard.passes_new_storeWord hguard hline hword memory tmp
  · by_cases hmem : .number field ∈ lineWrites line
    · obtain ⟨o', ho', hwrites⟩ := hmem
      obtain rfl := eq_of_guarded ho (mem_cellOptions ho') haction hguard.ne_always hwrites
      rw [CellObject.readLine, ho']
      show (o'.handle scan sqrt line _ cell).number field = _
      rw [number_handle haction, hcell.fields o' ho field divisor guard haction hguard,
        h.guards line hline o' field divisor guard ho' haction hguard, ite_self]
    · exact (hframe hmem).trans (hcell.fields o ho field divisor guard haction hguard)

/-- A line of such a file is confined to the properties that it writes. -/
theorem OrderFree.confined (h : OrderFree scan lines) {line : List Char} (hline : line ∈ lines)
    (memory : CellNumber → K) (tmp : List Char) :
    Confined CellObject.get (ReadInvariant memory lines)
      (fun cell => cell.readLine scan sqrt (tmpAfter line tmp) line) (lineWrites line) where
  inv _ hcell := h.readInvariant hline memory tmp hcell
  frame cell _ t ht := CellObject.get_readLine_of_notMem scan sqrt _ cell ht
  congr cell cell' hcell hcell' hsame t ht := by
    obtain ⟨o, ho, hwrites⟩ := id ht
    have hsame' (n : CellNumber) (hn : .number n ∈ o.action.writes) :
        cell.number n = cell'.number n := hsame (.number n) ⟨o, ho, hn⟩
-- an option assigns its own properties, from these and from its line
    simp only [CellObject.readLine, ho]
    cases haction : o.action with
    | word w =>
        obtain rfl : t = .word w := by simpa [haction, CellAction.writes] using hwrites
        simp only [CellOption.handle, haction]
        exact CellObject.get_storeWord_self _ _ _ w
    | processNode =>
        obtain rfl : t = .processNode := by simpa [haction, CellAction.writes] using hwrites
        have hnode : cell.processNode = cell'.processNode := hsame .processNode ht
        simp only [CellOption.handle, haction, hnode]
        rfl
    | number field divisor guard =>
        obtain rfl : t = .number field := by simpa [haction, CellAction.writes] using hwrites
        show (o.handle scan sqrt line _ cell).number field =
          (o.handle scan sqrt line _ cell').number field
        rw [number_handle haction, number_handle haction, ← hsame' field hwrites]
        by_cases hguard : guard.Varies lines
        · -- the guarded option has no effect, whatever the guard says
          rw [hcell.fields o (mem_cellOptions ho) field divisor guard haction hguard,
            h.guards line hline o field divisor guard ho haction hguard, ite_self, ite_self]
        · rw [hcell.guards guard hguard, hcell'.guards guard hguard]
    | copied field copy =>
        obtain ⟨n, rfl, hn⟩ : ∃ n, t = .number n ∧ (n = field ∨ n = copy) := by
          rw [haction, CellAction.writes, List.mem_pair] at hwrites
          rcases hwrites with rfl | rfl
          · exact ⟨field, rfl, Or.inl rfl⟩
          · exact ⟨copy, rfl, Or.inr rfl⟩
        show (o.handle scan sqrt line _ cell).number n = (o.handle scan sqrt line _ cell').number n
        rw [number_handle_copied haction hn, number_handle_copied haction hn,
          hsame' field (by simp [haction, CellAction.writes])]
    | aspectRatio =>
-- the sides are computed from the area, which the invariant fixes
        have hratio := hsame' .aspectRatio (by simp [haction, CellAction.writes])
        obtain ⟨har, hheight, hwidth⟩ := number_handle_aspectRatio scan sqrt haction line
          (tmpAfter line tmp) cell
        obtain ⟨har', hheight', hwidth'⟩ := number_handle_aspectRatio scan sqrt haction line
          (tmpAfter line tmp) cell'
        simp only [hcell.area, hcell'.area, hratio] at har hheight hwidth har' hheight' hwidth'
        simp only [haction, CellAction.writes, List.mem_cons, List.not_mem_nil, or_false] at hwrites
        rcases hwrites with rfl | rfl | rfl
        · exact har.trans har'.symm
        · exact hheight.trans hheight'.symm
        · exact hwidth.trans hwidth'.symm

/-- Such a file makes the same cell in every order of its lines. -/
theorem OrderFree.readCellFromFile_perm (h : OrderFree scan lines) (hkeyed : WellKeyed lines)
    {lines' : List (List Char)} (hperm : lines.Perm lines') (memory : CellNumber → K)
    (tmp : List Char) :
    readCellFromFile scan sqrt memory tmp lines' = readCellFromFile scan sqrt memory tmp lines := by
  have hmem {line : List Char} (hline : line ∈ lines') : line ∈ lines := hperm.mem_iff.2 hline
  rw [readCellFromFile, readCellFromFile,
    foldl_readCellLine (h.words.imp_right fun h => And.intro rfl h),
    foldl_readCellLine (h.words.imp (fun h line hline => h line (hmem hline)) fun h =>
      And.intro rfl fun line hline => h line (hmem hline))]
  exact (foldl_perm hperm (fun line hline => h.confined hline memory tmp) hkeyed.disjoint
    (fun _ _ => CellObject.ext_get) (readInvariant_new memory lines)).symm

/-- The height and the width fit the area and the aspect ratio. -/
def CellObject.Squared (cell : CellObject K) : Prop :=
  cell.number .aspectRatio ≠ 0 ∧
    cell.number .heightInFeatureSize ^ 2 = cell.number .area * cell.number .aspectRatio ∧
    cell.number .widthInFeatureSize ^ 2 = cell.number .area / cell.number .aspectRatio

/-- In such a file the area is zero, and so are the height and the width. -/
theorem OrderFree.squared (h : OrderFree scan lines) (hkeyed : WellKeyed lines)
    (hsqrt : sqrt 0 = 0) (memory : CellNumber → K) (tmp : List Char) :
    (readCellFromFile scan sqrt memory tmp lines).Squared := by
  obtain ⟨line, hline, o, ho, haction, value, hvalue, hne⟩ := h.aspectRatio
  have hnew := readInvariant_new memory lines
  have hconfined (line : List Char) (hline : line ∈ lines) :
      Confined CellObject.get (ReadInvariant memory lines)
        (fun cell => cell.readLine scan sqrt (tmpAfter line tmp) line) (lineWrites line) :=
    h.confined hline memory tmp
  have hread : readCellFromFile scan sqrt memory tmp lines =
      lines.foldl (fun cell line => cell.readLine scan sqrt (tmpAfter line tmp) line)
        (.new memory) :=
    foldl_readCellLine (h.words.imp_right fun h => And.intro rfl h) _
  have harea : (readCellFromFile scan sqrt memory tmp lines).number .area = 0 := by
    rw [hread]
    exact (foldl_inv hconfined hnew).area
-- no other line writes the sides, so they are what the aspect ratio made of no area
  have hget {n : CellNumber} (hn : .number n ∈ o.action.writes) :
      (readCellFromFile scan sqrt memory tmp lines).number n =
        (o.handle scan sqrt line (tmpAfter line tmp) (.new memory)).number n := by
    rw [hread]
    have hwrites : CellTarget.number n ∈ lineWrites line := ⟨o, ho, hn⟩
    apply (foldl_get hconfined hkeyed.disjoint hline hwrites hnew).trans
    rw [CellObject.readLine, ho]
    rfl
  obtain ⟨hratio, hheight, hwidth⟩ :=
    number_handle_aspectRatio scan sqrt haction line (tmpAfter line tmp) (.new memory)
  rw [hvalue, Option.getD_some] at hratio hheight hwidth
  rw [hnew.area, zero_mul, hsqrt] at hheight
  rw [hnew.area, zero_div, hsqrt] at hwidth
  rw [CellObject.Squared, harea, hget (by simp [haction, CellAction.writes]), hratio,
    hget (by simp [haction, CellAction.writes]), hheight,
    hget (by simp [haction, CellAction.writes]), hwidth]
  simp [hne]

end OrderFree

/-! ## Files whose order matters -/

section Necessary

variable {K : Type} [Field K] {scan : Conversions K} {sqrt : K → K} {lines : List (List Char)}

/-- The file makes the same cell in every order of its lines, and its height and width fit
the area and the aspect ratio; whatever the memory held. -/
def OrderIndependent (scan : Conversions K) (sqrt : K → K) (lines : List (List Char)) : Prop :=
  ∀ memory tmp, (∀ lines', lines.Perm lines' →
    readCellFromFile scan sqrt memory tmp lines' = readCellFromFile scan sqrt memory tmp lines) ∧
    (readCellFromFile scan sqrt memory tmp lines).Squared

/-- Lines keep the properties that none of them writes. -/
theorem get_foldl_readCellLine {t : CellTarget} (h : ∀ line ∈ lines, t ∉ lineWrites line)
    (s : CellReader K) : (lines.foldl (readCellLine scan sqrt) s).cell.get t = s.cell.get t := by
  induction lines generalizing s with
  | nil => rfl
  | cons line lines ih =>
      rw [List.foldl_cons, ih fun line' hline' => h line' (List.mem_cons_of_mem line hline')]
      exact CellObject.get_readLine_of_notMem scan sqrt _ _ (h line List.mem_cons_self)

/-- Two lines of such a file can be read first, and then they decide what they write. -/
theorem OrderIndependent.get_eq (h : OrderIndependent scan sqrt lines) (hkeyed : WellKeyed lines)
    {x y : List Char} (hx : x ∈ lines) (hy : y ∈ lines) (hne : x ≠ y) (memory : CellNumber → K)
    (tmp : List Char) {t : CellTarget} (ht : t ∈ lineWrites x ∨ t ∈ lineWrites y) :
    (readCellFromFile scan sqrt memory tmp lines).get t =
      (readCellLine scan sqrt
        (readCellLine scan sqrt { tmp := tmp, cell := .new memory } x) y).cell.get t := by
  have hperm : lines.Perm (x :: y :: (lines.erase x).erase y) :=
    (List.perm_cons_erase hx).trans
      ((List.perm_cons_erase ((List.mem_erase_of_ne hne.symm).2 hy)).cons x)
  have hdisj := hperm.pairwise hkeyed.disjoint fun h => h.symm
  rw [← (h memory tmp).1 _ hperm, readCellFromFile, List.foldl_cons, List.foldl_cons]
  refine get_foldl_readCellLine (fun line hline => ?_) _
  rcases ht with ht | ht
  · exact Set.disjoint_left.1
      (List.rel_of_pairwise_cons hdisj (List.mem_cons_of_mem y hline)) ht
  · exact Set.disjoint_left.1 (List.rel_of_pairwise_cons hdisj.of_cons hline) ht

theorem OrderIndependent.number_eq (h : OrderIndependent scan sqrt lines)
    (hkeyed : WellKeyed lines) {x y : List Char} (hx : x ∈ lines) (hy : y ∈ lines) (hne : x ≠ y)
    (memory : CellNumber → K) (tmp : List Char) {n : CellNumber}
    (hn : .number n ∈ lineWrites x ∨ .number n ∈ lineWrites y) :
    (readCellFromFile scan sqrt memory tmp lines).number n =
      (readCellLine scan sqrt
        (readCellLine scan sqrt { tmp := tmp, cell := .new memory } x) y).cell.number n :=
  h.get_eq hkeyed hx hy hne memory tmp hn

/-- It does not matter which of the two comes first. -/
theorem OrderIndependent.swap (h : OrderIndependent scan sqrt lines) (hkeyed : WellKeyed lines)
    {x y : List Char} (hx : x ∈ lines) (hy : y ∈ lines) (hne : x ≠ y) (memory : CellNumber → K)
    (tmp : List Char) {t : CellTarget} (ht : t ∈ lineWrites x ∨ t ∈ lineWrites y) :
    (readCellLine scan sqrt
        (readCellLine scan sqrt { tmp := tmp, cell := .new memory } x) y).cell.get t =
      (readCellLine scan sqrt
        (readCellLine scan sqrt { tmp := tmp, cell := .new memory } y) x).cell.get t :=
  (h.get_eq hkeyed hx hy hne memory tmp ht).symm.trans
    (h.get_eq hkeyed hy hx hne.symm memory tmp ht.symm)

/-- What a line makes of a number, by its handler. -/
theorem number_readCellLine (scan : Conversions K) (sqrt : K → K) {line : List Char}
    {o : CellOption} (ho : cellOption line = some o) (s : CellReader K) (n : CellNumber) :
    (readCellLine scan sqrt s line).cell.number n =
      (o.handle scan sqrt line (tmpAfter line s.tmp) s.cell).number n := by
  rw [readCellLine, CellObject.readLine, ho]

theorem number_readCellLine_of_notMem (scan : Conversions K) (sqrt : K → K) {line : List Char}
    (s : CellReader K) {n : CellNumber} (h : .number n ∉ lineWrites line) :
    (readCellLine scan sqrt s line).cell.number n = s.cell.number n :=
  CellObject.get_readLine_of_notMem scan sqrt _ s.cell h

theorem OrderIndependent.aspectRatio (h : OrderIndependent scan sqrt lines) :
    ∃ line ∈ lines, ∃ o, cellOption line = some o ∧ o.action = .aspectRatio ∧
      ∃ value, scan.number o line = some value ∧ value ≠ 0 := by
  by_contra hnot
  -- otherwise every line keeps the aspect ratio at zero
  apply (h 0 []).2.1
  refine List.foldlRecOn (motive := fun s : CellReader K => s.cell.number .aspectRatio = 0)
    lines _ rfl fun s hs line hline => ?_
  by_cases hmem : .number .aspectRatio ∈ lineWrites line
  · obtain ⟨o, ho, hwrites⟩ := hmem
    have haction := action_of_aspectRatio (mem_cellOptions ho) hwrites
    rw [number_readCellLine scan sqrt ho, (number_handle_aspectRatio scan sqrt haction _ _ _).1]
    cases hvalue : scan.number o line with
    | none => exact hs
    | some value =>
        by_contra hne
        exact hnot ⟨line, hline, o, ho, haction, value, hvalue, hne⟩
  · exact (number_readCellLine_of_notMem scan sqrt s hmem).trans hs

theorem OrderIndependent.area (h : OrderIndependent scan sqrt lines) (hkeyed : WellKeyed lines)
    (hsqrt : sqrt 0 = 0) {line : List Char} (hline : line ∈ lines) {o : CellOption}
    {divisor : ℕ} {guard : CellGuard} (ho : cellOption line = some o)
    (haction : o.action = .number .area divisor guard) {value : K}
    (hvalue : scan.number o line = some value) : value = 0 := by
  obtain ⟨line', hline', o', ho', haction', ratio, hratio, hne⟩ := h.aspectRatio
  have hlines : line' ≠ line := by
    rintro rfl
    obtain rfl := Option.some.inj (ho.symm.trans ho')
    cases haction.symm.trans haction'
  have harea : .number .area ∈ o.action.writes := by simp [haction, CellAction.writes]
  have haction := action_of_area (mem_cellOptions ho) harea
  -- the aspect ratio comes first, when the area is still zero
  obtain ⟨hr, hheight, -⟩ := number_handle_aspectRatio scan sqrt haction' line'
    (tmpAfter line' []) (.new 0)
  have hget {n : CellNumber} (hn : .number n ∈ o'.action.writes) :
      (readCellFromFile scan sqrt 0 [] lines).number n =
        (o'.handle scan sqrt line' (tmpAfter line' []) (.new 0)).number n := by
    have hout := hkeyed.notMem hline' hline hlines ⟨o', ho', hn⟩
    rw [h.number_eq hkeyed hline' hline hlines 0 [] (Or.inl ⟨o', ho', hn⟩),
      number_readCellLine_of_notMem scan sqrt _ hout, number_readCellLine scan sqrt ho']
  have hget' : (readCellFromFile scan sqrt 0 [] lines).number .area = value := by
    rw [h.number_eq hkeyed hline' hline hlines 0 [] (Or.inr ⟨o, ho, harea⟩),
      number_readCellLine scan sqrt ho, number_handle haction, hvalue]
    simp [CellGuard.passes]
  have hsquared := (h 0 []).2.2.1
  rw [hget', hget (n := .heightInFeatureSize) (by simp [haction', CellAction.writes]),
    hget (n := .aspectRatio) (by simp [haction', CellAction.writes]), hr, hheight, hratio,
    Option.getD_some] at hsquared
  have hzero : value * ratio = 0 := by
    rw [← hsquared]
    show sqrt (0 * ratio) ^ 2 = 0
    rw [zero_mul, hsqrt, zero_pow two_ne_zero]
  exact (mul_eq_zero.1 hzero).resolve_right hne

theorem OrderIndependent.guards (h : OrderIndependent scan sqrt lines) (hkeyed : WellKeyed lines)
    {line : List Char} (hline : line ∈ lines) {o : CellOption} {field : CellNumber}
    {divisor : ℕ} {guard : CellGuard} (ho : cellOption line = some o)
    (haction : o.action = .number field divisor guard) (hguard : guard.Varies lines)
    (memory : CellNumber → K) :
    (scan.number o line).getD ((CellObject.new memory).number field) / divisor =
      (CellObject.new memory).number field := by
  obtain ⟨line', hline', w, word, hword, tmp, hne⟩ := hguard
  have hlines : line ≠ line' := by
    rintro rfl
    obtain ⟨o', ho', haction', -⟩ := wordLine_eq_some_iff.1 hword
    obtain rfl := Option.some.inj (ho.symm.trans ho')
    cases haction.symm.trans haction'
  have hmem : .number field ∈ lineWrites line := ⟨o, ho, by simp [haction, CellAction.writes]⟩
  have hout := hkeyed.notMem hline hline' hlines hmem
  -- the option comes before the word, and after it
  have hswap := h.swap hkeyed hline hline' hlines memory tmp (Or.inl hmem)
  have hbefore := number_readCellLine_of_notMem scan sqrt
    (readCellLine scan sqrt { tmp := tmp, cell := .new memory } line) hout
  have hafter := number_readCellLine scan sqrt ho
    (readCellLine scan sqrt { tmp := tmp, cell := .new memory } line') field
  have hcell : (readCellLine scan sqrt { tmp := tmp, cell := .new memory } line').cell =
      (CellObject.new memory).storeWord (word.getD tmp) w := by
    rw [readCellLine_of_wordLine hword]
  have hpasses : guard.passes ((CellObject.new memory).storeWord (word.getD tmp) w) ≠
      guard.passes (CellObject.new memory) := by
    have hnew : guard.passes (CellObject.new memory) = guard.passes (CellObject.new (K := ℚ) 0) :=
      guard.passes_congr rfl rfl
    rwa [guard.passes_storeWord _ _ _ w hnew, hnew]
  have hfield : ((CellObject.new memory).storeWord (word.getD tmp) w).number field =
      (CellObject.new memory).number field :=
    CellObject.get_storeWord_of_ne _ _ (t := .number field) nofun
  rw [hcell, number_handle haction, hfield] at hafter
  rw [number_readCellLine scan sqrt ho, number_handle haction] at hbefore
  have heq := hbefore.symm.trans (hswap.trans hafter)
  cases hnew : guard.passes (CellObject.new memory) with
  | true =>
      rw [hnew] at hpasses heq
      rw [eq_false_of_ne_true hpasses] at heq
      simpa using heq
  | false =>
      rw [hnew] at hpasses heq
      rw [eq_true_of_ne_false hpasses] at heq
      simpa using heq.symm

theorem OrderIndependent.words (h : OrderIndependent scan sqrt lines) (hkeyed : WellKeyed lines) :
    (∀ line ∈ lines, ∀ w word, wordLine line = some (w, word) → word.isSome) ∨
      ∀ line ∈ lines, ∀ w word, wordLine line = some (w, word) → word = none := by
  by_contra hnot
  push Not at hnot
  obtain ⟨⟨line, hline, w, word, hword, hnone⟩, line', hline', w', word', hword', hsome⟩ := hnot
  obtain ⟨text, rfl⟩ := Option.ne_none_iff_exists'.1 hsome
  obtain rfl : word = none := by simpa using hnone
  have hlines : line ≠ line' := by
    rintro rfl
    cases hword.symm.trans hword'
  have hmem : .word w ∈ lineWrites line := by
    rw [lineWrites_of_wordLine hword]
    rfl
  obtain ⟨tmp, htmp⟩ := exists_storeWord_ne (CellObject.new (0 : CellNumber → K)) text w
  have hout := hkeyed.notMem hline hline' hlines hmem
  have hswap := h.swap hkeyed hline hline' hlines 0 tmp (Or.inl hmem)
  -- the line without a word comes first, and then it comes last
  have hfirst : (readCellLine scan sqrt
      (readCellLine scan sqrt { tmp := tmp, cell := .new 0 } line) line').cell.get (.word w) =
        ((CellObject.new (0 : CellNumber → K)).storeWord tmp w).get (.word w) := by
    rw [readCellLine_of_wordLine hword]
    exact CellObject.get_readLine_of_notMem scan sqrt _ _ hout
  have hlast : (readCellLine scan sqrt
      (readCellLine scan sqrt { tmp := tmp, cell := .new 0 } line') line).cell.get (.word w) =
        ((CellObject.new (0 : CellNumber → K)).storeWord text w).get (.word w) := by
    rw [readCellLine_of_wordLine hword', readCellLine_of_wordLine hword]
    exact CellObject.get_storeWord_self _ _ text w
  exact htmp (hfirst.symm.trans (hswap.trans hlast))

/-- In a file in which every option comes once, the order of the lines does not matter and the
height and the width fit, in exactly one case: no handler that looks at other properties has
an effect. -/
theorem orderIndependent_iff (scan : Conversions ℝ) (lines : List (List Char))
    (hkeyed : WellKeyed lines) :
    OrderIndependent scan Real.sqrt lines ↔ OrderFree scan lines := by
  constructor
  · intro h
    exact
      { aspectRatio := h.aspectRatio
        area := fun line hline o divisor guard ho haction value hvalue =>
          h.area hkeyed Real.sqrt_zero hline ho haction hvalue
        guards := fun line hline o field divisor guard ho haction hguard memory =>
          h.guards hkeyed hline ho haction hguard memory
        words := h.words hkeyed }
  · intro h memory tmp
    exact ⟨fun lines' hperm => h.readCellFromFile_perm hkeyed hperm memory tmp,
      h.squared hkeyed Real.sqrt_zero memory tmp⟩

end Necessary

/-- The loop over the text of a cell file reads the cell of its lines. -/
theorem exists_run_readCellLine {K : Type} [Field K] (scan : Conversions K) (sqrt : K → K)
    {lines : List (List Char)} (h : ∀ line ∈ lines, Reader.IsLine line)
    (memory : CellNumber → K) (tmp line : List Char) :
    ∃ r, Reader.run (readCellLine scan sqrt) lines.length
        { input := Reader.text lines, line := line
          state := { tmp := tmp, cell := .new memory } } = some r ∧
      r.state.cell = readCellFromFile scan sqrt memory tmp lines := by
  let state : CellReader K := { tmp := tmp, cell := .new memory }
  have hrun : ∃ r, Reader.run (readCellLine scan sqrt) lines.length
      { input := Reader.text lines, line := line, state := state } = some r ∧
        r.state = lines.foldl (readCellLine scan sqrt) state := Reader.run_text h line state
  obtain ⟨r, hr, hstate⟩ := hrun
  exact ⟨r, hr, by rw [hstate, readCellFromFile]⟩

/-- The conversions of texts that are decimal digits. -/
def digits : Conversions ℝ where
  double rest := (readDigits rest).map Nat.cast
  int rest := (readDigits rest).map Nat.cast
where
  readDigits (rest : List Char) : Option ℕ :=
    if rest.all Char.isDigit && rest ≠ [] then
      some (rest.foldl (fun n c => 10 * n + (c.toNat - 48)) 0)
    else none

/-- The aspect ratio before the area: the cell has no height. -/
def ratioFirst : List (List Char) :=
  ["-CellAspectRatio: 1".toList, "-CellArea (F^2): 4".toList]

theorem wellKeyed_ratioFirst : WellKeyed ratioFirst where
  keys := by decide
  resistances := by decide

theorem not_orderIndependent_ratioFirst :
    WellKeyed ratioFirst ∧ ¬OrderIndependent digits Real.sqrt ratioFirst := by
  refine ⟨wellKeyed_ratioFirst, fun h => ?_⟩
  have hoption : cellOption "-CellArea (F^2): 4".toList =
      some ⟨"-CellArea", "-CellArea (F^2): ", .number .area 1 .always⟩ := by decide
  have hvalue : digits.number ⟨"-CellArea", "-CellArea (F^2): ", .number .area 1 .always⟩
      "-CellArea (F^2): 4".toList = some ((4 : ℕ) : ℝ) := rfl
  have hzero := h.area wellKeyed_ratioFirst Real.sqrt_zero (by decide) hoption rfl hvalue
  norm_num at hzero

theorem orderIndependent_iff_ratioFirst :
    OrderIndependent digits Real.sqrt ratioFirst ↔ OrderFree digits ratioFirst :=
  orderIndependent_iff digits ratioFirst wellKeyed_ratioFirst

end NVSim
