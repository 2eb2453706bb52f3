import Mathlib.Algebra.Field.Rat
import Mathlib.Data.List.Chain
import NVSim.Input.Reading
import NVSim.Model.ConfigFile

/-!
# A configuration file has the effect of its lines

A file whose lines are written as in the samples is read to its end, and every line has the
effect of its own handler with the word or the numbers that are written there.  No line is taken
for another option, empty lines and comments are ignored, and neither the array `tmp` nor the
memory of a local variable shows.
-/

namespace NVSim

open Library

/-! ## Files with empty lines -/

namespace Reader

variable {σ : Type} {body : σ → List Char → σ}

/-- The text of a file with these lines, each with the whitespace that follows its end. -/
def layout (file : List (List Char × List Char)) : List Char :=
  file.flatMap fun l => l.1 ++ '\n' :: l.2

/-- A line as it stands in the file, and the empty lines and the indentation behind it. -/
structure IsLaidOut (l : List Char × List Char) : Prop where
  line : IsLine l.1
  space : ∀ c ∈ l.2, isSpace c = true

theorem dropWhile_layout {file : List (List Char × List Char)} (h : ∀ l ∈ file, IsLaidOut l) :
    (layout file).dropWhile isSpace = layout file := by
  cases file with
  | nil => rfl
  | cons l file =>
      obtain ⟨c, hc, hspace⟩ := (h l List.mem_cons_self).line.noSpace
      obtain ⟨rest, hrest⟩ := List.head?_eq_some_iff.1 hc
      have htext : layout (l :: file) = c :: (rest ++ '\n' :: l.2 ++ layout file) := by
        simp [layout, hrest]
      rw [htext, List.dropWhile_cons_of_neg (by simp [hspace])]

/-- A call reads one line and the whitespace behind it. -/
theorem scanLine_layout {l : List Char × List Char} {file : List (List Char × List Char)}
    (h : ∀ l' ∈ l :: file, IsLaidOut l') :
    scanLine (layout (l :: file)) = (.matched l.1, layout file) := by
  obtain ⟨line, blanks⟩ := l
  obtain ⟨hline, hblanks⟩ := h _ List.mem_cons_self
  obtain ⟨c, hc, -⟩ := hline.noSpace
  obtain ⟨rest, rfl⟩ := List.head?_eq_some_iff.1 hc
  have hne : c ≠ '\n' := fun heq => hline.noNewline (by simp [heq])
  have hall : ∀ d ∈ c :: rest, decide (d ≠ '\n') = true := fun d hd =>
    decide_eq_true fun heq => hline.noNewline (heq ▸ hd)
-- the call takes the line, its newline and the blank lines behind it
  have htext : layout ((c :: rest, blanks) :: file) =
      (c :: rest) ++ '\n' :: (blanks ++ layout file) := by
    simp [layout]
  have htake : ((c :: rest) ++ '\n' :: (blanks ++ layout file)).takeWhile (· ≠ '\n') =
      c :: rest := by
    rw [List.takeWhile_append_of_pos hall]
    simp
  have hdrop : ((c :: rest) ++ '\n' :: (blanks ++ layout file)).dropWhile (· ≠ '\n') =
      '\n' :: (blanks ++ layout file) := by
    rw [List.dropWhile_append_of_pos hall]
    simp
  have hspace : ('\n' :: (blanks ++ layout file)).dropWhile isSpace = layout file := by
    rw [List.dropWhile_cons_of_pos (by decide), List.dropWhile_append_of_pos hblanks]
    exact dropWhile_layout fun l hl => h l (List.mem_cons_of_mem _ hl)
  rw [htext]
  show scanLine (c :: (rest ++ '\n' :: (blanks ++ layout file))) = _
  rw [scanLine, if_neg hne]
  exact congrArg₂ _ (congrArg _ htake) ((congrArg _ hdrop).trans hspace)

variable (body) in
/-- The loop reads the file to its end and runs its body on the lines. -/
theorem run_layout {file : List (List Char × List Char)} (h : ∀ l ∈ file, IsLaidOut l)
    (line : List Char) (state : σ) :
    ∃ line', run body file.length { input := layout file, line := line, state := state } =
      some { input := [], line := line', state := (file.map Prod.fst).foldl body state } := by
  induction file generalizing line state with
  | nil => exact ⟨line, rfl⟩
  | cons l file ih =>
      have hscan := scanLine_layout h
      obtain ⟨line', hrun⟩ :=
        ih (fun l' hl' => h l' (List.mem_cons_of_mem l hl')) l.1 (body state l.1)
      refine ⟨line', ?_⟩
      have hstep : step body { input := layout (l :: file), line := line, state := state } =
          { input := layout file, line := l.1, state := body state l.1 } := by
        simp only [step, hscan]
      have hne : (scanLine (layout (l :: file))).1 ≠ .eof := by
        rw [hscan]
        exact ScanResult.noConfusion
      rw [List.length_cons, run_succ hne, hstep]
      exact hrun

end Reader

/-! ## Lines -/

/-- A word: it is not empty and has no whitespace. -/
structure IsWord (tmp : List Char) : Prop where
  ne_nil : tmp ≠ []
  noSpace : ∀ c ∈ tmp, isSpace c = false

/-- What may follow a word. -/
def NoWord (rest : List Char) : Prop := ∀ c ∈ rest.head?, isSpace c = true

/-- What a format may be followed by: no whitespace, which its last blank would take. -/
def NoSpace (rest : List Char) : Prop := ∀ c ∈ rest.head?, isSpace c = false

section Written

variable {K : Type}

/-- A number that an `int` holds. -/
def FitsInt (n : ℤ) : Prop := -2 ^ 31 ≤ n ∧ n < 2 ^ 31

instance (n : ℤ) : Decidable (FitsInt n) :=
  inferInstanceAs (Decidable (-2 ^ 31 ≤ n ∧ n < 2 ^ 31))

/-- A number that a `long` holds also in the smallest unit: mega times, bits for bytes. -/
def FitsLong (n : ℕ) : Prop := n * (8 * 2 ^ 20) < 2 ^ 63

instance (n : ℕ) : Decidable (FitsLong n) :=
  inferInstanceAs (Decidable (n * (8 * 2 ^ 20) < 2 ^ 63))

/-- A line as in the samples, and what its handler is given: an option with its word or its
numbers, whatever follows them, or a line that begins with no option. -/
inductive Written (double : List Char → Option K) : List Char → ConfigLine K → Prop
  | word {o : ConfigOption K} {f tmp rest} (ho : o ∈ configOptions)
      (hf : o.conversion = .word f) (htmp : IsWord tmp) (hrest : NoWord rest) :
      Written double (o.format.toList ++ (tmp ++ rest)) (f (String.ofList tmp))
  | int {o : ConfigOption K} {f rest} (ho : o ∈ configOptions) (hf : o.conversion = .int f)
      {n : ℤ} (hn : FitsInt n) (hrest : NoDigit rest) :
      Written double (o.format.toList ++ (intText n ++ rest)) (f (some n))
  | long {o : ConfigOption K} {f rest} (ho : o ∈ configOptions) (hf : o.conversion = .long f)
      {n : ℕ} (hn : FitsLong n) (hrest : NoDigit rest) :
      Written double (o.format.toList ++ (intText n ++ rest)) (f (some n))
  | capacity {o : ConfigOption K} {f rest} (ho : o ∈ configOptions)
      (hf : o.conversion = .capacity f) {n : ℕ} (hn : FitsLong n) (hrest : NoDigit rest) :
      Written double (o.format.toList ++ (intText n ++ rest)) (f n)
  | double {o : ConfigOption K} {f text x} (ho : o ∈ configOptions)
      (hf : o.conversion = .double f) (htext : NoSpace text) (hx : double text = some x) :
      Written double (o.format.toList ++ text) (f (some x))
  | counts {o : ConfigOption K} {f rest} (ho : o ∈ configOptions)
      (hf : o.conversion = .counts f) {a b c d : ℤ} (ha : FitsInt a) (hb : FitsInt b)
      (hc : FitsInt c) (hd : FitsInt d) (hrest : NoDigit rest) :
      Written double
        (o.format.toList ++ (intText a ++ ("x".toList ++ (intText b ++ (", ".toList ++
          (intText c ++ ("x".toList ++ (intText d ++ rest))))))))
        (f (some a) (some b) (some c) (some d))
  | other {line} (h : (configOption line : Option (ConfigOption K)) = none) :
      Written double line .other

/-! ## Formats -/

/-- A format without two blanks in a row scans itself. -/
theorem matchFormat_append {format : List Char}
    (h : format.IsChain fun c d => isSpace c = true → isSpace d = false) {rest : List Char}
    (hrest : NoSpace rest) : matchFormat format (format ++ rest) = some rest := by
  induction format with
  | nil => rfl
  | cons c format ih =>
      obtain ⟨hnext, hformat⟩ := List.isChain_cons.1 h
      rw [List.cons_append, matchFormat]
      split
      · next hspace =>
        -- the blank, and then a character that is none
        have hdrop : (c :: (format ++ rest)).dropWhile isSpace = format ++ rest := by
          rw [List.dropWhile_cons_of_pos hspace]
          cases format with
          | nil =>
              cases rest with
              | nil => rfl
              | cons d rest => exact List.dropWhile_cons_of_neg (by rw [hrest d rfl]; decide)
          | cons d format =>
              exact List.dropWhile_cons_of_neg (by rw [hnext d rfl hspace]; decide)
        rw [hdrop]
        exact ih hformat
      · exact (if_pos rfl).trans (ih hformat)

/-- No option begins another one. -/
theorem pairwise_configOptions :
    (configOptions : List (ConfigOption K)).Pairwise fun o p =>
      ¬ o.key.toList <+: p.key.toList ∧ ¬ p.key.toList <+: o.key.toList := by
  have hkeys : (configOptions : List (ConfigOption K)).map (·.key) =
      (configOptions : List (ConfigOption Unit)).map (·.key) := rfl
  have hpairwise : ((configOptions : List (ConfigOption Unit)).map (·.key)).Pairwise fun k l =>
      ¬ k.toList <+: l.toList ∧ ¬ l.toList <+: k.toList := by decide +kernel
  rw [← hkeys] at hpairwise
  exact List.pairwise_map.1 hpairwise

/-- An option's format begins with its key, and has no two blanks in a row. -/
theorem format_configOptions {o : ConfigOption K} (ho : o ∈ configOptions) :
    o.key.toList <+: o.format.toList ∧
      o.format.toList.IsChain fun c d => isSpace c = true → isSpace d = false := by
  have hformats : (configOptions : List (ConfigOption K)).map (fun o => (o.key, o.format)) =
      (configOptions : List (ConfigOption Unit)).map fun o => (o.key, o.format) := rfl
  have hall : ∀ x ∈ (configOptions : List (ConfigOption Unit)).map fun o => (o.key, o.format),
      x.1.toList <+: x.2.toList ∧
        x.2.toList.IsChain fun c d => isSpace c = true → isSpace d = false := by
    decide +kernel
  rw [← hformats] at hall
  exact hall _ (List.mem_map_of_mem ho)

/-- A line with the format of an option goes to its handler. -/
theorem configOption_format {o : ConfigOption K} (ho : o ∈ configOptions) (rest : List Char) :
    configOption (o.format.toList ++ rest) = some o := by
  obtain ⟨hleading, -⟩ := format_configOptions ho
  exact find?_of_key_prefix pairwise_configOptions ho
    (hleading.trans (List.prefix_append o.format.toList rest))

theorem matchFormat_format {o : ConfigOption K} (ho : o ∈ configOptions) {rest : List Char}
    (hrest : NoSpace rest) :
    matchFormat o.format.toList (o.format.toList ++ rest) = some rest :=
  matchFormat_append (format_configOptions ho).2 hrest

/-! ## Conversions -/

theorem isSpace_of_isDigit {c : Char} (h : c.isDigit = true ∨ c = '-') : isSpace c = false := by
  rcases h with h | rfl
  · have hrange : 48 ≤ c.toNat := by
      unfold Char.isDigit at h
      exact UInt32.le_iff_toNat_le.1 (of_decide_eq_true (Bool.and_eq_true_iff.1 h).1)
    have hblank : c ≠ ' ' := by
      rintro rfl
      cases h
    unfold isSpace
    rw [decide_eq_false hblank, Bool.false_or, Bool.and_eq_false_iff]
    exact .inr (decide_eq_false (by omega))
  · rfl

theorem noSpace_intText (n : ℤ) (rest : List Char) : NoSpace (intText n ++ rest) := by
  obtain ⟨c, digits, htext, hc⟩ := exists_intText_eq_cons n
  rw [htext]
  rintro _ ⟨⟩
  exact isSpace_of_isDigit hc

theorem dropWhile_of_noSpace {rest : List Char} (h : NoSpace rest) :
    rest.dropWhile isSpace = rest := by
  cases rest with
  | nil => rfl
  | cons c rest => exact List.dropWhile_cons_of_neg (by rw [h c rfl]; decide)

variable {lib : ConfigScanf K}

theorem scanInt_intText {n : ℤ} (hn : FitsInt n) {rest : List Char} (h : NoDigit rest) :
    scanInt lib (intText n ++ rest) = some (n, rest) := by
  unfold scanInt
  rw [dropWhile_of_noSpace (noSpace_intText n rest), readInt_intText n h, Option.map_some]
  exact congrArg (fun m => some (m, rest)) (if_pos hn)

theorem scanSize_intText {n : ℕ} (hn : FitsLong n) {rest : List Char} (h : NoDigit rest) :
    scanSize lib (some (intText n ++ rest)) = some (some n) := by
  have hfits : -2 ^ 63 ≤ (n : ℤ) ∧ (n : ℤ) < 2 ^ 63 := by
    unfold FitsLong at hn
    omega
  have hscan : Option.bind (some (intText n ++ rest)) (scanLong lib) = some (n : ℤ) := by
    rw [Option.bind_some, scanLong, dropWhile_of_noSpace (noSpace_intText n rest),
      readInt_intText n h, Option.map_some, if_pos hfits]
  unfold scanSize
  rw [hscan]
  exact if_neg (by simp)

variable (lib) in
/-- A number that follows its part of the format. -/
theorem scanNext_intText {format : String} (hformat : format ∈ ["", "x", ", "]) {n : ℤ}
    (hn : FitsInt n) {rest : List Char} (h : NoDigit rest) :
    scanNext lib format (some (format.toList ++ (intText n ++ rest))) = (some n, some rest) := by
  have hchain : ∀ format ∈ ["", "x", ", "],
      format.toList.IsChain fun c d => isSpace c = true → isSpace d = false := by decide
  unfold scanNext
  rw [Option.bind_some, matchFormat_append (hchain format hformat) (noSpace_intText n rest),
    Option.bind_some, scanInt_intText hn h]
  rfl

theorem scanCounts_text {a b c d : ℤ} (ha : FitsInt a) (hb : FitsInt b) (hc : FitsInt c)
    (hd : FitsInt d) {rest : List Char} (h : NoDigit rest) :
    scanCounts lib (some (intText a ++ ("x".toList ++ (intText b ++ (", ".toList ++
      (intText c ++ ("x".toList ++ (intText d ++ rest)))))))) =
      (some a, some b, some c, some d) := by
  have hbetween : ∀ format ∈ ["x", ", "], ∀ rest, NoDigit (format.toList ++ rest) := by
    intro format hformat rest c hc
    rcases List.mem_pair.1 hformat with rfl | rfl
    · obtain rfl := Option.some.inj hc
      rfl
    · obtain rfl := Option.some.inj hc
      rfl
  have hd := scanNext_intText lib (by decide : "x" ∈ ["", "x", ", "]) hd h
  have hc := scanNext_intText lib (by decide : ", " ∈ ["", "x", ", "]) hc
    (hbetween "x" (by decide) (intText d ++ rest))
  have hb := scanNext_intText lib (by decide : "x" ∈ ["", "x", ", "]) hb
    (hbetween ", " (by decide)
      (intText c ++ ("x".toList ++ (intText d ++ rest))))
  have ha := scanNext_intText lib (by decide : "" ∈ ["", "x", ", "]) ha
    (hbetween "x" (by decide)
      (intText b ++ (", ".toList ++ (intText c ++ ("x".toList ++ (intText d ++ rest))))))
  have hstart (text : List Char) : "".toList ++ text = text := rfl
  rw [hstart] at ha
  unfold scanCounts
  dsimp only
  rw [ha, hb, hc, hd]

theorem scanWord_format {o : ConfigOption K} (ho : o ∈ configOptions) {tmp rest : List Char}
    (htmp : IsWord tmp) (hrest : NoWord rest) :
    scanWord o.format (o.format.toList ++ (tmp ++ rest)) = some tmp := by
  have hspace : NoSpace (tmp ++ rest) := by
    obtain ⟨c, tmp, rfl⟩ := List.exists_cons_of_ne_nil htmp.ne_nil
    rintro _ ⟨⟩
    exact htmp.noSpace c List.mem_cons_self
  have hword : (tmp ++ rest).takeWhile (fun c => !isSpace c) = tmp := by
    rw [List.takeWhile_append_of_pos fun c hc => by rw [htmp.noSpace c hc]; rfl]
    cases rest with
    | nil => simp
    | cons c rest =>
        rw [List.takeWhile_cons_of_neg (by rw [hrest c rfl]; decide), List.append_nil]
  unfold scanWord
  rw [matchFormat_format ho hspace, Option.bind_some, dropWhile_of_noSpace hspace]
  dsimp only
  rw [hword, if_neg htmp.ne_nil]

/-! ## Reading -/

variable {lib : ConfigScanf K}

/-- The loop body takes a written line to its handler. -/
theorem readLine_of_written {text : List Char} {line : ConfigLine K}
    (h : Written lib.double text line) (cap : ℕ) (r : ConfigReader K) :
    ∃ tmp, r.readLine lib cap text = some { tmp := tmp, ip := r.ip.readLine line } := by
  have hline {o : ConfigOption K} (ho : o ∈ configOptions) {rest : List Char} {l : ConfigLine K}
      (hdeliver : o.deliver lib cap (o.format.toList ++ rest)
        (configTmp o (o.format.toList ++ rest) r.tmp) = some l) :
      ∃ tmp, r.readLine lib cap (o.format.toList ++ rest) =
        some { tmp := tmp, ip := r.ip.readLine l } := by
    refine ⟨configTmp o (o.format.toList ++ rest) r.tmp, ?_⟩
    unfold ConfigReader.readLine
    rw [configOption_format ho]
    dsimp only
    rw [hdeliver]
    rfl
  cases h with
  | word ho hf htmp hrest =>
      refine hline ho ?_
      unfold ConfigOption.deliver configTmp
      rw [hf]
      dsimp only
      rw [scanWord_format ho htmp hrest]
      rfl
  | int ho hf hn hrest =>
      refine hline ho ?_
      unfold ConfigOption.deliver
      rw [hf, matchFormat_format ho (noSpace_intText _ _)]
      dsimp only
      rw [Option.bind_some, scanInt_intText hn hrest]
      rfl
  | long ho hf hn hrest =>
      refine hline ho ?_
      unfold ConfigOption.deliver
      rw [hf, matchFormat_format ho (noSpace_intText _ _)]
      dsimp only
      rw [scanSize_intText hn hrest]
      rfl
  | capacity ho hf hn hrest =>
      refine hline ho ?_
      unfold ConfigOption.deliver
      rw [hf, matchFormat_format ho (noSpace_intText _ _)]
      dsimp only
      rw [scanSize_intText hn hrest]
      rfl
  | double ho hf htext hx =>
      refine hline ho ?_
      unfold ConfigOption.deliver
      rw [hf, matchFormat_format ho htext]
      dsimp only
      rw [Option.bind_some, hx]
  | counts ho hf ha hb hc hd hrest =>
      refine hline ho ?_
      unfold ConfigOption.deliver
      rw [hf, matchFormat_format ho (noSpace_intText _ _)]
      dsimp only
      rw [scanCounts_text ha hb hc hd hrest]
  | other h =>
      refine ⟨r.tmp, ?_⟩
      unfold ConfigReader.readLine
      rw [h]
      rfl

theorem foldl_of_written {texts : List (List Char)} {lines : List (ConfigLine K)}
    (h : List.Forall₂ (Written lib.double) texts lines) (cap : ℕ) (r : ConfigReader K) :
    ∃ tmp, texts.foldl (readConfigLine lib cap) (some r) =
      some { tmp := tmp, ip := r.ip.readInputParameterFromFile lines } := by
  induction h generalizing r with
  | nil => exact ⟨r.tmp, rfl⟩
  | cons hline _ ih =>
      obtain ⟨tmp, hread⟩ := readLine_of_written hline cap r
      rw [List.foldl_cons, readConfigLine, Option.bind_some, hread]
      exact ih { tmp := tmp, ip := r.ip.readLine _ }

/-- A file of written lines is read to its end, and its effect is that of its lines one after the
other: neither the empty lines and comments nor what was in `tmp`, in the array `line` and in the
memory of `cap` before show in the parameters. -/
theorem config_file_read {file : List (List Char × List Char)} {lines : List (ConfigLine K)}
    (hlaid : ∀ l ∈ file, Reader.IsLaidOut l)
    (hwritten : List.Forall₂ (Written lib.double) (file.map Prod.fst) lines) (cap : ℕ)
    (line : List Char) (r : ConfigReader K) :
    ∃ line' tmp,
      Reader.run (readConfigLine lib cap) file.length
          { input := Reader.layout file, line := line, state := some r } =
        some { input := [], line := line',
               state := some { tmp := tmp, ip := r.ip.readInputParameterFromFile lines } } := by
  obtain ⟨line', hrun⟩ :=
    Reader.run_layout (readConfigLine lib cap) hlaid line (some r)
  obtain ⟨tmp, hread⟩ := foldl_of_written hwritten cap r
  refine ⟨line', tmp, ?_⟩
  rw [hrun, hread]

end Written

/-- A file in the style of the samples, for examples. -/
def smallConfigFile : List (List Char × List Char) := [
  ("-DesignTarget: ".toList ++ ("RAM".toList ++ []), ['\n']),
  ("//-CacheAccessMode: Fast".toList, ['\n', ' ']),
  ("-Capacity (KB): ".toList ++ (intText (128 : ℕ) ++ []), []),
  ("-ForceBank (Total AxB, Active CxD): ".toList ++ (intText 8 ++ ("x".toList ++ (intText 8 ++
    (", ".toList ++ (intText 1 ++ ("x".toList ++ (intText 8 ++ []))))))), []),
  ("-ForceMuxSenseAmp: ".toList ++ (intText 16 ++ [' ']), []),
  ("-ApplyAreaConstraint: ".toList ++ "1".toList, [])]

/-- The reader before the first line; `tmp` holds what was in the memory. -/
def ConfigReader.small : ConfigReader ℚ where
  tmp := "Ozone".toList
  ip := { toSettings := .new 0 0 .hp "" 300, toSearchSpace := .reduced }

/-- Conversions that read whole numbers and cut off the others, for examples. -/
def ConfigScanf.small : ConfigScanf ℚ where
  double text := (readNat text).map fun n => (n.1 : ℚ)
  intOverflow n := n.bmod (2 ^ 32)
  longOverflow n := if n < 0 then -2 ^ 63 else 2 ^ 63 - 1

theorem config_file_read_small :
    ∃ line' tmp,
      Reader.run (readConfigLine .small 0) 6
          { input := Reader.layout smallConfigFile, line := [], state := some .small } =
        some { input := [], line := line',
               state := some { tmp := tmp, ip := ConfigReader.small.ip.readInputParameterFromFile [
                 .designTarget "RAM", .other, .capacityKB 128,
                 .forceBank (some 8) (some 8) (some 1) (some 8), .forceMuxSenseAmp (some 16),
                 .applyConstraint .areaOptimized (some 1)] } } := by
  have hall : (smallConfigFile.all fun l =>
      !l.1.contains '\n' && l.1.head?.any (fun c => !isSpace c) && l.2.all isSpace) = true := by
    decide +kernel
  have hlaid : ∀ l ∈ smallConfigFile,
      ('\n' ∉ l.1 ∧ ∃ c ∈ l.1.head?, isSpace c = false) ∧ ∀ c ∈ l.2, isSpace c = true := by
    simpa [List.all_eq_true, Option.any_eq_true] using hall
  have hword : ∀ c ∈ "RAM".toList, isSpace c = false := by
    simp [isSpace]
  have hnil : NoDigit [] := fun c hc => by cases hc
  refine config_file_read (fun l hl => ⟨⟨(hlaid l hl).1.1, (hlaid l hl).1.2⟩, (hlaid l hl).2⟩)
    (.cons ?_ (.cons ?_ (.cons ?_ (.cons ?_ (.cons ?_ (.cons ?_ .nil)))))) 0 [] .small
  · exact .word (o := ⟨"-DesignTarget", "-DesignTarget: ", .word .designTarget⟩)
      (by simp [configOptions]) rfl ⟨by decide, hword⟩ fun c hc => by cases hc
  · exact .other (by decide +kernel)
  · exact .capacity (o := ⟨"-Capacity (KB)", "-Capacity (KB): ", .capacity .capacityKB⟩)
      (by simp [configOptions]) rfl (n := 128) (by decide) hnil
  · exact .counts
      (o := ⟨"-ForceBank", "-ForceBank (Total AxB, Active CxD): ", .counts .forceBank⟩)
      (by simp [configOptions]) rfl (a := 8) (b := 8) (c := 1) (d := 8) (by decide) (by decide)
      (by decide) (by decide) hnil
  · exact .int (o := ⟨"-ForceMuxSenseAmp", "-ForceMuxSenseAmp: ", .int .forceMuxSenseAmp⟩)
      (by simp [configOptions]) rfl (n := 16) (by decide) fun c hc => by
        obtain rfl := Option.some.inj hc
        rfl
  · exact .double (o := ⟨"-ApplyAreaConstraint", "-ApplyAreaConstraint: ",
        .double (.applyConstraint .areaOptimized)⟩)
      (by simp [configOptions]) rfl (fun c hc => by cases hc; rfl) (by decide)

end NVSim
