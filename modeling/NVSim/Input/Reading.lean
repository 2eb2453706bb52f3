import NVSim.Model.Scanf

/-!
# Files are read to their end

A match consumes a line, the end of the line and all whitespace behind it, so the next call
does not find a newline first.  Only the first call can: a file that begins with a newline is
read for ever.
-/

namespace NVSim

open Library

theorem not_isSpace_of_head? {p : List Char} {c : Char}
    (h : (p.dropWhile isSpace).head? = some c) : isSpace c = false := by
  have hnot := List.head?_dropWhile_not isSpace p
  rw [h] at hnot
  simpa using hnot

/-- What is left of a file does not begin with a newline, unless the file does. -/
theorem head?_scanLine {input : List Char} (h : input.head? ≠ some '\n') :
    (scanLine input).2.head? ≠ some '\n' := by
  cases input with
  | nil => exact h
  | cons c rest =>
      have hc : c ≠ '\n' := fun hc => h (by rw [hc, List.head?_cons])
      rw [scanLine, if_neg hc]
      intro hhead
      have hspace : isSpace '\n' = false := not_isSpace_of_head? hhead
      cases hspace

/-- A call that matches consumes something. -/
theorem length_scanLine_lt {input : List Char} (h : input.head? ≠ some '\n')
    (hne : input ≠ []) : (scanLine input).2.length < input.length := by
  cases input with
  | nil => exact absurd rfl hne
  | cons c rest =>
      have hc : c ≠ '\n' := fun hc => h (by rw [hc, List.head?_cons])
      have hdrop : (c :: rest).dropWhile (· ≠ '\n') = rest.dropWhile (· ≠ '\n') := by
        rw [List.dropWhile_cons, if_pos (decide_eq_true hc)]
      rw [scanLine, if_neg hc, hdrop]
      have hspace := (List.dropWhile_suffix (l := rest.dropWhile (· ≠ '\n')) isSpace).length_le
      have hline := (List.dropWhile_suffix (l := rest) (· ≠ '\n')).length_le
      show ((rest.dropWhile (· ≠ '\n')).dropWhile isSpace).length < rest.length + 1
      omega

theorem scanLine_eq_eof_iff {input : List Char} : (scanLine input).1 = .eof ↔ input = [] := by
  cases input with
  | nil => exact iff_of_true rfl rfl
  | cons c rest =>
      rw [scanLine]
      split <;> exact iff_of_false nofun nofun

namespace Reader

variable {σ : Type} {body : σ → List Char → σ}

theorem run_succ {r : Reader σ} (h : (scanLine r.input).1 ≠ .eof) (fuel : ℕ) :
    r.run body (fuel + 1) = (r.step body).run body fuel := by
  simp only [run, loop, decide_eq_true h, if_true, Option.bind_some]

/-- An iteration consumes something and leaves no newline in front. -/
theorem head?_step {r : Reader σ} (h : r.input.head? ≠ some '\n') (hne : r.input ≠ []) :
    (r.step body).input.head? ≠ some '\n' ∧ (r.step body).input.length < r.input.length :=
  ⟨head?_scanLine h, length_scanLine_lt h hne⟩

/-- A file that does not begin with a newline is read in at most as many iterations as it
has characters. -/
theorem exists_run_eq_some (r : Reader σ) (h : r.input.head? ≠ some '\n') :
    ∃ r', r.run body r.input.length = some r' ∧ r'.input = [] := by
  have hstep (r : Reader σ) (hr : r.input.head? ≠ some '\n')
      (hcond : decide ((scanLine r.input).1 ≠ .eof) = true) :
      ∃ r', some (r.step body) = some r' ∧ r'.input.head? ≠ some '\n' ∧
        r'.input.length < r.input.length := by
    have hne : r.input ≠ [] := scanLine_eq_eof_iff.not.1 (of_decide_eq_true hcond)
    exact ⟨r.step body, rfl, head?_step hr hne⟩
  obtain ⟨r', hrun, -, hcond⟩ := loop_ends hstep h (Nat.le_refl _)
  refine ⟨r', hrun, scanLine_eq_eof_iff.1 ?_⟩
  simpa using hcond

/-- The call finds the newline in every iteration. -/
theorem run_eq_none (r : Reader σ) (h : r.input.head? = some '\n') (fuel : ℕ) :
    r.run body fuel = none := by
  have hscan {input : List Char} (hinput : input.head? = some '\n') :
      scanLine input = (.unmatched, input) := by
    obtain ⟨rest, rfl⟩ := List.head?_eq_some_iff.1 hinput
    rfl
  refine loop_eq_none (I := fun r => r.input.head? = some '\n') (fun r hr => ?_) ?_ h fuel
  · rw [hscan hr]
    rfl
  · rintro r r' hr ⟨⟩
    show (scanLine r.input).2.head? = _
    rw [hscan hr]
    exact hr

/-- A line that `fscanf` reads as it stands in the file: it is not empty and begins with no
whitespace. -/
structure IsLine (line : List Char) : Prop where
  noNewline : '\n' ∉ line
  noSpace : ∃ c ∈ line.head?, isSpace c = false

/-- The text of a file with these lines. -/
def text (lines : List (List Char)) : List Char := lines.flatMap (· ++ ['\n'])

theorem dropWhile_text {lines : List (List Char)} (h : ∀ line ∈ lines, IsLine line) :
    (text lines).dropWhile isSpace = text lines := by
  cases lines with
  | nil => rfl
  | cons line lines =>
      obtain ⟨c, hc, hspace⟩ := (h line List.mem_cons_self).noSpace
      obtain ⟨rest, rfl⟩ := List.head?_eq_some_iff.1 hc
      show List.dropWhile isSpace (c :: (rest ++ ['\n'] ++ text lines)) = _
      rw [List.dropWhile_cons_of_neg (by simp [hspace])]
      rfl

/-- A call reads one line of the text. -/
theorem scanLine_text {line : List Char} {lines : List (List Char)}
    (h : ∀ l ∈ line :: lines, IsLine l) :
    scanLine (text (line :: lines)) = (.matched line, text lines) := by
  have hline := h line List.mem_cons_self
  obtain ⟨c, hc, -⟩ := hline.noSpace
  obtain ⟨rest, rfl⟩ := List.head?_eq_some_iff.1 hc
  have hne : c ≠ '\n' := fun heq => hline.noNewline (by simp [heq])
  have hall : ∀ d ∈ c :: rest, decide (d ≠ '\n') = true := fun d hd =>
    decide_eq_true fun heq => hline.noNewline (heq ▸ hd)
  have htext : text ((c :: rest) :: lines) = (c :: rest) ++ '\n' :: text lines := by
    simp [text]
  have htake : ((c :: rest) ++ '\n' :: text lines).takeWhile (· ≠ '\n') = c :: rest := by
    rw [List.takeWhile_append_of_pos hall]
    simp
  have hdrop : ((c :: rest) ++ '\n' :: text lines).dropWhile (· ≠ '\n') =
      '\n' :: text lines := by
    rw [List.dropWhile_append_of_pos hall]
    simp
  have hspace : ('\n' :: text lines).dropWhile isSpace = text lines := by
    rw [List.dropWhile_cons_of_pos (by decide)]
    exact dropWhile_text fun l hl => h l (List.mem_cons_of_mem _ hl)
  rw [htext]
  show scanLine (c :: (rest ++ '\n' :: text lines)) = _
  rw [scanLine, if_neg hne]
  exact congrArg₂ _ (congrArg _ htake) ((congrArg _ hdrop).trans hspace)

/-- The loop runs its body on the lines of a text, one after the other. -/
theorem run_text {lines : List (List Char)} (h : ∀ line ∈ lines, IsLine line)
    (line : List Char) (state : σ) :
    ∃ r, run body lines.length { input := text lines, line := line, state := state } = some r ∧
      r.state = lines.foldl body state := by
  induction lines generalizing line state with
  | nil => exact ⟨_, rfl, rfl⟩
  | cons l lines ih =>
      have hscan := scanLine_text h
      obtain ⟨r, hr, hstate⟩ :=
        ih (fun l' hl' => h l' (List.mem_cons_of_mem l hl')) l (body state l)
      refine ⟨r, ?_, hstate⟩
      have hstep : step body { input := text (l :: lines), line := line, state := state } =
          { input := text lines, line := l, state := body state l } := by
        simp only [step, hscan]
      have hne : (scanLine (text (l :: lines))).1 ≠ .eof := by
        rw [hscan]
        exact nofun
      rw [List.length_cons, run_succ hne, hstep]
      exact hr

/-- The loop ends, whatever its body does with a line, if and only if the file does not
begin with a newline. -/
theorem run_ends_iff (body : σ → List Char → σ) (content line : List Char) (state : σ) :
    (∃ fuel r, run body fuel { input := content, line := line, state := state } = some r) ↔
      content.head? ≠ some '\n' := by
  constructor
  · rintro ⟨fuel, r, hr⟩ hhead
    rw [run_eq_none _ hhead] at hr
    cases hr
  · intro h
    obtain ⟨r, hr, -⟩ := exists_run_eq_some
      { input := content, line := line, state := state } h
    exact ⟨_, r, hr⟩

/-- A file of one newline is read for ever. -/
theorem newline_not_read :
    ¬∃ fuel r, run (fun numLine (_ : List Char) => numLine + 1) fuel
      { input := ['\n'], line := [], state := 0 } = some r := by
  rintro ⟨fuel, r, hr⟩
  rw [run_eq_none _ rfl] at hr
  cases hr

end Reader

end NVSim
