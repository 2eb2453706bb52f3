import NVSim.Library.Loop

/-!
# Reading a file by lines

The loop `while (fscanf(fp, "%[^\n]\n", line) != EOF)` of `ReadInputParameterFromFile` and of
`ReadCellFromFile`, and the conversions of `sscanf` that do not read a number.  A character
stands for a byte of the file.
-/

namespace NVSim

/-- `isspace`: a blank, or one of the characters from the horizontal tab to the carriage
return. -/
def isSpace (c : Char) : Bool := c = ' ' || 9 ≤ c.toNat && c.toNat ≤ 13

/-- What a call of `fscanf` returns: `EOF`, 0 or 1; with 1 a line is assigned. -/
inductive ScanResult
  | eof | unmatched | matched (line : List Char)
deriving DecidableEq

/-- `fscanf(fp, "%[^\n]\n", line)`: its result and what it leaves of the file.  A line of no
characters is no match, and then nothing is consumed; after a match the whitespace directive
consumes the end of the line, empty lines and the blanks before the next one. -/
def scanLine : List Char → ScanResult × List Char
  | [] => (.eof, [])
  | c :: rest =>
      if c = '\n' then (.unmatched, c :: rest)
      else
        (.matched ((c :: rest).takeWhile (· ≠ '\n')),
          ((c :: rest).dropWhile (· ≠ '\n')).dropWhile isSpace)

/-- The unread part of the file, the array `line` and the object that is filled in. -/
structure Reader (σ : Type) where
  input : List Char
  line : List Char
  state : σ

namespace Reader

variable {σ : Type}

/-- An iteration of the loop.  If nothing was assigned, the body runs on the line of the
iteration before. -/
def step (body : σ → List Char → σ) (r : Reader σ) : Reader σ :=
  let scan := scanLine r.input
  let line := match scan.1 with
    | .matched line => line
    | .unmatched | .eof => r.line
  { input := scan.2, line := line, state := body r.state line }

/-- The loop of a reader with the body `body`. -/
def run (body : σ → List Char → σ) (fuel : ℕ) (r : Reader σ) : Option (Reader σ) :=
  Library.loop (fun r => decide ((scanLine r.input).1 ≠ .eof)) (fun r => some (r.step body)) fuel r

end Reader

/-! ## Conversions of `sscanf` -/

/-- The text of a format before its conversion: a blank stands for any whitespace, and every
other character for itself.  The result is what is left of the line. -/
def matchFormat : List Char → List Char → Option (List Char)
  | [], line => some line
  | c :: format, line =>
      if isSpace c then matchFormat format (line.dropWhile isSpace)
      else match line with
        | [] => none
        | d :: line => if c = d then matchFormat format line else none

/-- `sscanf(line, "… %s", tmp)`; without a word `tmp` keeps its contents. -/
def scanWord (format : String) (line : List Char) : Option (List Char) :=
  (matchFormat format.toList line).bind fun rest =>
    let word := (rest.dropWhile isSpace).takeWhile fun c => !isSpace c
    if word = [] then none else some word

end NVSim
