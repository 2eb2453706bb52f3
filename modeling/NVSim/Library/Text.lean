import Mathlib.Algebra.Ring.Int.Defs
import Mathlib.Data.Int.Basic
import Mathlib.Data.List.Infix

/-!
# Numbers and keys in a text

An integer at the beginning of a text: a sign, if there is one, and decimal digits.  A written
integer is read back when the text goes on with something else than a digit.

A table of keys in which no key begins another one: whatever its order, a text that begins with
a key finds the entry of this key.
-/

namespace NVSim.Library

/-! ## Numbers -/

/-- Reads the decimal digits at the beginning of a text. -/
def readNat (text : List Char) : Option (ℕ × List Char) :=
  let digits := text.takeWhile Char.isDigit
  if digits = [] then none
  else some (Nat.ofDigitChars 10 digits 0, text.dropWhile Char.isDigit)

/-- Reads an integer at the beginning of a text. -/
def readInt (text : List Char) : Option (ℤ × List Char) :=
  if text.head? = some '-' then (readNat text.tail).map fun r => (-r.1, r.2)
  else if text.head? = some '+' then (readNat text.tail).map fun r => (r.1, r.2)
  else (readNat text).map fun r => (r.1, r.2)

/-- Writes an integer. -/
def intText (n : ℤ) : List Char :=
  if n < 0 then '-' :: Nat.toDigits 10 n.natAbs else Nat.toDigits 10 n.natAbs

/-- A text that does not go on with a digit. -/
def NoDigit (rest : List Char) : Prop := ∀ c ∈ rest.head?, c.isDigit = false

theorem isDigit_of_mem_toDigits {n : ℕ} {c : Char} (h : c ∈ Nat.toDigits 10 n) :
    c.isDigit = true :=
  Nat.isDigit_of_mem_toDigits (by omega) (by omega) h

theorem takeWhile_toDigits (n : ℕ) {rest : List Char} (h : NoDigit rest) :
    (Nat.toDigits 10 n ++ rest).takeWhile Char.isDigit = Nat.toDigits 10 n ∧
      (Nat.toDigits 10 n ++ rest).dropWhile Char.isDigit = rest := by
  have hdigits : ∀ c ∈ Nat.toDigits 10 n, c.isDigit = true := fun c hc =>
    isDigit_of_mem_toDigits hc
  rw [List.takeWhile_append_of_pos hdigits, List.dropWhile_append_of_pos hdigits]
  cases rest with
  | nil => simp
  | cons c rest =>
      have hc : ¬ c.isDigit = true := by simp [h c rfl]
      rw [List.takeWhile_cons_of_neg hc, List.dropWhile_cons_of_neg hc, List.append_nil]
      exact ⟨rfl, rfl⟩

theorem readNat_toDigits (n : ℕ) {rest : List Char} (h : NoDigit rest) :
    readNat (Nat.toDigits 10 n ++ rest) = some (n, rest) := by
  obtain ⟨htake, hdrop⟩ := takeWhile_toDigits n h
  unfold readNat
  dsimp only
  rw [htake, hdrop, if_neg Nat.toDigits_ne_nil, Nat.ofDigitChars_ten_toDigits]

theorem exists_toDigits_eq_cons (n : ℕ) :
    ∃ c digits, Nat.toDigits 10 n = c :: digits ∧ c.isDigit = true := by
  have hne : Nat.toDigits 10 n ≠ [] := Nat.toDigits_ne_nil
  obtain ⟨c, digits, htext⟩ := List.exists_cons_of_ne_nil hne
  exact ⟨c, digits, htext, isDigit_of_mem_toDigits (htext ▸ List.mem_cons_self)⟩

/-- The first character of a written integer is a digit or a minus. -/
theorem exists_intText_eq_cons (n : ℤ) :
    ∃ c rest, intText n = c :: rest ∧ (c.isDigit = true ∨ c = '-') := by
  unfold intText
  split
  · exact ⟨'-', _, rfl, .inr rfl⟩
  · obtain ⟨c, digits, htext, hdigit⟩ := exists_toDigits_eq_cons n.natAbs
    exact ⟨c, digits, htext, .inl hdigit⟩

/-- A written integer is read back, and what follows it is left. -/
theorem readInt_intText (n : ℤ) {rest : List Char} (h : NoDigit rest) :
    readInt (intText n ++ rest) = some (n, rest) := by
  unfold readInt intText
  split
  · next hneg =>
    rw [List.cons_append, List.head?_cons, if_pos rfl, List.tail_cons, readNat_toDigits _ h]
    have habs : -(n.natAbs : ℤ) = n := by omega
    rw [Option.map_some, habs]
  · next hnonneg =>
    obtain ⟨c, digits, htext, hdigit⟩ := exists_toDigits_eq_cons n.natAbs
    have hsign (sign : Char) (hsign : sign.isDigit = false) :
        (Nat.toDigits 10 n.natAbs ++ rest).head? ≠ some sign := by
      rw [htext]
      rintro ⟨⟩
      rw [hsign] at hdigit
      cases hdigit
    rw [if_neg (hsign '-' rfl), if_neg (hsign '+' rfl), readNat_toDigits _ h]
    have habs : (n.natAbs : ℤ) = n := by omega
    rw [Option.map_some, habs]

/-! ## Keys -/

/-- In a table without a key that begins another one, the first entry whose key begins a text is
the only one. -/
theorem find?_of_key_prefix {ι α : Type} [BEq α] [LawfulBEq α] {key : ι → List α}
    {table : List ι}
    (h : table.Pairwise fun o p => ¬ key o <+: key p ∧ ¬ key p <+: key o) {o : ι}
    (ho : o ∈ table) {text : List α} (htext : key o <+: text) :
    table.find? (fun p => (key p).isPrefixOf text) = some o := by
  induction table with
  | nil => cases ho
  | cons p table ih =>
      obtain ⟨hp, htable⟩ := List.pairwise_cons.1 h
      rcases List.mem_cons.1 ho with rfl | ho
      · exact List.find?_cons_of_pos (List.isPrefixOf_iff_prefix.2 htext)
      · -- otherwise both keys would begin the text, and one of them the other
        have hnot : ¬ (key p).isPrefixOf text = true := by
          intro hleading
          obtain hpo | hop :=
            List.prefix_or_prefix_of_prefix (List.isPrefixOf_iff_prefix.1 hleading) htext
          · exact (hp o ho).1 hpo
          · exact (hp o ho).2 hop
        have hnext : (p :: table).find? (fun p => (key p).isPrefixOf text) =
            table.find? (fun p => (key p).isPrefixOf text) := List.find?_cons_of_neg hnot
        rw [hnext]
        exact ih htable ho

end NVSim.Library
