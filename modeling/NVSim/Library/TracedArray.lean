import Mathlib.Data.List.Basic
import Mathlib.Data.List.GetD
import Mathlib.Tactic.Linarith

/-!
# Arrays that remember their writes

An array of a C program is allocated with a size and then accessed by machine
integers.  Three things can go wrong with such an access: the index is out of
range, the entry is read before it is written, or an entry is silently written
twice.  A `TracedArray` keeps for every entry the list of the values written to
it, so that all three are visible:

* `read` and `write` answer `none` for an index out of range, and `read` also
  for an entry nothing was written to;
* `HoldsUpTo a n k f` says that `a` has `n` entries, that each of the first `k`
  was written exactly once, entry `i` with the value `f i`, and that no other
  entry was written at all;
* `AssignedFrom a n k P` says the same of an array that is filled from its end
  down to entry `k`, with a property of the entries in place of their values.

A compound assignment such as `+=` changes the value of the last write, and so
needs one.
-/

namespace NVSim
namespace Library

/-- An array with the history of every entry, the latest value first. -/
structure TracedArray (α : Type) where
  entries : List (List α)
deriving DecidableEq, Repr

namespace TracedArray

variable {α : Type}

/-- `new α[n]`: nothing has been written yet. -/
def allocate (n : ℕ) : TracedArray α := ⟨List.replicate n []⟩

def size (a : TracedArray α) : ℕ := a.entries.length

/-- The values written to entry `i`, latest first; empty out of range. -/
def history (a : TracedArray α) (i : ℕ) : List α := a.entries.getD i []

/-- The value of `a[i]`, when the index is in range and the entry was written. -/
def read (a : TracedArray α) (i : ℤ) : Option α :=
  if 0 ≤ i then (a.history i.toNat).head? else none

/-- `a[i] = v`, when the index is in range. -/
def write (a : TracedArray α) (i : ℤ) (v : α) : Option (TracedArray α) :=
  if 0 ≤ i ∧ i.toNat < a.size then some ⟨a.entries.modify i.toNat (v :: ·)⟩ else none

/-- `a[i] = g(a[i])`, as a compound assignment: the entry was written. -/
def accumulate (a : TracedArray α) (i : ℤ) (g : α → α) : Option (TracedArray α) := do
  let _ ← a.read i
  some ⟨a.entries.modify i.toNat fun l => (l.head?.map g).toList ++ l.tail⟩

/-- The first `k` of the `n` entries were written exactly once, entry `i` with
`f i`, and the others never. -/
structure HoldsUpTo (a : TracedArray α) (n k : ℕ) (f : ℕ → α) : Prop where
  size_eq : a.size = n
  written : ∀ i < k, a.history i = [f i]
  unwritten : ∀ i, k ≤ i → a.history i = []

@[simp] theorem size_allocate (n : ℕ) : (allocate n : TracedArray α).size = n := by
  simp [allocate, size]

@[simp] theorem history_allocate (n i : ℕ) : (allocate n : TracedArray α).history i = [] := by
  simp [allocate, history, List.getD_eq_getElem?_getD, List.getElem?_replicate]
  split <;> rfl

theorem holdsUpTo_allocate (n : ℕ) (f : ℕ → α) : (allocate n).HoldsUpTo n 0 f where
  size_eq := size_allocate n
  written := by simp
  unwritten := fun i _ => history_allocate n i

/-- Only the written prefix of the describing function matters. -/
theorem HoldsUpTo.congr {a : TracedArray α} {n k : ℕ} {f g : ℕ → α}
    (h : a.HoldsUpTo n k f) (hfg : ∀ i < k, f i = g i) : a.HoldsUpTo n k g where
  size_eq := h.size_eq
  written := fun i hi => by rw [h.written i hi, hfg i hi]
  unwritten := h.unwritten

/-- Reading a written entry delivers its one value. -/
theorem HoldsUpTo.read {a : TracedArray α} {n k : ℕ} {f : ℕ → α} (h : a.HoldsUpTo n k f)
    {j : ℤ} {i : ℕ} (hj : j = i) (hi : i < k) : a.read j = some (f i) := by
  subst hj
  simp [TracedArray.read, h.written i hi]

theorem history_modify (a : TracedArray α) (i j : ℕ) (g : List α → List α) (hi : i < a.size) :
    (⟨a.entries.modify i g⟩ : TracedArray α).history j =
      if i = j then g (a.history j) else a.history j := by
  simp only [history, List.getD_eq_getElem?_getD, List.getElem?_modify]
  by_cases hij : i = j
  · subst hij
    have hsome : a.entries[i]? = some a.entries[i] := List.getElem?_eq_getElem hi
    simp [hsome]
  · simp [hij]

/-- Writing the first unwritten entry extends the written prefix by one. -/
theorem HoldsUpTo.write {a : TracedArray α} {n k : ℕ} {f : ℕ → α} (h : a.HoldsUpTo n k f)
    {j : ℤ} (hj : j = k) (hk : k < n) {v : α} (hv : v = f k) :
    ∃ a', a.write j v = some a' ∧ a'.HoldsUpTo n (k + 1) f := by
  subst hj hv
  have hsize : k < a.size := by rw [h.size_eq]; exact hk
  refine ⟨⟨a.entries.modify k (f k :: ·)⟩, by simp [TracedArray.write, hsize], ?_, ?_, ?_⟩
  · simpa [size] using h.size_eq
  · intro i hi
    rw [history_modify a k i _ hsize]
    by_cases hik : k = i
    · subst hik
      simp [h.unwritten k le_rfl]
    · rw [if_neg hik]
      exact h.written i (by omega)
  · intro i hi
    rw [history_modify a k i _ hsize, if_neg (by omega)]
    exact h.unwritten i (by omega)

/-! ## Arrays that are filled from the end -/

/-- The entries from `k` on were written exactly once and have the property `P`, and the
others were never written. -/
structure AssignedFrom (a : TracedArray α) (n k : ℕ) (P : ℕ → α → Prop) : Prop where
  size_eq : a.size = n
  written : ∀ i, k ≤ i → i < n → ∃ x, a.history i = [x] ∧ P i x
  unwritten : ∀ i < k, a.history i = []

section AssignedFrom

variable {a : TracedArray α} {n k : ℕ} {P : ℕ → α → Prop}

theorem assignedFrom_allocate (n : ℕ) (P : ℕ → α → Prop) :
    (allocate n).AssignedFrom n n P where
  size_eq := size_allocate n
  written := fun i hle hlt => absurd hle (by omega)
  unwritten := fun i _ => history_allocate n i

theorem AssignedFrom.read (h : a.AssignedFrom n k P) {j : ℤ} (hk : (k : ℤ) ≤ j) (hn : j < n) :
    ∃ x, a.read j = some x ∧ P j.toNat x := by
  obtain ⟨x, hx, hP⟩ := h.written j.toNat (by omega) (by omega)
  exact ⟨x, by simp [TracedArray.read, hx, show 0 ≤ j by omega], hP⟩

/-- An array that is filled holds a value with the property at every index. -/
theorem AssignedFrom.exists_reads [Inhabited α] (h : a.AssignedFrom n 0 P) :
    ∃ f : ℕ → α, ∀ i < n, a.read i = some (f i) ∧ P i (f i) := by
  refine ⟨fun i => (a.read i).getD default, fun i hi => ?_⟩
  obtain ⟨x, hread, hP⟩ := h.read (j := i) (by omega) (by omega)
  simp only [hread, Option.getD_some]
  exact ⟨trivial, hP⟩

/-- Writing the last unwritten entry extends the written part by one. -/
theorem AssignedFrom.write (h : a.AssignedFrom n (k + 1) P) {j : ℤ} (hj : j = k) (hk : k < n)
    {x : α} (hx : P k x) : ∃ a', a.write j x = some a' ∧ a'.AssignedFrom n k P := by
  subst hj
  have hsize : k < a.size := by rw [h.size_eq]; exact hk
  refine ⟨⟨a.entries.modify k (x :: ·)⟩, by simp [TracedArray.write, hsize], ?_, ?_, ?_⟩
  · simpa [size] using h.size_eq
  · intro i hle hlt
    rw [history_modify a k i _ hsize]
    by_cases hik : k = i
    · subst hik
      exact ⟨x, by simp [h.unwritten k (Nat.lt_succ_self k)], hx⟩
    · rw [if_neg hik]
      exact h.written i (by omega) hlt
  · intro i hi
    rw [history_modify a k i _ hsize, if_neg (by omega)]
    exact h.unwritten i (by omega)

/-- A compound assignment to a written entry that keeps its property. -/
theorem AssignedFrom.accumulate (h : a.AssignedFrom n k P) {j : ℤ} (hk : (k : ℤ) ≤ j)
    (hn : j < n) {g : α → α} (hg : ∀ x, P j.toNat x → P j.toNat (g x)) :
    ∃ a', a.accumulate j g = some a' ∧ a'.AssignedFrom n k P := by
  obtain ⟨x, hread, -⟩ := h.read hk hn
  have hsize : j.toNat < a.size := by rw [h.size_eq]; omega
  refine ⟨_, by simp only [TracedArray.accumulate, hread]; rfl, ?_, ?_, ?_⟩
  · simpa [size] using h.size_eq
  · intro i hle hlt
    obtain ⟨y, hy, hP⟩ := h.written i hle hlt
    rw [history_modify a j.toNat i _ hsize]
    by_cases hji : j.toNat = i
    · subst hji
      exact ⟨g y, by simp [hy], hg y hP⟩
    · rw [if_neg hji]
      exact ⟨y, hy, hP⟩
  · intro i hi
    rw [history_modify a j.toNat i _ hsize, if_neg (by omega)]
    exact h.unwritten i hi

end AssignedFrom

/-! ## Arrays of other values -/

/-- The array with `f` applied to every value ever written. -/
def map {β : Type} (f : α → β) (a : TracedArray α) : TracedArray β := ⟨a.entries.map (List.map f)⟩

section Map

variable {β : Type} (f : α → β)

@[simp] theorem map_allocate (n : ℕ) : (allocate n : TracedArray α).map f = allocate n := by
  simp [map, allocate]

theorem history_map (a : TracedArray α) (i : ℕ) : (a.map f).history i = (a.history i).map f := by
  simp only [history, map, List.getD_eq_getElem?_getD, List.getElem?_map]
  cases a.entries[i]? with
  | none => rfl
  | some l => rfl

theorem read_map (a : TracedArray α) (i : ℤ) : (a.map f).read i = (a.read i).map f := by
  unfold read
  rw [history_map]
  split
  · exact List.head?_map
  · rfl

theorem write_map (a : TracedArray α) (i : ℤ) (v : α) :
    (a.map f).write i (f v) = (a.write i v).map (map f) := by
  have hsize : (a.map f).size = a.size := List.length_map _
  unfold write
  rw [hsize]
  split
  · refine congrArg (fun l => some (TracedArray.mk l)) ?_
    apply List.ext_getElem?
    intro j
    simp only [map, List.getElem?_modify, List.getElem?_map]
    cases a.entries[j]? with
    | none => rfl
    | some l =>
        by_cases hj : i.toNat = j
        · simp [hj]
        · simp [hj]
  · rfl

theorem HoldsUpTo.map {a : TracedArray α} {n k : ℕ} {g : ℕ → α} (h : a.HoldsUpTo n k g) :
    (a.map f).HoldsUpTo n k fun i => f (g i) where
  size_eq := (List.length_map _).trans h.size_eq
  written := fun i hi => by rw [history_map, h.written i hi]; rfl
  unwritten := fun i hi => by rw [history_map, h.unwritten i hi]; rfl

end Map

end TracedArray

end Library
end NVSim
