import Mathlib.Data.List.Nodup
import Mathlib.Order.Lattice
import Mathlib.Tactic.Common

/-!
# Nests of loops

A counting loop is given by the values its variable takes; they are computed by a recursion on
fuel, and `none` says that the fuel did not suffice.  A loop around another one collects what
the inner loop delivers, one value after the other.

A nest of loops enumerates a set of entries each exactly once if every loop takes each of its
values once and the entries of different values differ.  The predicates are stated so that the
rule for one loop applies to the next one further outside: what is fixed by the outer loops,
and what the loop and those inside it range over.
-/

namespace NVSim
namespace Library

variable {α β : Type*}

/-- The values of `x` in `for (; x <= bound; x = next(x))`. -/
def walk [LinearOrder β] (next : β → β) (bound : β) : ℕ → β → Option (List β)
  | 0, x => if x ≤ bound then none else some []
  | fuel + 1, x => if x ≤ bound then (walk next bound fuel (next x)).map (x :: ·) else some []

/-- A loop around a body that delivers entries. -/
def forLoop (values : Option (List β)) (body : β → Option (List α)) : Option (List α) :=
  values.bind fun xs => (xs.mapM body).map List.flatten

/-- The program ends, and delivers the entries with `P`, each once. -/
def EnumeratesOnce (xs : Option (List α)) (P : α → Prop) : Prop :=
  ∃ ys, xs = some ys ∧ ys.Nodup ∧ ∀ y, y ∈ ys ↔ P y

namespace EnumeratesOnce

variable {xs : Option (List α)} {P Q : α → Prop}

theorem congr (h : EnumeratesOnce xs P) (hPQ : ∀ x, P x ↔ Q x) : EnumeratesOnce xs Q := by
  obtain ⟨ys, hys, hnodup, hmem⟩ := h
  exact ⟨ys, hys, hnodup, fun y => (hmem y).trans (hPQ y)⟩

theorem isSome (h : EnumeratesOnce xs P) : xs.isSome := by
  obtain ⟨ys, rfl, -⟩ := h
  rfl

theorem singleton (x : α) : EnumeratesOnce (some [x]) fun y => y = x :=
  ⟨[x], rfl, List.nodup_singleton x, fun _ => List.mem_singleton⟩

end EnumeratesOnce

/-! ## Entries -/

section ForLoop

variable {values : Option (List β)} {body : β → Option (List α)}

theorem enumeratesOnce_mapM {P : β → α → Prop} {key : α → β} {ns : List β} (hns : ns.Nodup)
    (hbody : ∀ n ∈ ns, EnumeratesOnce (body n) (P n)) (hkey : ∀ n y, P n y → key y = n) :
    EnumeratesOnce ((ns.mapM body).map List.flatten) fun y => key y ∈ ns ∧ P (key y) y := by
  induction ns with
  | nil => exact ⟨[], rfl, List.nodup_nil, by simp⟩
  | cons n ns ih =>
      obtain ⟨hn, hns⟩ := List.nodup_cons.1 hns
      obtain ⟨xs, hxs, hnodup, hmem⟩ := hbody n List.mem_cons_self
      obtain ⟨ys, hys, hnodup', hmem'⟩ :=
        ih hns fun m hm => hbody m (List.mem_cons_of_mem n hm)
      obtain ⟨yss, hyss, rfl⟩ := Option.map_eq_some_iff.1 hys
      refine ⟨xs ++ yss.flatten, ?_, ?_, fun y => ?_⟩
      · rw [List.mapM_cons, hxs, hyss]
        rfl
      · -- an entry of the rest has another key
        apply hnodup.append hnodup'
        intro y hy hy'
        have hfirst := hkey n y ((hmem y).1 hy)
        have hrest := ((hmem' y).1 hy').1
        rw [hfirst] at hrest
        exact hn hrest
      · rw [List.mem_append, hmem, hmem']
        simp only [List.mem_cons]
        constructor
        · rintro (hy | ⟨hy, hP⟩)
          · have hn := hkey n y hy
            exact ⟨.inl hn, by rw [hn]; exact hy⟩
          · exact ⟨.inr hy, hP⟩
        · rintro ⟨hn | hy, hP⟩
          · rw [hn] at hP
            exact .inl hP
          · exact .inr ⟨hy, hP⟩

/-- The rule of a loop in a nest: the outer loops have fixed `E`, this one ranges over `V`, and
the inner ones over `R`. -/
theorem enumeratesOnce_forLoop {V : β → Prop} (E : α → Prop) (key : α → β)
    {R : β → α → Prop}
    (hvalues : EnumeratesOnce values V)
    (hbody : ∀ n, V n → EnumeratesOnce (body n) fun y => (E y ∧ key y = n) ∧ R n y) :
    EnumeratesOnce (forLoop values body) fun y => E y ∧ V (key y) ∧ R (key y) y := by
  obtain ⟨ns, rfl, hnodup, hmem⟩ := hvalues
  have hentries := enumeratesOnce_mapM hnodup (fun n hn => hbody n ((hmem n).1 hn))
    fun n y hy => hy.1.2
  apply hentries.congr
  intro y
  rw [hmem]
  constructor
  · rintro ⟨hV, ⟨hE, -⟩, hR⟩
    exact ⟨hE, hV, hR⟩
  · rintro ⟨hE, hV, hR⟩
    exact ⟨hV, ⟨hE, rfl⟩, hR⟩

theorem isSome_values (h : (forLoop values body).isSome) : values.isSome := by
  cases values with
  | none => exact h
  | some xs => rfl

theorem isSome_body {n : β} {ns : List β} (h : (forLoop (some (n :: ns)) body).isSome) :
    (body n).isSome := by
  cases hn : body n with
  | some xs => rfl
  | none =>
      have hnone : forLoop (some (n :: ns)) body = none := by
        show ((n :: ns).mapM body).map List.flatten = none
        rw [List.mapM_cons, hn]
        rfl
      rw [hnone] at h
      exact h

end ForLoop

/-! ## Values -/

section Walk

variable [LinearOrder β] {next : β → β} {bound x : β} {fuel : ℕ}

theorem walk_of_lt (h : bound < x) (fuel : ℕ) : walk next bound fuel x = some [] := by
  cases fuel with
  | zero => exact if_neg (not_le.2 h)
  | succ fuel => exact if_neg (not_le.2 h)

/-- A loop that is entered takes its start value first. -/
theorem eq_cons_of_walk {xs : List β} (h : walk next bound fuel x = some xs) (hx : x ≤ bound) :
    ∃ ys, xs = x :: ys := by
  cases fuel with
  | zero =>
      rw [walk, if_pos hx] at h
      cases h
  | succ fuel =>
      rw [walk, if_pos hx] at h
      obtain ⟨ys, -, rfl⟩ := Option.map_eq_some_iff.1 h
      exact ⟨ys, rfl⟩

/-- If a loop in a nest ends and is entered, then its body ends for the start value. -/
theorem isSome_body_of_walk {body : β → Option (List α)}
    (h : (forLoop (walk next bound fuel x) body).isSome) (hx : x ≤ bound) :
    (body x).isSome := by
  obtain ⟨xs, hxs⟩ := Option.isSome_iff_exists.1 (isSome_values h)
  obtain ⟨ys, rfl⟩ := eq_cons_of_walk hxs hx
  rw [hxs] at h
  exact isSome_body h

/-- The rule of the endless loop: the invariant keeps the value within the bound. -/
theorem walk_eq_none {I : β → Prop} (hbound : ∀ y, I y → y ≤ bound) (hnext : ∀ y, I y → I (next y))
    (hx : I x) (fuel : ℕ) : walk next bound fuel x = none := by
  induction fuel generalizing x with
  | zero => exact if_pos (hbound x hx)
  | succ fuel ih => rw [walk, if_pos (hbound x hx), ih (hnext x hx), Option.map_none]

/-- The rule of the increasing loop: `V x` are the values from `x` on, and the invariant says
that the fuel suffices. -/
theorem enumeratesOnce_walk {V : β → β → Prop} {I : ℕ → β → Prop}
    (hV : ∀ y n, V y n → y ≤ n ∧ n ≤ bound) (hend : ∀ y, I 0 y → bound < y)
    (hnext : ∀ fuel y, I (fuel + 1) y → y ≤ bound →
      y < next y ∧ I fuel (next y) ∧ ∀ n, V y n ↔ n = y ∨ V (next y) n)
    (hx : I fuel x) : EnumeratesOnce (walk next bound fuel x) (V x) := by
  have hempty (fuel : ℕ) (y : β) (h : bound < y) :
      EnumeratesOnce (walk next bound fuel y) (V y) :=
    ⟨[], walk_of_lt h fuel, List.nodup_nil, fun n => iff_of_false List.not_mem_nil fun hn =>
      not_le.2 h (le_trans (hV y n hn).1 (hV y n hn).2)⟩
  induction fuel generalizing x with
  | zero => exact hempty 0 x (hend x hx)
  | succ fuel ih =>
      rcases lt_or_ge bound x with h | h
      · exact hempty _ x h
      · obtain ⟨hlt, hI, hvalues⟩ := hnext fuel x hx h
        obtain ⟨xs, hxs, hnodup, hmem⟩ := ih hI
        refine ⟨x :: xs, by rw [walk, if_pos h, hxs, Option.map_some], ?_, fun n => ?_⟩
        · refine List.nodup_cons.2 ⟨fun hmemx => ?_, hnodup⟩
          exact not_le.2 hlt (hV _ x ((hmem x).1 hmemx)).1
        · rw [List.mem_cons, hmem, hvalues n]

end Walk

end Library
end NVSim
