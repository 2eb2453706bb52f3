import Mathlib.Data.List.Perm.Basic
import Mathlib.Data.Set.BooleanAlgebra
import Mathlib.Data.Set.Disjoint
import Mathlib.Order.CompletePartialOrder

/-!
# Steps with footprints

A state is seen through its properties.  A step is confined to a set of them if it writes no
other one, and what it writes there depends on these properties alone.  Confined steps with
disjoint footprints commute, so a list of them gives the same state in every order.  All of
this may rest on an invariant that every step keeps.
-/

namespace NVSim
namespace Library

variable {σ τ ι : Type*} {V : ι → Type*}

/-- Under the invariant `I` the step `f` writes only the properties in `writes`, and what it
writes depends on nothing else. -/
structure Confined (get : (i : ι) → σ → V i) (I : σ → Prop) (f : σ → σ) (writes : Set ι) :
    Prop where
  inv : ∀ s, I s → I (f s)
  frame : ∀ s, I s → ∀ i ∉ writes, get i (f s) = get i s
  congr : ∀ s s', I s → I s' → (∀ i ∈ writes, get i s = get i s') →
    ∀ i ∈ writes, get i (f s) = get i (f s')

variable {get : (i : ι) → σ → V i} {I : σ → Prop} {f g : σ → σ} {writes writes' : Set ι}

/-- Between steps with disjoint footprints it does not matter which one comes first. -/
theorem Confined.comm (hf : Confined get I f writes) (hg : Confined get I g writes')
    (hdisj : Disjoint writes writes') (hext : ∀ s s', (∀ i, get i s = get i s') → s = s')
    {s : σ} (hs : I s) : f (g s) = g (f s) := by
  have hout {i : ι} (hi : i ∈ writes) : i ∉ writes' := Set.disjoint_left.1 hdisj hi
  have hout' {i : ι} (hi : i ∈ writes') : i ∉ writes := Set.disjoint_right.1 hdisj hi
  apply hext _ _
  intro i
  by_cases hi : i ∈ writes
  · rw [hg.frame _ (hf.inv s hs) i (hout hi)]
    exact hf.congr _ _ (hg.inv s hs) hs (fun j hj => hg.frame s hs j (hout hj)) i hi
  · rw [hf.frame _ (hg.inv s hs) i hi]
    by_cases hi' : i ∈ writes'
    · exact (hg.congr _ _ (hf.inv s hs) hs (fun j hj => hf.frame s hs j (hout' hj)) i hi').symm
    · rw [hg.frame s hs i hi', hg.frame _ (hf.inv s hs) i hi', hf.frame s hs i hi]

section Run

variable {step : σ → τ → σ} {writes : τ → Set ι} {ts ts' : List τ}

/-- A run keeps the invariant. -/
theorem foldl_inv (h : ∀ t ∈ ts, Confined get I (step · t) (writes t)) {s : σ} (hs : I s) :
    I (ts.foldl step s) := by
  induction ts generalizing s with
  | nil => exact hs
  | cons t ts ih =>
      exact ih (fun u hu => h u (List.mem_cons_of_mem t hu)) ((h t List.mem_cons_self).inv s hs)

/-- A run keeps every property that none of its steps writes. -/
theorem foldl_frame (h : ∀ t ∈ ts, Confined get I (step · t) (writes t)) {i : ι}
    (hi : ∀ t ∈ ts, i ∉ writes t) {s : σ} (hs : I s) : get i (ts.foldl step s) = get i s := by
  induction ts generalizing s with
  | nil => rfl
  | cons t ts ih =>
      have ht := h t List.mem_cons_self
      rw [List.foldl_cons, ih (fun u hu => h u (List.mem_cons_of_mem t hu))
        (fun u hu => hi u (List.mem_cons_of_mem t hu)) (ht.inv s hs)]
      exact ht.frame s hs i (hi t List.mem_cons_self)

/-- What the only step that writes a property leaves there, the run does. -/
theorem foldl_get (h : ∀ t ∈ ts, Confined get I (step · t) (writes t))
    (hdisj : ts.Pairwise fun t u => Disjoint (writes t) (writes u)) {t : τ} (ht : t ∈ ts) {i : ι}
    (hi : i ∈ writes t) {s : σ} (hs : I s) : get i (ts.foldl step s) = get i (step s t) := by
  obtain ⟨before, after, rfl⟩ := List.append_of_mem ht
  obtain ⟨-, hafter, hbefore⟩ := List.pairwise_append.1 hdisj
  have hmem {u : τ} (hu : u ∈ before) : u ∈ before ++ t :: after := List.mem_append_left _ hu
  have hmem' {u : τ} (hu : u ∈ after) : u ∈ before ++ t :: after :=
    List.mem_append_right _ (List.mem_cons_of_mem t hu)
  have hstart := foldl_inv (fun u hu => h u (hmem hu)) hs
  rw [List.foldl_append, List.foldl_cons, foldl_frame (fun u hu => h u (hmem' hu))
    (fun u hu => Set.disjoint_left.1 (List.rel_of_pairwise_cons hafter hu) hi)
    ((h t ht).inv _ hstart)]
  refine (h t ht).congr _ _ hstart hs (fun j hj => ?_) i hi
  exact foldl_frame (fun u hu => h u (hmem hu))
    (fun u hu => Set.disjoint_right.1 (hbefore u hu t List.mem_cons_self) hj) hs

/-- A run of steps with disjoint footprints gives the same state in every order. -/
theorem foldl_perm (hperm : ts.Perm ts')
    (h : ∀ t ∈ ts, Confined get I (step · t) (writes t))
    (hdisj : ts.Pairwise fun t u => Disjoint (writes t) (writes u))
    (hext : ∀ s s', (∀ i, get i s = get i s') → s = s') {s : σ} (hs : I s) :
    ts.foldl step s = ts'.foldl step s := by
  induction hperm generalizing s with
  | nil => rfl
  | cons t _ ih =>
      exact ih (fun u hu => h u (List.mem_cons_of_mem t hu)) hdisj.of_cons
        ((h t List.mem_cons_self).inv s hs)
  | swap t u ts =>
      have ht := h t (List.mem_cons_of_mem u List.mem_cons_self)
      have hu := h u List.mem_cons_self
      have htu : Disjoint (writes t) (writes u) :=
        (List.rel_of_pairwise_cons hdisj List.mem_cons_self).symm
      rw [List.foldl_cons, List.foldl_cons, List.foldl_cons, List.foldl_cons,
        ht.comm hu htu hext hs]
  | trans hp _ ih ih' =>
      rw [ih h hdisj hs]
      exact ih' (fun t ht => h t (hp.mem_iff.2 ht)) (hp.pairwise hdisj fun h => h.symm) hs

end Run

end Library
end NVSim
