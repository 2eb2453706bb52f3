import NVSim.Library.While

/-!
# Two programs that are the same under an invariant

Two bodies that cannot be told apart in states with an invariant, which both preserve, make
loops that cannot be told apart when they start in such a state.
-/

namespace NVSim
namespace Library

variable {ε α β σ : Type}

/-- The two programs have the same outcome, and what they return has the property `p`. -/
structure SameOn (p : α → Prop) (r r' : Except ε α) : Prop where
  eq : r = r'
  kept : ∀ a, r = .ok a → p a

theorem SameOn.ok {p : α → Prop} {a : α} (h : p a) : SameOn p (.ok a : Except ε α) (.ok a) where
  eq := rfl
  kept b hb := by
    obtain rfl := Except.ok.inj hb
    exact h

theorem SameOn.error (p : α → Prop) (e : ε) : SameOn p (.error e) (.error e) where
  eq := rfl
  kept a h := by cases h

/-- A program that is common to both. -/
theorem SameOn.refl (r : Except ε α) : SameOn (fun _ => True) r r where
  eq := rfl
  kept _ _ := trivial

theorem SameOn.bind {p : α → Prop} {q : β → Prop} {r r' : Except ε α} {f f' : α → Except ε β}
    (h : SameOn p r r') (hf : ∀ a, p a → SameOn q (f a) (f' a)) :
    SameOn q (r >>= f) (r' >>= f') := by
  obtain ⟨rfl, hkept⟩ := h
  cases r with
  | error e => exact .error q e
  | ok a => exact hf a (hkept a rfl)

theorem SameOn.foldlM {p : σ → Prop} {f f' : σ → α → Except ε σ}
    (h : ∀ s a, p s → SameOn p (f s a) (f' s a)) (l : List α) {s : σ} (hs : p s) :
    SameOn p (l.foldlM f s) (l.foldlM f' s) := by
  induction l generalizing s with
  | nil => exact .ok hs
  | cons a l ih =>
      rw [List.foldlM_cons, List.foldlM_cons]
      exact (h s a hs).bind fun s' hs' => ih hs'

/-- The same for a loop that cannot fail. -/
theorem foldl_same {p : σ → Prop} {f f' : σ → α → σ}
    (h : ∀ s a, p s → f s a = f' s a ∧ p (f s a)) (l : List α) {s : σ} (hs : p s) :
    l.foldl f s = l.foldl f' s ∧ p (l.foldl f s) := by
  induction l generalizing s with
  | nil => exact ⟨rfl, hs⟩
  | cons a l ih =>
      obtain ⟨heq, hkept⟩ := h s a hs
      rw [List.foldl_cons, List.foldl_cons, ← heq]
      exact ih hkept

end Library
end NVSim
