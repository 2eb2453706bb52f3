import Mathlib.Tactic.Common

/-!
# Loops that can stop early

Partial-correctness rules for programs in `Except ε`: a `return` in the middle
of a C function is an error value, a `while` loop is a recursion on fuel.  The
fuel a loop is given is the value of its variant, so the loop rule
`yields_whileM` also shows that the loop was left by its own condition.
-/

namespace NVSim
namespace Library

universe u

variable {ε : Type} {σ α β : Type}

/-- The program ends normally in a state with `Q`, or stops early with `E`. -/
def Yields (r : Except ε α) (Q : α → Prop) (E : ε → Prop) : Prop :=
  match r with
  | .ok a => Q a
  | .error e => E e

@[simp] theorem yields_ok {a : α} {Q : α → Prop} {E : ε → Prop} :
    Yields (.ok a : Except ε α) Q E ↔ Q a := Iff.rfl

@[simp] theorem yields_error {e : ε} {Q : α → Prop} {E : ε → Prop} :
    Yields (.error e : Except ε α) Q E ↔ E e := Iff.rfl

theorem Yields.mono {r : Except ε α} {Q Q' : α → Prop} {E E' : ε → Prop}
    (h : Yields r Q E) (hQ : ∀ a, Q a → Q' a) (hE : ∀ e, E e → E' e) : Yields r Q' E' := by
  cases r with
  | ok a => exact hQ a h
  | error e => exact hE e h

/-- A program that never stops early ends normally. -/
theorem Yields.exists_ok {r : Except ε α} {Q : α → Prop} (h : Yields r Q fun _ => False) :
    ∃ a, r = .ok a ∧ Q a := by
  cases r with
  | ok a => exact ⟨a, rfl, h⟩
  | error e => exact h.elim

/-- Sequencing: the second program starts where the first one ended. -/
theorem Yields.bind {r : Except ε α} {f : α → Except ε β} {Q : α → Prop} {Q' : β → Prop}
    {E : ε → Prop} (h : Yields r Q E) (hf : ∀ a, Q a → Yields (f a) Q' E) :
    Yields (r >>= f) Q' E := by
  cases r with
  | ok a => exact hf a h
  | error e => exact h

/-- A sequence ends normally if both programs do. -/
theorem bind_eq_ok {r : Except ε α} {f : α → Except ε β} {b : β} :
    r >>= f = .ok b ↔ ∃ a, r = .ok a ∧ f a = .ok b := by
  cases r with
  | ok a =>
      constructor
      · intro h
        exact ⟨a, rfl, h⟩
      · rintro ⟨a', ha, h⟩
        rw [Except.ok.inj ha]
        exact h
  | error e =>
      constructor
      · intro h
        cases h
      · rintro ⟨a', ha, -⟩
        cases ha

theorem toOption_eq_some_iff {r : Except ε α} {a : α} : r.toOption = some a ↔ r = .ok a := by
  cases r with
  | ok b =>
      constructor
      · intro h
        exact congrArg Except.ok (Option.some.inj h)
      · intro h
        exact congrArg some (Except.ok.inj h)
  | error e =>
      constructor
      · intro h
        cases h
      · intro h
        cases h

/-- Sequencing after a program whose result is known. -/
theorem yields_bind_of_eq {r : Except ε α} {a : α} (hr : r = .ok a) {f : α → Except ε β}
    {Q : β → Prop} {E : ε → Prop} : Yields (r >>= f) Q E ↔ Yields (f a) Q E := by
  subst hr
  exact Iff.rfl

/-- `while (cond) body`, for at most `fuel` iterations. -/
def whileM (cond : σ → Bool) (body : σ → Except ε σ) : ℕ → σ → Except ε σ
  | 0, s => .ok s
  | fuel + 1, s => if cond s then body s >>= whileM cond body fuel else .ok s

/-- The loop rule.  `I` is the invariant and `μ` the variant: it is positive
while the condition holds and every iteration that does not stop early makes it
smaller, so that `μ s` iterations are enough. -/
theorem yields_whileM {cond : σ → Bool} {body : σ → Except ε σ} {I : σ → Prop}
    {E : ε → Prop} {μ : σ → ℕ}
    (hpos : ∀ s, I s → cond s = true → 0 < μ s)
    (hbody : ∀ s, I s → cond s = true → Yields (body s) (fun s' => I s' ∧ μ s' < μ s) E)
    {fuel : ℕ} {s : σ} (hfuel : μ s ≤ fuel) (hI : I s) :
    Yields (whileM cond body fuel s) (fun s' => I s' ∧ cond s' = false) E := by
  induction fuel generalizing s with
  | zero =>
      cases hc : cond s with
      | false => exact ⟨hI, hc⟩
      | true =>
          have := hpos s hI hc
          omega
  | succ fuel ih =>
      unfold whileM
      cases hc : cond s with
      | false => exact ⟨hI, hc⟩
      | true =>
          apply (hbody s hI hc).bind
          rintro s' ⟨hI', hlt⟩
          exact ih (by omega) hI'

/-! ## Programs on two representations -/

section Maps

variable {τ α' β' : Type}

/-- The second program does on the representation `f` what the first one does on the values,
and those it ends with are representable. -/
def Maps (f : α → α') (I : α → Prop) (r : Except ε α) (r' : Except ε α') : Prop :=
  r' = r.map f ∧ ∀ a, r = .ok a → I a

theorem maps_ok {f : α → α'} {I : α → Prop} {a : α} {b : α'} (hb : b = f a) (h : I a) :
    Maps f I (.ok a : Except ε α) (.ok b) :=
  ⟨congrArg Except.ok hb, fun _ heq => Except.ok.inj heq ▸ h⟩

theorem maps_error {f : α → α'} {I : α → Prop} (e : ε) :
    Maps f I (.error e : Except ε α) (.error e) :=
  ⟨rfl, fun _ heq => by cases heq⟩

theorem Maps.bind {f : α → α'} {g : β → β'} {I : α → Prop} {J : β → Prop} {r : Except ε α}
    {r' : Except ε α'} {k : α → Except ε β} {k' : α' → Except ε β'} (h : Maps f I r r')
    (hk : ∀ a, I a → Maps g J (k a) (k' (f a))) : Maps g J (r >>= k) (r' >>= k') := by
  obtain ⟨rfl, hI⟩ := h
  cases r with
  | ok a => exact hk a (hI a rfl)
  | error e => exact maps_error e

/-- A loop runs on the representation if every iteration does. -/
theorem maps_whileM {f : σ → τ} {I : σ → Prop} {cond : σ → Bool} {cond' : τ → Bool}
    {body : σ → Except ε σ} {body' : τ → Except ε τ}
    (hcond : ∀ s, cond' (f s) = cond s)
    (hbody : ∀ s, I s → cond s = true → Maps f I (body s) (body' (f s))) (fuel : ℕ) {s : σ}
    (hs : I s) : Maps f I (whileM cond body fuel s) (whileM cond' body' fuel (f s)) := by
  induction fuel generalizing s with
  | zero => exact maps_ok rfl hs
  | succ fuel ih =>
      unfold whileM
      rw [hcond]
      cases hc : cond s with
      | false => exact maps_ok rfl hs
      | true => exact (hbody s hs hc).bind fun _ => ih

end Maps

end Library
end NVSim
