import SwitchOcSuite.Lib.Traced

/-!
# Invariants of traced programs

    Stable I x    a run of `x` that starts in `I` ends in `I`, whether it fails or not

The rules follow the text of the program, so that only its assignments are left to prove.
-/

namespace Traced

open Prog

variable {ε σ L α β : Type} {I : σ → Prop}

def Stable (I : σ → Prop) (x : Prog ε σ L α) : Prop := ∀ s, I s → I (x s).state

theorem stable_pure (a : α) : Stable I (Pure.pure a : Prog ε σ L α) := fun _ h => h

theorem stable_gets (f : σ → α) : Stable I (gets f : Prog ε σ L α) := fun _ h => h

theorem stable_getState : Stable I (getState : Prog ε σ L σ) := fun _ h => h

theorem stable_ofExcept (x : Except ε α) : Stable I (ofExcept x : Prog ε σ L α) := fun _ h => h

theorem stable_sets {f : σ → σ} (h : ∀ s, I s → I (f s)) : Stable I (sets f : Prog ε σ L Unit) := h

theorem stable_emits {e : σ → L} {f : σ → σ} (h : ∀ s, I s → I (f s)) :
    Stable I (emits e f : Prog ε σ L Unit) := h

theorem stable_bind {x : Prog ε σ L α} {f : α → Prog ε σ L β} (hx : Stable I x)
    (hf : ∀ a, Stable I (f a)) : Stable I (x >>= f) := by
  intro s hs
  cases hres : (x s).result with
  | ok a =>
    rw [bind_of_ok hres]
    exact hf a _ (hx s hs)
  | error e =>
    rw [bind_of_error hres]
    exact hx s hs

theorem stable_ite {c : Prop} [Decidable c] {x y : Prog ε σ L α} (hx : Stable I x)
    (hy : Stable I y) : Stable I (if c then x else y) := by
  split
  · exact hx
  · exact hy

theorem stable_forEach {f : β → Prog ε σ L Unit} (h : ∀ b, Stable I (f b)) (xs : List β) :
    Stable I (forEach xs f) := by
  induction xs with
  | nil => exact stable_pure ()
  | cons x xs ih => exact stable_bind (h x) fun _ => ih

theorem stable_foldEach {f : β → α → Prog ε σ L α} (h : ∀ b a, Stable I (f b a)) (xs : List β)
    (a : α) : Stable I (foldEach xs f a) := by
  induction xs generalizing a with
  | nil => exact stable_pure a
  | cons x xs ih => exact stable_bind (h x a) fun _ => ih _

end Traced
