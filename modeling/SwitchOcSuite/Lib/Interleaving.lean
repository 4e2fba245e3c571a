import Mathlib.Logic.Relation

/-!
# Processes that take steps in any order

A step of a process takes the shared state on.  A run is any sequence of steps, all of
which meet a condition on the state and the process.

    Reaches.invariant     what every step keeps, every run keeps
    Reaches.component     the same for a part of the state that takes steps of its own
    Runs.reaches          a schedule that can be followed
-/

namespace Interleaving

variable {σ π τ : Type} {step : π → σ → σ} {ok : σ → π → Prop} {s s' : σ}

/-- A run whose steps all meet `ok` takes `s` to `s'`. -/
def Reaches (step : π → σ → σ) (ok : σ → π → Prop) : σ → σ → Prop :=
  Relation.ReflTransGen fun s s' => ∃ p, ok s p ∧ step p s = s'

/-- **Run rule.** -/
theorem Reaches.invariant {I : σ → Prop} (hstep : ∀ s p, I s → ok s p → I (step p s))
    (h : Reaches step ok s s') (hs : I s) : I s' := by
  induction h with
  | refl => exact hs
  | tail _ hlast ih =>
    obtain ⟨p, hp, rfl⟩ := hlast
    exact hstep _ p ih hp

/-- **Component rule.**  Every step of the system is one of the component `f`, and the
steps of the component keep `I`. -/
theorem Reaches.component {f : σ → τ} {R : τ → τ → Prop} {I : τ → Prop}
    (hcomponent : ∀ s p, ok s p → R (f s) (f (step p s)))
    (hstep : ∀ t t', I t → R t t' → I t') (h : Reaches step ok s s') (hs : I (f s)) : I (f s') :=
  h.invariant (I := fun s => I (f s))
    (fun s p hI hp => hstep (f s) (f (step p s)) hI (hcomponent s p hp)) hs

/-- The run of a schedule. -/
theorem reaches_schedule (s : σ) (ps : List π) (hok : ∀ p ∈ ps, ∀ s, ok s p) :
    Reaches step ok s (ps.foldl (fun s p => step p s) s) := by
  induction ps generalizing s with
  | nil => exact .refl
  | cons p ps ih =>
    exact .head ⟨p, hok p (by simp) s, rfl⟩ (ih _ fun q hq => hok q (by simp [hq]))

/-- Every step of a schedule meets `ok`. -/
def Runs (step : π → σ → σ) (ok : σ → π → Prop) : List π → σ → Prop
  | [], _ => True
  | p :: ps, s => ok s p ∧ Runs step ok ps (step p s)

def play (step : π → σ → σ) (ps : List π) (s : σ) : σ := ps.foldl (fun s p => step p s) s

theorem play_append (step : π → σ → σ) (ps qs : List π) (s : σ) :
    play step (ps ++ qs) s = play step qs (play step ps s) := List.foldl_append ..

theorem Runs.append {ps qs : List π} {s : σ} (hps : Runs step ok ps s)
    (hqs : Runs step ok qs (play step ps s)) : Runs step ok (ps ++ qs) s := by
  induction ps generalizing s with
  | nil => exact hqs
  | cons p ps ih => exact ⟨hps.1, ih hps.2 hqs⟩

theorem Runs.reaches {ps : List π} {s : σ} (h : Runs step ok ps s) :
    Reaches step ok s (play step ps s) := by
  induction ps generalizing s with
  | nil => exact .refl
  | cons p ps ih => exact .head ⟨p, h.1, rfl⟩ (ih h.2)

end Interleaving
