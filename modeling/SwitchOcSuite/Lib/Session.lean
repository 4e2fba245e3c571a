import SwitchOcSuite.Lib.Traced

/-!
# Sessions: runs of one call after the other

A system serves calls; each is a traced program, and one that fails ends the
session.  `visits` lists the calls that a session gets to, each with the state it
starts in, so that a statement about a run is one about its visits:

    visits_invariant_of    an invariant of the calls that meet a condition holds
                           wherever a call starts
-/

namespace Traced

variable {ε σ L C : Type} (step : C → Prog ε σ L Unit)

def visits : σ → List C → List (σ × C)
  | _, [] => []
  | s, c :: cs =>
    (s, c) ::
      match (step c s).result with
      | .ok _ => visits (step c s).state cs
      | .error _ => []

variable {step}

theorem visits_cons_of_ok {s : σ} {c : C} (h : (step c s).result = .ok ()) (cs : List C) :
    visits step s (c :: cs) = (s, c) :: visits step (step c s).state cs := by
  simp only [visits, h]

theorem visits_singleton (s : σ) (c : C) : visits step s [c] = [(s, c)] := by
  unfold visits
  split
  · rfl
  · rfl

/-- Only calls of the session are visited. -/
theorem call_mem_of_visits {s : σ} {cs : List C} {v : σ × C} (hv : v ∈ visits step s cs) :
    v.2 ∈ cs := by
  induction cs generalizing s with
  | nil => cases hv
  | cons c cs ih =>
    rcases List.mem_cons.1 hv with rfl | hv
    · exact List.mem_cons_self
    · refine List.mem_cons_of_mem _ ?_
      split at hv
      · exact ih hv
      · cases hv

/-- **Run rule**, for a session whose calls all meet a condition.  What holds at first and is
kept by every call that meets it and succeeds holds wherever a call starts. -/
theorem visits_invariant_of {I : σ → Prop} {Cond : σ → C → Prop}
    (hstep : ∀ s c, I s → Cond s c → (step c s).result = .ok () → I (step c s).state) {s : σ}
    (hs : I s) (cs : List C) (hcond : ∀ v ∈ visits step s cs, Cond v.1 v.2) :
    ∀ v ∈ visits step s cs, I v.1 := by
  induction cs generalizing s with
  | nil =>
    intro v hv
    cases hv
  | cons c cs ih =>
    intro v hv
    cases h : (step c s).result with
    | ok u =>
      rw [visits_cons_of_ok h] at hv hcond
      rcases List.mem_cons.1 hv with rfl | hv
      · exact hs
      · exact ih (hstep s c hs (hcond _ List.mem_cons_self) h)
          (fun v hv => hcond v (List.mem_cons_of_mem _ hv)) v hv
    | error e =>
      simp only [visits, h] at hv
      rw [List.mem_singleton.1 hv]
      exact hs

end Traced
