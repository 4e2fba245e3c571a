import Mathlib.Data.List.Basic
import Mathlib.Logic.Function.Basic
import Mathlib.Tactic.Common

/-!
# Transfers of words

A transfer is a list of pairs, each of which copies the word at its second address to
its first.  As long as no word is read that another pair writes, and none is written
from two places, the order of the pairs does not matter, and neither does who is to
copy which of them.

    Moved        the memory when some of the pairs have been copied
    moved_run    a clean transfer copies what was there before
-/

namespace Transfer

open Function

variable {α β : Type}

/-- No address is written from two places, and none is read and written. -/
structure Clean (P : α × α → Prop) : Prop where
  source : ∀ p, P p → ∀ q, P q → p.1 = q.1 → p.2 = q.2
  apart : ∀ p, P p → ∀ q, P q → p.1 ≠ q.2

/-- What is in memory when the pairs of `D` have been copied. -/
structure Moved (before : α → β) (D : α × α → Prop) (mem : α → β) : Prop where
  written : ∀ p, D p → mem p.1 = before p.2
  kept : ∀ x, (∀ p, D p → p.1 ≠ x) → mem x = before x

theorem Moved.start (before : α → β) : Moved before (fun _ => False) before :=
  ⟨fun _ h => h.elim, fun _ _ => rfl⟩

section
variable [DecidableEq α]

/-- The pairs in their order. -/
def run (pairs : List (α × α)) (mem : α → β) : α → β :=
  pairs.foldl (fun mem p => update mem p.1 (mem p.2)) mem

@[simp] theorem run_nil (mem : α → β) : run [] mem = mem := rfl

@[simp] theorem run_cons (p : α × α) (pairs : List (α × α)) (mem : α → β) :
    run (p :: pairs) mem = run pairs (update mem p.1 (mem p.2)) := rfl

theorem run_append (pairs pairs' : List (α × α)) (mem : α → β) :
    run (pairs ++ pairs') mem = run pairs' (run pairs mem) := List.foldl_append ..

/-- **One pair more.** -/
theorem Moved.step {before mem : α → β} {D P : α × α → Prop} (hP : Clean P)
    (hD : ∀ p, D p → P p) (h : Moved before D mem) {p : α × α} (hp : P p) :
    Moved before (fun q => D q ∨ q = p) (update mem p.1 (mem p.2)) := by
  have hsource : mem p.2 = before p.2 := h.kept _ fun q hq => hP.apart q (hD q hq) p hp
  rw [hsource]
  constructor
  · intro q hq
    by_cases heq : q.1 = p.1
    · have hqP : P q := hq.elim (hD q) fun h => h ▸ hp
      rw [heq, update_self, hP.source q hqP p hp heq]
    · rw [update_of_ne heq]
      rcases hq with hq | rfl
      · exact h.written q hq
      · exact absurd rfl heq
  · intro x hx
    rw [update_of_ne (hx p (.inr rfl)).symm]
    exact h.kept x fun q hq => hx q (.inl hq)

/-- The pairs of a list, after others have been copied. -/
theorem Moved.run {before mem : α → β} {D P : α × α → Prop} (hP : Clean P)
    (hD : ∀ p, D p → P p) (h : Moved before D mem) {pairs : List (α × α)}
    (hpairs : ∀ p ∈ pairs, P p) : Moved before (fun p => D p ∨ p ∈ pairs) (run pairs mem) := by
  induction pairs generalizing D mem with
  | nil =>
    refine ⟨fun p hp => h.written p ?_, fun x hx => h.kept x fun p hp => hx p (.inl hp)⟩
    simpa using hp
  | cons q pairs ih =>
    have hq := hpairs q List.mem_cons_self
    have hstep := ih (D := fun p => D p ∨ p = q) (fun p hp => hp.elim (hD p) fun h => h ▸ hq)
      (h.step hP hD hq) fun p hp => hpairs p (List.mem_cons_of_mem _ hp)
    rw [run_cons]
    refine ⟨fun p hp => hstep.written p ?_, fun x hx => hstep.kept x fun p hp => hx p ?_⟩
    · simpa [or_assoc] using hp
    · simpa [or_assoc] using hp

/-- **A clean transfer** copies what was in memory before. -/
theorem moved_run {pairs : List (α × α)} (h : Clean (· ∈ pairs)) (mem : α → β) :
    Moved mem (· ∈ pairs) (run pairs mem) := by
  have hrun := (Moved.start mem).run h (fun _ hp => hp.elim) fun p hp => hp
  exact ⟨fun p hp => hrun.written p (.inr hp),
    fun x hx => hrun.kept x fun p hp => hx p (hp.resolve_left id)⟩

end

end Transfer
