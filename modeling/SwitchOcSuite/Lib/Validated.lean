import SwitchOcSuite.Lib.WordMem

/-!
# Validate, then commit

Three kinds of program over a fixed notion of write `w`, of allowed error `E` and
of a part `k` of the state that must be kept:

    Checks      reads, and may fail with an allowed error
    Commits     never fails, and keeps `k`
    Validated   fails with an allowed error and nothing written, or succeeds and keeps `k`

Both of the first are `Validated`, and `Checks` in front of a `Validated` program
is `Validated` (`validated_bind`): a program that validates before it commits is
all-or-nothing, whatever the checks and the writes are.
-/

namespace Traced

open Prog

variable {ε σ τ L α β δ : Type}

/-- Every error of `x` is one of `E`. -/
def FailsOnly (E : ε → Prop) (x : Prog ε σ L α) : Prop := ∀ s e, (x s).result = .error e → E e

/-- No run changes `k` of the state. -/
def Keeps (k : σ → τ) (x : Prog ε σ L α) : Prop := ∀ s, k (x s).state = k s

/-! ## Rules for errors and for what is kept -/

section Rules

variable {E : ε → Prop} {k : σ → τ}

theorem NeverFails.failsOnly {x : Prog ε σ L α} (h : NeverFails x) : FailsOnly E x := by
  intro s e he
  obtain ⟨a, ha⟩ := h s
  rw [ha] at he
  cases he

theorem failsOnly_bind {x : Prog ε σ L α} {f : α → Prog ε σ L β} (hx : FailsOnly E x)
    (hf : ∀ a, FailsOnly E (f a)) : FailsOnly E (x >>= f) := by
  intro s e he
  cases h : (x s).result with
  | error e' =>
    rw [bind_of_error h] at he
    cases he
    exact hx s e h
  | ok a =>
    rw [bind_of_ok h, after_result] at he
    exact hf a _ e he

theorem failsOnly_require {c : Prop} [Decidable c] {e : ε} (he : E e) :
    FailsOnly E (require c e : Prog ε σ L Unit) := by
  intro s e' h
  rw [require_run] at h
  by_cases hc : c
  · rw [if_pos hc] at h
    cases h
  · rw [if_neg hc] at h
    cases h
    exact he

theorem keeps_bind {x : Prog ε σ L α} {f : α → Prog ε σ L β} (hx : Keeps k x)
    (hf : ∀ a, Keeps k (f a)) : Keeps k (x >>= f) := by
  intro s
  cases h : (x s).result with
  | error e =>
    rw [bind_of_error h]
    exact hx s
  | ok a =>
    rw [bind_of_ok h, after_state]
    exact (hf a _).trans (hx s)

theorem keeps_forEach {f : β → Prog ε σ L Unit} (h : ∀ b, Keeps k (f b)) (xs : List β) :
    Keeps k (forEach xs f) := by
  induction xs with
  | nil => exact fun _ => rfl
  | cons x xs ih => exact keeps_bind (h x) fun _ => ih

end Rules

/-! ## The three kinds -/

section Kinds

variable (w : L → Prop) (E : ε → Prop) (k : σ → τ)

structure Checks (x : Prog ε σ L α) : Prop where
  readOnly : ReadOnly w x
  failsOnly : FailsOnly E x

structure Commits (x : Prog ε σ L α) : Prop where
  neverFails : NeverFails x
  keeps : Keeps k x

structure Validated (x : Prog ε σ L α) : Prop where
  atomic : Atomic w x
  failsOnly : FailsOnly E x
  keeps : Keeps k x

variable {w E k}

theorem Checks.validated {x : Prog ε σ L α} (h : Checks w E x) : Validated w E k x :=
  ⟨h.readOnly.atomic, h.failsOnly, fun s => congrArg k (h.readOnly s).1⟩

theorem Commits.validated {x : Prog ε σ L α} (h : Commits k x) : Validated w E k x :=
  ⟨h.neverFails.atomic, h.neverFails.failsOnly, h.keeps⟩

/-- **Validation first.** -/
theorem validated_bind {x : Prog ε σ L α} {f : α → Prog ε σ L β} (hx : Checks w E x)
    (hf : ∀ a, Validated w E k (f a)) : Validated w E k (x >>= f) :=
  ⟨atomic_bind hx.readOnly fun a => (hf a).atomic,
    failsOnly_bind hx.failsOnly fun a => (hf a).failsOnly,
    keeps_bind hx.validated.keeps fun a => (hf a).keeps⟩

theorem validated_ite {c : Prop} [Decidable c] {x y : Prog ε σ L α} (hx : Validated w E k x)
    (hy : Validated w E k y) : Validated w E k (if c then x else y) := by
  split
  · exact hx
  · exact hy

theorem checks_bind {x : Prog ε σ L α} {f : α → Prog ε σ L β} (hx : Checks w E x)
    (hf : ∀ a, Checks w E (f a)) : Checks w E (x >>= f) :=
  ⟨readOnly_bind hx.readOnly fun a => (hf a).readOnly,
    failsOnly_bind hx.failsOnly fun a => (hf a).failsOnly⟩

theorem checks_pure (a : α) : Checks w E (Pure.pure a : Prog ε σ L α) :=
  ⟨readOnly_pure a, (neverFails_pure a).failsOnly⟩

theorem checks_fail {e : ε} (he : E e) : Checks w E (fail e : Prog ε σ L α) :=
  ⟨readOnly_fail e, fun _ _ h => by cases h; exact he⟩

theorem checks_require (c : Prop) [Decidable c] {e : ε} (he : E e) :
    Checks w E (require c e : Prog ε σ L Unit) :=
  ⟨readOnly_require c e, failsOnly_require he⟩

theorem checks_ite {c : Prop} [Decidable c] {x y : Prog ε σ L α} (hx : Checks w E x)
    (hy : Checks w E y) : Checks w E (if c then x else y) := by
  split
  · exact hx
  · exact hy

theorem checks_forEach {f : β → Prog ε σ L Unit} (h : ∀ b, Checks w E (f b)) (xs : List β) :
    Checks w E (forEach xs f) := by
  induction xs with
  | nil => exact checks_pure ()
  | cons x xs ih => exact checks_bind (h x) fun _ => ih

theorem commits_bind {x : Prog ε σ L α} {f : α → Prog ε σ L β} (hx : Commits k x)
    (hf : ∀ a, Commits k (f a)) : Commits k (x >>= f) :=
  ⟨neverFails_bind hx.neverFails fun a => (hf a).neverFails,
    keeps_bind hx.keeps fun a => (hf a).keeps⟩

theorem commits_pure (a : α) : Commits k (Pure.pure a : Prog ε σ L α) :=
  ⟨neverFails_pure a, fun _ => rfl⟩

theorem commits_ite {c : Prop} [Decidable c] {x y : Prog ε σ L α} (hx : Commits k x)
    (hy : Commits k y) : Commits k (if c then x else y) := by
  split
  · exact hx
  · exact hy

theorem commits_forEach {f : β → Prog ε σ L Unit} (h : ∀ b, Commits k (f b)) (xs : List β) :
    Commits k (forEach xs f) :=
  ⟨neverFails_forEach (fun b => (h b).neverFails) xs, keeps_forEach (fun b => (h b).keeps) xs⟩

end Kinds

/-! ## Memory operations -/

section Memory

variable {E : ε → Prop} {k : δ → τ}

theorem checks_load (p : Int) :
    Checks Access.IsWrite E (load p : WordProg ε δ UInt32) :=
  ⟨readOnly_load p, (neverFails_load p).failsOnly⟩

theorem checks_loadBlock (head : Int) (n : Nat) :
    Checks Access.IsWrite E (loadBlock head n : WordProg ε δ (List UInt32)) :=
  ⟨readOnly_loadBlock head n, (neverFails_loadBlock head n).failsOnly⟩

theorem checks_expect (p : Int) (v : UInt32) {e : ε} (he : E e) :
    Checks Access.IsWrite E (expect p v e : WordProg ε δ Unit) :=
  checks_bind (checks_load p) fun _ => checks_require _ he

theorem checks_holdsAll (l : List (Int × UInt32)) :
    Checks Access.IsWrite E (holdsAll l : WordProg ε δ Bool) :=
  ⟨readOnly_holdsAll l, (neverFails_holdsAll l).failsOnly⟩

theorem commits_load (p : Int) :
    Commits (fun s : Store δ => k s.dev) (load p : WordProg ε δ UInt32) :=
  ⟨neverFails_load p, fun _ => rfl⟩

theorem commits_store (p : Int) (v : UInt32) :
    Commits (fun s : Store δ => k s.dev) (store p v : WordProg ε δ Unit) :=
  ⟨neverFails_store p v, fun _ => rfl⟩

theorem commits_loadBlock (head : Int) (n : Nat) :
    Commits (fun s : Store δ => k s.dev) (loadBlock head n : WordProg ε δ (List UInt32)) :=
  ⟨neverFails_loadBlock head n, fun _ => rfl⟩

theorem commits_storeBlock (head : Int) (ws : List UInt32) :
    Commits (fun s : Store δ => k s.dev) (storeBlock head ws : WordProg ε δ Unit) :=
  ⟨neverFails_storeBlock head ws, fun _ => rfl⟩

theorem commits_modify (p : Int) (f : UInt32 → UInt32) :
    Commits (fun s : Store δ => k s.dev) (modify p f : WordProg ε δ Unit) :=
  commits_bind (commits_load p) fun _ => commits_store p _

theorem commits_command {f : δ → δ} (h : ∀ d, k (f d) = k d) :
    Commits (fun s : Store δ => k s.dev) (command f : WordProg ε δ Unit) :=
  ⟨neverFails_command f, fun s => h s.dev⟩

end Memory

end Traced
