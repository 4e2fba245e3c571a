import Mathlib.Logic.Basic
import Mathlib.Tactic.Common

/-!
# Traced programs: state, failure and a log of accesses

A `Prog ε σ L α` maps a state to a result (a value or an error), the state it
leaves and the list of events it logged, in order.  Three facts about a program
compose along `bind`:

    ReadOnly w x    the state is kept and no event satisfies `w`       (readOnly_bind)
    Atomic w x      a failing run of `x` is such a run                 (atomic_bind, atomic_bind_neverFails)
    Traces P x s    every event logged from `s` satisfies `P`          (traces_bind)

`Traces` is an equivalence along `bind`, so a bound on the events of a program is
read off its text without losing anything.
-/

namespace Traced

/-! ## Programs -/

/-- What a run leaves behind. -/
structure Outcome (ε σ L α : Type) where
  result : Except ε α
  state : σ
  log : List L

/-- `l` was logged before the run that ended in `o`. -/
def Outcome.after {ε σ L α : Type} (o : Outcome ε σ L α) (l : List L) : Outcome ε σ L α :=
  { o with log := l ++ o.log }

structure Prog (ε σ L α : Type) where
  run : σ → Outcome ε σ L α

variable {ε σ L α β γ : Type}

instance : CoeFun (Prog ε σ L α) fun _ => σ → Outcome ε σ L α := ⟨Prog.run⟩

namespace Prog

def pure (a : α) : Prog ε σ L α := ⟨fun s => ⟨.ok a, s, []⟩⟩

def bind (x : Prog ε σ L α) (f : α → Prog ε σ L β) : Prog ε σ L β where
  run s :=
    match (x s).result with
    | .ok a => (f a (x s).state).after (x s).log
    | .error e => ⟨.error e, (x s).state, (x s).log⟩

instance : Monad (Prog ε σ L) where
  pure := Prog.pure
  bind := Prog.bind

def fail (e : ε) : Prog ε σ L α := ⟨fun s => ⟨.error e, s, []⟩⟩

/-- Stop with `e` unless `c` holds. -/
def require (c : Prop) [Decidable c] (e : ε) : Prog ε σ L Unit :=
  if c then Prog.pure () else fail e

/-- A part of the state. -/
def gets (f : σ → α) : Prog ε σ L α := ⟨fun s => ⟨.ok (f s), s, []⟩⟩

/-- The whole state. -/
def getState : Prog ε σ L σ := ⟨fun s => ⟨.ok s, s, []⟩⟩

/-- Change the state, with nothing to log. -/
def sets (f : σ → σ) : Prog ε σ L Unit := ⟨fun s => ⟨.ok (), f s, []⟩⟩

/-- Log an event, then change the state. -/
def emits (e : σ → L) (f : σ → σ) : Prog ε σ L Unit := ⟨fun s => ⟨.ok (), f s, [e s]⟩⟩

/-- The value of a computation that may fail. -/
def ofExcept (x : Except ε α) : Prog ε σ L α := ⟨fun s => ⟨x, s, []⟩⟩

/-- One program per list element, in order. -/
def forEach (xs : List β) (f : β → Prog ε σ L Unit) : Prog ε σ L Unit :=
  match xs with
  | [] => Prog.pure ()
  | x :: xs => f x >>= fun _ => forEach xs f

/-- One program per list element, in order, each passing a value on to the next. -/
def foldEach (xs : List β) (f : β → α → Prog ε σ L α) (a : α) : Prog ε σ L α :=
  match xs with
  | [] => Prog.pure a
  | x :: xs => f x a >>= fun a => foldEach xs f a

/-- Run `x`; an error that is `recoverable` is dropped and `y` runs instead. -/
def attempt (recoverable : ε → Bool) (x y : Prog ε σ L α) : Prog ε σ L α where
  run s :=
    match (x s).result with
    | .ok _ => x s
    | .error e => if recoverable e then (y (x s).state).after (x s).log else x s

end Prog

open Prog

/-! ## Running -/

@[simp] theorem after_result (o : Outcome ε σ L α) (l : List L) : (o.after l).result = o.result :=
  rfl

@[simp] theorem after_state (o : Outcome ε σ L α) (l : List L) : (o.after l).state = o.state :=
  rfl

@[simp] theorem after_log (o : Outcome ε σ L α) (l : List L) : (o.after l).log = l ++ o.log :=
  rfl

@[simp] theorem pure_run (a : α) (s : σ) : (Pure.pure a : Prog ε σ L α) s = ⟨.ok a, s, []⟩ :=
  rfl

@[simp] theorem emits_run (e : σ → L) (f : σ → σ) (s : σ) :
    (emits e f : Prog ε σ L Unit) s = ⟨.ok (), f s, [e s]⟩ :=
  rfl

theorem require_run (c : Prop) [Decidable c] (e : ε) (s : σ) :
    (require c e : Prog ε σ L Unit) s = ⟨if c then .ok () else .error e, s, []⟩ := by
  unfold require
  split <;> rfl

theorem bind_of_ok {x : Prog ε σ L α} {f : α → Prog ε σ L β} {s : σ} {a : α}
    (h : (x s).result = .ok a) : (x >>= f) s = (f a (x s).state).after (x s).log := by
  show (Prog.bind x f).run s = _
  simp only [Prog.bind, h]

theorem bind_of_error {x : Prog ε σ L α} {f : α → Prog ε σ L β} {s : σ} {e : ε}
    (h : (x s).result = .error e) : (x >>= f) s = ⟨.error e, (x s).state, (x s).log⟩ := by
  show (Prog.bind x f).run s = _
  simp only [Prog.bind, h]

theorem bind_of_run {x : Prog ε σ L α} {f : α → Prog ε σ L β} {s s' : σ} {a : α}
    (h : x s = ⟨.ok a, s', []⟩) : (x >>= f) s = f a s' := by
  rw [bind_of_ok (congrArg Outcome.result h), h]
  rfl

@[simp] theorem pure_bind_run (a : α) (f : α → Prog ε σ L β) (s : σ) :
    ((Pure.pure a : Prog ε σ L α) >>= f) s = f a s :=
  bind_of_ok (x := (Pure.pure a : Prog ε σ L α)) rfl

@[simp] theorem fail_bind_run (e : ε) (f : α → Prog ε σ L β) (s : σ) :
    ((fail e : Prog ε σ L α) >>= f) s = ⟨.error e, s, []⟩ :=
  bind_of_error (x := (fail e : Prog ε σ L α)) rfl

theorem require_bind_run (c : Prop) [Decidable c] (e : ε) (f : Unit → Prog ε σ L β) (s : σ) :
    (require c e >>= f) s = if c then f () s else ⟨.error e, s, []⟩ := by
  by_cases h : c
  · rw [if_pos h, bind_of_ok (a := ()) (by simp [require_run, h])]
    simp only [require_run, Outcome.after, List.nil_append]
  · rw [if_neg h, bind_of_error (e := e) (by simp [require_run, h])]
    simp only [require_run]

theorem require_bind_of_ok {c : Prop} [Decidable c] {e : ε} {f : Unit → Prog ε σ L β} {s : σ}
    {b : β} (h : ((require c e >>= f) s).result = .ok b) :
    c ∧ (require c e >>= f) s = f () s := by
  rw [require_bind_run] at h ⊢
  by_cases hc : c
  · exact ⟨hc, if_pos hc⟩
  · rw [if_neg hc] at h
    cases h

@[simp] theorem sets_run (f : σ → σ) (s : σ) : (sets f : Prog ε σ L Unit) s = ⟨.ok (), f s, []⟩ :=
  rfl

@[simp] theorem ofExcept_run (x : Except ε α) (s : σ) :
    (ofExcept x : Prog ε σ L α) s = ⟨x, s, []⟩ :=
  rfl

@[simp] theorem getState_bind_run (g : σ → Prog ε σ L β) (s : σ) : (getState >>= g) s = g s s :=
  bind_of_ok (x := (getState : Prog ε σ L σ)) rfl

@[simp] theorem gets_bind_run (f : σ → α) (g : α → Prog ε σ L β) (s : σ) :
    (gets f >>= g) s = g (f s) s :=
  bind_of_ok (x := (gets f : Prog ε σ L α)) rfl

@[simp] theorem sets_bind_run (f : σ → σ) (g : Unit → Prog ε σ L β) (s : σ) :
    (sets f >>= g) s = g () (f s) :=
  bind_of_ok (x := (sets f : Prog ε σ L Unit)) rfl

/-- A sequence succeeds iff its head does and then the rest does. -/
theorem bind_ok_iff {x : Prog ε σ L α} {f : α → Prog ε σ L β} {s : σ} {b : β} :
    ((x >>= f) s).result = .ok b ↔
      ∃ a, (x s).result = .ok a ∧ (f a (x s).state).result = .ok b := by
  cases h : (x s).result with
  | ok a => rw [bind_of_ok h]; simp
  | error e => rw [bind_of_error h]; simp

theorem prog_bind_assoc (x : Prog ε σ L α) (f : α → Prog ε σ L β) (g : β → Prog ε σ L γ) :
    x >>= f >>= g = x >>= fun a => f a >>= g := by
  apply congrArg Prog.mk
  funext s
  show (x >>= f >>= g) s = (x >>= fun a => f a >>= g) s
  cases h : (x s).result with
  | error e => rw [bind_of_error h, bind_of_error (by rw [bind_of_error h]), bind_of_error h]
  | ok a =>
    rw [bind_of_ok h]
    cases hf : (f a (x s).state).result with
    | error e =>
      rw [bind_of_error hf, bind_of_error (e := e) (by rw [bind_of_ok h]; exact hf), bind_of_ok h]
      rfl
    | ok b =>
      rw [bind_of_ok hf, bind_of_ok (a := b) (by rw [bind_of_ok h]; exact hf), bind_of_ok h]
      simp only [Outcome.after, List.append_assoc]

@[simp] theorem forEach_nil (f : β → Prog ε σ L Unit) : forEach [] f = Pure.pure () :=
  rfl

theorem forEach_cons (x : β) (xs : List β) (f : β → Prog ε σ L Unit) :
    forEach (x :: xs) f = f x >>= fun _ => forEach xs f :=
  rfl

theorem prog_pure_bind (a : α) (f : α → Prog ε σ L β) : (Pure.pure a : Prog ε σ L α) >>= f = f a :=
  congrArg Prog.mk (funext fun s => pure_bind_run a f s)

theorem prog_bind_unit (x : Prog ε σ L Unit) : (x >>= fun _ => Pure.pure ()) = x := by
  apply congrArg Prog.mk
  funext s
  show (x >>= fun _ => Pure.pure ()) s = x s
  cases h : (x s).result with
  | error e => rw [bind_of_error h, ← h]
  | ok u =>
    rw [bind_of_ok h]
    show (⟨.ok (), (x s).state, (x s).log ++ []⟩ : Outcome ε σ L Unit) = x s
    rw [List.append_nil, ← h]

theorem forEach_append (xs ys : List β) (f : β → Prog ε σ L Unit) :
    forEach (xs ++ ys) f = forEach xs f >>= fun _ => forEach ys f := by
  induction xs with
  | nil => exact (prog_pure_bind () fun _ => forEach ys f).symm
  | cons x xs ih => rw [List.cons_append, forEach_cons, forEach_cons, ih, prog_bind_assoc]

theorem forEach_congr {xs : List β} {f g : β → Prog ε σ L Unit}
    (h : ∀ x ∈ xs, f x = g x) : forEach xs f = forEach xs g := by
  induction xs with
  | nil => rfl
  | cons x xs ih =>
    rw [forEach_cons, forEach_cons, h x (by simp), ih fun y hy => h y (by simp [hy])]

/-- A loop that succeeds has succeeded in every turn. -/
theorem forEach_turn_ok {f : β → Prog ε σ L Unit} {xs : List β} {s : σ} {u : Unit}
    (h : (forEach xs f s).result = .ok u) {x : β} (hx : x ∈ xs) :
    ∃ t v, (f x t).result = .ok v := by
  induction xs generalizing s with
  | nil => cases hx
  | cons y ys ih =>
    obtain ⟨v, hv, hrest⟩ := bind_ok_iff.1 h
    rcases List.mem_cons.1 hx with rfl | hx
    · exact ⟨s, v, hv⟩
    · exact ih hrest hx

theorem forEach_map (g : γ → β) (xs : List γ) (f : β → Prog ε σ L Unit) :
    forEach (xs.map g) f = forEach xs fun x => f (g x) := by
  induction xs with
  | nil => rfl
  | cons x xs ih => rw [List.map_cons, forEach_cons, forEach_cons, ih]

theorem forEach_flatMap (g : γ → List β) (xs : List γ) (f : β → Prog ε σ L Unit) :
    forEach (xs.flatMap g) f = forEach xs fun x => forEach (g x) f := by
  induction xs with
  | nil => rfl
  | cons x xs ih => rw [List.flatMap_cons, forEach_append, forEach_cons, ih]

theorem forEach_filter (p : β → Prop) [DecidablePred p] (xs : List β) (f : β → Prog ε σ L Unit) :
    forEach (xs.filter p) f = forEach xs fun x => if p x then f x else Pure.pure () := by
  induction xs with
  | nil => rfl
  | cons x xs ih =>
    rw [forEach_cons, ← ih]
    by_cases hp : p x
    · rw [List.filter_cons_of_pos (by simpa using hp), forEach_cons, if_pos hp]
    · rw [List.filter_cons_of_neg (by simpa using hp), if_neg hp, prog_pure_bind]

/-- A loop whose turns but the last leave the state alone. -/
theorem forEach_concat_of_kept {f : β → Prog ε σ L Unit} {s : σ} {xs : List β}
    {x : β} (h : ∀ y ∈ xs, (f y s).result = .ok () ∧ (f y s).state = s)
    (hx : (f x s).result = .ok ()) :
    (forEach (xs ++ [x]) f s).result = .ok () ∧
      (forEach (xs ++ [x]) f s).state = (f x s).state := by
  induction xs with
  | nil =>
    rw [List.nil_append, forEach_cons, bind_of_ok hx]
    exact ⟨rfl, rfl⟩
  | cons y xs ih =>
    obtain ⟨hres, hst⟩ := h y (by simp)
    rw [List.cons_append, forEach_cons, bind_of_ok hres, after_result, after_state, hst]
    exact ih fun z hz => h z (by simp [hz])

/-- A loop whose turns change the state by `g`, without an error. -/
theorem forEach_run {f : β → Prog ε σ L Unit} {g : σ → β → σ}
    (h : ∀ b s, (f b s).result = .ok () ∧ (f b s).state = g s b) (xs : List β) (s : σ) :
    (forEach xs f s).result = .ok () ∧ (forEach xs f s).state = xs.foldl g s := by
  induction xs generalizing s with
  | nil => exact ⟨rfl, rfl⟩
  | cons x xs ih =>
    obtain ⟨hres, hst⟩ := h x s
    rw [forEach_cons, bind_of_ok hres, after_result, after_state, hst]
    exact ih _

/-- **Loop rule.**  If turn `i` takes the state `u i` to `u (i + 1)` without an
error, the loop over `0, …, n - 1` takes `u 0` to `u n`. -/
theorem forEach_range_run {f : Nat → Prog ε σ L Unit} {u : Nat → σ} {n : Nat}
    (hstep : ∀ i < n, (f i (u i)).result = .ok () ∧ (f i (u i)).state = u (i + 1)) :
    (forEach (List.range n) f (u 0)).result = .ok () ∧
      (forEach (List.range n) f (u 0)).state = u n := by
  have key : ∀ m a, a + m = n → (forEach (List.range' a m) f (u a)).result = .ok () ∧
      (forEach (List.range' a m) f (u a)).state = u n := by
    intro m
    induction m with
    | zero =>
      rintro a rfl
      exact ⟨rfl, rfl⟩
    | succ m ih =>
      intro a ha
      obtain ⟨hres, hst⟩ := hstep a (by omega)
      rw [List.range'_succ, forEach_cons, bind_of_ok hres, after_result, after_state, hst]
      exact ih (a + 1) (by omega)
  rw [List.range_eq_range']
  exact key n 0 (by omega)

/-- **Loop rule with an acceptance test.**  Turn `i` takes `u i` to `u (i + 1)` where `p i`
holds, and elsewhere ends with an error in `Bad`: the loop ends in `u n` iff `p` holds of
every turn. -/
theorem forEach_range_cases {f : Nat → Prog ε σ L Unit} {u : Nat → σ} {p : Nat → Prop}
    {Bad : ε → Prop} {n : Nat}
    (hgood : ∀ i < n, p i → (f i (u i)).result = .ok () ∧ (f i (u i)).state = u (i + 1))
    (hbad : ∀ i < n, ¬ p i → ∃ e, Bad e ∧ (f i (u i)).result = .error e) :
    ((∀ i < n, p i) ∧ (forEach (List.range n) f (u 0)).result = .ok () ∧
      (forEach (List.range n) f (u 0)).state = u n) ∨
    (¬ (∀ i < n, p i) ∧ ∃ e, Bad e ∧ (forEach (List.range n) f (u 0)).result = .error e) := by
  have key : ∀ m a, a + m = n →
      ((∀ i, a ≤ i → i < n → p i) ∧ (forEach (List.range' a m) f (u a)).result = .ok () ∧
        (forEach (List.range' a m) f (u a)).state = u n) ∨
      (¬ (∀ i, a ≤ i → i < n → p i) ∧
        ∃ e, Bad e ∧ (forEach (List.range' a m) f (u a)).result = .error e) := by
    intro m
    induction m with
    | zero =>
      rintro a rfl
      exact .inl ⟨fun i h₁ h₂ => absurd h₂ (by omega), rfl, rfl⟩
    | succ m ih =>
      intro a ha
      rw [List.range'_succ, forEach_cons]
      by_cases hp : p a
      · obtain ⟨hres, hst⟩ := hgood a (by omega) hp
        rw [bind_of_ok hres, after_result, after_state, hst]
        rcases ih (a + 1) (by omega) with ⟨hall, hrest⟩ | ⟨hsome, hrest⟩
        · refine .inl ⟨fun i h₁ h₂ => ?_, hrest⟩
          rcases Nat.eq_or_lt_of_le h₁ with rfl | hlt
          · exact hp
          · exact hall i hlt h₂
        · exact .inr ⟨fun h => hsome fun i h₁ h₂ => h i (by omega) h₂, hrest⟩
      · obtain ⟨e, he, hres⟩ := hbad a (by omega) hp
        rw [bind_of_error hres]
        exact .inr ⟨fun h => hp (h a (Nat.le_refl a) (by omega)), e, he, rfl⟩
  rw [List.range_eq_range']
  rcases key n 0 (by omega) with ⟨hall, hrest⟩ | ⟨hsome, hrest⟩
  · exact .inl ⟨fun i hi => hall i (Nat.zero_le i) hi, hrest⟩
  · exact .inr ⟨fun h => hsome fun i _ hi => h i hi, hrest⟩

/-! ## Programs that only compute a value -/

/-- From `s` the value is `a` and the state is kept. -/
def Yields (x : Prog ε σ L α) (s : σ) (a : α) : Prop := (x s).result = .ok a ∧ (x s).state = s

theorem yields_pure (a : α) (s : σ) : Yields (Pure.pure a : Prog ε σ L α) s a :=
  ⟨rfl, rfl⟩

theorem Yields.bind_result {x : Prog ε σ L α} {s : σ} {a : α} (h : Yields x s a)
    (f : α → Prog ε σ L β) : ((x >>= f) s).result = (f a s).result := by
  rw [bind_of_ok h.1, after_result, h.2]

theorem Yields.bind_state {x : Prog ε σ L α} {s : σ} {a : α} (h : Yields x s a)
    (f : α → Prog ε σ L β) : ((x >>= f) s).state = (f a s).state := by
  rw [bind_of_ok h.1, after_state, h.2]

theorem Yields.bind {x : Prog ε σ L α} {f : α → Prog ε σ L β} {s : σ} {a : α} {b : β}
    (h : Yields x s a) (hf : Yields (f a) s b) : Yields (x >>= f) s b :=
  ⟨(h.bind_result f).trans hf.1, (h.bind_state f).trans hf.2⟩

/-! ## Programs that never fail -/

def NeverFails (x : Prog ε σ L α) : Prop := ∀ s, ∃ a, (x s).result = .ok a

theorem neverFails_pure (a : α) : NeverFails (Pure.pure a : Prog ε σ L α) :=
  fun _ => ⟨a, rfl⟩

theorem neverFails_bind {x : Prog ε σ L α} {f : α → Prog ε σ L β} (hx : NeverFails x)
    (hf : ∀ a, NeverFails (f a)) : NeverFails (x >>= f) := by
  intro s
  obtain ⟨a, ha⟩ := hx s
  obtain ⟨b, hb⟩ := hf a (x s).state
  exact ⟨b, bind_ok_iff.2 ⟨a, ha, hb⟩⟩

theorem neverFails_ite {c : Prop} [Decidable c] {x y : Prog ε σ L α} (hx : NeverFails x)
    (hy : NeverFails y) : NeverFails (if c then x else y) := by
  split
  · exact hx
  · exact hy

theorem neverFails_forEach {f : β → Prog ε σ L Unit} (h : ∀ b, NeverFails (f b)) (xs : List β) :
    NeverFails (forEach xs f) := by
  induction xs with
  | nil => exact neverFails_pure ()
  | cons x xs ih => exact neverFails_bind (h x) fun _ => ih

/-- A step that cannot fail is followed by the rest. -/
theorem NeverFails.bind_state {x : Prog ε σ L Unit} (h : NeverFails x) (f : Unit → Prog ε σ L β)
    (s : σ) : ((x >>= f) s).state = (f () (x s).state).state := by
  obtain ⟨u, hu⟩ := h s
  rw [bind_of_ok hu, after_state]

/-! ## Read-only and atomic programs -/

section Writes

variable (w : L → Prop)

/-- The run keeps the state and logs no event that counts as a write. -/
def Untouched (s : σ) (o : Outcome ε σ L α) : Prop := o.state = s ∧ ∀ l ∈ o.log, ¬ w l

def ReadOnly (x : Prog ε σ L α) : Prop := ∀ s, Untouched w s (x s)

/-- All or nothing: a run that fails has written nothing. -/
def Atomic (x : Prog ε σ L α) : Prop :=
  ∀ s e, (x s).result = .error e → Untouched w s (x s)

variable {w}

theorem ReadOnly.atomic {x : Prog ε σ L α} (h : ReadOnly w x) : Atomic w x :=
  fun s _ _ => h s

theorem NeverFails.atomic {x : Prog ε σ L α} (h : NeverFails x) : Atomic w x := by
  intro s e he
  obtain ⟨a, ha⟩ := h s
  rw [ha] at he
  cases he

theorem readOnly_pure (a : α) : ReadOnly w (Pure.pure a : Prog ε σ L α) :=
  fun _ => ⟨rfl, fun _ hl => absurd hl (List.not_mem_nil)⟩

theorem readOnly_fail (e : ε) : ReadOnly w (fail e : Prog ε σ L α) :=
  fun _ => ⟨rfl, fun _ hl => absurd hl (List.not_mem_nil)⟩

theorem readOnly_require (c : Prop) [Decidable c] (e : ε) :
    ReadOnly w (require c e : Prog ε σ L Unit) := by
  unfold require
  split
  · exact readOnly_pure ()
  · exact readOnly_fail e

/-- What runs from an untouched state leaves the first state untouched. -/
theorem Untouched.bind {x : Prog ε σ L α} {f : α → Prog ε σ L β} {s : σ}
    (hx : Untouched w s (x s))
    (hf : ∀ a, (x s).result = .ok a → Untouched w (x s).state (f a (x s).state)) :
    Untouched w s ((x >>= f) s) := by
  cases h : (x s).result with
  | error e => rw [bind_of_error h]; exact hx
  | ok a =>
    rw [bind_of_ok h]
    refine ⟨(hf a h).1.trans hx.1, fun l hl => ?_⟩
    rcases List.mem_append.1 hl with hl | hl
    · exact hx.2 l hl
    · exact (hf a h).2 l hl

theorem Untouched.after {s : σ} {o : Outcome ε σ L α} (h : Untouched w s o) {l : List L}
    (hl : ∀ e ∈ l, ¬ w e) : Untouched w s (o.after l) := by
  refine ⟨h.1, fun e he => ?_⟩
  rcases List.mem_append.1 he with he | he
  · exact hl e he
  · exact h.2 e he

theorem readOnly_bind {x : Prog ε σ L α} {f : α → Prog ε σ L β} (hx : ReadOnly w x)
    (hf : ∀ a, ReadOnly w (f a)) : ReadOnly w (x >>= f) :=
  fun s => (hx s).bind fun a _ => hf a _

/-- A check that was passed leaves the rest to decide. -/
theorem ReadOnly.bind_ok {x : Prog ε σ L α} {f : α → Prog ε σ L β} {s : σ} {b : β}
    (hx : ReadOnly w x) (h : ((x >>= f) s).result = .ok b) :
    ∃ a, (x s).result = .ok a ∧ (f a s).result = .ok b ∧
      ((x >>= f) s).state = (f a s).state := by
  obtain ⟨a, ha, hf⟩ := bind_ok_iff.1 h
  rw [(hx s).1] at hf
  refine ⟨a, ha, hf, ?_⟩
  rw [bind_of_ok ha, after_state, (hx s).1]

theorem readOnly_ite {c : Prop} [Decidable c] {x y : Prog ε σ L α} (hx : ReadOnly w x)
    (hy : ReadOnly w y) : ReadOnly w (if c then x else y) := by
  split
  · exact hx
  · exact hy

theorem readOnly_forEach {f : β → Prog ε σ L Unit} (h : ∀ b, ReadOnly w (f b)) (xs : List β) :
    ReadOnly w (forEach xs f) := by
  induction xs with
  | nil => exact readOnly_pure ()
  | cons x xs ih => exact readOnly_bind (h x) fun _ => ih

/-- Validation in front of an atomic program. -/
theorem atomic_bind {x : Prog ε σ L α} {f : α → Prog ε σ L β} (hx : ReadOnly w x)
    (hf : ∀ a, Atomic w (f a)) : Atomic w (x >>= f) := by
  intro s e he
  refine (hx s).bind fun a ha => hf a _ e ?_
  rwa [bind_of_ok ha, after_result] at he

end Writes

/-! ## Bounds on the log -/

/-- Every event that `x` logs when run from `s` satisfies `P`. -/
def Traces (P : L → Prop) (x : Prog ε σ L α) (s : σ) : Prop := ∀ l ∈ (x s).log, P l

variable {P : L → Prop}

@[simp] theorem traces_pure (a : α) (s : σ) : Traces P (Pure.pure a : Prog ε σ L α) s :=
  fun _ hl => absurd hl (List.not_mem_nil)

@[simp] theorem traces_fail (e : ε) (s : σ) : Traces P (fail e : Prog ε σ L α) s :=
  fun _ hl => absurd hl (List.not_mem_nil)

@[simp] theorem traces_require (c : Prop) [Decidable c] (e : ε) (s : σ) :
    Traces P (require c e : Prog ε σ L Unit) s := by
  intro l hl
  rw [require_run] at hl
  cases hl

/-- The head's events and, if it succeeds, those of the rest. -/
theorem traces_bind {x : Prog ε σ L α} {f : α → Prog ε σ L β} {s : σ} :
    Traces P (x >>= f) s ↔
      Traces P x s ∧ ∀ a, (x s).result = .ok a → Traces P (f a) (x s).state := by
  cases h : (x s).result with
  | error e =>
    unfold Traces
    rw [bind_of_error h]
    simp
  | ok a =>
    unfold Traces
    rw [bind_of_ok h]
    simp [or_imp, forall_and]

theorem traces_bind_of_ok {x : Prog ε σ L α} {f : α → Prog ε σ L β} {s : σ} {a : α}
    (h : (x s).result = .ok a) :
    Traces P (x >>= f) s ↔ Traces P x s ∧ Traces P (f a) (x s).state := by
  rw [traces_bind]
  refine and_congr_right fun _ => ⟨fun hf => hf a h, fun hf b hb => ?_⟩
  rw [h] at hb
  cases hb
  exact hf

theorem traces_gets_bind (f : σ → α) (g : α → Prog ε σ L β) (s : σ) :
    Traces P (gets f >>= g) s ↔ Traces P (g (f s)) s := by
  unfold Traces
  rw [gets_bind_run]

theorem traces_attempt {r : ε → Bool} {x y : Prog ε σ L α} {s : σ} :
    Traces P (attempt r x y) s ↔
      Traces P x s ∧ ∀ e, (x s).result = .error e → r e = true → Traces P y (x s).state := by
  unfold Traces attempt
  cases h : (x s).result with
  | ok a => simp [h]
  | error e => cases hr : r e <;> simp [h, hr, or_imp, forall_and]

/-- A loop whose turns never fail: each turn's events, from the state it is reached in. -/
theorem traces_forEach_range {f : Nat → Prog ε σ L Unit} (hf : ∀ i, NeverFails (f i)) (n : Nat)
    (s : σ) :
    Traces P (forEach (List.range n) f) s ↔
      ∀ i < n, Traces P (f i) (forEach (List.range i) f s).state := by
  induction n with
  | zero => exact ⟨fun _ i hi => absurd hi (Nat.not_lt_zero i), fun _ => traces_pure () s⟩
  | succ n ih =>
    have hsplit : Traces P (forEach (List.range (n + 1)) f) s ↔
        Traces P (forEach (List.range n) f) s ∧ Traces P (f n) (forEach (List.range n) f s).state := by
      obtain ⟨v, hv⟩ := neverFails_forEach hf (List.range n) s
      have hlast : ∀ t, Traces P (forEach [n] f) t ↔ Traces P (f n) t := fun t => by
        rw [forEach_cons, traces_bind]
        exact and_iff_left fun _ _ => traces_pure () _
      rw [List.range_succ, forEach_append, traces_bind]
      refine and_congr_right fun _ => ⟨fun h => (hlast _).1 (h v hv), fun h _ _ => (hlast _).2 h⟩
    refine hsplit.trans ((and_congr_left fun _ => ih).trans ?_)
    constructor
    · rintro ⟨h₁, h₂⟩ i hi
      rcases Nat.lt_succ_iff_lt_or_eq.1 hi with hlt | rfl
      · exact h₁ i hlt
      · exact h₂
    · exact fun h => ⟨fun i hi => h i (by omega), h n (by omega)⟩

/-- **Loop rule for events.**  What a turn preserves when it succeeds holds at every turn. -/
theorem traces_forEach_of_invariant {f : β → Prog ε σ L Unit} {I : σ → Prop} {xs : List β}
    (hkept : ∀ x ∈ xs, ∀ s, I s → (f x s).result = .ok () → I (f x s).state)
    (h : ∀ x ∈ xs, ∀ s, I s → Traces P (f x) s) {s : σ} (hs : I s) :
    Traces P (forEach xs f) s := by
  induction xs generalizing s with
  | nil => exact traces_pure () s
  | cons x xs ih =>
    refine traces_bind.2 ⟨h x (by simp) s hs, fun u hu => ?_⟩
    exact ih (fun y hy => hkept y (by simp [hy])) (fun y hy => h y (by simp [hy]))
      (hkept x (by simp) s hs hu)

/-- Every event of `x`, whatever it is run from, satisfies `P`. -/
def Stays (P : L → Prop) (x : Prog ε σ L α) : Prop := ∀ s, Traces P x s

theorem stays_pure (a : α) : Stays P (Pure.pure a : Prog ε σ L α) :=
  fun s => traces_pure a s

theorem stays_require (c : Prop) [Decidable c] (e : ε) :
    Stays P (require c e : Prog ε σ L Unit) :=
  fun s => traces_require c e s

theorem stays_gets (f : σ → α) : Stays P (gets f : Prog ε σ L α) :=
  fun _ _ hl => absurd hl (List.not_mem_nil)

theorem stays_getState : Stays P (getState : Prog ε σ L σ) :=
  fun _ _ hl => absurd hl (List.not_mem_nil)

theorem stays_sets (f : σ → σ) : Stays P (sets f : Prog ε σ L Unit) :=
  fun _ _ hl => absurd hl (List.not_mem_nil)

theorem stays_ofExcept (x : Except ε α) : Stays P (ofExcept x : Prog ε σ L α) :=
  fun _ _ hl => absurd hl (List.not_mem_nil)

theorem stays_emits {e : σ → L} (h : ∀ s, P (e s)) (f : σ → σ) :
    Stays P (emits e f : Prog ε σ L Unit) := by
  intro s l hl
  rw [List.mem_singleton.1 hl]
  exact h s

theorem stays_bind {x : Prog ε σ L α} {f : α → Prog ε σ L β} (hx : Stays P x)
    (hf : ∀ a, Stays P (f a)) : Stays P (x >>= f) :=
  fun s => traces_bind.2 ⟨hx s, fun a _ => hf a _⟩

theorem stays_ite {c : Prop} [Decidable c] {x y : Prog ε σ L α} (hx : Stays P x)
    (hy : Stays P y) : Stays P (if c then x else y) := by
  split
  · exact hx
  · exact hy

theorem stays_foldEach {f : β → α → Prog ε σ L α} (h : ∀ b a, Stays P (f b a)) (xs : List β)
    (a : α) : Stays P (foldEach xs f a) := by
  induction xs generalizing a with
  | nil => exact stays_pure a
  | cons x xs ih => exact stays_bind (h x a) fun _ => ih _

theorem stays_forEach {f : β → Prog ε σ L Unit} {xs : List β} (h : ∀ b ∈ xs, Stays P (f b)) :
    Stays P (forEach xs f) := by
  induction xs with
  | nil => exact stays_pure ()
  | cons x xs ih =>
    exact stays_bind (h x (by simp)) fun _ => ih fun b hb => h b (by simp [hb])

end Traced
