import Mathlib.Data.List.Basic

/-!
# The maximum of a list, and of what is below each entry of a stack

Two lists have the same maximum if nothing in one exceeds all of the other
(`max?_eq_max?_iff`).  `runningMax` is what a stack keeps beside its entries to know its
maximum at any time: for each entry the maximum of it and all below.

    head?_runningMax             the top is the maximum of the stack
    getElem?_reverse_runningMax  turned over, the maxima of the first entries
-/

namespace Peak

section

variable {T : Type} [Max T]

/-- For each entry, top first, the maximum of it and all below. -/
def runningMax : List T → List T
  | [] => []
  | x :: l => (runningMax l).head?.elim x (max x) :: runningMax l

@[simp] theorem length_runningMax (l : List T) : (runningMax l).length = l.length := by
  induction l with
  | nil => rfl
  | cons x l ih => simp [runningMax, ih]

theorem drop_runningMax (l : List T) (n : Nat) :
    (runningMax l).drop n = runningMax (l.drop n) := by
  induction n generalizing l with
  | zero => rfl
  | succ n ih =>
    cases l with
    | nil => rfl
    | cons x l => exact ih l

end

variable {T : Type} [LE T] [Max T] [Std.IsLinearOrder T] [Std.LawfulOrderMax T]

theorem exists_max? {l : List T} (h : l ≠ []) : ∃ m, l.max? = some m := by
  cases l with
  | nil => exact absurd rfl h
  | cons x l => exact ⟨_, List.max?_cons⟩

/-- **The maxima agree** if no value of one list exceeds all of the other. -/
theorem max?_eq_max?_iff (l l' : List T) :
    l.max? = l'.max? ↔ (∀ x ∈ l, ∃ y ∈ l', x ≤ y) ∧ ∀ y ∈ l', ∃ x ∈ l, y ≤ x := by
  constructor
  · intro h
    have hbelow : ∀ l l' : List T, l.max? = l'.max? → ∀ x ∈ l, ∃ y ∈ l', x ≤ y := by
      intro l l' h x hx
      obtain ⟨m, hm⟩ := exists_max? (List.ne_nil_of_mem hx)
      have hm' := List.max?_eq_some_iff.1 (h ▸ hm)
      exact ⟨m, hm'.1, (List.max?_eq_some_iff.1 hm).2 x hx⟩
    exact ⟨hbelow l l' h, hbelow l' l h.symm⟩
  · rintro ⟨hbelow, habove⟩
    cases l with
    | nil =>
      cases l' with
      | nil => rfl
      | cons y l' =>
        obtain ⟨x, hx, -⟩ := habove y List.mem_cons_self
        exact absurd hx List.not_mem_nil
    | cons x l =>
      obtain ⟨m, hm⟩ := exists_max? (List.cons_ne_nil x l)
      rw [hm]
      obtain ⟨hmem, hle⟩ := List.max?_eq_some_iff.1 hm
      obtain ⟨y, hy, hmy⟩ := hbelow m hmem
      obtain ⟨x', hx', hyx'⟩ := habove y hy
      have hym : y = m := Std.le_antisymm (Std.le_trans hyx' (hle x' hx')) hmy
      refine (List.max?_eq_some_iff.2 ⟨hym ▸ hy, fun z hz => ?_⟩).symm
      obtain ⟨x', hx', hzx'⟩ := habove z hz
      exact Std.le_trans hzx' (hle x' hx')

/-- Lists with the same values. -/
theorem max?_congr {l l' : List T} (h : ∀ x, x ∈ l ↔ x ∈ l') : l.max? = l'.max? := by
  rw [max?_eq_max?_iff]
  constructor
  · exact fun x hx => ⟨x, (h x).1 hx, Std.le_refl x⟩
  · exact fun x hx => ⟨x, (h x).2 hx, Std.le_refl x⟩

/-- Two lists with a common part. -/
theorem max?_append_eq_iff (kept l l' : List T) :
    (kept ++ l).max? = (kept ++ l').max? ↔
      (∀ x ∈ l, ∃ y ∈ kept ++ l', x ≤ y) ∧ ∀ y ∈ l', ∃ x ∈ kept ++ l, y ≤ x := by
  rw [max?_eq_max?_iff]
  have hpart : ∀ l l' : List T, (∀ x ∈ kept ++ l, ∃ y ∈ kept ++ l', x ≤ y) ↔
      ∀ x ∈ l, ∃ y ∈ kept ++ l', x ≤ y := by
    intro l l'
    constructor
    · exact fun h x hx => h x (List.mem_append_right _ hx)
    · intro h x hx
      rcases List.mem_append.1 hx with hx | hx
      · exact ⟨x, List.mem_append_left _ hx, Std.le_refl x⟩
      · exact h x hx
  rw [hpart, hpart]

theorem max?_reverse (l : List T) : l.reverse.max? = l.max? :=
  max?_congr fun _ => List.mem_reverse

theorem max?_append {l l' : List T} {a b : T} (ha : l.max? = some a) (hb : l'.max? = some b) :
    (l ++ l').max? = some (max b a) := by
  obtain ⟨ha, hla⟩ := List.max?_eq_some_iff.1 ha
  obtain ⟨hb, hlb⟩ := List.max?_eq_some_iff.1 hb
  have hle : b ≤ max b a ∧ a ≤ max b a := ⟨Std.left_le_max, Std.right_le_max⟩
  rw [List.max?_eq_some_iff]
  constructor
  · rcases Std.MaxEqOr.max_eq_or b a with h | h
    · rw [h]
      exact List.mem_append_right _ hb
    · rw [h]
      exact List.mem_append_left _ ha
  · intro x hx
    rcases List.mem_append.1 hx with hx | hx
    · exact Std.le_trans (hla x hx) hle.2
    · exact Std.le_trans (hlb x hx) hle.1

/-! ## Running maxima -/

theorem head?_runningMax (l : List T) : (runningMax l).head? = l.max? := by
  induction l with
  | nil => rfl
  | cons x l ih =>
    rw [List.max?_cons, ← ih]
    rfl

theorem runningMax_replicate (n : Nat) (a : T) :
    runningMax (List.replicate n a) = List.replicate n a := by
  induction n with
  | zero => rfl
  | succ n ih =>
    rw [List.replicate_succ, runningMax, ih]
    cases n with
    | zero => rfl
    | succ n => simp [List.replicate_succ, Std.max_self]

theorem getElem?_reverse_runningMax {l : List T} {n : Nat} (h : n < l.length) :
    (runningMax l.reverse).reverse[n]? = (l.take (n + 1)).max? := by
  have hlen : n < (runningMax l.reverse).length := by simpa using h
  rw [List.getElem?_reverse hlen, ← List.head?_drop, drop_runningMax, head?_runningMax,
    length_runningMax, List.length_reverse, List.drop_reverse, max?_reverse]
  congr 2
  omega

end Peak
