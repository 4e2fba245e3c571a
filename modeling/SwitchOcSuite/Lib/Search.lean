import Mathlib.Order.Lattice

/-!
# The first value at or above a bound

A linear search over the indices `lo` to `hi` stops at the first value that is at
least the bound, and at `hi` if none in front of it is.  `FirstAtLeast` says where it
stops without saying how, so the rules hold of any search that has the property.

    FirstAtLeast.mono          a larger bound is found no earlier
    FirstAtLeast.value_le_iff  when the value found does not exceed the bound
    FirstAtLeast.nearest_iff   when it is the least one at or above the bound

A loop that goes on after a match keeps the last one (`of_foldl_lastMatch`).
-/

namespace Search

variable {α : Type} [LinearOrder α] {f : Nat → α} {lo hi p q : Nat} {x y : α}

structure FirstAtLeast (f : Nat → α) (lo hi : Nat) (x : α) (p : Nat) : Prop where
  lo_le : lo ≤ p
  le_hi : p ≤ hi
  before : ∀ i, lo ≤ i → i < p → f i < x
  atLeast : p < hi → x ≤ f p

/-- The values from `lo` to `hi` do not descend. -/
def Ascending (f : Nat → α) (lo hi : Nat) : Prop := ∀ i j, lo ≤ i → i ≤ j → j ≤ hi → f i ≤ f j

/-! ## Rules -/

theorem FirstAtLeast.mono (hp : FirstAtLeast f lo hi x p) (hq : FirstAtLeast f lo hi y q)
    (h : x ≤ y) : p ≤ q := by
  rcases Nat.lt_or_ge q p with hlt | hge
  · have hbelow := hp.before q hq.lo_le hlt
    have habove := hq.atLeast (Nat.lt_of_lt_of_le hlt hp.le_hi)
    exact absurd (lt_of_lt_of_le hbelow h) (not_lt.2 habove)
  · exact hge

theorem FirstAtLeast.unique (hp : FirstAtLeast f lo hi x p) (hq : FirstAtLeast f lo hi x q) :
    p = q :=
  Nat.le_antisymm (hp.mono hq (le_refl x)) (hq.mono hp (le_refl x))

/-- An index that is the first one at or above the bound is found. -/
theorem FirstAtLeast.eq_of_before (hp : FirstAtLeast f lo hi x p) (hlo : lo ≤ q) (hhi : q ≤ hi)
    (hat : x ≤ f q) (hbefore : ∀ i, lo ≤ i → i < q → f i < x) : p = q :=
  hp.unique ⟨hlo, hhi, hbefore, fun _ => hat⟩

/-- The value found stays below another bound if a value lies between the two, or if nothing
exceeds that bound. -/
theorem FirstAtLeast.value_le_bound_iff (hp : FirstAtLeast f lo hi x p) (hf : Ascending f lo hi) :
    f p ≤ y ↔ (∃ i, lo ≤ i ∧ i ≤ hi ∧ x ≤ f i ∧ f i ≤ y) ∨ f hi ≤ y := by
  constructor
  · intro hle
    rcases Nat.lt_or_eq_of_le hp.le_hi with hlt | rfl
    · exact .inl ⟨p, hp.lo_le, hp.le_hi, hp.atLeast hlt, hle⟩
    · exact .inr hle
  · rintro (⟨i, hlo, hhi, hx, hy⟩ | hle)
    · refine (hf p i hp.lo_le (Nat.le_of_not_lt fun hlt => ?_) hhi).trans hy
      exact absurd (hp.before i hlo hlt) (not_lt.2 hx)
    · exact (hf p hi hp.lo_le hp.le_hi (Nat.le_refl _)).trans hle

/-- The value found does not exceed the bound if the bound is a value, or nothing exceeds it. -/
theorem FirstAtLeast.value_le_iff (hp : FirstAtLeast f lo hi x p) (hf : Ascending f lo hi) :
    f p ≤ x ↔ (∃ i, lo ≤ i ∧ i ≤ hi ∧ f i = x) ∨ f hi ≤ x := by
  rw [hp.value_le_bound_iff hf]
  refine or_congr ⟨?_, ?_⟩ Iff.rfl
  · rintro ⟨i, hlo, hhi, hge, hle⟩
    exact ⟨i, hlo, hhi, le_antisymm hle hge⟩
  · rintro ⟨i, hlo, hhi, rfl⟩
    exact ⟨i, hlo, hhi, le_refl _, le_refl _⟩

/-! ## The nearest value -/

/-- `v` is the least value at or above the bound, or the greatest if there is none. -/
structure Nearest (f : Nat → α) (lo hi : Nat) (x v : α) : Prop where
  mem : ∃ i, lo ≤ i ∧ i ≤ hi ∧ f i = v
  least : (∃ i, lo ≤ i ∧ i ≤ hi ∧ x ≤ f i) →
    x ≤ v ∧ ∀ i, lo ≤ i → i ≤ hi → x ≤ f i → v ≤ f i
  greatest : (∀ i, lo ≤ i → i ≤ hi → f i < x) → ∀ i, lo ≤ i → i ≤ hi → f i ≤ v

/-- Nearest values are ordered like their bounds. -/
theorem Nearest.mono {v w : α} (hv : Nearest f lo hi x v) (hw : Nearest f lo hi y w) (h : x ≤ y) :
    v ≤ w := by
  obtain ⟨i, hlo, hhi, rfl⟩ := hw.mem
  obtain ⟨j, hlo', hhi', rfl⟩ := hv.mem
  by_cases hy : ∃ k, lo ≤ k ∧ k ≤ hi ∧ y ≤ f k
  · have hle := (hw.least hy).1
    exact (hv.least ⟨i, hlo, hhi, h.trans hle⟩).2 i hlo hhi (h.trans hle)
  · exact hw.greatest (fun k hk hk' => not_le.1 fun hle => hy ⟨k, hk, hk', hle⟩) j hlo' hhi'

/-- The order that the search relies on: from the index found on, no value at or above the
bound is below the one found; and if all are below the bound, the last is the greatest. -/
def OrderedFor (f : Nat → α) (lo hi : Nat) (x : α) : Prop :=
  ∀ i, lo ≤ i → i ≤ hi → (∀ j, lo ≤ j → j < i → f j < x) →
    (x ≤ f i → ∀ j, i ≤ j → j ≤ hi → x ≤ f j → f i ≤ f j) ∧
      (i = hi → f i < x → ∀ j, lo ≤ j → j ≤ hi → f j ≤ f i)

theorem Ascending.orderedFor (hf : Ascending f lo hi) : OrderedFor f lo hi x := by
  rintro i hlo hhi -
  refine ⟨fun _ j hij hj _ => hf i j hlo hij hj, ?_⟩
  rintro rfl - j hj hj'
  exact hf j i hj hj' (Nat.le_refl _)

/-- **The search finds the nearest value exactly on ordered values.** -/
theorem FirstAtLeast.nearest_iff (hp : FirstAtLeast f lo hi x p) :
    Nearest f lo hi x (f p) ↔ OrderedFor f lo hi x := by
  constructor
  · intro hnear i hlo hhi hbefore
    refine ⟨fun hat j hij hj hx => ?_, ?_⟩
    · obtain rfl := hp.eq_of_before hlo hhi hat hbefore
      exact (hnear.least ⟨p, hlo, hhi, hat⟩).2 j (Nat.le_trans hlo hij) hj hx
    · rintro rfl hlt j hj hj'
      have hall : ∀ k, lo ≤ k → k ≤ i → f k < x := fun k hk hk' => by
        rcases Nat.lt_or_eq_of_le hk' with hlt' | rfl
        · exact hbefore k hk hlt'
        · exact hlt
      have hlast : p = i := by
        rcases Nat.lt_or_eq_of_le hp.le_hi with hlt' | heq
        · exact absurd (hp.atLeast hlt') (not_le.2 (hall p hp.lo_le hp.le_hi))
        · exact heq
      rw [← hlast]
      exact hnear.greatest hall j hj hj'
  · intro hord
    obtain ⟨hleast, hgreatest⟩ := hord p hp.lo_le hp.le_hi hp.before
    refine ⟨⟨p, hp.lo_le, hp.le_hi, rfl⟩, ?_, ?_⟩
    · rintro ⟨i, hlo, hhi, hx⟩
      have hpi : p ≤ i := Nat.le_of_not_lt fun hlt =>
        absurd (hp.before i hlo hlt) (not_lt.2 hx)
      have hat : x ≤ f p := by
        rcases Nat.lt_or_eq_of_le hp.le_hi with hlt | heq
        · exact hp.atLeast hlt
        · rwa [show p = i by omega]
      refine ⟨hat, fun j hj hj' hxj => hleast hat j (Nat.le_of_not_lt fun hlt => ?_) hj' hxj⟩
      exact absurd (hp.before j hj hlt) (not_lt.2 hxj)
    · intro hall j hj hj'
      have hlt := hall p hp.lo_le hp.le_hi
      have hlast : p = hi := by
        rcases Nat.lt_or_eq_of_le hp.le_hi with hlt' | heq
        · exact absurd (hp.atLeast hlt') (not_le.2 hlt)
        · exact heq
      exact hgreatest hlast hlt j hj hj'

/-! ## The last match -/

/-- What is left when every match replaces the one before. -/
theorem of_foldl_lastMatch {β : Type} (m : β → Bool) (l : List β) {b : β}
    (h : l.foldl (fun found x => if m x then some x else found) none = some b) : m b = true := by
  have hrun : ∀ (l : List β) (found : Option β),
      l.foldl (fun found x => if m x then some x else found) found = some b →
        found = some b ∨ m b = true := by
    intro l
    induction l with
    | nil => exact fun found h => .inl h
    | cons x l ih =>
      intro found h
      rcases ih _ h with hx | hb
      · dsimp only at hx
        by_cases hm : m x = true
        · rw [if_pos hm] at hx
          obtain rfl := Option.some.inj hx
          exact .inr hm
        · rw [if_neg hm] at hx
          exact .inl hx
      · exact .inr hb
  rcases hrun l none h with hnone | hb
  · exact absurd hnone (by simp)
  · exact hb

end Search
