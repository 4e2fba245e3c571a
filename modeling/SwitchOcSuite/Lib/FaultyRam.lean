import Mathlib.Data.Set.Function
import Mathlib.Logic.Function.Basic
import Mathlib.Data.UInt
import SwitchOcSuite.Lib.Bytes

/-!
# Memories with faults

A memory is what its loads and stores of 64-bit words do.  It is sound in a range of
addresses if each word there has what was stored last.  The memories with faults are
those whose address lines select the wrong cell (`decode`) and whose cells have bits
that are stuck (`stuck`).

    sound_of_free      no wrong cell and no stuck bit: a sound memory
    keep_eq_iff        stores that look alike show only the bits they set both ways
    load_fill          the last store to a cell stays
-/

namespace Ram

/-! ## Loops -/

section
variable {σ : Type}

/-- `for (i = 0; i < n; i++)`. -/
def forRange (body : Nat → σ → σ) : Nat → σ → σ
  | 0, s => s
  | n + 1, s => body n (forRange body n s)

@[simp] theorem forRange_zero (body : Nat → σ → σ) (s : σ) : forRange body 0 s = s := rfl

@[simp] theorem forRange_succ (body : Nat → σ → σ) (n : Nat) (s : σ) :
    forRange body (n + 1) s = body n (forRange body n s) := rfl

/-- What every round keeps, all of them keep. -/
theorem forRange_induction {body : Nat → σ → σ} {P : Nat → σ → Prop} {n : Nat} {s : σ}
    (h₀ : P 0 s) (hstep : ∀ i < n, ∀ s, P i s → P (i + 1) (body i s)) : P n (forRange body n s) := by
  induction n with
  | zero => exact h₀
  | succ n ih =>
    rw [forRange_succ]
    exact hstep n (Nat.lt_succ_self n) _ (ih fun i hi => hstep i (Nat.lt_succ_of_lt hi))

/-- `n` rounds from round `j` on, up to the first that fails: did they all pass? -/
def rounds (round : Nat → σ → Bool × σ) : Nat → Nat → σ → Bool × σ
  | 0, _, s => (true, s)
  | n + 1, j, s =>
    match round j s with
    | (true, s) => rounds round n (j + 1) s
    | (false, s) => (false, s)

/-- All rounds pass, where what a round says does not depend on the state. -/
theorem rounds_iff {round : Nat → σ → Bool × σ} {P : Nat → Prop} {Q : σ → Prop}
    (h : ∀ j s, Q s → ((round j s).1 = true ↔ P j) ∧ Q (round j s).2) {n j : Nat} {s : σ} (hs : Q s) :
    (rounds round n j s).1 = true ↔ ∀ k, j ≤ k → k < j + n → P k := by
  induction n generalizing j s with
  | zero =>
    constructor
    · intro _ k hk hlt
      omega
    · intro _
      rfl
  | succ n ih =>
    obtain ⟨hround, hnext⟩ := h j s hs
    rw [rounds]
    rcases hr : round j s with ⟨_ | _, s'⟩
    · rw [hr] at hround
      constructor
      · intro hfalse
        exact absurd hfalse Bool.false_ne_true
      · intro hall
        exact absurd (hround.2 (hall j (Nat.le_refl j) (by omega))) Bool.false_ne_true
    · rw [hr] at hround hnext
      dsimp only
      rw [ih hnext]
      constructor
      · intro hall k hk hlt
        rcases Nat.eq_or_lt_of_le hk with rfl | hk
        · exact hround.1 rfl
        · exact hall k hk (by omega)
      · intro hall k hk hlt
        exact hall k (by omega) (by omega)

/-- What a round keeps, and that it passes, from an invariant. -/
theorem rounds_pass {round : Nat → σ → Bool × σ} {Q : σ → Prop}
    (h : ∀ j s, Q s → (round j s).1 = true ∧ Q (round j s).2) (n j : Nat) {s : σ} (hs : Q s) :
    (rounds round n j s).1 = true ∧ Q (rounds round n j s).2 := by
  induction n generalizing j s with
  | zero => exact ⟨rfl, hs⟩
  | succ n ih =>
    obtain ⟨hround, hnext⟩ := h j s hs
    rw [rounds]
    rcases hr : round j s with ⟨_ | _, s'⟩
    · rw [hr] at hround
      exact absurd hround Bool.false_ne_true
    · rw [hr] at hnext
      exact ih (j + 1) hnext

end

/-! ## Memories -/

/-- The loads and stores of words at byte addresses. -/
structure Memory (σ : Type) where
  load : σ → Nat → UInt64
  store : σ → Nat → UInt64 → σ

/-- Word `i` behind `base`. -/
def word (base i : Nat) : Nat := base + 8 * i

theorem word_inj {base i j : Nat} (h : word base i = word base j) : i = j := by
  unfold word at h
  omega

/-- The words in `A` do not disturb each other, and each has what `keep` makes of the word that was
stored there last. -/
structure Memory.Keeps {σ : Type} (mem : Memory σ) (keep : Nat → UInt64 → UInt64) (A : Set Nat) :
    Prop where
  load_store : ∀ s, ∀ a ∈ A, ∀ v, mem.load (mem.store s a v) a = keep a v
  load_store_of_ne : ∀ s, ∀ a ∈ A, ∀ b ∈ A, a ≠ b → ∀ v,
    mem.load (mem.store s a v) b = mem.load s b

/-- The words at `a` and `b` have no byte in common. -/
def Disjoint (a b : Nat) : Prop := a + 8 ≤ b ∨ b + 8 ≤ a

/-- Every word in the range `[lo, hi)` has what was stored there last. -/
structure Memory.Sound {σ : Type} (mem : Memory σ) (lo hi : Nat) : Prop where
  load_store : ∀ s a v, lo ≤ a → a + 8 ≤ hi → mem.load (mem.store s a v) a = v
  load_store_of_disjoint : ∀ s a b v, lo ≤ a → a + 8 ≤ hi → lo ≤ b → b + 8 ≤ hi → Disjoint a b →
    mem.load (mem.store s a v) b = mem.load s b

theorem Memory.Sound.keeps {σ : Type} {mem : Memory σ} {lo hi : Nat} (h : mem.Sound lo hi)
    {A : Set Nat} (hA : ∀ a ∈ A, lo ≤ a ∧ a + 8 ≤ hi)
    (hne : ∀ a ∈ A, ∀ b ∈ A, a ≠ b → Disjoint a b) : mem.Keeps (fun _ => id) A := by
  constructor
  · intro s a ha v
    exact h.load_store s a v (hA a ha).1 (hA a ha).2
  · intro s a ha b hb hab v
    exact h.load_store_of_disjoint s a b v (hA a ha).1 (hA a ha).2 (hA b hb).1 (hA b hb).2
      (hne a ha b hb hab)

section
variable {σ : Type} {mem : Memory σ} {keep : Nat → UInt64 → UInt64} {A : Set Nat}
  (h : mem.Keeps keep A)
include h

/-- Words filled one after the other. -/
theorem Memory.Keeps.load_fill {base n : Nat} (hA : ∀ i < n, word base i ∈ A)
    (pattern : Nat → UInt64) (s : σ) :
    ∀ i < n, mem.load (forRange (fun i s => mem.store s (word base i) (pattern i)) n s)
      (word base i) = keep (word base i) (pattern i) := by
  induction n with
  | zero =>
    intro i hi
    omega
  | succ n ih =>
    intro i hi
    rw [forRange_succ]
    rcases Nat.eq_or_lt_of_le (Nat.le_of_lt_succ hi) with rfl | hi
    · exact h.load_store _ _ (hA i (Nat.lt_succ_self i)) _
    · rw [h.load_store_of_ne _ _ (hA n (Nat.lt_succ_self n)) _ (hA i (Nat.lt_succ_of_lt hi))]
      · exact ih (fun i hi => hA i (Nat.lt_succ_of_lt hi)) i hi
      · intro heq
        have hni := word_inj heq
        omega

end

/-- A memory of `n` bytes. -/
def bytes (n : Nat) : Memory {b : List UInt8 // b.length = n} where
  load b a := UInt64.ofNat (Bytes.getLE b.1 a 8)
  store b a v := ⟨Bytes.setLE b.1 a 8 v.toNat, by rw [Bytes.length_setLE, b.2]⟩

/-- The bits of a cell that are always 0, and those that are always 1. -/
structure Stuck where
  zeros : UInt64
  ones : UInt64

/-- What the cell keeps of a word. -/
def Stuck.keep (c : Stuck) (v : UInt64) : UInt64 := (v &&& ~~~c.zeros) ||| c.ones

def bit (v : UInt64) (k : Nat) : Bool := v.toBitVec.getLsbD k

theorem eq_of_bit {v w : UInt64} (h : ∀ k < 64, bit v k = bit w k) : v = w := by
  apply UInt64.toBitVec_inj.1
  apply BitVec.eq_of_getLsbD_eq
  intro k hk
  exact h k hk

@[simp] theorem bit_not {v : UInt64} {k : Nat} (hk : k < 64) : bit (~~~v) k = !bit v k := by
  unfold bit
  rw [UInt64.toBitVec_not, BitVec.getLsbD_not]
  simp [hk]

theorem bit_keep (c : Stuck) (v : UInt64) {k : Nat} (hk : k < 64) :
    bit (c.keep v) k = (bit v k && !bit c.zeros k || bit c.ones k) := by
  unfold Stuck.keep
  rw [← bit_not hk]
  unfold bit
  rw [UInt64.toBitVec_or, UInt64.toBitVec_and, BitVec.getLsbD_or, BitVec.getLsbD_and]

/-- A word each of whose bits is one that a word of `P` has in its place. -/
def Shown (P : UInt64 → Prop) (w : UInt64) : Prop := ∀ k < 64, ∃ v, P v ∧ bit v k = bit w k

/-- **Two cells keep the same of all words of `P`** exactly if they keep the same of all words that
are made of their bits. -/
theorem keep_eq_iff {P : UInt64 → Prop} {c d : Stuck} :
    (∀ v, P v → c.keep v = d.keep v) ↔ ∀ w, Shown P w → c.keep w = d.keep w := by
  constructor
  · intro h w hw
    apply eq_of_bit
    intro k hk
    obtain ⟨v, hv, hbit⟩ := hw k hk
    have hkeep := congrArg (bit · k) (h v hv)
    rw [bit_keep c v hk, bit_keep d v hk, hbit] at hkeep
    rw [bit_keep c w hk, bit_keep d w hk, hkeep]
  · intro h v hv
    exact h v fun k _ => ⟨v, hv, rfl⟩

/-- A word and its complement show everything. -/
theorem shown_of_not {P : UInt64 → Prop} {v : UInt64} (hv : P v) (hnot : P (~~~v)) (w : UInt64) :
    Shown P w := by
  intro k hk
  by_cases h : bit v k = bit w k
  · exact ⟨v, hv, h⟩
  · refine ⟨~~~v, hnot, ?_⟩
    rw [bit_not hk]
    revert h
    cases bit v k <;> cases bit w k <;> decide

/-- A cell without stuck bits. -/
structure Stuck.Free (c : Stuck) : Prop where
  zeros : c.zeros = 0
  ones : c.ones = 0

theorem Stuck.Free.keep {c : Stuck} (h : c.Free) (v : UInt64) : c.keep v = v := by
  apply eq_of_bit
  intro k hk
  rw [bit_keep c v hk, h.zeros, h.ones]
  simp [bit]

/-- A cell that keeps a word and its complement has no stuck bit. -/
theorem Stuck.free_of_keep {c : Stuck} {v : UInt64} (hv : c.keep v = v)
    (hnot : c.keep (~~~v) = ~~~v) : c.Free := by
  have hbits : ∀ k < 64, bit c.zeros k = false ∧ bit c.ones k = false := by
    intro k hk
    have h₁ := congrArg (bit · k) hv
    have h₂ := congrArg (bit · k) hnot
    rw [bit_keep c _ hk] at h₁ h₂
    rw [bit_not hk] at h₂
    revert h₁ h₂
    cases bit v k <;> cases bit c.zeros k <;> cases bit c.ones k <;> decide
  constructor
  · apply eq_of_bit
    intro k hk
    rw [(hbits k hk).1]
    simp [bit]
  · apply eq_of_bit
    intro k hk
    rw [(hbits k hk).2]
    simp [bit]

/-! ## Cells behind address lines -/

/-- The cell that the address of a word selects, and the stuck bits of the cells. -/
structure Chip (κ : Type) where
  decode : Nat → κ
  stuck : κ → Stuck

namespace Chip

variable {κ : Type} [DecidableEq κ] (r : Chip κ)

/-- What a cell keeps of a word. -/
def keep (a : Nat) : UInt64 → UInt64 := (r.stuck (r.decode a)).keep

/-- The words in the cells. -/
def memory : Memory (κ → UInt64) where
  load cells a := cells (r.decode a)
  store cells a v := Function.update cells (r.decode a) (r.keep a v)

/-- The words of a buffer are in cells of their own, which have no stuck bits. -/
structure Free (base count : Nat) : Prop where
  decode : Set.InjOn (fun i => r.decode (word base i)) (Set.Iio count)
  stuck : ∀ i < count, (r.stuck (r.decode (word base i))).Free

theorem load_store_self (s : κ → UInt64) (a : Nat) (v : UInt64) :
    r.memory.load (r.memory.store s a v) a = r.keep a v := Function.update_self _ _ _

theorem load_store_of_ne {a b : Nat} (h : r.decode b ≠ r.decode a) (s : κ → UInt64) (v : UInt64) :
    r.memory.load (r.memory.store s a v) b = r.memory.load s b := Function.update_of_ne h _ _

theorem load_congr {a b : Nat} (h : r.decode a = r.decode b) (s : κ → UInt64) :
    r.memory.load s a = r.memory.load s b := congrArg s h

/-- Words in cells of their own do not disturb each other. -/
theorem keeps {A : Set Nat} (h : Set.InjOn r.decode A) : r.memory.Keeps r.keep A := by
  constructor
  · intro s a _ v
    exact r.load_store_self s a v
  · intro s a ha b hb hab v
    exact r.load_store_of_ne (fun heq => hab (h hb ha heq).symm) s v

/-- Whatever the address lines do, the last store to a cell stays. -/
theorem load_fill (base : Nat) (pattern : Nat → UInt64) (s : κ → UInt64) {n i : Nat} (hi : i < n) :
    ∃ k, i ≤ k ∧ k < n ∧ r.decode (word base k) = r.decode (word base i) ∧
      r.memory.load (forRange (fun i s => r.memory.store s (word base i) (pattern i)) n s)
        (word base i) = r.keep (word base k) (pattern k) := by
  induction n with
  | zero => omega
  | succ n ih =>
    rw [forRange_succ]
    by_cases hcell : r.decode (word base n) = r.decode (word base i)
    · refine ⟨n, by omega, by omega, hcell, ?_⟩
      show r.memory.store _ _ _ (r.decode (word base i)) = _
      rw [← hcell]
      exact r.load_store_self _ _ _
    · have hlt : i < n := by
        rcases Nat.eq_or_lt_of_le (Nat.le_of_lt_succ hi) with rfl | hlt
        · exact absurd rfl hcell
        · exact hlt
      obtain ⟨k, hik, hkn, hk, hload⟩ := ih hlt
      refine ⟨k, hik, by omega, hk, ?_⟩
      rw [r.load_store_of_ne (Ne.symm hcell)]
      exact hload

end Chip

end Ram
