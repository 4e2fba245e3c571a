import Mathlib.Data.List.Basic
import Mathlib.Tactic.Common
import SwitchOcSuite.Lib.Bytes

/-!
# How a structure lies in memory

A `Layout α` puts a value of `α` into `size` bytes of a buffer and gets it back.  It
carries its laws: what is put is got back, a put changes only these bytes, a get looks
only at them.  Structures are laid out field by field (`pair`, `pad`), arrays by the list
of their indices (`table`), and a type with the bits of another like that one (`map`).

    get_of_bytes    a value is got back from any buffer that has its bytes
-/

open Bytes

structure Layout (α : Type) where
  size : Nat
  get : List UInt8 → Nat → α
  put : List UInt8 → Nat → α → List UInt8
  length_put : ∀ b o a, (put b o a).length = b.length
  get_put : ∀ b o a, o + size ≤ b.length → get (put b o a) o = a
  getElem?_put : ∀ b o a i, i < o ∨ o + size ≤ i → (put b o a)[i]? = b[i]?
  get_congr : ∀ b b' o o', (∀ i, i < size → b[o + i]? = b'[o' + i]?) → get b o = get b' o'

namespace Layout

variable {α β κ : Type}

attribute [simp] Layout.length_put

/-- A get sees nothing of a put behind it or in front of it. -/
theorem get_put_of_apart (A : Layout α) (B : Layout β) (b : List UInt8) {o o' : Nat} (v : β)
    (h : o + A.size ≤ o' ∨ o' + B.size ≤ o) : A.get (B.put b o' v) o = A.get b o := by
  apply A.get_congr
  intro i hi
  exact B.getElem?_put b o' v (o + i) (by omega)

/-! ## Words -/

theorem getLE_shift {b b' : List UInt8} : ∀ (n o o' : Nat),
    (∀ i, i < n → b[o + i]? = b'[o' + i]?) → getLE b o n = getLE b' o' n := by
  intro n
  induction n with
  | zero => exact fun o o' h => rfl
  | succ n ih =>
    intro o o' h
    have hrest : getLE b (o + 1) n = getLE b' (o' + 1) n := by
      apply ih
      intro i hi
      have hnext := h (i + 1) (by omega)
      rwa [show o + 1 + i = o + (i + 1) by omega, show o' + 1 + i = o' + (i + 1) by omega]
    have hfirst := h 0 (Nat.succ_pos n)
    rw [Nat.add_zero, Nat.add_zero] at hfirst
    unfold getLE
    rw [hrest, List.getD_eq_getElem?_getD, List.getD_eq_getElem?_getD, hfirst]

/-- A word of `n` bytes, the least significant one first. -/
def word (n : Nat) (toNat : α → Nat) (ofNat : Nat → α) (h : ∀ a, ofNat (toNat a % 256 ^ n) = a) :
    Layout α where
  size := n
  get b o := ofNat (getLE b o n)
  put b o a := setLE b o n (toNat a)
  length_put b o a := length_setLE n b o (toNat a)
  get_put b o a hroom := by rw [getLE_setLE n b o _ hroom, h]
  getElem?_put b o a i hi := getElem?_setLE_of_out n b o _ hi
  get_congr b b' o o' hi := congrArg ofNat (getLE_shift n o o' hi)

def u8 : Layout UInt8 :=
  word 1 UInt8.toNat UInt8.ofNat fun a => by
    rw [Nat.mod_eq_of_lt (show a.toNat < 256 ^ 1 from a.toNat_lt)]
    exact UInt8.ofNat_toNat

def u32 : Layout UInt32 :=
  word 4 UInt32.toNat UInt32.ofNat fun a => by
    rw [Nat.mod_eq_of_lt (show a.toNat < 256 ^ 4 from a.toNat_lt)]
    exact UInt32.ofNat_toNat

def u64 : Layout UInt64 :=
  word 8 UInt64.toNat UInt64.ofNat fun a => by
    rw [Nat.mod_eq_of_lt (show a.toNat < 256 ^ 8 from a.toNat_lt)]
    exact UInt64.ofNat_toNat

/-! ## Structures -/

/-- No field at all. -/
def unit : Layout Unit where
  size := 0
  get _ _ := ()
  put b _ _ := b
  length_put _ _ _ := rfl
  get_put _ _ _ _ := rfl
  getElem?_put _ _ _ _ _ := rfl
  get_congr _ _ _ _ _ := rfl

/-- The bytes behind the value that its alignment leaves unused; they stay what they were. -/
def pad (A : Layout α) (n : Nat) : Layout α where
  size := A.size + n
  get := A.get
  put := A.put
  length_put := A.length_put
  get_put b o a h := A.get_put b o a (by omega)
  getElem?_put b o a i h := A.getElem?_put b o a i (by omega)
  get_congr b b' o o' h := A.get_congr b b' o o' fun i hi => h i (by omega)

/-- Two fields, the second right behind the first. -/
def pair (A : Layout α) (B : Layout β) : Layout (α × β) where
  size := A.size + B.size
  get b o := (A.get b o, B.get b (o + A.size))
  put b o v := B.put (A.put b o v.1) (o + A.size) v.2
  length_put b o v := by rw [B.length_put, A.length_put]
  get_put b o v h := by
    have hfirst : A.get (B.put (A.put b o v.1) (o + A.size) v.2) o = v.1 := by
      rw [get_put_of_apart A B _ _ (.inl (Nat.le_refl _))]
      exact A.get_put b o v.1 (by omega)
    have hsecond : B.get (B.put (A.put b o v.1) (o + A.size) v.2) (o + A.size) = v.2 :=
      B.get_put _ _ _ (by rw [A.length_put]; omega)
    rw [hfirst, hsecond]
  getElem?_put b o v i h := by
    rw [B.getElem?_put _ _ _ i (by omega), A.getElem?_put _ _ _ i (by omega)]
  get_congr b b' o o' h := by
    have hfirst : A.get b o = A.get b' o' := A.get_congr _ _ _ _ fun i hi => h i (by omega)
    have hsecond : B.get b (o + A.size) = B.get b' (o' + A.size) := by
      apply B.get_congr
      intro i hi
      rw [Nat.add_assoc, Nat.add_assoc]
      exact h (A.size + i) (by omega)
    rw [hfirst, hsecond]

/-- Values of `β` that are kept as values of `α`. -/
def map (A : Layout α) (f : α → β) (g : β → α) (h : ∀ b, f (g b) = b) : Layout β where
  size := A.size
  get b o := f (A.get b o)
  put b o v := A.put b o (g v)
  length_put b o v := A.length_put b o (g v)
  get_put b o v hroom := by rw [A.get_put b o _ hroom, h]
  getElem?_put b o v := A.getElem?_put b o (g v)
  get_congr b b' o o' hi := congrArg f (A.get_congr b b' o o' hi)

/-! ## Arrays -/

/-- One value after the other, in the order of the indices. -/
def putAll (A : Layout α) (f : κ → α) : List κ → List UInt8 → Nat → List UInt8
  | [], b, _ => b
  | k :: keys, b, o => putAll A f keys (A.put b o (f k)) (o + A.size)

theorem length_putAll (A : Layout α) (f : κ → α) (keys : List κ) : ∀ (b : List UInt8) (o : Nat),
    (putAll A f keys b o).length = b.length := by
  induction keys with
  | nil => exact fun b o => rfl
  | cons k keys ih =>
    intro b o
    unfold putAll
    rw [ih, A.length_put]

theorem getElem?_putAll (A : Layout α) (f : κ → α) (keys : List κ) :
    ∀ (b : List UInt8) (o i : Nat), i < o ∨ o + A.size * keys.length ≤ i →
      (putAll A f keys b o)[i]? = b[i]? := by
  induction keys with
  | nil => exact fun b o i h => rfl
  | cons k keys ih =>
    intro b o i h
    rw [List.length_cons, Nat.mul_succ] at h
    unfold putAll
    rw [ih _ _ i (by omega), A.getElem?_put _ _ _ i (by omega)]

theorem get_putAll [DecidableEq κ] (A : Layout α) (f : κ → α) (keys : List κ) :
    ∀ (b : List UInt8) (o : Nat) {k : κ}, k ∈ keys → o + A.size * keys.length ≤ b.length →
    A.get (putAll A f keys b o) (o + A.size * keys.idxOf k) = f k := by
  induction keys with
  | nil => exact fun b o k hk => absurd hk List.not_mem_nil
  | cons k' keys ih =>
    intro b o k hk hroom
    rw [List.length_cons, Nat.mul_succ] at hroom
    unfold putAll
    by_cases heq : k' = k
    · subst heq
      have hkept : A.get (putAll A f keys (A.put b o (f k')) (o + A.size)) o =
          A.get (A.put b o (f k')) o := by
        apply A.get_congr
        intro i hi
        exact getElem?_putAll A f keys _ _ _ (by omega)
      rw [List.idxOf_cons_self, Nat.mul_zero, Nat.add_zero, hkept]
      exact A.get_put b o (f k') (by omega)
    · have hmem : k ∈ keys := (List.mem_cons.1 hk).resolve_left (Ne.symm heq)
      have hrest := ih (A.put b o (f k')) (o + A.size) hmem (by rw [A.length_put]; omega)
      rw [List.idxOf_cons_ne keys heq, Nat.mul_succ]
      rwa [show o + (A.size * keys.idxOf k + A.size) = o + A.size + A.size * keys.idxOf k by omega]

/-- An array over the indices `keys`, which are all there are. -/
def table [DecidableEq κ] (A : Layout α) (keys : List κ) (h : ∀ k, k ∈ keys) : Layout (κ → α) where
  size := A.size * keys.length
  get b o k := A.get b (o + A.size * keys.idxOf k)
  put b o f := putAll A f keys b o
  length_put b o f := length_putAll A f keys b o
  get_put b o f hroom := funext fun k => get_putAll A f keys b o (h k) hroom
  getElem?_put b o f i hi := getElem?_putAll A f keys b o i hi
  get_congr b b' o o' hi := by
    funext k
    apply A.get_congr
    intro i hlt
    have hk : keys.idxOf k < keys.length := List.idxOf_lt_length_of_mem (h k)
    have hin : A.size * keys.idxOf k + i < A.size * keys.length := by
      have hle : A.size * (keys.idxOf k + 1) ≤ A.size * keys.length := Nat.mul_le_mul_left _ hk
      rw [Nat.mul_succ] at hle
      omega
    rw [Nat.add_assoc, Nat.add_assoc]
    exact hi _ hin

/-! ## Messages -/

/-- The bytes of a value, where the padding is `0`. -/
def bytes (A : Layout α) (a : α) : List UInt8 := A.put (List.replicate A.size 0) 0 a

@[simp] theorem length_bytes (A : Layout α) (a : α) : (A.bytes a).length = A.size := by
  unfold bytes
  rw [A.length_put, List.length_replicate]

theorem get_take (A : Layout α) (b : List UInt8) : A.get (b.take A.size) 0 = A.get b 0 := by
  apply A.get_congr
  intro i hi
  rw [Nat.zero_add, List.getElem?_take_of_lt hi]

/-- **A value is got back from a buffer that has its bytes.** -/
theorem get_of_bytes (A : Layout α) (a : α) {b : List UInt8} {o : Nat}
    (h : (b.drop o).take A.size = A.bytes a) : A.get b o = a := by
  have hget : A.get (A.bytes a) 0 = a :=
    A.get_put _ 0 a (by rw [List.length_replicate, Nat.zero_add])
  rw [← hget]
  apply A.get_congr
  intro i hi
  rw [← h, Nat.zero_add, List.getElem?_take_of_lt hi, List.getElem?_drop]

end Layout
