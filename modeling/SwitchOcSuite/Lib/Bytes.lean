import Mathlib.Algebra.Order.Ring.Nat
import Mathlib.Data.List.Basic
import Mathlib.Tactic.Common
import Mathlib.Tactic.Ring

/-!
# Little-endian numbers in a byte buffer

`getLE b o n` is the number in the `n` bytes at `o`, least significant first, and
`setLE b o n v` writes `v` there; `setWords` writes 32-bit words one after the other.
A write that reaches past the end of the buffer drops what does not fit.

    getLE_setLE        what is written is read back
    getLE_setWords     each of a run of words is read back
-/

namespace Bytes

/-! ## Reading and writing -/

def getLE (b : List UInt8) (o : Nat) : Nat → Nat
  | 0 => 0
  | n + 1 => (b.getD o 0).toNat + 256 * getLE b (o + 1) n

def setLE (b : List UInt8) (o : Nat) : Nat → Nat → List UInt8
  | 0, _ => b
  | n + 1, v => setLE (b.set o (UInt8.ofNat (v % 256))) (o + 1) n (v / 256)

def getU32 (b : List UInt8) (o : Nat) : UInt32 := UInt32.ofNat (getLE b o 4)

/-- Words written one after the other from `o` on. -/
def setWords (b : List UInt8) (o : Nat) : List UInt32 → List UInt8
  | [] => b
  | w :: ws => setWords (setLE b o 4 w.toNat) (o + 4) ws

/-! ## One number -/

variable {b b' : List UInt8} {o n v : Nat}

@[simp] theorem length_setLE : ∀ (n : Nat) (b : List UInt8) (o v : Nat),
    (setLE b o n v).length = b.length := by
  intro n
  induction n with
  | zero => exact fun b o v => rfl
  | succ n ih =>
    intro b o v
    unfold setLE
    rw [ih, List.length_set]

/-- The bytes in front of the word and behind it are kept. -/
theorem getElem?_setLE_of_out : ∀ (n : Nat) (b : List UInt8) (o v : Nat) {i : Nat},
    i < o ∨ o + n ≤ i → (setLE b o n v)[i]? = b[i]? := by
  intro n
  induction n with
  | zero => exact fun b o v i h => rfl
  | succ n ih =>
    intro b o v i h
    unfold setLE
    rw [ih _ _ _ (by omega), List.getElem?_set_ne (by omega)]

/-- Only the bytes at `o` count. -/
theorem getLE_congr : ∀ (n : Nat) (o : Nat), (∀ i, o ≤ i → i < o + n → b[i]? = b'[i]?) →
    getLE b o n = getLE b' o n := by
  intro n
  induction n with
  | zero => exact fun o h => rfl
  | succ n ih =>
    intro o h
    unfold getLE
    rw [ih (o + 1) fun i h₁ h₂ => h i (by omega) (by omega)]
    rw [List.getD_eq_getElem?_getD, List.getD_eq_getElem?_getD, h o (by omega) (by omega)]

theorem getLE_lt : ∀ (n o : Nat), getLE b o n < 256 ^ n := by
  intro n
  induction n with
  | zero => exact fun o => Nat.one_pos
  | succ n ih =>
    intro o
    have hrest := ih (o + 1)
    have hbyte : (b.getD o 0).toNat < 256 := (b.getD o 0).toNat_lt
    unfold getLE
    rw [pow_succ]
    omega

/-- **What is written is read back**, up to what fits in `n` bytes. -/
theorem getLE_setLE : ∀ (n : Nat) (b : List UInt8) (o v : Nat), o + n ≤ b.length →
    getLE (setLE b o n v) o n = v % 256 ^ n := by
  intro n
  induction n with
  | zero =>
    intro b o v h
    rw [pow_zero, Nat.mod_one]
    rfl
  | succ n ih =>
    intro b o v h
    have hrest := ih (b.set o (UInt8.ofNat (v % 256))) (o + 1) (v / 256)
      (by rw [List.length_set]; omega)
    have hfirst : ((setLE b o (n + 1) v).getD o 0).toNat = v % 256 := by
      unfold setLE
      rw [List.getD_eq_getElem?_getD, getElem?_setLE_of_out _ _ _ _ (.inl (Nat.lt_succ_self o)),
        List.getElem?_set_self (by omega)]
      show (UInt8.ofNat (v % 256)).toNat = v % 256
      rw [UInt8.toNat_ofNat']
      omega
    unfold getLE
    rw [hfirst]
    unfold setLE
    rw [hrest, pow_succ, Nat.mul_comm (256 ^ n) 256, Nat.mod_mul]

theorem toNat_getU32 (b : List UInt8) (o : Nat) : (getU32 b o).toNat = getLE b o 4 := by
  have hlt : getLE b o 4 < 256 ^ 4 := getLE_lt 4 o
  unfold getU32
  rw [UInt32.toNat_ofNat']
  omega

theorem getU32_congr (h : ∀ i, o ≤ i → i < o + 4 → b[i]? = b'[i]?) : getU32 b o = getU32 b' o := by
  unfold getU32
  rw [getLE_congr 4 o h]

/-! ## Runs of words -/

@[simp] theorem length_setWords (ws : List UInt32) : ∀ (b : List UInt8) (o : Nat),
    (setWords b o ws).length = b.length := by
  induction ws with
  | nil => exact fun b o => rfl
  | cons w ws ih =>
    intro b o
    unfold setWords
    rw [ih, length_setLE]

/-- Bytes outside the run are left alone. -/
theorem getElem?_setWords (ws : List UInt32) : ∀ (b : List UInt8) (o : Nat) {i : Nat},
    i < o ∨ o + 4 * ws.length ≤ i → (setWords b o ws)[i]? = b[i]? := by
  induction ws with
  | nil => exact fun b o i h => rfl
  | cons w ws ih =>
    intro b o i h
    rw [List.length_cons] at h
    unfold setWords
    rw [ih _ _ (by omega)]
    exact getElem?_setLE_of_out _ _ _ _ (by omega)

/-- **Each of a run of words is read back.** -/
theorem getU32_setWords (ws : List UInt32) : ∀ (b : List UInt8) (o : Nat) {k : Nat},
    o + 4 * ws.length ≤ b.length → k < ws.length →
    getU32 (setWords b o ws) (o + 4 * k) = ws.getD k 0 := by
  induction ws with
  | nil => exact fun b o k _ hk => absurd hk (Nat.not_lt_zero k)
  | cons w ws ih =>
    intro b o k hlen hk
    rw [List.length_cons] at hlen hk
    unfold setWords
    cases k with
    | zero =>
      have hword : getU32 (setWords (setLE b o 4 w.toNat) (o + 4) ws) o =
          getU32 (setLE b o 4 w.toNat) o :=
        getU32_congr fun i _ h₂ => getElem?_setWords ws _ _ (.inl h₂)
      have hw : w.toNat < 256 ^ 4 := w.toNat_lt
      show getU32 (setWords (setLE b o 4 w.toNat) (o + 4) ws) o = w
      rw [hword]
      unfold getU32
      rw [getLE_setLE 4 b o _ (by omega), Nat.mod_eq_of_lt hw, UInt32.ofNat_toNat]
    | succ k =>
      have hrest := ih (setLE b o 4 w.toNat) (o + 4) (k := k) (by rw [length_setLE]; omega) (by omega)
      rw [show o + 4 * (k + 1) = o + 4 + 4 * k by omega, hrest]
      rfl

end Bytes
