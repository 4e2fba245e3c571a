import Mathlib.Data.Rat.Floor
import Mathlib.Tactic.Common
import Mathlib.Tactic.Linarith

/-!
# Words that hold an exact integer

`Exact m z`: the 32-bit word `m` is the integer `z`, so the expression that gave `m`
has neither gone below zero nor past 32 bits.  One rule per operation; the side
condition of each is on the exact value.
-/

/-- The word `m` holds the integer `z`. -/
def Exact (m : UInt32) (z : ℤ) : Prop := (m.toNat : ℤ) = z

namespace Exact

variable {a b : UInt32} {x y : ℤ}

theorem self (a : UInt32) : Exact a a.toNat := rfl

theorem add (ha : Exact a x) (hb : Exact b y) (h : x + y < 2 ^ 32) : Exact (a + b) (x + y) := by
  unfold Exact at ha hb ⊢
  rw [UInt32.toNat_add]
  omega

theorem sub (ha : Exact a x) (hb : Exact b y) (h : 0 ≤ x - y) : Exact (a - b) (x - y) := by
  have hlt := a.toNat_lt
  have hlt' := b.toNat_lt
  unfold Exact at ha hb ⊢
  rw [UInt32.toNat_sub]
  omega

theorem mul (ha : Exact a x) (hb : Exact b y) (h : x * y < 2 ^ 32) : Exact (a * b) (x * y) := by
  unfold Exact at ha hb ⊢
  subst ha hb
  rw [UInt32.toNat_mul, Nat.mod_eq_of_lt (by exact_mod_cast h)]
  push_cast
  rfl

theorem div (ha : Exact a x) (hb : Exact b y) : Exact (a / b) (x / y) := by
  unfold Exact at ha hb ⊢
  subst ha hb
  rw [UInt32.toNat_div]
  push_cast
  rfl

theorem minOf (ha : Exact a x) (hb : Exact b y) : Exact (min a b) (min x y) := by
  unfold Exact at ha hb
  show ((if a ≤ b then a else b).toNat : ℤ) = min x y
  by_cases h : a ≤ b
  · have h' : a.toNat ≤ b.toNat := h
    rw [if_pos h]
    omega
  · have h' : ¬ a.toNat ≤ b.toNat := h
    rw [if_neg h]
    omega

/-- Conversion of a rational that is in range. -/
theorem ofInt_floor {q : ℚ} (h₀ : 0 ≤ q) (h : q < 2 ^ 32) : Exact (UInt32.ofInt ⌊q⌋) ⌊q⌋ := by
  have hfloor : 0 ≤ ⌊q⌋ := Int.floor_nonneg.2 h₀
  have hlt : ⌊q⌋ < 2 ^ 32 := Int.floor_lt.2 (by exact_mod_cast h)
  unfold Exact UInt32.ofInt
  rw [UInt32.toNat_ofNat']
  omega

end Exact
