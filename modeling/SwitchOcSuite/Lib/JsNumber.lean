import Mathlib.Data.Rat.Floor
import Mathlib.Tactic.Common

/-!
# Numbers of JavaScript

A `number` is not a number, infinite, or a rational.  The two zeros are one value
here: neither comparison nor conversion to an integer tells them apart.  A
remainder takes the sign of its dividend.
-/

inductive JsNumber where
  | nan
  | infinite (negative : Bool)
  | num (q : ℚ)
  deriving DecidableEq

namespace JsNumber

def ofNat (n : Nat) : JsNumber := num n

/-- Rounded towards zero. -/
def trunc (q : ℚ) : ℤ := if 0 ≤ q then ⌊q⌋ else ⌈q⌉

/-- `x < y`. -/
def lt : JsNumber → JsNumber → Bool
  | nan, _ | _, nan => false
  | infinite n, infinite m => n && !m
  | infinite n, num _ => n
  | num _, infinite m => !m
  | num p, num q => p < q

/-- `x % y`. -/
def rem : JsNumber → JsNumber → JsNumber
  | num p, num q => if q = 0 then nan else num (p - q * trunc (p / q))
  | num p, infinite _ => num p
  | _, _ => nan

/-- `x == 0`. -/
def isZero (x : JsNumber) : Bool := x == num 0

/-- What `setUint32` stores. -/
def toUint32 : JsNumber → UInt32
  | num q => UInt32.ofInt (trunc q)
  | _ => 0

/-! ## Whole numbers -/

theorem toUint32_ofNat (n : Nat) : (ofNat n).toUint32 = UInt32.ofNat n := by
  have htrunc : trunc (n : ℚ) = n := by
    unfold trunc
    rw [if_pos (Nat.cast_nonneg n), Int.floor_natCast]
  show UInt32.ofInt (trunc n) = UInt32.ofNat n
  rw [htrunc]
  apply UInt32.toNat_inj.1
  unfold UInt32.ofInt
  rw [UInt32.toNat_ofNat', UInt32.toNat_ofNat']
  omega

theorem toNat_toUint32 {n : Nat} (h : n < 2 ^ 32) : (ofNat n).toUint32.toNat = n := by
  rw [toUint32_ofNat, UInt32.toNat_ofNat']
  exact Nat.mod_eq_of_lt h

theorem ofNat_inj {m n : Nat} (h : ofNat m = ofNat n) : m = n := by
  unfold ofNat at h
  injection h with h
  exact_mod_cast h

theorem isZero_iff {x : JsNumber} : x.isZero = true ↔ x = ofNat 0 := by
  simp [isZero, ofNat]

/-- A multiple of a whole number is whole. -/
theorem exists_int_of_rem {q : ℚ} {step : Nat} (hstep : 0 < step)
    (h : (rem (num q) (ofNat step)).isZero = true) : ∃ k : ℤ, q = step * k := by
  have hne : (step : ℚ) ≠ 0 := Nat.cast_ne_zero.2 (by omega)
  have hrem : rem (num q) (ofNat step) = num (q - step * trunc (q / step)) := if_neg hne
  rw [isZero_iff, hrem] at h
  unfold ofNat at h
  injection h with h
  exact ⟨trunc (q / step), by push_cast at h; linarith⟩

end JsNumber
