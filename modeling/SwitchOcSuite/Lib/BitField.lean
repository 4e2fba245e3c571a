import Mathlib.Tactic.Common
import Mathlib.Data.Nat.Bitwise

/-!
# Bit fields of a word

A field is the bits from `high` down to `low` of a 32-bit word.  Clearing a field
with its mask and or-ing a value that fits into it inserts the value: the field
holds it, and every other bit is as before.

    inserted_clear_or       clear, then or
    Inserted.bits_disjoint  a field elsewhere is kept
-/

namespace BitField

variable {x y : UInt32} {high low v : Nat}

def bit (x : UInt32) (i : Nat) : Bool := x.toNat.testBit i

/-- The number in the bits from `high` down to `low`. -/
def bits (x : UInt32) (high low : Nat) : Nat := x.toNat / 2 ^ low % 2 ^ (high + 1 - low)

/-- `y` is `x` with `v` in the bits from `high` down to `low`. -/
structure Inserted (high low v : Nat) (x y : UInt32) : Prop where
  field : bits y high low = v
  others : ∀ i, ¬ (low ≤ i ∧ i ≤ high) → bit y i = bit x i

/-! ## Bits -/

theorem testBit_bits (x : UInt32) (high low j : Nat) :
    (bits x high low).testBit j = (decide (j < high + 1 - low) && bit x (low + j)) := by
  unfold bits bit
  rw [Nat.testBit_mod_two_pow, Nat.testBit_div_two_pow, Nat.add_comm j low]

theorem bits_eq_of_bit {high' low' : Nat} (h : ∀ i, low' ≤ i → i ≤ high' → bit y i = bit x i) :
    bits y high' low' = bits x high' low' := by
  refine Nat.eq_of_testBit_eq fun j => ?_
  rw [testBit_bits, testBit_bits]
  by_cases hj : j < high' + 1 - low'
  · rw [h (low' + j) (by omega) (by omega)]
  · simp [hj]

/-- A field elsewhere is kept. -/
theorem Inserted.bits_disjoint {high' low' : Nat} (h : Inserted high low v x y)
    (hdis : high' < low ∨ high < low') : bits y high' low' = bits x high' low' :=
  bits_eq_of_bit fun i h₁ h₂ => h.others i (by omega)

theorem bit_of_le {i : Nat} (h : 32 ≤ i) : bit x i = false := by
  have hlt := x.toNat_lt
  have hpow : 2 ^ 32 ≤ 2 ^ i := Nat.pow_le_pow_right (by decide) h
  exact Nat.testBit_lt_two_pow (by omega)

theorem bit_or (x y : UInt32) (i : Nat) : bit (x ||| y) i = (bit x i || bit y i) := by
  unfold bit
  rw [UInt32.toNat_or, Nat.testBit_or]

theorem bit_and_not (x m : UInt32) (i : Nat) : bit (x &&& ~~~m) i = (bit x i && !bit m i) := by
  by_cases hi : i < 32
  · unfold bit
    have hnot : (~~~m).toNat = 2 ^ 32 - (m.toNat + 1) := by
      rw [UInt32.toNat_not, UInt32.size]
      omega
    rw [UInt32.toNat_and, Nat.testBit_and, hnot, Nat.testBit_two_pow_sub_succ m.toNat_lt]
    simp [hi]
  · rw [bit_of_le (by omega), bit_of_le (by omega)]
    rfl

theorem bit_shiftLeft (v : UInt32) {low : UInt32} (h : low.toNat < 32) (i : Nat) :
    bit (v <<< low) i = (decide (i < 32) && decide (low.toNat ≤ i) && bit v (i - low.toNat)) := by
  unfold bit
  rw [UInt32.toNat_shiftLeft, Nat.mod_eq_of_lt h, Nat.testBit_mod_two_pow, Nat.testBit_shiftLeft,
    Bool.and_assoc]

/-! ## The mask -/

/-- The bits from `high` down to `low`; at `high = 31` the first term is 0. -/
def fieldMask (high low : UInt32) : UInt32 := ((1 <<< high) <<< 1) - (1 <<< low)

theorem toNat_fieldMask {high low : UInt32} (hle : low.toNat ≤ high.toNat)
    (hhigh : high.toNat < 32) :
    (fieldMask high low).toNat = 2 ^ (high.toNat + 1) - 2 ^ low.toNat := by
  have hone : ∀ k : UInt32, k.toNat < 32 → ((1 : UInt32) <<< k).toNat = 2 ^ k.toNat := by
    intro k hk
    have hpow : 2 ^ k.toNat < 2 ^ 32 := Nat.pow_lt_pow_right (by decide) hk
    rw [UInt32.toNat_shiftLeft, Nat.mod_eq_of_lt hk, Nat.shiftLeft_eq]
    change 1 * 2 ^ k.toNat % 2 ^ 32 = _
    rw [Nat.one_mul, Nat.mod_eq_of_lt hpow]
  have htwice : (((1 : UInt32) <<< high) <<< 1).toNat = 2 ^ (high.toNat + 1) % 2 ^ 32 := by
    rw [UInt32.toNat_shiftLeft, hone high hhigh, Nat.shiftLeft_eq, pow_succ]
    rfl
  have hlow : 2 ^ low.toNat ≤ 2 ^ high.toNat := Nat.pow_le_pow_right (by decide) hle
  have hpos : 0 < 2 ^ low.toNat := Nat.two_pow_pos _
  have hsucc : 2 ^ (high.toNat + 1) = 2 ^ high.toNat * 2 := pow_succ 2 high.toNat
  have hlt : 2 ^ (high.toNat + 1) ≤ 2 ^ 32 := Nat.pow_le_pow_right (by decide) (by omega)
  unfold fieldMask
  rw [UInt32.toNat_sub, htwice, hone low (by omega)]
  rcases Nat.lt_or_eq_of_le hlt with h | h
  · rw [Nat.mod_eq_of_lt h]
    omega
  · rw [h, Nat.mod_self]
    omega

theorem bit_fieldMask {high low : UInt32} (hle : low.toNat ≤ high.toNat)
    (hhigh : high.toNat < 32) (i : Nat) :
    bit (fieldMask high low) i = decide (low.toNat ≤ i ∧ i ≤ high.toNat) := by
  have hsplit : 2 ^ (high.toNat + 1) - 2 ^ low.toNat =
      2 ^ low.toNat * (2 ^ (high.toNat + 1 - low.toNat) - 1) := by
    rw [Nat.mul_sub, ← pow_add, Nat.mul_one, Nat.add_sub_cancel' (by omega)]
  unfold bit
  rw [toNat_fieldMask hle hhigh, hsplit, Nat.testBit_two_pow_mul, Nat.testBit_two_pow_sub_one,
    ← Bool.decide_and]
  exact decide_eq_decide.2 (by omega)

/-! ## Insertion -/

/-- **Clear, then or.** -/
theorem inserted_clear_or (x : UInt32) {high low v : UInt32} (hle : low.toNat ≤ high.toNat)
    (hhigh : high.toNat < 32) (hv : v.toNat < 2 ^ (high.toNat + 1 - low.toNat)) :
    Inserted high.toNat low.toNat v.toNat x (x &&& ~~~fieldMask high low ||| v <<< low) := by
  have hbit : ∀ i, bit (x &&& ~~~fieldMask high low ||| v <<< low) i =
      (bit x i && !decide (low.toNat ≤ i ∧ i ≤ high.toNat) ||
        (decide (i < 32) && decide (low.toNat ≤ i) && bit v (i - low.toNat))) := fun i => by
    rw [bit_or, bit_and_not, bit_fieldMask hle hhigh, bit_shiftLeft v (by omega)]
  have hvbit : ∀ j, high.toNat + 1 - low.toNat ≤ j → bit v j = false := fun j hj =>
    Nat.testBit_lt_two_pow (Nat.lt_of_lt_of_le hv (Nat.pow_le_pow_right (by decide) hj))
  refine ⟨Nat.eq_of_testBit_eq fun j => ?_, fun i hi => ?_⟩
  · rw [testBit_bits, hbit, Nat.add_sub_cancel_left]
    show _ = bit v j
    by_cases hj : j < high.toNat + 1 - low.toNat
    · have hin : low.toNat + j ≤ high.toNat := by omega
      have hlt : low.toNat + j < 32 := by omega
      simp [hj, hin, hlt]
    · rw [hvbit j (by omega)]
      simp [hj]
  · rw [hbit]
    by_cases hlow : low.toNat ≤ i
    · rw [hvbit (i - low.toNat) (by omega)]
      simp [hi]
    · simp [hlow]

end BitField
