import Mathlib.Logic.Function.Basic
import SwitchOcSuite.Lib.BitField

/-!
# `MOVZ` and `MOVK` of A64

The two move-wide instructions of the 32-bit registers.  An instruction carries 16
bits of an immediate, for the lower (`hw` = 0) or the upper (`hw` = 1) half of the
register: `MOVZ` clears the other half, `MOVK` keeps it.  Register 31 is the zero
register, which drops what is written to it.

    decode_inserted     the immediate is a field of the word
    run_movz_movk       a pair on one register loads both halves
-/

namespace MoveWide

open BitField Function

inductive Op where
  | movz
  | movk
  deriving DecidableEq, Repr

structure Insn where
  op : Op
  hw : Nat
  imm16 : Nat
  rd : Nat
  deriving DecidableEq, Repr

/-! ## Decoding -/

def opOf (opc : Nat) : Option Op :=
  if opc = 2 then some .movz else if opc = 3 then some .movk else none

/-- The `sf` bit is 0, and bits 28 to 23 are those of the class. -/
def decode (w : UInt32) : Option Insn :=
  if bits w 31 31 = 0 ∧ bits w 28 23 = 0b100101 ∧ bits w 22 21 < 2 then
    (opOf (bits w 30 29)).map fun op => ⟨op, bits w 22 21, bits w 20 5, bits w 4 0⟩
  else none

theorem decode_inserted {w w' : UInt32} {i : Insn} {v : Nat} (hi : decode w = some i)
    (h : Inserted 20 5 v w w') : decode w' = some { i with imm16 := v } := by
  have hsf : bits w' 31 31 = bits w 31 31 := h.bits_disjoint (by omega)
  have hclass : bits w' 28 23 = bits w 28 23 := h.bits_disjoint (by omega)
  have hhw : bits w' 22 21 = bits w 22 21 := h.bits_disjoint (by omega)
  have hopc : bits w' 30 29 = bits w 30 29 := h.bits_disjoint (by omega)
  have hrd : bits w' 4 0 = bits w 4 0 := h.bits_disjoint (by omega)
  unfold decode at hi ⊢
  rw [hsf, hclass, hhw, hopc, hrd, h.field]
  by_cases hmove : bits w 31 31 = 0 ∧ bits w 28 23 = 0b100101 ∧ bits w 22 21 < 2
  · rw [if_pos hmove] at hi ⊢
    obtain ⟨op, hop, rfl⟩ := Option.map_eq_some_iff.1 hi
    rw [hop]
    rfl
  · rw [if_neg hmove] at hi
    cases hi

/-! ## Execution -/

abbrev Regs := Nat → UInt32

def Regs.read (r : Regs) (d : Nat) : UInt32 := if d = 31 then 0 else r d

def Regs.write (r : Regs) (d : Nat) (v : UInt32) : Regs := if d = 31 then r else update r d v

/-- The new value of the register, from its old one. -/
def Insn.value (i : Insn) (old : UInt32) : UInt32 :=
  let low := 2 ^ (16 * i.hw)
  let high := 2 ^ (16 * i.hw + 16)
  match i.op with
  | .movz => .ofNat (i.imm16 * low)
  | .movk => .ofNat (old.toNat / high * high + i.imm16 * low + old.toNat % low)

def Insn.exec (i : Insn) (r : Regs) : Regs := r.write i.rd (i.value (r.read i.rd))

/-- The words in order; `none` if one of them is another instruction. -/
def run : List UInt32 → Regs → Option Regs
  | [], r => some r
  | w :: ws, r =>
    match decode w with
    | none => none
    | some i => run ws (i.exec r)

/-- A `MOVZ` for the lower half and a `MOVK` for the upper one load the register. -/
theorem run_movz_movk {w₁ w₂ : UInt32} {a b d : Nat} (h₁ : decode w₁ = some ⟨.movz, 0, a, d⟩)
    (h₂ : decode w₂ = some ⟨.movk, 1, b, d⟩) (ha : a < 2 ^ 16) (r : Regs) :
    run [w₁, w₂] r = some (r.write d (.ofNat (a + 2 ^ 16 * b))) := by
  unfold run run run
  rw [h₁, h₂]
  show some (Insn.exec _ (Insn.exec _ r)) = _
  unfold Insn.exec Insn.value Regs.read Regs.write
  dsimp only
  by_cases hd : d = 31
  · simp only [if_pos hd]
  · simp only [if_neg hd, update_self, update_idem]
    have hlow : (UInt32.ofNat (a * 2 ^ (16 * 0))).toNat = a := by
      rw [UInt32.toNat_ofNat', Nat.mul_zero, Nat.pow_zero, Nat.mul_one]
      exact Nat.mod_eq_of_lt (by omega)
    rw [hlow, Nat.div_eq_of_lt (by omega), Nat.mod_eq_of_lt (by omega)]
    congr 3
    omega

end MoveWide
