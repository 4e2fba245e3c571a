import Mathlib.Tactic.Common
import Mathlib.Tactic.IntervalCases
import SwitchOcSuite.Lib.MoveWide
import SwitchOcSuite.Loader.MaxClock
import SwitchOcSuite.Loader.SafetyCheck

/-!
# The GPU clock instructions (`GpuFreqMaxAsm`)

The patch accepts the stock pair `MOVZ Wd, #0x1000` and `MOVK Wd, #0xE, LSL #16` on any
one register and replaces the two immediates, so that the pair loads the last
frequency of the customized GPU table.  That table must have an entry: the last one
of an empty table is a null pointer, which is followed.

    inserted_patch              a patched word is the old one with another immediate
    gpuFreqMaxAsm_loads         when the patch succeeds, and what the pair then loads
-/

namespace SwitchOc

open Traced BitField MoveWide

/-- The two words are the pair that the system ships, on register `d`. -/
def StockPair (w₁ w₂ : UInt32) (d : Nat) : Prop :=
  decode w₁ = some ⟨.movz, 0, 0x1000, d⟩ ∧ decode w₂ = some ⟨.movk, 1, 0xE, d⟩

/-! ## The check -/

theorem asmCompareNoRd_iff (w p : UInt32) :
    asmCompareNoRd w p = true ↔ w.toNat / 32 = p.toNat / 32 := by
  unfold asmCompareNoRd
  rw [beq_iff_eq, ← UInt32.toNat_inj, UInt32.toNat_shiftRight, UInt32.toNat_xor,
    show (5 : UInt32).toNat % 32 = 5 from rfl, Nat.shiftRight_xor_distrib]
  show _ ^^^ _ = 0 ↔ _
  rw [Nat.xor_eq_zero_iff, Nat.shiftRight_eq_div_pow, Nat.shiftRight_eq_div_pow]

theorem toNat_asmGetRd (w : UInt32) : (asmGetRd w).toNat = w.toNat % 32 := by
  unfold asmGetRd
  rw [UInt32.toNat_toUInt8, UInt32.toNat_and, show (31 : UInt32).toNat = 2 ^ 5 - 1 from rfl,
    Nat.and_two_pow_sub_one_eq_mod]
  omega

/-- All fields but the register are those of the pattern. -/
theorem decode_pattern0_iff {w : UInt32} {d : Nat} :
    decode w = some ⟨.movz, 0, 0x1000, d⟩ ↔
      w.toNat / 32 = asmPattern0.toNat / 32 ∧ w.toNat % 32 = d := by
  have hw := w.toNat_lt
  unfold decode opOf bits
  rw [show asmPattern0.toNat = 0x52820000 from rfl]
  constructor
  · intro h
    split at h
    · rename_i hclass
      split at h
      · rename_i hop
        simp only [Option.map_some, Option.some.injEq, Insn.mk.injEq, true_and] at h
        omega
      · split at h
        · simp at h
        · simp at h
    · cases h
  · rintro ⟨hhigh, rfl⟩
    rw [if_pos (by omega), if_pos (by omega)]
    simp only [Option.map_some, Option.some.injEq, Insn.mk.injEq, true_and]
    omega

theorem decode_pattern1_iff {w : UInt32} {d : Nat} :
    decode w = some ⟨.movk, 1, 0xE, d⟩ ↔
      w.toNat / 32 = asmPattern1.toNat / 32 ∧ w.toNat % 32 = d := by
  have hw := w.toNat_lt
  unfold decode opOf bits
  rw [show asmPattern1.toNat = 0x72A001C0 from rfl]
  constructor
  · intro h
    split at h
    · rename_i hclass
      split at h
      · simp at h
      · split at h
        · rename_i hop
          simp only [Option.map_some, Option.some.injEq, Insn.mk.injEq, true_and] at h
          omega
        · simp at h
    · cases h
  · rintro ⟨hhigh, rfl⟩
    rw [if_pos (by omega), if_neg (by omega), if_pos (by omega)]
    simp only [Option.map_some, Option.some.injEq, Insn.mk.injEq, true_and]
    omega

/-! ## The patch -/

/-- A patched word: the register, the immediate, and the rest of the pattern. -/
theorem bit_patch (p : UInt32) (imm : UInt16) (rd : UInt8) {i : Nat} (hi : i < 32) :
    bit (asmSetRd (asmSetImm16 p imm) rd) i =
      if i < 5 then rd.toNat.testBit i
      else if i < 21 then imm.toNat.testBit (i - 5)
      else bit p i := by
  have hbit : ∀ x : UInt32, bit x i = x.toBitVec.getLsbD i := fun _ => rfl
  have himm : imm.toNat.testBit (i - 5) = imm.toBitVec.getLsbD (i - 5) := rfl
  have hrd : rd.toNat.testBit i = rd.toBitVec.getLsbD i := rfl
  rw [hbit, hbit, himm, hrd]
  unfold asmSetRd asmSetImm16
  simp only [UInt32.toBitVec_and, UInt32.toBitVec_or, UInt32.toBitVec_shiftLeft]
  interval_cases i <;> simp

/-- A patched word is the old one with another immediate. -/
theorem inserted_patch {w p : UInt32} (h : w.toNat / 32 = p.toNat / 32) (imm : UInt16) :
    Inserted 20 5 imm.toNat w (asmSetRd (asmSetImm16 p imm) (asmGetRd w)) := by
  refine ⟨Nat.eq_of_testBit_eq fun j => ?_, fun i hi => ?_⟩
  · rw [testBit_bits]
    by_cases hj : j < 16
    · rw [bit_patch _ _ _ (by omega), if_neg (by omega), if_pos (by omega), Nat.add_sub_cancel_left]
      simp [hj]
    · have himm : imm.toNat.testBit j = false := by
        have hlt := imm.toNat_lt
        have hpow : 2 ^ 16 ≤ 2 ^ j := Nat.pow_le_pow_right (by decide) (by omega)
        exact Nat.testBit_lt_two_pow (by omega)
      rw [himm]
      simp [hj]
  · by_cases hlt : i < 32
    · rw [bit_patch _ _ _ hlt]
      by_cases hlow : i < 5
      · rw [if_pos hlow, toNat_asmGetRd, show (32 : Nat) = 2 ^ 5 from rfl, Nat.testBit_mod_two_pow]
        simp [hlow, bit]
      · rw [if_neg hlow, if_neg (by omega)]
        -- above the register both agree
        have hdiv := congrArg (fun n => Nat.testBit n (i - 5)) h
        simp only [show (32 : Nat) = 2 ^ 5 from rfl, Nat.testBit_div_two_pow] at hdiv
        rw [Nat.sub_add_cancel (by omega)] at hdiv
        exact hdiv.symm
    · rw [bit_of_le (by omega), bit_of_le (by omega)]

theorem gpuFreqMaxAsm_eq (isMariko : Bool) (C : CustomizeTable) (ptr : Int) :
    gpuFreqMaxAsm isMariko C ptr = gpuFreqMaxAsmOf (lastFreq (gpuCustomizeTable isMariko C)) ptr := by
  cases isMariko <;> rfl

/-- What the pair does once it is patched: `last` is the entry whose frequency it loads. -/
structure LoadsLast (last : CvbEntry) (d : Nat) (before after : Int → UInt32) (ptr : Int) : Prop where
  stock : StockPair (before ptr) (before (ptr + 1)) d
  movz : Inserted 20 5 ((lowWord last.freq).toNat % 2 ^ 16) (before ptr) (after ptr)
  movk : Inserted 20 5 ((lowWord last.freq).toNat / 2 ^ 16) (before (ptr + 1)) (after (ptr + 1))
  loads : ∀ r, run [after ptr, after (ptr + 1)] r = some (r.write d (lowWord last.freq))
  others : ∀ w, w ≠ ptr → w ≠ ptr + 1 → after w = before w

/-- The check of the patch: the pattern twice, and one register. -/
theorem exists_stockPair_iff (w₁ w₂ : UInt32) :
    (∃ d, StockPair w₁ w₂ d) ↔
      (asmCompareNoRd w₁ asmPattern0 = true ∧ asmCompareNoRd w₂ asmPattern1 = true) ∧
        asmGetRd w₁ = asmGetRd w₂ := by
  rw [asmCompareNoRd_iff, asmCompareNoRd_iff, ← UInt8.toNat_inj, toNat_asmGetRd, toNat_asmGetRd]
  unfold StockPair
  simp only [decode_pattern0_iff, decode_pattern1_iff]
  constructor
  · rintro ⟨d, ⟨h₁, rfl⟩, h₂, hd⟩
    exact ⟨⟨h₁, h₂⟩, hd.symm⟩
  · rintro ⟨⟨h₁, h₂⟩, hd⟩
    exact ⟨_, ⟨h₁, rfl⟩, h₂, hd.symm⟩

/-- A patched pair loads the clock its immediates were taken from. -/
theorem run_patch {w₁ w₂ : UInt32} {d : Nat} (h : StockPair w₁ w₂ d) (maxClock : UInt32) (r : Regs) :
    run [asmSetRd (asmSetImm16 asmPattern0 maxClock.toUInt16) (asmGetRd w₁),
        asmSetRd (asmSetImm16 asmPattern1 (maxClock >>> 16).toUInt16) (asmGetRd w₂)] r =
      some (r.write d maxClock) := by
  have hmovz := decode_inserted h.1 (inserted_patch (decode_pattern0_iff.1 h.1).1 maxClock.toUInt16)
  have hmovk := decode_inserted h.2
    (inserted_patch (decode_pattern1_iff.1 h.2).1 (maxClock >>> 16).toUInt16)
  rw [run_movz_movk hmovz hmovk maxClock.toUInt16.toNat_lt]
  congr 2
  have hlt := maxClock.toNat_lt
  rw [← UInt32.toNat_inj, UInt32.toNat_ofNat', UInt32.toNat_toUInt16, UInt32.toNat_toUInt16,
    UInt32.toNat_shiftRight, show (16 : UInt32).toNat % 32 = 16 from rfl,
    Nat.shiftRight_eq_div_pow]
  omega

/-- A run on a stock pair, over a table with a last entry. -/
theorem loadsLast_of_stockPair {t : Nat → CvbEntry} {last : CvbEntry} {ptr : Int} {s : Store Device}
    {d : Nat} (h : StockPair (s.mem ptr) (s.mem (ptr + 1)) d)
    (hlast : getDvfsTableLastEntry t = some last) :
    (gpuFreqMaxAsmOf (lastFreq t) ptr s).result = .ok () ∧
      LoadsLast last d s.mem (gpuFreqMaxAsmOf (lastFreq t) ptr s).state.mem ptr := by
  obtain ⟨hpattern, hrd⟩ := (exists_stockPair_iff _ _).1 ⟨d, h⟩
  have hfreq : lastFreq t = (pure last.freq : Patch UInt64) := by
    unfold lastFreq
    rw [hlast]
  have hne : ptr ≠ ptr + 1 := by omega
  unfold gpuFreqMaxAsmOf
  simp only [load_bind_run, after_result, after_state]
  rw [require_bind_run, if_pos hpattern, require_bind_run, if_pos hrd, hfreq, pure_bind_run]
  simp only [store_bind_run, store_run, after_result, after_state]
  refine ⟨trivial, h, ?_, ?_, fun r => ?_, fun w hw₁ hw₂ => ?_⟩
  · rw [Function.update_of_ne hne, Function.update_self]
    have hpatch := inserted_patch (decode_pattern0_iff.1 h.1).1 (lowWord last.freq).toUInt16
    rwa [UInt32.toNat_toUInt16] at hpatch
  · rw [Function.update_self, hrd]
    have hpatch := inserted_patch (decode_pattern1_iff.1 h.2).1 (lowWord last.freq >>> 16).toUInt16
    have hlt := (lowWord last.freq).toNat_lt
    rwa [UInt32.toNat_toUInt16, UInt32.toNat_shiftRight, show (16 : UInt32).toNat % 32 = 16 from rfl,
      Nat.shiftRight_eq_div_pow, Nat.mod_eq_of_lt (by omega)] at hpatch
  · rw [Function.update_of_ne hne, Function.update_self, Function.update_self]
    have hrun := run_patch h (lowWord last.freq) r
    rwa [← hrd] at hrun
  · rw [Function.update_of_ne hw₂, Function.update_of_ne hw₁]

/-- **The patch succeeds on the stock pair over a table with an entry, and then the pair loads
the last frequency.** -/
theorem gpuFreqMaxAsm_loads (isMariko : Bool) (C : CustomizeTable) (ptr : Int) (s : Store Device) :
    ((gpuFreqMaxAsm isMariko C ptr s).result = .ok () ↔
        (∃ d, StockPair (s.mem ptr) (s.mem (ptr + 1)) d) ∧
          getDvfsTableEntryCount (gpuCustomizeTable isMariko C) ≠ 0) ∧
      ((gpuFreqMaxAsm isMariko C ptr s).result = .ok () →
        ∃ last d, getDvfsTableLastEntry (gpuCustomizeTable isMariko C) = some last ∧
          LoadsLast last d s.mem (gpuFreqMaxAsm isMariko C ptr s).state.mem ptr) := by
  rw [gpuFreqMaxAsm_eq]
  generalize gpuCustomizeTable isMariko C = t
  have hiff : (gpuFreqMaxAsmOf (lastFreq t) ptr s).result = .ok () ↔
      (∃ d, StockPair (s.mem ptr) (s.mem (ptr + 1)) d) ∧ getDvfsTableEntryCount t ≠ 0 := by
    constructor
    · intro hok
      unfold gpuFreqMaxAsmOf at hok
      simp only [load_bind_run, after_result] at hok
      obtain ⟨hpattern, e₁⟩ := require_bind_of_ok hok
      rw [e₁] at hok
      obtain ⟨hrd, e₂⟩ := require_bind_of_ok hok
      rw [e₂] at hok
      refine ⟨(exists_stockPair_iff _ _).2 ⟨hpattern, hrd⟩, fun hempty => ?_⟩
      -- the null pointer of an empty table is followed
      unfold lastFreq at hok
      rw [getDvfsTableLastEntry_eq_none_iff.2 hempty] at hok
      cases hok
    · rintro ⟨⟨d, hpair⟩, hne⟩
      exact (loadsLast_of_stockPair hpair
        (getDvfsTableLastEntry_of_pos (Nat.pos_of_ne_zero hne))).1
  refine ⟨hiff, fun hok => ?_⟩
  obtain ⟨⟨d, hpair⟩, hne⟩ := hiff.1 hok
  have hlast := getDvfsTableLastEntry_of_pos (Nat.pos_of_ne_zero hne)
  exact ⟨_, d, hlast, (loadsLast_of_stockPair hpair hlast).2⟩

/-- On the stock pair, a table without an entry stops the patch. -/
theorem gpuFreqMaxAsm_emptyGpuTable :
    ¬ ∀ (isMariko : Bool) (C : CustomizeTable) (ptr : Int) (s : Store Device),
      ((gpuFreqMaxAsm isMariko C ptr s).result = .ok () ↔
          ∃ d, StockPair (s.mem ptr) (s.mem (ptr + 1)) d) ∧
        ((gpuFreqMaxAsm isMariko C ptr s).result = .ok () →
          ∃ last d, getDvfsTableLastEntry (gpuCustomizeTable isMariko C) = some last ∧
            LoadsLast last d s.mem (gpuFreqMaxAsm isMariko C ptr s).state.mem ptr) := by
  intro hall
  have hok := (hall false emptyGpuTable 0 asmImage).1.2 ⟨0, by decide, by decide⟩
  have hlast : getDvfsTableLastEntry (gpuCustomizeTable false emptyGpuTable) = none :=
    (getDvfsTableLastEntry_ofList []).trans (by decide)
  rw [gpuFreqMaxAsm_eq] at hok
  unfold gpuFreqMaxAsmOf lastFreq at hok
  rw [hlast] at hok
  simp only [load_bind_run, after_result] at hok
  rw [require_bind_run, if_pos (by decide), require_bind_run, if_pos (by decide)] at hok
  cases hok

end SwitchOc
