import Mathlib.Tactic.FieldSimp
import Mathlib.Tactic.Linarith
import SwitchOcSuite.Loader.Scan

/-!
# The divisors of PLLMB (`MemMtcPllmbDivisor`)

The remainder of the clock over the 38.4 MHz oscillator is rounded down to one of
six fractions of it, tried from the largest down.  All six times 38400 are integers,
so the output of the PLL is the multiple of the oscillator plus the fraction's
threshold, without rounding.

The fields of PLLMB_BASE have eight bits each.  From 64 oscillations on, a fraction
over 4 needs a DIVN that no longer fits.

    memMtcPllmbDivisor_closest     the output next to the clock
    memMtcPllmbDivisor_fits_iff    the clocks whose divisors fit the register
-/

namespace SwitchOc.Mariko

open Traced

/-- `PLLMB_OUT` in kHz. -/
def pllmbOut (divm divn : UInt32) : ℚ := dbl pllOscIn * dbl divn / dbl divm

/-- The oscillator times a fraction of the table, over `k` whole oscillations. -/
def pllmbStep (k : Nat) (d : UInt32 × UInt32) : ℚ := dbl pllOscIn * (k + dbl d.1 / dbl d.2)

/-- The divisors put the output right below the clock `c`. -/
structure ClosestBelow (c divm divn : UInt32) : Prop where
  divm_ne_zero : divm ≠ 0
  le : pllmbOut divm divn ≤ dbl c
  gap : dbl c - pllmbOut divm divn < 9600
  exact : 9600 ∣ c.toNat → pllmbOut divm divn = dbl c
  attained : ∃ k, ∃ d ∈ pllmbDiv, pllmbOut divm divn = pllmbStep k d
  closest : ∀ k, ∀ d ∈ pllmbDiv, pllmbStep k d ≤ dbl c → pllmbStep k d ≤ pllmbOut divm divn

/-! ## Thresholds -/

/-- What the remainder is compared with. -/
def threshold (d : UInt32 × UInt32) : Nat := (pllOscIn * d.1 / d.2).toNat

/-- The six thresholds are exact: no division of the table drops a fraction. -/
theorem threshold_exact : ∀ d ∈ pllmbDiv,
    threshold d * d.2.toNat = 38400 * d.1.toNat ∧ 0 < d.2.toNat ∧ d.2.toNat ≤ 4 ∧
      d.1.toNat ≤ 3 ∧ threshold d < 38400 := by
  -- entry by entry, so that nothing is decided over all pairs of words
  unfold pllmbDiv
  simp only [List.forall_mem_cons, List.not_mem_nil, false_implies, implies_true, and_true]
  decide

theorem threshold_descending : pllmbDiv.Pairwise fun d d' => threshold d' ≤ threshold d := by
  decide

/-- The first fraction that is not above the remainder is the largest such. -/
theorem find_greatest {r : UInt32} {d : UInt32 × UInt32}
    (h : pllmbDiv.find? (fun d => pllOscIn * d.1 / d.2 ≤ r) = some d) :
    d ∈ pllmbDiv ∧ threshold d ≤ r.toNat ∧
      ∀ d' ∈ pllmbDiv, threshold d' ≤ r.toNat → threshold d' ≤ threshold d := by
  obtain ⟨hle, before, after, hsplit, hbefore⟩ := List.find?_eq_some_iff_append.1 h
  refine ⟨by rw [hsplit]; simp, UInt32.le_iff_toNat_le.1 (of_decide_eq_true hle),
    fun d' hd' hle' => ?_⟩
  have hsorted := threshold_descending
  rw [hsplit] at hd' hsorted
  rcases List.mem_append.1 hd' with hmem | hmem
  · have hgt := hbefore d' hmem
    exact absurd (show pllOscIn * d'.1 / d'.2 ≤ r from hle') (by simpa using hgt)
  · rcases List.mem_cons.1 hmem with rfl | hmem
    · exact Nat.le_refl _
    · exact (List.pairwise_cons.1 (List.pairwise_append.1 hsorted).2.1).1 d' hmem

/-- There is one: the last fraction is 0. -/
theorem exists_find (r : UInt32) :
    ∃ d, pllmbDiv.find? (fun d => pllOscIn * d.1 / d.2 ≤ r) = some d := by
  have hmem : ((0 : UInt32), (2 : UInt32)) ∈ pllmbDiv := by decide
  have hsome : (pllmbDiv.find? fun d => pllOscIn * d.1 / d.2 ≤ r).isSome := by
    rw [List.find?_isSome]
    exact ⟨_, hmem, decide_eq_true (UInt32.zero_le : (0 : UInt32) ≤ r)⟩
  exact Option.isSome_iff_exists.1 hsome

/-- No remainder is 9600 or more above the next threshold, and a multiple of 9600 is one. -/
theorem exists_threshold {r : Nat} (h : r < 38400) :
    ∃ d ∈ pllmbDiv, threshold d ≤ r ∧ r < threshold d + 9600 ∧ (9600 ∣ r → threshold d = r) := by
  have h₀ : ((0 : UInt32), (2 : UInt32)) ∈ pllmbDiv ∧ threshold (0, 2) = 0 := by decide
  have h₁ : ((1 : UInt32), (4 : UInt32)) ∈ pllmbDiv ∧ threshold (1, 4) = 9600 := by decide
  have h₂ : ((1 : UInt32), (2 : UInt32)) ∈ pllmbDiv ∧ threshold (1, 2) = 19200 := by decide
  have h₃ : ((3 : UInt32), (4 : UInt32)) ∈ pllmbDiv ∧ threshold (3, 4) = 28800 := by decide
  rcases (by omega : r < 9600 ∨ 9600 ≤ r ∧ r < 19200 ∨ 19200 ≤ r ∧ r < 28800 ∨ 28800 ≤ r) with
    hr | hr | hr | hr
  · exact ⟨_, h₀.1, by omega, by omega, by omega⟩
  · exact ⟨_, h₁.1, by omega, by omega, by omega⟩
  · exact ⟨_, h₂.1, by omega, by omega, by omega⟩
  · exact ⟨_, h₃.1, by omega, by omega, by omega⟩

/-! ## The output -/

/-- A step of the table is an integer. -/
theorem pllmbStep_eq (k : Nat) {d : UInt32 × UInt32} (hd : d ∈ pllmbDiv) :
    pllmbStep k d = ((38400 * k + threshold d : Nat) : ℚ) := by
  obtain ⟨hexact, hpos, -⟩ := threshold_exact d hd
  have hne : (d.2.toNat : ℚ) ≠ 0 := by
    have hpos' : d.2.toNat ≠ 0 := by omega
    exact_mod_cast hpos'
  have hexact' : (threshold d : ℚ) * d.2.toNat = 38400 * d.1.toNat := by exact_mod_cast hexact
  have hosc : dbl pllOscIn = 38400 := by
    unfold dbl
    rw [show pllOscIn.toNat = 38400 from rfl]
    norm_num
  unfold pllmbStep
  rw [hosc]
  unfold dbl
  push_cast
  field_simp
  linarith

/-- `divn` does not wrap. -/
theorem toNat_divn (c : UInt32) {d : UInt32 × UInt32} (hd : d ∈ pllmbDiv) :
    (c / pllOscIn * d.2 + d.1).toNat = c.toNat / 38400 * d.2.toNat + d.1.toNat := by
  obtain ⟨-, hpos, hden, hnum, -⟩ := threshold_exact d hd
  have hc := c.toNat_lt
  have hmul : c.toNat / 38400 * d.2.toNat ≤ c.toNat / 38400 * 4 := Nat.mul_le_mul_left _ hden
  rw [UInt32.toNat_add, UInt32.toNat_mul, UInt32.toNat_div,
    show pllOscIn.toNat = 38400 from rfl, Nat.mod_eq_of_lt (a := _ * _) (by omega),
    Nat.mod_eq_of_lt (by omega)]

/-- The output is the step of the fraction. -/
theorem pllmbOut_eq (c : UInt32) {d : UInt32 × UInt32} (hd : d ∈ pllmbDiv) :
    pllmbOut d.2 (c / pllOscIn * d.2 + d.1) = pllmbStep (c.toNat / 38400) d := by
  obtain ⟨-, hpos, -⟩ := threshold_exact d hd
  have hne : (d.2.toNat : ℚ) ≠ 0 := by
    have hpos' : d.2.toNat ≠ 0 := by omega
    exact_mod_cast hpos'
  unfold pllmbOut pllmbStep dbl
  rw [toNat_divn c hd]
  push_cast
  field_simp

/-- The divisors are those of the greatest fraction that is not above the remainder. -/
theorem exists_pllmbDivisor (C : CustomizeTable) :
    ∃ d ∈ pllmbDiv, pllmbDivisor C = (d.2, C.marikoEmcMaxClock / pllOscIn * d.2 + d.1) ∧
      threshold d ≤ C.marikoEmcMaxClock.toNat % 38400 ∧
      ∀ d' ∈ pllmbDiv, threshold d' ≤ C.marikoEmcMaxClock.toNat % 38400 →
        threshold d' ≤ threshold d := by
  obtain ⟨d, hfind⟩ := exists_find (C.marikoEmcMaxClock % pllOscIn)
  obtain ⟨hd, hle, hgreatest⟩ := find_greatest hfind
  rw [show (C.marikoEmcMaxClock % pllOscIn).toNat = C.marikoEmcMaxClock.toNat % 38400 from
    UInt32.toNat_mod _ _] at hle hgreatest
  refine ⟨d, hd, ?_, hle, hgreatest⟩
  unfold pllmbDivisor
  dsimp only
  rw [hfind]

theorem closestBelow_pllmbDivisor (C : CustomizeTable) :
    ClosestBelow C.marikoEmcMaxClock (pllmbDivisor C).1 (pllmbDivisor C).2 := by
  obtain ⟨d, hd, hdivisor, hle, hgreatest⟩ := exists_pllmbDivisor C
  generalize C.marikoEmcMaxClock = c at *
  have hsplit : 38400 * (c.toNat / 38400) + c.toNat % 38400 = c.toNat := Nat.div_add_mod _ _
  have hout : pllmbOut d.2 (c / pllOscIn * d.2 + d.1) =
      ((38400 * (c.toNat / 38400) + threshold d : Nat) : ℚ) := by
    rw [pllmbOut_eq c hd, pllmbStep_eq _ hd]
  -- the nearest threshold below the remainder is at most that of `d`
  obtain ⟨d', hd', hle', hgap', hexact'⟩ := exists_threshold (Nat.mod_lt c.toNat (by decide))
  have hnear := hgreatest d' hd' hle'
  rw [hdivisor]
  refine ⟨fun hzero => ?_, ?_, ?_, fun hdvd => ?_, ⟨_, d, hd, pllmbOut_eq c hd⟩, ?_⟩
  · have hpos := (threshold_exact d hd).2.1
    rw [show d.2 = 0 from hzero] at hpos
    exact absurd hpos (by decide)
  · rw [hout]
    unfold dbl
    exact_mod_cast (by omega : 38400 * (c.toNat / 38400) + threshold d ≤ c.toNat)
  · rw [hout, sub_lt_iff_lt_add]
    unfold dbl
    exact_mod_cast (by omega : c.toNat < 9600 + (38400 * (c.toNat / 38400) + threshold d))
  · have hmod : 9600 ∣ c.toNat % 38400 := (Nat.dvd_mod_iff (by decide)).2 hdvd
    rw [hout]
    unfold dbl
    exact_mod_cast (by have := hexact' hmod; omega :
      38400 * (c.toNat / 38400) + threshold d = c.toNat)
  · intro k e he hke
    have hlt := (threshold_exact e he).2.2.2.2
    rw [pllmbStep_eq k he] at hke ⊢
    unfold dbl at hke
    have hke' : 38400 * k + threshold e ≤ c.toNat := by exact_mod_cast hke
    rw [hout]
    have hkle : k ≤ c.toNat / 38400 := by omega
    rcases Nat.lt_or_eq_of_le hkle with hlt' | heq
    · exact_mod_cast (by omega : 38400 * k + threshold e ≤
        38400 * (c.toNat / 38400) + threshold d)
    · have hbest := hgreatest e he (by omega)
      exact_mod_cast (by omega : 38400 * k + threshold e ≤
        38400 * (c.toNat / 38400) + threshold d)

/-- The two registers of the table hold the divisors. -/
theorem memMtcPllmbDivisor_regs (C : CustomizeTable) (table : Int) (s : Store Device) :
    (memMtcPllmbDivisor C table s).state.mem (table + Reg.pllmb_divm.off) = (pllmbDivisor C).1 ∧
      (memMtcPllmbDivisor C table s).state.mem (table + Reg.pllmb_divn.off) =
        (pllmbDivisor C).2 := by
  have hmem : (memMtcPllmbDivisor C table s).state.mem =
      Function.update (Function.update s.mem (table + Reg.pllmb_divm.off) (pllmbDivisor C).1)
        (table + Reg.pllmb_divn.off) (pllmbDivisor C).2 := rfl
  have hne : table + (Reg.pllmb_divm.off : Int) ≠ table + Reg.pllmb_divn.off := by
    simp [Reg.off]
  constructor
  · rw [hmem, Function.update_of_ne hne, Function.update_self]
  · rw [hmem, Function.update_self]

/-- **The registers get divisors whose output is the closest to the clock from below.** -/
theorem memMtcPllmbDivisor_closest (C : CustomizeTable) (table : Int) (s : Store Device) :
    (memMtcPllmbDivisor C table s).result = .ok () ∧
      ClosestBelow C.marikoEmcMaxClock
        ((memMtcPllmbDivisor C table s).state.mem (table + Reg.pllmb_divm.off))
        ((memMtcPllmbDivisor C table s).state.mem (table + Reg.pllmb_divn.off)) := by
  obtain ⟨hdivm, hdivn⟩ := memMtcPllmbDivisor_regs C table s
  refine ⟨rfl, ?_⟩
  rw [hdivm, hdivn]
  exact closestBelow_pllmbDivisor C

/-! ## The fields of PLLMB_BASE -/

/-- DIVN has bits 15..8 of PLLMB_BASE, DIVM bits 7..0. -/
def FitsPllmbBase (divm divn : UInt32) : Prop := divn.toNat < 2 ^ 8 ∧ divm.toNat < 2 ^ 8

/-- A fraction over 4 is chosen, at 64 oscillations or more. -/
def DivnOverflows (c : UInt32) : Prop :=
  64 * 38400 ≤ c.toNat ∧
    (28800 ≤ c.toNat % 38400 ∨ 9600 ≤ c.toNat % 38400 ∧ c.toNat % 38400 < 12800)

theorem pllmbDivisor_fits_iff {C : CustomizeTable} (hle : C.marikoEmcMaxClock.toNat ≤ 2800000) :
    FitsPllmbBase (pllmbDivisor C).1 (pllmbDivisor C).2 ↔ ¬ DivnOverflows C.marikoEmcMaxClock := by
  obtain ⟨d, hd, hdivisor, hthr, hgreatest⟩ := exists_pllmbDivisor C
  have hdivn := toNat_divn C.marikoEmcMaxClock hd
  rw [hdivisor]
  unfold FitsPllmbBase DivnOverflows
  rw [hdivn]
  generalize C.marikoEmcMaxClock.toNat = c at *
  have h₁ := hgreatest (3, 4) (by decide)
  have h₂ := hgreatest (2, 3) (by decide)
  have h₃ := hgreatest (1, 2) (by decide)
  have h₄ := hgreatest (1, 3) (by decide)
  have h₅ := hgreatest (1, 4) (by decide)
  rw [show threshold (3, 4) = 28800 by decide] at h₁
  rw [show threshold (2, 3) = 25600 by decide] at h₂
  rw [show threshold (1, 2) = 19200 by decide] at h₃
  rw [show threshold (1, 3) = 12800 by decide] at h₄
  rw [show threshold (1, 4) = 9600 by decide] at h₅
  -- one case for each fraction; the quotient is at most 72
  unfold pllmbDiv at hd
  simp only [List.mem_cons, List.not_mem_nil, or_false] at hd
  rcases hd with rfl | rfl | rfl | rfl | rfl | rfl
  · rw [show threshold (3, 4) = 28800 by decide] at hthr
    show (c / 38400 * 4 + 3 < 2 ^ 8 ∧ 4 < 2 ^ 8) ↔ _
    omega
  · rw [show threshold (2, 3) = 25600 by decide] at hthr h₁
    show (c / 38400 * 3 + 2 < 2 ^ 8 ∧ 3 < 2 ^ 8) ↔ _
    omega
  · rw [show threshold (1, 2) = 19200 by decide] at hthr h₁ h₂
    show (c / 38400 * 2 + 1 < 2 ^ 8 ∧ 2 < 2 ^ 8) ↔ _
    omega
  · rw [show threshold (1, 3) = 12800 by decide] at hthr h₁ h₂ h₃
    show (c / 38400 * 3 + 1 < 2 ^ 8 ∧ 3 < 2 ^ 8) ↔ _
    omega
  · rw [show threshold (1, 4) = 9600 by decide] at hthr h₁ h₂ h₃ h₄
    show (c / 38400 * 4 + 1 < 2 ^ 8 ∧ 4 < 2 ^ 8) ↔ _
    omega
  · rw [show threshold (0, 2) = 0 by decide] at h₁ h₂ h₃ h₄ h₅
    show (c / 38400 * 2 + 0 < 2 ^ 8 ∧ 2 < 2 ^ 8) ↔ _
    omega

/-- **The clocks whose divisors fit the register.** -/
theorem memMtcPllmbDivisor_fits_iff {C : CustomizeTable} (hsafe : safetyCheck C = .ok ())
    (table : Int) (s : Store Device) :
    FitsPllmbBase ((memMtcPllmbDivisor C table s).state.mem (table + Reg.pllmb_divm.off))
        ((memMtcPllmbDivisor C table s).state.mem (table + Reg.pllmb_divn.off)) ↔
      ¬ DivnOverflows C.marikoEmcMaxClock := by
  obtain ⟨hdivm, hdivn⟩ := memMtcPllmbDivisor_regs C table s
  rw [hdivm, hdivn]
  exact pllmbDivisor_fits_iff (marikoEmcMaxClock_le hsafe)

/-- The shipped clock is far below 64 oscillations. -/
theorem memMtcPllmbDivisor_fits_customizeTable :
    FitsPllmbBase ((memMtcPllmbDivisor customizeTable 0 zeroImage).state.mem (0 + Reg.pllmb_divm.off))
      ((memMtcPllmbDivisor customizeTable 0 zeroImage).state.mem (0 + Reg.pllmb_divn.off)) :=
  (memMtcPllmbDivisor_fits_iff safetyCheck_customizeTable 0 zeroImage).2 fun h =>
    absurd h.1 (by decide)

/-- 64 oscillations and a quarter. -/
def quarterTable : CustomizeTable := { customizeTable with marikoEmcMaxClock := 2467200 }

theorem safetyCheck_quarterTable : safetyCheck quarterTable = .ok () :=
  safetyCheck_ok_iff.2 ⟨rfl, 2091000, 2295000, 998400, 1267200,
    dvfsMaxFreq_ofList eristaCpuDvfsTable (by decide),
    dvfsMaxFreq_ofList marikoCpuDvfsTable (by decide),
    dvfsMaxFreq_ofList eristaGpuDvfsTable (by decide),
    dvfsMaxFreq_ofList marikoGpuDvfsTable (by decide), by decide⟩

/-- DIVN is 257 there. -/
theorem memMtcPllmbDivisor_not_fits :
    ¬ ∀ (C : CustomizeTable) (table : Int) (s : Store Device), safetyCheck C = .ok () →
      emcClkOSLimit < C.marikoEmcMaxClock →
      FitsPllmbBase ((memMtcPllmbDivisor C table s).state.mem (table + Reg.pllmb_divm.off))
        ((memMtcPllmbDivisor C table s).state.mem (table + Reg.pllmb_divn.off)) := by
  intro hall
  have hfits := hall quarterTable 0 zeroImage safetyCheck_quarterTable (by decide)
  obtain ⟨hdivm, hdivn⟩ := memMtcPllmbDivisor_regs quarterTable 0 zeroImage
  rw [hdivm, hdivn] at hfits
  exact absurd hfits.1 (by decide)

end SwitchOc.Mariko
