import Mathlib.Tactic.Common
import Mathlib.Tactic.IntervalCases
import Mathlib.Tactic.Linarith
import Mathlib.Tactic.NormNum
import SwitchOcSuite.Lib.Exact
import SwitchOcSuite.Loader.PcvErista
import SwitchOcSuite.Loader.PcvMariko

/-!
# Timings that do not wrap

With the RAM presets inside their arrays and a raised EMC clock, each unsigned
expression of the timings and of the arbiter values has the value it has over the
integers (`Exact`): none goes below zero or past 32 bits.  One cycle more, which the
rounding of the doubles may give (`Timing`), is far from either.

    timingsFound_iff       the lookups that the presets make
    timingsExact           the timings of one SoC
    autoAdjustArb_exact    what `MemMtcTableAutoAdjust` writes to its arbiter registers
-/

namespace SwitchOc

/-! ## Exact values -/

section Timings

variable (C : CustomizeTable) (tCK : ℚ) (slack : ℤ)

def exactWL : ℤ := 14 - 2 * C.ramTimingPresetSeven.toNat

def exactRL : ℤ := 32 - 4 * C.ramTimingPresetSeven.toNat

def exactR2W : ℤ :=
  ⌈(exactRL C : ℚ) + ⌈tDQSCK_max / tCK⌉ + 16 / 2 - exactWL C + tWPRE + ⌊tRPST⌋⌉ + slack

def exactW2R : ℤ := exactWL C + 16 / 2 + 1 + ⌈dbl (tWTR C) / tCK⌉ + slack

def exactWTP : ℤ := exactWL C + 16 / 2 + 1 + ⌈dbl (tWR C) / tCK⌉ + slack

def exactWTPDEN : ℤ :=
  exactWTP C tCK slack + 1 + ⌈tDQSS_max / tCK⌉ + ⌈tDQS2DQ_max / tCK⌉ + 6

def exactREFRESH (emc : UInt32) : ℤ := min 65472 (refreshCycles C emc / 4 * 4)

def exactRTM : ℤ := exactRL C + 16 / 2 + ⌈tDQSCK_max / tCK⌉ + ⌊tRPST⌋ + ⌈7.5 / tCK⌉

def exactWTM : ℤ := exactWL C + 1 + 16 / 2 + ⌈7.5 / tCK⌉

def exactRATM : ℤ := exactRTM C tCK + ⌈tRTP C / tCK⌉ - 8

def exactWATM : ℤ := exactWTM C tCK + ⌈dbl (tWR C) / tCK⌉

/-- `CEIL(cycles / MC_ARB_DIV) + k`. -/
def exactArb (cycles k : ℤ) : ℤ := cycles / 4 + k

end Timings

namespace Erista

variable (C : CustomizeTable)

structure TimingsExact : Prop where
  WL : Exact (WL C) (exactWL C)
  RL : Exact (RL C) (exactRL C)
  R2W : Exact (R2W C) (exactR2W C (tCKavg C) 6)
  W2R : Exact (W2R C) (exactW2R C (tCKavg C) (-6))
  WTP : Exact (WTP C) (exactWTP C (tCKavg C) (-8))
  WTPDEN : Exact (WTPDEN C) (exactWTPDEN C (tCKavg C) (-8))
  REFRESH : Exact (REFRESH C) (exactREFRESH C C.eristaEmcMaxClock)

/-- The arbiter values of `memMtcTableAutoAdjust`. -/
def exactAutoAdjustArb : List (McReg × ℤ) :=
  [(.mc_emem_arb_timing_rcd, exactArb ⌈dbl (tRCD C) / tCKavg C⌉ (-2)),
   (.mc_emem_arb_timing_rp, exactArb ⌈dbl (tRPpb C) / tCKavg C⌉ (-1 + 2)),
   (.mc_emem_arb_timing_rc, exactArb ⌈dbl (tRC C) / tCKavg C⌉ (-1)),
   (.mc_emem_arb_timing_ras, exactArb ⌈dbl (tRAS C) / tCKavg C⌉ (-2)),
   (.mc_emem_arb_timing_faw, exactArb ⌈dbl (tFAW C) / tCKavg C⌉ (-1)),
   (.mc_emem_arb_timing_rrd, exactArb ⌈tRRD C / tCKavg C⌉ (-1)),
   (.mc_emem_arb_timing_rap2pre, exactArb ⌈tRTP C / tCKavg C⌉ 0),
   (.mc_emem_arb_timing_wap2pre, exactArb (exactWTP C (tCKavg C) (-8)) 0),
   (.mc_emem_arb_timing_r2w, exactArb (exactR2W C (tCKavg C) 6) (-1 + 2)),
   (.mc_emem_arb_timing_w2r, exactArb (exactW2R C (tCKavg C) (-6)) (-1 + 2)),
   (.mc_emem_arb_timing_rfcpb, exactArb ⌈dbl (tRFCpb C) / tCKavg C⌉ 0)]

end Erista

namespace Mariko

variable (C : CustomizeTable)

structure TimingsExact : Prop where
  WL : Exact (WL C) (exactWL C)
  RL : Exact (RL C) (exactRL C)
  R2W : Exact (R2W C) (exactR2W C (tCKavg C) 0)
  W2R : Exact (W2R C) (exactW2R C (tCKavg C) 0)
  WTP : Exact (WTP C) (exactWTP C (tCKavg C) 0)
  RTM : Exact (RTM C) (exactRTM C (tCKavg C))
  WTM : Exact (WTM C) (exactWTM C (tCKavg C))
  RATM : Exact (RATM C) (exactRATM C (tCKavg C))
  WATM : Exact (WATM C) (exactWATM C (tCKavg C))
  WTPDEN : Exact (WTPDEN C) (exactWTPDEN C (tCKavg C) 0)
  REFRESH : Exact (REFRESH C) (exactREFRESH C C.marikoEmcMaxClock)

/-- The arbiter values of `memMtcTableAutoAdjust`. -/
def exactAutoAdjustArb : List (McReg × ℤ) :=
  [(.mc_emem_arb_cfg, ⌊dbl C.marikoEmcMaxClock / (33.3 * 1000) / 4⌋),
   (.mc_emem_arb_timing_rcd, exactArb ⌈dbl (tRCD C) / tCKavg C⌉ (-2)),
   (.mc_emem_arb_timing_rp, exactArb ⌈dbl (tRPpb C) / tCKavg C⌉ (-1 + 2)),
   (.mc_emem_arb_timing_rc, exactArb ⌈dbl (tRC C) / tCKavg C⌉ (-1)),
   (.mc_emem_arb_timing_ras, exactArb ⌈dbl (tRAS C) / tCKavg C⌉ (-2)),
   (.mc_emem_arb_timing_faw, exactArb ⌈dbl (tFAW C) / tCKavg C⌉ (-1)),
   (.mc_emem_arb_timing_rrd, exactArb ⌈tRRD C / tCKavg C⌉ (-1)),
   (.mc_emem_arb_timing_rap2pre, exactArb ⌈tRTP C / tCKavg C⌉ 0),
   (.mc_emem_arb_timing_wap2pre, exactArb (exactWTP C (tCKavg C) 0) 0)]

def exactAutoAdjustArbTurn : List (McReg × ℤ) :=
  [(.mc_emem_arb_timing_r2w, exactArb (exactR2W C (tCKavg C) 0) (-1 + 2)),
   (.mc_emem_arb_timing_w2r, exactArb (exactW2R C (tCKavg C) 0) (-1 + 2)),
   (.mc_emem_arb_timing_rfcpb, exactArb ⌈dbl (tRFCpb C) / tCKavg C⌉ 0)]

end Mariko

/-- The arrays that a RAM preset indexes: their lengths and the preset. -/
def presetLookups (C : CustomizeTable) : List (Nat × UInt32) :=
  [(tRCD_values.length, C.ramTimingPresetOne), (tRP_values.length, C.ramTimingPresetOne),
   (tRAS_values.length, C.ramTimingPresetOne), (tRRD_values.length, C.ramTimingPresetTwo),
   (tFAW_values.length, C.ramTimingPresetTwo), (tWR_values.length, C.ramTimingPresetThree),
   (tRTP_values.length, C.ramTimingPresetThree), (tRFC_values.length, C.ramTimingPresetFour),
   (tWTR_values.length, C.ramTimingPresetFive), (tREFpb_values.length, C.ramTimingPresetSix)]

/-- Each timing that a preset selects is an element of its array, or the base value. -/
structure TimingsFound (C : CustomizeTable) : Prop where
  tRCD : checkedPreset tRCD_values 18 C.ramTimingPresetOne = some (tRCD C)
  tRPpb : checkedPreset tRP_values 18 C.ramTimingPresetOne = some (tRPpb C)
  tRAS : checkedPreset tRAS_values 42 C.ramTimingPresetOne = some (tRAS C)
  tRRD : checkedPreset tRRD_values 10 C.ramTimingPresetTwo = some (tRRD C)
  tFAW : (checkedPreset tFAW_values 40 C.ramTimingPresetTwo).map u32 = some (tFAW C)
  tWR : checkedPreset tWR_values 18 C.ramTimingPresetThree = some (tWR C)
  tRTP : checkedPreset tRTP_values 7.5 C.ramTimingPresetThree = some (tRTP C)
  tRFCpb : checkedPreset tRFC_values 140 C.ramTimingPresetFour = some (tRFCpb C)
  tWTR : checkedPreset tWTR_values 10 C.ramTimingPresetFive = some (tWTR C)
  tREFpb : checkedPreset tREFpb_values 488 C.ramTimingPresetSix = some (tREFpb C)

/-! ## Conversions -/

theorem dbl_of_exact {m : UInt32} {z : ℤ} (h : Exact m z) : dbl m = z := by
  unfold dbl
  rw [← h]
  push_cast
  rfl

theorem exact_u32 {q : ℚ} (h₀ : 0 ≤ q) (h : q < 2 ^ 32) : Exact (u32 q) ⌊q⌋ := by
  unfold u32
  rw [if_pos h₀]
  exact Exact.ofInt_floor h₀ h

theorem exact_u32_int {q : ℚ} {z : ℤ} (hq : q = z) (h₀ : 0 ≤ z) (h : z < 2 ^ 32) :
    Exact (u32 q) z := by
  have hfloor := exact_u32 (q := q) (by rw [hq]; exact_mod_cast h₀) (by rw [hq]; exact_mod_cast h)
  rwa [hq, Int.floor_intCast, ← hq] at hfloor

/-- A preset in range looks its array up, or takes the base value. -/
theorem presetValue_mem {α : Type} [Inhabited α] {values : List α} {base : α} {preset : UInt32}
    (h : preset.toNat ≤ values.length) : presetValue values base preset ∈ base :: values := by
  unfold presetValue
  by_cases h₀ : preset = 0
  · rw [if_pos h₀]
    exact List.mem_cons_self
  · have hpos : 0 < preset.toNat := by
      rcases Nat.eq_zero_or_pos preset.toNat with h' | h'
      · exact absurd (UInt32.toNat_inj.1 h') h₀
      · exact h'
    rw [if_neg h₀, List.getD_eq_getElem?_getD, List.getElem?_eq_getElem (by omega)]
    exact List.mem_cons_of_mem _ (List.getElem_mem _)

/-- So a measure `f` of it has the bounds that it has on the array and the base value. -/
theorem presetValue_bounds {α β : Type} [Inhabited α] [LE β] [DecidableLE β] (f : α → β)
    {values : List α} {base : α} {preset : UInt32} {lo hi : β}
    (h : preset.toNat ≤ values.length)
    (hall : (base :: values).all fun x => decide (lo ≤ f x ∧ f x ≤ hi)) :
    lo ≤ f (presetValue values base preset) ∧ f (presetValue values base preset) ≤ hi := by
  have hmem := List.all_eq_true.1 hall _ (presetValue_mem h)
  exact of_decide_eq_true hmem

/-! ## Cycles -/

/-- An EMC clock that the MTC tables are adjusted for. -/
def Raised (emc : UInt32) : Prop := 1600000 < emc.toNat ∧ emc.toNat ≤ 2502400

theorem div_clockPeriod (param : ℚ) (emc : UInt32) :
    param / clockPeriod emc = param * dbl emc / 1000000 := by
  unfold clockPeriod
  rw [div_div_eq_mul_div]

theorem cycles_bounds {emc : UInt32} (hemc : Raised emc) (param : ℚ) (a b : ℤ) (h₀ : 0 ≤ param)
    (ha : (a : ℚ) ≤ param * 1.6) (hb : param * 2.5024 ≤ b) :
    a ≤ ⌈param / clockPeriod emc⌉ ∧ ⌈param / clockPeriod emc⌉ ≤ b := by
  have hlo : (1600000 : ℚ) ≤ dbl emc := by
    unfold dbl
    exact_mod_cast hemc.1.le
  have hhi : dbl emc ≤ 2502400 := by
    unfold dbl
    exact_mod_cast hemc.2
  have hmin : param * 1600000 ≤ param * dbl emc := mul_le_mul_of_nonneg_left hlo h₀
  have hmax : param * dbl emc ≤ param * 2502400 := mul_le_mul_of_nonneg_left hhi h₀
  rw [div_clockPeriod]
  constructor
  · refine Int.le_ceil_iff.2 ?_
    linarith
  · refine Int.ceil_le.2 ?_
    linarith

/-- Cycle counts of a time between `lo` and `hi` nanoseconds. -/
theorem exact_cycles {emc : UInt32} (hemc : Raised emc) (param : ℚ) (a b : ℤ) (h₀ : 0 ≤ param)
    (ha₀ : 0 ≤ a) (ha : (a : ℚ) ≤ param * 1.6) (hb : param * 2.5024 ≤ b) (hb' : b < 2 ^ 32) :
    Exact (getCycleCeil (clockPeriod emc) param) ⌈param / clockPeriod emc⌉ ∧
      a ≤ ⌈param / clockPeriod emc⌉ ∧ ⌈param / clockPeriod emc⌉ ≤ b := by
  obtain ⟨h₁, h₂⟩ := cycles_bounds hemc param a b h₀ ha hb
  exact ⟨exact_u32_int rfl (by omega) (by omega), h₁, h₂⟩

theorem exact_arb {cycles : UInt32} {c k : ℤ} {q : ℚ} (hc : Exact cycles c) (hq : q = k)
    (h₀ : 0 ≤ c / 4 + k) (h : c / 4 + k < 2 ^ 32) : Exact (arb cycles q) (exactArb c k) := by
  have hdiv : Exact (cycles / mcArbDiv) (c / 4) := hc.div rfl
  unfold arb exactArb
  refine exact_u32_int ?_ h₀ h
  rw [dbl_of_exact hdiv, hq]
  push_cast
  rfl

/-! ## Presets -/

theorem lookups_of_presets {C : CustomizeTable} (h : PresetsInRange C) :
    ∀ l ∈ presetLookups C, l.2 ≠ 0 → l.2.toNat - 1 < l.1 := by
  obtain ⟨one, two, three, four, five, six, -⟩ := h
  have hsix : ∀ preset : UInt32, preset.toNat ≤ 6 → preset ≠ 0 → preset.toNat - 1 < 6 :=
    fun preset h _ => by omega
  have hfive : ∀ preset : UInt32, preset.toNat ≤ 5 → preset ≠ 0 → preset.toNat - 1 < 5 :=
    fun preset h _ => by omega
  intro l hl
  simp only [presetLookups, List.mem_cons, List.not_mem_nil, or_false] at hl
  rcases hl with rfl | rfl | rfl | rfl | rfl | rfl | rfl | rfl | rfl | rfl
  · exact hsix _ one
  · exact hsix _ one
  · exact hsix _ one
  · exact hfive _ two
  · exact hfive _ two
  · exact hsix _ three
  · exact hsix _ three
  · exact hsix _ four
  · exact hsix _ five
  · exact hfive _ six

theorem checkedPreset_eq_some_iff {α : Type} [Inhabited α] {values : List α} {base : α}
    {preset : UInt32} :
    checkedPreset values base preset = some (presetValue values base preset) ↔
      (preset ≠ 0 → preset.toNat - 1 < values.length) := by
  unfold checkedPreset presetValue
  by_cases h : preset = 0
  · simp [h]
  · rw [if_neg h, if_neg h, List.getD_eq_getElem?_getD]
    constructor
    · intro hget _
      exact (List.getElem?_eq_some_iff.1 hget).1
    · intro hlt
      rw [List.getElem?_eq_getElem (hlt h)]
      rfl

theorem map_checkedPreset_eq_some_iff {α β : Type} [Inhabited α] (f : α → β) {values : List α}
    {base : α} {preset : UInt32} :
    (checkedPreset values base preset).map f = some (f (presetValue values base preset)) ↔
      (preset ≠ 0 → preset.toNat - 1 < values.length) := by
  refine ⟨fun h hpreset => ?_, fun h => by rw [checkedPreset_eq_some_iff.2 h]; rfl⟩
  unfold checkedPreset at h
  rw [if_neg hpreset] at h
  obtain ⟨value, hget, -⟩ := Option.map_eq_some_iff.1 h
  exact (List.getElem?_eq_some_iff.1 hget).1

/-- These are the lookups that the timings make. -/
theorem timingsFound_iff {C : CustomizeTable} :
    TimingsFound C ↔ ∀ l ∈ presetLookups C, l.2 ≠ 0 → l.2.toNat - 1 < l.1 := by
  simp only [presetLookups, List.forall_mem_cons, List.not_mem_nil, false_imp_iff, implies_true,
    and_true]
  constructor
  · rintro ⟨h₁, h₂, h₃, h₄, h₅, h₆, h₇, h₈, h₉, h₁₀⟩
    exact ⟨checkedPreset_eq_some_iff.1 h₁, checkedPreset_eq_some_iff.1 h₂,
      checkedPreset_eq_some_iff.1 h₃, checkedPreset_eq_some_iff.1 h₄,
      (map_checkedPreset_eq_some_iff u32).1 h₅, checkedPreset_eq_some_iff.1 h₆,
      checkedPreset_eq_some_iff.1 h₇, checkedPreset_eq_some_iff.1 h₈,
      checkedPreset_eq_some_iff.1 h₉, checkedPreset_eq_some_iff.1 h₁₀⟩
  · rintro ⟨h₁, h₂, h₃, h₄, h₅, h₆, h₇, h₈, h₉, h₁₀⟩
    exact ⟨checkedPreset_eq_some_iff.2 h₁, checkedPreset_eq_some_iff.2 h₂,
      checkedPreset_eq_some_iff.2 h₃, checkedPreset_eq_some_iff.2 h₄,
      (map_checkedPreset_eq_some_iff u32).2 h₅, checkedPreset_eq_some_iff.2 h₆,
      checkedPreset_eq_some_iff.2 h₇, checkedPreset_eq_some_iff.2 h₈,
      checkedPreset_eq_some_iff.2 h₉, checkedPreset_eq_some_iff.2 h₁₀⟩

theorem dbl_bounds {x : UInt32} {lo hi : Nat} (h : lo ≤ x.toNat ∧ x.toNat ≤ hi) :
    (lo : ℚ) ≤ dbl x ∧ dbl x ≤ hi := by
  unfold dbl
  exact ⟨by exact_mod_cast h.1, by exact_mod_cast h.2⟩

section Presets

variable {C : CustomizeTable} (h : PresetsInRange C)

include h

theorem tRCD_bounds : 13 ≤ (tRCD C).toNat ∧ (tRCD C).toNat ≤ 18 :=
  presetValue_bounds UInt32.toNat h.one (by decide)

theorem tRPpb_bounds : 13 ≤ (tRPpb C).toNat ∧ (tRPpb C).toNat ≤ 18 :=
  presetValue_bounds UInt32.toNat h.one (by decide)

theorem tRAS_bounds : 30 ≤ (tRAS C).toNat ∧ (tRAS C).toNat ≤ 42 :=
  presetValue_bounds UInt32.toNat h.one (by decide)

theorem tRC_bounds : 43 ≤ (tRC C).toNat ∧ (tRC C).toNat ≤ 60 := by
  have hrp := tRPpb_bounds h
  have hras := tRAS_bounds h
  unfold tRC
  rw [UInt32.toNat_add]
  omega

theorem tRRD_bounds : 3 ≤ tRRD C ∧ tRRD C ≤ 10 :=
  presetValue_bounds id h.two (by decide +kernel)

theorem tFAW_bounds : 12 ≤ (tFAW C).toNat ∧ (tFAW C).toNat ≤ 40 :=
  presetValue_bounds (fun x => (u32 x).toNat) h.two (by decide +kernel)

theorem tWR_bounds : 8 ≤ (tWR C).toNat ∧ (tWR C).toNat ≤ 18 :=
  presetValue_bounds UInt32.toNat h.three (by decide)

theorem tRTP_bounds : 4 ≤ tRTP C ∧ tRTP C ≤ 8 :=
  presetValue_bounds id h.three (by decide +kernel)

theorem tRFCpb_bounds : 60 ≤ (tRFCpb C).toNat ∧ (tRFCpb C).toNat ≤ 140 :=
  presetValue_bounds UInt32.toNat h.four (by decide)

theorem tWTR_bounds : 1 ≤ (tWTR C).toNat ∧ (tWTR C).toNat ≤ 10 :=
  presetValue_bounds UInt32.toNat h.five (by decide)

theorem tREFpb_bounds : 488 ≤ (tREFpb C).toNat ∧ (tREFpb C).toNat ≤ 9999 :=
  presetValue_bounds UInt32.toNat h.six (by decide)

theorem exact_writeLatency : Exact (writeLatency C) (exactWL C) ∧ 2 ≤ exactWL C ∧ exactWL C ≤ 14 := by
  have hseven := h.seven
  have hmul : Exact (2 * C.ramTimingPresetSeven) (2 * C.ramTimingPresetSeven.toNat) :=
    Exact.mul (x := 2) rfl (Exact.self _) (by omega)
  unfold exactWL
  exact ⟨Exact.sub (x := 14) rfl hmul (by omega), by omega, by omega⟩

theorem exact_readLatency : Exact (readLatency C) (exactRL C) ∧ 8 ≤ exactRL C ∧ exactRL C ≤ 32 := by
  have hseven := h.seven
  have hmul : Exact (4 * C.ramTimingPresetSeven) (4 * C.ramTimingPresetSeven.toNat) :=
    Exact.mul (x := 4) rfl (Exact.self _) (by omega)
  unfold exactRL
  exact ⟨Exact.sub (x := 32) rfl hmul (by omega), by omega, by omega⟩

end Presets

/-! ## Derived timings

Each is shown to hold its exact value together with bounds on that value, which the
timings built from it need. -/

/-- `WL + BL/2 + 1`. -/
theorem exact_writeBurst {C : CustomizeTable} (h : PresetsInRange C) :
    Exact (writeLatency C + BL / 2 + 1) (exactWL C + 16 / 2 + 1) := by
  obtain ⟨hwl, h₁, h₂⟩ := exact_writeLatency h
  have hbl : Exact (BL / 2) (16 / 2) := rfl
  exact (hwl.add hbl (by omega)).add (y := 1) rfl (by omega)

/-- `-1 + MC_ARB_SFA`. -/
theorem arbSfa_eq : -1 + dbl mcArbSfa = ((-1 + 2 : ℤ) : ℚ) := by
  have hsfa : Exact mcArbSfa 2 := rfl
  rw [dbl_of_exact hsfa]
  norm_num

theorem floor_tRPST : ⌊tRPST⌋ = 0 := by decide +kernel

section Derived

variable {C : CustomizeTable} {emc : UInt32} {slack : ℤ} (h : PresetsInRange C) (hemc : Raised emc)

include hemc

/-- The cycles of the constant times. -/
theorem cycles_const (param : ℚ) (h₀ : 0 ≤ param) (h₁ : param ≤ 7.5) :
    0 ≤ ⌈param / clockPeriod emc⌉ ∧ ⌈param / clockPeriod emc⌉ ≤ 19 :=
  cycles_bounds hemc param 0 19 h₀ (by push_cast; linarith) (by push_cast; linarith)

/-- An arbiter value that takes `k` off a count of at least `4 * k` cycles. -/
theorem exact_arb_cycles (param : ℚ) (a b k : ℤ) {q : ℚ} (hq : q = k) (h₀ : 0 ≤ param)
    (ha₀ : 0 ≤ a) (ha : (a : ℚ) ≤ param * 1.6) (hb : param * 2.5024 ≤ b) (hk : 0 ≤ a / 4 + k)
    (hb' : b < 2 ^ 31) (hk' : k ≤ 1) :
    Exact (arb (getCycleCeil (clockPeriod emc) param) q)
      (exactArb ⌈param / clockPeriod emc⌉ k) := by
  obtain ⟨hc, h₁, h₂⟩ := exact_cycles hemc param a b h₀ ha₀ ha hb (by omega)
  exact exact_arb hc hq (by omega) (by omega)

include h

theorem exact_readToWrite (hs : 0 ≤ slack) (hs' : slack ≤ 6) :
    Exact (readToWrite C (clockPeriod emc) slack) (exactR2W C (clockPeriod emc) slack) ∧
      0 ≤ exactR2W C (clockPeriod emc) slack ∧ exactR2W C (clockPeriod emc) slack ≤ 100 := by
  obtain ⟨hwl, hwl₁, hwl₂⟩ := exact_writeLatency h
  obtain ⟨hrl, hrl₁, hrl₂⟩ := exact_readLatency h
  obtain ⟨hc₁, hc₂⟩ := cycles_const hemc tDQSCK_max (by norm_num [tDQSCK_max])
    (by norm_num [tDQSCK_max])
  have hbl : dbl (BL / 2) = 16 / 2 := by
    have hexact : Exact (BL / 2) (16 / 2) := rfl
    rw [dbl_of_exact hexact]
    norm_num
  have hturn : 0 ≤ ⌈(exactRL C : ℚ) + ⌈tDQSCK_max / clockPeriod emc⌉ + 16 / 2 - exactWL C + tWPRE +
      ⌊tRPST⌋⌉ ∧ ⌈(exactRL C : ℚ) + ⌈tDQSCK_max / clockPeriod emc⌉ + 16 / 2 - exactWL C + tWPRE +
      ⌊tRPST⌋⌉ ≤ 80 := by
    have hrl₁' : (8 : ℚ) ≤ exactRL C := by exact_mod_cast hrl₁
    have hrl₂' : (exactRL C : ℚ) ≤ 32 := by exact_mod_cast hrl₂
    have hwl₁' : (2 : ℚ) ≤ exactWL C := by exact_mod_cast hwl₁
    have hwl₂' : (exactWL C : ℚ) ≤ 14 := by exact_mod_cast hwl₂
    have hc₁' : (0 : ℚ) ≤ ⌈tDQSCK_max / clockPeriod emc⌉ := by exact_mod_cast hc₁
    have hc₂' : (⌈tDQSCK_max / clockPeriod emc⌉ : ℚ) ≤ 19 := by exact_mod_cast hc₂
    rw [floor_tRPST]
    unfold tWPRE
    constructor
    · refine Int.ceil_nonneg ?_
      push_cast
      linarith
    · refine Int.ceil_le.2 ?_
      push_cast
      linarith
  have hval : 0 ≤ exactR2W C (clockPeriod emc) slack ∧
      exactR2W C (clockPeriod emc) slack ≤ 100 := by
    unfold exactR2W
    omega
  refine ⟨exact_u32_int ?_ hval.1 (by omega), hval⟩
  rw [dbl_of_exact hwl, dbl_of_exact hrl, hbl]
  unfold exactR2W
  push_cast
  rfl

theorem exact_writeToRead (hs : -6 ≤ slack) (hs' : slack ≤ 0) :
    Exact (writeToRead C (clockPeriod emc) slack) (exactW2R C (clockPeriod emc) slack) ∧
      0 ≤ exactW2R C (clockPeriod emc) slack ∧ exactW2R C (clockPeriod emc) slack ≤ 100 := by
  obtain ⟨-, hwl₁, hwl₂⟩ := exact_writeLatency h
  obtain ⟨hw₁, hw₂⟩ := dbl_bounds (tWTR_bounds h)
  push_cast at hw₁ hw₂
  obtain ⟨hc₁, hc₂⟩ := cycles_bounds hemc (dbl (tWTR C)) 1 26 (by linarith)
    (by push_cast; linarith) (by push_cast; linarith)
  have hval : 0 ≤ exactW2R C (clockPeriod emc) slack ∧
      exactW2R C (clockPeriod emc) slack ≤ 100 := by
    unfold exactW2R
    omega
  refine ⟨exact_u32_int ?_ hval.1 (by omega), hval⟩
  rw [dbl_of_exact (exact_writeBurst h)]
  unfold exactW2R
  push_cast
  rfl

theorem cycles_tWR : 12 ≤ ⌈dbl (tWR C) / clockPeriod emc⌉ ∧
    ⌈dbl (tWR C) / clockPeriod emc⌉ ≤ 46 := by
  obtain ⟨hw₁, hw₂⟩ := dbl_bounds (tWR_bounds h)
  push_cast at hw₁ hw₂
  exact cycles_bounds hemc (dbl (tWR C)) 12 46 (by linarith) (by push_cast; linarith)
    (by push_cast; linarith)

theorem exact_writeToPrecharge (hs : -8 ≤ slack) (hs' : slack ≤ 0) :
    Exact (writeToPrecharge C (clockPeriod emc) slack) (exactWTP C (clockPeriod emc) slack) ∧
      0 ≤ exactWTP C (clockPeriod emc) slack ∧ exactWTP C (clockPeriod emc) slack ≤ 100 := by
  obtain ⟨-, hwl₁, hwl₂⟩ := exact_writeLatency h
  obtain ⟨hc₁, hc₂⟩ := cycles_tWR h hemc
  have hval : 0 ≤ exactWTP C (clockPeriod emc) slack ∧
      exactWTP C (clockPeriod emc) slack ≤ 100 := by
    unfold exactWTP
    omega
  refine ⟨exact_u32_int ?_ hval.1 (by omega), hval⟩
  rw [dbl_of_exact (exact_writeBurst h)]
  unfold exactWTP
  push_cast
  rfl

theorem exact_wtpden (hs : -8 ≤ slack) (hs' : slack ≤ 0) :
    Exact (wtpdenOf (clockPeriod emc) (writeToPrecharge C (clockPeriod emc) slack))
      (exactWTPDEN C (clockPeriod emc) slack) := by
  obtain ⟨hwtp, h₁, h₂⟩ := exact_writeToPrecharge h hemc hs hs'
  obtain ⟨ha₁, ha₂⟩ := cycles_const hemc tDQSS_max (by norm_num [tDQSS_max])
    (by norm_num [tDQSS_max])
  obtain ⟨hb₁, hb₂⟩ := cycles_const hemc tDQS2DQ_max (by norm_num [tDQS2DQ_max])
    (by norm_num [tDQS2DQ_max])
  have hsucc := hwtp.add (y := 1) (b := 1) rfl (by omega)
  unfold wtpdenOf exactWTPDEN
  refine exact_u32_int ?_ (by omega) (by omega)
  rw [dbl_of_exact hsucc]
  push_cast
  rfl

theorem refreshCycles_bounds : 0 ≤ refreshCycles C emc ∧ refreshCycles C emc ≤ 300000 := by
  obtain ⟨ht₁, ht₂⟩ := dbl_bounds (tREFpb_bounds h)
  obtain ⟨he₁, he₂⟩ := dbl_bounds ⟨hemc.1.le, hemc.2⟩
  push_cast at ht₁ ht₂ he₁ he₂
  have hrows : dbl numOfRows = 65536 := (dbl_of_exact (m := numOfRows) (z := 65536) rfl).trans (by norm_num)
  have hlo : (488 : ℚ) * 1600000 ≤ dbl (tREFpb C) * dbl emc :=
    mul_le_mul ht₁ he₁ (by norm_num) (by linarith)
  have hhi : dbl (tREFpb C) * dbl emc ≤ 9999 * 2502400 :=
    mul_le_mul ht₂ he₂ (by linarith) (by norm_num)
  unfold refreshCycles
  rw [hrows]
  constructor
  · refine Int.ceil_nonneg ?_
    linarith
  · refine Int.ceil_le.2 ?_
    push_cast
    linarith

theorem exact_refresh : Exact (refreshOf C emc) (exactREFRESH C emc) := by
  obtain ⟨h₁, h₂⟩ := refreshCycles_bounds h hemc
  have hcycles : Exact (u32 (refreshCycles C emc)) (refreshCycles C emc) :=
    exact_u32_int rfl h₁ (by omega)
  have hfour := (hcycles.div (y := 4) (b := 4) rfl).mul (y := 4) (b := 4) rfl (by omega)
  exact Exact.minOf (a := 65472) (x := 65472) rfl hfour

theorem exact_arb_rcd : Exact (arb (getCycleCeil (clockPeriod emc) (dbl (tRCD C))) (-2))
    (exactArb ⌈dbl (tRCD C) / clockPeriod emc⌉ (-2)) := by
  obtain ⟨h₁, h₂⟩ := dbl_bounds (tRCD_bounds h)
  push_cast at h₁ h₂
  exact exact_arb_cycles hemc _ 20 46 (-2) (by norm_num) (by linarith) (by omega)
    (by push_cast; linarith) (by push_cast; linarith) (by omega) (by omega) (by omega)

theorem exact_arb_rp :
    Exact (arb (getCycleCeil (clockPeriod emc) (dbl (tRPpb C))) (-1 + dbl mcArbSfa))
      (exactArb ⌈dbl (tRPpb C) / clockPeriod emc⌉ (-1 + 2)) := by
  obtain ⟨h₁, h₂⟩ := dbl_bounds (tRPpb_bounds h)
  push_cast at h₁ h₂
  exact exact_arb_cycles hemc _ 20 46 (-1 + 2) arbSfa_eq (by linarith)
    (by omega) (by push_cast; linarith) (by push_cast; linarith) (by omega) (by omega) (by omega)

theorem exact_arb_rc : Exact (arb (getCycleCeil (clockPeriod emc) (dbl (tRC C))) (-1))
    (exactArb ⌈dbl (tRC C) / clockPeriod emc⌉ (-1)) := by
  obtain ⟨h₁, h₂⟩ := dbl_bounds (tRC_bounds h)
  push_cast at h₁ h₂
  exact exact_arb_cycles hemc _ 68 151 (-1) (by norm_num) (by linarith) (by omega)
    (by push_cast; linarith) (by push_cast; linarith) (by omega) (by omega) (by omega)

theorem exact_arb_ras : Exact (arb (getCycleCeil (clockPeriod emc) (dbl (tRAS C))) (-2))
    (exactArb ⌈dbl (tRAS C) / clockPeriod emc⌉ (-2)) := by
  obtain ⟨h₁, h₂⟩ := dbl_bounds (tRAS_bounds h)
  push_cast at h₁ h₂
  exact exact_arb_cycles hemc _ 48 106 (-2) (by norm_num) (by linarith) (by omega)
    (by push_cast; linarith) (by push_cast; linarith) (by omega) (by omega) (by omega)

theorem exact_arb_faw : Exact (arb (getCycleCeil (clockPeriod emc) (dbl (tFAW C))) (-1))
    (exactArb ⌈dbl (tFAW C) / clockPeriod emc⌉ (-1)) := by
  obtain ⟨h₁, h₂⟩ := dbl_bounds (tFAW_bounds h)
  push_cast at h₁ h₂
  exact exact_arb_cycles hemc _ 19 101 (-1) (by norm_num) (by linarith) (by omega)
    (by push_cast; linarith) (by push_cast; linarith) (by omega) (by omega) (by omega)

theorem exact_arb_rrd : Exact (arb (getCycleCeil (clockPeriod emc) (tRRD C)) (-1))
    (exactArb ⌈tRRD C / clockPeriod emc⌉ (-1)) := by
  obtain ⟨h₁, h₂⟩ := tRRD_bounds h
  exact exact_arb_cycles hemc _ 4 26 (-1) (by norm_num) (by linarith) (by omega)
    (by push_cast; linarith) (by push_cast; linarith) (by omega) (by omega) (by omega)

theorem exact_arb_rap2pre : Exact (arb (getCycleCeil (clockPeriod emc) (tRTP C)) 0)
    (exactArb ⌈tRTP C / clockPeriod emc⌉ 0) := by
  obtain ⟨h₁, h₂⟩ := tRTP_bounds h
  exact exact_arb_cycles hemc _ 0 21 0 (by norm_num) (by linarith) (by omega)
    (by push_cast; linarith) (by push_cast; linarith) (by omega) (by omega) (by omega)

theorem exact_arb_rfcpb : Exact (arb (getCycleCeil (clockPeriod emc) (dbl (tRFCpb C))) 0)
    (exactArb ⌈dbl (tRFCpb C) / clockPeriod emc⌉ 0) := by
  obtain ⟨h₁, h₂⟩ := dbl_bounds (tRFCpb_bounds h)
  push_cast at h₁ h₂
  exact exact_arb_cycles hemc _ 0 351 0 (by norm_num) (by linarith) (by omega)
    (by push_cast; linarith) (by push_cast; linarith) (by omega) (by omega) (by omega)

theorem exact_arb_wap2pre (hs : -8 ≤ slack) (hs' : slack ≤ 0) :
    Exact (arb (writeToPrecharge C (clockPeriod emc) slack) 0)
      (exactArb (exactWTP C (clockPeriod emc) slack) 0) := by
  obtain ⟨hc, h₁, h₂⟩ := exact_writeToPrecharge h hemc hs hs'
  exact exact_arb hc (by norm_num) (by omega) (by omega)

theorem exact_arb_r2w (hs : 0 ≤ slack) (hs' : slack ≤ 6) :
    Exact (arb (readToWrite C (clockPeriod emc) slack) (-1 + dbl mcArbSfa))
      (exactArb (exactR2W C (clockPeriod emc) slack) (-1 + 2)) := by
  obtain ⟨hc, h₁, h₂⟩ := exact_readToWrite h hemc hs hs'
  exact exact_arb hc arbSfa_eq (by omega) (by omega)

theorem exact_arb_w2r (hs : -6 ≤ slack) (hs' : slack ≤ 0) :
    Exact (arb (writeToRead C (clockPeriod emc) slack) (-1 + dbl mcArbSfa))
      (exactArb (exactW2R C (clockPeriod emc) slack) (-1 + 2)) := by
  obtain ⟨hc, h₁, h₂⟩ := exact_writeToRead h hemc hs hs'
  exact exact_arb hc arbSfa_eq (by omega) (by omega)

end Derived

/-! ## The two SoCs -/

namespace Erista

variable {C : CustomizeTable} (h : PresetsInRange C) (hemc : Raised C.eristaEmcMaxClock)

include h hemc

theorem timingsExact : TimingsExact C where
  WL := (exact_writeLatency h).1
  RL := (exact_readLatency h).1
  R2W := (exact_readToWrite h hemc (by omega) (by omega)).1
  W2R := (exact_writeToRead h hemc (by omega) (by omega)).1
  WTP := (exact_writeToPrecharge h hemc (by omega) (by omega)).1
  WTPDEN := exact_wtpden h hemc (by omega) (by omega)
  REFRESH := exact_refresh h hemc

theorem autoAdjustArb_exact : List.Forall₂ (fun m e => m.1 = e.1 ∧ Exact m.2 e.2)
    (autoAdjustArb C) (exactAutoAdjustArb C) := by
  unfold autoAdjustArb exactAutoAdjustArb
  repeat' constructor
  · exact exact_arb_rcd h hemc
  · exact exact_arb_rp h hemc
  · exact exact_arb_rc h hemc
  · exact exact_arb_ras h hemc
  · exact exact_arb_faw h hemc
  · exact exact_arb_rrd h hemc
  · exact exact_arb_rap2pre h hemc
  · exact exact_arb_wap2pre h hemc (by omega) (by omega)
  · exact exact_arb_r2w h hemc (by omega) (by omega)
  · exact exact_arb_w2r h hemc (by omega) (by omega)
  · exact exact_arb_rfcpb h hemc

end Erista

namespace Mariko

variable {C : CustomizeTable} (h : PresetsInRange C) (hemc : Raised C.marikoEmcMaxClock)

include h hemc

theorem exact_RTM : Exact (RTM C) (exactRTM C (tCKavg C)) ∧
    10 ≤ exactRTM C (tCKavg C) ∧ exactRTM C (tCKavg C) ≤ 100 := by
  obtain ⟨hrl, hrl₁, hrl₂⟩ := exact_readLatency h
  obtain ⟨ha₁, ha₂⟩ := cycles_const hemc tDQSCK_max (by norm_num [tDQSCK_max])
    (by norm_num [tDQSCK_max])
  obtain ⟨hb₁, hb₂⟩ := cycles_const hemc 7.5 (by norm_num) (by norm_num)
  have hbl : Exact (BL / 2) (16 / 2) := rfl
  have hsum := hrl.add hbl (by omega)
  have hval : 10 ≤ exactRTM C (tCKavg C) ∧ exactRTM C (tCKavg C) ≤ 100 := by
    unfold exactRTM tCKavg
    rw [floor_tRPST]
    omega
  refine ⟨exact_u32_int ?_ (by omega) (by omega), hval⟩
  rw [show RL C = readLatency C from rfl, dbl_of_exact hsum]
  unfold exactRTM
  push_cast
  rfl

theorem exact_WTM : Exact (WTM C) (exactWTM C (tCKavg C)) ∧
    0 ≤ exactWTM C (tCKavg C) ∧ exactWTM C (tCKavg C) ≤ 100 := by
  obtain ⟨hwl, hwl₁, hwl₂⟩ := exact_writeLatency h
  obtain ⟨hb₁, hb₂⟩ := cycles_const hemc 7.5 (by norm_num) (by norm_num)
  have hbl : Exact (BL / 2) (16 / 2) := rfl
  have hsum := (hwl.add (y := 1) (b := 1) rfl (by omega)).add hbl (by omega)
  have hval : 0 ≤ exactWTM C (tCKavg C) ∧ exactWTM C (tCKavg C) ≤ 100 := by
    unfold exactWTM tCKavg
    omega
  refine ⟨exact_u32_int ?_ hval.1 (by omega), hval⟩
  rw [show WL C = writeLatency C from rfl, dbl_of_exact hsum]
  unfold exactWTM
  push_cast
  rfl

theorem exact_RATM : Exact (RATM C) (exactRATM C (tCKavg C)) := by
  obtain ⟨hrtm, h₁, h₂⟩ := exact_RTM h hemc
  obtain ⟨ht₁, ht₂⟩ := tRTP_bounds h
  obtain ⟨hc₁, hc₂⟩ := cycles_bounds hemc (tRTP C) 0 21 (by linarith) (by push_cast; linarith)
    (by push_cast; linarith)
  unfold exactRATM
  refine exact_u32_int ?_ (by unfold tCKavg at *; omega) (by unfold tCKavg at *; omega)
  rw [dbl_of_exact hrtm]
  push_cast
  rfl

theorem exact_WATM : Exact (WATM C) (exactWATM C (tCKavg C)) := by
  obtain ⟨hwtm, h₁, h₂⟩ := exact_WTM h hemc
  obtain ⟨hc₁, hc₂⟩ := cycles_tWR h hemc
  unfold exactWATM
  refine exact_u32_int ?_ (by unfold tCKavg at *; omega) (by unfold tCKavg at *; omega)
  rw [dbl_of_exact hwtm]
  push_cast
  rfl

theorem timingsExact : TimingsExact C where
  WL := (exact_writeLatency h).1
  RL := (exact_readLatency h).1
  R2W := (exact_readToWrite h hemc (by omega) (by omega)).1
  W2R := (exact_writeToRead h hemc (by omega) (by omega)).1
  WTP := (exact_writeToPrecharge h hemc (by omega) (by omega)).1
  RTM := (exact_RTM h hemc).1
  WTM := (exact_WTM h hemc).1
  RATM := exact_RATM h hemc
  WATM := exact_WATM h hemc
  WTPDEN := exact_wtpden h hemc (by omega) (by omega)
  REFRESH := exact_refresh h hemc

omit h in
theorem exact_arbCfg : Exact (u32 (dbl C.marikoEmcMaxClock / (33.3 * 1000) / dbl mcArbDiv))
    ⌊dbl C.marikoEmcMaxClock / (33.3 * 1000) / 4⌋ := by
  have hdiv : dbl mcArbDiv = 4 := by
    have hexact : Exact mcArbDiv 4 := rfl
    rw [dbl_of_exact hexact]
    norm_num
  obtain ⟨he₁, he₂⟩ := dbl_bounds ⟨hemc.1.le, hemc.2⟩
  push_cast at he₁ he₂
  rw [hdiv]
  exact exact_u32 (by positivity) (by linarith)

theorem autoAdjustArb_exact : List.Forall₂ (fun m e => m.1 = e.1 ∧ Exact m.2 e.2)
    (autoAdjustArb C) (exactAutoAdjustArb C) := by
  unfold autoAdjustArb exactAutoAdjustArb
  repeat' constructor
  · exact exact_arbCfg hemc
  · exact exact_arb_rcd h hemc
  · exact exact_arb_rp h hemc
  · exact exact_arb_rc h hemc
  · exact exact_arb_ras h hemc
  · exact exact_arb_faw h hemc
  · exact exact_arb_rrd h hemc
  · exact exact_arb_rap2pre h hemc
  · exact exact_arb_wap2pre h hemc (by omega) (by omega)

theorem autoAdjustArbTurn_exact : List.Forall₂ (fun m e => m.1 = e.1 ∧ Exact m.2 e.2)
    (autoAdjustArbTurn C) (exactAutoAdjustArbTurn C) := by
  unfold autoAdjustArbTurn exactAutoAdjustArbTurn
  repeat' constructor
  · exact exact_arb_r2w h hemc (by omega) (by omega)
  · exact exact_arb_w2r h hemc (by omega) (by omega)
  · exact exact_arb_rfcpb h hemc

end Mariko

/-- `mc_emem_arb_timing_r2r`, whatever `emc_rext` is. -/
theorem exact_arb_r2r (rext : UInt32) :
    Exact (arb rext (-1 + dbl mcArbSfa)) (exactArb rext.toNat (-1 + 2)) := by
  have hlt := rext.toNat_lt
  exact exact_arb (Exact.self rext) arbSfa_eq (by omega) (by omega)

end SwitchOc
