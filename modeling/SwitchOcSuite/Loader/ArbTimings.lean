import SwitchOcSuite.Loader.ExactTimings
import SwitchOcSuite.Loader.MtcConf

/-!
# Arbiter timings of the automatic adjustment

`CEIL(cycles / MC_ARB_DIV) + k` divides two `u32`, so the ceiling comes after the
fraction is gone and the timing is rounded down.  The cycle counts are those of exact
rationals; at a few clocks the doubles of the code give one more (`Timing`).

    arbRoundedUp_iff     when each timing is `⌈cycles / 4⌉ + k` all the same
-/

namespace SwitchOc

open Traced

/-! ## Rounding -/

/-- `timing` rounds `cycles / 4` up, so that the cycles are covered; `k` is its constant. -/
structure RoundsUp (timing cycles : UInt32) (k : ℤ) : Prop where
  value : (timing.toNat : ℤ) = ⌈dbl cycles / 4⌉ + k
  covers : (cycles.toNat : ℤ) ≤ 4 * (timing.toNat - k)

theorem ceil_quarter (n : Nat) : ⌈(n : ℚ) / 4⌉ = ((n : ℤ) + 3) / 4 := by
  rw [Int.ceil_eq_iff, lt_div_iff₀ (by norm_num), div_le_iff₀ (by norm_num)]
  constructor
  · exact_mod_cast (by omega : (((n : ℤ) + 3) / 4 - 1) * 4 < n)
  · exact_mod_cast (by omega : (n : ℤ) ≤ ((n : ℤ) + 3) / 4 * 4)

theorem roundsUp_arb_iff {cycles : UInt32} {k : ℤ} {q : ℚ} (hq : q = k)
    (h₀ : 0 ≤ (cycles.toNat : ℤ) / 4 + k) (hk : k ≤ 1) :
    RoundsUp (arb cycles q) cycles k ↔ 4 ∣ cycles.toNat := by
  have hlt := cycles.toNat_lt
  have harb : ((arb cycles q).toNat : ℤ) = (cycles.toNat : ℤ) / 4 + k :=
    exact_arb (Exact.self cycles) hq h₀ (by omega)
  have hceil : ⌈dbl cycles / 4⌉ = ((cycles.toNat : ℤ) + 3) / 4 := ceil_quarter cycles.toNat
  constructor
  · intro hround
    have hvalue := hround.value
    rw [harb, hceil] at hvalue
    omega
  · intro hdvd
    refine ⟨?_, ?_⟩
    · rw [harb, hceil]
      omega
    · rw [harb]
      omega

/-! ## Cycle counts from below -/

section

variable {C : CustomizeTable} {emc : UInt32} (h : PresetsInRange C) (hemc : 1600000 ≤ emc.toNat)

include hemc

/-- At 1600 MHz and above a time of `param` nanoseconds takes 1.6 cycles per nanosecond. -/
theorem le_getCycleCeil {param : ℚ} {n : Nat} (hlo : (n : ℚ) ≤ param * 1.6) (hhi : param ≤ 1000) :
    n ≤ (getCycleCeil (clockPeriod emc) param).toNat := by
  have h₀ : 0 ≤ param := by
    have hn : (0 : ℚ) ≤ n := Nat.cast_nonneg n
    linarith
  have hmin : (1600000 : ℚ) ≤ dbl emc := by
    unfold dbl
    exact_mod_cast hemc
  have hmax : dbl emc ≤ 2 ^ 32 := by
    have hle := Nat.le_of_lt emc.toNat_lt
    unfold dbl
    exact_mod_cast hle
  have hge : param * 1600000 ≤ param * dbl emc := mul_le_mul_of_nonneg_left hmin h₀
  have hle : param * dbl emc ≤ 1000 * 2 ^ 32 :=
    mul_le_mul hhi hmax (by linarith) (by norm_num)
  have hceil : (n : ℤ) ≤ ⌈param / clockPeriod emc⌉ := by
    rw [div_clockPeriod, Int.le_ceil_iff]
    push_cast
    linarith
  have hceil' : ⌈param / clockPeriod emc⌉ ≤ 2 ^ 31 := by
    rw [div_clockPeriod, Int.ceil_le]
    push_cast
    linarith
  have hexact : Exact (getCycleCeil (clockPeriod emc) param) ⌈param / clockPeriod emc⌉ :=
    exact_u32_int rfl (by omega) (by omega)
  unfold Exact at hexact
  omega

include h

/-- No constant takes more off than there is. -/
theorem arb_cycles_ge :
    8 ≤ (getCycleCeil (clockPeriod emc) (dbl (tRCD C))).toNat ∧
    8 ≤ (getCycleCeil (clockPeriod emc) (dbl (tRAS C))).toNat ∧
    4 ≤ (getCycleCeil (clockPeriod emc) (dbl (tRC C))).toNat ∧
    4 ≤ (getCycleCeil (clockPeriod emc) (dbl (tFAW C))).toNat ∧
    4 ≤ (getCycleCeil (clockPeriod emc) (tRRD C)).toNat := by
  have hcycles : ∀ x : UInt32, 5 ≤ x.toNat → x.toNat ≤ 100 →
      8 ≤ (getCycleCeil (clockPeriod emc) (dbl x)).toNat := by
    intro x hlo hhi
    obtain ⟨hlo', hhi'⟩ := dbl_bounds ⟨hlo, hhi⟩
    push_cast at hlo' hhi'
    exact le_getCycleCeil hemc (by push_cast; linarith) (by linarith)
  have hrcd := tRCD_bounds h
  have hras := tRAS_bounds h
  have hrc := tRC_bounds h
  have hfaw := tFAW_bounds h
  obtain ⟨hrrd, hrrd'⟩ := tRRD_bounds h
  have h₃ := hcycles (tRC C) (by omega) (by omega)
  have h₄ := hcycles (tFAW C) (by omega) (by omega)
  exact ⟨hcycles (tRCD C) (by omega) (by omega), hcycles (tRAS C) (by omega) (by omega),
    by omega, by omega, le_getCycleCeil hemc (by push_cast; linarith) (by linarith)⟩

/-- The cycles with their constants, in the order of the timings. -/
theorem arbCycles_ge (WTP R2W W2R : UInt32) :
    ∀ t ∈ [(getCycleCeil (clockPeriod emc) (dbl (tRCD C)), (-2 : ℤ)),
      (getCycleCeil (clockPeriod emc) (dbl (tRPpb C)), 1),
      (getCycleCeil (clockPeriod emc) (dbl (tRC C)), -1),
      (getCycleCeil (clockPeriod emc) (dbl (tRAS C)), -2),
      (getCycleCeil (clockPeriod emc) (dbl (tFAW C)), -1),
      (getCycleCeil (clockPeriod emc) (tRRD C), -1),
      (getCycleCeil (clockPeriod emc) (tRTP C), 0), (WTP, 0), (R2W, 1), (W2R, 1),
      (getCycleCeil (clockPeriod emc) (dbl (tRFCpb C)), 0)],
      0 ≤ (t.1.toNat : ℤ) / 4 + t.2 ∧ t.2 ≤ 1 := by
  obtain ⟨h₁, h₂, h₃, h₄, h₅⟩ := arb_cycles_ge h hemc
  intro t ht
  simp only [List.mem_cons, List.not_mem_nil, or_false] at ht
  rcases ht with rfl | rfl | rfl | rfl | rfl | rfl | rfl | rfl | rfl | rfl | rfl <;>
    (dsimp only; omega)

end

/-- The constants as the rationals that the code adds. -/
theorem arb_constants : -1 + dbl mcArbSfa = ((1 : ℤ) : ℚ) ∧ (0 : ℚ) = ((0 : ℤ) : ℚ) ∧
    (-1 : ℚ) = ((-1 : ℤ) : ℚ) ∧ (-2 : ℚ) = ((-2 : ℤ) : ℚ) :=
  ⟨arbSfa_eq, by norm_num, by norm_num, by norm_num⟩

/-! ## The timings of each SoC -/

namespace Erista

/-- The arbiter timings, each with its cycles and its constant. -/
def arbTimings (C : CustomizeTable) : List (McReg × UInt32 × ℤ) :=
  [(.mc_emem_arb_timing_rcd, cycles C (dbl (tRCD C)), -2),
   (.mc_emem_arb_timing_rp, cycles C (dbl (tRPpb C)), 1),
   (.mc_emem_arb_timing_rc, cycles C (dbl (tRC C)), -1),
   (.mc_emem_arb_timing_ras, cycles C (dbl (tRAS C)), -2),
   (.mc_emem_arb_timing_faw, cycles C (dbl (tFAW C)), -1),
   (.mc_emem_arb_timing_rrd, cycles C (tRRD C), -1),
   (.mc_emem_arb_timing_rap2pre, cycles C (tRTP C), 0),
   (.mc_emem_arb_timing_wap2pre, WTP C, 0),
   (.mc_emem_arb_timing_r2w, R2W C, 1),
   (.mc_emem_arb_timing_w2r, W2R C, 1),
   (.mc_emem_arb_timing_rfcpb, cycles C (dbl (tRFCpb C)), 0)]

variable {C : CustomizeTable}

def autoArbValue (C : CustomizeTable) (m : McReg) : UInt32 := ((autoAdjustArb C).lookup m).getD 0

theorem autoAdjustArb_eq :
    autoAdjustArb C = (arbTimings C).map fun t => (t.1, autoArbValue C t.1) :=
  rfl

theorem autoArbValue_eq : ∀ t ∈ arbTimings C, ∃ q : ℚ, q = t.2.2 ∧
    autoArbValue C t.1 = arb t.2.1 q := by
  obtain ⟨hsfa, hzero, hone, htwo⟩ := arb_constants
  intro t ht
  simp only [arbTimings, List.mem_cons, List.not_mem_nil, or_false] at ht
  rcases ht with rfl | rfl | rfl | rfl | rfl | rfl | rfl | rfl | rfl | rfl | rfl
  · exact ⟨_, htwo, rfl⟩
  · exact ⟨_, hsfa, rfl⟩
  · exact ⟨_, hone, rfl⟩
  · exact ⟨_, htwo, rfl⟩
  · exact ⟨_, hone, rfl⟩
  · exact ⟨_, hone, rfl⟩
  · exact ⟨_, hzero, rfl⟩
  · exact ⟨_, hzero, rfl⟩
  · exact ⟨_, hsfa, rfl⟩
  · exact ⟨_, hsfa, rfl⟩
  · exact ⟨_, hzero, rfl⟩

theorem arbTimings_ge (h : PresetsInRange C) (hemc : 1600000 ≤ C.eristaEmcMaxClock.toNat) :
    ∀ t ∈ arbTimings C, 0 ≤ (t.2.1.toNat : ℤ) / 4 + t.2.2 ∧ t.2.2 ≤ 1 := by
  intro t ht
  have hmem : t.2 ∈ (arbTimings C).map Prod.snd := List.mem_map_of_mem ht
  exact arbCycles_ge h hemc _ _ _ t.2 hmem

/-- The last loop writes them all. -/
theorem autoAdjust_arb (hconf : C.mtcConf = 0) (table : Int) (s : Store Device) :
    ∀ t ∈ arbTimings C, (memMtcTableAutoAdjust C table s).state.mem
      (table + (Reg.burst_mc_regs t.1).off) = autoArbValue C t.1 := by
  intro t ht
  have hinj : Function.Injective fun m : McReg => table + ((Reg.burst_mc_regs m).off : Int) :=
    fun m m' hm => by injection regWord_injective table hm
  have hwrite : ∀ p : Timing × UInt32, NeverFails (writeParamAllReg table p.1 p.2) := fun p =>
    (commits_writeParamAllReg table p.1 p.2).neverFails
  have hnever : NeverFails (Prog.forEach (autoAdjustTiming C) fun p =>
      writeParamAllReg table p.1 p.2) := neverFails_forEach hwrite _
  have hputs : Puts (table + (Reg.burst_mc_regs t.1).off) (autoArbValue C t.1)
      (t.1 ∈ (arbTimings C).map (·.1)) (Prog.forEach ((arbTimings C).map (·.1)) fun m =>
        setReg table (.burst_mc_regs m) (autoArbValue C m)) :=
    puts_storeEach hinj
  unfold memMtcTableAutoAdjust
  rw [if_neg (by simp [hconf]), hnever.bind_state, autoAdjustArb_eq, forEach_map]
  rw [forEach_map] at hputs
  exact hputs.state (List.mem_map_of_mem ht) _

end Erista

namespace Mariko

/-- The arbiter timings, each with its cycles and its constant. -/
def arbTimings (C : CustomizeTable) : List (McReg × UInt32 × ℤ) :=
  [(.mc_emem_arb_timing_rcd, cycles C (dbl (tRCD C)), -2),
   (.mc_emem_arb_timing_rp, cycles C (dbl (tRPpb C)), 1),
   (.mc_emem_arb_timing_rc, cycles C (dbl (tRC C)), -1),
   (.mc_emem_arb_timing_ras, cycles C (dbl (tRAS C)), -2),
   (.mc_emem_arb_timing_faw, cycles C (dbl (tFAW C)), -1),
   (.mc_emem_arb_timing_rrd, cycles C (tRRD C), -1),
   (.mc_emem_arb_timing_rap2pre, cycles C (tRTP C), 0),
   (.mc_emem_arb_timing_wap2pre, WTP C, 0),
   (.mc_emem_arb_timing_r2w, R2W C, 1),
   (.mc_emem_arb_timing_w2r, W2R C, 1),
   (.mc_emem_arb_timing_rfcpb, cycles C (dbl (tRFCpb C)), 0)]

variable {C : CustomizeTable}

theorem arbValue_eq : ∀ t ∈ arbTimings C, ∃ q : ℚ, q = t.2.2 ∧ arbValue C t.1 = arb t.2.1 q := by
  obtain ⟨hsfa, hzero, hone, htwo⟩ := arb_constants
  intro t ht
  simp only [arbTimings, List.mem_cons, List.not_mem_nil, or_false] at ht
  rcases ht with rfl | rfl | rfl | rfl | rfl | rfl | rfl | rfl | rfl | rfl | rfl
  · exact ⟨_, htwo, rfl⟩
  · exact ⟨_, hsfa, rfl⟩
  · exact ⟨_, hone, rfl⟩
  · exact ⟨_, htwo, rfl⟩
  · exact ⟨_, hone, rfl⟩
  · exact ⟨_, hone, rfl⟩
  · exact ⟨_, hzero, rfl⟩
  · exact ⟨_, hzero, rfl⟩
  · exact ⟨_, hsfa, rfl⟩
  · exact ⟨_, hsfa, rfl⟩
  · exact ⟨_, hzero, rfl⟩

theorem arbTimings_ge (h : PresetsInRange C) (hemc : 1600000 ≤ C.marikoEmcMaxClock.toNat) :
    ∀ t ∈ arbTimings C, 0 ≤ (t.2.1.toNat : ℤ) / 4 + t.2.2 ∧ t.2.2 ≤ 1 := by
  intro t ht
  have hmem : t.2 ∈ (arbTimings C).map Prod.snd := List.mem_map_of_mem ht
  exact arbCycles_ge h hemc _ _ _ t.2 hmem

/-- Each of them belongs to a preset. -/
theorem arbTimings_grouped : ∀ t ∈ arbTimings C, ∃ g ∈ presetGroups,
    Reg.burst_mc_regs t.1 ∈ groupRegs g := by
  have hgrouped : ∀ m ∈ (arbTimings C).map (·.1), ∃ g ∈ presetGroups,
      Reg.burst_mc_regs m ∈ groupRegs g := by
    show ∀ m ∈ [McReg.mc_emem_arb_timing_rcd, .mc_emem_arb_timing_rp, .mc_emem_arb_timing_rc,
      .mc_emem_arb_timing_ras, .mc_emem_arb_timing_faw, .mc_emem_arb_timing_rrd,
      .mc_emem_arb_timing_rap2pre, .mc_emem_arb_timing_wap2pre, .mc_emem_arb_timing_r2w,
      .mc_emem_arb_timing_w2r, .mc_emem_arb_timing_rfcpb], _
    decide +kernel
  exact fun t ht => hgrouped t.1 (List.mem_map_of_mem ht)

theorem autoAdjust_arb (hconf : C.mtcConf = 0) (table ref : Int) (s : Store Device) :
    ∀ t ∈ arbTimings C, (memMtcTableAutoAdjust C table ref s).state.mem
      (table + (Reg.burst_mc_regs t.1).off) = arbValue C t.1 := by
  intro t ht
  obtain ⟨g, hg, hr⟩ := arbTimings_grouped t ht
  exact (puts_autoAdjust hconf hg hr).state trivial s

end Mariko

/-! ## Both -/

def memMtcTableAutoAdjust : Soc → CustomizeTable → Int → Int → Patch Unit
  | .erista, C, table, _ => Erista.memMtcTableAutoAdjust C table
  | .mariko, C, table, ref => Mariko.memMtcTableAutoAdjust C table ref

/-- The arbiter timings by their offsets in the table. -/
def arbTimings : Soc → CustomizeTable → List (Nat × UInt32 × ℤ)
  | .erista, C => (Erista.arbTimings C).map fun t => ((Erista.Reg.burst_mc_regs t.1).off, t.2)
  | .mariko, C => (Mariko.arbTimings C).map fun t => ((Mariko.Reg.burst_mc_regs t.1).off, t.2)

/-- Each arbiter timing in the table rounds its cycles up. -/
def ArbRoundedUp (soc : Soc) (C : CustomizeTable) (table : Int) (mem : Int → UInt32) : Prop :=
  ∀ t ∈ arbTimings soc C, RoundsUp (mem (table + (t.1 : Nat))) t.2.1 t.2.2

/-- What the adjustment leaves at an arbiter timing. -/
theorem autoAdjust_arbTimings {soc : Soc} {C : CustomizeTable} (h : PresetsInRange C)
    (hconf : C.mtcConf = 0) (hemc : emcClkOSLimit < emcMaxClock soc C) (table ref : Int)
    (s : Store Device) : ∀ t ∈ arbTimings soc C, ∃ q : ℚ, q = t.2.2 ∧
      (memMtcTableAutoAdjust soc C table ref s).state.mem (table + (t.1 : Nat)) = arb t.2.1 q ∧
      0 ≤ (t.2.1.toNat : ℤ) / 4 + t.2.2 ∧ t.2.2 ≤ 1 := by
  have hlt : emcClkOSLimit.toNat < (emcMaxClock soc C).toNat := hemc
  have hlimit : emcClkOSLimit.toNat = 1600000 := rfl
  intro t ht
  cases soc with
  | erista =>
    obtain ⟨u, hu, rfl⟩ := List.mem_map.1 ht
    obtain ⟨q, hq, hvalue⟩ := Erista.autoArbValue_eq u hu
    refine ⟨q, hq, ?_, Erista.arbTimings_ge h (by rw [hlimit] at hlt; exact hlt.le) u hu⟩
    rw [← hvalue]
    exact Erista.autoAdjust_arb hconf table s u hu
  | mariko =>
    obtain ⟨u, hu, rfl⟩ := List.mem_map.1 ht
    obtain ⟨q, hq, hvalue⟩ := Mariko.arbValue_eq u hu
    refine ⟨q, hq, ?_, Mariko.arbTimings_ge h (by rw [hlimit] at hlt; exact hlt.le) u hu⟩
    rw [← hvalue]
    exact Mariko.autoAdjust_arb hconf table ref s u hu

/-- **The timings are rounded up exactly where there is nothing to round.** -/
theorem arbRoundedUp_iff (soc : Soc) (C : CustomizeTable) (table ref : Int) (s : Store Device)
    (h : PresetsInRange C) (hconf : C.mtcConf = 0)
    (hemc : emcClkOSLimit < emcMaxClock soc C) :
    ArbRoundedUp soc C table (memMtcTableAutoAdjust soc C table ref s).state.mem ↔
      ∀ t ∈ arbTimings soc C, 4 ∣ t.2.1.toNat := by
  refine forall₂_congr fun t ht => ?_
  obtain ⟨q, hq, hvalue, h₀, hk⟩ := autoAdjust_arbTimings h hconf hemc table ref s t ht
  rw [hvalue]
  exact roundsUp_arb_iff hq h₀ hk

theorem presetsInRange_customizeTable : PresetsInRange customizeTable := by
  constructor <;> decide

/-- All its cycle counts on Erista are multiples of 4. -/
def wholePeriods : CustomizeTable :=
  { customizeTable with
    eristaEmcMaxClock := 2112000
    ramTimingPresetOne := 4
    ramTimingPresetTwo := 2
    ramTimingPresetFive := 2
    ramTimingPresetSeven := 1 }

theorem presetsInRange_wholePeriods : PresetsInRange wholePeriods := by
  constructor <;> decide

/-- At 1996800 the shipped `tRTP` of 7.5 ns takes 15 cycles. -/
theorem arbRoundedUp_iff_shipped :
    ArbRoundedUp .erista wholePeriods 0
        (memMtcTableAutoAdjust .erista wholePeriods 0 0 zeroImage).state.mem ∧
      ¬ ArbRoundedUp .mariko customizeTable 0
        (memMtcTableAutoAdjust .mariko customizeTable 0 1075 zeroImage).state.mem := by
  refine ⟨(arbRoundedUp_iff .erista wholePeriods 0 0 zeroImage presetsInRange_wholePeriods rfl
    (by decide)).2 ?_, fun hround => absurd ((arbRoundedUp_iff .mariko customizeTable 0 1075
      zeroImage presetsInRange_customizeTable rfl (by decide)).1 hround) ?_⟩
  · decide +kernel
  · decide +kernel

/-- Three arbiter periods for 15 cycles. -/
theorem arb_not_roundedUp :
    ¬ ∀ (soc : Soc) (C : CustomizeTable) (table ref : Int) (s : Store Device),
      safetyCheck C = .ok () → PresetsInRange C → C.mtcConf = 0 →
      emcClkOSLimit < emcMaxClock soc C →
      ArbRoundedUp soc C table (memMtcTableAutoAdjust soc C table ref s).state.mem := by
  intro hall
  have hmem : ((Mariko.Reg.burst_mc_regs .mc_emem_arb_timing_rap2pre).off,
      Mariko.cycles customizeTable (tRTP customizeTable), (0 : ℤ)) ∈
        arbTimings .mariko customizeTable :=
    List.mem_map.2 ⟨(.mc_emem_arb_timing_rap2pre, _, 0), by simp [Mariko.arbTimings], rfl⟩
  have hround := hall .mariko customizeTable 0 1075 zeroImage safetyCheck_customizeTable
    presetsInRange_customizeTable rfl (by decide) _ hmem
  have hclock : emcClkOSLimit < emcMaxClock .mariko customizeTable := by decide
  obtain ⟨q, hq, hvalue, h₀, hk⟩ := autoAdjust_arbTimings presetsInRange_customizeTable rfl hclock
    0 1075 zeroImage _ hmem
  rw [hvalue, roundsUp_arb_iff hq h₀ hk] at hround
  revert hround
  decide +kernel

end SwitchOc
