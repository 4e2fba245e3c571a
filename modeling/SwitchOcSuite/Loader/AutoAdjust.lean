import Mathlib.Data.Rat.Floor
import Mathlib.Tactic.Common
import Mathlib.Tactic.Linarith
import SwitchOcSuite.Lib.BitField
import SwitchOcSuite.Loader.CustomAdjust
import SwitchOcSuite.Loader.Scan

/-!
# Registers adjusted in place (`MemMtcTableAutoAdjust`)

Most registers get a value that depends on the clock alone.  `mc_emem_arb_misc0`
and the registers of `la_scale_regs` are read, changed and written back: fields are
cleared and inserted, or the old value is scaled.

    misc0_thresholds_lost        both priority inversion thresholds become 0
    bandwidth_not_scaled         the bandwidth registers keep their values
    latency_scaled               the latency allowances, field by field
-/

namespace SwitchOc.Mariko

open Traced BitField

variable {C : CustomizeTable} {table ref : Int} {s : Store Device} {r : LaReg}

/-! ## Words -/

/-- Word `k` of `la_scale_regs`. -/
def laWord (table : Int) (k : Nat) : Int := table + ((1001 + k : Nat) : Int)

theorem burst_not_scaled : ∀ r ∈ burstRegs, ∀ l ∈ LaReg.all, r ≠ .la_scale_regs l := by
  decide +kernel

theorem rest_not_scaled : ∀ r ∈ restRegs, ∀ l ∈ LaReg.all, r ≠ .la_scale_regs l := by
  decide

theorem misc0_not_written : misc0Reg ∉ burstRegs ++ restRegs := by
  decide +kernel

theorem misc0_not_scaled (l : LaReg) : misc0Reg ≠ .la_scale_regs l := by
  simp [misc0Reg]

/-- A register of `la_scale_regs` holds what its updates make of it. -/
theorem mapsWord_autoAdjust (h : C.mtcConf = 0) (r : LaReg) :
    MapsWord (laWord table r.idx) (changesOf r (laScaleUpdates C))
      (memMtcTableAutoAdjust C table ref) := by
  have hinj : Function.Injective fun l : LaReg => table + ((Reg.la_scale_regs l).off : Int) :=
    fun l l' hl => by injection regWord_injective table hl
  have hburst : KeepsWord (laWord table r.idx) (adjustBurst C table ref) :=
    keepsWord_adjustBurst fun r' hr' =>
      word_ne fun heq => burst_not_scaled r' hr' r (LaReg.mem_all r) heq.symm
  have hmisc : KeepsWord (laWord table r.idx) (adjustMisc0 C table) :=
    keepsWord_adjustMisc0 (word_ne fun heq => misc0_not_scaled r heq.symm)
  have hrest : KeepsWord (laWord table r.idx) (adjustRest C table) :=
    keepsWord_adjustRest fun r' hr' =>
      word_ne fun heq => rest_not_scaled r' hr' r (LaReg.mem_all r) heq.symm
  rw [memMtcTableAutoAdjust_eq h]
  exact mapsWord_bind hburst.mapsWord fun _ => mapsWord_bind hmisc.mapsWord fun _ =>
    mapsWord_bind (mapsWord_modifyEach hinj (laScaleUpdates C) r) fun _ => hrest.mapsWord

/-! ## Fields -/

theorem toNat_u8 (x : UInt32) : (u8 x).toNat = x.toNat % 256 := by
  unfold u8
  simp

/-- `CLEAR_BIT`, then `|=`. -/
theorem inserted_clearBit (x high low : UInt32) {v : UInt32} (hle : low.toNat ≤ high.toNat)
    (hhigh : high.toNat < 32) (hv : v.toNat < 2 ^ (high.toNat + 1 - low.toNat)) :
    Inserted high.toNat low.toNat v.toNat x (clearBit x high low ||| v <<< low) :=
  inserted_clear_or x hle hhigh hv

/-- The lowest field needs no shift. -/
theorem inserted_clearBit_low (x : UInt32) {v : UInt32} (hv : v.toNat < 256) :
    Inserted 7 0 v.toNat x (clearBit x 7 0 ||| v) := by
  have h := inserted_clearBit x 7 0 (by decide) (by decide) hv
  rwa [UInt32.shiftLeft_zero] at h

/-! ## `mc_emem_arb_misc0` -/

def misc0Word (table : Int) : Int := table + misc0Reg.off

def rcWord (table : Int) : Int := table + (Reg.burst_mc_regs .mc_emem_arb_timing_rc).off

/-- A byte shifted out of itself. -/
theorem u8_shiftLeft {x k : UInt32} (h₁ : 8 ≤ k.toNat) (h₂ : k.toNat < 32) :
    u8 (x <<< k) = 0 := by
  apply UInt32.toNat_inj.1
  rw [toNat_u8, UInt32.toNat_shiftLeft, Nat.mod_eq_of_lt h₂, Nat.shiftLeft_eq]
  have hbyte : 2 ^ 8 ∣ 2 ^ k.toNat := pow_dvd_pow 2 h₁
  have hword : (256 : Nat) ∣ 2 ^ 32 := by decide
  exact Nat.mod_eq_zero_of_dvd
    ((Nat.dvd_mod_iff hword).2 (Dvd.dvd.mul_left hbyte x.toNat))

/-- What becomes of the fields. -/
structure Misc0Fields (rc old new : UInt32) : Prop where
  holdoff : bits new 7 0 = (rc.toNat + 1) % 256
  threshold : bits new 14 8 = 0
  isoThreshold : bits new 20 16 = 0
  others : ∀ i, 20 < i ∨ i = 15 → bit new i = bit old i

theorem misc0_fields (C : CustomizeTable) (rc old : UInt32) :
    Misc0Fields rc old (misc0 C rc old) := by
  let r₁ := clearBit old 7 0 ||| u8 (rc + 1)
  let r₂ := clearBit r₁ 14 8 ||| (0 : UInt32) <<< 8
  let r₃ := clearBit r₂ 20 16 ||| (0 : UInt32) <<< 16
  have hrun : misc0 C rc old = r₃ := by
    unfold misc0
    dsimp only
    rw [u8_shiftLeft (by decide) (by decide), u8_shiftLeft (by decide) (by decide)]
    rfl
  have hbyte : (u8 (rc + 1)).toNat = (rc.toNat + 1) % 256 := by
    rw [toNat_u8, UInt32.toNat_add]
    show (rc.toNat + 1) % 2 ^ 32 % 256 = _
    omega
  have h₁ : Inserted 7 0 _ old r₁ := inserted_clearBit_low old (by rw [hbyte]; omega)
  have h₂ : Inserted 14 8 0 r₁ r₂ :=
    inserted_clearBit r₁ 14 8 (v := 0) (by decide) (by decide) (by decide)
  have h₃ : Inserted 20 16 0 r₂ r₃ :=
    inserted_clearBit r₂ 20 16 (v := 0) (by decide) (by decide) (by decide)
  rw [hrun]
  refine ⟨?_, ?_, h₃.field, fun i hi => ?_⟩
  · rw [h₃.bits_disjoint (by decide), h₂.bits_disjoint (by decide), h₁.field, hbyte]
  · rw [h₃.bits_disjoint (by decide), h₂.field]
  · rw [h₃.others i (by omega), h₂.others i (by omega), h₁.others i (by omega)]

/-- The register after the adjustment, for what `mc_emem_arb_timing_rc` then holds. -/
theorem misc0_autoAdjust (h : C.mtcConf = 0) (table ref : Int) (s : Store Device) :
    let mem' := (memMtcTableAutoAdjust C table ref s).state.mem
    mem' (misc0Word table) = misc0 C (mem' (rcWord table)) (s.mem (misc0Word table)) := by
  have hmem : ∀ r ∈ burstRegs ++ restRegs, misc0Word table ≠ table + (r.off : Int) :=
    fun r hr => word_ne fun heq => misc0_not_written (heq ▸ hr)
  have hrc : ∀ r ∈ restRegs, rcWord table ≠ table + (r.off : Int) := fun r hr =>
    word_ne fun heq => absurd (heq ▸ hr) (by decide)
  have hscale : ∀ m l, table + ((Reg.burst_mc_regs m).off : Int) ≠
      table + ((Reg.la_scale_regs l).off : Int) := fun m l => word_ne (by simp)
  have hburst : ∀ t, (adjustBurst C table ref t).state.mem (misc0Word table) =
      t.mem (misc0Word table) :=
    (keepsWord_adjustBurst fun r hr => hmem r (List.mem_append_left _ hr)).keeps
  -- the later parts write neither the register nor `mc_emem_arb_timing_rc`
  have hlater : ∀ w, (∀ l, w ≠ table + ((Reg.la_scale_regs l).off : Int)) →
      (∀ r ∈ restRegs, w ≠ table + (r.off : Int)) → ∀ t : Store Device,
      ((adjustScale C table >>= fun _ => adjustRest C table) t).state.mem w = t.mem w :=
    fun w h₁ h₂ => (commits_bind (keepsWord_adjustScale h₁) fun _ => keepsWord_adjustRest h₂).keeps
  have hnever : NeverFails (adjustBurst C table ref) :=
    (keepsWord_adjustBurst fun r hr => hmem r (List.mem_append_left _ hr)).neverFails
  have hmisc : NeverFails (adjustMisc0 C table) := fun s => ⟨(), rfl⟩
  dsimp only
  rw [memMtcTableAutoAdjust_eq h, hnever.bind_state, hmisc.bind_state,
    hlater (misc0Word table) (hscale _) fun r hr => hmem r (List.mem_append_right _ hr),
    hlater (rcWord table) (hscale _) hrc, ← hburst s]
  generalize (adjustBurst C table ref s).state = t
  have hrun : (adjustMisc0 C table t).state.mem = Function.update t.mem (misc0Word table)
      (misc0 C (t.mem (rcWord table)) (t.mem (misc0Word table))) := rfl
  have hne : rcWord table ≠ misc0Word table := word_ne (by decide)
  rw [hrun, Function.update_self, Function.update_of_ne hne]

theorem misc0Fields_autoAdjust (h : C.mtcConf = 0) (table ref : Int) (s : Store Device) :
    Misc0Fields ((memMtcTableAutoAdjust C table ref s).state.mem (rcWord table))
      (s.mem (misc0Word table))
      ((memMtcTableAutoAdjust C table ref s).state.mem (misc0Word table)) := by
  have hword := misc0_autoAdjust h table ref s
  dsimp only at hword
  rw [hword]
  exact misc0_fields C _ _

/-- Holdoff and both thresholds in their fields, every other bit kept. -/
structure Misc0Adjusted (C : CustomizeTable) (table : Int) (mem mem' : Int → UInt32) : Prop where
  holdoff : bits (mem' (misc0Word table)) 7 0 = ((mem' (rcWord table)).toNat + 1) % 256
  threshold : bits (mem' (misc0Word table)) 14 8 = (adjust C 0x24).toNat
  isoThreshold : bits (mem' (misc0Word table)) 20 16 = (adjust C 12).toNat
  others : ∀ i, 20 < i ∨ i = 15 → bit (mem' (misc0Word table)) i = bit (mem (misc0Word table)) i

/-- `ADJUST` of a small target is not 0: the clock is at least the limit. -/
theorem adjust_ne_zero (hemc : emcClkOSLimit < C.marikoEmcMaxClock) {x : UInt32} (hx : x ≠ 0)
    (hsmall : x.toNat < 2 ^ 20) : (adjust C x).toNat ≠ 0 := by
  have hlt : emcClkOSLimit.toNat < C.marikoEmcMaxClock.toNat := hemc
  have hlimit : emcClkOSLimit.toNat = 1600000 := rfl
  have hmax := C.marikoEmcMaxClock.toNat_lt
  have hpos : 0 < x.toNat := Nat.pos_of_ne_zero fun h0 => hx (UInt32.toNat_inj.1 h0)
  have hone : 1 ≤ C.marikoEmcMaxClock.toNat / 1600000 := by omega
  have hquot : C.marikoEmcMaxClock.toNat / 1600000 < 2 ^ 12 := by omega
  have hmul : x.toNat * (C.marikoEmcMaxClock.toNat / 1600000) < 2 ^ 20 * 2 ^ 12 :=
    Nat.mul_lt_mul'' hsmall hquot
  unfold adjust
  rw [UInt32.toNat_mul, UInt32.toNat_div, hlimit, Nat.mod_eq_of_lt (by omega)]
  have := Nat.mul_pos hpos hone
  omega

/-- **`u8` cuts both thresholds off before they are or-ed in.** -/
theorem misc0_thresholds_lost (C : CustomizeTable) (table ref : Int) (s : Store Device)
    (h : C.mtcConf = 0) (hemc : emcClkOSLimit < C.marikoEmcMaxClock) :
    Misc0Fields ((memMtcTableAutoAdjust C table ref s).state.mem (rcWord table))
      (s.mem (misc0Word table))
      ((memMtcTableAutoAdjust C table ref s).state.mem (misc0Word table)) ∧
    ¬ Misc0Adjusted C table s.mem (memMtcTableAutoAdjust C table ref s).state.mem := by
  have hfields := misc0Fields_autoAdjust h table ref s
  refine ⟨hfields, fun hadj => adjust_ne_zero hemc (x := 0x24) (by decide) (by decide) ?_⟩
  rw [← hadj.threshold, hfields.threshold]

/-- The shipped configuration, over a table of zeros. -/
theorem misc0_thresholds_lost_shipped :
    ¬ Misc0Adjusted customizeTable 0 zeroImage.mem
      (memMtcTableAutoAdjust customizeTable 0 mtcTableWords zeroImage).state.mem :=
  (misc0_thresholds_lost customizeTable 0 mtcTableWords zeroImage rfl (by decide)).2

/-- No table and no clock gets the thresholds. -/
theorem misc0_not_adjusted :
    ¬ ∀ (C : CustomizeTable) (table ref : Int) (s : Store Device), safetyCheck C = .ok () →
      C.mtcConf = 0 → emcClkOSLimit < C.marikoEmcMaxClock →
      Misc0Adjusted C table s.mem (memMtcTableAutoAdjust C table ref s).state.mem := by
  intro hall
  have hadj := hall customizeTable 0 mtcTableWords zeroImage safetyCheck_customizeTable rfl
    (by decide)
  have hfields := misc0Fields_autoAdjust (C := customizeTable) rfl 0 mtcTableWords zeroImage
  exact absurd (hadj.threshold.symm.trans hfields.threshold) (by decide)

/-! ## Bandwidth -/

def bandwidthRegs : List LaReg := [.mc_mll_mpcorer_ptsa_rate, .mc_ptsa_grant_decrement]

theorem changesOf_bandwidth (hr : r ∈ bandwidthRegs) :
    changesOf r (laScaleUpdates C) = adjust C := by
  simp only [bandwidthRegs, List.mem_cons, List.not_mem_nil, or_false] at hr
  rcases hr with rfl | rfl <;> rfl

/-- Below twice the limit the factor `C.marikoEmcMaxClock / EmcClkOSLimit` is 1. -/
theorem adjust_eq_self (hsafe : safetyCheck C = .ok ()) (hemc : emcClkOSLimit < C.marikoEmcMaxClock)
    (x : UInt32) : adjust C x = x := by
  have hlt : emcClkOSLimit.toNat < C.marikoEmcMaxClock.toNat := hemc
  have hlimit : emcClkOSLimit.toNat = 1600000 := rfl
  have hmax := marikoEmcMaxClock_le hsafe
  have hone : C.marikoEmcMaxClock.toNat / 1600000 = 1 := by omega
  apply UInt32.toNat_inj.1
  unfold adjust
  rw [UInt32.toNat_mul, UInt32.toNat_div, hlimit, hone, Nat.mul_one, Nat.mod_eq_of_lt x.toNat_lt]

/-- The exact value: `old` times the clock over the limit, rounded up. -/
def scaledBandwidth (old f : UInt32) : ℤ := ⌈dbl old * dbl f / dbl emcClkOSLimit⌉

theorem dbl_emcClkOSLimit : dbl emcClkOSLimit = 1600000 := by
  unfold dbl
  rw [show emcClkOSLimit.toNat = 1600000 from rfl]
  norm_num

theorem scaledBandwidth_mono (old : UInt32) {f f' : UInt32} (h : f ≤ f') :
    scaledBandwidth old f ≤ scaledBandwidth old f' := by
  have hf : dbl f ≤ dbl f' := by
    have hle : f.toNat ≤ f'.toNat := h
    unfold dbl
    exact_mod_cast hle
  have hold : 0 ≤ dbl old := Nat.cast_nonneg _
  have hlimit : 0 ≤ dbl emcClkOSLimit := Nat.cast_nonneg _
  exact Int.ceil_mono (div_le_div_of_nonneg_right (mul_le_mul_of_nonneg_left hf hold) hlimit)

theorem scaledBandwidth_lt {old f : UInt32} (hold : old.toNat ≤ 2 ^ 16) :
    scaledBandwidth old f < 2 ^ 32 := by
  have hold' : dbl old ≤ 2 ^ 16 := by
    unfold dbl
    exact_mod_cast hold
  have hf : dbl f ≤ 2 ^ 32 := by
    have hle := Nat.le_of_lt f.toNat_lt
    unfold dbl
    exact_mod_cast hle
  have hmul : dbl old * dbl f ≤ 2 ^ 16 * 2 ^ 32 :=
    mul_le_mul hold' hf (Nat.cast_nonneg _) (by positivity)
  have hle : scaledBandwidth old f ≤ 2 ^ 28 := by
    refine Int.ceil_le.2 ?_
    rw [dbl_emcClkOSLimit, div_le_iff₀ (by norm_num)]
    refine hmul.trans ?_
    norm_num
  exact lt_of_le_of_lt hle (by norm_num)

/-- Above the limit only 0 is scaled to itself. -/
theorem scaledBandwidth_eq_self_iff {old f : UInt32} (hf : emcClkOSLimit < f) :
    (old.toNat : ℤ) = scaledBandwidth old f ↔ old = 0 := by
  have hlt : dbl emcClkOSLimit < dbl f := by
    have hlt : emcClkOSLimit.toNat < f.toNat := hf
    unfold dbl
    exact_mod_cast hlt
  constructor
  · intro heq
    by_contra hne
    have hpos : 0 < dbl old := by
      have hpos : 0 < old.toNat := Nat.pos_of_ne_zero fun h0 => hne (UInt32.toNat_inj.1 h0)
      unfold dbl
      exact_mod_cast hpos
    have hgrow : dbl old < dbl old * dbl f / dbl emcClkOSLimit := by
      rw [lt_div_iff₀ (by rw [dbl_emcClkOSLimit]; norm_num)]
      exact mul_lt_mul_of_pos_left hlt hpos
    have hceil : (old.toNat : ℤ) < scaledBandwidth old f := Int.lt_ceil.2 hgrow
    omega
  · rintro rfl
    simp [scaledBandwidth, dbl]

/-- Both registers scaled with the clock, exactly and without overflow. -/
structure BandwidthScaled (C : CustomizeTable) (table : Int) (mem mem' : Int → UInt32) : Prop where
  scaled : ∀ r ∈ bandwidthRegs, ((mem' (laWord table r.idx)).toNat : ℤ) =
    scaledBandwidth (mem (laWord table r.idx)) C.marikoEmcMaxClock
  fits : ∀ r ∈ bandwidthRegs, (mem (laWord table r.idx)).toNat ≤ 2 ^ 16 →
    scaledBandwidth (mem (laWord table r.idx)) C.marikoEmcMaxClock < 2 ^ 32
  grows : ∀ r ∈ bandwidthRegs, ∀ f f', f ≤ f' →
    scaledBandwidth (mem (laWord table r.idx)) f ≤ scaledBandwidth (mem (laWord table r.idx)) f'

theorem bandwidth_kept (h : C.mtcConf = 0) (hsafe : safetyCheck C = .ok ())
    (hemc : emcClkOSLimit < C.marikoEmcMaxClock) (hr : r ∈ bandwidthRegs) (s : Store Device) :
    (memMtcTableAutoAdjust C table ref s).state.mem (laWord table r.idx) =
      s.mem (laWord table r.idx) := by
  rw [(mapsWord_autoAdjust h r s).2, changesOf_bandwidth hr, adjust_eq_self hsafe hemc]

/-- **The integer quotient of the clocks is 1 for every clock that is accepted.** -/
theorem bandwidthScaled_iff (C : CustomizeTable) (table ref : Int) (s : Store Device)
    (h : C.mtcConf = 0) (hsafe : safetyCheck C = .ok ())
    (hemc : emcClkOSLimit < C.marikoEmcMaxClock) :
    BandwidthScaled C table s.mem (memMtcTableAutoAdjust C table ref s).state.mem ↔
      ∀ r ∈ bandwidthRegs, s.mem (laWord table r.idx) = 0 := by
  constructor
  · intro hscaled r hr
    have hvalue := hscaled.scaled r hr
    rw [bandwidth_kept h hsafe hemc hr] at hvalue
    exact (scaledBandwidth_eq_self_iff hemc).1 hvalue
  · intro hzero
    refine ⟨fun r hr => ?_, fun r _ hold => scaledBandwidth_lt hold,
      fun r _ f f' hf => scaledBandwidth_mono _ hf⟩
    rw [bandwidth_kept h hsafe hemc hr]
    exact (scaledBandwidth_eq_self_iff hemc).2 (hzero r hr)

/-- The shipped configuration, over a table of zeros: 0 is scaled to 0. -/
theorem bandwidthScaled_zeroImage :
    BandwidthScaled customizeTable 0 zeroImage.mem
      (memMtcTableAutoAdjust customizeTable 0 mtcTableWords zeroImage).state.mem :=
  (bandwidthScaled_iff customizeTable 0 mtcTableWords zeroImage rfl safetyCheck_customizeTable
    (by decide)).2 fun _ _ => rfl

/-- A table whose words are 208, as `mc_mll_mpcorer_ptsa_rate` is at 1600 MHz. -/
def ptsaRateImage : Store Device := { zeroImage with mem := fun _ => 208 }

/-- At 1996800 the rate should become 260, and stays 208. -/
theorem bandwidth_not_scaled :
    ¬ ∀ (C : CustomizeTable) (table ref : Int) (s : Store Device), C.mtcConf = 0 →
      safetyCheck C = .ok () → emcClkOSLimit < C.marikoEmcMaxClock →
      BandwidthScaled C table s.mem (memMtcTableAutoAdjust C table ref s).state.mem := by
  intro hall
  have hscaled := hall customizeTable 0 mtcTableWords ptsaRateImage rfl safetyCheck_customizeTable
    (by decide)
  have hrate := hscaled.scaled .mc_mll_mpcorer_ptsa_rate (by decide)
  rw [bandwidth_kept rfl safetyCheck_customizeTable (by decide) (by decide),
    scaledBandwidth_eq_self_iff (by decide)] at hrate
  exact absurd hrate (by decide)

/-! ## Latency allowance -/

/-- The registers whose field in bits 23 to 16 is set, in order. -/
def latencyHi : List LaReg :=
  [.mc_latency_allowance_xusb_0, .mc_latency_allowance_xusb_1, .mc_latency_allowance_tsec_0,
    .mc_latency_allowance_sdmmca_0, .mc_latency_allowance_sdmmcaa_0,
    .mc_latency_allowance_sdmmc_0, .mc_latency_allowance_sdmmcab_0,
    .mc_latency_allowance_sdmmc_0, .mc_latency_allowance_sdmmcab_0, .mc_latency_allowance_ppcs_1,
    .mc_latency_allowance_mpcore_0, .mc_latency_allowance_avpc_0, .mc_latency_allowance_gpu_0,
    .mc_latency_allowance_gpu2_0, .mc_latency_allowance_nvenc_0, .mc_latency_allowance_nvdec_0,
    .mc_latency_allowance_vic_0, .mc_latency_allowance_isp2_1]

/-- Those whose field in bits 7 to 0 is set, with its base. -/
def latencyLo : List (LaReg × UInt32) :=
  [(.mc_latency_allowance_hc_0, 0x16), (.mc_latency_allowance_hc_1, 0x80),
    (.mc_latency_allowance_gpu_0, 0x19), (.mc_latency_allowance_gpu2_0, 0x19),
    (.mc_latency_allowance_vic_0, 0x1d), (.mc_latency_allowance_vi2_0, 0x80),
    (.mc_latency_allowance_isp2_1, 0x80)]

/-- A base scaled down as the clock goes up, both clocks in whole MHz. -/
def allowance (C : CustomizeTable) (base : UInt32) : Nat :=
  base.toNat * 1600 / (C.marikoEmcMaxClock.toNat / 1000)

theorem allowance_le (hemc : emcClkOSLimit < C.marikoEmcMaxClock) (base : UInt32) :
    allowance C base ≤ base.toNat := by
  have hlt : emcClkOSLimit.toNat < C.marikoEmcMaxClock.toNat := hemc
  have hlimit : emcClkOSLimit.toNat = 1600000 := rfl
  have hmhz : 1600 ≤ C.marikoEmcMaxClock.toNat / 1000 := by omega
  unfold allowance
  exact Nat.div_le_of_le_mul (by
    rw [Nat.mul_comm]
    exact Nat.mul_le_mul_right _ hmhz)

theorem toNat_adjustInverse (C : CustomizeTable) {base : UInt32} (hbase : base.toNat ≤ 128) :
    (adjustInverse C base).toNat = allowance C base := by
  unfold adjustInverse allowance
  rw [UInt32.toNat_div, UInt32.toNat_mul, UInt32.toNat_div, UInt32.toNat_div]
  show base.toNat * 1600 % 2 ^ 32 / (C.marikoEmcMaxClock.toNat / 1000) = _
  rw [Nat.mod_eq_of_lt (by omega)]

/-- `LA` loses nothing in its `u8`. -/
theorem LA_eq (hemc : emcClkOSLimit < C.marikoEmcMaxClock) : LA C = adjustInverse C 128 := by
  have hle := allowance_le hemc 128
  apply UInt32.toNat_inj.1
  unfold LA
  rw [toNat_u8, toNat_adjustInverse C (by decide)]
  exact Nat.mod_eq_of_lt (Nat.lt_of_le_of_lt hle (by decide))

theorem laScaleUpdates_eq (hemc : emcClkOSLimit < C.marikoEmcMaxClock) :
    laScaleUpdates C = bandwidthRegs.map (fun r => (r, adjust C)) ++
      latencyHi.map (fun r => (r, laScaleHi (adjustInverse C 128))) ++
      latencyLo.map fun p => (p.1, laScaleLo (adjustInverse C p.2)) := by
  unfold laScaleUpdates
  rw [LA_eq hemc]
  rfl

/-- What an update of a register is: a scaling, or one field. -/
theorem mem_laScaleUpdates (hemc : emcClkOSLimit < C.marikoEmcMaxClock)
    {u : LaReg × (UInt32 → UInt32)} :
    u ∈ laScaleUpdates C ↔
      (∃ r ∈ bandwidthRegs, (r, adjust C) = u) ∨
      (∃ r ∈ latencyHi, (r, laScaleHi (adjustInverse C 128)) = u) ∨
      ∃ p ∈ latencyLo, (p.1, laScaleLo (adjustInverse C p.2)) = u := by
  rw [laScaleUpdates_eq hemc, List.mem_append, List.mem_append, List.mem_map, List.mem_map,
    List.mem_map, or_assoc]

theorem base_le : ∀ p ∈ latencyLo, p.2.toNat ≤ 128 := by
  decide

/-- A register is listed with one base. -/
theorem latencyLo_functional : ∀ p ∈ latencyLo, ∀ q ∈ latencyLo, p.1 = q.1 → p = q := by
  decide

theorem bandwidth_not_latency : ∀ r ∈ bandwidthRegs, r.idx < 3 := by
  decide

theorem latency_idx : (∀ r ∈ latencyHi, 3 ≤ r.idx) ∧ ∀ p ∈ latencyLo, 3 ≤ p.1.idx := by
  decide

theorem inserted_laScaleHi (hemc : emcClkOSLimit < C.marikoEmcMaxClock) (y : UInt32) :
    Inserted 23 16 (allowance C 128) y (laScaleHi (adjustInverse C 128) y) := by
  have hle := allowance_le hemc 128
  rw [← toNat_adjustInverse C (by decide)] at hle ⊢
  exact inserted_clearBit y 23 16 (by decide) (by decide) (Nat.lt_of_le_of_lt hle (by decide))

theorem inserted_laScaleLo (hemc : emcClkOSLimit < C.marikoEmcMaxClock) {base : UInt32}
    (hbase : base.toNat ≤ 128) (y : UInt32) :
    Inserted 7 0 (allowance C base) y (laScaleLo (adjustInverse C base) y) := by
  have hle := allowance_le hemc base
  rw [← toNat_adjustInverse C hbase] at hle ⊢
  exact inserted_clearBit_low y (by omega)

/-- The words of `la_scale_regs` without a name here: nothing writes them. -/
theorem unnamed_ne : ∀ r ∈ Reg.all, r.off ≠ 1001 + 10 ∧ r.off ≠ 1001 + 22 := by
  decide +kernel

theorem named_or_unnamed : ∀ k < 24, 3 ≤ k → (∃ r ∈ LaReg.all, r.idx = k) ∨ k = 10 ∨ k = 22 := by
  decide

/-- What `value` makes of the bases in their fields, and every other bit of words 3 to 23 kept. -/
structure LatencyScaled (value : UInt32 → Nat) (table : Int) (mem mem' : Int → UInt32) :
    Prop where
  high : ∀ r ∈ latencyHi, bits (mem' (laWord table r.idx)) 23 16 = value 128
  low : ∀ p ∈ latencyLo, bits (mem' (laWord table p.1.idx)) 7 0 = value p.2
  fits : value 128 < 256 ∧ ∀ p ∈ latencyLo, value p.2 < 256
  others : ∀ k, 3 ≤ k → k < 24 → ∀ i,
    (∀ r ∈ latencyHi, r.idx = k → ¬ (16 ≤ i ∧ i ≤ 23)) →
    (∀ p ∈ latencyLo, p.1.idx = k → ¬ i ≤ 7) →
    bit (mem' (laWord table k)) i = bit (mem (laWord table k)) i

section

variable (h : C.mtcConf = 0) (hemc : emcClkOSLimit < C.marikoEmcMaxClock)

include h hemc

/-- The updates after the one of the field insert it again or keep it. -/
theorem latencyHi_field (hr : r ∈ latencyHi) (s : Store Device) :
    bits ((memMtcTableAutoAdjust C table ref s).state.mem (laWord table r.idx)) 23 16 =
      allowance C 128 := by
  rw [(mapsWord_autoAdjust h r s).2]
  refine changesOf_reaches (P := fun y => bits y 23 16 = allowance C 128)
    (fun u hu hk y hy => ?_)
    ⟨_, (mem_laScaleUpdates hemc).2 (.inr (.inl ⟨r, hr, rfl⟩)), rfl,
      fun y => (inserted_laScaleHi hemc y).field⟩ _
  rcases (mem_laScaleUpdates hemc).1 hu with ⟨b, hb, rfl⟩ | ⟨l, -, rfl⟩ | ⟨p, hp, rfl⟩
  · have hlow := bandwidth_not_latency b hb
    have hhigh := latency_idx.1 r hr
    rw [← show b = r from hk] at hhigh
    omega
  · exact (inserted_laScaleHi hemc y).field
  · exact ((inserted_laScaleLo hemc (base_le p hp) y).bits_disjoint (by decide)).trans hy

theorem latencyLo_field {p : LaReg × UInt32} (hp : p ∈ latencyLo) (s : Store Device) :
    bits ((memMtcTableAutoAdjust C table ref s).state.mem (laWord table p.1.idx)) 7 0 =
      allowance C p.2 := by
  rw [(mapsWord_autoAdjust h p.1 s).2]
  refine changesOf_reaches (P := fun y => bits y 7 0 = allowance C p.2) (fun u hu hk y hy => ?_)
    ⟨_, (mem_laScaleUpdates hemc).2 (.inr (.inr ⟨p, hp, rfl⟩)), rfl,
      fun y => (inserted_laScaleLo hemc (base_le p hp) y).field⟩ _
  rcases (mem_laScaleUpdates hemc).1 hu with ⟨b, hb, rfl⟩ | ⟨l, -, rfl⟩ | ⟨q, hq, rfl⟩
  · have hlow := bandwidth_not_latency b hb
    have hhigh := latency_idx.2 p hp
    rw [← show b = p.1 from hk] at hhigh
    omega
  · exact ((inserted_laScaleHi hemc y).bits_disjoint (by decide)).trans hy
  · obtain rfl : q = p := latencyLo_functional q hq p hp hk
    exact (inserted_laScaleLo hemc (base_le q hq) y).field

/-- A bit outside the fields of a register. -/
theorem latency_bit_kept {i : Nat} (hidx : 3 ≤ r.idx)
    (hhigh : r ∈ latencyHi → ¬ (16 ≤ i ∧ i ≤ 23)) (hlow : ∀ p ∈ latencyLo, p.1 = r → ¬ i ≤ 7)
    (s : Store Device) :
    bit ((memMtcTableAutoAdjust C table ref s).state.mem (laWord table r.idx)) i =
      bit (s.mem (laWord table r.idx)) i := by
  rw [(mapsWord_autoAdjust h r s).2]
  refine changesOf_keeps (p := fun y => bit y i) (fun u hu hk y => ?_) _
  rcases (mem_laScaleUpdates hemc).1 hu with ⟨b, hb, rfl⟩ | ⟨l, hl, rfl⟩ | ⟨p, hp, rfl⟩
  · have hlt := bandwidth_not_latency b hb
    rw [show b = r from hk] at hlt
    omega
  · have hr : r ∈ latencyHi := (show l = r from hk) ▸ hl
    exact (inserted_laScaleHi hemc y).others i (hhigh hr)
  · exact (inserted_laScaleLo hemc (base_le p hp) y).others i
      fun hi => hlow p hp hk hi.2

end

/-- **Every register of the lists gets its fields, and nothing else changes.** -/
theorem latency_scaled (C : CustomizeTable) (table ref : Int) (s : Store Device)
    (h : C.mtcConf = 0) (hemc : emcClkOSLimit < C.marikoEmcMaxClock) :
    (memMtcTableAutoAdjust C table ref s).result = .ok () ∧
      LatencyScaled (allowance C) table s.mem (memMtcTableAutoAdjust C table ref s).state.mem := by
  obtain ⟨u, hu⟩ := (commits_memMtcTableAutoAdjust (C := C) table ref).neverFails s
  refine ⟨hu, fun r hr => latencyHi_field h hemc hr s, fun p hp => latencyLo_field h hemc hp s,
    ⟨Nat.lt_of_le_of_lt (allowance_le hemc 128) (by decide), fun p hp => ?_⟩,
    fun k hlo hhi i hhigh hlow => ?_⟩
  · exact Nat.lt_of_le_of_lt ((allowance_le hemc p.2).trans (base_le p hp)) (by decide)
  · rcases named_or_unnamed k hhi hlo with ⟨r, -, rfl⟩ | hk
    · exact latency_bit_kept h hemc hlo (fun hr => hhigh r hr rfl)
        (fun p hp heq => hlow p hp (heq ▸ rfl)) s
    · have hkept : KeepsWord (laWord table k) (memMtcTableAutoAdjust C table ref) := by
        refine keepsWord_autoAdjust fun r => ?_
        have hne := unnamed_ne r (Reg.mem_all r)
        unfold laWord
        omega
      exact congrArg (bit · i) (hkept.keeps s)

/-- The shipped configuration, over a table of zeros. -/
theorem latency_scaled_shipped :
    LatencyScaled (allowance customizeTable) 0 zeroImage.mem
      (memMtcTableAutoAdjust customizeTable 0 mtcTableWords zeroImage).state.mem :=
  (latency_scaled customizeTable 0 mtcTableWords zeroImage rfl (by decide)).2

/-- The same with the clock in MHz as a fraction. -/
def exactAllowance (C : CustomizeTable) (base : UInt32) : Nat :=
  ⌊(base.toNat * 1600 : ℚ) / (C.marikoEmcMaxClock.toNat / 1000)⌋₊

/-- The shipped table with a clock of 1612.8 MHz. -/
def fractionalClock : CustomizeTable := { customizeTable with marikoEmcMaxClock := 1612800 }

theorem exactAllowance_fractionalClock : exactAllowance fractionalClock 128 = 126 := by
  have hclock : fractionalClock.marikoEmcMaxClock.toNat = 1612800 := rfl
  have hbase : (128 : UInt32).toNat = 128 := rfl
  unfold exactAllowance
  rw [hclock, hbase, Nat.floor_eq_iff (by norm_num)]
  norm_num

/-- The fraction makes it 126, the code divides by 1612 and writes 127. -/
theorem latency_not_exact :
    ¬ ∀ (C : CustomizeTable) (table ref : Int) (s : Store Device), safetyCheck C = .ok () →
      C.mtcConf = 0 → emcClkOSLimit < C.marikoEmcMaxClock →
      LatencyScaled (exactAllowance C) table s.mem
        (memMtcTableAutoAdjust C table ref s).state.mem := by
  intro hall
  have hsafe : safetyCheck fractionalClock = .ok () := by decide +kernel
  have hemc : emcClkOSLimit < fractionalClock.marikoEmcMaxClock := by decide
  have hxusb : LaReg.mc_latency_allowance_xusb_0 ∈ latencyHi := by decide
  have hexact := (hall fractionalClock 0 mtcTableWords zeroImage hsafe rfl hemc).high _ hxusb
  rw [exactAllowance_fractionalClock, latencyHi_field rfl hemc hxusb] at hexact
  exact absurd hexact (by decide)

end SwitchOc.Mariko
