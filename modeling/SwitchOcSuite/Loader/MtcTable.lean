import Mathlib.Data.List.Nodup
import Mathlib.Tactic.Common
import SwitchOcSuite.Loader.Customize

/-!
# Layout of the MTC tables (`mtc_timing_table.hpp`)

Word offsets of the registers that the patches name, per SoC.  A table of the
image is a base word `t`; a register of it is `t` plus its offset.  Registers no
patch writes are left out of the enumerations; their room is in the offsets.

    off_lt           every named register lies inside its table
    off_injective    no two named registers share a word
-/

namespace SwitchOc

/-- Offsets of `rev` and `rate_khz`, alike in both tables. -/
def offsetRev : Nat := 0

def offsetRateKhz : Nat := 16

/-- Offsets that ascend along a list of all registers are distinct. -/
theorem injective_of_isChain {R : Type} {off : R → Nat} {all : List R} (hall : ∀ r, r ∈ all)
    (hchain : (all.map off).IsChain (· < ·)) : Function.Injective off := by
  have hnodup : (all.map off).Nodup :=
    (List.isChain_iff_pairwise.1 hchain).imp fun h => Nat.ne_of_lt h
  exact fun r r' h => List.inj_on_of_nodup_map hnodup (hall r) (hall r') h

namespace Mariko

/-! ## Mariko -/

/-- Words in a `MarikoMtcTable` (0x10CC bytes). -/
def mtcTableWords : Nat := 1075

/-- Fields of `MarikoTiming`. -/
inductive Timing where
  | emc_rc | emc_rfc | emc_rfcpb | emc_ras | emc_rp | emc_r2w | emc_w2r | emc_r2p | emc_w2p
  | emc_trtm | emc_twtm | emc_tratm | emc_twatm | emc_rd_rcd | emc_wr_rcd | emc_rrd | emc_rext
  | emc_refresh | emc_pre_refresh_req_cnt | emc_pdex2wr | emc_pdex2rd | emc_pchg2pden
  | emc_act2pden | emc_ar2pden | emc_rw2pden | emc_cke2pden | emc_pdex2mrr | emc_txsr
  | emc_txsrdll | emc_tcke | emc_tckesr | emc_tpd | emc_tfaw | emc_trpab | emc_tclkstop
  | emc_trefbw | emc_dyn_self_ref_control
  deriving DecidableEq, Repr

def Timing.idx : Timing → Nat
  | .emc_rc => 0 | .emc_rfc => 1 | .emc_rfcpb => 2 | .emc_ras => 5 | .emc_rp => 6 | .emc_r2w => 7
  | .emc_w2r => 8 | .emc_r2p => 9 | .emc_w2p => 10 | .emc_trtm => 13 | .emc_twtm => 14
  | .emc_tratm => 15 | .emc_twatm => 16 | .emc_rd_rcd => 19 | .emc_wr_rcd => 20 | .emc_rrd => 21
  | .emc_rext => 22 | .emc_refresh => 46 | .emc_pre_refresh_req_cnt => 48 | .emc_pdex2wr => 49
  | .emc_pdex2rd => 50 | .emc_pchg2pden => 51 | .emc_act2pden => 52 | .emc_ar2pden => 53
  | .emc_rw2pden => 54 | .emc_cke2pden => 55 | .emc_pdex2mrr => 57 | .emc_txsr => 58
  | .emc_txsrdll => 59 | .emc_tcke => 60 | .emc_tckesr => 61 | .emc_tpd => 62 | .emc_tfaw => 63
  | .emc_trpab => 64 | .emc_tclkstop => 66 | .emc_trefbw => 68 | .emc_dyn_self_ref_control => 156

/-- Fields of `burst_mc_regs`. -/
inductive McReg where
  | mc_emem_arb_cfg | mc_emem_arb_timing_rcd | mc_emem_arb_timing_rp | mc_emem_arb_timing_rc
  | mc_emem_arb_timing_ras | mc_emem_arb_timing_faw | mc_emem_arb_timing_rrd
  | mc_emem_arb_timing_rap2pre | mc_emem_arb_timing_wap2pre | mc_emem_arb_timing_r2r
  | mc_emem_arb_timing_r2w | mc_emem_arb_timing_w2r | mc_emem_arb_timing_rfcpb
  | mc_emem_arb_da_turns | mc_emem_arb_da_covers | mc_emem_arb_misc0
  deriving DecidableEq, Repr

def McReg.idx : McReg → Nat
  | .mc_emem_arb_cfg => 0 | .mc_emem_arb_timing_rcd => 4 | .mc_emem_arb_timing_rp => 5
  | .mc_emem_arb_timing_rc => 6 | .mc_emem_arb_timing_ras => 7 | .mc_emem_arb_timing_faw => 8
  | .mc_emem_arb_timing_rrd => 9 | .mc_emem_arb_timing_rap2pre => 10
  | .mc_emem_arb_timing_wap2pre => 11 | .mc_emem_arb_timing_r2r => 12
  | .mc_emem_arb_timing_r2w => 14 | .mc_emem_arb_timing_w2r => 16
  | .mc_emem_arb_timing_rfcpb => 17 | .mc_emem_arb_da_turns => 18 | .mc_emem_arb_da_covers => 19
  | .mc_emem_arb_misc0 => 20

/-- Fields of `la_scale_regs`. -/
inductive LaReg where
  | mc_mll_mpcorer_ptsa_rate | mc_ptsa_grant_decrement | mc_latency_allowance_xusb_0
  | mc_latency_allowance_xusb_1 | mc_latency_allowance_tsec_0 | mc_latency_allowance_sdmmca_0
  | mc_latency_allowance_sdmmcaa_0 | mc_latency_allowance_sdmmc_0
  | mc_latency_allowance_sdmmcab_0 | mc_latency_allowance_ppcs_1 | mc_latency_allowance_mpcore_0
  | mc_latency_allowance_hc_0 | mc_latency_allowance_hc_1 | mc_latency_allowance_avpc_0
  | mc_latency_allowance_gpu_0 | mc_latency_allowance_gpu2_0 | mc_latency_allowance_nvenc_0
  | mc_latency_allowance_nvdec_0 | mc_latency_allowance_vic_0 | mc_latency_allowance_vi2_0
  | mc_latency_allowance_isp2_1
  deriving DecidableEq, Repr

def LaReg.idx : LaReg → Nat
  | .mc_mll_mpcorer_ptsa_rate => 0 | .mc_ptsa_grant_decrement => 2
  | .mc_latency_allowance_xusb_0 => 3 | .mc_latency_allowance_xusb_1 => 4
  | .mc_latency_allowance_tsec_0 => 5 | .mc_latency_allowance_sdmmca_0 => 6
  | .mc_latency_allowance_sdmmcaa_0 => 7 | .mc_latency_allowance_sdmmc_0 => 8
  | .mc_latency_allowance_sdmmcab_0 => 9 | .mc_latency_allowance_ppcs_1 => 11
  | .mc_latency_allowance_mpcore_0 => 12 | .mc_latency_allowance_hc_0 => 13
  | .mc_latency_allowance_hc_1 => 14 | .mc_latency_allowance_avpc_0 => 15
  | .mc_latency_allowance_gpu_0 => 16 | .mc_latency_allowance_gpu2_0 => 17
  | .mc_latency_allowance_nvenc_0 => 18 | .mc_latency_allowance_nvdec_0 => 19
  | .mc_latency_allowance_vic_0 => 20 | .mc_latency_allowance_vi2_0 => 21
  | .mc_latency_allowance_isp2_1 => 23

/-- A register of the table. -/
inductive Reg where
  | burst_regs (r : Timing)
  | shadow_regs_ca_train (r : Timing)
  | shadow_regs_rdwr_train (r : Timing)
  | burst_mc_regs (r : McReg)
  | la_scale_regs (r : LaReg)
  | dram_timings_t_rp | dram_timings_t_rfc
  | pllm_ss_ctrl1 | pllm_ss_ctrl2 | pllmb_ss_ctrl1 | pllmb_ss_ctrl2
  | pllmb_divm | pllmb_divn | emc_cfg_2
  deriving DecidableEq, Repr

def Reg.off : Reg → Nat
  | .burst_regs r => 73 + r.idx
  | .shadow_regs_ca_train r => 309 + r.idx
  | .shadow_regs_rdwr_train r => 537 + r.idx
  | .burst_mc_regs r => 968 + r.idx
  | .la_scale_regs r => 1001 + r.idx
  | .dram_timings_t_rp => 917 | .dram_timings_t_rfc => 919
  | .pllm_ss_ctrl1 => 1041 | .pllm_ss_ctrl2 => 1042
  | .pllmb_ss_ctrl1 => 1044 | .pllmb_ss_ctrl2 => 1045
  | .pllmb_divm => 1046 | .pllmb_divn => 1047 | .emc_cfg_2 => 1067

theorem off_lt (r : Reg) : r.off < mtcTableWords := by
  have ht : ∀ r : Timing, r.idx < 228 := fun r => by cases r <;> decide
  have hm : ∀ r : McReg, r.idx < 33 := fun r => by cases r <;> decide
  have hl : ∀ r : LaReg, r.idx < 24 := fun r => by cases r <;> decide
  unfold mtcTableWords
  cases r with
  | burst_regs r => have := ht r; simp only [Reg.off]; omega
  | shadow_regs_ca_train r => have := ht r; simp only [Reg.off]; omega
  | shadow_regs_rdwr_train r => have := ht r; simp only [Reg.off]; omega
  | burst_mc_regs r => have := hm r; simp only [Reg.off]; omega
  | la_scale_regs r => have := hl r; simp only [Reg.off]; omega
  | _ => simp only [Reg.off]; omega

/-! Every register, by its offset. -/

def Timing.all : List Timing := (List.range 37).map Timing.ofNat

def McReg.all : List McReg := (List.range 16).map McReg.ofNat

def LaReg.all : List LaReg := (List.range 21).map LaReg.ofNat

def Reg.all : List Reg :=
  Timing.all.map .burst_regs ++ Timing.all.map .shadow_regs_ca_train ++
  Timing.all.map .shadow_regs_rdwr_train ++ [.dram_timings_t_rp, .dram_timings_t_rfc] ++
  McReg.all.map .burst_mc_regs ++ LaReg.all.map .la_scale_regs ++
  [.pllm_ss_ctrl1, .pllm_ss_ctrl2, .pllmb_ss_ctrl1, .pllmb_ss_ctrl2, .pllmb_divm, .pllmb_divn,
    .emc_cfg_2]

theorem Timing.mem_all (r : Timing) : r ∈ Timing.all :=
  List.mem_map.2 ⟨r.ctorIdx, List.mem_range.2 (by cases r <;> decide), Timing.ofNat_ctorIdx r⟩

theorem McReg.mem_all (r : McReg) : r ∈ McReg.all :=
  List.mem_map.2 ⟨r.ctorIdx, List.mem_range.2 (by cases r <;> decide), McReg.ofNat_ctorIdx r⟩

theorem LaReg.mem_all (r : LaReg) : r ∈ LaReg.all :=
  List.mem_map.2 ⟨r.ctorIdx, List.mem_range.2 (by cases r <;> decide), LaReg.ofNat_ctorIdx r⟩

theorem Reg.mem_all (r : Reg) : r ∈ Reg.all := by
  unfold Reg.all
  cases r with
  | burst_regs r => simp [Timing.mem_all r]
  | shadow_regs_ca_train r => simp [Timing.mem_all r]
  | shadow_regs_rdwr_train r => simp [Timing.mem_all r]
  | burst_mc_regs r => simp [McReg.mem_all r]
  | la_scale_regs r => simp [LaReg.mem_all r]
  | _ => simp

theorem off_injective : Function.Injective Reg.off :=
  injective_of_isChain Reg.mem_all (by decide +kernel)

end Mariko

namespace Erista

/-! ## Erista -/

/-- Words in an `EristaMtcTable` (0x1340 bytes). -/
def mtcTableWords : Nat := 1232

/-- Fields of `EristaTiming`. -/
inductive Timing where
  | emc_rc | emc_rfc | emc_rfcpb | emc_ras | emc_rp | emc_r2w | emc_w2r | emc_r2p | emc_w2p
  | emc_rd_rcd | emc_wr_rcd | emc_rrd | emc_refresh | emc_pre_refresh_req_cnt | emc_pdex2wr
  | emc_pdex2rd | emc_pchg2pden | emc_act2pden | emc_ar2pden | emc_rw2pden | emc_cke2pden
  | emc_pdex2cke | emc_pdex2mrr | emc_txsr | emc_txsrdll | emc_tcke | emc_tckesr | emc_tpd
  | emc_tfaw | emc_trpab | emc_tclkstable | emc_tclkstop | emc_trefbw
  deriving DecidableEq, Repr

def Timing.idx : Timing → Nat
  | .emc_rc => 0 | .emc_rfc => 1 | .emc_rfcpb => 2 | .emc_ras => 5 | .emc_rp => 6 | .emc_r2w => 7
  | .emc_w2r => 8 | .emc_r2p => 9 | .emc_w2p => 10 | .emc_rd_rcd => 14 | .emc_wr_rcd => 15
  | .emc_rrd => 16 | .emc_refresh => 41 | .emc_pre_refresh_req_cnt => 43 | .emc_pdex2wr => 44
  | .emc_pdex2rd => 45 | .emc_pchg2pden => 46 | .emc_act2pden => 47 | .emc_ar2pden => 48
  | .emc_rw2pden => 49 | .emc_cke2pden => 50 | .emc_pdex2cke => 51 | .emc_pdex2mrr => 52
  | .emc_txsr => 53 | .emc_txsrdll => 54 | .emc_tcke => 55 | .emc_tckesr => 56 | .emc_tpd => 57
  | .emc_tfaw => 58 | .emc_trpab => 59 | .emc_tclkstable => 60 | .emc_tclkstop => 61
  | .emc_trefbw => 63

/-- Fields of `burst_mc_regs`. -/
inductive McReg where
  | mc_emem_arb_timing_rcd | mc_emem_arb_timing_rp | mc_emem_arb_timing_rc
  | mc_emem_arb_timing_ras | mc_emem_arb_timing_faw | mc_emem_arb_timing_rrd
  | mc_emem_arb_timing_rap2pre | mc_emem_arb_timing_wap2pre | mc_emem_arb_timing_r2w
  | mc_emem_arb_timing_w2r | mc_emem_arb_timing_rfcpb | mc_emem_arb_da_turns
  | mc_emem_arb_da_covers
  deriving DecidableEq, Repr

def McReg.idx : McReg → Nat
  | .mc_emem_arb_timing_rcd => 4 | .mc_emem_arb_timing_rp => 5 | .mc_emem_arb_timing_rc => 6
  | .mc_emem_arb_timing_ras => 7 | .mc_emem_arb_timing_faw => 8 | .mc_emem_arb_timing_rrd => 9
  | .mc_emem_arb_timing_rap2pre => 10 | .mc_emem_arb_timing_wap2pre => 11
  | .mc_emem_arb_timing_r2w => 14 | .mc_emem_arb_timing_w2r => 16
  | .mc_emem_arb_timing_rfcpb => 17 | .mc_emem_arb_da_turns => 18 | .mc_emem_arb_da_covers => 19

/-- A register of the table. -/
inductive Reg where
  | burst_regs (r : Timing)
  | shadow_regs_ca_train (r : Timing)
  | shadow_regs_quse_train (r : Timing)
  | shadow_regs_rdwr_train (r : Timing)
  | burst_mc_regs (r : McReg)
  deriving DecidableEq, Repr

def Reg.off : Reg → Nat
  | .burst_regs r => 71 + r.idx
  | .shadow_regs_ca_train r => 300 + r.idx
  | .shadow_regs_quse_train r => 521 + r.idx
  | .shadow_regs_rdwr_train r => 742 + r.idx
  | .burst_mc_regs r => 1152 + r.idx

theorem off_lt (r : Reg) : r.off < mtcTableWords := by
  have ht : ∀ r : Timing, r.idx < 221 := fun r => by cases r <;> decide
  have hm : ∀ r : McReg, r.idx < 33 := fun r => by cases r <;> decide
  unfold mtcTableWords
  cases r with
  | burst_regs r => have := ht r; simp only [Reg.off]; omega
  | shadow_regs_ca_train r => have := ht r; simp only [Reg.off]; omega
  | shadow_regs_quse_train r => have := ht r; simp only [Reg.off]; omega
  | shadow_regs_rdwr_train r => have := ht r; simp only [Reg.off]; omega
  | burst_mc_regs r => have := hm r; simp only [Reg.off]; omega

/-! Every register, by its offset. -/

def Timing.all : List Timing := (List.range 33).map Timing.ofNat

def McReg.all : List McReg := (List.range 13).map McReg.ofNat

def Reg.all : List Reg :=
  Timing.all.map .burst_regs ++ Timing.all.map .shadow_regs_ca_train ++
  Timing.all.map .shadow_regs_quse_train ++ Timing.all.map .shadow_regs_rdwr_train ++
  McReg.all.map .burst_mc_regs

theorem Timing.mem_all (r : Timing) : r ∈ Timing.all :=
  List.mem_map.2 ⟨r.ctorIdx, List.mem_range.2 (by cases r <;> decide), Timing.ofNat_ctorIdx r⟩

theorem McReg.mem_all (r : McReg) : r ∈ McReg.all :=
  List.mem_map.2 ⟨r.ctorIdx, List.mem_range.2 (by cases r <;> decide), McReg.ofNat_ctorIdx r⟩

theorem Reg.mem_all (r : Reg) : r ∈ Reg.all := by
  unfold Reg.all
  cases r with
  | burst_regs r => simp [Timing.mem_all r]
  | shadow_regs_ca_train r => simp [Timing.mem_all r]
  | shadow_regs_quse_train r => simp [Timing.mem_all r]
  | shadow_regs_rdwr_train r => simp [Timing.mem_all r]
  | burst_mc_regs r => simp [McReg.mem_all r]

theorem off_injective : Function.Injective Reg.off :=
  injective_of_isChain Reg.mem_all (by decide +kernel)

end Erista

end SwitchOc
