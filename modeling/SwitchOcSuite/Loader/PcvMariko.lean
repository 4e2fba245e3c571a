import Mathlib.Tactic.Common
import SwitchOcSuite.Loader.Pcv
import SwitchOcSuite.Loader.Timing

/-!
# Mariko patches (`pcv_mariko.cpp`)

As on Erista, plus the CPU rail and DFLL data, the DVB table and the regulator of
EMC Vddq, whose value is also sent over I2C.  Three of the MTC table's register
groups are adjusted relative to what the table held before.
-/

namespace SwitchOc.Mariko

open Traced

def cpuMinVolts : List UInt32 := [800, 637, 620, 610]

def cpuVoltOfficial : UInt32 := 1120

def emcClkOSAlt : UInt32 := 1331200

def emcClkPllmLimit : UInt32 := 2133000000

def emcVddqDefault : UInt32 := 600000

def memVdd2Default : UInt32 := 1100000

def mtcTableRev : UInt32 := 3

/-! ## CPU and GPU -/

/-- `ptr` is the `freq` of a `dvfs_rail`, its word 6. -/
def cpuFreqVdd (C : CustomizeTable) (ptr : Int) : Patch Unit := do
  let entry := ptr - 6
  expectWord entry 1 .invalidCpuFreqVddEntry
  expectWord (entry + 16) 250000 .invalidCpuFreqVddEntry
  expectWord (entry + 17) 5000 .invalidCpuFreqVddEntry
  expectWord (entry + 18) 1525000 .invalidCpuFreqVddEntry
  let freq ← lastFreq
    (if C.marikoCpuUV ≠ 0 then C.marikoCpuDvfsTableSLT else C.marikoCpuDvfsTable).view
  store ptr (lowWord freq)

/-- `if (*w == 620) *w = 600`. -/
def patchVmin (w : Int) : Patch Unit := do
  let v ← load w
  if v = 620 then store w 600 else pure ()

def cpuVoltRange (C : CustomizeTable) (ptr : Int) : Patch Unit := do
  let minVoltGot ← load (ptr - 1)
  if minVoltGot ∈ cpuMinVolts then
    if C.marikoCpuMaxVolt = 0 then pure () -- R_SKIP
    else do
      store ptr C.marikoCpuMaxVolt
      -- Patch vmin for slt
      if C.marikoCpuUV ≠ 0 then do
        patchVmin (ptr - 5)
        patchVmin (ptr - 1)
      else pure ()
  else throwResult .invalidCpuMinVolt

/-- The `tune0_low` of the process id, if it has one. -/
def patchTune0Low (C : CustomizeTable) (ptr : Int) : Patch Unit :=
  if C.marikoCpuUV = 1 then store ptr 0x0000FF90 -- process_id 0
  else if C.marikoCpuUV = 2 then store ptr 0x0000FFA0 -- process_id 1
  else pure ()

def cpuVoltDfll (C : CustomizeTable) (ptr : Int) : Patch Unit := do
  expectWord ptr 0x0000FFCF .invalidCpuVoltDfllEntry
  expectWord (ptr + 1) 0x00000000 .invalidCpuVoltDfllEntry
  expectWord (ptr + 2) 0x012207FF .invalidCpuVoltDfllEntry
  expectWord (ptr + 3) 0x03FFF7FF .invalidCpuVoltDfllEntry
  if C.marikoCpuUV ≠ 0 then do
    patchTune0Low C ptr
    store (ptr + 1) 0x0000FFFF
    store (ptr + 2) 0x021107FF
    store (ptr + 3) 0x00000000
  else pure ()

def gpuFreqMaxAsm (C : CustomizeTable) (ptr : Int) : Patch Unit :=
  gpuFreqMaxAsmOf (lastFreq (switchUV C.marikoGpuUV C.marikoGpuDvfsTable C.marikoGpuDvfsTableSLT
    C.marikoGpuDvfsTableHiOPT C.marikoGpuDvfsTable).view) ptr

/-! ## MTC table -/

def getReg (table : Int) (r : Reg) : Patch UInt32 := load (table + r.off)

def setReg (table : Int) (r : Reg) (v : UInt32) : Patch Unit := store (table + r.off) v

def modifyReg (table : Int) (r : Reg) (f : UInt32 → UInt32) : Patch Unit :=
  modify (table + r.off) f

/-- `WRITE_PARAM_ALL_REG`. -/
def writeParamAllReg (table : Int) (r : Timing) (v : UInt32) : Patch Unit := do
  setReg table (.burst_regs r) v
  setReg table (.shadow_regs_ca_train r) v
  setReg table (.shadow_regs_rdwr_train r) v

/-- `CLEAR_BIT(BITS, high, low)`. -/
def clearBit (bits : UInt32) (high low : UInt32) : UInt32 :=
  bits &&& ~~~(((1 <<< high) <<< 1) - (1 <<< low))

/-- `u8(x)` as it enters a `u32`. -/
def u8 (x : UInt32) : UInt32 := x.toUInt8.toUInt32

section

variable (C : CustomizeTable)

def cycles (param : ℚ) : UInt32 := getCycleCeil (tCKavg C) param

/-- `ADJUST_PROP`: linear interpolation between the 1331200 and 1600000 tables. -/
def adjustProp (target ref : UInt32) : UInt32 :=
  ref + ((C.marikoEmcMaxClock - emcClkOSAlt) * (target - ref)) / (emcClkOSLimit - emcClkOSAlt)

/-- `ADJUST`. -/
def adjust (target : UInt32) : UInt32 := target * (C.marikoEmcMaxClock / emcClkOSLimit)

/-- `ADJUST_INVERSE`. -/
def adjustInverse (target : UInt32) : UInt32 :=
  target * (emcClkOSLimit / 1000) / (C.marikoEmcMaxClock / 1000)

def autoAdjustTiming : List (Timing × UInt32) :=
  [(.emc_rc, cycles C (dbl (tRC C))), (.emc_rfc, cycles C (dbl (tRFCab C))),
   (.emc_rfcpb, cycles C (dbl (tRFCpb C))), (.emc_ras, cycles C (dbl (tRAS C))),
   (.emc_rp, cycles C (dbl (tRPpb C))), (.emc_r2w, R2W C), (.emc_w2r, W2R C),
   (.emc_r2p, cycles C (tRTP C)), (.emc_w2p, WTP C), (.emc_trtm, RTM C), (.emc_twtm, WTM C),
   (.emc_tratm, RATM C), (.emc_twatm, WATM C), (.emc_rd_rcd, cycles C (dbl (tRCD C))),
   (.emc_wr_rcd, cycles C (dbl (tRCD C))), (.emc_rrd, cycles C (tRRD C)), (.emc_rext, 26),
   (.emc_refresh, REFRESH C), (.emc_pre_refresh_req_cnt, REFRESH C / 4),
   (.emc_pdex2wr, cycles C tXP), (.emc_pdex2rd, cycles C tXP),
   (.emc_pchg2pden, cycles C tCMDCKE), (.emc_act2pden, cycles C (dbl tMRWCKEL)),
   (.emc_ar2pden, cycles C tCMDCKE), (.emc_rw2pden, WTPDEN C), (.emc_cke2pden, cycles C tCKELCS),
   (.emc_pdex2mrr, cycles C (tPDEX2MRR C (tCKavg C))),
   (.emc_txsr, min (cycles C (tXSR C)) 0x3fe), (.emc_txsrdll, min (cycles C (tXSR C)) 0x3fe),
   (.emc_tcke, cycles C tCKE + 1), (.emc_tckesr, cycles C (dbl tSR)), (.emc_tpd, cycles C tCKE),
   (.emc_tfaw, cycles C (dbl (tFAW C))), (.emc_trpab, cycles C (dbl (tRPab C))),
   (.emc_tclkstop, cycles C tCKE + 8), (.emc_trefbw, REFBW C)]

/-- The arbiter registers up to `mc_emem_arb_timing_wap2pre`. -/
def autoAdjustArb : List (McReg × UInt32) :=
  [(.mc_emem_arb_cfg, u32 (dbl C.marikoEmcMaxClock / (33.3 * 1000) / dbl mcArbDiv)),
   (.mc_emem_arb_timing_rcd, arb (cycles C (dbl (tRCD C))) (-2)),
   (.mc_emem_arb_timing_rp, arb (cycles C (dbl (tRPpb C))) (-1 + dbl mcArbSfa)),
   (.mc_emem_arb_timing_rc, arb (cycles C (dbl (tRC C))) (-1)),
   (.mc_emem_arb_timing_ras, arb (cycles C (dbl (tRAS C))) (-2)),
   (.mc_emem_arb_timing_faw, arb (cycles C (dbl (tFAW C))) (-1)),
   (.mc_emem_arb_timing_rrd, arb (cycles C (tRRD C)) (-1)),
   (.mc_emem_arb_timing_rap2pre, arb (cycles C (tRTP C)) 0),
   (.mc_emem_arb_timing_wap2pre, arb (WTP C) 0)]

/-- The arbiter registers after `mc_emem_arb_timing_r2r`. -/
def autoAdjustArbTurn : List (McReg × UInt32) :=
  [(.mc_emem_arb_timing_r2w, arb (R2W C) (-1 + dbl mcArbSfa)),
   (.mc_emem_arb_timing_w2r, arb (W2R C) (-1 + dbl mcArbSfa)),
   (.mc_emem_arb_timing_rfcpb, arb (cycles C (dbl (tRFCpb C))) 0)]

/-- `DA_TURNS` and `DA_COVERS` from the arbiter timings now in the table. -/
def writeTurnsAndCovers (table : Int) : Patch Unit := do
  let r2w ← getReg table (.burst_mc_regs .mc_emem_arb_timing_r2w)
  let w2r ← getReg table (.burst_mc_regs .mc_emem_arb_timing_w2r)
  setReg table (.burst_mc_regs .mc_emem_arb_da_turns)
    (u8 (r2w / 2) <<< 16 ||| u8 (w2r / 2) <<< 24)
  let rap2pre ← getReg table (.burst_mc_regs .mc_emem_arb_timing_rap2pre)
  let rp ← getReg table (.burst_mc_regs .mc_emem_arb_timing_rp)
  let rcd ← getReg table (.burst_mc_regs .mc_emem_arb_timing_rcd)
  let wap2pre ← getReg table (.burst_mc_regs .mc_emem_arb_timing_wap2pre)
  let rc ← getReg table (.burst_mc_regs .mc_emem_arb_timing_rc)
  let rCover := u8 ((rap2pre + rp + rcd) / 2)
  let wCover := u8 ((wap2pre + rp + rcd) / 2)
  setReg table (.burst_mc_regs .mc_emem_arb_da_covers)
    (u8 (rc / 2) ||| rCover <<< 8 ||| wCover <<< 16)

/-- `ADJUST_PARAM_LA_SCALE_REG_HI`. -/
def laScaleHi (value : UInt32) (reg : UInt32) : UInt32 := clearBit reg 23 16 ||| value <<< 16

/-- `ADJUST_PARAM_LA_SCALE_REG_LO`. -/
def laScaleLo (value : UInt32) (reg : UInt32) : UInt32 := clearBit reg 7 0 ||| value

def LA : UInt32 := u8 (adjustInverse C 128)

/-- The updates of `la_scale_regs`, in order. -/
def laScaleUpdates : List (LaReg × (UInt32 → UInt32)) :=
  [(.mc_mll_mpcorer_ptsa_rate, adjust C), (.mc_ptsa_grant_decrement, adjust C)] ++
  [LaReg.mc_latency_allowance_xusb_0, .mc_latency_allowance_xusb_1,
    .mc_latency_allowance_tsec_0, .mc_latency_allowance_sdmmca_0,
    .mc_latency_allowance_sdmmcaa_0, .mc_latency_allowance_sdmmc_0,
    .mc_latency_allowance_sdmmcab_0, .mc_latency_allowance_sdmmc_0,
    .mc_latency_allowance_sdmmcab_0, .mc_latency_allowance_ppcs_1,
    .mc_latency_allowance_mpcore_0, .mc_latency_allowance_avpc_0, .mc_latency_allowance_gpu_0,
    .mc_latency_allowance_gpu2_0, .mc_latency_allowance_nvenc_0,
    .mc_latency_allowance_nvdec_0, .mc_latency_allowance_vic_0,
    .mc_latency_allowance_isp2_1].map (fun r => (r, laScaleHi (LA C))) ++
  [(.mc_latency_allowance_hc_0, laScaleLo (adjustInverse C 0x16)),
   (.mc_latency_allowance_hc_1, laScaleLo (LA C)),
   (.mc_latency_allowance_gpu_0, laScaleLo (adjustInverse C 0x19)),
   (.mc_latency_allowance_gpu2_0, laScaleLo (adjustInverse C 0x19)),
   (.mc_latency_allowance_vic_0, laScaleLo (adjustInverse C 0x1d)),
   (.mc_latency_allowance_vi2_0, laScaleLo (LA C)),
   (.mc_latency_allowance_isp2_1, laScaleLo (LA C))]

/-- `mc_emem_arb_misc0`; the two thresholds lose all their bits to `u8(… << 8)`. -/
def misc0 (rc reg : UInt32) : UInt32 :=
  let reg := clearBit reg 7 0 ||| u8 (rc + 1)
  let reg := clearBit reg 14 8 ||| u8 (adjust C 0x24 <<< 8)
  clearBit reg 20 16 ||| u8 (adjust C 12 <<< 16)

def adjustDynSelfRef (table ref : Int) (field : Timing → Reg) : Patch Unit := do
  let target ← getReg table (field .emc_dyn_self_ref_control)
  let refVal ← getReg ref (field .emc_dyn_self_ref_control)
  setReg table (field .emc_dyn_self_ref_control) (adjustProp C target refVal)

def memMtcTableAutoAdjust (table ref : Int) : Patch Unit :=
  if C.mtcConf ≠ 0 then pure ()
  else do
    Prog.forEach (autoAdjustTiming C) fun p => writeParamAllReg table p.1 p.2
    Prog.forEach [Reg.burst_regs, .shadow_regs_ca_train, .shadow_regs_rdwr_train]
      (adjustDynSelfRef C table ref)
    -- Burst MC Regs
    Prog.forEach (autoAdjustArb C) fun p => setReg table (.burst_mc_regs p.1) p.2
    let rext ← getReg table (.burst_regs .emc_rext)
    setReg table (.burst_mc_regs .mc_emem_arb_timing_r2r) (arb rext (-1 + dbl mcArbSfa))
    Prog.forEach (autoAdjustArbTurn C) fun p => setReg table (.burst_mc_regs p.1) p.2
    writeTurnsAndCovers table
    let rc ← getReg table (.burst_mc_regs .mc_emem_arb_timing_rc)
    modifyReg table (.burst_mc_regs .mc_emem_arb_misc0) (misc0 C rc)
    -- updown registers
    Prog.forEach (laScaleUpdates C) fun p => modifyReg table (.la_scale_regs p.1) p.2
    -- Spread Spectrum Control
    Prog.forEach [(Reg.pllm_ss_ctrl1, 0x0b55fe01), (.pllm_ss_ctrl2, 0x10170b55),
      (.pllmb_ss_ctrl1, 0x0b55fe01), (.pllmb_ss_ctrl2, 0x10170b55),
      (.dram_timings_t_rp, tRPpb C), (.dram_timings_t_rfc, tRFCab C),
      (.emc_cfg_2, 0x0011083d)] fun p => setReg table p.1 p.2

/-- What each preset that is set rewrites, in order. -/
def customAdjustTiming : List (UInt32 × List (Timing × UInt32) × List (McReg × UInt32)) :=
  [(C.ramTimingPresetOne,
    [(.emc_rc, cycles C (dbl (tRC C))), (.emc_ras, cycles C (dbl (tRAS C))),
     (.emc_rp, cycles C (dbl (tRPpb C))), (.emc_trpab, cycles C (dbl (tRPab C))),
     (.emc_rd_rcd, cycles C (dbl (tRCD C))), (.emc_wr_rcd, cycles C (dbl (tRCD C))),
     (.emc_pdex2mrr, cycles C (tPDEX2MRR C (tCKavg C)))],
    [(.mc_emem_arb_timing_rcd, arb (cycles C (dbl (tRCD C))) (-2)),
     (.mc_emem_arb_timing_rc, arb (cycles C (dbl (tRC C))) (-1)),
     (.mc_emem_arb_timing_rp, arb (cycles C (dbl (tRPpb C))) (-1 + dbl mcArbSfa)),
     (.mc_emem_arb_timing_ras, arb (cycles C (dbl (tRAS C))) (-2))]),
   (C.ramTimingPresetTwo,
    [(.emc_tfaw, cycles C (dbl (tFAW C))), (.emc_rrd, cycles C (tRRD C))],
    [(.mc_emem_arb_timing_faw, arb (cycles C (dbl (tFAW C))) (-1)),
     (.mc_emem_arb_timing_rrd, arb (cycles C (tRRD C)) (-1))]),
   (C.ramTimingPresetThree,
    [(.emc_r2p, cycles C (tRTP C)), (.emc_w2p, WTP C), (.emc_tratm, RATM C),
     (.emc_twatm, WATM C), (.emc_rw2pden, WTPDEN C)],
    [(.mc_emem_arb_timing_rap2pre, arb (cycles C (tRTP C)) 0),
     (.mc_emem_arb_timing_wap2pre, arb (WTP C) 0)]),
   (C.ramTimingPresetFour,
    [(.emc_rfc, cycles C (dbl (tRFCab C))), (.emc_rfcpb, cycles C (dbl (tRFCpb C))),
     (.emc_txsr, min (cycles C (tXSR C)) 0x3fe), (.emc_txsrdll, min (cycles C (tXSR C)) 0x3fe)],
    [(.mc_emem_arb_timing_rfcpb, arb (cycles C (dbl (tRFCpb C))) 0)]),
   (C.ramTimingPresetFive, [(.emc_w2r, W2R C)],
    [(.mc_emem_arb_timing_w2r, arb (W2R C) (-1 + dbl mcArbSfa))]),
   (C.ramTimingPresetSix,
    [(.emc_refresh, REFRESH C), (.emc_pre_refresh_req_cnt, REFRESH C / 4),
     (.emc_trefbw, REFBW C)], []),
   (C.ramTimingPresetSeven,
    [(.emc_r2w, R2W C), (.emc_w2r, W2R C), (.emc_w2p, WTP C), (.emc_trtm, RTM C),
     (.emc_twtm, WTM C), (.emc_tratm, RATM C), (.emc_twatm, WATM C), (.emc_rw2pden, WTPDEN C)],
    [(.mc_emem_arb_timing_wap2pre, arb (WTP C) 0),
     (.mc_emem_arb_timing_r2w, arb (R2W C) (-1 + dbl mcArbSfa)),
     (.mc_emem_arb_timing_w2r, arb (W2R C) (-1 + dbl mcArbSfa))])]

def memMtcTableCustomAdjust (table : Int) : Patch Unit :=
  if C.mtcConf ≠ 1 then pure ()
  else do
    Prog.forEach (customAdjustTiming C) fun p =>
      if p.1 ≠ 0 then do
        Prog.forEach p.2.1 fun q => writeParamAllReg table q.1 q.2
        Prog.forEach p.2.2 fun q => setReg table (.burst_mc_regs q.1) q.2
      else pure ()
    writeTurnsAndCovers table

/-! ## PLLMB -/

def pllOscIn : UInt32 := 38400

/-- `div[]`: numerator and denominator. -/
def pllmbDiv : List (UInt32 × UInt32) := [(3, 4), (2, 3), (1, 2), (1, 3), (1, 4), (0, 2)]

/-- `divm` and `divn`. -/
def pllmbDivisor : UInt32 × UInt32 :=
  let remainder := C.marikoEmcMaxClock % pllOscIn
  -- Round down
  match pllmbDiv.find? fun d => pllOscIn * d.1 / d.2 ≤ remainder with
  | some d => (d.2, C.marikoEmcMaxClock / pllOscIn * d.2 + d.1)
  | none => (0, 0)

def memMtcPllmbDivisor (table : Int) : Patch Unit := do
  setReg table .pllmb_divm (pllmbDivisor C).1
  setReg table .pllmb_divn (pllmbDivisor C).2

end

/-! ## Memory -/

def khzList : List UInt32 := [1600000, 1331200, 204000]

/-- `table_list[i]`. -/
abbrev tableList (ptr : Int) (i : Nat) : Int := mtcTable mtcTableWords ptr i

def memFreqMtcTable (C : CustomizeTable) (ptr : Int) : Patch Unit := do
  Prog.forEach khzList.zipIdx fun p => checkMtcTable (tableList ptr p.2) p.1 mtcTableRev
  if C.marikoEmcMaxClock ≤ emcClkOSLimit then pure () -- R_SKIP
  else do
    let tableAlt := tableList ptr 1
    let tableMax := tableList ptr 0
    -- Copy unmodified 1600000 table to tmp
    let tmp ← loadBlock tableMax mtcTableWords
    memMtcTableAutoAdjust C tableMax tableAlt
    memMtcTableCustomAdjust C tableMax
    memMtcPllmbDivisor C tableMax
    storeBlock tableAlt tmp
    store ptr C.marikoEmcMaxClock

/-- Words in an `emc_dvb_dvfs_table_t`: a `u64` and four `s32`. -/
def dvbWords : Nat := 6

def dvbEntry (freq : UInt32) (volt : List Int32) : List UInt32 :=
  [freq, 0, (volt.getD 0 0).toUInt32, (volt.getD 1 0).toUInt32, (volt.getD 2 0).toUInt32,
    (volt.getD 3 0).toUInt32]

def emcDvbTableDefault : List UInt32 :=
  dvbEntry 204000 [637, 637, 637] ++ dvbEntry 408000 [637, 637, 637] ++
  dvbEntry 800000 [637, 637, 637] ++ dvbEntry 1065600 [637, 637, 637] ++
  dvbEntry 1331200 [650, 637, 637] ++ dvbEntry 1600000 [675, 650, 637]

/-- `DVB_VOLT`. -/
def dvbVolt (C : CustomizeTable) (zero one two : Int32) : List Int32 :=
  let voltAdd := (25 * C.marikoEmcDvbShift).toInt32
  [min (zero + voltAdd) 1050, min (one + voltAdd) 1025, min (two + voltAdd) 1000]

/-- The entry appended for the EMC clock; `none` repeats the last default one. -/
def dvbOcTable (C : CustomizeTable) : Option (List UInt32) :=
  let emc := C.marikoEmcMaxClock
  if emc < 1862400 then none
  else if emc < 2131200 then some (dvbEntry 1862400 [700, 675, 650])
  else if emc < 2400000 then some (dvbEntry 2131200 [725, 700, 675])
  else if emc < 2665600 then some (dvbEntry 2400000 (dvbVolt C 750 725 700))
  else if emc < 2931200 then some (dvbEntry 2665600 (dvbVolt C 775 750 725))
  else if emc < 3200000 then some (dvbEntry 2931200 (dvbVolt C 800 775 750))
  else some (dvbEntry 3200000 (dvbVolt C 800 800 775))

def writeDvbEntry (C : CustomizeTable) (defaultEnd newStart : Int) : Patch Unit :=
  match dvbOcTable C with
  | none => do
    let entry ← loadBlock defaultEnd dvbWords
    storeBlock newStart entry
  | some ocTable => storeBlock newStart ocTable

def memFreqDvbTable (C : CustomizeTable) (ptr : Int) : Patch Unit := do
  let defaultEnd := ptr
  let newStart := defaultEnd + dvbWords
  -- Validate existing table
  let existing ← loadBlock (newStart - emcDvbTableDefault.length) emcDvbTableDefault.length
  Prog.require (existing = emcDvbTableDefault) (.result .invalidDvbTable)
  if C.marikoEmcMaxClock ≤ emcClkOSLimit then pure () -- R_SKIP
  else do
    writeDvbEntry C defaultEnd newStart
    store newStart C.marikoEmcMaxClock
    store (newStart + 1) 0

def memFreqMax (C : CustomizeTable) (ptr : Int) : Patch Unit :=
  if C.marikoEmcMaxClock ≤ emcClkOSLimit then pure () -- R_SKIP
  else store ptr C.marikoEmcMaxClock

/-- `I2cSet_U8(I2cDevice_Max77812_2, reg, val)`; its result is not looked at. -/
def i2cSetU8 (reg val : UInt8) : Patch Unit :=
  command fun d => if d.opens then { d with pmic := Function.update d.pmic reg val } else d

/-- `ptr` is the `default_uv` of a type 2 or 3 regulator, its word 11. -/
def emcVddqVolt (C : CustomizeTable) (ptr : Int) : Patch Unit := do
  let entry := ptr - 11
  let id ← load64 entry
  Prog.require (id = 2) (.result .invalidRegulatorEntry)
  expectWord (entry + 4) 3 .invalidRegulatorEntry
  expectWord (entry + 6) 5000 .invalidRegulatorEntry
  expectWord (entry + 8) 250000 .invalidRegulatorEntry
  let emcUv := C.marikoEmcVddqVolt
  if emcUv = 0 then pure () -- R_SKIP
  else do
    let emcUv := if emcUv % 5000 ≠ 0 then (emcUv + 5000 - 1) / 5000 * 5000 else emcUv -- rounding
    store ptr emcUv
    i2cSetU8 0x25 ((emcUv - 250000) / 5000).toUInt8

end SwitchOc.Mariko
