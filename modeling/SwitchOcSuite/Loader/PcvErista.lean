import Mathlib.Tactic.Common
import SwitchOcSuite.Loader.Pcv
import SwitchOcSuite.Loader.Timing

/-!
# Erista patches (`pcv_erista.cpp`)

The timing adjustment writes the registers of one MTC table, each to a value that
depends on the customize table only.
-/

namespace SwitchOc.Erista

open Traced

def cpuMinVolts : List UInt32 := [950, 850, 825, 810]

def cpuMaxVoltPatternFn (val : UInt32) : Bool := val == 1132 || val == 1170 || val == 1227

def gpuClkPllLimit : UInt32 := 921600000

def memVoltHOS : UInt32 := 1125000

def emcClkPllmLimit : UInt32 := 1866000000

def mtcTableRev : UInt32 := 7

def cpuVoltRange (C : CustomizeTable) (ptr : Int) : Patch Unit := do
  let minVoltGot ← load (ptr - 1)
  if minVoltGot ∈ cpuMinVolts then
    if C.eristaCpuMaxVolt = 0 then pure () -- R_SKIP
    else store ptr C.eristaCpuMaxVolt
  else throwResult .invalidCpuMinVolt

def gpuFreqMaxAsm (C : CustomizeTable) (ptr : Int) : Patch Unit :=
  gpuFreqMaxAsmOf (lastFreq C.eristaGpuDvfsTable.view) ptr

/-! ## MTC table -/

def getReg (table : Int) (r : Reg) : Patch UInt32 := load (table + r.off)

def setReg (table : Int) (r : Reg) (v : UInt32) : Patch Unit := store (table + r.off) v

/-- `WRITE_PARAM_ALL_REG`. -/
def writeParamAllReg (table : Int) (r : Timing) (v : UInt32) : Patch Unit := do
  setReg table (.burst_regs r) v
  setReg table (.shadow_regs_ca_train r) v
  setReg table (.shadow_regs_quse_train r) v
  setReg table (.shadow_regs_rdwr_train r) v

section

variable (C : CustomizeTable)

def cycles (param : ℚ) : UInt32 := getCycleCeil (tCKavg C) param

def autoAdjustTiming : List (Timing × UInt32) :=
  [(.emc_rc, cycles C (dbl (tRC C))), (.emc_rfc, cycles C (dbl (tRFCab C))),
   (.emc_rfcpb, cycles C (dbl (tRFCpb C))), (.emc_ras, cycles C (dbl (tRAS C))),
   (.emc_rp, cycles C (dbl (tRPpb C))), (.emc_r2w, R2W C), (.emc_w2r, W2R C),
   (.emc_r2p, cycles C (tRTP C)), (.emc_w2p, WTP C), (.emc_rd_rcd, cycles C (dbl (tRCD C))),
   (.emc_wr_rcd, cycles C (dbl (tRCD C))), (.emc_rrd, cycles C (tRRD C)),
   (.emc_refresh, REFRESH C), (.emc_pre_refresh_req_cnt, REFRESH C / 4),
   (.emc_pdex2wr, cycles C tXP), (.emc_pdex2rd, cycles C tXP),
   (.emc_pchg2pden, cycles C tCMDCKE), (.emc_act2pden, cycles C (dbl tMRWCKEL)),
   (.emc_ar2pden, cycles C tCMDCKE), (.emc_rw2pden, WTPDEN C), (.emc_cke2pden, cycles C tCKELCS),
   (.emc_pdex2cke, cycles C tCSCKEH), (.emc_pdex2mrr, cycles C (tPDEX2MRR C (tCKavg C))),
   (.emc_txsr, min (cycles C (tXSR C)) 0x3fe), (.emc_txsrdll, min (cycles C (tXSR C)) 0x3fe),
   (.emc_tcke, cycles C tCKE), (.emc_tckesr, cycles C (dbl tSR)), (.emc_tpd, cycles C tCKE),
   (.emc_tfaw, cycles C (dbl (tFAW C))), (.emc_trpab, cycles C (dbl (tRPab C))),
   (.emc_tclkstable, cycles C tCKCKEH), (.emc_tclkstop, cycles C tCKE + 8),
   (.emc_trefbw, REFBW C)]

def autoAdjustArb : List (McReg × UInt32) :=
  [(.mc_emem_arb_timing_rcd, arb (cycles C (dbl (tRCD C))) (-2)),
   (.mc_emem_arb_timing_rp, arb (cycles C (dbl (tRPpb C))) (-1 + dbl mcArbSfa)),
   (.mc_emem_arb_timing_rc, arb (cycles C (dbl (tRC C))) (-1)),
   (.mc_emem_arb_timing_ras, arb (cycles C (dbl (tRAS C))) (-2)),
   (.mc_emem_arb_timing_faw, arb (cycles C (dbl (tFAW C))) (-1)),
   (.mc_emem_arb_timing_rrd, arb (cycles C (tRRD C)) (-1)),
   (.mc_emem_arb_timing_rap2pre, arb (cycles C (tRTP C)) 0),
   (.mc_emem_arb_timing_wap2pre, arb (WTP C) 0),
   (.mc_emem_arb_timing_r2w, arb (R2W C) (-1 + dbl mcArbSfa)),
   (.mc_emem_arb_timing_w2r, arb (W2R C) (-1 + dbl mcArbSfa)),
   (.mc_emem_arb_timing_rfcpb, arb (cycles C (dbl (tRFCpb C))) 0)]

def memMtcTableAutoAdjust (table : Int) : Patch Unit :=
  if C.mtcConf ≠ 0 then pure ()
  else do
    Prog.forEach (autoAdjustTiming C) fun p => writeParamAllReg table p.1 p.2
    Prog.forEach (autoAdjustArb C) fun p => setReg table (.burst_mc_regs p.1) p.2

/-- What each preset that is set rewrites, in order.  In the first group the subtraction is
inside `CEIL`, so it is one of `u32`. -/
def customAdjustTiming : List (UInt32 × List (Timing × UInt32) × List (McReg × UInt32)) :=
  [(C.ramTimingPresetOne,
    [(.emc_rc, cycles C (dbl (tRC C))), (.emc_ras, cycles C (dbl (tRAS C))),
     (.emc_rp, cycles C (dbl (tRPpb C))), (.emc_trpab, cycles C (dbl (tRPab C))),
     (.emc_rd_rcd, cycles C (dbl (tRCD C))), (.emc_wr_rcd, cycles C (dbl (tRCD C))),
     (.emc_pdex2mrr, cycles C (tPDEX2MRR C (tCKavg C)))],
    [(.mc_emem_arb_timing_rcd, cycles C (dbl (tRCD C)) / mcArbDiv - 2),
     (.mc_emem_arb_timing_rc, cycles C (dbl (tRC C)) / mcArbDiv - 1),
     (.mc_emem_arb_timing_rp, cycles C (dbl (tRPpb C)) / mcArbDiv - 1 + mcArbSfa),
     (.mc_emem_arb_timing_ras, cycles C (dbl (tRAS C)) / mcArbDiv - 2)]),
   (C.ramTimingPresetTwo,
    [(.emc_tfaw, cycles C (dbl (tFAW C))), (.emc_rrd, cycles C (tRRD C))],
    [(.mc_emem_arb_timing_faw, arb (cycles C (dbl (tFAW C))) (-1)),
     (.mc_emem_arb_timing_rrd, arb (cycles C (tRRD C)) (-1))]),
   (C.ramTimingPresetThree,
    [(.emc_r2p, cycles C (tRTP C)), (.emc_w2p, WTP C), (.emc_rw2pden, WTPDEN C)],
    [(.mc_emem_arb_timing_rap2pre, arb (cycles C (tRTP C)) 0),
     (.mc_emem_arb_timing_wap2pre, arb (WTP C) 0)]),
   (C.ramTimingPresetFour,
    [(.emc_rfc, cycles C (dbl (tRFCab C))), (.emc_rfcpb, cycles C (dbl (tRFCpb C))),
     (.emc_txsr, min (cycles C (tXSR C)) 0x3fe), (.emc_txsrdll, min (cycles C (tXSR C)) 0x3fe)],
    [(.mc_emem_arb_timing_rfcpb, arb (cycles C (dbl (tRFCpb C))) 0)]),
   (C.ramTimingPresetFive, [(.emc_w2r, W2R C)],
    [(.mc_emem_arb_timing_w2r, arb (W2R C) (-1 + dbl mcArbSfa))]),
   (C.ramTimingPresetSix,
    [(.emc_refresh, REFRESH C), (.emc_pre_refresh_req_cnt, REFRESH C / 4),
     (.emc_trefbw, REFBW C)], []),
   (C.ramTimingPresetSeven,
    [(.emc_r2w, R2W C), (.emc_w2r, W2R C), (.emc_w2p, WTP C), (.emc_rw2pden, WTPDEN C)],
    [(.mc_emem_arb_timing_wap2pre, arb (WTP C) 0),
     (.mc_emem_arb_timing_r2w, arb (R2W C) (-1 + dbl mcArbSfa)),
     (.mc_emem_arb_timing_w2r, arb (W2R C) (-1 + dbl mcArbSfa))])]

/-- `DA_TURNS` and `DA_COVERS` from the arbiter timings now in the table. -/
def writeTurnsAndCovers (table : Int) : Patch Unit := do
  let r2w ← getReg table (.burst_mc_regs .mc_emem_arb_timing_r2w)
  let w2r ← getReg table (.burst_mc_regs .mc_emem_arb_timing_w2r)
  setReg table (.burst_mc_regs .mc_emem_arb_da_turns)
    ((r2w / 2).toUInt8.toUInt32 <<< 16 ||| (w2r / 2).toUInt8.toUInt32 <<< 24)
  let rap2pre ← getReg table (.burst_mc_regs .mc_emem_arb_timing_rap2pre)
  let rp ← getReg table (.burst_mc_regs .mc_emem_arb_timing_rp)
  let rcd ← getReg table (.burst_mc_regs .mc_emem_arb_timing_rcd)
  let wap2pre ← getReg table (.burst_mc_regs .mc_emem_arb_timing_wap2pre)
  let rc ← getReg table (.burst_mc_regs .mc_emem_arb_timing_rc)
  let rCover := ((rap2pre + rp + rcd) / 2).toUInt8.toUInt32
  let wCover := ((wap2pre + rp + rcd) / 2).toUInt8.toUInt32
  setReg table (.burst_mc_regs .mc_emem_arb_da_covers)
    ((rc / 2).toUInt8.toUInt32 ||| rCover <<< 8 ||| wCover <<< 16)

/-- Nothing calls it: `memFreqMtcTable` runs the automatic adjustment only. -/
def memMtcTableCustomAdjust (table : Int) : Patch Unit :=
  if C.mtcConf ≠ 1 then pure ()
  else do
    Prog.forEach (customAdjustTiming C) fun p =>
      if p.1 ≠ 0 then do
        Prog.forEach p.2.1 fun q => writeParamAllReg table q.1 q.2
        Prog.forEach p.2.2 fun q => setReg table (.burst_mc_regs q.1) q.2
      else pure ()
    writeTurnsAndCovers table

end

def khzList : List UInt32 :=
  [1600000, 1331200, 1065600, 800000, 665600, 408000, 204000, 102000, 68000, 40800]

/-- `table_list[i]`. -/
abbrev tableList (ptr : Int) (i : Nat) : Int := mtcTable mtcTableWords ptr i

def memFreqMtcTable (C : CustomizeTable) (ptr : Int) : Patch Unit := do
  Prog.forEach khzList.zipIdx fun p => checkMtcTable (tableList ptr p.2) p.1 mtcTableRev
  if C.eristaEmcMaxClock ≤ emcClkOSLimit then pure () -- R_SKIP
  else do
    -- 40800 overwritten by 68000, ..., 1331200 overwritten by 1600000
    Prog.forEach [9, 8, 7, 6, 5, 4, 3, 2, 1] fun i => do
      let src ← loadBlock (tableList ptr (i - 1)) mtcTableWords
      storeBlock (tableList ptr i) src
    memMtcTableAutoAdjust C (tableList ptr 0)
    store ptr C.eristaEmcMaxClock

def memFreqMax (C : CustomizeTable) (ptr : Int) : Patch Unit :=
  if C.eristaEmcMaxClock ≤ emcClkOSLimit then pure () -- R_SKIP
  else store ptr C.eristaEmcMaxClock

end SwitchOc.Erista
