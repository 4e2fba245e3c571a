import Mathlib.Data.Rat.Floor
import Mathlib.Tactic.Common
import SwitchOcSuite.Loader.Customize

/-!
# DRAM timings (`mtc_timing_value.hpp`)

The static initialisers that turn the seven RAM presets and the EMC clock of each
SoC into cycle counts.  `u32` expressions are `UInt32` (they wrap), `double`
expressions are exact rationals, and `u32` of a rational drops the fraction.  A preset
past the end of its array reads 0 here (in C++ the read is out of bounds).

The rounding of binary floating point is not modelled.  It makes a difference where
`param / tCK_avg` is a whole number: the quotient of two rounded values may be the
next `double` above it, and `GET_CYCLE_CEIL` gives one cycle more.  With raised clocks
in the range of the safety check these are `tFAW` of 40 ns at 1925000 kHz, `tRC` of
60 ns at 1950000 (118 cycles, 117 here), `tRFCpb` of 80 ns at 1925000, of 60 at 1950000,
of 100 at 1670000, 1930000, 1940000, 1950000, 1990000, 2320000 and 2480000, of 120 at
1675000, 1925000 and 1950000, and likewise some clocks for `tRFCab`, `tR2REF` and
`tPDEX2MRR`, but none for `REFRESH`.
-/

namespace SwitchOc

/-! ## Conversions -/

/-- A `u32` used in a `double` expression. -/
def dbl (x : UInt32) : ℚ := x.toNat

/-- `u32(q)`: the fraction is dropped; out of range it wraps. -/
def u32 (q : ℚ) : UInt32 := UInt32.ofInt (if 0 ≤ q then ⌊q⌋ else ⌈q⌉)

/-- `!preset ? base : values[preset - 1]`. -/
def presetValue {α : Type} [Inhabited α] (values : List α) (base : α) (preset : UInt32) : α :=
  if preset = 0 then base else values.getD (preset.toNat - 1) default

/-- The same with a check of the index. -/
def checkedPreset {α : Type} (values : List α) (base : α) (preset : UInt32) : Option α :=
  if preset = 0 then some base else values[preset.toNat - 1]?

/-! ## Presets -/

def tRCD_values : List UInt32 := [18, 17, 16, 15, 14, 13]
def tRP_values : List UInt32 := [18, 17, 16, 15, 14, 13]
def tRAS_values : List UInt32 := [42, 39, 36, 34, 32, 30]
def tRRD_values : List ℚ := [10, 7.5, 6, 4, 3]
def tFAW_values : List ℚ := [40, 30, 24, 16, 12]
def tWR_values : List UInt32 := [18, 15, 15, 12, 12, 8]
def tRTP_values : List ℚ := [7.5, 7.5, 6, 6, 4, 4]
def tRFC_values : List UInt32 := [140, 120, 100, 80, 70, 60]
def tWTR_values : List UInt32 := [10, 8, 6, 4, 2, 1]
def tREFpb_values : List UInt32 := [488, 976, 1952, 3256, 9999]

section Presets

variable (C : CustomizeTable)

def tRFCpb : UInt32 := presetValue tRFC_values 140 C.ramTimingPresetFour

def tRFCab : UInt32 := if C.ramTimingPresetFour = 0 then 280 else 2 * tRFCpb C

def tRAS : UInt32 := presetValue tRAS_values 42 C.ramTimingPresetOne

def tRPpb : UInt32 := presetValue tRP_values 18 C.ramTimingPresetOne

def tRPab : UInt32 := if C.ramTimingPresetOne = 0 then 21 else tRPpb C + 3

def tRC : UInt32 := tRPpb C + tRAS C

def tWTR : UInt32 := presetValue tWTR_values 10 C.ramTimingPresetFive

def tRTP : ℚ := presetValue tRTP_values 7.5 C.ramTimingPresetThree

def tWR : UInt32 := presetValue tWR_values 18 C.ramTimingPresetThree

def tRCD : UInt32 := presetValue tRCD_values 18 C.ramTimingPresetOne

def tRRD : ℚ := presetValue tRRD_values 10 C.ramTimingPresetTwo

def tREFpb : UInt32 := presetValue tREFpb_values 488 C.ramTimingPresetSix

/-- `u32 tFAW = !TIMING_PRESET_TWO ? 40 : tFAW_values[…]`. -/
def tFAW : UInt32 := u32 (presetValue tFAW_values 40 C.ramTimingPresetTwo)

def tXSR : ℚ := dbl (tRFCab C) + 7.5

end Presets

/-- RAM presets inside their arrays. -/
structure PresetsInRange (C : CustomizeTable) : Prop where
  one : C.ramTimingPresetOne.toNat ≤ 6
  two : C.ramTimingPresetTwo.toNat ≤ 5
  three : C.ramTimingPresetThree.toNat ≤ 6
  four : C.ramTimingPresetFour.toNat ≤ 6
  five : C.ramTimingPresetFive.toNat ≤ 6
  six : C.ramTimingPresetSix.toNat ≤ 5
  seven : C.ramTimingPresetSeven.toNat ≤ 6

def BL : UInt32 := 16
def tDQSCK_max : ℚ := 3.5
def tWPRE : ℚ := 1.8
def tRPST : ℚ := 0.4
def tDQSS_max : ℚ := 1.25
def tDQS2DQ_max : ℚ := 0.8
def tXP : ℚ := 10
def tCMDCKE : ℚ := 1.75
def tMRWCKEL : UInt32 := 14
def tCKELCS : ℚ := 5
def tCSCKEH : ℚ := 1.75
def tCKE : ℚ := 7.5
def tSR : UInt32 := 15
def tCKCKEH : ℚ := 1.75
def numOfRows : UInt32 := 65536

/-! ## Cycle counts

What the namespaces `pcv::erista` and `pcv::mariko` share, over the clock period
`tCK` (`tCK_avg`) and the cycles `slack` by which the two differ. -/

section Cycles

variable (C : CustomizeTable) (tCK : ℚ) (slack : ℤ)

/-- `1000'000. / emc` (`emc` in kHz), not rounded to a `double`. -/
def clockPeriod (emc : UInt32) : ℚ := 1000000 / dbl emc

/-- `GET_CYCLE_CEIL`. -/
def getCycleCeil (param : ℚ) : UInt32 := u32 ⌈param / tCK⌉

/-- `WL`. -/
def writeLatency : UInt32 := 14 - 2 * C.ramTimingPresetSeven

/-- `RL`. -/
def readLatency : UInt32 := 32 - 4 * C.ramTimingPresetSeven

def readToWrite : UInt32 :=
  u32 (⌈dbl (readLatency C) + ⌈tDQSCK_max / tCK⌉ + dbl (BL / 2) - dbl (writeLatency C) + tWPRE +
    ⌊tRPST⌋⌉ + slack)

def writeToRead : UInt32 :=
  u32 (dbl (writeLatency C + BL / 2 + 1) + ⌈dbl (tWTR C) / tCK⌉ + slack)

def writeToPrecharge : UInt32 :=
  u32 (dbl (writeLatency C + BL / 2 + 1) + ⌈dbl (tWR C) / tCK⌉ + slack)

/-- The argument of `u32(…)` in `REFRESH`. -/
def refreshCycles (emc : UInt32) : ℤ :=
  ⌈dbl (tREFpb C) * dbl emc / dbl numOfRows * 1.048 / 2 - 64⌉

def refreshOf (emc : UInt32) : UInt32 := min 65472 (u32 (refreshCycles C emc) / 4 * 4)

def refbwOf (refresh : UInt32) : UInt32 := min 65536 (refresh + 64)

def wtpdenOf (wtp : UInt32) : UInt32 :=
  u32 (dbl (wtp + 1) + ⌈tDQSS_max / tCK⌉ + ⌈tDQS2DQ_max / tCK⌉ + 6)

/-- `tMRRI` and `tPDEX2MRR`. -/
def tMRRI : ℚ := dbl (tRCD C) + 3 * tCK

def tPDEX2MRR : ℚ := tXP + tMRRI C tCK

end Cycles

/-! ## The two SoCs -/

namespace Erista

variable (C : CustomizeTable)

def tCKavg : ℚ := clockPeriod C.eristaEmcMaxClock
def WL : UInt32 := writeLatency C
def RL : UInt32 := readLatency C
def R2W : UInt32 := readToWrite C (tCKavg C) 6
def W2R : UInt32 := writeToRead C (tCKavg C) (-6)
def WTP : UInt32 := writeToPrecharge C (tCKavg C) (-8)
def REFRESH : UInt32 := refreshOf C C.eristaEmcMaxClock
def REFBW : UInt32 := refbwOf (REFRESH C)
def WTPDEN : UInt32 := wtpdenOf (tCKavg C) (WTP C)

end Erista

namespace Mariko

variable (C : CustomizeTable)

def tCKavg : ℚ := clockPeriod C.marikoEmcMaxClock
def WL : UInt32 := writeLatency C
def RL : UInt32 := readLatency C
def R2W : UInt32 := readToWrite C (tCKavg C) 0
def W2R : UInt32 := writeToRead C (tCKavg C) 0
def WTP : UInt32 := writeToPrecharge C (tCKavg C) 0

def RTM : UInt32 :=
  u32 (dbl (RL C + BL / 2) + ⌈tDQSCK_max / tCKavg C⌉ + ⌊tRPST⌋ + ⌈7.5 / tCKavg C⌉)

def WTM : UInt32 := u32 (dbl (WL C + 1 + BL / 2) + ⌈7.5 / tCKavg C⌉)
def RATM : UInt32 := u32 (dbl (RTM C) + ⌈tRTP C / tCKavg C⌉ - 8)
def WATM : UInt32 := u32 (dbl (WTM C) + ⌈dbl (tWR C) / tCKavg C⌉)
def REFRESH : UInt32 := refreshOf C C.marikoEmcMaxClock
def REFBW : UInt32 := refbwOf (REFRESH C)
def WTPDEN : UInt32 := wtpdenOf (tCKavg C) (WTP C)

end Mariko

/-! ## Memory-controller arbiter -/

def mcArbDiv : UInt32 := 4
def mcArbSfa : UInt32 := 2

/-- `CEIL(cycles / MC_ARB_DIV) + k`: the division is one of `u32`, so the ceiling
finds nothing to round; the sum is a `double`. -/
def arb (cycles : UInt32) (k : ℚ) : UInt32 := u32 (dbl (cycles / mcArbDiv) + k)

end SwitchOc
