import Mathlib.Tactic.Common
import SwitchOcSuite.Loader.MtcTable

/-!
# Patches common to both SoCs (`pcv.hpp`, `pcv.cpp`)

The patches run over the image of the `pcv` module as a word memory, positions
counted from `mapped_nso`.  A patch that rejects its position fails with the
loader's result code; following the null pointer that `getDvfsTableLastEntry`
returns for an empty table is `nullPointer`, and `CRASH` is `crash`.  Comparing
or copying a block touches all of its words.

    cpuFreqCvbTable / gpuFreqCvbTable     the CVB tables
    memFreqPllmLimit / memVoltHandler     memory PLL and voltage
    safetyCheck                           what the loader checks before any patch
-/

namespace SwitchOc

open Traced

/-! ## Results, device and programs -/

/-- The result codes of `oc_common.hpp`. -/
inductive LdrResult where
  | outOfRange | invalidMemPllmEntry | invalidMtcMagic | invalidMtcTable | invalidDvbTable
  | invalidCpuFreqVddEntry | invalidCpuVoltDfllEntry | invalidCpuDvfs | invalidCpuMinVolt
  | invalidGpuDvfs | invalidGpuFreqMaxPattern | invalidGpuPllEntry | invalidRegulatorEntry
  | uninitializedPatcher | unsuccessfulPatcher | safetyCheckFailure
  deriving DecidableEq, Repr

inductive Stop where
  | result (r : LdrResult)
  | nullPointer
  | crash (msg : String)
  deriving DecidableEq, Repr

/-- A result code is handed to the caller; the other two end the process. -/
def Stop.isResult : Stop → Bool
  | .result _ => true
  | _ => false

/-- The regulator `Max77812_2` behind I2C and the counts of the patch entries, by
their index in the list.  `opens`: a session to the regulator can be opened. -/
structure Device where
  opens : Bool
  pmic : UInt8 → UInt8
  patchedCount : Nat → Nat

abbrev Patch (α : Type) := WordProg Stop Device α

/-- `R_THROW`. -/
def throwResult {α : Type} (r : LdrResult) : Patch α := Prog.fail (.result r)

/-- `R_UNLESS(*w == v, r)`. -/
def expectWord (w : Int) (v : UInt32) (r : LdrResult) : Patch Unit := expect w v (.result r)

/-- A `u64` load. -/
def load64 (w : Int) : Patch UInt64 := do
  let lo ← load w
  let hi ← load (w + 1)
  pure (joinWords lo hi)

/-- `GetDvfsTableLastEntry(table)->freq`. -/
def lastFreq (table : Nat → CvbEntry) : Patch UInt64 :=
  match getDvfsTableLastEntry table with
  | some entry => pure entry.freq
  | none => Prog.fail .nullPointer

def cpuClkOSLimit : UInt32 := 1785000

def emcClkOSLimit : UInt32 := 1600000

/-! ## Default tables -/

namespace Mariko

def cpuCvbTableDefault : List CvbEntry :=
  [cvb 204000 [721589, -12695, 27] [],
   cvb 306000 [747134, -14195, 27] [],
   cvb 408000 [776324, -15705, 27] [],
   cvb 510000 [809160, -17205, 27] [],
   cvb 612000 [845641, -18715, 27] [],
   cvb 714000 [885768, -20215, 27] [],
   cvb 816000 [929540, -21725, 27] [],
   cvb 918000 [976958, -23225, 27] [],
   cvb 1020000 [1028021, -24725, 27] [1120000],
   cvb 1122000 [1082730, -26235, 27] [1120000],
   cvb 1224000 [1141084, -27735, 27] [1120000],
   cvb 1326000 [1203084, -29245, 27] [1120000],
   cvb 1428000 [1268729, -30745, 27] [1120000],
   cvb 1581000 [1374032, -33005, 27] [1120000],
   cvb 1683000 [1448791, -34505, 27] [1120000],
   cvb 1785000 [1527196, -36015, 27] [1120000],
   cvb 1887000 [1609246, -37515, 27] [1120000],
   cvb 1963500 [1675751, -38635, 27] [1120000]]

def gpuCvbTableDefault : List CvbEntry :=
  [cvb 76800 [] [610000],
   cvb 153600 [] [610000],
   cvb 230400 [] [610000],
   cvb 307200 [] [610000],
   cvb 384000 [] [610000],
   cvb 460800 [] [610000],
   cvb 537600 [] [801688, -10900, -163, 298, -10599, 162],
   cvb 614400 [] [824214, -5743, -452, 238, -6325, 81],
   cvb 691200 [] [848830, -3903, -552, 119, -4030, -2],
   cvb 768000 [] [891575, -4409, -584, 0, -2849, 39],
   cvb 844800 [] [940071, -5367, -602, -60, -63, -93],
   cvb 921600 [] [986765, -6637, -614, -179, 1905, -13],
   cvb 998400 [] [1098475, -13529, -497, -179, 3626, 9],
   cvb 1075200 [] [1163644, -12688, -648, 0, 1077, 40],
   cvb 1152000 [] [1204812, -9908, -830, 0, 1469, 110],
   cvb 1228800 [] [1277303, -11675, -859, 0, 3722, 313],
   cvb 1267200 [] [1335531, -12567, -867, 0, 3681, 559]]

end Mariko

namespace Erista

def cpuCvbTableDefault : List CvbEntry :=
  [cvb 204000 [721094] [],
   cvb 306000 [754040] [],
   cvb 408000 [786986] [],
   cvb 510000 [819932] [],
   cvb 612000 [852878] [],
   cvb 714000 [885824] [],
   cvb 816000 [918770] [],
   cvb 918000 [951716] [],
   cvb 1020000 [984662] [-2875621, 358099, -8585],
   cvb 1122000 [1017608] [-52225, 104159, -2816],
   cvb 1224000 [1050554] [1076868, 8356, -727],
   cvb 1326000 [1083500] [2208191, -84659, 1240],
   cvb 1428000 [1116446] [2519460, -105063, 1611],
   cvb 1581000 [1130000] [2889664, -122173, 1834],
   cvb 1683000 [1168000] [5100873, -279186, 4747],
   cvb 1785000 [1227500] [5100873, -279186, 4747]]

def gpuCvbTableDefault : List CvbEntry :=
  [cvb 76800 [] [814294, 8144, -940, 808, -21583, 226],
   cvb 153600 [] [856185, 8144, -940, 808, -21583, 226],
   cvb 230400 [] [898077, 8144, -940, 808, -21583, 226],
   cvb 307200 [] [939968, 8144, -940, 808, -21583, 226],
   cvb 384000 [] [981860, 8144, -940, 808, -21583, 226],
   cvb 460800 [] [1023751, 8144, -940, 808, -21583, 226],
   cvb 537600 [] [1065642, 8144, -940, 808, -21583, 226],
   cvb 614400 [] [1107534, 8144, -940, 808, -21583, 226],
   cvb 691200 [] [1149425, 8144, -940, 808, -21583, 226],
   cvb 768000 [] [1191317, 8144, -940, 808, -21583, 226],
   cvb 844800 [] [1233208, 8144, -940, 808, -21583, 226],
   cvb 921600 [] [1275100, 8144, -940, 808, -21583, 226]]

end Erista

/-- A constant table with its closing `{ }`. -/
def listView (l : List CvbEntry) : Nat → CvbEntry := fun i => l.getD i {}

/-- The first `n` entries as they lie in memory. -/
def tableWords (table : Nat → CvbEntry) (n : Nat) : List UInt32 :=
  (List.range n).flatMap fun i => (table i).words

/-! ## CVB tables -/

/-- Word of `cvb_dfll_param.c0` and `cvb_pll_param.c0` in an entry. -/
def offsetDfllC0 : Int := 2

def offsetPllC0 : Int := 8

/-- Where the table whose last entry has its frequency at `ptr` begins. -/
def tableHead (ptr : Int) (entryCount : Nat) : Int := ptr + cvbWords - cvbWords * entryCount

def cpuDefaultTable (isMariko : Bool) : Nat → CvbEntry :=
  if isMariko then listView Mariko.cpuCvbTableDefault else listView Erista.cpuCvbTableDefault

def gpuDefaultTable (isMariko : Bool) : Nat → CvbEntry :=
  if isMariko then listView Mariko.gpuCvbTableDefault else listView Erista.gpuCvbTableDefault

/-- The table `CpuFreqCvbTable` copies. -/
def cpuCustomizeTable (isMariko : Bool) (C : CustomizeTable) : Nat → CvbEntry :=
  if isMariko then
    (if C.marikoCpuUV ≠ 0 then C.marikoCpuDvfsTableSLT else C.marikoCpuDvfsTable).view
  else C.eristaCpuDvfsTable.view

def cpuMaxVolt (isMariko : Bool) (C : CustomizeTable) : UInt32 :=
  if isMariko then C.marikoCpuMaxVolt else C.eristaCpuMaxVolt

def cpuFreqThreshold (isMariko : Bool) (C : CustomizeTable) : UInt32 :=
  if isMariko then (if C.marikoCpuUV ≠ 0 then 2193000 else 2091000)
  else if cpuMaxVolt isMariko C ≥ 1235 then 1887000 else 1428000

/-- One turn of "Patch CPU max volt" over the table at `head`. -/
def cpuVoltTurn (isMariko : Bool) (C : CustomizeTable) (head : Int) (i : Nat) : Patch Unit := do
  let entry := head + cvbWords * i
  let freq ← load64 entry
  if (cpuFreqThreshold isMariko C).toUInt64 ≤ freq then
    store (entry + if isMariko then offsetPllC0 else offsetDfllC0) (cpuMaxVolt isMariko C * 1000)
  else pure ()

def cpuFreqCvbTable (isMariko : Bool) (C : CustomizeTable) (ptr : Int) : Patch Unit := do
  let defaultEntryCount := getDvfsTableEntryCount (cpuDefaultTable isMariko)
  let customizeEntryCount := getDvfsTableEntryCount (cpuCustomizeTable isMariko C)
  let head := tableHead ptr defaultEntryCount
  let existing ← loadBlock head (cvbWords * defaultEntryCount)
  Prog.require (existing = tableWords (cpuDefaultTable isMariko) defaultEntryCount)
    (.result .invalidCpuDvfs)
  storeBlock head (tableWords (cpuCustomizeTable isMariko C) customizeEntryCount)
  if cpuMaxVolt isMariko C ≠ 0 then
    Prog.forEach (List.range customizeEntryCount) (cpuVoltTurn isMariko C head)
  else pure ()

/-- The table `GpuFreqCvbTable` copies. -/
def gpuCustomizeTable (isMariko : Bool) (C : CustomizeTable) : Nat → CvbEntry :=
  if isMariko then
    (switchUV C.marikoGpuUV C.marikoGpuDvfsTable C.marikoGpuDvfsTableSLT
      C.marikoGpuDvfsTableHiOPT C.marikoGpuDvfsTable).view
  else C.eristaGpuDvfsTable.view

/-- One turn of "Patch GPU volt" with the voltage array. -/
def gpuVoltArrayTurn (C : CustomizeTable) (head : Int) (i : Nat) : Patch Unit := do
  let c0 := head + cvbWords * i + offsetPllC0
  store c0 (C.gpuVoltAt i * 1000)
  store (c0 + 1) 0
  store (c0 + 2) 0
  store (c0 + 3) 0
  store (c0 + 4) 0
  store (c0 + 5) 0

/-- One turn of "Patch GPU volt" with the offset. -/
def gpuVoltOffsetTurn (C : CustomizeTable) (head : Int) (i : Nat) : Patch Unit :=
  modify (head + cvbWords * i + offsetPllC0) fun c0 => c0 - C.commonGpuVoltOffset * 1000

def gpuFreqCvbTable (isMariko : Bool) (C : CustomizeTable) (ptr : Int) : Patch Unit := do
  let defaultEntryCount := getDvfsTableEntryCount (gpuDefaultTable isMariko)
  let customizeEntryCount := getDvfsTableEntryCount (gpuCustomizeTable isMariko C)
  let head := tableHead ptr defaultEntryCount
  let existing ← loadBlock head (cvbWords * defaultEntryCount)
  Prog.require (existing = tableWords (gpuDefaultTable isMariko) defaultEntryCount)
    (.result .invalidGpuDvfs)
  storeBlock head (tableWords (gpuCustomizeTable isMariko C) customizeEntryCount)
  if isMariko = true ∧ C.marikoGpuUV = 3 then
    Prog.forEach (List.range customizeEntryCount) (gpuVoltArrayTurn C head)
  else if C.commonGpuVoltOffset ≠ 0 then
    Prog.forEach (List.range customizeEntryCount) (gpuVoltOffsetTurn C head)
  else pure ()

/-! ## Memory PLL and voltage -/

/-- Words of `vco_max` in a `clk_pll_param`, and in all of it. -/
def offsetVcoMax : Int := 6

def clkPllParamWords : Nat := 18

def memFreqPllmLimit (ptr : Int) : Patch Unit := do
  let freq ← load ptr
  let vcoMax ← load (ptr + offsetVcoMax)
  Prog.require (freq = vcoMax) (.result .invalidMemPllmEntry)
  -- Double the max clk simply
  store ptr (freq * 2)
  store (ptr + offsetVcoMax) (freq * 2)

/-- The `validator` of `MemVoltHandler` at a regulator: `id`, `type`, `volt_reg`,
`step_uv` and `min_uv`, in this order. -/
def memVoltValidator (entry : Int) : Patch Bool := do
  let id ← load64 entry
  if id = 1 then
    holdsAll [(entry + 4, 1), (entry + 5, 0x17), (entry + 6, 12500), (entry + 7, 600000)]
  else pure false

/-- `ptr` may be the `default_uv` (word 8) or the `max_uv` (word 9) of the regulator. -/
def memVoltHandler (C : CustomizeTable) (ptr : Int) : Patch Unit := do
  let first ← memVoltValidator (ptr - 8)
  let second ← memVoltValidator (ptr - 9)
  Prog.require (first = true ∨ second = true) (.result .invalidRegulatorEntry)
  let emcUv := C.commonEmcMemVolt
  if emcUv = 0 then pure () -- R_SKIP
  else
    let emcUv := if emcUv % 12500 ≠ 0 then emcUv / 12500 * 12500 else emcUv -- rounding
    store ptr emcUv

/-- The `i`-th MTC table backwards, counted from the one whose `rate_khz` is at `ptr`;
a table is `W` words. -/
def mtcTable (W : Nat) (ptr : Int) (i : Nat) : Int := ptr - offsetRateKhz - i * W

/-- The rate and the revision of an MTC table. -/
def checkMtcTable (table : Int) (khz rev : UInt32) : Patch Unit := do
  expectWord (table + offsetRateKhz) khz .invalidMtcTable
  expectWord (table + offsetRev) rev .invalidMtcTable

/-! ## GPU clock instructions -/

def asmPattern0 : UInt32 := 0x52820000

def asmPattern1 : UInt32 := 0x72A001C0

def asmCompareNoRd (ins1 ins2 : UInt32) : Bool := ((ins1 ^^^ ins2) >>> 5) == 0

def asmGetRd (ins : UInt32) : UInt8 := (ins &&& 31).toUInt8

def asmSetRd (ins : UInt32) (rd : UInt8) : UInt32 :=
  (ins &&& (0xFFFFFFE0 : UInt32)) ||| (rd &&& 0x1F).toUInt32

def asmSetImm16 (ins : UInt32) (imm : UInt16) : UInt32 :=
  (ins &&& (0xFFE0001F : UInt32)) ||| (imm.toUInt32 <<< 5)

def gpuMaxClockPatternFn (ins : UInt32) : Bool := asmCompareNoRd ins asmPattern0

/-- `GpuFreqMaxAsm` over the frequency that the SoC's version of it loads. -/
def gpuFreqMaxAsmOf (maxFreq : Patch UInt64) (ptr : Int) : Patch Unit := do
  -- Check if both two instructions match the pattern
  let ins1 ← load ptr
  let ins2 ← load (ptr + 1)
  Prog.require (asmCompareNoRd ins1 asmPattern0 = true ∧ asmCompareNoRd ins2 asmPattern1 = true)
    (.result .invalidGpuFreqMaxPattern)
  -- Both instructions should operate on the same register
  let rd := asmGetRd ins1
  Prog.require (rd = asmGetRd ins2) (.result .invalidGpuFreqMaxPattern)
  let freq ← maxFreq
  let maxClock := lowWord freq
  store ptr (asmSetRd (asmSetImm16 asmPattern0 maxClock.toUInt16) rd)
  store (ptr + 1) (asmSetRd (asmSetImm16 asmPattern1 (maxClock >>> 16).toUInt16) rd)

/-- All zero except for freq; then double the max clk simply. -/
def gpuFreqPllLimit (ptr : Int) : Patch Unit := do
  Prog.forEach (List.range' 1 (clkPllParamWords - 1)) fun i =>
    expectWord (ptr + i) 0 .invalidGpuPllEntry
  let freq ← load ptr
  store ptr (freq * 2)

/-! ## Safety check -/

structure SValidator where
  value : UInt32
  min : UInt32
  max : UInt32
  valueRequired : Bool := false

def SValidator.check (v : SValidator) : Except LdrResult Unit :=
  if !v.valueRequired && v.value == 0 then .ok ()
  else if v.min ≠ 0 ∧ v.value < v.min then .error .safetyCheckFailure
  else if v.max ≠ 0 ∧ v.value > v.max then .error .safetyCheckFailure
  else .ok ()

/-- `static_cast<u32>(GetDvfsTableLastEntry(t)->freq)`. -/
def dvfsMaxFreq (t : DvfsTable) : Except Stop UInt32 :=
  match getDvfsTableLastEntry t.view with
  | some entry => .ok (lowWord entry.freq)
  | none => .error .nullPointer

def safetyValidators (C : CustomizeTable)
    (eristaCpuDvfsMaxFreq marikoCpuDvfsMaxFreq eristaGpuDvfsMaxFreq marikoGpuDvfsMaxFreq : UInt32) :
    List SValidator :=
  [{ value := C.commonCpuBoostClock, min := 1020000, max := 3000000, valueRequired := true },
   { value := C.commonEmcMemVolt, min := 1100000, max := 1250000 },
   { value := C.eristaCpuMaxVolt, min := 1100, max := 1300 },
   { value := C.eristaEmcMaxClock, min := 1600000, max := 2131200 },
   { value := C.marikoCpuMaxVolt, min := 1100, max := 1300 },
   { value := C.marikoEmcMaxClock, min := 1600000, max := 2800000 },
   { value := C.marikoEmcVddqVolt, min := 550000, max := 650000 },
   { value := eristaCpuDvfsMaxFreq, min := 1785000, max := 3000000 },
   { value := marikoCpuDvfsMaxFreq, min := 1785000, max := 3000000 },
   { value := eristaGpuDvfsMaxFreq, min := 768000, max := 1536000 },
   { value := marikoGpuDvfsMaxFreq, min := 768000, max := 1536000 }]

def checkAll : List SValidator → Except Stop Unit
  | [] => .ok ()
  | v :: vs =>
    match v.check with
    | .ok () => checkAll vs
    | .error _ => .error (.crash "Triggered")

def safetyCheck (C : CustomizeTable) : Except Stop Unit := do
  if C.custRev ≠ custRevision then .error (.crash "Triggered")
  else
    let eristaCpuDvfsMaxFreq ← dvfsMaxFreq C.eristaCpuDvfsTable
    let marikoCpuDvfsMaxFreq ← dvfsMaxFreq
      (if C.marikoCpuUV ≠ 0 then C.marikoCpuDvfsTableSLT else C.marikoCpuDvfsTable)
    let eristaGpuDvfsMaxFreq ← dvfsMaxFreq C.eristaGpuDvfsTable
    let marikoGpuDvfsMaxFreq ← dvfsMaxFreq
      (switchUV C.marikoGpuUV C.marikoGpuDvfsTable C.marikoGpuDvfsTableSLT
        C.marikoGpuDvfsTableHiOPT C.marikoGpuDvfsTable)
    checkAll (safetyValidators C eristaCpuDvfsMaxFreq marikoCpuDvfsMaxFreq eristaGpuDvfsMaxFreq
      marikoGpuDvfsMaxFreq)

end SwitchOc
