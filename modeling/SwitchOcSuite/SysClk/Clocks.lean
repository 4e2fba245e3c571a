import Mathlib.Data.Nat.Basic
import Mathlib.Logic.Function.Basic
import SwitchOcSuite.Lib.Search
import SwitchOcSuite.SysClk.Types

/-!
# Clocks (`sysmodule/src/clocks.cpp`)

`freqTable` is the memory from `&freqTable[0].freq[0]` on, in words: the table of
a module is 31 words, the tables follow each other in the order of the modules,
and what lies behind them can be read as well.  A pointer into it is the number
of the word, so `*p` is `freqTable p` and pointers compare as numbers.  The null
pointers that `GetRange` asks about do not occur once `UpdateFreqRange` has run.
-/

namespace SwitchOc.SysClk

open Function Search

def MEM_CLOCK_MARIKO_MIN : UInt32 := 1600000000
def MEM_CLOCK_DOCK : UInt32 := 1600000000
def BOOST_THRESHOLD : UInt32 := 950
def FREQ_TABLE_MAX_ENTRY_COUNT : Nat := 31

/-- `sizeof(SysClkFrequencyTable)`, in bytes. -/
def sizeofSysClkFrequencyTable : Nat := 4 * FREQ_TABLE_MAX_ENTRY_COUNT

def SysClkModule.index : SysClkModule → Nat
  | .cpu => 0
  | .gpu => 1
  | .mem => 2

/-- `&freqTable[module].freq[0]`. -/
def tableHead (module : SysClkModule) : Nat := FREQ_TABLE_MAX_ENTRY_COUNT * module.index

structure FreqRange where
  first : Nat
  last : Nat
  min : Nat
  max : SysClkProfile → Nat

structure Clocks where
  boostCpuFreq : UInt32
  maxMemFreq : UInt32
  freqTable : Nat → UInt32
  freqRange : SysClkModule → FreqRange
  allowUnsafe : Bool
  isMariko : Bool

/-- The tables of the three modules, filled up with zeros. -/
def tablesOfLists (cpu gpu mem : List UInt32) (p : Nat) : UInt32 :=
  if p < tableHead .gpu then cpu.getD p 0
  else if p < tableHead .mem then gpu.getD (p - tableHead .gpu) 0
  else mem.getD (p - tableHead .mem) 0

/-! ## Frequency ranges -/

/-- The loop of `GetNearestHzPtr` over `n` pointers from `p` on, in front of `hzListEnd`. -/
def nearestFrom (freqTable : Nat → UInt32) (hzListEnd : Nat) (freq : UInt32) : Nat → Nat → Nat
  | _, 0 => hzListEnd
  | p, n + 1 =>
    if freq ≤ freqTable p then p else nearestFrom freqTable hzListEnd freq (p + 1) n

def getNearestHzPtr (freqTable : Nat → UInt32) (hzListStart hzListEnd : Nat) (freq : UInt32) : Nat :=
  nearestFrom freqTable hzListEnd freq hzListStart (hzListEnd - hzListStart)

/-- The pointer after at most `n` steps from `p`, each to an entry that is not zero. -/
def lastEntry (freqTable : Nat → UInt32) : Nat → Nat → Nat
  | p, 0 => p
  | p, n + 1 => if freqTable (p + 1) = 0 then p else lastEntry freqTable (p + 1) n

namespace Clocks

/-- `FreqRange::InitDefault`. -/
def initDefault (c : Clocks) (module : SysClkModule) : FreqRange :=
  let last := lastEntry c.freqTable (tableHead module) FREQ_TABLE_MAX_ENTRY_COUNT
  { first := tableHead module, last := last, min := tableHead module, max := fun _ => last }

/-- `FreqRange::FindFreq`. -/
def findFreq (c : Clocks) (range : FreqRange) (freq : UInt32) (profile : SysClkProfile) : Nat :=
  getNearestHzPtr c.freqTable range.min (range.max profile) freq

def cpuSafeMax (c : Clocks) : UInt32 := if c.isMariko then 1963500000 else 1785000000

def cpuUnsafeMax (c : Clocks) (cpu_max_freq : Nat) (profile : SysClkProfile) : UInt32 :=
  if !c.isMariko && profile = .handheld then 1785000000 else c.freqTable cpu_max_freq

def gpuSafeMax (c : Clocks) (profile : SysClkProfile) : UInt32 :=
  if c.isMariko then 998400000
  else
    match profile with
    | .handheld
    | .handheldCharging => 460800000
    | .handheldChargingUSB => 768000000
    | .handheldChargingOfficial
    | .docked => 921600000

def gpuUnsafeMax (c : Clocks) (gpu_max_freq : Nat) (profile : SysClkProfile) : UInt32 :=
  if c.isMariko then if profile = .handheld then 998400000 else c.freqTable gpu_max_freq
  else
    match profile with
    | .handheldChargingOfficial
    | .docked => c.freqTable gpu_max_freq
    | _ => c.gpuSafeMax profile

def memRange (c : Clocks) : FreqRange :=
  let range := c.initDefault .mem
  if c.isMariko then
    let min := c.findFreq range 1600000000 .docked
    { range with first := min, min := min }
  else range

def cpuRange (c : Clocks) : FreqRange :=
  let range := c.initDefault .cpu
  { range with
    max := fun profile => min range.last (c.findFreq range
      (if c.allowUnsafe then c.cpuUnsafeMax range.last profile else c.cpuSafeMax) profile) }

def gpuRange (c : Clocks) : FreqRange :=
  let range := c.initDefault .gpu
  { range with
    max := fun profile => min range.last (c.findFreq range
      (if c.allowUnsafe then c.gpuUnsafeMax range.last profile else c.gpuSafeMax profile) profile) }

def updateFreqRange (c : Clocks) : Clocks :=
  { c with
    freqRange := fun
      | .cpu => c.cpuRange
      | .gpu => c.gpuRange
      | .mem => c.memRange }

def setAllowUnsafe (c : Clocks) (allow : Bool) : Clocks :=
  if c.allowUnsafe ≠ allow then updateFreqRange { c with allowUnsafe := allow } else c

/-- `GetRange`: the pointers to the least and the greatest clock, unless they are
out of order or too far apart (a number of entries against a number of bytes). -/
def getRange (c : Clocks) (module : SysClkModule) (profile : SysClkProfile) : Option (Nat × Nat) :=
  let min := (c.freqRange module).min
  let max := (c.freqRange module).max profile
  if max < min ∨ sizeofSysClkFrequencyTable < max - min + 1 then none else some (min, max)

def getNearestHz (c : Clocks) (module : SysClkModule) (profile : SysClkProfile) (inHz : UInt32) :
    Except Fault UInt32 :=
  match c.getRange module profile with
  | none => .error (.tableLookupFailed module.index)
  | some range => .ok (c.freqTable (getNearestHzPtr c.freqTable range.1 range.2 inHz))

/-- `*freqRange[module].max[profile]`: the cap of a module under a profile. -/
def cap (c : Clocks) (module : SysClkModule) (profile : SysClkProfile) : UInt32 :=
  c.freqTable ((c.freqRange module).max profile)

end Clocks

/-! ## Stock clocks -/

structure SysClkApmConfiguration where
  id : UInt32
  cpu_hz : UInt32
  gpu_hz : UInt32
  mem_hz : UInt32
deriving DecidableEq, Repr, Inhabited

/-- The entries in front of the terminator. -/
def sysclk_g_apm_configurations : List SysClkApmConfiguration :=
  [⟨0x00010000, 1020000000, 384000000, 1600000000⟩,
    ⟨0x00010001, 1020000000, 768000000, 1600000000⟩,
    ⟨0x00010002, 1224000000, 691200000, 1600000000⟩,
    ⟨0x00020000, 1020000000, 230400000, 1600000000⟩,
    ⟨0x00020001, 1020000000, 307200000, 1600000000⟩,
    ⟨0x00020002, 1224000000, 230400000, 1600000000⟩,
    ⟨0x00020003, 1020000000, 307000000, 1331200000⟩,
    ⟨0x00020004, 1020000000, 384000000, 1331200000⟩,
    ⟨0x00020005, 1020000000, 307200000, 1065600000⟩,
    ⟨0x00020006, 1020000000, 384000000, 1065600000⟩,
    ⟨0x92220007, 1020000000, 460800000, 1600000000⟩,
    ⟨0x92220008, 1020000000, 460800000, 1331200000⟩,
    ⟨0x92220009, 1785000000, 76800000, 1600000000⟩,
    ⟨0x9222000A, 1785000000, 76800000, 1331200000⟩,
    ⟨0x9222000B, 1020000000, 76800000, 1600000000⟩,
    ⟨0x9222000C, 1020000000, 76800000, 1331200000⟩]

def getEmbeddedApmConfig (confId : UInt32) : Except Fault SysClkApmConfiguration :=
  match sysclk_g_apm_configurations.find? fun apm => apm.id = confId with
  | some apm => .ok apm
  | none => .error (.unknownApmConfiguration confId)

def getStockClock (isMariko : Bool) (apm : SysClkApmConfiguration) : SysClkModule → UInt32
  | .cpu => apm.cpu_hz
  | .gpu => apm.gpu_hz
  | .mem => if isMariko then MEM_CLOCK_MARIKO_MIN else apm.mem_hz

/-- The GPU is throttled to 76.8 MHz. -/
def apmExtIsBoostMode (confId : UInt32) : Bool := 0x92220009 ≤ confId && confId ≤ 0x9222000C

/-! ## The ranges that `UpdateFreqRange` leaves -/

/-- The words of the table of a module, in Hz. -/
def Clocks.hz (c : Clocks) (p : Nat) : Nat := (c.freqTable p).toNat

/-- `GetNearestHzPtr` finds the first entry that is at least the frequency. -/
theorem nearestFrom_first (c : Clocks) {hzListEnd : Nat} (freq : UInt32) (n p : Nat)
    (h : p + n = hzListEnd) :
    FirstAtLeast c.hz p hzListEnd freq.toNat (nearestFrom c.freqTable hzListEnd freq p n) := by
  induction n generalizing p with
  | zero =>
    obtain rfl : p = hzListEnd := by omega
    exact ⟨Nat.le_refl _, Nat.le_refl _, fun i hi hlt => absurd hlt (by unfold nearestFrom; omega),
      fun hlt => absurd hlt (by unfold nearestFrom; omega)⟩
  | succ n ih =>
    unfold nearestFrom
    split
    · rename_i hle
      exact ⟨Nat.le_refl _, by omega, fun i hi hlt => by omega, fun _ => hle⟩
    · rename_i hlt
      obtain ⟨hlo, hhi, hbefore, hat⟩ := ih (p + 1) (by omega)
      refine ⟨by omega, hhi, fun i hi hi' => ?_, hat⟩
      rcases Nat.lt_or_eq_of_le hi with hgt | rfl
      · exact hbefore i hgt hi'
      · exact UInt32.lt_iff_toNat_lt.1 (UInt32.not_le.1 hlt)

theorem getNearestHzPtr_first (c : Clocks) {lo hi : Nat} (freq : UInt32) (h : lo ≤ hi) :
    FirstAtLeast c.hz lo hi freq.toNat (getNearestHzPtr c.freqTable lo hi freq) :=
  nearestFrom_first c freq _ _ (by omega)

theorem lastEntry_mem {freqTable : Nat → UInt32} (n p : Nat) :
    p ≤ lastEntry freqTable p n ∧ lastEntry freqTable p n ≤ p + n := by
  induction n generalizing p with
  | zero => exact ⟨Nat.le_refl _, Nat.le_refl _⟩
  | succ n ih =>
    unfold lastEntry
    split
    · omega
    · have hrest := ih (p + 1)
      omega

namespace Clocks

/-- The ranges are those of the current table and setting. -/
def UpToDate (c : Clocks) : Prop := c.freqRange = c.updateFreqRange.freqRange

theorem upToDate_updateFreqRange (c : Clocks) : c.updateFreqRange.UpToDate := rfl

theorem upToDate_setAllowUnsafe {c : Clocks} (h : c.UpToDate) (allow : Bool) :
    (c.setAllowUnsafe allow).UpToDate := by
  unfold setAllowUnsafe
  split
  · exact upToDate_updateFreqRange _
  · exact h

theorem setAllowUnsafe_kept (c : Clocks) (allow : Bool) :
    (c.setAllowUnsafe allow).isMariko = c.isMariko ∧
      (c.setAllowUnsafe allow).freqTable = c.freqTable ∧
      (c.setAllowUnsafe allow).boostCpuFreq = c.boostCpuFreq := by
  unfold setAllowUnsafe
  split <;> exact ⟨rfl, rfl, rfl⟩

/-- In a range as `InitDefault` leaves it, a frequency is searched for in the whole table. -/
theorem findFreq_first (c : Clocks) (module : SysClkModule) (freq : UInt32)
    (profile : SysClkProfile) :
    FirstAtLeast c.hz (tableHead module) (c.initDefault module).last freq.toNat
      (c.findFreq (c.initDefault module) freq profile) :=
  getNearestHzPtr_first c freq (lastEntry_mem _ _).1

/-- Least and greatest clock are in order, at most 31 words apart. -/
theorem range_bounds {c : Clocks} (h : c.UpToDate) (module : SysClkModule)
    (profile : SysClkProfile) :
    (c.freqRange module).min ≤ (c.freqRange module).max profile ∧
      (c.freqRange module).max profile ≤
        (c.freqRange module).min + FREQ_TABLE_MAX_ENTRY_COUNT := by
  have hlast : tableHead module ≤ (c.initDefault module).last ∧
      (c.initDefault module).last ≤ tableHead module + FREQ_TABLE_MAX_ENTRY_COUNT :=
    lastEntry_mem _ _
  have hfound := fun freq profile => And.intro (findFreq_first c module freq profile).lo_le
    (findFreq_first c module freq profile).le_hi
  rw [show c.freqRange = c.updateFreqRange.freqRange from h]
  cases module with
  | cpu =>
    show tableHead .cpu ≤ min _ _ ∧ min _ _ ≤ tableHead .cpu + _
    have hcap := hfound (if c.allowUnsafe then c.cpuUnsafeMax (c.initDefault .cpu).last profile
      else c.cpuSafeMax) profile
    omega
  | gpu =>
    show tableHead .gpu ≤ min _ _ ∧ min _ _ ≤ tableHead .gpu + _
    have hcap := hfound (if c.allowUnsafe then c.gpuUnsafeMax (c.initDefault .gpu).last profile
      else c.gpuSafeMax profile) profile
    omega
  | mem =>
    show c.memRange.min ≤ c.memRange.max profile ∧ c.memRange.max profile ≤ c.memRange.min + _
    have hmin := hfound 1600000000 .docked
    unfold memRange
    dsimp only
    split
    · show c.findFreq (c.initDefault .mem) 1600000000 .docked ≤ (c.initDefault .mem).last ∧
        (c.initDefault .mem).last ≤ c.findFreq (c.initDefault .mem) 1600000000 .docked + _
      omega
    · show tableHead .mem ≤ (c.initDefault .mem).last ∧ (c.initDefault .mem).last ≤ _
      exact hlast

theorem tableHead_le_min {c : Clocks} (h : c.UpToDate) (module : SysClkModule) :
    tableHead module ≤ (c.freqRange module).min := by
  rw [show c.freqRange = c.updateFreqRange.freqRange from h]
  cases module with
  | cpu => exact Nat.le_refl _
  | gpu => exact Nat.le_refl _
  | mem =>
    show _ ≤ c.memRange.min
    unfold memRange
    dsimp only
    split
    · exact (findFreq_first c .mem 1600000000 .docked).lo_le
    · exact Nat.le_refl _

/-- So `GetRange` succeeds, and `GetNearestHz` throws nothing. -/
theorem getRange_ok {c : Clocks} (h : c.UpToDate) (module : SysClkModule)
    (profile : SysClkProfile) :
    c.getRange module profile =
      some ((c.freqRange module).min, (c.freqRange module).max profile) := by
  have hb := range_bounds h module profile
  unfold getRange
  rw [if_neg]
  simp only [sizeofSysClkFrequencyTable, FREQ_TABLE_MAX_ENTRY_COUNT] at hb ⊢
  omega

/-- The nearest clock is the cap, or an entry in front of it that is at least `inHz`. -/
theorem getNearestHz_cases {c : Clocks} {module : SysClkModule} {profile : SysClkProfile}
    {inHz hz : UInt32} (h : c.getNearestHz module profile inHz = .ok hz) :
    hz = c.cap module profile ∨
      ∃ p, (c.freqRange module).min ≤ p ∧ p < (c.freqRange module).max profile ∧
        hz = c.freqTable p ∧ inHz ≤ hz := by
  unfold getNearestHz getRange at h
  dsimp only at h
  by_cases hrange : (c.freqRange module).max profile < (c.freqRange module).min ∨
      sizeofSysClkFrequencyTable <
        (c.freqRange module).max profile - (c.freqRange module).min + 1
  · rw [if_pos hrange] at h
    cases h
  · rw [if_neg hrange] at h
    rw [← Except.ok.inj h]
    have hfirst := getNearestHzPtr_first c inHz (Nat.le_of_not_lt (not_or.1 hrange).1)
    rcases Nat.lt_or_eq_of_le hfirst.le_hi with hlt | hend
    · exact .inr ⟨_, hfirst.lo_le, hlt, rfl, hfirst.atLeast hlt⟩
    · refine .inl ?_
      dsimp only
      rw [hend]
      rfl

end Clocks

end SwitchOc.SysClk
