import Mathlib.Logic.Basic
import Mathlib.Tactic.Common

/-!
# sys-clk types: profiles, modules, configuration values

The enumerations of `common/include/sysclk/clocks.h` and `config.h`, with the
codes they have in the INI file.  An enumeration keeps the order of the source,
which is the order of every loop over it.

A C string is the list of its characters, the final NUL left out.  Frequencies
are 32-bit words, title ids and configuration values 64-bit ones.
-/

namespace SwitchOc.SysClk

abbrev Text := List Char

/-- What ends a call early: an exception, or a step that C++ leaves undefined. -/
inductive Fault where
  /-- `table lookup failed for SysClkModule: %u` -/
  | tableLookupFailed (module : Nat)
  /-- `Unknown apm configuration: %x` -/
  | unknownApmConfiguration (confId : UInt32)
  /-- A read through `m_apm_conf` before `SetPerfConf` has set it. -/
  | unsetApmConfiguration
  /-- A string written behind the end of `keysStr` and `valuesStr`. -/
  | stringBufferOverrun
deriving DecidableEq, Repr, Inhabited

/-! ## Profiles and modules -/

inductive SysClkProfile where
  | handheld
  | handheldCharging
  | handheldChargingUSB
  | handheldChargingOfficial
  | docked
deriving DecidableEq, Repr, Inhabited

def SysClkProfile.all : List SysClkProfile :=
  [.handheld, .handheldCharging, .handheldChargingUSB, .handheldChargingOfficial, .docked]

inductive SysClkModule where
  | cpu
  | gpu
  | mem
deriving DecidableEq, Repr, Inhabited

def SysClkModule.all : List SysClkModule := [.cpu, .gpu, .mem]

@[simp] theorem SysClkProfile.mem_all (p : SysClkProfile) : p ∈ SysClkProfile.all := by
  cases p <;> decide

@[simp] theorem SysClkModule.mem_all (m : SysClkModule) : m ∈ SysClkModule.all := by
  cases m <;> decide

/-- A statement about every module is decided module by module. -/
instance (q : SysClkModule → Prop) [DecidablePred q] : Decidable (∀ m, q m) :=
  decidable_of_iff (∀ m ∈ SysClkModule.all, q m)
    ⟨fun h m => h m (SysClkModule.mem_all m), fun h m _ => h m⟩

/-- `sysclkFormatProfile(profile, false)`. -/
def sysclkFormatProfile : SysClkProfile → Text
  | .docked => "docked".toList
  | .handheld => "handheld".toList
  | .handheldCharging => "handheld_charging".toList
  | .handheldChargingUSB => "handheld_charging_usb".toList
  | .handheldChargingOfficial => "handheld_charging_official".toList

/-- `sysclkFormatModule(module, false)`. -/
def sysclkFormatModule : SysClkModule → Text
  | .cpu => "cpu".toList
  | .gpu => "gpu".toList
  | .mem => "mem".toList

/-- The `enum` holds any word; three of them have names. -/
structure ReverseNXMode where
  word : UInt32
deriving DecidableEq, Repr, Inhabited

namespace ReverseNXMode

/-- Also `ReverseNX_SystemDefault`. -/
def notFound : ReverseNXMode := ⟨0⟩
def handheld : ReverseNXMode := ⟨1⟩
def docked : ReverseNXMode := ⟨2⟩

end ReverseNXMode

def SYSCLK_GLOBAL_PROFILE_TID : UInt64 := 0xA111111111111111

/-! ## Governor configuration -/

/-- A bit per governor: bit 0 for the CPU, bit 1 for the GPU. -/
abbrev SysClkOcGovernorConfig := UInt32

def SysClkOcGovernorConfig_AllDisabled : SysClkOcGovernorConfig := 0
def SysClkOcGovernorConfig_Default : SysClkOcGovernorConfig := 3
def SysClkOcGovernorConfig_Mask : UInt64 := 3

def getGovernorEnabled (config : SysClkOcGovernorConfig) : SysClkModule → Bool
  | .cpu => (config >>> 0) &&& 1 != 0
  | .gpu => (config >>> 1) &&& 1 != 0
  | .mem => false

/-! ## Title profiles -/

/-- `SysClkTitleProfileList`: a frequency in MHz per profile and module, `0` for
none, and the governors of the title. -/
structure SysClkTitleProfileList where
  mhzMap : SysClkProfile → SysClkModule → UInt32
  governorConfig : SysClkOcGovernorConfig

/-- The fifteen slots of `mhz[]`, in the order in which the union lays them out. -/
def profileSlots : List (SysClkProfile × SysClkModule) :=
  SysClkProfile.all.flatMap fun profile => SysClkModule.all.map fun module => (profile, module)

/-! ## Configuration values -/

inductive SysClkConfigValue where
  | pollingIntervalMs
  | tempLogIntervalMs
  | csvWriteIntervalMs
  | autoCPUBoost
  | syncReverseNXMode
  | allowUnsafeFrequencies
  | chargingCurrentLimit
  | chargingLimitPercentage
  | governorExperimental
  | governorHandheldOnly
deriving DecidableEq, Repr, Inhabited

def SysClkConfigValue.all : List SysClkConfigValue :=
  [.pollingIntervalMs, .tempLogIntervalMs, .csvWriteIntervalMs, .autoCPUBoost,
    .syncReverseNXMode, .allowUnsafeFrequencies, .chargingCurrentLimit,
    .chargingLimitPercentage, .governorExperimental, .governorHandheldOnly]

/-- `sysclkFormatConfigValue(val, false)`. -/
def sysclkFormatConfigValue : SysClkConfigValue → Text
  | .pollingIntervalMs => "poll_interval_ms".toList
  | .tempLogIntervalMs => "temp_log_interval_ms".toList
  | .csvWriteIntervalMs => "csv_write_interval_ms".toList
  | .autoCPUBoost => "auto_cpu_boost".toList
  | .syncReverseNXMode => "sync_reversenx_mode".toList
  | .allowUnsafeFrequencies => "allow_unsafe_freq".toList
  | .chargingCurrentLimit => "charging_current".toList
  | .chargingLimitPercentage => "charging_limit_perc".toList
  | .governorExperimental => "governor_experimental".toList
  | .governorHandheldOnly => "governor_handheld_only".toList

def CHARGING_CURRENT_MA_LIMIT : UInt64 := 2000

def sysclkDefaultConfigValue : SysClkConfigValue → UInt64
  | .pollingIntervalMs => 500
  | .tempLogIntervalMs
  | .csvWriteIntervalMs
  | .allowUnsafeFrequencies
  | .governorExperimental
  | .governorHandheldOnly
  | .autoCPUBoost => 0
  | .syncReverseNXMode => 1
  | .chargingCurrentLimit => 2000
  | .chargingLimitPercentage => 100

def sysclkValidConfigValue (val : SysClkConfigValue) (input : UInt64) : Bool :=
  match val with
  | .pollingIntervalMs => 0 < input
  | .tempLogIntervalMs
  | .csvWriteIntervalMs => true
  | .autoCPUBoost
  | .syncReverseNXMode
  | .allowUnsafeFrequencies
  | .governorExperimental
  | .governorHandheldOnly => input &&& 1 = input
  | .chargingCurrentLimit =>
    100 ≤ input && input ≤ CHARGING_CURRENT_MA_LIMIT && input % 100 = 0
  | .chargingLimitPercentage => input ≤ 100 && 20 ≤ input

/-- Every default passes its own check. -/
theorem sysclkValidConfigValue_default (val : SysClkConfigValue) :
    sysclkValidConfigValue val (sysclkDefaultConfigValue val) := by
  cases val <;> decide

end SwitchOc.SysClk
