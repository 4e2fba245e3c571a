import SwitchOcSuite.Lib.Session
import SwitchOcSuite.SysClk.Clocks
import SwitchOcSuite.SysClk.Config

/-!
# The clock manager (`sysmodule/src/clock_manager.cpp`, `oc_extra.cpp`)

`RefreshContext`, `Tick` and `WaitForNextTick` as programs on the manager's state.
What a call reads from the system is an `Environment`; the clocks of the
hardware are part of the state, as `SetHz` changes them.  A call logs what it
asks of the hardware: clock rates, charging commands, the charge current.

Temperatures, the CSV file and log lines are left out, and so are the threads of
the governor: of the `Governor` there is what the manager sets and reads.
-/

namespace SwitchOc.SysClk

open Function Traced
open Traced.Prog (getState gets sets emits ofExcept forEach foldEach)

/-! ## What the manager reads -/

/-- `psmGetChargerType`. -/
inductive PsmChargerType where
  | unconnected
  | enoughPower
  | lowPower
  | notSupported
deriving DecidableEq, Repr, Inhabited

/-- The fields of `PsmChargeInfo` that the charging handler looks at. -/
structure PsmChargeInfo where
  unk_x14 : UInt32
  chargerType : UInt32
deriving DecidableEq, Repr, Inhabited

def PsmInfoChargerType_None : UInt32 := 0

def psmIsChargerConnected (info : PsmChargeInfo) : Bool :=
  info.chargerType ≠ PsmInfoChargerType_None

def psmIsCharging (info : PsmChargeInfo) : Bool :=
  psmIsChargerConnected info && (info.unk_x14 >>> 8) &&& 1 ≠ 0

/-- The readings of one call.  Where a reading may fail it is an `Option`; the
others throw in that case, and the call does not go on. -/
structure Environment where
  fastChargeCurrentLimit : Option UInt32
  chargeInfo : PsmChargeInfo
  batteryChargePercentage : Option UInt32
  performanceMode : UInt32
  chargerType : PsmChargerType
  /-- `st_mtime` of the INI file, `0` without a file. -/
  iniModificationTime : Int
  /-- What `ini_browse` reports. -/
  iniEntries : List (Text × Text × Text)
  applicationId : UInt64
  /-- The first word of the ReverseNX-Tool patch of a title. -/
  gamePatch : UInt64 → Option UInt32
  /-- The first word of the patch for all titles. -/
  globalPatch : Option UInt32
  perfConfId : UInt32
  /-- `CpuCoreUtil(3, …).Get()`. -/
  core3Util : UInt32

/-- The clocks of the console, and the firmware's way to reset them. -/
structure Hardware (H : Type) where
  getClockRate : H → SysClkModule → UInt32
  setClockRate : H → SysClkModule → UInt32 → H
  requestPerformanceMode : H → UInt32 → H
  /-- `hosversionAtLeast(9,0,0)` -/
  hosAtLeast900 : Bool

/-- A console on firmware 9.0.0 or later that runs every clock at the rate it is set to. -/
def Hardware.exact : Hardware (SysClkModule → UInt32) where
  getClockRate hw := hw
  setClockRate hw module hz := update hw module hz
  requestPerformanceMode hw _ := hw
  hosAtLeast900 := true

/-! ## State -/

structure ReverseNXSync where
  rtMode : ReverseNXMode
  toolMode : ReverseNXMode
  appId : UInt64
  toolEnabled : Bool
  syncEnabled : Bool

namespace ReverseNXSync

def getMode (r : ReverseNXSync) : ReverseNXMode :=
  if !r.syncEnabled then .notFound
  else if r.rtMode ≠ .notFound then r.rtMode
  else r.toolMode

def getProfile (r : ReverseNXSync) (real : SysClkProfile) : SysClkProfile :=
  if r.getMode = .docked then .docked
  else if r.getMode = .handheld ∧ real = .docked then .handheldChargingOfficial
  else real

def getToolModeFromPatch (buf : Option UInt32) : ReverseNXMode :=
  if buf = some 0x320003E0 then .docked
  else if buf = some 0x52A00000 then .handheld
  else .notFound

def recheckToolMode (E : Environment) (r : ReverseNXSync) : ReverseNXMode :=
  if r.toolEnabled then
    let mode := getToolModeFromPatch (E.gamePatch r.appId)
    if mode = .notFound then getToolModeFromPatch E.globalPatch else mode
  else .notFound

/-- `Reset`: the mode set at run time is dropped, that of the tool looked up. -/
def reset (E : Environment) (app_id : UInt64) (r : ReverseNXSync) : ReverseNXSync :=
  let r := { r with appId := app_id, rtMode := .notFound }
  { r with toolMode := r.recheckToolMode E }

end ReverseNXSync

structure Governor where
  config : SysClkOcGovernorConfig
  perfConfId : UInt32
  /-- `m_apm_conf`, unset before the first `SetPerfConf`. -/
  apmConf : Option SysClkApmConfiguration
  cpuMinHz : UInt32
  cpuMaxHz : UInt32
  cpuBoostHz : UInt32
  cpuAutoBoost : Bool
  gpuMinHz : UInt32
  gpuMaxHz : UInt32

namespace Governor

def isHandledByGovernor (g : Governor) (module : SysClkModule) : Bool :=
  getGovernorEnabled g.config module

def setMinHz (minHz : UInt32) (module : SysClkModule) (g : Governor) : Governor :=
  if module = .cpu then { g with cpuMinHz := minHz } else g

/-- `SetMaxHz`: `0` stands for the stock clock of the module. -/
def setMaxHz (isMariko : Bool) (maxHz : UInt32) (module : SysClkModule) (g : Governor) :
    Except Fault Governor :=
  let bounded (maxHz : UInt32) : Governor :=
    match module with
    | .cpu => { g with cpuMaxHz := maxHz }
    | .gpu =>
      { g with gpuMaxHz := maxHz, gpuMinHz := if maxHz ≤ 153600000 then maxHz else 153600000 }
    | .mem => g
  if maxHz ≠ 0 then .ok (bounded maxHz)
  else
    match g.apmConf with
    | none => .error .unsetApmConfiguration
    | some apm => .ok (bounded (getStockClock isMariko apm module))

end Governor

structure SysClkContext where
  enabled : Bool
  applicationId : UInt64
  profile : SysClkProfile
  freqs : SysClkModule → UInt32
  overrideFreqs : SysClkModule → UInt32
  perfConfId : UInt32

structure SysClkOcExtra where
  systemCoreBoostCPU : Bool
  batteryChargingDisabledOverride : Bool
  realProfile : SysClkProfile

structure ClockManager (H : Type) where
  config : Config
  context : SysClkContext
  oc : SysClkOcExtra
  rnxSync : ReverseNXSync
  governor : Governor
  clocks : Clocks
  hw : H

/-! ## What the manager asks for -/

/-- The caller of `Clocks::SetHz`. -/
inductive Caller where
  | resetToStock
  | tick
  | waitForNextTick
deriving DecidableEq, Repr

inductive IPsmServerCmd where
  | enableBatteryCharging
  | disableBatteryCharging
deriving DecidableEq, Repr

inductive Access where
  /-- `SetHz(module, hz)`; `cap` records `*freqRange[module].max[oc->realProfile]`
  at the time of the call. -/
  | setHz (caller : Caller) (module : SysClkModule) (hz cap : UInt32)
  | requestPerformanceMode (mode : UInt32)
  | setFastChargeCurrentLimit (ma : UInt32)
  | psmDispatch (cmd : IPsmServerCmd)
deriving DecidableEq, Repr

abbrev Manager (H : Type) := Prog Fault (ClockManager H) Access

namespace ClockManager

variable {H : Type}

/-- The manager as the constructor leaves it, after `Clocks::Initialize`.
`ReverseNXSync` looks for the tool; the flag `syncEnabled` is not initialised. -/
def new (clocks : Clocks) (toolEnabled syncEnabled : Bool) (hw : H) : ClockManager H where
  config := Config.new
  context :=
    { enabled := false, applicationId := 0, profile := .handheld, freqs := fun _ => 0,
      overrideFreqs := fun _ => 0, perfConfId := 0 }
  oc :=
    { systemCoreBoostCPU := false, batteryChargingDisabledOverride := false,
      realProfile := .handheld }
  rnxSync :=
    { rtMode := .notFound, toolMode := .notFound, appId := 0, toolEnabled := toolEnabled,
      syncEnabled := syncEnabled }
  governor :=
    { config := SysClkOcGovernorConfig_AllDisabled, perfConfId := 0, apmConf := none,
      cpuMinHz := 0, cpuMaxHz := 0, cpuBoostHz := clocks.boostCpuFreq, cpuAutoBoost := false,
      gpuMinHz := 153600000, gpuMaxHz := 0 }
  clocks := clocks.updateFreqRange
  hw := hw

/-- The cap of a module under the real profile. -/
def cap (s : ClockManager H) (module : SysClkModule) : UInt32 :=
  s.clocks.cap module s.oc.realProfile

def configValue (s : ClockManager H) (kval : SysClkConfigValue) : UInt64 :=
  s.config.configValues kval

/-- `Clocks::SetHz`. -/
def setHz (P : Hardware H) (caller : Caller) (module : SysClkModule) (hz : UInt32) :
    Manager H Unit :=
  emits (fun s => .setHz caller module hz (s.cap module))
    fun s => { s with hw := P.setClockRate s.hw module hz }

/-- `Clocks::GetCurrentProfile`. -/
def getCurrentProfile (E : Environment) : SysClkProfile :=
  if E.performanceMode ≠ 0 then .docked
  else
    match E.chargerType with
    | .enoughPower => .handheldChargingOfficial
    | .lowPower
    | .notSupported => .handheldChargingUSB
    | .unconnected => .handheld

/-- `Clocks::ResetToStock`, of one module or, for `SysClkModule_EnumMax`, of all. -/
def resetToStock (P : Hardware H) (E : Environment) (module : Option SysClkModule) :
    Manager H Unit :=
  if P.hosAtLeast900 then do
    let apm ← ofExcept (getEmbeddedApmConfig E.perfConfId)
    let isMariko ← gets fun s => s.clocks.isMariko
    forEach SysClkModule.all fun m =>
      if module = none ∨ module = some m then
        setHz P .resetToStock m (getStockClock isMariko apm m)
      else pure ()
  else
    emits (fun _ => .requestPerformanceMode E.performanceMode)
      fun s => { s with hw := P.requestPerformanceMode s.hw E.performanceMode }

/-! ## Charging -/

/-- The first half of `PsmExt::ChargingHandler`. -/
def limitChargingCurrent (E : Environment) : Manager H Unit :=
  match E.fastChargeCurrentLimit with
  | none => pure ()
  | some current => do
    let chargingCurrent ← gets fun s => (s.configValue .chargingCurrentLimit).toUInt32
    if current - current % 100 ≠ chargingCurrent then
      emits (fun _ => .setFastChargeCurrentLimit chargingCurrent) id
    else pure ()

def dispatchWhen (c : Bool) (cmd : IPsmServerCmd) : Manager H Unit :=
  if c then emits (fun _ => .psmDispatch cmd) id else pure ()

/-- The second half of `PsmExt::ChargingHandler`. -/
def limitCharging (E : Environment) : Manager H Unit :=
  if psmIsChargerConnected E.chargeInfo then
    match E.batteryChargePercentage with
    | none => pure ()
    | some chargeNow => do
      let isCharging := psmIsCharging E.chargeInfo
      let chargingLimit ← gets fun s => (s.configValue .chargingLimitPercentage).toUInt32
      let forceDisabled ← gets fun s => s.oc.batteryChargingDisabledOverride
      dispatchWhen (isCharging && (forceDisabled || chargingLimit ≤ chargeNow))
        .disableBatteryCharging
      dispatchWhen (!isCharging && chargingLimit > chargeNow) .enableBatteryCharging
  else pure ()

/-- `PsmExt::ChargingHandler`. -/
def chargingHandler (E : Environment) : Manager H Unit := do
  limitChargingCurrent E
  limitCharging E

theorem dispatchWhen_run (c : Bool) (cmd : IPsmServerCmd) (s : ClockManager H) :
    (dispatchWhen c cmd s).result = .ok () ∧ (dispatchWhen c cmd s).state = s := by
  unfold dispatchWhen
  cases c <;> exact ⟨rfl, rfl⟩

theorem limitChargingCurrent_run (E : Environment) (s : ClockManager H) :
    (limitChargingCurrent E s).result = .ok () ∧ (limitChargingCurrent E s).state = s := by
  unfold limitChargingCurrent
  cases E.fastChargeCurrentLimit with
  | none => exact ⟨rfl, rfl⟩
  | some current =>
    dsimp only
    rw [gets_bind_run]
    split <;> exact ⟨rfl, rfl⟩

theorem limitCharging_run (E : Environment) (s : ClockManager H) :
    (limitCharging E s).result = .ok () ∧ (limitCharging E s).state = s := by
  unfold limitCharging
  by_cases hconn : psmIsChargerConnected E.chargeInfo = true
  · rw [if_pos hconn]
    cases E.batteryChargePercentage with
    | none => exact ⟨rfl, rfl⟩
    | some chargeNow =>
      dsimp only
      rw [gets_bind_run, gets_bind_run, bind_of_ok (dispatchWhen_run _ _ s).1,
        (dispatchWhen_run _ _ s).2]
      exact dispatchWhen_run _ _ s
  · rw [if_neg hconn]
    exact ⟨rfl, rfl⟩

/-- The charging handler returns, and leaves the manager as it is. -/
theorem chargingHandler_run (E : Environment) (s : ClockManager H) :
    (chargingHandler E s).result = .ok () ∧ (chargingHandler E s).state = s := by
  obtain ⟨hres, hstate⟩ := limitChargingCurrent_run E s
  unfold chargingHandler
  rw [bind_of_ok hres, hstate]
  exact limitCharging_run E s

/-! ## `RefreshContext`

Each part takes the flag `hasChanged` of the parts before it and returns the
new one. -/

def refreshRealProfile (realProfile : SysClkProfile) (hasChanged : Bool) : Manager H Bool := do
  let stored ← gets fun s => s.oc.realProfile
  if realProfile ≠ stored then do
    -- the power state has changed: the override is reset
    sets fun s => { s with
      oc := { s.oc with realProfile := realProfile, batteryChargingDisabledOverride := false } }
    pure true
  else pure hasChanged

/-- What a freshly loaded configuration changes. -/
def applyConfig : Manager H Unit := do
  sets fun s => { s with
    rnxSync := { s.rnxSync with syncEnabled := s.configValue .syncReverseNXMode ≠ 0 } }
  sets fun s => { s with
    clocks := s.clocks.setAllowUnsafe (s.configValue .allowUnsafeFrequencies ≠ 0) }
  sets fun s => { s with
    governor := { s.governor with cpuAutoBoost := s.configValue .autoCPUBoost ≠ 0 } }
  let nearest ← gets fun s => s.clocks.getNearestHz .cpu s.oc.realProfile s.clocks.boostCpuFreq
  let boostHz ← ofExcept nearest
  sets fun s => { s with governor := { s.governor with cpuBoostHz := boostHz } }

/-- `hasChanged = this->config->Refresh()`: the flag of the parts before is not used. -/
def refreshConfig (E : Environment) : Manager H Bool := do
  let refreshed ← gets fun s =>
    s.config.refresh s.clocks.maxMemFreq E.iniModificationTime E.iniEntries
  sets fun s => { s with config := refreshed.2 }
  if refreshed.1 then do
    applyConfig
    pure true
  else pure false

def refreshEnabled (hasChanged : Bool) : Manager H Bool := do
  let s ← getState
  if s.config.enabled ≠ s.context.enabled then do
    sets fun s => { s with context := { s.context with enabled := s.config.enabled } }
    pure true
  else pure hasChanged

def refreshApplicationId (E : Environment) (hasChanged : Bool) : Manager H Bool := do
  let stored ← gets fun s => s.context.applicationId
  if E.applicationId ≠ stored then do
    sets fun s => { s with
      context := { s.context with applicationId := E.applicationId }
      rnxSync := s.rnxSync.reset E E.applicationId }
    pure true
  else pure hasChanged

/-- The governors that are on for the title and the profile. -/
def governorConfig (s : ClockManager H) (applicationId : UInt64) (realProfile : SysClkProfile) :
    SysClkOcGovernorConfig :=
  if s.configValue .governorExperimental ≠ 0 then
    if s.configValue .governorHandheldOnly ≠ 0 ∧ realProfile ≠ .handheld then
      SysClkOcGovernorConfig_AllDisabled
    else s.config.getTitleGovernorConfig applicationId
  else SysClkOcGovernorConfig_AllDisabled

def refreshGovernorConfig (E : Environment) (realProfile : SysClkProfile) : Manager H Unit :=
  sets fun s => { s with
    governor := { s.governor with config := s.governorConfig E.applicationId realProfile } }

def refreshPerfConf (E : Environment) (hasChanged : Bool) : Manager H Bool := do
  let stored ← gets fun s => s.context.perfConfId
  if stored ≠ E.perfConfId then do
    sets fun s => { s with
      context := { s.context with perfConfId := E.perfConfId }
      governor := { s.governor with perfConfId := E.perfConfId } }
    let apm ← ofExcept (getEmbeddedApmConfig E.perfConfId)
    sets fun s => { s with governor := { s.governor with apmConf := some apm } }
    pure true
  else pure hasChanged

def refreshProfile (hasChanged : Bool) : Manager H Bool := do
  let current ← gets fun s => s.context.profile
  let expected ← gets fun s => s.rnxSync.getProfile s.oc.realProfile
  sets fun s => { s with context := { s.context with profile := expected } }
  if current ≠ expected then pure true else pure hasChanged

/-- The clocks are reset, unless `ptm` handles the boost clocks. -/
def resetIfChanged (P : Hardware H) (E : Environment) (hasChanged : Bool) : Manager H Unit := do
  let perfConfId ← gets fun s => s.context.perfConfId
  if hasChanged && !apmExtIsBoostMode perfConfId then resetToStock P E none else pure ()

def rememberClock (P : Hardware H) (module : SysClkModule) (hasChanged : Bool) :
    Manager H Bool := do
  let s ← getState
  let hz := P.getClockRate s.hw module
  if hz ≠ 0 ∧ hz ≠ s.context.freqs module then do
    sets fun s => { s with
      context := { s.context with freqs := update s.context.freqs module hz } }
    if !s.governor.isHandledByGovernor module then pure true else pure hasChanged
  else pure hasChanged

def refreshOverride (P : Hardware H) (E : Environment) (module : SysClkModule)
    (hasChanged : Bool) : Manager H Bool := do
  let s ← getState
  let hz := s.config.overrideFreqs module
  if hz ≠ s.context.overrideFreqs module then do
    (if hz ≠ 0 then pure () else resetToStock P E (some module))
    sets fun s => { s with
      context := { s.context with overrideFreqs := update s.context.overrideFreqs module hz } }
    pure true
  else pure hasChanged

def refreshModule (P : Hardware H) (E : Environment) (module : SysClkModule) (hasChanged : Bool) :
    Manager H Bool := do
  let hasChanged ← rememberClock P module hasChanged
  refreshOverride P E module hasChanged

/-- `RefreshContext` from the charging handler to the clocks. -/
def refreshSources (E : Environment) : Manager H Bool := do
  let realProfile := getCurrentProfile E
  let _hasChanged ← refreshRealProfile realProfile false
  let hasChanged ← refreshConfig E
  let hasChanged ← refreshEnabled hasChanged
  let hasChanged ← refreshApplicationId E hasChanged
  refreshGovernorConfig E realProfile
  let hasChanged ← refreshPerfConf E hasChanged
  refreshProfile hasChanged

/-- `RefreshContext` behind the charging handler. -/
def refreshState (P : Hardware H) (E : Environment) : Manager H Bool := do
  let hasChanged ← refreshSources E
  resetIfChanged P E hasChanged
  foldEach SysClkModule.all (refreshModule P E) hasChanged

/-- `ClockManager::RefreshContext`. -/
def refreshContext (P : Hardware H) (E : Environment) : Manager H Bool := do
  chargingHandler E
  refreshState P E

/-! ## Target clocks -/

/-- The clock that the ReverseNX mode stands for. -/
def presetHz (s : ClockManager H) : SysClkModule → UInt32
  | .cpu => 1020000000
  | .gpu =>
    if s.rnxSync.getMode = .docked ∨ s.oc.realProfile = .docked then 768000000 else 460800000
  | .mem => MEM_CLOCK_DOCK

/-- `GetHz` up to the cap: override, title, global profile and ReverseNX mode, in this order. -/
def requestedHz (s : ClockManager H) (module : SysClkModule) : UInt32 :=
  let hz := s.context.overrideFreqs module
  let hz := if hz = 0 then
      s.config.getAutoClockHz s.context.applicationId module s.context.profile else hz
  let hz := if hz = 0 then
      s.config.getAutoClockHz SYSCLK_GLOBAL_PROFILE_TID module s.context.profile else hz
  if hz = 0 ∧ s.rnxSync.getMode ≠ .notFound then s.presetHz module else hz

/-- `GetHz` behind the cap: the CPU is boosted, and never left without a clock. -/
def boostedHz (s : ClockManager H) (module : SysClkModule) (hz : UInt32) : UInt32 :=
  if module = .cpu then
    if s.oc.systemCoreBoostCPU && hz < s.clocks.boostCpuFreq then s.clocks.boostCpuFreq
    else if hz = 0 then 1020000000
    else hz
  else hz

/-- `ClockManager::GetHz`. -/
def getHz (s : ClockManager H) (module : SysClkModule) : Except Fault UInt32 :=
  let hz := s.requestedHz module
  if hz ≠ 0 then
    match s.clocks.getNearestHz module s.oc.realProfile hz with
    | .error fault => .error fault
    | .ok hz => .ok (s.boostedHz module hz)
  else .ok (s.boostedHz module 0)

/-! ## `Tick` and `WaitForNextTick` -/

/-- The bounds that the governor gets. -/
def setGovernorBounds (module : SysClkModule) (hz : UInt32) : Manager H Unit := do
  sets fun s =>
    if module = .cpu then
      let minHz :=
        if s.clocks.isMariko && 1020000000 < hz then 1020000000
        else s.clocks.freqTable (s.clocks.freqRange .cpu).first
      { s with governor := s.governor.setMinHz minHz .cpu }
    else s
  let bounded ← gets fun s => s.governor.setMaxHz s.clocks.isMariko hz module
  let governor ← ofExcept bounded
  sets fun s => { s with governor := governor }

/-- CPU or GPU clocks that are left to the boost mode of the system. -/
def skipBoost (s : ClockManager H) (module : SysClkModule) (hz : UInt32) : Bool :=
  apmExtIsBoostMode s.context.perfConfId &&
    ((module = .cpu && hz ≤ s.clocks.boostCpuFreq) || module = .gpu)

/-- The clock is set to `hz`. -/
def needsSetting (s : ClockManager H) (module : SysClkModule) (hz : UInt32) : Bool :=
  hz ≠ 0 && hz ≠ s.context.freqs module && !s.governor.isHandledByGovernor module &&
    !s.skipBoost module hz

def applyClock (P : Hardware H) (module : SysClkModule) : Manager H Unit := do
  let target ← gets fun s => s.getHz module
  let hz ← ofExcept target
  setGovernorBounds module hz
  let needed ← gets fun s => s.needsSetting module hz
  if needed then do
    setHz P .tick module hz
    sets fun s => { s with
      context := { s.context with
        freqs := update s.context.freqs module (P.getClockRate s.hw module) } }
  else pure ()

/-- `ClockManager::Tick`. -/
def tick (P : Hardware H) (E : Environment) : Manager H Unit := do
  let hasChanged ← refreshContext P E
  let enabled ← gets fun s => s.context.enabled
  if hasChanged && enabled then forEach SysClkModule.all (applyClock P) else pure ()

/-- `Clocks::SetHz(SysClkModule_CPU, GetHz(SysClkModule_CPU))`. -/
def restoreCpuHz (P : Hardware H) : Manager H Unit := do
  let target ← gets fun s => s.getHz .cpu
  let hz ← ofExcept target
  setHz P .waitForNextTick .cpu hz

def boostOK (s : ClockManager H) : Bool :=
  s.configValue .autoCPUBoost ≠ 0 && s.context.enabled && s.oc.realProfile ≠ .handheld &&
    s.context.freqs .cpu ≤ s.clocks.boostCpuFreq

def setBoost (boost : Bool) : Manager H Unit :=
  sets fun s => { s with oc := { s.oc with systemCoreBoostCPU := boost } }

/-- The boost is switched by the load of the system core. -/
def updateBoost (P : Hardware H) (E : Environment) : Manager H Unit := do
  let lastBoost ← gets fun s => s.oc.systemCoreBoostCPU
  let boost := decide (BOOST_THRESHOLD ≤ E.core3Util)
  setBoost boost
  (if lastBoost && !boost then restoreCpuHz P else pure ())
  let boostCpuFreq ← gets fun s => s.clocks.boostCpuFreq
  if !lastBoost && boost then setHz P .waitForNextTick .cpu boostCpuFreq else pure ()

/-- `ClockManager::WaitForNextTick`. -/
def waitForNextTick (P : Hardware H) (E : Environment) : Manager H Unit := do
  let s ← getState
  if s.governor.isHandledByGovernor .cpu then pure ()
  else if s.boostOK then updateBoost P E
  else if s.oc.systemCoreBoostCPU then do
    setBoost false
    restoreCpuHz P
  else pure ()

end ClockManager

/-! ## Calls

The main loop calls `Tick` and `WaitForNextTick`, the IPC service the rest.
Between calls the system may move the clocks. -/

inductive Call (H : Type) where
  | tick (E : Environment)
  | waitForNextTick (E : Environment)
  | setEnabled (enabled : Bool)
  | setOverride (module : SysClkModule) (hz : UInt32)
  | setReverseNXRTMode (mode : ReverseNXMode)
  | setBatteryChargingDisabledOverride (toggle_true : Bool)
  /-- `saved`: `ini_putsection` succeeds. -/
  | setProfiles (tid : UInt64) (profiles : SysClkTitleProfileList) (saved : Bool)
  | setConfigValues (values : SysClkConfigValue → UInt64) (saved : Bool)
  | moveClocks (hw : H)

/-- A tick with readings that satisfy `p`. -/
def Call.tickWith {H : Type} (p : Environment → Bool) : Call H → Bool
  | .tick E => p E
  | _ => false

theorem Call.exists_of_tickWith {H : Type} {p : Environment → Bool} {c : Call H}
    (h : c.tickWith p = true) : ∃ E, c = .tick E ∧ p E = true := by
  cases c with
  | tick E => exact ⟨E, rfl, h⟩
  | _ => cases h

/-- A wait with readings that satisfy `p`. -/
def Call.waitWith {H : Type} (p : Environment → Bool) : Call H → Bool
  | .waitForNextTick E => p E
  | _ => false

theorem Call.exists_of_waitWith {H : Type} {p : Environment → Bool} {c : Call H}
    (h : c.waitWith p = true) : ∃ E, c = .waitForNextTick E ∧ p E = true := by
  cases c with
  | waitForNextTick E => exact ⟨E, rfl, h⟩
  | _ => cases h

/-- `ini_putsection` where only its success matters. -/
def savedAs (saved : Bool) (_ : Text) (_ : List (Text × Text)) : Option Unit :=
  if saved then some () else none

def serve {H : Type} (P : Hardware H) : Call H → Manager H Unit
  | .tick E => ClockManager.tick P E
  | .waitForNextTick E => ClockManager.waitForNextTick P E
  | .setEnabled enabled => sets fun s => { s with config := { s.config with enabled := enabled } }
  | .setOverride module hz =>
    sets fun s => { s with
      config := { s.config with overrideFreqs := update s.config.overrideFreqs module hz } }
  | .setReverseNXRTMode mode =>
    sets fun s => { s with rnxSync := { s.rnxSync with rtMode := mode } }
  | .setBatteryChargingDisabledOverride toggle_true =>
    sets fun s => { s with oc := { s.oc with batteryChargingDisabledOverride := toggle_true } }
  | .setProfiles tid profiles saved => do
    let s ← getState
    if s.config.loaded then do
      let result ← ofExcept (s.config.setProfiles (savedAs saved) tid profiles)
      sets fun s => { s with config := result.2 }
    else pure ()
  | .setConfigValues values saved =>
    sets fun s =>
      if s.config.loaded then
        { s with config := (s.config.setConfigValues (savedAs saved) values).2 }
      else s
  | .moveClocks hw => sets fun s => { s with hw := hw }

end SwitchOc.SysClk
