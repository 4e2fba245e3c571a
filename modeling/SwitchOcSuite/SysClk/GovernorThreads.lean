import SwitchOcSuite.Lib.Interleaving
import SwitchOcSuite.SysClk.GovernorFreq
import SwitchOcSuite.SysClk.GovernorLoad

/-!
# The threads of the governors (`sysmodule/src/oc_extra.cpp`)

`Governor::SetConfig` starts and stops a worker on every core, and a manager.  The workers
measure the load of their cores, and look after cores that are stuck; the manager applies
the frequencies.  The thread that calls `SetConfig` waits for those that it stops.  A step
takes one thread over a test or a call.

    Threads           which threads there are
    threads_of_config a thread for every governor that is enabled, between two calls
    late_calls        who still sets a clock when its governor is disabled
-/

namespace SwitchOc.SysClk

open Function

/-! ## Positions -/

/-- Where a worker is in `WorkerContext::Loop`. -/
inductive WorkerAt
  /-- not created, or closed -/
  | absent
  /-- at `while (worker->running)` -/
  | top
  /-- about to measure -/
  | sample
  /-- at `apmExtIsCPUBoosted`, with `tick` -/
  | boosted (tick : UInt64)
  /-- about to look at core `id` -/
  | check (tick : UInt64) (id : Nat)
  | applyBoost
  | applyMax
  | exited
  deriving DecidableEq

/-- Where the manager is in `ContextManager`. -/
inductive ManagerAt
  | absent
  /-- at `while (self->m_manager.running)` -/
  | top
  /-- about to call `RefreshContext` -/
  | refresh
  | perfConf
  /-- at the first test for `gpuThrottled`, with `perf_conf` -/
  | throttled (perf_conf : UInt32)
  | boostGpu (perf_conf : UInt32)
  /-- at the first test for `cpuBoosted` -/
  | boosted (perf_conf : UInt32)
  | boostCpu
  | gpu
  | applyGpu
  | cpu
  | applyCpu
  | sleep
  | exited
  deriving DecidableEq

/-- Where the caller of `SetConfig` is. -/
inductive ControlAt
  /-- between two calls -/
  | idle
  /-- in `onConfigUpdated` of the workers -/
  | updateWorker (config : SysClkOcGovernorConfig)
  /-- about to start worker `j`, or done -/
  | startWorker (config : SysClkOcGovernorConfig) (j : Nat)
  /-- about to wait for worker `j` and close it, or done -/
  | stopWorker (config : SysClkOcGovernorConfig) (j : Nat)
  /-- in `onConfigUpdated` of the manager -/
  | updateManager (config : SysClkOcGovernorConfig)
  | startManager
  | stopManager
  deriving DecidableEq

abbrev CORE_NUMS : Nat := 4
def SYS_CORE_ID : Nat := CORE_NUMS - 1
def UPDATE_CONTEXT_RATE : Nat := 200 / 2

/-- The variables of `ContextManager`. -/
structure ManagerVars where
  update_ticks : Nat
  cpuBoosted : Bool
  gpuThrottled : Bool

/-- What the threads share, where `calls` are their calls of `Clocks::SetHz`. -/
structure Governors where
  governor : Governor
  cpuTarget : UInt32
  gpuTarget : UInt32
  cpuUtil : PeltUtil
  gpuUtil : MaxWindow
  workerRunning : Bool
  worker : Fin CORE_NUMS → WorkerAt
  util : Fin CORE_NUMS → UInt32
  tick : Fin CORE_NUMS → UInt64
  managerRunning : Bool
  manager : ManagerAt
  vars : ManagerVars
  control : ControlAt
  calls : List (SysClkModule × UInt32)

/-! ## Calls -/

namespace Governors

/-- The governor of a module, where `lists` has the frequency tables. -/
def base (lists : SysClkModule → List UInt32) (s : Governors) (module : SysClkModule) :
    BaseGovernor :=
  match module with
  | .gpu => s.governor.gpu (lists .gpu) s.gpuTarget
  | _ => s.governor.cpu (lists .cpu) s.cpuTarget

/-- What a governor has done. -/
def applied (s : Governors) (r : BaseGovernor × Option (SysClkModule × UInt32)) : Governors :=
  match r.1.m_module with
  | .gpu => { s with gpuTarget := r.1.m_target_hz, calls := s.calls ++ r.2.toList }
  | _ => { s with cpuTarget := r.1.m_target_hz, calls := s.calls ++ r.2.toList }

variable (lists : SysClkModule → List UInt32)

/-- `CpuGovernor::ApplyBoost` -/
def applyCpuBoost (s : Governors) : Governors :=
  s.applied ((s.base lists .cpu).applyTargetFreq
    (if s.governor.cpuBoostHz < s.governor.cpuMaxHz then s.governor.cpuMaxHz
      else s.governor.cpuBoostHz))

def applyCpuMax (s : Governors) : Governors :=
  s.applied ((s.base lists .cpu).applyTargetFreq s.governor.cpuMaxHz)

/-- `GpuGovernor::ApplyBoost` -/
def applyGpuBoost (s : Governors) : Governors :=
  s.applied ((s.base lists .gpu).applyTargetFreq 76800000)

/-- `CalcNormalizedUtil` -/
def calcNormalizedUtil (rawUtil target_hz max_hz : UInt32) : UInt32 :=
  (rawUtil.toUInt64 * target_hz.toUInt64 / max_hz.toUInt64).toUInt32

/-- `ApplyNewFreqFromNormUtil`; a table is never read beyond its end. -/
def applyUtil (s : Governors) (module : SysClkModule) (normUtil : UInt32) : Governors :=
  match (s.base lists module).applyNewFreqFromNormUtil normUtil with
  | none => s
  | some r => s.applied r

def maxUtil (util : Fin CORE_NUMS → UInt32) : UInt32 :=
  (List.finRange CORE_NUMS).foldl (fun u j => if u < util j then util j else u) 0

/-- `CpuGovernor::Apply` -/
def applyCpu (s : Governors) : Governors :=
  let s := { s with cpuUtil := s.cpuUtil.update (maxUtil s.util) }
  if s.governor.cpuAutoBoost ∧ 950 < s.util 3 then s.applyCpuBoost lists
  else s.applyUtil lists .cpu s.cpuUtil.get

/-- `GpuGovernor::Apply`, of a load that was measured; the window is never read beyond its end. -/
def applyGpu (s : Governors) (rawUtil : UInt32) : Governors :=
  let util := calcNormalizedUtil rawUtil s.gpuTarget s.governor.gpuMaxHz
  let s := { s with gpuUtil := (s.gpuUtil.update util).getD s.gpuUtil }
  s.applyUtil lists .gpu s.gpuUtil.get

/-! ## Steps -/

/-- `apmExtIsCPUBoosted` -/
def cpuBoosted (perf_conf : UInt32) : Bool := perf_conf = 0x92220009 ∨ perf_conf = 0x9222000A

/-- The distance of two ticks. -/
def tickDiff (a b : UInt64) : UInt64 := if (a - b).toInt64 < 0 then b - a else a - b

def STUCK_TICKS : UInt64 := 19200000 / 200 * 10

def setWorker (s : Governors) (id : Fin CORE_NUMS) (w : WorkerAt) : Governors :=
  { s with worker := update s.worker id w }

/-- A step of worker `coreid`, that reads the tick `now` and measures the load `rawUtil`. -/
def workerStep (coreid : Fin CORE_NUMS) (now : UInt64) (rawUtil : UInt32) (s : Governors) :
    Governors :=
  match s.worker coreid with
  | .absent | .exited => s
  | .top => s.setWorker coreid (if s.workerRunning then .sample else .exited)
  | .sample =>
    { s.setWorker coreid (.boosted now) with
      tick := update s.tick coreid now
      util := update s.util coreid
        (calcNormalizedUtil rawUtil s.cpuTarget s.governor.cpuMaxHz) }
  | .boosted tick =>
    s.setWorker coreid (if cpuBoosted s.governor.perfConfId then .top else .check tick 0)
  | .check tick id =>
    if h : id < CORE_NUMS then
      if id = coreid then s.setWorker coreid (.check tick (id + 1))
      else if tickDiff (s.tick ⟨id, h⟩) tick < STUCK_TICKS then
        s.setWorker coreid (.check tick (id + 1))
      else if id = SYS_CORE_ID ∧ s.governor.cpuAutoBoost then s.setWorker coreid .applyBoost
      else s.setWorker coreid .applyMax
    else s.setWorker coreid .top
  | .applyBoost => (s.applyCpuBoost lists).setWorker coreid .top
  | .applyMax => (s.applyCpuMax lists).setWorker coreid .top

/-- A step of the manager, for which the GPU runs at `hz` and has the load `rawUtil`. -/
def managerStep (hz rawUtil : UInt32) (s : Governors) : Governors :=
  match s.manager with
  | .absent | .exited => s
  | .top =>
    if s.managerRunning then
      if UPDATE_CONTEXT_RATE ≤ s.vars.update_ticks + 1 then
        { s with manager := .refresh, vars := { s.vars with update_ticks := 0 } }
      else
        { s with manager := .gpu, vars := { s.vars with update_ticks := s.vars.update_ticks + 1 } }
    else { s with manager := .exited }
  | .refresh => { s with gpuTarget := hz, manager := if hz = 0 then .refresh else .perfConf }
  | .perfConf => { s with manager := .throttled s.governor.perfConfId }
  | .throttled perf_conf =>
    let gpuThrottled := apmExtIsBoostMode perf_conf
    { s with
      vars := { s.vars with gpuThrottled := gpuThrottled }
      manager := if gpuThrottled && s.governor.isHandledByGovernor .gpu then .boostGpu perf_conf
        else .boosted perf_conf }
  | .boostGpu perf_conf => { s.applyGpuBoost lists with manager := .boosted perf_conf }
  | .boosted perf_conf =>
    let boosted := cpuBoosted perf_conf
    { s with
      vars := { s.vars with cpuBoosted := boosted }
      manager := if boosted && s.governor.isHandledByGovernor .cpu then .boostCpu else .gpu }
  | .boostCpu => { s.applyCpuBoost lists with manager := .gpu }
  | .gpu =>
    { s with
      manager := if !s.vars.gpuThrottled && s.governor.isHandledByGovernor .gpu then .applyGpu
        else .cpu }
  | .applyGpu => { s.applyGpu lists rawUtil with manager := .cpu }
  | .cpu =>
    { s with
      manager := if !s.vars.cpuBoosted && s.governor.isHandledByGovernor .cpu then .applyCpu
        else .sleep }
  | .applyCpu => { s.applyCpu lists with manager := .sleep }
  | .sleep => { s with manager := .top }

/-- A step within `SetConfig`. -/
def controlStep (s : Governors) : Governors :=
  match s.control with
  | .idle => s
  | .updateWorker config =>
    let expected := getGovernorEnabled config .cpu
    if expected = s.workerRunning then { s with control := .updateManager config }
    else if expected then { s with workerRunning := true, control := .startWorker config 0 }
    else { s with workerRunning := false, control := .stopWorker config 0 }
  | .startWorker config j =>
    if h : j < CORE_NUMS then
      { s.setWorker ⟨j, h⟩ .top with control := .startWorker config (j + 1) }
    else { s with control := .updateManager config }
  | .stopWorker config j =>
    if h : j < CORE_NUMS then
      { s.setWorker ⟨j, h⟩ .absent with control := .stopWorker config (j + 1) }
    else { s with control := .updateManager config }
  | .updateManager config =>
    if config ≠ SysClkOcGovernorConfig_AllDisabled then
      if s.managerRunning then { s with control := .idle }
      else { s with managerRunning := true, control := .startManager }
    else if s.managerRunning then { s with managerRunning := false, control := .stopManager }
    else { s with control := .idle }
  | .startManager =>
    { s with
      manager := .top, vars := ⟨UPDATE_CONTEXT_RATE, false, false⟩, control := .idle }
  | .stopManager => { s with manager := .absent, control := .idle }

end Governors

inductive Action
  | setConfig (config : SysClkOcGovernorConfig)
  /-- the other setters, between two calls of `SetConfig` -/
  | configure (g : Governor)
  | control
  | worker (id : Fin CORE_NUMS) (now : UInt64) (rawUtil : UInt32)
  | manager (hz rawUtil : UInt32)

namespace Governors

def step (lists : SysClkModule → List UInt32) (a : Action) (s : Governors) : Governors :=
  match a with
  | .setConfig config =>
    if config = s.governor.config then s
    else
      { s with governor := { s.governor with config := config }, control := .updateWorker config }
  | .configure g => { s with governor := { g with config := s.governor.config } }
  | .control => s.controlStep
  | .worker id now rawUtil => s.workerStep lists id now rawUtil
  | .manager hz rawUtil => s.managerStep lists hz rawUtil

/-- Who can take a step: a thread that runs, and the caller unless it waits. -/
def Enabled (s : Governors) : Action → Prop
  | .setConfig _ | .configure _ => s.control = .idle
  | .control =>
    match s.control with
    | .idle => False
    | .stopWorker _ j => ∀ h : j < CORE_NUMS, s.worker ⟨j, h⟩ = .exited
    | .stopManager => s.manager = .exited
    | _ => True
  | .worker id _ _ => s.worker id ≠ .absent ∧ s.worker id ≠ .exited
  | .manager _ _ => s.manager ≠ .absent ∧ s.manager ≠ .exited

/-- Behind the constructor: everything is disabled, and no thread has been created.  Nothing
initialises `GovernorWorker::running`; that it is `false` is assumed, since a worker that is taken
for running is never started. -/
structure Fresh (s : Governors) : Prop where
  config : s.governor.config = SysClkOcGovernorConfig_AllDisabled
  workerRunning : s.workerRunning = false
  worker : ∀ id, s.worker id = .absent
  managerRunning : s.managerRunning = false
  manager : s.manager = .absent
  control : s.control = .idle

/-! ## What a call changes -/

/-- At most one call for a module, and nothing else that a thread goes by. -/
structure Calls (module : SysClkModule) (s s' : Governors) : Prop where
  calls : ∃ hz : Option UInt32, s'.calls = s.calls ++ (hz.map fun hz => (module, hz)).toList
  governor : s'.governor = s.governor
  workerRunning : s'.workerRunning = s.workerRunning
  worker : s'.worker = s.worker
  managerRunning : s'.managerRunning = s.managerRunning
  manager : s'.manager = s.manager
  control : s'.control = s.control

theorem Calls.refl (module : SysClkModule) (s : Governors) : Calls module s s :=
  ⟨⟨none, (List.append_nil _).symm⟩, rfl, rfl, rfl, rfl, rfl, rfl⟩

theorem calls_applied {module : SysClkModule} (s : Governors)
    {r : BaseGovernor × Option (SysClkModule × UInt32)}
    (hcall : ∃ hz : Option UInt32, r.2 = hz.map fun hz => (module, hz)) :
    Calls module s (s.applied r) := by
  obtain ⟨hz, hcall⟩ := hcall
  unfold applied
  rw [hcall]
  split
  · exact ⟨⟨hz, rfl⟩, rfl, rfl, rfl, rfl, rfl, rfl⟩
  · exact ⟨⟨hz, rfl⟩, rfl, rfl, rfl, rfl, rfl, rfl⟩

theorem applyTargetFreq_call (hz : UInt32) (g : BaseGovernor) :
    ∃ call : Option UInt32, (g.applyTargetFreq hz).2 = call.map fun hz => (g.m_module, hz) := by
  unfold BaseGovernor.applyTargetFreq
  split
  · exact ⟨none, rfl⟩
  · exact ⟨some hz, rfl⟩

theorem applyNewFreqFromNormUtil_call {normUtil : UInt32} {g : BaseGovernor}
    {r : BaseGovernor × Option (SysClkModule × UInt32)}
    (h : g.applyNewFreqFromNormUtil normUtil = some r) :
    ∃ call : Option UInt32, r.2 = call.map fun hz => (g.m_module, hz) := by
  unfold BaseGovernor.applyNewFreqFromNormUtil at h
  split at h
  · exact absurd h.symm (Option.some_ne_none _)
  · split at h
    · obtain rfl := Option.some.inj h
      exact applyTargetFreq_call ..
    · obtain rfl := Option.some.inj h
      exact ⟨none, rfl⟩

variable {lists : SysClkModule → List UInt32}

theorem calls_cpuBoost (s : Governors) : Calls .cpu s (s.applyCpuBoost lists) :=
  calls_applied s (applyTargetFreq_call ..)

theorem calls_cpuMax (s : Governors) : Calls .cpu s (s.applyCpuMax lists) :=
  calls_applied s (applyTargetFreq_call ..)

theorem calls_gpuBoost (s : Governors) : Calls .gpu s (s.applyGpuBoost lists) :=
  calls_applied s (applyTargetFreq_call ..)

theorem calls_applyUtil {s : Governors} {module : SysClkModule}
    (hmodule : (s.base lists module).m_module = module) (normUtil : UInt32) :
    Calls module s (s.applyUtil lists module normUtil) := by
  unfold applyUtil
  split
  · exact .refl module s
  · rename_i r hr
    obtain ⟨hz, hcall⟩ := applyNewFreqFromNormUtil_call hr
    rw [hmodule] at hcall
    exact calls_applied s ⟨hz, hcall⟩

theorem calls_applyCpu (s : Governors) : Calls .cpu s (s.applyCpu lists) := by
  have hutil : ∀ s' : Governors,
      Calls .cpu { s with cpuUtil := s.cpuUtil.update (maxUtil s.util) } s' → Calls .cpu s s' :=
    fun s' h => ⟨h.1, h.2, h.3, h.4, h.5, h.6, h.7⟩
  unfold applyCpu
  dsimp only
  split
  · exact hutil _ (calls_cpuBoost _)
  · exact hutil _ (calls_applyUtil rfl _)

theorem calls_applyGpu (s : Governors) (rawUtil : UInt32) :
    Calls .gpu s (s.applyGpu lists rawUtil) := by
  unfold applyGpu
  dsimp only
  generalize s.gpuUtil.update _ = window
  have hcalls := @calls_applyUtil lists { s with gpuUtil := window.getD s.gpuUtil } .gpu rfl
    (window.getD s.gpuUtil).get
  exact ⟨hcalls.1, hcalls.2, hcalls.3, hcalls.4, hcalls.5, hcalls.6, hcalls.7⟩

/-! ## Which threads there are -/

/-- Which workers there are, where `absent` says of which there is none. -/
def WorkersOk (config : SysClkOcGovernorConfig) (running : Bool) (absent : Fin CORE_NUMS → Prop) :
    ControlAt → Prop
  | .updateWorker c => c = config ∧ ∀ id, absent id ↔ running = false
  | .startWorker c j =>
    c = config ∧ getGovernorEnabled config .cpu = true ∧ running = true ∧ ∀ id, absent id ↔ j ≤ id
  | .stopWorker c j =>
    c = config ∧ getGovernorEnabled config .cpu = false ∧ running = false ∧
      ∀ id, absent id ↔ id < j
  | .updateManager c =>
    c = config ∧ running = getGovernorEnabled config .cpu ∧ ∀ id, absent id ↔ running = false
  | .idle | .startManager | .stopManager =>
    running = getGovernorEnabled config .cpu ∧ ∀ id, absent id ↔ running = false

/-- Whether there is a manager. -/
def ManagerOk (config : SysClkOcGovernorConfig) (running : Bool) (absent : Prop) :
    ControlAt → Prop
  | .startManager => config ≠ SysClkOcGovernorConfig_AllDisabled ∧ running = true ∧ absent
  | .stopManager => config = SysClkOcGovernorConfig_AllDisabled ∧ running = false ∧ ¬ absent
  | .idle =>
    (running = true ↔ config ≠ SysClkOcGovernorConfig_AllDisabled) ∧ (absent ↔ running = false)
  | _ => absent ↔ running = false

/-- **The threads** in every state. -/
structure Threads (s : Governors) : Prop where
  workers : WorkersOk s.governor.config s.workerRunning (fun id => s.worker id = .absent) s.control
  workerExited : ∀ id, s.worker id = .exited → s.workerRunning = false
  manager : ManagerOk s.governor.config s.managerRunning (s.manager = .absent) s.control
  managerExited : s.manager = .exited → s.managerRunning = false

theorem Fresh.threads {s : Governors} (h : Fresh s) : Threads s := by
  refine ⟨?_, ?_, ?_, ?_⟩
  · rw [h.control, h.config, h.workerRunning]
    exact ⟨rfl, fun id => ⟨fun _ => rfl, fun _ => h.worker id⟩⟩
  · exact fun _ _ => h.workerRunning
  · rw [h.control, h.config, h.managerRunning, h.manager]
    exact ⟨by simp, by simp⟩
  · exact fun _ => h.managerRunning

/-- A thread that goes on where it is. -/
theorem Threads.congr {s s' : Governors} (h : Threads s)
    (hconfig : s'.governor.config = s.governor.config)
    (hworkerRunning : s'.workerRunning = s.workerRunning)
    (hmanagerRunning : s'.managerRunning = s.managerRunning) (hcontrol : s'.control = s.control)
    (hworker : ∀ id, s'.worker id = s.worker id ∨ (s.worker id ≠ .absent ∧ s'.worker id ≠ .absent ∧
      (s'.worker id = .exited → s.workerRunning = false)))
    (hmanager : s'.manager = s.manager ∨ (s.manager ≠ .absent ∧ s'.manager ≠ .absent ∧
      (s'.manager = .exited → s.managerRunning = false))) : Threads s' := by
  have habsent : (fun id => s'.worker id = .absent) = fun id => s.worker id = .absent := by
    funext id
    rcases hworker id with heq | ⟨hne, hne', -⟩
    · rw [heq]
    · exact propext ⟨fun h => absurd h hne', fun h => absurd h hne⟩
  have habsent' : (s'.manager = .absent) = (s.manager = .absent) := by
    rcases hmanager with heq | ⟨hne, hne', -⟩
    · rw [heq]
    · exact propext ⟨fun h => absurd h hne', fun h => absurd h hne⟩
  refine ⟨?_, fun id hid => ?_, ?_, fun hexited => ?_⟩
  · rw [hconfig, hworkerRunning, hcontrol, habsent]
    exact h.workers
  · rw [hworkerRunning]
    rcases hworker id with heq | ⟨-, -, hexited⟩
    · exact h.workerExited id (heq ▸ hid)
    · exact hexited hid
  · rw [hconfig, hmanagerRunning, hcontrol, habsent']
    exact h.manager
  · rw [hmanagerRunning]
    rcases hmanager with heq | ⟨-, -, hexited'⟩
    · exact h.managerExited (heq ▸ hexited)
    · exact hexited' hexited

/-! ## Steps of the threads -/

variable (lists) in
/-- **A step of a worker**: it goes on, and may set the clock of the CPU. -/
theorem workerStep_calls {s : Governors} {id : Fin CORE_NUMS} (now : UInt64) (rawUtil : UInt32)
    (habsent : s.worker id ≠ .absent) (hexited : s.worker id ≠ .exited) :
    ∃ w, w ≠ .absent ∧ (w = .exited → s.workerRunning = false) ∧
      Calls .cpu (s.setWorker id w) (s.workerStep lists id now rawUtil) := by
  have hset : ∀ {s' : Governors} {w : WorkerAt}, Calls .cpu s s' →
      Calls .cpu (s.setWorker id w) (s'.setWorker id w) := by
    intro s' w h
    refine ⟨h.calls, h.governor, h.workerRunning, ?_, h.managerRunning, h.manager, h.control⟩
    simp only [setWorker, h.worker]
  cases hw : s.worker id with
  | absent => exact absurd hw habsent
  | exited => exact absurd hw hexited
  | top =>
    simp only [workerStep, hw]
    refine ⟨_, ?_, ?_, .refl ..⟩
    · split <;> simp
    · split <;> simp_all
  | sample =>
    simp only [workerStep, hw]
    exact ⟨.boosted now, by simp, by simp, ⟨none, (List.append_nil _).symm⟩, rfl, rfl, rfl, rfl,
      rfl, rfl⟩
  | boosted tick =>
    simp only [workerStep, hw]
    refine ⟨_, ?_, ?_, .refl ..⟩
    · split <;> simp
    · split <;> simp
  | check tick k =>
    simp only [workerStep, hw]
    split
    · split
      · exact ⟨_, by simp, by simp, .refl ..⟩
      · split
        · exact ⟨_, by simp, by simp, .refl ..⟩
        · split
          · exact ⟨_, by simp, by simp, .refl ..⟩
          · exact ⟨_, by simp, by simp, .refl ..⟩
    · exact ⟨_, by simp, by simp, .refl ..⟩
  | applyBoost =>
    simp only [workerStep, hw]
    exact ⟨_, by simp, by simp, hset (calls_cpuBoost s)⟩
  | applyMax =>
    simp only [workerStep, hw]
    exact ⟨_, by simp, by simp, hset (calls_cpuMax s)⟩

/-- The manager is about to set the clock of the module. -/
def pending (module : SysClkModule) : ManagerAt → Nat
  | .boostCpu | .applyCpu => if module = .cpu then 1 else 0
  | .boostGpu _ | .applyGpu => if module = .gpu then 1 else 0
  | _ => 0

def callsOf (module : SysClkModule) (s : Governors) : Nat :=
  s.calls.countP fun call => call.1 = module

theorem Calls.callsOf_le {module : SysClkModule} {s s' : Governors} (h : Calls module s s')
    (k : SysClkModule) : callsOf k s' ≤ callsOf k s + if k = module then 1 else 0 := by
  obtain ⟨hz, hcalls⟩ := h.calls
  unfold callsOf
  rw [hcalls, List.countP_append]
  cases hz with
  | none => simp
  | some hz =>
    by_cases hk : k = module
    · simp [hk]
    · simp [hk, Ne.symm hk]

/-- A test for the governor of a module. -/
theorem pending_ite {g : Governor} {module k : SysClkModule} (hk : g.isHandledByGovernor k = false)
    (c : Bool) {m m' : ManagerAt} (hm : pending k m = if k = module then 1 else 0)
    (hm' : pending k m' = 0) :
    pending k (if c && g.isHandledByGovernor module then m else m') = 0 := by
  by_cases hmodule : k = module
  · rw [← hmodule, hk, Bool.and_false]
    exact hm'
  · rw [if_neg hmodule] at hm
    split
    · exact hm
    · exact hm'

variable (lists) in
/-- **A step of the manager**: it goes on, and may set the clock of a module.  It does not get to a
module without a governor. -/
theorem managerStep_calls {s : Governors} (hz rawUtil : UInt32) (habsent : s.manager ≠ .absent)
    (hexited : s.manager ≠ .exited) :
    ∃ m module, m ≠ .absent ∧ (m = .exited → s.managerRunning = false) ∧
      Calls module { s with manager := m } (s.managerStep lists hz rawUtil) ∧
      ∀ k, s.governor.isHandledByGovernor k = false →
        callsOf k (s.managerStep lists hz rawUtil) + pending k m ≤
          callsOf k s + pending k s.manager := by
  have hset : ∀ {module : SysClkModule} {s' : Governors} {m : ManagerAt}, Calls module s s' →
      Calls module { s with manager := m } { s' with manager := m } := fun h =>
    ⟨h.calls, h.governor, h.workerRunning, h.worker, h.managerRunning, rfl, h.control⟩
  have hsame : ∀ (m : ManagerAt) (vars : ManagerVars) (gpuTarget : UInt32),
      Calls .gpu { s with manager := m }
        { s with manager := m, vars := vars, gpuTarget := gpuTarget } := fun m vars gpuTarget =>
    ⟨⟨none, (List.append_nil _).symm⟩, rfl, rfl, rfl, rfl, rfl, rfl⟩
  cases hm : s.manager with
  | absent => exact absurd hm habsent
  | exited => exact absurd hm hexited
  | top =>
    simp only [managerStep, hm]
    split
    · split
      · exact ⟨.refresh, .gpu, by simp, by simp, hsame _ _ _, fun k _ => Nat.le_refl _⟩
      · exact ⟨.gpu, .gpu, by simp, by simp, hsame _ _ _, fun k _ => Nat.le_refl _⟩
    · rename_i hrunning
      exact ⟨.exited, .gpu, by simp, fun _ => by simpa using hrunning, .refl ..,
        fun k _ => Nat.le_refl _⟩
  | refresh =>
    simp only [managerStep, hm]
    split
    · exact ⟨.refresh, .gpu, by simp, by simp, hsame _ _ _, fun k _ => Nat.le_refl _⟩
    · exact ⟨.perfConf, .gpu, by simp, by simp, hsame _ _ _, fun k _ => Nat.le_refl _⟩
  | perfConf =>
    simp only [managerStep, hm]
    exact ⟨.throttled _, .gpu, by simp, by simp, .refl .., fun k _ => Nat.le_refl _⟩
  | throttled perf_conf =>
    simp only [managerStep, hm]
    refine ⟨_, .gpu, ?_, ?_, hsame _ _ _, fun k hk => ?_⟩
    · split <;> simp
    · split <;> simp
    · rw [pending_ite hk _ rfl rfl]
      exact Nat.le_refl _
  | boostGpu perf_conf =>
    simp only [managerStep, hm]
    exact ⟨_, .gpu, by simp, by simp, hset (calls_gpuBoost s),
      fun k _ => (calls_gpuBoost s).callsOf_le k⟩
  | boosted perf_conf =>
    simp only [managerStep, hm]
    refine ⟨_, .gpu, ?_, ?_, hsame _ _ _, fun k hk => ?_⟩
    · split <;> simp
    · split <;> simp
    · rw [pending_ite hk _ rfl rfl]
      exact Nat.le_refl _
  | boostCpu =>
    simp only [managerStep, hm]
    exact ⟨_, .cpu, by simp, by simp, hset (calls_cpuBoost s),
      fun k _ => (calls_cpuBoost s).callsOf_le k⟩
  | gpu =>
    simp only [managerStep, hm]
    refine ⟨_, .gpu, ?_, ?_, .refl .., fun k hk => ?_⟩
    · split <;> simp
    · split <;> simp
    · rw [pending_ite hk _ rfl rfl]
      exact Nat.le_refl _
  | applyGpu =>
    simp only [managerStep, hm]
    exact ⟨_, .gpu, by simp, by simp, hset (calls_applyGpu s rawUtil),
      fun k _ => (calls_applyGpu s rawUtil).callsOf_le k⟩
  | cpu =>
    simp only [managerStep, hm]
    refine ⟨_, .gpu, ?_, ?_, .refl .., fun k hk => ?_⟩
    · split <;> simp
    · split <;> simp
    · rw [pending_ite hk _ rfl rfl]
      exact Nat.le_refl _
  | applyCpu =>
    simp only [managerStep, hm]
    exact ⟨_, .cpu, by simp, by simp, hset (calls_applyCpu s),
      fun k _ => (calls_applyCpu s).callsOf_le k⟩
  | sleep =>
    simp only [managerStep, hm]
    exact ⟨.top, .gpu, by simp, by simp, .refl .., fun k _ => Nat.le_refl _⟩

/-! ## Steps within `SetConfig` -/

/-- **A step within `SetConfig`.** -/
theorem Threads.control {s : Governors} (h : Threads s) (henabled : Enabled s .control) :
    Threads s.controlStep := by
  obtain ⟨governor, cpuTarget, gpuTarget, cpuUtil, gpuUtil, workerRunning, worker, util, tick,
    managerRunning, manager, vars, control, calls⟩ := s
  obtain ⟨hworkers, hworkerExited, hmanager, hmanagerExited⟩ := h
  dsimp only at hworkers hworkerExited hmanager hmanagerExited
  cases control with
  | idle => exact henabled.elim
  | updateWorker config =>
    obtain ⟨rfl, habsent⟩ := hworkers
    simp only [controlStep]
    cases hexpected : getGovernorEnabled governor.config .cpu with
    | true =>
      cases workerRunning with
      | true => exact ⟨⟨rfl, hexpected.symm, habsent⟩, hworkerExited, hmanager, hmanagerExited⟩
      | false =>
        refine ⟨⟨rfl, hexpected, rfl, fun id => ?_⟩, fun id hid => ?_, hmanager, hmanagerExited⟩
        · exact ⟨fun _ => Nat.zero_le _, fun _ => (habsent id).2 rfl⟩
        · have hnone : worker id = .absent := (habsent id).2 rfl
          have hexited : worker id = .exited := hid
          rw [hnone] at hexited
          cases hexited
    | false =>
      cases workerRunning with
      | true =>
        refine ⟨⟨rfl, hexpected, rfl, fun id => ?_⟩, fun _ _ => rfl, hmanager, hmanagerExited⟩
        exact ⟨fun hnone => absurd ((habsent id).1 hnone) (by simp),
          fun hlt => absurd hlt (Nat.not_lt_zero _)⟩
      | false => exact ⟨⟨rfl, hexpected.symm, habsent⟩, hworkerExited, hmanager, hmanagerExited⟩
  | startWorker config j =>
    obtain ⟨rfl, hexpected, hrunning, habsent⟩ := hworkers
    dsimp only at habsent
    by_cases hj : j < CORE_NUMS
    · simp only [controlStep, dif_pos hj, setWorker]
      refine ⟨⟨rfl, hexpected, hrunning, fun id => ?_⟩, fun id hid => ?_, hmanager, hmanagerExited⟩
      · by_cases hid : id = ⟨j, hj⟩
        · subst hid
          simp
        · have hne : id.val ≠ j := fun heq => hid (Fin.ext heq)
          dsimp only
          rw [update_of_ne hid, habsent id]
          omega
      · by_cases heq : id = ⟨j, hj⟩
        · subst heq
          simp at hid
        · dsimp only at hid
          rw [update_of_ne heq] at hid
          exact hworkerExited id hid
    · simp only [controlStep, dif_neg hj]
      refine ⟨⟨rfl, hrunning.trans hexpected.symm, fun id => ?_⟩, hworkerExited, hmanager,
        hmanagerExited⟩
      dsimp only
      rw [habsent id, hrunning]
      have hid := id.isLt
      simp only [Bool.true_eq_false, iff_false]
      omega
  | stopWorker config j =>
    obtain ⟨rfl, hexpected, hrunning, habsent⟩ := hworkers
    dsimp only at habsent
    by_cases hj : j < CORE_NUMS
    · simp only [controlStep, dif_pos hj, setWorker]
      refine ⟨⟨rfl, hexpected, hrunning, fun id => ?_⟩, fun _ _ => hrunning, hmanager,
        hmanagerExited⟩
      by_cases hid : id = ⟨j, hj⟩
      · subst hid
        simp
      · have hne : id.val ≠ j := fun heq => hid (Fin.ext heq)
        dsimp only
        rw [update_of_ne hid, habsent id]
        omega
    · simp only [controlStep, dif_neg hj]
      refine ⟨⟨rfl, hrunning.trans hexpected.symm, fun id => ?_⟩, hworkerExited, hmanager,
        hmanagerExited⟩
      dsimp only
      rw [habsent id, hrunning]
      have hid := id.isLt
      simp only [iff_true]
      omega
  | updateManager config =>
    obtain ⟨rfl, hworkers⟩ := hworkers
    have habsent : manager = .absent ↔ managerRunning = false := hmanager
    by_cases hconfig : governor.config = SysClkOcGovernorConfig_AllDisabled
    · simp only [controlStep, ne_eq, hconfig, not_true_eq_false, if_false]
      cases managerRunning with
      | true =>
        refine ⟨hworkers, hworkerExited, ⟨hconfig, rfl, fun hnone => ?_⟩, fun _ => rfl⟩
        exact absurd (habsent.1 hnone) (by simp)
      | false => exact ⟨hworkers, hworkerExited, ⟨by simp [hconfig], habsent⟩, hmanagerExited⟩
    · simp only [controlStep, ne_eq, hconfig, not_false_eq_true, if_true]
      cases managerRunning with
      | true => exact ⟨hworkers, hworkerExited, ⟨by simp [hconfig], habsent⟩, hmanagerExited⟩
      | false =>
        have hnone : manager = .absent := habsent.2 rfl
        exact ⟨hworkers, hworkerExited, ⟨hconfig, rfl, hnone⟩, fun h => by simp [hnone] at h⟩
  | startManager =>
    obtain ⟨hconfig, hrunning, -⟩ := hmanager
    refine ⟨hworkers, hworkerExited, ⟨?_, ?_⟩, by simp [controlStep]⟩
    · simp [controlStep, hconfig, hrunning]
    · simp [controlStep, hrunning]
  | stopManager =>
    obtain ⟨hconfig, hrunning, -⟩ := hmanager
    refine ⟨hworkers, hworkerExited, ⟨?_, ?_⟩, by simp [controlStep]⟩
    · simp [controlStep, hconfig, hrunning]
    · simp [controlStep, hrunning]

/-- **A step** of anybody. -/
theorem Threads.step {s : Governors} (h : Threads s) {a : Action} (henabled : Enabled s a) :
    Threads (step lists a s) := by
  cases a with
  | setConfig config =>
    have hidle : s.control = .idle := henabled
    simp only [Governors.step]
    split
    · exact h
    · obtain ⟨hworkers, hworkerExited, hmanager, hmanagerExited⟩ := h
      rw [hidle] at hworkers hmanager
      exact ⟨⟨rfl, hworkers.2⟩, hworkerExited, hmanager.2, hmanagerExited⟩
  | configure g => exact h.congr rfl rfl rfl rfl (fun _ => .inl rfl) (.inl rfl)
  | control => exact h.control henabled
  | worker id now rawUtil =>
    obtain ⟨habsent, hexited⟩ := henabled
    obtain ⟨w, hw, hwexited, hcalls⟩ := workerStep_calls lists now rawUtil habsent hexited
    refine h.congr (congrArg Governor.config hcalls.governor) hcalls.workerRunning
      hcalls.managerRunning hcalls.control (fun k => ?_) (.inl hcalls.manager)
    simp only [Governors.step, hcalls.worker, setWorker]
    by_cases hk : k = id
    · subst hk
      rw [update_self]
      exact .inr ⟨habsent, hw, hwexited⟩
    · exact .inl (update_of_ne hk ..)
  | manager hz rawUtil =>
    obtain ⟨habsent, hexited⟩ := henabled
    obtain ⟨m, module, hm, hmexited, hcalls, -⟩ :=
      managerStep_calls lists hz rawUtil habsent hexited
    refine h.congr (congrArg Governor.config hcalls.governor) hcalls.workerRunning
      hcalls.managerRunning hcalls.control (fun k => .inl ?_) (.inr ⟨habsent, ?_⟩)
    · simp only [Governors.step, hcalls.worker]
    · simp only [Governors.step, hcalls.manager]
      exact ⟨hm, hmexited⟩

/-! ## A run -/

/-- The GPU is throttled, and the CPU is not boosted. -/
def fresh : Governors where
  governor := ⟨0, 0x9222000B, none, 612000000, 1785000000, 1785000000, false, 76800000, 76800000⟩
  cpuTarget := 0
  gpuTarget := 0
  cpuUtil := .new
  gpuUtil := .new
  workerRunning := false
  worker := fun _ => .absent
  util := fun _ => 0
  tick := fun _ => 0
  managerRunning := false
  manager := .absent
  vars := ⟨0, false, false⟩
  control := .idle
  calls := []

def tables : SysClkModule → List UInt32
  | .cpu => [612000000, 1020000000, 1785000000, 0]
  | _ => [76800000, 153600000, 0]

/-- Both governors are enabled, the manager comes to the CPU, and then only the GPU is left. -/
def onlyGpu : List Action :=
  .setConfig 3 :: List.replicate 8 .control ++ List.replicate 8 (.manager 76800000 0) ++
    [.setConfig 2, .control, .worker 0 0 0, .worker 1 0 0, .worker 2 0 0, .worker 3 0 0] ++
    List.replicate 6 .control

theorem runs_onlyGpu : Interleaving.Runs (Governors.step tables) Enabled onlyGpu fresh := by
  have hcpu : getGovernorEnabled 3 .cpu = true := by decide
  have hgpu : getGovernorEnabled 3 .gpu = true := by decide
  have hcpu' : getGovernorEnabled 2 .cpu = false := by decide
  have hthrottled : apmExtIsBoostMode 0x9222000B = true := by decide
  have hboosted : cpuBoosted 0x9222000B = false := by decide
  simp [onlyGpu, List.replicate_succ, Interleaving.Runs, Governors.step, controlStep, workerStep,
    managerStep, Enabled, fresh, setWorker, hcpu, hgpu, hcpu', hthrottled, hboosted,
    SysClkOcGovernorConfig_AllDisabled, applyGpuBoost, applied, base, BaseGovernor.applyTargetFreq,
    Governor.gpu, Governor.isHandledByGovernor, UPDATE_CONTEXT_RATE, CORE_NUMS]

/-- Where the manager is about to set the clock of the CPU. -/
def overtaken : Governors :=
  { fresh with
    governor := { fresh.governor with config := 2 }
    gpuTarget := 76800000
    managerRunning := true
    manager := .applyCpu
    vars := ⟨0, false, true⟩
    calls := [(.gpu, 76800000)] }

theorem play_onlyGpu : Interleaving.play (Governors.step tables) onlyGpu fresh = overtaken := by
  have hcpu : getGovernorEnabled 3 .cpu = true := by decide
  have hgpu : getGovernorEnabled 3 .gpu = true := by decide
  have hcpu' : getGovernorEnabled 2 .cpu = false := by decide
  have hthrottled : apmExtIsBoostMode 0x9222000B = true := by decide
  have hboosted : cpuBoosted 0x9222000B = false := by decide
  simp [onlyGpu, List.replicate_succ, Interleaving.play, Governors.step, controlStep, workerStep,
    managerStep, fresh, setWorker, hcpu, hgpu, hcpu', hthrottled, hboosted,
    SysClkOcGovernorConfig_AllDisabled, applyGpuBoost, applied, base, BaseGovernor.applyTargetFreq,
    Governor.gpu, Governor.isHandledByGovernor, UPDATE_CONTEXT_RATE, CORE_NUMS, overtaken]
  funext id
  revert id
  decide

theorem fresh_fresh : Fresh fresh := ⟨rfl, rfl, fun _ => rfl, rfl, rfl, rfl⟩

theorem reaches_overtaken :
    Interleaving.Reaches (Governors.step tables) Enabled fresh overtaken := by
  have hreaches := runs_onlyGpu.reaches
  rwa [play_onlyGpu] at hreaches

/-! ## Between two calls of `SetConfig` -/

/-- **A thread for every governor** that is enabled, between two calls of `SetConfig`, and a thread
is only started where there is none. -/
theorem threads_of_config {s s' : Governors} (hfresh : Fresh s)
    (hrun : Interleaving.Reaches (Governors.step lists) Enabled s s') :
    (s'.control = .idle →
      (∀ id, s'.worker id ≠ .absent ∧ s'.worker id ≠ .exited ↔
        getGovernorEnabled s'.governor.config .cpu = true) ∧
      (s'.manager ≠ .absent ∧ s'.manager ≠ .exited ↔
        s'.governor.config ≠ SysClkOcGovernorConfig_AllDisabled)) ∧
    (∀ config j, s'.control = .startWorker config j →
      ∀ h : j < CORE_NUMS, s'.worker ⟨j, h⟩ = .absent) ∧
    (s'.control = .startManager → s'.manager = .absent) := by
  have h : Threads s' := hrun.invariant (fun _ _ h henabled => h.step henabled) hfresh.threads
  obtain ⟨hworkers, hworkerExited, hmanager, hmanagerExited⟩ := h
  refine ⟨fun hidle => ?_, fun config j hstart hj => ?_, fun hstart => ?_⟩
  · rw [hidle] at hworkers hmanager
    obtain ⟨hrunning, habsent⟩ := hworkers
    obtain ⟨hrunning', habsent'⟩ := hmanager
    dsimp only at habsent
    constructor
    · intro id
      rw [← hrunning, ne_eq, habsent id]
      constructor
      · rintro ⟨h, -⟩
        simpa using h
      · intro h
        refine ⟨by simp [h], fun hexited => ?_⟩
        have hstopped := hworkerExited id hexited
        rw [h] at hstopped
        cases hstopped
    · rw [← hrunning', ne_eq, habsent']
      constructor
      · rintro ⟨h, -⟩
        simpa using h
      · intro h
        refine ⟨by simp [h], fun hexited => ?_⟩
        have hstopped := hmanagerExited hexited
        rw [h] at hstopped
        cases hstopped
  · rw [hstart] at hworkers
    exact (hworkers.2.2.2 ⟨j, hj⟩).2 (Nat.le_refl j)
  · rw [hstart] at hmanager
    exact hmanager.2.2

theorem threads_of_config_onlyGpu : overtaken.manager ≠ .absent ∧ overtaken.manager ≠ .exited ↔
    overtaken.governor.config ≠ SysClkOcGovernorConfig_AllDisabled :=
  ((threads_of_config fresh_fresh reaches_overtaken).1 rfl).2

/-! ## Late calls -/

/-- Nobody calls `SetConfig`. -/
def EnabledBetween (s : Governors) (a : Action) : Prop :=
  Enabled s a ∧ ∀ config, a ≠ .setConfig config

/-- Between two calls of `SetConfig` a module without a governor has the calls that the manager was
about to make. -/
structure Between (s₀ s : Governors) : Prop where
  threads : Threads s
  idle : s.control = .idle
  config : s.governor.config = s₀.governor.config
  callsOf_le : ∀ k, s₀.governor.isHandledByGovernor k = false →
    callsOf k s + pending k s.manager ≤ callsOf k s₀ + pending k s₀.manager
  calls : s₀.governor.config = SysClkOcGovernorConfig_AllDisabled → s.calls = s₀.calls

theorem Between.step {s₀ s : Governors} (h : Between s₀ s) {a : Action}
    (henabled : EnabledBetween s a) : Between s₀ (step lists a s) := by
  have hthreads : Threads (Governors.step lists a s) := h.threads.step henabled.1
  have hhandled : ∀ k, s.governor.isHandledByGovernor k = s₀.governor.isHandledByGovernor k := by
    intro k
    unfold Governor.isHandledByGovernor
    rw [h.config]
  have hworkers := h.threads.workers
  have hmanager := h.threads.manager
  rw [h.idle] at hworkers hmanager
  cases a with
  | setConfig config => exact absurd rfl (henabled.2 config)
  | configure g => exact ⟨hthreads, h.idle, h.config, h.callsOf_le, h.calls⟩
  | control =>
    have henabled' := henabled.1
    simp only [Enabled, h.idle] at henabled'
  | worker id now rawUtil =>
    obtain ⟨habsent, hexited⟩ := henabled.1
    obtain ⟨w, -, -, hcalls⟩ := workerStep_calls lists now rawUtil habsent hexited
    -- there are workers, so the governor of the CPU is enabled
    have hcpu : s₀.governor.isHandledByGovernor .cpu = true := by
      rw [← hhandled]
      show getGovernorEnabled s.governor.config .cpu = true
      rw [← hworkers.1]
      exact Bool.eq_true_of_not_eq_false fun hstopped => habsent ((hworkers.2 id).2 hstopped)
    refine ⟨hthreads, hcalls.control.trans h.idle, ?_, fun k hk => ?_, fun hdisabled => ?_⟩
    · exact (congrArg Governor.config hcalls.governor).trans h.config
    · have hne : k ≠ .cpu := by
        rintro rfl
        rw [hcpu] at hk
        cases hk
      have hle := hcalls.callsOf_le k
      rw [if_neg hne] at hle
      show callsOf k (s.workerStep lists id now rawUtil) +
        pending k (s.workerStep lists id now rawUtil).manager ≤ _
      rw [hcalls.manager]
      exact Nat.le_trans (Nat.add_le_add_right hle _) (h.callsOf_le k hk)
    · unfold Governor.isHandledByGovernor at hcpu
      rw [hdisabled] at hcpu
      exact absurd hcpu (by decide)
  | manager hz rawUtil =>
    obtain ⟨habsent, hexited⟩ := henabled.1
    obtain ⟨m, module, -, -, hcalls, hle⟩ :=
      managerStep_calls lists hz rawUtil habsent hexited
    refine ⟨hthreads, hcalls.control.trans h.idle, ?_, fun k hk => ?_, fun hdisabled => ?_⟩
    · exact (congrArg Governor.config hcalls.governor).trans h.config
    · show callsOf k (s.managerStep lists hz rawUtil) +
        pending k (s.managerStep lists hz rawUtil).manager ≤ _
      rw [hcalls.manager]
      exact Nat.le_trans (hle k ((hhandled k).trans hk)) (h.callsOf_le k hk)
    · -- there is no manager
      refine absurd (hmanager.2.2 ?_) habsent
      refine Bool.eq_false_of_not_eq_true fun hrunning => hmanager.1.1 hrunning ?_
      exact h.config.trans hdisabled

/-- **Late calls.**  When `SetConfig` has returned, a module without a governor has at most the one
call more that the manager was about to make, and when everything is disabled there is none. -/
theorem late_calls {s₀ s s' : Governors} (hfresh : Fresh s₀)
    (hrun : Interleaving.Reaches (Governors.step lists) Enabled s₀ s) (hidle : s.control = .idle)
    (hlate : Interleaving.Reaches (Governors.step lists) EnabledBetween s s') :
    (∀ k, s.governor.isHandledByGovernor k = false →
      callsOf k s' ≤ callsOf k s + pending k s.manager) ∧
    (s.governor.config = SysClkOcGovernorConfig_AllDisabled → s'.calls = s.calls) := by
  have hthreads : Threads s := hrun.invariant (fun _ _ h henabled => h.step henabled) hfresh.threads
  have hbetween : Between s s' := hlate.invariant (fun _ _ h henabled => h.step henabled)
    ⟨hthreads, hidle, rfl, fun _ _ => Nat.le_refl _, fun _ => rfl⟩
  refine ⟨fun k hk => ?_, hbetween.calls⟩
  have hle := hbetween.callsOf_le k hk
  omega

/-- The manager makes its call. -/
theorem late_calls_onlyGpu :
    callsOf .cpu (overtaken.managerStep tables 0 0) = 1 ∧
      callsOf .cpu (overtaken.managerStep tables 0 0) ≤ callsOf .cpu overtaken + 1 := by
  refine ⟨by decide, (late_calls fresh_fresh reaches_overtaken rfl ?_).1 .cpu (by decide)⟩
  exact .single ⟨.manager 0 0, ⟨⟨by simp [overtaken], by simp [overtaken]⟩, by simp⟩, rfl⟩

end Governors

end SwitchOc.SysClk
