import SwitchOcSuite.SysClk.ConfigStore
import SwitchOcSuite.SysClk.IpcMessages

/-!
# The IPC service (`sysmodule/src/ipc_service.cpp`)

The methods of `IpcService` act on the part of the sysmodule that clients can reach.  A
request is parsed, falls into a case of the `switch`, and is answered in the buffer that it
came in.

    method_ok_iff    which arguments a method can cope with
    method_change    what a method can change
-/

namespace SwitchOc.SysClk.Ipc

open CText Function

/-! ## State -/

structure Sysmodule where
  store : ConfigStore
  context : SysClkContext
  temps : SysClkThermalSensor → UInt32
  oc : SysClkOcExtra
  rnxSync : ReverseNXSync
  clocks : Clocks
  running : Bool

/-- What leaves a request without an answer: an exception, which no one catches in the thread of
the service, or a step that C++ leaves undefined. -/
inductive IpcFault where
  | fault (fault : Fault)
  | frequencyTable (error : FrequencyTableError)
deriving DecidableEq, Repr

/-- What one request finds: the build, whether `config.ini` can be written, and the bytes of the
stack that `data` lies in. -/
structure Env where
  TARGET_VERSION : List UInt8
  canWrite : Bool
  data : List UInt8
  length_data : data.length = ipcServerExtResponseMaxDataSize

def SYSCLK_IPC_API_VERSION : UInt32 := 2
def SYSCLK_ERROR_MODULE : UInt32 := 388

def SYSCLK_ERROR (desc : UInt32) : Result :=
  (SYSCLK_ERROR_MODULE &&& (0x1FF : UInt32)) ||| ((desc &&& (0x1FFF : UInt32)) <<< (9 : UInt32))

def sysClkError_Generic : Result := SYSCLK_ERROR 0
def sysClkError_ConfigNotLoaded : Result := SYSCLK_ERROR 1
def sysClkError_ConfigSaveFailed : Result := SYSCLK_ERROR 2
def sysClkError_InternalFrequencyTableError : Result := SYSCLK_ERROR 3

/-! ## Methods -/

/-- A result and an output, or a result that stands for a failure. -/
abbrev Method (β : Type) := Sysmodule → Except IpcFault (Except Result β × Sysmodule)

variable {α β : Type}

/-- A method that only looks. -/
def answers (f : Sysmodule → Except Result β) : Method β := fun s => .ok (f s, s)

/-- A method that always succeeds. -/
def changes (f : Sysmodule → Sysmodule) : Method Unit := fun s => .ok (.ok (), f s)

/-- `HasProfilesLoaded` first. -/
def whenLoaded (f : Config → β) (s : Sysmodule) : Except Result β :=
  if s.store.config.loaded then .ok (f s.store.config) else .error sysClkError_ConfigNotLoaded

def saveResult (saved : Option Text) : Except Result Unit :=
  if saved.isSome then .ok () else .error sysClkError_ConfigSaveFailed

def getApiVersion : Method UInt32 := answers fun _ => .ok SYSCLK_IPC_API_VERSION

/-- `strncpy(dest, src, n)` with a `dest` of more than `n` bytes. -/
def strncpy (dest src : List UInt8) (n : Nat) : List UInt8 :=
  (src.takeWhile (· ≠ 0) ++ List.replicate n 0).take n ++ dest.drop n

/-- The buffer of the client; its last byte is left alone. -/
def getVersionString (env : Env) (out_buf : List UInt8) : List UInt8 :=
  if out_buf.length ≠ 0 then strncpy out_buf env.TARGET_VERSION (out_buf.length - 1) else out_buf

def getCurrentContext : Method SysClkContextOut := answers fun s => .ok ⟨s.context, s.temps⟩

def exit : Method Unit := changes fun s => { s with running := false }

def getProfileCount (tid : UInt64) : Method UInt8 :=
  answers (whenLoaded fun config => config.getProfileCount tid)

def getProfiles (tid : UInt64) : Method SysClkTitleProfileList :=
  answers (whenLoaded fun config => config.getProfiles tid)

def setProfiles (env : Env) (args : SysClkIpc_SetProfiles_Args) : Method Unit := fun s =>
  if s.store.config.loaded then
    match s.store.config.setProfiles (ConfigStore.putsection env.canWrite s.store.file)
        args.tid args.profiles with
    | .error fault => .error (.fault fault)
    | .ok (saved, config) =>
      .ok (saveResult saved, { s with store := ⟨config, saved.or s.store.file⟩ })
  else .ok (.error sysClkError_ConfigNotLoaded, s)

def setEnabled (enabled : Bool) : Method Unit :=
  changes fun s => { s with
    store := { s.store with config := { s.store.config with enabled := enabled } } }

def setOverride (args : SysClkIpc_SetOverride_Args) : Method Unit := fun s =>
  match SysClkModule.ofWord args.module with
  | none => .ok (.error sysClkError_Generic, s)
  | some module => .ok (.ok (), { s with
      store := { s.store with
        config := { s.store.config with
          overrideFreqs := update s.store.config.overrideFreqs module args.hz } } })

def getConfigValues : Method (SysClkConfigValue → UInt64) :=
  answers (whenLoaded fun config => config.configValues)

def setConfigValues (env : Env) (values : SysClkConfigValue → UInt64) : Method Unit := fun s =>
  if s.store.config.loaded then
    let result :=
      s.store.config.setConfigValues (ConfigStore.putsection env.canWrite s.store.file) values
    .ok (saveResult result.1, { s with store := ⟨result.2, result.1.or s.store.file⟩ })
  else .ok (.error sysClkError_ConfigNotLoaded, s)

/-- The word is stored without a look at it. -/
def setReverseNXRTMode (mode : UInt32) : Method Unit :=
  changes fun s => { s with rnxSync := { s.rnxSync with rtMode := ⟨mode⟩ } }

def getFrequencyTable (args : SysClkIpc_GetFrequencyTable_Args) :
    Method (Fin FREQ_TABLE_MAX_ENTRY_COUNT → UInt32) := fun s =>
  match s.clocks.getTable args.module args.profile with
  | .ok table => .ok (.ok fun i => table.getD i 0, s)
  | .error .internalFrequencyTableError => .ok (.error sysClkError_InternalFrequencyTableError, s)
  | .error error => .error (.frequencyTable error)

def getIsMariko : Method Bool := answers fun s => .ok s.clocks.isMariko

def getBatteryChargingDisabledOverride : Method Bool :=
  answers fun s => .ok s.oc.batteryChargingDisabledOverride

def setBatteryChargingDisabledOverride (toggle_true : Bool) : Method Unit :=
  changes fun s => { s with oc := { s.oc with batteryChargingDisabledOverride := toggle_true } }

/-! ## The handler -/

structure Handled where
  rc : Result
  out_data : List UInt8
  out_dataSize : Nat
  recv_buffers : List (List UInt8)

/-- The end of the handler, which a `break` leads to. -/
def noCase (env : Env) (m : Message) : Handled := ⟨sysClkError_Generic, env.data, 0, m.recv_buffers⟩

def reply (env : Env) (m : Message) (O : Layout β) : Except Result β → Handled
  | .ok out => ⟨0, O.put env.data 0 out, O.size, m.recv_buffers⟩
  | .error rc => ⟨rc, env.data, O.size, m.recv_buffers⟩

/-- A case of the `switch`. -/
def handle (env : Env) (m : Message) (r : IpcServerRequestData) (I : Layout α) (O : Layout β)
    (method : α → Method β) (s : Sysmodule) : Except IpcFault (Handled × Sysmodule) :=
  if I.size ≤ r.size then
    match method (I.get m.tls r.ptr) s with
    | .error fault => .error fault
    | .ok (result, s) => .ok (reply env m O result, s)
  else .ok (noCase env m, s)

/-- The case that answers in a buffer of the client. -/
def handleVersionString (env : Env) (m : Message) : Handled :=
  match m.recv_buffers with
  | [] => noCase env m
  | buffer :: buffers => ⟨0, env.data, 0, getVersionString env buffer :: buffers⟩

def serviceHandlerFunc (env : Env) (m : Message) (r : IpcServerRequestData) (s : Sysmodule) :
    Except IpcFault (Handled × Sysmodule) :=
  match SysClkIpcCmd.ofId r.cmdId with
  | some .getApiVersion => handle env m r Layout.unit Layout.u32 (fun _ => getApiVersion) s
  | some .getVersionString => .ok (handleVersionString env m, s)
  | some .getCurrentContext =>
    handle env m r Layout.unit sysClkContext (fun _ => getCurrentContext) s
  | some .exit => handle env m r Layout.unit Layout.unit (fun _ => exit) s
  | some .getProfileCount => handle env m r Layout.u64 Layout.u8 getProfileCount s
  | some .getProfiles => handle env m r Layout.u64 titleProfileList getProfiles s
  | some .setProfiles => handle env m r setProfilesArgs Layout.unit (setProfiles env) s
  | some .setEnabled => handle env m r bool Layout.unit setEnabled s
  | some .setOverride => handle env m r setOverrideArgs Layout.unit setOverride s
  | some .getConfigValues => handle env m r Layout.unit configValueList (fun _ => getConfigValues) s
  | some .setConfigValues => handle env m r configValueList Layout.unit (setConfigValues env) s
  | some .setReverseNXRTMode => handle env m r Layout.u32 Layout.unit setReverseNXRTMode s
  | some .getFrequencyTable =>
    handle env m r getFrequencyTableArgs frequencyTable getFrequencyTable s
  | some .getIsMariko => handle env m r Layout.unit bool (fun _ => getIsMariko) s
  | some .getBatteryChargingDisabledOverride =>
    handle env m r Layout.unit bool (fun _ => getBatteryChargingDisabledOverride) s
  | some .setBatteryChargingDisabledOverride =>
    handle env m r bool Layout.unit setBatteryChargingDisabledOverride s
  | none => .ok (noCase env m, s)

/-- The method of a command; that of `GetVersionString` has its buffers elsewhere. -/
def method (env : Env) : (cmd : SysClkIpcCmd) → cmd.In → Method cmd.Out
  | .getApiVersion, _ => getApiVersion
  | .getVersionString, _ => answers fun _ => .ok ()
  | .getCurrentContext, _ => getCurrentContext
  | .exit, _ => exit
  | .getProfileCount, tid => getProfileCount tid
  | .getProfiles, tid => getProfiles tid
  | .setProfiles, args => setProfiles env args
  | .setEnabled, enabled => setEnabled enabled
  | .setOverride, args => setOverride args
  | .getConfigValues, _ => getConfigValues
  | .setConfigValues, values => setConfigValues env values
  | .setReverseNXRTMode, mode => setReverseNXRTMode mode
  | .getFrequencyTable, args => getFrequencyTable args
  | .getIsMariko, _ => getIsMariko
  | .getBatteryChargingDisabledOverride, _ => getBatteryChargingDisabledOverride
  | .setBatteryChargingDisabledOverride, toggle_true =>
    setBatteryChargingDisabledOverride toggle_true

/-- What a session is answered with. -/
structure Answer where
  response : Response
  recv_buffers : List (List UInt8)

/-- The part of `_ipcServerProcessSession` between the two calls of the kernel; a request that
cannot be parsed is not answered, and its session deleted. -/
def answer (env : Env) (m : Message) (s : Sysmodule) :
    Except IpcFault (Option Answer × Sysmodule) :=
  match m.ipcServerParseRequest with
  | .error _ => .ok (none, s)
  | .ok r =>
    if m.type = cmifCommandType_Request then
      match serviceHandlerFunc env m r s with
      | .error fault => .error fault
      | .ok (h, s) =>
        .ok (some ⟨prepareResponse m.tls h.rc h.out_data h.out_dataSize, h.recv_buffers⟩, s)
    else
      let rc := if m.type = cmifCommandType_Close then 0 else MAKERESULT 11 403
      .ok (some ⟨prepareResponse m.tls rc [] 0, m.recv_buffers⟩, s)

/-! ## What a method can cope with -/

variable {env : Env} {m : Message} {r : IpcServerRequestData} {s s' : Sysmodule}
  {cmd : SysClkIpcCmd}

/-- A title with no more strings than there are buffers for, and a frequency table of a module and a
profile that there are, with no more than its 31 entries.  Anything else ends the run without an
answer: an exception that leaves the handler (which `FrequencyTableRight` counts as failing), or
an access out of bounds. -/
def CanCope (s : Sysmodule) : (cmd : SysClkIpcCmd) → cmd.In → Prop
  | .setProfiles, args => s.store.config.loaded = true →
      ¬(Config.numProfiles args.profiles = 15 ∧
        args.profiles.governorConfig ≠ SysClkOcGovernorConfig_Default)
  | .getFrequencyTable, args => ∃ module profile,
      SysClkModule.ofWord args.module = some module ∧
      SysClkProfile.ofWord args.profile = some profile ∧
      (s.clocks.freqRange module).max profile - (s.clocks.freqRange module).min <
        FREQ_TABLE_MAX_ENTRY_COUNT
  | _, _ => True

theorem setProfiles_ok_iff (args : SysClkIpc_SetProfiles_Args) :
    (∃ x, setProfiles env args s = .ok x) ↔ CanCope s .setProfiles args := by
  unfold setProfiles Config.setProfiles
  show _ ↔ (s.store.config.loaded = true → _)
  by_cases hloaded : s.store.config.loaded = true
  · rw [if_pos hloaded]
    dsimp only
    by_cases hfits : Config.numProfiles args.profiles = 15 ∧
        args.profiles.governorConfig ≠ SysClkOcGovernorConfig_Default
    · have hlen : 15 < (Config.profileEntries args.profiles).length := by
        rw [Config.length_profileEntries, hfits.1, if_pos hfits.2]
        decide
      rw [if_pos hlen]
      simp [hloaded, hfits]
    · have hlen := Config.profileEntries_fits hfits
      rw [if_neg (Nat.not_lt.2 hlen)]
      refine iff_of_true ?_ fun _ => hfits
      split
      · rename_i hput
        split at hput
        · cases hput
        · cases hput
      · exact ⟨_, rfl⟩
  · rw [if_neg hloaded]
    exact iff_of_true ⟨_, rfl⟩ fun h => absurd h hloaded

theorem getFrequencyTable_ok_iff (h : s.clocks.UpToDate) (args : SysClkIpc_GetFrequencyTable_Args) :
    (∃ x, getFrequencyTable args s = .ok x) ↔ CanCope s .getFrequencyTable args := by
  unfold getFrequencyTable
  show _ ↔ ∃ module profile, _ ∧ _ ∧ _
  cases hm : SysClkModule.ofWord args.module with
  | none =>
    rw [Clocks.getTable_of_no_module args.profile hm]
    simp
  | some module =>
    cases hp : SysClkProfile.ofWord args.profile with
    | none =>
      rw [Clocks.getTable_of_no_profile hm hp]
      simp
    | some profile =>
      rw [Clocks.getTable_of_ok h hm hp]
      by_cases hroom : (s.clocks.freqRange module).max profile - (s.clocks.freqRange module).min <
          FREQ_TABLE_MAX_ENTRY_COUNT
      · rw [if_pos hroom]
        exact iff_of_true ⟨_, rfl⟩ ⟨module, profile, rfl, rfl, hroom⟩
      · rw [if_neg hroom]
        refine iff_of_false (by simp) ?_
        rintro ⟨module', profile', hmodule, hprofile, hlt⟩
        obtain rfl := Option.some.inj hmodule
        obtain rfl := Option.some.inj hprofile
        exact hroom hlt

/-- A method answers exactly what it can cope with. -/
theorem method_ok_iff (h : s.clocks.UpToDate) (env : Env) (cmd : SysClkIpcCmd) (i : cmd.In) :
    (∃ x, method env cmd i s = .ok x) ↔ CanCope s cmd i := by
  cases cmd with
  | setProfiles => exact setProfiles_ok_iff i
  | getFrequencyTable => exact getFrequencyTable_ok_iff h i
  | setOverride =>
    refine iff_of_true ?_ trivial
    show ∃ x, setOverride i s = .ok x
    unfold setOverride
    split <;> exact ⟨_, rfl⟩
  | setConfigValues =>
    refine iff_of_true ?_ trivial
    show ∃ x, setConfigValues env i s = .ok x
    unfold setConfigValues
    split <;> exact ⟨_, rfl⟩
  | _ => exact iff_of_true ⟨_, rfl⟩ trivial

/-! ## What a method can change -/

/-- All that a request does to the sysmodule. -/
inductive Change (env : Env) (s : Sysmodule) : Sysmodule → Prop where
  | nothing : Change env s s
  | exit : Change env s { s with running := false }
  | profiles (tid : UInt64) (profiles : SysClkTitleProfileList) (file : Text)
      (hloaded : s.store.config.loaded = true)
      (hput : ConfigStore.putsection env.canWrite s.store.file (printHex16 tid)
        (Config.profileEntries profiles) = some file)
      (hfits : (Config.profileEntries profiles).length ≤ 15) :
      Change env s { s with store := ⟨s.store.config.applyProfiles tid profiles, some file⟩ }
  | enabled (enabled : Bool) :
      Change env s { s with
        store := { s.store with config := { s.store.config with enabled := enabled } } }
  | override (module : SysClkModule) (hz : UInt32) :
      Change env s { s with
        store := { s.store with
          config := { s.store.config with
            overrideFreqs := update s.store.config.overrideFreqs module hz } } }
  | values (values : SysClkConfigValue → UInt64) (file : Text)
      (hloaded : s.store.config.loaded = true)
      (hput : ConfigStore.putsection env.canWrite s.store.file Config.CONFIG_VAL_SECTION
        (Config.configValueEntries values) = some file) :
      Change env s { s with
        store := ⟨{ s.store.config with
          configValues := fun kval =>
            if sysclkValidConfigValue kval (values kval) then values kval
            else sysclkDefaultConfigValue kval }, some file⟩ }
  | mode (mode : ReverseNXMode) :
      Change env s { s with rnxSync := { s.rnxSync with rtMode := mode } }
  | charging (toggle_true : Bool) :
      Change env s { s with oc := { s.oc with batteryChargingDisabledOverride := toggle_true } }

/-- `SetProfiles` finds no configuration, cannot save, or saves. -/
theorem setProfiles_cases {args : SysClkIpc_SetProfiles_Args} {result : Except Result Unit}
    (h : setProfiles env args s = .ok (result, s')) :
    (s.store.config.loaded ≠ true ∧ result = .error sysClkError_ConfigNotLoaded ∧ s' = s) ∨
      (s.store.config.loaded = true ∧ result = .error sysClkError_ConfigSaveFailed ∧ s' = s) ∨
      ∃ file, s.store.config.loaded = true ∧
        ConfigStore.putsection env.canWrite s.store.file (printHex16 args.tid)
          (Config.profileEntries args.profiles) = some file ∧
        (Config.profileEntries args.profiles).length ≤ 15 ∧ result = .ok () ∧
        s' = { s with
          store := ⟨s.store.config.applyProfiles args.tid args.profiles, some file⟩ } := by
  unfold setProfiles Config.setProfiles at h
  by_cases hloaded : s.store.config.loaded = true
  · rw [if_pos hloaded] at h
    dsimp only at h
    by_cases hlen : 15 < (Config.profileEntries args.profiles).length
    · rw [if_pos hlen] at h
      cases h
    · rw [if_neg hlen] at h
      cases hput : ConfigStore.putsection env.canWrite s.store.file (printHex16 args.tid)
          (Config.profileEntries args.profiles) with
      | none =>
        rw [hput] at h
        cases h
        exact .inr (.inl ⟨hloaded, rfl, rfl⟩)
      | some file =>
        rw [hput] at h
        cases h
        exact .inr (.inr ⟨file, hloaded, rfl, Nat.not_lt.1 hlen, rfl, rfl⟩)
  · rw [if_neg hloaded] at h
    cases h
    exact .inl ⟨hloaded, rfl, rfl⟩

theorem setConfigValues_cases {values : SysClkConfigValue → UInt64} {result : Except Result Unit}
    (h : setConfigValues env values s = .ok (result, s')) :
    (result = .error sysClkError_ConfigNotLoaded ∧ s' = s) ∨
      (result = .error sysClkError_ConfigSaveFailed ∧ s' = s) ∨
      ∃ file, s.store.config.loaded = true ∧
        ConfigStore.putsection env.canWrite s.store.file Config.CONFIG_VAL_SECTION
          (Config.configValueEntries values) = some file ∧ result = .ok () ∧
        s' = { s with
          store := ⟨{ s.store.config with
            configValues := fun kval =>
              if sysclkValidConfigValue kval (values kval) then values kval
              else sysclkDefaultConfigValue kval }, some file⟩ } := by
  unfold setConfigValues Config.setConfigValues at h
  by_cases hloaded : s.store.config.loaded = true
  · rw [if_pos hloaded] at h
    dsimp only at h
    cases hput : ConfigStore.putsection env.canWrite s.store.file Config.CONFIG_VAL_SECTION
        (Config.configValueEntries values) with
    | none =>
      rw [hput] at h
      cases h
      exact .inr (.inl ⟨rfl, rfl⟩)
    | some file =>
      rw [hput] at h
      cases h
      exact .inr (.inr ⟨file, hloaded, rfl, rfl, rfl⟩)
  · rw [if_neg hloaded] at h
    cases h
    exact .inl ⟨rfl, rfl⟩

theorem setOverride_cases {args : SysClkIpc_SetOverride_Args} {result : Except Result Unit}
    (h : setOverride args s = .ok (result, s')) :
    (result = .error sysClkError_Generic ∧ s' = s) ∨
      ∃ module, result = .ok () ∧ s' = { s with
        store := { s.store with
          config := { s.store.config with
            overrideFreqs := update s.store.config.overrideFreqs module args.hz } } } := by
  unfold setOverride at h
  split at h
  · cases h
    exact .inl ⟨rfl, rfl⟩
  · cases h
    exact .inr ⟨_, rfl, rfl⟩

/-- It only looks. -/
theorem getFrequencyTable_cases {args : SysClkIpc_GetFrequencyTable_Args}
    {result : Except Result (Fin FREQ_TABLE_MAX_ENTRY_COUNT → UInt32)}
    (h : getFrequencyTable args s = .ok (result, s')) :
    s' = s ∧ ∀ rc, result = .error rc → rc = sysClkError_InternalFrequencyTableError := by
  unfold getFrequencyTable at h
  split at h
  · cases h
    exact ⟨rfl, fun rc hrc => by cases hrc⟩
  · cases h
    exact ⟨rfl, fun rc hrc => (Except.error.inj hrc).symm⟩
  · cases h

/-- A method makes one of these changes, and none at all when it fails. -/
theorem method_change {i : cmd.In} {result : Except Result cmd.Out}
    (h : method env cmd i s = .ok (result, s')) :
    Change env s s' ∧ (resultOf result ≠ 0 → s' = s) := by
  cases cmd with
  | setProfiles =>
    rcases setProfiles_cases h with ⟨-, -, rfl⟩ | ⟨-, -, rfl⟩ |
      ⟨file, hloaded, hput, hfits, rfl, rfl⟩
    · exact ⟨.nothing, fun _ => rfl⟩
    · exact ⟨.nothing, fun _ => rfl⟩
    · exact ⟨.profiles _ _ file hloaded hput hfits, fun hrc => absurd rfl hrc⟩
  | setConfigValues =>
    rcases setConfigValues_cases h with ⟨-, rfl⟩ | ⟨-, rfl⟩ | ⟨file, hloaded, hput, rfl, rfl⟩
    · exact ⟨.nothing, fun _ => rfl⟩
    · exact ⟨.nothing, fun _ => rfl⟩
    · exact ⟨.values i file hloaded hput, fun hrc => absurd rfl hrc⟩
  | exit =>
    cases h
    exact ⟨.exit, fun hrc => absurd rfl hrc⟩
  | setEnabled =>
    cases h
    exact ⟨.enabled i, fun hrc => absurd rfl hrc⟩
  | setBatteryChargingDisabledOverride =>
    cases h
    exact ⟨.charging i, fun hrc => absurd rfl hrc⟩
  | setOverride =>
    rcases setOverride_cases h with ⟨-, rfl⟩ | ⟨module, rfl, rfl⟩
    · exact ⟨.nothing, fun _ => rfl⟩
    · exact ⟨.override module _, fun hrc => absurd rfl hrc⟩
  | setReverseNXRTMode =>
    cases h
    exact ⟨.mode ⟨i⟩, fun hrc => absurd rfl hrc⟩
  | getFrequencyTable =>
    obtain ⟨rfl, -⟩ := getFrequencyTable_cases h
    exact ⟨.nothing, fun _ => rfl⟩
  | _ =>
    cases h
    exact ⟨.nothing, fun _ => rfl⟩

end SwitchOc.SysClk.Ipc
