import SwitchOcSuite.Lib.Layout
import SwitchOcSuite.SysClk.ClockManager
import SwitchOcSuite.SysClk.FrequencyTable
import SwitchOcSuite.SysClk.IpcServer
import SwitchOcSuite.SysClk.Profiles

/-!
# What goes over the IPC session (`common/include/sysclk/ipc.h`)

The sixteen commands with their arguments and outputs, each laid out as the structure in C
is, padding included; the message buffer that a request arrives in, and the one that the
response is written into.

    size_args_le, size_outs_le    the arguments and the outputs are small
    parse_parseRequest            what a parsed request is to the sessions of the server
    data_delivered                a response is delivered whole
-/

namespace SwitchOc.SysClk.Ipc

/-! ## The structures -/

inductive SysClkThermalSensor where
  | soc
  | pcb
  | skin
deriving DecidableEq, Repr

def SysClkThermalSensor.all : List SysClkThermalSensor := [.soc, .pcb, .skin]

def SysClkProfile.toWord : SysClkProfile → UInt32
  | .handheld => 0
  | .handheldCharging => 1
  | .handheldChargingUSB => 2
  | .handheldChargingOfficial => 3
  | .docked => 4

structure SysClkIpc_SetProfiles_Args where
  tid : UInt64
  profiles : SysClkTitleProfileList

structure SysClkIpc_SetOverride_Args where
  module : UInt32
  hz : UInt32

/-- The context as clients see it, with the temperatures. -/
structure SysClkContextOut where
  context : SysClkContext
  temps : SysClkThermalSensor → UInt32

/-! ## Layouts -/

/-- A byte other than `0` is taken for `true`. -/
def bool : Layout Bool :=
  Layout.u8.map (fun b => b != 0) (fun b => if b then 1 else 0) fun b => by cases b <;> rfl

def profileWord : Layout SysClkProfile :=
  Layout.u32.map (fun w => (SysClkProfile.ofWord w).getD .handheld) SysClkProfile.toWord
    fun p => by cases p <;> rfl

/-- A word per module. -/
def moduleWords : Layout (SysClkModule → UInt32) :=
  Layout.u32.table SysClkModule.all SysClkModule.mem_all

def sensorWords : Layout (SysClkThermalSensor → UInt32) :=
  Layout.u32.table SysClkThermalSensor.all fun sensor => by cases sensor <;> decide

def titleProfileList : Layout SysClkTitleProfileList :=
  ((Layout.u32.table profileSlots Config.mem_profileSlots).pair Layout.u32).map
    (fun v => ⟨fun profile module => v.1 (profile, module), v.2⟩)
    (fun profiles => (fun slot => profiles.mhzMap slot.1 slot.2, profiles.governorConfig))
    fun _ => rfl

def configValueList : Layout (SysClkConfigValue → UInt64) :=
  Layout.u64.table SysClkConfigValue.all fun kval => by cases kval <;> decide

def frequencyTable : Layout (Fin FREQ_TABLE_MAX_ENTRY_COUNT → UInt32) :=
  Layout.u32.table (List.finRange FREQ_TABLE_MAX_ENTRY_COUNT) List.mem_finRange

def sysClkContext : Layout SysClkContextOut :=
  (((bool.pad 7).pair (Layout.u64.pair (profileWord.pair
    (moduleWords.pair (moduleWords.pair (sensorWords.pair Layout.u32)))))).pad 4).map
    (fun v => ⟨⟨v.1, v.2.1, v.2.2.1, v.2.2.2.1, v.2.2.2.2.1, v.2.2.2.2.2.2⟩, v.2.2.2.2.2.1⟩)
    (fun c => (c.context.enabled, c.context.applicationId, c.context.profile, c.context.freqs,
      c.context.overrideFreqs, c.temps, c.context.perfConfId))
    fun _ => rfl

def setProfilesArgs : Layout SysClkIpc_SetProfiles_Args :=
  (Layout.u64.pair titleProfileList).map (fun v => ⟨v.1, v.2⟩) (fun a => (a.tid, a.profiles))
    fun _ => rfl

def setOverrideArgs : Layout SysClkIpc_SetOverride_Args :=
  (Layout.u32.pair Layout.u32).map (fun v => ⟨v.1, v.2⟩) (fun a => (a.module, a.hz)) fun _ => rfl

def getFrequencyTableArgs : Layout SysClkIpc_GetFrequencyTable_Args :=
  (Layout.u32.pair Layout.u32).map (fun v => ⟨v.1, v.2⟩) (fun a => (a.module, a.profile))
    fun _ => rfl

/-! ## Commands -/

inductive SysClkIpcCmd where
  | getApiVersion
  | getVersionString
  | getCurrentContext
  | exit
  | getProfileCount
  | getProfiles
  | setProfiles
  | setEnabled
  | setOverride
  | getConfigValues
  | setConfigValues
  | setReverseNXRTMode
  | getFrequencyTable
  | getIsMariko
  | getBatteryChargingDisabledOverride
  | setBatteryChargingDisabledOverride
deriving DecidableEq, Repr

namespace SysClkIpcCmd

def all : List SysClkIpcCmd :=
  [.getApiVersion, .getVersionString, .getCurrentContext, .exit, .getProfileCount, .getProfiles,
    .setProfiles, .setEnabled, .setOverride, .getConfigValues, .setConfigValues,
    .setReverseNXRTMode, .getFrequencyTable, .getIsMariko, .getBatteryChargingDisabledOverride,
    .setBatteryChargingDisabledOverride]

def id : SysClkIpcCmd → UInt64
  | .getApiVersion => 0
  | .getVersionString => 1
  | .getCurrentContext => 2
  | .exit => 3
  | .getProfileCount => 4
  | .getProfiles => 5
  | .setProfiles => 6
  | .setEnabled => 7
  | .setOverride => 8
  | .getConfigValues => 9
  | .setConfigValues => 10
  | .setReverseNXRTMode => 11
  | .getFrequencyTable => 12
  | .getIsMariko => 13
  | .getBatteryChargingDisabledOverride => 14
  | .setBatteryChargingDisabledOverride => 15

/-- The case of the `switch` that a command id falls into. -/
def ofId (cmdId : UInt64) : Option SysClkIpcCmd := all.find? fun cmd => cmd.id = cmdId

@[simp] theorem ofId_id (cmd : SysClkIpcCmd) : ofId cmd.id = some cmd := by
  cases cmd <;> decide

/-- What a client sends. -/
def In : SysClkIpcCmd → Type
  | .getProfileCount | .getProfiles => UInt64
  | .setProfiles => SysClkIpc_SetProfiles_Args
  | .setEnabled | .setBatteryChargingDisabledOverride => Bool
  | .setOverride => SysClkIpc_SetOverride_Args
  | .setConfigValues => SysClkConfigValue → UInt64
  | .setReverseNXRTMode => UInt32
  | .getFrequencyTable => SysClkIpc_GetFrequencyTable_Args
  | .getApiVersion | .getVersionString | .getCurrentContext | .exit | .getConfigValues
  | .getIsMariko | .getBatteryChargingDisabledOverride => Unit

/-- What it gets back. -/
def Out : SysClkIpcCmd → Type
  | .getApiVersion => UInt32
  | .getCurrentContext => SysClkContextOut
  | .getProfileCount => UInt8
  | .getProfiles => SysClkTitleProfileList
  | .getConfigValues => SysClkConfigValue → UInt64
  | .getFrequencyTable => Fin FREQ_TABLE_MAX_ENTRY_COUNT → UInt32
  | .getIsMariko | .getBatteryChargingDisabledOverride => Bool
  | .getVersionString | .exit | .setProfiles | .setEnabled | .setOverride | .setConfigValues
  | .setReverseNXRTMode | .setBatteryChargingDisabledOverride => Unit

def args : (cmd : SysClkIpcCmd) → Layout cmd.In
  | .getProfileCount | .getProfiles => Layout.u64
  | .setProfiles => setProfilesArgs
  | .setEnabled | .setBatteryChargingDisabledOverride => bool
  | .setOverride => setOverrideArgs
  | .setConfigValues => configValueList
  | .setReverseNXRTMode => Layout.u32
  | .getFrequencyTable => getFrequencyTableArgs
  | .getApiVersion | .getVersionString | .getCurrentContext | .exit | .getConfigValues
  | .getIsMariko | .getBatteryChargingDisabledOverride => Layout.unit

def outs : (cmd : SysClkIpcCmd) → Layout cmd.Out
  | .getApiVersion => Layout.u32
  | .getCurrentContext => sysClkContext
  | .getProfileCount => Layout.u8
  | .getProfiles => titleProfileList
  | .getConfigValues => configValueList
  | .getFrequencyTable => frequencyTable
  | .getIsMariko | .getBatteryChargingDisabledOverride => bool
  | .getVersionString | .exit | .setProfiles | .setEnabled | .setOverride | .setConfigValues
  | .setReverseNXRTMode | .setBatteryChargingDisabledOverride => Layout.unit

/-- The largest of the argument structures, `SysClkConfigValueList`. -/
def maxArgs : Nat := 80

theorem size_args_le (cmd : SysClkIpcCmd) : cmd.args.size ≤ maxArgs := by
  cases cmd <;> decide

/-- The largest of the outputs is the frequency table. -/
theorem size_outs_le (cmd : SysClkIpcCmd) : cmd.outs.size ≤ sizeofSysClkFrequencyTable := by
  cases cmd <;> decide

example : all.map (fun cmd => (cmd.args.size, cmd.outs.size)) =
    [(0, 4), (0, 0), (0, 64), (0, 0), (8, 1), (8, 64), (72, 0), (1, 0), (8, 0), (0, 80), (80, 0),
      (4, 0), (8, 124), (0, 1), (0, 1), (1, 0)] := by
  decide

end SysClkIpcCmd

/-! ## Requests -/

/-- The message buffer of a thread. -/
def sizeofTls : Nat := 0x100

def rawHeader : Layout IpcServerRawHeader :=
  (Layout.u64.pair Layout.u64).map (fun v => ⟨v.1, v.2⟩) (fun h => (h.magic, h.cmdId)) fun _ => rfl

example : rawHeader.size = sizeofIpcServerRawHeader := by decide

/-- How far a server reads into the data of a request: the header, and the arguments of the command
that it names. -/
def sizeRead (tls : List UInt8) (dataStart : Nat) : Nat :=
  sizeofIpcServerRawHeader +
    match SysClkIpcCmd.ofId (rawHeader.get tls dataStart).cmdId with
    | some cmd => cmd.args.size
    | none => 0

/-- A request as `hipcParseRequest` leaves it in the buffer of the server: `dataStart` is where the
aligned data begins.  What is read of the data words lies in the buffer. -/
structure Message where
  type : UInt32
  num_data_words : UInt32
  tls : List UInt8
  dataStart : Nat
  /-- What is in the buffers that the client lends. -/
  recv_buffers : List (List UInt8)
  length_tls : tls.length = sizeofTls
  room : dataStart + min (4 * num_data_words.toNat) (sizeRead tls dataStart) ≤ sizeofTls

/-- Where the aligned data of a message without descriptors begins. -/
def plainStart : Nat := 0x10

/-- There is room for the arguments of any command then. -/
theorem room_plainStart (num_data_words : UInt32) (tls : List UInt8) :
    plainStart + min (4 * num_data_words.toNat) (sizeRead tls plainStart) ≤ sizeofTls := by
  have hread : sizeRead tls plainStart ≤ sizeofIpcServerRawHeader + SysClkIpcCmd.maxArgs := by
    unfold sizeRead
    apply Nat.add_le_add_left
    split
    · rename_i cmd _
      exact cmd.size_args_le
    · exact Nat.zero_le _
  have hroom : plainStart + (sizeofIpcServerRawHeader + SysClkIpcCmd.maxArgs) ≤ sizeofTls := by
    decide
  exact Nat.le_trans (Nat.add_le_add_left (Nat.le_trans (Nat.min_le_right _ _) hread) _) hroom

structure IpcServerRequestData where
  cmdId : UInt64
  /-- An offset into the message buffer. -/
  ptr : Nat
  size : Nat
deriving DecidableEq, Repr

/-- `0` stands for success. -/
def resultOf {α : Type} : Except Result α → Result
  | .ok _ => 0
  | .error rc => rc

namespace Message

def header (m : Message) : IpcServerRawHeader := rawHeader.get m.tls m.dataStart

/-- `_ipcServerParseRequest`. -/
def ipcServerParseRequest (m : Message) : Except Result IpcServerRequestData :=
  if m.type = cmifCommandType_Request then
    let dataSize := 4 * m.num_data_words.toNat
    if m.num_data_words = 0 ∨ dataSize < sizeofIpcServerRawHeader ∨
        m.header.magic ≠ CMIF_IN_HEADER_MAGIC then
      .error libnxError_BadInput
    else if sizeofIpcServerRawHeader < dataSize then
      .ok { cmdId := m.header.cmdId, ptr := m.dataStart + sizeofIpcServerRawHeader,
            size := dataSize - sizeofIpcServerRawHeader }
    else .ok { cmdId := m.header.cmdId, ptr := 0, size := 0 }
  else .ok { cmdId := 0, ptr := 0, size := 0 }

end Message

/-! ## Responses -/

def CMIF_OUT_HEADER_MAGIC : UInt64 := 0x4F434653

/-- A response has no descriptors. -/
def responseStart : Nat := plainStart

/-- `IPC_SERVER_EXT_RESPONSE_MAX_DATA_SIZE`. -/
def ipcServerExtResponseMaxDataSize : Nat := 0x100 - 0x10 - sizeofIpcServerRawHeader

/-- `memcpy` to the offset `o` of a buffer. -/
def memcpy (b : List UInt8) (o : Nat) (src : List UInt8) : List UInt8 :=
  b.take o ++ src ++ b.drop (o + src.length)

structure Response where
  num_data_words : Nat
  tls : List UInt8
deriving DecidableEq

/-- `_ipcServerPrepareResponse`: the buffer of the request is written over. -/
def prepareResponse (tls : List UInt8) (rc : Result) (data : List UInt8) (dataSize : Nat) :
    Response where
  num_data_words := (sizeofIpcServerRawHeader + dataSize + 0x10) / 4
  tls :=
    let tls := rawHeader.put tls responseStart ⟨CMIF_OUT_HEADER_MAGIC, rc.toUInt64⟩
    if rc = 0 then
      memcpy tls (responseStart + sizeofIpcServerRawHeader) (data.take dataSize)
    else tls

/-- The result that is written into the header. -/
def Response.rc (r : Response) : UInt64 := (rawHeader.get r.tls responseStart).cmdId

/-- What the client then has in its own buffer: the kernel moves the eight bytes of the HIPC header
and the data words. -/
def Response.delivered (r : Response) (own : List UInt8) : List UInt8 :=
  r.tls.take (8 + 4 * r.num_data_words) ++ own.drop (8 + 4 * r.num_data_words)

section
variable {tls data : List UInt8} {rc : Result} {dataSize : Nat}

theorem length_memcpy {b src : List UInt8} {o : Nat} (h : o + src.length ≤ b.length) :
    (memcpy b o src).length = b.length := by
  unfold memcpy
  simp only [List.length_append, List.length_take, List.length_drop]
  omega

/-- The bytes are in the place where they are copied to. -/
theorem drop_memcpy {b : List UInt8} (src : List UInt8) {o : Nat} (h : o ≤ b.length) :
    (memcpy b o src).drop o = src ++ b.drop (o + src.length) := by
  unfold memcpy
  rw [List.append_assoc, List.drop_append_of_le_length (by rw [List.length_take]; omega),
    List.drop_of_length_le (by rw [List.length_take]; omega), List.nil_append]

theorem getElem?_memcpy_left {b src : List UInt8} {o i : Nat} (hi : i < o) (h : o ≤ b.length) :
    (memcpy b o src)[i]? = b[i]? := by
  unfold memcpy
  rw [List.append_assoc, List.getElem?_append_left (by rw [List.length_take]; omega),
    List.getElem?_take_of_lt hi]

theorem getElem?_delivered {r : Response} (own : List UInt8) {i : Nat}
    (hi : i < 8 + 4 * r.num_data_words) (h : 8 + 4 * r.num_data_words ≤ r.tls.length) :
    (r.delivered own)[i]? = r.tls[i]? := by
  unfold Response.delivered
  rw [List.getElem?_append_left (by rw [List.length_take]; omega), List.getElem?_take_of_lt hi]

theorem length_prepareResponse (rc : Result) (htls : tls.length = sizeofTls)
    (hdata : dataSize ≤ data.length) (hsize : dataSize ≤ ipcServerExtResponseMaxDataSize) :
    (prepareResponse tls rc data dataSize).tls.length = sizeofTls := by
  unfold ipcServerExtResponseMaxDataSize sizeofIpcServerRawHeader at hsize
  unfold prepareResponse
  dsimp only
  split
  · rw [length_memcpy] <;> rw [Layout.length_put]
    · exact htls
    · rw [htls, List.length_take]
      unfold responseStart plainStart sizeofIpcServerRawHeader sizeofTls
      omega
  · rw [Layout.length_put, htls]

/-- The data words are rounded down, and reach behind the data all the same. -/
theorem words_prepareResponse (tls data : List UInt8) (rc : Result)
    (hsize : dataSize ≤ sizeofSysClkFrequencyTable) :
    responseStart + sizeofIpcServerRawHeader + dataSize ≤
        8 + 4 * (prepareResponse tls rc data dataSize).num_data_words ∧
      8 + 4 * (prepareResponse tls rc data dataSize).num_data_words ≤ sizeofTls := by
  unfold sizeofSysClkFrequencyTable FREQ_TABLE_MAX_ENTRY_COUNT at hsize
  unfold responseStart plainStart sizeofTls prepareResponse sizeofIpcServerRawHeader
  dsimp only
  omega

/-- The header of the response is not written over by the data. -/
theorem header_prepareResponse (data : List UInt8) (dataSize : Nat) (rc : Result)
    (htls : tls.length = sizeofTls) :
    rawHeader.get (prepareResponse tls rc data dataSize).tls responseStart =
      ⟨CMIF_OUT_HEADER_MAGIC, rc.toUInt64⟩ := by
  have hput : rawHeader.get (rawHeader.put tls responseStart ⟨CMIF_OUT_HEADER_MAGIC, rc.toUInt64⟩)
      responseStart = ⟨CMIF_OUT_HEADER_MAGIC, rc.toUInt64⟩ :=
    rawHeader.get_put _ _ _ (by rw [htls]; decide)
  rw [← hput]
  apply rawHeader.get_congr
  intro i hi
  replace hi : i < 16 := hi
  unfold prepareResponse
  dsimp only
  split
  · apply getElem?_memcpy_left
    · unfold responseStart plainStart sizeofIpcServerRawHeader
      omega
    · rw [Layout.length_put, htls]
      decide
  · rfl

/-- The client sees the header. -/
theorem header_delivered (own : List UInt8) (htls : tls.length = sizeofTls)
    (hdata : dataSize ≤ data.length) (hsize : dataSize ≤ sizeofSysClkFrequencyTable) :
    rawHeader.get ((prepareResponse tls rc data dataSize).delivered own) responseStart =
      ⟨CMIF_OUT_HEADER_MAGIC, rc.toUInt64⟩ := by
  obtain ⟨hwords, hfit⟩ := words_prepareResponse tls data rc hsize
  have hlen := length_prepareResponse rc htls hdata (Nat.le_trans hsize (by decide))
  rw [← header_prepareResponse data dataSize rc htls]
  apply rawHeader.get_congr
  intro i hi
  replace hi : i < 16 := hi
  apply getElem?_delivered
  · unfold responseStart plainStart sizeofIpcServerRawHeader at *
    omega
  · rw [hlen]
    exact hfit

/-- **And all of its data.** -/
theorem data_delivered (own : List UInt8) (htls : tls.length = sizeofTls)
    (hdata : dataSize ≤ data.length) (hsize : dataSize ≤ sizeofSysClkFrequencyTable) :
    (((prepareResponse tls 0 data dataSize).delivered own).drop
      (responseStart + sizeofIpcServerRawHeader)).take dataSize = data.take dataSize := by
  obtain ⟨hwords, hfit⟩ := words_prepareResponse tls data 0 hsize
  have hlen := length_prepareResponse 0 htls hdata (Nat.le_trans hsize (by decide))
  have hcopied : (prepareResponse tls 0 data dataSize).tls.drop
      (responseStart + sizeofIpcServerRawHeader) = data.take dataSize ++
        (rawHeader.put tls responseStart ⟨CMIF_OUT_HEADER_MAGIC, (0 : Result).toUInt64⟩).drop
          (responseStart + sizeofIpcServerRawHeader + (data.take dataSize).length) := by
    unfold prepareResponse
    dsimp only
    rw [if_pos rfl]
    apply drop_memcpy
    rw [Layout.length_put, htls]
    decide
  apply List.ext_getElem?
  intro i
  by_cases hi : i < dataSize
  · have hhead : ((prepareResponse tls 0 data dataSize).tls.drop
        (responseStart + sizeofIpcServerRawHeader))[i]? = (data.take dataSize)[i]? := by
      rw [hcopied, List.getElem?_append_left (by rw [List.length_take]; omega)]
    rw [List.getElem?_take_of_lt hi, List.getElem?_drop, getElem?_delivered own (by omega)
      (by rw [hlen]; exact hfit), ← List.getElem?_drop]
    exact hhead
  · rw [List.getElem?_take_eq_none (by omega), List.getElem?_take_eq_none (by omega)]

end

end SwitchOc.SysClk.Ipc
