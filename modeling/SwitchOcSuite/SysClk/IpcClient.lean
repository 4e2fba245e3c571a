import SwitchOcSuite.SysClk.IpcRequests

/-!
# Clients of the service (`common/src/client/ipc.c`)

Every function of a client hands its arguments to `serviceDispatch` of libnx, which is not
part of the sources: what the clients use of it is `ServiceDispatch`.

    exchange_eq         a call by way of a message is a call of the method
    calls_transparent   clients may just as well call the methods of the service
-/

namespace SwitchOc.SysClk.Ipc

open CText Function Traced

/-! ## libnx -/

/-- A request as it arrives in the buffer of the server, and what becomes of the response: the
result of its header or, if that is `0`, as many bytes as the output has. -/
structure ServiceDispatch where
  request : UInt64 → List UInt8 → List (List UInt8) → Message
  result : List UInt8 → Nat → Except Result (List UInt8)
  type_request : ∀ cmdId args buffers,
    (request cmdId args buffers).type = cmifCommandType_Request
  header_request : ∀ cmdId args buffers, args.length ≤ SysClkIpcCmd.maxArgs →
    (request cmdId args buffers).header = ⟨CMIF_IN_HEADER_MAGIC, cmdId⟩
  words_request : ∀ cmdId args buffers, args.length ≤ SysClkIpcCmd.maxArgs →
    sizeofIpcServerRawHeader + args.length ≤ 4 * (request cmdId args buffers).num_data_words.toNat
  args_request : ∀ cmdId args buffers, args.length ≤ SysClkIpcCmd.maxArgs →
    ((request cmdId args buffers).tls.drop ((request cmdId args buffers).dataStart +
      sizeofIpcServerRawHeader)).take args.length = args
  buffers_request : ∀ cmdId args buffers, (request cmdId args buffers).recv_buffers = buffers
  result_failure : ∀ tls size rc, rc ≠ 0 →
    rawHeader.get tls responseStart = ⟨CMIF_OUT_HEADER_MAGIC, rc.toUInt64⟩ →
    result tls size = .error rc
  result_success : ∀ tls size, rawHeader.get tls responseStart = ⟨CMIF_OUT_HEADER_MAGIC, 0⟩ →
    result tls size = .ok ((tls.drop (responseStart + sizeofIpcServerRawHeader)).take size)

/-- The bytes of a request, without descriptors. -/
def plainRequest (cmdId : UInt64) (args : List UInt8) : List UInt8 :=
  (List.replicate plainStart 0 ++ (rawHeader.bytes ⟨CMIF_IN_HEADER_MAGIC, cmdId⟩ ++
    (args ++ List.replicate sizeofTls 0))).take sizeofTls

theorem length_plainRequest (cmdId : UInt64) (args : List UInt8) :
    (plainRequest cmdId args).length = sizeofTls := by
  unfold plainRequest
  simp only [List.length_take, List.length_append, List.length_replicate]
  omega

theorem drop_plainRequest (cmdId : UInt64) (args : List UInt8) :
    (plainRequest cmdId args).drop plainStart = (rawHeader.bytes ⟨CMIF_IN_HEADER_MAGIC, cmdId⟩ ++
      (args ++ List.replicate sizeofTls 0)).take (sizeofTls - plainStart) := by
  unfold plainRequest
  rw [List.drop_take, List.drop_left' List.length_replicate]

theorem header_plainRequest (cmdId : UInt64) (args : List UInt8) :
    ((plainRequest cmdId args).drop plainStart).take rawHeader.size =
      rawHeader.bytes ⟨CMIF_IN_HEADER_MAGIC, cmdId⟩ := by
  have hsize : rawHeader.size ≤ sizeofTls - plainStart := by decide
  rw [drop_plainRequest, List.take_take, Nat.min_eq_left hsize,
    List.take_left' (Layout.length_bytes _ _)]

theorem args_plainRequest (cmdId : UInt64) {args : List UInt8}
    (h : args.length ≤ SysClkIpcCmd.maxArgs) :
    ((plainRequest cmdId args).drop (plainStart + sizeofIpcServerRawHeader)).take args.length =
      args := by
  have hroom : args.length ≤ sizeofTls - plainStart - sizeofIpcServerRawHeader :=
    Nat.le_trans h (by decide)
  have hlen : (rawHeader.bytes ⟨CMIF_IN_HEADER_MAGIC, cmdId⟩).length = sizeofIpcServerRawHeader :=
    Layout.length_bytes _ _
  rw [← List.drop_drop, drop_plainRequest, List.drop_take, List.take_take,
    Nat.min_eq_left hroom, List.drop_left' hlen, List.take_left]

/-- As many words as the largest command has. -/
def plainMessage (cmdId : UInt64) (args : List UInt8) (buffers : List (List UInt8)) : Message where
  type := cmifCommandType_Request
  num_data_words := 24
  tls := plainRequest cmdId args
  dataStart := plainStart
  recv_buffers := buffers
  length_tls := length_plainRequest cmdId args
  room := room_plainStart _ _

theorem header_plainMessage (cmdId : UInt64) (args : List UInt8) (buffers : List (List UInt8)) :
    (plainMessage cmdId args buffers).header = ⟨CMIF_IN_HEADER_MAGIC, cmdId⟩ := by
  unfold Message.header
  apply Layout.get_of_bytes
  exact header_plainRequest cmdId args

def plainResult (tls : List UInt8) (size : Nat) : Except Result (List UInt8) :=
  let header := rawHeader.get tls responseStart
  if header.magic ≠ CMIF_OUT_HEADER_MAGIC then .error libnxError_BadInput
  else if header.cmdId ≠ 0 then .error header.cmdId.toUInt32
  else .ok ((tls.drop (responseStart + sizeofIpcServerRawHeader)).take size)

theorem plainResult_failure (tls : List UInt8) (size : Nat) (rc : Result) (hrc : rc ≠ 0)
    (h : rawHeader.get tls responseStart = ⟨CMIF_OUT_HEADER_MAGIC, rc.toUInt64⟩) :
    plainResult tls size = .error rc := by
  have hne : rc.toUInt64 ≠ 0 := by
    intro hzero
    apply hrc
    rw [← UInt32.toUInt32_toUInt64 rc, hzero]
    rfl
  unfold plainResult
  rw [h]
  dsimp only
  rw [if_neg (not_not.2 rfl), if_pos hne, UInt32.toUInt32_toUInt64]

theorem plainResult_success (tls : List UInt8) (size : Nat)
    (h : rawHeader.get tls responseStart = ⟨CMIF_OUT_HEADER_MAGIC, 0⟩) :
    plainResult tls size =
      .ok ((tls.drop (responseStart + sizeofIpcServerRawHeader)).take size) := by
  unfold plainResult
  rw [h]
  dsimp only
  rw [if_neg (not_not.2 rfl), if_neg (not_not.2 rfl)]

def plainDispatch : ServiceDispatch where
  request := plainMessage
  result := plainResult
  type_request _ _ _ := rfl
  header_request cmdId args buffers _ := header_plainMessage cmdId args buffers
  words_request _ _ _ h := Nat.add_le_add_left h sizeofIpcServerRawHeader
  args_request cmdId _ _ h := args_plainRequest cmdId h
  buffers_request _ _ _ := rfl
  result_failure := plainResult_failure
  result_success := plainResult_success

/-! ## Calls -/

/-- One call of `sysclkIpc…`. -/
structure ClientCall where
  cmd : SysClkIpcCmd
  args : cmd.In
  /-- The buffer that `sysclkIpcGetVersionString` passes on. -/
  out : List UInt8

namespace ClientCall

def buffers (c : ClientCall) : List (List UInt8) :=
  if c.cmd = .getVersionString then [c.out] else []

def request (L : ServiceDispatch) (c : ClientCall) : Message :=
  L.request c.cmd.id (c.cmd.args.bytes c.args) c.buffers

theorem type_request (L : ServiceDispatch) (c : ClientCall) :
    (c.request L).type = cmifCommandType_Request := L.type_request _ _ _

end ClientCall

/-- What a call returns. -/
structure Returned where
  cmd : SysClkIpcCmd
  result : Except Result cmd.Out
  out : List UInt8

/-- The output is read from the bytes of the response. -/
def returnedOf (L : ServiceDispatch) (c : ClientCall) (tls : List UInt8)
    (recv_buffers : List (List UInt8)) : Returned where
  cmd := c.cmd
  result :=
    match L.result tls c.cmd.outs.size with
    | .error rc => .error rc
    | .ok bytes => .ok (c.cmd.outs.get bytes 0)
  out := recv_buffers.headD c.out

/-- A call by way of a message, where `own` is what the client has in its buffer. -/
def exchange (L : ServiceDispatch) (env : Env) (own : List UInt8) (c : ClientCall) (s : Sysmodule) :
    Except IpcFault (Option Returned × Sysmodule) :=
  match answer env (c.request L) s with
  | .error fault => .error fault
  | .ok (none, s) => .ok (none, s)
  | .ok (some a, s) =>
    .ok (some (returnedOf L c (a.response.delivered own) a.recv_buffers), s)

/-- A call of the method itself. -/
def perform (env : Env) (c : ClientCall) (s : Sysmodule) :
    Except IpcFault (Option Returned × Sysmodule) :=
  match method env c.cmd c.args s with
  | .error fault => .error fault
  | .ok (result, s) =>
    .ok (some ⟨c.cmd, result,
      if c.cmd = .getVersionString then getVersionString env c.out else c.out⟩, s)

variable {L : ServiceDispatch} {env : Env} {own : List UInt8} {c : ClientCall} {s : Sysmodule}

/-- A failure is never reported as a success. -/
theorem whenLoaded_error_ne_zero {β : Type} {f : Config → β} {s' : Sysmodule} {rc : Result}
    (h : answers (whenLoaded f) s = .ok (.error rc, s')) : rc ≠ 0 := by
  unfold answers whenLoaded at h
  split at h
  · cases h
  · cases h
    decide

theorem method_error_ne_zero {cmd : SysClkIpcCmd} {i : cmd.In} {s' : Sysmodule} {rc : Result}
    (h : method env cmd i s = .ok (.error rc, s')) : rc ≠ 0 := by
  cases cmd with
  | getProfileCount => exact whenLoaded_error_ne_zero h
  | getProfiles => exact whenLoaded_error_ne_zero h
  | getConfigValues => exact whenLoaded_error_ne_zero h
  | setProfiles =>
    rcases setProfiles_cases h with ⟨-, hrc, -⟩ | ⟨-, hrc, -⟩ | ⟨file, -, -, -, hrc, -⟩
    · cases hrc
      decide
    · cases hrc
      decide
    · cases hrc
  | setConfigValues =>
    rcases setConfigValues_cases h with ⟨hrc, -⟩ | ⟨hrc, -⟩ | ⟨file, -, -, hrc, -⟩
    · cases hrc
      decide
    · cases hrc
      decide
    · cases hrc
  | setOverride =>
    rcases setOverride_cases h with ⟨hrc, -⟩ | ⟨module, hrc, -⟩
    · cases hrc
      decide
    · cases hrc
  | getFrequencyTable =>
    rw [(getFrequencyTable_cases h).2 rc rfl]
    decide
  | _ => cases h

/-- What libnx makes of a response of the server. -/
theorem result_delivered {tls data : List UInt8} {dataSize : Nat} (L : ServiceDispatch)
    (own : List UInt8) (htls : tls.length = sizeofTls) (hdata : dataSize ≤ data.length)
    (hsize : dataSize ≤ sizeofSysClkFrequencyTable) :
    L.result ((prepareResponse tls 0 data dataSize).delivered own) dataSize =
      .ok (data.take dataSize) := by
  have hheader : rawHeader.get ((prepareResponse tls 0 data dataSize).delivered own)
      responseStart = ⟨CMIF_OUT_HEADER_MAGIC, (0 : Result).toUInt64⟩ :=
    header_delivered own htls hdata hsize
  rw [L.result_success _ dataSize hheader, data_delivered own htls hdata hsize]

theorem result_delivered_of_failure {tls data : List UInt8} {dataSize : Nat} {rc : Result}
    (L : ServiceDispatch) (own : List UInt8) (hrc : rc ≠ 0) (htls : tls.length = sizeofTls)
    (hdata : dataSize ≤ data.length) (hsize : dataSize ≤ sizeofSysClkFrequencyTable) :
    L.result ((prepareResponse tls rc data dataSize).delivered own) dataSize = .error rc :=
  L.result_failure _ dataSize rc hrc (header_delivered own htls hdata hsize)

theorem size_outs_le_data (env : Env) (cmd : SysClkIpcCmd) : cmd.outs.size ≤ env.data.length := by
  rw [env.length_data]
  exact Nat.le_trans cmd.size_outs_le (by decide)

/-- The request is parsed into the id of the command and its arguments. -/
theorem parse_request (L : ServiceDispatch) (c : ClientCall) :
    ∃ r, (c.request L).ipcServerParseRequest = .ok r ∧ r.cmdId = c.cmd.id ∧
      c.cmd.args.size ≤ r.size ∧ c.cmd.args.get (c.request L).tls r.ptr = c.args := by
  have hlen : (c.cmd.args.bytes c.args).length = c.cmd.args.size := Layout.length_bytes _ _
  have hmax : (c.cmd.args.bytes c.args).length ≤ SysClkIpcCmd.maxArgs := by
    rw [hlen]
    exact c.cmd.size_args_le
  have hwords := L.words_request c.cmd.id (c.cmd.args.bytes c.args) c.buffers hmax
  have hheader := L.header_request c.cmd.id (c.cmd.args.bytes c.args) c.buffers hmax
  have hargs := L.args_request c.cmd.id (c.cmd.args.bytes c.args) c.buffers hmax
  change _ ≤ 4 * (c.request L).num_data_words.toNat at hwords
  change (c.request L).header = _ at hheader
  rw [hlen] at hwords hargs
  have hparsed : ¬((c.request L).num_data_words = 0 ∨
      4 * (c.request L).num_data_words.toNat < sizeofIpcServerRawHeader ∨
      (c.request L).header.magic ≠ CMIF_IN_HEADER_MAGIC) := by
    rintro (hzero | hshort | hmagic)
    · rw [hzero] at hwords
      exact absurd hwords (by unfold sizeofIpcServerRawHeader; simp)
    · omega
    · exact hmagic (by rw [hheader])
  unfold Message.ipcServerParseRequest
  rw [if_pos (c.type_request L)]
  dsimp only
  rw [if_neg hparsed, hheader]
  by_cases hdata : sizeofIpcServerRawHeader < 4 * (c.request L).num_data_words.toNat
  · rw [if_pos hdata]
    exact ⟨_, rfl, rfl, by dsimp only; omega, Layout.get_of_bytes _ _ hargs⟩
  · -- no room for arguments, so there are none
    rw [if_neg hdata]
    have hnone : c.cmd.args.size = 0 := by omega
    refine ⟨_, rfl, rfl, Nat.le_of_eq hnone, Layout.get_of_bytes _ _ ?_⟩
    rw [hnone, List.take_zero]
    exact (List.eq_nil_of_length_eq_zero (hlen.trans hnone)).symm

theorem exchange_eq_of_getVersionString (L : ServiceDispatch) (env : Env) (own : List UInt8)
    {c : ClientCall} (s : Sysmodule) (hcmd : c.cmd = .getVersionString) :
    exchange L env own c s = perform env c s := by
  obtain ⟨cmd, args, out⟩ := c
  replace hcmd : cmd = .getVersionString := hcmd
  subst hcmd
  obtain ⟨r, hparse, hid, -, -⟩ := parse_request L ⟨.getVersionString, args, out⟩
  have hbuffers : (ClientCall.request L ⟨.getVersionString, args, out⟩).recv_buffers = [out] :=
    L.buffers_request _ _ _
  have hfunc : serviceHandlerFunc env (ClientCall.request L ⟨.getVersionString, args, out⟩) r s =
      .ok (⟨0, env.data, 0, [getVersionString env out]⟩, s) := by
    unfold serviceHandlerFunc
    rw [hid, SysClkIpcCmd.ofId_id]
    show Except.ok (handleVersionString env _, s) = _
    unfold handleVersionString
    rw [hbuffers]
  unfold exchange perform answer
  rw [hparse]
  dsimp only
  rw [if_pos (ClientCall.type_request L _), hfunc]
  have hresult := result_delivered L own
    (ClientCall.request L ⟨.getVersionString, args, out⟩).length_tls
    (Nat.zero_le env.data.length) (Nat.zero_le _)
  have hsize : SysClkIpcCmd.getVersionString.outs.size = 0 := rfl
  simp only [returnedOf]
  rw [hsize, hresult]
  rfl

/-- **A call by way of a message is a call of the method.** -/
theorem exchange_eq (L : ServiceDispatch) (env : Env) (own : List UInt8) (c : ClientCall)
    (s : Sysmodule) : exchange L env own c s = perform env c s := by
  by_cases hcmd : c.cmd = .getVersionString
  · exact exchange_eq_of_getVersionString L env own s hcmd
  obtain ⟨r, hparse, hid, hsize, hargs⟩ := parse_request L c
  have hfunc : serviceHandlerFunc env (c.request L) r s =
      handle env (c.request L) r c.cmd.args c.cmd.outs (method env c.cmd) s :=
    serviceHandlerFunc_eq (by rw [hid, SysClkIpcCmd.ofId_id]) hcmd
  unfold exchange perform answer
  rw [hparse]
  dsimp only
  rw [if_pos (c.type_request L), hfunc]
  unfold handle
  rw [if_pos hsize, hargs]
  have hbuffers : (c.request L).recv_buffers = [] := by
    show (L.request _ _ c.buffers).recv_buffers = []
    rw [L.buffers_request]
    exact if_neg hcmd
  cases hmethod : method env c.cmd c.args s with
  | error fault => rfl
  | ok x =>
    obtain ⟨result, s'⟩ := x
    cases result with
    | error rc =>
      have hresult := result_delivered_of_failure L own (method_error_ne_zero hmethod)
        (c.request L).length_tls (size_outs_le_data env c.cmd) c.cmd.size_outs_le
      simp only [reply, returnedOf, hresult, hbuffers, List.headD_nil, if_neg hcmd]
    | ok out =>
      have hlen : c.cmd.outs.size ≤ (c.cmd.outs.put env.data 0 out).length := by
        rw [Layout.length_put]
        exact size_outs_le_data env c.cmd
      have hresult := result_delivered L own (c.request L).length_tls hlen c.cmd.size_outs_le
      have hout :
          c.cmd.outs.get ((c.cmd.outs.put env.data 0 out).take c.cmd.outs.size) 0 = out := by
        rw [Layout.get_take]
        exact c.cmd.outs.get_put _ _ _ (by rw [Nat.zero_add]; exact size_outs_le_data env c.cmd)
      simp only [reply, returnedOf, hresult, hout, hbuffers, List.headD_nil, if_neg hcmd]

theorem exchange_of_ok {s' : Sysmodule} {result : Except Result c.cmd.Out}
    (hcmd : c.cmd ≠ .getVersionString) (h : method env c.cmd c.args s = .ok (result, s')) :
    exchange L env own c s = .ok (some ⟨c.cmd, result, c.out⟩, s') := by
  rw [exchange_eq]
  unfold perform
  rw [h]
  dsimp only
  rw [if_neg hcmd]

/-! ## Sessions -/

/-- A call by some client, which has `own` in its buffer, or one of the manager by the main loop. -/
inductive ClientTurn (H : Type) where
  | call (env : Env) (own : List UInt8) (c : ClientCall)
  | main (call : Call H) (temps : SysClkThermalSensor → UInt32) (file : Option Text)

variable {H : Type}

/-- The log has what the clients are returned. -/
def wireTurn (L : ServiceDispatch) (P : Hardware H) :
    ClientTurn H → Prog IpcFault (Process H) (Option Returned) Unit
  | .call env own c => ⟨fun S =>
      match exchange L env own c S.sys with
      | .error fault => ⟨.error fault, S, []⟩
      | .ok (a, s) => ⟨.ok (), { S with sys := s }, [a]⟩⟩
  | .main call temps file => mainTurn P call temps file

/-- The same without a message. -/
def directTurn (P : Hardware H) :
    ClientTurn H → Prog IpcFault (Process H) (Option Returned) Unit
  | .call env _ c => ⟨fun S =>
      match perform env c S.sys with
      | .error fault => ⟨.error fault, S, []⟩
      | .ok (a, s) => ⟨.ok (), { S with sys := s }, [a]⟩⟩
  | .main call temps file => mainTurn P call temps file

/-- **Clients may just as well call the methods of the service.**  A session over libnx ends the
same way, in the same state, and has returned the same to every client. -/
theorem calls_transparent (L : ServiceDispatch) (P : Hardware H) (S : Process H)
    (turns : List (ClientTurn H)) :
    Prog.forEach turns (wireTurn L P) S = Prog.forEach turns (directTurn P) S := by
  have hturn : wireTurn L P = directTurn P := by
    funext t
    cases t with
    | call env own c =>
      unfold wireTurn directTurn
      simp only [exchange_eq]
    | main call temps file => rfl
  rw [hturn]

/-- The main loop looks at the file; clients switch the service off, and ask for its version and
for the profiles of a title. -/
def someTurns : List (ClientTurn (SysClkModule → UInt32)) :=
  [.main (.tick (ClockManager.onCharger 0)) (fun _ => 0) none,
    .call someEnv [] ⟨.setEnabled, false, []⟩, .call someEnv [1, 2] ⟨.getApiVersion, (), []⟩,
    .call someEnv [] ⟨.getProfileCount, (1 : UInt64), []⟩]

theorem calls_transparent_someTurns :
    Prog.forEach someTurns (wireTurn plainDispatch Hardware.exact) stockProcess =
        Prog.forEach someTurns (directTurn Hardware.exact) stockProcess ∧
      (Prog.forEach someTurns (wireTurn plainDispatch Hardware.exact) stockProcess).log =
        [some ⟨.setEnabled, .ok (), []⟩,
          some ⟨.getApiVersion, .ok SYSCLK_IPC_API_VERSION, []⟩,
          some ⟨.getProfileCount, .ok (0 : UInt8), []⟩] := by
  have hsame := calls_transparent plainDispatch Hardware.exact stockProcess someTurns
  refine ⟨hsame, ?_⟩
  rw [hsame]
  rfl

end SwitchOc.SysClk.Ipc
