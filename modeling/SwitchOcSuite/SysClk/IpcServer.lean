import SwitchOcSuite.Lib.Session
import SwitchOcSuite.Lib.Table

/-!
# The IPC server (`sysmodule/lib/nxExt/src/ipc_server.c`)

What the kernel answers in one `ipcServerProcess` is an `Event`.  Next to the server
the state has the sessions that the kernel has handed out and that have not been
closed, in the order of acceptance; the server sees them only through handles.  The
log has the calls that hand out, answer and close.

    sessions_kept    the handles of the server are the port and these sessions, for
                     every sequence of events, and nothing is closed twice
-/

namespace SwitchOc.SysClk.Ipc

open Function Traced
open Traced.Prog (getState gets sets emits)

/-! ## Results and messages -/

abbrev Handle := UInt32
abbrev Result := UInt32

def MAKERESULT (module description : UInt32) : Result :=
  (module &&& (0x1FF : UInt32)) ||| ((description &&& (0x1FFF : UInt32)) <<< (9 : UInt32))

def libnxError_OutOfMemory : Result := MAKERESULT 345 2
def libnxError_NotFound : Result := MAKERESULT 345 9
def libnxError_BadInput : Result := MAKERESULT 345 11
def kernelError_TimedOut : Result := MAKERESULT 1 117

def MAX_WAIT_OBJECTS : Nat := 0x40

def cmifCommandType_Close : UInt32 := 2
def cmifCommandType_Request : UInt32 := 4
def CMIF_IN_HEADER_MAGIC : UInt64 := 0x49434653

structure IpcServerRawHeader where
  magic : UInt64
  cmdId : UInt64
deriving DecidableEq, Repr, Inhabited

def sizeofIpcServerRawHeader : Nat := 16

/-- What `hipcParseRequest` makes of a message; without data words there may be no header. -/
structure HipcParsedRequest where
  type : UInt32
  num_data_words : UInt32
  header : Option IpcServerRawHeader
deriving DecidableEq, Repr, Inhabited

/-- The answers of the kernel during one call, and that of the request handler. -/
structure Event where
  /-- `svcWaitSynchronization`. -/
  wait : Result
  handleIndex : Int
  /-- `svcAcceptSession`. -/
  accept : Result
  session : Handle
  /-- The first `svcReplyAndReceive`. -/
  receive : Result
  request : HipcParsedRequest
  handlerResult : Result
  /-- The second `svcReplyAndReceive`. -/
  reply : Result
deriving DecidableEq, Repr, Inhabited

/-! ## State -/

structure IpcServer where
  handles : Nat → Handle
  max : Nat
  count : Nat

structure System where
  server : IpcServer
  sessions : List Handle

inductive KernelCall where
  | acceptSession (session : Handle)
  | replyAndReceive (result : Result)
  /-- `isOpen` records whether the handle was open. -/
  | closeHandle (session : Handle) (isOpen : Bool)
deriving DecidableEq, Repr

abbrev Server := Prog Empty System KernelCall

/-! ## Kernel calls -/

def svcAcceptSession (E : Event) : Server Result := do
  (if E.accept = 0 then
    emits (fun _ => .acceptSession E.session)
      fun s => { s with sessions := s.sessions ++ [E.session] }
  else pure ())
  pure E.accept

/-- Closing an open handle always succeeds, and no caller reads the result. -/
def svcCloseHandle (session : Handle) : Server Unit :=
  emits (fun s => .closeHandle session (session ∈ s.sessions))
    fun s => { s with sessions := s.sessions.erase session }

/-! ## Code -/

/-- `ipcServerInit`: `registered` is the result of `smRegisterService`, which writes
the port into the first slot. -/
def ipcServerInit (max_sessions : Nat) (registered : Result) (port : Handle) : Server Result :=
  if max_sessions < 1 ∨ MAX_WAIT_OBJECTS - 1 < max_sessions then pure libnxError_BadInput
  else do
    sets fun s => { s with server := { s.server with
      max := max_sessions + 1
      count := if registered = 0 then 1 else 0
      handles := if registered = 0 then update s.server.handles 0 port else s.server.handles } }
    pure registered

def addSession (session : Handle) : Server Result := do
  let server ← gets System.server
  if server.max ≤ server.count then pure libnxError_OutOfMemory
  else do
    sets fun s => { s with server := { s.server with
      handles := update s.server.handles s.server.count session
      count := s.server.count + 1 } }
    pure 0

def deleteSession (index : Nat) : Server Result := do
  let server ← gets System.server
  if index = 0 ∨ server.count ≤ index then pure libnxError_BadInput
  else do
    svcCloseHandle (server.handles index)
    sets fun s => { s with server := { s.server with
      handles := Table.shiftDown s.server.handles index s.server.count
      count := s.server.count - 1 } }
    pure 0

/-- `_ipcServerParseRequest`, as far as the result. -/
def parseRequest (r : HipcParsedRequest) : Result :=
  if r.type = cmifCommandType_Request then
    match r.header with
    | none => libnxError_BadInput
    | some header =>
      if 4 * r.num_data_words.toNat < sizeofIpcServerRawHeader ∨
          header.magic ≠ CMIF_IN_HEADER_MAGIC then libnxError_BadInput
      else 0
  else 0

/-- The result in the response. -/
def response (E : Event) : Result :=
  if E.request.type = cmifCommandType_Request then E.handlerResult
  else if E.request.type = cmifCommandType_Close then 0
  else MAKERESULT 11 403

def processNewSession (E : Event) : Server Result := do
  let rc ← svcAcceptSession E
  if rc = 0 then do
    let rc ← addSession E.session
    (if rc ≠ 0 then svcCloseHandle E.session else pure ())
    pure rc
  else pure rc

/-- The session goes on with `rc = 0` and without `close`. -/
def finishSession (handleIndex : Nat) (rc : Result) (close : Bool) : Server Result := do
  (if rc ≠ 0 ∨ close = true then do
    let _ ← deleteSession handleIndex
    pure ()
  else pure ())
  pure rc

/-- The result of receiving and parsing a request. -/
def received (E : Event) : Result := if E.receive = 0 then parseRequest E.request else E.receive

def processSession (E : Event) (handleIndex : Nat) : Server Result :=
  if received E = 0 then do
    emits (fun _ => .replyAndReceive (response E)) id
    finishSession handleIndex (if E.reply = kernelError_TimedOut then 0 else E.reply)
      (E.request.type = cmifCommandType_Close)
  else finishSession handleIndex (received E) false

/-- The result of waiting for one of `count` handles. -/
def waited (E : Event) (count : Nat) : Result :=
  if E.wait = 0 ∧ (E.handleIndex < 0 ∨ (count : Int) ≤ E.handleIndex) then libnxError_NotFound
  else E.wait

def ipcServerProcess (E : Event) : Server Result := do
  let count ← gets fun s => s.server.count
  if waited E count ≠ 0 then pure (waited E count)
  else if E.handleIndex ≠ 0 then processSession E E.handleIndex.toNat
  else processNewSession E

/-- One turn of the service thread. -/
def serve (E : Event) : Server Unit := do
  let _ ← ipcServerProcess E
  pure ()

/-! ## What holds between two events -/

/-- The handles are the port and the open sessions, in the order of acceptance. -/
structure Kept (port : Handle) (s : System) : Prop where
  port_eq : s.server.handles 0 = port
  count_pos : 1 ≤ s.server.count
  count_le : s.server.count ≤ s.server.max
  max_le : s.server.max ≤ MAX_WAIT_OBJECTS
  sessions_eq : Table.entries s.server.handles 1 (s.server.count - 1) = s.sessions
  nodup : (port :: s.sessions).Nodup

def ClosesOpen : KernelCall → Prop
  | .closeHandle _ isOpen => isOpen = true
  | _ => True

/-- The event hands out no handle that is open. -/
def Fresh (port : Handle) (s : System) (E : Event) : Prop :=
  E.wait = 0 → E.handleIndex = 0 → E.accept = 0 → E.session ∉ port :: s.sessions

instance (port : Handle) (s : System) (E : Event) : Decidable (Fresh port s E) :=
  inferInstanceAs (Decidable (E.wait = 0 → E.handleIndex = 0 → E.accept = 0 → _))

variable {port : Handle} {s : System} {E : Event}

/-- A handle of the server behind the port is that of an open session. -/
theorem Kept.handle_mem (h : Kept port s) {i : Nat} (hpos : i ≠ 0) (hlt : i < s.server.count) :
    s.server.handles i ∈ s.sessions := by
  rw [← h.sessions_eq]
  exact Table.mem_entries (by omega) (by omega)

theorem kept_deleteSession (h : Kept port s) {i : Nat} (hpos : i ≠ 0)
    (hlt : i < s.server.count) :
    (deleteSession i s).result = .ok 0 ∧ Kept port (deleteSession i s).state ∧
      Traces ClosesOpen (deleteSession i) s := by
  have hmem : s.server.handles i ∈ s.sessions := h.handle_mem hpos hlt
  have hrun : deleteSession i s = ⟨.ok 0,
      { server := { s.server with
          handles := Table.shiftDown s.server.handles i s.server.count
          count := s.server.count - 1 }
        sessions := s.sessions.erase (s.server.handles i) },
      [.closeHandle (s.server.handles i) true]⟩ := by
    unfold deleteSession
    rw [gets_bind_run, if_neg (by omega)]
    show ((svcCloseHandle _ >>= _) s) = _
    rw [bind_of_ok (a := ()) rfl, ← decide_eq_true hmem]
    rfl
  unfold Traces
  rw [hrun]
  refine ⟨rfl, ⟨?_, ?_, ?_, h.max_le, ?_, ?_⟩, ?_⟩
  · show Table.shiftDown s.server.handles i s.server.count 0 = port
    rw [Table.shiftDown_apply, if_neg (by omega)]
    exact h.port_eq
  · show 1 ≤ s.server.count - 1
    omega
  · have hle := h.count_le
    show s.server.count - 1 ≤ s.server.max
    omega
  · -- the entry behind the index is the session that is closed
    have hlen : s.sessions.length = s.server.count - 1 := by
      rw [← h.sessions_eq, Table.length_entries]
    have hlast : i - 1 < s.sessions.length := by omega
    have hget : s.sessions[i - 1] = s.server.handles i := by
      have hent := Table.getElem_entries s.server.handles 1 (s.server.count - 1) (i - 1)
        (by rw [Table.length_entries]; omega)
      rw [show 1 + (i - 1) = i by omega] at hent
      rw [← hent]
      simp only [h.sessions_eq]
    show Table.entries (Table.shiftDown s.server.handles i s.server.count) 1
      (s.server.count - 1 - 1) = s.sessions.erase (s.server.handles i)
    have hshift := Table.entries_shiftDown s.server.handles (show 1 ≤ i by omega)
      (show i < 1 + (s.server.count - 1) by omega)
    rw [show 1 + (s.server.count - 1) = s.server.count by omega, h.sessions_eq] at hshift
    rw [hshift, ← hget, (List.nodup_cons.1 h.nodup).2.erase_getElem]
  · obtain ⟨hport, hnd⟩ := List.nodup_cons.1 h.nodup
    exact List.nodup_cons.2 ⟨fun hin => hport (List.mem_of_mem_erase hin), hnd.erase _⟩
  · intro l hl
    rw [List.mem_singleton.1 hl]
    exact rfl

/-! ## One event -/

theorem addSession_full (session : Handle) (h : s.server.max ≤ s.server.count) :
    addSession session s = ⟨.ok libnxError_OutOfMemory, s, []⟩ := by
  unfold addSession
  rw [gets_bind_run, if_pos h]
  rfl

theorem addSession_room (session : Handle) (h : s.server.count < s.server.max) :
    addSession session s = ⟨.ok 0,
      { s with server := { s.server with
          handles := update s.server.handles s.server.count session
          count := s.server.count + 1 } }, []⟩ := by
  unfold addSession
  rw [gets_bind_run, if_neg (Nat.not_le.2 h), sets_bind_run]
  rfl

/-- A session that finds no room is closed again. -/
theorem processNewSession_full (haccept : E.accept = 0) (hfull : s.server.max ≤ s.server.count)
    (hnew : E.session ∉ s.sessions) :
    processNewSession E s = ⟨.ok libnxError_OutOfMemory, s,
      [.acceptSession E.session, .closeHandle E.session true]⟩ := by
  have herror : libnxError_OutOfMemory ≠ 0 := by decide
  have herase : (s.sessions ++ [E.session]).erase E.session = s.sessions := by
    rw [List.erase_append_right _ hnew, List.erase_cons_head, List.append_nil]
  have hadd := addSession_full (s := { s with sessions := s.sessions ++ [E.session] })
    E.session hfull
  unfold processNewSession svcAcceptSession svcCloseHandle
  simp [haccept, bind_of_ok, Outcome.after, hadd, herror, herase]

/-- Any other session is the last one of the table. -/
theorem processNewSession_room (haccept : E.accept = 0) (hroom : s.server.count < s.server.max) :
    processNewSession E s = ⟨.ok 0,
      { server := { s.server with
          handles := update s.server.handles s.server.count E.session
          count := s.server.count + 1 }
        sessions := s.sessions ++ [E.session] }, [.acceptSession E.session]⟩ := by
  have hadd := addSession_room (s := { s with sessions := s.sessions ++ [E.session] })
    E.session hroom
  unfold processNewSession svcAcceptSession
  simp [haccept, bind_of_ok, Outcome.after, hadd]

theorem kept_processNewSession (h : Kept port s)
    (hfresh : E.accept = 0 → E.session ∉ port :: s.sessions) :
    Kept port (processNewSession E s).state ∧ Traces ClosesOpen (processNewSession E) s := by
  by_cases haccept : E.accept = 0
  · obtain ⟨hport, hnew⟩ := not_or.1 (mt List.mem_cons.2 (hfresh haccept))
    unfold Traces
    by_cases hfull : s.server.max ≤ s.server.count
    · rw [processNewSession_full haccept hfull hnew]
      refine ⟨h, fun l hl => ?_⟩
      simp only [List.mem_cons, List.not_mem_nil, or_false] at hl
      rcases hl with rfl | rfl
      · trivial
      · exact rfl
    · have hroom := Nat.not_le.1 hfull
      have hpos := h.count_pos
      rw [processNewSession_room haccept hroom]
      refine ⟨⟨?_, Nat.le_add_left 1 _, hroom, h.max_le, ?_, ?_⟩, ?_⟩
      · show update s.server.handles s.server.count E.session 0 = port
        rw [update_of_ne (by omega)]
        exact h.port_eq
      · have hentries := Table.entries_update s.server.handles 1 (s.server.count - 1) E.session
        rw [show 1 + (s.server.count - 1) = s.server.count by omega,
          show s.server.count - 1 + 1 = s.server.count + 1 - 1 by omega, h.sessions_eq] at hentries
        exact hentries
      · obtain ⟨hportnot, hnd⟩ := List.nodup_cons.1 h.nodup
        refine List.nodup_cons.2 ⟨?_, ?_⟩
        · intro hin
          rcases List.mem_append.1 hin with hin | hin
          · exact hportnot hin
          · exact hport (List.mem_singleton.1 hin).symm
        · exact List.nodup_append.2 ⟨hnd, List.nodup_singleton _, fun a ha b hb heq =>
            hnew (List.mem_singleton.1 hb ▸ heq ▸ ha)⟩
      · intro l hl
        rw [List.mem_singleton.1 hl]
        trivial
  · have hrun : processNewSession E s = ⟨.ok E.accept, s, []⟩ := by
      unfold processNewSession svcAcceptSession
      simp [haccept, bind_of_ok, Outcome.after]
    unfold Traces
    rw [hrun]
    exact ⟨h, fun l hl => absurd hl List.not_mem_nil⟩

theorem kept_finishSession (h : Kept port s) {i : Nat} (hpos : i ≠ 0)
    (hlt : i < s.server.count) (rc : Result) (close : Bool) :
    Kept port (finishSession i rc close s).state ∧ Traces ClosesOpen (finishSession i rc close) s := by
  unfold finishSession
  by_cases hclose : rc ≠ 0 ∨ close = true
  · obtain ⟨hres, hkept, htraces⟩ := kept_deleteSession h hpos hlt
    rw [if_pos hclose]
    have hdelete : ((deleteSession i >>= fun _ => pure ()) s).result = .ok () := by
      rw [bind_of_ok hres]
      rfl
    refine ⟨?_, ?_⟩
    · rw [bind_of_ok hdelete, bind_of_ok hres]
      exact hkept
    · refine traces_bind.2 ⟨?_, fun _ _ => traces_pure _ _⟩
      exact traces_bind.2 ⟨htraces, fun _ _ => traces_pure _ _⟩
  · rw [if_neg hclose]
    exact ⟨h, traces_bind.2 ⟨traces_pure _ _, fun _ _ => traces_pure _ _⟩⟩

theorem kept_processSession (h : Kept port s) {i : Nat} (hpos : i ≠ 0)
    (hlt : i < s.server.count) :
    Kept port (processSession E i s).state ∧ Traces ClosesOpen (processSession E i) s := by
  unfold processSession
  by_cases hreceived : received E = 0
  · rw [if_pos hreceived]
    have hreply : (emits (fun _ => KernelCall.replyAndReceive (response E)) id s :
        Outcome Empty System KernelCall Unit) = ⟨.ok (), s, [.replyAndReceive (response E)]⟩ := rfl
    obtain ⟨hkept, htraces⟩ := kept_finishSession h hpos hlt
      (if E.reply = kernelError_TimedOut then 0 else E.reply)
      (E.request.type = cmifCommandType_Close)
    refine ⟨?_, ?_⟩
    · rw [bind_of_ok (congrArg Outcome.result hreply), hreply]
      exact hkept
    · have hopen : ∀ s' : System, ClosesOpen (.replyAndReceive (response E)) := fun _ => trivial
      exact traces_bind.2 ⟨stays_emits hopen id s, fun _ _ => htraces⟩
  · rw [if_neg hreceived]
    exact kept_finishSession h hpos hlt _ _

theorem waited_eq_zero {count : Nat} (h : waited E count = 0) :
    E.wait = 0 ∧ 0 ≤ E.handleIndex ∧ E.handleIndex < count := by
  unfold waited at h
  split at h
  · exact absurd h (by decide)
  · rename_i hrange
    have hin := not_or.1 fun hout => hrange ⟨h, hout⟩
    exact ⟨h, Int.not_lt.1 hin.1, Int.not_le.1 hin.2⟩

/-- What one event preserves. -/
theorem kept_ipcServerProcess (h : Kept port s) (hfresh : Fresh port s E) :
    Kept port (ipcServerProcess E s).state ∧ Traces ClosesOpen (ipcServerProcess E) s := by
  unfold Traces ipcServerProcess
  rw [gets_bind_run]
  by_cases hwait : waited E s.server.count = 0
  · obtain ⟨hzero, hlo, hhi⟩ := waited_eq_zero hwait
    rw [if_neg (not_not.2 hwait)]
    by_cases hindex : E.handleIndex = 0
    · rw [if_neg (not_not.2 hindex)]
      exact kept_processNewSession h (hfresh hzero hindex)
    · rw [if_pos hindex]
      exact kept_processSession h (by omega) (by omega)
  · rw [if_pos hwait]
    exact ⟨h, nofun⟩

theorem kept_serve (h : Kept port s) (hfresh : Fresh port s E) :
    Kept port (serve E s).state ∧ Traces ClosesOpen (serve E) s := by
  obtain ⟨hkept, htraces⟩ := kept_ipcServerProcess h hfresh
  unfold serve
  cases hres : (ipcServerProcess E s).result with
  | ok rc =>
    rw [bind_of_ok hres]
    exact ⟨hkept, traces_bind.2 ⟨htraces, fun _ _ => traces_pure _ _⟩⟩
  | error e => exact e.elim

/-! ## Any number of events -/

theorem kept_ipcServerInit {max_sessions : Nat} (hno : s.sessions = [])
    (hinit : (ipcServerInit max_sessions 0 port s).result = .ok 0) :
    Kept port (ipcServerInit max_sessions 0 port s).state := by
  unfold ipcServerInit at hinit ⊢
  by_cases hmax : max_sessions < 1 ∨ MAX_WAIT_OBJECTS - 1 < max_sessions
  · rw [if_pos hmax] at hinit
    exact absurd (Except.ok.inj hinit) (by decide)
  · rw [if_neg hmax, sets_bind_run]
    unfold MAX_WAIT_OBJECTS at hmax
    refine ⟨?_, Nat.le_refl 1, ?_, ?_, ?_, ?_⟩
    · show update s.server.handles 0 port 0 = port
      rw [update_self]
    · show 1 ≤ max_sessions + 1
      omega
    · show max_sessions + 1 ≤ 0x40
      omega
    · exact hno.symm
    · show (port :: s.sessions).Nodup
      rw [hno]
      exact List.nodup_singleton port

/-- **No session is lost and none is closed twice.**  After a successful `ipcServerInit`,
before and after every event of a sequence in which no open handle is handed out again, the
handles of the server are the port and the open sessions in the order of acceptance, and every
handle that is closed is that of an open session. -/
theorem sessions_kept (port : Handle) (max_sessions : Nat) {s : System} (hno : s.sessions = [])
    (hinit : (ipcServerInit max_sessions 0 port s).result = .ok 0) (events : List Event)
    (hfresh : ∀ v ∈ visits serve (ipcServerInit max_sessions 0 port s).state events,
      Fresh port v.1 v.2) :
    ∀ v ∈ visits serve (ipcServerInit max_sessions 0 port s).state events,
      Kept port v.1 ∧ Kept port (serve v.2 v.1).state ∧ ∀ l ∈ (serve v.2 v.1).log, ClosesOpen l := by
  have hstart : ∀ v ∈ visits serve (ipcServerInit max_sessions 0 port s).state events,
      Kept port v.1 :=
    visits_invariant_of (fun s' E (hkept : Kept port s') (hnew : Fresh port s' E) _ =>
      (kept_serve hkept hnew).1) (kept_ipcServerInit hno hinit) events hfresh
  exact fun v hv => ⟨hstart v hv, kept_serve (hstart v hv) (hfresh v hv)⟩

/-- A new session if `handleIndex` is `0`, otherwise a request of the given type. -/
def someEvent (handleIndex : Int) (session : Handle) (type : UInt32) : Event where
  wait := 0
  handleIndex := handleIndex
  accept := 0
  session := session
  receive := 0
  request :=
    { type := type, num_data_words := 8, header := some { magic := 0x49434653, cmdId := 0 } }
  handlerResult := 0
  reply := kernelError_TimedOut

def noServer : System where
  server := { handles := fun _ => 0, max := 0, count := 0 }
  sessions := []

/-- Two clients; the first one asks, closes, and a third one gets its handle. -/
theorem sessions_kept_threeClients :
    (visits serve (ipcServerInit 42 0 7 noServer).state
        [someEvent 0 8 0, someEvent 0 9 0, someEvent 1 0 4, someEvent 1 0 2, someEvent 0 8 0]).Forall
      fun v => Kept 7 v.1 ∧ Kept 7 (serve v.2 v.1).state ∧
        ∀ l ∈ (serve v.2 v.1).log, ClosesOpen l :=
  List.forall_iff_forall_mem.2 (sessions_kept 7 42 rfl rfl _ (by decide +kernel))

end SwitchOc.SysClk.Ipc
