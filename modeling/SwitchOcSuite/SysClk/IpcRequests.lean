import Mathlib.Logic.Relation
import SwitchOcSuite.SysClk.Charging
import SwitchOcSuite.SysClk.IpcService
import SwitchOcSuite.SysClk.MainLoop

/-!
# Requests of any client

Nothing is known of the bytes of a message here: any command id, any number of data words,
any arguments.  The main loop may do anything between two messages.

    requests_safe        what a run of messages can do, and which ones end it
    requests_are_calls   to the clock manager, messages are calls of the service
-/

namespace SwitchOc.SysClk.Ipc

open CText Function Relation Traced

variable {env : Env} {m : Message} {r : IpcServerRequestData} {s s' : Sysmodule}
  {cmd : SysClkIpcCmd}

/-! ## One message -/

/-- Every case but one is the same, for its arguments, its output and its method. -/
theorem serviceHandlerFunc_eq (hid : SysClkIpcCmd.ofId r.cmdId = some cmd)
    (hcmd : cmd ≠ .getVersionString) :
    serviceHandlerFunc env m r s = handle env m r cmd.args cmd.outs (method env cmd) s := by
  unfold serviceHandlerFunc
  rw [hid]
  cases cmd with
  | getVersionString => exact absurd rfl hcmd
  | _ => rfl

/-- The arguments of the message, if there are any, are such that they can be coped with. -/
def CanAnswer (s : Sysmodule) (m : Message) : Prop :=
  ∀ r cmd, m.type = cmifCommandType_Request → m.ipcServerParseRequest = .ok r →
    SysClkIpcCmd.ofId r.cmdId = some cmd → cmd.args.size ≤ r.size →
    CanCope s cmd (cmd.args.get m.tls r.ptr)

theorem handle_ok_iff (h : s.clocks.UpToDate) (env : Env) (m : Message) (r : IpcServerRequestData)
    (cmd : SysClkIpcCmd) :
    (∃ x, handle env m r cmd.args cmd.outs (method env cmd) s = .ok x) ↔
      (cmd.args.size ≤ r.size → CanCope s cmd (cmd.args.get m.tls r.ptr)) := by
  unfold handle
  by_cases hsize : cmd.args.size ≤ r.size
  · rw [if_pos hsize, ← method_ok_iff h env]
    cases hmethod : method env cmd (cmd.args.get m.tls r.ptr) s with
    | error fault => simp [hsize]
    | ok x => simp [hsize]
  · rw [if_neg hsize]
    exact iff_of_true ⟨_, rfl⟩ fun h => absurd h hsize

theorem serviceHandlerFunc_ok_iff (h : s.clocks.UpToDate) (env : Env) (m : Message)
    (r : IpcServerRequestData) :
    (∃ x, serviceHandlerFunc env m r s = .ok x) ↔
      ∀ cmd, SysClkIpcCmd.ofId r.cmdId = some cmd → cmd.args.size ≤ r.size →
        CanCope s cmd (cmd.args.get m.tls r.ptr) := by
  cases hid : SysClkIpcCmd.ofId r.cmdId with
  | none =>
    unfold serviceHandlerFunc
    rw [hid]
    exact iff_of_true ⟨_, rfl⟩ (by simp)
  | some cmd =>
    by_cases hcmd : cmd = .getVersionString
    · subst hcmd
      unfold serviceHandlerFunc
      rw [hid]
      refine iff_of_true ⟨_, rfl⟩ ?_
      rintro cmd' hcmd' -
      obtain rfl := Option.some.inj hcmd'
      trivial
    · rw [serviceHandlerFunc_eq hid hcmd, handle_ok_iff h]
      simp

/-- **Which messages are answered**, or ignored: all but those with arguments that a method
cannot cope with. -/
theorem answer_ok_iff (h : s.clocks.UpToDate) (env : Env) (m : Message) :
    (∃ x, answer env m s = .ok x) ↔ CanAnswer s m := by
  unfold answer CanAnswer
  cases hparse : m.ipcServerParseRequest with
  | error rc => simp
  | ok r =>
    dsimp only
    by_cases htype : m.type = cmifCommandType_Request
    · rw [if_pos htype]
      have hhandler := serviceHandlerFunc_ok_iff h env m r
      cases hrun : serviceHandlerFunc env m r s with
      | error fault =>
        rw [hrun] at hhandler
        simp only [reduceCtorEq, exists_false, false_iff] at hhandler ⊢
        intro hall
        exact hhandler fun cmd hid hsize => hall r cmd htype rfl hid hsize
      | ok x =>
        rw [hrun] at hhandler
        refine iff_of_true ⟨_, rfl⟩ ?_
        rintro r' cmd - hr hid hsize
        obtain rfl := Except.ok.inj hr
        exact hhandler.1 ⟨x, rfl⟩ cmd hid hsize
    · rw [if_neg htype]
      exact iff_of_true ⟨_, rfl⟩ fun r cmd h => absurd h htype

/-- What the handler leaves for the response. -/
structure Handled.Fits (h : Handled) : Prop where
  length_data : h.out_data.length = ipcServerExtResponseMaxDataSize
  size_le : h.out_dataSize ≤ sizeofSysClkFrequencyTable

theorem handle_change {x : Handled}
    (h : handle env m r cmd.args cmd.outs (method env cmd) s = .ok (x, s')) :
    Change env s s' ∧ (x.rc ≠ 0 → s' = s) ∧ x.Fits := by
  unfold handle at h
  by_cases hsize : cmd.args.size ≤ r.size
  · rw [if_pos hsize] at h
    cases hmethod : method env cmd (cmd.args.get m.tls r.ptr) s with
    | error fault =>
      rw [hmethod] at h
      cases h
    | ok y =>
      obtain ⟨result, s₁⟩ := y
      rw [hmethod] at h
      obtain ⟨rfl, rfl⟩ := Prod.mk.inj (Except.ok.inj h)
      obtain ⟨hchange, hfailed⟩ := method_change hmethod
      cases result with
      | ok out =>
        refine ⟨hchange, fun hrc => absurd rfl hrc, ?_, cmd.size_outs_le⟩
        exact (Layout.length_put _ _ _ _).trans env.length_data
      | error rc => exact ⟨hchange, hfailed, env.length_data, cmd.size_outs_le⟩
  · rw [if_neg hsize] at h
    cases h
    exact ⟨.nothing, fun _ => rfl, env.length_data, Nat.zero_le _⟩

theorem fits_handleVersionString : (handleVersionString env m).Fits := by
  unfold handleVersionString
  split <;> exact ⟨env.length_data, Nat.zero_le _⟩

theorem serviceHandlerFunc_change {x : Handled} (h : serviceHandlerFunc env m r s = .ok (x, s')) :
    Change env s s' ∧ (x.rc ≠ 0 → s' = s) ∧ x.Fits := by
  cases hid : SysClkIpcCmd.ofId r.cmdId with
  | none =>
    unfold serviceHandlerFunc at h
    rw [hid] at h
    cases h
    exact ⟨.nothing, fun _ => rfl, env.length_data, Nat.zero_le _⟩
  | some cmd =>
    by_cases hcmd : cmd = .getVersionString
    · subst hcmd
      unfold serviceHandlerFunc at h
      rw [hid] at h
      cases h
      exact ⟨.nothing, fun _ => rfl, fits_handleVersionString⟩
    · rw [serviceHandlerFunc_eq hid hcmd] at h
      exact handle_change h

/-- The response is in the buffer, no more words are moved than there are, and a failure has changed
nothing. -/
structure Response.Right (x : Response) (s s' : Sysmodule) : Prop where
  length_tls : x.tls.length = sizeofTls
  words_le : 8 + 4 * x.num_data_words ≤ sizeofTls
  failed : x.rc ≠ 0 → s' = s

/-- One message makes one of the changes, and its answer is right. -/
theorem answer_change {a : Option Answer} (h : answer env m s = .ok (a, s')) :
    Change env s s' ∧ ∀ x, a = some x → x.response.Right s s' := by
  have hzero : (0 : Nat) ≤ sizeofSysClkFrequencyTable := Nat.zero_le _
  unfold answer at h
  cases hparse : m.ipcServerParseRequest with
  | error rc =>
    rw [hparse] at h
    cases h
    exact ⟨.nothing, fun x hx => absurd hx (Option.some_ne_none x).symm⟩
  | ok r =>
    rw [hparse] at h
    dsimp only at h
    by_cases htype : m.type = cmifCommandType_Request
    · rw [if_pos htype] at h
      cases hrun : serviceHandlerFunc env m r s with
      | error fault =>
        rw [hrun] at h
        cases h
      | ok y =>
        obtain ⟨y, s₁⟩ := y
        rw [hrun] at h
        obtain ⟨rfl, rfl⟩ := Prod.mk.inj (Except.ok.inj h)
        obtain ⟨hchange, hfailed, hlength, hsize⟩ := serviceHandlerFunc_change hrun
        refine ⟨hchange, fun x hx => ?_⟩
        obtain rfl := Option.some.inj hx
        have hroom : y.out_dataSize ≤ ipcServerExtResponseMaxDataSize :=
          Nat.le_trans hsize (by decide)
        refine ⟨length_prepareResponse _ m.length_tls (by rw [hlength]; exact hroom) hroom,
          (words_prepareResponse _ _ _ hsize).2, ?_⟩
        intro hrc
        unfold Response.rc at hrc
        rw [header_prepareResponse _ _ _ m.length_tls] at hrc
        refine hfailed fun hzero => hrc ?_
        rw [hzero]
        rfl
    · rw [if_neg htype] at h
      obtain ⟨rfl, rfl⟩ := Prod.mk.inj (Except.ok.inj h)
      refine ⟨.nothing, fun x hx => ?_⟩
      obtain rfl := Option.some.inj hx
      exact ⟨length_prepareResponse _ m.length_tls (Nat.zero_le _) (Nat.zero_le _),
        (words_prepareResponse _ _ _ hzero).2, fun _ => rfl⟩

/-! ## Messages and the main loop -/

/-- The sysmodule with what clients do not reach. -/
structure Process (H : Type) where
  sys : Sysmodule
  governor : Governor
  hw : H

variable {H : Type}

def Process.manager (S : Process H) : ClockManager H where
  config := S.sys.store.config
  context := S.sys.context
  oc := S.sys.oc
  rnxSync := S.sys.rnxSync
  governor := S.governor
  clocks := S.sys.clocks
  hw := S.hw

/-- What a call of the manager leaves, with new temperatures and with a file that anyone may have
written. -/
def Process.after (S : Process H) (manager : ClockManager H) (temps : SysClkThermalSensor → UInt32)
    (file : Option Text) : Process H where
  sys :=
    { store := ⟨manager.config, file⟩
      context := manager.context
      temps := temps
      oc := manager.oc
      rnxSync := manager.rnxSync
      clocks := manager.clocks
      running := S.sys.running }
  governor := manager.governor
  hw := manager.hw

/-- The process as `main` leaves it before its loop. -/
def boot (clocks : Clocks) (toolEnabled syncEnabled : Bool) (hw : H)
    (temps : SysClkThermalSensor → UInt32) (file : Option Text) : Process H :=
  let manager := ClockManager.new clocks toolEnabled syncEnabled hw
  { sys :=
      { store := ⟨{ manager.config with enabled := true }, file⟩
        context := manager.context
        temps := temps
        oc := manager.oc
        rnxSync := manager.rnxSync
        clocks := manager.clocks
        running := true }
    governor := manager.governor
    hw := manager.hw }

/-- A message of some session, or a call of the manager by the main loop. -/
inductive Turn (H : Type) where
  | message (env : Env) (m : Message)
  | main (call : Call H) (temps : SysClkThermalSensor → UInt32) (file : Option Text)

def mainTurn {L : Type} (P : Hardware H) (call : Call H) (temps : SysClkThermalSensor → UInt32)
    (file : Option Text) : Prog IpcFault (Process H) L Unit := ⟨fun S =>
  let o := SysClk.serve P call S.manager
  match o.result with
  | .error fault => ⟨.error (.fault fault), S.after o.state temps file, []⟩
  | .ok _ => ⟨.ok (), S.after o.state temps file, []⟩⟩

/-- The log has the answers. -/
def turn (P : Hardware H) : Turn H → Prog IpcFault (Process H) (Option Answer) Unit
  | .message env m => ⟨fun S =>
      match answer env m S.sys with
      | .error fault => ⟨.error fault, S, []⟩
      | .ok (a, s) => ⟨.ok (), { S with sys := s }, [a]⟩⟩
  | .main call temps file => mainTurn P call temps file

/-- A change by a message is a call of the manager, or nothing to it. -/
theorem Change.call {S : Process H} (h : Change env S.sys s') (P : Hardware H) :
    ({ S with sys := s' } : Process H).manager = S.manager ∨
      ∃ c : Call H, (SysClk.serve P c S.manager).result = .ok () ∧
        (SysClk.serve P c S.manager).state = ({ S with sys := s' } : Process H).manager := by
  cases h with
  | nothing => exact .inl rfl
  | exit => exact .inl rfl
  | profiles tid profiles file hloaded hput hfits =>
    refine .inr ⟨.setProfiles tid profiles true, ?_⟩
    have hset : S.manager.config.setProfiles (savedAs true) tid profiles =
        .ok (some (), S.sys.store.config.applyProfiles tid profiles) := by
      unfold Config.setProfiles
      dsimp only
      rw [if_neg (Nat.not_lt.2 hfits)]
      rfl
    have hmanager : S.manager.config.loaded = true := hloaded
    unfold SysClk.serve
    rw [getState_bind_run, if_pos hmanager, hset]
    exact ⟨rfl, rfl⟩
  | enabled enabled => exact .inr ⟨.setEnabled enabled, rfl, rfl⟩
  | override module hz => exact .inr ⟨.setOverride module hz, rfl, rfl⟩
  | values values file hloaded hput =>
    refine .inr ⟨.setConfigValues values true, rfl, ?_⟩
    have hmanager : S.manager.config.loaded = true := hloaded
    show (if S.manager.config.loaded = true then _ else _) = _
    rw [if_pos hmanager]
    rfl
  | mode mode => exact .inr ⟨.setReverseNXRTMode mode, rfl, rfl⟩
  | charging toggle_true => exact .inr ⟨.setBatteryChargingDisabledOverride toggle_true, rfl, rfl⟩

/-- One successful call. -/
def Served (P : Hardware H) (s s' : ClockManager H) : Prop :=
  ∃ c : Call H, (SysClk.serve P c s).result = .ok () ∧ (SysClk.serve P c s).state = s'

theorem turn_calls {P : Hardware H} {S : Process H} {t : Turn H}
    (h : (turn P t S).result = .ok ()) :
    ReflTransGen (Served P) S.manager (turn P t S).state.manager := by
  cases t with
  | message env m =>
    cases hanswer : answer env m S.sys with
    | error fault =>
      simp only [turn, hanswer, reduceCtorEq] at h
    | ok x =>
      obtain ⟨a, s'⟩ := x
      simp only [turn, hanswer]
      rcases (answer_change hanswer).1.call P with hsame | ⟨c, hresult, hstate⟩
      · rw [hsame]
      · exact .single ⟨c, hresult, hstate⟩
  | main call temps file =>
    cases hresult : (SysClk.serve P call S.manager).result with
    | error fault => simp only [turn, mainTurn, hresult, reduceCtorEq] at h
    | ok u =>
      simp only [turn, mainTurn, hresult]
      exact .single ⟨call, hresult, rfl⟩

/-! ## Any number of turns -/

variable (P : Hardware H)

/-- **To the clock manager, messages are calls of the service.**  However messages of any clients
and calls of the main loop follow each other, the manager is in a state that a session of its calls
leads to. -/
theorem requests_are_calls (S : Process H) (turns : List (Turn H)) :
    ∀ v ∈ visits (turn P) S turns, ReflTransGen (Served P) S.manager v.1.manager := by
  have hstep : ∀ (S' : Process H) (t : Turn H),
      ReflTransGen (Served P) S.manager S'.manager → True → (turn P t S').result = .ok () →
        ReflTransGen (Served P) S.manager (turn P t S').state.manager :=
    fun S' t hS' _ hok => hS'.trans (turn_calls hok)
  exact visits_invariant_of hstep .refl turns fun _ _ => trivial

/-- A `SetEnabled` request, as a client sends it. -/
def enableRequest : Message where
  type := cmifCommandType_Request
  num_data_words := 8
  tls := List.replicate plainStart 0 ++
    ([0x53, 0x46, 0x43, 0x49, 0, 0, 0, 0, 7, 0, 0, 0, 0, 0, 0, 0, 1] ++ List.replicate 223 0)
  dataStart := plainStart
  recv_buffers := []
  length_tls := by
    rw [List.length_append, List.length_append, List.length_replicate, List.length_replicate]
    rfl
  room := room_plainStart _ _

def someEnv : Env where
  TARGET_VERSION := []
  canWrite := true
  data := List.replicate ipcServerExtResponseMaxDataSize 0
  length_data := by simp

def stockProcess : Process (SysClkModule → UInt32) :=
  boot ClockManager.stockClocks false false ClockManager.stockHardware (fun _ => 0) none

def enableTwice : List (Turn (SysClkModule → UInt32)) :=
  [.message someEnv enableRequest, .message someEnv enableRequest]

/-- The state in which the second request arrives. -/
theorem requests_are_calls_enableTwice :
    ReflTransGen (Served Hardware.exact) stockProcess.manager
      (turn Hardware.exact (.message someEnv enableRequest) stockProcess).state.manager := by
  have hok : (turn Hardware.exact (.message someEnv enableRequest) stockProcess).result =
      .ok () := rfl
  have hmem : ((turn Hardware.exact (.message someEnv enableRequest) stockProcess).state,
      .message someEnv enableRequest) ∈
      visits (turn Hardware.exact) stockProcess enableTwice := by
    unfold enableTwice
    rw [visits_cons_of_ok hok]
    exact List.mem_cons_of_mem _ List.mem_cons_self
  exact requests_are_calls Hardware.exact stockProcess enableTwice _ hmem

theorem valid_of_served {s s' : ClockManager H} (h : ReflTransGen (Served P) s s')
    (hs : s.Valid) : s'.Valid := by
  induction h with
  | refl => exact hs
  | tail _ hlast ih =>
    obtain ⟨c, -, rfl⟩ := hlast
    exact ClockManager.valid_serve c _ ih

/-- What no client reaches. -/
structure Process.SameRest (S S' : Process H) : Prop where
  governor : S'.governor = S.governor
  hw : S'.hw = S.hw
  context : S'.sys.context = S.sys.context
  temps : S'.sys.temps = S.sys.temps
  clocks : S'.sys.clocks = S.sys.clocks
  realProfile : S'.sys.oc.realProfile = S.sys.oc.realProfile

theorem Change.sameRest {S : Process H} (h : Change env S.sys s') :
    S.SameRest { S with sys := s' } := by
  cases h <;> exact ⟨rfl, rfl, rfl, rfl, rfl, rfl⟩

/-- What a message does in a state that is valid. -/
theorem message_turn {S : Process H} (hS : S.manager.Valid) (env : Env) (m : Message) :
    ((turn P (.message env m) S).result = .ok () ↔ CanAnswer S.sys m) ∧
      S.SameRest (turn P (.message env m) S).state ∧
      ∀ x, some x ∈ (turn P (.message env m) S).log →
        x.response.Right S.sys (turn P (.message env m) S).state.sys := by
  rw [← answer_ok_iff hS.ranges env m]
  cases hanswer : answer env m S.sys with
  | error fault =>
    simp only [turn, hanswer]
    exact ⟨by simp, ⟨rfl, rfl, rfl, rfl, rfl, rfl⟩, fun x hx => absurd hx List.not_mem_nil⟩
  | ok x =>
    obtain ⟨a, s'⟩ := x
    obtain ⟨hchange, hright⟩ := answer_change hanswer
    simp only [turn, hanswer]
    refine ⟨by simp, hchange.sameRest, fun x hx => hright x ?_⟩
    exact (List.mem_singleton.1 hx).symm

/-- **Whatever clients send**, and whatever the main loop does in between: a message ends the
process exactly when a method cannot cope with its arguments; it never reaches the clocks or the
context; a response and the words that are moved of it lie in the message buffer, and one that
reports a failure has changed nothing.  The configuration values always pass their check. -/
theorem requests_safe (clocks : Clocks) (toolEnabled syncEnabled : Bool) (hw : H)
    (temps : SysClkThermalSensor → UInt32) (file : Option Text) (turns : List (Turn H)) :
    ∀ v ∈ visits (turn P) (boot clocks toolEnabled syncEnabled hw temps file) turns,
      v.1.sys.store.config.ValidValues ∧
      ∀ env m, v.2 = .message env m →
        ((turn P v.2 v.1).result = .ok () ↔ CanAnswer v.1.sys m) ∧
        v.1.SameRest (turn P v.2 v.1).state ∧
        ∀ x, some x ∈ (turn P v.2 v.1).log →
          x.response.Right v.1.sys (turn P v.2 v.1).state.sys := by
  have hstep : ∀ (S : Process H) (t : Turn H), S.manager.Valid → True →
      (turn P t S).result = .ok () → (turn P t S).state.manager.Valid :=
    fun S t hS _ hok => valid_of_served P (turn_calls hok) hS
  have hboot : (boot clocks toolEnabled syncEnabled hw temps file).manager.Valid := by
    obtain ⟨hvalues, hranges⟩ := ClockManager.valid_new clocks toolEnabled syncEnabled hw
    exact ⟨hvalues, hranges⟩
  intro v hv
  have hvalid : v.1.manager.Valid := visits_invariant_of hstep hboot turns (fun _ _ => trivial) v hv
  refine ⟨hvalid.values, fun env m hmessage => ?_⟩
  rw [hmessage]
  exact message_turn P hvalid env m

/-- The first request is answered. -/
theorem requests_safe_enableTwice :
    (turn Hardware.exact (.message someEnv enableRequest) stockProcess).result = .ok () ∧
      stockProcess.SameRest
        (turn Hardware.exact (.message someEnv enableRequest) stockProcess).state := by
  have hmem : (stockProcess, .message someEnv enableRequest) ∈
      visits (turn Hardware.exact) stockProcess enableTwice := List.mem_cons_self
  exact ⟨rfl, ((requests_safe Hardware.exact ClockManager.stockClocks false false
    ClockManager.stockHardware (fun _ => 0) none enableTwice _ hmem).2 _ _ rfl).2.1⟩

end SwitchOc.SysClk.Ipc
