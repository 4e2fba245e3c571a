import SwitchOcSuite.SysClk.FreqChoice
import SwitchOcSuite.SysClk.IpcClient

/-!
# Profiles that clients set

The profiles of a title go through a message into memory and into `config.ini`, and back from
either of them to whoever asks.

    wireTurn_rests         the main loop keeps what a load of the file keeps
    setProfiles_survives   profiles that a client has set are what any client gets
-/

namespace SwitchOc.SysClk.Ipc

open CText Function Traced

/-! ## The profiles of a title -/

section
variable {c : Config} {tid : UInt64} {profiles : SysClkTitleProfileList}

theorem getProfiles_of_title {c' : Config} (hloaded : c'.loaded = c.loaded)
    (h : c'.title tid = c.title tid) : c'.getProfiles tid = c.getProfiles tid := by
  have hslot : ∀ slot, c'.profileMhzMap (tid, slot) = c.profileMhzMap (tid, slot) :=
    congrFun (congrArg Title.mhz h)
  have hgovernor : c'.profileGovernorMap tid = c.profileGovernorMap tid :=
    congrArg Title.governor h
  unfold Config.getProfiles Config.findClockMhz
  simp only [hloaded, hslot, hgovernor]

/-- What has been set is got. -/
theorem getProfiles_applyProfiles (hloaded : c.loaded = true) :
    (c.applyProfiles tid profiles).getProfiles tid = profiles := by
  have hgovernor : (c.applyProfiles tid profiles).profileGovernorMap tid = _ :=
    congrArg Title.governor (Config.title_applyProfiles c tid profiles)
  unfold Config.getProfiles
  simp only [Config.findClockMhz_applyProfiles hloaded, hgovernor]
  split
  · rename_i hdefault
    rw [Option.getD_none, ← hdefault]
  · rfl

end

/-! ## What the service keeps of its file -/

/-- The file can be rewritten and read, and has what the memory has once it has been loaded. -/
structure FileKept (W : Nat) (maxMemFreq : UInt32) (store : ConfigStore) : Prop where
  tidy : MinIni.Tidy W (store.file.getD [])
  canonical : Canonical (MinIni.parse (store.file.getD []))
  consistent : store.config.loaded = true → store.Consistent W maxMemFreq

/-- The title is remembered. -/
structure Remembers (tid : UInt64) (profiles : SysClkTitleProfileList) (store : ConfigStore) :
    Prop where
  loaded : store.config.loaded = true
  profiles : store.config.getProfiles tid = profiles

/-- The same but for what is not in the file. -/
structure SameMemory (store store' : ConfigStore) : Prop where
  file : store'.file = store.file
  loaded : store'.config.loaded = store.config.loaded
  title : ∀ tid, store'.config.title tid = store.config.title tid
  values : store'.config.configValues = store.config.configValues

section
variable {W : Nat} {maxMemFreq : UInt32} {store store' : ConfigStore} {tid : UInt64}
  {profiles : SysClkTitleProfileList}

theorem FileKept.of_consistent (h : store.Consistent W maxMemFreq) : FileKept W maxMemFreq store :=
  ⟨h.tidy, h.canonical, fun _ => h⟩

theorem FileKept.of_same (h : FileKept W maxMemFreq store) (hsame : SameMemory store store') :
    FileKept W maxMemFreq store' := by
  obtain ⟨hfile, hloaded, htitle, hvalues⟩ := hsame
  refine ⟨by rw [hfile]; exact h.tidy, by rw [hfile]; exact h.canonical, fun hload => ?_⟩
  rw [hloaded] at hload
  have hconsistent := h.consistent hload
  refine ⟨hloaded.trans hload, by rw [hfile]; exact h.tidy, by rw [hfile]; exact h.canonical,
    fun tid => ?_, ?_⟩
  · rw [hfile, htitle]
    exact hconsistent.title tid
  · rw [hfile, hvalues]
    exact hconsistent.values

theorem Remembers.of_same (h : Remembers tid profiles store) (hsame : SameMemory store store') :
    Remembers tid profiles store' :=
  ⟨hsame.loaded.trans h.loaded,
    (getProfiles_of_title hsame.loaded (hsame.title tid)).trans h.profiles⟩

/-- What a look at the file finds: its modification time and its entries, or `0` without a file. -/
structure FileFound (file : Option Text) (mtime : Int) (entries : List (Text × Text × Text)) :
    Prop where
  missing : mtime = 0 → file = none
  entries : mtime ≠ 0 → entries = ConfigStore.fileEntries file

/-- Without a file, a load is that of an empty one. -/
theorem sameMemory_load_missing (c : Config) (maxMemFreq : UInt32)
    (entries : List (Text × Text × Text)) :
    SameMemory ⟨c.load maxMemFreq 1 (ConfigStore.fileEntries none), none⟩
      ⟨c.load maxMemFreq 0 entries, none⟩ := by
  have hempty : ConfigStore.fileEntries none = [] := MinIni.entries_of_none rfl
  rw [hempty]
  exact ⟨rfl, rfl, fun _ => rfl, rfl⟩

/-- A load, whether there is a file or not. -/
theorem FileFound.load {J : ConfigStore → Prop} {c : Config} {file : Option Text} {mtime : Int}
    {entries : List (Text × Text × Text)} (hfound : FileFound file mtime entries)
    (hsame : ∀ {store store'}, J store → SameMemory store store' → J store')
    (hload : ∀ mtime : Int, mtime ≠ 0 →
      J ⟨c.load maxMemFreq mtime (ConfigStore.fileEntries file), file⟩) :
    J ⟨c.load maxMemFreq mtime entries, file⟩ := by
  by_cases hmtime : mtime = 0
  · have hone := hload 1 (by decide)
    rw [hfound.missing hmtime] at hone ⊢
    rw [hmtime]
    exact hsame hone (sameMemory_load_missing _ _ _)
  · rw [hfound.entries hmtime]
    exact hload mtime hmtime

theorem FileKept.load (h : FileKept W maxMemFreq store) {mtime : Int}
    {entries : List (Text × Text × Text)} (hfound : FileFound store.file mtime entries) :
    FileKept W maxMemFreq ⟨store.config.load maxMemFreq mtime entries, store.file⟩ := by
  apply hfound.load FileKept.of_same
  intro mtime hmtime
  exact .of_consistent (ConfigStore.consistent_load h.tidy h.canonical hmtime)

theorem Remembers.load (h : Remembers tid profiles store) (hfile : FileKept W maxMemFreq store)
    {mtime : Int} {entries : List (Text × Text × Text)}
    (hfound : FileFound store.file mtime entries) :
    Remembers tid profiles ⟨store.config.load maxMemFreq mtime entries, store.file⟩ := by
  apply hfound.load Remembers.of_same
  intro mtime hmtime
  have hreload := (hfile.consistent h.loaded).reload store.config hmtime
  exact ⟨rfl, (hreload.1 tid).1.trans h.profiles⟩

end

/-! ## Clients -/

variable {L : ServiceDispatch} {env : Env} {own : List UInt8} {c : ClientCall} {s : Sysmodule}
  {H : Type}

/-- A title, frequencies that a load keeps, governor flags, and room for the strings. -/
def Sane (maxMemFreq : UInt32) : (cmd : SysClkIpcCmd) → cmd.In → Prop
  | .setProfiles, args =>
    (ConfigStore.Call.setProfiles true args.tid args.profiles).Valid maxMemFreq
  | _, _ => True

/-- It is not this title that is set. -/
def Spares (tid : UInt64) : (cmd : SysClkIpcCmd) → cmd.In → Prop
  | .setProfiles, args => args.tid ≠ tid
  | _, _ => True

section
variable {s' : Sysmodule} {W : Nat} {maxMemFreq : UInt32}

theorem method_sameMemory {cmd : SysClkIpcCmd} {i : cmd.In} {result : Except Result cmd.Out}
    (h : method env cmd i s = .ok (result, s')) (hprofiles : cmd ≠ .setProfiles)
    (hvalues : cmd ≠ .setConfigValues) : SameMemory s.store s'.store := by
  cases cmd with
  | setProfiles => exact absurd rfl hprofiles
  | setConfigValues => exact absurd rfl hvalues
  | setOverride =>
    rcases setOverride_cases h with ⟨-, rfl⟩ | ⟨module, -, rfl⟩
    · exact ⟨rfl, rfl, fun _ => rfl, rfl⟩
    · exact ⟨rfl, rfl, fun _ => rfl, rfl⟩
  | getFrequencyTable =>
    obtain ⟨rfl, -⟩ := getFrequencyTable_cases h
    exact ⟨rfl, rfl, fun _ => rfl, rfl⟩
  | _ =>
    cases h
    exact ⟨rfl, rfl, fun _ => rfl, rfl⟩

/-- A saving method is a call of the store, if the file has been loaded. -/
theorem setProfiles_call {args : SysClkIpc_SetProfiles_Args} {result : Except Result Unit}
    (h : setProfiles env args s = .ok (result, s')) (maxMemFreq : UInt32) :
    (s.store.config.loaded = true ∧ s.store.call maxMemFreq
        (.setProfiles env.canWrite args.tid args.profiles) = .ok s'.store) ∨
      s.store.config.loaded ≠ true ∧ s' = s := by
  unfold setProfiles at h
  by_cases hloaded : s.store.config.loaded = true
  · rw [if_pos hloaded] at h
    refine .inl ⟨hloaded, ?_⟩
    cases hset : s.store.config.setProfiles (ConfigStore.putsection env.canWrite s.store.file)
        args.tid args.profiles with
    | error fault =>
      rw [hset] at h
      cases h
    | ok x =>
      rw [hset] at h
      cases h
      unfold ConfigStore.call
      dsimp only
      rw [hset]
  · rw [if_neg hloaded] at h
    cases h
    exact .inr ⟨hloaded, rfl⟩

theorem setConfigValues_call {values : SysClkConfigValue → UInt64} {result : Except Result Unit}
    (h : setConfigValues env values s = .ok (result, s')) (maxMemFreq : UInt32) :
    (s.store.config.loaded = true ∧ s.store.call maxMemFreq
        (.setConfigValues env.canWrite values) = .ok s'.store) ∨
      s.store.config.loaded ≠ true ∧ s' = s := by
  unfold setConfigValues at h
  by_cases hloaded : s.store.config.loaded = true
  · rw [if_pos hloaded] at h
    cases h
    exact .inl ⟨hloaded, rfl⟩
  · rw [if_neg hloaded] at h
    cases h
    exact .inr ⟨hloaded, rfl⟩

theorem method_fileKept (hW : IsWidth W) {cmd : SysClkIpcCmd} {i : cmd.In}
    (hs : FileKept W maxMemFreq s.store) (hsane : Sane maxMemFreq cmd i)
    {result : Except Result cmd.Out} (h : method env cmd i s = .ok (result, s')) :
    FileKept W maxMemFreq s'.store := by
  have hcall : ∀ call : ConfigStore.Call, call.Valid maxMemFreq →
      s.store.config.loaded = true → s.store.call maxMemFreq call = .ok s'.store →
        FileKept W maxMemFreq s'.store := by
    intro call hvalid hloaded hrun
    obtain ⟨store, hok, hconsistent⟩ :=
      ConfigStore.call_consistent (hs.consistent hloaded) hW hvalid
    rw [hrun] at hok
    rw [Except.ok.inj hok]
    exact .of_consistent hconsistent
  cases cmd with
  | setProfiles =>
    rcases setProfiles_call h maxMemFreq with ⟨hloaded, hrun⟩ | ⟨-, rfl⟩
    · exact hcall (.setProfiles env.canWrite i.tid i.profiles) hsane hloaded hrun
    · exact hs
  | setConfigValues =>
    rcases setConfigValues_call h maxMemFreq with ⟨hloaded, hrun⟩ | ⟨-, rfl⟩
    · exact hcall (.setConfigValues env.canWrite i) trivial hloaded hrun
    · exact hs
  | _ => exact hs.of_same (method_sameMemory h (by decide) (by decide))

theorem method_remembers {tid : UInt64} {profiles : SysClkTitleProfileList} {cmd : SysClkIpcCmd}
    {i : cmd.In} (hs : Remembers tid profiles s.store) (hspares : Spares tid cmd i)
    {result : Except Result cmd.Out} (h : method env cmd i s = .ok (result, s')) :
    Remembers tid profiles s'.store := by
  cases cmd with
  | setProfiles =>
    rcases setProfiles_cases h with ⟨-, -, rfl⟩ | ⟨-, -, rfl⟩ | ⟨file, hloaded, -, -, -, rfl⟩
    · exact hs
    · exact hs
    · have htitle : (s.store.config.applyProfiles i.tid i.profiles).title tid =
          s.store.config.title tid := Config.title_applyProfiles_of_ne _ (Ne.symm hspares) _
      have hprofiles : (s.store.config.applyProfiles i.tid i.profiles).getProfiles tid =
          s.store.config.getProfiles tid := getProfiles_of_title rfl htitle
      exact ⟨hloaded, hprofiles.trans hs.profiles⟩
  | setConfigValues =>
    rcases setConfigValues_cases h with ⟨-, rfl⟩ | ⟨-, rfl⟩ | ⟨file, -, -, -, rfl⟩
    · exact hs
    · exact hs
    · exact ⟨hs.loaded, hs.profiles⟩
  | _ => exact hs.of_same (method_sameMemory h (by decide) (by decide))

end

/-! ## The main loop -/

/-- Clients make sane calls, and the main loop finds the file that the service has left. -/
def ClientTurn.Calm (S : Process H) : ClientTurn H → Prop
  | .call _ _ c => Sane S.sys.clocks.maxMemFreq c.cmd c.args
  | .main (.tick E) _ file => file = S.sys.store.file ∧
      FileFound S.sys.store.file E.iniModificationTime E.iniEntries
  | .main (.waitForNextTick _) _ file => file = S.sys.store.file
  | .main (.moveClocks _) _ file => file = S.sys.store.file
  | .main _ _ _ => False

def ClientTurn.Spares (tid : UInt64) : ClientTurn H → Prop
  | .call _ _ c => Ipc.Spares tid c.cmd c.args
  | .main _ _ _ => True

theorem maxMemFreq_setAllowUnsafe (clocks : Clocks) (allow : Bool) :
    (clocks.setAllowUnsafe allow).maxMemFreq = clocks.maxMemFreq := by
  unfold Clocks.setAllowUnsafe
  split
  · rfl
  · rfl

/-- The main loop keeps what a load keeps. -/
theorem wireTurn_rests {P : Hardware H} {M : UInt32} {J : ConfigStore → Prop}
    (hload : ∀ store mtime entries, FileFound store.file mtime entries → J store →
      J ⟨store.config.load M mtime entries, store.file⟩)
    {S : Process H} {call : Call H} {temps : SysClkThermalSensor → UInt32} {file : Option Text}
    (hcalm : (ClientTurn.main call temps file).Calm S) (hM : S.sys.clocks.maxMemFreq = M)
    (hS : J S.sys.store) :
    J (wireTurn L P (.main call temps file) S).state.sys.store ∧
      (wireTurn L P (.main call temps file) S).state.sys.clocks.maxMemFreq = M := by
  have hstate : (wireTurn L P (.main call temps file) S).state =
      S.after (SysClk.serve P call S.manager).state temps file := by
    unfold wireTurn mainTurn
    dsimp only
    split
    · rfl
    · rfl
  rw [hstate]
  cases call with
  | tick E =>
    obtain ⟨rfl, hfound⟩ := hcalm
    have hrests : Traced.Stable (ClockManager.Rests fun c k =>
        J ⟨c, S.sys.store.file⟩ ∧ k.maxMemFreq = M) (ClockManager.tick P E) := by
      apply ClockManager.rests_tick
      · intro c k allow h
        exact ⟨h.1, (maxMemFreq_setAllowUnsafe k allow).trans h.2⟩
      · intro c k h
        refine ⟨?_, h.2⟩
        unfold Config.refresh
        split
        · rw [h.2]
          exact hload ⟨c, S.sys.store.file⟩ _ _ hfound h.1
        · exact h.1
    exact hrests S.manager ⟨hS, hM⟩
  | waitForNextTick E =>
    obtain rfl : file = S.sys.store.file := hcalm
    have hrests : Traced.Stable (ClockManager.Rests fun c k =>
        J ⟨c, S.sys.store.file⟩ ∧ k.maxMemFreq = M) (ClockManager.waitForNextTick P E) :=
      ClockManager.rests_waitForNextTick
    exact hrests S.manager ⟨hS, hM⟩
  | moveClocks hw =>
    obtain rfl : file = S.sys.store.file := hcalm
    exact ⟨hS, hM⟩
  | _ => exact absurd hcalm id

/-! ## Whole sessions -/

/-- The file and the memory, in every state of a session. -/
def FileSafe (W : Nat) (M : UInt32) (S : Process H) : Prop :=
  FileKept W M S.sys.store ∧ S.sys.clocks.maxMemFreq = M

section
variable {P : Hardware H} {S : Process H} {W : Nat} {M : UInt32} {tid : UInt64}
  {profiles : SysClkTitleProfileList}

theorem clocks_of_method {cmd : SysClkIpcCmd} {i : cmd.In} {s' : Sysmodule}
    {result : Except Result cmd.Out} (h : method env cmd i s = .ok (result, s')) :
    s'.clocks = s.clocks := by
  cases (method_change h).1 <;> rfl

theorem exists_of_perform {a : Option Returned} {s' : Sysmodule}
    (h : perform env c s = .ok (a, s')) :
    ∃ result, method env c.cmd c.args s = .ok (result, s') := by
  unfold perform at h
  split at h
  · cases h
  · rename_i result s₁ hmethod
    cases h
    exact ⟨result, hmethod⟩

/-- One turn. -/
theorem FileSafe.turn (hW : IsWidth W) {t : ClientTurn H} (hcalm : t.Calm S)
    (hS : FileSafe W M S) : FileSafe W M (wireTurn L P t S).state := by
  obtain ⟨hfile, hM⟩ := hS
  cases t with
  | call env own c =>
    unfold wireTurn
    dsimp only
    rw [exchange_eq]
    split
    · exact ⟨hfile, hM⟩
    · rename_i a s' hperform
      obtain ⟨result, hmethod⟩ := exists_of_perform hperform
      have hsane : Sane M c.cmd c.args := hM ▸ hcalm
      exact ⟨method_fileKept hW hfile hsane hmethod,
        (congrArg _ (clocks_of_method hmethod)).trans hM⟩
  | main call temps file =>
    exact wireTurn_rests (fun store mtime entries hfound h => h.load hfound) hcalm hM hfile

theorem Remembers.turn {t : ClientTurn H} (hcalm : t.Calm S) (hspares : t.Spares tid)
    (hsafe : FileSafe W M S) (hS : Remembers tid profiles S.sys.store) :
    Remembers tid profiles (wireTurn L P t S).state.sys.store := by
  cases t with
  | call env own c =>
    unfold wireTurn
    dsimp only
    rw [exchange_eq]
    split
    · exact hS
    · rename_i a s' hperform
      obtain ⟨result, hmethod⟩ := exists_of_perform hperform
      exact method_remembers hS hspares hmethod
  | main call temps file =>
    have hboth : ∀ (store : ConfigStore) mtime entries, FileFound store.file mtime entries →
        FileKept W M store ∧ Remembers tid profiles store →
        FileKept W M ⟨store.config.load M mtime entries, store.file⟩ ∧
          Remembers tid profiles ⟨store.config.load M mtime entries, store.file⟩ :=
      fun store mtime entries hfound h => ⟨h.1.load hfound, h.2.load h.1 hfound⟩
    exact (wireTurn_rests (J := fun store => FileKept W M store ∧ Remembers tid profiles store)
      hboth hcalm hsafe.2 ⟨hsafe.1, hS⟩).1.2

theorem fileSafe_of_visits (hW : IsWidth W) (hS : FileSafe W M S) {turns : List (ClientTurn H)}
    (hcalm : ∀ v ∈ visits (wireTurn L P) S turns, v.2.Calm v.1) :
    ∀ v ∈ visits (wireTurn L P) S turns, FileSafe W M v.1 := by
  have hstep : ∀ (S : Process H) (t : ClientTurn H), FileSafe W M S → t.Calm S →
      (wireTurn L P t S).result = .ok () → FileSafe W M (wireTurn L P t S).state :=
    fun S t h hcalm _ => h.turn hW hcalm
  exact visits_invariant_of hstep hS turns hcalm

/-- A successful request to set a title. -/
theorem remembers_of_exchange {args : SysClkIpc_SetProfiles_Args} {out : List UInt8}
    {s' : Sysmodule} (hset : exchange L env own ⟨.setProfiles, args, out⟩ s =
      .ok (some ⟨.setProfiles, .ok (), out⟩, s')) :
    method env .setProfiles args s = .ok (.ok (), s') ∧
      Remembers args.tid args.profiles s'.store := by
  rw [exchange_eq] at hset
  unfold perform at hset
  cases hmethod : method env .setProfiles args s with
  | error fault =>
    simp only [hmethod, reduceCtorEq] at hset
  | ok x =>
    obtain ⟨result, s₁⟩ := x
    simp only [hmethod] at hset
    cases hset
    refine ⟨rfl, ?_⟩
    replace hmethod : setProfiles env args s = .ok (.ok (), s') := hmethod
    rcases setProfiles_cases hmethod with ⟨-, hrc, -⟩ | ⟨-, hrc, -⟩ |
      ⟨file, hloaded, -, -, -, rfl⟩
    · cases hrc
    · cases hrc
    · exact ⟨hloaded, getProfiles_applyProfiles hloaded⟩

/-- **Profiles that a client has set are what any client gets**, whatever other clients do to the
rest and however often the main loop loads the file, until someone sets that title again. -/
theorem setProfiles_survives (L : ServiceDispatch) (P : Hardware H) (hW : IsWidth W)
    (clocks : Clocks) (toolEnabled syncEnabled : Bool) (hw : H)
    (temps : SysClkThermalSensor → UInt32) {file : Option Text}
    (htidy : MinIni.Tidy W (file.getD [])) (hcanonical : Canonical (MinIni.parse (file.getD [])))
    (turns : List (ClientTurn H))
    (hcalm : ∀ v ∈ visits (wireTurn L P) (boot clocks toolEnabled syncEnabled hw temps file) turns,
      v.2.Calm v.1) :
    ∀ v ∈ visits (wireTurn L P) (boot clocks toolEnabled syncEnabled hw temps file) turns,
      ∀ env own (args : SysClkIpc_SetProfiles_Args) out s',
        Sane v.1.sys.clocks.maxMemFreq .setProfiles args →
        exchange L env own ⟨.setProfiles, args, out⟩ v.1.sys =
          .ok (some ⟨.setProfiles, .ok (), out⟩, s') →
        ∀ later, (∀ w ∈ visits (wireTurn L P) { v.1 with sys := s' } later,
            w.2.Calm w.1 ∧ w.2.Spares args.tid) →
          ∀ w ∈ visits (wireTurn L P) { v.1 with sys := s' } later, ∀ env own out,
            exchange L env own ⟨.getProfiles, args.tid, out⟩ w.1.sys =
              .ok (some ⟨.getProfiles, .ok args.profiles, out⟩, w.1.sys) := by
  have hboot : FileSafe W clocks.maxMemFreq
      (boot clocks toolEnabled syncEnabled hw temps file) := by
    refine ⟨⟨htidy, hcanonical, fun hloaded => ?_⟩, rfl⟩
    replace hloaded : false = true := hloaded
    cases hloaded
  intro v hv env own args out s' hsane hset later hlater
  obtain ⟨hfile, hM⟩ := fileSafe_of_visits hW hboot hcalm v hv
  obtain ⟨hmethod, hremembers⟩ := remembers_of_exchange hset
  have hstart : FileSafe W clocks.maxMemFreq ({ v.1 with sys := s' } : Process H) :=
    ⟨method_fileKept hW hfile (hM ▸ hsane) hmethod,
      (congrArg _ (clocks_of_method hmethod)).trans hM⟩
  have hstep : ∀ (S : Process H) (t : ClientTurn H),
      FileSafe W clocks.maxMemFreq S ∧ Remembers args.tid args.profiles S.sys.store →
      t.Calm S ∧ t.Spares args.tid → (wireTurn L P t S).result = .ok () →
      FileSafe W clocks.maxMemFreq (wireTurn L P t S).state ∧
        Remembers args.tid args.profiles (wireTurn L P t S).state.sys.store :=
    fun S t h hcond _ => ⟨h.1.turn hW hcond.1, h.2.turn hcond.1 hcond.2 h.1⟩
  intro w hw env own out
  obtain ⟨-, hloaded, hprofiles⟩ :=
    visits_invariant_of hstep ⟨hstart, hremembers⟩ later hlater w hw
  have hmethod : method env .getProfiles args.tid w.1.sys = .ok (.ok args.profiles, w.1.sys) := by
    show Except.ok (whenLoaded _ _, w.1.sys) = _
    unfold whenLoaded
    rw [if_pos hloaded]
    dsimp only
    rw [hprofiles]
    rfl
  exact exchange_of_ok (c := ⟨.getProfiles, args.tid, out⟩) (fun h => by cases h) hmethod

end

/-- The main loop looks at the file once, and finds none. -/
def firstLook : List (ClientTurn (SysClkModule → UInt32)) :=
  [.main (.tick (ClockManager.onCharger 0)) (fun _ => 0) none,
    .main (.waitForNextTick (ClockManager.onCharger 0)) (fun _ => 0) none]

/-- The state in which it waits for the next tick. -/
def lookedProcess : Process (SysClkModule → UInt32) :=
  (wireTurn plainDispatch Hardware.exact
    (.main (.tick (ClockManager.onCharger 0)) (fun _ => 0) none) stockProcess).state

theorem visits_firstLook : visits (wireTurn plainDispatch Hardware.exact) stockProcess firstLook =
    [(stockProcess, .main (.tick (ClockManager.onCharger 0)) (fun _ => 0) none),
      (lookedProcess, .main (.waitForNextTick (ClockManager.onCharger 0)) (fun _ => 0) none)] := by
  have hok : (wireTurn plainDispatch Hardware.exact
      (.main (.tick (ClockManager.onCharger 0)) (fun _ => 0) none) stockProcess).result =
        .ok () := by
    decide +kernel
  unfold firstLook
  rw [visits_cons_of_ok hok, visits_singleton]
  rfl

theorem store_lookedProcess :
    lookedProcess.sys.store.config.loaded = true ∧ lookedProcess.sys.store.file = none := by
  decide +kernel

/-- A client sets the profiles of a title. -/
def setOneClock (tid : UInt64) : ClientTurn (SysClkModule → UInt32) :=
  .call someEnv [] ⟨.setProfiles, ⟨tid, Config.oneClock⟩, []⟩

/-- Title 1 is set, and the file written. -/
def savedProcess : Process (SysClkModule → UInt32) :=
  (wireTurn plainDispatch Hardware.exact (setOneClock 1) lookedProcess).state

theorem exchange_lookedProcess :
    exchange plainDispatch someEnv [] ⟨.setProfiles, ⟨1, Config.oneClock⟩, []⟩
        lookedProcess.sys = .ok (some ⟨.setProfiles, .ok (), []⟩, savedProcess.sys) ∧
      savedProcess = { lookedProcess with sys := savedProcess.sys } := by
  obtain ⟨hloaded, hfile⟩ := store_lookedProcess
  have hroom : ¬15 < (Config.profileEntries Config.oneClock).length := by decide +kernel
  have hmethod : ∃ s', setProfiles someEnv ⟨1, Config.oneClock⟩ lookedProcess.sys =
      .ok (.ok (), s') := by
    unfold setProfiles Config.setProfiles
    rw [if_pos hloaded]
    dsimp only
    rw [if_neg hroom, hfile]
    exact ⟨_, rfl⟩
  obtain ⟨s', hset⟩ := hmethod
  have hexchange : exchange plainDispatch someEnv [] ⟨.setProfiles, ⟨1, Config.oneClock⟩, []⟩
      lookedProcess.sys = .ok (some ⟨.setProfiles, .ok (), []⟩, s') :=
    exchange_of_ok (c := ⟨.setProfiles, ⟨1, Config.oneClock⟩, []⟩) (by decide) hset
  have hsaved : savedProcess = { lookedProcess with sys := s' } := by
    unfold savedProcess wireTurn setOneClock
    dsimp only
    rw [hexchange]
  rw [hsaved]
  exact ⟨hexchange, rfl⟩

/-- Title 2 is set, and the file written anew. -/
def changedProcess : Process (SysClkModule → UInt32) :=
  (wireTurn plainDispatch Hardware.exact (setOneClock 2) savedProcess).state

def changedFile : Text :=
  ("[0000000000000001]\nhandheld_cpu=1020\n\n" ++
    "[0000000000000002]\nhandheld_cpu=1020\n\n").toList

/-- The main loop sees that the file has changed, and loads it. -/
def reload : ClientTurn (SysClkModule → UInt32) :=
  .main (.tick { ClockManager.onCharger 0 with
    iniModificationTime := 1
    iniEntries := [(printHex16 1, "handheld_cpu".toList, "1020".toList),
      (printHex16 2, "handheld_cpu".toList, "1020".toList)] }) (fun _ => 0) (some changedFile)

def reloadedProcess : Process (SysClkModule → UInt32) :=
  (wireTurn plainDispatch Hardware.exact reload changedProcess).state

def getOneClock : ClientTurn (SysClkModule → UInt32) :=
  .call someEnv [] ⟨.getProfiles, (1 : UInt64), []⟩

/-- Both turns succeed; the service has written the file that the main loop loads. -/
theorem runs_reload :
    (wireTurn plainDispatch Hardware.exact (setOneClock 2) savedProcess).result = .ok () ∧
      (wireTurn plainDispatch Hardware.exact reload changedProcess).result = .ok () ∧
      changedProcess.sys.store.file = some changedFile ∧
      changedProcess.sys.store.config.mtime ≠ reloadedProcess.sys.store.config.mtime := by
  decide +kernel

theorem visits_savedProcess :
    visits (wireTurn plainDispatch Hardware.exact) savedProcess
      [setOneClock 2, reload, getOneClock] =
    [(savedProcess, setOneClock 2), (changedProcess, reload), (reloadedProcess, getOneClock)] := by
  obtain ⟨hset, hreload, -⟩ := runs_reload
  rw [visits_cons_of_ok hset, ← changedProcess, visits_cons_of_ok hreload, visits_singleton]
  rfl

theorem calm_reload : reload.Calm changedProcess := by
  obtain ⟨-, -, hfile, -⟩ := runs_reload
  refine ⟨hfile.symm, fun h => absurd h (by decide), fun _ => ?_⟩
  rw [hfile]
  decide +kernel

/-- One client sets the profiles of a title and another one those of a further title; the main
loop loads the file, and the first title is as it was set. -/
theorem setProfiles_survives_reload :
    exchange plainDispatch someEnv [] ⟨.setProfiles, ⟨1, Config.oneClock⟩, []⟩
        lookedProcess.sys = .ok (some ⟨.setProfiles, .ok (), []⟩, savedProcess.sys) ∧
      changedProcess.sys.store.config.mtime ≠ reloadedProcess.sys.store.config.mtime ∧
      exchange plainDispatch someEnv [] ⟨.getProfiles, (1 : UInt64), []⟩ reloadedProcess.sys =
        .ok (some ⟨.getProfiles, .ok Config.oneClock, []⟩, reloadedProcess.sys) := by
  obtain ⟨hset, hsaved⟩ := exchange_lookedProcess
  have hwidth : IsWidth 32 := ⟨by decide, by decide⟩
  have hempty : MinIni.Tidy 32 ((none : Option Text).getD []) := ConfigStore.tidy_nil 32
  have hcalm : ∀ v ∈ visits (wireTurn plainDispatch Hardware.exact) stockProcess firstLook,
      v.2.Calm v.1 := by
    rw [visits_firstLook]
    intro v hv
    rcases List.mem_pair.1 hv with rfl | rfl
    · exact ⟨rfl, fun _ => rfl, fun h => absurd rfl h⟩
    · exact store_lookedProcess.2.symm
  have hmem : (lookedProcess, ClientTurn.main (.waitForNextTick (ClockManager.onCharger 0))
      (fun _ => 0) none) ∈ visits (wireTurn plainDispatch Hardware.exact) stockProcess
        firstLook := by
    rw [visits_firstLook]
    exact List.mem_cons_of_mem _ List.mem_cons_self
  have hlater : (reloadedProcess, getOneClock) ∈ visits (wireTurn plainDispatch Hardware.exact)
      { lookedProcess with sys := savedProcess.sys } [setOneClock 2, reload, getOneClock] := by
    rw [← hsaved, visits_savedProcess]
    simp
  refine ⟨hset, runs_reload.2.2.2, ?_⟩
  refine setProfiles_survives plainDispatch Hardware.exact hwidth ClockManager.stockClocks false
    false ClockManager.stockHardware (fun _ => 0) hempty ConfigStore.canonical_parse_nil firstLook
    hcalm _ hmem someEnv [] ⟨1, Config.oneClock⟩ [] savedProcess.sys
    (ConfigStore.valid_oneClock true (by decide) _) hset
    [setOneClock 2, reload, getOneClock] ?_ _ hlater someEnv [] []
  rw [← hsaved, visits_savedProcess]
  intro w hw
  simp only [List.mem_cons, List.not_mem_nil, or_false] at hw
  rcases hw with rfl | rfl | rfl
  · exact ⟨ConfigStore.valid_oneClock true (by decide) _, show (2 : UInt64) ≠ 1 by decide⟩
  · exact ⟨calm_reload, trivial⟩
  · exact ⟨trivial, trivial⟩

end SwitchOc.SysClk.Ipc
