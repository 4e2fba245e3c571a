import Mathlib.Data.List.Basic
import SwitchOcSuite.SysClk.ClockManager

/-!
# What `RefreshContext` finds and leaves

Each part of `RefreshContext` has a lemma that gives its flag and its state.
Together (`refreshContext_ok`) they say of a call that returns

    the flag        `noticedChange`, which does not mention the stored real profile
    the clocks      those of `clocksLeft`: reset once, then once more for every override removed
    the memory      also in `clocksLeft`: for each module the clock read before the second reset
-/

namespace SwitchOc.SysClk.ClockManager

open Function Traced

variable {H : Type} {P : Hardware H} {E : Environment}

/-! ## Resets -/

/-- The stock clock of the current configuration; `0` where `GetEmbeddedApmConfig` throws. -/
def stockClock (E : Environment) (isMariko : Bool) (module : SysClkModule) : UInt32 :=
  match getEmbeddedApmConfig E.perfConfId with
  | .ok apm => getStockClock isMariko apm module
  | .error _ => 0

/-- The clocks behind `ResetToStock`. -/
def resetHw (P : Hardware H) (E : Environment) (isMariko : Bool) (module : Option SysClkModule)
    (hw : H) : H :=
  if P.hosAtLeast900 then
    SysClkModule.all.foldl (fun hw m =>
      if module = none ∨ module = some m then P.setClockRate hw m (stockClock E isMariko m)
      else hw) hw
  else P.requestPerformanceMode hw E.performanceMode

def withHw (s : ClockManager H) (hw : H) : ClockManager H := { s with hw := hw }

/-- The stock clocks of the modules meant, one after the other. -/
theorem forEach_setStock (module : Option SysClkModule) (stock : SysClkModule → UInt32)
    (s : ClockManager H) :
    (Prog.forEach SysClkModule.all (fun m =>
        if module = none ∨ module = some m then setHz P .resetToStock m (stock m)
        else pure ()) s).state =
      s.withHw (SysClkModule.all.foldl (fun hw m =>
        if module = none ∨ module = some m then P.setClockRate hw m (stock m) else hw) s.hw) := by
  have hturn := forEach_run (f := fun m =>
      if module = none ∨ module = some m then setHz P .resetToStock m (stock m) else pure ())
    (g := fun s m => if module = none ∨ module = some m then
      s.withHw (P.setClockRate s.hw m (stock m)) else s)
    (fun m s => by split <;> exact ⟨rfl, rfl⟩) SysClkModule.all s
  rw [hturn.2]
  refine List.foldl_hom s.withHw fun hw m => ?_
  split <;> rfl

theorem resetToStock_state {module : Option SysClkModule} {s : ClockManager H}
    (h : (resetToStock P E module s).result = .ok ()) :
    (resetToStock P E module s).state =
      s.withHw (resetHw P E s.clocks.isMariko module s.hw) := by
  unfold resetToStock at h ⊢
  unfold resetHw
  by_cases hos : P.hosAtLeast900 = true
  · rw [if_pos hos] at h ⊢
    rw [if_pos hos]
    obtain ⟨apm, hapm, -⟩ := bind_ok_iff.1 h
    have hconf : getEmbeddedApmConfig E.perfConfId = .ok apm := hapm
    have hstock : stockClock E s.clocks.isMariko = getStockClock s.clocks.isMariko apm := by
      funext m
      simp only [stockClock, hconf]
    rw [bind_of_ok hapm, after_state, ofExcept_run, gets_bind_run, hstock]
    exact forEach_setStock module _ s
  · rw [if_neg hos] at h ⊢
    rw [if_neg hos]
    rfl

/-! ## The parts in front of the clocks -/

theorem refreshRealProfile_run (realProfile : SysClkProfile) (b : Bool) (s : ClockManager H) :
    ∃ oc, oc.realProfile = realProfile ∧
      oc.systemCoreBoostCPU = s.oc.systemCoreBoostCPU ∧
      (refreshRealProfile realProfile b s).state = { s with oc := oc } ∧
      ∃ b', (refreshRealProfile realProfile b s).result = .ok b' := by
  unfold refreshRealProfile
  rw [gets_bind_run]
  by_cases h : realProfile ≠ s.oc.realProfile
  · rw [if_pos h, sets_bind_run]
    exact ⟨{ s.oc with realProfile := realProfile, batteryChargingDisabledOverride := false },
      rfl, rfl, rfl, true, rfl⟩
  · rw [if_neg h]
    exact ⟨s.oc, (not_not.1 h).symm, rfl, rfl, b, rfl⟩

/-- What `Refresh` and its consequences keep. -/
structure ConfigFrame (s s' : ClockManager H) : Prop where
  context : s'.context = s.context
  oc : s'.oc = s.oc
  hw : s'.hw = s.hw
  isMariko : s'.clocks.isMariko = s.clocks.isMariko
  freqTable : s'.clocks.freqTable = s.clocks.freqTable
  boostCpuFreq : s'.clocks.boostCpuFreq = s.clocks.boostCpuFreq
  enabled : s'.config.enabled = s.config.enabled
  overrideFreqs : s'.config.overrideFreqs = s.config.overrideFreqs

theorem refreshConfig_ok {s : ClockManager H} {b : Bool}
    (h : (refreshConfig E s).result = .ok b) :
    b = s.config.needsLoad E.iniModificationTime ∧ ConfigFrame s (refreshConfig E s).state ∧
      (s.clocks.UpToDate → (refreshConfig E s).state.clocks.UpToDate) ∧
      (s.config.needsLoad E.iniModificationTime = false → (refreshConfig E s).state = s) := by
  unfold refreshConfig at h ⊢
  rw [gets_bind_run, sets_bind_run] at h ⊢
  unfold Config.refresh at h ⊢
  by_cases hload : s.config.needsLoad E.iniModificationTime = true
  · simp only [if_pos hload, if_true] at h ⊢
    obtain ⟨u, happly, hb⟩ := bind_ok_iff.1 h
    obtain ⟨henabled, hoverride⟩ := Config.load_kept s.clocks.maxMemFreq E.iniModificationTime
      E.iniEntries s.config
    have hb' : b = true := (Except.ok.inj hb).symm
    rw [bind_of_ok happly, after_state]
    unfold applyConfig at happly ⊢
    rw [sets_bind_run, sets_bind_run, sets_bind_run, gets_bind_run] at happly ⊢
    obtain ⟨boostHz, hboost, -⟩ := bind_ok_iff.1 happly
    obtain ⟨hm, ht, hf⟩ := Clocks.setAllowUnsafe_kept s.clocks
      (decide ((s.config.load s.clocks.maxMemFreq E.iniModificationTime E.iniEntries).configValues
        .allowUnsafeFrequencies ≠ 0))
    rw [bind_of_ok hboost]
    refine ⟨by rw [hb', hload], ?_, ?_, fun hno => by rw [hload] at hno; cases hno⟩
    · exact ⟨rfl, rfl, rfl, hm, ht, hf, henabled, hoverride⟩
    · exact fun hup => Clocks.upToDate_setAllowUnsafe hup _
  · simp only [if_neg hload, Bool.false_eq_true, if_false] at h ⊢
    refine ⟨?_, ⟨rfl, rfl, rfl, rfl, rfl, rfl, rfl, rfl⟩, id, fun _ => rfl⟩
    rw [← Except.ok.inj h]
    exact (Bool.eq_false_iff.2 hload).symm

theorem refreshEnabled_run (b : Bool) (s : ClockManager H) :
    refreshEnabled b s = ⟨.ok (b || decide (s.config.enabled ≠ s.context.enabled)),
      { s with context := { s.context with enabled := s.config.enabled } }, []⟩ := by
  unfold refreshEnabled
  rw [getState_bind_run]
  by_cases h : s.config.enabled ≠ s.context.enabled
  · rw [if_pos h, sets_bind_run, decide_eq_true h, Bool.or_true]
    rfl
  · rw [if_neg h, decide_eq_false h, Bool.or_false, not_not.1 h]
    rfl

theorem refreshApplicationId_run (b : Bool) (s : ClockManager H) :
    refreshApplicationId E b s =
      ⟨.ok (b || decide (E.applicationId ≠ s.context.applicationId)),
        { s with
          context := { s.context with applicationId := E.applicationId }
          rnxSync := if E.applicationId ≠ s.context.applicationId then
            s.rnxSync.reset E E.applicationId else s.rnxSync }, []⟩ := by
  unfold refreshApplicationId
  rw [gets_bind_run]
  by_cases h : E.applicationId ≠ s.context.applicationId
  · rw [if_pos h, sets_bind_run, decide_eq_true h, Bool.or_true, if_pos h]
    rfl
  · rw [if_neg h, decide_eq_false h, Bool.or_false, if_neg h, not_not.1 h]
    rfl

theorem refreshPerfConf_ok {b b' : Bool} {s : ClockManager H}
    (h : (refreshPerfConf E b s).result = .ok b') :
    b' = (b || decide (s.context.perfConfId ≠ E.perfConfId)) ∧
      ∃ g, g.config = s.governor.config ∧ (refreshPerfConf E b s).state =
        { s with
          context := { s.context with perfConfId := E.perfConfId }
          governor := g } := by
  unfold refreshPerfConf at h ⊢
  rw [gets_bind_run] at h ⊢
  by_cases hne : s.context.perfConfId ≠ E.perfConfId
  · rw [if_pos hne] at h ⊢
    rw [sets_bind_run] at h ⊢
    obtain ⟨apm, hapm, hb⟩ := bind_ok_iff.1 h
    rw [bind_of_ok hapm]
    refine ⟨?_, ⟨_, _, some apm, _, _, _, _, _, _⟩, rfl, rfl⟩
    rw [← Except.ok.inj hb]
    simp [hne]
  · rw [if_neg hne] at h ⊢
    refine ⟨?_, s.governor, rfl, ?_⟩
    · rw [← Except.ok.inj h]
      simp [hne]
    · rw [← not_not.1 hne]
      rfl

theorem refreshProfile_run (b : Bool) (s : ClockManager H) :
    refreshProfile b s =
      ⟨.ok (b || decide (s.context.profile ≠ s.rnxSync.getProfile s.oc.realProfile)),
        { s with
          context := { s.context with profile := s.rnxSync.getProfile s.oc.realProfile } },
        []⟩ := by
  unfold refreshProfile
  rw [gets_bind_run, gets_bind_run, sets_bind_run]
  by_cases h : s.context.profile ≠ s.rnxSync.getProfile s.oc.realProfile
  · simp [h]
  · simp [not_not.1 h]

/-- What raises the flag before the clocks are read.  The nominal profile is the one
that `ReverseNXSync` makes of the real one. -/
def sourceChanged (s : ClockManager H) (E : Environment) : Bool :=
  s.config.needsLoad E.iniModificationTime || s.config.enabled ≠ s.context.enabled ||
    E.applicationId ≠ s.context.applicationId || s.context.perfConfId ≠ E.perfConfId ||
    s.context.profile ≠ s.rnxSync.getProfile (getCurrentProfile E)

/-- The state when the clocks are read. -/
structure Sensed (E : Environment) (s s' : ClockManager H) : Prop where
  hw : s'.hw = s.hw
  freqs : s'.context.freqs = s.context.freqs
  overrideFreqs : s'.context.overrideFreqs = s.context.overrideFreqs
  configOverrideFreqs : s'.config.overrideFreqs = s.config.overrideFreqs
  enabled : s'.context.enabled = s.config.enabled
  perfConfId : s'.context.perfConfId = E.perfConfId
  realProfile : s'.oc.realProfile = getCurrentProfile E
  systemCoreBoostCPU : s'.oc.systemCoreBoostCPU = s.oc.systemCoreBoostCPU
  isMariko : s'.clocks.isMariko = s.clocks.isMariko
  freqTable : s'.clocks.freqTable = s.clocks.freqTable
  boostCpuFreq : s'.clocks.boostCpuFreq = s.clocks.boostCpuFreq
  upToDate : s.clocks.UpToDate → s'.clocks.UpToDate
  governor : s.config.needsLoad E.iniModificationTime = false →
    s'.governor.config = s.governorConfig E.applicationId (getCurrentProfile E)

theorem refreshSources_ok {b : Bool} {s : ClockManager H}
    (h : (refreshSources E s).result = .ok b) :
    b = sourceChanged s E ∧ Sensed E s (refreshSources E s).state := by
  unfold refreshSources at h ⊢
  dsimp only at h ⊢
  obtain ⟨oc, hreal, hboost, hstate, b₀, hres⟩ :=
    refreshRealProfile_run (getCurrentProfile E) false s
  rw [bind_of_ok hres, after_result, hstate] at h
  rw [bind_of_ok hres, after_state, hstate]
  obtain ⟨b₁, hconfig, h⟩ := bind_ok_iff.1 h
  rw [bind_of_ok hconfig, after_state]
  obtain ⟨hb₁, hframe, hup, hsame⟩ := refreshConfig_ok hconfig
  generalize (refreshConfig E { s with oc := oc }).state = s₁ at h hframe hup hsame ⊢
  rw [bind_of_run (refreshEnabled_run _ _), bind_of_run (refreshApplicationId_run _ _)] at h ⊢
  unfold refreshGovernorConfig at h ⊢
  rw [sets_bind_run] at h ⊢
  dsimp only at h ⊢
  obtain ⟨b₂, hperf, h⟩ := bind_ok_iff.1 h
  rw [bind_of_ok hperf, after_state]
  obtain ⟨hb₂, g, hg, hstate₂⟩ := refreshPerfConf_ok hperf
  rw [hstate₂, refreshProfile_run] at h ⊢
  have hcontext : s₁.context = s.context := hframe.context
  have hoc : s₁.oc = oc := hframe.oc
  have henabled : s₁.config.enabled = s.config.enabled := hframe.enabled
  have hload : b₁ = s.config.needsLoad E.iniModificationTime := hb₁
  refine ⟨?_, ⟨hframe.hw, ?_, ?_, hframe.overrideFreqs, hframe.enabled, rfl, ?_, ?_, hframe.isMariko,
    hframe.freqTable, hframe.boostCpuFreq, hup, ?_⟩⟩
  · have hb := (Except.ok.inj h).symm
    dsimp only at hb hb₂
    rw [hcontext, hoc, hreal, henabled] at hb
    rw [hcontext, henabled] at hb₂
    rw [hb, hb₂]
    unfold sourceChanged
    by_cases hold : s.config.needsLoad E.iniModificationTime = true
    · simp [hload, hold]
    · by_cases happ : E.applicationId = s.context.applicationId
      · rw [hsame (Bool.eq_false_iff.2 hold)]
        simp [hload, happ]
      · simp [happ]
  · show s₁.context.freqs = s.context.freqs
    rw [hcontext]
  · show s₁.context.overrideFreqs = s.context.overrideFreqs
    rw [hcontext]
  · show s₁.oc.realProfile = _
    rw [hoc, hreal]
  · show s₁.oc.systemCoreBoostCPU = _
    rw [hoc, hboost]
  · intro hold
    refine hg.trans ?_
    dsimp only
    rw [hsame hold]
    rfl

/-! ## The loop over the clocks -/

/-- The flag is raised for a clock that has moved, unless the governor moves it. -/
def clockMoved (P : Hardware H) (s : ClockManager H) (module : SysClkModule) : Bool :=
  P.getClockRate s.hw module ≠ 0 && P.getClockRate s.hw module ≠ s.context.freqs module &&
    !s.governor.isHandledByGovernor module

def overrideChanged (s : ClockManager H) (module : SysClkModule) : Bool :=
  s.config.overrideFreqs module ≠ s.context.overrideFreqs module

/-- The override of a module is dropped, and its clock reset. -/
def overrideRemoved (s : ClockManager H) (module : SysClkModule) : Bool :=
  s.config.overrideFreqs module = 0 && s.context.overrideFreqs module ≠ 0

/-- A clock that reads `0` is not remembered. -/
def keepClock (hz cached : UInt32) : UInt32 := if hz ≠ 0 then hz else cached

/-- One turn of the loop, on the clocks and what is remembered of them. -/
def visitClock (P : Hardware H) (E : Environment) (removed : SysClkModule → Bool)
    (isMariko : Bool) (x : H × (SysClkModule → UInt32)) (module : SysClkModule) :
    H × (SysClkModule → UInt32) :=
  (if removed module then resetHw P E isMariko (some module) x.1 else x.1,
    update x.2 module (keepClock (P.getClockRate x.1 module) (x.2 module)))

theorem rememberClock_run (module : SysClkModule) (b : Bool) (s : ClockManager H) :
    rememberClock P module b s =
      ⟨.ok (b || clockMoved P s module),
        { s with context := { s.context with
            freqs := update s.context.freqs module
              (keepClock (P.getClockRate s.hw module) (s.context.freqs module)) } }, []⟩ := by
  unfold rememberClock clockMoved keepClock
  rw [getState_bind_run]
  dsimp only
  by_cases hzero : P.getClockRate s.hw module = 0
  · simp [hzero]
  · by_cases hsame : P.getClockRate s.hw module = s.context.freqs module
    · simp [hsame]
    · rw [if_pos ⟨hzero, hsame⟩, sets_bind_run]
      by_cases hgov : s.governor.isHandledByGovernor module = true
      · simp [hzero, hgov]
      · simp [hzero, hsame, hgov]

theorem refreshOverride_ok {module : SysClkModule} {b b' : Bool} {s : ClockManager H}
    (h : (refreshOverride P E module b s).result = .ok b') :
    b' = (b || overrideChanged s module) ∧
      (refreshOverride P E module b s).state =
        { s with
          context := { s.context with
            overrideFreqs := update s.context.overrideFreqs module (s.config.overrideFreqs module) }
          hw := if overrideRemoved s module then
            resetHw P E s.clocks.isMariko (some module) s.hw else s.hw } := by
  unfold refreshOverride at h ⊢
  unfold overrideChanged overrideRemoved
  rw [getState_bind_run] at h ⊢
  dsimp only at h ⊢
  by_cases hne : s.config.overrideFreqs module ≠ s.context.overrideFreqs module
  · rw [if_pos hne] at h ⊢
    rw [decide_eq_true hne, Bool.or_true]
    by_cases hset : s.config.overrideFreqs module ≠ 0
    · rw [if_pos hset, pure_bind_run, sets_bind_run] at h ⊢
      refine ⟨(Except.ok.inj h).symm, ?_⟩
      simp [hset]
    · have hold : s.context.overrideFreqs module ≠ 0 := fun h0 => hne (by rw [not_not.1 hset, h0])
      rw [if_neg hset] at h ⊢
      obtain ⟨u, hreset, hb⟩ := bind_ok_iff.1 h
      rw [bind_of_ok hreset, resetToStock_state hreset]
      refine ⟨(Except.ok.inj hb).symm, ?_⟩
      simp [not_not.1 hset, hold, withHw]
  · rw [if_neg hne] at h ⊢
    rw [decide_eq_false hne, Bool.or_false]
    refine ⟨(Except.ok.inj h).symm, ?_⟩
    rw [not_not.1 hne, update_eq_self]
    simp

/-- The state behind one turn. -/
def afterModule (P : Hardware H) (E : Environment) (s : ClockManager H) (module : SysClkModule) :
    ClockManager H :=
  let x := visitClock P E (overrideRemoved s) s.clocks.isMariko (s.hw, s.context.freqs) module
  { s with
    context := { s.context with
      freqs := x.2
      overrideFreqs := update s.context.overrideFreqs module (s.config.overrideFreqs module) }
    hw := x.1 }

theorem refreshModule_ok {module : SysClkModule} {b b' : Bool} {s : ClockManager H}
    (h : (refreshModule P E module b s).result = .ok b') :
    b' = (b || (clockMoved P s module || overrideChanged s module)) ∧
      (refreshModule P E module b s).state = afterModule P E s module := by
  unfold refreshModule at h ⊢
  have hclock := rememberClock_run (P := P) module b s
  rw [bind_of_ok (congrArg Outcome.result hclock), hclock] at h ⊢
  obtain ⟨hb, hstate⟩ := refreshOverride_ok h
  refine ⟨?_, ?_⟩
  · rw [hb, Bool.or_assoc]
    rfl
  · rw [after_state, hstate]
    rfl

/-- What the loop keeps. -/
structure LoopFrame (s s' : ClockManager H) : Prop where
  config : s'.config = s.config
  oc : s'.oc = s.oc
  rnxSync : s'.rnxSync = s.rnxSync
  governor : s'.governor = s.governor
  clocks : s'.clocks = s.clocks
  enabled : s'.context.enabled = s.context.enabled
  applicationId : s'.context.applicationId = s.context.applicationId
  profile : s'.context.profile = s.context.profile
  perfConfId : s'.context.perfConfId = s.context.perfConfId

theorem LoopFrame.trans {s s' s'' : ClockManager H} (h : LoopFrame s s') (h' : LoopFrame s' s'') :
    LoopFrame s s'' where
  config := h'.config.trans h.config
  oc := h'.oc.trans h.oc
  rnxSync := h'.rnxSync.trans h.rnxSync
  governor := h'.governor.trans h.governor
  clocks := h'.clocks.trans h.clocks
  enabled := h'.enabled.trans h.enabled
  applicationId := h'.applicationId.trans h.applicationId
  profile := h'.profile.trans h.profile
  perfConfId := h'.perfConfId.trans h.perfConfId

theorem afterModule_frame (s : ClockManager H) (module : SysClkModule) :
    LoopFrame s (afterModule P E s module) :=
  ⟨rfl, rfl, rfl, rfl, rfl, rfl, rfl, rfl, rfl⟩

/-- A turn leaves the overrides of the other modules alone. -/
theorem afterModule_override {s : ClockManager H} {m module : SysClkModule} (h : m ≠ module) :
    overrideChanged (afterModule P E s module) m = overrideChanged s m ∧
      overrideRemoved (afterModule P E s module) m = overrideRemoved s m := by
  unfold overrideChanged overrideRemoved afterModule
  simp only [update_of_ne h, and_self]

/-- Without an override removed in it, a turn leaves the other clocks alone. -/
theorem afterModule_clockMoved {s : ClockManager H} {m module : SysClkModule} (h : m ≠ module)
    (hremoved : overrideRemoved s module = false) :
    clockMoved P (afterModule P E s module) m = clockMoved P s m := by
  unfold clockMoved afterModule visitClock
  simp only [hremoved, Bool.false_eq_true, if_false, update_of_ne h]

theorem overrideChanged_of_removed {s : ClockManager H} {m : SysClkModule}
    (h : overrideRemoved s m = true) : overrideChanged s m = true := by
  unfold overrideRemoved at h
  unfold overrideChanged
  simp only [Bool.and_eq_true, decide_eq_true_eq] at h ⊢
  intro heq
  exact h.2 (heq.symm.trans h.1)

theorem refreshModules_ok {ms : List SysClkModule} (hnd : ms.Nodup) :
    ∀ {b b' : Bool} {s : ClockManager H},
      (Prog.foldEach ms (refreshModule P E) b s).result = .ok b' →
      b' = (b || ms.any fun m => clockMoved P s m || overrideChanged s m) ∧
        ((Prog.foldEach ms (refreshModule P E) b s).state.hw,
            (Prog.foldEach ms (refreshModule P E) b s).state.context.freqs) =
          ms.foldl (visitClock P E (overrideRemoved s) s.clocks.isMariko)
            (s.hw, s.context.freqs) ∧
        LoopFrame s (Prog.foldEach ms (refreshModule P E) b s).state := by
  induction ms with
  | nil =>
    intro b b' s h
    refine ⟨?_, rfl, ⟨rfl, rfl, rfl, rfl, rfl, rfl, rfl, rfl, rfl⟩⟩
    rw [← Except.ok.inj h]
    exact (Bool.or_false b).symm
  | cons module ms ih =>
    intro b b' s h
    obtain ⟨hnotin, hnd⟩ := List.nodup_cons.1 hnd
    have hne : ∀ m ∈ ms, m ≠ module := by
      rintro m hm rfl
      exact hnotin hm
    obtain ⟨b₁, hmodule, hrest⟩ := bind_ok_iff.1 h
    obtain ⟨hb₁, hstate⟩ := refreshModule_ok hmodule
    rw [hstate] at hrest
    obtain ⟨hb', hclocks, hframe⟩ := ih hnd hrest
    have hrun : (Prog.foldEach (module :: ms) (refreshModule P E) b s).state =
        (Prog.foldEach ms (refreshModule P E) b₁ (afterModule P E s module)).state := by
      show ((refreshModule P E module b >>= _) s).state = _
      rw [bind_of_ok hmodule, after_state, hstate]
    rw [hrun]
    refine ⟨?_, ?_, (afterModule_frame s module).trans hframe⟩
    · rw [hb', hb₁, List.any_cons]
      cases hremoved : overrideRemoved s module with
      | true => simp [overrideChanged_of_removed hremoved]
      | false =>
        have hany : (ms.any fun m => clockMoved P (afterModule P E s module) m ||
              overrideChanged (afterModule P E s module) m) =
            ms.any fun m => clockMoved P s m || overrideChanged s m := by
          rw [Bool.eq_iff_iff, List.any_eq_true, List.any_eq_true]
          refine exists_congr fun m => and_congr_right fun hm => ?_
          rw [afterModule_clockMoved (hne m hm) hremoved, (afterModule_override (hne m hm)).1]
        rw [hany, Bool.or_assoc]
    · rw [hclocks, List.foldl_cons]
      refine List.foldl_ext _ _ _ fun x m hm => ?_
      unfold visitClock
      rw [(afterModule_override (P := P) (E := E) (hne m hm)).2]
      rfl

/-! ## The whole call -/

theorem resetIfChanged_state {b : Bool} {s : ClockManager H}
    (h : (resetIfChanged P E b s).result = .ok ()) :
    (resetIfChanged P E b s).state = s.withHw
      (if b && !apmExtIsBoostMode s.context.perfConfId then resetHw P E s.clocks.isMariko none s.hw
      else s.hw) := by
  unfold resetIfChanged at h ⊢
  rw [gets_bind_run] at h ⊢
  by_cases hreset : (b && !apmExtIsBoostMode s.context.perfConfId) = true
  · rw [if_pos hreset] at h ⊢
    rw [if_pos hreset]
    exact resetToStock_state h
  · rw [if_neg hreset] at h ⊢
    rw [if_neg hreset]
    rfl

/-- The manager with the governors of the title and the profile. -/
def governed (s : ClockManager H) (E : Environment) : ClockManager H :=
  { s with governor := { s.governor with
      config := s.governorConfig E.applicationId (getCurrentProfile E) } }

/-- What `RefreshContext` returns. -/
def noticedChange (P : Hardware H) (s : ClockManager H) (E : Environment) : Bool :=
  sourceChanged s E || SysClkModule.all.any fun m =>
    clockMoved P (s.governed E) m || overrideChanged s m

/-- The clocks when the loop starts. -/
def clocksRead (P : Hardware H) (s : ClockManager H) (E : Environment) : H :=
  if sourceChanged s E && !apmExtIsBoostMode E.perfConfId then
    resetHw P E s.clocks.isMariko none s.hw
  else s.hw

/-- The clocks behind the loop, and what is remembered of each. -/
def clocksLeft (P : Hardware H) (s : ClockManager H) (E : Environment) :
    H × (SysClkModule → UInt32) :=
  SysClkModule.all.foldl (visitClock P E (overrideRemoved s) s.clocks.isMariko)
    (clocksRead P s E, s.context.freqs)

/-- What else is known of the state behind `RefreshContext`. -/
structure Refreshed (E : Environment) (s s' : ClockManager H) : Prop where
  enabled : s'.context.enabled = s.config.enabled
  perfConfId : s'.context.perfConfId = E.perfConfId
  realProfile : s'.oc.realProfile = getCurrentProfile E
  systemCoreBoostCPU : s'.oc.systemCoreBoostCPU = s.oc.systemCoreBoostCPU
  isMariko : s'.clocks.isMariko = s.clocks.isMariko
  freqTable : s'.clocks.freqTable = s.clocks.freqTable
  boostCpuFreq : s'.clocks.boostCpuFreq = s.clocks.boostCpuFreq
  upToDate : s.clocks.UpToDate → s'.clocks.UpToDate

theorem refreshState_ok {b : Bool} {s : ClockManager H}
    (h : (refreshState P E s).result = .ok b) :
    b = noticedChange P s E ∧
      ((refreshState P E s).state.hw, (refreshState P E s).state.context.freqs) =
        clocksLeft P s E ∧
      Refreshed E s (refreshState P E s).state := by
  unfold refreshState at h ⊢
  obtain ⟨b₁, hsources, h⟩ := bind_ok_iff.1 h
  rw [bind_of_ok hsources, after_state]
  obtain ⟨hb₁, hsensed⟩ := refreshSources_ok hsources
  generalize (refreshSources E s).state = s₁ at h hsensed ⊢
  obtain ⟨u, hreset, h⟩ := bind_ok_iff.1 h
  rw [bind_of_ok hreset, after_state]
  rw [resetIfChanged_state hreset] at h ⊢
  obtain ⟨hb, hclocks, hframe⟩ := refreshModules_ok (by decide) h
  have hremoved : overrideRemoved s₁ = overrideRemoved s := by
    funext m
    unfold overrideRemoved
    rw [hsensed.configOverrideFreqs, hsensed.overrideFreqs]
  have hread : (if b₁ && !apmExtIsBoostMode s₁.context.perfConfId then
      resetHw P E s₁.clocks.isMariko none s₁.hw else s₁.hw) = clocksRead P s E := by
    unfold clocksRead
    rw [hb₁, hsensed.perfConfId, hsensed.isMariko, hsensed.hw]
  rw [hread] at hb hclocks hframe ⊢
  refine ⟨?_, ?_, ?_⟩
  · rw [hb, hb₁]
    unfold noticedChange
    by_cases hchanged : sourceChanged s E = true
    · rw [hchanged, Bool.true_or, Bool.true_or]
    · have hfalse := Bool.eq_false_iff.2 hchanged
      have hload : s.config.needsLoad E.iniModificationTime = false := by
        cases hold : s.config.needsLoad E.iniModificationTime with
        | false => rfl
        | true => exact absurd (by simp [sourceChanged, hold]) hchanged
      have hsame : clocksRead P s E = s.hw := by
        unfold clocksRead
        rw [hfalse]
        rfl
      have hmoved : ∀ m, clockMoved P (s₁.withHw (clocksRead P s E)) m =
          clockMoved P (s.governed E) m := by
        intro m
        unfold clockMoved Governor.isHandledByGovernor withHw governed
        dsimp only
        rw [hsame, hsensed.freqs, hsensed.governor hload]
      have hoverride : ∀ m, overrideChanged (s₁.withHw (clocksRead P s E)) m =
          overrideChanged s m := by
        intro m
        unfold overrideChanged withHw
        rw [hsensed.configOverrideFreqs, hsensed.overrideFreqs]
      simp only [hmoved, hoverride]
  · refine hclocks.trans ?_
    unfold clocksLeft
    show SysClkModule.all.foldl (visitClock P E (overrideRemoved s₁) s₁.clocks.isMariko)
      (clocksRead P s E, s₁.context.freqs) = _
    rw [hremoved, hsensed.isMariko, hsensed.freqs]
  · have hclk : (Prog.foldEach SysClkModule.all (refreshModule P E) b₁
        (s₁.withHw (clocksRead P s E))).state.clocks = s₁.clocks := hframe.clocks
    have hoc : (Prog.foldEach SysClkModule.all (refreshModule P E) b₁
        (s₁.withHw (clocksRead P s E))).state.oc = s₁.oc := hframe.oc
    refine ⟨hframe.enabled.trans hsensed.enabled, hframe.perfConfId.trans hsensed.perfConfId,
      ?_, ?_, ?_, ?_, ?_, ?_⟩
    · rw [hoc, hsensed.realProfile]
    · rw [hoc, hsensed.systemCoreBoostCPU]
    · rw [hclk, hsensed.isMariko]
    · rw [hclk, hsensed.freqTable]
    · rw [hclk, hsensed.boostCpuFreq]
    · rw [hclk]
      exact hsensed.upToDate

/-- Behind the charging handler, a call goes on from the same state. -/
theorem refreshContext_eq (P : Hardware H) (E : Environment) (s : ClockManager H) :
    (refreshContext P E s).result = (refreshState P E s).result ∧
      (refreshContext P E s).state = (refreshState P E s).state := by
  obtain ⟨hres, hstate⟩ := chargingHandler_run E s
  unfold refreshContext
  rw [bind_of_ok hres, hstate]
  exact ⟨rfl, rfl⟩

theorem refreshContext_ok {b : Bool} {s : ClockManager H}
    (h : (refreshContext P E s).result = .ok b) :
    b = noticedChange P s E ∧
      ((refreshContext P E s).state.hw, (refreshContext P E s).state.context.freqs) =
        clocksLeft P s E ∧
      Refreshed E s (refreshContext P E s).state := by
  obtain ⟨hres, hstate⟩ := refreshContext_eq P E s
  rw [hres] at h
  rw [hstate]
  exact refreshState_ok h

end SwitchOc.SysClk.ClockManager
