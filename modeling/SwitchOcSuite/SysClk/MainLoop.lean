import SwitchOcSuite.Lib.Stable
import SwitchOcSuite.SysClk.ClockManager
import SwitchOcSuite.SysClk.ConfigValues

/-!
# What every call of the clock manager keeps

The configuration values always pass their check, wherever they come from, and the ranges
of the clocks are those of the present setting.

    rests_tick     an invariant of the configuration and the ranges in a tick
    valid_serve    every call keeps the values valid and the ranges up to date
-/

namespace SwitchOc.SysClk

open Function Traced
open Traced.Prog (getState gets sets emits ofExcept forEach foldEach)

/-! ## Values -/

namespace Config

def ValidValues (c : Config) : Prop :=
  ∀ kval, sysclkValidConfigValue kval (c.configValues kval) = true

theorem validValues_browseIniFunc {c : Config} (h : c.ValidValues) (maxMemFreq : UInt32)
    (entry : Text × Text × Text) : (browseIniFunc maxMemFreq c entry).ValidValues := by
  intro kval
  rw [configValues_browseIniFunc]
  by_cases hsection : entry.1 = CONFIG_VAL_SECTION
  · rw [if_pos hsection]
    unfold browseConfigValue
    split
    · exact h kval
    · rename_i kval' _
      by_cases heq : kval = kval'
      · subst heq
        dsimp only
        rw [update_self]
        split
        · assumption
        · exact sysclkValidConfigValue_default kval
      · dsimp only
        rw [update_of_ne heq]
        exact h kval
  · rw [if_neg hsection]
    exact h kval

/-- Whatever the file says. -/
theorem validValues_load (maxMemFreq : UInt32) (mtime : Int) (entries : List (Text × Text × Text))
    (c : Config) : (c.load maxMemFreq mtime entries).ValidValues := by
  have hbrowse : ∀ (entries : List (Text × Text × Text)) {c : Config}, c.ValidValues →
      (entries.foldl (browseIniFunc maxMemFreq) c).ValidValues := by
    intro entries
    induction entries with
    | nil => exact fun h => h
    | cons entry entries ih => exact fun h => ih (validValues_browseIniFunc h maxMemFreq entry)
  have hclose : ({ c.close with mtime := mtime } : Config).ValidValues :=
    fun kval => sysclkValidConfigValue_default kval
  unfold load
  dsimp only
  split
  · exact hclose
  · exact hbrowse entries hclose

theorem validValues_refresh {c : Config} (h : c.ValidValues) (maxMemFreq : UInt32) (mtime : Int)
    (entries : List (Text × Text × Text)) : (c.refresh maxMemFreq mtime entries).2.ValidValues := by
  unfold refresh
  split
  · exact validValues_load maxMemFreq mtime entries c
  · exact h

theorem validValues_setConfigValues {F : Type} {c : Config} (h : c.ValidValues)
    (ini_putsection : Text → List (Text × Text) → Option F) (values : SysClkConfigValue → UInt64) :
    (c.setConfigValues ini_putsection values).2.ValidValues := by
  unfold setConfigValues
  split
  · exact h
  · intro kval
    dsimp only
    split
    · assumption
    · exact sysclkValidConfigValue_default kval

/-- Profiles are saved next to the values. -/
theorem validValues_setProfiles {F : Type} {c : Config} (h : c.ValidValues)
    {ini_putsection : Text → List (Text × Text) → Option F} {tid : UInt64}
    {profiles : SysClkTitleProfileList} {result : Option F × Config}
    (hset : c.setProfiles ini_putsection tid profiles = .ok result) : result.2.ValidValues := by
  unfold setProfiles at hset
  dsimp only at hset
  split at hset
  · cases hset
  · split at hset
    · cases hset
      exact h
    · cases hset
      exact h

end Config

/-! ## Invariants of the configuration and the ranges -/

namespace ClockManager

variable {H : Type} {P : Hardware H} {E : Environment} {J : Config → Clocks → Prop}

/-- An invariant that only speaks of the configuration and of the clocks. -/
abbrev Rests (J : Config → Clocks → Prop) (s : ClockManager H) : Prop := J s.config s.clocks

theorem rests_setHz (caller : Caller) (module : SysClkModule) (hz : UInt32) :
    Stable (Rests J) (setHz P caller module hz) := stable_emits fun _ h => h

theorem rests_resetToStock (module : Option SysClkModule) :
    Stable (Rests J) (resetToStock P E module) := by
  unfold resetToStock
  refine stable_ite ?_ (stable_emits fun _ h => h)
  refine stable_bind (stable_ofExcept _) fun apm => stable_bind (stable_gets _) fun isMariko => ?_
  exact stable_forEach (fun m => stable_ite (rests_setHz _ m _) (stable_pure _)) _

theorem rests_chargingHandler : Stable (Rests J) (chargingHandler (H := H) E) := by
  intro s h
  rw [(chargingHandler_run E s).2]
  exact h

theorem rests_refreshRealProfile (realProfile : SysClkProfile) (hasChanged : Bool) :
    Stable (Rests J) (refreshRealProfile (H := H) realProfile hasChanged) := by
  refine stable_bind (stable_gets _) fun stored => stable_ite ?_ (stable_pure _)
  exact stable_bind (stable_sets fun _ h => h) fun _ => stable_pure _

theorem rests_refreshEnabled (hasChanged : Bool) :
    Stable (Rests J) (refreshEnabled (H := H) hasChanged) := by
  refine stable_bind stable_getState fun s => stable_ite ?_ (stable_pure _)
  exact stable_bind (stable_sets fun _ h => h) fun _ => stable_pure _

theorem rests_refreshApplicationId (hasChanged : Bool) :
    Stable (Rests J) (refreshApplicationId (H := H) E hasChanged) := by
  refine stable_bind (stable_gets _) fun stored => stable_ite ?_ (stable_pure _)
  exact stable_bind (stable_sets fun _ h => h) fun _ => stable_pure _

theorem rests_refreshPerfConf (hasChanged : Bool) :
    Stable (Rests J) (refreshPerfConf (H := H) E hasChanged) := by
  refine stable_bind (stable_gets _) fun stored => stable_ite ?_ (stable_pure _)
  refine stable_bind (stable_sets fun _ h => h) fun _ => ?_
  refine stable_bind (stable_ofExcept _) fun apm => ?_
  exact stable_bind (stable_sets fun _ h => h) fun _ => stable_pure _

theorem rests_refreshProfile (hasChanged : Bool) :
    Stable (Rests J) (refreshProfile (H := H) hasChanged) := by
  refine stable_bind (stable_gets _) fun current => stable_bind (stable_gets _) fun expected => ?_
  refine stable_bind (stable_sets fun _ h => h) fun _ => ?_
  exact stable_ite (stable_pure _) (stable_pure _)

theorem rests_rememberClock (module : SysClkModule) (hasChanged : Bool) :
    Stable (Rests J) (rememberClock P module hasChanged) := by
  refine stable_bind stable_getState fun s => stable_ite ?_ (stable_pure _)
  refine stable_bind (stable_sets fun _ h => h) fun _ => ?_
  exact stable_ite (stable_pure _) (stable_pure _)

theorem rests_refreshOverride (module : SysClkModule) (hasChanged : Bool) :
    Stable (Rests J) (refreshOverride P E module hasChanged) := by
  refine stable_bind stable_getState fun s => stable_ite ?_ (stable_pure _)
  refine stable_bind (stable_ite (stable_pure _) (rests_resetToStock _)) fun _ => ?_
  exact stable_bind (stable_sets fun _ h => h) fun _ => stable_pure _

theorem rests_setGovernorBounds (module : SysClkModule) (hz : UInt32) :
    Stable (Rests J) (setGovernorBounds (H := H) module hz) := by
  refine stable_bind (stable_sets ?_) fun _ => stable_bind (stable_gets _) fun bounded => ?_
  · intro s h
    split
    · exact h
    · exact h
  · exact stable_bind (stable_ofExcept _) fun governor => stable_sets fun _ h => h

theorem rests_applyClock (module : SysClkModule) : Stable (Rests J) (applyClock P module) := by
  refine stable_bind (stable_gets _) fun target => stable_bind (stable_ofExcept _) fun hz => ?_
  refine stable_bind (rests_setGovernorBounds module hz) fun _ => ?_
  refine stable_bind (stable_gets _) fun needed => stable_ite ?_ (stable_pure _)
  exact stable_bind (rests_setHz _ module hz) fun _ => stable_sets fun _ h => h

theorem rests_restoreCpuHz : Stable (Rests J) (restoreCpuHz P) :=
  stable_bind (stable_gets _) fun _ => stable_bind (stable_ofExcept _) fun _ => rests_setHz _ _ _

/-- The wait between two ticks touches neither of them. -/
theorem rests_waitForNextTick : Stable (Rests J) (waitForNextTick P E) := by
  have hboost : ∀ boost, Stable (Rests J) (setBoost (H := H) boost) :=
    fun boost => stable_sets fun _ h => h
  have hupdate : Stable (Rests J) (updateBoost P E) := by
    refine stable_bind (stable_gets _) fun lastBoost => stable_bind (hboost _) fun _ => ?_
    refine stable_bind (stable_ite rests_restoreCpuHz (stable_pure _)) fun _ => ?_
    refine stable_bind (stable_gets _) fun boostCpuFreq => ?_
    exact stable_ite (rests_setHz _ _ _) (stable_pure _)
  refine stable_bind stable_getState fun s => stable_ite (stable_pure _) (stable_ite hupdate ?_)
  exact stable_ite (stable_bind (hboost _) fun _ => rests_restoreCpuHz) (stable_pure _)

section
variable (hallow : ∀ c k allow, J c k → J c (k.setAllowUnsafe allow))
  (hrefresh : ∀ c k, J c k →
    J (c.refresh k.maxMemFreq E.iniModificationTime E.iniEntries).2 k)
include hallow

theorem rests_applyConfig : Stable (Rests J) (applyConfig (H := H)) := by
  refine stable_bind (stable_sets fun _ h => h) fun _ => ?_
  refine stable_bind (stable_sets fun s h => hallow _ _ _ h) fun _ => ?_
  refine stable_bind (stable_sets fun _ h => h) fun _ => ?_
  refine stable_bind (stable_gets _) fun nearest => ?_
  refine stable_bind (stable_ofExcept _) fun boostHz => ?_
  exact stable_sets fun _ h => h

include hrefresh

theorem rests_refreshConfig : Stable (Rests J) (refreshConfig (H := H) E) := by
  intro s h
  unfold refreshConfig
  rw [gets_bind_run, sets_bind_run]
  have happly : Stable (Rests J) (applyConfig (H := H) >>= fun _ => pure true) :=
    stable_bind (rests_applyConfig hallow) fun _ => stable_pure _
  exact stable_ite happly (stable_pure _) _ (hrefresh _ _ h)

theorem rests_refreshSources : Stable (Rests J) (refreshSources (H := H) E) := by
  refine stable_bind (rests_refreshRealProfile _ _) fun _ => ?_
  refine stable_bind (rests_refreshConfig hallow hrefresh) fun b => ?_
  refine stable_bind (rests_refreshEnabled b) fun b => ?_
  refine stable_bind (rests_refreshApplicationId b) fun b => ?_
  refine stable_bind (stable_sets fun _ h => h) fun _ => ?_
  exact stable_bind (rests_refreshPerfConf b) fun b => rests_refreshProfile b

theorem rests_refreshContext : Stable (Rests J) (refreshContext P E) := by
  refine stable_bind rests_chargingHandler fun _ => ?_
  refine stable_bind (rests_refreshSources hallow hrefresh) fun b => ?_
  have hreset : Stable (Rests J) (resetIfChanged P E b) :=
    stable_bind (stable_gets _) fun _ => stable_ite (rests_resetToStock none) (stable_pure _)
  refine stable_bind hreset fun _ => stable_foldEach (fun m b => ?_) _ b
  exact stable_bind (rests_rememberClock m b) fun b => rests_refreshOverride m b

/-- **A tick** keeps what another setting of `AllowUnsafeFrequencies` and another look at the file
keep. -/
theorem rests_tick : Stable (Rests J) (tick P E) := by
  refine stable_bind (rests_refreshContext hallow hrefresh) fun b => ?_
  refine stable_bind (stable_gets _) fun enabled => ?_
  exact stable_ite (stable_forEach rests_applyClock _) (stable_pure _)

end

/-! ## Every call -/

structure Valid (s : ClockManager H) : Prop where
  values : s.config.ValidValues
  ranges : s.clocks.UpToDate

theorem valid_tick : Stable Valid (tick P E) := by
  have hrests : Stable (Rests fun c k => c.ValidValues ∧ k.UpToDate) (tick P E) := by
    apply rests_tick
    · exact fun c k allow h => ⟨h.1, Clocks.upToDate_setAllowUnsafe h.2 allow⟩
    · exact fun c k h => ⟨Config.validValues_refresh h.1 _ _ _, h.2⟩
  intro s h
  obtain ⟨hvalues, hranges⟩ := hrests s ⟨h.values, h.ranges⟩
  exact ⟨hvalues, hranges⟩

theorem valid_waitForNextTick : Stable Valid (waitForNextTick P E) := by
  have hrests : Stable (Rests fun c k => c.ValidValues ∧ k.UpToDate) (waitForNextTick P E) :=
    rests_waitForNextTick
  intro s h
  obtain ⟨hvalues, hranges⟩ := hrests s ⟨h.values, h.ranges⟩
  exact ⟨hvalues, hranges⟩

/-- **Every call** keeps the values valid and the ranges up to date. -/
theorem valid_serve (c : Call H) : Stable Valid (serve P c) := by
  cases c with
  | tick E => exact valid_tick
  | waitForNextTick E => exact valid_waitForNextTick
  | setEnabled enabled => exact stable_sets fun _ h => ⟨h.1, h.2⟩
  | setOverride module hz => exact stable_sets fun _ h => ⟨h.1, h.2⟩
  | setReverseNXRTMode mode => exact stable_sets fun _ h => ⟨h.1, h.2⟩
  | setBatteryChargingDisabledOverride toggle_true => exact stable_sets fun _ h => ⟨h.1, h.2⟩
  | setProfiles tid profiles saved =>
    intro s h
    unfold serve
    rw [getState_bind_run]
    by_cases hloaded : s.config.loaded = true
    · rw [if_pos hloaded]
      cases hset : s.config.setProfiles (savedAs saved) tid profiles with
      | error fault => exact h
      | ok result => exact ⟨Config.validValues_setProfiles h.values hset, h.ranges⟩
    · rw [if_neg hloaded]
      exact h
  | setConfigValues values saved =>
    refine stable_sets fun s h => ?_
    split
    · exact ⟨Config.validValues_setConfigValues h.values _ _, h.ranges⟩
    · exact h
  | moveClocks hw => exact stable_sets fun _ h => ⟨h.1, h.2⟩

theorem valid_new (clocks : Clocks) (toolEnabled syncEnabled : Bool) (hw : H) :
    Valid (new clocks toolEnabled syncEnabled hw) :=
  ⟨fun kval => sysclkValidConfigValue_default kval, Clocks.upToDate_updateFreqRange clocks⟩

end ClockManager

end SwitchOc.SysClk
