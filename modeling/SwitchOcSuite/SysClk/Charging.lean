import SwitchOcSuite.SysClk.Logs

/-!
# The charging override

While the override that disables charging is set, `PsmExt::ChargingHandler` still
enables charging on a battery that is connected, not charging and below the
limit: only its first branch looks at the override (`charging_stays_disabled_iff`,
over whole sessions).
-/

namespace SwitchOc.SysClk.ClockManager

open Traced

variable {H : Type} {P : Hardware H}

/-- The readings on which the second branch of the handler is taken. -/
def Resumes (s : ClockManager H) (E : Environment) : Prop :=
  psmIsChargerConnected E.chargeInfo = true ∧ psmIsCharging E.chargeInfo = false ∧
    ∃ chargeNow, E.batteryChargePercentage = some chargeNow ∧
      chargeNow < (s.configValue .chargingLimitPercentage).toUInt32

def NotEnabling (l : Access) : Prop := l ≠ .psmDispatch .enableBatteryCharging

theorem traces_dispatchWhen {Q : Access → Prop} (c : Bool) (cmd : IPsmServerCmd)
    (s : ClockManager H) :
    Traces Q (dispatchWhen c cmd) s ↔ (c = true → Q (.psmDispatch cmd)) := by
  unfold dispatchWhen
  cases c with
  | false => simp
  | true => simp [Traces]

theorem traces_limitChargingCurrent (E : Environment) (s : ClockManager H) :
    Traces NotEnabling (limitChargingCurrent E) s := by
  unfold limitChargingCurrent
  cases E.fastChargeCurrentLimit with
  | none => exact traces_pure () s
  | some current =>
    dsimp only
    rw [traces_gets_bind]
    split
    · exact stays_emits (fun _ => nofun) _ s
    · exact traces_pure () s

/-- The handler enables charging exactly on the readings of its second branch. -/
theorem traces_limitCharging (E : Environment) (s : ClockManager H) :
    Traces NotEnabling (limitCharging E) s ↔ ¬ Resumes s E := by
  unfold limitCharging Resumes
  by_cases hconn : psmIsChargerConnected E.chargeInfo = true
  · rw [if_pos hconn]
    cases hpct : E.batteryChargePercentage with
    | none => simp
    | some chargeNow =>
      have hdisable : NotEnabling (.psmDispatch .disableBatteryCharging) := nofun
      have henable : ¬ NotEnabling (.psmDispatch .enableBatteryCharging) := fun h => h rfl
      dsimp only
      rw [traces_gets_bind, traces_gets_bind, traces_bind_of_ok (dispatchWhen_run _ _ s).1,
        (dispatchWhen_run _ _ s).2, traces_dispatchWhen, traces_dispatchWhen]
      simp [hdisable, henable, hconn]
  · rw [if_neg hconn]
    simp [hconn]

theorem traces_chargingHandler (E : Environment) (s : ClockManager H) :
    Traces NotEnabling (chargingHandler E) s ↔ ¬ Resumes s E := by
  obtain ⟨hres, hstate⟩ := limitChargingCurrent_run E s
  unfold chargingHandler
  rw [traces_bind_of_ok hres, hstate, traces_limitCharging]
  exact and_iff_right (traces_limitChargingCurrent E s)

/-- Nothing else in a tick enables charging. -/
theorem traces_tick (E : Environment) (s : ClockManager H) :
    Traces NotEnabling (tick P E) s ↔ ¬ Resumes s E := by
  have hrefresh : Stays NotEnabling (refreshState P E) :=
    stays_refreshState (fun _ _ _ => nofun) (fun _ => nofun)
  have happly : ∀ m, Stays NotEnabling (applyClock P m) :=
    stays_applyClock (fun _ _ _ _ => nofun)
  have hclocks : ∀ hasChanged : Bool, Stays NotEnabling
      (Prog.gets (fun s : ClockManager H => s.context.enabled) >>= fun enabled =>
        if hasChanged && enabled then Prog.forEach SysClkModule.all (applyClock P)
        else pure ()) := fun _ =>
    stays_bind (stays_gets _) fun _ => stays_ite (stays_forEach fun m _ => happly m) (stays_pure ())
  constructor
  · intro h
    exact (traces_chargingHandler E s).1 (traces_bind.1 (traces_bind.1 h).1).1
  · intro h
    refine traces_bind.2 ⟨traces_bind.2 ⟨(traces_chargingHandler E s).2 h, ?_⟩, ?_⟩
    · exact fun _ _ => hrefresh _
    · exact fun hasChanged _ => hclocks hasChanged _

/-- No call but `Tick` enables charging. -/
theorem traces_serve (c : Call H) (s : ClockManager H) :
    Traces NotEnabling (serve P c) s ↔ ∀ E, c = .tick E → ¬ Resumes s E := by
  have hstays : ∀ {x : Manager H Unit}, Stays NotEnabling x → (∀ E, c ≠ .tick E) →
      (Traces NotEnabling x s ↔ ∀ E, c = .tick E → ¬ Resumes s E) := fun h hc =>
    ⟨fun _ E hE => absurd hE (hc E), fun _ => h s⟩
  cases c with
  | tick E =>
    refine (traces_tick E s).trans ⟨fun h E' hE => ?_, fun h => h E rfl⟩
    cases hE
    exact h
  | waitForNextTick E => exact hstays (stays_waitForNextTick fun _ _ _ _ => nofun) (fun _ => nofun)
  | setEnabled enabled => exact hstays (stays_sets _) (fun _ => nofun)
  | setOverride module hz => exact hstays (stays_sets _) (fun _ => nofun)
  | setReverseNXRTMode mode => exact hstays (stays_sets _) (fun _ => nofun)
  | setBatteryChargingDisabledOverride toggle_true => exact hstays (stays_sets _) (fun _ => nofun)
  | setProfiles tid profiles saved =>
    refine hstays (stays_bind (stays_gets _) fun _ => stays_ite ?_ (stays_pure _)) (fun _ => nofun)
    exact stays_bind (stays_ofExcept _) fun _ => stays_sets _
  | setConfigValues values saved => exact hstays (stays_sets _) (fun _ => nofun)
  | moveClocks hw => exact hstays (stays_sets _) (fun _ => nofun)

/-- **Charging stays disabled under the override** throughout a session iff no tick
of the session, with the override set, finds a battery that is connected, not
charging and below the limit. -/
theorem charging_stays_disabled_iff (P : Hardware H) (s : ClockManager H) (cs : List (Call H)) :
    (∀ v ∈ visits (serve P) s cs, v.1.oc.batteryChargingDisabledOverride = true →
        .psmDispatch .enableBatteryCharging ∉ (serve P v.2 v.1).log) ↔
      ∀ v ∈ visits (serve P) s cs, v.1.oc.batteryChargingDisabledOverride = true →
        ∀ E, v.2 = .tick E → ¬ Resumes v.1 E := by
  refine forall₂_congr fun v _ => imp_congr_right fun _ => ?_
  rw [← traces_serve v.2 v.1 (P := P)]
  constructor
  · intro h l hl heq
    exact h (heq ▸ hl)
  · intro h hmem
    exact h _ hmem rfl

/-! ## The override is set and a paused battery is found -/

/-- A handheld on its charger with the battery at 50 %; bit 8 of `unk_x14` says whether it charges. -/
def onCharger (unk_x14 : UInt32) : Environment where
  fastChargeCurrentLimit := none
  chargeInfo := { unk_x14 := unk_x14, chargerType := 1 }
  batteryChargePercentage := some 50
  performanceMode := 0
  chargerType := .enoughPower
  iniModificationTime := 0
  iniEntries := []
  applicationId := 0x0100000000001000
  gamePatch _ := none
  globalPatch := none
  perfConfId := 0x00020003
  core3Util := 0

def stockClocks : Clocks where
  boostCpuFreq := 1785000000
  maxMemFreq := 1862400000
  freqTable := tablesOfLists [612000000, 1020000000, 1224000000, 1581000000, 1785000000]
    [76800000, 307200000, 384000000, 460800000, 768000000, 921600000]
    [665600000, 800000000, 1065600000, 1331200000, 1600000000, 1862400000]
  freqRange _ := { first := 0, last := 0, min := 0, max := fun _ => 0 }
  allowUnsafe := false
  isMariko := false

def stockHardware : SysClkModule → UInt32
  | .cpu => 1020000000
  | .gpu => 307000000
  | .mem => 1331200000

def pausedBattery : List (Call (SysClkModule → UInt32)) :=
  [.setEnabled true, .tick (onCharger 0x100), .waitForNextTick (onCharger 0x100),
    .setBatteryChargingDisabledOverride true, .tick (onCharger 0x100),
    .waitForNextTick (onCharger 0x100), .tick (onCharger 0)]

/-- The tick behind the override disables charging; the next one enables it again. -/
theorem charging_resumes_under_override :
    ¬ ∀ v ∈ visits (serve Hardware.exact) (new stockClocks false false stockHardware)
        pausedBattery, v.1.oc.batteryChargingDisabledOverride = true →
      .psmDispatch .enableBatteryCharging ∉ (serve Hardware.exact v.2 v.1).log := by
  intro h
  have hmem : ∃ v ∈ visits (serve Hardware.exact) (new stockClocks false false stockHardware)
      pausedBattery, v.1.oc.batteryChargingDisabledOverride = true ∧
        .psmDispatch .enableBatteryCharging ∈ (serve Hardware.exact v.2 v.1).log := by
    decide +kernel
  obtain ⟨v, hv, hset, henable⟩ := hmem
  exact h v hv hset henable

end SwitchOc.SysClk.ClockManager
