import Mathlib.Data.Nat.Init
import SwitchOcSuite.SysClk.Charging
import SwitchOcSuite.SysClk.Refresh
import SwitchOcSuite.SysClk.Targets

/-!
# Capping

A requested clock is replaced by an entry of the range that ends with the cap.  What
comes behind that in `GetHz` (the boost clock and the default of the CPU), and the boost
clock that `WaitForNextTick` sets, is not compared with the cap any more.

    getHz_le_cap          the conditions under which a target lies within the cap
    clocks_within_caps    with them, every clock that a session sets does
-/

namespace SwitchOc.SysClk.ClockManager

open Traced

variable {H : Type} {P : Hardware H} {E : Environment}

/-! ## Entries of a range -/

/-- No entry in front of the cap lies above it, as in every ascending table. -/
def RangeCapped (s : ClockManager H) (module : SysClkModule) : Prop :=
  ∀ p, (s.clocks.freqRange module).min ≤ p →
    p < (s.clocks.freqRange module).max s.oc.realProfile → s.clocks.freqTable p ≤ s.cap module

instance (s : ClockManager H) (module : SysClkModule) : Decidable (RangeCapped s module) :=
  inferInstanceAs (Decidable (∀ p, (s.clocks.freqRange module).min ≤ p →
    p < (s.clocks.freqRange module).max s.oc.realProfile → s.clocks.freqTable p ≤ s.cap module))

/-- The nearest entry lies within the cap, and is `0` only with the cap. -/
theorem getNearestHz_le_cap {s : ClockManager H} {module : SysClkModule}
    (h : RangeCapped s module) {inHz hz : UInt32} (hne : inHz ≠ 0)
    (hnear : s.clocks.getNearestHz module s.oc.realProfile inHz = .ok hz) :
    hz ≤ s.cap module ∧ (hz = 0 → s.cap module = 0) := by
  rcases Clocks.getNearestHz_cases hnear with rfl | ⟨p, hlo, hhi, rfl, hfreq⟩
  · exact ⟨UInt32.le_refl _, id⟩
  · refine ⟨h p hlo hhi, fun hzero => absurd ?_ hne⟩
    rw [hzero] at hfreq
    exact UInt32.le_zero_iff.1 hfreq

/-- The default of 1020 MHz is not needed, or lies within the cap. -/
def DefaultCapped (s : ClockManager H) : Prop :=
  s.requestedHz .cpu = 0 ∨ s.cap .cpu = 0 → 1020000000 ≤ s.cap .cpu

instance (s : ClockManager H) : Decidable (DefaultCapped s) :=
  inferInstanceAs (Decidable (s.requestedHz .cpu = 0 ∨ s.cap .cpu = 0 → _))

def BoostCapped (s : ClockManager H) : Prop := s.clocks.boostCpuFreq ≤ s.cap .cpu

instance (s : ClockManager H) : Decidable (BoostCapped s) :=
  inferInstanceAs (Decidable (s.clocks.boostCpuFreq ≤ s.cap .cpu))

/-- Behind the cap, a clock is only raised to the boost clock or to the default. -/
theorem boostedHz_le_cap {s : ClockManager H} {module : SysClkModule} {near hz : UInt32}
    (hnear : near ≤ s.cap module)
    (hdefault : near = 0 → module = .cpu → 1020000000 ≤ s.cap .cpu)
    (h : hz = s.boostedHz module near) :
    hz ≤ s.cap module ∨
      module = .cpu ∧ s.oc.systemCoreBoostCPU = true ∧ hz = s.clocks.boostCpuFreq := by
  unfold boostedHz at h
  by_cases hcpu : module = .cpu
  · subst hcpu
    rw [if_pos rfl] at h
    by_cases hboost : (s.oc.systemCoreBoostCPU && decide (near < s.clocks.boostCpuFreq)) = true
    · rw [if_pos hboost] at h
      exact .inr ⟨rfl, (Bool.and_eq_true _ _ ▸ hboost).1, h⟩
    · rw [if_neg hboost] at h
      by_cases hzero : near = 0
      · rw [if_pos hzero] at h
        exact .inl (h ▸ hdefault hzero rfl)
      · rw [if_neg hzero] at h
        exact .inl (h ▸ hnear)
  · rw [if_neg hcpu] at h
    exact .inl (h ▸ hnear)

/-- A target lies within the cap, unless it is the boost clock. -/
theorem getHz_le_cap {s : ClockManager H} {module : SysClkModule} {hz : UInt32}
    (hrange : RangeCapped s module) (hdefault : module = .cpu → DefaultCapped s)
    (h : s.getHz module = .ok hz) :
    hz ≤ s.cap module ∨
      module = .cpu ∧ s.oc.systemCoreBoostCPU = true ∧ hz = s.clocks.boostCpuFreq := by
  unfold getHz at h
  dsimp only at h
  by_cases hreq : s.requestedHz module ≠ 0
  · rw [if_pos hreq] at h
    cases hnear : s.clocks.getNearestHz module s.oc.realProfile (s.requestedHz module) with
    | error fault =>
      rw [hnear] at h
      cases h
    | ok near =>
      rw [hnear] at h
      obtain ⟨hle, hzero⟩ := getNearestHz_le_cap hrange hreq hnear
      refine boostedHz_le_cap hle ?_ (Except.ok.inj h).symm
      rintro hnone rfl
      exact hdefault rfl (.inr (hzero hnone))
  · rw [if_neg hreq] at h
    refine boostedHz_le_cap UInt32.zero_le ?_ (Except.ok.inj h).symm
    rintro - rfl
    exact hdefault rfl (.inl (not_not.1 hreq))

/-! ## Clocks that are set -/

/-- A clock rate of the CPU or the GPU that is not a reset lies within the cap. -/
def WithinCap : Access → Prop
  | .setHz caller module hz cap => caller = .resetToStock ∨ module = .mem ∨ hz ≤ cap
  | _ => True

instance : DecidablePred WithinCap := fun l => by
  cases l <;> unfold WithinCap <;> infer_instance

/-- What a tick needs of a module, in the state that `RefreshContext` leaves.  In the boost
mode of the system the boost clock is not set. -/
structure TargetCapped (s : ClockManager H) (module : SysClkModule) : Prop where
  range : RangeCapped s module
  default : module = .cpu → DefaultCapped s
  boost : module = .cpu → s.oc.systemCoreBoostCPU = true →
    apmExtIsBoostMode s.context.perfConfId = false → BoostCapped s

instance (s : ClockManager H) (module : SysClkModule) : Decidable (TargetCapped s module) :=
  decidable_of_iff
    (RangeCapped s module ∧ (module = .cpu → DefaultCapped s) ∧
      (module = .cpu → s.oc.systemCoreBoostCPU = true →
        apmExtIsBoostMode s.context.perfConfId = false → BoostCapped s))
    ⟨fun ⟨h₁, h₂, h₃⟩ => ⟨h₁, h₂, h₃⟩, fun h => ⟨h.range, h.default, h.boost⟩⟩

theorem TargetCapped.le_cap {s : ClockManager H} {module : SysClkModule}
    (h : TargetCapped s module) {hz : UInt32} (hhz : s.getHz module = .ok hz)
    (hskip : s.skipBoost module hz = false) : hz ≤ s.cap module := by
  rcases getHz_le_cap h.range h.default hhz with hle | ⟨rfl, hboost, rfl⟩
  · exact hle
  · refine h.boost rfl hboost ?_
    simpa [skipBoost] using hskip

theorem needsSetting_iff {s : ClockManager H} {module : SysClkModule} {hz : UInt32} :
    s.needsSetting module hz = true ↔ hz ≠ 0 ∧ hz ≠ s.context.freqs module ∧
      s.governor.isHandledByGovernor module = false ∧ s.skipBoost module hz = false := by
  unfold needsSetting
  simp [and_assoc]

theorem withinCap_applyClock {module : SysClkModule} {s : ClockManager H}
    (h : module ≠ .mem → s.governor.isHandledByGovernor module = false → TargetCapped s module) :
    Traces WithinCap (applyClock P module) s := by
  unfold applyClock
  rw [traces_gets_bind]
  refine traces_bind.2 ⟨stays_ofExcept _ s, fun hz hhz => ?_⟩
  rw [ofExcept_run] at hhz ⊢
  refine traces_bind.2 ⟨stays_setGovernorBounds module hz s, fun u hbounds => ?_⟩
  obtain ⟨g, hg, hstate⟩ := setGovernorBounds_ok hbounds
  have hretuned : Retuned s { s with governor := g } := ⟨g, s.context.freqs, s.hw, hg, rfl⟩
  rw [hstate, traces_gets_bind]
  split
  · rename_i hneeded
    rw [hretuned.needsSetting rfl] at hneeded
    obtain ⟨-, -, hgov, hskip⟩ := needsSetting_iff.1 hneeded
    refine traces_bind.2 ⟨?_, fun _ _ => stays_sets _ _⟩
    intro l hl
    rw [List.mem_singleton.1 hl]
    by_cases hmem : module = .mem
    · exact .inr (.inl hmem)
    · refine .inr (.inr ?_)
      rw [hretuned.cap]
      exact (h hmem hgov).le_cap hhz hskip
  · exact traces_pure () _

/-- The loop of a tick: what holds of the targets at its start holds at every turn. -/
theorem withinCap_applyClocks {s : ClockManager H}
    (h : ∀ m, m ≠ .mem → s.governor.isHandledByGovernor m = false → TargetCapped s m) :
    Traces WithinCap (Prog.forEach SysClkModule.all (applyClock P)) s := by
  refine traces_forEach_of_invariant (I := Retuned s) ?_ ?_ (Retuned.refl s)
  · intro m _ s' hs' hres
    obtain ⟨hz, -, hturn, -⟩ := applyClock_ok hres
    exact hs'.trans hturn
  · intro m _ s' hs'
    refine withinCap_applyClock fun hm hgov => ?_
    obtain ⟨hrange, hdefault, hboost⟩ := h m hm ((hs'.isHandledByGovernor m).symm.trans hgov)
    obtain ⟨g, freqs, hw, -, rfl⟩ := hs'
    exact ⟨hrange, hdefault, hboost⟩

/-- `ResetToStock` and the charging handler are not held to the cap. -/
theorem stays_refreshContext : Stays WithinCap (refreshContext P E) :=
  stays_bind (stays_chargingHandler (fun _ => trivial) (fun _ => trivial) E) fun _ =>
    stays_refreshState (fun _ _ _ => .inl rfl) (fun _ => trivial)

theorem withinCap_restoreCpuHz {s : ClockManager H} (hoff : s.oc.systemCoreBoostCPU = false)
    (hrange : RangeCapped s .cpu) (hdefault : DefaultCapped s) :
    Traces WithinCap (restoreCpuHz P) s := by
  unfold restoreCpuHz
  rw [traces_gets_bind]
  refine traces_bind.2 ⟨stays_ofExcept _ s, fun hz hhz => ?_⟩
  intro l hl
  rw [List.mem_singleton.1 hl]
  refine .inr (.inr ?_)
  rcases getHz_le_cap hrange (fun _ => hdefault) hhz with hle | ⟨-, hboost, -⟩
  · exact hle
  · rw [hoff] at hboost
    cases hboost

/-- What a call needs so that the clocks it sets lie within the caps. -/
def CapsHold (P : Hardware H) (s : ClockManager H) : Call H → Prop
  | .tick E =>
    (refreshContext P E s).result = .ok true →
      (refreshContext P E s).state.context.enabled = true →
      ∀ m, m ≠ .mem → (refreshContext P E s).state.governor.isHandledByGovernor m = false →
        TargetCapped (refreshContext P E s).state m
  | .waitForNextTick E =>
    s.governor.isHandledByGovernor .cpu = false →
      -- the boost is switched off
      (s.oc.systemCoreBoostCPU = true → (s.boostOK = true → E.core3Util < BOOST_THRESHOLD) →
        RangeCapped s .cpu ∧ DefaultCapped s) ∧
      -- the boost is switched on
      (s.oc.systemCoreBoostCPU = false → s.boostOK = true → BOOST_THRESHOLD ≤ E.core3Util →
        BoostCapped s)
  | _ => True

instance (P : Hardware H) (s : ClockManager H) (c : Call H) : Decidable (CapsHold P s c) := by
  cases c <;> unfold CapsHold <;> infer_instance

theorem withinCap_tick {s : ClockManager H} (h : CapsHold P s (.tick E)) :
    Traces WithinCap (tick P E) s := by
  refine traces_bind.2 ⟨stays_refreshContext s, fun hasChanged hres => ?_⟩
  rw [traces_gets_bind]
  split
  · rename_i hrun
    obtain ⟨rfl, henabled⟩ := (Bool.and_eq_true _ _).mp hrun
    exact withinCap_applyClocks (h hres henabled)
  · exact traces_pure () _

theorem withinCap_updateBoost {s : ClockManager H}
    (hoff : s.oc.systemCoreBoostCPU = true → E.core3Util < BOOST_THRESHOLD →
      RangeCapped s .cpu ∧ DefaultCapped s)
    (hon : s.oc.systemCoreBoostCPU = false → BOOST_THRESHOLD ≤ E.core3Util → BoostCapped s) :
    Traces WithinCap (updateBoost P E) s := by
  unfold updateBoost setBoost
  rw [traces_gets_bind]
  refine traces_bind.2 ⟨stays_sets _ s, fun u _ => ?_⟩
  rw [sets_run]
  by_cases hutil : BOOST_THRESHOLD ≤ E.core3Util
  · -- no boost is switched off, and the caps are those of `s`
    rw [decide_eq_true hutil, Bool.not_true, Bool.and_false, if_neg Bool.false_ne_true]
    refine traces_bind.2 ⟨traces_pure () _, fun u _ => ?_⟩
    rw [pure_run, traces_gets_bind, Bool.and_true]
    split
    · rename_i hlast
      intro l hl
      rw [List.mem_singleton.1 hl]
      exact .inr (.inr (hon (by simpa using hlast) hutil))
    · exact traces_pure () _
  · rw [decide_eq_false hutil, Bool.not_false, Bool.and_true]
    refine traces_bind.2 ⟨?_, fun u _ => ?_⟩
    · split
      · rename_i hlast
        obtain ⟨hrange, hdefault⟩ := hoff hlast (UInt32.not_le.1 hutil)
        exact withinCap_restoreCpuHz rfl hrange hdefault
      · exact traces_pure () _
    · rw [traces_gets_bind, Bool.and_false, if_neg Bool.false_ne_true]
      exact traces_pure () _

theorem withinCap_waitForNextTick {s : ClockManager H} (h : CapsHold P s (.waitForNextTick E)) :
    Traces WithinCap (waitForNextTick P E) s := by
  unfold waitForNextTick
  refine traces_bind.2 ⟨stays_getState s, fun t ht => ?_⟩
  obtain rfl : s = t := Except.ok.inj ht
  show Traces WithinCap (if _ then _ else _) s
  by_cases hgov : s.governor.isHandledByGovernor .cpu = true
  · rw [if_pos hgov]
    exact traces_pure () s
  · rw [if_neg hgov]
    obtain ⟨hoff, hon⟩ := h (Bool.eq_false_iff.2 hgov)
    by_cases hok : s.boostOK = true
    · rw [if_pos hok]
      exact withinCap_updateBoost (fun hb hlow => hoff hb fun _ => hlow) fun hb => hon hb hok
    · rw [if_neg hok]
      split
      · rename_i hboost
        obtain ⟨hrange, hdefault⟩ := hoff hboost fun h => absurd h hok
        refine traces_bind.2 ⟨stays_sets _ s, fun u _ => ?_⟩
        exact withinCap_restoreCpuHz rfl hrange hdefault
      · exact traces_pure () s

theorem withinCap_serve {s : ClockManager H} {c : Call H} (h : CapsHold P s c) :
    Traces WithinCap (serve P c) s := by
  cases c with
  | tick E => exact withinCap_tick h
  | waitForNextTick E => exact withinCap_waitForNextTick h
  | setEnabled enabled => exact stays_sets _ s
  | setOverride module hz => exact stays_sets _ s
  | setReverseNXRTMode mode => exact stays_sets _ s
  | setBatteryChargingDisabledOverride toggle_true => exact stays_sets _ s
  | setProfiles tid profiles saved =>
    refine stays_bind (stays_gets _) (fun t => stays_ite ?_ (stays_pure _)) s
    exact stays_bind (stays_ofExcept _) fun _ => stays_sets _
  | setConfigValues values saved => exact stays_sets _ s
  | moveClocks hw => exact stays_sets _ s

/-- **Capping.**  In a session whose calls all have what they need, every clock of the CPU and
the GPU that the manager sets, resets apart, lies within the cap of the real profile. -/
theorem clocks_within_caps (P : Hardware H) (s : ClockManager H) (cs : List (Call H))
    (h : ∀ v ∈ visits (serve P) s cs, CapsHold P v.1 v.2) :
    ∀ v ∈ visits (serve P) s cs, ∀ l ∈ (serve P v.2 v.1).log, WithinCap l :=
  fun v hv => withinCap_serve (h v hv)

/-! ## A boost clock above the cap -/

/-- Tables whose boost clock is the last entry, above the safe 1785 MHz of the other SoC. -/
def fastBoostClocks : Clocks :=
  { stockClocks with
    boostCpuFreq := 1963500000
    freqTable := tablesOfLists [612000000, 1020000000, 1224000000, 1785000000, 1963500000]
      [76800000, 307200000, 384000000, 460800000, 768000000, 921600000]
      [665600000, 800000000, 1065600000, 1331200000, 1600000000, 1862400000] }

/-- On the charger, with the boost switched on in the configuration. -/
def onChargerWithBoost (core3Util : UInt32) : Environment :=
  { onCharger 0x100 with
    iniModificationTime := 1
    iniEntries := [("values".toList, "auto_cpu_boost".toList, "1".toList)]
    core3Util := core3Util }

def loadedSystemCore : List (Call (SysClkModule → UInt32)) :=
  [.setEnabled true, .tick (onChargerWithBoost 0), .waitForNextTick (onChargerWithBoost 950)]

/-- With the boost clock of the shipped tables, 1785 MHz, the same session keeps to the caps. -/
theorem clocks_within_caps_loadedSystemCore :
    (visits (serve Hardware.exact) (new stockClocks false false stockHardware)
        loadedSystemCore).Forall fun v =>
      ∀ l ∈ (serve Hardware.exact v.2 v.1).log, WithinCap l :=
  List.forall_iff_forall_mem.2 (clocks_within_caps Hardware.exact _ _ (by decide +kernel))

/-- Without unsafe frequencies the CPU may run at 1785 MHz; it is set to 1963.5 MHz. -/
theorem boost_above_cap :
    ¬ ∀ v ∈ visits (serve Hardware.exact) (new fastBoostClocks false false stockHardware)
        loadedSystemCore, ∀ l ∈ (serve Hardware.exact v.2 v.1).log, WithinCap l := by
  decide +kernel

end SwitchOc.SysClk.ClockManager
