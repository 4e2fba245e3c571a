import SwitchOcSuite.SysClk.Capping

/-!
# The boost flag

`WaitForNextTick` leaves `systemCoreBoostCPU` set only where the boost is allowed,
except that it returns at once when the governor handles the CPU: a boost from
before that is kept, whatever has become of its reasons
(`boost_only_if_allowed_iff`, over whole sessions).
-/

namespace SwitchOc.SysClk.ClockManager

open Traced

variable {H : Type} {P : Hardware H} {E : Environment}

theorem restoreCpuHz_boost {s : ClockManager H} (h : (restoreCpuHz P s).result = .ok ()) :
    (restoreCpuHz P s).state.oc = s.oc := by
  unfold restoreCpuHz at h ⊢
  rw [gets_bind_run] at h ⊢
  obtain ⟨hz, hhz, -⟩ := bind_ok_iff.1 h
  rw [bind_of_ok hhz]
  rfl

/-- The flag behind the call. -/
def boostLeft (s : ClockManager H) (E : Environment) : Bool :=
  if s.governor.isHandledByGovernor .cpu then s.oc.systemCoreBoostCPU
  else s.boostOK && decide (BOOST_THRESHOLD ≤ E.core3Util)

theorem updateBoost_boost {s : ClockManager H} (h : (updateBoost P E s).result = .ok ()) :
    (updateBoost P E s).state.oc.systemCoreBoostCPU =
      decide (BOOST_THRESHOLD ≤ E.core3Util) := by
  unfold updateBoost setBoost at h ⊢
  rw [gets_bind_run] at h ⊢
  dsimp only at h ⊢
  rw [sets_bind_run] at h ⊢
  obtain ⟨u, hrestore, h⟩ := bind_ok_iff.1 h
  rw [bind_of_ok hrestore, after_state, gets_bind_run]
  have hoc : ∀ b : Bool, ∀ t : ClockManager H,
      ((if b then restoreCpuHz P else pure ()) t).result = .ok () →
        ((if b then restoreCpuHz P else pure ()) t).state.oc = t.oc := by
    intro b t hres
    cases b with
    | true => exact restoreCpuHz_boost hres
    | false => rfl
  have hkept := congrArg SysClkOcExtra.systemCoreBoostCPU (hoc _ _ hrestore)
  split
  · exact hkept
  · exact hkept

theorem waitForNextTick_boost {s : ClockManager H} (h : (waitForNextTick P E s).result = .ok ()) :
    (waitForNextTick P E s).state.oc.systemCoreBoostCPU = boostLeft s E := by
  unfold waitForNextTick at h ⊢
  unfold boostLeft
  rw [getState_bind_run] at h ⊢
  by_cases hgov : s.governor.isHandledByGovernor .cpu = true
  · rw [if_pos hgov, if_pos hgov]
    rfl
  · rw [if_neg hgov] at h ⊢
    rw [if_neg hgov]
    by_cases hok : s.boostOK = true
    · rw [if_pos hok] at h ⊢
      rw [updateBoost_boost h, hok, Bool.true_and]
    · rw [if_neg hok] at h ⊢
      rw [Bool.eq_false_iff.2 hok, Bool.false_and]
      by_cases hboost : s.oc.systemCoreBoostCPU = true
      · rw [if_pos hboost] at h ⊢
        unfold setBoost at h ⊢
        rw [sets_bind_run] at h ⊢
        rw [restoreCpuHz_boost h]
      · rw [if_neg hboost]
        exact Bool.eq_false_iff.2 hboost

/-- A boost that the call does not look at, as the governor handles the CPU. -/
def KeepsBoost (s : ClockManager H) : Prop :=
  s.governor.isHandledByGovernor .cpu = true ∧ s.oc.systemCoreBoostCPU = true ∧ s.boostOK = false

/-- **The boost flag is set behind a call only if the boost was allowed in it** (boost
configured, manager enabled, not in handheld mode, CPU not above the boost clock), for every
call of a session, iff no call of the session finds a boost that is not allowed any more with
the CPU in the hands of the governor. -/
theorem boost_only_if_allowed_iff (P : Hardware H) (s : ClockManager H) (cs : List (Call H)) :
    (∀ v ∈ visits (serve P) s cs, ∀ E, v.2 = .waitForNextTick E →
        (waitForNextTick P E v.1).result = .ok () →
        (waitForNextTick P E v.1).state.oc.systemCoreBoostCPU = true → v.1.boostOK = true) ↔
      ∀ v ∈ visits (serve P) s cs, ∀ E, v.2 = .waitForNextTick E → ¬ KeepsBoost v.1 := by
  refine forall₂_congr fun v _ => forall₂_congr fun E _ => ?_
  unfold KeepsBoost
  constructor
  · rintro h ⟨hgov, hboost, hok⟩
    have hres : (waitForNextTick P E v.1).result = .ok () := by
      unfold waitForNextTick
      rw [getState_bind_run, if_pos hgov]
      rfl
    have hleft : (waitForNextTick P E v.1).state.oc.systemCoreBoostCPU = true := by
      rw [waitForNextTick_boost hres, boostLeft, if_pos hgov, hboost]
    rw [h hres hleft] at hok
    cases hok
  · intro h hres hleft
    rw [waitForNextTick_boost hres, boostLeft] at hleft
    split at hleft
    · rename_i hgov
      exact Bool.not_eq_false _ ▸ fun hok => h ⟨hgov, hleft, hok⟩
    · exact ((Bool.and_eq_true _ _).mp hleft).1

/-! ## The governor takes the CPU over while it is boosted -/

/-- Off the charger, with the governor switched on in the configuration. -/
def unpluggedWithGovernor : Environment :=
  { onChargerWithBoost 950 with
    chargerType := .unconnected
    iniModificationTime := 2
    iniEntries := [("values".toList, "auto_cpu_boost".toList, "1".toList),
      ("values".toList, "governor_experimental".toList, "1".toList)] }

def governedBoost : List (Call (SysClkModule → UInt32)) :=
  loadedSystemCore ++ [.tick unpluggedWithGovernor, .waitForNextTick unpluggedWithGovernor]

/-- In handheld mode the boost is not allowed; the flag is still set. -/
theorem governedBoost_kept :
    ¬ ∀ v ∈ visits (serve Hardware.exact) (new stockClocks false false stockHardware)
        governedBoost, ∀ E, v.2 = .waitForNextTick E →
        (waitForNextTick Hardware.exact E v.1).result = .ok () →
        (waitForNextTick Hardware.exact E v.1).state.oc.systemCoreBoostCPU = true →
          v.1.boostOK = true := by
  intro h
  have hmem : ∃ v ∈ visits (serve Hardware.exact) (new stockClocks false false stockHardware)
      governedBoost, v.2.waitWith fun E =>
        (waitForNextTick Hardware.exact E v.1).result = .ok () ∧
        (waitForNextTick Hardware.exact E v.1).state.oc.systemCoreBoostCPU = true ∧
        v.1.boostOK = false := by
    decide +kernel
  obtain ⟨v, hv, hwait⟩ := hmem
  obtain ⟨E, hE, hkept⟩ := Call.exists_of_waitWith hwait
  obtain ⟨hres, hleft, hok⟩ := of_decide_eq_true hkept
  rw [h v hv E hE hres hleft] at hok
  cases hok

end SwitchOc.SysClk.ClockManager
