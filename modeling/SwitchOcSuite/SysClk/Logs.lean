import SwitchOcSuite.SysClk.ClockManager

/-!
# What the calls of the manager log

A predicate `Q` on accesses holds of everything that a program logs as soon as
it holds of the kinds of access that the program makes.
-/

namespace SwitchOc.SysClk.ClockManager

open Traced

variable {H : Type} {P : Hardware H} {E : Environment} {Q : Access → Prop}

/-! ## Readings -/

/-- Comparing the readings with what is stored logs nothing. -/
theorem stays_refreshSources (E : Environment) : Stays Q (refreshSources (H := H) E) := by
  refine stays_bind ?_ fun _ => stays_bind ?_ fun _ => stays_bind ?_ fun _ => stays_bind ?_ fun _ =>
    stays_bind (stays_sets _) fun _ => stays_bind ?_ fun _ => ?_
  · refine stays_bind (stays_gets _) fun _ => ?_
    exact stays_ite (stays_bind (stays_sets _) fun _ => stays_pure _) (stays_pure _)
  · refine stays_bind (stays_gets _) fun _ => stays_bind (stays_sets _) fun _ => ?_
    refine stays_ite (stays_bind ?_ fun _ => stays_pure _) (stays_pure _)
    refine stays_bind (stays_sets _) fun _ => stays_bind (stays_sets _) fun _ => ?_
    refine stays_bind (stays_sets _) fun _ => stays_bind (stays_gets _) fun _ => ?_
    exact stays_bind (stays_ofExcept _) fun _ => stays_sets _
  · refine stays_bind stays_getState fun _ => ?_
    exact stays_ite (stays_bind (stays_sets _) fun _ => stays_pure _) (stays_pure _)
  · refine stays_bind (stays_gets _) fun _ => ?_
    exact stays_ite (stays_bind (stays_sets _) fun _ => stays_pure _) (stays_pure _)
  · refine stays_bind (stays_gets _) fun _ => stays_ite ?_ (stays_pure _)
    refine stays_bind (stays_sets _) fun _ => stays_bind (stays_ofExcept _) fun _ => ?_
    exact stays_bind (stays_sets _) fun _ => stays_pure _
  · refine stays_bind (stays_gets _) fun _ => stays_bind (stays_gets _) fun _ => ?_
    exact stays_bind (stays_sets _) fun _ => stays_ite (stays_pure _) (stays_pure _)

/-! ## Charging -/

theorem stays_dispatchWhen (hdispatch : ∀ cmd, Q (.psmDispatch cmd)) (c : Bool)
    (cmd : IPsmServerCmd) : Stays Q (dispatchWhen (H := H) c cmd) :=
  stays_ite (stays_emits (fun _ => hdispatch cmd) id) (stays_pure ())

/-- The charging handler sets the charge current and switches charging. -/
theorem stays_chargingHandler (hcurrent : ∀ ma, Q (.setFastChargeCurrentLimit ma))
    (hdispatch : ∀ cmd, Q (.psmDispatch cmd)) (E : Environment) :
    Stays Q (chargingHandler (H := H) E) := by
  refine stays_bind ?_ fun _ => stays_ite ?_ (stays_pure ())
  · unfold limitChargingCurrent
    cases E.fastChargeCurrentLimit with
    | none => exact stays_pure ()
    | some current =>
      refine stays_bind (stays_gets _) fun _ => ?_
      exact stays_ite (stays_emits (fun _ => hcurrent _) id) (stays_pure ())
  · cases E.batteryChargePercentage with
    | none => exact stays_pure ()
    | some chargeNow =>
      refine stays_bind (stays_gets _) fun _ => stays_bind (stays_gets _) fun _ => ?_
      exact stays_bind (stays_dispatchWhen hdispatch _ _) fun _ =>
        stays_dispatchWhen hdispatch _ _

/-! ## Resets -/

section Resets

variable (hreset : ∀ m hz cap, Q (.setHz .resetToStock m hz cap))
  (hmode : ∀ mode, Q (.requestPerformanceMode mode))

include hreset hmode

theorem stays_resetToStock (module : Option SysClkModule) :
    Stays Q (resetToStock P E module) := by
  refine stays_ite ?_ (stays_emits (fun _ => hmode _) _)
  refine stays_bind (stays_ofExcept _) fun apm => ?_
  refine stays_bind (stays_gets _) fun isMariko => ?_
  refine stays_forEach fun m _ => ?_
  exact stays_ite (stays_emits (fun _ => hreset _ _ _) _) (stays_pure ())

theorem stays_refreshModule (module : SysClkModule) (hasChanged : Bool) :
    Stays Q (refreshModule P E module hasChanged) := by
  refine stays_bind ?_ fun hasChanged => ?_
  · refine stays_bind stays_getState fun s => ?_
    refine stays_ite (stays_bind (stays_sets _) fun _ => ?_) (stays_pure _)
    exact stays_ite (stays_pure _) (stays_pure _)
  · refine stays_bind stays_getState fun s => ?_
    refine stays_ite (stays_bind ?_ fun _ => ?_) (stays_pure _)
    · exact stays_ite (stays_pure _) (stays_resetToStock hreset hmode _)
    · exact stays_bind (stays_sets _) fun _ => stays_pure _

/-- Behind the charging handler, `RefreshContext` only resets clocks. -/
theorem stays_refreshState : Stays Q (refreshState P E) := by
  refine stays_bind (stays_refreshSources E) fun _ => stays_bind ?_ fun _ =>
    stays_foldEach (stays_refreshModule hreset hmode) _ _
  refine stays_bind (stays_gets _) fun _ => ?_
  exact stays_ite (stays_resetToStock hreset hmode _) (stays_pure _)

end Resets

/-! ## Target clocks -/

theorem stays_setGovernorBounds (module : SysClkModule) (hz : UInt32) :
    Stays Q (setGovernorBounds (H := H) module hz) := by
  refine stays_bind (stays_sets _) fun _ => stays_bind (stays_gets _) fun _ => ?_
  exact stays_bind (stays_ofExcept _) fun _ => stays_sets _

section Clocks

variable (hset : ∀ caller m hz cap, Q (.setHz caller m hz cap))

include hset

theorem stays_applyClock (module : SysClkModule) : Stays Q (applyClock P module) := by
  refine stays_bind (stays_gets _) fun _ => stays_bind (stays_ofExcept _) fun _ => ?_
  refine stays_bind (stays_setGovernorBounds _ _) fun _ => stays_bind (stays_gets _) fun _ => ?_
  refine stays_ite (stays_bind (stays_emits (fun _ => hset _ _ _ _) _) fun _ => stays_sets _) ?_
  exact stays_pure _

theorem stays_restoreCpuHz : Stays Q (restoreCpuHz P) := by
  refine stays_bind (stays_gets _) fun _ => stays_bind (stays_ofExcept _) fun _ => ?_
  exact stays_emits (fun _ => hset _ _ _ _) _

theorem stays_waitForNextTick : Stays Q (waitForNextTick P E) := by
  refine stays_bind stays_getState fun s => ?_
  refine stays_ite (stays_pure _) (stays_ite ?_ (stays_ite ?_ (stays_pure _)))
  · refine stays_bind (stays_gets _) fun _ => stays_bind (stays_sets _) fun _ => ?_
    refine stays_bind (stays_ite (stays_restoreCpuHz hset) (stays_pure _)) fun _ => ?_
    refine stays_bind (stays_gets _) fun _ => ?_
    exact stays_ite (stays_emits (fun _ => hset _ _ _ _) _) (stays_pure _)
  · exact stays_bind (stays_sets _) fun _ => stays_restoreCpuHz hset

end Clocks

end SwitchOc.SysClk.ClockManager
