import SwitchOcSuite.SysClk.Charging
import SwitchOcSuite.SysClk.Refresh
import SwitchOcSuite.SysClk.Targets

/-!
# A tick against the clocks

`Tick` compares a target with the clock that `RefreshContext` remembers.  The reset
for a removed override comes behind the reading, so the memory can be out of date,
and a target that agrees with it is not set (`tick_applies_iff`, over whole sessions).
-/

namespace SwitchOc.SysClk.ClockManager

open Function Traced

variable {H : Type} {P : Hardware H} {E : Environment}

/-! ## The clocks behind `RefreshContext` -/

theorem foldl_setClockRate (hP : Honours P) (p : SysClkModule → Prop) [DecidablePred p]
    (rate : SysClkModule → UInt32) (ms : List SysClkModule) (hw : H) (m : SysClkModule) :
    P.getClockRate (ms.foldl (fun hw m => if p m then P.setClockRate hw m (rate m) else hw) hw) m =
      if m ∈ ms ∧ p m then rate m else P.getClockRate hw m := by
  induction ms generalizing hw with
  | nil => simp
  | cons module ms ih =>
    rw [List.foldl_cons, ih]
    by_cases hm : m = module
    · subst hm
      by_cases hp : p m
      · simp [hp, hP.get_set]
      · simp [hp]
    · have hkept : P.getClockRate (if p module then P.setClockRate hw module (rate module) else hw) m
          = P.getClockRate hw m := by
        split
        · exact hP.get_set_of_ne _ _ _ _ hm
        · rfl
      rw [hkept]
      simp [hm]

/-- From firmware 9.0.0 on, the modules meant go back to stock and the others stay. -/
theorem getClockRate_resetHw (hP : Honours P) (hos : P.hosAtLeast900 = true) (isMariko : Bool)
    (module : Option SysClkModule) (hw : H) (m : SysClkModule) :
    P.getClockRate (resetHw P E isMariko module hw) m =
      if module = none ∨ module = some m then stockClock E isMariko m else P.getClockRate hw m := by
  unfold resetHw
  rw [if_pos hos, foldl_setClockRate hP]
  simp

/-- The clock that is read, from firmware 9.0.0 on: stock if a source has changed
outside of boost mode. -/
def clockRead (P : Hardware H) (s : ClockManager H) (E : Environment) (m : SysClkModule) : UInt32 :=
  if sourceChanged s E && !apmExtIsBoostMode E.perfConfId then stockClock E s.clocks.isMariko m
  else P.getClockRate s.hw m

theorem foldl_visitClock (hP : Honours P) (hos : P.hosAtLeast900 = true)
    (removed : SysClkModule → Bool) (isMariko : Bool) {ms : List SysClkModule} (hnd : ms.Nodup)
    (x : H × (SysClkModule → UInt32)) (m : SysClkModule) :
    P.getClockRate (ms.foldl (visitClock P E removed isMariko) x).1 m =
        (if m ∈ ms ∧ removed m then stockClock E isMariko m else P.getClockRate x.1 m) ∧
      (ms.foldl (visitClock P E removed isMariko) x).2 m =
        if m ∈ ms then keepClock (P.getClockRate x.1 m) (x.2 m) else x.2 m := by
  induction ms generalizing x with
  | nil => simp
  | cons module ms ih =>
    obtain ⟨hnotin, hnd⟩ := List.nodup_cons.1 hnd
    obtain ⟨hleft, hremembered⟩ := ih hnd (visitClock P E removed isMariko x module)
    rw [List.foldl_cons, hleft, hremembered]
    have hclock : P.getClockRate (visitClock P E removed isMariko x module).1 m =
        if m = module ∧ removed m then stockClock E isMariko m else P.getClockRate x.1 m := by
      unfold visitClock
      by_cases hm : m = module
      · subst hm
        cases hr : removed m <;> simp [getClockRate_resetHw hP hos]
      · cases hr : removed module <;> simp [getClockRate_resetHw hP hos, hm, Ne.symm hm]
    rw [hclock]
    by_cases hm : m = module
    · subst hm
      cases hr : removed m <;> simp [hnotin, visitClock]
    · simp [hm, visitClock]

/-- From firmware 9.0.0 on, in closed form: a removed override means stock, and what is
remembered was read before. -/
theorem clocksLeft_of_hos900 (hP : Honours P) (hos : P.hosAtLeast900 = true) (s : ClockManager H)
    (E : Environment) (m : SysClkModule) :
    P.getClockRate (clocksLeft P s E).1 m =
        (if overrideRemoved s m then stockClock E s.clocks.isMariko m else clockRead P s E m) ∧
      (clocksLeft P s E).2 m = keepClock (clockRead P s E m) (s.context.freqs m) := by
  have hread : P.getClockRate (clocksRead P s E) m = clockRead P s E m := by
    unfold clocksRead clockRead
    split
    · rw [getClockRate_resetHw hP hos]
      simp
    · rfl
  obtain ⟨hleft, hremembered⟩ := foldl_visitClock (E := E) hP hos (overrideRemoved s)
    s.clocks.isMariko (show SysClkModule.all.Nodup by decide)
    (clocksRead P s E, s.context.freqs) m
  unfold clocksLeft
  rw [hleft, hremembered, hread]
  simp

/-! ## A whole tick -/

/-- After the tick the module has the target `hz`, and neither the governor nor the boost
mode excuses it. -/
structure Due (P : Hardware H) (s : ClockManager H) (E : Environment) (m : SysClkModule)
    (hz : UInt32) : Prop where
  returned : (tick P E s).result = .ok ()
  changed : (refreshContext P E s).result = .ok true
  enabled : (tick P E s).state.context.enabled = true
  target : (tick P E s).state.getHz m = .ok hz
  target_ne : hz ≠ 0
  notGoverned : (tick P E s).state.governor.isHandledByGovernor m = false
  notSkipped : (tick P E s).state.skipBoost m hz = false

instance (P : Hardware H) (s : ClockManager H) (E : Environment) (m : SysClkModule)
    (hz : UInt32) : Decidable (Due P s E m hz) :=
  decidable_of_iff
    ((tick P E s).result = .ok () ∧ (refreshContext P E s).result = .ok true ∧
      (tick P E s).state.context.enabled = true ∧ (tick P E s).state.getHz m = .ok hz ∧ hz ≠ 0 ∧
      (tick P E s).state.governor.isHandledByGovernor m = false ∧
      (tick P E s).state.skipBoost m hz = false)
    ⟨fun ⟨h₁, h₂, h₃, h₄, h₅, h₆, h₇⟩ => ⟨h₁, h₂, h₃, h₄, h₅, h₆, h₇⟩,
      fun h => ⟨h.returned, h.changed, h.enabled, h.target, h.target_ne, h.notGoverned,
        h.notSkipped⟩⟩

/-- What is remembered of the clock agrees with `hz`, but the clock does not.  From firmware
9.0.0 on: it read `hz` (or `0`, and `hz` before) and is then reset for a removed override. -/
def Overlooked (P : Hardware H) (s : ClockManager H) (E : Environment) (m : SysClkModule)
    (hz : UInt32) : Prop :=
  if P.hosAtLeast900 then
    keepClock (clockRead P s E m) (s.context.freqs m) = hz ∧
      (if overrideRemoved s m then stockClock E s.clocks.isMariko m else clockRead P s E m) ≠ hz
  else (clocksLeft P s E).2 m = hz ∧ P.getClockRate (clocksLeft P s E).1 m ≠ hz

theorem overlooked_iff (hP : Honours P) (s : ClockManager H) (E : Environment) (m : SysClkModule)
    (hz : UInt32) :
    Overlooked P s E m hz ↔
      (clocksLeft P s E).2 m = hz ∧ P.getClockRate (clocksLeft P s E).1 m ≠ hz := by
  unfold Overlooked
  split
  · rename_i hos
    obtain ⟨hleft, hremembered⟩ := clocksLeft_of_hos900 hP hos s E m
    rw [hleft, hremembered]
  · rfl

/-- A module that is due runs at its target, unless that was overlooked. -/
theorem runs_iff_not_overlooked (hP : Honours P) {s : ClockManager H} {m : SysClkModule}
    {hz : UInt32} (h : Due P s E m hz) :
    P.getClockRate (tick P E s).state.hw m = hz ↔ ¬ Overlooked P s E m hz := by
  obtain ⟨hasChanged, hrefresh, hloop⟩ := tick_ok h.returned
  obtain rfl : hasChanged = true := Except.ok.inj (hrefresh.symm.trans h.changed)
  obtain ⟨-, hclocks, -⟩ := refreshContext_ok hrefresh
  have henabled : (refreshContext P E s).state.context.enabled = true := by
    by_contra hoff
    rw [Bool.not_eq_true] at hoff
    rw [hoff] at hloop
    have hstate : (tick P E s).state = (refreshContext P E s).state := hloop
    have hon := h.enabled
    rw [hstate, hoff] at hon
    cases hon
  rw [henabled] at hloop
  obtain ⟨hres, hstate⟩ := hloop
  obtain ⟨hretuned, -, hset⟩ := applyClocks_ok hP (by decide) hres hstate.symm
  have htarget : (refreshContext P E s).state.getHz m = .ok hz :=
    (hretuned.getHz m).symm.trans h.target
  have hfreq : (refreshContext P E s).state.context.freqs m = (clocksLeft P s E).2 m := by
    rw [← hclocks]
  have hhw : (refreshContext P E s).state.hw = (clocksLeft P s E).1 := by
    rw [← hclocks]
  have hneeds : (refreshContext P E s).state.needsSetting m hz =
      decide (hz ≠ (clocksLeft P s E).2 m) := by
    have hgov := (hretuned.isHandledByGovernor m).symm.trans h.notGoverned
    have hskip := (hretuned.skipBoost m hz).symm.trans h.notSkipped
    unfold needsSetting
    rw [hgov, hskip, hfreq]
    simp [h.target_ne]
  rw [hset m (SysClkModule.mem_all m) hz htarget, hneeds, hhw, overlooked_iff hP]
  by_cases hsame : hz = (clocksLeft P s E).2 m
  · simp [← hsame]
  · simp [hsame, Ne.symm hsame]

/-- **Every module runs at its target** after every tick of a session that has noticed a change
iff no tick of the session overlooks a module. -/
theorem tick_applies_iff (hP : Honours P) (s : ClockManager H) (cs : List (Call H)) :
    (∀ v ∈ visits (serve P) s cs, ∀ E, v.2 = .tick E → ∀ m hz, Due P v.1 E m hz →
        P.getClockRate (tick P E v.1).state.hw m = hz) ↔
      ∀ v ∈ visits (serve P) s cs, ∀ E, v.2 = .tick E → ∀ m hz, Due P v.1 E m hz →
        ¬ Overlooked P v.1 E m hz :=
  forall₂_congr fun _ _ => forall₂_congr fun _ _ => forall₂_congr fun _ _ =>
    forall_congr' fun hdue => runs_iff_not_overlooked hP hdue

/-! ## An override that agrees with the configuration is removed -/

/-- On the charger, in a title whose CPU is configured to run at 1224 MHz. -/
def onChargerInTitle : Environment :=
  { onCharger 0x100 with
    iniModificationTime := 1
    iniEntries := [("0100000000001000".toList, "handheld_cpu".toList, "1224".toList)] }

def removedOverride : List (Call (SysClkModule → UInt32)) :=
  [.setEnabled true, .tick onChargerInTitle, .waitForNextTick onChargerInTitle,
    .setOverride .cpu 1224000000, .tick onChargerInTitle, .waitForNextTick onChargerInTitle,
    .setOverride .cpu 0, .tick onChargerInTitle]

theorem tick_applies_iff_removedOverride :
    (∀ v ∈ visits (serve Hardware.exact) (new stockClocks false false stockHardware)
        removedOverride, ∀ E, v.2 = .tick E → ∀ m hz, Due Hardware.exact v.1 E m hz →
        Hardware.exact.getClockRate (tick Hardware.exact E v.1).state.hw m = hz) ↔
      ∀ v ∈ visits (serve Hardware.exact) (new stockClocks false false stockHardware)
        removedOverride, ∀ E, v.2 = .tick E → ∀ m hz, Due Hardware.exact v.1 E m hz →
        ¬ Overlooked Hardware.exact v.1 E m hz :=
  tick_applies_iff honours_exact _ _

/-- Without the override the CPU should go on at 1224 MHz; it is left at stock, 1020 MHz. -/
theorem removedOverride_leaves_stock :
    ¬ ∀ v ∈ visits (serve Hardware.exact) (new stockClocks false false stockHardware)
        removedOverride, ∀ E, v.2 = .tick E → ∀ m hz, Due Hardware.exact v.1 E m hz →
      Hardware.exact.getClockRate (tick Hardware.exact E v.1).state.hw m = hz := by
  intro h
  have hmem : ∃ v ∈ visits (serve Hardware.exact) (new stockClocks false false stockHardware)
      removedOverride, v.2.tickWith fun E => Due Hardware.exact v.1 E .cpu 1224000000 ∧
        (tick Hardware.exact E v.1).state.hw .cpu = 1020000000 := by
    decide +kernel
  obtain ⟨v, hv, htick⟩ := hmem
  obtain ⟨E, hE, hmissed⟩ := Call.exists_of_tickWith htick
  obtain ⟨hdue, hstock⟩ := of_decide_eq_true hmissed
  have hclock := h v hv E hE .cpu 1224000000 hdue
  rw [show Hardware.exact.getClockRate _ _ = _ from hstock] at hclock
  cases hclock

end SwitchOc.SysClk.ClockManager
